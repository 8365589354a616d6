import Docket.Proofs.Service.Commits

/-! # No update is lost

Requests work on records at the same time, and each of them loads a record, runs its pass and saves
what came of it.  Every pass runs on the version that was saved just before its own.

* `Requests.Chain` links what is saved of a record: each commit starts from the version before it.
* `Traffic.Chained` says that what is kept is linked, and `Traffic.Moved.chained` is its step.
* `Traffic.nothing_lost` is the statement about all runs.  What passes wrote into the history of a
  record is all there, once and in the order of the saves; failed requests save nothing; and every
  look sees a version that was kept. -/

namespace Docket

/-! ### What is kept of a record -/

namespace Requests

/-- New records are new: there is none with their identifier, and no two are made with one. -/
structure Fresh (rs : Requests) (s : Service) : Prop where
  new : ∀ {n : ℕ}, (rs.task n).creates = true → s.version? (rs.task n).recordId = none
  apart : ∀ {n m : ℕ}, (rs.task n).creates = true → (rs.task m).creates = true →
    (rs.task n).recordId = (rs.task m).recordId → n = m

/-- The commits lead from one version of a record to another: the pass of each starts from the
version before it, and what it came to is the next version. -/
inductive Chain (rs : Requests) (first? : Option Record) : List Commit → Option Record → Prop
  | nil : Chain rs first? [] first?
  | concat {commits : List Commit} {last? : Option Record} {c : Commit} :
      Chain rs first? commits last? → (rs.task c.task).StartsFrom c.graph last? c.base →
      Chain rs first? (commits ++ [c]) (some c.result.record)

namespace Chain

variable {rs : Requests} {s : Service} {trace : Trace} {first? last? : Option Record}
  {commits : List Commit} {r : Record}

theorem last_eq (h : rs.Chain first? commits (some r)) :
    first? = some r ∨ ∃ c ∈ commits, c.result.record = r := by
  cases h with
  | nil => exact Or.inl rfl
  | concat => exact Or.inr ⟨_, List.mem_append_right _ (List.mem_singleton_self _), rfl⟩

theorem history (h : rs.Chain first? commits last?) (hdone : ∀ c ∈ commits, c.Done rs s trace) :
    last?.elim [] Record.history =
      first?.elim [] Record.history ++ commits.flatMap Commit.added := by
  induction h with
  | nil => rw [List.flatMap_nil, List.append_nil]
  | @concat commits last? c _ hstart ih =>
      have hc := hdone c (List.mem_append_right _ (List.mem_singleton_self _))
      have hinit := ih fun c hc => hdone c (List.mem_append_left _ hc)
      show c.result.record.history = _
      rw [hc.history, hstart.history, hinit, List.flatMap_append, List.flatMap_singleton,
        List.append_assoc]

end Chain

end Requests

namespace Traffic

variable {rs : Requests} {s : Service} {t u : Traffic} {n m : ℕ} {id : Uuid}

/-- What is kept of every record is what commits made of it one after the other; a record that is
still to be created is not there; and a look has seen a version that was kept. -/
structure Chained (rs : Requests) (s : Service) (t : Traffic) : Prop where
  commits : ∀ id, ∃ commits : List Commit, commits.map Commit.save = t.trace.versions id ∧
    rs.Chain (s.version? id) commits (t.service.version? id) ∧ ∀ c ∈ commits, c.Done rs s t.trace
  unborn : ∀ {n : ℕ}, (rs.task n).creates = true → (t.stage n).stored? = none →
    t.service.version? (rs.task n).recordId = none
  seen : ∀ {n : ℕ} {r : Record}, (t.sight n).record? = some r →
    s.version? (rs.look n).recordId = some r ∨
      ∃ save ∈ t.trace.versions (rs.look n).recordId, save.2.record = r

theorem chained_start (h : rs.Fresh s) : (start s).Chained rs s where
  commits _ := ⟨[], rfl, .nil, fun _ hc => nomatch hc⟩
  unborn hc _ := h.new hc
  seen h := nomatch h

namespace Chained

variable {service : Service} {after : Stage}

/-! What is kept after a step of the task `n`. -/

theorem commits_advance (h : t.Chained rs s) (hsound : t.Sound rs s)
    (hstep : t.service.Stepped (rs.task n) (t.stage n) service after) (id : Uuid) :
    ∃ commits : List Commit,
      commits.map Commit.save = (t.advance n service after).trace.versions id ∧
      rs.Chain (s.version? id) commits (service.version? id) ∧
      ∀ c ∈ commits, c.Done rs s (t.advance n service after).trace := by
  obtain ⟨commits, hmap, hchain, hdone⟩ := h.commits id
  rw [advance_trace]
  rcases hstep.saves n with ⟨result, hstage, rfl, hsave⟩ | ⟨hnone, -, hstore⟩
  · obtain ⟨g, r, hfetch, hc⟩ := hsound.passed hstage
    have hevent : Event.save? (.step n (t.stage n) (.saved result.outcome.jobs result)) =
        some (n, result) := by
      rw [hstage]
      rfl
    rw [Trace.versions_of_some hevent]
    by_cases hid : result.record.id = id
    · subst hid
      have hnew : (rs.task n).creates = true → t.service.version? (rs.task n).recordId = none :=
        fun hn => h.unborn hn (by rw [hstage]; rfl)
      have hstart := Service.startsFrom_of_fetch hfetch hnew
      rw [← hsound.record_id hstage] at hstart
      refine ⟨commits ++ [⟨n, g, r, result⟩], ?_, ?_, fun c hmem => ?_⟩
      · rw [List.map_append, hmap, if_pos rfl]
        rfl
      · rw [Service.version?_of_load ((Store.load_save hsave _).trans (if_pos rfl))]
        exact hchain.concat hstart
      · rcases List.mem_append.mp hmem with hmem | hmem
        · exact (hdone c hmem).mono _
        · rw [List.mem_singleton.mp hmem]
          exact hc.mono _
    · refine ⟨commits, ?_, ?_, fun c hmem => (hdone c hmem).mono _⟩
      · rw [hmap, if_neg hid, List.append_nil]
      · rw [Service.version?_congr ((Store.load_save hsave id).trans (if_neg hid))]
        exact hchain
  · refine ⟨commits, ?_, ?_, fun c hmem => (hdone c hmem).mono _⟩
    · rw [hmap, Trace.versions_of_none hnone]
    · have hload : service.store.load id = t.service.store.load id := by rw [hstore]
      rw [Service.version?_congr hload]
      exact hchain

theorem unborn_advance (h : t.Chained rs s) (hsound : t.Sound rs s) (hfresh : rs.Fresh s)
    (hstep : t.service.Stepped (rs.task n) (t.stage n) service after)
    (hm : (rs.task m).creates = true)
    (hstored : ((t.advance n service after).stage m).stored? = none) :
    service.version? (rs.task m).recordId = none := by
  rcases hstep.saves n with ⟨result, hstage, rfl, hsave⟩ | ⟨-, hsame, hstore⟩
  · have hmn : m ≠ n := by
      rintro rfl
      rw [advance_self] at hstored
      cases hstored
    rw [advance_of_ne t hmn] at hstored
    have hunborn := h.unborn hm hstored
    -- what is saved is another record: a new one, or one that is there already
    have hid : (rs.task n).recordId ≠ (rs.task m).recordId := by
      intro hid
      cases hn : (rs.task n).creates with
      | true => exact hmn (hfresh.apart hn hm hid).symm
      | false =>
          obtain ⟨g, r, hfetch, -⟩ := hsound.passed hstage
          rw [← hid, Service.version?_of_fetch hfetch hn] at hunborn
          cases hunborn
    rw [Service.version?_congr ((Store.load_save hsave _).trans (if_neg ?_))]
    · exact hunborn
    · rw [hsound.record_id hstage]
      exact hid
  · have hload : service.store.load (rs.task m).recordId =
        t.service.store.load (rs.task m).recordId := by rw [hstore]
    rw [Service.version?_congr hload]
    by_cases hmn : m = n
    · subst hmn
      rw [advance_self, hsame] at hstored
      exact h.unborn hm hstored
    · rw [advance_of_ne t hmn] at hstored
      exact h.unborn hm hstored

theorem of_find (h : t.Chained rs s) {g : Graph} {r : Record}
    (hfind : t.service.find id = .ok (g, r)) :
    s.version? id = some r ∨ ∃ save ∈ t.trace.versions id, save.2.record = r := by
  obtain ⟨commits, hmap, hchain, -⟩ := h.commits id
  rw [Service.version?_of_load (Service.find_eq_ok.mp hfind).1] at hchain
  refine hchain.last_eq.imp_right ?_
  rintro ⟨c, hc, hr⟩
  exact ⟨c.save, hmap ▸ List.mem_map_of_mem hc, hr⟩

end Chained

/-- **A turn keeps the commits linked.** -/
theorem Moved.chained (hmoved : t.Moved rs u) (h : t.Chained rs s) (hsound : t.Sound rs s)
    (hfresh : rs.Fresh s) : u.Chained rs s := by
  cases hmoved with
  | @look n service after hlook =>
      obtain ⟨⟨world, rfl⟩, hrecord⟩ := hlook.cases
      refine ⟨h.commits, h.unborn, fun {m r} hm => ?_⟩
      by_cases hmn : m = n
      · subst hmn
        replace hm : after.record? = some r := by
          simpa only [Function.update_self] using hm
        rcases hrecord r hm with hr | ⟨g, hfind⟩
        · exact h.seen hr
        · exact h.of_find hfind
      · replace hm : (t.sight m).record? = some r := by
          simpa only [Function.update_of_ne hmn] using hm
        exact h.seen hm
  | @took job service htake =>
      obtain ⟨rest, -, rfl⟩ := Service.takeJob?_eq htake
      refine ⟨fun id => ?_, h.unborn, fun hm => ?_⟩
      · obtain ⟨commits, hmap, hchain, hdone⟩ := h.commits id
        refine ⟨commits, ?_, hchain, fun c hc => (hdone c hc).mono _⟩
        rw [hmap, Trace.versions_of_none rfl]
      · refine (h.seen hm).imp_right ?_
        rintro ⟨save, hsave, hr⟩
        exact ⟨save, Trace.mem_versions_append hsave _, hr⟩
  | task hstep =>
      refine ⟨h.commits_advance hsound hstep, h.unborn_advance hsound hfresh hstep, fun hm => ?_⟩
      refine (h.seen hm).imp_right ?_
      rintro ⟨save, hsave, hr⟩
      exact ⟨save, Trace.mem_versions_append hsave _, hr⟩

theorem chained_after? {turns : List Turn} (hlocks : s.locks = .empty) (hfresh : rs.Fresh s)
    (h : (start s).after? rs turns = some t) : t.Sound rs s ∧ t.Chained rs s :=
  holds_after? (P := fun t => t.Sound rs s ∧ t.Chained rs s)
    ⟨sound_start rs hlocks, chained_start hfresh⟩
    (fun hmoved h => ⟨hmoved.sound h.1, hmoved.chained h.2 h.1 hfresh⟩) h

/-- **No update is lost.**  Let any requests work with a service that nobody works with yet, new
records being new, in any order of their steps.

* What was saved of a record is what commits came to, one after the other: each is a pass that was
  done, by the workflow of the record, on the version just before it, and the last of them is what
  the service has.
* The history of the record is the one from the beginning and then what each of these passes wrote.
* A request that succeeded has saved what it answers with, once; one that failed has saved nothing.
* A look that succeeded shows the version from the beginning or one that was saved. -/
theorem nothing_lost {turns : List Turn} (hlocks : s.locks = .empty) (hfresh : rs.Fresh s)
    (h : (start s).after? rs turns = some t) :
    (∀ id, ∃ commits : List Commit,
      commits.map Commit.save = t.trace.versions id ∧
      rs.Chain (s.version? id) commits (t.service.version? id) ∧
      (∀ c ∈ commits, c.Done rs s t.trace ∧ c.result.record.history = c.base.history ++ c.added) ∧
      t.service.historyOf id = s.historyOf id ++ commits.flatMap Commit.added) ∧
    (∀ n result, t.stage n = .finished (.ok result) →
      t.trace.savedBy n = [result] ∧ (n, result) ∈ t.trace.versions (rs.task n).recordId) ∧
    (∀ n e, t.stage n = .finished (.error e) → t.trace.savedBy n = []) ∧
    ∀ n view, t.sight n = .finished (.ok view) →
      s.version? (rs.look n).recordId = some view.record ∨
        ∃ save ∈ t.trace.versions (rs.look n).recordId, save.2.record = view.record := by
  obtain ⟨hsound, hchained⟩ := chained_after? hlocks hfresh h
  refine ⟨fun id => ?_, fun n result hn => ?_, fun n e hn => ?_, fun n view hn => ?_⟩
  · obtain ⟨commits, hmap, hchain, hdone⟩ := hchained.commits id
    exact ⟨commits, hmap, hchain, fun c hc => ⟨hdone c hc, (hdone c hc).history⟩,
      hchain.history hdone⟩
  · refine ⟨?_, hsound.mem_versions.mpr ⟨rfl, by rw [hn]; rfl⟩⟩
    rw [hsound.savedBy, hn]
    rfl
  · rw [hsound.savedBy, hn]
    rfl
  · exact hchained.seen (by rw [hn]; rfl)

theorem fresh_sample : Sample.requests.Fresh Sample.service := by
  have htwo : ∀ {n : ℕ}, (Sample.requests.task n).creates = true → n = 2 := by
    intro n hn
    match n, hn with
    | 2, _ => rfl
  refine ⟨fun hn => ?_, fun hn hm _ => (htwo hn).trans (htwo hm).symm⟩
  obtain rfl := htwo hn
  decide

/-- Three tasks work on the request at the same time, and what the two of them that moved it wrote
is in its history. -/
theorem nothing_lost_sample :
    ∃ t, (start Sample.service).after? Sample.requests Sample.turns = some t ∧
      (t.trace.versions .nil).map Prod.fst = [0, 3, 1] ∧
      (t.service.historyOf .nil).map Entry.action = [some "ask", some "drop"] ∧
      ∃ commits : List Commit, commits.map Commit.save = t.trace.versions .nil ∧
        Sample.requests.Chain (Sample.service.version? .nil) commits (t.service.version? .nil) ∧
        t.service.historyOf .nil = commits.flatMap Commit.added := by
  have hrun : ((start Sample.service).after? Sample.requests Sample.turns).map (fun t =>
      ((t.trace.versions .nil).map Prod.fst, (t.service.historyOf .nil).map Entry.action)) =
      some ([0, 3, 1], [some "ask", some "drop"]) := by decide +kernel
  obtain ⟨t, ht, hfound⟩ := Option.map_eq_some_iff.mp hrun
  obtain ⟨hversions, hhistory⟩ := Prod.mk.inj hfound
  obtain ⟨hkept, -⟩ := nothing_lost rfl fresh_sample ht
  obtain ⟨commits, hmap, hchain, -, hlines⟩ := hkept .nil
  exact ⟨t, ht, hversions, hhistory, commits, hmap, hchain, hlines⟩

end Traffic
end Docket
