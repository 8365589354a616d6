import Docket.Proofs.Engine.Operation

/-! # Detours

A jump may mark the status that it leaves, and the next jump back comes to the status that was marked
last.  So jumps with a mark and jumps back belong together like brackets, with jumps without a mark
in between.

* `Balanced` says it of moves one after the other, at any depth, and `Detour` is a pair with what
  stands between the two.
* `Scene.Travels` says that all of the moves move the record and that some marks at the bottom of the
  stack stay where they are meanwhile.  It is put together from single moves
  (`Scene.Travels.append`), and what is balanced travels above all the marks that it finds
  (`Balanced.travels`).
* `Scene.detour_returns` says that a detour comes back. -/

namespace Docket

/-! ### Moves one after the other -/

theorem Leads.marked {target : String} {mark : Bool} (h : target ≠ previous) (hmark : mark = true)
    (a : Place) : Leads target mark a ⟨target, a.status :: a.marks⟩ := by
  subst hmark
  exact .onward a h

theorem Leads.unmarked {target : String} {mark : Bool} (h : target ≠ previous) (hmark : mark = false)
    (a : Place) : Leads target mark a ⟨target, a.marks⟩ := by
  subst hmark
  exact .onward a h

namespace Scene

variable (s : Scene) {item : Item} {m : Move} {p : Pass}

/-- The pass after moves that items ask for one after the other, and what becomes of each. -/
def moveAll : List (Item × Move) → Pass → Pass × List MoveResult
  | [], p => (p, [])
  | (item, m) :: rest, p =>
    let first := s.move item m p
    let others := moveAll rest first.1
    (others.1, first.2 :: others.2)

theorem moveAll_append (first others : List (Item × Move)) (p : Pass) :
    s.moveAll (first ++ others) p =
      ((s.moveAll others (s.moveAll first p).1).1,
        (s.moveAll first p).2 ++ (s.moveAll others (s.moveAll first p).1).2) := by
  induction first generalizing p with
  | nil => rfl
  | cons step rest ih =>
      simp only [List.cons_append, moveAll]
      rw [ih]

variable {s}

/-- A move that has somewhere to go goes there, as long as moves are left. -/
theorem move_of_leads {next : Place} (hleft : p.hops < s.engine.settings.maxHops)
    (hleads : Leads m.target m.mark p.record.place next) :
    s.move item m p = (s.arrive item p m.origin next, .moved) := by
  unfold move
  rw [if_neg (Nat.not_le_of_lt hleft)]
  generalize htarget : m.target = target at hleads
  generalize hplace : p.record.place = place at hleads
  cases hleads with
  | onward _ hne =>
      rw [Marks.resolve_of_ne hne, ← hplace]
      rfl
  | back status next rest heq =>
      obtain rfl : p.record.status = status := congrArg Place.status hplace
      have hmarks : p.record.marks = next :: rest := congrArg Place.marks hplace
      rw [heq, hmarks, Marks.resolve_previous_cons]
      rfl

theorem moveAll_single {next : Place} (hleft : p.hops < s.engine.settings.maxHops)
    (hleads : Leads m.target m.mark p.record.place next) :
    s.moveAll [(item, m)] p = (s.arrive item p m.origin next, [.moved]) := by
  simp only [moveAll]
  rw [move_of_leads hleft hleads]

/-! ### Moves that belong together -/

/-- Moves that come back to the marks that they start from: moves onward without a mark, and moves
onward with a mark, each of which has its move back, at any depth. -/
inductive Balanced : List (Item × Move) → Prop
  | nil : Balanced []
  | onward {step : Item × Move} {rest : List (Item × Move)} :
      step.2.target ≠ previous → step.2.mark = false → Balanced rest → Balanced (step :: rest)
  | detour {out back : Item × Move} {inner rest : List (Item × Move)} :
      out.2.target ≠ previous → out.2.mark = true → Balanced inner → back.2.target = previous →
      Balanced rest → Balanced (out :: inner ++ [back] ++ rest)

/-- A move onward with a mark, moves that belong together, and the move back to the mark. -/
inductive Detour : List (Item × Move) → Prop
  | mk {out back : Item × Move} {inner : List (Item × Move)} :
      out.2.target ≠ previous → out.2.mark = true → Balanced inner → back.2.target = previous →
      Detour (out :: inner ++ [back])

/-- From the pass on, all of the moves move the record, and the marks below stay where they are
after each of them. -/
structure Travels (s : Scene) (below : Marks) (moves : List (Item × Move)) (p : Pass) : Prop where
  moved : (s.moveAll moves p).2 = List.replicate moves.length .moved
  hops : (s.moveAll moves p).1.hops = p.hops + moves.length
  above : ∀ done, done <+: moves → below <:+ (s.moveAll done p).1.record.marks

namespace Travels

variable {s : Scene} {below : Marks} {first others moves : List (Item × Move)} {p : Pass}

theorem nil (h : below <:+ p.record.marks) : s.Travels below [] p where
  moved := rfl
  hops := rfl
  above done hdone := by
    rw [List.prefix_nil.mp hdone]
    exact h

theorem single {item : Item} {m : Move} {next : Place} (hleft : p.hops < s.engine.settings.maxHops)
    (hleads : Leads m.target m.mark p.record.place next) (hbefore : below <:+ p.record.marks)
    (hafter : below <:+ next.marks) : s.Travels below [(item, m)] p where
  moved := by
    rw [moveAll_single hleft hleads]
    rfl
  hops := by
    rw [moveAll_single hleft hleads]
    rfl
  above done hdone := by
    rcases List.prefix_cons_iff.mp hdone with rfl | ⟨none, rfl, hnone⟩
    · exact hbefore
    · rw [List.prefix_nil.mp hnone, moveAll_single hleft hleads]
      exact hafter

theorem append (h : s.Travels below first p) (h' : s.Travels below others (s.moveAll first p).1) :
    s.Travels below (first ++ others) p where
  moved := by
    rw [moveAll_append, h.moved, h'.moved, List.length_append, List.replicate_add]
  hops := by
    rw [moveAll_append, h'.hops, h.hops, List.length_append, Nat.add_assoc]
  above done hdone := by
    rcases List.prefix_or_prefix_of_prefix hdone (List.prefix_append first others) with hd | hd
    · exact h.above done hd
    · obtain ⟨more, rfl⟩ := hd
      rw [moveAll_append]
      exact h'.above more ((List.prefix_append_right_inj first).mp hdone)

theorem mono {lower : Marks} (h : s.Travels below moves p) (hlower : lower <:+ below) :
    s.Travels lower moves p :=
  ⟨h.moved, h.hops, fun done hdone => hlower.trans (h.above done hdone)⟩

end Travels

variable {s : Scene} {out back : Item × Move} {inner : List (Item × Move)} {p : Pass}

/-- A move onward with a mark and its move back, around moves that leave the marks as they find
them: the record comes back to its place, and the mark lies above the others until then. -/
theorem returns_of_inner (hout : out.2.target ≠ previous) (hmark : out.2.mark = true)
    (hback : back.2.target = previous)
    (hlimit : p.hops + (out :: inner ++ [back]).length ≤ s.engine.settings.maxHops)
    (hinner : ∀ q : Pass, q.hops + inner.length ≤ s.engine.settings.maxHops →
      s.Travels q.record.marks inner q ∧ (s.moveAll inner q).1.record.marks = q.record.marks) :
    (s.moveAll (out :: inner ++ [back]) p).1.record.place = p.record.place ∧
      s.Travels p.record.marks (out :: inner ++ [back]) p ∧
      ∀ done, done <+: out :: inner → done ≠ [] →
        p.record.status :: p.record.marks <:+ (s.moveAll done p).1.record.marks := by
  obtain ⟨item, m⟩ := out
  obtain ⟨item', m'⟩ := back
  simp only [List.length_append, List.length_cons, List.length_nil] at hlimit
  have hbelow : p.record.marks <:+ p.record.status :: p.record.marks := List.suffix_cons ..
  have hleads := Leads.marked hout hmark p.record.place
  have hleft : p.hops < s.engine.settings.maxHops := by omega
  -- first the pass after the mark was made, then the one before it is taken back
  have hfirst : s.Travels p.record.marks [(item, m)] p :=
    .single hleft hleads List.suffix_rfl hbelow
  obtain ⟨htravels, hkept⟩ := hinner (s.moveAll [(item, m)] p).1 (by
    rw [hfirst.hops, List.length_singleton]
    omega)
  rw [show (s.moveAll [(item, m)] p).1.record.marks = p.record.status :: p.record.marks by
    rw [moveAll_single hleft hleads]; rfl] at htravels hkept
  have hboth : s.Travels p.record.marks ([(item, m)] ++ inner) p :=
    hfirst.append (htravels.mono hbelow)
  have hmarks : (s.moveAll ([(item, m)] ++ inner) p).1.record.marks =
      p.record.status :: p.record.marks := by
    rw [moveAll_append]
    exact hkept
  have hhops := hboth.hops
  simp only [List.length_append, List.length_singleton] at hhops
  generalize hq : (s.moveAll ([(item, m)] ++ inner) p).1 = q at hmarks hhops
  have hleft' : q.hops < s.engine.settings.maxHops := by omega
  have hleads' : Leads m'.target m'.mark q.record.place p.record.place := by
    unfold Record.place
    rw [hmarks]
    exact .back _ _ _ hback
  have hlast : s.Travels p.record.marks [(item', m')] q :=
    .single hleft' hleads' (hmarks ▸ hbelow) List.suffix_rfl
  refine ⟨?_, hboth.append (hq ▸ hlast), fun done hdone hne => ?_⟩
  · show (s.moveAll ([(item, m)] ++ inner ++ [(item', m')]) p).1.record.place = _
    rw [moveAll_append, hq, moveAll_single hleft' hleads']
    rfl
  · rcases List.prefix_cons_iff.mp hdone with rfl | ⟨rest, rfl, hrest⟩
    · exact absurd rfl hne
    · rw [show (item, m) :: rest = [(item, m)] ++ rest from rfl, moveAll_append]
      exact htravels.above rest hrest

/-- **What is balanced keeps the marks.**  All of the moves move the record, above the marks that
they find. -/
theorem Balanced.travels {moves : List (Item × Move)} (h : Balanced moves)
    (p : Pass) (hlimit : p.hops + moves.length ≤ s.engine.settings.maxHops) :
    s.Travels p.record.marks moves p ∧ (s.moveAll moves p).1.record.marks = p.record.marks := by
  induction h generalizing p with
  | nil => exact ⟨.nil List.suffix_rfl, rfl⟩
  | @onward step rest htarget hmark _ ih =>
      obtain ⟨item, m⟩ := step
      rw [List.length_cons] at hlimit
      have hleft : p.hops < s.engine.settings.maxHops := by omega
      have hleads := Leads.unmarked htarget hmark p.record.place
      have hplace : (s.moveAll [(item, m)] p).1.record.marks = p.record.marks := by
        rw [moveAll_single hleft hleads]
        rfl
      have hfirst : s.Travels p.record.marks [(item, m)] p :=
        .single hleft hleads List.suffix_rfl List.suffix_rfl
      obtain ⟨htravels, hkept⟩ := ih (s.moveAll [(item, m)] p).1 (by
        rw [hfirst.hops, List.length_singleton]
        omega)
      rw [hplace] at htravels hkept
      refine ⟨hfirst.append htravels, ?_⟩
      rw [show (item, m) :: rest = [(item, m)] ++ rest from rfl, moveAll_append]
      exact hkept
  | @detour out back inner rest hout hmark _ hback _ ih ih' =>
      rw [List.length_append] at hlimit
      obtain ⟨hplace, hfirst, _⟩ :=
        returns_of_inner (p := p) hout hmark hback (by omega) ih
      have hmarks : (s.moveAll (out :: inner ++ [back]) p).1.record.marks = p.record.marks :=
        congrArg Place.marks hplace
      obtain ⟨htravels, hkept⟩ := ih' (s.moveAll (out :: inner ++ [back]) p).1 (by
        rw [hfirst.hops]
        omega)
      rw [hmarks] at htravels hkept
      refine ⟨hfirst.append htravels, ?_⟩
      rw [moveAll_append]
      exact hkept

/-- **A marked detour comes back.**  Within the limit, a move onward with a mark, any moves that
belong together and the move back to the mark lead the record back to its status and its marks.  All
of them move the record.  The marks that were there stay where they are after each move, and until
the last one the status that was left lies marked on top of them. -/
theorem detour_returns (s : Scene) (p : Pass) {moves : List (Item × Move)} (h : Detour moves)
    (hlimit : p.hops + moves.length ≤ s.engine.settings.maxHops) :
    (s.moveAll moves p).1.record.status = p.record.status ∧
      (s.moveAll moves p).1.record.marks = p.record.marks ∧
      (s.moveAll moves p).2 = List.replicate moves.length .moved ∧
      (∀ done, done <+: moves → p.record.marks <:+ (s.moveAll done p).1.record.marks) ∧
      ∀ done, done <+: moves → done ≠ [] → done ≠ moves →
        p.record.status :: p.record.marks <:+ (s.moveAll done p).1.record.marks := by
  cases h with
  | @mk out back inner hout hmark hinner hback =>
      obtain ⟨hplace, htravels, hmarked⟩ :=
        returns_of_inner hout hmark hback hlimit fun q hq => hinner.travels q hq
      refine ⟨congrArg Place.status hplace, congrArg Place.marks hplace, htravels.moved,
        htravels.above, fun done hdone hne hpart => hmarked done ?_ hne⟩
      exact (List.prefix_concat_iff.mp hdone).resolve_left hpart

end Scene

namespace Sample

/-- A move of an item without a condition. -/
def hop (target : String) (mark : Bool) : Item × Scene.Move :=
  (item "hop" (.jump ⟨target, mark, .immediate⟩), ⟨target, mark, .automatic⟩)

/-- Out for advice, on without a mark, on another detour inside of the first, and back twice. -/
def errands : List (Item × Scene.Move) :=
  hop "advice" true :: [hop "closed" false, hop "draft" true, hop "advice" false, hop previous true] ++
    [hop previous false]

theorem errands_detour : Scene.Detour errands := by
  have hadvice : Scene.Balanced [hop "advice" false] := .onward (by decide) rfl .nil
  have hagain : Scene.Balanced [hop "draft" true, hop "advice" false, hop previous true] :=
    .detour (by decide) rfl hadvice rfl .nil
  exact .mk (by decide) rfl (.onward (by decide) rfl hagain) rfl

/-- The request with a mark that it had before. -/
def marked : Pass := .start { record with marks := ["closed"] } world

end Sample

/-- The request comes back from its errands, with the mark that it had before. -/
theorem Scene.detour_returns_sample :
    Detour Sample.errands ∧
      Sample.marked.hops + Sample.errands.length ≤ (Sample.scene "ada").engine.settings.maxHops ∧
      ((Sample.scene "ada").moveAll Sample.errands Sample.marked).1.record.status = "draft" ∧
      ((Sample.scene "ada").moveAll Sample.errands Sample.marked).1.record.marks = ["closed"] ∧
      ((Sample.scene "ada").moveAll (Sample.errands.take 3) Sample.marked).1.record.marks =
        ["closed", "draft", "closed"] := by
  have hlimit : Sample.marked.hops + Sample.errands.length ≤
      (Sample.scene "ada").engine.settings.maxHops := by decide +kernel
  obtain ⟨hstatus, hmarks, _⟩ :=
    (Sample.scene "ada").detour_returns Sample.marked Sample.errands_detour hlimit
  exact ⟨Sample.errands_detour, hlimit, hstatus, hmarks, by decide +kernel⟩

end Docket
