import Docket.Time
import Mathlib.Data.List.Induction
import Mathlib.Data.List.TakeWhile
import Mathlib.Data.Nat.Notation

/-! # Instants in order

Instants are ordered by day, second and fraction.  `Instant.Proper` bounds the second and the
fraction, and every instant that is read is proper (`Instant.proper_of_read?`).  Between proper
instants in order no time is negative (`Instant.secondsSince_nonneg`), leap seconds included. -/

namespace Docket

theorem Text.natOf_lt (ds : List Char) (h : ∀ d ∈ ds, isDigit d = true) :
    natOf ds < Nat.pow 10 ds.length := by
  induction ds using List.reverseRecOn with
  | nil => decide
  | append_singleton ds d ih =>
      have hd : isDigit d = true := h d (List.mem_append_right _ (List.mem_singleton_self d))
      have hvalue : digitValue d ≤ 9 := by
        unfold isDigit at hd
        rw [Bool.and_eq_true, decide_eq_true_eq, decide_eq_true_eq] at hd
        have hle : d.toNat ≤ '9'.toNat := hd.2
        unfold digitValue
        have h0 : '0'.toNat = 48 := rfl
        have h9 : '9'.toNat = 57 := rfl
        omega
      have hbefore := ih fun e he => h e (List.mem_append_left _ he)
      rw [natOf_concat, List.length_append, List.length_singleton]
      show _ < Nat.pow 10 ds.length * 10
      omega

/-! ### Order -/

namespace Instant

instance : LE Instant :=
  ⟨fun t u => t.day < u.day ∨
    t.day = u.day ∧ (t.second < u.second ∨ t.second = u.second ∧ t.nano ≤ u.nano)⟩

variable {t u v past now : Instant}

theorem le_def : t ≤ u ↔ t.day < u.day ∨
    t.day = u.day ∧ (t.second < u.second ∨ t.second = u.second ∧ t.nano ≤ u.nano) := Iff.rfl

instance (t u : Instant) : Decidable (t ≤ u) := decidable_of_iff _ le_def.symm

protected theorem le_refl (t : Instant) : t ≤ t := .inr ⟨rfl, .inr ⟨rfl, Nat.le_refl _⟩⟩

protected theorem le_trans (h : t ≤ u) (h' : u ≤ v) : t ≤ v := by
  rw [le_def] at h h' ⊢
  omega

/-- The second is one of its day, and the fraction is one of the second or of a leap second after
it. -/
structure Proper (t : Instant) : Prop where
  second_lt : t.second < 86400
  nano_lt : t.nano < 2000000000

/-- The instant is none of a leap second. -/
structure Ordinary (t : Instant) : Prop where
  second_lt : t.second < 86400
  nano_lt : t.nano < 1000000000

/-! ### Reading -/

theorem readFraction_lt {s rest : List Char} {nano : ℕ} (h : readFraction s = some (nano, rest)) :
    nano < 1000000000 := by
  unfold readFraction at h
  split at h
  · next s' =>
    split at h
    · cases h
    · obtain ⟨rfl, _⟩ := Prod.mk.inj (Option.some.inj h)
      have hdigits := Text.natOf_lt ((s'.take 9).takeWhile Text.isDigit) fun d hd =>
        List.mem_takeWhile_imp hd
      have hlength : ((s'.take 9).takeWhile Text.isDigit).length ≤ 9 :=
        Nat.le_trans (List.takeWhile_prefix _).length_le (List.length_take_le 9 s')
      calc Text.natOf ((s'.take 9).takeWhile Text.isDigit) *
            Nat.pow 10 (9 - ((s'.take 9).takeWhile Text.isDigit).length)
          < 10 ^ ((s'.take 9).takeWhile Text.isDigit).length *
            10 ^ (9 - ((s'.take 9).takeWhile Text.isDigit).length) :=
            Nat.mul_lt_mul_of_pos_right hdigits (Nat.pow_pos (by decide))
        _ = 10 ^ 9 := by rw [← Nat.pow_add]; congr 1; omega
  · cases h
    decide

theorem proper_of_ofLocal {day offset : Int} {second nano : ℕ} {t : Instant}
    (h : ofLocal day second nano offset = some t) (hn : nano < 2000000000) : t.Proper := by
  unfold ofLocal at h
  simp only at h
  split at h
  · cases h
    refine ⟨?_, hn⟩
    show ((day * 86400 + (second : Int) - offset) % 86400).toNat < 86400
    omega
  · cases h

/-- **Every instant that is read is proper.** -/
theorem proper_of_read? {text : String} {t : Instant} (h : read? text = some t) : t.Proper := by
  unfold read? at h
  obtain ⟨⟨year, _⟩, _, h⟩ := Option.bind_eq_some_iff.mp h
  obtain ⟨_, _, h⟩ := Option.bind_eq_some_iff.mp h
  obtain ⟨⟨month, _⟩, _, h⟩ := Option.bind_eq_some_iff.mp h
  obtain ⟨_, _, h⟩ := Option.bind_eq_some_iff.mp h
  obtain ⟨⟨day, _⟩, _, h⟩ := Option.bind_eq_some_iff.mp h
  -- the mark between the date and the time is one of three, and the rest is read alike
  simp only at h
  split at h
  case h_4 => cases h
  all_goals
    obtain ⟨_, _, h⟩ := Option.bind_eq_some_iff.mp h
    obtain ⟨⟨hour, _⟩, _, h⟩ := Option.bind_eq_some_iff.mp h
    obtain ⟨_, _, h⟩ := Option.bind_eq_some_iff.mp h
    obtain ⟨⟨minute, _⟩, _, h⟩ := Option.bind_eq_some_iff.mp h
    obtain ⟨_, _, h⟩ := Option.bind_eq_some_iff.mp h
    obtain ⟨⟨second, _⟩, _, h⟩ := Option.bind_eq_some_iff.mp h
    obtain ⟨⟨nano, _⟩, hfraction, h⟩ := Option.bind_eq_some_iff.mp h
    obtain ⟨⟨offset, _⟩, _, h⟩ := Option.bind_eq_some_iff.mp h
    simp only at h
    have hlt := readFraction_lt hfraction
    split at h
    · cases h
    · split at h
      · cases h
      · split at h
        · cases h
        · refine proper_of_ofLocal h ?_
          have hsecond : nanosPerSecond.toNat = 1000000000 := rfl
          split <;> omega

/-! ### Differences -/

/-- Between instants in order, less than a second is missing for the time not to be negative.  It
can be missing if a leap second is over at midnight. -/
theorem nanosSince_gt (h : past ≤ now) (hp : past.Proper) (hn : now.Proper) :
    -nanosPerSecond < now.nanosSince past := by
  obtain ⟨hps, hpn⟩ := hp
  obtain ⟨hns, hnn⟩ := hn
  rw [le_def] at h
  unfold nanosSince nanosPerSecond
  simp only
  split
  · split <;> omega
  · split
    · split <;> omega
    · omega

/-- **No time is negative between instants in order.** -/
theorem secondsSince_nonneg (h : past ≤ now) (hp : past.Proper) (hn : now.Proper) :
    0 ≤ now.secondsSince past := by
  have hgt := nanosSince_gt h hp hn
  unfold secondsSince
  by_cases hnonneg : 0 ≤ now.nanosSince past
  · exact Int.tdiv_nonneg hnonneg (by decide)
  · -- what is missing is cut off
    have hzero : (-now.nanosSince past).tdiv nanosPerSecond = 0 :=
      Int.tdiv_eq_zero_of_lt (by omega) (by omega)
    rw [Int.neg_tdiv] at hzero
    omega

theorem secondsSince_self (t : Instant) : t.secondsSince t = 0 := by
  unfold secondsSince nanosSince
  simp

/-- Without leap seconds, the seconds since an instant are the fewer the later it was. -/
theorem secondsSince_anti (h : t ≤ u) (ht : t.Ordinary) (hu : u.Ordinary) (hn : now.Ordinary) :
    now.secondsSince u ≤ now.secondsSince t := by
  obtain ⟨hts, htn⟩ := ht
  obtain ⟨hus, hun⟩ := hu
  obtain ⟨hns, hnn⟩ := hn
  have hnanos : now.nanosSince u ≤ now.nanosSince t := by
    rw [le_def] at h
    unfold nanosSince nanosPerSecond
    simp only
    -- no leap second is counted, and what is left is linear
    split_ifs <;> omega
  exact Int.tdiv_le_tdiv (by decide) hnanos

end Instant

end Docket
