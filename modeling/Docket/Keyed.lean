/-!
# Collections ordered by a key

A `Keyed key` holds values with pairwise different keys and lists them in increasing order of the
keys.  Its view is the look-up `get?`: each operation is described by what it does to the answer for
every key, and two collections with the same answers are equal (`Keyed.ext_get?`).

A `Table` is a collection of named values, and a `NameSet` one of the names themselves.
-/

namespace Docket

/-- Values with pairwise different keys, in increasing order of the keys. -/
structure Keyed {α κ : Type} [LT κ] (key : α → κ) where
  items : List α
  increasing : items.Pairwise fun a b => key a < key b
  deriving Repr

namespace Keyed

variable {α κ : Type} [LT κ] {key : α → κ}

theorem ext_items {s t : Keyed key} (h : s.items = t.items) : s = t := by
  cases s; cases t; cases h; rfl

instance [DecidableEq α] : DecidableEq (Keyed key) := fun s t =>
  decidable_of_iff (s.items = t.items) ⟨ext_items, fun h => h ▸ rfl⟩

def empty : Keyed key := ⟨[], .nil⟩

instance : Inhabited (Keyed key) := ⟨empty⟩
instance : EmptyCollection (Keyed key) := ⟨empty⟩

def size (s : Keyed key) : Nat := s.items.length

def isEmpty (s : Keyed key) : Bool := s.items.isEmpty

def filter (p : α → Bool) (s : Keyed key) : Keyed key :=
  ⟨s.items.filter p, s.increasing.filter p⟩

section Lookup

variable [DecidableEq κ]

def get? (s : Keyed key) (k : κ) : Option α := s.items.find? fun a => key a = k

def contains (s : Keyed key) (k : κ) : Bool := s.items.any fun a => key a = k

def erase (k : κ) (s : Keyed key) : Keyed key := s.filter fun a => key a ≠ k

@[simp] theorem get?_empty (k : κ) : (empty : Keyed key).get? k = none := rfl

theorem key_of_get? {s : Keyed key} {k : κ} {a : α} (h : s.get? k = some a) : key a = k := by
  simpa using List.find?_some h

theorem mem_of_get? {s : Keyed key} {k : κ} {a : α} (h : s.get? k = some a) : a ∈ s.items :=
  List.mem_of_find?_eq_some h

theorem contains_eq (s : Keyed key) (k : κ) : s.contains k = (s.get? k).isSome := by
  simp only [contains, get?, List.isSome_find?]

theorem get?_erase (s : Keyed key) (k l : κ) :
    (s.erase k).get? l = if l = k then none else s.get? l := by
  simp only [erase, filter, get?, List.find?_filter]
  split
  · next h => simp [h]
  · next h =>
    congr 1
    funext a
    by_cases hk : key a = l <;> simp [hk, h]

end Lookup

section Put

variable [DecidableLT κ] [DecidableEq κ]

/-- Puts a value into its place in a list, in place of one with the same key. -/
def put (key : α → κ) (a : α) : List α → List α
  | [] => [a]
  | b :: rest =>
    if key a < key b then a :: b :: rest
    else if key a = key b then a :: rest
    else b :: put key a rest

theorem mem_put {a b : α} {l : List α} (h : b ∈ put key a l) : b = a ∨ b ∈ l := by
  induction l with
  | nil => exact Or.inl (by simpa [put] using h)
  | cons c rest ih =>
    unfold put at h
    split at h
    · simpa using h
    · split at h
      · simp only [List.mem_cons] at h ⊢
        exact h.imp_right Or.inr
      · simp only [List.mem_cons] at h ⊢
        rcases h with h | h
        · exact Or.inr (Or.inl h)
        · exact (ih h).imp_right Or.inr

theorem find?_put (a : α) (l : List α) (k : κ) :
    (put key a l).find? (fun b => key b = k) =
      if key a = k then some a else l.find? (fun b => key b = k) := by
  induction l with
  | nil =>
    unfold put
    split <;> simp_all
  | cons b rest ih =>
    unfold put
    split
    · next hab =>
      by_cases h : key a = k <;> simp [h]
    · split
      · next he =>
        by_cases h : key a = k
        · simp [h]
        · simp [h, show key b ≠ k from he ▸ h]
      · next hne =>
        by_cases hb : key b = k
        · simp [hb, show key a ≠ k from hb ▸ hne]
        · rw [List.find?_cons_of_neg (by simpa using hb), ih,
            List.find?_cons_of_neg (by simpa using hb)]

end Put

section Order

variable [LE κ] [Std.IsLinearOrder κ] [Std.LawfulOrderLT κ] [DecidableLT κ] [DecidableEq κ]

theorem increasing_put (a : α) {l : List α} (h : l.Pairwise fun a b => key a < key b) :
    (put key a l).Pairwise fun a b => key a < key b := by
  induction l with
  | nil => simp [put]
  | cons b rest ih =>
    obtain ⟨hb, hr⟩ := List.pairwise_cons.1 h
    unfold put
    split
    · next hab =>
      refine List.pairwise_cons.2 ⟨fun c hc => ?_, h⟩
      rcases List.mem_cons.1 hc with rfl | hc
      · exact hab
      · exact Std.lt_trans hab (hb c hc)
    · next hab =>
      split
      · next he => exact List.pairwise_cons.2 ⟨fun c hc => he ▸ hb c hc, hr⟩
      · next hne =>
        refine List.pairwise_cons.2 ⟨fun c hc => ?_, ih hr⟩
        rcases mem_put hc with rfl | hc
        · rcases Std.lt_trichotomy (key c) (key b) with h | h | h
          · exact absurd h hab
          · exact absurd h hne
          · exact h
        · exact hb c hc

/-- Adds a value, in place of one with the same key. -/
def insert (a : α) (s : Keyed key) : Keyed key := ⟨put key a s.items, increasing_put a s.increasing⟩

/-- The values of a list, the last of those with equal keys. -/
def ofList (l : List α) : Keyed key := l.foldl (fun s a => s.insert a) empty

/-- A collection answers for a new value as that value, and as before for every other key. -/
theorem get?_insert (s : Keyed key) (a : α) (k : κ) :
    (s.insert a).get? k = if key a = k then some a else s.get? k :=
  find?_put a s.items k

end Order

section Extensionality

variable [LE κ] [Std.LawfulOrderLT κ] [DecidableEq κ]

theorem get?_of_mem {s : Keyed key} {a : α} (h : a ∈ s.items) : s.get? (key a) = some a := by
  obtain ⟨l, hl⟩ := s
  simp only [get?] at h ⊢
  induction l with
  | nil => simp at h
  | cons b rest ih =>
    obtain ⟨hb, hr⟩ := List.pairwise_cons.1 hl
    rcases List.mem_cons.1 h with rfl | h
    · simp
    · rw [List.find?_cons_of_neg, ih hr h]
      intro he
      have : key b < key a := hb a h
      rw [of_decide_eq_true he] at this
      exact Std.lt_irrefl this

theorem get?_filter (s : Keyed key) (p : α → Bool) (k : κ) :
    (s.filter p).get? k = (s.get? k).filter p := by
  cases h : s.get? k with
  | none =>
    have hne := List.find?_eq_none.1 h
    exact List.find?_eq_none.2 fun a ha => hne a (List.mem_filter.1 ha).1
  | some a =>
    obtain rfl := key_of_get? h
    by_cases hp : p a = true
    · rw [Option.filter_some, if_pos hp]
      exact get?_of_mem (List.mem_filter.2 ⟨mem_of_get? h, hp⟩)
    · rw [Option.filter_some, if_neg hp]
      refine List.find?_eq_none.2 fun b hb hk => hp ?_
      obtain ⟨hb, hpb⟩ := List.mem_filter.1 hb
      have hs := get?_of_mem hb
      rw [of_decide_eq_true hk, h] at hs
      cases hs
      exact hpb

variable [Std.IsLinearOrder κ]

theorem ext_get? {s t : Keyed key} (h : ∀ k, s.get? k = t.get? k) : s = t := by
  have mem : ∀ {s t : Keyed key}, (∀ k, s.get? k = t.get? k) → ∀ a ∈ s.items, a ∈ t.items :=
    fun h a ha => mem_of_get? (h _ ▸ get?_of_mem ha)
  have key_lt_irrefl : ∀ k : κ, ¬k < k := fun k => Std.lt_irrefl
  obtain ⟨l, hl⟩ := s
  obtain ⟨m, hm⟩ := t
  apply ext_items
  have hlm : ∀ a, a ∈ l ↔ a ∈ m := fun a => ⟨mem h a, mem (fun k => (h k).symm) a⟩
  clear h mem
  simp only
  induction l generalizing m with
  | nil =>
    cases m with
    | nil => rfl
    | cons b m => exact absurd ((hlm b).2 List.mem_cons_self) (by simp)
  | cons a l ih =>
    cases m with
    | nil => exact absurd ((hlm a).1 List.mem_cons_self) (by simp)
    | cons b m =>
      obtain ⟨ha, hl⟩ := List.pairwise_cons.1 hl
      obtain ⟨hb, hm'⟩ := List.pairwise_cons.1 hm
      have hab : a = b := by
        rcases List.mem_cons.1 ((hlm a).1 List.mem_cons_self) with h | h
        · exact h
        · rcases List.mem_cons.1 ((hlm b).2 List.mem_cons_self) with h' | h'
          · exact h'.symm
          · exact absurd (Std.lt_trans (hb a h) (ha b h')) (key_lt_irrefl _)
      subst hab
      rw [ih hl m hm' fun c => ⟨fun hc => ?_, fun hc => ?_⟩]
      · rcases List.mem_cons.1 ((hlm c).1 (List.mem_cons_of_mem _ hc)) with rfl | h
        · exact absurd (ha c hc) (key_lt_irrefl _)
        · exact h
      · rcases List.mem_cons.1 ((hlm c).2 (List.mem_cons_of_mem _ hc)) with rfl | h
        · exact absurd (hb c hc) (key_lt_irrefl _)
        · exact h

end Extensionality
end Keyed

/-! ## Named values -/

/-- Named values in increasing order of their names. -/
abbrev Table (α : Type) := Keyed (Prod.fst : String × α → String)

namespace Table

variable {α β : Type}

def value? (t : Table α) (name : String) : Option α := (t.get? name).map Prod.snd

def set (name : String) (a : α) (t : Table α) : Table α := t.insert (name, a)

def names (t : Table α) : List String := t.items.map Prod.fst

def mapValues (f : α → β) (t : Table α) : Table β :=
  ⟨t.items.map fun e => (e.1, f e.2), List.pairwise_map.2 t.increasing⟩

@[simp] theorem value?_empty (name : String) : (∅ : Table α).value? name = none := rfl

theorem value?_set (t : Table α) (name other : String) (a : α) :
    (t.set name a).value? other = if name = other then some a else t.value? other := by
  unfold value? set
  rw [Keyed.get?_insert]
  split <;> simp_all

theorem value?_erase (t : Table α) (name other : String) :
    value? (t.erase name) other = if other = name then none else t.value? other := by
  unfold value?
  rw [Keyed.get?_erase]
  split <;> rfl

end Table

/-! ## Sets of names -/

/-- Names in increasing order. -/
abbrev NameSet := Keyed (id : String → String)

namespace NameSet

/-- Adds names to a set. -/
def addAll (names : List String) (s : NameSet) : NameSet := names.foldl (fun s n => s.insert n) s

/-- Leaves names out of a set. -/
def eraseAll (names : List String) (s : NameSet) : NameSet := names.foldl (fun s n => s.erase n) s

end NameSet
end Docket
