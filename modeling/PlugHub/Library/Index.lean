import PlugHub.Library.OrderedMap

/-!
# Counters and set-valued indexes

Two uses of an insertion-ordered map that keep a derived view of a collection: a counter
per key, whose entry disappears when it reaches zero, and an index from a key to the set
of identifiers filed under it, whose entry disappears when the set becomes empty. The
lemmas say what a reader of the view sees after one update.
-/

namespace PlugHub.Library

open OrderedMap

variable {κ ν : Type} [DecidableEq κ]

/-! ## Counters -/

/-- A counter per key; an absent key counts zero. -/
abbrev Counter (κ : Type) := OrderedMap κ Nat

namespace Counter

/-- The count of a key. -/
def read (counter : Counter κ) (key : κ) : Nat := (counter.get key).getD 0

/-- Add one to the count of a key. -/
def increment (counter : Counter κ) (key : κ) : Counter κ :=
  counter.set key (counter.read key + 1)

/-- Take one from the count of a key; a count that would not stay positive is deleted. -/
def decrement (counter : Counter κ) (key : κ) : Counter κ :=
  if 1 < counter.read key then counter.set key (counter.read key - 1) else counter.erase key

@[simp] theorem read_empty (key : κ) : read (empty : Counter κ) key = 0 := rfl

variable (counter : Counter κ)

theorem read_increment (key other : κ) :
    (counter.increment key).read other =
      counter.read other + if other = key then 1 else 0 := by
  unfold increment
  by_cases same : other = key
  · simp [read, same]
  · simp [read, get_set, same]

theorem read_decrement (key other : κ) :
    (counter.decrement key).read other =
      counter.read other - if other = key then 1 else 0 := by
  unfold decrement
  by_cases same : other = key
  · subst same
    split
    · simp [read]
    · next small =>
      have : Counter.read (counter.erase other) other = 0 := by simp [read]
      rw [this]
      simp only [↓reduceIte]
      omega
  · split
    · simp [read, get_set, same]
    · simp [read, get_erase, same]

theorem read_decrement_le (key other : κ) :
    (counter.decrement key).read other ≤ counter.read other := by
  rw [read_decrement]
  exact Nat.sub_le _ _

end Counter

/-! ## Indexes -/

/-- An index from a key to the identifiers filed under it. -/
abbrev Index (κ ν : Type) := OrderedMap κ (List ν)

namespace Index

variable [DecidableEq ν]

/-- The identifiers filed under a key, in the order in which they were filed. -/
def members (index : Index κ ν) (key : κ) : List ν := (index.get key).getD []

/-- File an identifier under a key; filing it twice changes nothing. -/
def addToIndex (index : Index κ ν) (key : κ) (value : ν) : Index κ ν :=
  match index.get key with
  | some existing => index.set key (if value ∈ existing then existing else existing ++ [value])
  | none => index.set key [value]

/-- Withdraw an identifier from a key; the key disappears with its last identifier. -/
def removeFromIndex (index : Index κ ν) (key : κ) (value : ν) : Index κ ν :=
  match index.get key with
  | none => index
  | some existing =>
    let kept := existing.filter (· ≠ value)
    if kept = [] then index.erase key else index.set key kept

omit [DecidableEq ν] in
@[simp] theorem members_empty (key : κ) : members (empty : Index κ ν) key = [] := rfl

variable (index : Index κ ν)

theorem mem_addToIndex (key other : κ) (value member : ν) :
    member ∈ (index.addToIndex key value).members other ↔
      member ∈ index.members other ∨ (other = key ∧ member = value) := by
  unfold addToIndex
  cases found : index.get key with
  | none =>
    by_cases same : other = key
    · subst same; simp [members, found]
    · simp [members, get_set, same]
  | some existing =>
    by_cases same : other = key
    · subst same
      by_cases inside : value ∈ existing
      · simp only [members, get_set_self, inside, found, if_true, Option.getD_some,
          true_and]
        constructor
        · exact Or.inl
        · rintro (old | rfl)
          · exact old
          · exact inside
      · simp [members, found, inside]
    · simp [members, get_set, same]

theorem mem_removeFromIndex (key other : κ) (value member : ν) :
    member ∈ (index.removeFromIndex key value).members other ↔
      member ∈ index.members other ∧ ¬ (other = key ∧ member = value) := by
  unfold removeFromIndex
  cases found : index.get key with
  | none =>
    by_cases same : other = key
    · subst same; simp [members, found]
    · simp [same]
  | some existing =>
    by_cases same : other = key
    · subst same
      have kept : Index.members (if existing.filter (· ≠ value) = [] then index.erase other
          else index.set other (existing.filter (· ≠ value))) other =
          existing.filter (· ≠ value) := by
        split
        · next gone => rw [gone]; simp [members]
        · simp [members]
      simp only
      rw [kept]
      simp [members, found]
    · simp only
      split
      · simp [members, get_erase, same]
      · simp [members, get_set, same]

/-- Who is filed where after an identifier is withdrawn from several keys. -/
theorem mem_foldl_removeFromIndex (keys : List κ) (other : κ)
    (value member : ν) :
    member ∈ (keys.foldl (fun index key => index.removeFromIndex key value) index).members other ↔
      member ∈ index.members other ∧ ¬ (other ∈ keys ∧ member = value) := by
  induction keys generalizing index with
  | nil => simp
  | cons key rest ih =>
    rw [List.foldl_cons, ih, mem_removeFromIndex, List.mem_cons]
    constructor
    · rintro ⟨⟨filed, first⟩, later⟩
      refine ⟨filed, ?_⟩
      rintro ⟨rfl | inside, same⟩
      · exact first ⟨rfl, same⟩
      · exact later ⟨inside, same⟩
    · rintro ⟨filed, kept⟩
      exact ⟨⟨filed, fun first => kept ⟨.inl first.1, first.2⟩⟩,
        fun later => kept ⟨.inr later.1, later.2⟩⟩

/-- The identifiers in order after a new one is filed. -/
theorem members_addToIndex {key : κ} {value : ν}
    (absent : value ∉ index.members key) (other : κ) :
    (index.addToIndex key value).members other =
      if other = key then index.members key ++ [value] else index.members other := by
  unfold addToIndex
  cases found : index.get key with
  | none =>
    by_cases same : other = key
    · simp [members, found, same]
    · simp [members, get_set, same]
  | some existing =>
    have fresh : value ∉ existing := by
      simpa [members, found] using absent
    by_cases same : other = key
    · simp [members, found, same, fresh]
    · simp [members, get_set, same]

/-- The identifiers in order after one is withdrawn. -/
theorem members_removeFromIndex (key : κ) (value : ν) (other : κ) :
    (index.removeFromIndex key value).members other =
      if other = key then (index.members key).filter (· ≠ value) else index.members other := by
  unfold removeFromIndex
  cases found : index.get key with
  | none =>
    by_cases same : other = key
    · simp [members, found, same]
    · simp [same]
  | some existing =>
    simp only
    by_cases same : other = key
    · subst same
      split
      · next gone => simpa [members, found] using gone
      · simp [members, found]
    · split
      · simp [members, get_erase, same]
      · simp [members, get_set, same]

/-- No key of the index is left with an empty set. -/
def Tight (index : Index κ ν) : Prop := ∀ key, index.get key ≠ some []

omit [DecidableEq ν] in
theorem tight_empty : Tight (empty : Index κ ν) := by
  intro key
  simp

theorem Tight.addToIndex {index : Index κ ν} (tight : index.Tight) (key : κ) (value : ν) :
    (index.addToIndex key value).Tight := by
  intro other
  unfold Index.addToIndex
  cases found : index.get key with
  | none =>
    by_cases same : other = key
    · subst same; simp
    · simp [get_set, same, tight other]
  | some existing =>
    by_cases same : other = key
    · subst same
      by_cases inside : value ∈ existing
      · simp only [get_set_self, inside, if_true]
        rw [← found]
        exact tight other
      · simp [inside]
    · simp [get_set, same, tight other]

theorem Tight.removeFromIndex {index : Index κ ν} (tight : index.Tight) (key : κ) (value : ν) :
    (index.removeFromIndex key value).Tight := by
  intro other
  unfold Index.removeFromIndex
  cases found : index.get key with
  | none => exact tight other
  | some existing =>
    simp only
    split
    · by_cases same : other = key
      · simp [same]
      · simp [get_erase, same, tight other]
    · next left =>
      by_cases same : other = key
      · subst same
        simpa using left
      · simp [get_set, same, tight other]

end Index

end PlugHub.Library
