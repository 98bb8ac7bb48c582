import Mathlib.Data.List.Nodup

/-!
# Insertion-ordered maps

A finite map whose keys keep the order in which they were first inserted: updating a
present key keeps its position, inserting an absent key appends it, and iteration
follows that order. The entries carry the proof that no key occurs twice, so a lookup,
an update and a removal speak of one entry only. Counting lemmas say how the number of
entries with a property changes under one update or one removal.
-/

namespace PlugHub.Library

/-- A finite map that remembers the insertion order of its keys. -/
structure OrderedMap (κ ν : Type) where
  entries : List (κ × ν)
  distinct : (entries.map Prod.fst).Nodup

namespace OrderedMap

variable {κ ν : Type}

/-- The map without entries. -/
def empty : OrderedMap κ ν := ⟨[], List.nodup_nil⟩

instance : Inhabited (OrderedMap κ ν) := ⟨empty⟩

/-- The stored keys in insertion order. -/
def keys (map : OrderedMap κ ν) : List κ := map.entries.map Prod.fst

/-- The stored values in insertion order of their keys. -/
def values (map : OrderedMap κ ν) : List ν := map.entries.map Prod.snd

/-- The number of entries. -/
def size (map : OrderedMap κ ν) : Nat := map.entries.length

/-- The number of entries whose key and value satisfy a test. -/
def count (map : OrderedMap κ ν) (test : κ → ν → Bool) : Nat :=
  map.entries.countP fun entry => test entry.1 entry.2

theorem eq_of_entries {left right : OrderedMap κ ν} (same : left.entries = right.entries) :
    left = right := by
  cases left
  cases right
  simp only [OrderedMap.mk.injEq] at same ⊢
  exact same

theorem size_eq_count (map : OrderedMap κ ν) : map.size = map.count fun _ _ => true := by
  simp [size, count]

variable [DecidableEq κ]

/-- The value stored under a key. -/
def get (map : OrderedMap κ ν) (key : κ) : Option ν :=
  (map.entries.find? fun entry => entry.1 = key).map Prod.snd

/-- Whether a key is stored. -/
def has (map : OrderedMap κ ν) (key : κ) : Bool := (map.get key).isSome

/-- Replace the value of one key inside a list of entries, keeping every position. -/
def replaceEntry (key : κ) (value : ν) (entries : List (κ × ν)) : List (κ × ν) :=
  entries.map fun entry => if entry.1 = key then (key, value) else entry

theorem replaceEntry_keys (key : κ) (value : ν) (entries : List (κ × ν)) :
    (replaceEntry key value entries).map Prod.fst = entries.map Prod.fst := by
  induction entries with
  | nil => rfl
  | cons entry rest ih =>
    have head : (if entry.1 = key then (key, value) else entry).1 = entry.1 := by
      split
      · next same => exact same.symm
      · rfl
    simp only [replaceEntry, List.map_cons, head] at ih ⊢
    rw [ih]

/-- Store a value: a present key keeps its position, an absent key is appended. -/
def set (map : OrderedMap κ ν) (key : κ) (value : ν) : OrderedMap κ ν :=
  if present : key ∈ map.keys then
    ⟨replaceEntry key value map.entries, by rw [replaceEntry_keys]; exact map.distinct⟩
  else
    ⟨map.entries ++ [(key, value)], by
      rw [List.map_append, List.nodup_append]
      refine ⟨map.distinct, by simp, ?_⟩
      rintro stored inside added single rfl
      simp only [List.map_cons, List.map_nil, List.mem_singleton] at single
      exact present (single ▸ inside)⟩

variable {key : κ} {value : ν}

theorem entries_set_of_present {map : OrderedMap κ ν} (present : key ∈ map.keys) :
      (map.set key value).entries = replaceEntry key value map.entries := by
  unfold set
  rw [dif_pos present]

theorem entries_set_of_absent {map : OrderedMap κ ν}
    (absent : key ∉ map.keys) : (map.set key value).entries = map.entries ++ [(key, value)] := by
  unfold set
  rw [dif_neg absent]

/-- Remove a key; the other entries keep their order. -/
def erase (map : OrderedMap κ ν) (key : κ) : OrderedMap κ ν :=
  ⟨map.entries.filter fun entry => entry.1 ≠ key,
    map.distinct.sublist (List.filter_sublist.map Prod.fst)⟩

/-- Apply a function to the value of a present key; an absent key changes nothing. -/
def modify (map : OrderedMap κ ν) (key : κ) (change : ν → ν) : OrderedMap κ ν :=
  match map.get key with
  | some value => map.set key (change value)
  | none => map

omit [DecidableEq κ] in
/-- Change every value; the keys stay where they are. -/
def mapValues (map : OrderedMap κ ν) (change : ν → ν) : OrderedMap κ ν :=
  ⟨map.entries.map fun entry => (entry.1, change entry.2), by
    have keys : (map.entries.map fun entry => (entry.1, change entry.2)).map Prod.fst =
        map.entries.map Prod.fst := by
      rw [List.map_map]
      rfl
    rw [keys]
    exact map.distinct⟩

/-! ## Lookup -/

/-- Looking a key up in a raw entry list. -/
private theorem find_entry_iff {entries : List (κ × ν)} (distinct : (entries.map Prod.fst).Nodup) :
    (entries.find? fun entry => entry.1 = key).map Prod.snd = some value ↔
      (key, value) ∈ entries := by
  induction entries with
  | nil => simp
  | cons entry rest ih =>
    obtain ⟨stored, content⟩ := entry
    simp only [List.map_cons, List.nodup_cons] at distinct
    by_cases same : stored = key
    · subst same
      have absent : (stored, value) ∉ rest := fun inside =>
        distinct.1 (List.mem_map.mpr ⟨_, inside, rfl⟩)
      simp [absent, eq_comm]
    · have other : key ≠ stored := fun h => same h.symm
      simp [same, other, ih distinct.2]

theorem get_eq_some_iff (map : OrderedMap κ ν) (key : κ) (value : ν) :
    map.get key = some value ↔ (key, value) ∈ map.entries :=
  find_entry_iff map.distinct

theorem mem_keys_iff (map : OrderedMap κ ν) (key : κ) :
    key ∈ map.keys ↔ ∃ value, map.get key = some value := by
  simp only [get_eq_some_iff, keys, List.mem_map]
  constructor
  · rintro ⟨⟨_, value⟩, inside, rfl⟩
    exact ⟨value, inside⟩
  · rintro ⟨value, inside⟩
    exact ⟨(key, value), inside, rfl⟩

theorem get_eq_none_iff (map : OrderedMap κ ν) (key : κ) :
    map.get key = none ↔ key ∉ map.keys := by
  rw [mem_keys_iff]
  cases map.get key <;> simp

@[simp] theorem get_empty (key : κ) : (empty : OrderedMap κ ν).get key = none := rfl

theorem size_pos_iff (map : OrderedMap κ ν) :
    0 < map.size ↔ ∃ key value, map.get key = some value := by
  rw [size, List.length_pos_iff_exists_mem]
  constructor
  · rintro ⟨⟨key, value⟩, inside⟩
    exact ⟨key, value, (map.get_eq_some_iff key value).mpr inside⟩
  · rintro ⟨key, value, found⟩
    exact ⟨(key, value), (map.get_eq_some_iff key value).mp found⟩

theorem get_set (map : OrderedMap κ ν) (key other : κ) (value : ν) :
    (map.set key value).get other = if other = key then some value else map.get other := by
  by_cases same : other = key
  · subst same
    rw [if_pos rfl, get_eq_some_iff]
    unfold set
    split
    · next present =>
      obtain ⟨entry, inside, keyed⟩ := List.mem_map.mp present
      exact List.mem_map.mpr ⟨entry, inside, by simp [keyed]⟩
    · simp
  · rw [if_neg same]
    apply Option.ext
    intro content
    simp only [get_eq_some_iff]
    unfold set
    split
    · simp only [replaceEntry, List.mem_map]
      constructor
      · rintro ⟨entry, inside, replaced⟩
        split at replaced
        · exact absurd (congrArg Prod.fst replaced).symm same
        · exact replaced ▸ inside
      · intro inside
        exact ⟨_, inside, if_neg same⟩
    · simp [same]

@[simp] theorem get_set_self (map : OrderedMap κ ν) (key : κ) (value : ν) :
    (map.set key value).get key = some value := by
  rw [get_set, if_pos rfl]

theorem get_set_of_ne (map : OrderedMap κ ν) {key other : κ} (value : ν) (differs : other ≠ key) :
    (map.set key value).get other = map.get other := by
  rw [get_set, if_neg differs]

/-- A record that is found after storing is the new one or was stored before. -/
theorem get_set_cases {map : OrderedMap κ ν} {key other : κ} {value found : ν}
    (present : (map.set key value).get other = some found) :
    (other = key ∧ found = value) ∨ (other ≠ key ∧ map.get other = some found) := by
  rw [get_set] at present
  by_cases same : other = key
  · rw [if_pos same] at present
    exact Or.inl ⟨same, (Option.some.inj present).symm⟩
  · rw [if_neg same] at present
    exact Or.inr ⟨same, present⟩

/-- What holds of the records that were stored, and of the new one, holds of all. -/
theorem forall_set {map : OrderedMap κ ν} {key : κ} {value : ν} {Holds : κ → ν → Prop}
    (new : Holds key value) (old : ∀ other found, map.get other = some found → Holds other found)
    (other : κ) (found : ν) (present : (map.set key value).get other = some found) :
    Holds other found := by
  rcases get_set_cases present with ⟨rfl, rfl⟩ | ⟨-, before⟩
  · exact new
  · exact old other found before

section

variable (map : OrderedMap κ ν)

theorem keys_set_of_absent (value : ν)
    (absent : map.get key = none) : (map.set key value).keys = map.keys ++ [key] := by
  rw [get_eq_none_iff] at absent
  simp only [keys, entries_set_of_absent absent, List.map_append, List.map_cons, List.map_nil]

theorem keys_set_of_present {old : ν} (value : ν)
    (found : map.get key = some old) : (map.set key value).keys = map.keys := by
  have present : key ∈ map.keys := (map.mem_keys_iff key).mpr ⟨old, found⟩
  simp only [keys, entries_set_of_present present, replaceEntry_keys]

theorem get_erase (key other : κ) :
    (map.erase key).get other = if other = key then none else map.get other := by
  apply Option.ext
  intro content
  by_cases same : other = key
  · simp [get_eq_some_iff, erase, same]
  · simp [get_eq_some_iff, erase, same]

@[simp] theorem get_erase_self (key : κ) :
    (map.erase key).get key = none := by
  rw [get_erase, if_pos rfl]

theorem get_erase_of_ne {key other : κ} (differs : other ≠ key) :
    (map.erase key).get other = map.get other := by
  rw [get_erase, if_neg differs]

theorem get_modify (key other : κ) (change : ν → ν) :
    (map.modify key change).get other =
      if other = key then (map.get key).map change else map.get other := by
  unfold modify
  split
  · next value found => simp [get_set, found]
  · next missing =>
    by_cases same : other = key
    · simp [same, missing]
    · simp [same]

theorem keys_erase (key : κ) :
    (map.erase key).keys = map.keys.filter fun stored => stored ≠ key := by
  simp only [keys, erase, List.filter_map]
  rfl

theorem modify_of_present (change : ν → ν)
    (found : map.get key = some value) : map.modify key change = map.set key (change value) := by
  simp only [modify, found]

theorem get_mapValues (change : ν → ν) (key : κ) :
    (map.mapValues change).get key = (map.get key).map change := by
  simp only [get, mapValues, List.find?_map, Option.map_map]
  rfl

end

/-! ## Sizes and counts -/

omit [DecidableEq κ] in
theorem count_mapValues (map : OrderedMap κ ν) (change : ν → ν) (test : κ → ν → Bool) :
    (map.mapValues change).count test = map.count fun key value => test key (change value) := by
  simp only [count, mapValues, List.countP_map]
  rfl

/-- Splitting the entries of a map at one stored key. -/
private theorem entries_split {map : OrderedMap κ ν} (found : map.get key = some value) :
    ∃ before after, map.entries = before ++ (key, value) :: after ∧
      (∀ entry ∈ before, entry.1 ≠ key) ∧ (∀ entry ∈ after, entry.1 ≠ key) := by
  obtain ⟨before, after, shape⟩ :=
    List.append_of_mem ((map.get_eq_some_iff key value).mp found)
  refine ⟨before, after, shape, ?_, ?_⟩
  all_goals
    intro entry inside same
    have distinct := map.distinct
    rw [shape, List.map_append, List.map_cons, List.nodup_append, List.nodup_cons] at distinct
  · exact distinct.2.2 _ (List.mem_map_of_mem inside) key (by simp) same
  · exact distinct.2.1.1 (List.mem_map.mpr ⟨entry, inside, same⟩)

private theorem replaceEntry_of_absent {entries : List (κ × ν)}
    (absent : ∀ entry ∈ entries, entry.1 ≠ key) : replaceEntry key value entries = entries := by
  unfold replaceEntry
  exact (List.map_congr_left fun entry inside => if_neg (absent entry inside)).trans
    (List.map_id' entries)

/-- Storing twice under one key keeps the second value only. -/
theorem set_set (map : OrderedMap κ ν) (key : κ) (first second : ν) :
    (map.set key first).set key second = map.set key second := by
  have now : key ∈ (map.set key first).keys :=
    (mem_keys_iff _ _).mpr ⟨first, get_set_self _ _ _⟩
  apply eq_of_entries
  rw [entries_set_of_present now]
  by_cases present : key ∈ map.keys
  · rw [entries_set_of_present present, entries_set_of_present present]
    simp only [replaceEntry, List.map_map]
    apply List.map_congr_left
    intro entry _
    by_cases same : entry.1 = key
    · simp [same]
    · simp [same]
  · rw [entries_set_of_absent present, entries_set_of_absent present]
    have absent : ∀ entry ∈ map.entries, entry.1 ≠ key := fun entry inside same =>
      present (List.mem_map.mpr ⟨entry, inside, same⟩)
    have shape : replaceEntry key second (map.entries ++ [(key, first)]) =
        replaceEntry key second map.entries ++ [(key, second)] := by
      simp [replaceEntry]
    rw [shape, replaceEntry_of_absent absent]

theorem set_of_get (map : OrderedMap κ ν)
    (found : map.get key = some value) : map.set key value = map := by
  obtain ⟨before, after, shape, beforeAbsent, afterAbsent⟩ := entries_split found
  have present : key ∈ map.keys := (map.mem_keys_iff key).mpr ⟨value, found⟩
  apply eq_of_entries
  have split : replaceEntry key value (before ++ (key, value) :: after) =
      replaceEntry key value before ++ (key, value) :: replaceEntry key value after := by
    simp [replaceEntry]
  rw [entries_set_of_present present, shape, split, replaceEntry_of_absent beforeAbsent,
    replaceEntry_of_absent afterAbsent]

/-- The entries of a map are one stored entry and the rest, up to their order. -/
theorem entries_perm {map : OrderedMap κ ν} (found : map.get key = some value) :
    map.entries.Perm ((key, value) :: (map.erase key).entries) := by
  obtain ⟨before, after, shape, beforeAbsent, afterAbsent⟩ := entries_split found
  have kept : map.entries.filter (fun entry => entry.1 ≠ key) = before ++ after := by
    rw [shape, List.filter_append, List.filter_cons]
    simp only [ne_eq, decide_not, decide_true, Bool.not_true, Bool.false_eq_true, ↓reduceIte]
    rw [List.filter_eq_self.mpr fun entry inside => by simp [beforeAbsent entry inside],
      List.filter_eq_self.mpr fun entry inside => by simp [afterAbsent entry inside]]
  simp only [erase, kept]
  rw [shape]
  exact List.perm_middle

/-- Removing a key twice, or after storing under it, is removing it once. -/
theorem erase_set (map : OrderedMap κ ν) (key : κ) (value : ν) :
    (map.set key value).erase key = map.erase key := by
  apply eq_of_entries
  by_cases present : key ∈ map.keys
  · simp only [erase, entries_set_of_present present, replaceEntry]
    induction map.entries with
    | nil => rfl
    | cons entry rest ih =>
      by_cases same : entry.1 = key
      · simpa [List.filter_cons, same] using ih
      · simpa [List.filter_cons, same] using ih
  · simp [erase, entries_set_of_absent present, List.filter_append]

theorem entries_set_perm (map : OrderedMap κ ν) (key : κ) (value : ν) :
    (map.set key value).entries.Perm ((key, value) :: (map.erase key).entries) := by
  rw [← map.erase_set key value]
  exact entries_perm (map.get_set_self key value)

/-- A change in place that a filter does not see keeps what it selects, up to order. -/
theorem filterMap_modify_perm {β : Type} (map : OrderedMap κ ν) (key : κ) (change : ν → ν)
    (select : κ × ν → Option β)
    (kept : ∀ value, map.get key = some value → select (key, change value) = select (key, value)) :
    ((map.modify key change).entries.filterMap select).Perm (map.entries.filterMap select) := by
  unfold modify
  split
  · next value found =>
    have changed := (map.entries_set_perm key (change value)).filterMap select
    have stored := (entries_perm found).filterMap select
    rw [List.filterMap_cons, kept value found] at changed
    rw [List.filterMap_cons] at stored
    exact changed.trans stored.symm
  · exact List.Perm.refl _

section

variable (map : OrderedMap κ ν)

include map

variable {key : κ}

theorem count_set_of_absent (value : ν) (test : κ → ν → Bool) (absent : map.get key = none) :
    (map.set key value).count test = map.count test + if test key value then 1 else 0 := by
  rw [get_eq_none_iff] at absent
  simp only [count, entries_set_of_absent absent, List.countP_append, List.countP_singleton]

/-- Counting after replacing the value of a present key. -/
theorem count_set_of_present {old : ν} (value : ν)
    (test : κ → ν → Bool) (found : map.get key = some old) :
    (map.set key value).count test + (if test key old then 1 else 0) =
      map.count test + if test key value then 1 else 0 := by
  obtain ⟨before, after, shape, beforeAbsent, afterAbsent⟩ := entries_split found
  have present : key ∈ map.keys := (map.mem_keys_iff key).mpr ⟨old, found⟩
  have replaced : replaceEntry key value map.entries = before ++ (key, value) :: after := by
    have split : replaceEntry key value (before ++ (key, old) :: after) =
        replaceEntry key value before ++ (key, value) :: replaceEntry key value after := by
      simp [replaceEntry]
    rw [shape, split, replaceEntry_of_absent beforeAbsent, replaceEntry_of_absent afterAbsent]
  simp only [count]
  rw [entries_set_of_present present, replaced, shape]
  simp only [List.countP_append, List.countP_cons]
  omega

theorem count_erase_of_present {old : ν} (test : κ → ν → Bool) (found : map.get key = some old) :
    (map.erase key).count test + (if test key old then 1 else 0) = map.count test := by
  have counted := (entries_perm found).countP_eq fun entry => test entry.1 entry.2
  rw [List.countP_cons] at counted
  exact counted.symm

theorem erase_of_absent (absent : map.get key = none) :
    map.erase key = map := by
  rw [get_eq_none_iff] at absent
  have kept : map.entries.filter (fun entry => entry.1 ≠ key) = map.entries :=
    List.filter_eq_self.mpr fun entry inside => by
      have : entry.1 ≠ key := fun same => absent (same ▸ List.mem_map_of_mem inside)
      simp [this]
  exact eq_of_entries kept

theorem count_pos {value : ν} {test : κ → ν → Bool}
    (found : map.get key = some value) (passes : test key value = true) :
    0 < map.count test := by
  have counted := map.count_erase_of_present test found
  rw [if_pos passes] at counted
  omega

end

omit [DecidableEq κ] in
theorem count_split (map : OrderedMap κ ν) (test second : κ → ν → Bool) :
    map.count test = (map.count fun key value => test key value && second key value) +
      map.count fun key value => test key value && !second key value := by
  simp only [count]
  induction map.entries with
  | nil => rfl
  | cons entry rest ih =>
    simp only [List.countP_cons, ih]
    cases test entry.1 entry.2 <;> cases second entry.1 entry.2 <;> simp <;> omega

theorem count_congr (map : OrderedMap κ ν) {left right : κ → ν → Bool}
    (same : ∀ key value, map.get key = some value → left key value = right key value) :
    map.count left = map.count right := by
  simp only [count]
  refine List.countP_congr fun entry member => ?_
  have stored := (map.get_eq_some_iff entry.1 entry.2).mpr member
  rw [same entry.1 entry.2 stored]

omit [DecidableEq κ] in
theorem count_le_count (map : OrderedMap κ ν) {test weaker : κ → ν → Bool}
    (weakens : ∀ key value, test key value = true → weaker key value = true) :
    map.count test ≤ map.count weaker :=
  List.countP_mono_left fun entry _ passes => weakens entry.1 entry.2 passes

theorem count_eq_zero_iff (map : OrderedMap κ ν) (test : κ → ν → Bool) :
    map.count test = 0 ↔ ∀ key value, map.get key = some value → test key value = false := by
  simp only [count, List.countP_eq_zero, get_eq_some_iff, Prod.forall, Bool.not_eq_true]

end OrderedMap

/-- What a list in order finds first is before everything else it could have found. -/
theorem le_of_find {α : Type} {entries : List α} (measure : α → Nat) {test : α → Bool}
    (ordered : entries.Pairwise fun first second => measure first < measure second)
    {first other : α} (found : entries.find? test = some first) (member : other ∈ entries)
    (passes : test other = true) : measure first ≤ measure other := by
  obtain ⟨-, before, after, rfl, fails⟩ := List.find?_eq_some_iff_append.mp found
  rcases List.mem_append.mp member with early | late
  · have lacks := fails other early
    rw [passes] at lacks
    cases lacks
  · rcases List.mem_cons.mp late with rfl | later
    · exact Nat.le_refl _
    · have parts := (List.pairwise_append.mp ordered).2.1
      exact Nat.le_of_lt ((List.pairwise_cons.mp parts).1 other later)

end PlugHub.Library
