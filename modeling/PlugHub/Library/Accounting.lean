import Mathlib.Data.Finset.Card
import Mathlib.Algebra.GroupWithZero.Nat
import PlugHub.Library.Index

/-!
# Indexes and counters of a keyed map

A registry keeps a map of records and, beside it, indexes and counters by a key that each
record has or lacks. An index projects the map when it files exactly the records of the map
under their keys; a counter tallies the map when it counts the records of every key, with a
surplus that stands for places that are counted before their record is stored. The rules
say that storing, removing and changing a record together with its key keeps both.
-/

namespace PlugHub.Library

namespace OrderedMap

variable {ι ν : Type} [DecidableEq ι]

/-- A change in place that a test does not see keeps its count. -/
theorem count_modify_of_kept (map : OrderedMap ι ν) (id : ι) (change : ν → ν) (test : ι → ν → Bool)
    (kept : ∀ value, map.get id = some value → test id (change value) = test id value) :
    (map.modify id change).count test = map.count test := by
  unfold modify
  split
  · next value found =>
    have counted := map.count_set_of_present (change value) test found
    rw [kept value found] at counted
    omega
  · rfl

theorem size_modify (map : OrderedMap ι ν) (id : ι) (change : ν → ν) :
    (map.modify id change).size = map.size := by
  rw [size_eq_count, size_eq_count]
  exact count_modify_of_kept map id change _ fun _ _ => rfl

theorem size_set_of_present (map : OrderedMap ι ν) {id : ι} {old : ν} (value : ν)
    (found : map.get id = some old) : (map.set id value).size = map.size := by
  have same := map.size_modify id fun _ => value
  rw [map.modify_of_present _ found] at same
  exact same

theorem size_set_of_absent (map : OrderedMap ι ν) {id : ι} (value : ν)
    (absent : map.get id = none) : (map.set id value).size = map.size + 1 := by
  rw [size_eq_count, size_eq_count, count_set_of_absent map value _ absent]
  rfl

theorem size_erase_of_present (map : OrderedMap ι ν) {id : ι} {value : ν}
    (found : map.get id = some value) : (map.erase id).size + 1 = map.size := by
  rw [size_eq_count, size_eq_count, ← count_erase_of_present map _ found]
  rfl

/-- The sum of a measure over the records of a map. -/
def total (map : OrderedMap ι ν) (measure : ν → Nat) : Nat :=
  (map.entries.map fun entry => measure entry.2).sum

omit [DecidableEq ι] in
@[simp] theorem total_empty (measure : ν → Nat) : (empty : OrderedMap ι ν).total measure = 0 := rfl

section

variable (map : OrderedMap ι ν)

include map

variable {id : ι}

theorem total_erase_of_present {value : ν} (measure : ν → Nat) (found : map.get id = some value) :
    (map.erase id).total measure + measure value = map.total measure := by
  have whole := ((entries_perm found).map fun entry => measure entry.2).sum_nat
  rw [List.map_cons, List.sum_cons] at whole
  rw [total, total, whole, Nat.add_comm]

theorem total_set (id : ι) (value : ν) (measure : ν → Nat) :
    (map.set id value).total measure = (map.erase id).total measure + measure value := by
  rw [← total_erase_of_present _ measure (map.get_set_self id value), map.erase_set]

theorem total_set_of_absent (value : ν) (measure : ν → Nat) (absent : map.get id = none) :
    (map.set id value).total measure = map.total measure + measure value := by
  rw [total_set, map.erase_of_absent absent]

theorem total_set_of_present {old : ν} (value : ν)
    (measure : ν → Nat) (found : map.get id = some old) :
    (map.set id value).total measure + measure old = map.total measure + measure value := by
  rw [total_set, ← total_erase_of_present map measure found]
  omega

theorem total_modify_of_present {old : ν} (change : ν → ν)
    (measure : ν → Nat) (found : map.get id = some old) :
    (map.modify id change).total measure + measure old =
      map.total measure + measure (change old) := by
  unfold modify
  rw [found]
  exact total_set_of_present map (change old) measure found

/-- Measures that agree on the records of a map have the same sum. -/
theorem total_congr {left right : ν → Nat}
    (same : ∀ id value, map.get id = some value → left value = right value) :
    map.total left = map.total right := by
  have agree : map.entries.map (fun entry => left entry.2) =
      map.entries.map fun entry => right entry.2 :=
    List.map_congr_left fun entry member =>
      same entry.1 entry.2 ((get_eq_some_iff map entry.1 entry.2).mpr member)
  rw [total, total, agree]

theorem le_total {value : ν} (measure : ν → Nat)
    (found : map.get id = some value) : measure value ≤ map.total measure := by
  have parts := map.total_erase_of_present measure found
  omega

end

end OrderedMap

variable {κ ι ν : Type} [DecidableEq κ] [DecidableEq ι]

/-! ## Aliases

A map in which several keys may name one value: what is stored, counted once. -/

namespace OrderedMap

/-- The number of different values. -/
def distinctValues [DecidableEq ν] (map : OrderedMap ι ν) : Nat := map.values.dedup.length

theorem mem_values_iff (map : OrderedMap ι ν) (value : ν) :
    value ∈ map.values ↔ ∃ key, map.get key = some value := by
  unfold values
  rw [List.mem_map]
  constructor
  · rintro ⟨⟨key, stored⟩, listed, rfl⟩
    exact ⟨key, (map.get_eq_some_iff key stored).mpr listed⟩
  · rintro ⟨key, found⟩
    exact ⟨(key, value), (map.get_eq_some_iff key value).mp found, rfl⟩

theorem distinctValues_of_more [DecidableEq ν] {map more : OrderedMap ι ν} (value : ν)
    (new : ∀ key, map.get key ≠ some value)
    (same : ∀ other, (∃ key, more.get key = some other) ↔
      other = value ∨ ∃ key, map.get key = some other) :
    more.distinctValues = map.distinctValues + 1 := by
  have unseen : value ∉ map.values.toFinset := by
    rw [List.mem_toFinset, mem_values_iff]
    exact fun ⟨key, found⟩ => new key found
  have grown : more.values.toFinset = insert value map.values.toFinset := by
    ext other
    rw [Finset.mem_insert, List.mem_toFinset, List.mem_toFinset, mem_values_iff, mem_values_iff]
    exact same other
  have cards := congrArg Finset.card grown
  rw [Finset.card_insert_of_notMem unseen, List.card_toFinset, List.card_toFinset] at cards
  exact cards

/-- Reading a map after one value was stored under several keys. -/
theorem get_foldl_set (map : OrderedMap ι ν) (keys : List ι) (value : ν) (key : ι) :
    (keys.foldl (fun map key => map.set key value) map).get key =
      if key ∈ keys then some value else map.get key := by
  induction keys generalizing map with
  | nil => simp
  | cons head rest ih =>
    rw [List.foldl_cons, ih, get_set]
    by_cases later : key ∈ rest
    · rw [if_pos later, if_pos (List.mem_cons_of_mem head later)]
    · by_cases here : key = head
      · rw [if_neg later, if_pos here, if_pos (here ▸ List.mem_cons_self)]
      · rw [if_neg later, if_neg here, if_neg (by simp [here, later])]

theorem get_foldl_erase (map : OrderedMap ι ν) (keys : List ι) (key : ι) :
    (keys.foldl (·.erase ·) map).get key = if key ∈ keys then none else map.get key := by
  induction keys generalizing map with
  | nil => simp
  | cons head rest ih =>
    rw [List.foldl_cons, ih, get_erase]
    by_cases later : key ∈ rest
    · rw [if_pos later, if_pos (List.mem_cons_of_mem head later)]
    · by_cases here : key = head
      · rw [if_neg later, if_pos here, if_pos (here ▸ List.mem_cons_self)]
      · rw [if_neg later, if_neg here, if_neg (by simp [here, later])]

/-- Removing several keys that are stored makes the map smaller by their number. -/
theorem size_foldl_erase (map : OrderedMap ι ν) {keys : List ι} (distinct : keys.Nodup)
    (stored : ∀ key ∈ keys, key ∈ map.keys) :
    (keys.foldl (·.erase ·) map).size + keys.length = map.size := by
  induction keys generalizing map with
  | nil => rfl
  | cons head rest ih =>
    obtain ⟨value, found⟩ := (map.mem_keys_iff head).mp (stored head List.mem_cons_self)
    have less := map.size_erase_of_present found
    have remain : ∀ key ∈ rest, key ∈ (map.erase head).keys := by
      intro key member
      rw [keys_erase, List.mem_filter]
      have differs : key ≠ head := fun same => (List.nodup_cons.mp distinct).1 (same ▸ member)
      exact ⟨stored key (List.mem_cons_of_mem head member), by simpa using differs⟩
    have counted := ih (map.erase head) (List.nodup_cons.mp distinct).2 remain
    rw [List.foldl_cons, List.length_cons]
    omega

theorem size_foldl_modify (map : OrderedMap ι ν) (keys : List ι) (change : ν → ν) :
    (keys.foldl (fun kept key => kept.modify key change) map).size = map.size := by
  induction keys generalizing map with
  | nil => rfl
  | cons head rest ih => rw [List.foldl_cons, ih, size_modify]

end OrderedMap

open OrderedMap

/-! ## Indexes -/

/-- An index that files exactly the records of a map under their keys. -/
def Index.Projects (index : Index κ ι) (map : OrderedMap ι ν) (key : ν → Option κ) : Prop :=
  ∀ place id, id ∈ index.members place ↔ ∃ value, map.get id = some value ∧ key value = some place

namespace Index.Projects

variable {index : Index κ ι} {map : OrderedMap ι ν} {key : ν → Option κ}

theorem empty : Index.Projects (OrderedMap.empty : Index κ ι) (OrderedMap.empty : OrderedMap ι ν)
    key := by
  intro place id
  simp

section

variable (projects : index.Projects map key)

include projects

variable {id : ι} {value : ν}

theorem insert {place : κ} (absent : map.get id = none) (keyed : key value = some place) :
    (index.addToIndex place id).Projects (map.set id value) key := by
  intro other member
  rw [Index.mem_addToIndex, projects other member]
  by_cases same : member = id
  · subst same
    simp only [absent, get_set_self, Option.some.injEq, reduceCtorEq, false_and,
      exists_false, and_true, false_or, exists_eq_left', keyed]
    exact eq_comm
  · simp [get_set, same]

theorem insert_unkeyed (absent : map.get id = none) (unkeyed : key value = none) :
    index.Projects (map.set id value) key := by
  intro other member
  rw [projects other member]
  by_cases same : member = id
  · subst same
    simp [absent, unkeyed]
  · simp [get_set, same]

theorem erase {place : κ} (found : map.get id = some value) (keyed : key value = some place) :
    (index.removeFromIndex place id).Projects (map.erase id) key := by
  intro other member
  rw [Index.mem_removeFromIndex, projects other member]
  by_cases same : member = id
  · subst same
    simp only [found, Option.some.injEq, exists_eq_left', keyed, get_erase_self,
      reduceCtorEq, false_and, exists_false, and_true, iff_false, not_and, not_not]
    exact Eq.symm
  · simp [get_erase, same]

theorem erase_unkeyed (found : map.get id = some value) (unkeyed : key value = none) :
    index.Projects (map.erase id) key := by
  intro other member
  rw [projects other member]
  by_cases same : member = id
  · subst same
    simp [found, unkeyed]
  · simp [get_erase, same]

/-- A change in place that keeps the key keeps the index. -/
theorem modify (id : ι) (change : ν → ν)
    (kept : ∀ value, map.get id = some value → key (change value) = key value) :
    index.Projects (map.modify id change) key := by
  intro other member
  rw [projects other member, get_modify]
  by_cases same : member = id
  · subst same
    cases found : map.get member with
    | none => simp
    | some value => simp [kept value found]
  · simp [same]

/-- A change in place that loses the key is withdrawn from it. -/
theorem lose {place : κ}
    (change : ν → ν) (found : map.get id = some value) (keyed : key value = some place)
    (lost : key (change value) = none) :
    (index.removeFromIndex place id).Projects (map.modify id change) key := by
  intro other member
  rw [Index.mem_removeFromIndex, projects other member, get_modify]
  by_cases same : member = id
  · subst same
    simp only [found, Option.some.injEq, exists_eq_left', keyed, if_true, Option.map_some, lost,
      reduceCtorEq, and_true, iff_false, not_and, not_not]
    exact Eq.symm
  · simp [same]

end

end Index.Projects

/-! ## Counters -/

theorem Counter.total_erase (counter : Counter κ) (key : κ) :
    total (counter.erase key) id + counter.read key = counter.total id := by
  unfold Counter.read
  cases found : counter.get key with
  | none => rw [counter.erase_of_absent found, Option.getD_none, Nat.add_zero]
  | some count => exact counter.total_erase_of_present id found

theorem Counter.total_increment (counter : Counter κ) (key : κ) :
    (counter.increment key).total id = counter.total id + 1 := by
  have parts := counter.total_erase key
  rw [Counter.increment, total_set, id_eq]
  omega

theorem Counter.total_decrement (counter : Counter κ) {key : κ} (counted : 0 < counter.read key) :
    (counter.decrement key).total id + 1 = counter.total id := by
  have parts := counter.total_erase key
  unfold Counter.decrement
  split
  · rw [total_set, id_eq]
    omega
  · omega

/-- The records of a map with a key. -/
def OrderedMap.withKey (map : OrderedMap ι ν) (key : ν → Option κ) (place : κ) : Nat :=
  map.count fun _ value => decide (key value = some place)

/-- A counter that counts the records of every key and a surplus. -/
def Counter.Tallies (counter : Counter κ) (map : OrderedMap ι ν) (key : ν → Option κ)
    (surplus : κ → Nat) : Prop :=
  ∀ place, counter.read place = map.withKey key place + surplus place

namespace Counter.Tallies

variable {counter : Counter κ} {map : OrderedMap ι ν} {key : ν → Option κ} {surplus : κ → Nat}

omit [DecidableEq ι] in
theorem empty : Counter.Tallies (OrderedMap.empty : Counter κ) (OrderedMap.empty : OrderedMap ι ν)
    key fun _ => 0 := by
  intro place
  rfl

section

variable (tallies : counter.Tallies map key surplus)

include tallies

variable {id : ι} {value : ν} {place : κ}

theorem insert (absent : map.get id = none) (keyed : key value = some place) :
    (counter.increment place).Tallies (map.set id value) key surplus := by
  intro other
  rw [Counter.read_increment, tallies other, withKey, withKey,
    map.count_set_of_absent value _ absent, keyed]
  by_cases same : other = place
  · simp [same]; omega
  · simp [same, Ne.symm same]

/-- A new record takes the place of a surplus that was counted for it. -/
theorem insert_counted
    (absent : map.get id = none) (keyed : key value = some place) (left : κ → Nat)
    (spent : ∀ other, surplus other = left other + if other = place then 1 else 0) :
    counter.Tallies (map.set id value) key left := by
  intro other
  rw [tallies other, withKey, withKey,
    map.count_set_of_absent value _ absent, keyed, spent other]
  by_cases same : other = place
  · simp [same]; omega
  · simp [same, Ne.symm same]

theorem insert_unkeyed (absent : map.get id = none) (unkeyed : key value = none) :
    counter.Tallies (map.set id value) key surplus := by
  intro other
  rw [tallies other, withKey, withKey,
    map.count_set_of_absent value _ absent, unkeyed]
  simp

theorem erase (found : map.get id = some value) (keyed : key value = some place) :
    (counter.decrement place).Tallies (map.erase id) key surplus := by
  intro other
  have counted := map.count_erase_of_present (fun _ value => decide (key value = some other)) found
  rw [Counter.read_decrement, tallies other, withKey, withKey]
  rw [keyed] at counted
  by_cases same : other = place
  · subst same
    simp only [decide_true, if_true] at counted ⊢
    omega
  · simp only [Option.some.injEq, Ne.symm same, decide_false, Bool.false_eq_true, if_false,
      Nat.add_zero] at counted
    simp only [same, if_false, Nat.sub_zero]
    omega

theorem erase_unkeyed (found : map.get id = some value) (unkeyed : key value = none) :
    counter.Tallies (map.erase id) key surplus := by
  intro other
  have counted := map.count_erase_of_present (fun _ value => decide (key value = some other)) found
  rw [unkeyed] at counted
  simp only [reduceCtorEq, decide_false, Bool.false_eq_true, if_false, Nat.add_zero] at counted
  rw [tallies other, withKey, withKey, counted]

theorem modify (id : ι) (change : ν → ν)
    (kept : ∀ value, map.get id = some value → key (change value) = key value) :
    counter.Tallies (map.modify id change) key surplus := by
  intro other
  rw [tallies other, withKey, withKey,
    map.count_modify_of_kept id change _ fun value found => by rw [kept value found]]

/-- A change in place that loses the key is no longer counted. -/
theorem lose (change : ν → ν) (found : map.get id = some value) (keyed : key value = some place)
    (lost : key (change value) = none) :
    (counter.decrement place).Tallies (map.modify id change) key surplus := by
  intro other
  have counted := map.count_set_of_present (change value)
    (fun _ value => decide (key value = some other)) found
  rw [keyed, lost] at counted
  rw [Counter.read_decrement, tallies other, withKey, withKey,
    OrderedMap.modify, found]
  simp only [reduceCtorEq, decide_false, Bool.false_eq_true, if_false, Nat.add_zero,
    Option.some.injEq, decide_eq_true_eq] at counted
  simp only
  by_cases same : other = place
  · rw [if_pos same.symm] at counted
    rw [if_pos same]
    omega
  · rw [if_neg (Ne.symm same)] at counted
    rw [if_neg same]
    omega

/-- A change in place that gains a key is counted. -/
theorem gain (change : ν → ν) (found : map.get id = some value) (unkeyed : key value = none)
    (gained : key (change value) = some place) :
    (counter.increment place).Tallies (map.modify id change) key surplus := by
  intro other
  have counted := map.count_set_of_present (change value)
    (fun _ value => decide (key value = some other)) found
  rw [unkeyed, gained] at counted
  rw [Counter.read_increment, tallies other, withKey, withKey,
    OrderedMap.modify, found]
  simp only [reduceCtorEq, decide_false, Bool.false_eq_true, if_false, Nat.add_zero,
    Option.some.injEq, decide_eq_true_eq] at counted
  simp only
  by_cases same : other = place
  · rw [if_pos same.symm] at counted
    rw [if_pos same]
    omega
  · rw [if_neg (Ne.symm same)] at counted
    rw [if_neg same]
    omega

end

omit [DecidableEq ι] in
theorem reserve (tallies : counter.Tallies map key surplus) (place : κ) (more : κ → Nat)
    (added : ∀ other, more other = surplus other + if other = place then 1 else 0) :
    (counter.increment place).Tallies map key more := by
  intro other
  rw [Counter.read_increment, tallies other, added other]
  omega

omit [DecidableEq ι] in
theorem release (tallies : counter.Tallies map key surplus) (place : κ) (left : κ → Nat)
    (spent : ∀ other, surplus other = left other + if other = place then 1 else 0) :
    (counter.decrement place).Tallies map key left := by
  intro other
  rw [Counter.read_decrement, tallies other, spent other]
  omega

end Counter.Tallies

end PlugHub.Library
