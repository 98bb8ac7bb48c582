import PlugHub.Library.Index

/-!
# Indexes in the order of their map

An index that lists the identifiers of a map under the keys of their records, in the order in which
the map holds them. Insertions append to both, removals keep both orders, and changes in place that
keep the key change neither.
-/

namespace PlugHub.Library

variable {κ ι ν : Type} [DecidableEq κ] [DecidableEq ι]

/-- The identifiers whose records have a key, in the order of the map. -/
def OrderedMap.keysWith (map : OrderedMap ι ν) (key : ν → κ) (place : κ) : List ι :=
  (map.entries.filter fun entry => key entry.2 = place).map Prod.fst

/-- The identifiers listed under a key are those of the records with that key. -/
theorem OrderedMap.mem_keysWith (map : OrderedMap ι ν) (key : ν → κ) (place : κ) (id : ι) :
    id ∈ map.keysWith key place ↔ ∃ value, map.get id = some value ∧ key value = place := by
  unfold keysWith
  constructor
  · intro member
    obtain ⟨⟨other, value⟩, inside, rfl⟩ := List.mem_map.mp member
    obtain ⟨stored, keyed⟩ := List.mem_filter.mp inside
    exact ⟨value, (map.get_eq_some_iff other value).mpr stored, of_decide_eq_true keyed⟩
  · rintro ⟨value, found, keyed⟩
    have stored := (map.get_eq_some_iff id value).mp found
    exact List.mem_map.mpr ⟨(id, value), List.mem_filter.mpr ⟨stored, decide_eq_true keyed⟩, rfl⟩

omit [DecidableEq ι] in
theorem OrderedMap.nodup_keysWith (map : OrderedMap ι ν) (key : ν → κ) (place : κ) :
    (map.keysWith key place).Nodup :=
  map.distinct.sublist (List.filter_sublist.map Prod.fst)

omit [DecidableEq ι] in
/-- As many identifiers are listed under a key as there are records with that key. -/
theorem OrderedMap.length_keysWith (map : OrderedMap ι ν) (key : ν → κ) (place : κ) :
    (map.keysWith key place).length = map.count fun _ value => key value = place := by
  unfold keysWith OrderedMap.count
  rw [List.length_map, List.countP_eq_length_filter]

/-- An index that lists the records of a map under their keys, in the order of the map. -/
def Index.Lists (index : Index κ ι) (map : OrderedMap ι ν) (key : ν → κ) : Prop :=
  ∀ place, index.members place = map.keysWith key place

namespace Index.Lists

variable {index : Index κ ι} {map : OrderedMap ι ν} {key : ν → κ}

omit [DecidableEq ι] in
theorem empty : Index.Lists (OrderedMap.empty : Index κ ι) (OrderedMap.empty : OrderedMap ι ν)
    key := fun _ => rfl

theorem insert (lists : index.Lists map key) {id : ι} {value : ν} (absent : map.get id = none) :
    (index.addToIndex (key value) id).Lists (map.set id value) key := by
  have unlisted : id ∉ index.members (key value) := by
    rw [lists (key value), map.mem_keysWith]
    rintro ⟨other, found, -⟩
    rw [absent] at found
    cases found
  have appended : (map.set id value).entries = map.entries ++ [(id, value)] :=
    OrderedMap.entries_set_of_absent ((map.get_eq_none_iff id).mp absent)
  intro place
  rw [members_addToIndex index unlisted, lists place, lists (key value)]
  unfold OrderedMap.keysWith
  rw [appended, List.filter_append, List.map_append]
  by_cases same : place = key value
  · simp [same]
  · have other : ¬key value = place := fun equal => same equal.symm
    simp [same, other]

theorem erase (lists : index.Lists map key) {id : ι} {value : ν} (found : map.get id = some value) :
    (index.removeFromIndex (key value) id).Lists (map.erase id) key := by
  have projected : ∀ place,
      (map.erase id).keysWith key place = (map.keysWith key place).filter (· ≠ id) := by
    intro place
    unfold OrderedMap.keysWith OrderedMap.erase
    rw [List.filter_map, List.filter_filter, List.filter_filter]
    congr 1
    refine List.filter_congr fun entry _ => ?_
    simp [Bool.and_comm]
  intro place
  rw [members_removeFromIndex, projected place, lists place, lists (key value)]
  by_cases same : place = key value
  · rw [if_pos same, same]
  · rw [if_neg same]
    refine (List.filter_eq_self.mpr fun other listed => ?_).symm
    obtain ⟨record, stored, keyed⟩ := (map.mem_keysWith key place other).mp listed
    refine decide_eq_true fun equal => same ?_
    rw [equal, found] at stored
    rw [← keyed, Option.some.inj stored]

/-- A change in place that keeps the key keeps the lists. -/
theorem modify (lists : index.Lists map key) (id : ι) (change : ν → ν)
    (kept : ∀ value, key (change value) = key value) :
    index.Lists (map.modify id change) key := by
  intro place
  rw [lists place]
  unfold OrderedMap.modify
  cases found : map.get id with
  | none => rfl
  | some value =>
    have present : id ∈ map.keys := (map.mem_keys_iff id).mpr ⟨value, found⟩
    unfold OrderedMap.keysWith
    simp only
    rw [OrderedMap.entries_set_of_present present]
    unfold OrderedMap.replaceEntry
    rw [List.filter_map, List.map_map]
    have ids : Prod.fst ∘
      (fun entry : ι × ν => if entry.1 = id then (id, change value) else entry) =
        Prod.fst := by
      funext entry
      simp only [Function.comp_apply]
      split_ifs with same
      · exact same.symm
      · rfl
    rw [ids]
    congr 1
    refine List.filter_congr fun entry stored => ?_
    simp only [Function.comp_apply]
    split_ifs with same
    · have own : map.get entry.1 = some entry.2 := (map.get_eq_some_iff _ _).mpr stored
      rw [same, found] at own
      rw [← Option.some.inj own, kept]
    · rfl

end Index.Lists

end PlugHub.Library
