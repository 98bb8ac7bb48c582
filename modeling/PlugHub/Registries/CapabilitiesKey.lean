import Mathlib.Data.List.Lex
import Mathlib.Data.List.Sort
import PlugHub.Library.JsonValue

/-!
# The key of an agent's capabilities

A socket that registers again is answered alike when its capabilities have the key that they had,
and is rejected otherwise. The key is a text of the capabilities in which the fields of every object
stand in the order of their names. It is the text of the value with its fields sorted, and this text
is read back, so that the key tells apart whatever differs in more than the order of fields.
-/

namespace PlugHub.CapabilitiesKey

open Library

variable {β : Type}

/-! ## The key -/

/-- The default order of `sort`, on fields by their names. -/
def upTo (first second : Utf16 × β) : Prop := first.1 ≤ second.1

instance : DecidableRel (upTo (β := β)) := fun first second =>
  inferInstanceAs (Decidable (first.1 ≤ second.1))

/-- `join(",")`. -/
def joinTexts : List Utf16 → Utf16
  | [] => []
  | first :: rest => first ++ rest.flatMap (44 :: ·)

mutual
/-- `stableStringify`. -/
def stableStringify : JsonValue → Utf16
  | .array items => 91 :: (joinTexts (stableItems items) ++ [93])
  | .object fields =>
    123 :: (joinTexts (((stableFields fields).insertionSort upTo).map fun field =>
      quote field.1 ++ 58 :: field.2) ++ [125])
  | value => value.stringify

/-- The texts of the items of an array. -/
def stableItems : List JsonValue → List Utf16
  | [] => []
  | item :: rest => stableStringify item :: stableItems rest

/-- The names of an object with the texts of their values. -/
def stableFields : JsonFields → List (Utf16 × Utf16)
  | [] => []
  | (name, value) :: rest => (name, stableStringify value) :: stableFields rest
end

/-- `agentRegisterCapabilitiesKey`. -/
def agentRegisterCapabilitiesKey (capabilities : JsonValue) : Utf16 := stableStringify capabilities

/-! ## Values up to the order of fields -/

mutual
/-- A value that JSON can write: no number in it is infinite, and no object has a name twice. -/
def Proper : JsonValue → Prop
  | .nonFinite => False
  | .array items => ProperItems items
  | .object fields => (fields.map Prod.fst).Nodup ∧ ProperFields fields
  | _ => True

/-- Items that JSON can write. -/
def ProperItems : List JsonValue → Prop
  | [] => True
  | item :: rest => Proper item ∧ ProperItems rest

/-- Fields whose values JSON can write. -/
def ProperFields : JsonFields → Prop
  | [] => True
  | (_, value) :: rest => Proper value ∧ ProperFields rest
end

mutual
/-- Two values are equal up to the order of the fields of objects. -/
def Same : JsonValue → JsonValue → Prop
  | .array items, other => ∃ others, other = .array others ∧ SameItems items others
  | .object fields, other =>
    ∃ others, other = .object others ∧ fields.length = others.length ∧ SameFields fields others
  | value, other => value = other

/-- The items are equal one by one. -/
def SameItems : List JsonValue → List JsonValue → Prop
  | [], others => others = []
  | item :: rest, others => ∃ first more, others = first :: more ∧ Same item first ∧
      SameItems rest more

/-- Each field stands among the others, with an equal value. -/
def SameFields : JsonFields → JsonFields → Prop
  | [], _ => True
  | (name, value) :: rest, others =>
    (∃ other, (name, other) ∈ others ∧ Same value other) ∧ SameFields rest others
end

/-! ## Sorted values -/

mutual
/-- A value with the fields of its objects sorted. -/
def sorted : JsonValue → JsonValue
  | .array items => .array (sortedItems items)
  | .object fields => .object ((sortedFields fields).insertionSort upTo)
  | value => value

/-- Items with their fields sorted. -/
def sortedItems : List JsonValue → List JsonValue
  | [] => []
  | item :: rest => sorted item :: sortedItems rest

/-- Fields whose values have their fields sorted. -/
def sortedFields : JsonFields → JsonFields
  | [] => []
  | (name, value) :: rest => (name, sorted value) :: sortedFields rest
end

theorem stringifyItems_eq (items : List JsonValue) :
    stringifyItems items = (items.map JsonValue.stringify).flatMap (44 :: ·) ++ [93] := by
  induction items with
  | nil => rfl
  | cons item rest ih =>
    rw [stringifyItems, ih]
    simp only [List.map_cons, List.flatMap_cons, List.cons_append, List.append_assoc]

/-- A field as text. -/
def fieldText (field : Utf16 × JsonValue) : Utf16 := quote field.1 ++ 58 :: field.2.stringify

variable (fields : JsonFields)

theorem stringifyFields_eq :
    stringifyFields fields = (fields.map fieldText).flatMap (44 :: ·) ++ [125] := by
  induction fields with
  | nil => rfl
  | cons field rest ih =>
    obtain ⟨name, value⟩ := field
    rw [stringifyFields, ih]
    simp only [fieldText, List.map_cons, List.flatMap_cons, List.cons_append, List.append_assoc]

theorem stringify_array (items : List JsonValue) :
    (JsonValue.array items).stringify =
      91 :: (joinTexts (items.map JsonValue.stringify) ++ [93]) := by
  cases items with
  | nil => rfl
  | cons item rest =>
    rw [JsonValue.stringify, stringifyItems_eq, List.map_cons, joinTexts, List.append_assoc]

theorem stringify_object :
    (JsonValue.object fields).stringify = 123 :: (joinTexts (fields.map fieldText) ++ [125]) := by
  cases fields with
  | nil => rfl
  | cons field rest =>
    obtain ⟨name, value⟩ := field
    rw [JsonValue.stringify, stringifyFields_eq]
    simp only [fieldText, List.map_cons, joinTexts, List.cons_append, List.append_assoc]

mutual
theorem stableStringify_eq (value : JsonValue) :
    stableStringify value = (sorted value).stringify := by
  cases value with
  | null | bool choice | number value | nonFinite | string text => rfl
  | array items => rw [stableStringify, sorted, stringify_array, stableItems_eq]
  | object fields =>
    have moved := List.map_insertionSort upTo upTo (fun field : Utf16 × JsonValue =>
      (field.1, field.2.stringify)) (sortedFields fields) fun _ _ _ _ => Iff.rfl
    rw [stableStringify, sorted, stringify_object, stableFields_eq, ← moved, List.map_map]
    rfl

theorem stableItems_eq (items : List JsonValue) :
    stableItems items = (sortedItems items).map JsonValue.stringify := by
  cases items with
  | nil => rfl
  | cons item rest =>
    rw [stableItems, sortedItems, List.map_cons, stableStringify_eq item, stableItems_eq rest]

theorem stableFields_eq (fields : JsonFields) :
    stableFields fields = (sortedFields fields).map fun field => (field.1, field.2.stringify) := by
  cases fields with
  | nil => rfl
  | cons field rest =>
    obtain ⟨name, value⟩ := field
    rw [stableFields, sortedFields, List.map_cons, stableStringify_eq value, stableFields_eq rest]
end

/-! ## What is sorted alike -/

theorem names_sortedFields :
    (sortedFields fields).map Prod.fst = fields.map Prod.fst := by
  induction fields with
  | nil => rfl
  | cons field rest ih => rw [sortedFields, List.map_cons, List.map_cons, ih]

theorem sortedFields_eq_map :
    sortedFields fields = fields.map fun field => (field.1, sorted field.2) := by
  induction fields with
  | nil => rfl
  | cons field rest ih => rw [sortedFields, ih, List.map_cons]

theorem insertionSort_of_perm {left right : JsonFields} (distinct : (left.map Prod.fst).Nodup)
    (perm : left.Perm right) : left.insertionSort upTo = right.insertionSort upTo := by
  have transitive : IsTrans (Utf16 × JsonValue) upTo := ⟨fun _ _ _ => le_trans⟩
  have total : Std.Total (upTo (β := JsonValue)) := ⟨fun _ _ => le_total _ _⟩
  refine List.Perm.eq_of_pairwise (fun first second firstIn secondIn before after => ?_)
    (List.pairwise_insertionSort upTo left) (List.pairwise_insertionSort upTo right)
    ((List.perm_insertionSort upTo left).trans
      (perm.trans (List.perm_insertionSort upTo right).symm))
  have inLeft := (List.mem_insertionSort upTo).mp firstIn
  have alsoLeft := perm.mem_iff.mpr ((List.mem_insertionSort upTo).mp secondIn)
  exact List.inj_on_of_nodup_map distinct inLeft alsoLeft (le_antisymm before after)

mutual
theorem sorted_sorted (value : JsonValue) (proper : Proper value) :
    sorted (sorted value) = sorted value := by
  cases value with
  | null | bool choice | number value | nonFinite | string text => rfl
  | array items => rw [sorted, sorted, sortedItems_sorted items proper]
  | object fields =>
    have again : (sortedFields ((sortedFields fields).insertionSort upTo)).Perm
        (sortedFields fields) := by
      rw [sortedFields_eq_map (List.insertionSort _ _)]
      refine ((List.perm_insertionSort upTo _).map _).trans ?_
      rw [← sortedFields_eq_map, sortedFields_sorted fields proper.2]
    have distinct : ((sortedFields fields).map Prod.fst).Nodup := by
      rw [names_sortedFields]
      exact proper.1
    rw [sorted, sorted, insertionSort_of_perm ((again.map Prod.fst).nodup_iff.mpr distinct) again]

theorem sortedItems_sorted (items : List JsonValue) (proper : ProperItems items) :
    sortedItems (sortedItems items) = sortedItems items := by
  cases items with
  | nil => rfl
  | cons item rest =>
    rw [sortedItems, sortedItems, sorted_sorted item proper.1, sortedItems_sorted rest proper.2]

theorem sortedFields_sorted (fields : JsonFields) (proper : ProperFields fields) :
    sortedFields (sortedFields fields) = sortedFields fields := by
  cases fields with
  | nil => rfl
  | cons field rest =>
    obtain ⟨name, value⟩ := field
    rw [sortedFields, sortedFields, sorted_sorted value proper.1, sortedFields_sorted rest proper.2]
end

theorem properFields_iff :
    ProperFields fields ↔ ∀ field ∈ fields, Proper field.2 := by
  induction fields with
  | nil => exact ⟨(fun _ field member => by cases member), fun _ => trivial⟩
  | cons field rest ih => rw [ProperFields, ih, List.forall_mem_cons]

theorem names_rebuiltFields :
    (rebuiltFields fields).map Prod.fst = fields.map Prod.fst := by
  induction fields with
  | nil => rfl
  | cons field rest ih => rw [rebuiltFields, List.map_cons, List.map_cons, ih]

mutual
theorem sorted_rebuilt (value : JsonValue) (proper : Proper value) :
    sorted value.rebuilt = sorted value := by
  cases value with
  | null | bool choice | number value => rfl
  | nonFinite => cases proper
  | string text => rfl
  | array items => rw [JsonValue.rebuilt, sorted, sorted, sortedItems_rebuilt items proper]
  | object fields =>
    have distinct : (([] ++ rebuiltFields fields).map Prod.fst).Nodup := by
      rw [List.nil_append, names_rebuiltFields]
      exact proper.1
    have built := foldl_setField_perm (rebuiltFields fields) [] distinct
    have perm : (sortedFields (ofEntries (rebuiltFields fields))).Perm (sortedFields fields) := by
      rw [← sortedFields_rebuilt fields proper.2, sortedFields_eq_map, sortedFields_eq_map]
      exact built.map _
    have names : ((sortedFields fields).map Prod.fst).Nodup := by
      rw [names_sortedFields]
      exact proper.1
    rw [JsonValue.rebuilt, sorted, sorted,
      insertionSort_of_perm ((perm.map Prod.fst).nodup_iff.mpr names) perm]

theorem sortedItems_rebuilt (items : List JsonValue) (proper : ProperItems items) :
    sortedItems (rebuiltItems items) = sortedItems items := by
  cases items with
  | nil => rfl
  | cons item rest =>
    rw [rebuiltItems, sortedItems, sortedItems, sorted_rebuilt item proper.1,
      sortedItems_rebuilt rest proper.2]

theorem sortedFields_rebuilt (fields : JsonFields) (proper : ProperFields fields) :
    sortedFields (rebuiltFields fields) = sortedFields fields := by
  cases fields with
  | nil => rfl
  | cons field rest =>
    obtain ⟨name, value⟩ := field
    rw [rebuiltFields, sortedFields, sortedFields, sorted_rebuilt value proper.1,
      sortedFields_rebuilt rest proper.2]
end

mutual
theorem proper_sorted (value : JsonValue) (proper : Proper value) : Proper (sorted value) := by
  cases value with
  | null | bool choice | number value => trivial
  | nonFinite => cases proper
  | string text => trivial
  | array items => exact properItems_sorted items proper
  | object fields =>
    have perm := List.perm_insertionSort upTo (sortedFields fields)
    have each := properFields_sorted fields proper.2
    refine ⟨(perm.map Prod.fst).nodup_iff.mpr ?_, ?_⟩
    · rw [names_sortedFields]
      exact proper.1
    · rw [properFields_iff] at each ⊢
      intro field member
      exact each field (perm.mem_iff.mp member)

theorem properItems_sorted (items : List JsonValue) (proper : ProperItems items) :
    ProperItems (sortedItems items) := by
  cases items with
  | nil => trivial
  | cons item rest => exact ⟨proper_sorted item proper.1, properItems_sorted rest proper.2⟩

theorem properFields_sorted (fields : JsonFields) (proper : ProperFields fields) :
    ProperFields (sortedFields fields) := by
  cases fields with
  | nil => trivial
  | cons field rest => exact ⟨proper_sorted field.2 proper.1, properFields_sorted rest proper.2⟩
end

theorem sorted_of_key {value other : JsonValue} (proper : Proper value) (properOther : Proper other)
    (same : stableStringify value = stableStringify other) : sorted value = sorted other := by
  have read := parse_text (sorted value)
  rw [← stableStringify_eq, same, stableStringify_eq, parse_text] at read
  have rebuilt := congrArg sorted (Option.some.inj read)
  rw [sorted_rebuilt _ (proper_sorted value proper), sorted_sorted value proper,
    sorted_rebuilt _ (proper_sorted other properOther), sorted_sorted other properOther] at rebuilt
  exact rebuilt.symm

mutual
theorem same_of_sorted (value other : JsonValue) (alike : sorted value = sorted other) :
    Same value other := by
  cases value with
  | null => cases other <;> first | rfl | cases alike
  | bool choice | number value => cases other <;> first | exact alike | cases alike
  | nonFinite => cases other <;> first | rfl | cases alike
  | string text => cases other <;> first | exact alike | cases alike
  | array items =>
    cases other with
    | array others =>
      exact ⟨others, rfl, sameItems_of_sorted items others (JsonValue.array.inj alike)⟩
    | _ => cases alike
  | object fields =>
    cases other with
    | object others =>
      have fieldsAlike := JsonValue.object.inj alike
      have perm : (sortedFields fields).Perm (sortedFields others) :=
        (List.perm_insertionSort upTo _).symm.trans
          (fieldsAlike ▸ List.perm_insertionSort upTo (sortedFields others))
      refine ⟨others, rfl, ?_, sameFields_of_sorted fields others fun field member =>
        perm.mem_iff.mp member⟩
      have lengths := perm.length_eq
      rwa [sortedFields_eq_map, sortedFields_eq_map, List.length_map, List.length_map] at lengths
    | _ => cases alike

theorem sameItems_of_sorted (items others : List JsonValue)
    (alike : sortedItems items = sortedItems others) : SameItems items others := by
  cases items with
  | nil =>
    cases others with
    | nil => rfl
    | cons first more => cases alike
  | cons item rest =>
    cases others with
    | nil => cases alike
    | cons first more =>
      obtain ⟨itemAlike, restAlike⟩ := List.cons.inj alike
      exact ⟨first, more, rfl, same_of_sorted item first itemAlike,
        sameItems_of_sorted rest more restAlike⟩

theorem sameFields_of_sorted (fields others : JsonFields)
    (among : ∀ field ∈ sortedFields fields, field ∈ sortedFields others) :
    SameFields fields others := by
  cases fields with
  | nil => trivial
  | cons field rest =>
    obtain ⟨name, value⟩ := field
    refine ⟨?_, sameFields_of_sorted rest others fun field member =>
      among field (List.mem_cons_of_mem _ member)⟩
    have first := among (name, sorted value) List.mem_cons_self
    rw [sortedFields_eq_map] at first
    obtain ⟨⟨otherName, other⟩, present, alike⟩ := List.mem_map.mp first
    obtain ⟨rfl, valueAlike⟩ := Prod.mk.inj alike
    exact ⟨other, present, same_of_sorted value other valueAlike.symm⟩
end

mutual
theorem sorted_of_same (value other : JsonValue) (proper : Proper value)
    (same : Same value other) : sorted value = sorted other := by
  cases value with
  | null | bool choice | number value | nonFinite | string text => exact congrArg sorted same
  | array items =>
    obtain ⟨others, rfl, itemsSame⟩ := same
    rw [sorted, sorted, sortedItems_of_same items others proper itemsSame]
  | object fields =>
    obtain ⟨others, rfl, sized, fieldsSame⟩ := same
    have distinct : ((sortedFields fields).map Prod.fst).Nodup := by
      rw [names_sortedFields]
      exact proper.1
    have among := sortedFields_of_same fields others proper.2 fieldsSame
    have perm : (sortedFields fields).Perm (sortedFields others) := by
      refine (List.subperm_of_subset distinct.of_map among).perm_of_length_le ?_
      rw [sortedFields_eq_map, sortedFields_eq_map, List.length_map, List.length_map, sized]
    rw [sorted, sorted, insertionSort_of_perm distinct perm]

theorem sortedItems_of_same (items others : List JsonValue) (proper : ProperItems items)
    (same : SameItems items others) : sortedItems items = sortedItems others := by
  cases items with
  | nil => exact congrArg sortedItems (Eq.symm same)
  | cons item rest =>
    obtain ⟨first, more, rfl, itemSame, restSame⟩ := same
    rw [sortedItems, sortedItems, sorted_of_same item first proper.1 itemSame,
      sortedItems_of_same rest more proper.2 restSame]

theorem sortedFields_of_same (fields others : JsonFields) (proper : ProperFields fields)
    (same : SameFields fields others) :
    ∀ field ∈ sortedFields fields, field ∈ sortedFields others := by
  cases fields with
  | nil =>
    intro field member
    cases member
  | cons field rest =>
    obtain ⟨name, value⟩ := field
    obtain ⟨⟨other, present, valueSame⟩, restSame⟩ := same
    intro field member
    rcases List.mem_cons.mp member with rfl | later
    · rw [sortedFields_eq_map, sorted_of_same value other proper.1 valueSame]
      exact List.mem_map.mpr ⟨(name, other), present, rfl⟩
    · exact sortedFields_of_same rest others proper.2 restSame field later
end

/-! ## The canonical form -/

/-- Two values have one key exactly when they are equal up to the order of the fields of their
objects. -/
theorem agentRegisterCapabilitiesKey_eq_iff {capabilities other : JsonValue}
    (proper : Proper capabilities) (properOther : Proper other) :
    agentRegisterCapabilitiesKey capabilities = agentRegisterCapabilitiesKey other ↔
      Same capabilities other := by
  constructor
  · intro same
    exact same_of_sorted capabilities other (sorted_of_key proper properOther same)
  · intro same
    unfold agentRegisterCapabilitiesKey
    rw [stableStringify_eq, stableStringify_eq, sorted_of_same capabilities other proper same]

/-- Capabilities in one order. -/
def versioned : JsonValue :=
  .object [(utf16 "streams", .array [.bool true, .null]), (utf16 "protocol", .string (utf16 "2"))]

/-- The same ones in another order. -/
def reordered : JsonValue :=
  .object [(utf16 "protocol", .string (utf16 "2")), (utf16 "streams", .array [.bool true, .null])]

/-- They have one key. -/
theorem reordered_capabilities_have_one_key :
    Proper versioned ∧ Proper reordered ∧
      (agentRegisterCapabilitiesKey versioned = agentRegisterCapabilitiesKey reordered ↔
        Same versioned reordered) ∧
      agentRegisterCapabilitiesKey versioned = agentRegisterCapabilitiesKey reordered := by
  have proper : Proper versioned := ⟨by decide, ⟨trivial, trivial, trivial⟩, trivial, trivial⟩
  have properOther : Proper reordered := ⟨by decide, trivial, ⟨trivial, trivial, trivial⟩, trivial⟩
  exact ⟨proper, properOther, agentRegisterCapabilitiesKey_eq_iff proper properOther,
    by decide +kernel⟩

end PlugHub.CapabilitiesKey
