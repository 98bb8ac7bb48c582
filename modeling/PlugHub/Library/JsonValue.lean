import Mathlib.Data.Rat.Floor
import PlugHub.Library.Utf16

/-!
# Values of JSON

The values that `JSON.parse` makes, the objects among them as their own fields in the order in which
they list them, the text that `JSON.stringify` writes, and a reader of such texts: without white
space, and with each number in its shortest form. What is written of a value that JSON has a text
for is read back as the value, whatever follows.
-/

namespace PlugHub.Library

/-! ## Numbers -/

/-- A unit of the text of a number. -/
def isNumberUnit (unit : Nat) : Bool :=
  (48 ≤ unit && unit ≤ 57) || unit = 43 || unit = 45 || unit = 46 || unit = 101

/-- A finite number as the shortest text that stands for it. -/
structure JsonNumber where
  text : Utf16
  written : text ≠ []
  shaped : ∀ unit ∈ text, isNumberUnit unit = true
deriving DecidableEq

/-- The units of a decimal. -/
def decimalUnits (number : Nat) : Utf16 := (Nat.toDigits 10 number).map Char.toNat

theorem digit_of_decimalUnits {number unit : Nat} (member : unit ∈ decimalUnits number) :
    48 ≤ unit ∧ unit ≤ 57 := by
  obtain ⟨digit, present, rfl⟩ := List.mem_map.mp member
  have shaped := Nat.isDigit_of_mem_toDigits (by decide) (by decide) present
  simp only [Char.isDigit, Bool.and_eq_true, decide_eq_true_eq, UInt32.le_iff_toNat_le] at shaped
  exact ⟨shaped.1, shaped.2⟩

/-- An integer that is not negative. -/
def JsonNumber.ofNat (number : Nat) : JsonNumber where
  text := decimalUnits number
  written := by
    intro empty
    exact Nat.toDigits_ne_nil (List.map_eq_nil_iff.mp empty)
  shaped := by
    intro unit member
    have bounds := digit_of_decimalUnits member
    unfold isNumberUnit
    rw [decide_eq_true bounds.1, decide_eq_true bounds.2]
    rfl

/-- The number of a text of digits. -/
def digitsValue (digits : Utf16) : Nat :=
  digits.foldl (fun value unit => value * 10 + (unit - 48)) 0

/-- The value of a number: an optional sign, digits with an optional point, and an optional
exponent. -/
def JsonNumber.value (number : JsonNumber) : ℚ :=
  let unsigned := number.text.dropWhile (· = 45)
  let mantissa := unsigned.takeWhile (· ≠ 101)
  let exponent := (unsigned.dropWhile (· ≠ 101)).tail
  let whole := mantissa.takeWhile (· ≠ 46)
  let fraction := (mantissa.dropWhile (· ≠ 46)).tail
  let power : Int := if exponent.head? = some 45 then -(digitsValue exponent.tail : Int)
    else digitsValue (exponent.dropWhile (· = 43))
  (if number.text.head? = some 45 then -1 else 1) * digitsValue (whole ++ fraction) *
    (10 : ℚ) ^ (power - fraction.length)

/-- A decimal has the number it is the decimal of. -/
theorem digitsValue_decimalUnits (number : Nat) : digitsValue (decimalUnits number) = number := by
  have read := Nat.ofDigitChars_toDigits (b := 10) (n := number) (by decide) (by decide)
  unfold digitsValue decimalUnits
  rw [List.foldl_map]
  rw [Nat.ofDigitChars_eq_foldl] at read
  calc
    _ = (Nat.toDigits 10 number).foldl (fun sofar digit =>
          10 * sofar + (digit.toNat - '0'.toNat)) 0 := by
      congr 1
      funext value digit
      rw [Nat.mul_comm]
      rfl
    _ = number := read

/-- The value of an integer that is not negative. -/
theorem JsonNumber.value_ofNat (number : Nat) : (JsonNumber.ofNat number).value = number := by
  have digits := fun unit member => @digit_of_decimalUnits number unit member
  have plain : ∀ {other : Nat}, other < 48 ∨ 57 < other →
      ∀ unit ∈ decimalUnits number, unit ≠ other := by
    intro other outside unit member
    have bounds := digits unit member
    omega
  have first : ∀ unit, (decimalUnits number).head? = some unit → unit ≠ 45 := by
    intro unit head
    exact plain (.inl (by decide)) unit (List.mem_of_mem_head? head)
  have unsigned : (decimalUnits number).dropWhile (· = 45) = decimalUnits number := by
    cases shape : decimalUnits number with
    | nil => rfl
    | cons unit rest =>
      rw [List.dropWhile_cons_of_neg]
      have other := first unit (by rw [shape]; rfl)
      simpa using other
  have whole : ∀ {other : Nat}, other < 48 ∨ 57 < other →
      (decimalUnits number).takeWhile (· ≠ other) = decimalUnits number ∧
        (decimalUnits number).dropWhile (· ≠ other) = [] := by
    intro other outside
    constructor
    · rw [List.takeWhile_eq_self_iff]
      intro unit member
      exact decide_eq_true (plain outside unit member)
    · rw [List.dropWhile_eq_nil_iff]
      intro unit member
      exact decide_eq_true (plain outside unit member)
  have unsignedHead : (decimalUnits number).head? ≠ some 45 := by
    intro head
    exact first 45 head rfl
  have noExponent := @whole 101 (.inr (by decide))
  have noPoint := @whole 46 (.inl (by decide))
  unfold JsonNumber.value
  change (if (decimalUnits number).head? = some 45 then (-1 : ℚ) else 1) * _ * _ = _
  rw [if_neg unsignedHead]
  simp only [JsonNumber.ofNat, unsigned, noExponent.1, noExponent.2, noPoint.1, noPoint.2,
    List.tail_nil, List.append_nil, digitsValue_decimalUnits]
  simp [digitsValue]

/-! ## Values -/

/-- A value. -/
inductive JsonValue where
  | null
  | bool (value : Bool)
  | number (value : JsonNumber)
  | nonFinite
  | string (text : Utf16)
  | array (items : List JsonValue)
  | object (fields : List (Utf16 × JsonValue))

/-- Fields in the order in which an object lists them. -/
abbrev JsonFields := List (Utf16 × JsonValue)

/-- The index that a name stands for: such names come first, in their order. -/
def arrayIndex (name : Utf16) : Option Nat :=
  if name ≠ [] ∧ (∀ unit ∈ name, 48 ≤ unit ∧ unit ≤ 57) ∧ (name.head? = some 48 → name = [48]) then
    let index := name.foldl (fun value unit => value * 10 + (unit - 48)) 0
    if index < 4294967295 then some index else none
  else none

/-- Whether an object lists a name before another one, when it comes later. -/
def comesBefore (name other : Utf16) : Bool :=
  match arrayIndex name, arrayIndex other with
  | some index, some place => index < place
  | some _, none => true
  | none, _ => false

/-- A new field takes its place. -/
def placeField (name : Utf16) (value : JsonValue) : JsonFields → JsonFields
  | [] => [(name, value)]
  | (other, content) :: rest =>
    if comesBefore name other then (name, value) :: (other, content) :: rest
    else (other, content) :: placeField name value rest

/-- The field of a name takes a value. -/
def replaceField (name : Utf16) (value : JsonValue) (field : Utf16 × JsonValue) :
    Utf16 × JsonValue :=
  (field.1, if field.1 = name then value else field.2)

/-- An own field is set: where it stands, or as a new one. -/
def setField (fields : JsonFields) (name : Utf16) (value : JsonValue) : JsonFields :=
  if name ∈ fields.map Prod.fst then fields.map (replaceField name value)
  else placeField name value fields

/-- The fields of an object that is built from entries. -/
def ofEntries (entries : JsonFields) : JsonFields :=
  entries.foldl (fun fields entry => setField fields entry.1 entry.2) []

/-- An own field. -/
def getField (fields : JsonFields) (name : Utf16) : Option JsonValue := fields.lookup name

/-! ## Text -/

mutual
/-- `JSON.stringify`. -/
def JsonValue.stringify : JsonValue → Utf16
  | .null => utf16 "null"
  | .bool true => utf16 "true"
  | .bool false => utf16 "false"
  | .number value => value.text
  | .nonFinite => utf16 "null"
  | .string text => quote text
  | .array [] => utf16 "[]"
  | .array (item :: rest) => 91 :: (item.stringify ++ stringifyItems rest)
  | .object [] => [123, 125]
  | .object ((name, value) :: rest) =>
    123 :: (quote name ++ 58 :: (value.stringify ++ stringifyFields rest))

/-- What follows an item of an array. -/
def stringifyItems : List JsonValue → Utf16
  | [] => [93]
  | item :: rest => 44 :: (item.stringify ++ stringifyItems rest)

/-- What follows a field of an object. -/
def stringifyFields : JsonFields → Utf16
  | [] => [125]
  | (name, value) :: rest =>
    44 :: (quote name ++ 58 :: (value.stringify ++ stringifyFields rest))
end

/-! ## Reading -/

/-- A text behind a beginning. -/
def stripText (beginning text : Utf16) : Option Utf16 :=
  if beginning.isPrefixOf text then some (text.drop beginning.length) else none

/-- Read a number. -/
def readNumber (text : Utf16) : Option (JsonValue × Utf16) :=
  if nonempty : text.takeWhile isNumberUnit ≠ [] then
    some (.number ⟨text.takeWhile isNumberUnit, nonempty, fun _ member =>
      List.mem_takeWhile_imp member⟩, text.dropWhile isNumberUnit)
  else none

mutual
/-- Read a value from the beginning of a text. -/
def readValue : Nat → Utf16 → Option (JsonValue × Utf16)
  | 0, _ => none
  | _ + 1, [] => none
  | fuel + 1, unit :: rest =>
    if unit = 110 then (stripText (utf16 "ull") rest).map fun last => (.null, last)
    else if unit = 116 then (stripText (utf16 "rue") rest).map fun last => (.bool true, last)
    else if unit = 102 then (stripText (utf16 "alse") rest).map fun last => (.bool false, last)
    else if unit = quotationMark then do
      let (text, last) ← readString fuel rest
      return (.string text, last)
    else if unit = 91 then
      if rest.head? = some 93 then some (.array [], rest.tail)
      else do
        let (item, more) ← readValue fuel rest
        let (items, last) ← readItems fuel more
        return (.array (item :: items), last)
    else if unit = 123 then
      if rest.head? = some 125 then some (.object [], rest.tail)
      else do
        let (field, more) ← readField fuel rest
        let (fields, last) ← readFields fuel more
        return (.object (ofEntries (field :: fields)), last)
    else readNumber (unit :: rest)

/-- Read the further items of an array. -/
def readItems : Nat → Utf16 → Option (List JsonValue × Utf16)
  | 0, _ => none
  | _ + 1, [] => none
  | fuel + 1, unit :: rest =>
    if unit = 93 then some ([], rest)
    else if unit = 44 then do
      let (item, more) ← readValue fuel rest
      let (items, last) ← readItems fuel more
      return (item :: items, last)
    else none

/-- Read the name of a field and its value. -/
def readField : Nat → Utf16 → Option ((Utf16 × JsonValue) × Utf16)
  | 0, _ => none
  | _ + 1, [] => none
  | fuel + 1, unit :: rest =>
    if unit = quotationMark then do
      let (name, more) ← readString fuel rest
      if more.head? = some 58 then
        let (value, last) ← readValue fuel more.tail
        return ((name, value), last)
      else none
    else none

/-- Read the further fields of an object. -/
def readFields : Nat → Utf16 → Option (JsonFields × Utf16)
  | 0, _ => none
  | _ + 1, [] => none
  | fuel + 1, unit :: rest =>
    if unit = 125 then some ([], rest)
    else if unit = 44 then do
      let (field, more) ← readField fuel rest
      let (fields, last) ← readFields fuel more
      return (field :: fields, last)
    else none
end

/-- `JSON.parse`. -/
def JsonValue.parse (text : Utf16) : Option JsonValue :=
  match readValue (text.length + 1) text with
  | some (value, []) => some value
  | _ => none

/-! ## Round trip -/

mutual
/-- A value that has a text: no number in it is infinite, and its objects are as they are built. -/
def JsonValue.Plain : JsonValue → Prop
  | .nonFinite => False
  | .array items => PlainItems items
  | .object fields => ofEntries fields = fields ∧ PlainFields fields
  | _ => True

/-- Items that have texts. -/
def PlainItems : List JsonValue → Prop
  | [] => True
  | item :: rest => item.Plain ∧ PlainItems rest

/-- Fields whose values have texts. -/
def PlainFields : JsonFields → Prop
  | [] => True
  | (_, value) :: rest => value.Plain ∧ PlainFields rest
end

mutual
/-- A value as it is read back: an infinite number as null, and each object built from its entries.
-/
def JsonValue.rebuilt : JsonValue → JsonValue
  | .nonFinite => .null
  | .array items => .array (rebuiltItems items)
  | .object fields => .object (ofEntries (rebuiltFields fields))
  | value => value

/-- Items as they are read back. -/
def rebuiltItems : List JsonValue → List JsonValue
  | [] => []
  | item :: rest => item.rebuilt :: rebuiltItems rest

/-- Fields as they are read back. -/
def rebuiltFields : JsonFields → JsonFields
  | [] => []
  | (name, value) :: rest => (name, value.rebuilt) :: rebuiltFields rest
end

mutual
/-- A value that has a text is read back as it is. -/
theorem rebuilt_of_plain (value : JsonValue) (plain : value.Plain) : value.rebuilt = value := by
  cases value with
  | null | bool choice | number value => rfl
  | nonFinite => cases plain
  | string text => rfl
  | array items => rw [JsonValue.rebuilt, rebuiltItems_of_plain items plain]
  | object fields => rw [JsonValue.rebuilt, rebuiltFields_of_plain fields plain.2, plain.1]

theorem rebuiltItems_of_plain (items : List JsonValue) (plain : PlainItems items) :
    rebuiltItems items = items := by
  cases items with
  | nil => rfl
  | cons item rest =>
    rw [rebuiltItems, rebuilt_of_plain item plain.1, rebuiltItems_of_plain rest plain.2]

theorem rebuiltFields_of_plain (fields : JsonFields) (plain : PlainFields fields) :
    rebuiltFields fields = fields := by
  cases fields with
  | nil => rfl
  | cons field rest =>
    obtain ⟨name, value⟩ := field
    rw [rebuiltFields, rebuilt_of_plain value plain.1, rebuiltFields_of_plain rest plain.2]
end

/-- A number cannot go on in a text. -/
def EndsNumber (rest : Utf16) : Prop := ∀ unit, rest.head? = some unit → isNumberUnit unit = false

theorem endsNumber_cons {unit : Nat} (other : isNumberUnit unit = false) (rest : Utf16) :
    EndsNumber (unit :: rest) := by
  intro first head
  rw [← Option.some.inj head]
  exact other

theorem endsNumber_items (items : List JsonValue) (rest : Utf16) :
    EndsNumber (stringifyItems items ++ rest) := by
  cases items with
  | nil => exact endsNumber_cons (by decide) rest
  | cons item others => exact endsNumber_cons (by decide) _

theorem endsNumber_fields (fields : JsonFields) (rest : Utf16) :
    EndsNumber (stringifyFields fields ++ rest) := by
  cases fields with
  | nil => exact endsNumber_cons (by decide) rest
  | cons field others => exact endsNumber_cons (by decide) _

theorem stripText_append (beginning rest : Utf16) :
    stripText beginning (beginning ++ rest) = some rest := by
  have starts : beginning.isPrefixOf (beginning ++ rest) = true :=
    List.isPrefixOf_iff_prefix.mpr (List.prefix_append beginning rest)
  unfold stripText
  rw [if_pos starts, List.drop_left]

/-- A number is read as far as it goes. -/
theorem readNumber_append (value : JsonNumber) {rest : Utf16} (ends : EndsNumber rest) :
    readNumber (value.text ++ rest) = some (.number value, rest) := by
  have stops : rest.takeWhile isNumberUnit = [] := by
    cases rest with
    | nil => rfl
    | cons unit others => rw [List.takeWhile_cons, ends unit rfl]; rfl
  have stays : rest.dropWhile isNumberUnit = rest := by
    cases rest with
    | nil => rfl
    | cons unit others => rw [List.dropWhile_cons, ends unit rfl]; rfl
  have taken : (value.text ++ rest).takeWhile isNumberUnit = value.text := by
    rw [List.takeWhile_append_of_pos value.shaped, stops, List.append_nil]
  have left : (value.text ++ rest).dropWhile isNumberUnit = rest := by
    rw [List.dropWhile_append_of_pos value.shaped, stays]
  unfold readNumber
  rw [dif_pos (by rw [taken]; exact value.written), left]
  simp only [taken]

theorem JsonNumber.begins (value : JsonNumber) :
    ∃ unit rest, value.text = unit :: rest ∧ isNumberUnit unit = true := by
  cases shape : value.text with
  | nil => exact absurd shape value.written
  | cons unit rest =>
    refine ⟨unit, rest, rfl, value.shaped unit ?_⟩
    rw [shape]
    exact List.mem_cons_self

theorem JsonValue.stringify_head (value : JsonValue) (rest : Utf16) :
    (value.stringify ++ rest).head? ≠ some 93 := by
  cases value with
  | null => intro same; cases same
  | bool choice =>
    cases choice with
    | true => intro same; cases same
    | false => intro same; cases same
  | number value =>
    obtain ⟨unit, others, shape, numeric⟩ := value.begins
    intro same
    rw [JsonValue.stringify, shape] at same
    rw [Option.some.inj same] at numeric
    cases numeric
  | nonFinite | string text => intro same; cases same
  | array items =>
    cases items with
    | nil => intro same; cases same
    | cons item others => intro same; cases same
  | object fields =>
    cases fields with
    | nil => intro same; cases same
    | cons field others => intro same; cases same

private theorem not_number {unit other : Nat} (numeric : isNumberUnit unit = true)
    (distinct : isNumberUnit other = false) : unit ≠ other := by
  intro same
  rw [same, distinct] at numeric
  cases numeric

theorem readValue_number (value : JsonNumber) {rest : Utf16} (ends : EndsNumber rest)
    (fuel : Nat) : readValue (fuel + 1) (value.text ++ rest) = some (.number value, rest) := by
  obtain ⟨unit, others, shape, numeric⟩ := value.begins
  have read := readNumber_append value ends
  rw [shape, List.cons_append] at read ⊢
  rw [readValue, if_neg (not_number numeric (by decide)), if_neg (not_number numeric (by decide)),
    if_neg (not_number numeric (by decide)), if_neg (not_number numeric (by decide)),
    if_neg (not_number numeric (by decide)), if_neg (not_number numeric (by decide))]
  exact read

theorem JsonValue.stringify_pos (value : JsonValue) : 0 < value.stringify.length := by
  cases value with
  | null => decide
  | bool choice =>
    cases choice with
    | true => decide
    | false => decide
  | number value => exact List.length_pos_iff.mpr value.written
  | nonFinite => decide
  | string text => exact Nat.succ_pos _
  | array items =>
    cases items with
    | nil => decide
    | cons item others => exact Nat.succ_pos _
  | object fields =>
    cases fields with
    | nil => decide
    | cons field others => exact Nat.succ_pos _

/-- A field is read back, if its value is. -/
theorem readField_append (name : Utf16) (value : JsonValue) (rest : Utf16)
    (content : ∀ fuel, value.stringify.length ≤ fuel →
      readValue fuel (value.stringify ++ rest) = some (value.rebuilt, rest))
    (fuel : Nat) (enough : (quote name).length + value.stringify.length < fuel) :
    readField fuel (quote name ++ 58 :: (value.stringify ++ rest)) =
      some ((name, value.rebuilt), rest) := by
  cases fuel with
  | zero => cases enough
  | succ fuel =>
    have longer := length_le_quoteUnits name
    simp only [quote, List.length_cons, List.length_append, List.length_nil] at enough
    have named := readString_quoteUnits name (58 :: (value.stringify ++ rest))
      (by omega : name.length < fuel)
    have read := content fuel (by omega)
    simp only [quote, List.cons_append, List.append_assoc, List.nil_append]
    rw [readField, if_pos rfl, named]
    simp only [Option.bind_eq_bind, Option.bind_some, List.head?_cons, if_true, List.tail_cons,
      read, Option.pure_def]

theorem quote_head (name rest : Utf16) : (quote name ++ rest).head? ≠ some 125 := by
  intro same
  cases same

mutual
/-- The text of a value is read back. -/
theorem readValue_stringify (value : JsonValue) (rest : Utf16)
    (ends : EndsNumber rest) (fuel : Nat) (enough : value.stringify.length ≤ fuel) :
    readValue fuel (value.stringify ++ rest) = some (value.rebuilt, rest) := by
  cases fuel with
  | zero =>
    have written := value.stringify_pos
    omega
  | succ fuel =>
    cases value with
    | null =>
      change (stripText (utf16 "ull") (utf16 "ull" ++ rest)).map
        (fun last => (JsonValue.null, last)) = _
      rw [stripText_append]
      rfl
    | bool choice =>
      cases choice with
      | true =>
        change (stripText (utf16 "rue") (utf16 "rue" ++ rest)).map
          (fun last => (JsonValue.bool true, last)) = _
        rw [stripText_append]
        rfl
      | false =>
        change (stripText (utf16 "alse") (utf16 "alse" ++ rest)).map
          (fun last => (JsonValue.bool false, last)) = _
        rw [stripText_append]
        rfl
    | number value => exact readValue_number value ends fuel
    | nonFinite =>
      change (stripText (utf16 "ull") (utf16 "ull" ++ rest)).map
        (fun last => (JsonValue.null, last)) = _
      rw [stripText_append]
      rfl
    | string text =>
      have inside : text.length < fuel := by
        have longer := length_le_quoteUnits text
        simp only [JsonValue.stringify, quote, List.length_cons, List.length_append,
          List.length_nil] at enough
        omega
      have read := readString_quoteUnits text rest inside
      simp only [JsonValue.stringify, quote, List.cons_append, List.append_assoc,
        List.nil_append]
      rw [readValue, if_neg (by decide), if_neg (by decide), if_neg (by decide), if_pos rfl, read]
      rfl
    | array items =>
      cases items with
      | nil => rfl
      | cons item others =>
        simp only [JsonValue.stringify, List.length_cons, List.length_append] at enough
        have first := readValue_stringify item (stringifyItems others ++ rest)
          (endsNumber_items others rest) fuel (by omega)
        have later := readItems_stringify others rest fuel (by omega)
        have begins := item.stringify_head (stringifyItems others ++ rest)
        simp only [JsonValue.stringify, List.cons_append, List.append_assoc]
        rw [readValue, if_neg (by decide), if_neg (by decide), if_neg (by decide),
          if_neg (by decide), if_pos rfl, if_neg begins, first]
        simp only [Option.bind_eq_bind, Option.bind_some, later, Option.pure_def,
          JsonValue.rebuilt, rebuiltItems]
    | object fields =>
      cases fields with
      | nil => rfl
      | cons field others =>
        obtain ⟨name, content⟩ := field
        simp only [JsonValue.stringify, List.length_cons, List.length_append] at enough
        have first := readField_append name content (stringifyFields others ++ rest)
          (readValue_stringify content _ (endsNumber_fields others rest)) fuel (by omega)
        have begins := quote_head name
          (58 :: (content.stringify ++ (stringifyFields others ++ rest)))
        have later := readFields_stringify others rest fuel (by omega)
        simp only [JsonValue.stringify, List.cons_append, List.append_assoc]
        rw [readValue, if_neg (by decide), if_neg (by decide), if_neg (by decide),
          if_neg (by decide), if_neg (by decide), if_pos rfl, if_neg begins, first]
        simp only [Option.bind_eq_bind, Option.bind_some, later, Option.pure_def,
          JsonValue.rebuilt, rebuiltFields]

/-- The further items of an array are read back. -/
theorem readItems_stringify (items : List JsonValue) (rest : Utf16)
    (fuel : Nat) (enough : (stringifyItems items).length ≤ fuel) :
    readItems fuel (stringifyItems items ++ rest) = some (rebuiltItems items, rest) := by
  cases fuel with
  | zero =>
    cases items with
    | nil => cases enough
    | cons item others => cases enough
  | succ fuel =>
    cases items with
    | nil => rfl
    | cons item others =>
      simp only [stringifyItems, List.length_cons, List.length_append] at enough
      have first := readValue_stringify item (stringifyItems others ++ rest)
        (endsNumber_items others rest) fuel (by omega)
      have later := readItems_stringify others rest fuel (by omega)
      simp only [stringifyItems, List.cons_append, List.append_assoc]
      rw [readItems, if_neg (by decide), if_pos rfl, first]
      simp only [Option.bind_eq_bind, Option.bind_some, later, Option.pure_def, rebuiltItems]

/-- The further fields of an object are read back. -/
theorem readFields_stringify (fields : JsonFields) (rest : Utf16)
    (fuel : Nat) (enough : (stringifyFields fields).length ≤ fuel) :
    readFields fuel (stringifyFields fields ++ rest) = some (rebuiltFields fields, rest) := by
  cases fuel with
  | zero =>
    cases fields with
    | nil => cases enough
    | cons field others => cases enough
  | succ fuel =>
    cases fields with
    | nil => rfl
    | cons field others =>
      obtain ⟨name, content⟩ := field
      simp only [stringifyFields, List.length_cons, List.length_append] at enough
      have first := readField_append name content (stringifyFields others ++ rest)
        (readValue_stringify content _ (endsNumber_fields others rest)) fuel (by omega)
      have later := readFields_stringify others rest fuel (by omega)
      simp only [stringifyFields, List.cons_append, List.append_assoc]
      rw [readFields, if_neg (by decide), if_pos rfl, first]
      simp only [Option.bind_eq_bind, Option.bind_some, later, Option.pure_def, rebuiltFields]
end

theorem parse_text (value : JsonValue) : JsonValue.parse value.stringify = some value.rebuilt := by
  have nothing : EndsNumber [] := by
    intro unit head
    cases head
  have read := readValue_stringify value [] nothing (value.stringify.length + 1) (by omega)
  rw [List.append_nil] at read
  rw [JsonValue.parse, read]

theorem parse_stringify {value : JsonValue} (plain : value.Plain) :
    JsonValue.parse value.stringify = some value := by
  rw [parse_text, rebuilt_of_plain value plain]

/-! ## Bytes -/

/-- The number of bytes of the text of a value. -/
def JsonValue.bytes (value : JsonValue) : Nat := byteLength value.stringify

/-- The number of bytes of a field. -/
def fieldBytes (field : Utf16 × JsonValue) : Nat := byteLength (quote field.1) + 1 + field.2.bytes

mutual
/-- What follows the text of a value is counted by itself. -/
theorem closed_stringify (value : JsonValue) : Closed value.stringify := by
  cases value with
  | null => exact closed_of_small (by decide)
  | bool choice =>
    cases choice with
    | true => exact closed_of_small (by decide)
    | false => exact closed_of_small (by decide)
  | number value =>
    apply closed_of_small
    intro unit member
    have shaped := value.shaped unit member
    simp only [isNumberUnit, Bool.or_eq_true, Bool.and_eq_true, decide_eq_true_eq] at shaped
    omega
  | nonFinite => exact closed_of_small (by decide)
  | string text => exact closed_quote text
  | array items =>
    cases items with
    | nil => exact closed_of_small (by decide)
    | cons item others =>
      exact Closed.cons (by decide) ((closed_stringify item).append (closed_stringifyItems others))
  | object fields =>
    cases fields with
    | nil => exact closed_of_small (by decide)
    | cons field others =>
      obtain ⟨name, content⟩ := field
      exact Closed.cons (by decide) ((closed_quote name).append
        (Closed.cons (by decide)
          ((closed_stringify content).append (closed_stringifyFields others))))

theorem closed_stringifyItems (items : List JsonValue) : Closed (stringifyItems items) := by
  cases items with
  | nil => exact closed_of_small (by decide)
  | cons item others =>
    exact Closed.cons (by decide) ((closed_stringify item).append (closed_stringifyItems others))

theorem closed_stringifyFields (fields : JsonFields) : Closed (stringifyFields fields) := by
  cases fields with
  | nil => exact closed_of_small (by decide)
  | cons field others =>
    obtain ⟨name, content⟩ := field
    exact Closed.cons (by decide) ((closed_quote name).append
      (Closed.cons (by decide) ((closed_stringify content).append (closed_stringifyFields others))))
end

theorem byteLength_stringifyItems (items : List JsonValue) :
    byteLength (stringifyItems items) = 1 + items.length + (items.map JsonValue.bytes).sum := by
  induction items with
  | nil => rfl
  | cons item others ih =>
    rw [stringifyItems, byteLength_cons (by decide), closed_stringify, ih, List.length_cons,
      List.map_cons, List.sum_cons]
    change 1 + (item.bytes + _) = _
    omega

/-- The bytes of an array: its brackets, its commas and its items. -/
theorem bytes_array (items : List JsonValue) :
    (JsonValue.array items).bytes = 2 + (items.length - 1) + (items.map JsonValue.bytes).sum := by
  cases items with
  | nil => rfl
  | cons item others =>
    unfold JsonValue.bytes
    rw [JsonValue.stringify, byteLength_cons (by decide), closed_stringify,
      byteLength_stringifyItems, List.length_cons, List.map_cons, List.sum_cons]
    change 1 + (item.bytes + (1 + others.length + (others.map JsonValue.bytes).sum)) =
      2 + (others.length + 1 - 1) + (item.bytes + (others.map JsonValue.bytes).sum)
    omega

theorem byteLength_field (name : Utf16) (value : JsonValue) (rest : Utf16) :
    byteLength (quote name ++ 58 :: (value.stringify ++ rest)) =
      fieldBytes (name, value) + byteLength rest := by
  rw [closed_quote, byteLength_cons (by decide), closed_stringify]
  change _ + (1 + (value.bytes + _)) = byteLength (quote name) + 1 + value.bytes + _
  omega

theorem byteLength_stringifyFields (fields : JsonFields) :
    byteLength (stringifyFields fields) = 1 + fields.length + (fields.map fieldBytes).sum := by
  induction fields with
  | nil => rfl
  | cons field others ih =>
    obtain ⟨name, content⟩ := field
    rw [stringifyFields, byteLength_cons (by decide), byteLength_field, ih, List.length_cons,
      List.map_cons, List.sum_cons]
    change 1 + (_ + _) = _
    omega

/-- The bytes of an object: its braces, its commas and its fields. -/
theorem bytes_object (fields : JsonFields) :
    (JsonValue.object fields).bytes = 2 + (fields.length - 1) + (fields.map fieldBytes).sum := by
  cases fields with
  | nil => rfl
  | cons field others =>
    obtain ⟨name, content⟩ := field
    unfold JsonValue.bytes
    rw [JsonValue.stringify, byteLength_cons (by decide), byteLength_field,
      byteLength_stringifyFields, List.length_cons, List.map_cons, List.sum_cons]
    change 1 + (_ + (1 + others.length + _)) = 2 + (others.length + 1 - 1) + _
    omega

/-! ## Setting fields -/

theorem placeField_perm (name : Utf16) (value : JsonValue) (fields : JsonFields) :
    (placeField name value fields).Perm ((name, value) :: fields) := by
  induction fields with
  | nil => exact List.Perm.refl _
  | cons field others ih =>
    obtain ⟨other, content⟩ := field
    rw [placeField]
    split
    · exact List.Perm.refl _
    · exact (ih.cons (other, content)).trans (List.Perm.swap _ _ _)

variable {name : Utf16}

theorem setField_of_absent {fields : JsonFields} (value : JsonValue)
    (absent : name ∉ fields.map Prod.fst) :
    setField fields name value = placeField name value fields := by
  unfold setField
  rw [if_neg absent]

theorem setField_of_present {fields : JsonFields} (value : JsonValue)
    (present : name ∈ fields.map Prod.fst) :
    setField fields name value = fields.map (replaceField name value) := by
  unfold setField
  rw [if_pos present]

/-- Entries with distinct names, none of them there, join the fields. -/
theorem foldl_setField_perm (entries fields : JsonFields)
    (distinct : ((fields ++ entries).map Prod.fst).Nodup) :
    (entries.foldl (fun fields entry => setField fields entry.1 entry.2) fields).Perm
      (fields ++ entries) := by
  induction entries generalizing fields with
  | nil => rw [List.foldl_nil, List.append_nil]
  | cons entry others ih =>
    have moved : (fields ++ entry :: others).Perm ((entry :: fields) ++ others) :=
      List.perm_middle
    have apart := (moved.map Prod.fst).nodup_iff.mp distinct
    have absent : entry.1 ∉ fields.map Prod.fst := by
      rw [List.cons_append, List.map_cons, List.nodup_cons, List.map_append, List.mem_append,
        not_or] at apart
      exact apart.1.1
    have placed := placeField_perm entry.1 entry.2 fields
    rw [List.foldl_cons, setField_of_absent entry.2 absent]
    have next : ((placeField entry.1 entry.2 fields ++ others).map Prod.fst).Nodup :=
      (((placed.append_right others).map Prod.fst).nodup_iff).mpr apart
    exact ((ih _ next).trans (placed.append_right others)).trans moved.symm

/-- The names of an object stay where they stand when one of them takes a value. -/
theorem names_setField_of_present {fields : JsonFields} (value : JsonValue)
    (present : name ∈ fields.map Prod.fst) :
    (setField fields name value).map Prod.fst = fields.map Prod.fst := by
  rw [setField_of_present value present, List.map_map]
  rfl

/-- The names of an object after a field is set do not depend on its value. -/
theorem names_setField (fields : JsonFields) (name : Utf16) (value other : JsonValue) :
    (setField fields name value).map Prod.fst = (setField fields name other).map Prod.fst := by
  by_cases present : name ∈ fields.map Prod.fst
  · rw [names_setField_of_present value present, names_setField_of_present other present]
  · rw [setField_of_absent value present, setField_of_absent other present]
    clear present
    induction fields with
    | nil => rfl
    | cons field others ih =>
      rw [placeField, placeField]
      split
      · rfl
      · rw [List.map_cons, List.map_cons, ih]

/-- The names of an object after a field is set. -/
theorem mem_setField_names (fields : JsonFields) (name other : Utf16) (value : JsonValue) :
    other ∈ (setField fields name value).map Prod.fst ↔
      other = name ∨ other ∈ fields.map Prod.fst := by
  by_cases present : name ∈ fields.map Prod.fst
  · rw [names_setField_of_present value present]
    constructor
    · exact Or.inr
    · intro either
      cases either with
      | inl same =>
        rw [same]
        exact present
      | inr there => exact there
  · rw [setField_of_absent value present,
      ((placeField_perm name value fields).map Prod.fst).mem_iff, List.map_cons, List.mem_cons]

private theorem replace_of_absent {fields : JsonFields} (value : JsonValue)
    (absent : name ∉ fields.map Prod.fst) : fields.map (replaceField name value) = fields := by
  apply (List.map_congr_left _).trans (List.map_id' fields)
  intro field member
  unfold replaceField
  rw [if_neg]
  intro same
  rw [← same] at absent
  exact absent (List.mem_map_of_mem member)

/-- A field that was just placed is replaced where it stands. -/
private theorem replace_placed (fields : JsonFields) (name : Utf16) (first second : JsonValue)
    (absent : name ∉ fields.map Prod.fst) :
    (placeField name first fields).map (replaceField name second) =
      placeField name second fields := by
  have placed : replaceField name second (name, first) = (name, second) := by
    unfold replaceField
    rw [if_pos rfl]
  induction fields with
  | nil =>
    rw [placeField, placeField, List.map_cons, placed]
    rfl
  | cons field others ih =>
    obtain ⟨other, content⟩ := field
    have kept := replace_of_absent second absent
    rw [List.map_cons, List.mem_cons, not_or] at absent
    rw [placeField, placeField]
    split
    · rw [List.map_cons, placed, kept]
    · rw [List.map_cons, ih absent.2]
      rw [List.map_cons] at kept
      rw [(List.cons.inj kept).1]

private theorem getField_placeField (fields : JsonFields) (name : Utf16) (value : JsonValue)
    (absent : name ∉ fields.map Prod.fst) :
    getField (placeField name value fields) name = some value := by
  unfold getField
  induction fields with
  | nil => rw [placeField, List.lookup_cons_self]
  | cons field others ih =>
    obtain ⟨other, content⟩ := field
    rw [List.map_cons, List.mem_cons, not_or] at absent
    rw [placeField]
    split
    · rw [List.lookup_cons_self]
    · rw [List.lookup_cons, beq_false_of_ne absent.1]
      exact ih absent.2

theorem getField_setField (fields : JsonFields) (name : Utf16) (value : JsonValue) :
    getField (setField fields name value) name = some value := by
  by_cases present : name ∈ fields.map Prod.fst
  · rw [setField_of_present value present]
    unfold getField
    induction fields with
    | nil => cases present
    | cons field others ih =>
      rw [List.map_cons, List.lookup_cons]
      unfold replaceField
      by_cases same : name = field.1
      · subst same
        rw [beq_self_eq_true, if_pos rfl]
      · rw [beq_false_of_ne same]
        rw [List.map_cons, List.mem_cons] at present
        exact ih (present.resolve_left same)
  · rw [setField_of_absent value present]
    exact getField_placeField fields name value present

theorem present_of_getField {fields : JsonFields} {value : JsonValue}
    (found : getField fields name = some value) : name ∈ fields.map Prod.fst := by
  obtain ⟨before, after, shape, _⟩ := List.lookup_eq_some_iff.mp found
  rw [shape, List.map_append, List.map_cons]
  exact List.mem_append_right _ List.mem_cons_self

section

variable (fields : JsonFields)

include fields

theorem getField_without_self (name : Utf16) :
    getField (fields.filter fun field => field.1 ≠ name) name = none := by
  cases found : getField (fields.filter fun field => field.1 ≠ name) name with
  | none => rfl
  | some value =>
    obtain ⟨field, member, same⟩ := List.mem_map.mp (present_of_getField found)
    have kept := (List.mem_filter.mp member).2
    rw [same] at kept
    simp at kept

variable {name other : Utf16}

/-- A field with another name than one that is left out is found as before. -/
theorem getField_without (differs : name ≠ other) :
    getField (fields.filter fun field => field.1 ≠ other) name = getField fields name := by
  unfold getField
  induction fields with
  | nil => rfl
  | cons field others ih =>
    rw [List.filter_cons, List.lookup_cons]
    split
    · rw [List.lookup_cons, ih]
    · next left =>
      have out : field.1 = other := by simpa using left
      rw [beq_false_of_ne (by rw [out]; exact differs), ih]

/-- A field that was just set takes another value. -/
theorem setField_setField (name : Utf16) (first second : JsonValue) :
    setField (setField fields name first) name second = setField fields name second := by
  have there : name ∈ (setField fields name first).map Prod.fst :=
    (mem_setField_names fields name name first).mpr (.inl rfl)
  rw [setField_of_present second there]
  by_cases present : name ∈ fields.map Prod.fst
  · rw [setField_of_present first present, setField_of_present second present, List.map_map]
    apply List.map_congr_left
    intro field _
    simp only [Function.comp_apply, replaceField]
    split
    · rfl
    · rfl
  · rw [setField_of_absent first present, setField_of_absent second present]
    exact replace_placed fields name first second present

/-- The other fields stand as they stood after a field is set. -/
theorem without_setField (name : Utf16) (value : JsonValue)
    (keep : Utf16 → Bool) (dropped : keep name = false) :
    (setField fields name value).filter (fun field => keep field.1) =
      fields.filter fun field => keep field.1 := by
  by_cases present : name ∈ fields.map Prod.fst
  · rw [setField_of_present value present]
    clear present
    induction fields with
    | nil => rfl
    | cons field others ih =>
      rw [List.map_cons, List.filter_cons, List.filter_cons, ih]
      by_cases same : field.1 = name
      · rw [replaceField, same, dropped]
        rfl
      · have kept : replaceField name value field = field := by
          unfold replaceField
          rw [if_neg same]
        rw [kept]
  · rw [setField_of_absent value present]
    clear present
    induction fields with
    | nil => rw [placeField, List.filter_cons_of_neg (by rw [dropped]; exact Bool.false_ne_true)]
    | cons field others ih =>
      obtain ⟨other, content⟩ := field
      rw [placeField]
      split
      · rw [List.filter_cons_of_neg (by rw [dropped]; exact Bool.false_ne_true)]
      · rw [List.filter_cons, List.filter_cons, ih]

/-- A field with another name than one that is set is found as before. -/
theorem getField_setField_of_ne (value : JsonValue) (differs : other ≠ name) :
    getField (setField fields name value) other = getField fields other := by
  rw [← getField_without (setField fields name value) differs,
    ← getField_without fields differs]
  have same := without_setField fields name value (fun kept => kept ≠ name) (by simp)
  exact congrArg (fun kept => getField kept other) same

/-- Placing a field does not touch the others. -/
private theorem replace_placeField (differs : other ≠ name) (value content : JsonValue) :
    (placeField other content fields).map (replaceField name value) =
      placeField other content (fields.map (replaceField name value)) := by
  have kept : replaceField name value (other, content) = (other, content) := by
    unfold replaceField
    rw [if_neg differs]
  induction fields with
  | nil =>
    rw [placeField, List.map_cons, kept]
    rfl
  | cons field others ih =>
    obtain ⟨first, inside⟩ := field
    rw [placeField, List.map_cons]
    unfold replaceField
    rw [placeField]
    split
    · rw [List.map_cons, List.map_cons, if_neg differs]
    · rw [List.map_cons]
      exact congrArg _ ih

end

/-- A field that is there can be set before another one. -/
theorem setField_comm {fields : JsonFields} {name other : Utf16} (differs : other ≠ name)
    (present : name ∈ fields.map Prod.fst) (value content : JsonValue) :
    setField (setField fields other content) name value =
      setField (setField fields name value) other content := by
  have there : name ∈ (setField fields other content).map Prod.fst :=
    (mem_setField_names fields other name content).mpr (.inr present)
  have member := mem_setField_names fields name other value
  rw [setField_of_present value there]
  by_cases placed : other ∈ fields.map Prod.fst
  · rw [setField_of_present content placed,
      setField_of_present content (member.mpr (.inr placed)), setField_of_present value present,
      List.map_map, List.map_map]
    apply List.map_congr_left
    intro field _
    simp only [Function.comp_apply, replaceField]
    by_cases first : field.1 = other
    · simp [first, differs]
    · simp [first]
  · have missing : other ∉ (setField fields name value).map Prod.fst := by
      rw [member, not_or]
      exact ⟨differs, placed⟩
    rw [setField_of_absent content placed, setField_of_absent content missing,
      setField_of_present value present]
    exact replace_placeField fields differs value content

variable {name : Utf16}

/-- A field that is there can be set before entries with other names. -/
theorem foldl_setField_comm {α : Type} (cell : α → JsonValue) (entries : List (Utf16 × α))
    {fields : JsonFields} (present : name ∈ fields.map Prod.fst)
    (absent : name ∉ entries.map Prod.fst) (value : JsonValue) :
    entries.foldl (fun row entry => setField row entry.1 (cell entry.2))
        (setField fields name value) =
      setField (entries.foldl (fun row entry => setField row entry.1 (cell entry.2)) fields)
        name value := by
  induction entries generalizing fields with
  | nil => rfl
  | cons entry others ih =>
    rw [List.map_cons, List.mem_cons, not_or] at absent
    have there : name ∈ (setField fields entry.1 (cell entry.2)).map Prod.fst :=
      (mem_setField_names fields entry.1 name _).mpr (.inr present)
    rw [List.foldl_cons, List.foldl_cons, ← ih there absent.2,
      setField_comm (fun same => absent.1 same.symm) present]

/-- Where a name takes another value in entries with distinct names, the object takes it. -/
theorem foldl_setField_replace {α : Type} (cell : α → JsonValue) (entries : List (Utf16 × α))
    (fields : JsonFields) (distinct : (entries.map Prod.fst).Nodup)
    (present : name ∈ entries.map Prod.fst) (value : α) :
    (entries.map fun entry => if entry.1 = name then (name, value) else entry).foldl
        (fun row entry => setField row entry.1 (cell entry.2)) fields =
      setField (entries.foldl (fun row entry => setField row entry.1 (cell entry.2)) fields) name
        (cell value) := by
  induction entries generalizing fields with
  | nil => cases present
  | cons entry others ih =>
    rw [List.map_cons, List.nodup_cons] at distinct
    by_cases same : entry.1 = name
    · subst same
      have kept : (others.map fun entry' =>
          if entry'.1 = entry.1 then (entry.1, value) else entry') = others := by
        apply (List.map_congr_left _).trans (List.map_id' others)
        intro other member
        rw [if_neg]
        intro again
        apply distinct.1
        rw [← again]
        exact List.mem_map_of_mem member
      have there : entry.1 ∈ (setField fields entry.1 (cell entry.2)).map Prod.fst :=
        (mem_setField_names fields entry.1 entry.1 _).mpr (.inl rfl)
      rw [List.map_cons, if_pos rfl, kept, List.foldl_cons, List.foldl_cons,
        ← foldl_setField_comm cell others there distinct.1, setField_setField]
    · have later : name ∈ others.map Prod.fst := by
        rw [List.map_cons, List.mem_cons] at present
        exact present.resolve_left fun again => same again.symm
      rw [List.map_cons, if_neg same, List.foldl_cons, List.foldl_cons]
      exact ih _ distinct.2 later

/-- The bytes of the fields after one of them took another value. -/
theorem fieldBytes_replace {fields : JsonFields} {old : JsonValue}
    (distinct : (fields.map Prod.fst).Nodup) (present : (name, old) ∈ fields) (value : JsonValue) :
    ((fields.map (replaceField name value)).map fieldBytes).sum + old.bytes =
      (fields.map fieldBytes).sum + value.bytes := by
  induction fields with
  | nil => cases present
  | cons field others ih =>
    rw [List.map_cons, List.nodup_cons] at distinct
    rw [List.map_cons, List.map_cons, List.sum_cons, List.map_cons, List.sum_cons]
    by_cases same : field.1 = name
    · have absent : name ∉ others.map Prod.fst := by
        rw [← same]
        exact distinct.1
      have here : field = (name, old) := by
        cases present with
        | head => rfl
        | tail _ later => exact absurd (List.mem_map_of_mem (f := Prod.fst) later) absent
      rw [replace_of_absent value absent, here]
      unfold replaceField fieldBytes
      rw [if_pos rfl]
      simp only
      omega
    · have later : (name, old) ∈ others := by
        cases present with
        | head => exact absurd rfl same
        | tail _ later => exact later
      have kept : replaceField name value field = field := by
        unfold replaceField
        rw [if_neg same]
      have rest := ih distinct.2 later
      rw [kept]
      omega

theorem bytes_setField {fields : JsonFields} {old : JsonValue}
    (distinct : (fields.map Prod.fst).Nodup) (present : (name, old) ∈ fields) (value : JsonValue) :
    (JsonValue.object (setField fields name value)).bytes + old.bytes =
      (JsonValue.object fields).bytes + value.bytes := by
  have there : name ∈ fields.map Prod.fst := List.mem_map.mpr ⟨(name, old), present, rfl⟩
  have replaced := fieldBytes_replace distinct present value
  rw [bytes_object, bytes_object, setField_of_present value there, List.length_map]
  omega

end PlugHub.Library
