import PlugHub.Library.JsonValue
import PlugHub.Library.OrderedMap

/-!
# Columnar chunks of a stream

An agent may send the rows of a chunk by their columns. The hub inspects such a chunk, measures the
expanded payload without building it, rejects it when it has too many rows or bytes, and expands it.
The rows are those of the plain expansion, cell by cell, and the measure is the number of bytes of
the expanded payload as JSON.
-/

namespace PlugHub.ColumnarChunks

open Library

/-! ## Chunks -/

/-- An object; no two of its fields have one name. -/
structure JsonObject where
  fields : JsonFields
  distinct : (fields.map Prod.fst).Nodup

/-- Why a chunk is rejected. -/
inductive ChunkError where
  | rowsInvalid
  | columnarInvalid
  /-- The count of rows is no count, or the columns are no array. -/
  | columnsInvalid
  /-- A column has no name, no type or the wrong number of values. -/
  | vectorInvalid
  | typeError
  | rowLimit
  | byteLimit
deriving DecidableEq

/-- The message of the error. -/
def ChunkError.message : ChunkError → String
  | .rowsInvalid => "rpc:chunk rows must be an array"
  | .columnarInvalid => "rpc:chunk columnar must be an object"
  | .columnsInvalid => "rpc:chunk columnar row_count and columns are invalid"
  | .vectorInvalid => "rpc:chunk columnar vector is invalid"
  | .typeError => "Cannot convert object to primitive value"
  | .rowLimit => "rpc:chunk exceeds negotiated row limit"
  | .byteLimit => "Normalized rpc:chunk exceeds payload byte limit"

/-- The values of a column, one for each row. -/
structure SqlColumn (rowCount : Nat) where
  values : List JsonValue
  sized : values.length = rowCount

/-- The value of a row. -/
def SqlColumn.cell {rowCount : Nat} (column : SqlColumn rowCount) (row : Fin rowCount) :
    JsonValue :=
  column.values.get (row.cast column.sized.symm)

/-- The columns of a chunk by their names. -/
abbrev Columns (rowCount : Nat) := OrderedMap Utf16 (SqlColumn rowCount)

/-- What the inspection of a valid chunk finds. -/
inductive ValidSqlChunkInspection where
  | rows (rowCount : Nat)
  | columns (rowCount : Nat) (columns : Columns rowCount)

/-! ## Inspection -/

/-- The field of an object by a plain name. -/
def field (fields : JsonFields) (name : String) : Option JsonValue := getField fields (utf16 name)

/-- A number that `Number.isSafeInteger` takes and that is not negative. -/
def safeCount (number : JsonNumber) : Option Nat :=
  let count := number.text.foldl (fun value unit => value * 10 + (unit - 48)) 0
  if number.text = decimalUnits count ∧ count ≤ 9007199254740991 then some count else none

mutual
/-- `String` of a value, unless it throws: an object has no text when its own `toString` hides the
inherited one. -/
def stringOf : JsonValue → Option Utf16
  | .null => some (utf16 "null")
  | .bool true => some (utf16 "true")
  | .bool false => some (utf16 "false")
  | .number number => some number.text
  | .nonFinite => some (utf16 "NaN")
  | .string text => some text
  | .array items => joinItems items
  | .object fields =>
    if (getField fields (utf16 "toString")).isSome then none else some (utf16 "[object Object]")

/-- The items of an array, joined; null is empty. -/
def joinItems : List JsonValue → Option Utf16
  | [] => some []
  | .null :: rest => joinRest rest
  | item :: rest => do return (← stringOf item) ++ (← joinRest rest)

/-- What follows an item that is joined. -/
def joinRest : List JsonValue → Option Utf16
  | [] => some []
  | .null :: rest => do return 44 :: (← joinRest rest)
  | item :: rest => do return 44 :: ((← stringOf item) ++ (← joinRest rest))
end

/-- The types that a column may have. -/
def columnTypes : List Utf16 := [utf16 "int32", utf16 "int64", utf16 "float64", utf16 "object"]

/-- `String` of the type of a column. -/
def typeText (column : JsonFields) : Option Utf16 :=
  match field column "type" with
  | some value => stringOf value
  | none => some (utf16 "undefined")

/-- One column, checked in the order of the source. -/
def readColumn (rowCount : Nat) (column : JsonValue) :
    Except ChunkError (Utf16 × SqlColumn rowCount) :=
  match column with
  | .object fields =>
    match field fields "name" with
    | some (.string name) =>
      match typeText fields with
      | none => .error .typeError
      | some type =>
        if columnTypes.contains type then
          match field fields "values" with
          | some (.array values) =>
            if sized : values.length = rowCount then .ok (name, ⟨values, sized⟩)
            else .error .vectorInvalid
          | _ => .error .vectorInvalid
        else .error .vectorInvalid
    | _ => .error .vectorInvalid
  | _ => .error .vectorInvalid

/-- The columns are stored under their names. -/
def selectColumns (rowCount : Nat) (selected : Columns rowCount) :
    List JsonValue → Except ChunkError (Columns rowCount)
  | [] => .ok selected
  | column :: rest =>
    match readColumn rowCount column with
    | .error error => .error error
    | .ok (name, vector) => selectColumns rowCount (selected.set name vector) rest

/-- `inspectSqlStreamChunk`. -/
def inspectSqlStreamChunk (chunk : JsonObject) : Except ChunkError ValidSqlChunkInspection :=
  match field chunk.fields "rows" with
  | some (.array rows) =>
    match field chunk.fields "columnar" with
    | none => .ok (.rows rows.length)
    | some columnar =>
      if 0 < rows.length then .ok (.rows rows.length)
      else
        match columnar with
        | .object columnar =>
          match field columnar "row_count", field columnar "columns" with
          | some (.number count), some (.array columns) =>
            match safeCount count with
            | none => .error .columnsInvalid
            | some rowCount =>
              match selectColumns rowCount .empty columns with
              | .error error => .error error
              | .ok selected => .ok (.columns rowCount selected)
          | _, _ => .error .columnsInvalid
        | _ => .error .columnarInvalid
  | _ => .error .rowsInvalid

/-! ## Measure -/

/-- Whether the loop of `jsonStringBytes` ends at a unit that JSON writes in another way. -/
def needsStringify : Utf16 → Bool
  | [] => false
  | [unit] =>
    unit < 0x20 || unit = 0x22 || unit = 0x5c || unit = 0x2028 || unit = 0x2029 ||
      isHighSurrogate unit || isLowSurrogate unit
  | unit :: next :: rest =>
    if unit < 0x20 || unit = 0x22 || unit = 0x5c || unit = 0x2028 || unit = 0x2029 then true
    else if isHighSurrogate unit then
      if isLowSurrogate next then needsStringify rest else true
    else if isLowSurrogate unit then true
    else needsStringify (next :: rest)

/-- `jsonStringBytes`. -/
def jsonStringBytes (value : Utf16) : Nat :=
  if needsStringify value then byteLength (quote value) else byteLength value + 2

/-- `jsonValueBytes`. -/
def jsonValueBytes : JsonValue → Nat
  | .null => 4
  | .bool true => 4
  | .bool false => 5
  | .number number => number.text.length
  | .nonFinite => 4
  | .string text => jsonStringBytes text
  | value => byteLength value.stringify

/-- The limits of a chunk. -/
structure ChunkLimits where
  maxRows : Nat
  maxBytes : Nat

section Normalize

variable {rowCount : Nat} (columns : Columns rowCount) (limits : ChunkLimits)

/-- The bytes of a row without its values. -/
def rowOverhead : Nat :=
  columns.keys.foldl (fun bytes name => bytes + byteLength (quote name) + 1)
    (2 + (columns.keys.length - 1))

/-- The bytes of a row are added. -/
def addRow (size : Nat) (row : Fin rowCount) : Nat :=
  columns.values.foldl (fun bytes column => bytes + jsonValueBytes (column.cell row))
    (size + rowOverhead columns)

/-- The loop over the rows. -/
def addRows : List (Fin rowCount) → Nat → Except ChunkError Nat
  | [], size => .ok size
  | row :: rest, size =>
    if limits.maxBytes < addRow columns size row then .error .byteLimit
    else addRows rest (addRow columns size row)

/-! ## Expansion -/

/-- The names of `Object.prototype`. -/
def objectPrototypeNames : List Utf16 :=
  [utf16 "constructor", utf16 "__defineGetter__", utf16 "__defineSetter__",
    utf16 "hasOwnProperty", utf16 "__lookupGetter__", utf16 "__lookupSetter__",
    utf16 "isPrototypeOf", utf16 "propertyIsEnumerable", utf16 "toString", utf16 "valueOf",
    utf16 "__proto__", utf16 "toLocaleString"]

/-- An assignment to a property of a plain object: the inherited setter takes `__proto__`, every
other name becomes an own property. -/
def assignProperty (row : JsonFields) (name : Utf16) (value : JsonValue) : JsonFields :=
  if name = utf16 "__proto__" then row else setField row name value

/-- One cell of a row; names of `Object.prototype` are defined, others are assigned. -/
def expandCell (row : JsonFields) (name : Utf16) (value : JsonValue) : JsonFields :=
  if objectPrototypeNames.contains name then setField row name value else assignProperty row name value

/-- One row. -/
def expandRow (row : Fin rowCount) : JsonValue :=
  .object (columns.entries.foldl
    (fun fields entry => expandCell fields entry.1 (entry.2.cell row)) [])

/-- `expandInspectedSqlChunkRows`. -/
def expandInspectedSqlChunkRows : List JsonValue := (List.finRange rowCount).map (expandRow columns)

/-! ## Normalization -/

/-- What the normalization of a chunk comes to. -/
inductive Normalization where
  | unchanged
  /-- The budget of the stream does not admit so many rows and bytes. -/
  | refused (rowCount size : Nat)
  | normalized (payload : JsonFields) (originalSizeBytes : Nat)

/-- The chunk without its columns. -/
def withoutColumnar (chunk : JsonObject) : JsonFields :=
  chunk.fields.filter fun field => field.1 ≠ utf16 "columnar"

/-- The last checks. -/
def admitted (admits : Nat → Nat → Bool) (rowCount size : Nat) (payload : JsonFields) :
    Except ChunkError Normalization :=
  if limits.maxBytes < size then .error .byteLimit
  else if admits rowCount size then .ok (.normalized payload size)
  else .ok (.refused rowCount size)

/-- `normalizeColumnarSqlChunk`. -/
def normalizeColumnarSqlChunk (chunk : JsonObject) (admits : Nat → Nat → Bool) :
    Except ChunkError Normalization :=
  match field chunk.fields "columnar" with
  | none => .ok .unchanged
  | some _ =>
    match inspectSqlStreamChunk chunk with
    | .error error => .error error
    | .ok inspected =>
      let payload := withoutColumnar chunk
      let size := byteLength (JsonValue.object payload).stringify
      match inspected with
      | .rows rowCount => admitted limits admits rowCount size payload
      | .columns rowCount columns =>
        if limits.maxRows < rowCount then .error .rowLimit
        else
          match addRows columns limits (List.finRange rowCount) (size + (rowCount - 1)) with
          | .error error => .error error
          | .ok size =>
            admitted limits admits rowCount size
              (setField payload (utf16 "rows") (.array (expandInspectedSqlChunkRows columns)))

end Normalize

/-! ## The plain expansion -/

/-- A value is a column of a name, with some values. -/
structure IsColumn (column : JsonValue) (name : Utf16) (values : List JsonValue) : Prop where
  shaped : ∃ fields type, column = .object fields ∧ field fields "name" = some (.string name) ∧
    typeText fields = some type ∧ type ∈ columnTypes ∧ field fields "values" = some (.array values)

/-- One row, cell by cell: each column sets its own field, a later one of the same name again. -/
def plainRow (vectors : List (Utf16 × List JsonValue)) (row : Nat) : JsonValue :=
  .object (vectors.foldl
    (fun fields vector => setField fields vector.1 (vector.2.getD row .null)) [])

/-- The rows, one by one. -/
def plainRows (rowCount : Nat) (vectors : List (Utf16 × List JsonValue)) : List JsonValue :=
  (List.range rowCount).map (plainRow vectors)

/-- A chunk without rows of its own carries columns with so many values each. -/
structure Carries (chunk : JsonObject) (rowCount : Nat)
    (vectors : List (Utf16 × List JsonValue)) : Prop where
  rows : field chunk.fields "rows" = some (.array [])
  columns : ∃ columnar count columns, field chunk.fields "columnar" = some (.object columnar) ∧
    field columnar "row_count" = some (.number count) ∧ safeCount count = some rowCount ∧
    field columnar "columns" = some (.array columns) ∧
    List.Forall₂ (fun column vector => IsColumn column vector.1 vector.2) columns vectors
  sized : ∀ vector ∈ vectors, vector.2.length = rowCount

/-! ## The inspection finds the columns -/

variable {rowCount : Nat}

theorem cell_eq (column : SqlColumn rowCount) (row : Fin rowCount) :
    column.cell row = column.values.getD row .null := by
  have inside : row.val < column.values.length := by
    rw [column.sized]
    exact row.isLt
  unfold SqlColumn.cell
  rw [List.getD_eq_getElem?_getD, List.getElem?_eq_getElem inside]
  rfl

/-- The fields of a row of stored columns. -/
def storedRow {rowCount : Nat} (columns : Columns rowCount) (row : Fin rowCount) : JsonFields :=
  columns.entries.foldl (fun fields entry => setField fields entry.1 (entry.2.cell row)) []

theorem storedRow_set (columns : Columns rowCount) (name : Utf16)
    (column : SqlColumn rowCount) (row : Fin rowCount) :
    storedRow (columns.set name column) row =
      setField (storedRow columns row) name (column.cell row) := by
  unfold storedRow
  by_cases present : name ∈ columns.keys
  · rw [OrderedMap.entries_set_of_present present]
    exact foldl_setField_replace (fun column : SqlColumn rowCount => column.cell row)
      columns.entries [] columns.distinct present column
  · rw [OrderedMap.entries_set_of_absent present, List.foldl_append]
    rfl

theorem readColumn_eq_ok_iff (rowCount : Nat) (column : JsonValue) (name : Utf16)
    (vector : SqlColumn rowCount) :
    readColumn rowCount column = .ok (name, vector) ↔ IsColumn column name vector.values := by
  constructor
  · intro read
    unfold readColumn at read
    split at read
    · next fields =>
      split at read
      · next found named =>
        split at read
        · cases read
        · next type typed =>
          split at read
          · next allowed =>
            split at read
            · next values valued =>
              split at read
              · next sized =>
                have same := Except.ok.inj read
                cases same
                exact ⟨⟨fields, type, rfl, named, typed, List.contains_iff_mem.mp allowed, valued⟩⟩
              · cases read
            · cases read
          · cases read
      · cases read
    · cases read
  · intro shaped
    obtain ⟨fields, type, rfl, named, typed, allowed, valued⟩ := shaped.shaped
    unfold readColumn
    simp only [named, typed, if_pos (List.contains_iff_mem.mpr allowed), valued,
      dif_pos vector.sized]

theorem selectColumns_ok (columns : List JsonValue) (start selected : Columns rowCount)
    (done : selectColumns rowCount start columns = .ok selected) :
    ∃ vectors : List (Utf16 × List JsonValue),
      List.Forall₂ (fun column vector => IsColumn column vector.1 vector.2) columns vectors ∧
        (∀ vector ∈ vectors, vector.2.length = rowCount) ∧
          ∀ row : Fin rowCount, storedRow selected row =
            vectors.foldl (fun fields vector => setField fields vector.1 (vector.2.getD row .null))
              (storedRow start row) := by
  induction columns generalizing start with
  | nil =>
    rw [← Except.ok.inj done]
    refine ⟨[], .nil, ?_, fun row => rfl⟩
    intro vector member
    cases member
  | cons column rest ih =>
    rw [selectColumns] at done
    cases read : readColumn rowCount column with
    | error error =>
      rw [read] at done
      cases done
    | ok found =>
      obtain ⟨name, vector⟩ := found
      rw [read] at done
      obtain ⟨vectors, shaped, sized, rows⟩ := ih _ done
      refine ⟨(name, vector.values) :: vectors,
        .cons ((readColumn_eq_ok_iff rowCount column name vector).mp read) shaped, ?_, ?_⟩
      · intro other member
        cases member with
        | head => exact vector.sized
        | tail _ later => exact sized other later
      · intro row
        rw [rows row, storedRow_set, List.foldl_cons, cell_eq]

theorem selectColumns_of_columns {columns : List JsonValue}
    {vectors : List (Utf16 × List JsonValue)}
    (shaped : List.Forall₂ (fun column vector => IsColumn column vector.1 vector.2) columns vectors)
    (sized : ∀ vector ∈ vectors, vector.2.length = rowCount) (start : Columns rowCount) :
    ∃ selected, selectColumns rowCount start columns = .ok selected ∧
      ∀ row : Fin rowCount, storedRow selected row =
        vectors.foldl (fun fields vector => setField fields vector.1 (vector.2.getD row .null))
          (storedRow start row) := by
  induction shaped generalizing start with
  | nil => exact ⟨start, rfl, fun row => rfl⟩
  | @cons column vector columns vectors shaped others ih =>
    have length := sized vector List.mem_cons_self
    have read := (readColumn_eq_ok_iff rowCount column vector.1 ⟨vector.2, length⟩).mpr shaped
    obtain ⟨selected, done, rows⟩ := ih
      (fun other member => sized other (List.mem_cons_of_mem vector member))
      (start.set vector.1 ⟨vector.2, length⟩)
    refine ⟨selected, ?_, ?_⟩
    · rw [selectColumns, read]
      exact done
    · intro row
      rw [rows row, storedRow_set, List.foldl_cons, cell_eq]

/-! ## The expansion is the plain one -/

theorem expandCell_eq (row : JsonFields) (name : Utf16) (value : JsonValue) :
    expandCell row name value = setField row name value := by
  unfold expandCell
  split
  · rfl
  · next outside =>
    unfold assignProperty
    rw [if_neg]
    intro same
    apply outside
    rw [same]
    decide

theorem expandRow_eq (columns : Columns rowCount) (row : Fin rowCount) :
    expandRow columns row = .object (storedRow columns row) := by
  unfold expandRow storedRow
  simp only [expandCell_eq]

theorem expand_eq_plainRows {columns : Columns rowCount} {vectors : List (Utf16 × List JsonValue)}
    (rows : ∀ row : Fin rowCount, storedRow columns row =
      vectors.foldl (fun fields vector => setField fields vector.1 (vector.2.getD row .null)) []) :
    expandInspectedSqlChunkRows columns = plainRows rowCount vectors := by
  unfold expandInspectedSqlChunkRows plainRows
  rw [← List.map_coe_finRange_eq_range, List.map_map]
  apply List.map_congr_left
  intro row _
  rw [expandRow_eq, rows row]
  rfl

/-! ## The measure is the number of bytes -/

theorem escapeUnit_of_plain {unit : Nat}
    (plain : (unit < 0x20 || unit = 0x22 || unit = 0x5c || unit = 0x2028 || unit = 0x2029) = false)
    (notHigh : isHighSurrogate unit = false) (notLow : isLowSurrogate unit = false) :
    escapeUnit unit = [unit] := by
  simp only [isHighSurrogate, isLowSurrogate, Bool.or_eq_false_iff, Bool.and_eq_false_iff,
    decide_eq_false_iff_not] at plain notHigh notLow
  have notSurrogate : ¬(decide (unit < 0x20) || isSurrogate unit) = true := by
    simp only [isSurrogate, Bool.or_eq_true, Bool.and_eq_true, decide_eq_true_eq]
    omega
  unfold escapeUnit
  rw [if_neg (by unfold quotationMark; omega), if_neg (by unfold backslash; omega),
    if_neg (by omega), if_neg (by omega), if_neg (by omega), if_neg (by omega), if_neg (by omega),
    if_neg notSurrogate]

theorem quoteUnits_of_plain (value : Utf16) (plain : needsStringify value = false) :
    quoteUnits value = value ∧ Closed value := by
  induction value using quoteUnits.induct with
  | case1 => exact ⟨rfl, closed_nil⟩
  | case2 unit =>
    rw [needsStringify, Bool.or_eq_false_iff, Bool.or_eq_false_iff] at plain
    obtain ⟨⟨plain, notHigh⟩, notLow⟩ := plain
    rw [quoteUnits, escapeUnit_of_plain plain notHigh notLow]
    exact ⟨rfl, closed_single notHigh⟩
  | case3 unit next rest pair ih =>
    rw [needsStringify] at plain
    have both := pair
    rw [Bool.and_eq_true] at both
    split at plain
    · cases plain
    · rw [if_pos both.1, if_pos both.2] at plain
      obtain ⟨same, closed⟩ := ih plain
      rw [quoteUnits, if_pos pair, same]
      exact ⟨rfl, (closed_pair both.1 both.2).append closed⟩
  | case4 unit next rest alone ih =>
    rw [needsStringify] at plain
    split at plain
    · cases plain
    · next allowed =>
      have notHigh : isHighSurrogate unit = false := by
        cases high : isHighSurrogate unit with
        | false => rfl
        | true =>
          rw [high, if_pos rfl] at plain
          split at plain
          · next low => exact absurd (by rw [high, low]; rfl) alone
          · cases plain
      rw [notHigh, if_neg (by decide)] at plain
      split at plain
      · cases plain
      · next notLow =>
        obtain ⟨same, closed⟩ := ih plain
        rw [quoteUnits, if_neg alone, same,
          escapeUnit_of_plain (Bool.not_eq_true _ ▸ allowed) notHigh (Bool.not_eq_true _ ▸ notLow)]
        exact ⟨rfl, Closed.cons notHigh closed⟩

theorem jsonStringBytes_eq (value : Utf16) : jsonStringBytes value = byteLength (quote value) := by
  unfold jsonStringBytes
  split
  · rfl
  · next plain =>
    obtain ⟨same, closed⟩ := quoteUnits_of_plain value (Bool.not_eq_true _ ▸ plain)
    unfold quote
    rw [same, byteLength_cons (by decide), closed]
    change byteLength value + 2 = 1 + (byteLength value + 1)
    omega

theorem jsonValueBytes_eq (value : JsonValue) : jsonValueBytes value = value.bytes := by
  cases value with
  | null => rfl
  | bool choice =>
    cases choice with
    | true => rfl
    | false => rfl
  | number number =>
    symm
    apply byteLength_of_ascii
    intro unit member
    have shaped := number.shaped unit member
    simp only [isNumberUnit, Bool.or_eq_true, Bool.and_eq_true, decide_eq_true_eq] at shaped
    omega
  | nonFinite => rfl
  | string text => exact jsonStringBytes_eq text
  | array items | object fields => rfl

private theorem foldl_add_sum {α : Type} (measure : α → Nat) (items : List α) (start : Nat) :
    items.foldl (fun bytes item => bytes + measure item) start =
      start + (items.map measure).sum := by
  induction items generalizing start with
  | nil => rfl
  | cons item rest ih =>
    rw [List.foldl_cons, ih, List.map_cons, List.sum_cons]
    omega

section Measure

variable {rowCount : Nat} (columns : Columns rowCount) (limits : ChunkLimits)

theorem storedRow_perm (row : Fin rowCount) :
    (storedRow columns row).Perm
      (columns.entries.map fun entry => (entry.1, entry.2.cell row)) := by
  have distinct : (([] ++ columns.entries.map fun entry : Utf16 × SqlColumn rowCount =>
      (entry.1, entry.2.cell row)).map Prod.fst).Nodup := by
    rw [List.nil_append, List.map_map]
    exact columns.distinct
  have built := foldl_setField_perm _ [] distinct
  rw [List.foldl_map, List.nil_append] at built
  exact built

theorem addRow_eq (size : Nat) (row : Fin rowCount) :
    addRow columns size row = size + (expandRow columns row).bytes := by
  have built := storedRow_perm columns row
  have cells : ∀ column : SqlColumn rowCount,
      jsonValueBytes (column.cell row) = (column.cell row).bytes :=
    fun column => jsonValueBytes_eq (column.cell row)
  have parts : ((storedRow columns row).map fieldBytes).sum =
      (columns.entries.map fun entry => byteLength (quote entry.1) + 1).sum +
        (columns.entries.map fun entry => (entry.2.cell row).bytes).sum := by
    rw [(built.map fieldBytes).sum_eq, List.map_map, ← List.sum_map_add]
    rfl
  have length : (storedRow columns row).length = columns.entries.length := by
    rw [built.length_eq, List.length_map]
  unfold addRow rowOverhead
  simp only [cells, Nat.add_assoc _ _ 1]
  rw [foldl_add_sum (fun column : SqlColumn rowCount => (column.cell row).bytes),
    foldl_add_sum (fun name => byteLength (quote name) + 1), expandRow_eq, bytes_object, parts,
    length]
  unfold OrderedMap.keys OrderedMap.values
  rw [List.length_map, List.map_map, List.map_map]
  simp only [Function.comp_def]
  omega

theorem addRows_eq (rows : List (Fin rowCount)) (size : Nat) :
    addRows columns limits rows size =
      if rows ≠ [] ∧ limits.maxBytes <
          size + (rows.map fun row => (expandRow columns row).bytes).sum then .error .byteLimit
      else .ok (size + (rows.map fun row => (expandRow columns row).bytes).sum) := by
  induction rows generalizing size with
  | nil =>
    rw [if_neg (fun refuted => refuted.1 rfl)]
    rfl
  | cons row rest ih =>
    rw [addRows, addRow_eq, ih, List.map_cons, List.sum_cons, ← Nat.add_assoc]
    by_cases ended : limits.maxBytes < size + (expandRow columns row).bytes
    · rw [if_pos ended, if_pos ⟨List.cons_ne_nil row rest, by omega⟩]
    · rw [if_neg ended]
      cases rest with
      | nil =>
        rw [if_neg (fun refuted => refuted.1 rfl), if_neg]
        intro refuted
        exact ended refuted.2
      | cons next others =>
        simp only [ne_eq, reduceCtorEq, not_false_eq_true, true_and]

end Measure

/-- The payload of an expanded chunk. -/
def expandedPayload (chunk : JsonObject) (rows : List JsonValue) : JsonFields :=
  setField (withoutColumnar chunk) (utf16 "rows") (.array rows)

theorem withoutColumnar_distinct (chunk : JsonObject) :
    ((withoutColumnar chunk).map Prod.fst).Nodup :=
  chunk.distinct.sublist (List.filter_sublist.map Prod.fst)

theorem mem_of_field {fields : JsonFields} {name : String} {value : JsonValue}
    (found : field fields name = some value) : (utf16 name, value) ∈ fields := by
  obtain ⟨before, after, shape, _⟩ := List.lookup_eq_some_iff.mp found
  rw [shape]
  exact List.mem_append_right before List.mem_cons_self

theorem bytes_expandedPayload {chunk : JsonObject} (rows : List JsonValue)
    (empty : field chunk.fields "rows" = some (.array [])) :
    (JsonValue.object (expandedPayload chunk rows)).bytes =
      (JsonValue.object (withoutColumnar chunk)).bytes + (rows.length - 1) +
        (rows.map JsonValue.bytes).sum := by
  have there : (utf16 "rows", JsonValue.array []) ∈ withoutColumnar chunk := by
    apply List.mem_filter.mpr
    exact ⟨mem_of_field empty, by decide⟩
  have changed := bytes_setField (withoutColumnar_distinct chunk) there (.array rows)
  have nothing : (JsonValue.array []).bytes = 2 := rfl
  rw [nothing, bytes_array] at changed
  unfold expandedPayload
  omega

/-! ## Normalized chunks -/

section Normalized

variable (limits : ChunkLimits) (chunk : JsonObject) (admits : Nat → Nat → Bool)

/-- Columns that were selected from the vectors of a chunk are measured, checked and expanded as the
plain expansion. -/
theorem normalize_columns {columns : Columns rowCount} {vectors : List (Utf16 × List JsonValue)}
    (empty : field chunk.fields "rows" = some (.array []))
    (rows : expandInspectedSqlChunkRows columns = plainRows rowCount vectors) :
    (match addRows columns limits (List.finRange rowCount)
        ((JsonValue.object (withoutColumnar chunk)).bytes + (rowCount - 1)) with
      | .error error => .error error
      | .ok size =>
        admitted limits admits rowCount size
          (setField (withoutColumnar chunk) (utf16 "rows")
            (.array (expandInspectedSqlChunkRows columns)))) =
      admitted limits admits rowCount
        (JsonValue.object (expandedPayload chunk (plainRows rowCount vectors))).bytes
        (expandedPayload chunk (plainRows rowCount vectors)) := by
  have length : (expandInspectedSqlChunkRows columns).length = rowCount := by
    unfold expandInspectedSqlChunkRows
    rw [List.length_map, List.length_finRange]
  have whole := bytes_expandedPayload (expandInspectedSqlChunkRows columns) empty
  have cells : ((List.finRange rowCount).map fun row => (expandRow columns row).bytes).sum =
      ((expandInspectedSqlChunkRows columns).map JsonValue.bytes).sum := by
    unfold expandInspectedSqlChunkRows
    rw [List.map_map]
    rfl
  rw [length, ← cells] at whole
  rw [← rows, whole, addRows_eq]
  by_cases ended : List.finRange rowCount ≠ [] ∧ limits.maxBytes <
      (JsonValue.object (withoutColumnar chunk)).bytes + (rowCount - 1) +
        ((List.finRange rowCount).map fun row => (expandRow columns row).bytes).sum
  · rw [if_pos ended]
    unfold admitted
    rw [if_pos ended.2]
  · rw [if_neg ended]
    rfl

/-- What is known of a normalization. -/
structure Normalizes : Prop where
  /-- A chunk that carries columns is rejected when it has too many rows, or when the plainly
  expanded payload has too many bytes, and otherwise yields this payload and its size. -/
  expanded : ∀ rowCount vectors, Carries chunk rowCount vectors →
    normalizeColumnarSqlChunk limits chunk admits =
      if limits.maxRows < rowCount then .error .rowLimit
      else
        admitted limits admits rowCount
          (JsonValue.object (expandedPayload chunk (plainRows rowCount vectors))).bytes
          (expandedPayload chunk (plainRows rowCount vectors))
  /-- Rows of its own take precedence: their payload is measured, and their number is not
  limited. -/
  existing : ∀ columnar row rest, field chunk.fields "columnar" = some columnar →
    field chunk.fields "rows" = some (.array (row :: rest)) →
      normalizeColumnarSqlChunk limits chunk admits =
        admitted limits admits (rest.length + 1) (JsonValue.object (withoutColumnar chunk)).bytes
          (withoutColumnar chunk)
  /-- Every other chunk with columns, ragged ones among them, is rejected as invalid. -/
  invalid : ∀ columnar, field chunk.fields "columnar" = some columnar →
    (∀ rowCount vectors, ¬Carries chunk rowCount vectors) →
      (∀ row rest, field chunk.fields "rows" ≠ some (.array (row :: rest))) →
        ∃ error, normalizeColumnarSqlChunk limits chunk admits = .error error ∧
          error ≠ .rowLimit ∧ error ≠ .byteLimit

theorem readColumn_error {column : JsonValue} {error : ChunkError}
    (failed : readColumn rowCount column = .error error) :
    error ≠ .rowLimit ∧ error ≠ .byteLimit := by
  have cases : error = .vectorInvalid ∨ error = .typeError := by
    unfold readColumn at failed
    split at failed
    · split at failed
      · split at failed
        · exact .inr (Except.error.inj failed).symm
        · split at failed
          · split at failed
            · split at failed
              · cases failed
              · exact .inl (Except.error.inj failed).symm
            · exact .inl (Except.error.inj failed).symm
          · exact .inl (Except.error.inj failed).symm
      · exact .inl (Except.error.inj failed).symm
    · exact .inl (Except.error.inj failed).symm
  cases cases with
  | inl same | inr same =>
    subst same
    decide

theorem selectColumns_error {columns : List JsonValue} {start : Columns rowCount}
    {error : ChunkError} (failed : selectColumns rowCount start columns = .error error) :
    error ≠ .rowLimit ∧ error ≠ .byteLimit := by
  induction columns generalizing start with
  | nil => cases failed
  | cons column rest ih =>
    rw [selectColumns] at failed
    cases read : readColumn rowCount column with
    | error reason =>
      rw [read] at failed
      rw [← Except.error.inj failed]
      exact readColumn_error read
    | ok found =>
      rw [read] at failed
      exact ih failed

/-- What an inspection with columns finds: rows of its own, or columns, or an error that is not
about the size. -/
theorem inspect_cases {columnar : JsonValue}
    (present : field chunk.fields "columnar" = some columnar) :
    (∃ row rest, field chunk.fields "rows" = some (.array (row :: rest)) ∧
        inspectSqlStreamChunk chunk = .ok (.rows (rest.length + 1))) ∨
      (∃ rowCount columns vectors, Carries chunk rowCount vectors ∧
        inspectSqlStreamChunk chunk = .ok (.columns rowCount columns) ∧
          expandInspectedSqlChunkRows columns = plainRows rowCount vectors) ∨
        ∃ error, inspectSqlStreamChunk chunk = .error error ∧ error ≠ .rowLimit ∧
          error ≠ .byteLimit := by
  unfold inspectSqlStreamChunk
  split
  · next rows found =>
    rw [present]
    cases rows with
    | cons row rest =>
      left
      refine ⟨row, rest, found, ?_⟩
      simp only [List.length_cons, Nat.zero_lt_succ, if_true]
    | nil =>
      right
      simp only [List.length_nil, Nat.lt_irrefl, if_false]
      split
      · next fields =>
        split
        · next count columns counted listed =>
          cases safe : safeCount count with
          | none => exact .inr ⟨_, rfl, by decide, by decide⟩
          | some rowCount =>
            cases selection : selectColumns rowCount .empty columns with
            | error error =>
              simp only [selection]
              exact .inr ⟨error, rfl, selectColumns_error selection⟩
            | ok selected =>
              simp only [selection]
              obtain ⟨vectors, shaped, sized, stored⟩ := selectColumns_ok columns _ _ selection
              refine .inl ⟨rowCount, selected, vectors, ?_, rfl, expand_eq_plainRows stored⟩
              exact ⟨found, ⟨fields, count, columns, present, counted, safe, listed, shaped⟩, sized⟩
        · exact .inr ⟨_, rfl, by decide, by decide⟩
      · exact .inr ⟨_, rfl, by decide, by decide⟩
  · exact .inr (.inr ⟨_, rfl, by decide, by decide⟩)

theorem admitted_cases (rowCount size : Nat) (payload : JsonFields) :
    admitted limits admits rowCount size payload = .error .byteLimit ∨
      admitted limits admits rowCount size payload = .ok (.normalized payload size) ∨
        admitted limits admits rowCount size payload = .ok (.refused rowCount size) ∧
          admits rowCount size = false := by
  unfold admitted
  split
  · exact .inl rfl
  · split
    · exact .inr (.inl rfl)
    · next refused => exact .inr (.inr ⟨rfl, Bool.not_eq_true _ ▸ refused⟩)

/-- Whether a chunk can be normalized does not depend on what the stream admits. -/
theorem normalize_isSome (other : Nat → Nat → Bool) :
    (normalizeColumnarSqlChunk limits chunk admits).toOption.isSome =
      (normalizeColumnarSqlChunk limits chunk other).toOption.isSome := by
  unfold normalizeColumnarSqlChunk admitted
  cases field chunk.fields "columnar" with
  | none => rfl
  | some columnar =>
    cases inspectSqlStreamChunk chunk with
    | error reason => rfl
    | ok inspected =>
      cases inspected with
      | rows rowCount =>
        dsimp only
        split_ifs <;> rfl
      | columns rowCount columns =>
        dsimp only
        split
        · rfl
        · split
          · rfl
          · split_ifs <;> rfl

/-- What a normalization comes to: a chunk without columns is left, one with columns is rejected,
refused because it is not admitted, or measured with the rows that it has. -/
theorem normalize_cases :
    (∃ error, normalizeColumnarSqlChunk limits chunk admits = .error error) ∨
      (normalizeColumnarSqlChunk limits chunk admits = .ok .unchanged ∧
        field chunk.fields "columnar" = none) ∨
      (∃ rowCount size,
        normalizeColumnarSqlChunk limits chunk admits = .ok (.refused rowCount size) ∧
          admits rowCount size = false) ∨
      ∃ payload, normalizeColumnarSqlChunk limits chunk admits =
          .ok (.normalized payload (JsonValue.object payload).bytes) ∧
        ((∃ columnar row rest, field chunk.fields "columnar" = some columnar ∧
            field chunk.fields "rows" = some (.array (row :: rest)) ∧
              payload = withoutColumnar chunk) ∨
          ∃ rowCount vectors, Carries chunk rowCount vectors ∧
            payload = expandedPayload chunk (plainRows rowCount vectors)) := by
  unfold normalizeColumnarSqlChunk
  cases present : field chunk.fields "columnar" with
  | none => exact .inr (.inl ⟨rfl, rfl⟩)
  | some columnar =>
    rcases inspect_cases chunk present with ⟨row, rest, found, inspected⟩ |
      ⟨rowCount, columns, vectors, carries, inspected, rows⟩ | ⟨error, inspected, _⟩
    · simp only [inspected]
      rcases admitted_cases limits admits (rest.length + 1)
        (byteLength (JsonValue.object (withoutColumnar chunk)).stringify)
        (withoutColumnar chunk) with large | measured | refused
      · exact .inl ⟨_, large⟩
      · exact .inr (.inr (.inr ⟨_, measured, .inl ⟨columnar, row, rest, rfl, found, rfl⟩⟩))
      · exact .inr (.inr (.inl ⟨_, _, refused⟩))
    · simp only [inspected]
      have expanded := normalize_columns limits chunk admits carries.rows rows
      split
      · exact .inl ⟨_, rfl⟩
      · rcases admitted_cases limits admits rowCount
          (JsonValue.object (expandedPayload chunk (plainRows rowCount vectors))).bytes
          (expandedPayload chunk (plainRows rowCount vectors)) with large | measured | refused
        · exact .inl ⟨_, expanded.trans large⟩
        · exact .inr (.inr (.inr
            ⟨_, expanded.trans measured, .inr ⟨rowCount, vectors, carries, rfl⟩⟩))
        · exact .inr (.inr (.inl ⟨_, _, expanded.trans refused.1, refused.2⟩))
    · simp only [inspected]
      exact .inl ⟨error, rfl⟩

theorem inspect_of_carries {vectors : List (Utf16 × List JsonValue)}
    (carries : Carries chunk rowCount vectors) :
    ∃ columns : Columns rowCount,
      inspectSqlStreamChunk chunk = .ok (.columns rowCount columns) ∧
        expandInspectedSqlChunkRows columns = plainRows rowCount vectors := by
  obtain ⟨fields, count, columns, present, counted, safe, listed, shaped⟩ := carries.columns
  obtain ⟨selected, selection, stored⟩ := selectColumns_of_columns shaped carries.sized .empty
  refine ⟨selected, ?_, expand_eq_plainRows stored⟩
  unfold inspectSqlStreamChunk
  simp only [carries.rows, present, List.length_nil, Nat.lt_irrefl, if_false, counted, listed, safe,
    selection]

/-- For every chunk, the normalization is the plain expansion with the size of its text, it rejects
what is too large and nothing else for its size, and it leaves rows that are there alone. -/
theorem normalizes : Normalizes limits chunk admits where
  expanded := by
    intro rowCount vectors carries
    obtain ⟨columns, inspected, rows⟩ := inspect_of_carries chunk carries
    obtain ⟨fields, _, _, present, _⟩ := carries.columns
    have measured := normalize_columns limits chunk admits carries.rows rows
    unfold normalizeColumnarSqlChunk
    simp only [present, inspected]
    split
    · rfl
    · exact measured
  existing := by
    intro columnar row rest present found
    unfold normalizeColumnarSqlChunk inspectSqlStreamChunk
    simp only [present, found, List.length_cons, Nat.zero_lt_succ, if_true]
    rfl
  invalid := by
    intro columnar present foreign noRows
    unfold normalizeColumnarSqlChunk
    rcases inspect_cases chunk present with own | carried | ⟨error, failed, other⟩
    · obtain ⟨row, rest, found, _⟩ := own
      exact absurd found (noRows row rest)
    · obtain ⟨rowCount, columns, vectors, carries, _⟩ := carried
      exact absurd carries (foreign rowCount vectors)
    · simp only [present, failed]
      exact ⟨error, rfl, other⟩

end Normalized

/-- A chunk of one column of one value with the given rows and count of rows. -/
def oneColumn (rows : List JsonValue) (rowCount : Nat) : JsonObject where
  fields :=
    [(utf16 "rows", .array rows),
      (utf16 "columnar", .object [(utf16 "row_count", .number (.ofNat rowCount)),
        (utf16 "columns", .array [.object [(utf16 "name", .string (utf16 "id")),
          (utf16 "type", .string (utf16 "int32")), (utf16 "values", .array [.null])]])])]
  distinct := (by decide : [utf16 "rows", utf16 "columnar"].Nodup)

/-- A chunk that carries a column of one value is expanded to one row, which has 22 bytes. -/
theorem carried_column_expands :
    Carries (oneColumn [] 1) 1 [(utf16 "id", [.null])] ∧
      (normalizeColumnarSqlChunk ⟨10, 1000⟩ (oneColumn [] 1) fun _ _ => true) =
        .ok (.normalized [(utf16 "rows", .array [.object [(utf16 "id", .null)]])] 22) := by
  have column : IsColumn (.object [(utf16 "name", .string (utf16 "id")),
      (utf16 "type", .string (utf16 "int32")), (utf16 "values", .array [.null])]) (utf16 "id")
      [.null] := ⟨_, _, rfl, rfl, rfl, by decide, rfl⟩
  have carries : Carries (oneColumn [] 1) 1 [(utf16 "id", [.null])] :=
    ⟨rfl, ⟨_, _, _, rfl, rfl, rfl, rfl, .cons column .nil⟩, by decide⟩
  exact ⟨carries, ((normalizes _ _ _).expanded 1 _ carries).trans rfl⟩

/-- A ragged column is not expanded: the chunk is rejected as invalid; and rows that are there are
not rejected when they are more than the limit. -/
theorem ragged_is_invalid_and_rows_are_not_limited :
    (normalizeColumnarSqlChunk ⟨10, 1000⟩ (oneColumn [] 2) fun _ _ => true) =
        .error .vectorInvalid ∧
      ∃ payload size, (normalizeColumnarSqlChunk ⟨1, 1000⟩ (oneColumn [.null, .null] 1)
        fun _ _ => true) = .ok (.normalized payload size) :=
  ⟨rfl, _, _, rfl⟩

end PlugHub.ColumnarChunks
