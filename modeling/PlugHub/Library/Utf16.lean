import Mathlib.Data.List.DropRight

/-!
# Strings of code units

A string as its UTF-16 code units, where surrogates need not come in pairs: the number of its bytes
in UTF-8, its text as JSON, which is read back whatever follows it, and the number of bytes of that
text. A string is closed when what follows it cannot complete a pair with its last unit, and then
the numbers of bytes add up.
-/

namespace PlugHub.Library

/-- A string as its code units. -/
abbrev Utf16 := List Nat

/-- The code units of a text, none of whose characters takes two. -/
def utf16 (text : String) : Utf16 := text.toList.map Char.toNat

/-- The first unit of a pair. -/
def isHighSurrogate (unit : Nat) : Bool := 0xd800 ≤ unit && unit ≤ 0xdbff

/-- The second unit of a pair. -/
def isLowSurrogate (unit : Nat) : Bool := 0xdc00 ≤ unit && unit ≤ 0xdfff

/-- A unit that stands for a part of a character. -/
def isSurrogate (unit : Nat) : Bool := 0xd800 ≤ unit && unit ≤ 0xdfff

/-! ## Bytes -/

/-- The bytes of a unit that stands alone; a surrogate without the other one is replaced. -/
def unitBytes (unit : Nat) : Nat :=
  if unit < 0x80 then 1 else if unit < 0x800 then 2 else 3

/-- `Buffer.byteLength` of a string. -/
def byteLength : Utf16 → Nat
  | [] => 0
  | [unit] => unitBytes unit
  | unit :: next :: rest =>
    if isHighSurrogate unit && isLowSurrogate next then 4 + byteLength rest
    else unitBytes unit + byteLength (next :: rest)

/-- The number of bytes of a string adds up with that of what follows. -/
def Closed (text : Utf16) : Prop :=
  ∀ rest, byteLength (text ++ rest) = byteLength text + byteLength rest

theorem closed_nil : Closed [] := by
  intro rest
  rw [List.nil_append, byteLength, Nat.zero_add]

theorem Closed.append {first second : Utf16} (closed : Closed first) (closed' : Closed second) :
    Closed (first ++ second) := by
  intro rest
  rw [List.append_assoc, closed, closed', closed, Nat.add_assoc]

variable {unit : Nat}

/-- A unit that is not the first of a pair is counted by itself. -/
theorem byteLength_cons (single : isHighSurrogate unit = false) (rest : Utf16) :
    byteLength (unit :: rest) = unitBytes unit + byteLength rest := by
  cases rest with
  | nil => rfl
  | cons next rest =>
    rw [byteLength, single]
    rfl

theorem closed_single (single : isHighSurrogate unit = false) : Closed [unit] := by
  intro rest
  exact byteLength_cons single rest

theorem Closed.cons {text : Utf16} (single : isHighSurrogate unit = false)
    (closed : Closed text) : Closed (unit :: text) :=
  (closed_single single).append closed

theorem closed_pair {high low : Nat} (first : isHighSurrogate high = true)
    (second : isLowSurrogate low = true) : Closed [high, low] := by
  intro rest
  rw [List.cons_append, List.cons_append, List.nil_append, byteLength, byteLength, first, second]
  rfl

theorem closed_of_small {text : Utf16} (small : ∀ unit ∈ text, unit < 0xd800) : Closed text := by
  induction text with
  | nil => exact closed_nil
  | cons unit rest ih =>
    have head := small unit List.mem_cons_self
    refine Closed.cons ?_ (ih fun other member => small other (List.mem_cons_of_mem unit member))
    unfold isHighSurrogate
    rw [decide_eq_false (by omega), Bool.false_and]

theorem byteLength_of_ascii {text : Utf16} (ascii : ∀ unit ∈ text, unit < 0x80) :
    byteLength text = text.length := by
  induction text with
  | nil => rfl
  | cons unit rest ih =>
    have head := ascii unit List.mem_cons_self
    have single : isHighSurrogate unit = false := by
      unfold isHighSurrogate
      rw [decide_eq_false (by omega), Bool.false_and]
    have tail := ih fun other member => ascii other (List.mem_cons_of_mem unit member)
    rw [byteLength_cons single, tail, unitBytes, if_pos head, List.length_cons]
    omega

/-! ## JSON strings -/

/-- The quotation mark. -/
def quotationMark : Nat := 34

/-- The backslash. -/
def backslash : Nat := 92

/-- A hexadecimal digit in lower case. -/
def hexUnit (value : Nat) : Nat := if value < 10 then 48 + value else 87 + value

/-- A unit by its number. -/
def unicodeEscape (unit : Nat) : Utf16 :=
  [backslash, 117, hexUnit (unit / 4096), hexUnit (unit / 256 % 16), hexUnit (unit / 16 % 16),
    hexUnit (unit % 16)]

/-- What `JSON.stringify` writes for a unit that is in no pair. -/
def escapeUnit (unit : Nat) : Utf16 :=
  if unit = quotationMark then [backslash, quotationMark]
  else if unit = backslash then [backslash, backslash]
  else if unit = 8 then [backslash, 98]
  else if unit = 12 then [backslash, 102]
  else if unit = 10 then [backslash, 110]
  else if unit = 13 then [backslash, 114]
  else if unit = 9 then [backslash, 116]
  else if unit < 0x20 || isSurrogate unit then unicodeEscape unit
  else [unit]

/-- What it writes between the quotation marks. -/
def quoteUnits : Utf16 → Utf16
  | [] => []
  | [unit] => escapeUnit unit
  | unit :: next :: rest =>
    if isHighSurrogate unit && isLowSurrogate next then unit :: next :: quoteUnits rest
    else escapeUnit unit ++ quoteUnits (next :: rest)

/-- `JSON.stringify` of a string. -/
def quote (text : Utf16) : Utf16 := quotationMark :: (quoteUnits text ++ [quotationMark])

/-- The value of a hexadecimal digit. -/
def hexValue16 (unit : Nat) : Option Nat :=
  if 48 ≤ unit && unit ≤ 57 then some (unit - 48)
  else if 97 ≤ unit && unit ≤ 102 then some (unit - 87)
  else if 65 ≤ unit && unit ≤ 70 then some (unit - 55)
  else none

/-- The unit that a mark stands for behind a backslash. -/
def escapedUnit (mark : Nat) : Option Nat :=
  if mark = quotationMark || mark = backslash || mark = 47 then some mark
  else if mark = 98 then some 8
  else if mark = 102 then some 12
  else if mark = 110 then some 10
  else if mark = 114 then some 13
  else if mark = 116 then some 9
  else none

/-- Read a unit of a JSON string. -/
def readUnit : Utf16 → Option (Nat × Utf16)
  | [] => none
  | unit :: rest =>
    if unit = backslash then
      match rest with
      | [] => none
      | mark :: more =>
        if mark = 117 then
          match more with
          | first :: second :: third :: fourth :: last => do
            let first ← hexValue16 first
            let second ← hexValue16 second
            let third ← hexValue16 third
            let fourth ← hexValue16 fourth
            return (first * 4096 + second * 256 + third * 16 + fourth, last)
          | _ => none
        else (escapedUnit mark).map fun value => (value, more)
    else if unit < 0x20 || unit = quotationMark then none
    else some (unit, rest)

/-- Read a JSON string behind its first quotation mark. -/
def readString : Nat → Utf16 → Option (Utf16 × Utf16)
  | 0, _ => none
  | _ + 1, [] => none
  | fuel + 1, unit :: rest =>
    if unit = quotationMark then some ([], rest)
    else do
      let (first, more) ← readUnit (unit :: rest)
      let (text, last) ← readString fuel more
      return (first :: text, last)

theorem hexValue16_hexUnit {value : Nat} (small : value < 16) :
    hexValue16 (hexUnit value) = some value := by
  have every : ∀ digit : Fin 16, hexValue16 (hexUnit digit.val) = some digit.val := by decide
  exact every ⟨value, small⟩

theorem readUnit_unicodeEscape (bounded : unit < 65536) (rest : Utf16) :
    readUnit (unicodeEscape unit ++ rest) = some (unit, rest) := by
  have first : hexValue16 (hexUnit (unit / 4096)) = some (unit / 4096) :=
    hexValue16_hexUnit (by omega)
  have second := hexValue16_hexUnit (Nat.mod_lt (unit / 256) (by decide : 0 < 16))
  have third := hexValue16_hexUnit (Nat.mod_lt (unit / 16) (by decide : 0 < 16))
  have fourth := hexValue16_hexUnit (Nat.mod_lt unit (by decide : 0 < 16))
  have whole : unit / 4096 * 4096 + unit / 256 % 16 * 256 + unit / 16 % 16 * 16 + unit % 16 =
      unit := by omega
  simp only [unicodeEscape, List.cons_append, List.nil_append, readUnit, if_true, first, second,
    third, fourth, Option.bind_eq_bind, Option.bind_some, Option.pure_def, whole]

/-- What is written for a unit is read back, whatever follows. -/
theorem readUnit_escapeUnit (unit : Nat) (rest : Utf16) :
    readUnit (escapeUnit unit ++ rest) = some (unit, rest) := by
  unfold escapeUnit
  split
  · next same => subst same; rfl
  split
  · next same => subst same; rfl
  split
  · next same => subst same; rfl
  split
  · next same => subst same; rfl
  split
  · next same => subst same; rfl
  split
  · next same => subst same; rfl
  split
  · next same => subst same; rfl
  split
  · next control =>
    apply readUnit_unicodeEscape
    simp only [isSurrogate, Bool.or_eq_true, Bool.and_eq_true, decide_eq_true_eq] at control
    omega
  · next notQuote notBackslash _ _ _ _ _ plain =>
    rw [Bool.or_eq_true, not_or, decide_eq_true_eq] at plain
    have allowed : ¬(decide (unit < 0x20) || decide (unit = quotationMark)) = true := by
      rw [Bool.or_eq_true, decide_eq_true_eq, decide_eq_true_eq, not_or]
      exact ⟨plain.1, notQuote⟩
    rw [List.singleton_append, readUnit.eq_def]
    simp only [if_neg notBackslash, if_neg allowed]

/-- What is written for a unit does not begin with a quotation mark. -/
theorem escapeUnit_begins (unit : Nat) :
    ∃ head tail, escapeUnit unit = head :: tail ∧ head ≠ quotationMark := by
  unfold escapeUnit
  split
  · exact ⟨_, _, rfl, by decide⟩
  split
  · exact ⟨_, _, rfl, by decide⟩
  split
  · exact ⟨_, _, rfl, by decide⟩
  split
  · exact ⟨_, _, rfl, by decide⟩
  split
  · exact ⟨_, _, rfl, by decide⟩
  split
  · exact ⟨_, _, rfl, by decide⟩
  split
  · exact ⟨_, _, rfl, by decide⟩
  split
  · exact ⟨_, _, rfl, by decide⟩
  · next notQuote _ _ _ _ _ _ _ => exact ⟨_, _, rfl, notQuote⟩

/-- A unit that is written as it is, in a pair, is read back. -/
theorem readUnit_pair (large : 0xd800 ≤ unit) (rest : Utf16) :
    readUnit (unit :: rest) = some (unit, rest) := by
  have notBackslash : unit ≠ backslash := by
    unfold backslash
    omega
  have allowed : ¬(decide (unit < 0x20) || decide (unit = quotationMark)) = true := by
    rw [Bool.or_eq_true, decide_eq_true_eq, decide_eq_true_eq, not_or]
    unfold quotationMark
    omega
  rw [readUnit.eq_def]
  simp only [if_neg notBackslash, if_neg allowed]

/-- A unit that is read in front of the rest of a string belongs to it. -/
theorem readString_step {fuel unit : Nat} {written text rest last : Utf16}
    (begins : ∃ head tail, written = head :: tail ∧ head ≠ quotationMark)
    (read : readUnit (written ++ rest) = some (unit, rest))
    (others : readString fuel rest = some (text, last)) :
    readString (fuel + 1) (written ++ rest) = some (unit :: text, last) := by
  obtain ⟨head, tail, rfl, notQuote⟩ := begins
  rw [List.cons_append] at read ⊢
  rw [readString, if_neg notQuote, read]
  simp only [Option.bind_eq_bind, Option.bind_some, others, Option.pure_def]

private theorem begins_of_large (large : 0xd800 ≤ unit) :
    ∃ head tail, [unit] = head :: tail ∧ head ≠ quotationMark := by
  refine ⟨unit, [], rfl, ?_⟩
  unfold quotationMark
  omega

/-- The text of a string is read back, whatever follows. -/
theorem readString_quoteUnits (text rest : Utf16) {fuel : Nat} (enough : text.length < fuel) :
    readString fuel (quoteUnits text ++ quotationMark :: rest) = some (text, rest) := by
  induction text using quoteUnits.induct generalizing fuel with
  | case1 =>
    cases fuel with
    | zero => cases enough
    | succ fuel => rw [quoteUnits, List.nil_append, readString, if_pos rfl]
  | case2 unit =>
    match fuel, enough with
    | fuel + 2, _ =>
      rw [quoteUnits]
      apply readString_step (escapeUnit_begins unit) (readUnit_escapeUnit unit _)
      rw [readString, if_pos rfl]
  | case3 unit next others pair ih =>
    rw [Bool.and_eq_true] at pair
    obtain ⟨high, low⟩ := pair
    rw [quoteUnits, if_pos (by rw [high, low]; rfl)]
    simp only [isHighSurrogate, isLowSurrogate, Bool.and_eq_true, decide_eq_true_eq] at high low
    match fuel, enough with
    | fuel + 2, enough =>
      rw [List.length_cons, List.length_cons] at enough
      have inside : others.length < fuel := by omega
      have large : 0xd800 ≤ next := by omega
      have second : readString (fuel + 1) ([next] ++ (quoteUnits others ++ quotationMark :: rest)) =
          some (next :: others, rest) :=
        readString_step (begins_of_large large) (readUnit_pair large _) (ih inside)
      have large : 0xd800 ≤ unit := high.1
      change readString (fuel + 1 + 1)
        ([unit] ++ ([next] ++ (quoteUnits others ++ quotationMark :: rest))) = _
      exact readString_step (begins_of_large large) (readUnit_pair large _) second
  | case4 unit next others alone ih =>
    cases fuel with
    | zero => cases enough
    | succ fuel =>
      rw [List.length_cons] at enough
      rw [quoteUnits, if_neg alone, List.append_assoc]
      exact readString_step (escapeUnit_begins unit) (readUnit_escapeUnit unit _)
        (ih (by omega))

variable (text : Utf16)

/-- What is written for a string is no shorter than the string. -/
theorem length_le_quoteUnits : text.length ≤ (quoteUnits text).length := by
  induction text using quoteUnits.induct with
  | case1 => exact Nat.le_refl 0
  | case2 unit =>
    obtain ⟨head, tail, shape, _⟩ := escapeUnit_begins unit
    rw [quoteUnits, shape, List.length_cons, List.length_cons, List.length_nil]
    omega
  | case3 unit next others pair ih =>
    rw [quoteUnits, if_pos pair]
    simp only [List.length_cons]
    omega
  | case4 unit next others alone ih =>
    obtain ⟨head, tail, shape, _⟩ := escapeUnit_begins unit
    rw [quoteUnits, if_neg alone, shape, List.length_append]
    simp only [List.length_cons] at ih ⊢
    omega

/-! ## The bytes of a JSON string -/

theorem hexUnit_small {value : Nat} (small : value < 16) : hexUnit value < 0x80 := by
  unfold hexUnit
  split
  · omega
  · omega

/-- What is written for a unit that is in no pair is closed. -/
theorem closed_escapeUnit (unit : Nat) : Closed (escapeUnit unit) := by
  unfold escapeUnit
  split
  · exact closed_of_small (by decide)
  split
  · exact closed_of_small (by decide)
  split
  · exact closed_of_small (by decide)
  split
  · exact closed_of_small (by decide)
  split
  · exact closed_of_small (by decide)
  split
  · exact closed_of_small (by decide)
  split
  · exact closed_of_small (by decide)
  split
  · next control =>
    simp only [isSurrogate, Bool.or_eq_true, Bool.and_eq_true, decide_eq_true_eq] at control
    apply closed_of_small
    have first := hexUnit_small (by omega : unit / 4096 < 16)
    have second := hexUnit_small (Nat.mod_lt (unit / 256) (by decide : 0 < 16))
    have third := hexUnit_small (Nat.mod_lt (unit / 16) (by decide : 0 < 16))
    have fourth := hexUnit_small (Nat.mod_lt unit (by decide : 0 < 16))
    simp only [unicodeEscape, backslash, List.forall_mem_cons]
    refine ⟨by omega, by omega, by omega, by omega, by omega, by omega, ?_⟩
    intro other member
    cases member
  · next plain =>
    apply closed_single
    simp only [isSurrogate, Bool.or_eq_true, Bool.and_eq_true, decide_eq_true_eq] at plain
    simp only [isHighSurrogate, Bool.and_eq_false_iff, decide_eq_false_iff_not]
    omega

theorem closed_quoteUnits : Closed (quoteUnits text) := by
  induction text using quoteUnits.induct with
  | case1 => exact closed_nil
  | case2 unit => exact closed_escapeUnit unit
  | case3 unit next others pair ih =>
    rw [quoteUnits, if_pos pair]
    rw [Bool.and_eq_true] at pair
    exact (closed_pair pair.1 pair.2).append ih
  | case4 unit next others alone ih =>
    rw [quoteUnits, if_neg alone]
    exact (closed_escapeUnit unit).append ih

theorem closed_quote : Closed (quote text) :=
  Closed.cons (by decide) ((closed_quoteUnits text).append (closed_single (by decide)))

/-! ## Blanks -/

/-- A unit that `trim` takes from the ends of a string. -/
def isBlankUnit (unit : Nat) : Bool :=
  unit ∈ [0x9, 0xA, 0xB, 0xC, 0xD, 0x20, 0xA0, 0x1680, 0x2028, 0x2029, 0x202F, 0x205F, 0x3000,
    0xFEFF] || (0x2000 ≤ unit && unit ≤ 0x200A)

/-- `trim`. -/
def trimUnits (text : Utf16) : Utf16 := (text.dropWhile isBlankUnit).rdropWhile isBlankUnit

theorem trimUnits_trimUnits : trimUnits (trimUnits text) = trimUnits text := by
  have first : (trimUnits text).dropWhile isBlankUnit = trimUnits text := by
    unfold trimUnits
    rw [List.dropWhile_eq_self_iff]
    intro nonempty
    have starts := List.rdropWhile_prefix isBlankUnit (text.dropWhile isBlankUnit)
    have longer := lt_of_lt_of_le nonempty starts.length_le
    rw [starts.getElem nonempty]
    exact List.dropWhile_get_zero_not isBlankUnit text longer
  unfold trimUnits at first ⊢
  rw [first, List.rdropWhile_idempotent]

end PlugHub.Library
