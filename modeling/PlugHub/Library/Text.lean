import Mathlib.Data.List.Basic

/-!
# Text: separators, decimals, JSON strings and base64

Text is a list of characters. Each writer here comes with the fact that makes it readable again:
what stands before a separator is known, a decimal determines its number, a JSON string ends where
it ends whatever follows it, and base64 determines its bytes.
-/

namespace PlugHub.Library

/-- Text as its characters. -/
abbrev Text := List Char

/-! ## Separators -/

/-- What stands before the first separator is determined. -/
theorem split_first {α : Type} {separator : α} {left left' right right' : List α}
    (free : separator ∉ left) (free' : separator ∉ left')
    (same : left ++ separator :: right = left' ++ separator :: right') :
    left = left' ∧ right = right' := by
  induction left generalizing left' with
  | nil =>
    cases left' with
    | nil => exact ⟨rfl, (List.cons.inj same).2⟩
    | cons head tail =>
      rw [List.nil_append, List.cons_append] at same
      exact absurd (by rw [(List.cons.inj same).1]; exact List.mem_cons_self) free'
  | cons head tail ih =>
    cases left' with
    | nil =>
      rw [List.nil_append, List.cons_append] at same
      exact absurd (by rw [← (List.cons.inj same).1]; exact List.mem_cons_self) free
    | cons head' tail' =>
      rw [List.cons_append, List.cons_append] at same
      obtain ⟨heads, tails⟩ := List.cons.inj same
      obtain ⟨lefts, rights⟩ := ih (fun member => free (List.mem_cons_of_mem head member))
        (fun member => free' (List.mem_cons_of_mem head' member)) tails
      exact ⟨by rw [heads, lefts], rights⟩

theorem split_last {α : Type} {separator : α} {left left' right right' : List α}
    (free : separator ∉ right) (free' : separator ∉ right')
    (same : left ++ separator :: right = left' ++ separator :: right') :
    left = left' ∧ right = right' := by
  have turned := congrArg List.reverse same
  rw [List.reverse_append, List.reverse_cons, List.reverse_append, List.reverse_cons,
    List.append_assoc, List.append_assoc] at turned
  have parts := split_first (fun member => free (List.mem_reverse.mp member))
    (fun member => free' (List.mem_reverse.mp member)) turned
  exact ⟨List.reverse_injective parts.2, List.reverse_injective parts.1⟩

/-! ## Decimals -/

/-- A natural number in decimal digits. -/
def decimal (number : Nat) : Text := Nat.toDigits 10 number

theorem decimal_injective {first second : Nat} (same : decimal first = decimal second) :
    first = second := by
  have read := congrArg (fun digits => Nat.ofDigitChars 10 digits 0) same
  simp only [decimal, Nat.ofDigitChars_ten_toDigits] at read
  exact read

theorem not_mem_decimal {number : Nat} {mark : Char} (notDigit : mark.isDigit = false) :
    mark ∉ decimal number := by
  intro member
  have digit := Nat.isDigit_of_mem_toDigits (by decide) (by decide) member
  rw [digit] at notDigit
  cases notDigit

/-! ## JSON strings -/

/-- A hexadecimal digit in lower case. -/
def hexDigit (value : Nat) : Char := Nat.digitChar value

/-- The characters a JSON string writes for one character. -/
def escapeChar (character : Char) : Text :=
  if character = '"' then ['\\', '"']
  else if character = '\\' then ['\\', '\\']
  else if character = '\x08' then ['\\', 'b']
  else if character = '\x0c' then ['\\', 'f']
  else if character = '\n' then ['\\', 'n']
  else if character = '\r' then ['\\', 'r']
  else if character = '\t' then ['\\', 't']
  else if character.toNat < 32 then
    ['\\', 'u', '0', '0', hexDigit (character.toNat / 16), hexDigit (character.toNat % 16)]
  else [character]

/-- A JSON string between its quotes. -/
def quoted (text : Text) : Text := '"' :: text.flatMap escapeChar ++ ['"']

/-- The value of a hexadecimal digit. -/
def hexValue (digit : Char) : Nat :=
  if digit.toNat < 58 then digit.toNat - 48 else digit.toNat - 87

/-- Read one character of a JSON string back. -/
def unescapeChar : Text → Option (Char × Text)
  | '\\' :: 'u' :: '0' :: '0' :: high :: low :: rest =>
    some (Char.ofNat (hexValue high * 16 + hexValue low), rest)
  | '\\' :: mark :: rest =>
    some
      (if mark = 'b' then '\x08' else if mark = 'f' then '\x0c' else if mark = 'n' then '\n'
        else if mark = 'r' then '\r' else if mark = 't' then '\t' else mark, rest)
  | character :: rest => some (character, rest)
  | [] => none

theorem hexValue_hexDigit {value : Nat} (small : value < 16) :
    hexValue (hexDigit value) = value := by
  have every : ∀ digit : Fin 16, hexValue (hexDigit digit.val) = digit.val := by decide
  exact every ⟨value, small⟩

/-- What one character writes is read back, whatever follows. -/
theorem unescapeChar_escapeChar (character : Char) (rest : Text) :
    unescapeChar (escapeChar character ++ rest) = some (character, rest) := by
  unfold escapeChar
  split
  · next same => subst same; rfl
  split
  · next same => subst same; rfl
  split
  · next same => subst same; rfl
  split
  · next same => subst same; rfl
  split
  · next same => subst same; rfl
  split
  · next same => subst same; rfl
  split
  · next same => subst same; rfl
  split
  · next control =>
    have high : hexValue (hexDigit (character.toNat / 16)) = character.toNat / 16 :=
      hexValue_hexDigit (by omega)
    have low : hexValue (hexDigit (character.toNat % 16)) = character.toNat % 16 :=
      hexValue_hexDigit (by omega)
    have whole : character.toNat / 16 * 16 + character.toNat % 16 = character.toNat :=
      Nat.div_add_mod' _ _
    simp only [List.cons_append, List.nil_append, unescapeChar, high, low, whole,
      Char.ofNat_toNat]
  · next backslash _ _ _ _ _ _ =>
    rw [List.singleton_append]
    unfold unescapeChar
    split
    · simp_all
    · simp_all
    · simp_all
    · simp_all

theorem escapeChar_ne_quote (character : Char) (rest rest' : Text) :
    escapeChar character ++ rest ≠ '"' :: rest' := by
  unfold escapeChar
  by_cases quote : character = '"'
  · simp [quote]
  · rw [if_neg quote]
    split_ifs <;> simp [quote]

/-- The characters between the quotes are determined, and where they end. -/
theorem escaped_unique {text text' rest rest' : Text}
    (same : text.flatMap escapeChar ++ '"' :: rest = text'.flatMap escapeChar ++ '"' :: rest') :
    text = text' ∧ rest = rest' := by
  induction text generalizing text' with
  | nil =>
    cases text' with
    | nil => exact ⟨rfl, (List.cons.inj same).2⟩
    | cons head tail =>
      rw [List.flatMap_cons, List.append_assoc, List.flatMap_nil, List.nil_append] at same
      exact absurd same.symm (escapeChar_ne_quote head _ _)
  | cons head tail ih =>
    cases text' with
    | nil =>
      rw [List.flatMap_cons, List.append_assoc, List.flatMap_nil, List.nil_append] at same
      exact absurd same (escapeChar_ne_quote head _ _)
    | cons head' tail' =>
      rw [List.flatMap_cons, List.flatMap_cons, List.append_assoc, List.append_assoc] at same
      have read := congrArg unescapeChar same
      rw [unescapeChar_escapeChar, unescapeChar_escapeChar, Option.some.injEq,
        Prod.mk.injEq] at read
      obtain ⟨tails, rests⟩ := ih read.2
      exact ⟨by rw [read.1, tails], rests⟩

theorem quoted_unique {text text' rest rest' : Text}
    (same : quoted text ++ rest = quoted text' ++ rest') : text = text' ∧ rest = rest' := by
  unfold quoted at same
  rw [List.cons_append, List.cons_append, List.append_assoc, List.append_assoc] at same
  exact escaped_unique (List.cons.inj same).2

/-! ## Base64 -/

/-- The character of six bits. -/
def base64Char (value : Nat) : Char :=
  if value < 26 then Char.ofNat (65 + value)
  else if value < 52 then Char.ofNat (71 + value)
  else if value < 62 then Char.ofNat (value - 4)
  else if value = 62 then '+'
  else '/'

/-- The base64 text of bytes, with padding. -/
def base64 : List UInt8 → Text
  | [] => []
  | [first] =>
    [base64Char (first.toNat / 4), base64Char (first.toNat % 4 * 16), '=', '=']
  | [first, second] =>
    [base64Char (first.toNat / 4), base64Char (first.toNat % 4 * 16 + second.toNat / 16),
      base64Char (second.toNat % 16 * 4), '=']
  | first :: second :: third :: rest =>
    base64Char (first.toNat / 4) :: base64Char (first.toNat % 4 * 16 + second.toNat / 16) ::
      base64Char (second.toNat % 16 * 4 + third.toNat / 64) ::
        base64Char (third.toNat % 64) :: base64 rest

theorem base64Char_injective {first second : Nat} (small : first < 64) (small' : second < 64)
    (same : base64Char first = base64Char second) : first = second := by
  have every : ∀ left right : Fin 64, base64Char left.val = base64Char right.val →
      left = right := by decide +kernel
  exact congrArg Fin.val (every ⟨first, small⟩ ⟨second, small'⟩ same)

theorem base64Char_ne {value : Nat} (small : value < 64) :
    base64Char value ≠ '=' ∧ base64Char value ≠ '"' := by
  have every : ∀ digit : Fin 64, base64Char digit.val ≠ '=' ∧ base64Char digit.val ≠ '"' := by
    decide
  exact every ⟨value, small⟩

theorem byte_eq_of_parts {first second : UInt8} (high : first.toNat / 4 = second.toNat / 4)
    (low : first.toNat % 4 = second.toNat % 4) : first = second := by
  apply UInt8.toNat.inj
  omega

theorem base64_injective {bytes bytes' : List UInt8} (same : base64 bytes = base64 bytes') :
    bytes = bytes' := by
  induction bytes using base64.induct generalizing bytes' with
  | case1 =>
    match bytes' with
    | [] => rfl
    | [_] => simp [base64] at same
    | [_, _] => simp [base64] at same
    | _ :: _ :: _ :: _ => simp [base64] at same
  | case2 first =>
    have lower := first.toNat_lt
    match bytes' with
    | [] => simp [base64] at same
    | [first'] =>
      have lower' := first'.toNat_lt
      simp only [base64, List.cons.injEq, and_true] at same
      have high := base64Char_injective (by omega) (by omega) same.1
      have low := base64Char_injective (by omega) (by omega) same.2
      rw [byte_eq_of_parts high (by omega)]
    | [first', second'] =>
      have upper := second'.toNat_lt
      simp only [base64, List.cons.injEq] at same
      exact absurd same.2.2.1.symm (base64Char_ne (by omega)).1
    | first' :: second' :: third' :: rest' =>
      have upper := second'.toNat_lt
      have third := third'.toNat_lt
      simp only [base64, List.cons.injEq] at same
      exact absurd same.2.2.1.symm (base64Char_ne (by omega)).1
  | case3 first second =>
    have lower := first.toNat_lt
    have upper := second.toNat_lt
    match bytes' with
    | [] => simp [base64] at same
    | [first'] =>
      simp only [base64, List.cons.injEq] at same
      exact absurd same.2.2.1 (base64Char_ne (by omega)).1
    | [first', second'] =>
      have lower' := first'.toNat_lt
      have upper' := second'.toNat_lt
      simp only [base64, List.cons.injEq, and_true] at same
      have high := base64Char_injective (by omega) (by omega) same.1
      have middle := base64Char_injective (by omega) (by omega) same.2.1
      have low := base64Char_injective (by omega) (by omega) same.2.2
      have left : first = first' := byte_eq_of_parts high (by omega)
      have right : second = second' := UInt8.toNat.inj (by omega)
      rw [left, right]
    | first' :: second' :: third' :: rest' =>
      have third := third'.toNat_lt
      simp only [base64, List.cons.injEq] at same
      exact absurd same.2.2.2.1.symm (base64Char_ne (by omega)).1
  | case4 first second third rest ih =>
    have lower := first.toNat_lt
    have upper := second.toNat_lt
    have top := third.toNat_lt
    match bytes' with
    | [] => simp [base64] at same
    | [first'] =>
      simp only [base64, List.cons.injEq] at same
      exact absurd same.2.2.1 (base64Char_ne (by omega)).1
    | [first', second'] =>
      simp only [base64, List.cons.injEq] at same
      exact absurd same.2.2.2.1 (base64Char_ne (by omega)).1
    | first' :: second' :: third' :: rest' =>
      have lower' := first'.toNat_lt
      have upper' := second'.toNat_lt
      have top' := third'.toNat_lt
      simp only [base64, List.cons.injEq] at same
      have high := base64Char_injective (by omega) (by omega) same.1
      have middle := base64Char_injective (by omega) (by omega) same.2.1
      have low := base64Char_injective (by omega) (by omega) same.2.2.1
      have least := base64Char_injective (by omega) (by omega) same.2.2.2.1
      have left : first = first' := byte_eq_of_parts high (by omega)
      have between : second = second' := UInt8.toNat.inj (by omega)
      have right : third = third' := UInt8.toNat.inj (by omega)
      rw [left, between, right, ih same.2.2.2.2]

theorem quote_not_mem_base64 (bytes : List UInt8) : '"' ∉ base64 bytes := by
  induction bytes using base64.induct with
  | case1 => simp [base64]
  | case2 first =>
    have lower := first.toNat_lt
    simp only [base64, List.mem_cons, List.not_mem_nil, or_false, not_or]
    exact ⟨(base64Char_ne (by omega)).2.symm, (base64Char_ne (by omega)).2.symm, by decide,
      by decide⟩
  | case3 first second =>
    have lower := first.toNat_lt
    have upper := second.toNat_lt
    simp only [base64, List.mem_cons, List.not_mem_nil, or_false, not_or]
    exact ⟨(base64Char_ne (by omega)).2.symm, (base64Char_ne (by omega)).2.symm,
      (base64Char_ne (by omega)).2.symm, by decide⟩
  | case4 first second third rest ih =>
    have lower := first.toNat_lt
    have upper := second.toNat_lt
    have top := third.toNat_lt
    simp only [base64, List.mem_cons, not_or]
    exact ⟨(base64Char_ne (by omega)).2.symm, (base64Char_ne (by omega)).2.symm,
      (base64Char_ne (by omega)).2.symm, (base64Char_ne (by omega)).2.symm, ih⟩

/-! ## White space -/

/-- The white space and line terminators that trimming removes. -/
def isWhiteSpace (character : Char) : Bool :=
  (9 ≤ character.toNat && character.toNat ≤ 13) || character.toNat = 32 ||
    character.toNat = 0xa0 || character.toNat = 0x1680 ||
    (0x2000 ≤ character.toNat && character.toNat ≤ 0x200a) || character.toNat = 0x2028 ||
    character.toNat = 0x2029 || character.toNat = 0x202f || character.toNat = 0x205f ||
    character.toNat = 0x3000 || character.toNat = 0xfeff

/-- Text without white space at its ends. -/
def trim (text : Text) : Text :=
  ((text.dropWhile isWhiteSpace).reverse.dropWhile isWhiteSpace).reverse

end PlugHub.Library
