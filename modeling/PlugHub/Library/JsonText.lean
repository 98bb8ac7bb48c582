import PlugHub.Library.Text

/-!
# JSON text of optional values, numbers and arrays of strings

Writers of JSON whose text says what was written, also where more text follows it. A writer delimits
its values when a comma after the text ends it. Strings and arrays end by themselves, a number ends
at the comma, and an optional value is null or begins in another way.
-/

namespace PlugHub.Library

/-- A value is determined by its text and a comma, whatever follows. -/
def Delimits {α : Type} (write : α → Text) : Prop :=
  ∀ value value' rest rest', write value ++ ',' :: rest = write value' ++ ',' :: rest' →
    value = value' ∧ rest = rest'

/-- A value is determined by its text, whatever follows. -/
def EndsItself {α : Type} (write : α → Text) : Prop :=
  ∀ value value' rest rest', write value ++ rest = write value' ++ rest' →
    value = value' ∧ rest = rest'

theorem EndsItself.delimits {α : Type} {write : α → Text} (ends : EndsItself write) :
    Delimits write := by
  intro value value' rest rest' same
  obtain ⟨values, rests⟩ := ends value value' _ _ same
  exact ⟨values, (List.cons.inj rests).2⟩

theorem Delimits.injective {α : Type} {write : α → Text} (delimits : Delimits write)
    {value value' : α} (same : write value = write value') : value = value' := by
  have followed : write value ++ ',' :: [] = write value' ++ ',' :: [] := by rw [same]
  exact (delimits value value' [] [] followed).1

/-! ## Strings -/

/-- A string as JSON. -/
def stringText (text : String) : Text := quoted text.toList

theorem stringText_endsItself : EndsItself stringText := by
  intro text text' rest rest' same
  obtain ⟨texts, rests⟩ := quoted_unique same
  exact ⟨String.toList_inj.mp texts, rests⟩

/-- A field of an object as JSON. -/
def fieldText (name : String) (value : Text) : Text := stringText name ++ ':' :: value

theorem of_fieldText {name : String} {value value' rest rest' : Text}
    (same : fieldText name value ++ rest = fieldText name value' ++ rest') :
    value ++ rest = value' ++ rest' := by
  unfold fieldText at same
  rw [List.append_assoc, List.append_assoc] at same
  exact (List.cons.inj (List.append_cancel_left same)).2

/-! ## Numbers -/

/-- An integer as JSON. -/
def integerText : Int → Text
  | .ofNat number => decimal number
  | .negSucc number => '-' :: decimal (number + 1)

theorem not_mem_integerText {mark : Char} (notDigit : mark.isDigit = false) (notSign : mark ≠ '-')
    (number : Int) : mark ∉ integerText number := by
  cases number with
  | ofNat number => exact not_mem_decimal notDigit
  | negSucc number =>
    intro member
    rcases List.mem_cons.mp member with sign | digit
    · exact notSign sign
    · exact not_mem_decimal notDigit digit

theorem integerText_injective {first second : Int} (same : integerText first = integerText second) :
    first = second := by
  have signed : ∀ {number other : Nat}, decimal number ≠ '-' :: decimal other := by
    intro number other equal
    have sign : '-' ∈ decimal number := by
      rw [equal]
      exact List.mem_cons_self
    exact not_mem_decimal (by decide) sign
  cases first with
  | ofNat number =>
    cases second with
    | ofNat other => rw [decimal_injective same]
    | negSucc other => exact absurd same signed
  | negSucc number =>
    cases second with
    | ofNat other => exact absurd same.symm signed
    | negSucc other =>
      have numbers := decimal_injective (List.cons.inj same).2
      rw [Nat.succ.inj numbers]

theorem integerText_delimits : Delimits integerText := by
  intro number number' rest rest' same
  obtain ⟨numbers, rests⟩ := split_first (not_mem_integerText (by decide) (by decide) number)
    (not_mem_integerText (by decide) (by decide) number') same
  exact ⟨integerText_injective numbers, rests⟩

/-! ## Arrays of strings -/

/-- What follows an element of an array. -/
def arrayTail : List String → Text
  | [] => [']']
  | item :: rest => ',' :: (stringText item ++ arrayTail rest)

/-- An array of strings as JSON. -/
def arrayText : List String → Text
  | [] => ['[', ']']
  | item :: rest => '[' :: (stringText item ++ arrayTail rest)

theorem arrayTail_endsItself : EndsItself arrayTail := by
  intro items
  induction items with
  | nil =>
    intro items' rest rest' same
    cases items' with
    | nil => exact ⟨rfl, (List.cons.inj same).2⟩
    | cons item more => cases (List.cons.inj same).1
  | cons item more ih =>
    intro items' rest rest' same
    cases items' with
    | nil => cases (List.cons.inj same).1
    | cons item' more' =>
      have tails : stringText item ++ arrayTail more ++ rest =
          stringText item' ++ arrayTail more' ++ rest' := (List.cons.inj same).2
      rw [List.append_assoc, List.append_assoc] at tails
      obtain ⟨items, others⟩ := stringText_endsItself _ _ _ _ tails
      obtain ⟨mores, rests⟩ := ih _ _ _ others
      exact ⟨by rw [items, mores], rests⟩

theorem arrayText_endsItself : EndsItself arrayText := by
  intro items items' rest rest' same
  cases items with
  | nil =>
    cases items' with
    | nil => exact ⟨rfl, (List.cons.inj (List.cons.inj same).2).2⟩
    | cons item' more' => cases (List.cons.inj (List.cons.inj same).2).1
  | cons item more =>
    cases items' with
    | nil => cases (List.cons.inj (List.cons.inj same).2).1
    | cons item' more' =>
      have tails : stringText item ++ arrayTail more ++ rest =
          stringText item' ++ arrayTail more' ++ rest' := (List.cons.inj same).2
      rw [List.append_assoc, List.append_assoc] at tails
      obtain ⟨items, others⟩ := stringText_endsItself _ _ _ _ tails
      obtain ⟨mores, rests⟩ := arrayTail_endsItself _ _ _ _ others
      exact ⟨by rw [items, mores], rests⟩

/-! ## Optional values -/

/-- A value or null as JSON. -/
def nullableText {α : Type} (write : α → Text) : Option α → Text
  | none => ['n', 'u', 'l', 'l']
  | some value => write value

/-- An optional value is delimited like its values, if none of them begins like null. -/
theorem nullableText_delimits {α : Type} {write : α → Text} (delimits : Delimits write)
    (begins : ∀ value, ∃ head tail, write value = head :: tail ∧ head ≠ 'n') :
    Delimits (nullableText write) := by
  intro value value' rest rest' same
  cases value with
  | none =>
    cases value' with
    | none =>
      have rests := List.append_cancel_left same
      exact ⟨rfl, (List.cons.inj rests).2⟩
    | some there =>
      obtain ⟨head, tail, shape, differs⟩ := begins there
      simp only [nullableText, shape, List.cons_append] at same
      exact absurd (List.cons.inj same).1.symm differs
  | some here =>
    cases value' with
    | none =>
      obtain ⟨head, tail, shape, differs⟩ := begins here
      simp only [nullableText, shape, List.cons_append] at same
      exact absurd (List.cons.inj same).1 differs
    | some there =>
      obtain ⟨values, rests⟩ := delimits here there rest rest' same
      exact ⟨congrArg some values, rests⟩

theorem stringText_begins (text : String) :
    ∃ head tail, stringText text = head :: tail ∧ head ≠ 'n' :=
  ⟨'"', _, rfl, by decide⟩

theorem arrayText_begins (items : List String) :
    ∃ head tail, arrayText items = head :: tail ∧ head ≠ 'n' := by
  cases items with
  | nil | cons item rest => exact ⟨'[', _, rfl, by decide⟩

theorem integerText_begins (number : Int) :
    ∃ head tail, integerText number = head :: tail ∧ head ≠ 'n' := by
  cases shape : integerText number with
  | nil =>
    cases number with
    | ofNat number => exact absurd shape Nat.toDigits_ne_nil
    | negSucc number => cases shape
  | cons head tail =>
    refine ⟨head, tail, rfl, fun letter => ?_⟩
    have member : 'n' ∈ integerText number := by
      rw [shape, letter]
      exact List.mem_cons_self
    exact not_mem_integerText (by decide) (by decide) number member

end PlugHub.Library
