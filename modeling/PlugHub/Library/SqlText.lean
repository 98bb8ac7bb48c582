import PlugHub.Library.Utf16

/-!
# Statements of SQL texts

A scanner that goes through a text unit by unit and leaves out its comments and what stands in its
literals and delimited names, the statements that semicolons separate in what is left, the tokens of
a statement, and whether it modifies data: by the word it begins with, or behind WITH by the words
that its parts begin with. Comments in brackets may nest, as in the standard, or not, as in many
products.
-/

namespace PlugHub.Library

/-! ## The scanner -/

/-- Where the scanner stands. -/
inductive SqlMode where
  | code
  | dash
  | slash
  | line
  | block (depth : Nat)
  | blockStar (depth : Nat)
  | blockSlash (depth : Nat)
  /-- In a literal or a delimited name, by its quotation mark; a doubled mark ends one and begins
  another one. -/
  | quoted (mark : Nat)

/-- A unit of the text itself: what it shows and where it leads. -/
def codeStep (unit : Nat) : Utf16 × SqlMode :=
  if unit = 45 then ([], .dash)
  else if unit = 47 then ([], .slash)
  else if unit = 39 ∨ unit = 34 then ([unit], .quoted unit)
  else ([unit], .code)

/-- A unit: what it shows and where it leads. A comment shows a blank. -/
def sqlStep (nests : Bool) (mode : SqlMode) (unit : Nat) : Utf16 × SqlMode :=
  match mode with
  | .code => codeStep unit
  | .dash =>
    if unit = 45 then ([32], .line) else (45 :: (codeStep unit).1, (codeStep unit).2)
  | .slash =>
    if unit = 42 then ([32], .block 1) else (47 :: (codeStep unit).1, (codeStep unit).2)
  | .line => if unit = 10 then ([10], .code) else ([], .line)
  | .block depth =>
    if unit = 42 then ([], .blockStar depth)
    else if unit = 47 then ([], .blockSlash depth)
    else ([], .block depth)
  | .blockStar depth =>
    if unit = 47 then ([], if depth ≤ 1 then .code else .block (depth - 1))
    else if unit = 42 then ([], .blockStar depth)
    else ([], .block depth)
  | .blockSlash depth =>
    if unit = 42 then ([], if nests then .block (depth + 1) else .blockStar depth)
    else if unit = 47 then ([], .blockSlash depth)
    else ([], .block depth)
  | .quoted mark => if unit = mark then ([unit], .code) else ([], .quoted mark)

/-- What a text shows, and where it leads. -/
def scan (nests : Bool) : SqlMode → Utf16 → Utf16 × SqlMode
  | mode, [] => ([], mode)
  | mode, unit :: rest =>
    ((sqlStep nests mode unit).1 ++ (scan nests (sqlStep nests mode unit).2 rest).1,
      (scan nests (sqlStep nests mode unit).2 rest).2)

/-- What is held back until the next unit. -/
def held : SqlMode → Utf16
  | .dash => [45]
  | .slash => [47]
  | _ => []

/-- What a whole text shows from somewhere. -/
def shown (nests : Bool) (mode : SqlMode) (text : Utf16) : Utf16 :=
  (scan nests mode text).1 ++ held (scan nests mode text).2

/-- A text without its comments and what stands in its literals. -/
def visible (nests : Bool) (text : Utf16) : Utf16 := shown nests .code text

/-- The statements of a text. -/
def statements (nests : Bool) (text : Utf16) : List Utf16 := (visible nests text).splitOn 59

/-! ## Tokens -/

/-- A unit of a word. -/
def isWordUnit (unit : Nat) : Bool :=
  (48 ≤ unit && unit ≤ 57) || (65 ≤ unit && unit ≤ 90) || (97 ≤ unit && unit ≤ 122) || unit = 95 ||
    (128 ≤ unit && !isBlankUnit unit)

/-- A unit in lower case. -/
def lowerUnit (unit : Nat) : Nat := if 65 ≤ unit ∧ unit ≤ 90 then unit + 32 else unit

/-- A token of a statement. -/
inductive SqlToken where
  | word (text : Utf16)
  | symbol (unit : Nat)
deriving DecidableEq

/-- A word, if there is one, and the tokens behind it. -/
def closeWord (read : Utf16 × List SqlToken) : List SqlToken :=
  if read.1 = [] then read.2 else .word read.1 :: read.2

/-- The word that a text begins with, and the tokens behind it. -/
def readTokens : Utf16 → Utf16 × List SqlToken
  | [] => ([], [])
  | unit :: rest =>
    if isWordUnit unit then (lowerUnit unit :: (readTokens rest).1, (readTokens rest).2)
    else if isBlankUnit unit then ([], closeWord (readTokens rest))
    else ([], .symbol unit :: closeWord (readTokens rest))

/-- The tokens of a text. -/
def tokens (text : Utf16) : List SqlToken := closeWord (readTokens text)

/-! ## Statements that modify data -/

/-- The words that the parts of a statement behind WITH begin with: those right behind an opening
parenthesis of its own level, and the first one behind a closing one that is no AS. -/
def withVerbs : Nat → Option SqlToken → List SqlToken → List Utf16
  | _, _, [] => []
  | depth, previous, .word word :: rest =>
    if depth = 0 ∧ previous = some (.symbol 41) ∧ word ≠ utf16 "as" then [word]
    else if depth = 1 ∧ previous = some (.symbol 40) then
      word :: withVerbs depth (some (.word word)) rest
    else withVerbs depth (some (.word word)) rest
  | depth, _, .symbol unit :: rest =>
    withVerbs (if unit = 40 then depth + 1 else if unit = 41 then depth - 1 else depth)
      (some (.symbol unit)) rest

/-- The words that say what a statement does. -/
def verbs : List SqlToken → List Utf16
  | .word word :: rest => if word = utf16 "with" then withVerbs 0 none rest else [word]
  | _ => []

/-- The words of statements that modify data or definitions, or run a procedure. -/
def modifyingVerbs : List Utf16 :=
  [utf16 "insert", utf16 "update", utf16 "delete", utf16 "merge", utf16 "create", utf16 "alter",
    utf16 "drop", utf16 "truncate", utf16 "grant", utf16 "revoke", utf16 "exec", utf16 "execute",
    utf16 "call"]

/-- A statement modifies data. -/
def modifiesData (statement : Utf16) : Bool :=
  (verbs (tokens statement)).any modifyingVerbs.contains

example : (statements false (utf16 "with x as (select ';') Delete from t; -- ;")).map modifiesData =
    [true, false] := by decide

/-! ## Scanning -/

variable (nests : Bool)

theorem scan_append (mode : SqlMode) (first second : Utf16) :
    scan nests mode (first ++ second) =
      ((scan nests mode first).1 ++ (scan nests (scan nests mode first).2 second).1,
        (scan nests (scan nests mode first).2 second).2) := by
  induction first generalizing mode with
  | nil => rfl
  | cons unit rest ih => rw [List.cons_append, scan, ih, scan, List.append_assoc]

theorem shown_append (mode : SqlMode) (first second : Utf16) :
    shown nests mode (first ++ second) =
      (scan nests mode first).1 ++ shown nests (scan nests mode first).2 second := by
  unfold shown
  rw [scan_append, List.append_assoc]

variable {unit : Nat}

theorem codeStep_plain (plain : unit ∉ [45, 47, 39, 34]) :
    codeStep unit = ([unit], .code) := by
  simp only [List.mem_cons, List.not_mem_nil, or_false, not_or] at plain
  unfold codeStep
  rw [if_neg plain.1, if_neg plain.2.1, if_neg (by omega)]

variable {text : Utf16}

theorem scan_plain (plain : ∀ unit ∈ text, unit ∉ [45, 47, 39, 34]) :
    scan nests .code text = (text, .code) := by
  induction text with
  | nil => rfl
  | cons unit rest ih =>
    have first : sqlStep nests .code unit = ([unit], .code) :=
      codeStep_plain (plain unit List.mem_cons_self)
    rw [scan, first, ih fun other member => plain other (List.mem_cons_of_mem unit member)]
    rfl

/-- What a unit shows is the unit, a blank, or what was held back. -/
theorem mem_sqlStep {nests : Bool} {mode : SqlMode} {unit other : Nat}
    (member : other ∈ (sqlStep nests mode unit).1) : other = unit ∨ other ∈ [32, 45, 47] := by
  have plain : ∀ {other : Nat}, other ∈ (codeStep unit).1 → other = unit := by
    intro other member
    unfold codeStep at member
    split_ifs at member
    · cases member
    · cases member
    · exact List.mem_singleton.mp member
    · exact List.mem_singleton.mp member
  unfold sqlStep at member
  split at member
  · exact .inl (plain member)
  · split_ifs at member
    · exact .inr (by simp_all)
    · cases member with
      | head => exact .inr (by decide)
      | tail _ later => exact .inl (plain later)
  · split_ifs at member
    · exact .inr (by simp_all)
    · cases member with
      | head => exact .inr (by decide)
      | tail _ later => exact .inl (plain later)
  · split_ifs at member with same
    · rw [same]
      exact .inl (List.mem_singleton.mp member)
    · cases member
  · split_ifs at member <;> cases member
  · split at member
    · cases member
    · split_ifs at member <;> cases member
  · split at member
    · cases member
    · split_ifs at member <;> cases member
  · split_ifs at member
    · exact .inl (List.mem_singleton.mp member)
    · cases member

/-- What a text shows stands in it, or is a blank or what was held back. -/
theorem mem_scan {nests : Bool} {mode : SqlMode} {other : Nat}
    (member : other ∈ (scan nests mode text).1) : other ∈ text ∨ other ∈ [32, 45, 47] := by
  induction text generalizing mode with
  | nil => cases member
  | cons unit rest ih =>
    rw [scan, List.mem_append] at member
    rw [List.mem_cons]
    cases member with
    | inl here =>
      cases mem_sqlStep here with
      | inl same => exact .inl (.inl same)
      | inr special => exact .inr special
    | inr later =>
      cases ih later with
      | inl stands => exact .inl (.inr stands)
      | inr special => exact .inr special

theorem mem_held {mode : SqlMode} (member : unit ∈ held mode) :
    unit ∈ [45, 47] := by
  cases mode with
  | dash => exact List.mem_cons.mpr (.inl (List.mem_singleton.mp member))
  | slash => exact List.mem_cons_of_mem 45 member
  | code | line | block depth | blockStar depth | blockSlash depth | quoted mark => cases member

theorem ne_of_blank {unit other : Nat} (blank : isBlankUnit unit = true)
    (sign : isBlankUnit other = false) : unit ≠ other := by
  intro same
  rw [same, sign] at blank
  cases blank

/-- A blank or a semicolon is shown or left out, behind what was held back. -/
theorem sqlStep_blank (mode : SqlMode) (empty : unit = 59 ∨ isBlankUnit unit = true) :
    ∃ rest, (sqlStep nests mode unit).1 = held mode ++ rest ∧ (∀ other ∈ rest, other = unit) ∧
      held (sqlStep nests mode unit).2 = [] := by
  have apart : ∀ {other : Nat}, isBlankUnit other = false → other ≠ 59 → unit ≠ other := by
    intro other sign differs
    cases empty with
    | inl same =>
      rw [same]
      exact differs.symm
    | inr blank => exact ne_of_blank blank sign
  have hyphen : unit ≠ 45 := apart (by decide) (by decide)
  have slash : unit ≠ 47 := apart (by decide) (by decide)
  have mark : unit ≠ 39 ∧ unit ≠ 34 :=
    ⟨apart (by decide) (by decide), apart (by decide) (by decide)⟩
  have star : unit ≠ 42 := apart (by decide) (by decide)
  have plain : codeStep unit = ([unit], .code) := by
    apply codeStep_plain
    simp [hyphen, slash, mark]
  cases mode with
  | code => exact ⟨[unit], by simp [sqlStep, plain, held], by simp, by simp [sqlStep, plain, held]⟩
  | dash =>
    exact ⟨[unit], by simp [sqlStep, plain, held, hyphen], by simp,
      by simp [sqlStep, plain, held, hyphen]⟩
  | slash =>
    exact ⟨[unit], by simp [sqlStep, plain, held, star], by simp,
      by simp [sqlStep, plain, held, star]⟩
  | line =>
    by_cases ends : unit = 10
    · exact ⟨[10], by simp [sqlStep, held, ends], by simp [ends], by simp [sqlStep, held, ends]⟩
    · exact ⟨[], by simp [sqlStep, held, ends], by simp, by simp [sqlStep, held, ends]⟩
  | block depth | blockStar depth | blockSlash depth =>
    exact ⟨[], by simp [sqlStep, held, star, slash], by simp, by simp [sqlStep, held, star, slash]⟩
  | quoted opening =>
    by_cases ends : unit = opening
    · exact ⟨[unit], by simp [sqlStep, held, ends], by simp, by simp [sqlStep, held, ends]⟩
    · exact ⟨[], by simp [sqlStep, held, ends], by simp, by simp [sqlStep, held, ends]⟩

/-- Blanks and semicolons show blanks and semicolons, behind what was held back. -/
theorem shown_blanks (empty : ∀ unit ∈ text, unit = 59 ∨ isBlankUnit unit = true) (mode : SqlMode) :
    ∃ rest, shown nests mode text = held mode ++ rest ∧
      ∀ unit ∈ rest, unit = 59 ∨ isBlankUnit unit = true := by
  induction text generalizing mode with
  | nil =>
    refine ⟨[], (List.append_nil _).symm, ?_⟩
    intro unit member
    cases member
  | cons unit rest ih =>
    have here := empty unit List.mem_cons_self
    obtain ⟨first, shows, same, nothing⟩ := sqlStep_blank nests mode here
    obtain ⟨others, later, blanks⟩ :=
      ih (fun other member => empty other (List.mem_cons_of_mem unit member))
        (sqlStep nests mode unit).2
    refine ⟨first ++ others, ?_, ?_⟩
    · rw [nothing, List.nil_append] at later
      change (_ ++ _) ++ _ = _
      rw [List.append_assoc, shows, List.append_assoc]
      exact congrArg (fun shown => held mode ++ (first ++ shown)) later
    · intro other member
      cases List.mem_append.mp member with
      | inl early =>
        rw [same other early]
        exact here
      | inr late => exact blanks other late

/-! ## Comments -/

/-- What stands behind the first occurrence of a mark. -/
def cutAfter (mark : Utf16) : Utf16 → Option Utf16
  | [] => none
  | unit :: rest =>
    if mark.isPrefixOf (unit :: rest) then some ((unit :: rest).drop mark.length)
    else cutAfter mark rest

/-- In front of the end of a comment in brackets, another one seems to begin. -/
def opensAgain : Utf16 → Bool
  | first :: second :: rest =>
    if first = 42 ∧ second = 47 then false
    else if first = 47 ∧ second = 42 then true
    else opensAgain (second :: rest)
  | _ => false

theorem scan_line {text rest : Utf16} (cut : cutAfter [10] text = some rest) :
    scan nests .line text = (10 :: (scan nests .code rest).1, (scan nests .code rest).2) := by
  induction text with
  | nil => cases cut
  | cons unit others ih =>
    rw [cutAfter] at cut
    by_cases ends : unit = 10
    · have found : [10].isPrefixOf (unit :: others) = true := by simp [ends]
      rw [if_pos found] at cut
      obtain rfl : others = rest := Option.some.inj cut
      simp [scan, sqlStep, ends]
    · have goes : ¬[10].isPrefixOf (unit :: others) = true := by
        simp only [List.isPrefixOf_cons_cons, List.isPrefixOf_nil_left, Bool.and_true, beq_iff_eq]
        exact fun same => ends same.symm
      rw [if_neg goes] at cut
      rw [scan, sqlStep, if_neg ends]
      exact ih cut

private theorem scan_blockStar (goes : text.head? ≠ some 47) :
    text = [] ∨ scan nests (.blockStar 1) text = scan nests (.block 1) text := by
  cases text with
  | nil => exact .inl rfl
  | cons unit rest =>
    have other : unit ≠ 47 := by
      intro same
      exact goes (by rw [same]; rfl)
    refine .inr ?_
    simp [scan, sqlStep, other]

/-- Behind a slash that begins nothing a comment goes on. -/
private theorem scan_blockSlash (goes : nests = true → text.head? ≠ some 42) :
    text = [] ∨ scan nests (.blockSlash 1) text = scan nests (.block 1) text := by
  cases text with
  | nil => exact .inl rfl
  | cons unit rest =>
    refine .inr ?_
    by_cases star : unit = 42
    · have flat : nests = false := by
        cases nests with
        | false => rfl
        | true => exact absurd (by rw [star]; rfl) (goes rfl)
      simp [scan, sqlStep, star, flat]
    · simp [scan, sqlStep, star]

/-- A comment in brackets ends where the first closing bracket stands, if comments do not nest or
none seems to begin in it. -/
theorem scan_block {text rest : Utf16} (cut : cutAfter [42, 47] text = some rest)
    (alone : nests = true → opensAgain text = false) :
    scan nests (.block 1) text = scan nests .code rest := by
  induction text with
  | nil => cases cut
  | cons unit others ih =>
    cases others with
    | nil => simp [cutAfter] at cut
    | cons next last =>
      rw [cutAfter] at cut
      by_cases closes : unit = 42 ∧ next = 47
      · obtain ⟨rfl, rfl⟩ := closes
        rw [if_pos (by rfl)] at cut
        obtain rfl : last = rest := Option.some.inj cut
        simp [scan, sqlStep]
      · have goes : ¬[42, 47].isPrefixOf (unit :: next :: last) = true := by
          simp only [List.isPrefixOf_cons_cons, List.isPrefixOf_nil_left, Bool.and_true, beq_iff_eq,
            Bool.and_eq_true]
          exact fun same => closes ⟨same.1.symm, same.2.symm⟩
        rw [if_neg goes] at cut
        have later : nests = true →
            ¬(unit = 47 ∧ next = 42) ∧ opensAgain (next :: last) = false := by
          intro yes
          have none := alone yes
          rw [opensAgain, if_neg closes] at none
          split_ifs at none with opens
          exact ⟨opens, none⟩
        have next := ih cut fun yes => (later yes).2
        rw [← next, scan]
        by_cases star : unit = 42
        · have behind := @scan_blockStar nests (_ :: last) (fun head => closes
            ⟨star, Option.some.inj head⟩)
          have same := behind.resolve_left (List.cons_ne_nil _ _)
          simp only [sqlStep, if_pos star, same]
          rfl
        · by_cases slash : unit = 47
          · have behind := @scan_blockSlash nests (_ :: last) (fun yes head => (later yes).1
              ⟨slash, Option.some.inj head⟩)
            have same := behind.resolve_left (List.cons_ne_nil _ _)
            simp only [sqlStep, if_neg star, if_pos slash, same]
            rfl
          · simp only [sqlStep, if_neg star, if_neg slash]
            rfl

/-! ## Reading tokens -/

/-- A word does not go on in a text. -/
def EndsWord (text : Utf16) : Prop := ∀ unit, text.head? = some unit → isWordUnit unit = false

theorem not_word_of_blank (blank : isBlankUnit unit = true) :
    isWordUnit unit = false := by
  have apart : ∀ {other : Nat}, isBlankUnit other = false → unit ≠ other :=
    fun sign => ne_of_blank blank sign
  unfold isWordUnit
  rw [blank]
  simp only [isBlankUnit, List.mem_cons, List.not_mem_nil, or_false, Bool.or_eq_true,
    Bool.and_eq_true, decide_eq_true_eq] at blank
  simp only [Bool.not_true, Bool.and_false, Bool.or_false, Bool.or_eq_false_iff,
    Bool.and_eq_false_iff, decide_eq_false_iff_not]
  omega

theorem endsWord_nil : EndsWord [] := by
  intro unit head
  cases head

theorem endsWord_cons (other : isWordUnit unit = false) (rest : Utf16) :
    EndsWord (unit :: rest) := by
  intro first head
  rw [← Option.some.inj head]
  exact other

theorem readTokens_of_ends (ends : EndsWord text) : (readTokens text).1 = [] := by
  cases text with
  | nil => rfl
  | cons unit rest =>
    rw [readTokens, ends unit rfl]
    simp only [Bool.false_eq_true, if_false]
    split
    · rfl
    · rfl

theorem tokens_blank (blank : isBlankUnit unit = true) (rest : Utf16) :
    tokens (unit :: rest) = tokens rest := by
  unfold tokens
  rw [readTokens, not_word_of_blank blank, blank]
  simp [closeWord]

theorem tokens_blanks {blanks : Utf16} (blank : ∀ unit ∈ blanks, isBlankUnit unit = true)
    (rest : Utf16) : tokens (blanks ++ rest) = tokens rest := by
  induction blanks with
  | nil => rfl
  | cons unit others ih =>
    rw [List.cons_append, tokens_blank (blank unit List.mem_cons_self)]
    exact ih fun other member => blank other (List.mem_cons_of_mem unit member)

theorem readTokens_word {word : Utf16} (shaped : ∀ unit ∈ word, isWordUnit unit = true)
    (rest : Utf16) :
    readTokens (word ++ rest) =
      (word.map lowerUnit ++ (readTokens rest).1, (readTokens rest).2) := by
  induction word with
  | nil => rfl
  | cons unit others ih =>
    rw [List.cons_append, readTokens, if_pos (shaped unit List.mem_cons_self),
      ih fun other member => shaped other (List.mem_cons_of_mem unit member)]
    rfl

theorem tokens_word {word rest : Utf16} (written : word ≠ [])
    (shaped : ∀ unit ∈ word, isWordUnit unit = true) (ends : EndsWord rest) :
    tokens (word ++ rest) = .word (word.map lowerUnit) :: tokens rest := by
  have nothing := readTokens_of_ends ends
  unfold tokens
  rw [readTokens_word shaped, nothing, List.append_nil]
  unfold closeWord
  rw [if_neg (by simpa using written), if_pos nothing]

/-! ## Separate statements -/

/-- Where nothing but blanks and semicolons follows, the statements behind the first are blank. -/
theorem splitOn_blanks (empty : ∀ unit ∈ text, unit = 59 ∨ isBlankUnit unit = true) :
    ∀ part ∈ text.splitOn 59, ∀ unit ∈ part, isBlankUnit unit = true := by
  induction text with
  | nil =>
    intro part member unit inside
    rw [List.splitOn_nil, List.mem_singleton] at member
    rw [member] at inside
    cases inside
  | cons first rest ih =>
    have later := ih fun other member => empty other (List.mem_cons_of_mem first member)
    intro part member unit inside
    rw [List.splitOn_cons_eq_if_modifyHead] at member
    by_cases ends : first = 59
    · rw [if_pos (by simpa using ends), List.mem_cons] at member
      cases member with
      | inl nothing =>
        rw [nothing] at inside
        cases inside
      | inr other => exact later part other unit inside
    · rw [if_neg (by simpa using ends)] at member
      cases parts : rest.splitOn 59 with
      | nil => exact absurd parts (List.splitOn_ne_nil 59 rest)
      | cons head others =>
        rw [parts] at member later
        rw [List.modifyHead_cons, List.mem_cons] at member
        cases member with
        | inl same =>
          rw [same, List.mem_cons] at inside
          cases inside with
          | inl here =>
            rw [here]
            exact (empty first List.mem_cons_self).resolve_left ends
          | inr there => exact later head List.mem_cons_self unit there
        | inr other => exact later part (List.mem_cons_of_mem head other) unit inside

/-- The first statement goes on with blanks, and the ones behind it have no tokens. -/
theorem splitOn_append_blanks {text rest : Utf16} (free : 59 ∉ text)
    (empty : ∀ unit ∈ rest, unit = 59 ∨ isBlankUnit unit = true) :
    ∃ blanks others, (text ++ rest).splitOn 59 = (text ++ blanks) :: others ∧
      (∀ unit ∈ blanks, isBlankUnit unit = true) ∧ ∀ other ∈ others, tokens other = [] := by
  have none : ∀ {part : Utf16}, (∀ unit ∈ part, isBlankUnit unit = true) → tokens part = [] := by
    intro part blank
    have same := tokens_blanks blank []
    rw [List.append_nil] at same
    exact same
  by_cases separated : 59 ∈ rest
  · obtain ⟨blanks, later, shape, first⟩ := List.eq_append_cons_of_mem separated
    rw [shape] at empty
    refine ⟨blanks, later.splitOn 59, ?_, ?_, ?_⟩
    · rw [shape, ← List.append_assoc, List.splitOn_append_cons_self, List.splitOn_eq_singleton]
      · rfl
      · rw [List.mem_append, not_or]
        exact ⟨free, first⟩
    · intro unit member
      refine (empty unit (List.mem_append_left _ member)).resolve_left ?_
      intro same
      rw [same] at member
      exact first member
    · intro other member
      apply none
      exact splitOn_blanks (fun unit inside => empty unit
        (List.mem_append_right _ (List.mem_cons_of_mem 59 inside))) other member
  · refine ⟨rest, [], ?_, ?_, ?_⟩
    · rw [List.splitOn_eq_singleton]
      rw [List.mem_append, not_or]
      exact ⟨free, separated⟩
    · intro unit member
      refine (empty unit member).resolve_left ?_
      intro same
      rw [same] at member
      exact separated member
    · intro other member
      cases member

/-- A statement that begins with a word other than WITH does what the word says. -/
theorem modifiesData_of_first {statement word : Utf16} {rest : List SqlToken}
    (begins : tokens statement = .word word :: rest) (plain : word ≠ utf16 "with") :
    modifiesData statement = decide (word ∈ modifyingVerbs) := by
  unfold modifiesData
  rw [begins, verbs, if_neg plain, List.any_cons, List.any_nil, Bool.or_false,
    List.contains_eq_mem]

theorem modifiesData_of_none {statement : Utf16} (nothing : tokens statement = []) :
    modifiesData statement = false := by
  unfold modifiesData
  rw [nothing]
  rfl

end PlugHub.Library
