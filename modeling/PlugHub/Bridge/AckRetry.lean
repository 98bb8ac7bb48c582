import PlugHub.Bridge.CommandTransformers
import PlugHub.Library.SqlText

/-!
# Commands that are sent again

Which commands the hub sends again when their acknowledgement is missing: those with an idempotency
key, whatever they do, and those that only read. A SQL text only reads when it is one statement and,
behind the comments that it begins with, its first word is one of six. Two kinds of texts deceive
this check: those that begin with WITH, whose word does not say what they do, and those with a
comment whose end the check does not see where a database sees it.
-/

namespace PlugHub.AckRetry

open Library CommandTransformers

/-! ## Texts that only read -/

/-- `trimStart`. -/
def trimStart (text : Utf16) : Utf16 := text.dropWhile isBlankUnit

/-- A text without the semicolons at its end, and the blanks behind them. -/
def withoutTrailingSemi (text : Utf16) : Utf16 :=
  let body := text.rdropWhile isBlankUnit
  if body.getLast? = some 59 then body.rdropWhile (· = 59) else text

/-- The text behind the comments it begins with, of which so many are stripped. -/
def stripComments : Nat → Utf16 → Option Utf16
  | 0, text => some text
  | budget + 1, text =>
    if (utf16 "--").isPrefixOf text then
      match cutAfter [10] text with
      | none => none
      | some rest => stripComments budget (trimStart rest)
    else if (utf16 "/*").isPrefixOf text then
      -- `indexOf` begins at the opening bracket, so the first of its own two units can end it.
      match cutAfter (utf16 "*/") text with
      | none => none
      | some rest => stripComments budget (trimStart rest)
    else some text

/-- The words of statements that read. -/
def readOnlySqlPrefixes : List Utf16 :=
  [utf16 "select", utf16 "with", utf16 "show", utf16 "describe", utf16 "desc", utf16 "explain"]

/-- A text begins with a word and then ends, or goes on behind a space or a line end. Lower case is
that of the English letters: no other letter becomes one of those in the six words. -/
def beginsWithWord (normalized word : Utf16) : Bool :=
  let lower := normalized.map lowerUnit
  lower = word || (word ++ [32]).isPrefixOf lower || (word ++ [10]).isPrefixOf lower

/-- A text only reads. -/
def isReadOnlySql (sql : Utf16) : Bool :=
  if trimUnits sql = [] then false
  else if 59 ∈ withoutTrailingSemi (trimUnits sql) then false
  else
    match stripComments 8 (trimStart (withoutTrailingSemi (trimUnits sql))) with
    | none => false
    | some normalized =>
      if (utf16 "--").isPrefixOf normalized || (utf16 "/*").isPrefixOf normalized ||
          normalized = [] then false
      else readOnlySqlPrefixes.any (beginsWithWord normalized)

/-! ## Commands that only read -/

/-- A command has an idempotency key. -/
def hasRpcParamsIdempotencyKey (command : JsonFields) : Bool :=
  match record command "params" with
  | some params => (trimmed params "idempotency_key").isSome
  | none => false

/-- The methods that read. -/
def readSafeMethods : List String :=
  ["agent.getHealth", "agent.getProfile", "agent.action.getExecution", "agent.action.validateRun",
    "client_token.getPolicy", "rpc.discover"]

/-- The text of an object. -/
def sqlOf (item : JsonFields) : Option Utf16 :=
  match field item "sql" with
  | some (.string sql) => some sql
  | _ => none

/-- The text of an item of a batch of statements. -/
def batchSql : JsonValue → Option Utf16
  | .object item => sqlOf item
  | _ => none

/-- The items of a batch of statements. -/
def batchCommands (params : JsonFields) : List JsonValue :=
  match field params "commands" with
  | some (.array commands) => commands
  | _ => []

/-- There is a text and it only reads. -/
def readsOnly : Option Utf16 → Bool
  | some sql => isReadOnlySql sql
  | none => false

/-- A command only reads. -/
def isReadSafeRpcCommand (command : JsonFields) : Bool :=
  if readSafeMethods.any (hasMethod command) then true
  else
    match record command "params" with
    | none => false
    | some params =>
      if hasMethod command "sql.execute" then readsOnly (sqlOf params)
      else if hasMethod command "sql.executeBatch" then
        !(batchCommands params).isEmpty &&
          (batchCommands params).all fun item => readsOnly (batchSql item)
      else false

/-- The method of a command is one of an action. -/
def isAction (command : JsonFields) : Bool :=
  match field command "method" with
  | some (.string method) => (utf16 "agent.action.").isPrefixOf method
  | _ => false

/-- An action may have effects. -/
def mayAct (command : JsonFields) : Bool :=
  isAction command && !hasMethod command "agent.action.validateRun" &&
    !hasMethod command "agent.action.getExecution"

/-- A command has an id. -/
def hasId (command : JsonFields) : Bool :=
  match field command "id" with
  | none => false
  | some .null => false
  | some _ => true

/-- A command is sent again when its acknowledgement is missing. -/
def isAckRetryEligibleCommand (command : BridgeCommand) : Bool :=
  if command.items.any mayAct then false
  else
    match command with
    | .batch items =>
      if items.isEmpty || items.any fun item => !hasId item then false
      else items.all hasRpcParamsIdempotencyKey || items.all isReadSafeRpcCommand
    | .single command =>
      if !hasId command then false
      else hasRpcParamsIdempotencyKey command || isReadSafeRpcCommand command

/-! ## What is promised of them -/

/-- One of the comments that a text begins with ends where the check does not see it: it begins as
`/*/`, or, where comments nest, another one seems to begin in it. -/
def oddComment (nests : Bool) : Nat → Utf16 → Bool
  | 0, _ => false
  | budget + 1, text =>
    if (utf16 "--").isPrefixOf text then
      match cutAfter [10] text with
      | none => false
      | some rest => oddComment nests budget (trimStart rest)
    else if (utf16 "/*").isPrefixOf text then
      (text.drop 2).head? = some 47 || (nests && opensAgain (text.drop 2)) ||
        match cutAfter (utf16 "*/") text with
        | none => false
        | some rest => oddComment nests budget (trimStart rest)
    else false

/-- The comments of a text end where the check sees them end. -/
def SeenThrough (nests : Bool) (sql : Utf16) : Prop :=
  oddComment nests 8 (trimStart (withoutTrailingSemi (trimUnits sql))) = false

/-- A text is one statement that begins with a word. -/
def BeginsWith (nests : Bool) (sql word : Utf16) : Prop :=
  ∃ first others rest, statements nests sql = first :: others ∧ tokens first = .word word :: rest ∧
    ∀ other ∈ others, tokens other = []

/-- What is promised of a text: it is one statement that begins with one of the six words, and it
modifies nothing, unless it begins with WITH. -/
structure ReadsOnly (nests : Bool) (sql : Utf16) : Prop where
  single : SeenThrough nests sql → ∃ word ∈ readOnlySqlPrefixes, BeginsWith nests sql word
  harmless : SeenThrough nests sql → ¬BeginsWith nests sql (utf16 "with") →
    ∀ statement ∈ statements nests sql, modifiesData statement = false

/-- The texts of a command. -/
def sqlTexts (command : JsonFields) : List Utf16 :=
  match record command "params" with
  | none => []
  | some params =>
    if hasMethod command "sql.execute" then (sqlOf params).toList
    else if hasMethod command "sql.executeBatch" then (batchCommands params).filterMap batchSql
    else []

/-- A command reads: its method does, or it runs texts that only read. -/
def Reads (nests : Bool) (command : JsonFields) : Prop :=
  (∃ method ∈ readSafeMethods, hasMethod command method = true) ∨
    (sqlTexts command ≠ [] ∧ ∀ sql ∈ sqlTexts command, ReadsOnly nests sql)

/-- What is promised of a command that is sent again. -/
structure SafeToRetry (nests : Bool) (command : BridgeCommand) : Prop where
  /-- Every item has an id. -/
  identified : ∀ item ∈ command.items, hasId item = true
  /-- No item asks for an action. -/
  passive : ∀ item ∈ command.items, mayAct item = false
  /-- All items have idempotency keys, or all of them only read. -/
  safe : (∀ item ∈ command.items, hasRpcParamsIdempotencyKey item = true) ∨
    ∀ item ∈ command.items, Reads nests item

/-! ## The ends of a text -/

theorem split_end {α : Type} (drop : α → Bool) (text : List α) :
    ∃ rest, text = text.rdropWhile drop ++ rest ∧ ∀ unit ∈ rest, drop unit = true := by
  refine ⟨(text.reverse.takeWhile drop).reverse, ?_, ?_⟩
  · calc
      text = text.reverse.reverse := (List.reverse_reverse text).symm
      _ = (text.reverse.takeWhile drop ++ text.reverse.dropWhile drop).reverse := by
        rw [List.takeWhile_append_dropWhile]
      _ = text.rdropWhile drop ++ (text.reverse.takeWhile drop).reverse := by
        rw [List.reverse_append]
        rfl
  · intro unit member
    exact List.mem_takeWhile_imp (List.mem_reverse.mp member)

theorem split_start (text : Utf16) :
    ∃ blanks, text = blanks ++ trimStart text ∧ ∀ unit ∈ blanks, isBlankUnit unit = true :=
  ⟨text.takeWhile isBlankUnit, List.takeWhile_append_dropWhile.symm,
    fun _ member => List.mem_takeWhile_imp member⟩

theorem split_semi (text : Utf16) :
    ∃ rest, text = withoutTrailingSemi text ++ rest ∧
      ∀ unit ∈ rest, unit = 59 ∨ isBlankUnit unit = true := by
  unfold withoutTrailingSemi
  simp only
  split
  · obtain ⟨blanks, whole, blank⟩ := split_end isBlankUnit text
    obtain ⟨semis, body, semi⟩ := split_end (· = 59) (text.rdropWhile isBlankUnit)
    refine ⟨semis ++ blanks, ?_, ?_⟩
    · rw [← List.append_assoc, ← body]
      exact whole
    · intro unit member
      cases List.mem_append.mp member with
      | inl first => exact .inl (of_decide_eq_true (semi unit first))
      | inr last => exact .inr (blank unit last)
  · refine ⟨[], (List.append_nil text).symm, ?_⟩
    intro unit member
    cases member

theorem split_text (sql : Utf16) :
    ∃ blanks rest, sql = blanks ++ (withoutTrailingSemi (trimUnits sql) ++ rest) ∧
      (∀ unit ∈ blanks, isBlankUnit unit = true) ∧
      ∀ unit ∈ rest, unit = 59 ∨ isBlankUnit unit = true := by
  obtain ⟨blanks, whole, blank⟩ := split_start sql
  obtain ⟨trailing, trimmed, trails⟩ := split_end isBlankUnit (trimStart sql)
  obtain ⟨semis, body, semi⟩ := split_semi (trimUnits sql)
  refine ⟨blanks, semis ++ trailing, ?_, blank, ?_⟩
  · calc
      sql = blanks ++ trimStart sql := whole
      _ = blanks ++ (trimUnits sql ++ trailing) := congrArg (blanks ++ ·) trimmed
      _ = blanks ++ (withoutTrailingSemi (trimUnits sql) ++ semis ++ trailing) :=
        congrArg (fun body => blanks ++ (body ++ trailing)) body
      _ = blanks ++ (withoutTrailingSemi (trimUnits sql) ++ (semis ++ trailing)) := by
        rw [List.append_assoc]
  · intro unit member
    cases List.mem_append.mp member with
    | inl first => exact semi unit first
    | inr last => exact .inr (trails unit last)

/-! ## The comments of a text -/

variable (nests : Bool)

theorem scan_blanks {blanks : Utf16}
    (blank : ∀ unit ∈ blanks, isBlankUnit unit = true) :
    scan nests .code blanks = (blanks, .code) := by
  apply scan_plain
  intro unit member
  have apart : ∀ {other : Nat}, isBlankUnit other = false → unit ≠ other :=
    fun sign => ne_of_blank (blank unit member) sign
  simp only [List.mem_cons, List.not_mem_nil, or_false, not_or]
  exact ⟨apart (by decide), apart (by decide), apart (by decide), apart (by decide)⟩

/-- A text shows blanks and then what another one shows. -/
def ShowsBehindBlanks (nests : Bool) (text rest : Utf16) : Prop :=
  ∃ blanks, (∀ unit ∈ blanks, isBlankUnit unit = true) ∧
    scan nests .code text = (blanks ++ (scan nests .code rest).1, (scan nests .code rest).2)

theorem ShowsBehindBlanks.refl (text : Utf16) :
    ShowsBehindBlanks nests text text := by
  refine ⟨[], ?_, rfl⟩
  intro unit member
  cases member

theorem ShowsBehindBlanks.trans {nests : Bool} {first second third : Utf16}
    (shows : ShowsBehindBlanks nests first second) (later : ShowsBehindBlanks nests second third) :
    ShowsBehindBlanks nests first third := by
  obtain ⟨blanks, blank, shape⟩ := shows
  obtain ⟨blanks', blank', shape'⟩ := later
  refine ⟨blanks ++ blanks', ?_, by rw [shape, shape', List.append_assoc]⟩
  intro unit member
  cases List.mem_append.mp member with
  | inl here => exact blank unit here
  | inr there => exact blank' unit there

theorem showsBehindBlanks_trimStart (text : Utf16) :
    ShowsBehindBlanks nests text (trimStart text) := by
  obtain ⟨blanks, whole, blank⟩ := split_start text
  refine ⟨blanks, blank, ?_⟩
  conv_lhs => rw [whole]
  rw [scan_append, scan_blanks nests blank]

theorem showsBehindBlanks_line {nests : Bool} {text rest : Utf16}
    (opens : (utf16 "--").isPrefixOf text = true) (cut : cutAfter [10] text = some rest) :
    ShowsBehindBlanks nests text rest := by
  obtain ⟨inside, rfl⟩ := List.isPrefixOf_iff_prefix.mp opens
  have later : cutAfter [10] inside = some rest := cut
  refine ⟨[32, 10], by decide, ?_⟩
  have line := scan_line nests later
  change (32 :: (scan nests .line inside).1, (scan nests .line inside).2) = _
  rw [line]
  rfl

theorem showsBehindBlanks_block {nests : Bool} {text rest : Utf16}
    (opens : (utf16 "/*").isPrefixOf text = true)
    (cut : cutAfter (utf16 "*/") text = some rest) (seen : (text.drop 2).head? ≠ some 47)
    (alone : nests = true → opensAgain (text.drop 2) = false) :
    ShowsBehindBlanks nests text rest := by
  obtain ⟨inside, rfl⟩ := List.isPrefixOf_iff_prefix.mp opens
  have later : cutAfter [42, 47] inside = some rest := by
    have goes : ¬[42, 47].isPrefixOf (42 :: inside) = true := by
      cases inside with
      | nil => decide
      | cons unit others =>
        simp only [List.isPrefixOf_cons_cons, List.isPrefixOf_nil_left, Bool.and_true,
          Bool.and_eq_true, beq_iff_eq]
        rintro ⟨_, same⟩
        exact seen (by rw [same]; rfl)
    change (if [42, 47].isPrefixOf (42 :: inside) = true then _ else _) = _ at cut
    rw [if_neg goes] at cut
    exact cut
  refine ⟨[32], by decide, ?_⟩
  have block := scan_block nests later alone
  change (32 :: (scan nests (.block 1) inside).1, (scan nests (.block 1) inside).2) = _
  rw [block]
  rfl

theorem showsBehindBlanks_stripComments (budget : Nat) {text normalized : Utf16}
    (stripped : stripComments budget text = some normalized)
    (plain : oddComment nests budget text = false) : ShowsBehindBlanks nests text normalized := by
  induction budget generalizing text with
  | zero =>
    obtain rfl : text = normalized := Option.some.inj stripped
    exact ShowsBehindBlanks.refl nests text
  | succ budget ih =>
    rw [stripComments] at stripped
    rw [oddComment] at plain
    by_cases line : (utf16 "--").isPrefixOf text = true
    · rw [if_pos line] at stripped plain
      cases cut : cutAfter [10] text with
      | none =>
        rw [cut] at stripped
        cases stripped
      | some rest =>
        rw [cut] at stripped plain
        exact (showsBehindBlanks_line line cut).trans
          ((showsBehindBlanks_trimStart nests rest).trans (ih stripped plain))
    · rw [if_neg line] at stripped plain
      by_cases block : (utf16 "/*").isPrefixOf text = true
      · rw [if_pos block] at stripped plain
        cases cut : cutAfter (utf16 "*/") text with
        | none =>
          rw [cut] at stripped
          cases stripped
        | some rest =>
          rw [cut] at stripped plain
          simp only [Bool.or_eq_false_iff, decide_eq_false_iff_not, Bool.and_eq_false_iff] at plain
          obtain ⟨⟨seen, alone⟩, later⟩ := plain
          have single : nests = true → opensAgain (text.drop 2) = false := by
            intro yes
            rw [yes] at alone
            exact alone.resolve_left (by decide)
          exact (showsBehindBlanks_block block cut seen single).trans
            ((showsBehindBlanks_trimStart nests rest).trans (ih stripped later))
      · rw [if_neg block] at stripped
        obtain rfl : text = normalized := Option.some.inj stripped
        exact ShowsBehindBlanks.refl nests text

/-! ## The word of a text -/

theorem letter_of_lower {unit : Nat} (low : 97 ≤ lowerUnit unit) (high : lowerUnit unit ≤ 122) :
    isWordUnit unit = true ∧ unit ∉ [45, 47, 39, 34] := by
  have letter : (65 ≤ unit ∧ unit ≤ 90) ∨ (97 ≤ unit ∧ unit ≤ 122) := by
    unfold lowerUnit at low high
    split_ifs at low high with upper
    · exact .inl upper
    · exact .inr ⟨low, high⟩
  constructor
  · unfold isWordUnit
    cases letter with
    | inl upper => simp [upper]
    | inr lower => simp [lower]
  · simp only [List.mem_cons, List.not_mem_nil, or_false, not_or]
    omega

theorem letters_of_prefix : ∀ word ∈ readOnlySqlPrefixes, word ≠ [] ∧
    ∀ unit ∈ word, 97 ≤ unit ∧ unit ≤ 122 := by decide

theorem not_modifying_of_readOnly : ∀ word ∈ readOnlySqlPrefixes, word ∉ modifyingVerbs := by decide

/-- What stands behind a word: nothing, a space or a line end. -/
def EndsPrefix (rest : Utf16) : Prop :=
  rest = [] ∨ ∃ unit others, rest = unit :: others ∧ (unit = 32 ∨ unit = 10)

/-- A text that begins with a word is the word in some case and a rest that ends it. -/
theorem split_word {normalized word : Utf16} (begins : beginsWithWord normalized word = true) :
    ∃ first rest, normalized = first ++ rest ∧ first.map lowerUnit = word ∧ EndsPrefix rest := by
  have cut : ∀ {rest : Utf16}, word ++ rest = normalized.map lowerUnit →
      (normalized.take word.length).map lowerUnit = word ∧
        (normalized.drop word.length).map lowerUnit = rest := by
    intro rest whole
    rw [List.map_take, List.map_drop, ← whole, List.take_left, List.drop_left]
    exact ⟨rfl, rfl⟩
  have blank : ∀ {unit : Nat} {rest : Utf16}, unit = 32 ∨ unit = 10 →
      word ++ [unit] ++ rest = normalized.map lowerUnit →
        ∃ others, normalized.drop word.length = unit :: others := by
    intro unit rest either whole
    rw [List.append_assoc] at whole
    obtain ⟨other, others, shape, same, _⟩ := List.map_eq_cons_iff.mp (cut whole).2
    refine ⟨others, ?_⟩
    rw [shape]
    unfold lowerUnit at same
    split_ifs at same
    · omega
    · rw [same]
  refine ⟨normalized.take word.length, normalized.drop word.length,
    (List.take_append_drop _ _).symm, ?_⟩
  unfold beginsWithWord at begins
  simp only [Bool.or_eq_true, decide_eq_true_eq] at begins
  obtain (whole | space) | line := begins
  · have parts := @cut [] (by rw [List.append_nil, whole])
    exact ⟨parts.1, .inl (List.map_eq_nil_iff.mp parts.2)⟩
  · obtain ⟨rest, whole⟩ := List.isPrefixOf_iff_prefix.mp space
    obtain ⟨others, shape⟩ := blank (.inl rfl) whole
    rw [List.append_assoc] at whole
    exact ⟨(cut whole).1, .inr ⟨32, others, shape, .inl rfl⟩⟩
  · obtain ⟨rest, whole⟩ := List.isPrefixOf_iff_prefix.mp line
    obtain ⟨others, shape⟩ := blank (.inr rfl) whole
    rw [List.append_assoc] at whole
    exact ⟨(cut whole).1, .inr ⟨10, others, shape, .inr rfl⟩⟩

variable {sql : Utf16}

theorem readOnly_cases (readOnly : isReadOnlySql sql = true) :
    59 ∉ withoutTrailingSemi (trimUnits sql) ∧ ∃ normalized word,
      stripComments 8 (trimStart (withoutTrailingSemi (trimUnits sql))) = some normalized ∧
        word ∈ readOnlySqlPrefixes ∧ beginsWithWord normalized word = true := by
  unfold isReadOnlySql at readOnly
  split at readOnly
  · cases readOnly
  · split at readOnly
    · cases readOnly
    · next free =>
      refine ⟨free, ?_⟩
      split at readOnly
      · cases readOnly
      · next normalized stripped =>
        split at readOnly
        · cases readOnly
        · obtain ⟨word, known, begins⟩ := List.any_eq_true.mp readOnly
          exact ⟨normalized, word, stripped, known, begins⟩

theorem endsWord_behind {rest blanks : Utf16} (ends : EndsPrefix rest)
    (blank : ∀ unit ∈ blanks, isBlankUnit unit = true) :
    EndsWord (shown nests .code rest ++ blanks) := by
  obtain none | ⟨unit, others, some, either⟩ := ends
  · rw [none]
    change EndsWord blanks
    cases blanks with
    | nil => exact endsWord_nil
    | cons unit others =>
      exact endsWord_cons (not_word_of_blank (blank unit List.mem_cons_self)) others
  · have plain : sqlStep nests .code unit = ([unit], .code) := by
      apply codeStep_plain
      simp only [List.mem_cons, List.not_mem_nil, or_false, not_or]
      omega
    have head : ∃ more, shown nests .code rest ++ blanks = unit :: more := by
      rw [some]
      unfold shown
      rw [scan, plain]
      exact ⟨_, rfl⟩
    obtain ⟨more, same⟩ := head
    rw [same]
    apply endsWord_cons
    cases either with
    | inl space => rw [space]; decide
    | inr line => rw [line]; decide

theorem scan_body (readOnly : isReadOnlySql sql = true) (seen : SeenThrough nests sql) :
    ∃ blanks first rest, (∀ unit ∈ blanks, isBlankUnit unit = true) ∧ first ≠ [] ∧
      (∀ unit ∈ first, isWordUnit unit = true) ∧ first.map lowerUnit ∈ readOnlySqlPrefixes ∧
      EndsPrefix rest ∧
      scan nests .code (withoutTrailingSemi (trimUnits sql)) =
        (blanks ++ (first ++ (scan nests .code rest).1), (scan nests .code rest).2) := by
  obtain ⟨_, normalized, word, stripped, known, begins⟩ := readOnly_cases readOnly
  obtain ⟨first, rest, shape, lower, ends⟩ := split_word begins
  obtain ⟨written, letters⟩ := letters_of_prefix word known
  have shaped : ∀ unit ∈ first, isWordUnit unit = true ∧ unit ∉ [45, 47, 39, 34] := by
    intro unit member
    have there : lowerUnit unit ∈ word := by
      rw [← lower]
      exact List.mem_map_of_mem member
    exact letter_of_lower (letters _ there).1 (letters _ there).2
  have begun : first ≠ [] := by
    intro none
    apply written
    rw [← lower, none]
    rfl
  obtain ⟨blanks, blank, shows⟩ :=
    (showsBehindBlanks_trimStart nests (withoutTrailingSemi (trimUnits sql))).trans
      (showsBehindBlanks_stripComments nests 8 stripped seen)
  refine ⟨blanks, first, rest, blank, begun, ?_, ?_, ends, ?_⟩
  · intro unit member
    exact (shaped unit member).1
  · rw [lower]
    exact known
  · rw [shows, shape, scan_append, scan_plain nests fun unit member => (shaped unit member).2]

/-- A text that only reads is one statement that begins with one of the six words. -/
theorem single_of_readOnly (readOnly : isReadOnlySql sql = true)
    (seen : SeenThrough nests sql) : ∃ word ∈ readOnlySqlPrefixes, BeginsWith nests sql word := by
  obtain ⟨leading, trailing, whole, blank, empty⟩ := split_text sql
  obtain ⟨blanks, first, rest, blank', begun, shaped, known, ends, body⟩ :=
    scan_body nests readOnly seen
  obtain ⟨last, tail, empty'⟩ := shown_blanks nests empty (scan nests .code rest).2
  -- The text that is shown before the blanks and semicolons at its end has no semicolon.
  let text := leading ++ (blanks ++ (first ++ shown nests .code rest))
  have all : visible nests sql = text ++ last := by
    unfold visible
    conv_lhs => rw [whole]
    rw [shown_append, scan_blanks nests blank]
    simp only
    rw [shown_append, body, tail]
    simp only [text, shown, List.append_assoc]
  have free : 59 ∉ text := by
    have inBody : 59 ∉ blanks ++ (first ++ (scan nests .code rest).1) := by
      intro member
      have there : 59 ∈ (scan nests .code (withoutTrailingSemi (trimUnits sql))).1 := by
        rw [body]
        exact member
      cases mem_scan there with
      | inl stands => exact (readOnly_cases readOnly).1 stands
      | inr special => exact absurd special (by decide)
    have inHeld : 59 ∉ held (scan nests .code rest).2 := by
      intro member
      exact absurd (mem_held member) (by decide)
    have inLeading : 59 ∉ leading := by
      intro member
      exact ne_of_blank (blank 59 member) (by decide) rfl
    simp only [text, shown, List.mem_append, not_or] at inBody ⊢
    exact ⟨inLeading, inBody.1, inBody.2.1, inBody.2.2, inHeld⟩
  obtain ⟨blanks', others, split, blank'', nothing⟩ := splitOn_append_blanks free empty'
  refine ⟨first.map lowerUnit, known, text ++ blanks', others,
    tokens (shown nests .code rest ++ blanks'), ?_, ?_, nothing⟩
  · unfold statements
    rw [all, split]
  · have parts : text ++ blanks' =
        leading ++ (blanks ++ (first ++ (shown nests .code rest ++ blanks'))) := by
      simp only [text, List.append_assoc]
    rw [parts, tokens_blanks blank, tokens_blanks blank',
      tokens_word begun shaped (endsWord_behind nests ends blank'')]

theorem readsOnly_of_readOnly (readOnly : isReadOnlySql sql = true) :
    ReadsOnly nests sql := by
  refine ⟨single_of_readOnly nests readOnly, ?_⟩
  intro seen plain statement member
  obtain ⟨word, known, first, others, rest, split, begins, nothing⟩ :=
    single_of_readOnly nests readOnly seen
  have other : word ≠ utf16 "with" := by
    intro same
    rw [same] at begins
    exact plain ⟨first, others, rest, split, begins, nothing⟩
  rw [split, List.mem_cons] at member
  cases member with
  | inl same =>
    rw [same, modifiesData_of_first begins other]
    exact decide_eq_false (not_modifying_of_readOnly word known)
  | inr later => exact modifiesData_of_none (nothing statement later)

/-! ## Commands that are sent again -/

theorem reads_of_readSafe {command : JsonFields}
    (safe : isReadSafeRpcCommand command = true) : Reads nests command := by
  have text : ∀ {source : Option Utf16}, readsOnly source = true →
      ∃ sql, source = some sql ∧ ReadsOnly nests sql := by
    intro source reads
    cases source with
    | none => cases reads
    | some sql => exact ⟨sql, rfl, readsOnly_of_readOnly nests reads⟩
  unfold isReadSafeRpcCommand at safe
  by_cases method : readSafeMethods.any (hasMethod command) = true
  · obtain ⟨name, known, has⟩ := List.any_eq_true.mp method
    exact .inl ⟨name, known, has⟩
  · rw [if_neg method] at safe
    right
    unfold sqlTexts
    cases found : record command "params" with
    | none =>
      rw [found] at safe
      cases safe
    | some params =>
      rw [found] at safe
      simp only at safe ⊢
      by_cases execute : hasMethod command "sql.execute" = true
      · rw [if_pos execute] at safe ⊢
        obtain ⟨sql, source, reads⟩ := text safe
        rw [source]
        refine ⟨List.cons_ne_nil _ _, ?_⟩
        intro other member
        rw [List.mem_singleton.mp member]
        exact reads
      · rw [if_neg execute] at safe ⊢
        by_cases batch : hasMethod command "sql.executeBatch" = true
        · rw [if_pos batch, Bool.and_eq_true] at safe
          rw [if_pos batch]
          have each := List.all_eq_true.mp safe.2
          constructor
          · cases items : batchCommands params with
            | nil =>
              rw [items] at safe
              cases safe.1
            | cons item rest =>
              obtain ⟨sql, source, _⟩ := text (each item (by rw [items]; exact List.mem_cons_self))
              rw [List.filterMap_cons_some source]
              exact List.cons_ne_nil _ _
          · intro sql member
            obtain ⟨item, inside, source⟩ := List.mem_filterMap.mp member
            obtain ⟨other, source', reads⟩ := text (each item inside)
            rw [Option.some.inj (source.symm.trans source')]
            exact reads
        · rw [if_neg batch] at safe
          cases safe

/-- A command that is sent again has ids, is no action that may have effects, and has idempotency
keys or reads. -/
theorem safeToRetry_of_eligible (nests : Bool) {command : BridgeCommand}
    (eligible : isAckRetryEligibleCommand command = true) : SafeToRetry nests command := by
  unfold isAckRetryEligibleCommand at eligible
  by_cases acts : command.items.any mayAct = true
  · rw [if_pos acts] at eligible
    cases eligible
  · rw [if_neg acts] at eligible
    have passive : ∀ item ∈ command.items, mayAct item = false := by
      intro item member
      cases may : mayAct item with
      | false => rfl
      | true => exact absurd (List.any_eq_true.mpr ⟨item, member, may⟩) acts
    have decided : (∀ item ∈ command.items, hasId item = true) ∧
        (command.items.all hasRpcParamsIdempotencyKey ||
          command.items.all isReadSafeRpcCommand) = true := by
      cases command with
      | single command =>
        simp only [Bool.not_eq_true', Bool.if_false_left, Bool.and_eq_true] at eligible
        simp only [BridgeCommand.items, List.mem_singleton, forall_eq, List.all_cons, List.all_nil,
          Bool.and_true]
        exact ⟨by simpa using eligible.1, eligible.2⟩
      | batch items =>
        simp only at eligible
        by_cases without : (items.isEmpty || items.any fun item => !hasId item) = true
        · rw [if_pos without] at eligible
          cases eligible
        · rw [if_neg without] at eligible
          refine ⟨?_, eligible⟩
          intro item member
          cases has : hasId item with
          | true => rfl
          | false =>
            apply absurd _ without
            rw [Bool.or_eq_true, List.any_eq_true]
            exact .inr ⟨item, member, by rw [has]; rfl⟩
    refine ⟨decided.1, passive, ?_⟩
    cases (Bool.or_eq_true _ _).mp decided.2 with
    | inl keys => exact .inl (List.all_eq_true.mp keys)
    | inr reads =>
      exact .inr fun item member => reads_of_readSafe nests (List.all_eq_true.mp reads item member)

/-- A command that runs a text. -/
def executing (sql : Utf16) (more : JsonFields) : JsonFields :=
  [(utf16 "jsonrpc", .string (utf16 "2.0")), (utf16 "method", .string (utf16 "sql.execute")),
    (utf16 "id", .string (utf16 "q1")),
    (utf16 "params", .object ((utf16 "sql", .string sql) :: more))]

/-- A batch of two reading texts is safe to send again. -/
theorem selects_safeToRetry :
    SafeToRetry true (.batch [executing (utf16 "-- all\nSELECT * FROM users;") [],
      executing (utf16 "/* one */ select 'a'") []]) :=
  safeToRetry_of_eligible true (by decide)

/-- An idempotency key. -/
def idempotencyKey : JsonFields := [(utf16 "idempotency_key", .string (utf16 "idem-1"))]

/-- A statement that modifies data is sent again with an idempotency key; and without one when it
begins with WITH, or when the check takes the opening bracket of its comment for a whole comment. -/
theorem modifications_sent_again :
    (isAckRetryEligibleCommand (.single (executing (utf16 "UPDATE users SET name = 'x'")
          idempotencyKey)) = true ∧
        (statements false (utf16 "UPDATE users SET name = 'x'")).any modifiesData = true) ∧
      (isAckRetryEligibleCommand (.single (executing
            (utf16 "WITH old AS (SELECT 1) DELETE FROM users") [])) = true ∧
          (statements false (utf16 "WITH old AS (SELECT 1) DELETE FROM users")).any
            modifiesData = true) ∧
        isAckRetryEligibleCommand (.single (executing
            (utf16 "/*/ select 1 */ DELETE FROM users") [])) = true ∧
          (statements false (utf16 "/*/ select 1 */ DELETE FROM users")).any
            modifiesData = true := by
  decide

end PlugHub.AckRetry
