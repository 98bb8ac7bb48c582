import PlugHub.Library.JsonValue

/-!
# Transformers of commands

What the hub changes in a command before the agent gets it: the number of rows that it asks for is
clamped, the option that preserves its text is spelled the new way, and the version and the metadata
of the hub are set. Each of the three reads a command by itself or a batch, and is written twice in
the source. A batch becomes the batch of what its items become alone, except that the hub's request
id is for a single command what the dispatch says, and for an item of a batch its own id.
-/

namespace PlugHub.CommandTransformers

open Library

/-- A command: one by itself, or a batch. The validation saw to it that the parameters of a SQL
command are an object, and that its options and its metadata are objects where they are there. -/
inductive BridgeCommand where
  | single (command : JsonFields)
  | batch (items : List JsonFields)

/-- A field by a plain name. -/
def field (fields : JsonFields) (name : String) : Option JsonValue := getField fields (utf16 name)

/-- `toRecord` of a field. -/
def record (fields : JsonFields) (name : String) : Option JsonFields :=
  match field fields name with
  | some (.object inner) => some inner
  | _ => none

/-- A field that is a string with more than blanks in it, without the blanks at its ends. -/
def trimmed (fields : JsonFields) (name : String) : Option Utf16 :=
  match field fields name with
  | some (.string text) => if trimUnits text ≠ [] then some (trimUnits text) else none
  | _ => none

/-- The method of a command. -/
def hasMethod (command : JsonFields) (method : String) : Bool :=
  match field command "method" with
  | some (.string text) => text = utf16 method
  | _ => false

/-- `{ ...fields, [name]: value }`. -/
def withField (fields : JsonFields) (name : String) (value : JsonValue) : JsonFields :=
  setField fields (utf16 name) value

/-- A command whose parameters have the given options. -/
def withOptions (command params options : JsonFields) : JsonFields :=
  withField command "params" (.object (withField params "options" (.object options)))

/-! ## Rows -/

/-- The parameters of a command and the options among them. -/
def optionsOf (command : JsonFields) : Option (JsonFields × JsonFields) := do
  let params ← record command "params"
  let options ← record params "options"
  return (params, options)

/-- `params.options?.max_rows`, when it is a finite number. -/
def currentMaxRows (command : JsonFields) : Option JsonNumber :=
  match optionsOf command with
  | some (_, options) =>
    match field options "max_rows" with
    | some (.number current) => some current
    | _ => none
  | none => none

/-- The methods whose rows are clamped. -/
def clampsRows (command : JsonFields) : Bool :=
  hasMethod command "sql.execute" || hasMethod command "sql.executeBatch"

/-- The rows of one command; the source has this four times. -/
def clampItemMaxRows (command : JsonFields) (maxRows : Nat) : JsonFields × Bool :=
  if clampsRows command then
    match optionsOf command, currentMaxRows command with
    | some (params, options), some current =>
      if (maxRows : ℚ) < current.value then
        (withOptions command params (withField options "max_rows" (.number (.ofNat maxRows))), true)
      else (command, false)
    | _, _ => (command, false)
  else (command, false)

/-- The rows of a command, and whether one of them was adjusted. -/
def clampSingleCommandMaxRows (command : BridgeCommand) (maxRows : Nat) : BridgeCommand × Bool :=
  match command with
  | .batch items =>
    (.batch (items.map fun item => (clampItemMaxRows item maxRows).1),
      items.any fun item => (clampItemMaxRows item maxRows).2)
  | .single command =>
    (.single (clampItemMaxRows command maxRows).1, (clampItemMaxRows command maxRows).2)

/-- The same for any ceiling, which is none when it is not finite. -/
def clampCommandMaxRows (command : BridgeCommand) (maxRows : Option ℚ) : BridgeCommand × Bool :=
  match maxRows with
  | none => (command, false)
  | some maxRows =>
    let safeMaxRows := if 0 < maxRows then (⌊maxRows⌋ : ℚ) else maxRows
    if safeMaxRows ≤ 0 then (command, false)
    else clampSingleCommandMaxRows command ⌊maxRows⌋.toNat

/-! ## Options -/

/-- Fields without one. -/
def without (fields : JsonFields) (name : String) : JsonFields :=
  fields.filter fun field => field.1 ≠ utf16 name

/-- The field is `true`. -/
def isTrue (fields : JsonFields) (name : String) : Bool :=
  match field fields name with
  | some (.bool true) => true
  | _ => false

/-- The options of one command; the source has this twice. -/
def normalizeItem (command : JsonFields) : JsonFields :=
  if hasMethod command "sql.execute" then
    match optionsOf command with
    | some (params, options) =>
      if isTrue options "preserve_sql" then
        withOptions command params
          (withField (without options "preserve_sql") "execution_mode" (.string (utf16 "preserve")))
      else command
    | none => command
  else command

/-- The options of a command. -/
def normalizeCommandForAgent : BridgeCommand → BridgeCommand
  | .batch items => .batch (items.map normalizeItem)
  | .single command => .single (normalizeItem command)

/-! ## Metadata -/

/-- The version a command has when it names none. -/
def hubDefaultApiVersion : Utf16 := utf16 "2.11.2"

/-- The version of a command. -/
def resolveOutboundApiVersion (command : JsonFields) : Utf16 :=
  (trimmed command "api_version").getD hubDefaultApiVersion

/-- The fields of metadata that agents know. -/
def outboundRpcMetaKeys : List String :=
  ["trace_id", "traceparent", "tracestate", "request_id", "agent_id", "timestamp"]

/-- A field of metadata is kept when it says something. -/
def keepMeta (source sanitized : JsonFields) (key : String) : JsonFields :=
  match trimmed source key with
  | some value => withField sanitized key (.string value)
  | none => sanitized

/-- The metadata of a caller that agents know. -/
def sanitizeOutboundRpcMeta (source : Option JsonFields) : JsonFields :=
  match source with
  | none => []
  | some source => outboundRpcMetaKeys.foldl (keepMeta source) []

/-- What the dispatch says about a command. -/
structure BridgeMeta where
  requestId : Utf16
  agentId : Utf16
  traceId : Utf16
  timestamp : Utf16

/-- The metadata of a command with what the dispatch says. -/
def bridgeMeta (source : Option JsonFields) (input : BridgeMeta) : JsonFields :=
  let existing := sanitizeOutboundRpcMeta source
  let requested := withField existing "request_id" (.string input.requestId)
  let addressed := withField requested "agent_id" (.string input.agentId)
  let dated := withField addressed "timestamp" (.string input.timestamp)
  withField dated "trace_id" (.string input.traceId)

/-- One command with what the dispatch says. -/
def withItemMeta (command : JsonFields) (input : BridgeMeta) : JsonFields :=
  withField
    (withField command "api_version" (.string (resolveOutboundApiVersion command))) "meta"
    (.object (bridgeMeta (record command "meta") input))

/-- `toRequestId`. -/
def toRequestId : Option JsonValue → Option Utf16
  | some (.string text) => if trimUnits text ≠ [] then some (trimUnits text) else none
  | some (.number number) => some number.text
  | _ => none

/-- What the dispatch of a batch says about an item: the item's own id is the id of its request. -/
def itemInput (item : JsonFields) (input : BridgeMeta) : BridgeMeta :=
  { input with requestId := (toRequestId (field item "id")).getD input.requestId }

/-- A command with what the dispatch says. -/
def withBridgeMeta (command : BridgeCommand) (input : BridgeMeta) : BridgeCommand :=
  match command with
  | .batch items => .batch (items.map fun item => withItemMeta item (itemInput item input))
  | .single command => .single (withItemMeta command input)

/-! ## What a transformer may do -/

/-- The commands of a command. -/
def BridgeCommand.items : BridgeCommand → List JsonFields
  | .single command => [command]
  | .batch items => items

/-- Each item of a batch becomes what it becomes alone. -/
def ItemByItem (alone : JsonFields → BridgeCommand) (items : List JsonFields)
    (result : BridgeCommand) : Prop :=
  ∃ results, result = .batch results ∧
    List.Forall₂ (fun item after => alone item = .single after) items results

/-- Two objects differ at most in the owned fields of an object inside, whatever stands around it
and in whatever order. -/
def OnlyUnder : List String → List String → JsonFields → JsonFields → Prop
  | [], owned, before, after =>
    before.filter (fun field => field.1 ∉ owned.map utf16) =
      after.filter fun field => field.1 ∉ owned.map utf16
  | name :: path, owned, before, after =>
    before = after ∨
      (before.map Prod.fst = after.map Prod.fst ∧ without before name = without after name ∧
        ∃ inner inner', record before name = some inner ∧ record after name = some inner' ∧
          OnlyUnder path owned inner inner')

/-- The rows a command asks for. -/
def rowsOf (command : JsonFields) : Option ℚ := (currentMaxRows command).map JsonNumber.value

/-- A command asks for no more rows than before, and for no more than the ceiling when its rows are
clamped and the ceiling leaves it a row. -/
def Lowers (maxRows : Option ℚ) (before after : JsonFields) : Prop :=
  ∀ rows, rowsOf after = some rows →
    (∃ asked, rowsOf before = some asked ∧ rows ≤ asked) ∧
      ∀ ceiling, maxRows = some ceiling → 1 ≤ ceiling → clampsRows before = true → rows ≤ ceiling

/-- Two commands are the same but for the order of the fields of their metadata. -/
def SameButMetaOrder (first second : JsonFields) : Prop :=
  first.map Prod.fst = second.map Prod.fst ∧ without first "meta" = without second "meta" ∧
    ∃ inner inner', record first "meta" = some inner ∧ record second "meta" = some inner' ∧
      ∀ name, getField inner name = getField inner' name

/-- What the clamp does. -/
structure Clamps (maxRows : Option ℚ) : Prop where
  /-- It works item by item. -/
  batched : ∀ items, ItemByItem (fun item => (clampCommandMaxRows (.single item) maxRows).1) items
    (clampCommandMaxRows (.batch items) maxRows).1
  /-- A second time it changes nothing and says so. -/
  idempotent : ∀ command, clampCommandMaxRows (clampCommandMaxRows command maxRows).1 maxRows =
    ((clampCommandMaxRows command maxRows).1, false)
  /-- It changes a maximum of rows only to lower it. -/
  lowers : ∀ command, List.Forall₂ (Lowers maxRows) command.items
    (clampCommandMaxRows command maxRows).1.items
  /-- It changes nothing but the maximum of rows. -/
  frame : ∀ command, List.Forall₂ (OnlyUnder ["params", "options"] ["max_rows"]) command.items
    (clampCommandMaxRows command maxRows).1.items

/-- What the normalization does. -/
structure Normalizes : Prop where
  batched : ∀ items, ItemByItem (fun item => normalizeCommandForAgent (.single item)) items
    (normalizeCommandForAgent (.batch items))
  idempotent : ∀ command, normalizeCommandForAgent (normalizeCommandForAgent command) =
    normalizeCommandForAgent command
  /-- It leaves the maxima of rows. -/
  rows : ∀ command, command.items.map rowsOf = (normalizeCommandForAgent command).items.map rowsOf
  /-- It changes nothing but the two options. -/
  frame : ∀ command, List.Forall₂
    (OnlyUnder ["params", "options"] ["preserve_sql", "execution_mode"]) command.items
    (normalizeCommandForAgent command).items

/-- What setting the metadata does. -/
structure SetsMeta (input : BridgeMeta) : Prop where
  /-- It works item by item, each item with its own id as the id of its request. -/
  batched : ∀ items, ItemByItem
    (fun item => withBridgeMeta (.single item) (itemInput item input)) items
    (withBridgeMeta (.batch items) input)
  /-- A second time it changes the order of fields of the metadata at most. -/
  idempotent : ∀ command, List.Forall₂ SameButMetaOrder (withBridgeMeta command input).items
    (withBridgeMeta (withBridgeMeta command input) input).items
  rows : ∀ command, command.items.map rowsOf = (withBridgeMeta command input).items.map rowsOf
  /-- It changes nothing but the version and the metadata. -/
  frame : ∀ command, List.Forall₂ (OnlyUnder [] ["api_version", "meta"]) command.items
    (withBridgeMeta command input).items

/-! ## Fields -/

theorem field_withField (fields : JsonFields) (name : String) (value : JsonValue) :
    field (withField fields name value) name = some value :=
  getField_setField fields (utf16 name) value

theorem field_withField_of_ne (fields : JsonFields) {name other : String} (value : JsonValue)
    (differs : utf16 other ≠ utf16 name) :
    field (withField fields name value) other = field fields other :=
  getField_setField_of_ne fields value differs

theorem record_withField (fields : JsonFields) (name : String) (inner : JsonFields) :
    record (withField fields name (.object inner)) name = some inner := by
  unfold record
  rw [field_withField]

theorem field_of_record {fields inner : JsonFields} {name : String}
    (found : record fields name = some inner) : field fields name = some (.object inner) := by
  unfold record at found
  split at found
  · next shape =>
    rw [shape, Option.some.inj found]
  · cases found

theorem records_of_optionsOf {command params options : JsonFields}
    (found : optionsOf command = some (params, options)) :
    record command "params" = some params ∧ record params "options" = some options := by
  unfold optionsOf at found
  cases outer : record command "params" with
  | none =>
    rw [outer] at found
    cases found
  | some params' =>
    cases inner : record params' "options" with
    | none =>
      rw [outer] at found
      simp [inner] at found
    | some options' =>
      rw [outer] at found
      simp only [Option.bind_eq_bind, Option.bind_some, inner, Option.pure_def, Option.some.injEq,
        Prod.mk.injEq] at found
      obtain ⟨rfl, rfl⟩ := found
      exact ⟨rfl, inner⟩

theorem optionsOf_withOptions (command params options : JsonFields) :
    optionsOf (withOptions command params options) =
      some (withField params "options" (.object options), options) := by
  unfold optionsOf withOptions
  rw [record_withField]
  simp [record_withField]

theorem onlyUnder_withOptions {command params options options' : JsonFields} {owned : List String}
    (found : optionsOf command = some (params, options))
    (kept : OnlyUnder [] owned options options') :
    OnlyUnder ["params", "options"] owned command (withOptions command params options') := by
  obtain ⟨outer, inner⟩ := records_of_optionsOf found
  have around : ∀ {fields : JsonFields} {name : String} {value : JsonValue} (value' : JsonValue),
      field fields name = some value →
        fields.map Prod.fst = (withField fields name value').map Prod.fst ∧
          without fields name = without (withField fields name value') name := by
    intro fields name value value' there
    constructor
    · exact (names_setField_of_present value' (present_of_getField there)).symm
    · exact (without_setField fields (utf16 name) value' (fun other => other ≠ utf16 name)
        (by simp)).symm
  have first := around (.object (withField params "options" (.object options')))
    (field_of_record outer)
  have second := around (.object options') (field_of_record inner)
  exact .inr ⟨first.1, first.2, params, _, outer, record_withField _ _ _,
    .inr ⟨second.1, second.2, options, options', inner, record_withField _ _ _, kept⟩⟩

theorem onlyUnder_refl (path owned : List String) (fields : JsonFields) :
    OnlyUnder path owned fields fields := by
  cases path with
  | nil => rfl
  | cons name path => exact .inl rfl

theorem forall₂_map {relation : JsonFields → JsonFields → Prop} {change : JsonFields → JsonFields}
    (holds : ∀ item, relation item (change item)) (items : List JsonFields) :
    List.Forall₂ relation items (items.map change) := by
  rw [List.forall₂_map_right_iff, List.forall₂_same]
  intro item _
  exact holds item

/-! ## Clamped rows -/

variable (command : JsonFields)

/-- A command is left as it is, or it asks for too many rows and its options take the ceiling. -/
theorem clampItem_cases (maxRows : Nat) :
    (clampItemMaxRows command maxRows = (command, false) ∧
        ∀ rows, rowsOf command = some rows → clampsRows command = true → rows ≤ maxRows) ∨
      ∃ params options current, clampsRows command = true ∧
        optionsOf command = some (params, options) ∧ rowsOf command = some current ∧
        (maxRows : ℚ) < current ∧
        clampItemMaxRows command maxRows = (withOptions command params
          (withField options "max_rows" (.number (.ofNat maxRows))), true) := by
  unfold clampItemMaxRows
  by_cases clamped : clampsRows command = true
  · rw [if_pos clamped]
    cases found : optionsOf command with
    | none =>
      refine .inl ⟨rfl, ?_⟩
      intro rows asked
      simp [rowsOf, currentMaxRows, found] at asked
    | some pair =>
      obtain ⟨params, options⟩ := pair
      cases asked : currentMaxRows command with
      | none =>
        refine .inl ⟨rfl, ?_⟩
        intro rows asks
        simp [rowsOf, asked] at asks
      | some current =>
        have rows : rowsOf command = some current.value := by rw [rowsOf, asked, Option.map_some]
        by_cases ended : (maxRows : ℚ) < current.value
        · exact .inr ⟨params, options, current.value, clamped, rfl, rows, ended, if_pos ended⟩
        · refine .inl ⟨if_neg ended, ?_⟩
          intro other asks _
          rw [rows] at asks
          rw [← Option.some.inj asks]
          exact not_lt.mp ended
  · refine .inl ⟨if_neg clamped, ?_⟩
    intro rows _ yes
    exact absurd yes clamped

theorem rowsOf_withOptions (command params options : JsonFields) (number : JsonNumber)
    (asks : field options "max_rows" = some (.number number)) :
    rowsOf (withOptions command params options) = some number.value := by
  unfold rowsOf currentMaxRows
  rw [optionsOf_withOptions]
  simp only [asks, Option.map_some]

theorem clampItem_lowers (maxRows : Nat) :
    ∀ rows, rowsOf (clampItemMaxRows command maxRows).1 = some rows →
      (∃ asked, rowsOf command = some asked ∧ rows ≤ asked) ∧
        (clampsRows command = true → rows ≤ maxRows) := by
  intro rows asks
  obtain ⟨same, bounded⟩ | ⟨params, options, current, clamped, found, asked, ended, changed⟩ :=
    clampItem_cases command maxRows
  · rw [same] at asks
    exact ⟨⟨rows, asks, le_refl rows⟩, bounded rows asks⟩
  · rw [changed, rowsOf_withOptions _ _ _ _ (field_withField _ _ _),
      JsonNumber.value_ofNat] at asks
    rw [← Option.some.inj asks]
    exact ⟨⟨current, asked, ended.le⟩, fun _ => le_refl _⟩

theorem clampItem_clampItem (maxRows : Nat) :
    clampItemMaxRows (clampItemMaxRows command maxRows).1 maxRows =
      ((clampItemMaxRows command maxRows).1, false) := by
  obtain ⟨same, _⟩ | ⟨_, _, _, again, _, asked, ended, _⟩ :=
    clampItem_cases (clampItemMaxRows command maxRows).1 maxRows
  · exact same
  · have methods : clampsRows command = true := by
      obtain ⟨same, _⟩ | ⟨_, _, _, clamped, _⟩ := clampItem_cases command maxRows
      · rw [same] at again
        exact again
      · exact clamped
    have bounded := (clampItem_lowers command maxRows _ asked).2 methods
    exact absurd bounded (not_le.mpr ended)

theorem clampItem_frame (maxRows : Nat) :
    OnlyUnder ["params", "options"] ["max_rows"] command (clampItemMaxRows command maxRows).1 := by
  obtain ⟨same, _⟩ | ⟨params, options, _, _, found, _, _, changed⟩ :=
    clampItem_cases command maxRows
  · rw [same]
    exact onlyUnder_refl _ _ command
  · rw [changed]
    apply onlyUnder_withOptions found
    exact (without_setField options (utf16 "max_rows") _
      (fun name => name ∉ ["max_rows"].map utf16) (by simp)).symm

/-- A ceiling that is not a positive number of rows changes nothing, and another one is used
without its fraction. -/
theorem clampCommand_cases (maxRows : Option ℚ) :
    (∀ ceiling, maxRows = some ceiling → ¬1 ≤ ceiling) ∧
        (∀ command, clampCommandMaxRows command maxRows = (command, false)) ∨
      ∃ ceiling : ℚ, maxRows = some ceiling ∧ 1 ≤ ceiling ∧ ∀ command,
        clampCommandMaxRows command maxRows =
          clampSingleCommandMaxRows command ⌊ceiling⌋.toNat := by
  cases maxRows with
  | none =>
    refine .inl ⟨?_, fun _ => rfl⟩
    intro ceiling same
    cases same
  | some ceiling =>
    have floor : (0 : ℚ) < ⌊ceiling⌋ ↔ 1 ≤ ceiling := Int.cast_pos.trans Int.floor_pos
    by_cases enough : 1 ≤ ceiling
    · refine .inr ⟨ceiling, rfl, enough, ?_⟩
      intro command
      unfold clampCommandMaxRows
      have positive : 0 < ceiling := lt_of_lt_of_le one_pos enough
      simp only [if_pos positive, if_neg (not_le.mpr (floor.mpr enough))]
    · refine .inl ⟨?_, ?_⟩
      · intro other same
        rw [← Option.some.inj same]
        exact enough
      · intro command
        unfold clampCommandMaxRows
        by_cases positive : 0 < ceiling
        · have small : (⌊ceiling⌋ : ℚ) ≤ 0 := not_lt.mp fun more => enough (floor.mp more)
          simp only [if_pos positive, if_pos small]
        · simp only [if_neg positive, if_pos (not_lt.mp positive)]

theorem floor_toNat_le {ceiling : ℚ} (enough : 1 ≤ ceiling) :
    ((⌊ceiling⌋.toNat : Nat) : ℚ) ≤ ceiling := by
  have nonneg : 0 ≤ ⌊ceiling⌋ := Int.floor_nonneg.mpr (le_trans zero_le_one enough)
  calc
    ((⌊ceiling⌋.toNat : Nat) : ℚ) = (⌊ceiling⌋ : ℚ) := by
      rw [← Int.cast_natCast, Int.toNat_of_nonneg nonneg]
    _ ≤ ceiling := Int.floor_le ceiling

theorem clampSingle_items {relation : JsonFields → JsonFields → Prop} {maxRows : Nat}
    (holds : ∀ command, relation command (clampItemMaxRows command maxRows).1)
    (command : BridgeCommand) :
    List.Forall₂ relation command.items (clampSingleCommandMaxRows command maxRows).1.items := by
  cases command with
  | single command => exact .cons (holds command) .nil
  | batch items => exact forall₂_map holds items

/-- The clamp works item by item, once, and only on rows that are too many. -/
theorem clampsCommands (maxRows : Option ℚ) : Clamps maxRows := by
  obtain ⟨none, same⟩ | ⟨ceiling, some, enough, changed⟩ := clampCommand_cases maxRows
  · constructor
    · intro items
      refine ⟨items, by rw [same], ?_⟩
      rw [List.forall₂_same]
      intro item _
      exact congrArg Prod.fst (same (.single item))
    · intro command
      rw [same, same]
    · intro command
      rw [same, List.forall₂_same]
      intro item _ rows asks
      refine ⟨⟨rows, asks, le_refl rows⟩, ?_⟩
      intro ceiling given enough
      exact absurd enough (none ceiling given)
    · intro command
      rw [same, List.forall₂_same]
      intro item _
      exact onlyUnder_refl _ _ item
  · constructor
    · intro items
      refine ⟨_, by rw [changed]; rfl, ?_⟩
      apply forall₂_map
      intro item
      exact congrArg Prod.fst (changed (.single item))
    · intro command
      rw [changed, changed]
      cases command with
      | single command =>
        simp only [clampSingleCommandMaxRows, clampItem_clampItem]
      | batch items =>
        simp [clampSingleCommandMaxRows, clampItem_clampItem]
    · intro command
      rw [changed]
      apply clampSingle_items
      intro item rows asks
      have lower := clampItem_lowers item _ rows asks
      refine ⟨lower.1, ?_⟩
      intro other given _ clamped
      rw [Option.some.inj (given.symm.trans some)]
      exact le_trans (lower.2 clamped) (floor_toNat_le enough)
    · intro command
      rw [changed]
      exact clampSingle_items (fun item => clampItem_frame item _) command

/-! ## Normalized options -/

theorem normalizeItem_cases :
    normalizeItem command = command ∨
      ∃ params options, optionsOf command = some (params, options) ∧
        normalizeItem command = withOptions command params
          (withField (without options "preserve_sql") "execution_mode"
            (.string (utf16 "preserve"))) := by
  unfold normalizeItem
  by_cases executes : hasMethod command "sql.execute" = true
  · rw [if_pos executes]
    cases found : optionsOf command with
    | none => exact .inl rfl
    | some pair =>
      obtain ⟨params, options⟩ := pair
      by_cases preserves : isTrue options "preserve_sql" = true
      · exact .inr ⟨params, options, rfl, if_pos preserves⟩
      · exact .inl (if_neg preserves)
  · exact .inl (if_neg executes)

theorem field_normalized (options : JsonFields) {name : String} (value : JsonValue)
    (old : utf16 name ≠ utf16 "preserve_sql") (new : utf16 name ≠ utf16 "execution_mode") :
    field (withField (without options "preserve_sql") "execution_mode" value) name =
      field options name := by
  rw [field_withField_of_ne _ _ new]
  exact getField_without options old

theorem rowsOf_normalizeItem :
    rowsOf (normalizeItem command) = rowsOf command := by
  obtain same | ⟨params, options, found, changed⟩ := normalizeItem_cases command
  · rw [same]
  · rw [changed]
    unfold rowsOf currentMaxRows
    rw [optionsOf_withOptions, found]
    simp only [@field_normalized options "max_rows" _ (by decide) (by decide)]

theorem normalizeItem_normalizeItem :
    normalizeItem (normalizeItem command) = normalizeItem command := by
  obtain same | ⟨params, options, found, changed⟩ := normalizeItem_cases command
  · rw [same, same]
  · have gone : isTrue (withField (without options "preserve_sql") "execution_mode"
        (.string (utf16 "preserve"))) "preserve_sql" = false := by
      unfold isTrue
      rw [field_withField_of_ne _ _ (by decide)]
      unfold field without
      rw [getField_without_self]
    rw [changed]
    conv_lhs => unfold normalizeItem
    rw [optionsOf_withOptions]
    simp only [gone, Bool.false_eq_true, if_false, ite_self]

theorem normalizeItem_frame :
    OnlyUnder ["params", "options"] ["preserve_sql", "execution_mode"] command
      (normalizeItem command) := by
  obtain same | ⟨params, options, found, changed⟩ := normalizeItem_cases command
  · rw [same]
    exact onlyUnder_refl _ _ command
  · rw [changed]
    apply onlyUnder_withOptions found
    change options.filter _ = List.filter _ _
    rw [show (withField (without options "preserve_sql") "execution_mode"
        (.string (utf16 "preserve"))).filter (fun field =>
          field.1 ∉ ["preserve_sql", "execution_mode"].map utf16) =
        (without options "preserve_sql").filter fun field =>
          field.1 ∉ ["preserve_sql", "execution_mode"].map utf16 from
      without_setField _ (utf16 "execution_mode") _
        (fun name => name ∉ ["preserve_sql", "execution_mode"].map utf16) (by simp)]
    unfold without
    rw [List.filter_filter]
    apply List.filter_congr
    intro field _
    by_cases old : field.1 = utf16 "preserve_sql"
    · simp [old]
    · simp [old]

theorem normalizesCommands : Normalizes := by
  constructor
  · intro items
    refine ⟨_, rfl, forall₂_map ?_ items⟩
    intro item
    rfl
  · intro command
    cases command with
    | single command => exact congrArg BridgeCommand.single (normalizeItem_normalizeItem command)
    | batch items =>
      simp only [normalizeCommandForAgent, List.map_map]
      congr 1
      apply List.map_congr_left
      intro item _
      exact normalizeItem_normalizeItem item
  · intro command
    cases command with
    | single command => simp [normalizeCommandForAgent, BridgeCommand.items, rowsOf_normalizeItem]
    | batch items =>
      simp only [normalizeCommandForAgent, BridgeCommand.items, List.map_map]
      apply List.map_congr_left
      intro item _
      exact (rowsOf_normalizeItem item).symm
  · intro command
    cases command with
    | single command => exact .cons (normalizeItem_frame command) .nil
    | batch items => exact forall₂_map normalizeItem_frame items

/-! ## Metadata of the hub -/

theorem trimmed_of_trimmed {fields other : JsonFields} {name : String} {text : Utf16}
    (kept : trimmed fields name = some text) (same : field other name = some (.string text)) :
    trimmed other name = some text := by
  unfold trimmed at kept ⊢
  rw [same]
  split at kept
  · next source _ =>
    split at kept
    · next nonempty =>
      have shape := Option.some.inj kept
      rw [← shape, trimUnits_trimUnits, if_pos nonempty]
    · cases kept
  · cases kept

theorem keepMeta_other (source : JsonFields) (keys : List String) (kept : JsonFields)
    {name : Utf16} (unknown : name ∉ keys.map utf16) :
    getField (keys.foldl (keepMeta source) kept) name = getField kept name := by
  induction keys generalizing kept with
  | nil => rfl
  | cons key keys ih =>
    rw [List.map_cons, List.mem_cons, not_or] at unknown
    rw [List.foldl_cons, ih _ unknown.2]
    unfold keepMeta
    split
    · exact getField_setField_of_ne _ _ unknown.1
    · rfl

theorem keepMeta_key (source : JsonFields) {keys : List String}
    (distinct : (keys.map utf16).Nodup) (kept : JsonFields) {key : String} (known : key ∈ keys) :
    field (keys.foldl (keepMeta source) kept) key =
      (trimmed source key).elim (field kept key) (fun text => some (.string text)) := by
  induction keys generalizing kept with
  | nil => cases known
  | cons first keys ih =>
    rw [List.map_cons, List.nodup_cons] at distinct
    rw [List.foldl_cons]
    cases known with
    | head =>
      have later := keepMeta_other source keys (keepMeta source kept key) distinct.1
      unfold field at *
      rw [later]
      unfold keepMeta
      cases trimmed source key with
      | none => rfl
      | some text => exact field_withField kept key (.string text)
    | tail _ later =>
      have differs : utf16 key ≠ utf16 first := by
        intro same
        apply distinct.1
        rw [← same]
        exact List.mem_map_of_mem later
      have before : field (keepMeta source kept first) key = field kept key := by
        unfold keepMeta
        split
        · exact field_withField_of_ne kept _ differs
        · rfl
      rw [ih distinct.2 _ later, before]

/-- The fields that the dispatch sets. -/
def dispatchKeys : List String := ["request_id", "agent_id", "timestamp", "trace_id"]

theorem getField_bridgeMeta (source : Option JsonFields) (input : BridgeMeta) {name : Utf16}
    (foreign : name ∉ dispatchKeys.map utf16) :
    getField (bridgeMeta source input) name =
      getField (sanitizeOutboundRpcMeta source) name := by
  simp only [dispatchKeys, List.map_cons, List.map_nil, List.mem_cons, List.not_mem_nil, or_false,
    not_or] at foreign
  unfold bridgeMeta withField
  simp only
  rw [getField_setField_of_ne _ _ foreign.2.2.2, getField_setField_of_ne _ _ foreign.2.2.1,
    getField_setField_of_ne _ _ foreign.2.1, getField_setField_of_ne _ _ foreign.1]

theorem field_bridgeMeta (source : Option JsonFields) (input : BridgeMeta) :
    field (bridgeMeta source input) "request_id" = some (.string input.requestId) ∧
      field (bridgeMeta source input) "agent_id" = some (.string input.agentId) ∧
        field (bridgeMeta source input) "timestamp" = some (.string input.timestamp) ∧
          field (bridgeMeta source input) "trace_id" = some (.string input.traceId) := by
  unfold bridgeMeta
  refine ⟨?_, ?_, ?_, field_withField _ _ _⟩
  · rw [field_withField_of_ne _ _ (by decide), field_withField_of_ne _ _ (by decide),
      field_withField_of_ne _ _ (by decide), field_withField]
  · rw [field_withField_of_ne _ _ (by decide), field_withField_of_ne _ _ (by decide),
      field_withField]
  · rw [field_withField_of_ne _ _ (by decide), field_withField]

theorem dispatched_eq (source other : Option JsonFields) (input : BridgeMeta) {key : String}
    (set : key ∈ dispatchKeys) :
    field (bridgeMeta source input) key = field (bridgeMeta other input) key := by
  obtain ⟨requested, addressed, dated, traced⟩ := field_bridgeMeta source input
  obtain ⟨requested', addressed', dated', traced'⟩ := field_bridgeMeta other input
  simp only [dispatchKeys, List.mem_cons, List.not_mem_nil, or_false] at set
  obtain rfl | rfl | rfl | rfl := set
  · exact requested.trans requested'.symm
  · exact addressed.trans addressed'.symm
  · exact dated.trans dated'.symm
  · exact traced.trans traced'.symm

theorem bridgeMeta_bridgeMeta (source : Option JsonFields) (input : BridgeMeta) (name : Utf16) :
    getField (bridgeMeta (some (bridgeMeta source input)) input) name =
      getField (bridgeMeta source input) name := by
  by_cases set : name ∈ dispatchKeys.map utf16
  · obtain ⟨key, known, rfl⟩ := List.mem_map.mp set
    exact dispatched_eq _ _ input known
  · rw [getField_bridgeMeta _ _ set, getField_bridgeMeta _ _ set]
    change getField (outboundRpcMetaKeys.foldl (keepMeta (bridgeMeta source input)) []) name = _
    by_cases known : name ∈ outboundRpcMetaKeys.map utf16
    · obtain ⟨key, member, rfl⟩ := List.mem_map.mp known
      have again := @keepMeta_key (bridgeMeta source input) outboundRpcMetaKeys
        (by decide) [] _ member
      have passed : field (bridgeMeta source input) key =
          field (sanitizeOutboundRpcMeta source) key := getField_bridgeMeta source input set
      refine again.trans ?_
      cases source with
      | none =>
        have nothing : trimmed (bridgeMeta none input) key = none := by
          unfold trimmed
          rw [passed]
          rfl
        rw [nothing]
        rfl
      | some source =>
        have first := @keepMeta_key source outboundRpcMetaKeys (by decide) [] _ member
        change _ = field (outboundRpcMetaKeys.foldl (keepMeta source) []) key
        change _ = field (outboundRpcMetaKeys.foldl (keepMeta source) []) key at passed
        rw [first] at passed ⊢
        cases kept : trimmed source key with
        | none =>
          rw [kept] at passed
          have nothing : trimmed (bridgeMeta (some source) input) key = none := by
            unfold trimmed
            rw [passed]
            rfl
          rw [nothing]
        | some text =>
          rw [kept] at passed
          rw [trimmed_of_trimmed kept passed]
    · rw [keepMeta_other _ _ _ known]
      cases source with
      | none => rfl
      | some source => exact (keepMeta_other source _ _ known).symm

theorem resolve_resolve {command other : JsonFields}
    (same : field other "api_version" = some (.string (resolveOutboundApiVersion command))) :
    resolveOutboundApiVersion other = resolveOutboundApiVersion command := by
  cases kept : trimmed command "api_version" with
  | none =>
    have default : resolveOutboundApiVersion command = hubDefaultApiVersion := by
      unfold resolveOutboundApiVersion
      rw [kept]
      rfl
    rw [default] at same ⊢
    unfold resolveOutboundApiVersion trimmed
    rw [same]
    decide
  | some text =>
    have version : resolveOutboundApiVersion command = text := by
      unfold resolveOutboundApiVersion
      rw [kept]
      rfl
    rw [version] at same ⊢
    unfold resolveOutboundApiVersion
    rw [trimmed_of_trimmed kept same]
    rfl

theorem withItemMeta_withItemMeta (input : BridgeMeta) :
    SameButMetaOrder (withItemMeta command input) (withItemMeta (withItemMeta command input) input)
    := by
  have versioned : field (withItemMeta command input) "api_version" =
      some (.string (resolveOutboundApiVersion command)) := by
    unfold withItemMeta
    rw [field_withField_of_ne _ _ (by decide), field_withField]
  have found : record (withItemMeta command input) "meta" =
      some (bridgeMeta (record command "meta") input) := record_withField _ _ _
  have there : utf16 "api_version" ∈ (withField command "api_version"
      (.string (resolveOutboundApiVersion command))).map Prod.fst :=
    present_of_getField (field_withField command "api_version" _)
  have again : withItemMeta (withItemMeta command input) input =
      withField (withField command "api_version" (.string (resolveOutboundApiVersion command)))
        "meta" (.object (bridgeMeta (some (bridgeMeta (record command "meta") input)) input)) := by
    have unfolded : ∀ item, withItemMeta item input =
        withField (withField item "api_version" (.string (resolveOutboundApiVersion item))) "meta"
          (.object (bridgeMeta (record item "meta") input)) := fun _ => rfl
    rw [unfolded (withItemMeta command input), resolve_resolve versioned, found]
    unfold withItemMeta withField at there ⊢
    rw [setField_comm (by decide) there, setField_setField, setField_setField]
  rw [again]
  refine ⟨names_setField _ _ _ _, ?_, _, _, found, record_withField _ _ _, ?_⟩
  · have apart : ∀ value, without (withField (withField command "api_version"
        (.string (resolveOutboundApiVersion command))) "meta" value) "meta" = _ :=
      fun value => without_setField _ (utf16 "meta") value (fun name => name ≠ utf16 "meta")
        (by simp)
    exact (apart _).trans (apart _).symm
  · intro name
    exact (bridgeMeta_bridgeMeta _ input name).symm

theorem rowsOf_withItemMeta (input : BridgeMeta) :
    rowsOf (withItemMeta command input) = rowsOf command := by
  have params : record (withItemMeta command input) "params" = record command "params" := by
    unfold record withItemMeta
    rw [field_withField_of_ne _ _ (by decide), field_withField_of_ne _ _ (by decide)]
  unfold rowsOf currentMaxRows optionsOf
  rw [params]

theorem withItemMeta_frame (input : BridgeMeta) :
    OnlyUnder [] ["api_version", "meta"] command (withItemMeta command input) := by
  let keep : Utf16 → Bool := fun name => name ∉ ["api_version", "meta"].map utf16
  have second := without_setField (withField command "api_version"
    (.string (resolveOutboundApiVersion command))) (utf16 "meta")
    (.object (bridgeMeta (record command "meta") input)) keep (by decide)
  have first := without_setField command (utf16 "api_version")
    (.string (resolveOutboundApiVersion command)) keep (by decide)
  exact (second.trans first).symm

theorem itemInput_withItemMeta (item : JsonFields) (input other : BridgeMeta) :
    itemInput (withItemMeta item other) input = itemInput item input := by
  have same : field (withItemMeta item other) "id" = field item "id" := by
    unfold withItemMeta
    rw [field_withField_of_ne _ _ (by decide), field_withField_of_ne _ _ (by decide)]
  unfold itemInput
  rw [same]

theorem setsCommandMeta (input : BridgeMeta) : SetsMeta input := by
  constructor
  · intro items
    refine ⟨_, rfl, forall₂_map ?_ items⟩
    intro item
    rfl
  · intro command
    cases command with
    | single command => exact .cons (withItemMeta_withItemMeta command input) .nil
    | batch items =>
      simp only [withBridgeMeta, BridgeCommand.items, List.map_map]
      rw [List.forall₂_map_left_iff, List.forall₂_map_right_iff, List.forall₂_same]
      intro item _
      rw [Function.comp_apply, itemInput_withItemMeta]
      exact withItemMeta_withItemMeta item _
  · intro command
    cases command with
    | single command => simp [withBridgeMeta, BridgeCommand.items, rowsOf_withItemMeta]
    | batch items =>
      simp only [withBridgeMeta, BridgeCommand.items, List.map_map]
      apply List.map_congr_left
      intro item _
      exact (rowsOf_withItemMeta item _).symm
  · intro command
    cases command with
    | single command => exact .cons (withItemMeta_frame command input) .nil
    | batch items => exact forall₂_map (fun item => withItemMeta_frame item _) items

/-! ## The three together -/

/-- Each of the three works item by item and once, asks for no more rows, and changes nothing but
what it is there for. -/
theorem transformers_lawful (maxRows : Option ℚ) (input : BridgeMeta) :
    Clamps maxRows ∧ Normalizes ∧ SetsMeta input :=
  ⟨clampsCommands maxRows, normalizesCommands, setsCommandMeta input⟩

/-- A command with an id. -/
def identified : JsonFields :=
  [(utf16 "jsonrpc", .string (utf16 "2.0")), (utf16 "method", .string (utf16 "rpc.discover")),
    (utf16 "id", .string (utf16 "i1"))]

/-- What the dispatch of a batch says. -/
def dispatched : BridgeMeta where
  requestId := utf16 "r"
  agentId := utf16 "a"
  traceId := utf16 "t"
  timestamp := utf16 "2026-01-01T00:00:00.000Z"

/-- Options in the old spelling. -/
def oldOptions : JsonFields := [(utf16 "preserve_sql", .bool true)]

/-- Parameters with such options. -/
def oldParams : JsonFields :=
  [(utf16 "sql", .string (utf16 "select 1")), (utf16 "options", .object oldOptions)]

/-- A command with such parameters. -/
def preserving : JsonFields :=
  [(utf16 "jsonrpc", .string (utf16 "2.0")), (utf16 "method", .string (utf16 "sql.execute")),
    (utf16 "params", .object oldParams)]

/-- An item of a batch has its own id as the id of its request, not the one that a single command
gets, and an option is spelled anew that is neither rows nor metadata. -/
theorem item_id_is_its_own_and_option_is_rewritten :
    ¬ItemByItem (fun item => withBridgeMeta (.single item) dispatched) [identified]
        (withBridgeMeta (.batch [identified]) dispatched) ∧
      ¬OnlyUnder ["params", "options"] ["max_rows"] preserving (normalizeItem preserving) := by
  constructor
  · rintro ⟨results, same, each⟩
    have shape := BridgeCommand.batch.inj same
    rw [← shape, List.map_cons, List.forall₂_cons] at each
    have alone := BridgeCommand.single.inj each.1
    have requests := congrArg (fun command => (record command "meta").map fun inner =>
      field inner "request_id") alone
    simp only [withItemMeta, record_withField, Option.map_some, (field_bridgeMeta _ _).1,
      Option.some.injEq, JsonValue.string.injEq] at requests
    revert requests
    decide
  · rintro (same | ⟨_, _, params, params', outer, outer', inside⟩)
    · have executions := congrArg (fun command => (optionsOf command).map fun pair =>
        pair.2.map Prod.fst) same
      revert executions
      decide
    · obtain rfl : oldParams = params := Option.some.inj outer
      obtain rfl : _ = params' := Option.some.inj outer'
      obtain same | ⟨_, _, options, options', inner, inner', kept⟩ := inside
      · have names := congrArg (fun params => (record params "options").map fun options =>
          options.map Prod.fst) same
        revert names
        decide
      · obtain rfl : oldOptions = options := Option.some.inj inner
        obtain rfl : _ = options' := Option.some.inj inner'
        have names := congrArg (List.map Prod.fst) kept
        revert names
        decide

end PlugHub.CommandTransformers
