import PlugHub.Bridge.CommandTransformers

/-!
# Correlation ids

The validation of a command looks at the ids of its items as they are written: an id is a number or
a text that is not empty, two ids of a batch differ in their type or in their text. A response is
correlated by the id without the blanks at its ends, a number by its decimals, and an item whose id
is blank is not correlated at all, like a notification.
-/

namespace PlugHub.CorrelationIds

open Library
open CommandTransformers (BridgeCommand field toRequestId withField)

/-! ## Validation -/

/-- What the schema of a method says of the id. -/
inductive IdSchema where
  /-- `jsonRpcIdSchema.optional()`. -/
  | jsonRpc
  /-- That of `operationEnvelope`. -/
  | operation
  /-- That of `actionIoEnvelope`. -/
  | actionIo

/-- The methods whose schemas extend `actionIoEnvelope`. -/
def actionIoMethods : List String :=
  ["agent.action.sendInput", "agent.action.closeInput", "agent.action.getInputStatus",
    "agent.action.readIo", "agent.action.listAvailable", "agent.action.findExecution"]

/-- The methods whose schemas extend `operationEnvelope`. -/
def operationMethods : List String :=
  ["sql.describeSchema", "sql.describeSource", "sql.operation.execute", "sql.operation.get",
    "sql.operation.cancel"]

/-- The schema of an item. -/
def idSchema (item : JsonFields) : IdSchema :=
  if actionIoMethods.any (CommandTransformers.hasMethod item) then .actionIo
  else if operationMethods.any (CommandTransformers.hasMethod item) then .operation
  else .jsonRpc

/-- An id that is accepted, as the schema hands it on; `nonEmptyStringSchema` trims what is not
empty. -/
def parseId : IdSchema → Option JsonValue → Option (Option JsonValue)
  | .actionIo, none => none
  | _, none => some none
  | .jsonRpc, some .null => some (some .null)
  | _, some (.number id) => some (some (.number id))
  | .jsonRpc, some (.string id) => if id = [] then none else some (some (.string id))
  | _, some (.string id) => if id = [] then none else some (some (.string (trimUnits id)))
  | _, _ => none

/-- An item, as far as its id is concerned. -/
def parseItem (item : JsonFields) : Option JsonFields :=
  (parseId (idSchema item) (field item "id")).map fun id =>
    id.elim item (withField item "id")

/-- The type of an id and its text. -/
def normalizedId (item : JsonFields) : Option (String × Utf16) :=
  match field item "id" with
  | some (.string id) => some ("string", id)
  | some (.number id) => some ("number", id.text)
  | _ => none

/-- `AGENT_MAX_BATCH_SIZE_LIMIT`. -/
def agentMaxBatchSizeLimit : Nat := 32

/-- The ids of a batch are unique. -/
def UniqueIds (items : List JsonFields) : Prop :=
  ∀ (first second : Nat) (one other : JsonFields), first < second → items[first]? = some one →
    items[second]? = some other → normalizedId one = none ∨ normalizedId one ≠ normalizedId other

/-- `bridgeCommandSchema` hands a command on as this one, as far as ids are concerned. -/
inductive Parsed : BridgeCommand → BridgeCommand → Prop where
  | single {command parsed : JsonFields} (item : parseItem command = some parsed) :
    Parsed (.single command) (.single parsed)
  | batch {items parsed : List JsonFields} (each : items.map parseItem = parsed.map some)
    (nonempty : 0 < items.length) (limit : items.length ≤ agentMaxBatchSizeLimit)
    (unique : UniqueIds parsed) : Parsed (.batch items) (.batch parsed)

/-! ## Correlation -/

/-- An item with an id. -/
def ensureItem (assignedId : Utf16) (item : JsonFields) : JsonFields :=
  match field item "id" with
  | some _ => item
  | none => withField item "id" (.string assignedId)

/-- `ensureJsonRpcIdsForBridge`, with the ids that are drawn. -/
def ensureJsonRpcIdsForBridge (randomUUID : Nat → Utf16) : BridgeCommand → BridgeCommand
  | .batch items => .batch (items.mapIdx fun index item => ensureItem (randomUUID index) item)
  | .single command => .single (ensureItem (randomUUID 0) command)

/-- `toCorrelationIds`. -/
def toCorrelationIds : BridgeCommand → List Utf16
  | .batch items => items.filterMap fun item => toRequestId (field item "id")
  | .single command => (toRequestId (field command "id")).toList

/-- The items of a command. -/
def itemsOf : BridgeCommand → List JsonFields
  | .batch items => items
  | .single command => [command]

/-- What is promised: exactly the items whose id is not null have a correlation id, no two have the
same, and only a command whose ids are null has none. -/
structure Faithful (command : BridgeCommand) : Prop where
  /-- An item has a correlation id exactly when its id is not null. -/
  entries : ∀ item ∈ itemsOf command,
    (toRequestId (field item "id")).isSome = true ↔ field item "id" ≠ some .null
  distinct : (toCorrelationIds command).Nodup
  /-- Only a command whose ids are null has none. -/
  notification : toCorrelationIds command = [] →
    ∀ item ∈ itemsOf command, field item "id" = some .null

/-- The text of an id without the blanks at its ends. -/
def idText (item : JsonFields) : Option Utf16 :=
  match field item "id" with
  | some (.string id) => some (trimUnits id)
  | some (.number id) => some id.text
  | _ => none

/-- No id is blank, and ids that differ do so in more than their type and the blanks at their
ends. -/
structure Legible (items : List JsonFields) : Prop where
  written : ∀ item ∈ items, idText item ≠ some []
  apart : ∀ (first second : Nat) (one other : JsonFields), first < second →
    items[first]? = some one → items[second]? = some other →
      normalizedId one ≠ normalizedId other → idText one = none ∨ idText one ≠ idText other

/-- The ids that are drawn are new, and have no blanks at their ends. -/
structure Drawn (randomUUID : Nat → Utf16) (items : List JsonFields) : Prop where
  plain : ∀ index < items.length,
    trimUnits (randomUUID index) = randomUUID index ∧ randomUUID index ≠ []
  distinct : ∀ first < items.length, ∀ second < first, randomUUID second ≠ randomUUID first
  new : ∀ index < items.length, ∀ item ∈ items, idText item ≠ some (randomUUID index)

section Ids

theorem field_ensureItem (assignedId : Utf16) (item : JsonFields) :
    field (ensureItem assignedId item) "id" =
      some ((field item "id").getD (.string assignedId)) := by
  unfold ensureItem
  cases present : field item "id" with
  | some id => exact present
  | none => exact getField_setField item (utf16 "id") _

variable {item : JsonFields}

theorem idText_number_ne {id : JsonNumber}
    (present : field item "id" = some (.number id)) : idText item ≠ some [] := by
  rw [idText, present]
  intro refuted
  exact id.written (Option.some.inj refuted)

theorem toRequestId_eq_idText (written : idText item ≠ some []) :
    toRequestId (field item "id") = idText item := by
  unfold idText at written ⊢
  generalize field item "id" = id at written ⊢
  cases id with
  | none => rfl
  | some id =>
    cases id with
    | string text =>
      have notBlank : trimUnits text ≠ [] := fun blank => written (congrArg some blank)
      exact if_pos notBlank
    | number number => rfl
    | null => rfl
    | bool value => rfl
    | nonFinite => rfl
    | array items => rfl
    | object fields => rfl

theorem idText_of_normalizedId (nothing : normalizedId item = none) : idText item = none := by
  unfold normalizedId at nothing
  unfold idText
  split at nothing
  · cases nothing
  · cases nothing
  · rfl

/-- The id of an item that is accepted is none, null, a text or a number. -/
theorem id_of_parseItem {parsed : JsonFields} (accepted : parseItem item = some parsed) :
    field parsed "id" = none ∨ field parsed "id" = some .null ∨
      (∃ text, field parsed "id" = some (.string text)) ∨
      ∃ number, field parsed "id" = some (.number number) := by
  have kept (id : JsonValue) : field (withField item "id" id) "id" = some id :=
    getField_setField item (utf16 "id") id
  unfold parseItem at accepted
  generalize idSchema item = schema at accepted
  cases present : field item "id" with
  | none =>
    have same : item = parsed := by
      cases schema with
      | actionIo =>
        rw [present] at accepted
        cases accepted
      | operation =>
        rw [present] at accepted
        exact Option.some.inj accepted
      | jsonRpc =>
        rw [present] at accepted
        exact Option.some.inj accepted
    left
    rw [← same, present]
  | some id =>
    rw [present] at accepted
    cases id with
    | null =>
      cases schema with
      | jsonRpc =>
        cases accepted
        exact .inr (.inl (kept _))
      | operation => cases accepted
      | actionIo => cases accepted
    | number number =>
      cases schema
      all_goals
        cases accepted
        exact .inr (.inr (.inr ⟨number, kept _⟩))
    | string text =>
      cases schema
      all_goals
        simp only [parseId] at accepted
        split_ifs at accepted
        · cases accepted
        · cases accepted
          exact .inr (.inr (.inl ⟨_, kept _⟩))
    | bool value => cases schema <;> cases accepted
    | nonFinite => cases schema <;> cases accepted
    | array items => cases schema <;> cases accepted
    | object fields => cases schema <;> cases accepted

theorem toRequestId_ensureItem {assignedId : Utf16}
    (plain : trimUnits assignedId = assignedId ∧ assignedId ≠ []) :
    toRequestId (field (ensureItem assignedId item) "id") =
      if field item "id" = none then some assignedId else toRequestId (field item "id") := by
  rw [field_ensureItem]
  cases field item "id" with
  | none =>
    rw [if_pos rfl, Option.getD_none, toRequestId, plain.1, if_pos plain.2]
  | some id => rw [if_neg (fun refuted => by cases refuted), Option.getD_some]

end Ids

section Lists

theorem nodup_filterMap_iff {α β : Type} (f : α → Option β) (list : List α) :
    (list.filterMap f).Nodup ↔ ∀ (first second : Nat) (one other : α), first < second →
      list[first]? = some one → list[second]? = some other → f one = none ∨ f one ≠ f other := by
  rw [List.Nodup, List.pairwise_filterMap, List.pairwise_iff_getElem]
  constructor
  · intro pairwise first second one other before here there
    obtain ⟨inside, rfl⟩ := List.getElem?_eq_some_iff.mp here
    obtain ⟨inside', rfl⟩ := List.getElem?_eq_some_iff.mp there
    cases value : f list[first] with
    | none => exact .inl rfl
    | some left =>
      right
      intro same
      exact pairwise first second inside inside' before left value left same.symm rfl
  · intro positions first second inside inside' before left value right value' same
    rcases positions first second _ _ before (List.getElem?_eq_getElem inside)
      (List.getElem?_eq_getElem inside') with nothing | differ
    · rw [value] at nothing
      cases nothing
    · exact differ (by rw [value, value', same])

theorem itemsOf_ensure (randomUUID : Nat → Utf16) (command : BridgeCommand) :
    itemsOf (ensureJsonRpcIdsForBridge randomUUID command) =
      (itemsOf command).mapIdx fun index item => ensureItem (randomUUID index) item := by
  cases command with
  | single command | batch items => rfl

theorem toCorrelationIds_eq (command : BridgeCommand) :
    toCorrelationIds command =
      (itemsOf command).filterMap fun item => toRequestId (field item "id") := by
  cases command with
  | single command =>
    rw [toCorrelationIds, itemsOf, List.filterMap_cons]
    cases toRequestId (field command "id") with
    | none => rfl
    | some id => rfl
  | batch items => rfl

theorem Parsed.items {command parsed : BridgeCommand} (accepted : Parsed command parsed) :
    UniqueIds (itemsOf parsed) ∧ ∀ item ∈ itemsOf parsed, ∃ raw, parseItem raw = some item := by
  cases accepted with
  | @single command parsed item =>
    constructor
    · intro first second one other before here there
      have inside := (List.getElem?_eq_some_iff.mp there).1
      rw [itemsOf, List.length_singleton] at inside
      omega
    · intro other member
      rw [List.mem_singleton.mp member]
      exact ⟨command, item⟩
  | @batch items parsed each nonempty limit unique =>
    refine ⟨unique, fun item member => ?_⟩
    have mapped : some item ∈ items.map parseItem := by
      rw [each]
      exact List.mem_map_of_mem member
    obtain ⟨raw, -, same⟩ := List.mem_map.mp mapped
    exact ⟨raw, same⟩

end Lists

/-- The correlation ids of an accepted command are faithful exactly when no id is blank and no two
differ by their type and the blanks at their ends alone. -/
theorem faithful_iff_legible {randomUUID : Nat → Utf16} {command parsed : BridgeCommand}
    (accepted : Parsed command parsed) (drawn : Drawn randomUUID (itemsOf parsed)) :
    Faithful (ensureJsonRpcIdsForBridge randomUUID parsed) ↔ Legible (itemsOf parsed) := by
  obtain ⟨unique, kinds⟩ := accepted.items
  have ensured := itemsOf_ensure randomUUID parsed
  have ids := toCorrelationIds_eq (ensureJsonRpcIdsForBridge randomUUID parsed)
  rw [ensured] at ids
  generalize itemsOf parsed = items at *
  have inside (index : Nat) (item : JsonFields) (here : items[index]? = some item) :
      index < items.length := (List.getElem?_eq_some_iff.mp here).1
  have correlation (index : Nat) (item : JsonFields) (here : items[index]? = some item)
      (written : idText item ≠ some []) :
      toRequestId (field (ensureItem (randomUUID index) item) "id") =
        if field item "id" = none then some (randomUUID index) else idText item := by
    rw [toRequestId_ensureItem (drawn.plain index (inside index item here)),
      toRequestId_eq_idText written]
  have positions (index : Nat) (item : JsonFields) (here : items[index]? = some item) :
      (items.mapIdx fun index item => ensureItem (randomUUID index) item)[index]? =
        some (ensureItem (randomUUID index) item) := by
    rw [List.getElem?_mapIdx, here, Option.map_some]
  have place (item : JsonFields) (member : item ∈ items.mapIdx fun index item =>
      ensureItem (randomUUID index) item) : ∃ (index : Nat) (before : JsonFields),
        items[index]? = some before ∧ item = ensureItem (randomUUID index) before := by
    obtain ⟨index, here⟩ := List.mem_iff_getElem?.mp member
    rw [List.getElem?_mapIdx, Option.map_eq_some_iff] at here
    obtain ⟨before, there, same⟩ := here
    exact ⟨index, before, there, same.symm⟩
  constructor
  · intro faithful
    have written : ∀ item ∈ items, idText item ≠ some [] := by
      intro item member blank
      obtain ⟨index, here⟩ := List.mem_iff_getElem?.mp member
      have entry := faithful.entries (ensureItem (randomUUID index) item) (by
        rw [ensured]
        exact List.mem_of_getElem? (positions index item here))
      cases present : field item "id" with
      | none =>
        rw [idText, present] at blank
        cases blank
      | some id =>
        rw [field_ensureItem, present, Option.getD_some] at entry
        cases id with
        | string text =>
          rw [idText, present] at blank
          have nothing : toRequestId (some (.string text)) = none :=
            if_neg (not_not.mpr (Option.some.inj blank))
          rw [nothing] at entry
          have there := entry.mpr (fun refuted => by cases refuted)
          cases there
        | number number => exact idText_number_ne present blank
        | null => rw [idText, present] at blank; cases blank
        | bool value => rw [idText, present] at blank; cases blank
        | nonFinite => rw [idText, present] at blank; cases blank
        | array items => rw [idText, present] at blank; cases blank
        | object fields => rw [idText, present] at blank; cases blank
    refine ⟨written, fun first second one other before here there _ => ?_⟩
    have distinct := faithful.distinct
    rw [ids, nodup_filterMap_iff] at distinct
    have differ := distinct first second _ _ before (positions first one here)
      (positions second other there)
    rw [correlation first one here (written one (List.mem_of_getElem? here)),
      correlation second other there (written other (List.mem_of_getElem? there))] at differ
    by_cases present : field one "id" = none
    · left
      rw [idText, present]
    · rw [if_neg present] at differ
      by_cases present' : field other "id" = none
      · by_cases nothing : idText one = none
        · exact .inl nothing
        · right
          have absent : idText other = none := by rw [idText, present']
          rwa [absent]
      · rwa [if_neg present'] at differ
  · intro legible
    have correlates (index : Nat) (item : JsonFields) (here : items[index]? = some item) :=
      correlation index item here (legible.written item (List.mem_of_getElem? here))
    have entries : ∀ item ∈ itemsOf (ensureJsonRpcIdsForBridge randomUUID parsed),
        (toRequestId (field item "id")).isSome = true ↔ field item "id" ≠ some .null := by
      intro item member
      rw [ensured] at member
      obtain ⟨index, before, here, rfl⟩ := place item member
      rw [correlates index before here, field_ensureItem]
      obtain ⟨raw, accepts⟩ := kinds before (List.mem_of_getElem? here)
      rcases id_of_parseItem accepts with present | present | ⟨text, present⟩ | ⟨number, present⟩
      all_goals rw [idText, present]
      · simp
      · simp
      · simp
      · simp
    refine ⟨entries, ?_, ?_⟩
    · rw [ids, nodup_filterMap_iff]
      intro first second one other before here there
      rw [List.getElem?_mapIdx, Option.map_eq_some_iff] at here there
      obtain ⟨raw, here, rfl⟩ := here
      obtain ⟨raw', there, rfl⟩ := there
      have member := List.mem_of_getElem? here
      have member' := List.mem_of_getElem? there
      rw [correlates first raw here, correlates second raw' there]
      by_cases present : field raw "id" = none
      · right
        rw [if_pos present]
        by_cases present' : field raw' "id" = none
        · rw [if_pos present']
          exact fun same => drawn.distinct second (inside second raw' there) first before
            (Option.some.inj same)
        · rw [if_neg present']
          exact fun same => drawn.new first (inside first raw here) raw' member' same.symm
      · rw [if_neg present]
        by_cases present' : field raw' "id" = none
        · rw [if_pos present']
          exact .inr fun same => drawn.new second (inside second raw' there) raw member same
        · rw [if_neg present']
          by_cases same : normalizedId raw = normalizedId raw'
          · left
            rcases unique first second raw raw' before here there with nothing | differ
            · exact idText_of_normalizedId nothing
            · exact absurd same differ
          · exact legible.apart first second raw raw' before here there same
    · intro nothing item member
      have absent : toRequestId (field item "id") = none := by
        rw [toCorrelationIds_eq, List.filterMap_eq_nil_iff] at nothing
        exact nothing item member
      have entry := entries item member
      rw [absent] at entry
      by_contra notNull
      exact absurd (entry.mpr notNull) (fun refuted => by cases refuted)

/-- An item for examples. -/
def discover (id : Option JsonValue) : JsonFields :=
  (utf16 "method", .string (utf16 "rpc.discover")) :: (id.map (utf16 "id", ·)).toList

/-- Ids for examples. -/
def drawnId (index : Nat) : Utf16 := utf16 "drawn" ++ decimalUnits index

theorem related_of_pairwise {Related : JsonFields → JsonFields → Prop} {items : List JsonFields}
    (pairwise : items.Pairwise Related) (first second : Nat) (one other : JsonFields)
    (before : first < second) (here : items[first]? = some one)
    (there : items[second]? = some other) : Related one other := by
  obtain ⟨inside, rfl⟩ := List.getElem?_eq_some_iff.mp here
  obtain ⟨inside', rfl⟩ := List.getElem?_eq_some_iff.mp there
  exact List.pairwise_iff_getElem.mp pairwise first second inside inside' before

/-- Items with a text, a number, no id and null for their ids. -/
def mixedItems : List JsonFields :=
  [discover (some (.string (utf16 "a"))), discover (some (.number (JsonNumber.ofNat 7))),
    discover none, discover (some .null)]

/-- They are correlated, the one without an id by the id that is drawn for it. -/
theorem mixed_ids_faithful :
    toCorrelationIds (ensureJsonRpcIdsForBridge drawnId (.batch mixedItems)) =
        [utf16 "a", utf16 "7", drawnId 2] ∧
      Faithful (ensureJsonRpcIdsForBridge drawnId (.batch mixedItems)) := by
  have accepted : Parsed (.batch mixedItems) (.batch mixedItems) :=
    .batch rfl (by decide) (by decide) (related_of_pairwise (by decide))
  have drawn : Drawn drawnId (itemsOf (.batch mixedItems)) := ⟨by decide, by decide, by decide⟩
  exact ⟨by decide, (faithful_iff_legible accepted drawn).mpr
    ⟨by decide, related_of_pairwise (by decide)⟩⟩

/-- A command with a blank id is accepted, and has no correlation id. -/
theorem blank_id_not_correlated :
    ¬ ∀ (randomUUID : Nat → Utf16) (command parsed : BridgeCommand), Parsed command parsed →
      Drawn randomUUID (itemsOf parsed) →
        Faithful (ensureJsonRpcIdsForBridge randomUUID parsed) := by
  intro every
  have faithful := every drawnId (.single (discover (some (.string (utf16 " "))))) _ (.single rfl)
    ⟨by decide, by decide, by decide⟩
  have null := faithful.notification rfl _ List.mem_cons_self
  cases null

end PlugHub.CorrelationIds
