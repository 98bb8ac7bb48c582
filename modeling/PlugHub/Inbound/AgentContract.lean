import PlugHub.Bridge.ActionIo
import PlugHub.Bridge.Inbound
import PlugHub.Frames.ColumnarChunks

/-!
# The contract of what agents send

The payload of a frame from an agent is checked before it is routed. The checks are chains of tests
of single fields, and in strict mode a payload that fails one of them is dropped. Here each chain is
compared with a grammar: which names a payload may have, and which values under them. The chain of
`rpc:response` leaves other names and the type of the id open, and an array counts as an object
wherever the source asks `isRecord`.
-/

namespace PlugHub.AgentContract

open Library ActionIo
open Bridge.Hub (hubMaxBatchSize)
open ColumnarChunks (JsonObject Carries stringOf inspectSqlStreamChunk)
open CommandTransformers (field)

/-! ## Checks -/

/-- A decoded payload; no two of its own fields have one name. -/
structure Payload where
  value : JsonValue
  distinct : ∀ fields, value = .object fields → (fields.map Prod.fst).Nodup

/-- Why a payload fails. -/
inductive Failure where
  | reject (message : Utf16)
  /-- `String` of a value throws. -/
  | typeError

/-- A check; it finds nothing or a failure. -/
abbrev Validation := Except Failure Unit

/-- `reject`, unless a test holds. -/
def rejectUnless (holds : Bool) (message : Utf16) : Validation :=
  if holds then .ok () else .error (.reject message)

/-- The own entries of a value that `isRecord`; those of an array are named by their places. -/
def entriesOf : JsonValue → Option JsonFields
  | .object fields => some fields
  | .array items => some (items.mapIdx fun place item => (decimalUnits place, item))
  | _ => none

/-- The entries of a value that `isRecord`, else a rejection. -/
def recordOr (value : JsonValue) (message : Utf16) : Except Failure JsonFields :=
  match entriesOf value with
  | some entries => .ok entries
  | none => .error (.reject message)

/-- `isRecord`. -/
def isRecord (value : JsonValue) : Bool := (entriesOf value).isSome

/-- `typeof value === "string"`. -/
def isText (value : JsonValue) : Bool := (asText (some value)).isSome

/-- A text that is not blank. -/
def isFilled (value : JsonValue) : Bool := (asText (some value)).any fun text => trimUnits text ≠ []

/-- `isStringOrNumber`. -/
def isStringOrNumber (value : JsonValue) : Bool := isText value || (asNumber (some value)).isSome

/-- `Number.isInteger`. -/
def isInteger (value : JsonValue) : Bool := (asNumber (some value)).any fun number => number.den = 1

/-- `isNonNegativeInteger`. -/
def isNonNegativeInteger (value : JsonValue) : Bool :=
  (asNumber (some value)).any fun number => number.den = 1 && 0 ≤ number

/-- `isPositiveInteger`. -/
def isPositiveInteger (value : JsonValue) : Bool :=
  (asNumber (some value)).any fun number => number.den = 1 && 0 < number

/-- A field that is required and tested. -/
def requireField (fields : JsonFields) (name : String) (test : JsonValue → Bool)
    (message : String) : Validation :=
  rejectUnless ((field fields name).any test) (utf16 message)

/-- A field that is tested where it is present. -/
def allowField (fields : JsonFields) (name : String) (test : JsonValue → Bool)
    (message : String) : Validation :=
  rejectUnless ((field fields name).all test) (utf16 message)

/-- A field that is checked where it is present. -/
def checkField (fields : JsonFields) (name : String) (check : JsonValue → Validation) :
    Validation :=
  match field fields name with
  | some value => check value
  | none => .ok ()

/-- `ensureOnlyKeys`; its message follows a label. -/
def ensureOnlyKeys (label : String) (fields : JsonFields) (allowed : List String) : Validation :=
  fields.forM fun entry =>
    rejectUnless (isOneOf entry.1 allowed) (utf16 (label ++ "unexpected property ") ++ entry.1)

/-! ## Responses -/

/-- `RPC_META_STRING_KEYS`. -/
def rpcMetaStringKeys : List String :=
  ["trace_id", "traceparent", "tracestate", "request_id", "agent_id", "timestamp"]

/-- `RPC_META_ALLOWED_KEYS`. -/
def rpcMetaAllowedKeys : List String :=
  rpcMetaStringKeys ++ ["health_snapshot", "healthSnapshot", "agent_phases", "agentPhases"]

/-- `validateHealthSnapshot`. -/
def validateHealthSnapshot (snapshot : JsonValue) (fieldName : Utf16) : Validation := do
  let fields ← recordOr snapshot (utf16 "meta." ++ fieldName ++ utf16 " must be an object")
  let capturedAt := (field fields "captured_at_ms").or (field fields "capturedAtMs")
  rejectUnless (capturedAt.all fun value => (asNumber (some value)).any (0 < ·))
    (utf16 "meta." ++ fieldName ++ utf16 ".captured_at_ms must be a positive finite number")

/-- `validateAgentPhases`. -/
def validateAgentPhases (phases : JsonValue) (fieldName : Utf16) : Validation := do
  let entries ← recordOr phases (utf16 "meta." ++ fieldName ++ utf16 " must be an object")
  entries.forM fun entry =>
    rejectUnless ((asNumber (some entry.2)).any (0 ≤ ·))
      (utf16 "meta." ++ fieldName ++ utf16 "." ++ entry.1 ++
        utf16 " must be a non-negative finite number")

/-- One entry of `meta`. -/
def validateMetaEntry (entry : Utf16 × JsonValue) : Validation :=
  if isOneOf entry.1 rpcMetaStringKeys then
    rejectUnless (isText entry.2) (utf16 "meta." ++ entry.1 ++ utf16 " must be a string")
  else if isOneOf entry.1 ["health_snapshot", "healthSnapshot"] then
    validateHealthSnapshot entry.2 entry.1
  else if isOneOf entry.1 ["agent_phases", "agentPhases"] then
    validateAgentPhases entry.2 entry.1
  else .ok ()

/-- `validateRpcMeta`. -/
def validateRpcMeta (data : JsonValue) : Validation := do
  let entries ← recordOr data (utf16 "meta must be an object")
  ensureOnlyKeys "meta." entries rpcMetaAllowedKeys
  entries.forM validateMetaEntry

/-- `validateRpcResponseError`, of a value that is checked to be an object first. -/
def validateRpcResponseError (error : JsonValue) : Validation := do
  let fields ← recordOr error (utf16 "rpc:response error must be an object")
  requireField fields "code" isInteger "rpc:response error.code must be an integer"
  requireField fields "message" isText "rpc:response error.message must be a string"
  allowField fields "data" isPlainObject "rpc:response error.data must be an object"
where
  /-- An object, and no array. -/
  isPlainObject : JsonValue → Bool
    | .object _ => true
    | _ => false

/-- `validateRpcResponseObject`. -/
def validateRpcResponseObject (payload : JsonValue) : Validation := do
  let fields ← recordOr payload (utf16 "rpc:response item must be an object")
  requireField fields "jsonrpc" (fun value => asText (some value) = some (utf16 "2.0"))
    "rpc:response jsonrpc must be 2.0"
  requireField fields "id" (fun _ => true) "rpc:response id is required"
  rejectUnless (hasOwn fields "result" != hasOwn fields "error")
    (utf16 "rpc:response must contain exactly one of result or error")
  allowField fields "result" isRecord "rpc:response result must be an object"
  checkField fields "error" validateRpcResponseError
  allowField fields "api_version" isText "rpc:response api_version must be a string"
  checkField fields "meta" validateRpcMeta

/-- `validateRpcResponse`. -/
def validateRpcResponse : JsonValue → Validation
  | .array items => do
    rejectUnless (items ≠ []) (utf16 "rpc:response batch must contain at least one item")
    rejectUnless (items.length ≤ hubMaxBatchSize) (utf16 "rpc:response batch cannot exceed 32")
    items.forM validateRpcResponseObject
  | payload => validateRpcResponseObject payload

/-! ## Streams and acknowledgements -/

/-- `validateRecordArray`, of a field that may be missing. -/
def validateRecordArray (value : Option JsonValue) (fieldName : String) : Validation :=
  match value with
  | some (.array items) =>
    items.forM fun item =>
      rejectUnless (isRecord item) (utf16 (fieldName ++ " items must be objects"))
  | _ => .error (.reject (utf16 (fieldName ++ " must be an array")))

/-- `RPC_CHUNK_ALLOWED_KEYS`. -/
def rpcChunkAllowedKeys : List String :=
  ["stream_id", "request_id", "chunk_index", "rows", "total_chunks", "column_metadata", "columnar"]

/-- The inspection of a chunk with columns; an array has none. -/
def inspectColumnar (payload : Payload) : Validation :=
  match shape : payload.value with
  | .object fields =>
    checkField fields "columnar" fun _ =>
      match inspectSqlStreamChunk ⟨fields, payload.distinct fields shape⟩ with
      | .ok _ => .ok ()
      | .error .typeError => .error .typeError
      | .error error => .error (.reject (utf16 error.message))
  | _ => .ok ()

/-- `validateRpcChunk`. -/
def validateRpcChunk (payload : Payload) : Validation := do
  let fields ← recordOr payload.value (utf16 "rpc:chunk payload must be an object")
  ensureOnlyKeys "" fields rpcChunkAllowedKeys
  requireField fields "stream_id" isFilled "rpc:chunk stream_id is required"
  requireField fields "request_id" isStringOrNumber
    "rpc:chunk request_id must be a string or number"
  requireField fields "chunk_index" isNonNegativeInteger
    "rpc:chunk chunk_index must be a non-negative integer"
  validateRecordArray (field fields "rows") "rpc:chunk rows"
  inspectColumnar payload
  allowField fields "total_chunks" isPositiveInteger
    "rpc:chunk total_chunks must be a positive integer"
  checkField fields "column_metadata" fun value =>
    validateRecordArray (some value) "rpc:chunk column_metadata"

/-- `RPC_COMPLETE_ALLOWED_KEYS`. -/
def rpcCompleteAllowedKeys : List String :=
  ["stream_id", "request_id", "total_rows", "affected_rows", "execution_id", "started_at",
    "finished_at", "terminal_status"]

/-- The check of the status of a stream that ended: it is compared as a text. -/
def validateTerminalStatus (status : JsonValue) : Validation :=
  match stringOf status with
  | none => .error .typeError
  | some text =>
    rejectUnless (isOneOf text ["aborted", "error"])
      (utf16 "rpc:complete terminal_status must be aborted or error")

/-- `validateRpcComplete`. -/
def validateRpcComplete (payload : JsonValue) : Validation := do
  let fields ← recordOr payload (utf16 "rpc:complete payload must be an object")
  ensureOnlyKeys "" fields rpcCompleteAllowedKeys
  requireField fields "stream_id" isFilled "rpc:complete stream_id is required"
  requireField fields "request_id" isStringOrNumber
    "rpc:complete request_id must be a string or number"
  requireField fields "total_rows" isNonNegativeInteger
    "rpc:complete total_rows must be a non-negative integer"
  allowField fields "affected_rows" isNonNegativeInteger
    "rpc:complete affected_rows must be a non-negative integer"
  ["execution_id", "started_at", "finished_at"].forM fun key =>
    allowField fields key isText ("rpc:complete " ++ key ++ " must be a string")
  checkField fields "terminal_status" validateTerminalStatus

/-- `validateRpcRequestAck`. -/
def validateRpcRequestAck (payload : JsonValue) : Validation := do
  let fields ← recordOr payload (utf16 "rpc:request_ack payload must be an object")
  ensureOnlyKeys "" fields ["request_id", "received_at"]
  requireField fields "request_id" isStringOrNumber
    "rpc:request_ack request_id must be a string or number"
  allowField fields "received_at" isText "rpc:request_ack received_at must be a string"

/-- The items of an array; a value of another kind has none. -/
def itemsOf : Option JsonValue → List JsonValue
  | some (.array items) => items
  | _ => []

/-- `validateRpcBatchAck`. -/
def validateRpcBatchAck (payload : JsonValue) : Validation := do
  let fields ← recordOr payload (utf16 "rpc:batch_ack payload must be an object")
  ensureOnlyKeys "" fields ["request_ids", "received_at"]
  let requestIds := itemsOf (field fields "request_ids")
  rejectUnless (requestIds ≠ []) (utf16 "rpc:batch_ack request_ids must be a non-empty array")
  rejectUnless (requestIds.length ≤ hubMaxBatchSize)
    (utf16 "rpc:batch_ack request_ids cannot exceed 32")
  requestIds.forM fun requestId =>
    rejectUnless (isStringOrNumber requestId)
      (utf16 "rpc:batch_ack request_ids items must be strings or numbers")
  allowField fields "received_at" isText "rpc:batch_ack received_at must be a string"

/-! ## Modes -/

/-- The events whose payloads are checked. -/
inductive AgentInboundContractEvent where
  | rpcResponse
  | rpcChunk
  | rpcComplete
  | rpcRequestAck
  | rpcBatchAck

/-- What a failure means. -/
inductive ContractValidationMode where
  | strict
  | warn
  | off
deriving DecidableEq

/-- What a validation says. -/
inductive AgentInboundContractValidationResult where
  | ok
  | failed (shouldProcess : Bool) (message : Utf16)
  | thrown

/-- The payload is processed. -/
def AgentInboundContractValidationResult.shouldProcess :
    AgentInboundContractValidationResult → Bool
  | .ok => true
  | .failed shouldProcess _ => shouldProcess
  | .thrown => false

/-- `validatePayloadForEvent`. -/
def validatePayloadForEvent (eventName : AgentInboundContractEvent) (payload : Payload) :
    Validation :=
  match eventName with
  | .rpcResponse => validateRpcResponse payload.value
  | .rpcChunk => validateRpcChunk payload
  | .rpcComplete => validateRpcComplete payload.value
  | .rpcRequestAck => validateRpcRequestAck payload.value
  | .rpcBatchAck => validateRpcBatchAck payload.value

/-- `validateAgentInboundContract`. -/
def validateAgentInboundContract (mode : ContractValidationMode)
    (eventName : AgentInboundContractEvent) (payload : Payload) :
    AgentInboundContractValidationResult :=
  if mode = .off then .ok
  else
    match validatePayloadForEvent eventName payload with
    | .ok () => .ok
    | .error .typeError => .thrown
    | .error (.reject message) => .failed (mode = .warn) message

/-! ## Grammars -/

/-- What a grammar says of a name: whether it must be there, and which values it takes. -/
structure Rule where
  name : String
  required : Bool
  Holds : JsonValue → Prop

/-- Fields keep a rule. -/
def Rule.Meets (rule : Rule) (fields : JsonFields) : Prop :=
  (rule.required = true → (field fields rule.name).isSome = true) ∧
    ∀ value ∈ field fields rule.name, rule.Holds value

/-- Fields keep all rules; other names are open. -/
def KeepsAll (rules : List Rule) (fields : JsonFields) : Prop := ∀ rule ∈ rules, rule.Meets fields

/-- A value keeps all rules, and has only names that they are about. -/
def Conforms (rules : List Rule) (value : JsonValue) : Prop :=
  ∃ fields, entriesOf value = some fields ∧
    (∀ entry ∈ fields, isOneOf entry.1 (rules.map Rule.name) = true) ∧ KeepsAll rules fields

/-- A text. -/
def IsText (value : JsonValue) : Prop := ∃ text, value = .string text

/-- A text that is not blank. -/
def IsFilled (value : JsonValue) : Prop := ∃ text, value = .string text ∧ trimUnits text ≠ []

/-- A finite number that is so. -/
def IsNumber (Holds : ℚ → Prop) (value : JsonValue) : Prop :=
  ∃ number, value = .number number ∧ Holds number.value

/-- An id: a text or a finite number. -/
def IsId (value : JsonValue) : Prop := IsText value ∨ IsNumber (fun _ => True) value

/-- An integer from some least one on. -/
def IsCount (least : Nat) : JsonValue → Prop :=
  IsNumber fun number => ∃ count : Nat, number = count ∧ least ≤ count

/-- An object or an array. -/
def IsRecord (value : JsonValue) : Prop :=
  (∃ fields, value = .object fields) ∨ ∃ items, value = .array items

/-- An array of objects and arrays. -/
def IsRecords (value : JsonValue) : Prop :=
  ∃ items, value = .array items ∧ ∀ item ∈ items, IsRecord item

/-- The error of a response. -/
def IsError (value : JsonValue) : Prop :=
  ∃ fields, entriesOf value = some fields ∧ KeepsAll
    [⟨"code", true, IsNumber fun number => ∃ integer : Int, number = integer⟩,
      ⟨"message", true, IsText⟩,
      ⟨"data", false, fun data => ∃ fields, data = .object fields⟩] fields

/-- A health snapshot; the time it was captured at goes by either of two names. -/
def IsHealthSnapshot (value : JsonValue) : Prop :=
  ∃ fields, entriesOf value = some fields ∧
    ∀ capturedAt ∈ (field fields "captured_at_ms").or (field fields "capturedAtMs"),
      IsNumber (0 < ·) capturedAt

/-- The phases of an agent. -/
def IsAgentPhases (value : JsonValue) : Prop :=
  ∃ entries, entriesOf value = some entries ∧ ∀ entry ∈ entries, IsNumber (0 ≤ ·) entry.2

/-- The meta data of a response: texts, health snapshots and phases under their names. -/
def IsMeta (value : JsonValue) : Prop :=
  ∃ entries, entriesOf value = some entries ∧ ∀ entry ∈ entries,
    (isOneOf entry.1 rpcMetaStringKeys = true ∧ IsText entry.2) ∨
      (isOneOf entry.1 ["health_snapshot", "healthSnapshot"] = true ∧ IsHealthSnapshot entry.2) ∨
        (isOneOf entry.1 ["agent_phases", "agentPhases"] = true ∧ IsAgentPhases entry.2)

/-- A response: any id, and exactly one of a result and an error; other names are open. -/
def IsResponse (value : JsonValue) : Prop :=
  ∃ fields, entriesOf value = some fields ∧ KeepsAll
    [⟨"jsonrpc", true, (· = .string (utf16 "2.0"))⟩, ⟨"id", true, fun _ => True⟩,
      ⟨"result", false, IsRecord⟩, ⟨"error", false, IsError⟩, ⟨"api_version", false, IsText⟩,
      ⟨"meta", false, IsMeta⟩] fields ∧
    (hasOwn fields "result" = true ↔ hasOwn fields "error" = false)

/-- Some items, as many as a batch may have, that are so. -/
def IsBatch (Holds : JsonValue → Prop) (items : List JsonValue) : Prop :=
  items ≠ [] ∧ items.length ≤ hubMaxBatchSize ∧ ∀ item ∈ items, Holds item

/-- The rules of a chunk. -/
def chunkRules : List Rule :=
  [⟨"stream_id", true, IsFilled⟩, ⟨"request_id", true, IsId⟩, ⟨"chunk_index", true, IsCount 0⟩,
    ⟨"rows", true, IsRecords⟩, ⟨"total_chunks", false, IsCount 1⟩,
    ⟨"column_metadata", false, IsRecords⟩, ⟨"columnar", false, fun _ => True⟩]

/-- A chunk without columns, one with rows of its own, or one that carries its columns. -/
def IsColumnar (chunk : JsonObject) : Prop :=
  field chunk.fields "columnar" = none ∨
    (∃ row rest, field chunk.fields "rows" = some (.array (row :: rest))) ∨
      ∃ rowCount vectors, Carries chunk rowCount vectors

/-- The rules of the end of a stream. -/
def completeRules : List Rule :=
  [⟨"stream_id", true, IsFilled⟩, ⟨"request_id", true, IsId⟩, ⟨"total_rows", true, IsCount 0⟩,
    ⟨"affected_rows", false, IsCount 0⟩, ⟨"execution_id", false, IsText⟩,
    ⟨"started_at", false, IsText⟩, ⟨"finished_at", false, IsText⟩,
    ⟨"terminal_status", false, fun status =>
      status = .string (utf16 "aborted") ∨ status = .string (utf16 "error")⟩]

/-- The grammar of the payloads of an event. -/
def InGrammar (eventName : AgentInboundContractEvent) (payload : Payload) : Prop :=
  match eventName with
  | .rpcResponse =>
    (∃ items, payload.value = .array items ∧ IsBatch IsResponse items) ∨
      (∀ items, payload.value ≠ .array items) ∧ IsResponse payload.value
  | .rpcChunk =>
    Conforms chunkRules payload.value ∧
      ∀ chunk : JsonObject, payload.value = .object chunk.fields → IsColumnar chunk
  | .rpcComplete => Conforms completeRules payload.value
  | .rpcRequestAck =>
    Conforms [⟨"request_id", true, IsId⟩, ⟨"received_at", false, IsText⟩] payload.value
  | .rpcBatchAck =>
    Conforms
      [⟨"request_ids", true, fun value => ∃ items, value = .array items ∧ IsBatch IsId items⟩,
        ⟨"received_at", false, IsText⟩] payload.value

/-! ## What the tests mean -/

variable {message : Utf16}

theorem rejectUnless_ok {holds : Bool} :
    rejectUnless holds message = .ok () ↔ holds = true := by
  cases holds <;> simp [rejectUnless]

theorem then_ok {first second : Validation} :
    (first >>= fun _ => second) = .ok () ↔ first = .ok () ∧ second = .ok () := by
  cases first <;> simp [bind, Except.bind]

theorem recordOr_ok {value : JsonValue} {check : JsonFields → Validation} :
    (recordOr value message >>= check) = .ok () ↔
      ∃ fields, entriesOf value = some fields ∧ check fields = .ok () := by
  unfold recordOr
  cases entriesOf value <;> simp [bind, Except.bind]

theorem forM_ok {α : Type} {items : List α} {check : α → Validation} :
    items.forM check = .ok () ↔ ∀ item ∈ items, check item = .ok () := by
  induction items with
  | nil => simp [pure, Except.pure]
  | cons item rest ih => rw [List.forM, then_ok, ih, List.forall_mem_cons]

variable {Holds : JsonValue → Prop} {fields : JsonFields}

theorem requireField_ok {test : JsonValue → Bool} (spec : ∀ value, test value = true ↔ Holds value)
    {name message : String} :
    requireField fields name test message = .ok () ↔ Rule.Meets ⟨name, true, Holds⟩ fields := by
  unfold requireField Rule.Meets
  rw [rejectUnless_ok]
  cases field fields name <;> simp [spec]

theorem allowField_ok {test : JsonValue → Bool} (spec : ∀ value, test value = true ↔ Holds value)
    {name message : String} :
    allowField fields name test message = .ok () ↔ Rule.Meets ⟨name, false, Holds⟩ fields := by
  unfold allowField Rule.Meets
  rw [rejectUnless_ok]
  cases field fields name <;> simp [spec]

theorem checkField_ok {check : JsonValue → Validation} {name : String}
    (spec : ∀ value ∈ field fields name, check value = .ok () ↔ Holds value) :
    checkField fields name check = .ok () ↔ Rule.Meets ⟨name, false, Holds⟩ fields := by
  unfold checkField Rule.Meets
  cases found : field fields name with
  | none => simp
  | some value => simp [spec value found]

theorem ensureOnlyKeys_ok {label : String} {allowed : List String} :
    ensureOnlyKeys label fields allowed = .ok () ↔
      ∀ entry ∈ fields, isOneOf entry.1 allowed = true := by
  unfold ensureOnlyKeys
  simp only [forM_ok, rejectUnless_ok]

variable (value : JsonValue)

theorem isText_iff : isText value = true ↔ IsText value := by
  cases value <;> simp [isText, asText, IsText]

theorem isFilled_iff : isFilled value = true ↔ IsFilled value := by
  cases value <;> simp [isFilled, asText, IsFilled]

theorem isNumber_iff {test : ℚ → Bool} {Holds : ℚ → Prop}
    (spec : ∀ number, test number = true ↔ Holds number) (value : JsonValue) :
    (asNumber (some value)).any test = true ↔ IsNumber Holds value := by
  cases value <;> simp [asNumber, IsNumber, spec]

theorem isStringOrNumber_iff : isStringOrNumber value = true ↔ IsId value := by
  unfold isStringOrNumber IsId
  rw [Bool.or_eq_true, isText_iff]
  cases value <;> simp [asNumber, IsNumber]

theorem isInteger_iff :
    isInteger value = true ↔ IsNumber (fun number => ∃ integer : Int, number = integer) value := by
  refine isNumber_iff (fun number => ?_) value
  rw [decide_eq_true_iff]
  constructor
  · exact fun whole => ⟨number.num, ((Rat.den_eq_one_iff number).mp whole).symm⟩
  · rintro ⟨integer, rfl⟩
    exact Rat.den_intCast integer

theorem count_iff (least : Nat) (number : ℚ) :
    (number.den = 1 ∧ (least : Int) ≤ number.num) ↔
      ∃ count : Nat, number = count ∧ least ≤ count := by
  constructor
  · rintro ⟨whole, bound⟩
    refine ⟨number.num.toNat, ?_, by omega⟩
    calc
      number = (number.num : ℚ) := ((Rat.den_eq_one_iff number).mp whole).symm
      _ = ((number.num.toNat : Int) : ℚ) := by rw [Int.toNat_of_nonneg (by omega)]
      _ = (number.num.toNat : ℚ) := Int.cast_natCast _
  · rintro ⟨count, rfl, bound⟩
    refine ⟨Rat.den_natCast count, ?_⟩
    rw [Rat.num_natCast]
    omega

theorem isNonNegativeInteger_iff :
    isNonNegativeInteger value = true ↔ IsCount 0 value := by
  refine isNumber_iff (fun number => ?_) value
  rw [← count_iff 0 number, Bool.and_eq_true, decide_eq_true_iff, decide_eq_true_iff,
    Nat.cast_zero, Rat.num_nonneg]

theorem isPositiveInteger_iff :
    isPositiveInteger value = true ↔ IsCount 1 value := by
  refine isNumber_iff (fun number => ?_) value
  rw [← count_iff 1 number, Bool.and_eq_true, decide_eq_true_iff, decide_eq_true_iff,
    Nat.cast_one, ← Rat.num_pos, Int.lt_iff_add_one_le, Int.zero_add]

theorem isRecord_iff : isRecord value = true ↔ IsRecord value := by
  cases value <;> simp [isRecord, entriesOf, IsRecord]

theorem validateRecordArray_ok {name label : String} :
    validateRecordArray (field fields name) label = .ok () ↔
      Rule.Meets ⟨name, true, IsRecords⟩ fields := by
  unfold validateRecordArray Rule.Meets
  split
  · next items found =>
    simp only [found, forM_ok, rejectUnless_ok, isRecord_iff, IsRecords]
    simp
  · next other =>
    refine iff_of_false (by simp) fun meets => ?_
    obtain ⟨value, present⟩ := Option.isSome_iff_exists.mp (meets.1 rfl)
    obtain ⟨items, rfl, _⟩ := meets.2 value present
    exact other items present

/-! ## Responses -/

theorem validateRpcResponseError_ok (error : JsonValue) :
    validateRpcResponseError error = .ok () ↔ IsError error := by
  have plain : ∀ data, validateRpcResponseError.isPlainObject data = true ↔
      ∃ fields, data = .object fields := by
    intro data
    cases data <;> simp [validateRpcResponseError.isPlainObject]
  unfold validateRpcResponseError IsError KeepsAll
  rw [recordOr_ok]
  simp only [then_ok, requireField_ok isInteger_iff, requireField_ok isText_iff,
    allowField_ok plain, List.forall_mem_cons, List.not_mem_nil, false_implies, implies_true,
    and_true]

theorem validateHealthSnapshot_ok (snapshot : JsonValue) (fieldName : Utf16) :
    validateHealthSnapshot snapshot fieldName = .ok () ↔ IsHealthSnapshot snapshot := by
  unfold validateHealthSnapshot IsHealthSnapshot
  rw [recordOr_ok]
  refine exists_congr fun fields => and_congr_right fun _ => ?_
  rw [rejectUnless_ok]
  cases (field fields "captured_at_ms").or (field fields "capturedAtMs") with
  | none => simp
  | some value =>
    rw [Option.all_some, isNumber_iff fun number => decide_eq_true_iff]
    simp

theorem validateAgentPhases_ok (phases : JsonValue) (fieldName : Utf16) :
    validateAgentPhases phases fieldName = .ok () ↔ IsAgentPhases phases := by
  unfold validateAgentPhases IsAgentPhases
  rw [recordOr_ok]
  simp only [forM_ok, rejectUnless_ok, isNumber_iff fun number => decide_eq_true_iff]

theorem not_isOneOf {name : Utf16} {names : List String} (others : List String)
    (apart : ∀ known ∈ names, isOneOf (utf16 known) others = false)
    (listed : isOneOf name names = true) : isOneOf name others = false := by
  obtain ⟨known, member, same⟩ := List.any_eq_true.mp listed
  rw [decide_eq_true_iff.mp same]
  exact apart known member

theorem validateMetaEntry_ok (entry : Utf16 × JsonValue) :
    (isOneOf entry.1 rpcMetaAllowedKeys = true ∧ validateMetaEntry entry = .ok ()) ↔
      (isOneOf entry.1 rpcMetaStringKeys = true ∧ IsText entry.2) ∨
        (isOneOf entry.1 ["health_snapshot", "healthSnapshot"] = true ∧
          IsHealthSnapshot entry.2) ∨
            (isOneOf entry.1 ["agent_phases", "agentPhases"] = true ∧ IsAgentPhases entry.2) := by
  have split : isOneOf entry.1 rpcMetaAllowedKeys =
      (isOneOf entry.1 rpcMetaStringKeys ||
        (isOneOf entry.1 ["health_snapshot", "healthSnapshot"] ||
          isOneOf entry.1 ["agent_phases", "agentPhases"])) := by
    simp only [isOneOf, rpcMetaAllowedKeys, List.any_append, List.any_cons, List.any_nil,
      Bool.or_false, Bool.or_assoc]
  unfold validateMetaEntry
  rw [split]
  by_cases text : isOneOf entry.1 rpcMetaStringKeys = true
  · have health := not_isOneOf ["health_snapshot", "healthSnapshot"] (by decide +kernel) text
    have phases := not_isOneOf ["agent_phases", "agentPhases"] (by decide +kernel) text
    simp [text, health, phases, rejectUnless_ok, isText_iff]
  · rw [Bool.not_eq_true] at text
    by_cases health : isOneOf entry.1 ["health_snapshot", "healthSnapshot"] = true
    · have phases := not_isOneOf ["agent_phases", "agentPhases"] (by decide +kernel) health
      simp [text, health, phases, validateHealthSnapshot_ok]
    · rw [Bool.not_eq_true] at health
      simp +contextual [text, health, validateAgentPhases_ok]

theorem validateRpcMeta_ok (data : JsonValue) : validateRpcMeta data = .ok () ↔ IsMeta data := by
  unfold validateRpcMeta IsMeta
  rw [recordOr_ok]
  refine exists_congr fun entries => and_congr_right fun _ => ?_
  rw [then_ok, ensureOnlyKeys_ok, forM_ok, ← forall₂_and]
  exact forall₂_congr fun entry _ => validateMetaEntry_ok entry

theorem validateRpcResponseObject_ok (payload : JsonValue) :
    validateRpcResponseObject payload = .ok () ↔ IsResponse payload := by
  have version : ∀ value, decide (asText (some value) = some (utf16 "2.0")) = true ↔
      value = .string (utf16 "2.0") := by
    intro value
    cases value <;> simp [asText]
  unfold validateRpcResponseObject IsResponse KeepsAll
  rw [recordOr_ok]
  refine exists_congr fun fields => and_congr_right fun _ => ?_
  simp only [then_ok, requireField_ok version, requireField_ok fun _ => iff_of_true rfl trivial,
    allowField_ok isRecord_iff, checkField_ok fun error _ => validateRpcResponseError_ok error,
    allowField_ok isText_iff, checkField_ok fun data _ => validateRpcMeta_ok data, rejectUnless_ok,
    List.forall_mem_cons, List.not_mem_nil, false_implies, implies_true, and_true]
  have one : (hasOwn fields "result" != hasOwn fields "error") = true ↔
      (hasOwn fields "result" = true ↔ hasOwn fields "error" = false) := by
    cases hasOwn fields "result" <;> cases hasOwn fields "error" <;> decide
  rw [one]
  constructor
  · rintro ⟨version, id, exactly, result, error, api, data⟩
    exact ⟨⟨version, id, result, error, api, data⟩, exactly⟩
  · rintro ⟨⟨version, id, result, error, api, data⟩, exactly⟩
    exact ⟨version, id, exactly, result, error, api, data⟩

variable (payload : Payload)

theorem validateRpcResponse_ok :
    validateRpcResponse payload.value = .ok () ↔ InGrammar .rpcResponse payload := by
  unfold validateRpcResponse InGrammar
  split
  · next items shape =>
    simp only [then_ok, rejectUnless_ok, decide_eq_true_iff, forM_ok, validateRpcResponseObject_ok]
    constructor
    · exact fun batch => .inl ⟨items, shape, batch⟩
    · rintro (⟨others, same, batch⟩ | ⟨single, _⟩)
      · cases shape.symm.trans same
        exact batch
      · exact absurd shape (single items)
  · next value single =>
    rw [validateRpcResponseObject_ok]
    constructor
    · exact fun response => .inr ⟨single, response⟩
    · rintro (⟨items, shape, _⟩ | ⟨_, response⟩)
      · exact absurd shape (single items)
      · exact response

/-! ## Streams and acknowledgements -/

theorem conforms_ok {rules : List Rule} {value : JsonValue}
    {allowed : List String} {check : JsonFields → Validation}
    (names : allowed = rules.map Rule.name) (spec : ∀ fields, entriesOf value = some fields →
      (check fields = .ok () ↔ KeepsAll rules fields)) :
    (recordOr value message >>= fun fields =>
        ensureOnlyKeys "" fields allowed >>= fun _ => check fields) = .ok () ↔
      Conforms rules value := by
  unfold Conforms
  rw [recordOr_ok]
  refine exists_congr fun fields => and_congr_right fun found => ?_
  rw [then_ok, ensureOnlyKeys_ok, names, spec fields found]

theorem isColumnar_iff (chunk : JsonObject) :
    IsColumnar chunk ↔ field chunk.fields "columnar" = none ∨
      ∃ inspection, inspectSqlStreamChunk chunk = .ok inspection := by
  cases present : field chunk.fields "columnar" with
  | none => exact iff_of_true (.inl present) (.inl rfl)
  | some columnar =>
    constructor
    · rintro (absent | ⟨row, rest, found⟩ | ⟨rowCount, vectors, carries⟩)
      · cases present.symm.trans absent
      · right
        refine ⟨.rows (rest.length + 1), ?_⟩
        have rows : ColumnarChunks.field chunk.fields "rows" = some (.array (row :: rest)) := found
        have columns : ColumnarChunks.field chunk.fields "columnar" = some columnar := present
        unfold inspectSqlStreamChunk
        simp only [rows, columns, List.length_cons, Nat.zero_lt_succ, if_true]
      · obtain ⟨columns, inspected, _⟩ := ColumnarChunks.inspect_of_carries chunk carries
        exact .inr ⟨_, inspected⟩
    · rintro (absent | ⟨inspection, inspected⟩)
      · cases absent
      · rcases ColumnarChunks.inspect_cases chunk present with ⟨row, rest, found, _⟩ |
          ⟨rowCount, columns, vectors, carries, _⟩ | ⟨error, failed, _⟩
        · exact .inr (.inl ⟨row, rest, found⟩)
        · exact .inr (.inr ⟨rowCount, vectors, carries⟩)
        · cases failed.symm.trans inspected

theorem inspectColumnar_ok :
    inspectColumnar payload = .ok () ↔
      ∀ chunk : JsonObject, payload.value = .object chunk.fields → IsColumnar chunk := by
  unfold inspectColumnar
  split
  · next fields shape =>
    have here : (∀ chunk : JsonObject, payload.value = .object chunk.fields → IsColumnar chunk) ↔
        IsColumnar ⟨fields, payload.distinct fields shape⟩ := by
      constructor
      · exact fun each => each _ shape
      · rintro columnar ⟨others, distinct⟩ same
        cases shape.symm.trans same
        exact columnar
    rw [here, isColumnar_iff]
    unfold checkField
    cases field fields "columnar" with
    | none => simp
    | some columnar =>
      cases inspectSqlStreamChunk ⟨fields, payload.distinct fields shape⟩ with
      | ok inspection => simp
      | error error => cases error <;> simp
  · next other =>
    refine iff_of_true rfl fun chunk shape => ?_
    exact absurd shape (other chunk.fields)

theorem validateRpcChunk_ok :
    validateRpcChunk payload = .ok () ↔ InGrammar .rpcChunk payload := by
  have records : ∀ value, validateRecordArray (some value) "rpc:chunk column_metadata" = .ok () ↔
      IsRecords value := by
    intro value
    cases value with
    | array items =>
      simp only [validateRecordArray, forM_ok, rejectUnless_ok, isRecord_iff, IsRecords,
        JsonValue.array.injEq, exists_eq_left']
    | _ => simp [validateRecordArray, IsRecords]
  unfold validateRpcChunk InGrammar Conforms
  rw [← inspectColumnar_ok, recordOr_ok, ← exists_and_right]
  refine exists_congr fun fields => ?_
  rw [and_assoc, then_ok, ensureOnlyKeys_ok, and_assoc]
  refine and_congr_right fun _ => and_congr Iff.rfl ?_
  unfold KeepsAll chunkRules
  simp only [then_ok, requireField_ok isFilled_iff, requireField_ok isStringOrNumber_iff,
    requireField_ok isNonNegativeInteger_iff, validateRecordArray_ok,
    allowField_ok isPositiveInteger_iff, checkField_ok fun value _ => records value,
    List.forall_mem_cons, List.not_mem_nil, false_implies, implies_true, and_true]
  constructor
  · rintro ⟨streamId, requestId, index, rows, columns, total, data⟩
    exact ⟨⟨streamId, requestId, index, rows, total, data, by simp [Rule.Meets]⟩, columns⟩
  · rintro ⟨⟨streamId, requestId, index, rows, total, data, _⟩, columns⟩
    exact ⟨streamId, requestId, index, rows, columns, total, data⟩

theorem validateTerminalStatus_ok (status : JsonValue) (plain : isRecord status = false) :
    validateTerminalStatus status = .ok () ↔
      status = .string (utf16 "aborted") ∨ status = .string (utf16 "error") := by
  cases status with
  | null =>
    refine iff_of_false (fun passes => ?_) (by simp)
    exact absurd (rejectUnless_ok.mp passes) (by decide +kernel)
  | bool choice =>
    refine iff_of_false (fun passes => ?_) (by simp)
    cases choice <;> exact absurd (rejectUnless_ok.mp passes) (by decide +kernel)
  | number number =>
    refine iff_of_false (fun passes => ?_) (by simp)
    have named := rejectUnless_ok.mp passes
    obtain ⟨known, member, same⟩ := List.any_eq_true.mp named
    -- Both texts have the letter r, which no number has.
    have letter : ∀ known ∈ ["aborted", "error"], 114 ∈ utf16 known := by decide +kernel
    have there := letter known member
    rw [← decide_eq_true_iff.mp same] at there
    exact absurd (number.shaped 114 there) (by decide)
  | nonFinite =>
    refine iff_of_false (fun passes => ?_) (by simp)
    exact absurd (rejectUnless_ok.mp passes) (by decide +kernel)
  | string text =>
    unfold validateTerminalStatus
    rw [stringOf, rejectUnless_ok]
    simp [isOneOf]
  | array items | object fields => cases plain

theorem validateRpcComplete_ok
    (plain : ∀ fields status, entriesOf payload.value = some fields →
      field fields "terminal_status" = some status → isRecord status = false) :
    validateRpcComplete payload.value = .ok () ↔ InGrammar .rpcComplete payload := by
  unfold validateRpcComplete InGrammar
  refine conforms_ok rfl fun fields found => ?_
  unfold KeepsAll completeRules
  simp only [then_ok, requireField_ok isFilled_iff, requireField_ok isStringOrNumber_iff,
    requireField_ok isNonNegativeInteger_iff, allowField_ok isNonNegativeInteger_iff, forM_ok,
    allowField_ok isText_iff,
    checkField_ok fun status present =>
      validateTerminalStatus_ok status (plain fields status found present),
    List.forall_mem_cons, List.not_mem_nil, false_implies, implies_true, and_true, and_assoc]

theorem validateRpcRequestAck_ok :
    validateRpcRequestAck payload.value = .ok () ↔ InGrammar .rpcRequestAck payload := by
  unfold validateRpcRequestAck InGrammar
  refine conforms_ok rfl fun fields _ => ?_
  unfold KeepsAll
  simp only [then_ok, requireField_ok isStringOrNumber_iff, allowField_ok isText_iff,
    List.forall_mem_cons, List.not_mem_nil, false_implies, implies_true, and_true]

theorem batch_iff {name : String} :
    IsBatch Holds (itemsOf (field fields name)) ↔ Rule.Meets
      ⟨name, true, fun value => ∃ items, value = .array items ∧ IsBatch Holds items⟩ fields := by
  unfold itemsOf Rule.Meets
  split
  · next items found => simp [found]
  · next other =>
    refine iff_of_false (fun batch => batch.1 rfl) fun meets => ?_
    obtain ⟨value, present⟩ := Option.isSome_iff_exists.mp (meets.1 rfl)
    obtain ⟨items, rfl, _⟩ := meets.2 value present
    exact other items present

theorem validateRpcBatchAck_ok :
    validateRpcBatchAck payload.value = .ok () ↔ InGrammar .rpcBatchAck payload := by
  unfold validateRpcBatchAck InGrammar
  refine conforms_ok rfl fun fields _ => ?_
  unfold KeepsAll
  simp only [then_ok, rejectUnless_ok, decide_eq_true_iff, forM_ok, isStringOrNumber_iff,
    allowField_ok isText_iff, List.forall_mem_cons, List.not_mem_nil, false_implies, implies_true,
    and_true]
  rw [← batch_iff]
  simp only [IsBatch, and_assoc]

/-! ## The contract -/

/-- Strict mode processes exactly the payloads of the grammar of their event, as far as the status
of a stream that ended is no object and no array. -/
theorem strict_processes_iff (eventName : AgentInboundContractEvent) (payload : Payload)
    (plain : eventName = .rpcComplete → ∀ fields status, entriesOf payload.value = some fields →
      field fields "terminal_status" = some status → isRecord status = false) :
    (validateAgentInboundContract .strict eventName payload).shouldProcess = true ↔
      InGrammar eventName payload := by
  have passes : (validateAgentInboundContract .strict eventName payload).shouldProcess = true ↔
      validatePayloadForEvent eventName payload = .ok () := by
    unfold validateAgentInboundContract
    rw [if_neg (by decide)]
    cases validatePayloadForEvent eventName payload with
    | ok => exact iff_of_true rfl rfl
    | error failure => cases failure <;> exact iff_of_false Bool.false_ne_true (by simp)
  rw [passes]
  cases eventName with
  | rpcResponse => exact validateRpcResponse_ok payload
  | rpcChunk => exact validateRpcChunk_ok payload
  | rpcComplete => exact validateRpcComplete_ok payload (plain rfl)
  | rpcRequestAck => exact validateRpcRequestAck_ok payload
  | rpcBatchAck => exact validateRpcBatchAck_ok payload

/-- The end of a stream with some status. -/
def ended (status : JsonValue) : Payload where
  value := .object [(utf16 "stream_id", .string (utf16 "stream-1")),
    (utf16 "request_id", .string (utf16 "request-1")), (utf16 "total_rows", .number (.ofNat 0)),
    (utf16 "terminal_status", status)]
  distinct := by
    intro fields same
    cases same
    simp only [List.map_cons, List.map_nil]
    decide +kernel

/-- A stream that was aborted is processed, and the grammar has it. -/
theorem aborted_is_processed :
    (validateAgentInboundContract .strict .rpcComplete
        (ended (.string (utf16 "aborted")))).shouldProcess = true ∧
      InGrammar .rpcComplete (ended (.string (utf16 "aborted"))) := by
  have processed : (validateAgentInboundContract .strict .rpcComplete
      (ended (.string (utf16 "aborted")))).shouldProcess = true := by decide +kernel
  refine ⟨processed, (strict_processes_iff .rpcComplete _ ?_).mp processed⟩
  intro _ fields status found present
  cases found
  have stored : some (JsonValue.string (utf16 "aborted")) = some status := present
  cases stored
  rfl

/-- A response with an id that is null, an array as its result and a name of its own. -/
def openResponse : Payload where
  value := .object [(utf16 "jsonrpc", .string (utf16 "2.0")), (utf16 "id", .null),
    (utf16 "result", .array []), (utf16 "note", .bool true)]
  distinct := by
    intro fields same
    cases same
    decide +kernel

/-- A chunk whose only row is an array. -/
def arrayRow : Payload where
  value := .object [(utf16 "stream_id", .string (utf16 "stream-1")),
    (utf16 "request_id", .string (utf16 "request-1")), (utf16 "chunk_index", .number (.ofNat 0)),
    (utf16 "rows", .array [.array []])]
  distinct := by
    intro fields same
    cases same
    decide +kernel

/-- Strict mode processes a response with any id and any further name, a row that is an array, and
a status that is no text. -/
theorem strict_processes_other_values :
    (validateAgentInboundContract .strict .rpcResponse openResponse).shouldProcess = true ∧
      (∃ fields, openResponse.value = .object fields ∧ field fields "id" = some .null ∧
        ¬ IsId .null ∧ field fields "note" = some (.bool true)) ∧
      (validateAgentInboundContract .strict .rpcChunk arrayRow).shouldProcess = true ∧
      (∃ fields, arrayRow.value = .object fields ∧
        field fields "rows" = some (.array [.array []])) ∧
      (validateAgentInboundContract .strict .rpcComplete
        (ended (.array [.string (utf16 "aborted")]))).shouldProcess = true ∧
      ¬ InGrammar .rpcComplete (ended (.array [.string (utf16 "aborted")])) := by
  refine ⟨by decide +kernel, ⟨_, rfl, rfl, ?_, rfl⟩, by decide +kernel, ⟨_, rfl, rfl⟩,
    by decide +kernel, ?_⟩
  · rintro (⟨text, same⟩ | ⟨number, same, _⟩) <;> cases same
  · rintro ⟨fields, found, _, keeps⟩
    cases found
    have kept := (keeps _ (List.mem_of_getElem? (i := 7) rfl)).2
      (.array [.string (utf16 "aborted")]) rfl
    rcases kept with same | same <;> cases same

end PlugHub.AgentContract
