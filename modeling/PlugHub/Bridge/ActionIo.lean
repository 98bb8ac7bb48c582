import Mathlib.Data.List.Chain
import PlugHub.Bridge.CommandTransformers
import PlugHub.Library.Accounting

/-!
# Responses to action requests

What the hub remembers of a request about the input and output of an action, and what it asks of
the response: the schema of the method, the ids and the sequences of the request, and for a page of
output the order of its events and the offsets of its bytes. The responses to a batch are matched
with its requests by a map from the ids, from which every response takes its request.
-/

namespace PlugHub.ActionIo

open Library
open CommandTransformers (field)

/-! ## Reading -/

/-- A value that `isRecord`; an array has no field that is read. -/
def asRecord : Option JsonValue → Option JsonFields
  | some (.object fields) => some fields
  | some (.array _) => some []
  | _ => none

/-- A value that is a text. -/
def asText : Option JsonValue → Option Utf16
  | some (.string text) => some text
  | _ => none

/-- A value that is a number. -/
def asNumber : Option JsonValue → Option ℚ
  | some (.number number) => some number.value
  | _ => none

/-- A value that is one of two truth values. -/
def asBool : Option JsonValue → Option Bool
  | some (.bool value) => some value
  | _ => none

/-- `Object.hasOwn`. -/
def hasOwn (fields : JsonFields) (name : String) : Bool := (field fields name).isSome

/-- `Number.MAX_SAFE_INTEGER`. -/
def maxSafeInteger : Nat := 9007199254740991

/-- A safe integer. -/
def readInt (value : Option JsonValue) : Option Int :=
  (asNumber value).bind fun number =>
    if number.den = 1 ∧ number.num.natAbs ≤ maxSafeInteger then some number.num else none

/-- `integer`. -/
def readInteger (value : Option JsonValue) : Option Nat :=
  (readInt value).bind fun number => if 0 ≤ number then some number.toNat else none

/-- `identity`. -/
def readIdentity (value : Option JsonValue) : Option Utf16 := (asText value).filter (· ≠ [])

/-- The number of bytes of a text in base64: each of two signs of padding takes one unit off. -/
def base64Length (text : Utf16) : Nat :=
  let units := if text.getLast? = some 61 then text.length - 1 else text.length
  let units := if 1 < units ∧ text[units - 1]? = some 61 then units - 1 else units
  units * 3 / 4

/-! ## What is remembered of a request -/

/-- `ActionIoResponseExpectation`. -/
structure ActionIoResponseExpectation where
  faithfulIo : Bool := false
  actionId : Option Utf16 := none
  executionId : Option Utf16 := none
  messageId : Option Utf16 := none
  sequence : Option ℚ := none
  afterSequence : Option ℚ := none
  maxBytes : Option ℚ := none
  inputBytes : Option Nat := none

/-- The method of a command. -/
def methodOf (command : JsonFields) : Option Utf16 := asText (field command "method")

/-- The bytes that a command puts in. -/
def inputBytesOf (method : Utf16) (params : JsonFields) : Option Nat :=
  if method = utf16 "agent.action.closeInput" then some 0
  else if method = utf16 "agent.action.sendInput" then
    (asText (field params "data_base64")).map base64Length
  else none

/-- `captureActionIoExpectation`. -/
def captureActionIoExpectation (command : JsonValue) : ActionIoResponseExpectation :=
  match asRecord (some command) with
  | none => {}
  | some fields =>
    match methodOf fields, asRecord (field fields "params") with
    | some method, some params =>
      if (utf16 "agent.action.").isPrefixOf method then
        { faithfulIo := hasOwn params "io"
          actionId := if hasOwn params "io" then asText (field params "action_id") else none
          executionId := asText (field params "execution_id")
          messageId := asText (field params "message_id")
          sequence := asNumber (field params "sequence")
          afterSequence := asNumber (field params "after_sequence")
          maxBytes := asNumber (field params "max_bytes")
          inputBytes := inputBytesOf method params }
      else {}
    | _, _ => {}

/-- The id of a request or of a response. -/
inductive ItemId where
  | text (id : Utf16)
  | number (id : ℚ)
deriving DecidableEq

/-- The id of an item, when it is a text or a number. -/
def itemId (item : JsonValue) : Option ItemId :=
  (asRecord (some item)).bind fun fields =>
    ((asText (field fields "id")).map .text).or ((asNumber (field fields "id")).map .number)

/-- `ActionIoBatchExpectation`. -/
structure ActionIoBatchExpectation where
  id : ItemId
  method : Utf16
  expected : ActionIoResponseExpectation

/-- The methods for which a batch is captured. -/
def batchMethods : List String :=
  ["agent.action.readIo", "agent.action.getInputStatus", "agent.action.listAvailable",
    "agent.action.findExecution"]

/-- An item for which the batch is captured. -/
def asksForBatch (item : JsonValue) : Bool :=
  match asRecord (some item) with
  | none => false
  | some fields =>
    match methodOf fields with
    | none => false
    | some method =>
      (method = utf16 "agent.action.validateRun" &&
        (asRecord (field fields "params")).any (hasOwn · "io")) ||
        batchMethods.any (fun name => method = utf16 name)

/-- What is remembered of an item. -/
def captureItem (item : JsonValue) : Option ActionIoBatchExpectation := do
  let fields ← asRecord (some item)
  let method ← methodOf fields
  let id ← itemId item
  return ⟨id, method, captureActionIoExpectation item⟩

/-- `captureActionIoBatch`. -/
def captureActionIoBatch : JsonValue → List ActionIoBatchExpectation
  | .array items => if items.any asksForBatch then items.filterMap captureItem else []
  | _ => []

/-! ## Pages -/

/-- The stream of an output. -/
inductive OutputStream where
  | stdout
  | stderr
deriving DecidableEq

/-- What a process wrote. -/
structure Output where
  stream : OutputStream
  offset : Nat
  dataBase64 : Utf16

/-- Where the bytes end. -/
def Output.finish (output : Output) : Nat := output.offset + base64Length output.dataBase64

/-- `event`, as far as it is not an output its sequence only. -/
structure PageEvent where
  sequence : Nat
  output : Option Output

/-- `page`. -/
structure Page where
  executionId : Utf16
  events : List PageEvent
  nextSequence : Nat
  terminal : Bool
  outputComplete : Bool

/-- A strict object has no other fields. -/
def onlyFields (fields : JsonFields) (names : List String) : Bool :=
  fields.all fun entry => names.any fun name => entry.1 = utf16 name

/-- A unit of base64. -/
def isBase64Unit (unit : Nat) : Bool :=
  (65 ≤ unit && unit ≤ 90) || (97 ≤ unit && unit ≤ 122) || (48 ≤ unit && unit ≤ 57) ||
    unit = 43 || unit = 47

/-- `base64Pattern`. -/
def isCanonicalBase64 : Utf16 → Bool
  | [] => true
  | [first, second, 61, 61] => isBase64Unit first && (utf16 "AQgw").contains second
  | [first, second, third, 61] =>
    isBase64Unit first && isBase64Unit second && (utf16 "AEIMQUYcgkosw048").contains third
  | first :: second :: third :: fourth :: rest =>
    isBase64Unit first && isBase64Unit second && isBase64Unit third && isBase64Unit fourth &&
      isCanonicalBase64 rest
  | _ => false

/-- `ACTION_IO_BLOCK_BYTES`. -/
def actionIoBlockBytes : Nat := 64 * 1024

/-- `ACTION_IO_PAGE_BYTES`. -/
def actionIoPageBytes : Nat := 256 * 1024

/-- `actionIoBlockSchema`. -/
def readBlock (value : Option JsonValue) : Option Utf16 :=
  (asText value).filter fun text =>
    text.length ≤ 4 * ((actionIoBlockBytes + 2) / 3) && isCanonicalBase64 text &&
      base64Length text ≤ actionIoBlockBytes

/-- `failure`. -/
def isFailure (value : JsonValue) : Bool :=
  match value with
  | .object fields =>
    onlyFields fields ["code", "phase", "origin", "diagnostic_id", "effects_possible", "retryable",
        "recovery", "confirmed_bytes"] &&
      ["code", "phase", "origin", "diagnostic_id", "recovery"].all
        (fun name => (readIdentity (field fields name)).isSome) &&
      (asBool (field fields "effects_possible")).isSome &&
      asBool (field fields "retryable") = some false &&
      (match field fields "confirmed_bytes" with
        | none => true
        | some .null => true
        | some number => (readInteger (some number)).isSome)
  | _ => false

/-- The stream of a name. -/
def readStream (name : Utf16) : Option OutputStream :=
  if name = utf16 "stdout" then some .stdout
  else if name = utf16 "stderr" then some .stderr
  else none

/-- What an event says beside its sequence; `none` when it is not one of the three. -/
def readDetails (fields : JsonFields) : Option (Option Output) :=
  match asText (field fields "type") with
  | none => none
  | some type =>
    if type = utf16 "output" then do
      guard (onlyFields fields ["sequence", "type", "stream", "offset", "data_base64"])
      let stream ← (asText (field fields "stream")).bind readStream
      let offset ← readInteger (field fields "offset")
      let dataBase64 ← readBlock (field fields "data_base64")
      return some ⟨stream, offset, dataBase64⟩
    else if type = utf16 "process_exited" then
      if onlyFields fields ["sequence", "type", "exit_code"] &&
          (match field fields "exit_code" with
            | some .null => true
            | code => (readInt code).isSome) then some none
      else none
    else if type = utf16 "completed" then
      if onlyFields fields ["sequence", "type", "output_complete", "failure"] &&
          (asBool (field fields "output_complete")).isSome &&
          (field fields "failure").all isFailure then some none
      else none
    else none

/-- `event`. -/
def readEvent : JsonValue → Option PageEvent
  | .object fields => do
    let sequence ← (readInteger (field fields "sequence")).filter (1 ≤ ·)
    let output ← readDetails fields
    return ⟨sequence, output⟩
  | _ => none

/-- The items of a list of events. -/
def readItems : Option JsonValue → Option (List JsonValue)
  | some (.array items) => if items.length ≤ 256 then some items else none
  | _ => none

/-- The fields of `page`. -/
def readPage : Option JsonValue → Option Page
  | some (.object fields) => do
    guard (onlyFields fields
      ["execution_id", "events", "next_sequence", "terminal", "output_complete"])
    let executionId ← readIdentity (field fields "execution_id")
    let items ← readItems (field fields "events")
    let events ← items.mapM readEvent
    let nextSequence ← readInteger (field fields "next_sequence")
    let terminal ← asBool (field fields "terminal")
    let outputComplete ← asBool (field fields "output_complete")
    return ⟨executionId, events, nextSequence, terminal, outputComplete⟩
  | _ => none

/-- The walk over the events of a page. -/
structure PageWalk where
  bytes : Nat := 0
  previous : Nat := 0
  offsets : OrderedMap OutputStream Nat := .empty
  issues : List String := []

/-- One event of the walk. -/
def PageWalk.next (walk : PageWalk) (event : PageEvent) : PageWalk :=
  let issues := walk.issues ++
    if event.sequence ≤ walk.previous then ["Non-increasing event sequence"] else []
  match event.output with
  | none => { walk with previous := event.sequence, issues }
  | some output =>
    { bytes := walk.bytes + base64Length output.dataBase64
      previous := event.sequence
      offsets := walk.offsets.set output.stream output.finish
      issues := issues ++
        if (walk.offsets.get output.stream).any (· ≠ output.offset) ||
            maxSafeInteger < output.finish then ["Invalid stream byte offsets"]
        else [] }

/-- The walk after these events. -/
def walked (events : List PageEvent) : PageWalk := events.foldl PageWalk.next {}

/-- The issues of `superRefine`. -/
def pageIssues (page : Page) : List String :=
  let walk := walked page.events
  walk.issues ++
    if actionIoPageBytes < walk.bytes || (page.events ≠ [] && page.nextSequence ≠ walk.previous)
      then ["Invalid page byte limit or cursor"] else []

/-! ## Responses -/

/-- The methods of `results`. -/
def resultMethods : List String :=
  ["agent.action.run", "agent.action.getExecution", "agent.action.validateRun",
    "agent.action.cancel", "agent.action.sendInput", "agent.action.closeInput",
    "agent.action.getInputStatus", "agent.action.readIo", "agent.action.listAvailable",
    "agent.action.findExecution"]

/-- The methods that run an action. -/
def executionMethods : List String :=
  ["agent.action.run", "agent.action.getExecution", "agent.action.validateRun",
    "agent.action.cancel"]

/-- A method is one of these. -/
def isOneOf (method : Utf16) (names : List String) : Bool := names.any (method = utf16 ·)

/-- A value is accepted by the schema of a method, for the schemas of the methods other than
`agent.action.readIo`. -/
def parses (otherSchema : Utf16 → Option JsonValue → Bool) (method : Utf16)
    (result : Option JsonValue) : Bool :=
  if method = utf16 "agent.action.readIo" then (readPage result).any (pageIssues · = [])
  else otherSchema method result

/-- The bytes of an output event. -/
def rawBytes (event : JsonFields) : Nat :=
  if asText (field event "type") = some (utf16 "output") then
    ((asText (field event "data_base64")).map base64Length).getD 0
  else 0

/-- What `afterSequence` and `maxBytes` ask of a page. -/
def matchesPage (result : JsonFields) (afterSequence : ℚ) (maxBytes : Option ℚ) : Bool :=
  match field result "events" with
  | some (.array events) =>
    (events ≠ [] || asNumber (field result "next_sequence") = some afterSequence) &&
      events.all (fun event => (asRecord (some event)).any fun fields =>
        (asNumber (field fields "sequence")).any (afterSequence < ·)) &&
      maxBytes.all (fun most =>
        (((events.map fun event => ((asRecord (some event)).map rawBytes).getD 0).sum : Nat) : ℚ) ≤
          most)
  | _ => false

/-- `matchesActionIoExpectation`. -/
def matchesActionIoExpectation (value : Option JsonValue)
    (expected : ActionIoResponseExpectation) : Bool :=
  match asRecord value with
  | none => false
  | some result =>
    let confirmed := asNumber (field result "confirmed_bytes")
    expected.actionId.all (asText (field result "action_id") = some ·) &&
      expected.executionId.all (asText (field result "execution_id") = some ·) &&
      expected.messageId.all (asText (field result "message_id") = some ·) &&
      expected.sequence.all (asNumber (field result "sequence") = some ·) &&
      expected.inputBytes.all (fun bytes =>
        asText (field result "state") ≠ some (utf16 "written") || confirmed = some (bytes : ℚ)) &&
      expected.inputBytes.all (fun bytes => confirmed.all (· ≤ bytes)) &&
      expected.afterSequence.all (matchesPage result · expected.maxBytes)

/-- Two values that are strictly equal, when neither is an object. -/
def strictlyEqual : Option JsonValue → Option JsonValue → Bool
  | none, none => true
  | some .null, some .null => true
  | some (.bool value), some (.bool other) => value = other
  | some (.number number), some (.number other) => number.value = other.value
  | some (.string text), some (.string other) => text = other
  | _, _ => false

/-- `isValidActionIoResponse`. -/
def isValidActionIoResponse (otherSchema : Utf16 → Option JsonValue → Bool)
    (method : Utf16) (response : JsonValue) (expected : Option ActionIoResponseExpectation) :
    Bool :=
  if !isOneOf method resultMethods then true
  else
    match asRecord (some response) with
    | none => false
    | some fields =>
      let executes := isOneOf method executionMethods
      let result := asRecord (field fields "result")
      let nested := if method = utf16 "agent.action.cancel" then
        result.bind (fun result => asRecord (field result "execution")) else none
      let execution := nested.or result
      let failed := hasOwn fields "error"
      if executes && !expected.any (·.faithfulIo) && !execution.any (hasOwn · "io") then true
      else if !failed && method ≠ utf16 "agent.action.validateRun" && executes &&
          !execution.any (fun execution => (asRecord (field execution "io")).isSome) then false
      else if result.any (fun result => nested.any fun nested =>
          !strictlyEqual (field result "execution_id") (field nested "execution_id") ||
            !strictlyEqual (field result "status") (field nested "status")) then false
      else if 512 * 1024 < byteLength response.stringify then false
      else if failed then !hasOwn fields "result"
      else
        parses otherSchema method (field fields "result") &&
          expected.all (matchesActionIoExpectation (field fields "result") ·)

/-- The requests that are left after these items took theirs. -/
def takeRequests (otherSchema : Utf16 → Option JsonValue → Bool) :
    OrderedMap ItemId ActionIoBatchExpectation → List JsonValue →
      Option (OrderedMap ItemId ActionIoBatchExpectation)
  | remaining, [] => some remaining
  | remaining, item :: rest =>
    match itemId item with
    | none => none
    | some id =>
      match remaining.get id with
      | none => none
      | some request =>
        if isValidActionIoResponse otherSchema request.method item (some request.expected) then
          takeRequests otherSchema (remaining.erase id) rest
        else none

/-- `new Map(expected.map((item) => [item.id, item]))`. -/
def requestsById (expected : List ActionIoBatchExpectation) :
    OrderedMap ItemId ActionIoBatchExpectation :=
  expected.foldl (fun remaining request => remaining.set request.id request) .empty

/-- `isValidActionIoBatchResponse`. -/
def isValidActionIoBatchResponse (otherSchema : Utf16 → Option JsonValue → Bool)
    (expected : List ActionIoBatchExpectation) (response : JsonValue) : Bool :=
  if expected.isEmpty then true
  else
    match response with
    | .array items =>
      items.length = expected.length &&
        (takeRequests otherSchema (requestsById expected) items).any (·.size = 0)
    | _ => false

/-! ## Matching -/

/-- A response answers a request: it has the request's id, and is valid for it. -/
def Answers (otherSchema : Utf16 → Option JsonValue → Bool) (item : JsonValue)
    (request : ActionIoBatchExpectation) : Prop :=
  itemId item = some request.id ∧
    isValidActionIoResponse otherSchema request.method item (some request.expected) = true

/-- The responses are those of the requests, one for each. -/
def Corresponds (otherSchema : Utf16 → Option JsonValue → Bool)
    (expected : List ActionIoBatchExpectation) (response : JsonValue) : Prop :=
  ∃ items assigned, response = .array items ∧ assigned.Perm expected ∧
    List.Forall₂ (Answers otherSchema) items assigned

section Matching

variable {otherSchema : Utf16 → Option JsonValue → Bool}
  {remaining final : OrderedMap ItemId ActionIoBatchExpectation} {items : List JsonValue}
  {assigned expected : List ActionIoBatchExpectation}

/-- Every request is stored under its id. -/
def Keyed (remaining : OrderedMap ItemId ActionIoBatchExpectation) : Prop :=
  ∀ id request, remaining.get id = some request → request.id = id

theorem Keyed.erase (keyed : Keyed remaining) (id : ItemId) : Keyed (remaining.erase id) := by
  intro other request found
  rw [OrderedMap.get_erase] at found
  split_ifs at found with same
  exact keyed other request found

theorem values_perm {id : ItemId} {request : ActionIoBatchExpectation}
    (found : remaining.get id = some request) :
    remaining.values.Perm (request :: (remaining.erase id).values) :=
  (OrderedMap.entries_perm found).map Prod.snd

theorem perm_of_takeRequests (keyed : Keyed remaining)
    (took : takeRequests otherSchema remaining items = some final) :
    ∃ assigned, List.Forall₂ (Answers otherSchema) items assigned ∧
      remaining.values.Perm (assigned ++ final.values) := by
  induction items generalizing remaining with
  | nil =>
    cases took
    exact ⟨[], .nil, .refl _⟩
  | cons item rest ih =>
    unfold takeRequests at took
    cases named : itemId item with
    | none => simp [named] at took
    | some id =>
      cases found : remaining.get id with
      | none => simp [named, found] at took
      | some request =>
        simp only [named, found, Option.ite_none_right_eq_some] at took
        obtain ⟨valid, later⟩ := took
        obtain ⟨assigned, answers, same⟩ := ih (keyed.erase id) later
        refine ⟨request :: assigned, .cons ⟨?_, valid⟩ answers, ?_⟩
        · rw [keyed id request found]
          exact named
        · exact (values_perm found).trans (same.cons request)

theorem takeRequests_of_perm (keyed : Keyed remaining)
    (answers : List.Forall₂ (Answers otherSchema) items assigned)
    (same : assigned.Perm remaining.values) :
    ∃ final, takeRequests otherSchema remaining items = some final ∧ final.size = 0 := by
  induction answers generalizing remaining with
  | nil =>
    refine ⟨remaining, rfl, ?_⟩
    have absent := same.length_eq
    rw [OrderedMap.values, List.length_map] at absent
    exact absent.symm
  | @cons item request rest others answer _ ih =>
    obtain ⟨id, stored⟩ := (OrderedMap.mem_values_iff remaining request).mp
      (same.mem_iff.mp List.mem_cons_self)
    have found : remaining.get request.id = some request := by
      rw [keyed id request stored]
      exact stored
    obtain ⟨final, took, empty⟩ := ih (keyed.erase request.id)
      ((same.trans (values_perm found)).cons_inv)
    refine ⟨final, ?_, empty⟩
    unfold takeRequests
    simp only [answer.1, found, answer.2, if_true]
    exact took

theorem requestsById_append (request : ActionIoBatchExpectation) :
    requestsById (expected ++ [request]) = (requestsById expected).set request.id request := by
  unfold requestsById
  rw [List.foldl_append]
  rfl

theorem keyed_requestsById (expected : List ActionIoBatchExpectation) :
    Keyed (requestsById expected) := by
  induction expected using List.reverseRecOn with
  | nil =>
    intro id request found
    cases found
  | append_singleton before last ih =>
    rw [requestsById_append]
    intro id request found
    rw [OrderedMap.get_set] at found
    split_ifs at found with same
    · cases found
      exact same.symm
    · exact ih id request found

theorem keys_requestsById (expected : List ActionIoBatchExpectation) :
    (requestsById expected).keys ⊆ expected.map ActionIoBatchExpectation.id := by
  induction expected using List.reverseRecOn with
  | nil =>
    intro id member
    cases member
  | append_singleton before last ih =>
    intro id member
    rw [requestsById_append] at member
    obtain ⟨request, found⟩ := (OrderedMap.mem_keys_iff _ _).mp member
    rw [OrderedMap.get_set] at found
    rw [List.map_append, List.mem_append]
    split_ifs at found with same
    · exact .inr (List.mem_singleton.mpr same)
    · exact .inl (ih ((OrderedMap.mem_keys_iff _ _).mpr ⟨request, found⟩))

theorem values_requestsById (distinct : (expected.map ActionIoBatchExpectation.id).Nodup) :
    (requestsById expected).values = expected := by
  induction expected using List.reverseRecOn with
  | nil => rfl
  | append_singleton before last ih =>
    rw [List.map_append, List.map_singleton, ← List.concat_eq_append, List.nodup_concat]
      at distinct
    have absent : last.id ∉ (requestsById before).keys :=
      fun member => distinct.1 (keys_requestsById before member)
    rw [requestsById_append, OrderedMap.values, OrderedMap.entries_set_of_absent absent,
      List.map_append]
    exact congrArg (· ++ [last]) (ih distinct.2)

theorem nodup_of_size (whole : (requestsById expected).size = expected.length) :
    (expected.map ActionIoBatchExpectation.id).Nodup := by
  have within := (requestsById expected).distinct.subperm (keys_requestsById expected)
  have same : (requestsById expected).keys.Perm (expected.map ActionIoBatchExpectation.id) := by
    apply within.perm_of_length_le
    rw [List.length_map, ← whole]
    exact (List.length_map _).ge
  exact same.nodup_iff.mp (requestsById expected).distinct

/-- A batch is accepted exactly when nothing is expected of it, or the ids of the requests differ
and the responses are theirs. -/
theorem isValidActionIoBatchResponse_iff (response : JsonValue) :
    isValidActionIoBatchResponse otherSchema expected response = true ↔ expected = [] ∨
      (expected.map ActionIoBatchExpectation.id).Nodup ∧
        Corresponds otherSchema expected response := by
  unfold isValidActionIoBatchResponse
  by_cases absent : expected = []
  · simp [absent]
  · rw [if_neg (by rw [List.isEmpty_iff]; exact absent), or_iff_right absent]
    have refused (other : ∀ items, response ≠ .array items) :
        false = true ↔ (expected.map ActionIoBatchExpectation.id).Nodup ∧
          Corresponds otherSchema expected response := by
      refine iff_of_false Bool.false_ne_true ?_
      rintro ⟨-, items, -, same, -⟩
      exact other items same
    cases response with
    | array items =>
      rw [Bool.and_eq_true, decide_eq_true_iff, Option.any_eq_true]
      constructor
      · rintro ⟨length, final, took, empty⟩
        obtain ⟨assigned, answers, same⟩ :=
          perm_of_takeRequests (keyed_requestsById expected) took
        have left : final.values = [] := by
          rw [decide_eq_true_iff] at empty
          exact List.length_eq_zero_iff.mp ((List.length_map _).trans empty)
        rw [left, List.append_nil] at same
        have distinct : (expected.map ActionIoBatchExpectation.id).Nodup := by
          apply nodup_of_size
          have size : (requestsById expected).values.length = assigned.length := same.length_eq
          rw [OrderedMap.values, List.length_map, ← answers.length_eq, length] at size
          exact size
        rw [values_requestsById distinct] at same
        exact ⟨distinct, items, assigned, rfl, same.symm, answers⟩
      · rintro ⟨distinct, _, assigned, same, perm, answers⟩
        cases same
        have all : assigned.Perm (requestsById expected).values := by
          rw [values_requestsById distinct]
          exact perm
        obtain ⟨final, took, empty⟩ :=
          takeRequests_of_perm (keyed_requestsById expected) answers all
        exact ⟨answers.length_eq.trans perm.length_eq, final, took, decide_eq_true empty⟩
    | _ => exact refused fun items same => by cases same

end Matching

/-! ## What a page has -/

/-- The bytes of an event. -/
def PageEvent.bytes (event : PageEvent) : Nat :=
  (event.output.map (base64Length ·.dataBase64)).getD 0

/-- The bytes of a page. -/
def Page.bytes (page : Page) : Nat := (page.events.map PageEvent.bytes).sum

/-- The outputs of a stream. -/
def outputsOf (stream : OutputStream) (events : List PageEvent) : List Output :=
  events.filterMap fun event => event.output.filter (·.stream = stream)

/-- A page is in order, and is what was asked for. -/
structure Ordered (page : Page) (expected : ActionIoResponseExpectation) : Prop where
  /-- Sequence numbers increase. -/
  increasing : (page.events.map PageEvent.sequence).Pairwise (· < ·)
  /-- The outputs of one stream follow one another without a gap. -/
  contiguous : ∀ stream, List.IsChain (fun earlier later => later.offset = earlier.finish)
    (outputsOf stream page.events)
  bounded : page.bytes ≤ actionIoPageBytes
  /-- The cursor is the number of the last event. -/
  cursor : ∀ event ∈ page.events.getLast?, page.nextSequence = event.sequence
  /-- Every event is behind the cursor that was asked for. -/
  above : ∀ afterSequence ∈ expected.afterSequence, ∀ event ∈ page.events,
    afterSequence < event.sequence
  within : ∀ afterSequence ∈ expected.afterSequence, ∀ maxBytes ∈ expected.maxBytes,
    (page.bytes : ℚ) ≤ maxBytes
  /-- A page without events leaves the cursor where it was. -/
  stays : ∀ afterSequence ∈ expected.afterSequence, page.events = [] →
    page.nextSequence = afterSequence

section Pages

variable {events : List PageEvent} {page : Page} {expected : ActionIoResponseExpectation}

theorem walked_append (event : PageEvent) :
    walked (events ++ [event]) = (walked events).next event := by
  unfold walked
  rw [List.foldl_append]
  rfl

theorem previous_walked : ∀ event ∈ events.getLast?, (walked events).previous = event.sequence := by
  induction events using List.reverseRecOn with
  | nil =>
    intro event member
    cases member
  | append_singleton before last ih =>
    intro event member
    rw [List.getLast?_concat] at member
    cases member
    rw [walked_append]
    unfold PageWalk.next
    cases last.output with
    | none => rfl
    | some output => rfl

theorem bytes_walked : (walked events).bytes = (events.map PageEvent.bytes).sum := by
  induction events using List.reverseRecOn with
  | nil => rfl
  | append_singleton before last ih =>
    rw [walked_append, List.map_append, List.sum_append, ← ih, List.map_singleton,
      List.sum_singleton]
    unfold PageWalk.next PageEvent.bytes
    cases last.output with
    | none => rfl
    | some output => rfl

theorem outputsOf_append (stream : OutputStream) (event : PageEvent) :
    outputsOf stream (events ++ [event]) =
      outputsOf stream events ++ (event.output.filter (·.stream = stream)).toList := by
  unfold outputsOf
  rw [List.filterMap_append, List.filterMap_cons, List.filterMap_nil]
  cases event.output.filter (·.stream = stream) with
  | none | some output => rfl

theorem offsets_walked (stream : OutputStream) : (walked events).offsets.get stream =
    (outputsOf stream events).getLast?.map Output.finish := by
  induction events using List.reverseRecOn with
  | nil => rfl
  | append_singleton before last ih =>
    rw [walked_append, outputsOf_append]
    unfold PageWalk.next
    cases last.output with
    | none =>
      rw [Option.filter_none, Option.toList_none, List.append_nil]
      exact ih
    | some output =>
      dsimp only
      rw [OrderedMap.get_set, Option.filter_some]
      by_cases same : output.stream = stream
      · rw [if_pos same.symm, if_pos (decide_eq_true same), Option.toList_some,
          List.getLast?_concat]
        rfl
      · rw [if_neg (Ne.symm same), if_neg (by simpa using same), Option.toList_none,
          List.append_nil]
        exact ih

/-- A walk that finds nothing wrong finds the events numbered in their order, and the outputs of
each stream one after the other. -/
theorem ordered_of_walked (fine : (walked events).issues = []) :
    List.IsChain (· < ·) (events.map PageEvent.sequence) ∧
      ∀ stream, List.IsChain (fun earlier later => later.offset = earlier.finish)
        (outputsOf stream events) := by
  induction events using List.reverseRecOn with
  | nil => exact ⟨.nil, fun _ => .nil⟩
  | append_singleton before last ih =>
    have earlier : (walked before).issues = [] ∧ (walked before).previous < last.sequence ∧
        ∀ output ∈ last.output,
          ((walked before).offsets.get output.stream).any (· ≠ output.offset) = false := by
      rw [walked_append] at fine
      unfold PageWalk.next at fine
      cases wrote : last.output with
      | none =>
        simp only [wrote, List.append_eq_nil_iff, ite_eq_right_iff, reduceCtorEq,
          imp_false, Nat.not_le] at fine
        exact ⟨fine.1, fine.2, fun output member => by cases member⟩
      | some output =>
        simp only [wrote, List.append_eq_nil_iff, ite_eq_right_iff, reduceCtorEq, imp_false,
          Nat.not_le, Bool.or_eq_true, not_or, Bool.not_eq_true] at fine
        refine ⟨fine.1.1, fine.1.2, ?_⟩
        intro other member
        cases member
        exact fine.2.1
    obtain ⟨fineBefore, later, fits⟩ := earlier
    obtain ⟨increasing, contiguous⟩ := ih fineBefore
    constructor
    · rw [List.map_append, List.isChain_append]
      refine ⟨increasing, .singleton _, ?_⟩
      intro sequence member other same
      cases same
      rw [List.getLast?_map, Option.mem_def, Option.map_eq_some_iff] at member
      obtain ⟨event, final, rfl⟩ := member
      rw [← previous_walked event final]
      exact later
    · intro stream
      rw [outputsOf_append]
      cases wrote : last.output.filter (·.stream = stream) with
      | none =>
        rw [Option.toList_none, List.append_nil]
        exact contiguous stream
      | some output =>
        obtain ⟨its, here⟩ := Option.filter_eq_some_iff.mp wrote
        rw [decide_eq_true_iff] at here
        rw [Option.toList_some, List.isChain_append]
        refine ⟨contiguous stream, .singleton _, ?_⟩
        intro prior member other same
        cases same
        have offset := fits output its
        rw [here, offsets_walked, Option.mem_def.mp member, Option.map_some, Option.any_some]
          at offset
        exact (by simpa using offset : prior.finish = output.offset).symm

theorem asNumber_of_readInteger {value : Option JsonValue} {number : Nat}
    (read : readInteger value = some number) : asNumber value = some (number : ℚ) := by
  unfold readInteger readInt at read
  cases shape : asNumber value with
  | none => simp [shape] at read
  | some precise =>
    simp only [shape, Option.bind_some, Option.bind_eq_some_iff, Option.ite_none_right_eq_some,
      Option.some.injEq] at read
    obtain ⟨_, ⟨⟨whole, -⟩, rfl⟩, positive, rfl⟩ := read
    have same : ((precise.num.toNat : Int) : ℚ) = precise := by
      rw [Int.toNat_of_nonneg positive]
      exact Rat.coe_int_num_of_den_eq_one whole
    exact congrArg some same.symm

theorem rawBytes_of_readDetails {fields : JsonFields} {output : Option Output}
    (read : readDetails fields = some output) :
    rawBytes fields = (output.map (base64Length ·.dataBase64)).getD 0 := by
  unfold readDetails at read
  unfold rawBytes
  cases typed : asText (field fields "type") with
  | none => simp [typed] at read
  | some type =>
    simp only [typed] at read
    by_cases written : type = utf16 "output"
    · rw [if_pos written] at read
      simp only [Option.bind_eq_bind, Option.bind_eq_some_iff, Option.pure_def,
        Option.some.injEq] at read
      obtain ⟨-, -, stream, -, offset, -, dataBase64, block, rfl⟩ := read
      have text := (Option.filter_eq_some_iff.mp block).1
      rw [if_pos (congrArg some written), text]
      rfl
    · rw [if_neg written] at read
      have nothing : output = none := by
        split_ifs at read
        · cases read
          rfl
        · cases read
          rfl
      rw [if_neg (fun same => written (Option.some.inj same)), nothing]
      rfl

theorem readEvent_spec {item : JsonValue} {event : PageEvent}
    (read : readEvent item = some event) : ∃ fields, asRecord (some item) = some fields ∧
      asNumber (field fields "sequence") = some (event.sequence : ℚ) ∧
      rawBytes fields = event.bytes := by
  cases item with
  | object fields =>
    simp only [readEvent, Option.bind_eq_bind, Option.bind_eq_some_iff, Option.pure_def,
      Option.some.injEq] at read
    obtain ⟨sequence, numbered, output, details, rfl⟩ := read
    exact ⟨fields, rfl, asNumber_of_readInteger (Option.filter_eq_some_iff.mp numbered).1,
      rawBytes_of_readDetails details⟩
  | _ => cases read

theorem readEvents_spec {items : List JsonValue} (read : items.mapM readEvent = some events) :
    (items.map fun item => ((asRecord (some item)).map rawBytes).getD 0) =
        events.map PageEvent.bytes ∧
      ∀ afterSequence : ℚ, (∀ item ∈ items, (asRecord (some item)).any (fun fields =>
          (asNumber (field fields "sequence")).any (afterSequence < ·)) = true) →
        ∀ event ∈ events, afterSequence < event.sequence := by
  induction items generalizing events with
  | nil =>
    cases read
    exact ⟨rfl, fun _ _ event member => by cases member⟩
  | cons item rest ih =>
    simp only [List.mapM_cons, Option.bind_eq_bind, Option.bind_eq_some_iff, Option.pure_def,
      Option.some.injEq] at read
    obtain ⟨event, first, others, later, rfl⟩ := read
    obtain ⟨fields, shape, numbered, bytes⟩ := readEvent_spec first
    obtain ⟨sizes, above⟩ := ih later
    constructor
    · rw [List.map_cons, List.map_cons, sizes, shape, ← bytes]
      rfl
    · intro afterSequence every other member
      rcases List.mem_cons.mp member with same | among
      · have after := every item List.mem_cons_self
        rw [shape, Option.any_some, numbered, Option.any_some, decide_eq_true_iff] at after
        rw [same]
        exact after
      · exact above afterSequence
          (fun item listed => every item (List.mem_cons_of_mem _ listed)) other among

/-- A page that is accepted is in order, and is what was asked for. -/
theorem ordered_of_accepted {result : Option JsonValue}
    (read : readPage result = some page) (fine : pageIssues page = [])
    (asked : matchesActionIoExpectation result expected = true) : Ordered page expected := by
  cases result with
  | none => cases read
  | some value =>
    cases value with
    | object fields =>
      simp only [readPage, Option.bind_eq_bind, Option.bind_eq_some_iff, Option.pure_def,
        Option.some.injEq] at read
      obtain ⟨-, -, _, -, items, listed, events, parsed, nextSequence, next, _, -, _, -, rfl⟩ :=
        read
      have shape : field fields "events" = some (.array items) := by
        unfold readItems at listed
        split at listed
        · split_ifs at listed
          cases listed
          assumption
        · cases listed
      obtain ⟨noIssue, small⟩ := List.append_eq_nil_iff.mp fine
      obtain ⟨increasing, contiguous⟩ := ordered_of_walked noIssue
      obtain ⟨sizes, above⟩ := readEvents_spec parsed
      have asking : ∀ afterSequence ∈ expected.afterSequence,
          matchesPage fields afterSequence expected.maxBytes = true := by
        intro afterSequence member
        simp only [matchesActionIoExpectation, asRecord, Bool.and_eq_true] at asked
        rw [Option.mem_def.mp member] at asked
        exact asked.2
      have limits : (walked events).bytes ≤ actionIoPageBytes ∧
          (events ≠ [] → nextSequence = (walked events).previous) := by
        simpa [or_imp] using small
      constructor
      · exact List.isChain_iff_pairwise.mp increasing
      · exact contiguous
      · change (events.map PageEvent.bytes).sum ≤ actionIoPageBytes
        rw [← bytes_walked]
        exact limits.1
      · intro event last
        rw [limits.2 (List.ne_nil_of_mem (List.mem_of_getLast? last))]
        exact previous_walked event last
      · intro afterSequence member
        have asks := asking afterSequence member
        simp only [matchesPage, shape, Bool.and_eq_true, List.all_eq_true] at asks
        exact above afterSequence asks.1.2
      · intro afterSequence member maxBytes most
        have asks := asking afterSequence member
        simp only [matchesPage, shape, Bool.and_eq_true, sizes] at asks
        rw [Option.mem_def.mp most] at asks
        exact of_decide_eq_true asks.2
      · intro afterSequence member noEvent
        have asks := asking afterSequence member
        have absent : items = [] := by
          rw [show events = [] from noEvent, List.map_nil, List.map_eq_nil_iff] at sizes
          exact sizes
        simp only [matchesPage, shape, absent, asNumber_of_readInteger next, Bool.and_eq_true]
          at asks
        have same := asks.1.1
        simpa using same
    | _ => cases read

end Pages

/-- Whatever the requests and the response: a batch is accepted exactly when nothing is expected of
it, or the ids of the requests differ and there is one response for each of them, with its id and
valid for it. A page that is accepted is in order, and is what was asked for. -/
theorem responses_match_requests (otherSchema : Utf16 → Option JsonValue → Bool) :
    (∀ command response,
      isValidActionIoBatchResponse otherSchema (captureActionIoBatch command) response = true ↔
        captureActionIoBatch command = [] ∨
          ((captureActionIoBatch command).map ActionIoBatchExpectation.id).Nodup ∧
            Corresponds otherSchema (captureActionIoBatch command) response) ∧
      ∀ fields expected,
        isValidActionIoResponse otherSchema (utf16 "agent.action.readIo") (.object fields)
            (some expected) = true → hasOwn fields "error" = false →
          ∃ page, readPage (field fields "result") = some page ∧ Ordered page expected := by
  constructor
  · intro command response
    exact isValidActionIoBatchResponse_iff response
  · intro fields expected valid succeeded
    have listed : isOneOf (utf16 "agent.action.readIo") resultMethods = true := by decide +kernel
    have quick : isOneOf (utf16 "agent.action.readIo") executionMethods = false := by
      decide +kernel
    have other : utf16 "agent.action.readIo" ≠ utf16 "agent.action.cancel" := by decide +kernel
    simp only [isValidActionIoResponse, listed, quick, other, asRecord, succeeded, Bool.not_true,
      Bool.false_and, Bool.and_false, Bool.false_eq_true, if_false, Option.any_none,
      Option.any_false, Option.all_some, parses, if_true] at valid
    split_ifs at valid
    rw [Bool.and_eq_true, Option.any_eq_true] at valid
    obtain ⟨⟨page, read, fine⟩, asked⟩ := valid
    exact ⟨page, read, ordered_of_accepted read (of_decide_eq_true fine) asked⟩

/-- A request for the actions, under the id "a". -/
def catalogRequest : JsonValue :=
  .object [(utf16 "id", .string (utf16 "a")),
    (utf16 "method", .string (utf16 "agent.action.listAvailable"))]

/-- Its response. -/
def catalogResponse : JsonValue :=
  .object [(utf16 "id", .string (utf16 "a")), (utf16 "result", .object [])]

/-- Two requests under one id are not answered by two responses with the id, though these are
theirs; and of a batch without such a request everything is a response. -/
theorem same_ids_never_answered :
    isValidActionIoBatchResponse (fun _ _ => true)
        (captureActionIoBatch (.array [catalogRequest, catalogRequest]))
        (.array [catalogResponse, catalogResponse]) = false ∧
      Corresponds (fun _ _ => true)
        (captureActionIoBatch (.array [catalogRequest, catalogRequest]))
        (.array [catalogResponse, catalogResponse]) ∧
      isValidActionIoBatchResponse (fun _ _ => true) (captureActionIoBatch (.array [])) .null =
        true ∧
      ¬ Corresponds (fun _ _ => true) (captureActionIoBatch (.array [])) .null := by
  refine ⟨by decide +kernel, ?_, by decide +kernel, ?_⟩
  · have answers : Answers (fun _ _ => true) catalogResponse
        ⟨.text (utf16 "a"), utf16 "agent.action.listAvailable", {}⟩ :=
      ⟨by decide +kernel, by decide +kernel⟩
    exact ⟨_, _, rfl, .refl _, .cons answers (.cons answers .nil)⟩
  · rintro ⟨items, assigned, same, -⟩
    cases same

end PlugHub.ActionIo
