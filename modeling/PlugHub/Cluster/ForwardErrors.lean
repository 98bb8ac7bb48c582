import Mathlib.Data.List.Infix
import PlugHub.Library.JsonValue

/-!
# What a forwarded dispatch comes to

The hub of an agent dispatches a forwarded command and replies with the result, or with what the
error is mapped to. The reply travels as JSON text; the forwarding hub reads it and returns the
result, or throws the error that the reply is mapped to.
-/

namespace PlugHub.ForwardErrors

open Library

/-! ## Errors and replies -/

/-- `AppError`. -/
structure AppError where
  message : Utf16
  statusCode : JsonNumber
  code : Utf16
  details : Option JsonValue

/-- `notFound`. -/
def notFound (resource : Utf16) : AppError where
  message := resource ++ utf16 " not found"
  statusCode := .ofNat 404
  code := utf16 "NOT_FOUND"
  details := none

/-- `serviceUnavailable`. -/
def serviceUnavailable (message : Utf16) : AppError where
  message := message
  statusCode := .ofNat 503
  code := utf16 "SERVICE_UNAVAILABLE"
  details := none

/-- What a dispatch throws. -/
inductive DispatchError (Command : Type) where
  /-- `AgentDisconnectedBeforeDispatchError`. -/
  | agentDisconnected (agentId : Utf16) (command : Command)
  /-- An `AppError`. -/
  | app (error : AppError)
  | error (message : Utf16)
  | thrown

/-- What a dispatch comes to; a result is an object. -/
inductive DispatchOutcome (Command : Type) where
  | result (result : JsonFields)
  | failed (error : DispatchError Command)

/-- `BridgeForwardReplyPayload`. -/
inductive BridgeForwardReplyPayload where
  | success (result : JsonFields)
  | agentDisconnected (agentId : Utf16)
  | error (message : Utf16) (statusCode : Option JsonNumber) (code : Option Utf16)

/-! ## On the hub of the agent -/

/-- `String.prototype.includes`. -/
def includes (text part : Utf16) : Bool := part <:+: text

/-- `mapDispatchErrorToReply`. -/
def mapDispatchErrorToReply {Command : Type} (error : DispatchError Command) (agentId : Utf16)
    (hasKnownAgentId : Utf16 → Bool) : BridgeForwardReplyPayload :=
  match error with
  | .agentDisconnected _ _ => .agentDisconnected agentId
  | .app error => .error error.message (some error.statusCode) (some error.code)
  | .error message =>
    if includes message (utf16 "not found") && !hasKnownAgentId agentId then
      .error message (some (.ofNat 404)) none
    else .error message (some (.ofNat 503)) none
  | .thrown => .error (utf16 "Bridge dispatch failed") (some (.ofNat 503)) none

/-- The reply of `handleIncomingBridgeCommand`. -/
def replyOf {Command : Type} (outcome : DispatchOutcome Command) (agentId : Utf16)
    (hasKnownAgentId : Utf16 → Bool) : BridgeForwardReplyPayload :=
  match outcome with
  | .result result => .success result
  | .failed error => mapDispatchErrorToReply error agentId hasKnownAgentId

/-- A field that is only written when it has a value. -/
def optionalField (name : Utf16) : Option JsonValue → JsonFields
  | some value => [(name, value)]
  | none => []

/-- The object of a reply. -/
def replyFields : BridgeForwardReplyPayload → JsonFields
  | .success result =>
    [(utf16 "kind", .string (utf16 "success")), (utf16 "result", .object result)]
  | .agentDisconnected agentId =>
    [(utf16 "kind", .string (utf16 "agent_disconnected")), (utf16 "agentId", .string agentId)]
  | .error message statusCode code =>
    [(utf16 "kind", .string (utf16 "error")), (utf16 "message", .string message)] ++
      (optionalField (utf16 "statusCode") (statusCode.map .number) ++
        optionalField (utf16 "code") (code.map .string))

/-- `serializeReply`. -/
def serializeReply (reply : BridgeForwardReplyPayload) : Utf16 :=
  (JsonValue.object (replyFields reply)).stringify

/-! ## On the forwarding hub -/

/-- The number in a field. -/
def numberField (fields : JsonFields) (name : Utf16) : Option JsonNumber :=
  match getField fields name with
  | some (.number value) => some value
  | _ => none

/-- The string in a field. -/
def stringField (fields : JsonFields) (name : Utf16) : Option Utf16 :=
  match getField fields name with
  | some (.string text) => some text
  | _ => none

/-- The object in a field. -/
def objectField (fields : JsonFields) (name : Utf16) : Option JsonFields :=
  match getField fields name with
  | some (.object inner) => some inner
  | _ => none

/-- What an object says as a reply. -/
def readReply (payload : JsonFields) : Option BridgeForwardReplyPayload :=
  let kind := stringField payload (utf16 "kind")
  if kind = some (utf16 "success") then
    (objectField payload (utf16 "result")).map .success
  else if kind = some (utf16 "agent_disconnected") then
    (stringField payload (utf16 "agentId")).map .agentDisconnected
  else if kind = some (utf16 "error") then
    (stringField payload (utf16 "message")).map fun message =>
      .error message (numberField payload (utf16 "statusCode")) (stringField payload (utf16 "code"))
  else none

/-- `parseReplyPayload`. -/
def parseReplyPayload (raw : Utf16) : Option BridgeForwardReplyPayload :=
  match JsonValue.parse raw with
  | some (.object payload) => readReply payload
  | _ => none

/-- `mapReplyToError`; a success is no error. -/
def mapReplyToError {Command : Type} (reply : BridgeForwardReplyPayload) (command : Command) :
    DispatchError Command :=
  match reply with
  | .agentDisconnected agentId => .agentDisconnected agentId command
  | .error message statusCode code =>
    if statusCode = some (.ofNat 404) then .app (notFound message)
    else
      .app ⟨message, statusCode.getD (.ofNat 503), code.getD (utf16 "BRIDGE_FORWARD_ERROR"), none⟩
  | .success _ => .app (serviceUnavailable (utf16 "Invalid bridge forward reply"))

/-- What `forwardToHub` makes of a reply. -/
def receiveReply {Command : Type} (rawReply : Utf16) (command : Command) :
    DispatchOutcome Command :=
  match parseReplyPayload rawReply with
  | none => .failed (.app (serviceUnavailable (utf16 "Invalid bridge forward reply")))
  | some (.success result) => .result result
  | some reply => .failed (mapReplyToError reply command)

/-- What a dispatch of the hub of the agent comes to on the forwarding hub. -/
def forwarded {Command : Type} (agentId : Utf16) (command : Command)
    (hasKnownAgentId : Utf16 → Bool) (outcome : DispatchOutcome Command) :
    DispatchOutcome Command :=
  receiveReply (serializeReply (replyOf outcome agentId hasKnownAgentId)) command

/-! ## The reply on its way -/

theorem replyFields_built (reply : BridgeForwardReplyPayload) :
    ofEntries (replyFields reply) = replyFields reply := by
  cases reply with
  | success result | agentDisconnected agentId => rfl
  | error message statusCode code =>
    cases statusCode with
    | none =>
      cases code with
      | none => rfl
      | some code => rfl
    | some statusCode =>
      cases code with
      | none => rfl
      | some code => rfl

theorem readReply_replyFields (reply : BridgeForwardReplyPayload) :
    readReply (replyFields reply) = some reply := by
  cases reply with
  | success result | agentDisconnected agentId => rfl
  | error message statusCode code =>
    cases statusCode with
    | none =>
      cases code with
      | none => rfl
      | some code => rfl
    | some statusCode =>
      cases code with
      | none => rfl
      | some code => rfl

/-- A reply whose result has a text. -/
def Readable : BridgeForwardReplyPayload → Prop
  | .success result => (JsonValue.object result).Plain
  | _ => True

theorem plain_replyFields {reply : BridgeForwardReplyPayload} (readable : Readable reply) :
    (JsonValue.object (replyFields reply)).Plain := by
  refine ⟨replyFields_built reply, ?_⟩
  cases reply with
  | success result => exact ⟨trivial, readable, trivial⟩
  | agentDisconnected agentId => exact ⟨trivial, trivial, trivial⟩
  | error message statusCode code =>
    cases statusCode with
    | none =>
      cases code with
      | none => exact ⟨trivial, trivial, trivial⟩
      | some code => exact ⟨trivial, trivial, trivial, trivial⟩
    | some statusCode =>
      cases code with
      | none => exact ⟨trivial, trivial, trivial, trivial⟩
      | some code => exact ⟨trivial, trivial, trivial, trivial, trivial⟩

theorem parse_serializeReply {reply : BridgeForwardReplyPayload} (readable : Readable reply) :
    parseReplyPayload (serializeReply reply) = some reply := by
  unfold parseReplyPayload serializeReply
  rw [parse_stringify (plain_replyFields readable)]
  exact readReply_replyFields reply

section Forwarding

variable {Command : Type} (agentId : Utf16) (command : Command) (hasKnownAgentId : Utf16 → Bool)

theorem forwarded_failed (error : DispatchError Command) :
    forwarded agentId command hasKnownAgentId (.failed error) =
      .failed
        (mapReplyToError (mapDispatchErrorToReply error agentId hasKnownAgentId) command) := by
  have failure : ∀ result, mapDispatchErrorToReply error agentId hasKnownAgentId ≠
      .success result := by
    intro result same
    unfold mapDispatchErrorToReply at same
    split at same
    · cases same
    · cases same
    · split at same
      · cases same
      · cases same
    · cases same
  unfold forwarded receiveReply replyOf
  simp only
  cases shape : mapDispatchErrorToReply error agentId hasKnownAgentId with
  | success result => exact absurd shape (failure result)
  | agentDisconnected agentId =>
    have readable : Readable (.agentDisconnected agentId) := trivial
    rw [parse_serializeReply readable]
  | error message statusCode code =>
    have readable : Readable (.error message statusCode code) := trivial
    rw [parse_serializeReply readable]

/-- What is known of a forwarded dispatch. -/
structure Forwards : Prop where
  /-- A result of plain values arrives as it is. -/
  results : ∀ result, (JsonValue.object result).Plain →
    forwarded agentId command hasKnownAgentId (.result result) = .result result
  /-- A disconnected agent is named as the caller named it. -/
  agentDisconnected : ∀ agentId' command',
    forwarded agentId command hasKnownAgentId (.failed (.agentDisconnected agentId' command')) =
      .failed (.agentDisconnected agentId command)
  /-- An `AppError` that is not a 404 arrives with its status code, code and message. -/
  app : ∀ error : AppError, error.statusCode ≠ .ofNat 404 → ∃ arrived : AppError,
    forwarded agentId command hasKnownAgentId (.failed (.app error)) = .failed (.app arrived) ∧
      arrived.statusCode = error.statusCode ∧ arrived.code = error.code ∧
        arrived.message = error.message
  /-- Without details nothing of such an error is lost. -/
  unchanged : ∀ error : AppError, error.statusCode ≠ .ofNat 404 → error.details = none →
    forwarded agentId command hasKnownAgentId (.failed (.app error)) = .failed (.app error)
  /-- A 404 stays a 404. -/
  notFound : ∀ error : AppError, error.statusCode = .ofNat 404 → ∃ arrived : AppError,
    forwarded agentId command hasKnownAgentId (.failed (.app error)) = .failed (.app arrived) ∧
      arrived.statusCode = .ofNat 404
  /-- Another error arrives as a 503 with its message, unless it says that something is not found
  and the hub of the agent does not know the agent. -/
  other : ∀ message, ¬(includes message (utf16 "not found") ∧ hasKnownAgentId agentId = false) →
    forwarded agentId command hasKnownAgentId (.failed (.error message)) =
      .failed (.app ⟨message, .ofNat 503, utf16 "BRIDGE_FORWARD_ERROR", none⟩)
  /-- Such an error of an unknown agent arrives as a 404. -/
  unknown : ∀ message, includes message (utf16 "not found") → hasKnownAgentId agentId = false →
    ∃ arrived : AppError,
      forwarded agentId command hasKnownAgentId (.failed (.error message)) =
        .failed (.app arrived) ∧ arrived.statusCode = .ofNat 404
  /-- What is no error arrives as a 503. -/
  thrown : forwarded agentId command hasKnownAgentId (.failed .thrown) =
    .failed (.app ⟨utf16 "Bridge dispatch failed", .ofNat 503, utf16 "BRIDGE_FORWARD_ERROR", none⟩)

/-- Results, offline agents and errors of the application without details that are no 404 arrive as
they are; other errors arrive as a 503. -/
theorem forwards : Forwards agentId command hasKnownAgentId where
  results := by
    intro result plain
    have readable : Readable (.success result) := plain
    unfold forwarded receiveReply replyOf
    simp only
    rw [parse_serializeReply readable]
  agentDisconnected := by
    intro agentId' command'
    exact forwarded_failed agentId command hasKnownAgentId _
  app := by
    intro error other
    refine ⟨⟨error.message, error.statusCode, error.code, none⟩, ?_, rfl, rfl, rfl⟩
    rw [forwarded_failed]
    unfold mapDispatchErrorToReply mapReplyToError
    simp only [Option.some.injEq, if_neg other, Option.getD_some]
  unchanged := by
    intro error other bare
    rw [forwarded_failed]
    unfold mapDispatchErrorToReply mapReplyToError
    simp only [Option.some.injEq, if_neg other, Option.getD_some, ← bare]
  notFound := by
    intro error same
    refine ⟨ForwardErrors.notFound error.message, ?_, rfl⟩
    rw [forwarded_failed]
    unfold mapDispatchErrorToReply mapReplyToError
    simp only [same, if_true]
  other := by
    intro message known
    have branch : ¬(includes message (utf16 "not found") && !hasKnownAgentId agentId) = true := by
      rw [Bool.and_eq_true, Bool.not_eq_true']
      exact known
    have different : (some (JsonNumber.ofNat 503)) ≠ some (.ofNat 404) := by decide
    rw [forwarded_failed]
    unfold mapDispatchErrorToReply mapReplyToError
    simp only [if_neg branch, if_neg different, Option.getD_some, Option.getD_none]
  unknown := by
    intro message mentioned unknown
    refine ⟨ForwardErrors.notFound message, ?_, rfl⟩
    rw [forwarded_failed]
    unfold mapDispatchErrorToReply mapReplyToError
    simp only [mentioned, unknown, Bool.not_false, Bool.and_self, if_true]
  thrown := by
    rw [forwarded_failed]
    rfl

end Forwarding

/-- An error that is none of the application does not arrive as it is: a message of its own becomes
a 503 with the code of the bridge. -/
theorem socket_error_changes :
    forwarded (utf16 "agent-1") () (fun _ => true) (.failed (.error (utf16 "socket hang up"))) =
        .failed (.app ⟨utf16 "socket hang up", .ofNat 503, utf16 "BRIDGE_FORWARD_ERROR", none⟩) ∧
      forwarded (utf16 "agent-1") () (fun _ => true) (.failed (.error (utf16 "socket hang up"))) ≠
        .failed (.error (utf16 "socket hang up")) := by
  have arrives := forwarded_failed (utf16 "agent-1") () (fun _ => true)
    (.error (utf16 "socket hang up"))
  have mapped : mapReplyToError (mapDispatchErrorToReply
      (.error (utf16 "socket hang up") : DispatchError Unit) (utf16 "agent-1") (fun _ => true)) () =
        .app ⟨utf16 "socket hang up", .ofNat 503, utf16 "BRIDGE_FORWARD_ERROR", none⟩ := rfl
  rw [arrives, mapped]
  refine ⟨rfl, ?_⟩
  intro same
  cases same

end PlugHub.ForwardErrors
