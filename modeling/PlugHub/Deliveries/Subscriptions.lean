import Mathlib.Data.List.Basic
import PlugHub.Library.Runs

/-!
# Subscriptions of a socket to custom events

The frames of a socket that subscribe and unsubscribe. Each becomes an operation that waits for the
operation whose promise was the tail when the frame came; an operation that has ended removes the
tail if it still is its own. An operation authenticates the socket, checks the number of its
subscriptions and the rate of its frames, joins or leaves the room of the event, and changes the
registry when the adapter has done so.

What an operation does between two awaits is one step, and everything else can happen in between.
An operation as a whole is also a function of what the socket holds and of what its awaits gave: the
operations of a run do what these functions do one after the other.
-/

namespace PlugHub.Subscriptions

open Library

/-! ## Operations -/

/-- Settings of the subscriptions, and the digest in the names of the rooms. -/
structure SubscriptionConfig where
  maxSubscriptionsPerSocket : Nat
  rateLimitMax : Nat
  rateLimitWindowMs : Nat
  digest : String → String
  collisionFree : Function.Injective digest

/-- What a frame asks for. -/
inductive Control where
  /-- `socket:event.subscribe`. -/
  | subscribe
  /-- `socket:event.unsubscribe`. -/
  | unsubscribe
deriving DecidableEq

/-- A frame whose payload was accepted. -/
structure Operation where
  control : Control
  eventName : String
  requestId : String

/-- An error of the application. -/
structure AppError where
  code : String
  message : String
  statusCode : Option Nat
deriving DecidableEq

/-- `isNonClientCustomSocketEventPrincipalError`. -/
def AppError.isNonClientPrincipal (error : AppError) : Bool :=
  error.code = "FORBIDDEN" &&
    error.message = "Only Client principals may use custom socket events"

/-- `isTerminalCustomSocketEventAuthFailure`. -/
def AppError.isTerminal (error : AppError) : Bool :=
  if error.isNonClientPrincipal then false
  else error.statusCode = some 401 || error.statusCode = some 403

/-- `handleCustomSocketEventAuthFailure`; an error that is none of the application has no value. -/
def handleAuthFailure (error : Option AppError) : AppError :=
  error.getD ⟨"UNAUTHORIZED", "Authentication required", some 401⟩

/-- The part of a response that tells a rate. -/
structure RateLimit where
  limit : Nat
  remaining : Nat
  resetAtMs : Int
deriving DecidableEq

/-- `SubscriptionResponse`. -/
inductive SubscriptionResponse where
  | subscribed (alreadySubscribed : Bool)
  | unsubscribed (wasSubscribed : Bool)
  | failed (error : AppError) (retryAfterMs : Option Int) (rateLimit : Option RateLimit)
deriving DecidableEq

/-- The response is a success. -/
def SubscriptionResponse.success : SubscriptionResponse → Bool
  | .failed _ _ _ => false
  | _ => true

/-- The frames of a socket in a window. -/
structure ControlBucket where
  windowStartMs : Int
  count : Nat
deriving DecidableEq

/-- What a socket holds. -/
structure Held where
  registry : List String := []
  rooms : List String := []
  bucket : Option ControlBucket := none

/-- A name is added to a set. -/
def addName (names : List String) (name : String) : List String :=
  if name ∈ names then names else names ++ [name]

/-- A name is removed from a set. -/
def removeName (names : List String) (name : String) : List String :=
  names.filter (· ≠ name)

section Stages

variable (config : SubscriptionConfig)

/-- `buildCustomSocketEventRoom`. -/
def buildCustomSocketEventRoom (eventName : String) : String :=
  "consumer:custom-event:" ++ config.digest eventName

/-- `allowCustomSocketEventSubscriptionControl`: the response if the frame is not allowed, and the
window. -/
def allowControl (control : Control) (nowMs : Int) (bucket : Option ControlBucket) :
    Option SubscriptionResponse × Option ControlBucket :=
  if config.rateLimitMax = 0 ∨ config.rateLimitWindowMs = 0 then (none, bucket)
  else
    match bucket with
    | none => (none, some ⟨nowMs, 1⟩)
    | some existing =>
      if config.rateLimitWindowMs ≤ nowMs - existing.windowStartMs then (none, some ⟨nowMs, 1⟩)
      else if config.rateLimitMax ≤ existing.count then
        let resetAtMs := existing.windowStartMs + config.rateLimitWindowMs
        let frame := match control with
          | .subscribe => "socket:event.subscribe"
          | .unsubscribe => "socket:event.unsubscribe"
        (some (.failed ⟨"RATE_LIMITED", "Rate limit exceeded for " ++ frame, some 429⟩
          (some (max 0 (resetAtMs - nowMs))) (some ⟨config.rateLimitMax, 0, resetAtMs⟩)), bucket)
      else (none, some { existing with count := existing.count + 1 })

/-- The socket has as many subscriptions as it may have, and the event would be one more. -/
def exceedsLimit (operation : Operation) (held : Held) : Bool :=
  operation.control = .subscribe && !held.registry.contains operation.eventName &&
    0 < config.maxSubscriptionsPerSocket &&
    config.maxSubscriptionsPerSocket ≤ held.registry.length

/-- What follows the authentication: the limit and the rate. There is a response if the operation
ends here. -/
def checkLimits (operation : Operation) (nowMs : Int) (held : Held) :
    Option SubscriptionResponse × Held :=
  if exceedsLimit config operation held then
    (some (.failed ⟨"SUBSCRIPTION_LIMIT_EXCEEDED",
      "Custom socket event subscription limit exceeded for this socket", some 429⟩ none none), held)
  else
    let (refused, bucket) := allowControl config operation.control nowMs held.bucket
    (refused, { held with bucket })

/-- The adapter joins or leaves the room. -/
def moveRoom (operation : Operation) (held : Held) : Held :=
  let room := buildCustomSocketEventRoom config operation.eventName
  match operation.control with
  | .subscribe => { held with rooms := addName held.rooms room }
  | .unsubscribe => { held with rooms := removeName held.rooms room }

/-- The registry is changed. -/
def changeRegistry (operation : Operation) (held : Held) : SubscriptionResponse × Held :=
  let present := held.registry.contains operation.eventName
  match operation.control with
  | .subscribe =>
    (.subscribed present, { held with registry := addName held.registry operation.eventName })
  | .unsubscribe =>
    (.unsubscribed present, { held with registry := removeName held.registry operation.eventName })

/-- The message of a room that was not joined or left; there is none if what was thrown is no
error. -/
def moveFailure (control : Control) (message : Option String) : SubscriptionResponse :=
  let fallback := match control with
    | .subscribe => "Failed to join custom socket event room"
    | .unsubscribe => "Failed to leave custom socket event room"
  .failed ⟨"INTERNAL_SERVER_ERROR", message.getD fallback, none⟩ none none

/-- The response to an authentication that failed. -/
def authFailure (control : Control) (error : AppError) : SubscriptionResponse :=
  if error.isNonClientPrincipal then
    let refusal := match control with
      | .subscribe => "Only Client principals may subscribe to custom socket events"
      | .unsubscribe => "Only Client principals may unsubscribe from custom socket events"
    .failed ⟨"FORBIDDEN", refusal, error.statusCode⟩ none none
  else .failed error none none

/-- What the awaits of an operation give. -/
structure Inputs where
  auth : Except (Option AppError) String
  nowMs : Int
  moveFails : Option (Option String)

/-- An operation as a whole. -/
def operate (operation : Operation) (inputs : Inputs) (held : Held) :
    SubscriptionResponse × Held :=
  match inputs.auth with
  | .error error => (authFailure operation.control (handleAuthFailure error), held)
  | .ok _ =>
    match checkLimits config operation inputs.nowMs held with
    | (some refusal, held) => (refusal, held)
    | (none, held) =>
      match inputs.moveFails with
      | some message => (moveFailure operation.control message, held)
      | none => changeRegistry operation (moveRoom config operation held)

/-- Operations one after the other: the responses and what the socket holds. -/
def operateAll (held : Held) : List (Operation × Inputs) → List SubscriptionResponse × Held
  | [] => ([], held)
  | (operation, inputs) :: rest =>
    let (response, next) := operate config operation inputs held
    let (responses, last) := operateAll next rest
    (response :: responses, last)

end Stages

/-- What a set of events becomes by an operation that was answered. -/
def changed (operation : Operation) (response : SubscriptionResponse) (names : List String) :
    List String :=
  if response.success then
    match operation.control with
    | .subscribe => addName names operation.eventName
    | .unsubscribe => removeName names operation.eventName
  else names

/-! ## The socket -/

/-- Where an operation is. -/
inductive OperationPhase where
  | waiting
  | authenticating
  | moving (principalId : String) (nowMs : Int)
  | moved (principalId : String) (nowMs : Int) (failure : Option (Option String))
  | done
deriving DecidableEq

/-- An operation that came. -/
structure QueuedOperation where
  operation : Operation
  after : Option Nat
  phase : OperationPhase := .waiting

/-- An operation that has ended. -/
structure Served where
  operation : Operation
  inputs : Inputs
  response : SubscriptionResponse

/-- A connected socket. -/
structure SubscribingSocket where
  connected : Bool := true
  held : Held := {}
  operations : List QueuedOperation := []
  tail : Option Nat := none
  served : List Served := []

/-- What happens to the socket. -/
inductive SocketAction where
  /-- A frame comes: `enqueueSocketSubscriptionOperation`. -/
  | frame (operation : Operation)
  | begin (number : Nat)
  | authenticated (number : Nat) (auth : Except (Option AppError) String) (nowMs : Int)
  | moved (number : Nat) (failure : Option (Option String))
  | resume (number : Nat)
  /-- An operation that has ended removes the tail if it is its own. -/
  | removeTail (number : Nat)
  | disconnect

namespace SubscribingSocket

variable (config : SubscriptionConfig) (socket : SubscribingSocket)

/-- An operation has ended. -/
def ended (number : Nat) : Bool :=
  socket.operations[number]?.any fun queued => queued.phase = .done

/-- An operation goes on. -/
def setPhase (number : Nat) (queued : QueuedOperation) (phase : OperationPhase) :
    SubscribingSocket :=
  { socket with operations := socket.operations.set number { queued with phase } }

/-- An operation ends with a response. -/
def finish (number : Nat) (queued : QueuedOperation) (inputs : Inputs)
    (response : SubscriptionResponse) : SubscribingSocket :=
  { socket.setPhase number queued .done with
    served := socket.served ++ [⟨queued.operation, inputs, response⟩] }

/-- The socket is authenticated for an operation, or is not. A terminal failure disconnects it. -/
def onAuthenticated (number : Nat) (queued : QueuedOperation) (nowMs : Int) :
    Except (Option AppError) String → SubscribingSocket
  | .error error =>
    let appError := handleAuthFailure error
    let ended := socket.finish number queued ⟨.error error, nowMs, none⟩
      (authFailure queued.operation.control appError)
    if appError.isTerminal then { ended with connected := false } else ended
  | .ok principalId =>
    match checkLimits config queued.operation nowMs socket.held with
    | (some refusal, held) =>
      { socket with held }.finish number queued ⟨.ok principalId, nowMs, none⟩ refusal
    | (none, held) => { socket with held }.setPhase number queued (.moving principalId nowMs)

/-- The adapter joins or leaves the room, or fails. -/
def onMoved (number : Nat) (queued : QueuedOperation) (principalId : String) (nowMs : Int) :
    Option (Option String) → SubscribingSocket
  | none =>
    { socket with held := moveRoom config queued.operation socket.held }.setPhase number queued
      (.moved principalId nowMs none)
  | some message => socket.setPhase number queued (.moved principalId nowMs (some message))

/-- An operation is told what the adapter did. -/
def onResumed (number : Nat) (queued : QueuedOperation) (principalId : String) (nowMs : Int) :
    Option (Option String) → SubscribingSocket
  | none =>
    let (response, held) := changeRegistry queued.operation socket.held
    { socket with held }.finish number queued ⟨.ok principalId, nowMs, none⟩ response
  | some message =>
    socket.finish number queued ⟨.ok principalId, nowMs, some message⟩
      (moveFailure queued.operation.control message)

/-- One step of a connected socket. -/
def stepConnected : SocketAction → SubscribingSocket
  | .frame operation =>
    { socket with
      operations := socket.operations ++ [{ operation, after := socket.tail }]
      tail := some socket.operations.length }
  | .begin number =>
    match socket.operations[number]? with
    | none => socket
    | some queued =>
      if queued.phase = .waiting ∧ queued.after.all socket.ended = true then
        socket.setPhase number queued .authenticating
      else socket
  | .authenticated number auth nowMs =>
    match socket.operations[number]? with
    | none => socket
    | some queued =>
      match queued.phase with
      | .authenticating => socket.onAuthenticated config number queued nowMs auth
      | _ => socket
  | .moved number failure =>
    match socket.operations[number]? with
    | none => socket
    | some queued =>
      match queued.phase with
      | .moving principalId nowMs =>
        socket.onMoved config number queued principalId nowMs failure
      | _ => socket
  | .resume number =>
    match socket.operations[number]? with
    | none => socket
    | some queued =>
      match queued.phase with
      | .moved principalId nowMs failure =>
        socket.onResumed number queued principalId nowMs failure
      | _ => socket
  | .removeTail number =>
    if socket.tail = some number ∧ socket.ended number = true then { socket with tail := none }
    else socket
  | .disconnect => { socket with connected := false }

/-- One step; the model follows the socket while it is connected. -/
def step (action : SocketAction) : SubscribingSocket :=
  if socket.connected then socket.stepConnected config action else socket

/-- No operation runs. -/
def Quiet : Prop :=
  ∀ queued ∈ socket.operations, queued.phase = .waiting ∨ queued.phase = .done

/-- What the operations that were answered with success came to. -/
def effect (served : List Served) : List String :=
  served.foldl (fun names entry => changed entry.operation entry.response names) []

/-- Operations that have ended, with what their awaits gave. -/
def inputsOf (served : List Served) : List (Operation × Inputs) :=
  served.map fun entry => (entry.operation, entry.inputs)

/-- The operations that have ended, with what their awaits gave. -/
def servedInputs : List (Operation × Inputs) := inputsOf socket.served

/-- What is promised of a connected socket. -/
structure Lawful : Prop where
  /-- An operation begins after all before it ended. -/
  serial : ∀ (earlier later : Nat) (queued : QueuedOperation), earlier < later →
    socket.operations[later]? = some queued → queued.phase ≠ .waiting →
      socket.ended earlier = true
  /-- Answers come in the order of the requests. -/
  order : socket.served.map (·.operation) =
    (socket.operations.map (·.operation)).take socket.served.length
  /-- They are those of one operation after the other. -/
  responses : socket.served.map (·.response) = (operateAll config {} socket.servedInputs).1
  /-- While no operation runs, the socket is in the rooms of the events of the registry. -/
  rooms : socket.Quiet → ∀ room, room ∈ socket.held.rooms ↔
    ∃ eventName ∈ socket.held.registry, room = buildCustomSocketEventRoom config eventName
  /-- And the registry is what the operations that were answered with success came to. -/
  registry : socket.Quiet → socket.held.registry = effect socket.served
  /-- And the socket holds what the operations one after the other leave it. -/
  sequential : socket.Quiet → socket.held = (operateAll config {} socket.servedInputs).2
  capped : 0 < config.maxSubscriptionsPerSocket →
    socket.held.registry.length ≤ config.maxSubscriptionsPerSocket

/-- An operation that fails changes neither the registry nor the rooms. The operations after it are
answered as if it had not come, unless its join or leave failed when it had used the rate. -/
def Isolated : Prop :=
  ∀ (before after : List Served) (entry : Served), socket.served = before ++ entry :: after →
    entry.response.success = false →
      let held := (operateAll config {} (inputsOf before)).2
      let next := (operate config entry.operation entry.inputs held).2
      next.registry = held.registry ∧ next.rooms = held.rooms ∧
        ((next.bucket ≠ held.bucket ∧
            ∃ message, entry.response = moveFailure entry.operation.control message) ∨
          (operateAll config {} (inputsOf (before ++ after))).1 =
            (before ++ after).map (·.response))

end SubscribingSocket

/-! ## Operations one after the other -/

section Sequential

variable {config : SubscriptionConfig}

theorem mem_addName {names : List String} {name other : String} :
    other ∈ addName names name ↔ other ∈ names ∨ other = name := by
  unfold addName
  split_ifs with present
  · constructor
    · exact .inl
    · rintro (member | rfl)
      · exact member
      · exact present
  · rw [List.mem_append, List.mem_singleton]

theorem mem_removeName {names : List String} {name other : String} :
    other ∈ removeName names name ↔ other ∈ names ∧ other ≠ name := by
  rw [removeName, List.mem_filter, decide_eq_true_eq]

theorem room_injective {eventName other : String}
    (same : buildCustomSocketEventRoom config eventName = buildCustomSocketEventRoom config other) :
    eventName = other :=
  config.collisionFree (String.append_right_inj _ |>.mp same)

/-- What a socket holds fits together: its rooms are those of its events, and there are no more
events than there may be. -/
structure Consistent (config : SubscriptionConfig) (held : Held) : Prop where
  rooms : ∀ room, room ∈ held.rooms ↔
    ∃ eventName ∈ held.registry, room = buildCustomSocketEventRoom config eventName
  capped : 0 < config.maxSubscriptionsPerSocket →
    held.registry.length ≤ config.maxSubscriptionsPerSocket

variable {operation : Operation} {held next : Held}

variable {nowMs : Int}

theorem checkLimits_held {refused : Option SubscriptionResponse}
    (checked : checkLimits config operation nowMs held = (refused, next)) :
    next.registry = held.registry ∧ next.rooms = held.rooms := by
  unfold checkLimits at checked
  split_ifs at checked
  · cases checked
    exact ⟨rfl, rfl⟩
  · cases checked
    exact ⟨rfl, rfl⟩

theorem length_of_passed (passed : checkLimits config operation nowMs held = (none, next))
    (subscribes : operation.control = .subscribe) (absent : operation.eventName ∉ held.registry)
    (limited : 0 < config.maxSubscriptionsPerSocket) :
    held.registry.length < config.maxSubscriptionsPerSocket := by
  by_contra full
  have exceeded : exceedsLimit config operation held = true := by
    simp only [exceedsLimit, Bool.and_eq_true, decide_eq_true_eq, Bool.not_eq_true',
      List.contains_eq_mem, decide_eq_false_iff_not]
    exact ⟨⟨⟨subscribes, absent⟩, limited⟩, Nat.le_of_not_lt full⟩
  rw [checkLimits, if_pos exceeded] at passed
  cases passed

/-- An operation that passes the checks, moves the room and changes the registry keeps them
together. -/
theorem Consistent.change (consistent : Consistent config held)
    (passed : checkLimits config operation nowMs held = (none, next)) :
    Consistent config (changeRegistry operation (moveRoom config operation next)).2 := by
  obtain ⟨registry, rooms⟩ := checkLimits_held passed
  cases shape : operation.control with
  | subscribe =>
    simp only [changeRegistry, moveRoom, shape]
    constructor
    · intro room
      simp only [mem_addName, rooms, registry]
      rw [consistent.rooms]
      constructor
      · rintro (⟨eventName, member, rfl⟩ | rfl)
        · exact ⟨eventName, .inl member, rfl⟩
        · exact ⟨operation.eventName, .inr rfl, rfl⟩
      · rintro ⟨eventName, member | rfl, rfl⟩
        · exact .inl ⟨eventName, member, rfl⟩
        · exact .inr rfl
    · intro limited
      have before := consistent.capped limited
      simp only [registry]
      unfold addName
      split_ifs with present
      · exact before
      · have room := length_of_passed passed shape present limited
        rw [List.length_append, List.length_singleton]
        omega
  | unsubscribe =>
    simp only [changeRegistry, moveRoom, shape]
    constructor
    · intro room
      simp only [mem_removeName, rooms, registry]
      rw [consistent.rooms]
      constructor
      · rintro ⟨⟨eventName, member, rfl⟩, differs⟩
        exact ⟨eventName, ⟨member, fun same => differs (by rw [same])⟩, rfl⟩
      · rintro ⟨eventName, ⟨member, differs⟩, rfl⟩
        exact ⟨⟨eventName, member, rfl⟩, fun same => differs (room_injective same)⟩
    · intro limited
      have before := consistent.capped limited
      simp only [registry]
      exact Nat.le_trans (List.length_filter_le _ _) before

theorem registry_changeRegistry (operation : Operation) (held : Held) :
    (changeRegistry operation held).2.registry =
      changed operation (changeRegistry operation held).1 held.registry := by
  unfold changeRegistry changed
  cases operation.control with
  | subscribe | unsubscribe => rfl

theorem authFailure_success (control : Control) (error : AppError) :
    (authFailure control error).success = false := by
  unfold authFailure
  split_ifs
  · rfl
  · rfl

theorem refusal_spec {refusal : SubscriptionResponse}
    (refused : checkLimits config operation nowMs held = (some refusal, next)) :
    refusal.success = false ∧ next = held := by
  unfold checkLimits allowControl at refused
  split_ifs at refused
  · cases refused
    exact ⟨rfl, rfl⟩
  · cases refused
  · simp only at refused
    split at refused
    · cases refused
    · split_ifs at refused
      · cases refused
      · cases refused
        exact ⟨rfl, rfl⟩
      · cases refused

theorem changeRegistry_success (operation : Operation) (held : Held) :
    (changeRegistry operation held).1.success = true := by
  unfold changeRegistry
  cases operation.control with
  | subscribe | unsubscribe => rfl

theorem moveFailure_success (control : Control) (message : Option String) :
    (moveFailure control message).success = false := rfl

theorem operate_cases (operation : Operation) (inputs : Inputs) (held : Held) :
    (∃ response, operate config operation inputs held = (response, held) ∧
        response.success = false) ∨
      (∃ next, checkLimits config operation inputs.nowMs held = (none, next) ∧
        ∃ message, operate config operation inputs held =
          (moveFailure operation.control message, next)) ∨
      ∃ next, checkLimits config operation inputs.nowMs held = (none, next) ∧
        operate config operation inputs held =
          changeRegistry operation (moveRoom config operation next) := by
  unfold operate
  split
  · exact .inl ⟨_, rfl, authFailure_success _ _⟩
  · split
    · rename_i checked
      obtain ⟨fails, rfl⟩ := refusal_spec checked
      exact .inl ⟨_, rfl, fails⟩
    · rename_i next checked
      split
      · exact .inr (.inl ⟨next, checked, _, rfl⟩)
      · exact .inr (.inr ⟨next, checked, rfl⟩)

theorem Consistent.operate (consistent : Consistent config held)
    (operation : Operation) (inputs : Inputs) :
    Consistent config (operate config operation inputs held).2 := by
  rcases @operate_cases config operation inputs held with ⟨_, same, _⟩ |
    ⟨next, passed, _, same⟩ | ⟨next, passed, same⟩
  · rw [same]
    exact consistent
  · obtain ⟨registry, rooms⟩ := checkLimits_held passed
    rw [same]
    exact ⟨by rw [registry, rooms]; exact consistent.rooms,
      by rw [registry]; exact consistent.capped⟩
  · rw [same]
    exact consistent.change passed

theorem registry_operate (operation : Operation) (inputs : Inputs) (held : Held) :
    (operate config operation inputs held).2.registry =
      changed operation (operate config operation inputs held).1 held.registry := by
  rcases @operate_cases config operation inputs held with ⟨_, same, fails⟩ |
    ⟨next, passed, message, same⟩ | ⟨next, passed, same⟩
  · rw [same, changed, if_neg (by rw [fails]; decide)]
  · rw [same, changed, if_neg (by rw [moveFailure_success]; decide)]
    exact (checkLimits_held passed).1
  · rw [same, registry_changeRegistry, ← (checkLimits_held passed).1]
    cases shape : operation.control with
    | subscribe | unsubscribe => simp only [moveRoom, shape]

theorem held_of_failure {inputs : Inputs}
    (fails : (operate config operation inputs held).1.success = false) :
    (operate config operation inputs held).2 = held ∨
      ((operate config operation inputs held).2.registry = held.registry ∧
        (operate config operation inputs held).2.rooms = held.rooms ∧
          ∃ message, (operate config operation inputs held).1 =
            moveFailure operation.control message) := by
  rcases @operate_cases config operation inputs held with ⟨_, same, _⟩ |
    ⟨next, passed, message, same⟩ | ⟨next, passed, same⟩
  · rw [same]
    exact .inl rfl
  · rw [same]
    obtain ⟨registry, rooms⟩ := checkLimits_held passed
    exact .inr ⟨registry, rooms, message, rfl⟩
  · rw [same, changeRegistry_success] at fails
    cases fails

theorem operateAll_append (held : Held) (first second : List (Operation × Inputs)) :
    operateAll config held (first ++ second) =
      ((operateAll config held first).1 ++
          (operateAll config (operateAll config held first).2 second).1,
        (operateAll config (operateAll config held first).2 second).2) := by
  induction first generalizing held with
  | nil => rfl
  | cons entry rest ih =>
    obtain ⟨operation, inputs⟩ := entry
    simp only [List.cons_append, operateAll]
    rw [ih]

theorem Consistent.operateAll (consistent : Consistent config held)
    (operations : List (Operation × Inputs)) :
    Consistent config (operateAll config held operations).2 := by
  induction operations generalizing held with
  | nil => exact consistent
  | cons entry rest ih =>
    obtain ⟨operation, inputs⟩ := entry
    exact ih (consistent.operate operation inputs)

end Sequential

/-! ## What holds in a run -/

namespace SubscribingSocket

/-- What the operations that have ended leave the socket. -/
def settled (config : SubscriptionConfig) (socket : SubscribingSocket) : Held :=
  (operateAll config {} socket.servedInputs).2

/-- What the socket holds while an operation is at a point. -/
def PhaseHolds (config : SubscriptionConfig) (before : Held) (operation : Operation)
    (held : Held) : OperationPhase → Prop
  | .moving _ nowMs | .moved _ nowMs (some _) =>
    checkLimits config operation nowMs before = (none, held)
  | .moved _ nowMs none => ∃ next, checkLimits config operation nowMs before = (none, next) ∧
    held = moveRoom config operation next
  | _ => held = before

/-- What holds in every run of a connected socket. -/
structure Sound (config : SubscriptionConfig) (socket : SubscribingSocket) : Prop where
  serial : ∀ (earlier later : Nat) (queued : QueuedOperation), earlier < later →
    socket.operations[later]? = some queued → queued.phase ≠ .waiting →
      socket.ended earlier = true
  /-- An operation that waits for none came when all before it had ended. -/
  unchained : ∀ (number : Nat) (queued : QueuedOperation),
    socket.operations[number]? = some queued → queued.after = none →
      ∀ earlier, earlier < number → socket.ended earlier = true
  chained : ∀ (number : Nat) (queued : QueuedOperation) (before : Nat),
    socket.operations[number]? = some queued → queued.after = some before → before + 1 = number
  loose : socket.tail = none → ∀ number, number < socket.operations.length →
    socket.ended number = true
  last : ∀ number, socket.tail = some number → number + 1 = socket.operations.length
  count : ∀ number, socket.ended number = true ↔ number < socket.served.length
  order : socket.served.map (·.operation) =
    (socket.operations.map (·.operation)).take socket.served.length
  responses : socket.served.map (·.response) = (operateAll config {} socket.servedInputs).1
  /-- The registry is what the operations that were answered with success came to. -/
  registry : (socket.settled config).registry = effect socket.served
  /-- The socket holds what the operation that may run makes of what those before left. -/
  running : ∀ queued, socket.operations[socket.served.length]? = some queued →
    PhaseHolds config (socket.settled config) queued.operation socket.held queued.phase
  idle : socket.operations[socket.served.length]? = none → socket.held = socket.settled config

section Facts

variable {config : SubscriptionConfig} {socket : SubscribingSocket}

theorem ended_iff {number : Nat} : socket.ended number = true ↔
    ∃ queued, socket.operations[number]? = some queued ∧ queued.phase = .done := by
  rw [ended, Option.any_eq_true]
  simp only [decide_eq_true_eq]

theorem PhaseHolds.registry {before held : Held} {operation : Operation} {phase : OperationPhase}
    (holds : PhaseHolds config before operation held phase) :
    held.registry = before.registry := by
  cases phase with
  | waiting | authenticating | done => rw [holds]
  | moving principalId nowMs => exact (checkLimits_held holds).1
  | moved principalId nowMs failure =>
    cases failure with
    | some message => exact (checkLimits_held holds).1
    | none =>
      obtain ⟨next, passed, rfl⟩ := holds
      rw [← (checkLimits_held passed).1, moveRoom]
      cases operation.control with
      | subscribe => rfl
      | unsubscribe => rfl

theorem consistent_settled (config : SubscriptionConfig) (socket : SubscribingSocket) :
    Consistent config (socket.settled config) := by
  have blank : Consistent config {} :=
    ⟨fun room => by simp, fun _ => Nat.zero_le _⟩
  exact blank.operateAll _

namespace Sound

theorem lawful (sound : Sound config socket) : socket.Lawful config := by
  have consistent := consistent_settled config socket
  have quiet : socket.Quiet → socket.held = socket.settled config := by
    intro quiet
    cases found : socket.operations[socket.served.length]? with
    | none => exact sound.idle found
    | some queued =>
      have holds := sound.running queued found
      rcases quiet queued (List.mem_of_getElem? found) with waits | done
      · rw [waits] at holds
        exact holds
      · rw [done] at holds
        exact holds
  have registry : socket.held.registry = (socket.settled config).registry := by
    cases found : socket.operations[socket.served.length]? with
    | none => rw [sound.idle found]
    | some queued => exact (sound.running queued found).registry
  exact { sound with
    rooms := by
      intro calm
      rw [quiet calm]
      exact consistent.rooms
    registry := by
      intro calm
      rw [quiet calm]
      exact sound.registry
    sequential := quiet
    capped := by
      rw [registry]
      exact consistent.capped }

variable {queued : QueuedOperation}

variable {number : Nat}

theorem current (sound : Sound config socket) (found : socket.operations[number]? = some queued)
    (before : ∀ earlier, earlier < number → socket.ended earlier = true)
    (unfinished : queued.phase ≠ .done) : number = socket.served.length := by
  have past : ¬ number < socket.served.length := by
    intro less
    obtain ⟨other, same, done⟩ := ended_iff.mp ((sound.count number).mpr less)
    cases found.symm.trans same
    exact unfinished done
  have reached : ¬ socket.served.length < number := by
    intro more
    exact Nat.lt_irrefl _ ((sound.count _).mp (before _ more))
  omega

theorem getElem_setPhase (held : Held)
    (found : socket.operations[number]? = some queued) (phase : OperationPhase) (other : Nat) :
    ({ socket with held }.setPhase number queued phase).operations[other]? =
      if other = number then some { queued with phase } else socket.operations[other]? := by
  obtain ⟨inside, _⟩ := List.getElem?_eq_some_iff.mp found
  simp only [setPhase, List.getElem?_set]
  by_cases same : other = number
  · rw [if_pos same.symm, if_pos same, if_pos inside]
  · rw [if_neg (Ne.symm same), if_neg same]

theorem ended_setPhase (held : Held)
    (found : socket.operations[number]? = some queued) (phase : OperationPhase) (other : Nat) :
    ({ socket with held }.setPhase number queued phase).ended other =
      if other = number then decide (phase = .done) else socket.ended other := by
  rw [ended, getElem_setPhase held found]
  by_cases same : other = number
  · rw [if_pos same, if_pos same, Option.any_some]
  · rw [if_neg same, if_neg same, ended]

theorem map_operation_setPhase (held : Held)
    (found : socket.operations[number]? = some queued) (phase : OperationPhase) :
    ({ socket with held }.setPhase number queued phase).operations.map QueuedOperation.operation =
      socket.operations.map QueuedOperation.operation := by
  apply List.ext_getElem?
  intro other
  rw [List.getElem?_map, List.getElem?_map, getElem_setPhase held found]
  by_cases same : other = number
  · rw [if_pos same, same, found]
    rfl
  · rw [if_neg same]

theorem length_setPhase (held : Held) (number : Nat) (queued : QueuedOperation)
    (phase : OperationPhase) :
    ({ socket with held }.setPhase number queued phase).operations.length =
      socket.operations.length :=
  List.length_set

section

variable (sound : Sound config socket)

include sound

variable {queued : QueuedOperation}

theorem setCurrent (found : socket.operations[socket.served.length]? = some queued)
    (unfinished : queued.phase ≠ .done) {phase : OperationPhase} (goesOn : phase ≠ .done)
    {held : Held} (holds : PhaseHolds config (socket.settled config) queued.operation held phase) :
    Sound config ({ socket with held }.setPhase socket.served.length queued phase) := by
  have unsettled : socket.ended socket.served.length = false := by
    rw [ended, found, Option.any_some]
    exact decide_eq_false unfinished
  have ended_same : ∀ other,
      ({ socket with held }.setPhase socket.served.length queued phase).ended other =
        socket.ended other := by
    intro other
    rw [ended_setPhase held found]
    by_cases same : other = socket.served.length
    · rw [if_pos same, same, unsettled]
      exact decide_eq_false goesOn
    · rw [if_neg same]
  have lookup : ∀ (other : Nat) (entry : QueuedOperation),
      ({ socket with held }.setPhase socket.served.length queued phase).operations[other]? =
        some entry → ∃ before, socket.operations[other]? = some before ∧
          entry.after = before.after ∧ entry.operation = before.operation := by
    intro other entry present
    rw [getElem_setPhase held found] at present
    by_cases same : other = socket.served.length
    · rw [if_pos same] at present
      cases present
      exact ⟨queued, same ▸ found, rfl, rfl⟩
    · rw [if_neg same] at present
      exact ⟨entry, present, rfl, rfl⟩
  exact {
    serial := by
      intro earlier later entry less present begun
      rw [ended_same]
      rw [getElem_setPhase held found] at present
      by_cases same : later = socket.served.length
      · rw [same] at less
        exact (sound.count earlier).mpr less
      · rw [if_neg same] at present
        exact sound.serial earlier later entry less present begun
    unchained := by
      intro number entry present loose earlier less
      obtain ⟨before, there, after, _⟩ := lookup number entry present
      rw [ended_same]
      exact sound.unchained number before there (after ▸ loose) earlier less
    chained := by
      intro number entry previous present chained
      obtain ⟨before, there, after, _⟩ := lookup number entry present
      exact sound.chained number before previous there (after ▸ chained)
    loose := by
      intro empty number inside
      rw [length_setPhase] at inside
      rw [ended_same]
      exact sound.loose empty number inside
    last := by
      intro number tail
      rw [length_setPhase]
      exact sound.last number tail
    count := by
      intro number
      rw [ended_same]
      exact sound.count number
    order := by
      rw [map_operation_setPhase held found]
      exact sound.order
    responses := sound.responses
    registry := sound.registry
    running := by
      intro entry present
      have same := present.symm.trans (getElem_setPhase held found phase socket.served.length)
      rw [if_pos rfl] at same
      cases same
      exact holds
    idle := by
      intro absent
      have same := absent.symm.trans (getElem_setPhase held found phase socket.served.length)
      rw [if_pos rfl] at same
      cases same }

/-- The operation that runs ends, with the response and the effect that the operation as a whole
has. -/
theorem finish (found : socket.operations[socket.served.length]? = some queued)
    {inputs : Inputs} {response : SubscriptionResponse} {held : Held}
    (whole : operate config queued.operation inputs (socket.settled config) = (response, held)) :
    Sound config ({ socket with held }.finish socket.served.length queued inputs response) := by
  let after := { socket with held }.finish socket.served.length queued inputs response
  have served : after.served = socket.served ++ [⟨queued.operation, inputs, response⟩] := rfl
  have longer : after.served.length = socket.served.length + 1 := by
    rw [served, List.length_append]
    rfl
  have fed : after.servedInputs = socket.servedInputs ++ [(queued.operation, inputs)] := by
    rw [servedInputs, served, inputsOf, List.map_append]
    rfl
  have all : operateAll config {} after.servedInputs =
      ((operateAll config {} socket.servedInputs).1 ++ [response], held) := by
    rw [fed, operateAll_append]
    simp only [operateAll]
    rw [show (operateAll config {} socket.servedInputs).2 = socket.settled config from rfl, whole]
  have settles : after.settled config = held := congrArg Prod.snd all
  have ended_after : ∀ other, after.ended other = true ↔ other < socket.served.length + 1 := by
    intro other
    have same := ended_setPhase held found .done other
    rw [show after.ended other = _ from same]
    by_cases here : other = socket.served.length
    · rw [if_pos here, here]
      simp
    · rw [if_neg here, sound.count other]
      omega
  have lookup : ∀ (other : Nat), after.operations[other]? =
      if other = socket.served.length then some { queued with phase := .done }
      else socket.operations[other]? :=
    getElem_setPhase held found .done
  have waits : ∀ (other : Nat) (entry : QueuedOperation), socket.served.length < other →
      socket.operations[other]? = some entry → entry.phase = .waiting := by
    intro other entry more present
    by_contra begun
    have finished := sound.serial socket.served.length other entry more present begun
    exact Nat.lt_irrefl _ ((sound.count _).mp finished)
  exact {
    serial := by
      intro earlier later entry less present begun
      rw [ended_after]
      rw [lookup] at present
      by_cases same : later = socket.served.length
      · omega
      · rw [if_neg same] at present
        by_contra beyond
        exact begun (waits later entry (by omega) present)
    unchained := by
      intro number entry present loose earlier less
      rw [lookup] at present
      rw [ended_after]
      by_cases same : number = socket.served.length
      · omega
      · rw [if_neg same] at present
        have finished := sound.unchained number entry present loose earlier less
        have before := (sound.count earlier).mp finished
        omega
    chained := by
      intro number entry previous present chained
      rw [lookup] at present
      by_cases same : number = socket.served.length
      · rw [if_pos same] at present
        cases present
        exact sound.chained number queued previous (same ▸ found) chained
      · rw [if_neg same] at present
        exact sound.chained number entry previous present chained
    loose := by
      intro absent number inside
      have shorter : number < socket.operations.length := by
        rw [← length_setPhase held socket.served.length queued .done]
        exact inside
      have before := (sound.count number).mp (sound.loose absent number shorter)
      rw [ended_after]
      omega
    last := by
      intro number tail
      rw [show after.operations.length = socket.operations.length from length_setPhase _ _ _ _]
      exact sound.last number tail
    count := by
      intro number
      rw [ended_after, longer]
    order := by
      have frames : after.operations.map (·.operation) = socket.operations.map (·.operation) :=
        map_operation_setPhase held found .done
      have next : (socket.operations.map (·.operation))[socket.served.length]? =
          some queued.operation := by
        rw [List.getElem?_map, found]
        rfl
      rw [frames, longer, served, List.map_append, sound.order, List.take_add_one, next]
      rfl
    responses := by
      rw [all, served, List.map_append, sound.responses]
      rfl
    registry := by
      have operated := @registry_operate config queued.operation inputs
        (socket.settled config)
      rw [whole] at operated
      rw [settles, operated, sound.registry, served, effect, effect, List.foldl_append]
      rfl
    running := by
      intro entry present
      rw [longer, lookup, if_neg (by omega)] at present
      rw [waits _ entry (by omega) present]
      exact settles.symm
    idle := fun _ => settles.symm }

theorem current_of_running
    (found : socket.operations[number]? = some queued) (begun : queued.phase ≠ .waiting)
    (unfinished : queued.phase ≠ .done) : number = socket.served.length :=
  sound.current found
    (fun earlier less => sound.serial earlier number queued less found begun) unfinished

theorem frame (operation : Operation) :
    Sound config (socket.stepConnected config (.frame operation)) := by
  have old : ∀ (number : Nat) (queued : QueuedOperation),
      socket.operations[number]? = some queued →
        (socket.operations ++ [{ operation, after := socket.tail }])[number]? = some queued := by
    intro number queued found
    obtain ⟨inside, _⟩ := List.getElem?_eq_some_iff.mp found
    rw [List.getElem?_append_left inside]
    exact found
  have lookup : ∀ (number : Nat) (queued : QueuedOperation),
      (socket.operations ++ [{ operation, after := socket.tail }])[number]? = some queued →
        socket.operations[number]? = some queued ∨ (number = socket.operations.length ∧
          queued = { operation, after := socket.tail }) := by
    intro number queued found
    rcases Nat.lt_trichotomy number socket.operations.length with less | same | more
    · rw [List.getElem?_append_left less] at found
      exact .inl found
    · rw [same, List.getElem?_concat_length] at found
      exact .inr ⟨same, (Option.some.inj found).symm⟩
    · rw [List.getElem?_eq_none (by rw [List.length_append]; exact more)] at found
      cases found
  have ended_same : ∀ number,
      (socket.stepConnected config (.frame operation)).ended number = socket.ended number := by
    intro number
    rw [Bool.eq_iff_iff, ended_iff, ended_iff]
    constructor
    · rintro ⟨queued, found, done⟩
      rcases lookup number queued found with earlier | ⟨_, rfl⟩
      · exact ⟨queued, earlier, done⟩
      · cases done
    · rintro ⟨queued, found, done⟩
      exact ⟨queued, old number queued found, done⟩
  have few : socket.served.length ≤ socket.operations.length := by
    have lengths := congrArg List.length sound.order
    rw [List.length_map, List.length_take, List.length_map] at lengths
    omega
  exact {
    serial := by
      intro earlier later queued less found begun
      rw [ended_same]
      rcases lookup later queued found with there | ⟨_, rfl⟩
      · exact sound.serial earlier later queued less there begun
      · exact absurd rfl begun
    unchained := by
      intro number queued found loose earlier less
      rw [ended_same]
      rcases lookup number queued found with there | ⟨rfl, rfl⟩
      · exact sound.unchained number queued there loose earlier less
      · exact sound.loose loose earlier less
    chained := by
      intro number queued before found chained
      rcases lookup number queued found with there | ⟨rfl, rfl⟩
      · exact sound.chained number queued before there chained
      · exact sound.last before chained
    loose := by
      intro empty
      cases empty
    last := by
      intro number tail
      cases tail
      simp only [stepConnected, List.length_append, List.length_singleton]
    count := by
      intro number
      rw [ended_same]
      exact sound.count number
    order := by
      simp only [stepConnected, List.map_append]
      rw [List.take_append_of_le_length (by rw [List.length_map]; exact few)]
      exact sound.order
    responses := sound.responses
    registry := sound.registry
    running := by
      intro queued found
      rcases lookup _ queued found with there | ⟨all, rfl⟩
      · exact sound.running queued there
      · exact sound.idle (List.getElem?_eq_none (Nat.le_of_eq all.symm))
    idle := by
      intro absent
      refine sound.idle (List.getElem?_eq_none ?_)
      rw [List.getElem?_eq_none_iff] at absent
      simp only [stepConnected, List.length_append, List.length_singleton] at absent
      omega }

variable (number : Nat)

theorem begin :
    Sound config (socket.stepConnected config (.begin number)) := by
  simp only [stepConnected]
  split
  · exact sound
  · rename_i queued found
    split_ifs with enabled
    · obtain ⟨waits, released⟩ := enabled
      have before : ∀ earlier, earlier < number → socket.ended earlier = true := by
        intro earlier less
        cases chain : queued.after with
        | none => exact sound.unchained number queued found chain earlier less
        | some previous =>
          have next := sound.chained number queued previous found chain
          rw [chain, Option.all_some] at released
          have passed := (sound.count previous).mp released
          exact (sound.count earlier).mpr (by omega)
      have unfinished : queued.phase ≠ .done := by
        rw [waits]
        intro refuted
        cases refuted
      have same := sound.current found before unfinished
      subst same
      have held := sound.running queued found
      rw [waits] at held
      exact sound.setCurrent found unfinished (fun refuted => by cases refuted) held
    · exact sound

/-- The socket is authenticated for an operation, or is not. -/
theorem authenticated (auth : Except (Option AppError) String) (nowMs : Int) :
    Sound config (socket.stepConnected config (.authenticated number auth nowMs)) := by
  simp only [stepConnected]
  split
  · exact sound
  · rename_i queued found
    split
    · rename_i asked
      have unfinished : queued.phase ≠ .done := by
        rw [asked]
        intro refuted
        cases refuted
      have begun : queued.phase ≠ .waiting := by
        rw [asked]
        intro refuted
        cases refuted
      have same := sound.current_of_running found begun unfinished
      subst same
      have held := sound.running queued found
      rw [asked] at held
      have before : socket.held = socket.settled config := held
      cases auth with
      | error error =>
        have finished : Sound config (socket.finish socket.served.length queued
            ⟨.error error, nowMs, none⟩
            (authFailure queued.operation.control (handleAuthFailure error))) := by
          have whole : operate config queued.operation ⟨.error error, nowMs, none⟩
              (socket.settled config) =
                (authFailure queued.operation.control (handleAuthFailure error), socket.held) := by
            rw [before]
            rfl
          exact sound.finish found whole
        simp only [onAuthenticated]
        split_ifs
        · exact ⟨finished.serial, finished.unchained, finished.chained, finished.loose, finished.last,
            finished.count, finished.order, finished.responses, finished.registry, finished.running,
            finished.idle⟩
        · exact finished
      | ok principalId =>
        simp only [onAuthenticated]
        split
        · rename_i refusal next checked
          rw [before] at checked
          have whole : operate config queued.operation ⟨.ok principalId, nowMs, none⟩
              (socket.settled config) = (refusal, next) := by
            simp only [operate, checked]
          exact sound.finish found whole
        · rename_i next checked
          rw [before] at checked
          exact sound.setCurrent found unfinished (fun refuted => by cases refuted) checked
    · exact sound

theorem moved (failure : Option (Option String)) :
    Sound config (socket.stepConnected config (.moved number failure)) := by
  simp only [stepConnected]
  split
  · exact sound
  · rename_i queued found
    split
    · rename_i principalId nowMs moves
      have unfinished : queued.phase ≠ .done := by
        rw [moves]
        intro refuted
        cases refuted
      have begun : queued.phase ≠ .waiting := by
        rw [moves]
        intro refuted
        cases refuted
      have same := sound.current_of_running found begun unfinished
      subst same
      have held := sound.running queued found
      rw [moves] at held
      cases failure with
      | none =>
        exact sound.setCurrent found unfinished (fun refuted => by cases refuted)
          ⟨socket.held, held, rfl⟩
      | some message =>
        exact sound.setCurrent found unfinished (fun refuted => by cases refuted) held
    · exact sound

theorem resume :
    Sound config (socket.stepConnected config (.resume number)) := by
  simp only [stepConnected]
  split
  · exact sound
  · rename_i queued found
    split
    · rename_i principalId nowMs failure told
      have unfinished : queued.phase ≠ .done := by
        rw [told]
        intro refuted
        cases refuted
      have begun : queued.phase ≠ .waiting := by
        rw [told]
        intro refuted
        cases refuted
      have same := sound.current_of_running found begun unfinished
      subst same
      have held := sound.running queued found
      rw [told] at held
      cases failure with
      | none =>
        obtain ⟨next, checked, moves⟩ := held
        have whole : operate config queued.operation ⟨.ok principalId, nowMs, none⟩
            (socket.settled config) = changeRegistry queued.operation socket.held := by
          rw [moves]
          simp only [operate, checked]
        exact sound.finish found whole
      | some message =>
        have checked : checkLimits config queued.operation nowMs (socket.settled config) =
            (none, socket.held) := held
        have whole : operate config queued.operation ⟨.ok principalId, nowMs, some message⟩
            (socket.settled config) =
              (moveFailure queued.operation.control message, socket.held) := by
          simp only [operate, checked]
        exact sound.finish found whole
    · exact sound

theorem removeTail :
    Sound config (socket.stepConnected config (.removeTail number)) := by
  simp only [stepConnected]
  split_ifs with own
  · obtain ⟨tail, finished⟩ := own
    have last := sound.last number tail
    exact { sound with
      loose := by
        intro _ other inside
        have passed := (sound.count number).mp finished
        have shorter : other < socket.operations.length := inside
        exact (sound.count other).mpr (by omega)
      last := by
        intro other absent
        cases absent }
  · exact sound

/-- Every action keeps the socket sound. -/
theorem step (action : SocketAction) :
    Sound config (socket.step config action) := by
  unfold SubscribingSocket.step
  split_ifs
  · cases action with
    | frame operation => exact sound.frame operation
    | begin number => exact sound.begin number
    | authenticated number auth nowMs => exact sound.authenticated number auth nowMs
    | moved number failure => exact sound.moved number failure
    | resume number => exact sound.resume number
    | removeTail number => exact sound.removeTail number
    | disconnect =>
      exact ⟨sound.serial, sound.unchained, sound.chained, sound.loose, sound.last, sound.count,
        sound.order, sound.responses, sound.registry, sound.running, sound.idle⟩
  · exact sound

end

end Sound

end Facts

theorem length_operateAll (config : SubscriptionConfig) (held : Held)
    (operations : List (Operation × Inputs)) :
    (operateAll config held operations).1.length = operations.length := by
  induction operations generalizing held with
  | nil => rfl
  | cons entry rest ih =>
    obtain ⟨operation, inputs⟩ := entry
    simp only [operateAll, List.length_cons]
    rw [ih]

theorem responses_around {config : SubscriptionConfig} {before after : List Served} {entry : Served}
    (responses : (before ++ entry :: after).map (·.response) =
      (operateAll config {} (inputsOf (before ++ entry :: after))).1) :
    before.map (·.response) = (operateAll config {} (inputsOf before)).1 ∧
      entry.response = (operate config entry.operation entry.inputs
        (operateAll config {} (inputsOf before)).2).1 ∧
      after.map (·.response) = (operateAll config (operate config entry.operation entry.inputs
        (operateAll config {} (inputsOf before)).2).2 (inputsOf after)).1 := by
  have inputs : inputsOf (before ++ entry :: after) =
      inputsOf before ++ (entry.operation, entry.inputs) :: inputsOf after := List.map_append
  rw [inputs, operateAll_append, List.map_append] at responses
  have lengths : (before.map (·.response)).length =
      (operateAll config {} (inputsOf before)).1.length := by
    rw [length_operateAll, List.length_map, inputsOf, List.length_map]
  obtain ⟨first, rest⟩ := List.append_inj responses lengths
  obtain ⟨response, others⟩ := List.cons.inj rest
  exact ⟨first, response, others⟩

theorem Sound.isolated {config : SubscriptionConfig} {socket : SubscribingSocket}
    (sound : Sound config socket) : socket.Isolated config := by
  intro before after entry served fails
  have responses := sound.responses
  rw [servedInputs, served] at responses
  obtain ⟨first, response, others⟩ := responses_around responses
  simp only
  rw [response] at fails
  rcases held_of_failure fails with same | ⟨registry, rooms, message, failure⟩
  · rw [same] at others ⊢
    refine ⟨rfl, rfl, .inr ?_⟩
    rw [inputsOf, List.map_append, List.map_append, operateAll_append, first, others]
    rfl
  · refine ⟨registry, rooms, ?_⟩
    by_cases bucket : (operate config entry.operation entry.inputs
        (operateAll config {} (inputsOf before)).2).2.bucket =
          (operateAll config {} (inputsOf before)).2.bucket
    · have same : (operate config entry.operation entry.inputs
          (operateAll config {} (inputsOf before)).2).2 =
            (operateAll config {} (inputsOf before)).2 := by
        cases left : (operate config entry.operation entry.inputs
          (operateAll config {} (inputsOf before)).2).2
        cases right : (operateAll config {} (inputsOf before)).2
        rw [left, right] at registry rooms bucket
        simp only at registry rooms bucket
        rw [registry, rooms, bucket]
      rw [same] at others
      refine .inr ?_
      rw [inputsOf, List.map_append, List.map_append, operateAll_append, first, others]
      rfl
    · exact .inl ⟨bucket, message, response.trans failure⟩

end SubscribingSocket

/-- In every run of a connected socket the operations take effect one at a time, in the order of
their frames; while none runs, the registry is that of the rooms and what the operations that were
answered with success came to; there are never too many subscriptions; and an operation that fails
changes neither the registry nor the rooms, and later answers only by the rate that it has used. -/
theorem subscriptions_lawful (config : SubscriptionConfig) (actions : List SocketAction) :
    (run (SubscribingSocket.step config) {} actions).Lawful config ∧
      (run (SubscribingSocket.step config) {} actions).Isolated config := by
  have keeps : ∀ (socket : SubscribingSocket) (action : SocketAction), socket.Sound config →
      (socket.step config action).Sound config := fun _ action sound => sound.step action
  have initially : SubscribingSocket.Sound config {} := {
    serial := fun _ _ _ _ found => by cases found
    unchained := fun _ _ found => by cases found
    chained := fun _ _ _ found => by cases found
    loose := fun _ _ inside => absurd inside (Nat.not_lt_zero _)
    last := fun _ tail => by cases tail
    count := fun _ => Iff.intro (fun refuted => by cases refuted)
      (fun inside => absurd inside (Nat.not_lt_zero _))
    order := rfl
    responses := rfl
    registry := rfl
    running := fun _ found => by cases found
    idle := fun _ => rfl }
  have sound := run_invariant (SubscribingSocket.step config) keeps initially actions
  exact ⟨sound.lawful, sound.isolated⟩

/-- One frame is allowed in a second. -/
def oneFrame : SubscriptionConfig where
  maxSubscriptionsPerSocket := 0
  rateLimitMax := 1
  rateLimitWindowMs := 1000
  digest := id
  collisionFree := Function.injective_id

/-- A socket subscribes to two events; the adapter fails to join the first room. -/
def failedJoin : List SocketAction :=
  [.frame ⟨.subscribe, "client:custom.a", "1"⟩, .frame ⟨.subscribe, "client:custom.b", "2"⟩,
    .begin 0, .authenticated 0 (.ok "client") 0, .moved 0 (some none), .resume 0, .removeTail 0,
    .begin 1, .authenticated 1 (.ok "client") 1]

/-- The second subscription would have succeeded without the first, which failed. -/
theorem failed_join_changes_later_outcome :
    ∃ before after entry,
      (run (SubscribingSocket.step oneFrame) {} failedJoin).served = before ++ entry :: after ∧
        entry.response.success = false ∧
          (operateAll oneFrame {} (SubscribingSocket.inputsOf (before ++ after))).1 ≠
            (before ++ after).map (·.response) :=
  ⟨[], _, _, rfl, rfl, by decide⟩

end PlugHub.Subscriptions
