import PlugHub.Library.Index
import PlugHub.Library.Runs
import PlugHub.Registries.AgentRegistry

/-!
# The ingress guard

Frames of agents are admitted against budgets: one for each socket, until the socket registers as
an agent, and one for each agent from then on. A budget counts the frames and bytes of a window
and the frames that were admitted and not released. The key of a socket is looked up at every
frame, so it follows registrations, take-overs and removals.

A frame that is admitted gets a release function, which remembers the budget it was charged to as
an object. An object that left the map of budgets is only reached by release functions, and
nothing reads it any more; objects are told apart by a number. Logs and counters of rejections are
left out.
-/

namespace PlugHub.Inbound

open Library Registries

/-- The key of a budget. -/
inductive BudgetKey where
  | socket (socketId : SocketId)
  | agent (agentId : AgentId)
deriving DecidableEq

/-- The events of agents that are guarded. -/
inductive AgentInboundGuardEvent where
  | rpcResponse
  | rpcChunk
  | rpcComplete
  | rpcRequestAck
  | rpcBatchAck

/-- The classes of events. -/
inductive AgentInboundGuardClass where
  | ack
  | unary
  | stream
deriving DecidableEq

/-- What a class used in the window. -/
structure ClassBudget where
  frames : Nat := 0
  compressedBytes : Nat := 0
  decodedBytes : Nat := 0

/-- A budget. -/
structure SocketGuardState where
  ref : Nat
  windowStartedAtMs : Nat
  pendingWork : Nat := 0
  consecutiveViolations : Nat := 0
  byClass : AgentInboundGuardClass → ClassBudget := fun _ => {}

/-- A frame that was admitted and charged, with what its release function remembers. -/
structure GuardedFrame where
  socketId : SocketId
  key : BudgetKey
  state : Nat
  released : Bool := false
  disconnected : Bool := false

/-- The guard. -/
structure IngressGuard where
  registry : AgentRegistry := {}
  stateByKey : OrderedMap BudgetKey SocketGuardState := .empty
  budgetKeyBySocketId : OrderedMap SocketId BudgetKey := .empty
  socketsByBudgetKey : Index BudgetKey SocketId := .empty
  pendingWorkBySocketId : Counter SocketId := .empty
  pendingWork : Nat := 0
  frames : OrderedMap Nat GuardedFrame := .empty
  nextFrame : Nat := 0
  nextState : Nat := 0

namespace IngressGuard

/-- The length of a window. -/
def windowMs : Nat := 1000

/-- The key of a socket, by its registration. -/
def resolveBudgetKey (guard : IngressGuard) (socketId : SocketId) : BudgetKey :=
  match guard.registry.getAgentIdBySocketId socketId with
  | some agentId => .agent agentId
  | none => .socket socketId

/-- Leave the previous key of a socket; the budget of a socket key goes with its last socket. -/
def leaveKey (guard : IngressGuard) (socketId : SocketId) (previous : BudgetKey) : IngressGuard :=
  let left := { guard with
    socketsByBudgetKey := guard.socketsByBudgetKey.removeFromIndex previous socketId }
  match guard.socketsByBudgetKey.get previous, previous with
  | some _, .socket _ =>
    if left.socketsByBudgetKey.members previous = [] then
      { left with stateByKey := left.stateByKey.erase previous }
    else left
  | _, _ => left

/-- Remember the key of a socket. -/
def trackSocketBudgetKey (guard : IngressGuard) (socketId : SocketId) (budgetKey : BudgetKey) :
    IngressGuard :=
  if guard.budgetKeyBySocketId.get socketId = some budgetKey then guard
  else
    let left :=
      match guard.budgetKeyBySocketId.get socketId with
      | some previous => guard.leaveKey socketId previous
      | none => guard
    { left with
      budgetKeyBySocketId := left.budgetKeyBySocketId.set socketId budgetKey
      socketsByBudgetKey := left.socketsByBudgetKey.addToIndex budgetKey socketId }

/-- The class of an event. -/
def classifyEvent : AgentInboundGuardEvent → AgentInboundGuardClass
  | .rpcRequestAck => .ack
  | .rpcBatchAck => .ack
  | .rpcChunk => .stream
  | .rpcComplete => .stream
  | .rpcResponse => .unary

/-- The budget of a key, in the window of now. -/
def currentState (guard : IngressGuard) (budgetKey : BudgetKey) (nowMs : Nat) : SocketGuardState :=
  match guard.stateByKey.get budgetKey with
  | none => { ref := guard.nextState, windowStartedAtMs := nowMs }
  | some existing =>
    if windowMs ≤ nowMs - existing.windowStartedAtMs then
      { existing with windowStartedAtMs := nowMs, byClass := fun _ => {} }
    else existing

/-- Store a budget. -/
def putState (guard : IngressGuard) (budgetKey : BudgetKey) (state : SocketGuardState) :
    IngressGuard :=
  { guard with
    stateByKey := guard.stateByKey.set budgetKey state
    nextState := guard.nextState + 1 }

/-- The sizes a frame declares; a payload that is no frame declares none. -/
structure DeclaredSizes where
  compressedSize : Nat
  originalSize : Nat

/-- Why a frame violates its budget. -/
inductive ViolationReason where
  | invalidFrame
  | pendingWork
  | frames
  | compressedBytes
  | decodedBytes
deriving DecidableEq

/-- Why a frame violates its budget, if it does. -/
def violation (env : Env) (state : SocketGuardState) (guardClass : AgentInboundGuardClass)
    (sizes : Option DeclaredSizes) : Option ViolationReason :=
  match sizes with
  | none => some .invalidFrame
  | some declared =>
    let classBudget := state.byClass guardClass
    let maxFrames :=
      if guardClass = .ack then env.socketAgentInboundMaxAckFramesPerWindow
      else env.socketAgentInboundMaxFramesPerWindow
    let maxCompressed := env.socketAgentInboundMaxCompressedBytesPerWindow
    let maxDecoded := env.socketAgentInboundMaxDecodedBytesPerWindow
    let maxPending := env.socketAgentInboundMaxPendingWork
    if 0 < maxPending ∧ maxPending ≤ state.pendingWork then some .pendingWork
    else if 0 < maxFrames ∧ maxFrames ≤ classBudget.frames then some .frames
    else if 0 < maxCompressed ∧
        maxCompressed < classBudget.compressedBytes + declared.compressedSize then
      some .compressedBytes
    else if 0 < maxDecoded ∧ maxDecoded < classBudget.decodedBytes + declared.originalSize then
      some .decodedBytes
    else none

/-- A budget after one more frame in the window. -/
def useWindow (state : SocketGuardState) (guardClass : AgentInboundGuardClass)
    (sizes : DeclaredSizes) : SocketGuardState :=
  { state with byClass := fun other =>
      if other = guardClass then
        { frames := (state.byClass guardClass).frames + 1
          compressedBytes := (state.byClass guardClass).compressedBytes + sizes.compressedSize
          decodedBytes := (state.byClass guardClass).decodedBytes + sizes.originalSize }
      else state.byClass other }

/-- Charge a frame to a budget. -/
def charge (guard : IngressGuard) (socketId : SocketId) (budgetKey : BudgetKey)
    (state : SocketGuardState) : IngressGuard :=
  let stored := guard.putState budgetKey { state with pendingWork := state.pendingWork + 1 }
  { stored with
    pendingWork := stored.pendingWork + 1
    pendingWorkBySocketId := stored.pendingWorkBySocketId.increment socketId
    frames := stored.frames.set stored.nextFrame
      { socketId := socketId, key := budgetKey, state := state.ref }
    nextFrame := stored.nextFrame + 1 }

/-- The answer to a frame. -/
inductive AdmitDecision where
  | charged
  | uncharged
  | refused (reason : ViolationReason) (disconnect : Bool)

/-- Admit a frame or turn it away. -/
def admitAgentInboundFrame (env : Env) (guard : IngressGuard) (socketId : SocketId)
    (event : AgentInboundGuardEvent) (sizes : Option DeclaredSizes) (nowMs : Nat) :
    IngressGuard × AdmitDecision :=
  let budgetKey := guard.resolveBudgetKey socketId
  let tracked := guard.trackSocketBudgetKey socketId budgetKey
  let state := tracked.currentState budgetKey nowMs
  let guardClass := classifyEvent event
  match violation env state guardClass sizes with
  | none =>
    match sizes with
    | some declared =>
      (tracked.charge socketId budgetKey
        (useWindow { state with consecutiveViolations := 0 } guardClass declared), .charged)
    | none => (tracked, .uncharged)
  | some reason =>
    let violated := { state with consecutiveViolations := state.consecutiveViolations + 1 }
    match env.socketAgentInboundGuardMode, sizes with
    | .enforce, _ =>
      (tracked.putState budgetKey violated,
        .refused reason (decide (0 < env.socketAgentInboundViolationsBeforeDisconnect ∧
          env.socketAgentInboundViolationsBeforeDisconnect ≤ violated.consecutiveViolations)))
    | .observe, none => (tracked.putState budgetKey violated, .uncharged)
    | .observe, some declared =>
      (tracked.charge socketId budgetKey (useWindow violated guardClass declared), .charged)

/-- Take one frame off a budget, when the object is still in the map. -/
def discharge (guard : IngressGuard) (frame : GuardedFrame) :
    OrderedMap BudgetKey SocketGuardState :=
  match guard.stateByKey.get frame.key with
  | none => guard.stateByKey
  | some state =>
    if state.ref = frame.state then
      guard.stateByKey.set frame.key { state with pendingWork := state.pendingWork - 1 }
    else guard.stateByKey

/-- The release function of a frame is called. -/
def release (guard : IngressGuard) (ref : Nat) : IngressGuard :=
  match guard.frames.get ref with
  | none => guard
  | some frame =>
    if frame.released then guard
    else
      let called := { guard with
        frames := guard.frames.set ref { frame with released := true } }
      match guard.pendingWorkBySocketId.get frame.socketId with
      | none => called
      | some tracked =>
        { called with
          stateByKey := guard.discharge frame
          pendingWork := guard.pendingWork - 1
          pendingWorkBySocketId :=
            if tracked - 1 = 0 then guard.pendingWorkBySocketId.erase frame.socketId
            else guard.pendingWorkBySocketId.set frame.socketId (tracked - 1) }

/-- The key under which a socket is cleaned up. -/
def keyOf (guard : IngressGuard) (socketId : SocketId) : BudgetKey :=
  (guard.budgetKeyBySocketId.get socketId).getD (.socket socketId)

/-- Give the pending frames of a socket back to a budget. -/
def returnPending (guard : IngressGuard) (budgetKey : BudgetKey) (socketPending : Nat) :
    IngressGuard :=
  match guard.stateByKey.get budgetKey with
  | none => guard
  | some state =>
    if 0 < socketPending then
      { guard with
        stateByKey := guard.stateByKey.set budgetKey
          { state with pendingWork := state.pendingWork - socketPending }
        pendingWork := guard.pendingWork - socketPending }
    else guard

/-- A frame when a socket disconnected. -/
def markDisconnected (socketId : SocketId) (frame : GuardedFrame) : GuardedFrame :=
  { frame with disconnected := frame.disconnected || decide (frame.socketId = socketId) }

/-- Forget a socket that disconnected. -/
def cleanupAgentInboundIngressSocket (guard : IngressGuard) (socketId : SocketId) :
    IngressGuard :=
  let budgetKey := guard.keyOf socketId
  let socketPending := guard.pendingWorkBySocketId.read socketId
  let returned := guard.returnPending budgetKey socketPending
  let sockets := returned.socketsByBudgetKey.removeFromIndex budgetKey socketId
  let own := returned.stateByKey.erase (.socket socketId)
  { returned with
    pendingWorkBySocketId := returned.pendingWorkBySocketId.erase socketId
    budgetKeyBySocketId := returned.budgetKeyBySocketId.erase socketId
    socketsByBudgetKey := sockets
    stateByKey := if sockets.members budgetKey = [] then own.erase budgetKey else own
    frames := returned.frames.mapValues (markDisconnected socketId) }

/-- What can happen. -/
inductive Action where
  | admitFrame (socketId : SocketId) (event : AgentInboundGuardEvent) (sizes : Option DeclaredSizes)
      (nowMs : Nat)
  | release (ref : Nat)
  | register (input : AgentRegistry.RegisterInput) (isPeerConnected : SocketId → Bool) (nowMs : Nat)
  | unregister (socketId : SocketId)
  | disconnect (socketId : SocketId)

/-- One step. -/
def step (env : Env) (guard : IngressGuard) : Action → IngressGuard
  | .admitFrame socketId event sizes nowMs =>
    (guard.admitAgentInboundFrame env socketId event sizes nowMs).1
  | .release ref => guard.release ref
  | .register input isPeerConnected nowMs =>
    { guard with
      registry := (guard.registry.registerAgentSession env input isPeerConnected nowMs).1 }
  | .unregister socketId => { guard with registry := guard.registry.removeBySocketId socketId }
  | .disconnect socketId => guard.cleanupAgentInboundIngressSocket socketId

end IngressGuard

end PlugHub.Inbound
