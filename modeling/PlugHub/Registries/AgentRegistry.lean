import PlugHub.Config
import PlugHub.Library.OrderedMap

/-!
# Registered agents

The sessions of agents and the sockets they live on. An agent may register again from another
socket, which takes the session over or is refused, by the policy of the deployment; a socket may
register as another agent, which ends its previous session.

Of an agent the registry keeps its capabilities and times for other readers; they do not decide
which sessions exist and are left out.
-/

namespace PlugHub.Registries

open Library

/-- A registered agent. -/
structure AgentSession where
  agentId : AgentId
  socketId : SocketId
  userId : Option String
deriving DecidableEq

/-- How an agent becomes ready. -/
inductive ProtocolReadyMode where
  | grace
  | explicitAck

/-- What happens when an agent registers while its session lives on another socket. -/
inductive AgentSessionPolicy where
  | rejectActive
  | takeoverDisconnectPrevious
  | legacySilentTakeover
deriving DecidableEq

/-- Why a registration is refused. -/
inductive RegisterRefusal where
  | ownedByAnotherUser
  | sessionActive
deriving DecidableEq

/-- The registry. -/
structure AgentRegistry where
  agents : OrderedMap AgentId AgentSession := .empty
  agentIdBySocketId : OrderedMap SocketId AgentId := .empty
  readyAtByAgentId : OrderedMap AgentId Nat := .empty
  readyTimerByAgentId : OrderedMap AgentId Unit := .empty
  protocolReadyModeByAgentId : OrderedMap AgentId ProtocolReadyMode := .empty

namespace AgentRegistry

/-- Disarm the readiness timer of an agent. -/
def clearReadyTimer (registry : AgentRegistry) (agentId : AgentId) : AgentRegistry :=
  { registry with readyTimerByAgentId := registry.readyTimerByAgentId.erase agentId }

/-- Record how an agent becomes ready. -/
def scheduleProtocolReady (env : Env) (registry : AgentRegistry) (agentId : AgentId)
    (readyMode : ProtocolReadyMode) (nowMs : Nat) : AgentRegistry :=
  let cleared := registry.clearReadyTimer agentId
  let recorded := { cleared with
    protocolReadyModeByAgentId := cleared.protocolReadyModeByAgentId.set agentId readyMode }
  match readyMode with
  | .explicitAck =>
    { recorded with readyAtByAgentId := recorded.readyAtByAgentId.erase agentId }
  | .grace =>
    let timed := { recorded with
      readyAtByAgentId := recorded.readyAtByAgentId.set agentId
        (nowMs + env.socketAgentProtocolReadyGraceMs) }
    if env.socketAgentProtocolReadyGraceMs = 0 then timed
    else { timed with readyTimerByAgentId := timed.readyTimerByAgentId.set agentId () }

/-- A registration. -/
structure RegisterInput where
  agentId : AgentId
  socketId : SocketId
  userId : Option String
  readyMode : ProtocolReadyMode := .grace
  policy : AgentSessionPolicy := .takeoverDisconnectPrevious

/-- The users of two registrations differ. -/
def ownedByAnotherUser (existing : Option AgentSession) (userId : Option String) : Bool :=
  match existing, userId with
  | some session, some user =>
    match session.userId with
    | some owner => decide (owner ≠ user)
    | none => false
  | _, _ => false

/-- The session of an agent that registers lives on another socket. -/
def livesElsewhere (existing : Option AgentSession) (socketId : SocketId) : Option SocketId :=
  match existing with
  | some session => if session.socketId = socketId then none else some session.socketId
  | none => none

/-- End the session of the agent a socket registered as before. -/
def endPreviousAgent (registry : AgentRegistry) (input : RegisterInput) : AgentRegistry :=
  match registry.agentIdBySocketId.get input.socketId with
  | some previous =>
    if previous = input.agentId then registry
    else
      let cleared := registry.clearReadyTimer previous
      { cleared with
        readyAtByAgentId := cleared.readyAtByAgentId.erase previous
        protocolReadyModeByAgentId := cleared.protocolReadyModeByAgentId.erase previous
        agents := cleared.agents.erase previous }
  | none => registry

/-- Store the session of an agent. -/
def storeSession (env : Env) (registry : AgentRegistry) (input : RegisterInput) (nowMs : Nat) :
    AgentRegistry :=
  { registry with
    agents := registry.agents.set input.agentId
      { agentId := input.agentId, socketId := input.socketId, userId := input.userId }
    agentIdBySocketId := registry.agentIdBySocketId.set input.socketId
      input.agentId }.scheduleProtocolReady env input.agentId input.readyMode nowMs

/-- Register an agent. -/
def registerAgentSession (env : Env) (registry : AgentRegistry) (input : RegisterInput)
    (isPeerConnected : SocketId → Bool) (nowMs : Nat) :
    AgentRegistry × Except RegisterRefusal (Option SocketId) :=
  let existing := registry.agents.get input.agentId
  if ownedByAnotherUser existing input.userId then (registry, .error .ownedByAnotherUser)
  else
    let ended := registry.endPreviousAgent input
    match livesElsewhere existing input.socketId with
    | none => (ended.storeSession env input nowMs, .ok none)
    | some peer =>
      if isPeerConnected peer && decide (input.policy = .rejectActive) then
        (ended, .error .sessionActive)
      else
        ({ ended with
            agentIdBySocketId := ended.agentIdBySocketId.erase peer }.storeSession env input nowMs,
          .ok (if isPeerConnected peer then some peer else none))

/-- Whether a registration would be refused because the session of the agent lives on another
connected socket. The handler asks this before it counts the attempt. -/
def wouldRejectActiveSession (registry : AgentRegistry) (agentId : AgentId) (socketId : SocketId)
    (policy : AgentSessionPolicy) (isPeerConnected : SocketId → Bool) : Bool :=
  if policy ≠ .rejectActive then false
  else
    match registry.agents.get agentId with
    | none => false
    | some existing =>
      if existing.socketId = socketId then false else isPeerConnected existing.socketId

/-- An agent shows that it lives; it may announce that it is ready. Answers whether it is
registered, on the socket that is named if one is. -/
def touchLiveness (registry : AgentRegistry) (agentId : AgentId) (markProtocolReady : Bool)
    (socketId : Option SocketId) (nowMs : Nat) : AgentRegistry × Bool :=
  match registry.agents.get agentId with
  | none => (registry, false)
  | some existing =>
    if socketId.isSome ∧ socketId ≠ some existing.socketId then (registry, false)
    else if markProtocolReady then
      let cleared := registry.clearReadyTimer agentId
      ({ cleared with readyAtByAgentId := cleared.readyAtByAgentId.set agentId nowMs }, true)
    else (registry, true)

/-- The readiness timer of an agent fires, if it is armed. -/
def readyTimerFires (registry : AgentRegistry) (agentId : AgentId) (nowMs : Nat) : AgentRegistry :=
  match registry.readyTimerByAgentId.get agentId with
  | none => registry
  | some _ =>
    { registry with
      readyTimerByAgentId := registry.readyTimerByAgentId.erase agentId
      readyAtByAgentId := registry.readyAtByAgentId.set agentId nowMs }

/-- End the session of a socket. -/
def removeBySocketId (registry : AgentRegistry) (socketId : SocketId) : AgentRegistry :=
  match registry.agentIdBySocketId.get socketId with
  | none => registry
  | some agentId =>
    let forgotten := { registry with
      agentIdBySocketId := registry.agentIdBySocketId.erase socketId }
    match registry.agents.get agentId with
    | none => forgotten
    | some _ =>
      let cleared := forgotten.clearReadyTimer agentId
      { cleared with
        readyAtByAgentId := cleared.readyAtByAgentId.erase agentId
        protocolReadyModeByAgentId := cleared.protocolReadyModeByAgentId.erase agentId
        agents := cleared.agents.erase agentId }

/-- The agent whose session lives on a socket. -/
def getAgentIdBySocketId (registry : AgentRegistry) (socketId : SocketId) : Option AgentId :=
  match registry.agentIdBySocketId.get socketId with
  | none => none
  | some agentId =>
    match registry.agents.get agentId with
    | none => none
    | some session => if session.socketId = socketId then some agentId else none

end AgentRegistry

end PlugHub.Registries
