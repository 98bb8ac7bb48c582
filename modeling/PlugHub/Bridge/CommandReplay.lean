import PlugHub.Bridge.Step

/-!
# Repeated commands

What the dispatch of a command decides before its first await: whether the command repeats one
that completed lately, whether it repeats one in flight, and whether its ids can be registered.
Completed commands are remembered for each agent. Commands in flight are found by their ids alone,
in the one map of pending requests, so a command of one agent can be taken for the repetition of a
command of another.
-/

namespace PlugHub.Bridge

open Library Relay Registries

/-! ## Ids of commands -/

/-- A JSON-RPC id. -/
inductive JsonRpcId where
  | text (value : String)
  | number (rendered : String)
  | null

/-- A command: one with its id, or a batch. -/
inductive BridgeCommand where
  | single (id : Option JsonRpcId)
  | batch (ids : List (Option JsonRpcId))

/-- The blanks a trimmed text loses. -/
def isTrimmed (char : Char) : Bool :=
  char.toNat ∈ [0x9, 0xA, 0xB, 0xC, 0xD, 0x20, 0xA0, 0x1680, 0x2028, 0x2029, 0x202F, 0x205F, 0x3000,
    0xFEFF] || (decide (0x2000 ≤ char.toNat) && decide (char.toNat ≤ 0x200A))

/-- A text without the blanks at its ends. -/
def trimText (text : String) : String :=
  String.ofList (((text.toList.dropWhile isTrimmed).reverse.dropWhile isTrimmed).reverse)

/-- The request id of a JSON-RPC id, when it has one. -/
def toRequestId : Option JsonRpcId → Option RequestId
  | some (.text value) => if trimText value ≠ "" then some (trimText value) else none
  | some (.number rendered) => some rendered
  | some .null => none
  | none => none

/-- The ids of a command that expect a response. -/
def toCorrelationIds : BridgeCommand → List RequestId
  | .single id => (toRequestId id).toList
  | .batch ids => ids.filterMap toRequestId

/-- The type of an id. -/
inductive ReplayIdType where
  | number
  | text
deriving DecidableEq

/-- The id a single command is remembered by. -/
structure BridgeCommandReplayId where
  idType : ReplayIdType
  requestId : String
deriving DecidableEq

/-- The id a single command is remembered by; its blanks are kept. -/
def getSingleBridgeCommandReplayId : BridgeCommand → Option BridgeCommandReplayId
  | .batch _ => none
  | .single (some (.text value)) =>
    if value ≠ "" then some { idType := .text, requestId := value } else none
  | .single (some (.number rendered)) => some { idType := .number, requestId := rendered }
  | .single (some .null) => none
  | .single none => none

/-! ## Completed commands -/

/-- Where a completed command is remembered. -/
structure ReplayKey where
  agentId : AgentId
  replayId : BridgeCommandReplayId
deriving DecidableEq

/-- The commands that completed lately, with the end of their windows. -/
abbrev ReplayGuard := OrderedMap ReplayKey Nat

namespace ReplayGuard

/-- The length of the window. -/
def bridgeCommandReplayWindowMs : Nat := 120000

/-- Forget the commands whose windows ended. -/
def pruneExpiredReplayEntries (replays : ReplayGuard) (nowMs : Nat) : ReplayGuard :=
  replays.entries.foldl
    (fun kept entry => if entry.2 ≤ nowMs then OrderedMap.erase kept entry.1 else kept) replays

/-- The completed command of an agent that a command repeats. -/
def getCompletedBridgeCommandReplay (replays : ReplayGuard) (agentId : AgentId)
    (command : BridgeCommand) (nowMs : Nat) : Option BridgeCommandReplayId :=
  match getSingleBridgeCommandReplayId command with
  | none => none
  | some replayId =>
    match (replays.pruneExpiredReplayEntries nowMs).get ⟨agentId, replayId⟩ with
    | none => none
    | some expiresAtMs => if expiresAtMs ≤ nowMs then none else some replayId

/-- Remember a completed command of an agent. -/
def rememberCompletedBridgeCommand (replays : ReplayGuard) (agentId : AgentId)
    (command : BridgeCommand) (nowMs : Nat) : ReplayGuard :=
  match getSingleBridgeCommandReplayId command with
  | none => replays
  | some replayId =>
    (replays.pruneExpiredReplayEntries nowMs).set ⟨agentId, replayId⟩
      (nowMs + bridgeCommandReplayWindowMs)

end ReplayGuard

/-! ## The outcome of a dispatch -/

/-- How a repetition was found. -/
inductive ReplaySource where
  | completedWindow
  | inFlight
deriving DecidableEq

/-- What a dispatch decides before its first await. -/
inductive DispatchOutcome where
  | refused
  | replayDetected (replayId : BridgeCommandReplayId) (source : ReplaySource)
  | notification
  | capacityReached
  | alreadyPending
  | accepted
deriving DecidableEq

/-- A command for an agent, when it is dispatched. -/
structure CommandRequest where
  agentId : AgentId
  socketId : SocketId
  command : BridgeCommand
  preflightOk : Bool := true
  nowMs : Nat := 0

namespace Hub

/-- The request in flight that a single command repeats, whichever agent it was sent to. -/
def inFlightReplay (hub : Hub) (command : BridgeCommand) : Option BridgeCommandReplayId :=
  match getSingleBridgeCommandReplayId command with
  | none => none
  | some replayId =>
    if (toCorrelationIds command).any fun requestId =>
        decide (replayId.requestId = requestId) &&
          (hub.getRestPendingRequestByCorrelationId requestId).isSome then
      some replayId
    else none

/-- What the dispatch of a command decides before its first await. -/
def dispatchOutcome (env : Env) (replays : ReplayGuard) (hub : Hub) (request : CommandRequest) :
    DispatchOutcome :=
  if !request.preflightOk ∨ !hub.isAgentConnected request.socketId then .refused
  else
    match replays.getCompletedBridgeCommandReplay request.agentId request.command
        request.nowMs with
    | some replayId => .replayDetected replayId .completedWindow
    | none =>
      match hub.inFlightReplay request.command with
      | some replayId => .replayDetected replayId .inFlight
      | none =>
        if (toCorrelationIds request.command).isEmpty then .notification
        else if env.socketRestMaxPendingRequests ≤ hub.logicalPendingCount then .capacityReached
        else if (toCorrelationIds request.command).all hub.isCorrelationIdFree then .accepted
        else .alreadyPending

/-- The bridge input a command becomes. -/
def inputOf (replays : ReplayGuard) (hub : Hub) (request : CommandRequest)
    (generatedRequestId : RequestId) : CommandInput :=
  { agentId := request.agentId
    socketId := request.socketId
    generatedRequestId := generatedRequestId
    correlationIds := toCorrelationIds request.command
    isBatch := match request.command with
      | .batch _ => true
      | .single _ => false
    admitted := request.preflightOk &&
      (replays.getCompletedBridgeCommandReplay request.agentId request.command
        request.nowMs).isNone && (hub.inFlightReplay request.command).isNone }

end Hub

end PlugHub.Bridge
