import PlugHub.Bridge.Outbound
import PlugHub.Library.Runs

/-!
# The bridge as a state machine

Everything that can happen to the bridge between two states of the event loop: connects and
disconnects, requests and pulls of consumers, frames of agents, timers, continuations of
suspended dispatches and segments of outbound jobs. A step that is not enabled leaves the
bridge as it is, so every list of actions is a run.
-/

namespace PlugHub.Bridge

open Library Relay Registries Hub

/-- One thing that happens. -/
inductive Action where
  | tick (ms : Nat)
  | agentConnects (socketId : SocketId)
  | agentDisconnects (socketId : SocketId)
  | consumerConnects (socketId : SocketId)
  | consumerDisconnects (socketId : SocketId)
  /-- A consumer that exceeds the hard byte limit loses its streams and relay requests. -/
  | consumerOverHardLimit (socketId : SocketId)
  | conversationStarts (conversation : Conversation)
  | conversationEnds (conversationId : ConversationId)
  | relayRequest (input : RelayDispatchInput)
  | relayDispatchResumes (requestId : RequestId) (emitOk : Bool)
  | relayQueueWaitExpires (requestId : RequestId)
  | relayTimeoutFires (requestId : RequestId)
  | relayAckRetryFires (requestId : RequestId)
  | streamTimeoutFires (requestId : RequestId) (timer : StreamTimer)
  | backpressureRetryFires (requestId : RequestId)
  | pullPrepared (input : PullInput)
  | pullExecuted (pull : Nat)
  | command (input : CommandInput)
  | restDispatchResumes (dispatch : Nat) (encodeOk emitOk : Bool)
  | restQueueWaitExpires (dispatch : Nat)
  | restTimeoutFires (dispatch : Nat)
  | restAckRetryFires (dispatch : Nat)
  | restAborted (dispatch : Nat)
  /-- A response of an agent is refused at the door or cannot be decoded. -/
  | agentResponseInvalid (socketId : SocketId) (frameRequestId : Option RequestId)
      (reason : String)
  | agentResponseThrew (socketId : SocketId) (frameRequestId : Option RequestId)
      (reason : String)
  | agentResponse (socketId : SocketId) (response : AgentResponse) (policy : ResponsePolicy)
  /-- A stream frame of an agent is refused at the door or cannot be decoded. -/
  | agentStreamFrameInvalid (socketId : SocketId) (eventName : String)
      (frameRequestId : Option RequestId) (reason : String)
  | agentChunk (socketId : SocketId) (frame : AgentStreamFrame)
  | agentComplete (socketId : SocketId) (frame : AgentStreamFrame)
  | agentAck (socketId : SocketId) (requestId : RequestId)
  | agentBatchAck (socketId : SocketId) (requestIds : List RequestId)
  | outboundRuns (requestId : RequestId) (answers : OutboundAnswers)
  | idempotencyPruned

/-- A consumer starts a conversation with an agent; its id is generated and new. -/
def Hub.conversationStarts (hub : Hub) (conversation : Conversation) : Hub :=
  if conversation.conversationId ∈ hub.usedConversationIds then hub
  else
    { hub with
      conversations := hub.conversations.set conversation.conversationId conversation
      usedConversationIds := conversation.conversationId :: hub.usedConversationIds }

/-- One step of the bridge. -/
def step (env : Env) (hub : Hub) : Action → Hub
  | .tick ms => { hub with nowMs := hub.nowMs + ms }
  | .agentConnects socketId => { hub with agentSockets := socketId :: hub.agentSockets }
  | .agentDisconnects socketId => hub.agentDisconnects env socketId
  | .consumerConnects socketId => { hub with consumerSockets := socketId :: hub.consumerSockets }
  | .consumerDisconnects socketId => hub.consumerDisconnects env socketId
  | .consumerOverHardLimit socketId => hub.cleanupConsumerStreamSubscriptions env socketId
  | .conversationStarts conversation => hub.conversationStarts conversation
  | .conversationEnds conversationId => hub.conversationEnds env conversationId
  | .relayRequest input => hub.dispatchRelayRpcToAgent env input
  | .relayDispatchResumes requestId emitOk => hub.resumeRelayDispatch env requestId emitOk
  | .relayQueueWaitExpires requestId => hub.relayQueueWaitExpires requestId
  | .relayTimeoutFires requestId => hub.relayTimeoutFires env requestId
  | .relayAckRetryFires requestId => hub.relayAckRetryFires env requestId
  | .streamTimeoutFires requestId timer => hub.relayStreamTimeoutFires env requestId timer
  | .backpressureRetryFires requestId => hub.backpressureRetryFires env requestId
  | .pullPrepared input => hub.prepareAgentStreamPull env input
  | .pullExecuted pull => hub.executeStreamPull env pull
  | .command input => hub.dispatchRpcCommandToAgent env input
  | .restDispatchResumes dispatch encodeOk emitOk =>
    hub.resumeRestDispatch env dispatch encodeOk emitOk
  | .restQueueWaitExpires dispatch => hub.restQueueWaitExpires dispatch
  | .restTimeoutFires dispatch => hub.restTimeoutFires dispatch
  | .restAckRetryFires dispatch => hub.restAckRetryFires env dispatch
  | .restAborted dispatch => hub.abortRestDispatch dispatch
  | .agentResponseInvalid socketId frameRequestId reason =>
    hub.failFastInvalidAgentResponseFrame env socketId frameRequestId reason
  | .agentResponseThrew socketId frameRequestId reason =>
    hub.failFastUnexpectedAgentResponseError env socketId frameRequestId reason
  | .agentResponse socketId response policy =>
    hub.handleAgentRpcResponse env socketId response policy
  | .agentStreamFrameInvalid socketId eventName frameRequestId reason =>
    hub.failFastInvalidAgentStreamFrame env eventName socketId frameRequestId reason
  | .agentChunk socketId frame => hub.handleAgentRpcChunk env socketId frame
  | .agentComplete socketId frame => hub.handleAgentRpcComplete env socketId frame
  | .agentAck socketId requestId => hub.handleAgentRpcAck env socketId requestId
  | .agentBatchAck socketId requestIds => hub.handleAgentBatchAck env socketId requestIds
  | .outboundRuns requestId answers => hub.runOutbound env requestId answers
  | .idempotencyPruned =>
    { hub with
      idempotency := hub.idempotency.pruneExpiredRelayIdempotencyEntries hub.nowMs
        hub.relay.hasRelayRequestRoute }

/-- The bridge at its start. -/
def start : Hub := {}

/-- The bridge after a run from its start. -/
abbrev reached (env : Env) (actions : List Action) : Hub := run (step env) start actions

end PlugHub.Bridge
