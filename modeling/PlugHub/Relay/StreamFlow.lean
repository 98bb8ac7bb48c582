import Mathlib.Algebra.GroupWithZero.Nat
import PlugHub.Config
import PlugHub.Library.OrderedMap

/-!
# Relay stream backpressure state

Credits, buffered chunks and the deferred complete frame of every relay stream, and the
drain that moves buffered chunks to the consumer. The buffer of an entry is the source's
four parallel arrays with a head index: delivered slots are released in place and the
arrays are cut when the head has passed enough of them.

A drain suspends at every frame encoding. Between two suspensions it runs without
interleaving, so it is modelled as a start and one resumption for each encoding, with the
answers of the outside (does the route still exist, did the encoder succeed, did the
transport take the frame) as arguments of the segment that reads them.
-/

namespace PlugHub.Relay

open Library

/-- The agent's original frame bytes, kept to forward a chunk unchanged. -/
structure RelayChunkRawForward where
  bytes : String
  gzip : Bool
  /-- The compressed wire payload and its original size, when it can be reused. -/
  wireBytes : Option (String × Nat) := none
deriving DecidableEq

/-- A stream frame the agent sent: a chunk or a complete. -/
structure StreamPayload where
  rowCount : Nat := 0
  streamId : Option StreamId := none
  requestId : Option RequestId := none
  body : String := ""
deriving DecidableEq

/-- The statistics kept when the parsed record is dropped from the buffer. -/
structure RelayBufferedChunkMeta where
  rowCount : Nat
  streamId : Option StreamId
deriving DecidableEq

/-- The flow state of one relay stream. -/
structure RelayStreamFlowEntry where
  credits : Nat := 0
  /-- Parsed records; absent when the raw bytes are kept instead or were delivered. -/
  bufferedChunks : List (Option StreamPayload) := []
  bufferedChunkBytes : List Nat := []
  bufferedChunkRawForward : List (Option RelayChunkRawForward) := []
  bufferedChunkMeta : List RelayBufferedChunkMeta := []
  bufferedChunkHead : Nat := 0
  bufferedBytes : Nat := 0
  pendingComplete : Option StreamPayload := none
  pendingCompleteRawForward : Option RelayChunkRawForward := none
  forwardedRows : Nat := 0

/-- The flow entries of all relay streams and their totals. -/
structure FlowState where
  entriesByRequestId : OrderedMap RequestId RelayStreamFlowEntry := .empty
  globalTotalBufferedChunks : Nat := 0
  globalTotalBufferedBytes : Nat := 0

namespace FlowState

/-- The entry of a request, created empty when there is none. -/
def ensureRelayStreamFlowEntry (flow : FlowState) (requestId : RequestId) : FlowState :=
  match flow.entriesByRequestId.get requestId with
  | some _ => flow
  | none => { flow with entriesByRequestId := flow.entriesByRequestId.set requestId {} }

/-- Change the entry of a request; nothing happens without an entry. -/
def updateEntry (flow : FlowState) (requestId : RequestId)
    (change : RelayStreamFlowEntry → RelayStreamFlowEntry) : FlowState :=
  { flow with entriesByRequestId := flow.entriesByRequestId.modify requestId change }

/-- Store a credit balance. -/
def setRelayStreamFlowCredits (flow : FlowState) (requestId : RequestId) (credits : Nat) :
    FlowState :=
  (flow.ensureRelayStreamFlowEntry requestId).updateEntry requestId
    ({ · with credits := credits })

/-- The stored credit balance; a request without an entry has none. -/
def getRelayStreamFlowCredits (flow : FlowState) (requestId : RequestId) : Nat :=
  ((flow.entriesByRequestId.get requestId).map (·.credits)).getD 0

/-- The largest credit balance of one request. -/
def maxFlowCreditsPerRequest (env : Env) : Nat := max 1 env.socketRestStreamPullMaxWindowSize

/-- Grant credits, up to the largest balance. -/
def addRelayStreamFlowCredits (env : Env) (flow : FlowState) (requestId : RequestId)
    (delta : Nat) : FlowState :=
  (flow.ensureRelayStreamFlowEntry requestId).updateEntry requestId fun entry =>
    { entry with credits := min (maxFlowCreditsPerRequest env) (entry.credits + delta) }

/-- The number of undelivered chunks. -/
def getRelayStreamBufferedChunkCount (flow : FlowState) (requestId : RequestId) : Nat :=
  ((flow.entriesByRequestId.get requestId).map fun entry =>
    entry.bufferedChunks.length - entry.bufferedChunkHead).getD 0

/-- The bytes of the undelivered chunks. -/
def getRelayStreamBufferedBytes (flow : FlowState) (requestId : RequestId) : Nat :=
  ((flow.entriesByRequestId.get requestId).map (·.bufferedBytes)).getD 0

/-- An entry with one more chunk; the parsed record is dropped when its raw bytes are kept. -/
def bufferChunk (chunk : StreamPayload) (byteLength : Nat)
    (rawForward : Option RelayChunkRawForward) (entry : RelayStreamFlowEntry) :
    RelayStreamFlowEntry :=
  { entry with
    bufferedChunks := entry.bufferedChunks ++ [if rawForward.isSome then none else some chunk]
    bufferedChunkBytes := entry.bufferedChunkBytes ++ [byteLength]
    bufferedChunkRawForward := entry.bufferedChunkRawForward ++ [rawForward]
    bufferedChunkMeta := entry.bufferedChunkMeta ++ [⟨chunk.rowCount, chunk.streamId⟩]
    bufferedBytes := entry.bufferedBytes + byteLength }

/-- Buffer a chunk of a request and count it in the totals. -/
def addRelayStreamBufferedChunk (flow : FlowState) (requestId : RequestId)
    (chunk : StreamPayload) (byteLength : Nat) (rawForward : Option RelayChunkRawForward) :
    FlowState :=
  let stored := (flow.ensureRelayStreamFlowEntry requestId).updateEntry requestId
    (bufferChunk chunk byteLength rawForward)
  { stored with
    globalTotalBufferedChunks := stored.globalTotalBufferedChunks + 1
    globalTotalBufferedBytes := stored.globalTotalBufferedBytes + byteLength }

/-- The arrays after the head moved past one delivered slot: emptied when nothing is left,
cut when at least 64 slots and half of the array were delivered. -/
def compactBuffer (entry : RelayStreamFlowEntry) : RelayStreamFlowEntry :=
  if entry.bufferedChunks.length ≤ entry.bufferedChunkHead then
    { entry with
      bufferedChunks := []
      bufferedChunkBytes := []
      bufferedChunkRawForward := []
      bufferedChunkMeta := []
      bufferedChunkHead := 0 }
  else if 64 ≤ entry.bufferedChunkHead ∧
      entry.bufferedChunks.length ≤ entry.bufferedChunkHead * 2 then
    { entry with
      bufferedChunks := entry.bufferedChunks.drop entry.bufferedChunkHead
      bufferedChunkBytes := entry.bufferedChunkBytes.drop entry.bufferedChunkHead
      bufferedChunkRawForward := entry.bufferedChunkRawForward.drop entry.bufferedChunkHead
      bufferedChunkMeta := entry.bufferedChunkMeta.drop entry.bufferedChunkHead
      bufferedChunkHead := 0 }
  else entry

/-- Deliver the head chunk of an entry: its slot is released at once. -/
def popEntry (entry : RelayStreamFlowEntry) : RelayStreamFlowEntry :=
  let head := entry.bufferedChunkHead
  compactBuffer
    { entry with
      bufferedChunks := entry.bufferedChunks.set head none
      bufferedChunkRawForward := entry.bufferedChunkRawForward.set head none
      bufferedChunkHead := head + 1
      bufferedBytes := entry.bufferedBytes - (entry.bufferedChunkBytes[head]?.getD 0) }

/-- Deliver the head chunk of a request. -/
def popRelayStreamBufferedChunk (flow : FlowState) (requestId : RequestId) : FlowState :=
  match flow.entriesByRequestId.get requestId with
  | none => flow
  | some entry =>
    if entry.bufferedChunks.length ≤ entry.bufferedChunkHead then flow
    else
      { entriesByRequestId := flow.entriesByRequestId.set requestId (popEntry entry)
        globalTotalBufferedChunks := flow.globalTotalBufferedChunks - 1
        globalTotalBufferedBytes := flow.globalTotalBufferedBytes -
          (entry.bufferedChunkBytes[entry.bufferedChunkHead]?.getD 0) }

/-- What the head slot of a buffer holds. -/
structure PeekedChunk where
  chunk : Option StreamPayload
  chunkMeta : Option RelayBufferedChunkMeta
  rawForward : Option RelayChunkRawForward

/-- Look at the head slot of a request. -/
def peekRelayStreamBufferedChunk (flow : FlowState) (requestId : RequestId) :
    Option PeekedChunk :=
  match flow.entriesByRequestId.get requestId with
  | none => none
  | some entry =>
    if entry.bufferedChunks.length ≤ entry.bufferedChunkHead then none
    else some
      { chunk := (entry.bufferedChunks[entry.bufferedChunkHead]?).join
        chunkMeta := entry.bufferedChunkMeta[entry.bufferedChunkHead]?
        rawForward := (entry.bufferedChunkRawForward[entry.bufferedChunkHead]?).join }

/-- The complete frame that waits for the buffer. -/
def getRelayStreamPendingComplete (flow : FlowState) (requestId : RequestId) :
    Option StreamPayload :=
  (flow.entriesByRequestId.get requestId).bind (·.pendingComplete)

/-- Defer a complete frame. -/
def setRelayStreamPendingComplete (flow : FlowState) (requestId : RequestId)
    (complete : StreamPayload) (rawForward : Option RelayChunkRawForward) : FlowState :=
  (flow.ensureRelayStreamFlowEntry requestId).updateEntry requestId
    ({ · with pendingComplete := some complete, pendingCompleteRawForward := rawForward })

/-- Forget the deferred complete frame. -/
def clearRelayStreamPendingComplete (flow : FlowState) (requestId : RequestId) : FlowState :=
  flow.updateEntry requestId
    ({ · with pendingComplete := none, pendingCompleteRawForward := none })

/-- Rows delivered so far. -/
def getRelayStreamForwardedRows (flow : FlowState) (requestId : RequestId) : Nat :=
  ((flow.entriesByRequestId.get requestId).map (·.forwardedRows)).getD 0

/-- Count delivered rows. -/
def addRelayStreamForwardedRows (flow : FlowState) (requestId : RequestId) (delta : Nat) :
    FlowState :=
  (flow.ensureRelayStreamFlowEntry requestId).updateEntry requestId fun entry =>
    { entry with forwardedRows := entry.forwardedRows + delta }

/-- Rows that are buffered and not delivered. -/
def countRelayStreamBufferedRows (flow : FlowState) (requestId : RequestId) : Nat :=
  match flow.entriesByRequestId.get requestId with
  | none => 0
  | some entry => ((entry.bufferedChunkMeta.drop entry.bufferedChunkHead).map (·.rowCount)).sum

/-- Chunks and rows an abort drops, the rejected chunk included. -/
def countRelayStreamAbortDropped (flow : FlowState) (requestId : RequestId)
    (rejectingPayload : Option StreamPayload) : Nat × Nat :=
  (flow.getRelayStreamBufferedChunkCount requestId + (if rejectingPayload.isSome then 1 else 0),
    flow.countRelayStreamBufferedRows requestId + ((rejectingPayload.map (·.rowCount)).getD 0))

/-- Forget the flow state of a request and take its chunks out of the totals. -/
def clearRelayStreamFlowState (flow : FlowState) (requestId : RequestId) : FlowState :=
  match flow.entriesByRequestId.get requestId with
  | none => flow
  | some entry =>
    let left := { flow with entriesByRequestId := flow.entriesByRequestId.erase requestId }
    if entry.bufferedChunkHead < entry.bufferedChunks.length then
      { left with
        globalTotalBufferedChunks := flow.globalTotalBufferedChunks -
          (entry.bufferedChunks.length - entry.bufferedChunkHead)
        globalTotalBufferedBytes := flow.globalTotalBufferedBytes - entry.bufferedBytes }
    else left

end FlowState

/-! ## The drain -/

/-- What a drain returns to its scheduler. -/
structure DrainResult where
  chunksDrained : Nat := 0
  completeEmitted : Bool := false
  pausedForBackpressure : Bool := false
deriving DecidableEq

/-- Where a drain is suspended: always at the encoding of one frame. -/
inductive DrainPoint where
  /-- Encoding the head chunk, with the loop's own credit balance and emission count. -/
  | encodingChunk (credits chunksDrained : Nat) (rowCount : Nat)
  | encodingComplete (chunksDrained : Nat) (streamId : Option StreamId)
deriving DecidableEq

/-- How a segment of a drain ends. -/
inductive DrainStatus where
  | suspended (point : DrainPoint)
  | finished (result : DrainResult)
  | consumerGone (result : DrainResult)
  | completed (result : DrainResult) (streamId : Option StreamId)
  | rejected

/-- The tail of a drain: with an empty buffer the deferred complete frame is encoded. -/
def drainTail (flow : FlowState) (requestId : RequestId) (chunksDrained : Nat) : DrainStatus :=
  match flow.getRelayStreamPendingComplete requestId with
  | some complete =>
    if flow.getRelayStreamBufferedChunkCount requestId = 0 then
      .suspended (.encodingComplete chunksDrained complete.streamId)
    else .finished { chunksDrained := chunksDrained }
  | none => .finished { chunksDrained := chunksDrained }

/-- Leaving the drain loop: the loop's own credit balance is written back. -/
def leaveDrainLoop (flow : FlowState) (requestId : RequestId) (credits chunksDrained : Nat)
    (paused : Bool) : FlowState × DrainStatus :=
  let written := flow.setRelayStreamFlowCredits requestId credits
  if paused then
    (written, .finished { chunksDrained := chunksDrained, pausedForBackpressure := true })
  else (written, drainTail written requestId chunksDrained)

/-- One turn of the drain loop, up to the encoding of the head chunk or out of the loop.
A route that is no longer active leaves the function at once, without the write-back. -/
def drainLoop (flow : FlowState) (requestId : RequestId) (active canEmitChunk : Bool)
    (credits chunksDrained : Nat) : FlowState × DrainStatus :=
  if 0 < credits ∧ 0 < flow.getRelayStreamBufferedChunkCount requestId then
    if !active then (flow, .finished { chunksDrained := chunksDrained })
    else if !canEmitChunk then leaveDrainLoop flow requestId credits chunksDrained true
    else
      match flow.peekRelayStreamBufferedChunk requestId with
      | none => leaveDrainLoop flow requestId credits chunksDrained false
      | some peeked =>
        if peeked.rawForward.isNone ∧ peeked.chunk.isNone then
          leaveDrainLoop flow requestId credits chunksDrained false
        else
          (flow, .suspended (.encodingChunk credits chunksDrained
            (((peeked.chunkMeta.map (·.rowCount)).orElse fun _ =>
              peeked.chunk.map (·.rowCount)).getD 0)))
  else leaveDrainLoop flow requestId credits chunksDrained false

/-- The first segment of a drain: the stored credits are copied before the loop. -/
def startDrain (flow : FlowState) (requestId : RequestId) (active canEmitChunk : Bool) :
    FlowState × DrainStatus :=
  if !active then (flow, .finished {})
  else
    let credits := flow.getRelayStreamFlowCredits requestId
    if 0 < credits ∧ 0 < flow.getRelayStreamBufferedChunkCount requestId then
      drainLoop flow requestId active canEmitChunk credits 0
    else (flow, drainTail flow requestId 0)

/-- What the outside answers to the segment after an encoding. -/
structure DrainAnswers where
  encodeOk : Bool
  active : Bool
  emitOk : Bool
  canEmitChunk : Bool
deriving DecidableEq

/-- Whether the segment after an encoding hands its frame to the consumer. -/
def DrainAnswers.emits (answers : DrainAnswers) : Bool :=
  answers.encodeOk && answers.active && answers.emitOk

/-- The segment after the encoding of a chunk. -/
def resumeDrainChunk (flow : FlowState) (requestId : RequestId) (answers : DrainAnswers)
    (credits chunksDrained rowCount : Nat) : FlowState × DrainStatus :=
  if !answers.encodeOk then (flow, .rejected)
  else if !answers.active then (flow, .finished { chunksDrained := chunksDrained })
  else if !answers.emitOk then leaveDrainLoop flow requestId credits chunksDrained true
  else
    let delivered := (flow.popRelayStreamBufferedChunk requestId).addRelayStreamForwardedRows
      requestId rowCount
    drainLoop delivered requestId answers.active answers.canEmitChunk (credits - 1)
      (chunksDrained + 1)

/-- The segment after the encoding of the deferred complete frame. -/
def resumeDrainComplete (flow : FlowState) (requestId : RequestId) (answers : DrainAnswers)
    (chunksDrained : Nat) (streamId : Option StreamId) : FlowState × DrainStatus :=
  if !answers.encodeOk then (flow, .rejected)
  else if !answers.active then (flow, .finished { chunksDrained := chunksDrained })
  else if !answers.emitOk then (flow, .consumerGone { chunksDrained := chunksDrained })
  else
    (flow.clearRelayStreamPendingComplete requestId,
      .completed { chunksDrained := chunksDrained, completeEmitted := true } streamId)

/-- The segment after an encoding. -/
def resumeDrain (flow : FlowState) (requestId : RequestId) (answers : DrainAnswers) :
    DrainPoint → FlowState × DrainStatus
  | .encodingChunk credits chunksDrained rowCount =>
    resumeDrainChunk flow requestId answers credits chunksDrained rowCount
  | .encodingComplete chunksDrained streamId =>
    resumeDrainComplete flow requestId answers chunksDrained streamId

end PlugHub.Relay
