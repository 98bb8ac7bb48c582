import PlugHub.Library.Accounting
import PlugHub.Library.Runs
import PlugHub.Relay.StreamFlow

/-!
# The relay stream buffer as a queue

The four parallel arrays of a flow entry, with their moving head and their two ways of being
cut, hold the undelivered chunks of a request in the order in which they arrived. The totals
across all requests are the sums over the entries, so that no subtraction is ever cut at
zero, and a chunk that is admitted as the chunk handler admits it stays within the limits.
-/

namespace PlugHub.Relay

open Library
open OrderedMap (erase_of_absent get_erase get_set get_set_self set_set total_set
  total_set_of_present)

/-- Everything that is buffered for one chunk. -/
structure BufferedChunk where
  record : Option StreamPayload
  bytes : Nat
  rawForward : Option RelayChunkRawForward
  chunkMeta : Option RelayBufferedChunkMeta

/-- What is buffered for a chunk that arrives. -/
def BufferedChunk.arriving (chunk : StreamPayload) (byteLength : Nat)
    (rawForward : Option RelayChunkRawForward) : BufferedChunk :=
  { record := if rawForward.isSome then none else some chunk
    bytes := byteLength
    rawForward := rawForward
    chunkMeta := some ⟨chunk.rowCount, chunk.streamId⟩ }

/-- What the four arrays of an entry hold at one place. -/
def RelayStreamFlowEntry.slot (entry : RelayStreamFlowEntry) (place : Nat) : BufferedChunk :=
  { record := (entry.bufferedChunks[place]?).join
    bytes := (entry.bufferedChunkBytes[place]?).getD 0
    rawForward := (entry.bufferedChunkRawForward[place]?).join
    chunkMeta := entry.bufferedChunkMeta[place]? }

/-- What a delivery reads of the head slots of an entry. -/
def RelayStreamFlowEntry.headChunk (entry : RelayStreamFlowEntry) : BufferedChunk :=
  entry.slot entry.bufferedChunkHead

/-- The undelivered chunks of an entry. -/
def RelayStreamFlowEntry.liveChunks (entry : RelayStreamFlowEntry) : List BufferedChunk :=
  (List.range (entry.bufferedChunks.length - entry.bufferedChunkHead)).map fun place =>
    entry.slot (entry.bufferedChunkHead + place)

/-- What the next delivery of a request reads; nothing when its buffer is empty. -/
def FlowState.headChunk (flow : FlowState) (requestId : RequestId) : Option BufferedChunk :=
  match flow.entriesByRequestId.get requestId with
  | none => none
  | some entry =>
    if entry.bufferedChunks.length ≤ entry.bufferedChunkHead then none else some entry.headChunk

/-- The chunk handler buffers a chunk only within the four limits. -/
def FlowState.admitsChunk (env : Env) (flow : FlowState) (requestId : RequestId)
    (byteLength : Nat) : Bool :=
  !(decide (env.socketRelayMaxBufferedChunksPerRequest ≤
      flow.getRelayStreamBufferedChunkCount requestId) ||
    decide (env.socketRelayMaxTotalBufferedChunks ≤ flow.globalTotalBufferedChunks)) &&
  !(decide (env.socketRelayMaxBufferedBytesPerRequest <
      flow.getRelayStreamBufferedBytes requestId + byteLength) ||
    decide (env.socketRelayMaxTotalBufferedBytes < flow.globalTotalBufferedBytes + byteLength))

open FlowState

namespace StreamBuffer

/-- What can happen to the buffers. -/
inductive Action where
  | push (requestId : RequestId) (chunk : StreamPayload) (byteLength : Nat)
      (rawForward : Option RelayChunkRawForward)
  | receive (requestId : RequestId) (chunk : StreamPayload) (byteLength : Nat)
      (rawForward : Option RelayChunkRawForward)
  | pop (requestId : RequestId)
  | clear (requestId : RequestId)

/-- Whether an action buffers a chunk without the handler's check. -/
def Action.unchecked : Action → Bool
  | .push .. => true
  | _ => false

/-- The flow state after an action. -/
def stepFlow (env : Env) (flow : FlowState) : Action → FlowState
  | .push requestId chunk byteLength rawForward =>
    flow.addRelayStreamBufferedChunk requestId chunk byteLength rawForward
  | .receive requestId chunk byteLength rawForward =>
    if flow.admitsChunk env requestId byteLength then
      flow.addRelayStreamBufferedChunk requestId chunk byteLength rawForward
    else flow
  | .pop requestId => flow.popRelayStreamBufferedChunk requestId
  | .clear requestId => flow.clearRelayStreamFlowState requestId

/-- The flow state with what was buffered and delivered for each request since its flow state
was last forgotten. -/
structure History where
  flow : FlowState := {}
  pushed : RequestId → List BufferedChunk := fun _ => []
  popped : RequestId → List BufferedChunk := fun _ => []

/-- A function with another value at one request. -/
def replace (map : RequestId → List BufferedChunk) (requestId : RequestId)
    (value : List BufferedChunk) : RequestId → List BufferedChunk :=
  fun other => if other = requestId then value else map other

/-- What an action buffers. -/
def buffers (env : Env) (flow : FlowState) : Action → Option (RequestId × BufferedChunk)
  | .push requestId chunk byteLength rawForward =>
    some (requestId, .arriving chunk byteLength rawForward)
  | .receive requestId chunk byteLength rawForward =>
    if flow.admitsChunk env requestId byteLength then
      some (requestId, .arriving chunk byteLength rawForward)
    else none
  | _ => none

/-- One action with its record. -/
def step (env : Env) (history : History) (action : Action) : History :=
  let flow := stepFlow env history.flow action
  match action with
  | .pop requestId =>
    match history.flow.headChunk requestId with
    | none => { history with flow := flow }
    | some chunk =>
      { history with
        flow := flow
        popped := replace history.popped requestId (history.popped requestId ++ [chunk]) }
  | .clear requestId =>
    { flow := flow
      pushed := replace history.pushed requestId []
      popped := replace history.popped requestId [] }
  | _ =>
    match buffers env history.flow action with
    | none => { history with flow := flow }
    | some (requestId, chunk) =>
      { history with
        flow := flow
        pushed := replace history.pushed requestId (history.pushed requestId ++ [chunk]) }

/-! ## One entry -/

/-- The arrays of an entry hold the undelivered chunks. -/
structure Holds (entry : RelayStreamFlowEntry) (live : List BufferedChunk) : Prop where
  records : entry.bufferedChunks.drop entry.bufferedChunkHead = live.map (·.record)
  sizes : entry.bufferedChunkBytes.drop entry.bufferedChunkHead = live.map (·.bytes)
  raws : entry.bufferedChunkRawForward.drop entry.bufferedChunkHead = live.map (·.rawForward)
  metas : (entry.bufferedChunkMeta.drop entry.bufferedChunkHead).map some =
    live.map (·.chunkMeta)
  lengths : entry.bufferedChunkBytes.length = entry.bufferedChunks.length ∧
    entry.bufferedChunkRawForward.length = entry.bufferedChunks.length ∧
    entry.bufferedChunkMeta.length = entry.bufferedChunks.length
  head : entry.bufferedChunkHead ≤ entry.bufferedChunks.length
  bytes : entry.bufferedBytes = (live.map (·.bytes)).sum

namespace Holds

variable {entry : RelayStreamFlowEntry} {live : List BufferedChunk}

theorem empty : Holds {} [] :=
  ⟨rfl, rfl, rfl, rfl, ⟨rfl, rfl, rfl⟩, Nat.le_refl _, rfl⟩

section

variable (holds : Holds entry live)

include holds

theorem length :
    live.length = entry.bufferedChunks.length - entry.bufferedChunkHead := by
  have counted := congrArg List.length holds.records
  rw [List.length_drop, List.length_map] at counted
  exact counted.symm

theorem bufferChunk (chunk : StreamPayload) (byteLength : Nat)
    (rawForward : Option RelayChunkRawForward) :
    Holds (FlowState.bufferChunk chunk byteLength rawForward entry)
      (live ++ [.arriving chunk byteLength rawForward]) := by
  obtain ⟨sizes, raws, metas⟩ := holds.lengths
  have head := holds.head
  refine ⟨?_, ?_, ?_, ?_, ?_, ?_, ?_⟩
  · simp only [FlowState.bufferChunk, List.drop_append_of_le_length head, holds.records,
      List.map_append]
    rfl
  · simp only [FlowState.bufferChunk, List.drop_append_of_le_length (sizes ▸ head), holds.sizes,
      List.map_append]
    rfl
  · simp only [FlowState.bufferChunk, List.drop_append_of_le_length (raws ▸ head), holds.raws,
      List.map_append]
    rfl
  · simp only [FlowState.bufferChunk, List.drop_append_of_le_length (metas ▸ head),
      List.map_append, holds.metas]
    rfl
  · simp only [FlowState.bufferChunk, List.length_append, List.length_singleton, sizes, raws,
      metas, and_self]
  · simp only [FlowState.bufferChunk, List.length_append, List.length_singleton]
    omega
  · simp only [FlowState.bufferChunk, List.map_append, List.sum_append, holds.bytes]
    rfl

theorem compactBuffer : Holds (FlowState.compactBuffer entry) live := by
  obtain ⟨sizes, raws, metas⟩ := holds.lengths
  unfold FlowState.compactBuffer
  split
  · next passed =>
    have none : live = [] := by
      refine List.eq_nil_of_length_eq_zero ?_
      rw [holds.length]
      omega
    subst none
    exact ⟨rfl, rfl, rfl, rfl, ⟨rfl, rfl, rfl⟩, Nat.le_refl _, holds.bytes⟩
  · split
    · refine ⟨holds.records, holds.sizes, holds.raws, holds.metas, ?_, Nat.zero_le _, holds.bytes⟩
      simp only [List.length_drop, sizes, raws, metas, and_self]
    · exact holds

theorem slot_eq (place : Nat) (within : place < live.length) :
    entry.slot (entry.bufferedChunkHead + place) = live[place] := by
  have record := congrArg (·[place]?) holds.records
  have size := congrArg (·[place]?) holds.sizes
  have raw := congrArg (·[place]?) holds.raws
  have statistics := congrArg (·[place]?) holds.metas
  simp only [List.getElem?_drop, List.getElem?_map, List.getElem?_eq_getElem within,
    Option.map_some] at record size raw statistics
  simp only [RelayStreamFlowEntry.slot, record, size, raw, Option.join_some, Option.getD_some]
  have kept : entry.bufferedChunkMeta[entry.bufferedChunkHead + place]? =
      live[place].chunkMeta := by
    cases found : entry.bufferedChunkMeta[entry.bufferedChunkHead + place]? with
    | none =>
      rw [found] at statistics
      cases statistics
    | some stored =>
      rw [found] at statistics
      exact Option.some.inj statistics
  rw [kept]

theorem liveChunks_eq : entry.liveChunks = live := by
  refine List.ext_getElem ?_ fun place before within => ?_
  · rw [RelayStreamFlowEntry.liveChunks, List.length_map, List.length_range, holds.length]
  · rw [← holds.slot_eq place within]
    simp only [RelayStreamFlowEntry.liveChunks, List.getElem_map, List.getElem_range]

end

theorem headChunk_eq {chunk : BufferedChunk} {rest : List BufferedChunk}
    (holds : Holds entry (chunk :: rest)) : entry.headChunk = chunk := by
  have place := holds.slot_eq 0 (Nat.zero_lt_succ _)
  exact place

theorem popEntry {chunk : BufferedChunk} {rest : List BufferedChunk}
    (holds : Holds entry (chunk :: rest)) : Holds (FlowState.popEntry entry) rest := by
  obtain ⟨sizes, raws, metas⟩ := holds.lengths
  have counted := holds.length
  have first := congrArg BufferedChunk.bytes holds.headChunk_eq
  refine compactBuffer ⟨?_, ?_, ?_, ?_, ?_, ?_, ?_⟩
  · have next := congrArg List.tail holds.records
    simp only [List.tail_drop, List.map_cons, List.tail_cons] at next
    simp only [List.drop_set, Nat.lt_succ_self, if_true, next]
  · have next := congrArg List.tail holds.sizes
    simp only [List.tail_drop, List.map_cons, List.tail_cons] at next
    exact next
  · have next := congrArg List.tail holds.raws
    simp only [List.tail_drop, List.map_cons, List.tail_cons] at next
    simp only [List.drop_set, Nat.lt_succ_self, if_true, next]
  · have next := congrArg List.tail holds.metas
    simp only [← List.map_tail, List.tail_drop, List.map_cons, List.tail_cons] at next
    exact next
  · simp only [List.length_set, sizes, raws, metas, and_self]
  · simp only [List.length_set]
    rw [List.length_cons] at counted
    omega
  · have sum := holds.bytes
    rw [List.map_cons, List.sum_cons] at sum
    simp only [RelayStreamFlowEntry.headChunk, RelayStreamFlowEntry.slot] at first
    simp only [sum, first]
    omega

end Holds

/-! ## All entries -/

/-- The undelivered chunks of an entry. -/
def liveCount (entry : RelayStreamFlowEntry) : Nat :=
  entry.bufferedChunks.length - entry.bufferedChunkHead

theorem addRelayStreamBufferedChunk_eq (flow : FlowState) (requestId : RequestId)
    (chunk : StreamPayload) (byteLength : Nat) (rawForward : Option RelayChunkRawForward) :
    flow.addRelayStreamBufferedChunk requestId chunk byteLength rawForward =
      { entriesByRequestId := flow.entriesByRequestId.set requestId
          (FlowState.bufferChunk chunk byteLength rawForward
            ((flow.entriesByRequestId.get requestId).getD {}))
        globalTotalBufferedChunks := flow.globalTotalBufferedChunks + 1
        globalTotalBufferedBytes := flow.globalTotalBufferedBytes + byteLength } := by
  unfold addRelayStreamBufferedChunk ensureRelayStreamFlowEntry
  cases found : flow.entriesByRequestId.get requestId with
  | none =>
    simp only [updateEntry, OrderedMap.modify, get_set_self,
      set_set, Option.getD_none]
  | some entry =>
    simp only [updateEntry, OrderedMap.modify, found, Option.getD_some]

theorem total_split (flow : FlowState) (requestId : RequestId)
    (measure : RelayStreamFlowEntry → Nat) (zero : measure {} = 0) :
    flow.entriesByRequestId.total measure =
      (flow.entriesByRequestId.erase requestId).total measure +
        measure ((flow.entriesByRequestId.get requestId).getD {}) := by
  cases found : flow.entriesByRequestId.get requestId with
  | none => rw [erase_of_absent _ found, Option.getD_none, zero, Nat.add_zero]
  | some entry => rw [Option.getD_some, OrderedMap.total_erase_of_present _ measure found]

/-- The buffers hold what was buffered and not delivered, and the totals count it. -/
structure Faithful (history : History) : Prop where
  /-- A request was delivered the first of its chunks, and the buffer holds the rest. -/
  buffered : ∀ requestId, ∃ live,
    history.pushed requestId = history.popped requestId ++ live ∧
      Holds ((history.flow.entriesByRequestId.get requestId).getD {}) live
  chunks : history.flow.globalTotalBufferedChunks =
    history.flow.entriesByRequestId.total liveCount
  bytes : history.flow.globalTotalBufferedBytes =
    history.flow.entriesByRequestId.total (·.bufferedBytes)

namespace Faithful

variable {history : History}

theorem start : Faithful {} := ⟨fun _ => ⟨[], rfl, .empty⟩, rfl, rfl⟩

section

variable (faithful : Faithful history)

include faithful

theorem push (requestId : RequestId) (chunk : StreamPayload)
    (byteLength : Nat) (rawForward : Option RelayChunkRawForward) :
    Faithful
      { history with
        flow := history.flow.addRelayStreamBufferedChunk requestId chunk byteLength rawForward
        pushed := replace history.pushed requestId
          (history.pushed requestId ++ [.arriving chunk byteLength rawForward]) } := by
  obtain ⟨live, recorded, holds⟩ := faithful.buffered requestId
  rw [addRelayStreamBufferedChunk_eq]
  refine ⟨fun other => ?_, ?_, ?_⟩
  · by_cases same : other = requestId
    · subst same
      refine ⟨live ++ [.arriving chunk byteLength rawForward], ?_, ?_⟩
      · simp only [replace, if_true, recorded, List.append_assoc]
      · simp only [get_set_self, Option.getD_some]
        exact holds.bufferChunk chunk byteLength rawForward
    · simp only [replace, same, if_false, get_set]
      exact faithful.buffered other
  · have before := total_split history.flow requestId liveCount rfl
    have head := holds.head
    simp only [total_set, faithful.chunks, before, liveCount, FlowState.bufferChunk,
      List.length_append, List.length_singleton]
    omega
  · have before := total_split history.flow requestId (·.bufferedBytes) rfl
    simp only [total_set, faithful.bytes, before, FlowState.bufferChunk]
    omega

variable {requestId : RequestId} {chunk : BufferedChunk}

theorem headChunk_some (ready : history.flow.headChunk requestId = some chunk) :
    ∃ entry rest, history.flow.entriesByRequestId.get requestId = some entry ∧
      entry.bufferedChunkHead < entry.bufferedChunks.length ∧ entry.headChunk = chunk ∧
      Holds entry (chunk :: rest) ∧
      history.pushed requestId = history.popped requestId ++ chunk :: rest := by
  obtain ⟨live, recorded, holds⟩ := faithful.buffered requestId
  unfold headChunk at ready
  split at ready
  · cases ready
  · next entry found =>
    rw [found, Option.getD_some] at holds
    split at ready
    · cases ready
    · next nonempty =>
      have read : entry.headChunk = chunk := Option.some.inj ready
      have counted := holds.length
      cases live with
      | nil =>
        rw [List.length_nil] at counted
        omega
      | cons first rest =>
        have same : first = chunk := holds.headChunk_eq.symm.trans read
        subst same
        exact ⟨entry, rest, found, by omega, read, holds, recorded⟩

theorem headChunk_counted {entry : RelayStreamFlowEntry} {rest : List BufferedChunk}
    (found : history.flow.entriesByRequestId.get requestId = some entry)
    (holds : Holds entry (chunk :: rest)) :
    chunk.bytes ≤ entry.bufferedBytes ∧ 1 ≤ history.flow.globalTotalBufferedChunks ∧
      chunk.bytes ≤ history.flow.globalTotalBufferedBytes := by
  have sum := holds.bytes
  rw [List.map_cons, List.sum_cons] at sum
  have counted := holds.length
  rw [List.length_cons] at counted
  have chunks := OrderedMap.le_total _ liveCount found
  have bytes := OrderedMap.le_total _ (·.bufferedBytes) found
  rw [faithful.chunks, faithful.bytes]
  unfold liveCount at chunks ⊢
  omega

theorem pop (ready : history.flow.headChunk requestId = some chunk) :
    Faithful { history with
        flow := history.flow.popRelayStreamBufferedChunk requestId
        popped := replace history.popped requestId
          (history.popped requestId ++ [chunk]) } := by
  obtain ⟨entry, rest, found, nonempty, read, holds, recorded⟩ := faithful.headChunk_some ready
  obtain ⟨charged, counted, summed⟩ := faithful.headChunk_counted found holds
  have left := holds.popEntry
  have size : (entry.bufferedChunkBytes[entry.bufferedChunkHead]?).getD 0 = chunk.bytes := by
    rw [← read]
    rfl
  have popped : history.flow.popRelayStreamBufferedChunk requestId =
      { entriesByRequestId := history.flow.entriesByRequestId.set requestId
          (FlowState.popEntry entry)
        globalTotalBufferedChunks := history.flow.globalTotalBufferedChunks - 1
        globalTotalBufferedBytes := history.flow.globalTotalBufferedBytes - chunk.bytes } := by
    simp only [popRelayStreamBufferedChunk, found, Nat.not_le.mpr nonempty, if_false,
      size]
  rw [popped]
  refine ⟨fun other => ?_, ?_, ?_⟩
  · by_cases same : other = requestId
    · subst same
      refine ⟨rest, ?_, ?_⟩
      · simp only [replace, if_true, recorded, List.append_assoc, List.singleton_append]
      · simp only [get_set_self, Option.getD_some]
        exact left
    · simp only [replace, same, if_false, get_set]
      exact faithful.buffered other
  · have before := total_set_of_present _ (FlowState.popEntry entry) liveCount found
    have fewer := left.length
    have many := holds.length
    rw [List.length_cons] at many
    simp only [faithful.chunks]
    unfold liveCount at before ⊢
    omega
  · have before := total_set_of_present _ (FlowState.popEntry entry) (·.bufferedBytes)
      found
    have fewer := left.bytes
    have many := holds.bytes
    rw [List.map_cons, List.sum_cons] at many
    simp only [faithful.bytes] at summed ⊢
    omega

/-- The flow state of a request is forgotten. -/
theorem clear (requestId : RequestId) :
    Faithful
      { flow := history.flow.clearRelayStreamFlowState requestId
        pushed := replace history.pushed requestId []
        popped := replace history.popped requestId [] } := by
  have entries : (history.flow.clearRelayStreamFlowState requestId).entriesByRequestId =
      history.flow.entriesByRequestId.erase requestId := by
    unfold clearRelayStreamFlowState
    split
    · next absent => exact (erase_of_absent _ absent).symm
    · simp only
      split <;> rfl
  have chunks := total_split history.flow requestId liveCount rfl
  have bytes := total_split history.flow requestId (·.bufferedBytes) rfl
  obtain ⟨live, -, holds⟩ := faithful.buffered requestId
  refine ⟨fun other => ?_, ?_, ?_⟩
  · simp only [entries, get_erase]
    by_cases same : other = requestId
    · simp only [replace, same, if_true]
      exact ⟨[], rfl, .empty⟩
    · simp only [replace, same, if_false]
      exact faithful.buffered other
  · simp only [entries]
    rw [← faithful.chunks] at chunks
    unfold clearRelayStreamFlowState
    split
    · next absent =>
      rw [absent, Option.getD_none] at chunks
      exact chunks
    · next entry found =>
      rw [found, Option.getD_some] at chunks
      unfold liveCount at chunks ⊢
      simp only
      split <;> simp only <;> omega
  · simp only [entries]
    rw [← faithful.bytes] at bytes
    unfold clearRelayStreamFlowState
    split
    · next absent =>
      rw [absent, Option.getD_none] at bytes
      exact bytes
    · next entry found =>
      rw [found, Option.getD_some] at bytes holds
      simp only
      split
      · simp only
        omega
      · next passed =>
        have none : entry.bufferedBytes = 0 := by
          have counted := holds.length
          have nothing : live = [] := List.eq_nil_of_length_eq_zero (by omega)
          rw [holds.bytes, nothing]
          rfl
        simp only
        omega

/-- Every action keeps the buffers faithful. -/
theorem step (env : Env) (action : Action) :
    Faithful (step env history action) := by
  cases action with
  | push requestId chunk byteLength rawForward =>
    exact faithful.push requestId chunk byteLength rawForward
  | receive requestId chunk byteLength rawForward =>
    by_cases admitted : history.flow.admitsChunk env requestId byteLength = true
    · simp only [StreamBuffer.step, buffers, stepFlow, admitted, if_true]
      exact faithful.push requestId chunk byteLength rawForward
    · simp only [StreamBuffer.step, buffers, stepFlow, admitted, if_false, Bool.false_eq_true]
      exact faithful
  | pop requestId =>
    simp only [StreamBuffer.step, stepFlow]
    cases ready : history.flow.headChunk requestId with
    | none =>
      have nothing : history.flow.popRelayStreamBufferedChunk requestId = history.flow := by
        unfold headChunk at ready
        unfold popRelayStreamBufferedChunk
        split
        · rfl
        · next entry found =>
          rw [found] at ready
          simp only at ready
          split at ready
          · next passed => rw [if_pos passed]
          · cases ready
      simp only [nothing]
      exact faithful
    | some chunk => exact faithful.pop ready
  | clear requestId => exact faithful.clear requestId

end

end Faithful

/-! ## The limits -/

/-- The buffers are within the limits of one request and of the hub. -/
structure Within (env : Env) (flow : FlowState) : Prop where
  chunks : ∀ requestId, flow.getRelayStreamBufferedChunkCount requestId ≤
    env.socketRelayMaxBufferedChunksPerRequest
  bytes : ∀ requestId, flow.getRelayStreamBufferedBytes requestId ≤
    env.socketRelayMaxBufferedBytesPerRequest
  totalChunks : flow.globalTotalBufferedChunks ≤ env.socketRelayMaxTotalBufferedChunks
  totalBytes : flow.globalTotalBufferedBytes ≤ env.socketRelayMaxTotalBufferedBytes

theorem Within.fewer {env : Env} {flow after : FlowState} (within : Within env flow)
    (requestId : RequestId)
    (others : ∀ other, other ≠ requestId →
      after.entriesByRequestId.get other = flow.entriesByRequestId.get other)
    (chunks : after.getRelayStreamBufferedChunkCount requestId ≤
      env.socketRelayMaxBufferedChunksPerRequest)
    (bytes : after.getRelayStreamBufferedBytes requestId ≤
      env.socketRelayMaxBufferedBytesPerRequest)
    (totalChunks : after.globalTotalBufferedChunks ≤ env.socketRelayMaxTotalBufferedChunks)
    (totalBytes : after.globalTotalBufferedBytes ≤ env.socketRelayMaxTotalBufferedBytes) :
    Within env after where
  chunks := by
    intro other
    by_cases same : other = requestId
    · exact same ▸ chunks
    · have before := within.chunks other
      simp only [getRelayStreamBufferedChunkCount, others other same] at before ⊢
      exact before
  bytes := by
    intro other
    by_cases same : other = requestId
    · exact same ▸ bytes
    · have before := within.bytes other
      simp only [getRelayStreamBufferedBytes, others other same] at before ⊢
      exact before
  totalChunks := totalChunks
  totalBytes := totalBytes

theorem liveCount_popEntry (entry : RelayStreamFlowEntry) :
    liveCount (FlowState.popEntry entry) ≤ liveCount entry ∧
      (FlowState.popEntry entry).bufferedBytes ≤ entry.bufferedBytes := by
  unfold FlowState.popEntry FlowState.compactBuffer liveCount
  simp only [List.length_set]
  split
  · simp only [List.length_nil]
    omega
  · split
    · simp only [List.length_drop, List.length_set]
      omega
    · simp only [List.length_set]
      omega

/-- Actions that ask the chunk handler stay within the limits. -/
theorem Within.stepFlow {env : Env} {flow : FlowState} (within : Within env flow) {action : Action}
    (checked : action.unchecked = false) : Within env (stepFlow env flow action) := by
  cases action with
  | push => cases checked
  | receive requestId chunk byteLength rawForward =>
    simp only [StreamBuffer.stepFlow]
    split
    · next admitted =>
      simp only [admitsChunk, Bool.and_eq_true, Bool.not_eq_true', Bool.or_eq_false_iff,
        decide_eq_false_iff_not, Nat.not_le, Nat.not_lt] at admitted
      obtain ⟨⟨ownChunks, allChunks⟩, ownBytes, allBytes⟩ := admitted
      rw [addRelayStreamBufferedChunk_eq]
      refine within.fewer requestId (fun other differs => ?_) ?_ ?_ ?_ ?_
      · simp only [get_set, differs, if_false]
      · simp only [getRelayStreamBufferedChunkCount, get_set_self,
          Option.map_some, Option.getD_some, FlowState.bufferChunk, List.length_append,
          List.length_singleton] at ownChunks ⊢
        cases found : flow.entriesByRequestId.get requestId with
        | none =>
          rw [found] at ownChunks
          simp only [Option.map_none, Option.getD_none, List.length_nil] at ownChunks ⊢
          omega
        | some entry =>
          rw [found] at ownChunks
          simp only [Option.map_some, Option.getD_some] at ownChunks ⊢
          omega
      · simp only [getRelayStreamBufferedBytes, get_set_self,
          Option.map_some, Option.getD_some, FlowState.bufferChunk] at ownBytes ⊢
        cases found : flow.entriesByRequestId.get requestId with
        | none =>
          rw [found] at ownBytes
          exact ownBytes
        | some entry =>
          rw [found] at ownBytes
          exact ownBytes
      · exact allChunks
      · exact allBytes
    · exact within
  | pop requestId =>
    unfold StreamBuffer.stepFlow popRelayStreamBufferedChunk
    simp only
    split
    · exact within
    · next entry found =>
      split
      · exact within
      · obtain ⟨chunks, bytes⟩ := liveCount_popEntry entry
        have ownChunks := within.chunks requestId
        have ownBytes := within.bytes requestId
        simp only [getRelayStreamBufferedChunkCount, found, Option.map_some,
          Option.getD_some] at ownChunks
        simp only [getRelayStreamBufferedBytes, found, Option.map_some,
          Option.getD_some] at ownBytes
        refine within.fewer requestId (fun other differs => ?_) ?_ ?_ ?_ ?_
        · simp only [get_set, differs, if_false]
        · simp only [getRelayStreamBufferedChunkCount, get_set_self,
            Option.map_some, Option.getD_some]
          exact Nat.le_trans chunks ownChunks
        · simp only [getRelayStreamBufferedBytes, get_set_self,
            Option.map_some, Option.getD_some]
          exact Nat.le_trans bytes ownBytes
        · exact Nat.le_trans (Nat.sub_le _ _) within.totalChunks
        · exact Nat.le_trans (Nat.sub_le _ _) within.totalBytes
  | clear requestId =>
    unfold StreamBuffer.stepFlow clearRelayStreamFlowState
    simp only
    split
    · exact within
    · next entry found =>
      have gone : ∀ other, other ≠ requestId →
          (flow.entriesByRequestId.erase requestId).get other =
            flow.entriesByRequestId.get other :=
        fun other differs => by rw [get_erase, if_neg differs]
      split
      · refine within.fewer requestId gone ?_ ?_ (Nat.le_trans (Nat.sub_le _ _) within.totalChunks)
          (Nat.le_trans (Nat.sub_le _ _) within.totalBytes)
        · simp [getRelayStreamBufferedChunkCount]
        · simp [getRelayStreamBufferedBytes]
      · refine within.fewer requestId gone ?_ ?_ within.totalChunks within.totalBytes
        · simp [getRelayStreamBufferedChunkCount]
        · simp [getRelayStreamBufferedBytes]

theorem flow_step (env : Env) (history : History) (action : Action) :
    (step env history action).flow = stepFlow env history.flow action := by
  cases action with
  | push => rfl
  | receive requestId chunk byteLength rawForward =>
    simp only [step, buffers]
    split <;> rfl
  | pop requestId =>
    simp only [step]
    split <;> rfl
  | clear => rfl

end StreamBuffer

end PlugHub.Relay
