import PlugHub.Bridge.Frames
import PlugHub.Relay.StreamBuffer

/-!
# The buffers of relay streams

The chunk handler of a relay stream acts on the buffers by admitted chunks and by forgetting
the flow state of its request. With this the buffers of the bridge are faithful and bounded.
-/

namespace PlugHub.Bridge

open Library Relay Registries

namespace Hub

variable {env : Env} {hub : Hub}

/-! ## The flow state after an operation -/

theorem flow_releaseRelaySlot (agentId : AgentId) (slot : AgentSlot) :
    (hub.releaseRelaySlot env agentId slot).flow = hub.flow := by
  rw [releaseRelaySlot_eq]

variable (requestId : RequestId)

theorem flow_removeRelayRequestRoute :
    (hub.removeRelayRequestRoute env requestId).flow =
      hub.flow.clearRelayStreamFlowState requestId := by
  unfold removeRelayRequestRoute
  split
  · rfl
  · next route _ =>
    have kept : (hub.releaseAgentDispatchSlot env requestId route).flow = hub.flow := by
      unfold releaseAgentDispatchSlot
      split
      · rfl
      · exact flow_releaseRelaySlot route.agentId route.slot
    simp only [clearRelayStreamFlowState, kept]

theorem flow_removeStreamOf (removal : RestMaterializeRemoval) :
    (hub.removeStreamOf requestId removal).flow = hub.flow := by
  unfold removeStreamOf
  split
  · rfl
  · next route _ =>
    have ended : ((hub.clearRelayStreamTimeouts route.requestId).endMaterialization route
        removal).relaySide = (hub.clearRelayStreamTimeouts route.requestId).relaySide :=
      relaySide_endMaterialization route removal
    have kept := congrArg (fun side : Hub => side.flow) ended
    exact kept

theorem flow_setDrainScheduled (context : DrainContext)
    (scheduled : Bool) : (hub.setDrainScheduled requestId context scheduled).flow = hub.flow := by
  unfold setDrainScheduled
  split <;> rfl

/-- The flow state changes by actions that ask the chunk handler. -/
def Buffers (env : Env) (before after : FlowState) : Prop :=
  ∃ actions : List StreamBuffer.Action, (∀ action ∈ actions, action.unchecked = false) ∧
    after = run (StreamBuffer.stepFlow env) before actions

namespace Buffers

variable {before middle after : FlowState}

theorem refl (flow : FlowState) : Buffers env flow flow := ⟨[], nofun, rfl⟩

theorem single {action : StreamBuffer.Action} (checked : action.unchecked = false)
    (flow : FlowState) : Buffers env flow (StreamBuffer.stepFlow env flow action) :=
  ⟨[action], fun _ member => List.mem_singleton.mp member ▸ checked, rfl⟩

theorem trans (left : Buffers env before middle) (right : Buffers env middle after) :
    Buffers env before after := by
  obtain ⟨first, checkedFirst, rfl⟩ := left
  obtain ⟨second, checkedSecond, rfl⟩ := right
  refine ⟨first ++ second, fun action member => ?_, (run_append _ _ _ _).symm⟩
  exact (List.mem_append.mp member).elim (checkedFirst action) (checkedSecond action)

end Buffers

theorem buffers_emitRelayTerminalComplete (closure : Nat)
    (terminalStatus : String) (payload : Option StreamPayload) (errorCode : Option String) :
    Buffers env hub.flow (hub.emitRelayTerminalComplete env requestId closure terminalStatus payload
      errorCode).flow := by
  unfold emitRelayTerminalComplete
  split
  · exact .refl _
  · split
    · exact .refl _
    · have cleared : Buffers env hub.flow
          (StreamBuffer.stepFlow env hub.flow (.clear requestId)) := .single rfl _
      simp only [enqueue, enqueueRelayOutbound, flow_removeStreamOf, flow_removeRelayRequestRoute]
      exact cleared

theorem buffers_scheduleRelayStreamDrain (context : DrainContext) :
    Buffers env hub.flow (hub.scheduleRelayStreamDrain env requestId context).flow := by
  have drains : ∀ priority, Buffers env hub.flow
      (hub.enqueueDrain env requestId context priority).flow := by
    intro priority
    have cleared : Buffers env hub.flow
        ((hub.flow.clearRelayStreamFlowState requestId).clearRelayStreamFlowState requestId) :=
      (Buffers.single rfl hub.flow : Buffers env hub.flow
        (StreamBuffer.stepFlow env hub.flow (.clear requestId))).trans
        (Buffers.single rfl _ : Buffers env _
          (StreamBuffer.stepFlow env _ (.clear requestId)))
    simp only [enqueueDrain]
    split
    · simp only [enqueueRelayOutbound, flow_setDrainScheduled]
      exact .refl _
    · unfold abortForHardByteLimit
      simp only
      split
      · simp only [flow_removeRelayRequestRoute, flow_removeStreamOf, clearRelayStreamFlowState,
          flow_setDrainScheduled, enqueueRelayOutbound]
        exact cleared
      · simp only [enqueue, enqueueRelayOutbound, flow_removeRelayRequestRoute,
          flow_removeStreamOf, clearRelayStreamFlowState, flow_setDrainScheduled]
        exact cleared
  unfold scheduleRelayStreamDrain
  split
  · exact .refl _
  · simp only
    split
    · split
      · exact drains .control
      · exact .refl _
    · exact drains .normal

theorem buffers_relayOnChunk (closure : Nat) (payload : StreamPayload)
    (payloadBytes : Nat) (rawForward : Option RelayChunkRawForward) :
    Buffers env hub.flow
      (hub.relayOnChunk env requestId closure payload payloadBytes rawForward).flow := by
  unfold relayOnChunk
  split
  · exact .refl _
  · split
    · exact .refl _
    · simp only
      split
      · exact buffers_emitRelayTerminalComplete requestId closure _ _ _
      · next chunks =>
        split
        · exact buffers_emitRelayTerminalComplete requestId closure _ _ _
        · next bytes =>
          have admitted : hub.flow.admitsChunk env requestId payloadBytes = true := by
            simp only [FlowState.admitsChunk, Bool.and_eq_true, Bool.not_eq_true',
              Bool.or_eq_false_iff, decide_eq_false_iff_not]
            exact ⟨not_or.mp chunks, not_or.mp bytes⟩
          have received : StreamBuffer.stepFlow env hub.flow
              (.receive requestId payload payloadBytes rawForward) =
              hub.flow.addRelayStreamBufferedChunk requestId payload payloadBytes rawForward :=
            if_pos admitted
          have buffered : Buffers env hub.flow
              (hub.flow.addRelayStreamBufferedChunk requestId payload payloadBytes rawForward) :=
            received ▸ .single rfl _
          exact buffered.trans (buffers_scheduleRelayStreamDrain requestId _)

end Hub

open StreamBuffer in
/-- Every run of the buffers: what was delivered of a request and what its arrays still hold is
what was buffered, in order and with its size, raw bytes and statistics; the arrays are
equally long and the head is within them; the totals are the sums over the entries, so that
no subtraction of a delivery or of a cleared entry is cut at zero; a run that buffers only
through the chunk handler stays within the limits; and the handler of the bridge acts on the
buffers as such a run. -/
theorem relay_stream_buffers_bounded_fifo (env : Env) (actions : List StreamBuffer.Action) :
    let history := run (StreamBuffer.step env) {} actions
    let flow := history.flow
    (∀ requestId, history.pushed requestId = history.popped requestId ++
      ((flow.entriesByRequestId.get requestId).map (·.liveChunks)).getD []) ∧
    (∀ requestId entry, flow.entriesByRequestId.get requestId = some entry →
      entry.bufferedChunkBytes.length = entry.bufferedChunks.length ∧
      entry.bufferedChunkRawForward.length = entry.bufferedChunks.length ∧
      entry.bufferedChunkMeta.length = entry.bufferedChunks.length ∧
      entry.bufferedChunkHead ≤ entry.bufferedChunks.length ∧
      entry.bufferedBytes = (entry.liveChunks.map (·.bytes)).sum) ∧
    flow.globalTotalBufferedChunks =
      flow.entriesByRequestId.total (·.liveChunks.length) ∧
    flow.globalTotalBufferedBytes =
      flow.entriesByRequestId.total (fun entry => (entry.liveChunks.map (·.bytes)).sum) ∧
    (∀ requestId entry, flow.entriesByRequestId.get requestId = some entry →
      (entry.bufferedChunkHead < entry.bufferedChunks.length →
        entry.headChunk.bytes ≤ entry.bufferedBytes ∧ 1 ≤ flow.globalTotalBufferedChunks ∧
        entry.headChunk.bytes ≤ flow.globalTotalBufferedBytes) ∧
      entry.bufferedChunks.length - entry.bufferedChunkHead ≤ flow.globalTotalBufferedChunks ∧
      entry.bufferedBytes ≤ flow.globalTotalBufferedBytes) ∧
    ((∀ action ∈ actions, action.unchecked = false) → Within env flow) ∧
    ∀ (hub : Hub) (requestId : RequestId) (closure : Nat) (payload : StreamPayload)
      (payloadBytes : Nat) (rawForward : Option RelayChunkRawForward),
      Hub.Buffers env hub.flow
        (hub.relayOnChunk env requestId closure payload payloadBytes rawForward).flow := by
  intro history flow
  have faithful : Faithful history :=
    run_invariant (StreamBuffer.step env)
      (fun state action (faithful : Faithful state) => faithful.step env action) .start actions
  have held : ∀ requestId entry, flow.entriesByRequestId.get requestId = some entry →
      StreamBuffer.Holds entry entry.liveChunks := by
    intro requestId entry found
    obtain ⟨live, -, holds⟩ := faithful.buffered requestId
    rw [found, Option.getD_some] at holds
    rw [holds.liveChunks_eq]
    exact holds
  refine ⟨fun requestId => ?_, fun requestId entry found => ?_, ?_, ?_,
    fun requestId entry found => ⟨fun nonempty => ?_, ?_, ?_⟩, fun checked => ?_,
    fun hub requestId closure payload payloadBytes rawForward =>
      Hub.buffers_relayOnChunk requestId closure payload payloadBytes rawForward⟩
  · obtain ⟨live, recorded, holds⟩ := faithful.buffered requestId
    have shown : ((flow.entriesByRequestId.get requestId).map (·.liveChunks)).getD [] = live := by
      cases found : flow.entriesByRequestId.get requestId with
      | none =>
        rw [found, Option.getD_none] at holds
        exact holds.liveChunks_eq
      | some entry =>
        rw [found, Option.getD_some] at holds
        exact holds.liveChunks_eq
    rw [shown]
    exact recorded
  · have holds := held requestId entry found
    exact ⟨holds.lengths.1, holds.lengths.2.1, holds.lengths.2.2, holds.head, holds.bytes⟩
  · rw [faithful.chunks]
    exact OrderedMap.total_congr _ fun requestId entry found =>
      (held requestId entry found).length.symm
  · rw [faithful.bytes]
    exact OrderedMap.total_congr _ fun requestId entry found => (held requestId entry found).bytes
  · have holds := held requestId entry found
    cases live : entry.liveChunks with
    | nil =>
      have counted := holds.length
      rw [live, List.length_nil] at counted
      omega
    | cons chunk rest =>
      rw [live] at holds
      rw [holds.headChunk_eq]
      exact faithful.headChunk_counted found holds
  · rw [faithful.chunks]
    exact OrderedMap.le_total _ liveCount found
  · rw [faithful.bytes]
    exact OrderedMap.le_total _ (·.bufferedBytes) found
  · have empty : Within env ({} : History).flow :=
      ⟨fun _ => Nat.zero_le _, fun _ => Nat.zero_le _, Nat.zero_le _, Nat.zero_le _⟩
    refine run_invariant_of_meets (StreamBuffer.step env)
      (fun state action (within : Within env state.flow) (checked : action.unchecked = false) => ?_)
      empty (meets_of_forall _ _ checked)
    rw [flow_step]
    exact within.stepFlow checked

end PlugHub.Bridge
