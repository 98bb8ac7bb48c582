import PlugHub.Relay.StreamFlow
import PlugHub.Library.Runs

/-!
# Credit conservation of relay streams

The flow state together with the drains that are suspended at an encoding, and two ghost
counts for each request: the credits its consumer granted and the chunks it received.
Every action is one segment of the source that runs without interleaving. The outbound
queue runs one job of a request at a time, so a request has at most one suspended drain.

A drain copies the stored credits before its loop and writes its own balance back when it
leaves the loop. While it is suspended the two balances differ by the chunks it emitted;
a grant that lands then reaches only the stored balance, and an exit that skips the
write-back leaves the spent credits stored.
-/

namespace PlugHub.Relay

open Library
open OrderedMap (get_erase get_modify get_set)

namespace FlowState

/-! ## What each flow operation does to the stored credits -/

variable (flow : FlowState) (requestId other : RequestId)

@[simp] theorem credits_ensure :
    (flow.ensureRelayStreamFlowEntry requestId).getRelayStreamFlowCredits other =
      flow.getRelayStreamFlowCredits other := by
  unfold ensureRelayStreamFlowEntry
  split
  · rfl
  · next missing =>
    by_cases same : other = requestId
    · simp [getRelayStreamFlowCredits, same, missing]
    · simp [getRelayStreamFlowCredits, get_set, same]

theorem get_ensure (requestId : RequestId) :
    ∃ entry, (flow.ensureRelayStreamFlowEntry requestId).entriesByRequestId.get requestId =
      some entry := by
  unfold ensureRelayStreamFlowEntry
  split
  · next entry found => exact ⟨entry, found⟩
  · exact ⟨_, OrderedMap.get_set_self _ _ _⟩

theorem credits_updateEntry_of_kept
    (change : RelayStreamFlowEntry → RelayStreamFlowEntry)
    (kept : ∀ entry, (change entry).credits = entry.credits) :
    (flow.updateEntry requestId change).getRelayStreamFlowCredits other =
      flow.getRelayStreamFlowCredits other := by
  by_cases same : other = requestId
  · simp only [getRelayStreamFlowCredits, updateEntry, get_modify, same, if_true]
    cases flow.entriesByRequestId.get requestId with
    | none => rfl
    | some entry => simp [kept]
  · simp [getRelayStreamFlowCredits, updateEntry, get_modify, same]

theorem credits_set (credits : Nat) :
    (flow.setRelayStreamFlowCredits requestId credits).getRelayStreamFlowCredits other =
      if other = requestId then credits else flow.getRelayStreamFlowCredits other := by
  obtain ⟨entry, found⟩ := flow.get_ensure requestId
  by_cases same : other = requestId
  · simp [getRelayStreamFlowCredits, setRelayStreamFlowCredits, updateEntry,
      get_modify, same, found]
  · have kept := flow.credits_ensure requestId other
    simp only [getRelayStreamFlowCredits] at kept
    simp [getRelayStreamFlowCredits, setRelayStreamFlowCredits, updateEntry,
      get_modify, same, kept]

theorem credits_add (env : Env) (flow : FlowState) (requestId other : RequestId) (delta : Nat) :
    (addRelayStreamFlowCredits env flow requestId delta).getRelayStreamFlowCredits other =
      if other = requestId then
        min (maxFlowCreditsPerRequest env) (flow.getRelayStreamFlowCredits requestId + delta)
      else flow.getRelayStreamFlowCredits other := by
  obtain ⟨entry, found⟩ := flow.get_ensure requestId
  have kept := flow.credits_ensure requestId other
  simp only [getRelayStreamFlowCredits] at kept
  by_cases same : other = requestId
  · subst same
    rw [found] at kept
    simp only [Option.map_some, Option.getD_some] at kept
    simp [getRelayStreamFlowCredits, addRelayStreamFlowCredits, updateEntry,
      get_modify, found, kept]
  · simp [getRelayStreamFlowCredits, addRelayStreamFlowCredits, updateEntry,
      get_modify, same, kept]

@[simp] theorem credits_addBufferedChunk
    (chunk : StreamPayload) (byteLength : Nat) (rawForward : Option RelayChunkRawForward) :
    (flow.addRelayStreamBufferedChunk requestId chunk byteLength
      rawForward).getRelayStreamFlowCredits other = flow.getRelayStreamFlowCredits other :=
  (credits_updateEntry_of_kept _ _ _ (bufferChunk chunk byteLength rawForward) fun _ => rfl).trans
    (credits_ensure _ _ _)

@[simp] theorem credits_setPendingComplete
    (complete : StreamPayload) (rawForward : Option RelayChunkRawForward) :
    (flow.setRelayStreamPendingComplete requestId complete
      rawForward).getRelayStreamFlowCredits other = flow.getRelayStreamFlowCredits other := by
  unfold setRelayStreamPendingComplete
  refine (credits_updateEntry_of_kept _ _ _ _ ?_).trans (credits_ensure _ _ _)
  exact fun _ => rfl

@[simp] theorem credits_clearPendingComplete :
    (flow.clearRelayStreamPendingComplete requestId).getRelayStreamFlowCredits other =
      flow.getRelayStreamFlowCredits other := by
  unfold clearRelayStreamPendingComplete
  refine credits_updateEntry_of_kept _ _ _ _ ?_
  exact fun _ => rfl

@[simp] theorem credits_addForwardedRows
    (delta : Nat) :
    (flow.addRelayStreamForwardedRows requestId delta).getRelayStreamFlowCredits other =
      flow.getRelayStreamFlowCredits other := by
  unfold addRelayStreamForwardedRows
  refine (credits_updateEntry_of_kept _ _ _ _ ?_).trans (credits_ensure _ _ _)
  exact fun _ => rfl

theorem compactBuffer_credits (entry : RelayStreamFlowEntry) :
    (compactBuffer entry).credits = entry.credits := by
  unfold compactBuffer
  split
  · rfl
  · split
    · rfl
    · rfl

theorem popEntry_credits (entry : RelayStreamFlowEntry) :
    (popEntry entry).credits = entry.credits :=
  compactBuffer_credits _

@[simp] theorem credits_pop :
    (flow.popRelayStreamBufferedChunk requestId).getRelayStreamFlowCredits other =
      flow.getRelayStreamFlowCredits other := by
  unfold popRelayStreamBufferedChunk
  split
  · rfl
  · next entry found =>
    split
    · rfl
    · by_cases same : other = requestId
      · simp [getRelayStreamFlowCredits, same, found, popEntry_credits]
      · simp [getRelayStreamFlowCredits, get_set, same]

theorem credits_clear_of_ne {requestId other : RequestId}
    (differs : other ≠ requestId) :
    (flow.clearRelayStreamFlowState requestId).getRelayStreamFlowCredits other =
      flow.getRelayStreamFlowCredits other := by
  unfold clearRelayStreamFlowState
  split
  · rfl
  · split
    · simp [getRelayStreamFlowCredits, get_erase, differs]
    · simp [getRelayStreamFlowCredits, get_erase, differs]

end FlowState

/-! ## What a drain segment does to the stored credits -/

/-- A suspension inside the chunk loop, with the loop's balance and emission count. -/
def DrainStatus.chunkPoint : DrainStatus → Option (Nat × Nat)
  | .suspended (.encodingChunk credits chunksDrained _) => some (credits, chunksDrained)
  | _ => none

section

variable (flow : FlowState)

include flow

variable (requestId : RequestId)

theorem drainTail_chunkPoint (chunksDrained : Nat) :
    (drainTail flow requestId chunksDrained).chunkPoint = none := by
  unfold drainTail
  split
  · split
    · rfl
    · rfl
  · rfl

theorem leaveDrainLoop_spec (requestId other : RequestId)
    (credits chunksDrained : Nat) (paused : Bool) :
    let next := leaveDrainLoop flow requestId credits chunksDrained paused
    next.2.chunkPoint = none ∧
      next.1.getRelayStreamFlowCredits other =
        if other = requestId then credits else flow.getRelayStreamFlowCredits other := by
  unfold leaveDrainLoop
  cases paused with
  | true => exact ⟨rfl, flow.credits_set _ _ _⟩
  | false => exact ⟨drainTail_chunkPoint _ _ _, flow.credits_set _ _ _⟩

/-- One turn of the loop of an active drain either suspends at the head chunk with its
balance unchanged, or leaves the loop and writes the balance back. -/
theorem drainLoop_spec (canEmitChunk : Bool) (credits chunksDrained : Nat) :
    let next := drainLoop flow requestId true canEmitChunk credits chunksDrained
    (0 < credits ∧ next.2.chunkPoint = some (credits, chunksDrained) ∧ next.1 = flow) ∨
      (next.2.chunkPoint = none ∧ ∀ other, next.1.getRelayStreamFlowCredits other =
        if other = requestId then credits else flow.getRelayStreamFlowCredits other) := by
  have leaves := fun paused => fun other =>
    leaveDrainLoop_spec flow requestId other credits chunksDrained paused
  unfold drainLoop
  by_cases enters : 0 < credits ∧ 0 < flow.getRelayStreamBufferedChunkCount requestId
  · rw [if_pos enters]
    simp only [Bool.not_true, Bool.false_eq_true, ↓reduceIte]
    cases canEmitChunk with
    | false => exact Or.inr ⟨(leaves true requestId).1, fun other => (leaves true other).2⟩
    | true =>
      simp only [Bool.not_true, Bool.false_eq_true, ↓reduceIte]
      split
      · exact Or.inr ⟨(leaves false requestId).1, fun other => (leaves false other).2⟩
      · split
        · exact Or.inr ⟨(leaves false requestId).1, fun other => (leaves false other).2⟩
        · exact Or.inl ⟨enters.1, rfl, rfl⟩
  · rw [if_neg enters]
    exact Or.inr ⟨(leaves false requestId).1, fun other => (leaves false other).2⟩

/-- A resumed chunk encoding that does not abandon an unwritten debit either hands the chunk
over and goes on with one credit less, or leaves the loop with its balance written back, or
leaves the stored balance as it is. -/
theorem resumeDrainChunk_spec (answers : DrainAnswers)
    (credits chunksDrained rowCount : Nat) :
    let next := resumeDrainChunk flow requestId answers credits chunksDrained rowCount
    (answers.encodeOk = false ∨ answers.active = false) ∧ next.2.chunkPoint = none ∧
        answers.emits = false ∧ next.1 = flow ∨
      (next.2.chunkPoint = none ∧ answers.emits = false ∧
        ∀ other, next.1.getRelayStreamFlowCredits other =
          if other = requestId then credits else flow.getRelayStreamFlowCredits other) ∨
      (answers.emits = true ∧
        ((1 < credits ∧ next.2.chunkPoint = some (credits - 1, chunksDrained + 1) ∧
            ∀ other, next.1.getRelayStreamFlowCredits other =
              flow.getRelayStreamFlowCredits other) ∨
          (next.2.chunkPoint = none ∧ ∀ other, next.1.getRelayStreamFlowCredits other =
            if other = requestId then credits - 1 else flow.getRelayStreamFlowCredits other))) := by
  obtain ⟨encodeOk, active, emitOk, canEmitChunk⟩ := answers
  unfold resumeDrainChunk
  cases encodeOk with
  | false => exact Or.inl ⟨Or.inl rfl, rfl, rfl, rfl⟩
  | true =>
    cases active with
    | false => exact Or.inl ⟨Or.inr rfl, rfl, rfl, rfl⟩
    | true =>
      cases emitOk with
      | false =>
        refine Or.inr (Or.inl ⟨(leaveDrainLoop_spec flow requestId requestId credits
          chunksDrained true).1, rfl, fun other => ?_⟩)
        exact (leaveDrainLoop_spec flow requestId other credits chunksDrained true).2
      | true =>
        refine Or.inr (Or.inr ⟨rfl, ?_⟩)
        have loop := drainLoop_spec
          ((flow.popRelayStreamBufferedChunk requestId).addRelayStreamForwardedRows requestId
            rowCount) requestId canEmitChunk (credits - 1) (chunksDrained + 1)
        simp only [FlowState.credits_addForwardedRows, FlowState.credits_pop] at loop
        simp only [Bool.not_true, Bool.false_eq_true, ↓reduceIte]
        rcases loop with ⟨positive, point, same⟩ | ⟨point, written⟩
        · refine Or.inl ⟨by omega, point, fun other => ?_⟩
          rw [same, FlowState.credits_addForwardedRows, FlowState.credits_pop]
        · exact Or.inr ⟨point, written⟩

theorem resumeDrainComplete_spec
    (answers : DrainAnswers) (chunksDrained : Nat) (streamId : Option StreamId) :
    let next := resumeDrainComplete flow requestId answers chunksDrained streamId
    next.2.chunkPoint = none ∧ ∀ other, next.1.getRelayStreamFlowCredits other =
      flow.getRelayStreamFlowCredits other := by
  obtain ⟨encodeOk, active, emitOk, canEmitChunk⟩ := answers
  unfold resumeDrainComplete
  cases encodeOk <;> cases active <;> cases emitOk <;>
    exact ⟨rfl, fun other => by simp⟩

theorem resumeDrain_credits_of_ne {requestId other : RequestId}
    (answers : DrainAnswers) (point : DrainPoint) (differs : other ≠ requestId) :
    (resumeDrain flow requestId answers point).1.getRelayStreamFlowCredits other =
      flow.getRelayStreamFlowCredits other := by
  cases point with
  | encodingComplete chunksDrained streamId =>
    exact (resumeDrainComplete_spec flow requestId answers chunksDrained streamId).2 other
  | encodingChunk credits chunksDrained rowCount =>
    unfold resumeDrain
    rcases resumeDrainChunk_spec flow requestId answers credits chunksDrained rowCount with
      ⟨_, _, _, same⟩ | ⟨_, _, written⟩ | ⟨_, ⟨_, _, same⟩ | ⟨_, written⟩⟩
    · rw [same]
    · rw [written, if_neg differs]
    · exact same other
    · rw [written, if_neg differs]

/-- The first segment of a drain keeps every balance: it suspends at a chunk with the stored
credits as its own balance, or it returns with that balance written back. -/
theorem startDrain_spec (active canEmitChunk : Bool) :
    let next := startDrain flow requestId active canEmitChunk
    (∀ other, next.1.getRelayStreamFlowCredits other = flow.getRelayStreamFlowCredits other) ∧
      (next.2.chunkPoint = none ∨
        (0 < flow.getRelayStreamFlowCredits requestId ∧
          next.2.chunkPoint = some (flow.getRelayStreamFlowCredits requestId, 0))) := by
  unfold startDrain
  cases active with
  | false => exact ⟨fun _ => rfl, Or.inl rfl⟩
  | true =>
    simp only [Bool.not_true, Bool.false_eq_true, ↓reduceIte]
    split
    · rcases drainLoop_spec flow requestId canEmitChunk
        (flow.getRelayStreamFlowCredits requestId) 0 with ⟨positive, point, same⟩ | ⟨point, written⟩
      · exact ⟨fun other => by rw [same], Or.inr ⟨positive, point⟩⟩
      · refine ⟨fun other => ?_, Or.inl point⟩
        rw [written other]
        split
        · next same => rw [same]
        · rfl
    · exact ⟨fun _ => rfl, Or.inl (drainTail_chunkPoint _ _ _)⟩

end

/-! ## The ledger -/

/-- The flow state, the suspended drains, and the ghost counts of each request. -/
structure CreditLedger where
  flow : FlowState := {}
  drains : RequestId → Option DrainPoint := fun _ => none
  granted : RequestId → Nat := fun _ => 0
  emitted : RequestId → Nat := fun _ => 0

/-- One uninterrupted segment of the code that touches relay stream credits. -/
inductive CreditAction where
  | pull (requestId : RequestId) (windowSize : Nat)
  | chunk (requestId : RequestId) (payload : StreamPayload) (byteLength : Nat)
      (rawForward : Option RelayChunkRawForward)
  | complete (requestId : RequestId) (payload : StreamPayload)
      (rawForward : Option RelayChunkRawForward)
  | startDrain (requestId : RequestId) (active canEmitChunk : Bool)
  | resumeDrain (requestId : RequestId) (answers : DrainAnswers)
  | clear (requestId : RequestId)

/-- The request a segment works on. -/
def CreditAction.target : CreditAction → RequestId
  | .pull requestId _ | .chunk requestId _ _ _ | .complete requestId _ _
  | .startDrain requestId _ _ | .resumeDrain requestId _ | .clear requestId => requestId

namespace CreditLedger

/-- The suspension a drain segment ends in. -/
def suspension : DrainStatus → Option DrainPoint
  | .suspended point => some point
  | _ => none

/-- Whether resuming at a point with these answers hands a chunk to the consumer. -/
def emitsChunk (answers : DrainAnswers) : DrainPoint → Bool
  | .encodingChunk _ _ _ => answers.emits
  | .encodingComplete _ _ => false

/-- One segment. A drain job starts only when no drain of the request is running, and only a
suspended drain is resumed. -/
def step (env : Env) (ledger : CreditLedger) : CreditAction → CreditLedger
  | .pull requestId windowSize =>
    { ledger with
      flow := FlowState.addRelayStreamFlowCredits env ledger.flow requestId windowSize
      granted := Function.update ledger.granted requestId
        (ledger.granted requestId + windowSize) }
  | .chunk requestId payload byteLength rawForward =>
    { ledger with flow :=
        ledger.flow.addRelayStreamBufferedChunk requestId payload byteLength rawForward }
  | .complete requestId payload rawForward =>
    { ledger with flow :=
        ledger.flow.setRelayStreamPendingComplete requestId payload rawForward }
  | .startDrain requestId active canEmitChunk =>
    match ledger.drains requestId with
    | some _ => ledger
    | none =>
      let next := Relay.startDrain ledger.flow requestId active canEmitChunk
      { ledger with
        flow := next.1
        drains := Function.update ledger.drains requestId (suspension next.2) }
  | .resumeDrain requestId answers =>
    match ledger.drains requestId with
    | none => ledger
    | some point =>
      let next := Relay.resumeDrain ledger.flow requestId answers point
      { ledger with
        flow := next.1
        drains := Function.update ledger.drains requestId (suspension next.2)
        emitted := Function.update ledger.emitted requestId
          (ledger.emitted requestId + if emitsChunk answers point then 1 else 0) }
  | .clear requestId =>
    { ledger with flow := ledger.flow.clearRelayStreamFlowState requestId }

/-- The credits stored for a request. -/
def stored (ledger : CreditLedger) (requestId : RequestId) : Nat :=
  ledger.flow.getRelayStreamFlowCredits requestId

/-- The balance and the emission count of a drain suspended inside its chunk loop. -/
def loopOf (ledger : CreditLedger) (requestId : RequestId) : Option (Nat × Nat) :=
  (ledger.drains requestId).bind fun point => (DrainStatus.suspended point).chunkPoint

/-- The flow entry of the request is not cleared and no grant is cut by the window cap. -/
def Uncut (env : Env) (requestId : RequestId) (ledger : CreditLedger) : CreditAction → Prop
  | .pull pulled windowSize => pulled = requestId →
      ledger.stored requestId + windowSize ≤ FlowState.maxFlowCreditsPerRequest env
  | .clear cleared => cleared ≠ requestId
  | _ => True

/-- No grant lands while the drain of the request is suspended inside its chunk loop, and no
drain that already emitted a chunk ends on an encoder failure or on an inactive route. -/
def Undisturbed (requestId : RequestId) (ledger : CreditLedger) : CreditAction → Prop
  | .pull pulled _ => pulled = requestId → (ledger.loopOf requestId).isNone = true
  | .resumeDrain resumed answers => resumed = requestId →
      ((ledger.loopOf requestId).all fun loop =>
        loop.2 = 0 ∨ (answers.encodeOk = true ∧ answers.active = true)) = true
  | _ => True

instance (env : Env) (requestId : RequestId) (ledger : CreditLedger) :
    ∀ action, Decidable (Uncut env requestId ledger action)
  | .pull _ _ => inferInstanceAs (Decidable (_ → _))
  | .clear _ => inferInstanceAs (Decidable (_ ≠ _))
  | .chunk _ _ _ _ | .complete _ _ _ | .startDrain _ _ _ | .resumeDrain _ _ =>
    inferInstanceAs (Decidable True)

instance (requestId : RequestId) (ledger : CreditLedger) :
    ∀ action, Decidable (Undisturbed requestId ledger action)
  | .pull _ _ => inferInstanceAs (Decidable (_ → _))
  | .resumeDrain _ _ => inferInstanceAs (Decidable (_ → _))
  | .chunk _ _ _ _ | .complete _ _ _ | .startDrain _ _ _ | .clear _ =>
    inferInstanceAs (Decidable True)

/-- Credits are conserved for one request. Outside the chunk loop the stored balance is what
was granted and not emitted; inside it the loop's balance is, and the stored balance still
holds the credits of the chunks the loop emitted. -/
def Conserved (requestId : RequestId) (ledger : CreditLedger) : Prop :=
  match ledger.loopOf requestId with
  | none => ledger.emitted requestId + ledger.stored requestId = ledger.granted requestId
  | some (credits, chunksDrained) =>
    0 < credits ∧ ledger.emitted requestId + credits = ledger.granted requestId ∧
      ledger.stored requestId = credits + chunksDrained

variable {requestId : RequestId} {ledger : CreditLedger}

theorem Conserved.of_idle (idle : ledger.loopOf requestId = none)
    (balance : ledger.emitted requestId + ledger.stored requestId = ledger.granted requestId) :
    Conserved requestId ledger := by
  unfold Conserved
  rw [idle]
  exact balance

theorem Conserved.of_loop {credits chunksDrained : Nat}
    (inside : ledger.loopOf requestId = some (credits, chunksDrained)) (positive : 0 < credits)
    (balance : ledger.emitted requestId + credits = ledger.granted requestId)
    (unwritten : ledger.stored requestId = credits + chunksDrained) :
    Conserved requestId ledger := by
  unfold Conserved
  rw [inside]
  exact ⟨positive, balance, unwritten⟩

theorem Conserved.idle
    (conserved : Conserved requestId ledger) (idle : ledger.loopOf requestId = none) :
    ledger.emitted requestId + ledger.stored requestId = ledger.granted requestId := by
  unfold Conserved at conserved
  rw [idle] at conserved
  exact conserved

theorem Conserved.loop {credits chunksDrained : Nat} (conserved : Conserved requestId ledger)
    (inside : ledger.loopOf requestId = some (credits, chunksDrained)) :
    0 < credits ∧ ledger.emitted requestId + credits = ledger.granted requestId ∧
      ledger.stored requestId = credits + chunksDrained := by
  unfold Conserved at conserved
  rw [inside] at conserved
  exact conserved

theorem Conserved.congr {before after : CreditLedger} (conserved : Conserved requestId before)
    (loop : after.loopOf requestId = before.loopOf requestId)
    (stored : after.stored requestId = before.stored requestId)
    (granted : after.granted requestId = before.granted requestId)
    (emitted : after.emitted requestId = before.emitted requestId) :
    Conserved requestId after := by
  unfold Conserved at conserved ⊢
  rw [loop, stored, granted, emitted]
  exact conserved

theorem loopOf_update (ledger : CreditLedger) (flow : FlowState) (requestId : RequestId)
    (status : DrainStatus) (emitted : RequestId → Nat) :
    loopOf { ledger with
      flow := flow
      drains := Function.update ledger.drains requestId (suspension status)
      emitted := emitted } requestId = status.chunkPoint := by
  simp only [loopOf, Function.update_self]
  cases status with
  | suspended point | finished result | consumerGone result | completed result streamId
  | rejected => rfl

/-! ## One segment -/

section Segments

variable (env : Env) (requestId : RequestId) (ledger : CreditLedger)

theorem conserved_pull (windowSize : Nat) (conserved : Conserved requestId ledger)
    (uncut : ledger.stored requestId + windowSize ≤ FlowState.maxFlowCreditsPerRequest env)
    (idle : ledger.loopOf requestId = none) :
    Conserved requestId (ledger.step env (.pull requestId windowSize)) := by
  have balance := conserved.idle idle
  refine .of_idle idle ?_
  have grown : (ledger.step env (.pull requestId windowSize)).stored requestId =
      ledger.stored requestId + windowSize := by
    simp only [stored, step, FlowState.credits_add, if_true] at uncut ⊢
    exact Nat.min_eq_right uncut
  have granted : (ledger.step env (.pull requestId windowSize)).granted requestId =
      ledger.granted requestId + windowSize := by
    simp [step]
  rw [grown, granted]
  simp only [step]
  omega

theorem conserved_startDrain (active canEmitChunk : Bool) (conserved : Conserved requestId ledger) :
    Conserved requestId (ledger.step env (.startDrain requestId active canEmitChunk)) := by
  cases running : ledger.drains requestId with
  | some point =>
    simp only [step, running]
    exact conserved
  | none =>
    simp only [step, running]
    have idle : ledger.loopOf requestId = none := by simp [loopOf, running]
    have balance := conserved.idle idle
    obtain ⟨same, point⟩ := startDrain_spec ledger.flow requestId active canEmitChunk
    have loop := ledger.loopOf_update
      (startDrain ledger.flow requestId active canEmitChunk).1 requestId
      (startDrain ledger.flow requestId active canEmitChunk).2 ledger.emitted
    rcases point with idleAfter | ⟨positive, inside⟩
    · refine .of_idle (loop.trans idleAfter) ?_
      simp only [stored, same]
      exact balance
    · refine .of_loop (loop.trans inside) positive balance ?_
      simp only [stored, same, Nat.add_zero]

theorem conserved_resumeComplete (answers : DrainAnswers) (chunksDrained : Nat)
    (streamId : Option StreamId)
    (running : ledger.drains requestId = some (.encodingComplete chunksDrained streamId))
    (conserved : Conserved requestId ledger) :
    Conserved requestId (ledger.step env (.resumeDrain requestId answers)) := by
  have idle : ledger.loopOf requestId = none := by
    simp [loopOf, running, DrainStatus.chunkPoint]
  have balance := conserved.idle idle
  obtain ⟨point, same⟩ := resumeDrainComplete_spec ledger.flow requestId answers chunksDrained
    streamId
  simp only [step, running, resumeDrain, emitsChunk]
  refine .of_idle ((ledger.loopOf_update _ _ _ _).trans point) ?_
  simp only [stored, same]
  simpa [stored] using balance

theorem conserved_resumeChunk (answers : DrainAnswers) (credits chunksDrained rowCount : Nat)
    (running : ledger.drains requestId = some (.encodingChunk credits chunksDrained rowCount))
    (kept : chunksDrained = 0 ∨ (answers.encodeOk = true ∧ answers.active = true))
    (conserved : Conserved requestId ledger) :
    Conserved requestId (ledger.step env (.resumeDrain requestId answers)) := by
  have inside : ledger.loopOf requestId = some (credits, chunksDrained) := by
    simp [loopOf, running, DrainStatus.chunkPoint]
  obtain ⟨positive, balance, unwritten⟩ := conserved.loop inside
  simp only [step, running, resumeDrain, emitsChunk]
  rcases resumeDrainChunk_spec ledger.flow requestId answers credits chunksDrained rowCount with
    ⟨abandoned, point, silent, same⟩ | ⟨point, silent, written⟩ | ⟨emits, resumed⟩
  · -- an early exit: harmless only because nothing was emitted yet
    have fresh : chunksDrained = 0 := by
      rcases kept with zero | ⟨encoded, active⟩
      · exact zero
      · rcases abandoned with failed | inactive
        · rw [encoded] at failed
          cases failed
        · rw [active] at inactive
          cases inactive
    refine .of_idle ((ledger.loopOf_update _ _ _ _).trans point) ?_
    simp only [stored, same, silent, Bool.false_eq_true, ↓reduceIte, Function.update_self,
      Nat.add_zero]
    simp only [stored] at unwritten
    omega
  · -- the transport is saturated: the loop's balance is written back
    refine .of_idle ((ledger.loopOf_update _ _ _ _).trans point) ?_
    simp only [stored, written, silent, Bool.false_eq_true, ↓reduceIte, Function.update_self,
      Nat.add_zero]
    exact balance
  · rcases resumed with ⟨more, point, same⟩ | ⟨point, written⟩
    · refine .of_loop ((ledger.loopOf_update _ _ _ _).trans point) (by omega) ?_ ?_
      · simp only [emits, ↓reduceIte, Function.update_self]
        omega
      · simp only [stored, same] at unwritten ⊢
        omega
    · refine .of_idle ((ledger.loopOf_update _ _ _ _).trans point) ?_
      simp only [stored, written, emits, ↓reduceIte, Function.update_self]
      omega

theorem conserved_other (action : CreditAction) (differs : requestId ≠ action.target)
    (conserved : Conserved requestId ledger) :
    Conserved requestId (ledger.step env action) := by
  cases action with
  | pull acted windowSize =>
    refine conserved.congr rfl ?_ ?_ rfl
    · simp only [stored, step, FlowState.credits_add]
      exact if_neg differs
    · exact Function.update_of_ne differs _ _
  | chunk acted payload byteLength rawForward | complete acted payload rawForward =>
    exact conserved.congr rfl (by simp [stored, step]) rfl rfl
  | startDrain acted active canEmitChunk =>
    simp only [step]
    split
    · exact conserved
    · refine conserved.congr ?_ ((startDrain_spec _ _ _ _).1 requestId) rfl rfl
      exact congrArg (Option.bind · _) (Function.update_of_ne differs _ _)
  | resumeDrain acted answers =>
    simp only [step]
    split
    · exact conserved
    · refine conserved.congr ?_ (resumeDrain_credits_of_ne _ _ _ differs) rfl ?_
      · exact congrArg (Option.bind · _) (Function.update_of_ne differs _ _)
      · exact Function.update_of_ne differs _ _
  | clear acted =>
    exact conserved.congr rfl (FlowState.credits_clear_of_ne _ differs) rfl rfl

/-- An action that is undisturbed and cuts nothing conserves the credits. -/
theorem conserved_step (action : CreditAction) (conserved : Conserved requestId ledger)
    (uncut : Uncut env requestId ledger action)
    (undisturbed : Undisturbed requestId ledger action) :
    Conserved requestId (ledger.step env action) := by
  by_cases own : requestId = action.target
  · subst own
    cases action with
    | pull acted windowSize =>
      exact conserved_pull env acted ledger windowSize conserved (uncut rfl)
        (Option.isNone_iff_eq_none.mp (undisturbed rfl))
    | chunk acted payload byteLength rawForward | complete acted payload rawForward =>
      exact conserved.congr rfl (by simp [stored, step]) rfl rfl
    | startDrain acted active canEmitChunk =>
      exact conserved_startDrain env acted ledger active canEmitChunk conserved
    | resumeDrain acted answers =>
      cases running : ledger.drains acted with
      | none =>
        simp only [step, running]
        exact conserved
      | some point =>
        cases point with
        | encodingComplete chunksDrained streamId =>
          exact conserved_resumeComplete env acted ledger answers chunksDrained streamId
            running conserved
        | encodingChunk credits chunksDrained rowCount =>
          have kept := undisturbed rfl
          simp only [loopOf, CreditAction.target, running, Option.bind_some,
            DrainStatus.chunkPoint, Option.all_some, decide_eq_true_eq] at kept
          exact conserved_resumeChunk env acted ledger answers credits chunksDrained rowCount
            running kept conserved
    | clear acted => exact absurd rfl uncut
  · exact conserved_other env requestId ledger action own conserved

end Segments

/-! ## Every run -/

/-- In every run whose segments meet both conditions the consumer never receives more chunks
than it granted credits, and what it received and what is stored add up to what it granted;
while a drain is suspended in its chunk loop the balance it holds stands for the stored one. -/
theorem relay_stream_credits_conserved (env : Env) (requestId : RequestId)
    (actions : List CreditAction)
    (meets : Meets (step env) (fun ledger action =>
      Uncut env requestId ledger action ∧ Undisturbed requestId ledger action) {} actions) :
    let ledger := run (step env) {} actions
    ledger.emitted requestId ≤ ledger.granted requestId ∧
      (ledger.loopOf requestId = none →
        ledger.emitted requestId + ledger.stored requestId = ledger.granted requestId) ∧
      ∀ credits chunksDrained, ledger.loopOf requestId = some (credits, chunksDrained) →
        ledger.emitted requestId + credits = ledger.granted requestId ∧
          ledger.stored requestId = credits + chunksDrained := by
  intro ledger
  have initially : Conserved requestId ({} : CreditLedger) := .of_idle rfl rfl
  have conserved : Conserved requestId ledger :=
    run_invariant_of_meets (step env)
      (fun state action holds guard =>
        conserved_step env requestId state action holds guard.1 guard.2) initially meets
  refine ⟨?_, conserved.idle, fun credits chunksDrained inside => (conserved.loop inside).2⟩
  cases inside : ledger.loopOf requestId with
  | none =>
    have := conserved.idle inside
    omega
  | some loop =>
    obtain ⟨credits, chunksDrained⟩ := loop
    have := conserved.loop inside
    omega

/-- Two grants, two chunks and one drain that delivers both. -/
theorem relay_stream_credits_conserved_of_two_chunks :
    let actions : List CreditAction :=
      [.pull "r" 2, .chunk "r" { rowCount := 3 } 10 none, .chunk "r" { rowCount := 4 } 10 none,
        .startDrain "r" true true, .resumeDrain "r" ⟨true, true, true, true⟩,
        .resumeDrain "r" ⟨true, true, true, true⟩]
    let ledger := run (step {}) {} actions
    ledger.emitted "r" = 2 ∧ ledger.emitted "r" + ledger.stored "r" = ledger.granted "r" := by
  refine ⟨by decide, ?_⟩
  exact (relay_stream_credits_conserved {} "r" _ (by decide)).2.1 (by decide)

/-- A grant that lands while the drain encodes its chunk is overwritten by the write-back, and
a drain whose second encoding fails leaves the credit of its first chunk stored, so that the
consumer later receives three chunks for two credits. No grant is cut and nothing is cleared. -/
theorem relay_stream_credits_lost_and_overspent :
    let chunk : CreditAction := .chunk "r" { rowCount := 1 } 10 none
    let sent : CreditAction := .resumeDrain "r" ⟨true, true, true, true⟩
    let lost : List CreditAction :=
      [.pull "r" 1, chunk, .startDrain "r" true true, .pull "r" 1, sent]
    let overspent : List CreditAction :=
      [.pull "r" 2, chunk, chunk, chunk, .startDrain "r" true true, sent,
        .resumeDrain "r" ⟨false, true, true, true⟩, .startDrain "r" true true, sent, sent]
    (Meets (step {}) (Uncut {} "r") {} lost ∧
      (run (step {}) {} lost).drains "r" = none ∧
      (run (step {}) {} lost).emitted "r" = 1 ∧ (run (step {}) {} lost).stored "r" = 0 ∧
      (run (step {}) {} lost).granted "r" = 2) ∧
    (Meets (step {}) (Uncut {} "r") {} overspent ∧
      (run (step {}) {} overspent).drains "r" = none ∧
      (run (step {}) {} overspent).emitted "r" = 3 ∧
      (run (step {}) {} overspent).granted "r" = 2) := by
  decide

end CreditLedger

end PlugHub.Relay
