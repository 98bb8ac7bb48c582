import PlugHub.Library.Accounting
import PlugHub.Library.Runs

/-!
# Batches of relay requests

The handler of a batch of relay requests on one socket: it consumes the rate limit for every item,
takes one in-flight slot for each, dispatches the items, gives back the cost of the items that were
deduplicated or that failed refundably, acknowledges the batch and releases the slots. Between two
awaits other handlers of the socket run. An error that is thrown after the dispatch releases the
slots and is caught by the handler, which gives back the whole cost once more when the error is
refundable.
-/

namespace PlugHub.Relay

open Library

/-! ## Outcomes -/

/-- An error, as the refund policy sees it. -/
inductive ThrownError where
  | unexpected
  /-- An application error with its status code; a 400 may be marked refundable. -/
  | app (statusCode : Option Nat) (marked : Bool)
deriving DecidableEq

/-- The cost of a request that failed with the error is given back. -/
def shouldRefundRelayRpcRequestRateLimit : ThrownError → Bool
  | .unexpected => true
  | .app (some statusCode) marked =>
    if statusCode = 400 then marked else !(400 ≤ statusCode && statusCode < 500)
  | .app none _ => true

/-- How the dispatch of an item ends. -/
inductive ItemOutcome where
  | accepted
  | deduplicated
  | failed (error : ThrownError)
deriving DecidableEq

namespace ItemOutcome

/-- The cost of the item is given back. -/
def refunded : ItemOutcome → Bool
  | .accepted => false
  | .deduplicated => true
  | .failed error => shouldRefundRelayRpcRequestRateLimit error

/-- The item was deduplicated. -/
def isDeduplicated : ItemOutcome → Bool
  | .deduplicated => true
  | _ => false

/-- The dispatch of the item failed refundably. -/
def failedRefundably : ItemOutcome → Bool
  | .failed error => shouldRefundRelayRpcRequestRateLimit error
  | _ => false

/-- The cost that is given back for the items of a batch: the deduplicated ones and those that
failed refundably. -/
def refundCount (outcomes : List ItemOutcome) : Nat :=
  outcomes.countP isDeduplicated + outcomes.countP failedRefundably

end ItemOutcome

/-! ## The in-flight gate of a socket -/

/-- Try to take a number of slots of a socket, all or none; the count is absent until it is first
used, and a limit of 0 disables the gate. -/
def tryAcquireSocketInflightSlots (counter : Option Nat) (count limit : Nat) :
    Bool × Option Nat :=
  if count = 0 then (true, counter)
  else if limit = 0 then (true, counter)
  else if limit - counter.getD 0 < count then (false, some (counter.getD 0))
  else (true, some (counter.getD 0 + count))

/-- Give slots of a socket back. -/
def releaseSocketInflightSlots (counter : Option Nat) (count : Nat) : Option Nat :=
  if count = 0 then counter else counter.map (· - count)

/-! ## The handler -/

/-- What a handler awaits. -/
inductive BatchPhase where
  | checking
  | preparing
  | consuming
  | refundingRejected
  | dispatching
  | refunding
  | closing
deriving DecidableEq

/-- A batch and its accounts. -/
structure Batch where
  phase : BatchPhase
  items : Nat := 0
  rateLimitCost : Nat := 0
  outcomes : List ItemOutcome := []
  consumed : Nat := 0
  refunded : Nat := 0
  acquired : Nat := 0
  released : Nat := 0

/-- A socket with the batches that are handled on it. -/
structure BatchSocket where
  counter : Option Nat := none
  singles : Nat := 0
  batches : OrderedMap Nat Batch := OrderedMap.empty
  finished : List Batch := []

/-- What happens on the socket. -/
inductive BatchAction where
  /-- A batch arrives; the feature is enabled and the conversation belongs to the socket, or not. -/
  | start (id : Nat) (admissible : Bool)
  /-- The access check ends; it may throw, or the socket may be gone. -/
  | checked (id : Nat) (passes : Bool)
  /-- The frame was decoded, with the number of its items if it was valid. -/
  | prepared (id : Nat) (items : Option Nat)
  | consumed (id : Nat) (allowed : Bool)
  | rejected (id : Nat)
  | dispatched (id : Nat) (outcomes : List ItemOutcome) (thrown : Option ThrownError)
  | refunded (id : Nat) (thrown : Option ThrownError)
  | closed (id : Nat)
  | acquireSingle
  | releaseSingle

namespace BatchSocket

variable (limit : Nat)

/-- The handler of a batch goes on. -/
def put (state : BatchSocket) (id : Nat) (batch : Batch) : BatchSocket :=
  { state with batches := state.batches.set id batch }

/-- The handler of a batch returns. -/
def exit (state : BatchSocket) (id : Nat) (batch : Batch) : BatchSocket :=
  { state with batches := state.batches.erase id, finished := batch :: state.finished }

/-- The batch is acknowledged, which may throw; the slots are released; an error that was thrown is
caught. -/
def acknowledge (state : BatchSocket) (id : Nat) (batch : Batch) (thrown : Option ThrownError) :
    BatchSocket :=
  let state := { state with counter := releaseSocketInflightSlots state.counter batch.items }
  let batch := { batch with released := batch.released + batch.items }
  match thrown with
  | none => state.exit id batch
  | some error =>
    if 0 < batch.rateLimitCost ∧ shouldRefundRelayRpcRequestRateLimit error then
      state.put id { batch with
        phase := .closing, refunded := batch.refunded + batch.rateLimitCost, rateLimitCost := 0 }
    else state.exit id batch

/-- The handler of a batch continues after what it awaited. -/
def goOn (state : BatchSocket) (id : Nat) (batch : Batch) : BatchAction → BatchSocket
  | .checked _ passes =>
    if batch.phase ≠ .checking then state
    else if passes then state.put id { batch with phase := .preparing }
    else state.exit id batch
  | .prepared _ items =>
    if batch.phase ≠ .preparing then state
    else
      match items with
      | some (count + 1) => state.put id { batch with phase := .consuming, items := count + 1 }
      | _ => state.exit id batch
  | .consumed _ allowed =>
    if batch.phase ≠ .consuming then state
    else if allowed then
      let batch := { batch with consumed := batch.items, rateLimitCost := batch.items }
      let acquire := tryAcquireSocketInflightSlots state.counter batch.items limit
      let state := { state with counter := acquire.2 }
      if acquire.1 then
        state.put id { batch with phase := .dispatching, acquired := batch.items }
      else
        state.put id { batch with
          phase := .refundingRejected, refunded := batch.rateLimitCost, rateLimitCost := 0 }
    else state.exit id batch
  | .rejected _ => if batch.phase ≠ .refundingRejected then state else state.exit id batch
  | .dispatched _ outcomes thrown =>
    if batch.phase ≠ .dispatching ∨ outcomes.length ≠ batch.items then state
    else
      let refundCount := ItemOutcome.refundCount outcomes
      let batch := { batch with outcomes, refunded := batch.refunded + refundCount }
      if 0 < refundCount then state.put id { batch with phase := .refunding }
      else state.acknowledge id batch thrown
  | .refunded _ thrown =>
    if batch.phase ≠ .refunding then state else state.acknowledge id batch thrown
  | .closed _ => if batch.phase ≠ .closing then state else state.exit id batch
  | _ => state

end BatchSocket

/-- The batch that an action is about. -/
def BatchAction.batch? : BatchAction → Option Nat
  | .checked id _ | .prepared id _ | .consumed id _ | .rejected id | .dispatched id _ _
  | .refunded id _ | .closed id => some id
  | .start _ _ | .acquireSingle | .releaseSingle => none

/-- One step on the socket. -/
def BatchSocket.step (limit : Nat) (state : BatchSocket) (action : BatchAction) : BatchSocket :=
  match action with
  | .start id admissible =>
    if state.batches.has id then state
    else if admissible then state.put id { phase := .checking }
    else state.exit id { phase := .checking }
  | .acquireSingle =>
    let acquire := tryAcquireSocketInflightSlots state.counter 1 limit
    { state with
      counter := acquire.2, singles := state.singles + if acquire.1 then 1 else 0 }
  | .releaseSingle =>
    if state.singles = 0 then state
    else { state with counter := releaseSocketInflightSlots state.counter 1, singles := state.singles - 1 }
  | _ =>
    match action.batch? with
    | some id =>
      match state.batches.get id with
      | some batch => state.goOn limit id batch action
      | none => state
    | none => state

/-! ## The property -/

namespace Batch

/-- The items that were neither deduplicated nor failed refundably. -/
def charged (batch : Batch) : Nat := batch.outcomes.countP fun outcome => !outcome.refunded

/-- The slots that the handler holds. -/
def held (batch : Batch) : Nat := batch.acquired - batch.released

/-- The cost consumed minus the cost given back is the number of charged items. -/
def Conserved (batch : Batch) : Prop := batch.consumed = batch.refunded + batch.charged

end Batch

/-- The handlers that returned, or that await the refund of an error and nothing else, charged for
the items that were neither deduplicated nor failed refundably, and for nothing else. -/
structure CostsConserved (state : BatchSocket) : Prop where
  finished : ∀ batch ∈ state.finished, batch.Conserved
  closing : ∀ id batch, state.batches.get id = some batch → batch.phase = .closing →
    batch.Conserved

/-- Every batch took a slot for each item or none, a handler that returned released all of them
exactly once, and the count of the socket is that of the slots that are held. -/
structure SlotsHeld (limit : Nat) (state : BatchSocket) : Prop where
  /-- A batch takes and releases all of its slots or none. -/
  whole : ∀ id batch, state.batches.get id = some batch →
    (batch.acquired = 0 ∨ batch.acquired = batch.items) ∧
      (batch.released = 0 ∨ batch.released = batch.acquired)
  /-- A handler that returned has released them. -/
  exited : ∀ batch ∈ state.finished,
    (batch.acquired = 0 ∨ batch.acquired = batch.items) ∧ batch.released = batch.acquired
  /-- The counter counts the slots that are held. -/
  counter : 0 < limit → state.counter.getD 0 = state.singles + state.batches.total Batch.held

/-- The acknowledgement of a dispatched batch throws no refundable error. -/
def AcknowledgesQuietly (state : BatchSocket) : BatchAction → Prop
  | .dispatched id outcomes (some error) => ∀ batch ∈ state.batches.get id,
    batch.phase = .dispatching → outcomes.length = batch.items →
    ItemOutcome.refundCount outcomes = 0 → shouldRefundRelayRpcRequestRateLimit error = false
  | .refunded id (some error) => ∀ batch ∈ state.batches.get id, batch.phase = .refunding →
    shouldRefundRelayRpcRequestRateLimit error = false
  | _ => True

/-! ## Items -/

namespace ItemOutcome

theorem refundCount_eq (outcomes : List ItemOutcome) :
    refundCount outcomes = outcomes.countP refunded := by
  induction outcomes with
  | nil => rfl
  | cons outcome rest ih =>
    unfold refundCount at ih ⊢
    simp only [List.countP_cons]
    rw [← ih]
    have one : ((if isDeduplicated outcome = true then 1 else 0) +
        if failedRefundably outcome = true then 1 else 0) =
        if refunded outcome = true then 1 else 0 := by
      cases outcome with
      | accepted => rfl
      | deduplicated => rfl
      | failed error =>
        by_cases refundable : shouldRefundRelayRpcRequestRateLimit error = true
        · simp [isDeduplicated, failedRefundably, refunded, refundable]
        · simp [isDeduplicated, failedRefundably, refunded, refundable]
    omega

theorem refundCount_add_charged (outcomes : List ItemOutcome) :
    refundCount outcomes + (outcomes.countP fun outcome => !outcome.refunded) =
      outcomes.length := by
  rw [refundCount_eq, List.length_eq_countP_add_countP refunded]
  congr 1
  refine List.countP_congr fun outcome _ => ?_
  simp

end ItemOutcome

/-! ## The gate -/

/-- The count of a gate is an amount, unless the gate is disabled and has no count. -/
def Balanced (limit : Nat) (counter : Option Nat) (amount : Nat) : Prop :=
  if limit = 0 then counter = none else counter.getD 0 = amount

namespace Balanced

variable {limit : Nat} {counter : Option Nat} {amount count : Nat}

theorem acquire (balanced : Balanced limit counter amount)
    (taken : (tryAcquireSocketInflightSlots counter count limit).1 = true) :
    Balanced limit (tryAcquireSocketInflightSlots counter count limit).2 (amount + count) := by
  unfold Balanced at balanced ⊢
  unfold tryAcquireSocketInflightSlots at taken ⊢
  by_cases disabled : limit = 0
  · rw [if_pos disabled] at balanced ⊢
    rw [if_pos disabled]
    split_ifs <;> exact balanced
  · rw [if_neg disabled] at balanced ⊢
    rw [if_neg disabled] at taken ⊢
    split_ifs at taken ⊢ with nothing full
    · rw [nothing]
      exact balanced
    · simp only [Option.getD_some, balanced]

theorem refuse (balanced : Balanced limit counter amount)
    (refused : (tryAcquireSocketInflightSlots counter count limit).1 = false) :
    Balanced limit (tryAcquireSocketInflightSlots counter count limit).2 amount := by
  unfold Balanced at balanced ⊢
  unfold tryAcquireSocketInflightSlots at refused ⊢
  by_cases disabled : limit = 0
  · rw [if_pos disabled] at balanced ⊢
    rw [if_pos disabled]
    split_ifs <;> exact balanced
  · rw [if_neg disabled] at balanced ⊢
    rw [if_neg disabled] at refused ⊢
    split_ifs at refused ⊢ with nothing full
    simp only [Option.getD_some, balanced]

theorem release (balanced : Balanced limit counter (amount + count)) :
    Balanced limit (releaseSocketInflightSlots counter count) amount := by
  unfold Balanced at balanced ⊢
  unfold releaseSocketInflightSlots
  by_cases nothing : count = 0
  · rw [if_pos nothing]
    rw [nothing] at balanced
    exact balanced
  · rw [if_neg nothing]
    by_cases disabled : limit = 0
    · rw [if_pos disabled] at balanced ⊢
      rw [balanced]
      rfl
    · rw [if_neg disabled] at balanced ⊢
      cases counter with
      | none =>
        have empty : amount + count = 0 := balanced.symm
        omega
      | some current =>
        have same : current = amount + count := balanced
        show current - count = amount
        omega

end Balanced

/-! ## The invariant -/

/-- The accounts of a batch in progress, by what its handler awaits. -/
def Batch.Sound (batch : Batch) : Prop :=
  match batch.phase with
  | .checking | .preparing | .consuming =>
    batch.consumed = 0 ∧ batch.refunded = 0 ∧ batch.acquired = 0 ∧ batch.released = 0 ∧
      batch.outcomes = [] ∧ (batch.phase = .consuming → 0 < batch.items)
  | .refundingRejected =>
    batch.consumed = batch.items ∧ batch.refunded = batch.items ∧ batch.acquired = 0 ∧
      batch.released = 0 ∧ batch.outcomes = []
  | .dispatching =>
    batch.consumed = batch.items ∧ batch.rateLimitCost = batch.items ∧ batch.refunded = 0 ∧
      batch.acquired = batch.items ∧ batch.released = 0 ∧ 0 < batch.items
  | .refunding =>
    batch.consumed = batch.items ∧ batch.rateLimitCost = batch.items ∧
      batch.refunded = ItemOutcome.refundCount batch.outcomes ∧
      batch.outcomes.length = batch.items ∧ batch.acquired = batch.items ∧ batch.released = 0 ∧
      0 < batch.items
  | .closing => batch.acquired = batch.items ∧ batch.released = batch.items

/-- The accounts of a handler that returned. -/
def Batch.Settled (batch : Batch) : Prop :=
  (batch.acquired = 0 ∨ batch.acquired = batch.items) ∧ batch.released = batch.acquired

/-- The socket and its batches. -/
structure BatchSocketSound (limit : Nat) (state : BatchSocket) : Prop where
  batches : ∀ id batch, state.batches.get id = some batch → batch.Sound
  finished : ∀ batch ∈ state.finished, batch.Settled
  gate : Balanced limit state.counter (state.singles + state.batches.total Batch.held)

namespace BatchSocketSound

variable {limit : Nat} {state : BatchSocket} {id : Nat} {batch next : Batch} {counter : Option Nat}

section

variable (sound : BatchSocketSound limit state)

include sound

theorem put (fine : next.Sound) (gate : Balanced limit counter
      (state.singles + (state.batches.erase id).total Batch.held + next.held)) :
    BatchSocketSound limit (BatchSocket.put { state with counter } id next) where
  batches := OrderedMap.forall_set fine sound.batches
  finished := sound.finished
  gate := by
    have total := state.batches.total_set id next Batch.held
    unfold BatchSocket.put
    simp only [total]
    rw [← Nat.add_assoc]
    exact gate

theorem exit (settled : batch.Settled)
    (gate : Balanced limit counter (state.singles + (state.batches.erase id).total Batch.held)) :
    BatchSocketSound limit (BatchSocket.exit { state with counter } id batch) where
  batches other found present := by
    simp only [BatchSocket.exit, OrderedMap.get_erase] at present
    split_ifs at present
    exact sound.batches other found present
  finished other member := by
    rcases List.mem_cons.mp member with rfl | earlier
    · exact settled
    · exact sound.finished other earlier
  gate := gate

section

variable (found : state.batches.get id = some batch)

include found

theorem gate_without :
    Balanced limit state.counter
      (state.singles + (state.batches.erase id).total Batch.held + batch.held) := by
  have parts := state.batches.total_erase_of_present Batch.held found
  have gate := sound.gate
  rw [← parts, ← Nat.add_assoc] at gate
  exact gate

theorem gate_of_none (none : batch.held = 0) :
    Balanced limit state.counter
      (state.singles + (state.batches.erase id).total Batch.held) := by
  have gate := sound.gate_without found
  rw [none] at gate
  exact gate

theorem acknowledge (acquired : batch.acquired = batch.items)
    (unreleased : batch.released = 0) (changed : next.acquired = batch.acquired)
    (same : next.released = batch.released) (items : next.items = batch.items)
    (thrown : Option ThrownError) :
    BatchSocketSound limit (state.acknowledge id next thrown) := by
  have gate : Balanced limit (releaseSocketInflightSlots state.counter next.items)
      (state.singles + (state.batches.erase id).total Batch.held) := by
    refine Balanced.release ?_
    have before := sound.gate_without found
    unfold Batch.held at before
    rw [acquired, unreleased, Nat.sub_zero] at before
    rw [items]
    exact before
  have settled : ({ next with released := next.released + next.items } : Batch).Settled := by
    refine ⟨Or.inr ?_, ?_⟩
    · exact changed.trans (acquired.trans items.symm)
    · show next.released + next.items = next.acquired
      omega
  unfold BatchSocket.acknowledge
  cases thrown with
  | none => exact sound.exit settled gate
  | some error =>
    simp only
    split_ifs
    · refine sound.put ?_ ?_
      · refine ⟨changed.trans (acquired.trans items.symm), ?_⟩
        show next.released + next.items = next.items
        omega
      · have none : ({ next with
            phase := .closing
            released := next.released + next.items
            refunded := next.refunded + next.rateLimitCost
            rateLimitCost := 0 } : Batch).held = 0 := by
          show next.acquired - (next.released + next.items) = 0
          omega
        rw [none]
        exact gate
    · exact sound.exit settled gate

theorem put_idle (none : batch.held = 0) (fine : next.Sound)
    (still : next.held = 0) : BatchSocketSound limit (state.put id next) := by
  refine sound.put fine ?_
  rw [still]
  exact sound.gate_of_none found none

theorem exit_idle (settled : batch.Settled) :
    BatchSocketSound limit (state.exit id batch) := by
  have none : batch.held = 0 := by
    unfold Batch.held
    have released := settled.2
    omega
  exact sound.exit settled (sound.gate_of_none found none)

/-- The rate limiter allowed a batch: it takes a slot for each item, or its cost is given back. -/
theorem acquire (phase : batch.phase = .consuming) :
    BatchSocketSound limit (state.goOn limit id batch (.consumed id true)) := by
  have fine := sound.batches id batch found
  unfold Batch.Sound at fine
  rw [phase] at fine
  obtain ⟨-, refunded, acquired, released, outcomes, positive⟩ := fine
  have none : batch.held = 0 := by
    unfold Batch.held
    omega
  have gate := sound.gate_of_none found none
  simp only [BatchSocket.goOn, phase, ne_eq, not_true_eq_false, if_false, if_true]
  cases taken : (tryAcquireSocketInflightSlots state.counter batch.items limit).1 with
  | true =>
    rw [if_pos rfl]
    refine sound.put ⟨rfl, rfl, refunded, rfl, released, positive rfl⟩ ?_
    have held : ({ batch with
        phase := .dispatching
        rateLimitCost := batch.items
        consumed := batch.items
        acquired := batch.items } : Batch).held = batch.items := by
      show batch.items - batch.released = batch.items
      omega
    rw [held]
    exact gate.acquire taken
  | false =>
    rw [if_neg (by decide)]
    refine sound.put ⟨rfl, rfl, acquired, released, outcomes⟩ ?_
    have held : ({ batch with
        phase := .refundingRejected
        rateLimitCost := 0
        consumed := batch.items
        refunded := batch.items } : Batch).held = 0 := none
    rw [held]
    exact gate.refuse taken

theorem goOn (action : BatchAction) :
    BatchSocketSound limit (state.goOn limit id batch action) := by
  have fine := sound.batches id batch found
  unfold Batch.Sound at fine
  cases action with
  | checked other passes =>
    simp only [BatchSocket.goOn]
    split_ifs with phase allowed
    · exact sound
    · rw [not_not.mp phase] at fine
      obtain ⟨consumed, refunded, acquired, released, outcomes, -⟩ := fine
      have none : batch.held = 0 := by unfold Batch.held; omega
      exact sound.put_idle found none
        ⟨consumed, refunded, acquired, released, outcomes, nofun⟩ none
    · rw [not_not.mp phase] at fine
      obtain ⟨-, -, acquired, released, -⟩ := fine
      exact sound.exit_idle found ⟨Or.inl acquired, released.trans acquired.symm⟩
  | prepared other items =>
    simp only [BatchSocket.goOn]
    split_ifs with phase
    · exact sound
    · rw [not_not.mp phase] at fine
      obtain ⟨consumed, refunded, acquired, released, outcomes, -⟩ := fine
      have none : batch.held = 0 := by unfold Batch.held; omega
      have leaves : BatchSocketSound limit (state.exit id batch) :=
        sound.exit_idle found ⟨Or.inl acquired, released.trans acquired.symm⟩
      match items with
      | some (count + 1) =>
        exact sound.put_idle found none
          ⟨consumed, refunded, acquired, released, outcomes, fun _ => Nat.succ_pos count⟩ none
      | some 0 => exact leaves
      | Option.none => exact leaves
  | consumed other allowed =>
    by_cases phase : batch.phase = .consuming
    · cases allowed with
      | true => exact sound.acquire found phase
      | false =>
        rw [phase] at fine
        obtain ⟨-, -, acquired, released, -⟩ := fine
        simp only [BatchSocket.goOn, phase, ne_eq, not_true_eq_false, if_false,
          Bool.false_eq_true]
        exact sound.exit_idle found ⟨Or.inl acquired, released.trans acquired.symm⟩
    · simp only [BatchSocket.goOn, ne_eq, phase, not_false_eq_true, if_true]
      exact sound
  | rejected other =>
    simp only [BatchSocket.goOn]
    split_ifs with phase
    · exact sound
    · rw [not_not.mp phase] at fine
      obtain ⟨-, -, acquired, released, -⟩ := fine
      exact sound.exit_idle found ⟨Or.inl acquired, released.trans acquired.symm⟩
  | dispatched other outcomes thrown =>
    simp only [BatchSocket.goOn]
    split_ifs with wrong nonempty
    · exact sound
    · obtain ⟨phase, length⟩ := not_or.mp wrong
      rw [not_not.mp phase] at fine
      obtain ⟨consumed, cost, refunded, acquired, released, positive⟩ := fine
      have gate := sound.gate_without found
      refine sound.put ⟨consumed, cost, ?_, not_not.mp length, acquired, released, positive⟩ gate
      show batch.refunded + ItemOutcome.refundCount outcomes = ItemOutcome.refundCount outcomes
      omega
    · obtain ⟨phase, -⟩ := not_or.mp wrong
      rw [not_not.mp phase] at fine
      refine sound.acknowledge found fine.2.2.2.1 fine.2.2.2.2.1 ?_ ?_ ?_ thrown <;> rfl
  | refunded other thrown =>
    simp only [BatchSocket.goOn]
    split_ifs with phase
    · exact sound
    · rw [not_not.mp phase] at fine
      exact sound.acknowledge found fine.2.2.2.2.1 fine.2.2.2.2.2.1 rfl rfl rfl thrown
  | closed other =>
    simp only [BatchSocket.goOn]
    split_ifs with phase
    · exact sound
    · rw [not_not.mp phase] at fine
      obtain ⟨acquired, released⟩ := fine
      exact sound.exit_idle found ⟨Or.inr acquired, released.trans acquired.symm⟩
  | start | acquireSingle | releaseSingle => exact sound

end

/-- Every action keeps the batches sound. -/
theorem step (action : BatchAction) :
    BatchSocketSound limit (state.step limit action) := by
  have continues (id : Nat) :
      BatchSocketSound limit (match state.batches.get id with
        | some batch => state.goOn limit id batch action
        | none => state) := by
    cases found : state.batches.get id with
    | none => exact sound
    | some batch => exact sound.goOn found action
  cases action with
  | start id admissible =>
    simp only [BatchSocket.step]
    split_ifs with present admitted
    · exact sound
    · have absent : state.batches.get id = none := Option.not_isSome_iff_eq_none.mp present
      refine sound.put ⟨rfl, rfl, rfl, rfl, rfl, nofun⟩ ?_
      rw [state.batches.erase_of_absent absent]
      exact sound.gate
    · have absent : state.batches.get id = none := Option.not_isSome_iff_eq_none.mp present
      refine sound.exit ⟨Or.inl rfl, rfl⟩ ?_
      rw [state.batches.erase_of_absent absent]
      exact sound.gate
  | acquireSingle =>
    refine ⟨sound.batches, sound.finished, ?_⟩
    simp only [BatchSocket.step]
    cases taken : (tryAcquireSocketInflightSlots state.counter 1 limit).1 with
    | true =>
      rw [if_pos rfl, Nat.add_right_comm]
      exact sound.gate.acquire taken
    | false =>
      rw [if_neg (by decide)]
      exact sound.gate.refuse taken
  | releaseSingle =>
    simp only [BatchSocket.step]
    split_ifs with none
    · exact sound
    · have shape : state.singles - 1 + state.batches.total Batch.held + 1 =
          state.singles + state.batches.total Batch.held := by omega
      have gate := sound.gate
      rw [← shape] at gate
      exact ⟨sound.batches, sound.finished, gate.release⟩
  | checked id | prepared id | consumed id | rejected id | dispatched id | refunded id
  | closed id => exact continues id

end

theorem initial (limit : Nat) : BatchSocketSound limit {} where
  batches := nofun
  finished := nofun
  gate := by
    unfold Balanced
    split_ifs <;> rfl

theorem slotsHeld (sound : BatchSocketSound limit state) : SlotsHeld limit state where
  whole id batch found := by
    have fine := sound.batches id batch found
    unfold Batch.Sound at fine
    split at fine <;> omega
  exited := sound.finished
  counter positive := by
    have gate := sound.gate
    unfold Balanced at gate
    rw [if_neg (Nat.pos_iff_ne_zero.mp positive)] at gate
    exact gate

end BatchSocketSound

/-! ## Costs -/

section Costs

variable {limit : Nat} {state : BatchSocket} {id : Nat} {batch next : Batch}

theorem Batch.conserved_of_undispatched (same : batch.consumed = batch.refunded)
    (undispatched : batch.outcomes = []) : batch.Conserved := by
  unfold Batch.Conserved Batch.charged
  rw [same, undispatched]
  rfl

namespace CostsConserved

section

variable (conserved : CostsConserved state)

include conserved

theorem put (counter : Option Nat) (unsettled : next.phase ≠ .closing) :
    CostsConserved (BatchSocket.put { state with counter } id next) where
  finished := conserved.finished
  closing := OrderedMap.forall_set (fun closing => absurd closing unsettled) conserved.closing

theorem exit_iff (counter : Option Nat) :
    CostsConserved (BatchSocket.exit { state with counter } id next) ↔ next.Conserved := by
  constructor
  · intro after
    exact after.finished next List.mem_cons_self
  · intro fine
    refine ⟨fun other member => ?_, fun other found present closing => ?_⟩
    · rcases List.mem_cons.mp member with rfl | earlier
      · exact fine
      · exact conserved.finished other earlier
    · simp only [BatchSocket.exit, OrderedMap.get_erase] at present
      split_ifs at present
      exact conserved.closing other found present closing

/-- The acknowledgement of a dispatched batch conserves its costs exactly when it throws no
refundable error: a refundable error gives back the whole cost, and some of it is charged or was
given back. -/
theorem acknowledge_iff (consumed : next.consumed = next.items)
    (cost : next.rateLimitCost = next.items) (fine : next.Conserved) (positive : 0 < next.items)
    (thrown : Option ThrownError) :
    CostsConserved (state.acknowledge id next thrown) ↔
      ∀ error ∈ thrown, shouldRefundRelayRpcRequestRateLimit error = false := by
  have kept : ({ next with released := next.released + next.items } : Batch).Conserved := fine
  unfold BatchSocket.acknowledge
  cases thrown with
  | none => exact ⟨fun _ => nofun, fun _ => (conserved.exit_iff _).mpr kept⟩
  | some error =>
    simp only
    split_ifs with refunds
    · constructor
      · intro after
        have closing := after.closing id _ (OrderedMap.get_set_self _ _ _) rfl
        unfold Batch.Conserved Batch.charged at closing fine
        simp only at closing
        omega
      · intro quiet
        rw [quiet error rfl] at refunds
        exact absurd refunds.2 (by decide)
    · constructor
      · rintro - other ⟨⟩
        have paid : 0 < next.rateLimitCost := by omega
        cases refundable : shouldRefundRelayRpcRequestRateLimit error with
        | false => rfl
        | true => exact absurd ⟨paid, refundable⟩ refunds
      · intro _
        exact (conserved.exit_iff _).mpr kept

/-- A handler that continues conserves the costs exactly when its acknowledgement throws no
refundable error. -/
theorem continue_iff (sound : BatchSocketSound limit state)
    (found : state.batches.get id = some batch) (action : BatchAction)
    (about : action.batch? = some id) :
    CostsConserved (state.goOn limit id batch action) ↔ AcknowledgesQuietly state action := by
  have fine := sound.batches id batch found
  unfold Batch.Sound at fine
  cases action with
  | checked other passes =>
    refine iff_of_true ?_ trivial
    simp only [BatchSocket.goOn]
    split_ifs with phase allowed
    · exact conserved
    · exact conserved.put _ nofun
    · rw [not_not.mp phase] at fine
      obtain ⟨consumed, refunded, -, -, outcomes, -⟩ := fine
      exact (conserved.exit_iff state.counter).mpr
        (Batch.conserved_of_undispatched (consumed.trans refunded.symm) outcomes)
  | prepared other items =>
    refine iff_of_true ?_ trivial
    simp only [BatchSocket.goOn]
    split_ifs with phase
    · exact conserved
    · rw [not_not.mp phase] at fine
      obtain ⟨consumed, refunded, -, -, outcomes, -⟩ := fine
      have leaves : CostsConserved (state.exit id batch) :=
        (conserved.exit_iff state.counter).mpr
          (Batch.conserved_of_undispatched (consumed.trans refunded.symm) outcomes)
      match items with
      | some (count + 1) => exact conserved.put _ nofun
      | some 0 => exact leaves
      | none => exact leaves
  | consumed other allowed =>
    refine iff_of_true ?_ trivial
    simp only [BatchSocket.goOn]
    split_ifs with phase passes taken
    · exact conserved
    · exact conserved.put _ nofun
    · exact conserved.put _ nofun
    · rw [not_not.mp phase] at fine
      obtain ⟨consumed, refunded, -, -, outcomes, -⟩ := fine
      exact (conserved.exit_iff state.counter).mpr
        (Batch.conserved_of_undispatched (consumed.trans refunded.symm) outcomes)
  | rejected other =>
    refine iff_of_true ?_ trivial
    simp only [BatchSocket.goOn]
    split_ifs with phase
    · exact conserved
    · rw [not_not.mp phase] at fine
      obtain ⟨consumed, refunded, -, -, outcomes⟩ := fine
      exact (conserved.exit_iff state.counter).mpr
        (Batch.conserved_of_undispatched (consumed.trans refunded.symm) outcomes)
  | dispatched other outcomes thrown =>
    cases about
    have vacuous (never : batch.phase = .dispatching → outcomes.length = batch.items →
        ItemOutcome.refundCount outcomes ≠ 0) :
        AcknowledgesQuietly state (.dispatched id outcomes thrown) := by
      cases thrown with
      | none => trivial
      | some error =>
        intro held member phase length none
        rw [found] at member
        cases member
        exact absurd none (never phase length)
    simp only [BatchSocket.goOn]
    split_ifs with wrong nonempty
    · have never : batch.phase = .dispatching → outcomes.length = batch.items →
          ItemOutcome.refundCount outcomes ≠ 0 := by
        intro phase length
        rcases wrong with other | other
        · exact absurd phase other
        · exact absurd length other
      exact iff_of_true conserved (vacuous never)
    · exact iff_of_true (conserved.put _ nofun)
        (vacuous fun _ _ => Nat.pos_iff_ne_zero.mp nonempty)
    · obtain ⟨phase, length⟩ := not_or.mp wrong
      rw [not_not.mp phase] at fine
      obtain ⟨consumed, cost, refunded, -, -, positive⟩ := fine
      have whole := ItemOutcome.refundCount_add_charged outcomes
      have charges : ({ batch with
          outcomes
          refunded := batch.refunded + ItemOutcome.refundCount outcomes } : Batch).Conserved := by
        unfold Batch.Conserved Batch.charged
        simp only
        omega
      have acknowledged : CostsConserved (state.acknowledge id { batch with
          outcomes
          refunded := batch.refunded + ItemOutcome.refundCount outcomes } thrown) ↔
          ∀ error ∈ thrown, shouldRefundRelayRpcRequestRateLimit error = false := by
        refine conserved.acknowledge_iff ?_ ?_ charges ?_ thrown
        · exact consumed
        · exact cost
        · exact positive
      rw [acknowledged]
      cases thrown with
      | none => exact iff_of_true nofun trivial
      | some error =>
        constructor
        · intro quiet held member _ _ _
          exact quiet error rfl
        · rintro quiet _ ⟨⟩
          exact quiet batch found (not_not.mp phase) (not_not.mp length)
            (Nat.eq_zero_of_not_pos nonempty)
  | refunded other thrown =>
    cases about
    simp only [BatchSocket.goOn]
    split_ifs with wrong
    · refine iff_of_true conserved ?_
      cases thrown with
      | none => trivial
      | some error =>
        intro held member phase
        rw [found] at member
        cases member
        exact absurd phase wrong
    · have phase := not_not.mp wrong
      rw [phase] at fine
      obtain ⟨consumed, cost, refunded, length, -, -, positive⟩ := fine
      have whole := ItemOutcome.refundCount_add_charged batch.outcomes
      have charges : batch.Conserved := by
        unfold Batch.Conserved Batch.charged
        omega
      rw [conserved.acknowledge_iff consumed cost charges positive thrown]
      cases thrown with
      | none => exact iff_of_true nofun trivial
      | some error =>
        constructor
        · intro quiet held member _
          exact quiet error rfl
        · rintro quiet _ ⟨⟩
          exact quiet batch found phase
  | closed other =>
    refine iff_of_true ?_ trivial
    simp only [BatchSocket.goOn]
    split_ifs with phase
    · exact conserved
    · exact (conserved.exit_iff state.counter).mpr
        (conserved.closing id batch found (not_not.mp phase))
  | start | acquireSingle | releaseSingle => cases about

/-- A step conserves the costs exactly when it acknowledges no batch with a refundable error. -/
theorem step_iff (sound : BatchSocketSound limit state) (action : BatchAction) :
    AcknowledgesQuietly state action ↔ CostsConserved (state.step limit action) := by
  have continues (id : Nat) (about : action.batch? = some id) :
      AcknowledgesQuietly state action ↔ CostsConserved (match state.batches.get id with
        | some batch => state.goOn limit id batch action
        | none => state) := by
    cases found : state.batches.get id with
    | some batch => exact (conserved.continue_iff sound found action about).symm
    | none =>
      refine iff_of_true ?_ conserved
      cases action with
      | dispatched other outcomes thrown =>
        cases about
        cases thrown with
        | none => trivial
        | some error =>
          intro held member
          rw [found] at member
          cases member
      | refunded other thrown =>
        cases about
        cases thrown with
        | none => trivial
        | some error =>
          intro held member
          rw [found] at member
          cases member
      | _ => trivial
  cases action with
  | start id admissible =>
    refine iff_of_true trivial ?_
    simp only [BatchSocket.step]
    split_ifs
    · exact conserved
    · exact conserved.put _ nofun
    · exact (conserved.exit_iff state.counter).mpr rfl
  | acquireSingle => exact iff_of_true trivial ⟨conserved.finished, conserved.closing⟩
  | releaseSingle =>
    refine iff_of_true trivial ?_
    simp only [BatchSocket.step]
    split_ifs
    · exact conserved
    · exact ⟨conserved.finished, conserved.closing⟩
  | checked id | prepared id | consumed id | rejected id | dispatched id | refunded id
  | closed id => exact continues id rfl

end

end CostsConserved

end Costs

/-- For every run of the handlers of a socket, whatever the outcomes of their items: the cost
consumed minus the cost given back is the number of items that were neither deduplicated nor failed
refundably, in every state reached, exactly when no acknowledgement of a dispatched batch throws a
refundable error; and in every state reached the slots of a batch were taken for the whole batch or
not at all, a handler that returned released all of them exactly once, and the count of the socket
is that of the slots that are held. -/
theorem batches_conserved_iff (limit : Nat) (actions : List BatchAction) :
    (Meets (BatchSocket.step limit) AcknowledgesQuietly {} actions ↔
      ∀ taken, taken <+: actions → CostsConserved (run (BatchSocket.step limit) {} taken)) ∧
    ∀ taken, taken <+: actions → SlotsHeld limit (run (BatchSocket.step limit) {} taken) := by
  have keeps (state : BatchSocket) (action : BatchAction) (sound : BatchSocketSound limit state)
      (_ : CostsConserved state) (_ : AcknowledgesQuietly state action) :
      BatchSocketSound limit (state.step limit action) := sound.step action
  have decides (state : BatchSocket) (action : BatchAction) (sound : BatchSocketSound limit state)
      (conserved : CostsConserved state) :
      AcknowledgesQuietly state action ↔ CostsConserved (state.step limit action) :=
    conserved.step_iff sound action
  have steps (state : BatchSocket) (action : BatchAction) (sound : BatchSocketSound limit state) :
      BatchSocketSound limit (state.step limit action) := sound.step action
  refine ⟨meets_iff_every_state _ keeps decides (BatchSocketSound.initial limit)
    ⟨nofun, nofun⟩ actions, fun taken _ => ?_⟩
  exact (run_invariant _ steps (BatchSocketSound.initial limit) taken).slotsHeld

/-- Two items are accepted and the acknowledgement throws. -/
def acknowledgementThrows : List BatchAction :=
  [.start 0 true, .checked 0 true, .prepared 0 (some 2), .consumed 0 true,
    .dispatched 0 [.accepted, .accepted] (some .unexpected), .closed 0]

/-- The whole cost of two accepted items is given back. -/
theorem accepted_items_refunded :
    let final := run (BatchSocket.step 8) {} acknowledgementThrows
    ¬CostsConserved final ∧
      final.finished.map (fun batch => (batch.consumed, batch.refunded, batch.charged)) =
        [(2, 2, 2)] := by
  refine ⟨fun conserved => ?_, by decide⟩
  have stored : ∃ batch ∈ (run (BatchSocket.step 8) {} acknowledgementThrows).finished,
      batch.consumed ≠ batch.refunded + batch.charged := by decide
  obtain ⟨batch, member, differs⟩ := stored
  exact differs (conserved.finished batch member)

end PlugHub.Relay
