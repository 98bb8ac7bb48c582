import Mathlib.Data.List.Basic
import PlugHub.Library.Runs

/-!
# The queue of the socket audit

Audit events wait in an array with a moving head. A full queue drops its oldest event. Events are
written in batches by a flush: it is begun at once when a batch is full, by a timer otherwise, and
at the shutdown; flushes are chained, so that one begins when the one before has ended. A flush asks
for the table before each batch and gives the whole queue up when there is none.

What a flush does between two awaits is one step, and everything else can happen in between. The
state of a run keeps the events in the order in which they came and in which they left the queue.
-/

namespace PlugHub.SocketAudit

open Library

/-! ## The queue -/

/-- `auditEventQueue` with `auditEventQueueHead`. -/
structure EventQueue (α : Type) where
  slots : List α
  head : Nat
  within : head ≤ slots.length

namespace EventQueue

variable {α : Type}

theorem nothing_taken : 0 ≤ ([] : List α).length := Nat.le_refl 0

/-- The queue without events. -/
def empty : EventQueue α := ⟨[], 0, nothing_taken⟩

/-- The events that wait, first to last. -/
def items (queue : EventQueue α) : List α := queue.slots.drop queue.head

/-- `getAuditEventQueueLength`. -/
def length (queue : EventQueue α) : Nat := queue.slots.length - queue.head

/-- `compactAuditEventQueue`. -/
def compact (queue : EventQueue α) : EventQueue α :=
  if queue.head = 0 then queue
  else if queue.slots.length ≤ queue.head then empty
  else if 64 ≤ queue.head ∧ queue.slots.length ≤ queue.head * 2 then
    ⟨queue.slots.drop queue.head, 0, Nat.zero_le _⟩
  else queue

/-- The head moves to a place, and the holes may be cut off. -/
def moveHead (queue : EventQueue α) (place : Nat) : EventQueue α :=
  compact ⟨queue.slots, min queue.slots.length place, Nat.min_le_left _ _⟩

/-- `dequeueAuditBatch`: the batch and what is left. -/
def dequeueAuditBatch (queue : EventQueue α) (maxItems : Nat) : List α × EventQueue α :=
  if queue.length = 0 then ([], queue)
  else
    let place := queue.head + max 1 maxItems
    ((queue.slots.take place).drop queue.head, queue.moveHead place)

/-- The oldest event is dropped. -/
def dropOldest (queue : EventQueue α) : EventQueue α := queue.moveHead (queue.head + 1)

/-- An event is added at the end. -/
def push (queue : EventQueue α) (event : α) : EventQueue α where
  slots := queue.slots ++ [event]
  head := queue.head
  within := by
    rw [List.length_append]
    exact Nat.le_add_right_of_le queue.within

@[simp] theorem items_empty : (empty : EventQueue α).items = [] := rfl

section

variable (queue : EventQueue α)

include queue

theorem length_eq : queue.length = queue.items.length := by
  rw [items, List.length_drop, length]

theorem items_compact : queue.compact.items = queue.items := by
  unfold compact
  split_ifs with absent ended
  · rfl
  · rw [items_empty, items, List.drop_eq_nil_of_le ended]
  · rfl
  · rfl

theorem items_push (event : α) :
    (queue.push event).items = queue.items ++ [event] :=
  List.drop_append_of_le_length queue.within

theorem items_moveHead (count : Nat) :
    (queue.moveHead (queue.head + count)).items = queue.items.drop count := by
  rw [moveHead, items_compact, items, items, List.drop_drop]
  simp only
  rcases Nat.le_total queue.slots.length (queue.head + count) with beyond | inside
  · rw [Nat.min_eq_left beyond, List.drop_length, List.drop_eq_nil_of_le beyond]
  · rw [Nat.min_eq_right inside]

theorem items_dropOldest : queue.dropOldest.items = queue.items.drop 1 :=
  queue.items_moveHead 1

theorem items_dequeueAuditBatch (maxItems : Nat) :
    (queue.dequeueAuditBatch maxItems).1 ++ (queue.dequeueAuditBatch maxItems).2.items =
      queue.items := by
  unfold dequeueAuditBatch
  split_ifs with blank
  · rfl
  · simp only
    rw [items_moveHead, List.drop_take, Nat.add_sub_cancel_left]
    exact List.take_append_drop _ _

end

end EventQueue

open EventQueue

/-! ## The service -/

/-- Settings of the audit, in batched mode. -/
structure AuditConfig where
  batchMax : Nat
  maxQueue : Nat
  /-- So many of a hundred events are kept of those that there are many of. -/
  highVolumeSamplePercent : Nat
  batched : 1 < batchMax

/-- An event: its type and everything else. -/
structure SocketAuditEventInput (α : Type) where
  eventType : String
  content : α

/-- `HIGH_VOLUME_SOCKET_AUDIT_EVENT_TYPES`. -/
def highVolumeEventTypes : List String :=
  ["relay:rpc.chunk", "relay:rpc.request", "relay:rpc.response"]

/-- `shouldSampleSkipHighVolumeAudit`, where a number was drawn that is past the percentage or
not. -/
def shouldSampleSkipHighVolumeAudit {α : Type} (config : AuditConfig)
    (input : SocketAuditEventInput α) (drawnOut : Bool) : Bool :=
  if 100 ≤ config.highVolumeSamplePercent then false
  else if !highVolumeEventTypes.contains input.eventType then false
  else drawnOut

/-- What is known of the table. -/
inductive AuditTableState where
  | unknown
  | available
  | missing

/-- The state after a probe. -/
def AuditTableState.ofProbe (found : Bool) : AuditTableState :=
  if found then .available else .missing

/-- `canUseAuditTable`: what it answers without a probe. -/
def AuditTableState.canUse : AuditTableState → Option Bool
  | .available => some true
  | .missing => some false
  | .unknown => none

/-- `auditMetrics`, as far as the writes go. -/
structure AuditMetrics where
  writesAttempted : Nat := 0
  writesSucceeded : Nat := 0
  writesFailed : Nat := 0
  writesSkippedTableMissing : Nat := 0
  writesSampleSkipped : Nat := 0
  writesDroppedOverflow : Nat := 0

/-- Where a flush is suspended. -/
inductive FlushPhase (α : Type) where
  /-- On the question whether there is a table: the answer, or none while it is probed. -/
  | asking (answer : Option Bool)
  | writing (batch : List (SocketAuditEventInput α))

/-- How an event left the queue. -/
inductive Departure where
  | handed
  | overflow
  | discarded
deriving DecidableEq

/-- Events that left the queue in one way. -/
def depart {α : Type} (fate : Departure) (events : List (SocketAuditEventInput α)) :
    List (SocketAuditEventInput α × Departure) :=
  events.map fun event => (event, fate)

/-- The service. -/
structure AuditService (α : Type) where
  queue : EventQueue (SocketAuditEventInput α) := .empty
  tableState : AuditTableState := .unknown
  timer : Bool := false
  pending : Nat := 0
  running : Option (FlushPhase α) := none
  metrics : AuditMetrics := {}
  accepted : List (SocketAuditEventInput α) := []
  departed : List (SocketAuditEventInput α × Departure) := []
  batches : List (List (SocketAuditEventInput α)) := []

/-- What happens to the service. -/
inductive AuditAction (α : Type) where
  /-- An event comes; the number that is drawn is past the percentage or not. -/
  | record (input : SocketAuditEventInput α) (drawnOut : Bool)
  | timerFires
  /-- The hub shuts down: `flushPendingSocketAuditEvents`. -/
  | shutdown
  | begin
  /-- The probe of a flush finds the table, or finds that there is none. -/
  | probed (found : Bool)
  | probeFails
  | resume
  | inserted
  /-- The batch was not written, because there is no table or for another reason. -/
  | insertFails (tableMissing : Bool)
  | pruned (found : Bool)

/-- It is a call of `recordSocketAuditEvent`. -/
def AuditAction.isRecord {α : Type} : AuditAction α → Bool
  | .record _ _ => true
  | _ => false

/-- The event of a call that is not sampled out. -/
def AuditAction.kept {α : Type} (config : AuditConfig) :
    AuditAction α → Option (SocketAuditEventInput α)
  | .record input drawnOut =>
    if shouldSampleSkipHighVolumeAudit config input drawnOut then none else some input
  | _ => none

namespace AuditService

variable {α : Type} (config : AuditConfig) (audit : AuditService α)

/-- How many events are being written. -/
def beingWritten : Nat :=
  match audit.running with
  | some (.writing batch) => batch.length
  | _ => 0

/-- `queueAuditFlush`. -/
def queueAuditFlush : AuditService α := { audit with pending := audit.pending + 1 }

/-- The condition of the loop of `performAuditFlush`: it asks for the table or ends. -/
def continueFlush : AuditService α :=
  if audit.queue.length = 0 then { audit with running := none }
  else { audit with running := some (.asking audit.tableState.canUse) }

/-- The whole queue is given up. -/
def discardAll : AuditService α :=
  { audit with
    queue := .empty
    running := none
    metrics :=
      { audit.metrics with
        writesSkippedTableMissing :=
          audit.metrics.writesSkippedTableMissing + audit.queue.length }
    departed := audit.departed ++ depart .discarded audit.queue.items }

/-- The next batch is written. -/
def writeBatch : AuditService α :=
  let (batch, rest) := audit.queue.dequeueAuditBatch config.batchMax
  { audit with
    queue := rest
    running := some (.writing batch)
    departed := audit.departed ++ depart .handed batch
    batches := audit.batches ++ [batch] }

/-- A full queue drops its oldest event. -/
def makeRoom : AuditService α :=
  if 0 < config.maxQueue ∧ config.maxQueue ≤ audit.queue.length then
    { audit with
      queue := audit.queue.dropOldest
      metrics :=
        { audit.metrics with
          writesDroppedOverflow := audit.metrics.writesDroppedOverflow + 1 }
      departed := audit.departed ++ depart .overflow (audit.queue.items.take 1) }
  else audit

/-- An event comes into the queue, and a flush is begun or the timer armed. -/
def enqueue (input : SocketAuditEventInput α) : AuditService α :=
  let audit :=
    { audit with queue := audit.queue.push input, accepted := audit.accepted ++ [input] }
  if config.batchMax ≤ audit.queue.length then audit.queueAuditFlush
  else { audit with timer := true }

/-- `recordSocketAuditEvent`. -/
def recordSocketAuditEvent (input : SocketAuditEventInput α) (drawnOut : Bool) : AuditService α :=
  let audit :=
    { audit with
      metrics := { audit.metrics with writesAttempted := audit.metrics.writesAttempted + 1 } }
  if shouldSampleSkipHighVolumeAudit config input drawnOut then
    { audit with
      metrics :=
        { audit.metrics with writesSampleSkipped := audit.metrics.writesSampleSkipped + 1 } }
  else (audit.makeRoom config).enqueue config input

/-- One step. -/
def step : AuditAction α → AuditService α
  | .record input drawnOut => audit.recordSocketAuditEvent config input drawnOut
  | .timerFires =>
    if audit.timer then { audit with timer := false }.queueAuditFlush else audit
  | .shutdown => { audit with timer := false }.queueAuditFlush
  | .begin =>
    match audit.running with
    | some _ => audit
    | none =>
      if audit.pending = 0 then audit
      else { audit with pending := audit.pending - 1, timer := false }.continueFlush
  | .probed found =>
    match audit.running with
    | some (.asking none) =>
      { audit with
        tableState := .ofProbe found, running := some (.asking (some found)) }
    | _ => audit
  | .probeFails =>
    match audit.running with
    | some (.asking none) => { audit with running := some (.asking (some false)) }
    | _ => audit
  | .resume =>
    match audit.running with
    | some (.asking (some true)) => audit.writeBatch config
    | some (.asking (some false)) => audit.discardAll
    | _ => audit
  | .inserted =>
    match audit.running with
    | some (.writing batch) =>
      { audit with
        metrics :=
          { audit.metrics with
            writesSucceeded := audit.metrics.writesSucceeded + batch.length } }.continueFlush
    | _ => audit
  | .insertFails tableMissing =>
    match audit.running with
    | some (.writing batch) =>
      if tableMissing then
        { audit with
          tableState := .missing
          metrics :=
            { audit.metrics with
              writesSkippedTableMissing :=
                audit.metrics.writesSkippedTableMissing + batch.length } }.continueFlush
      else
        { audit with
          metrics :=
            { audit.metrics with
              writesFailed := audit.metrics.writesFailed + batch.length } }.continueFlush
    | _ => audit
  | .pruned found => { audit with tableState := .ofProbe found }

/-- What is promised. -/
structure Lawful : Prop where
  /-- Every event is skipped, written, failed, dropped or still here. -/
  conserved : audit.metrics.writesAttempted =
    audit.metrics.writesSampleSkipped + audit.metrics.writesSucceeded +
      audit.metrics.writesFailed + audit.metrics.writesSkippedTableMissing +
        audit.metrics.writesDroppedOverflow + audit.queue.length + audit.beingWritten
  /-- Events leave the queue in the order in which they came: the oldest first, whether they are
  written, dropped or given up. -/
  arrival : audit.accepted = audit.departed.map Prod.fst ++ audit.queue.items
  /-- The batches that are written are the events that left the queue to be written. -/
  written : audit.batches.flatten =
    (audit.departed.filter fun event => event.2 = .handed).map Prod.fst
  /-- The metric counts the events that overflow dropped. -/
  overflow : audit.metrics.writesDroppedOverflow =
    audit.departed.countP fun event => event.2 = .overflow
  capped : 0 < config.maxQueue → audit.queue.length ≤ config.maxQueue
  /-- Events wait for a timer that is armed or for a flush that is to begin or runs. -/
  awake : audit.queue.items ≠ [] → audit.timer = true ∨ 0 < audit.pending ∨
    audit.running.isSome = true

/-! ## The accounts -/

/-- The accounts, where so many events are being written. -/
structure Accounts (config : AuditConfig) (audit : AuditService α) (inFlight : Nat) : Prop where
  conserved : audit.metrics.writesAttempted =
    audit.metrics.writesSampleSkipped + audit.metrics.writesSucceeded +
      audit.metrics.writesFailed + audit.metrics.writesSkippedTableMissing +
        audit.metrics.writesDroppedOverflow + audit.queue.length + inFlight
  arrival : audit.accepted = audit.departed.map Prod.fst ++ audit.queue.items
  written : audit.batches.flatten =
    (audit.departed.filter fun event => event.2 = .handed).map Prod.fst
  overflow : audit.metrics.writesDroppedOverflow =
    audit.departed.countP fun event => event.2 = .overflow
  capped : 0 < config.maxQueue → audit.queue.length ≤ config.maxQueue

section Accounts

variable {config : AuditConfig} {audit : AuditService α}

theorem Lawful.accounts (lawful : audit.Lawful config) : Accounts config audit audit.beingWritten :=
  ⟨lawful.conserved, lawful.arrival, lawful.written, lawful.overflow, lawful.capped⟩

theorem Accounts.lawful {inFlight : Nat} (accounts : Accounts config audit inFlight)
    (same : inFlight = audit.beingWritten)
    (awake : audit.queue.items ≠ [] → audit.timer = true ∨ 0 < audit.pending ∨
      audit.running.isSome = true) : audit.Lawful config :=
  { accounts with
    conserved := same ▸ accounts.conserved
    awake := awake }

theorem items_of_length {queue : EventQueue (SocketAuditEventInput α)} (absent : queue.length = 0) :
    queue.items = [] := by
  rw [length_eq] at absent
  exact List.length_eq_zero_iff.mp absent

theorem Accounts.continueFlush (accounts : Accounts config audit 0) :
    audit.continueFlush.Lawful config := by
  unfold AuditService.continueFlush
  split_ifs with absent
  · have same : Accounts config { audit with running := none } 0 :=
      ⟨accounts.conserved, accounts.arrival, accounts.written, accounts.overflow, accounts.capped⟩
    exact same.lawful rfl fun nonempty => absurd (items_of_length absent) nonempty
  · have same : Accounts config
        { audit with running := some (.asking audit.tableState.canUse) } 0 :=
      ⟨accounts.conserved, accounts.arrival, accounts.written, accounts.overflow, accounts.capped⟩
    exact same.lawful rfl fun _ => .inr (.inr rfl)

theorem map_fst_depart (fate : Departure) (events : List (SocketAuditEventInput α)) :
    (depart fate events).map Prod.fst = events := by
  rw [depart, List.map_map]
  exact List.map_id _

theorem handed_depart (fate : Departure) (events : List (SocketAuditEventInput α)) :
    ((depart fate events).filter fun event => event.2 = .handed).map Prod.fst =
      if fate = .handed then events else [] := by
  induction events with
  | nil => split_ifs <;> rfl
  | cons event rest ih =>
    rw [depart, List.map_cons, ← depart, List.filter_cons]
    by_cases handed : fate = .handed
    · rw [if_pos handed] at ih
      rw [if_pos (decide_eq_true handed), if_pos handed, List.map_cons, ih]
    · rw [if_neg handed] at ih
      rw [if_neg (by simp [handed]), if_neg handed, ih]

theorem overflow_depart (fate : Departure) (events : List (SocketAuditEventInput α)) :
    (depart fate events).countP (fun event => event.2 = .overflow) =
      if fate = .overflow then events.length else 0 := by
  rw [depart, List.countP_map]
  by_cases dropped : fate = .overflow
  · rw [if_pos dropped]
    exact List.countP_eq_length.mpr fun event _ => decide_eq_true dropped
  · rw [if_neg dropped]
    exact List.countP_eq_zero.mpr fun event _ => by simp [dropped]

theorem Accounts.discardAll (accounts : Accounts config audit 0) :
    audit.discardAll.Lawful config := by
  have after : Accounts config audit.discardAll 0 := {
    conserved := by
      have before := accounts.conserved
      simp only [AuditService.discardAll, EventQueue.length, empty, List.length_nil]
      simp only [EventQueue.length] at before
      omega
    arrival := by
      simp only [AuditService.discardAll, List.map_append, map_fst_depart, items_empty,
        List.append_nil]
      exact accounts.arrival
    written := by
      simp only [AuditService.discardAll, List.filter_append, List.map_append, handed_depart,
        reduceCtorEq, if_false, List.append_nil]
      exact accounts.written
    overflow := by
      simp only [AuditService.discardAll, List.countP_append, overflow_depart, reduceCtorEq,
        if_false, Nat.add_zero]
      exact accounts.overflow
    capped := fun _ => Nat.zero_le _ }
  exact after.lawful rfl fun nonempty => absurd rfl nonempty

theorem Accounts.writeBatch (accounts : Accounts config audit 0) :
    (audit.writeBatch config).Lawful config := by
  have parts := audit.queue.items_dequeueAuditBatch config.batchMax
  have lengths := congrArg List.length parts
  rw [List.length_append, ← length_eq, ← length_eq] at lengths
  have after : Accounts config (audit.writeBatch config)
      (audit.queue.dequeueAuditBatch config.batchMax).1.length := {
    conserved := by
      have before := accounts.conserved
      simp only [AuditService.writeBatch]
      omega
    arrival := by
      simp only [AuditService.writeBatch, List.map_append, map_fst_depart]
      rw [accounts.arrival, List.append_assoc, parts]
    written := by
      simp only [AuditService.writeBatch, List.filter_append, List.map_append, List.flatten_append,
        handed_depart, if_true, List.flatten_cons, List.flatten_nil, List.append_nil]
      rw [accounts.written]
    overflow := by
      simp only [AuditService.writeBatch, List.countP_append, overflow_depart, reduceCtorEq,
        if_false, Nat.add_zero]
      exact accounts.overflow
    capped := by
      intro bounded
      have before := accounts.capped bounded
      simp only [AuditService.writeBatch]
      omega }
  exact after.lawful rfl fun _ => .inr (.inr rfl)

theorem Accounts.makeRoom {inFlight : Nat} (accounts : Accounts config audit inFlight) :
    Accounts config (audit.makeRoom config) inFlight ∧
      (0 < config.maxQueue → (audit.makeRoom config).queue.length < config.maxQueue) := by
  unfold AuditService.makeRoom
  split_ifs with crowded
  · have nonempty : 0 < audit.queue.items.length := by
      rw [← length_eq]
      omega
    have shorter : audit.queue.dropOldest.length + 1 = audit.queue.length := by
      rw [length_eq, items_dropOldest, List.length_drop,
        length_eq]
      omega
    have one : (audit.queue.items.take 1).length = 1 := by
      rw [List.length_take]
      omega
    constructor
    · exact {
        conserved := by
          have before := accounts.conserved
          simp only
          omega
        arrival := by
          simp only [List.map_append, map_fst_depart]
          rw [accounts.arrival, items_dropOldest, List.append_assoc,
            List.take_append_drop]
        written := by
          simp only [List.filter_append, List.map_append, handed_depart, reduceCtorEq, if_false,
            List.append_nil]
          exact accounts.written
        overflow := by
          simp only [List.countP_append, overflow_depart, if_true, one]
          rw [accounts.overflow]
        capped := by
          intro bounded
          have before := accounts.capped bounded
          simp only
          omega }
    · intro bounded
      have before := accounts.capped bounded
      simp only
      omega
  · refine ⟨accounts, fun bounded => ?_⟩
    omega

theorem Accounts.enqueue (accounts : Accounts config audit (audit.beingWritten + 1))
    (room : 0 < config.maxQueue → audit.queue.length < config.maxQueue)
    (input : SocketAuditEventInput α) : (audit.enqueue config input).Lawful config := by
  have longer : (audit.queue.push input).length = audit.queue.length + 1 := by
    rw [length_eq, items_push, List.length_append, ← length_eq]
    rfl
  have after : Accounts config
      { audit with queue := audit.queue.push input, accepted := audit.accepted ++ [input] }
      audit.beingWritten := {
    conserved := by
      have before := accounts.conserved
      simp only
      omega
    arrival := by
      simp only [items_push]
      rw [accounts.arrival, List.append_assoc]
    written := accounts.written
    overflow := accounts.overflow
    capped := by
      intro bounded
      have before := room bounded
      simp only
      omega }
  unfold AuditService.enqueue
  simp only
  split_ifs
  · have same : Accounts config
        (queueAuditFlush
          { audit with queue := audit.queue.push input, accepted := audit.accepted ++ [input] })
        audit.beingWritten :=
      ⟨after.conserved, after.arrival, after.written, after.overflow, after.capped⟩
    exact same.lawful rfl fun _ => .inr (.inl (Nat.succ_pos _))
  · have same : Accounts config
        { audit with
          queue := audit.queue.push input, accepted := audit.accepted ++ [input], timer := true }
        audit.beingWritten :=
      ⟨after.conserved, after.arrival, after.written, after.overflow, after.capped⟩
    exact same.lawful rfl fun _ => .inl rfl

theorem beingWritten_makeRoom : (audit.makeRoom config).beingWritten = audit.beingWritten := by
  unfold makeRoom
  split_ifs
  · rfl
  · rfl

end Accounts

/-! ## Runs -/

section Steps

variable {config : AuditConfig} {audit : AuditService α}

section

variable (lawful : audit.Lawful config)

include lawful

theorem Lawful.record (input : SocketAuditEventInput α)
    (drawnOut : Bool) : (audit.recordSocketAuditEvent config input drawnOut).Lawful config := by
  have begun : Accounts config
      { audit with
        metrics := { audit.metrics with writesAttempted := audit.metrics.writesAttempted + 1 } }
      (audit.beingWritten + 1) := { lawful with
    conserved := by
      have before := lawful.conserved
      simp only
      omega }
  unfold recordSocketAuditEvent
  simp only
  split_ifs
  · exact { lawful with
      conserved := by
        have before := lawful.conserved
        simp only [beingWritten] at before ⊢
        omega }
  · obtain ⟨accounts, room⟩ := begun.makeRoom
    refine Accounts.enqueue ?_ room input
    rw [beingWritten_makeRoom]
    exact accounts

theorem Lawful.chain (timer : Bool) :
    ({ audit with timer }.queueAuditFlush).Lawful config :=
  ⟨lawful.conserved, lawful.arrival, lawful.written, lawful.overflow, lawful.capped,
    fun _ => .inr (.inl (Nat.succ_pos _))⟩

theorem Lawful.setTable (tableState : AuditTableState) :
    ({ audit with tableState }).Lawful config :=
  ⟨lawful.conserved, lawful.arrival, lawful.written, lawful.overflow, lawful.capped, lawful.awake⟩

theorem Lawful.answered (asked : audit.running = some (.asking none)) (answer : Bool) :
    ({ audit with running := some (.asking (some answer)) }).Lawful config :=
  { lawful with
    conserved := by
      have before := lawful.conserved
      rw [beingWritten, asked] at before
      exact before
    awake := fun _ => .inr (.inr rfl) }

theorem Lawful.settle
    {batch : List (SocketAuditEventInput α)} (writing : audit.running = some (.writing batch))
    {metrics : AuditMetrics} (tableState : AuditTableState)
    (attempted : metrics.writesAttempted = audit.metrics.writesAttempted)
    (counted : metrics.writesSampleSkipped + metrics.writesSucceeded + metrics.writesFailed +
        metrics.writesSkippedTableMissing + metrics.writesDroppedOverflow =
      audit.metrics.writesSampleSkipped + audit.metrics.writesSucceeded +
        audit.metrics.writesFailed + audit.metrics.writesSkippedTableMissing +
          audit.metrics.writesDroppedOverflow + batch.length)
    (dropped : metrics.writesDroppedOverflow = audit.metrics.writesDroppedOverflow) :
    ({ audit with metrics, tableState }.continueFlush).Lawful config := by
  refine Accounts.continueFlush { lawful with
    conserved := ?_
    overflow := dropped.trans lawful.overflow }
  have before := lawful.conserved
  rw [beingWritten, writing] at before
  simp only at before ⊢
  omega

/-- Every action keeps the audit lawful. -/
theorem Lawful.step (action : AuditAction α) :
    (audit.step config action).Lawful config := by
  cases action with
  | record input drawnOut => exact lawful.record input drawnOut
  | timerFires =>
    simp only [AuditService.step]
    split_ifs
    · exact lawful.chain false
    · exact lawful
  | shutdown => exact lawful.chain false
  | begin =>
    simp only [AuditService.step]
    split
    · exact lawful
    · rename_i idle
      split_ifs
      · exact lawful
      · refine Accounts.continueFlush { lawful with
          conserved := ?_ }
        have before := lawful.conserved
        rw [beingWritten, idle] at before
        exact before
  | probed found =>
    simp only [AuditService.step]
    split
    · rename_i asked
      exact (lawful.answered asked found).setTable _
    · exact lawful
  | probeFails =>
    simp only [AuditService.step]
    split
    · rename_i asked
      exact lawful.answered asked false
    · exact lawful
  | resume =>
    have accounts := lawful.accounts
    simp only [AuditService.step]
    split
    · rename_i asked
      rw [beingWritten, asked] at accounts
      exact accounts.writeBatch
    · rename_i asked
      rw [beingWritten, asked] at accounts
      exact accounts.discardAll
    · exact lawful
  | inserted =>
    simp only [AuditService.step]
    split
    · rename_i batch writing
      exact lawful.settle writing audit.tableState rfl (by simp only; omega) rfl
    · exact lawful
  | insertFails tableMissing =>
    simp only [AuditService.step]
    split
    · rename_i batch writing
      split_ifs
      · exact lawful.settle writing .missing rfl (by simp only; omega) rfl
      · exact lawful.settle writing audit.tableState rfl (by simp only; omega) rfl
    · exact lawful
  | pruned found => exact lawful.setTable _

end

theorem intake_continueFlush (audit : AuditService α) :
    audit.continueFlush.metrics = audit.metrics ∧
      audit.continueFlush.accepted = audit.accepted := by
  unfold continueFlush
  split_ifs <;> exact ⟨rfl, rfl⟩

theorem intake_record (config : AuditConfig) (audit : AuditService α)
    (input : SocketAuditEventInput α) (drawnOut : Bool) :
    (audit.recordSocketAuditEvent config input drawnOut).metrics.writesAttempted =
        audit.metrics.writesAttempted + 1 ∧
      (audit.recordSocketAuditEvent config input drawnOut).accepted =
        audit.accepted ++ ((AuditAction.record input drawnOut).kept config).toList := by
  simp only [recordSocketAuditEvent, AuditAction.kept]
  split_ifs with skipped
  · exact ⟨rfl, (List.append_nil _).symm⟩
  · simp only [enqueue, makeRoom, queueAuditFlush]
    split_ifs <;> exact ⟨rfl, rfl⟩

/-- Only a record adds to the attempts and to the events that came. -/
theorem intake_step (config : AuditConfig) (audit : AuditService α) (action : AuditAction α) :
    (audit.step config action).metrics.writesAttempted =
        audit.metrics.writesAttempted + [action].countP (·.isRecord) ∧
      (audit.step config action).accepted =
        audit.accepted ++ [action].filterMap (·.kept config) := by
  cases action with
  | record input drawnOut =>
    obtain ⟨attempted, came⟩ := intake_record config audit input drawnOut
    refine ⟨attempted, came.trans ?_⟩
    cases same : (AuditAction.record input drawnOut).kept config <;>
      simp only [List.filterMap_cons, List.filterMap_nil, same, Option.toList]
  | timerFires =>
    simp only [AuditService.step]
    split_ifs <;> exact ⟨rfl, (List.append_nil _).symm⟩
  | shutdown | pruned => exact ⟨rfl, (List.append_nil _).symm⟩
  | begin =>
    simp only [AuditService.step]
    split
    · exact ⟨rfl, (List.append_nil _).symm⟩
    · split_ifs
      · exact ⟨rfl, (List.append_nil _).symm⟩
      · obtain ⟨metrics, came⟩ := intake_continueFlush
          { audit with pending := audit.pending - 1, timer := false }
        rw [metrics, came]
        exact ⟨rfl, (List.append_nil _).symm⟩
  | probed | probeFails | resume =>
    simp only [AuditService.step]
    split <;> exact ⟨rfl, (List.append_nil _).symm⟩
  | inserted =>
    simp only [AuditService.step]
    split
    · rw [(intake_continueFlush _).1, (intake_continueFlush _).2]
      exact ⟨rfl, (List.append_nil _).symm⟩
    · exact ⟨rfl, (List.append_nil _).symm⟩
  | insertFails tableMissing =>
    simp only [AuditService.step]
    split
    · split_ifs <;> rw [(intake_continueFlush _).1, (intake_continueFlush _).2] <;>
        exact ⟨rfl, (List.append_nil _).symm⟩
    · exact ⟨rfl, (List.append_nil _).symm⟩

end Steps

end AuditService

/-- In every state that the audit can reach in batched mode, every event that came is accounted for,
events leave the queue in the order in which they came, the queue is no longer than it may be, and
events that wait have an armed timer or a flush. The attempts are the calls that were made, and the
events that came are those of the calls that are not sampled out. -/
theorem socket_audit_lawful {α : Type} (config : AuditConfig) (actions : List (AuditAction α)) :
    let audit := run (AuditService.step config) {} actions
    audit.Lawful config ∧ audit.metrics.writesAttempted = actions.countP (·.isRecord) ∧
      audit.accepted = actions.filterMap (·.kept config) := by
  have keeps : ∀ (taken : List (AuditAction α)) (audit : AuditService α) (action : AuditAction α),
      audit.Lawful config ∧ audit.metrics.writesAttempted = taken.countP (·.isRecord) ∧
        audit.accepted = taken.filterMap (·.kept config) →
      (audit.step config action).Lawful config ∧
        (audit.step config action).metrics.writesAttempted =
          (taken ++ [action]).countP (·.isRecord) ∧
        (audit.step config action).accepted = (taken ++ [action]).filterMap (·.kept config) := by
    rintro taken audit action ⟨lawful, attempted, came⟩
    obtain ⟨counts, adds⟩ := AuditService.intake_step config audit action
    rw [List.countP_append, List.filterMap_append, ← attempted, ← came]
    exact ⟨lawful.step action, counts, adds⟩
  have initially : ({} : AuditService α).Lawful config :=
    ⟨rfl, rfl, rfl, rfl, fun _ => Nat.zero_le _, fun nonempty => absurd rfl nonempty⟩
  exact run_history (AuditService.step config) keeps ⟨initially, rfl, rfl⟩ actions

end PlugHub.SocketAudit
