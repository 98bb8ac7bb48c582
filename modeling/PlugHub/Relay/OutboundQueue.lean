import PlugHub.Config
import PlugHub.Library.Index

/-!
# The relay outbound queue

Jobs that encode and emit frames to consumers, one chain for each request id: the jobs of
one request run in the order they were accepted, one at a time, and a failing job does not
stop its successors. Jobs that announce their size are charged to a byte budget of the hub
and of their consumer, and may be refused.

The chain of promises of the source is the list of accepted and unfinished jobs; the head
job carries the point at which it is suspended once it was started. The queue is stated
over the type of the work and of its suspension points.
-/

namespace PlugHub.Relay

open Library

/-- An accepted job. -/
structure QueuedJob (Work Point : Type) where
  work : Work
  consumerSocketId : Option SocketId := none
  pendingBytes : Nat := 0
  /-- Where it is suspended; a job that was not started has no point. -/
  point : Option Point := none

/-- Whether a job bypasses the byte budget. -/
inductive JobPriority where
  | normal
  | control
deriving DecidableEq

/-- What a job does at the shed cap. -/
inductive ShedPolicy where
  | reject
  | allow
deriving DecidableEq

/-- The options of an enqueue call. -/
structure EnqueueOptions where
  consumerSocketId : Option SocketId := none
  pendingBytes : Nat := 0
  priority : JobPriority := .normal
  shedPolicy : ShedPolicy := .reject

/-- The decision of the byte budget. -/
inductive ByteBudgetDecision where
  | ok
  | shed
  | hard
deriving DecidableEq

/-- The queue. -/
structure OutboundQueue (Work Point : Type) where
  tailByRequestId : OrderedMap RequestId (List (QueuedJob Work Point)) := .empty
  pendingBytes : Nat := 0
  pendingBytesByConsumer : Counter SocketId := .empty
  requestIdsByConsumer : Index SocketId RequestId := .empty

namespace OutboundQueue

variable {Work Point : Type}

/-- The unfinished jobs of a request. -/
def jobs (queue : OutboundQueue Work Point) (requestId : RequestId) :
    List (QueuedJob Work Point) :=
  (queue.tailByRequestId.get requestId).getD []

/-- The decision for a consumer and a number of further bytes. -/
def evaluateRelayOutboundByteBudget (env : Env) (queue : OutboundQueue Work Point)
    (consumerSocketId : SocketId) (extraBytes : Nat) : ByteBudgetDecision :=
  let globalMax := env.socketRelayOutboundMaxPendingBytes
  let perConsumerMax := env.socketRelayOutboundMaxPendingBytesPerConsumer
  let maxRequestIds := env.socketRelayOutboundMaxPendingRequestIdsPerConsumer
  let nextGlobal := queue.pendingBytes + extraBytes
  let nextConsumer := queue.pendingBytesByConsumer.read consumerSocketId + extraBytes
  let requestIdCount := (queue.requestIdsByConsumer.members consumerSocketId).length
  if (0 < globalMax ∧ globalMax < nextGlobal) ∨
      (0 < perConsumerMax ∧ perConsumerMax < nextConsumer) then
    if (0 < globalMax ∧ globalMax * 2 < nextGlobal) ∨
        (0 < perConsumerMax ∧ perConsumerMax * 2 < nextConsumer) then .hard
    else .shed
  else if 0 < maxRequestIds ∧ maxRequestIds ≤ requestIdCount then .shed
  else .ok

/-- Whether an enqueue call is refused. -/
def refuses (env : Env) (queue : OutboundQueue Work Point) (options : EnqueueOptions) : Bool :=
  match options.consumerSocketId with
  | none => false
  | some consumerSocketId =>
    if 0 < options.pendingBytes ∧ options.priority ≠ .control then
      match queue.evaluateRelayOutboundByteBudget env consumerSocketId options.pendingBytes with
      | .ok => false
      | .shed => options.shedPolicy = .reject
      | .hard => true
    else false

/-- Charge bytes. -/
def addPendingBytes (queue : OutboundQueue Work Point) (consumerSocketId : Option SocketId)
    (bytes : Nat) : OutboundQueue Work Point :=
  if bytes = 0 then queue
  else
    let charged := { queue with pendingBytes := queue.pendingBytes + bytes }
    match consumerSocketId with
    | none => charged
    | some consumer =>
      { charged with
        pendingBytesByConsumer := charged.pendingBytesByConsumer.set consumer
          (charged.pendingBytesByConsumer.read consumer + bytes) }

/-- Take charged bytes back. -/
def subtractPendingBytes (queue : OutboundQueue Work Point) (consumerSocketId : Option SocketId)
    (bytes : Nat) : OutboundQueue Work Point :=
  if bytes = 0 then queue
  else
    let discharged := { queue with pendingBytes := queue.pendingBytes - bytes }
    match consumerSocketId with
    | none => discharged
    | some consumer =>
      let next := discharged.pendingBytesByConsumer.read consumer - bytes
      { discharged with pendingBytesByConsumer :=
          if next = 0 then discharged.pendingBytesByConsumer.erase consumer
          else discharged.pendingBytesByConsumer.set consumer next }

/-- Remember that a consumer has work of a request. -/
def trackRequestId (queue : OutboundQueue Work Point) (consumerSocketId : Option SocketId)
    (requestId : RequestId) : OutboundQueue Work Point :=
  match consumerSocketId with
  | none => queue
  | some consumer =>
    { queue with requestIdsByConsumer :=
        queue.requestIdsByConsumer.addToIndex consumer requestId }

/-- Forget it when the request has no unfinished job. -/
def untrackRequestIdIfIdle (queue : OutboundQueue Work Point)
    (consumerSocketId : Option SocketId) (requestId : RequestId) : OutboundQueue Work Point :=
  match consumerSocketId with
  | none => queue
  | some consumer =>
    if (queue.jobs requestId).isEmpty then
      { queue with requestIdsByConsumer :=
          queue.requestIdsByConsumer.removeFromIndex consumer requestId }
    else queue

/-- Store the unfinished jobs of a request; a request without jobs has no chain. -/
def setJobs (queue : OutboundQueue Work Point) (requestId : RequestId)
    (jobs : List (QueuedJob Work Point)) : OutboundQueue Work Point :=
  { queue with tailByRequestId :=
      match jobs with
      | [] => queue.tailByRequestId.erase requestId
      | _ => queue.tailByRequestId.set requestId jobs }

/-- Accept a job at the end of the chain of its request. -/
def accept (queue : OutboundQueue Work Point) (requestId : RequestId) (work : Work)
    (options : EnqueueOptions) : OutboundQueue Work Point :=
  let charged := (queue.addPendingBytes options.consumerSocketId
    options.pendingBytes).trackRequestId options.consumerSocketId requestId
  charged.setJobs requestId
    (charged.jobs requestId ++
      [{ work := work
         consumerSocketId := options.consumerSocketId
         pendingBytes := options.pendingBytes }])

/-- Accept or refuse a job; a refused job leaves the queue as it is. -/
def enqueueRelayOutbound (env : Env) (queue : OutboundQueue Work Point) (requestId : RequestId)
    (work : Work) (options : EnqueueOptions) : OutboundQueue Work Point × Bool :=
  if queue.refuses env options then (queue, false)
  else (queue.accept requestId work options, true)

/-- The head job reaches a suspension point. -/
def suspendHead (queue : OutboundQueue Work Point) (requestId : RequestId) (point : Point) :
    OutboundQueue Work Point :=
  match queue.jobs requestId with
  | [] => queue
  | job :: rest => queue.setJobs requestId ({ job with point := some point } :: rest)

/-- The head job ends, normally or with an error: it is discharged and leaves the chain. -/
def finishHead (queue : OutboundQueue Work Point) (requestId : RequestId) :
    OutboundQueue Work Point :=
  match queue.jobs requestId with
  | [] => queue
  | job :: rest =>
    ((queue.setJobs requestId rest).subtractPendingBytes job.consumerSocketId
      job.pendingBytes).untrackRequestIdIfIdle job.consumerSocketId requestId

/-! ## Charges after an operation -/

/-- The bytes a call charges to a consumer. -/
def chargedTo (consumerSocketId : Option SocketId) (bytes : Nat) (consumer : SocketId) : Nat :=
  if consumerSocketId = some consumer then bytes else 0

section

variable (queue : OutboundQueue Work Point)

include queue

variable (consumerSocketId : Option SocketId) (bytes : Nat)

theorem pendingBytes_addPendingBytes :
    (queue.addPendingBytes consumerSocketId bytes).pendingBytes = queue.pendingBytes + bytes := by
  unfold addPendingBytes
  split
  · next zero => rw [zero, Nat.add_zero]
  · split <;> rfl

theorem read_addPendingBytes (other : SocketId) :
    (queue.addPendingBytes consumerSocketId bytes).pendingBytesByConsumer.read other =
      queue.pendingBytesByConsumer.read other + chargedTo consumerSocketId bytes other := by
  unfold addPendingBytes chargedTo
  split
  · next zero => simp only [zero, ite_self, Nat.add_zero]
  · cases consumerSocketId with
    | none => simp only [reduceCtorEq, if_false, Nat.add_zero]
    | some consumer =>
      simp only [Counter.read, OrderedMap.get_set, Option.some.injEq]
      by_cases same : other = consumer
      · simp only [same, if_true, Option.getD_some]
      · have flipped : consumer ≠ other := fun h => same h.symm
        simp only [same, flipped, if_false, Nat.add_zero]

theorem requestIds_addPendingBytes :
    (queue.addPendingBytes consumerSocketId bytes).requestIdsByConsumer =
      queue.requestIdsByConsumer := by
  unfold addPendingBytes
  split
  · rfl
  · split <;> rfl

theorem pendingBytes_subtractPendingBytes :
    (queue.subtractPendingBytes consumerSocketId bytes).pendingBytes =
      queue.pendingBytes - bytes := by
  unfold subtractPendingBytes
  split
  · next zero => rw [zero, Nat.sub_zero]
  · split <;> rfl

theorem read_subtractPendingBytes (other : SocketId) :
    (queue.subtractPendingBytes consumerSocketId bytes).pendingBytesByConsumer.read other =
      queue.pendingBytesByConsumer.read other - chargedTo consumerSocketId bytes other := by
  unfold subtractPendingBytes chargedTo
  split
  · next zero => simp only [zero, ite_self, Nat.sub_zero]
  · cases consumerSocketId with
    | none => simp only [reduceCtorEq, if_false, Nat.sub_zero]
    | some consumer =>
      simp only [Option.some.injEq]
      by_cases same : other = consumer
      · subst same
        rw [if_pos rfl]
        split
        · next empty =>
          rw [empty]
          simp only [Counter.read, OrderedMap.get_erase_self, Option.getD_none]
        · simp only [Counter.read, OrderedMap.get_set_self, Option.getD_some]
      · have flipped : consumer ≠ other := fun h => same h.symm
        rw [if_neg flipped, Nat.sub_zero]
        split
        · simp only [Counter.read, OrderedMap.get_erase_of_ne _ same]
        · simp only [Counter.read, OrderedMap.get_set_of_ne _ _ same]

theorem requestIds_subtractPendingBytes :
    (queue.subtractPendingBytes consumerSocketId bytes).requestIdsByConsumer =
      queue.requestIdsByConsumer := by
  unfold subtractPendingBytes
  split
  · rfl
  · split <;> rfl

theorem pendingBytes_trackRequestId (requestId : RequestId) :
    (queue.trackRequestId consumerSocketId requestId).pendingBytes = queue.pendingBytes ∧
      (queue.trackRequestId consumerSocketId requestId).pendingBytesByConsumer =
        queue.pendingBytesByConsumer := by
  unfold trackRequestId
  split <;> exact ⟨rfl, rfl⟩

theorem mem_trackRequestId (requestId : RequestId) (consumer : SocketId)
    (member : RequestId) :
    member ∈ (queue.trackRequestId consumerSocketId requestId).requestIdsByConsumer.members
        consumer ↔
      member ∈ queue.requestIdsByConsumer.members consumer ∨
        (consumerSocketId = some consumer ∧ requestId = member) := by
  unfold trackRequestId
  cases consumerSocketId with
  | none => simp only [reduceCtorEq, false_and, or_false]
  | some place =>
    simp only [Index.mem_addToIndex, Option.some.injEq]
    constructor
    · rintro (kept | ⟨rfl, rfl⟩)
      · exact Or.inl kept
      · exact Or.inr ⟨rfl, rfl⟩
    · rintro (kept | ⟨rfl, rfl⟩)
      · exact Or.inl kept
      · exact Or.inr ⟨rfl, rfl⟩

end

end OutboundQueue

end PlugHub.Relay
