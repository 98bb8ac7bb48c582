import Mathlib.Data.List.Sort
import PlugHub.Library.Accounting
import PlugHub.Relay.OutboundQueue
import PlugHub.Relay.Overload

/-!
# The promise chains of the outbound queue

The outbound queue as the source keeps it: one tail object for each request with unfinished
jobs, whose promise the next job is chained to, and the metrics from which the backlog and
the overload are derived. A job starts when the promise it was chained to is settled, and
settles its own when its work ended, with an error or without. The tail object is shared by
the jobs that were chained through it; the map forgets it when its last job ends, and the
sweep forgets objects that are idle for too long.

Clock readings and the measured durations of jobs are arguments of the actions that read
them.
-/

namespace PlugHub.Relay

open Library

/-- A tail object. -/
structure TailEntry where
  tail : Option Nat := none
  pendingJobs : Nat := 0
  activeJobs : Nat := 0
  lastActivityAtMs : Nat := 0
  backlogStartedAtMs : Nat := 0

/-- Where a job is. -/
inductive JobPhase where
  | waiting
  | running
  | finished
deriving DecidableEq

/-- An accepted job. -/
structure ChainedJob where
  requestId : RequestId
  consumerSocketId : Option SocketId
  pendingBytes : Nat
  entry : Nat
  prev : Option Nat
  phase : JobPhase := .waiting

/-- The queue. -/
structure OutboundChains where
  tailByRequestId : OrderedMap RequestId Nat := .empty
  entries : OrderedMap Nat TailEntry := .empty
  jobs : OrderedMap Nat ChainedJob := .empty
  nextEntry : Nat := 0
  nextJob : Nat := 0
  started : List (RequestId × Nat) := []
  ledger : OutboundQueue Unit Unit := {}
  jobsEnqueuedTotal : Nat := 0
  jobsFinishedTotal : Nat := 0
  jobsFailedTotal : Nat := 0
  jobsSweptOrphanedTotal : Nat := 0
  orphanedTailsSweptTotal : Nat := 0
  overloadRejectedTotal : Nat := 0
  shedRejectedTotal : Nat := 0
  hardRejectedTotal : Nat := 0
  durationRing : List Nat := []
  overload : OverloadState := {}

namespace OutboundChains

/-! ## Metrics -/

/-- The durations that are kept. -/
def durationSamplesSize : Nat := 256

/-- Keep one more duration. -/
def pushLatencyRingBuffer (ring : List Nat) (value : Nat) : List Nat :=
  (ring ++ [value]).drop (ring.length + 1 - durationSamplesSize)

/-- A percentile, as the value of its nearest rank. -/
def percentile (values : List Nat) (percent : Nat) : Nat :=
  let rank := min (values.length - 1) ((percent * values.length + 99) / 100 - 1)
  ((values.insertionSort (· ≤ ·))[rank]?).getD 0

/-- Jobs that were accepted and did not end, by the metrics. -/
def deriveBacklog (chains : OutboundChains) : Nat :=
  chains.jobsEnqueuedTotal - chains.jobsFinishedTotal - chains.jobsSweptOrphanedTotal

/-- Evaluate the overload with the cached percentile. -/
def noteBacklog (env : Env) (chains : OutboundChains) : OutboundChains :=
  { chains with
    overload :=
      chains.overload.updateBacklogOnlyOverloadStateCache env chains.deriveBacklog }

/-- Evaluate the overload with new percentiles. -/
def refreshRelayOutboundQueueOverloadState (env : Env) (chains : OutboundChains) (nowMs : Nat) :
    OutboundChains :=
  { chains with
    overload := chains.overload.updateOverloadStateCache env chains.deriveBacklog
      (percentile chains.durationRing 95) (percentile chains.durationRing 99) nowMs }

/-- The age of the percentiles at which a query computes them again. -/
def overloadStateMaxStaleMs : Nat := 1000

/-- Ask whether the queue is overloaded; the cache holds the answer. -/
def getRelayOutboundQueueOverloadState (env : Env) (chains : OutboundChains) (nowMs : Nat) :
    OutboundChains :=
  let noted := chains.noteBacklog env
  if noted.overload.cache.reason ≠ some .backlog ∧ 0 < env.socketRelayOutboundOverloadP95Ms ∧
      overloadStateMaxStaleMs ≤ nowMs - noted.overload.cache.computedAtMs then
    noted.refreshRelayOutboundQueueOverloadState env nowMs
  else noted

/-! ## Tail objects -/

/-- A tail object without unfinished jobs that did not change for too long. -/
def isTailEntryOrphaned (env : Env) (entry : TailEntry) (nowMs : Nat) : Bool :=
  decide (entry.pendingJobs = 0) && decide (entry.activeJobs = 0) &&
    decide (env.socketRelayOutboundTailStaleMs ≤ nowMs - entry.lastActivityAtMs)

/-- The tail objects in the map that are orphaned. -/
def orphanedTails (env : Env) (chains : OutboundChains) (nowMs : Nat) :
    List (RequestId × TailEntry) :=
  chains.tailByRequestId.entries.filterMap fun pair =>
    (chains.entries.get pair.2).bind fun entry =>
      if isTailEntryOrphaned env entry nowMs then some (pair.1, entry) else none

/-- Forget orphaned tail objects and evaluate the overload. -/
def sweepRelayOutboundQueueState (env : Env) (chains : OutboundChains) (nowMs : Nat) :
    OutboundChains :=
  let orphaned := chains.orphanedTails env nowMs
  { chains with
    tailByRequestId := (orphaned.map Prod.fst).foldl (·.erase ·) chains.tailByRequestId
    jobsSweptOrphanedTotal := chains.jobsSweptOrphanedTotal +
      (orphaned.map fun (pair : RequestId × TailEntry) => pair.2.pendingJobs).sum
    orphanedTailsSweptTotal := chains.orphanedTailsSweptTotal +
      orphaned.length }.refreshRelayOutboundQueueOverloadState env nowMs

/-! ## Jobs -/

/-- Why an enqueue call is refused, if it is. -/
def refusal (env : Env) (chains : OutboundChains) (options : EnqueueOptions) :
    Option ByteBudgetDecision :=
  match options.consumerSocketId with
  | none => none
  | some consumerSocketId =>
    if 0 < options.pendingBytes ∧ options.priority ≠ .control then
      match chains.ledger.evaluateRelayOutboundByteBudget env consumerSocketId
          options.pendingBytes with
      | .ok => none
      | .shed => if options.shedPolicy = .reject then some .shed else none
      | .hard => some .hard
    else none

/-- Count a refusal. -/
def countRefusal (chains : OutboundChains) : ByteBudgetDecision → OutboundChains
  | .ok => chains
  | .shed =>
    { chains with
      shedRejectedTotal := chains.shedRejectedTotal + 1
      overloadRejectedTotal := chains.overloadRejectedTotal + 1 }
  | .hard => { chains with hardRejectedTotal := chains.hardRejectedTotal + 1 }

/-- The tail object a new job of a request is chained through. -/
def tailFor (chains : OutboundChains) (requestId : RequestId) (nowMs : Nat) : Nat × TailEntry :=
  match chains.tailByRequestId.get requestId with
  | some entry => (entry, (chains.entries.get entry).getD {})
  | none => (chains.nextEntry, { lastActivityAtMs := nowMs, backlogStartedAtMs := nowMs })

/-- A tail object with one more job. -/
def TailEntry.extend (entry : TailEntry) (job nowMs : Nat) : TailEntry :=
  { entry with
    tail := some job
    pendingJobs := entry.pendingJobs + 1
    lastActivityAtMs := nowMs
    backlogStartedAtMs :=
      if entry.pendingJobs = 0 ∧ entry.activeJobs = 0 then nowMs else entry.backlogStartedAtMs }

/-- Chain a job to the last one of its request. -/
def chainJob (chains : OutboundChains) (requestId : RequestId) (options : EnqueueOptions)
    (nowMs : Nat) : OutboundChains :=
  let tail := chains.tailFor requestId nowMs
  { chains with
    tailByRequestId := chains.tailByRequestId.set requestId tail.1
    entries := chains.entries.set tail.1 (TailEntry.extend tail.2 chains.nextJob nowMs)
    jobs := chains.jobs.set chains.nextJob
      { requestId := requestId
        consumerSocketId := options.consumerSocketId
        pendingBytes := options.pendingBytes
        entry := tail.1
        prev := tail.2.tail }
    nextEntry := chains.nextEntry + 1
    nextJob := chains.nextJob + 1 }

/-- Accept a job. -/
def accept (env : Env) (chains : OutboundChains) (requestId : RequestId)
    (options : EnqueueOptions) (nowMs : Nat) : OutboundChains :=
  let noted := { chains with
    jobsEnqueuedTotal := chains.jobsEnqueuedTotal + 1 }.noteBacklog env
  { noted with
    ledger := (noted.ledger.addPendingBytes options.consumerSocketId
      options.pendingBytes).trackRequestId options.consumerSocketId requestId }.chainJob requestId
    options nowMs

/-- Accept or refuse a job; a refused job is only counted. -/
def enqueueRelayOutbound (env : Env) (chains : OutboundChains) (requestId : RequestId)
    (options : EnqueueOptions) (nowMs : Nat) : OutboundChains :=
  match chains.refusal env options with
  | some decision => chains.countRefusal decision
  | none => chains.accept env requestId options nowMs

/-- The promise a job is chained to is settled. -/
def isSettled (chains : OutboundChains) (promise : Option Nat) : Bool :=
  match promise with
  | none => true
  | some ref => ((chains.jobs.get ref).map fun job => decide (job.phase = .finished)).getD true

/-- A job starts once the promise it is chained to is settled. -/
def startJob (chains : OutboundChains) (ref nowMs : Nat) : OutboundChains :=
  match chains.jobs.get ref with
  | none => chains
  | some job =>
    if job.phase = .waiting ∧ chains.isSettled job.prev then
      { chains with
        jobs := chains.jobs.set ref { job with phase := .running }
        entries := chains.entries.modify job.entry fun entry =>
          { entry with activeJobs := entry.activeJobs + 1, lastActivityAtMs := nowMs }
        started := (job.requestId, ref) :: chains.started }
    else chains

/-- Forget that a consumer has work of a request whose tail object is idle. -/
def untrackRequestIdIfIdle (ledger : OutboundQueue Unit Unit) (consumerSocketId : Option SocketId)
    (requestId : RequestId) (entry : TailEntry) : OutboundQueue Unit Unit :=
  match consumerSocketId with
  | none => ledger
  | some consumer =>
    if 0 < entry.pendingJobs ∨ 0 < entry.activeJobs then ledger
    else
      { ledger with requestIdsByConsumer :=
          ledger.requestIdsByConsumer.removeFromIndex consumer requestId }

/-- A tail object one of whose jobs ended. -/
def TailEntry.leave (entry : TailEntry) (nowMs : Nat) : TailEntry :=
  { entry with
    activeJobs := entry.activeJobs - 1
    pendingJobs := entry.pendingJobs - 1
    lastActivityAtMs := nowMs }

/-- The end of a running job: it is discharged, and the map forgets the tail object with its last
job. -/
def endJob (chains : OutboundChains) (ref : Nat) (job : ChainedJob) (nowMs : Nat) :
    OutboundChains :=
  let entry := TailEntry.leave ((chains.entries.get job.entry).getD {}) nowMs
  { chains with
    jobs := chains.jobs.set ref { job with phase := .finished }
    entries := chains.entries.set job.entry entry
    ledger := untrackRequestIdIfIdle (chains.ledger.subtractPendingBytes job.consumerSocketId
      job.pendingBytes) job.consumerSocketId job.requestId entry
    tailByRequestId :=
      if entry.tail = some ref ∧ entry.pendingJobs = 0 then
        chains.tailByRequestId.erase job.requestId
      else chains.tailByRequestId }

/-- The work of a job ends, with an error or without. -/
def finishJob (env : Env) (chains : OutboundChains) (ref : Nat) (failed : Bool)
    (duration nowMs : Nat) : OutboundChains :=
  match chains.jobs.get ref with
  | none => chains
  | some job =>
    if job.phase = .running then
      ({ chains with
        jobsFailedTotal := chains.jobsFailedTotal + (if failed then 1 else 0)
        jobsFinishedTotal := chains.jobsFinishedTotal + 1
        durationRing := pushLatencyRingBuffer chains.durationRing duration }.noteBacklog
        env).endJob ref job nowMs
    else chains

/-- Ask whether a consumer may have new work at all. -/
def admitRelayOutboundConsumerWork (env : Env) (chains : OutboundChains)
    (consumerSocketId : SocketId) : OutboundChains :=
  chains.countRefusal (chains.ledger.evaluateRelayOutboundByteBudget env consumerSocketId 0)

/-- What can happen to the queue. -/
inductive Action where
  | enqueue (requestId : RequestId) (options : EnqueueOptions) (nowMs : Nat)
  | start (ref nowMs : Nat)
  | finish (ref : Nat) (failed : Bool) (duration nowMs : Nat)
  | sweep (nowMs : Nat)
  | query (nowMs : Nat)
  | snapshot (nowMs : Nat)
  | admitWork (consumerSocketId : SocketId)

/-- One step. -/
def step (env : Env) (chains : OutboundChains) : Action → OutboundChains
  | .enqueue requestId options nowMs => chains.enqueueRelayOutbound env requestId options nowMs
  | .start ref nowMs => chains.startJob ref nowMs
  | .finish ref failed duration nowMs => chains.finishJob env ref failed duration nowMs
  | .sweep nowMs => chains.sweepRelayOutboundQueueState env nowMs
  | .query nowMs => chains.getRelayOutboundQueueOverloadState env nowMs
  | .snapshot nowMs => chains.refreshRelayOutboundQueueOverloadState env nowMs
  | .admitWork consumerSocketId => chains.admitRelayOutboundConsumerWork env consumerSocketId

end OutboundChains

end PlugHub.Relay
