import PlugHub.Library.Accounting
import PlugHub.Library.Runs

/-!
# The coordinator of profile refreshes

Jobs are admitted in the order in which they were submitted, as far as the concurrency allows. A
pump that is scheduled runs as a step of its own; it makes a batch of jobs active, whose agents are
looked up together, and then those that are online run. Callers wait for a completion that they
derive from a job; a waiter is released when its completion settles or its signal aborts. Every step
runs to its end before the next one, and a drain call that was woken resumes in a step of its own.
-/

namespace PlugHub.Profiles

open Library

/-- The state of a job. -/
inductive RefreshJobState where
  | queued
  | active
  | settled
deriving DecidableEq

/-- The result of a job. -/
inductive RefreshOutcome (A E : Type) where
  | success (agent : A)
  | offline
  | cancelled
  | presenceError (error : E)
  | refreshError (error : E)

/-- A job. -/
structure RefreshJob where
  agentId : String
  state : RefreshJobState := .queued
  interested : Nat := 0

/-- What became of a waiter. -/
inductive RefreshWaiterState where
  | waiting
  | aborted
  | resolved
  | rejected
deriving DecidableEq

/-- A waiter. -/
structure RefreshWaiter where
  job : Nat
  completion : Nat
  state : RefreshWaiterState := .waiting

/-- The coordinator, with what happened to the jobs. -/
structure RefreshCoordinator (A E : Type) where
  concurrency : Int
  jobs : OrderedMap Nat RefreshJob := .empty
  nextJob : Nat := 0
  queue : List Nat := []
  drainWaiters : List Nat := []
  active : Nat := 0
  admitting : Bool := true
  scheduled : Bool := false
  waiters : OrderedMap Nat RefreshWaiter := .empty
  nextWaiter : Nat := 0
  batches : OrderedMap Nat (List Nat) := .empty
  nextBatch : Nat := 0
  running : List Nat := []
  started : List Nat := []
  runs : List Nat := []
  settlements : List (Nat × RefreshOutcome A E) := []
  released : List Nat := []
  drains : List Nat := []

/-- What happens. -/
inductive RefreshAction (A E : Type) where
  | submit (agentId : String)
  /-- A waiter waits for a completion of a job; its signal may have aborted before. -/
  | wait (job completion : Nat) (aborted : Bool)
  | abort (waiter : Nat)
  | completed (job completion : Nat) (fulfilled : Bool)
  | pump
  | presence (batch : Nat) (online : Except E (List String))
  | ran (job : Nat) (result : Except E A)
  | beginShutdown
  | drain (id : Nat)
  | drainResumes (id : Nat)

/-- A job is submitted. -/
def RefreshAction.isSubmit {A E : Type} : RefreshAction A E → Bool
  | submit _ => true
  | _ => false

namespace RefreshCoordinator

variable {A E : Type} (hub : RefreshCoordinator A E)

/-- `schedule`. -/
def schedule : RefreshCoordinator A E :=
  if hub.scheduled || !hub.admitting then hub else { hub with scheduled := true }

/-- The drain calls that wait are woken, if no job is active. -/
def wakeDrain : RefreshCoordinator A E :=
  if hub.active = 0 then
    { hub with released := hub.released ++ hub.drainWaiters, drainWaiters := [] }
  else hub

/-- `finish`. -/
def finish (id : Nat) (outcome : RefreshOutcome A E) : RefreshCoordinator A E :=
  match hub.jobs.get id with
  | none => hub
  | some job =>
    if job.state = .settled then hub
    else
      { hub with
        active := if job.state = RefreshJobState.active then hub.active - 1 else hub.active
        queue := hub.queue.filter (· != id)
        jobs := hub.jobs.set id { job with state := .settled }
        settlements := hub.settlements ++ [(id, outcome)] }.schedule.wakeDrain

/-- `submit`. -/
def submit (agentId : String) : RefreshCoordinator A E :=
  let made :=
    { hub with
      jobs := hub.jobs.set hub.nextJob { agentId }
      nextJob := hub.nextJob + 1 }
  if hub.admitting then { made with queue := made.queue ++ [hub.nextJob] }.schedule
  else made.finish hub.nextJob .cancelled

/-- `release`, for a waiter: it no longer waits, and its job has one less. -/
def release (waiter : Nat) (state : RefreshWaiterState) : RefreshCoordinator A E :=
  match hub.waiters.get waiter with
  | none => hub
  | some found =>
    if found.state = .waiting then
      { hub with
        waiters := hub.waiters.set waiter { found with state }
        jobs := hub.jobs.modify found.job fun job =>
          { job with interested := job.interested - 1 } }
    else hub

/-- `abort`, for a waiter. -/
def abort (waiter : Nat) : RefreshCoordinator A E :=
  match hub.waiters.get waiter with
  | none => hub
  | some found =>
    if found.state = .waiting then
      let left := hub.release waiter .aborted
      match left.jobs.get found.job with
      | none => left
      | some job =>
        if job.interested = 0 ∧ job.state = .queued then left.finish found.job .cancelled else left
    else hub

/-- `wait`. -/
def wait (job completion : Nat) (aborted : Bool) : RefreshCoordinator A E :=
  if (hub.jobs.get job).isNone then hub
  else
    let waits :=
      { hub with
        jobs := hub.jobs.modify job fun job => { job with interested := job.interested + 1 }
        waiters := hub.waiters.set hub.nextWaiter { job, completion }
        nextWaiter := hub.nextWaiter + 1 }
    if aborted then waits.abort hub.nextWaiter else waits

/-- The waiters of a completion of a job. -/
def group (job completion : Nat) : List Nat :=
  (hub.waiters.entries.filter fun entry =>
    entry.2.job == job && entry.2.completion == completion).map Prod.fst

/-- A completion settles: its waiters are released. -/
def completed (job completion : Nat) (fulfilled : Bool) : RefreshCoordinator A E :=
  (hub.group job completion).foldl
    (fun hub waiter => hub.release waiter (if fulfilled then .resolved else .rejected)) hub

/-- A job becomes active. -/
def activate (id : Nat) : RefreshCoordinator A E :=
  { hub with
    queue := hub.queue.filter (· != id)
    jobs := hub.jobs.modify id fun job => { job with state := .active }
    active := hub.active + 1
    started := hub.started ++ [id] }

/-- The loop of `pump` over the queue, with the jobs that are ready. -/
def admitJobs (capacity : Int) :
    List Nat → List Nat → RefreshCoordinator A E → List Nat × RefreshCoordinator A E
  | [], ready, hub => (ready, hub)
  | id :: rest, ready, hub =>
    if capacity ≤ (ready.length : Int) then (ready, hub)
    else admitJobs capacity rest (ready ++ [id]) (hub.activate id)

/-- `runBatch`, up to the lookup. -/
def runBatch (ready : List Nat) : RefreshCoordinator A E :=
  { hub with
    batches := hub.batches.set hub.nextBatch ready
    nextBatch := hub.nextBatch + 1 }

/-- `pump`. -/
def pump : RefreshCoordinator A E :=
  let capacity : Int :=
    if hub.concurrency = 0 then hub.queue.length else hub.concurrency - hub.active
  let (ready, admitted) := admitJobs capacity hub.queue [] hub
  if 0 < ready.length then admitted.runBatch ready else admitted

/-- The pump that is scheduled runs. -/
def runPump : RefreshCoordinator A E :=
  if hub.scheduled then { hub with scheduled := false }.pump else hub

/-- A job of a batch runs if its agent is online. -/
def runIfOnline (online : List String) (id : Nat) : RefreshCoordinator A E :=
  if (hub.jobs.get id).any fun job => online.contains job.agentId then
    { hub with running := hub.running ++ [id], runs := hub.runs ++ [id] }
  else hub.finish id .offline

/-- `runBatch`, after the lookup. -/
def presence (batch : Nat) (online : Except E (List String)) : RefreshCoordinator A E :=
  match hub.batches.get batch with
  | none => hub
  | some jobs =>
    let known := { hub with batches := hub.batches.erase batch }
    match online with
    | .error error => jobs.foldl (fun hub id => hub.finish id (.presenceError error)) known
    | .ok online => jobs.foldl (fun hub id => hub.runIfOnline online id) known

/-- A job that runs ends. -/
def ran (id : Nat) (result : Except E A) : RefreshCoordinator A E :=
  if id ∈ hub.running then
    let isOver := { hub with running := hub.running.erase id }
    match result with
    | .ok agent => isOver.finish id (.success agent)
    | .error error => isOver.finish id (.refreshError error)
  else hub

/-- `beginShutdown`. -/
def beginShutdown : RefreshCoordinator A E :=
  hub.queue.foldl (fun hub id => hub.finish id .cancelled) { hub with admitting := false }

/-- `drain`, up to its await. -/
def drain (id : Nat) : RefreshCoordinator A E :=
  if hub.active = 0 then { hub with drains := hub.drains ++ [hub.active] }
  else { hub with drainWaiters := hub.drainWaiters ++ [id] }

/-- A drain call that was woken resolves. -/
def drainResumes (id : Nat) : RefreshCoordinator A E :=
  if id ∈ hub.released then
    { hub with released := hub.released.erase id, drains := hub.drains ++ [hub.active] }
  else hub

/-- One step. -/
def step : RefreshAction A E → RefreshCoordinator A E
  | .submit agentId => hub.submit agentId
  | .wait job completion aborted => hub.wait job completion aborted
  | .abort waiter => hub.abort waiter
  | .completed job completion fulfilled => hub.completed job completion fulfilled
  | .pump => hub.runPump
  | .presence batch online => hub.presence batch online
  | .ran job result => hub.ran job result
  | .beginShutdown => hub.beginShutdown
  | .drain id => hub.drain id
  | .drainResumes id => hub.drainResumes id

/-! ## What is expected of the coordinator -/

/-- The state of a job, if there is one of that number. -/
def stateOf (id : Nat) : Option RefreshJobState := (hub.jobs.get id).map (·.state)

/-- The concurrency has room for a job. -/
def Spare : Prop := hub.concurrency = 0 ∨ (hub.active : Int) < hub.concurrency

/-- A job was cancelled while it waited for its turn. -/
def Cancels (next : RefreshCoordinator A E) (id : Nat) : Prop :=
  hub.stateOf id = some .queued ∧ next.stateOf id = some .settled

/-- A step cancels a job that waits for its turn only on shutdown or when all its waiters have
aborted. -/
def CancelsAbandoned (action : RefreshAction A E) : Prop :=
  ∀ id, hub.Cancels (hub.step action) id → action = .beginShutdown ∨
    ∀ number waiter, (hub.step action).waiters.get number = some waiter → waiter.job = id →
      waiter.state = .aborted

/-- Drain calls resolved when no job was active. -/
def DrainsIdle : Prop := ∀ count ∈ hub.drains, count = 0

/-- A completion settles after the job it was derived from, and no pump makes jobs active while a
drain call that was woken has not resumed. -/
def Timely : RefreshAction A E → Prop
  | .completed job _ _ => hub.stateOf job = some .settled
  | .pump => hub.released ≠ [] → hub.queue = []
  | _ => True

/-- What holds after every step. -/
structure Orderly : Prop where
  /-- The counter counts the active jobs. -/
  active : hub.active = hub.jobs.count fun _ job => job.state = .active
  limit : 0 < hub.concurrency → (hub.active : Int) ≤ hub.concurrency
  /-- Jobs become active in the order in which they were submitted, those that wait last. -/
  inOrder : (hub.started ++ hub.queue).Pairwise (· < ·)
  queued : ∀ id, id ∈ hub.queue ↔ hub.stateOf id = some .queued
  /-- A job has one result when it is settled, and none before. -/
  once : ∀ id, hub.settlements.countP (·.1 = id) =
    if hub.stateOf id = some .settled then 1 else 0
  /-- When no lookup, no run and no pump is under way, every job has a result. -/
  settles : 0 ≤ hub.concurrency → hub.batches.size = 0 → hub.running = [] →
    hub.scheduled = false → ∀ id, id < hub.nextJob → hub.settlements.countP (·.1 = id) = 1
  /-- A pump is scheduled when a job could become active. -/
  pumped : hub.admitting = true → hub.queue ≠ [] → hub.Spare → hub.scheduled = true
  /-- A job that was cancelled has not run. -/
  neverRun : ∀ id, (id, .cancelled) ∈ hub.settlements → id ∉ hub.started ∧ id ∉ hub.runs
  /-- A job counts those who wait for it. -/
  interested : ∀ id job, hub.jobs.get id = some job → job.interested =
    hub.waiters.count fun _ waiter => waiter.job = id ∧ waiter.state = .waiting
  /-- Who waits for a job is one of its waiters. -/
  waits : ∀ id completion, (hub.jobs.get id).isSome = true →
    (hub.step (.wait id completion false)).waiters.get hub.nextWaiter =
      some { job := id, completion }
  /-- Who waits and aborts waits no more. -/
  aborts : ∀ number waiter, hub.waiters.get number = some waiter → waiter.state = .waiting →
    (hub.step (.abort number)).waiters.get number = some { waiter with state := .aborted }
  /-- A job that runs is settled when its run ends. -/
  ends : ∀ id ∈ hub.running, ∀ result, (hub.step (.ran id result)).stateOf id = some .settled

end RefreshCoordinator

end PlugHub.Profiles
