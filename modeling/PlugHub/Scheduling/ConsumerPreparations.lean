import PlugHub.Library.Accounting
import PlugHub.Library.HeadQueue
import PlugHub.Library.Runs

/-!
# Preparations of consumer frames

The coordinator of the preparations of a hub. Each socket has a lane with a queue; a preparation
starts while its lane and the hub have room. A lane is dropped when it is idle or its socket is
cancelled, and a later call for the socket opens another, while preparations of the old one may
still be at work. Every step runs to its end before the next one.
-/

namespace PlugHub.Scheduling

open Library

/-- The payload of a frame as it was received. -/
inductive ReceivedPayload where
  | buffer (byteLength : Nat)
  | string (text : String)
  | array (length : Nat)
  | other

/-- `receivedFrameBytes`. -/
def receivedFrameBytes : ReceivedPayload → Nat
  | .buffer byteLength => byteLength
  | .string text => text.utf8ByteSize
  | .array length => length
  | .other => 0

/-- A preparation that waits. -/
structure QueuedPreparation where
  call : Nat
  bytes : Nat

/-- A lane. -/
structure SocketPreparations where
  queue : HeadQueue QueuedPreparation := .empty
  active : Nat := 0
  cancelled : Bool := false

/-- A preparation that was started. -/
structure StartedPreparation where
  call : Nat
  socketId : String
  lane : Nat
deriving DecidableEq

/-- How the promise of a call settles. -/
inductive PreparationSettlement (T E : Type) where
  | cancelled
  | value (value : T)
  | rejected (error : E)

/-- It delivers a value. -/
def PreparationSettlement.isValue {T E : Type} : PreparationSettlement T E → Bool
  | value _ => true
  | cancelled | rejected _ => false

/-- A promise that settled. -/
structure SettledPreparation (T E : Type) where
  call : Nat
  lane : Option Nat
  settlement : PreparationSettlement T E

/-- The limits; those that are not positive do not limit. -/
structure PreparationLimits where
  perSocket : Int
  perHub : Int

/-- The number of consumed slots from which a queue is compacted. -/
def compactFrom : Nat := 1024

/-- The coordinator, with the lanes that were ever made and what happened to the calls. -/
structure ConsumerPreparations (T E : Type) where
  limits : PreparationLimits
  lanes : OrderedMap Nat SocketPreparations := .empty
  nextLane : Nat := 0
  sockets : OrderedMap String Nat := .empty
  ready : List String := []
  idleWaiters : List Nat := []
  closed : Bool := false
  active : Nat := 0
  waiting : Nat := 0
  waitingBytes : Nat := 0
  nextCall : Nat := 0
  running : List StartedPreparation := []
  started : List StartedPreparation := []
  settled : List (SettledPreparation T E) := []
  released : List Nat := []
  closes : List Nat := []

/-- What happens. -/
inductive PreparationAction (T E : Type) where
  | run (socketId : String) (payload : ReceivedPayload)
  | completed (call : Nat) (outcome : Except E T)
  | cancelSocket (socketId : String)
  | close (id : Nat)
  | closeResumes (id : Nat)

/-- It is a call of `run`. -/
def PreparationAction.isRun {T E : Type} : PreparationAction T E → Bool
  | run _ _ => true
  | _ => false

namespace ConsumerPreparations

variable {T E : Type} (hub : ConsumerPreparations T E)

/-- A lane has room. -/
def LaneRoom (lane : SocketPreparations) : Prop :=
  hub.limits.perSocket ≤ 0 ∨ (lane.active : Int) < hub.limits.perSocket

instance (lane : SocketPreparations) : Decidable (hub.LaneRoom lane) :=
  inferInstanceAs (Decidable (_ ∨ _))

/-- The hub has room. -/
def HubRoom : Prop := hub.limits.perHub ≤ 0 ∨ (hub.active : Int) < hub.limits.perHub

instance : Decidable hub.HubRoom := inferInstanceAs (Decidable (_ ∨ _))

/-- A lane changes. -/
def changeLane (lane : Nat) (change : SocketPreparations → SocketPreparations) :
    ConsumerPreparations T E :=
  { hub with lanes := hub.lanes.modify lane change }

/-- `markReady`, for a socket and the lane that it has. -/
def markReady (socketId : String) (lane : Nat) : ConsumerPreparations T E :=
  match hub.lanes.get lane with
  | none => hub
  | some state =>
    if state.cancelled = false ∧ state.queue.isEmpty = false ∧ hub.LaneRoom state then
      { hub with ready := if socketId ∈ hub.ready then hub.ready else hub.ready ++ [socketId] }
    else hub

/-- The preparation at the head of a lane is started. -/
def start (socketId : String) (lane : Nat) (job : QueuedPreparation)
    (queue : HeadQueue QueuedPreparation) : ConsumerPreparations T E :=
  let begun : StartedPreparation := ⟨job.call, socketId, lane⟩
  { hub.changeLane lane fun state => { state with queue, active := state.active + 1 } with
    waiting := hub.waiting - 1
    waitingBytes := hub.waitingBytes - job.bytes
    active := hub.active + 1
    running := hub.running ++ [begun]
    started := hub.started ++ [begun] }

/-- One turn of the loop of `pump`, unless the loop is over. -/
def pumpTurn : Option (ConsumerPreparations T E) :=
  if hub.closed = true ∨ ¬ hub.HubRoom then none
  else
    match hub.ready with
    | [] => none
    | socketId :: rest => do
      let lane ← hub.sockets.get socketId
      let state ← hub.lanes.get lane
      let (job, queue) ← state.queue.pop compactFrom
      some ((({ hub with ready := rest }).start socketId lane job queue).markReady socketId lane)

/-- The loop of `pump`, for so many turns. -/
def pumpTurns : Nat → ConsumerPreparations T E → ConsumerPreparations T E
  | 0, hub => hub
  | turns + 1, hub =>
    match hub.pumpTurn with
    | none => hub
    | some next => pumpTurns turns next

/-- `pump`. Every turn starts a preparation that waits. -/
def pump : ConsumerPreparations T E := pumpTurns hub.waiting hub

/-- A promise settles. -/
def settle (call : Nat) (lane : Option Nat) (settlement : PreparationSettlement T E) :
    ConsumerPreparations T E :=
  { hub with settled := hub.settled ++ [⟨call, lane, settlement⟩] }

/-- The lane of a socket, which is made if it has none. -/
def laneFor (socketId : String) : ConsumerPreparations T E × Nat :=
  match hub.sockets.get socketId with
  | some lane => (hub, lane)
  | none =>
    ({ hub with
        lanes := hub.lanes.set hub.nextLane {}
        nextLane := hub.nextLane + 1
        sockets := hub.sockets.set socketId hub.nextLane }, hub.nextLane)

/-- A preparation waits in a lane. -/
def enqueue (lane bytes : Nat) : ConsumerPreparations T E :=
  { hub.changeLane lane fun state =>
      { state with queue := state.queue.push ⟨hub.nextCall, bytes⟩ } with
    waiting := hub.waiting + 1
    waitingBytes := hub.waitingBytes + bytes
    nextCall := hub.nextCall + 1 }

/-- `run`. -/
def run (socketId : String) (payload : ReceivedPayload) : ConsumerPreparations T E :=
  if hub.closed = true then
    { hub.settle hub.nextCall none .cancelled with nextCall := hub.nextCall + 1 }
  else
    let (opened, lane) := hub.laneFor socketId
    ((opened.enqueue lane (receivedFrameBytes payload)).markReady socketId lane).pump

/-- A preparation is no longer at work. -/
def leaveLane (job : StartedPreparation) : ConsumerPreparations T E :=
  { hub.changeLane job.lane fun state => { state with active := state.active - 1 } with
    active := hub.active - 1
    running := hub.running.erase job }

/-- `finish` up to `pump`. -/
def leave (job : StartedPreparation) : ConsumerPreparations T E :=
  let left := hub.leaveLane job
  if left.sockets.get job.socketId = some job.lane then
    match left.lanes.get job.lane with
    | none => left
    | some state =>
      if state.active = 0 ∧ state.queue.isEmpty = true then
        { left with sockets := left.sockets.erase job.socketId }
      else left.markReady job.socketId job.lane
  else left

/-- The close calls that wait are woken, if no preparation is at work. -/
def wakeIdle : ConsumerPreparations T E :=
  if hub.active = 0 then { hub with released := hub.released ++ hub.idleWaiters, idleWaiters := [] }
  else hub

/-- `finish`. -/
def finish (job : StartedPreparation) : ConsumerPreparations T E := (hub.leave job).pump.wakeIdle

/-- The lane of a preparation is cancelled, or the coordinator is closed. -/
def isCancelled (lane : Nat) : Bool :=
  ((hub.lanes.get lane).map (·.cancelled)).getD false || hub.closed

/-- What the promise of a call delivers when its work ends. -/
def settlementOf (lane : Nat) (outcome : Except E T) : PreparationSettlement T E :=
  if hub.isCancelled lane then .cancelled
  else
    match outcome with
    | .ok value => .value value
    | .error error => .rejected error

/-- The work of a call ends. -/
def complete (call : Nat) (outcome : Except E T) : ConsumerPreparations T E :=
  match hub.running.find? (·.call == call) with
  | none => hub
  | some job => (hub.finish job).settle call (some job.lane) (hub.settlementOf job.lane outcome)

/-- A preparation that waits in a lane is cancelled. -/
def cancelJob (lane : Nat) (job : QueuedPreparation) : ConsumerPreparations T E :=
  { hub with
    waiting := hub.waiting - 1
    waitingBytes := hub.waitingBytes - job.bytes }.settle job.call (some lane) .cancelled

/-- `cancelSocket`. -/
def cancelSocket (socketId : String) : ConsumerPreparations T E :=
  match hub.sockets.get socketId with
  | none => hub
  | some lane =>
    let jobs := ((hub.lanes.get lane).map (·.queue.items)).getD []
    let dropped :=
      { hub with
        ready := hub.ready.filter (· != socketId)
        sockets := hub.sockets.erase socketId }
    (jobs.foldl (fun hub job => hub.cancelJob lane job) dropped).changeLane lane fun state =>
      { state with cancelled := true, queue := .empty }

/-- `close`, up to its await. -/
def close (id : Nat) : ConsumerPreparations T E :=
  let cancelled :=
    hub.sockets.keys.foldl (fun hub socketId => hub.cancelSocket socketId)
      { hub with closed := true }
  if 0 < cancelled.active then { cancelled with idleWaiters := cancelled.idleWaiters ++ [id] }
  else { cancelled with closes := cancelled.closes ++ [cancelled.active] }

/-- A close call that was woken resolves. -/
def closeResumes (id : Nat) : ConsumerPreparations T E :=
  if id ∈ hub.released then
    { hub with released := hub.released.erase id, closes := hub.closes ++ [hub.active] }
  else hub

/-- One step. -/
def step : PreparationAction T E → ConsumerPreparations T E
  | .run socketId payload => hub.run socketId payload
  | .completed call outcome => hub.complete call outcome
  | .cancelSocket socketId => hub.cancelSocket socketId
  | .close id => hub.close id
  | .closeResumes id => hub.closeResumes id

end ConsumerPreparations

end PlugHub.Scheduling
