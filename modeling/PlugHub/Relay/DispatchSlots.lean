import PlugHub.Relay.AgentDispatchQueue

/-!
# The life of dispatch slots

The per-agent queue with the promises around it: the release function of every grant, the
waiters with their timers and abort listeners, and the reset that starts a new generation.
Relay and REST dispatches each have such a queue under their own limits. Every acquire call
gets a number, so that a later call has a greater one.
-/

namespace PlugHub.Relay

open Library

/-- Why an acquire call got no slot. -/
inductive SlotRefusal where
  | aborted
  | queueFull
  | waitTimeout
  | reset
deriving DecidableEq

/-- How an acquire call ends. -/
inductive SlotOutcome where
  | unlimited
  | granted
  | refused (reason : SlotRefusal)
deriving DecidableEq

/-- The promise of an acquire call was settled. -/
structure Settlement where
  call : Nat
  agentId : AgentId
  outcome : SlotOutcome

/-- An acquire call that waits, or waited, for a slot. -/
structure SlotWaiter where
  agentId : AgentId
  settled : Bool := false
  timeoutArmed : Bool := true
  listening : Bool := false

/-- The release function of a grant. -/
structure SlotRelease where
  agentId : AgentId
  generation : Nat
  released : Bool := false

/-- The queue with its promises. -/
structure DispatchSlots where
  queue : AgentDispatchQueue Nat := {}
  queueGeneration : Nat := 0
  waiters : OrderedMap Nat SlotWaiter := .empty
  releases : OrderedMap Nat SlotRelease := .empty
  nextCall : Nat := 0
  settlements : List Settlement := []

namespace DispatchSlots

/-- Settle a promise. -/
def settle (slots : DispatchSlots) (call : Nat) (agentId : AgentId) (outcome : SlotOutcome) :
    DispatchSlots :=
  { slots with settlements := ⟨call, agentId, outcome⟩ :: slots.settlements }

/-- Create the release function of a grant in the current generation. -/
def idempotentRelease (slots : DispatchSlots) (call : Nat) (agentId : AgentId) : DispatchSlots :=
  { slots with
    releases := slots.releases.set call
      { agentId := agentId, generation := slots.queueGeneration } }

/-- Clear the wait timer of a waiter. -/
def clearTimeout (slots : DispatchSlots) (call : Nat) : DispatchSlots :=
  { slots with waiters := slots.waiters.modify call ({ · with timeoutArmed := false }) }

/-- Mark the promise of a waiter as settled and detach its abort listener. -/
def markSettled (slots : DispatchSlots) (call : Nat) : DispatchSlots :=
  { slots with
    waiters := slots.waiters.modify call ({ · with settled := true, listening := false }) }

/-- Give a waiter its slot, unless its promise is settled. -/
def resolveOnce (slots : DispatchSlots) (call : Nat) : DispatchSlots :=
  match slots.waiters.get call with
  | none => slots
  | some waiter =>
    if waiter.settled then slots
    else
      ((slots.markSettled call).idempotentRelease call waiter.agentId).settle call waiter.agentId
        .granted

/-- Refuse a waiter, unless its promise is settled. -/
def rejectOnce (slots : DispatchSlots) (call : Nat) (reason : SlotRefusal) : DispatchSlots :=
  match slots.waiters.get call with
  | none => slots
  | some waiter =>
    if waiter.settled then slots
    else (slots.markSettled call).settle call waiter.agentId (.refused reason)

/-- Ask for a slot. The signal says whether there is one and whether it is raised already. -/
def acquire (limits : DispatchLimits) (slots : DispatchSlots) (agentId : AgentId)
    (signal : Option Bool) : DispatchSlots :=
  let call := slots.nextCall
  let numbered := { slots with nextCall := call + 1 }
  if signal = some true then numbered.settle call agentId (.refused .aborted)
  else
    match slots.queue.acquireAgentDispatchSlot limits agentId call with
    | (_, .unlimited) => numbered.settle call agentId .unlimited
    | (queue, .granted) =>
      ({ numbered with queue := queue }.idempotentRelease call agentId).settle call agentId
        .granted
    | (_, .queueFull) => numbered.settle call agentId (.refused .queueFull)
    | (queue, .queued) =>
      { numbered with
        queue := queue
        waiters := numbered.waiters.set call
          { agentId := agentId, listening := signal.isSome } }

/-- A release function is called: once, and only in the generation it was made in. -/
def release (limits : DispatchLimits) (slots : DispatchSlots) (call : Nat) : DispatchSlots :=
  match slots.releases.get call with
  | none => slots
  | some granted =>
    if granted.released ∨ granted.generation ≠ slots.queueGeneration then slots
    else
      let marked := { slots with
        releases := slots.releases.modify call ({ · with released := true }) }
      match marked.queue.releaseAgentDispatchSlot limits granted.agentId with
      | (queue, none) => { marked with queue := queue }
      | (queue, some next) => ({ marked with queue := queue }.clearTimeout next).resolveOnce next

/-- The wait timer of a call fires. -/
def timeoutFires (slots : DispatchSlots) (call : Nat) : DispatchSlots :=
  match slots.waiters.get call with
  | none => slots
  | some waiter =>
    if waiter.timeoutArmed then
      ({ slots with
        queue := slots.queue.removeQueuedWaiter waiter.agentId call }.clearTimeout
        call).rejectOnce call .waitTimeout
    else slots

/-- The signal of a call is raised; only a listener that is still attached hears it. -/
def abort (slots : DispatchSlots) (call : Nat) : DispatchSlots :=
  match slots.waiters.get call with
  | none => slots
  | some waiter =>
    if waiter.listening then
      ({ slots.clearTimeout call with
        queue := slots.queue.removeQueuedWaiter waiter.agentId call }).rejectOnce call .aborted
    else slots

/-- Start a new generation: every waiter is refused and every slot in use is forgotten. -/
def reset (slots : DispatchSlots) : DispatchSlots :=
  let waiting := slots.queue.agentQueueById.values.flatten
  let renewed := { slots with
    queueGeneration := slots.queueGeneration + 1
    queue := { slots.queue with agentInflightById := .empty } }
  let rejected := waiting.foldl (fun current call =>
    (current.clearTimeout call).rejectOnce call .reset) renewed
  { rejected with queue := {} }

/-- What can happen to the queue. -/
inductive Action where
  | acquire (agentId : AgentId) (signal : Option Bool)
  | release (call : Nat)
  | timeoutFires (call : Nat)
  | abort (call : Nat)
  | reset

/-- It is a call for a slot. -/
def Action.isAcquire : Action → Bool
  | .acquire _ _ => true
  | _ => false

/-- One step. -/
def step (limits : DispatchLimits) (slots : DispatchSlots) : Action → DispatchSlots
  | .acquire agentId signal => slots.acquire limits agentId signal
  | .release call => slots.release limits call
  | .timeoutFires call => slots.timeoutFires call
  | .abort call => slots.abort call
  | .reset => slots.reset

end DispatchSlots

end PlugHub.Relay
