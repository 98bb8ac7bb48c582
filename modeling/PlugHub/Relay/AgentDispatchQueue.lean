import PlugHub.Config
import PlugHub.Library.Index

/-!
# Per-agent dispatch slots

An in-flight limit for each agent with a first-in first-out queue of waiters, used once for
relay dispatches and once for REST dispatches with their own limits. A limit of zero
disables the queue; a queue length of zero means no bound.
-/

namespace PlugHub.Relay

open Library

/-- The limits of one queue. -/
structure DispatchLimits where
  maxInflight : Nat
  maxQueue : Nat

/-- The limits of the relay queue. -/
def relayDispatchLimits (env : Env) : DispatchLimits :=
  ⟨env.socketRelayAgentMaxInflight, env.socketRelayAgentMaxQueue⟩

/-- The limits of the REST queue. -/
def restDispatchLimits (env : Env) : DispatchLimits :=
  ⟨env.socketRestAgentMaxInflight, env.socketRestAgentMaxQueue⟩

/-- Slots in use and waiters of each agent. -/
structure AgentDispatchQueue (ω : Type) where
  agentInflightById : Counter AgentId := .empty
  agentQueueById : Index AgentId ω := .empty

/-- The answer to a dispatch that asks for a slot. -/
inductive SlotAnswer where
  | unlimited
  | granted
  | queued
  | queueFull

namespace AgentDispatchQueue

variable {ω : Type} [DecidableEq ω]

/-- Ask for a slot. -/
def acquireAgentDispatchSlot (limits : DispatchLimits) (queue : AgentDispatchQueue ω)
    (agentId : AgentId) (waiter : ω) : AgentDispatchQueue ω × SlotAnswer :=
  if limits.maxInflight = 0 then (queue, .unlimited)
  else if queue.agentInflightById.read agentId < limits.maxInflight then
    ({ queue with agentInflightById := queue.agentInflightById.increment agentId }, .granted)
  else if 0 < limits.maxQueue ∧
      limits.maxQueue ≤ (queue.agentQueueById.members agentId).length then (queue, .queueFull)
  else
    ({ queue with agentQueueById := queue.agentQueueById.addToIndex agentId waiter }, .queued)

/-- A waiter leaves the queue without a slot. -/
def removeQueuedWaiter (queue : AgentDispatchQueue ω) (agentId : AgentId) (waiter : ω) :
    AgentDispatchQueue ω :=
  { queue with agentQueueById := queue.agentQueueById.removeFromIndex agentId waiter }

/-- Hand a free slot to the oldest waiter; answers the waiter that got it. -/
def drainAgentQueue (limits : DispatchLimits) (queue : AgentDispatchQueue ω)
    (agentId : AgentId) : AgentDispatchQueue ω × Option ω :=
  if limits.maxInflight = 0 ∨ limits.maxInflight ≤ queue.agentInflightById.read agentId then
    (queue, none)
  else
    match queue.agentQueueById.members agentId with
    | [] => (queue, none)
    | next :: _ =>
      ({ agentInflightById := queue.agentInflightById.increment agentId
         agentQueueById := queue.agentQueueById.removeFromIndex agentId next }, some next)

/-- Give a slot back and hand it on. -/
def releaseAgentDispatchSlot (limits : DispatchLimits) (queue : AgentDispatchQueue ω)
    (agentId : AgentId) : AgentDispatchQueue ω × Option ω :=
  drainAgentQueue limits
    { queue with agentInflightById := queue.agentInflightById.decrement agentId } agentId

end AgentDispatchQueue

end PlugHub.Relay
