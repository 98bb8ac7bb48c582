import PlugHub.Config
import PlugHub.Library.OrderedMap

/-!
# The relay idempotency store

For each conversation the client request ids that were dispatched, with the hub request
that serves them, the stored response once there is one, and the consumers that repeated
the request while it was in flight. Insertions respect a cap for each conversation and a
cap for the hub by evicting completed entries, oldest first.

The insertion keeps the map of its conversation in a local variable. The eviction across
conversations deletes a conversation whose map it finds or leaves empty, which may be the
very map the insertion holds; the insertion then writes into a map the store no longer
knows, and only the total is changed.
-/

namespace PlugHub.Registries

open Library

/-- An idempotency entry over a type of response frames. -/
structure RelayIdempotencyEntry (Frame : Type) where
  requestId : RequestId
  expiresAtMs : Nat
  responseFrame : Option Frame := none
  pendingReplayConsumerSocketIds : List SocketId := []

/-- The store. -/
structure RelayIdempotencyStore (Frame : Type) where
  relayIdempotencyByConversation :
    OrderedMap ConversationId (OrderedMap ClientRequestId (RelayIdempotencyEntry Frame)) := .empty
  totalEntries : Nat := 0

/-- Which cap refused an insertion. -/
inductive IdempotencyRefusal where
  | perConversationCapReached
  | globalCapReached
deriving DecidableEq

namespace RelayIdempotencyStore

variable {Frame : Type}

/-- The entries of one conversation. -/
abbrev ConversationMap (Frame : Type) := OrderedMap ClientRequestId (RelayIdempotencyEntry Frame)

/-- A completed entry has a response. -/
def isCompletedIdempotencyEntry (entry : RelayIdempotencyEntry Frame) : Bool :=
  entry.responseFrame.isSome

/-- The client request id of the oldest completed entry of a conversation. -/
def oldestCompleted (entries : ConversationMap Frame) : Option ClientRequestId :=
  (entries.entries.find? fun entry => isCompletedIdempotencyEntry entry.2).map Prod.fst

/-- The map of a conversation. -/
def getRelayIdempotencyMap (store : RelayIdempotencyStore Frame)
    (conversationId : ConversationId) : Option (ConversationMap Frame) :=
  store.relayIdempotencyByConversation.get conversationId

/-- The entry of a client request. -/
def getEntry (store : RelayIdempotencyStore Frame) (conversationId : ConversationId)
    (clientRequestId : ClientRequestId) : Option (RelayIdempotencyEntry Frame) :=
  (store.getRelayIdempotencyMap conversationId).bind (·.get clientRequestId)

/-- The map of a conversation is created when it is missing. -/
def getOrCreateRelayIdempotencyMap (store : RelayIdempotencyStore Frame)
    (conversationId : ConversationId) : RelayIdempotencyStore Frame :=
  match store.getRelayIdempotencyMap conversationId with
  | some _ => store
  | none =>
    { store with relayIdempotencyByConversation :=
        store.relayIdempotencyByConversation.set conversationId .empty }

/-- Change the map of a conversation. -/
def updateMap (store : RelayIdempotencyStore Frame) (conversationId : ConversationId)
    (change : ConversationMap Frame → ConversationMap Frame) : RelayIdempotencyStore Frame :=
  { store with relayIdempotencyByConversation :=
      store.relayIdempotencyByConversation.modify conversationId change }

/-- Change one entry in place. -/
def updateEntry (store : RelayIdempotencyStore Frame) (conversationId : ConversationId)
    (clientRequestId : ClientRequestId)
    (change : RelayIdempotencyEntry Frame → RelayIdempotencyEntry Frame) :
    RelayIdempotencyStore Frame :=
  store.updateMap conversationId fun entries => entries.modify clientRequestId change

/-- Delete a conversation whose map is empty. -/
def dropEmptyMap (store : RelayIdempotencyStore Frame) (conversationId : ConversationId) :
    RelayIdempotencyStore Frame :=
  match store.getRelayIdempotencyMap conversationId with
  | some entries =>
    if entries.size = 0 then
      { store with relayIdempotencyByConversation :=
          store.relayIdempotencyByConversation.erase conversationId }
    else store
  | none => store

/-- Evict the first completed entry found along the listed conversations; empty maps met on the
way are deleted. Answers the store and whether an entry was evicted. -/
def evictAlong (store : RelayIdempotencyStore Frame) :
    List ConversationId → RelayIdempotencyStore Frame × Bool
  | [] => (store, false)
  | conversationId :: rest =>
    match (store.getRelayIdempotencyMap conversationId).bind oldestCompleted with
    | some clientRequestId =>
      let evicted := store.updateMap conversationId (·.erase clientRequestId)
      ({ evicted with totalEntries := evicted.totalEntries - 1 }.dropEmptyMap conversationId, true)
    | none => (store.dropEmptyMap conversationId).evictAlong rest

/-- Evict the first completed entry in conversation order. -/
def evictGlobalOldestCompleted (store : RelayIdempotencyStore Frame) :
    RelayIdempotencyStore Frame × Bool :=
  store.evictAlong store.relayIdempotencyByConversation.keys

/-- Evict completed entries of one conversation while it is at its cap. The loop takes at most
one turn for each entry. -/
def evictConversation (cap : Nat) (conversationId : ConversationId) :
    Nat → RelayIdempotencyStore Frame → RelayIdempotencyStore Frame
  | 0, store => store
  | fuel + 1, store =>
    match store.getRelayIdempotencyMap conversationId with
    | none => store
    | some entries =>
      if entries.size < cap then store
      else
        match oldestCompleted entries with
        | none => store
        | some clientRequestId =>
          let evicted := store.updateMap conversationId (·.erase clientRequestId)
          evictConversation cap conversationId fuel
            { evicted with totalEntries := evicted.totalEntries - 1 }

/-- Evict completed entries across conversations while the store is at its cap. -/
def evictGlobal (cap : Nat) : Nat → RelayIdempotencyStore Frame → RelayIdempotencyStore Frame
  | 0, store => store
  | fuel + 1, store =>
    if store.totalEntries < cap then store
    else
      match store.evictGlobalOldestCompleted with
      | (next, true) => evictGlobal cap fuel next
      | (next, false) => next

/-- Write an entry into the map the insertion holds: a map the store no longer knows takes the
entry with it. -/
def writeEntry (store : RelayIdempotencyStore Frame) (conversationId : ConversationId)
    (clientRequestId : ClientRequestId) (entry : RelayIdempotencyEntry Frame) :
    RelayIdempotencyStore Frame :=
  store.updateMap conversationId (·.set clientRequestId entry)

/-- Store or update an entry within the caps. An update is never refused. -/
def setRelayIdempotencyEntry (env : Env) (store : RelayIdempotencyStore Frame)
    (conversationId : ConversationId) (clientRequestId : ClientRequestId)
    (entry : RelayIdempotencyEntry Frame) :
    RelayIdempotencyStore Frame × Option IdempotencyRefusal :=
  let opened := store.getOrCreateRelayIdempotencyMap conversationId
  match opened.getEntry conversationId clientRequestId with
  | some _ => (opened.writeEntry conversationId clientRequestId entry, none)
  | none =>
    let sizeOf := fun (current : RelayIdempotencyStore Frame) =>
      ((current.getRelayIdempotencyMap conversationId).map (·.size)).getD 0
    let roomy := evictConversation env.socketRelayIdempotencyMaxEntriesPerConversation
      conversationId (sizeOf opened + 1) opened
    if env.socketRelayIdempotencyMaxEntriesPerConversation ≤ sizeOf roomy then
      (roomy, some .perConversationCapReached)
    else
      let cap := env.socketRelayIdempotencyMaxTotalEntries
      let trimmed := if 0 < cap then evictGlobal cap (roomy.totalEntries + 1) roomy else roomy
      if 0 < cap ∧ cap ≤ trimmed.totalEntries then (trimmed, some .globalCapReached)
      else
        let written := trimmed.writeEntry conversationId clientRequestId entry
        ({ written with totalEntries := written.totalEntries + 1 }, none)

/-- Remove the entry of a client request, whichever hub request it belongs to. -/
def removeRelayIdempotencyEntry (store : RelayIdempotencyStore Frame)
    (conversationId : ConversationId) (clientRequestId : ClientRequestId) :
    RelayIdempotencyStore Frame :=
  match store.getEntry conversationId clientRequestId with
  | none => store
  | some _ =>
    let removed := store.updateMap conversationId (·.erase clientRequestId)
    { removed with totalEntries := removed.totalEntries - 1 }.dropEmptyMap conversationId

/-- Forget a conversation. -/
def clearRelayIdempotencyForConversation (store : RelayIdempotencyStore Frame)
    (conversationId : ConversationId) : RelayIdempotencyStore Frame :=
  match store.getRelayIdempotencyMap conversationId with
  | none => store
  | some entries =>
    { relayIdempotencyByConversation :=
        store.relayIdempotencyByConversation.erase conversationId
      totalEntries := store.totalEntries - entries.size }

/-- Whether the periodic cleanup removes an entry: a completed one past its expiry, or an
uncompleted one past its expiry whose hub request is not registered. -/
def isExpired (nowMs : Nat) (registered : RequestId → Bool)
    (entry : RelayIdempotencyEntry Frame) : Bool :=
  entry.expiresAtMs ≤ nowMs ∧
    (isCompletedIdempotencyEntry entry = true ∨ registered entry.requestId = false)

/-- The keys of a conversation that the cleanup removes. -/
def expiredKeys (nowMs : Nat) (registered : RequestId → Bool) (entries : ConversationMap Frame) :
    List ClientRequestId :=
  (entries.entries.filter fun entry => isExpired nowMs registered entry.2).map Prod.fst

/-- The periodic cleanup. -/
def pruneExpiredRelayIdempotencyEntries (nowMs : Nat) (registered : RequestId → Bool)
    (store : RelayIdempotencyStore Frame) : RelayIdempotencyStore Frame :=
  store.relayIdempotencyByConversation.keys.foldl
    (fun current conversationId =>
      let expired :=
        ((current.getRelayIdempotencyMap conversationId).map
          (expiredKeys nowMs registered)).getD []
      let pruned := current.updateMap conversationId fun entries =>
        expired.foldl (fun kept clientRequestId => kept.erase clientRequestId) entries
      { pruned with totalEntries := pruned.totalEntries - expired.length }.dropEmptyMap
        conversationId)
    store

/-- Drop a consumer from the waiters of every entry. -/
def pruneRelayIdempotencyWaiterSocket (store : RelayIdempotencyStore Frame)
    (consumerSocketId : SocketId) : RelayIdempotencyStore Frame :=
  store.relayIdempotencyByConversation.keys.foldl
    (fun current conversationId =>
      current.updateMap conversationId fun entries =>
        entries.keys.foldl
          (fun kept clientRequestId =>
            kept.modify clientRequestId fun entry =>
              { entry with pendingReplayConsumerSocketIds :=
                  entry.pendingReplayConsumerSocketIds.filter (· ≠ consumerSocketId) })
          entries)
    store

end RelayIdempotencyStore

end PlugHub.Registries
