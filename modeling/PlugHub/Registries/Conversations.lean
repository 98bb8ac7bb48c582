import PlugHub.Config
import PlugHub.Library.Accounting
import PlugHub.Library.Listing
import PlugHub.Library.Runs

/-!
# The conversation registry

Relay conversations by id, the two indexes that the disconnects of consumers and agents walk, and
the times of the last debounced touches. Both caps are checked against the registry in the same
synchronous call that creates a conversation.
-/

namespace PlugHub.Registries

open Library
open OrderedMap (erase_set get_erase get_modify get_set mem_keysWith nodup_keysWith)

/-- A conversation between a consumer and an agent. -/
structure RelayConversation where
  conversationId : ConversationId
  consumerSocketId : SocketId
  agentSocketId : SocketId
  agentId : AgentId
  createdAtMs : Int
  lastSeenAtMs : Int

/-- The registry. -/
structure ConversationRegistry where
  conversations : OrderedMap ConversationId RelayConversation := .empty
  conversationsByConsumerSocket : Index SocketId ConversationId := .empty
  conversationsByAgentSocket : Index SocketId ConversationId := .empty
  lastTouchAtMsByConversationId : OrderedMap ConversationId Int := .empty

/-- What a conversation is created with. -/
structure ConversationInput where
  consumerSocketId : SocketId
  agentSocketId : SocketId
  agentId : AgentId
  conversationId : ConversationId

/-- The configured caps, and the time between two debounced touches. -/
structure ConversationEnv where
  socketRelayMaxConversations : Nat := 5000
  socketRelayMaxConversationsPerConsumer : Nat := 20
  socketRelayConversationTouchDebounceMs : Int := 0

/-- Why a conversation is not created. -/
inductive ReserveRefusal where
  | globalCapReached
  | consumerCapReached

/-- The reason that is reported. -/
def ReserveRefusal.reason : ReserveRefusal → String
  | .globalCapReached => "global_cap_reached"
  | .consumerCapReached => "consumer_cap_reached"

namespace ConversationRegistry

variable (registry : ConversationRegistry)

/-- The number of conversations. -/
def countAll : Nat := registry.conversations.size

/-- The number of conversations of a consumer. -/
def countByConsumerSocketId (consumerSocketId : SocketId) : Nat :=
  (registry.conversationsByConsumerSocket.members consumerSocketId).length

/-- Forget the touches of a conversation. -/
def clearConversationTouchDebounceState (conversationId : ConversationId) : ConversationRegistry :=
  { registry with
    lastTouchAtMsByConversationId := registry.lastTouchAtMsByConversationId.erase conversationId }

/-- Remove a conversation. -/
def removeByConversationId (conversationId : ConversationId) :
    Option RelayConversation × ConversationRegistry :=
  match registry.conversations.get conversationId with
  | none => (none, registry)
  | some existing =>
    (some existing,
      { conversations := registry.conversations.erase conversationId
        conversationsByConsumerSocket :=
          registry.conversationsByConsumerSocket.removeFromIndex existing.consumerSocketId
            conversationId
        conversationsByAgentSocket :=
          registry.conversationsByAgentSocket.removeFromIndex existing.agentSocketId conversationId
        lastTouchAtMsByConversationId :=
          registry.lastTouchAtMsByConversationId.erase conversationId })

/-- Create a conversation in the place of one with its id. -/
def create (nowMs : Int) (input : ConversationInput) : RelayConversation × ConversationRegistry :=
  let registry := (registry.removeByConversationId input.conversationId).2
  let conversation : RelayConversation :=
    ⟨input.conversationId, input.consumerSocketId, input.agentSocketId, input.agentId, nowMs, nowMs⟩
  (conversation,
    { registry with
      conversations := registry.conversations.set input.conversationId conversation
      conversationsByConsumerSocket :=
        registry.conversationsByConsumerSocket.addToIndex input.consumerSocketId
          input.conversationId
      conversationsByAgentSocket :=
        registry.conversationsByAgentSocket.addToIndex input.agentSocketId input.conversationId })

/-- Create a conversation when both caps have room for it. -/
def tryReserveAndCreate (env : ConversationEnv) (nowMs : Int) (input : ConversationInput) :
    Except ReserveRefusal RelayConversation × ConversationRegistry :=
  if env.socketRelayMaxConversations ≤ registry.countAll then
    (.error .globalCapReached, registry)
  else if env.socketRelayMaxConversationsPerConsumer ≤
      registry.countByConsumerSocketId input.consumerSocketId then
    (.error .consumerCapReached, registry)
  else
    match registry.create nowMs input with
    | (conversation, registry) => (.ok conversation, registry)

/-- Note that a conversation is used. -/
def touch (nowMs : Int) (conversationId : ConversationId) : ConversationRegistry :=
  { registry with
    conversations := registry.conversations.modify conversationId fun existing =>
      { existing with lastSeenAtMs := nowMs } }

/-- Note that a conversation is used, at most once in a debounce window. -/
def touchInternalDebounced (env : ConversationEnv) (nowMs : Int) (conversationId : ConversationId) :
    ConversationRegistry :=
  let debounceMs := env.socketRelayConversationTouchDebounceMs
  let recent := (registry.lastTouchAtMsByConversationId.get conversationId).any fun lastTouchMs =>
    nowMs - lastTouchMs < debounceMs
  if 0 < debounceMs ∧ recent = true then registry
  else
    let registry :=
      if 0 < debounceMs then
        { registry with
          lastTouchAtMsByConversationId :=
            registry.lastTouchAtMsByConversationId.set conversationId nowMs }
      else registry
    match registry.conversations.get conversationId with
    | none => registry.clearConversationTouchDebounceState conversationId
    | some _ => registry.touch nowMs conversationId

/-- Remove conversations one after the other. -/
def removeAll (registry : ConversationRegistry) :
    List ConversationId → List RelayConversation × ConversationRegistry
  | [] => ([], registry)
  | conversationId :: rest =>
    match registry.removeByConversationId conversationId with
    | (item, next) =>
      match next.removeAll rest with
      | (removed, last) => (item.toList ++ removed, last)

/-- Remove the conversations of a consumer. -/
def removeByConsumerSocketId (consumerSocketId : SocketId) :
    List RelayConversation × ConversationRegistry :=
  registry.removeAll (registry.conversationsByConsumerSocket.members consumerSocketId)

/-- Remove the conversations of an agent socket. -/
def removeByAgentSocketId (agentSocketId : SocketId) :
    List RelayConversation × ConversationRegistry :=
  registry.removeAll (registry.conversationsByAgentSocket.members agentSocketId)

/-- A conversation was not used for a time; the time is at least a millisecond. -/
def idle (nowMs idleTimeoutMs : Int) (conversation : RelayConversation) : Bool :=
  max 1 idleTimeoutMs ≤ nowMs - conversation.lastSeenAtMs

/-- Remove the conversations that were not used for a time. -/
def removeExpired (nowMs idleTimeoutMs : Int) : List RelayConversation × ConversationRegistry :=
  registry.removeAll
    ((registry.conversations.values.filter (idle nowMs idleTimeoutMs)).map
      RelayConversation.conversationId)

end ConversationRegistry

/-- One call of the registry. -/
inductive ConversationAction where
  | tryReserveAndCreate (nowMs : Int) (input : ConversationInput)
  | touch (nowMs : Int) (conversationId : ConversationId)
  | touchInternalDebounced (nowMs : Int) (conversationId : ConversationId)
  | removeByConversationId (conversationId : ConversationId)
  | removeByConsumerSocketId (consumerSocketId : SocketId)
  | removeByAgentSocketId (agentSocketId : SocketId)
  | removeExpired (nowMs idleTimeoutMs : Int)
  | clear

/-- The registry after one call. -/
def ConversationRegistry.after (env : ConversationEnv) (registry : ConversationRegistry) :
    ConversationAction → ConversationRegistry
  | .tryReserveAndCreate nowMs input => (registry.tryReserveAndCreate env nowMs input).2
  | .touch nowMs conversationId => registry.touch nowMs conversationId
  | .touchInternalDebounced nowMs conversationId =>
    registry.touchInternalDebounced env nowMs conversationId
  | .removeByConversationId conversationId => (registry.removeByConversationId conversationId).2
  | .removeByConsumerSocketId consumerSocketId =>
    (registry.removeByConsumerSocketId consumerSocketId).2
  | .removeByAgentSocketId agentSocketId => (registry.removeByAgentSocketId agentSocketId).2
  | .removeExpired nowMs idleTimeoutMs => (registry.removeExpired nowMs idleTimeoutMs).2
  | .clear => {}

/-! ## What holds of the registry -/

/-- The registry and what is derived from it agree, and the caps are kept. -/
structure ConversationRegistry.Exact (env : ConversationEnv) (registry : ConversationRegistry) :
    Prop where
  named : ∀ id conversation, registry.conversations.get id = some conversation →
    conversation.conversationId = id
  byConsumer : registry.conversationsByConsumerSocket.Lists registry.conversations
    RelayConversation.consumerSocketId
  byAgent : registry.conversationsByAgentSocket.Lists registry.conversations
    RelayConversation.agentSocketId
  tightConsumers : registry.conversationsByConsumerSocket.Tight
  tightAgents : registry.conversationsByAgentSocket.Tight
  debounced : ∀ id, (registry.lastTouchAtMsByConversationId.get id).isSome = true →
    (registry.conversations.get id).isSome = true
  total : registry.countAll ≤ env.socketRelayMaxConversations
  perConsumer : ∀ consumerSocketId, registry.countByConsumerSocketId consumerSocketId ≤
    env.socketRelayMaxConversationsPerConsumer

/-- A removal that removes and answers exactly the conversations with a property. -/
structure ConversationRegistry.RemovesExactly (registry : ConversationRegistry)
    (result : List RelayConversation × ConversationRegistry)
    (criterion : RelayConversation → Bool) : Prop where
  /-- Exactly the others stay. -/
  kept : ∀ id, result.2.conversations.get id =
    (registry.conversations.get id).filter fun conversation => !criterion conversation
  /-- Exactly these are answered. -/
  answered : ∀ conversation, conversation ∈ result.1 ↔
    criterion conversation = true ∧
      registry.conversations.get conversation.conversationId = some conversation
  once : result.1.Nodup

namespace ConversationRegistry

variable {env : ConversationEnv} {registry : ConversationRegistry}

theorem Exact.empty (env : ConversationEnv) : Exact env {} where
  named _ _ found := by cases found
  byConsumer := Index.Lists.empty
  byAgent := Index.Lists.empty
  tightConsumers := Index.tight_empty
  tightAgents := Index.tight_empty
  debounced _ present := by cases present
  total := Nat.zero_le _
  perConsumer _ := Nat.zero_le _

section

variable (registry : ConversationRegistry)

theorem get_removeByConversationId
    (conversationId other : ConversationId) :
    (registry.removeByConversationId conversationId).2.conversations.get other =
      if other = conversationId then none else registry.conversations.get other := by
  unfold removeByConversationId
  cases found : registry.conversations.get conversationId with
  | none =>
    split_ifs with same
    · rw [same]
      exact found
    · rfl
  | some existing => exact get_erase _ _ _

theorem answer_removeByConversationId
    (conversationId : ConversationId) :
    (registry.removeByConversationId conversationId).1 =
      registry.conversations.get conversationId := by
  unfold removeByConversationId
  cases registry.conversations.get conversationId <;> rfl

theorem countAll_remove_le (conversationId : ConversationId) :
    (registry.removeByConversationId conversationId).2.countAll ≤ registry.countAll := by
  unfold removeByConversationId
  cases found : registry.conversations.get conversationId with
  | none => exact le_rfl
  | some existing =>
    have size := OrderedMap.size_erase_of_present _ found
    simp only [countAll]
    omega

theorem countByConsumerSocketId_remove_le
    (conversationId : ConversationId) (consumerSocketId : SocketId) :
    (registry.removeByConversationId conversationId).2.countByConsumerSocketId consumerSocketId ≤
      registry.countByConsumerSocketId consumerSocketId := by
  unfold removeByConversationId
  cases registry.conversations.get conversationId with
  | none => exact le_rfl
  | some existing =>
    simp only [countByConsumerSocketId]
    rw [Index.members_removeFromIndex]
    split_ifs with same
    · rw [same]
      exact List.length_filter_le _ _
    · exact le_rfl

end

section

variable (exact : registry.Exact env)

include exact

theorem Exact.remove (conversationId : ConversationId) :
    (registry.removeByConversationId conversationId).2.Exact env := by
  have total := (registry.countAll_remove_le conversationId).trans exact.total
  have perConsumer := fun consumerSocketId =>
    (registry.countByConsumerSocketId_remove_le conversationId consumerSocketId).trans
      (exact.perConsumer consumerSocketId)
  revert total perConsumer
  unfold removeByConversationId
  cases found : registry.conversations.get conversationId with
  | none => exact fun _ _ => exact
  | some existing =>
    intro total perConsumer
    refine ⟨fun id conversation stored => ?_, exact.byConsumer.erase found,
      exact.byAgent.erase found, exact.tightConsumers.removeFromIndex _ _,
      exact.tightAgents.removeFromIndex _ _, fun id present => ?_, total, perConsumer⟩
    · simp only [get_erase] at stored
      split_ifs at stored
      exact exact.named id conversation stored
    · simp only [get_erase] at present ⊢
      split_ifs at present ⊢ with same
      · cases present
      · exact exact.debounced id present

theorem Exact.insert (conversation : RelayConversation)
    (absent : registry.conversations.get conversation.conversationId = none)
    (room : registry.countAll < env.socketRelayMaxConversations)
    (consumerRoom : registry.countByConsumerSocketId conversation.consumerSocketId <
      env.socketRelayMaxConversationsPerConsumer) :
    { registry with
      conversations := registry.conversations.set conversation.conversationId conversation
      conversationsByConsumerSocket :=
        registry.conversationsByConsumerSocket.addToIndex conversation.consumerSocketId
          conversation.conversationId
      conversationsByAgentSocket :=
        registry.conversationsByAgentSocket.addToIndex conversation.agentSocketId
          conversation.conversationId }.Exact env := by
  have unlisted : conversation.conversationId ∉
      registry.conversationsByConsumerSocket.members conversation.consumerSocketId := by
    rw [exact.byConsumer, mem_keysWith]
    rintro ⟨other, found, -⟩
    rw [absent] at found
    cases found
  refine ⟨OrderedMap.forall_set rfl exact.named, exact.byConsumer.insert absent,
    exact.byAgent.insert absent, exact.tightConsumers.addToIndex _ _,
    exact.tightAgents.addToIndex _ _, fun id present => ?_, ?_, fun consumerSocketId => ?_⟩
  · have before := exact.debounced id present
    simp only [get_set]
    split_ifs
    · rfl
    · exact before
  · simp only [countAll, OrderedMap.size_set_of_absent _ _ absent]
    exact room
  · simp only [countByConsumerSocketId]
    rw [Index.members_addToIndex _ unlisted]
    split_ifs with same
    · rw [List.length_append, List.length_singleton]
      exact consumerRoom
    · exact exact.perConsumer consumerSocketId

variable (nowMs : Int)

theorem Exact.create (input : ConversationInput)
    (room : registry.countAll < env.socketRelayMaxConversations)
    (consumerRoom : registry.countByConsumerSocketId input.consumerSocketId <
      env.socketRelayMaxConversationsPerConsumer) :
    (registry.create nowMs input).2.Exact env := by
  have absent : (registry.removeByConversationId input.conversationId).2.conversations.get
      input.conversationId = none := by
    rw [get_removeByConversationId, if_pos rfl]
  have total := registry.countAll_remove_le input.conversationId
  have perConsumer := registry.countByConsumerSocketId_remove_le input.conversationId
    input.consumerSocketId
  exact (exact.remove input.conversationId).insert
    ⟨input.conversationId, input.consumerSocketId, input.agentSocketId, input.agentId, nowMs, nowMs⟩
    absent (total.trans_lt room) (perConsumer.trans_lt consumerRoom)

theorem Exact.forgetTouch (conversationId : ConversationId) :
    (registry.clearConversationTouchDebounceState conversationId).Exact env := by
  refine ⟨exact.named, exact.byConsumer, exact.byAgent, exact.tightConsumers, exact.tightAgents,
    fun id touched => ?_, exact.total, exact.perConsumer⟩
  simp only [clearConversationTouchDebounceState, get_erase] at touched
  split_ifs at touched with same
  · cases touched
  · exact exact.debounced id touched

theorem Exact.tryReserveAndCreate
    (input : ConversationInput) : (registry.tryReserveAndCreate env nowMs input).2.Exact env := by
  unfold ConversationRegistry.tryReserveAndCreate
  by_cases full : env.socketRelayMaxConversations ≤ registry.countAll
  · rw [if_pos full]
    exact exact
  · rw [if_neg full]
    by_cases consumerFull : env.socketRelayMaxConversationsPerConsumer ≤
        registry.countByConsumerSocketId input.consumerSocketId
    · rw [if_pos consumerFull]
      exact exact
    · rw [if_neg consumerFull]
      exact exact.create nowMs input (Nat.lt_of_not_le full) (Nat.lt_of_not_le consumerFull)

theorem Exact.touch (conversationId : ConversationId) :
    (registry.touch nowMs conversationId).Exact env := by
  refine ⟨fun id conversation stored => ?_, exact.byConsumer.modify _ _ fun _ => rfl,
    exact.byAgent.modify _ _ fun _ => rfl, exact.tightConsumers, exact.tightAgents,
    fun id present => ?_, ?_, exact.perConsumer⟩
  · simp only [ConversationRegistry.touch, get_modify] at stored
    split_ifs at stored
    · obtain ⟨before, found, rfl⟩ := Option.map_eq_some_iff.mp stored
      exact exact.named id before (by rwa [← ‹id = conversationId›] at found)
    · exact exact.named id conversation stored
  · have before := exact.debounced id present
    simp only [ConversationRegistry.touch, get_modify]
    split_ifs with same
    · rw [← same, Option.isSome_map]
      exact before
    · exact before
  · have total := exact.total
    simp only [countAll, ConversationRegistry.touch, OrderedMap.size_modify] at total ⊢
    exact total

theorem Exact.debounce {conversationId : ConversationId}
    (present : (registry.conversations.get conversationId).isSome = true) (nowMs : Int) :
    { registry with
      lastTouchAtMsByConversationId :=
        registry.lastTouchAtMsByConversationId.set conversationId nowMs }.Exact env := by
  refine ⟨exact.named, exact.byConsumer, exact.byAgent, exact.tightConsumers, exact.tightAgents,
    fun id touched => ?_, exact.total, exact.perConsumer⟩
  simp only [get_set] at touched
  split_ifs at touched with same
  · rw [same]
    exact present
  · exact exact.debounced id touched

theorem Exact.touchInternalDebounced (conversationId : ConversationId) :
    (registry.touchInternalDebounced env nowMs conversationId).Exact env := by
  unfold ConversationRegistry.touchInternalDebounced
  simp only
  split_ifs with recent lasting
  · exact exact
  · cases found : registry.conversations.get conversationId with
    | none =>
      have forgotten : { registry with
          lastTouchAtMsByConversationId :=
            registry.lastTouchAtMsByConversationId.set conversationId
              nowMs }.clearConversationTouchDebounceState conversationId =
          registry.clearConversationTouchDebounceState conversationId := by
        simp only [clearConversationTouchDebounceState, erase_set]
      simp only [forgotten]
      exact exact.forgetTouch conversationId
    | some existing => exact (exact.debounce (by rw [found]; rfl) nowMs).touch nowMs conversationId
  · cases found : registry.conversations.get conversationId with
    | none => exact exact.forgetTouch conversationId
    | some existing => exact exact.touch nowMs conversationId

end

/-! ## Removals -/

theorem Exact.removeAll (exact : registry.Exact env)
    (ids : List ConversationId) : (registry.removeAll ids).2.Exact env := by
  induction ids generalizing registry with
  | nil => exact exact
  | cons conversationId rest ih => exact ih (exact.remove conversationId)

theorem get_removeAll (registry : ConversationRegistry) (ids : List ConversationId)
    (other : ConversationId) :
    (registry.removeAll ids).2.conversations.get other =
      if other ∈ ids then none else registry.conversations.get other := by
  induction ids generalizing registry with
  | nil => rfl
  | cons conversationId rest ih =>
    have later := ih (registry.removeByConversationId conversationId).2
    rw [get_removeByConversationId] at later
    simp only [ConversationRegistry.removeAll]
    rw [later]
    by_cases same : other = conversationId
    · simp [same]
    · simp [same]

theorem answer_removeAll (registry : ConversationRegistry) {ids : List ConversationId}
    (distinct : ids.Nodup) :
    (registry.removeAll ids).1 = ids.filterMap registry.conversations.get := by
  induction ids generalizing registry with
  | nil => rfl
  | cons conversationId rest ih =>
    obtain ⟨unnamed, others⟩ := List.nodup_cons.mp distinct
    have later := ih (registry.removeByConversationId conversationId).2 others
    have same : rest.filterMap
        (registry.removeByConversationId conversationId).2.conversations.get =
          rest.filterMap registry.conversations.get := by
      refine List.filterMap_congr fun id member => ?_
      rw [get_removeByConversationId, if_neg (ne_of_mem_of_not_mem member unnamed)]
    simp only [ConversationRegistry.removeAll]
    rw [later, same, answer_removeByConversationId, List.filterMap_cons]
    cases registry.conversations.get conversationId <;> rfl

section

variable (exact : registry.Exact env)

include exact

theorem Exact.removesExactly {ids : List ConversationId}
    (distinct : ids.Nodup) {criterion : RelayConversation → Bool}
    (listed : ∀ id, id ∈ ids ↔
      ∃ conversation, registry.conversations.get id = some conversation ∧
        criterion conversation = true) :
    registry.RemovesExactly (registry.removeAll ids) criterion := by
  constructor
  · intro id
    rw [get_removeAll]
    cases found : registry.conversations.get id with
    | none => simp
    | some conversation =>
      have member : id ∈ ids ↔ criterion conversation = true := by
        rw [listed id, found]
        simp
      cases decided : criterion conversation with
      | true => simp [member.mpr decided, Option.filter, decided]
      | false =>
        have out : id ∉ ids := fun inside => by
          rw [member.mp inside] at decided
          cases decided
        simp [out, Option.filter, decided]
  · intro conversation
    rw [answer_removeAll _ distinct, List.mem_filterMap]
    constructor
    · rintro ⟨id, inside, found⟩
      obtain ⟨stored, same, met⟩ := (listed id).mp inside
      rw [found] at same
      cases same
      rw [exact.named id conversation found]
      exact ⟨met, found⟩
    · rintro ⟨met, found⟩
      exact ⟨conversation.conversationId, (listed _).mpr ⟨conversation, found, met⟩, found⟩
  · rw [answer_removeAll _ distinct]
    refine distinct.filterMap fun first second conversation left right => ?_
    rw [← exact.named first conversation left, ← exact.named second conversation right]

theorem Exact.removesById (conversationId : ConversationId) :
    registry.RemovesExactly
      ((registry.removeByConversationId conversationId).1.toList,
        (registry.removeByConversationId conversationId).2)
      fun conversation => conversation.conversationId = conversationId := by
  constructor
  · intro id
    simp only [get_removeByConversationId]
    cases found : registry.conversations.get id with
    | none => simp
    | some conversation =>
      have named := exact.named id conversation found
      by_cases same : id = conversationId
      · simp [Option.filter, same, named]
      · simp [Option.filter, same, named]
  · intro conversation
    simp only [answer_removeByConversationId, Option.mem_toList, decide_eq_true_eq]
    constructor
    · intro found
      have named := exact.named conversationId conversation found
      exact ⟨named, by rw [named]; exact found⟩
    · rintro ⟨rfl, found⟩
      exact found
  · cases (registry.removeByConversationId conversationId).1 <;> simp

theorem Exact.mem_expired (criterion : RelayConversation → Bool) (id : ConversationId) :
    id ∈ (registry.conversations.values.filter criterion).map RelayConversation.conversationId ↔
      ∃ conversation, registry.conversations.get id = some conversation ∧
        criterion conversation = true := by
  simp only [List.mem_map, List.mem_filter, OrderedMap.mem_values_iff]
  constructor
  · rintro ⟨conversation, ⟨⟨key, found⟩, met⟩, rfl⟩
    rw [exact.named key conversation found]
    exact ⟨conversation, found, met⟩
  · rintro ⟨conversation, found, met⟩
    exact ⟨conversation, ⟨⟨id, found⟩, met⟩, exact.named id conversation found⟩

theorem Exact.nodup_expired (criterion : RelayConversation → Bool) :
    ((registry.conversations.values.filter criterion).map
      RelayConversation.conversationId).Nodup := by
  have ids : registry.conversations.values.map RelayConversation.conversationId =
      registry.conversations.keys := by
    unfold OrderedMap.values OrderedMap.keys
    rw [List.map_map]
    refine List.map_congr_left fun entry stored => ?_
    exact exact.named entry.1 entry.2 ((OrderedMap.get_eq_some_iff _ _ _).mpr stored)
  have distinct : (registry.conversations.values.map RelayConversation.conversationId).Nodup := by
    rw [ids]
    exact registry.conversations.distinct
  exact distinct.sublist (List.filter_sublist.map _)

theorem Exact.after (action : ConversationAction) :
    (registry.after env action).Exact env := by
  cases action with
  | tryReserveAndCreate nowMs input => exact exact.tryReserveAndCreate nowMs input
  | touch nowMs conversationId => exact exact.touch nowMs conversationId
  | touchInternalDebounced nowMs conversationId =>
    exact exact.touchInternalDebounced nowMs conversationId
  | removeByConversationId conversationId => exact exact.remove conversationId
  | removeByConsumerSocketId consumerSocketId | removeByAgentSocketId agentSocketId
  | removeExpired nowMs idleTimeoutMs => exact exact.removeAll _
  | clear => exact Exact.empty env

end

/-- In every state that calls of the registry reach, the indexes, the counts and the debounce map
follow the conversations and the caps are kept; and every removal from there removes and answers
exactly the conversations of its id, its consumer, its agent socket, or of those not used for the
given time. -/
theorem conversation_registry_exact (env : ConversationEnv) (actions : List ConversationAction) :
    (run (after env) {} actions).Exact env ∧
      (∀ consumerSocketId, (run (after env) {} actions).countByConsumerSocketId consumerSocketId =
        (run (after env) {} actions).conversations.count fun _ conversation =>
          conversation.consumerSocketId = consumerSocketId) ∧
      (∀ conversationId, (run (after env) {} actions).RemovesExactly
        (((run (after env) {} actions).removeByConversationId conversationId).1.toList,
          ((run (after env) {} actions).removeByConversationId conversationId).2)
        fun conversation => conversation.conversationId = conversationId) ∧
      (∀ consumerSocketId, (run (after env) {} actions).RemovesExactly
        ((run (after env) {} actions).removeByConsumerSocketId consumerSocketId)
        fun conversation => conversation.consumerSocketId = consumerSocketId) ∧
      (∀ agentSocketId, (run (after env) {} actions).RemovesExactly
        ((run (after env) {} actions).removeByAgentSocketId agentSocketId)
        fun conversation => conversation.agentSocketId = agentSocketId) ∧
      (∀ nowMs idleTimeoutMs, (run (after env) {} actions).RemovesExactly
        ((run (after env) {} actions).removeExpired nowMs idleTimeoutMs)
        (idle nowMs idleTimeoutMs)) := by
  have keeps : ∀ registry action, Exact env registry → (registry.after env action).Exact env :=
    fun _ action exact => exact.after action
  have exact := run_invariant _ keeps (Exact.empty env) actions
  refine ⟨exact, fun consumerSocketId => ?_, exact.removesById, fun consumerSocketId => ?_,
    fun agentSocketId => ?_, fun nowMs idleTimeoutMs => ?_⟩
  · unfold countByConsumerSocketId
    rw [exact.byConsumer, OrderedMap.length_keysWith]
  · refine exact.removesExactly ?_ fun id => ?_
    · rw [exact.byConsumer]
      exact nodup_keysWith _ _ _
    · rw [exact.byConsumer, mem_keysWith]
      simp only [decide_eq_true_eq]
  · refine exact.removesExactly ?_ fun id => ?_
    · rw [exact.byAgent]
      exact nodup_keysWith _ _ _
    · rw [exact.byAgent, mem_keysWith]
      simp only [decide_eq_true_eq]
  · exact exact.removesExactly (exact.nodup_expired _) (exact.mem_expired _)

end ConversationRegistry

end PlugHub.Registries
