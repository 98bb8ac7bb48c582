import PlugHub.Registries.RelayRequests
import PlugHub.Library.Accounting

/-!
# Accounting of the relay request registry

The registry is exact for a list of outstanding reservations when its counters count the
registered routes and the reservations, its indexes are the projections of the route map,
and every route is stored under its own id. Each registry operation keeps it exact and says
what it does to the reservations.
-/

namespace PlugHub.Registries

open Library

/-- A reservation: the conversation and the consumer it was taken for. -/
abbrev Reservation := ConversationId × SocketId

/-- The conversation of a route, as the key of its index and counter. -/
def RelayRequestRoute.byConversation (route : RelayRequestRoute) : Option ConversationId :=
  some route.conversationId

/-- The consumer of a route, as the key of its index and counter. -/
def RelayRequestRoute.byConsumer (route : RelayRequestRoute) : Option SocketId :=
  some route.consumerSocketId

/-- The agent socket of a route, as the key of its index. -/
def RelayRequestRoute.byAgent (route : RelayRequestRoute) : Option SocketId :=
  some route.agentSocketId

/-- What never changes while a route is registered. -/
def RelayRequestRoute.SameIdentity (left right : RelayRequestRoute) : Prop :=
  left.requestId = right.requestId ∧ left.conversationId = right.conversationId ∧
    left.consumerSocketId = right.consumerSocketId ∧ left.agentSocketId = right.agentSocketId

namespace RelayRequestRegistry

/-- Reservations for a conversation. -/
def forConversation (outstanding : List Reservation) (conversationId : ConversationId) : Nat :=
  outstanding.countP (·.1 = conversationId)

/-- Reservations for a consumer. -/
def forConsumer (outstanding : List Reservation) (consumerSocketId : SocketId) : Nat :=
  outstanding.countP (·.2 = consumerSocketId)

/-- The registry accounts for its routes and for a list of outstanding reservations. -/
structure Exact (registry : RelayRequestRegistry) (outstanding : List Reservation) : Prop where
  /-- A route stands under its own id. -/
  keyed : ∀ requestId route, registry.relayRequestsByRequestId.get requestId = some route →
    route.requestId = requestId
  /-- The hub counts the outstanding reservations. -/
  reserved : registry.relayReservedGlobalCount = outstanding.length
  /-- A conversation counts its routes and its reservations. -/
  conversationCounts : registry.relayPendingCountByConversation.Tallies
    registry.relayRequestsByRequestId RelayRequestRoute.byConversation
    (forConversation outstanding)
  consumerCounts : registry.relayPendingCountByConsumer.Tallies
    registry.relayRequestsByRequestId RelayRequestRoute.byConsumer (forConsumer outstanding)
  /-- The index of a conversation lists its routes. -/
  conversationIndex : registry.relayRequestIdsByConversation.Projects
    registry.relayRequestsByRequestId RelayRequestRoute.byConversation
  consumerIndex : registry.relayRequestIdsByConsumer.Projects
    registry.relayRequestsByRequestId RelayRequestRoute.byConsumer
  agentIndex : registry.relayRequestIdsByAgent.Projects
    registry.relayRequestsByRequestId RelayRequestRoute.byAgent

theorem Exact.empty : Exact {} [] where
  keyed := by simp
  reserved := rfl
  conversationCounts := Counter.Tallies.empty
  consumerCounts := Counter.Tallies.empty
  conversationIndex := Index.Projects.empty
  consumerIndex := Index.Projects.empty
  agentIndex := Index.Projects.empty

variable {registry : RelayRequestRegistry} {outstanding : List Reservation}

theorem Exact.perm (exact : registry.Exact outstanding) {other : List Reservation}
    (same : outstanding.Perm other) : registry.Exact other :=
  { exact with
    reserved := exact.reserved.trans same.length_eq
    conversationCounts := fun place => by
      rw [exact.conversationCounts place]
      simp only [forConversation, same.countP_eq]
    consumerCounts := fun place => by
      rw [exact.consumerCounts place]
      simp only [forConsumer, same.countP_eq] }

theorem forConversation_cons (reservation : Reservation) (conversationId : ConversationId) :
    forConversation (reservation :: outstanding) conversationId =
      forConversation outstanding conversationId +
        if conversationId = reservation.1 then 1 else 0 := by
  by_cases same : conversationId = reservation.1
  · simp [forConversation, same]
  · simp [forConversation, same, Ne.symm same]

theorem forConsumer_cons (reservation : Reservation) (consumerSocketId : SocketId) :
    forConsumer (reservation :: outstanding) consumerSocketId =
      forConsumer outstanding consumerSocketId +
        if consumerSocketId = reservation.2 then 1 else 0 := by
  by_cases same : consumerSocketId = reservation.2
  · simp [forConsumer, same]
  · simp [forConsumer, same, Ne.symm same]

theorem Exact.reserve (exact : registry.Exact outstanding) {env : Env}
    {conversationId : ConversationId} {consumerSocketId : SocketId} {next : RelayRequestRegistry}
    (granted : registry.reserveRelayPendingSlot env conversationId consumerSocketId = some next) :
    next.Exact ((conversationId, consumerSocketId) :: outstanding) := by
  unfold reserveRelayPendingSlot at granted
  split at granted
  · cases granted
  split at granted
  · cases granted
  split at granted
  · cases granted
  cases granted
  exact
    { exact with
      reserved := by simp [exact.reserved]
      conversationCounts := exact.conversationCounts.reserve _ _ (forConversation_cons _)
      consumerCounts := exact.consumerCounts.reserve _ _ (forConsumer_cons _) }

theorem Exact.releaseReservation {conversationId : ConversationId} {consumerSocketId : SocketId}
    (exact : registry.Exact ((conversationId, consumerSocketId) :: outstanding)) :
    (registry.releaseReservation conversationId consumerSocketId).Exact outstanding :=
  { exact with
    reserved := by
      have reserved := exact.reserved
      simp only [List.length_cons] at reserved
      simp only [RelayRequestRegistry.releaseReservation, reserved, Nat.add_sub_cancel]
    conversationCounts := exact.conversationCounts.release _ _ (forConversation_cons _)
    consumerCounts := exact.consumerCounts.release _ _ (forConsumer_cons _) }

theorem Exact.insertRoute {route : RelayRequestRoute}
    (exact : registry.Exact ((route.conversationId, route.consumerSocketId) :: outstanding))
    (absent : registry.relayRequestsByRequestId.get route.requestId = none) :
    (registry.insertRoute route true).Exact outstanding where
  keyed := by
    intro requestId stored found
    simp only [RelayRequestRegistry.insertRoute, OrderedMap.get_set] at found
    split at found
    · next same => cases found; exact same.symm
    · exact exact.keyed _ _ found
  reserved := by
    have reserved := exact.reserved
    simp only [List.length_cons] at reserved
    simp only [RelayRequestRegistry.insertRoute, if_true, reserved, Nat.add_sub_cancel]
  conversationCounts :=
    exact.conversationCounts.insert_counted absent rfl _ (forConversation_cons _)
  consumerCounts := exact.consumerCounts.insert_counted absent rfl _ (forConsumer_cons _)
  conversationIndex := exact.conversationIndex.insert absent rfl
  consumerIndex := exact.consumerIndex.insert absent rfl
  agentIndex := exact.agentIndex.insert absent rfl

theorem Exact.deleteRoute (exact : registry.Exact outstanding) {requestId : RequestId}
    {route : RelayRequestRoute}
    (found : registry.relayRequestsByRequestId.get requestId = some route) :
    (registry.deleteRoute requestId route).Exact outstanding where
  keyed := by
    intro other stored foundStored
    simp only [RelayRequestRegistry.deleteRoute, OrderedMap.get_erase] at foundStored
    split at foundStored
    · cases foundStored
    · exact exact.keyed _ _ foundStored
  reserved := exact.reserved
  conversationCounts := exact.conversationCounts.erase found rfl
  consumerCounts := exact.consumerCounts.erase found rfl
  conversationIndex := exact.conversationIndex.erase found rfl
  consumerIndex := exact.consumerIndex.erase found rfl
  agentIndex := exact.agentIndex.erase found rfl

theorem Exact.updateRoute (exact : registry.Exact outstanding) (requestId : RequestId)
    (change : RelayRequestRoute → RelayRequestRoute)
    (kept : ∀ route, (change route).SameIdentity route) :
    (registry.updateRoute requestId change).Exact outstanding where
  keyed := by
    intro other stored found
    simp only [RelayRequestRegistry.updateRoute, OrderedMap.get_modify] at found
    split at found
    · next same =>
      subst same
      obtain ⟨route, foundRoute, rfl⟩ := Option.map_eq_some_iff.mp found
      exact (kept route).1.trans (exact.keyed _ _ foundRoute)
    · exact exact.keyed _ _ found
  reserved := exact.reserved
  conversationCounts := exact.conversationCounts.modify _ _ fun route _ =>
    congrArg some (kept route).2.1
  consumerCounts := exact.consumerCounts.modify _ _ fun route _ =>
    congrArg some (kept route).2.2.1
  conversationIndex := exact.conversationIndex.modify _ _ fun route _ =>
    congrArg some (kept route).2.1
  consumerIndex := exact.consumerIndex.modify _ _ fun route _ =>
    congrArg some (kept route).2.2.1
  agentIndex := exact.agentIndex.modify _ _ fun route _ => congrArg some (kept route).2.2.2

/-! ## Caps -/

/-- No count exceeds its cap. -/
structure WithinCaps (env : Env) (registry : RelayRequestRegistry) : Prop where
  global : registry.getRelayEffectivePendingCount ≤ env.socketRelayMaxPendingRequests
  conversation : ∀ conversationId,
    registry.getRelayPendingRequestCountForConversation conversationId ≤
      env.socketRelayMaxPendingRequestsPerConversation
  consumer : ∀ consumerSocketId,
    registry.getRelayPendingRequestCountForConsumer consumerSocketId ≤
      env.socketRelayMaxPendingRequestsPerConsumer

theorem WithinCaps.empty (env : Env) : WithinCaps env {} where
  global := Nat.zero_le _
  conversation := fun _ => Nat.zero_le _
  consumer := fun _ => Nat.zero_le _

variable {env : Env}

section

variable (within : registry.WithinCaps env)

include within

theorem WithinCaps.reserve {conversationId : ConversationId}
    {consumerSocketId : SocketId} {next : RelayRequestRegistry}
    (granted : registry.reserveRelayPendingSlot env conversationId consumerSocketId = some next) :
    next.WithinCaps env := by
  unfold reserveRelayPendingSlot at granted
  split at granted
  · cases granted
  next globalRoom =>
  split at granted
  · cases granted
  next conversationRoom =>
  split at granted
  · cases granted
  next consumerRoom =>
  cases granted
  refine ⟨?_, fun other => ?_, fun other => ?_⟩
  · simp only [getRelayEffectivePendingCount] at globalRoom ⊢
    omega
  · have room := within.conversation other
    simp only [getRelayPendingRequestCountForConversation, Counter.read_increment] at *
    by_cases same : other = conversationId
    · subst same; simp only [if_true]; omega
    · simp only [same, if_false]; omega
  · have room := within.consumer other
    simp only [getRelayPendingRequestCountForConsumer, Counter.read_increment] at *
    by_cases same : other = consumerSocketId
    · subst same; simp only [if_true]; omega
    · simp only [same, if_false]; omega

theorem WithinCaps.releaseReservation
    (conversationId : ConversationId) (consumerSocketId : SocketId) :
    (registry.releaseReservation conversationId consumerSocketId).WithinCaps env := by
  refine ⟨?_, fun other => ?_, fun other => ?_⟩
  · exact Nat.le_trans (Nat.add_le_add_left (Nat.sub_le _ _) _) within.global
  · exact Nat.le_trans (Counter.read_decrement_le _ _ _) (within.conversation other)
  · exact Nat.le_trans (Counter.read_decrement_le _ _ _) (within.consumer other)

theorem WithinCaps.insertRoute {route : RelayRequestRoute}
    (absent : registry.relayRequestsByRequestId.get route.requestId = none)
    (reserved : 0 < registry.relayReservedGlobalCount) :
    (registry.insertRoute route true).WithinCaps env := by
  refine ⟨?_, within.conversation, within.consumer⟩
  have global := within.global
  have grown := registry.relayRequestsByRequestId.size_set_of_absent route absent
  simp only [getRelayEffectivePendingCount] at global
  simp only [getRelayEffectivePendingCount, RelayRequestRegistry.insertRoute, if_true, grown]
  omega

theorem WithinCaps.deleteRoute (requestId : RequestId)
    (route : RelayRequestRoute) : (registry.deleteRoute requestId route).WithinCaps env := by
  refine ⟨?_, fun other => ?_, fun other => ?_⟩
  · have shrunk : (registry.relayRequestsByRequestId.erase requestId).size ≤
        registry.relayRequestsByRequestId.size := List.length_filter_le _ _
    have global := within.global
    simp only [getRelayEffectivePendingCount] at global
    simp only [getRelayEffectivePendingCount, RelayRequestRegistry.deleteRoute]
    omega
  · exact Nat.le_trans (Counter.read_decrement_le _ _ _) (within.conversation other)
  · exact Nat.le_trans (Counter.read_decrement_le _ _ _) (within.consumer other)

theorem WithinCaps.updateRoute (requestId : RequestId)
    (change : RelayRequestRoute → RelayRequestRoute) :
    (registry.updateRoute requestId change).WithinCaps env := by
  refine ⟨?_, within.conversation, within.consumer⟩
  have kept := registry.relayRequestsByRequestId.size_modify requestId change
  have global := within.global
  simp only [getRelayEffectivePendingCount] at global
  simp only [getRelayEffectivePendingCount, RelayRequestRegistry.updateRoute, kept]
  exact global

end

/-! ## Changes of the registry -/

/-- One change of the registry and of its outstanding reservations, as the bridge makes it. -/
inductive Change (env : Env) :
    RelayRequestRegistry × List Reservation → RelayRequestRegistry × List Reservation → Prop
  | reorder {registry : RelayRequestRegistry} {before after : List Reservation}
      (same : before.Perm after) : Change env (registry, before) (registry, after)
  | reserve {registry next : RelayRequestRegistry} {outstanding : List Reservation}
      {conversationId : ConversationId} {consumerSocketId : SocketId}
      (granted : registry.reserveRelayPendingSlot env conversationId consumerSocketId =
        some next) :
      Change env (registry, outstanding)
        (next, (conversationId, consumerSocketId) :: outstanding)
  | release {registry : RelayRequestRegistry} {outstanding : List Reservation}
      {conversationId : ConversationId} {consumerSocketId : SocketId} :
      Change env (registry, (conversationId, consumerSocketId) :: outstanding)
        (registry.releaseReservation conversationId consumerSocketId, outstanding)
  | insertRoute {registry : RelayRequestRegistry} {outstanding : List Reservation}
      {route : RelayRequestRoute}
      (absent : registry.relayRequestsByRequestId.get route.requestId = none) :
      Change env (registry, (route.conversationId, route.consumerSocketId) :: outstanding)
        (registry.insertRoute route true, outstanding)
  | deleteRoute {registry : RelayRequestRegistry} {outstanding : List Reservation}
      {requestId : RequestId} {route : RelayRequestRoute}
      (found : registry.relayRequestsByRequestId.get requestId = some route) :
      Change env (registry, outstanding) (registry.deleteRoute requestId route, outstanding)
  | updateRoute {registry : RelayRequestRegistry} {outstanding : List Reservation}
      (requestId : RequestId) {change : RelayRequestRoute → RelayRequestRoute}
      (kept : ∀ route, (change route).SameIdentity route) :
      Change env (registry, outstanding) (registry.updateRoute requestId change, outstanding)

/-- The registry accounts for its routes and reservations within the caps. -/
def Accounted (env : Env) (state : RelayRequestRegistry × List Reservation) : Prop :=
  state.1.Exact state.2 ∧ state.1.WithinCaps env

theorem Accounted.change {before after : RelayRequestRegistry × List Reservation}
    (accounted : Accounted env before) (change : Change env before after) :
    Accounted env after := by
  obtain ⟨exact, within⟩ := accounted
  cases change with
  | reorder same => exact ⟨exact.perm same, within⟩
  | reserve granted => exact ⟨exact.reserve granted, within.reserve granted⟩
  | release => exact ⟨exact.releaseReservation, within.releaseReservation _ _⟩
  | insertRoute absent =>
    refine ⟨exact.insertRoute absent, within.insertRoute absent ?_⟩
    rw [exact.reserved]
    exact Nat.succ_pos _
  | deleteRoute found => exact ⟨exact.deleteRoute found, within.deleteRoute _ _⟩
  | updateRoute requestId kept =>
    exact ⟨exact.updateRoute requestId _ kept, within.updateRoute requestId _⟩

theorem Accounted.changes {before after : RelayRequestRegistry × List Reservation}
    (accounted : Accounted env before)
    (changes : Relation.ReflTransGen (Change env) before after) : Accounted env after := by
  induction changes with
  | refl => exact accounted
  | tail _ change ih => exact ih.change change

end RelayRequestRegistry

end PlugHub.Registries
