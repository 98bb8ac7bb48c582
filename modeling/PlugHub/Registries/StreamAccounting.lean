import PlugHub.Registries.ActiveStreams
import PlugHub.Library.Accounting

/-!
# Accounting of the active stream registry

The registry is indexed when every index and the open-stream counter agree with the
registered streams, and metered when the gauge of materializations counts the registered
streams whose materialization is not settled. Every operation keeps it indexed; the gauge
is kept by every operation except two: marking a materialization as settled without
counting it down, and offering a materialization to a stream that has none, which counts
it without storing it.
-/

namespace PlugHub.Registries

open Library
open OrderedMap (get_erase get_modify get_set)

/-- The conversation of a stream, as the key of its index. -/
def ActiveStreamRoute.byConversation (route : ActiveStreamRoute) : Option ConversationId :=
  route.conversationId

/-- The consumer of a stream, as the key of its index. -/
def ActiveStreamRoute.byConsumer (route : ActiveStreamRoute) : Option SocketId :=
  some route.consumerSocketId

/-- The agent socket of a stream, as the key of its index. -/
def ActiveStreamRoute.byAgent (route : ActiveStreamRoute) : Option SocketId :=
  some route.agentSocketId

/-- The agent socket of a stream with a stream id, as the key of the open-stream counter. -/
def ActiveStreamRoute.byOpenAgent (route : ActiveStreamRoute) : Option SocketId :=
  route.streamId.map fun _ => route.agentSocketId

open ActiveStreamRoute

namespace ActiveStreamRegistry

/-- The indexes and the open-stream counter agree with the registered streams. -/
structure Indexed (registry : ActiveStreamRegistry) : Prop where
  /-- A route stands under its own id. -/
  keyed : ∀ requestId route, registry.activeStreamsByRequestId.get requestId = some route →
    route.requestId = requestId
  /-- A stream id leads to the route that has it. -/
  streamIds : ∀ streamId requestId,
    registry.activeStreamsByStreamId.get streamId = some requestId ↔
      ∃ route, registry.activeStreamsByRequestId.get requestId = some route ∧
        route.streamId = some streamId
  conversationIndex : registry.activeStreamRequestIdsByConversation.Projects
    registry.activeStreamsByRequestId byConversation
  consumerIndex : registry.streamRequestIdsByConsumer.Projects
    registry.activeStreamsByRequestId byConsumer
  agentIndex : registry.streamRequestIdsByAgent.Projects
    registry.activeStreamsByRequestId byAgent
  /-- An agent socket counts its open streams. -/
  openCounts : registry.openStreamCountByAgentSocketId.Tallies
    registry.activeStreamsByRequestId byOpenAgent fun _ => 0

/-- Registered streams whose materialization is not settled. -/
def materializingCount (registry : ActiveStreamRegistry) : Nat :=
  registry.activeStreamsByRequestId.count fun _ route => route.materializing

/-- The gauge counts the materializations in progress. -/
def Metered (registry : ActiveStreamRegistry) : Prop :=
  registry.restMaterializeStreamsInFlight = registry.materializingCount

theorem Indexed.empty : Indexed {} where
  keyed := by simp
  streamIds := by simp
  conversationIndex := Index.Projects.empty
  consumerIndex := Index.Projects.empty
  agentIndex := Index.Projects.empty
  openCounts := Counter.Tallies.empty

variable {registry : ActiveStreamRegistry}

theorem Indexed.modify (indexed : registry.Indexed) (requestId : RequestId)
    (change : ActiveStreamRoute → ActiveStreamRoute)
    (kept : ∀ route, (change route).requestId = route.requestId ∧
      (change route).streamId = route.streamId ∧
      (change route).conversationId = route.conversationId ∧
      (change route).consumerSocketId = route.consumerSocketId ∧
      (change route).agentSocketId = route.agentSocketId) (gauge : Nat) :
    Indexed { registry with
      activeStreamsByRequestId := registry.activeStreamsByRequestId.modify requestId change
      restMaterializeStreamsInFlight := gauge } where
  keyed := by
    intro other stored found
    simp only [get_modify] at found
    split at found
    · next same =>
      subst same
      obtain ⟨route, foundRoute, rfl⟩ := Option.map_eq_some_iff.mp found
      exact (kept route).1.trans (indexed.keyed _ _ foundRoute)
    · exact indexed.keyed _ _ found
  streamIds := by
    intro streamId other
    rw [indexed.streamIds streamId other]
    simp only [get_modify]
    by_cases same : other = requestId
    · subst same
      cases found : registry.activeStreamsByRequestId.get other with
      | none => simp
      | some route => simp [(kept route).2.1]
    · simp [same]
  conversationIndex := indexed.conversationIndex.modify _ _ fun route _ => (kept route).2.2.1
  consumerIndex := indexed.consumerIndex.modify _ _ fun route _ =>
    congrArg some (kept route).2.2.2.1
  agentIndex := indexed.agentIndex.modify _ _ fun route _ => congrArg some (kept route).2.2.2.2
  openCounts := indexed.openCounts.modify _ _ fun route _ => by
    simp only [byOpenAgent, (kept route).2.1, (kept route).2.2.2.2]

theorem Indexed.settleRestMaterialize (indexed : registry.Indexed) (route : ActiveStreamRoute) :
    (registry.settleRestMaterialize route).Indexed := by
  unfold ActiveStreamRegistry.settleRestMaterialize
  split
  · exact indexed.modify _ markSettled (fun _ => ⟨rfl, rfl, rfl, rfl, rfl⟩) _
  · exact indexed

theorem materializing_markSettled (route : ActiveStreamRoute) :
    route.markSettled.materializing = false := by
  cases state : route.restMaterializeState with
  | none | some value =>
    simp [ActiveStreamRoute.materializing, markSettled, state]

theorem get_settleRestMaterialize (registry : ActiveStreamRegistry) (route : ActiveStreamRoute)
    (requestId : RequestId) :
    (registry.settleRestMaterialize route).activeStreamsByRequestId.get requestId =
      if route.materializing ∧ requestId = route.requestId then
        (registry.activeStreamsByRequestId.get requestId).map markSettled
      else registry.activeStreamsByRequestId.get requestId := by
  unfold ActiveStreamRegistry.settleRestMaterialize
  split
  · next materializing =>
    by_cases same : requestId = route.requestId
    · simp [get_modify, materializing, same]
    · simp [get_modify, same]
  · next idle => simp [idle]

variable {route : ActiveStreamRoute}

theorem Metered.settleRestMaterialize (metered : registry.Metered)
    (found : registry.activeStreamsByRequestId.get route.requestId = some route) :
    (registry.settleRestMaterialize route).Metered := by
  unfold ActiveStreamRegistry.settleRestMaterialize
  split
  · next materializing =>
    unfold Metered materializingCount at *
    simp only [OrderedMap.modify, found]
    have counted := registry.activeStreamsByRequestId.count_set_of_present route.markSettled
      (fun _ route => route.materializing) found
    rw [materializing_markSettled, materializing] at counted
    simp only [Bool.false_eq_true, if_false, if_true, Nat.add_zero] at counted
    omega
  · exact metered

/-- Deleting a registered stream keeps the registry indexed. -/
theorem Indexed.deleteRoute (indexed : registry.Indexed)
    (found : registry.activeStreamsByRequestId.get route.requestId = some route) :
    (registry.deleteRoute route).Indexed where
  keyed := by
    intro requestId stored foundStored
    simp only [ActiveStreamRegistry.deleteRoute, get_erase] at foundStored
    split at foundStored
    · cases foundStored
    · exact indexed.keyed _ _ foundStored
  streamIds := by
    intro streamId requestId
    have agree := indexed.streamIds streamId requestId
    simp only [ActiveStreamRegistry.deleteRoute, get_erase]
    by_cases same : requestId = route.requestId
    · subst same
      simp only [found, Option.some.injEq, exists_eq_left'] at agree
      cases owned : route.streamId with
      | none => simp [agree, owned]
      | some own =>
        by_cases ours : streamId = own
        · simp [ours]
        · have other : registry.activeStreamsByStreamId.get streamId ≠ some route.requestId := by
            rw [ne_eq, agree, owned]
            exact fun equal => ours (Option.some.inj equal).symm
          simp [get_erase, ours, other]
    · simp only [same, if_false]
      cases owned : route.streamId with
      | none => exact agree
      | some own =>
        by_cases ours : streamId = own
        · subst ours
          have mapped := (indexed.streamIds streamId route.requestId).mpr ⟨route, found, owned⟩
          rw [mapped] at agree
          simp only [Option.some.injEq, Ne.symm same, false_iff] at agree
          simpa [get_erase] using agree
        · simpa [get_erase, ours] using agree
  conversationIndex := by
    cases keyed : route.conversationId with
    | none =>
      simp only [ActiveStreamRegistry.deleteRoute, keyed]
      exact indexed.conversationIndex.erase_unkeyed found keyed
    | some conversationId =>
      simp only [ActiveStreamRegistry.deleteRoute, keyed]
      exact indexed.conversationIndex.erase found keyed
  consumerIndex := indexed.consumerIndex.erase found rfl
  agentIndex := indexed.agentIndex.erase found rfl
  openCounts := by
    cases opened : route.streamId with
    | none =>
      simp only [ActiveStreamRegistry.deleteRoute, opened]
      exact indexed.openCounts.erase_unkeyed found (by simp [byOpenAgent, opened])
    | some streamId =>
      simp only [ActiveStreamRegistry.deleteRoute, opened]
      exact indexed.openCounts.erase found (by simp [byOpenAgent, opened])

theorem Metered.deleteRoute (metered : registry.Metered) {route stored : ActiveStreamRoute}
    (found : registry.activeStreamsByRequestId.get route.requestId = some stored)
    (idle : stored.materializing = false) : (registry.deleteRoute route).Metered := by
  have counted := registry.activeStreamsByRequestId.count_erase_of_present
    (fun _ route => route.materializing) found
  rw [idle] at counted
  exact metered.trans counted.symm

theorem Indexed.removeActiveStreamRoute (indexed : registry.Indexed)
    (found : registry.activeStreamsByRequestId.get route.requestId = some route) :
    (registry.removeActiveStreamRoute route).Indexed := by
  have settled := indexed.settleRestMaterialize route
  have lookup := registry.get_settleRestMaterialize route route.requestId
  have same : (registry.settleRestMaterialize route).deleteRoute route =
      (registry.settleRestMaterialize route).deleteRoute route.markSettled := rfl
  unfold ActiveStreamRegistry.removeActiveStreamRoute
  by_cases materializing : route.materializing
  · rw [same]
    refine settled.deleteRoute ?_
    simpa [found, materializing, markSettled] using lookup
  · refine settled.deleteRoute ?_
    simpa [found, materializing] using lookup

theorem Metered.removeActiveStreamRoute (metered : registry.Metered)
    (found : registry.activeStreamsByRequestId.get route.requestId = some route) :
    (registry.removeActiveStreamRoute route).Metered := by
  have lookup := registry.get_settleRestMaterialize route route.requestId
  have settled := metered.settleRestMaterialize found
  unfold ActiveStreamRegistry.removeActiveStreamRoute
  by_cases materializing : route.materializing
  · refine settled.deleteRoute ?_ (materializing_markSettled route)
    simpa [found, materializing] using lookup
  · have idle : route.materializing = false := by simpa using materializing
    refine settled.deleteRoute ?_ idle
    simpa [found, materializing] using lookup

/-- A new stream with a new stream id keeps the registry indexed. -/
theorem Indexed.insertRoute (indexed : registry.Indexed)
    (absent : registry.activeStreamsByRequestId.get route.requestId = none)
    (unused : ∀ streamId, route.streamId = some streamId →
      registry.activeStreamsByStreamId.get streamId = none) :
    (registry.insertRoute route).Indexed where
  keyed := by
    intro requestId stored found
    simp only [ActiveStreamRegistry.insertRoute, get_set] at found
    split at found
    · next same => cases found; exact same.symm
    · exact indexed.keyed _ _ found
  streamIds := by
    intro streamId requestId
    have agree := indexed.streamIds streamId requestId
    simp only [ActiveStreamRegistry.insertRoute, get_set]
    by_cases same : requestId = route.requestId
    · subst same
      simp only [absent, reduceCtorEq, false_and, exists_false, iff_false] at agree
      cases owned : route.streamId with
      | none => simp [agree, owned]
      | some own =>
        by_cases ours : streamId = own
        · simp [ours, owned]
        · simp [get_set, ours, owned, agree, Ne.symm ours]
    · simp only [same, if_false]
      cases owned : route.streamId with
      | none => exact agree
      | some own =>
        by_cases ours : streamId = own
        · subst ours
          rw [unused streamId owned] at agree
          simp only [reduceCtorEq, false_iff] at agree
          simpa [get_set, Ne.symm same] using agree
        · simpa [get_set, ours] using agree
  conversationIndex := by
    cases keyed : route.conversationId with
    | none =>
      simp only [ActiveStreamRegistry.insertRoute, keyed]
      exact indexed.conversationIndex.insert_unkeyed absent keyed
    | some conversationId =>
      simp only [ActiveStreamRegistry.insertRoute, keyed]
      exact indexed.conversationIndex.insert absent keyed
  consumerIndex := indexed.consumerIndex.insert absent rfl
  agentIndex := indexed.agentIndex.insert absent rfl
  openCounts := by
    cases opened : route.streamId with
    | none =>
      simp only [ActiveStreamRegistry.insertRoute, opened]
      exact indexed.openCounts.insert_unkeyed absent
        (by simp [byOpenAgent, opened])
    | some streamId =>
      simp only [ActiveStreamRegistry.insertRoute, opened]
      exact indexed.openCounts.insert absent (by simp [byOpenAgent, opened])

theorem Metered.insertRoute (metered : registry.Metered)
    (absent : registry.activeStreamsByRequestId.get route.requestId = none)
    (fresh : ∀ state, route.restMaterializeState = some state → state.settled = false) :
    (registry.insertRoute route).Metered := by
  have counted := registry.activeStreamsByRequestId.count_set_of_absent route
    (fun _ route => route.materializing) absent
  unfold Metered materializingCount at *
  simp only [ActiveStreamRegistry.insertRoute, counted]
  cases state : route.restMaterializeState with
  | none => simp [ActiveStreamRoute.materializing, state, metered]
  | some value => simp [ActiveStreamRoute.materializing, state, metered, fresh value state]

variable {streamId : StreamId}

/-- Giving a registered stream a stream id that no other stream has keeps the registry
indexed. -/
theorem Indexed.assignStreamId (indexed : registry.Indexed)
    (found : registry.activeStreamsByRequestId.get route.requestId = some route)
    (unused : ∀ requestId, registry.activeStreamsByStreamId.get streamId = some requestId →
      requestId = route.requestId) :
    (registry.assignStreamId route streamId).Indexed where
  keyed := by
    intro other stored foundStored
    simp only [ActiveStreamRegistry.assignStreamId, get_modify] at foundStored
    split at foundStored
    · next same =>
      subst same
      rw [found] at foundStored
      cases foundStored
      rfl
    · exact indexed.keyed _ _ foundStored
  streamIds := by
    intro other requestId
    have agree := indexed.streamIds other requestId
    have owner := indexed.streamIds other route.requestId
    simp only [found, Option.some.injEq, exists_eq_left'] at owner
    simp only [ActiveStreamRegistry.assignStreamId, get_modify, get_set]
    by_cases assigned : other = streamId
    · subst assigned
      by_cases same : requestId = route.requestId
      · subst same
        simp [found]
      · simp only [if_true, same, if_false, Option.some.injEq, Ne.symm same, false_iff]
        rw [← agree]
        exact fun mapped => same (unused requestId mapped)
    · simp only [assigned, if_false]
      by_cases same : requestId = route.requestId
      · subst same
        simp only [found, if_true, Option.map_some, Option.some.injEq, exists_eq_left',
          Ne.symm assigned, iff_false]
        cases owned : route.streamId with
        | none => simp [owner, owned]
        | some old =>
          by_cases kept : old = streamId
          · subst kept
            simp [owner, owned, Ne.symm assigned]
          · by_cases erased : other = old
            · simp [kept, erased]
            · simp [kept, get_erase, erased, owner, owned, Ne.symm erased]
      · simp only [same, if_false]
        cases owned : route.streamId with
        | none => exact agree
        | some old =>
          by_cases kept : old = streamId
          · simpa [kept] using agree
          · by_cases erased : other = old
            · subst erased
              have mapped := owner.mpr owned
              rw [mapped] at agree
              simp only [Option.some.injEq, Ne.symm same, false_iff] at agree
              simpa [kept, get_erase] using agree
            · simpa [kept, get_erase, erased] using agree
  conversationIndex := indexed.conversationIndex.modify _ _ fun _ _ => rfl
  consumerIndex := indexed.consumerIndex.modify _ _ fun _ _ => rfl
  agentIndex := indexed.agentIndex.modify _ _ fun _ _ => rfl
  openCounts := by
    have updated : registry.activeStreamsByRequestId.modify route.requestId
        (fun stored => { stored with streamId := some streamId }) =
        registry.activeStreamsByRequestId.set route.requestId
          { route with streamId := some streamId } := by
      simp [OrderedMap.modify, found]
    cases owned : route.streamId with
    | some old =>
      simp only [ActiveStreamRegistry.assignStreamId, owned]
      refine indexed.openCounts.modify _ _ fun stored foundStored => ?_
      rw [found] at foundStored
      cases foundStored
      simp [byOpenAgent, owned]
    | none =>
      intro place
      simp only [ActiveStreamRegistry.assignStreamId, owned, updated]
      have counted := registry.activeStreamsByRequestId.count_set_of_present
        { route with streamId := some streamId }
        (fun _ stored => decide (stored.byOpenAgent = some place)) found
      have tallied := indexed.openCounts place
      simp only [OrderedMap.withKey, Nat.add_zero] at tallied ⊢
      rw [Counter.read_increment, tallied]
      simp only [byOpenAgent, owned, Option.map_none, Option.map_some,
        reduceCtorEq, decide_false, Bool.false_eq_true, if_false, Nat.add_zero,
        Option.some.injEq, decide_eq_true_eq] at counted ⊢
      by_cases same : place = route.agentSocketId
      · subst same
        simp only [if_true] at counted ⊢
        exact counted.symm
      · simp only [same, Ne.symm same, if_false, Nat.add_zero] at counted ⊢
        exact counted.symm

theorem Metered.assignStreamId (metered : registry.Metered) (route : ActiveStreamRoute)
    (streamId : StreamId) : (registry.assignStreamId route streamId).Metered := by
  unfold Metered materializingCount at *
  simp only [ActiveStreamRegistry.assignStreamId]
  have kept := registry.activeStreamsByRequestId.count_modify_of_kept route.requestId
    (fun stored => { stored with streamId := some streamId })
    (fun _ stored => stored.materializing) fun _ _ => rfl
  rw [metered]
  exact kept.symm

/-! ## The two lookups that register -/

theorem Indexed.getActiveStreamRouteByStreamId_eq (indexed : registry.Indexed) :
    registry.getActiveStreamRouteByStreamId streamId = some route ↔
      registry.activeStreamsByRequestId.get route.requestId = some route ∧
        route.streamId = some streamId := by
  unfold getActiveStreamRouteByStreamId
  constructor
  · intro found
    obtain ⟨requestId, mapped, stored⟩ := Option.bind_eq_some_iff.mp found
    obtain ⟨owner, foundOwner, owned⟩ := (indexed.streamIds streamId requestId).mp mapped
    rw [stored] at foundOwner
    cases foundOwner
    rw [indexed.keyed _ _ stored]
    exact ⟨stored, owned⟩
  · rintro ⟨stored, owned⟩
    rw [(indexed.streamIds streamId route.requestId).mpr ⟨route, stored, owned⟩]
    exact stored

theorem Indexed.streamId_unused (indexed : registry.Indexed)
    (missing : registry.getActiveStreamRouteByStreamId streamId = none) :
    registry.activeStreamsByStreamId.get streamId = none := by
  cases mapped : registry.activeStreamsByStreamId.get streamId with
  | none => rfl
  | some requestId =>
    obtain ⟨owner, found, -⟩ := (indexed.streamIds streamId requestId).mp mapped
    simp [getActiveStreamRouteByStreamId, mapped, found] at missing

variable {offered : ActiveStreamRoute} {next : ActiveStreamRegistry}

/-- What a successful registration does: a new stream is stored, or the registered one of the
same agent socket is given the offered stream id, the gauge counting a materialization the
registered one lacks. -/
theorem upsert_cases (upserted : registry.upsertActiveStreamRoute offered = .ok next) :
    (registry.activeStreamsByRequestId.get offered.requestId = none ∧
        next = registry.insertRoute offered ∧
        ∀ streamId, offered.streamId = some streamId → ∀ owner,
          registry.getActiveStreamRouteByStreamId streamId = some owner →
            owner.requestId = offered.requestId) ∨
      ∃ existing, registry.activeStreamsByRequestId.get offered.requestId = some existing ∧
        existing.agentSocketId = offered.agentSocketId ∧
        (∀ streamId, offered.streamId = some streamId → ∀ owner,
          registry.getActiveStreamRouteByStreamId streamId = some owner →
            owner.requestId = offered.requestId) ∧
        ∃ gauge, (gauge = registry.restMaterializeStreamsInFlight ∨
            offered.restMaterializeState.isSome ∧ existing.restMaterializeState.isNone) ∧
          next = match offered.streamId with
            | some streamId =>
              { registry with restMaterializeStreamsInFlight := gauge }.assignStreamId existing
                streamId
            | none => { registry with restMaterializeStreamsInFlight := gauge } := by
  have free : ∀ (accepted : ((offered.streamId.bind
      registry.getActiveStreamRouteByStreamId).map fun route =>
        decide (route.requestId ≠ offered.requestId)).getD false = false) (streamId : StreamId),
      offered.streamId = some streamId → ∀ owner,
        registry.getActiveStreamRouteByStreamId streamId = some owner →
          owner.requestId = offered.requestId := by
    intro accepted streamId named owner found
    simpa [named, found] using accepted
  unfold upsertActiveStreamRoute at upserted
  simp only at upserted
  split at upserted
  · cases upserted
  next accepted =>
  have free := free (by simpa using accepted)
  cases stored : registry.activeStreamsByRequestId.get offered.requestId with
  | none =>
    rw [stored] at upserted
    cases upserted
    exact Or.inl ⟨rfl, rfl, free⟩
  | some existing =>
    rw [stored] at upserted
    simp only at upserted
    split at upserted
    · cases upserted
    next sameSocket =>
    split at upserted
    · cases upserted
    refine Or.inr ⟨existing, rfl, by simpa using sameSocket, free, ?_⟩
    by_cases leaky : offered.restMaterializeState.isSome ∧ existing.restMaterializeState.isNone
    · refine ⟨registry.restMaterializeStreamsInFlight + 1, Or.inr leaky, ?_⟩
      rw [if_pos leaky] at upserted
      cases named : offered.streamId with
      | none => rw [named] at upserted; cases upserted; rfl
      | some streamId => rw [named] at upserted; cases upserted; rfl
    · refine ⟨registry.restMaterializeStreamsInFlight, Or.inl rfl, ?_⟩
      rw [if_neg leaky] at upserted
      cases named : offered.streamId with
      | none => rw [named] at upserted; cases upserted; rfl
      | some streamId => rw [named] at upserted; cases upserted; rfl

theorem Indexed.withGauge (indexed : registry.Indexed) (gauge : Nat) :
    Indexed { registry with restMaterializeStreamsInFlight := gauge } :=
  ⟨indexed.keyed, indexed.streamIds, indexed.conversationIndex, indexed.consumerIndex,
    indexed.agentIndex, indexed.openCounts⟩

theorem Indexed.upsertActiveStreamRoute (indexed : registry.Indexed)
    (upserted : registry.upsertActiveStreamRoute offered = .ok next) : next.Indexed := by
  rcases upsert_cases upserted with ⟨absent, rfl, free⟩ | ⟨existing, stored, -, free, gauge, -, rfl⟩
  · refine indexed.insertRoute absent fun streamId named => ?_
    refine indexed.streamId_unused ?_
    cases found : registry.getActiveStreamRouteByStreamId streamId with
    | none => rfl
    | some owner =>
      have owned := (indexed.getActiveStreamRouteByStreamId_eq.mp found).1
      rw [free streamId named owner found, absent] at owned
      cases owned
  · have keyed := indexed.keyed _ _ stored
    cases named : offered.streamId with
    | none => exact indexed.withGauge gauge
    | some streamId =>
      refine (indexed.withGauge gauge).assignStreamId ?_ fun requestId mapped => ?_
      · rw [keyed]
        exact stored
      · obtain ⟨owner, found, owned⟩ := (indexed.streamIds streamId requestId).mp mapped
        have same := indexed.keyed _ _ found
        subst same
        rw [keyed]
        exact free streamId named owner
          (indexed.getActiveStreamRouteByStreamId_eq.mpr ⟨found, owned⟩)

/-- A registration keeps the gauge when it does not offer a materialization to a registered
stream that has none, and what it offers is in progress. -/
theorem Metered.upsertActiveStreamRoute (metered : registry.Metered)
    (upserted : registry.upsertActiveStreamRoute offered = .ok next)
    (fresh : ∀ state, offered.restMaterializeState = some state → state.settled = false)
    (kept : ∀ existing, registry.activeStreamsByRequestId.get offered.requestId = some existing →
      offered.restMaterializeState.isSome → existing.restMaterializeState.isSome) :
    next.Metered := by
  rcases upsert_cases upserted with
    ⟨absent, rfl, -⟩ | ⟨existing, stored, -, -, gauge, counted, rfl⟩
  · exact metered.insertRoute absent fresh
  · have unchanged : gauge = registry.restMaterializeStreamsInFlight := by
      rcases counted with same | ⟨offers, lacks⟩
      · exact same
      · have has := kept existing stored offers
        rw [Option.isNone_iff_eq_none] at lacks
        simp [lacks] at has
    subst unchanged
    cases named : offered.streamId with
    | none => exact metered
    | some streamId => exact Metered.assignStreamId metered existing streamId

variable {socketId : SocketId} {requestId : Option RequestId}

/-- What resolving a stream frame does: it finds a registered stream of the agent socket, and
may give it a stream id that no stream has. -/
def Resolves (registry : ActiveStreamRegistry) (socketId : SocketId) (streamId : Option StreamId)
    (route : ActiveStreamRoute) (next : ActiveStreamRegistry) : Prop :=
  ∃ stored, registry.activeStreamsByRequestId.get stored.requestId = some stored ∧
    stored.agentSocketId = socketId ∧
    ((route = stored ∧ next = registry) ∨
      ∃ learned, streamId = some learned ∧ stored.streamId = none ∧
        registry.activeStreamsByStreamId.get learned = none ∧
        route = { stored with streamId := some learned } ∧
        next = registry.assignStreamId stored learned)

theorem Indexed.resolve_cases (indexed : registry.Indexed) {streamId : Option StreamId}
    (resolved : registry.resolveActiveStreamRoute socketId streamId requestId =
      some (route, next)) : registry.Resolves socketId streamId route next := by
  -- the learned id is free: a stream found by it already carries it
  have learns : ∀ stored : ActiveStreamRoute,
      registry.activeStreamsByRequestId.get stored.requestId = some stored →
      (∀ learned, streamId = some learned → stored.streamId = none →
        registry.getActiveStreamRouteByStreamId learned = none) →
      resolveActiveStreamRoute.learn registry socketId streamId stored = some (route, next) →
      registry.Resolves socketId streamId route next := by
    intro stored found free learnt
    unfold resolveActiveStreamRoute.learn at learnt
    split at learnt
    · cases learnt
    next owned =>
    refine ⟨stored, found, by simpa using owned, ?_⟩
    split at learnt
    · next learned named =>
      cases learnt
      exact Or.inr ⟨learned, rfl, named, indexed.streamId_unused (free learned rfl named), rfl,
        rfl⟩
    · cases learnt
      exact Or.inl ⟨rfl, rfl⟩
  have byStream : ∀ owner, streamId.bind registry.getActiveStreamRouteByStreamId = some owner →
      registry.activeStreamsByRequestId.get owner.requestId = some owner ∧
        owner.streamId = streamId := by
    intro owner found
    obtain ⟨named, same, foundOwner⟩ := Option.bind_eq_some_iff.mp found
    have owned := indexed.getActiveStreamRouteByStreamId_eq.mp foundOwner
    exact ⟨owned.1, owned.2.trans same.symm⟩
  have named : ∀ owner, streamId.bind registry.getActiveStreamRouteByStreamId = some owner →
      ∀ learned, streamId = some learned → owner.streamId = none →
        registry.getActiveStreamRouteByStreamId learned = none := by
    intro owner found learned same lacks
    rw [(byStream owner found).2, same] at lacks
    cases lacks
  unfold resolveActiveStreamRoute at resolved
  simp only at resolved
  split at resolved
  · next left right foundLeft foundRight =>
    split at resolved
    · cases resolved
    · exact learns left (byStream left foundLeft).1 (named left foundLeft) resolved
  · next left foundLeft _ =>
    exact learns left (byStream left foundLeft).1 (named left foundLeft) resolved
  · next right missing foundRight =>
    obtain ⟨id, -, foundStored⟩ := Option.bind_eq_some_iff.mp foundRight
    refine learns right ?_ (fun learned same _ => ?_) resolved
    · rw [indexed.keyed _ _ foundStored]
      exact foundStored
    · simpa [same] using missing
  · cases resolved

theorem Indexed.resolveActiveStreamRoute (indexed : registry.Indexed) {streamId : Option StreamId}
    (resolved : registry.resolveActiveStreamRoute socketId streamId requestId =
      some (route, next)) : next.Indexed := by
  obtain ⟨stored, found, -, ⟨-, rfl⟩ | ⟨learned, -, -, unused, -, rfl⟩⟩ :=
    indexed.resolve_cases resolved
  · exact indexed
  · exact indexed.assignStreamId found fun requestId mapped => by rw [unused] at mapped; cases mapped

theorem Metered.resolveActiveStreamRoute (metered : registry.Metered) (indexed : registry.Indexed)
    {streamId : Option StreamId}
    (resolved : registry.resolveActiveStreamRoute socketId streamId requestId =
      some (route, next)) : next.Metered := by
  obtain ⟨stored, -, -, ⟨-, rfl⟩ | ⟨learned, -, -, -, -, rfl⟩⟩ := indexed.resolve_cases resolved
  · exact metered
  · exact metered.assignStreamId stored learned

/-! ## Changes of the registry -/

/-- One change of the registry, as the bridge makes it. The changes that do not keep the gauge
are possible only where a leak is allowed. -/
inductive Change (leak : Prop) : ActiveStreamRegistry → ActiveStreamRegistry → Prop
  | remove {registry : ActiveStreamRegistry} {requestId : RequestId} {route : ActiveStreamRoute}
      (found : registry.activeStreamsByRequestId.get requestId = some route) :
      Change leak registry (registry.removeActiveStreamRoute route)
  | settle {registry : ActiveStreamRegistry} {requestId : RequestId} {route : ActiveStreamRoute}
      (found : registry.activeStreamsByRequestId.get requestId = some route) :
      Change leak registry (registry.settleRestMaterialize route)
  | upsert {registry next : ActiveStreamRegistry} {offered : ActiveStreamRoute}
      (upserted : registry.upsertActiveStreamRoute offered = .ok next)
      (fresh : ∀ state, offered.restMaterializeState = some state → state.settled = false)
      (kept : leak ∨ ∀ existing,
        registry.activeStreamsByRequestId.get offered.requestId = some existing →
          offered.restMaterializeState.isSome → existing.restMaterializeState.isSome) :
      Change leak registry next
  | resolve {registry next : ActiveStreamRegistry} {socketId : SocketId}
      {streamId : Option StreamId} {requestId : Option RequestId} {route : ActiveStreamRoute}
      (resolved : registry.resolveActiveStreamRoute socketId streamId requestId =
        some (route, next)) :
      Change leak registry next
  | mark {registry : ActiveStreamRegistry} (leaks : leak) (requestId : RequestId) :
      Change leak registry { registry with
        activeStreamsByRequestId :=
          registry.activeStreamsByRequestId.modify requestId markSettled }

theorem Indexed.changes {leak : Prop} {before after : ActiveStreamRegistry}
    (indexed : before.Indexed) (changes : Relation.ReflTransGen (Change leak) before after) :
    after.Indexed := by
  induction changes with
  | refl => exact indexed
  | tail _ change ih =>
    cases change with
    | remove found =>
      have keyed := ih.keyed _ _ found
      rw [← keyed] at found
      exact ih.removeActiveStreamRoute found
    | settle _ => exact ih.settleRestMaterialize _
    | upsert upserted _ _ => exact ih.upsertActiveStreamRoute upserted
    | resolve resolved => exact ih.resolveActiveStreamRoute resolved
    | mark _ requestId =>
      exact ih.modify requestId markSettled
        (fun _ => ⟨rfl, rfl, rfl, rfl, rfl⟩) _

theorem Metered.changes {leak : Prop} {before after : ActiveStreamRegistry} (tight : ¬ leak)
    (indexed : before.Indexed) (metered : before.Metered)
    (changes : Relation.ReflTransGen (Change leak) before after) : after.Metered := by
  induction changes with
  | refl => exact metered
  | tail earlier change ih =>
    have indexed := indexed.changes earlier
    cases change with
    | remove found =>
      have keyed := indexed.keyed _ _ found
      rw [← keyed] at found
      exact ih.removeActiveStreamRoute found
    | settle found =>
      have keyed := indexed.keyed _ _ found
      rw [← keyed] at found
      exact ih.settleRestMaterialize found
    | upsert upserted fresh kept =>
      exact ih.upsertActiveStreamRoute upserted fresh (kept.resolve_left tight)
    | resolve resolved => exact ih.resolveActiveStreamRoute indexed resolved
    | mark leaks _ => exact absurd leaks tight

end ActiveStreamRegistry

end PlugHub.Registries
