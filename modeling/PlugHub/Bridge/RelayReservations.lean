import PlugHub.Bridge.StepMoves

/-!
# Reservations of relay dispatches

Any number of dispatches work on the relay request registry at once. Each takes one reservation
and is suspended anywhere between taking it, registering its route and leaving; the routes are
removed by whoever ends a request, as often as they like. When a dispatch leaves, its reservation
is given back unless the registration took it over.
-/

namespace PlugHub.RelayReservations

open Library Registries

/-- A granted reservation and what its dispatch knows of it. -/
structure PendingReservation where
  conversationId : ConversationId
  consumerSocketId : SocketId
  /-- The flag in the release function. -/
  released : Bool := false
  /-- The flag of the dispatch. -/
  pendingReservationConsumed : Bool := false
  /-- The dispatch returned or threw. -/
  ended : Bool := false
  /-- How often the counters were given back. -/
  releases : Nat := 0
  /-- How often a registration took it over. -/
  registrations : Nat := 0

/-- A change of the flags of a route. -/
abbrev FlagChange :=
  { change : RelayRequestRoute → RelayRequestRoute // ∀ route, (change route).SameIdentity route }

/-- The registry, and every reservation that was granted. -/
structure State where
  registry : RelayRequestRegistry := {}
  reservations : List PendingReservation := []

/-- A dispatch asks for a reservation, registers its route or leaves; a route is removed; the flags
of a route change. Dispatches are named by their reservations, in the order of the grants. -/
inductive Action where
  | reserve (conversationId : ConversationId) (consumerSocketId : SocketId)
  | register (holder : Nat) (route : RelayRequestRoute)
  | leave (holder : Nat)
  | remove (requestId : RequestId)
  | update (requestId : RequestId) (change : FlagChange)

/-- Remove a route, if it is registered. -/
def removeRelayRequestRoute (registry : RelayRequestRegistry) (requestId : RequestId) :
    RelayRequestRegistry :=
  match registry.getRelayRequestRoute requestId with
  | none => registry
  | some route => registry.deleteRoute requestId route

/-- Register a route whose counters are reserved. A route under the same id is removed first. -/
def registerRelayRequestRoute (registry : RelayRequestRegistry) (route : RelayRequestRoute) :
    RelayRequestRegistry :=
  (if registry.hasRelayRequestRoute route.requestId then
    removeRelayRequestRoute registry route.requestId
  else registry).insertRoute route true

/-- The release function of a reservation: its body runs once. -/
def release (registry : RelayRequestRegistry) (reservation : PendingReservation) :
    RelayRequestRegistry × PendingReservation :=
  if reservation.released then (registry, reservation)
  else
    (registry.releaseReservation reservation.conversationId reservation.consumerSocketId,
      { reservation with released := true, releases := reservation.releases + 1 })

/-- What a dispatch does whichever way it leaves. -/
def finallyRelease (registry : RelayRequestRegistry) (reservation : PendingReservation) :
    RelayRequestRegistry × PendingReservation :=
  if reservation.pendingReservationConsumed then (registry, reservation)
  else release registry reservation

/-- One step. A dispatch that left does nothing more, and registers its route at most once. -/
def step (env : Env) (state : State) : Action → State
  | .reserve conversationId consumerSocketId =>
    match state.registry.reserveRelayPendingSlot env conversationId consumerSocketId with
    | none => state
    | some registry =>
      { registry := registry
        reservations := state.reservations ++
          [{ conversationId := conversationId, consumerSocketId := consumerSocketId }] }
  | .register holder route =>
    match state.reservations[holder]? with
    | none => state
    | some reservation =>
      if reservation.ended || reservation.pendingReservationConsumed then state
      else
        { registry := registerRelayRequestRoute state.registry { route with
            conversationId := reservation.conversationId
            consumerSocketId := reservation.consumerSocketId }
          reservations := state.reservations.set holder { reservation with
            pendingReservationConsumed := true
            registrations := reservation.registrations + 1 } }
  | .leave holder =>
    match state.reservations[holder]? with
    | none => state
    | some reservation =>
      if reservation.ended then state
      else
        let (registry, left) := finallyRelease state.registry reservation
        { registry := registry
          reservations := state.reservations.set holder { left with ended := true } }
  | .remove requestId =>
    { state with registry := removeRelayRequestRoute state.registry requestId }
  | .update requestId change =>
    { state with registry := state.registry.updateRoute requestId change.val }

/-- What a reservation holds in the counters, until it is released or consumed. -/
def PendingReservation.outstanding (reservation : PendingReservation) : Option Reservation :=
  if reservation.released || reservation.pendingReservationConsumed then none
  else some (reservation.conversationId, reservation.consumerSocketId)

/-- The outstanding reservations. -/
def State.outstanding (state : State) : List Reservation :=
  state.reservations.filterMap (·.outstanding)

/-- A reservation is released or consumed, once, and not both; it is when its dispatch has left. -/
structure SettledOnce (reservation : PendingReservation) : Prop where
  once : reservation.releases + reservation.registrations =
    if reservation.outstanding.isSome then 0 else 1
  ended : reservation.ended = true → reservation.releases + reservation.registrations = 1

/-- Counts, indexes and caps of the registry hold, and reservations are settled once. -/
structure Lawful (env : Env) (state : State) : Prop where
  /-- A conversation counts its routes and its outstanding reservations. -/
  conversationCount : ∀ conversationId,
    state.registry.getRelayPendingRequestCountForConversation conversationId =
      state.registry.relayRequestsByRequestId.count
          (fun _ route => route.conversationId = conversationId) +
        state.outstanding.countP (·.1 = conversationId)
  /-- So does a consumer. -/
  consumerCount : ∀ consumerSocketId,
    state.registry.getRelayPendingRequestCountForConsumer consumerSocketId =
      state.registry.relayRequestsByRequestId.count
          (fun _ route => route.consumerSocketId = consumerSocketId) +
        state.outstanding.countP (·.2 = consumerSocketId)
  /-- And so does the hub. -/
  globalCount : state.registry.getRelayEffectivePendingCount =
    state.registry.relayRequestsByRequestId.size + state.outstanding.length
  /-- The index of a conversation lists exactly its routes. -/
  conversationIndex : ∀ conversationId requestId,
    requestId ∈ state.registry.listRelayRequestIdsForConversation conversationId ↔
      ∃ route, state.registry.getRelayRequestRoute requestId = some route ∧
        route.conversationId = conversationId
  consumerIndex : ∀ consumerSocketId requestId,
    requestId ∈ state.registry.listRelayRequestIdsForConsumer consumerSocketId ↔
      ∃ route, state.registry.getRelayRequestRoute requestId = some route ∧
        route.consumerSocketId = consumerSocketId
  agentIndex : ∀ agentSocketId requestId,
    requestId ∈ state.registry.listRelayRequestIdsForAgent agentSocketId ↔
      ∃ route, state.registry.getRelayRequestRoute requestId = some route ∧
        route.agentSocketId = agentSocketId
  caps : state.registry.WithinCaps env
  /-- A reservation becomes a route or is given back, and once. -/
  settledOnce : ∀ reservation ∈ state.reservations, SettledOnce reservation

/-! ## The invariant -/

/-- The registry accounts for its routes and the outstanding reservations, and only a dispatch that
left has released its own. -/
structure Sound (env : Env) (state : State) : Prop where
  accounted : RelayRequestRegistry.Accounted env (state.registry, state.outstanding)
  settledOnce : ∀ reservation ∈ state.reservations, SettledOnce reservation
  releasedLast : ∀ reservation ∈ state.reservations,
    reservation.released = true → reservation.ended = true

variable {env : Env} {state : State}

theorem outstanding_set {reservations : List PendingReservation} {holder : Nat}
    {taken : PendingReservation} (found : reservations[holder]? = some taken)
    (next : PendingReservation) :
    (next.outstanding.toList ++ reservations.filterMap (·.outstanding)).Perm
      (taken.outstanding.toList ++ (reservations.set holder next).filterMap (·.outstanding)) := by
  induction reservations generalizing holder with
  | nil => cases found
  | cons first rest ih =>
    cases holder with
    | zero =>
      obtain rfl : first = taken := Option.some.inj found
      simp only [List.set_cons_zero, List.filterMap_cons]
      cases first.outstanding with
      | none => cases next.outstanding <;> exact .refl _
      | some held =>
        cases next.outstanding with
        | none => exact .refl _
        | some other => exact .swap held other _
    | succ holder =>
      have later := @ih holder found
      simp only [List.set_cons_succ, List.filterMap_cons]
      cases first.outstanding with
      | none => exact later
      | some other => exact List.perm_middle.trans ((later.cons other).trans List.perm_middle.symm)

theorem outstanding_let_go {holder : Nat} {taken : PendingReservation} {held : Reservation}
    (found : state.reservations[holder]? = some taken) (holds : taken.outstanding = some held)
    {next : PendingReservation} (gone : next.outstanding = none) :
    state.outstanding.Perm
      (held :: (state.reservations.set holder next).filterMap (·.outstanding)) := by
  have exchanged := outstanding_set found next
  rw [holds, gone] at exchanged
  exact exchanged

theorem accounted_remove {registry : RelayRequestRegistry} {outstanding : List Reservation}
    (accounted : RelayRequestRegistry.Accounted env (registry, outstanding))
    (requestId : RequestId) :
    RelayRequestRegistry.Accounted env
      (removeRelayRequestRoute registry requestId, outstanding) := by
  unfold removeRelayRequestRoute
  split
  · exact accounted
  · next route found => exact accounted.change (.deleteRoute found)

theorem accounted_register {registry : RelayRequestRegistry} {outstanding : List Reservation}
    {route : RelayRequestRoute} (accounted : RelayRequestRegistry.Accounted env
      (registry, (route.conversationId, route.consumerSocketId) :: outstanding)) :
    RelayRequestRegistry.Accounted env
      (registerRelayRequestRoute registry route, outstanding) := by
  unfold registerRelayRequestRoute
  split
  · refine (accounted_remove accounted route.requestId).change (.insertRoute ?_)
    unfold removeRelayRequestRoute
    split
    · next missing => exact missing
    · exact OrderedMap.get_erase_self _ _
  · next missing =>
    refine accounted.change (.insertRoute ?_)
    simpa [RelayRequestRegistry.hasRelayRequestRoute,
      RelayRequestRegistry.getRelayRequestRoute] using missing

namespace Sound

variable (sound : Sound env state)

include sound

theorem set {registry : RelayRequestRegistry} {holder : Nat} {next : PendingReservation}
    (accounted : RelayRequestRegistry.Accounted env
      (registry, (state.reservations.set holder next).filterMap (·.outstanding)))
    (settledOnce : SettledOnce next) (releasedLast : next.released = true → next.ended = true) :
    Sound env { registry := registry, reservations := state.reservations.set holder next } where
  accounted := accounted
  settledOnce := fun reservation listed => by
    rcases List.mem_or_eq_of_mem_set listed with earlier | rfl
    · exact sound.settledOnce reservation earlier
    · exact settledOnce
  releasedLast := fun reservation listed => by
    rcases List.mem_or_eq_of_mem_set listed with earlier | rfl
    · exact sound.releasedLast reservation earlier
    · exact releasedLast

theorem reserve (conversationId : ConversationId) (consumerSocketId : SocketId) :
    Sound env (step env state (.reserve conversationId consumerSocketId)) := by
  unfold step
  simp only
  split
  · exact sound
  · next registry granted =>
    have accounted := sound.accounted.change (.reserve granted)
    refine ⟨⟨accounted.1.perm ?_, accounted.2⟩, fun reservation listed => ?_,
      fun reservation listed => ?_⟩
    · simp only [State.outstanding, List.filterMap_append]
      exact List.perm_append_singleton _ _ |>.symm
    · exact forall_mem_concat sound.settledOnce ⟨rfl, fun ended => by cases ended⟩ reservation listed
    · exact forall_mem_concat sound.releasedLast (fun released => by cases released) reservation
        listed

theorem holding {reservation : PendingReservation} (listed : reservation ∈ state.reservations)
    (goesOn : reservation.ended = false)
    (unconsumed : reservation.pendingReservationConsumed = false) :
    reservation.released = false ∧ reservation.outstanding =
        some (reservation.conversationId, reservation.consumerSocketId) ∧
      reservation.releases + reservation.registrations = 0 := by
  have unreleased : reservation.released = false := by
    cases released : reservation.released with
    | false => rfl
    | true => exact absurd (sound.releasedLast _ listed released) (by simp [goesOn])
  have holds : reservation.outstanding =
      some (reservation.conversationId, reservation.consumerSocketId) := by
    simp [PendingReservation.outstanding, unreleased, unconsumed]
  have unsettled := (sound.settledOnce _ listed).once
  rw [holds] at unsettled
  exact ⟨unreleased, holds, unsettled⟩

theorem register (holder : Nat) (route : RelayRequestRoute) :
    Sound env (step env state (.register holder route)) := by
  unfold step
  simp only
  split
  · exact sound
  · next reservation found =>
    split
    · exact sound
    · next free =>
      obtain ⟨goesOn, unconsumed⟩ : reservation.ended = false ∧
          reservation.pendingReservationConsumed = false := by simpa using free
      have listed := List.mem_of_getElem? found
      obtain ⟨unreleased, holds, unsettled⟩ := sound.holding listed goesOn unconsumed
      have gone : ({ reservation with
          pendingReservationConsumed := true
          registrations := reservation.registrations + 1 } : PendingReservation).outstanding =
          none := by simp [PendingReservation.outstanding]
      have parted := sound.accounted.1.perm (outstanding_let_go found holds gone)
      refine sound.set (accounted_register ⟨parted, sound.accounted.2⟩) ⟨?_, ?_⟩ ?_
      · simp only [gone, Option.isSome_none, Bool.false_eq_true, if_false]
        omega
      · simp [goesOn]
      · simp [unreleased]

theorem leave (holder : Nat) : Sound env (step env state (.leave holder)) := by
  unfold step
  simp only
  split
  · exact sound
  · next reservation found =>
    have listed := List.mem_of_getElem? found
    split
    · exact sound
    · next goesOn =>
      unfold finallyRelease
      split
      · next consumed =>
        have settled := (sound.settledOnce _ listed).once
        have unheld : reservation.outstanding = none := by
          simp [PendingReservation.outstanding, consumed]
        have exchanged := outstanding_set found { reservation with ended := true }
        have kept := sound.accounted.1.perm ((List.perm_append_left_iff _).mp exchanged)
        refine sound.set ⟨kept, sound.accounted.2⟩ ⟨settled, fun _ => ?_⟩ fun _ => rfl
        simpa [unheld] using settled
      · next unconsumed =>
        obtain ⟨unreleased, holds, unsettled⟩ :=
          sound.holding listed (by simpa using goesOn) (by simpa using unconsumed)
        simp only [release, unreleased, Bool.false_eq_true, if_false]
        have gone : ({ reservation with
            released := true
            ended := true
            releases := reservation.releases + 1 } : PendingReservation).outstanding =
            none := by simp [PendingReservation.outstanding]
        have parted := sound.accounted.1.perm (outstanding_let_go found holds gone)
        have accounted : RelayRequestRegistry.Accounted env
            (state.registry, (reservation.conversationId, reservation.consumerSocketId) :: _) :=
          ⟨parted, sound.accounted.2⟩
        refine sound.set (accounted.change .release) ⟨?_, fun _ => ?_⟩ fun _ => rfl
        · simp only [gone, Option.isSome_none, Bool.false_eq_true, if_false]
          omega
        · simp only
          omega

theorem after (action : Action) : Sound env (step env state action) := by
  cases action with
  | reserve conversationId consumerSocketId =>
    exact sound.reserve conversationId consumerSocketId
  | register holder route => exact sound.register holder route
  | leave holder => exact sound.leave holder
  | remove requestId =>
    exact ⟨accounted_remove sound.accounted requestId, sound.settledOnce, sound.releasedLast⟩
  | update requestId change =>
    exact ⟨sound.accounted.change (.updateRoute requestId change.property), sound.settledOnce,
      sound.releasedLast⟩

theorem lawful : Lawful env state where
  conversationCount := fun conversationId => by
    have counted := sound.accounted.1.conversationCounts conversationId
    simp only [OrderedMap.withKey, RelayRequestRoute.byConversation, Option.some.injEq] at counted
    exact counted
  consumerCount := fun consumerSocketId => by
    have counted := sound.accounted.1.consumerCounts consumerSocketId
    simp only [OrderedMap.withKey, RelayRequestRoute.byConsumer, Option.some.injEq] at counted
    exact counted
  globalCount := by
    rw [RelayRequestRegistry.getRelayEffectivePendingCount, sound.accounted.1.reserved]
  conversationIndex := fun conversationId requestId => by
    have filed := sound.accounted.1.conversationIndex conversationId requestId
    simp only [RelayRequestRoute.byConversation, Option.some.injEq] at filed
    exact filed
  consumerIndex := fun consumerSocketId requestId => by
    have filed := sound.accounted.1.consumerIndex consumerSocketId requestId
    simp only [RelayRequestRoute.byConsumer, Option.some.injEq] at filed
    exact filed
  agentIndex := fun agentSocketId requestId => by
    have filed := sound.accounted.1.agentIndex agentSocketId requestId
    simp only [RelayRequestRoute.byAgent, Option.some.injEq] at filed
    exact filed
  caps := sound.accounted.2
  settledOnce := sound.settledOnce

end Sound

/-- Every run of the system is sound. -/
theorem sound_run (env : Env) (actions : List Action) :
    Sound env (run (step env) {} actions) :=
  run_invariant (step env) (fun _ action sound => sound.after action)
    ⟨⟨.empty, .empty env⟩, by simp, by simp⟩ actions

/-- However the dispatches and the removals interleave, the counts are those of the routes and the
outstanding reservations and stay within the caps, the indexes show the routes, and each reservation
is released or consumed, once. -/
theorem relay_reservations_settled_once (env : Env) (actions : List Action) :
    Lawful env (run (step env) {} actions) :=
  (sound_run env actions).lawful

/-! ## The bridge

What the dispatches of the bridge and its removals of routes do to the registry is among these runs.
-/

theorem Sound.holder (sound : Sound env state) {held : Reservation}
    (outstanding : held ∈ state.outstanding) :
    ∃ (holder : Nat) (reservation : PendingReservation),
      state.reservations[holder]? = some reservation ∧ reservation.ended = false ∧
        reservation.pendingReservationConsumed = false ∧ reservation.outstanding = some held ∧
        (reservation.conversationId, reservation.consumerSocketId) = held := by
  obtain ⟨reservation, listed, holds⟩ := List.mem_filterMap.mp outstanding
  obtain ⟨holder, found⟩ := List.mem_iff_getElem?.mp listed
  have settled := sound.settledOnce reservation listed
  have once := settled.once
  rw [holds] at once
  have goesOn : reservation.ended = false := by
    cases ended : reservation.ended with
    | false => rfl
    | true =>
      have one := settled.ended ended
      rw [once] at one
      cases one
  have unconsumed : reservation.pendingReservationConsumed = false := by
    cases consumed : reservation.pendingReservationConsumed with
    | false => rfl
    | true => simp [PendingReservation.outstanding, consumed] at holds
  have same := (sound.holding listed goesOn unconsumed).2.1.symm.trans holds
  exact ⟨holder, reservation, found, goesOn, unconsumed, holds, Option.some.inj same⟩

/-- A change of the registry is at most one step of a dispatch or a removal. -/
theorem Sound.follows (sound : Sound env state) {outstanding : List Reservation}
    (listed : state.outstanding.Perm outstanding)
    {after : RelayRequestRegistry × List Reservation}
    (change : RelayRequestRegistry.Change env (state.registry, outstanding) after) :
    ∃ actions, (run (step env) state actions).registry = after.1 ∧
      (run (step env) state actions).outstanding.Perm after.2 := by
  cases change with
  | reorder same => exact ⟨[], rfl, listed.trans same⟩
  | @reserve _ _ _ conversationId consumerSocketId granted =>
    refine ⟨[.reserve conversationId consumerSocketId], ?_, ?_⟩
    · simp only [run_cons, run_nil, step, granted]
    · simp only [run_cons, run_nil, step, granted, State.outstanding, List.filterMap_append]
      exact (List.perm_append_singleton _ _).trans (listed.cons _)
  | release =>
    obtain ⟨holder, reservation, found, goesOn, unconsumed, holds, same⟩ :=
      sound.holder (listed.mem_iff.mpr List.mem_cons_self)
    have unreleased := (sound.holding (List.mem_of_getElem? found) goesOn unconsumed).1
    rw [Prod.mk.injEq] at same
    refine ⟨[.leave holder], ?_, ?_⟩
    · simp [step, found, goesOn, finallyRelease, unconsumed, release, unreleased, same]
    · simp only [run_cons, run_nil, step, found, goesOn, finallyRelease, unconsumed, release,
        unreleased, Bool.false_eq_true, if_false]
      refine ((outstanding_let_go found holds ?_).symm.trans listed).cons_inv
      simp [PendingReservation.outstanding]
  | @insertRoute _ _ route absent =>
    obtain ⟨holder, reservation, found, goesOn, unconsumed, holds, same⟩ :=
      sound.holder (listed.mem_iff.mpr List.mem_cons_self)
    rw [Prod.mk.injEq] at same
    refine ⟨[.register holder route], ?_, ?_⟩
    · have missing : state.registry.hasRelayRequestRoute route.requestId = false := by
        simp [RelayRequestRegistry.hasRelayRequestRoute,
          RelayRequestRegistry.getRelayRequestRoute, absent]
      simp [step, found, goesOn, unconsumed, same, registerRelayRequestRoute, missing]
    · simp only [run_cons, run_nil, step, found, goesOn, unconsumed, Bool.or_self,
        Bool.false_eq_true, if_false]
      refine ((outstanding_let_go found holds ?_).symm.trans listed).cons_inv
      simp [PendingReservation.outstanding]
  | @deleteRoute _ _ requestId _ found =>
    refine ⟨[.remove requestId], ?_, listed⟩
    simp only [run_cons, run_nil, step, removeRelayRequestRoute,
      RelayRequestRegistry.getRelayRequestRoute, found]
  | updateRoute requestId kept => exact ⟨[.update requestId ⟨_, kept⟩], rfl, listed⟩

/-- A run of dispatches and removals ends with a registry and outstanding reservations. -/
def Shown (env : Env) (shown : RelayRequestRegistry × List Reservation) : Prop :=
  ∃ actions, (run (step env) {} actions).registry = shown.1 ∧
    (run (step env) {} actions).outstanding.Perm shown.2

theorem Shown.changes {before after : RelayRequestRegistry × List Reservation}
    (shown : Shown env before)
    (changes : Relation.ReflTransGen (RelayRequestRegistry.Change env) before after) :
    Shown env after := by
  induction changes with
  | refl => exact shown
  | @tail middle _ _ change ih =>
    obtain ⟨actions, registry, listed⟩ := ih
    obtain ⟨shownRegistry, outstanding⟩ := middle
    have sound := sound_run env actions
    simp only at registry
    rw [← registry] at change
    obtain ⟨more, registry, listed⟩ := sound.follows listed change
    exact ⟨actions ++ more, by rw [run_append]; exact ⟨registry, listed⟩⟩

/-- The registry of the bridge and the reservations of its suspended dispatches are reached by
dispatches that settle each reservation once. -/
theorem shown_reached (env : Env) (actions : List Bridge.Action) :
    Shown env ((Bridge.reached env actions).relay, (Bridge.reached env actions).reservations) := by
  have shown : ∀ hub, Bridge.Accounted env hub ∧ Shown env (hub.relay, hub.reservations) →
      ∀ actions, Shown env ((run (Bridge.step env) hub actions).relay,
        (run (Bridge.step env) hub actions).reservations) := by
    intro hub both actions
    induction actions generalizing hub with
    | nil => exact both.2
    | cons action rest ih =>
      obtain ⟨accounted, earlier⟩ := both
      have moves := Bridge.step_moves env accounted.streams accounted.named action
      exact ih _ ⟨accounted.after action, earlier.changes moves.relay⟩
  exact shown Bridge.start ⟨.start env, [], rfl, .refl _⟩ actions

end PlugHub.RelayReservations
