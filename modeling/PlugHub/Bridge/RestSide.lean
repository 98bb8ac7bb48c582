import PlugHub.Bridge.Frames

/-!
# What happens to REST requests

The REST side of the hub is the state of REST requests: the dispatches, the pending map with its
count, the slot queue and the record of settled promises. Every handler changes it only through a
few changes: a dispatch enters, its promise is settled, its registration is cleared, its slot is
given back, or something that counts nowhere is noted.
-/

namespace PlugHub.Bridge

open Library Relay Registries

/-- The dispatch whose promise an emission settles. -/
def Emission.settles : Emission → Option Nat
  | .restResolved dispatch => some dispatch
  | .restRejected dispatch _ => some dispatch
  | _ => none

/-- Whether an emission settles a promise or gives the slot of a REST dispatch back. -/
def Emission.isRestMark : Emission → Bool
  | .restSlotReleased _ => true
  | emission => emission.settles.isSome

theorem Emission.isRestMark_of_settles {emission : Emission} {dispatch : Nat}
    (own : emission.settles = some dispatch) : emission.isRestMark = true := by
  cases emission <;> simp_all [settles, isRestMark]

/-- The state of REST requests. -/
structure RestSide where
  nextRef : Nat
  restDispatches : OrderedMap Nat RestDispatch
  pendingByCorrelationId : OrderedMap RequestId Nat
  logicalPendingCount : Nat
  restQueue : AgentDispatchQueue Nat
  marks : List Emission

/-- The REST side of the hub. -/
def Hub.restSide (hub : Hub) : RestSide where
  nextRef := hub.nextRef
  restDispatches := hub.restDispatches
  pendingByCorrelationId := hub.pendingByCorrelationId
  logicalPendingCount := hub.logicalPendingCount
  restQueue := hub.restQueue
  marks := hub.emissions.filter (·.isRestMark)

/-- A dispatch after a change that counts nowhere: a dispatch that returns has given its slot
back. -/
structure RestDispatch.Keeps (earlier later : RestDispatch) : Prop where
  agentId : later.agentId = earlier.agentId
  correlationIds : later.correlationIds = earlier.correlationIds
  pendingSettled : later.pendingSettled = earlier.pendingSettled
  slot : later.slot = earlier.slot
  slotReleased : later.slotReleased = earlier.slotReleased
  waits : later.point = .waitingSlot ↔ earlier.point = .waitingSlot
  refused : later.point = .slotRefused → earlier.point = .slotRefused
  returns : later.point = .done → earlier.point = .done ∨ earlier.point = .slotRefused ∨
    earlier.slot = none ∨ earlier.slotReleased = true

theorem RestDispatch.Keeps.same {earlier later : RestDispatch}
    (agentId : later.agentId = earlier.agentId)
    (correlationIds : later.correlationIds = earlier.correlationIds)
    (pendingSettled : later.pendingSettled = earlier.pendingSettled)
    (slot : later.slot = earlier.slot) (slotReleased : later.slotReleased = earlier.slotReleased)
    (point : later.point = earlier.point) : earlier.Keeps later where
  agentId := agentId
  correlationIds := correlationIds
  pendingSettled := pendingSettled
  slot := slot
  slotReleased := slotReleased
  waits := by rw [point]
  refused := fun refused => point ▸ refused
  returns := fun returned => Or.inl (point ▸ returned)

/-- How a dispatch that enters got its slot, or waits, or was refused. -/
inductive RestDispatch.Acquires (queue : AgentDispatchQueue Nat) (dispatch : Nat)
    (record : RestDispatch) : AgentDispatchQueue Nat → Prop
  | uncounted {slot : AgentSlot} (place : slot ≠ .control) (holds : record.slot = some slot)
      (point : record.point = .slotGranted) : Acquires queue dispatch record queue
  | granted (holds : record.slot = some .control) (point : record.point = .slotGranted) :
      Acquires queue dispatch record
        { queue with agentInflightById := queue.agentInflightById.increment record.agentId }
  | queued (holds : record.slot = none) (point : record.point = .waitingSlot) :
      Acquires queue dispatch record
        { queue with
          agentQueueById := queue.agentQueueById.addToIndex record.agentId dispatch }
  | refused (holds : record.slot = none) (point : record.point = .slotRefused) :
      Acquires queue dispatch record queue

namespace RestSide

/-- A dispatch changes. -/
def update (side : RestSide) (dispatch : Nat) (change : RestDispatch → RestDispatch) : RestSide :=
  { side with restDispatches := side.restDispatches.modify dispatch change }

/-- A dispatch gives its slot back. -/
def markReleased (side : RestSide) (dispatch : Nat) : RestSide :=
  { side.update dispatch ({ · with slotReleased := true }) with
    marks := .restSlotReleased dispatch :: side.marks }

/-- The ids a dispatch is registered under. -/
def owned (side : RestSide) (dispatch : Nat) (correlationIds : List RequestId) : List RequestId :=
  correlationIds.filter fun requestId =>
    side.pendingByCorrelationId.get requestId = some dispatch

/-- The registration of a dispatch is cleared. -/
def clear (side : RestSide) (dispatch : Nat) (correlationIds : List RequestId) : RestSide :=
  { side with
    pendingByCorrelationId :=
      (side.owned dispatch correlationIds).foldl (·.erase ·) side.pendingByCorrelationId
    logicalPendingCount :=
      if (side.owned dispatch correlationIds).isEmpty then side.logicalPendingCount
      else side.logicalPendingCount - 1 }

/-- The ids of a dispatch are registered. -/
def register (side : RestSide) (dispatch : Nat) (correlationIds : List RequestId) : RestSide :=
  { side with
    pendingByCorrelationId := correlationIds.foldl
      (fun pending requestId => pending.set requestId dispatch) side.pendingByCorrelationId
    logicalPendingCount := side.logicalPendingCount + 1 }

/-- A dispatch is stored. -/
def enter (side : RestSide) (record : RestDispatch) (queue : AgentDispatchQueue Nat) : RestSide :=
  { side with
    nextRef := side.nextRef + 1
    restDispatches := side.restDispatches.set side.nextRef record
    restQueue := queue }

/-- The continuation of a queued dispatch is due with a slot. -/
def grant (side : RestSide) (dispatch : Nat) : RestSide :=
  side.update dispatch fun stored =>
    match stored.point with
    | .waitingSlot => { stored with point := .slotGranted, slot := some .control }
    | _ => stored

/-- A slot goes back, and on to the oldest waiter. -/
def handOn (env : Env) (side : RestSide) (agentId : AgentId) : RestSide :=
  let (queue, next) :=
    side.restQueue.releaseAgentDispatchSlot (restDispatchLimits env) agentId
  let released := { side with restQueue := queue }
  match next with
  | none => released
  | some waiter => released.grant waiter

end RestSide

/-- A change of the REST side. -/
inductive RestChange (env : Env) : RestSide → RestSide → Prop
  | advance {side : RestSide} {next : Nat} (more : side.nextRef ≤ next) :
      RestChange env side { side with nextRef := next }
  | adjust {side : RestSide} {dispatch : Nat} {change : RestDispatch → RestDispatch}
      (kept : ∀ record, side.restDispatches.get dispatch = some record →
        record.Keeps (change record)) : RestChange env side (side.update dispatch change)
  | settle {side : RestSide} {dispatch : Nat} {record : RestDispatch} {outcome : Emission}
      (found : side.restDispatches.get dispatch = some record)
      (unsettled : record.pendingSettled = false) (own : outcome.settles = some dispatch) :
      RestChange env side
        { side.update dispatch ({ · with pendingSettled := true }) with
          marks := outcome :: side.marks }
  | refuse {side : RestSide} {outcome : Emission} (own : outcome.settles = some side.nextRef) :
      RestChange env side
        { side with nextRef := side.nextRef + 1, marks := outcome :: side.marks }
  | clear {side : RestSide} {dispatch : Nat} {record : RestDispatch}
      (found : side.restDispatches.get dispatch = some record) :
      RestChange env side (side.clear dispatch record.correlationIds)
  | notify {side : RestSide} {record : RestDispatch} {queue : AgentDispatchQueue Nat}
      (unsettled : record.pendingSettled = false) (unreleased : record.slotReleased = false)
      (acquires : record.Acquires side.restQueue side.nextRef queue) :
      RestChange env side (side.enter record queue)
  | enter {side : RestSide} {record : RestDispatch} {queue : AgentDispatchQueue Nat}
      (unsettled : record.pendingSettled = false) (unreleased : record.slotReleased = false)
      (acquires : record.Acquires side.restQueue side.nextRef queue)
      (some : record.correlationIds ≠ [])
      (free : ∀ requestId ∈ record.correlationIds,
        side.pendingByCorrelationId.get requestId = none)
      (below : side.logicalPendingCount < env.socketRestMaxPendingRequests) :
      RestChange env side
        ((side.register side.nextRef record.correlationIds).enter record queue)
  | leave {side : RestSide} {dispatch : Nat} {record : RestDispatch}
      {change : RestDispatch → RestDispatch}
      (found : side.restDispatches.get dispatch = some record)
      (waiting : record.point = .waitingSlot) (agentId : (change record).agentId = record.agentId)
      (correlationIds : (change record).correlationIds = record.correlationIds)
      (pendingSettled : (change record).pendingSettled = record.pendingSettled)
      (slot : (change record).slot = record.slot)
      (slotReleased : (change record).slotReleased = record.slotReleased)
      (point : (change record).point = .slotRefused) :
      RestChange env side
        { side.update dispatch change with
          restQueue := side.restQueue.removeQueuedWaiter record.agentId dispatch }
  | vacate {side : RestSide} {dispatch : Nat} {record : RestDispatch} {slot : AgentSlot}
      (found : side.restDispatches.get dispatch = some record) (holds : record.slot = some slot)
      (place : slot ≠ .control) (unreleased : record.slotReleased = false) :
      RestChange env side (side.markReleased dispatch)
  | release {side : RestSide} {dispatch : Nat} {record : RestDispatch}
      (found : side.restDispatches.get dispatch = some record)
      (holds : record.slot = some .control) (unreleased : record.slotReleased = false) :
      RestChange env side ((side.markReleased dispatch).handOn env record.agentId)

/-- The REST side changes by such changes. -/
def RestMoves (env : Env) (before after : Hub) : Prop :=
  Relation.ReflTransGen (RestChange env) before.restSide after.restSide

namespace RestMoves

variable {env : Env} {origin hub after : Hub}

theorem refl (hub : Hub) : RestMoves env hub hub := Relation.ReflTransGen.refl

theorem trans (first : RestMoves env origin hub) (second : RestMoves env hub after) :
    RestMoves env origin after :=
  Relation.ReflTransGen.trans first second

theorem same (unchanged : after.restSide = hub.restSide) : RestMoves env hub after := by
  unfold RestMoves
  rw [unchanged]

theorem single (change : RestChange env hub.restSide after.restSide) : RestMoves env hub after :=
  Relation.ReflTransGen.single change

/-! ## Operations -/

theorem emit (hub : Hub) {emission : Emission} (plain : emission.isRestMark = false) :
    RestMoves env hub (hub.emit emission) := by
  refine same ?_
  simp [Hub.restSide, Hub.emit, plain]

theorem updateRestDispatch (hub : Hub) (dispatch : Nat) (change : RestDispatch → RestDispatch)
    (kept : ∀ record, hub.restDispatches.get dispatch = some record →
      record.Keeps (change record)) : RestMoves env hub (hub.updateRestDispatch dispatch change) :=
  single (.adjust kept)

theorem clearRestTimeout (hub : Hub) (dispatch : Nat) :
    RestMoves env hub (hub.clearRestTimeout dispatch) :=
  updateRestDispatch hub dispatch ({ · with timeoutArmed := false })
    fun _ _ => .same rfl rfl rfl rfl rfl rfl

theorem settleRest (hub : Hub) (dispatch : Nat) {outcome : Emission}
    (own : outcome.settles = some dispatch) :
    RestMoves env hub (hub.settleRest dispatch outcome) := by
  unfold Hub.settleRest
  split
  · exact .refl hub
  · next record found =>
    by_cases settled : record.pendingSettled = true
    · rw [if_pos settled]
      exact .refl hub
    · rw [if_neg settled]
      have recorded : ((hub.updateRestDispatch dispatch
          ({ · with pendingSettled := true })).emit outcome).restSide =
          { hub.restSide.update dispatch ({ · with pendingSettled := true }) with
            marks := outcome :: hub.restSide.marks } := by
        simp [Hub.restSide, Hub.emit, Hub.updateRestDispatch, RestSide.update,
          Emission.isRestMark_of_settles own]
      have change : RestChange env hub.restSide _ :=
        .settle found (Bool.not_eq_true _ ▸ settled) own
      exact single (recorded ▸ change)

theorem rejectRest (hub : Hub) (dispatch : Nat) (message : String) :
    RestMoves env hub (hub.rejectRest dispatch message) :=
  settleRest hub dispatch rfl

theorem resolveRest (hub : Hub) (dispatch : Nat) : RestMoves env hub (hub.resolveRest dispatch) :=
  settleRest hub dispatch rfl

variable {dispatch : Nat}

theorem clearRestPendingRequest (hub : Hub) {record stored : RestDispatch}
    (found : hub.restDispatches.get dispatch = some stored)
    (same : record.correlationIds = stored.correlationIds) :
    RestMoves env hub (hub.clearRestPendingRequest dispatch record) := by
  have first : RestMoves env hub
    (hub.updateRestDispatch dispatch ({ · with ackRetryArmed := false })) :=
    updateRestDispatch hub dispatch _ fun _ _ => .same rfl rfl rfl rfl rfl rfl
  have foundAfter : (hub.updateRestDispatch dispatch
      ({ · with ackRetryArmed := false })).restSide.restDispatches.get dispatch =
      some { stored with ackRetryArmed := false } := by
    show (hub.restDispatches.modify dispatch _).get dispatch = _
    rw [OrderedMap.get_modify, if_pos rfl, found]
    rfl
  have second : RestChange env _ _ := .clear foundAfter
  refine first.trans (single ?_)
  have shown : (hub.clearRestPendingRequest dispatch record).restSide =
      (hub.updateRestDispatch dispatch ({ · with ackRetryArmed := false })).restSide.clear dispatch
        stored.correlationIds := by
    simp only [Hub.clearRestPendingRequest, same]
    rfl
  rw [shown]
  exact second

variable {record : RestDispatch}

theorem get_clearRestTimeout (found : hub.restDispatches.get dispatch = some record) :
    (hub.clearRestTimeout dispatch).restDispatches.get dispatch =
      some { record with timeoutArmed := false } := by
  show (hub.restDispatches.modify dispatch _).get dispatch = _
  rw [OrderedMap.get_modify, if_pos rfl, found]
  rfl

theorem clearRegistered (hub : Hub) {record stored : RestDispatch}
    (found : hub.restDispatches.get dispatch = some stored)
    (same : record.correlationIds = stored.correlationIds) :
    RestMoves env hub ((hub.clearRestTimeout dispatch).clearRestPendingRequest dispatch record) :=
  (clearRestTimeout hub dispatch).trans
    (clearRestPendingRequest _ (get_clearRestTimeout found) same)

theorem clearPendingRegistration (hub : Hub) (dispatch : Nat) :
    RestMoves env hub (hub.clearPendingRegistration dispatch) := by
  unfold Hub.clearPendingRegistration
  split
  · exact .refl hub
  · next record found =>
    split
    · exact (clearRegistered hub found rfl).trans (updateRestDispatch _ dispatch _
        fun _ _ => .same rfl rfl rfl rfl rfl rfl)
    · exact .refl hub

theorem failPendingRequest (hub : Hub)
    (found : hub.restDispatches.get dispatch = some record) (message : String) :
    RestMoves env hub (hub.failPendingRequest dispatch record message) :=
  (clearRegistered hub found rfl).trans (rejectRest _ dispatch message)

theorem resolvePendingRequest (hub : Hub) {record stored : RestDispatch}
    (found : hub.restDispatches.get dispatch = some stored)
    (same : record.correlationIds = stored.correlationIds) :
    RestMoves env hub (hub.resolvePendingRequest dispatch record) :=
  (clearRegistered hub found same).trans (resolveRest _ dispatch)

theorem endMaterialization (hub : Hub) (route : ActiveStreamRoute)
    (removal : Hub.RestMaterializeRemoval) :
    RestMoves env hub (hub.endMaterialization route removal) := by
  unfold Hub.endMaterialization
  split
  · exact .refl hub
  · next state _ =>
    split
    · exact .refl hub
    · have cleared : RestMoves env hub (hub.clearRestTimeout state.dispatch) :=
        clearRestTimeout hub state.dispatch
      cases removal with
      | detach => exact cleared
      | abort => exact cleared.trans (rejectRest _ _ _)

theorem removeActiveStreamRoute (hub : Hub) (route : ActiveStreamRoute)
    (removal : Hub.RestMaterializeRemoval) :
    RestMoves env hub (hub.removeActiveStreamRoute route removal) := by
  have timed : RestMoves env hub (hub.clearRelayStreamTimeouts route.requestId) := same rfl
  exact (timed.trans (endMaterialization _ route removal)).trans (same rfl)

theorem settleRestMaterializeSuccess (hub : Hub) (route : ActiveStreamRoute) :
    RestMoves env hub (hub.settleRestMaterializeSuccess route) :=
  (endMaterialization hub route .detach).trans (same rfl)

theorem acknowledgeRest (hub : Hub) (socketId : SocketId) (requestId : RequestId) :
    RestMoves env hub (hub.acknowledgeRest socketId requestId) := by
  unfold Hub.acknowledgeRest
  split
  · exact .refl hub
  · split
    · exact .refl hub
    · split
      · exact updateRestDispatch hub _ _
          fun _ _ => .same rfl rfl rfl rfl rfl rfl
      · exact .refl hub

/-! ## Slots -/

theorem releaseRestSlot (hub : Hub) (dispatch : Nat) :
    RestMoves env hub (hub.releaseRestSlot env dispatch) := by
  unfold Hub.releaseRestSlot
  split
  · exact .refl hub
  · next record found =>
    split
    · next slot held unreleased =>
      cases slot with
      | unlimited => exact single (.vacate found held (by decide) unreleased)
      | reader =>
        have change : RestChange env hub.restSide _ := .vacate found held (by decide) unreleased
        exact single change
      | control =>
        have change : RestChange env hub.restSide _ := .release found held unreleased
        refine single ?_
        simp only [RestSide.handOn] at change
        revert change
        cases released : (hub.restSide.markReleased dispatch).restQueue.releaseAgentDispatchSlot
            (restDispatchLimits env) record.agentId with
        | mk queue next =>
          have shown : ((hub.updateRestDispatch dispatch
            ({ · with slotReleased := true })).emit
              (.restSlotReleased dispatch)).restQueue.releaseAgentDispatchSlot
              (restDispatchLimits env) record.agentId = (queue, next) := released
          simp only [shown]
          cases next with
          | none => exact fun change => change
          | some waiter => exact fun change => change
    · exact .refl hub

/-- A dispatch that holds a slot it did not give back, or waits for one. -/
structure Released (before : Option RestDispatch) (after : RestDispatch) : Prop where
  none : after.slot = none ∨ after.slotReleased = true
  past : ∃ earlier, before = some earlier ∧
    (earlier.point ≠ .waitingSlot → after.point ≠ .waitingSlot)

/-- After its slot was given back a dispatch holds none. -/
theorem get_releaseRestSlot (hub : Hub) (dispatch : Nat) (record : RestDispatch)
    (found : (hub.releaseRestSlot env dispatch).restDispatches.get dispatch = some record) :
    Released (hub.restDispatches.get dispatch) record := by
  unfold Hub.releaseRestSlot at found
  cases present : hub.restDispatches.get dispatch with
  | none =>
    rw [present] at found
    simp only [present] at found
    cases found
  | some stored =>
    rw [present] at found
    have marked : ((hub.updateRestDispatch dispatch ({ · with slotReleased := true })).emit
        (.restSlotReleased dispatch)).restDispatches.get dispatch =
        some { stored with slotReleased := true } := by
      show (hub.restDispatches.modify dispatch _).get dispatch = _
      rw [OrderedMap.get_modify, if_pos rfl, present]
      rfl
    have given : Released (some stored) { stored with slotReleased := true } :=
      ⟨Or.inr rfl, stored, rfl, id⟩
    have kept : some { stored with slotReleased := true } = some record →
        Released (some stored) record := fun same => Option.some.inj same ▸ given
    simp only at found
    split at found
    · next slot held unreleased =>
      cases slot with
      | unlimited => exact kept (marked.symm.trans found)
      | reader => exact kept (marked.symm.trans found)
      | control =>
        simp only at found
        split at found
        · exact kept (marked.symm.trans found)
        · next waiter _ =>
          simp only [Hub.grantRestSlot, OrderedMap.get_modify] at found
          split at found
          · next same =>
            rw [← same, marked] at found
            simp only [Option.map_some, Option.some.injEq] at found
            rw [← found]
            refine ⟨Or.inr (by split <;> rfl), stored, rfl, fun past => ?_⟩
            split
            · intro refuted
              cases refuted
            · exact past
          · exact kept (marked.symm.trans found)
    · next unheld =>
      rw [present] at found
      cases found
      refine ⟨?_, record, rfl, id⟩
      cases held : record.slot with
      | none => exact Or.inl rfl
      | some slot =>
        cases released : record.slotReleased with
        | true => exact Or.inr rfl
        | false => exact absurd released (unheld slot held)

/-- The ids of a dispatch and where it is. -/
def outline (hub : Hub) (dispatch : Nat) : Option (List RequestId × RestDispatchPoint) :=
  (hub.restDispatches.get dispatch).map fun record => (record.correlationIds, record.point)

theorem outline_update (hub : Hub) (other : Nat) (change : RestDispatch → RestDispatch)
    (ids : ∀ record, (change record).correlationIds = record.correlationIds)
    (point : ∀ record, (change record).point = record.point) (dispatch : Nat) :
    outline (hub.updateRestDispatch other change) dispatch = outline hub dispatch := by
  simp only [outline, Hub.updateRestDispatch, OrderedMap.get_modify]
  split
  · next same =>
    rw [same, Option.map_map]
    congr 1
    funext record
    simp only [Function.comp_apply, ids, point]
  · rfl

theorem outline_settleRest (hub : Hub) (other : Nat) (outcome : Emission) (dispatch : Nat) :
    outline (hub.settleRest other outcome) dispatch = outline hub dispatch := by
  unfold Hub.settleRest
  split
  · rfl
  · split
    · rfl
    · exact outline_update hub other ({ · with pendingSettled := true }) (fun _ => rfl)
        (fun _ => rfl) dispatch

theorem outline_clearRestTimeout (hub : Hub) (other dispatch : Nat) :
    outline (hub.clearRestTimeout other) dispatch = outline hub dispatch :=
  outline_update hub other ({ · with timeoutArmed := false }) (fun _ => rfl) (fun _ => rfl) dispatch

theorem outline_clearRestPendingRequest (hub : Hub) (other : Nat) (record : RestDispatch)
    (dispatch : Nat) :
    outline (hub.clearRestPendingRequest other record) dispatch = outline hub dispatch :=
  outline_update hub other ({ · with ackRetryArmed := false }) (fun _ => rfl) (fun _ => rfl)
    dispatch

theorem outline_clearPendingRegistration (hub : Hub) (other dispatch : Nat) :
    outline (hub.clearPendingRegistration other) dispatch = outline hub dispatch := by
  unfold Hub.clearPendingRegistration
  split
  · rfl
  · split
    · rw [outline_update _ other ({ · with pendingRegistered := false }) (fun _ => rfl)
        (fun _ => rfl), outline_clearRestPendingRequest, outline_clearRestTimeout]
    · rfl

theorem outline_endMaterialization (hub : Hub) (route : ActiveStreamRoute)
    (removal : Hub.RestMaterializeRemoval) (dispatch : Nat) :
    outline (hub.endMaterialization route removal) dispatch = outline hub dispatch := by
  unfold Hub.endMaterialization
  split
  · rfl
  · next state _ =>
    split
    · rfl
    · have cleared := outline_clearRestTimeout hub state.dispatch dispatch
      cases removal with
      | detach => exact cleared
      | abort => exact (outline_settleRest _ _ _ dispatch).trans cleared

theorem outline_removeStreamOfAgent (hub : Hub) (requestId : RequestId) (socketId : SocketId)
    (removal : Hub.RestMaterializeRemoval) (dispatch : Nat) :
    outline (hub.removeStreamOfAgent requestId socketId removal) dispatch =
      outline hub dispatch := by
  unfold Hub.removeStreamOfAgent
  split
  · rfl
  · next route _ =>
    split
    · exact outline_endMaterialization (hub.clearRelayStreamTimeouts route.requestId) route removal
        dispatch
    · rfl

theorem ids_of_outline (same : outline after dispatch = outline hub dispatch)
    (found : hub.restDispatches.get dispatch = some record) :
    ∃ later, after.restDispatches.get dispatch = some later ∧
      record.correlationIds = later.correlationIds := by
  simp only [outline, found, Option.map_some] at same
  obtain ⟨later, present, agrees⟩ := Option.map_eq_some_iff.mp same
  exact ⟨later, present, (congrArg Prod.fst agrees).symm⟩

/-- A dispatch that does not wait for a slot. -/
def Past (hub : Hub) (dispatch : Nat) : Prop :=
  ∀ record, hub.restDispatches.get dispatch = some record → record.point ≠ .waitingSlot

theorem Past.like (past : Past hub dispatch)
    (same : outline after dispatch = outline hub dispatch) : Past after dispatch := by
  intro later found
  simp only [outline, found, Option.map_some] at same
  obtain ⟨record, present, agrees⟩ := Option.map_eq_some_iff.mp same.symm
  have point : record.point = later.point := congrArg Prod.snd agrees
  rw [← point]
  exact past record present

theorem endRestDispatch (hub : Hub) (past : Past hub dispatch) :
    RestMoves env hub (hub.endRestDispatch env dispatch) := by
  refine (releaseRestSlot hub dispatch).trans (updateRestDispatch _ dispatch _ ?_)
  intro record found
  have released := get_releaseRestSlot hub dispatch record found
  obtain ⟨earlier, present, moved⟩ := released.past
  refine ⟨rfl, rfl, rfl, rfl, rfl, ⟨nofun, ?_⟩, nofun, fun _ => Or.inr (Or.inr released.none)⟩
  exact fun waiting => absurd waiting (moved (past earlier present))

theorem failRestDispatch (hub : Hub) (past : Past hub dispatch)
    (message : String) : RestMoves env hub (hub.failRestDispatch env dispatch message) :=
  ((clearPendingRegistration hub dispatch).trans (rejectRest _ dispatch message)).trans
    (endRestDispatch _ ((past.like (outline_clearPendingRegistration hub dispatch dispatch)).like
      (outline_settleRest _ dispatch _ dispatch)))

/-! ## Entering -/

theorem acquires_acquireRestCapacity (hub : Hub) (dispatch : Nat) (input : CommandInput)
    (agentId : record.agentId = input.agentId)
    (point : record.point = (hub.acquireRestCapacity env dispatch input).2.1)
    (slot : record.slot = (hub.acquireRestCapacity env dispatch input).2.2) :
    record.Acquires hub.restQueue dispatch
      (hub.acquireRestCapacity env dispatch input).1.restQueue := by
  unfold Hub.acquireRestCapacity at point slot ⊢
  split at point
  · next long =>
    rw [if_pos long] at slot ⊢
    split at point
    · next refused =>
      rw [if_pos refused] at slot ⊢
      exact .refused slot point
    · next place =>
      rw [if_neg place] at slot ⊢
      have reader : record.slot = some .reader := slot
      exact .uncounted (by decide) reader point
  · next short =>
    rw [if_neg short] at slot ⊢
    split at point
    · next expired =>
      rw [if_pos expired] at slot ⊢
      exact .refused slot point
    · next live =>
      rw [if_neg live] at slot ⊢
      unfold AgentDispatchQueue.acquireAgentDispatchSlot at point slot ⊢
      by_cases unlimited : (restDispatchLimits env).maxInflight = 0
      · simp only [unlimited, if_true] at point slot ⊢
        exact .uncounted (by decide) slot point
      · simp only [unlimited, if_false] at point slot ⊢
        by_cases free : hub.restQueue.agentInflightById.read input.agentId <
            (restDispatchLimits env).maxInflight
        · simp only [free, if_true] at point slot ⊢
          rw [← agentId]
          exact .granted slot point
        · simp only [free, if_false] at point slot ⊢
          by_cases full : 0 < (restDispatchLimits env).maxQueue ∧
              (restDispatchLimits env).maxQueue ≤
                (hub.restQueue.agentQueueById.members input.agentId).length
          · simp only [full, and_self, if_true] at point slot ⊢
            exact .refused slot point
          · simp only [full, if_false] at point slot ⊢
            rw [← agentId]
            exact .queued slot point

theorem acquireRestCapacity_eq (env : Env) (hub : Hub) (dispatch : Nat) (input : CommandInput) :
    (hub.acquireRestCapacity env dispatch input).1 =
      { hub with
        readers := (hub.acquireRestCapacity env dispatch input).1.readers
        restQueue := (hub.acquireRestCapacity env dispatch input).1.restQueue } := by
  unfold Hub.acquireRestCapacity
  split
  · split <;> rfl
  · split
    · rfl
    · split <;> rfl

/-- The record a command is stored under. -/
def recordOf (env : Env) (hub : Hub) (dispatch : Nat) (input : CommandInput)
    (pendingRegistered : Bool) : RestDispatch :=
  { agentId := input.agentId
    socketId := input.socketId
    primaryRequestId := input.primaryRequestId
    correlationIds := input.correlationIds
    commandConsumer := input.commandConsumer
    streamHandlers :=
      if input.mayStream && input.streamHandlers then input.commandConsumer else none
    restStreamAggregate := input.mayStream && !input.streamHandlers
    ackRetryEligible := env.socketAgentAckRetryEnabled &&
      decide (0 < env.socketAgentAckMaxRetries) && input.ackRetryEligible
    pendingRegistered := pendingRegistered
    timeoutArmed := pendingRegistered
    slot := (hub.acquireRestCapacity env dispatch input).2.2
    point := (hub.acquireRestCapacity env dispatch input).2.1 }

theorem acquires_recordOf (env : Env) {hub entering : Hub}
    (same : entering.restQueue = hub.restQueue) (dispatch : Nat) (input : CommandInput)
    (pendingRegistered : Bool) :
    (recordOf env entering dispatch input pendingRegistered).Acquires hub.restQueue dispatch
      (entering.acquireRestCapacity env dispatch input).1.restQueue := by
  rw [← same]
  exact acquires_acquireRestCapacity entering dispatch input rfl rfl rfl

theorem restSide_suspendRestAtSlot (env : Env) (hub : Hub) (dispatch : Nat) (input : CommandInput)
    (pendingRegistered : Bool) :
    (hub.suspendRestAtSlot env dispatch input pendingRegistered).restSide =
      { hub.restSide with
        restDispatches := hub.restDispatches.set dispatch
          (recordOf env hub dispatch input pendingRegistered)
        restQueue := (hub.acquireRestCapacity env dispatch input).1.restQueue } := by
  have acquired := acquireRestCapacity_eq env hub dispatch input
  unfold Hub.suspendRestAtSlot
  simp only [Hub.restSide]
  rw [acquired]
  rfl

theorem dispatchRpcCommandToAgent (hub : Hub) (input : CommandInput) :
    RestMoves env hub (hub.dispatchRpcCommandToAgent env input) := by
  unfold Hub.dispatchRpcCommandToAgent
  split
  · exact .refl hub
  · split
    · exact .refl hub
    · have refuses : ∀ message, RestMoves env hub ({ hub with
          nextRef := hub.nextRef + 1
          usedRequestIds := input.generatedRequestId :: input.correlationIds ++
            hub.usedRequestIds }.emit (.restRejected hub.nextRef message)) := by
        intro message
        have own : (Emission.restRejected hub.nextRef message).settles =
          some hub.restSide.nextRef := rfl
        have change : RestChange env hub.restSide { hub.restSide with
            nextRef := hub.nextRef + 1
            marks := .restRejected hub.nextRef message :: hub.restSide.marks } :=
          .refuse own
        exact single change
      simp only
      split
      · refine single ?_
        rw [restSide_suspendRestAtSlot]
        exact .notify rfl rfl (acquires_recordOf env (by rfl) hub.nextRef input false)
      · next some =>
        split
        · exact refuses _
        · next below =>
          split
          · next free =>
            refine single ?_
            rw [restSide_suspendRestAtSlot]
            refine .enter rfl rfl (acquires_recordOf env (by rfl) hub.nextRef input true)
              ?_ ?_ ?_
            · intro empty
              exact some (List.isEmpty_iff.mpr empty)
            · intro requestId member
              have unused := List.all_eq_true.mp free requestId member
              unfold Hub.isCorrelationIdFree at unused
              rw [Bool.and_eq_true, Bool.and_eq_true] at unused
              exact Option.isNone_iff_eq_none.mp unused.1.1
            · exact Nat.lt_of_not_le below
          · exact refuses _

/-! ## Continuations and timers -/

theorem advance (hub : Hub) (count : Nat) :
    RestMoves env hub { hub with nextRef := hub.nextRef + count } := by
  have change : RestChange env hub.restSide { hub.restSide with nextRef := hub.nextRef + count } :=
    .advance (Nat.le_add_right hub.nextRef count)
  exact single change

theorem moveOn (hub : Hub) (found : hub.restDispatches.get dispatch = some record)
    (change : RestDispatch → RestDispatch) (kept : change record = { record with
      point := (change record).point, ackRetryArmed := (change record).ackRetryArmed })
    (past : record.point ≠ .waitingSlot) (waits : (change record).point ≠ .waitingSlot)
    (refused : (change record).point ≠ .slotRefused)
    (returns : (change record).point = .done → record.point = .slotRefused) :
    RestMoves env hub (hub.updateRestDispatch dispatch change) := by
  refine updateRestDispatch hub dispatch change fun stored present => ?_
  obtain rfl : record = stored := Option.some.inj (found.symm.trans present)
  exact {
    agentId := by rw [kept]
    correlationIds := by rw [kept]
    pendingSettled := by rw [kept]
    slot := by rw [kept]
    slotReleased := by rw [kept]
    waits := ⟨fun waiting => absurd waiting waits, fun waiting => absurd waiting past⟩
    refused := fun turnedAway => absurd turnedAway refused
    returns := fun returned => Or.inr (Or.inl (returns returned)) }

theorem leave (hub : Hub)
    (found : hub.restDispatches.get dispatch = some record) (waiting : record.point = .waitingSlot)
    (change : RestDispatch → RestDispatch)
    (kept : change record = { record with point := .slotRefused, aborted := (change record).aborted }) :
    RestMoves env hub { hub.updateRestDispatch dispatch change with
      restQueue := hub.restQueue.removeQueuedWaiter record.agentId dispatch } := by
  have change : RestChange env hub.restSide { hub.restSide.update dispatch change with
      restQueue := hub.restQueue.removeQueuedWaiter record.agentId dispatch } :=
    .leave found waiting (by rw [kept]) (by rw [kept]) (by rw [kept]) (by rw [kept])
      (by rw [kept]) (by rw [kept])
  exact single change

theorem restQueueWaitExpires (hub : Hub) (dispatch : Nat) :
    RestMoves env hub (hub.restQueueWaitExpires dispatch) := by
  unfold Hub.restQueueWaitExpires
  split
  · exact .refl hub
  · next record found =>
    split
    · next waiting => exact leave hub found waiting ({ · with point := .slotRefused }) rfl
    · exact .refl hub

end RestMoves

end PlugHub.Bridge
