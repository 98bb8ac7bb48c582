import PlugHub.Bridge.StepMoves

/-!
# REST requests over whole runs

The pending registry counts its requests by hand while one request is stored under several
ids, promises are settled from many handlers, and slots are given back early or late. In
every reached state the count is the number of registered requests and within its bound,
every promise was settled at most once, every slot was given back at most once, and the slot
queue counts exactly the dispatches that hold a slot.
-/

namespace PlugHub.Bridge

open Library Relay Registries
open OrderedMap

/-! ## What a dispatch holds and what was told about it -/

namespace RestDispatch

/-- The agent whose slot a dispatch holds. -/
def holding (record : RestDispatch) : Option AgentId :=
  if record.slot = some .control ∧ record.slotReleased = false then some record.agentId else none

/-- The agent for whose slot a dispatch waits. -/
def waiting (record : RestDispatch) : Option AgentId :=
  if record.point = .waitingSlot then some record.agentId else none

/-- What the flags of a dispatch say about each other. -/
structure Fit (record : RestDispatch) : Prop where
  granted : record.slotReleased = true → record.slot.isSome = true
  returned : record.point = .done → record.slot = none ∨ record.slotReleased = true
  waits : record.point = .waitingSlot → record.slot = none
  refused : record.point = .slotRefused → record.slot = none

variable {earlier later : RestDispatch}

theorem Fit.keeps (fit : earlier.Fit) (kept : earlier.Keeps later) :
    later.Fit where
  granted := by
    rw [kept.slot, kept.slotReleased]
    exact fit.granted
  returned := by
    intro returned
    rw [kept.slot, kept.slotReleased]
    rcases kept.returns returned with before | refused | free
    · exact fit.returned before
    · exact Or.inl (fit.refused refused)
    · exact free
  waits := by
    intro waits
    rw [kept.slot]
    exact fit.waits (kept.waits.mp waits)
  refused := by
    intro refused
    rw [kept.slot]
    exact fit.refused (kept.refused refused)

theorem holding_keeps (kept : earlier.Keeps later) : later.holding = earlier.holding := by
  unfold holding
  rw [kept.slot, kept.slotReleased, kept.agentId]

theorem waiting_keeps (kept : earlier.Keeps later) : later.waiting = earlier.waiting := by
  unfold waiting
  simp only [kept.waits, kept.agentId]

end RestDispatch

open RestDispatch

/-- How often the promise of a dispatch was settled. -/
def settledTimes (marks : List Emission) (dispatch : Nat) : Nat :=
  marks.countP fun emission => decide (emission.settles = some dispatch)

/-- How often the slot of a dispatch was given back. -/
def releasedTimes (marks : List Emission) (dispatch : Nat) : Nat :=
  marks.countP fun emission => decide (emission = .restSlotReleased dispatch)

theorem settledTimes_settle {outcome : Emission} {dispatch : Nat}
    (own : outcome.settles = some dispatch) (marks : List Emission) (other : Nat) :
    settledTimes (outcome :: marks) other =
      settledTimes marks other + if other = dispatch then 1 else 0 := by
  unfold settledTimes
  rw [List.countP_cons, own]
  by_cases same : other = dispatch
  · rw [if_pos same, if_pos (by simp [same])]
  · rw [if_neg same, if_neg (by simpa using Ne.symm same)]

theorem releasedTimes_settle {outcome : Emission} {dispatch : Nat}
    (own : outcome.settles = some dispatch) (marks : List Emission) (other : Nat) :
    releasedTimes (outcome :: marks) other = releasedTimes marks other := by
  have different : outcome ≠ .restSlotReleased other := by
    rintro rfl
    cases own
  unfold releasedTimes
  rw [List.countP_cons, if_neg (by simpa using different), Nat.add_zero]

theorem settledTimes_release (marks : List Emission) (dispatch other : Nat) :
    settledTimes (.restSlotReleased dispatch :: marks) other = settledTimes marks other := by
  unfold settledTimes
  rw [List.countP_cons, if_neg (by simp [Emission.settles]), Nat.add_zero]

theorem releasedTimes_release (marks : List Emission) (dispatch other : Nat) :
    releasedTimes (.restSlotReleased dispatch :: marks) other =
      releasedTimes marks other + if other = dispatch then 1 else 0 := by
  unfold releasedTimes
  rw [List.countP_cons]
  by_cases same : other = dispatch
  · rw [if_pos same, if_pos (by simp [same])]
  · rw [if_neg same, if_neg (by simpa using Ne.symm same)]

/-! ## The invariant -/

namespace RestSide

/-- The REST side is accounted for. -/
structure Sound (env : Env) (side : RestSide) : Prop where
  below : ∀ dispatch record, side.restDispatches.get dispatch = some record →
    dispatch < side.nextRef
  /-- A registered id is one of the ids of its dispatch, and these are all registered. -/
  owned : ∀ requestId dispatch, side.pendingByCorrelationId.get requestId = some dispatch →
    ∃ record, side.restDispatches.get dispatch = some record ∧
      requestId ∈ record.correlationIds ∧
      ∀ other ∈ record.correlationIds, side.pendingByCorrelationId.get other = some dispatch
  counted : side.logicalPendingCount = side.pendingByCorrelationId.distinctValues
  capped : side.logicalPendingCount ≤ env.socketRestMaxPendingRequests
  fit : ∀ dispatch record, side.restDispatches.get dispatch = some record → record.Fit
  told : ∀ dispatch record, side.restDispatches.get dispatch = some record →
    settledTimes side.marks dispatch = record.pendingSettled.toNat ∧
      releasedTimes side.marks dispatch = record.slotReleased.toNat
  untold : ∀ dispatch, side.restDispatches.get dispatch = none →
    settledTimes side.marks dispatch ≤ 1 ∧ releasedTimes side.marks dispatch = 0 ∧
      (side.nextRef ≤ dispatch → settledTimes side.marks dispatch = 0)
  slots : side.restQueue.agentInflightById.Tallies side.restDispatches holding
    fun _ => 0
  waiters : side.restQueue.agentQueueById.Projects side.restDispatches RestDispatch.waiting

variable {env : Env} {side : RestSide}

section

variable (sound : side.Sound env)

include sound

theorem Sound.fresh : side.restDispatches.get side.nextRef = none := by
  cases found : side.restDispatches.get side.nextRef with
  | none => rfl
  | some record => exact absurd (sound.below side.nextRef record found) (Nat.lt_irrefl _)

theorem Sound.advance {next : Nat} (more : side.nextRef ≤ next) :
    Sound env { side with nextRef := next } :=
  { sound with
    below := fun dispatch record found =>
      Nat.lt_of_lt_of_le (sound.below dispatch record found) more
    untold := fun dispatch absent => by
      obtain ⟨settled, released, later⟩ := sound.untold dispatch absent
      exact ⟨settled, released, fun beyond => later (Nat.le_trans more beyond)⟩ }

/-- A stored dispatch changes, and what was told about it with it. -/
theorem Sound.modify {dispatch : Nat} {record : RestDispatch}
    (found : side.restDispatches.get dispatch = some record)
    (change : RestDispatch → RestDispatch) {marks : List Emission}
    {queue : AgentDispatchQueue Nat} (ids : (change record).correlationIds = record.correlationIds)
    (fit : (change record).Fit)
    (told : settledTimes marks dispatch = (change record).pendingSettled.toNat ∧
      releasedTimes marks dispatch = (change record).slotReleased.toNat)
    (others : ∀ other, other ≠ dispatch →
      settledTimes marks other = settledTimes side.marks other ∧
        releasedTimes marks other = releasedTimes side.marks other)
    (slots : queue.agentInflightById.Tallies (side.restDispatches.modify dispatch change)
      holding fun _ => 0)
    (waiters : queue.agentQueueById.Projects (side.restDispatches.modify dispatch change)
      RestDispatch.waiting) :
    Sound env { side.update dispatch change with marks := marks, restQueue := queue } := by
  have read : ∀ other, (side.restDispatches.modify dispatch change).get other =
      if other = dispatch then some (change record) else side.restDispatches.get other := by
    intro other
    rw [get_modify]
    by_cases same : other = dispatch
    · rw [if_pos same, if_pos same, found, Option.map_some]
    · rw [if_neg same, if_neg same]
  refine
    { below := fun other stored present => ?_
      owned := fun requestId owner registered => ?_
      counted := sound.counted
      capped := sound.capped
      fit := fun other stored present => ?_
      told := fun other stored present => ?_
      untold := fun other absent => ?_
      slots := slots
      waiters := waiters }
  · replace present := (read other).symm.trans present
    by_cases same : other = dispatch
    · exact same ▸ sound.below dispatch record found
    · rw [if_neg same] at present
      exact sound.below other stored present
  · obtain ⟨stored, present, member⟩ := sound.owned requestId owner registered
    by_cases same : owner = dispatch
    · subst same
      obtain rfl : record = stored := Option.some.inj (found.symm.trans present)
      exact ⟨change record, (read owner).trans (if_pos rfl), by rwa [ids]⟩
    · exact ⟨stored, (read owner).trans ((if_neg same).trans present), member⟩
  · replace present := (read other).symm.trans present
    by_cases same : other = dispatch
    · rw [if_pos same] at present
      cases present
      exact fit
    · rw [if_neg same] at present
      exact sound.fit other stored present
  · replace present := (read other).symm.trans present
    by_cases same : other = dispatch
    · rw [if_pos same] at present
      cases present
      exact same ▸ told
    · rw [if_neg same] at present
      obtain ⟨settled, released⟩ := others other same
      rw [settled, released]
      exact sound.told other stored present
  · replace absent := (read other).symm.trans absent
    by_cases same : other = dispatch
    · rw [if_pos same] at absent
      cases absent
    · rw [if_neg same] at absent
      obtain ⟨settled, released⟩ := others other same
      rw [settled, released]
      exact sound.untold other absent

/-! ## Every change keeps it -/

theorem Sound.adjust {dispatch : Nat} {change : RestDispatch → RestDispatch}
    (kept : ∀ record, side.restDispatches.get dispatch = some record →
      record.Keeps (change record)) : Sound env (side.update dispatch change) := by
  cases found : side.restDispatches.get dispatch with
  | none =>
    have same : side.update dispatch change = side := by
      simp only [update, OrderedMap.modify, found]
    rw [same]
    exact sound
  | some record =>
    have keeps := kept record found
    have told := sound.told dispatch record found
    refine sound.modify found change keeps.correlationIds ((sound.fit dispatch record found).keeps
      keeps) ?_ (fun _ _ => ⟨rfl, rfl⟩)
        (sound.slots.modify dispatch change fun stored present => ?_)
      (sound.waiters.modify dispatch change fun stored present => ?_)
    · rw [keeps.pendingSettled, keeps.slotReleased]
      exact told
    · exact holding_keeps (kept stored present)
    · exact waiting_keeps (kept stored present)

theorem Sound.settle {dispatch : Nat} {record : RestDispatch}
    {outcome : Emission} (found : side.restDispatches.get dispatch = some record)
    (unsettled : record.pendingSettled = false) (own : outcome.settles = some dispatch) :
    Sound env { side.update dispatch ({ · with pendingSettled := true }) with
      marks := outcome :: side.marks } := by
  obtain ⟨settled, released⟩ := sound.told dispatch record found
  have fit := sound.fit dispatch record found
  refine sound.modify found ({ · with pendingSettled := true }) rfl
    ⟨fit.granted, fit.returned, fit.waits, fit.refused⟩ ⟨?_, ?_⟩ (fun other different => ⟨?_, ?_⟩)
    (sound.slots.modify dispatch _ fun _ _ => rfl) (sound.waiters.modify dispatch _ fun _ _ => rfl)
  · rw [settledTimes_settle own, settled, unsettled, if_pos rfl]
    rfl
  · rw [releasedTimes_settle own, released]
  · rw [settledTimes_settle own, if_neg different, Nat.add_zero]
  · rw [releasedTimes_settle own]

theorem Sound.refuse {outcome : Emission} (own : outcome.settles = some side.nextRef) :
    Sound env { side with nextRef := side.nextRef + 1, marks := outcome :: side.marks } := by
  refine
    { sound with
      below := fun dispatch record found =>
        Nat.lt_succ_of_lt (sound.below dispatch record found)
      told := fun dispatch record found => ?_
      untold := fun dispatch absent => ?_ }
  · have earlier : dispatch ≠ side.nextRef := Nat.ne_of_lt (sound.below dispatch record found)
    rw [settledTimes_settle own, releasedTimes_settle own, if_neg earlier, Nat.add_zero]
    exact sound.told dispatch record found
  · obtain ⟨settled, released, later⟩ := sound.untold dispatch absent
    rw [settledTimes_settle own, releasedTimes_settle own]
    by_cases same : dispatch = side.nextRef
    · have none := later (Nat.le_of_eq same.symm)
      rw [if_pos same]
      refine ⟨by omega, released, fun beyond => ?_⟩
      have above : side.nextRef + 1 ≤ dispatch := beyond
      omega
    · rw [if_neg same]
      refine ⟨by omega, released, fun beyond => ?_⟩
      have above : side.nextRef + 1 ≤ dispatch := beyond
      have none := later (by omega)
      omega

end

theorem mem_owned {dispatch : Nat} {record : RestDispatch} (sound : side.Sound env)
    (found : side.restDispatches.get dispatch = some record) (requestId : RequestId) :
    requestId ∈ side.owned dispatch record.correlationIds ↔
      side.pendingByCorrelationId.get requestId = some dispatch := by
  unfold owned
  rw [List.mem_filter, decide_eq_true_eq]
  refine ⟨And.right, fun registered => ⟨?_, registered⟩⟩
  obtain ⟨stored, present, member, -⟩ := sound.owned requestId dispatch registered
  obtain rfl : record = stored := Option.some.inj (found.symm.trans present)
  exact member

theorem get_clear {dispatch : Nat} {record : RestDispatch} (sound : side.Sound env)
    (found : side.restDispatches.get dispatch = some record) (requestId : RequestId) :
    (side.clear dispatch record.correlationIds).pendingByCorrelationId.get requestId =
      if side.pendingByCorrelationId.get requestId = some dispatch then none
      else side.pendingByCorrelationId.get requestId := by
  unfold clear
  simp only [get_foldl_erase, mem_owned sound found]

section

variable (sound : side.Sound env)

include sound

variable {record : RestDispatch} {queue : AgentDispatchQueue Nat}

variable {dispatch : Nat}

theorem Sound.clear (found : side.restDispatches.get dispatch = some record) :
    Sound env (side.clear dispatch record.correlationIds) := by
  have read := get_clear sound found
  have counted : (side.clear dispatch record.correlationIds).logicalPendingCount =
      (side.clear dispatch record.correlationIds).pendingByCorrelationId.distinctValues := by
    by_cases empty : side.owned dispatch record.correlationIds = []
    · have same : side.clear dispatch record.correlationIds = side := by
        simp only [RestSide.clear, empty, List.foldl_nil, List.isEmpty_nil, if_true]
      rw [same]
      exact sound.counted
    · obtain ⟨named, listed⟩ := List.exists_mem_of_ne_nil _ empty
      have registered := (mem_owned sound found named).mp listed
      have fewer : side.pendingByCorrelationId.distinctValues =
          (side.clear dispatch record.correlationIds).pendingByCorrelationId.distinctValues + 1 := by
        refine distinctValues_of_more dispatch (fun requestId left => ?_)
          fun other => ?_
        · rw [read] at left
          split at left
          · cases left
          · next different => exact different left
        · constructor
          · rintro ⟨requestId, present⟩
            by_cases same : other = dispatch
            · exact Or.inl same
            · refine Or.inr ⟨requestId, ?_⟩
              rw [read, if_neg (by rw [present]; simpa using same)]
              exact present
          · rintro (rfl | ⟨requestId, left⟩)
            · exact ⟨named, registered⟩
            · rw [read] at left
              split at left
              · cases left
              · exact ⟨requestId, left⟩
      have less : (side.clear dispatch record.correlationIds).logicalPendingCount =
          side.logicalPendingCount - 1 := by
        simp only [RestSide.clear, List.isEmpty_iff, empty, if_false]
      have total := sound.counted
      omega
  refine
    { sound with
      owned := fun requestId owner left => ?_
      counted := counted
      capped := Nat.le_trans ?_ sound.capped }
  · rw [read] at left
    split at left
    · cases left
    · next different =>
      rw [left] at different
      obtain ⟨stored, present, member, whole⟩ := sound.owned requestId owner left
      refine ⟨stored, present, member, fun other listed => ?_⟩
      rw [read, whole other listed, if_neg different]
  · simp only [RestSide.clear]
    split
    · exact Nat.le_refl _
    · exact Nat.sub_le _ _

theorem Sound.register (found : side.restDispatches.get dispatch = some record)
    (unregistered : ∀ requestId, side.pendingByCorrelationId.get requestId ≠ some dispatch)
    (some : record.correlationIds ≠ [])
    (free : ∀ requestId ∈ record.correlationIds, side.pendingByCorrelationId.get requestId = none)
    (below : side.logicalPendingCount < env.socketRestMaxPendingRequests) :
    Sound env (side.register dispatch record.correlationIds) := by
  have read : ∀ requestId,
      (side.register dispatch record.correlationIds).pendingByCorrelationId.get requestId =
        if requestId ∈ record.correlationIds then Option.some dispatch
        else side.pendingByCorrelationId.get requestId :=
    get_foldl_set _ _ _
  have more : (side.register dispatch record.correlationIds).pendingByCorrelationId.distinctValues =
      side.pendingByCorrelationId.distinctValues + 1 := by
    refine distinctValues_of_more dispatch unregistered fun other => ?_
    constructor
    · rintro ⟨requestId, present⟩
      rw [read] at present
      split at present
      · exact Or.inl (Option.some.inj present).symm
      · exact Or.inr ⟨requestId, present⟩
    · rintro (rfl | ⟨requestId, present⟩)
      · obtain ⟨named, member⟩ := List.exists_mem_of_ne_nil _ some
        exact ⟨named, (read named).trans (if_pos member)⟩
      · refine ⟨requestId, (read requestId).trans ((if_neg fun member => ?_).trans present)⟩
        rw [free requestId member] at present
        cases present
  refine
    { sound with
      owned := fun requestId owner registered => ?_
      counted := ?_
      capped := below }
  · rw [read] at registered
    split at registered
    · next member =>
      cases registered
      exact ⟨record, found, member, fun other listed => (read other).trans (if_pos listed)⟩
    · obtain ⟨stored, present, member, whole⟩ := sound.owned requestId owner registered
      refine ⟨stored, present, member, fun other listed => ?_⟩
      have earlier := whole other listed
      rw [read, if_neg fun taken => ?_, earlier]
      rw [free other taken] at earlier
      cases earlier
  · have total := sound.counted
    rw [more, ← total]
    rfl

theorem Sound.acquired (unreleased : record.slotReleased = false)
    (acquires : record.Acquires side.restQueue side.nextRef queue) :
    record.Fit ∧
      queue.agentInflightById.Tallies (side.restDispatches.set side.nextRef record)
        holding (fun _ => 0) ∧
      queue.agentQueueById.Projects (side.restDispatches.set side.nextRef record)
        RestDispatch.waiting := by
  have fresh := sound.fresh
  have kept : record.slotReleased = true → record.slot.isSome = true := by
    rw [unreleased]
    exact nofun
  cases acquires with
  | uncounted place holds point =>
    refine ⟨⟨kept, ?_, ?_, ?_⟩, sound.slots.insert_unkeyed fresh ?_,
      sound.waiters.insert_unkeyed fresh ?_⟩
    · simp [point]
    · simp [point]
    · simp [point]
    · simp [holding, holds, place]
    · simp [RestDispatch.waiting, point]
  | granted holds point =>
    refine ⟨⟨kept, ?_, ?_, ?_⟩, sound.slots.insert fresh ?_,
      sound.waiters.insert_unkeyed fresh ?_⟩
    · simp [point]
    · simp [point]
    · simp [point]
    · simp [holding, holds, unreleased]
    · simp [RestDispatch.waiting, point]
  | queued holds point =>
    refine ⟨⟨kept, ?_, fun _ => holds, fun _ => holds⟩, sound.slots.insert_unkeyed fresh ?_,
      sound.waiters.insert fresh ?_⟩
    · simp [point]
    · simp [holding, holds]
    · simp [RestDispatch.waiting, point]
  | refused holds point =>
    refine ⟨⟨kept, ?_, fun _ => holds, fun _ => holds⟩, sound.slots.insert_unkeyed fresh ?_,
      sound.waiters.insert_unkeyed fresh ?_⟩
    · simp [point]
    · simp [holding, holds]
    · simp [RestDispatch.waiting, point]

theorem Sound.enter (unsettled : record.pendingSettled = false)
    (unreleased : record.slotReleased = false)
    (acquires : record.Acquires side.restQueue side.nextRef queue) :
    Sound env (side.enter record queue) := by
  obtain ⟨fit, slots, waiters⟩ := sound.acquired unreleased acquires
  obtain ⟨-, released, settled⟩ := sound.untold side.nextRef sound.fresh
  refine
    { below := forall_set (Nat.lt_succ_self _) fun dispatch stored before =>
        Nat.lt_succ_of_lt (sound.below dispatch stored before)
      owned := fun requestId owner registered => ?_
      counted := sound.counted
      capped := sound.capped
      fit := forall_set fit sound.fit
      told := forall_set ?_ sound.told
      untold := fun dispatch absent => ?_
      slots := slots
      waiters := waiters }
  · obtain ⟨stored, present, member⟩ := sound.owned requestId owner registered
    have earlier : owner ≠ side.nextRef := Nat.ne_of_lt (sound.below owner stored present)
    exact ⟨stored, (get_set_of_ne _ _ earlier).trans present, member⟩
  · rw [unsettled, unreleased]
    exact ⟨settled (Nat.le_refl _), released⟩
  · have later : dispatch ≠ side.nextRef := by
      rintro rfl
      cases (get_set_self side.restDispatches side.nextRef record).symm.trans absent
    have before : side.restDispatches.get dispatch = none :=
      (get_set_of_ne _ _ later).symm.trans absent
    obtain ⟨once, unreleased, beyond⟩ := sound.untold dispatch before
    exact ⟨once, unreleased, fun above => beyond (Nat.le_of_succ_le above)⟩

theorem Sound.enterRegistered (unsettled : record.pendingSettled = false)
    (unreleased : record.slotReleased = false)
    (acquires : record.Acquires side.restQueue side.nextRef queue)
    (some : record.correlationIds ≠ [])
    (free : ∀ requestId ∈ record.correlationIds, side.pendingByCorrelationId.get requestId = none)
    (below : side.logicalPendingCount < env.socketRestMaxPendingRequests) :
    Sound env ((side.register side.nextRef record.correlationIds).enter record queue) := by
  have entered := sound.enter unsettled unreleased acquires
  refine entered.register (get_set_self _ _ _) (fun requestId registered => ?_) some free
    below
  obtain ⟨stored, present, -⟩ := sound.owned requestId side.nextRef registered
  rw [sound.fresh] at present
  cases present

theorem Sound.leave {change : RestDispatch → RestDispatch}
    (found : side.restDispatches.get dispatch = some record)
    (waiting : record.point = .waitingSlot) (agentId : (change record).agentId = record.agentId)
    (correlationIds : (change record).correlationIds = record.correlationIds)
    (pendingSettled : (change record).pendingSettled = record.pendingSettled)
    (slot : (change record).slot = record.slot)
    (slotReleased : (change record).slotReleased = record.slotReleased)
    (point : (change record).point = .slotRefused) :
    Sound env { side.update dispatch change with
      restQueue := side.restQueue.removeQueuedWaiter record.agentId dispatch } := by
  have fit := sound.fit dispatch record found
  have free : (change record).slot = none := slot.trans (fit.waits waiting)
  refine sound.modify found change correlationIds ⟨?_, ?_, fun _ => free, fun _ => free⟩ ?_
    (fun _ _ => ⟨rfl, rfl⟩) (sound.slots.modify dispatch change fun stored present => ?_)
    (sound.waiters.lose change found ?_ ?_)
  · rw [slot, slotReleased]
    exact fit.granted
  · exact fun _ => Or.inl free
  · rw [pendingSettled, slotReleased]
    exact sound.told dispatch record found
  · obtain rfl : record = stored := Option.some.inj (found.symm.trans present)
    simp only [holding, slot, slotReleased, agentId]
  · simp only [RestDispatch.waiting, waiting, if_true]
  · simp [RestDispatch.waiting, point]

theorem Sound.told_released (found : side.restDispatches.get dispatch = some record)
    (unreleased : record.slotReleased = false) :
    settledTimes (.restSlotReleased dispatch :: side.marks) dispatch =
        record.pendingSettled.toNat ∧
      releasedTimes (.restSlotReleased dispatch :: side.marks) dispatch = true.toNat := by
  obtain ⟨settled, released⟩ := sound.told dispatch record found
  rw [settledTimes_release, releasedTimes_release, settled, released, unreleased, if_pos rfl]
  exact ⟨rfl, rfl⟩

end

variable {dispatch : Nat}

theorem told_others (marks : List Emission) {other : Nat} (different : other ≠ dispatch) :
    settledTimes (.restSlotReleased dispatch :: marks) other = settledTimes marks other ∧
      releasedTimes (.restSlotReleased dispatch :: marks) other = releasedTimes marks other := by
  rw [settledTimes_release, releasedTimes_release, if_neg different]
  exact ⟨rfl, rfl⟩

variable {record : RestDispatch}

section

variable (sound : side.Sound env)

include sound

theorem Sound.fit_released
    (found : side.restDispatches.get dispatch = some record) (holds : record.slot.isSome = true) :
    { record with slotReleased := true }.Fit := by
  have fit := sound.fit dispatch record found
  exact ⟨fun _ => holds, fun _ => Or.inr rfl, fit.waits, fit.refused⟩

theorem Sound.vacate
    {slot : AgentSlot} (found : side.restDispatches.get dispatch = some record)
    (holds : record.slot = some slot) (place : slot ≠ .control)
    (unreleased : record.slotReleased = false) : Sound env (side.markReleased dispatch) := by
  have told := sound.told_released found unreleased
  refine sound.modify found ({ · with slotReleased := true }) rfl
    (sound.fit_released found (by simp [holds])) told
    (fun other different => told_others side.marks different)
    (sound.slots.modify dispatch _ fun stored present => ?_)
    (sound.waiters.modify dispatch _ fun _ _ => rfl)
  obtain rfl : record = stored := Option.some.inj (found.symm.trans present)
  simp [holding, holds, place]

theorem Sound.grant {agentId : AgentId} {waiter : Nat}
    (listed : waiter ∈ side.restQueue.agentQueueById.members agentId) :
    Sound env ({ side with
      restQueue :=
        { agentInflightById := side.restQueue.agentInflightById.increment agentId
          agentQueueById :=
            side.restQueue.agentQueueById.removeFromIndex agentId waiter } }.grant waiter) := by
  obtain ⟨record, found, waits⟩ := (sound.waiters agentId waiter).mp listed
  have waiting : record.point = .waitingSlot := by
    unfold RestDispatch.waiting at waits
    split at waits
    · assumption
    · cases waits
  have agent : record.agentId = agentId := by
    rw [RestDispatch.waiting, if_pos waiting] at waits
    exact Option.some.inj waits
  have fit := sound.fit waiter record found
  have free := fit.waits waiting
  have unreleased : record.slotReleased = false := by
    cases released : record.slotReleased with
    | false => rfl
    | true =>
      have granted := fit.granted released
      rw [free] at granted
      cases granted
  have told := sound.told waiter record found
  unfold RestSide.grant
  refine sound.modify found _ ?_ ?_ ?_ (fun _ _ => ⟨rfl, rfl⟩) (sound.slots.gain _ found ?_ ?_)
    (sound.waiters.lose _ found waits ?_)
  · simp only [waiting]
  · simp only [waiting]
    refine ⟨fun _ => rfl, ?_, ?_, ?_⟩
    all_goals
      intro refuted
      cases refuted
  · simp only [waiting]
    exact told
  · simp [holding, free]
  · simp only [waiting]
    simp [holding, unreleased, agent]
  · simp only [waiting]
    simp [RestDispatch.waiting]

theorem Sound.release
    (found : side.restDispatches.get dispatch = some record)
    (holds : record.slot = some .control) (unreleased : record.slotReleased = false) :
    Sound env ((side.markReleased dispatch).handOn env record.agentId) := by
  have told := sound.told_released found unreleased
  have given : Sound env { side.markReleased dispatch with
      restQueue := { side.restQueue with
        agentInflightById := side.restQueue.agentInflightById.decrement record.agentId } } := by
    refine sound.modify found ({ · with slotReleased := true }) rfl
      (sound.fit_released found (by simp [holds])) told
      (fun other different => told_others side.marks different)
      (sound.slots.lose _ found ?_ ?_) (sound.waiters.modify dispatch _ fun _ _ => rfl)
    · simp [holding, holds, unreleased]
    · simp [holding]
  unfold handOn AgentDispatchQueue.releaseAgentDispatchSlot AgentDispatchQueue.drainAgentQueue
  by_cases full : (restDispatchLimits env).maxInflight = 0 ∨ (restDispatchLimits env).maxInflight ≤
      Counter.read (side.restQueue.agentInflightById.decrement record.agentId) record.agentId
  · have shown : (restDispatchLimits env).maxInflight = 0 ∨ (restDispatchLimits env).maxInflight ≤
        Counter.read ((side.markReleased dispatch).restQueue.agentInflightById.decrement
          record.agentId) record.agentId := full
    simp only [shown, if_true]
    exact given
  · have shown : ¬((restDispatchLimits env).maxInflight = 0 ∨
        (restDispatchLimits env).maxInflight ≤
          Counter.read ((side.markReleased dispatch).restQueue.agentInflightById.decrement
            record.agentId) record.agentId) := full
    simp only [shown, if_false]
    cases queued : (side.markReleased dispatch).restQueue.agentQueueById.members record.agentId with
    | nil =>
      simp only
      exact given
    | cons next rest =>
      simp only
      have listed : next ∈ (side.markReleased dispatch).restQueue.agentQueueById.members
          record.agentId := queued ▸ List.mem_cons_self
      exact given.grant listed

theorem Sound.change {after : RestSide}
    (change : RestChange env side after) : after.Sound env := by
  cases change with
  | advance more => exact sound.advance more
  | adjust kept => exact sound.adjust kept
  | settle found unsettled own => exact sound.settle found unsettled own
  | refuse own => exact sound.refuse own
  | clear found => exact sound.clear found
  | notify unsettled unreleased acquires => exact sound.enter unsettled unreleased acquires
  | enter unsettled unreleased acquires some free below =>
    exact sound.enterRegistered unsettled unreleased acquires some free below
  | leave found waiting agentId correlationIds pendingSettled slot slotReleased point =>
    exact sound.leave found waiting agentId correlationIds pendingSettled slot slotReleased point
  | vacate found holds place unreleased => exact sound.vacate found holds place unreleased
  | release found holds unreleased => exact sound.release found holds unreleased

end

theorem Sound.start (env : Env) : start.restSide.Sound env where
  below := by
    intro dispatch record found
    cases found
  owned := by
    intro requestId dispatch registered
    cases registered
  counted := rfl
  capped := Nat.zero_le _
  fit := by
    intro dispatch record found
    cases found
  told := by
    intro dispatch record found
    cases found
  untold := fun _ _ => ⟨Nat.zero_le _, rfl, fun _ => rfl⟩
  slots := .empty
  waiters := .empty

theorem Sound.changes {before after : RestSide} (sound : before.Sound env)
    (changes : Relation.ReflTransGen (RestChange env) before after) : after.Sound env := by
  induction changes with
  | refl => exact sound
  | tail _ change ih => exact ih.change change

end RestSide

/-! ## Whole runs -/

/-- The REST side is sound in every reachable state. -/
theorem restSound_reached (env : Env) (actions : List Action) :
    (reached env actions).restSide.Sound env := by
  have keeps : ∀ (hub : Hub) (action : Action), Accounted env hub ∧ hub.restSide.Sound env →
      Accounted env (step env hub action) ∧ (step env hub action).restSide.Sound env := by
    rintro hub action ⟨accounted, sound⟩
    have moves := step_moves env accounted.streams accounted.named action
    exact ⟨accounted.after action, sound.changes moves.rest⟩
  have initially : Accounted env start ∧ start.restSide.Sound env := ⟨.start env, .start env⟩
  exact (run_invariant (step env) keeps initially actions).2

theorem settledTimes_restSide (hub : Hub) (dispatch : Nat) :
    settledTimes hub.restSide.marks dispatch = settledTimes hub.emissions dispatch := by
  unfold settledTimes Hub.restSide
  rw [List.countP_filter]
  congr 1
  funext emission
  cases emission <;> simp [Emission.settles, Emission.isRestMark]

theorem releasedTimes_restSide (hub : Hub) (dispatch : Nat) :
    releasedTimes hub.restSide.marks dispatch = releasedTimes hub.emissions dispatch := by
  unfold releasedTimes Hub.restSide
  rw [List.countP_filter]
  congr 1
  funext emission
  cases emission <;> simp [Emission.isRestMark]

theorem registers_all_or_nothing (env : Env) (hub : Hub) (input : CommandInput) :
    ((∀ requestId, (hub.dispatchRpcCommandToAgent env input).pendingByCorrelationId.get requestId =
        if requestId ∈ input.correlationIds then some hub.nextRef
        else hub.pendingByCorrelationId.get requestId) ∧
      (hub.dispatchRpcCommandToAgent env input).logicalPendingCount =
        hub.logicalPendingCount + 1) ∨
      (hub.dispatchRpcCommandToAgent env input).pendingByCorrelationId =
          hub.pendingByCorrelationId ∧
        (hub.dispatchRpcCommandToAgent env input).logicalPendingCount =
          hub.logicalPendingCount := by
  have suspended : ∀ (named : Hub) dispatch registered,
      (named.suspendRestAtSlot env dispatch input registered).pendingByCorrelationId =
          named.pendingByCorrelationId ∧
        (named.suspendRestAtSlot env dispatch input registered).logicalPendingCount =
          named.logicalPendingCount := by
    intro named dispatch registered
    have side := RestMoves.restSide_suspendRestAtSlot env named dispatch input registered
    exact ⟨congrArg RestSide.pendingByCorrelationId side,
      congrArg RestSide.logicalPendingCount side⟩
  unfold Hub.dispatchRpcCommandToAgent
  split
  · exact Or.inr ⟨rfl, rfl⟩
  · split
    · exact Or.inr ⟨rfl, rfl⟩
    · simp only
      split
      · exact Or.inr (suspended _ _ _)
      · split
        · exact Or.inr ⟨rfl, rfl⟩
        · split
          · refine Or.inl ⟨fun requestId => ?_, ?_⟩
            · rw [(suspended _ _ _).1]
              exact get_foldl_set _ _ _ _
            · rw [(suspended _ _ _).2]
          · exact Or.inr ⟨rfl, rfl⟩

/-- The pending registry, the promises and the slots of REST requests are in order. -/
structure RestInOrder (env : Env) (hub : Hub) : Prop where
  /-- The counter counts requests, not their ids. -/
  counted : hub.logicalPendingCount = hub.pendingByCorrelationId.distinctValues
  capped : hub.logicalPendingCount ≤ env.socketRestMaxPendingRequests
  /-- A command maps all of its ids to its new request, or the registry is as before. -/
  registers : ∀ input : CommandInput,
    ((∀ requestId, (hub.dispatchRpcCommandToAgent env input).pendingByCorrelationId.get requestId =
        if requestId ∈ input.correlationIds then some hub.nextRef
        else hub.pendingByCorrelationId.get requestId) ∧
      (hub.dispatchRpcCommandToAgent env input).logicalPendingCount =
        hub.logicalPendingCount + 1) ∨
      (hub.dispatchRpcCommandToAgent env input).pendingByCorrelationId =
          hub.pendingByCorrelationId ∧
        (hub.dispatchRpcCommandToAgent env input).logicalPendingCount = hub.logicalPendingCount
  /-- A registered request is registered under its own ids and under all of them. -/
  whole : ∀ requestId dispatch, hub.pendingByCorrelationId.get requestId = some dispatch →
    ∃ record, hub.restDispatches.get dispatch = some record ∧
      requestId ∈ record.correlationIds ∧
      ∀ other ∈ record.correlationIds, hub.pendingByCorrelationId.get other = some dispatch
  /-- Removing a request removes the ids that are registered for it and no other. -/
  removes : ∀ dispatch record, hub.restDispatches.get dispatch = some record → ∀ requestId,
    (hub.clearRestPendingRequest dispatch record).pendingByCorrelationId.get requestId =
      if hub.pendingByCorrelationId.get requestId = some dispatch then none
      else hub.pendingByCorrelationId.get requestId
  /-- A promise settles at most once. -/
  settledOnce : ∀ dispatch, settledTimes hub.emissions dispatch ≤ 1
  /-- A slot is given back at most once. -/
  releasedOnce : ∀ dispatch, releasedTimes hub.emissions dispatch ≤ 1
  /-- The slot of a dispatch that returned was given back once, when it had one. -/
  returned : ∀ dispatch record, hub.restDispatches.get dispatch = some record →
    record.point = .done →
      releasedTimes hub.emissions dispatch = if record.slot.isSome then 1 else 0
  /-- The slots in use are those that dispatches hold and did not give back. -/
  slots : ∀ agentId, hub.restQueue.agentInflightById.read agentId =
    hub.restDispatches.withKey holding agentId

/-- In every reached state the pending registry, the promises and the slots of REST requests are
in order. -/
theorem rest_requests_in_order (env : Env) (actions : List Action) :
    RestInOrder env (reached env actions) := by
  have sound := restSound_reached env actions
  refine
    { counted := sound.counted
      capped := sound.capped
      registers := registers_all_or_nothing env _
      whole := sound.owned
      removes := fun dispatch record found requestId => ?_
      settledOnce := fun dispatch => ?_
      releasedOnce := fun dispatch => ?_
      returned := fun dispatch record found returned => ?_
      slots := sound.slots }
  · exact RestSide.get_clear sound found requestId
  · rw [← settledTimes_restSide]
    cases found : (reached env actions).restDispatches.get dispatch with
    | none => exact (sound.untold dispatch found).1
    | some record =>
      rw [(sound.told dispatch record found).1]
      exact Bool.toNat_le _
  · rw [← releasedTimes_restSide]
    cases found : (reached env actions).restDispatches.get dispatch with
    | none => exact (sound.untold dispatch found).2.1 ▸ Nat.zero_le 1
    | some record =>
      rw [(sound.told dispatch record found).2]
      exact Bool.toNat_le _
  · rw [← releasedTimes_restSide, (sound.told dispatch record found).2]
    have fit := sound.fit dispatch record found
    rcases fit.returned returned with free | released
    · have unreleased : record.slotReleased = false := by
        cases released : record.slotReleased with
        | false => rfl
        | true =>
          have granted := fit.granted released
          rw [free] at granted
          cases granted
      rw [unreleased, free]
      rfl
    · rw [released, if_pos (fit.granted released)]
      rfl

end PlugHub.Bridge
