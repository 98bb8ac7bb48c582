import PlugHub.Library.Accounting
import PlugHub.Library.Runs
import PlugHub.Relay.DispatchSlots

/-!
# Dispatch slots in order

What holds of a slot queue after any sequence of acquire calls, releases, timers, aborts and
resets: the slots in use are those whose release functions can still be called, calls wait
only while no slot is free, and nobody is overtaken, settled twice or forgotten.
-/

namespace PlugHub.Relay.DispatchSlots

open Library
open OrderedMap (get_modify get_set)

/-! ## The waiters -/

/-- The agent a waiter is queued for. -/
def SlotWaiter.queuedFor (waiter : SlotWaiter) : Option AgentId :=
  if waiter.settled then none else some waiter.agentId

/-- How often the promise of a call was settled. -/
def settledTimes (settlements : List Settlement) (call : Nat) : Nat :=
  settlements.countP (·.call = call)

/-- Whoever was granted a slot had let every earlier waiter of the agent go first. -/
def FirstCome (waiters : OrderedMap Nat SlotWaiter) : List Settlement → Prop
  | [] => True
  | latest :: earlier =>
    (latest.outcome = .granted → ∀ call waiter, waiters.get call = some waiter →
      waiter.agentId = latest.agentId → call < latest.call → settledTimes earlier call = 1) ∧
    FirstCome waiters earlier

/-- The waiters, the wait queues and the settled promises fit together. -/
structure Lines (limits : DispatchLimits) (index : Index AgentId Nat)
    (waiters : OrderedMap Nat SlotWaiter) (nextCall : Nat) (settlements : List Settlement) :
    Prop where
  waiting : index.Projects waiters SlotWaiter.queuedFor
  order : ∀ agentId, (index.members agentId).Pairwise (· < ·)
  capped : ∀ agentId, 0 < limits.maxQueue → (index.members agentId).length ≤ limits.maxQueue
  numbered : ∀ call waiter, waiters.get call = some waiter → call < nextCall
  /-- The timer of a waiter is armed until it is settled, and nothing listens after. -/
  armed : ∀ call waiter, waiters.get call = some waiter →
    waiter.timeoutArmed = !waiter.settled ∧ (waiter.settled = true → waiter.listening = false)
  once : ∀ call, call < nextCall →
    (∀ waiter, waiters.get call = some waiter → waiter.settled = true) →
      settledTimes settlements call = 1
  pending : ∀ call, (nextCall ≤ call ∨ ∃ waiter, waiters.get call = some waiter ∧
    waiter.settled = false) → settledTimes settlements call = 0
  past : ∀ settled ∈ settlements, settled.call < nextCall
  fair : FirstCome waiters settlements

theorem settledTimes_cons (latest : Settlement) (earlier : List Settlement) (call : Nat) :
    settledTimes (latest :: earlier) call =
      settledTimes earlier call + if latest.call = call then 1 else 0 := by
  simp only [settledTimes, List.countP_cons, decide_eq_true_eq]

theorem FirstCome.like {waiters later : OrderedMap Nat SlotWaiter} {settlements : List Settlement}
    (fair : FirstCome waiters settlements)
    (kept : ∀ settled ∈ settlements, ∀ call waiter, later.get call = some waiter →
      call < settled.call → ∃ earlier, waiters.get call = some earlier ∧
        earlier.agentId = waiter.agentId) : FirstCome later settlements := by
  induction settlements with
  | nil => trivial
  | cons latest earlier ih =>
    refine ⟨fun granted call waiter found same before => ?_, ih fair.2 fun settled member => ?_⟩
    · obtain ⟨stored, foundStored, agent⟩ := kept latest List.mem_cons_self call waiter found before
      exact fair.1 granted call stored foundStored (agent.trans same) before
    · exact kept settled (List.mem_cons_of_mem _ member)

namespace Lines

variable {limits : DispatchLimits} {index : Index AgentId Nat}
  {waiters : OrderedMap Nat SlotWaiter} {nextCall : Nat} {settlements : List Settlement}

section

variable (lines : Lines limits index waiters nextCall settlements)

include lines

theorem mem_iff (agentId : AgentId) (call : Nat) : call ∈ index.members agentId ↔
      ∃ waiter, waiters.get call = some waiter ∧ waiter.settled = false ∧
        waiter.agentId = agentId := by
  rw [lines.waiting agentId call]
  refine exists_congr fun waiter => and_congr_right fun _ => ?_
  unfold SlotWaiter.queuedFor
  cases waiter.settled <;> simp

theorem settleNew (agentId : AgentId)
    (outcome : SlotOutcome) (free : outcome = .granted → index.members agentId = []) :
    Lines limits index waiters (nextCall + 1) (⟨nextCall, agentId, outcome⟩ :: settlements) :=
  { lines with
    numbered := fun call waiter found => Nat.lt_succ_of_lt (lines.numbered call waiter found)
    once := by
      intro call before settled
      rw [settledTimes_cons]
      by_cases own : nextCall = call
      · rw [if_pos own, lines.pending call (Or.inl (Nat.le_of_eq own))]
      · rw [if_neg own, lines.once call (by omega) settled]
    pending := by
      intro call waits
      have other : nextCall ≠ call := by
        rcases waits with beyond | ⟨waiter, found, -⟩
        · omega
        · exact Nat.ne_of_gt (lines.numbered call waiter found)
      rw [settledTimes_cons, if_neg other]
      refine lines.pending call (waits.imp (fun beyond => ?_) id)
      omega
    past := by
      intro settled member
      rcases List.mem_cons.mp member with rfl | earlier
      · exact Nat.lt_succ_self _
      · exact Nat.lt_succ_of_lt (lines.past settled earlier)
    fair := by
      refine ⟨fun granted call waiter found same before => ?_, lines.fair⟩
      have empty := free granted
      refine lines.once call before fun stored foundStored => ?_
      by_contra unsettled
      have queued := (lines.mem_iff agentId call).mpr
        ⟨stored, foundStored, Bool.eq_false_iff.mpr unsettled, by
          rw [found] at foundStored
          exact Option.some.inj foundStored ▸ same⟩
      rw [empty] at queued
      cases queued }

/-- A call joins the queue of its agent. -/
theorem join (agentId : AgentId) (listening : Bool)
    (room : ¬ (0 < limits.maxQueue ∧ limits.maxQueue ≤ (index.members agentId).length)) :
    Lines limits (index.addToIndex agentId nextCall)
      (waiters.set nextCall { agentId := agentId, listening := listening }) (nextCall + 1)
      settlements := by
  have unknown : waiters.get nextCall = none := by
    cases found : waiters.get nextCall with
    | none => rfl
    | some waiter => exact absurd (lines.numbered nextCall waiter found) (Nat.lt_irrefl _)
  have absent : nextCall ∉ index.members agentId := by
    intro queued
    obtain ⟨waiter, found, -⟩ := (lines.mem_iff agentId nextCall).mp queued
    rw [unknown] at found
    cases found
  have members := Index.members_addToIndex index absent
  refine ⟨lines.waiting.insert unknown rfl, fun other => ?_, fun other bounded => ?_,
    fun call waiter found => ?_, fun call waiter found => ?_, fun call before settled => ?_,
    fun call waits => ?_, fun settled member => ?_, ?_⟩
  · rw [members]
    split
    · refine List.pairwise_append.mpr ⟨lines.order agentId, List.pairwise_singleton _ _, ?_⟩
      intro earlier queued later last
      rw [List.mem_singleton] at last
      obtain ⟨waiter, found, -⟩ := (lines.mem_iff agentId earlier).mp queued
      rw [last]
      exact lines.numbered earlier waiter found
    · exact lines.order other
  · rw [members]
    split
    · rw [List.length_append, List.length_singleton]
      omega
    · exact lines.capped other bounded
  · rw [get_set] at found
    split at found
    · omega
    · exact Nat.lt_succ_of_lt (lines.numbered call waiter found)
  · rw [get_set] at found
    split at found
    · cases found
      exact ⟨rfl, (fun refuted => by cases refuted)⟩
    · exact lines.armed call waiter found
  · have other : call ≠ nextCall := by
      rintro rfl
      have waits := settled _ (OrderedMap.get_set_self _ _ _)
      cases waits
    refine lines.once call (by omega) fun waiter found => settled waiter ?_
    rw [get_set, if_neg other, found]
  · refine lines.pending call ?_
    rcases waits with beyond | ⟨waiter, found, unsettled⟩
    · exact Or.inl (by omega)
    · rw [get_set] at found
      split at found
      · next own => exact Or.inl (Nat.le_of_eq own.symm)
      · exact Or.inr ⟨waiter, found, unsettled⟩
  · exact Nat.lt_succ_of_lt (lines.past settled member)
  · refine lines.fair.like fun settled member call waiter found before => ?_
    have past := lines.past settled member
    rw [get_set, if_neg (by omega)] at found
    exact ⟨waiter, found, rfl⟩

/-- A waiter leaves the queue and is settled; only the first in line is granted a slot. -/
theorem leave {call : Nat} {waiter closed : SlotWaiter} (found : waiters.get call = some waiter)
    (unsettled : waiter.settled = false) {later : OrderedMap Nat SlotWaiter}
    (shown : ∀ other, later.get other = if other = call then some closed else waiters.get other)
    (agent : closed.agentId = waiter.agentId) (settled : closed.settled = true)
    (disarmed : closed.timeoutArmed = false) (deaf : closed.listening = false)
    (outcome : SlotOutcome)
    (first : outcome = .granted → (index.members waiter.agentId).head? = some call) :
    Lines limits (index.removeFromIndex waiter.agentId call) later nextCall
      (⟨call, waiter.agentId, outcome⟩ :: settlements) := by
  have members := Index.members_removeFromIndex index waiter.agentId call
  have before := lines.numbered call waiter found
  have never : settledTimes settlements call = 0 :=
    lines.pending call (Or.inr ⟨waiter, found, unsettled⟩)
  have keeps : ∀ other stored, later.get other = some stored →
      ∃ earlier, waiters.get other = some earlier ∧ earlier.agentId = stored.agentId := by
    intro other stored foundStored
    rw [shown] at foundStored
    split at foundStored
    · next same =>
      cases foundStored
      exact ⟨waiter, same ▸ found, agent.symm⟩
    · exact ⟨stored, foundStored, rfl⟩
  refine ⟨fun other member => ?_, fun other => ?_, fun other bounded => ?_,
    fun other stored foundStored => ?_, fun other stored foundStored => ?_,
    fun other numbered done => ?_, fun other waits => ?_, fun stored member => ?_, ?_, ?_⟩
  · rw [Index.mem_removeFromIndex, lines.waiting other member, shown]
    by_cases same : member = call
    · subst same
      simp only [found, Option.some.injEq, exists_eq_left', and_true, if_true,
        SlotWaiter.queuedFor, unsettled, settled, Bool.false_eq_true, if_false, reduceCtorEq,
        iff_false, not_and, not_not]
      exact Eq.symm
    · simp only [same, and_false, not_false_eq_true, and_true, if_false]
  · rw [members]
    split
    · exact (lines.order waiter.agentId).filter _
    · exact lines.order other
  · rw [members]
    split
    · exact Nat.le_trans (List.length_filter_le _ _) (lines.capped waiter.agentId bounded)
    · exact lines.capped other bounded
  · obtain ⟨earlier, foundEarlier, -⟩ := keeps other stored foundStored
    exact lines.numbered other earlier foundEarlier
  · rw [shown] at foundStored
    split at foundStored
    · cases foundStored
      exact ⟨by rw [disarmed, settled]; rfl, fun _ => deaf⟩
    · exact lines.armed other stored foundStored
  · rw [settledTimes_cons]
    by_cases own : call = other
    · subst own
      rw [if_pos rfl, never]
    · rw [if_neg own, Nat.add_zero]
      refine lines.once other numbered fun stored foundStored => done stored ?_
      rw [shown, if_neg (Ne.symm own), foundStored]
  · have different : call ≠ other := by
      rintro rfl
      rcases waits with beyond | ⟨stored, foundStored, waitsStill⟩
      · omega
      · rw [shown, if_pos rfl] at foundStored
        cases foundStored
        rw [settled] at waitsStill
        cases waitsStill
    rw [settledTimes_cons, if_neg different, Nat.add_zero]
    refine lines.pending other (waits.imp id ?_)
    rintro ⟨stored, foundStored, waitsStill⟩
    rw [shown, if_neg (Ne.symm different)] at foundStored
    exact ⟨stored, foundStored, waitsStill⟩
  · rcases List.mem_cons.mp member with rfl | earlier
    · exact before
    · exact lines.past stored earlier
  · -- Whoever stands before the first in line is not in the line any more.
    intro granted other stored foundStored same overtaken
    obtain ⟨earlier, foundEarlier, agentEarlier⟩ := keeps other stored foundStored
    refine lines.once other (Nat.lt_trans overtaken before) fun waiting foundWaiting => ?_
    rw [foundEarlier] at foundWaiting
    cases foundWaiting
    by_contra waitsStill
    have queued : other ∈ index.members waiter.agentId :=
      (lines.mem_iff _ _).mpr ⟨earlier, foundEarlier, Bool.eq_false_iff.mpr waitsStill,
        agentEarlier.trans same⟩
    have ordered := lines.order waiter.agentId
    have head := first granted
    cases line : index.members waiter.agentId with
    | nil =>
      rw [line] at queued
      cases queued
    | cons front rest =>
      rw [line] at queued head ordered
      have isFront : front = call := Option.some.inj head
      rcases List.mem_cons.mp queued with isSame | behind
      · simp only at overtaken
        omega
      · have least := (List.pairwise_cons.mp ordered).1 other behind
        simp only at overtaken
        omega
  · exact lines.fair.like fun _ _ other stored foundStored _ => keeps other stored foundStored

end

end Lines

/-! ## The slots -/

/-- The agent whose slot a release function holds in a generation. -/
def SlotRelease.holds (generation : Nat) (granted : SlotRelease) : Option AgentId :=
  if granted.generation = generation ∧ granted.released = false then some granted.agentId else none

/-- The slots in use and the release functions fit together. -/
structure Grants (limits : DispatchLimits) (inflight : Counter AgentId)
    (releases : OrderedMap Nat SlotRelease) (generation : Nat) : Prop where
  /-- The slots in use are those of the release functions of the generation. -/
  held : inflight.Tallies releases (SlotRelease.holds generation) fun _ => 0
  within : ∀ agentId, inflight.read agentId ≤ limits.maxInflight
  made : ∀ call granted, releases.get call = some granted → granted.generation ≤ generation

namespace Grants

variable {limits : DispatchLimits} {inflight : Counter AgentId}
  {releases : OrderedMap Nat SlotRelease} {generation : Nat}

section

variable (grants : Grants limits inflight releases generation)

include grants

theorem grant {call : Nat} (fresh : releases.get call = none) {agentId : AgentId}
    (free : inflight.read agentId < limits.maxInflight) :
    Grants limits (inflight.increment agentId)
      (releases.set call { agentId := agentId, generation := generation }) generation where
  held := grants.held.insert fresh (if_pos ⟨rfl, rfl⟩)
  within := by
    intro other
    rw [Counter.read_increment]
    have bounded := grants.within other
    split
    · next same =>
      subst same
      omega
    · omega
  made := by
    intro other granted found
    rw [get_set] at found
    split at found
    · cases found
      exact Nat.le_refl _
    · exact grants.made other granted found

theorem giveBack {call : Nat} {granted : SlotRelease} (found : releases.get call = some granted)
    (unreleased : granted.released = false) (current : granted.generation = generation) :
    Grants limits (inflight.decrement granted.agentId)
      (releases.modify call ({ · with released := true })) generation where
  held := by
    refine grants.held.lose ({ · with released := true }) found (if_pos ⟨current, unreleased⟩) ?_
    exact if_neg fun held => nomatch held.2
  within := fun other => Nat.le_trans (Counter.read_decrement_le _ _ _) (grants.within other)
  made := by
    intro other stored foundStored
    rw [get_modify] at foundStored
    split at foundStored
    · obtain ⟨earlier, foundEarlier, rfl⟩ := Option.map_eq_some_iff.mp foundStored
      exact grants.made call earlier foundEarlier
    · exact grants.made other stored foundStored

theorem renew :
    Grants limits .empty releases (generation + 1) where
  held := by
    intro agentId
    have none : releases.withKey (SlotRelease.holds (generation + 1)) agentId = 0 := by
      refine (OrderedMap.count_eq_zero_iff _ _).mpr fun call granted found => ?_
      have old := grants.made call granted found
      have unheld : SlotRelease.holds (generation + 1) granted = none :=
        if_neg fun held => by omega
      rw [unheld]
      rfl
    rw [none]
    rfl
  within := fun _ => Nat.zero_le _
  made := fun call granted found => Nat.le_succ_of_le (grants.made call granted found)

end

end Grants

/-- The queue is in order. -/
structure Orderly (limits : DispatchLimits) (slots : DispatchSlots) : Prop where
  /-- The waiters of an agent stand in the order of their calls. -/
  lines : Lines limits slots.queue.agentQueueById slots.waiters slots.nextCall slots.settlements
  /-- The counters are those of the slots not given back. -/
  grants : Grants limits slots.queue.agentInflightById slots.releases slots.queueGeneration
  /-- Calls wait only while every slot of the agent is taken. -/
  full : ∀ agentId, slots.queue.agentQueueById.members agentId ≠ [] →
    0 < limits.maxInflight ∧ slots.queue.agentInflightById.read agentId = limits.maxInflight
  /-- Who has a slot does not wait. -/
  given : ∀ call granted, slots.releases.get call = some granted → call < slots.nextCall ∧
    ∀ waiter, slots.waiters.get call = some waiter → waiter.settled = true

namespace Orderly

variable {limits : DispatchLimits} {slots : DispatchSlots}

theorem start : Orderly limits {} where
  lines :=
    { waiting := .empty
      order := fun _ => .nil
      capped := fun _ _ => Nat.zero_le _
      numbered := nofun
      armed := nofun
      once := nofun
      pending := fun _ _ => rfl
      past := nofun
      fair := trivial }
  grants := ⟨.empty, fun _ => Nat.zero_le _, nofun⟩
  full := fun _ waits => absurd rfl waits
  given := nofun

variable {call : Nat}

theorem fresh (orderly : Orderly limits slots) (ahead : slots.nextCall ≤ call) :
    slots.releases.get call = none := by
  cases found : slots.releases.get call with
  | none => rfl
  | some granted => exact absurd (orderly.given call granted found).1 (Nat.not_lt_of_le ahead)

theorem settleNew (orderly : Orderly limits slots) (agentId : AgentId) {outcome : SlotOutcome}
    (slotless : outcome ≠ .granted) :
    Orderly limits ({ slots with nextCall := slots.nextCall + 1 }.settle slots.nextCall agentId
      outcome) where
  lines := orderly.lines.settleNew agentId outcome fun granted => absurd granted slotless
  grants := orderly.grants
  full := orderly.full
  given := fun call granted found =>
    ⟨Nat.lt_succ_of_lt (orderly.given call granted found).1, (orderly.given call granted found).2⟩

theorem acquire (orderly : Orderly limits slots) (agentId : AgentId) (signal : Option Bool) :
    Orderly limits (slots.acquire limits agentId signal) := by
  unfold DispatchSlots.acquire AgentDispatchQueue.acquireAgentDispatchSlot
  simp only
  split
  · exact orderly.settleNew agentId (fun refuted => by cases refuted)
  · by_cases disabled : limits.maxInflight = 0
    · simp only [disabled, if_true]
      exact orderly.settleNew agentId (fun refuted => by cases refuted)
    · simp only [disabled, if_false]
      by_cases free : slots.queue.agentInflightById.read agentId < limits.maxInflight
      · simp only [free, if_true]
        have empty : slots.queue.agentQueueById.members agentId = [] := by
          by_contra waits
          have used := (orderly.full agentId waits).2
          omega
        refine ⟨orderly.lines.settleNew agentId .granted fun _ => empty,
          orderly.grants.grant (orderly.fresh (Nat.le_refl _)) free, fun other waits => ?_,
          fun call granted found => ?_⟩
        · have differs : other ≠ agentId := by
            rintro rfl
            exact waits empty
          have used := orderly.full other waits
          refine ⟨used.1, ?_⟩
          simp only [settle, idempotentRelease, Counter.read_increment, differs, if_false]
          exact used.2
        · simp only [settle, idempotentRelease, get_set] at found ⊢
          split at found
          · next own =>
            refine ⟨by omega, fun waiter waits => ?_⟩
            have before := orderly.lines.numbered call waiter waits
            omega
          · have earlier := orderly.given call granted found
            exact ⟨Nat.lt_succ_of_lt earlier.1, earlier.2⟩
      · simp only [free, if_false]
        by_cases crowded : 0 < limits.maxQueue ∧
            limits.maxQueue ≤ (slots.queue.agentQueueById.members agentId).length
        · simp only [crowded, and_self, if_true]
          exact orderly.settleNew agentId (fun refuted => by cases refuted)
        · simp only [crowded, if_false]
          have bounded := orderly.grants.within agentId
          refine ⟨orderly.lines.join agentId signal.isSome crowded, orderly.grants,
            fun other waits => ?_, fun call granted found => ?_⟩
          · by_cases same : other = agentId
            · subst same
              simp only
              omega
            · refine orderly.full other fun empty => waits ?_
              refine List.eq_nil_iff_forall_not_mem.mpr fun member queued => ?_
              rcases (Index.mem_addToIndex _ _ _ _ _).mp queued with earlier | ⟨own, -⟩
              · rw [empty] at earlier
                cases earlier
              · exact same own
          · have earlier := orderly.given call granted found
            refine ⟨Nat.lt_succ_of_lt earlier.1, fun waiter foundWaiter => ?_⟩
            simp only [get_set] at foundWaiter
            rw [if_neg (Nat.ne_of_lt earlier.1)] at foundWaiter
            exact earlier.2 waiter foundWaiter

/-- A waiter with its promise settled. -/
def closed (waiter : SlotWaiter) : SlotWaiter :=
  { waiter with timeoutArmed := false, settled := true, listening := false }

theorem get_disarmed {waiter : SlotWaiter} (found : slots.waiters.get call = some waiter) :
    (slots.waiters.modify call ({ · with timeoutArmed := false })).get call =
      some { waiter with timeoutArmed := false } := by
  rw [get_modify, if_pos rfl, found]
  rfl

theorem get_closed {waiter : SlotWaiter} (found : slots.waiters.get call = some waiter)
    (other : Nat) :
    ((slots.waiters.modify call ({ · with timeoutArmed := false })).modify call
      ({ · with settled := true, listening := false })).get other =
      if other = call then some (closed waiter) else slots.waiters.get other := by
  simp only [get_modify, if_true]
  split
  · rw [found]
    rfl
  · rfl

section

variable (orderly : Orderly limits slots)

include orderly

theorem leave {waiter : SlotWaiter}
    (found : slots.waiters.get call = some waiter) (unsettled : waiter.settled = false)
    (reason : SlotRefusal) :
    Orderly limits (({ slots with
        queue := slots.queue.removeQueuedWaiter waiter.agentId call }.clearTimeout
        call).rejectOnce call reason) := by
  have stored := get_disarmed found
  have shown := get_closed found
  simp only [rejectOnce, clearTimeout, stored, unsettled, Bool.false_eq_true, if_false, settle,
    markSettled, AgentDispatchQueue.removeQueuedWaiter]
  refine ⟨orderly.lines.leave found unsettled shown rfl rfl rfl rfl (.refused reason)
      (fun refuted => by cases refuted),
    orderly.grants, fun other waits => orderly.full other fun empty => waits ?_,
    fun other granted foundGranted => ?_⟩
  · simp only [Index.members_removeFromIndex, empty]
    split
    · next same =>
      rw [← same, empty]
      rfl
    · rfl
  · have earlier := orderly.given other granted foundGranted
    refine ⟨earlier.1, fun later foundLater => ?_⟩
    simp only [shown] at foundLater
    split at foundLater
    · cases foundLater
      rfl
    · exact earlier.2 later foundLater

theorem timeoutFires (call : Nat) :
    Orderly limits (slots.timeoutFires call) := by
  unfold DispatchSlots.timeoutFires
  split
  · exact orderly
  · next waiter found =>
    split
    · next armed =>
      have matched := (orderly.lines.armed call waiter found).1
      rw [armed] at matched
      exact orderly.leave found (by simpa using matched.symm) .waitTimeout
    · exact orderly

theorem abort (call : Nat) :
    Orderly limits (slots.abort call) := by
  unfold DispatchSlots.abort
  split
  · exact orderly
  · next waiter found =>
    split
    · next listening =>
      have unsettled : waiter.settled = false := by
        refine Bool.eq_false_iff.mpr fun settled => ?_
        rw [(orderly.lines.armed call waiter found).2 settled] at listening
        cases listening
      exact orderly.leave found unsettled .aborted
    · exact orderly

theorem release (call : Nat) :
    Orderly limits (slots.release limits call) := by
  unfold DispatchSlots.release
  split
  · exact orderly
  · next granted found =>
    split
    · exact orderly
    · next live =>
      rw [not_or, Bool.not_eq_true, not_not] at live
      have returned := orderly.grants.giveBack found live.1 live.2
      have marked : ∀ other stored, (slots.releases.modify call
          ({ · with released := true })).get other = some stored →
          ∃ earlier, slots.releases.get other = some earlier := by
        intro other stored foundStored
        rw [get_modify] at foundStored
        split at foundStored
        · next same => exact ⟨granted, same ▸ found⟩
        · exact ⟨stored, foundStored⟩
      simp only [AgentDispatchQueue.releaseAgentDispatchSlot, AgentDispatchQueue.drainAgentQueue]
      cases line : slots.queue.agentQueueById.members granted.agentId with
      | nil =>
        -- Nobody waits: the slot stays free.
        simp only [ite_self]
        refine ⟨orderly.lines, returned, fun other waits => ?_, fun other stored foundStored => ?_⟩
        · have differs : other ≠ granted.agentId := by
            rintro rfl
            exact waits line
          have used := orderly.full other waits
          refine ⟨used.1, ?_⟩
          simp only [Counter.read_decrement, differs, if_false, Nat.sub_zero]
          exact used.2
        · obtain ⟨earlier, foundEarlier⟩ := marked other stored foundStored
          exact orderly.given other earlier foundEarlier
      | cons next rest =>
        -- The slot passes to the first in line.
        have used := orderly.full granted.agentId (by rw [line]; exact List.cons_ne_nil _ _)
        have read : (slots.queue.agentInflightById.decrement granted.agentId).read
            granted.agentId = limits.maxInflight - 1 := by
          rw [Counter.read_decrement, if_pos rfl, used.2]
        have free : ¬ (limits.maxInflight = 0 ∨ limits.maxInflight ≤
            (slots.queue.agentInflightById.decrement granted.agentId).read granted.agentId) := by
          rw [read]
          omega
        obtain ⟨waiter, foundWaiter, unsettled, agent⟩ := (orderly.lines.mem_iff granted.agentId
          next).mp (by rw [line]; exact List.mem_cons_self)
        have ahead := orderly.lines.numbered next waiter foundWaiter
        have fresh : (slots.releases.modify call ({ · with released := true })).get next = none := by
          cases stored : (slots.releases.modify call ({ · with released := true })).get next with
          | none => rfl
          | some other =>
            obtain ⟨earlier, foundEarlier⟩ := marked next other stored
            have settled := (orderly.given next earlier foundEarlier).2 waiter foundWaiter
            rw [unsettled] at settled
            cases settled
        have stored : (slots.waiters.modify next ({ · with timeoutArmed := false })).get next =
            some { waiter with timeoutArmed := false } := by
          rw [get_modify, if_pos rfl, foundWaiter]
          rfl
        have shown := get_closed foundWaiter
        simp only [free, if_false, resolveOnce, clearTimeout, stored, unsettled,
          Bool.false_eq_true, settle, markSettled, idempotentRelease]
        have first : (slots.queue.agentQueueById.members waiter.agentId).head? = some next := by
          rw [agent, line]
          rfl
        have left := orderly.lines.leave foundWaiter unsettled shown rfl rfl rfl rfl .granted
          fun _ => first
        rw [agent] at left
        rw [agent]
        refine ⟨left, returned.grant fresh (by rw [read]; omega), fun other waits => ?_,
          fun other holder foundHolder => ?_⟩
        · by_cases same : other = granted.agentId
          · subst same
            refine ⟨used.1, ?_⟩
            rw [Counter.read_increment, if_pos rfl, read]
            omega
          · have waited : slots.queue.agentQueueById.members other ≠ [] := by
              rw [Index.members_removeFromIndex, if_neg same] at waits
              exact waits
            have busy := orderly.full other waited
            refine ⟨busy.1, ?_⟩
            rw [Counter.read_increment, Counter.read_decrement, if_neg same]
            exact busy.2
        · simp only [get_set] at foundHolder
          refine ⟨?_, fun later foundLater => ?_⟩
          · split at foundHolder
            · next own => exact own ▸ ahead
            · obtain ⟨earlier, foundEarlier⟩ := marked other holder foundHolder
              exact (orderly.given other earlier foundEarlier).1
          · rw [shown] at foundLater
            split at foundLater
            · cases foundLater
              rfl
            · next differs =>
              rw [if_neg differs] at foundHolder
              obtain ⟨earlier, foundEarlier⟩ := marked other holder foundHolder
              exact (orderly.given other earlier foundEarlier).2 later foundLater

end

/-- One waiter is refused by a reset, which looks at no queue. -/
def refuse (slots : DispatchSlots) (call : Nat) : DispatchSlots :=
  (slots.clearTimeout call).rejectOnce call .reset

section

variable (orderly : Orderly limits slots)

include orderly

theorem refuse_of_settled
    (settled : ∀ waiter, slots.waiters.get call = some waiter → waiter.settled = true)
    (queue : AgentDispatchQueue Nat) (generation : Nat) :
    refuse { slots with queue := queue, queueGeneration := generation } call =
      { slots with queue := queue, queueGeneration := generation } := by
  cases found : slots.waiters.get call with
  | none =>
    have absent : slots.waiters.modify call ({ · with timeoutArmed := false }) = slots.waiters := by
      rw [OrderedMap.modify, found]
    simp only [refuse, clearTimeout, rejectOnce, absent, found]
  | some waiter =>
    have done := settled waiter found
    have disarmed := (orderly.lines.armed call waiter found).1
    rw [done] at disarmed
    have same : { waiter with timeoutArmed := false } = waiter := by
      cases waiter
      simp only at disarmed
      subst disarmed
      rfl
    have kept : slots.waiters.modify call ({ · with timeoutArmed := false }) = slots.waiters := by
      rw [OrderedMap.modify, found]
      simp only [same]
      exact slots.waiters.set_of_get found
    simp only [refuse, clearTimeout, rejectOnce, kept, found, done, if_true]

/-- Refusing calls one after the other is each of them leaving the queue. -/
theorem refuseAll (calls : List Nat)
    (queue : AgentDispatchQueue Nat) (generation : Nat) :
    ∃ final, Orderly limits final ∧ final.queueGeneration = slots.queueGeneration ∧
      calls.foldl refuse { slots with queue := queue, queueGeneration := generation } =
        { final with queue := queue, queueGeneration := generation } ∧
      ∀ call waiter, final.waiters.get call = some waiter → waiter.settled = false →
        call ∉ calls ∧ slots.waiters.get call = some waiter := by
  induction calls generalizing slots with
  | nil => exact ⟨slots, orderly, rfl, rfl, fun call waiter found _ => ⟨List.not_mem_nil, found⟩⟩
  | cons call rest ih =>
    by_cases waits : ∃ waiter, slots.waiters.get call = some waiter ∧ waiter.settled = false
    · obtain ⟨waiter, found, unsettled⟩ := waits
      have stored := get_disarmed found
      have shown := get_closed found
      have left := orderly.leave found unsettled .reset
      have agrees : refuse { slots with queue := queue, queueGeneration := generation } call =
          { ({ slots with
              queue := slots.queue.removeQueuedWaiter waiter.agentId call }.clearTimeout
              call).rejectOnce call .reset with
            queue := queue, queueGeneration := generation } := by
        simp only [refuse, rejectOnce, clearTimeout, stored, unsettled, Bool.false_eq_true,
          if_false, settle, markSettled]
      obtain ⟨final, orderlyFinal, same, shape, waitsStill⟩ := ih left
      refine ⟨final, orderlyFinal, ?_, ?_, fun other later foundLater waitsLater => ?_⟩
      · rw [same]
        simp only [rejectOnce, clearTimeout, stored, unsettled, Bool.false_eq_true,
          if_false, settle, markSettled]
      · rw [List.foldl_cons, agrees]
        exact shape
      · obtain ⟨notRest, foundOther⟩ := waitsStill other later foundLater waitsLater
        simp only [rejectOnce, clearTimeout, stored, unsettled, Bool.false_eq_true,
          if_false, settle, markSettled, shown] at foundOther
        split at foundOther
        · cases foundOther
          cases waitsLater
        · next differs =>
          exact ⟨fun member => (List.mem_cons.mp member).elim differs notRest, foundOther⟩
    · have settled : ∀ waiter, slots.waiters.get call = some waiter → waiter.settled = true := by
        intro waiter found
        by_contra unsettled
        exact waits ⟨waiter, found, Bool.eq_false_iff.mpr unsettled⟩
      obtain ⟨final, orderlyFinal, same, shape, waitsStill⟩ := ih orderly
      refine ⟨final, orderlyFinal, same, ?_, fun other later foundLater waitsLater => ?_⟩
      · rw [List.foldl_cons, orderly.refuse_of_settled settled]
        exact shape
      · obtain ⟨notRest, foundOther⟩ := waitsStill other later foundLater waitsLater
        refine ⟨fun member => (List.mem_cons.mp member).elim (fun own => ?_) notRest, foundOther⟩
        rw [own] at foundOther
        have done := settled later foundOther
        rw [waitsLater] at done
        cases done

theorem reset : Orderly limits slots.reset := by
  obtain ⟨final, orderlyFinal, same, shape, waitsStill⟩ := orderly.refuseAll
    slots.queue.agentQueueById.values.flatten { slots.queue with agentInflightById := .empty }
    (slots.queueGeneration + 1)
  have reached : slots.reset =
      { final with queue := {}, queueGeneration := slots.queueGeneration + 1 } := by
    have folded : slots.queue.agentQueueById.values.flatten.foldl (fun current call =>
        (current.clearTimeout call).rejectOnce call .reset)
        { slots with
          queue := { slots.queue with agentInflightById := .empty }
          queueGeneration := slots.queueGeneration + 1 } = _ := shape
    simp only [DispatchSlots.reset, folded]
  have nobody : ∀ call waiter, final.waiters.get call = some waiter → waiter.settled = true := by
    intro call waiter found
    by_contra unsettled
    have waits := Bool.eq_false_iff.mpr unsettled
    obtain ⟨absent, before⟩ := waitsStill call waiter found waits
    have queued := (orderly.lines.mem_iff waiter.agentId call).mpr ⟨waiter, before, waits, rfl⟩
    unfold Index.members at queued
    cases line : slots.queue.agentQueueById.get waiter.agentId with
    | none =>
      rw [line] at queued
      cases queued
    | some members =>
      rw [line] at queued
      refine absent (List.mem_flatten.mpr ⟨members, ?_, queued⟩)
      exact List.mem_map.mpr ⟨_, (OrderedMap.get_eq_some_iff _ _ _).mp line, rfl⟩
  rw [reached]
  have lines := orderlyFinal.lines
  refine ⟨⟨fun agentId call => ?_, fun _ => .nil, fun _ _ => Nat.zero_le _, lines.numbered,
      lines.armed, lines.once, lines.pending, lines.past, lines.fair⟩, ?_,
    fun _ waits => absurd rfl waits, orderlyFinal.given⟩
  · refine ⟨(fun queued => nomatch queued), ?_⟩
    rintro ⟨waiter, found, keyed⟩
    simp only [SlotWaiter.queuedFor, nobody call waiter found, if_true] at keyed
    cases keyed
  · have renewed := orderlyFinal.grants.renew
    rw [same] at renewed
    exact renewed

/-- Every action keeps the queue in order. -/
theorem step (action : Action) :
    Orderly limits (slots.step limits action) := by
  cases action with
  | acquire agentId signal => exact orderly.acquire agentId signal
  | release call => exact orderly.release call
  | timeoutFires call => exact orderly.timeoutFires call
  | abort call => exact orderly.abort call
  | reset => exact orderly.reset

end

theorem release_of_spent {granted : SlotRelease} (found : slots.releases.get call = some granted)
    (spent : granted.released = true ∨ granted.generation ≠ slots.queueGeneration) :
    slots.release limits call = slots := by
  simp only [DispatchSlots.release, found, if_pos spent]

theorem release_twice (orderly : Orderly limits slots) (call : Nat) :
    (slots.release limits call).release limits call = slots.release limits call := by
  cases found : slots.releases.get call with
  | none =>
    have nothing : slots.release limits call = slots := by
      simp only [DispatchSlots.release, found]
    rw [nothing, nothing]
  | some granted =>
    by_cases spent : granted.released = true ∨ granted.generation ≠ slots.queueGeneration
    · have nothing := @release_of_spent limits slots call granted found spent
      rw [nothing, nothing]
    · -- The mark of the first call is still there, whoever got the slot.
      have marked : ∃ after, (slots.release limits call).releases.get call = some after ∧
          after.released = true := by
        have own : (slots.releases.modify call ({ · with released := true })).get call =
            some { granted with released := true } := by
          rw [get_modify, if_pos rfl, found]
          rfl
        simp only [DispatchSlots.release, found, if_neg spent]
        split
        · exact ⟨_, own, rfl⟩
        · next queue next passed =>
          simp only [resolveOnce, clearTimeout]
          split
          · exact ⟨_, own, rfl⟩
          · next waiter foundWaiter =>
            split
            · exact ⟨_, own, rfl⟩
            · next unsettled =>
              have differs : call ≠ next := by
                rintro rfl
                rw [get_modify, if_pos rfl] at foundWaiter
                obtain ⟨earlier, foundEarlier, rfl⟩ := Option.map_eq_some_iff.mp foundWaiter
                exact unsettled ((orderly.given call granted found).2 earlier foundEarlier)
              refine ⟨{ granted with released := true }, ?_, rfl⟩
              simp only [settle, idempotentRelease, markSettled, get_set,
                if_neg differs]
              exact own
      obtain ⟨after, foundAfter, done⟩ := marked
      exact release_of_spent foundAfter (Or.inl done)

end Orderly

theorem Orderly.settled_of_timeoutFires {limits : DispatchLimits} {slots : DispatchSlots}
    (orderly : Orderly limits slots) {call : Nat} {waiter : SlotWaiter}
    (found : slots.waiters.get call = some waiter) (unsettled : waiter.settled = false) :
    settledTimes (slots.timeoutFires call).settlements call = 1 := by
  have armed := (orderly.lines.armed call waiter found).1
  rw [unsettled] at armed
  have stored := get_disarmed found
  have before : settledTimes slots.settlements call = 0 :=
    orderly.lines.pending call (Or.inr ⟨waiter, found, unsettled⟩)
  simp only [DispatchSlots.timeoutFires, found, armed, Bool.not_false, if_true, rejectOnce,
    clearTimeout, stored, unsettled, Bool.false_eq_true, if_false, settle, markSettled,
    settledTimes_cons, before]

theorem nextCall_resolveOnce (slots : DispatchSlots) (call : Nat) :
    (slots.resolveOnce call).nextCall = slots.nextCall := by
  unfold resolveOnce
  split
  · rfl
  · split <;> rfl

theorem nextCall_rejectOnce (slots : DispatchSlots) (call : Nat) (reason : SlotRefusal) :
    (slots.rejectOnce call reason).nextCall = slots.nextCall := by
  unfold rejectOnce
  split
  · rfl
  · split <;> rfl

/-- The calls for a slot are numbered one after the other. -/
theorem nextCall_step (limits : DispatchLimits) (slots : DispatchSlots) (action : Action) :
    (slots.step limits action).nextCall = slots.nextCall + [action].countP (·.isAcquire) := by
  cases action with
  | acquire agentId signal =>
    simp only [DispatchSlots.step, DispatchSlots.acquire]
    split
    · rfl
    · split <;> rfl
  | release call =>
    simp only [DispatchSlots.step, DispatchSlots.release]
    split
    · rfl
    · split
      · rfl
      · split
        · rfl
        · exact nextCall_resolveOnce _ _
  | timeoutFires call =>
    simp only [DispatchSlots.step, DispatchSlots.timeoutFires]
    split
    · rfl
    · split
      · exact nextCall_rejectOnce _ _ _
      · rfl
  | abort call =>
    simp only [DispatchSlots.step, DispatchSlots.abort]
    split
    · rfl
    · split
      · exact nextCall_rejectOnce _ _ _
      · rfl
  | reset =>
    have each (calls : List Nat) : ∀ slots : DispatchSlots,
        (calls.foldl (fun current call =>
          (current.clearTimeout call).rejectOnce call .reset) slots).nextCall =
            slots.nextCall := by
      induction calls with
      | nil => exact fun _ => rfl
      | cons call rest ih => exact fun slots => (ih _).trans (nextCall_rejectOnce _ _ _)
    simp only [DispatchSlots.step, DispatchSlots.reset]
    exact each _ _

/-- How a call for a slot of an agent is answered at once, if it does not wait. -/
def answerOf (limits : DispatchLimits) (slots : DispatchSlots) (agentId : AgentId)
    (signal : Option Bool) : Option SlotOutcome :=
  if signal = some true then some (.refused .aborted)
  else if limits.maxInflight = 0 then some .unlimited
  else if slots.queue.agentInflightById.read agentId < limits.maxInflight then some .granted
  else if 0 < limits.maxQueue ∧
      limits.maxQueue ≤ (slots.queue.agentQueueById.members agentId).length then
    some (.refused .queueFull)
  else none

/-- A call for a slot is answered at once, or it waits behind the others. -/
theorem Orderly.acquires {limits : DispatchLimits} {slots : DispatchSlots}
    (orderly : Orderly limits slots) (agentId : AgentId) (signal : Option Bool) :
    (slots.acquire limits agentId signal).settlements =
        ((slots.answerOf limits agentId signal).map
          fun outcome => ⟨slots.nextCall, agentId, outcome⟩).toList ++ slots.settlements ∧
      (slots.answerOf limits agentId signal = none →
        (slots.acquire limits agentId signal).queue.agentQueueById.members agentId =
          slots.queue.agentQueueById.members agentId ++ [slots.nextCall]) := by
  unfold DispatchSlots.acquire answerOf AgentDispatchQueue.acquireAgentDispatchSlot
  have absent : slots.nextCall ∉ slots.queue.agentQueueById.members agentId := by
    intro queued
    obtain ⟨waiter, found, -⟩ := (orderly.lines.mem_iff agentId slots.nextCall).mp queued
    exact Nat.lt_irrefl _ (orderly.lines.numbered slots.nextCall waiter found)
  split_ifs
  · exact ⟨rfl, fun waits => by cases waits⟩
  · exact ⟨rfl, fun waits => by cases waits⟩
  · exact ⟨rfl, fun waits => by cases waits⟩
  · exact ⟨rfl, fun waits => by cases waits⟩
  · exact ⟨rfl, fun _ => (Index.members_addToIndex _ absent agentId).trans (if_pos rfl)⟩

/-- Every run of a slot queue, under any limits: the slots in use are the grants of the current
generation that were not released, within the maximum; calls wait only while every slot is in
use, within the cap and in the order of their numbers; every grant was preceded by the
settlement of all earlier waiters of the agent; a waiter is queued with its timer armed until
it is settled once; and a release function acts once, in its own generation. Every call that was
made is settled once or waits, and a new one is granted a slot, refused or queued. -/
theorem agent_dispatch_slots_in_order (limits : DispatchLimits) (actions : List Action) :
    let slots := run (step limits) {} actions
    (∀ agentId,
      slots.queue.agentInflightById.read agentId = slots.releases.count (fun _ granted =>
        granted.agentId = agentId ∧ granted.generation = slots.queueGeneration ∧
          granted.released = false) ∧
      slots.queue.agentInflightById.read agentId ≤ limits.maxInflight ∧
      (slots.queue.agentQueueById.members agentId ≠ [] →
        slots.queue.agentInflightById.read agentId = limits.maxInflight) ∧
      (slots.queue.agentQueueById.members agentId).Pairwise (· < ·) ∧
      (0 < limits.maxQueue →
        (slots.queue.agentQueueById.members agentId).length ≤ limits.maxQueue)) ∧
    FirstCome slots.waiters slots.settlements ∧
    (∀ call waiter, slots.waiters.get call = some waiter →
      (waiter.settled = true ∧ settledTimes slots.settlements call = 1 ∧
        ∀ agentId, call ∉ slots.queue.agentQueueById.members agentId) ∨
      (waiter.settled = false ∧ settledTimes slots.settlements call = 0 ∧
        call ∈ slots.queue.agentQueueById.members waiter.agentId ∧ waiter.timeoutArmed = true ∧
        settledTimes (slots.step limits (.timeoutFires call)).settlements call = 1)) ∧
    (∀ call, (slots.step limits (.release call)).step limits (.release call) =
        slots.step limits (.release call)) ∧
    (∀ call granted, slots.releases.get call = some granted →
      granted.generation ≠ slots.queueGeneration →
        slots.step limits (.release call) = slots) ∧
    slots.nextCall = actions.countP (·.isAcquire) ∧
    (∀ call, call < slots.nextCall → settledTimes slots.settlements call = 1 ∨
      ∃ waiter, slots.waiters.get call = some waiter ∧ waiter.settled = false) ∧
    ∀ agentId signal,
      (slots.step limits (.acquire agentId signal)).settlements =
          ((slots.answerOf limits agentId signal).map
            fun outcome => ⟨slots.nextCall, agentId, outcome⟩).toList ++ slots.settlements ∧
        (slots.answerOf limits agentId signal = none →
          (slots.step limits (.acquire agentId signal)).queue.agentQueueById.members agentId =
            slots.queue.agentQueueById.members agentId ++ [slots.nextCall]) := by
  intro slots
  have orderly : Orderly limits slots :=
    run_invariant (step limits) (fun _ action orderly => orderly.step action) .start actions
  have counts : ∀ (taken : List Action) (slots : DispatchSlots) (action : Action),
      slots.nextCall = taken.countP (·.isAcquire) →
        (slots.step limits action).nextCall = (taken ++ [action]).countP (·.isAcquire) := by
    intro taken slots action counted
    rw [nextCall_step, counted, List.countP_append]
  refine ⟨fun agentId => ⟨?_, orderly.grants.within agentId,
      fun waits => (orderly.full agentId waits).2, orderly.lines.order agentId,
      orderly.lines.capped agentId⟩, orderly.lines.fair, fun call waiter found => ?_,
    orderly.release_twice, fun call granted found old => Orderly.release_of_spent found
      (Or.inr old), run_history (step limits) counts rfl actions, fun call below => ?_,
    fun agentId signal => orderly.acquires agentId signal⟩
  · rw [orderly.grants.held agentId, Nat.add_zero, OrderedMap.withKey]
    have same : ∀ granted : SlotRelease,
        decide (SlotRelease.holds slots.queueGeneration granted = some agentId) =
          decide (granted.agentId = agentId ∧ granted.generation = slots.queueGeneration ∧
            granted.released = false) := by
      intro granted
      refine decide_eq_decide.mpr ?_
      unfold SlotRelease.holds
      split
      · next held => simp only [Option.some.injEq, held, and_self, and_true]
      · next lost =>
        simp only [reduceCtorEq, false_iff, not_and]
        exact fun _ current unreleased => lost ⟨current, unreleased⟩
    simp only [same]
  · cases settled : waiter.settled with
    | true =>
      refine Or.inl ⟨rfl, orderly.lines.once call (orderly.lines.numbered call waiter found) ?_, ?_⟩
      · intro other foundOther
        rw [found] at foundOther
        exact Option.some.inj foundOther ▸ settled
      · intro agentId queued
        obtain ⟨other, foundOther, unsettled, -⟩ := (orderly.lines.mem_iff agentId call).mp queued
        rw [found] at foundOther
        cases foundOther
        rw [settled] at unsettled
        cases unsettled
    | false =>
      have armed := (orderly.lines.armed call waiter found).1
      rw [settled] at armed
      exact Or.inr ⟨rfl, orderly.lines.pending call (Or.inr ⟨waiter, found, settled⟩),
        (orderly.lines.mem_iff _ _).mpr ⟨waiter, found, settled, rfl⟩, armed,
        orderly.settled_of_timeoutFires found settled⟩
  · by_cases waits : ∃ waiter, slots.waiters.get call = some waiter ∧ waiter.settled = false
    · exact Or.inr waits
    · refine Or.inl (orderly.lines.once call below fun waiter found => ?_)
      exact Bool.eq_true_of_not_eq_false fun unsettled => waits ⟨waiter, found, unsettled⟩

end PlugHub.Relay.DispatchSlots
