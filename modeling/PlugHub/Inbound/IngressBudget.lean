import PlugHub.Library.Accounting
import PlugHub.Inbound.IngressGuard

/-!
# Conservation of the ingress budgets

The pending work of every key, of every socket and of the hub, compared with the frames that were
admitted and are neither released nor given back by the disconnect of their socket. The counts are
exact as long as no socket loses track of the key its frames are charged to: the guard follows a
socket to its new key, but it does not move the frames.
-/

namespace PlugHub.Inbound

open Library Registries
open OrderedMap (count_congr count_eq_zero_iff count_mapValues erase_of_absent forall_set get_erase
  get_erase_of_ne get_set get_set_cases get_set_of_ne get_set_self)

namespace IngressGuard

/-- A frame whose charge was not returned. -/
def isOpen (frame : GuardedFrame) : Bool := !frame.released && !frame.disconnected

/-- A frame whose charge was not returned, whoever holds it. -/
def isOutstanding (_ref : Nat) (frame : GuardedFrame) : Bool := isOpen frame

/-- An outstanding frame that is charged to a key. -/
def isCharged (key : BudgetKey) (_ref : Nat) (frame : GuardedFrame) : Bool :=
  isOpen frame && decide (frame.key = key)

/-- An outstanding frame of a socket. -/
def isHeld (socketId : SocketId) (_ref : Nat) (frame : GuardedFrame) : Bool :=
  isOpen frame && decide (frame.socketId = socketId)

/-- The pending work of a key. -/
def pendingOf (guard : IngressGuard) (key : BudgetKey) : Nat :=
  ((guard.stateByKey.get key).map (·.pendingWork)).getD 0

/-- The pending work is that of the outstanding frames. -/
structure Balanced (guard : IngressGuard) : Prop where
  /-- A key counts the outstanding frames it was charged for. -/
  keys : ∀ key, guard.pendingOf key = guard.frames.count (isCharged key)
  /-- A socket counts those of its frames. -/
  sockets : ∀ socketId,
    guard.pendingWorkBySocketId.read socketId = guard.frames.count (isHeld socketId)
  /-- The hub counts all of them. -/
  global : guard.pendingWork = guard.frames.count isOutstanding
  /-- The counts of the keys add up to that of the hub. -/
  keySum : guard.stateByKey.total (·.pendingWork) = guard.pendingWork
  /-- And so do those of the sockets. -/
  socketSum : guard.pendingWorkBySocketId.total id = guard.pendingWork

/-- Where the charges and the sockets are. -/
structure Anchored (guard : IngressGuard) : Prop where
  numbered : ∀ ref frame, guard.frames.get ref = some frame → ref < guard.nextFrame
  present : ∀ ref frame, guard.frames.get ref = some frame → isOpen frame = true →
    ∃ state, guard.stateByKey.get frame.key = some state ∧ state.ref = frame.state
  ownKey : ∀ ref frame, guard.frames.get ref = some frame → ∀ socketId,
    frame.key = .socket socketId → socketId = frame.socketId
  settled : ∀ ref frame, guard.frames.get ref = some frame → isOpen frame = true → ∀ socketId,
    frame.key = .socket socketId →
      guard.budgetKeyBySocketId.get socketId = some (.socket socketId)
  positive : ∀ socketId, guard.pendingWorkBySocketId.get socketId ≠ some 0
  indexed : ∀ key socketId, socketId ∈ guard.socketsByBudgetKey.members key ↔
    guard.budgetKeyBySocketId.get socketId = some key
  ownTracked : ∀ socketId owner, guard.budgetKeyBySocketId.get socketId = some (.socket owner) →
    owner = socketId

theorem balanced_empty : Balanced {} := ⟨fun _ => rfl, fun _ => rfl, rfl, rfl, rfl⟩

theorem anchored_empty : Anchored {} :=
  ⟨nofun, nofun, nofun, nofun, nofun, fun _ _ => ⟨nofun, nofun⟩, nofun⟩

variable {guard : IngressGuard}

variable {ref : Nat} {frame : GuardedFrame}

theorem count_isCharged_pos
    (found : guard.frames.get ref = some frame) (outstanding : isOpen frame = true) :
    0 < guard.frames.count (isCharged frame.key) :=
  guard.frames.count_pos found (by simp [isCharged, outstanding])

variable {key : BudgetKey}

theorem not_open_of_count_zero (none : guard.frames.count (isCharged key) = 0)
    (found : guard.frames.get ref = some frame)
    (charged : frame.key = key) : isOpen frame = false := by
  by_contra outstanding
  have positive := count_isCharged_pos found (Bool.not_eq_false _ ▸ outstanding)
  rw [charged, none] at positive
  exact Nat.lt_irrefl 0 positive

/-! ## A frame arrives -/

/-- A socket leaves its own key. -/
def leavesOwnKey (guard : IngressGuard) (socketId : SocketId) (budgetKey : BudgetKey) : Bool :=
  decide (guard.budgetKeyBySocketId.get socketId = some (.socket socketId)) &&
    decide (budgetKey ≠ .socket socketId)

/-- What tracking the key of a socket does. -/
structure Tracking (guard tracked : IngressGuard) (socketId : SocketId) (budgetKey : BudgetKey) :
    Prop where
  states : tracked.stateByKey =
    if guard.leavesOwnKey socketId budgetKey then guard.stateByKey.erase (.socket socketId)
    else guard.stateByKey
  frames : tracked.frames = guard.frames
  budgetKeys : ∀ other, tracked.budgetKeyBySocketId.get other =
    if other = socketId then some budgetKey else guard.budgetKeyBySocketId.get other
  indexed : ∀ key other, other ∈ tracked.socketsByBudgetKey.members key ↔
    tracked.budgetKeyBySocketId.get other = some key
  pendingWork : tracked.pendingWork = guard.pendingWork
  bySocket : tracked.pendingWorkBySocketId = guard.pendingWorkBySocketId
  nextFrame : tracked.nextFrame = guard.nextFrame

variable {socketId : SocketId}

theorem Anchored.tracked_sockets (anchored : Anchored guard)
    {previous : BudgetKey} (uses : guard.budgetKeyBySocketId.get socketId = some previous) :
    ∃ sockets, guard.socketsByBudgetKey.get previous = some sockets := by
  have member := (anchored.indexed previous socketId).mpr uses
  unfold Index.members at member
  cases found : guard.socketsByBudgetKey.get previous with
  | none =>
    rw [found] at member
    cases member
  | some sockets => exact ⟨sockets, rfl⟩

theorem Anchored.leaveKey_states (anchored : Anchored guard)
    {previous : BudgetKey} (uses : guard.budgetKeyBySocketId.get socketId = some previous) :
    (guard.leaveKey socketId previous).stateByKey =
      if previous = .socket socketId then guard.stateByKey.erase (.socket socketId)
      else guard.stateByKey := by
  obtain ⟨sockets, filed⟩ := anchored.tracked_sockets uses
  unfold leaveKey
  rw [filed]
  cases previous with
  | agent agentId => simp only [reduceCtorEq, if_false]
  | socket owner =>
    have own : owner = socketId := anchored.ownTracked socketId owner uses
    subst own
    have empties : (guard.socketsByBudgetKey.removeFromIndex (.socket owner) owner).members
        (.socket owner) = [] := by
      rw [List.eq_nil_iff_forall_not_mem]
      intro other member
      rw [Index.mem_removeFromIndex, anchored.indexed] at member
      have same := anchored.ownTracked other owner member.1
      exact member.2 ⟨rfl, same.symm⟩
    simp only [empties, if_true]

theorem leaveKey_rest (guard : IngressGuard) (socketId : SocketId) (previous : BudgetKey) :
    (guard.leaveKey socketId previous).frames = guard.frames ∧
      (guard.leaveKey socketId previous).budgetKeyBySocketId = guard.budgetKeyBySocketId ∧
      (guard.leaveKey socketId previous).socketsByBudgetKey =
        guard.socketsByBudgetKey.removeFromIndex previous socketId ∧
      (guard.leaveKey socketId previous).pendingWork = guard.pendingWork ∧
      (guard.leaveKey socketId previous).pendingWorkBySocketId = guard.pendingWorkBySocketId ∧
      (guard.leaveKey socketId previous).nextFrame = guard.nextFrame := by
  unfold leaveKey
  split
  · dsimp only
    split <;> exact ⟨rfl, rfl, rfl, rfl, rfl, rfl⟩
  · exact ⟨rfl, rfl, rfl, rfl, rfl, rfl⟩

theorem Anchored.tracking (anchored : Anchored guard) (socketId : SocketId)
    (budgetKey : BudgetKey) :
    Tracking guard (guard.trackSocketBudgetKey socketId budgetKey) socketId budgetKey := by
  unfold trackSocketBudgetKey
  by_cases same : guard.budgetKeyBySocketId.get socketId = some budgetKey
  · rw [if_pos same]
    have stays : guard.leavesOwnKey socketId budgetKey = false := by
      rw [leavesOwnKey, same]
      simp only [Option.some.injEq, ne_eq, decide_not]
      cases decide (budgetKey = BudgetKey.socket socketId) <;> rfl
    refine ⟨by rw [stays]; rfl, rfl, fun other => ?_, anchored.indexed, rfl, rfl, rfl⟩
    split
    · next here => rw [here, same]
    · rfl
  · rw [if_neg same]
    cases uses : guard.budgetKeyBySocketId.get socketId with
    | none =>
      refine ⟨?_, rfl, fun other => get_set _ _ _ _, fun key other => ?_, rfl, rfl, rfl⟩
      · have stays : guard.leavesOwnKey socketId budgetKey = false := by
          rw [leavesOwnKey, uses]
          rfl
        rw [stays]
        rfl
      · rw [Index.mem_addToIndex, anchored.indexed, get_set]
        by_cases here : other = socketId
        · rw [if_pos here, here, uses]
          simp only [reduceCtorEq, false_or, and_true, Option.some.injEq]
          exact eq_comm
        · rw [if_neg here]
          simp only [here, and_false, or_false]
    | some previous =>
      obtain ⟨frames, budgetKeys, sockets, pendingWork, bySocket, nextFrame⟩ :=
        leaveKey_rest guard socketId previous
      have differs : previous ≠ budgetKey := by
        intro equal
        rw [uses, equal] at same
        exact same rfl
      refine ⟨?_, frames, fun other => ?_, fun key other => ?_, pendingWork, bySocket, nextFrame⟩
      · show (guard.leaveKey socketId previous).stateByKey = _
        rw [anchored.leaveKey_states uses]
        by_cases own : previous = .socket socketId
        · have leaves : guard.leavesOwnKey socketId budgetKey = true := by
            rw [leavesOwnKey, uses, own]
            rw [own] at differs
            simp only [decide_true, Bool.true_and, decide_eq_true_eq]
            exact fun equal => differs equal.symm
          rw [leaves, if_pos own, if_pos rfl]
        · have stays : guard.leavesOwnKey socketId budgetKey = false := by
            rw [leavesOwnKey, uses]
            simp only [Option.some.injEq, own, decide_false, Bool.false_and]
          rw [stays, if_neg own]
          rfl
      · show ((guard.leaveKey socketId previous).budgetKeyBySocketId.set _ _).get other = _
        rw [budgetKeys]
        exact get_set _ _ _ _
      · show other ∈ ((guard.leaveKey socketId previous).socketsByBudgetKey.addToIndex _ _).members
          key ↔ ((guard.leaveKey socketId previous).budgetKeyBySocketId.set _ _).get other = _
        rw [Index.mem_addToIndex, sockets, Index.mem_removeFromIndex, anchored.indexed, budgetKeys,
          get_set]
        by_cases here : other = socketId
        · rw [if_pos here, here, uses]
          simp only [Option.some.injEq, and_true]
          constructor
          · rintro (⟨equal, apart⟩ | equal)
            · exact absurd equal.symm apart
            · exact equal.symm
          · exact fun equal => Or.inr equal.symm
        · rw [if_neg here]
          simp only [here, and_false, not_false_eq_true, and_true, or_false]

/-- An own key that is left carries no outstanding frame. -/
def LeavesNone (guard : IngressGuard) (socketId : SocketId) (budgetKey : BudgetKey) : Prop :=
  guard.leavesOwnKey socketId budgetKey = true →
    guard.frames.count (isCharged (.socket socketId)) = 0

variable {budgetKey : BudgetKey}

theorem Tracking.pendingOf {tracked : IngressGuard}
    (tracking : Tracking guard tracked socketId budgetKey) (key : BudgetKey) :
    tracked.pendingOf key =
      if guard.leavesOwnKey socketId budgetKey = true ∧ key = .socket socketId then 0
      else guard.pendingOf key := by
  unfold IngressGuard.pendingOf
  rw [tracking.states]
  by_cases leaves : guard.leavesOwnKey socketId budgetKey = true
  · rw [if_pos leaves, get_erase]
    by_cases own : key = .socket socketId
    · simp only [own, if_true, leaves, and_self, Option.map_none, Option.getD_none]
    · simp only [own, if_false, and_false]
  · rw [if_neg leaves, if_neg fun both => leaves both.1]

theorem Balanced.tracked (balanced : Balanced guard) {tracked : IngressGuard}
    (tracking : Tracking guard tracked socketId budgetKey)
    (clear : guard.LeavesNone socketId budgetKey) : Balanced tracked where
  keys := by
    intro key
    rw [tracking.pendingOf, tracking.frames]
    split
    · next left => rw [left.2, clear left.1]
    · exact balanced.keys key
  sockets := by rw [tracking.bySocket, tracking.frames]; exact balanced.sockets
  global := by rw [tracking.pendingWork, tracking.frames]; exact balanced.global
  keySum := by
    rw [tracking.pendingWork, tracking.states, ← balanced.keySum]
    split
    · next leaves =>
      cases found : guard.stateByKey.get (.socket socketId) with
      | none => rw [erase_of_absent _ found]
      | some state =>
        have empty := balanced.keys (.socket socketId)
        rw [clear leaves] at empty
        unfold IngressGuard.pendingOf at empty
        rw [found] at empty
        have parts := guard.stateByKey.total_erase_of_present (·.pendingWork) found
        simp only [Option.map_some, Option.getD_some] at empty
        omega
    · rfl
  socketSum := by rw [tracking.pendingWork, tracking.bySocket]; exact balanced.socketSum

/-- Tracking a key without leaving frames behind keeps the charges where they are. -/
theorem Anchored.tracked (anchored : Anchored guard) {tracked : IngressGuard}
    (tracking : Tracking guard tracked socketId budgetKey)
    (own : ∀ owner, budgetKey = .socket owner → owner = socketId)
    (clear : guard.LeavesNone socketId budgetKey) : Anchored tracked where
  numbered := by rw [tracking.frames, tracking.nextFrame]; exact anchored.numbered
  present := by
    intro ref frame found outstanding
    rw [tracking.frames] at found
    obtain ⟨state, stored, same⟩ := anchored.present ref frame found outstanding
    refine ⟨state, ?_, same⟩
    rw [tracking.states]
    split
    · next leaves =>
      have differs : frame.key ≠ .socket socketId := by
        intro here
        rw [not_open_of_count_zero (clear leaves) found here] at outstanding
        cases outstanding
      rw [get_erase_of_ne _ differs]
      exact stored
    · exact stored
  ownKey := by rw [tracking.frames]; exact anchored.ownKey
  settled := by
    intro ref frame found outstanding owner charged
    rw [tracking.frames] at found
    have uses := anchored.settled ref frame found outstanding owner charged
    rw [tracking.budgetKeys]
    split
    · next here =>
      rw [here] at uses charged ⊢
      by_cases stays : budgetKey = .socket socketId
      · rw [stays]
      · have leaves : guard.leavesOwnKey socketId budgetKey = true := by
          simp only [leavesOwnKey, uses, stays, ne_eq, not_false_eq_true, decide_true,
            Bool.and_self]
        rw [not_open_of_count_zero (clear leaves) found charged] at outstanding
        cases outstanding
    · exact uses
  positive := by rw [tracking.bySocket]; exact anchored.positive
  indexed := tracking.indexed
  ownTracked := by
    intro other owner uses
    rw [tracking.budgetKeys] at uses
    split at uses
    · next here =>
      rw [here]
      exact own owner (Option.some.inj uses)
    · exact anchored.ownTracked other owner uses

/-- A budget that may be stored under a key: it counts what the key counts, and it is the object
that is there. -/
structure Continues (guard : IngressGuard) (key : BudgetKey) (state : SocketGuardState) : Prop where
  pending : state.pendingWork = guard.pendingOf key
  same : ∀ existing, guard.stateByKey.get key = some existing → state.ref = existing.ref

theorem continues_currentState (guard : IngressGuard) (key : BudgetKey) (nowMs : Nat) :
    Continues guard key (guard.currentState key nowMs) := by
  unfold currentState
  cases found : guard.stateByKey.get key with
  | none =>
    refine ⟨by simp only [pendingOf, found, Option.map_none, Option.getD_none], ?_⟩
    intro existing stored
    rw [found] at stored
    cases stored
  | some existing =>
    dsimp only
    split
    · refine ⟨by simp only [pendingOf, found, Option.map_some, Option.getD_some], ?_⟩
      intro other stored
      rw [found] at stored
      cases stored
      rfl
    · refine ⟨by simp only [pendingOf, found, Option.map_some, Option.getD_some], ?_⟩
      intro other stored
      rw [found] at stored
      cases stored
      rfl

theorem pendingOf_putState (key : BudgetKey) (state : SocketGuardState) (other : BudgetKey) :
    (guard.putState key state).pendingOf other =
      if other = key then state.pendingWork else guard.pendingOf other := by
  unfold pendingOf putState
  rw [get_set]
  split <;> rfl

theorem total_putState (key : BudgetKey) (state : SocketGuardState) :
    (guard.putState key state).stateByKey.total (·.pendingWork) + guard.pendingOf key =
      guard.stateByKey.total (·.pendingWork) + state.pendingWork := by
  unfold pendingOf
  show (guard.stateByKey.set key state).total _ + _ = _
  cases found : guard.stateByKey.get key with
  | none =>
    simp only [Option.map_none, Option.getD_none, Nat.add_zero]
    exact guard.stateByKey.total_set_of_absent state _ found
  | some existing =>
    simp only [Option.map_some, Option.getD_some]
    exact guard.stateByKey.total_set_of_present state _ found

variable {state : SocketGuardState}

theorem Balanced.putState (balanced : Balanced guard)
    (continues : Continues guard key state) : Balanced (guard.putState key state) :=
  { balanced with
    keys := by
      intro other
      rw [pendingOf_putState]
      split
      · next here =>
        rw [continues.pending, here]
        exact balanced.keys key
      · exact balanced.keys other
    keySum := by
      have parts := @total_putState guard key state
      rw [continues.pending, balanced.keySum] at parts
      show _ = guard.pendingWork
      omega }

theorem Anchored.putState (anchored : Anchored guard)
    (same : ∀ existing, guard.stateByKey.get key = some existing → state.ref = existing.ref) :
    Anchored (guard.putState key state) :=
  { anchored with
    present := by
      intro ref frame found outstanding
      obtain ⟨existing, stored, object⟩ := anchored.present ref frame found outstanding
      show ∃ after, (guard.stateByKey.set key state).get frame.key = some after ∧ _
      by_cases here : frame.key = key
      · refine ⟨state, by rw [here]; exact get_set_self _ _ _, ?_⟩
        rw [here] at stored
        rw [same existing stored]
        exact object
      · exact ⟨existing, (get_set_of_ne _ _ here).trans stored, object⟩ }

theorem Anchored.count_charge (anchored : Anchored guard) (socketId : SocketId) (key : BudgetKey)
    (state : SocketGuardState) (test : Nat → GuardedFrame → Bool) :
    (guard.charge socketId key state).frames.count test =
      guard.frames.count test +
        if test guard.nextFrame { socketId := socketId, key := key, state := state.ref } then 1
        else 0 := by
  have fresh : guard.frames.get guard.nextFrame = none := by
    cases found : guard.frames.get guard.nextFrame with
    | none => rfl
    | some frame => exact absurd (anchored.numbered _ frame found) (Nat.lt_irrefl _)
  exact guard.frames.count_set_of_absent _ test fresh

theorem Balanced.charge (balanced : Balanced guard) (anchored : Anchored guard)
    (continues : Continues guard key state)
    (socketId : SocketId) : Balanced (guard.charge socketId key state) where
  keys := by
    intro other
    rw [anchored.count_charge]
    show (guard.putState key { state with pendingWork := state.pendingWork + 1 }).pendingOf other = _
    rw [pendingOf_putState]
    have charged : isCharged other guard.nextFrame
        { socketId := socketId, key := key, state := state.ref } = decide (key = other) := rfl
    rw [charged]
    by_cases here : other = key
    · rw [if_pos here, here, continues.pending, balanced.keys]
      simp only [decide_true, if_true]
    · have flipped : ¬ key = other := fun equal => here equal.symm
      rw [if_neg here, balanced.keys]
      simp only [flipped, decide_false, Bool.false_eq_true, if_false, Nat.add_zero]
  sockets := by
    intro other
    rw [anchored.count_charge]
    show (guard.pendingWorkBySocketId.increment socketId).read other = _
    rw [Counter.read_increment, balanced.sockets]
    have held : isHeld other guard.nextFrame
        { socketId := socketId, key := key, state := state.ref } =
          decide (socketId = other) := rfl
    rw [held]
    by_cases here : socketId = other
    · simp only [here, decide_true, if_true]
    · have flipped : ¬ other = socketId := fun equal => here equal.symm
      simp only [here, flipped, decide_false, Bool.false_eq_true, if_false]
  global := by
    rw [anchored.count_charge]
    show guard.pendingWork + 1 = _
    rw [balanced.global]
    rfl
  keySum := by
    show (guard.putState key _).stateByKey.total _ = guard.pendingWork + 1
    have parts := @total_putState guard key { state with pendingWork := state.pendingWork + 1 }
    rw [← continues.pending, balanced.keySum] at parts
    have added : ({ state with pendingWork := state.pendingWork + 1 } :
        SocketGuardState).pendingWork = state.pendingWork + 1 := rfl
    omega
  socketSum := by
    show (guard.pendingWorkBySocketId.increment socketId).total id = guard.pendingWork + 1
    rw [Counter.total_increment, balanced.socketSum]

theorem Anchored.charge (anchored : Anchored guard)
    (same : ∀ existing, guard.stateByKey.get key = some existing → state.ref = existing.ref)
    (uses : guard.budgetKeyBySocketId.get socketId = some key)
    (own : ∀ owner, key = .socket owner → owner = socketId) :
    Anchored (guard.charge socketId key state) := by
  have stored : Anchored (guard.putState key { state with pendingWork := state.pendingWork + 1 }) :=
    anchored.putState same
  refine ⟨forall_set (Nat.lt_succ_self _) fun ref frame before =>
      Nat.lt_succ_of_lt (anchored.numbered ref frame before),
    forall_set (fun _ => ⟨_, get_set_self _ _ _, rfl⟩) stored.present,
    forall_set own anchored.ownKey, forall_set (fun _ owner charged => ?_) anchored.settled,
    fun other zero => ?_, stored.indexed, stored.ownTracked⟩
  · have owned := own owner charged
    rw [owned]
    have here : key = .socket socketId := by rw [← owned]; exact charged
    rw [← here]
    exact uses
  · have counted : (guard.pendingWorkBySocketId.increment socketId).get other = some 0 := zero
    unfold Counter.increment at counted
    rcases get_set_cases counted with ⟨-, none⟩ | ⟨-, before⟩
    · exact absurd none.symm (Nat.succ_ne_zero _)
    · exact anchored.positive other before

theorem admitted (balanced : Balanced guard) (anchored : Anchored guard) (env : Env)
    (socketId : SocketId) (event : AgentInboundGuardEvent) (sizes : Option DeclaredSizes)
    (nowMs : Nat) (clear : guard.LeavesNone socketId (guard.resolveBudgetKey socketId)) :
    Balanced (guard.admitAgentInboundFrame env socketId event sizes nowMs).1 ∧
      Anchored (guard.admitAgentInboundFrame env socketId event sizes nowMs).1 := by
  have own : ∀ owner, guard.resolveBudgetKey socketId = .socket owner → owner = socketId := by
    intro owner resolved
    unfold resolveBudgetKey at resolved
    split at resolved
    · cases resolved
    · cases resolved
      rfl
  have tracking := anchored.tracking socketId (guard.resolveBudgetKey socketId)
  have balancedTracked := balanced.tracked tracking clear
  have anchoredTracked := anchored.tracked tracking own clear
  unfold admitAgentInboundFrame
  dsimp only
  generalize guard.resolveBudgetKey socketId = key at *
  generalize guard.trackSocketBudgetKey socketId key = tracked at *
  have uses : tracked.budgetKeyBySocketId.get socketId = some key := by
    rw [tracking.budgetKeys, if_pos rfl]
  have current := continues_currentState tracked key nowMs
  have counted : ∀ violations budgets, Continues tracked key
      { tracked.currentState key nowMs with
        consecutiveViolations := violations
        byClass := budgets } := fun _ _ => ⟨current.pending, current.same⟩
  split
  · split
    · exact ⟨balancedTracked.charge anchoredTracked (counted _ _) socketId,
        anchoredTracked.charge (counted _ _).same uses own⟩
    · exact ⟨balancedTracked, anchoredTracked⟩
  · split
    · exact ⟨balancedTracked.putState (counted _ _), anchoredTracked.putState (counted _ _).same⟩
    · exact ⟨balancedTracked.putState (counted _ _), anchoredTracked.putState (counted _ _).same⟩
    · exact ⟨balancedTracked.charge anchoredTracked (counted _ _) socketId,
        anchoredTracked.charge (counted _ _).same uses own⟩

/-! ## A frame is released -/

theorem count_released
    (found : guard.frames.get ref = some frame) (test : Nat → GuardedFrame → Bool)
    (ignores : test ref { frame with released := true } = false) :
    (guard.frames.set ref { frame with released := true }).count test +
        (if test ref frame then 1 else 0) = guard.frames.count test := by
  have counted := guard.frames.count_set_of_present { frame with released := true } test found
  rw [ignores] at counted
  simpa using counted

theorem released_late (balanced : Balanced guard) (anchored : Anchored guard)
    (found : guard.frames.get ref = some frame) (returned : isOpen frame = false) :
    Balanced { guard with frames := guard.frames.set ref { frame with released := true } } ∧
      Anchored { guard with frames := guard.frames.set ref { frame with released := true } } := by
  have closed : isOpen { frame with released := true } = false := rfl
  have same : ∀ test : Nat → GuardedFrame → Bool,
      (∀ number held, isOpen held = false → test number held = false) →
      (guard.frames.set ref { frame with released := true }).count test =
        guard.frames.count test := by
    intro test ignores
    have counted := count_released found test (ignores _ _ closed)
    rw [ignores ref frame returned] at counted
    simpa using counted
  refine ⟨⟨fun key => ?_, fun socketId => ?_, ?_, balanced.keySum, balanced.socketSum⟩,
    ⟨forall_set (anchored.numbered ref frame found) anchored.numbered,
      forall_set (fun outstanding => by cases outstanding) anchored.present,
      forall_set (anchored.ownKey ref frame found) anchored.ownKey,
      forall_set (fun outstanding => by cases outstanding) anchored.settled,
      anchored.positive, anchored.indexed, anchored.ownTracked⟩⟩
  · exact (balanced.keys key).trans
      (same (isCharged key) fun _ held notOpen => by simp [isCharged, notOpen]).symm
  · exact (balanced.sockets socketId).trans
      (same (isHeld socketId) fun _ held notOpen => by simp [isHeld, notOpen]).symm
  · exact balanced.global.trans (same isOutstanding fun _ held notOpen => notOpen).symm

theorem decrement_eq (counter : Counter SocketId) {tracked : Nat}
    (found : counter.get socketId = some tracked) :
    (if tracked - 1 = 0 then counter.erase socketId else counter.set socketId (tracked - 1)) =
      counter.decrement socketId := by
  have counted : counter.read socketId = tracked := by rw [Counter.read, found, Option.getD_some]
  unfold Counter.decrement
  rw [counted]
  by_cases last : tracked - 1 = 0
  · rw [if_pos last, if_neg (by omega)]
  · rw [if_neg last, if_pos (by omega)]

/-- The guard after an outstanding frame was released. -/
theorem released_open (balanced : Balanced guard) (anchored : Anchored guard)
    (found : guard.frames.get ref = some frame) (outstanding : isOpen frame = true) :
    Balanced { guard with
      frames := guard.frames.set ref { frame with released := true }
      stateByKey := guard.discharge frame
      pendingWork := guard.pendingWork - 1
      pendingWorkBySocketId := guard.pendingWorkBySocketId.decrement frame.socketId } ∧
    Anchored { guard with
      frames := guard.frames.set ref { frame with released := true }
      stateByKey := guard.discharge frame
      pendingWork := guard.pendingWork - 1
      pendingWorkBySocketId := guard.pendingWorkBySocketId.decrement frame.socketId } := by
  have closed : isOpen { frame with released := true } = false := rfl
  obtain ⟨state, stored, object⟩ := anchored.present ref frame found outstanding
  have discharged : guard.discharge frame =
      guard.stateByKey.set frame.key { state with pendingWork := state.pendingWork - 1 } := by
    simp only [discharge, stored, object, if_true]
  have charged := count_isCharged_pos found outstanding
  have pending : state.pendingWork = guard.frames.count (isCharged frame.key) := by
    have key := balanced.keys frame.key
    unfold pendingOf at key
    rw [stored] at key
    exact key
  have held : 0 < guard.pendingWorkBySocketId.read frame.socketId := by
    rw [balanced.sockets]
    exact guard.frames.count_pos found (by simp [isHeld, outstanding])
  have whole : 0 < guard.pendingWork := by
    rw [balanced.global]
    exact guard.frames.count_pos found outstanding
  refine ⟨⟨fun key => ?_, fun socketId => ?_, ?_, ?_, ?_⟩,
    ⟨forall_set (anchored.numbered ref frame found) anchored.numbered,
      forall_set (fun stillOpen => by cases stillOpen) fun other held before stillOpen => ?_,
      forall_set (anchored.ownKey ref frame found) anchored.ownKey,
      forall_set (fun stillOpen => by cases stillOpen) anchored.settled, fun socketId => ?_,
      anchored.indexed, anchored.ownTracked⟩⟩
  · have counted := count_released found (isCharged key) (by simp [isCharged, closed])
    have before := balanced.keys key
    unfold pendingOf at before ⊢
    simp only [discharged, get_set]
    by_cases here : key = frame.key
    · rw [if_pos here]
      simp only [isCharged, outstanding, here, decide_true, Bool.and_self, if_true] at counted
      show state.pendingWork - 1 = _
      rw [pending, here]
      omega
    · have flipped : ¬ frame.key = key := fun equal => here equal.symm
      rw [if_neg here, before]
      simp only [isCharged, outstanding, flipped, decide_false, Bool.and_false, Bool.false_eq_true,
        if_false, Nat.add_zero] at counted
      exact counted.symm
  · have counted := count_released found (isHeld socketId) (by simp [isHeld, closed])
    have before := balanced.sockets socketId
    show (guard.pendingWorkBySocketId.decrement frame.socketId).read socketId = _
    rw [Counter.read_decrement, before]
    by_cases here : socketId = frame.socketId
    · rw [if_pos here]
      simp only [isHeld, outstanding, here, decide_true, Bool.and_self, if_true] at counted ⊢
      omega
    · have flipped : ¬ frame.socketId = socketId := fun equal => here equal.symm
      rw [if_neg here, Nat.sub_zero]
      simp only [isHeld, outstanding, flipped, decide_false, Bool.and_false, Bool.false_eq_true,
        if_false, Nat.add_zero] at counted
      exact counted.symm
  · have counted := count_released found isOutstanding closed
    have seen : isOutstanding ref frame = true := outstanding
    rw [if_pos seen] at counted
    have before := balanced.global
    show guard.pendingWork - 1 = (guard.frames.set ref _).count isOutstanding
    omega
  · show (guard.discharge frame).total _ = guard.pendingWork - 1
    rw [discharged]
    have parts := guard.stateByKey.total_set_of_present
      { state with pendingWork := state.pendingWork - 1 } (·.pendingWork) stored
    have sum := balanced.keySum
    simp only at parts
    omega
  · show (guard.pendingWorkBySocketId.decrement frame.socketId).total id = guard.pendingWork - 1
    have parts := guard.pendingWorkBySocketId.total_decrement held
    have sum := balanced.socketSum
    omega
  · obtain ⟨current, present, same⟩ := anchored.present other held before stillOpen
    show ∃ after, (guard.discharge frame).get held.key = some after ∧ _
    rw [discharged]
    by_cases here : held.key = frame.key
    · rw [here, stored] at present
      cases present
      refine ⟨{ state with pendingWork := state.pendingWork - 1 }, ?_, same⟩
      rw [here, get_set_self]
    · exact ⟨current, (get_set_of_ne _ _ here).trans present, same⟩
  · show (guard.pendingWorkBySocketId.decrement frame.socketId).get socketId ≠ some 0
    unfold Counter.decrement
    split
    · next more =>
      intro zero
      rcases get_set_cases zero with ⟨-, none⟩ | ⟨-, before⟩
      · omega
      · exact anchored.positive socketId before
    · rw [get_erase]
      split
      · simp
      · exact anchored.positive socketId

/-- A release function is called after its socket disconnected, and the socket is counted again. -/
def releasesTwice (guard : IngressGuard) (ref : Nat) : Bool :=
  match guard.frames.get ref with
  | none => false
  | some frame =>
    !frame.released && frame.disconnected &&
      (guard.pendingWorkBySocketId.get frame.socketId).isSome

theorem released_once (balanced : Balanced guard) (anchored : Anchored guard) (ref : Nat)
    (once : guard.releasesTwice ref = false) :
    Balanced (guard.release ref) ∧ Anchored (guard.release ref) := by
  unfold release
  unfold releasesTwice at once
  cases found : guard.frames.get ref with
  | none => exact ⟨balanced, anchored⟩
  | some frame =>
    rw [found] at once
    dsimp only at once ⊢
    by_cases called : frame.released = true
    · rw [if_pos called]
      exact ⟨balanced, anchored⟩
    · rw [if_neg called]
      have fresh : frame.released = false := Bool.not_eq_true _ ▸ called
      cases counted : guard.pendingWorkBySocketId.get frame.socketId with
      | none =>
        have returned : isOpen frame = false := by
          by_contra outstanding
          have mine : isHeld frame.socketId ref frame = true := by
            simp [isHeld, Bool.not_eq_false _ ▸ outstanding]
          have held := guard.frames.count_pos found mine
          rw [← balanced.sockets, Counter.read, counted] at held
          exact Nat.lt_irrefl 0 held
        exact released_late balanced anchored found returned
      | some tracked =>
        have outstanding : isOpen frame = true := by
          rw [fresh, counted] at once
          simp only [Bool.not_false, Bool.true_and, Option.isSome_some, Bool.and_true] at once
          rw [isOpen, fresh, once]
          rfl
        have both := released_open balanced anchored found outstanding
        rw [← decrement_eq guard.pendingWorkBySocketId counted] at both
        exact both

theorem not_balanced_of_releasesTwice (balanced : Balanced guard) (anchored : Anchored guard)
    (twice : guard.releasesTwice ref = true) : ¬ Balanced (guard.release ref) := by
  intro after
  unfold releasesTwice at twice
  unfold release at after
  cases found : guard.frames.get ref with
  | none =>
    rw [found] at twice
    cases twice
  | some frame =>
    rw [found] at twice after
    simp only [Bool.and_eq_true, Bool.not_eq_true'] at twice
    obtain ⟨⟨fresh, gone⟩, seen⟩ := twice
    obtain ⟨tracked, counted⟩ := Option.isSome_iff_exists.mp seen
    dsimp only at after
    rw [fresh, counted, if_neg Bool.false_ne_true] at after
    dsimp only at after
    rw [decrement_eq guard.pendingWorkBySocketId counted] at after
    have returned : isOpen frame = false := by rw [isOpen, fresh, gone]; rfl
    have kept := count_released found (isHeld frame.socketId) (by rfl)
    have ignored : isHeld frame.socketId ref frame = false := by rw [isHeld, returned]; rfl
    rw [ignored] at kept
    have socket := after.sockets frame.socketId
    have before := balanced.sockets frame.socketId
    rw [Counter.read_decrement, if_pos rfl] at socket
    have positive : guard.pendingWorkBySocketId.read frame.socketId ≠ 0 := by
      rw [Counter.read, counted, Option.getD_some]
      intro zero
      rw [zero] at counted
      exact anchored.positive frame.socketId counted
    simp only [Bool.false_eq_true, if_false, Nat.add_zero] at kept
    dsimp only at socket
    omega

/-! ## A socket disconnects -/

theorem erase_idle (states : OrderedMap BudgetKey SocketGuardState)
    (idle : ((states.get key).map (·.pendingWork)).getD 0 = 0) :
    (∀ other, (((states.erase key).get other).map (·.pendingWork)).getD 0 =
        ((states.get other).map (·.pendingWork)).getD 0) ∧
      (states.erase key).total (·.pendingWork) = states.total (·.pendingWork) := by
  refine ⟨fun other => ?_, ?_⟩
  · rw [get_erase]
    split
    · next here => rw [here, idle]; rfl
    · rfl
  · cases found : states.get key with
    | none => rw [erase_of_absent _ found]
    | some state =>
      rw [found] at idle
      have parts := states.total_erase_of_present (·.pendingWork) found
      simp only [Option.map_some, Option.getD_some] at idle
      omega

/-- The guard after the pending frames of a socket were given back to a key. -/
structure Returning (guard returned : IngressGuard) (key : BudgetKey) (amount : Nat) : Prop where
  pending : ∀ other, returned.pendingOf other =
    if other = key then guard.pendingOf key - amount else guard.pendingOf other
  objects : ∀ other state, guard.stateByKey.get other = some state →
    ∃ after, returned.stateByKey.get other = some after ∧ after.ref = state.ref
  sum : amount ≤ guard.pendingOf key →
    returned.stateByKey.total (·.pendingWork) + amount = guard.stateByKey.total (·.pendingWork)
  global : amount ≤ guard.pendingOf key → returned.pendingWork = guard.pendingWork - amount
  frames : returned.frames = guard.frames
  bySocket : returned.pendingWorkBySocketId = guard.pendingWorkBySocketId
  budgetKeys : returned.budgetKeyBySocketId = guard.budgetKeyBySocketId
  sockets : returned.socketsByBudgetKey = guard.socketsByBudgetKey
  nextFrame : returned.nextFrame = guard.nextFrame

theorem Returning.nothing {amount : Nat} (same : guard.pendingOf key - amount = guard.pendingOf key)
    (none : amount ≤ guard.pendingOf key → amount = 0) : Returning guard guard key amount where
  pending := by
    intro other
    split
    · next here => rw [here, same]
    · rfl
  objects := fun _ state stored => ⟨state, stored, rfl⟩
  sum := by
    intro enough
    rw [none enough, Nat.add_zero]
  global := by
    intro enough
    rw [none enough, Nat.sub_zero]
  frames := rfl
  bySocket := rfl
  budgetKeys := rfl
  sockets := rfl
  nextFrame := rfl

theorem returning (guard : IngressGuard) (key : BudgetKey) (amount : Nat) :
    Returning guard (guard.returnPending key amount) key amount := by
  unfold returnPending
  cases found : guard.stateByKey.get key with
  | none =>
    have empty : guard.pendingOf key = 0 := by rw [pendingOf, found]; rfl
    exact Returning.nothing (by rw [empty, Nat.zero_sub]) (by rw [empty]; exact Nat.le_zero.mp)
  | some state =>
    dsimp only
    by_cases some : 0 < amount
    · rw [if_pos some]
      have counted : guard.pendingOf key = state.pendingWork := by rw [pendingOf, found]; rfl
      refine ⟨fun other => ?_, fun other stored present => ?_, fun enough => ?_, fun _ => rfl, rfl,
        rfl, rfl, rfl, rfl⟩
      · rw [counted]
        unfold pendingOf
        rw [get_set]
        split <;> rfl
      · by_cases here : other = key
        · rw [here, found] at present
          cases present
          refine ⟨{ state with pendingWork := state.pendingWork - amount }, ?_, rfl⟩
          rw [here, get_set_self]
        · exact ⟨stored, (get_set_of_ne _ _ here).trans present, rfl⟩
      · rw [counted] at enough
        have parts := guard.stateByKey.total_set_of_present
          { state with pendingWork := state.pendingWork - amount } (·.pendingWork) found
        dsimp only at parts ⊢
        omega
    · rw [if_neg some]
      have zero : amount = 0 := by omega
      exact Returning.nothing (by rw [zero, Nat.sub_zero]) fun _ => zero

/-- An outstanding frame of a socket that is charged to another key than the one the socket is
cleaned up under. -/
def isStray (guard : IngressGuard) (socketId : SocketId) (ref : Nat) (frame : GuardedFrame) :
    Bool :=
  isHeld socketId ref frame && !decide (frame.key = guard.keyOf socketId)

/-- An outstanding frame of another socket that is charged to a key. -/
def isForeign (socketId : SocketId) (key : BudgetKey) (ref : Nat) (frame : GuardedFrame) : Bool :=
  isCharged key ref frame && !decide (frame.socketId = socketId)

/-- No socket uses the key of a socket once it is gone. -/
def lastSocket (guard : IngressGuard) (socketId : SocketId) : Bool :=
  decide ((guard.socketsByBudgetKey.removeFromIndex (guard.keyOf socketId) socketId).members
    (guard.keyOf socketId) = [])

/-- The disconnect of a socket does not return its charges to the keys that were charged, or it
drops a budget to which frames of another socket are charged. -/
def disconnectLoses (guard : IngressGuard) (socketId : SocketId) : Bool :=
  decide (0 < guard.frames.count (guard.isStray socketId)) ||
    (guard.lastSocket socketId &&
      decide (0 < guard.frames.count (isForeign socketId (guard.keyOf socketId))))

@[simp] theorem markDisconnected_key (socketId : SocketId) (frame : GuardedFrame) :
    (markDisconnected socketId frame).key = frame.key := rfl

@[simp] theorem markDisconnected_socketId (socketId : SocketId) (frame : GuardedFrame) :
    (markDisconnected socketId frame).socketId = frame.socketId := rfl

theorem isOpen_markDisconnected (socketId : SocketId) (frame : GuardedFrame) :
    isOpen (markDisconnected socketId frame) =
      (isOpen frame && !decide (frame.socketId = socketId)) := by
  unfold isOpen markDisconnected
  cases frame.released <;> cases frame.disconnected <;> simp

theorem count_isCharged_disconnect (guard : IngressGuard) (socketId : SocketId)
    (key : BudgetKey) :
    (guard.frames.mapValues (markDisconnected socketId)).count (isCharged key) =
      guard.frames.count (isForeign socketId key) := by
  rw [count_mapValues]
  refine count_congr _ fun ref frame _ => ?_
  simp only [isCharged, isForeign, isOpen_markDisconnected, markDisconnected_key]
  exact Bool.and_right_comm _ _ _

theorem count_isHeld_disconnect (guard : IngressGuard) (socketId other : SocketId) :
    (guard.frames.mapValues (markDisconnected socketId)).count (isHeld other) =
      if other = socketId then 0 else guard.frames.count (isHeld other) := by
  rw [count_mapValues]
  by_cases here : other = socketId
  · rw [if_pos here, count_eq_zero_iff]
    intro ref frame _
    simp only [isHeld, isOpen_markDisconnected, markDisconnected_socketId, here]
    cases isOpen frame <;> cases decide (frame.socketId = socketId) <;> rfl
  · rw [if_neg here]
    refine count_congr _ fun ref frame _ => ?_
    simp only [isHeld, isOpen_markDisconnected, markDisconnected_socketId]
    by_cases mine : frame.socketId = other
    · simp only [mine, here, decide_true, decide_false, Bool.not_false, Bool.and_true]
    · simp only [mine, decide_false, Bool.and_false]

theorem count_isOutstanding_disconnect (guard : IngressGuard) (socketId : SocketId) :
    (guard.frames.mapValues (markDisconnected socketId)).count isOutstanding +
      guard.frames.count (isHeld socketId) = guard.frames.count isOutstanding := by
  rw [count_mapValues,
    guard.frames.count_split isOutstanding fun _ frame => decide (frame.socketId = socketId),
    Nat.add_comm]
  have others : (guard.frames.count fun ref frame =>
      isOutstanding ref (markDisconnected socketId frame)) =
        guard.frames.count fun ref frame =>
          isOutstanding ref frame && !decide (frame.socketId = socketId) :=
    count_congr _ fun ref frame _ => isOpen_markDisconnected socketId frame
  rw [others]
  rfl

theorem count_isForeign (guard : IngressGuard) (socketId : SocketId) (key : BudgetKey) :
    guard.frames.count (isCharged key) =
      (guard.frames.count fun ref frame =>
        isCharged key ref frame && decide (frame.socketId = socketId)) +
        guard.frames.count (isForeign socketId key) :=
  guard.frames.count_split (isCharged key) fun _ frame => decide (frame.socketId = socketId)

theorem count_own (guard : IngressGuard) (socketId : SocketId)
    (none : guard.frames.count (guard.isStray socketId) = 0) (key : BudgetKey) :
    (guard.frames.count fun ref frame =>
        isCharged key ref frame && decide (frame.socketId = socketId)) =
      if key = guard.keyOf socketId then guard.frames.count (isHeld socketId) else 0 := by
  have kept := (guard.frames.count_eq_zero_iff _).mp none
  by_cases here : key = guard.keyOf socketId
  · rw [if_pos here]
    refine count_congr _ fun ref frame found => ?_
    have own := kept ref frame found
    unfold isStray at own
    unfold isCharged
    rw [here]
    cases held : isHeld socketId ref frame with
    | false =>
      unfold isHeld at held
      rw [Bool.and_right_comm, held, Bool.false_and]
    | true =>
      rw [held, Bool.true_and, Bool.not_eq_false'] at own
      unfold isHeld at held
      rw [Bool.and_right_comm, held, own, Bool.and_self]
  · rw [if_neg here, count_eq_zero_iff]
    intro ref frame found
    have own := kept ref frame found
    unfold isStray isHeld at own
    unfold isCharged
    by_cases charged : frame.key = key
    · have elsewhere : ¬ frame.key = guard.keyOf socketId := fun equal => here (charged ▸ equal)
      rw [decide_eq_false elsewhere, Bool.not_false, Bool.and_true] at own
      rw [Bool.and_right_comm, own, Bool.false_and]
    · rw [decide_eq_false charged, Bool.and_false, Bool.false_and]

theorem Anchored.no_foreign_own (anchored : Anchored guard) (socketId : SocketId) :
    guard.frames.count (isForeign socketId (.socket socketId)) = 0 := by
  rw [count_eq_zero_iff]
  intro ref frame found
  unfold isForeign isCharged
  by_cases charged : frame.key = .socket socketId
  · have own := anchored.ownKey ref frame found socketId charged
    rw [decide_eq_true own.symm, Bool.not_true, Bool.and_false]
  · rw [decide_eq_false charged, Bool.and_false, Bool.false_and]

theorem Anchored.no_own_elsewhere (anchored : Anchored guard)
    (elsewhere : guard.keyOf socketId ≠ .socket socketId) :
    guard.frames.count (isCharged (.socket socketId)) = 0 := by
  rw [count_eq_zero_iff]
  intro ref frame found
  by_contra counted
  rw [Bool.not_eq_false, isCharged, Bool.and_eq_true, decide_eq_true_eq] at counted
  have uses := anchored.settled ref frame found counted.1 socketId counted.2
  rw [keyOf, uses] at elsewhere
  exact elsewhere rfl

theorem pendingOf_disconnect (guard : IngressGuard) (socketId : SocketId) (key : BudgetKey) :
    (guard.cleanupAgentInboundIngressSocket socketId).pendingOf key =
      if key = .socket socketId ∨
          (key = guard.keyOf socketId ∧ guard.lastSocket socketId = true) then 0
      else if key = guard.keyOf socketId then
        guard.pendingOf key - guard.pendingWorkBySocketId.read socketId
      else guard.pendingOf key := by
  have back := returning guard (guard.keyOf socketId) (guard.pendingWorkBySocketId.read socketId)
  have pending := back.pending key
  unfold pendingOf at pending ⊢
  unfold cleanupAgentInboundIngressSocket lastSocket
  dsimp only
  rw [back.sockets]
  by_cases last : (guard.socketsByBudgetKey.removeFromIndex (guard.keyOf socketId)
      socketId).members (guard.keyOf socketId) = []
  · rw [if_pos last, decide_eq_true last, get_erase, get_erase]
    by_cases used : key = guard.keyOf socketId
    · rw [if_pos used, if_pos (Or.inr ⟨used, rfl⟩)]
      rfl
    · rw [if_neg used] at pending ⊢
      by_cases own : key = .socket socketId
      · rw [if_pos own, if_pos (Or.inl own)]
        rfl
      · rw [if_neg own, if_neg (fun either => either.elim own fun both => used both.1), if_neg used]
        exact pending
  · rw [if_neg last, decide_eq_false last, get_erase]
    by_cases own : key = .socket socketId
    · rw [if_pos own, if_pos (Or.inl own)]
      rfl
    · rw [if_neg own, if_neg (fun either => either.elim own fun both => by cases both.2)]
      by_cases used : key = guard.keyOf socketId
      · rw [if_pos used] at pending ⊢
        rw [used] at pending ⊢
        exact pending
      · rw [if_neg used] at pending ⊢
        exact pending

/-- A disconnect that leaves no charges behind. -/
structure Settles (guard : IngressGuard) (socketId : SocketId) : Prop where
  noStray : guard.frames.count (guard.isStray socketId) = 0
  noForeign : guard.lastSocket socketId = true →
    guard.frames.count (isForeign socketId (guard.keyOf socketId)) = 0

theorem settles_iff (guard : IngressGuard) (socketId : SocketId) :
    guard.disconnectLoses socketId = false ↔ guard.Settles socketId := by
  unfold disconnectLoses
  rw [Bool.or_eq_false_iff, Bool.and_eq_false_imp, decide_eq_false_iff_not]
  simp only [decide_eq_false_iff_not, Nat.not_lt, Nat.le_zero]
  exact ⟨fun both => ⟨both.1, both.2⟩, fun settles => ⟨settles.noStray, settles.noForeign⟩⟩

theorem Balanced.pendingOf_sub (balanced : Balanced guard)
    (none : guard.frames.count (guard.isStray socketId) = 0) :
    guard.pendingWorkBySocketId.read socketId ≤ guard.pendingOf (guard.keyOf socketId) ∧
      guard.pendingOf (guard.keyOf socketId) - guard.pendingWorkBySocketId.read socketId =
        guard.frames.count (isForeign socketId (guard.keyOf socketId)) := by
  have parts := guard.count_isForeign socketId (guard.keyOf socketId)
  rw [guard.count_own socketId none, if_pos rfl, ← balanced.keys, ← balanced.sockets] at parts
  omega

theorem total_disconnect (balanced : Balanced guard) (anchored : Anchored guard)
    (settles : guard.Settles socketId) :
    (guard.cleanupAgentInboundIngressSocket socketId).stateByKey.total (·.pendingWork) +
      guard.pendingWorkBySocketId.read socketId = guard.stateByKey.total (·.pendingWork) := by
  obtain ⟨enough, left⟩ := balanced.pendingOf_sub settles.noStray
  have back := returning guard (guard.keyOf socketId) (guard.pendingWorkBySocketId.read socketId)
  have sum := back.sum enough
  unfold cleanupAgentInboundIngressSocket
  dsimp only
  rw [back.sockets]
  generalize guard.returnPending (guard.keyOf socketId)
    (guard.pendingWorkBySocketId.read socketId) = returned at back sum ⊢
  have ownIdle : returned.pendingOf (.socket socketId) = 0 := by
    rw [back.pending]
    by_cases own : .socket socketId = guard.keyOf socketId
    · rw [if_pos own, left, ← own]
      exact anchored.no_foreign_own socketId
    · rw [if_neg own, balanced.keys]
      exact anchored.no_own_elsewhere fun equal => own equal.symm
  obtain ⟨afterOwn, ownTotal⟩ := erase_idle returned.stateByKey ownIdle
  by_cases last : (guard.socketsByBudgetKey.removeFromIndex (guard.keyOf socketId)
      socketId).members (guard.keyOf socketId) = []
  · rw [if_pos last]
    have usedIdle : returned.pendingOf (guard.keyOf socketId) = 0 := by
      rw [back.pending, if_pos rfl, left]
      exact settles.noForeign (decide_eq_true last)
    have usedTotal := (erase_idle (returned.stateByKey.erase (.socket socketId))
      ((afterOwn (guard.keyOf socketId)).trans usedIdle)).2
    rw [usedTotal, ownTotal, sum]
  · rw [if_neg last, ownTotal, sum]

theorem Balanced.disconnected (balanced : Balanced guard) (anchored : Anchored guard)
    (settles : guard.Settles socketId) :
    Balanced (guard.cleanupAgentInboundIngressSocket socketId) := by
  obtain ⟨enough, left⟩ := balanced.pendingOf_sub settles.noStray
  have back := returning guard (guard.keyOf socketId) (guard.pendingWorkBySocketId.read socketId)
  have keySum := total_disconnect balanced anchored settles
  have pendingWork : (guard.cleanupAgentInboundIngressSocket socketId).pendingWork =
      guard.pendingWork - guard.pendingWorkBySocketId.read socketId := back.global enough
  have frames : (guard.cleanupAgentInboundIngressSocket socketId).frames =
      guard.frames.mapValues (markDisconnected socketId) :=
    congrArg (OrderedMap.mapValues · (markDisconnected socketId)) back.frames
  have bySocket : (guard.cleanupAgentInboundIngressSocket socketId).pendingWorkBySocketId =
      guard.pendingWorkBySocketId.erase socketId :=
    congrArg (OrderedMap.erase · socketId) back.bySocket
  refine ⟨fun key => ?_, fun other => ?_, ?_, ?_, ?_⟩
  · rw [pendingOf_disconnect, frames, count_isCharged_disconnect]
    split
    · next dropped =>
      rcases dropped with own | ⟨used, last⟩
      · rw [own, anchored.no_foreign_own]
      · rw [used, settles.noForeign last]
    · split
      · next used =>
        rw [used]
        exact left
      · next elsewhere =>
        have parts := guard.count_isForeign socketId key
        rw [guard.count_own socketId settles.noStray, if_neg elsewhere, Nat.zero_add] at parts
        rw [balanced.keys, parts]
  · rw [bySocket, frames, count_isHeld_disconnect]
    unfold Counter.read
    rw [get_erase]
    split
    · rfl
    · exact balanced.sockets other
  · have counted := guard.count_isOutstanding_disconnect socketId
    have whole := balanced.global
    have mine := balanced.sockets socketId
    rw [pendingWork, frames]
    omega
  · rw [pendingWork, ← balanced.keySum, ← keySum]
    omega
  · have parts := guard.pendingWorkBySocketId.total_erase socketId
    have sum := balanced.socketSum
    rw [pendingWork, bySocket]
    omega

/-- A disconnect that leaves no charges behind keeps the charges where they are. -/
theorem Anchored.disconnected (anchored : Anchored guard) (settles : guard.Settles socketId) :
    Anchored (guard.cleanupAgentInboundIngressSocket socketId) := by
  have back := returning guard (guard.keyOf socketId) (guard.pendingWorkBySocketId.read socketId)
  -- The frames after the disconnect are those before it, marked.
  have before : ∀ {ref : Nat} {after : GuardedFrame},
      (guard.cleanupAgentInboundIngressSocket socketId).frames.get ref = some after →
      ∃ frame, guard.frames.get ref = some frame ∧ markDisconnected socketId frame = after := by
    intro ref after stored
    have marked : ((guard.returnPending (guard.keyOf socketId)
      (guard.pendingWorkBySocketId.read socketId)).frames.mapValues
        (markDisconnected socketId)).get ref = some after := stored
    rw [back.frames, OrderedMap.get_mapValues] at marked
    exact Option.map_eq_some_iff.mp marked
  have other_of_open : ∀ {frame : GuardedFrame}, isOpen (markDisconnected socketId frame) = true →
      isOpen frame = true ∧ frame.socketId ≠ socketId := by
    intro frame outstanding
    rw [isOpen_markDisconnected, Bool.and_eq_true, Bool.not_eq_true', decide_eq_false_iff_not]
      at outstanding
    exact outstanding
  have budgetKeys : (guard.cleanupAgentInboundIngressSocket socketId).budgetKeyBySocketId =
      guard.budgetKeyBySocketId.erase socketId :=
    congrArg (OrderedMap.erase · socketId) back.budgetKeys
  have sockets : (guard.cleanupAgentInboundIngressSocket socketId).socketsByBudgetKey =
      guard.socketsByBudgetKey.removeFromIndex (guard.keyOf socketId) socketId :=
    congrArg (Index.removeFromIndex · (guard.keyOf socketId) socketId) back.sockets
  have bySocket : (guard.cleanupAgentInboundIngressSocket socketId).pendingWorkBySocketId =
      guard.pendingWorkBySocketId.erase socketId :=
    congrArg (OrderedMap.erase · socketId) back.bySocket
  refine ⟨fun ref after stored => ?_, fun ref after stored outstanding => ?_,
    fun ref after stored => ?_, fun ref after stored outstanding owner charged => ?_,
    fun other => ?_, fun key other => ?_, fun other owner uses => ?_⟩
  · obtain ⟨frame, found, rfl⟩ := before stored
    exact lt_of_lt_of_eq (anchored.numbered ref frame found) back.nextFrame.symm
  · obtain ⟨frame, found, rfl⟩ := before stored
    obtain ⟨still, other⟩ := other_of_open outstanding
    obtain ⟨state, present, object⟩ := anchored.present ref frame found still
    obtain ⟨kept, there, same⟩ := back.objects frame.key state present
    have notOwn : frame.key ≠ .socket socketId := fun own =>
      other (anchored.ownKey ref frame found socketId own).symm
    refine ⟨kept, ?_, same.trans object⟩
    unfold cleanupAgentInboundIngressSocket
    dsimp only
    rw [back.sockets, markDisconnected_key]
    split
    · next last =>
      have notUsed : frame.key ≠ guard.keyOf socketId := by
        intro used
        have none := (guard.frames.count_eq_zero_iff _).mp
          (settles.noForeign (decide_eq_true last)) ref frame found
        rw [isForeign, isCharged, still, decide_eq_true used, decide_eq_false other] at none
        cases none
      rw [get_erase_of_ne _ notUsed, get_erase_of_ne _ notOwn]
      exact there
    · rw [get_erase_of_ne _ notOwn]
      exact there
  · obtain ⟨frame, found, rfl⟩ := before stored
    exact anchored.ownKey ref frame found
  · obtain ⟨frame, found, rfl⟩ := before stored
    obtain ⟨still, other⟩ := other_of_open outstanding
    have own := anchored.ownKey ref frame found owner charged
    rw [budgetKeys, get_erase_of_ne _ (own ▸ other)]
    exact anchored.settled ref frame found still owner charged
  · rw [bySocket, get_erase]
    split
    · intro refuted
      cases refuted
    · exact anchored.positive other
  · rw [sockets, budgetKeys, Index.mem_removeFromIndex, anchored.indexed, get_erase]
    by_cases here : other = socketId
    · rw [if_pos here, here]
      refine ⟨fun both => ?_, (fun refuted => by cases refuted)⟩
      have used : guard.keyOf socketId = key := by rw [keyOf, both.1]; rfl
      exact absurd ⟨used.symm, rfl⟩ both.2
    · rw [if_neg here]
      exact ⟨And.left, fun uses => ⟨uses, fun both => here both.2⟩⟩
  · rw [budgetKeys, get_erase] at uses
    split at uses
    · cases uses
    · exact anchored.ownTracked other owner uses

theorem exists_of_count_pos {test : Nat → GuardedFrame → Bool}
    (counted : 0 < guard.frames.count test) :
    ∃ ref frame, guard.frames.get ref = some frame ∧ test ref frame = true := by
  by_contra nowhere
  have none : guard.frames.count test = 0 := by
    rw [count_eq_zero_iff]
    intro ref frame found
    rw [← Bool.not_eq_true]
    exact fun passes => nowhere ⟨ref, frame, found, passes⟩
  omega

theorem not_balanced_of_disconnectLoses (balanced : Balanced guard) (anchored : Anchored guard)
    (loses : guard.disconnectLoses socketId = true) :
    ¬ Balanced (guard.cleanupAgentInboundIngressSocket socketId) := by
  intro after
  have back := returning guard (guard.keyOf socketId) (guard.pendingWorkBySocketId.read socketId)
  have frames : (guard.cleanupAgentInboundIngressSocket socketId).frames =
      guard.frames.mapValues (markDisconnected socketId) :=
    congrArg (OrderedMap.mapValues · (markDisconnected socketId)) back.frames
  have counts : ∀ key, (guard.cleanupAgentInboundIngressSocket socketId).pendingOf key =
      guard.frames.count (isForeign socketId key) := by
    intro key
    rw [after.keys, frames, count_isCharged_disconnect]
  rw [disconnectLoses, Bool.or_eq_true, Bool.and_eq_true, decide_eq_true_eq, decide_eq_true_eq]
    at loses
  rcases loses with strays | ⟨last, foreign⟩
  · -- The key of a stray frame keeps a charge that no frame stands for.
    obtain ⟨ref, frame, found, stray⟩ := exists_of_count_pos strays
    rw [isStray, isHeld, Bool.and_eq_true, Bool.and_eq_true, Bool.not_eq_true',
      decide_eq_true_eq, decide_eq_false_iff_not] at stray
    obtain ⟨⟨outstanding, mine⟩, elsewhere⟩ := stray
    have notOwn : frame.key ≠ .socket socketId := by
      intro own
      have uses := anchored.settled ref frame found outstanding socketId own
      rw [own, keyOf, uses] at elsewhere
      exact elsewhere rfl
    have kept := counts frame.key
    rw [pendingOf_disconnect, if_neg fun either => either.elim notOwn fun both => elsewhere both.1,
      if_neg elsewhere, balanced.keys, guard.count_isForeign socketId] at kept
    have own : 0 < guard.frames.count fun ref other =>
        isCharged frame.key ref other && decide (other.socketId = socketId) :=
      guard.frames.count_pos found (by simp [isCharged, outstanding, mine])
    omega
  · have dropped := counts (guard.keyOf socketId)
    rw [pendingOf_disconnect, if_pos (Or.inr ⟨rfl, last⟩)] at dropped
    omega

/-! ## Runs -/

/-- A frame arrives whose socket leaves frames behind under its own key. -/
def admitLoses (guard : IngressGuard) (socketId : SocketId) : Bool :=
  guard.leavesOwnKey socketId (guard.resolveBudgetKey socketId) &&
    decide (0 < guard.frames.count (isCharged (.socket socketId)))

theorem not_balanced_of_admitLoses (anchored : Anchored guard) (env : Env)
    (event : AgentInboundGuardEvent) (sizes : Option DeclaredSizes) (nowMs : Nat)
    (loses : guard.admitLoses socketId = true) :
    ¬ Balanced (guard.admitAgentInboundFrame env socketId event sizes nowMs).1 := by
  rw [admitLoses, Bool.and_eq_true, decide_eq_true_eq] at loses
  obtain ⟨leaves, charged⟩ := loses
  have moves : guard.resolveBudgetKey socketId ≠ .socket socketId := by
    rw [leavesOwnKey, Bool.and_eq_true, decide_eq_true_eq, decide_eq_true_eq] at leaves
    exact leaves.2
  obtain ⟨ref, frame, found, counted⟩ := exists_of_count_pos charged
  have older : ref ≠ guard.nextFrame := Nat.ne_of_lt (anchored.numbered ref frame found)
  have tracking := anchored.tracking socketId (guard.resolveBudgetKey socketId)
  have empty := tracking.pendingOf (.socket socketId)
  rw [if_pos ⟨leaves, rfl⟩] at empty
  -- Whatever becomes of the frame, the own key counts nothing and its frames are still there.
  have stuck : ∀ after : IngressGuard, after.pendingOf (.socket socketId) = 0 →
      after.frames.get ref = some frame → ¬ Balanced after := by
    intro after nothing there balanced
    have positive := after.frames.count_pos there counted
    rw [← balanced.keys, nothing] at positive
    exact Nat.lt_irrefl 0 positive
  unfold admitAgentInboundFrame
  dsimp only
  generalize guard.resolveBudgetKey socketId = key at *
  generalize guard.trackSocketBudgetKey socketId key = tracked at *
  have there : tracked.frames.get ref = some frame := by rw [tracking.frames, found]
  have stored : ∀ state, ¬ Balanced (tracked.putState key state) := by
    intro state
    refine stuck _ ?_ there
    rw [pendingOf_putState, if_neg moves.symm, empty]
  have charges : ∀ state, ¬ Balanced (tracked.charge socketId key state) := by
    intro state
    refine stuck _ ?_ ?_
    · show (tracked.putState key _).pendingOf (.socket socketId) = 0
      rw [pendingOf_putState, if_neg moves.symm, empty]
    · show (tracked.frames.set tracked.nextFrame _).get ref = some frame
      rw [tracking.nextFrame, get_set_of_ne _ _ older, there]
  split
  · split
    · exact charges _
    · exact stuck _ empty there
  · split
    · exact stored _
    · exact stored _
    · exact charges _

/-- A step that loses a charge: a frame arrives whose socket leaves frames behind under its own
key, a charge is returned that was returned before, or a disconnect leaves charges behind. -/
def loses (guard : IngressGuard) : Action → Bool
  | .admitFrame socketId _ _ _ => guard.admitLoses socketId
  | .release ref => guard.releasesTwice ref
  | .disconnect socketId => guard.disconnectLoses socketId
  | .register _ _ _ => false
  | .unregister _ => false

theorem Balanced.registry (balanced : Balanced guard) (registry : AgentRegistry) :
    Balanced { guard with registry := registry } :=
  ⟨balanced.keys, balanced.sockets, balanced.global, balanced.keySum, balanced.socketSum⟩

theorem Anchored.registry (anchored : Anchored guard) (registry : AgentRegistry) :
    Anchored { guard with registry := registry } :=
  ⟨anchored.numbered, anchored.present, anchored.ownKey, anchored.settled, anchored.positive,
    anchored.indexed, anchored.ownTracked⟩

theorem step_keeps (env : Env) (balanced : Balanced guard) (anchored : Anchored guard)
    (action : Action) (keeps : guard.loses action = false) :
    Balanced (guard.step env action) ∧ Anchored (guard.step env action) := by
  cases action with
  | admitFrame socketId event sizes nowMs =>
    refine admitted balanced anchored env socketId event sizes nowMs fun leaves => ?_
    have none : guard.admitLoses socketId = false := keeps
    rw [admitLoses, leaves, Bool.true_and, decide_eq_false_iff_not] at none
    omega
  | release ref => exact released_once balanced anchored ref keeps
  | disconnect socketId =>
    have settles := (guard.settles_iff socketId).mp keeps
    exact ⟨balanced.disconnected anchored settles, anchored.disconnected settles⟩
  | register input isPeerConnected nowMs | unregister socketId =>
    exact ⟨balanced.registry _, anchored.registry _⟩

theorem step_breaks (env : Env) (balanced : Balanced guard) (anchored : Anchored guard)
    (action : Action) (lost : guard.loses action = true) :
    ¬ Balanced (guard.step env action) := by
  cases action with
  | admitFrame socketId event sizes nowMs =>
    exact not_balanced_of_admitLoses anchored env event sizes nowMs lost
  | release ref => exact not_balanced_of_releasesTwice balanced anchored lost
  | disconnect socketId => exact not_balanced_of_disconnectLoses balanced anchored lost
  | register input isPeerConnected nowMs | unregister socketId => cases lost

/-- In every state reached the pending work of every key and socket and of the hub is that of the
outstanding frames, exactly when no step of the run loses a charge. -/
theorem ingress_budgets_conserved (env : Env) (actions : List Action) :
    Meets (step env) (fun guard action => guard.loses action = false) {} actions ↔
      ∀ taken, taken <+: actions → Balanced (run (step env) {} taken) := by
  refine @meets_iff_every_state IngressGuard Action (step env)
    (fun guard action => guard.loses action = false) Anchored Balanced ?_ ?_ {} anchored_empty
    balanced_empty actions
  · intro guard action anchored balanced keeps
    exact (step_keeps env balanced anchored action keeps).2
  · intro guard action anchored balanced
    refine ⟨fun keeps => (step_keeps env balanced anchored action keeps).1, fun after => ?_⟩
    rw [← Bool.not_eq_true]
    exact fun lost => step_breaks env balanced anchored action lost after

/-- Two frames of a socket that registers as an agent between them. -/
def registersBetweenFrames : List Action :=
  [.admitFrame "socket-1" .rpcResponse (some ⟨10, 20⟩) 0,
    .register { agentId := "agent-1", socketId := "socket-1", userId := none } (fun _ => true) 1,
    .admitFrame "socket-1" .rpcResponse (some ⟨10, 20⟩) 2]

/-- The first frame is charged to the hub and to its socket and to no key any more. -/
theorem frame_dropped_at_registration :
    ¬ ∀ taken, taken <+: registersBetweenFrames → Balanced (run (step {}) {} taken) := by
  intro every
  have sum := (every registersBetweenFrames List.prefix_rfl).keySum
  revert sum
  decide

end IngressGuard

end PlugHub.Inbound
