import Mathlib.Data.List.Lex
import PlugHub.Library.OrderedMap
import PlugHub.Library.Runs
import PlugHub.Library.Utf16

/-!
# Pushes of agent profiles

A change of an agent's profile is broadcast, and the hub pushes it to consumers a moment after the
last change. The events of that moment are merged into one as they come. What the merged event says
of the version, its time and the changed fields depends on which events came, not on their order.
-/

namespace PlugHub.ProfilePushes

open Library

/-! ## Merging -/

/-- `AgentProfileBroadcastEvent`; its time is a text of `toISOString`, and each of its fields is
listed once. -/
structure AgentProfileBroadcastEvent where
  agentId : String
  profileVersion : Nat
  profileUpdatedAt : Option Utf16
  source : String
  changedFields : List String
  dated : profileUpdatedAt ≠ some []
  distinct : changedFields.Nodup

/-- The time of an event, the empty text when it has none. -/
def AgentProfileBroadcastEvent.updatedText (event : AgentProfileBroadcastEvent) : Utf16 :=
  event.profileUpdatedAt.getD []

theorem nodup_eraseDups (names : List String) : names.eraseDups.Nodup := by
  induction size : names.length using Nat.strong_induction_on generalizing names with
  | _ length ih =>
    cases names with
    | nil => exact List.nodup_nil
    | cons name rest =>
      rw [List.eraseDups_cons, List.nodup_cons]
      constructor
      · rw [List.mem_eraseDups]
        simp
      · refine ih _ ?_ _ rfl
        rw [← size]
        exact Nat.lt_succ_of_le (List.length_filter_le _ _)

/-- `[...new Set([...existing.changedFields, ...incoming.changedFields])]`. -/
def mergedFields (existing incoming : AgentProfileBroadcastEvent) : List String :=
  (existing.changedFields ++ incoming.changedFields).eraseDups

/-- `mergeCoalescedAgentProfileBroadcastEvent`. -/
def mergeCoalescedAgentProfileBroadcastEvent (existing incoming : AgentProfileBroadcastEvent) :
    AgentProfileBroadcastEvent :=
  if existing.profileVersion < incoming.profileVersion then
    { incoming with
      changedFields := mergedFields existing incoming
      distinct := nodup_eraseDups _ }
  else if incoming.profileVersion < existing.profileVersion then
    { existing with
      changedFields := mergedFields existing incoming
      distinct := nodup_eraseDups _ }
  else
    let latest := if existing.updatedText ≤ incoming.updatedText then incoming else existing
    { agentId := existing.agentId
      profileVersion := existing.profileVersion
      profileUpdatedAt := latest.profileUpdatedAt
      source := incoming.source
      changedFields := mergedFields existing incoming
      dated := latest.dated
      distinct := nodup_eraseDups _ }

/-- The event says of these events the highest version, the latest time among the events of that
version, and all the fields. -/
structure Coalesced (events : List AgentProfileBroadcastEvent)
    (merged : AgentProfileBroadcastEvent) : Prop where
  /-- No event has a higher version. -/
  highest : ∀ event ∈ events, event.profileVersion ≤ merged.profileVersion
  /-- Version and time are those of one event. -/
  stated : ∃ event ∈ events, event.profileVersion = merged.profileVersion ∧
    event.profileUpdatedAt = merged.profileUpdatedAt
  /-- Of that version no event is later. -/
  latest : ∀ event ∈ events, event.profileVersion = merged.profileVersion →
    event.updatedText ≤ merged.updatedText
  /-- The fields are those of all events. -/
  fields : ∀ field, field ∈ merged.changedFields ↔ ∃ event ∈ events, field ∈ event.changedFields

/-- Two events say the same of the version, the time and the fields. -/
structure SaysSame (first second : AgentProfileBroadcastEvent) : Prop where
  version : first.profileVersion = second.profileVersion
  time : first.profileUpdatedAt = second.profileUpdatedAt
  fields : first.changedFields.Perm second.changedFields

section Merging

variable {events others : List AgentProfileBroadcastEvent}
  {existing incoming merged other : AgentProfileBroadcastEvent}

theorem Coalesced.single (event : AgentProfileBroadcastEvent) : Coalesced [event] event := by
  constructor
  · intro only member
    cases List.mem_singleton.mp member
    exact le_rfl
  · exact ⟨event, List.mem_singleton_self _, rfl, rfl⟩
  · intro only member _
    cases List.mem_singleton.mp member
    exact le_rfl
  · intro field
    simp

theorem mem_mergedFields (first : Coalesced events existing) (second : Coalesced others incoming)
    (field : String) : field ∈ mergedFields existing incoming ↔
      ∃ event ∈ events ++ others, field ∈ event.changedFields := by
  unfold mergedFields
  rw [List.mem_eraseDups, List.mem_append, first.fields, second.fields]
  constructor
  · rintro (⟨event, member, listed⟩ | ⟨event, member, listed⟩)
    · exact ⟨event, List.mem_append_left _ member, listed⟩
    · exact ⟨event, List.mem_append_right _ member, listed⟩
  · rintro ⟨event, member, listed⟩
    rcases List.mem_append.mp member with earlier | later
    · exact .inl ⟨event, earlier, listed⟩
    · exact .inr ⟨event, later, listed⟩

/-- An event has the lower version, or the earlier time of one version. -/
def Before (event merged : AgentProfileBroadcastEvent) : Prop :=
  event.profileVersion ≤ merged.profileVersion ∧
    (event.profileVersion = merged.profileVersion → event.updatedText ≤ merged.updatedText)

theorem Coalesced.before (coalesced : Coalesced events existing) (below : Before existing merged) :
    ∀ event ∈ events, Before event merged := by
  intro event member
  have highest := coalesced.highest event member
  refine ⟨highest.trans below.1, fun same => ?_⟩
  have level : existing.profileVersion = merged.profileVersion :=
    below.1.antisymm (same.ge.trans highest)
  exact (coalesced.latest event member (same.trans level.symm)).trans (below.2 level)

/-- What comes behind both of two events, and says what one of them says, merges them. -/
theorem Coalesced.append (first : Coalesced events existing) (second : Coalesced others incoming)
    (earlier : Before existing merged) (later : Before incoming merged)
    (stated : ∃ event, (event = existing ∨ event = incoming) ∧
      event.profileVersion = merged.profileVersion ∧
      event.profileUpdatedAt = merged.profileUpdatedAt)
    (fields : merged.changedFields = mergedFields existing incoming) :
    Coalesced (events ++ others) merged := by
  have before := List.forall_mem_append.mpr ⟨first.before earlier, second.before later⟩
  refine ⟨fun event member => (before event member).1, ?_,
    fun event member => (before event member).2, fun field => ?_⟩
  · obtain ⟨_, rfl | rfl, version, time⟩ := stated
    · obtain ⟨event, member, its⟩ := first.stated
      exact ⟨event, List.mem_append_left _ member, its.1.trans version, its.2.trans time⟩
    · obtain ⟨event, member, its⟩ := second.stated
      exact ⟨event, List.mem_append_right _ member, its.1.trans version, its.2.trans time⟩
  · rw [fields]
    exact mem_mergedFields first second field

/-- Merging says of the events of both what each says of its own. -/
theorem Coalesced.merge (first : Coalesced events existing) (second : Coalesced others incoming) :
    Coalesced (events ++ others) (mergeCoalescedAgentProfileBroadcastEvent existing incoming) := by
  unfold mergeCoalescedAgentProfileBroadcastEvent
  split_ifs with newer older follows
  · exact first.append second ⟨newer.le, fun same => absurd same newer.ne⟩
      ⟨le_rfl, fun _ => le_rfl⟩ ⟨incoming, .inr rfl, rfl, rfl⟩ rfl
  · exact first.append second ⟨le_rfl, fun _ => le_rfl⟩
      ⟨older.le, fun same => absurd same older.ne⟩ ⟨existing, .inl rfl, rfl, rfl⟩ rfl
  · have level : incoming.profileVersion = existing.profileVersion := by omega
    exact first.append second ⟨le_rfl, fun _ => follows⟩ ⟨level.le, fun _ => le_rfl⟩
      ⟨incoming, .inr rfl, level, rfl⟩ rfl
  · have level : incoming.profileVersion = existing.profileVersion := by omega
    exact first.append second ⟨le_rfl, fun _ => le_rfl⟩
      ⟨level.le, fun _ => le_of_not_ge follows⟩ ⟨existing, .inl rfl, rfl, rfl⟩ rfl

theorem profileUpdatedAt_eq_of_text (same : merged.updatedText = other.updatedText) :
    merged.profileUpdatedAt = other.profileUpdatedAt := by
  unfold AgentProfileBroadcastEvent.updatedText at same
  have first := merged.dated
  have second := other.dated
  cases time : merged.profileUpdatedAt with
  | none =>
    cases time' : other.profileUpdatedAt with
    | none => rfl
    | some text =>
      rw [time, time'] at same
      rw [time', ← show [] = text from same] at second
      exact absurd rfl second
  | some text =>
    cases time' : other.profileUpdatedAt with
    | none =>
      rw [time, time'] at same
      rw [time, show text = [] from same] at first
      exact absurd rfl first
    | some text' =>
      rw [time, time'] at same
      exact congrArg some same

theorem Coalesced.saysSame (first : Coalesced events merged) (second : Coalesced others other)
    (same : ∀ event, event ∈ events ↔ event ∈ others) : SaysSame merged other := by
  obtain ⟨event, member, version, time⟩ := first.stated
  obtain ⟨event', member', version', time'⟩ := second.stated
  have versions : merged.profileVersion = other.profileVersion := by
    apply Nat.le_antisymm
    · rw [← version]
      exact second.highest event ((same event).mp member)
    · rw [← version']
      exact first.highest event' ((same event').mpr member')
  have text : event.updatedText = merged.updatedText := congrArg (·.getD []) time
  have text' : event'.updatedText = other.updatedText := congrArg (·.getD []) time'
  constructor
  · exact versions
  · apply profileUpdatedAt_eq_of_text
    apply le_antisymm
    · rw [← text]
      exact second.latest event ((same event).mp member) (version.trans versions)
    · rw [← text']
      exact first.latest event' ((same event').mpr member') (version'.trans versions.symm)
  · rw [List.perm_ext_iff_of_nodup merged.distinct other.distinct]
    intro field
    rw [first.fields, second.fields]
    simp only [same]

theorem coalesced_foldl (first : Coalesced events merged)
    (rest : List AgentProfileBroadcastEvent) :
    Coalesced (events ++ rest) (rest.foldl mergeCoalescedAgentProfileBroadcastEvent merged) := by
  induction rest generalizing events merged with
  | nil =>
    rw [List.append_nil]
    exact first
  | cons event rest ih =>
    have next := ih (first.merge (.single event))
    rw [List.append_assoc] at next
    exact next

end Merging

/-! ## Scheduling -/

/-- A pending push, with the events that came since the push before. -/
structure PendingAgentProfilePush where
  event : AgentProfileBroadcastEvent
  timeoutHandle : Nat
  window : List AgentProfileBroadcastEvent

/-- An event that was pushed to consumers, with the events it was merged from. -/
structure PushedProfile where
  event : AgentProfileBroadcastEvent
  window : List AgentProfileBroadcastEvent

/-- `AgentProfilePushSocketServerState`, with what was pushed. -/
structure ProfilePushState where
  shuttingDown : Bool := false
  /-- `pendingAgentProfilePushByAgentId`. -/
  pending : OrderedMap String PendingAgentProfilePush := .empty
  nextHandle : Nat := 0
  pushed : List PushedProfile := []

/-- What happens at the hub. -/
inductive PushAction where
  | broadcast (event : AgentProfileBroadcastEvent)
  | fire (agentId : String) (timeoutHandle : Nat)
  | shutDown

/-- The event of a broadcast about an agent. -/
def PushAction.about (agentId : String) : PushAction → Option AgentProfileBroadcastEvent
  | .broadcast event => if event.agentId = agentId then some event else none
  | _ => none

/-- It ends no wait of an agent: no timer of the agent fires, and the hub goes on. -/
def PushAction.Keeps (agentId : String) : PushAction → Prop
  | .broadcast _ => True
  | .fire other _ => other ≠ agentId
  | .shutDown => False

/-- The events of an agent that wait to be pushed. -/
def ProfilePushState.waiting (state : ProfilePushState) (agentId : String) :
    List AgentProfileBroadcastEvent :=
  ((state.pending.get agentId).map PendingAgentProfilePush.window).getD []

/-- `armAgentProfilePushDebounce` for a push. -/
def ProfilePushState.arm (state : ProfilePushState) (agentId : String)
    (event : AgentProfileBroadcastEvent) (window : List AgentProfileBroadcastEvent) :
    ProfilePushState :=
  { state with
    pending := state.pending.set agentId ⟨event, state.nextHandle, window⟩
    nextHandle := state.nextHandle + 1 }

/-- `scheduleAgentProfilePush`. -/
def ProfilePushState.scheduleAgentProfilePush (state : ProfilePushState)
    (event : AgentProfileBroadcastEvent) : ProfilePushState :=
  if state.shuttingDown then state
  else
    match state.pending.get event.agentId with
    | some existing =>
      state.arm event.agentId (mergeCoalescedAgentProfileBroadcastEvent existing.event event)
        (existing.window ++ [event])
    | none => state.arm event.agentId event [event]

/-- `scheduleAgentProfilePushFlush` and `flushAgentProfilePush`. -/
def ProfilePushState.scheduleAgentProfilePushFlush (state : ProfilePushState) (agentId : String)
    (timeoutHandle : Nat) : ProfilePushState :=
  match state.pending.get agentId with
  | none => state
  | some pending =>
    if pending.timeoutHandle ≠ timeoutHandle then state
    else if state.shuttingDown then state
    else
      { state with
        pending := state.pending.erase agentId
        pushed := state.pushed ++ [⟨pending.event, pending.window⟩] }

/-- One step. -/
def ProfilePushState.step (state : ProfilePushState) : PushAction → ProfilePushState
  | .broadcast event => state.scheduleAgentProfilePush event
  | .fire agentId timeoutHandle => state.scheduleAgentProfilePushFlush agentId timeoutHandle
  | .shutDown => { state with shuttingDown := true }

open ProfilePushState

/-- What is pending and what was pushed says of its events what is to be said of them. -/
structure Faithful (state : ProfilePushState) : Prop where
  pending : ∀ agentId push, state.pending.get agentId = some push →
    (∀ event ∈ push.window, event.agentId = agentId) ∧ Coalesced push.window push.event
  pushed : ∀ push ∈ state.pushed, Coalesced push.window push.event

/-- The events that wait are those that were broadcast since the push before. -/
structure Gathered (actions : List PushAction) : Prop where
  /-- Until its timer fires, every event of an agent waits, in the order of the broadcasts. -/
  waits : ∀ agentId later, .shutDown ∉ actions → (∀ action ∈ later, action.Keeps agentId) →
    (run ProfilePushState.step {} (actions ++ later)).waiting agentId =
      (run ProfilePushState.step {} actions).waiting agentId ++
        later.filterMap (PushAction.about agentId)
  /-- The timer that is armed pushes what is pending, and nothing waits. -/
  fires : ∀ agentId push, .shutDown ∉ actions →
    (run ProfilePushState.step {} actions).pending.get agentId = some push →
      (run ProfilePushState.step {} (actions ++ [.fire agentId push.timeoutHandle])).pushed =
          (run ProfilePushState.step {} actions).pushed ++ [⟨push.event, push.window⟩] ∧
        (run ProfilePushState.step {} (actions ++ [.fire agentId push.timeoutHandle])).waiting
          agentId = []

section Steps

variable {state : ProfilePushState}

theorem Faithful.arm (faithful : Faithful state) {agentId : String}
    {event : AgentProfileBroadcastEvent} {window : List AgentProfileBroadcastEvent}
    (own : ∀ event ∈ window, event.agentId = agentId) (coalesced : Coalesced window event) :
    Faithful (state.arm agentId event window) := by
  constructor
  · intro other push found
    dsimp only [ProfilePushState.arm] at found
    rw [OrderedMap.get_set] at found
    split_ifs at found with same
    · cases found
      rw [same]
      exact ⟨own, coalesced⟩
    · exact faithful.pending other push found
  · exact faithful.pushed

theorem Faithful.schedule (faithful : Faithful state) (event : AgentProfileBroadcastEvent) :
    Faithful (state.scheduleAgentProfilePush event) := by
  unfold scheduleAgentProfilePush
  by_cases stopping : state.shuttingDown = true
  · rw [if_pos stopping]
    exact faithful
  · rw [if_neg stopping]
    cases present : state.pending.get event.agentId with
    | none =>
      apply faithful.arm
      · intro only member
        cases List.mem_singleton.mp member
        rfl
      · exact .single event
    | some existing =>
      obtain ⟨own, coalesced⟩ := faithful.pending event.agentId existing present
      apply faithful.arm
      · exact forall_mem_concat own rfl
      · exact coalesced.merge (.single event)

theorem Faithful.flush (faithful : Faithful state) (agentId : String) (timeoutHandle : Nat) :
    Faithful (state.scheduleAgentProfilePushFlush agentId timeoutHandle) := by
  unfold scheduleAgentProfilePushFlush
  cases present : state.pending.get agentId with
  | none => exact faithful
  | some push =>
    dsimp only
    split_ifs with stale stopping
    · exact faithful
    · exact faithful
    · constructor
      · intro other pending found
        dsimp only at found
        rw [OrderedMap.get_erase] at found
        split_ifs at found with same
        exact faithful.pending other pending found
      · exact forall_mem_concat faithful.pushed (faithful.pending agentId push present).2

/-- Every action keeps the windows faithful. -/
theorem Faithful.step (faithful : Faithful state) (action : PushAction) :
    Faithful (state.step action) := by
  cases action with
  | broadcast event => exact faithful.schedule event
  | fire agentId timeoutHandle => exact faithful.flush agentId timeoutHandle
  | shutDown => exact ⟨faithful.pending, faithful.pushed⟩

theorem waiting_schedule (working : state.shuttingDown = false)
    (event : AgentProfileBroadcastEvent) (agentId : String) :
    (state.scheduleAgentProfilePush event).waiting agentId =
      state.waiting agentId ++ (PushAction.about agentId (.broadcast event)).toList := by
  have armed (merged : AgentProfileBroadcastEvent) (window : List AgentProfileBroadcastEvent) :
      (state.arm event.agentId merged window).waiting agentId =
        if agentId = event.agentId then window else state.waiting agentId := by
    unfold waiting ProfilePushState.arm
    rw [OrderedMap.get_set]
    split_ifs <;> rfl
  unfold scheduleAgentProfilePush PushAction.about
  rw [if_neg (by rw [working]; exact Bool.false_ne_true)]
  by_cases own : event.agentId = agentId
  · subst own
    cases present : state.pending.get event.agentId with
    | none =>
      have before : state.waiting event.agentId = [] := by
        rw [waiting, present]
        rfl
      simp [armed, before]
    | some existing =>
      have before : state.waiting event.agentId = existing.window := by
        rw [waiting, present]
        rfl
      simp [armed, before]
  · have apart : agentId ≠ event.agentId := fun same => own same.symm
    cases state.pending.get event.agentId <;> simp [armed, own, apart]

theorem waiting_flush {agentId other : String} (apart : other ≠ agentId) (timeoutHandle : Nat) :
    (state.scheduleAgentProfilePushFlush other timeoutHandle).waiting agentId =
      state.waiting agentId := by
  unfold scheduleAgentProfilePushFlush
  cases state.pending.get other with
  | none => rfl
  | some push =>
    dsimp only
    split_ifs
    · rfl
    · rfl
    · unfold waiting
      rw [OrderedMap.get_erase_of_ne _ (Ne.symm apart)]

theorem shuttingDown_step (state : ProfilePushState) {action : PushAction}
    (goesOn : action ≠ .shutDown) : (state.step action).shuttingDown = state.shuttingDown := by
  cases action with
  | broadcast event =>
    simp only [ProfilePushState.step, scheduleAgentProfilePush]
    split_ifs
    · rfl
    · cases state.pending.get event.agentId <;> rfl
  | fire agentId timeoutHandle =>
    simp only [ProfilePushState.step, scheduleAgentProfilePushFlush]
    cases state.pending.get agentId with
    | none => rfl
    | some push =>
      dsimp only
      split_ifs <;> rfl
  | shutDown => exact absurd rfl goesOn

/-- What waits is what was broadcast since. -/
theorem waiting_run (working : state.shuttingDown = false) {agentId : String}
    {actions : List PushAction} (kept : ∀ action ∈ actions, action.Keeps agentId) :
    (run ProfilePushState.step state actions).waiting agentId =
      state.waiting agentId ++ actions.filterMap (PushAction.about agentId) := by
  induction actions generalizing state with
  | nil => simp
  | cons action rest ih =>
    have keeps := kept action List.mem_cons_self
    have goesOn : action ≠ .shutDown := by
      rintro rfl
      exact keeps
    have later := ih ((shuttingDown_step state goesOn).trans working) fun next member =>
      kept next (List.mem_cons_of_mem _ member)
    rw [run_cons, later]
    cases action with
    | broadcast event =>
      rw [ProfilePushState.step, waiting_schedule working, List.append_assoc]
      cases about : PushAction.about agentId (.broadcast event) <;> simp [about]
    | fire other timeoutHandle =>
      rw [ProfilePushState.step, waiting_flush keeps]
      rfl
    | shutDown => exact absurd rfl goesOn

end Steps

theorem working_run {actions : List PushAction} (goesOn : .shutDown ∉ actions) :
    (run ProfilePushState.step {} actions).shuttingDown = false := by
  have keeps : ∀ (taken : List PushAction) (state : ProfilePushState) (action : PushAction),
      (.shutDown ∉ taken → state.shuttingDown = false) →
        .shutDown ∉ taken ++ [action] → (state.step action).shuttingDown = false := by
    intro taken state action working going
    rw [List.mem_append, List.mem_singleton, not_or] at going
    exact (shuttingDown_step state (Ne.symm going.2)).trans (working going.1)
  exact run_history ProfilePushState.step keeps (fun _ => rfl) actions goesOn

/-- And so it is in every run. -/
theorem gathered_run (actions : List PushAction) : Gathered actions := by
  constructor
  · intro agentId later goesOn kept
    rw [run_append]
    exact waiting_run (working_run goesOn) kept
  · intro agentId push goesOn present
    have working := working_run goesOn
    rw [run_append, run_cons, run_nil]
    generalize run ProfilePushState.step {} actions = state at present working
    simp only [ProfilePushState.step, scheduleAgentProfilePushFlush, present,
      working, ne_eq, not_true_eq_false, Bool.false_eq_true, if_false]
    refine ⟨trivial, ?_⟩
    unfold waiting
    rw [OrderedMap.get_erase_self]
    rfl

/-- In every state, what is pending or was pushed says of the events of its wait, which are those
that were broadcast since the push before, the highest version, the latest time of that version and
all the fields. Merging the same events in any order says the same, and so merging is associative,
commutative and idempotent in what it says. -/
theorem profile_pushes_coalesce :
    (∀ actions, Faithful (run ProfilePushState.step {} actions) ∧ Gathered actions) ∧
      (∀ first rest, Coalesced (first :: rest)
        (rest.foldl mergeCoalescedAgentProfileBroadcastEvent first)) ∧
      (∀ first rest second others, (first :: rest).Perm (second :: others) →
        SaysSame (rest.foldl mergeCoalescedAgentProfileBroadcastEvent first)
          (others.foldl mergeCoalescedAgentProfileBroadcastEvent second)) ∧
      (∀ first second third, SaysSame
        (mergeCoalescedAgentProfileBroadcastEvent
          (mergeCoalescedAgentProfileBroadcastEvent first second) third)
        (mergeCoalescedAgentProfileBroadcastEvent first
          (mergeCoalescedAgentProfileBroadcastEvent second third))) ∧
      (∀ first second, SaysSame (mergeCoalescedAgentProfileBroadcastEvent first second)
        (mergeCoalescedAgentProfileBroadcastEvent second first)) ∧
      ∀ event, SaysSame (mergeCoalescedAgentProfileBroadcastEvent event event) event := by
  refine ⟨?_, ?_, ?_, ?_, ?_, ?_⟩
  · intro actions
    refine ⟨?_, gathered_run actions⟩
    have keeps : ∀ state action, Faithful state →
        Faithful (ProfilePushState.step state action) := by
      intro state action faithful
      exact faithful.step action
    apply run_invariant ProfilePushState.step keeps
    constructor
    · intro agentId push found
      cases found
    · intro push member
      cases member
  · intro first rest
    exact coalesced_foldl (.single first) rest
  · intro first rest second others same
    exact (coalesced_foldl (.single first) rest).saysSame (coalesced_foldl (.single second) others)
      fun event => same.mem_iff
  · intro first second third
    have left := ((Coalesced.single first).merge (.single second)).merge (.single third)
    have right := (Coalesced.single first).merge ((Coalesced.single second).merge (.single third))
    exact left.saysSame right fun event => by simp
  · intro first second
    have left := (Coalesced.single first).merge (.single second)
    have right := (Coalesced.single second).merge (.single first)
    exact left.saysSame right fun event => by simp [or_comm]
  · intro event
    have left := (Coalesced.single event).merge (.single event)
    exact left.saysSame (.single event) fun other => by simp

end PlugHub.ProfilePushes
