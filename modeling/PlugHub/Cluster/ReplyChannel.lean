import Mathlib.Logic.Basic
import Mathlib.Tactic.SplitIfs
import PlugHub.Library.Runs

/-!
# The reply channel of a forwarded command

One attempt to forward a command, at the level of the commands that Redis executes. The forwarding
hub writes a SUBSCRIBE to its subscriber connection and a PUBLISH to its publisher connection
without waiting for the first; Redis executes the commands of each connection in order, and those
of different connections in any order. A published message reaches the connections that are
subscribed at that moment and no other.
-/

namespace PlugHub.Cluster

open Library

/-- What the hubs ask of Redis for one attempt. -/
inductive RedisCommand where
  | subscribeReply
  | unsubscribeReply
  | publishCommand
  | publishReply

/-- The connections. -/
inductive Connection where
  | subscriber
  | publisher
  | owner
deriving DecidableEq

/-- How the wait for a reply stands. -/
inductive ReplyWait where
  | unissued
  | waiting
  | received
  | timedOut
deriving DecidableEq

/-- The attempt, its connections and Redis. -/
structure ChannelState where
  queue : Connection → List RedisCommand := fun _ => []
  subscribed : Bool := false
  dispatching : Nat := 0
  pushed : Bool := false
  wait : ReplyWait := .unissued
  executedReplies : Nat := 0
  repliedInTime : Bool := false

/-- What happens. -/
inductive ChannelAction where
  | forward
  | execute (connection : Connection)
  | reply
  | listen
  | timeout

namespace ChannelState

/-- Write a command to a connection. -/
def write (state : ChannelState) (connection : Connection) (command : RedisCommand) :
    ChannelState :=
  { state with queue := fun other =>
      if other = connection then state.queue connection ++ [command] else state.queue other }

/-- Execute a command. -/
def executed (state : ChannelState) : RedisCommand → ChannelState
  | .subscribeReply => { state with subscribed := true }
  | .unsubscribeReply => { state with subscribed := false }
  | .publishCommand => { state with dispatching := state.dispatching + 1 }
  | .publishReply =>
    { state with pushed := state.pushed || state.subscribed
                 executedReplies := state.executedReplies + 1
                 repliedInTime := state.repliedInTime || decide (state.wait = .waiting) }

/-- One step. -/
def step (state : ChannelState) : ChannelAction → ChannelState
  | .forward =>
    if state.wait = .unissued then
      ({ state with wait := .waiting }.write .subscriber .subscribeReply).write .publisher
        .publishCommand
    else state
  | .execute connection =>
    match state.queue connection with
    | [] => state
    | command :: rest =>
      { state with queue := fun other =>
          if other = connection then rest else state.queue other }.executed command
  | .reply =>
    if 0 < state.dispatching then
      { state with dispatching := state.dispatching - 1 }.write .owner .publishReply
    else state
  | .listen =>
    if state.wait = .waiting ∧ state.pushed = true then
      { state with wait := .received }.write .subscriber .unsubscribeReply
    else state
  | .timeout =>
    if state.wait = .waiting then
      { state with wait := .timedOut }.write .subscriber .unsubscribeReply
    else state

/-- A reply that was published while it was awaited was pushed to the forwarding hub. -/
def Heard (state : ChannelState) : Prop := state.repliedInTime = true → state.pushed = true

/-- Redis executes an awaited reply only after the SUBSCRIBE. -/
def SubscribedFirst (state : ChannelState) : ChannelAction → Prop
  | .execute .owner =>
    (state.queue .owner).head? = some .publishReply → state.wait = .waiting →
      .subscribeReply ∉ state.queue .subscriber
  | _ => True

/-- What every step keeps. -/
structure Sound (state : ChannelState) : Prop where
  quiet : state.wait = .unissued →
    (∀ connection, state.queue connection = []) ∧ state.subscribed = false
  subscription : state.wait = .waiting →
    (state.queue .subscriber = [.subscribeReply] ∧ state.subscribed = false) ∨
      (state.queue .subscriber = [] ∧ state.subscribed = true)
  commands : ∀ command ∈ state.queue .publisher, command = .publishCommand
  replies : ∀ command ∈ state.queue .owner, command = .publishReply
  subscriptions : ∀ command ∈ state.queue .subscriber,
    command = .subscribeReply ∨ command = .unsubscribeReply
  single : (state.queue .publisher).length + state.dispatching + (state.queue .owner).length +
    state.executedReplies = if state.wait = .unissued then 0 else 1
  fresh : state.executedReplies = 0 → state.pushed = false ∧ state.repliedInTime = false

variable {state : ChannelState}

theorem sound_initial : Sound {} where
  quiet _ := ⟨fun _ => rfl, rfl⟩
  subscription waits := by cases waits
  commands _ member := by cases member
  replies _ member := by cases member
  subscriptions _ member := by cases member
  single := rfl
  fresh _ := ⟨rfl, rfl⟩

section

variable (sound : state.Sound)

include sound

theorem sound_forward : (state.step .forward).Sound := by
  by_cases unissued : state.wait = .unissued
  · obtain ⟨quiet, unsubscribed⟩ := sound.quiet unissued
    have single := sound.single
    rw [if_pos unissued] at single
    simp only [step, if_pos unissued]
    constructor
    · simp [write]
    · intro _
      exact .inl ⟨by simp [write, quiet], unsubscribed⟩
    · simp [write, quiet]
    · simp [write, quiet]
    · simp [write, quiet]
    · simp [write, quiet] at single ⊢
      omega
    · exact sound.fresh
  · simp only [step, if_neg unissued]
    exact sound

theorem sound_end (waits : state.wait = .waiting) {ended : ReplyWait}
    (issued : ended ≠ .unissued) (settled : ended ≠ .waiting) :
    ({ state with wait := ended }.write .subscriber .unsubscribeReply).Sound := by
  have single := sound.single
  rw [if_neg (by rw [waits]; decide)] at single
  constructor
  · exact fun unissued => absurd unissued issued
  · exact fun waiting => absurd waiting settled
  · exact sound.commands
  · exact sound.replies
  · intro command member
    simp only [write, if_true, List.mem_append, List.mem_singleton] at member
    rcases member with earlier | last
    · exact sound.subscriptions command earlier
    · exact .inr last
  · simp only [write, if_neg issued]
    exact single
  · exact sound.fresh

theorem issued_of_queued {connection : Connection} {command : RedisCommand}
    {rest : List RedisCommand} (queued : state.queue connection = command :: rest) :
    state.wait ≠ .unissued := by
  intro unissued
  rw [(sound.quiet unissued).1 connection] at queued
  cases queued

theorem sound_execute_subscriber :
    (state.step (.execute .subscriber)).Sound := by
  cases queued : state.queue .subscriber with
  | nil =>
    simp only [step, queued]
    exact sound
  | cons command rest =>
    have issued := issued_of_queued sound queued
    have single := sound.single
    rw [if_neg issued] at single
    have kind := sound.subscriptions command (by rw [queued]; exact List.mem_cons_self)
    have others : ∀ later ∈ rest, later = .subscribeReply ∨ later = .unsubscribeReply :=
      fun later member => sound.subscriptions later (by rw [queued]; simp [member])
    rcases kind with rfl | rfl
    · simp only [step, queued, executed]
      refine ⟨fun unissued => absurd unissued issued, fun waits => ?_, sound.commands,
        sound.replies, others, by rw [if_neg issued]; exact single, sound.fresh⟩
      rcases sound.subscription waits with ⟨one, -⟩ | ⟨blank, -⟩
      · rw [queued] at one
        exact .inr ⟨(List.cons.inj one).2, rfl⟩
      · rw [queued] at blank
        cases blank
    · simp only [step, queued, executed]
      refine ⟨fun unissued => absurd unissued issued, fun waits => ?_, sound.commands,
        sound.replies, others, by rw [if_neg issued]; exact single, sound.fresh⟩
      rcases sound.subscription waits with ⟨one, -⟩ | ⟨blank, -⟩
      · rw [queued] at one
        cases (List.cons.inj one).1
      · rw [queued] at blank
        cases blank

theorem sound_execute_publisher :
    (state.step (.execute .publisher)).Sound := by
  cases queued : state.queue .publisher with
  | nil =>
    simp only [step, queued]
    exact sound
  | cons command rest =>
    have issued := issued_of_queued sound queued
    have single := sound.single
    rw [if_neg issued, queued, List.length_cons] at single
    have others : ∀ later ∈ rest, later = .publishCommand :=
      fun later member => sound.commands later (by rw [queued]; simp [member])
    obtain rfl := sound.commands command (by rw [queued]; exact List.mem_cons_self)
    simp only [step, queued, executed]
    refine ⟨fun unissued => absurd unissued issued, sound.subscription, others, sound.replies,
      sound.subscriptions, ?_, sound.fresh⟩
    simp only [if_neg issued, if_true, reduceCtorEq, if_false]
    omega

theorem sound_execute_owner : (state.step (.execute .owner)).Sound := by
  cases queued : state.queue .owner with
  | nil =>
    simp only [step, queued]
    exact sound
  | cons command rest =>
    have issued := issued_of_queued sound queued
    have single := sound.single
    rw [if_neg issued, queued, List.length_cons] at single
    have others : ∀ later ∈ rest, later = .publishReply :=
      fun later member => sound.replies later (by rw [queued]; simp [member])
    obtain rfl := sound.replies command (by rw [queued]; exact List.mem_cons_self)
    simp only [step, queued, executed]
    refine ⟨fun unissued => absurd unissued issued, sound.subscription, sound.commands, others,
      sound.subscriptions, ?_, fun blank => ?_⟩
    · simp only [if_neg issued, if_true, reduceCtorEq, if_false]
      omega
    · exact absurd blank (Nat.succ_ne_zero _)

theorem sound_after (action : ChannelAction) : (state.step action).Sound := by
  cases action with
  | forward => exact sound_forward sound
  | execute connection =>
    cases connection with
    | subscriber => exact sound_execute_subscriber sound
    | publisher => exact sound_execute_publisher sound
    | owner => exact sound_execute_owner sound
  | reply =>
    by_cases dispatches : 0 < state.dispatching
    · have single := sound.single
      simp only [step, if_pos dispatches]
      have issued : state.wait ≠ .unissued := by
        intro unissued
        rw [if_pos unissued] at single
        omega
      rw [if_neg issued] at single
      refine ⟨fun unissued => absurd unissued issued, sound.subscription, sound.commands, ?_,
        sound.subscriptions, ?_, sound.fresh⟩
      · intro command member
        simp only [write, if_true, List.mem_append, List.mem_singleton] at member
        rcases member with earlier | last
        · exact sound.replies command earlier
        · exact last
      · simp only [write, reduceCtorEq, if_false, if_true, if_neg issued, List.length_append,
          List.length_singleton]
        omega
    · simp only [step, if_neg dispatches]
      exact sound
  | listen =>
    by_cases pushed : state.wait = .waiting ∧ state.pushed = true
    · simp only [step, if_pos pushed]
      exact sound_end sound pushed.1 (by decide) (by decide)
    · simp only [step, if_neg pushed]
      exact sound
  | timeout =>
    by_cases waits : state.wait = .waiting
    · simp only [step, if_pos waits]
      exact sound_end sound waits (by decide) (by decide)
    · simp only [step, if_neg waits]
      exact sound

theorem heard_execute_owner_iff {rest : List RedisCommand}
    (queued : state.queue .owner = .publishReply :: rest) :
    (state.step (.execute .owner)).Heard ↔
      (state.wait = .waiting → .subscribeReply ∉ state.queue .subscriber) := by
  have issued := issued_of_queued sound queued
  have single := sound.single
  rw [if_neg issued, queued, List.length_cons] at single
  obtain ⟨unpushed, unnoted⟩ := sound.fresh (by omega)
  simp only [Heard, step, queued, executed, unpushed, unnoted, Bool.false_or, decide_eq_true_eq]
  refine forall_congr' fun waits => ?_
  rcases sound.subscription waits with ⟨one, unsubscribed⟩ | ⟨blank, subscribed⟩
  · simp [one, unsubscribed]
  · simp [blank, subscribed]

/-- An awaited reply is heard exactly when the SUBSCRIBE was executed before it. -/
theorem subscribedFirst_iff_heard (heard : state.Heard)
    (action : ChannelAction) : state.SubscribedFirst action ↔ (state.step action).Heard := by
  have others : ∀ {other : ChannelState}, other.pushed = state.pushed →
      other.repliedInTime = state.repliedInTime → other.Heard := by
    intro other pushed noted
    unfold Heard
    rw [pushed, noted]
    exact heard
  cases action with
  | forward =>
    refine ⟨fun _ => ?_, fun _ => trivial⟩
    simp only [step]
    split_ifs
    · exact others rfl rfl
    · exact heard
  | execute connection =>
    cases connection with
    | subscriber =>
      refine ⟨fun _ => ?_, fun _ => trivial⟩
      cases queued : state.queue .subscriber with
      | nil =>
        simp only [step, queued]
        exact heard
      | cons command rest =>
        have kind := sound.subscriptions command (by rw [queued]; exact List.mem_cons_self)
        simp only [step, queued]
        rcases kind with rfl | rfl
        · exact others rfl rfl
        · exact others rfl rfl
    | publisher =>
      refine ⟨fun _ => ?_, fun _ => trivial⟩
      cases queued : state.queue .publisher with
      | nil =>
        simp only [step, queued]
        exact heard
      | cons command rest =>
        obtain rfl := sound.commands command (by rw [queued]; exact List.mem_cons_self)
        simp only [step, queued]
        exact others rfl rfl
    | owner =>
      cases queued : state.queue .owner with
      | nil =>
        simp only [SubscribedFirst, step, queued, List.head?_nil, reduceCtorEq, false_implies,
          true_iff]
        exact heard
      | cons command rest =>
        obtain rfl := sound.replies command (by rw [queued]; exact List.mem_cons_self)
        rw [heard_execute_owner_iff sound queued]
        simp only [SubscribedFirst, queued, List.head?_cons, true_implies]
  | reply | listen | timeout =>
    refine ⟨fun _ => ?_, fun _ => trivial⟩
    simp only [step]
    split_ifs
    · exact others rfl rfl
    · exact heard

end

end ChannelState

/-- For every order in which Redis executes the commands of the connections: every reply that is
published while it is awaited is pushed to the forwarding hub, exactly when Redis executes no
awaited reply before the SUBSCRIBE. -/
theorem replies_heard_iff_subscribed_first (actions : List ChannelAction) :
    Meets ChannelState.step ChannelState.SubscribedFirst {} actions ↔
      ∀ taken, taken <+: actions → (run ChannelState.step {} taken).Heard := by
  have keeps : ∀ state action, ChannelState.Sound state → state.Heard →
      state.SubscribedFirst action → (state.step action).Sound :=
    fun _ action sound _ _ => ChannelState.sound_after sound action
  have decides : ∀ state action, ChannelState.Sound state → state.Heard →
      (state.SubscribedFirst action ↔ (state.step action).Heard) :=
    fun _ action sound heard => ChannelState.subscribedFirst_iff_heard sound heard action
  exact meets_iff_every_state ChannelState.step keeps decides ChannelState.sound_initial nofun
    actions

/-- The PUBLISH of the command and the reply of a fast owner are executed before the SUBSCRIBE: the
reply is lost, and the forward times out. -/
theorem fast_reply_lost :
    ¬(run ChannelState.step {}
      [.forward, .execute .publisher, .reply, .execute .owner]).Heard ∧
    (run ChannelState.step {}
      [.forward, .execute .publisher, .reply, .execute .owner, .execute .subscriber, .listen,
        .timeout]).wait = .timedOut := by
  constructor
  · intro heard
    exact absurd (heard (by decide)) (by decide)
  · decide

end PlugHub.Cluster
