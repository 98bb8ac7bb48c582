import Mathlib.Logic.Basic
import Mathlib.Tactic.SplitIfs
import PlugHub.Library.Runs

/-!
# Forwarding a command to the hub of its agent

One command that is dispatched on a hub without its agent. The hub looks up where the agent is,
publishes the command to that hub and waits for a reply; an attempt that times out, or that is
answered with not found, is followed by one attempt for each other hub of the cluster. Commands and
replies travel on their own, the agent may move, and every attempt has its own correlation id.
-/

namespace PlugHub.Cluster

open Library

/-- A hub of the cluster. -/
abbrev HubId := String

/-- Settings of the forwarding hub. -/
structure ClusterConfig where
  hubInstanceId : HubId
  agentHubClusterInstanceIds : List HubId

/-- The hubs that are asked one after the other. -/
def ClusterConfig.peerHubInstanceIds (config : ClusterConfig) : List HubId :=
  config.agentHubClusterInstanceIds.filter (· ≠ config.hubInstanceId)

/-- Why a dispatch fails. -/
inductive ForwardError where
  | agentDisconnected
  | app (statusCode : Nat)
  | other (timedOut : Bool)
deriving DecidableEq

/-- The message of the error of a reply that does not come. -/
def replyTimedOut : ForwardError := .other true

/-- What a hub replies. -/
inductive BridgeForwardReplyPayload where
  | success
  | agentDisconnected
  | error (statusCode : Option Nat)
  | invalid

/-- The error that a reply stands for. -/
def mapReplyToError : BridgeForwardReplyPayload → ForwardError
  | .agentDisconnected => .agentDisconnected
  | .error statusCode => .app (statusCode.getD 503)
  | _ => .app 503

/-- An attempt that failed so is followed by another one. -/
def isPeerForwardRetryable : ForwardError → Bool
  | .agentDisconnected => false
  | .app statusCode => statusCode = 404
  | .other timedOut => timedOut

/-- How a dispatch ended. -/
inductive DispatchOutcome where
  | result
  | failed (error : ForwardError)
deriving DecidableEq

/-- Where a dispatch is. -/
inductive DispatchPhase where
  | idle
  /-- The presence of the agent is looked up; again after a stale entry, so many times. -/
  | resolving (retry : Option Nat)
  | clearing
  | waiting (correlationId : Nat) (remaining : List HubId)
  | finished (outcome : DispatchOutcome)
deriving DecidableEq

/-- The dispatch and what is under way for it. -/
structure ForwardState where
  owner : Option HubId
  hasKnownAgentId : Bool := false
  phase : DispatchPhase := .idle
  nextCorrelationId : Nat := 0
  commands : List (Nat × HubId) := []
  running : List Nat := []
  replies : List (Nat × BridgeForwardReplyPayload) := []
  handed : Nat := 0

/-- What happens. -/
inductive ForwardAction where
  | dispatch (presenceEnabled streamHandlers : Bool)
  | resolved (route : Option HubId)
  | cleared
  | receive (correlationId : Nat)
  | loseCommand (correlationId : Nat)
  | answer (correlationId : Nat) (reply : BridgeForwardReplyPayload)
  | reply (correlationId : Nat)
  /-- An attempt fails: its reply timed out, its command could not be published, or the
  subscription failed. -/
  | attemptFails (error : ForwardError)
  | move (owner : Option HubId)

/-- An agent is registered on a hub. -/
def owns (owner : Option HubId) (hub : HubId) : Bool := owner = some hub

namespace ForwardState

variable (config : ClusterConfig)

/-- Publish the command to a hub and wait for its reply. -/
def forwardToHub (state : ForwardState) (hubInstanceId : HubId) (remaining : List HubId) :
    ForwardState :=
  { state with
    commands := state.commands ++ [(state.nextCorrelationId, hubInstanceId)]
    nextCorrelationId := state.nextCorrelationId + 1
    phase := .waiting state.nextCorrelationId remaining }

/-- Go on with the other hubs, or end with an error. -/
def forwardToPeerHubs (state : ForwardState) (error : ForwardError) : List HubId → ForwardState
  | [] => { state with phase := .finished (.failed error) }
  | peerHubId :: remaining => state.forwardToHub peerHubId remaining

/-- The agent has no route that leads elsewhere. -/
def noRoute (state : ForwardState) : ForwardState :=
  state.forwardToPeerHubs (if state.hasKnownAgentId then .agentDisconnected else .app 404)
    (if config.hubInstanceId = "" then [] else config.peerHubInstanceIds)

/-- The route is known: an attempt there, and one for each other hub after it. -/
def forwardViaPresenceOrPeers (state : ForwardState) : Option HubId → ForwardState
  | some hubInstanceId =>
    if config.hubInstanceId = "" then state.forwardToHub hubInstanceId []
    else if hubInstanceId ≠ config.hubInstanceId then
      state.forwardToHub hubInstanceId config.peerHubInstanceIds
    else state.noRoute config
  | none => state.noRoute config

/-- An attempt failed. -/
def attemptFails (state : ForwardState) (error : ForwardError) (remaining : List HubId) :
    ForwardState :=
  if isPeerForwardRetryable error then state.forwardToPeerHubs error remaining
  else { state with phase := .finished (.failed error) }

/-- One step. -/
def step (state : ForwardState) : ForwardAction → ForwardState
  | .dispatch presenceEnabled streamHandlers =>
    if state.phase ≠ .idle then state
    else if presenceEnabled = false ∨ owns state.owner config.hubInstanceId then
      { state with
        handed := state.handed + if owns state.owner config.hubInstanceId then 1 else 0
        phase := .finished .result }
    else if streamHandlers then { state with phase := .finished (.failed (.app 503)) }
    else { state with phase := .resolving none }
  | .resolved route =>
    match state.phase with
    | .resolving none =>
      if config.hubInstanceId ≠ "" ∧ route = some config.hubInstanceId then
        { state with phase := .clearing }
      else state.forwardViaPresenceOrPeers config route
    | .resolving (some attempt) =>
      if route = none ∧ attempt < 2 then { state with phase := .resolving (some (attempt + 1)) }
      else state.forwardViaPresenceOrPeers config route
    | _ => state
  | .cleared =>
    if state.phase = .clearing then { state with phase := .resolving (some 0) } else state
  | .receive correlationId =>
    match state.commands.lookup correlationId with
    | some hubInstanceId =>
      { state with
        commands := state.commands.filter (·.1 ≠ correlationId)
        running := correlationId :: state.running
        handed := state.handed + if owns state.owner hubInstanceId then 1 else 0 }
    | none => state
  | .loseCommand correlationId =>
    { state with commands := state.commands.filter (·.1 ≠ correlationId) }
  | .answer correlationId reply =>
    if correlationId ∈ state.running then
      { state with running := state.running.filter (· ≠ correlationId)
                   replies := (correlationId, reply) :: state.replies }
    else state
  | .reply correlationId =>
    match state.replies.lookup correlationId, state.phase with
    | some reply, .waiting awaited remaining =>
      if awaited = correlationId then
        match reply with
        | .success => { state with phase := .finished .result }
        | _ => state.attemptFails (mapReplyToError reply) remaining
      else state
    | _, _ => state
  | .attemptFails error =>
    match state.phase with
    | .waiting _ remaining => state.attemptFails error remaining
    | _ => state
  | .move owner => { state with owner := owner }

/-- The commands under way to a hub. -/
def underWayTo (state : ForwardState) (hub : Option HubId) : Nat :=
  state.commands.countP fun command => owns hub command.2

/-- The hub of the agent was handed the command once, or may still be handed it once. -/
def exposure (state : ForwardState) : Nat := state.handed + state.underWayTo state.owner

/-- Another attempt may be made: it does not go to the hub of the agent, or that hub was not handed
the command and none is under way to it. -/
def mayTry (state : ForwardState) : List HubId → Prop
  | [] => True
  | peerHubId :: _ => owns state.owner peerHubId = false ∨ state.exposure = 0

/-- An attempt is followed by another one only when that one may be made, and an agent moves only to
a hub that finds at most one of the attempts. -/
def Unexposed (state : ForwardState) : ForwardAction → Prop
  | .reply correlationId =>
    match state.replies.lookup correlationId, state.phase with
    | some reply, .waiting awaited remaining =>
      awaited = correlationId ∧ isPeerForwardRetryable (mapReplyToError reply) = true →
        state.mayTry remaining
    | _, _ => True
  | .attemptFails error =>
    match state.phase with
    | .waiting _ remaining => isPeerForwardRetryable error = true → state.mayTry remaining
    | _ => True
  | .move owner => state.handed + state.underWayTo owner ≤ 1
  | _ => True

/-- No command has left the hub yet. -/
def Unsent (state : ForwardState) : Prop := state.handed = 0 ∧ state.commands = []

/-- What the steps keep. -/
structure Sound (state : ForwardState) : Prop where
  once : state.exposure ≤ 1
  unsent : state.phase = .idle ∨ state.phase = .clearing ∨
    (∃ retry, state.phase = .resolving retry) →
    state.Unsent

section Steps

variable {state : ForwardState} {config : ClusterConfig}

theorem underWayTo_filter_le (commands : List (Nat × HubId)) (correlationId : Nat)
    (test : Nat × HubId → Bool) :
    (commands.filter (·.1 ≠ correlationId)).countP test ≤ commands.countP test :=
  List.filter_sublist.countP_le

theorem countP_received {commands : List (Nat × HubId)} {correlationId : Nat} {hub : HubId}
    (found : commands.lookup correlationId = some hub) (test : HubId → Bool) :
    (commands.filter (·.1 ≠ correlationId)).countP (fun command => test command.2) +
        (if test hub then 1 else 0) ≤
      commands.countP fun command => test command.2 := by
  induction commands with
  | nil => cases found
  | cons first rest ih =>
    obtain ⟨id, target⟩ := first
    rw [List.lookup_cons] at found
    by_cases same : correlationId = id
    · subst same
      simp only [beq_self_eq_true] at found
      cases found
      have fewer := underWayTo_filter_le rest correlationId fun command => test command.2
      rw [List.filter_cons_of_neg (by simp), List.countP_cons]
      simp only
      omega
    · have other : (correlationId == id) = false := by simpa using same
      rw [other] at found
      have kept := ih found
      rw [List.filter_cons_of_pos (by simpa using fun equal : id = correlationId => same equal.symm),
        List.countP_cons, List.countP_cons]
      omega

theorem exposure_forwardToHub (state : ForwardState) (hub : HubId) (remaining : List HubId) :
    (state.forwardToHub hub remaining).exposure =
      state.exposure + if owns state.owner hub then 1 else 0 := by
  simp only [exposure, underWayTo, forwardToHub, List.countP_append]
  by_cases own : owns state.owner hub
  · simp [own, Nat.add_assoc]
  · simp [own]

theorem sound_forwardToPeerHubs (sound : state.Sound) {remaining : List HubId}
    (may : state.mayTry remaining) (error : ForwardError) :
    (state.forwardToPeerHubs error remaining).Sound := by
  cases remaining with
  | nil => exact ⟨sound.once, by simp [forwardToPeerHubs]⟩
  | cons hub rest =>
    refine ⟨?_, by simp [forwardToPeerHubs, forwardToHub]⟩
    have once := sound.once
    simp only [forwardToPeerHubs, exposure_forwardToHub]
    rcases may with elsewhere | unexposed
    · simp only [elsewhere, Bool.false_eq_true, if_false]
      exact once
    · split_ifs <;> omega

theorem sound_attemptFails (sound : state.Sound) {error : ForwardError} {remaining : List HubId}
    (may : isPeerForwardRetryable error = true → state.mayTry remaining) :
    (state.attemptFails error remaining).Sound := by
  unfold attemptFails
  split_ifs with retryable
  · exact sound_forwardToPeerHubs sound (may retryable) error
  · exact ⟨sound.once, by simp⟩

theorem mayTry_of_unsent (unsent : state.Unsent) (remaining : List HubId) :
    state.mayTry remaining := by
  have fresh : state.exposure = 0 := by
    simp only [exposure, underWayTo, unsent.1, unsent.2, List.countP_nil]
  cases remaining with
  | nil => trivial
  | cons hub rest => exact .inr fresh

theorem sound_forwardViaPresenceOrPeers (sound : state.Sound) (unsent : state.Unsent)
    (route : Option HubId) : (state.forwardViaPresenceOrPeers config route).Sound := by
  have first : ∀ hub remaining, (state.forwardToHub hub remaining).Sound := fun hub remaining =>
    sound_forwardToPeerHubs sound (mayTry_of_unsent unsent (hub :: remaining)) replyTimedOut
  have peers : (state.noRoute config).Sound :=
    sound_forwardToPeerHubs sound (mayTry_of_unsent unsent _) _
  unfold forwardViaPresenceOrPeers
  cases route with
  | none => exact peers
  | some hub =>
    simp only
    split_ifs
    · exact first hub []
    · exact first hub _
    · exact peers

/-- Every step that meets the condition keeps the dispatch sound. -/
theorem sound_step (sound : state.Sound) {action : ForwardAction}
    (unexposed : state.Unexposed action) : (state.step config action).Sound := by
  cases action with
  | dispatch presenceEnabled streamHandlers =>
    by_cases begun : state.phase ≠ .idle
    · simp only [step, if_pos begun]
      exact sound
    · simp only [step, if_neg begun]
      have unsent := sound.unsent (.inl (not_ne_iff.mp begun))
      have fresh : state.exposure = 0 := by
        simp only [exposure, underWayTo, unsent.1, unsent.2, List.countP_nil]
      split_ifs
      all_goals
        refine ⟨?_, ?_⟩
        · simp only [exposure, underWayTo] at fresh ⊢
          omega
      · simp
      · simp
      · simp
      · exact fun _ => unsent
  | resolved route =>
    simp only [step]
    cases phase : state.phase with
    | resolving retry =>
      have unsent := sound.unsent (.inr (.inr ⟨retry, phase⟩))
      cases retry with
      | none =>
        simp only
        split_ifs
        · exact ⟨sound.once, fun _ => unsent⟩
        · exact sound_forwardViaPresenceOrPeers sound unsent route
      | some attempt =>
        simp only
        split_ifs
        · exact ⟨sound.once, fun _ => unsent⟩
        · exact sound_forwardViaPresenceOrPeers sound unsent route
    | idle => exact sound
    | clearing => exact sound
    | waiting correlationId remaining => exact sound
    | finished outcome => exact sound
  | cleared =>
    simp only [step]
    split_ifs with clearing
    · exact ⟨sound.once, fun _ => sound.unsent (.inr (.inl clearing))⟩
    · exact sound
  | receive correlationId =>
    simp only [step]
    cases found : state.commands.lookup correlationId with
    | none => exact sound
    | some hub =>
      have moved := countP_received found (owns state.owner)
      have once := sound.once
      refine ⟨?_, fun early => ?_⟩
      · simp only [exposure, underWayTo] at once ⊢
        omega
      · have unsent := sound.unsent early
        rw [unsent.2] at found
        cases found
  | loseCommand correlationId =>
    have once := sound.once
    have fewer := underWayTo_filter_le state.commands correlationId fun command =>
      owns state.owner command.2
    refine ⟨?_, fun early => ?_⟩
    · simp only [exposure, underWayTo, step] at once fewer ⊢
      omega
    · have unsent := sound.unsent early
      exact ⟨unsent.1, by simp only [step, unsent.2, List.filter_nil]⟩
  | answer correlationId reply =>
    simp only [step]
    split_ifs
    · exact ⟨sound.once, sound.unsent⟩
    · exact sound
  | reply correlationId =>
    simp only [step]
    simp only [Unexposed] at unexposed
    cases found : state.replies.lookup correlationId with
    | none => exact sound
    | some reply =>
      cases phase : state.phase with
      | waiting awaited remaining =>
        simp only [found, phase] at unexposed ⊢
        by_cases own : awaited = correlationId
        · rw [if_pos own]
          cases reply with
          | success => exact ⟨sound.once, by simp⟩
          | agentDisconnected => exact sound_attemptFails sound fun again => unexposed ⟨own, again⟩
          | error statusCode => exact sound_attemptFails sound fun again => unexposed ⟨own, again⟩
          | invalid => exact sound_attemptFails sound fun again => unexposed ⟨own, again⟩
        · rw [if_neg own]
          exact sound
      | idle => exact sound
      | resolving retry => exact sound
      | clearing => exact sound
      | finished outcome => exact sound
  | attemptFails error =>
    simp only [step]
    simp only [Unexposed] at unexposed
    cases phase : state.phase with
    | waiting awaited remaining =>
      simp only [phase] at unexposed
      exact sound_attemptFails sound unexposed
    | idle => exact sound
    | resolving retry => exact sound
    | clearing => exact sound
    | finished outcome => exact sound
  | move owner => exact ⟨unexposed, sound.unsent⟩

end Steps

end ForwardState

/-- In every run in which an attempt is followed by another one only when the hub of the agent was
not handed the command and none is under way to it (or the next attempt goes elsewhere), and an
agent moves only to a hub that finds at most one of the attempts, that hub is handed the command at
most once. -/
theorem forwards_at_most_once (config : ClusterConfig) (owner : Option HubId)
    (hasKnownAgentId : Bool) {actions : List ForwardAction}
    (unexposed : Meets (ForwardState.step config) ForwardState.Unexposed
      { owner := owner, hasKnownAgentId := hasKnownAgentId } actions) :
    ∀ taken, taken <+: actions →
      (run (ForwardState.step config) { owner := owner, hasKnownAgentId := hasKnownAgentId }
        taken).handed ≤ 1 := by
  intro taken first
  have keeps : ∀ state action, ForwardState.Sound state → state.Unexposed action →
      (state.step config action).Sound := fun _ _ sound met => ForwardState.sound_step sound met
  have initially : ForwardState.Sound { owner := owner, hasKnownAgentId := hasKnownAgentId } :=
    ⟨Nat.zero_le _, fun _ => ⟨rfl, rfl⟩⟩
  have sound := every_state_of_meets _ keeps initially unexposed taken first
  have once := sound.once
  unfold ForwardState.exposure at once
  omega

/-- Two hubs, the first of which forwards. -/
def twoHubs : ClusterConfig := ⟨"first", ["first", "second"]⟩

/-- A command that the hub of the agent answers is handed to it once. -/
theorem answered_forward_once :
    (run (ForwardState.step twoHubs) { owner := some "second" }
      [.dispatch true false, .resolved (some "second"), .receive 0, .answer 0 .success,
        .reply 0]).handed ≤ 1 :=
  have unexposed : Meets (ForwardState.step twoHubs) ForwardState.Unexposed
      { owner := some "second" } [.dispatch true false, .resolved (some "second"), .receive 0,
        .answer 0 .success, .reply 0] :=
    ⟨trivial, trivial, trivial, trivial, fun retried => absurd retried.2 (by decide), trivial⟩
  forwards_at_most_once twoHubs (some "second") false unexposed _ (List.prefix_refl _)

/-- A forward times out while the hub of the agent still dispatches the command, and the next
attempt goes to the same hub. -/
theorem timed_out_forward_twice :
    (run (ForwardState.step twoHubs) { owner := some "second" }
      [.dispatch true false, .resolved (some "second"), .receive 0, .attemptFails replyTimedOut,
        .receive 1]).handed = 2 := by
  decide

end PlugHub.Cluster
