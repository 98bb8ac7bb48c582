import PlugHub.Registries.AgentRegistry
import PlugHub.Library.Runs

/-!
# Sessions and sockets of agents

The registry as a state machine over registrations, announcements, readiness timers and removals.
Sessions and sockets are paired as long as no registration is refused halfway: a registration from
a socket that lives under another agent id first ends that session, and a refusal that follows
keeps the end.
-/

namespace PlugHub.Registries.AgentRegistry

open Library
open OrderedMap (get_erase get_set get_set_self)

/-! ## The state machine -/

/-- One call of the registry. -/
inductive RegistryAction where
  | register (input : RegisterInput) (isPeerConnected : SocketId → Bool) (nowMs : Nat)
  | touch (agentId : AgentId) (markProtocolReady : Bool) (socketId : Option SocketId) (nowMs : Nat)
  | readyTimer (agentId : AgentId) (nowMs : Nat)
  | remove (socketId : SocketId)

/-- The registry after one call. -/
def after (env : Env) (registry : AgentRegistry) : RegistryAction → AgentRegistry
  | .register input isPeerConnected nowMs =>
    (registry.registerAgentSession env input isPeerConnected nowMs).1
  | .touch agentId markProtocolReady socketId nowMs =>
    (registry.touchLiveness agentId markProtocolReady socketId nowMs).1
  | .readyTimer agentId nowMs => registry.readyTimerFires agentId nowMs
  | .remove socketId => registry.removeBySocketId socketId

/-! ## What holds of the registry -/

/-- Sessions and sockets point at each other, and the other maps hold registered agents only. -/
structure Paired (registry : AgentRegistry) : Prop where
  /-- A session lives on a socket exactly when the socket names its agent. -/
  pairs : ∀ agentId socketId,
    (∃ session, registry.agents.get agentId = some session ∧ session.socketId = socketId) ↔
      registry.agentIdBySocketId.get socketId = some agentId
  ready : ∀ agentId, (registry.readyAtByAgentId.get agentId).isSome = true →
    (registry.agents.get agentId).isSome = true
  timers : ∀ agentId, (registry.readyTimerByAgentId.get agentId).isSome = true →
    (registry.agents.get agentId).isSome = true
  modes : ∀ agentId, (registry.protocolReadyModeByAgentId.get agentId).isSome = true →
    (registry.agents.get agentId).isSome = true

/-- The removal of a socket ends no session that lives on another one. -/
def RemovesOwnOnly (registry : AgentRegistry) : Prop :=
  ∀ socketId agentId session, registry.agents.get agentId = some session →
    session.socketId ≠ socketId →
    (registry.removeBySocketId socketId).agents.get agentId = some session

/-- A registration ends the session its socket lived under before, and is then refused because the
session of its agent lives on another connected socket. -/
def refusedHalfway (registry : AgentRegistry) (input : RegisterInput)
    (isPeerConnected : SocketId → Bool) : Bool :=
  registry.wouldRejectActiveSession input.agentId input.socketId input.policy isPeerConnected &&
    !ownedByAnotherUser (registry.agents.get input.agentId) input.userId &&
    ((registry.agentIdBySocketId.get input.socketId).map fun previous =>
      decide (previous ≠ input.agentId)).getD false

/-- A call that is not a registration refused halfway. -/
def Whole (registry : AgentRegistry) : RegistryAction → Prop
  | .register input isPeerConnected _ => registry.refusedHalfway input isPeerConnected = false
  | _ => True

instance (registry : AgentRegistry) : ∀ action, Decidable (registry.Whole action)
  | .register input isPeerConnected _ =>
    inferInstanceAs (Decidable (registry.refusedHalfway input isPeerConnected = false))
  | .touch _ _ _ _ => inferInstanceAs (Decidable True)
  | .readyTimer _ _ => inferInstanceAs (Decidable True)
  | .remove _ => inferInstanceAs (Decidable True)

namespace Paired

variable {registry : AgentRegistry}

theorem removesOwnOnly (paired : registry.Paired) : registry.RemovesOwnOnly := by
  intro socketId agentId session found elsewhere
  unfold removeBySocketId
  cases named : registry.agentIdBySocketId.get socketId with
  | none => exact found
  | some owner =>
    obtain ⟨stored, foundOwner, lives⟩ := (paired.pairs owner socketId).mpr named
    have differs : agentId ≠ owner := by
      intro same
      rw [same, foundOwner] at found
      exact elsewhere (Option.some.inj found ▸ lives)
    simp only [foundOwner, clearReadyTimer, get_erase, differs, if_false, found]

theorem empty : Paired {} := by
  constructor
  · intro agentId socketId
    constructor
    · rintro ⟨session, found, -⟩
      cases found
    · intro named
      cases named
  all_goals
    intro agentId present
    cases present

end Paired

/-! ## What a registration does -/

/-- The agent a socket gives up when it registers under another id. -/
def GivesUp (registry : AgentRegistry) (input : RegisterInput) (agentId : AgentId) : Prop :=
  registry.agentIdBySocketId.get input.socketId = some agentId ∧ agentId ≠ input.agentId

section Registration

variable {registry : AgentRegistry} {input : RegisterInput}

theorem endPreviousAgent_of_none (nothing : ∀ agentId, ¬ registry.GivesUp input agentId) :
    registry.endPreviousAgent input = registry := by
  unfold endPreviousAgent
  split
  · next previous named =>
    split
    · rfl
    · next differs => exact absurd ⟨named, differs⟩ (nothing previous)
  · rfl

theorem agentIdBySocketId_endPreviousAgent :
    (registry.endPreviousAgent input).agentIdBySocketId = registry.agentIdBySocketId := by
  unfold endPreviousAgent
  split
  · split <;> rfl
  · rfl

theorem endPreviousAgent_of_some {previous : AgentId} (gives : registry.GivesUp input previous) :
    registry.endPreviousAgent input =
      { registry with
        readyTimerByAgentId := registry.readyTimerByAgentId.erase previous
        readyAtByAgentId := registry.readyAtByAgentId.erase previous
        protocolReadyModeByAgentId := registry.protocolReadyModeByAgentId.erase previous
        agents := registry.agents.erase previous } := by
  simp only [endPreviousAgent, gives.1, gives.2, if_false, clearReadyTimer]

variable {agentId : AgentId}

theorem agents_endPreviousAgent (kept : ¬ registry.GivesUp input agentId) :
    (registry.endPreviousAgent input).agents.get agentId = registry.agents.get agentId := by
  by_cases some : ∃ previous, registry.GivesUp input previous
  · obtain ⟨previous, gives⟩ := some
    have differs : agentId ≠ previous := fun same => kept (same ▸ gives)
    simp only [endPreviousAgent_of_some gives, get_erase, differs, if_false]
  · rw [endPreviousAgent_of_none fun previous gives => some ⟨previous, gives⟩]

theorem agents_endPreviousAgent_of_some {previous : AgentId}
    (gives : registry.GivesUp input previous) :
    (registry.endPreviousAgent input).agents.get previous = none := by
  simp only [endPreviousAgent_of_some gives, get_erase, if_true]

theorem readiness_endPreviousAgent (agentId : AgentId) :
    (((registry.endPreviousAgent input).readyAtByAgentId.get agentId).isSome = true →
        (registry.readyAtByAgentId.get agentId).isSome = true ∧
          ¬ registry.GivesUp input agentId) ∧
      (((registry.endPreviousAgent input).readyTimerByAgentId.get agentId).isSome = true →
        (registry.readyTimerByAgentId.get agentId).isSome = true ∧
          ¬ registry.GivesUp input agentId) ∧
      (((registry.endPreviousAgent input).protocolReadyModeByAgentId.get agentId).isSome = true →
        (registry.protocolReadyModeByAgentId.get agentId).isSome = true ∧
          ¬ registry.GivesUp input agentId) := by
  by_cases some : ∃ previous, registry.GivesUp input previous
  · obtain ⟨previous, gives⟩ := some
    have kept : agentId ≠ previous → ¬ registry.GivesUp input agentId := by
      intro differs other
      exact differs (Option.some.inj (other.1.symm.trans gives.1))
    by_cases same : agentId = previous
    · simp [endPreviousAgent_of_some gives, same]
    · simp [endPreviousAgent_of_some gives, get_erase, same, kept same]
  · have nothing : ∀ previous, ¬ registry.GivesUp input previous :=
      fun previous gives => some ⟨previous, gives⟩
    rw [endPreviousAgent_of_none nothing]
    exact ⟨fun present => ⟨present, nothing agentId⟩, fun present => ⟨present, nothing agentId⟩,
      fun present => ⟨present, nothing agentId⟩⟩

theorem livesElsewhere_eq_some {existing : Option AgentSession} {socketId peer : SocketId} :
    livesElsewhere existing socketId = some peer ↔
      ∃ session, existing = some session ∧ session.socketId = peer ∧ peer ≠ socketId := by
  unfold livesElsewhere
  cases existing with
  | none => simp
  | some session =>
    by_cases same : session.socketId = socketId
    · simp only [same, if_true]
      constructor
      · intro impossible
        cases impossible
      · rintro ⟨_, ⟨⟩, rfl, differs⟩
        exact absurd same differs
    · simp only [same, if_false, Option.some.injEq]
      constructor
      · intro lives
        exact ⟨session, rfl, lives, lives ▸ same⟩
      · rintro ⟨_, rfl, lives, -⟩
        exact lives

theorem wouldRejectActiveSession_eq_true {socketId : SocketId}
    {policy : AgentSessionPolicy} {isPeerConnected : SocketId → Bool} :
    registry.wouldRejectActiveSession agentId socketId policy isPeerConnected = true ↔
      policy = .rejectActive ∧ ∃ peer,
        livesElsewhere (registry.agents.get agentId) socketId = some peer ∧
          isPeerConnected peer = true := by
  unfold wouldRejectActiveSession livesElsewhere
  by_cases rejects : policy = .rejectActive
  · simp only [rejects, ne_eq, not_true_eq_false, if_false, true_and]
    cases registry.agents.get agentId with
    | none => simp
    | some existing =>
      by_cases same : existing.socketId = socketId
      · simp [same]
      · simp [same]
  · simp [rejects]

/-- The registry a successful registration stores its session in: the previous session of the socket
is ended, and the socket the agent lived on before is forgotten. -/
def makeRoom (registry : AgentRegistry) (input : RegisterInput) : AgentRegistry :=
  let ended := registry.endPreviousAgent input
  match livesElsewhere (registry.agents.get input.agentId) input.socketId with
  | none => ended
  | some peer => { ended with agentIdBySocketId := ended.agentIdBySocketId.erase peer }

/-- A registration is refused for its user, refused for an active session, or stored. -/
theorem registerAgentSession_cases (env : Env) (registry : AgentRegistry) (input : RegisterInput)
    (isPeerConnected : SocketId → Bool) (nowMs : Nat) :
    (ownedByAnotherUser (registry.agents.get input.agentId) input.userId = true ∧
      registry.registerAgentSession env input isPeerConnected nowMs =
        (registry, .error .ownedByAnotherUser)) ∨
    (ownedByAnotherUser (registry.agents.get input.agentId) input.userId = false ∧
      registry.wouldRejectActiveSession input.agentId input.socketId input.policy
        isPeerConnected = true ∧
      registry.registerAgentSession env input isPeerConnected nowMs =
        (registry.endPreviousAgent input, .error .sessionActive)) ∨
    (ownedByAnotherUser (registry.agents.get input.agentId) input.userId = false ∧
      registry.wouldRejectActiveSession input.agentId input.socketId input.policy
        isPeerConnected = false ∧
      ∃ replaced, registry.registerAgentSession env input isPeerConnected nowMs =
        ((registry.makeRoom input).storeSession env input nowMs, .ok replaced)) := by
  by_cases owned : ownedByAnotherUser (registry.agents.get input.agentId) input.userId = true
  · exact Or.inl ⟨owned, by simp only [registerAgentSession, owned, if_true]⟩
  · have free := Bool.eq_false_iff.mpr owned
    refine Or.inr ?_
    cases lives : livesElsewhere (registry.agents.get input.agentId) input.socketId with
    | none =>
      refine Or.inr ⟨free, ?_, none, ?_⟩
      · rw [Bool.eq_false_iff]
        intro rejects
        obtain ⟨-, peer, other, -⟩ := wouldRejectActiveSession_eq_true.mp rejects
        rw [lives] at other
        cases other
      · simp only [registerAgentSession, makeRoom, free, lives, Bool.false_eq_true, if_false]
    | some peer =>
      by_cases active : isPeerConnected peer = true ∧ input.policy = .rejectActive
      · refine Or.inl ⟨free, wouldRejectActiveSession_eq_true.mpr ⟨active.2, peer, lives, active.1⟩,
          ?_⟩
        simp only [registerAgentSession, free, lives, active.1, active.2, Bool.false_eq_true,
          if_false, decide_true, Bool.and_self, if_true]
      · have passes : (isPeerConnected peer && decide (input.policy = .rejectActive)) = false := by
          rw [Bool.eq_false_iff]
          intro both
          rw [Bool.and_eq_true, decide_eq_true_eq] at both
          exact active both
        refine Or.inr ⟨free, ?_, if isPeerConnected peer then some peer else none, ?_⟩
        · rw [Bool.eq_false_iff]
          intro rejects
          obtain ⟨policy, other, elsewhere, connected⟩ :=
            wouldRejectActiveSession_eq_true.mp rejects
          rw [lives] at elsewhere
          cases elsewhere
          exact active ⟨connected, policy⟩
        · simp only [registerAgentSession, makeRoom, free, lives, passes, Bool.false_eq_true,
            if_false]

theorem agents_storeSession (env : Env) (registry : AgentRegistry) (input : RegisterInput)
    (nowMs : Nat) :
    (registry.storeSession env input nowMs).agents = registry.agents.set input.agentId
      { agentId := input.agentId, socketId := input.socketId, userId := input.userId } := by
  simp only [storeSession, scheduleProtocolReady, clearReadyTimer]
  split
  · rfl
  · split <;> rfl

theorem agentIdBySocketId_storeSession (env : Env) (registry : AgentRegistry)
    (input : RegisterInput) (nowMs : Nat) :
    (registry.storeSession env input nowMs).agentIdBySocketId =
      registry.agentIdBySocketId.set input.socketId input.agentId := by
  simp only [storeSession, scheduleProtocolReady, clearReadyTimer]
  split
  · rfl
  · split <;> rfl

theorem readiness_storeSession (env : Env) (registry : AgentRegistry) (input : RegisterInput)
    (nowMs : Nat) (other : agentId ≠ input.agentId) :
    (registry.storeSession env input nowMs).readyAtByAgentId.get agentId =
        registry.readyAtByAgentId.get agentId ∧
      (registry.storeSession env input nowMs).readyTimerByAgentId.get agentId =
        registry.readyTimerByAgentId.get agentId ∧
      (registry.storeSession env input nowMs).protocolReadyModeByAgentId.get agentId =
        registry.protocolReadyModeByAgentId.get agentId := by
  simp only [storeSession, scheduleProtocolReady, clearReadyTimer]
  split
  · simp only [get_erase, get_set, other, if_false, and_self]
  · split <;> simp only [get_erase, get_set, other, if_false, and_self]

theorem agentIdBySocketId_makeRoom (socketId : SocketId) :
    (registry.makeRoom input).agentIdBySocketId.get socketId =
      if livesElsewhere (registry.agents.get input.agentId) input.socketId = some socketId then none
      else registry.agentIdBySocketId.get socketId := by
  unfold makeRoom
  cases lives : livesElsewhere (registry.agents.get input.agentId) input.socketId with
  | none => simp [agentIdBySocketId_endPreviousAgent]
  | some peer =>
    simp only [get_erase, agentIdBySocketId_endPreviousAgent, Option.some.injEq,
      eq_comm]

theorem makeRoom_sides (registry : AgentRegistry) (input : RegisterInput) :
    (registry.makeRoom input).agents = (registry.endPreviousAgent input).agents ∧
      (registry.makeRoom input).readyAtByAgentId =
        (registry.endPreviousAgent input).readyAtByAgentId ∧
      (registry.makeRoom input).readyTimerByAgentId =
        (registry.endPreviousAgent input).readyTimerByAgentId ∧
      (registry.makeRoom input).protocolReadyModeByAgentId =
        (registry.endPreviousAgent input).protocolReadyModeByAgentId := by
  unfold makeRoom
  cases livesElsewhere (registry.agents.get input.agentId) input.socketId with
  | none | some peer => exact ⟨rfl, rfl, rfl, rfl⟩

end Registration

/-! ## What the calls keep -/

namespace Paired

variable {registry : AgentRegistry}

/-- A session that is stored in the room made for it keeps the registry paired. -/
theorem stored (paired : registry.Paired) (env : Env) (input : RegisterInput) (nowMs : Nat) :
    ((registry.makeRoom input).storeSession env input nowMs).Paired := by
  obtain ⟨sessions, readyAt, timers, modes⟩ := registry.makeRoom_sides input
  have agents : ∀ agentId, agentId ≠ input.agentId → ¬ registry.GivesUp input agentId →
      ((registry.makeRoom input).storeSession env input nowMs).agents.get agentId =
        registry.agents.get agentId := by
    intro agentId other kept
    rw [agents_storeSession, get_set, if_neg other, sessions,
      agents_endPreviousAgent kept]
  have present : ∀ agentId, agentId ≠ input.agentId → ¬ registry.GivesUp input agentId →
      (registry.agents.get agentId).isSome = true →
      (((registry.makeRoom input).storeSession env input nowMs).agents.get agentId).isSome =
        true := by
    intro agentId other kept registered
    rw [agents agentId other kept]
    exact registered
  have own : (((registry.makeRoom input).storeSession env input nowMs).agents.get
      input.agentId).isSome = true := by
    rw [agents_storeSession, get_set_self]
    rfl
  constructor
  · intro agentId socketId
    rw [agentIdBySocketId_storeSession, get_set, agentIdBySocketId_makeRoom]
    constructor
    · rintro ⟨session, found, lives⟩
      rw [agents_storeSession, get_set] at found
      by_cases same : agentId = input.agentId
      · rw [if_pos same] at found
        cases found
        rw [if_pos lives.symm, same]
      · rw [if_neg same, sessions] at found
        have kept : ¬ registry.GivesUp input agentId := by
          intro gives
          rw [agents_endPreviousAgent_of_some gives] at found
          cases found
        rw [agents_endPreviousAgent kept] at found
        have named := (paired.pairs agentId socketId).mp ⟨session, found, lives⟩
        have elsewhere : socketId ≠ input.socketId := by
          intro here
          exact kept ⟨here ▸ named, same⟩
        have notPeer : livesElsewhere (registry.agents.get input.agentId) input.socketId ≠
            some socketId := by
          intro peer
          obtain ⟨other, foundOther, livesOther, -⟩ := livesElsewhere_eq_some.mp peer
          have back := (paired.pairs input.agentId socketId).mp ⟨other, foundOther, livesOther⟩
          rw [named] at back
          exact same (Option.some.inj back)
        rw [if_neg elsewhere, if_neg notPeer, named]
    · intro named
      by_cases here : socketId = input.socketId
      · rw [if_pos here] at named
        cases named
        have found := agents_storeSession env (registry.makeRoom input) input nowMs
        refine ⟨⟨input.agentId, input.socketId, input.userId⟩, ?_, here.symm⟩
        rw [found, get_set_self]
      · rw [if_neg here] at named
        by_cases peer : livesElsewhere (registry.agents.get input.agentId) input.socketId =
            some socketId
        · rw [if_pos peer] at named
          cases named
        · rw [if_neg peer] at named
          obtain ⟨session, found, lives⟩ := (paired.pairs agentId socketId).mpr named
          have other : agentId ≠ input.agentId := by
            intro same
            refine peer (livesElsewhere_eq_some.mpr ⟨session, same ▸ found, lives, here⟩)
          have kept : ¬ registry.GivesUp input agentId := by
            intro gives
            obtain ⟨holder, foundHolder, livesHolder⟩ :=
              (paired.pairs agentId input.socketId).mpr gives.1
            rw [found] at foundHolder
            cases foundHolder
            exact here (lives.symm.trans livesHolder)
          exact ⟨session, (agents agentId other kept).trans found, lives⟩
  · intro agentId ready
    by_cases same : agentId = input.agentId
    · rw [same]
      exact own
    · rw [(readiness_storeSession env _ input nowMs same).1, readyAt] at ready
      obtain ⟨before, kept⟩ := (readiness_endPreviousAgent agentId).1 ready
      exact present agentId same kept (paired.ready agentId before)
  · intro agentId armed
    by_cases same : agentId = input.agentId
    · rw [same]
      exact own
    · rw [(readiness_storeSession env _ input nowMs same).2.1, timers] at armed
      obtain ⟨before, kept⟩ := (readiness_endPreviousAgent agentId).2.1 armed
      exact present agentId same kept (paired.timers agentId before)
  · intro agentId mode
    by_cases same : agentId = input.agentId
    · rw [same]
      exact own
    · rw [(readiness_storeSession env _ input nowMs same).2.2, modes] at mode
      obtain ⟨before, kept⟩ := (readiness_endPreviousAgent agentId).2.2 mode
      exact present agentId same kept (paired.modes agentId before)

theorem touchLiveness (paired : registry.Paired) (agentId : AgentId) (markProtocolReady : Bool)
    (socketId : Option SocketId) (nowMs : Nat) :
    (registry.touchLiveness agentId markProtocolReady socketId nowMs).1.Paired := by
  unfold AgentRegistry.touchLiveness
  split
  · exact paired
  · next existing found =>
    split
    · exact paired
    · split
      · refine ⟨paired.pairs, fun other ready => ?_, fun other armed => ?_, paired.modes⟩
        · simp only [clearReadyTimer, get_set] at ready ⊢
          by_cases same : other = agentId
          · rw [same, found]
            rfl
          · rw [if_neg same] at ready
            exact paired.ready other ready
        · simp only [clearReadyTimer, get_erase] at armed ⊢
          by_cases same : other = agentId
          · rw [same, found]
            rfl
          · rw [if_neg same] at armed
            exact paired.timers other armed
      · exact paired

theorem readyTimerFires (paired : registry.Paired) (agentId : AgentId) (nowMs : Nat) :
    (registry.readyTimerFires agentId nowMs).Paired := by
  unfold AgentRegistry.readyTimerFires
  split
  · exact paired
  · next armedOwn =>
    have registered := paired.timers agentId (by rw [armedOwn]; rfl)
    refine ⟨paired.pairs, fun other ready => ?_, fun other armed => ?_, paired.modes⟩
    · simp only [get_set] at ready ⊢
      by_cases same : other = agentId
      · rw [same]
        exact registered
      · rw [if_neg same] at ready
        exact paired.ready other ready
    · simp only [get_erase] at armed ⊢
      by_cases same : other = agentId
      · rw [same]
        exact registered
      · rw [if_neg same] at armed
        exact paired.timers other armed

/-- The removal of a socket keeps the registry paired. -/
theorem removeBySocketId (paired : registry.Paired) (socketId : SocketId) :
    (registry.removeBySocketId socketId).Paired := by
  unfold AgentRegistry.removeBySocketId
  cases named : registry.agentIdBySocketId.get socketId with
  | none => exact paired
  | some owner =>
    obtain ⟨stored, found, lives⟩ := (paired.pairs owner socketId).mpr named
    simp only [found, clearReadyTimer]
    refine ⟨fun agentId other => ?_, fun agentId ready => ?_, fun agentId armed => ?_,
      fun agentId mode => ?_⟩
    · simp only [get_erase]
      constructor
      · rintro ⟨session, foundSession, livesThere⟩
        by_cases same : agentId = owner
        · rw [if_pos same] at foundSession
          cases foundSession
        · rw [if_neg same] at foundSession
          have namesThere := (paired.pairs agentId other).mp ⟨session, foundSession, livesThere⟩
          have elsewhere : other ≠ socketId := by
            intro here
            rw [here, named] at namesThere
            exact same (Option.some.inj namesThere).symm
          rw [if_neg elsewhere, namesThere]
      · intro namesThere
        by_cases here : other = socketId
        · rw [if_pos here] at namesThere
          cases namesThere
        · rw [if_neg here] at namesThere
          obtain ⟨session, foundSession, livesThere⟩ := (paired.pairs agentId other).mpr namesThere
          have differs : agentId ≠ owner := by
            intro same
            rw [same, found] at foundSession
            cases foundSession
            exact here (livesThere.symm.trans lives)
          exact ⟨session, by rw [if_neg differs, foundSession], livesThere⟩
    · simp only [get_erase] at ready ⊢
      by_cases same : agentId = owner
      · rw [if_pos same] at ready
        cases ready
      · rw [if_neg same] at ready ⊢
        exact paired.ready agentId ready
    · simp only [get_erase] at armed ⊢
      by_cases same : agentId = owner
      · rw [if_pos same] at armed
        cases armed
      · rw [if_neg same] at armed ⊢
        exact paired.timers agentId armed
    · simp only [get_erase] at mode ⊢
      by_cases same : agentId = owner
      · rw [if_pos same] at mode
        cases mode
      · rw [if_neg same] at mode ⊢
        exact paired.modes agentId mode

end Paired

variable {registry : AgentRegistry}

theorem refusedHalfway_eq_true {input : RegisterInput} {isPeerConnected : SocketId → Bool} :
    registry.refusedHalfway input isPeerConnected = true ↔
      registry.wouldRejectActiveSession input.agentId input.socketId input.policy
        isPeerConnected = true ∧
      ownedByAnotherUser (registry.agents.get input.agentId) input.userId = false ∧
      ∃ previous, registry.GivesUp input previous := by
  unfold refusedHalfway GivesUp
  cases registry.agentIdBySocketId.get input.socketId with
  | none => simp
  | some previous =>
    simp only [Option.map_some, Option.getD_some, Bool.and_eq_true, Bool.not_eq_true',
      decide_eq_true_eq, Option.some.injEq, and_assoc, exists_eq_left']

/-- A call keeps a paired registry paired exactly when it is no registration refused halfway. -/
theorem Paired.after_iff (env : Env) (paired : registry.Paired)
    (action : RegistryAction) : registry.Whole action ↔ (registry.after env action).Paired := by
  cases action with
  | touch agentId markProtocolReady socketId nowMs =>
    exact ⟨fun _ => paired.touchLiveness agentId markProtocolReady socketId nowMs, fun _ => trivial⟩
  | readyTimer agentId nowMs =>
    exact ⟨fun _ => paired.readyTimerFires agentId nowMs, fun _ => trivial⟩
  | remove socketId => exact ⟨fun _ => paired.removeBySocketId socketId, fun _ => trivial⟩
  | register input isPeerConnected nowMs =>
    rcases registry.registerAgentSession_cases env input isPeerConnected nowMs with
      ⟨owned, result⟩ | ⟨free, rejects, result⟩ | ⟨free, passes, replaced, result⟩
    · simp only [after, result]
      refine ⟨fun _ => paired, fun _ => ?_⟩
      rw [Whole, Bool.eq_false_iff]
      intro halfway
      obtain ⟨-, free, -⟩ := refusedHalfway_eq_true.mp halfway
      rw [owned] at free
      cases free
    · simp only [after, result]
      constructor
      · intro whole
        rw [Whole, Bool.eq_false_iff] at whole
        rw [endPreviousAgent_of_none fun previous gives =>
          whole (refusedHalfway_eq_true.mpr ⟨rejects, free, previous, gives⟩)]
        exact paired
      · intro kept
        rw [Whole, Bool.eq_false_iff]
        intro halfway
        obtain ⟨-, -, previous, gives⟩ := refusedHalfway_eq_true.mp halfway
        have named : (registry.endPreviousAgent input).agentIdBySocketId.get input.socketId =
            some previous := by
          rw [agentIdBySocketId_endPreviousAgent]
          exact gives.1
        obtain ⟨session, found, -⟩ := (kept.pairs previous input.socketId).mpr named
        rw [agents_endPreviousAgent_of_some gives] at found
        cases found
    · simp only [after, result]
      refine ⟨fun _ => paired.stored env input nowMs, fun _ => ?_⟩
      rw [Whole, Bool.eq_false_iff]
      intro halfway
      rw [(refusedHalfway_eq_true.mp halfway).1] at passes
      cases passes

/-- What a paired registry promises: a session lives on a socket exactly when the socket names its
agent, the other maps hold registered agents only, and the removal of a socket ends no session
that lives on another one. -/
structure Bijective (registry : AgentRegistry) : Prop extends Paired registry where
  removes : registry.RemovesOwnOnly

theorem bijective_iff : registry.Bijective ↔ registry.Paired :=
  ⟨fun bijective => bijective.toPaired, fun paired => ⟨paired, paired.removesOwnOnly⟩⟩

/-- The registry keeps its promises in every state of a run exactly when no registration of the run
is refused halfway. -/
theorem agent_registry_bijective_iff (env : Env) (actions : List RegistryAction) :
    Meets (after env) Whole {} actions ↔
      ∀ taken, taken <+: actions → (run (after env) {} taken).Bijective := by
  simp only [bijective_iff]
  exact meets_iff_every_state (after env)
    (fun registry action paired _ whole => (paired.after_iff env action).mp whole)
    (fun registry action paired _ => paired.after_iff env action) Paired.empty Paired.empty actions

/-- A registration of one user under the refusing policy, while every socket is connected. -/
def registersFrom (agentId : AgentId) (socketId : SocketId) : RegistryAction :=
  .register
    { agentId := agentId, socketId := socketId, userId := some "u", policy := .rejectActive }
    (fun _ => true) 0

/-- Two agents register from two sockets, then the first socket asks for the second agent. -/
def halfwayActions : List RegistryAction :=
  [registersFrom "a1" "s1", registersFrom "a2" "s2", registersFrom "a2" "s1"]

/-- After the refusal the first socket still names its agent, whose session is gone; when that agent
registers from a third socket, the end of the first socket removes the new session. -/
theorem halfway_refusal_breaks_pairs :
    ¬ (run (after {}) {} halfwayActions).Bijective ∧
      ¬ (run (after {}) {} (halfwayActions ++ [registersFrom "a1" "s3"])).RemovesOwnOnly := by
  constructor
  · intro bijective
    obtain ⟨session, found, -⟩ := (bijective.pairs "a1" "s1").mpr (by decide)
    have gone : (run (after {}) {} halfwayActions).agents.get "a1" = none := by decide
    rw [gone] at found
    cases found
  · intro removes
    have lost := removes "s1" "a1" ⟨"a1", "s3", some "u"⟩ (by decide) (by decide)
    exact absurd lost (by decide)

/-! ## Refusals -/

/-- A refusal for the user leaves the registry as it is, and so does a refusal for an active session
unless the socket gives another agent up; a registration is refused for an active session exactly
when the check before it says so and the agent does not belong to another user. -/
theorem registerAgentSession_refusals (env : Env) (registry : AgentRegistry)
    (input : RegisterInput) (isPeerConnected : SocketId → Bool) (nowMs : Nat) :
    ((registry.registerAgentSession env input isPeerConnected nowMs).2 =
        .error .ownedByAnotherUser →
      (registry.registerAgentSession env input isPeerConnected nowMs).1 = registry) ∧
    ((registry.registerAgentSession env input isPeerConnected nowMs).2 = .error .sessionActive →
      (∀ previous, registry.agentIdBySocketId.get input.socketId = some previous →
        previous = input.agentId) →
      (registry.registerAgentSession env input isPeerConnected nowMs).1 = registry) ∧
    ((registry.registerAgentSession env input isPeerConnected nowMs).2 = .error .sessionActive ↔
      registry.wouldRejectActiveSession input.agentId input.socketId input.policy
          isPeerConnected = true ∧
        ownedByAnotherUser (registry.agents.get input.agentId) input.userId = false) := by
  rcases registry.registerAgentSession_cases env input isPeerConnected nowMs with
    ⟨owned, result⟩ | ⟨free, rejects, result⟩ | ⟨free, passes, replaced, result⟩
  · rw [result]
    refine ⟨fun _ => rfl, fun _ _ => rfl, nofun, fun ⟨_, free⟩ => ?_⟩
    rw [owned] at free
    cases free
  · rw [result]
    refine ⟨nofun, fun _ own => ?_, fun _ => ⟨rejects, free⟩, fun _ => rfl⟩
    exact endPreviousAgent_of_none fun previous gives => gives.2 (own previous gives.1)
  · rw [result]
    refine ⟨nofun, nofun, nofun, fun ⟨rejects, _⟩ => ?_⟩
    rw [passes] at rejects
    cases rejects

/-- An agent of another user whose session is active is refused for its user, although the check
before the registration says that the session is active. -/
theorem owner_refusal_precedes_active_session :
    let registry := run (after {}) {} [registersFrom "a1" "s1"]
    let input : RegisterInput :=
      { agentId := "a1", socketId := "s2", userId := some "v", policy := .rejectActive }
    registry.wouldRejectActiveSession input.agentId input.socketId input.policy (fun _ => true) =
        true ∧
      (registry.registerAgentSession {} input (fun _ => true) 0).2 ≠ .error .sessionActive := by
  decide

end PlugHub.Registries.AgentRegistry
