import Mathlib.Data.PNat.Basic
import PlugHub.Config
import PlugHub.Library.Accounting
import PlugHub.Library.Runs

/-!
# The circuit of an agent

Failures of an agent are counted for each channel, and as many in a row as the threshold says open
its circuit for a while. The entries are pruned: one that is not open is dropped when it was not
used for long, or when there are too many. A history of one agent and channel says when a request
is turned away.
-/

namespace PlugHub.Relay

open Library

/-- The side of the bridge that observes an agent. -/
inductive AgentCircuitChannel where
  | rest
  | relay
deriving DecidableEq

/-- An agent as one channel sees it; the state key names both. -/
abbrev CircuitKey := AgentCircuitChannel × AgentId

/-- Settings of the circuits. -/
structure CircuitConfig where
  relayCircuitFailureThreshold : ℕ+ := 5
  relayCircuitOpenMs : ℕ+ := 30000

/-- An entry is stale when it was not used for so long. -/
def CircuitConfig.staleCircuitRetentionMs (config : CircuitConfig) : Nat :=
  max (config.relayCircuitOpenMs * 4) (5 * 60 * 1000)

/-- How many entries are kept. -/
def maxTrackedAgentStates : Nat := 2048

/-- The time between two prunings on the path of a request. -/
def pruneDebounceMs : Nat := 30000

/-- The circuit of an agent and channel. -/
structure RelayCircuitState where
  failures : Nat
  openUntilMs : Nat
  lastTouchedAtMs : Nat

/-- The circuits of the hub. -/
structure BreakerState where
  circuits : OrderedMap CircuitKey RelayCircuitState := .empty
  lastCircuitPruneAtMs : Nat := 0

/-- Drop entries in order until there are few enough. -/
def dropUntilFew (circuits : OrderedMap CircuitKey RelayCircuitState) :
    List CircuitKey → OrderedMap CircuitKey RelayCircuitState
  | [] => circuits
  | key :: rest =>
    let circuits := circuits.erase key
    if circuits.size ≤ maxTrackedAgentStates then circuits else dropUntilFew circuits rest

/-- An entry that is not open and was not used for long. -/
def CircuitConfig.stale (config : CircuitConfig) (nowMs : Nat) (state : RelayCircuitState) : Bool :=
  state.openUntilMs ≤ nowMs ∧
    (config.staleCircuitRetentionMs : Int) ≤ (nowMs : Int) - state.lastTouchedAtMs

/-- Drop the stale entries, and when there are still too many, those that are not open and were
used least recently. -/
def pruneRelayCircuitState (config : CircuitConfig) (nowMs : Nat)
    (circuits : OrderedMap CircuitKey RelayCircuitState) :
    OrderedMap CircuitKey RelayCircuitState :=
  let fresh := (circuits.entries.filter fun entry => config.stale nowMs entry.2).foldl
    (fun kept entry => kept.erase entry.1) circuits
  if fresh.size ≤ maxTrackedAgentStates then fresh
  else
    let removable := (fresh.entries.filter fun entry => entry.2.openUntilMs ≤ nowMs).mergeSort
      fun left right => left.2.lastTouchedAtMs ≤ right.2.lastTouchedAtMs
    dropUntilFew fresh (removable.map Prod.fst)

/-- Prune on the path of a request, when the last pruning is long ago. -/
def BreakerState.pruned (config : CircuitConfig) (state : BreakerState) (nowMs : Nat) :
    BreakerState :=
  if (pruneDebounceMs : Int) ≤ (nowMs : Int) - state.lastCircuitPruneAtMs then
    ⟨pruneRelayCircuitState config nowMs state.circuits, nowMs⟩
  else state

/-- The entry of an agent and channel, created when it is missing. -/
def getCircuitState (config : CircuitConfig) (state : BreakerState) (key : CircuitKey)
    (nowMs : Nat) : RelayCircuitState × BreakerState :=
  let state := state.pruned config nowMs
  let entry : RelayCircuitState :=
    match state.circuits.get key with
    | some existing => { existing with lastTouchedAtMs := nowMs }
    | none => ⟨0, 0, nowMs⟩
  (entry, { state with circuits := state.circuits.set key entry })

/-- Turn a request away while the circuit is open; the answer is after how long to retry. -/
def ensureAgentCircuitClosed (config : CircuitConfig) (state : BreakerState) (key : CircuitKey)
    (nowMs : Nat) : Option Nat × BreakerState :=
  match getCircuitState config state key nowMs with
  | (entry, state) =>
    (if entry.lastTouchedAtMs < entry.openUntilMs then
      some (entry.openUntilMs - entry.lastTouchedAtMs)
    else none, state)

/-- Note a failure; a refusal of the hub itself says nothing about the agent. -/
def registerAgentFailure (config : CircuitConfig) (state : BreakerState) (key : CircuitKey)
    (localRefusal : Bool) (nowMs : Nat) : BreakerState :=
  if localRefusal then state
  else
    match getCircuitState config state key nowMs with
    | (entry, state) =>
      let counted :=
        if (config.relayCircuitFailureThreshold : Nat) ≤ entry.failures + 1 then
          { entry with openUntilMs := entry.lastTouchedAtMs + config.relayCircuitOpenMs
                       failures := 0 }
        else { entry with failures := entry.failures + 1 }
      { state with circuits := state.circuits.set key counted }

/-- Note a success. -/
def registerAgentSuccess (config : CircuitConfig) (state : BreakerState) (key : CircuitKey)
    (nowMs : Nat) : BreakerState :=
  match getCircuitState config state key nowMs with
  | (entry, state) =>
    { state with circuits := state.circuits.set key { entry with failures := 0, openUntilMs := 0 } }

/-- What is recorded and checked. -/
inductive BreakerAction where
  | check (key : CircuitKey) (nowMs : Nat)
  | failure (key : CircuitKey) (localRefusal : Bool) (nowMs : Nat)
  | success (key : CircuitKey) (nowMs : Nat)
  | prune (nowMs : Nat)

namespace BreakerAction

/-- When an action happens. -/
def nowMs : BreakerAction → Nat
  | .check _ nowMs => nowMs
  | .failure _ _ nowMs => nowMs
  | .success _ nowMs => nowMs
  | .prune nowMs => nowMs

end BreakerAction

/-- One action. -/
def BreakerState.step (config : CircuitConfig) (state : BreakerState) :
    BreakerAction → BreakerState
  | .check key nowMs => (ensureAgentCircuitClosed config state key nowMs).2
  | .failure key localRefusal nowMs => registerAgentFailure config state key localRefusal nowMs
  | .success key nowMs => registerAgentSuccess config state key nowMs
  | .prune nowMs => { state with circuits := pruneRelayCircuitState config nowMs state.circuits }

/-! ## Histories -/

/-- What a history of one agent and channel tells. -/
inductive CircuitEvent where
  | failure (nowMs : Nat)
  | success
  | forgotten
deriving DecidableEq

/-- The entries that an action finds after its pruning. -/
def BreakerState.found (config : CircuitConfig) (state : BreakerState) :
    BreakerAction → OrderedMap CircuitKey RelayCircuitState
  | .check _ nowMs => (state.pruned config nowMs).circuits
  | .failure _ true _ => state.circuits
  | .failure _ false nowMs => (state.pruned config nowMs).circuits
  | .success _ nowMs => (state.pruned config nowMs).circuits
  | .prune nowMs => pruneRelayCircuitState config nowMs state.circuits

/-- The outcome that an action records for an agent and channel. -/
def BreakerAction.outcome (key : CircuitKey) : BreakerAction → List CircuitEvent
  | .failure other false nowMs => if other = key then [.failure nowMs] else []
  | .success other _ => if other = key then [.success] else []
  | _ => []

/-- What an action adds to the history of an agent and channel. -/
def BreakerState.events (config : CircuitConfig) (key : CircuitKey) (state : BreakerState)
    (action : BreakerAction) : List CircuitEvent :=
  (if (state.circuits.get key).isSome ∧ (state.found config action).get key = none then
    [.forgotten]
  else []) ++ action.outcome key

/-- The history of an agent and channel in a run. -/
def history (config : CircuitConfig) (key : CircuitKey) :
    BreakerState → List BreakerAction → List CircuitEvent
  | _, [] => []
  | state, action :: rest =>
    state.events config key action ++ history config key (state.step config action) rest

/-- Failures since the last success or pruning. -/
def streak (events : List CircuitEvent) : Nat :=
  events.foldl
    (fun failures event =>
      match event with
      | .failure _ => failures + 1
      | _ => 0) 0

/-- The last opening of the circuit, by as many failures in a row as the threshold says, is not
over, and no success was recorded since. -/
def Open (config : CircuitConfig) (events : List CircuitEvent) (nowMs : Nat) : Prop :=
  ∃ before openedAtMs after, events = before ++ .failure openedAtMs :: after ∧
    (config.relayCircuitFailureThreshold : Nat) ∣ streak (before ++ [.failure openedAtMs]) ∧
    .success ∉ after ∧ nowMs < openedAtMs + config.relayCircuitOpenMs

/-- A request is turned away. -/
def BreakerState.rejects (config : CircuitConfig) (state : BreakerState) (key : CircuitKey)
    (nowMs : Nat) : Bool :=
  (ensureAgentCircuitClosed config state key nowMs).1.isSome

open BreakerState

/-! ## Prunings -/

/-- The entry of a key is kept, or it was not open and is gone. -/
def Spares (nowMs : Nat) (before after : OrderedMap CircuitKey RelayCircuitState)
    (key : CircuitKey) : Prop :=
  after.get key = before.get key ∨
    (after.get key = none ∧ ∀ entry ∈ before.get key, entry.openUntilMs ≤ nowMs)

theorem get_dropUntilFew (circuits : OrderedMap CircuitKey RelayCircuitState)
    (keys : List CircuitKey) (key : CircuitKey) :
    (dropUntilFew circuits keys).get key = circuits.get key ∨
      ((dropUntilFew circuits keys).get key = none ∧ key ∈ keys) := by
  induction keys generalizing circuits with
  | nil => exact .inl rfl
  | cons first rest ih =>
    have erased : (circuits.erase first).get key = circuits.get key ∨
        ((circuits.erase first).get key = none ∧ key = first) := by
      rw [OrderedMap.get_erase]
      by_cases same : key = first
      · exact .inr ⟨if_pos same, same⟩
      · exact .inl (if_neg same)
    unfold dropUntilFew
    simp only
    by_cases few : (circuits.erase first).size ≤ maxTrackedAgentStates
    · rw [if_pos few]
      rcases erased with kept | ⟨gone, rfl⟩
      · exact .inl kept
      · exact .inr ⟨gone, List.mem_cons_self⟩
    · rw [if_neg few]
      rcases ih (circuits.erase first) with kept | ⟨gone, listed⟩
      · rw [kept]
        rcases erased with same | ⟨gone, rfl⟩
        · exact .inl same
        · exact .inr ⟨gone, List.mem_cons_self⟩
      · exact .inr ⟨gone, List.mem_cons_of_mem _ listed⟩

theorem spares_of_listed {nowMs : Nat} {before after : OrderedMap CircuitKey RelayCircuitState}
    {key : CircuitKey} {keys : List CircuitKey}
    (dropped : after.get key = before.get key ∨ (after.get key = none ∧ key ∈ keys))
    (closed : ∀ listed ∈ keys, ∀ entry ∈ before.get listed, entry.openUntilMs ≤ nowMs) :
    Spares nowMs before after key := by
  rcases dropped with same | ⟨gone, listed⟩
  · exact .inl same
  · exact .inr ⟨gone, closed key listed⟩

variable (config : CircuitConfig)

/-- A pruning drops no open circuit and changes no entry that it keeps. -/
theorem spares_prune (nowMs : Nat)
    (circuits : OrderedMap CircuitKey RelayCircuitState) (key : CircuitKey) :
    Spares nowMs circuits (pruneRelayCircuitState config nowMs circuits) key := by
  have listed : ∀ (map : OrderedMap CircuitKey RelayCircuitState)
      (test : RelayCircuitState → Bool),
      (∀ entry, test entry = true → entry.openUntilMs ≤ nowMs) →
      ∀ name ∈ (map.entries.filter fun entry => test entry.2).map Prod.fst,
        ∀ entry ∈ map.get name, entry.openUntilMs ≤ nowMs := by
    intro map test closed name member entry present
    obtain ⟨⟨other, stored⟩, inside, rfl⟩ := List.mem_map.mp member
    obtain ⟨kept, tested⟩ := List.mem_filter.mp inside
    have own := (map.get_eq_some_iff other stored).mpr kept
    rw [Option.mem_def, own] at present
    cases present
    exact closed _ tested
  have stale : ∀ entry, config.stale nowMs entry = true → entry.openUntilMs ≤ nowMs := by
    intro entry tested
    simp only [CircuitConfig.stale, decide_eq_true_eq] at tested
    exact tested.1
  generalize freshly : (circuits.entries.filter fun entry => config.stale nowMs entry.2).foldl
    (fun kept entry => kept.erase entry.1) circuits = fresh
  have first : Spares nowMs circuits fresh key := by
    refine spares_of_listed ?_ (listed circuits (config.stale nowMs) stale)
    have folded : (((circuits.entries.filter fun entry => config.stale nowMs entry.2).map
        Prod.fst).foldl (fun kept name => kept.erase name) circuits) = fresh := by
      rw [List.foldl_map]
      exact freshly
    rw [← folded, OrderedMap.get_foldl_erase]
    split_ifs with member
    · exact .inr ⟨rfl, member⟩
    · exact .inl rfl
  unfold pruneRelayCircuitState
  simp only [freshly]
  by_cases few : fresh.size ≤ maxTrackedAgentStates
  · rw [if_pos few]
    exact first
  · rw [if_neg few]
    have second : Spares nowMs fresh (dropUntilFew fresh
        (((fresh.entries.filter fun entry => entry.2.openUntilMs ≤ nowMs).mergeSort fun left right =>
          left.2.lastTouchedAtMs ≤ right.2.lastTouchedAtMs).map Prod.fst)) key := by
      refine spares_of_listed (get_dropUntilFew _ _ _) fun name member => ?_
      refine listed fresh (fun entry => entry.openUntilMs ≤ nowMs) (by simp) name ?_
      obtain ⟨entry, inside, rfl⟩ := List.mem_map.mp member
      exact List.mem_map.mpr ⟨entry, List.mem_mergeSort.mp inside, rfl⟩
    rcases first with same | ⟨gone, closed⟩
    · rcases second with kept | ⟨dropped, closed⟩
      · exact .inl (kept.trans same)
      · exact .inr ⟨dropped, by rw [← same]; exact closed⟩
    · rcases second with kept | ⟨dropped, -⟩
      · exact .inr ⟨kept.trans gone, closed⟩
      · exact .inr ⟨dropped, closed⟩

theorem spares_found (state : BreakerState) (action : BreakerAction)
    (key : CircuitKey) : Spares action.nowMs state.circuits (state.found config action) key := by
  have onPath : ∀ nowMs, Spares nowMs state.circuits (state.pruned config nowMs).circuits key := by
    intro nowMs
    unfold pruned
    split_ifs
    · exact spares_prune config nowMs state.circuits key
    · exact .inl rfl
  cases action with
  | check other nowMs => exact onPath nowMs
  | failure other localRefusal nowMs =>
    cases localRefusal with
    | true => exact .inl rfl
    | false => exact onPath nowMs
  | success other nowMs => exact onPath nowMs
  | prune nowMs => exact spares_prune config nowMs state.circuits key

/-! ## What a history says after one more event -/

section Events

variable {config : CircuitConfig} {events : List CircuitEvent} {nowMs : Nat}

theorem streak_failure (events : List CircuitEvent) (atMs : Nat) :
    streak (events ++ [.failure atMs]) = streak events + 1 := by
  simp [streak]

theorem streak_success (events : List CircuitEvent) : streak (events ++ [.success]) = 0 := by
  simp [streak]

theorem streak_forgotten (events : List CircuitEvent) : streak (events ++ [.forgotten]) = 0 := by
  simp [streak]

theorem open_append (event : CircuitEvent) :
    Open config (events ++ [event]) nowMs ↔
      (event ≠ .success ∧ Open config events nowMs) ∨
        ∃ openedAtMs, event = .failure openedAtMs ∧
          (config.relayCircuitFailureThreshold : Nat) ∣ streak events + 1 ∧
          nowMs < openedAtMs + config.relayCircuitOpenMs := by
  constructor
  · rintro ⟨before, openedAtMs, after, split, opens, since, soon⟩
    rcases List.eq_nil_or_concat after with rfl | ⟨others, last, rfl⟩
    · obtain ⟨rfl, lasts⟩ := List.append_inj' split rfl
      have same := (List.cons.inj lasts).1
      rw [streak_failure] at opens
      exact .inr ⟨openedAtMs, same, opens, soon⟩
    · have shape : events ++ [event] = (before ++ .failure openedAtMs :: others) ++ [last] := by
        rw [split, List.append_assoc, List.cons_append, List.concat_eq_append]
      obtain ⟨rfl, lasts⟩ := List.append_inj' shape rfl
      obtain rfl := (List.cons.inj lasts).1
      rw [List.concat_eq_append, List.mem_append, not_or] at since
      refine .inl ⟨fun success => since.2 ?_, before, openedAtMs, others, rfl, opens, since.1, soon⟩
      rw [success]
      exact List.mem_singleton_self _
  · rintro (⟨other, before, openedAtMs, after, rfl, opens, since, soon⟩ | ⟨atMs, rfl, opens, soon⟩)
    · refine ⟨before, openedAtMs, after ++ [event], by simp, opens, ?_, soon⟩
      rw [List.mem_append, not_or]
      refine ⟨since, fun last => other ?_⟩
      exact (List.mem_singleton.mp last).symm
    · rw [← streak_failure events atMs] at opens
      exact ⟨events, atMs, [], rfl, opens, List.not_mem_nil, soon⟩

theorem open_failure (atMs : Nat) :
    Open config (events ++ [.failure atMs]) nowMs ↔
      Open config events nowMs ∨
        ((config.relayCircuitFailureThreshold : Nat) ∣ streak events + 1 ∧
          nowMs < atMs + config.relayCircuitOpenMs) := by
  rw [open_append]
  simp

theorem not_open_success : ¬Open config (events ++ [.success]) nowMs := by
  rw [open_append]
  simp

theorem open_forgotten :
    Open config (events ++ [.forgotten]) nowMs ↔ Open config events nowMs := by
  rw [open_append]
  simp

end Events

theorem le_succ_mod_iff {modulus number : Nat} (positive : 0 < modulus) :
    modulus ≤ number % modulus + 1 ↔ modulus ∣ number + 1 := by
  have below := Nat.mod_lt number positive
  have parts := Nat.div_add_mod number modulus
  constructor
  · intro reached
    refine ⟨number / modulus + 1, ?_⟩
    rw [Nat.mul_add, Nat.mul_one]
    omega
  · rintro ⟨times, equal⟩
    by_contra short
    have left : (number + 1) % modulus = number % modulus + 1 := by
      rw [← parts, Nat.add_assoc, Nat.mul_add_mod, Nat.mul_add_mod, Nat.mod_mod]
      exact Nat.mod_eq_of_lt (by omega)
    rw [equal, Nat.mul_mod_right] at left
    omega

theorem succ_mod_of_not_dvd {modulus number : Nat} (positive : 0 < modulus)
    (multiple : ¬modulus ∣ number + 1) : (number + 1) % modulus = number % modulus + 1 := by
  have below := Nat.mod_lt number positive
  have short : ¬modulus ≤ number % modulus + 1 := fun reached =>
    multiple ((le_succ_mod_iff positive).mp reached)
  have parts := Nat.div_add_mod number modulus
  rw [← parts, Nat.add_assoc, Nat.mul_add_mod, Nat.mul_add_mod, Nat.mod_mod]
  exact Nat.mod_eq_of_lt (by omega)

/-! ## Entries follow histories -/

/-- The failures that an entry counts. -/
def countOf (entry : Option RelayCircuitState) : Nat := (entry.map (·.failures)).getD 0

/-- Until when an entry is open. -/
def openUntil (entry : Option RelayCircuitState) : Nat := (entry.map (·.openUntilMs)).getD 0

/-- An entry follows a history: it counts the failures since the last opening, and from an instant
on it is open exactly when the history says so. -/
structure Follows (config : CircuitConfig) (entry : Option RelayCircuitState)
    (events : List CircuitEvent) (clockMs : Nat) : Prop where
  count : countOf entry = streak events % config.relayCircuitFailureThreshold
  bounded : openUntil entry ≤ clockMs + config.relayCircuitOpenMs
  verdict : ∀ nowMs, clockMs ≤ nowMs → (nowMs < openUntil entry ↔ Open config events nowMs)

namespace Follows

variable {config : CircuitConfig} {entry : Option RelayCircuitState} {events : List CircuitEvent}
  {clockMs : Nat}

theorem initial : Follows config none [] 0 := by
  refine ⟨by simp [countOf, streak], Nat.zero_le _, fun nowMs _ => ?_⟩
  refine ⟨fun soon => absurd soon (Nat.not_lt_zero _), ?_⟩
  rintro ⟨before, openedAtMs, after, split, -⟩
  simp at split

section

variable (follows : Follows config entry events clockMs)

include follows

theorem later {laterMs : Nat}
    (passes : clockMs ≤ laterMs) : Follows config entry events laterMs :=
  ⟨follows.count, follows.bounded.trans (Nat.add_le_add_right passes _),
    fun nowMs after => follows.verdict nowMs (passes.trans after)⟩

theorem congr {other : Option RelayCircuitState}
    (counts : countOf other = countOf entry) (opens : openUntil other = openUntil entry) :
    Follows config other events clockMs :=
  ⟨counts.trans follows.count, by rw [opens]; exact follows.bounded,
    by rw [opens]; exact follows.verdict⟩

theorem forget
    (closed : openUntil entry ≤ clockMs) :
    Follows config none (events ++ [.forgotten]) clockMs := by
  refine ⟨by simp [countOf, streak_forgotten], Nat.zero_le _, fun nowMs after => ?_⟩
  rw [open_forgotten, ← follows.verdict nowMs after]
  have blank : openUntil none = 0 := rfl
  omega

end

variable {state : RelayCircuitState}

theorem succeed (count : state.failures = 0) (closed : state.openUntilMs = 0) :
    Follows config (some state) (events ++ [.success]) clockMs := by
  refine ⟨?_, ?_, fun nowMs _ => ?_⟩
  · simp [countOf, count, streak_success]
  · simp [openUntil, closed]
  · simp [openUntil, closed, not_open_success]

theorem countFailure (follows : Follows config entry events clockMs)
    (short : ¬(config.relayCircuitFailureThreshold : Nat) ≤ countOf entry + 1)
    (count : state.failures = countOf entry + 1) (same : state.openUntilMs = openUntil entry) :
    Follows config (some state) (events ++ [.failure clockMs]) clockMs := by
  have positive := config.relayCircuitFailureThreshold.pos
  have multiple : ¬(config.relayCircuitFailureThreshold : Nat) ∣ streak events + 1 := by
    rw [← le_succ_mod_iff positive, ← follows.count]
    exact short
  have number : countOf (some state) = state.failures := rfl
  have reopens : openUntil (some state) = state.openUntilMs := rfl
  refine ⟨?_, ?_, fun nowMs after => ?_⟩
  · rw [number, count, follows.count, streak_failure, succ_mod_of_not_dvd positive multiple]
  · rw [reopens, same]
    exact follows.bounded
  · rw [open_failure, reopens, same, follows.verdict nowMs after]
    simp [multiple]

theorem openCircuit (follows : Follows config entry events clockMs)
    (reached : (config.relayCircuitFailureThreshold : Nat) ≤ countOf entry + 1)
    (count : state.failures = 0)
    (opened : state.openUntilMs = clockMs + config.relayCircuitOpenMs) :
    Follows config (some state) (events ++ [.failure clockMs]) clockMs := by
  have positive := config.relayCircuitFailureThreshold.pos
  have multiple : (config.relayCircuitFailureThreshold : Nat) ∣ streak events + 1 := by
    rw [← le_succ_mod_iff positive, ← follows.count]
    exact reached
  have number : countOf (some state) = state.failures := rfl
  have reopens : openUntil (some state) = state.openUntilMs := rfl
  refine ⟨?_, ?_, fun nowMs after => ?_⟩
  · rw [number, count, streak_failure, Nat.mod_eq_zero_of_dvd multiple]
  · rw [reopens, opened]
  · rw [open_failure, reopens, opened, ← follows.verdict nowMs after]
    have bounded := follows.bounded
    constructor
    · exact fun soon => .inr ⟨multiple, soon⟩
    · rintro (soon | ⟨-, soon⟩)
      · omega
      · exact soon

end Follows

section Steps

variable {config : CircuitConfig} {state : BreakerState} {key : CircuitKey}
  {events : List CircuitEvent} {clockMs : Nat}

theorem follows_found (follows : Follows config (state.circuits.get key) events clockMs)
    (action : BreakerAction) (passes : clockMs ≤ action.nowMs) :
    Follows config ((state.found config action).get key)
      (events ++ if (state.circuits.get key).isSome ∧ (state.found config action).get key = none then
        [.forgotten] else []) action.nowMs := by
  have now := follows.later passes
  cases before : state.circuits.get key with
  | none =>
    rw [before] at now
    have gone : (state.found config action).get key = none := by
      rcases spares_found config state action key with same | ⟨gone, -⟩
      · exact same.trans before
      · exact gone
    rw [gone, if_neg (by simp), List.append_nil]
    exact now
  | some entry =>
    rw [before] at now
    rcases spares_found config state action key with same | ⟨gone, closed⟩
    · rw [same, before, if_neg (by simp), List.append_nil]
      exact now
    · rw [gone, if_pos (by simp)]
      exact now.forget (closed entry before)

theorem getCircuitState_eq (config : CircuitConfig) (state : BreakerState) (key : CircuitKey)
    (nowMs : Nat) :
    let found := (state.pruned config nowMs).circuits.get key
    (getCircuitState config state key nowMs).1 = ⟨countOf found, openUntil found, nowMs⟩ ∧
      (getCircuitState config state key nowMs).2.circuits =
        (state.pruned config nowMs).circuits.set key ⟨countOf found, openUntil found, nowMs⟩ := by
  unfold getCircuitState
  simp only
  cases (state.pruned config nowMs).circuits.get key with
  | none | some existing => exact ⟨rfl, rfl⟩

/-- An action leaves an entry that follows the history. -/
theorem follows_step (follows : Follows config (state.circuits.get key) events clockMs)
    (action : BreakerAction) (passes : clockMs ≤ action.nowMs) :
    Follows config ((state.step config action).circuits.get key)
      (events ++ state.events config key action) action.nowMs := by
  have found := follows_found follows action passes
  unfold BreakerState.events
  rw [← List.append_assoc]
  generalize events ++ (if (state.circuits.get key).isSome ∧
    (state.found config action).get key = none then [.forgotten] else []) = told at found ⊢
  cases action with
  | check other nowMs =>
    have read := (getCircuitState_eq config state other nowMs).2
    simp only [step, ensureAgentCircuitClosed, BreakerAction.outcome,
      List.append_nil, read, OrderedMap.get_set]
    split_ifs with same
    · subst same
      exact found.congr rfl rfl
    · exact found
  | failure other localRefusal nowMs =>
    cases localRefusal with
    | true =>
      simp only [step, registerAgentFailure, if_true, BreakerAction.outcome,
        List.append_nil]
      exact found
    | false =>
      obtain ⟨entry, read⟩ := getCircuitState_eq config state other nowMs
      simp only [step, registerAgentFailure, Bool.false_eq_true, if_false,
        BreakerAction.outcome, read, entry, OrderedMap.get_set]
      by_cases same : key = other
      · subst same
        simp only [if_true]
        by_cases reached : (config.relayCircuitFailureThreshold : Nat) ≤
            countOf ((state.pruned config nowMs).circuits.get key) + 1
        · rw [if_pos reached]
          exact found.openCircuit reached rfl rfl
        · rw [if_neg reached]
          exact found.countFailure reached rfl rfl
      · rw [if_neg same, if_neg same, if_neg (Ne.symm same), List.append_nil]
        exact found
  | success other nowMs =>
    obtain ⟨entry, read⟩ := getCircuitState_eq config state other nowMs
    simp only [step, registerAgentSuccess, BreakerAction.outcome, read, entry,
      OrderedMap.get_set]
    by_cases same : key = other
    · subst same
      simp only [if_true]
      exact Follows.succeed rfl rfl
    · rw [if_neg same, if_neg same, if_neg (Ne.symm same), List.append_nil]
      exact found
  | prune nowMs =>
    simp only [step, BreakerAction.outcome, List.append_nil]
    exact found

end Steps

theorem history_append (key : CircuitKey) (state : BreakerState)
    (actions : List BreakerAction) (action : BreakerAction) :
    history config key state (actions ++ [action]) =
      history config key state actions ++
        (run (step config) state actions).events config key action := by
  induction actions generalizing state with
  | nil => simp [history]
  | cons first rest ih =>
    simp only [List.cons_append, history, run_cons]
    rw [ih, List.append_assoc]

/-- A circuit follows the documented one in every run. -/
theorem follows_run (key : CircuitKey) (actions : List BreakerAction)
    (ordered : (actions.map BreakerAction.nowMs).Pairwise (· ≤ ·)) {clockMs : Nat}
    (past : ∀ action ∈ actions, action.nowMs ≤ clockMs) :
    Follows config ((run (step config) {} actions).circuits.get key)
      (history config key {} actions) clockMs := by
  induction actions using List.reverseRecOn generalizing clockMs with
  | nil => exact Follows.initial.later (Nat.zero_le _)
  | append_singleton earlier last ih =>
    rw [List.map_append, List.pairwise_append] at ordered
    have before : ∀ action ∈ earlier, action.nowMs ≤ last.nowMs := fun action member =>
      ordered.2.2 action.nowMs (List.mem_map_of_mem member) last.nowMs (by simp)
    have follows := follows_step (ih ordered.1 before) last le_rfl
    rw [history_append, run_append]
    exact follows.later (past last (by simp))

/-- In every run in the order of time, a request is turned away exactly when the history of its
agent and channel says so: as many failures in a row as the threshold says, without a success or a
pruning of the entry between them, opened the circuit, its time is not over, and no success was
recorded since. A history has the outcomes of its own agent and channel only; and no pruning drops
an open circuit or changes an entry that it keeps. -/
theorem circuit_rejects_iff_open (config : CircuitConfig) (key : CircuitKey)
    (actions : List BreakerAction) (nowMs : Nat)
    (ordered : ((actions ++ [BreakerAction.check key nowMs]).map BreakerAction.nowMs).Pairwise
      (· ≤ ·)) :
    ((run (step config) {} actions).rejects config key nowMs = true ↔
      Open config (history config key {} actions) nowMs) ∧
    ∀ atMs other, Spares atMs (run (step config) {} actions).circuits
      (pruneRelayCircuitState config atMs (run (step config) {} actions).circuits)
      other := by
  rw [List.map_append, List.pairwise_append] at ordered
  have past : ∀ action ∈ actions, action.nowMs ≤ nowMs := fun action member =>
    ordered.2.2 action.nowMs (List.mem_map_of_mem member) nowMs (by simp [BreakerAction.nowMs])
  have follows := follows_run config key actions ordered.1 past
  refine ⟨?_, fun atMs other => spares_prune config atMs _ other⟩
  generalize run (step config) {} actions = state at follows ⊢
  have read := (getCircuitState_eq config state key nowMs).1
  have verdict := follows.verdict nowMs le_rfl
  have found : nowMs < openUntil ((state.pruned config nowMs).circuits.get key) ↔
      nowMs < openUntil (state.circuits.get key) := by
    rcases spares_found config state (.check key nowMs) key with same | ⟨gone, closed⟩
    · have kept : (state.pruned config nowMs).circuits.get key = state.circuits.get key := same
      rw [kept]
    · have dropped : (state.pruned config nowMs).circuits.get key = none := gone
      rw [dropped]
      cases before : state.circuits.get key with
      | none => exact Iff.rfl
      | some entry =>
        have isOver : entry.openUntilMs ≤ nowMs := closed entry before
        simp only [openUntil, Option.map_none, Option.getD_none, Option.map_some, Option.getD_some]
        omega
  rw [← verdict, ← found]
  simp only [rejects, ensureAgentCircuitClosed, read]
  split_ifs with soon
  · simp [soon]
  · simp [soon]

/-- A threshold of two. -/
def twoFailures : CircuitConfig := { relayCircuitFailureThreshold := 2 }

/-- Two failures in a row turn the next request away. -/
theorem two_failures_reject :
    (run (step twoFailures) {}
      [.failure (.relay, "agent") false 0, .failure (.relay, "agent") false 1000]).rejects
        twoFailures (.relay, "agent") 2000 = true ∧
    Open twoFailures (history twoFailures (.relay, "agent") {}
      [.failure (.relay, "agent") false 0, .failure (.relay, "agent") false 1000]) 2000 :=
  ⟨by decide, (circuit_rejects_iff_open twoFailures (.relay, "agent")
    [.failure (.relay, "agent") false 0, .failure (.relay, "agent") false 1000] 2000
    (by decide)).1.mp (by decide)⟩

/-- The outcomes of an agent and channel, with the prunings left out. -/
def outcomes (key : CircuitKey) (actions : List BreakerAction) : List CircuitEvent :=
  actions.flatMap (BreakerAction.outcome key)

/-- Two failures in a row, with the entry pruned between them, do not turn the next request away. -/
theorem pruning_forgets_failure :
    (run (step twoFailures) {}
      [.failure (.relay, "agent") false 0, .failure (.relay, "agent") false 400000]).rejects
        twoFailures (.relay, "agent") 400001 = false ∧
    Open twoFailures (outcomes (.relay, "agent")
      [.failure (.relay, "agent") false 0, .failure (.relay, "agent") false 400000]) 400001 :=
  ⟨by decide, [.failure 0], 400000, [], rfl, by decide, by decide, by decide⟩

end PlugHub.Relay
