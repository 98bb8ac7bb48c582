import Mathlib.Data.List.Basic
import PlugHub.Config
import PlugHub.Library.Runs

/-!
# Overload of the outbound queue

Two signals can make the hub shed new work: the number of unfinished outbound jobs and the
95th percentile of their durations. Each has a threshold to enter the overload and one to
leave it. The state is cached and evaluated again by several callers; all of them remember
one bit for both signals.

Durations are counted in hundredths of a millisecond, the precision to which the source
rounds its percentiles.
-/

namespace PlugHub.Relay

open Library

/-- Where a signal enters the overload and where it leaves it. -/
structure Thresholds where
  enter : Nat
  exit : Nat

/-- The thresholds of the backlog. -/
def resolveBacklogThresholds (env : Env) : Thresholds :=
  { enter := env.socketRelayOutboundOverloadBacklog
    exit :=
      if 0 < env.socketRelayOutboundOverloadBacklogExit then
        env.socketRelayOutboundOverloadBacklogExit
      else env.socketRelayOutboundOverloadBacklog }

/-- The thresholds of the percentile, in hundredths of a millisecond. -/
def resolveP95Thresholds (env : Env) : Thresholds :=
  { enter := env.socketRelayOutboundOverloadP95Ms * 100
    exit :=
      if 0 < env.socketRelayOutboundOverloadP95ExitMs then
        env.socketRelayOutboundOverloadP95ExitMs * 100
      else env.socketRelayOutboundOverloadP95Ms * 100 }

/-- Why the queue is overloaded. -/
inductive OverloadReason where
  | backlog
  | p95Latency
deriving DecidableEq

/-- The cached state. -/
structure OverloadStateCache where
  overloaded : Bool := false
  reason : Option OverloadReason := none
  retryAfterMs : Nat := 0
  p95Ms : Nat := 0
  p99Ms : Nat := 0
  backlog : Nat := 0
  computedAtMs : Nat := 0
deriving DecidableEq

/-- One evaluation of the signals. -/
structure Observation where
  backlog : Nat
  p95Ms : Nat
  overloadedByBacklog : Bool
  overloadedByP95 : Bool
deriving DecidableEq

/-- The cache, with the evaluations so far, newest first. -/
structure OverloadState where
  cache : OverloadStateCache := {}
  observed : List Observation := []

/-- Whether a signal counts as overloaded: from its enter threshold on, or from its exit threshold
on when the queue was overloaded before. -/
def overloadedBy (thresholds : Thresholds) (value : Nat) (wasOverloaded : Bool) : Bool :=
  decide (0 < thresholds.enter) &&
    (if wasOverloaded then decide (thresholds.exit ≤ value)
    else decide (thresholds.enter ≤ value))

/-- Both signals. -/
def computeOverloadSignals (env : Env) (backlog p95Ms : Nat) (wasOverloaded : Bool) :
    Observation :=
  { backlog := backlog
    p95Ms := p95Ms
    overloadedByBacklog := overloadedBy (resolveBacklogThresholds env) backlog wasOverloaded
    overloadedByP95 := overloadedBy (resolveP95Thresholds env) p95Ms wasOverloaded }

/-- When a consumer that is turned away may try again. -/
def retryAfterFromSweep (env : Env) : Nat :=
  max 250 (min env.socketRelayOutboundSweepIntervalMs 1000)

namespace OverloadState

/-- Evaluate the signals and store the result. -/
def evaluate (env : Env) (state : OverloadState) (backlog p95Ms : Nat) : OverloadState :=
  let observation := computeOverloadSignals env backlog p95Ms state.cache.overloaded
  let isOverloaded := observation.overloadedByBacklog || observation.overloadedByP95
  { cache :=
      { state.cache with
        overloaded := isOverloaded
        reason :=
          if observation.overloadedByBacklog then some .backlog
          else if observation.overloadedByP95 then some .p95Latency
          else none
        retryAfterMs := if isOverloaded then retryAfterFromSweep env else 0
        p95Ms := p95Ms
        backlog := backlog }
    observed := observation :: state.observed }

/-- Evaluate with new percentiles. -/
def updateOverloadStateCache (env : Env) (state : OverloadState) (backlog p95Ms p99Ms nowMs : Nat) :
    OverloadState :=
  let evaluated := state.evaluate env backlog p95Ms
  { evaluated with
    cache := { evaluated.cache with p99Ms := p99Ms, computedAtMs := nowMs } }

/-- Evaluate with the cached percentile. -/
def updateBacklogOnlyOverloadStateCache (env : Env) (state : OverloadState) (backlog : Nat) :
    OverloadState :=
  state.evaluate env backlog state.cache.p95Ms

/-! ## The history of one signal -/

/-- The overload of one signal on its own: it holds from a value at the enter threshold on, as long
as no later value is below the exit threshold. Values are newest first. -/
def latched (thresholds : Thresholds) : List Nat → Bool
  | [] => false
  | value :: earlier =>
    decide (thresholds.enter ≤ value) ||
      (decide (thresholds.exit ≤ value) && latched thresholds earlier)

theorem latched_iff (thresholds : Thresholds) (values : List Nat) :
    latched thresholds values = true ↔ ∃ since value before,
      values = since ++ value :: before ∧ thresholds.enter ≤ value ∧
        ∀ later ∈ since, thresholds.exit ≤ later := by
  induction values with
  | nil =>
    refine ⟨nofun, ?_⟩
    rintro ⟨since, value, before, shape, -⟩
    have impossible := congrArg List.length shape
    rw [List.length_append, List.length_cons, List.length_nil] at impossible
    omega
  | cons value earlier ih =>
    simp only [latched, Bool.or_eq_true, Bool.and_eq_true, decide_eq_true_eq]
    constructor
    · rintro (entered | ⟨kept, still⟩)
      · exact ⟨[], value, earlier, rfl, entered, nofun⟩
      · obtain ⟨since, first, before, shape, entered, stayed⟩ := ih.mp still
        refine ⟨value :: since, first, before, by rw [shape]; rfl, entered, fun later member => ?_⟩
        rcases List.mem_cons.mp member with rfl | inner
        · exact kept
        · exact stayed later inner
    · rintro ⟨since, first, before, shape, entered, stayed⟩
      cases since with
      | nil =>
        cases shape
        exact Or.inl entered
      | cons latest rest =>
        cases shape
        refine Or.inr ⟨stayed value List.mem_cons_self, ih.mpr ⟨rest, first, before, rfl, entered, ?_⟩⟩
        exact fun later member => stayed later (List.mem_cons_of_mem _ member)

/-- A signal between its thresholds that did not enter the overload itself, while the queue is
overloaded. -/
def strays (thresholds : Thresholds) (earlier : List Nat) (value : Nat) (wasOverloaded : Bool) :
    Bool :=
  wasOverloaded && !latched thresholds earlier && decide (0 < thresholds.enter) &&
    decide (thresholds.exit ≤ value) && decide (value < thresholds.enter)

/-- An evaluation takes one signal for the other. -/
def confuses (env : Env) (state : OverloadState) (values : Nat × Nat) : Bool :=
  strays (resolveBacklogThresholds env) (state.observed.map (·.backlog)) values.1
      state.cache.overloaded ||
    strays (resolveP95Thresholds env) (state.observed.map (·.p95Ms)) values.2
      state.cache.overloaded

theorem latched_of_overloadedBy {thresholds : Thresholds} {earlier : List Nat} {value : Nat}
    {wasOverloaded : Bool} (own : strays thresholds earlier value wasOverloaded = false)
    (counted : overloadedBy thresholds value wasOverloaded = true) :
    latched thresholds (value :: earlier) = true := by
  simp only [overloadedBy, Bool.and_eq_true, decide_eq_true_eq] at counted
  obtain ⟨enabled, reached⟩ := counted
  simp only [latched, Bool.or_eq_true, Bool.and_eq_true, decide_eq_true_eq]
  by_cases entered : thresholds.enter ≤ value
  · exact Or.inl entered
  · cases wasOverloaded with
    | false =>
      simp only [Bool.false_eq_true, if_false, decide_eq_true_eq] at reached
      exact absurd reached entered
    | true =>
      simp only [if_true, decide_eq_true_eq] at reached
      have between : value < thresholds.enter := Nat.lt_of_not_le entered
      simp only [strays, enabled, reached, between, decide_true, Bool.and_true, Bool.true_and,
        Bool.not_eq_false'] at own
      exact Or.inr ⟨reached, own⟩

/-- At every evaluation a signal counted as overloaded only through its own history. -/
def Separate (env : Env) : List Observation → Prop
  | [] => True
  | latest :: earlier =>
    (latest.overloadedByBacklog = true → latched (resolveBacklogThresholds env)
      ((latest :: earlier).map (·.backlog)) = true) ∧
    (latest.overloadedByP95 = true → latched (resolveP95Thresholds env)
      ((latest :: earlier).map (·.p95Ms)) = true) ∧
    Separate env earlier

/-- What the cache reports is the result of the last evaluation. -/
def Reports (state : OverloadState) : Prop :=
  match state.observed with
  | [] => state.cache.overloaded = false ∧ state.cache.reason = none
  | latest :: _ =>
    state.cache.overloaded = (latest.overloadedByBacklog || latest.overloadedByP95) ∧
      (state.cache.reason = some .backlog ↔ latest.overloadedByBacklog = true) ∧
      (state.cache.reason = some .p95Latency ↔
        latest.overloadedByBacklog = false ∧ latest.overloadedByP95 = true)

theorem reports_evaluate (env : Env) (state : OverloadState) (backlog p95Ms : Nat) :
    (state.evaluate env backlog p95Ms).Reports := by
  simp only [Reports, evaluate, true_and]
  cases (computeOverloadSignals env backlog p95Ms state.cache.overloaded).overloadedByBacklog <;>
    cases (computeOverloadSignals env backlog p95Ms state.cache.overloaded).overloadedByP95 <;>
      decide

theorem counted_of_strays {thresholds : Thresholds} {earlier : List Nat} {value : Nat}
    {wasOverloaded : Bool} (astray : strays thresholds earlier value wasOverloaded = true) :
    overloadedBy thresholds value wasOverloaded = true ∧
      latched thresholds (value :: earlier) = false := by
  simp only [strays, Bool.and_eq_true, Bool.not_eq_true', decide_eq_true_eq] at astray
  obtain ⟨⟨⟨⟨was, own⟩, enabled⟩, kept⟩, below⟩ := astray
  refine ⟨?_, ?_⟩
  · simp only [overloadedBy, was, enabled, kept, decide_true, if_true, Bool.and_self]
  · have notEntered : ¬ thresholds.enter ≤ value := Nat.not_le.mpr below
    simp only [latched, notEntered, own, decide_false, Bool.and_false, Bool.or_self]

theorem separate_evaluate_iff (env : Env) (state : OverloadState) (values : Nat × Nat) :
    Separate env (state.evaluate env values.1 values.2).observed ↔
      Separate env state.observed ∧ state.confuses env values = false := by
  constructor
  · rintro ⟨byBacklog, byP95, separate⟩
    refine ⟨separate, ?_⟩
    simp only [confuses, Bool.or_eq_false_iff]
    refine ⟨?_, ?_⟩
    · by_contra astray
      have shown := counted_of_strays (Bool.not_eq_false _ ▸ astray)
      have own := byBacklog shown.1
      exact absurd (own.symm.trans shown.2) (by decide)
    · by_contra astray
      have shown := counted_of_strays (Bool.not_eq_false _ ▸ astray)
      have own := byP95 shown.1
      exact absurd (own.symm.trans shown.2) (by decide)
  · rintro ⟨separate, clear⟩
    simp only [confuses, Bool.or_eq_false_iff] at clear
    exact ⟨latched_of_overloadedBy clear.1, latched_of_overloadedBy clear.2, separate⟩

/-- One evaluation after the other. -/
def evaluateAll (env : Env) (state : OverloadState) (values : List (Nat × Nat)) : OverloadState :=
  values.foldl (fun state pair => state.evaluate env pair.1 pair.2) state

/-- One of the evaluations takes one signal for the other. -/
def confusesAny (env : Env) : OverloadState → List (Nat × Nat) → Bool
  | _, [] => false
  | state, pair :: rest =>
    state.confuses env pair || confusesAny env (state.evaluate env pair.1 pair.2) rest

theorem separate_evaluateAll_iff (env : Env) (state : OverloadState) (values : List (Nat × Nat)) :
    Separate env (state.evaluateAll env values).observed ↔
      Separate env state.observed ∧ confusesAny env state values = false := by
  induction values generalizing state with
  | nil => exact ⟨fun separate => ⟨separate, rfl⟩, fun both => both.1⟩
  | cons pair rest ih =>
    have later := ih (state.evaluate env pair.1 pair.2)
    rw [separate_evaluate_iff] at later
    simp only [confusesAny, Bool.or_eq_false_iff]
    rw [← and_assoc]
    exact later

theorem reports_evaluateAll (env : Env) {state : OverloadState} (reports : state.Reports)
    (values : List (Nat × Nat)) : (state.evaluateAll env values).Reports := by
  induction values generalizing state with
  | nil => exact reports
  | cons pair rest ih => exact ih (reports_evaluate env state pair.1 pair.2)

end OverloadState

end PlugHub.Relay
