import Mathlib.Logic.Function.Basic
import PlugHub.Library.Runs

/-!
# Maintenance jobs under an advisory lock

Every replica runs the same maintenance jobs, each under a lock of a Postgres session of its own:
who does not get the lock skips the run. Any of the calls can fail, also one whose query was
executed and whose answer was lost; the lock goes with its session, which is closed whatever
happens. Closing the connection ends the session and frees its locks in the same step.
-/

namespace PlugHub.AdvisoryLock

open Library

/-- `AdvisoryLockOutcome`: the job did not run, or it returned or threw. -/
inductive Outcome where
  | skipped
  | settled (succeeded : Bool)
deriving DecidableEq

/-- Where a run of `runWithAdvisoryLock` is suspended. -/
inductive Phase where
  | connecting
  | acquiring
  | running
  | unlocking (outcome : Outcome)
  | closing (outcome : Outcome)
  | ended (outcome : Outcome)
deriving DecidableEq

/-- The run has a connection. -/
def Phase.connected : Phase → Bool
  | .connecting | .ended _ => false
  | _ => true

/-- A run on some replica. -/
structure Run where
  lockId : Nat
  phase : Phase := .connecting
  /-- Postgres lost the session while the run had it. -/
  lost : Bool := false

/-- The runs, and the sessions that hold the locks. -/
structure State where
  runs : Nat → Option Run := fun _ => none
  locks : Nat → Option Nat := fun _ => none

/-- What happens. A query is executed or not, and its answer arrives or not. -/
inductive Action where
  | begin (run lockId : Nat)
  | connect (run : Nat) (succeeds : Bool)
  | tryAdvisoryLock (run : Nat) (executes answers : Bool)
  | jobSettles (run : Nat) (succeeded : Bool)
  | advisoryUnlock (run : Nat) (executes : Bool)
  | release (run : Nat)
  | sessionLost (run : Nat)

/-- The locks without those of a session. -/
def without (locks : Nat → Option Nat) (run : Nat) : Nat → Option Nat := fun lockId =>
  if locks lockId = some run then none else locks lockId

/-- A run goes on. -/
def State.set (state : State) (run : Nat) (record : Run) (locks : Nat → Option Nat) : State :=
  { runs := Function.update state.runs run (some record), locks := locks }

/-- What a run does, if there is one. -/
def State.advance (state : State) (run : Nat) : Action → Run → State
  | .connect _ succeeds, record =>
    if record.phase = .connecting then
      state.set run { record with phase := if succeeds then .acquiring else .ended .skipped }
        state.locks
    else state
  | .tryAdvisoryLock _ executes answers, record =>
    if record.phase = .acquiring then
      if executes ∧ record.lost = false ∧ state.locks record.lockId = none then
        state.set run { record with phase := if answers then .running else .closing .skipped }
          (Function.update state.locks record.lockId (some run))
      else state.set run { record with phase := .closing .skipped } state.locks
    else state
  | .jobSettles _ succeeded, record =>
    if record.phase = .running then
      state.set run { record with phase := .unlocking (.settled succeeded) } state.locks
    else state
  | .advisoryUnlock _ executes, record =>
    match record.phase with
    | .unlocking outcome => state.set run { record with phase := .closing outcome }
        (if executes then without state.locks run else state.locks)
    | _ => state
  | .release _, record =>
    match record.phase with
    | .closing outcome =>
      state.set run { record with phase := .ended outcome } (without state.locks run)
    | _ => state
  | .sessionLost _, record =>
    if record.phase.connected then
      state.set run { record with lost := true } (without state.locks run)
    else state
  | .begin _ _, _ => state

/-- The run an action belongs to. -/
def Action.run : Action → Nat
  | .begin run _ | .connect run _ | .tryAdvisoryLock run _ _ | .jobSettles run _
  | .advisoryUnlock run _ | .release run | .sessionLost run => run

/-- One step. -/
def step (state : State) (action : Action) : State :=
  match state.runs action.run, action with
  | none, .begin run lockId => state.set run { lockId := lockId } state.locks
  | none, _ => state
  | some record, action => state.advance action.run action record

/-! ## The lock goes with the run -/

/-- Who holds a lock has a connection and asked for this lock. -/
def Held (state : State) : Prop :=
  ∀ lockId run, state.locks lockId = some run →
    ∃ record, state.runs run = some record ∧ record.lockId = lockId ∧ record.phase.connected = true

/-- A job runs under its lock. -/
def Covered (state : State) : Prop :=
  ∀ run record, state.runs run = some record → record.phase = .running →
    state.locks record.lockId = some run

variable {state : State}

/-- What one step of a run does to it and to the locks. -/
structure Goes (state : State) (run : Nat) (action : Action) (record next : Run)
    (locks : Nat → Option Nat) : Prop where
  same : next.lockId = record.lockId
  others : ∀ lockId holder, holder ≠ run →
    (locks lockId = some holder ↔ state.locks lockId = some holder)
  own : ∀ lockId, locks lockId = some run →
    lockId = record.lockId ∧ next.phase.connected = true
  running : next.phase = .running →
    locks record.lockId = some run ∨ record.phase = .running ∧ action = .sessionLost run

/-- When a session ends, the locks of the others stay. -/
theorem without_eq_some_iff (locks : Nat → Option Nat) (run lockId holder : Nat) :
    without locks run lockId = some holder ↔ holder ≠ run ∧ locks lockId = some holder := by
  unfold without
  split
  · next own => simp [own, eq_comm]
  · next differs =>
    refine ⟨fun holds => ⟨?_, holds⟩, fun both => both.2⟩
    rintro rfl
    exact differs holds

/-- A run goes on, or nothing happens. -/
theorem advance_spec (held : Held state) {run : Nat} {record : Run}
    (found : state.runs run = some record) (action : Action) (named : action.run = run) :
    state.advance run action record = state ∨ ∃ next locks,
      state.advance run action record = state.set run next locks ∧
        Goes state run action record next locks := by
  have mine : ∀ lockId, state.locks lockId = some run →
      lockId = record.lockId ∧ record.phase.connected = true := by
    intro lockId holds
    obtain ⟨stored, same, rfl, connected⟩ := held lockId run holds
    obtain rfl := Option.some.inj (same.symm.trans found)
    exact ⟨rfl, connected⟩
  have lost : ∀ lockId holder, holder ≠ run →
      (without state.locks run lockId = some holder ↔ state.locks lockId = some holder) :=
    fun lockId holder differs => by simp [without_eq_some_iff, differs]
  have freed : ∀ {goal : Prop} lockId, without state.locks run lockId = some run → goal :=
    fun lockId holds => absurd rfl ((without_eq_some_iff ..).mp holds).1
  cases action with
  | begin => exact .inl rfl
  | connect _ succeeds =>
    by_cases phase : record.phase = .connecting
    · simp only [State.advance, if_pos phase]
      refine .inr ⟨_, _, rfl, rfl, fun _ _ _ => .rfl, fun lockId holds => ?_, ?_⟩
      · have connected := (mine lockId holds).2
        simp [phase, Phase.connected] at connected
      · cases succeeds <;> simp
    · exact .inl (by simp only [State.advance, if_neg phase])
  | tryAdvisoryLock _ executes answers =>
    by_cases phase : record.phase = .acquiring
    · simp only [State.advance, if_pos phase]
      by_cases granted : executes ∧ record.lost = false ∧ state.locks record.lockId = none
      · rw [if_pos granted]
        refine .inr ⟨_, _, rfl, rfl, ?_, ?_, fun _ => .inl (Function.update_self ..)⟩
        · intro lockId holder differs
          rw [Function.update_apply]
          split
          · next same => simp [same, granted.2.2, Ne.symm differs]
          · exact .rfl
        · intro lockId holds
          rw [Function.update_apply] at holds
          split at holds
          · next same => exact ⟨same, by cases answers <;> rfl⟩
          · exact ⟨(mine lockId holds).1, by cases answers <;> rfl⟩
      · rw [if_neg granted]
        exact .inr ⟨_, _, rfl, rfl, fun _ _ _ => .rfl,
          fun lockId holds => ⟨(mine lockId holds).1, rfl⟩, by simp⟩
    · exact .inl (by simp only [State.advance, if_neg phase])
  | jobSettles _ succeeded =>
    by_cases phase : record.phase = .running
    · simp only [State.advance, if_pos phase]
      exact .inr ⟨_, _, rfl, rfl, fun _ _ _ => .rfl,
        fun lockId holds => ⟨(mine lockId holds).1, rfl⟩, by simp⟩
    · exact .inl (by simp only [State.advance, if_neg phase])
  | advisoryUnlock _ executes =>
    simp only [State.advance]
    split
    · refine .inr ⟨_, _, rfl, rfl, ?_, ?_, by simp⟩
      · cases executes
        · exact fun _ _ _ => .rfl
        · exact lost
      · cases executes
        · exact fun lockId holds => ⟨(mine lockId holds).1, rfl⟩
        · exact fun lockId holds => freed lockId holds
    · exact .inl rfl
  | release =>
    simp only [State.advance]
    split
    · exact .inr ⟨_, _, rfl, rfl, lost, fun lockId holds => freed lockId holds, by simp⟩
    · exact .inl rfl
  | sessionLost other =>
    obtain rfl : other = run := named
    by_cases connected : record.phase.connected = true
    · simp only [State.advance, if_pos connected]
      exact .inr ⟨_, _, rfl, rfl, lost,
        fun lockId holds => freed lockId holds, fun running => .inr ⟨running, rfl⟩⟩
    · exact .inl (by simp only [State.advance, if_neg connected])

/-- What one step does: nothing, a run starts, or a run goes on. -/
theorem step_cases (held : Held state) (action : Action) :
    step state action = state ∨
    (∃ run lockId, state.runs run = none ∧
      step state action = state.set run { lockId := lockId } state.locks) ∨
    ∃ record next locks, state.runs action.run = some record ∧
      step state action = state.set action.run next locks ∧
        Goes state action.run action record next locks := by
  cases found : state.runs action.run with
  | none =>
    cases action with
    | begin run lockId =>
      have fresh : state.runs run = none := found
      exact .inr (.inl ⟨run, lockId, fresh, by simp only [step, Action.run, fresh]⟩)
    | _ => exact .inl (by simp only [step, found])
  | some record =>
    have same : step state action = state.advance action.run action record := by
      simp only [step, found]
    rw [same]
    rcases advance_spec held found action rfl with idle | ⟨next, locks, goes⟩
    · exact .inl idle
    · exact .inr (.inr ⟨record, next, locks, rfl, goes⟩)

/-- A lock stays with a run that asked for it. -/
theorem Held.step (held : Held state) (action : Action) :
    Held (AdvisoryLock.step state action) := by
  rcases step_cases held action with
    same | ⟨run, asked, fresh, same⟩ | ⟨record, next, locks, _, same, goes⟩
  · rwa [same]
  · rw [same]
    intro lockId holder holds
    obtain ⟨record, found, earlier⟩ := held lockId holder holds
    refine ⟨record, (Function.update_of_ne ?_ ..).trans found, earlier⟩
    rintro rfl
    rw [found] at fresh
    cases fresh
  · rw [same]
    intro lockId holder holds
    by_cases own : holder = action.run
    · subst own
      obtain ⟨rfl, connected⟩ := goes.own lockId holds
      exact ⟨next, Function.update_self .., goes.same, connected⟩
    · obtain ⟨stored, earlier⟩ := held lockId holder ((goes.others lockId holder own).mp holds)
      exact ⟨stored, (Function.update_of_ne own ..).trans earlier.1, earlier.2⟩

/-- Whatever fails, a lock is held only by a run that still has its connection: no run leaves its
lock behind. -/
theorem locks_go_with_runs (actions : List Action) : Held (run step {} actions) :=
  run_invariant step (fun _ action held => held.step action) (fun _ _ holds => by cases holds)
    actions

/-! ## One replica at a time -/

/-- No two runs of the same lock are running their jobs. -/
def Exclusive (state : State) : Prop :=
  ∀ first second one other, state.runs first = some one → state.runs second = some other →
    one.phase = .running → other.phase = .running → one.lockId = other.lockId → first = second

/-- The session of a running job is not lost. -/
def spares (state : State) : Action → Bool
  | .sessionLost run => (state.runs run).all fun record => record.phase ≠ .running
  | _ => true

/-- A running job keeps its lock while its session lives. -/
theorem Covered.step (covered : Covered state) (held : Held state) {action : Action}
    (spared : spares state action = true) : Covered (AdvisoryLock.step state action) := by
  rcases step_cases held action with
    same | ⟨starting, asked, fresh, same⟩ | ⟨record, next, locks, found, same, goes⟩
  · rwa [same]
  · rw [same]
    intro run record shown running
    simp only [State.set, Function.update_apply] at shown
    split at shown
    · obtain rfl := Option.some.inj shown
      cases running
    · exact covered run record shown running
  · rw [same]
    intro run stored shown running
    simp only [State.set, Function.update_apply] at shown
    split at shown
    · next own =>
      subst own
      obtain rfl := Option.some.inj shown
      rw [goes.same]
      refine (goes.running running).resolve_right ?_
      rintro ⟨wasRunning, lost⟩
      have spared : (state.runs action.run).all (fun record => record.phase ≠ .running) = true := by
        rwa [lost] at spared
      rw [found] at spared
      simp [wasRunning] at spared
    · next other =>
      exact (goes.others _ run other).mpr (covered run stored shown running)

/-- Two replicas never run a job at the same time, as long as Postgres does not lose the session
of a running job. -/
theorem one_replica_at_a_time {actions : List Action}
    (spared : Meets step (fun state action => spares state action = true) {} actions) :
    Exclusive (run step {} actions) := by
  have initially : Held {} ∧ Covered {} :=
    And.intro (fun _ _ holds => by cases holds) (fun _ _ found => by cases found)
  have keeps : ∀ state action, Held state ∧ Covered state → spares state action = true →
      Held (step state action) ∧ Covered (step state action) := by
    rintro state action ⟨held, covered⟩ spared
    exact ⟨held.step action, covered.step held spared⟩
  have covered : Covered (run step {} actions) :=
    (run_invariant_of_meets step keeps initially spared).2
  intro first second one other oneFound otherFound oneRuns otherRuns lock
  have firstHolds := covered first one oneFound oneRuns
  have secondHolds := covered second other otherFound otherRuns
  rw [lock, secondHolds] at firstHolds
  exact (Option.some.inj firstHolds).symm

/-- A session is lost before its job starts; of the two other runs one has the lock, and the other
skips. -/
def contended : List Action :=
  [.begin 0 11001, .connect 0 true, .tryAdvisoryLock 0 true false, .sessionLost 0,
    .begin 1 11001, .connect 1 true, .tryAdvisoryLock 1 true true,
    .begin 2 11001, .connect 2 true, .tryAdvisoryLock 2 true true]

theorem contended_exclusive : Exclusive (run step {} contended) :=
  one_replica_at_a_time (by decide)

end PlugHub.AdvisoryLock
