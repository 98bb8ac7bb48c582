import Mathlib.Logic.Basic
import Mathlib.Tactic.SplitIfs
import PlugHub.Library.Runs

/-!
# The scheduler of profile synchronisations

One agent of the scheduler. A schedule call replaces the pending timer, unless its snapshot is that
of a recent success; a timer that fires starts a synchronisation, unless one is in flight; a
synchronisation that fails in a retryable way schedules its own input again. Clearing the agent
begins a new generation, and a run of an older generation only cleans up after itself.

Every call of `schedule` from outside gets a number; a retry keeps the number of its call.
-/

namespace PlugHub.Scheduling

open Library

/-- What a schedule call is about. -/
structure SyncInput where
  call : Nat
  fingerprint : Option String
deriving DecidableEq

/-- A timer. -/
structure SyncTimer where
  input : SyncInput
  generation : Nat

/-- A synchronisation in flight. -/
structure SyncRun where
  input : SyncInput
  generation : Nat
  attempt : Nat
  ended : Bool := false

/-- A recent success. -/
structure RecentSync where
  fingerprint : String
  expiresAtMs : Nat

/-- The scheduler, for one agent. -/
structure ProfileSyncScheduler where
  generation : Nat := 0
  timer : Option SyncTimer := none
  attempts : Option Nat := none
  inFlight : Option SyncRun := none
  recent : Option RecentSync := none
  nextCall : Nat := 0
  latest : Option Nat := none
  started : List Nat := []

/-- The configuration. -/
structure ProfileSyncConfig where
  recentTtlMs : Nat
  maxAttempts : Nat

/-- What happens for the agent. -/
inductive SyncAction where
  /-- `schedule` is called from outside. -/
  | schedule (fingerprint : Option String) (now : Nat)
  /-- `clear` is called. -/
  | clear
  | fire
  | granted
  | succeed (now : Nat)
  | fail (retryable : Bool) (now : Nat)
  | settle
  | evict

namespace ProfileSyncScheduler

/-- The recent success after it is looked up, and whether the fingerprint is its own. -/
def isRecentDuplicate (scheduler : ProfileSyncScheduler) (fingerprint : String) (now : Nat) :
    ProfileSyncScheduler × Bool :=
  match scheduler.recent with
  | none => (scheduler, false)
  | some recent =>
    if recent.expiresAtMs ≤ now then ({ scheduler with recent := none }, false)
    else (scheduler, recent.fingerprint == fingerprint)

/-- The body of `schedule`, and whether the call was skipped. -/
def setTimer (scheduler : ProfileSyncScheduler) (input : SyncInput) (now : Nat) :
    ProfileSyncScheduler × Bool :=
  let looked := match input.fingerprint with
    | some fingerprint => scheduler.isRecentDuplicate fingerprint now
    | none => (scheduler, false)
  if looked.2 then (looked.1, true)
  else ({ looked.1 with timer := some ⟨input, scheduler.generation⟩ }, false)

/-- `schedule`, called from outside. -/
def schedule (scheduler : ProfileSyncScheduler) (fingerprint : Option String) (now : Nat) :
    ProfileSyncScheduler :=
  let called := scheduler.setTimer ⟨scheduler.nextCall, fingerprint⟩ now
  { called.1 with
    nextCall := scheduler.nextCall + 1
    latest := if called.2 then scheduler.latest else some scheduler.nextCall }

/-- `clear`. -/
def clear (scheduler : ProfileSyncScheduler) : ProfileSyncScheduler :=
  { scheduler with
    generation := scheduler.generation + 1, timer := none, attempts := none, latest := none }

/-- `runScheduledSync`, up to its first await. -/
def runScheduledSync (scheduler : ProfileSyncScheduler) (input : SyncInput) (generation : Nat) :
    ProfileSyncScheduler :=
  if scheduler.generation ≠ generation then scheduler
  else if scheduler.inFlight.isSome then scheduler
  else
    let attempt := scheduler.attempts.getD 0 + 1
    { scheduler with
      attempts := some attempt
      inFlight := some { input, generation, attempt }
      started := input.call :: scheduler.started }

/-- The timer fires; no timer fires between the end of a synchronisation and the removal of its
entry, which follows in a microtask. -/
def fire (scheduler : ProfileSyncScheduler) : ProfileSyncScheduler :=
  match scheduler.timer with
  | some timer =>
    if scheduler.inFlight.any (·.ended) then scheduler
    else { scheduler with timer := none }.runScheduledSync timer.input timer.generation
  | none => scheduler

/-- The synchronisation in flight ends. -/
def endRun (scheduler : ProfileSyncScheduler) (run : SyncRun) : ProfileSyncScheduler :=
  { scheduler with inFlight := some { run with ended := true } }

/-- A success. -/
def succeed (config : ProfileSyncConfig) (scheduler : ProfileSyncScheduler) (run : SyncRun)
    (now : Nat) : ProfileSyncScheduler :=
  if scheduler.generation ≠ run.generation then { scheduler with attempts := none }
  else
    { scheduler with
      recent := match run.input.fingerprint with
        | some fingerprint => some ⟨fingerprint, now + config.recentTtlMs⟩
        | none => scheduler.recent
      attempts := none }

/-- `handleFailure`. -/
def handleFailure (config : ProfileSyncConfig) (scheduler : ProfileSyncScheduler) (run : SyncRun)
    (retryable : Bool) (now : Nat) : ProfileSyncScheduler :=
  if scheduler.generation ≠ run.generation then { scheduler with attempts := none }
  else if retryable ∧ run.attempt < config.maxAttempts then (scheduler.setTimer run.input now).1
  else { scheduler with attempts := none }

/-- One step. -/
def step (config : ProfileSyncConfig) (scheduler : ProfileSyncScheduler) :
    SyncAction → ProfileSyncScheduler
  | .schedule fingerprint now => scheduler.schedule fingerprint now
  | .clear => scheduler.clear
  | .fire => scheduler.fire
  | .granted => scheduler
  | .succeed now =>
    match scheduler.inFlight with
    | some run => if run.ended then scheduler else (scheduler.succeed config run now).endRun run
    | none => scheduler
  | .fail retryable now =>
    match scheduler.inFlight with
    | some run =>
      if run.ended then scheduler
      else (scheduler.handleFailure config run retryable now).endRun run
    | none => scheduler
  | .settle =>
    match scheduler.inFlight with
    | some run => if run.ended then { scheduler with inFlight := none } else scheduler
    | none => scheduler
  | .evict => { scheduler with recent := none }

/-! ## The property -/

/-- With neither a timer nor a synchronisation in flight, the last call of the generation that was
not skipped was started. -/
def LatestStarted (scheduler : ProfileSyncScheduler) : Prop :=
  scheduler.timer = none → scheduler.inFlight = none →
    ∀ call ∈ scheduler.latest, call ∈ scheduler.started

/-- No chain of attempts is longer than the limit. -/
def AttemptsWithin (config : ProfileSyncConfig) (scheduler : ProfileSyncScheduler) : Prop :=
  ∀ call, scheduler.started.count call ≤ max 1 config.maxAttempts

/-- A failure leaves a pending timer as it is. -/
def KeepsNewer (config : ProfileSyncConfig) (scheduler : ProfileSyncScheduler) : SyncAction → Prop
  | .fail retryable now => ∀ timer ∈ scheduler.timer,
    (scheduler.step config (.fail retryable now)).timer = some timer
  | _ => True

/-- The end of a run of an older generation changes neither the timer nor the attempts nor the
recent success. -/
def StaleInert (config : ProfileSyncConfig) (scheduler : ProfileSyncScheduler)
    (action : SyncAction) : Prop :=
  (∃ retryable now, action = .fail retryable now ∨ action = .succeed now) →
    (∀ run ∈ scheduler.inFlight, run.generation ≠ scheduler.generation) →
    (scheduler.step config action).timer = scheduler.timer ∧
      (scheduler.step config action).attempts = scheduler.attempts ∧
      (scheduler.step config action).recent = scheduler.recent

/-- No timer fires while a synchronisation is in flight, and no failure retries while a timer is
pending. -/
def Undisturbed (config : ProfileSyncConfig) (scheduler : ProfileSyncScheduler) : SyncAction → Prop
  | .fire => scheduler.timer.isSome = true → scheduler.inFlight.all (·.ended) = true
  | .fail retryable _ => ∀ run ∈ scheduler.inFlight, run.generation = scheduler.generation →
    run.ended = false → retryable = true → run.attempt < config.maxAttempts →
    scheduler.timer = none
  | _ => True

instance (config : ProfileSyncConfig) (scheduler : ProfileSyncScheduler) :
    ∀ action, Decidable (scheduler.Undisturbed config action)
  | .fire => inferInstanceAs (Decidable (_ → _))
  | .fail _ _ => inferInstanceAs (Decidable (∀ run ∈ scheduler.inFlight, _ → _ → _ → _ → _))
  | .schedule _ _ | .clear | .granted | .succeed _ | .settle | .evict =>
    inferInstanceAs (Decidable True)

/-! ## Steps -/

variable {config : ProfileSyncConfig} {scheduler : ProfileSyncScheduler}

theorem setTimer_cases (scheduler : ProfileSyncScheduler) (input : SyncInput) (now : Nat) :
    ∃ recent, scheduler.setTimer input now = ({ scheduler with recent }, true) ∨
      scheduler.setTimer input now =
        ({ scheduler with recent, timer := some ⟨input, scheduler.generation⟩ }, false) := by
  unfold setTimer
  cases input.fingerprint with
  | none => exact ⟨scheduler.recent, Or.inr rfl⟩
  | some fingerprint =>
    unfold isRecentDuplicate
    cases recent : scheduler.recent with
    | none =>
      refine ⟨none, Or.inr ?_⟩
      simp only [Bool.false_eq_true, if_false, ← recent]
    | some held =>
      simp only
      by_cases expired : held.expiresAtMs ≤ now
      · refine ⟨none, Or.inr ?_⟩
        simp only [expired, if_true, Bool.false_eq_true, if_false]
      · by_cases same : (held.fingerprint == fingerprint) = true
        · refine ⟨some held, Or.inl ?_⟩
          simp only [expired, if_false, same, if_true, ← recent]
        · refine ⟨some held, Or.inr ?_⟩
          simp only [expired, if_false, same, ← recent]
          rfl

/-- The chains of attempts and the run in flight. -/
structure Sound (config : ProfileSyncConfig) (scheduler : ProfileSyncScheduler) : Prop where
  current : ∀ timer ∈ scheduler.timer, timer.generation = scheduler.generation
  past : ∀ run ∈ scheduler.inFlight, run.generation ≤ scheduler.generation
  made : ∀ call ∈ scheduler.started, call < scheduler.nextCall
  /-- The input of the timer was scheduled by a call that was made. -/
  timed : ∀ timer ∈ scheduler.timer, timer.input.call < scheduler.nextCall
  /-- The input of the run was scheduled by a call that was made. -/
  ran : ∀ run ∈ scheduler.inFlight, run.input.call < scheduler.nextCall
  within : AttemptsWithin config scheduler
  counted : ∀ timer ∈ scheduler.timer,
    scheduler.started.count timer.input.call ≤ scheduler.attempts.getD 0
  behind : ∀ timer ∈ scheduler.timer, ∀ run ∈ scheduler.inFlight, run.ended = false →
    scheduler.started.count timer.input.call = 0
  running : ∀ run ∈ scheduler.inFlight, run.ended = false →
    run.generation = scheduler.generation → scheduler.attempts = some run.attempt ∧
      scheduler.started.count run.input.call ≤ run.attempt ∧
      run.attempt ≤ max 1 config.maxAttempts
  stale : ∀ run ∈ scheduler.inFlight, run.ended = false →
    run.generation ≠ scheduler.generation → scheduler.attempts = none
  idle : (∀ run ∈ scheduler.inFlight, run.ended = true) →
    scheduler.attempts.getD 0 < max 1 config.maxAttempts

namespace Sound

section

variable (sound : Sound config scheduler)

include sound

theorem recent (recent : Option RecentSync) :
    Sound config { scheduler with recent } :=
  ⟨sound.current, sound.past, sound.made, sound.timed, sound.ran, sound.within, sound.counted,
    sound.behind, sound.running, sound.stale, sound.idle⟩

theorem count_next :
    scheduler.started.count scheduler.nextCall = 0 :=
  List.count_eq_zero.mpr fun member => Nat.lt_irrefl _ (sound.made _ member)

theorem schedule (fingerprint : Option String) (now : Nat) :
    Sound config (scheduler.schedule fingerprint now) := by
  unfold ProfileSyncScheduler.schedule
  obtain ⟨recent, skipped | set⟩ :=
    scheduler.setTimer_cases ⟨scheduler.nextCall, fingerprint⟩ now
  · rw [skipped]
    exact ⟨sound.current, sound.past, fun call member => Nat.lt_succ_of_lt (sound.made call member),
      fun timer held => Nat.lt_succ_of_lt (sound.timed timer held),
      fun run held => Nat.lt_succ_of_lt (sound.ran run held), sound.within, sound.counted,
      sound.behind, sound.running, sound.stale, sound.idle⟩
  · rw [set]
    refine ⟨?_, sound.past, fun call member => Nat.lt_succ_of_lt (sound.made call member), ?_,
      fun run held => Nat.lt_succ_of_lt (sound.ran run held), sound.within, ?_, ?_, sound.running,
      sound.stale, sound.idle⟩
    · rintro timer ⟨⟩
      rfl
    · rintro timer ⟨⟩
      exact Nat.lt_succ_self _
    · rintro timer ⟨⟩
      show scheduler.started.count scheduler.nextCall ≤ _
      rw [sound.count_next]
      exact Nat.zero_le _
    · rintro timer ⟨⟩ run held running
      exact sound.count_next

theorem clear : Sound config scheduler.clear :=
  { sound with
    current := nofun
    past run held := Nat.le_succ_of_le (sound.past run held)
    timed := nofun
    counted := nofun
    behind := nofun
    running run held _ same := by
      have past := sound.past run held
      have later : run.generation = scheduler.generation + 1 := same
      omega
    stale _ _ _ _ := rfl
    idle _ := by
      show 0 < max 1 config.maxAttempts
      omega }

theorem fire : Sound config scheduler.fire := by
  unfold ProfileSyncScheduler.fire
  cases set : scheduler.timer with
  | none => exact sound
  | some timer =>
    simp only
    split_ifs with ending
    · exact sound
    · have dropped : Sound config { scheduler with timer := none } :=
        ⟨nofun, sound.past, sound.made, nofun, sound.ran, sound.within, nofun, nofun,
          sound.running, sound.stale, sound.idle⟩
      unfold runScheduledSync
      split_ifs with older busy
      · exact dropped
      · exact dropped
      · have absent : scheduler.inFlight = none := Option.not_isSome_iff_eq_none.mp busy
        have free : scheduler.attempts.getD 0 < max 1 config.maxAttempts := by
          refine sound.idle ?_
          rw [absent]
          nofun
        have counted := sound.counted timer set
        have known := sound.timed timer set
        have more (call : Nat) : (timer.input.call :: scheduler.started).count call =
            scheduler.started.count call + if timer.input.call = call then 1 else 0 := by
          rw [List.count_cons]
          simp only [beq_iff_eq]
        refine ⟨nofun, ?_, ?_, nofun, ?_, ?_, nofun, nofun, ?_, ?_, ?_⟩
        · rintro run ⟨⟩
          exact Nat.le_of_eq (not_not.mp older).symm
        · intro call member
          rcases List.mem_cons.mp member with rfl | earlier
          · exact known
          · exact sound.made call earlier
        · rintro run ⟨⟩
          exact known
        · intro call
          show (timer.input.call :: scheduler.started).count call ≤ _
          rw [more]
          split_ifs with same
          · rw [← same]
            omega
          · exact sound.within call
        · rintro run ⟨⟩ - -
          refine ⟨rfl, ?_, free⟩
          show (timer.input.call :: scheduler.started).count timer.input.call ≤ _
          rw [more, if_pos rfl]
          exact Nat.succ_le_succ counted
        · rintro run ⟨⟩ - other
          exact absurd (not_not.mp older).symm other
        · intro ended
          have impossible := ended _ rfl
          cases impossible

theorem finish {run : SyncRun} (held : scheduler.inFlight = some run) (running : run.ended = false)
    (recent : Option RecentSync) :
    Sound config ({ scheduler with recent, attempts := none }.endRun run) :=
  { sound with
    past := by
      rintro ended ⟨⟩
      exact sound.past run held
    ran := by
      rintro ended ⟨⟩
      exact sound.ran run held
    counted timer set := Nat.le_of_eq (sound.behind timer set run held running)
    behind := by
      rintro timer set ended ⟨⟩ unsettled
      cases unsettled
    running := by
      rintro ended ⟨⟩ unsettled
      cases unsettled
    stale := by
      rintro ended ⟨⟩ unsettled
      cases unsettled
    idle _ := by
      show 0 < max 1 config.maxAttempts
      omega }

/-- A synchronisation ends and its input is scheduled again, or skipped as a recent duplicate. -/
theorem retry {run : SyncRun} (held : scheduler.inFlight = some run) (running : run.ended = false)
    (same : run.generation = scheduler.generation) (again : run.attempt < config.maxAttempts)
    (now : Nat) :
    Sound config ((scheduler.setTimer run.input now).1.endRun run) := by
  obtain ⟨attempts, counted, -⟩ := sound.running run held running same
  have ended (timer : Option SyncTimer) (recent : Option RecentSync)
      (fine : ∀ pending ∈ timer, pending.generation = scheduler.generation ∧
        pending.input.call < scheduler.nextCall ∧
        scheduler.started.count pending.input.call ≤ run.attempt) :
      Sound config ({ scheduler with recent, timer }.endRun run) := by
    refine ⟨fun pending set => (fine pending set).1, ?_, sound.made,
      fun pending set => (fine pending set).2.1, ?_, sound.within, fun pending set => ?_, ?_, ?_,
      ?_, fun _ => ?_⟩
    · rintro other ⟨⟩
      exact sound.past run held
    · rintro other ⟨⟩
      exact sound.ran run held
    · show _ ≤ scheduler.attempts.getD 0
      rw [attempts]
      exact (fine pending set).2.2
    · rintro pending set other ⟨⟩ unsettled
      cases unsettled
    · rintro other ⟨⟩ unsettled
      cases unsettled
    · rintro other ⟨⟩ unsettled
      cases unsettled
    · show scheduler.attempts.getD 0 < _
      rw [attempts]
      show run.attempt < _
      omega
  obtain ⟨recent, skipped | set⟩ := scheduler.setTimer_cases run.input now
  · rw [skipped]
    refine ended scheduler.timer recent fun pending set => ⟨sound.current pending set,
      sound.timed pending set, ?_⟩
    rw [sound.behind pending set run held running]
    exact Nat.zero_le _
  · rw [set]
    refine ended _ recent ?_
    rintro pending ⟨⟩
    exact ⟨rfl, sound.ran run held, counted⟩

/-- Every action keeps the scheduler sound. -/
theorem step (action : SyncAction) :
    Sound config (scheduler.step config action) := by
  cases action with
  | schedule fingerprint now => exact sound.schedule fingerprint now
  | clear => exact sound.clear
  | fire => exact sound.fire
  | granted => exact sound
  | succeed now =>
    simp only [ProfileSyncScheduler.step]
    cases held : scheduler.inFlight with
    | none => exact sound
    | some run =>
      simp only
      split_ifs with ended
      · exact sound
      · have running : run.ended = false := Bool.not_eq_true _ ▸ ended
        unfold ProfileSyncScheduler.succeed
        split_ifs
        · exact sound.finish held running scheduler.recent
        · exact sound.finish held running _
  | fail retryable now =>
    simp only [ProfileSyncScheduler.step]
    cases held : scheduler.inFlight with
    | none => exact sound
    | some run =>
      simp only
      split_ifs with ended
      · exact sound
      · have running : run.ended = false := Bool.not_eq_true _ ▸ ended
        unfold handleFailure
        split_ifs with older again
        · exact sound.finish held running scheduler.recent
        · exact sound.retry held running (not_not.mp older).symm again.2 now
        · exact sound.finish held running scheduler.recent
  | settle =>
    simp only [ProfileSyncScheduler.step]
    cases held : scheduler.inFlight with
    | none => exact sound
    | some run =>
      simp only
      split_ifs with ended
      · refine ⟨sound.current, nofun, sound.made, sound.timed, nofun, sound.within, sound.counted,
          nofun, nofun, nofun, fun _ => sound.idle fun other present => ?_⟩
        rw [held] at present
        cases present
        exact ended
      · exact sound
  | evict => exact sound.recent none

end

theorem initial (config : ProfileSyncConfig) : Sound config {} := by
  refine ⟨nofun, nofun, nofun, nofun, nofun, fun _ => Nat.zero_le _, nofun, nofun, nofun, nofun,
    fun _ => ?_⟩
  show 0 < max 1 config.maxAttempts
  omega

theorem staleInert (sound : Sound config scheduler) (action : SyncAction) :
    scheduler.StaleInert config action := by
  rintro ⟨retryable, now, rfl | rfl⟩ older
  · simp only [ProfileSyncScheduler.step]
    cases held : scheduler.inFlight with
    | none => exact ⟨rfl, rfl, rfl⟩
    | some run =>
      simp only
      split_ifs with ended
      · exact ⟨rfl, rfl, rfl⟩
      · have running : run.ended = false := Bool.not_eq_true _ ▸ ended
        have none := sound.stale run held running (older run held)
        unfold handleFailure
        rw [if_pos (Ne.symm (older run held))]
        exact ⟨rfl, none.symm, rfl⟩
  · simp only [ProfileSyncScheduler.step]
    cases held : scheduler.inFlight with
    | none => exact ⟨rfl, rfl, rfl⟩
    | some run =>
      simp only
      split_ifs with ended
      · exact ⟨rfl, rfl, rfl⟩
      · have running : run.ended = false := Bool.not_eq_true _ ▸ ended
        have none := sound.stale run held running (older run held)
        unfold ProfileSyncScheduler.succeed
        rw [if_pos (Ne.symm (older run held))]
        exact ⟨rfl, none.symm, rfl⟩

end Sound

/-! ## Undisturbed runs -/

/-- The last call was started, or the timer is its own. -/
def Covered (scheduler : ProfileSyncScheduler) : Prop :=
  ∀ call ∈ scheduler.latest, call ∈ scheduler.started ∨
    ∃ timer ∈ scheduler.timer, timer.input.call = call

namespace Covered

variable {after : ProfileSyncScheduler}

section

variable (covered : scheduler.Covered)

include covered

theorem congr (latest : after.latest = scheduler.latest)
    (started : after.started = scheduler.started) (timer : after.timer = scheduler.timer) :
    after.Covered := by
  intro call last
  rw [started, timer]
  exact covered call (latest ▸ last)

theorem schedule (fingerprint : Option String) (now : Nat) :
    (scheduler.schedule fingerprint now).Covered := by
  unfold ProfileSyncScheduler.schedule
  obtain ⟨recent, skipped | set⟩ :=
    scheduler.setTimer_cases ⟨scheduler.nextCall, fingerprint⟩ now
  · rw [skipped]
    exact covered.congr rfl rfl rfl
  · rw [set]
    rintro call ⟨⟩
    exact Or.inr ⟨_, rfl, rfl⟩

theorem fire (sound : Sound config scheduler)
    (undisturbed : scheduler.Undisturbed config .fire) : scheduler.fire.Covered := by
  unfold ProfileSyncScheduler.fire
  cases set : scheduler.timer with
  | none => exact covered
  | some timer =>
    simp only
    split_ifs with ending
    · exact covered
    · have idle : scheduler.inFlight.all (·.ended) = true := by
        refine undisturbed ?_
        rw [set]
        rfl
      have absent : scheduler.inFlight = none := by
        cases held : scheduler.inFlight with
        | none => rfl
        | some run =>
          rw [held] at idle ending
          exact absurd idle ending
      have current := sound.current timer set
      unfold runScheduledSync
      simp only [ne_eq, current, not_true_eq_false, if_false, absent, Option.isSome_none,
        Bool.false_eq_true]
      intro call last
      left
      rcases covered call last with started | ⟨pending, own, same⟩
      · exact List.mem_cons_of_mem _ started
      · rw [set] at own
        cases own
        rw [← same]
        exact List.mem_cons_self

theorem fail {retryable : Bool} {now : Nat}
    (undisturbed : scheduler.Undisturbed config (.fail retryable now)) :
    (scheduler.step config (.fail retryable now)).Covered := by
  simp only [ProfileSyncScheduler.step]
  cases held : scheduler.inFlight with
  | none => exact covered
  | some run =>
    simp only
    split_ifs with ended
    · exact covered
    · have running : run.ended = false := Bool.not_eq_true _ ▸ ended
      unfold handleFailure
      split_ifs with older again
      · exact covered.congr rfl rfl rfl
      · have unset := undisturbed run held (not_not.mp older).symm running again.1 again.2
        obtain ⟨recent, skipped | set⟩ := scheduler.setTimer_cases run.input now
        · rw [skipped]
          exact covered.congr rfl rfl rfl
        · rw [set]
          intro call last
          rcases covered call last with started | ⟨pending, own, -⟩
          · exact Or.inl started
          · rw [unset] at own
            cases own
      · exact covered.congr rfl rfl rfl

theorem step (sound : Sound config scheduler) (action : SyncAction)
    (undisturbed : scheduler.Undisturbed config action) :
    (scheduler.step config action).Covered := by
  cases action with
  | schedule fingerprint now => exact covered.schedule fingerprint now
  | clear => exact nofun
  | fire => exact covered.fire sound undisturbed
  | granted => exact covered
  | succeed now =>
    simp only [ProfileSyncScheduler.step]
    cases scheduler.inFlight with
    | none => exact covered
    | some run =>
      simp only
      split_ifs
      · exact covered
      · unfold ProfileSyncScheduler.succeed
        split_ifs <;> exact covered.congr rfl rfl rfl
  | fail retryable now => exact covered.fail undisturbed
  | settle =>
    simp only [ProfileSyncScheduler.step]
    cases scheduler.inFlight with
    | none => exact covered
    | some run =>
      simp only
      split_ifs
      · exact covered.congr rfl rfl rfl
      · exact covered
  | evict => exact covered.congr rfl rfl rfl

theorem latestStarted : scheduler.LatestStarted := by
  intro unset _ call last
  rcases covered call last with started | ⟨timer, set, -⟩
  · exact started
  · rw [unset] at set
    cases set

end

end Covered

theorem keepsNewer_of_undisturbed (action : SyncAction)
    (undisturbed : scheduler.Undisturbed config action) : scheduler.KeepsNewer config action := by
  cases action with
  | fail retryable now =>
    intro timer set
    simp only [step]
    cases held : scheduler.inFlight with
    | none => exact set
    | some run =>
      simp only
      split_ifs with ended
      · exact set
      · have running : run.ended = false := Bool.not_eq_true _ ▸ ended
        unfold handleFailure
        split_ifs with older again
        · exact set
        · have unset := undisturbed run held (not_not.mp older).symm running again.1 again.2
          rw [unset] at set
          cases set
        · exact set
  | _ => trivial

end ProfileSyncScheduler

open ProfileSyncScheduler in
/-- In every run in which no timer fires while a synchronisation is in flight and no failure
retries while a timer is pending: in every state reached with neither a timer nor a synchronisation
in flight, the last call of the generation that was not skipped was started, and no retry replaced
a pending timer. In every run at all, no call is attempted more often than the limit, and the end
of a run of an older generation changes nothing of the newer one. -/
theorem latest_snapshot_synced_when_undisturbed (config : ProfileSyncConfig)
    (actions : List SyncAction) :
    (Meets (step config) (Undisturbed config) {} actions →
      (∀ taken, taken <+: actions → LatestStarted (run (step config) {} taken)) ∧
      ∀ taken action, taken ++ [action] <+: actions →
        KeepsNewer config (run (step config) {} taken) action) ∧
    (∀ taken, taken <+: actions → AttemptsWithin config (run (step config) {} taken)) ∧
    ∀ taken action, taken ++ [action] <+: actions →
      StaleInert config (run (step config) {} taken) action := by
  have steps (scheduler : ProfileSyncScheduler) (action : SyncAction)
      (sound : Sound config scheduler) : Sound config (scheduler.step config action) :=
    sound.step action
  have keeps (scheduler : ProfileSyncScheduler) (action : SyncAction)
      (sound : Sound config scheduler ∧ scheduler.Covered)
      (undisturbed : scheduler.Undisturbed config action) :
      Sound config (scheduler.step config action) ∧ (scheduler.step config action).Covered :=
    ⟨sound.1.step action, sound.2.step sound.1 action undisturbed⟩
  have reached (taken : List SyncAction) : Sound config (run (step config) {} taken) :=
    run_invariant _ steps (Sound.initial config) taken
  refine ⟨fun undisturbed => ⟨fun taken first => ?_, fun taken action first => ?_⟩,
    fun taken _ => (reached taken).within,
    fun taken action _ => (reached taken).staleInert action⟩
  · exact (every_state_of_meets _ keeps ⟨Sound.initial config, nofun⟩ undisturbed taken
      first).2.latestStarted
  · exact keepsNewer_of_undisturbed action (undisturbed.at_step _ first)

/-- The default limits. -/
def sampleSyncConfig : ProfileSyncConfig := ⟨30000, 4⟩

/-- A snapshot is scheduled, fails once, and succeeds. -/
def retriedOnce : List SyncAction :=
  [.schedule (some "1:a") 0, .fire, .granted, .fail true 1, .settle, .fire, .granted, .succeed 2,
    .settle]

open ProfileSyncScheduler in
/-- The snapshot was attempted twice and is recent. -/
theorem retried_once_synced :
    let final := run (step sampleSyncConfig) {} retriedOnce
    LatestStarted final ∧ final.latest = some 0 ∧ final.started = [0, 0] ∧
      final.inFlight = none ∧ final.timer = none :=
  ⟨((latest_snapshot_synced_when_undisturbed sampleSyncConfig retriedOnce).1 (by decide)).1
    retriedOnce (List.prefix_refl _), by decide, by decide, by decide, by decide⟩

/-- A newer snapshot is scheduled while an older one is in flight, and its timer fires before the
older one ends. -/
def firedInFlight : List SyncAction :=
  [.schedule (some "1:a") 0, .fire, .granted, .schedule (some "2:b") 1, .fire, .succeed 2, .settle]

open ProfileSyncScheduler in
/-- The newer snapshot is never synchronised. -/
theorem newer_snapshot_dropped :
    let final := run (step sampleSyncConfig) {} firedInFlight
    ¬LatestStarted final ∧ final.latest = some 1 ∧ final.started = [0] := by
  refine ⟨fun latest => ?_, by decide, by decide⟩
  have started := latest (by decide) (by decide) 1 (by decide)
  exact absurd started (by decide)

end PlugHub.Scheduling
