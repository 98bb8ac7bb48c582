import PlugHub.Profiles.RefreshCoordinator

/-!
# The jobs of the refresh coordinator

One invariant of the jobs, the queue, the batches and the waiters, and one lemma for each part of a
step: the end of a job, a waiter that is released or added, the loop of the pump, a batch in hand.
-/

namespace PlugHub.Profiles

open Library
open OrderedMap (forall_set get_erase get_modify get_set get_set_cases)

namespace RefreshCoordinator

variable {A E : Type} (hub : RefreshCoordinator A E)

/-! ## The invariant -/

/-- What holds of the jobs at every point of a step, in which some active jobs are in hand. -/
structure Sound (hand : List Nat) : Prop where
  known : ∀ id, (hub.stateOf id).isSome = true ↔ id < hub.nextJob
  queued : ∀ id, id ∈ hub.queue ↔ hub.stateOf id = some .queued
  active : hub.active = hub.jobs.count fun _ job => job.state = .active
  limit : 0 < hub.concurrency → (hub.active : Int) ≤ hub.concurrency
  /-- Jobs become active in the order of their numbers, those that wait last. -/
  ordered : (hub.started ++ hub.queue).Pairwise (· < ·)
  begun : ∀ id ∈ hub.started, hub.stateOf id = some .active ∨ hub.stateOf id = some .settled
  slots : ∀ id, hub.stateOf id = some .active → id ∈ hub.started
  once : ∀ id, hub.settlements.countP (·.1 = id) =
    if hub.stateOf id = some .settled then 1 else 0
  batch : ∀ number jobs, hub.batches.get number = some jobs → number < hub.nextBatch
  placed : ∀ id, (hub.batches.total fun jobs => jobs.count id) + hub.running.count id +
    hand.count id = if hub.stateOf id = some .active then 1 else 0
  unstarted : ∀ id, (id, .cancelled) ∈ hub.settlements → id ∉ hub.started
  ran : ∀ id ∈ hub.runs, id ∈ hub.started
  interested : ∀ id job, hub.jobs.get id = some job → job.interested =
    hub.waiters.count fun _ waiter => waiter.job = id ∧ waiter.state = .waiting
  waiter : ∀ number waiter, hub.waiters.get number = some waiter →
    number < hub.nextWaiter ∧ waiter.job < hub.nextJob

/-- While jobs are admitted, a pump is scheduled if a job may become active. -/
def Pumped : Prop :=
  hub.admitting = true → hub.queue ≠ [] → hub.Spare → hub.scheduled = true

/-- What holds between the steps. -/
structure Steady : Prop where
  sound : hub.Sound []
  shut : hub.admitting = false → hub.queue = []
  pumped : hub.Pumped

/-- What holds between the steps while they come in time. -/
structure Calm : Prop where
  /-- No job is active while a drain call that was woken has not resumed. -/
  drained : hub.released ≠ [] → hub.active = 0
  drains : hub.DrainsIdle
  unsettled : ∀ number waiter, hub.waiters.get number = some waiter →
    hub.stateOf waiter.job ≠ some .settled → waiter.state = .waiting ∨ waiter.state = .aborted

variable {hub} {hand : List Nat}

theorem steady_initial (concurrency : Int) :
    ({ concurrency } : RefreshCoordinator A E).Steady where
  sound :=
    { known := fun _ => ⟨nofun, nofun⟩
      queued := fun _ => ⟨nofun, nofun⟩
      active := rfl
      limit := fun positive => Int.le_of_lt positive
      ordered := List.Pairwise.nil
      begun := nofun
      slots := fun _ => nofun
      once := fun _ => rfl
      batch := fun _ _ => nofun
      placed := fun _ => rfl
      unstarted := nofun
      ran := nofun
      interested := fun _ _ => nofun
      waiter := fun _ _ => nofun }
  shut := nofun
  pumped _ absent := absurd rfl absent

theorem calm_initial (concurrency : Int) : ({ concurrency } : RefreshCoordinator A E).Calm where
  drained absent := absurd rfl absent
  drains := nofun
  unsettled _ _ := nofun

theorem schedule_eq (hub : RefreshCoordinator A E) : ∃ scheduled,
    hub.schedule = { hub with scheduled } ∧
    (hub.admitting = true → scheduled = true) := by
  unfold schedule
  split_ifs with already
  · refine ⟨hub.scheduled, rfl, fun admits => ?_⟩
    simpa [admits] using already
  · exact ⟨true, rfl, fun _ => rfl⟩

theorem wakeDrain_eq (hub : RefreshCoordinator A E) : ∃ released drainWaiters,
    hub.wakeDrain = { hub with released, drainWaiters } ∧
      (released = hub.released ∨ hub.active = 0) := by
  unfold wakeDrain
  split_ifs with absent
  · exact ⟨_, _, rfl, Or.inr absent⟩
  · exact ⟨_, _, rfl, Or.inl rfl⟩

/-! ## The end of a job -/

/-- What finishing a job that is not settled does. -/
structure Finished (hub next : RefreshCoordinator A E) (id : Nat) (job : RefreshJob)
    (outcome : RefreshOutcome A E) : Prop where
  active : next.active = if job.state = .active then hub.active - 1 else hub.active
  queue : next.queue = hub.queue.filter (· != id)
  jobs : next.jobs = hub.jobs.set id { job with state := .settled }
  settlements : next.settlements = hub.settlements ++ [(id, outcome)]
  scheduled : hub.admitting = true → next.scheduled = true
  released : next.released = hub.released ∨ next.active = 0
  rest : next.concurrency = hub.concurrency ∧ next.nextJob = hub.nextJob ∧
    next.admitting = hub.admitting ∧ next.waiters = hub.waiters ∧
    next.nextWaiter = hub.nextWaiter ∧ next.batches = hub.batches ∧
    next.nextBatch = hub.nextBatch ∧ next.running = hub.running ∧ next.started = hub.started ∧
    next.runs = hub.runs ∧ next.drains = hub.drains

variable {id : Nat} {job : RefreshJob}

theorem finished (found : hub.jobs.get id = some job)
    (unsettled : job.state ≠ .settled) (outcome : RefreshOutcome A E) :
    hub.Finished (hub.finish id outcome) id job outcome := by
  unfold finish
  rw [found]
  simp only
  rw [if_neg unsettled]
  generalize settled : ({ hub with
    active := if job.state = RefreshJobState.active then hub.active - 1 else hub.active
    queue := hub.queue.filter (· != id)
    jobs := hub.jobs.set id { job with state := .settled }
    settlements := hub.settlements ++ [(id, outcome)] } : RefreshCoordinator A E) = after
  obtain ⟨scheduled, first, wanted⟩ := schedule_eq after
  rw [first]
  obtain ⟨released, drainWaiters, second, woken⟩ := wakeDrain_eq { after with scheduled }
  rw [second]
  subst settled
  exact ⟨rfl, rfl, rfl, rfl, wanted, woken, rfl, rfl, rfl, rfl, rfl, rfl, rfl, rfl, rfl, rfl,
    rfl⟩

theorem get_of_stateOf {state : RefreshJobState} (known : hub.stateOf id = some state) :
    ∃ job, hub.jobs.get id = some job ∧ job.state = state :=
  Option.map_eq_some_iff.mp known

theorem stateOf_set {next : RefreshCoordinator A E}
    (stored : next.jobs = hub.jobs.set id job) (other : Nat) :
    next.stateOf other = if other = id then some job.state else hub.stateOf other := by
  unfold stateOf
  rw [stored, get_set]
  split_ifs
  · rfl
  · rfl

variable {outcome : RefreshOutcome A E}

theorem Finished.states {next : RefreshCoordinator A E}
    (done : hub.Finished next id job outcome) (other : Nat) :
    next.stateOf other = if other = id then some .settled else hub.stateOf other :=
  stateOf_set done.jobs other

/-- A job that is not settled is finished: one of those in hand, with a result that is no
cancellation, or one that waits for its turn. -/
theorem Sound.finish (sound : hub.Sound hand) {rest : List Nat} (found : hub.jobs.get id = some job)
    (may : job.state = .active ∧ hand = id :: rest ∧ outcome ≠ .cancelled ∨
      job.state = .queued ∧ hand = rest) : (hub.finish id outcome).Sound rest := by
  have state : hub.stateOf id = some job.state := congrArg _ found
  have unsettled : job.state ≠ .settled := by
    rcases may with ⟨active, -⟩ | ⟨queued, -⟩
    · rw [active]
      exact nofun
    · rw [queued]
      exact nofun
  have done := finished found unsettled outcome
  generalize hub.finish id outcome = next at done
  have states := done.states
  obtain ⟨concurrency, nextJob, -, waiters, nextWaiter, batches, nextBatch, running, started, runs,
    -⟩ := done.rest
  have counted := hub.jobs.count_set_of_present { job with state := .settled }
    (fun _ job => job.state = .active) found
  simp only [decide_eq_true_eq, reduceCtorEq, if_false, Nat.add_zero] at counted
  refine ⟨?_, ?_, ?_, ?_, ?_, ?_, ?_, ?_, ?_, ?_, ?_, ?_, ?_, ?_⟩
  · intro other
    rw [states, nextJob]
    split_ifs with same
    · rw [same, ← sound.known id, state]
      exact ⟨fun _ => rfl, fun _ => rfl⟩
    · exact sound.known other
  · intro other
    rw [states, done.queue, List.mem_filter, bne_iff_ne]
    split_ifs with same
    · exact ⟨fun listed => absurd same listed.2, nofun⟩
    · rw [← sound.queued other]
      exact and_iff_left same
  · rw [done.active, done.jobs, sound.active]
    split_ifs at counted ⊢ <;> omega
  · intro positive
    rw [concurrency] at positive ⊢
    have limit := sound.limit positive
    rw [done.active]
    split_ifs <;> omega
  · rw [started, done.queue]
    exact sound.ordered.sublist (List.Sublist.append_left List.filter_sublist _)
  · intro other member
    rw [states]
    split_ifs
    · exact Or.inr rfl
    · exact sound.begun other (started ▸ member)
  · intro other active
    rw [states] at active
    rw [started]
    split_ifs at active
    · cases active
    · exact sound.slots other active
  · intro other
    rw [states, done.settlements, List.countP_append, List.countP_singleton, sound.once other]
    simp only [decide_eq_true_eq]
    by_cases same : other = id
    · rw [if_pos same, if_pos same.symm, if_pos rfl, same, state, if_neg]
      exact fun equal => unsettled (Option.some.inj equal)
    · rw [if_neg same, if_neg (Ne.symm same), Nat.add_zero]
  · rw [batches, nextBatch]
    exact sound.batch
  · intro other
    have placed := sound.placed other
    rw [states, batches, running]
    rcases may with ⟨active, rfl, -⟩ | ⟨queued, rfl⟩
    · rw [List.count_cons] at placed
      by_cases same : other = id
      · subst same
        rw [state, active, if_pos rfl] at placed
        simp only [beq_self_eq_true, if_true] at placed
        rw [if_pos rfl, if_neg nofun]
        omega
      · rw [if_neg same, ← placed]
        simp [Ne.symm same]
    · by_cases same : other = id
      · rw [same, state, queued, if_neg nofun, ← same] at placed
        rw [if_pos same, if_neg nofun]
        exact placed
      · rw [if_neg same]
        exact placed
  · intro other cancelled
    rw [started]
    rw [done.settlements] at cancelled
    rcases List.mem_append.mp cancelled with earlier | last
    · exact sound.unstarted other earlier
    · obtain ⟨rfl, rfl⟩ := Prod.mk.inj (List.mem_singleton.mp last)
      rcases may with ⟨-, -, differs⟩ | ⟨queued, -⟩
      · exact absurd rfl differs
      · intro started
        rcases sound.begun other started with active | settled
        · rw [state, queued] at active
          cases active
        · rw [state, queued] at settled
          cases settled
  · rw [runs, started]
    exact sound.ran
  · rw [waiters, done.jobs]
    exact forall_set (sound.interested _ job found) sound.interested
  · rw [waiters, nextWaiter, nextJob]
    exact sound.waiter

theorem finish_cases (hub : RefreshCoordinator A E) (id : Nat) (outcome : RefreshOutcome A E) :
    hub.finish id outcome = hub ∨ ∃ job, hub.jobs.get id = some job ∧ job.state ≠ .settled ∧
      hub.Finished (hub.finish id outcome) id job outcome := by
  cases found : hub.jobs.get id with
  | none =>
    left
    unfold finish
    rw [found]
  | some job =>
    by_cases settled : job.state = .settled
    · left
      unfold finish
      rw [found]
      simp only
      rw [if_pos settled]
    · exact Or.inr ⟨job, rfl, settled, finished found settled outcome⟩

theorem stateOf_finish_self (active : hub.stateOf id = some .active)
    (outcome : RefreshOutcome A E) : (hub.finish id outcome).stateOf id = some .settled := by
  obtain ⟨job, found, state⟩ := get_of_stateOf active
  have unsettled : job.state ≠ .settled := by
    rw [state]
    intro refuted
    cases refuted
  rw [(finished found unsettled outcome).states, if_pos rfl]

theorem waiters_finish (hub : RefreshCoordinator A E) (id : Nat) (outcome : RefreshOutcome A E) :
    (hub.finish id outcome).waiters = hub.waiters := by
  rcases finish_cases hub id outcome with same | ⟨_, -, -, done⟩
  · rw [same]
  · exact done.rest.2.2.2.1

theorem stateOf_finish_of_ne {id other : Nat} (differs : other ≠ id)
    (outcome : RefreshOutcome A E) : (hub.finish id outcome).stateOf other = hub.stateOf other := by
  rcases finish_cases hub id outcome with same | ⟨job, -, -, done⟩
  · rw [same]
  · rw [done.states, if_neg differs]

theorem Pumped.finish (pumped : hub.Pumped) (id : Nat) (outcome : RefreshOutcome A E) :
    (hub.finish id outcome).Pumped := by
  rcases finish_cases hub id outcome with same | ⟨job, -, -, done⟩
  · rw [same]
    exact pumped
  · intro admits _ _
    rw [done.rest.2.2.1] at admits
    exact done.scheduled admits

theorem queue_finish (id : Nat) (outcome : RefreshOutcome A E) :
    (hub.finish id outcome).admitting = hub.admitting ∧
      (hub.queue = [] → (hub.finish id outcome).queue = []) := by
  rcases finish_cases hub id outcome with same | ⟨job, -, -, done⟩
  · rw [same]
    exact ⟨rfl, fun absent => absent⟩
  · refine ⟨done.rest.2.2.1, fun absent => ?_⟩
    rw [done.queue, absent]
    rfl

theorem Calm.finish (calm : hub.Calm) (id : Nat) (outcome : RefreshOutcome A E) :
    (hub.finish id outcome).Calm := by
  rcases finish_cases hub id outcome with same | ⟨job, -, -, done⟩
  · rw [same]
    exact calm
  · obtain ⟨-, -, -, waiters, -, -, -, -, -, -, drains⟩ := done.rest
    refine ⟨fun woken => ?_, ?_, ?_⟩
    · rcases done.released with same | absent
      · have absent := calm.drained (same ▸ woken)
        rw [done.active, absent]
        split_ifs <;> rfl
      · exact absent
    · unfold DrainsIdle
      rw [drains]
      exact calm.drains
    · intro number waiter found opened
      rw [waiters] at found
      rw [done.states] at opened
      split_ifs at opened
      · exact absurd rfl opened
      · exact calm.unsettled number waiter found opened

/-! ## Waiters -/

theorem Sound.reinterest (sound : hub.Sound hand) {jobs : OrderedMap Nat RefreshJob}
    {waiters : OrderedMap Nat RefreshWaiter} {nextWaiter : Nat}
    (states : ∀ id, (jobs.get id).map (·.state) = hub.stateOf id)
    (active : (jobs.count fun _ job => job.state = .active) =
      hub.jobs.count fun _ job => job.state = .active)
    (interested : ∀ id job, jobs.get id = some job → job.interested =
      waiters.count fun _ waiter => waiter.job = id ∧ waiter.state = .waiting)
    (waiter : ∀ number waiter, waiters.get number = some waiter →
      number < nextWaiter ∧ waiter.job < hub.nextJob) :
    ({ hub with jobs, waiters, nextWaiter } : RefreshCoordinator A E).Sound hand := by
  have same (id : Nat) :
      ({ hub with jobs, waiters, nextWaiter } : RefreshCoordinator A E).stateOf id =
        hub.stateOf id := states id
  refine ⟨?_, ?_, sound.active.trans active.symm, sound.limit, sound.ordered, ?_, ?_, ?_,
    sound.batch, ?_, sound.unstarted, sound.ran, interested, waiter⟩
  · intro id
    rw [same]
    exact sound.known id
  · intro id
    rw [same]
    exact sound.queued id
  · intro id
    rw [same]
    exact sound.begun id
  · intro id
    rw [same]
    exact sound.slots id
  · intro id
    simp only [same]
    exact sound.once id
  · intro id
    simp only [same]
    exact sound.placed id

theorem release_eq {number : Nat} {waiter : RefreshWaiter}
    (found : hub.waiters.get number = some waiter) (waits : waiter.state = .waiting)
    (state : RefreshWaiterState) : hub.release number state =
      { hub with
        waiters := hub.waiters.set number { waiter with state }
        jobs := hub.jobs.modify waiter.job fun job =>
          { job with interested := job.interested - 1 } } := by
  unfold release
  rw [found]
  simp only
  rw [if_pos waits]

theorem release_cases (hub : RefreshCoordinator A E) (number : Nat) (state : RefreshWaiterState) :
    hub.release number state = hub ∨ ∃ waiter, hub.waiters.get number = some waiter ∧
      waiter.state = .waiting := by
  unfold release
  cases found : hub.waiters.get number with
  | none => exact Or.inl rfl
  | some waiter =>
    by_cases waits : waiter.state = .waiting
    · exact Or.inr ⟨waiter, rfl, waits⟩
    · left
      simp only
      rw [if_neg waits]

theorem states_modify (change : RefreshJob → RefreshJob)
    (keeps : ∀ job, (change job).state = job.state) (id other : Nat) :
    ((hub.jobs.modify id change).get other).map (·.state) = hub.stateOf other := by
  unfold stateOf
  rw [get_modify]
  split_ifs with same
  · rw [Option.map_map, same]
    exact congrArg (fun read => (hub.jobs.get id).map read) (funext keeps)
  · rfl

theorem stateOf_release (number : Nat) (state : RefreshWaiterState) (id : Nat) :
    (hub.release number state).stateOf id = hub.stateOf id := by
  rcases release_cases hub number state with same | ⟨waiter, found, waits⟩
  · rw [same]
  · rw [release_eq found waits]
    exact states_modify (fun job => { job with interested := job.interested - 1 })
      (fun _ => rfl) waiter.job id

theorem release_rest (hub : RefreshCoordinator A E) (number : Nat) (state : RefreshWaiterState) :
    ∃ jobs waiters, hub.release number state = { hub with jobs, waiters } := by
  rcases release_cases hub number state with same | ⟨waiter, found, waits⟩
  · exact ⟨hub.jobs, hub.waiters, same⟩
  · exact ⟨_, _, release_eq found waits state⟩

theorem Sound.release (sound : hub.Sound hand) (number : Nat) (state : RefreshWaiterState)
    (isOver : state ≠ .waiting) : (hub.release number state).Sound hand := by
  rcases release_cases hub number state with same | ⟨waiter, found, waits⟩
  · rw [same]
    exact sound
  · rw [release_eq found waits]
    refine sound.reinterest (fun id => states_modify
        (fun job => { job with interested := job.interested - 1 }) (fun _ => rfl) _ id)
      (hub.jobs.count_modify_of_kept waiter.job _ _ fun _ _ => rfl) ?_ ?_
    · intro id job stored
      have counted := hub.waiters.count_set_of_present { waiter with state }
        (fun _ waiter => waiter.job = id ∧ waiter.state = .waiting) found
      simp only [waits, isOver, and_true, and_false, decide_false, Bool.false_eq_true, if_false,
        Nat.add_zero, decide_eq_true_eq] at counted
      rw [get_modify] at stored
      split at stored
      · next same =>
        obtain ⟨before, there, rfl⟩ := Option.map_eq_some_iff.mp stored
        have interested := sound.interested waiter.job before there
        subst same
        rw [if_pos rfl] at counted
        simp only
        omega
      · next differs =>
        rw [if_neg (Ne.symm differs), Nat.add_zero] at counted
        rw [counted]
        exact sound.interested id job stored
    · exact forall_set (sound.waiter _ waiter found) sound.waiter

/-- The coordinator with one more waiter of a job. -/
def awaiting (hub : RefreshCoordinator A E) (id completion : Nat) : RefreshCoordinator A E :=
  { hub with
    jobs := hub.jobs.modify id fun job => { job with interested := job.interested + 1 }
    waiters := hub.waiters.set hub.nextWaiter { job := id, completion }
    nextWaiter := hub.nextWaiter + 1 }

theorem states_awaiting (hub : RefreshCoordinator A E) (id completion other : Nat) :
    (hub.awaiting id completion).stateOf other = hub.stateOf other :=
  states_modify (fun job => { job with interested := job.interested + 1 }) (fun _ => rfl) id other

theorem Sound.waits (sound : hub.Sound hand)
    (found : hub.jobs.get id = some job) (completion : Nat) :
    (hub.awaiting id completion).Sound hand := by
  have absent : hub.waiters.get hub.nextWaiter = none := by
    cases stored : hub.waiters.get hub.nextWaiter with
    | none => rfl
    | some waiter => exact absurd (sound.waiter _ _ stored).1 (Nat.lt_irrefl _)
  refine sound.reinterest (hub.states_awaiting id completion)
    (hub.jobs.count_modify_of_kept id _ _ fun _ _ => rfl) ?_ ?_
  · intro other stored there
    have counted := hub.waiters.count_set_of_absent { job := id, completion }
      (fun _ waiter => waiter.job = other ∧ waiter.state = .waiting) absent
    simp only [and_true, decide_eq_true_eq] at counted
    rw [counted]
    rw [get_modify] at there
    split at there
    · next same =>
      obtain ⟨before, known, rfl⟩ := Option.map_eq_some_iff.mp there
      subst same
      rw [if_pos rfl, sound.interested other before known]
    · next differs =>
      rw [if_neg (Ne.symm differs), Nat.add_zero]
      exact sound.interested other stored there
  · refine forall_set ⟨Nat.lt_succ_self _, (sound.known id).mp ?_⟩ fun number waiter known =>
      ⟨Nat.lt_succ_of_lt (sound.waiter number waiter known).1, (sound.waiter number waiter known).2⟩
    unfold stateOf
    rw [found]
    rfl

/-- What an abort does after the waiter was released: its job is cancelled if it still waits for
its turn and nobody is interested any more. -/
theorem abort_cases (hub : RefreshCoordinator A E) (number : Nat) : hub.abort number = hub ∨
    ∃ waiter, hub.waiters.get number = some waiter ∧ waiter.state = .waiting ∧
      (hub.abort number = hub.release number .aborted ∨
        ∃ job, (hub.release number .aborted).jobs.get waiter.job = some job ∧
          job.interested = 0 ∧ job.state = .queued ∧
          hub.abort number = (hub.release number .aborted).finish waiter.job .cancelled) := by
  unfold abort
  cases found : hub.waiters.get number with
  | none => exact Or.inl rfl
  | some waiter =>
    by_cases waits : waiter.state = .waiting
    · refine Or.inr ⟨waiter, rfl, waits, ?_⟩
      simp only
      rw [if_pos waits]
      cases left : (hub.release number .aborted).jobs.get waiter.job with
      | none => exact Or.inl rfl
      | some job =>
        simp only
        split_ifs with abandoned
        · exact Or.inr ⟨job, rfl, abandoned.1, abandoned.2, rfl⟩
        · exact Or.inl rfl
    · left
      simp only
      rw [if_neg waits]

theorem Sound.abort (sound : hub.Sound hand) (number : Nat) : (hub.abort number).Sound hand := by
  have released := sound.release number .aborted nofun
  rcases abort_cases hub number with same | ⟨waiter, -, -, same | ⟨job, found, -, queued, same⟩⟩
  · rw [same]
    exact sound
  · rw [same]
    exact released
  · rw [same]
    exact released.finish found (Or.inr ⟨queued, rfl⟩)

theorem Pumped.release (pumped : hub.Pumped) (number : Nat) (state : RefreshWaiterState) :
    (hub.release number state).Pumped := by
  obtain ⟨jobs, waiters, equal⟩ := release_rest hub number state
  rw [equal]
  exact pumped

theorem Calm.release (calm : hub.Calm) (number : Nat) (state : RefreshWaiterState)
    (fits : ∀ waiter, hub.waiters.get number = some waiter →
      state = .aborted ∨ hub.stateOf waiter.job = some .settled) :
    (hub.release number state).Calm := by
  obtain ⟨jobs, waiters, equal⟩ := release_rest hub number state
  refine ⟨?_, ?_, ?_⟩
  · rw [equal]
    exact calm.drained
  · rw [equal]
    exact calm.drains
  · intro other waiter there opened
    rw [stateOf_release] at opened
    rcases release_cases hub number state with same | ⟨released, found, waits⟩
    · rw [same] at there
      exact calm.unsettled other waiter there opened
    · rw [release_eq found waits] at there
      rcases get_set_cases there with ⟨rfl, rfl⟩ | ⟨-, known⟩
      · exact (fits released found).elim Or.inr fun settled => absurd settled opened
      · exact calm.unsettled other waiter known opened

theorem Calm.abort (calm : hub.Calm) (number : Nat) : (hub.abort number).Calm := by
  have released := calm.release number .aborted fun _ _ => Or.inl rfl
  rcases abort_cases hub number with same | ⟨waiter, -, -, same | ⟨job, -, -, -, same⟩⟩
  · rw [same]
    exact calm
  · rw [same]
    exact released
  · rw [same]
    exact released.finish waiter.job .cancelled

theorem Pumped.abort (pumped : hub.Pumped) (number : Nat) : (hub.abort number).Pumped := by
  have released := pumped.release number .aborted
  rcases abort_cases hub number with same | ⟨waiter, -, -, same | ⟨job, -, -, -, same⟩⟩
  · rw [same]
    exact pumped
  · rw [same]
    exact released
  · rw [same]
    exact released.finish waiter.job .cancelled

theorem queue_abort (number : Nat) : (hub.abort number).admitting = hub.admitting ∧
    (hub.queue = [] → (hub.abort number).queue = []) := by
  obtain ⟨jobs, waiters, equal⟩ := release_rest hub number .aborted
  rcases abort_cases hub number with same | ⟨waiter, -, -, same | ⟨job, -, -, -, same⟩⟩
  · rw [same]
    exact ⟨rfl, fun absent => absent⟩
  · rw [same, equal]
    exact ⟨rfl, fun absent => absent⟩
  · rw [same, equal]
    exact queue_finish waiter.job .cancelled

theorem Sound.abort_abandoned (sound : hub.Sound hand) (calm : hub.Calm) (number : Nat)
    (cancels : hub.Cancels (hub.abort number) id) (other : Nat) (waiter : RefreshWaiter)
    (there : (hub.abort number).waiters.get other = some waiter) (own : waiter.job = id) :
    waiter.state = .aborted := by
  obtain ⟨queued, settled⟩ := cancels
  have released := sound.release number .aborted nofun
  have quiet := calm.release number .aborted fun _ _ => Or.inl rfl
  rcases abort_cases hub number with same | ⟨left, -, -, same | ⟨job, found, absent, -, same⟩⟩
  · rw [same, queued] at settled
    cases settled
  · rw [same, stateOf_release, queued] at settled
    cases settled
  · by_cases mine : id = left.job
    · rw [same, waiters_finish] at there
      have nobody := released.interested left.job job found
      rw [absent] at nobody
      have isOver := ((OrderedMap.count_eq_zero_iff _ _).mp nobody.symm) other waiter there
      simp only [own, mine, true_and, decide_eq_false_iff_not] at isOver
      refine (quiet.unsettled other waiter there ?_).resolve_left isOver
      rw [stateOf_release, own, queued]
      exact nofun
    · rw [same, stateOf_finish_of_ne mine, stateOf_release, queued] at settled
      cases settled

theorem wait_cases (hub : RefreshCoordinator A E) (id completion : Nat) (aborted : Bool) :
    hub.wait id completion aborted = hub ∨ ∃ job, hub.jobs.get id = some job ∧
      (hub.wait id completion aborted = hub.awaiting id completion ∨
        hub.wait id completion aborted =
          (hub.awaiting id completion).abort hub.nextWaiter) := by
  unfold wait
  cases found : hub.jobs.get id with
  | none => exact Or.inl rfl
  | some job =>
    refine Or.inr ⟨job, rfl, ?_⟩
    cases aborted with
    | true => exact Or.inr rfl
    | false => exact Or.inl rfl

theorem Calm.waits (calm : hub.Calm) (completion : Nat) :
    (hub.awaiting id completion).Calm where
  drained := calm.drained
  drains := calm.drains
  unsettled number waiter there opened := by
    rcases get_set_cases there with ⟨-, rfl⟩ | ⟨-, known⟩
    · exact Or.inl rfl
    · refine calm.unsettled number waiter known fun settled => opened ?_
      exact (hub.states_awaiting id completion waiter.job).trans settled

theorem group_spec {id completion number : Nat} (member : number ∈ hub.group id completion) :
    ∃ waiter, hub.waiters.get number = some waiter ∧ waiter.job = id := by
  obtain ⟨⟨other, waiter⟩, inside, rfl⟩ := List.mem_map.mp member
  obtain ⟨stored, own⟩ := List.mem_filter.mp inside
  rw [Bool.and_eq_true, beq_iff_eq] at own
  exact ⟨waiter, (hub.waiters.get_eq_some_iff other waiter).mpr stored, own.1⟩

/-- A completion settles: what the releases keep. -/
structure Settling (hub next : RefreshCoordinator A E) : Prop where
  sound : hub.Sound [] → next.Sound []
  pumped : hub.Pumped → next.Pumped
  queue : next.queue = hub.queue ∧ next.admitting = hub.admitting
  states : ∀ id, next.stateOf id = hub.stateOf id

theorem settling {state : RefreshWaiterState} (isOver : state ≠ .waiting) (numbers : List Nat) :
    hub.Settling (numbers.foldl (fun hub number => hub.release number state) hub) := by
  induction numbers generalizing hub with
  | nil => exact ⟨fun sound => sound, fun pumped => pumped, ⟨rfl, rfl⟩, fun _ => rfl⟩
  | cons number rest ih =>
    have later : (hub.release number state).Settling _ := ih
    obtain ⟨jobs, waiters, equal⟩ := release_rest hub number state
    refine ⟨fun sound => later.sound (sound.release number state isOver),
      fun pumped => later.pumped (pumped.release number state), ?_, fun id => ?_⟩
    · rw [List.foldl_cons, later.queue.1, later.queue.2, equal]
      exact ⟨rfl, rfl⟩
    · rw [List.foldl_cons, later.states, stateOf_release]

theorem Calm.settling (calm : hub.Calm) (settled : hub.stateOf id = some .settled)
    (state : RefreshWaiterState) {numbers : List Nat}
    (own : ∀ number ∈ numbers, ∃ waiter, hub.waiters.get number = some waiter ∧ waiter.job = id) :
    (numbers.foldl (fun hub number => hub.release number state) hub).Calm := by
  induction numbers generalizing hub with
  | nil => exact calm
  | cons number rest ih =>
    refine ih (calm.release number state fun waiter found => Or.inr ?_) ?_ ?_
    · obtain ⟨mine, there, job⟩ := own number List.mem_cons_self
      obtain rfl : mine = waiter := Option.some.inj (there.symm.trans found)
      rw [job]
      exact settled
    · rw [stateOf_release]
      exact settled
    · intro other member
      obtain ⟨waiter, there, job⟩ := own other (List.mem_cons_of_mem _ member)
      simp only
      rcases release_cases hub number state with same | ⟨released, found, waits⟩
      · rw [same]
        exact ⟨waiter, there, job⟩
      · rw [release_eq found waits]
        by_cases same : other = number
        · subst same
          obtain rfl : waiter = released := Option.some.inj (there.symm.trans found)
          exact ⟨_, OrderedMap.get_set_self _ _ _, job⟩
        · refine ⟨waiter, ?_, job⟩
          rw [← there]
          exact OrderedMap.get_set_of_ne _ _ same

/-! ## The pump -/

/-- The job at the front of the queue becomes active. -/
theorem Sound.activate (sound : hub.Sound hand) {rest : List Nat} (front : hub.queue = id :: rest)
    (room : 0 < hub.concurrency → (hub.active : Int) < hub.concurrency) :
    (hub.activate id).Sound (hand ++ [id]) ∧ (hub.activate id).queue = rest := by
  have ordered := sound.ordered
  rw [front] at ordered
  have listed : id ∈ hub.queue := by
    rw [front]
    exact List.mem_cons_self
  have queued := (sound.queued id).mp listed
  obtain ⟨job, found, state⟩ := get_of_stateOf queued
  have behind := List.pairwise_cons.mp (List.pairwise_append.mp ordered).2.1
  have queue : (hub.activate id).queue = rest := by
    show hub.queue.filter (· != id) = rest
    rw [front, List.filter_cons, if_neg (by simp)]
    refine List.filter_eq_self.mpr fun other member => ?_
    have later := behind.1 other member
    simp only [bne_iff_ne, ne_eq]
    omega
  have stored : (hub.activate id).jobs = hub.jobs.set id { job with state := .active } :=
    hub.jobs.modify_of_present _ found
  have states (other : Nat) : (hub.activate id).stateOf other =
      if other = id then some .active else hub.stateOf other :=
    stateOf_set stored other
  have counted := hub.jobs.count_set_of_present { job with state := .active }
    (fun _ job => job.state = .active) found
  rw [← stored] at counted
  simp only [state, reduceCtorEq, decide_false, Bool.false_eq_true, if_false, Nat.add_zero,
    decide_true, if_true] at counted
  refine ⟨⟨?_, ?_, ?_, ?_, ?_, ?_, ?_, ?_, sound.batch, ?_, ?_, ?_, ?_, sound.waiter⟩, queue⟩
  · intro other
    rw [states]
    split_ifs with same
    · rw [same]
      have below := (sound.known id).mp (by rw [queued]; rfl)
      exact ⟨fun _ => below, fun _ => rfl⟩
    · exact sound.known other
  · intro other
    rw [states, queue]
    split_ifs with same
    · rw [same]
      exact ⟨fun again => absurd (behind.1 id again) (Nat.lt_irrefl _), nofun⟩
    · rw [← sound.queued other, front]
      exact ⟨List.mem_cons_of_mem _, fun member => (List.mem_cons.mp member).resolve_left same⟩
  · show hub.active + 1 = _
    rw [sound.active]
    exact counted.symm
  · intro positive
    have less := room positive
    show ((hub.active + 1 : Nat) : Int) ≤ hub.concurrency
    omega
  · rw [queue]
    show ((hub.started ++ [id]) ++ rest).Pairwise (· < ·)
    rw [List.append_assoc]
    exact ordered
  · intro other member
    rw [states]
    split_ifs with same
    · exact Or.inl rfl
    · refine sound.begun other ((List.mem_append.mp member).resolve_right fun last => same ?_)
      exact List.mem_singleton.mp last
  · intro other active
    rw [states] at active
    refine List.mem_append.mpr ?_
    split_ifs at active with same
    · exact Or.inr (List.mem_singleton.mpr same)
    · exact Or.inl (sound.slots other active)
  · intro other
    have once := sound.once other
    show hub.settlements.countP (·.1 = other) = _
    rw [states, once]
    by_cases same : other = id
    · rw [if_pos same, same, queued]
      rfl
    · rw [if_neg same]
  · intro other
    have placed := sound.placed other
    rw [states, List.count_append]
    show (hub.batches.total fun jobs => jobs.count other) + hub.running.count other + _ = _
    by_cases same : other = id
    · subst same
      rw [queued, if_neg nofun] at placed
      rw [if_pos rfl, if_pos rfl, List.count_singleton_self]
      omega
    · have absent : [id].count other = 0 :=
        List.count_eq_zero.mpr fun member => same (List.mem_singleton.mp member)
      rw [if_neg same, absent]
      exact placed
  · intro other cancelled started
    rcases List.mem_append.mp started with earlier | last
    · exact sound.unstarted other cancelled earlier
    · have once := sound.once other
      rw [List.mem_singleton.mp last, queued, if_neg nofun, ← List.mem_singleton.mp last] at once
      have settled := List.countP_eq_zero.mp once _ cancelled
      simp at settled
  · intro other member
    exact List.mem_append_left _ (sound.ran other member)
  · rw [stored]
    exact forall_set (sound.interested _ job found) sound.interested

/-- What the loop of `pump` leaves: what was in the queue and is ready now is active. -/
structure Admitted (hub next : RefreshCoordinator A E) (before after : List Nat)
    (capacity : Int) : Prop where
  sound : next.Sound after
  /-- The loop ended because the queue was empty or no capacity was left. -/
  isOver : next.queue = [] ∨ capacity ≤ (after.length : Int)
  active : next.active + before.length = hub.active + after.length
  queue : after.length + next.queue.length = before.length + hub.queue.length
  states : ∀ id, next.stateOf id = some .settled ↔ hub.stateOf id = some .settled
  rest : next.concurrency = hub.concurrency ∧ next.admitting = hub.admitting ∧
    next.released = hub.released ∧ next.drains = hub.drains ∧ next.waiters = hub.waiters

/-- The loop of `pump`, while the capacity that is left is the room that is left. -/
theorem Sound.admitJobs (capacity : Int) {queue ready : List Nat} (sound : hub.Sound ready)
    (same : hub.queue = queue)
    (room : 0 < hub.concurrency → hub.active + capacity ≤ hub.concurrency + ready.length) :
    hub.Admitted (admitJobs capacity queue ready hub).2 ready (admitJobs capacity queue ready hub).1
      capacity := by
  induction queue generalizing hub ready with
  | nil =>
    exact ⟨sound, Or.inl same, rfl, rfl, fun _ => Iff.rfl, rfl, rfl, rfl, rfl, rfl⟩
  | cons id rest ih =>
    rw [RefreshCoordinator.admitJobs]
    split_ifs with full
    · exact ⟨sound, Or.inr full, rfl, rfl, fun _ => Iff.rfl, rfl, rfl, rfl, rfl, rfl⟩
    · obtain ⟨kept, left⟩ := sound.activate same fun positive => by
        have more := room positive
        omega
      have later := ih kept left fun positive => by
        have more := room positive
        show ((hub.active + 1 : Nat) : Int) + capacity ≤
          hub.concurrency + ((ready ++ [id]).length : Nat)
        rw [List.length_append, List.length_singleton]
        omega
      obtain ⟨concurrency, admitting, released, drains, waiters⟩ := later.rest
      have queued := (sound.queued id).mp (by
        rw [same]
        exact List.mem_cons_self)
      refine ⟨later.sound, later.isOver, ?_, ?_, fun other => (later.states other).trans ?_,
        concurrency, admitting, released, drains, waiters⟩
      · have active := later.active
        rw [List.length_append, List.length_singleton,
          show (hub.activate id).active = hub.active + 1 from rfl] at active
        omega
      · have length := later.queue
        rw [List.length_append, List.length_singleton, left] at length
        rw [length, same, List.length_cons]
        omega
      · obtain ⟨job, found, -⟩ := get_of_stateOf queued
        have stored : (hub.activate id).jobs = hub.jobs.set id { job with state := .active } :=
          hub.jobs.modify_of_present _ found
        rw [stateOf_set stored]
        split_ifs with own
        · rw [own, queued]
          exact ⟨nofun, nofun⟩
        · exact Iff.rfl

theorem Sound.runBatch (sound : hub.Sound hand) : (hub.runBatch hand).Sound [] := by
  have absent : hub.batches.get hub.nextBatch = none := by
    cases stored : hub.batches.get hub.nextBatch with
    | none => rfl
    | some jobs => exact absurd (sound.batch _ _ stored) (Nat.lt_irrefl _)
  refine { sound with
    batch := forall_set (Nat.lt_succ_self _) fun number jobs known =>
      Nat.lt_succ_of_lt (sound.batch number jobs known)
    placed := fun id => ?_ }
  have placed := sound.placed id
  have total := hub.batches.total_set_of_absent hand (fun jobs => jobs.count id) absent
  show ((hub.batches.set hub.nextBatch hand).total fun jobs => jobs.count id) +
    hub.running.count id + ([] : List Nat).count id =
      if hub.stateOf id = some .active then 1 else 0
  rw [total, List.count_nil, ← placed]
  omega

/-- What the pump keeps. -/
structure Pumps (hub next : RefreshCoordinator A E) : Prop where
  sound : next.Sound []
  pumped : next.queue = [] ∨ ¬ next.Spare
  idle : hub.queue = [] → next.queue = [] ∧ next.active = hub.active
  states : ∀ id, next.stateOf id = some .settled ↔ hub.stateOf id = some .settled
  rest : next.admitting = hub.admitting ∧ next.released = hub.released ∧
    next.drains = hub.drains ∧ next.waiters = hub.waiters

theorem Sound.pump (sound : hub.Sound []) : hub.Pumps hub.pump := by
  unfold RefreshCoordinator.pump
  simp only
  generalize room : (if hub.concurrency = 0 then (hub.queue.length : Int)
    else hub.concurrency - hub.active) = capacity
  have admitted := sound.admitJobs capacity rfl fun positive => by
    rw [if_neg (Int.ne_of_gt positive)] at room
    simp only [List.length_nil]
    omega
  generalize RefreshCoordinator.admitJobs capacity hub.queue [] hub = result at admitted
  obtain ⟨ready, next⟩ := result
  obtain ⟨concurrency, admitting, released, drains, waiters⟩ := admitted.rest
  have active := admitted.active
  have queue := admitted.queue
  simp only [List.length_nil, Nat.zero_add, Nat.add_zero] at active queue
  have spent : next.queue = [] ∨ ¬ next.Spare := by
    rcases admitted.isOver with absent | full
    · exact Or.inl absent
    · simp only at full
      by_cases unlimited : hub.concurrency = 0
      · rw [if_pos unlimited] at room
        exact Or.inl (List.eq_nil_of_length_eq_zero (by omega))
      · rw [if_neg unlimited] at room
        right
        unfold Spare
        rw [concurrency]
        omega
  have quiet : hub.queue = [] → next.queue = [] ∧ next.active = hub.active := by
    intro absent
    rw [absent, List.length_nil] at queue
    exact ⟨List.eq_nil_of_length_eq_zero (by omega), by omega⟩
  split_ifs with nonempty
  · exact ⟨admitted.sound.runBatch, spent, quiet, admitted.states, admitting, released, drains,
      waiters⟩
  · have absent : ready = [] := List.eq_nil_of_length_eq_zero (Nat.eq_zero_of_not_pos nonempty)
    exact ⟨absent ▸ admitted.sound, spent, quiet, admitted.states, admitting, released, drains,
      waiters⟩

/-! ## Batches and runs -/

/-- What handling a job in hand keeps. -/
structure Handles (hub next : RefreshCoordinator A E) (id : Nat) : Prop where
  pumped : hub.Pumped → next.Pumped
  calm : hub.Calm → next.Calm
  queue : next.admitting = hub.admitting ∧ (hub.queue = [] → next.queue = [])
  others : ∀ other, other ≠ id → next.stateOf other = hub.stateOf other

theorem handles_finish (hub : RefreshCoordinator A E) (id : Nat) (outcome : RefreshOutcome A E) :
    hub.Handles (hub.finish id outcome) id :=
  ⟨fun pumped => pumped.finish id outcome, fun calm => calm.finish id outcome,
    queue_finish id outcome, fun _ differs => stateOf_finish_of_ne differs outcome⟩

theorem Sound.active_of_hand (sound : hub.Sound hand) (member : id ∈ hand) :
    ∃ job, hub.jobs.get id = some job ∧ job.state = .active := by
  have placed := sound.placed id
  have counted := List.count_pos_iff.mpr member
  refine get_of_stateOf ?_
  by_contra inactive
  rw [if_neg inactive] at placed
  omega

theorem Sound.finishHand (sound : hub.Sound (id :: hand))
    (differs : outcome ≠ .cancelled) : (hub.finish id outcome).Sound hand := by
  obtain ⟨job, found, active⟩ := sound.active_of_hand List.mem_cons_self
  exact sound.finish found (Or.inl ⟨active, rfl, differs⟩)

theorem Sound.runIfOnline (sound : hub.Sound (id :: hand)) (online : List String) :
    (hub.runIfOnline online id).Sound hand ∧ hub.Handles (hub.runIfOnline online id) id := by
  unfold RefreshCoordinator.runIfOnline
  split_ifs
  · obtain ⟨job, found, active⟩ := sound.active_of_hand List.mem_cons_self
    have started := sound.slots id (by
      unfold stateOf
      rw [found, ← active]
      rfl)
    refine ⟨{ sound with
        placed := fun other => ?_
        ran := forall_mem_concat sound.ran started },
      fun pumped => pumped, fun calm => ⟨calm.drained, calm.drains, calm.unsettled⟩,
      ⟨rfl, fun absent => absent⟩, fun _ _ => rfl⟩
    have placed := sound.placed other
    show (hub.batches.total fun jobs => jobs.count other) + (hub.running ++ [id]).count other +
      hand.count other = if hub.stateOf other = some .active then 1 else 0
    rw [← placed, List.count_append, List.count_singleton, List.count_cons]
    omega
  · exact ⟨sound.finishHand (fun refuted => by cases refuted), handles_finish hub id .offline⟩

theorem Sound.handleAll {handle : RefreshCoordinator A E → Nat → RefreshCoordinator A E}
    (each : ∀ (hub : RefreshCoordinator A E) (id : Nat) (rest : List Nat), hub.Sound (id :: rest) →
      (handle hub id).Sound rest ∧ hub.Handles (handle hub id) id)
    (sound : hub.Sound hand) :
    (hand.foldl handle hub).Sound [] ∧ (hub.Pumped → (hand.foldl handle hub).Pumped) ∧
      (hub.Calm → (hand.foldl handle hub).Calm) ∧
      (hand.foldl handle hub).admitting = hub.admitting ∧
      (hub.queue = [] → (hand.foldl handle hub).queue = []) ∧
      ∀ other, other ∉ hand → (hand.foldl handle hub).stateOf other = hub.stateOf other := by
  induction hand generalizing hub with
  | nil =>
    exact ⟨sound, fun pumped => pumped, fun calm => calm, rfl, fun empty => empty, fun _ _ => rfl⟩
  | cons id rest ih =>
    obtain ⟨next, handled⟩ := each hub id rest sound
    obtain ⟨kept, pumped, calm, admitting, queue, others⟩ := ih next
    refine ⟨kept, fun before => pumped (handled.pumped before), fun before =>
      calm (handled.calm before), admitting.trans handled.queue.1, fun empty =>
      queue (handled.queue.2 empty), fun other absent => ?_⟩
    rw [List.foldl_cons, others other fun member => absent (List.mem_cons_of_mem _ member)]
    exact handled.others other fun same => absent (same ▸ List.mem_cons_self)

theorem Sound.takeBatch (sound : hub.Sound []) {batch : Nat} {jobs : List Nat}
    (found : hub.batches.get batch = some jobs) :
    ({ hub with batches := hub.batches.erase batch } : RefreshCoordinator A E).Sound jobs := by
  refine { sound with batch := fun number stored there => ?_, placed := fun id => ?_ }
  · rw [get_erase] at there
    split at there
    · cases there
    · exact sound.batch number stored there
  · have placed := sound.placed id
    have total := hub.batches.total_erase_of_present (fun jobs => jobs.count id) found
    show ((hub.batches.erase batch).total fun jobs => jobs.count id) + hub.running.count id +
      jobs.count id = if hub.stateOf id = some .active then 1 else 0
    rw [List.count_nil] at placed
    omega

/-- What a step keeps that settles no job waiting for its turn. -/
structure Passes (hub next : RefreshCoordinator A E) : Prop where
  steady : next.Steady
  calm : hub.Calm → next.Calm
  absent : ∀ id, ¬ hub.Cancels next id

theorem Steady.presence (steady : hub.Steady) (batch : Nat) (online : Except E (List String)) :
    hub.Passes (hub.presence batch online) := by
  unfold RefreshCoordinator.presence
  cases found : hub.batches.get batch with
  | none =>
    refine ⟨steady, fun calm => calm, fun id ⟨queued, settled⟩ => ?_⟩
    rw [queued] at settled
    cases settled
  | some jobs =>
    have taken := steady.sound.takeBatch found
    generalize after : ({ hub with batches := hub.batches.erase batch } :
      RefreshCoordinator A E) = known at taken
    have before : known.Pumped ∧ (hub.Calm → known.Calm) ∧ known.admitting = hub.admitting ∧
        known.queue = hub.queue ∧ ∀ id, known.stateOf id = hub.stateOf id := by
      subst after
      exact ⟨steady.pumped, fun calm => ⟨calm.drained, calm.drains, calm.unsettled⟩, rfl, rfl,
        fun _ => rfl⟩
    obtain ⟨knownPumped, knownCalm, knownAdmits, knownQueue, knownStates⟩ := before
    have all {handle : RefreshCoordinator A E → Nat → RefreshCoordinator A E}
        (each : ∀ (hub : RefreshCoordinator A E) (id : Nat) (rest : List Nat),
          hub.Sound (id :: rest) → (handle hub id).Sound rest ∧ hub.Handles (handle hub id) id) :
        hub.Passes (jobs.foldl handle known) := by
      obtain ⟨sound, pumped, calm, admitting, queue, others⟩ := Sound.handleAll each taken
      refine ⟨⟨sound, fun shut => ?_, pumped knownPumped⟩,
        fun before => calm (knownCalm before), ?_⟩
      · rw [admitting, knownAdmits] at shut
        exact queue (knownQueue.trans (steady.shut shut))
      · rintro id ⟨queued, settled⟩
        by_cases member : id ∈ jobs
        · obtain ⟨job, there, active⟩ := taken.active_of_hand member
          rw [← knownStates] at queued
          unfold stateOf at queued
          rw [there, Option.map_some, active] at queued
          cases queued
        · rw [others id member, knownStates, queued] at settled
          cases settled
    cases online with
    | error error =>
      exact all fun hub id rest sound =>
        ⟨sound.finishHand nofun, handles_finish hub id (.presenceError error)⟩
    | ok online => exact all fun hub id rest sound => sound.runIfOnline online

theorem Steady.ran (steady : hub.Steady) (id : Nat) (result : Except E A) :
    hub.Passes (hub.ran id result) := by
  unfold RefreshCoordinator.ran
  split_ifs with member
  · have taken : ({ hub with running := hub.running.erase id } : RefreshCoordinator A E).Sound
        [id] := by
      refine { steady.sound with placed := fun other => ?_ }
      have placed := steady.sound.placed other
      have parted := (List.perm_cons_erase member).count_eq other
      rw [List.count_cons] at parted
      show (hub.batches.total fun jobs => jobs.count other) + (hub.running.erase id).count other +
        [id].count other = if hub.stateOf other = some .active then 1 else 0
      rw [List.count_nil] at placed
      rw [List.count_singleton]
      omega
    generalize after : ({ hub with running := hub.running.erase id } :
      RefreshCoordinator A E) = isOver at taken
    have finish (outcome : RefreshOutcome A E) (differs : outcome ≠ .cancelled) :
        hub.Passes (isOver.finish id outcome) := by
      have handled := handles_finish isOver id outcome
      obtain ⟨job, there, active⟩ := taken.active_of_hand List.mem_cons_self
      have sound := taken.finishHand differs
      subst after
      refine ⟨⟨sound, fun shut => ?_, handled.pumped steady.pumped⟩, fun calm =>
        handled.calm ⟨calm.drained, calm.drains, calm.unsettled⟩, ?_⟩
      · rw [handled.queue.1] at shut
        exact handled.queue.2 (steady.shut shut)
      · rintro other ⟨queued, settled⟩
        by_cases same : other = id
        · unfold stateOf at queued
          rw [same, there, Option.map_some, active] at queued
          cases queued
        · rw [handled.others other same] at settled
          exact nomatch queued.symm.trans settled
    cases result with
    | ok agent => exact finish (.success agent) nofun
    | error error => exact finish (.refreshError error) nofun
  · refine ⟨steady, fun calm => calm, fun other ⟨queued, settled⟩ => ?_⟩
    exact nomatch queued.symm.trans settled

end RefreshCoordinator

end PlugHub.Profiles
