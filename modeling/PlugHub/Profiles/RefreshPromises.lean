import PlugHub.Profiles.RefreshJobs

/-!
# The promises of the refresh coordinator

What every step of the coordinator keeps, and what follows for every run. Two of the promises need
steps that come in time: completions settle after their jobs, and no pump comes between the wake-up
and the return of a drain call.
-/

namespace PlugHub.Profiles

open Library

namespace RefreshCoordinator

variable {A E : Type} {hub : RefreshCoordinator A E} {hand : List Nat}

/-! ## Every step -/

/-- A new job joins the queue. -/
def join (hub : RefreshCoordinator A E) (agentId : String) : RefreshCoordinator A E :=
  { hub with
    jobs := hub.jobs.set hub.nextJob { agentId }
    nextJob := hub.nextJob + 1
    queue := hub.queue ++ [hub.nextJob] }

theorem stateOf_join (hub : RefreshCoordinator A E) (agentId : String) (id : Nat) :
    (hub.join agentId).stateOf id =
      if id = hub.nextJob then some .queued else hub.stateOf id := by
  have stored : (hub.join agentId).jobs = hub.jobs.set hub.nextJob { agentId } := rfl
  exact stateOf_set stored id

theorem Sound.older (sound : hub.Sound hand) {id : Nat} {state : RefreshJobState}
    (known : hub.stateOf id = some state) : id < hub.nextJob := by
  refine (sound.known id).mp ?_
  rw [known]
  rfl

theorem Sound.absent (sound : hub.Sound hand) : hub.stateOf hub.nextJob = none := by
  cases stored : hub.stateOf hub.nextJob with
  | none => rfl
  | some state => exact absurd (sound.older stored) (Nat.lt_irrefl _)

theorem Sound.join (sound : hub.Sound []) (agentId : String) : (hub.join agentId).Sound [] :=
  { sound with
    known id := by
      rw [stateOf_join]
      show _ ↔ id < hub.nextJob + 1
      split_ifs with same
      · rw [same]
        exact ⟨fun _ => Nat.lt_succ_self _, fun _ => rfl⟩
      · rw [sound.known id]
        omega
    queued id := by
      rw [stateOf_join]
      show id ∈ hub.queue ++ [hub.nextJob] ↔ _
      rw [List.mem_append, List.mem_singleton, sound.queued id]
      split_ifs with same
      · exact ⟨fun _ => rfl, fun _ => Or.inr same⟩
      · exact or_iff_left same
    active := by
      have counted := hub.jobs.count_set_of_absent { agentId } (fun _ job => job.state = .active)
        (Option.map_eq_none_iff.mp sound.absent)
      simp only [reduceCtorEq, decide_false, Bool.false_eq_true, if_false, Nat.add_zero] at counted
      exact sound.active.trans counted.symm
    ordered := by
      show (hub.started ++ (hub.queue ++ [hub.nextJob])).Pairwise (· < ·)
      rw [← List.append_assoc]
      refine List.pairwise_append.mpr
        ⟨sound.ordered, List.pairwise_singleton _ _, fun id known last new => ?_⟩
      rw [List.mem_singleton.mp new]
      rcases List.mem_append.mp known with begun | waits
      · exact (sound.begun id begun).elim sound.older sound.older
      · exact sound.older ((sound.queued id).mp waits)
    begun id member := by
      have begun := sound.begun id member
      rw [stateOf_join, if_neg (Nat.ne_of_lt (begun.elim sound.older sound.older))]
      exact begun
    slots id active := by
      rw [stateOf_join] at active
      split_ifs at active
      · cases active
      · exact sound.slots id active
    once id := by
      rw [stateOf_join]
      refine (sound.once id).trans ?_
      by_cases same : id = hub.nextJob
      · rw [if_pos same, same, sound.absent]
        rfl
      · rw [if_neg same]
    placed id := by
      rw [stateOf_join]
      refine (sound.placed id).trans ?_
      by_cases same : id = hub.nextJob
      · rw [if_pos same, same, sound.absent]
        rfl
      · rw [if_neg same]
    interested := by
      refine OrderedMap.forall_set ((OrderedMap.count_eq_zero_iff _ _).mpr
        fun number waiter stored => ?_).symm sound.interested
      have below := (sound.waiter number waiter stored).2
      simp only [decide_eq_false_iff_not, not_and]
      omega
    waiter number waiter there := by
      obtain ⟨earlier, job⟩ := sound.waiter number waiter there
      exact ⟨earlier, Nat.lt_succ_of_lt job⟩ }

theorem Calm.join (calm : hub.Calm) (sound : hub.Sound []) (agentId : String) :
    (hub.join agentId).Calm where
  drained := calm.drained
  drains := calm.drains
  unsettled number waiter there unfinished := by
    have below := (sound.waiter number waiter there).2
    rw [stateOf_join, if_neg (Nat.ne_of_lt below)] at unfinished
    exact calm.unsettled number waiter there unfinished

/-- A job that is refused never joins the queue; it is finished as if it had. -/
theorem submit_eq (hub : RefreshCoordinator A E) (agentId : String) : hub.submit agentId =
    if hub.admitting = true then (hub.join agentId).schedule
    else (hub.join agentId).finish hub.nextJob .cancelled := by
  have filtered : (hub.queue ++ [hub.nextJob]).filter (· != hub.nextJob) =
      hub.queue.filter (· != hub.nextJob) := by simp
  unfold RefreshCoordinator.submit
  simp only
  split_ifs
  · rfl
  · unfold finish RefreshCoordinator.join
    simp only [OrderedMap.get_set_self, reduceCtorEq, if_false, filtered]

theorem Steady.submit (steady : hub.Steady) (agentId : String) :
    hub.Passes (hub.submit agentId) := by
  have sound := steady.sound.join agentId
  have calm (before : hub.Calm) : (hub.join agentId).Calm := before.join steady.sound agentId
  have uncancelled (next : RefreshCoordinator A E)
      (same : ∀ id, id ≠ hub.nextJob → next.stateOf id = (hub.join agentId).stateOf id) (id : Nat) :
      ¬ hub.Cancels next id := by
    rintro ⟨queued, settled⟩
    have differs := Nat.ne_of_lt (steady.sound.older queued)
    rw [same id differs, stateOf_join, if_neg differs, queued] at settled
    cases settled
  rw [submit_eq]
  split_ifs with admits
  · obtain ⟨scheduled, same, wanted⟩ := schedule_eq (hub.join agentId)
    rw [same]
    refine ⟨⟨{ sound with }, fun shut => ?_, fun _ _ _ => wanted admits⟩, fun before =>
      ⟨(calm before).drained, (calm before).drains, (calm before).unsettled⟩,
      uncancelled _ fun _ _ => rfl⟩
    exact absurd (admits.symm.trans shut) (by decide)
  · have queued : (hub.join agentId).stateOf hub.nextJob = some .queued := by
      rw [stateOf_join, if_pos rfl]
    obtain ⟨job, found, state⟩ := get_of_stateOf queued
    have unfinished : job.state ≠ .settled := by
      rw [state]
      intro refuted
      cases refuted
    have done := finished found unfinished (.cancelled : RefreshOutcome A E)
    refine ⟨⟨sound.finish found (Or.inr ⟨state, rfl⟩), fun _ => ?_, fun admitting => ?_⟩,
      fun before => (calm before).finish hub.nextJob .cancelled,
      uncancelled _ fun id differs => stateOf_finish_of_ne differs _⟩
    · rw [done.queue]
      show (hub.queue ++ [hub.nextJob]).filter (· != hub.nextJob) = []
      rw [steady.shut (Bool.eq_false_of_not_eq_true admits)]
      simp
    · rw [done.rest.2.2.1] at admitting
      exact absurd admitting admits

theorem Steady.runPump (steady : hub.Steady) : hub.runPump.Steady ∧
    (hub.Calm → (hub.released ≠ [] → hub.queue = []) → hub.runPump.Calm) ∧
    ∀ id, ¬ hub.Cancels hub.runPump id := by
  unfold RefreshCoordinator.runPump
  split_ifs
  · have sound : ({ hub with scheduled := false } : RefreshCoordinator A E).Sound [] :=
      { steady.sound with }
    have pumps := sound.pump
    generalize ({ hub with scheduled := false } : RefreshCoordinator A E).pump = next at pumps
    obtain ⟨admitting, released, drains, waiters⟩ := pumps.rest
    refine ⟨⟨pumps.sound, fun shut => ?_, fun _ nonempty spare => ?_⟩, fun calm timely => ⟨?_, ?_, ?_⟩,
      fun id cancels => ?_⟩
    · exact (pumps.idle (steady.shut (admitting ▸ shut))).1
    · exact (pumps.pumped.elim nonempty fun full => full spare).elim
    · intro woken
      rw [released] at woken
      rw [(pumps.idle (timely woken)).2]
      exact calm.drained woken
    · unfold DrainsIdle
      rw [drains]
      exact calm.drains
    · intro number waiter there opened
      rw [waiters] at there
      exact calm.unsettled number waiter there fun settled => opened ((pumps.states _).mpr settled)
    · obtain ⟨queued, settled⟩ := cancels
      exact nomatch queued.symm.trans ((pumps.states id).mp settled)
  · exact ⟨steady, fun calm _ => calm, fun id ⟨queued, settled⟩ =>
      nomatch queued.symm.trans settled⟩

theorem Sound.cancelQueue {queue : List Nat} (sound : hub.Sound []) (same : hub.queue = queue) :
    (queue.foldl (fun hub id => hub.finish id .cancelled) hub).Sound [] ∧
      (queue.foldl (fun hub id => hub.finish id .cancelled) hub).queue = [] ∧
      (queue.foldl (fun hub id => hub.finish id .cancelled) hub).admitting = hub.admitting ∧
      (hub.Calm → (queue.foldl (fun hub id => hub.finish id .cancelled) hub).Calm) := by
  induction queue generalizing hub with
  | nil => exact ⟨sound, same, rfl, fun calm => calm⟩
  | cons id rest ih =>
    have queued := (sound.queued id).mp (by
      rw [same]
      exact List.mem_cons_self)
    obtain ⟨job, found, state⟩ := get_of_stateOf queued
    have done := finished found (state ▸ nofun) (.cancelled : RefreshOutcome A E)
    have ordered := sound.ordered
    rw [same] at ordered
    have behind := (List.pairwise_cons.mp (List.pairwise_append.mp ordered).2.1).1
    have left : (hub.finish id .cancelled).queue = rest := by
      rw [done.queue, same, List.filter_cons, if_neg (by simp)]
      refine List.filter_eq_self.mpr fun other member => ?_
      have later := behind other member
      simp only [bne_iff_ne, ne_eq]
      omega
    obtain ⟨kept, absent, admitting, calm⟩ := ih (sound.finish found (Or.inr ⟨state, rfl⟩)) left
    exact ⟨kept, absent, admitting.trans done.rest.2.2.1,
      fun before => calm (before.finish id .cancelled)⟩

theorem Steady.beginShutdown (steady : hub.Steady) :
    hub.beginShutdown.Steady ∧ (hub.Calm → hub.beginShutdown.Calm) := by
  unfold RefreshCoordinator.beginShutdown
  have closed : ({ hub with admitting := false } : RefreshCoordinator A E).Sound [] :=
    { steady.sound with }
  obtain ⟨sound, absent, admitting, calm⟩ := closed.cancelQueue rfl
  refine ⟨⟨sound, fun _ => absent, fun opened => ?_⟩, fun before =>
    calm ⟨before.drained, before.drains, before.unsettled⟩⟩
  rw [admitting] at opened
  cases opened

theorem Steady.abort (steady : hub.Steady) (number : Nat) : (hub.abort number).Steady :=
  ⟨steady.sound.abort number, fun shut =>
    (queue_abort number).2 (steady.shut ((queue_abort number).1 ▸ shut)),
    steady.pumped.abort number⟩

theorem Steady.waits (steady : hub.Steady) {id : Nat} {job : RefreshJob}
    (found : hub.jobs.get id = some job) (completion : Nat) :
    (hub.awaiting id completion).Steady :=
  ⟨steady.sound.waits found completion, steady.shut, steady.pumped⟩

/-- Every action keeps the coordinator steady. -/
theorem Steady.step (steady : hub.Steady) (action : RefreshAction A E) :
    (hub.step action).Steady := by
  cases action with
  | submit agentId => exact (steady.submit agentId).steady
  | wait id completion aborted =>
    simp only [RefreshCoordinator.step]
    rcases wait_cases hub id completion aborted with same | ⟨job, found, same | same⟩
    · rw [same]
      exact steady
    · rw [same]
      exact steady.waits found completion
    · rw [same]
      exact (steady.waits found completion).abort hub.nextWaiter
  | abort number => exact steady.abort number
  | completed id completion fulfilled =>
    have isOver : (if fulfilled then .resolved else .rejected : RefreshWaiterState) ≠ .waiting := by
      cases fulfilled <;> exact nofun
    have settled : hub.Settling (hub.completed id completion fulfilled) := settling isOver _
    refine ⟨settled.sound steady.sound, fun shut => ?_, settled.pumped steady.pumped⟩
    exact settled.queue.1.trans (steady.shut (settled.queue.2 ▸ shut))
  | pump => exact steady.runPump.1
  | presence batch online => exact (steady.presence batch online).steady
  | ran id result => exact (steady.ran id result).steady
  | beginShutdown => exact steady.beginShutdown.1
  | drain id =>
    simp only [RefreshCoordinator.step, RefreshCoordinator.drain]
    split_ifs <;> exact ⟨{ steady.sound with }, steady.shut, steady.pumped⟩
  | drainResumes id =>
    simp only [RefreshCoordinator.step, RefreshCoordinator.drainResumes]
    split_ifs
    · exact ⟨{ steady.sound with }, steady.shut, steady.pumped⟩
    · exact steady

/-- A timely action keeps the drains calm. -/
theorem Calm.step (calm : hub.Calm) (steady : hub.Steady) {action : RefreshAction A E}
    (timely : hub.Timely action) : (hub.step action).Calm := by
  cases action with
  | submit agentId => exact (steady.submit agentId).calm calm
  | wait id completion aborted =>
    simp only [RefreshCoordinator.step]
    rcases wait_cases hub id completion aborted with same | ⟨job, found, same | same⟩
    · rw [same]
      exact calm
    · rw [same]
      exact calm.waits completion
    · rw [same]
      exact (calm.waits completion).abort hub.nextWaiter
  | abort number => exact calm.abort number
  | completed id completion fulfilled =>
    exact calm.settling timely _ fun number member => group_spec member
  | pump => exact steady.runPump.2.1 calm timely
  | presence batch online => exact (steady.presence batch online).calm calm
  | ran id result => exact (steady.ran id result).calm calm
  | beginShutdown => exact steady.beginShutdown.2 calm
  | drain id =>
    simp only [RefreshCoordinator.step, RefreshCoordinator.drain]
    split_ifs with absent
    · exact ⟨calm.drained, forall_mem_concat calm.drains absent, calm.unsettled⟩
    · exact ⟨calm.drained, calm.drains, calm.unsettled⟩
  | drainResumes id =>
    simp only [RefreshCoordinator.step, RefreshCoordinator.drainResumes]
    split_ifs with woken
    · have absent := calm.drained (List.ne_nil_of_mem woken)
      exact ⟨fun _ => absent, forall_mem_concat calm.drains absent, calm.unsettled⟩
    · exact calm

/-- A job that waits for its turn is cancelled only when all its waiters have aborted or on
shutdown. -/
theorem Steady.cancelsAbandoned (steady : hub.Steady) (calm : hub.Calm)
    (action : RefreshAction A E) : hub.CancelsAbandoned action := by
  intro id cancels
  have impossible (kept : (hub.step action).stateOf id = hub.stateOf id) : False :=
    nomatch cancels.1.symm.trans (kept.symm.trans cancels.2)
  cases action with
  | submit agentId => exact absurd cancels ((steady.submit agentId).absent id)
  | wait job completion aborted =>
    right
    simp only [RefreshCoordinator.step] at cancels ⊢
    rcases wait_cases hub job completion aborted with same | ⟨found, there, same | same⟩
    · exact (impossible (congrArg (·.stateOf id) same)).elim
    · refine (impossible ((congrArg (·.stateOf id) same).trans ?_)).elim
      exact hub.states_awaiting job completion id
    · rw [same] at cancels ⊢
      have sound := steady.sound.waits there completion
      refine sound.abort_abandoned (calm.waits completion) hub.nextWaiter ⟨?_, cancels.2⟩
      exact (hub.states_awaiting job completion id).trans cancels.1
  | abort number => exact Or.inr (steady.sound.abort_abandoned calm number cancels)
  | completed job completion fulfilled =>
    have isOver : (if fulfilled then .resolved else .rejected : RefreshWaiterState) ≠ .waiting := by
      cases fulfilled <;> (intro refuted; cases refuted)
    have settled : hub.Settling (hub.completed job completion fulfilled) := settling isOver _
    exact (impossible (settled.states id)).elim
  | pump => exact absurd cancels (steady.runPump.2.2 id)
  | presence batch online => exact absurd cancels ((steady.presence batch online).absent id)
  | ran job result => exact absurd cancels ((steady.ran job result).absent id)
  | beginShutdown => exact Or.inl rfl
  | drain number =>
    refine (impossible ?_).elim
    simp only [RefreshCoordinator.step, RefreshCoordinator.drain]
    split_ifs <;> rfl
  | drainResumes number =>
    refine (impossible ?_).elim
    simp only [RefreshCoordinator.step, RefreshCoordinator.drainResumes]
    split_ifs <;> rfl

/-! ## After the shutdown began -/

/-- A part of a step in which no job becomes active, and which changes neither whether jobs are
admitted nor how many were submitted. -/
structure Still (hub next : RefreshCoordinator A E) : Prop where
  started : next.started = hub.started
  admitting : next.admitting = hub.admitting
  nextJob : next.nextJob = hub.nextJob

theorem Still.trans {middle next : RefreshCoordinator A E} (first : hub.Still middle)
    (second : middle.Still next) : hub.Still next :=
  ⟨second.started.trans first.started, second.admitting.trans first.admitting,
    second.nextJob.trans first.nextJob⟩

section

variable (hub : RefreshCoordinator A E)

theorem still_finish (id : Nat) (outcome : RefreshOutcome A E) :
    hub.Still (hub.finish id outcome) := by
  rcases finish_cases hub id outcome with same | ⟨job, -, -, done⟩
  · rw [same]
    exact ⟨rfl, rfl, rfl⟩
  · obtain ⟨-, nextJob, admitting, -, -, -, -, -, started, -⟩ := done.rest
    exact ⟨started, admitting, nextJob⟩

theorem still_release (number : Nat) (state : RefreshWaiterState) :
    hub.Still (hub.release number state) := by
  obtain ⟨jobs, waiters, equal⟩ := release_rest hub number state
  rw [equal]
  exact ⟨rfl, rfl, rfl⟩

theorem still_abort (number : Nat) :
    hub.Still (hub.abort number) := by
  have released := still_release hub number .aborted
  rcases abort_cases hub number with same | ⟨waiter, -, -, same | ⟨job, -, -, -, same⟩⟩
  · rw [same]
    exact ⟨rfl, rfl, rfl⟩
  · rw [same]
    exact released
  · rw [same]
    exact released.trans (still_finish (hub.release number .aborted) waiter.job .cancelled)

theorem still_runIfOnline (online : List String) (id : Nat) :
    hub.Still (hub.runIfOnline online id) := by
  unfold RefreshCoordinator.runIfOnline
  split_ifs
  · exact ⟨rfl, rfl, rfl⟩
  · exact still_finish hub id .offline

end

theorem still_foldl {handle : RefreshCoordinator A E → Nat → RefreshCoordinator A E}
    (each : ∀ hub id, Still hub (handle hub id)) (ids : List Nat) (hub : RefreshCoordinator A E) :
    hub.Still (ids.foldl handle hub) := by
  induction ids generalizing hub with
  | nil => exact ⟨rfl, rfl, rfl⟩
  | cons id rest ih => exact (each hub id).trans (ih (handle hub id))

/-- Only a submission, a pump and the shutdown may change the jobs that became active. -/
theorem still_step (hub : RefreshCoordinator A E) {action : RefreshAction A E}
    (submits : action.isSubmit = false) (pumps : action ≠ .pump)
    (shuts : action ≠ .beginShutdown) : hub.Still (hub.step action) := by
  cases action with
  | submit agentId => cases submits
  | pump => exact absurd rfl pumps
  | beginShutdown => exact absurd rfl shuts
  | wait id completion aborted =>
    simp only [RefreshCoordinator.step]
    rcases wait_cases hub id completion aborted with same | ⟨job, found, same | same⟩
    · rw [same]
      exact ⟨rfl, rfl, rfl⟩
    · rw [same]
      exact ⟨rfl, rfl, rfl⟩
    · rw [same]
      obtain ⟨started, admitting, nextJob⟩ := still_abort _ hub.nextWaiter
      exact ⟨started, admitting, nextJob⟩
  | abort number => exact still_abort hub number
  | completed id completion fulfilled => exact still_foldl (fun hub number =>
      still_release hub number (if fulfilled then .resolved else .rejected)) _ hub
  | presence batch online =>
    simp only [RefreshCoordinator.step, RefreshCoordinator.presence]
    split
    · exact ⟨rfl, rfl, rfl⟩
    · next jobs found =>
      have taken : hub.Still { hub with batches := hub.batches.erase batch } := ⟨rfl, rfl, rfl⟩
      cases online with
      | error error => exact taken.trans (still_foldl (fun hub id => still_finish hub id _) _ _)
      | ok online =>
        exact taken.trans (still_foldl (fun hub id => still_runIfOnline hub online id) _ _)
  | ran id result =>
    simp only [RefreshCoordinator.step, RefreshCoordinator.ran]
    have left : hub.Still { hub with running := hub.running.erase id } := ⟨rfl, rfl, rfl⟩
    split_ifs
    · cases result with
      | ok agent => exact left.trans (still_finish _ _ _)
      | error error => exact left.trans (still_finish _ _ _)
    · exact ⟨rfl, rfl, rfl⟩
  | drain id =>
    simp only [RefreshCoordinator.step, RefreshCoordinator.drain]
    split_ifs <;> exact ⟨rfl, rfl, rfl⟩
  | drainResumes id =>
    simp only [RefreshCoordinator.step, RefreshCoordinator.drainResumes]
    split_ifs <;> exact ⟨rfl, rfl, rfl⟩

theorem still_beginShutdown (hub : RefreshCoordinator A E) :
    ({ hub with admitting := false } : RefreshCoordinator A E).Still hub.beginShutdown :=
  still_foldl (fun hub id => still_finish hub id .cancelled) hub.queue
    { hub with admitting := false }

/-- Once no jobs are admitted, no step makes one active or admits jobs again. -/
theorem Steady.still (steady : hub.Steady) (shut : hub.admitting = false)
    (action : RefreshAction A E) :
    (hub.step action).started = hub.started ∧ (hub.step action).admitting = false := by
  have empty := steady.shut shut
  by_cases submits : action.isSubmit = true
  · cases action <;> cases submits
    rename_i agentId
    have finished := still_finish (hub.join agentId) hub.nextJob .cancelled
    rw [RefreshCoordinator.step, submit_eq, if_neg (Bool.eq_false_iff.mp shut)]
    exact ⟨finished.started, finished.admitting.trans shut⟩
  by_cases pumps : action = .pump
  · rw [pumps]
    simp only [RefreshCoordinator.step, RefreshCoordinator.runPump]
    split_ifs
    · simp only [RefreshCoordinator.pump, empty, RefreshCoordinator.admitJobs]
      exact ⟨rfl, shut⟩
    · exact ⟨rfl, shut⟩
  by_cases shuts : action = .beginShutdown
  · rw [shuts]
    exact ⟨(still_beginShutdown hub).started, (still_beginShutdown hub).admitting⟩
  have kept := still_step hub (Bool.eq_false_of_not_eq_true submits) pumps shuts
  exact ⟨kept.started, kept.admitting.trans shut⟩

theorem admitJobs_nextJob (capacity : Int) (queue ready : List Nat) (hub : RefreshCoordinator A E) :
    (admitJobs capacity queue ready hub).2.nextJob = hub.nextJob := by
  induction queue generalizing ready hub with
  | nil => rfl
  | cons id rest ih =>
    rw [admitJobs]
    split_ifs
    · rfl
    · exact ih _ _

/-- The jobs are numbered as they are submitted. -/
theorem nextJob_step (hub : RefreshCoordinator A E) (action : RefreshAction A E) :
    (hub.step action).nextJob = hub.nextJob + [action].countP (·.isSubmit) := by
  by_cases submits : action.isSubmit = true
  · cases action <;> cases submits
    rename_i agentId
    rw [RefreshCoordinator.step, submit_eq]
    split_ifs
    · obtain ⟨scheduled, same, -⟩ := schedule_eq (hub.join agentId)
      rw [same]
      rfl
    · exact (still_finish (hub.join agentId) hub.nextJob .cancelled).nextJob
  rw [List.countP_singleton, if_neg submits, Nat.add_zero]
  by_cases pumps : action = .pump
  · rw [pumps]
    simp only [RefreshCoordinator.step, RefreshCoordinator.runPump, RefreshCoordinator.pump]
    generalize (if hub.concurrency = 0 then (hub.queue.length : Int)
      else hub.concurrency - hub.active) = capacity
    split_ifs
    · exact admitJobs_nextJob capacity _ _ _
    · exact admitJobs_nextJob capacity _ _ _
    · rfl
  by_cases shuts : action = .beginShutdown
  · rw [shuts]
    exact (still_beginShutdown hub).nextJob
  exact (still_step hub (Bool.eq_false_of_not_eq_true submits) pumps shuts).nextJob

/-! ## Every run -/

theorem Steady.settles (steady : hub.Steady) (nonnegative : 0 ≤ hub.concurrency)
    (lookups : hub.batches.size = 0) (runs : hub.running = []) (unscheduled : hub.scheduled = false)
    {id : Nat} (submitted : id < hub.nextJob) : hub.stateOf id = some .settled := by
  have idle (other : Nat) : hub.stateOf other ≠ some .active := by
    intro active
    have placed := steady.sound.placed other
    have absent : (hub.batches.total fun jobs => jobs.count other) = 0 := by
      unfold OrderedMap.total
      rw [List.eq_nil_of_length_eq_zero lookups]
      rfl
    rw [absent, runs, if_pos active] at placed
    cases placed
  have inactive : hub.active = 0 := by
    rw [steady.sound.active, OrderedMap.count_eq_zero_iff]
    intro other job found
    have state := idle other
    unfold stateOf at state
    rw [found] at state
    simpa using state
  have empty : hub.queue = [] := by
    by_contra nonempty
    cases admitting : hub.admitting with
    | false => exact nonempty (steady.shut admitting)
    | true =>
      have wanted := steady.pumped admitting nonempty (by
        unfold Spare
        omega)
      rw [unscheduled] at wanted
      cases wanted
  obtain ⟨state, known⟩ := Option.isSome_iff_exists.mp ((steady.sound.known id).mpr submitted)
  cases state with
  | settled => exact known
  | active => exact absurd known (idle id)
  | queued =>
    have listed := (steady.sound.queued id).mpr known
    rw [empty] at listed
    cases listed

theorem Steady.orderly (steady : hub.Steady) : hub.Orderly :=
  { steady.sound with
    inOrder := steady.sound.ordered
    settles nonnegative lookups runs unscheduled id submitted := by
      rw [steady.sound.once, if_pos (steady.settles nonnegative lookups runs unscheduled submitted)]
    pumped := steady.pumped
    neverRun id cancelled :=
      ⟨steady.sound.unstarted id cancelled, fun member =>
        steady.sound.unstarted id cancelled (steady.sound.ran id member)⟩
    waits id completion present := by
      have found : ¬(hub.jobs.get id).isNone = true := by
        rw [Option.isNone_iff_eq_none, ← Option.not_isSome_iff_eq_none, present]
        exact not_not_intro rfl
      simp only [RefreshCoordinator.step, RefreshCoordinator.wait]
      rw [if_neg found, if_neg Bool.false_ne_true]
      exact OrderedMap.get_set_self _ _ _
    aborts number waiter found waits := by
      have released : (hub.release number .aborted).waiters.get number =
          some { waiter with state := .aborted } := by
        rw [release_eq found waits]
        exact OrderedMap.get_set_self _ _ _
      simp only [RefreshCoordinator.step, RefreshCoordinator.abort, found]
      rw [if_pos waits]
      split
      · exact released
      · split_ifs
        · rw [waiters_finish]
          exact released
        · exact released
    ends id member result := by
      have active : hub.stateOf id = some .active := by
        by_contra inactive
        have placed := steady.sound.placed id
        have counted := List.count_pos_iff.mpr member
        rw [if_neg inactive] at placed
        omega
      have active' : RefreshCoordinator.stateOf
          ({ hub with running := hub.running.erase id } : RefreshCoordinator A E) id =
            some .active := active
      simp only [RefreshCoordinator.step, RefreshCoordinator.ran, if_pos member]
      cases result with
      | ok agent => exact stateOf_finish_self active' _
      | error error => exact stateOf_finish_self active' _ }

theorem steady_run (concurrency : Int) (actions : List (RefreshAction A E)) :
    (run step { concurrency } actions : RefreshCoordinator A E).Steady := by
  have keeps : ∀ (hub : RefreshCoordinator A E) (action : RefreshAction A E), hub.Steady →
      (hub.step action).Steady := fun _ action steady => steady.step action
  exact run_invariant step keeps (steady_initial concurrency) actions

theorem calm_run {concurrency : Int} {actions : List (RefreshAction A E)}
    (timely : Meets step Timely ({ concurrency } : RefreshCoordinator A E) actions) :
    ∀ taken, taken <+: actions →
      (run step { concurrency } taken : RefreshCoordinator A E).Calm := by
  have keeps : ∀ (hub : RefreshCoordinator A E) (action : RefreshAction A E),
      hub.Steady ∧ hub.Calm → hub.Timely action →
        (hub.step action).Steady ∧ (hub.step action).Calm :=
    fun _ action ⟨steady, calm⟩ timely => ⟨steady.step action, calm.step steady timely⟩
  exact fun taken first => (every_state_of_meets step keeps
    ⟨steady_initial concurrency, calm_initial concurrency⟩ timely taken first).2

/-- The jobs are those that were submitted. -/
theorem nextJob_run (concurrency : Int) (actions : List (RefreshAction A E)) :
    (run step { concurrency } actions : RefreshCoordinator A E).nextJob =
      actions.countP (·.isSubmit) := by
  have counts : ∀ (taken : List (RefreshAction A E)) (hub : RefreshCoordinator A E)
      (action : RefreshAction A E), hub.nextJob = taken.countP (·.isSubmit) →
        (hub.step action).nextJob = (taken ++ [action]).countP (·.isSubmit) := by
    intro taken hub action counted
    rw [List.countP_append, ← counted]
    exact nextJob_step hub action
  exact run_history step counts rfl actions

/-- While no jobs are admitted, a run makes none active. -/
theorem Steady.still_run (steady : hub.Steady) (shut : hub.admitting = false)
    (actions : List (RefreshAction A E)) :
    (run RefreshCoordinator.step hub actions).started = hub.started ∧
      (run RefreshCoordinator.step hub actions).admitting = false := by
  have keeps : ∀ (next : RefreshCoordinator A E) (action : RefreshAction A E),
      next.Steady ∧ next.started = hub.started ∧ next.admitting = false →
        (next.step action).Steady ∧ (next.step action).started = hub.started ∧
          (next.step action).admitting = false := by
    rintro next action ⟨steady, same, shut⟩
    obtain ⟨started, closed⟩ := steady.still shut action
    exact ⟨steady.step action, started.trans same, closed⟩
  exact (run_invariant RefreshCoordinator.step keeps ⟨steady, rfl, shut⟩ actions).2

theorem shut_of_beginShutdown {concurrency : Int} {actions : List (RefreshAction A E)}
    (begun : .beginShutdown ∈ actions) :
    (run step { concurrency } actions : RefreshCoordinator A E).admitting = false := by
  obtain ⟨before, after, rfl⟩ := List.append_of_mem begun
  rw [run_append, run_cons]
  have steady := (steady_run concurrency before).beginShutdown.1
  exact (steady.still_run (still_beginShutdown _).admitting after).2

/-- In every run the coordinator is orderly, with a job for each submission, and no job becomes
active once `beginShutdown` was called. In a run whose steps come in time, jobs are cancelled only
when their waiters have aborted or on shutdown, and drain calls resolve only when no job is
active. -/
theorem refreshes_drain_when_timely (concurrency : Int) (actions : List (RefreshAction A E)) :
    (∀ taken, taken <+: actions →
      (run step { concurrency } taken : RefreshCoordinator A E).Orderly ∧
        (run step { concurrency } taken : RefreshCoordinator A E).nextJob =
          taken.countP (·.isSubmit) ∧
        (.beginShutdown ∈ taken → ∀ later, taken <+: later →
          (run step { concurrency } later : RefreshCoordinator A E).started =
            (run step { concurrency } taken : RefreshCoordinator A E).started)) ∧
      (Meets step Timely ({ concurrency } : RefreshCoordinator A E) actions →
        (∀ taken, taken <+: actions →
          (run step { concurrency } taken : RefreshCoordinator A E).DrainsIdle) ∧
        ∀ taken action, taken ++ [action] <+: actions →
          (run step { concurrency } taken : RefreshCoordinator A E).CancelsAbandoned action) := by
  refine ⟨fun taken _ => ⟨(steady_run concurrency taken).orderly,
    nextJob_run concurrency taken, ?_⟩, fun timely => ⟨?_, ?_⟩⟩
  · rintro begun later ⟨rest, rfl⟩
    rw [run_append]
    exact ((steady_run concurrency taken).still_run (shut_of_beginShutdown begun) rest).1
  · exact fun taken first => (calm_run timely taken first).drains
  · intro taken action first
    have calm := calm_run timely taken ((List.prefix_append taken [action]).trans first)
    exact (steady_run concurrency taken).cancelsAbandoned calm action

/-- A drain call that waits while a job runs after the shutdown began resolves when it is done. -/
theorem refreshes_drain_when_timely_shut :
    (run step { concurrency := 1 } [.submit "a", .pump, .submit "b", .beginShutdown, .drain 0,
      .presence 0 (.ok ["a"]), .ran 0 (.ok 7), .drainResumes 0] :
        RefreshCoordinator Nat Unit).drains = [0] ∧
    (run step { concurrency := 1 } [.submit "a", .pump, .submit "b", .beginShutdown, .drain 0,
      .presence 0 (.ok ["a"]), .ran 0 (.ok 7), .drainResumes 0] :
        RefreshCoordinator Nat Unit).DrainsIdle := by
  refine ⟨by decide, ((refreshes_drain_when_timely 1 _).2 ?_).1 _ (List.prefix_refl _)⟩
  exact ⟨trivial, fun absent => absurd rfl absent, trivial, trivial, trivial, trivial, trivial,
    trivial, trivial⟩

/-- A drain call that waits before any shutdown resolves while the next job is active: the pump
that the end of the first one scheduled comes before it resumes. -/
theorem drain_resolves_while_active :
    ¬ (run step { concurrency := 1 } [.submit "a", .pump, .submit "b", .drain 0,
      .presence 0 (.ok ["a"]), .ran 0 (.ok 7), .pump, .drainResumes 0] :
        RefreshCoordinator Nat Unit).DrainsIdle := by
  intro idle
  exact absurd (idle 1 (by decide)) (by decide)

end RefreshCoordinator

end PlugHub.Profiles
