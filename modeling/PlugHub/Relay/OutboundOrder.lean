import PlugHub.Relay.OutboundChain

/-!
# Order of the outbound jobs

The jobs of one request run in the order in which they were accepted, one at a time and each
once, whatever the other requests, the outcomes of the jobs and the sweeps do in between. The
invariant says that a job that is not finished finds its tail object in the map, that the tail
object carries the youngest job of its request and counts the unfinished ones, and that every
older job of a request is finished or reached through the promise of a younger one.
-/

namespace PlugHub.Relay

open Library
open OrderedMap (count_eq_zero_iff count_set_of_absent forall_set get_erase_of_ne get_set_cases
  get_set_of_ne get_set_self)

namespace OutboundChains

/-- An unfinished job of a request. -/
def isPending (requestId : RequestId) (_ref : Nat) (job : ChainedJob) : Bool :=
  decide (job.requestId = requestId) && decide (job.phase ≠ .finished)

/-- A running job of a request. -/
def isActive (requestId : RequestId) (_ref : Nat) (job : ChainedJob) : Bool :=
  decide (job.requestId = requestId) && decide (job.phase = .running)

/-- The tail object of a request: it carries the youngest job and counts the unfinished ones. -/
structure Tail (chains : OutboundChains) (requestId : RequestId) (ref : Nat) (entry : TailEntry) :
    Prop where
  stored : chains.entries.get ref = some entry
  made : ref < chains.nextEntry
  youngest : ∃ last job, entry.tail = some last ∧ chains.jobs.get last = some job ∧
    job.requestId = requestId ∧ ∀ other older, chains.jobs.get other = some older →
      older.requestId = requestId → other ≤ last
  pending : entry.pendingJobs = chains.jobs.count (isPending requestId)
  active : entry.activeJobs = chains.jobs.count (isActive requestId)
  busy : 0 < entry.pendingJobs

/-- What holds of the jobs alone. -/
structure Sequenced (jobs : OrderedMap Nat ChainedJob) : Prop where
  links : ∀ ref job, jobs.get ref = some job → ∀ before, job.prev = some before →
    before < ref ∧ ∃ older, jobs.get before = some older ∧ older.requestId = job.requestId
  /-- An older job of the request is finished or not younger than that one. -/
  linked : ∀ ref job, jobs.get ref = some job → ∀ other older,
    jobs.get other = some older → older.requestId = job.requestId → other < ref →
      older.phase = .finished ∨ ∃ before, job.prev = some before ∧ other ≤ before
  ordered : ∀ ref job, jobs.get ref = some job → job.phase ≠ .waiting → ∀ other older,
    jobs.get other = some older → older.requestId = job.requestId → other < ref →
      older.phase = .finished

/-- What holds of the chains in every reachable state. -/
structure Chained (chains : OutboundChains) : Prop where
  numbered : chains.jobs.keys = List.range chains.nextJob
  placed : ∀ ref job, chains.jobs.get ref = some job → job.phase ≠ .finished →
    chains.tailByRequestId.get job.requestId = some job.entry
  tails : ∀ requestId ref, chains.tailByRequestId.get requestId = some ref →
    ∃ entry, chains.Tail requestId ref entry
  sequenced : Sequenced chains.jobs
  logged : ∀ requestId ref, (requestId, ref) ∈ chains.started ↔
    ∃ job, chains.jobs.get ref = some job ∧ job.requestId = requestId ∧ job.phase ≠ .waiting
  inOrder : chains.started.Pairwise fun later earlier =>
    later.1 = earlier.1 → earlier.2 < later.2

theorem chained_empty : Chained {} where
  numbered := rfl
  placed := nofun
  tails := nofun
  sequenced := ⟨nofun, nofun, nofun⟩
  logged := fun _ _ => ⟨nofun, nofun⟩
  inOrder := List.Pairwise.nil

variable {chains : OutboundChains}

theorem Chained.lt_nextJob (chained : Chained chains) {ref : Nat} {job : ChainedJob}
    (present : chains.jobs.get ref = some job) : ref < chains.nextJob := by
  have member : ref ∈ chains.jobs.keys := (chains.jobs.mem_keys_iff ref).mpr ⟨job, present⟩
  rw [chained.numbered] at member
  exact List.mem_range.mp member

theorem Chained.fresh (chained : Chained chains) : chains.jobs.get chains.nextJob = none := by
  cases found : chains.jobs.get chains.nextJob with
  | none => rfl
  | some job => exact absurd (chained.lt_nextJob found) (Nat.lt_irrefl _)

variable {ref : Nat} {job : ChainedJob}

theorem Tail.same_request {first second : RequestId} {entry other : TailEntry}
    (left : chains.Tail first ref entry) (right : chains.Tail second ref other) :
    first = second := by
  have same : entry = other := by
    have both := left.stored.symm.trans right.stored
    exact Option.some.inj both
  subst same
  obtain ⟨last, job, tail, present, owner, -⟩ := left.youngest
  obtain ⟨last', job', tail', present', owner', -⟩ := right.youngest
  have lasts : last = last' := Option.some.inj (tail.symm.trans tail')
  subst lasts
  have jobs : job = job' := Option.some.inj (present.symm.trans present')
  rw [← owner, ← owner', jobs]

section

variable (chained : Chained chains)

include chained

theorem Chained.carry {next : OutboundChains}
    (tails : next.tailByRequestId = chains.tailByRequestId)
    (entries : next.entries = chains.entries) (jobs : next.jobs = chains.jobs)
    (nextEntry : next.nextEntry = chains.nextEntry) (nextJob : next.nextJob = chains.nextJob)
    (started : next.started = chains.started) : Chained next where
  numbered := by rw [jobs, nextJob]; exact chained.numbered
  placed := by rw [jobs, tails]; exact chained.placed
  tails := by
    rw [tails]
    intro requestId ref mapped
    obtain ⟨entry, tail⟩ := chained.tails requestId ref mapped
    refine ⟨entry, ?_, ?_, ?_, ?_, ?_, tail.busy⟩
    · rw [entries]; exact tail.stored
    · rw [nextEntry]; exact tail.made
    · rw [jobs]; exact tail.youngest
    · rw [jobs]; exact tail.pending
    · rw [jobs]; exact tail.active
  sequenced := by rw [jobs]; exact chained.sequenced
  logged := by rw [jobs, started]; exact chained.logged
  inOrder := by rw [started]; exact chained.inOrder

/-! ## A job is accepted -/

variable (requestId : RequestId) (options : EnqueueOptions) (nowMs : Nat)

theorem Chained.tailFor_cases :
    (∃ ref entry, chains.tailByRequestId.get requestId = some ref ∧
      chains.Tail requestId ref entry ∧ chains.tailFor requestId nowMs = (ref, entry)) ∨
    (chains.tailByRequestId.get requestId = none ∧
      chains.tailFor requestId nowMs =
        (chains.nextEntry, { lastActivityAtMs := nowMs, backlogStartedAtMs := nowMs }) ∧
      ∀ ref job, chains.jobs.get ref = some job → job.requestId = requestId →
        job.phase = .finished) := by
  cases mapped : chains.tailByRequestId.get requestId with
  | some ref =>
    obtain ⟨entry, tail⟩ := chained.tails requestId ref mapped
    refine Or.inl ⟨ref, entry, rfl, tail, ?_⟩
    simp only [tailFor, mapped, tail.stored, Option.getD_some]
  | none =>
    refine Or.inr ⟨rfl, by simp only [tailFor, mapped], fun ref job present owner => ?_⟩
    by_contra unfinished
    have found := chained.placed ref job present unfinished
    rw [owner, mapped] at found
    cases found

theorem Chained.tailFor_ne {requestId other : RequestId} (nowMs : Nat) (differs : other ≠ requestId)
    (mapped : chains.tailByRequestId.get other = some ref) :
    ref ≠ (chains.tailFor requestId nowMs).1 := by
  obtain ⟨entry, tail⟩ := chained.tails other ref mapped
  rcases chained.tailFor_cases requestId nowMs with
    ⟨own, ownEntry, -, ownTail, shape⟩ | ⟨-, shape, -⟩
  · rw [shape]
    intro same
    subst same
    exact differs (tail.same_request ownTail)
  · rw [shape]
    have made := tail.made
    show ref ≠ chains.nextEntry
    omega

theorem Chained.counts_chainJob (other : RequestId) :
    (chains.chainJob requestId options nowMs).jobs.count (isPending other) =
        chains.jobs.count (isPending other) + (if requestId = other then 1 else 0) ∧
      (chains.chainJob requestId options nowMs).jobs.count (isActive other) =
        chains.jobs.count (isActive other) := by
  refine ⟨?_, ?_⟩
  · simp only [chainJob, count_set_of_absent _ _ _ chained.fresh, isPending,
      ne_eq, reduceCtorEq, not_false_eq_true, decide_true, Bool.and_true, decide_eq_true_eq]
  · simp only [chainJob, count_set_of_absent _ _ _ chained.fresh, isActive,
      reduceCtorEq, decide_false, Bool.and_false, Bool.false_eq_true, if_false, Nat.add_zero]

theorem Chained.tail_chainJob :
    (chains.chainJob requestId options nowMs).Tail requestId (chains.tailFor requestId nowMs).1
      (TailEntry.extend (chains.tailFor requestId nowMs).2 chains.nextJob nowMs) := by
  have counts := chained.counts_chainJob requestId options nowMs requestId
  rw [if_pos rfl] at counts
  refine ⟨get_set_self _ _ _, ?_, ?_, ?_, ?_, Nat.succ_pos _⟩
  · show _ < chains.nextEntry + 1
    rcases chained.tailFor_cases requestId nowMs with ⟨ref, entry, -, tail, shape⟩ | ⟨-, shape, -⟩
    · rw [shape]
      exact Nat.lt_succ_of_lt tail.made
    · rw [shape]
      exact Nat.lt_succ_self _
  · refine ⟨chains.nextJob, _, rfl, get_set_self _ _ _, rfl, ?_⟩
    exact forall_set (fun _ => Nat.le_refl _) fun _ _ before _ =>
      Nat.le_of_lt (chained.lt_nextJob before)
  · rw [counts.1]
    show (chains.tailFor requestId nowMs).2.pendingJobs + 1 = _
    rcases chained.tailFor_cases requestId nowMs with
      ⟨ref, entry, -, tail, shape⟩ | ⟨-, shape, finished⟩
    · rw [shape, tail.pending]
    · have none : chains.jobs.count (isPending requestId) = 0 := by
        rw [count_eq_zero_iff]
        intro ref job present
        by_cases owner : job.requestId = requestId
        · simp [isPending, finished ref job present owner]
        · simp [isPending, owner]
      rw [shape, none]
  · rw [counts.2]
    show (chains.tailFor requestId nowMs).2.activeJobs = _
    rcases chained.tailFor_cases requestId nowMs with
      ⟨ref, entry, -, tail, shape⟩ | ⟨-, shape, finished⟩
    · rw [shape, tail.active]
    · have none : chains.jobs.count (isActive requestId) = 0 := by
        rw [count_eq_zero_iff]
        intro ref job present
        by_cases owner : job.requestId = requestId
        · simp [isActive, finished ref job present owner]
        · simp [isActive, owner]
      rw [shape, none]

theorem Chained.other_tail_chainJob {requestId other : RequestId}
    (options : EnqueueOptions) (nowMs : Nat) (differs : other ≠ requestId)
    (mapped : chains.tailByRequestId.get other = some ref) :
    ∃ entry, (chains.chainJob requestId options nowMs).Tail other ref entry := by
  obtain ⟨entry, tail⟩ := chained.tails other ref mapped
  have counts := chained.counts_chainJob requestId options nowMs other
  rw [if_neg differs.symm] at counts
  refine ⟨entry, ?_, Nat.lt_succ_of_lt tail.made, ?_, ?_, ?_, tail.busy⟩
  · show (chains.entries.set _ _).get ref = some entry
    rw [get_set_of_ne _ _ (chained.tailFor_ne nowMs differs mapped)]
    exact tail.stored
  · obtain ⟨last, job, carried, present, owner, youngest⟩ := tail.youngest
    have below : last ≠ chains.nextJob := Nat.ne_of_lt (chained.lt_nextJob present)
    refine ⟨last, job, carried, ?_, owner, ?_⟩
    · show (chains.jobs.set _ _).get last = some job
      rw [get_set_of_ne _ _ below]
      exact present
    · exact forall_set (fun belongs => absurd belongs.symm differs) youngest
  · rw [counts.1, Nat.add_zero]
    exact tail.pending
  · rw [counts.2]
    exact tail.active

theorem Chained.prev_cases
    {other : Nat} {older : ChainedJob} (present : chains.jobs.get other = some older)
    (owner : older.requestId = requestId) :
    older.phase = .finished ∨ ∃ before,
      (chains.tailFor requestId nowMs).2.tail = some before ∧ other ≤ before := by
  rcases chained.tailFor_cases requestId nowMs with
    ⟨ref, entry, -, tail, shape⟩ | ⟨-, -, finished⟩
  · obtain ⟨last, job, carried, -, -, youngest⟩ := tail.youngest
    rw [shape]
    exact Or.inr ⟨last, carried, youngest other older present owner⟩
  · exact Or.inl (finished other older present owner)

theorem Chained.sequenced_chainJob :
    Sequenced (chains.chainJob requestId options nowMs).jobs where
  links := by
    intro ref job present before chainedTo
    rcases get_set_cases present with ⟨number, new⟩ | ⟨-, earlier⟩
    · rcases chained.tailFor_cases requestId nowMs with
        ⟨own, entry, -, tail, shape⟩ | ⟨-, shape, -⟩
      · obtain ⟨last, older, carried, found, owner, -⟩ := tail.youngest
        have last_eq : last = before := by
          rw [new, shape] at chainedTo
          exact Option.some.inj (carried.symm.trans chainedTo)
        have below := chained.lt_nextJob found
        rw [← last_eq, number, new]
        refine ⟨below, older, ?_, owner⟩
        exact (get_set_of_ne _ _ (Nat.ne_of_lt below)).trans found
      · rw [new, shape] at chainedTo
        cases chainedTo
    · obtain ⟨below, older, found, owner⟩ :=
        chained.sequenced.links ref job earlier before chainedTo
      have fresh : before ≠ chains.nextJob := Nat.ne_of_lt (chained.lt_nextJob found)
      exact ⟨below, older, (get_set_of_ne _ _ fresh).trans found, owner⟩
  linked := by
    intro ref job present other older found owner below
    rcases get_set_cases found with ⟨number, -⟩ | ⟨-, foundBefore⟩
    · rcases get_set_cases present with ⟨same, -⟩ | ⟨-, before⟩
      · omega
      · have bound := chained.lt_nextJob before
        omega
    · rcases get_set_cases present with ⟨-, new⟩ | ⟨-, before⟩
      · subst new
        exact chained.prev_cases requestId nowMs foundBefore owner
      · exact chained.sequenced.linked ref job before other older foundBefore owner below
  ordered := by
    intro ref job present started other older found owner below
    rcases get_set_cases present with ⟨-, new⟩ | ⟨-, before⟩
    · subst new
      exact absurd rfl started
    · rcases get_set_cases found with ⟨number, -⟩ | ⟨-, foundBefore⟩
      · have bound := chained.lt_nextJob before
        omega
      · exact chained.sequenced.ordered ref job before started other older foundBefore owner below

theorem Chained.chainJob :
    Chained (chains.chainJob requestId options nowMs) where
  numbered := by
    show (chains.jobs.set _ _).keys = List.range (chains.nextJob + 1)
    rw [OrderedMap.keys_set_of_absent _ _ chained.fresh, chained.numbered, List.range_succ]
  placed := by
    refine forall_set (fun _ => get_set_self _ _ _) fun ref job before unfinished => ?_
    show (chains.tailByRequestId.set _ _).get job.requestId = some job.entry
    have mapped := chained.placed ref job before unfinished
    by_cases own : job.requestId = requestId
    · rw [own, get_set_self]
      rw [own] at mapped
      simp only [tailFor, mapped]
    · rw [get_set_of_ne _ _ own]
      exact mapped
  tails := by
    intro other ref mapped
    rcases get_set_cases mapped with ⟨own, place⟩ | ⟨differs, before⟩
    · rw [own, place]
      exact ⟨_, chained.tail_chainJob requestId options nowMs⟩
    · exact chained.other_tail_chainJob options nowMs differs before
  sequenced := chained.sequenced_chainJob requestId options nowMs
  logged := by
    intro owner ref
    rw [show (chains.chainJob requestId options nowMs).started = chains.started from rfl,
      chained.logged]
    constructor
    · rintro ⟨job, present, belongs, started⟩
      have fresh : ref ≠ chains.nextJob := Nat.ne_of_lt (chained.lt_nextJob present)
      exact ⟨job, (get_set_of_ne _ _ fresh).trans present, belongs, started⟩
    · rintro ⟨job, present, belongs, started⟩
      rcases get_set_cases present with ⟨-, new⟩ | ⟨-, before⟩
      · subst new
        exact absurd rfl started
      · exact ⟨job, before, belongs, started⟩
  inOrder := chained.inOrder

theorem Chained.enqueueRelayOutbound (env : Env)
    (requestId : RequestId) (options : EnqueueOptions) (nowMs : Nat) :
    Chained (chains.enqueueRelayOutbound env requestId options nowMs) := by
  unfold OutboundChains.enqueueRelayOutbound
  split
  · next decision _ =>
    cases decision <;> exact chained.carry rfl rfl rfl rfl rfl rfl
  · refine Chained.chainJob ?_ requestId options nowMs
    exact chained.carry rfl rfl rfl rfl rfl rfl

end

/-! ## A job starts or ends -/

/-- The jobs when one of them moved to another phase. -/
def withPhase (chains : OutboundChains) (ref : Nat) (job : ChainedJob) (phase : JobPhase) :
    OrderedMap Nat ChainedJob :=
  chains.jobs.set ref { job with phase := phase }

theorem withPhase_cases {phase : JobPhase}
    (present : chains.jobs.get ref = some job) {other : Nat} {found : ChainedJob}
    (after : (chains.withPhase ref job phase).get other = some found) :
    ∃ before, chains.jobs.get other = some before ∧
      found = { before with phase := if other = ref then phase else before.phase } := by
  rcases get_set_cases after with ⟨same, new⟩ | ⟨differs, kept⟩
  · rw [same, new]
    exact ⟨job, present, by rw [if_pos rfl]⟩
  · exact ⟨found, kept, by rw [if_neg differs]⟩

theorem get_withPhase (phase : JobPhase)
    (present : chains.jobs.get ref = some job) {other : Nat} {before : ChainedJob}
    (found : chains.jobs.get other = some before) :
    (chains.withPhase ref job phase).get other =
      some { before with phase := if other = ref then phase else before.phase } := by
  by_cases same : other = ref
  · subst same
    rw [present] at found
    cases found
    rw [if_pos rfl]
    exact get_set_self _ _ _
  · rw [if_neg same]
    exact (get_set_of_ne _ _ same).trans found

theorem pending_withPhase (phase : JobPhase)
    (present : chains.jobs.get ref = some job) (unfinished : job.phase ≠ .finished)
    (requestId : RequestId) :
    (chains.withPhase ref job phase).count (isPending requestId) +
        (if job.requestId = requestId ∧ phase = .finished then 1 else 0) =
      chains.jobs.count (isPending requestId) := by
  have counted := chains.jobs.count_set_of_present { job with phase := phase }
    (isPending requestId) present
  have was : isPending requestId ref job = decide (job.requestId = requestId) := by
    simp [isPending, unfinished]
  have becomes : isPending requestId ref { job with phase := phase } =
      (decide (job.requestId = requestId) && decide (phase ≠ .finished)) := rfl
  simp only [was, becomes, ne_eq, decide_eq_true_eq, Bool.and_eq_true] at counted
  rw [withPhase]
  by_cases owner : job.requestId = requestId
  · by_cases ended : phase = .finished
    · simp only [owner, ended, true_and, not_true_eq_false, if_true, if_false] at counted ⊢
      omega
    · simp only [owner, ended, true_and, not_false_eq_true, if_true, if_false] at counted ⊢
      omega
  · simp only [owner, false_and, if_false] at counted ⊢
    omega

theorem active_withPhase (phase : JobPhase)
    (present : chains.jobs.get ref = some job) (requestId : RequestId) :
    (chains.withPhase ref job phase).count (isActive requestId) +
        (if job.requestId = requestId ∧ job.phase = .running then 1 else 0) =
      chains.jobs.count (isActive requestId) +
        (if job.requestId = requestId ∧ phase = .running then 1 else 0) := by
  have counted := chains.jobs.count_set_of_present { job with phase := phase }
    (isActive requestId) present
  simp only [isActive, decide_eq_true_eq, Bool.and_eq_true] at counted
  exact counted

/-- A job that moves on when the older jobs of its request ended keeps the order. -/
theorem Sequenced.withPhase (sequenced : Sequenced chains.jobs)
    (phase : JobPhase) (present : chains.jobs.get ref = some job)
    (unfinished : job.phase ≠ .finished)
    (ready : ∀ other older, chains.jobs.get other = some older →
      older.requestId = job.requestId → other < ref → older.phase = .finished) :
    Sequenced (chains.withPhase ref job phase) := by
  have stays : ∀ other (older : ChainedJob), chains.jobs.get other = some older →
      older.phase = .finished → (if other = ref then phase else older.phase) = .finished := by
    intro other older found ended
    have differs : other ≠ ref := by
      intro same
      rw [same, present] at found
      cases found
      exact unfinished ended
    rw [if_neg differs]
    exact ended
  refine ⟨?_, ?_, ?_⟩
  · intro other found after before chainedTo
    obtain ⟨earlier, stored, rfl⟩ := withPhase_cases present after
    obtain ⟨below, older, olderStored, owner⟩ :=
      sequenced.links other earlier stored before chainedTo
    exact ⟨below, _, get_withPhase phase present olderStored, owner⟩
  · intro young found after other older olderAfter owner below
    obtain ⟨earlier, stored, rfl⟩ := withPhase_cases present after
    obtain ⟨olderBefore, olderStored, rfl⟩ := withPhase_cases present olderAfter
    rcases sequenced.linked young earlier stored other olderBefore olderStored owner below with
      ended | reached
    · exact Or.inl (stays other olderBefore olderStored ended)
    · exact Or.inr reached
  · intro young found after started other older olderAfter owner below
    obtain ⟨earlier, stored, rfl⟩ := withPhase_cases present after
    obtain ⟨olderBefore, olderStored, rfl⟩ := withPhase_cases present olderAfter
    refine stays other olderBefore olderStored ?_
    by_cases same : young = ref
    · rw [same, present] at stored
      cases stored
      exact ready other olderBefore olderStored owner (same ▸ below)
    · have begun : earlier.phase ≠ .waiting := by
        have shown : (if young = ref then phase else earlier.phase) ≠ .waiting := started
        rw [if_neg same] at shown
        exact shown
      exact sequenced.ordered young earlier stored begun other olderBefore olderStored owner below

theorem Sequenced.ready_of_settled (sequenced : Sequenced chains.jobs)
    (present : chains.jobs.get ref = some job)
    (settled : chains.isSettled job.prev = true) (other : Nat) (older : ChainedJob)
    (found : chains.jobs.get other = some older) (owner : older.requestId = job.requestId)
    (below : other < ref) : older.phase = .finished := by
  rcases sequenced.linked ref job present other older found owner below with
    ended | ⟨before, chainedTo, reached⟩
  · exact ended
  · obtain ⟨-, last, stored, sameRequest⟩ := sequenced.links ref job present before chainedTo
    have lastEnded : last.phase = .finished := by
      simpa only [isSettled, chainedTo, stored, Option.map_some, Option.getD_some,
        decide_eq_true_eq] using settled
    by_cases same : other = before
    · rw [same, stored] at found
      cases found
      exact lastEnded
    · have begun : last.phase ≠ .waiting := by rw [lastEnded]; decide
      exact sequenced.ordered before last stored begun other older found
        (owner.trans sameRequest.symm) (by omega)

theorem Sequenced.settled_of_ready (sequenced : Sequenced chains.jobs)
    (present : chains.jobs.get ref = some job)
    (ready : ∀ other older, chains.jobs.get other = some older →
      older.requestId = job.requestId → other < ref → older.phase = .finished) :
    chains.isSettled job.prev = true := by
  cases chainedTo : job.prev with
  | none => rfl
  | some before =>
    obtain ⟨below, last, stored, owner⟩ := sequenced.links ref job present before chainedTo
    simp only [isSettled, stored, Option.map_some, Option.getD_some, decide_eq_true_eq]
    exact ready before last stored owner below

/-- The tail objects when a job moved to another phase and its tail object counts it so. -/
theorem Chained.tails_withPhase (chained : Chained chains)
    {phase : JobPhase} (present : chains.jobs.get ref = some job)
    (unfinished : job.phase ≠ .finished) {next : OutboundChains}
    (jobs : next.jobs = chains.withPhase ref job phase) {entry new : TailEntry}
    (own : chains.Tail job.requestId job.entry entry)
    (entries : next.entries = chains.entries.set job.entry new)
    (nextEntry : next.nextEntry = chains.nextEntry) (carried : new.tail = entry.tail)
    (pending : new.pendingJobs = next.jobs.count (isPending job.requestId))
    (active : new.activeJobs = next.jobs.count (isActive job.requestId))
    {requestId : RequestId} {place : Nat}
    (mapped : chains.tailByRequestId.get requestId = some place)
    (busy : requestId = job.requestId → 0 < new.pendingJobs) :
    ∃ entry, next.Tail requestId place entry := by
  obtain ⟨current, tail⟩ := chained.tails requestId place mapped
  have youngest : ∃ last found, current.tail = some last ∧ next.jobs.get last = some found ∧
      found.requestId = requestId ∧ ∀ other older, next.jobs.get other = some older →
        older.requestId = requestId → other ≤ last := by
    obtain ⟨last, found, shape, stored, owner, bound⟩ := tail.youngest
    rw [jobs]
    refine ⟨last, _, shape, get_withPhase phase present stored, owner, ?_⟩
    intro other older after belongs
    obtain ⟨earlier, earlierStored, rfl⟩ := withPhase_cases present after
    exact bound other earlier earlierStored belongs
  by_cases same : requestId = job.requestId
  · have where_eq : place = job.entry := by
      have found := chained.placed ref job present unfinished
      rw [← same, mapped] at found
      exact Option.some.inj found
    have entry_eq : current = entry := by
      have found := tail.stored
      rw [where_eq, own.stored] at found
      exact (Option.some.inj found).symm
    subst entry_eq
    refine ⟨new, ?_, by rw [nextEntry]; exact tail.made, ?_, ?_, ?_, busy same⟩
    · rw [entries, where_eq]
      exact get_set_self _ _ _
    · rw [carried]
      exact youngest
    · rw [same]
      exact pending
    · rw [same]
      exact active
  · have differs : place ≠ job.entry := by
      intro shared
      rw [shared] at tail
      exact same (tail.same_request own)
    refine ⟨current, ?_, by rw [nextEntry]; exact tail.made, youngest, ?_, ?_, tail.busy⟩
    · rw [entries, get_set_of_ne _ _ differs]
      exact tail.stored
    · have counted := pending_withPhase phase present unfinished requestId
      rw [if_neg fun both => same both.1.symm] at counted
      rw [jobs, tail.pending]
      omega
    · have counted := active_withPhase phase present requestId
      rw [if_neg fun both => same both.1.symm, if_neg fun both => same both.1.symm] at counted
      rw [jobs, tail.active]
      omega

theorem Chained.own_tail (chained : Chained chains)
    (present : chains.jobs.get ref = some job) (unfinished : job.phase ≠ .finished) :
    ∃ entry, chains.Tail job.requestId job.entry entry :=
  chained.tails _ _ (chained.placed ref job present unfinished)

/-- The state in which a job runs. -/
def begin (chains : OutboundChains) (ref : Nat) (job : ChainedJob) (nowMs : Nat) : OutboundChains :=
  { chains with
    jobs := chains.withPhase ref job .running
    entries := chains.entries.modify job.entry fun entry =>
      { entry with activeJobs := entry.activeJobs + 1, lastActivityAtMs := nowMs }
    started := (job.requestId, ref) :: chains.started }

theorem Chained.begin (chained : Chained chains)
    (present : chains.jobs.get ref = some job) (waiting : job.phase = .waiting)
    (settled : chains.isSettled job.prev = true) (nowMs : Nat) :
    Chained (chains.begin ref job nowMs) := by
  have unfinished : job.phase ≠ .finished := by rw [waiting]; decide
  obtain ⟨entry, own⟩ := chained.own_tail present unfinished
  have fresh : (job.requestId, ref) ∉ chains.started := by
    intro member
    obtain ⟨found, stored, -, started⟩ := (chained.logged job.requestId ref).mp member
    rw [present] at stored
    cases stored
    exact started waiting
  refine ⟨?_, ?_, ?_, ?_, ?_, ?_⟩
  · exact (chains.jobs.keys_set_of_present _ present).trans chained.numbered
  · intro other found after pending
    obtain ⟨earlier, stored, rfl⟩ := withPhase_cases present after
    refine chained.placed other earlier stored fun ended => pending ?_
    have differs : other ≠ ref := by
      intro same
      rw [same, present] at stored
      cases stored
      exact unfinished ended
    show (if other = ref then JobPhase.running else earlier.phase) = .finished
    rw [if_neg differs]
    exact ended
  · intro requestId place mapped
    have entries : (chains.begin ref job nowMs).entries = chains.entries.set job.entry
        { entry with activeJobs := entry.activeJobs + 1, lastActivityAtMs := nowMs } := by
      simp only [OutboundChains.begin, OrderedMap.modify, own.stored]
    have pending := pending_withPhase .running present unfinished job.requestId
    have active := active_withPhase .running present job.requestId
    simp only [waiting, reduceCtorEq, and_false, and_true, if_false, if_true] at pending active
    refine chained.tails_withPhase present unfinished rfl own entries rfl rfl ?_ ?_ mapped ?_
    · rw [own.pending]
      exact pending.symm
    · show entry.activeJobs + 1 = _
      rw [own.active]
      exact active.symm
    · exact fun _ => own.busy
  · exact chained.sequenced.withPhase .running present unfinished
      (chained.sequenced.ready_of_settled present settled)
  · intro requestId other
    show (requestId, other) ∈ (job.requestId, ref) :: chains.started ↔ _
    rw [List.mem_cons, chained.logged]
    constructor
    · rintro (same | ⟨found, stored, owner, started⟩)
      · cases same
        exact ⟨_, get_set_self _ _ _, rfl, by simp⟩
      · refine ⟨_, get_withPhase .running present stored, owner, ?_⟩
        show (if other = ref then JobPhase.running else found.phase) ≠ .waiting
        split
        · decide
        · exact started
    · rintro ⟨found, after, owner, started⟩
      obtain ⟨earlier, stored, rfl⟩ := withPhase_cases present after
      by_cases same : other = ref
      · subst same
        rw [present] at stored
        cases stored
        exact Or.inl (Prod.ext owner.symm rfl)
      · refine Or.inr ⟨earlier, stored, owner, ?_⟩
        have shown : (if other = ref then JobPhase.running else earlier.phase) ≠ .waiting := started
        rw [if_neg same] at shown
        exact shown
  · refine List.Pairwise.cons ?_ chained.inOrder
    intro logged member owner
    obtain ⟨found, stored, belongs, started⟩ := (chained.logged logged.1 logged.2).mp member
    show logged.2 < ref
    by_contra above
    by_cases same : logged.2 = ref
    · rw [same, present] at stored
      cases stored
      exact started waiting
    · have younger : ref < logged.2 := by omega
      have ended := chained.sequenced.ordered logged.2 found stored started ref job present
        (owner.trans belongs.symm) younger
      exact unfinished ended

theorem Chained.startJob (chained : Chained chains) (ref nowMs : Nat) :
    Chained (chains.startJob ref nowMs) := by
  unfold OutboundChains.startJob
  split
  · exact chained
  · next job present =>
    split
    · next ready => exact chained.begin present ready.1 ready.2 nowMs
    · exact chained

theorem Chained.youngest_of_alone (chained : Chained chains)
    (present : chains.jobs.get ref = some job) (running : job.phase = .running) {entry : TailEntry}
    (own : chains.Tail job.requestId job.entry entry) (alone : entry.pendingJobs = 1) :
    entry.tail = some ref := by
  have unfinished : job.phase ≠ .finished := by rw [running]; decide
  obtain ⟨last, found, shape, stored, owner, bound⟩ := own.youngest
  have reached := bound ref job present rfl
  rw [shape]
  by_contra differs
  have younger : ref < last := by
    have : last ≠ ref := fun same => differs (by rw [same])
    omega
  have pendingLast : found.phase ≠ .finished := by
    intro ended
    have begun : found.phase ≠ .waiting := by rw [ended]; decide
    exact unfinished
      (chained.sequenced.ordered last found stored begun ref job present owner.symm younger)
  have counted := pending_withPhase .finished present unfinished job.requestId
  rw [if_pos ⟨rfl, rfl⟩, ← own.pending, alone] at counted
  have empty : (chains.withPhase ref job .finished).count (isPending job.requestId) = 0 := by omega
  rw [count_eq_zero_iff] at empty
  have seen := empty last _ (get_withPhase .finished present stored)
  have apart : last ≠ ref := by omega
  simp only [isPending, owner, if_neg apart, pendingLast, ne_eq, not_false_eq_true, decide_true,
    Bool.and_true, reduceCtorEq] at seen

theorem Chained.leave_counts
    (present : chains.jobs.get ref = some job) (running : job.phase = .running) {entry : TailEntry}
    (own : chains.Tail job.requestId job.entry entry) (nowMs : Nat) :
    (TailEntry.leave entry nowMs).pendingJobs =
        (chains.withPhase ref job .finished).count (isPending job.requestId) ∧
      (TailEntry.leave entry nowMs).activeJobs =
        (chains.withPhase ref job .finished).count (isActive job.requestId) := by
  have unfinished : job.phase ≠ .finished := by rw [running]; decide
  have pending := pending_withPhase .finished present unfinished job.requestId
  have active := active_withPhase .finished present job.requestId
  simp only [running, reduceCtorEq, and_false, and_true, if_false, if_true] at pending active
  refine ⟨?_, ?_⟩
  · show entry.pendingJobs - 1 = _
    rw [own.pending]
    omega
  · show entry.activeJobs - 1 = _
    rw [own.active]
    omega

section

variable (chained : Chained chains)

include chained

/-- The end of a job keeps the chains. -/
theorem Chained.endJob
    (present : chains.jobs.get ref = some job) (running : job.phase = .running) (nowMs : Nat) :
    Chained (chains.endJob ref job nowMs) := by
  have unfinished : job.phase ≠ .finished := by rw [running]; decide
  obtain ⟨entry, own⟩ := chained.own_tail present unfinished
  have counts := Chained.leave_counts present running own nowMs
  have stored : (chains.entries.get job.entry).getD {} = entry := by
    rw [own.stored, Option.getD_some]
  have maps : (chains.endJob ref job nowMs).tailByRequestId =
      if (TailEntry.leave entry nowMs).pendingJobs = 0 then
        chains.tailByRequestId.erase job.requestId else chains.tailByRequestId := by
    simp only [OutboundChains.endJob, stored]
    by_cases empty : (TailEntry.leave entry nowMs).pendingJobs = 0
    · have alone : entry.pendingJobs = 1 := by
        have left : entry.pendingJobs - 1 = 0 := empty
        have busy := own.busy
        omega
      have last : (TailEntry.leave entry nowMs).tail = some ref := by
        show entry.tail = some ref
        exact chained.youngest_of_alone present running own alone
      rw [if_pos ⟨last, empty⟩, if_pos empty]
    · rw [if_neg fun both => empty both.2, if_neg empty]
  refine ⟨?_, ?_, ?_, ?_, ?_, chained.inOrder⟩
  · exact (chains.jobs.keys_set_of_present _ present).trans chained.numbered
  · intro other found after pending
    obtain ⟨earlier, earlierStored, rfl⟩ := withPhase_cases present after
    have differs : other ≠ ref := by
      intro same
      rw [if_pos same] at pending
      exact pending rfl
    rw [if_neg differs] at pending after
    have mapped := chained.placed other earlier earlierStored pending
    rw [maps]
    split
    · next empty =>
      by_cases owner : earlier.requestId = job.requestId
      · rw [counts.1, count_eq_zero_iff] at empty
        have seen := empty other _ after
        simp only [isPending, owner, pending, ne_eq, not_false_eq_true, decide_true,
          Bool.and_true, reduceCtorEq] at seen
      · rw [get_erase_of_ne _ owner]
        exact mapped
    · exact mapped
  · intro requestId place mapped
    rw [maps] at mapped
    have entries : (chains.endJob ref job nowMs).entries =
        chains.entries.set job.entry (TailEntry.leave entry nowMs) := by
      simp only [OutboundChains.endJob, stored]
    split at mapped
    · next empty =>
      have differs : requestId ≠ job.requestId := by
        intro same
        rw [same, OrderedMap.get_erase_self] at mapped
        cases mapped
      rw [get_erase_of_ne _ differs] at mapped
      exact chained.tails_withPhase present unfinished rfl own entries rfl rfl counts.1 counts.2
        mapped fun same => absurd same differs
    · next busy =>
      exact chained.tails_withPhase present unfinished rfl own entries rfl rfl counts.1 counts.2
        mapped fun _ => Nat.pos_of_ne_zero busy
  · exact chained.sequenced.withPhase .finished present unfinished
      (chained.sequenced.ordered ref job present (by rw [running]; decide))
  · intro requestId other
    rw [show (chains.endJob ref job nowMs).started = chains.started from rfl, chained.logged]
    constructor
    · rintro ⟨found, before, owner, started⟩
      refine ⟨_, get_withPhase .finished present before, owner, ?_⟩
      show (if other = ref then JobPhase.finished else found.phase) ≠ .waiting
      split
      · decide
      · exact started
    · rintro ⟨found, after, owner, started⟩
      obtain ⟨earlier, before, rfl⟩ := withPhase_cases present after
      refine ⟨earlier, before, owner, ?_⟩
      by_cases same : other = ref
      · rw [same, present] at before
        cases before
        rw [running]
        decide
      · have shown : (if other = ref then JobPhase.finished else earlier.phase) ≠ .waiting :=
          started
        rw [if_neg same] at shown
        exact shown

theorem Chained.finishJob (env : Env) (ref : Nat) (failed : Bool)
    (duration nowMs : Nat) : Chained (chains.finishJob env ref failed duration nowMs) := by
  unfold OutboundChains.finishJob
  split
  · exact chained
  · next job present =>
    split
    · next running =>
      apply Chained.endJob
      · exact chained.carry rfl rfl rfl rfl rfl rfl
      · exact present
      · exact running
    · exact chained

/-! ## Every run -/

theorem Chained.orphanedTails (env : Env) (nowMs : Nat) :
    chains.orphanedTails env nowMs = [] := by
  unfold OutboundChains.orphanedTails
  rw [List.filterMap_eq_nil_iff]
  intro pair member
  have mapped := (chains.tailByRequestId.get_eq_some_iff pair.1 pair.2).mpr member
  obtain ⟨entry, tail⟩ := chained.tails pair.1 pair.2 mapped
  have busy : entry.pendingJobs ≠ 0 := Nat.ne_of_gt tail.busy
  simp [tail.stored, isTailEntryOrphaned, busy]

theorem Chained.sweepRelayOutboundQueueState (env : Env) (nowMs : Nat) :
    Chained (chains.sweepRelayOutboundQueueState env nowMs) := by
  refine chained.carry ?_ rfl rfl rfl rfl rfl
  show ((chains.orphanedTails env nowMs).map Prod.fst).foldl (·.erase ·) chains.tailByRequestId = _
  rw [chained.orphanedTails env nowMs]
  rfl

/-- Every action keeps the chains of jobs. -/
theorem Chained.step (env : Env) (action : Action) :
    Chained (chains.step env action) := by
  cases action with
  | enqueue requestId options nowMs =>
    exact chained.enqueueRelayOutbound env requestId options nowMs
  | start ref nowMs => exact chained.startJob ref nowMs
  | finish ref failed duration nowMs => exact chained.finishJob env ref failed duration nowMs
  | sweep nowMs => exact chained.sweepRelayOutboundQueueState env nowMs
  | query nowMs =>
    show Chained (chains.getRelayOutboundQueueOverloadState env nowMs)
    unfold getRelayOutboundQueueOverloadState
    dsimp only
    split <;> exact chained.carry rfl rfl rfl rfl rfl rfl
  | snapshot nowMs => exact chained.carry rfl rfl rfl rfl rfl rfl
  | admitWork consumerSocketId =>
    show Chained (chains.admitRelayOutboundConsumerWork env consumerSocketId)
    unfold admitRelayOutboundConsumerWork
    cases chains.ledger.evaluateRelayOutboundByteBudget env consumerSocketId 0 <;>
      exact chained.carry rfl rfl rfl rfl rfl rfl

end

/-- So they are chains in every run. -/
theorem chained_run (env : Env) (actions : List Action) :
    Chained (run (OutboundChains.step env) {} actions) :=
  run_invariant _ (fun _ action chained => chained.step env action) chained_empty actions

/-- The older jobs of a request ended. -/
def Ready (chains : OutboundChains) (ref : Nat) (job : ChainedJob) : Prop :=
  ∀ other older, chains.jobs.get other = some older → older.requestId = job.requestId →
    other < ref → older.phase = .finished

theorem Chained.starts (chained : Chained chains)
    (present : chains.jobs.get ref = some job) (waiting : job.phase = .waiting)
    (ready : chains.Ready ref job) (nowMs : Nat) :
    chains.startJob ref nowMs = chains.begin ref job nowMs := by
  have settled := chained.sequenced.settled_of_ready present ready
  simp only [OutboundChains.startJob, present, waiting, settled, and_self, if_true]
  rfl

theorem Chained.started_of_ready (chained : Chained chains)
    (present : chains.jobs.get ref = some job) (ready : chains.Ready ref job) (nowMs : Nat) :
    ∃ after, (chains.startJob ref nowMs).jobs.get ref = some after ∧ after.phase ≠ .waiting := by
  by_cases waiting : job.phase = .waiting
  · rw [chained.starts present waiting ready nowMs]
    exact ⟨_, get_set_self _ _ _, by simp⟩
  · refine ⟨job, ?_, waiting⟩
    simp only [OutboundChains.startJob, present, waiting, false_and, if_false]

theorem finished_of_started (env : Env)
    (present : chains.jobs.get ref = some job) (started : job.phase ≠ .waiting) (failed : Bool)
    (duration nowMs : Nat) :
    ∃ after, (chains.finishJob env ref failed duration nowMs).jobs.get ref = some after ∧
      after.phase = .finished := by
  by_cases running : job.phase = .running
  · simp only [OutboundChains.finishJob, present, running, if_true]
    exact ⟨_, get_set_self _ _ _, rfl⟩
  · refine ⟨job, ?_, ?_⟩
    · simp only [OutboundChains.finishJob, present, running, if_false]
    · cases phase : job.phase with
      | waiting => exact absurd phase started
      | running => exact absurd phase running
      | finished => rfl

theorem jobs_startJob_of_ne {other : Nat} (differs : other ≠ ref) (nowMs : Nat) :
    (chains.startJob ref nowMs).jobs.get other = chains.jobs.get other := by
  unfold OutboundChains.startJob
  split
  · rfl
  · split
    · exact get_set_of_ne _ _ differs
    · rfl

theorem jobs_finishJob_of_ne (env : Env) {ref other : Nat} (differs : other ≠ ref) (failed : Bool)
    (duration nowMs : Nat) :
    (chains.finishJob env ref failed duration nowMs).jobs.get other = chains.jobs.get other := by
  unfold OutboundChains.finishJob
  split
  · rfl
  · split
    · exact get_set_of_ne _ _ differs
    · rfl

/-- The callbacks of the first jobs run and their work ends, with given outcomes. -/
def drain (failed : Nat → Bool) (duration nowMs : Nat → Nat) (count : Nat) : List Action :=
  (List.range count).flatMap fun ref =>
    [.start ref (nowMs ref), .finish ref (failed ref) (duration ref) (nowMs ref)]

theorem nextJob_drain (env : Env) (failed : Nat → Bool) (duration nowMs : Nat → Nat) (count : Nat) :
    (run (OutboundChains.step env) chains (drain failed duration nowMs count)).nextJob =
      chains.nextJob := by
  have starts : ∀ (state : OutboundChains) (ref now : Nat),
      (state.startJob ref now).nextJob = state.nextJob := by
    intro state ref now
    unfold OutboundChains.startJob
    split
    · rfl
    · split <;> rfl
  have ends : ∀ (state : OutboundChains) (ref : Nat) (failed : Bool) (duration now : Nat),
      (state.finishJob env ref failed duration now).nextJob = state.nextJob := by
    intro state ref failed duration now
    unfold OutboundChains.finishJob
    split
    · rfl
    · split <;> rfl
  induction count with
  | zero => rfl
  | succ count ih =>
    rw [drain, List.range_succ, List.flatMap_append, run_append]
    exact (ends _ _ _ _ _).trans ((starts _ _ _).trans ih)

theorem Chained.drained (chained : Chained chains) (env : Env) (failed : Nat → Bool)
    (duration nowMs : Nat → Nat) (count : Nat) (ref : Nat) (job : ChainedJob) (below : ref < count)
    (present : (run (OutboundChains.step env) chains
      (drain failed duration nowMs count)).jobs.get ref = some job) :
    job.phase = .finished := by
  induction count generalizing ref job with
  | zero => exact absurd below (Nat.not_lt_zero ref)
  | succ count ih =>
    rw [drain, List.range_succ, List.flatMap_append, run_append] at present
    rw [show (List.range count).flatMap _ = drain failed duration nowMs count from rfl] at present
    generalize reached : run (OutboundChains.step env) chains
      (drain failed duration nowMs count) = before at present ih
    have kept : Chained before := by
      rw [← reached]
      exact run_invariant _ (fun _ action holds => holds.step env action) chained _
    simp only [List.flatMap_cons, List.flatMap_nil, List.append_nil, run_cons, run_nil] at present
    change ((before.startJob count (nowMs count)).finishJob env count (failed count)
      (duration count) (nowMs count)).jobs.get ref = some job at present
    by_cases same : ref = count
    · subst same
      cases found : before.jobs.get ref with
      | none =>
        have untouched : before.startJob ref (nowMs ref) = before := by
          simp only [OutboundChains.startJob, found]
        simp only [untouched, OutboundChains.finishJob, found, reduceCtorEq] at present
      | some earlier =>
        have ready : before.Ready ref earlier := fun other older stored _ less =>
          ih other older less stored
        obtain ⟨after, begun, started⟩ := kept.started_of_ready found ready (nowMs ref)
        obtain ⟨last, ended, finished⟩ := finished_of_started env begun started (failed ref)
          (duration ref) (nowMs ref)
        rw [present] at ended
        cases ended
        exact finished
    · rw [jobs_finishJob_of_ne env same, jobs_startJob_of_ne same] at present
      exact ih ref job (by omega) present

/-- The jobs of a request run in the order in which they were accepted, one at a time and each
once, and none is kept from running by the outcome of another. -/
theorem outbound_jobs_run_in_order (env : Env) (actions : List Action) :
    let chains := run (OutboundChains.step env) {} actions
    chains.jobs.keys = List.range chains.nextJob ∧
    (chains.started.Pairwise fun later earlier => later.1 = earlier.1 → earlier.2 < later.2) ∧
    (∀ ref job, chains.jobs.get ref = some job →
      chains.started.count (job.requestId, ref) = if job.phase = .waiting then 0 else 1) ∧
    (∀ ref job, chains.jobs.get ref = some job → job.phase ≠ .waiting → chains.Ready ref job) ∧
    (∀ ref job, chains.jobs.get ref = some job → job.phase = .waiting → chains.Ready ref job →
      ∀ nowMs, ∃ after, (chains.step env (.start ref nowMs)).jobs.get ref = some after ∧
        after.phase = .running) ∧
    (∀ failed duration nowMs ref job,
      (run (OutboundChains.step env) chains
        (drain failed duration nowMs chains.nextJob)).jobs.get ref = some job →
      job.phase = .finished) := by
  intro chains
  have chained : Chained chains := chained_run env actions
  refine ⟨chained.numbered, chained.inOrder, ?_, ?_, ?_, ?_⟩
  · intro ref job present
    have once : chains.started.Nodup := chained.inOrder.imp fun {later earlier} below same => by
      have less := below (by rw [same])
      rw [same] at less
      exact Nat.lt_irrefl _ less
    split
    · next waiting =>
      refine List.count_eq_zero_of_not_mem fun member => ?_
      obtain ⟨found, stored, -, started⟩ := (chained.logged _ _).mp member
      rw [present] at stored
      cases stored
      exact started waiting
    · next started =>
      have member : (job.requestId, ref) ∈ chains.started :=
        (chained.logged _ _).mpr ⟨job, present, rfl, started⟩
      exact List.count_eq_one_of_mem once member
  · exact fun ref job present started => chained.sequenced.ordered ref job present started
  · intro ref job present waiting ready nowMs
    show ∃ after, (chains.startJob ref nowMs).jobs.get ref = some after ∧ _
    rw [chained.starts present waiting ready nowMs]
    exact ⟨_, get_set_self _ _ _, rfl⟩
  · intro failed duration nowMs ref job present
    have kept : Chained (run (OutboundChains.step env) chains
        (drain failed duration nowMs chains.nextJob)) :=
      run_invariant _ (fun _ action holds => holds.step env action) chained _
    have below := kept.lt_nextJob present
    rw [nextJob_drain] at below
    exact chained.drained env failed duration nowMs chains.nextJob ref job below present

end OutboundChains

end PlugHub.Relay
