import PlugHub.Scheduling.ConsumerPreparations

/-!
# Accounts of the preparations

What the coordinator of the preparations keeps at every point of a step: the lanes and their owners,
the counters, one place for every call, the order of a lane, and the sockets that are ready. One
lemma for each part of a step, and the loop of `pump`, which leaves nothing that may be started.
-/

namespace PlugHub.Scheduling

open Library
open OrderedMap (get_erase get_erase_of_ne get_set_cases get_set_of_ne get_set_self)

namespace ConsumerPreparations

variable {T E : Type} (hub : ConsumerPreparations T E)

/-! ## The invariant -/

/-- The sum of a weight over the preparations that wait. -/
def queued (weight : QueuedPreparation → Nat) : Nat :=
  hub.lanes.total fun state => (state.queue.items.map weight).sum

/-- How often a call waits. -/
def queuedTimes (call : Nat) : Nat := hub.queued fun job => if job.call = call then 1 else 0

/-- The promise of a call has settled. -/
def Settled (call : Nat) : Prop := 0 < hub.settled.countP (·.call = call)

/-- What holds of one lane. -/
structure LaneSound (lane : Nat) (state : SocketPreparations) : Prop where
  below : lane < hub.nextLane
  /-- A lane that no socket has is empty. -/
  dropped : (∀ socketId, hub.sockets.get socketId ≠ some lane) → state.queue.items = []
  active : state.active = hub.running.countP (·.lane = lane)
  limit : 0 < hub.limits.perSocket → (state.active : Int) ≤ hub.limits.perSocket
  queuedBelow : ∀ job ∈ state.queue.items, job.call < hub.nextCall
  /-- The preparations of a lane are started in the order of their calls. -/
  ordered : ((hub.started.filter (·.lane = lane)).map (·.call) ++
    state.queue.items.map (·.call)).Pairwise (· < ·)

/-- What holds of the lanes, the counters and the calls at every point of a step, in which one call
may have ended without its promise having settled. -/
structure Sound (ending : Option Nat) : Prop where
  lanes : ∀ lane state, hub.lanes.get lane = some state → hub.LaneSound lane state
  /-- The lane of a socket was made and is not cancelled. -/
  lane : ∀ socketId lane, hub.sockets.get socketId = some lane →
    ∃ state, hub.lanes.get lane = some state ∧ state.cancelled = false
  own : ∀ first second lane, hub.sockets.get first = some lane →
    hub.sockets.get second = some lane → first = second
  /-- A preparation at work has a lane, which no other socket has. -/
  works : ∀ job ∈ hub.running, (∃ state, hub.lanes.get job.lane = some state) ∧
    ∀ socketId, hub.sockets.get socketId = some job.lane → socketId = job.socketId
  active : hub.active = hub.running.length
  limit : 0 < hub.limits.perHub → (hub.active : Int) ≤ hub.limits.perHub
  waiting : hub.waiting = hub.queued fun _ => 1
  waitingBytes : hub.waitingBytes = hub.queued (·.bytes)
  /-- A call that came has one place, the others have none. -/
  placed : ∀ call, hub.queuedTimes call + hub.running.countP (·.call = call) +
    hub.settled.countP (·.call = call) + (if ending = some call then 1 else 0) =
      if call < hub.nextCall then 1 else 0
  /-- Preparations that were started came before the calls to come, to a lane that was made. -/
  startedBelow : ∀ job ∈ hub.started, job.call < hub.nextCall ∧ job.lane < hub.nextLane
  closed : hub.closed = true → ∀ socketId, hub.sockets.get socketId = none
  waits : hub.idleWaiters ≠ [] → hub.closed = true
  woken : hub.released ≠ [] → hub.closed = true ∧ hub.active = 0
  closes : ∀ count ∈ hub.closes, count = 0
  once : (hub.started.map (·.call)).Nodup
  /-- The preparations at work are those that were started and whose calls have not settled. -/
  unfinished : ∀ job, job ∈ hub.running ↔
    job ∈ hub.started ∧ ¬ hub.Settled job.call ∧ ending ≠ some job.call

/-- A socket may start a preparation. -/
def Eligible (socketId : String) : Prop :=
  ∃ lane state, hub.sockets.get socketId = some lane ∧ hub.lanes.get lane = some state ∧
    state.queue.items ≠ [] ∧ hub.LaneRoom state

/-- The sockets that are ready are those that may start a preparation. -/
structure Ready : Prop where
  distinct : hub.ready.Nodup
  exact : ∀ socketId, socketId ∈ hub.ready ↔ hub.Eligible socketId

/-- That holds of all sockets but one, which is ready only if it may start a preparation. -/
structure ReadyBut (socketId : String) : Prop where
  distinct : hub.ready.Nodup
  others : ∀ other, other ≠ socketId → (other ∈ hub.ready ↔ hub.Eligible other)
  self : socketId ∈ hub.ready → hub.Eligible socketId

/-- The loop of `pump` is over. -/
def Pumped : Prop := hub.closed = true ∨ hub.ready = [] ∨ ¬ hub.HubRoom

variable {hub} {ending : Option Nat}

variable (limits : PreparationLimits)

theorem sound_initial :
    ({ limits } : ConsumerPreparations T E).Sound none where
  lanes _ _ := nofun
  lane _ _ := nofun
  own _ _ _ := nofun
  works := nofun
  active := rfl
  limit positive := by
    have zero : ((0 : Nat) : Int) = 0 := rfl
    rw [zero]
    exact Int.le_of_lt positive
  waiting := rfl
  waitingBytes := rfl
  placed _ := by simp [queuedTimes, queued]
  startedBelow := nofun
  closed := nofun
  waits waiters := absurd rfl waiters
  woken released := absurd rfl released
  closes := nofun
  once := List.nodup_nil
  unfinished _ := ⟨nofun, fun known => nomatch known.1⟩

theorem ready_initial :
    ({ limits } : ConsumerPreparations T E).Ready where
  distinct := List.nodup_nil
  exact _ := ⟨nofun, fun ⟨_, _, found, _⟩ => nomatch found⟩

theorem get_changeLane (lane other : Nat) (change : SocketPreparations → SocketPreparations) :
    (hub.changeLane lane change).lanes.get other =
      if other = lane then (hub.lanes.get lane).map change else hub.lanes.get other :=
  OrderedMap.get_modify hub.lanes lane other change

variable {state : SocketPreparations}

variable {change : SocketPreparations → SocketPreparations}

theorem before_changeLane {lane other : Nat}
    (found : (hub.changeLane lane change).lanes.get other = some state) :
    ∃ before, hub.lanes.get other = some before ∧
      (other = lane ∧ state = change before ∨ other ≠ lane ∧ state = before) := by
  rw [get_changeLane] at found
  split at found
  · next same =>
    obtain ⟨before, there, changed⟩ := Option.map_eq_some_iff.mp found
    exact ⟨before, same ▸ there, Or.inl ⟨same, changed.symm⟩⟩
  · next differs => exact ⟨state, found, Or.inr ⟨differs, rfl⟩⟩

theorem after_changeLane (lane : Nat) {other : Nat}
    (change : SocketPreparations → SocketPreparations) (found : hub.lanes.get other = some state) :
    ∃ after, (hub.changeLane lane change).lanes.get other = some after ∧
      (other = lane ∧ after = change state ∨ other ≠ lane ∧ after = state) := by
  rw [get_changeLane]
  split
  · next same =>
    subst same
    exact ⟨change state, by rw [found]; rfl, Or.inl ⟨rfl, rfl⟩⟩
  · next differs => exact ⟨state, found, Or.inr ⟨differs, rfl⟩⟩

variable {lane : Nat}

theorem queued_changeLane
    (found : hub.lanes.get lane = some state) (change : SocketPreparations → SocketPreparations)
    (weight : QueuedPreparation → Nat) :
    (hub.changeLane lane change).queued weight + (state.queue.items.map weight).sum =
      hub.queued weight + ((change state).queue.items.map weight).sum :=
  hub.lanes.total_modify_of_present change _ found

variable {next : ConsumerPreparations T E}

/-- What holds of a lane goes on to hold when nothing of the lane changes. -/
theorem LaneSound.keep (sound : hub.LaneSound lane state)
    (limits : next.limits = hub.limits) (lanes : hub.nextLane ≤ next.nextLane)
    (calls : hub.nextCall ≤ next.nextCall)
    (owned : ∀ socketId, hub.sockets.get socketId = some lane →
      next.sockets.get socketId = some lane)
    (running : next.running.countP (·.lane = lane) = hub.running.countP (·.lane = lane))
    (started : next.started.filter (·.lane = lane) = hub.started.filter (·.lane = lane)) :
    next.LaneSound lane state where
  below := Nat.lt_of_lt_of_le sound.below lanes
  dropped unowned := sound.dropped fun socketId has => unowned socketId (owned socketId has)
  active := sound.active.trans running.symm
  limit := limits ▸ sound.limit
  queuedBelow job member := Nat.lt_of_lt_of_le (sound.queuedBelow job member) calls
  ordered := started ▸ sound.ordered

/-- A property of all lanes is shown of the lane that changes and of the others. -/
theorem lanes_changeLane {P : Nat → SocketPreparations → Prop}
    (found : hub.lanes.get lane = some state) (here : P lane (change state))
    (elsewhere : ∀ other after, other ≠ lane → hub.lanes.get other = some after → P other after) :
    ∀ other after, (hub.changeLane lane change).lanes.get other = some after → P other after := by
  intro other after stored
  obtain ⟨before, there, ⟨rfl, rfl⟩ | ⟨differs, rfl⟩⟩ := before_changeLane stored
  · obtain rfl : before = state := Option.some.inj (there.symm.trans found)
    exact here
  · exact elsewhere other after differs there

/-- A change that does not cancel a lane keeps the lanes of the sockets. -/
theorem Sound.lane_changeLane (sound : hub.Sound ending) (lane : Nat)
    (same : ∀ state, (change state).cancelled = state.cancelled) :
    ∀ socketId owned, hub.sockets.get socketId = some owned →
      ∃ after, (hub.changeLane lane change).lanes.get owned = some after ∧
        after.cancelled = false := by
  intro socketId owned has
  obtain ⟨state, found, running⟩ := sound.lane socketId owned has
  obtain ⟨after, stored, ⟨-, rfl⟩ | ⟨-, rfl⟩⟩ := after_changeLane lane change found
  · exact ⟨_, stored, (same state).trans running⟩
  · exact ⟨_, stored, running⟩

/-- The preparations at work keep their lanes. -/
theorem Sound.works_changeLane (sound : hub.Sound ending) (lane : Nat)
    (change : SocketPreparations → SocketPreparations) {job : StartedPreparation}
    (member : job ∈ hub.running) :
    (∃ state, (hub.changeLane lane change).lanes.get job.lane = some state) ∧
      ∀ socketId, hub.sockets.get socketId = some job.lane → socketId = job.socketId := by
  obtain ⟨⟨state, found⟩, mine⟩ := sound.works job member
  obtain ⟨after, stored, -⟩ := after_changeLane lane change found
  exact ⟨⟨after, stored⟩, mine⟩

/-! ## Marking a socket as ready -/

theorem markReady_eq (hub : ConsumerPreparations T E) (socketId : String) (lane : Nat) :
    ∃ ready, hub.markReady socketId lane = { hub with ready } := by
  unfold markReady
  split
  · exact ⟨hub.ready, rfl⟩
  · split_ifs
    · exact ⟨hub.ready, rfl⟩
    · exact ⟨_, rfl⟩
    · exact ⟨hub.ready, rfl⟩

theorem Sound.withReady (sound : hub.Sound ending) (ready : List String) :
    ({ hub with ready }).Sound ending :=
  { sound with lanes := fun lane state found => { sound.lanes lane state found with } }

theorem Sound.markReady (sound : hub.Sound ending) (socketId : String) (lane : Nat) :
    (hub.markReady socketId lane).Sound ending := by
  obtain ⟨ready, equal⟩ := markReady_eq hub socketId lane
  rw [equal]
  exact sound.withReady ready

theorem eligible_withReady (ready : List String) (socketId : String) :
    ({ hub with ready } : ConsumerPreparations T E).Eligible socketId ↔ hub.Eligible socketId :=
  Iff.rfl

variable {socketId : String}

/-- Marking the one socket that may be missing makes the ready sockets exact. -/
theorem ReadyBut.markReady
    (but : hub.ReadyBut socketId) (has : hub.sockets.get socketId = some lane)
    (found : hub.lanes.get lane = some state) (there : state.cancelled = false) :
    (hub.markReady socketId lane).Ready := by
  have eligible : hub.Eligible socketId ↔ state.queue.items ≠ [] ∧ hub.LaneRoom state := by
    constructor
    · rintro ⟨other, mine, owned, stored, waits, room⟩
      obtain rfl : other = lane := Option.some.inj (owned.symm.trans has)
      obtain rfl : mine = state := Option.some.inj (stored.symm.trans found)
      exact ⟨waits, room⟩
    · exact fun may => ⟨lane, state, has, found, may⟩
  have nonempty : state.queue.isEmpty = false ↔ state.queue.items ≠ [] := by
    rw [← Bool.not_eq_true, HeadQueue.isEmpty_iff]
  have condition : (state.cancelled = false ∧ state.queue.isEmpty = false ∧ hub.LaneRoom state) ↔
      hub.Eligible socketId := by
    rw [eligible, nonempty]
    exact and_iff_right there
  unfold ConsumerPreparations.markReady
  rw [found]
  simp only
  split_ifs with may listed
  · refine ⟨but.distinct, fun other => ?_⟩
    rw [eligible_withReady]
    by_cases same : other = socketId
    · rw [same]
      exact ⟨fun _ => condition.mp may, fun _ => listed⟩
    · exact but.others other same
  · refine ⟨?_, fun other => ?_⟩
    · refine List.nodup_append.mpr ⟨but.distinct, List.nodup_singleton _, ?_⟩
      rintro first member second last rfl
      rw [List.mem_singleton.mp last] at member
      exact listed member
    · rw [eligible_withReady, List.mem_append, List.mem_singleton]
      by_cases same : other = socketId
      · rw [same]
        exact ⟨fun _ => condition.mp may, fun _ => Or.inr rfl⟩
      · rw [← but.others other same]
        exact or_iff_left same
  · refine ⟨but.distinct, fun other => ?_⟩
    by_cases same : other = socketId
    · rw [same]
      exact ⟨but.self, fun able => absurd (condition.mpr able) may⟩
    · exact but.others other same

theorem eligible_changeLane (hub : ConsumerPreparations T E)
    (change : SocketPreparations → SocketPreparations)
    (other : hub.sockets.get socketId ≠ some lane) :
    (hub.changeLane lane change).Eligible socketId ↔ hub.Eligible socketId := by
  constructor
  · rintro ⟨owned, state, has, found, may⟩
    obtain ⟨before, there, ⟨rfl, -⟩ | ⟨-, rfl⟩⟩ := before_changeLane found
    · exact absurd has other
    · exact ⟨owned, state, has, there, may⟩
  · rintro ⟨owned, state, has, found, may⟩
    obtain ⟨after, there, ⟨rfl, -⟩ | ⟨-, rfl⟩⟩ := after_changeLane lane change found
    · exact absurd has other
    · exact ⟨owned, after, has, there, may⟩

/-! ## The loop of `pump` -/

theorem pumpTurn_spec (turn : hub.pumpTurn = some next) :
    hub.closed = false ∧ hub.HubRoom ∧ ∃ socketId rest lane state job queue,
      hub.ready = socketId :: rest ∧ hub.sockets.get socketId = some lane ∧
      hub.lanes.get lane = some state ∧ state.queue.pop compactFrom = some (job, queue) ∧
      next =
        (({ hub with ready := rest }).start socketId lane job queue).markReady socketId lane := by
  unfold pumpTurn at turn
  split_ifs at turn with isOver
  obtain ⟨opened, room⟩ := not_or.mp isOver
  refine ⟨Bool.eq_false_of_not_eq_true opened, not_not.mp room, ?_⟩
  split at turn
  · cases turn
  · next socketId rest ready =>
    obtain ⟨lane, has, turn⟩ := Option.bind_eq_some_iff.mp turn
    obtain ⟨state, found, turn⟩ := Option.bind_eq_some_iff.mp turn
    obtain ⟨⟨job, queue⟩, taken, turn⟩ := Option.bind_eq_some_iff.mp turn
    exact ⟨socketId, rest, lane, state, job, queue, ready, has, found, taken,
      (Option.some.inj turn).symm⟩

theorem Sound.queued_unstarted (sound : hub.Sound ending)
    (found : hub.lanes.get lane = some state) {job : QueuedPreparation}
    (waits : job ∈ state.queue.items) :
    (∀ begun ∈ hub.started, begun.call ≠ job.call) ∧ ¬ hub.Settled job.call ∧
      ending ≠ some job.call := by
  have placed := sound.placed job.call
  have waiting : 0 < hub.queuedTimes job.call := by
    have part := hub.lanes.le_total
      (fun state => (state.queue.items.map fun other => if other.call = job.call then 1 else 0).sum)
      found
    have one : 0 < (state.queue.items.map fun other =>
        if other.call = job.call then 1 else 0).sum :=
      List.sum_pos_iff_exists_pos_nat.mpr
        ⟨_, List.mem_map_of_mem waits, by simp only [if_true, Nat.zero_lt_one]⟩
    exact Nat.lt_of_lt_of_le one part
  rw [if_pos ((sound.lanes lane state found).queuedBelow job waits)] at placed
  have unsettled : ¬ hub.Settled job.call := by
    unfold Settled
    omega
  have here : ending ≠ some job.call := by
    intro ends
    rw [if_pos ends] at placed
    omega
  refine ⟨fun begun known same => ?_, unsettled, here⟩
  have running := (sound.unfinished begun).mpr ⟨known, same ▸ unsettled, same ▸ here⟩
  have working : 0 < hub.running.countP (·.call = job.call) :=
    List.countP_pos_iff.mpr ⟨begun, running, by simpa using same⟩
  omega

/-- What holds of a lane whose first preparation is started. -/
theorem LaneSound.start (sound : hub.LaneSound lane state) {job : QueuedPreparation}
    {queue : HeadQueue QueuedPreparation} (has : hub.sockets.get socketId = some lane)
    (laneRoom : hub.LaneRoom state) (items : state.queue.items = job :: queue.items) :
    (hub.start socketId lane job queue).LaneSound lane
      { state with queue, active := state.active + 1 } where
  below := sound.below
  dropped unowned := absurd has (unowned socketId)
  active := by
    simp only [ConsumerPreparations.start, sound.active, List.countP_append, List.countP_singleton,
      decide_true, if_true]
  limit positive := by
    have positive : 0 < hub.limits.perSocket := positive
    show ((state.active + 1 : Nat) : Int) ≤ hub.limits.perSocket
    unfold LaneRoom at laneRoom
    omega
  queuedBelow waits member := sound.queuedBelow waits (items ▸ List.mem_cons_of_mem _ member)
  ordered := by
    have ordered := sound.ordered
    rw [items, List.map_cons] at ordered
    simpa [ConsumerPreparations.start] using ordered

/-- A preparation that waits in a lane with room is started. -/
theorem Sound.start (sound : hub.Sound ending) (opened : hub.closed = false) (hubRoom : hub.HubRoom)
    {job : QueuedPreparation} {queue : HeadQueue QueuedPreparation}
    (has : hub.sockets.get socketId = some lane)
    (found : hub.lanes.get lane = some state) (laneRoom : hub.LaneRoom state)
    (items : state.queue.items = job :: queue.items) :
    (hub.start socketId lane job queue).Sound ending := by
  let change (state : SocketPreparations) : SocketPreparations :=
    { state with queue, active := state.active + 1 }
  have mine := sound.lanes lane state found
  have first : job ∈ state.queue.items := items ▸ List.mem_cons_self
  have counted (weight : QueuedPreparation → Nat) :
      (hub.changeLane lane change).queued weight + weight job = hub.queued weight := by
    have changed : (hub.changeLane lane change).queued weight +
        (state.queue.items.map weight).sum = hub.queued weight + (queue.items.map weight).sum :=
      queued_changeLane found change weight
    rw [items, List.map_cons, List.sum_cons] at changed
    omega
  obtain ⟨idle, unsettled, here⟩ := sound.queued_unstarted found first
  refine { sound with
    lanes := lanes_changeLane found (mine.start has laneRoom items) fun other after differs there =>
      (sound.lanes other after there).keep rfl (Nat.le_refl _) (Nat.le_refl _) (fun _ owns => owns)
        ?_ ?_
    lane := sound.lane_changeLane lane fun _ => rfl
    works := fun begun member => ?_
    active := ?_
    limit := fun positive => ?_
    waiting := ?_
    waitingBytes := ?_
    placed := fun call => ?_
    startedBelow := fun begun member => ?_
    woken := fun released => ?_
    once := ?_
    unfinished := fun begun => ?_ }
  · simp [ConsumerPreparations.start, List.countP_append, Ne.symm differs]
  · simp [ConsumerPreparations.start, Ne.symm differs]
  · rcases List.mem_append.mp member with earlier | last
    · exact sound.works_changeLane lane change earlier
    · rw [List.mem_singleton.mp last]
      obtain ⟨after, stored, -⟩ := after_changeLane lane change found
      exact ⟨⟨after, stored⟩, fun other mine => sound.own other socketId lane mine has⟩
  · simp only [ConsumerPreparations.start, List.length_append, List.length_singleton]
    rw [sound.active]
  · have positive : 0 < hub.limits.perHub := positive
    show ((hub.active + 1 : Nat) : Int) ≤ hub.limits.perHub
    unfold HubRoom at hubRoom
    omega
  · have one := counted fun _ => 1
    have waiting := sound.waiting
    show hub.waiting - 1 = (hub.changeLane lane change).queued _
    omega
  · have bytes := counted (·.bytes)
    have waiting := sound.waitingBytes
    show hub.waitingBytes - job.bytes = (hub.changeLane lane change).queued _
    omega
  · have times := counted fun job => if job.call = call then 1 else 0
    have placed := sound.placed call
    have count : (hub.start socketId lane job queue).running.countP (·.call = call) =
        hub.running.countP (·.call = call) + if job.call = call then 1 else 0 := by
      simp only [ConsumerPreparations.start]
      rw [List.countP_append, List.countP_singleton]
      simp
    rw [count]
    show (hub.changeLane lane change).queued _ + _ +
      hub.settled.countP (·.call = call) + (if ending = some call then 1 else 0) =
        if call < hub.nextCall then 1 else 0
    unfold queuedTimes at placed
    omega
  · exact forall_mem_concat sound.startedBelow ⟨mine.queuedBelow job first, mine.below⟩ begun member
  · have isOver := (sound.woken released).1
    rw [opened] at isOver
    cases isOver
  · simp only [ConsumerPreparations.start, List.map_append, List.map_cons, List.map_nil]
    refine List.nodup_append.mpr ⟨sound.once, List.nodup_singleton _, ?_⟩
    rintro call begun other last rfl
    obtain ⟨earlier, known, same⟩ := List.mem_map.mp begun
    exact idle earlier known (same.trans (List.mem_singleton.mp last))
  · show begun ∈ hub.running ++ [_] ↔ begun ∈ hub.started ++ [_] ∧ _
    rw [List.mem_append, List.mem_append, sound.unfinished, or_and_right]
    refine or_congr Iff.rfl (Iff.symm (and_iff_left_of_imp fun last => ?_))
    rw [List.mem_singleton.mp last]
    exact ⟨unsettled, here⟩

theorem Sound.pumpTurn (sound : hub.Sound ending) (ready : hub.Ready)
    (turn : hub.pumpTurn = some next) :
    next.Sound ending ∧ next.Ready ∧ next.waiting + 1 = hub.waiting := by
  obtain ⟨opened, room, socketId, rest, lane, state, job, queue, listed, has, found, taken, rfl⟩ :=
    pumpTurn_spec turn
  have items := HeadQueue.pop_spec taken
  have distinct : (socketId :: rest).Nodup := listed ▸ ready.distinct
  have first : socketId ∈ hub.ready := by
    rw [listed]
    exact List.mem_cons_self
  have laneRoom : hub.LaneRoom state := by
    obtain ⟨other, mine, owned, stored, -, may⟩ := (ready.exact socketId).mp first
    obtain rfl : other = lane := Option.some.inj (owned.symm.trans has)
    obtain rfl : mine = state := Option.some.inj (stored.symm.trans found)
    exact may
  have started := (sound.withReady rest).start opened room has found laneRoom items
  obtain ⟨stored, there, running⟩ := started.lane socketId lane has
  refine ⟨started.markReady socketId lane, ReadyBut.markReady ?_ has there running, ?_⟩
  · refine ⟨(List.nodup_cons.mp distinct).2, fun other differs => ?_,
      fun again => absurd again (List.nodup_cons.mp distinct).1⟩
    have elsewhere : hub.sockets.get other ≠ some lane :=
      fun same => differs (sound.own other socketId lane same has)
    have same : ((({ hub with ready := rest }).start socketId lane job queue).Eligible other ↔
        hub.Eligible other) :=
      eligible_changeLane hub
        (fun state => { state with queue, active := state.active + 1 }) elsewhere
    rw [same, ← ready.exact other, listed]
    exact ⟨List.mem_cons_of_mem _, fun member => (List.mem_cons.mp member).resolve_left differs⟩
  · obtain ⟨ready, equal⟩ := markReady_eq
      (({ hub with ready := rest }).start socketId lane job queue) socketId lane
    rw [equal]
    have waits : 0 < hub.waiting := by
      have part := hub.lanes.le_total (fun state => (state.queue.items.map fun _ => 1).sum) found
      rw [sound.waiting]
      simp only [items, List.map_cons, List.sum_cons] at part
      unfold queued
      omega
    exact Nat.sub_add_cancel waits

theorem Ready.pumped_of_turn (ready : hub.Ready) (isOver : hub.pumpTurn = none) : hub.Pumped := by
  unfold ConsumerPreparations.pumpTurn at isOver
  split_ifs at isOver with stopped
  · exact stopped.imp_right Or.inr
  · refine Or.inr (Or.inl ?_)
    split at isOver
    · next empty => exact empty
    · next socketId rest listed =>
      obtain ⟨lane, state, has, found, waits, -⟩ := (ready.exact socketId).mp (by
        rw [listed]
        exact List.mem_cons_self)
      obtain ⟨⟨job, queue⟩, taken⟩ :=
        Option.isSome_iff_exists.mp (HeadQueue.pop_isSome compactFrom waits)
      simp only [has, found, taken, Option.bind_eq_bind, Option.bind_some, reduceCtorEq] at isOver

theorem Sound.pumped_of_idle (sound : hub.Sound ending) (ready : hub.Ready)
    (idle : hub.waiting = 0) :
    hub.Pumped := by
  refine ready.pumped_of_turn ?_
  cases turn : hub.pumpTurn with
  | none => rfl
  | some next =>
    have less := (sound.pumpTurn ready turn).2.2
    omega

theorem Sound.pumpTurns (turns : Nat) (sound : hub.Sound ending) (ready : hub.Ready)
    (enough : hub.waiting ≤ turns) :
    (pumpTurns turns hub).Sound ending ∧ (pumpTurns turns hub).Ready ∧
      (pumpTurns turns hub).Pumped := by
  induction turns generalizing hub with
  | zero => exact ⟨sound, ready, sound.pumped_of_idle ready (Nat.le_zero.mp enough)⟩
  | succ turns ih =>
    rw [ConsumerPreparations.pumpTurns]
    cases turn : hub.pumpTurn with
    | none => exact ⟨sound, ready, ready.pumped_of_turn turn⟩
    | some next =>
      obtain ⟨kept, exact, less⟩ := sound.pumpTurn ready turn
      exact ih kept exact (by omega)

theorem Sound.pump (sound : hub.Sound ending) (ready : hub.Ready) :
    hub.pump.Sound ending ∧ hub.pump.Ready ∧ hub.pump.Pumped :=
  sound.pumpTurns hub.waiting ready (Nat.le_refl _)

/-! ## A call -/

/-- A socket that has no lane gets one. -/
theorem Sound.laneFor (sound : hub.Sound ending) (opened : hub.closed = false) (socketId : String) :
    (hub.laneFor socketId).1.Sound ending := by
  unfold ConsumerPreparations.laneFor
  split
  · exact sound
  · next missing =>
    have absent : hub.lanes.get hub.nextLane = none := by
      cases stored : hub.lanes.get hub.nextLane with
      | none => rfl
      | some state => exact absurd (sound.lanes _ _ stored).below (Nat.lt_irrefl _)
    have fresh : hub.running.countP (·.lane = hub.nextLane) = 0 := by
      refine List.countP_eq_zero.mpr fun job member => ?_
      obtain ⟨⟨state, stored⟩, -⟩ := sound.works job member
      have below := (sound.lanes _ _ stored).below
      simp only [decide_eq_true_eq]
      omega
    have unused : hub.started.filter (·.lane = hub.nextLane) = [] := by
      refine List.filter_eq_nil_iff.mpr fun job member => ?_
      have below := (sound.startedBelow job member).2
      simp only [decide_eq_true_eq]
      omega
    have after {lane : Nat} {state : SocketPreparations}
        (stored : hub.lanes.get lane = some state) :
        (hub.lanes.set hub.nextLane {}).get lane = some state := by
      have differs : lane ≠ hub.nextLane := Nat.ne_of_lt (sound.lanes _ _ stored).below
      rw [get_set_of_ne _ _ differs]
      exact stored
    have mine {other : String} {lane : Nat}
        (has : (hub.sockets.set socketId hub.nextLane).get other = some lane) :
        other = socketId ∧ lane = hub.nextLane ∨
          hub.sockets.get other = some lane ∧ lane ≠ hub.nextLane := by
      rcases get_set_cases has with ⟨rfl, rfl⟩ | ⟨-, there⟩
      · exact Or.inl ⟨rfl, rfl⟩
      · obtain ⟨state, stored, -⟩ := sound.lane other lane there
        exact Or.inr ⟨there, Nat.ne_of_lt (sound.lanes _ _ stored).below⟩
    have same (weight : QueuedPreparation → Nat) :
        ({ hub with
          lanes := hub.lanes.set hub.nextLane {}
          nextLane := hub.nextLane + 1
          sockets := hub.sockets.set socketId hub.nextLane } :
            ConsumerPreparations T E).queued weight = hub.queued weight :=
      hub.lanes.total_set_of_absent {} _ absent
    refine { sound with
      lanes := fun lane state stored => ?_
      lane := fun other lane has => ?_
      own := fun first second lane has also => ?_
      works := fun job member => ?_
      waiting := ?_
      waitingBytes := ?_
      placed := fun call => ?_
      startedBelow := fun job member => ?_
      closed := fun isOver => ?_ }
    · rcases get_set_cases stored with ⟨rfl, rfl⟩ | ⟨differs, there⟩
      · exact
          { below := Nat.lt_succ_self _
            dropped := fun _ => rfl
            active := fresh.symm
            limit := Int.le_of_lt
            queuedBelow := nofun
            ordered := by
              simp only [unused, List.map_nil, List.nil_append]
              exact List.Pairwise.nil }
      · refine (sound.lanes lane state there).keep rfl (Nat.le_succ _) (Nat.le_refl _)
          (fun other has => ?_) rfl rfl
        have differs : other ≠ socketId := by
          rintro rfl
          rw [missing] at has
          cases has
        rw [get_set_of_ne _ _ differs]
        exact has
    · rcases mine has with ⟨-, rfl⟩ | ⟨there, -⟩
      · exact ⟨{}, get_set_self _ _ _, rfl⟩
      · obtain ⟨state, stored, running⟩ := sound.lane other lane there
        exact ⟨state, after stored, running⟩
    · rcases mine has with ⟨rfl, rfl⟩ | ⟨there, old⟩
      · rcases mine also with ⟨rfl, -⟩ | ⟨-, old⟩
        · rfl
        · exact absurd rfl old
      · rcases mine also with ⟨-, new⟩ | ⟨stored, -⟩
        · exact absurd new old
        · exact sound.own first second lane there stored
    · obtain ⟨⟨state, stored⟩, only⟩ := sound.works job member
      refine ⟨⟨state, after stored⟩, fun other has => ?_⟩
      rcases mine has with ⟨-, new⟩ | ⟨there, -⟩
      · exact absurd new (Nat.ne_of_lt (sound.lanes _ _ stored).below)
      · exact only other there
    · rw [same]
      exact sound.waiting
    · rw [same]
      exact sound.waitingBytes
    · rw [queuedTimes, same]
      exact sound.placed call
    · obtain ⟨call, lane⟩ := sound.startedBelow job member
      exact ⟨call, Nat.lt_succ_of_lt lane⟩
    · rw [show hub.closed = true from isOver] at opened
      cases opened

theorem get_laneFor (hub : ConsumerPreparations T E) (socketId : String) :
    (hub.laneFor socketId).1.sockets.get socketId = some (hub.laneFor socketId).2 := by
  unfold laneFor
  split
  · next has => exact has
  · exact get_set_self _ _ _

theorem Ready.laneFor (sound : hub.Sound ending) (ready : hub.Ready) (socketId : String) :
    (hub.laneFor socketId).1.Ready := by
  unfold ConsumerPreparations.laneFor
  split
  · exact ready
  · next missing =>
    refine ⟨ready.distinct, fun other => (ready.exact other).trans ?_⟩
    constructor
    · rintro ⟨lane, state, has, found, may⟩
      have differs : other ≠ socketId := by
        rintro rfl
        rw [missing] at has
        cases has
      refine ⟨lane, state, ?_, ?_, may⟩
      · show (hub.sockets.set socketId hub.nextLane).get other = _
        rw [get_set_of_ne _ _ differs]
        exact has
      · show (hub.lanes.set hub.nextLane {}).get lane = _
        rw [get_set_of_ne _ _ (Nat.ne_of_lt (sound.lanes _ _ found).below)]
        exact found
    · rintro ⟨lane, state, has, found, waits, room⟩
      rcases get_set_cases found with ⟨-, rfl⟩ | ⟨old, stored⟩
      · exact absurd rfl waits
      · rcases get_set_cases has with ⟨-, rfl⟩ | ⟨-, there⟩
        · exact absurd rfl old
        · exact ⟨lane, state, there, stored, waits, room⟩

/-- A call waits in a lane that a socket has. -/
theorem Sound.enqueue (sound : hub.Sound ending) (has : hub.sockets.get socketId = some lane)
    (found : hub.lanes.get lane = some state) (bytes : Nat) :
    (hub.enqueue lane bytes).Sound ending := by
  let job : QueuedPreparation := ⟨hub.nextCall, bytes⟩
  let change (state : SocketPreparations) : SocketPreparations :=
    { state with queue := state.queue.push job }
  have mine := sound.lanes lane state found
  have items : (change state).queue.items = state.queue.items ++ [job] :=
    HeadQueue.items_push _ _
  have counted (weight : QueuedPreparation → Nat) :
      (hub.enqueue lane bytes).queued weight = hub.queued weight + weight job := by
    have changed := queued_changeLane found change weight
    simp only [items, List.map_append, List.sum_append, List.map_cons, List.map_nil, List.sum_cons,
      List.sum_nil] at changed
    have same : (hub.enqueue lane bytes).queued weight =
      (hub.changeLane lane change).queued weight := rfl
    omega
  refine { sound with
    lanes := lanes_changeLane found
      { below := mine.below
        dropped := fun unowned => absurd has (unowned socketId)
        active := mine.active
        limit := mine.limit
        queuedBelow := fun waits member => ?_
        ordered := ?_ }
      fun other after _ there => (sound.lanes other after there).keep rfl (Nat.le_refl _)
        (Nat.le_succ _) (fun _ owns => owns) rfl rfl
    lane := sound.lane_changeLane lane fun _ => rfl
    works := fun _ member => sound.works_changeLane lane change member
    waiting := ?_
    waitingBytes := ?_
    placed := fun call => ?_
    startedBelow := fun begun member => ?_ }
  · rw [items] at member
    exact forall_mem_concat (fun waits old => Nat.lt_succ_of_lt (mine.queuedBelow waits old))
      (Nat.lt_succ_self _) waits member
  · rw [items, List.map_append, ← List.append_assoc]
    refine List.pairwise_append.mpr ⟨mine.ordered, List.pairwise_singleton _ _, ?_⟩
    intro call known last isLast
    rw [List.map_singleton, List.mem_singleton] at isLast
    rw [isLast]
    rcases List.mem_append.mp known with begun | waits
    · obtain ⟨old, member, rfl⟩ := List.mem_map.mp begun
      exact (sound.startedBelow old (List.mem_filter.mp member).1).1
    · obtain ⟨old, member, rfl⟩ := List.mem_map.mp waits
      exact mine.queuedBelow old member
  · rw [counted]
    exact congrArg (· + 1) sound.waiting
  · rw [counted]
    exact congrArg (· + bytes) sound.waitingBytes
  · have placed := sound.placed call
    rw [queuedTimes, counted]
    show _ + (if hub.nextCall = call then 1 else 0) + hub.running.countP (·.call = call) +
      hub.settled.countP (·.call = call) + (if ending = some call then 1 else 0) =
        if call < hub.nextCall + 1 then 1 else 0
    rw [queuedTimes] at placed
    split_ifs at placed ⊢ <;> omega
  · obtain ⟨call, made⟩ := sound.startedBelow begun member
    exact ⟨Nat.lt_succ_of_lt call, made⟩

theorem Ready.enqueue (sound : hub.Sound ending) (ready : hub.Ready)
    (has : hub.sockets.get socketId = some lane) (bytes : Nat) :
    (hub.enqueue lane bytes).ReadyBut socketId where
  distinct := ready.distinct
  others other differs := by
    have elsewhere : hub.sockets.get other ≠ some lane :=
      fun same => differs (sound.own other socketId lane same has)
    have same : (hub.enqueue lane bytes).Eligible other ↔ hub.Eligible other :=
      eligible_changeLane hub _ elsewhere
    rw [same]
    exact ready.exact other
  self listed := by
    obtain ⟨other, state, owned, stored, waits, room⟩ := (ready.exact socketId).mp listed
    obtain rfl : other = lane := Option.some.inj (owned.symm.trans has)
    obtain ⟨after, there, ⟨-, rfl⟩ | ⟨differs, -⟩⟩ := after_changeLane other
      (fun state => { state with queue := state.queue.push ⟨hub.nextCall, bytes⟩ }) stored
    · refine ⟨other, _, owned, there, ?_, room⟩
      rw [HeadQueue.items_push]
      exact List.append_ne_nil_of_right_ne_nil _ nofun
    · exact absurd rfl differs

theorem Sound.refuse (sound : hub.Sound ending) :
    ({ hub.settle hub.nextCall none .cancelled with
      nextCall := hub.nextCall + 1 } : ConsumerPreparations T E).Sound ending :=
  { sound with
    placed := fun call => by
      have placed := sound.placed call
      have count : (hub.settle hub.nextCall none .cancelled).settled.countP (·.call = call) =
          hub.settled.countP (·.call = call) + if hub.nextCall = call then 1 else 0 := by
        simp only [settle, List.countP_append, List.countP_singleton, decide_eq_true_eq]
      show hub.queuedTimes call + hub.running.countP (·.call = call) +
        (hub.settle hub.nextCall none .cancelled).settled.countP (·.call = call) +
          (if ending = some call then 1 else 0) = if call < hub.nextCall + 1 then 1 else 0
      rw [count]
      split_ifs at placed ⊢ <;> omega
    lanes := fun lane state found => (sound.lanes lane state found).keep rfl (Nat.le_refl _)
      (Nat.le_succ _) (fun _ owns => owns) rfl rfl
    startedBelow := fun job member =>
      ⟨Nat.lt_succ_of_lt (sound.startedBelow job member).1, (sound.startedBelow job member).2⟩
    unfinished := fun job => (sound.unfinished job).trans (and_congr_right fun known => by
      have below := (sound.startedBelow job known).1
      have same : (hub.settle hub.nextCall none .cancelled).Settled job.call ↔
          hub.Settled job.call := by
        unfold Settled
        simp only [settle, List.countP_append, List.countP_singleton, decide_eq_true_eq]
        rw [if_neg (by omega), Nat.add_zero]
      exact and_congr_left' (not_congr same.symm)) }

/-! ## The end of a preparation -/

variable {job : StartedPreparation}

/-- A preparation that ends is no longer at work. -/
theorem Sound.leaveLane (sound : hub.Sound none)
    (member : job ∈ hub.running) : (hub.leaveLane job).Sound (some job.call) := by
  let change (state : SocketPreparations) : SocketPreparations :=
    { state with active := state.active - 1 }
  obtain ⟨⟨state, found⟩, -⟩ := sound.works job member
  have mine := sound.lanes job.lane state found
  have parted := List.perm_cons_erase member
  have laneCount (lane : Nat) : hub.running.countP (·.lane = lane) =
      (hub.running.erase job).countP (·.lane = lane) + if job.lane = lane then 1 else 0 := by
    have count := parted.countP_eq (·.lane = lane)
    simpa only [List.countP_cons, decide_eq_true_eq] using count
  have callCount (call : Nat) : hub.running.countP (·.call = call) =
      (hub.running.erase job).countP (·.call = call) + if job.call = call then 1 else 0 := by
    have count := parted.countP_eq (·.call = call)
    simpa only [List.countP_cons, decide_eq_true_eq] using count
  have same (weight : QueuedPreparation → Nat) :
      (hub.leaveLane job).queued weight = hub.queued weight :=
    Nat.add_right_cancel (queued_changeLane found change weight)
  refine { sound with
    lanes := lanes_changeLane found
      { below := mine.below
        dropped := mine.dropped
        active := ?_
        limit := fun positive => ?_
        queuedBelow := mine.queuedBelow
        ordered := mine.ordered }
      fun other after differs there => (sound.lanes other after there).keep rfl (Nat.le_refl _)
        (Nat.le_refl _) (fun _ owns => owns) ?_ rfl
    lane := sound.lane_changeLane job.lane fun _ => rfl
    works := fun _ stays => sound.works_changeLane job.lane change (List.mem_of_mem_erase stays)
    active := ?_
    limit := fun positive => ?_
    waiting := (same _).symm ▸ sound.waiting
    waitingBytes := (same _).symm ▸ sound.waitingBytes
    placed := fun call => ?_
    woken := fun released => ?_
    unfinished := fun begun => ?_ }
  · have counted := laneCount job.lane
    have active := mine.active
    rw [if_pos rfl] at counted
    show state.active - 1 = (hub.running.erase job).countP (·.lane = job.lane)
    omega
  · have kept := mine.limit positive
    show ((state.active - 1 : Nat) : Int) ≤ hub.limits.perSocket
    omega
  · have counted := laneCount other
    rw [if_neg (Ne.symm differs), Nat.add_zero] at counted
    exact counted.symm
  · show hub.active - 1 = (hub.running.erase job).length
    rw [List.length_erase_of_mem member, sound.active]
  · have kept := sound.limit positive
    show ((hub.active - 1 : Nat) : Int) ≤ hub.limits.perHub
    omega
  · have placed := sound.placed call
    have counted := callCount call
    rw [queuedTimes, same]
    rw [queuedTimes] at placed
    show _ + (hub.running.erase job).countP (·.call = call) +
      hub.settled.countP (·.call = call) + (if some job.call = some call then 1 else 0) =
        if call < hub.nextCall then 1 else 0
    simp only [reduceCtorEq, if_false, Option.some.injEq] at placed ⊢
    omega
  · obtain ⟨isOver, idle⟩ := sound.woken released
    refine ⟨isOver, ?_⟩
    show hub.active - 1 = 0
    omega
  · show begun ∈ hub.running.erase job ↔
      begun ∈ hub.started ∧ ¬ hub.Settled begun.call ∧ some job.call ≠ some begun.call
    constructor
    · intro stays
      obtain ⟨known, unsettled, -⟩ := (sound.unfinished begun).mp (List.mem_of_mem_erase stays)
      refine ⟨known, unsettled, fun same => ?_⟩
      have placed := sound.placed begun.call
      have counted := callCount begun.call
      rw [if_pos (Option.some.inj same)] at counted
      have other : 0 < (hub.running.erase job).countP (·.call = begun.call) :=
        List.countP_pos_iff.mpr ⟨begun, stays, decide_eq_true rfl⟩
      split_ifs at placed <;> omega
    · rintro ⟨known, unsettled, differs⟩
      refine (List.mem_erase_of_ne ?_).mpr
        ((sound.unfinished begun).mpr ⟨known, unsettled, nofun⟩)
      rintro rfl
      exact differs rfl

/-- A socket that had a lane is forgotten. -/
theorem kept_erase {other : String} {owned : Nat}
    (mine : (hub.sockets.erase socketId).get other = some owned) :
    hub.sockets.get other = some owned ∧ other ≠ socketId := by
  rw [get_erase] at mine
  split at mine
  · cases mine
  · next differs => exact ⟨mine, differs⟩

/-- The other lanes keep their sockets when a socket is forgotten. -/
theorem owned_erase (has : hub.sockets.get socketId = some lane) {other : Nat}
    (differs : other ≠ lane) (another : String) (mine : hub.sockets.get another = some other) :
    (hub.sockets.erase socketId).get another = some other := by
  have apart : another ≠ socketId := by
    rintro rfl
    exact differs (Option.some.inj (mine.symm.trans has))
  rw [get_erase_of_ne _ apart]
  exact mine

theorem Sound.closed_erase (sound : hub.Sound ending) (socketId : String)
    (isOver : hub.closed = true) (other : String) :
    (hub.sockets.erase socketId).get other = none := by
  rw [get_erase, sound.closed isOver other, ite_self]

theorem Sound.dropLane (sound : hub.Sound ending) (has : hub.sockets.get socketId = some lane)
    (found : hub.lanes.get lane = some state) (idle : state.queue.items = []) :
    ({ hub with sockets := hub.sockets.erase socketId } :
      ConsumerPreparations T E).Sound ending :=
  { sound with
    lanes := fun other after stored => by
      have there := sound.lanes other after stored
      by_cases same : other = lane
      · subst same
        obtain rfl : state = after := Option.some.inj (found.symm.trans stored)
        exact { there with dropped := fun _ => idle }
      · exact there.keep rfl (Nat.le_refl _) (Nat.le_refl _) (owned_erase has same) rfl rfl
    lane := fun other owned mine => sound.lane other owned (kept_erase mine).1
    own := fun first second owned mine yours =>
      sound.own first second owned (kept_erase mine).1 (kept_erase yours).1
    works := fun job member =>
      ⟨(sound.works job member).1, fun other owns =>
        (sound.works job member).2 other (kept_erase owns).1⟩
    closed := sound.closed_erase socketId }

theorem ReadyBut.dropLane (but : hub.ReadyBut socketId) (idle : socketId ∉ hub.ready) :
    ({ hub with sockets := hub.sockets.erase socketId } : ConsumerPreparations T E).Ready := by
  refine ⟨but.distinct, fun other => ?_⟩
  by_cases same : other = socketId
  · rw [same]
    refine ⟨fun listed => absurd listed idle, ?_⟩
    rintro ⟨lane, state, has, -⟩
    rw [OrderedMap.get_erase_self] at has
    cases has
  · rw [but.others other same]
    unfold Eligible
    simp only [get_erase_of_ne hub.sockets same]
    rfl

theorem Ready.leaveLane (sound : hub.Sound none) (ready : hub.Ready)
    (has : hub.sockets.get job.socketId = some job.lane) :
    (hub.leaveLane job).ReadyBut job.socketId where
  distinct := ready.distinct
  others other differs := by
    have elsewhere : hub.sockets.get other ≠ some job.lane :=
      fun same => differs (sound.own other job.socketId job.lane same has)
    have same : (hub.leaveLane job).Eligible other ↔ hub.Eligible other :=
      eligible_changeLane hub _ elsewhere
    rw [same]
    exact ready.exact other
  self listed := by
    obtain ⟨other, state, owned, stored, waits, room⟩ := (ready.exact job.socketId).mp listed
    obtain rfl : job.lane = other := Option.some.inj (has.symm.trans owned)
    obtain ⟨after, there, ⟨-, rfl⟩ | ⟨differs, -⟩⟩ := after_changeLane job.lane
      (fun state => { state with active := state.active - 1 }) stored
    · refine ⟨job.lane, _, owned, there, waits, ?_⟩
      unfold LaneRoom at room ⊢
      show hub.limits.perSocket ≤ 0 ∨ ((state.active - 1 : Nat) : Int) < hub.limits.perSocket
      omega
    · exact absurd rfl differs

theorem Sound.leave (sound : hub.Sound none) (ready : hub.Ready) (member : job ∈ hub.running) :
    (hub.leave job).Sound (some job.call) ∧ (hub.leave job).Ready := by
  have left := sound.leaveLane member
  unfold ConsumerPreparations.leave
  simp only
  split_ifs with has
  · obtain ⟨state, found, there⟩ := left.lane _ _ has
    have but := ready.leaveLane sound has
    rw [found]
    simp only
    split_ifs with idle
    · have empty := state.queue.isEmpty_iff.mp idle.2
      refine ⟨left.dropLane has found empty, but.dropLane fun listed => ?_⟩
      obtain ⟨lane, mine, owned, stored, waits, -⟩ := but.self listed
      obtain rfl : lane = job.lane := Option.some.inj (owned.symm.trans has)
      obtain rfl : mine = state := Option.some.inj (stored.symm.trans found)
      exact waits empty
    · exact ⟨left.markReady _ _, but.markReady has found there⟩
  · refine ⟨left, ready.distinct, fun other => (ready.exact other).trans ?_⟩
    refine (eligible_changeLane hub
      (fun state => { state with active := state.active - 1 }) fun owns => has ?_).symm
    rw [← (sound.works job member).2 other owns]
    exact owns

theorem Sound.wakeIdle (sound : hub.Sound ending) : hub.wakeIdle.Sound ending := by
  unfold ConsumerPreparations.wakeIdle
  split_ifs with idle
  · refine { sound with
      lanes := fun lane state found => { sound.lanes lane state found with }
      waits := fun waiters => absurd rfl waiters
      woken := fun released => ⟨?_, idle⟩ }
    by_cases before : hub.released = []
    · refine sound.waits fun now => released ?_
      simp only [before, now, List.append_nil]
    · exact (sound.woken before).1
  · exact sound

theorem Sound.settle {call : Nat} (sound : hub.Sound (some call)) (lane : Option Nat)
    (settlement : PreparationSettlement T E) : (hub.settle call lane settlement).Sound none :=
  { sound with
    lanes := fun lane state found => { sound.lanes lane state found with }
    placed := fun other => by
      have placed := sound.placed other
      have count : (hub.settle call lane settlement).settled.countP (·.call = other) =
          hub.settled.countP (·.call = other) + if call = other then 1 else 0 := by
        simp only [ConsumerPreparations.settle, List.countP_append, List.countP_singleton,
          decide_eq_true_eq]
      show hub.queuedTimes other + hub.running.countP (·.call = other) +
        (hub.settle call lane settlement).settled.countP (·.call = other) +
          (if none = some other then 1 else 0) = if other < hub.nextCall then 1 else 0
      rw [count]
      simp only [reduceCtorEq, if_false, Option.some.injEq] at placed ⊢
      omega
    unfinished := fun job => (sound.unfinished job).trans (and_congr_right fun _ => by
      unfold Settled
      simp only [ConsumerPreparations.settle, List.countP_append, List.countP_singleton,
        decide_eq_true_eq, ne_eq, Option.some.injEq, reduceCtorEq, not_false_eq_true, and_true]
      split_ifs with same
      · simp [same]
      · simp [same]) }

/-! ## Cancellation -/

theorem foldl_cancelJob (lane : Nat) (jobs : List QueuedPreparation) :
    jobs.foldl (fun hub job => hub.cancelJob lane job) hub =
      { hub with
        waiting := hub.waiting - (jobs.map fun _ => 1).sum
        waitingBytes := hub.waitingBytes - (jobs.map (·.bytes)).sum
        settled := hub.settled ++ jobs.map fun job => ⟨job.call, some lane, .cancelled⟩ } := by
  induction jobs generalizing hub with
  | nil => simp
  | cons job rest ih =>
    rw [List.foldl_cons, ih]
    simp only [cancelJob, settle, List.map_cons, List.sum_cons, Nat.sub_sub, List.append_assoc,
      List.singleton_append]

theorem cancelSocket_eq
    (has : hub.sockets.get socketId = some lane) (found : hub.lanes.get lane = some state) :
    hub.cancelSocket socketId =
      { hub.changeLane lane fun state => { state with cancelled := true, queue := .empty } with
        ready := hub.ready.filter (· != socketId)
        sockets := hub.sockets.erase socketId
        waiting := hub.waiting - (state.queue.items.map fun _ => 1).sum
        waitingBytes := hub.waitingBytes - (state.queue.items.map (·.bytes)).sum
        settled := hub.settled ++
          state.queue.items.map fun job => ⟨job.call, some lane, .cancelled⟩ } := by
  unfold cancelSocket
  rw [has]
  simp only [found, Option.map_some, Option.getD_some]
  rw [foldl_cancelJob]
  rfl

theorem Sound.cancelSocket_sockets (sound : hub.Sound ending) (socketId : String) :
    (hub.cancelSocket socketId).sockets = hub.sockets.erase socketId := by
  cases has : hub.sockets.get socketId with
  | none =>
    rw [OrderedMap.erase_of_absent _ has]
    unfold ConsumerPreparations.cancelSocket
    rw [has]
  | some lane =>
    obtain ⟨state, found, -⟩ := sound.lane socketId lane has
    rw [cancelSocket_eq has found]

/-- The cancelled calls of a queue are those that waited in it. -/
theorem countP_cancelled (lane : Nat) (jobs : List QueuedPreparation) (call : Nat) :
    (jobs.map fun job => (⟨job.call, some lane, .cancelled⟩ : SettledPreparation T E)).countP
      (·.call = call) = (jobs.map fun job => if job.call = call then 1 else 0).sum := by
  induction jobs with
  | nil => rfl
  | cons job rest ih =>
    rw [List.map_cons, List.countP_cons, ih, List.map_cons, List.sum_cons]
    simp only [decide_eq_true_eq]
    omega

/-- A preparation that was started does not settle when the queue of a lane is cancelled. -/
theorem Sound.settled_cancelled (sound : hub.Sound ending) (found : hub.lanes.get lane = some state)
    {begun : StartedPreparation} (known : begun ∈ hub.started) :
    0 < (hub.settled ++ state.queue.items.map fun job =>
      (⟨job.call, some lane, .cancelled⟩ : SettledPreparation T E)).countP
        (·.call = begun.call) ↔ hub.Settled begun.call := by
  have unqueued : (state.queue.items.map fun job =>
      if job.call = begun.call then 1 else 0).sum = 0 := by
    refine List.sum_eq_zero_iff_forall_eq_nat.mpr fun term member => ?_
    obtain ⟨job, queued, rfl⟩ := List.mem_map.mp member
    exact if_neg fun same => (sound.queued_unstarted found queued).1 begun known same.symm
  rw [List.countP_append, countP_cancelled, unqueued, Nat.add_zero]
  exact Iff.rfl

/-- The other sockets are ready as before when a socket is cancelled. -/
theorem Ready.cancelSocket (sound : hub.Sound ending) (ready : hub.Ready) (socketId : String) :
    (hub.cancelSocket socketId).Ready := by
  cases has : hub.sockets.get socketId with
  | none =>
    unfold ConsumerPreparations.cancelSocket
    rw [has]
    exact ready
  | some lane =>
    obtain ⟨state, found, -⟩ := sound.lane socketId lane has
    rw [cancelSocket_eq has found]
    refine ⟨ready.distinct.filter _, fun other => ?_⟩
    by_cases same : other = socketId
    · rw [same]
      constructor
      · intro listed
        have differs := (List.mem_filter.mp listed).2
        simp at differs
      · rintro ⟨owned, after, mine, -⟩
        exact absurd rfl (kept_erase mine).2
    · have elsewhere : hub.sockets.get other ≠ some lane :=
        fun mine => same (sound.own other socketId lane mine has)
      have listed : other ∈ hub.ready.filter (· != socketId) ↔ other ∈ hub.ready := by
        rw [List.mem_filter]
        exact and_iff_left (by simpa using same)
      refine listed.trans ((ready.exact other).trans ?_)
      rw [← eligible_changeLane hub
        (fun state => { state with cancelled := true, queue := .empty }) elsewhere]
      unfold Eligible
      simp only [get_erase_of_ne hub.sockets same]
      rfl

/-- The invariant is kept when a socket is cancelled, also while the coordinator is being closed:
that no socket has a lane then is shown at the end of that. -/
theorem Sound.cancelSocket (sound : hub.Sound ending) (socketId : String) :
    (hub.cancelSocket socketId).Sound ending := by
  cases has : hub.sockets.get socketId with
  | none =>
    unfold ConsumerPreparations.cancelSocket
    rw [has]
    exact sound
  | some lane =>
    obtain ⟨state, found, -⟩ := sound.lane socketId lane has
    let change (state : SocketPreparations) : SocketPreparations :=
      { state with cancelled := true, queue := .empty }
    have mine := sound.lanes lane state found
    have counted (weight : QueuedPreparation → Nat) :
        (hub.changeLane lane change).queued weight + (state.queue.items.map weight).sum =
          hub.queued weight :=
      queued_changeLane found change weight
    rw [cancelSocket_eq has found]
    refine { sound with
      lanes := lanes_changeLane found
        { below := mine.below
          dropped := fun _ => rfl
          active := mine.active
          limit := mine.limit
          queuedBelow := nofun
          ordered := ?_ }
        fun other after differs there => (sound.lanes other after there).keep rfl (Nat.le_refl _)
          (Nat.le_refl _) (owned_erase has differs) rfl rfl
      lane := fun other owned left => ?_
      own := fun first second owned left right =>
        sound.own first second owned (kept_erase left).1 (kept_erase right).1
      works := fun begun member => ?_
      waiting := ?_
      waitingBytes := ?_
      placed := fun call => ?_
      closed := sound.closed_erase socketId
      unfinished := fun begun => ?_ }
    · have ordered := (List.pairwise_append.mp mine.ordered).1
      simp only [HeadQueue.items_empty, List.map_nil, List.append_nil]
      exact ordered
    · obtain ⟨owns, differs⟩ := kept_erase left
      obtain ⟨earlier, there, running⟩ := sound.lane other owned owns
      obtain ⟨after, stored, ⟨rfl, -⟩ | ⟨-, rfl⟩⟩ := after_changeLane lane change there
      · exact absurd (sound.own other socketId owned owns has) differs
      · exact ⟨_, stored, running⟩
    · obtain ⟨made, only⟩ := sound.works_changeLane lane change member
      exact ⟨made, fun other owns => only other (kept_erase owns).1⟩
    · have one := counted fun _ => 1
      have waiting := sound.waiting
      show hub.waiting - (state.queue.items.map fun _ => 1).sum =
        (hub.changeLane lane change).queued fun _ => 1
      omega
    · have bytes := counted (·.bytes)
      have waiting := sound.waitingBytes
      show hub.waitingBytes - (state.queue.items.map (·.bytes)).sum =
        (hub.changeLane lane change).queued (·.bytes)
      omega
    · have placed := sound.placed call
      have times := counted fun job => if job.call = call then 1 else 0
      show (hub.changeLane lane change).queued (fun job => if job.call = call then 1 else 0) +
        hub.running.countP (·.call = call) + (hub.settled ++ state.queue.items.map fun job =>
          (⟨job.call, some lane, .cancelled⟩ : SettledPreparation T E)).countP (·.call = call) +
            (if ending = some call then 1 else 0) = if call < hub.nextCall then 1 else 0
      rw [List.countP_append, countP_cancelled]
      rw [queuedTimes] at placed
      omega
    · exact (sound.unfinished begun).trans (and_congr_right fun known =>
        and_congr_left' (not_congr (sound.settled_cancelled found known).symm))

theorem cancelSocket_closed (socketId : String) :
    ({ hub with closed := true } : ConsumerPreparations T E).cancelSocket socketId =
      { hub.cancelSocket socketId with closed := true } := by
  unfold cancelSocket
  simp only
  split
  · rfl
  · rw [foldl_cancelJob, foldl_cancelJob]
    rfl

theorem Sound.cancelSockets (sockets : List String) (sound : hub.Sound ending)
    (ready : hub.Ready) :
    (sockets.foldl (fun hub socketId => hub.cancelSocket socketId) hub).Sound ending ∧
      (sockets.foldl (fun hub socketId => hub.cancelSocket socketId) hub).Ready ∧
      (sockets.foldl (fun hub socketId => hub.cancelSocket socketId) hub).sockets =
        sockets.foldl OrderedMap.erase hub.sockets ∧
      sockets.foldl (fun hub socketId => hub.cancelSocket socketId)
          ({ hub with closed := true } : ConsumerPreparations T E) =
        { sockets.foldl (fun hub socketId => hub.cancelSocket socketId) hub with
          closed := true } := by
  induction sockets generalizing hub with
  | nil => exact ⟨sound, ready, rfl, rfl⟩
  | cons socketId rest ih =>
    obtain ⟨kept, exact, erased, closed⟩ :=
      ih (sound.cancelSocket socketId) (ready.cancelSocket sound socketId)
    refine ⟨kept, exact, ?_, ?_⟩
    · rw [List.foldl_cons, List.foldl_cons, erased, sound.cancelSocket_sockets]
    · rw [List.foldl_cons, List.foldl_cons, cancelSocket_closed]
      exact closed

theorem Sound.close (sound : hub.Sound ending) (ready : hub.Ready) (id : Nat) :
    (hub.close id).Sound ending ∧ (hub.close id).Ready ∧ (hub.close id).closed = true := by
  obtain ⟨kept, ready, erased, equal⟩ := sound.cancelSockets hub.sockets.keys ready
  unfold ConsumerPreparations.close
  rw [equal]
  generalize cancelled : hub.sockets.keys.foldl (fun hub socketId => hub.cancelSocket socketId)
    hub = after at kept ready erased
  have laneless (socketId : String) : after.sockets.get socketId = none := by
    rw [erased, OrderedMap.get_foldl_erase]
    split
    · rfl
    · next unknown =>
      refine Option.eq_none_iff_forall_ne_some.mpr fun lane has => unknown ?_
      exact (hub.sockets.mem_keys_iff socketId).mpr ⟨lane, has⟩
  have closed : ({ after with closed := true } : ConsumerPreparations T E).Sound ending :=
    { kept with
      lanes := fun lane state found => { kept.lanes lane state found with }
      closed := fun _ => laneless
      waits := fun _ => rfl
      woken := fun released => ⟨rfl, (kept.woken released).2⟩ }
  simp only
  split_ifs with works
  · exact ⟨{ closed with
      lanes := fun lane state found => { kept.lanes lane state found with }
      waits := fun _ => rfl }, ⟨ready.distinct, ready.exact⟩, rfl⟩
  · refine ⟨{ closed with
      lanes := fun lane state found => { kept.lanes lane state found with }
      closes := fun count member => ?_ }, ⟨ready.distinct, ready.exact⟩, rfl⟩
    exact forall_mem_concat kept.closes (Nat.eq_zero_of_not_pos works) count member

theorem Sound.closeResumes (sound : hub.Sound ending) (id : Nat) :
    (hub.closeResumes id).Sound ending := by
  unfold ConsumerPreparations.closeResumes
  split_ifs with member
  · have woken := sound.woken (List.ne_nil_of_mem member)
    refine { sound with
      lanes := fun lane state found => { sound.lanes lane state found with }
      woken := fun _ => woken
      closes := forall_mem_concat sound.closes woken.2 }
  · exact sound

/-! ## Every step -/

/-- What holds between the steps. -/
structure Steady (hub : ConsumerPreparations T E) : Prop where
  sound : hub.Sound none
  ready : hub.Ready
  /-- The loop of `pump` is over. -/
  pumped : hub.Pumped

theorem steady_initial :
    ({ limits } : ConsumerPreparations T E).Steady :=
  ⟨sound_initial limits, ready_initial limits, Or.inr (Or.inl rfl)⟩

theorem Steady.cancelSocket (steady : hub.Steady) (socketId : String) :
    (hub.cancelSocket socketId).Steady := by
  refine ⟨steady.sound.cancelSocket socketId, steady.ready.cancelSocket steady.sound socketId, ?_⟩
  cases has : hub.sockets.get socketId with
  | none =>
    unfold ConsumerPreparations.cancelSocket
    rw [has]
    exact steady.pumped
  | some lane =>
    obtain ⟨state, found, -⟩ := steady.sound.lane socketId lane has
    rw [cancelSocket_eq has found]
    refine steady.pumped.imp_right fun rest => rest.imp_left fun empty => ?_
    show hub.ready.filter (· != socketId) = []
    rw [empty]
    rfl

/-- A new call keeps the coordinator steady. -/
theorem Steady.run (steady : hub.Steady) (socketId : String) (payload : ReceivedPayload) :
    (hub.run socketId payload).Steady := by
  unfold ConsumerPreparations.run
  split_ifs with isOver
  · exact ⟨steady.sound.refuse, ⟨steady.ready.distinct, steady.ready.exact⟩, steady.pumped⟩
  · have sound := steady.sound.laneFor (Bool.eq_false_of_not_eq_true isOver) socketId
    have ready := steady.ready.laneFor steady.sound socketId
    have has := get_laneFor hub socketId
    obtain ⟨state, found, running⟩ := sound.lane socketId _ has
    have waits := sound.enqueue has found (receivedFrameBytes payload)
    have but := ready.enqueue sound has (receivedFrameBytes payload)
    obtain ⟨after, stored, there⟩ := waits.lane socketId _ has
    obtain ⟨kept, exact, pumped⟩ := (waits.markReady socketId (hub.laneFor socketId).2).pump
      (but.markReady has stored there)
    exact ⟨kept, exact, pumped⟩

theorem wakeIdle_settle (hub : ConsumerPreparations T E) (call : Nat) (lane : Option Nat)
    (settlement : PreparationSettlement T E) :
    ∃ released idleWaiters, hub.wakeIdle.settle call lane settlement =
      { hub with
        released, idleWaiters, settled := hub.settled ++ [⟨call, lane, settlement⟩] } := by
  unfold wakeIdle
  split_ifs
  · exact ⟨_, _, rfl⟩
  · exact ⟨hub.released, hub.idleWaiters, rfl⟩

theorem Steady.complete (steady : hub.Steady) (call : Nat) (outcome : Except E T) :
    (hub.complete call outcome).Steady := by
  unfold ConsumerPreparations.complete
  split
  · exact steady
  · next job found =>
    have member := List.mem_of_find?_eq_some found
    have same : job.call = call := by simpa using List.find?_some found
    obtain ⟨left, leftReady⟩ := steady.sound.leave steady.ready member
    obtain ⟨pumped, pumpedReady, isOver⟩ := left.pump leftReady
    have sound := (same ▸ pumped.wakeIdle).settle (some job.lane)
      (hub.settlementOf job.lane outcome)
    obtain ⟨released, idleWaiters, equal⟩ := wakeIdle_settle (hub.leave job).pump call
      (some job.lane) (hub.settlementOf job.lane outcome)
    unfold finish
    refine ⟨sound, ?_, ?_⟩ <;> rw [equal]
    · exact ⟨pumpedReady.distinct, pumpedReady.exact⟩
    · exact isOver

/-- And so does every other action. -/
theorem Steady.step (steady : hub.Steady) (action : PreparationAction T E) :
    (hub.step action).Steady := by
  cases action with
  | run socketId payload => exact steady.run socketId payload
  | completed call outcome => exact steady.complete call outcome
  | cancelSocket socketId => exact steady.cancelSocket socketId
  | close id =>
    obtain ⟨sound, ready, closed⟩ := steady.sound.close steady.ready id
    exact ⟨sound, ready, Or.inl closed⟩
  | closeResumes id =>
    have sound := steady.sound.closeResumes id
    simp only [ConsumerPreparations.step]
    unfold ConsumerPreparations.closeResumes at sound ⊢
    split_ifs at sound ⊢
    · exact ⟨sound, ⟨steady.ready.distinct, steady.ready.exact⟩, steady.pumped⟩
    · exact steady

end ConsumerPreparations

end PlugHub.Scheduling
