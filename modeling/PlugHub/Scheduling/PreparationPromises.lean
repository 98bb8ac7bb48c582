import PlugHub.Scheduling.PreparationAccounts

/-!
# The promises of the preparation coordinator

The limits, the counters, the order of a lane, one settlement for every call, no preparation left
behind while there is room, and silence of a lane once it is cancelled: in every run.
-/

namespace PlugHub.Scheduling

open Library

namespace ConsumerPreparations

variable {T E : Type} {hub : ConsumerPreparations T E} {ending : Option Nat}

/-! ## What the coordinator promises -/

/-- The promises of the coordinator, between the steps. -/
structure Coordinated (hub : ConsumerPreparations T E) : Prop where
  hubLimit : 0 < hub.limits.perHub → (hub.active : Int) ≤ hub.limits.perHub
  laneLimit : 0 < hub.limits.perSocket → ∀ lane state, hub.lanes.get lane = some state →
    (state.active : Int) ≤ hub.limits.perSocket
  /-- The hub counts the preparations that run. -/
  active : hub.active =
    (hub.started.filter fun job => hub.settled.countP (·.call = job.call) = 0).length
  /-- And a lane counts its own. -/
  laneActive : ∀ lane state, hub.lanes.get lane = some state → state.active =
    (hub.started.filter fun job =>
      hub.settled.countP (·.call = job.call) = 0 ∧ job.lane = lane).length
  /-- The hub counts those that wait. -/
  waiting : hub.waiting = hub.lanes.total fun state => state.queue.items.length
  /-- And their bytes. -/
  waitingBytes : hub.waitingBytes =
    hub.lanes.total fun state => (state.queue.items.map (·.bytes)).sum
  /-- In a lane, preparations are started in the order of the calls, those that wait last. -/
  inOrder : ∀ lane state, hub.lanes.get lane = some state →
    ((hub.started.filter (·.lane = lane)).map (·.call) ++
      state.queue.items.map (·.call)).Pairwise (· < ·)
  /-- A call waits, runs or has settled. -/
  onePlace : ∀ call, call < hub.nextCall → hub.queuedTimes call +
    hub.running.countP (·.call = call) + hub.settled.countP (·.call = call) = 1
  /-- No call settles before it is made. -/
  notYet : ∀ call, hub.nextCall ≤ call → hub.settled.countP (·.call = call) = 0
  /-- When nothing runs, every call has settled. -/
  settles : hub.active = 0 → ∀ call, call < hub.nextCall → hub.settled.countP (·.call = call) = 1
  /-- No preparation waits in a lane that has room while the hub has room. -/
  noneStranded : ∀ lane state, hub.lanes.get lane = some state → state.queue.items ≠ [] →
    hub.LaneRoom state → ¬ hub.HubRoom
  /-- A close returns when nothing is left. -/
  closes : ∀ count ∈ hub.closes, count = 0
  /-- When the work of a call ends its promise settles. -/
  completes : ∀ job ∈ hub.running, ∀ outcome,
    ⟨job.call, some job.lane, hub.settlementOf job.lane outcome⟩ ∈
      (hub.step (.completed job.call outcome)).settled
  /-- A lane that is cancelled knows it. -/
  cancels : ∀ socketId lane, hub.sockets.get socketId = some lane →
    (hub.step (.cancelSocket socketId)).isCancelled lane = true
  /-- And so do all when the hub closes. -/
  shuts : ∀ id lane, (hub.step (.close id)).isCancelled lane = true

variable {lane : Nat} {state : SocketPreparations}

theorem Sound.owned (sound : hub.Sound ending)
    (found : hub.lanes.get lane = some state) (waits : state.queue.items ≠ []) :
    ∃ socketId, hub.sockets.get socketId = some lane := by
  by_contra unowned
  exact waits ((sound.lanes lane state found).dropped (not_exists.mp unowned))

theorem Steady.noneStranded (steady : hub.Steady)
    (found : hub.lanes.get lane = some state) (waits : state.queue.items ≠ [])
    (laneRoom : hub.LaneRoom state) : ¬ hub.HubRoom := by
  intro hubRoom
  obtain ⟨socketId, has⟩ := steady.sound.owned found waits
  rcases steady.pumped with closed | empty | full
  · rw [steady.sound.closed closed socketId] at has
    cases has
  · have listed := (steady.ready.exact socketId).mpr ⟨lane, state, has, found, waits, laneRoom⟩
    rw [empty] at listed
    cases listed
  · exact full hubRoom

theorem Steady.idle (steady : hub.Steady) (idle : hub.active = 0)
    (found : hub.lanes.get lane = some state) :
    state.queue.items = [] := by
  by_contra waits
  have working : hub.running = [] := List.eq_nil_of_length_eq_zero (steady.sound.active ▸ idle)
  have counted := (steady.sound.lanes lane state found).active
  rw [working, List.countP_nil] at counted
  refine steady.noneStranded found waits ?_ ?_
  · unfold LaneRoom
    omega
  · unfold HubRoom
    omega

theorem Sound.running_perm (sound : hub.Sound none) :
    hub.running.Perm (hub.started.filter fun job =>
      hub.settled.countP (·.call = job.call) = 0) := by
  have distinct : hub.running.Nodup := by
    refine List.nodup_iff_count_le_one.mpr fun job => ?_
    have placed := sound.placed job.call
    have fewer : hub.running.count job ≤ hub.running.countP (·.call = job.call) :=
      List.countP_mono_left fun other _ same => by
        rw [beq_iff_eq.mp same]
        exact decide_eq_true rfl
    split_ifs at placed <;> omega
  refine (List.perm_ext_iff_of_nodup distinct (sound.once.of_map.filter _)).mpr fun job => ?_
  rw [List.mem_filter, sound.unfinished job]
  refine and_congr_right fun _ => ?_
  unfold Settled
  simp only [decide_eq_true_eq, ne_eq, reduceCtorEq, not_false_eq_true, and_true]
  omega

theorem isCancelled_iff : hub.isCancelled lane = true ↔
    (∃ state, hub.lanes.get lane = some state ∧ state.cancelled = true) ∨ hub.closed = true := by
  unfold isCancelled
  rw [Bool.or_eq_true]
  refine or_congr_left ?_
  cases hub.lanes.get lane with
  | none | some state => simp

/-! ## Values of cancelled lanes -/

/-- The calls of a lane whose promises delivered a value. -/
def deliveries (hub : ConsumerPreparations T E) (lane : Nat) : List (SettledPreparation T E) :=
  hub.settled.filter fun settled => settled.lane == some lane && settled.settlement.isValue

/-- A part of a step in which no promise settles and no lane is cancelled, with the number of calls
that are made in it. -/
structure Quiet (calls : Nat) (hub next : ConsumerPreparations T E) : Prop where
  nextCall : next.nextCall = hub.nextCall + calls
  settled : next.settled = hub.settled
  closed : next.closed = hub.closed
  cancelled : ∀ lane state, hub.lanes.get lane = some state →
    ∃ after, next.lanes.get lane = some after ∧ after.cancelled = state.cancelled

theorem Quiet.refl (hub : ConsumerPreparations T E) : Quiet 0 hub hub :=
  ⟨rfl, rfl, rfl, fun _ state found => ⟨state, found, rfl⟩⟩

theorem Quiet.trans {middle next : ConsumerPreparations T E} {calls : Nat}
    (first : Quiet calls hub middle) (second : Quiet 0 middle next) : Quiet calls hub next where
  nextCall := second.nextCall.trans first.nextCall
  settled := second.settled.trans first.settled
  closed := second.closed.trans first.closed
  cancelled lane state found := by
    obtain ⟨between, there, same⟩ := first.cancelled lane state found
    obtain ⟨after, stored, alike⟩ := second.cancelled lane between there
    exact ⟨after, stored, alike.trans same⟩

theorem quiet_changeLane (hub : ConsumerPreparations T E) (lane : Nat)
    (change : SocketPreparations → SocketPreparations)
    (keeps : ∀ state, (change state).cancelled = state.cancelled) :
    Quiet 0 hub (hub.changeLane lane change) where
  nextCall := rfl
  settled := rfl
  closed := rfl
  cancelled other state found := by
    obtain ⟨after, there, ⟨-, rfl⟩ | ⟨-, rfl⟩⟩ := after_changeLane lane change found
    · exact ⟨_, there, keeps state⟩
    · exact ⟨_, there, rfl⟩

theorem quiet_markReady (socketId : String) (lane : Nat) :
    Quiet 0 hub (hub.markReady socketId lane) := by
  obtain ⟨ready, equal⟩ := markReady_eq hub socketId lane
  rw [equal]
  exact ⟨rfl, rfl, rfl, fun _ state found => ⟨state, found, rfl⟩⟩

theorem quiet_pumpTurns (turns : Nat) (hub : ConsumerPreparations T E) :
    Quiet 0 hub (pumpTurns turns hub) := by
  induction turns generalizing hub with
  | zero => exact Quiet.refl hub
  | succ turns ih =>
    rw [ConsumerPreparations.pumpTurns]
    cases turn : hub.pumpTurn with
    | none => exact Quiet.refl hub
    | some next =>
      obtain ⟨-, -, socketId, rest, lane, state, job, queue, -, -, -, -, rfl⟩ := pumpTurn_spec turn
      have started : Quiet 0 hub (({ hub with ready := rest }).start socketId lane job queue) := by
        obtain ⟨calls, settled, closed, cancelled⟩ := quiet_changeLane hub lane
          (fun state => { state with queue, active := state.active + 1 }) fun _ => rfl
        exact ⟨calls, settled, closed, cancelled⟩
      exact (started.trans (quiet_markReady socketId lane)).trans (ih _)

theorem quiet_pump : Quiet 0 hub hub.pump := quiet_pumpTurns hub.waiting hub

theorem quiet_wakeIdle : Quiet 0 hub hub.wakeIdle := by
  unfold wakeIdle
  split_ifs
  · exact ⟨rfl, rfl, rfl, fun _ state found => ⟨state, found, rfl⟩⟩
  · exact Quiet.refl hub

theorem quiet_leave (hub : ConsumerPreparations T E) (job : StartedPreparation) :
    Quiet 0 hub (hub.leave job) := by
  have left : Quiet 0 hub (hub.leaveLane job) := by
    obtain ⟨calls, settled, closed, cancelled⟩ := quiet_changeLane hub job.lane
      (fun state => { state with active := state.active - 1 }) fun _ => rfl
    exact ⟨calls, settled, closed, cancelled⟩
  unfold leave
  simp only
  split_ifs
  · split
    · exact left
    · split_ifs
      · exact ⟨left.nextCall, left.settled, left.closed, left.cancelled⟩
      · exact left.trans (quiet_markReady job.socketId job.lane)
  · exact left

theorem quiet_laneFor (sound : hub.Sound ending) (socketId : String) :
    Quiet 0 hub (hub.laneFor socketId).1 := by
  unfold laneFor
  split
  · exact Quiet.refl hub
  · refine ⟨rfl, rfl, rfl, fun lane state found => ⟨state, ?_, rfl⟩⟩
    show (hub.lanes.set hub.nextLane {}).get lane = some state
    rw [OrderedMap.get_set_of_ne _ _ (Nat.ne_of_lt (sound.lanes _ _ found).below)]
    exact found

theorem quiet_run (sound : hub.Sound ending) (running : hub.closed = false) (socketId : String)
    (payload : ReceivedPayload) : Quiet 1 hub (hub.run socketId payload) := by
  have opened := quiet_laneFor sound socketId
  have waits : Quiet 1 hub ((hub.laneFor socketId).1.enqueue (hub.laneFor socketId).2
      (receivedFrameBytes payload)) := by
    obtain ⟨calls, settled, closed, cancelled⟩ := opened.trans (quiet_changeLane
      (hub.laneFor socketId).1 (hub.laneFor socketId).2 (fun state => { state with
        queue := state.queue.push
          ⟨(hub.laneFor socketId).1.nextCall, receivedFrameBytes payload⟩ }) fun _ => rfl)
    exact ⟨congrArg (· + 1) calls, settled, closed, cancelled⟩
  rw [ConsumerPreparations.run, if_neg (by rw [running]; exact Bool.false_ne_true)]
  exact (waits.trans (quiet_markReady _ _)).trans quiet_pump

theorem quiet_finish (job : StartedPreparation) : Quiet 0 hub (hub.finish job) :=
  ((quiet_leave hub job).trans quiet_pump).trans quiet_wakeIdle

/-- A lane that is cancelled, or whose coordinator is closed, has no more deliveries. -/
structure Muted (hub next : ConsumerPreparations T E) (lane : Nat) : Prop where
  cancelled : next.isCancelled lane = true
  deliveries : next.deliveries lane = hub.deliveries lane

theorem Quiet.muted {next : ConsumerPreparations T E} {calls : Nat}
    (quiet : Quiet calls hub next) (gone : hub.isCancelled lane = true) :
    hub.Muted next lane := by
  refine ⟨isCancelled_iff.mpr ?_, ?_⟩
  · rcases isCancelled_iff.mp gone with ⟨state, found, flagged⟩ | isOver
    · obtain ⟨after, there, same⟩ := quiet.cancelled lane state found
      exact Or.inl ⟨after, there, same.trans flagged⟩
    · exact Or.inr (quiet.closed.trans isOver)
  · unfold ConsumerPreparations.deliveries
    rw [quiet.settled]

theorem deliveries_settle {call : Nat} {owner : Option Nat} {settlement : PreparationSettlement T E}
    (silent : owner ≠ some lane ∨ settlement = .cancelled) :
    (hub.settle call owner settlement).deliveries lane = hub.deliveries lane := by
  have unowned : ([⟨call, owner, settlement⟩] : List (SettledPreparation T E)).filter
      (fun settled => settled.lane == some lane && settled.settlement.isValue) = [] := by
    rcases silent with other | rfl
    · simp [other]
    · simp [PreparationSettlement.isValue]
  unfold deliveries settle
  rw [List.filter_append, unowned, List.append_nil]

theorem Sound.cancelSocket_muted (sound : hub.Sound ending)
    (gone : hub.isCancelled lane = true) (socketId : String) :
    hub.Muted (hub.cancelSocket socketId) lane := by
  cases has : hub.sockets.get socketId with
  | none =>
    unfold ConsumerPreparations.cancelSocket
    rw [has]
    exact ⟨gone, rfl⟩
  | some owned =>
    obtain ⟨state, found, -⟩ := sound.lane socketId owned has
    rw [cancelSocket_eq has found]
    refine ⟨isCancelled_iff.mpr ?_, ?_⟩
    · refine (isCancelled_iff.mp gone).imp_left fun ⟨before, there, flagged⟩ => ?_
      obtain ⟨after, stored, ⟨-, rfl⟩ | ⟨-, rfl⟩⟩ := after_changeLane owned
        (fun state => { state with cancelled := true, queue := .empty }) there
      · exact ⟨_, stored, rfl⟩
      · exact ⟨_, stored, flagged⟩
    · unfold ConsumerPreparations.deliveries
      rw [List.filter_append]
      refine List.append_right_eq_self.mpr (List.filter_eq_nil_iff.mpr fun settled member => ?_)
      obtain ⟨job, -, rfl⟩ := List.mem_map.mp member
      simp [PreparationSettlement.isValue]

/-- Once a lane is cancelled or the coordinator is closed, no step delivers a value of it. -/
theorem Steady.muted (steady : hub.Steady) (gone : hub.isCancelled lane = true)
    (action : PreparationAction T E) : hub.Muted (hub.step action) lane := by
  cases action with
  | run socketId payload =>
    rw [ConsumerPreparations.step]
    cases running : hub.closed with
    | true =>
      rw [ConsumerPreparations.run, if_pos running]
      exact ⟨gone, deliveries_settle (Or.inr rfl)⟩
    | false => exact (quiet_run steady.sound running socketId payload).muted gone
  | completed call outcome =>
    simp only [ConsumerPreparations.step, ConsumerPreparations.complete]
    split
    · exact ⟨gone, rfl⟩
    · next job found =>
      obtain ⟨still, same⟩ := (quiet_finish job).muted gone
      refine ⟨still, (deliveries_settle ?_).trans same⟩
      by_cases own : job.lane = lane
      · right
        unfold settlementOf
        rw [own, gone]
        rfl
      · exact Or.inl fun equal => own (Option.some.inj equal)
  | cancelSocket socketId => exact steady.sound.cancelSocket_muted gone socketId
  | close id =>
    obtain ⟨-, -, closed⟩ := steady.sound.close steady.ready id
    refine ⟨isCancelled_iff.mpr (Or.inr closed), ?_⟩
    have each (sockets : List String) : ∀ hub : ConsumerPreparations T E, hub.Sound none →
        hub.isCancelled lane = true →
        (sockets.foldl (fun hub socketId => hub.cancelSocket socketId) hub).deliveries lane =
          hub.deliveries lane := by
      induction sockets with
      | nil => exact fun _ _ _ => rfl
      | cons socketId rest ih =>
        intro hub sound gone
        obtain ⟨still, same⟩ := sound.cancelSocket_muted gone socketId
        exact (ih _ (sound.cancelSocket socketId) still).trans same
    obtain ⟨-, -, -, equal⟩ := steady.sound.cancelSockets hub.sockets.keys steady.ready
    have same := each hub.sockets.keys hub steady.sound gone
    simp only [ConsumerPreparations.step, ConsumerPreparations.close]
    rw [equal]
    split_ifs <;> exact same
  | closeResumes id =>
    simp only [ConsumerPreparations.step, ConsumerPreparations.closeResumes]
    split_ifs <;> exact ⟨gone, rfl⟩

/-! ## The promises -/

theorem Steady.completes (steady : hub.Steady) {job : StartedPreparation}
    (works : job ∈ hub.running) (outcome : Except E T) :
    ⟨job.call, some job.lane, hub.settlementOf job.lane outcome⟩ ∈
      (hub.step (.completed job.call outcome)).settled := by
  rw [ConsumerPreparations.step, ConsumerPreparations.complete]
  cases found : hub.running.find? (·.call == job.call) with
  | none => exact absurd (List.find?_eq_none.mp found job works) (by simp)
  | some other =>
    have same : other.call = job.call := by simpa using List.find?_some found
    -- a call is at work at most once
    obtain rfl : other = job := by
      have begun := ((steady.sound.unfinished other).mp (List.mem_of_find?_eq_some found)).1
      have started := ((steady.sound.unfinished job).mp works).1
      exact List.inj_on_of_nodup_map steady.sound.once begun started same
    exact List.mem_append_right _ List.mem_cons_self

theorem Steady.coordinated (steady : hub.Steady) : hub.Coordinated :=
  { steady.sound with
    hubLimit := steady.sound.limit
    active := by
      rw [steady.sound.active]
      exact steady.sound.running_perm.length_eq
    laneActive lane state found := by
      rw [(steady.sound.lanes lane state found).active, steady.sound.running_perm.countP_eq,
        List.countP_eq_length_filter, List.filter_filter]
      refine congrArg List.length (List.filter_congr fun job _ => ?_)
      simp only [Bool.decide_and]
      exact Bool.and_comm _ _
    waiting := by
      rw [steady.sound.waiting]
      unfold queued
      exact hub.lanes.total_congr fun _ state _ => by
        simp only [List.map_const', List.sum_replicate_nat, Nat.mul_one]
    laneLimit positive lane state found := (steady.sound.lanes lane state found).limit positive
    inOrder lane state found := (steady.sound.lanes lane state found).ordered
    onePlace call below := by
      have placed := steady.sound.placed call
      rw [if_pos below] at placed
      exact placed
    notYet call above := by
      have placed := steady.sound.placed call
      rw [if_neg (Nat.not_lt.mpr above)] at placed
      omega
    settles idle call below := by
      have placed := steady.sound.placed call
      have working : hub.running = [] :=
        List.eq_nil_of_length_eq_zero (steady.sound.active ▸ idle)
      have waits : hub.queuedTimes call = hub.lanes.total fun _ => 0 := by
        unfold queuedTimes queued
        refine hub.lanes.total_congr fun lane state found => ?_
        rw [steady.idle idle found]
        rfl
      have zero : (hub.lanes.total fun _ => 0) = 0 := by
        unfold OrderedMap.total
        exact List.sum_eq_zero_iff_forall_eq_nat.mpr fun term member => by
          obtain ⟨entry, -, same⟩ := List.mem_map.mp member
          exact same.symm
      rw [waits, zero, working, List.countP_nil, if_pos below, if_neg nofun] at placed
      omega
    noneStranded _ _ found waits room := steady.noneStranded found waits room
    completes _ works outcome := steady.completes works outcome
    cancels socketId lane has := by
      obtain ⟨state, found, -⟩ := steady.sound.lane socketId lane has
      rw [ConsumerPreparations.step, cancelSocket_eq has found]
      refine isCancelled_iff.mpr (Or.inl ⟨{ state with cancelled := true, queue := .empty }, ?_, rfl⟩)
      show (hub.changeLane lane _).lanes.get lane = _
      rw [get_changeLane, if_pos rfl, found]
      rfl
    shuts id _ := isCancelled_iff.mpr (Or.inr (steady.sound.close steady.ready id).2.2) }

/-- The calls are numbered one after the other. -/
theorem Steady.nextCall_step (steady : hub.Steady) (action : PreparationAction T E) :
    (hub.step action).nextCall = hub.nextCall + [action].countP (·.isRun) := by
  have kept (socketId : String) (hub : ConsumerPreparations T E) :
      (hub.cancelSocket socketId).nextCall = hub.nextCall := by
    unfold ConsumerPreparations.cancelSocket
    split
    · rfl
    · simp only [foldl_cancelJob]
      rfl
  cases action with
  | run socketId payload =>
    rw [ConsumerPreparations.step]
    cases running : hub.closed with
    | true =>
      rw [ConsumerPreparations.run, if_pos running]
      rfl
    | false => exact (quiet_run steady.sound running socketId payload).nextCall
  | completed call outcome =>
    simp only [ConsumerPreparations.step, ConsumerPreparations.complete]
    split
    · rfl
    · next job found => exact (quiet_finish job).nextCall
  | cancelSocket socketId => exact kept socketId hub
  | close id =>
    have each (sockets : List String) : ∀ hub : ConsumerPreparations T E,
        (sockets.foldl (fun hub socketId => hub.cancelSocket socketId) hub).nextCall =
          hub.nextCall := by
      induction sockets with
      | nil => exact fun _ => rfl
      | cons socketId rest ih => exact fun hub => (ih _).trans (kept socketId hub)
    have same := each hub.sockets.keys { hub with closed := true }
    simp only [ConsumerPreparations.step, ConsumerPreparations.close]
    split_ifs <;> exact same
  | closeResumes id =>
    simp only [ConsumerPreparations.step, ConsumerPreparations.closeResumes]
    split_ifs <;> rfl

/-! ## Every run -/

/-- Every run is steady. -/
theorem steady_run (limits : PreparationLimits) (actions : List (PreparationAction T E)) :
    (Library.run step { limits } actions : ConsumerPreparations T E).Steady := by
  have keeps : ∀ (hub : ConsumerPreparations T E) (action : PreparationAction T E), hub.Steady →
      (hub.step action).Steady := fun _ action steady => steady.step action
  exact run_invariant step keeps (steady_initial limits) actions

/-- In every run the coordinator keeps its promises to every call that was made, and a lane that is
cancelled, or whose coordinator is closed, never delivers a value again. -/
theorem preparations_coordinated (limits : PreparationLimits)
    (actions later : List (PreparationAction T E)) :
    (Library.run step { limits } actions : ConsumerPreparations T E).Coordinated ∧
      (Library.run step { limits } actions : ConsumerPreparations T E).nextCall =
        actions.countP (·.isRun) ∧
      ∀ lane, (Library.run step { limits } actions : ConsumerPreparations T E).isCancelled lane =
          true →
        (Library.run step { limits } (actions ++ later) : ConsumerPreparations T E).deliveries
            lane =
          (Library.run step { limits } actions : ConsumerPreparations T E).deliveries lane := by
  have counts : ∀ (taken : List (PreparationAction T E)) (hub : ConsumerPreparations T E)
      (action : PreparationAction T E), hub.Steady ∧ hub.nextCall = taken.countP (·.isRun) →
        (hub.step action).Steady ∧ (hub.step action).nextCall =
          (taken ++ [action]).countP (·.isRun) := by
    rintro taken hub action ⟨steady, counted⟩
    rw [List.countP_append, ← counted]
    exact ⟨steady.step action, steady.nextCall_step action⟩
  have counted := (run_history step counts ⟨steady_initial limits, rfl⟩ actions).2
  refine ⟨(steady_run limits actions).coordinated, counted, fun lane gone => ?_⟩
  rw [run_append]
  generalize before : (Library.run step { limits } actions : ConsumerPreparations T E) = hub at gone
  have start : hub.Steady := before ▸ steady_run limits actions
  have keeps : ∀ (next : ConsumerPreparations T E) (action : PreparationAction T E),
      next.Steady ∧ hub.Muted next lane →
        (next.step action).Steady ∧ hub.Muted (next.step action) lane := by
    rintro next action ⟨steady, cancelled, deliveries⟩
    obtain ⟨still, same⟩ := steady.muted cancelled action
    exact ⟨steady.step action, still, same.trans deliveries⟩
  exact (run_invariant step keeps ⟨start, gone, rfl⟩ later).2.deliveries

/-- With room for one preparation, the second of a socket is started when the first ends, and a
socket that is cancelled delivers no value. -/
example :
    ((Library.run step { limits := ⟨1, 2⟩ } [.run "a" .other, .run "a" (.array 3),
      .run "b" .other, .completed 0 (.ok 7), .cancelSocket "a", .completed 1 (.ok 8)] :
        ConsumerPreparations Nat Unit).settled.map fun settled => settled.call) = [0, 1] := by
  decide

end ConsumerPreparations

end PlugHub.Scheduling
