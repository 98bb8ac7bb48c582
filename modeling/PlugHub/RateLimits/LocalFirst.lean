import PlugHub.RateLimits.FixedWindow

/-!
# Admission before Redis

With local-first limiting a replica admits a request against the window in its own memory, and asks
Redis afterwards, in the background. When Redis denies the request, which has long been admitted,
its cost is given back to the window in memory. The window then has room again for a request that
Redis will deny too.

The state is that of one identity: the entry in the memory of every replica, the counter in Redis,
and the consumes that Redis has not decided or whose answer has not arrived.
-/

namespace PlugHub.RateLimits

open Library

/-- The entry of an identity on one replica, with what became of its current window. -/
structure Replica where
  memory : Option WindowState := none
  admitted : Nat := 0
  givenBack : Bool := false

namespace Replica

variable (config : LimiterConfig) (replica : Replica)

/-- The replica when its entry is used at an instant, which may begin a window. -/
def entered (nowMs : Int) : Replica :=
  if opensWindow config nowMs replica.memory then { memory := replica.memory } else replica

/-- `allowRelayRpcRequest`: whether it admits the request, and the replica afterwards. -/
def allowLocal (nowMs : Int) (cost : Nat) : Bool × Replica :=
  let entered := replica.entered config nowMs
  let (allowed, memory) := allow config nowMs cost replica.memory
  (allowed,
    { entered with
      memory
      admitted :=
        if allowed then entered.admitted + max config.leastCost cost else entered.admitted })

/-- `refundRelayRpcRequest`. -/
def refundLocal (cost : Nat) : Replica :=
  { replica with memory := refund config cost replica.memory, givenBack := true }

/-- Another counter of the entry is used. -/
def touch (nowMs : Int) : Replica :=
  { replica.entered config nowMs with memory := some (ensureState config nowMs replica.memory) }

end Replica

/-- A consume on Redis for a request that was admitted: `reconcileSocketRateLimitRedisConsume`. -/
structure Reconciliation where
  replica : Nat
  cost : Nat
  allowed : Option Bool := none

/-- The replicas and Redis. -/
structure Cluster where
  replicas : List Replica
  redis : Option Counter := none
  reconciling : List Reconciliation := []

/-- What the replicas and Redis do. -/
inductive ClusterAction where
  /-- A replica is asked for a request: `allowRelayRpcRequestAsync`. -/
  | request (replica : Nat) (nowMs : Int) (cost : Nat)
  | decided (position : Nat) (nowMs : Int)
  | reconciled (position : Nat)
  | touch (replica : Nat) (nowMs : Int)

section Step

variable (config : LimiterConfig)

/-- One step of the cluster. -/
def Cluster.step (cluster : Cluster) : ClusterAction → Cluster
  | .request index nowMs cost =>
    match cluster.replicas[index]? with
    | none => cluster
    | some replica =>
      let (allowed, after) := replica.allowLocal config nowMs cost
      { cluster with
        replicas := cluster.replicas.set index after
        reconciling :=
          if allowed then
            cluster.reconciling ++ [⟨index, max config.leastCost cost, none⟩]
          else cluster.reconciling }
  | .decided position nowMs =>
    match cluster.reconciling[position]? with
    | some ⟨index, cost, none⟩ =>
      let (allowed, redis) := consumeRedis config nowMs cost cluster.redis
      { cluster with
        redis
        reconciling := cluster.reconciling.set position ⟨index, cost, some allowed⟩ }
    | _ => cluster
  | .reconciled position =>
    match cluster.reconciling[position]? with
    | some ⟨index, cost, some allowed⟩ =>
      let settled := { cluster with reconciling := cluster.reconciling.eraseIdx position }
      if allowed then settled
      else { settled with
        replicas := cluster.replicas.modify index fun replica => replica.refundLocal config cost }
    | _ => cluster
  | .touch index nowMs =>
    { cluster with
      replicas := cluster.replicas.modify index fun replica => replica.touch config nowMs }

/-- No replica has admitted more than the limit in its window, and all of them together no more
than the limit for each. -/
structure Cluster.Bounded (cluster : Cluster) : Prop where
  each : ∀ replica ∈ cluster.replicas, replica.admitted ≤ config.max
  total : (cluster.replicas.map (·.admitted)).sum ≤ cluster.replicas.length * config.max

/-- A replica admits no request in a window in which a request that Redis denied was given back. -/
def NotReopened (cluster : Cluster) : ClusterAction → Prop
  | .request index nowMs cost => ∀ replica ∈ cluster.replicas[index]?,
    (replica.allowLocal config nowMs cost).1 = true →
      (replica.entered config nowMs).givenBack = false
  | _ => True

instance (cluster : Cluster) : ∀ action, Decidable (NotReopened config cluster action)
  | .request index _ _ => inferInstanceAs (Decidable (∀ replica ∈ cluster.replicas[index]?, _))
  | .decided _ _ => inferInstanceAs (Decidable True)
  | .reconciled _ => inferInstanceAs (Decidable True)
  | .touch _ _ => inferInstanceAs (Decidable True)

end Step

/-! ## One replica -/

/-- The admitted cost is within the limit, and the count of the window covers it until something is
given back. -/
structure Replica.Sound (config : LimiterConfig) (replica : Replica) : Prop where
  within : replica.admitted ≤ config.max
  counted : replica.givenBack = false → replica.admitted ≤ (memoryCount replica.memory).getD 0

namespace Replica.Sound

variable {config : LimiterConfig} {replica : Replica}

theorem initial (config : LimiterConfig) : Sound config {} :=
  ⟨Nat.zero_le _, fun _ => Nat.zero_le _⟩

variable (sound : replica.Sound config)

include sound

theorem entered (nowMs : Int) :
    (replica.entered config nowMs).admitted ≤ config.max ∧
      ((replica.entered config nowMs).givenBack = false →
        (replica.entered config nowMs).admitted ≤
          (ensureState config nowMs replica.memory).count) := by
  unfold Replica.entered
  by_cases opens : opensWindow config nowMs replica.memory = true
  · rw [if_pos opens]
    exact ⟨Nat.zero_le _, fun _ => Nat.zero_le _⟩
  · rw [if_neg opens]
    refine ⟨sound.within, fun kept => ?_⟩
    have covered := sound.counted kept
    cases found : replica.memory with
    | none =>
      rw [found] at opens
      exact absurd rfl opens
    | some state =>
      have lasts : ¬ config.windowMs ≤ nowMs - state.windowStartMs := by
        intro exceeds
        rw [found] at opens
        exact opens (decide_eq_true exceeds)
      rw [found] at covered
      rw [ensureState, if_neg lasts]
      exact covered

theorem allowLocal (nowMs : Int) (cost : Nat)
    (closed : (replica.allowLocal config nowMs cost).1 = true →
      (replica.entered config nowMs).givenBack = false) :
    (replica.allowLocal config nowMs cost).2.Sound config := by
  obtain ⟨within, covered⟩ := sound.entered nowMs
  unfold Replica.allowLocal allow at *
  by_cases full : config.max <
    (ensureState config nowMs replica.memory).count + max config.leastCost cost
  · simp only [if_pos full, Bool.false_eq_true, if_false]
    exact ⟨within, covered⟩
  · simp only [if_neg full, if_true] at closed ⊢
    have before := covered (closed trivial)
    exact ⟨by simp only; omega, fun _ => Nat.add_le_add_right before _⟩

theorem refundLocal (cost : Nat) :
    (replica.refundLocal config cost).Sound config :=
  ⟨sound.within, fun kept => by cases kept⟩

theorem touch (nowMs : Int) :
    (replica.touch config nowMs).Sound config :=
  ⟨(sound.entered nowMs).1, (sound.entered nowMs).2⟩

end Replica.Sound

/-! ## The cluster -/

/-- Every replica. -/
def Cluster.Sound (config : LimiterConfig) (cluster : Cluster) : Prop :=
  ∀ replica ∈ cluster.replicas, replica.Sound config

namespace Cluster.Sound

variable {config : LimiterConfig} {cluster : Cluster}

theorem bounded (sound : cluster.Sound config) : cluster.Bounded config := by
  have each : ∀ replica ∈ cluster.replicas, replica.admitted ≤ config.max :=
    fun replica member => (sound replica member).within
  refine ⟨each, ?_⟩
  generalize cluster.replicas = replicas at each ⊢
  induction replicas with
  | nil => exact Nat.zero_le _
  | cons replica rest ih =>
    have first := each replica List.mem_cons_self
    have others := ih fun other member => each other (List.mem_cons_of_mem _ member)
    simp only [List.map_cons, List.sum_cons, List.length_cons, Nat.succ_mul]
    omega

theorem modify (sound : cluster.Sound config) (index : Nat) (change : Replica → Replica)
    (keeps : ∀ replica, replica.Sound config → (change replica).Sound config) :
    ∀ replica ∈ cluster.replicas.modify index change, replica.Sound config := by
  intro replica member
  obtain ⟨position, found⟩ := List.mem_iff_getElem?.mp member
  rw [List.getElem?_modify] at found
  obtain ⟨before, stored, rfl⟩ := Option.map_eq_some_iff.mp found
  have earlier := sound before (List.mem_of_getElem? stored)
  split_ifs
  · exact keeps before earlier
  · exact earlier

/-- A step without a late refund keeps the bounds. -/
theorem step (sound : cluster.Sound config) (action : ClusterAction)
    (closed : NotReopened config cluster action) : (cluster.step config action).Sound config := by
  cases action with
  | request index nowMs cost =>
    cases found : cluster.replicas[index]? with
    | none => simpa only [Cluster.step, found] using sound
    | some replica =>
      simp only [Cluster.step, found]
      intro other member
      rcases List.mem_or_eq_of_mem_set member with before | rfl
      · exact sound other before
      · exact (sound replica (List.mem_of_getElem? found)).allowLocal nowMs cost
          (closed replica found)
  | decided position nowMs =>
    simp only [Cluster.step]
    split
    · exact sound
    · exact sound
  | reconciled position =>
    simp only [Cluster.step]
    split
    · split_ifs
      · exact sound
      · exact sound.modify _ _ fun _ before => before.refundLocal _
    · exact sound
  | touch index nowMs => exact sound.modify _ _ fun _ before => before.touch nowMs

end Cluster.Sound

/-- In every run in which no replica admits a request in a window in which one that Redis denied
was given back, each of any number of replicas admits no more than the limit in its window. -/
theorem local_first_bounded_when_not_reopened (config : LimiterConfig) (count : Nat)
    (actions : List ClusterAction)
    (closed : Meets (Cluster.step config) (NotReopened config)
      { replicas := List.replicate count {} } actions) :
    ∀ taken, taken <+: actions →
      (run (Cluster.step config) { replicas := List.replicate count {} } taken).Bounded config := by
  intro taken first
  have keeps : ∀ cluster action, Cluster.Sound config cluster → NotReopened config cluster action →
      Cluster.Sound config (cluster.step config action) :=
    fun _ action sound fine => sound.step action fine
  have initially : Cluster.Sound config { replicas := List.replicate count {} } := by
    intro replica member
    rw [List.eq_of_mem_replicate member]
    exact Replica.Sound.initial config
  exact (every_state_of_meets (Cluster.step config) keeps initially closed taken first).bounded

/-- One request in a second. -/
def oneRequestASecond : LimiterConfig := onePerSecond

/-- Two replicas admit a request each, and Redis denies that of the second one. -/
def admittedByBoth : List ClusterAction :=
  [.request 0 0 1, .request 1 1 1, .decided 0 2, .decided 1 3, .reconciled 1, .reconciled 0]

/-- The second replica admits nothing afterwards, so the bound holds. -/
theorem local_first_bounded_by_both :
    (run (Cluster.step oneRequestASecond) { replicas := List.replicate 2 {} }
      admittedByBoth).Bounded oneRequestASecond :=
  local_first_bounded_when_not_reopened oneRequestASecond 2 admittedByBoth (by decide) _
    (List.prefix_refl _)

/-- The second replica is asked for another request in the same window. -/
def admittedOnceMore : List ClusterAction := admittedByBoth ++ [.request 1 4 1]

/-- It admits it, for what Redis denied was given back to its window: two requests where the limit
is one. -/
theorem local_first_admits_once_more :
    ¬(run (Cluster.step oneRequestASecond) { replicas := List.replicate 2 {} }
      admittedOnceMore).Bounded oneRequestASecond := by
  intro bounded
  exact absurd (bounded.each _ (List.mem_of_getElem? (i := 1) rfl)) (by decide)

end PlugHub.RateLimits
