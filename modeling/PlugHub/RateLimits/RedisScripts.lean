import Mathlib.Data.PNat.Basic
import PlugHub.Library.Runs

/-!
# The rate limit scripts

The counter that a rate limit keeps under one Redis key, the commands that the scripts use on it,
and the three scripts: a consume, a consume that is rolled back over the limit, and a refund. A
script runs at one instant of the server's clock, and a key that expired before that instant is
gone. The state of a run is what is stored under the key.
-/

namespace PlugHub.RateLimits

open Library

/-- What is stored under a key. -/
structure Counter where
  value : Int
  expiresAt : Option Int
deriving DecidableEq

namespace Redis

/-- The key as a command at an instant finds it. -/
def live (nowMs : Int) (key : Option Counter) : Option Counter :=
  key.filter fun counter => counter.expiresAt.all (nowMs ≤ ·)

/-- The number that a command reads. -/
def stored (key : Option Counter) : Int := (key.map Counter.value).getD 0

/-- Add to the number; a missing key is created without an expiry. -/
def incrby (key : Option Counter) (amount : Int) : Int × Option Counter :=
  (stored key + amount, some ⟨stored key + amount, key.bind Counter.expiresAt⟩)

/-- Subtract from the number; a missing key is created without an expiry. -/
def decrby (key : Option Counter) (amount : Int) : Int × Option Counter := incrby key (-amount)

/-- Let a key expire after some time; a time that is not positive deletes it. -/
def pexpire (nowMs : Int) (key : Option Counter) (durationMs : Int) : Option Counter :=
  if durationMs ≤ 0 then none
  else key.map fun counter => { counter with expiresAt := some (nowMs + durationMs) }

/-- How long a key still lives: minus two for a missing key, minus one for one that stays. -/
def pttl (nowMs : Int) : Option Counter → Int
  | none => -2
  | some counter =>
    match counter.expiresAt with
    | none => -1
    | some instant => max 0 (instant - nowMs)

/-- Delete a key. -/
def del (_ : Option Counter) : Option Counter := none

end Redis

open Redis

section Scripts

variable (nowMs : Int) (key : Option Counter)

/-- The refund script. -/
def refundScript (cost : Int) : Int × Option Counter :=
  let (v, key) := decrby key cost
  (v, if v ≤ 0 then del key else key)

/-- The consume script, which knows no limit. -/
def consumeScript (cost windowMs : Int) : Int × Option Counter :=
  let (v, key) := incrby key cost
  if v = cost then (v, pexpire nowMs key windowMs)
  else if pttl nowMs key < 0 then (v, pexpire nowMs key windowMs)
  else (v, key)

/-- The script that consumes or rolls back: whether the cost was admitted, and the number after. -/
def consumeOrRollbackScript (cost windowMs maxAllowed : Int) : (Bool × Int) × Option Counter :=
  let (v, key) := incrby key cost
  let key :=
    if v = cost then pexpire nowMs key windowMs
    else if pttl nowMs key < 0 then pexpire nowMs key windowMs
    else key
  if maxAllowed < v then
    let (v, key) := decrby key cost
    ((false, v), if v ≤ 0 then del key else key)
  else ((true, v), key)

end Scripts

/-- One execution of a script, at an instant of the server's clock. -/
inductive Execution where
  | consume (nowMs : Int) (cost windowMs : ℕ+)
  | consumeOrRollback (nowMs : Int) (cost windowMs max : ℕ+)
  | refund (nowMs : Int) (cost : ℕ+)

namespace Execution

/-- The instant of an execution. -/
def nowMs : Execution → Int
  | .consume nowMs _ _ => nowMs
  | .consumeOrRollback nowMs _ _ _ => nowMs
  | .refund nowMs _ => nowMs

/-- What an execution leaves under a key that is alive. -/
def applied (key : Option Counter) : Execution → Option Counter
  | .consume nowMs cost windowMs => (consumeScript nowMs key cost windowMs).2
  | .consumeOrRollback nowMs cost windowMs max =>
    (consumeOrRollbackScript nowMs key cost windowMs max).2
  | .refund _ cost => (refundScript key cost).2

/-- The limit that an execution names; one without a limit names none. -/
def limit : Execution → Int
  | .consumeOrRollback _ _ _ max => max
  | _ => 0

/-- The hub executes the script. -/
def invoked : Execution → Bool
  | .consume _ _ _ => false
  | _ => true

end Execution

/-- Execute a script on what is stored. -/
def execute (key : Option Counter) (execution : Execution) : Option Counter :=
  execution.applied (live execution.nowMs key)

/-- The largest limit of a run. -/
def maximumUsed (executions : List Execution) : Int :=
  executions.foldl (fun most execution => max most execution.limit) 0

/-! ## The commands of the hub -/

/-- What a consume is asked for; an absent cost is one. -/
structure ConsumeInput where
  windowMs : Int
  max : Int
  cost : Option Int := none

/-- What a consume answers. -/
structure ConsumeResult where
  allowed : Bool
  remaining : Int
  limit : Int
  used : Int

/-- A cost is at least one. -/
def safeCost (cost : Option Int) : ℕ+ :=
  ⟨(max 1 (cost.getD 1)).toNat, by omega⟩

/-- Consume; without a limit or a window no script is executed. -/
def consumeSocketRateLimitRedis (nowMs : Int) (input : ConsumeInput) (key : Option Counter) :
    Option ConsumeResult × Option Counter :=
  if input.max ≤ 0 ∨ input.windowMs ≤ 0 then (none, key)
  else
    let cost := safeCost input.cost
    match consumeOrRollbackScript nowMs (live nowMs key) cost input.windowMs input.max with
    | ((allowed, reply), key) =>
      let used := max 0 reply
      (some ⟨allowed, max 0 (input.max - used), input.max, used⟩, key)

/-- Refund. -/
def refundSocketRateLimitRedis (nowMs : Int) (cost : Option Int) (key : Option Counter) :
    Option Counter :=
  (refundScript (live nowMs key) (safeCost cost)).2

theorem consumeSocketRateLimitRedis_executes (nowMs : Int) (input : ConsumeInput)
    (key : Option Counter) :
    (consumeSocketRateLimitRedis nowMs input key).2 = key ∨
      ∃ execution : Execution, execution.invoked = true ∧
        (consumeSocketRateLimitRedis nowMs input key).2 = execute key execution := by
  unfold consumeSocketRateLimitRedis
  by_cases disabled : input.max ≤ 0 ∨ input.windowMs ≤ 0
  · rw [if_pos disabled]
    exact .inl rfl
  · rw [if_neg disabled]
    push Not at disabled
    obtain ⟨limited, lasting⟩ := disabled
    have windowMs : ((input.windowMs.toNat : ℕ) : Int) = input.windowMs := by omega
    have limit : ((input.max.toNat : ℕ) : Int) = input.max := by omega
    refine .inr ⟨.consumeOrRollback nowMs (safeCost input.cost)
      ⟨input.windowMs.toNat, by omega⟩ ⟨input.max.toNat, by omega⟩, rfl, ?_⟩
    simp only [execute, Execution.applied, Execution.nowMs, PNat.mk_coe, windowMs, limit]

theorem refundSocketRateLimitRedis_executes (nowMs : Int) (cost : Option Int)
    (key : Option Counter) :
    refundSocketRateLimitRedis nowMs cost key = execute key (.refund nowMs (safeCost cost)) := rfl

/-! ## What one execution does -/

/-- What is stored is positive and expires. -/
def Ticking (key : Option Counter) : Prop :=
  ∀ counter ∈ key, 1 ≤ counter.value ∧ counter.expiresAt.isSome

theorem live_cases (nowMs : Int) (key : Option Counter) :
    live nowMs key = key ∨ live nowMs key = none := by
  cases key with
  | none => exact .inl rfl
  | some counter =>
    by_cases alive : counter.expiresAt.all (nowMs ≤ ·)
    · exact .inl (by simp only [live, Option.filter, alive, if_true])
    · exact .inr (by simp only [live, Option.filter, alive, Bool.false_eq_true, if_false])

variable {key : Option Counter}

theorem ticking_live (ticking : Ticking key) (nowMs : Int) : Ticking (live nowMs key) := by
  rcases live_cases nowMs key with same | gone
  · rw [same]
    exact ticking
  · rw [gone]
    simp [Ticking]

/-- When the window of a key ends, or of one that is created now. -/
def windowEnd (nowMs windowMs : Int) (key : Option Counter) : Option Int :=
  match key with
  | some counter => counter.expiresAt
  | none => some (nowMs + windowMs)

theorem pttl_nonneg {nowMs : Int} {counter : Counter} (expires : counter.expiresAt.isSome) :
    ¬pttl nowMs (some counter) < 0 := by
  obtain ⟨instant, equal⟩ := Option.isSome_iff_exists.mp expires
  simp only [pttl, equal]
  omega

theorem consumed (ticking : Ticking key) (nowMs : Int) (cost windowMs : ℕ+) :
    consumeScript nowMs key cost windowMs =
      (stored key + cost, some ⟨stored key + cost, windowEnd nowMs windowMs key⟩) := by
  cases key with
  | none => simp [consumeScript, incrby, stored, pexpire, windowEnd]
  | some counter =>
    obtain ⟨positive, expires⟩ := ticking counter rfl
    have grown : ¬counter.value + cost = cost := by omega
    have alive : ¬pttl nowMs (some ⟨counter.value + cost, counter.expiresAt⟩) < 0 :=
      pttl_nonneg expires
    simp [consumeScript, incrby, stored, windowEnd, grown, alive]

theorem consumedOrRolledBack (ticking : Ticking key) (nowMs : Int) (cost windowMs limit : ℕ+) :
    consumeOrRollbackScript nowMs key cost windowMs limit =
      if stored key + cost ≤ limit then
        ((true, stored key + cost), some ⟨stored key + cost, windowEnd nowMs windowMs key⟩)
      else ((false, stored key), key) := by
  have added := consumed ticking nowMs cost windowMs
  have split : consumeOrRollbackScript nowMs key cost windowMs limit =
      (let (v, key) := consumeScript nowMs key cost windowMs
      if (limit : Int) < v then
        let (v, key) := decrby key cost
        ((false, v), if v ≤ 0 then del key else key)
      else ((true, v), key)) := by
    unfold consumeOrRollbackScript consumeScript
    simp only
    split_ifs <;> rfl
  rw [split, added]
  simp only
  by_cases fits : stored key + cost ≤ limit
  · rw [if_neg (by omega), if_pos fits]
  · rw [if_pos (by omega), if_neg fits]
    cases key with
    | none => simp [decrby, incrby, stored, del]
    | some counter =>
      obtain ⟨positive, -⟩ := ticking counter rfl
      have stays : ¬counter.value ≤ 0 := by omega
      simp [decrby, incrby, stored, windowEnd, stays]

theorem refunded (key : Option Counter) (cost : ℕ+) :
    (refundScript key cost).2 =
      if stored key - cost ≤ 0 then none
      else key.map fun counter => { counter with value := counter.value - cost } := by
  have positive := cost.pos
  unfold refundScript decrby incrby
  simp only [← sub_eq_add_neg]
  by_cases empty : stored key - cost ≤ 0
  · rw [if_pos empty, if_pos empty, del]
  · rw [if_neg empty, if_neg empty]
    cases key with
    | none =>
      simp only [stored, Option.map_none, Option.getD_none] at empty
      omega
    | some counter => rfl

/-- What an execution answers and leaves. -/
def Lawful (key : Option Counter) : Execution → Prop
  | .consume nowMs cost windowMs =>
    execute key (.consume nowMs cost windowMs) =
      some ⟨stored (live nowMs key) + cost, windowEnd nowMs windowMs (live nowMs key)⟩
  | .consumeOrRollback nowMs cost windowMs limit =>
    let allowed := (consumeOrRollbackScript nowMs (live nowMs key) cost windowMs limit).1.1
    let left := execute key (.consumeOrRollback nowMs cost windowMs limit)
    (allowed = true ↔ stored (live nowMs key) + cost ≤ limit) ∧
      (allowed = true →
        left = some ⟨stored (live nowMs key) + cost, windowEnd nowMs windowMs (live nowMs key)⟩) ∧
      (allowed = false → left = live nowMs key)
  | .refund nowMs cost =>
    (∀ counter ∈ execute key (.refund nowMs cost),
      ∃ before ∈ live nowMs key, counter.value = before.value - cost ∧ 1 ≤ counter.value ∧
        counter.expiresAt = before.expiresAt) ∧
      ∀ before ∈ live nowMs key, cost < before.value →
        execute key (.refund nowMs cost) = some { before with value := before.value - cost }

theorem lawful_of_ticking (ticking : Ticking key) (execution : Execution) :
    Lawful key execution := by
  have alive := ticking_live ticking execution.nowMs
  cases execution with
  | consume nowMs cost windowMs => exact congrArg Prod.snd (consumed alive nowMs cost windowMs)
  | consumeOrRollback nowMs cost windowMs limit =>
    have spec := consumedOrRolledBack alive nowMs cost windowMs limit
    simp only [Lawful, execute, Execution.applied, Execution.nowMs] at spec ⊢
    rw [spec]
    by_cases fits : stored (live nowMs key) + cost ≤ limit
    · simp [fits]
    · simp [fits]
  | refund nowMs cost =>
    have spec := refunded (live nowMs key) cost
    have number : ∀ before ∈ live nowMs key, stored (live nowMs key) = before.value := by
      intro before present
      rw [Option.mem_def.mp present]
      rfl
    simp only [Lawful, execute, Execution.applied, Execution.nowMs]
    rw [spec]
    constructor
    · intro counter member
      by_cases empty : stored (live nowMs key) - cost ≤ 0
      · rw [if_pos empty] at member
        cases member
      · rw [if_neg empty] at member
        obtain ⟨before, present, rfl⟩ := Option.mem_map.mp member
        rw [number before present] at empty
        exact ⟨before, present, rfl, by simp only; omega, rfl⟩
    · intro before present larger
      rw [if_neg (by rw [number before present]; omega), Option.mem_def.mp present]
      rfl

theorem isSome_windowEnd (ticking : Ticking key) (nowMs windowMs : Int) :
    (windowEnd nowMs windowMs key).isSome := by
  cases key with
  | none => rfl
  | some counter => exact (ticking counter rfl).2

theorem stored_nonneg (ticking : Ticking key) : 0 ≤ stored key := by
  cases key with
  | none => exact le_rfl
  | some counter =>
    have positive := (ticking counter rfl).1
    simp only [stored, Option.map_some, Option.getD_some]
    omega

theorem ticking_execute (ticking : Ticking key) (execution : Execution) :
    Ticking (execute key execution) := by
  have lawful := lawful_of_ticking ticking execution
  have alive := ticking_live ticking execution.nowMs
  have least := stored_nonneg alive
  intro counter member
  cases execution with
  | consume nowMs cost windowMs =>
    have positive := cost.pos
    rw [lawful] at member
    obtain rfl := Option.mem_some_iff.mp member
    refine ⟨?_, isSome_windowEnd alive _ _⟩
    simp only [Execution.nowMs] at least
    simp only
    omega
  | consumeOrRollback nowMs cost windowMs limit =>
    have positive := cost.pos
    obtain ⟨-, admits, denies⟩ := lawful
    cases answer : (consumeOrRollbackScript nowMs (live nowMs key) cost windowMs limit).1.1 with
    | true =>
      rw [admits answer] at member
      obtain rfl := Option.mem_some_iff.mp member
      refine ⟨?_, isSome_windowEnd alive _ _⟩
      simp only [Execution.nowMs] at least
      simp only
      omega
    | false =>
      rw [denies answer] at member
      exact alive counter member
  | refund nowMs cost =>
    obtain ⟨before, present, -, positive, expires⟩ := lawful.1 counter member
    exact ⟨positive, expires ▸ (alive before present).2⟩

/-- What is stored is at most a bound. -/
def AtMost (bound : Int) (key : Option Counter) : Prop := ∀ counter ∈ key, counter.value ≤ bound

theorem atMost_execute {bound : Int} (atMost : AtMost bound key)
    (ticking : Ticking key) {execution : Execution} (invoked : execution.invoked = true) :
    AtMost (max bound execution.limit) (execute key execution) := by
  have lawful := lawful_of_ticking ticking execution
  have found : ∀ before ∈ live execution.nowMs key, before.value ≤ bound := by
    intro before present
    exact atMost before (Option.mem_filter_iff.mp present).1
  intro counter member
  cases execution with
  | consume nowMs cost windowMs => cases invoked
  | consumeOrRollback nowMs cost windowMs limit =>
    obtain ⟨decides, admits, denies⟩ := lawful
    cases answer : (consumeOrRollbackScript nowMs (live nowMs key) cost windowMs limit).1.1 with
    | true =>
      rw [admits answer] at member
      obtain rfl := Option.mem_some_iff.mp member
      exact le_max_of_le_right (decides.mp answer)
    | false =>
      rw [denies answer] at member
      exact le_max_of_le_left (found counter member)
  | refund nowMs cost =>
    have positive := cost.pos
    obtain ⟨before, present, value, -⟩ := lawful.1 counter member
    have largest := found before present
    exact le_max_of_le_left (by omega)

/-- A run of scripts stays within the largest limit. -/
theorem atMost_run {executions : List Execution}
    (invoked : ∀ earlier ∈ executions, earlier.invoked = true) {bound : Int}
    (atMost : AtMost bound key) (ticking : Ticking key) :
    AtMost (executions.foldl (fun most execution => max most execution.limit) bound)
      (run execute key executions) := by
  induction executions generalizing bound key with
  | nil => exact atMost
  | cons first rest ih =>
    have next := atMost_execute atMost ticking (invoked first List.mem_cons_self)
    exact ih (fun later member => invoked later (List.mem_cons_of_mem _ member)) next
      (ticking_execute ticking first)

/-- Over every sequence of executions, what is stored is positive, expires and is at most the
largest limit (of executions with a limit), and the next execution is lawful: it is admitted
exactly when the cost fits, a denial changes nothing, the end of a window is set when it begins and
kept until it ends, and a refund creates nothing and leaves a positive number with its expiry. -/
theorem rate_limit_scripts_lawful (executions : List Execution) (execution : Execution) :
    (∀ counter ∈ run execute none executions,
      1 ≤ counter.value ∧ counter.expiresAt.isSome ∧
        ((∀ earlier ∈ executions, earlier.invoked = true) →
          counter.value ≤ maximumUsed executions)) ∧
      Lawful (run execute none executions) execution := by
  have keeps : ∀ key next, Ticking key → Ticking (execute key next) :=
    fun _ next fine => ticking_execute fine next
  have ticking : Ticking (run execute none executions) :=
    run_invariant execute keeps (by simp [Ticking]) executions
  refine ⟨fun counter member => ?_, lawful_of_ticking ticking execution⟩
  obtain ⟨positive, expires⟩ := ticking counter member
  exact ⟨positive, expires, fun invoked =>
    atMost_run invoked (by simp [AtMost]) (by simp [Ticking]) counter member⟩

/-- Two requests and a refund: one request is left, and the window ends when the first began it. -/
theorem two_consumed_one_refunded :
    (⟨1, some 60000⟩ : Counter) ∈ run execute none
        [.consumeOrRollback 0 1 60000 2, .consumeOrRollback 5 1 60000 2, .refund 9 1] ∧
      (1 : Int) ≤ maximumUsed
        [.consumeOrRollback 0 1 60000 2, .consumeOrRollback 5 1 60000 2, .refund 9 1] :=
  ⟨by decide, ((rate_limit_scripts_lawful
    [.consumeOrRollback 0 1 60000 2, .consumeOrRollback 5 1 60000 2, .refund 9 1]
    (.refund 10 1)).1 ⟨1, some 60000⟩ (by decide)).2.2 (by decide)⟩

end PlugHub.RateLimits
