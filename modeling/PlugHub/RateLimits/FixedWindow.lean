import PlugHub.Library.Accounting
import PlugHub.RateLimits.RedisScripts

/-!
# Fixed windows with refunds

The limiter of one key: a counter in the memory of the hub, a counter in Redis, and the callers
that admit a cost against one of them (or, when the hub decides first, against both) and give it
back later. The state of a run also says which admission belongs to which window of which counter:
a window of the memory counter begins when its entry is created or reset, a window of the Redis
counter when its key is created.
-/

namespace PlugHub.RateLimits

open Library Redis

/-- Settings of a limiter that is enabled. -/
structure LimiterConfig where
  windowMs : ℕ+
  max : ℕ+
  /-- The least cost of an admission: one for requests, zero for stream credits. -/
  leastCost : Nat := 1
  sweepStaleMultiplier : Nat := 3

/-- The entry of a key in memory. -/
structure WindowState where
  windowStartMs : Int
  count : Nat
  lastSeenAtMs : Int
deriving DecidableEq

section Memory

variable (config : LimiterConfig) (nowMs : Int)

/-- The window of an entry is over, or there is no entry. -/
def opensWindow (existing : Option WindowState) : Bool :=
  existing.all fun state => config.windowMs ≤ nowMs - state.windowStartMs

/-- The entry of a key, created or reset when a window begins. -/
def ensureState : Option WindowState → WindowState
  | none => ⟨nowMs, 0, nowMs⟩
  | some existing =>
    if config.windowMs ≤ nowMs - existing.windowStartMs then ⟨nowMs, 0, nowMs⟩
    else { existing with lastSeenAtMs := nowMs }

/-- Admit a cost when the window has room for it. -/
def allow (cost : Nat) (existing : Option WindowState) : Bool × Option WindowState :=
  let state := ensureState config nowMs existing
  let safeCost := max config.leastCost cost
  if config.max < state.count + safeCost then (false, some state)
  else (true, some { state with count := state.count + safeCost })

/-- Give back a cost, whatever the window of the entry is. -/
def refund (cost : Nat) (existing : Option WindowState) : Option WindowState :=
  existing.map fun state => { state with count := state.count - max config.leastCost cost }

/-- Drop an entry that was not used for long. -/
def sweep (existing : Option WindowState) : Option WindowState :=
  existing.filter fun state =>
    ¬(config.windowMs * config.sweepStaleMultiplier : Int) ≤ nowMs - state.lastSeenAtMs

/-- Consume on the Redis counter. -/
def consumeRedis (cost : Nat) (key : Option Counter) : Bool × Option Counter :=
  match consumeSocketRateLimitRedis nowMs ⟨config.windowMs, config.max, some cost⟩ key with
  | (decision, key) => (decision.any (·.allowed), key)

end Memory

/-- Which admission belongs to which window of a counter. -/
structure Ledger where
  windows : Nat := 0
  admissions : OrderedMap Nat (Nat × Nat) := .empty

namespace Ledger

/-- The admitted cost of a window less the refunds of its admissions. -/
def outstanding (ledger : Ledger) (window : Nat) : Nat :=
  ledger.admissions.total fun admission => if admission.1 = window then admission.2 else 0

/-- Begin a window. -/
def begin (ledger : Ledger) (begins : Bool) : Ledger :=
  if begins then { ledger with windows := ledger.windows + 1 } else ledger

/-- Admit a cost in the current window. -/
def admitCost (ledger : Ledger) (id cost : Nat) : Ledger :=
  { ledger with admissions := ledger.admissions.set id (ledger.windows, cost) }

/-- Give back a cost of an admission. -/
def refund (ledger : Ledger) (id cost : Nat) : Ledger :=
  { ledger with
    admissions := ledger.admissions.modify id fun admission => (admission.1, admission.2 - cost) }

/-- The current window has so much of an admission. -/
def Holds (ledger : Ledger) (id cost : Nat) : Prop :=
  ∃ left, ledger.admissions.get id = some (ledger.windows, left) ∧ cost ≤ left

end Ledger

/-- The limiter of one key. -/
structure LimiterState where
  redis : Option Counter := none
  memory : Option WindowState := none
  redisLedger : Ledger := {}
  memoryLedger : Ledger := {}
  nextId : Nat := 0

/-- What the callers of a limiter do, and what Redis does for them. -/
inductive LimiterAction where
  | allowRedis (nowMs : Int) (cost : Nat)
  /-- A consume that Redis executes and whose answer is lost; the caller goes on in memory. -/
  | consumeUnanswered (nowMs : Int) (cost : Nat)
  | allowMemory (nowMs : Int) (cost : Nat)
  /-- The consume that follows an admission in memory when the hub decides first. -/
  | reconcile (nowMs : Int) (id cost : Nat)
  | refundRedis (nowMs : Int) (id cost : Nat)
  | refundMemory (id cost : Nat)
  | touch (nowMs : Int)
  | sweep (nowMs : Int)
  | deleteKey

section Step

variable (config : LimiterConfig)

/-- The cost of an admission on the Redis counter. -/
def redisCost (cost : Nat) : Nat := max 1 cost

/-- One step of the limiter. -/
def LimiterState.step (state : LimiterState) : LimiterAction → LimiterState
  | .allowRedis nowMs cost =>
    let (allowed, redis) := consumeRedis config nowMs cost state.redis
    let ledger := state.redisLedger.begin ((live nowMs state.redis).isNone && redis.isSome)
    if allowed then
      { state with redis := redis, redisLedger := ledger.admitCost state.nextId (redisCost cost),
                   nextId := state.nextId + 1 }
    else { state with redis := redis, redisLedger := ledger }
  | .consumeUnanswered nowMs cost =>
    let (_, redis) := consumeRedis config nowMs cost state.redis
    { state with redis := redis,
                 redisLedger :=
                  state.redisLedger.begin ((live nowMs state.redis).isNone && redis.isSome) }
  | .allowMemory nowMs cost =>
    let (allowed, memory) := allow config nowMs cost state.memory
    let ledger := state.memoryLedger.begin (opensWindow config nowMs state.memory)
    if allowed then
      { state with memory := memory,
                   memoryLedger := ledger.admitCost state.nextId (max config.leastCost cost),
                   nextId := state.nextId + 1 }
    else { state with memory := memory, memoryLedger := ledger }
  | .reconcile nowMs id cost =>
    if id < state.nextId ∧ state.redisLedger.admissions.get id = none then
      let (allowed, redis) := consumeRedis config nowMs cost state.redis
      let ledger := state.redisLedger.begin ((live nowMs state.redis).isNone && redis.isSome)
      if allowed then
        { state with redis := redis, redisLedger := ledger.admitCost id (redisCost cost) }
      else { state with redis := redis, redisLedger := ledger,
                        memory := refund config cost state.memory }
    else state
  | .refundRedis nowMs id cost =>
    { state with redis := refundSocketRateLimitRedis nowMs (some cost) state.redis,
                 redisLedger := state.redisLedger.refund id (redisCost cost) }
  | .refundMemory id cost =>
    { state with memory := refund config cost state.memory,
                 memoryLedger := state.memoryLedger.refund id (max config.leastCost cost) }
  | .touch nowMs =>
    { state with memory := some (ensureState config nowMs state.memory),
                 memoryLedger :=
                  state.memoryLedger.begin (opensWindow config nowMs state.memory) }
  | .sweep nowMs => { state with memory := RateLimits.sweep config nowMs state.memory }
  | .deleteKey => { state with memory := none }

/-- No window has admitted more than the limit, less what was given back of it. -/
def LimiterState.Within (state : LimiterState) : Prop :=
  ∀ window, state.redisLedger.outstanding window ≤ config.max ∧
    state.memoryLedger.outstanding window ≤ config.max

/-- A refund does not lower the count of a window that does not hold the admission. -/
def Contained (state : LimiterState) : LimiterAction → Prop
  | .refundRedis nowMs id cost =>
    ¬state.redisLedger.Holds id (redisCost cost) →
      stored (live nowMs state.redis) ≤ stored
        (state.step config (.refundRedis nowMs id cost)).redis
  | .refundMemory id cost =>
    ¬state.memoryLedger.Holds id (max config.leastCost cost) →
      (state.memory.map (·.count)).getD 0 ≤
        ((state.step config (.refundMemory id cost)).memory.map (·.count)).getD 0
  | _ => True

/-- A refund finds the window of its admission, or a counter that is empty; and a consume after an
admission in memory is not denied. -/
def Timely (state : LimiterState) : LimiterAction → Prop
  | .refundRedis nowMs id cost =>
    live nowMs state.redis = none ∨ state.redisLedger.Holds id (redisCost cost)
  | .refundMemory id cost =>
    (∀ entry ∈ state.memory, entry.count = 0) ∨
      state.memoryLedger.Holds id (max config.leastCost cost)
  | .reconcile nowMs _ cost =>
    stored (live nowMs state.redis) + redisCost cost ≤ config.max ∨
      ∀ entry ∈ state.memory, entry.count = 0
  | _ => True

end Step

/-! ## Ledgers -/

/-- A ledger and the count of its current window: no window holds more than the limit, a window
that has not begun holds nothing, and the count covers what the current window holds. -/
structure Ledger.Sound (ledger : Ledger) (limit : Nat) (current : Option Nat) : Prop where
  within : ∀ window, ledger.outstanding window ≤ limit
  fresh : ∀ window, ledger.windows < window → ledger.outstanding window = 0
  covers : ∀ count ∈ current, ledger.outstanding ledger.windows ≤ count ∧ count ≤ limit

namespace Ledger

variable {ledger : Ledger} {limit : Nat} {current : Option Nat}

@[simp] theorem admissions_begin (ledger : Ledger) (begins : Bool) :
    (ledger.begin begins).admissions = ledger.admissions := by
  unfold begin
  split_ifs <;> rfl

variable {bound : Nat}

/-- Admissions that are not known stay unknown when a window begins. -/
theorem known_begin (known : ∀ id, bound ≤ id → ledger.admissions.get id = none)
    (begins : Bool) : ∀ id, bound ≤ id → (ledger.begin begins).admissions.get id = none := by
  rw [admissions_begin]
  exact known

variable {id : Nat}

theorem known_admitCost (known : ∀ id, bound ≤ id → ledger.admissions.get id = none)
    (below : id < bound) (cost : Nat) :
    ∀ other, bound ≤ other → (ledger.admitCost id cost).admissions.get other = none := by
  intro other later
  have differs : other ≠ id := by omega
  unfold admitCost
  rw [OrderedMap.get_set_of_ne _ _ differs]
  exact known other later

theorem known_refund (known : ∀ id, bound ≤ id → ledger.admissions.get id = none) (id cost : Nat) :
    ∀ other, bound ≤ other → (ledger.refund id cost).admissions.get other = none := by
  intro other later
  unfold refund
  rw [OrderedMap.get_modify]
  split_ifs with same
  · rw [← same, known other later]
    rfl
  · exact known other later

theorem outstanding_admitCost (absent : ledger.admissions.get id = none) (cost window : Nat) :
    (ledger.admitCost id cost).outstanding window =
      ledger.outstanding window + if ledger.windows = window then cost else 0 :=
  ledger.admissions.total_set_of_absent _ _ absent

theorem outstanding_refund_le (ledger : Ledger) (id cost window : Nat) :
    (ledger.refund id cost).outstanding window ≤ ledger.outstanding window := by
  cases found : ledger.admissions.get id with
  | none =>
    have same : (ledger.refund id cost).admissions = ledger.admissions := by
      simp only [refund, OrderedMap.modify, found]
    unfold outstanding
    rw [same]
  | some admission =>
    have changed := ledger.admissions.total_modify_of_present
      (fun admission => (admission.1, admission.2 - cost))
      (fun admission => if admission.1 = window then admission.2 else 0) found
    simp only at changed
    unfold outstanding refund
    simp only
    split_ifs at changed <;> omega

theorem outstanding_refund_of_holds {cost : Nat} (held : ledger.Holds id cost) :
    (ledger.refund id cost).outstanding ledger.windows + cost =
      ledger.outstanding ledger.windows := by
  obtain ⟨left, found, covered⟩ := held
  have changed := ledger.admissions.total_modify_of_present
    (fun admission => (admission.1, admission.2 - cost))
    (fun admission => if admission.1 = ledger.windows then admission.2 else 0) found
  simp only [if_true] at changed
  unfold outstanding refund
  simp only
  omega

namespace Sound

section

variable (sound : ledger.Sound limit current)

include sound

theorem close : ledger.Sound limit none :=
  ⟨sound.within, sound.fresh, by simp⟩

theorem grow {count more : Nat}
    (counted : current = some count) (larger : count ≤ more) (fits : more ≤ limit) :
    ledger.Sound limit (some more) := by
  refine ⟨sound.within, sound.fresh, fun other same => ?_⟩
  obtain rfl := Option.mem_some_iff.mp same
  have covered := sound.covers count counted
  omega

theorem begin :
    (ledger.begin true).Sound limit (some 0) := by
  have next := sound.fresh (ledger.windows + 1) (Nat.lt_succ_self _)
  refine ⟨sound.within, fun window later => sound.fresh window ?_, fun count same => ?_⟩
  · have later : ledger.windows + 1 < window := later
    omega
  · obtain rfl := Option.mem_some_iff.mp same
    exact ⟨Nat.le_of_eq next, Nat.zero_le _⟩

theorem admitCost {count : Nat} (counted : current = some count)
    (absent : ledger.admissions.get id = none) {cost : Nat}
    (fits : count + cost ≤ limit) : (ledger.admitCost id cost).Sound limit
      (some (count + cost)) := by
  have covered := sound.covers count counted
  refine ⟨fun window => ?_, fun window later => ?_, fun other same => ?_⟩
  · rw [outstanding_admitCost absent]
    by_cases now : ledger.windows = window
    · subst now
      rw [if_pos rfl]
      omega
    · rw [if_neg now]
      exact sound.within window
  · have later : ledger.windows < window := later
    rw [outstanding_admitCost absent, if_neg (Nat.ne_of_lt later), sound.fresh window later]
  · obtain rfl := Option.mem_some_iff.mp same
    have moved : (ledger.admitCost id cost).outstanding ledger.windows =
        ledger.outstanding ledger.windows + cost := by
      rw [outstanding_admitCost absent, if_pos rfl]
    exact ⟨by rw [show (ledger.admitCost id cost).windows = ledger.windows from rfl]; omega, fits⟩

theorem refund (id cost : Nat) :
    (ledger.refund id cost).Sound limit current := by
  have less := ledger.outstanding_refund_le id cost
  refine ⟨fun window => (less window).trans (sound.within window), fun window later => ?_,
    fun count counted => ?_⟩
  · have before := sound.fresh window later
    have after := less window
    omega
  · have covered := sound.covers count counted
    exact ⟨(less _).trans covered.1, covered.2⟩

theorem refund_of_holds {count : Nat}
    (counted : current = some count) {id cost : Nat} (held : ledger.Holds id cost) :
    (ledger.refund id cost).Sound limit (some (count - cost)) ∧ cost ≤ count := by
  have covered := sound.covers count counted
  have moved := outstanding_refund_of_holds held
  have kept := sound.refund id cost
  refine ⟨⟨kept.within, kept.fresh, fun other same => ?_⟩, by omega⟩
  obtain rfl := Option.mem_some_iff.mp same
  exact ⟨by rw [show (ledger.refund id cost).windows = ledger.windows from rfl]; omega, by omega⟩

end

end Sound

end Ledger

/-! ## The limiter -/

/-- The count of an entry in memory. -/
def memoryCount (memory : Option WindowState) : Option Nat := memory.map WindowState.count

/-- The number of a Redis counter. -/
def redisCount (redis : Option Counter) : Option Nat := redis.map fun counter => counter.value.toNat

/-- What every step that meets the condition keeps. -/
structure LimiterState.Sound (config : LimiterConfig) (state : LimiterState) : Prop where
  ticking : Ticking state.redis
  redis : state.redisLedger.Sound config.max (redisCount state.redis)
  memory : state.memoryLedger.Sound config.max (memoryCount state.memory)
  redisKnown : ∀ id, state.nextId ≤ id → state.redisLedger.admissions.get id = none
  memoryKnown : ∀ id, state.nextId ≤ id → state.memoryLedger.admissions.get id = none

open LimiterState

section Steps

variable {config : LimiterConfig} {state : LimiterState}

theorem safeCost_eq (cost : Nat) :
    ((safeCost (some (cost : Int)) : ℕ+) : Nat) = redisCost cost := by
  simp only [safeCost, Option.getD_some, PNat.mk_coe, redisCost]
  omega

variable {key : Option Counter}

theorem consumeRedis_eq (config : LimiterConfig) (nowMs : Int) (cost : Nat)
    (ticking : Ticking key) :
    consumeRedis config nowMs cost key =
      if stored (live nowMs key) + redisCost cost ≤ config.max then
        (true, some ⟨stored (live nowMs key) + redisCost cost,
          windowEnd nowMs config.windowMs (live nowMs key)⟩)
      else (false, live nowMs key) := by
  have enabled : ¬((config.max : Int) ≤ 0 ∨ (config.windowMs : Int) ≤ 0) := by
    have := config.max.pos
    have := config.windowMs.pos
    omega
  have spec := consumedOrRolledBack (ticking_live ticking nowMs) nowMs
    (safeCost (some (cost : Int)))
    config.windowMs config.max
  have cost_eq : (((safeCost (some (cost : Int)) : ℕ+) : Nat) : Int) = redisCost cost := by
    rw [safeCost_eq]
  rw [cost_eq] at spec
  unfold consumeRedis consumeSocketRateLimitRedis
  simp only [if_neg enabled]
  rw [cost_eq, spec]
  split_ifs <;> rfl

theorem sound_live {ledger : Ledger} {limit : Nat}
    (sound : ledger.Sound limit (redisCount key)) (nowMs : Int) :
    ledger.Sound limit (redisCount (live nowMs key)) := by
  rcases live_cases nowMs key with same | gone
  · rw [same]
    exact sound
  · rw [gone]
    exact sound.close

theorem sound_begin {ledger : Ledger} {limit : Nat} (ticking : Ticking key)
    (sound : ledger.Sound limit (redisCount key)) :
    (ledger.begin key.isNone).Sound limit (some (stored key).toNat) := by
  cases key with
  | none => exact sound.begin
  | some counter => exact sound

variable {cost id : Nat}

theorem sound_allowRedis (sound : state.Sound config) (nowMs : Int)
    (fits : stored (live nowMs state.redis) + redisCost cost ≤ config.max)
    (absent : state.redisLedger.admissions.get id = none) :
    ((state.redisLedger.begin (live nowMs state.redis).isNone).admitCost id (redisCost cost)).Sound
      config.max (some (stored (live nowMs state.redis) + redisCost cost).toNat) := by
  have alive := ticking_live sound.ticking nowMs
  have least := stored_nonneg alive
  have begun := sound_begin alive (sound_live sound.redis nowMs)
  have free : (state.redisLedger.begin (live nowMs state.redis).isNone).admissions.get id = none := by
    rw [Ledger.admissions_begin]
    exact absent
  have number : (stored (live nowMs state.redis) + redisCost cost).toNat =
      (stored (live nowMs state.redis)).toNat + redisCost cost := by omega
  rw [number]
  exact begun.admitCost rfl free (by omega)

theorem sound_ensureState (sound : state.Sound config) (nowMs : Int) :
    (state.memoryLedger.begin (opensWindow config nowMs state.memory)).Sound config.max
      (some (ensureState config nowMs state.memory).count) := by
  have memory := sound.memory
  cases existing : state.memory with
  | none =>
    rw [existing] at memory
    exact memory.begin
  | some entry =>
    rw [existing] at memory
    by_cases isOver : (config.windowMs : Int) ≤ nowMs - entry.windowStartMs
    · have opens : opensWindow config nowMs (some entry) = true := by
        simp only [opensWindow, Option.all_some, isOver, decide_true]
      simp only [ensureState, if_pos isOver, opens]
      exact memory.begin
    · have stays : opensWindow config nowMs (some entry) = false := by
        simp only [opensWindow, Option.all_some, isOver, decide_false]
      simp only [ensureState, if_neg isOver, stays]
      exact memory

theorem ticking_consumed (ticking : Ticking key) (nowMs windowMs : Int) (cost : Nat) :
    Ticking (some ⟨stored key + redisCost cost, windowEnd nowMs windowMs key⟩) := by
  intro counter same
  obtain rfl := Option.mem_some_iff.mp same
  have least := stored_nonneg ticking
  have positive : 1 ≤ redisCost cost := le_max_left _ _
  exact ⟨by simp only; omega, isSome_windowEnd ticking _ _⟩

theorem sound_denied (sound : state.Sound config) (nowMs : Int) :
    { state with redis := live nowMs state.redis }.Sound config :=
  ⟨ticking_live sound.ticking nowMs, sound_live sound.redis nowMs, sound.memory, sound.redisKnown,
    sound.memoryKnown⟩

theorem begin_denied (ledger : Ledger) (key : Option Counter) :
    ledger.begin (key.isNone && key.isSome) = ledger := by
  cases key <;> rfl

/-- An admission of a cost that Redis has room for. -/
theorem sound_admitted (sound : state.Sound config) (nowMs : Int)
    (fits : stored (live nowMs state.redis) + redisCost cost ≤ config.max) {nextId : Nat}
    (absent : state.redisLedger.admissions.get id = none) (below : id < nextId)
    (later : state.nextId ≤ nextId) :
    { state with
      redis := some ⟨stored (live nowMs state.redis) + redisCost cost,
        windowEnd nowMs config.windowMs (live nowMs state.redis)⟩
      redisLedger := (state.redisLedger.begin (live nowMs state.redis).isNone).admitCost id
        (redisCost cost)
      nextId }.Sound config where
  ticking := ticking_consumed (ticking_live sound.ticking nowMs) _ _ _
  redis := sound_allowRedis sound nowMs fits absent
  memory := sound.memory
  redisKnown := Ledger.known_admitCost
    (fun other after => Ledger.known_begin sound.redisKnown _ other (later.trans after)) below _
  memoryKnown other after := sound.memoryKnown other (later.trans after)

theorem sound_consumeUnanswered (sound : state.Sound config) (nowMs : Int) (cost : Nat) :
    (state.step config (.consumeUnanswered nowMs cost)).Sound config := by
  have executed := consumeRedis_eq config nowMs cost sound.ticking
  by_cases fits : stored (live nowMs state.redis) + redisCost cost ≤ config.max
  · rw [if_pos fits] at executed
    have alive := ticking_live sound.ticking nowMs
    have least := stored_nonneg alive
    have begun := sound_begin alive (sound_live sound.redis nowMs)
    simp only [step, executed, Option.isSome_some, Bool.and_true]
    have grown : (state.redisLedger.begin (live nowMs state.redis).isNone).Sound config.max
        (some (stored (live nowMs state.redis) + redisCost cost).toNat) :=
      begun.grow rfl (by omega) (by omega)
    exact ⟨ticking_consumed alive _ _ _, grown, sound.memory,
      Ledger.known_begin sound.redisKnown _, sound.memoryKnown⟩
  · rw [if_neg fits] at executed
    simp only [step, executed, begin_denied]
    exact sound_denied sound nowMs

theorem sound_allowMemory (sound : state.Sound config) (nowMs : Int) (cost : Nat) :
    (state.step config (.allowMemory nowMs cost)).Sound config := by
  have ensured := sound_ensureState sound nowMs
  have known := Ledger.known_begin sound.memoryKnown (opensWindow config nowMs state.memory)
  by_cases full : (config.max : Nat) <
      (ensureState config nowMs state.memory).count + max config.leastCost cost
  · simp only [step, allow, full, if_true, Bool.false_eq_true, if_false]
    exact ⟨sound.ticking, sound.redis, ensured, sound.redisKnown, known⟩
  · simp only [step, allow, full, if_true, if_false]
    exact ⟨sound.ticking, sound.redis, ensured.admitCost rfl (known _ le_rfl) (by omega),
      fun id later => sound.redisKnown id (Nat.le_of_succ_le later),
      Ledger.known_admitCost (fun id later => known id (Nat.le_of_succ_le later))
        (Nat.lt_succ_self _) _⟩

/-- A refund does not change the count of an entry that is empty. -/
theorem memoryCount_refund_of_blank {memory : Option WindowState}
    (blank : ∀ entry ∈ memory, entry.count = 0) (cost : Nat) :
    memoryCount (refund config cost memory) = memoryCount memory := by
  cases memory with
  | none => rfl
  | some entry =>
    have zero := blank entry rfl
    simp [memoryCount, refund, zero]

theorem sound_refundRedis (sound : state.Sound config) {nowMs : Int}
    (timely : Timely config state (.refundRedis nowMs id cost)) :
    (state.step config (.refundRedis nowMs id cost)).Sound config := by
  have spec := refunded (live nowMs state.redis) (safeCost (some (cost : Int)))
  have cost_eq : (((safeCost (some (cost : Int)) : ℕ+) : Nat) : Int) = redisCost cost := by
    rw [safeCost_eq]
  rw [cost_eq] at spec
  have found := sound_live sound.redis nowMs
  have known := Ledger.known_refund sound.redisKnown id (redisCost cost)
  have executes : (state.step config (.refundRedis nowMs id cost)).redis =
      (refundScript (live nowMs state.redis) (redisCost cost)).2 := by
    simp only [step, refundSocketRateLimitRedis, cost_eq]
  refine ⟨ticking_execute sound.ticking (.refund nowMs (safeCost (some (cost : Int)))), ?_,
    sound.memory, known, sound.memoryKnown⟩
  rw [executes, spec]
  by_cases spent : stored (live nowMs state.redis) - redisCost cost ≤ 0
  · rw [if_pos spent]
    exact (found.refund id (redisCost cost)).close
  · rw [if_neg spent]
    cases counted : live nowMs state.redis with
    | none => exact (found.refund id (redisCost cost)).close
    | some counter =>
      have held := timely.resolve_left (by rw [counted]; exact Option.some_ne_none _)
      rw [counted] at found
      have moved := found.refund_of_holds rfl held
      have number : (counter.value - redisCost cost).toNat =
          counter.value.toNat - redisCost cost := by omega
      simp only [redisCount, Option.map_some, number]
      exact moved.1

theorem sound_refundMemory (sound : state.Sound config)
    (timely : Timely config state (.refundMemory id cost)) :
    (state.step config (.refundMemory id cost)).Sound config := by
  refine ⟨sound.ticking, sound.redis, ?_, sound.redisKnown,
    Ledger.known_refund sound.memoryKnown id (max config.leastCost cost)⟩
  have memory := sound.memory
  simp only [step]
  rcases timely with blank | held
  · rw [memoryCount_refund_of_blank blank]
    exact memory.refund id _
  · cases existing : state.memory with
    | none =>
      rw [existing] at memory
      exact memory.refund id _
    | some entry =>
      rw [existing] at memory
      exact (memory.refund_of_holds rfl held).1

theorem sound_sweep (sound : state.Sound config) (nowMs : Int) :
    (state.step config (.sweep nowMs)).Sound config := by
  refine ⟨sound.ticking, sound.redis, ?_, sound.redisKnown, sound.memoryKnown⟩
  have memory := sound.memory
  simp only [step]
  cases existing : state.memory with
  | none => exact memory.close
  | some entry =>
    rw [existing] at memory
    simp only [RateLimits.sweep, Option.filter]
    split_ifs
    · exact memory
    · exact memory.close

/-- Steps that meet the condition keep the ledgers. -/
theorem sound_step (sound : state.Sound config) {action : LimiterAction}
    (timely : Timely config state action) : (state.step config action).Sound config := by
  cases action with
  | allowRedis nowMs cost =>
    have executed := consumeRedis_eq config nowMs cost sound.ticking
    by_cases fits : stored (live nowMs state.redis) + redisCost cost ≤ config.max
    · rw [if_pos fits] at executed
      simp only [step, executed, if_true, Option.isSome_some, Bool.and_true]
      exact sound_admitted sound nowMs fits (sound.redisKnown state.nextId le_rfl)
        (Nat.lt_succ_self _) (Nat.le_succ _)
    · rw [if_neg fits] at executed
      simp only [step, executed, Bool.false_eq_true, if_false, begin_denied]
      exact sound_denied sound nowMs
  | consumeUnanswered nowMs cost => exact sound_consumeUnanswered sound nowMs cost
  | allowMemory nowMs cost => exact sound_allowMemory sound nowMs cost
  | reconcile nowMs id cost =>
    by_cases known : id < state.nextId ∧ state.redisLedger.admissions.get id = none
    · have executed := consumeRedis_eq config nowMs cost sound.ticking
      by_cases fits : stored (live nowMs state.redis) + redisCost cost ≤ config.max
      · rw [if_pos fits] at executed
        simp only [step, if_pos known, executed, if_true, Option.isSome_some,
          Bool.and_true]
        exact sound_admitted sound nowMs fits known.2 known.1 le_rfl
      · rw [if_neg fits] at executed
        simp only [step, if_pos known, executed, Bool.false_eq_true, if_false,
          begin_denied]
        have denied := sound_denied sound nowMs
        refine ⟨denied.ticking, denied.redis, ?_, denied.redisKnown, denied.memoryKnown⟩
        rw [memoryCount_refund_of_blank (timely.resolve_left fits)]
        exact sound.memory
    · simp only [step, if_neg known]
      exact sound
  | refundRedis nowMs id cost => exact sound_refundRedis sound timely
  | refundMemory id cost => exact sound_refundMemory sound timely
  | touch nowMs =>
    exact ⟨sound.ticking, sound.redis, sound_ensureState sound nowMs, sound.redisKnown,
      Ledger.known_begin sound.memoryKnown _⟩
  | sweep nowMs => exact sound_sweep sound nowMs
  | deleteKey =>
    exact ⟨sound.ticking, sound.redis, sound.memory.close, sound.redisKnown, sound.memoryKnown⟩

theorem contained_of_timely {action : LimiterAction} (timely : Timely config state action) :
    Contained config state action := by
  cases action with
  | refundRedis nowMs id cost =>
    intro foreign
    have gone : live nowMs state.redis = none := timely.resolve_right foreign
    simp [step, refundSocketRateLimitRedis, gone, refunded, stored]
  | refundMemory id cost =>
    intro foreign
    have blank : ∀ entry ∈ state.memory, entry.count = 0 := timely.resolve_right foreign
    cases existing : state.memory with
    | none => simp
    | some entry => simp [blank entry existing]
  | _ => trivial

end Steps

theorem sound_initial (config : LimiterConfig) : LimiterState.Sound config {} :=
  have none : Ledger.Sound {} config.max none :=
    ⟨fun _ => Nat.zero_le _, fun _ _ => rfl, by simp⟩
  ⟨by simp [Ticking], none, none, fun _ _ => rfl, fun _ _ => rfl⟩

/-- In every run whose refunds find the window of their admission or an empty counter, and whose
consumes after an admission in memory are not denied, no window admits more than the limit less
what is given back of it, and no refund lowers the count of another window. -/
theorem fixed_windows_with_timely_refunds (config : LimiterConfig) {actions : List LimiterAction}
    (timely : Meets (step config) (Timely config) {} actions) :
    (∀ taken, taken <+: actions → (run (step config) {} taken).Within config) ∧
      ∀ taken action, taken ++ [action] <+: actions →
        Contained config (run (step config) {} taken) action := by
  have keeps : ∀ state action, LimiterState.Sound config state → Timely config state action →
      (state.step config action).Sound config := fun _ _ sound met => sound_step sound met
  have every := every_state_of_meets _ keeps (sound_initial config) timely
  refine ⟨fun taken first window => ?_, fun taken action first => ?_⟩
  · have sound := every taken first
    exact ⟨sound.redis.within window, sound.memory.within window⟩
  · exact contained_of_timely (timely.at_step _ first)

/-- One request a second. -/
def onePerSecond : LimiterConfig := { windowMs := 1000, max := 1 }

/-- A request is refunded within its window, and the window admits another one. -/
theorem refund_in_window :
    (run (step onePerSecond) {}
      [.allowMemory 0 1, .refundMemory 0 1, .allowMemory 1 1]).Within onePerSecond :=
  have timely : Meets (step onePerSecond) (Timely onePerSecond) {}
      [.allowMemory 0 1, .refundMemory 0 1, .allowMemory 1 1] :=
    ⟨trivial, .inr ⟨1, by decide⟩, trivial, trivial⟩
  (fixed_windows_with_timely_refunds onePerSecond timely).1 _ (List.prefix_refl _)

/-- A request of the first second is refunded in the next one, which then admits two. -/
theorem refund_in_next_window :
    ¬(run (step onePerSecond) {}
      [.allowMemory 0 1, .allowMemory 1000 1, .refundMemory 0 1, .allowMemory 1001 1]).Within
        onePerSecond := by
  intro within
  have most := (within 2).2
  revert most
  decide

end PlugHub.RateLimits
