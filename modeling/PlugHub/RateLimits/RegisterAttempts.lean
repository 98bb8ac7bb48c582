import Mathlib.Data.List.Basic
import Mathlib.Tactic.Linarith
import PlugHub.Library.Runs

/-!
# Register attempts

How often a user may register an agent: `agent_register_rate_limit.ts` keeps the times of the
admitted attempts of a `(user, agent)` pair, and drops those that are out of the window when the
next attempt comes. The answer of Redis comes first; without one the attempt is decided here, and
only the attempts that are decided here are counted here. A refund takes back the last time, whoever
decided the attempt that it is for, and a sweep drops the pairs that were not seen for long.
-/

namespace PlugHub.RegisterAttempts

open Library

/-- Settings of the limiter. -/
structure Config where
  /-- `socketAgentRegisterRateLimitWindowMs`. -/
  windowMs : Int
  /-- `socketAgentRegisterRateLimitMax`. -/
  max : Int
  /-- The window times `socketRelayRateLimitSweepStaleMultiplier`, as the double that the product
  is rounded to. -/
  staleAfterMs : ℚ

/-- The times kept for a pair. -/
structure Bucket where
  /-- The times of the attempts that were admitted, the last one last. -/
  stamps : List Int
  /-- When an attempt was last decided here. -/
  lastSeenAtMs : Int

/-- The key of a pair. -/
def bucketKey (userId agentId : String) : String := userId ++ ":" ++ agentId

section Operations

variable (config : Config) (nowMs : Int)

/-- `tryConsumeAgentRegisterRateLimit`. -/
def tryConsumeAgentRegisterRateLimit (existing : Option Bucket) : Bool × Option Bucket :=
  if config.windowMs ≤ 0 ∨ config.max ≤ 0 then (true, existing)
  else
    let cutoff := nowMs - config.windowMs
    let stamps := (existing.map Bucket.stamps).getD []
    let fresh := stamps.filter (cutoff < ·)
    if config.max ≤ fresh.length then (false, some ⟨fresh, nowMs⟩)
    else (true, some ⟨fresh ++ [nowMs], nowMs⟩)

/-- `tryConsumeAgentRegisterRateLimitAsync`, with the answer of Redis. -/
def tryConsumeAgentRegisterRateLimitAsync (redisDecision : Option Bool)
    (existing : Option Bucket) : Bool × Option Bucket :=
  if config.windowMs ≤ 0 ∨ config.max ≤ 0 then (true, existing)
  else
    match redisDecision with
    | some allowed => (allowed, existing)
    | none => tryConsumeAgentRegisterRateLimit config nowMs existing

/-- `refundAgentRegisterRateLimit`. -/
def refundAgentRegisterRateLimit : Option Bucket → Option Bucket
  | none => none
  | some existing =>
    if existing.stamps = [] then some existing
    else if existing.stamps.dropLast = [] then none
    else some ⟨existing.stamps.dropLast, existing.lastSeenAtMs⟩

/-- `sweepAgentRegisterRateLimitState`, for one pair. -/
def sweepAgentRegisterRateLimitState (existing : Option Bucket) : Option Bucket :=
  if config.staleAfterMs ≤ 0 then existing
  else existing.filter fun bucket => ¬ config.staleAfterMs ≤ nowMs - bucket.lastSeenAtMs

end Operations

/-- A pair. -/
structure Pair where
  bucket : Option Bucket := none
  /-- The times at which an attempt was admitted without an answer of Redis. -/
  admitted : List Int := []
  /-- The times at which a time was taken back. -/
  refunded : List Int := []

/-- The time and the pairs by their keys. -/
structure State where
  nowMs : Int := 0
  pairs : String → Pair := fun _ => {}

/-- What happens. -/
inductive Action where
  | wait (elapsedMs : Nat)
  | consume (userId agentId : String) (redisDecision : Option Bool)
  | refund (userId agentId : String)
  | sweep

/-- The times that a bucket keeps. -/
def Pair.stamps (pair : Pair) : List Int := (pair.bucket.map Bucket.stamps).getD []

section Steps

variable (config : Config) (nowMs : Int)

/-- An attempt. -/
def Pair.consume (redisDecision : Option Bool) (pair : Pair) : Pair :=
  let decided := tryConsumeAgentRegisterRateLimitAsync config nowMs redisDecision pair.bucket
  { pair with
    bucket := decided.2
    admitted :=
      if redisDecision = none ∧ decided.1 = true then nowMs :: pair.admitted else pair.admitted }

/-- A refund. -/
def Pair.refund (pair : Pair) : Pair :=
  { pair with
    bucket := refundAgentRegisterRateLimit pair.bucket
    refunded := if pair.stamps = [] then pair.refunded else nowMs :: pair.refunded }

/-- A sweep. -/
def Pair.sweep (pair : Pair) : Pair :=
  { pair with bucket := sweepAgentRegisterRateLimitState config nowMs pair.bucket }

/-- A pair changes. -/
def State.change (state : State) (key : String) (change : Pair → Pair) : State :=
  { state with pairs := Function.update state.pairs key (change (state.pairs key)) }

/-- One step. -/
def step (state : State) : Action → State
  | .wait elapsedMs => { state with nowMs := state.nowMs + elapsedMs }
  | .consume userId agentId redisDecision =>
    state.change (bucketKey userId agentId) (·.consume config state.nowMs redisDecision)
  | .refund userId agentId => state.change (bucketKey userId agentId) (·.refund state.nowMs)
  | .sweep => { state with pairs := fun key => (state.pairs key).sweep config state.nowMs }

end Steps

/-! ## What the times say about the attempts -/

/-- How many of some times are after an instant. -/
def after (since : Int) (times : List Int) : Nat := times.countP (since < ·)

/-- How many of some times are in the window that an instant opens. -/
def within (config : Config) (since : Int) (times : List Int) : Nat :=
  times.countP fun time => since < time ∧ time ≤ since + config.windowMs

variable {config : Config} {nowMs : Int} {pair : Pair}

/-- In a window that is not over, the times kept account for the attempts admitted, and in no
window more than the limit is admitted. Of both, what was taken back may be admitted again. -/
structure Sound (config : Config) (nowMs : Int) (pair : Pair) : Prop where
  admitted : ∀ time ∈ pair.admitted, time ≤ nowMs
  refunded : ∀ time ∈ pair.refunded, time ≤ nowMs
  seen : ∀ bucket ∈ pair.bucket, bucket.lastSeenAtMs ≤ nowMs ∧
    ∀ time ∈ bucket.stamps, time ≤ bucket.lastSeenAtMs
  kept : ∀ since, nowMs - config.windowMs ≤ since →
    after since pair.admitted ≤ after since pair.stamps + after since pair.refunded
  limited : ∀ since,
    (within config since pair.admitted : Int) ≤ config.max + within config since pair.refunded

/-- In a window that is not over, the times of the window are those after its beginning. -/
theorem within_eq_after {since : Int} {times : List Int} (past : ∀ time ∈ times, time ≤ nowMs)
    (lasts : nowMs ≤ since + config.windowMs) : within config since times = after since times := by
  apply List.countP_congr
  intro time member
  have reached := past time member
  simp only [decide_eq_true_eq]
  omega

/-- Another time counts in the windows it is in. -/
theorem within_cons (since time : Int) (times : List Int) :
    within config since (time :: times) = within config since times +
      if since < time ∧ time ≤ since + config.windowMs then 1 else 0 := by
  simp only [within, List.countP_cons, decide_eq_true_eq]

theorem after_cons (since time : Int) (times : List Int) :
    after since (time :: times) = after since times + if since < time then 1 else 0 := by
  simp only [after, List.countP_cons, decide_eq_true_eq]

theorem after_append (since : Int) (times more : List Int) :
    after since (times ++ more) = after since times + after since more :=
  List.countP_append

/-- What is out of the window is not after a later instant. -/
theorem after_filter {cutoff since : Int} (later : cutoff ≤ since) (times : List Int) :
    after since (times.filter (cutoff < ·)) = after since times := by
  rw [after, List.countP_filter]
  apply List.countP_congr
  intro time _
  simp only [Bool.and_eq_true, decide_eq_true_eq]
  omega

/-- Of a past time nothing is after the present. -/
theorem after_eq_zero {since : Int} {times : List Int} (past : ∀ time ∈ times, time ≤ since) :
    after since times = 0 := by
  apply List.countP_eq_zero.mpr
  intro time member
  have reached := past time member
  simp only [decide_eq_true_eq]
  omega

/-- A pair without attempts is sound. -/
theorem Sound.initial (unlimited : 0 ≤ config.max) : Sound config nowMs {} where
  admitted := by simp
  refunded := by simp
  seen := by simp
  kept := by simp [after]
  limited since := by simpa [within] using unlimited

/-- Time passes. -/
theorem Sound.wait (sound : Sound config nowMs pair) (elapsedMs : Nat) :
    Sound config (nowMs + elapsedMs) pair where
  admitted time member := by
    have reached := sound.admitted time member
    omega
  refunded time member := by
    have reached := sound.refunded time member
    omega
  seen bucket found := by
    obtain ⟨reached, within⟩ := sound.seen bucket found
    exact ⟨by omega, within⟩
  kept since lasts := sound.kept since (by omega)
  limited := sound.limited

/-- The times that are kept are past. -/
theorem Sound.stamps (sound : Sound config nowMs pair) : ∀ time ∈ pair.stamps, time ≤ nowMs := by
  intro time member
  cases found : pair.bucket with
  | none => simp [Pair.stamps, found] at member
  | some bucket =>
    obtain ⟨reached, past⟩ := sound.seen bucket found
    have known : time ∈ bucket.stamps := by simpa [Pair.stamps, found] using member
    exact (past time known).trans reached

/-- The times of the window that ends at an instant. -/
def Pair.fresh (config : Config) (nowMs : Int) (pair : Pair) : List Int :=
  pair.stamps.filter (nowMs - config.windowMs < ·)

/-- In a window that is not over, nothing is dropped. -/
theorem after_fresh {since : Int} (lasts : nowMs - config.windowMs ≤ since) (pair : Pair) :
    after since (pair.fresh config nowMs) = after since pair.stamps :=
  after_filter lasts pair.stamps

/-- What an attempt does: nothing when Redis decides it, else it keeps the times of the window, and
its own when there is room. -/
theorem consume_eq (enabled : 0 < config.windowMs ∧ 0 < config.max) (redisDecision : Option Bool) :
    pair.consume config nowMs redisDecision =
      if redisDecision.isSome then pair
      else if config.max ≤ (pair.fresh config nowMs).length then
        { pair with bucket := some ⟨pair.fresh config nowMs, nowMs⟩ }
      else
        { pair with
          bucket := some ⟨pair.fresh config nowMs ++ [nowMs], nowMs⟩
          admitted := nowMs :: pair.admitted } := by
  have limits : ¬ (config.windowMs ≤ 0 ∨ config.max ≤ 0) := by omega
  have decided : tryConsumeAgentRegisterRateLimit config nowMs pair.bucket =
      if config.max ≤ (pair.fresh config nowMs).length then
        (false, some ⟨pair.fresh config nowMs, nowMs⟩)
      else (true, some ⟨pair.fresh config nowMs ++ [nowMs], nowMs⟩) := by
    rw [tryConsumeAgentRegisterRateLimit, if_neg limits]
    rfl
  cases redisDecision with
  | some allowed => simp [Pair.consume, tryConsumeAgentRegisterRateLimitAsync, limits]
  | none =>
    simp only [Pair.consume, tryConsumeAgentRegisterRateLimitAsync, if_neg limits, decided]
    by_cases full : config.max ≤ (pair.fresh config nowMs).length
    · simp [full]
    · simp [full]

/-- An attempt is turned away. -/
theorem Sound.turnedAway (sound : Sound config nowMs pair) :
    Sound config nowMs { pair with bucket := some ⟨pair.fresh config nowMs, nowMs⟩ } := by
  refine ⟨sound.admitted, sound.refunded, ?_, ?_, sound.limited⟩
  · rintro bucket ⟨⟩
    exact ⟨le_rfl, fun time member => sound.stamps time (List.mem_of_mem_filter member)⟩
  · intro since lasts
    have before := sound.kept since lasts
    rwa [← after_fresh lasts] at before

/-- An attempt is admitted when the window has room for it. -/
theorem Sound.admit (sound : Sound config nowMs pair)
    (room : (pair.fresh config nowMs).length < config.max) :
    Sound config nowMs { pair with
      bucket := some ⟨pair.fresh config nowMs ++ [nowMs], nowMs⟩
      admitted := nowMs :: pair.admitted } := by
  refine ⟨?_, sound.refunded, ?_, ?_, ?_⟩
  · intro time member
    rcases List.mem_cons.mp member with rfl | earlier
    · exact le_rfl
    · exact sound.admitted time earlier
  · rintro bucket ⟨⟩
    exact ⟨le_rfl, forall_mem_concat (fun time earlier =>
      sound.stamps time (List.mem_of_mem_filter earlier)) le_rfl⟩
  · intro since lasts
    have before := sound.kept since lasts
    rw [← after_fresh lasts] at before
    show after since (nowMs :: pair.admitted) ≤
      after since (pair.fresh config nowMs ++ [nowMs]) + after since pair.refunded
    rw [after_cons, after_append, after_cons]
    omega
  · intro since
    have before := sound.limited since
    show (within config since (nowMs :: pair.admitted) : Int) ≤
      config.max + within config since pair.refunded
    rw [within_cons]
    by_cases lasts : since < nowMs ∧ nowMs ≤ since + config.windowMs
    · -- The window is not over: what it admitted is kept, and there was room.
      have ended : nowMs - config.windowMs ≤ since := by omega
      have kept := sound.kept since ended
      rw [← after_fresh ended] at kept
      have fits : after since (pair.fresh config nowMs) ≤ (pair.fresh config nowMs).length :=
        List.countP_le_length
      rw [within_eq_after sound.admitted lasts.2, within_eq_after sound.refunded lasts.2,
        if_pos lasts]
      omega
    · rw [if_neg lasts]
      omega

/-- An attempt keeps it so. -/
theorem Sound.consume (enabled : 0 < config.windowMs ∧ 0 < config.max)
    (sound : Sound config nowMs pair) (redisDecision : Option Bool) :
    Sound config nowMs (pair.consume config nowMs redisDecision) := by
  rw [consume_eq enabled]
  split
  · exact sound
  · split
    · exact sound.turnedAway
    · next room => exact sound.admit (not_le.mp room)

/-- A refund. -/
theorem Sound.refund (sound : Sound config nowMs pair) :
    Sound config nowMs (pair.refund nowMs) := by
  by_cases idle : pair.stamps = []
  · have result : pair.refund nowMs = pair := by
      unfold Pair.refund
      rw [if_pos idle]
      cases found : pair.bucket with
      | none => simp [refundAgentRegisterRateLimit, ← found]
      | some bucket =>
        have empty : bucket.stamps = [] := by simpa [Pair.stamps, found] using idle
        simp [refundAgentRegisterRateLimit, empty, ← found]
    rwa [result]
  · obtain ⟨bucket, found⟩ : ∃ bucket, pair.bucket = some bucket := by
      cases found : pair.bucket with
      | none => simp [Pair.stamps, found] at idle
      | some bucket => exact ⟨bucket, rfl⟩
    have known : pair.stamps = bucket.stamps := by simp [Pair.stamps, found]
    rw [known] at idle
    obtain ⟨reached, past⟩ := sound.seen bucket found
    have stamps : (pair.refund nowMs).stamps = bucket.stamps.dropLast := by
      simp only [Pair.refund, Pair.stamps, found, refundAgentRegisterRateLimit, if_neg idle]
      split
      · next last => simp [last]
      · simp
    have refunded : (pair.refund nowMs).refunded = nowMs :: pair.refunded := by
      rw [Pair.refund, known, if_neg idle]
    refine ⟨sound.admitted, ?_, ?_, ?_, ?_⟩
    · rw [refunded]
      intro time member
      rcases List.mem_cons.mp member with rfl | earlier
      · exact le_rfl
      · exact sound.refunded time earlier
    · intro next shown
      have source : next = ⟨bucket.stamps.dropLast, bucket.lastSeenAtMs⟩ := by
        simp only [Pair.refund, found, refundAgentRegisterRateLimit, if_neg idle] at shown
        split at shown
        · cases shown
        · exact (Option.some.inj shown).symm
      rw [source]
      exact ⟨reached, fun time member => past time (List.dropLast_subset _ member)⟩
    · intro since lasts
      have before := sound.kept since lasts
      rw [stamps, refunded, after_cons]
      rw [known, ← List.dropLast_append_getLast idle, after_append, after_cons] at before
      have nothing : after since [] = 0 := rfl
      have last := past _ (List.getLast_mem idle)
      show after since pair.admitted ≤ _
      split at before <;> split <;> omega
    · intro since
      have before := sound.limited since
      rw [refunded, within_cons]
      show (within config since pair.admitted : Int) ≤ _
      split <;> omega

/-- A sweep drops only what is out of the window. -/
theorem Sound.sweep (lasting : 0 < config.windowMs)
    (patient : config.windowMs ≤ config.staleAfterMs) (sound : Sound config nowMs pair) :
    Sound config nowMs (pair.sweep config nowMs) := by
  have kept : (pair.sweep config nowMs).bucket = pair.bucket → pair.sweep config nowMs = pair := by
    intro same
    show { pair with bucket := (pair.sweep config nowMs).bucket } = pair
    rw [same]
  have positive : ¬ config.staleAfterMs ≤ 0 := by
    have windowMs : (0 : ℚ) < config.windowMs := by exact_mod_cast lasting
    exact not_le.mpr (windowMs.trans_le patient)
  have swept : (pair.sweep config nowMs).bucket = pair.bucket.filter fun bucket =>
      ¬ config.staleAfterMs ≤ nowMs - bucket.lastSeenAtMs := by
    show sweepAgentRegisterRateLimitState config nowMs pair.bucket = _
    rw [sweepAgentRegisterRateLimitState, if_neg positive]
  cases found : pair.bucket with
  | none => rwa [kept (by rw [swept, found]; rfl)]
  | some bucket =>
    by_cases stale : config.staleAfterMs ≤ nowMs - bucket.lastSeenAtMs
    · have dropped : (pair.sweep config nowMs).bucket = none := by
        rw [swept, found]
        simp [stale]
      obtain ⟨reached, past⟩ := sound.seen bucket found
      have old : config.windowMs ≤ nowMs - bucket.lastSeenAtMs := by
        exact_mod_cast patient.trans stale
      refine ⟨sound.admitted, sound.refunded, ?_, ?_, sound.limited⟩
      · intro next shown
        rw [dropped] at shown
        cases shown
      · intro since lasts
        have before := sound.kept since lasts
        have expired : ∀ time ∈ bucket.stamps, time ≤ since := by
          intro time member
          have seen := past time member
          omega
        have known : pair.stamps = bucket.stamps := by simp [Pair.stamps, found]
        rw [known, after_eq_zero expired] at before
        have earlier : after since (pair.sweep config nowMs).admitted ≤
            after since (pair.sweep config nowMs).refunded := by
          show after since pair.admitted ≤ after since pair.refunded
          omega
        omega
    · have spared : (pair.sweep config nowMs).bucket = pair.bucket := by
        rw [swept, found]
        simp only [Option.filter, stale, not_false_eq_true, decide_true, if_true]
      rwa [kept spared]

/-- One step. -/
theorem sound_step (enabled : 0 < config.windowMs ∧ 0 < config.max)
    (patient : config.windowMs ≤ config.staleAfterMs) (state : State) (action : Action)
    (sound : ∀ key, Sound config state.nowMs (state.pairs key)) (key : String) :
    Sound config (step config state action).nowMs ((step config state action).pairs key) := by
  have changed : ∀ changing (change : Pair → Pair),
      Sound config state.nowMs (change (state.pairs changing)) →
      Sound config state.nowMs ((state.change changing change).pairs key) := by
    intro changing change next
    by_cases own : key = changing
    · subst own
      simpa only [State.change, Function.update_self] using next
    · simpa only [State.change, Function.update_of_ne own] using sound key
  cases action with
  | wait elapsedMs => exact (sound key).wait elapsedMs
  | consume userId agentId redisDecision =>
    exact changed _ _ ((sound _).consume enabled redisDecision)
  | refund userId agentId => exact changed _ _ (sound _).refund
  | sweep => exact (sound key).sweep enabled.1 patient

/-- In no window, whenever it begins, more attempts of a pair are admitted without an answer of
Redis than the limit and the refunds of that window, as long as a sweep leaves a pair alone for the
time of a window. -/
theorem register_attempts_limited {config : Config} (enabled : 0 < config.windowMs ∧ 0 < config.max)
    (patient : config.windowMs ≤ config.staleAfterMs) (actions : List Action)
    (userId agentId : String) (since : Int) :
    let pair := (run (step config) {} actions).pairs (bucketKey userId agentId)
    (within config since pair.admitted : Int) ≤ config.max + within config since pair.refunded := by
  have initially : ∀ key, Sound config ({} : State).nowMs (({} : State).pairs key) :=
    fun _ => Sound.initial enabled.2.le
  have sound := run_invariant (step config) (sound_step enabled patient) initially actions
  exact (sound (bucketKey userId agentId)).limited since

/-- Two attempts of three are admitted, one of them is taken back, and another is admitted. -/
theorem register_attempts_limited_refunded :
    let actions := [Action.wait 5, .consume "user" "agent" none, .consume "user" "agent" none,
      .consume "user" "agent" none, .sweep, .refund "user" "agent", .consume "user" "agent" none]
    let pair := (run (step ⟨1000, 2, 1100⟩) {} actions).pairs (bucketKey "user" "agent")
    (within ⟨1000, 2, 1100⟩ 0 pair.admitted : Int) ≤ 2 + within ⟨1000, 2, 1100⟩ 0 pair.refunded :=
  register_attempts_limited ⟨by decide, by decide⟩ (by norm_num) _ "user" "agent" 0

end PlugHub.RegisterAttempts
