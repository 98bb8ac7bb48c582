import PlugHub.Bridge.CommandTransformers
import PlugHub.Library.OrderedMap
import PlugHub.Library.Runs

/-!
# Health snapshots on responses

An agent that negotiated it puts a snapshot of its health on some responses, and the hub leaves out
its own poll while the snapshot is fresh. When the snapshot was captured, and for how long it is
fresh, is what the agent says; the hub keeps the last snapshot that is not stale when it arrives.
The numbers of an agent are doubles, and so is the time since a snapshot was captured.
-/

namespace PlugHub.HealthPiggyback

open Library
open CommandTransformers (field)

/-! ## Reading -/

/-- The rounding of a number to the nearest double: it keeps the order, and integers up to `2 ^ 53`
are doubles. -/
structure DoubleRounding where
  round : ℚ → ℚ
  monotone : Monotone round
  integers : ∀ number : Int, |number| ≤ 2 ^ 53 → round number = number

/-- The rounding of numbers that are doubles. -/
def exactRounding : DoubleRounding := ⟨id, monotone_id, fun _ _ => rfl⟩

variable (rounding : DoubleRounding)

/-- From here on a number is rounded to infinity. -/
def overflowsFrom : ℚ := (2 ^ 1024 - 2 ^ 970 : Nat)

/-- `readFiniteNumber` of a field. -/
def readFiniteNumber (fields : JsonFields) (name : String) : Option ℚ :=
  match field fields name with
  | some (.number number) =>
    if |number.value| < overflowsFrom then some (rounding.round number.value) else none
  | _ => none

/-- A field that `isRecord`; an array has no field that is read. -/
def recordField (fields : JsonFields) (name : String) : Option JsonFields :=
  match field fields name with
  | some (.object inner) => some inner
  | some (.array _) => some []
  | _ => none

/-- A field, or the other one where it is null or not defined. -/
def firstName (fields : JsonFields) (first second : String) : String :=
  match field fields first with
  | none => second
  | some .null => second
  | some _ => first

/-- `readHealthSnapshot`. -/
def readHealthSnapshot (rpcBody : JsonFields) : Option JsonFields := do
  let fields ← recordField rpcBody "meta"
  recordField fields (firstName fields "health_snapshot" "healthSnapshot")

/-- `isHealthPiggybackNegotiated`. -/
def isHealthPiggybackNegotiated (agentCapabilities : JsonFields) : Bool :=
  ((recordField agentCapabilities "extensions").bind
    (recordField · "healthPiggyback")).isSome

/-- `HUB_TRANSPORT_EXTENSIONS.healthPiggyback.freshnessThresholdMs`. -/
def hubFreshnessThresholdMs : ℚ := 5000

/-- The first of two numbers, when it is positive. -/
def positiveNumber (fields : JsonFields) (first second : String) : Option ℚ :=
  (readFiniteNumber rounding fields first <|> readFiniteNumber rounding fields second).filter
    (0 < ·)

/-- `resolveNegotiatedHealthPiggybackFreshnessThresholdMs`. -/
def resolveNegotiatedHealthPiggybackFreshnessThresholdMs (agentCapabilities : JsonFields) :
    Option ℚ :=
  if isHealthPiggybackNegotiated agentCapabilities then
    let extensions := (recordField agentCapabilities "extensions").getD []
    let negotiated :=
      recordField extensions (firstName extensions "healthPiggyback" "health_piggyback")
    some ((negotiated.bind
      (positiveNumber rounding · "freshnessThresholdMs" "freshness_threshold_ms")).getD
        hubFreshnessThresholdMs)
  else none

/-- `resolveFreshnessThresholdMs`. -/
def resolveFreshnessThresholdMs (snapshot : JsonFields) (agentCapabilities : Option JsonFields)
    (negotiatedFreshnessThresholdMs : Option ℚ) : ℚ :=
  match positiveNumber rounding snapshot "freshness_threshold_ms" "freshnessThresholdMs" with
  | some fromSnapshot => fromSnapshot
  | none =>
    match negotiatedFreshnessThresholdMs.filter (0 < ·) with
    | some negotiated => negotiated
    | none =>
      (agentCapabilities.bind
        (resolveNegotiatedHealthPiggybackFreshnessThresholdMs rounding)).getD
        hubFreshnessThresholdMs

/-- When a snapshot was captured. -/
def capturedAt (snapshot : JsonFields) : Option ℚ :=
  positiveNumber rounding snapshot "captured_at_ms" "capturedAtMs"

/-! ## The hub -/

/-- `AgentPiggybackFreshness`. -/
structure AgentPiggybackFreshness where
  capturedAtMs : ℚ
  freshnessThresholdMs : ℚ

/-- A snapshot that the hub recorded. -/
structure RecordedSnapshot where
  agentId : String
  capturedAtMs : ℚ
  /-- When it was recorded. -/
  nowMs : Nat
  /-- The threshold that was negotiated then. -/
  negotiatedMs : ℚ
deriving DecidableEq

/-- `freshnessByAgentId`, with the snapshots that were recorded since the agent registered. -/
structure HubHealth where
  freshness : OrderedMap String AgentPiggybackFreshness := .empty
  recorded : List RecordedSnapshot := []
  nowMs : Nat := 0

/-- A snapshot is recorded. -/
def HubHealth.record (hub : HubHealth) (agentId : String) (freshness : AgentPiggybackFreshness)
    (negotiatedMs : ℚ) : HubHealth :=
  { hub with
    freshness := hub.freshness.set agentId freshness
    recorded := hub.recorded ++ [⟨agentId, freshness.capturedAtMs, hub.nowMs, negotiatedMs⟩] }

/-- `shouldSkipScheduledAgentHealthPoll`. -/
def shouldSkipScheduledAgentHealthPoll (hub : HubHealth) (agentId : String) (nowMs : Nat) : Bool :=
  match hub.freshness.get agentId with
  | none => false
  | some freshness =>
    rounding.round (nowMs - freshness.capturedAtMs) ≤ freshness.freshnessThresholdMs

/-- The snapshot of a response that is recorded: it is there, says when it was captured, and is not
stale. -/
def snapshotToRecord (agentCapabilities : Option JsonFields) (negotiated : ℚ)
    (rpcBody : JsonFields) (nowMs : Nat) : Option AgentPiggybackFreshness := do
  let snapshot ← readHealthSnapshot rpcBody
  let capturedAtMs ← capturedAt rounding snapshot
  let freshnessThresholdMs :=
    resolveFreshnessThresholdMs rounding snapshot agentCapabilities negotiated
  if freshnessThresholdMs < rounding.round (nowMs - capturedAtMs) then none
  else some ⟨capturedAtMs, freshnessThresholdMs⟩

/-- `maybeRecordAgentHealthPiggyback`. -/
def maybeRecordAgentHealthPiggyback (hub : HubHealth) (agentId : String)
    (agentCapabilities : Option JsonFields) (negotiatedFreshnessThresholdMs : Option ℚ)
    (rpcBody : JsonFields) : Bool × HubHealth :=
  match negotiatedFreshnessThresholdMs.or (agentCapabilities.bind
      (resolveNegotiatedHealthPiggybackFreshnessThresholdMs rounding)) with
  | none => (false, hub)
  | some negotiated =>
    match snapshotToRecord rounding agentCapabilities negotiated rpcBody hub.nowMs with
    | none => (false, hub)
    | some freshness => (true, hub.record agentId freshness negotiated)

/-- `clearAgentHealthPiggybackState` of an agent. -/
def HubHealth.forget (hub : HubHealth) (agentId : String) : HubHealth :=
  { hub with
    freshness := hub.freshness.erase agentId
    recorded := hub.recorded.filter fun snapshot => snapshot.agentId ≠ agentId }

/-- What happens at the hub. -/
inductive HealthAction where
  /-- A response is forwarded, of an agent that is registered with these capabilities. -/
  | respond (agentId : String) (agentCapabilities rpcBody : JsonFields)
  | clear (agentId : String)

/-- Time passes. -/
def HubHealth.wait (hub : HubHealth) (elapsed : Nat) : HubHealth :=
  { hub with nowMs := hub.nowMs + elapsed }

/-- One step, so long after the one before; the forwarder hands on the threshold that was
negotiated when the agent registered. -/
def HubHealth.step (hub : HubHealth) (action : Nat × HealthAction) : HubHealth :=
  let now := hub.wait action.1
  match action.2 with
  | .respond agentId agentCapabilities rpcBody =>
    match resolveNegotiatedHealthPiggybackFreshnessThresholdMs rounding agentCapabilities with
    | none => now
    | some negotiated =>
      (maybeRecordAgentHealthPiggyback rounding now agentId none (some negotiated) rpcBody).2
  | .clear agentId => now.forget agentId

/-! ## What is promised -/

/-- The latest time that a clock shows. -/
def maxTimeMs : Nat := 8640000000000000

/-- A snapshot of the agent was recorded within the threshold that was negotiated, before this
time. -/
def Covered (recorded : List RecordedSnapshot) (agentId : String) (later : Nat) : Prop :=
  ∃ snapshot ∈ recorded, snapshot.agentId = agentId ∧ snapshot.nowMs ≤ later ∧
    later ≤ snapshot.nowMs + snapshot.negotiatedMs

/-- A poll is left out only when a snapshot of the agent was recorded within the threshold that was
negotiated, and the snapshot that is kept is the freshest of those that were recorded. -/
structure Polled (hub : HubHealth) : Prop where
  /-- A poll is left out only for a recent snapshot. -/
  skips : ∀ (agentId : String) (later : Nat), hub.nowMs ≤ later → later ≤ maxTimeMs →
    shouldSkipScheduledAgentHealthPoll rounding hub agentId later = true →
      Covered hub.recorded agentId later
  /-- The snapshot that is kept is the freshest. -/
  freshest : ∀ agentId freshness, hub.freshness.get agentId = some freshness →
    ∀ snapshot ∈ hub.recorded, snapshot.agentId = agentId →
      snapshot.capturedAtMs ≤ freshness.capturedAtMs

/-- A snapshot that is not stale was not captured in the future, is by what it says fresh no longer
than was negotiated, and was not captured before the one that is kept. -/
def HonestResponse (hub : HubHealth) (agentId : String) (agentCapabilities rpcBody : JsonFields) :
    Prop :=
  ∀ negotiated ∈ resolveNegotiatedHealthPiggybackFreshnessThresholdMs rounding agentCapabilities,
    ∀ freshness ∈ snapshotToRecord rounding none negotiated rpcBody hub.nowMs,
      freshness.capturedAtMs ≤ hub.nowMs ∧ freshness.freshnessThresholdMs ≤ negotiated ∧
        ∀ kept ∈ hub.freshness.get agentId, kept.capturedAtMs ≤ freshness.capturedAtMs

/-- The snapshots of the responses are honest. -/
def Honest (hub : HubHealth) (action : Nat × HealthAction) : Prop :=
  match action.2 with
  | .clear _ => True
  | .respond agentId agentCapabilities rpcBody =>
    HonestResponse rounding (hub.wait action.1) agentId agentCapabilities rpcBody

/-- What is kept of honest snapshots. -/
structure Kept (hub : HubHealth) : Prop where
  /-- The snapshot that is kept was recorded, not before it was captured, and is not fresh longer
  than was negotiated. -/
  known : ∀ agentId freshness, hub.freshness.get agentId = some freshness →
    ∃ snapshot ∈ hub.recorded, snapshot.agentId = agentId ∧ snapshot.nowMs ≤ hub.nowMs ∧
      freshness.capturedAtMs ≤ snapshot.nowMs ∧
      freshness.freshnessThresholdMs ≤ snapshot.negotiatedMs
  /-- Of an agent whose snapshots were recorded the freshest is kept. -/
  freshest : ∀ snapshot ∈ hub.recorded, ∃ freshness,
    hub.freshness.get snapshot.agentId = some freshness ∧
      snapshot.capturedAtMs ≤ freshness.capturedAtMs

section Steps

variable {rounding : DoubleRounding} {hub : HubHealth}

theorem Kept.wait (kept : Kept hub) (elapsed : Nat) : Kept (hub.wait elapsed) where
  known agentId freshness found := by
    obtain ⟨snapshot, member, its, before, rest⟩ := kept.known agentId freshness found
    exact ⟨snapshot, member, its, before.trans (Nat.le_add_right _ _), rest⟩
  freshest := kept.freshest

theorem Kept.forget (kept : Kept hub) (agentId : String) : Kept (hub.forget agentId) where
  known other freshness found := by
    dsimp only [HubHealth.forget] at found ⊢
    rw [OrderedMap.get_erase] at found
    split_ifs at found with same
    obtain ⟨snapshot, member, its, rest⟩ := kept.known other freshness found
    refine ⟨snapshot, List.mem_filter.mpr ⟨member, ?_⟩, its, rest⟩
    rw [its]
    exact decide_eq_true same
  freshest snapshot member := by
    dsimp only [HubHealth.forget] at member ⊢
    obtain ⟨earlier, differs⟩ := List.mem_filter.mp member
    rw [OrderedMap.get_erase_of_ne _ (of_decide_eq_true differs)]
    exact kept.freshest snapshot earlier

/-- A snapshot is recorded that is no older than the one that is kept. -/
theorem Kept.record (kept : Kept hub) {agentId : String} {freshness : AgentPiggybackFreshness}
    {negotiated : ℚ} (past : freshness.capturedAtMs ≤ hub.nowMs)
    (modest : freshness.freshnessThresholdMs ≤ negotiated)
    (newest : ∀ before ∈ hub.freshness.get agentId,
      before.capturedAtMs ≤ freshness.capturedAtMs) :
    Kept (hub.record agentId freshness negotiated) where
  known other found its := by
    dsimp only [HubHealth.record] at its ⊢
    rw [OrderedMap.get_set] at its
    split_ifs at its with same
    · cases its
      exact ⟨_, List.mem_append_right _ List.mem_cons_self, same.symm, le_rfl, past, modest⟩
    · obtain ⟨snapshot, member, rest⟩ := kept.known other found its
      exact ⟨snapshot, List.mem_append_left _ member, rest⟩
  freshest snapshot member := by
    dsimp only [HubHealth.record] at member ⊢
    rw [OrderedMap.get_set]
    rcases List.mem_append.mp member with earlier | last
    · obtain ⟨before, found, older⟩ := kept.freshest snapshot earlier
      split_ifs with same
      · rw [same] at found
        exact ⟨freshness, rfl, older.trans (newest before found)⟩
      · exact ⟨before, found, older⟩
    · cases List.mem_singleton.mp last
      rw [if_pos rfl]
      exact ⟨freshness, rfl, le_rfl⟩

/-- An honest response keeps the freshest snapshot. -/
theorem Kept.step (kept : Kept hub) (action : Nat × HealthAction)
    (honest : Honest rounding hub action) : Kept (hub.step rounding action) := by
  obtain ⟨elapsed, action⟩ := action
  have waited := kept.wait elapsed
  cases action with
  | clear agentId => exact waited.forget agentId
  | respond agentId agentCapabilities rpcBody =>
    dsimp only [HubHealth.step, maybeRecordAgentHealthPiggyback]
    cases negotiating :
        resolveNegotiatedHealthPiggybackFreshnessThresholdMs rounding agentCapabilities with
    | none => exact waited
    | some negotiated =>
      dsimp only [Option.or]
      cases recorded : snapshotToRecord rounding none negotiated rpcBody
          (hub.wait elapsed).nowMs with
      | none => exact waited
      | some freshness =>
        obtain ⟨past, modest, newest⟩ := honest negotiated negotiating freshness recorded
        exact waited.record past modest newest

theorem Kept.polled (kept : Kept hub) : Polled rounding hub where
  skips agentId later reached inRange skipped := by
    unfold shouldSkipScheduledAgentHealthPoll at skipped
    cases found : hub.freshness.get agentId with
    | none =>
      rw [found] at skipped
      cases skipped
    | some freshness =>
      simp only [found, decide_eq_true_eq] at skipped
      obtain ⟨snapshot, member, its, before, past, modest⟩ := kept.known agentId freshness found
      refine ⟨snapshot, member, its, before.trans reached, ?_⟩
      -- the time since it was recorded is an integer and not rounded; it is no longer than the time
      -- since it was captured, and rounding keeps that order
      have integer : rounding.round ((later - snapshot.nowMs : Int) : ℚ) =
          ((later - snapshot.nowMs : Int) : ℚ) := by
        apply rounding.integers
        unfold maxTimeMs at inRange
        rw [abs_le]
        omega
      have sooner : ((later - snapshot.nowMs : Int) : ℚ) ≤ later - freshness.capturedAtMs := by
        push_cast
        linarith
      have fresh := ((rounding.monotone sooner).trans skipped).trans modest
      rw [integer] at fresh
      push_cast at fresh
      linarith
  freshest agentId freshness found snapshot member its := by
    obtain ⟨other, present, older⟩ := kept.freshest snapshot member
    rw [its, found] at present
    cases present
    exact older

end Steps

/-- In every run in which the snapshots are honest, in every state a poll is left out only while a
snapshot that was recorded is fresh by the threshold that was negotiated, and the freshest snapshot
is kept. -/
theorem polls_kept_when_honest (actions : List (Nat × HealthAction))
    (honest : Meets (HubHealth.step rounding) (Honest rounding) {} actions) :
    ∀ taken, taken <+: actions → Polled rounding (run (HubHealth.step rounding) {} taken) := by
  have keeps : ∀ (hub : HubHealth) (action : Nat × HealthAction), Kept hub →
      Honest rounding hub action → Kept (hub.step rounding action) :=
    fun _ action kept honest => kept.step action honest
  have initially : Kept {} := by
    constructor
    · intro agentId freshness found
      cases found
    · intro snapshot member
      cases member
  exact fun taken first => (every_state_of_meets _ keeps initially honest taken first).polled

/-- Capabilities with the extension, at the hub's own threshold. -/
def piggybackCapabilities : JsonFields :=
  [(utf16 "extensions", .object [(utf16 "healthPiggyback", .object [])])]

/-- A response with a snapshot that says when it was captured. -/
def snapshotResponse (capturedAtMs : Nat) : JsonFields :=
  [(utf16 "meta", .object [(utf16 "health_snapshot",
    .object [(utf16 "captured_at_ms", .number (.ofNat capturedAtMs))])])]

/-- Two honest snapshots, the second a second after the first. -/
def honestResponses : List (Nat × HealthAction) :=
  [(1000, .respond "agent" piggybackCapabilities (snapshotResponse 900)),
    (1000, .respond "agent" piggybackCapabilities (snapshotResponse 1900))]

/-- Five seconds after the second was captured a poll is left out. -/
theorem poll_left_out_for_honest_snapshot :
    shouldSkipScheduledAgentHealthPoll exactRounding
        (run (HubHealth.step exactRounding) {} honestResponses) "agent" 6900 = true ∧
      Polled exactRounding (run (HubHealth.step exactRounding) {} honestResponses) := by
  refine ⟨by decide +kernel, polls_kept_when_honest exactRounding honestResponses ?_ _
    (List.prefix_refl _)⟩
  have honest : HonestResponse exactRounding (HubHealth.wait {} 1000) "agent"
        piggybackCapabilities (snapshotResponse 900) ∧
      HonestResponse exactRounding ((HubHealth.step exactRounding {} (1000, .respond "agent"
        piggybackCapabilities (snapshotResponse 900))).wait 1000) "agent" piggybackCapabilities
          (snapshotResponse 1900) := by
    unfold HonestResponse
    decide +kernel
  exact ⟨honest.1, honest.2, trivial⟩

/-- The hub a thousandth of a second after it started, after a response with a snapshot that was
captured an hour from now. -/
def misledHub : HubHealth :=
  run (HubHealth.step exactRounding) {}
    [(1, .respond "agent" piggybackCapabilities (snapshotResponse 3600000))]

/-- The threshold that was negotiated is five seconds; a minute after the snapshot was recorded the
poll is still left out. -/
theorem poll_left_out_for_future_snapshot :
    shouldSkipScheduledAgentHealthPoll exactRounding misledHub "agent" 60001 = true ∧
      misledHub.recorded.map (fun snapshot => (snapshot.nowMs, snapshot.negotiatedMs)) =
        [(1, 5000)] ∧
      ¬ Polled exactRounding misledHub := by
  have skipped :
      shouldSkipScheduledAgentHealthPoll exactRounding misledHub "agent" 60001 = true := by
    decide +kernel
  have recorded : misledHub.recorded = [⟨"agent", 3600000, 1, 5000⟩] := by decide +kernel
  have now : misledHub.nowMs = 1 := by decide +kernel
  refine ⟨skipped, by rw [recorded]; rfl, fun polled => ?_⟩
  obtain ⟨snapshot, member, -, -, within⟩ :=
    polled.skips "agent" 60001 (by rw [now]; decide) (by decide) skipped
  rw [recorded] at member
  cases List.mem_singleton.mp member
  norm_num at within

end PlugHub.HealthPiggyback
