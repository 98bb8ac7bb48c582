import Mathlib.Algebra.Group.Nat.Defs
import Mathlib.Data.List.Sort
import PlugHub.Library.OrderedMap
import PlugHub.Library.Runs

/-!
# The outbox of the registration emails

Rows of emails to send, which any number of workers claim in batches. A claim locks a row for a
while and counts nothing. The worker sends the email and then deletes the row or writes the number
of its attempts: the number that it read at the claim and one more, or the whole budget when the
recipient was refused for good. The write asks neither for the lock nor for the number, and rows of
a kind that the worker does not know are left as they were claimed.

Every statement of a worker is a step of its own. The state of a run keeps which attempts began,
which budgets were exhausted by a refusal, and what every pass did to its rows.
-/

namespace PlugHub.RegistrationOutbox

open Library
open OrderedMap (forall_set get_eq_some_iff get_erase get_erase_self get_modify get_set_cases
  get_set_of_ne get_set_self)

/-! ## Rows -/

/-- Settings of the outbox. -/
structure OutboxConfig where
  maxAttempts : Nat
  batchSize : Nat
  lockTimeoutMs : Nat
  retryBaseDelayMs : Nat
  workerConcurrency : Nat

/-- A payload: the names of those of its fields that are strings, if it is an object. -/
abbrev Payload := Option (List String)

/-- A row of the outbox. -/
structure OutboxRow where
  kind : String
  payload : Payload
  attempts : Nat := 0
  availableAt : Int
  createdAt : Int
  updatedAt : Int
  lockedAt : Option Int := none
  lastError : Option String := none
  highest : Nat := 0

/-- The fields that the payload of a known kind has: the assertions of the payloads. -/
def requiredFields : String → Option (List String)
  | "admin_approval_request" => some ["userEmail", "reviewToken"]
  | "user_pending_registration" => some ["email"]
  | "client_registration_request_to_owner" =>
    some ["ownerEmail", "clientEmail", "clientName", "clientLastName", "approvalToken"]
  | "client_access_request_to_owner" =>
    some ["ownerEmail", "clientEmail", "clientName", "clientLastName", "approvalToken", "agentId"]
  | _ => none

/-- A worker knows a kind. -/
def knownKind (kind : String) : Bool := (requiredFields kind).isSome

/-- The payload of a row passes the assertion of its kind. -/
def validPayload (kind : String) (payload : Payload) : Bool :=
  (requiredFields kind).any fun fields => payload.any fun strings => fields.all (· ∈ strings)

/-- What a claim returns of a row. -/
structure ClaimedRow where
  id : Nat
  kind : String
  payload : Payload
  attempts : Nat

/-- The rows, by their number. -/
abbrev OutboxTable := OrderedMap Nat OutboxRow

section Statements

variable (config : OutboxConfig) (now : Int)

/-- How long a claim locks a row, in whole seconds. -/
def lockTimeout : Nat := max 1 (config.lockTimeoutMs / 1000) * 1000

/-- A row can be claimed. -/
def OutboxRow.claimable (row : OutboxRow) : Bool :=
  row.attempts < config.maxAttempts && row.availableAt ≤ now &&
    row.lockedAt.all fun lockedAt => lockedAt < now - lockTimeout config

/-- Rows in the order of a claim. -/
def claimOrder (first second : Nat × OutboxRow) : Prop :=
  first.2.availableAt < second.2.availableAt ∨
    first.2.availableAt = second.2.availableAt ∧ first.2.createdAt ≤ second.2.createdAt

instance (first second : Nat × OutboxRow) : Decidable (claimOrder first second) :=
  inferInstanceAs (Decidable (_ ∨ _ ∧ _))

/-- The rows that a claim takes. -/
def candidates (table : OutboxTable) : List (Nat × OutboxRow) :=
  ((table.entries.filter fun entry => entry.2.claimable config now).insertionSort
    claimOrder).take config.batchSize

/-- `claimOutboxBatch`: the table, and the rows that were taken. -/
def claimOutboxBatch (table : OutboxTable) : OutboxTable × List ClaimedRow :=
  let taken := candidates config now table
  (taken.foldl (fun table entry => table.modify entry.1 fun row =>
      { row with lockedAt := some now, updatedAt := now }) table,
    taken.map fun entry => ⟨entry.1, entry.2.kind, entry.2.payload, entry.2.attempts⟩)

/-- The delay of a row with so many attempts. -/
def computeBackoffMs (attempts : Nat) : Nat :=
  config.retryBaseDelayMs * 2 ^ min 6 (attempts - 1)

/-- What the email of a row came to. -/
inductive Verdict where
  | delivered
  /-- It was not; the refusal of the recipient is final or not, and the failure was caught by
  `processRow` or not. -/
  | failed (message : String) (permanentRecipientRejection caught : Bool)
deriving DecidableEq

/-- A failure of the email sender is caught by `processRow`. -/
def Verdict.caught : Verdict → Verdict
  | .delivered => .delivered
  | .failed message permanentRecipientRejection _ =>
    .failed message permanentRecipientRejection true

/-- The number of attempts that `markFailed` writes. -/
def nextAttempts (row : ClaimedRow) (permanentRecipientRejection : Bool) : Nat :=
  if permanentRecipientRejection then config.maxAttempts else row.attempts + 1

/-- `markFailed`. -/
def markFailed (row : ClaimedRow) (message : String) (permanentRecipientRejection : Bool)
    (table : OutboxTable) : OutboxTable :=
  let attempts := nextAttempts config row permanentRecipientRejection
  table.modify row.id fun stored =>
    if config.maxAttempts ≤ attempts then
      { stored with
        attempts
        highest := max stored.highest attempts
        lastError := some
          (if permanentRecipientRejection then message else "max_attempts_reached: " ++ message)
        lockedAt := none
        updatedAt := now }
    else
      { stored with
        attempts
        highest := max stored.highest attempts
        lastError := some message
        lockedAt := none
        availableAt := now + computeBackoffMs config attempts
        updatedAt := now }

/-- `markDelivered` or `markFailed`. -/
def applyVerdict (row : ClaimedRow) (table : OutboxTable) : Verdict → OutboxTable
  | .delivered => table.erase row.id
  | .failed message permanentRecipientRejection _ =>
    markFailed config now row message permanentRecipientRejection table

/-- `pruneRegistrationOutboxDeadLetters`. -/
def prune (cutoff : Int) (table : OutboxTable) : OutboxTable :=
  (table.entries.filter fun entry =>
    config.maxAttempts ≤ entry.2.attempts && entry.2.updatedAt < cutoff).foldl
      (fun table entry => table.erase entry.1) table

end Statements

/-! ## Workers -/

/-- What a worker waits for. -/
inductive DeliveryPoint where
  | sending
  | writing (verdict : Verdict)

/-- What a statement did to a row. -/
inductive RowOutcome where
  | deleted
  | written (before after : Nat)

/-- A pass over a batch. -/
structure BatchPass where
  claimed : List ClaimedRow
  pending : List ClaimedRow
  working : List (ClaimedRow × DeliveryPoint) := []
  runners : Nat
  outcomes : List (Nat × RowOutcome) := []
  broken : Bool := false

/-- The pass over the rows that were claimed. -/
def beginPass (config : OutboxConfig) (claimed : List ClaimedRow) : BatchPass :=
  let rows := claimed.filter fun row => knownKind row.kind
  { claimed, pending := rows, runners := max 1 (min config.workerConcurrency rows.length) }

/-- A pass ran to its end. -/
def BatchPass.Ended (pass : BatchPass) : Prop :=
  pass.pending = [] ∧ pass.working = [] ∧ pass.broken = false

/-- What happened to rows. -/
inductive OutboxEvent where
  | attempted (id : Nat)
  | exhausted (id : Nat)
deriving DecidableEq

/-- The outbox with its workers. -/
structure Outbox where
  table : OutboxTable := .empty
  nextId : Nat := 0
  passes : OrderedMap Nat BatchPass := .empty
  nextPass : Nat := 0
  history : List OutboxEvent := []

/-- What happens to the outbox. -/
inductive OutboxAction where
  /-- An email is to be sent: `enqueueRows`. -/
  | enqueue (now : Int) (kind : String) (payload : Payload)
  | claim (now : Int)
  | begin (pass : Nat)
  | answer (pass id : Nat) (verdict : Verdict)
  | write (pass id : Nat) (now : Int)
  | writeFails (pass id : Nat) (message : String)
  | abandon (pass : Nat)
  | prune (cutoff : Int)

namespace BatchPass

variable (pass : BatchPass)

/-- What is waited for on behalf of a row. -/
def find (id : Nat) : Option (ClaimedRow × DeliveryPoint) :=
  pass.working.find? (·.1.id = id)

/-- A row is no longer worked on. -/
def drop (id : Nat) : BatchPass :=
  { pass with working := pass.working.filter (·.1.id ≠ id) }

/-- Another thing is waited for on behalf of a row. -/
def moveTo (id : Nat) (point : DeliveryPoint) : BatchPass :=
  { pass with
    working := pass.working.map fun entry => if entry.1.id = id then (entry.1, point) else entry }

/-- The rows that are worked on. -/
def started : List ClaimedRow := pass.working.map Prod.fst

/-- The rows that a pass may still write: those to begin and those worked on. -/
def held : List Nat := (pass.pending ++ pass.started).map (·.id)

end BatchPass

/-- The point at which the delivery of a row begins: `deliverRow`. -/
def beginDelivery (row : ClaimedRow) : DeliveryPoint :=
  if validPayload row.kind row.payload then .sending
  else .writing (.failed ("invalid " ++ row.kind ++ " payload") false false)

/-- What a statement did to a row, from the table before and after. -/
def outcomeOf (before after : OutboxTable) (id : Nat) : RowOutcome :=
  match after.get id with
  | none => .deleted
  | some row => .written (((before.get id).map (·.attempts)).getD 0) row.attempts

/-- A statement consumed an attempt: the row is gone, or it has one more attempt than before, or
all of them. -/
def RowOutcome.Consumes (config : OutboxConfig) : RowOutcome → Prop
  | .deleted => True
  | .written before after => before < after ∧ (after = before + 1 ∨ after = config.maxAttempts)

/-- What is waited for is the statement after which a failure is not caught. -/
def DeliveryPoint.last : DeliveryPoint → Bool
  | .writing (.failed _ _ caught) => caught
  | _ => false

namespace Outbox

variable (config : OutboxConfig) (outbox : Outbox)

/-- The rows that some pass may still write. -/
def held : List Nat := outbox.passes.values.flatMap BatchPass.held

/-- A budget that a statement exhausted. -/
def exhausted (row : ClaimedRow) : Verdict → List OutboxEvent
  | .failed _ true _ => if outbox.table.has row.id then [.exhausted row.id] else []
  | _ => []

/-- One step. -/
def step : OutboxAction → Outbox
  | .enqueue now kind payload =>
    { outbox with
      table := outbox.table.set outbox.nextId
        { kind, payload, availableAt := now, createdAt := now, updatedAt := now }
      nextId := outbox.nextId + 1 }
  | .claim now =>
    let (table, claimed) := claimOutboxBatch config now outbox.table
    { outbox with
      table
      passes := outbox.passes.set outbox.nextPass (beginPass config claimed)
      nextPass := outbox.nextPass + 1 }
  | .begin number =>
    match outbox.passes.get number with
    | none => outbox
    | some pass =>
      match pass.pending with
      | [] => outbox
      | row :: rest =>
        if pass.working.length < pass.runners then
          { outbox with
            passes := outbox.passes.set number
              { pass with
                pending := rest, working := pass.working ++ [(row, beginDelivery row)] }
            history := outbox.history ++ [.attempted row.id] }
        else outbox
  | .answer number id verdict =>
    match outbox.passes.get number with
    | none => outbox
    | some pass =>
      match pass.find id with
      | some (_, .sending) =>
        { outbox with
          passes := outbox.passes.set number (pass.moveTo id (.writing verdict.caught)) }
      | _ => outbox
  | .write number id now =>
    match outbox.passes.get number with
    | none => outbox
    | some pass =>
      match pass.find id with
      | some (row, .writing verdict) =>
        let table := applyVerdict config now row outbox.table verdict
        { outbox with
          table
          passes := outbox.passes.set number
            { pass.drop id with
              outcomes := pass.outcomes ++ [(id, outcomeOf outbox.table table id)] }
          history := outbox.history ++ outbox.exhausted row verdict }
      | _ => outbox
  | .writeFails number id message =>
    match outbox.passes.get number with
    | none => outbox
    | some pass =>
      match pass.find id with
      | some (_, .writing (.failed _ _ true)) =>
        { outbox with
          passes := outbox.passes.set number
            { pass.drop id with runners := pass.runners - 1, broken := true } }
      | some (_, .writing _) =>
        { outbox with
          passes := outbox.passes.set number
            (pass.moveTo id (.writing (.failed message false true))) }
      | _ => outbox
  | .abandon number =>
    match outbox.passes.get number with
    | none => outbox
    | some pass =>
      { outbox with
        passes := outbox.passes.set number
          { pass with pending := [], working := [], broken := true } }
  | .prune cutoff => { outbox with table := RegistrationOutbox.prune config cutoff outbox.table }

/-- What is promised. -/
structure Lawful : Prop where
  /-- The attempts of a row never decrease. -/
  undiminished : ∀ id row, outbox.table.get id = some row → row.highest ≤ row.attempts
  /-- A row is attempted as often as is configured at most. -/
  budget : ∀ id, outbox.history.countP (· = .attempted id) ≤ config.maxAttempts
  /-- What was given up is not attempted again. -/
  final : outbox.history.Pairwise fun earlier later =>
    ∀ id, earlier = .exhausted id → later ≠ .attempted id
  /-- A pass that ran to its end consumed an attempt of each row that it claimed. -/
  consumed : ∀ number pass, outbox.passes.get number = some pass → pass.Ended →
    ∀ row ∈ pass.claimed, ∃ outcome, (row.id, outcome) ∈ pass.outcomes ∧
      outcome.Consumes config

end Outbox

/-- A claim takes rows of known kinds, none of which some worker may still write; the last statement
for a row does not fail; and no worker is gone while it works on a row. -/
def Exclusive (config : OutboxConfig) (outbox : Outbox) : OutboxAction → Prop
  | .claim now => ∀ row ∈ (claimOutboxBatch config now outbox.table).2,
    knownKind row.kind = true ∧ row.id ∉ outbox.held
  | .writeFails number id _ => ∀ pass ∈ outbox.passes.get number, ∀ entry ∈ pass.find id,
    entry.2.last = false
  | .abandon number => ∀ pass ∈ outbox.passes.get number, pass.working.isEmpty = true
  | _ => True

instance (config : OutboxConfig) (outbox : Outbox) :
    ∀ action, Decidable (Exclusive config outbox action)
  | .claim now => inferInstanceAs (Decidable
    (∀ row ∈ (claimOutboxBatch config now outbox.table).2, _ ∧ _))
  | .writeFails number id _ => inferInstanceAs (Decidable
    (∀ pass ∈ outbox.passes.get number, ∀ entry ∈ pass.find id, _))
  | .abandon number => inferInstanceAs (Decidable (∀ pass ∈ outbox.passes.get number, _))
  | .enqueue _ _ _ => inferInstanceAs (Decidable True)
  | .begin _ => inferInstanceAs (Decidable True)
  | .answer _ _ _ => inferInstanceAs (Decidable True)
  | .write _ _ _ => inferInstanceAs (Decidable True)
  | .prune _ => inferInstanceAs (Decidable True)

/-! ## What statements do to the rows -/

section Tables

variable {config : OutboxConfig} {table : OutboxTable}

theorem of_candidates {now : Int} {entry : Nat × OutboxRow}
    (taken : entry ∈ candidates config now table) :
    table.get entry.1 = some entry.2 ∧ entry.2.attempts < config.maxAttempts := by
  have sorted := List.mem_of_mem_take taken
  obtain ⟨stored, test⟩ := List.mem_filter.mp ((List.mem_insertionSort _).mp sorted)
  simp only [OutboxRow.claimable, Bool.and_eq_true, decide_eq_true_eq] at test
  exact ⟨(get_eq_some_iff _ _ _).mpr stored, test.1.1⟩

theorem nodup_candidates (now : Int) : ((candidates config now table).map Prod.fst).Nodup := by
  have filtered : ((table.entries.filter fun entry => entry.2.claimable config now).map
      Prod.fst).Nodup := table.distinct.sublist (List.filter_sublist.map _)
  have sorted := (((List.perm_insertionSort claimOrder
    (table.entries.filter fun entry => entry.2.claimable config now)).map Prod.fst).nodup_iff).mpr
      filtered
  exact sorted.sublist ((List.take_sublist _ _).map _)

/-- What is counted of a row. -/
def OutboxRow.counted (row : OutboxRow) : Nat × Nat := (row.attempts, row.highest)

theorem counted_foldl_modify (change : OutboxRow → OutboxRow)
    (keeps : ∀ row, (change row).counted = row.counted) (entries : List (Nat × OutboxRow))
    (table : OutboxTable) (id : Nat) :
    ((entries.foldl (fun table entry => table.modify entry.1 change) table).get id).map
        OutboxRow.counted = (table.get id).map OutboxRow.counted := by
  induction entries generalizing table with
  | nil => rfl
  | cons entry rest ih =>
    rw [List.foldl_cons, ih, get_modify]
    by_cases same : id = entry.1
    · rw [if_pos same, ← same, Option.map_map]
      have kept : OutboxRow.counted ∘ change = OutboxRow.counted := funext keeps
      rw [kept]
    · rw [if_neg same]

theorem get_foldl_erase (entries : List (Nat × OutboxRow)) (table : OutboxTable) (id : Nat) :
    (entries.foldl (fun table entry => table.erase entry.1) table).get id =
      if id ∈ entries.map Prod.fst then none else table.get id := by
  induction entries generalizing table with
  | nil => rfl
  | cons entry rest ih =>
    rw [List.foldl_cons, ih, get_erase, List.map_cons]
    by_cases same : id = entry.1
    · simp [same]
    · simp only [same, if_false, List.mem_cons, false_or]

theorem of_get_prune {cutoff : Int} {id : Nat} {row : OutboxRow}
    (found : (prune config cutoff table).get id = some row) : table.get id = some row := by
  unfold prune at found
  rw [get_foldl_erase] at found
  split_ifs at found
  exact found

theorem get_prune {cutoff : Int} {id : Nat} {row : OutboxRow} (found : table.get id = some row)
    (few : row.attempts < config.maxAttempts) :
    (prune config cutoff table).get id = some row := by
  unfold prune
  rw [get_foldl_erase, if_neg, found]
  intro member
  obtain ⟨⟨_, stored⟩, dead, rfl⟩ := List.mem_map.mp member
  obtain ⟨listed, test⟩ := List.mem_filter.mp dead
  have same := found.symm.trans ((get_eq_some_iff _ _ _).mpr listed)
  cases same
  simp only [Bool.and_eq_true, decide_eq_true_eq] at test
  omega

theorem counted_claim (now : Int) (table : OutboxTable) (id : Nat) :
    ((claimOutboxBatch config now table).1.get id).map OutboxRow.counted =
      (table.get id).map OutboxRow.counted :=
  counted_foldl_modify (fun row => { row with lockedAt := some now, updatedAt := now })
    (fun _ => rfl) _ table id

variable {row : ClaimedRow}

theorem of_claimed {now : Int} (member : row ∈ (claimOutboxBatch config now table).2) :
    row.attempts < config.maxAttempts ∧
      ∃ stored, table.get row.id = some stored ∧ stored.attempts = row.attempts := by
  obtain ⟨entry, taken, rfl⟩ := List.mem_map.mp member
  obtain ⟨found, few⟩ := of_candidates taken
  exact ⟨few, entry.2, found, rfl⟩

theorem nodup_claimed (now : Int) :
    ((claimOutboxBatch config now table).2.map (·.id)).Nodup := by
  have shape : (claimOutboxBatch config now table).2.map (·.id) =
      (candidates config now table).map Prod.fst := List.map_map
  rw [shape]
  exact nodup_candidates now

theorem get_applyVerdict_of_ne {now : Int} {verdict : Verdict} {id : Nat} (differs : id ≠ row.id) :
    (applyVerdict config now row table verdict).get id = table.get id := by
  cases verdict with
  | delivered => exact OrderedMap.get_erase_of_ne _ differs
  | failed message permanentRecipientRejection caught =>
    simp only [applyVerdict, markFailed]
    rw [get_modify, if_neg differs]

theorem of_get_markFailed {now : Int} {message : String}
    {permanentRecipientRejection : Bool} {written : OutboxRow}
    (found : (markFailed config now row message permanentRecipientRejection table).get row.id =
      some written) :
    ∃ stored, table.get row.id = some stored ∧
      written.attempts = nextAttempts config row permanentRecipientRejection ∧
      written.highest = max stored.highest
        (nextAttempts config row permanentRecipientRejection) := by
  simp only [markFailed] at found
  rw [get_modify, if_pos rfl, Option.map_eq_some_iff] at found
  obtain ⟨stored, present, rfl⟩ := found
  refine ⟨stored, present, ?_⟩
  by_cases spent : config.maxAttempts ≤ nextAttempts config row permanentRecipientRejection
  · rw [if_pos spent]
    exact ⟨rfl, rfl⟩
  · rw [if_neg spent]
    exact ⟨rfl, rfl⟩

theorem has_markFailed (now : Int) (message : String)
    (permanentRecipientRejection : Bool) {stored : OutboxRow}
    (found : table.get row.id = some stored) :
    ∃ written, (markFailed config now row message permanentRecipientRejection table).get row.id =
      some written := by
  simp only [markFailed]
  rw [get_modify, if_pos rfl, found]
  exact ⟨_, rfl⟩

theorem lt_nextAttempts (few : row.attempts < config.maxAttempts)
    (permanentRecipientRejection : Bool) :
    row.attempts < nextAttempts config row permanentRecipientRejection ∧
      (nextAttempts config row permanentRecipientRejection = row.attempts + 1 ∨
        nextAttempts config row permanentRecipientRejection = config.maxAttempts) := by
  cases permanentRecipientRejection with
  | true => exact ⟨few, .inr rfl⟩
  | false => exact ⟨Nat.lt_succ_self _, .inl rfl⟩

end Tables

/-! ## What holds in a run -/

theorem BatchPass.started_subset_held (pass : BatchPass) {row : ClaimedRow}
    (member : row ∈ pass.started) : row.id ∈ pass.held :=
  List.mem_map_of_mem (List.mem_append_right _ member)

namespace Outbox

/-- How often a row was attempted. -/
def attemptsMade (outbox : Outbox) (id : Nat) : Nat :=
  outbox.history.countP (· = .attempted id)

/-- Some pass works on a row. -/
def WorksOn (outbox : Outbox) (id : Nat) : Prop :=
  ∃ number pass, outbox.passes.get number = some pass ∧ id ∈ pass.started.map (·.id)

theorem WorksOn.set {outbox : Outbox} {id number : Nat} {pass after : BatchPass}
    (works : outbox.WorksOn id) (found : outbox.passes.get number = some pass)
    (kept : id ∈ pass.started.map (·.id) → id ∈ after.started.map (·.id)) :
    { outbox with passes := outbox.passes.set number after }.WorksOn id := by
  obtain ⟨other, second, also, member⟩ := works
  by_cases same : other = number
  · subst same
    cases found.symm.trans also
    exact ⟨other, after, get_set_self _ _ _, kept member⟩
  · exact ⟨other, second, (get_set_of_ne _ _ same).trans also, member⟩

/-- What holds in every run whose claims are exclusive. -/
structure Sound (config : OutboxConfig) (outbox : Outbox) : Prop where
  undiminished : ∀ id row, outbox.table.get id = some row → row.highest ≤ row.attempts
  /-- Rows that are still to come are not stored, and nothing happened to them. -/
  freshRow : ∀ id, outbox.nextId ≤ id → outbox.table.get id = none ∧
    OutboxEvent.attempted id ∉ outbox.history ∧ OutboxEvent.exhausted id ∉ outbox.history
  freshPass : ∀ number, outbox.nextPass ≤ number → outbox.passes.get number = none
  once : ∀ number pass, outbox.passes.get number = some pass → pass.held.Nodup
  apart : ∀ number pass other second, outbox.passes.get number = some pass →
    outbox.passes.get other = some second → number ≠ other → ∀ id ∈ pass.held, id ∉ second.held
  /-- The rows that a pass holds are stored as they were claimed, and have attempts left. -/
  current : ∀ number pass, outbox.passes.get number = some pass →
    ∀ row ∈ pass.pending ++ pass.started, row.attempts < config.maxAttempts ∧
      ∃ stored, outbox.table.get row.id = some stored ∧ stored.attempts = row.attempts
  /-- The attempts of a row are counted, but for one that is under way. -/
  counted : ∀ id row, outbox.table.get id = some row → outbox.attemptsMade id ≤ row.attempts ∨
    (outbox.attemptsMade id = row.attempts + 1 ∧ outbox.WorksOn id)
  budget : ∀ id, outbox.attemptsMade id ≤ config.maxAttempts
  dead : ∀ id row, OutboxEvent.exhausted id ∈ outbox.history → outbox.table.get id = some row →
    config.maxAttempts ≤ row.attempts
  final : outbox.history.Pairwise fun earlier later =>
    ∀ id, earlier = .exhausted id → later ≠ .attempted id
  /-- A pass that is not broken has each of its rows before it or has consumed an attempt of it. -/
  progress : ∀ number pass, outbox.passes.get number = some pass → pass.broken = true ∨
    ∀ row ∈ pass.claimed, row ∈ pass.pending ∨ row ∈ pass.started ∨
      ∃ outcome, (row.id, outcome) ∈ pass.outcomes ∧ outcome.Consumes config

namespace Sound

variable {config : OutboxConfig} {outbox : Outbox}

theorem empty (config : OutboxConfig) : Sound config {} where
  undiminished := fun _ _ found => by cases found
  freshRow := fun _ _ => ⟨rfl, by simp, by simp⟩
  freshPass := fun _ _ => rfl
  once := fun _ _ found => by cases found
  apart := fun _ _ _ _ found => by cases found
  current := fun _ _ found => by cases found
  counted := fun _ _ found => by cases found
  budget := fun _ => Nat.zero_le _
  dead := fun _ _ _ found => by cases found
  final := List.Pairwise.nil
  progress := fun _ _ found => by cases found

section

variable (sound : Sound config outbox)

include sound

theorem lawful : outbox.Lawful config :=
  { sound with
    consumed := by
      intro number pass found ended row member
      obtain ⟨nonePending, noneWorking, whole⟩ := ended
      have cases := sound.progress number pass found
      simp only [whole, Bool.false_eq_true, false_or] at cases
      have known := cases row member
      simp only [nonePending, BatchPass.started, noneWorking, List.map_nil, List.not_mem_nil,
        false_or] at known
      exact known }

variable {id number : Nat} {pass after : BatchPass}

theorem counted_of_idle {row : OutboxRow}
    (found : outbox.table.get id = some row) (idle : ¬ outbox.WorksOn id) :
    outbox.attemptsMade id ≤ row.attempts := by
  cases sound.counted id row found with
  | inl few => exact few
  | inr busy => exact absurd busy.2 idle

theorem same_pass {other : Nat} {second : BatchPass}
    (found : outbox.passes.get number = some pass) (held : id ∈ pass.held)
    (also : outbox.passes.get other = some second) (alsoHeld : id ∈ second.held) :
    number = other := by
  by_contra differs
  exact sound.apart _ _ _ _ found also differs id held alsoHeld

theorem idle_of_pending (found : outbox.passes.get number = some pass) {row : ClaimedRow}
    (pending : row ∈ pass.pending) : ¬ outbox.WorksOn row.id := by
  rintro ⟨other, second, also, member⟩
  obtain ⟨started, listed, same⟩ := List.mem_map.mp member
  have heldThere : row.id ∈ second.held := same ▸ second.started_subset_held listed
  have heldHere : row.id ∈ pass.held := List.mem_map_of_mem (List.mem_append_left _ pending)
  have one := sound.same_pass found heldHere also heldThere
  subst one
  cases found.symm.trans also
  have once := sound.once number pass found
  rw [BatchPass.held, List.map_append, List.nodup_append] at once
  exact once.2.2 row.id (List.mem_map_of_mem pending) row.id member rfl

theorem enqueue (now : Int) (kind : String) (payload : Payload) :
    Sound config (outbox.step config (.enqueue now kind payload)) :=
  { sound with
    undiminished := forall_set (Nat.le_refl _) sound.undiminished
    freshRow := by
      intro id later
      have after : outbox.nextId ≤ id := Nat.le_of_succ_le later
      have differs : id ≠ outbox.nextId := Nat.ne_of_gt later
      obtain ⟨absent, others⟩ := sound.freshRow id after
      exact ⟨(get_set_of_ne _ _ differs).trans absent, others⟩
    current := by
      intro number pass found row member
      obtain ⟨few, stored, present, same⟩ := sound.current number pass found row member
      have differs : row.id ≠ outbox.nextId := by
        intro fresh
        rw [fresh, (sound.freshRow _ (Nat.le_refl _)).1] at present
        cases present
      exact ⟨few, stored, (get_set_of_ne _ _ differs).trans present, same⟩
    counted := by
      have never := (sound.freshRow _ (Nat.le_refl _)).2.1
      have zero : outbox.attemptsMade outbox.nextId = 0 := by
        rw [attemptsMade, List.countP_eq_zero]
        intro event member
        simp only [decide_eq_true_eq]
        intro same
        exact never (same ▸ member)
      exact forall_set (.inl (Nat.le_of_eq zero)) sound.counted
    dead := by
      intro id row exhausted found
      rcases get_set_cases found with ⟨rfl, rfl⟩ | ⟨_, earlier⟩
      · exact absurd exhausted (sound.freshRow _ (Nat.le_refl _)).2.2
      · exact sound.dead id row exhausted earlier }

theorem ofTable {table : OutboxTable} (same : ∀ id, (table.get id).map OutboxRow.counted =
      (outbox.table.get id).map OutboxRow.counted) :
    Sound config { outbox with table } := by
  have back : ∀ id row, table.get id = some row → ∃ stored, outbox.table.get id = some stored ∧
      stored.attempts = row.attempts ∧ stored.highest = row.highest := by
    intro id row found
    have image := same id
    rw [found, Option.map_some, eq_comm, Option.map_eq_some_iff] at image
    obtain ⟨stored, present, equal⟩ := image
    exact ⟨stored, present, congrArg Prod.fst equal, congrArg Prod.snd equal⟩
  have forth : ∀ id stored, outbox.table.get id = some stored → ∃ row, table.get id = some row ∧
      row.attempts = stored.attempts := by
    intro id stored found
    have image := same id
    rw [found, Option.map_some, Option.map_eq_some_iff] at image
    obtain ⟨row, present, equal⟩ := image
    exact ⟨row, present, congrArg Prod.fst equal⟩
  exact { sound with
    undiminished := by
      intro id row found
      obtain ⟨stored, present, attempts, highest⟩ := back id row found
      rw [← attempts, ← highest]
      exact sound.undiminished id stored present
    freshRow := by
      intro id later
      obtain ⟨absent, others⟩ := sound.freshRow id later
      refine ⟨?_, others⟩
      have image := same id
      rw [absent, Option.map_none, Option.map_eq_none_iff] at image
      exact image
    current := by
      intro number pass found row member
      obtain ⟨few, stored, present, attempts⟩ := sound.current number pass found row member
      obtain ⟨now, there, equal⟩ := forth row.id stored present
      exact ⟨few, now, there, equal.trans attempts⟩
    counted := by
      intro id row found
      obtain ⟨stored, present, attempts, -⟩ := back id row found
      rw [← attempts]
      exact sound.counted id stored present
    dead := by
      intro id row exhausted found
      obtain ⟨stored, present, attempts, -⟩ := back id row found
      rw [← attempts]
      exact sound.dead id stored exhausted present }

theorem prune (cutoff : Int) :
    Sound config (outbox.step config (.prune cutoff)) :=
  { sound with
    undiminished := fun id row found => sound.undiminished id row (of_get_prune found)
    freshRow := by
      intro id later
      obtain ⟨absent, others⟩ := sound.freshRow id later
      refine ⟨?_, others⟩
      cases found : (RegistrationOutbox.prune config cutoff outbox.table).get id with
      | none => exact found
      | some row => cases absent.symm.trans (of_get_prune found)
    current := by
      intro number pass found row member
      obtain ⟨few, stored, present, attempts⟩ := sound.current number pass found row member
      exact ⟨few, stored, get_prune present (attempts ▸ few), attempts⟩
    counted := fun id row found => sound.counted id row (of_get_prune found)
    dead := fun id row exhausted found => sound.dead id row exhausted (of_get_prune found) }

theorem freshPass_set (found : outbox.passes.get number = some pass) (later : Nat)
    (beyond : outbox.nextPass ≤ later) :
    (outbox.passes.set number after).get later = none := by
  have differs : later ≠ number := by
    intro same
    rw [same] at beyond
    cases (sound.freshPass number beyond).symm.trans found
  exact (get_set_of_ne _ _ differs).trans (sound.freshPass later beyond)

theorem apart_set (free : ∀ other second, other ≠ number → outbox.passes.get other = some second →
      ∀ id ∈ after.held, id ∉ second.held)
    (first : Nat) (one : BatchPass) (second : Nat) (two : BatchPass)
    (firstFound : (outbox.passes.set number after).get first = some one)
    (secondFound : (outbox.passes.set number after).get second = some two)
    (differs : first ≠ second) (id : Nat) (member : id ∈ one.held) : id ∉ two.held := by
  rcases get_set_cases firstFound with ⟨rfl, rfl⟩ | ⟨firstDiffers, firstEarlier⟩
  · rcases get_set_cases secondFound with ⟨rfl, rfl⟩ | ⟨secondDiffers, secondEarlier⟩
    · exact absurd rfl differs
    · exact free second two secondDiffers secondEarlier id member
  · rcases get_set_cases secondFound with ⟨rfl, rfl⟩ | ⟨_, secondEarlier⟩
    · intro there
      exact free first one firstDiffers firstEarlier id there member
    · exact sound.apart first one second two firstEarlier secondEarlier differs id member

theorem free_of_subset
    (found : outbox.passes.get number = some pass) (held : after.held ⊆ pass.held) (other : Nat)
    (second : BatchPass) (differs : other ≠ number) (also : outbox.passes.get other = some second)
    (id : Nat) (member : id ∈ after.held) : id ∉ second.held :=
  sound.apart number pass other second found also differs.symm id (held member)

/-- A pass begins over rows that no other pass holds. -/
theorem addPass {claimed : List ClaimedRow} (distinct : (claimed.map (·.id)).Nodup)
    (stored : ∀ row ∈ claimed, row.attempts < config.maxAttempts ∧
      ∃ stored, outbox.table.get row.id = some stored ∧ stored.attempts = row.attempts)
    (known : ∀ row ∈ claimed, knownKind row.kind = true ∧ row.id ∉ outbox.held) :
    Sound config
      { outbox with
        passes := outbox.passes.set outbox.nextPass (beginPass config claimed)
        nextPass := outbox.nextPass + 1 } := by
  have whole : (beginPass config claimed).pending = claimed :=
    List.filter_eq_self.mpr fun row member => (known row member).1
  have held : (beginPass config claimed).held = claimed.map (·.id) := by
    rw [BatchPass.held, whole]
    exact congrArg (List.map _) (List.append_nil _)
  have free : ∀ number pass, outbox.passes.get number = some pass → ∀ id ∈ pass.held,
      id ∉ claimed.map (·.id) := by
    intro number pass found id member taken
    obtain ⟨row, listed, rfl⟩ := List.mem_map.mp taken
    refine (known row listed).2 (List.mem_flatMap.mpr ⟨pass, ?_, member⟩)
    exact List.mem_map_of_mem ((get_eq_some_iff _ _ _).mp found)
  exact { sound with
    freshPass := by
      intro number later
      have differs : number ≠ outbox.nextPass := Nat.ne_of_gt later
      exact (get_set_of_ne _ _ differs).trans
        (sound.freshPass number (Nat.le_of_succ_le later))
    once := forall_set (held ▸ distinct) sound.once
    apart := sound.apart_set fun other second _ also id member there =>
      free other second also id there (held ▸ member)
    current := by
      refine forall_set (fun row member => ?_) sound.current
      rw [whole] at member
      rcases List.mem_append.mp member with pending | started
      · exact stored row pending
      · cases started
    counted := by
      intro id row found
      rcases sound.counted id row found with few | ⟨more, number, pass, there, member⟩
      · exact .inl few
      · have differs : number ≠ outbox.nextPass := by
          intro fresh
          rw [fresh, sound.freshPass _ (Nat.le_refl _)] at there
          cases there
        exact .inr ⟨more, number, pass, (get_set_of_ne _ _ differs).trans there, member⟩
    progress := by
      refine forall_set (.inr fun row member => .inl ?_) sound.progress
      rw [whole]
      exact member }

theorem claim {now : Int} (exclusive : Exclusive config outbox (.claim now)) :
    Sound config (outbox.step config (.claim now)) := by
  have counted : ∀ id, ((claimOutboxBatch config now outbox.table).1.get id).map
      OutboxRow.counted = (outbox.table.get id).map OutboxRow.counted :=
    counted_claim now outbox.table
  have locked := sound.ofTable counted
  refine locked.addPass (nodup_claimed now) ?_ exclusive
  intro row member
  obtain ⟨few, stored, present, attempts⟩ := of_claimed member
  have image := counted row.id
  rw [present, Option.map_some, Option.map_eq_some_iff] at image
  obtain ⟨later, there, equal⟩ := image
  exact ⟨few, later, there, (congrArg Prod.fst equal).trans attempts⟩

/-- Another thing is waited for, or the rows that are still to begin are given up. -/
theorem setPass
    (found : outbox.passes.get number = some pass) (started : after.started = pass.started)
    (pending : after.pending.Sublist pass.pending)
    (progress : after.broken = true ∨ ∀ row ∈ after.claimed,
      row ∈ after.pending ∨ row ∈ after.started ∨
        ∃ outcome, (row.id, outcome) ∈ after.outcomes ∧ outcome.Consumes config) :
    Sound config { outbox with passes := outbox.passes.set number after } := by
  have fewer : (after.pending ++ after.started).Sublist (pass.pending ++ pass.started) := by
    rw [started]
    exact pending.append_right _
  have held : after.held.Sublist pass.held := fewer.map _
  exact { sound with
    freshPass := sound.freshPass_set found
    once := forall_set ((sound.once number pass found).sublist held) sound.once
    apart := sound.apart_set (sound.free_of_subset found held.subset)
    current := forall_set (fun row member => sound.current number pass found row
      (fewer.subset member)) sound.current
    counted := fun id row stored => (sound.counted id row stored).imp_right fun busy =>
      ⟨busy.1, busy.2.set found fun works => started ▸ works⟩
    progress := forall_set progress sound.progress }

theorem moveTo (found : outbox.passes.get number = some pass) (id : Nat) (point : DeliveryPoint) :
    Sound config { outbox with passes := outbox.passes.set number (pass.moveTo id point) } := by
  have started : (pass.moveTo id point).started = pass.started := by
    simp only [BatchPass.started, BatchPass.moveTo, List.map_map]
    apply List.map_congr_left
    intro entry _
    simp only [Function.comp_apply]
    split_ifs
    · rfl
    · rfl
  refine sound.setPass found started (List.Sublist.refl _) ?_
  rw [started]
  exact sound.progress number pass found

theorem answer (number id : Nat) (verdict : Verdict) :
    Sound config (outbox.step config (.answer number id verdict)) := by
  simp only [step]
  split
  · exact sound
  · rename_i found
    split
    · exact sound.moveTo found id _
    · exact sound

theorem writeFails {message : String}
    (exclusive : Exclusive config outbox (.writeFails number id message)) :
    Sound config (outbox.step config (.writeFails number id message)) := by
  simp only [step]
  split
  · exact sound
  · rename_i pass found
    split
    · rename_i there
      cases exclusive pass found _ there
    · exact sound.moveTo found id _
    · exact sound

theorem abandon (exclusive : Exclusive config outbox (.abandon number)) :
    Sound config (outbox.step config (.abandon number)) := by
  simp only [step]
  split
  · exact sound
  · rename_i pass found
    have idle := List.isEmpty_iff.mp (exclusive pass found)
    refine sound.setPass found ?_ (List.nil_sublist _) (.inl rfl)
    simp only [BatchPass.started, idle]

end

theorem of_find {pass : BatchPass} {id : Nat} {entry : ClaimedRow × DeliveryPoint}
    (there : pass.find id = some entry) : entry.1 ∈ pass.started ∧ entry.1.id = id := by
  have named := List.find?_some there
  simp only [decide_eq_true_eq] at named
  exact ⟨List.mem_map_of_mem (List.mem_of_find?_eq_some there), named⟩

variable {row : ClaimedRow}

theorem mem_started_drop {pass : BatchPass} {id : Nat} :
    row ∈ (pass.drop id).started ↔ row ∈ pass.started ∧ row.id ≠ id := by
  simp only [BatchPass.started, BatchPass.drop, List.mem_map, List.mem_filter, decide_eq_true_eq]
  constructor
  · rintro ⟨entry, ⟨listed, differs⟩, rfl⟩
    exact ⟨⟨entry, listed, rfl⟩, differs⟩
  · rintro ⟨⟨entry, listed, rfl⟩, differs⟩
    exact ⟨entry, ⟨listed, differs⟩, rfl⟩

theorem sublist_held_drop (pass : BatchPass) (id : Nat) :
    ((pass.drop id).pending ++ (pass.drop id).started).Sublist (pass.pending ++ pass.started) :=
  List.Sublist.append (List.Sublist.refl _) (List.filter_sublist.map _)

theorem begin (sound : Sound config outbox) (number : Nat) :
    Sound config (outbox.step config (.begin number)) := by
  simp only [step]
  split
  · exact sound
  rename_i pass found
  split
  · exact sound
  rename_i row rest shape
  split_ifs
  · have pending : row ∈ pass.pending := by
      rw [shape]
      exact List.mem_cons_self
    have idle : ¬ outbox.WorksOn row.id := sound.idle_of_pending found pending
    obtain ⟨few, stored, present, attempts⟩ :=
      sound.current number pass found row (List.mem_append_left _ pending)
    have made : outbox.attemptsMade row.id ≤ stored.attempts := sound.counted_of_idle present idle
    have counts : ∀ id, (outbox.history ++ [OutboxEvent.attempted row.id]).countP
        (· = OutboxEvent.attempted id) =
          outbox.attemptsMade id + if row.id = id then 1 else 0 := by
      intro id
      rw [List.countP_append, List.countP_singleton]
      by_cases same : row.id = id
      · simp [same, attemptsMade]
      · simp [same, attemptsMade]
    let after : BatchPass :=
      { pass with pending := rest, working := pass.working ++ [(row, beginDelivery row)] }
    have started : after.started = pass.started ++ [row] := by
      simp only [after, BatchPass.started, List.map_append, List.map_cons, List.map_nil]
    have same : (after.pending ++ after.started).Perm (pass.pending ++ pass.started) := by
      rw [started, shape, ← List.append_assoc]
      exact List.perm_append_singleton _ _
    have held : after.held.Perm pass.held := same.map _
    exact {
      undiminished := sound.undiminished
      freshRow := by
        intro id later
        obtain ⟨absent, unattempted, unexhausted⟩ := sound.freshRow id later
        have differs : id ≠ row.id := by
          intro equal
          rw [equal, present] at absent
          cases absent
        refine ⟨absent, ?_, ?_⟩
        · simp only [List.mem_append, unattempted, List.mem_singleton, OutboxEvent.attempted.injEq,
            differs, or_self, not_false_eq_true]
        · simp only [List.mem_append, unexhausted, List.mem_singleton, reduceCtorEq, or_self,
            not_false_eq_true]
      freshPass := sound.freshPass_set found
      once := forall_set (held.nodup_iff.mpr (sound.once number pass found)) sound.once
      apart := sound.apart_set (sound.free_of_subset found held.subset)
      current := forall_set (fun held member => sound.current number pass found held
        (same.mem_iff.mp member)) sound.current
      counted := by
        intro id content there
        rw [attemptsMade, counts]
        by_cases equal : row.id = id
        · subst equal
          cases present.symm.trans there
          rw [if_pos rfl]
          rcases Nat.lt_or_ge (outbox.attemptsMade row.id) stored.attempts with less | reached
          · exact .inl less
          · refine .inr ⟨by omega, number, after, get_set_self _ _ _, ?_⟩
            rw [started]
            exact List.mem_map_of_mem (List.mem_append_right _ (List.mem_singleton.mpr rfl))
        · rw [if_neg equal, Nat.add_zero]
          refine (sound.counted id content there).imp_right fun busy =>
            ⟨busy.1, busy.2.set found fun works => ?_⟩
          rw [started, List.map_append]
          exact List.mem_append_left _ works
      budget := by
        intro id
        rw [attemptsMade, counts]
        by_cases equal : row.id = id
        · subst equal
          rw [if_pos rfl]
          omega
        · rw [if_neg equal]
          exact sound.budget id
      dead := by
        intro id content exhausted there
        rcases List.mem_append.mp exhausted with earlier | now
        · exact sound.dead id content earlier there
        · cases List.mem_singleton.mp now
      final := by
        rw [List.pairwise_append]
        refine ⟨sound.final, List.pairwise_singleton _ _, ?_⟩
        intro earlier listed later now id exhausted attempted
        rw [exhausted] at listed
        rw [List.mem_singleton.mp now] at attempted
        cases attempted
        have spent := sound.dead row.id stored listed present
        omega
      progress := by
        refine forall_set ?_ sound.progress
        refine (sound.progress number pass found).imp_right fun every claimed member => ?_
        rcases every claimed member with waits | works | consumed
        · have either := same.mem_iff.mpr (List.mem_append_left _ waits)
          rcases List.mem_append.mp either with left | right
          · exact .inl left
          · exact .inr (.inl right)
        · refine .inr (.inl ?_)
          rw [started]
          exact List.mem_append_left _ works
        · exact .inr (.inr consumed) }
  · exact sound

theorem consumes_applyVerdict {stored : OutboxRow} {table : OutboxTable}
    (few : row.attempts < config.maxAttempts) (present : table.get row.id = some stored)
    (attempts : stored.attempts = row.attempts) (now : Int) (verdict : Verdict) :
    (outcomeOf table (applyVerdict config now row table verdict) row.id).Consumes config := by
  cases verdict with
  | delivered =>
    simp only [outcomeOf, applyVerdict, get_erase_self]
    trivial
  | failed message permanentRecipientRejection caught =>
    obtain ⟨written, after⟩ : ∃ written,
        (markFailed config now row message permanentRecipientRejection table).get row.id =
          some written := has_markFailed now message permanentRecipientRejection present
    obtain ⟨_, _, precise, _⟩ := of_get_markFailed after
    have more := lt_nextAttempts few permanentRecipientRejection
    simp only [outcomeOf, applyVerdict, after, present, Option.map_some, Option.getD_some]
    rw [precise, attempts]
    exact more

theorem of_get_applyVerdict {stored : OutboxRow} {table : OutboxTable}
    (few : row.attempts < config.maxAttempts) (present : table.get row.id = some stored)
    {now : Int} {verdict : Verdict} {id : Nat} {content : OutboxRow}
    (found : (applyVerdict config now row table verdict).get id = some content) :
    (id ≠ row.id ∧ table.get id = some content) ∨
      (id = row.id ∧ row.attempts < content.attempts ∧
        content.highest ≤ max stored.highest content.attempts ∧
        ∀ message caught, verdict = .failed message true caught →
          content.attempts = config.maxAttempts) := by
  by_cases same : id = row.id
  · subst same
    refine .inr ⟨rfl, ?_⟩
    cases verdict with
    | delivered =>
      simp only [applyVerdict, get_erase_self] at found
      cases found
    | failed message permanentRecipientRejection caught =>
      obtain ⟨earlier, there, written, highest⟩ := of_get_markFailed found
      cases present.symm.trans there
      have more := (lt_nextAttempts few permanentRecipientRejection).1
      rw [← written] at more highest
      refine ⟨more, Nat.le_of_eq highest, ?_⟩
      intro _ _ refused
      cases refused
      exact written
  · rw [get_applyVerdict_of_ne same] at found
    exact .inl ⟨same, found⟩

theorem of_exhausted {verdict : Verdict} {event : OutboxEvent}
    (member : event ∈ outbox.exhausted row verdict) :
    event = .exhausted row.id ∧ outbox.table.has row.id = true ∧
      ∃ message caught, verdict = .failed message true caught := by
  cases verdict with
  | delivered => cases member
  | failed message permanentRecipientRejection caught =>
    cases permanentRecipientRejection with
    | false => cases member
    | true =>
      simp only [exhausted] at member
      split_ifs at member with there
      · exact ⟨List.mem_singleton.mp member, there, message, caught, rfl⟩
      · cases member

theorem attemptsMade_exhausted (row : ClaimedRow) (verdict : Verdict) (id : Nat) :
    (outbox.history ++ outbox.exhausted row verdict).countP (· = OutboxEvent.attempted id) =
      outbox.attemptsMade id := by
  have none : (outbox.exhausted row verdict).countP (· = OutboxEvent.attempted id) = 0 := by
    rw [List.countP_eq_zero]
    intro event member
    rw [(of_exhausted member).1]
    simp
  rw [List.countP_append, none]
  rfl

/-- The statement that writes what became of an email takes effect. -/
theorem write (sound : Sound config outbox) (number id : Nat) (now : Int) :
    Sound config (outbox.step config (.write number id now)) := by
  simp only [step]
  split
  · exact sound
  rename_i pass found
  split
  · rename_i row verdict there
    obtain ⟨works, named⟩ := of_find there
    simp only at works named
    subst named
    obtain ⟨few, stored, present, attempts⟩ :=
      sound.current number pass found row (List.mem_append_right _ works)
    have fewer := sublist_held_drop pass row.id
    have held : (pass.drop row.id).held.Sublist pass.held := fewer.map _
    have heldHere : row.id ∈ pass.held := pass.started_subset_held works
    have gone : row.id ∉ (pass.drop row.id).held := by
      intro member
      rw [BatchPass.held, List.map_append, List.mem_append] at member
      rcases member with waits | remains
      · have once := sound.once number pass found
        rw [BatchPass.held, List.map_append, List.nodup_append] at once
        exact once.2.2 row.id waits row.id (List.mem_map_of_mem works) rfl
      · obtain ⟨other, listed, same⟩ := List.mem_map.mp remains
        exact (mem_started_drop.mp listed).2 same
    exact {
      undiminished := by
        intro id content after
        rcases of_get_applyVerdict few present after with ⟨_, earlier⟩ |
          ⟨_, more, highest, _⟩
        · exact sound.undiminished id content earlier
        · have before := sound.undiminished row.id stored present
          omega
      freshRow := by
        intro id later
        obtain ⟨absent, unattempted, unexhausted⟩ := sound.freshRow id later
        have differs : id ≠ row.id := by
          intro equal
          rw [equal, present] at absent
          cases absent
        refine ⟨(get_applyVerdict_of_ne differs).trans absent, ?_, ?_⟩
        · intro member
          rcases List.mem_append.mp member with earlier | now
          · exact unattempted earlier
          · cases (of_exhausted now).1
        · intro member
          rcases List.mem_append.mp member with earlier | now
          · exact unexhausted earlier
          · exact differs (OutboxEvent.exhausted.inj (of_exhausted now).1)
      freshPass := sound.freshPass_set found
      once := forall_set ((sound.once number pass found).sublist held) sound.once
      apart := sound.apart_set (sound.free_of_subset found held.subset)
      current := by
        intro other second also claimed member
        have elsewhere : claimed.id ≠ row.id := by
          intro equal
          rcases get_set_cases also with ⟨rfl, rfl⟩ | ⟨differs, earlier⟩
          · have listed : claimed.id ∈ (pass.drop row.id).held := List.mem_map_of_mem member
            rw [equal] at listed
            exact gone listed
          · have both : row.id ∈ second.held := equal ▸ List.mem_map_of_mem member
            exact differs (sound.same_pass earlier both found heldHere)
        have before : claimed.attempts < config.maxAttempts ∧ ∃ stored,
            outbox.table.get claimed.id = some stored ∧ stored.attempts = claimed.attempts := by
          rcases get_set_cases also with ⟨rfl, rfl⟩ | ⟨_, earlier⟩
          · exact sound.current other pass found claimed (fewer.subset member)
          · exact sound.current other second earlier claimed member
        rw [get_applyVerdict_of_ne elsewhere]
        exact before
      counted := by
        intro id content after
        rw [attemptsMade, attemptsMade_exhausted]
        rcases of_get_applyVerdict few present after with ⟨differs, earlier⟩ |
          ⟨same, more, _, _⟩
        · refine (sound.counted id content earlier).imp_right fun busy =>
            ⟨busy.1, busy.2.set found fun works => ?_⟩
          obtain ⟨claimed, listed, equal⟩ := List.mem_map.mp works
          have remains : claimed ∈ (pass.drop row.id).started :=
            mem_started_drop.mpr ⟨listed, equal ▸ differs⟩
          exact equal ▸ List.mem_map_of_mem remains
        · subst same
          rcases sound.counted row.id stored present with enough | ⟨once, _⟩ <;> exact .inl (by omega)
      budget := by
        intro id
        rw [attemptsMade, attemptsMade_exhausted]
        exact sound.budget id
      dead := by
        intro id content spent after
        rcases of_get_applyVerdict few present after with ⟨differs, earlier⟩ |
          ⟨same, _, _, refused⟩
        · rcases List.mem_append.mp spent with before | now
          · exact sound.dead id content before earlier
          · exact absurd (OutboxEvent.exhausted.inj (of_exhausted now).1) differs
        · subst same
          rcases List.mem_append.mp spent with before | now
          · have none := sound.dead row.id stored before present
            omega
          · obtain ⟨_, _, message, caught, shape⟩ := of_exhausted now
            exact Nat.le_of_eq (refused message caught shape).symm
      final := by
        rw [List.pairwise_append]
        refine ⟨sound.final, ?_, ?_⟩
        · refine List.pairwise_of_forall_mem_list fun earlier _ later member id _ attempted => ?_
          rw [attempted] at member
          cases (of_exhausted member).1
        · intro earlier _ later member id _ attempted
          rw [attempted] at member
          cases (of_exhausted member).1
      progress := by
        refine forall_set ?_ sound.progress
        refine (sound.progress number pass found).imp_right fun every claimed member => ?_
        by_cases same : claimed.id = row.id
        · refine .inr (.inr ⟨outcomeOf outbox.table
            (applyVerdict config now row outbox.table verdict) row.id, ?_,
            consumes_applyVerdict few present attempts now verdict⟩)
          rw [same]
          exact List.mem_append_right _ (List.mem_singleton.mpr rfl)
        · rcases every claimed member with waits | remains | ⟨outcome, listed, consumes⟩
          · exact .inl waits
          · exact .inr (.inl (mem_started_drop.mpr ⟨remains, same⟩))
          · exact .inr (.inr ⟨outcome, List.mem_append_left _ listed, consumes⟩) }
  · exact sound

/-- An exclusive action keeps the outbox sound. -/
theorem step (sound : Sound config outbox) (action : OutboxAction)
    (exclusive : Exclusive config outbox action) : Sound config (outbox.step config action) := by
  cases action with
  | enqueue now kind payload => exact sound.enqueue now kind payload
  | claim now => exact sound.claim exclusive
  | begin number => exact sound.begin number
  | answer number id verdict => exact sound.answer number id verdict
  | write number id now => exact sound.write number id now
  | writeFails number id message => exact sound.writeFails exclusive
  | abandon number => exact sound.abandon exclusive
  | prune cutoff => exact sound.prune cutoff

end Sound

end Outbox

/-! ## Runs -/

/-- In every run in which a claim takes rows of known kinds that no worker may still write, the last
statement for a row does not fail and no worker is gone while it works on a row, the promises are
kept after every step. -/
theorem outbox_lawful_when_exclusive (config : OutboxConfig) (actions : List OutboxAction)
    (exclusive : Meets (Outbox.step config) (Exclusive config) {} actions) :
    ∀ taken, taken <+: actions → (run (Outbox.step config) {} taken).Lawful config := by
  intro taken first
  have keeps : ∀ (outbox : Outbox) (action : OutboxAction), outbox.Sound config →
      Exclusive config outbox action → (outbox.step config action).Sound config :=
    fun outbox action sound fine => sound.step action fine
  have sound := every_state_of_meets (Outbox.step config) keeps (Outbox.Sound.empty config)
    exclusive taken first
  exact sound.lawful

/-- Three attempts, two rows a batch, locks of a second. -/
def smallOutbox : OutboxConfig where
  maxAttempts := 3
  batchSize := 2
  lockTimeoutMs := 1000
  retryBaseDelayMs := 10
  workerConcurrency := 1

/-- Two rows are claimed. The first email fails, and the statement of the second is the failure. -/
def quietActions : List OutboxAction :=
  [.enqueue 0 "user_pending_registration" (some ["email"]),
    .enqueue 1 "user_pending_registration" none, .claim 2, .begin 0,
    .answer 0 0 (.failed "timeout" false false), .write 0 0 3, .begin 0, .write 0 1 4, .claim 20,
    .begin 1, .answer 1 0 .delivered, .write 1 0 21]

/-- A failed email is sent at the second attempt. -/
theorem outbox_lawful_retried :
    Meets (Outbox.step smallOutbox) (Exclusive smallOutbox) {} quietActions ∧
      ∀ taken, taken <+: quietActions →
        (run (Outbox.step smallOutbox) {} taken).Lawful smallOutbox :=
  have exclusive : Meets (Outbox.step smallOutbox) (Exclusive smallOutbox) {} quietActions := by
    decide
  ⟨exclusive, outbox_lawful_when_exclusive smallOutbox quietActions exclusive⟩

/-- A worker still sends an email when its lock expires. A second worker fails at the row twice, and
then the first writes that one attempt was made. -/
def overlappingActions : List OutboxAction :=
  [.enqueue 0 "user_pending_registration" (some ["email"]), .claim 0, .begin 0,
    .claim 2000, .begin 1, .answer 1 0 (.failed "timeout" false false), .write 1 0 2001,
    .claim 3000, .begin 2, .answer 2 0 (.failed "timeout" false false), .write 2 0 3001,
    .answer 0 0 (.failed "timeout" false false), .write 0 0 3002]

/-- The stored attempts decrease from two to one. -/
theorem overlapping_claims_diminish_attempts :
    ¬ (run (Outbox.step smallOutbox) {} overlappingActions).Lawful smallOutbox := by
  intro lawful
  have stored : ((run (Outbox.step smallOutbox) {} overlappingActions).table.get 0).map
      OutboxRow.counted = some (1, 2) := by decide
  rw [Option.map_eq_some_iff] at stored
  obtain ⟨row, found, counted⟩ := stored
  have kept := lawful.undiminished 0 row found
  have attempts : row.attempts = 1 := congrArg Prod.fst counted
  have highest : row.highest = 2 := congrArg Prod.snd counted
  omega

end PlugHub.RegistrationOutbox
