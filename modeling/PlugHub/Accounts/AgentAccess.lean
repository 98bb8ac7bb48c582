import PlugHub.Library.OrderedMap
import PlugHub.Library.Runs

/-!
# Access of a client to an agent

The rows of one client and one agent: the access request, the approval token of the request and the
access itself, and the operations on them as the statements that they send to the database, each
transaction as one statement. Decisions change a pending request only and are atomic with the
access row. Other writes are not conditional: a new request makes the request pending whatever it
is, an expired link or a status poll makes it expired, a removal by the client deletes the access
and then makes the request revoked when it had read it approved.
-/

namespace PlugHub.AgentAccess

open Library

/-! ## Rows -/

/-- The status of an access request. -/
inductive RequestStatus where
  | pending
  | approved
  | rejected
  | expired
  | revoked
deriving DecidableEq

/-- A decision of the owner was made. -/
def RequestStatus.decided : RequestStatus → Bool
  | .approved => true
  | .rejected => true
  | _ => false

/-- The request may be made again. -/
def RequestStatus.isRetryEligible (status : RequestStatus) : Bool :=
  status == .rejected || status == .expired || status == .revoked

/-- An access request. -/
structure AccessRequest where
  status : RequestStatus
  requestedAt : Nat
  retryCount : Nat

/-- The approval token of a request. -/
structure ApprovalToken where
  id : String
  expiresAt : Nat

/-- The token is expired at an instant. -/
def ApprovalToken.isExpired (token : ApprovalToken) (now : Nat) : Bool := token.expiresAt ≤ now

/-- The limits. -/
structure AccessConfig where
  debounceMs : Nat
  maxRetries : Nat

/-! ## Operations -/

/-- A request for access. -/
structure AccessAsk where
  eligible : Bool
  owned : Bool
  now : Nat
  token : ApprovalToken

/-- A decision. -/
inductive Verdict where
  | approve
  | reject
deriving DecidableEq

/-- The status that a decision gives to a request. -/
def Verdict.status : Verdict → RequestStatus
  | .approve => .approved
  | .reject => .rejected

/-- The next statement of an operation in progress. -/
inductive Phase where
  /-- `requestAccess` reads the access. -/
  | readAccess (ask : AccessAsk)
  /-- `requestAccess` reads the request. -/
  | readRequest (ask : AccessAsk)
  /-- `requestAccess` writes the request and its token. -/
  | writePending (ask : AccessAsk) (retryCount : Nat)
  /-- `retryRequestByClient` reads the request. -/
  | retryRead (ask : AccessAsk)
  /-- `retryRequestByClient` reads the access of an approved request. -/
  | retryAccess (ask : AccessAsk)
  | tokenFind (verdict : Verdict) (tokenId : String) (eligible : Bool) (now : Nat)
  | tokenRequest (verdict : Verdict) (token : ApprovalToken) (eligible : Bool) (now : Nat)
  | tokenExpire (tokenId : String)
  | tokenDelete (tokenId : String)
  | ownerRequest (verdict : Verdict) (owns eligible : Bool)
  /-- The transaction of a decision, which consumes one token or those of the request. -/
  | decide (verdict : Verdict) (consumeTokenId : Option String)
  | revokeAccess
  | removalRead
  /-- A removal by the client deletes the access; the request was read approved or not. -/
  | removalDelete (approved : Bool)
  | removalRevoke
  | pollToken (tokenId : String) (now : Nat)
  | pollRequest (token : ApprovalToken) (now : Nat)
  | pollExpire
  /-- The sweep of expired requests, then of expired tokens: one entry for each batch, which is
  whether the rows of this client and agent are within its limit. -/
  | sweep (cutoff : Nat) (requestBatches tokenBatches : List Bool)

/-- Why the status of a request was written. -/
inductive Cause where
  | request
  | decision
  | expiry
  | revocation
deriving DecidableEq

/-- A write to the status of a request. -/
structure StatusChange where
  cause : Cause
  earlier : Option RequestStatus
  later : RequestStatus
  cycle : Nat

/-- The rows of a client and an agent, the operations in progress and the history. -/
structure AccessState where
  request : Option AccessRequest := none
  token : Option ApprovalToken := none
  access : Bool := false
  operations : OrderedMap Nat Phase := OrderedMap.empty
  cycle : Nat := 0
  changes : List StatusChange := []

namespace AccessState

/-- The status of the request. -/
def status (state : AccessState) : Option RequestStatus := state.request.map (·.status)

/-- Write the status of the request. -/
def setStatus (state : AccessState) (cause : Cause) (next : RequestStatus) : AccessState :=
  match state.request with
  | some request =>
    { state with
      request := some { request with status := next }
      changes := ⟨cause, some request.status, next, state.cycle⟩ :: state.changes }
  | none => state

/-- Delete a token by its id. -/
def deleteToken (state : AccessState) (tokenId : String) : AccessState :=
  { state with token := state.token.filter fun token => token.id != tokenId }

/-- Delete the token of the request. -/
def deleteTokens (state : AccessState) : AccessState := { state with token := none }

/-- `writePendingRequests`: the request becomes pending, or is made, and gets a new token. -/
def writePendingRequest (state : AccessState) (ask : AccessAsk) (retryCount : Nat) :
    AccessState :=
  { state with
    request := some { status := .pending, requestedAt := ask.now, retryCount }
    token := some ask.token
    cycle := state.cycle + 1
    changes := ⟨.request, state.status, .pending, state.cycle + 1⟩ :: state.changes }

/-- `approvePendingAndGrantAccess` and `rejectPendingAndConsumeToken`. -/
def decidePending (state : AccessState) (verdict : Verdict) (consumeTokenId : Option String) :
    AccessState :=
  if state.status = some .pending then
    let decided := state.setStatus .decision verdict.status
    let decided := if verdict = .approve then { decided with access := true } else decided
    match consumeTokenId with
    | some tokenId => decided.deleteToken tokenId
    | none => decided.deleteTokens
  else state

/-- `revokeAccess`. -/
def revokeApproved (state : AccessState) : AccessState :=
  let removed := { state with access := false }
  if state.status = some .approved then removed.setStatus .revocation .revoked else removed

/-- One batch of expired requests. -/
def sweepRequest (state : AccessState) (cutoff : Nat) (within : Bool) : AccessState :=
  if within ∧ state.status = some .pending ∧ state.token.any (·.expiresAt < cutoff) then
    (state.setStatus .expiry .expired).deleteTokens
  else state

/-- One batch of expired tokens. -/
def sweepToken (state : AccessState) (cutoff : Nat) (within : Bool) : AccessState :=
  if within ∧ state.token.any (·.expiresAt < cutoff) then state.deleteTokens else state

/-- What `requestAccess` does with the request that it read: the retry count with which the
request is written, unless an email was sent a short while ago or the retries are used up. -/
def prepare (config : AccessConfig) (ask : AccessAsk) : Option AccessRequest → Option Nat
  | none => some 0
  | some existing =>
    if existing.status = .pending ∧ 0 < config.debounceMs ∧ existing.requestedAt ≤ ask.now ∧
        ask.now - existing.requestedAt < config.debounceMs then none
    else
      let counts := existing.status != .pending &&
        (existing.status.isRetryEligible || existing.status == .approved)
      if counts ∧ 0 < config.maxRetries ∧ config.maxRetries ≤ existing.retryCount then none
      else some (if counts then existing.retryCount + 1 else existing.retryCount)

/-- Execute the next statement of an operation; the result has the phase that follows, if the
operation goes on. -/
def execute (config : AccessConfig) (state : AccessState) : Phase → AccessState × Option Phase
  | .readAccess ask =>
    (state, if ask.eligible ∧ state.access = false ∧ ask.owned then some (.readRequest ask)
      else none)
  | .readRequest ask => (state, (prepare config ask state.request).map (.writePending ask))
  | .writePending ask retryCount => (state.writePendingRequest ask retryCount, none)
  | .retryRead ask =>
    (state, match state.status with
      | none => none
      | some .approved => some (.retryAccess ask)
      | some _ => some (.readAccess ask))
  | .retryAccess ask => (state, if state.access then none else some (.readAccess ask))
  | .tokenFind verdict tokenId eligible now =>
    (state, (state.token.filter (·.id == tokenId)).map
      fun token => .tokenRequest verdict token eligible now)
  | .tokenRequest verdict token eligible now =>
    (state, match state.status with
      | none => some (.tokenDelete token.id)
      | some status =>
        if token.isExpired now then some (.tokenExpire token.id)
        else if status ≠ .pending then some (.tokenDelete token.id)
        else if verdict = .approve ∧ ¬eligible then none
        else some (.decide verdict (some token.id)))
  | .tokenExpire tokenId => (state.setStatus .expiry .expired, some (.tokenDelete tokenId))
  | .tokenDelete tokenId => (state.deleteToken tokenId, none)
  | .ownerRequest verdict owns eligible =>
    (state, if owns ∧ state.status = some .pending ∧ (verdict = .approve → eligible) then
      some (.decide verdict none) else none)
  | .decide verdict consumeTokenId =>
    -- A rejection by token that finds the request decided deletes the token once more.
    (state.decidePending verdict consumeTokenId,
      if verdict = .reject ∧ state.status ≠ some .pending then consumeTokenId.map .tokenDelete
      else none)
  | .revokeAccess => (state.revokeApproved, none)
  | .removalRead => (state, some (.removalDelete (state.status == some .approved)))
  | .removalDelete approved =>
    ({ state with access := false }, if approved then some .removalRevoke else none)
  | .removalRevoke => (state.setStatus .revocation .revoked, none)
  | .pollToken tokenId now =>
    (state, (state.token.filter (·.id == tokenId)).map fun token => .pollRequest token now)
  | .pollRequest token now =>
    (state, if token.isExpired now ∧ state.status = some .pending then some .pollExpire else none)
  | .pollExpire => (state.setStatus .expiry .expired, none)
  | .sweep cutoff (within :: rest) tokenBatches =>
    (state.sweepRequest cutoff within, some (.sweep cutoff rest tokenBatches))
  | .sweep cutoff [] (within :: rest) =>
    (state.sweepToken cutoff within, some (.sweep cutoff [] rest))
  | .sweep _ [] [] => (state, none)

end AccessState

/-- What is asked for a client and an agent. -/
inductive AccessCall where
  | requestAccess (ask : AccessAsk)
  | retryRequestByClient (ask : AccessAsk)
  | decideByToken (verdict : Verdict) (tokenId : String) (eligible : Bool) (now : Nat)
  | decideByOwner (verdict : Verdict) (owns eligible : Bool)
  | revokeAccessByOwner (allowed : Bool)
  | removeApprovedAccess
  | getRequestStatusByToken (tokenId : String) (now : Nat)
  | sweepExpired (cutoff : Nat) (requestBatches tokenBatches : List Bool)

/-- The first statement of an operation. -/
def AccessCall.first : AccessCall → Option Phase
  | .requestAccess ask => some (.readAccess ask)
  | .retryRequestByClient ask => some (.retryRead ask)
  | .decideByToken verdict tokenId eligible now => some (.tokenFind verdict tokenId eligible now)
  | .decideByOwner verdict owns eligible => some (.ownerRequest verdict owns eligible)
  | .revokeAccessByOwner allowed => if allowed then some .revokeAccess else none
  | .removeApprovedAccess => some .removalRead
  | .getRequestStatusByToken tokenId now => some (.pollToken tokenId now)
  | .sweepExpired cutoff requestBatches tokenBatches =>
    some (.sweep cutoff requestBatches tokenBatches)

/-- A step of an interleaving. -/
inductive AccessAction where
  | start (id : Nat) (call : AccessCall)
  | resume (id : Nat)

/-- An operation goes on with a phase, or ends. -/
def AccessState.goOn (state : AccessState) (id : Nat) : Option Phase → AccessState
  | some phase => { state with operations := state.operations.set id phase }
  | none => { state with operations := state.operations.erase id }

/-- One step. An operation is given an id that no operation in progress has. -/
def AccessState.step (config : AccessConfig) (state : AccessState) : AccessAction → AccessState
  | .start id call => if state.operations.has id then state else state.goOn id call.first
  | .resume id =>
    match state.operations.get id with
    | some phase => (state.execute config phase).1.goOn id (state.execute config phase).2
    | none => state

/-! ## The property -/

/-- When no operation is in progress, the access exists exactly when the request is approved; a
decided request becomes expired or pending only by a new request or a revocation; every pending
cycle is decided at most once; and a decided request has no token. -/
structure AccessLawful (state : AccessState) : Prop where
  /-- At rest, access exists exactly for an approved request. -/
  granted : state.operations.keys = [] → (state.access = true ↔ state.status = some .approved)
  /-- A decision is taken back only by a new request or a revocation. -/
  kept : ∀ change ∈ state.changes, change.earlier.any RequestStatus.decided = true →
    change.later = .expired ∨ change.later = .pending →
    change.cause = .request ∨ change.cause = .revocation
  /-- Every pending cycle is decided at most once. -/
  once : ((state.changes.filter fun change => change.later.decided).map (·.cycle)).Nodup
  /-- A decided request has no token. -/
  spent : state.status.any RequestStatus.decided = true → state.token = none

/-- The next statement of an operation finds what the operation read before: no access was granted
when a new request is written, the request is not decided when it is made expired, the token of a
decision is still the token of the request, a removal that did not read an approved request does
not find one, and a removal that read one finds no access when it makes the request revoked. -/
def Phase.Undisturbed (state : AccessState) : Phase → Prop
  | .writePending _ _ => state.access = false
  | .tokenExpire _ => state.status.any RequestStatus.decided = false
  | .pollExpire => state.status.any RequestStatus.decided = false
  | .decide _ (some tokenId) =>
    state.status = some .pending → ∀ token ∈ state.token, token.id = tokenId
  | .removalDelete false => state.status ≠ some .approved
  | .removalRevoke => state.access = false
  | _ => True

instance (state : AccessState) : ∀ phase : Phase, Decidable (phase.Undisturbed state)
  | .writePending _ _ => inferInstanceAs (Decidable (state.access = false))
  | .tokenExpire _ => inferInstanceAs (Decidable (_ = false))
  | .pollExpire => inferInstanceAs (Decidable (_ = false))
  | .decide _ (some tokenId) => inferInstanceAs (Decidable
    (state.status = some .pending → ∀ token ∈ state.token, token.id = tokenId))
  | .removalDelete false => inferInstanceAs (Decidable (_ ≠ _))
  | .removalRevoke => inferInstanceAs (Decidable (state.access = false))
  | .readAccess _ | .readRequest _ | .retryRead _ | .retryAccess _ | .tokenFind _ _ _ _
  | .tokenRequest _ _ _ _ | .tokenDelete _ | .ownerRequest _ _ _ | .decide _ none | .revokeAccess
  | .removalRead | .removalDelete true | .pollToken _ _ | .pollRequest _ _ | .sweep _ _ _ =>
    inferInstanceAs (Decidable True)

/-- The condition on a step. -/
def Undisturbed (state : AccessState) : AccessAction → Prop
  | .start _ _ => True
  | .resume id => ∀ phase ∈ state.operations.get id, phase.Undisturbed state

instance (state : AccessState) : ∀ action, Decidable (Undisturbed state action)
  | .start _ _ => inferInstanceAs (Decidable True)
  | .resume id => inferInstanceAs (Decidable
    (∀ phase ∈ state.operations.get id, phase.Undisturbed state))

/-! ## The invariant -/

/-- The rows and the history. -/
structure RowsSound (state : AccessState) : Prop where
  held : state.access = true → state.status = some .approved
  kept : ∀ change ∈ state.changes, change.earlier.any RequestStatus.decided = true →
    change.later = .expired ∨ change.later = .pending →
    change.cause = .request ∨ change.cause = .revocation
  once : ((state.changes.filter fun change => change.later.decided).map (·.cycle)).Nodup
  spent : state.status.any RequestStatus.decided = true → state.token = none
  begun : ∀ change ∈ state.changes, change.cycle ≤ state.cycle
  undecided : state.status = some .pending → ∀ change ∈ state.changes,
    change.later.decided = true → change.cycle < state.cycle

namespace RowsSound

variable {state : AccessState}

section

variable (sound : RowsSound state)

include sound

theorem goOn (id : Nat) (next : Option Phase) :
    RowsSound (state.goOn id next) := by
  cases next <;>
    exact ⟨sound.held, sound.kept, sound.once, sound.spent, sound.begun, sound.undecided⟩

theorem writePendingRequest (absent : state.access = false) (ask : AccessAsk) (retryCount : Nat) :
    RowsSound (state.writePendingRequest ask retryCount) where
  held granted := by
    rw [show (state.writePendingRequest ask retryCount).access = state.access from rfl, absent]
      at granted
    cases granted
  kept change member _ _ := by
    rcases List.mem_cons.mp member with rfl | earlier
    · exact Or.inl rfl
    · exact sound.kept change earlier ‹_› ‹_›
  once := sound.once
  spent decided := by cases decided
  begun change member := by
    rcases List.mem_cons.mp member with rfl | earlier
    · exact Nat.le_refl _
    · exact Nat.le_succ_of_le (sound.begun change earlier)
  undecided _ change member decided := by
    rcases List.mem_cons.mp member with rfl | earlier
    · cases decided
    · exact Nat.lt_succ_of_le (sound.begun change earlier)

theorem setStatus {cause : Cause} {next : RequestStatus}
    (absent : state.access = false) (unsettled : next.decided = false) (done : next ≠ .pending)
    (allowed : state.status.any RequestStatus.decided = true →
      cause = .request ∨ cause = .revocation) :
    RowsSound (state.setStatus cause next) := by
  unfold AccessState.setStatus
  cases present : state.request with
  | none => exact sound
  | some request =>
    have status : state.status = some request.status := by
      unfold AccessState.status
      rw [present]
      rfl
    refine ⟨fun granted => ?_, fun change member decided _ => ?_, ?_, fun decided => ?_,
      fun change member => ?_, fun pending => ?_⟩
    · rw [show state.access = true from granted] at absent
      cases absent
    · rcases List.mem_cons.mp member with rfl | earlier
      · rw [status] at allowed
        exact allowed decided
      · exact sound.kept change earlier decided ‹_›
    · simp only [List.filter_cons, unsettled, if_false, Bool.false_eq_true]
      exact sound.once
    · rw [show next.decided = true from decided] at unsettled
      cases unsettled
    · rcases List.mem_cons.mp member with rfl | earlier
      · exact Nat.le_refl _
      · exact sound.begun change earlier
    · exact absurd (Option.some.inj pending) done

theorem removeAccess : RowsSound { state with access := false } :=
  ⟨nofun, sound.kept, sound.once, sound.spent, sound.begun, sound.undecided⟩

theorem deleteToken (tokenId : String) :
    RowsSound (state.deleteToken tokenId) := by
  refine ⟨sound.held, sound.kept, sound.once, fun decided => ?_, sound.begun, sound.undecided⟩
  unfold AccessState.deleteToken
  rw [sound.spent decided]
  rfl

theorem deleteTokens : RowsSound state.deleteTokens :=
  ⟨sound.held, sound.kept, sound.once, fun _ => rfl, sound.begun, sound.undecided⟩

theorem absent_of_undecided
    (undecided : state.status.any RequestStatus.decided = false) : state.access = false := by
  cases granted : state.access with
  | false => rfl
  | true =>
    rw [sound.held granted] at undecided
    cases undecided

theorem expire (undecided : state.status.any RequestStatus.decided = false) :
    RowsSound (state.setStatus .expiry .expired) := by
  refine sound.setStatus (sound.absent_of_undecided undecided) rfl (by decide) fun decided => ?_
  rw [undecided] at decided
  cases decided

theorem revokeApproved : RowsSound state.revokeApproved := by
  unfold AccessState.revokeApproved
  simp only
  split_ifs
  · exact sound.removeAccess.setStatus rfl rfl (by decide) fun _ => Or.inr rfl
  · exact sound.removeAccess

theorem sweepRequest (cutoff : Nat) (within : Bool) :
    RowsSound (state.sweepRequest cutoff within) := by
  unfold AccessState.sweepRequest
  split_ifs with swept
  · refine (sound.expire ?_).deleteTokens
    rw [swept.2.1]
    rfl
  · exact sound

theorem sweepToken (cutoff : Nat) (within : Bool) :
    RowsSound (state.sweepToken cutoff within) := by
  unfold AccessState.sweepToken
  split_ifs
  · exact sound.deleteTokens
  · exact sound

theorem decided {request : AccessRequest}
    (present : state.request = some request) (pending : request.status = .pending)
    (verdict : Verdict) :
    RowsSound { state with
      request := some { request with status := verdict.status }
      token := none
      access := verdict == .approve
      changes := ⟨.decision, some request.status, verdict.status, state.cycle⟩ :: state.changes } := by
  have status : state.status = some .pending := by
    unfold AccessState.status
    rw [present, ← pending]
    rfl
  refine ⟨fun granted => ?_, fun change member earlier _ => ?_, ?_, fun _ => rfl,
    fun change member => ?_, fun undecided => ?_⟩
  · cases verdict with
    | approve => rfl
    | reject => cases granted
  · rcases List.mem_cons.mp member with rfl | before
    · simp only [pending] at earlier
      cases earlier
    · exact sound.kept change before earlier ‹_›
  · have decides : verdict.status.decided = true := by cases verdict <;> rfl
    simp only [List.filter_cons, decides, if_true, List.map_cons]
    refine List.nodup_cons.mpr ⟨fun member => ?_, sound.once⟩
    obtain ⟨change, found, same⟩ := List.mem_map.mp member
    obtain ⟨earlier, settled⟩ := List.mem_filter.mp found
    have before := sound.undecided status change earlier settled
    omega
  · rcases List.mem_cons.mp member with rfl | earlier
    · exact Nat.le_refl _
    · exact sound.begun change earlier
  · cases verdict <;> cases undecided

theorem decidePending (verdict : Verdict) (consumeTokenId : Option String)
    (current : ∀ tokenId ∈ consumeTokenId, state.status = some .pending →
      ∀ token ∈ state.token, token.id = tokenId) :
    RowsSound (state.decidePending verdict consumeTokenId) := by
  by_cases pending : state.status = some .pending
  · have absent := sound.absent_of_undecided (by rw [pending]; rfl)
    obtain ⟨request, present, same⟩ := Option.map_eq_some_iff.mp pending
    have rows := sound.decided present same verdict
    have consumed (tokenId : String) (held : tokenId ∈ consumeTokenId) :
        (state.token.filter fun token => token.id != tokenId) = none := by
      cases token : state.token with
      | none => rfl
      | some token' =>
        have matching := current tokenId held pending token' token
        simp only [Option.filter_some, matching, bne_self_eq_false, Bool.false_eq_true, if_false]
    unfold AccessState.decidePending
    simp only [pending, if_true, AccessState.setStatus, present]
    cases verdict with
    | approve =>
      cases consumeTokenId with
      | none => exact rows
      | some tokenId =>
        simp only [AccessState.deleteToken, if_true, consumed tokenId rfl]
        exact rows
    | reject =>
      have refused : state.access = (Verdict.reject == Verdict.approve) := absent
      cases consumeTokenId with
      | none =>
        simp only [AccessState.deleteTokens, refused]
        exact rows
      | some tokenId =>
        simp only [AccessState.deleteToken, reduceCtorEq, if_false, consumed tokenId rfl, refused]
        exact rows
  · unfold AccessState.decidePending
    rw [if_neg pending]
    exact sound

theorem execute (config : AccessConfig) (phase : Phase)
    (undisturbed : phase.Undisturbed state) : RowsSound (state.execute config phase).1 := by
  cases phase with
  | writePending ask retryCount => exact sound.writePendingRequest undisturbed ask retryCount
  | tokenExpire => exact sound.expire undisturbed
  | tokenDelete tokenId => exact sound.deleteToken tokenId
  | decide verdict consumeTokenId =>
    refine sound.decidePending verdict consumeTokenId fun tokenId held => ?_
    cases held
    exact undisturbed
  | revokeAccess => exact sound.revokeApproved
  | removalDelete => exact sound.removeAccess
  | removalRevoke => exact sound.setStatus undisturbed rfl (by decide) fun _ => Or.inr rfl
  | pollExpire => exact sound.expire undisturbed
  | sweep cutoff requestBatches tokenBatches =>
    cases requestBatches with
    | cons within rest => exact sound.sweepRequest cutoff within
    | nil =>
      cases tokenBatches with
      | cons within rest => exact sound.sweepToken cutoff within
      | nil => exact sound
  | _ => exact sound

end

end RowsSound

/-- A removal that will make the request revoked is in progress. -/
def Removing (state : AccessState) : Prop :=
  ∃ id, state.operations.get id = some .removalRevoke

/-- The rows, and an approved request without an access is being revoked. -/
structure AccessSound (state : AccessState) : Prop where
  rows : RowsSound state
  covered : state.status = some .approved → state.access = true ∨ Removing state

section Covered

variable {state after : AccessState} {config : AccessConfig} {phase : Phase}

theorem status_setStatus {cause : Cause} {next : RequestStatus}
    (found : (state.setStatus cause next).status = some .approved) : next = .approved := by
  unfold AccessState.setStatus at found
  cases present : state.request with
  | none =>
    rw [present] at found
    simp [AccessState.status, present] at found
  | some request =>
    rw [present] at found
    exact Option.some.inj found

/-- What a statement does to an approved request: it grants the access, it leaves the request and
the access as they were, or it is a removal that goes on to revoke the request. -/
theorem approved_of_execute (undisturbed : phase.Undisturbed state)
    (approved : (state.execute config phase).1.status = some .approved) :
    (state.execute config phase).1.access = true ∨
      (state.execute config phase).2 = some .removalRevoke ∨
      (state.status = some .approved ∧
        (state.execute config phase).1.access = state.access ∧ phase ≠ .removalRevoke) := by
  have kept (same : (state.execute config phase).1.status = state.status)
      (access : (state.execute config phase).1.access = state.access)
      (other : phase ≠ .removalRevoke) :
      (state.execute config phase).1.access = true ∨
        (state.execute config phase).2 = some .removalRevoke ∨
        (state.status = some .approved ∧
          (state.execute config phase).1.access = state.access ∧ phase ≠ .removalRevoke) :=
    Or.inr (Or.inr ⟨same ▸ approved, access, other⟩)
  cases phase with
  | writePending => cases approved
  | tokenExpire | pollExpire | removalRevoke => cases status_setStatus approved
  | decide verdict consumeTokenId =>
    by_cases pending : state.status = some .pending
    · obtain ⟨request, present, -⟩ := Option.map_eq_some_iff.mp pending
      have granted := approved
      simp only [AccessState.execute, AccessState.decidePending, pending, if_true,
        AccessState.setStatus, present] at granted ⊢
      cases verdict with
      | approve => cases consumeTokenId <;> exact Or.inl rfl
      | reject => cases consumeTokenId <;> cases granted
    · have same : state.decidePending verdict consumeTokenId = state := by
        unfold AccessState.decidePending
        rw [if_neg pending]
      refine kept ?_ ?_ nofun
      · exact congrArg AccessState.status same
      · exact congrArg AccessState.access same
  | revokeAccess =>
    exfalso
    simp only [AccessState.execute, AccessState.revokeApproved] at approved
    split_ifs at approved with before
    · cases status_setStatus approved
    · exact before approved
  | removalDelete read =>
    cases read with
    | true => exact Or.inr (Or.inl rfl)
    | false => exact absurd approved undisturbed
  | sweep cutoff requestBatches tokenBatches =>
    cases requestBatches with
    | cons within rest =>
      have swept := approved
      simp only [AccessState.execute, AccessState.sweepRequest] at swept
      split_ifs at swept with candidate
      · cases status_setStatus (show (state.setStatus .expiry .expired).status = _ from swept)
      · have same : state.sweepRequest cutoff within = state := by
          unfold AccessState.sweepRequest
          rw [if_neg candidate]
        refine kept ?_ ?_ nofun
        · exact congrArg AccessState.status same
        · exact congrArg AccessState.access same
    | nil =>
      cases tokenBatches with
      | cons within rest =>
        refine kept ?_ ?_ nofun
        · simp only [AccessState.execute, AccessState.sweepToken]
          split_ifs <;> rfl
        · simp only [AccessState.execute, AccessState.sweepToken]
          split_ifs <;> rfl
      | nil => exact kept rfl rfl nofun
  | _ => exact kept rfl rfl nofun

theorem Removing.goOn {id : Nat} {next : Option Phase}
    (removing : ∃ other, other ≠ id ∧ state.operations.get other = some .removalRevoke) :
    Removing (state.goOn id next) := by
  obtain ⟨other, differs, found⟩ := removing
  refine ⟨other, ?_⟩
  cases next with
  | none =>
    simp only [AccessState.goOn, OrderedMap.get_erase, if_neg differs]
    exact found
  | some phase =>
    simp only [AccessState.goOn, OrderedMap.get_set_of_ne _ _ differs]
    exact found

@[simp] theorem status_goOn (state : AccessState) (id : Nat) (next : Option Phase) :
    (state.goOn id next).status = state.status := by
  cases next <;> rfl

@[simp] theorem access_goOn (state : AccessState) (id : Nat) (next : Option Phase) :
    (state.goOn id next).access = state.access := by
  cases next <;> rfl

theorem operations_execute (config : AccessConfig) (state : AccessState) (phase : Phase) :
    (state.execute config phase).1.operations = state.operations := by
  have written (state : AccessState) (cause : Cause) (next : RequestStatus) :
      (state.setStatus cause next).operations = state.operations := by
    unfold AccessState.setStatus
    cases state.request <;> rfl
  cases phase with
  | tokenExpire | pollExpire | removalRevoke => exact written _ _ _
  | decide verdict consumeTokenId =>
    simp only [AccessState.execute, AccessState.decidePending]
    split_ifs
    · cases consumeTokenId <;> exact written _ _ _
    · cases consumeTokenId <;> exact written _ _ _
    · rfl
  | revokeAccess =>
    simp only [AccessState.execute, AccessState.revokeApproved]
    split_ifs
    · exact written _ _ _
    · rfl
  | sweep cutoff requestBatches tokenBatches =>
    cases requestBatches with
    | cons within rest =>
      simp only [AccessState.execute, AccessState.sweepRequest]
      split_ifs
      · exact written _ _ _
      · rfl
    | nil =>
      cases tokenBatches with
      | cons within rest =>
        simp only [AccessState.execute, AccessState.sweepToken]
        split_ifs <;> rfl
      | nil => rfl
  | _ => rfl

namespace AccessSound

theorem resume (sound : AccessSound state) {id : Nat}
    (found : state.operations.get id = some phase) (undisturbed : phase.Undisturbed state) :
    AccessSound ((state.execute config phase).1.goOn id (state.execute config phase).2) where
  rows := (sound.rows.execute config phase undisturbed).goOn id _
  covered approved := by
    rw [status_goOn] at approved
    rw [access_goOn]
    rcases approved_of_execute undisturbed approved with granted | revoking | ⟨before, same, other⟩
    · exact Or.inl granted
    · right
      rw [revoking]
      exact ⟨id, OrderedMap.get_set_self _ _ _⟩
    · rcases sound.covered before with granted | ⟨remover, removing⟩
      · exact Or.inl (same.trans granted)
      · refine Or.inr (Removing.goOn ⟨remover, ?_, ?_⟩)
        · rintro rfl
          rw [found] at removing
          exact other (Option.some.inj removing)
        · rw [operations_execute]
          exact removing

/-- An undisturbed action keeps the access sound. -/
theorem step (sound : AccessSound state) (action : AccessAction)
    (undisturbed : Undisturbed state action) : AccessSound (state.step config action) := by
  cases action with
  | start id call =>
    simp only [AccessState.step]
    split_ifs with present
    · exact sound
    · have absent : state.operations.get id = none := Option.not_isSome_iff_eq_none.mp present
      refine ⟨sound.rows.goOn id _, fun approved => ?_⟩
      rw [status_goOn] at approved
      rw [access_goOn]
      rcases sound.covered approved with granted | ⟨remover, removing⟩
      · exact Or.inl granted
      · refine Or.inr (Removing.goOn ⟨remover, ?_, removing⟩)
        rintro rfl
        rw [absent] at removing
        cases removing
  | resume id =>
    simp only [AccessState.step]
    cases found : state.operations.get id with
    | none => exact sound
    | some phase => exact sound.resume found (undisturbed phase found)

theorem initial : AccessSound {} where
  rows := ⟨nofun, nofun, List.nodup_nil, nofun, nofun, nofun⟩
  covered := nofun

theorem lawful (sound : AccessSound state) : AccessLawful state :=
  { sound.rows with
    granted idle := by
      refine ⟨sound.rows.held, fun approved => ?_⟩
      rcases sound.covered approved with granted | ⟨remover, removing⟩
      · exact granted
      · have member := (state.operations.mem_keys_iff remover).mpr ⟨_, removing⟩
        rw [idle] at member
        cases member }

end AccessSound

end Covered

/-- In every state of every interleaving whose statements find what their operations read: when no
operation is in progress, the access exists exactly when the request is approved; decided requests
become expired or pending only by a new request or a revocation; every pending cycle is decided at
most once; and a decided request has no token. -/
theorem access_lawful_when_undisturbed (config : AccessConfig) (actions : List AccessAction)
    (undisturbed : Meets (AccessState.step config) Undisturbed {} actions) :
    ∀ taken, taken <+: actions → AccessLawful (run (AccessState.step config) {} taken) := by
  have keeps (state : AccessState) (action : AccessAction) (sound : AccessSound state)
      (undisturbed : Undisturbed state action) : AccessSound (state.step config action) :=
    sound.step action undisturbed
  intro taken first
  exact (every_state_of_meets _ keeps AccessSound.initial undisturbed taken first).lawful

/-- A request for access with a link that expires at 100. -/
def sampleAsk : AccessAsk where
  eligible := true
  owned := true
  now := 1
  token := ⟨"link", 100⟩

/-- No debounce and no limit of retries. -/
def sampleConfig : AccessConfig := ⟨0, 0⟩

/-- The client asks for access and the owner approves by the link. -/
def askThenApprove : List AccessAction :=
  [.start 0 (.requestAccess sampleAsk), .resume 0, .resume 0, .resume 0,
    .start 1 (.decideByToken .approve "link" true 5), .resume 1, .resume 1, .resume 1]

/-- The access is granted. -/
theorem approval_grants :
    let final := run (AccessState.step sampleConfig) {} askThenApprove
    AccessLawful final ∧ final.operations.keys = [] ∧ final.access = true ∧ final.token = none :=
  ⟨access_lawful_when_undisturbed sampleConfig askThenApprove (by decide) askThenApprove
    (List.prefix_refl _), by decide, by decide, by decide⟩

/-- The client removes its access and reads the request while it is pending; the owner approves;
the removal deletes the access that was granted. -/
def removalAcrossApproval : List AccessAction :=
  [.start 0 (.requestAccess sampleAsk), .resume 0, .resume 0, .resume 0,
    .start 1 .removeApprovedAccess, .resume 1,
    .start 2 (.decideByOwner .approve true true), .resume 2, .resume 2,
    .resume 1]

/-- The request stays approved and there is no access. -/
theorem removal_leaves_approved : ¬AccessLawful
    (run (AccessState.step sampleConfig) {} removalAcrossApproval) := by
  intro lawful
  have idle : (run (AccessState.step sampleConfig) {} removalAcrossApproval).operations.keys =
      [] := by decide
  have approved : (run (AccessState.step sampleConfig) {} removalAcrossApproval).status =
      some .approved := by decide
  have absent : (run (AccessState.step sampleConfig) {} removalAcrossApproval).access = false := by
    decide
  have granted := (lawful.granted idle).mpr approved
  rw [absent] at granted
  cases granted

end PlugHub.AgentAccess
