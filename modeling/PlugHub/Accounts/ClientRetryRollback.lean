import PlugHub.Accounts.ClientProfilePatch
import PlugHub.Accounts.RegistrationDecisions

/-!
# Retries of a client's registration

A client whose registration was rejected, or whose link to the owner has expired, asks for it once
more: its token is replaced and its status written, and the owner is sent the new link. When the
email fails the retry deletes the new token and saves what it had read, the token and the client.
Saving a token hashes its id, and the id that was read is a digest already.
-/

namespace PlugHub.ClientRetry

open Accounts (AccountStatus Client)
open RegistrationDecisions (ApprovalToken DecisionPhase DecisionTxn Registration TokenDigest)
open RegistrationRetry (UserDecision)

/-- A row of the approval tokens. -/
structure ApprovalTokenRow extends ApprovalToken where
  createdAt : Int
deriving DecidableEq

/-- A client and its token. -/
structure ClientRegistration where
  client : Client
  token : Option ApprovalTokenRow

/-- `RetryClientRegistrationServiceInput`, and what the retry meets with. -/
structure RetryRequest where
  ownerStatus : Option AccountStatus
  ownerEmailMatches : Bool
  passwordMatch : Bool
  now : Nat
  newToken : ApprovalTokenRow
  replaced : Bool
  sent : Bool
  statements : Nat

section Repository

variable (digest : TokenDigest) (registration : ClientRegistration)

/-- `save` of a token. -/
def saveToken (token : ApprovalTokenRow) : ClientRegistration :=
  { registration with
    token :=
      match registration.token with
      | none => some { token with id := digest.hash token.id }
      | some row => some { row with id := digest.hash token.id, expiresAt := token.expiresAt } }

/-- `deleteById`. -/
def deleteById (id : String) : ClientRegistration :=
  { registration with
    token := registration.token.filter fun row => ¬ (row.id = digest.hash id ∨ row.id = id) }

/-- `replaceForClientRetry`. -/
def replaceForClientRetry (client : Client) (token : ApprovalTokenRow) : ClientRegistration :=
  { client :=
      { registration.client with status := client.status, updatedAt := client.updatedAt }
    token := some { token with id := digest.hash token.id } }

/-- `save` of a client. -/
def saveClient (client : Client) : ClientRegistration := { registration with client }

end Repository

/-- `isExpired`. -/
def isExpired (expiresAt : Int) (now : Nat) : Bool := expiresAt ≤ now

/-- `isClientRegistrationResendEligible`. -/
def isClientRegistrationResendEligible (status : AccountStatus) (approvalTokenExpired : Bool) :
    Bool :=
  status = .rejected ∨ (status = .pending ∧ approvalTokenExpired)

/-- `reopenRejectedClientRegistration`, for a client that was rejected. -/
def pendingClient (client : Client) (now : Nat) : Client :=
  if client.status = .rejected then { client with status := .pending, updatedAt := now } else client

/-- The retry is admitted. -/
def RetryRequest.Admitted (request : RetryRequest) (registration : ClientRegistration) : Prop :=
  isClientRegistrationResendEligible registration.client.status
      ((registration.token.map fun token => isExpired token.expiresAt request.now).getD true) =
        true ∧
    request.ownerStatus = some .active ∧ request.ownerEmailMatches = true ∧
    request.passwordMatch = true ∧ request.replaced = true

instance (request : RetryRequest) (registration : ClientRegistration) :
    Decidable (request.Admitted registration) := inferInstanceAs (Decidable (_ ∧ _))

/-- The statements of the rollback, with what was read before. -/
def rollback (digest : TokenDigest) (request : RetryRequest) (before : ClientRegistration) :
    List (ClientRegistration → ClientRegistration) :=
  [(deleteById digest · request.newToken.id)] ++
    before.token.toList.map (fun token registration => saveToken digest registration token) ++
      if before.client.status = .rejected then [(saveClient · before.client)] else []

/-- Statements one after the other. -/
def perform (statements : List (ClientRegistration → ClientRegistration))
    (registration : ClientRegistration) : ClientRegistration :=
  statements.foldl (fun state statement => statement state) registration

/-- `retryClientRegistration`: whether it was retried, and what is left. -/
def retryClientRegistration (digest : TokenDigest) (request : RetryRequest)
    (registration : ClientRegistration) : Bool × ClientRegistration :=
  if request.Admitted registration then
    let replaced := replaceForClientRetry digest registration
      (pendingClient registration.client request.now) request.newToken
    if request.sent then (true, replaced)
    else
      (false, perform ((rollback digest request registration).take request.statements) replaced)
  else (false, registration)

/-- A decision with a link of the owner; a row is found with the id that was given out, and with its
own. -/
def decideByToken (digest : TokenDigest) (registration : ClientRegistration)
    (ownerStatus : Option AccountStatus) (tokenId : String) (decision : UserDecision) (now : Int) :
    DecisionPhase Accounts.ClientProfile :=
  let txn : DecisionTxn :=
    { RegistrationDecisions.prismaClientRegistrationDecisionTxn digest with
      finds := fun id tokenId => id = digest.hash tokenId ∨ id = tokenId }
  (txn.decide (.token tokenId) decision now
    { account := some registration.client.toAccount
      owner := ownerStatus
      token := registration.token.map (·.toApprovalToken) }).1

/-- What is promised of a retry whose email failed. -/
structure Restored (digest : TokenDigest) (before after : ClientRegistration) : Prop where
  status : after.client.status = before.client.status
  token : after.token = before.token
  /-- Every link that was mailed earlier does what it did. -/
  links : ∀ ownerStatus tokenId decision now,
    decideByToken digest after ownerStatus tokenId decision now =
      decideByToken digest before ownerStatus tokenId decision now

/-- The digest of a stored id is another one, and the new token is new. -/
def Fresh (digest : TokenDigest) (request : RetryRequest) (registration : ClientRegistration) :
    Prop :=
  ∀ token ∈ registration.token,
    digest.hash token.id ≠ token.id ∧ digest.hash request.newToken.id ≠ token.id

instance (digest : TokenDigest) (request : RetryRequest) (registration : ClientRegistration) :
    Decidable (Fresh digest request registration) :=
  inferInstanceAs (Decidable (∀ token ∈ registration.token, _))

theorem deleteById_replaced (digest : TokenDigest) (registration : ClientRegistration)
    (client : Client) (token : ApprovalTokenRow) :
    (deleteById digest (replaceForClientRetry digest registration client token) token.id).token =
      none := by
  simp [deleteById, replaceForClientRetry]

theorem replaced_pending (digest : TokenDigest) (registration : ClientRegistration) (now : Nat)
    (token : ApprovalTokenRow) (waits : registration.client.status ≠ .rejected) :
    (replaceForClientRetry digest registration (pendingClient registration.client now)
      token).client = registration.client := by
  rw [pendingClient, if_neg waits]
  rfl

theorem perform_saveClient_token (client : Client) (rejected : Prop) [Decidable rejected]
    (count : Nat) (registration : ClientRegistration) :
    (perform ((if rejected then [(saveClient · client)] else []).take count)
      registration).token = registration.token := by
  by_cases saves : rejected
  · rw [if_pos saves]
    cases count with
    | zero => rfl
    | succ count => rw [List.take_succ_cons, List.take_nil]; rfl
  · rw [if_neg saves, List.take_nil]
    rfl

theorem rollback_token_ne {digest : TokenDigest} {request : RetryRequest}
    {before replaced : ClientRegistration} {token : ApprovalTokenRow}
    (stored : before.token = some token) (fresh : Fresh digest request before)
    (written : replaced.token = some
      { request.newToken with id := digest.hash request.newToken.id })
    (gone : (deleteById digest replaced request.newToken.id).token = none) (count : Nat) :
    (perform ((rollback digest request before).take count) replaced).token ≠ some token := by
  obtain ⟨noFixedPoint, another⟩ := fresh token stored
  have list : rollback digest request before =
      (deleteById digest · request.newToken.id) ::
        (saveToken digest · token) ::
          if before.client.status = .rejected then [(saveClient · before.client)] else [] := by
    rw [rollback, stored]
    rfl
  rw [list]
  rcases count with _ | _ | count
  · intro refuted
    have same := written.symm.trans refuted
    exact another (congrArg (·.id) (Option.some.inj same))
  · intro refuted
    have same := gone.symm.trans refuted
    cases same
  · intro refuted
    rw [List.take_succ_cons, List.take_succ_cons, perform, List.foldl_cons, List.foldl_cons]
      at refuted
    have kept := perform_saveClient_token before.client (before.client.status = .rejected) count
      (saveToken digest (deleteById digest replaced request.newToken.id) token)
    rw [perform] at kept
    rw [kept, saveToken, gone] at refuted
    exact noFixedPoint (congrArg (·.id) (Option.some.inj refuted))

theorem Restored.of_eq {digest : TokenDigest} {before after : ClientRegistration}
    (same : after = before) : Restored digest before after := by
  subst same
  exact ⟨rfl, rfl, fun _ _ _ _ => rfl⟩

/-- A retry whose email failed leaves everything as before exactly when there was no token and every
statement of the rollback takes effect. -/
theorem restored_iff_no_token {digest : TokenDigest} {request : RetryRequest}
    {before : ClientRegistration} (admitted : request.Admitted before)
    (failed : request.sent = false) (fresh : Fresh digest request before) :
    Restored digest before (retryClientRegistration digest request before).2 ↔
      before.token = none ∧ (rollback digest request before).length ≤ request.statements := by
  rw [retryClientRegistration, if_pos admitted, failed]
  simp only [Bool.false_eq_true, if_false]
  have gone := deleteById_replaced digest before (pendingClient before.client request.now)
    request.newToken
  have written : (replaceForClientRetry digest before (pendingClient before.client request.now)
      request.newToken).token = some
        { request.newToken with id := digest.hash request.newToken.id } := rfl
  cases stored : before.token with
  | some token =>
    refine iff_of_false ?_ (fun refuted => by cases refuted.1)
    intro restored
    have kept := restored.token
    rw [stored] at kept
    exact rollback_token_ne stored fresh written gone request.statements kept
  | none =>
    rw [rollback, stored]
    have same : before = ⟨before.client, none⟩ := by rw [← stored]
    by_cases rejected : before.client.status = .rejected
    · rw [if_pos rejected]
      rcases request.statements with _ | _ | count
      · -- The new token stays.
        refine iff_of_false ?_ (fun refuted => by cases refuted.2)
        intro restored
        have kept := restored.token
        rw [stored] at kept
        cases kept
      · -- The client stays pending.
        refine iff_of_false ?_ (fun refuted => by cases Nat.le_of_succ_le_succ refuted.2)
        intro restored
        have status := restored.status
        rw [rejected, pendingClient, if_pos rejected] at status
        cases status
      · refine iff_of_true (.of_eq ?_) ⟨rfl, Nat.le_add_left 2 count⟩
        rw [List.take_of_length_le (Nat.le_add_left 2 count)]
        have after := congrArg (ClientRegistration.mk before.client) gone
        exact after.trans same.symm
    · rw [if_neg rejected]
      rcases request.statements with _ | count
      · refine iff_of_false ?_ (fun refuted => by cases refuted.2)
        intro restored
        have kept := restored.token
        rw [stored] at kept
        cases kept
      · refine iff_of_true (.of_eq ?_) ⟨rfl, Nat.le_add_left 1 count⟩
        have waits := replaced_pending digest before request.now request.newToken rejected
        rw [List.take_of_length_le (Nat.le_add_left 1 count)]
        have after := congrArg₂ ClientRegistration.mk waits gone
        exact after.trans same.symm

/-- A rejected client, whose token was deleted with the decision. -/
def rejectedClient : ClientRegistration :=
  { client := { Accounts.clientWithPicture with status := .rejected }, token := none }

/-- A retry whose email fails. -/
def failingRetry : RetryRequest :=
  { ownerStatus := some .active, ownerEmailMatches := true, passwordMatch := true, now := 10
    newToken := ⟨⟨"new", 20⟩, 10⟩, replaced := true, sent := false, statements := 3 }

/-- The client is rejected again, without a token. -/
theorem rejected_client_restored :
    Restored RegistrationDecisions.markDigest rejectedClient
      (retryClientRegistration RegistrationDecisions.markDigest failingRetry rejectedClient).2 :=
  (restored_iff_no_token (by decide) rfl (by decide)).mpr (by decide)

/-- A client that waits with a link that expires now: the link is answered differently then. -/
theorem link_lost_by_rollback :
    ¬ ∀ (digest : TokenDigest) (request : RetryRequest) (before : ClientRegistration),
      request.Admitted before → request.sent = false → Fresh digest request before →
        (rollback digest request before).length ≤ request.statements →
          Restored digest before (retryClientRegistration digest request before).2 := by
  intro every
  have restored := every RegistrationDecisions.markDigest failingRetry
    { client := { Accounts.clientWithPicture with status := .pending }
      token := some ⟨⟨"link#", 10⟩, 0⟩ } (by decide) rfl (by decide) (by decide)
  have links := restored.links (some .active) "link" .approve 10
  revert links
  decide

end PlugHub.ClientRetry
