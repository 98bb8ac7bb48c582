import PlugHub.Accounts.RegistrationDecisions

/-!
# Tokens that are stored as digests

The links for the recovery of a client's password and for the approval of a user's registration have
an opaque token, and the database keeps its digest. Rows are looked up with the digest of what is
presented and with what is presented itself, as rows had the tokens themselves once. Whoever has
read the table can therefore present the id of a row.
-/

namespace PlugHub.OpaqueTokens

open Library
open Accounts (AccountStatus)
open RegistrationDecisions (TokenDigest markDigest)
open RegistrationRetry (UserDecision)

/-- A row of a table of tokens. -/
structure StoredToken where
  id : String
  expiresAt : Int

/-- The tokens of one kind by their account, of which each has one at most. -/
structure TokenTable where
  rows : OrderedMap String StoredToken := .empty
  accounts : OrderedMap String AccountStatus := .empty
  issued : List String := []

namespace TokenTable

variable (digest : TokenDigest) (table : TokenTable)

/-- A row with this id, and its account. -/
def rowWithId (id : String) : Option (String × StoredToken) :=
  table.rows.entries.find? fun entry => entry.2.id = id

/-- `WHERE id IN (hash, id)`: with the digest of what is presented, or with itself. -/
def findById (presented : String) : Option (String × StoredToken) :=
  table.rowWithId (digest.hash presented) <|> table.rowWithId presented

/-- The row of an account is deleted. -/
def deleteRow (account : String) : TokenTable :=
  { table with rows := table.rows.erase account }

/-- `deleteById`. -/
def deleteById (presented : String) : TokenTable :=
  { table with
    rows :=
      (table.rows.entries.filter fun entry =>
        entry.2.id = digest.hash presented ∨ entry.2.id = presented).foldl
          (fun rows entry => rows.erase entry.1) table.rows }

/-- A token is given out and its digest stored. -/
def issue (account token : String) (expiresAt : Int) : TokenTable :=
  { table with
    rows := table.rows.set account ⟨digest.hash token, expiresAt⟩
    issued := table.issued ++ [token] }

/-! ## Recovery of a client's password -/

/-- `requestPasswordRecovery`: the token is deleted when its email is not sent. -/
def requestPasswordRecovery (client token : String) (expiresAt : Int) (sent : Bool) : TokenTable :=
  if table.accounts.get client = some .active then
    if sent then table.issue digest client token expiresAt
    else (table.issue digest client token expiresAt).deleteById digest token
  else table

/-- What is told about a link. -/
inductive LinkStatus where
  | unknown
  | expired
  | pending

/-- `getPasswordRecoveryStatus`. -/
def getPasswordRecoveryStatus (presented : String) (now : Int) : LinkStatus × TokenTable :=
  match table.findById digest presented with
  | none => (.unknown, table)
  | some (client, row) =>
    if table.accounts.get client ≠ some .active then
      (.unknown, table.deleteById digest presented)
    else if row.expiresAt ≤ now then (.expired, table.deleteById digest presented)
    else (.pending, table)

/-- `ClientPasswordRecoveryResetResult`. -/
inductive ResetResult where
  | notFound
  | expired
  | clientNotFound
  | clientInactive
  | success
deriving DecidableEq

/-- `resetByToken`. -/
def resetByToken (presented : String) (now : Int) : ResetResult × TokenTable :=
  match table.findById digest presented with
  | none => (.notFound, table)
  | some (client, row) =>
    if row.expiresAt ≤ now then (.expired, table.deleteRow client)
    else
      match table.accounts.get client with
      | none => (.clientNotFound, table.deleteRow client)
      | some status =>
        if status ≠ .active then (.clientInactive, table.deleteRow client)
        else (.success, table.deleteRow client)

/-! ## Approval of a user's registration -/

/-- `getRegistrationReviewSummary`, by `findReviewSummaryById` or `findById`. -/
def getRegistrationReview (presented : String) (now : Int) : LinkStatus :=
  match table.findById digest presented with
  | none => .unknown
  | some (user, row) =>
    if (table.accounts.get user).isNone then .unknown
    else if row.expiresAt ≤ now then .expired
    else .pending

/-- `RegistrationDecisionResult`. -/
inductive DecisionResult where
  | notFound
  | expired
  | userNotFound
  | notPending
  | decided (decision : UserDecision)

/-- `decide` of the transaction. -/
def decideByToken (presented : String) (decision : UserDecision) (now : Int) :
    DecisionResult × TokenTable :=
  match table.findById digest presented with
  | none => (.notFound, table)
  | some (user, row) =>
    if row.expiresAt < now then (.expired, table.deleteRow user)
    else
      match table.accounts.get user with
      | none => (.userNotFound, table.deleteRow user)
      | some status =>
        if status ≠ .pending then (.notPending, table.deleteRow user)
        else
          (.decided decision,
            { table.deleteRow user with
              accounts := table.accounts.set user decision.nextStatus })

end TokenTable

/-! ## Runs -/

/-- What happens to the tokens of either kind; the ids of issued tokens are whatever is drawn. -/
inductive TokenAction where
  /-- `requestPasswordRecovery`. -/
  | requestPasswordRecovery (client token : String) (expiresAt : Int) (sent : Bool)
  /-- `getPasswordRecoveryStatus`. -/
  | getPasswordRecoveryStatus (presented : String) (now : Int)
  /-- `resetByToken`. -/
  | resetByToken (presented : String) (now : Int)
  /-- `save` of a new user's token, or `replaceForUserRetry`. -/
  | issueApproval (user token : String) (expiresAt : Int)
  /-- `decide`. -/
  | decideByToken (presented : String) (decision : UserDecision) (now : Int)
  /-- `deleteByClientId` or `deleteByUserId`. -/
  | deleteRow (account : String)
  | setStatus (account : String) (status : AccountStatus)
  | deleteAccount (account : String)

/-- One step. -/
def TokenTable.step (digest : TokenDigest) (table : TokenTable) : TokenAction → TokenTable
  | .requestPasswordRecovery client token expiresAt sent =>
    table.requestPasswordRecovery digest client token expiresAt sent
  | .getPasswordRecoveryStatus presented now =>
    (table.getPasswordRecoveryStatus digest presented now).2
  | .resetByToken presented now => (table.resetByToken digest presented now).2
  | .issueApproval user token expiresAt => table.issue digest user token expiresAt
  | .decideByToken presented decision now => (table.decideByToken digest presented decision now).2
  | .deleteRow account => table.deleteRow account
  | .setStatus account status => { table with accounts := table.accounts.set account status }
  | .deleteAccount account =>
    { table.deleteRow account with accounts := table.accounts.erase account }

/-- Every row has the digest of a token that was given out. -/
def TokenTable.Hashed (digest : TokenDigest) (table : TokenTable) : Prop :=
  ∀ account row, table.rows.get account = some row →
    ∃ token ∈ table.issued, row.id = digest.hash token

/-- A token was given out and can be used: its row is there and has not expired. -/
def TokenTable.Live (digest : TokenDigest) (table : TokenTable) (token : String) (now : Int) :
    Prop :=
  token ∈ table.issued ∧ ∃ account row, table.rows.get account = some row ∧
    row.id = digest.hash token ∧ now ≤ row.expiresAt

section Invariant

variable {digest : TokenDigest} {table : TokenTable}

theorem TokenTable.Hashed.of_fewer (hashed : table.Hashed digest) {rest : TokenTable}
    (issued : rest.issued = table.issued)
    (fewer : ∀ account row, rest.rows.get account = some row →
      table.rows.get account = some row) : rest.Hashed digest := by
  intro account row held
  rw [issued]
  exact hashed account row (fewer account row held)

variable {row : StoredToken}

theorem get_of_erase {rows : OrderedMap String StoredToken} {erased account : String}
    (held : (rows.erase erased).get account = some row) :
    rows.get account = some row := by
  rw [OrderedMap.get_erase] at held
  split_ifs at held
  exact held

theorem TokenTable.Hashed.deleteRow (hashed : table.Hashed digest) (account : String) :
    (table.deleteRow account).Hashed digest :=
  hashed.of_fewer rfl fun _ _ held => get_of_erase held

theorem TokenTable.Hashed.deleteById (hashed : table.Hashed digest) (presented : String) :
    (table.deleteById digest presented).Hashed digest := by
  refine hashed.of_fewer rfl fun account row => ?_
  dsimp only [TokenTable.deleteById]
  generalize table.rows.entries.filter _ = entries
  generalize table.rows = rows
  induction entries generalizing rows with
  | nil => exact id
  | cons entry entries ih =>
    intro held
    exact get_of_erase (ih _ held)

theorem TokenTable.Hashed.issue (hashed : table.Hashed digest) (account token : String)
    (expiresAt : Int) : (table.issue digest account token expiresAt).Hashed digest := by
  refine OrderedMap.forall_set ⟨token, List.mem_append_right _ List.mem_cons_self, rfl⟩
    fun other row before => ?_
  obtain ⟨earlier, member, same⟩ := hashed other row before
  exact ⟨earlier, List.mem_append_left _ member, same⟩

theorem TokenTable.step_hashed (table : TokenTable) (action : TokenAction)
    (hashed : table.Hashed digest) : (table.step digest action).Hashed digest := by
  cases action with
  | requestPasswordRecovery client token expiresAt sent =>
    dsimp only [step, requestPasswordRecovery]
    split_ifs
    · exact hashed.issue client token expiresAt
    · exact (hashed.issue client token expiresAt).deleteById token
    · exact hashed
  | getPasswordRecoveryStatus presented now =>
    dsimp only [step, getPasswordRecoveryStatus]
    cases table.findById digest presented with
    | none => exact hashed
    | some found =>
      dsimp only
      split_ifs
      · exact hashed.deleteById presented
      · exact hashed.deleteById presented
      · exact hashed
  | resetByToken presented now =>
    dsimp only [step, resetByToken]
    cases table.findById digest presented with
    | none => exact hashed
    | some found =>
      dsimp only
      split_ifs
      · exact hashed.deleteRow found.1
      · cases table.accounts.get found.1 with
        | none => exact hashed.deleteRow found.1
        | some status =>
          dsimp only
          split_ifs <;> exact hashed.deleteRow found.1
  | issueApproval user token expiresAt => exact hashed.issue user token expiresAt
  | decideByToken presented decision now =>
    dsimp only [step, decideByToken]
    cases table.findById digest presented with
    | none => exact hashed
    | some found =>
      dsimp only
      split_ifs
      · exact hashed.deleteRow found.1
      · cases table.accounts.get found.1 with
        | none => exact hashed.deleteRow found.1
        | some status =>
          dsimp only
          split_ifs
          · exact hashed.deleteRow found.1
          · exact (hashed.deleteRow found.1).of_fewer rfl fun _ _ held => held
  | deleteRow account => exact hashed.deleteRow account
  | setStatus account status => exact hashed.of_fewer rfl fun _ _ held => held
  | deleteAccount account =>
    exact (hashed.deleteRow account).of_fewer rfl fun _ _ held => held

theorem TokenTable.findById_spec {presented account : String}
    (found : table.findById digest presented = some (account, row)) :
    table.rows.get account = some row ∧
      (row.id = digest.hash presented ∨ row.id = presented) := by
  have stored (id : String) (there : table.rowWithId id = some (account, row)) :
      table.rows.get account = some row ∧ row.id = id := by
    have held := (OrderedMap.get_eq_some_iff _ _ _).mpr (List.mem_of_find?_eq_some there)
    have same := List.find?_some there
    exact ⟨held, of_decide_eq_true same⟩
  rw [findById] at found
  cases hashed : table.rowWithId (digest.hash presented) with
  | some first =>
    rw [hashed] at found
    cases found
    exact ⟨(stored _ hashed).1, .inl (stored _ hashed).2⟩
  | none =>
    rw [hashed] at found
    exact ⟨(stored _ found).1, .inr (stored _ found).2⟩

theorem TokenTable.Hashed.live_of_found (hashed : table.Hashed digest)
    {presented account : String} {now : Int}
    (found : table.findById digest presented = some (account, row)) (live : now ≤ row.expiresAt) :
    ∃ token, table.Live digest token now ∧
      (presented = token ∨ presented = digest.hash token) := by
  obtain ⟨held, matching⟩ := TokenTable.findById_spec found
  obtain ⟨token, member, same⟩ := hashed account row held
  refine ⟨token, ⟨member, account, row, held, same, live⟩, ?_⟩
  rcases matching with hash | raw
  · exact .inl (digest.injective _ _ (hash.symm.trans same))
  · exact .inr (raw.symm.trans same)

end Invariant

/-- The operation accepts what is presented. -/
def TokenTable.Accepts (digest : TokenDigest) (table : TokenTable) (presented : String)
    (now : Int) : Prop :=
  (table.getPasswordRecoveryStatus digest presented now).1 = .pending ∨
    (table.resetByToken digest presented now).1 = .success ∨
    table.getRegistrationReview digest presented now = .pending ∨
    ∃ decision, (table.decideByToken digest presented decision now).1 = .decided decision

/-- Whatever was done before, what an operation accepts is a live token that was given out, or the
stored id of one. -/
theorem accepted_is_live_or_stored (digest : TokenDigest) (actions : List TokenAction)
    (presented : String) (now : Int) :
    let table := run (TokenTable.step digest) {} actions
    table.Accepts digest presented now →
      ∃ token, table.Live digest token now ∧
        (presented = token ∨ presented = digest.hash token) := by
  intro table accepts
  have hashed : table.Hashed digest := by
    have initially : ({} : TokenTable).Hashed digest := by
      intro account row held
      cases held
    exact run_invariant (TokenTable.step digest) TokenTable.step_hashed initially actions
  cases found : table.findById digest presented with
  | none =>
    rw [TokenTable.Accepts, TokenTable.getPasswordRecoveryStatus, TokenTable.resetByToken,
      TokenTable.getRegistrationReview, found] at accepts
    rcases accepts with refuted | refuted | refuted | ⟨decision, refuted⟩
    · cases refuted
    · cases refuted
    · cases refuted
    · rw [TokenTable.decideByToken, found] at refuted
      cases refuted
  | some entry =>
    refine hashed.live_of_found found ?_
    rw [TokenTable.Accepts, TokenTable.getPasswordRecoveryStatus, TokenTable.resetByToken,
      TokenTable.getRegistrationReview, found] at accepts
    dsimp only at accepts
    by_contra late
    have past : entry.2.expiresAt < now := not_le.mp late
    rcases accepts with refuted | refuted | refuted | ⟨decision, refuted⟩
    · rw [if_pos (le_of_lt past)] at refuted
      split_ifs at refuted
    · rw [if_pos (le_of_lt past)] at refuted
      cases refuted
    · rw [if_pos (le_of_lt past)] at refuted
      split_ifs at refuted
    · rw [TokenTable.decideByToken, found] at refuted
      dsimp only at refuted
      rw [if_pos past] at refuted
      cases refuted

/-- A token is given out to a client. -/
def issuedOnce : List TokenAction :=
  [.setStatus "client" .active, .requestPasswordRecovery "client" "token" 10 true]

/-- The token resets the password. -/
theorem issued_token_accepted :
    ∃ token, (run (TokenTable.step markDigest) {} issuedOnce).Live markDigest token 5 ∧
      ("token" = token ∨ "token" = markDigest.hash token) :=
  accepted_is_live_or_stored markDigest issuedOnce "token" 5 (.inr (.inl (by decide)))

/-- The id of its row does, too. -/
theorem stored_id_accepted :
    ¬ ∀ (digest : TokenDigest) (actions : List TokenAction) (presented : String) (now : Int),
      (run (TokenTable.step digest) {} actions).Accepts digest presented now →
        (run (TokenTable.step digest) {} actions).Live digest presented now := by
  intro every
  have live := every markDigest issuedOnce "token#" 5 (.inr (.inl (by decide)))
  have member := live.1
  revert member
  decide

end PlugHub.OpaqueTokens
