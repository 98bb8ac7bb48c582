import PlugHub.Library.OrderedMap
import PlugHub.Library.Runs

/-!
# Account operations and their database statements

One account, the row of a user or of a client with its refresh tokens, and the operations that
read and write it. An operation is the list of the statements that it sends to the database, in
order; between two of them it is suspended and any other operation may run. A read keeps the row
that it found, and a save writes every column of that row with the edits of the operation. The
reset of a forgotten password is a transaction and runs as one statement.

All statements filter by the id of the account, and the operations here are those on one account: a
write that fails because another account has the same unique column is not among them. Ids of
refresh tokens are random and never given out twice.
-/

namespace PlugHub.Accounts

open Library

/-! ## Rows -/

/-- The status of a user or of a client. -/
inductive AccountStatus where
  | pending
  | active
  | rejected
  | blocked
deriving DecidableEq

/-- The columns that decide who may use the account. -/
@[ext] structure Security where
  passwordHash : String
  credentialsUpdatedAt : Nat
  status : AccountStatus
deriving DecidableEq

/-- The row of an account. -/
structure Account (π : Type) extends Security where
  profile : π
deriving DecidableEq

/-- A refresh token. -/
structure RefreshToken where
  expiresAt : Nat
  revoked : Bool := false
  authenticatedAt : Nat

/-! ## Statements -/

/-- What a save changes in the row that the operation read. -/
inductive Edit (π : Type) where
  | profile (change : π → π)
  | passwordHash (hash : String)
  | credentialsUpdatedAt (instant : Nat)
  | credentials (hash : String) (instant : Nat)
  | status (next : AccountStatus)

/-- The row with an edit made. -/
def Edit.apply {π : Type} : Edit π → Account π → Account π
  | .profile change, account => { account with profile := change account.profile }
  | .passwordHash hash, account => { account with passwordHash := hash }
  | .credentialsUpdatedAt instant, account => { account with credentialsUpdatedAt := instant }
  | .credentials hash instant, account =>
    { account with passwordHash := hash, credentialsUpdatedAt := instant }
  | .status next, account => { account with status := next }

/-- One statement of an operation, with the checks on what it returns. -/
inductive Statement (π : Type) where
  /-- Read the row of a login and check the password and the status. -/
  | authenticate (accepts : Account π → Bool)
  | find (accepts : Account π → Bool)
  /-- Something outside of the row and its tokens; the operation ends when it fails. -/
  | lookup (passes : Bool)
  | save (edit : Edit π)
  /-- The transaction that resets a password; it ends when the recovery token is not live. -/
  | resetByToken (live : Bool) (passwordHash : String) (instant : Nat)
  | consume (id : String) (now : Nat)
  | issue (id : String) (expiresAt : Nat)
  /-- Read a refresh token; the operation ends when it is absent or revoked. -/
  | findToken (id : String)
  | revoke (id : String)
  | revokeAll

/-! ## Operations in progress -/

/-- The values that an operation wrote on purpose. -/
structure Purpose where
  passwordHash : Option String := none
  credentialsUpdatedAt : Option Nat := none
  status : Option AccountStatus := none

namespace Purpose

/-- Security columns with the values written on purpose. -/
def onto (purpose : Purpose) (security : Security) : Security where
  passwordHash := purpose.passwordHash.getD security.passwordHash
  credentialsUpdatedAt := purpose.credentialsUpdatedAt.getD security.credentialsUpdatedAt
  status := purpose.status.getD security.status

/-- The values of two writes, one after the other. -/
def andThen (earlier later : Purpose) : Purpose where
  passwordHash := later.passwordHash <|> earlier.passwordHash
  credentialsUpdatedAt := later.credentialsUpdatedAt <|> earlier.credentialsUpdatedAt
  status := later.status <|> earlier.status

end Purpose

/-- The values that an edit writes on purpose. -/
def Edit.purpose {π : Type} : Edit π → Purpose
  | .profile _ => {}
  | .passwordHash hash => { passwordHash := some hash }
  | .credentialsUpdatedAt instant => { credentialsUpdatedAt := some instant }
  | .credentials hash instant =>
    { passwordHash := some hash, credentialsUpdatedAt := some instant }
  | .status next => { status := some next }

/-- The session for which an operation acts. -/
structure Session where
  authenticatedAt : Nat
  since : Nat

/-- An operation in progress. -/
structure Operation (π : Type) where
  invalidates : Bool
  rest : List (Statement π)
  snapshot : Option (Account π) := none
  session : Option Session := none
  wrote : Purpose := {}

namespace Operation

variable {π : Type}

/-- The operation read the row. -/
def found (operation : Operation π) (row : Account π) : Operation π :=
  { operation with snapshot := some row }

/-- The operation acts for a session. -/
def actsFor (operation : Operation π) (session : Session) : Operation π :=
  { operation with session := some session }

/-- The operation made an edit. -/
def made (operation : Operation π) (edit : Edit π) : Operation π :=
  { operation with wrote := operation.wrote.andThen edit.purpose }

end Operation

/-- A successful consumption of a refresh token. -/
structure Consumption where
  id : String
  authenticatedAt : Nat
  invalidatedAt : Nat

/-- One account, its operations in progress and their history. -/
structure AccountState (π : Type) where
  row : Account π
  tokens : OrderedMap String RefreshToken := OrderedMap.empty
  operations : OrderedMap Nat (Operation π) := OrderedMap.empty
  /-- The values that the completed operations wrote on purpose, in the order of completion. -/
  settled : Security
  moment : Nat := 0
  invalidatedAt : Nat := 0
  consumptions : List Consumption := []

namespace AccountState

variable {π : Type}

/-- An account with no operation in progress and no session. -/
def initial (row : Account π) : AccountState π := { row, settled := row.toSecurity }

/-- Mark one refresh token revoked. -/
def revokeToken (state : AccountState π) (id : String) : AccountState π :=
  { state with tokens := state.tokens.modify id fun token => { token with revoked := true } }

/-- Mark every refresh token revoked. -/
def revokeAllTokens (state : AccountState π) : AccountState π :=
  { state with tokens := state.tokens.mapValues fun token => { token with revoked := true } }

/-- Write the row. -/
def saveRow (state : AccountState π) (row : Account π) : AccountState π := { state with row }

/-- Consume a refresh token. -/
def consumeToken (state : AccountState π) (id : String) (token : RefreshToken) : AccountState π :=
  let consumption : Consumption := ⟨id, token.authenticatedAt, state.invalidatedAt⟩
  { state.revokeToken id with consumptions := consumption :: state.consumptions }

/-- Save a new refresh token. -/
def saveToken (state : AccountState π) (id : String) (expiresAt : Nat) (session : Session) :
    AccountState π :=
  let token : RefreshToken := { expiresAt, authenticatedAt := session.authenticatedAt }
  { state with tokens := state.tokens.set id token }

/-- Execute a statement. The result is `none` when the operation ends at it: a check failed, or
there is nothing to do. -/
def execute (state : AccountState π) (operation : Operation π) :
    Statement π → Option (AccountState π × Operation π)
  | .authenticate accepts =>
    if accepts state.row then
      some (state, (operation.found state.row).actsFor ⟨state.moment, state.moment⟩)
    else none
  | .find accepts => if accepts state.row then some (state, operation.found state.row) else none
  | .lookup passes => if passes then some (state, operation) else none
  | .save edit =>
    match operation.snapshot with
    | some found => some (state.saveRow (edit.apply found), operation.made edit)
    | none => none
  | .resetByToken live hash instant =>
    if live ∧ state.row.status = .active then
      let edit : Edit π := .credentials hash instant
      some ((state.saveRow (edit.apply state.row)).revokeAllTokens, operation.made edit)
    else none
  | .consume id now =>
    match state.tokens.get id with
    | some token =>
      if token.revoked = false ∧ now < token.expiresAt then
        some (state.consumeToken id token, operation.actsFor ⟨token.authenticatedAt, state.moment⟩)
      else none
    | none => none
  | .issue id expiresAt =>
    match operation.session, state.tokens.get id with
    | some session, none => some (state.saveToken id expiresAt session, operation)
    | _, _ => none
  | .findToken id =>
    if (state.tokens.get id).any fun token => !token.revoked then some (state, operation) else none
  | .revoke id => some (state.revokeToken id, operation)
  | .revokeAll => some (state.revokeAllTokens, operation)

/-- The statements that an operation gets past, with the state and the operation after them. -/
inductive Executes (state : AccountState π) (operation : Operation π) :
    Statement π → AccountState π → Operation π → Prop where
  | authenticate {accepts : Account π → Bool} (accepted : accepts state.row = true) :
    Executes state operation (.authenticate accepts) state
      ((operation.found state.row).actsFor ⟨state.moment, state.moment⟩)
  | find {accepts : Account π → Bool} (accepted : accepts state.row = true) :
    Executes state operation (.find accepts) state (operation.found state.row)
  | lookup : Executes state operation (.lookup true) state operation
  | save {edit : Edit π} {found : Account π} (read : operation.snapshot = some found) :
    Executes state operation (.save edit) (state.saveRow (edit.apply found))
      (operation.made edit)
  | resetByToken {hash : String} {instant : Nat} (active : state.row.status = .active) :
    Executes state operation (.resetByToken true hash instant)
      (state.saveRow ((Edit.credentials hash instant).apply state.row)).revokeAllTokens
      (operation.made (.credentials hash instant))
  | consume {id : String} {now : Nat} {token : RefreshToken}
    (found : state.tokens.get id = some token) (live : token.revoked = false)
    (unexpired : now < token.expiresAt) :
    Executes state operation (.consume id now) (state.consumeToken id token)
      (operation.actsFor ⟨token.authenticatedAt, state.moment⟩)
  | issue {id : String} {expiresAt : Nat} {session : Session}
    (acting : operation.session = some session) (fresh : state.tokens.get id = none) :
    Executes state operation (.issue id expiresAt) (state.saveToken id expiresAt session) operation
  | findToken {id : String} : Executes state operation (.findToken id) state operation
  | revoke {id : String} : Executes state operation (.revoke id) (state.revokeToken id) operation
  | revokeAll : Executes state operation .revokeAll state.revokeAllTokens operation

theorem executes_of_execute {state after : AccountState π} {operation next : Operation π}
    {statement : Statement π} (executed : state.execute operation statement = some (after, next)) :
    Executes state operation statement after next := by
  cases statement with
  | authenticate accepts =>
    simp only [execute] at executed
    split at executed
    · rename_i accepted
      cases executed
      exact .authenticate accepted
    · cases executed
  | find accepts =>
    simp only [execute] at executed
    split at executed
    · rename_i accepted
      cases executed
      exact .find accepted
    · cases executed
  | lookup passes =>
    cases passes with
    | true =>
      cases executed
      exact .lookup
    | false => cases executed
  | save edit =>
    simp only [execute] at executed
    split at executed
    · rename_i found read
      cases executed
      exact .save read
    · cases executed
  | resetByToken live hash instant =>
    simp only [execute] at executed
    split at executed
    · rename_i passes
      obtain ⟨rfl, active⟩ := passes
      cases executed
      exact .resetByToken active
    · cases executed
  | consume id now =>
    simp only [execute] at executed
    split at executed
    · rename_i token found
      split at executed
      · rename_i passes
        cases executed
        exact .consume found passes.1 passes.2
      · cases executed
    · cases executed
  | issue id expiresAt =>
    simp only [execute] at executed
    split at executed
    · rename_i session holds fresh
      cases executed
      exact .issue holds fresh
    · cases executed
  | findToken id =>
    simp only [execute] at executed
    split at executed
    · cases executed
      exact .findToken
    · cases executed
  | revoke id =>
    cases executed
    exact .revoke
  | revokeAll =>
    cases executed
    exact .revokeAll

theorem Executes.frame {state after : AccountState π} {operation next : Operation π}
    {statement : Statement π} (executes : Executes state operation statement after next) :
    after.operations = state.operations ∧ after.moment = state.moment ∧
      after.invalidatedAt = state.invalidatedAt ∧ after.settled = state.settled ∧
      next.invalidates = operation.invalidates ∧ next.rest = operation.rest := by
  cases executes <;> exact ⟨rfl, rfl, rfl, rfl, rfl, rfl⟩

/-- The last statement of an operation was executed. -/
def complete (state : AccountState π) (id : Nat) (operation : Operation π) : AccountState π :=
  { state with
    operations := state.operations.erase id
    settled := operation.wrote.onto state.settled
    invalidatedAt := if operation.invalidates then state.moment else state.invalidatedAt }

/-- An operation goes on after a statement. -/
def proceed (state : AccountState π) (id : Nat) :
    Option (AccountState π × Operation π) → AccountState π
  | none => { state with operations := state.operations.erase id }
  | some (after, operation) =>
    if operation.rest.isEmpty then after.complete id operation
    else { after with operations := after.operations.set id operation }

/-- Execute the next statement of an operation. -/
def resume (state : AccountState π) (id : Nat) (operation : Operation π)
    (statement : Statement π) (rest : List (Statement π)) : AccountState π :=
  let state := { state with moment := state.moment + 1 }
  state.proceed id (state.execute { operation with rest } statement)

end AccountState

/-! ## Interleavings -/

/-- The operations of an account: the statements of a request, and whether it invalidates the
sessions. -/
structure Requests (ρ π : Type) where
  program : ρ → List (Statement π)
  invalidates : ρ → Bool

/-- A step of an interleaving. -/
inductive AccountAction (ρ : Type) where
  | start (id : Nat) (request : ρ)
  | resume (id : Nat)

/-- An operation in progress with its next statement and those after it. -/
def AccountState.awaiting {π : Type} (state : AccountState π) (id : Nat) :
    Option (Operation π × Statement π × List (Statement π)) :=
  match state.operations.get id with
  | some operation =>
    match operation.rest with
    | statement :: rest => some (operation, statement, rest)
    | [] => none
  | none => none

/-- One step. A request is given an id that no operation in progress has. -/
def AccountState.step {ρ π : Type} (requests : Requests ρ π) (state : AccountState π) :
    AccountAction ρ → AccountState π
  | .start id request =>
    if state.operations.has id then state
    else
      let operation : Operation π :=
        { invalidates := requests.invalidates request, rest := requests.program request }
      { state with operations := state.operations.set id operation }
  | .resume id =>
    match state.awaiting id with
    | some (operation, statement, rest) => state.resume id operation statement rest
    | none => state

theorem AccountState.get_of_awaiting {π : Type} {state : AccountState π} {id : Nat}
    {operation : Operation π} {statement : Statement π} {rest : List (Statement π)}
    (awaits : state.awaiting id = some (operation, statement, rest)) :
    state.operations.get id = some operation ∧ operation.rest = statement :: rest := by
  unfold awaiting at awaits
  split at awaits
  · rename_i found present
    split at awaits
    · rename_i shape
      cases awaits
      exact ⟨present, shape⟩
    · cases awaits
  · cases awaits

/-! ## Users -/

/-- The statuses that an operation can set. -/
inductive ManagedStatus where
  | active
  | blocked
deriving DecidableEq

/-- The account status that is set. -/
def ManagedStatus.toStatus : ManagedStatus → AccountStatus
  | .active => .active
  | .blocked => .blocked

/-- The other columns of a user. -/
structure UserProfile where
  email : String
  celular : Option String
  role : String

/-- What is asked of the account of a user. -/
inductive UserRequest where
  | login (password id : String) (expiresAt : Nat)
  | agentLogin (password : String) (allowed : Bool) (id : String) (expiresAt : Nat)
  | refresh (tokenId : String) (now : Nat) (id : String) (expiresAt : Nat)
  | logout (tokenId : String)
  | changePassword (currentPassword newPasswordHash : String) (now : Nat)
  | updateMyCelular (celular : Option String) (free : Bool)
  | adminSetUserStatus (status : ManagedStatus)

section Programs

variable (compare : String → String → Bool)

/-- The checks of a login. -/
def loginAccepts (password : String) (user : Account UserProfile) : Bool :=
  compare password user.passwordHash && user.status != .pending && user.status != .rejected &&
    user.status != .blocked

/-- The statements of a request to a user. -/
def UserRequest.program : UserRequest → List (Statement UserProfile)
  | .login password id expiresAt =>
    [.authenticate (loginAccepts compare password), .issue id expiresAt]
  | .agentLogin password allowed id expiresAt =>
    [.authenticate (loginAccepts compare password), .lookup allowed, .issue id expiresAt]
  | .refresh tokenId now id expiresAt =>
    [.consume tokenId now, .find fun user => user.status != .blocked, .issue id expiresAt]
  | .logout tokenId => [.findToken tokenId, .revoke tokenId]
  | .changePassword currentPassword newPasswordHash now =>
    [.find fun user => compare currentPassword user.passwordHash && user.status != .blocked,
      .save (.passwordHash newPasswordHash), .find fun _ => true,
      .save (.credentialsUpdatedAt now), .revokeAll]
  | .updateMyCelular celular free =>
    [.find fun user => user.status != .blocked && user.profile.celular != celular,
      .lookup (celular.isNone || free), .save (.profile fun profile => { profile with celular })]
  | .adminSetUserStatus .blocked =>
    [.find fun user => user.status != .blocked, .revokeAll, .save (.status .blocked)]
  | .adminSetUserStatus .active =>
    [.find fun user => user.status == .blocked, .save (.status .active)]

/-- The operations of a user. -/
def userRequests : Requests UserRequest UserProfile where
  program := UserRequest.program compare
  invalidates
    | .changePassword _ _ _ => true
    | .adminSetUserStatus .blocked => true
    | _ => false

/-! ## Clients -/

/-- The other columns of a client. -/
structure ClientProfile where
  userId : String
  email : String
  name : String
  lastName : String
  mobile : Option String
  thumbnailUrl : Option String
deriving DecidableEq

/-- A profile update; a `some none` is a null in the request. -/
structure UpdateMyClientProfileInput where
  name : Option String := none
  lastName : Option String := none
  mobile : Option (Option String) := none
  clearThumbnail : Bool := false

namespace UpdateMyClientProfileInput

/-- The phone number that is compared with the current one. -/
def nextMobile (input : UpdateMyClientProfileInput) (current : ClientProfile) : Option String :=
  input.mobile.getD current.mobile

/-- The picture that is compared with the current one. -/
def nextThumbnailUrl (input : UpdateMyClientProfileInput) (current : ClientProfile) :
    Option String :=
  if input.clearThumbnail then none else current.thumbnailUrl

/-- The update changes something. -/
def changes (input : UpdateMyClientProfileInput) (current : ClientProfile) : Bool :=
  input.name.getD current.name != current.name ||
    input.lastName.getD current.lastName != current.lastName ||
    input.nextMobile current != current.mobile ||
    input.nextThumbnailUrl current != current.thumbnailUrl

/-- The profile that is saved: the current one is spread first, so that a phone number or a picture
that is not defined keeps its current value. -/
def updated (input : UpdateMyClientProfileInput) (current : ClientProfile) : ClientProfile :=
  { current with
    name := input.name.getD current.name
    lastName := input.lastName.getD current.lastName
    mobile := input.nextMobile current <|> current.mobile
    thumbnailUrl := input.nextThumbnailUrl current <|> current.thumbnailUrl }

end UpdateMyClientProfileInput

/-- What is asked of the account of a client. -/
inductive ClientRequest where
  | login (password id : String) (expiresAt : Nat)
  | refresh (tokenId : String) (now : Nat) (id : String) (expiresAt : Nat)
  | logout (tokenId : String)
  | changePassword (currentPassword newPasswordHash : String) (now : Nat)
  /-- Reset the password with a recovery token, found live before and in the transaction or not. -/
  | resetPasswordByRecoveryToken (found live : Bool) (newPassword newPasswordHash : String)
    (now : Nat)
  | updateMyProfile (input : UpdateMyClientProfileInput)
  | updateThumbnail (stored : Bool) (url : String)
  | setManagedClientStatus (ownerActive : Bool) (status : ManagedStatus)

/-- A pending or rejected registration has no managed status. -/
def assertManagedClientStatusTransition (current : AccountStatus) : Bool :=
  current != .pending && current != .rejected

/-- The statements of a request to a client. -/
def ClientRequest.program : ClientRequest → List (Statement ClientProfile)
  | .login password id expiresAt =>
    [.authenticate fun client => client.status == .active && compare password client.passwordHash,
      .issue id expiresAt]
  | .refresh tokenId now id expiresAt =>
    [.consume tokenId now, .find fun client => client.status == .active, .issue id expiresAt]
  | .logout tokenId => [.revoke tokenId]
  | .changePassword currentPassword newPasswordHash now =>
    [.find fun client =>
        client.status == .active && compare currentPassword client.passwordHash,
      .save (.credentials newPasswordHash now), .revokeAll,
      -- The recovery tokens of the client are deleted.
      .lookup true]
  | .resetPasswordByRecoveryToken found live newPassword newPasswordHash now =>
    [.lookup found,
      .find fun client => client.status == .active && !compare newPassword client.passwordHash,
      .resetByToken live newPasswordHash now]
  | .updateMyProfile input =>
    [.find fun client => client.status == .active && input.changes client.profile,
      .save (.profile input.updated)]
  | .updateThumbnail stored url =>
    [.find fun client => client.status == .active, .lookup stored,
      .save (.profile fun profile => { profile with thumbnailUrl := some url })]
  | .setManagedClientStatus ownerActive status =>
    [.lookup ownerActive,
      .find fun client => client.status != status.toStatus &&
        assertManagedClientStatusTransition client.status,
      .save (.status status.toStatus)] ++ if status = .blocked then [.revokeAll] else []

/-- The operations of a client. -/
def clientRequests : Requests ClientRequest ClientProfile where
  program := ClientRequest.program compare
  invalidates
    | .changePassword _ _ _ => true
    | .resetPasswordByRecoveryToken _ _ _ _ _ => true
    | .setManagedClientStatus _ .blocked => true
    | _ => false

end Programs

end PlugHub.Accounts
