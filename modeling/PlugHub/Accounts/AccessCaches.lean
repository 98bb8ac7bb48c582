import PlugHub.Accounts.Operations
import PlugHub.Library.CachedChecks
import PlugHub.Profiles.AgentProfile

/-!
# The caches of access checks and of client snapshots

`AgentAccessService` answers whether a user or a client may use an agent, `ClientAuthService`
whether a client's access token is still good. Both keep what they granted for a short time and
delete it when access is revoked, an agent deactivated or an account blocked.

Deleting is not enough. A check that waits for the repository while access is revoked stores its
grant after the deletion. A user's grant is stored under the same key whether it was given to an
administrator or not, so one who asks without that role is given what the administrator was given.
In runs in which neither happens, both caches are coherent.
-/

namespace PlugHub.AccessCaches

open Library Accounts Profiles

/-- `AppError`. -/
structure AppError where
  message : String
  statusCode : Nat
  code : String
deriving DecidableEq

/-- The configuration of a cache. -/
structure CacheConfig where
  ttlMs : Nat
  maxSize : Nat

/-! ## Access to agents -/

/-- `agentNotFound`. -/
def agentNotFound (agentId : String) : AppError :=
  ⟨"Agent " ++ agentId ++ " not found", 404, "AGENT_NOT_FOUND"⟩

/-- `agentInactive`. -/
def agentInactive (agentId : String) : AppError :=
  ⟨"Agent " ++ agentId ++ " is inactive and cannot be used", 403, "AGENT_INACTIVE"⟩

/-- `agentAccessDenied`. -/
def agentAccessDenied (agentId : String) : AppError :=
  ⟨"You do not have access to agent " ++ agentId, 403, "AGENT_ACCESS_DENIED"⟩

/-- `AgentAccessPrincipal`. -/
inductive AgentAccessPrincipal where
  | user (id : String) (role : Option String)
  | client (id : String)
deriving DecidableEq

namespace AgentAccessPrincipal

/-- The type of the principal, as text. -/
def type : AgentAccessPrincipal → String
  | .user .. => "user"
  | .client _ => "client"

/-- The id of the principal. -/
def id : AgentAccessPrincipal → String
  | .user id _ => id
  | .client id => id

/-- The principal is a user with the role of an administrator. -/
def isAdmin : AgentAccessPrincipal → Bool
  | .user _ role => role = some "admin"
  | .client _ => false

end AgentAccessPrincipal

/-- A principal asks for an agent. -/
structure AccessQuery where
  principal : AgentAccessPrincipal
  agentId : String

/-- `accessCacheKey`. -/
def accessCacheKey (principalType principalId agentId : String) : String :=
  principalType ++ ":" ++ principalId ++ ":" ++ agentId

/-- `AgentAccessSnapshot`. -/
structure AgentAccessSnapshot where
  agentId : String
  status : AgentStatus

/-- The rows that decide who may use an agent. -/
structure AccessRows where
  agents : String → Option AgentStatus
  identities : String → Option String
  clientAccess : String → String → Bool

namespace AccessRows

variable (rows : AccessRows)

/-- `findAccessSnapshotById`. -/
def findAccessSnapshotById (agentId : String) : Option AgentAccessSnapshot :=
  (rows.agents agentId).map (⟨agentId, ·⟩)

/-- `hasAccess`, of the identities for a user and of the accesses for a client. -/
def hasAccess (principal : AgentAccessPrincipal) (agentId : String) : Bool :=
  match principal with
  | .user id _ => rows.identities agentId = some id
  | .client id => rows.clientAccess id agentId

end AccessRows

/-- `PrincipalAccessCheckResult`. -/
inductive PrincipalAccessCheckResult where
  | granted (snapshot : AgentAccessSnapshot)
  | notFound
  | inactive
  | denied

/-- `findPrincipalAccessCheck`: one query for the agent and the access. -/
def AccessRows.findPrincipalAccessCheck (rows : AccessRows) (agentId : String)
    (principal : AgentAccessPrincipal) : PrincipalAccessCheckResult :=
  match rows.findAccessSnapshotById agentId with
  | none => .notFound
  | some snapshot =>
    if snapshot.status ≠ .active then .inactive
    else if rows.hasAccess principal agentId = false then .denied
    else .granted snapshot

/-- What the service asks the repositories. -/
inductive AccessQuestion where
  | snapshot
  | combined
  | access (snapshot : AgentAccessSnapshot)

/-- What the repositories answer. -/
inductive AccessResult where
  | snapshot (found : Option AgentAccessSnapshot)
  | combined (check : PrincipalAccessCheckResult)
  | access (snapshot : AgentAccessSnapshot) (hasAccess : Bool)

/-- What changes the rows, or has grants deleted from the cache. -/
inductive AccessChange where
  | saveAgent (agentId : String) (status : AgentStatus)
  | bindIfUnbound (agentId userId : String)
  | addAccess (clientId agentId : String)
  /-- A client's access is taken away; then `onAccessRevoked`. -/
  | removeAccess (clientId agentId : String)
  /-- An agent is deactivated; then `onAgentDeactivated`. -/
  | deactivate (agentId : String)
  /-- A user is blocked, which no row of the check says; then `invalidateAccessCacheForUser`. -/
  | blockUser (userId : String)

/-- What a change makes of the rows. -/
def AccessChange.apply (change : AccessChange) (rows : AccessRows) : AccessRows :=
  match change with
  | .saveAgent agentId status =>
    { rows with agents := Function.update rows.agents agentId (some status) }
  | .bindIfUnbound agentId userId =>
    { rows with
      identities :=
        Function.update rows.identities agentId (rows.identities agentId <|> some userId) }
  | .addAccess clientId agentId =>
    { rows with
      clientAccess := Function.update rows.clientAccess clientId
        (Function.update (rows.clientAccess clientId) agentId true) }
  | .removeAccess clientId agentId =>
    { rows with
      clientAccess := Function.update rows.clientAccess clientId
        (Function.update (rows.clientAccess clientId) agentId false) }
  | .deactivate agentId =>
    { rows with
      agents := Function.update rows.agents agentId
        ((rows.agents agentId).map fun _ => .inactive) }
  | .blockUser _ => rows

/-- Which keys are deleted after a change: those of `invalidateAccessCache`,
`invalidateAccessCacheForAgent` and `invalidateAccessCacheForUser`. -/
def AccessChange.scope : AccessChange → Option (String → Bool)
  | .saveAgent .. => none
  | .bindIfUnbound .. => none
  | .addAccess .. => none
  | .removeAccess clientId agentId => some fun key => key = accessCacheKey "client" clientId agentId
  | .deactivate agentId => some fun key => (":" ++ agentId).toList.isSuffixOf key.toList
  | .blockUser userId => some fun key => ("user:" ++ userId ++ ":").toList.isPrefixOf key.toList

/-- What the service does with an answer. An administrator needs no access, so only the agent was
asked for. -/
def resumeAccess (query : AccessQuery) : AccessResult →
    AccessQuestion ⊕ Except AppError AgentAccessSnapshot
  | .snapshot none => .inr (.error (agentNotFound query.agentId))
  | .snapshot (some snapshot) =>
    if snapshot.status ≠ .active then .inr (.error (agentInactive query.agentId))
    else if query.principal.isAdmin then .inr (.ok snapshot)
    else .inl (.access snapshot)
  | .combined check => match check with
    | .notFound => .inr (.error (agentNotFound query.agentId))
    | .inactive => .inr (.error (agentInactive query.agentId))
    | .denied => .inr (.error (agentAccessDenied query.agentId))
    | .granted snapshot => .inr (.ok snapshot)
  | .access snapshot hasAccess =>
    if hasAccess = false then .inr (.error (agentAccessDenied query.agentId))
    else .inr (.ok snapshot)

/-- `assertPrincipalAccess`, with a repository that answers one combined query or without. -/
def assertPrincipalAccess (config : CacheConfig) (combinedCheck : Bool) :
    CheckProgram AccessRows AccessQuery AccessQuestion AccessResult AppError AgentAccessSnapshot
      String AccessChange where
  key query := accessCacheKey query.principal.type query.principal.id query.agentId
  cacheable _ := 0 < config.ttlMs
  start query :=
    if query.principal.isAdmin then .snapshot else if combinedCheck then .combined else .snapshot
  read rows query
    | .snapshot => .snapshot (rows.findAccessSnapshotById query.agentId)
    | .combined => .combined (rows.findPrincipalAccessCheck query.agentId query.principal)
    | .access snapshot => .access snapshot (rows.hasAccess query.principal query.agentId)
  resume := resumeAccess
  apply := AccessChange.apply
  scope := AccessChange.scope

/-! ## Client snapshots -/

/-- `ClientActiveSnapshot`. -/
structure ClientActiveSnapshot where
  id : String
  status : AccountStatus
  credentialsUpdatedAt : Nat

/-- A client asks whether its access token is good. -/
structure SnapshotQuery where
  clientId : String
  /-- The version of the credentials for which the token was issued, if the token says so. -/
  accessTokenCredentialsVersion : Option Nat

/-- `notFound` of a client. -/
def clientNotFound : AppError := ⟨"Client not found", 404, "NOT_FOUND"⟩

/-- `forbidden`. -/
def forbidden (message : String) : AppError := ⟨message, 403, "FORBIDDEN"⟩

/-- `invalidToken`. -/
def invalidToken (message : String) : AppError := ⟨message, 401, "INVALID_TOKEN"⟩

/-- `assertClientCanLogin`. -/
def assertClientCanLogin : AccountStatus → Except AppError Unit
  | .active => .ok ()
  | .blocked => .error (forbidden "Client account is blocked")
  | .pending | .rejected => .error (forbidden "Client account is pending approval")

/-- What `getFreshActiveClientSnapshot` makes of the row that was found. -/
def freshSnapshot (query : SnapshotQuery) :
    Option ClientActiveSnapshot → Except AppError ClientActiveSnapshot
  | none => .error clientNotFound
  | some snapshot => match assertClientCanLogin snapshot.status with
    | .error refusal => .error refusal
    | .ok () => match query.accessTokenCredentialsVersion with
      | none => .ok snapshot
      | some version =>
        if snapshot.credentialsUpdatedAt ≠ version then
          .error (invalidToken "Access token is no longer valid")
        else .ok snapshot

/-- What changes the rows of the clients. -/
inductive ClientChange where
  | save (clientId : String) (row : Option (AccountStatus × Nat))
  /-- A client is blocked by its owner; then `invalidateSnapshotCache`. -/
  | block (clientId : String)

/-- What a change makes of the rows. -/
def ClientChange.apply (change : ClientChange) (rows : String → Option (AccountStatus × Nat)) :
    String → Option (AccountStatus × Nat) :=
  match change with
  | .save clientId row => Function.update rows clientId row
  | .block clientId =>
    Function.update rows clientId ((rows clientId).map fun row => (.blocked, row.2))

/-- Which keys are deleted after a change. -/
def ClientChange.scope : ClientChange → Option (String → Bool)
  | .save .. => none
  | .block clientId => some fun key => (clientId ++ ":").toList.isPrefixOf key.toList

/-- `findActiveSnapshotById`. -/
def findActiveSnapshotById (rows : String → Option (AccountStatus × Nat)) (id : String) :
    Option ClientActiveSnapshot :=
  (rows id).map fun row => ⟨id, row.1, row.2⟩

/-- `getActiveClientSnapshot`. -/
def getActiveClientSnapshot (config : CacheConfig) :
    CheckProgram (String → Option (AccountStatus × Nat)) SnapshotQuery Unit
      (Option ClientActiveSnapshot) AppError ClientActiveSnapshot String ClientChange where
  key query :=
    query.clientId ++ ":" ++ (query.accessTokenCredentialsVersion.map toString).getD "undefined"
  cacheable query := 0 < config.ttlMs && query.accessTokenCredentialsVersion.isSome
  start _ := ()
  read rows query _ := findActiveSnapshotById rows query.clientId
  resume query found := .inr (freshSnapshot query found)
  apply := ClientChange.apply
  scope := ClientChange.scope

/-! ## What a check of access relies on -/

/-- The agent is active. -/
def AccessRows.Active (rows : AccessRows) (agentId : String) : Prop :=
  rows.agents agentId = some .active

/-- The principal may use the agent, if it is active. -/
def AccessRows.Entitled (rows : AccessRows) (query : AccessQuery) : Prop :=
  query.principal.isAdmin = true ∨ rows.hasAccess query.principal query.agentId = true

/-- Something that the query needs was the case and is so no more. -/
def AccessTaken (rows later : AccessRows) (query : AccessQuery) : Prop :=
  (rows.Active query.agentId ∧ ¬later.Active query.agentId) ∨
    (rows.Entitled query ∧ ¬later.Entitled query)

/-- Two principals ask alike: the same one for the same agent, the second as an administrator if
the first did. -/
structure AskedAlike (first second : AccessQuery) : Prop where
  type : first.principal.type = second.principal.type
  id : first.principal.id = second.principal.id
  agent : first.agentId = second.agentId
  role : first.principal.isAdmin = true → second.principal.isAdmin = true

/-- What a check has read is the case. -/
def AccessBacked (rows : AccessRows) (query : AccessQuery) :
    CheckStage AccessQuestion AccessResult → Prop
  | .reading .snapshot | .reading .combined => True
  | .reading (.access _) => rows.Active query.agentId
  | .has (.snapshot found) => ∀ snapshot, found = some snapshot → snapshot.status = .active →
      rows.Active query.agentId
  | .has (.combined check) => ∀ snapshot, check = .granted snapshot →
      rows.Active query.agentId ∧ rows.Entitled query
  | .has (.access _ hasAccess) => rows.Active query.agentId ∧
      (hasAccess = true → rows.Entitled query)

variable {config : CacheConfig} {combinedCheck : Bool} {rows : AccessRows} {query : AccessQuery}

variable {snapshot : AgentAccessSnapshot}

theorem active_of_found (found : rows.findAccessSnapshotById query.agentId = some snapshot)
    (active : snapshot.status = .active) : rows.Active query.agentId := by
  unfold AccessRows.findAccessSnapshotById at found
  obtain ⟨status, row, rfl⟩ := Option.map_eq_some_iff.mp found
  simp only at active
  rw [AccessRows.Active, row, active]

theorem granted_combined
    (granted : rows.findPrincipalAccessCheck query.agentId query.principal = .granted snapshot) :
    rows.Active query.agentId ∧ rows.Entitled query := by
  unfold AccessRows.findPrincipalAccessCheck at granted
  split at granted
  · cases granted
  · next row found =>
    split at granted
    · cases granted
    · next active =>
      split at granted
      · cases granted
      · next access =>
        exact ⟨active_of_found found (by simpa using active), Or.inr (by simpa using access)⟩

theorem backed_grant {result : AccessResult} (backed : AccessBacked rows query (.has result))
    (granted : resumeAccess query result = .inr (.ok snapshot)) :
    rows.Active query.agentId ∧ rows.Entitled query := by
  cases result with
  | snapshot found =>
    cases found with
    | none => cases granted
    | some row =>
      simp only [resumeAccess] at granted
      split at granted
      · cases granted
      · next active =>
        split at granted
        · next admin => exact ⟨backed row rfl (by simpa using active), Or.inl admin⟩
        · cases granted
  | combined check =>
    cases check with
    | notFound => cases granted
    | inactive => cases granted
    | denied => cases granted
    | granted row => exact backed row rfl
  | access row hasAccess =>
    simp only [resumeAccess] at granted
    split at granted
    · cases granted
    · next access => exact ⟨backed.1, backed.2 (by simpa using access)⟩

theorem backed_read {question : AccessQuestion}
    (backed : AccessBacked rows query (.reading question)) :
    AccessBacked rows query
      (.has ((assertPrincipalAccess config combinedCheck).read rows query question)) := by
  cases question with
  | snapshot => exact fun snapshot found active => active_of_found found active
  | combined => exact fun snapshot granted => granted_combined granted
  | access snapshot => exact ⟨backed, fun access => Or.inr access⟩

theorem backed_next {result : AccessResult} {question : AccessQuestion}
    (backed : AccessBacked rows query (.has result))
    (goesOn : resumeAccess query result = .inl question) :
    AccessBacked rows query (.reading question) := by
  cases result with
  | snapshot found =>
    cases found with
    | none => cases goesOn
    | some row =>
      simp only [resumeAccess] at goesOn
      split at goesOn
      · cases goesOn
      · next active =>
        split at goesOn
        · cases goesOn
        · rw [← Sum.inl.inj goesOn]
          exact backed row rfl (by simpa using active)
  | combined check => cases check <;> cases goesOn
  | access row hasAccess =>
    simp only [resumeAccess] at goesOn
    split at goesOn <;> cases goesOn

/-- A check without the cache grants exactly what is the case: the agent is active, and the
principal may use it. -/
theorem grants_access :
    (assertPrincipalAccess config combinedCheck).Grants rows query ↔
      rows.Active query.agentId ∧ rows.Entitled query := by
  constructor
  · rintro ⟨value, answers⟩
    have start : AccessBacked rows query
        (.reading ((assertPrincipalAccess config combinedCheck).start query)) := by
      simp only [assertPrincipalAccess]
      split
      · trivial
      · split <;> trivial
    generalize (assertPrincipalAccess config combinedCheck).start query = question
      at answers start
    generalize outcomes : (Except.ok value : Except AppError AgentAccessSnapshot) = outcome
      at answers
    induction answers with
    | last settles =>
      rw [← outcomes] at settles
      exact backed_grant (backed_read start) settles
    | next goesOn _ ih => exact ih (backed_next (backed_read start) goesOn) outcomes
  · rintro ⟨active, entitled⟩
    have found : rows.findAccessSnapshotById query.agentId = some ⟨query.agentId, .active⟩ := by
      rw [AccessRows.findAccessSnapshotById, active]
      rfl
    refine ⟨⟨query.agentId, .active⟩, ?_⟩
    by_cases admin : query.principal.isAdmin = true
    · refine .last ?_
      simp [assertPrincipalAccess, admin, found, resumeAccess]
    · have access : rows.hasAccess query.principal query.agentId = true :=
        entitled.resolve_left admin
      by_cases combined : combinedCheck = true
      · refine .last ?_
        simp [assertPrincipalAccess, admin, combined, found, access, resumeAccess,
          AccessRows.findPrincipalAccessCheck]
      · have goesOn : (assertPrincipalAccess config combinedCheck).resume query
            ((assertPrincipalAccess config combinedCheck).read rows query
              ((assertPrincipalAccess config combinedCheck).start query)) =
            .inl (.access ⟨query.agentId, .active⟩) := by
          simp [assertPrincipalAccess, admin, combined, found, resumeAccess]
        refine .next goesOn (.last ?_)
        simp [assertPrincipalAccess, access, resumeAccess]

theorem kept_of_not_taken {later : AccessRows} (kept : ¬AccessTaken rows later query) :
    (rows.Active query.agentId → later.Active query.agentId) ∧
      (rows.Entitled query → later.Entitled query) := by
  constructor
  · intro active
    by_contra lost
    exact kept (Or.inl ⟨active, lost⟩)
  · intro entitled
    by_contra lost
    exact kept (Or.inr ⟨entitled, lost⟩)

/-- What a check of access relies on. -/
def accessRules (config : CacheConfig) (combinedCheck : Bool) :
    CheckRules (assertPrincipalAccess config combinedCheck) where
  Alike := AskedAlike
  TakesAway := AccessTaken
  Backed := AccessBacked
  start _ query := by
    simp only [assertPrincipalAccess]
    split
    · trivial
    · split <;> trivial
  read := backed_read
  next := backed_next
  grant backed granted := grants_access.mpr (backed_grant backed granted)
  kept {_ _ _ stage} kept backed := by
    obtain ⟨active, entitled⟩ := kept_of_not_taken kept
    match stage, backed with
    | .reading .snapshot, _ => trivial
    | .reading .combined, _ => trivial
    | .reading (.access _), backed => exact active backed
    | .has (.snapshot _), backed => exact fun row found status => active (backed row found status)
    | .has (.combined _), backed =>
      exact fun row granted => ⟨active (backed row granted).1, entitled (backed row granted).2⟩
    | .has (.access _ _), backed =>
      exact ⟨active backed.1, fun access => entitled (backed.2 access)⟩
  granted kept grants := by
    obtain ⟨active, entitled⟩ := kept_of_not_taken kept
    have before := grants_access.mp grants
    exact grants_access.mpr ⟨active before.1, entitled before.2⟩
  alike {rows first second} alike _ _ _ grants := by
    have before := grants_access.mp grants
    have agents : first.agentId = second.agentId := alike.agent
    refine grants_access.mpr ⟨agents ▸ before.1, ?_⟩
    rcases before.2 with admin | access
    · exact Or.inl (alike.role admin)
    · right
      have same : rows.hasAccess second.principal second.agentId =
          rows.hasAccess first.principal first.agentId := by
        have types := alike.type
        have ids := alike.id
        rw [← agents]
        cases first with
        | mk principal agentId =>
          cases second with
          | mk other agentId' =>
            cases principal <;> cases other <;>
              simp_all [AccessRows.hasAccess, AgentAccessPrincipal.type, AgentAccessPrincipal.id]
      rw [same]
      exact access

theorem AccessRows.Entitled.mono {later : AccessRows} (entitled : rows.Entitled query)
    (kept : rows.hasAccess query.principal query.agentId = true →
      later.hasAccess query.principal query.agentId = true) : later.Entitled query := by
  rcases entitled with admin | access
  · exact Or.inl admin
  · exact Or.inr (kept access)

theorem clientAccess_update {clientId agentId id other : String} {value : Bool}
    (own : id = clientId ∧ other = agentId → value = true)
    (access : rows.clientAccess id other = true) :
    Function.update rows.clientAccess clientId
      (Function.update (rows.clientAccess clientId) agentId value) id other = true := by
  by_cases client : id = clientId
  · rw [client, Function.update_self]
    by_cases agent : other = agentId
    · rw [agent, Function.update_self]
      exact own ⟨client, agent⟩
    · rw [Function.update_of_ne agent, ← client]
      exact access
  · rw [Function.update_of_ne client]
    exact access

/-- Every change but the storing of an agent has the keys deleted of all the requests from which it
takes something away. -/
theorem covered_of_taken {change : AccessChange}
    (stores : ∀ agentId status, change ≠ .saveAgent agentId status)
    (taken : AccessTaken rows (change.apply rows) query) :
    ∃ covers, change.scope = some covers ∧
      covers (accessCacheKey query.principal.type query.principal.id query.agentId) = true := by
  cases change with
  | saveAgent agentId status => exact absurd rfl (stores agentId status)
  | blockUser userId => rcases taken with ⟨was, lost⟩ | ⟨was, lost⟩ <;> exact absurd was lost
  | deactivate agentId =>
    refine ⟨_, rfl, ?_⟩
    rcases taken with ⟨was, lost⟩ | ⟨was, lost⟩
    · have same : query.agentId = agentId := by
        by_contra other
        refine lost ?_
        simp only [AccessRows.Active, AccessChange.apply, Function.update_of_ne other]
        exact was
      rw [same]
      simp only [accessCacheKey, String.toList_append, List.isSuffixOf_iff_suffix]
      exact ⟨query.principal.type.toList ++ ":".toList ++ query.principal.id.toList, by simp⟩
    · exact absurd was lost
  | bindIfUnbound agentId userId =>
    rcases taken with ⟨was, lost⟩ | ⟨was, lost⟩
    · exact absurd was lost
    · refine absurd (was.mono fun access => ?_) lost
      cases found : query.principal with
      | client id => rwa [found] at access
      | user id role =>
        rw [found] at access
        have owner : rows.identities query.agentId = some id := of_decide_eq_true access
        have same : ((AccessChange.bindIfUnbound agentId userId).apply rows).identities
            query.agentId = some id := by
          simp only [AccessChange.apply]
          by_cases same : query.agentId = agentId
          · rw [← same, Function.update_self, owner]
            rfl
          · rw [Function.update_of_ne same, owner]
        exact decide_eq_true same
  | addAccess clientId agentId =>
    rcases taken with ⟨was, lost⟩ | ⟨was, lost⟩
    · exact absurd was lost
    · refine absurd (was.mono fun access => ?_) lost
      cases found : query.principal with
      | user id role => rwa [found] at access
      | client id =>
        rw [found] at access
        exact clientAccess_update (fun _ => rfl) access
  | removeAccess clientId agentId =>
    refine ⟨_, rfl, ?_⟩
    rcases taken with ⟨was, lost⟩ | ⟨was, lost⟩
    · exact absurd was lost
    · by_contra other
      refine lost (was.mono fun access => ?_)
      cases found : query.principal with
      | user id role => rwa [found] at access
      | client id =>
        rw [found] at access other
        refine clientAccess_update (fun same => ?_) access
        refine absurd ?_ other
        simp only [decide_eq_true_eq, AgentAccessPrincipal.type, AgentAccessPrincipal.id, same.1,
          same.2]

/-! ## What a check of a client's token relies on -/

/-- The row of the client is good for the token. -/
def Accepted (rows : String → Option (AccountStatus × Nat)) (query : SnapshotQuery) : Prop :=
  ∃ snapshot, freshSnapshot query (findActiveSnapshotById rows query.clientId) = .ok snapshot

/-- The row was good for the token and is so no more. -/
def AcceptanceTaken (rows later : String → Option (AccountStatus × Nat)) (query : SnapshotQuery) :
    Prop :=
  Accepted rows query ∧ ¬Accepted later query

/-- If the row that was read is good for the token, so is the row. -/
def SnapshotBacked (rows : String → Option (AccountStatus × Nat)) (query : SnapshotQuery) :
    CheckStage Unit (Option ClientActiveSnapshot) → Prop
  | .reading _ => True
  | .has found => ∀ snapshot, freshSnapshot query found = .ok snapshot → Accepted rows query

theorem grants_snapshot {clients : String → Option (AccountStatus × Nat)} {query : SnapshotQuery} :
    (getActiveClientSnapshot config).Grants clients query ↔ Accepted clients query := by
  constructor
  · rintro ⟨value, answers⟩
    cases answers with
    | last settles => exact ⟨value, Sum.inr.inj settles⟩
    | next goesOn _ => cases goesOn
  · rintro ⟨snapshot, accepted⟩
    exact ⟨snapshot, .last (congrArg Sum.inr accepted)⟩

theorem snapshot_key_injective {first second : SnapshotQuery}
    (cacheable : (getActiveClientSnapshot config).cacheable first = true)
    (cacheable' : (getActiveClientSnapshot config).cacheable second = true)
    (same : (getActiveClientSnapshot config).key first =
      (getActiveClientSnapshot config).key second) : first = second := by
  obtain ⟨clientId, version⟩ := first
  obtain ⟨clientId', version'⟩ := second
  simp only [getActiveClientSnapshot, Bool.and_eq_true, Option.isSome_iff_exists] at cacheable
  simp only [getActiveClientSnapshot, Bool.and_eq_true, Option.isSome_iff_exists] at cacheable'
  obtain ⟨-, number, rfl⟩ := cacheable
  obtain ⟨-, number', rfl⟩ := cacheable'
  simp only [getActiveClientSnapshot, Option.map_some, Option.getD_some] at same
  have digits (number : Nat) : (toString number).toList = decimal number := by
    simp [decimal, toString, Nat.repr]
  have chars := congrArg String.toList same
  rw [String.toList_append, String.toList_append, String.toList_append, String.toList_append,
    digits, digits, List.append_assoc, List.append_assoc] at chars
  obtain ⟨clients, versions⟩ :=
    split_last (not_mem_decimal (by decide)) (not_mem_decimal (by decide)) chars
  rw [String.toList_inj.mp clients, decimal_injective versions]

/-- What a check of a client's token relies on. -/
def snapshotRules (config : CacheConfig) : CheckRules (getActiveClientSnapshot config) where
  Alike _ _ := True
  TakesAway := AcceptanceTaken
  Backed := SnapshotBacked
  start _ _ := trivial
  read _ := fun snapshot accepted => ⟨snapshot, accepted⟩
  next _ goesOn := nomatch goesOn
  grant backed granted := grants_snapshot.mpr (backed _ (Sum.inr.inj granted))
  kept {_ _ _ stage} kept backed := by
    match stage, backed with
    | .reading _, _ => trivial
    | .has _, backed =>
      intro snapshot accepted
      by_contra lost
      exact kept ⟨backed snapshot accepted, lost⟩
  granted kept grants := by
    rw [grants_snapshot] at grants ⊢
    by_contra lost
    exact kept ⟨grants, lost⟩
  alike _ cacheable cacheable' same grants :=
    snapshot_key_injective cacheable cacheable' same ▸ grants

theorem covered_of_blocked {clients : String → Option (AccountStatus × Nat)} {clientId : String}
    {query : SnapshotQuery}
    (taken : AcceptanceTaken clients ((ClientChange.block clientId).apply clients) query) :
    ∃ covers, (ClientChange.block clientId).scope = some covers ∧
      covers ((getActiveClientSnapshot config).key query) = true := by
  refine ⟨_, rfl, ?_⟩
  have same : query.clientId = clientId := by
    by_contra other
    refine taken.2 ?_
    obtain ⟨snapshot, accepted⟩ := taken.1
    refine ⟨snapshot, ?_⟩
    rw [← accepted]
    simp only [findActiveSnapshotById, ClientChange.apply, Function.update_of_ne other]
  rw [same.symm]
  simp only [getActiveClientSnapshot, String.toList_append, List.isPrefixOf_iff_prefix]
  exact List.prefix_append _ _

/-! ## Both caches -/

/-- In every run in which no grant is stored that a deletion has overtaken, none is answered to a
principal who asks with a lesser role or before an outstanding deletion, and whatever takes a grant
away has its key deleted, both caches are coherent, in every state reached. -/
theorem caches_coherent_when_timely (config : CacheConfig) (combinedCheck : Bool)
    (rows : AccessRows) (actions : List (CheckAction AccessQuery AccessChange))
    (snapshotConfig : CacheConfig) (clients : String → Option (AccountStatus × Nat))
    (snapshotActions : List (CheckAction SnapshotQuery ClientChange)) :
    (Meets (CachedChecks.step (assertPrincipalAccess config combinedCheck))
        (CachedChecks.Timely (accessRules config combinedCheck))
        { data := rows, cache := { ttlMs := config.ttlMs, maxSize := config.maxSize } } actions →
      ∀ taken, taken <+: actions →
        CacheCoherent (assertPrincipalAccess config combinedCheck)
          (run (CachedChecks.step (assertPrincipalAccess config combinedCheck))
            { data := rows, cache := { ttlMs := config.ttlMs, maxSize := config.maxSize } }
            taken)) ∧
    (Meets (CachedChecks.step (getActiveClientSnapshot snapshotConfig))
        (CachedChecks.Timely (snapshotRules snapshotConfig))
        { data := clients,
          cache := { ttlMs := snapshotConfig.ttlMs, maxSize := snapshotConfig.maxSize } }
        snapshotActions →
      ∀ taken, taken <+: snapshotActions →
        CacheCoherent (getActiveClientSnapshot snapshotConfig)
          (run (CachedChecks.step (getActiveClientSnapshot snapshotConfig))
            { data := clients,
              cache := { ttlMs := snapshotConfig.ttlMs, maxSize := snapshotConfig.maxSize } }
            taken)) :=
  ⟨coherent_of_timely (accessRules config combinedCheck) rows config.ttlMs config.maxSize actions,
    coherent_of_timely (snapshotRules snapshotConfig) clients snapshotConfig.ttlMs
      snapshotConfig.maxSize snapshotActions⟩

/-- A configuration. -/
def sampleConfig : CacheConfig := ⟨1000, 100⟩

/-- A client has access to an active agent, which is bound to no user. -/
def sampleRows : AccessRows where
  agents _ := some .active
  identities _ := none
  clientAccess _ _ := true

/-- The client asks for the agent. -/
def clientQuery : AccessQuery := ⟨.client "c1", "a1"⟩

/-- Access is granted, then revoked, and asked for again. -/
def revokedInTime : List (CheckAction AccessQuery AccessChange) :=
  [.ask 0 clientQuery, .read 0, .resume 0, .write (.removeAccess "c1" "a1"), .invalidate 0,
    .ask 1 clientQuery]

/-- A client's token is good, then the client is blocked and asks again. -/
def blockedInTime : List (CheckAction SnapshotQuery ClientChange) :=
  [.ask 0 ⟨"c1", some 5⟩, .read 0, .resume 0, .write (.block "c1"), .invalidate 0,
    .ask 1 ⟨"c1", some 5⟩]

/-- The access cache, empty. -/
def emptyAccessCache (rows : AccessRows) :
    CachedChecks AccessRows AccessQuery AccessQuestion AccessResult AppError AgentAccessSnapshot
      String :=
  { data := rows, cache := { ttlMs := sampleConfig.ttlMs, maxSize := sampleConfig.maxSize } }

/-- The snapshot cache, empty. -/
def emptySnapshotCache (clients : String → Option (AccountStatus × Nat)) :
    CachedChecks (String → Option (AccountStatus × Nat)) SnapshotQuery Unit
      (Option ClientActiveSnapshot) AppError ClientActiveSnapshot String :=
  { data := clients, cache := { ttlMs := sampleConfig.ttlMs, maxSize := sampleConfig.maxSize } }

/-- Neither run stores a grant late, so the caches are coherent at the end of both. -/
theorem caches_coherent_in_time :
    CacheCoherent (assertPrincipalAccess sampleConfig true)
      (run (CachedChecks.step (assertPrincipalAccess sampleConfig true))
        (emptyAccessCache sampleRows) revokedInTime) ∧
    CacheCoherent (getActiveClientSnapshot sampleConfig)
      (run (CachedChecks.step (getActiveClientSnapshot sampleConfig))
        (emptySnapshotCache fun _ => some (.active, 5)) blockedInTime) := by
  have caches := caches_coherent_when_timely sampleConfig true sampleRows revokedInTime sampleConfig
    (fun _ => some (.active, 5)) blockedInTime
  constructor
  · refine caches.1 ⟨fun _ _ found => (nomatch found), trivial, ?_, fun _ taken => ?_, trivial,
      fun _ _ found => ?_, trivial⟩ _ (List.prefix_refl _)
    · intro _ _ _ _ _ _ _ _ _ _ member
      cases member
    · have gone : AccessTaken sampleRows
          ((AccessChange.removeAccess "c1" "a1").apply sampleRows) _ := taken
      exact covered_of_taken (by simp) gone
    · cases found
  · refine caches.2 ⟨fun _ _ found => (nomatch found), trivial, ?_, fun _ taken => ?_, trivial,
      fun _ _ found => ?_, trivial⟩ _ (List.prefix_refl _)
    · intro _ _ _ _ _ _ _ _ _ _ member
      cases member
    · exact covered_of_blocked taken
    · cases found

/-- The access is read, revoked and deleted from the cache before the check goes on and stores what
it read. -/
def storedAfterRevocation : List (CheckAction AccessQuery AccessChange) :=
  [.ask 0 clientQuery, .read 0, .write (.removeAccess "c1" "a1"), .invalidate 0, .resume 0,
    .ask 1 clientQuery]

/-- A user asks as an administrator and then without the role. -/
def askedAsAdministrator : List (CheckAction AccessQuery AccessChange) :=
  [.ask 0 ⟨.user "u1" (some "admin"), "a1"⟩, .read 0, .resume 0, .ask 1 ⟨.user "u1" none, "a1"⟩]

/-- A client's row is read, the client is blocked and its key deleted before the check goes on. -/
def storedAfterBlock : List (CheckAction SnapshotQuery ClientChange) :=
  [.ask 0 ⟨"c1", some 5⟩, .read 0, .write (.block "c1"), .invalidate 0, .resume 0,
    .ask 1 ⟨"c1", some 5⟩]

/-- A client keeps the access that was revoked, a user without access to the agent is given what an
administrator was given, and a blocked client's token stays good. -/
theorem caches_not_coherent :
    ¬CacheCoherent (assertPrincipalAccess sampleConfig true)
        (run (CachedChecks.step (assertPrincipalAccess sampleConfig true))
          (emptyAccessCache sampleRows) storedAfterRevocation) ∧
    ¬CacheCoherent (assertPrincipalAccess sampleConfig true)
        (run (CachedChecks.step (assertPrincipalAccess sampleConfig true))
          (emptyAccessCache sampleRows) askedAsAdministrator) ∧
    ¬CacheCoherent (getActiveClientSnapshot sampleConfig)
        (run (CachedChecks.step (getActiveClientSnapshot sampleConfig))
          (emptySnapshotCache fun _ => some (.active, 5)) storedAfterBlock) := by
  refine ⟨fun coherent => ?_, fun coherent => ?_, fun coherent => ?_⟩
  · have late := coherent.fresh _ (List.mem_of_getLast? rfl) _ rfl _ List.mem_cons_self (by decide)
    exact absurd late (by decide)
  · have granted := coherent.truthful _ (List.mem_of_getLast? rfl) rfl
    have entitled := (grants_access.mp granted).2
    exact absurd entitled (by rintro (admin | access) <;> contradiction)
  · have late := coherent.fresh _ (List.mem_of_getLast? rfl) _ rfl _ List.mem_cons_self (by decide)
    exact absurd late (by decide)

end PlugHub.AccessCaches
