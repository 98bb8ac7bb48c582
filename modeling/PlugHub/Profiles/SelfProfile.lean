import PlugHub.Library.OrderedMap
import PlugHub.Profiles.AgentProfile

/-!
# Writing a profile

`persistProfilePatch` reads the stored agent, decides what to do with the patch, and commits the
change in one transaction of the repository. What it decides is a function of its input, of the
agent that it read and of the clock; the commit is a step of the repository, in the version for the
database and in the version in memory.

The fingerprint of a patch is a digest of its canonical text, and a parameter here. The transaction
of the database takes effect as a whole: its conditional update locks the row and looks at the
version again. A value that its column does not take makes the transaction fail, and so does a user
of the last login that the table of users does not have; a query with a NUL in a text fails too.
-/

namespace PlugHub.Profiles

open Library

/-- Where an update comes from. -/
inductive AgentProfileUpdateSource where
  | http
  | socket
  | pullSync
deriving DecidableEq

/-- The input of `persistProfilePatch`. -/
structure PersistAgentProfilePatchInput where
  agentId : String
  patch : AgentSelfProfilePatch
  source : AgentProfileUpdateSource
  profileUpdatedAt : Option Nat := none
  lastLoginUserId : Option String := none
  remoteProfileVersion : Option Nat := none
  expectedProfileVersion : Option Nat := none
  dedupeKey : Option String := none
  idempotencyKey : Option String := none
  requestId : Option String := none

/-- Why a write fails. -/
inductive ProfileError where
  | badRequest (message : String)
  | conflict (message : String)
  | agentDocumentConflict
  | database

/-- The error is a conflict. -/
def ProfileError.IsConflict : ProfileError → Prop
  | conflict _ | agentDocumentConflict => True
  | _ => False

/-- What the repository is asked to commit. -/
structure AgentProfileCommitInput (φ : Type) where
  previousProfileVersion : Option Nat
  nextAgent : Agent
  actorUserId : Option String
  requestId : Option String
  idempotencyKey : Option String
  dedupeKey : Option String
  patchFingerprint : φ

/-- What the repository answers. -/
inductive AgentProfileCommitResult where
  | committed (agent : Agent)
  | idempotent (agent : Agent)
  | conflict (message : String)
  | documentNotUnique
  | failed

/-- What is decided about a patch. -/
inductive ProfilePlan (φ : Type) where
  | refuse (error : ProfileError)
  | keep (agent : Agent)
  | commit (input : AgentProfileCommitInput φ)

/-- The message for an expectation that is not met. -/
def expectedVersionMessage : String :=
  "expectedProfileVersion does not match current agent profile version"

/-- The message for a pulled profile of the same version with other content. -/
def splitBrainMessage : String :=
  "pull_sync profile_version matches server but profile content differs; " ++
    "resolve split-brain before retrying"

/-- The message for a record without a name. -/
def nameRequiredMessage : String :=
  "Agent profile name is required when creating a new catalog record"

/-- The message for a key that comes with another payload. -/
def reusedKeyMessage : String := "Idempotency key reused with a different profile payload"

/-- The message for a record that is gone. -/
def goneAfterLookupMessage : String := "Agent not found after idempotent lookup"

/-- The message for a version that changed in between. -/
def changedConcurrentlyMessage : String :=
  "Agent profile version changed concurrently or expected version mismatch"

namespace PersistAgentProfilePatchInput

variable {φ : Type} (fingerprint : AgentSelfProfilePatch → φ)
variable (input : PersistAgentProfilePatchInput)

/-- The time of the update that is stored. -/
def effectiveProfileUpdatedAt (existing : Option Agent) (now : Nat) : Nat :=
  match input.profileUpdatedAt with
  | some updatedAt => updatedAt
  | none =>
    let kept := if input.source = .pullSync then existing.bind (·.profileUpdatedAt) else none
    kept.getD now

/-- The record after the patch. -/
def patched (existing : Agent) (profileUpdatedAt : Option Nat) (lastLoginUserId : Option String)
    (profileVersion : Nat) : Agent :=
  agentWithStoredDocumentNormalized
    (existing.update input.patch profileUpdatedAt lastLoginUserId profileVersion)

/-- `createAgentFromPatch`, for a name that was trimmed. -/
def createAgentFromPatch (name : String) (profileUpdatedAt profileVersion : Nat) : Agent :=
  { agentId := input.agentId
    name
    fields := fun field =>
      if input.patch.addressCleared && field.inAddress then none
      else (input.patch.fields field).join
    profileUpdatedAt := some profileUpdatedAt
    profileVersion
    lastLoginUserId := input.lastLoginUserId
    status := .active }

/-- The commit of a record. -/
def commitOf (previousProfileVersion : Option Nat) (nextAgent : Agent) :
    AgentProfileCommitInput φ :=
  { previousProfileVersion
    nextAgent
    actorUserId := input.lastLoginUserId
    requestId := input.requestId
    idempotencyKey := input.idempotencyKey
    dedupeKey := input.dedupeKey
    patchFingerprint := fingerprint input.patch }

/-- The expectation of the caller is not met. -/
def unexpected (existing : Option Agent) : Bool :=
  match input.expectedProfileVersion, existing with
  | some expected, some agent => expected != agent.profileVersion
  | _, _ => false

/-- What becomes of a pulled profile that carries the version `remote`, before a commit. -/
def pulledVersion (existing : Agent) (remote : Nat) : Option (ProfilePlan φ) :=
  if remote < existing.profileVersion then some (.keep existing)
  else if remote = existing.profileVersion then
    let candidate := input.patched existing existing.profileUpdatedAt none existing.profileVersion
    if existing.agentsProfileCatalogContentEqual candidate then some (.keep existing)
    else some (.refuse (.conflict splitBrainMessage))
  else none

/-- What becomes of a pulled profile that carries no version, before a commit. -/
def pulledTimestamp (existing : Agent) (now : Nat) : Option (ProfilePlan φ) :=
  let effective := input.effectiveProfileUpdatedAt (some existing) now
  let candidate := input.patched existing (some effective) input.lastLoginUserId
    existing.profileVersion
  match input.profileUpdatedAt, existing.profileUpdatedAt with
  | none, some _ => some (.keep existing)
  | some updatedAt, some current =>
    if updatedAt < current then some (.keep existing)
    else if existing.agentsProfileCatalogContentEqual candidate &&
        existing.profileUpdatedAt = candidate.profileUpdatedAt &&
        existing.lastLoginUserId = candidate.lastLoginUserId then some (.keep existing)
    else none
  | _, none =>
    if existing.agentsProfileCatalogContentEqual candidate &&
        existing.profileUpdatedAt = candidate.profileUpdatedAt &&
        existing.lastLoginUserId = candidate.lastLoginUserId then some (.keep existing)
    else none

/-- What becomes of the patch before a commit is prepared. -/
def beforeCommit (existing : Option Agent) (now : Nat) : Option (ProfilePlan φ) :=
  match assertPatchTaxDocumentValid input.patch with
  | some refusal => some (.refuse (.badRequest refusal.message))
  | none =>
    if input.unexpected existing then some (.refuse (.conflict expectedVersionMessage))
    else match input.source, existing, input.remoteProfileVersion with
      | .pullSync, some agent, some remote => input.pulledVersion agent remote
      | .pullSync, some agent, none => input.pulledTimestamp agent now
      | _, _, _ => none

/-- The version of the stored record. -/
def nextProfileVersion (existing : Option Agent) : Nat :=
  match input.source, input.remoteProfileVersion, existing with
  | .pullSync, some remote, _ => remote
  | _, _, none => 1
  | _, _, some agent => agent.profileVersion + 1

/-- The record that the patch makes of the stored one, or creates: none without a name. -/
def nextAgent (existing : Option Agent) (now : Nat) : Option Agent :=
  let effective := input.effectiveProfileUpdatedAt existing now
  let version := input.nextProfileVersion existing
  match existing with
  | some agent => some (input.patched agent (some effective) input.lastLoginUserId version)
  | none =>
    let name := trim (input.patch.name.getD "").toList
    if name = [] then none
    else some (agentWithStoredDocumentNormalized
      (input.createAgentFromPatch (String.ofList name) effective version))

/-- `persistProfilePatch`, up to the commit. -/
def plan (existing : Option Agent) (now : Nat) : ProfilePlan φ :=
  match input.beforeCommit existing now with
  | some decided => decided
  | none =>
    match input.nextAgent existing now with
    | none => .refuse (.badRequest nameRequiredMessage)
    | some next => .commit (input.commitOf fingerprint (existing.map (·.profileVersion)) next)

end PersistAgentProfilePatchInput

/-- What the caller of `persistProfilePatch` gets for an answer of the repository. -/
def AgentProfileCommitResult.outcome : AgentProfileCommitResult → Except ProfileError Agent
  | committed agent => .ok agent
  | idempotent agent => .ok agent
  | conflict message => .error (.conflict message)
  | documentNotUnique => .error .agentDocumentConflict
  | failed => .error .database

/-! ## The repositories -/

/-- `anotherAgentOwnsDocument`. -/
def anotherAgentOwnsDocument (agents : OrderedMap String Agent) (agentId : String)
    (document : Option String) : Bool :=
  match document with
  | none => false
  | some document =>
    document ≠ "" && agents.values.any fun agent =>
      agent.agentId ≠ agentId && agent.document = some document

/-- A text has no NUL: the database takes no other text, in a row or in a query. -/
def storable (text : String) : Bool := text.toList.all fun char => char.toNat ≠ 0

/-- A text fits a column. -/
def fits (width : Nat) (text : Option String) : Bool :=
  text.all fun text => text.length ≤ width && storable text

/-- A column of the profile takes a text. -/
def ProfileField.takes (field : ProfileField) (text : String) : Bool :=
  match field.columnWidth? with
  | some width => fits width (some text)
  | none => text = "cpf" || text = "cnpj"

/-- The tables of the database. -/
structure PrismaAgentRepository (φ : Type) where
  /-- The ids of the table of users, which the user of a last login refers to. -/
  users : List String
  /-- The rows of the agents, by their ids. -/
  agents : OrderedMap String Agent := .empty
  /-- The recorded keys: for an agent and a key, the fingerprint and the resulting version. -/
  idempotencies : OrderedMap (String × String) (φ × Nat) := .empty
  /-- The revisions: an agent and a version. -/
  revisions : List (String × Nat) := []

/-- A dedupe key counts when it is not empty. -/
def dedupeKey? {φ : Type} (input : AgentProfileCommitInput φ) : Option String :=
  input.dedupeKey.filter (· ≠ "")

namespace PrismaAgentRepository

variable {φ : Type} [DecidableEq φ] (repository : PrismaAgentRepository φ)

/-- `findById`. -/
def findById (agentId : String) : Option Agent := repository.agents.get agentId

/-- The tables before any profile is written. -/
def initial (users : List String) : PrismaAgentRepository φ := { users }

/-- The table of the agents takes a row. -/
def takesRow (agent : Agent) : Bool :=
  fits 36 (some agent.agentId) && fits 120 (some agent.name) &&
    (ProfileField.all.all fun field => (agent.fields field).all field.takes) &&
    agent.profileVersion < 2 ^ 31 && agent.lastLoginUserId.all repository.users.contains

/-- The tables take the rows of a commit. -/
def takes (input : AgentProfileCommitInput φ) : Bool :=
  repository.takesRow input.nextAgent && fits 36 input.actorUserId &&
    fits 128 input.requestId && fits 256 input.idempotencyKey && fits 256 input.dedupeKey

/-- The rows of a change that is committed. -/
def written (input : AgentProfileCommitInput φ) : PrismaAgentRepository φ :=
  let agentId := input.nextAgent.agentId
  let recorded := (input.patchFingerprint, input.nextAgent.profileVersion)
  { users := repository.users
    agents := repository.agents.set agentId input.nextAgent
    idempotencies := match dedupeKey? input with
      | none => repository.idempotencies
      | some key => repository.idempotencies.set (agentId, key) recorded
    revisions := repository.revisions ++ [(agentId, input.nextAgent.profileVersion)] }

/-- The recorded key of a commit, if there is one. -/
def recorded (input : AgentProfileCommitInput φ) : Option (φ × Nat) :=
  (dedupeKey? input).bind fun key => repository.idempotencies.get (input.nextAgent.agentId, key)

/-- The part of the transaction after the lookup of the key. The document of a record that is
committed is digits, so its lookup does not fail. -/
def store (input : AgentProfileCommitInput φ) :
    PrismaAgentRepository φ × AgentProfileCommitResult :=
  let agentId := input.nextAgent.agentId
  if anotherAgentOwnsDocument repository.agents agentId input.nextAgent.document then
    (repository, .documentNotUnique)
  else match input.previousProfileVersion, repository.findById agentId with
    | none, some _ => (repository, .failed)
    | some _, none => (repository, .conflict changedConcurrentlyMessage)
    | previous, current =>
      if previous ≠ current.map (·.profileVersion) then
        (repository, .conflict changedConcurrentlyMessage)
      else if !repository.takes input then (repository, .failed)
      else if (agentId, input.nextAgent.profileVersion) ∈ repository.revisions then
        (repository, .failed)
      else (repository.written input, .committed input.nextAgent)

/-- `commitAgentProfileChange`. The key is looked up first, together with the agent. -/
def commitAgentProfileChange (input : AgentProfileCommitInput φ) :
    PrismaAgentRepository φ × AgentProfileCommitResult :=
  if !(storable input.nextAgent.agentId && (dedupeKey? input).all storable) then
    (repository, .failed)
  else match repository.recorded input with
  | none => repository.store input
  | some (patchFingerprint, _) =>
    if patchFingerprint ≠ input.patchFingerprint then (repository, .conflict reusedKeyMessage)
    else match repository.findById input.nextAgent.agentId with
      | none => (repository, .conflict goneAfterLookupMessage)
      | some agent => (repository, .idempotent agent)

/-- `update`, of the whole row: none when there is no such row, another agent has the document or
the table does not take the row. -/
def update (agent : Agent) : Option (PrismaAgentRepository φ) :=
  match repository.findById agent.agentId with
  | none => none
  | some _ =>
    if anotherAgentOwnsDocument repository.agents agent.agentId agent.document ||
        !repository.takesRow agent then none
    else some { repository with agents := repository.agents.set agent.agentId agent }

/-- `persistProfilePatch`, up to the commit, from the lookup of the agent. -/
def planFor (fingerprint : AgentSelfProfilePatch → φ) (input : PersistAgentProfilePatchInput)
    (now : Nat) : ProfilePlan φ :=
  if storable input.agentId then input.plan fingerprint (repository.findById input.agentId) now
  else match assertPatchTaxDocumentValid input.patch with
    | some refusal => .refuse (.badRequest refusal.message)
    | none => .refuse .database

end PrismaAgentRepository

/-- The repository in memory. -/
structure InMemoryAgentRepository (φ : Type) where
  agentsById : OrderedMap String Agent := .empty
  profileIdempotency : OrderedMap String (φ × Nat) := .empty

/-- The text under which the repository in memory records a key. -/
def idemKey (agentId dedupeKey : String) : String := agentId ++ "::" ++ dedupeKey

namespace InMemoryAgentRepository

variable {φ : Type} [DecidableEq φ] (repository : InMemoryAgentRepository φ)

/-- `findById`. -/
def findById (agentId : String) : Option Agent := repository.agentsById.get agentId

/-- The maps after a change that is committed. -/
def written (input : AgentProfileCommitInput φ) : InMemoryAgentRepository φ :=
  let agentId := input.nextAgent.agentId
  let recorded := (input.patchFingerprint, input.nextAgent.profileVersion)
  { agentsById := repository.agentsById.set agentId input.nextAgent
    profileIdempotency := match dedupeKey? input with
      | none => repository.profileIdempotency
      | some key => repository.profileIdempotency.set (idemKey agentId key) recorded }

/-- The recorded key of a commit, if there is one. -/
def recorded (input : AgentProfileCommitInput φ) : Option (φ × Nat) :=
  (dedupeKey? input).bind fun key =>
    repository.profileIdempotency.get (idemKey input.nextAgent.agentId key)

/-- The part of the commit after the lookup of the key. -/
def store (input : AgentProfileCommitInput φ) :
    InMemoryAgentRepository φ × AgentProfileCommitResult :=
  let agentId := input.nextAgent.agentId
  let taken := anotherAgentOwnsDocument repository.agentsById agentId input.nextAgent.document
  match input.previousProfileVersion with
  | none =>
    if taken then (repository, .documentNotUnique)
    else (repository.written input, .committed input.nextAgent)
  | some previous =>
    if (repository.findById agentId).map (·.profileVersion) ≠ some previous then
      (repository, .conflict changedConcurrentlyMessage)
    else if taken then (repository, .documentNotUnique)
    else (repository.written input, .committed input.nextAgent)

/-- `commitAgentProfileChange`. -/
def commitAgentProfileChange (input : AgentProfileCommitInput φ) :
    InMemoryAgentRepository φ × AgentProfileCommitResult :=
  match repository.recorded input with
  | none => repository.store input
  | some (patchFingerprint, _) =>
    if patchFingerprint ≠ input.patchFingerprint then (repository, .conflict reusedKeyMessage)
    else match repository.findById input.nextAgent.agentId with
      | none => (repository, .conflict goneAfterLookupMessage)
      | some agent => (repository, .idempotent agent)

/-- `update`. -/
def update (agent : Agent) : InMemoryAgentRepository φ :=
  { repository with agentsById := repository.agentsById.set agent.agentId agent }

end InMemoryAgentRepository

end PlugHub.Profiles
