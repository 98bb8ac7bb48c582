import Mathlib.Algebra.GroupWithZero.Nat
import PlugHub.Library.Text

/-!
# The profile of an agent

The catalog record of an agent, a patch of its profile, and what applying a patch gives. The
optional text columns of a profile are treated alike, so a profile is a name and a function from
the columns; a patch leaves a column alone, clears it or sets it, and may clear the whole address.

Tax documents are stored as digits only, and a submitted one must carry its check digits.
-/

namespace PlugHub.Profiles

open Library

/-- The optional columns of a profile. -/
inductive ProfileField where
  /-- `tradeName`. -/
  | tradeName
  /-- `document`. -/
  | document
  /-- `documentType`. -/
  | documentType
  /-- `phone`. -/
  | phone
  /-- `mobile`. -/
  | mobile
  /-- `email`. -/
  | email
  /-- `street`. -/
  | street
  /-- `number`. -/
  | number
  /-- `district`. -/
  | district
  /-- `postalCode`. -/
  | postalCode
  /-- `city`. -/
  | city
  /-- `state`. -/
  | state
  /-- `notes`. -/
  | notes
deriving DecidableEq

namespace ProfileField

/-- All columns. -/
def all : List ProfileField :=
  [tradeName, document, documentType, phone, mobile, email, street, number, district, postalCode,
    city, state, notes]

theorem mem_all (field : ProfileField) : field ∈ all := by
  cases field <;> decide

/-- The columns that make up the address. -/
def inAddress : ProfileField → Bool
  | street | number | district | postalCode | city | state => true
  | _ => false

/-- The width of the column in the database; an enumeration has none. -/
def columnWidth? : ProfileField → Option Nat
  | tradeName | street | district | city => some 120
  | document | phone | mobile | number | postalCode => some 20
  | email => some 255
  | state => some 2
  | notes => some 2000
  | documentType => none

end ProfileField

/-- The status of an agent. -/
inductive AgentStatus where
  | active
  | inactive
deriving DecidableEq

/-- The catalog record of an agent. -/
structure Agent where
  agentId : String
  name : String
  fields : ProfileField → Option String
  profileUpdatedAt : Option Nat
  profileVersion : Nat
  lastLoginUserId : Option String
  status : AgentStatus

/-- A patch of the profile. A column is left alone, cleared or set. -/
structure AgentSelfProfilePatch where
  name : Option String := none
  fields : ProfileField → Option (Option String) := fun _ => none
  addressCleared : Bool := false

/-- Functions of the columns are compared column by column. -/
instance {α : Type} [DecidableEq α] : DecidableEq (ProfileField → α) := fun left right =>
  decidable_of_iff (∀ field ∈ ProfileField.all, left field = right field)
    ⟨fun same => funext fun field => same field field.mem_all, fun same _ _ => congrFun same _⟩

deriving instance DecidableEq for Agent
deriving instance DecidableEq for AgentSelfProfilePatch

namespace Agent

/-- The document, if there is one. -/
def document (agent : Agent) : Option String := agent.fields .document

/-- The record with another status. -/
def withStatus (agent : Agent) (status : AgentStatus) : Agent := { agent with status }

/-- `deactivate`. -/
def deactivate (agent : Agent) : Agent := agent.withStatus .inactive

/-- What a patch makes of a column. -/
def patchedField (agent : Agent) (patch : AgentSelfProfilePatch) (field : ProfileField) :
    Option String :=
  if patch.addressCleared && field.inAddress then none
  else match patch.fields field with
    | none => agent.fields field
    | some change => change

/-- `update`, with the profile version and, where they are given, the time of the update and the
user of the last login. -/
def update (agent : Agent) (patch : AgentSelfProfilePatch) (profileUpdatedAt : Option Nat)
    (lastLoginUserId : Option String) (profileVersion : Nat) : Agent :=
  { agent with
    name := patch.name.getD agent.name
    fields := agent.patchedField patch
    profileUpdatedAt := profileUpdatedAt <|> agent.profileUpdatedAt
    lastLoginUserId := lastLoginUserId <|> agent.lastLoginUserId
    profileVersion }

/-- The record with another document. -/
def withDocument (agent : Agent) (document : Option String) : Agent :=
  { agent with
    fields := fun field => if field = .document then document else agent.fields field }

@[simp] theorem status_update (agent : Agent) (patch : AgentSelfProfilePatch)
    (profileUpdatedAt : Option Nat) (lastLoginUserId : Option String) (profileVersion : Nat) :
    (agent.update patch profileUpdatedAt lastLoginUserId profileVersion).status = agent.status :=
  rfl

@[simp] theorem agentId_update (agent : Agent) (patch : AgentSelfProfilePatch)
    (profileUpdatedAt : Option Nat) (lastLoginUserId : Option String) (profileVersion : Nat) :
    (agent.update patch profileUpdatedAt lastLoginUserId profileVersion).agentId = agent.agentId :=
  rfl

@[simp] theorem profileVersion_update (agent : Agent) (patch : AgentSelfProfilePatch)
    (profileUpdatedAt : Option Nat) (lastLoginUserId : Option String) (profileVersion : Nat) :
    (agent.update patch profileUpdatedAt lastLoginUserId profileVersion).profileVersion =
      profileVersion :=
  rfl

/-- The empty text counts as no text. -/
def norm : Option String → Option String
  | some "" => none
  | value => value

/-- A column has the same content in two records. -/
def sameField (left right : Agent) (field : ProfileField) : Bool :=
  if field = .documentType then left.fields field == right.fields field
  else norm (left.fields field) == norm (right.fields field)

/-- `agentsProfileCatalogContentEqual`. -/
def agentsProfileCatalogContentEqual (left right : Agent) : Bool :=
  left.name == right.name && ProfileField.all.all (sameField left right)

end Agent

/-! ## Tax documents -/

/-- The digits of a text. -/
def normalizeCnpjCpf (raw : String) : List Nat :=
  (raw.toList.filter Char.isDigit).map fun digit => digit.toNat - '0'.toNat

/-- The text of digits. -/
def digitsText (digits : List Nat) : String := String.ofList (digits.map Nat.digitChar)

/-- `normalizeAgentDocumentForStorage`. -/
def normalizeAgentDocumentForStorage (raw : Option String) : Option String :=
  match raw with
  | none => none
  | some raw =>
    let digits := normalizeCnpjCpf raw
    if digits.length = 0 then none else some (digitsText (digits.take 20))

/-- The check digit of digits under weights. -/
def calcDigit (digits weights : List Nat) : Nat :=
  let remainder := (List.zipWith (· * ·) digits weights).sum % 11
  if remainder < 2 then 0 else 11 - remainder

/-- All digits are the same. -/
def allSame (digits : List Nat) : Bool := digits.all fun digit => digit == digits.headD 0

/-- `isValidCpf`. -/
def isValidCpf (digits : List Nat) : Bool :=
  digits.length = 11 && !allSame digits &&
    calcDigit (digits.take 9) [10, 9, 8, 7, 6, 5, 4, 3, 2] = digits.getD 9 0 &&
    calcDigit (digits.take 10) [11, 10, 9, 8, 7, 6, 5, 4, 3, 2] = digits.getD 10 0

/-- `appendCnpjCheckDigits`, for twelve digits. -/
def appendCnpjCheckDigits (base : List Nat) : List Nat :=
  let withFirst := base ++ [calcDigit base [5, 4, 3, 2, 9, 8, 7, 6, 5, 4, 3, 2]]
  withFirst ++ [calcDigit withFirst [6, 5, 4, 3, 2, 9, 8, 7, 6, 5, 4, 3, 2]]

/-- `isValidCnpj`. -/
def isValidCnpj (digits : List Nat) : Bool :=
  digits.length = 14 && !allSame digits && appendCnpjCheckDigits (digits.take 12) = digits

/-- Why a document is refused. -/
inductive DocumentRefusal where
  | missingDigits
  | invalidCpf
  | invalidCnpj
  | invalidLength
deriving DecidableEq

/-- The message of a refusal. -/
def DocumentRefusal.message : DocumentRefusal → String
  | missingDigits => "Agent tax document must contain digits"
  | invalidCpf => "Invalid CPF"
  | invalidCnpj => "Invalid CNPJ"
  | invalidLength => "Agent tax document must be a valid CPF (11 digits) or CNPJ (14 digits)"

/-- `validateAgentDocumentChecksumForSubmittedValue`. -/
def validateAgentDocumentChecksumForSubmittedValue (digits : List Nat) : Option DocumentRefusal :=
  if digits.length = 11 then if isValidCpf digits then none else some .invalidCpf
  else if digits.length = 14 then if isValidCnpj digits then none else some .invalidCnpj
  else some .invalidLength

/-- `assertSubmittedAgentProfileDocumentValid`, for a document that is set: why it is refused. -/
def assertSubmittedAgentProfileDocumentValid (raw : String) : Option DocumentRefusal :=
  if trim raw.toList = [] then none
  else if (normalizeCnpjCpf raw).length = 0 then some .missingDigits
  else validateAgentDocumentChecksumForSubmittedValue ((normalizeCnpjCpf raw).take 20)

/-- `assertPatchTaxDocumentValid`: why a patch is refused. -/
def assertPatchTaxDocumentValid (patch : AgentSelfProfilePatch) : Option DocumentRefusal :=
  match patch.fields .document with
  | some (some raw) => assertSubmittedAgentProfileDocumentValid raw
  | _ => none

/-- `agentWithStoredDocumentNormalized`. -/
def agentWithStoredDocumentNormalized (agent : Agent) : Agent :=
  match agent.document with
  | none => agent
  | some _ => agent.withDocument (normalizeAgentDocumentForStorage agent.document)

@[simp] theorem status_agentWithStoredDocumentNormalized (agent : Agent) :
    (agentWithStoredDocumentNormalized agent).status = agent.status := by
  unfold agentWithStoredDocumentNormalized
  split <;> rfl

@[simp] theorem agentId_agentWithStoredDocumentNormalized (agent : Agent) :
    (agentWithStoredDocumentNormalized agent).agentId = agent.agentId := by
  unfold agentWithStoredDocumentNormalized
  split <;> rfl

@[simp] theorem profileVersion_agentWithStoredDocumentNormalized (agent : Agent) :
    (agentWithStoredDocumentNormalized agent).profileVersion = agent.profileVersion := by
  unfold agentWithStoredDocumentNormalized
  split <;> rfl

/-- A known CPF with its check digits, and one with a wrong digit. -/
example : assertSubmittedAgentProfileDocumentValid "529.982.247-25" = none ∧
    assertSubmittedAgentProfileDocumentValid "529.982.247-26" = some .invalidCpf := by decide

end PlugHub.Profiles
