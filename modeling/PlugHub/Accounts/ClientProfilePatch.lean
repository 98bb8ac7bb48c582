import PlugHub.Accounts.Operations
import PlugHub.Bridge.Responses

/-!
# Profile updates of a client

A client changes its own profile: a field that is given replaces the current one, and a null clears
a phone number or a picture. The record that is saved is made by spreading the current one and then
the fields that are defined, and a field that was cleared is not defined.
-/

namespace PlugHub.Accounts

/-- `Client`. -/
structure Client extends Account ClientProfile where
  id : String
  createdAt : Nat
  updatedAt : Nat
deriving DecidableEq

/-- `ClientAuthUserDto`; its role is always that of a client. -/
structure ClientAuthUserDto where
  id : String
  userId : String
  email : String
  name : String
  lastName : String
  mobile : Option String
  thumbnailUrl : Option String
  status : AccountStatus

/-- `toClientAuthUserDto`. -/
def toClientAuthUserDto (client : Client) : ClientAuthUserDto :=
  { id := client.id
    userId := client.profile.userId
    email := client.profile.email
    name := client.profile.name
    lastName := client.profile.lastName
    mobile := client.profile.mobile
    thumbnailUrl := client.profile.thumbnailUrl
    status := client.status }

/-- Why there is no active client. -/
inductive ActiveClientError where
  | notFound (resource : String)
  | forbidden (message : String)
deriving DecidableEq

/-- `assertClientCanLogin`. -/
def assertClientCanLogin (status : AccountStatus) : Except ActiveClientError Unit :=
  if status = .blocked then .error (.forbidden "Client account is blocked")
  else if status ≠ .active then .error (.forbidden "Client account is pending approval")
  else .ok ()

/-- `getActiveClient`, with the client that was loaded before and the one that is stored. -/
def getActiveClient (clientId : String) (preloaded stored : Option Client) :
    Except ActiveClientError Client :=
  match if preloaded.map (·.id) = some clientId then preloaded else stored with
  | none => .error (.notFound "Client")
  | some client =>
    match assertClientCanLogin client.status with
    | .error error => .error error
    | .ok () => .ok client

/-- What a profile update does. -/
structure ProfileOutcome where
  answer : Except ActiveClientError ClientAuthUserDto
  saved : Option Client := none
  deleted : Option String := none

/-- The record after the update. -/
def ProfileOutcome.record (outcome : ProfileOutcome) (current : Client) : Client :=
  outcome.saved.getD current

/-- The storage key in the address of a picture. -/
def storageKey (uploadsPublicBaseUrl thumbnailUrl : String) : String :=
  String.ofList (thumbnailUrl.toList.drop (uploadsPublicBaseUrl ++ "/").length)

/-- `updateMyProfile`. -/
def updateMyProfile (uploadsPublicBaseUrl clientId : String) (input : UpdateMyClientProfileInput)
    (preloaded stored : Option Client) (now : Nat) : ProfileOutcome :=
  match getActiveClient clientId preloaded stored with
  | .error error => { answer := .error error }
  | .ok current =>
    if input.changes current.profile then
      let updated := { current with profile := input.updated current.profile, updatedAt := now }
      { answer := .ok (toClientAuthUserDto updated)
        saved := some updated
        deleted :=
          if input.clearThumbnail then
            (current.profile.thumbnailUrl.filter fun url =>
              Bridge.startsWithText url (uploadsPublicBaseUrl ++ "/")).map
                (storageKey uploadsPublicBaseUrl)
          else none }
    else { answer := .ok (toClientAuthUserDto current) }

/-- What is promised of an update of a client: given fields are replaced, a null clears, nothing
else changes but the time of the update, the answer is the record, and a file that is deleted is no
longer referred to. -/
structure Patched (uploadsPublicBaseUrl : String) (current : Client)
    (input : UpdateMyClientProfileInput) (outcome : ProfileOutcome) : Prop where
  name : (outcome.record current).profile.name = input.name.getD current.profile.name
  lastName : (outcome.record current).profile.lastName =
    input.lastName.getD current.profile.lastName
  mobile : (outcome.record current).profile.mobile = input.mobile.getD current.profile.mobile
  thumbnailUrl : (outcome.record current).profile.thumbnailUrl =
    if input.clearThumbnail then none else current.profile.thumbnailUrl
  security : (outcome.record current).toSecurity = current.toSecurity
  owner : (outcome.record current).profile.userId = current.profile.userId ∧
    (outcome.record current).profile.email = current.profile.email
  identity : (outcome.record current).id = current.id ∧
    (outcome.record current).createdAt = current.createdAt
  returned : outcome.answer = .ok (toClientAuthUserDto (outcome.record current))
  deleted : ∀ key, outcome.deleted = some key →
    (outcome.record current).profile.thumbnailUrl ≠ some (uploadsPublicBaseUrl ++ "/" ++ key)

theorem unchanged_of_not_changes {input : UpdateMyClientProfileInput} {current : ClientProfile}
    (same : ¬ input.changes current = true) :
    input.name.getD current.name = current.name ∧
      input.lastName.getD current.lastName = current.lastName ∧
      input.mobile.getD current.mobile = current.mobile ∧
      (if input.clearThumbnail then none else current.thumbnailUrl) = current.thumbnailUrl := by
  simpa [UpdateMyClientProfileInput.changes, UpdateMyClientProfileInput.nextMobile,
    UpdateMyClientProfileInput.nextThumbnailUrl, and_assoc] using same

theorem spread_eq_iff {α : Type} (next current : Option α) :
    (next <|> current) = next ↔ (next = none → current = none) := by
  cases next with
  | none =>
    constructor
    · intro cleared _
      exact cleared
    · intro nothing
      exact nothing rfl
  | some value => exact iff_of_true rfl (fun refuted => by cases refuted)

/-- An update keeps the promises exactly when it clears nothing that the client has. -/
theorem patched_iff_nothing_to_clear (uploadsPublicBaseUrl clientId : String)
    (input : UpdateMyClientProfileInput) (preloaded stored : Option Client) (now : Nat)
    {current : Client} (active : getActiveClient clientId preloaded stored = .ok current) :
    Patched uploadsPublicBaseUrl current input
        (updateMyProfile uploadsPublicBaseUrl clientId input preloaded stored now) ↔
      (input.mobile = some none → current.profile.mobile = none) ∧
        (input.clearThumbnail = true → current.profile.thumbnailUrl = none) := by
  dsimp only [updateMyProfile]
  rw [active]
  dsimp only
  by_cases changes : input.changes current.profile = true
  · rw [if_pos changes]
    have mobile : (input.updated current.profile).mobile =
        input.mobile.getD current.profile.mobile ↔
        (input.mobile = some none → current.profile.mobile = none) := by
      have spread := spread_eq_iff (input.nextMobile current.profile) current.profile.mobile
      dsimp only [UpdateMyClientProfileInput.updated]
      rw [UpdateMyClientProfileInput.nextMobile] at spread ⊢
      rw [spread]
      cases input.mobile with
      | none | some given => simp
    have thumbnail : (input.updated current.profile).thumbnailUrl =
        (if input.clearThumbnail then none else current.profile.thumbnailUrl) ↔
        (input.clearThumbnail = true → current.profile.thumbnailUrl = none) := by
      have spread := spread_eq_iff (input.nextThumbnailUrl current.profile)
        current.profile.thumbnailUrl
      dsimp only [UpdateMyClientProfileInput.updated]
      rw [UpdateMyClientProfileInput.nextThumbnailUrl] at spread ⊢
      rw [spread]
      cases input.clearThumbnail with
      | false | true => simp
    constructor
    · intro patched
      exact ⟨mobile.mp patched.mobile, thumbnail.mp patched.thumbnailUrl⟩
    · rintro ⟨phone, picture⟩
      constructor
      case name => rfl
      case lastName => rfl
      case mobile => exact mobile.mpr phone
      case thumbnailUrl => exact thumbnail.mpr picture
      case security => rfl
      case owner => exact ⟨rfl, rfl⟩
      case identity => exact ⟨rfl, rfl⟩
      case returned => rfl
      case deleted =>
        intro key deleted
        -- A file is deleted only where there was a picture to clear.
        cases cleared : input.clearThumbnail with
        | false =>
          simp only [cleared] at deleted
          cases deleted
        | true =>
          simp only [cleared, picture cleared] at deleted
          cases deleted
  · rw [if_neg changes]
    obtain ⟨name, lastName, mobile, thumbnail⟩ := unchanged_of_not_changes changes
    apply iff_of_true
    · constructor
      case name => exact name.symm
      case lastName => exact lastName.symm
      case mobile => exact mobile.symm
      case thumbnailUrl => exact thumbnail.symm
      case security => rfl
      case owner => exact ⟨rfl, rfl⟩
      case identity => exact ⟨rfl, rfl⟩
      case returned => rfl
      case deleted =>
        intro key refuted
        cases refuted
    · constructor
      · intro cleared
        rw [cleared] at mobile
        exact mobile.symm
      · intro cleared
        rw [cleared] at thumbnail
        exact thumbnail.symm

/-- A client with a phone number and a picture. -/
def clientWithPicture : Client :=
  { passwordHash := "hash", credentialsUpdatedAt := 1, status := .active
    profile :=
      { userId := "owner", email := "client@example.test", name := "Ada", lastName := "Byron"
        mobile := some "+5511987654321", thumbnailUrl := some "/uploads/old.webp" }
    id := "client", createdAt := 1, updatedAt := 1 }

/-- A new name and a new phone number. -/
def nameAndMobile : UpdateMyClientProfileInput :=
  { name := some "Augusta", mobile := some (some "+5511912345678") }

/-- They replace the current ones. -/
theorem patched_name_and_mobile :
    Patched "/uploads" clientWithPicture nameAndMobile
      (updateMyProfile "/uploads" "client" nameAndMobile none (some clientWithPicture) 2) :=
  (patched_iff_nothing_to_clear "/uploads" "client" nameAndMobile none (some clientWithPicture) 2
    (by decide)).mpr (by decide)

/-- A cleared phone number stays. -/
theorem cleared_mobile_stays :
    ¬ Patched "/uploads" clientWithPicture { mobile := some none }
      (updateMyProfile "/uploads" "client" { mobile := some none } none (some clientWithPicture)
        2) := by
  intro patched
  have mobile := patched.mobile
  revert mobile
  decide

end PlugHub.Accounts
