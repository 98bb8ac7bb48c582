import PlugHub.Accounts.Operations

/-!
# Retries of a rejected registration

One user and its approval token, of which the database keeps at most one. A retry reads the user,
replaces the token, saves the row that it read as pending, and sends the email; when one of these
fails it deletes the token and saves the row as it was read. A decision is a transaction that looks
at the status of the user. An administrator blocks and unblocks the user, with a read and a save.

Every statement is a step of its own and can fail, and one that fails may have taken effect. The
state of a run keeps every status that was written over another, and by whom.
-/

namespace PlugHub.RegistrationRetry

open Library
open Accounts (Account AccountStatus)

/-! ## Rows and statements -/

/-- An approval token of the user. -/
structure ApprovalToken where
  id : Nat
  expiresAt : Int
deriving DecidableEq

/-- What a statement came to. -/
inductive StatementResult where
  | done
  | failed (tookEffect : Bool)
deriving DecidableEq

/-- The statement took effect. -/
def StatementResult.effective : StatementResult → Bool
  | .done => true
  | .failed tookEffect => tookEffect

/-- What is decided about a registration. -/
inductive UserDecision where
  | approve
  | reject
deriving DecidableEq

/-- The status that a decision gives. -/
def UserDecision.nextStatus : UserDecision → AccountStatus
  | .approve => .active
  | .reject => .rejected

/-- What a decision answers. -/
inductive RegistrationDecisionResult where
  | notFound
  | expired
  | notPending
  | decided (decision : UserDecision)

/-- Who wrote a status. -/
inductive Writer where
  | retry
  | decision
  | administrator
deriving DecidableEq

/-- A status that was written over another. -/
structure StatusWrite where
  writer : Writer
  before : AccountStatus
  after : AccountStatus
deriving DecidableEq

/-! ## Operations in progress -/

/-- Where a retry is. -/
inductive RetryPhase where
  | comparing
  /-- `replaceForUserRetry`. -/
  | replacing (token : ApprovalToken)
  | saving
  | emailing
  /-- The compensation deletes the token: `deleteByUserId`. -/
  | deleting
  | restoring
  | ended (retried : Option Bool)
deriving DecidableEq

/-- A retry. -/
structure Retry (π : Type) where
  user : Account π
  phase : RetryPhase := .comparing

/-- What an administrator asks for. -/
inductive AdminStatus where
  | active
  | blocked
deriving DecidableEq

/-- The status that an administrator gives. -/
def AdminStatus.status : AdminStatus → AccountStatus
  | .active => .active
  | .blocked => .blocked

/-- What the row that was read makes of the request: it is saved or not. -/
def AdminStatus.allowed : AdminStatus → AccountStatus → Bool
  | .blocked, status => status ≠ .blocked
  | .active, status => status = .blocked

/-- A change by an administrator that is to be saved. -/
structure AdminChange (π : Type) where
  user : Account π
  target : AdminStatus
  ended : Bool := false

/-- The user, the token and the operations. -/
structure Registration (π : Type) where
  user : Account π
  token : Option ApprovalToken
  nextToken : Nat
  retries : OrderedMap Nat (Retry π) := .empty
  nextRetry : Nat := 0
  changes : OrderedMap Nat (AdminChange π) := .empty
  nextChange : Nat := 0
  writes : List StatusWrite := []

/-- What happens to the registration. -/
inductive RegistrationAction where
  | retry
  /-- It has compared the password, which matches or not; its token expires then. -/
  | compared (number : Nat) (matched : Bool) (expiresAt : Int)
  | statement (number : Nat) (result : StatementResult)
  | emailed (number : Nat) (sent : Bool)
  | decide (tokenId : Nat) (decision : UserDecision) (now : Int)
  | administer (target : AdminStatus)
  | adminSaved (number : Nat) (result : StatementResult)

/-- `reopenRejectedUserRegistration`. -/
def reopenRejectedUserRegistration {π : Type} (user : Account π) : Option (Account π) :=
  if user.status = .rejected then some { user with status := .pending } else none

namespace Registration

/-- A user and its token before anything happens. -/
def start {π : Type} (user : Account π) (token : Option ApprovalToken) (nextToken : Nat) :
    Registration π :=
  { user, token, nextToken }

variable {π : Type} (registrationEmailAsync : Bool) (registration : Registration π)

/-- A row is saved: every column is written. -/
def save (writer : Writer) (user : Account π) : Registration π :=
  { registration with
    user
    writes := registration.writes ++ [⟨writer, registration.user.status, user.status⟩] }

/-- A retry goes on. -/
def setPhase (number : Nat) (retry : Retry π) (phase : RetryPhase) : Registration π :=
  { registration with retries := registration.retries.set number { retry with phase } }

/-- The effect of the statement that a retry waits for. -/
def effect (retry : Retry π) : Registration π :=
  match retry.phase with
  | .replacing token => { registration with token := some token }
  | .saving => (reopenRejectedUserRegistration retry.user).elim registration
    (registration.save .retry)
  | .deleting => { registration with token := none }
  | .restoring => registration.save .retry retry.user
  | _ => registration

/-- Where a retry is when the statement that it waits for has come to an end: the compensation
follows a failure of the first two, and nothing a failure of its own. -/
def afterStatement (done : Bool) : RetryPhase → RetryPhase
  | .replacing _ => if done then .saving else .deleting
  | .saving => if done then .emailing else .deleting
  | .deleting => if done then .restoring else .ended none
  | .restoring => if done then .ended (some false) else .ended none
  | phase => phase

/-- `decide`: the answer, the status of the user and the token. -/
def decideTxn (tokenId : Nat) (decision : UserDecision) (now : Int) :
    RegistrationDecisionResult × Registration π :=
  match registration.token with
  | none => (.notFound, registration)
  | some token =>
    if token.id ≠ tokenId then (.notFound, registration)
    else
      let consumed := { registration with token := none }
      if token.expiresAt < now then (.expired, consumed)
      else if registration.user.status ≠ .pending then (.notPending, consumed)
      else
        (.decided decision,
          consumed.save .decision { registration.user with status := decision.nextStatus })

/-- One step. -/
def step : RegistrationAction → Registration π
  | .retry =>
    if registration.user.status = .rejected then
      { registration with
        retries := registration.retries.set registration.nextRetry { user := registration.user }
        nextRetry := registration.nextRetry + 1 }
    else registration
  | .compared number matched expiresAt =>
    match registration.retries.get number with
    | none => registration
    | some retry =>
      if retry.phase = .comparing then
        if matched then
          { registration with nextToken := registration.nextToken + 1 }.setPhase number retry
            (.replacing ⟨registration.nextToken, expiresAt⟩)
        else registration.setPhase number retry (.ended (some false))
      else registration
  | .statement number result =>
    match registration.retries.get number with
    | none => registration
    | some retry =>
      (if result.effective then registration.effect retry else registration).setPhase number retry
        (afterStatement (result = .done) retry.phase)
  | .emailed number sent =>
    match registration.retries.get number with
    | none => registration
    | some retry =>
      if retry.phase = .emailing then
        if sent || registrationEmailAsync then
          registration.setPhase number retry (.ended (some true))
        else registration.setPhase number retry .deleting
      else registration
  | .decide tokenId decision now => (registration.decideTxn tokenId decision now).2
  | .administer target =>
    if target.allowed registration.user.status then
      { registration with
        changes := registration.changes.set registration.nextChange
          { user := registration.user, target }
        nextChange := registration.nextChange + 1 }
    else registration
  | .adminSaved number result =>
    match registration.changes.get number with
    | none => registration
    | some change =>
      if change.ended then registration
      else
        let ended :=
          { registration with
            changes := registration.changes.set number { change with ended := true } }
        if result.effective then
          ended.save .administrator { change.user with status := change.target.status }
        else ended

/-- What is promised. -/
structure Lawful : Prop where
  /-- No retry and no compensation has written over the status of an approved or blocked user. -/
  kept : ∀ write ∈ registration.writes, write.writer = .retry →
    write.before ≠ .active ∧ write.before ≠ .blocked
  /-- A pending user has a token, and can be decided with it until it expires. -/
  decidable : registration.user.status = .pending → ∃ token, registration.token = some token ∧
    ∀ decision now, now ≤ token.expiresAt →
      (registration.decideTxn token.id decision now).1 = .decided decision
  /-- No token decides a user that is not pending. -/
  unusable : registration.user.status ≠ .pending → ∀ tokenId decision now other,
    (registration.decideTxn tokenId decision now).1 ≠ .decided other

end Registration

/-- The statement of a retry writes over nothing that was decided since: a save as pending finds a
token, a deletion of the token finds a user that is not pending, and both saves find a user that
nobody has approved or blocked since it was read. -/
def SafeStatement {π : Type} (registration : Registration π) : RetryPhase → Prop
  | .saving => registration.token.isSome = true ∧
    registration.user.status ≠ .active ∧ registration.user.status ≠ .blocked
  | .deleting => registration.user.status ≠ .pending
  | .restoring => registration.user.status ≠ .active ∧ registration.user.status ≠ .blocked
  | _ => True

/-- No expired token is used while the user is pending, and the statements of the retries that take
effect write over nothing that was decided since. -/
def Undisturbed {π : Type} (registration : Registration π) : RegistrationAction → Prop
  | .decide tokenId _ now => ∀ token ∈ registration.token, token.id = tokenId →
    token.expiresAt < now → registration.user.status ≠ .pending
  | .statement number result => ∀ retry ∈ registration.retries.get number,
    result.effective = true → SafeStatement registration retry.phase
  | _ => True

instance {π : Type} (registration : Registration π) :
    ∀ phase, Decidable (SafeStatement registration phase)
  | .saving => inferInstanceAs (Decidable (_ ∧ _))
  | .deleting => inferInstanceAs (Decidable (_ ≠ _))
  | .restoring => inferInstanceAs (Decidable (_ ∧ _))
  | .comparing => inferInstanceAs (Decidable True)
  | .replacing _ => inferInstanceAs (Decidable True)
  | .emailing => inferInstanceAs (Decidable True)
  | .ended _ => inferInstanceAs (Decidable True)

instance {π : Type} (registration : Registration π) :
    ∀ action, Decidable (Undisturbed registration action)
  | .decide tokenId _ now => inferInstanceAs (Decidable (∀ token ∈ registration.token,
      token.id = tokenId → token.expiresAt < now → registration.user.status ≠ .pending))
  | .statement number result => inferInstanceAs (Decidable
      (∀ retry ∈ registration.retries.get number,
        result.effective = true → SafeStatement registration retry.phase))
  | .retry => inferInstanceAs (Decidable True)
  | .compared _ _ _ => inferInstanceAs (Decidable True)
  | .emailed _ _ => inferInstanceAs (Decidable True)
  | .administer _ => inferInstanceAs (Decidable True)
  | .adminSaved _ _ => inferInstanceAs (Decidable True)

/-! ## Steps -/

namespace Registration

section Steps

variable {π : Type} {registration : Registration π}

/-- What is promised, but for what every decision checks. -/
structure Core (registration : Registration π) : Prop where
  kept : ∀ write ∈ registration.writes, write.writer = .retry →
    write.before ≠ .active ∧ write.before ≠ .blocked
  token : registration.user.status = .pending → registration.token.isSome = true

theorem decideTxn_pending {token : ApprovalToken} (found : registration.token = some token)
    (pending : registration.user.status = .pending) (decision : UserDecision) {now : Int}
    (live : now ≤ token.expiresAt) :
    (registration.decideTxn token.id decision now).1 = .decided decision := by
  have unexpired : ¬ token.expiresAt < now := Int.not_lt.mpr live
  simp only [decideTxn, found, ne_eq, not_true_eq_false, if_false, unexpired, pending]

theorem decideTxn_not_pending (other : registration.user.status ≠ .pending) (tokenId : Nat)
    (decision : UserDecision) (now : Int) (made : UserDecision) :
    (registration.decideTxn tokenId decision now).1 ≠ .decided made := by
  unfold decideTxn
  intro decided
  split at decided
  · cases decided
  · simp only at decided
    split_ifs at decided

theorem lawful_iff : registration.Lawful ↔ registration.Core := by
  constructor
  · intro lawful
    refine ⟨lawful.kept, fun pending => ?_⟩
    obtain ⟨token, found, _⟩ := lawful.decidable pending
    rw [found]
    rfl
  · intro core
    refine ⟨core.kept, fun pending => ?_, fun other tokenId decision now made =>
      decideTxn_not_pending other tokenId decision now made⟩
    obtain ⟨token, found⟩ := Option.isSome_iff_exists.mp (core.token pending)
    exact ⟨token, found, fun decision now live => decideTxn_pending found pending decision live⟩

/-- The retries read a rejected user. -/
def Sound (registration : Registration π) : Prop :=
  ∀ number retry, registration.retries.get number = some retry → retry.user.status = .rejected

theorem retries_effect (retry : Retry π) :
    (registration.effect retry).retries = registration.retries := by
  unfold effect
  split
  · rfl
  · cases reopenRejectedUserRegistration retry.user with
    | none | some user => rfl
  · rfl
  · rfl
  · rfl

theorem Sound.setPhase (sound : registration.Sound) {number : Nat} {retry : Retry π}
    (read : retry.user.status = .rejected) (phase : RetryPhase) :
    (registration.setPhase number retry phase).Sound :=
  OrderedMap.forall_set read sound

/-- Every step keeps the users that the retries have read. -/
theorem Sound.step (sound : registration.Sound) (registrationEmailAsync : Bool)
    (action : RegistrationAction) : (registration.step registrationEmailAsync action).Sound := by
  cases action with
  | retry =>
    simp only [Registration.step]
    split_ifs with rejected
    · exact OrderedMap.forall_set rejected sound
    · exact sound
  | compared number matched expiresAt =>
    simp only [Registration.step]
    split
    · exact sound
    · rename_i retry found
      split_ifs
      · exact Sound.setPhase (fun other second there => sound other second there)
          (sound number retry found) _
      · exact sound.setPhase (sound number retry found) _
      · exact sound
  | statement number result =>
    simp only [Registration.step]
    split
    · exact sound
    · rename_i retry found
      refine Sound.setPhase ?_ (sound number retry found) _
      split_ifs
      · intro other second there
        rw [retries_effect] at there
        exact sound other second there
      · exact sound
  | emailed number sent =>
    simp only [Registration.step]
    split
    · exact sound
    · rename_i retry found
      split_ifs
      · exact sound.setPhase (sound number retry found) _
      · exact sound.setPhase (sound number retry found) _
      · exact sound
  | decide tokenId decision now =>
    simp only [Registration.step, decideTxn]
    split
    · exact sound
    · split_ifs
      · exact sound
      · exact sound
      · exact sound
      · exact sound
  | administer target =>
    simp only [Registration.step]
    split_ifs
    · exact sound
    · exact sound
  | adminSaved number result =>
    simp only [Registration.step]
    split
    · exact sound
    · split_ifs
      · exact sound
      · exact sound
      · exact sound

/-- A save is fit when it writes over no approved or blocked user, if it is that of a retry, and
leaves a pending user a token. -/
theorem core_save_iff (core : registration.Core) (writer : Writer) (user : Account π) :
    (registration.save writer user).Core ↔
      (writer = .retry → registration.user.status ≠ .active ∧
        registration.user.status ≠ .blocked) ∧
      (user.status = .pending → registration.token.isSome = true) := by
  constructor
  · intro after
    refine ⟨fun mine => ?_, after.token⟩
    exact after.kept ⟨writer, registration.user.status, user.status⟩
      (List.mem_append_right _ (List.mem_singleton.mpr rfl)) mine
  · rintro ⟨fit, token⟩
    exact ⟨forall_mem_concat core.kept fit, token⟩

theorem core_setPhase (number : Nat) (retry : Retry π) (phase : RetryPhase) :
    (registration.setPhase number retry phase).Core ↔ registration.Core :=
  ⟨fun core => ⟨core.kept, core.token⟩, fun core => ⟨core.kept, core.token⟩⟩

theorem core_effect_iff (core : registration.Core) {retry : Retry π}
    (read : retry.user.status = .rejected) :
    (registration.effect retry).Core ↔ SafeStatement registration retry.phase := by
  cases shape : retry.phase with
  | comparing =>
    simp only [effect, shape, SafeStatement, iff_true]
    exact core
  | replacing token =>
    simp only [effect, shape, SafeStatement, iff_true]
    exact ⟨core.kept, fun _ => rfl⟩
  | saving =>
    have pending : reopenRejectedUserRegistration retry.user =
        some { retry.user with status := .pending } := if_pos read
    simp only [effect, shape, SafeStatement, pending, Option.elim_some]
    rw [core_save_iff core]
    simp only [forall_const]
    exact and_comm
  | emailing =>
    simp only [effect, shape, SafeStatement, iff_true]
    exact core
  | deleting =>
    simp only [effect, shape, SafeStatement]
    constructor
    · intro after pending
      cases after.token pending
    · intro other
      exact ⟨core.kept, fun pending => absurd pending other⟩
  | restoring =>
    simp only [effect, shape, SafeStatement]
    rw [core_save_iff core, read]
    simp
  | ended retried =>
    simp only [effect, shape, SafeStatement, iff_true]
    exact core

theorem core_decide_iff (core : registration.Core) (tokenId : Nat) (decision : UserDecision)
    (now : Int) : (registration.decideTxn tokenId decision now).2.Core ↔
      Undisturbed registration (.decide tokenId decision now) := by
  unfold decideTxn
  cases found : registration.token with
  | none =>
    simp only [Undisturbed, found, Option.mem_def, reduceCtorEq, false_implies, implies_true,
      iff_true]
    exact core
  | some token =>
    simp only [Undisturbed, found, Option.mem_def, Option.some.injEq, forall_eq']
    split_ifs with other expired notPending
    · exact iff_of_true core fun same => absurd same other
    · constructor
      · intro after _ _ pending
        cases after.token pending
      · intro fine
        exact ⟨core.kept, fun pending => absurd pending (fine (not_not.mp other) expired)⟩
    · exact iff_of_true ⟨core.kept, fun pending => absurd pending notPending⟩
        fun _ refuted => absurd refuted expired
    · refine iff_of_true ⟨forall_mem_concat core.kept fun mine => ?_, fun pending => ?_⟩
        fun _ refuted => absurd refuted expired
      · cases mine
      · cases decision with
        | approve | reject => cases pending

/-- A step keeps the core exactly when it is undisturbed. -/
theorem core_step_iff (sound : registration.Sound) (core : registration.Core)
    (registrationEmailAsync : Bool) (action : RegistrationAction) :
    Undisturbed registration action ↔ (registration.step registrationEmailAsync action).Core := by
  cases action with
  | retry =>
    refine iff_of_true trivial ?_
    simp only [step]
    split_ifs
    · exact ⟨core.kept, core.token⟩
    · exact core
  | compared number matched expiresAt =>
    refine iff_of_true trivial ?_
    simp only [step]
    split
    · exact core
    · split_ifs
      · exact ⟨core.kept, core.token⟩
      · exact ⟨core.kept, core.token⟩
      · exact core
  | statement number result =>
    simp only [step, Undisturbed]
    cases found : registration.retries.get number with
    | none =>
      simp only [Option.mem_def, reduceCtorEq, false_implies, implies_true, true_iff]
      exact core
    | some retry =>
      simp only [Option.mem_def, Option.some.injEq, forall_eq']
      rw [core_setPhase]
      split_ifs with effective
      · simp only [effective, true_implies]
        exact (core_effect_iff core (sound number retry found)).symm
      · exact iff_of_true (fun refuted => absurd refuted effective) core
  | emailed number sent =>
    refine iff_of_true trivial ?_
    simp only [step]
    split
    · exact core
    · split_ifs
      · exact ⟨core.kept, core.token⟩
      · exact ⟨core.kept, core.token⟩
      · exact core
  | decide tokenId decision now => exact (core_decide_iff core tokenId decision now).symm
  | administer target =>
    refine iff_of_true trivial ?_
    simp only [step]
    split_ifs
    · exact ⟨core.kept, core.token⟩
    · exact core
  | adminSaved number result =>
    refine iff_of_true trivial ?_
    simp only [step]
    split
    · exact core
    · rename_i change _
      split_ifs
      · exact core
      · have ended : Core { registration with
            changes := registration.changes.set number { change with ended := true } } :=
          ⟨core.kept, core.token⟩
        rw [core_save_iff ended]
        refine ⟨(fun refuted => by cases refuted), fun pending => ?_⟩
        cases shape : change.target with
        | active =>
          simp only [shape] at pending
          cases pending
        | blocked =>
          simp only [shape] at pending
          cases pending
      · exact ⟨core.kept, core.token⟩

end Steps

end Registration

open Registration

/-! ## Runs -/

/-- The runs whose steps are all undisturbed are those in which the promises are kept in every
state. -/
theorem registration_lawful_iff_undisturbed {π : Type} (registrationEmailAsync : Bool)
    (user : Account π) (token : Option ApprovalToken) (nextToken : Nat)
    (ready : user.status = .pending → token.isSome = true) (actions : List RegistrationAction) :
    Meets (Registration.step registrationEmailAsync) Undisturbed
        (start user token nextToken) actions ↔
      ∀ taken, taken <+: actions → (run (Registration.step registrationEmailAsync)
        (start user token nextToken) taken).Lawful := by
  have keeps : ∀ (registration : Registration π) (action : RegistrationAction),
      registration.Sound → registration.Lawful → Undisturbed registration action →
        (registration.step registrationEmailAsync action).Sound :=
    fun _ action sound _ _ => sound.step registrationEmailAsync action
  have decides : ∀ (registration : Registration π) (action : RegistrationAction),
      registration.Sound → registration.Lawful → (Undisturbed registration action ↔
        (registration.step registrationEmailAsync action).Lawful) := by
    intro registration action sound lawful
    rw [lawful_iff]
    exact core_step_iff sound (lawful_iff.mp lawful)
      registrationEmailAsync action
  have initially : (start user token nextToken).Sound := by
    intro _ _ found
    cases found
  have fine : (start user token nextToken).Lawful := by
    rw [lawful_iff]
    exact ⟨(fun _ member => by cases member), ready⟩
  exact meets_iff_every_state _ keeps decides initially fine actions

/-- A rejected user. -/
def rejectedUser : Account Unit := ⟨⟨"hash", 0, .rejected⟩, ()⟩

/-- A rejected user is retried and approved. -/
def retriedActions : List RegistrationAction :=
  [.retry, .compared 0 true 100, .statement 0 .done, .statement 0 .done, .emailed 0 true,
    .decide 0 .approve 50]

/-- The promises are kept. -/
theorem registration_lawful_retried :
    (run (Registration.step true) (start rejectedUser none 0)
      retriedActions).Lawful :=
  (registration_lawful_iff_undisturbed true rejectedUser none 0 (fun refuted => by cases refuted)
    retriedActions).mp (by decide) retriedActions (List.prefix_refl _)

/-- Two retries read the rejected user; one is approved before the other saves. -/
def overlappingRetries : List RegistrationAction :=
  [.retry, .retry, .compared 0 true 100, .statement 0 .done, .statement 0 .done, .emailed 0 true,
    .decide 0 .approve 50, .compared 1 true 200, .statement 1 .done, .statement 1 .done]

/-- The approved user is pending again. -/
theorem overlapping_retries_reopen_approved :
    ¬ (run (Registration.step true) (start rejectedUser none 0)
        overlappingRetries).Lawful := by
  intro lawful
  have written : StatusWrite.mk .retry .active .pending ∈ (run (Registration.step true)
      (start rejectedUser none 0) overlappingRetries).writes := by decide
  exact (lawful.kept _ written rfl).1 rfl

end PlugHub.RegistrationRetry
