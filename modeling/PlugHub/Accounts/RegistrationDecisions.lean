import Mathlib.Data.Int.Order.Basic
import PlugHub.Accounts.RegistrationRetry

/-!
# Decisions about registrations

The decision about the registration of a user or of a client exists twice for each: as a transaction
of the database, and in memory. Both look the token up, compare its expiry with the time, read the
account (and, of a client, the owner), write the status and delete the token, each in a step of its
own. The write in the database asks for the status once more; in memory one decision waits for the
ones before it.

The state is that of one account and its token. Times are those at which the expiry is compared.
-/

namespace PlugHub.RegistrationDecisions

open Library
open Accounts (Account AccountStatus)
open RegistrationRetry (UserDecision)

/-- `hashRegistrationToken`: SHA-256, of which no collision is known. -/
structure TokenDigest where
  hash : String → String
  injective : ∀ first second, hash first = hash second → first = second

/-- An approval token, with the id that its owner was given. -/
structure ApprovalToken where
  id : String
  expiresAt : Int
deriving DecidableEq

/-- An account, its owner and its token. -/
structure Registration (π : Type) where
  account : Option (Account π)
  owner : Option AccountStatus := none
  token : Option ApprovalToken
deriving DecidableEq

/-- The token is deleted. -/
def Registration.consumed {π : Type} (registration : Registration π) : Registration π :=
  { registration with token := none }

/-- What a decision answers. -/
inductive DecisionResult (π : Type) where
  | notFound
  | expired
  | accountNotFound
  | ownerInactive
  | notPending
  | decided (decision : UserDecision) (account : Account π)
deriving DecidableEq

/-- What a decision is asked with. -/
inductive DecisionPath where
  | token (tokenId : String)
  | client
deriving DecidableEq

/-- Where a decision is. -/
inductive DecisionPhase (π : Type) where
  | waiting
  | reading
  /-- It has read the account, and asks for the owner and for the status. -/
  | checking (account : Account π)
  | writing (account : Account π)
  | consuming (account : Account π)
  | ended (result : DecisionResult π)
deriving DecidableEq

/-- A decision. -/
structure Decision (π : Type) where
  path : DecisionPath
  decision : UserDecision
  phase : DecisionPhase π := .waiting

/-- How the transactions differ. -/
structure DecisionTxn where
  /-- The token with this id is found with the one that is given. -/
  finds : String → String → Bool
  isExpired : Int → Int → Bool
  asksOwner : Bool
  conditional : Bool
  exclusive : Bool

section Transactions

variable (digest : TokenDigest)

/-- The row has the digest of the id that was given out, and is found with that id or with its
own. -/
def findsHashed (id tokenId : String) : Bool :=
  digest.hash id = digest.hash tokenId ∨ digest.hash id = tokenId

/-- `PrismaRegistrationDecisionTxn`. -/
def prismaRegistrationDecisionTxn : DecisionTxn where
  finds := findsHashed digest
  isExpired expiresAt now := expiresAt < now
  asksOwner := false
  conditional := true
  exclusive := false

/-- `InMemoryRegistrationDecisionTxn`; its repository has the digests as keys. -/
def inMemoryRegistrationDecisionTxn : DecisionTxn where
  finds := findsHashed digest
  isExpired expiresAt now := expiresAt ≤ now
  asksOwner := false
  conditional := false
  exclusive := true

/-- `PrismaClientRegistrationDecisionTxn`. -/
def prismaClientRegistrationDecisionTxn : DecisionTxn where
  finds := findsHashed digest
  isExpired expiresAt now := expiresAt < now
  asksOwner := true
  conditional := true
  exclusive := false

/-- `InMemoryClientRegistrationDecisionTxn`; its repository has the ids that were given out as
keys. -/
def inMemoryClientRegistrationDecisionTxn : DecisionTxn where
  finds id tokenId := id = tokenId
  isExpired expiresAt now := expiresAt ≤ now
  asksOwner := true
  conditional := false
  exclusive := true

end Transactions

/-! ## Steps -/

section Steps

variable {π : Type}

/-- The status that was decided. -/
def decidedAccount (decision : UserDecision) (account : Account π) : Account π :=
  { account with status := decision.nextStatus }

/-- One step of a decision. -/
def DecisionTxn.advance (txn : DecisionTxn) (now : Int) (registration : Registration π)
    (decision : Decision π) : DecisionPhase π × Registration π :=
  match decision.phase with
  | .waiting =>
    match decision.path with
    | .client => (.reading, registration)
    | .token tokenId =>
      match registration.token.filter fun token => txn.finds token.id tokenId with
      | none => (.ended .notFound, registration)
      | some token =>
        if txn.isExpired token.expiresAt now then (.ended .expired, registration.consumed)
        else (.reading, registration)
  | .reading =>
    match registration.account with
    | none => (.ended .accountNotFound, registration.consumed)
    | some account => (.checking account, registration)
  | .checking account =>
    if txn.asksOwner ∧ registration.owner ≠ some .active then (.ended .ownerInactive, registration)
    else if account.status ≠ .pending then (.ended .notPending, registration.consumed)
    else (.writing account, registration)
  | .writing account =>
    if txn.conditional then
      match registration.account with
      | none => (.ended .notPending, registration.consumed)
      | some current =>
        if current.status = .pending then
          (.consuming (decidedAccount decision.decision current),
            { registration with account := some (decidedAccount decision.decision current) })
        else (.ended .notPending, registration.consumed)
    else
      (.consuming (decidedAccount decision.decision account),
        { registration with account := some (decidedAccount decision.decision account) })
  | .consuming account => (.ended (.decided decision.decision account), registration.consumed)
  | .ended result => (.ended result, registration)

/-- Steps of a decision when nothing else happens. -/
def DecisionTxn.advances (txn : DecisionTxn) (now : Int) : Nat → Decision π → Registration π →
    DecisionPhase π × Registration π
  | 0, decision, registration => (decision.phase, registration)
  | count + 1, decision, registration =>
    txn.advances now count
      { decision with phase := (txn.advance now registration decision).1 }
      (txn.advance now registration decision).2

/-- A decision that is made alone; no decision takes more than five steps. -/
def DecisionTxn.decide (txn : DecisionTxn) (path : DecisionPath) (decision : UserDecision)
    (now : Int) (registration : Registration π) : DecisionPhase π × Registration π :=
  txn.advances now 5 { path, decision } registration

/-- What a decision comes to once the token is found. -/
def settle (asksOwner : Bool) (decision : UserDecision) (registration : Registration π) :
    DecisionResult π × Registration π :=
  match registration.account with
  | none => (.accountNotFound, registration.consumed)
  | some account =>
    if asksOwner ∧ registration.owner ≠ some .active then (.ownerInactive, registration)
    else if account.status ≠ .pending then (.notPending, registration.consumed)
    else
      (.decided decision (decidedAccount decision account),
        { registration with account := some (decidedAccount decision account), token := none })

variable (txn : DecisionTxn)

theorem advances_ended (now : Int) (count : Nat) (decision : Decision π)
    (registration : Registration π) {result : DecisionResult π}
    (ended : decision.phase = .ended result) :
    txn.advances now count decision registration = (.ended result, registration) := by
  induction count generalizing decision with
  | zero => rw [DecisionTxn.advances, ended]
  | succ count ih =>
    rw [DecisionTxn.advances, DecisionTxn.advance, ended]
    exact ih _ rfl

theorem advances_reading (path : DecisionPath) (decision : UserDecision)
    (now : Int) (registration : Registration π) :
    txn.advances now 4 { path, decision, phase := .reading } registration =
      (.ended (settle txn.asksOwner decision registration).1,
        (settle txn.asksOwner decision registration).2) := by
  rw [DecisionTxn.advances, settle]
  dsimp only [DecisionTxn.advance]
  cases read : registration.account with
  | none => exact advances_ended _ _ _ _ _ rfl
  | some account =>
    rw [DecisionTxn.advances]
    dsimp only [DecisionTxn.advance]
    by_cases owner : txn.asksOwner = true ∧ registration.owner ≠ some .active
    · rw [if_pos owner, if_pos owner]
      exact advances_ended _ _ _ _ _ rfl
    · rw [if_neg owner, if_neg owner]
      by_cases pending : account.status ≠ .pending
      · rw [if_pos pending, if_pos pending]
        exact advances_ended _ _ _ _ _ rfl
      · rw [if_neg pending, if_neg pending]
        simp only [DecisionTxn.advances, DecisionTxn.advance, read, if_pos (not_not.mp pending),
          ite_self, Registration.consumed]

theorem decide_token (tokenId : String) (decision : UserDecision) (now : Int)
    (registration : Registration π) :
    txn.decide (.token tokenId) decision now registration =
      match registration.token.filter fun token => txn.finds token.id tokenId with
      | none => (.ended .notFound, registration)
      | some token =>
        if txn.isExpired token.expiresAt now then (.ended .expired, registration.consumed)
        else
          (.ended (settle txn.asksOwner decision registration).1,
            (settle txn.asksOwner decision registration).2) := by
  rw [DecisionTxn.decide, DecisionTxn.advances]
  dsimp only [DecisionTxn.advance]
  cases registration.token.filter fun token => txn.finds token.id tokenId with
  | none => exact advances_ended _ _ _ _ _ rfl
  | some token =>
    dsimp only
    by_cases expired : txn.isExpired token.expiresAt now = true
    · rw [if_pos expired, if_pos expired]
      exact advances_ended _ _ _ _ _ rfl
    · rw [if_neg expired, if_neg expired]
      exact advances_reading txn _ decision now registration

theorem decide_client (decision : UserDecision) (now : Int)
    (registration : Registration π) :
    txn.decide .client decision now registration =
      (.ended (settle txn.asksOwner decision registration).1,
        (settle txn.asksOwner decision registration).2) := by
  rw [DecisionTxn.decide, DecisionTxn.advances]
  exact advances_reading txn _ decision now registration

theorem settle_ne (asksOwner : Bool) (decision : UserDecision) (registration : Registration π) :
    (settle asksOwner decision registration).1 ≠ .expired ∧
      (settle asksOwner decision registration).1 ≠ .notFound := by
  unfold settle
  cases registration.account with
  | none => exact ⟨(fun refuted => by cases refuted), fun refuted => by cases refuted⟩
  | some account =>
    dsimp only
    split_ifs
    all_goals exact ⟨(fun refuted => by cases refuted), fun refuted => by cases refuted⟩

end Steps

/-! ## The two transactions of a kind -/

/-- Two transactions that differ in how a token is found and in whether it has expired when its
expiry is now answer the same exactly when both find the token or neither does, and it does not
expire now. -/
theorem decide_token_eq_iff {π : Type} {database memory : DecisionTxn}
    (owner : database.asksOwner = memory.asksOwner)
    (before : ∀ expiresAt now, database.isExpired expiresAt now = decide (expiresAt < now))
    (reopens : ∀ expiresAt now, memory.isExpired expiresAt now = decide (expiresAt ≤ now))
    (registration : Registration π) (tokenId : String) (decision : UserDecision) (now : Int) :
    database.decide (.token tokenId) decision now registration =
        memory.decide (.token tokenId) decision now registration ↔
      ∀ token ∈ registration.token,
        database.finds token.id tokenId = memory.finds token.id tokenId ∧
          (memory.finds token.id tokenId = true → token.expiresAt ≠ now) := by
  obtain ⟨notExpired, found⟩ := settle_ne memory.asksOwner decision registration
  rw [decide_token, decide_token, owner]
  cases stored : registration.token with
  | none => exact iff_of_true rfl fun token member => by cases member
  | some token =>
    simp only [Option.filter_some, Option.mem_some_iff, forall_eq', before, reopens]
    cases database.finds token.id tokenId with
    | false =>
      cases memory.finds token.id tokenId with
      | false => simp
      | true =>
        refine iff_of_false ?_ (fun refuted => by cases refuted.1)
        simp only [Bool.false_eq_true, if_false, if_true]
        split_ifs
        · intro refuted
          cases refuted
        · intro refuted
          exact found (DecisionPhase.ended.inj (congrArg Prod.fst refuted)).symm
    | true =>
      cases memory.finds token.id tokenId with
      | false =>
        refine iff_of_false ?_ (fun refuted => by cases refuted.1)
        simp only [Bool.false_eq_true, if_false, if_true]
        split_ifs
        · intro refuted
          cases refuted
        · intro refuted
          exact found (DecisionPhase.ended.inj (congrArg Prod.fst refuted))
      | true =>
        simp only [if_true, decide_eq_true_eq, true_and, forall_const]
        by_cases past : token.expiresAt < now
        · rw [if_pos past, if_pos (le_of_lt past)]
          exact iff_of_true rfl (ne_of_lt past)
        · rw [if_neg past]
          by_cases instant : token.expiresAt = now
          · rw [if_pos (le_of_eq instant)]
            refine iff_of_false ?_ (not_not.mpr instant)
            intro refuted
            exact notExpired (DecisionPhase.ended.inj (congrArg Prod.fst refuted))
          · rw [if_neg (by omega)]
            exact iff_of_true rfl instant

/-! ## Any order of steps -/

/-- The status was written by this decision. -/
def DecisionPhase.hasDecided {π : Type} : DecisionPhase π → Bool
  | .consuming _ => true
  | .ended (.decided _ _) => true
  | _ => false

/-- The decision has ended. -/
def DecisionPhase.hasEnded {π : Type} : DecisionPhase π → Bool
  | .ended _ => true
  | _ => false

/-- A registration and the decisions about it. -/
structure Decisions (π : Type) where
  registration : Registration π
  decisions : List (Decision π) := []

/-- What happens. -/
inductive DecisionAction where
  | ask (path : DecisionPath) (decision : UserDecision)
  | advance (number : Nat) (now : Int)

section Runs

variable {π : Type}

/-- One step; with `runExclusive` a decision takes none until those before it have ended. -/
def Decisions.step (txn : DecisionTxn) (state : Decisions π) : DecisionAction → Decisions π
  | .ask path decision => { state with decisions := state.decisions ++ [{ path, decision }] }
  | .advance number now =>
    match state.decisions[number]? with
    | none => state
    | some decision =>
      if txn.exclusive ∧
          ¬ (state.decisions.take number).all fun earlier => earlier.phase.hasEnded then state
      else
        { registration := (txn.advance now state.registration decision).2
          decisions := state.decisions.set number
            { decision with phase := (txn.advance now state.registration decision).1 } }

/-- No two decisions have written the status. -/
def Decisions.AtMostOnce (state : Decisions π) : Prop :=
  ∀ (first second : Nat) (one other : Decision π), state.decisions[first]? = some one →
    state.decisions[second]? = some other → one.phase.hasDecided = true →
      other.phase.hasDecided = true → first = second

/-- What one step of a decision comes to: the account stays and nothing is decided, or the status is
written. -/
inductive Advanced (txn : DecisionTxn) (registration : Registration π) (decision : Decision π) :
    DecisionPhase π × Registration π → Prop where
  | kept {phase : DecisionPhase π} {rest : Registration π}
      (account : rest.account = registration.account)
      (decided : phase.hasDecided = true → decision.phase.hasDecided = true)
      (ended : decision.phase.hasEnded = true → phase.hasEnded = true)
      (checking : ∀ read, phase = .checking read → registration.account = some read)
      (writing : ∀ read, phase = .writing read →
        decision.phase = .checking read ∧ read.status = .pending) :
      Advanced txn registration decision (phase, rest)
  /-- The status is written: over that of a pending account, if the write asks for it. -/
  | wrote {read written : Account π} {rest : Registration π}
      (writing : decision.phase = .writing read)
      (pending : txn.conditional = true →
        ∃ current, registration.account = some current ∧ current.status = .pending)
      (account : rest.account = some written) (decided : written.status ≠ .pending) :
      Advanced txn registration decision (.consuming written, rest)

theorem decidedAccount_ne (decision : UserDecision) (account : Account π) :
    (decidedAccount decision account).status ≠ .pending := by
  cases decision with
  | approve | reject => exact fun refuted => by cases refuted

variable {txn : DecisionTxn}

theorem Advanced.of_ended {registration rest : Registration π}
    {decision : Decision π} {result : DecisionResult π}
    (account : rest.account = registration.account)
    (decided : (DecisionPhase.ended result).hasDecided = true →
      decision.phase.hasDecided = true) :
    Advanced txn registration decision (.ended result, rest) :=
  .kept account decided (fun _ => rfl) (fun _ refuted => by cases refuted)
    (fun _ refuted => by cases refuted)

/-- Every step of a decision is one of these. -/
theorem advance_spec (txn : DecisionTxn) (now : Int) (registration : Registration π)
    (decision : Decision π) :
    Advanced txn registration decision (txn.advance now registration decision) := by
  have reading (going : ¬ decision.phase.hasEnded = true) :
      Advanced txn registration decision (.reading, registration) :=
    .kept rfl (fun refuted => by cases refuted) (fun ended => absurd ended going)
      (fun _ refuted => by cases refuted) (fun _ refuted => by cases refuted)
  have going (unsettled : decision.phase.hasEnded = false) : ¬ decision.phase.hasEnded = true :=
    ne_true_of_eq_false unsettled
  unfold DecisionTxn.advance
  cases phase : decision.phase with
  | waiting =>
    dsimp only
    cases decision.path with
    | client => exact reading (going (by rw [phase]; rfl))
    | token tokenId =>
      dsimp only
      cases registration.token.filter fun token => txn.finds token.id tokenId with
      | none => exact .of_ended rfl (fun refuted => by cases refuted)
      | some token =>
        dsimp only
        by_cases expired : txn.isExpired token.expiresAt now = true
        · rw [if_pos expired]
          exact .of_ended rfl (fun refuted => by cases refuted)
        · rw [if_neg expired]
          exact reading (going (by rw [phase]; rfl))
  | reading =>
    dsimp only
    cases read : registration.account with
    | none => exact .of_ended rfl (fun refuted => by cases refuted)
    | some account =>
      refine .kept rfl (fun refuted => by cases refuted)
        (fun ended => absurd ended (going (by rw [phase]; rfl))) ?_
        (fun _ refuted => by cases refuted)
      intro other same
      cases same
      exact read
  | checking account =>
    dsimp only
    split_ifs with owner pending
    · exact .of_ended rfl (fun refuted => by cases refuted)
    · exact .of_ended rfl (fun refuted => by cases refuted)
    · refine .kept rfl (fun refuted => by cases refuted)
        (fun ended => absurd ended (going (by rw [phase]; rfl)))
        (fun _ refuted => by cases refuted) ?_
      intro other same
      cases same
      exact ⟨phase, not_not.mp pending⟩
  | writing account =>
    dsimp only
    by_cases conditional : txn.conditional = true
    · rw [if_pos conditional]
      cases read : registration.account with
      | none => exact .of_ended rfl (fun refuted => by cases refuted)
      | some current =>
        dsimp only
        by_cases pending : current.status = .pending
        · rw [if_pos pending]
          exact .wrote phase (fun _ => ⟨current, read, pending⟩) rfl (decidedAccount_ne _ _)
        · rw [if_neg pending]
          exact .of_ended rfl (fun refuted => by cases refuted)
    · rw [if_neg conditional]
      exact .wrote phase (fun asks => absurd asks conditional) rfl (decidedAccount_ne _ _)
  | consuming account =>
    refine .of_ended rfl fun _ => ?_
    rw [phase]
    rfl
  | ended result =>
    refine .of_ended rfl fun decided => ?_
    rw [phase]
    exact decided

/-- What keeps a second decision from the account: a decision that has written left it not pending,
and one that is about to write without asking has read it as it is, since nobody else is at work. -/
structure Guarded (txn : DecisionTxn) (state : Decisions π) : Prop where
  once : state.AtMostOnce
  closed : ∀ (number : Nat) (one : Decision π), state.decisions[number]? = some one →
    one.phase.hasDecided = true → ∀ account, state.registration.account = some account →
      account.status ≠ .pending
  current : txn.conditional = false → ∀ (number : Nat) (one : Decision π) (read : Account π),
    state.decisions[number]? = some one → one.phase = .checking read ∨ one.phase = .writing read →
      state.registration.account = some read
  pending : ∀ (number : Nat) (one : Decision π) (read : Account π),
    state.decisions[number]? = some one → one.phase = .writing read → read.status = .pending
  queue : txn.exclusive = true → ∀ (first second : Nat) (one other : Decision π), first < second →
    state.decisions[first]? = some one → state.decisions[second]? = some other →
      one.phase.hasEnded = true ∨ other.phase = .waiting

theorem getElem?_ask {decisions : List (Decision π)} {asked one : Decision π} {number : Nat}
    (found : (decisions ++ [asked])[number]? = some one) :
    decisions[number]? = some one ∨ (number = decisions.length ∧ one = asked) := by
  by_cases inside : number < decisions.length
  · rw [List.getElem?_append_left inside] at found
    exact .inl found
  · rw [List.getElem?_append_right (Nat.le_of_not_lt inside), List.getElem?_singleton] at found
    by_cases last : number - decisions.length = 0
    · rw [if_pos last] at found
      exact .inr ⟨by omega, (Option.some.inj found).symm⟩
    · rw [if_neg last] at found
      cases found

theorem getElem?_advance {decisions : List (Decision π)} {after one : Decision π}
    {number place : Nat} (found : (decisions.set number after)[place]? = some one) :
    (place = number ∧ one = after) ∨ (place ≠ number ∧ decisions[place]? = some one) := by
  rw [List.getElem?_set] at found
  by_cases same : number = place
  · rw [if_pos same] at found
    split_ifs at found
    exact .inl ⟨same.symm, (Option.some.inj found).symm⟩
  · rw [if_neg same] at found
    exact .inr ⟨Ne.symm same, found⟩

theorem Guarded.ask {state : Decisions π} (guarded : Guarded txn state)
    (path : DecisionPath) (decision : UserDecision) :
    Guarded txn { state with decisions := state.decisions ++ [{ path, decision }] } := by
  constructor
  · intro first second one other here there left right
    cases getElem?_ask here with
    | inr new =>
      rw [new.2] at left
      cases left
    | inl old =>
      cases getElem?_ask there with
      | inr new =>
        rw [new.2] at right
        cases right
      | inl old' => exact guarded.once first second one other old old' left right
  · intro number one here decided
    cases getElem?_ask here with
    | inr new =>
      rw [new.2] at decided
      cases decided
    | inl old => exact guarded.closed number one old decided
  · intro unconditional number one read here phase
    cases getElem?_ask here with
    | inr new =>
      rw [new.2] at phase
      cases phase with
      | inl refuted => cases refuted
      | inr refuted => cases refuted
    | inl old => exact guarded.current unconditional number one read old phase
  · intro number one read here phase
    cases getElem?_ask here with
    | inr new =>
      rw [new.2] at phase
      cases phase
    | inl old => exact guarded.pending number one read old phase
  · intro exclusive first second one other before here there
    cases getElem?_ask there with
    | inr new =>
      right
      rw [new.2]
    | inl old' =>
      cases getElem?_ask here with
      | inr new =>
        have inside := (List.getElem?_eq_some_iff.mp old').1
        omega
      | inl old => exact guarded.queue exclusive first second one other before old old'

variable (asks : txn.conditional = true ∨ txn.exclusive = true)

include asks

theorem Guarded.advance {state : Decisions π} (guarded : Guarded txn state)
    {number : Nat} {decision : Decision π} (found : state.decisions[number]? = some decision)
    (turn : txn.exclusive = true → ∀ (place : Nat) (one : Decision π), place < number →
      state.decisions[place]? = some one → one.phase.hasEnded = true)
    {phase : DecisionPhase π} {rest : Registration π}
    (advanced : Advanced txn state.registration decision (phase, rest)) :
    Guarded txn
      { registration := rest
        decisions := state.decisions.set number { decision with phase } } := by
  have inLine (ended : decision.phase.hasEnded = true → phase.hasEnded = true) :
      txn.exclusive = true → ∀ (first second : Nat) (one other : Decision π), first < second →
        (state.decisions.set number { decision with phase })[first]? = some one →
          (state.decisions.set number { decision with phase })[second]? = some other →
            one.phase.hasEnded = true ∨ other.phase = .waiting := by
    intro exclusive first second one other before here there
    rcases getElem?_advance here with ⟨rfl, rfl⟩ | ⟨apart, old⟩
    · rcases getElem?_advance there with ⟨rfl, rfl⟩ | ⟨-, old'⟩
      · omega
      · cases guarded.queue exclusive first second decision other before found old' with
        | inl done => exact .inl (ended done)
        | inr waits => exact .inr waits
    · rcases getElem?_advance there with ⟨rfl, rfl⟩ | ⟨-, old'⟩
      · exact .inl (turn exclusive first one before old)
      · exact guarded.queue exclusive first second one other before old old'
  cases advanced with
  | kept account decided ended checking writing =>
    have before : ∀ (place : Nat) (one : Decision π),
        (state.decisions.set number { decision with phase })[place]? = some one →
          one.phase.hasDecided = true →
            ∃ old, state.decisions[place]? = some old ∧ old.phase.hasDecided = true := by
      intro place one here left
      rcases getElem?_advance here with ⟨rfl, rfl⟩ | ⟨-, old⟩
      · exact ⟨decision, found, decided left⟩
      · exact ⟨one, old, left⟩
    constructor
    · intro first second one other here there left right
      obtain ⟨old, stored, was⟩ := before first one here left
      obtain ⟨old', stored', was'⟩ := before second other there right
      exact guarded.once first second old old' stored stored' was was'
    · intro place one here left stored same
      obtain ⟨old, held, was⟩ := before place one here left
      rw [account] at same
      exact guarded.closed place old held was stored same
    · intro unconditional place one read here reads
      rw [account]
      rcases getElem?_advance here with ⟨rfl, rfl⟩ | ⟨-, old⟩
      · cases reads with
        | inl checks => exact checking read checks
        | inr writes =>
          exact guarded.current unconditional place decision read found
            (.inl (writing read writes).1)
      · exact guarded.current unconditional place one read old reads
    · intro place one read here writes
      rcases getElem?_advance here with ⟨rfl, rfl⟩ | ⟨-, old⟩
      · exact (writing read writes).2
      · exact guarded.pending place one read old writes
    · exact inLine ended
  | @wrote read written _ writing pending account decided =>
    -- The account that is written over was pending, so nobody has decided before.
    have waits : ∃ current, state.registration.account = some current ∧
        current.status = .pending := by
      cases conditional : txn.conditional with
      | true => exact pending conditional
      | false =>
        exact ⟨read, guarded.current conditional number decision read found (.inr writing),
          guarded.pending number decision read found writing⟩
    have nobody : ∀ (place : Nat) (one : Decision π), state.decisions[place]? = some one →
        ¬ one.phase.hasDecided = true := by
      intro place one old left
      obtain ⟨current, stored, status⟩ := waits
      exact guarded.closed place one old left current stored status
    have only : ∀ (place : Nat) (one : Decision π),
        (state.decisions.set number { decision with phase := .consuming written })[place]? =
          some one → one.phase.hasDecided = true → place = number := by
      intro place one here left
      rcases getElem?_advance here with ⟨same, -⟩ | ⟨-, old⟩
      · exact same
      · exact absurd left (nobody place one old)
    have going : ¬ decision.phase.hasEnded = true := by
      rw [writing]
      exact fun refuted => by cases refuted
    constructor
    · intro first second one other here there left right
      rw [only first one here left, only second other there right]
    · intro place one _ _ stored same
      rw [account] at same
      cases same
      exact decided
    · intro unconditional place one other here reads
      have exclusive : txn.exclusive = true := by
        cases asks with
        | inl refuted =>
          rw [unconditional] at refuted
          cases refuted
        | inr alone => exact alone
      rcases getElem?_advance here with ⟨rfl, rfl⟩ | ⟨apart, old⟩
      · cases reads with
        | inl refuted => cases refuted
        | inr refuted => cases refuted
      · -- Those before have ended, and those behind have not begun.
        exfalso
        by_cases earlier : place < number
        · have done := turn exclusive place one earlier old
          cases reads with
          | inl phase =>
            rw [phase] at done
            cases done
          | inr phase =>
            rw [phase] at done
            cases done
        · cases guarded.queue exclusive number place decision one (by omega) found old with
          | inl done => exact going done
          | inr waiting =>
            rw [waiting] at reads
            cases reads with
            | inl refuted => cases refuted
            | inr refuted => cases refuted
    · intro place one other here writes
      rcases getElem?_advance here with ⟨rfl, rfl⟩ | ⟨-, old⟩
      · cases writes
      · exact guarded.pending place one other old writes
    · exact inLine (fun ended => absurd ended going)

theorem step_guarded
    (state : Decisions π) (action : DecisionAction) (guarded : Guarded txn state) :
    Guarded txn (state.step txn action) := by
  cases action with
  | ask path decision => exact guarded.ask path decision
  | advance number now =>
    dsimp only [Decisions.step]
    cases found : state.decisions[number]? with
    | none => exact guarded
    | some decision =>
      dsimp only
      split_ifs with blocked
      · exact guarded
      · refine guarded.advance asks found ?_ (advance_spec txn now state.registration decision)
        intro exclusive place one before old
        have all := not_not.mp (not_and.mp blocked exclusive)
        have inside : (state.decisions.take number)[place]? = some one := by
          rw [List.getElem?_take_of_lt before, old]
        exact List.all_eq_true.mp all one (List.mem_of_getElem? inside)

theorem at_most_once
    (registration : Registration π) (actions : List DecisionAction) :
    (run (Decisions.step txn) { registration } actions).AtMostOnce := by
  have initially : Guarded txn { registration, decisions := ([] : List (Decision π)) } := by
    constructor
    · intro first second one other here
      cases here
    · intro number one here
      cases here
    · intro _ number one read here
      cases here
    · intro number one read here
      cases here
    · intro _ first second one other _ here
      cases here
  exact (run_invariant (Decisions.step txn) (step_guarded asks) initially actions).once

end Runs

/-! ## What is promised -/

/-- The transactions of a kind answer the same and leave the same account and token, for a user
exactly when no token that is found expires now, for a client exactly when besides that the stored
id of the token is not presented as that of a token; and a registration is decided at most once. -/
theorem transactions_agree_iff (digest : TokenDigest) (π : Type) :
    (∀ (registration : Registration π) (tokenId : String) (decision : UserDecision) (now : Int),
      (prismaRegistrationDecisionTxn digest).decide (.token tokenId) decision now registration =
          (inMemoryRegistrationDecisionTxn digest).decide (.token tokenId) decision now
            registration ↔
        ∀ token ∈ registration.token, findsHashed digest token.id tokenId = true →
          token.expiresAt ≠ now) ∧
    (∀ (registration : Registration π) (tokenId : String) (decision : UserDecision) (now : Int),
      (prismaClientRegistrationDecisionTxn digest).decide (.token tokenId) decision now
          registration =
          inMemoryClientRegistrationDecisionTxn.decide (.token tokenId) decision now registration ↔
        ∀ token ∈ registration.token,
          (digest.hash token.id = tokenId → token.id = tokenId) ∧
            (token.id = tokenId → token.expiresAt ≠ now)) ∧
    (∀ (registration : Registration π) (decision : UserDecision) (now : Int),
      (prismaClientRegistrationDecisionTxn digest).decide .client decision now registration =
        inMemoryClientRegistrationDecisionTxn.decide .client decision now registration) ∧
    ∀ txn ∈ [prismaRegistrationDecisionTxn digest, inMemoryRegistrationDecisionTxn digest,
        prismaClientRegistrationDecisionTxn digest, inMemoryClientRegistrationDecisionTxn],
      ∀ (registration : Registration π) (actions : List DecisionAction),
        (run (Decisions.step txn) { registration } actions).AtMostOnce := by
  refine ⟨?_, ?_, ?_, ?_⟩
  · intro registration tokenId decision now
    rw [@decide_token_eq_iff π (prismaRegistrationDecisionTxn digest)
      (inMemoryRegistrationDecisionTxn digest) rfl (fun _ _ => rfl) (fun _ _ => rfl)]
    have same : (prismaRegistrationDecisionTxn digest).finds =
        (inMemoryRegistrationDecisionTxn digest).finds := rfl
    simp only [same, true_and]
    exact Iff.rfl
  · intro registration tokenId decision now
    rw [@decide_token_eq_iff π (prismaClientRegistrationDecisionTxn digest)
      inMemoryClientRegistrationDecisionTxn rfl (fun _ _ => rfl) (fun _ _ => rfl)]
    apply forall₂_congr
    intro token _
    have collide : digest.hash token.id = digest.hash tokenId ↔ token.id = tokenId :=
      ⟨digest.injective _ _, congrArg digest.hash⟩
    have finds : (prismaClientRegistrationDecisionTxn digest).finds token.id tokenId =
        inMemoryClientRegistrationDecisionTxn.finds token.id tokenId ↔
          (digest.hash token.id = tokenId → token.id = tokenId) := by
      simp only [prismaClientRegistrationDecisionTxn, inMemoryClientRegistrationDecisionTxn,
        findsHashed, decide_eq_decide, collide, or_iff_left_iff_imp]
    rw [finds]
    simp only [inMemoryClientRegistrationDecisionTxn, decide_eq_true_eq]
  · intro registration decision now
    rw [decide_client, decide_client]
    rfl
  · intro txn member registration actions
    apply at_most_once
    simp only [List.mem_cons, List.not_mem_nil, or_false] at member
    rcases member with rfl | rfl | rfl | rfl
    · exact .inl rfl
    · exact .inr rfl
    · exact .inl rfl
    · exact .inr rfl

/-- A digest for examples: the text with a mark. -/
def markDigest : TokenDigest where
  hash id := id.push '#'
  injective := by
    intro first second same
    have units := congrArg String.toList same
    rw [String.toList_push, String.toList_push] at units
    exact String.toList_injective (List.append_cancel_right units)

/-- A pending user whose token expires now is approved in the database, and expired in memory. -/
theorem transactions_differ_at_expiry :
    ¬ ∀ (registration : Registration Unit) (tokenId : String) (decision : UserDecision) (now : Int),
      (prismaRegistrationDecisionTxn markDigest).decide (.token tokenId) decision now
          registration =
        (inMemoryRegistrationDecisionTxn markDigest).decide (.token tokenId) decision now
          registration := by
  intro agree
  have differs := agree ⟨some ⟨⟨"hash", 0, .pending⟩, ()⟩, none, some ⟨"token", 5⟩⟩ "token"
    .approve 5
  revert differs
  decide

end PlugHub.RegistrationDecisions
