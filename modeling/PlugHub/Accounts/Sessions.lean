import PlugHub.Accounts.Operations

/-!
# Session invalidation

A refresh token is consumed by one conditional update, so that it is consumed at most once. The
token that a login or a refresh saves afterwards is a new row, and revoking all tokens marks only
the rows that exist at that instant: a login or refresh that is suspended before its save brings a
session across a password change, a reset or a block. The block of a user moreover revokes before
it saves the status, and what is saved in between survives.
-/

namespace PlugHub.Accounts

open Library

variable {ρ π : Type}

/-! ## The property -/

/-- Every token was consumed at most once; no token was consumed after an invalidation that
completed since its session was authenticated, and none can be. -/
structure SessionsInvalidated (state : AccountState π) : Prop where
  /-- Every token was consumed at most once. -/
  once : (state.consumptions.map (·.id)).Nodup
  /-- A consumed token is of a session that began after the last invalidation. -/
  current : ∀ consumption ∈ state.consumptions,
    consumption.invalidatedAt ≤ consumption.authenticatedAt
  /-- So is every token that can still be consumed. -/
  live : ∀ id token, state.tokens.get id = some token → token.revoked = false →
    state.invalidatedAt ≤ token.authenticatedAt

/-- A login or refresh saves its token when no invalidation completed since it read the credentials
or consumed its old token; and an invalidation that ends with another statement than a revocation
finds no live token at its end. -/
def SavesInTime (state : AccountState π) (operation : Operation π) (rest : List (Statement π)) :
    Statement π → Prop
  | .issue _ _ => ∀ session ∈ operation.session, state.invalidatedAt ≤ session.since
  | .revokeAll => True
  | .resetByToken _ _ _ => True
  | _ => operation.invalidates = true → rest.isEmpty = true →
    ∀ token ∈ state.tokens.values, token.revoked = true

instance (state : AccountState π) (operation : Operation π) (rest : List (Statement π)) :
    ∀ statement, Decidable (SavesInTime state operation rest statement)
  | .issue _ _ => inferInstanceAs (Decidable
      (∀ session ∈ operation.session, state.invalidatedAt ≤ session.since))
  | .revokeAll => inferInstanceAs (Decidable True)
  | .resetByToken _ _ _ => inferInstanceAs (Decidable True)
  | .authenticate _ | .find _ | .lookup _ | .save _ | .consume _ _ | .findToken _ | .revoke _ =>
    inferInstanceAs (Decidable (operation.invalidates = true → rest.isEmpty = true →
      ∀ token ∈ state.tokens.values, token.revoked = true))

/-- The condition on a step. -/
def Undisturbed (state : AccountState π) : AccountAction ρ → Prop
  | .start _ _ => True
  | .resume id => ∀ pending ∈ state.awaiting id,
    SavesInTime state pending.1 pending.2.2 pending.2.1

instance (state : AccountState π) : ∀ action : AccountAction ρ, Decidable (Undisturbed state action)
  | .start _ _ => inferInstanceAs (Decidable True)
  | .resume id => inferInstanceAs (Decidable (∀ pending ∈ state.awaiting id,
    SavesInTime state pending.1 pending.2.2 pending.2.1))

/-! ## The invariant -/

/-- The statement saves a refresh token. -/
def Statement.issues : Statement π → Bool
  | .issue _ _ => true
  | _ => false

/-- The tokens and the history of an account. -/
structure TokensSound (state : AccountState π) : Prop where
  invalidated : SessionsInvalidated state
  consumed : ∀ consumption ∈ state.consumptions, ∃ token,
    state.tokens.get consumption.id = some token ∧ token.revoked = true
  known : ∀ id token, state.tokens.get id = some token → token.authenticatedAt ≤ state.moment
  past : state.invalidatedAt ≤ state.moment

/-- The session of an operation in progress: an operation that began after the last invalidation
acts for a session that was authenticated after it. -/
structure SessionSound (state : AccountState π) (session : Session) : Prop where
  known : session.authenticatedAt ≤ state.moment
  begun : session.since ≤ state.moment
  current : state.invalidatedAt ≤ session.since → state.invalidatedAt ≤ session.authenticatedAt

/-- An operation in progress. -/
structure OperationSound (state : AccountState π) (operation : Operation π) : Prop where
  session : ∀ session ∈ operation.session, SessionSound state session
  separate : operation.invalidates = true → ∀ statement ∈ operation.rest, statement.issues = false

/-- The account and its operations in progress. -/
structure AccountSound (state : AccountState π) : Prop where
  tokens : TokensSound state
  operations : ∀ id operation, state.operations.get id = some operation →
    OperationSound state operation

/-! ## Statements keep the invariant -/

section Statements

variable {state after : AccountState π} {operation next : Operation π} {statement : Statement π}
  {rest : List (Statement π)}

theorem get_revokeToken {id other : String} {token : RefreshToken}
    (found : (state.revokeToken id).tokens.get other = some token) :
    ∃ before, state.tokens.get other = some before ∧
      token.authenticatedAt = before.authenticatedAt ∧
      (token.revoked = false → before.revoked = false ∧ other ≠ id) ∧
      (before.revoked = true → token.revoked = true) := by
  unfold AccountState.revokeToken at found
  simp only [OrderedMap.get_modify] at found
  split_ifs at found with same
  · obtain ⟨before, present, rfl⟩ := Option.map_eq_some_iff.mp found
    refine ⟨before, same ▸ present, rfl, fun live => ?_, fun _ => rfl⟩
    cases live
  · exact ⟨token, found, rfl, fun live => ⟨live, same⟩, fun marked => marked⟩

theorem revoked_revokeToken {id other : String}
    (revoked : ∃ token, state.tokens.get other = some token ∧ token.revoked = true) :
    ∃ token, (state.revokeToken id).tokens.get other = some token ∧ token.revoked = true := by
  obtain ⟨token, found, marked⟩ := revoked
  unfold AccountState.revokeToken
  simp only [OrderedMap.get_modify]
  split_ifs with same
  · exact ⟨{ token with revoked := true }, by rw [← same, found]; rfl, rfl⟩
  · exact ⟨token, found, marked⟩

theorem get_revokeAllTokens {id : String} {token : RefreshToken}
    (found : state.revokeAllTokens.tokens.get id = some token) :
    token.revoked = true ∧ ∃ before, state.tokens.get id = some before ∧
      token.authenticatedAt = before.authenticatedAt := by
  unfold AccountState.revokeAllTokens at found
  simp only [OrderedMap.get_mapValues] at found
  obtain ⟨before, present, rfl⟩ := Option.map_eq_some_iff.mp found
  exact ⟨rfl, before, present, rfl⟩

namespace TokensSound

section

variable (sound : TokensSound state)

include sound

theorem tick :
    TokensSound { state with moment := state.moment + 1 } where
  invalidated := ⟨sound.invalidated.once, sound.invalidated.current, sound.invalidated.live⟩
  consumed := sound.consumed
  known id token found := Nat.le_succ_of_le (sound.known id token found)
  past := Nat.le_succ_of_le sound.past

theorem saveRow (row : Account π) : TokensSound (state.saveRow row) :=
  ⟨⟨sound.invalidated.once, sound.invalidated.current, sound.invalidated.live⟩, sound.consumed,
    sound.known, sound.past⟩

theorem revokeToken (id : String) :
    TokensSound (state.revokeToken id) where
  invalidated :=
    { once := sound.invalidated.once
      current := sound.invalidated.current
      live := fun other token found live => by
        obtain ⟨before, present, same, wasLive, -⟩ := get_revokeToken found
        rw [same]
        exact sound.invalidated.live other before present (wasLive live).1 }
  consumed consumption member := revoked_revokeToken (sound.consumed consumption member)
  known other token found := by
    obtain ⟨before, present, same, -⟩ := get_revokeToken found
    rw [same]
    exact sound.known other before present
  past := sound.past

theorem revokeAllTokens : TokensSound state.revokeAllTokens where
  invalidated :=
    { once := sound.invalidated.once
      current := sound.invalidated.current
      live := fun id token found live => by
        rw [(get_revokeAllTokens found).1] at live
        cases live }
  consumed consumption member := by
    obtain ⟨token, found, -⟩ := sound.consumed consumption member
    refine ⟨{ token with revoked := true }, ?_, rfl⟩
    unfold AccountState.revokeAllTokens
    simp only [OrderedMap.get_mapValues, found, Option.map_some]
  known id token found := by
    obtain ⟨-, before, present, same⟩ := get_revokeAllTokens found
    rw [same]
    exact sound.known id before present
  past := sound.past

/-- A token is consumed: it was live, so that it was not consumed before, and its session is not
older than the last invalidation. -/
theorem consumeToken {id : String} {token : RefreshToken}
    (found : state.tokens.get id = some token) (live : token.revoked = false) :
    TokensSound (state.consumeToken id token) where
  invalidated :=
    { once := by
        refine List.nodup_cons.mpr ⟨fun member => ?_, sound.invalidated.once⟩
        obtain ⟨consumption, earlier, same⟩ := List.mem_map.mp member
        obtain ⟨spent, present, marked⟩ := sound.consumed consumption earlier
        rw [same, found] at present
        cases present
        rw [live] at marked
        cases marked
      current := fun consumption member => by
        rcases List.mem_cons.mp member with rfl | earlier
        · exact sound.invalidated.live id token found live
        · exact sound.invalidated.current consumption earlier
      live := (sound.revokeToken id).invalidated.live }
  consumed consumption member := by
    rcases List.mem_cons.mp member with rfl | earlier
    · refine ⟨{ token with revoked := true }, ?_, rfl⟩
      simp only [AccountState.consumeToken, AccountState.revokeToken, OrderedMap.get_modify,
        if_true, found, Option.map_some]
    · exact (sound.revokeToken id).consumed consumption earlier
  known := (sound.revokeToken id).known
  past := sound.past

theorem saveToken {id : String} {expiresAt : Nat} {session : Session}
    (fresh : state.tokens.get id = none) (known : session.authenticatedAt ≤ state.moment)
    (current : state.invalidatedAt ≤ session.authenticatedAt) :
    TokensSound (state.saveToken id expiresAt session) where
  invalidated :=
    { once := sound.invalidated.once
      current := sound.invalidated.current
      live := OrderedMap.forall_set (fun _ => current) sound.invalidated.live }
  consumed consumption member := by
    obtain ⟨token, found, marked⟩ := sound.consumed consumption member
    have differs : consumption.id ≠ id := by
      rintro rfl
      rw [fresh] at found
      cases found
    refine ⟨token, ?_, marked⟩
    unfold AccountState.saveToken
    rw [OrderedMap.get_set_of_ne _ _ differs]
    exact found
  known := OrderedMap.forall_set known sound.known
  past := sound.past

theorem executes (sessions : ∀ session ∈ operation.session, SessionSound state session)
    (timely : SavesInTime state operation rest statement)
    (executes : state.Executes operation statement after next) : TokensSound after := by
  cases executes with
  | authenticate | find | lookup => exact sound
  | save => exact sound.saveRow _
  | resetByToken => exact (sound.saveRow _).revokeAllTokens
  | consume found live => exact sound.consumeToken found live
  | issue acting fresh =>
    have acts := sessions _ acting
    exact sound.saveToken fresh acts.known (acts.current (timely _ acting))
  | findToken => exact sound
  | revoke => exact sound.revokeToken _
  | revokeAll => exact sound.revokeAllTokens

end

end TokensSound

theorem SessionSound.congr {session : Session} (sound : SessionSound state session)
    (later : state.moment ≤ after.moment) (same : after.invalidatedAt = state.invalidatedAt) :
    SessionSound after session where
  known := Nat.le_trans sound.known later
  begun := Nat.le_trans sound.begun later
  current begun := by
    rw [same] at begun ⊢
    exact sound.current begun

theorem SessionSound.executes (sound : TokensSound state)
    (sessions : ∀ session ∈ operation.session, SessionSound state session)
    (executes : state.Executes operation statement after next) :
    ∀ session ∈ next.session, SessionSound after session := by
  obtain ⟨-, moment, invalidatedAt, -⟩ := executes.frame
  have kept : ∀ session ∈ operation.session, SessionSound after session :=
    fun session member => (sessions session member).congr (Nat.le_of_eq moment.symm) invalidatedAt
  cases executes with
  | authenticate =>
    rintro session ⟨⟩
    exact ⟨Nat.le_refl _, Nat.le_refl _, id⟩
  | find | lookup | save | resetByToken => exact kept
  | consume found live =>
    rintro session ⟨⟩
    exact ⟨sound.known _ _ found, Nat.le_refl _, fun _ => sound.invalidated.live _ _ found live⟩
  | issue | findToken | revoke | revokeAll => exact kept

theorem revoked_of_last (invalidates : operation.invalidates = true)
    (separate : statement.issues = false)
    (timely : SavesInTime state operation [] statement)
    (executes : state.Executes operation statement after next) {id : String} {token : RefreshToken}
    (found : after.tokens.get id = some token) : token.revoked = true := by
  have held : (∀ token ∈ state.tokens.values, token.revoked = true) →
      ∀ token, state.tokens.get id = some token → token.revoked = true := fun every token present =>
    every token (List.mem_map.mpr
      ⟨(id, token), (state.tokens.get_eq_some_iff id token).mp present, rfl⟩)
  have revoked (every : ∀ token ∈ state.tokens.values, token.revoked = true) (other : String)
      (kept : (state.revokeToken other).tokens.get id = some token) : token.revoked = true := by
    obtain ⟨before, present, -, -, marked⟩ := get_revokeToken kept
    exact marked (held every before present)
  cases executes with
  | authenticate | find | lookup | save => exact held (timely invalidates rfl) token found
  | resetByToken => exact (get_revokeAllTokens found).1
  | consume => exact revoked (timely invalidates rfl) _ found
  | issue => cases separate
  | findToken => exact held (timely invalidates rfl) token found
  | revoke => exact revoked (timely invalidates rfl) _ found
  | revokeAll => exact (get_revokeAllTokens found).1

end Statements

/-! ## Operations keep the invariant -/

section Operations

variable {state after : AccountState π} {operation next : Operation π}

namespace AccountSound

section

variable (sound : AccountSound state)

include sound

theorem drop (id : Nat) :
    AccountSound { state with operations := state.operations.erase id } where
  tokens := ⟨⟨sound.tokens.invalidated.once, sound.tokens.invalidated.current,
    sound.tokens.invalidated.live⟩, sound.tokens.consumed, sound.tokens.known, sound.tokens.past⟩
  operations other operation found := by
    simp only [OrderedMap.get_erase] at found
    split_ifs at found with same
    obtain ⟨session, separate⟩ := sound.operations other operation found
    exact ⟨fun held member => (session held member).congr (Nat.le_refl _) rfl, separate⟩

theorem put (id : Nat) (fine : OperationSound state operation) :
    AccountSound { state with operations := state.operations.set id operation } where
  tokens := ⟨⟨sound.tokens.invalidated.once, sound.tokens.invalidated.current,
    sound.tokens.invalidated.live⟩, sound.tokens.consumed, sound.tokens.known, sound.tokens.past⟩
  operations other found present := by
    have every : ∀ other found, (state.operations.set id operation).get other = some found →
        OperationSound state found := OrderedMap.forall_set fine sound.operations
    have fine := every other found present
    exact ⟨fun held member => (fine.session held member).congr (Nat.le_refl _) rfl, fine.separate⟩

theorem tick :
    AccountSound { state with moment := state.moment + 1 } where
  tokens := sound.tokens.tick
  operations id operation found :=
    ⟨fun session member =>
      ((sound.operations id operation found).session session member).congr (Nat.le_succ _) rfl,
    (sound.operations id operation found).separate⟩

theorem executes {statement : Statement π} {rest : List (Statement π)}
    (sessions : ∀ session ∈ operation.session, SessionSound state session)
    (timely : SavesInTime state operation rest statement)
    (executes : state.Executes operation statement after next) : AccountSound after where
  tokens := sound.tokens.executes sessions timely executes
  operations other found present := by
    obtain ⟨operations, moment, invalidatedAt, -⟩ := executes.frame
    rw [operations] at present
    obtain ⟨session, separate⟩ := sound.operations other found present
    exact ⟨fun held member => (session held member).congr (Nat.le_of_eq moment.symm) invalidatedAt,
      separate⟩

/-- An operation completes: if it was an invalidation, no live token is left, and the operations
in progress began before its last statement. -/
theorem complete (id : Nat) (revoked : operation.invalidates = true →
      ∀ other token, state.tokens.get other = some token → token.revoked = true)
    (before : ∀ other found, other ≠ id → state.operations.get other = some found →
      ∀ session ∈ found.session, session.since < state.moment) :
    AccountSound (state.complete id operation) where
  tokens :=
    { invalidated :=
        { once := sound.tokens.invalidated.once
          current := sound.tokens.invalidated.current
          live := fun other token found live => by
            unfold AccountState.complete
            simp only
            split_ifs with invalidates
            · rw [revoked invalidates other token found] at live
              cases live
            · exact sound.tokens.invalidated.live other token found live }
      consumed := sound.tokens.consumed
      known := sound.tokens.known
      past := by
        unfold AccountState.complete
        simp only
        split_ifs
        · exact Nat.le_refl _
        · exact sound.tokens.past }
  operations other found present := by
    unfold AccountState.complete at present
    simp only [OrderedMap.get_erase] at present
    split_ifs at present with same
    have fine := sound.operations other found present
    refine ⟨fun session member => ⟨(fine.session session member).known,
      (fine.session session member).begun, ?_⟩, fine.separate⟩
    unfold AccountState.complete
    simp only
    split_ifs with invalidates
    · intro begun
      have earlier := before other found same present session member
      omega
    · exact (fine.session session member).current

/-- The next statement of an operation keeps the account sound. -/
theorem resume {id : Nat} {statement : Statement π}
    {rest : List (Statement π)} (found : state.operations.get id = some operation)
    (shape : operation.rest = statement :: rest)
    (timely : SavesInTime state operation rest statement) :
    AccountSound (state.resume id operation statement rest) := by
  have ticked := sound.tick
  have fine := ticked.operations id operation found
  have separate : operation.invalidates = true →
      statement.issues = false ∧ ∀ later ∈ rest, later.issues = false := by
    intro invalidates
    have every := fine.separate invalidates
    rw [shape] at every
    exact ⟨every statement List.mem_cons_self,
      fun later member => every later (List.mem_cons_of_mem _ member)⟩
  have awaited : SavesInTime { state with moment := state.moment + 1 }
      { operation with rest } rest statement := by
    cases statement <;> exact timely
  unfold AccountState.resume
  simp only
  cases executed : AccountState.execute { state with moment := state.moment + 1 }
      { operation with rest } statement with
  | none => exact ticked.drop id
  | some result =>
    obtain ⟨after, next⟩ := result
    have executes := AccountState.executes_of_execute executed
    obtain ⟨operations, moment, -, -, invalidates, remaining⟩ := executes.frame
    have sessions : ∀ session ∈ ({ operation with rest } : Operation π).session,
        SessionSound { state with moment := state.moment + 1 } session := fine.session
    have later := ticked.executes sessions awaited executes
    unfold AccountState.proceed
    simp only
    split_ifs with last
    · rw [remaining] at last
      have done : rest = [] := List.isEmpty_iff.mp last
      refine later.complete id ?_ ?_
      · intro marks other token present
        rw [invalidates] at marks
        subst done
        exact revoked_of_last marks (separate marks).1 awaited executes present
      · intro other held differs present session member
        rw [operations] at present
        have begun := ((sound.operations other held present).session session member).begun
        rw [moment]
        exact Nat.lt_succ_of_le begun
    · refine later.put id ⟨SessionSound.executes ticked.tokens sessions executes, ?_⟩
      intro marks
      rw [invalidates] at marks
      rw [remaining]
      exact (separate marks).2

end

/-- A statement in time keeps the account sound. -/
theorem step (requests : Requests ρ π) (separates : ∀ request, requests.invalidates request = true →
      ∀ statement ∈ requests.program request, statement.issues = false)
    (sound : AccountSound state) (action : AccountAction ρ) (timely : Undisturbed state action) :
    AccountSound (state.step requests action) := by
  cases action with
  | start id request =>
    simp only [AccountState.step]
    split_ifs
    · exact sound
    · refine sound.put id ⟨?_, separates request⟩
      rintro session ⟨⟩
  | resume id =>
    simp only [AccountState.step]
    cases awaits : state.awaiting id with
    | none => exact sound
    | some pending =>
      obtain ⟨operation, statement, rest⟩ := pending
      obtain ⟨found, shape⟩ := AccountState.get_of_awaiting awaits
      exact sound.resume found shape (timely _ awaits)

theorem initial (row : Account π) : AccountSound (AccountState.initial row) where
  tokens :=
    { invalidated :=
        { once := List.nodup_nil
          current := fun _ member => by cases member
          live := fun _ _ found _ => by cases found }
      consumed := fun _ member => by cases member
      known := fun _ _ found => by cases found
      past := Nat.le_refl _ }
  operations _ _ found := by cases found

end AccountSound

end Operations

/-! ## Users and clients -/

theorem sessionsInvalidated_of_undisturbed (requests : Requests ρ π)
    (separates : ∀ request, requests.invalidates request = true →
      ∀ statement ∈ requests.program request, statement.issues = false)
    (row : Account π) (actions : List (AccountAction ρ))
    (undisturbed : Meets (AccountState.step requests) Undisturbed (AccountState.initial row)
      actions) :
    ∀ taken, taken <+: actions →
      SessionsInvalidated (run (AccountState.step requests) (AccountState.initial row) taken) := by
  have keeps (state : AccountState π) (action : AccountAction ρ) (sound : AccountSound state)
      (timely : Undisturbed state action) : AccountSound (state.step requests action) :=
    sound.step requests separates action timely
  intro taken first
  exact (every_state_of_meets _ keeps (AccountSound.initial row) undisturbed taken first).tokens
    |>.invalidated

theorem userRequests_separates (compare : String → String → Bool) (request : UserRequest)
    (invalidates : (userRequests compare).invalidates request = true) :
    ∀ statement ∈ (userRequests compare).program request, statement.issues = false := by
  cases request with
  | changePassword => simp [userRequests, UserRequest.program, Statement.issues]
  | adminSetUserStatus status =>
    cases status with
    | blocked => simp [userRequests, UserRequest.program, Statement.issues]
    | active => cases invalidates
  | _ => cases invalidates

theorem clientRequests_separates (compare : String → String → Bool) (request : ClientRequest)
    (invalidates : (clientRequests compare).invalidates request = true) :
    ∀ statement ∈ (clientRequests compare).program request, statement.issues = false := by
  cases request with
  | changePassword | resetPasswordByRecoveryToken =>
    simp [clientRequests, ClientRequest.program, Statement.issues]
  | setManagedClientStatus ownerActive status =>
    cases status with
    | blocked => simp [clientRequests, ClientRequest.program, Statement.issues]
    | active => cases invalidates
  | _ => cases invalidates

/-- For every user and every client, in every state of every interleaving in which no login or
refresh saves its token after an invalidation that completed since it read the credentials or
consumed its old token, and in which no token is live when a block of a user saves the status or a
password change of a client ends: every refresh token was consumed at most once, and none of a
session that was authenticated before a completed password change, reset or block was consumed
after it or can be. -/
theorem sessions_invalidated_when_saved_in_time (compare : String → String → Bool) :
    (∀ row actions, Meets (AccountState.step (userRequests compare)) Undisturbed
        (AccountState.initial row) actions →
      ∀ taken, taken <+: actions → SessionsInvalidated
        (run (AccountState.step (userRequests compare)) (AccountState.initial row) taken)) ∧
    (∀ row actions, Meets (AccountState.step (clientRequests compare)) Undisturbed
        (AccountState.initial row) actions →
      ∀ taken, taken <+: actions → SessionsInvalidated
        (run (AccountState.step (clientRequests compare)) (AccountState.initial row) taken)) :=
  ⟨sessionsInvalidated_of_undisturbed _ (userRequests_separates compare),
    sessionsInvalidated_of_undisturbed _ (clientRequests_separates compare)⟩

/-- An active user whose password is `old`, where a hash is the password itself. -/
def sampleUser : Account UserProfile where
  passwordHash := "old"
  credentialsUpdatedAt := 1
  status := .active
  profile := ⟨"user@example.com", none, "user"⟩

/-- The user logs in, exchanges the refresh token and then changes the password. -/
def refreshThenChange : List (AccountAction UserRequest) :=
  [.start 0 (.login "old" "first" 100), .resume 0, .resume 0,
    .start 1 (.refresh "first" 10 "second" 100), .resume 1, .resume 1, .resume 1,
    .start 2 (.changePassword "old" "new" 11), .resume 2, .resume 2, .resume 2, .resume 2,
    .resume 2]

/-- After the password change, the token of the refresh is revoked. -/
theorem change_revokes_refreshed :
    let final := run (AccountState.step (userRequests (· == ·))) (AccountState.initial sampleUser)
      refreshThenChange
    SessionsInvalidated final ∧ final.tokens.values.map (·.revoked) = [true, true] ∧
      final.invalidatedAt = 10 :=
  ⟨(sessions_invalidated_when_saved_in_time (· == ·)).1 sampleUser refreshThenChange (by decide)
    refreshThenChange (List.prefix_refl _), by decide, by decide⟩

/-- The refresh is suspended after it consumed its token; the password is changed; the refresh then
saves a new token, which is consumed after the change. -/
def refreshAcrossChange : List (AccountAction UserRequest) :=
  [.start 0 (.login "old" "first" 100), .resume 0, .resume 0,
    .start 1 (.refresh "first" 10 "second" 100), .resume 1,
    .start 2 (.changePassword "old" "new" 11), .resume 2, .resume 2, .resume 2, .resume 2,
    .resume 2,
    .resume 1, .resume 1, .start 3 (.refresh "second" 12 "third" 100), .resume 3]

/-- A token of the old session is consumed after the password change. -/
theorem refresh_survives_change : ¬SessionsInvalidated
    (run (AccountState.step (userRequests (· == ·))) (AccountState.initial sampleUser)
      refreshAcrossChange) := by
  intro invalidated
  have stale : ∃ consumption ∈ (run (AccountState.step (userRequests (· == ·)))
      (AccountState.initial sampleUser) refreshAcrossChange).consumptions,
      consumption.authenticatedAt < consumption.invalidatedAt := by decide
  obtain ⟨consumption, member, older⟩ := stale
  exact Nat.not_le.mpr older (invalidated.current consumption member)

end PlugHub.Accounts
