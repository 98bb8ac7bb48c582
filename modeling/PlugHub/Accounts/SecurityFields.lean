import PlugHub.Accounts.Operations

/-!
# Lost updates of the security columns

Every operation but the reset of a forgotten password loads the row, changes a copy of it and saves
all columns of the copy. A save therefore writes the security columns as they were when its
operation read them, and undoes what another operation wrote since. When no save is stale in this
sense, and no two operations in progress wrote the same column, the security columns are those that
the completed operations wrote on purpose.
-/

namespace PlugHub.Accounts

open Library
open AccountState

variable {ρ π : Type}

/-! ## The property -/

/-- When no operation is in progress, the security columns are those that the completed operations
wrote on purpose, the last one to complete last. -/
def NoUpdateLost (state : AccountState π) : Prop :=
  state.operations.keys = [] → state.row.toSecurity = state.settled

instance (state : AccountState π) : Decidable (NoUpdateLost state) :=
  inferInstanceAs (Decidable (state.operations.keys = [] → state.row.toSecurity = state.settled))

/-- No column is written by both. -/
def Purpose.Apart (first second : Purpose) : Prop :=
  (first.passwordHash = none ∨ second.passwordHash = none) ∧
    (first.credentialsUpdatedAt = none ∨ second.credentialsUpdatedAt = none) ∧
    (first.status = none ∨ second.status = none)

instance (first second : Purpose) : Decidable (first.Apart second) :=
  inferInstanceAs (Decidable (_ ∧ _))

/-- No other operation in progress wrote a column of a purpose. -/
def Unrivalled (state : AccountState π) (id : Nat) (purpose : Purpose) : Prop :=
  ∀ entry ∈ state.operations.entries, entry.1 ≠ id → purpose.Apart entry.2.wrote

/-- The row that a save writes was read with the security columns that it still has, and no other
operation in progress wrote a security column that the statement writes on purpose. -/
def WritesFresh (state : AccountState π) (id : Nat) (operation : Operation π) :
    Statement π → Prop
  | .save edit => (∀ found ∈ operation.snapshot, found.toSecurity = state.row.toSecurity) ∧
    Unrivalled state id edit.purpose
  | .resetByToken _ hash instant =>
    Unrivalled state id (Edit.credentials hash instant : Edit π).purpose
  | _ => True

instance (state : AccountState π) (id : Nat) (purpose : Purpose) :
    Decidable (Unrivalled state id purpose) :=
  inferInstanceAs (Decidable (∀ entry ∈ state.operations.entries, _ → _))

instance (state : AccountState π) (id : Nat) (operation : Operation π) :
    ∀ statement, Decidable (WritesFresh state id operation statement)
  | .save _ => inferInstanceAs (Decidable (_ ∧ _))
  | .resetByToken _ hash instant => inferInstanceAs (Decidable
    (Unrivalled state id (Edit.credentials hash instant : Edit π).purpose))
  | .authenticate _ | .find _ | .lookup _ | .consume _ _ | .issue _ _ | .findToken _ | .revoke _
  | .revokeAll => inferInstanceAs (Decidable True)

/-- The condition on a step. -/
def FreshWrites (state : AccountState π) : AccountAction ρ → Prop
  | .start _ _ => True
  | .resume id => ∀ pending ∈ state.awaiting id, WritesFresh state id pending.1 pending.2.1

instance (state : AccountState π) : ∀ action : AccountAction ρ, Decidable (FreshWrites state action)
  | .start _ _ => inferInstanceAs (Decidable True)
  | .resume id => inferInstanceAs (Decidable
    (∀ pending ∈ state.awaiting id, WritesFresh state id pending.1 pending.2.1))

/-! ## One column -/

/-- A security column: how it is read from the row, and the value that was written to it on
purpose. -/
structure Column (α : Type) where
  read : Security → α
  written : Purpose → Option α
  blank : written {} = none
  read_onto : ∀ purpose security, read (purpose.onto security) =
    (written purpose).getD (read security)
  written_andThen : ∀ earlier later, written (Purpose.andThen earlier later) =
    (written later <|> written earlier)
  apart : ∀ {first second : Purpose}, first.Apart second →
    written first = none ∨ written second = none

/-- The hash of the password. -/
def Column.passwordHash : Column String where
  read := (·.passwordHash)
  written := (·.passwordHash)
  blank := rfl
  read_onto _ _ := rfl
  written_andThen _ _ := rfl
  apart apart := apart.1

/-- The version of the credentials. -/
def Column.credentialsUpdatedAt : Column Nat where
  read := (·.credentialsUpdatedAt)
  written := (·.credentialsUpdatedAt)
  blank := rfl
  read_onto _ _ := rfl
  written_andThen _ _ := rfl
  apart apart := apart.2.1

/-- The status. -/
def Column.status : Column AccountStatus where
  read := (·.status)
  written := (·.status)
  blank := rfl
  read_onto _ _ := rfl
  written_andThen _ _ := rfl
  apart apart := apart.2.2

theorem Edit.apply_security (edit : Edit π) (account : Account π) :
    (edit.apply account).toSecurity = edit.purpose.onto account.toSecurity := by
  cases edit <;> rfl

/-- What an operation in progress wrote to a column on purpose. -/
def Column.writes {α : Type} (column : Column α) (state : AccountState π) (id : Nat) : Option α :=
  (state.operations.get id).bind fun operation => column.written operation.wrote

/-- A column of an account: at most one operation in progress wrote it, the row has what it wrote,
and when none did, the row has what the completed operations wrote. -/
structure ColumnSound {α : Type} (column : Column α) (state : AccountState π) : Prop where
  held : ∀ id value, column.writes state id = some value →
    column.read state.row.toSecurity = value
  alone : ∀ id other, id ≠ other → column.writes state id = none ∨ column.writes state other = none
  settled : (∀ id, column.writes state id = none) →
    column.read state.row.toSecurity = column.read state.settled

section Columns

variable {α : Type} {column : Column α} {state after : AccountState π}
  {operation next : Operation π} {statement : Statement π} {id : Nat}

theorem Column.writes_set (column : Column α) (state : AccountState π) (id other : Nat)
    (next : Operation π) :
    column.writes { state with operations := state.operations.set id next } other =
      if other = id then column.written next.wrote else column.writes state other := by
  unfold writes
  simp only [OrderedMap.get_set]
  split_ifs <;> rfl

theorem Column.writes_erase (column : Column α) (state : AccountState π) (id other : Nat) :
    column.writes { state with operations := state.operations.erase id } other =
      if other = id then none else column.writes state other := by
  unfold writes
  simp only [OrderedMap.get_erase]
  split_ifs <;> rfl

namespace ColumnSound

theorem congr (sound : ColumnSound column state)
    (row : column.read after.row.toSecurity = column.read state.row.toSecurity)
    (writes : ∀ id, column.writes after id = column.writes state id)
    (settled : column.read after.settled = column.read state.settled) :
    ColumnSound column after where
  held id value wrote := by
    rw [writes] at wrote
    rw [row]
    exact sound.held id value wrote
  alone id other differs := by
    rw [writes, writes]
    exact sound.alone id other differs
  settled none := by
    rw [row, settled]
    exact sound.settled fun id => by rw [← writes]; exact none id

theorem put (sound : ColumnSound column state)
    (same : column.written next.wrote = column.writes state id) :
    ColumnSound column { state with operations := state.operations.set id next } := by
  refine sound.congr rfl (fun other => ?_) rfl
  rw [column.writes_set]
  split_ifs with this
  · rw [this, same]
  · rfl

theorem drop (sound : ColumnSound column state) (blank : column.writes state id = none) :
    ColumnSound column { state with operations := state.operations.erase id } := by
  refine sound.congr rfl (fun other => ?_) rfl
  rw [column.writes_erase]
  split_ifs with this
  · rw [this, blank]
  · rfl

theorem write (value : α) (row : column.read state.row.toSecurity = value)
    (wrote : column.written next.wrote = some value)
    (unrivalled : ∀ other, other ≠ id → column.writes state other = none) :
    ColumnSound column { state with operations := state.operations.set id next } where
  held other found held := by
    rw [column.writes_set] at held
    split_ifs at held with same
    · rw [wrote] at held
      cases held
      exact row
    · rw [unrivalled other same] at held
      cases held
  alone first second differs := by
    rw [column.writes_set, column.writes_set]
    by_cases same : first = id
    · right
      rw [if_neg fun also => differs (same.trans also.symm)]
      exact unrivalled second fun also => differs (same.trans also.symm)
    · left
      rw [if_neg same]
      exact unrivalled first same
  settled none := by
    have blank := none id
    rw [column.writes_set, if_pos rfl, wrote] at blank
    cases blank

section

variable (sound : ColumnSound column state)

include sound

theorem complete (present : state.operations.get id = some operation) :
    ColumnSound column (state.complete id operation) := by
  have writes (other : Nat) : column.writes (state.complete id operation) other =
      if other = id then none else column.writes state other := column.writes_erase state id other
  have own : column.writes state id = column.written operation.wrote := by
    unfold Column.writes
    rw [present]
    rfl
  have settled : column.read (state.complete id operation).settled =
      (column.written operation.wrote).getD (column.read state.settled) := column.read_onto _ _
  cases wrote : column.written operation.wrote with
  | none =>
    rw [wrote] at settled own
    refine sound.congr rfl (fun other => ?_) settled
    rw [writes]
    split_ifs with this
    · rw [this, own]
    · rfl
  | some value =>
    rw [wrote] at settled own
    have row := sound.held id value own
    have others (other : Nat) (differs : other ≠ id) : column.writes state other = none := by
      rcases sound.alone other id differs with none | none
      · exact none
      · rw [own] at none
        cases none
    have blank (other : Nat) : column.writes (state.complete id operation) other = none := by
      rw [writes]
      split_ifs with same
      · rfl
      · exact others other same
    refine ⟨fun other found held => ?_, fun first _ _ => Or.inl (blank first), fun _ => ?_⟩
    · rw [blank] at held
      cases held
    · rw [settled]
      exact row

variable (own : column.writes state id = column.written operation.wrote)

include own

theorem edited {edit : Edit π}
    {account : Account π} (read : account.toSecurity = state.row.toSecurity)
    (unrivalled : Unrivalled state id edit.purpose) (row : after.row = edit.apply account)
    (operations : after.operations = state.operations) (settled : after.settled = state.settled)
    (wrote : next.wrote = operation.wrote.andThen edit.purpose) :
    ColumnSound column { after with operations := after.operations.set id next } := by
  have writes (other : Nat) : column.writes after other = column.writes state other := by
    unfold Column.writes
    rw [operations]
  have value : column.read after.row.toSecurity =
      (column.written edit.purpose).getD (column.read state.row.toSecurity) := by
    rw [row, edit.apply_security, column.read_onto, read]
  have written : column.written next.wrote =
      (column.written edit.purpose <|> column.written operation.wrote) := by
    rw [wrote, column.written_andThen]
  cases purpose : column.written edit.purpose with
  | none =>
    rw [purpose] at value written
    have kept : ColumnSound column after := sound.congr value writes (by rw [settled])
    refine kept.put ?_
    rw [written, writes, own]
    rfl
  | some new =>
    rw [purpose] at value written
    refine write new value written fun other differs => ?_
    rw [writes]
    unfold Column.writes
    cases present : state.operations.get other with
    | none => rfl
    | some rival =>
      have member := (state.operations.get_eq_some_iff other rival).mp present
      rcases column.apart (unrivalled (other, rival) member differs) with none | none
      · rw [purpose] at none
        cases none
      · exact none

theorem unchanged (row : after.row = state.row)
    (operations : after.operations = state.operations) (settled : after.settled = state.settled)
    (wrote : next.wrote = operation.wrote) :
    ColumnSound column { after with operations := after.operations.set id next } := by
  have writes (other : Nat) : column.writes after other = column.writes state other := by
    unfold Column.writes
    rw [operations]
  have kept : ColumnSound column after := sound.congr (by rw [row]) writes (by rw [settled])
  refine kept.put ?_
  rw [wrote, writes, own]

theorem executes
    (fresh : WritesFresh state id operation statement)
    (executes : state.Executes operation statement after next) :
    ColumnSound column { after with operations := after.operations.set id next } := by
  cases executes with
  | authenticate | find | lookup => exact sound.unchanged own rfl rfl rfl rfl
  | save found => exact sound.edited own (fresh.1 _ found) fresh.2 rfl rfl rfl rfl
  | resetByToken => exact sound.edited own rfl fresh rfl rfl rfl rfl
  | consume | issue | findToken | revoke | revokeAll => exact sound.unchanged own rfl rfl rfl rfl

end

end ColumnSound

end Columns

/-! ## Operations that wrote complete -/

/-- An operation never ends at the statement. -/
def Statement.Certain : Statement π → Prop
  | .find accepts => ∀ row, accepts row = true
  | .lookup passes => passes = true
  | .save _ => True
  | .revoke _ => True
  | .revokeAll => True
  | _ => False

/-- After a write of a security column, no statement ends the operation; the transaction that
resets a password is the last statement. -/
def Commits : List (Statement π) → Prop
  | [] => True
  | .save edit :: rest =>
    (edit.purpose = {} ∨ ∀ statement ∈ rest, statement.Certain) ∧ Commits rest
  | .resetByToken _ _ _ :: rest => rest = []
  | _ :: rest => Commits rest

/-- An operation in progress that wrote a security column will complete. -/
structure OperationCommits (operation : Operation π) : Prop where
  rest : Commits operation.rest
  certain : operation.wrote = {} ∨
    operation.snapshot.isSome ∧ ∀ statement ∈ operation.rest, statement.Certain

section Commitment

variable {state after : AccountState π} {operation next : Operation π} {statement : Statement π}
  {rest : List (Statement π)} {id : Nat}

theorem Commits.tail (commits : Commits (statement :: rest)) : Commits rest := by
  cases statement with
  | save => exact commits.2
  | resetByToken =>
    rw [show rest = [] from commits]
    trivial
  | _ => exact commits

theorem execute_of_certain (certain : statement.Certain) (read : operation.snapshot.isSome) :
    (state.execute operation statement).isSome := by
  cases statement with
  | find accepts =>
    simp only [execute, certain state.row, if_true, Option.isSome_some]
  | lookup passes =>
    rw [show passes = true from certain]
    rfl
  | save edit =>
    obtain ⟨found, shape⟩ := Option.isSome_iff_exists.mp read
    simp only [execute, shape, Option.isSome_some]
  | revoke | revokeAll => rfl
  | authenticate | resetByToken | consume | issue | findToken => cases certain

theorem Purpose.andThen_blank : Purpose.andThen {} {} = {} := rfl

/-- An operation goes on after a statement that was not its last one. -/
theorem OperationCommits.executes (commits : OperationCommits operation)
    (shape : operation.rest = statement :: rest) (more : rest ≠ [])
    (executes : state.Executes { operation with rest } statement after next) :
    OperationCommits next := by
  have remaining := executes.frame.2.2.2.2.2
  have whole := commits.rest
  rw [shape] at whole
  have later := whole.tail
  rw [← show next.rest = rest from remaining] at later
  refine ⟨later, ?_⟩
  rw [show next.rest = rest from remaining]
  have kept (read : next.snapshot.isSome = true ∨ next.snapshot = operation.snapshot)
      (wrote : next.wrote = operation.wrote) :
      next.wrote = {} ∨ next.snapshot.isSome ∧ ∀ statement ∈ rest, statement.Certain := by
    rcases commits.certain with blank | ⟨found, certain⟩
    · exact Or.inl (wrote.trans blank)
    · refine Or.inr ⟨?_, fun later member => ?_⟩
      · rcases read with read | read
        · exact read
        · rw [read]
          exact found
      · refine certain later ?_
        rw [shape]
        exact List.mem_cons_of_mem _ member
  cases executes with
  | authenticate | find => exact kept (Or.inl rfl) rfl
  | lookup => exact kept (Or.inr rfl) rfl
  | save read =>
    have found : operation.snapshot.isSome = true := by
      rw [show operation.snapshot = some _ from read]
      rfl
    rcases whole.1 with blank | certain
    · rcases commits.certain with nothing | ⟨-, certain⟩
      · left
        simp only [Operation.made, nothing, blank]
        exact Purpose.andThen_blank
      · refine Or.inr ⟨found, fun later member => certain later ?_⟩
        rw [shape]
        exact List.mem_cons_of_mem _ member
    · exact Or.inr ⟨found, certain⟩
  | resetByToken => exact absurd (show rest = [] from whole) more
  | consume | issue | findToken | revoke | revokeAll => exact kept (Or.inr rfl) rfl

end Commitment

/-! ## Interleavings -/

/-- The security columns and the operations in progress. -/
structure SecuritySound (state : AccountState π) : Prop where
  passwordHash : ColumnSound .passwordHash state
  credentialsUpdatedAt : ColumnSound .credentialsUpdatedAt state
  status : ColumnSound .status state
  operations : ∀ id operation, state.operations.get id = some operation →
    OperationCommits operation

section Interleavings

variable {state : AccountState π} {operation : Operation π} {statement : Statement π}
  {rest : List (Statement π)} {id : Nat}

theorem ColumnSound.resume {α : Type} {column : Column α} (sound : ColumnSound column state)
    (found : state.operations.get id = some operation) (shape : operation.rest = statement :: rest)
    (commits : OperationCommits operation) (fresh : WritesFresh state id operation statement) :
    ColumnSound column (state.resume id operation statement rest) := by
  have ticked : ColumnSound column { state with moment := state.moment + 1 } :=
    sound.congr rfl (fun _ => rfl) rfl
  have own : column.writes { state with moment := state.moment + 1 } id =
      column.written ({ operation with rest } : Operation π).wrote := by
    unfold Column.writes
    simp only [found, Option.bind_some]
  have awaited : WritesFresh { state with moment := state.moment + 1 } id { operation with rest }
      statement := by
    cases statement <;> exact fresh
  unfold AccountState.resume
  simp only
  cases executed : execute { state with moment := state.moment + 1 }
      { operation with rest } statement with
  | none =>
    refine ticked.drop ?_
    rw [own]
    rcases commits.certain with blank | ⟨read, certain⟩
    · rw [blank]
      exact column.blank
    · have passes := certain statement (by rw [shape]; exact List.mem_cons_self)
      have runs : (execute { state with moment := state.moment + 1 }
          { operation with rest } statement).isSome := execute_of_certain passes read
      rw [executed] at runs
      cases runs
  | some result =>
    obtain ⟨after, next⟩ := result
    have executes := executes_of_execute executed
    have later := ticked.executes own awaited executes
    unfold proceed
    simp only
    split_ifs
    · have completed := later.complete (OrderedMap.get_set_self after.operations id next)
      unfold AccountState.complete at completed ⊢
      simp only [OrderedMap.erase_set] at completed
      exact completed
    · exact later

theorem OperationCommits.resume
    (commits : ∀ id operation, state.operations.get id = some operation →
      OperationCommits operation)
    (found : state.operations.get id = some operation)
    (shape : operation.rest = statement :: rest) :
    ∀ other later, (state.resume id operation statement rest).operations.get other = some later →
      OperationCommits later := by
  intro other later present
  unfold AccountState.resume at present
  simp only at present
  cases executed : execute { state with moment := state.moment + 1 }
      { operation with rest } statement with
  | none =>
    rw [executed] at present
    simp only [proceed, OrderedMap.get_erase] at present
    split_ifs at present
    exact commits other later present
  | some result =>
    obtain ⟨after, next⟩ := result
    have executes := executes_of_execute executed
    obtain ⟨operations, -, -, -, -, remaining⟩ := executes.frame
    rw [executed] at present
    simp only [proceed] at present
    split_ifs at present with last
    · simp only [AccountState.complete, OrderedMap.get_erase, operations] at present
      split_ifs at present
      exact commits other later present
    · rw [operations] at present
      rcases OrderedMap.get_set_cases present with ⟨-, rfl⟩ | ⟨-, kept⟩
      · refine (commits id operation found).executes shape (fun done => last ?_) executes
        rw [remaining]
        exact List.isEmpty_iff.mpr done
      · exact commits other later kept

namespace SecuritySound

/-- A statement that writes fresh values keeps the columns sound. -/
theorem step (requests : Requests ρ π) (commits : ∀ request, Commits (requests.program request))
    (sound : SecuritySound state) (action : AccountAction ρ) (fresh : FreshWrites state action) :
    SecuritySound (state.step requests action) := by
  cases action with
  | start id request =>
    simp only [AccountState.step]
    split_ifs with present
    · exact sound
    · have absent : state.operations.get id = none := Option.not_isSome_iff_eq_none.mp present
      have blank {α : Type} (column : Column α) :
          column.written {} = column.writes state id := by
        unfold Column.writes
        rw [absent]
        exact column.blank
      refine ⟨sound.passwordHash.put (blank _), sound.credentialsUpdatedAt.put (blank _),
        sound.status.put (blank _),
        OrderedMap.forall_set ⟨commits request, Or.inl rfl⟩ sound.operations⟩
  | resume id =>
    simp only [AccountState.step]
    cases awaits : state.awaiting id with
    | none => exact sound
    | some pending =>
      obtain ⟨operation, statement, rest⟩ := pending
      obtain ⟨found, shape⟩ := get_of_awaiting awaits
      have committed := sound.operations id operation found
      have writes := fresh _ awaits
      exact ⟨sound.passwordHash.resume found shape committed writes,
        sound.credentialsUpdatedAt.resume found shape committed writes,
        sound.status.resume found shape committed writes,
        OperationCommits.resume sound.operations found shape⟩

theorem initial (row : Account π) : SecuritySound (AccountState.initial row) := by
  have column {α : Type} (column : Column α) : ColumnSound column (AccountState.initial row) := by
    refine ⟨fun id value wrote => ?_, fun _ _ _ => Or.inl rfl, fun _ => rfl⟩
    cases wrote
  exact ⟨column _, column _, column _, fun _ _ found => by cases found⟩

theorem noUpdateLost (sound : SecuritySound state) : NoUpdateLost state := by
  intro idle
  have absent (id : Nat) : state.operations.get id = none := by
    rw [OrderedMap.get_eq_none_iff, idle]
    exact List.not_mem_nil
  have blank {α : Type} (column : Column α) (id : Nat) : column.writes state id = none := by
    unfold Column.writes
    rw [absent id]
    rfl
  have hash := sound.passwordHash.settled (blank _)
  have version := sound.credentialsUpdatedAt.settled (blank _)
  have status := sound.status.settled (blank _)
  exact Security.ext hash version status

end SecuritySound

end Interleavings

theorem noUpdateLost_of_freshWrites (requests : Requests ρ π)
    (commits : ∀ request, Commits (requests.program request)) (row : Account π)
    (actions : List (AccountAction ρ))
    (fresh : Meets (AccountState.step requests) FreshWrites (AccountState.initial row) actions) :
    ∀ taken, taken <+: actions →
      NoUpdateLost (run (AccountState.step requests) (AccountState.initial row) taken) := by
  have keeps (state : AccountState π) (action : AccountAction ρ) (sound : SecuritySound state)
      (fresh : FreshWrites state action) : SecuritySound (state.step requests action) :=
    sound.step requests commits action fresh
  intro taken first
  exact (every_state_of_meets _ keeps (SecuritySound.initial row) fresh taken first).noUpdateLost

/-! ## Users and clients -/

theorem userRequests_commits (compare : String → String → Bool) (request : UserRequest) :
    Commits ((userRequests compare).program request) := by
  cases request with
  | adminSetUserStatus status =>
    cases status <;> simp [userRequests, UserRequest.program, Commits]
  | _ => simp [userRequests, UserRequest.program, Commits, Statement.Certain]

theorem clientRequests_commits (compare : String → String → Bool) (request : ClientRequest) :
    Commits ((clientRequests compare).program request) := by
  cases request with
  | setManagedClientStatus ownerActive status =>
    cases status <;> simp [clientRequests, ClientRequest.program, Commits, Statement.Certain]
  | _ => simp [clientRequests, ClientRequest.program, Commits, Statement.Certain]

/-- For every user and every client, in every state of every interleaving in which each save writes
a row whose security columns are still those that its operation read, and writes none on purpose
that another operation in progress wrote already: when no operation is in progress, the status, the
password hash and the version of the credentials are those that the completed operations wrote on
purpose, the last one to complete last. -/
theorem no_update_lost_when_saves_are_fresh (compare : String → String → Bool) :
    (∀ row actions, Meets (AccountState.step (userRequests compare)) FreshWrites
        (AccountState.initial row) actions →
      ∀ taken, taken <+: actions → NoUpdateLost
        (run (AccountState.step (userRequests compare)) (AccountState.initial row) taken)) ∧
    (∀ row actions, Meets (AccountState.step (clientRequests compare)) FreshWrites
        (AccountState.initial row) actions →
      ∀ taken, taken <+: actions → NoUpdateLost
        (run (AccountState.step (clientRequests compare)) (AccountState.initial row) taken)) :=
  ⟨noUpdateLost_of_freshWrites _ (userRequests_commits compare),
    noUpdateLost_of_freshWrites _ (clientRequests_commits compare)⟩

/-- An active user. -/
def activeUser : Account UserProfile where
  passwordHash := "old"
  credentialsUpdatedAt := 1
  status := .active
  profile := ⟨"user@example.com", none, "user"⟩

/-- A phone number is changed, and then the user is blocked. -/
def celularThenBlock : List (AccountAction UserRequest) :=
  [.start 0 (.updateMyCelular (some "11999990000") true), .resume 0, .resume 0, .resume 0,
    .start 1 (.adminSetUserStatus .blocked), .resume 1, .resume 1, .resume 1]

/-- The user is blocked at the end. -/
theorem block_after_celular_holds :
    let final := run (AccountState.step (userRequests (· == ·))) (AccountState.initial activeUser)
      celularThenBlock
    NoUpdateLost final ∧ final.operations.keys = [] ∧ final.row.status = .blocked ∧
      final.row.profile.celular = some "11999990000" :=
  ⟨(no_update_lost_when_saves_are_fresh (· == ·)).1 activeUser celularThenBlock (by decide)
    celularThenBlock (List.prefix_refl _), by decide, by decide, by decide⟩

/-- The change of the phone number reads the row, the user is blocked, and the change saves the row
that it read. -/
def celularAcrossBlock : List (AccountAction UserRequest) :=
  [.start 0 (.updateMyCelular (some "11999990000") true), .resume 0,
    .start 1 (.adminSetUserStatus .blocked), .resume 1, .resume 1, .resume 1,
    .resume 0, .resume 0]

/-- The block is undone by the change of the phone number. -/
theorem celular_undoes_block :
    let final := run (AccountState.step (userRequests (· == ·))) (AccountState.initial activeUser)
      celularAcrossBlock
    ¬NoUpdateLost final ∧ final.settled.status = .blocked ∧ final.row.status = .active := by
  decide

end PlugHub.Accounts
