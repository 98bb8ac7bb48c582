import PlugHub.Profiles.SelfProfile

/-!
# Repeating a profile write

A request over HTTP or a socket may carry a key under which its repetitions are recognised. Once
such a write is committed, its key and the fingerprint of its patch are recorded, and later writes
leave the record alone. What a repetition meets is decided in the order of the code: the document of
the patch, the expectation of the caller, and only then the recorded key.
-/

namespace PlugHub.Profiles

open Library

variable {φ : Type} [DecidableEq φ]

/-- A step of the repository. -/
inductive ProfileOperation (φ : Type) where
  | commit (input : AgentProfileCommitInput φ)
  | update (agent : Agent)

namespace PrismaAgentRepository

/-- The repository after a step. -/
def after (repository : PrismaAgentRepository φ) : ProfileOperation φ → PrismaAgentRepository φ
  | .commit input => (repository.commitAgentProfileChange input).1
  | .update agent => (repository.update agent).getD repository

/-- The repository after steps. -/
def afterAll (repository : PrismaAgentRepository φ) (operations : List (ProfileOperation φ)) :
    PrismaAgentRepository φ :=
  operations.foldl after repository

/-- A key of an agent is recorded with a fingerprint, and the agent is there. -/
structure Recorded (repository : PrismaAgentRepository φ) (agentId key : String)
    (patchFingerprint : φ) : Prop where
  entry : ∃ version,
    repository.idempotencies.get (agentId, key) = some (patchFingerprint, version)
  present : ∃ agent, repository.findById agentId = some agent

variable {repository : PrismaAgentRepository φ}

omit [DecidableEq φ] in
theorem store_eq (input : AgentProfileCommitInput φ) :
    (repository.store input).1 = repository ∨
      (repository.store input).1 = repository.written input := by
  simp only [store]
  split
  · exact Or.inl rfl
  · split
    · exact Or.inl rfl
    · exact Or.inl rfl
    · split
      · exact Or.inl rfl
      · split
        · exact Or.inl rfl
        · split
          · exact Or.inl rfl
          · exact Or.inr rfl

variable {input : AgentProfileCommitInput φ} {agentId key : String} {patchFingerprint : φ}
  {later : PrismaAgentRepository φ}

theorem commit_of_recorded {found : φ × Nat} (recorded : repository.recorded input = some found) :
    (repository.commitAgentProfileChange input).1 = repository := by
  simp only [commitAgentProfileChange, recorded]
  split
  · rfl
  · split
    · rfl
    · split <;> rfl

theorem commit_eq (input : AgentProfileCommitInput φ) :
    (repository.commitAgentProfileChange input).1 = repository ∨
      repository.recorded input = none ∧
        (repository.commitAgentProfileChange input).1 = repository.written input := by
  cases recorded : repository.recorded input with
  | some found => exact Or.inl (commit_of_recorded recorded)
  | none =>
    simp only [commitAgentProfileChange, recorded]
    split
    · exact Or.inl rfl
    · rcases store_eq input with same | wrote
      · exact Or.inl same
      · exact Or.inr ⟨trivial, wrote⟩

omit [DecidableEq φ] in
theorem Recorded.written (recorded : repository.Recorded agentId key patchFingerprint)
    (unknown : repository.recorded input = none) :
    (repository.written input).Recorded agentId key patchFingerprint := by
  obtain ⟨⟨version, entry⟩, agent, present⟩ := recorded
  constructor
  · refine ⟨version, ?_⟩
    unfold PrismaAgentRepository.written
    cases named : dedupeKey? input with
    | none => exact entry
    | some other =>
      simp only
      rw [OrderedMap.get_set_of_ne _ _ ?_]
      · exact entry
      · rintro same
        have missing : repository.idempotencies.get (input.nextAgent.agentId, other) = none := by
          simpa only [PrismaAgentRepository.recorded, named, Option.bind_some] using unknown
        rw [← same, entry] at missing
        cases missing
  · unfold PrismaAgentRepository.written findById
    simp only
    rw [OrderedMap.get_set]
    split
    · exact ⟨_, rfl⟩
    · exact ⟨agent, present⟩

theorem Recorded.after (recorded : repository.Recorded agentId key patchFingerprint)
    (operation : ProfileOperation φ) :
    (repository.after operation).Recorded agentId key patchFingerprint := by
  cases operation with
  | commit input =>
    simp only [PrismaAgentRepository.after]
    rcases repository.commit_eq input with same | ⟨unknown, wrote⟩
    · rw [same]
      exact recorded
    · rw [wrote]
      exact recorded.written unknown
  | update agent =>
    simp only [PrismaAgentRepository.after, PrismaAgentRepository.update]
    split
    · exact recorded
    · split
      · exact recorded
      · obtain ⟨entry, stored, present⟩ := recorded
        refine ⟨entry, ?_⟩
        simp only [Option.getD_some, findById]
        rw [OrderedMap.get_set]
        split
        · exact ⟨_, rfl⟩
        · exact ⟨stored, present⟩

theorem Recorded.afterAll (recorded : repository.Recorded agentId key patchFingerprint)
    (operations : List (ProfileOperation φ)) :
    (repository.afterAll operations).Recorded agentId key patchFingerprint := by
  induction operations generalizing repository with
  | nil => exact recorded
  | cons operation rest ih => exact ih (recorded.after operation)

variable {agent : Agent}

theorem written_of_committed
    (committed : repository.commitAgentProfileChange input = (later, .committed agent)) :
    later = repository.written input := by
  unfold commitAgentProfileChange at committed
  split at committed
  · cases committed
  · split at committed
    · simp only [store] at committed
      split at committed
      · cases committed
      · split at committed
        · cases committed
        · cases committed
        · split at committed
          · cases committed
          · split at committed
            · cases committed
            · split at committed
              · cases committed
              · exact (congrArg Prod.fst committed).symm
    · split at committed
      · cases committed
      · split at committed <;> cases committed

/-- The agent and the key of a commit that is committed are texts that the database takes. -/
theorem storable_of_committed
    (committed : repository.commitAgentProfileChange input = (later, .committed agent)) :
    storable input.nextAgent.agentId = true ∧ (dedupeKey? input).all storable = true := by
  unfold commitAgentProfileChange at committed
  split at committed
  · cases committed
  · next taken => simpa using taken

theorem recorded_of_committed
    (committed : repository.commitAgentProfileChange input = (later, .committed agent))
    (keyed : dedupeKey? input = some key) :
    later.Recorded input.nextAgent.agentId key input.patchFingerprint := by
  rw [written_of_committed committed]
  constructor
  · refine ⟨input.nextAgent.profileVersion, ?_⟩
    unfold PrismaAgentRepository.written
    simp only [keyed]
    exact OrderedMap.get_set_self _ _ _
  · exact ⟨input.nextAgent, OrderedMap.get_set_self _ _ _⟩

/-- The rows are stored under the ids of their agents. -/
def Keyed (repository : PrismaAgentRepository φ) : Prop :=
  ∀ agentId agent, repository.findById agentId = some agent → agent.agentId = agentId

omit [DecidableEq φ] in
theorem Keyed.set (keyed : repository.Keyed) (agent : Agent)
    {next : PrismaAgentRepository φ}
    (stored : next.agents = repository.agents.set agent.agentId agent) : next.Keyed := by
  intro agentId found present
  unfold findById at present
  rw [stored, OrderedMap.get_set] at present
  split at present
  · next same =>
    cases present
    exact same.symm
  · exact keyed agentId found present

theorem Keyed.after (keyed : repository.Keyed) (operation : ProfileOperation φ) :
    (repository.after operation).Keyed := by
  cases operation with
  | commit input =>
    simp only [PrismaAgentRepository.after]
    rcases repository.commit_eq input with same | ⟨-, wrote⟩
    · rw [same]
      exact keyed
    · rw [wrote]
      exact keyed.set input.nextAgent rfl
  | update agent =>
    simp only [PrismaAgentRepository.after, PrismaAgentRepository.update]
    split
    · exact keyed
    · split
      · exact keyed
      · exact keyed.set agent rfl

variable {users : List String}

theorem keyed_afterAll (operations : List (ProfileOperation φ)) :
    (afterAll (initial users) operations : PrismaAgentRepository φ).Keyed := by
  suffices every : ∀ repository : PrismaAgentRepository φ, repository.Keyed →
      (repository.afterAll operations).Keyed from every (initial users) nofun
  induction operations with
  | nil => exact fun _ keyed => keyed
  | cons operation rest ih => exact fun repository keyed => ih _ (keyed.after operation)

theorem keyed_of_committed {earlier : List (ProfileOperation φ)}
    (committed : (afterAll (initial users) earlier).commitAgentProfileChange input =
      (later, .committed agent))
    (operations : List (ProfileOperation φ)) : (later.afterAll operations).Keyed := by
  have reached : later.afterAll operations =
      afterAll (initial users) (earlier ++ .commit input :: operations) := by
    have last : later = (afterAll (initial users) earlier).after (.commit input) :=
      (congrArg Prod.fst committed).symm
    rw [last]
    unfold afterAll
    rw [List.foldl_append, List.foldl_cons]
  rw [reached]
  exact keyed_afterAll _

theorem Recorded.commit (recorded : repository.Recorded agentId key patchFingerprint)
    (plainId : storable agentId = true) (plainKey : storable key = true)
    (about : input.nextAgent.agentId = agentId) (keyed : dedupeKey? input = some key) :
    if input.patchFingerprint = patchFingerprint then
      ∃ agent, repository.commitAgentProfileChange input = (repository, .idempotent agent)
    else repository.commitAgentProfileChange input = (repository, .conflict reusedKeyMessage) := by
  obtain ⟨⟨version, entry⟩, agent, present⟩ := recorded
  have found : repository.recorded input = some (patchFingerprint, version) := by
    simp only [PrismaAgentRepository.recorded, keyed, Option.bind_some, about]
    exact entry
  have taken : (storable agentId && (dedupeKey? input).all storable) = true := by
    rw [keyed, plainId]
    exact plainKey
  have reaches : repository.commitAgentProfileChange input =
      if patchFingerprint ≠ input.patchFingerprint then (repository, .conflict reusedKeyMessage)
      else (repository, .idempotent agent) := by
    simp only [commitAgentProfileChange, about, taken, found, present, Bool.not_true,
      Bool.false_eq_true, if_false]
  rw [reaches]
  split
  · next same => exact ⟨agent, if_neg (not_not.mpr same.symm)⟩
  · next differs => exact if_pos (Ne.symm differs)

end PrismaAgentRepository

/-! ## The law of repetitions -/

/-- `persistProfilePatch`, with the repository when the stored record is read and when the change is
committed. -/
def persistProfilePatch (fingerprint : AgentSelfProfilePatch → φ)
    (input : PersistAgentProfilePatchInput) (now : Nat)
    (readAt commitAt : PrismaAgentRepository φ) :
    PrismaAgentRepository φ × Except ProfileError Agent :=
  match readAt.planFor fingerprint input now with
  | .refuse error => (commitAt, .error error)
  | .keep agent => (commitAt, .ok agent)
  | .commit change =>
    ((commitAt.commitAgentProfileChange change).1,
      (commitAt.commitAgentProfileChange change).2.outcome)

/-- A repetition with the patch of the committed write is answered from the recorded key, and one
with another patch is refused as a conflict; neither changes the repository. -/
def RetryLaw (fingerprint : AgentSelfProfilePatch → φ) (patch : AgentSelfProfilePatch)
    (again : PersistAgentProfilePatchInput) (now : Nat)
    (readAt commitAt : PrismaAgentRepository φ) : Prop :=
  (again.patch = patch → ∃ change agent, readAt.planFor fingerprint again now = .commit change ∧
      commitAt.commitAgentProfileChange change = (commitAt, .idempotent agent)) ∧
  (again.patch ≠ patch → ∃ error, error.IsConflict ∧
    persistProfilePatch fingerprint again now readAt commitAt = (commitAt, .error error))

/-- The document of the repetition is valid, and a repetition with the same patch expects no
version or the one that the agent has when it is read. -/
def RetryUnhindered (patch : AgentSelfProfilePatch) (again : PersistAgentProfilePatchInput)
    (readAt : PrismaAgentRepository φ) : Prop :=
  assertPatchTaxDocumentValid again.patch = none ∧
    (again.patch = patch → ∀ expected ∈ again.expectedProfileVersion,
      ∀ agent ∈ readAt.findById again.agentId, expected = agent.profileVersion)

namespace PersistAgentProfilePatchInput

variable {fingerprint : AgentSelfProfilePatch → φ} {input : PersistAgentProfilePatchInput}

omit [DecidableEq φ] in
theorem plan_of_present (written : input.source ≠ .pullSync) (agent : Agent) (now : Nat) :
    input.plan fingerprint (some agent) now =
      match assertPatchTaxDocumentValid input.patch with
      | some refusal => .refuse (.badRequest refusal.message)
      | none =>
        if input.unexpected (some agent) then .refuse (.conflict expectedVersionMessage)
        else .commit (input.commitOf fingerprint (some agent.profileVersion)
          (input.patched agent (some (input.effectiveProfileUpdatedAt (some agent) now))
            input.lastLoginUserId (input.nextProfileVersion (some agent)))) := by
  unfold plan beforeCommit
  cases refusal : assertPatchTaxDocumentValid input.patch with
  | some refusal => rfl
  | none =>
    cases unexpected : input.unexpected (some agent) with
    | true => rfl
    | false =>
      cases source : input.source with
      | pullSync => exact absurd source written
      | http => rfl
      | socket => rfl

omit [DecidableEq φ] in
theorem beforeCommit_ne_commit {existing : Option Agent} {now : Nat}
    (change : AgentProfileCommitInput φ) :
    input.beforeCommit existing now ≠ some (.commit change) := by
  have versioned (agent : Agent) (remote : Nat) :
      input.pulledVersion agent remote ≠ some (.commit change) := by
    unfold pulledVersion
    split
    · nofun
    · split
      · simp only
        split <;> nofun
      · nofun
  have timed (agent : Agent) : input.pulledTimestamp agent now ≠ some (.commit change) := by
    unfold pulledTimestamp
    simp only
    split
    · nofun
    · split
      · nofun
      · split <;> nofun
    · split <;> nofun
  unfold beforeCommit
  split
  · nofun
  · split
    · nofun
    · split
      · exact versioned _ _
      · exact timed _
      · nofun

omit [DecidableEq φ] in
theorem planned_commit {existing : Option Agent} {now : Nat} {change : AgentProfileCommitInput φ}
    (planned : input.plan fingerprint existing now = .commit change)
    (about : ∀ agent ∈ existing, agent.agentId = input.agentId) :
    change.nextAgent.agentId = input.agentId ∧ change.dedupeKey = input.dedupeKey ∧
      change.patchFingerprint = fingerprint input.patch := by
  have committed : ∃ next, input.nextAgent existing now = some next ∧
      change = input.commitOf fingerprint (existing.map (·.profileVersion)) next := by
    unfold plan at planned
    split at planned
    · next decided early => exact absurd (planned ▸ early) (beforeCommit_ne_commit _)
    · split at planned
      · cases planned
      · next next created =>
        cases planned
        exact ⟨next, created, rfl⟩
  obtain ⟨next, created, rfl⟩ := committed
  refine ⟨?_, rfl, rfl⟩
  unfold nextAgent at created
  simp only at created
  split at created
  · next agent =>
    cases created
    simp only [commitOf, patched, agentId_agentWithStoredDocumentNormalized, Agent.agentId_update]
    exact about agent rfl
  · split at created
    · cases created
    · cases created
      simp only [commitOf, agentId_agentWithStoredDocumentNormalized]
      rfl

omit [DecidableEq φ] in
/-- A change that is planned was planned from what the lookup of the agent has found. -/
theorem plan_of_planFor {repository : PrismaAgentRepository φ} {now : Nat}
    {change : AgentProfileCommitInput φ}
    (planned : repository.planFor fingerprint input now = .commit change) :
    input.plan fingerprint (repository.findById input.agentId) now = .commit change := by
  unfold PrismaAgentRepository.planFor at planned
  split at planned
  · exact planned
  · split at planned <;> cases planned

theorem unexpected_eq_false_iff (agent : Agent) :
    input.unexpected (some agent) = false ↔
      ∀ expected ∈ input.expectedProfileVersion, expected = agent.profileVersion := by
  unfold unexpected
  cases expects : input.expectedProfileVersion with
  | none | some expected => simp

end PersistAgentProfilePatchInput

open PersistAgentProfilePatchInput

open PrismaAgentRepository in
/-- A repetition of a committed write obeys the law exactly when its document is valid and its
expectation, if its patch is the same, is met by the agent that it reads. -/
theorem retry_law_iff (fingerprint : AgentSelfProfilePatch → φ)
    (injective : Function.Injective fingerprint) (users : List String)
    (before between operations meanwhile : List (ProfileOperation φ))
    (first : PersistAgentProfilePatchInput) (firstNow : Nat) (change : AgentProfileCommitInput φ)
    (planned : (afterAll (initial users) before).planFor fingerprint first firstNow =
      .commit change)
    (later : PrismaAgentRepository φ) (agent : Agent)
    (committed : (afterAll (initial users) (before ++ between)).commitAgentProfileChange change =
      (later, .committed agent))
    (key : String) (keyed : first.dedupeKey = some key) (named : key ≠ "")
    (again : PersistAgentProfilePatchInput) (about : again.agentId = first.agentId)
    (sameKey : again.dedupeKey = some key) (submitted : again.source ≠ .pullSync) (now : Nat) :
    RetryLaw fingerprint first.patch again now (later.afterAll operations)
        (later.afterAll (operations ++ meanwhile)) ↔
      RetryUnhindered first.patch again (later.afterAll operations) := by
  have plannedFrom := plan_of_planFor planned
  obtain ⟨owner, carried, marked⟩ := planned_commit plannedFrom
    fun agent stored => keyed_afterAll before first.agentId agent stored
  have counted : dedupeKey? change = some key := by
    unfold dedupeKey?
    rw [carried, keyed]
    simp [named]
  obtain ⟨plainId, plainKey⟩ := storable_of_committed committed
  rw [owner] at plainId
  rw [counted] at plainKey
  have recorded := recorded_of_committed committed counted
  rw [owner, marked] at recorded
  have readAt := recorded.afterAll operations
  have commitAt := recorded.afterAll (operations ++ meanwhile)
  obtain ⟨-, stored, present⟩ := readAt
  have plan : again.plan fingerprint (some stored) now = _ :=
    plan_of_present submitted stored now
  have isStored : (later.afterAll operations).findById again.agentId = some stored := by
    rw [about]
    exact present
  have own := keyed_of_committed committed operations _ _ present
  -- What the repetition is answered once its plan is a commit.
  have answered {next : AgentProfileCommitInput φ}
      (commits : again.plan fingerprint (some stored) now = .commit next) :
      if fingerprint again.patch = fingerprint first.patch then
        ∃ agent, (later.afterAll (operations ++ meanwhile)).commitAgentProfileChange next =
          (later.afterAll (operations ++ meanwhile), .idempotent agent)
      else (later.afterAll (operations ++ meanwhile)).commitAgentProfileChange next =
        (later.afterAll (operations ++ meanwhile), .conflict reusedKeyMessage) := by
    have self : ∀ agent ∈ some stored, agent.agentId = again.agentId := by
      rintro agent ⟨⟩
      exact own.trans about.symm
    obtain ⟨about', keyed', marked'⟩ :=
      planned_commit commits self
    have counted' : dedupeKey? next = some key := by
      unfold dedupeKey?
      rw [keyed', sameKey]
      simp [named]
    have commit := commitAt.commit plainId plainKey (about'.trans about) counted'
    rw [marked'] at commit
    exact commit
  have looked : (later.afterAll operations).planFor fingerprint again now =
      again.plan fingerprint (some stored) now := by
    unfold planFor
    rw [isStored, about, if_pos plainId]
  unfold RetryLaw RetryUnhindered persistProfilePatch
  rw [looked, isStored]
  cases refusal : assertPatchTaxDocumentValid again.patch with
  | some refusal' =>
    have refused : again.plan fingerprint (some stored) now =
        .refuse (.badRequest refusal'.message) := by
      rw [plan, refusal]
    rw [refused]
    constructor
    · rintro ⟨same, other⟩
      by_cases equal : again.patch = first.patch
      · obtain ⟨_, _, commits, -⟩ := same equal
        cases commits
      · obtain ⟨error, conflicts, outcome⟩ := other equal
        cases outcome
        exact conflicts.elim
    · rintro ⟨valid, -⟩
      cases valid
  | none =>
    cases unexpected : again.unexpected (some stored) with
    | true =>
      have refused : again.plan fingerprint (some stored) now =
          .refuse (.conflict expectedVersionMessage) := by
        rw [plan, refusal, unexpected]
        rfl
      rw [refused]
      constructor
      · rintro ⟨same, -⟩
        refine ⟨rfl, fun equal => ?_⟩
        obtain ⟨_, _, commits, -⟩ := same equal
        cases commits
      · rintro ⟨-, met⟩
        refine ⟨fun equal => ?_, fun _ => ⟨.conflict expectedVersionMessage, trivial, rfl⟩⟩
        have expected := (unexpected_eq_false_iff stored).mpr
          fun expected expects => met equal expected expects stored rfl
        rw [unexpected] at expected
        cases expected
    | false =>
      have expected := (unexpected_eq_false_iff stored).mp unexpected
      obtain ⟨next, commits⟩ : ∃ next, again.plan fingerprint (some stored) now = .commit next := by
        rw [plan, refusal, unexpected]
        exact ⟨_, rfl⟩
      have answer := answered commits
      rw [commits]
      refine iff_of_true ⟨fun equal => ?_, fun differs => ?_⟩ ⟨rfl, fun _ => ?_⟩
      · rw [if_pos (congrArg fingerprint equal)] at answer
        obtain ⟨agent, answer⟩ := answer
        exact ⟨next, agent, rfl, answer⟩
      · rw [if_neg fun same => differs (injective same)] at answer
        refine ⟨.conflict reusedKeyMessage, trivial, ?_⟩
        simp only [answer]
        rfl
      · rintro value expects agent ⟨⟩
        exact expected value expects

/-! ## A response that is lost -/

/-- A write over HTTP that creates the agent. -/
def creates : PersistAgentProfilePatchInput :=
  { agentId := "a", patch := { name := some "first" }, source := .http }

/-- A write that expects version 1, under a key. -/
def renames : PersistAgentProfilePatchInput :=
  { agentId := "a", patch := { name := some "second" }, source := .http,
    expectedProfileVersion := some 1, dedupeKey := some "idem:1" }

/-- A write under a key that expects no version. -/
def renamesFreely : PersistAgentProfilePatchInput := { renames with expectedProfileVersion := none }

/-- The commit of the creation. -/
def creation : AgentProfileCommitInput AgentSelfProfilePatch :=
  creates.commitOf id none
    (agentWithStoredDocumentNormalized (creates.createAgentFromPatch "first" 0 1))

/-- The commit of a write that renames. -/
def renamed (input : PersistAgentProfilePatchInput) :
    AgentProfileCommitInput AgentSelfProfilePatch :=
  input.commitOf id (some 1) (input.patched creation.nextAgent (some 5) none 2)

open PrismaAgentRepository in
/-- A write without an expectation, repeated after another one. -/
theorem renamed_freely_again :
    RetryLaw id renamesFreely.patch renamesFreely 9
        (((afterAll (initial []) [.commit creation]).commitAgentProfileChange
          (renamed renamesFreely)).1.afterAll [])
        (((afterAll (initial []) [.commit creation]).commitAgentProfileChange
          (renamed renamesFreely)).1.afterAll ([] ++ [])) := by
  refine (retry_law_iff id Function.injective_id [] [.commit creation] [] [] [] renamesFreely 5
    (renamed renamesFreely) rfl _ (renamed renamesFreely).nextAgent rfl "idem:1" rfl (by decide)
    renamesFreely rfl rfl (by decide) 9).mpr ?_
  exact ⟨rfl, fun _ => nofun⟩

open PrismaAgentRepository in
/-- The response to a write that expects version 1 is lost. The same request again expects version
1 of an agent that has version 2, and is refused before its key is looked up. -/
theorem repeated_write_refused :
    ¬∀ (users : List String) (before : List (ProfileOperation AgentSelfProfilePatch))
      (first : PersistAgentProfilePatchInput) (firstNow : Nat)
      (change : AgentProfileCommitInput AgentSelfProfilePatch)
      (later : PrismaAgentRepository AgentSelfProfilePatch) (agent : Agent) (key : String),
      (afterAll (initial users) before).planFor id first firstNow = .commit change →
      (afterAll (initial users) before).commitAgentProfileChange change =
        (later, .committed agent) →
      first.dedupeKey = some key → key ≠ "" → first.source ≠ .pullSync →
      ∀ (operations : List (ProfileOperation AgentSelfProfilePatch)) (now : Nat),
        RetryLaw id first.patch first now (later.afterAll operations)
          (later.afterAll operations) := by
  intro every
  have law := every [] [.commit creation] renames 5 (renamed renames) _ (renamed renames).nextAgent
    "idem:1" rfl rfl rfl (by decide) (by decide) [] 9
  obtain ⟨change, agent, commits, -⟩ := law.1 rfl
  cases commits

end PlugHub.Profiles
