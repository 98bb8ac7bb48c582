import PlugHub.Profiles.Versioning

/-!
# The repository in memory and the one of the database

Calls that run one after the other, each from its read to its write, against both repositories. The
two hold the same agents and the same recorded keys, so each call is answered alike; what the one
checks and the other does not never comes up: that a column takes a value, that a text has no NUL
and that the user of a last login is known.
-/

namespace PlugHub.Profiles

open Library
open OrderedMap (get_empty get_set)

variable {φ : Type} [DecidableEq φ]

/-- A call that runs alone. -/
inductive SequentialCall where
  /-- `persistProfilePatch`. -/
  | persist (input : PersistAgentProfilePatchInput) (now : Nat)
  /-- `deactivate`. -/
  | deactivate (agentId : String)

/-- What a call is answered. -/
inductive SequentialOutcome where
  | answered (result : Except ProfileError Agent)
  | notFound

/-- A call against the database. -/
def PrismaAgentRepository.call (fingerprint : AgentSelfProfilePatch → φ)
    (repository : PrismaAgentRepository φ) :
    SequentialCall → PrismaAgentRepository φ × SequentialOutcome
  | .persist input now =>
    let written := persistProfilePatch fingerprint input now repository repository
    (written.1, .answered written.2)
  | .deactivate agentId =>
    if !storable agentId then (repository, .answered (.error .database))
    else match repository.findById agentId with
    | none => (repository, .notFound)
    | some agent =>
      match repository.update agent.deactivate with
      | none => (repository, .answered (.error .database))
      | some next => (next, .answered (.ok agent.deactivate))

open PrismaAgentRepository

/-- A call against the memory. -/
def InMemoryAgentRepository.call (fingerprint : AgentSelfProfilePatch → φ)
    (repository : InMemoryAgentRepository φ) :
    SequentialCall → InMemoryAgentRepository φ × SequentialOutcome
  | .persist input now =>
    match input.plan fingerprint (repository.findById input.agentId) now with
    | .refuse error => (repository, .answered (.error error))
    | .keep agent => (repository, .answered (.ok agent))
    | .commit change =>
      ((repository.commitAgentProfileChange change).1,
        .answered (repository.commitAgentProfileChange change).2.outcome)
  | .deactivate agentId =>
    match repository.findById agentId with
    | none => (repository, .notFound)
    | some agent => (repository.update agent.deactivate, .answered (.ok agent.deactivate))

/-- What calls are answered, one after the other. -/
def outcomes {σ : Type} (call : σ → SequentialCall → σ × SequentialOutcome) :
    σ → List SequentialCall → List SequentialOutcome
  | _, [] => []
  | repository, next :: rest =>
    (call repository next).2 :: outcomes call (call repository next).1 rest

/-- The id of the agent that a call looks up has no NUL, and the tables of the database take the
change that it commits. -/
def Fits (fingerprint : AgentSelfProfilePatch → φ) (repository : PrismaAgentRepository φ) :
    SequentialCall → Prop
  | .persist input now =>
      (assertPatchTaxDocumentValid input.patch = none → storable input.agentId = true) ∧
        ∀ change, repository.planFor fingerprint input now = .commit change →
          repository.takes change = true
  | .deactivate agentId => storable agentId = true

/-- The key of a call, with its agent. -/
def SequentialCall.key? : SequentialCall → Option (String × String)
  | .persist input _ => input.dedupeKey.map fun key => (input.agentId, key)
  | .deactivate _ => none

/-- Different keys of the calls have different texts in memory. -/
def KeysApart (calls : List SequentialCall) : Prop :=
  ∀ first ∈ calls, ∀ second ∈ calls, ∀ left ∈ first.key?, ∀ right ∈ second.key?,
    idemKey left.1 left.2 = idemKey right.1 right.2 → left = right

/-- The repositories hold the same agents and, for the keys of the calls, the same records. -/
structure Agrees (known : String × String → Prop) (prisma : PrismaAgentRepository φ)
    (memory : InMemoryAgentRepository φ) : Prop where
  agents : prisma.agents = memory.agentsById
  keys : ∀ key, known key →
    memory.profileIdempotency.get (idemKey key.1 key.2) = prisma.idempotencies.get key
  keyed : prisma.Keyed
  documents : DocumentsDistinct prisma
  /-- A revision is of a version the agent has reached. -/
  revisions : ∀ revision ∈ prisma.revisions, ∃ agent,
    prisma.findById revision.1 = some agent ∧ revision.2 ≤ agent.profileVersion
  /-- The table takes every row that it has. -/
  taken : ∀ agentId agent, prisma.findById agentId = some agent → prisma.takesRow agent = true

variable {fingerprint : AgentSelfProfilePatch → φ} {known : String × String → Prop}
  {prisma : PrismaAgentRepository φ} {memory : InMemoryAgentRepository φ}

omit [DecidableEq φ] in
theorem agrees_initial (known : String × String → Prop) (users : List String) :
    Agrees (φ := φ) known (.initial users) {} where
  agents := rfl
  keys _ _ := rfl
  keyed agentId _ stored := nomatch (get_empty agentId).symm.trans stored
  documents left _ _ _ _ stored :=
    nomatch (get_empty (ν := Agent) left).symm.trans stored
  revisions := fun _ member => nomatch member
  taken agentId _ stored := nomatch (get_empty agentId).symm.trans stored

omit [DecidableEq φ] in
theorem Agrees.findById (agrees : Agrees known prisma memory) (agentId : String) :
    memory.findById agentId = prisma.findById agentId := by
  unfold InMemoryAgentRepository.findById PrismaAgentRepository.findById
  rw [agrees.agents]

omit [DecidableEq φ] in
theorem Agrees.written (agrees : Agrees known prisma memory)
    (apart : ∀ left right, known left → known right →
      idemKey left.1 left.2 = idemKey right.1 right.2 → left = right)
    (input : AgentProfileCommitInput φ)
    (among : ∀ key ∈ dedupeKey? input, known (input.nextAgent.agentId, key))
    (free : anotherAgentOwnsDocument prisma.agents input.nextAgent.agentId
      input.nextAgent.document = false)
    (raises : ∀ agent ∈ prisma.findById input.nextAgent.agentId,
      agent.profileVersion ≤ input.nextAgent.profileVersion)
    (fits : prisma.takesRow input.nextAgent = true) :
    Agrees known (prisma.written input) (memory.written input) where
  agents := by
    unfold PrismaAgentRepository.written InMemoryAgentRepository.written
    simp only
    rw [agrees.agents]
  keys key member := by
    unfold PrismaAgentRepository.written InMemoryAgentRepository.written
    cases named : dedupeKey? input with
    | none => exact agrees.keys key member
    | some text =>
      simp only
      rw [get_set, get_set, agrees.keys key member]
      by_cases same : key = (input.nextAgent.agentId, text)
      · rw [if_pos same, if_pos (by rw [same])]
      · rw [if_neg same, if_neg fun texts => same (apart key _ member (among text named) texts)]
  keyed := agrees.keyed.set input.nextAgent rfl
  documents := documents_set agrees.documents agrees.keyed free rfl
  revisions revision member := by
    unfold PrismaAgentRepository.findById PrismaAgentRepository.written
    simp only
    rw [get_set]
    rcases List.mem_append.mp member with earlier | last
    · obtain ⟨agent, there, bound⟩ := agrees.revisions revision earlier
      split
      · next same =>
        rw [same] at there
        exact ⟨_, rfl, Nat.le_trans bound (raises agent there)⟩
      · exact ⟨agent, there, bound⟩
    · rw [List.mem_singleton.mp last, if_pos rfl]
      exact ⟨_, rfl, Nat.le_refl _⟩
  taken agentId agent stored := by
    unfold PrismaAgentRepository.findById PrismaAgentRepository.written at stored
    simp only at stored
    rw [get_set] at stored
    split at stored
    · cases stored
      exact fits
    · exact agrees.taken agentId agent stored

variable {input : AgentProfileCommitInput φ}

omit [DecidableEq φ] in
/-- A commit whose rows the tables take has texts that the lookups take. -/
theorem storable_of_takes (fits : prisma.takes input = true) :
    (storable input.nextAgent.agentId && (dedupeKey? input).all storable) = true := by
  simp only [takes, takesRow, Bool.and_eq_true,
    PlugHub.Profiles.fits, Option.all_some] at fits
  obtain ⟨⟨⟨⟨⟨⟨⟨⟨⟨-, plainId⟩, -⟩, -⟩, -⟩, -⟩, -⟩, -⟩, -⟩, key⟩ := fits
  rw [plainId, Bool.true_and]
  unfold dedupeKey?
  cases given : input.dedupeKey with
  | none => rfl
  | some text =>
    rw [given] at key
    simp only [Option.all_some, Bool.and_eq_true] at key
    rw [Option.filter_some]
    split
    · exact key.2
    · rfl

omit [DecidableEq φ] in
theorem Agrees.recorded (agrees : Agrees known prisma memory)
    (among : ∀ key ∈ dedupeKey? input, known (input.nextAgent.agentId, key)) :
    memory.recorded input = prisma.recorded input := by
  unfold InMemoryAgentRepository.recorded PrismaAgentRepository.recorded
  cases named : dedupeKey? input with
  | none => rfl
  | some key => exact agrees.keys _ (among key named)

/-- A change of what was just read is answered alike by both, and they still agree. -/
theorem Agrees.commit (agrees : Agrees known prisma memory)
    (apart : ∀ left right, known left → known right →
      idemKey left.1 left.2 = idemKey right.1 right.2 → left = right)
    (among : ∀ key ∈ dedupeKey? input, known (input.nextAgent.agentId, key))
    (version : input.previousProfileVersion =
      (prisma.findById input.nextAgent.agentId).map (·.profileVersion))
    (raises : ∀ agent ∈ prisma.findById input.nextAgent.agentId,
      agent.profileVersion < input.nextAgent.profileVersion) (fits : prisma.takes input = true) :
    (prisma.commitAgentProfileChange input).2 = (memory.commitAgentProfileChange input).2 ∧
      Agrees known (prisma.commitAgentProfileChange input).1
        (memory.commitAgentProfileChange input).1 := by
  unfold commitAgentProfileChange
    InMemoryAgentRepository.commitAgentProfileChange
  rw [agrees.recorded among, agrees.findById, storable_of_takes fits]
  simp only [Bool.not_true, Bool.false_eq_true, if_false]
  cases recorded : prisma.recorded input with
  | some found =>
    simp only
    split
    · exact ⟨rfl, agrees⟩
    · split <;> exact ⟨rfl, agrees⟩
  | none =>
    simp only
    have row : prisma.takesRow input.nextAgent = true := by
      simp only [takes, Bool.and_eq_true] at fits
      exact fits.1.1.1.1
    have written := agrees.written apart input among
    have unknown : (input.nextAgent.agentId, input.nextAgent.profileVersion) ∉
        prisma.revisions := by
      intro member
      obtain ⟨agent, there, bound⟩ := agrees.revisions _ member
      exact absurd (raises agent there) (Nat.not_lt.mpr bound)
    simp only [store, InMemoryAgentRepository.store, agrees.findById,
      ← agrees.agents]
    cases owned : anotherAgentOwnsDocument prisma.agents input.nextAgent.agentId
        input.nextAgent.document with
    | true =>
      cases current : prisma.findById input.nextAgent.agentId with
      | none =>
        rw [current] at version
        rw [version]
        exact ⟨rfl, agrees⟩
      | some agent =>
        rw [current] at version
        rw [version]
        simp only [if_true, Option.map_some, ne_eq, not_true_eq_false, if_false]
        exact ⟨trivial, agrees⟩
    | false =>
      have both := written owned (fun agent there => Nat.le_of_lt (raises agent there)) row
      cases current : prisma.findById input.nextAgent.agentId with
      | none =>
        rw [current] at version
        rw [version]
        simp only [Bool.false_eq_true, if_false, Option.map_none, ne_eq, not_true_eq_false, fits,
          Bool.not_true, unknown]
        exact ⟨trivial, both⟩
      | some agent =>
        rw [current] at version
        rw [version]
        simp only [Bool.false_eq_true, if_false, Option.map_some, ne_eq, not_true_eq_false, fits,
          Bool.not_true, unknown]
        exact ⟨trivial, both⟩

omit [DecidableEq φ] in
/-- A deactivation of a stored agent is answered alike by both, and they still agree. -/
theorem Agrees.deactivate (agrees : Agrees known prisma memory) {agentId : String} {agent : Agent}
    (stored : prisma.findById agentId = some agent) :
    ∃ next, prisma.update agent.deactivate = some next ∧
      Agrees known next (memory.update agent.deactivate) := by
  have own := agrees.keyed agentId agent stored
  have row : prisma.takesRow agent.deactivate = true := agrees.taken agentId agent stored
  rw [← own] at stored
  have free : anotherAgentOwnsDocument prisma.agents agent.deactivate.agentId
      agent.deactivate.document = false := by
    unfold anotherAgentOwnsDocument
    cases document : agent.deactivate.document with
    | none => rfl
    | some text =>
      simp only [Bool.and_eq_false_iff, decide_eq_false_iff_not, not_not]
      by_cases blank : text = ""
      · exact Or.inl blank
      · refine Or.inr (List.any_eq_false.mpr fun other member owns => ?_)
        obtain ⟨⟨key, _⟩, entry, rfl⟩ := List.mem_map.mp member
        have row := (OrderedMap.get_eq_some_iff _ _ _).mpr entry
        simp only [Bool.and_eq_true, decide_eq_true_eq] at owns
        have same := agrees.documents key agent.agentId _ agent text row stored owns.2 document
          blank
        exact owns.1 ((agrees.keyed key _ row).trans same)
  refine ⟨{ prisma with agents := prisma.agents.set agent.agentId agent.deactivate }, ?_, ?_⟩
  · unfold update
    have there : prisma.findById agent.deactivate.agentId = some agent := stored
    rw [there, free, row]
    rfl
  · refine ⟨?_, agrees.keys, agrees.keyed.set agent.deactivate rfl,
      documents_set agrees.documents agrees.keyed free rfl, ?_, ?_⟩
    · unfold InMemoryAgentRepository.update
      rw [← agrees.agents]
      rfl
    · intro revision member
      obtain ⟨row, there, bound⟩ := agrees.revisions revision member
      unfold PrismaAgentRepository.findById
      simp only
      rw [get_set]
      split
      · next same =>
        rw [same, stored] at there
        cases there
        exact ⟨_, rfl, bound⟩
      · exact ⟨row, there, bound⟩
    · intro other found there
      unfold PrismaAgentRepository.findById at there
      simp only at there
      rw [get_set] at there
      split at there
      · cases there
        exact row
      · exact agrees.taken other found there

theorem Agrees.call (agrees : Agrees known prisma memory)
    (apart : ∀ left right, known left → known right →
      idemKey left.1 left.2 = idemKey right.1 right.2 → left = right)
    {call : SequentialCall} (among : ∀ key ∈ call.key?, known key)
    (fits : Fits fingerprint prisma call) :
    (prisma.call fingerprint call).2 = (memory.call fingerprint call).2 ∧
      Agrees known (prisma.call fingerprint call).1 (memory.call fingerprint call).1 := by
  cases call with
  | persist input now =>
    obtain ⟨plain, fits⟩ := fits
    have looked : prisma.planFor fingerprint input now =
        input.plan fingerprint (prisma.findById input.agentId) now := by
      unfold planFor
      cases refusal : assertPatchTaxDocumentValid input.patch with
      | none => exact if_pos (plain refusal)
      | some refusal' =>
        split
        · rfl
        · simp only [PersistAgentProfilePatchInput.plan,
            PersistAgentProfilePatchInput.beforeCommit, refusal]
    simp only [PrismaAgentRepository.call, InMemoryAgentRepository.call, persistProfilePatch,
      agrees.findById, looked]
    rw [looked] at fits
    cases plan : input.plan fingerprint (prisma.findById input.agentId) now with
    | refuse error => exact ⟨rfl, agrees⟩
    | keep agent => exact ⟨rfl, agrees⟩
    | commit change =>
      obtain ⟨owner, carried, -⟩ := PersistAgentProfilePatchInput.planned_commit plan
        (agrees.keyed input.agentId)
      obtain ⟨-, -, version⟩ := PersistAgentProfilePatchInput.change_of_planned plan
      rw [← owner] at version
      have raises : ∀ agent ∈ prisma.findById change.nextAgent.agentId,
          agent.profileVersion < change.nextAgent.profileVersion := by
        intro agent there
        rw [owner] at there
        rw [there] at plan
        exact PersistAgentProfilePatchInput.version_of_planned plan
      have keys : ∀ key ∈ dedupeKey? change, known (change.nextAgent.agentId, key) := by
        intro key named
        have given := (Option.filter_eq_some_iff.mp named).1
        rw [carried] at given
        rw [owner]
        refine among _ ?_
        simp only [SequentialCall.key?]
        rw [given]
        rfl
      obtain ⟨answer, agree⟩ := agrees.commit apart keys version raises (fits change plan)
      exact ⟨by simp only [answer], agree⟩
  | deactivate agentId =>
    have plain : storable agentId = true := fits
    simp only [PrismaAgentRepository.call, InMemoryAgentRepository.call, agrees.findById, plain,
      Bool.not_true, Bool.false_eq_true, if_false]
    cases stored : prisma.findById agentId with
    | none => exact ⟨rfl, agrees⟩
    | some agent =>
      obtain ⟨next, updated, agree⟩ := agrees.deactivate stored
      simp only [updated]
      exact ⟨trivial, agree⟩

theorem Agrees.outcomes (agrees : Agrees known prisma memory)
    (apart : ∀ left right, known left → known right →
      idemKey left.1 left.2 = idemKey right.1 right.2 → left = right)
    {calls : List SequentialCall} (among : ∀ call ∈ calls, ∀ key ∈ call.key?, known key)
    (fits : Meets (fun repository call => (repository.call fingerprint call).1)
      (Fits fingerprint) prisma calls) :
    outcomes (PrismaAgentRepository.call fingerprint) prisma calls =
      outcomes (InMemoryAgentRepository.call fingerprint) memory calls := by
  induction calls generalizing prisma memory with
  | nil => rfl
  | cons call rest ih =>
    obtain ⟨answer, agree⟩ := agrees.call apart (among call List.mem_cons_self) fits.1
    unfold PlugHub.Profiles.outcomes
    rw [answer, ih agree (fun later member => among later (List.mem_cons_of_mem _ member)) fits.2]

/-- In every undisturbed run the rows are as expected; and calls one after the other, whose changes
the tables take and whose keys have texts of their own, are answered alike by the repository in
memory. -/
theorem profile_versions_when_undisturbed (fingerprint : AgentSelfProfilePatch → φ)
    (users : List String) :
    (∀ actions, Meets (ProfileHistory.step fingerprint) Undisturbed (.initial users) actions →
      ∀ taken, taken <+: actions →
        ProfilesLawful (run (ProfileHistory.step fingerprint) (.initial users) taken)) ∧
    ∀ calls, KeysApart calls →
      Meets (fun repository call => (repository.call fingerprint call).1) (Fits fingerprint)
        (initial users) calls →
      outcomes (PrismaAgentRepository.call fingerprint) (.initial users) calls =
        outcomes (InMemoryAgentRepository.call fingerprint) {} calls := by
  constructor
  · intro actions undisturbed taken first
    have keeps : ∀ (history : ProfileHistory φ) (action : ProfileAction),
        history.Sound fingerprint → Undisturbed history action →
          (ProfileHistory.step fingerprint history action).Sound fingerprint :=
      fun _ _ sound met => sound.step met
    have sound :
        (run (ProfileHistory.step fingerprint) (.initial users) taken).Sound fingerprint :=
      every_state_of_meets _ keeps (ProfileHistory.sound_initial users) undisturbed taken first
    exact sound.lawful
  · intro calls apart fits
    have agrees := agrees_initial (φ := φ) (fun key => ∃ call ∈ calls, key ∈ call.key?) users
    refine agrees.outcomes ?_ (fun call member key named => ⟨call, member, named⟩) fits
    rintro left right ⟨first, member, named⟩ ⟨second, also, other⟩ texts
    exact apart first member second also left named right other texts

/-! ## A profile that is lost -/

/-- A name that a user sets. -/
def naming (name : String) : PersistAgentProfilePatchInput :=
  { agentId := "a", patch := { name := some name }, source := .http, lastLoginUserId := some "u" }

/-- A profile is created, the agent deactivated and the profile renamed, one after the other. -/
theorem named_and_deactivated :
    ProfilesLawful (run (ProfileHistory.step (id : AgentSelfProfilePatch → _)) (.initial ["u"])
      [.read (naming "first") 0, .commit 0, .readToDeactivate "a", .deactivate 0,
        .read (naming "second") 5, .commit 0]) ∧
    outcomes (PrismaAgentRepository.call (id : AgentSelfProfilePatch → _)) (.initial ["u"])
        [.persist (naming "first") 0, .deactivate "a"] =
      outcomes (InMemoryAgentRepository.call id) {}
        [.persist (naming "first") 0, .deactivate "a"] := by
  refine ⟨(profile_versions_when_undisturbed id ["u"]).1 _ ?_ _ (List.prefix_refl _),
    (profile_versions_when_undisturbed id ["u"]).2 _ ?_ ?_⟩
  · refine ⟨trivial, ?_, trivial, ?_, trivial, ?_, trivial⟩
    · rintro call ⟨⟩ previous ⟨⟩
    · rintro agent ⟨⟩ row ⟨⟩
      rfl
    · rintro call ⟨⟩ previous ⟨⟩ row ⟨⟩ -
      rfl
  · intro first member second also left named
    simp only [List.mem_cons, List.not_mem_nil, or_false] at member
    rcases member with rfl | rfl <;> cases named
  · have plain : storable "a" = true := by decide
    refine ⟨⟨fun _ => plain, ?_⟩, plain, trivial⟩
    rintro change ⟨⟩
    decide

/-- A deactivation reads the agent, a new name is committed, and the deactivation writes the whole
row that it read: the name is lost and the version goes back. -/
theorem deactivation_loses_name :
    ¬((∀ users actions taken, taken <+: actions →
        ProfilesLawful (run (ProfileHistory.step (id : AgentSelfProfilePatch → _))
          (.initial users) taken)) ∧
      ∀ users calls,
        outcomes (PrismaAgentRepository.call (id : AgentSelfProfilePatch → _)) (.initial users)
          calls = outcomes (InMemoryAgentRepository.call id) {} calls) := by
  rintro ⟨every, -⟩
  have lawful := every ["u"] _ [.read (naming "first") 0, .commit 0, .readToDeactivate "a",
    .read (naming "second") 5, .commit 0, .deactivate 0] (List.prefix_refl _)
  obtain ⟨previous, there, row⟩ := lawful.chained.1
  have version := congrArg Agent.profileVersion row
  cases there
  exact absurd version (by decide)

end PlugHub.Profiles
