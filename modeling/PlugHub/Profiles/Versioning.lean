import PlugHub.Library.Runs
import PlugHub.Profiles.Retries

/-!
# The versions of a profile

Calls of `persistProfilePatch` from any source and deactivations of the catalog, interleaved at
their awaits: a call reads the stored agent and later commits its change, a deactivation reads the
agent and later writes the whole row. A log of what was written, the latest first, says what the
rows went through.

A row that is written should follow from the row before it: a committed profile by its patch and
with a higher version, a deactivation by the status alone.
-/

namespace PlugHub.Profiles

open Library

variable {φ : Type} [DecidableEq φ]

/-- A call that has read the agent and will commit a change. -/
structure ProfileCall (φ : Type) where
  input : PersistAgentProfilePatchInput
  existing : Option Agent
  now : Nat
  change : AgentProfileCommitInput φ

/-- A row that was written. -/
inductive ProfileEvent where
  | committed (input : PersistAgentProfilePatchInput) (now : Nat) (agent : Agent)
  | deactivated (agent : Agent)

/-- The row. -/
def ProfileEvent.agent : ProfileEvent → Agent
  | committed _ _ agent => agent
  | deactivated agent => agent

/-- A change was committed. -/
def ProfileEvent.IsCommit : ProfileEvent → Prop
  | committed _ _ _ => True
  | deactivated _ => False

/-- The repository, and what is under way. -/
structure ProfileHistory (φ : Type) where
  repository : PrismaAgentRepository φ
  calls : List (ProfileCall φ) := []
  deactivations : List Agent := []
  log : List ProfileEvent := []

/-- What happens. -/
inductive ProfileAction where
  /-- `persistProfilePatch` reads the agent. -/
  | read (input : PersistAgentProfilePatchInput) (now : Nat)
  | commit (index : Nat)
  /-- `deactivate` reads the agent. -/
  | readToDeactivate (agentId : String)
  | deactivate (index : Nat)

namespace ProfileHistory

variable (fingerprint : AgentSelfProfilePatch → φ) (history : ProfileHistory φ)

/-- No profile is written yet. -/
def initial (users : List String) : ProfileHistory φ :=
  { repository := PrismaAgentRepository.initial users }

/-- `persistProfilePatch`, up to the commit. -/
def read (input : PersistAgentProfilePatchInput) (now : Nat) : ProfileHistory φ :=
  match history.repository.planFor fingerprint input now with
  | .commit change =>
    let existing := history.repository.findById input.agentId
    { history with calls := history.calls ++ [⟨input, existing, now, change⟩] }
  | _ => history

/-- A call commits its change. -/
def commit (index : Nat) : ProfileHistory φ :=
  match history.calls[index]? with
  | none => history
  | some call =>
    match history.repository.commitAgentProfileChange call.change with
    | (repository, .committed agent) =>
      { history with
        repository, calls := history.calls.eraseIdx index
        log := .committed call.input call.now agent :: history.log }
    | (repository, _) =>
      { history with repository, calls := history.calls.eraseIdx index }

/-- `deactivate`, up to the update. -/
def readToDeactivate (agentId : String) : ProfileHistory φ :=
  match history.repository.findById agentId with
  | none => history
  | some agent => { history with deactivations := history.deactivations ++ [agent] }

/-- A deactivation writes the row. -/
def deactivate (index : Nat) : ProfileHistory φ :=
  match history.deactivations[index]? with
  | none => history
  | some agent =>
    match history.repository.update agent.deactivate with
    | none => { history with deactivations := history.deactivations.eraseIdx index }
    | some repository =>
      { history with
        repository, deactivations := history.deactivations.eraseIdx index
        log := .deactivated agent.deactivate :: history.log }

/-- One step. -/
def step : ProfileHistory φ → ProfileAction → ProfileHistory φ
  | history, .read input now => history.read fingerprint input now
  | history, .commit index => history.commit index
  | history, .readToDeactivate agentId => history.readToDeactivate agentId
  | history, .deactivate index => history.deactivate index

end ProfileHistory

/-! ## What is expected of the rows -/

/-- The row of an agent, by the log. -/
def rowOf (log : List ProfileEvent) (agentId : String) : Option Agent :=
  (log.find? fun event => event.agent.agentId = agentId).map ProfileEvent.agent

/-- A row follows from the row before it: a committed profile by its patch and with a higher
version, a deactivation by the status alone. -/
def ProfileEvent.Follows (before : Option Agent) : ProfileEvent → Prop
  | committed input now agent => input.nextAgent before now = some agent ∧
      ∀ previous ∈ before, previous.profileVersion < agent.profileVersion
  | deactivated agent => ∃ previous ∈ before, agent = previous.deactivate

/-- Every row of a log follows from the row before it. -/
def Chained : List ProfileEvent → Prop
  | [] => True
  | event :: earlier => event.Follows (rowOf earlier event.agent.agentId) ∧ Chained earlier

/-- No two agents hold the same document that is not empty. -/
def DocumentsDistinct (repository : PrismaAgentRepository φ) : Prop :=
  ∀ left right first second document, repository.findById left = some first →
    repository.findById right = some second → first.document = some document →
    second.document = some document → document ≠ "" → left = right

/-- What is expected. -/
structure ProfilesLawful (history : ProfileHistory φ) : Prop where
  /-- Every commit of an agent has a higher version than those before it. -/
  versions : history.log.Pairwise fun later earlier => later.IsCommit → earlier.IsCommit →
    earlier.agent.agentId = later.agent.agentId →
      earlier.agent.profileVersion < later.agent.profileVersion
  /-- A deactivated agent stays inactive. -/
  stays : history.log.Pairwise fun later earlier => ¬earlier.IsCommit →
    earlier.agent.agentId = later.agent.agentId → later.agent.status = .inactive
  /-- Every row follows from the row before it: no profile write is lost or undone. -/
  chained : Chained history.log
  /-- A row is what the last write to it left. -/
  rows : ∀ agentId, history.repository.findById agentId = rowOf history.log agentId
  /-- No two agents have one document. -/
  documents : DocumentsDistinct history.repository

/-- A commit finds the status that its call read, unless the version has changed; a deactivation
finds the version that it read. -/
def Undisturbed (history : ProfileHistory φ) : ProfileAction → Prop
  | .commit index => ∀ call ∈ history.calls[index]?, ∀ previous ∈ call.existing,
      ∀ row ∈ history.repository.findById call.input.agentId,
        row.profileVersion = previous.profileVersion → row.status = previous.status
  | .deactivate index => ∀ agent ∈ history.deactivations[index]?,
      ∀ row ∈ history.repository.findById agent.agentId,
        row.profileVersion = agent.profileVersion
  | _ => True

/-! ## What a chained log gives -/

theorem rowOf_cons (event : ProfileEvent) (log : List ProfileEvent) (agentId : String) :
    rowOf (event :: log) agentId =
      if event.agent.agentId = agentId then some event.agent else rowOf log agentId := by
  unfold rowOf
  rw [List.find?_cons]
  by_cases same : event.agent.agentId = agentId
  · simp [same]
  · simp [same]

variable {event : ProfileEvent}

theorem ProfileEvent.Follows.after {before : Option Agent}
    (follows : event.Follows before) {previous : Agent} (there : before = some previous) :
    (event.IsCommit → previous.profileVersion < event.agent.profileVersion) ∧
      previous.profileVersion ≤ event.agent.profileVersion ∧
      (previous.status = .inactive → event.agent.status = .inactive) := by
  subst there
  cases event with
  | committed input now agent =>
    obtain ⟨applied, increases⟩ := follows
    have more := increases previous rfl
    cases applied
    refine ⟨fun _ => more, Nat.le_of_lt more, fun inactive => ?_⟩
    simp only [ProfileEvent.agent, PersistAgentProfilePatchInput.patched,
      status_agentWithStoredDocumentNormalized, Agent.status_update]
    exact inactive
  | deactivated agent =>
    obtain ⟨_, ⟨⟩, rfl⟩ := follows
    exact ⟨False.elim, Nat.le_refl _, fun _ => rfl⟩

variable {log : List ProfileEvent}

theorem Chained.bounds (chained : Chained log) (member : event ∈ log) :
    ∃ row, rowOf log event.agent.agentId = some row ∧
      event.agent.profileVersion ≤ row.profileVersion ∧
      (event.agent.status = .inactive → row.status = .inactive) := by
  induction log with
  | nil => cases member
  | cons latest earlier ih =>
    rw [rowOf_cons]
    rcases List.mem_cons.mp member with rfl | member
    · rw [if_pos rfl]
      exact ⟨event.agent, rfl, Nat.le_refl _, id⟩
    · obtain ⟨row, there, version, status⟩ := ih chained.2 member
      split
      · next same =>
        have follows := chained.1
        rw [same] at follows
        obtain ⟨-, more, kept⟩ := follows.after there
        exact ⟨latest.agent, rfl, Nat.le_trans version more, fun inactive => kept (status inactive)⟩
      · exact ⟨row, there, version, status⟩

theorem Chained.versions (chained : Chained log) :
    log.Pairwise fun later earlier => later.IsCommit → earlier.IsCommit →
      earlier.agent.agentId = later.agent.agentId →
        earlier.agent.profileVersion < later.agent.profileVersion := by
  induction log with
  | nil => exact List.Pairwise.nil
  | cons latest rest ih =>
    refine List.pairwise_cons.mpr ⟨fun earlier member commits _ same => ?_, ih chained.2⟩
    obtain ⟨row, there, version, -⟩ := chained.2.bounds member
    rw [same] at there
    exact Nat.lt_of_le_of_lt version ((chained.1.after there).1 commits)

theorem Chained.inactive (chained : Chained log)
    (member : event ∈ log) (written : ¬event.IsCommit) : event.agent.status = .inactive := by
  induction log with
  | nil => cases member
  | cons latest rest ih =>
    rcases List.mem_cons.mp member with rfl | member
    · cases event with
      | committed input now agent => exact absurd trivial written
      | deactivated agent =>
        obtain ⟨previous, -, rfl⟩ := chained.1
        rfl
    · exact ih chained.2 member

theorem Chained.stays (chained : Chained log) :
    log.Pairwise fun later earlier => ¬earlier.IsCommit →
      earlier.agent.agentId = later.agent.agentId → later.agent.status = .inactive := by
  induction log with
  | nil => exact List.Pairwise.nil
  | cons latest rest ih =>
    refine List.pairwise_cons.mpr ⟨fun earlier member written same => ?_, ih chained.2⟩
    obtain ⟨row, there, -, status⟩ := chained.2.bounds member
    rw [same] at there
    exact (chained.1.after there).2.2 (status (chained.2.inactive member written))

/-! ## What a plan commits -/

namespace PersistAgentProfilePatchInput

variable {fingerprint : AgentSelfProfilePatch → φ} {input : PersistAgentProfilePatchInput}

omit [DecidableEq φ] in
theorem change_of_planned {existing : Option Agent} {now : Nat}
    {change : AgentProfileCommitInput φ}
    (planned : input.plan fingerprint existing now = .commit change) :
    input.beforeCommit (φ := φ) existing now = none ∧
      input.nextAgent existing now = some change.nextAgent ∧
      change.previousProfileVersion = existing.map (·.profileVersion) := by
  unfold plan at planned
  split at planned
  · next decided early => exact absurd (planned ▸ early) (beforeCommit_ne_commit _)
  · next early =>
    split at planned
    · cases planned
    · next next created =>
      cases planned
      exact ⟨early, created, rfl⟩

theorem nextProfileVersion_cases (input : PersistAgentProfilePatchInput) (previous : Agent) :
    (∃ remote, input.source = .pullSync ∧ input.remoteProfileVersion = some remote ∧
      input.nextProfileVersion (some previous) = remote) ∨
    input.nextProfileVersion (some previous) = previous.profileVersion + 1 := by
  unfold nextProfileVersion
  cases source : input.source with
  | http | socket => exact Or.inr rfl
  | pullSync =>
    cases remoteVersion : input.remoteProfileVersion with
    | none => exact Or.inr rfl
    | some remote => exact Or.inl ⟨remote, rfl, rfl, rfl⟩

omit [DecidableEq φ] in
theorem version_of_planned {previous : Agent} {now : Nat} {change : AgentProfileCommitInput φ}
    (planned : input.plan fingerprint (some previous) now = .commit change) :
    previous.profileVersion < change.nextAgent.profileVersion := by
  obtain ⟨early, created, -⟩ := change_of_planned planned
  rw [← Option.some.inj created]
  simp only [patched, profileVersion_agentWithStoredDocumentNormalized,
    Agent.profileVersion_update]
  rcases nextProfileVersion_cases input previous with ⟨remote, source, remoteVersion, next⟩ | next
  · rw [next]
    unfold beforeCommit at early
    rw [source, remoteVersion] at early
    split at early
    · cases early
    · split at early
      · cases early
      · simp only [pulledVersion] at early
        split at early
        · cases early
        · next older =>
          split at early
          · split at early <;> cases early
          · omega
  · rw [next]
    exact Nat.lt_succ_self _

end PersistAgentProfilePatchInput

/-! ## Steps of the repository -/

namespace PrismaAgentRepository

variable {repository : PrismaAgentRepository φ}

/-- What a commit that is committed has found and written. -/
structure Commits (repository : PrismaAgentRepository φ) (input : AgentProfileCommitInput φ) :
    Prop where
  wrote : repository.commitAgentProfileChange input =
    (repository.written input, .committed input.nextAgent)
  version : input.previousProfileVersion =
    (repository.findById input.nextAgent.agentId).map (·.profileVersion)
  document : anotherAgentOwnsDocument repository.agents input.nextAgent.agentId
    input.nextAgent.document = false

/-- A commit is committed, or leaves the repository alone. -/
theorem commits_or_not (input : AgentProfileCommitInput φ) :
    repository.Commits input ∨
      (repository.commitAgentProfileChange input).1 = repository ∧
        ∀ agent, (repository.commitAgentProfileChange input).2 ≠ .committed agent := by
  cases recorded : repository.recorded input with
  | some found =>
    refine Or.inr ⟨commit_of_recorded recorded, fun agent => ?_⟩
    simp only [commitAgentProfileChange, recorded]
    split
    · intro refuted
      cases refuted
    · split
      · intro refuted
        cases refuted
      · split <;> (intro refuted; cases refuted)
  | none =>
    by_cases plain : (storable input.nextAgent.agentId && (dedupeKey? input).all storable) = true
    case neg =>
      refine Or.inr ?_
      simp only [commitAgentProfileChange, plain, Bool.not_false, if_true]
      exact ⟨trivial, fun _ refuted => by cases refuted⟩
    have stores : repository.commitAgentProfileChange input = repository.store input := by
      simp only [commitAgentProfileChange, recorded, plain, Bool.not_true, Bool.false_eq_true,
        if_false]
    rw [stores]
    cases owned : anotherAgentOwnsDocument repository.agents input.nextAgent.agentId
        input.nextAgent.document with
    | true =>
      refine Or.inr ?_
      simp only [store, owned, if_true]
      exact ⟨trivial, fun _ refuted => by cases refuted⟩
    | false =>
      by_cases same : input.previousProfileVersion =
          (repository.findById input.nextAgent.agentId).map (·.profileVersion)
      · have reaches : repository.store input =
            if !repository.takes input then (repository, .failed)
            else if (input.nextAgent.agentId, input.nextAgent.profileVersion) ∈
                repository.revisions then (repository, .failed)
            else (repository.written input, .committed input.nextAgent) := by
          simp only [store, owned, Bool.false_eq_true, if_false]
          rw [same]
          cases repository.findById input.nextAgent.agentId with
          | none => simp only [Option.map_none, ne_eq, not_true_eq_false, if_false]
          | some row => simp only [Option.map_some, ne_eq, not_true_eq_false, if_false]
        rw [reaches]
        split_ifs with fits known
        · exact Or.inr ⟨rfl, fun _ refuted => by cases refuted⟩
        · exact Or.inr ⟨rfl, fun _ refuted => by cases refuted⟩
        · refine Or.inl ⟨?_, same, owned⟩
          rw [stores, reaches, if_neg fits, if_neg known]
      · refine Or.inr ?_
        simp only [store, owned, Bool.false_eq_true, if_false]
        cases previous : input.previousProfileVersion with
        | none =>
          cases row : repository.findById input.nextAgent.agentId with
          | none => exact absurd (by rw [previous, row]; rfl) same
          | some row => exact ⟨rfl, fun _ refuted => by cases refuted⟩
        | some version =>
          cases row : repository.findById input.nextAgent.agentId with
          | none => exact ⟨rfl, fun _ refuted => by cases refuted⟩
          | some found =>
            rw [previous, row] at same
            simp only
            rw [if_pos same]
            exact ⟨rfl, fun _ refuted => by cases refuted⟩

theorem owner_of_not_owned {agents : OrderedMap String Agent} {agentId document : String}
    (free : anotherAgentOwnsDocument agents agentId (some document) = false)
    (named : document ≠ "") {other : String} {agent : Agent}
    (stored : agents.get other = some agent) (holds : agent.document = some document) :
    agent.agentId = agentId := by
  simp only [anotherAgentOwnsDocument, Bool.and_eq_false_iff, decide_eq_false_iff_not,
    not_not] at free
  rcases free with blank | unowned
  · exact absurd blank named
  · have member : agent ∈ agents.values :=
      List.mem_map.mpr ⟨(other, agent), (OrderedMap.get_eq_some_iff _ _ _).mp stored, rfl⟩
    have free := List.any_eq_false.mp unowned agent member
    by_contra differs
    exact free (by simp [differs, holds])

omit [DecidableEq φ] in
theorem documents_set (distinct : DocumentsDistinct repository) (keyed : repository.Keyed)
    {agent : Agent}
    (free : anotherAgentOwnsDocument repository.agents agent.agentId agent.document = false)
    {next : PrismaAgentRepository φ}
    (stored : next.agents = repository.agents.set agent.agentId agent) :
    DocumentsDistinct next := by
  intro left right first second document leftRow rightRow leftHas rightHas named
  unfold findById at leftRow rightRow
  rw [stored, OrderedMap.get_set] at leftRow rightRow
  split at leftRow
  · next same =>
    cases leftRow
    rw [leftHas] at free
    split at rightRow
    · next also => rw [same, also]
    · have owner := owner_of_not_owned free named rightRow rightHas
      rw [same, ← owner]
      exact keyed right second rightRow
  · split at rightRow
    · next same =>
      cases rightRow
      rw [rightHas] at free
      have owner := owner_of_not_owned free named leftRow leftHas
      rw [same, ← owner]
      exact (keyed left first leftRow).symm
    · exact distinct left right first second document leftRow rightRow leftHas rightHas named

/-- What was read is the stored row, up to its status, or an older version. -/
def Descends (repository : PrismaAgentRepository φ) (previous : Agent) : Prop :=
  ∃ row, repository.findById previous.agentId = some row ∧
    previous.profileVersion ≤ row.profileVersion ∧
    (row.profileVersion = previous.profileVersion →
      row.withStatus .active = previous.withStatus .active)

omit [DecidableEq φ] in
theorem Descends.set {previous : Agent} (descends : repository.Descends previous) {agent : Agent}
    (advances : ∀ row ∈ repository.findById agent.agentId,
      row.profileVersion < agent.profileVersion ∨ agent.profileVersion = row.profileVersion ∧
        agent.withStatus .active = row.withStatus .active)
    {next : PrismaAgentRepository φ}
    (stored : next.agents = repository.agents.set agent.agentId agent) :
    next.Descends previous := by
  obtain ⟨row, there, version, same⟩ := descends
  unfold Descends findById
  rw [stored, OrderedMap.get_set]
  by_cases about : previous.agentId = agent.agentId
  · rw [if_pos about]
    rw [about] at there
    refine ⟨agent, rfl, ?_⟩
    rcases advances row there with newer | ⟨equal, status⟩
    · exact ⟨by omega, fun never => absurd never (by omega)⟩
    · refine ⟨by omega, fun reads => ?_⟩
      rw [status]
      exact same (by omega)
  · rw [if_neg about]
    exact ⟨row, there, version, same⟩

end PrismaAgentRepository

/-! ## The invariant -/

/-- What holds in every undisturbed run. -/
structure ProfileHistory.Sound (fingerprint : AgentSelfProfilePatch → φ)
    (history : ProfileHistory φ) : Prop where
  keyed : history.repository.Keyed
  chained : Chained history.log
  rows : ∀ agentId, history.repository.findById agentId = rowOf history.log agentId
  documents : DocumentsDistinct history.repository
  planned : ∀ call ∈ history.calls,
    call.input.plan fingerprint call.existing call.now = .commit call.change
  reads : ∀ call ∈ history.calls, ∀ previous ∈ call.existing,
    previous.agentId = call.input.agentId ∧ history.repository.Descends previous
  deactivations : ∀ agent ∈ history.deactivations, history.repository.Descends agent

namespace ProfileHistory

variable {fingerprint : AgentSelfProfilePatch → φ} {history : ProfileHistory φ}

omit [DecidableEq φ] in
theorem sound_initial (users : List String) : Sound fingerprint (initial users) where
  keyed agentId _ stored := nomatch (OrderedMap.get_empty agentId).symm.trans stored
  chained := trivial
  rows _ := rfl
  documents left _ _ _ _ stored :=
    nomatch (OrderedMap.get_empty (ν := Agent) left).symm.trans stored
  planned := fun _ member => nomatch member
  reads := fun _ member => nomatch member
  deactivations := fun _ member => nomatch member

omit [DecidableEq φ] in
theorem Sound.descends (sound : history.Sound fingerprint) {agentId : String} {agent : Agent}
    (stored : history.repository.findById agentId = some agent) :
    agent.agentId = agentId ∧ history.repository.Descends agent := by
  have own := sound.keyed agentId agent stored
  exact ⟨own, agent, own ▸ stored, Nat.le_refl _, fun _ => rfl⟩

omit [DecidableEq φ] in
theorem Sound.read (sound : history.Sound fingerprint) (input : PersistAgentProfilePatchInput)
    (now : Nat) : (history.read fingerprint input now).Sound fingerprint := by
  unfold ProfileHistory.read
  simp only
  split
  · next change looked =>
    have plan := PersistAgentProfilePatchInput.plan_of_planFor looked
    exact { sound with
      planned := forall_mem_concat sound.planned plan
      reads := forall_mem_concat sound.reads fun previous stored => sound.descends stored }
  · exact sound

omit [DecidableEq φ] in
theorem Sound.write (sound : history.Sound fingerprint) (event : ProfileEvent)
    (follows : event.Follows (history.repository.findById event.agent.agentId))
    (free : anotherAgentOwnsDocument history.repository.agents event.agent.agentId
      event.agent.document = false)
    (advances : ∀ row ∈ history.repository.findById event.agent.agentId,
      row.profileVersion < event.agent.profileVersion ∨
        event.agent.profileVersion = row.profileVersion ∧
          event.agent.withStatus .active = row.withStatus .active)
    {next : ProfileHistory φ}
    (stored : next.repository.agents =
      history.repository.agents.set event.agent.agentId event.agent)
    (log : next.log = event :: history.log)
    (calls : ∀ call ∈ next.calls, call ∈ history.calls)
    (deactivations : ∀ agent ∈ next.deactivations, agent ∈ history.deactivations) :
    next.Sound fingerprint where
  keyed := sound.keyed.set event.agent stored
  chained := by
    rw [log]
    refine ⟨?_, sound.chained⟩
    rw [← sound.rows]
    exact follows
  rows agentId := by
    rw [log, rowOf_cons, ← sound.rows]
    unfold PrismaAgentRepository.findById
    rw [stored, OrderedMap.get_set]
    by_cases same : agentId = event.agent.agentId
    · rw [if_pos same, if_pos same.symm]
    · rw [if_neg same, if_neg (Ne.symm same)]
  documents := PrismaAgentRepository.documents_set sound.documents sound.keyed free stored
  planned call member := sound.planned call (calls call member)
  reads call member previous reads := by
    obtain ⟨about, descends⟩ := sound.reads call (calls call member) previous reads
    exact ⟨about, descends.set advances stored⟩
  deactivations agent member :=
    (sound.deactivations agent (deactivations agent member)).set advances stored

omit [DecidableEq φ] in
theorem Sound.ends (sound : history.Sound fingerprint) {next : ProfileHistory φ}
    (repository : next.repository = history.repository) (log : next.log = history.log)
    (calls : ∀ call ∈ next.calls, call ∈ history.calls)
    (deactivations : ∀ agent ∈ next.deactivations, agent ∈ history.deactivations) :
    next.Sound fingerprint := by
  cases next
  cases history
  simp only at repository log calls deactivations
  subst repository log
  exact { sound with
    planned := fun call member => sound.planned call (calls call member)
    reads := fun call member => sound.reads call (calls call member)
    deactivations := fun agent member => sound.deactivations agent (deactivations agent member) }

/-- A call commits its change, and finds the status that it read unless the version changed. -/
theorem Sound.commit (sound : history.Sound fingerprint) {index : Nat}
    (undisturbed : Undisturbed history (.commit index)) :
    (history.commit index).Sound fingerprint := by
  unfold ProfileHistory.commit
  cases found : history.calls[index]? with
  | none => exact sound
  | some call =>
    have member := List.mem_of_getElem? found
    have planned := sound.planned call member
    obtain ⟨-, created, version⟩ :=
      PersistAgentProfilePatchInput.change_of_planned planned
    obtain ⟨owner, -, -⟩ := PersistAgentProfilePatchInput.planned_commit planned
      fun agent reads => (sound.reads call member agent reads).1
    have kept : ∀ other ∈ history.calls.eraseIdx index, other ∈ history.calls :=
      fun other left => List.mem_of_mem_eraseIdx left
    simp only
    have either : history.repository.Commits call.change ∨ _ :=
      PrismaAgentRepository.commits_or_not call.change
    rcases either with commits | ⟨same, never⟩
    · rw [commits.wrote]
      have stored := commits.version
      rw [version, owner] at stored
      -- The stored row is the one that the call read.
      have before : history.repository.findById call.input.agentId = call.existing := by
        cases existing : call.existing with
        | none =>
          rw [existing] at stored
          exact Option.map_eq_none_iff.mp stored.symm
        | some previous =>
          obtain ⟨about, row, there, -, equal⟩ := sound.reads call member previous existing
          rw [about] at there
          rw [existing, there] at stored
          have reads : row.profileVersion = previous.profileVersion :=
            (Option.some.inj stored).symm
          have status := undisturbed call found previous existing row there reads
          have profile := equal reads
          rw [there]
          have whole : row = previous := by
            cases row
            cases previous
            simp only [Agent.withStatus, Agent.mk.injEq] at profile status ⊢
            exact ⟨profile.1, profile.2.1, profile.2.2.1, profile.2.2.2.1, profile.2.2.2.2.1,
              profile.2.2.2.2.2.1, status⟩
          rw [whole]
      have increases : ∀ row ∈ history.repository.findById call.change.nextAgent.agentId,
          row.profileVersion < call.change.nextAgent.profileVersion := by
        intro row there
        rw [owner, before] at there
        rw [there] at planned
        exact PersistAgentProfilePatchInput.version_of_planned planned
      refine sound.write (.committed call.input call.now call.change.nextAgent) ?_
        commits.document (fun row there => Or.inl (increases row there)) rfl rfl kept
        (fun _ left => left)
      refine ⟨?_, increases⟩
      simp only [ProfileEvent.agent]
      rw [owner, before]
      exact created
    · generalize answer : history.repository.commitAgentProfileChange call.change = result
        at same never
      obtain ⟨repository, result⟩ := result
      simp only at same
      cases result with
      | committed agent => exact absurd rfl (never agent)
      | idempotent agent => exact sound.ends same rfl kept fun _ left => left
      | conflict message => exact sound.ends same rfl kept fun _ left => left
      | documentNotUnique => exact sound.ends same rfl kept fun _ left => left
      | failed => exact sound.ends same rfl kept fun _ left => left

omit [DecidableEq φ] in
theorem Sound.readToDeactivate (sound : history.Sound fingerprint) (agentId : String) :
    (history.readToDeactivate agentId).Sound fingerprint := by
  unfold ProfileHistory.readToDeactivate
  cases stored : history.repository.findById agentId with
  | none => exact sound
  | some agent =>
    exact { sound with
      deactivations := forall_mem_concat sound.deactivations (sound.descends stored).2 }

omit [DecidableEq φ] in
theorem Sound.deactivate (sound : history.Sound fingerprint) {index : Nat}
    (undisturbed : Undisturbed history (.deactivate index)) :
    (history.deactivate index).Sound fingerprint := by
  unfold ProfileHistory.deactivate
  cases found : history.deactivations[index]? with
  | none => exact sound
  | some agent =>
    have member := List.mem_of_getElem? found
    have kept : ∀ other ∈ history.deactivations.eraseIdx index, other ∈ history.deactivations :=
      fun other left => List.mem_of_mem_eraseIdx left
    obtain ⟨row, there, -, equal⟩ := sound.deactivations agent member
    have profile := equal (undisturbed agent found row there)
    have whole : agent.deactivate = row.deactivate := by
      have both := congrArg (fun other : Agent => other.withStatus .inactive) profile
      exact both.symm
    simp only
    cases updated : history.repository.update agent.deactivate with
    | none => exact sound.ends rfl rfl (fun _ left => left) kept
    | some repository =>
      unfold PrismaAgentRepository.update at updated
      split at updated
      · cases updated
      · split at updated
        · cases updated
        · next refused =>
          cases updated
          obtain ⟨free, -⟩ := Bool.or_eq_false_iff.mp (Bool.eq_false_iff.mpr refused)
          refine sound.write (.deactivated agent.deactivate) ?_ free ?_ rfl rfl
            (fun _ left => left) kept
          · exact ⟨row, there, whole⟩
          · intro other stored
            have same : some row = some other := there.symm.trans stored
            cases same
            simp only [ProfileEvent.agent]
            rw [whole]
            exact Or.inr ⟨rfl, rfl⟩

/-- An undisturbed action keeps the history sound. -/
theorem Sound.step (sound : history.Sound fingerprint) {action : ProfileAction}
    (undisturbed : Undisturbed history action) :
    (ProfileHistory.step fingerprint history action).Sound fingerprint := by
  cases action with
  | read input now => exact sound.read input now
  | commit index => exact sound.commit undisturbed
  | readToDeactivate agentId => exact sound.readToDeactivate agentId
  | deactivate index => exact sound.deactivate undisturbed

omit [DecidableEq φ] in
theorem Sound.lawful (sound : history.Sound fingerprint) : ProfilesLawful history :=
  { sound with
    versions := sound.chained.versions
    stays := sound.chained.stays }

end ProfileHistory

end PlugHub.Profiles
