import PlugHub.Library.Runs
import PlugHub.Library.TtlCache

/-!
# Checks that are answered from a cache

A check asks a repository one question after the other and grants or refuses. What it grants is
stored in a cache and answers later checks with the same key. The data of the repository change
while checks wait for it; a change that takes something away has the keys it concerns deleted from
the cache, some time after the change itself.

Every change has a number, and every check and every stored answer remembers the number of the
last change before it first read. Two laws are of interest: no check that was asked after a
deletion is granted on data read before the change that the deletion belongs to, and what the cache
answers is what the repository would have answered. `Timely` says of a step that it breaks
neither.
-/

namespace PlugHub.Library

/-! ## Programs -/

/-- Where a check is. -/
inductive CheckStage (σ ρ : Type) where
  | reading (question : σ)
  | has (result : ρ)

/-- A check against data `δ` for requests `θ`, with questions `σ` to the repository and their
results `ρ`, refusals `ε`, grants `ν`, cache keys `κ`, and changes `χ` of the data. -/
structure CheckProgram (δ θ σ ρ ε ν κ χ : Type) where
  key : θ → κ
  cacheable : θ → Bool
  start : θ → σ
  read : δ → θ → σ → ρ
  /-- What the check does with the answer: ask the next question, refuse or grant. -/
  resume : θ → ρ → σ ⊕ Except ε ν
  apply : χ → δ → δ
  /-- Which keys are deleted from the cache after a change, if any are. -/
  scope : χ → Option (κ → Bool)

variable {δ θ σ ρ ε ν κ χ : Type}

namespace CheckProgram

variable (program : CheckProgram δ θ σ ρ ε ν κ χ)

/-- What a check comes to that goes on from a question, while the data stay as they are. -/
inductive Answers (data : δ) (request : θ) : σ → Except ε ν → Prop where
  | last {question : σ} {outcome : Except ε ν}
      (settles : program.resume request (program.read data request question) = .inr outcome) :
      Answers data request question outcome
  | next {question later : σ} {outcome : Except ε ν}
      (goesOn : program.resume request (program.read data request question) = .inl later)
      (rest : Answers data request later outcome) : Answers data request question outcome

/-- The check would grant the request if it did not look into the cache. -/
def Grants (data : δ) (request : θ) : Prop :=
  ∃ value, program.Answers data request (program.start request) (.ok value)

end CheckProgram

/-- What is relied on about a program: which requests may share an answer, when a change takes
something away from a request, and that what a check has read stays good as long as none does. -/
structure CheckRules (program : CheckProgram δ θ σ ρ ε ν κ χ) where
  Alike : θ → θ → Prop
  /-- Between the two states of the data, something was taken away from a request. -/
  TakesAway : δ → δ → θ → Prop
  Backed : δ → θ → CheckStage σ ρ → Prop
  start : ∀ data request, Backed data request (.reading (program.start request))
  read : ∀ {data request question}, Backed data request (.reading question) →
    Backed data request (.has (program.read data request question))
  next : ∀ {data request result later}, Backed data request (.has result) →
    program.resume request result = .inl later → Backed data request (.reading later)
  grant : ∀ {data request result value}, Backed data request (.has result) →
    program.resume request result = .inr (.ok value) → program.Grants data request
  kept : ∀ {data later request stage}, ¬TakesAway data later request →
    Backed data request stage → Backed later request stage
  granted : ∀ {data later request}, ¬TakesAway data later request →
    program.Grants data request → program.Grants later request
  /-- Requests that share a key, and may share an answer, are granted alike. -/
  alike : ∀ {data first second}, Alike first second →
    program.cacheable first = true → program.cacheable second = true →
    program.key first = program.key second →
    program.Grants data first → program.Grants data second

/-! ## Runs -/

/-- A change of the data after which keys are deleted from the cache. -/
structure Revocation (κ : Type) where
  version : Nat
  covers : κ → Bool

/-- A stored grant. Only the value is used by the cache. -/
structure Filled (θ ν : Type) where
  value : ν
  request : θ
  readAt : Nat

/-- A check that waits for the repository. -/
structure Check (θ σ ρ κ : Type) where
  request : θ
  stage : CheckStage σ ρ
  readAt : Option Nat
  completed : List (Revocation κ)

/-- An answer that was given. -/
structure CheckAnswer (δ θ ε ν κ : Type) where
  request : θ
  outcome : Except ε ν
  cached : Bool
  readAt : Nat
  completed : List (Revocation κ)
  data : δ

/-- The repository, the cache and the checks. -/
structure CachedChecks (δ θ σ ρ ε ν κ : Type) where
  data : δ
  cache : TtlCache κ (Filled θ ν)
  version : Nat := 0
  nowMs : Nat := 0
  checks : OrderedMap Nat (Check θ σ ρ κ) := .empty
  pending : List (Revocation κ) := []
  completed : List (Revocation κ) := []
  answers : List (CheckAnswer δ θ ε ν κ) := []

/-- What can happen next. -/
inductive CheckAction (θ χ : Type) where
  /-- A check is asked; it looks into the cache or puts its first question. -/
  | ask (id : Nat) (request : θ)
  | read (id : Nat)
  | resume (id : Nat)
  | write (change : χ)
  | invalidate (index : Nat)
  | tick (byMs : Nat)

namespace CachedChecks

variable [DecidableEq κ] (program : CheckProgram δ θ σ ρ ε ν κ χ)
  (state : CachedChecks δ θ σ ρ ε ν κ)

/-- A check is asked. -/
def ask (id : Nat) (request : θ) : CachedChecks δ θ σ ρ ε ν κ :=
  let start : Check θ σ ρ κ :=
    { request, stage := .reading (program.start request), readAt := none,
      completed := state.completed }
  if program.cacheable request then
    let (found, cache) := state.cache.get state.nowMs (program.key request)
    match found with
    | some filled =>
      { state with
        cache,
        answers := state.answers ++ [{
          request, outcome := .ok filled.value, cached := true, readAt := filled.readAt,
          completed := state.completed, data := state.data }] }
    | none => { state with cache, checks := state.checks.set id start }
  else { state with checks := state.checks.set id start }

/-- A check is over. -/
def answer (id : Nat) (check : Check θ σ ρ κ) (outcome : Except ε ν) :
    CachedChecks δ θ σ ρ ε ν κ :=
  let readAt := check.readAt.getD state.version
  let cache := match outcome with
    | .error _ => state.cache
    | .ok value =>
      if program.cacheable check.request then
        state.cache.set state.nowMs (program.key check.request)
          ⟨value, check.request, readAt⟩
      else state.cache
  { state with
    cache,
    checks := state.checks.erase id,
    answers := state.answers ++ [{
      request := check.request, outcome, cached := false, readAt,
      completed := check.completed, data := state.data }] }

/-- The repository answers the question of a check. -/
def readFor (id : Nat) (check : Check θ σ ρ κ) : CachedChecks δ θ σ ρ ε ν κ :=
  match check.stage with
  | .has _ => state
  | .reading question =>
    { state with
      checks := state.checks.set id { check with
        stage := .has (program.read state.data check.request question),
        readAt := some (check.readAt.getD state.version) } }

/-- A check goes on with the answer of the repository. -/
def resume (id : Nat) (check : Check θ σ ρ κ) : CachedChecks δ θ σ ρ ε ν κ :=
  match check.stage with
  | .reading _ => state
  | .has result =>
    match program.resume check.request result with
    | .inl question =>
      { state with checks := state.checks.set id { check with stage := .reading question } }
    | .inr outcome => state.answer program id check outcome

/-- The data change. -/
def write (change : χ) : CachedChecks δ θ σ ρ ε ν κ :=
  let version := state.version + 1
  let pending := match program.scope change with
    | none => state.pending
    | some covers => state.pending ++ [⟨version, covers⟩]
  { state with data := program.apply change state.data, version, pending }

/-- The keys of a change are deleted from the cache. -/
def invalidate (index : Nat) (revocation : Revocation κ) : CachedChecks δ θ σ ρ ε ν κ :=
  { state with
    cache := state.cache.deleteWhere revocation.covers,
    pending := state.pending.eraseIdx index,
    completed := state.completed ++ [revocation] }

/-- One step. A check has an identifier of its own while it waits. -/
def step : CheckAction θ χ → CachedChecks δ θ σ ρ ε ν κ
  | .ask id request => if state.checks.has id then state else state.ask program id request
  | .read id => match state.checks.get id with
    | none => state
    | some check => state.readFor program id check
  | .resume id => match state.checks.get id with
    | none => state
    | some check => state.resume program id check
  | .write change => state.write program change
  | .invalidate index => match state.pending[index]? with
    | none => state
    | some revocation => state.invalidate index revocation
  | .tick byMs => { state with nowMs := state.nowMs + byMs }

end CachedChecks

/-! ## Laws -/

/-- What is granted was read after every change whose keys had been deleted when the check was
asked. -/
def CheckAnswer.Fresh (program : CheckProgram δ θ σ ρ ε ν κ χ) (answer : CheckAnswer δ θ ε ν κ) :
    Prop :=
  ∀ value, answer.outcome = .ok value →
    ∀ revocation ∈ answer.completed, revocation.covers (program.key answer.request) = true →
      revocation.version ≤ answer.readAt

/-- What the cache answers, the repository would have answered. -/
def CheckAnswer.Truthful (program : CheckProgram δ θ σ ρ ε ν κ χ)
    (answer : CheckAnswer δ θ ε ν κ) : Prop :=
  answer.cached = true → program.Grants answer.data answer.request

/-- Every answer is fresh and truthful. -/
structure CacheCoherent (program : CheckProgram δ θ σ ρ ε ν κ χ)
    (state : CachedChecks δ θ σ ρ ε ν κ) : Prop where
  /-- No grant rests on data from before a change whose keys had been deleted. -/
  fresh : ∀ answer ∈ state.answers, answer.Fresh program
  /-- No grant from the cache is one that the repository would not give. -/
  truthful : ∀ answer ∈ state.answers, answer.Truthful program

/-- No deletion that covers a key completed after a number. -/
def FreshSince (revocations : List (Revocation κ)) (key : κ) (readAt : Nat) : Prop :=
  ∀ revocation ∈ revocations, revocation.covers key = true → revocation.version ≤ readAt

/-- The step breaks no law. When the cache answers, the check that stored the answer asked for
something alike, and no deletion of the key is outstanding. When a grant is stored, no deletion of
its key completed for a change after the check first read. When something is taken away from a
request, its key is deleted after the change. -/
def CachedChecks.Timely [DecidableEq κ] {program : CheckProgram δ θ σ ρ ε ν κ χ}
    (rules : CheckRules program) (state : CachedChecks δ θ σ ρ ε ν κ) : CheckAction θ χ → Prop
  | .ask _ request => program.cacheable request = true →
      ∀ filled, (state.cache.get state.nowMs (program.key request)).1 = some filled →
        rules.Alike filled.request request ∧
        ∀ revocation ∈ state.pending, revocation.covers (program.key request) = false
  | .resume id => ∀ check, state.checks.get id = some check →
      ∀ result value, check.stage = .has result →
        program.resume check.request result = .inr (.ok value) →
        program.cacheable check.request = true →
        ∀ readAt, check.readAt = some readAt →
          FreshSince state.completed (program.key check.request) readAt
  | .write change => ∀ request,
      rules.TakesAway state.data (program.apply change state.data) request →
        ∃ covers, program.scope change = some covers ∧ covers (program.key request) = true
  | _ => True

/-! ## The steps that break no law -/

/-- A deletion of the key is outstanding, for a change that came after a number. -/
def Overtaken (revocations : List (Revocation κ)) (key : κ) (readAt : Nat) : Prop :=
  ∃ revocation ∈ revocations, revocation.covers key = true ∧ readAt < revocation.version

/-- A stored grant is fresh, and the repository would give it unless its key is to be deleted. -/
structure FilledSound (program : CheckProgram δ θ σ ρ ε ν κ χ)
    (state : CachedChecks δ θ σ ρ ε ν κ) (key : κ) (filled : Filled θ ν) : Prop where
  own : program.key filled.request = key
  cacheable : program.cacheable filled.request = true
  fresh : FreshSince state.completed key filled.readAt
  /-- What it says is the case, or its key is to be deleted. -/
  truthful : (∃ revocation ∈ state.pending, revocation.covers key = true) ∨
    program.Grants state.data filled.request

/-- What a waiting check has read is the case, unless a change has overtaken it. -/
structure CheckSound {program : CheckProgram δ θ σ ρ ε ν κ χ} (rules : CheckRules program)
    (state : CachedChecks δ θ σ ρ ε ν κ) (check : Check θ σ ρ κ) : Prop where
  unread : check.readAt = none → check.stage = .reading (program.start check.request)
  earlier : ∀ readAt, check.readAt = some readAt → readAt ≤ state.version
  backed : ∀ readAt, check.readAt = some readAt →
    Overtaken (state.pending ++ state.completed) (program.key check.request) readAt ∨
      rules.Backed state.data check.request check.stage
  fresh : ∀ revocation ∈ check.completed, revocation.version ≤ check.readAt.getD state.version

/-- What every state is that is reached by steps which break no law. -/
structure ChecksSound {program : CheckProgram δ θ σ ρ ε ν κ χ} (rules : CheckRules program)
    [DecidableEq κ] (state : CachedChecks δ θ σ ρ ε ν κ) : Prop where
  numbered : ∀ revocation ∈ state.pending ++ state.completed, revocation.version ≤ state.version
  stored : ∀ key filled, state.cache.Stored key filled →
    FilledSound program state key filled
  checks : ∀ id check, state.checks.get id = some check → CheckSound rules state check
  coherent : CacheCoherent program state

variable {program : CheckProgram δ θ σ ρ ε ν κ χ} {rules : CheckRules program}
  {state : CachedChecks δ θ σ ρ ε ν κ}

/-- One more answer that is fresh and truthful. -/
theorem CacheCoherent.append (coherent : CacheCoherent program state)
    {answer : CheckAnswer δ θ ε ν κ} (fresh : answer.Fresh program)
    (truthful : answer.Truthful program) {next : CachedChecks δ θ σ ρ ε ν κ}
    (answers : next.answers = state.answers ++ [answer]) : CacheCoherent program next := by
  constructor
  · rw [answers]
    exact forall_mem_concat coherent.fresh fresh
  · rw [answers]
    exact forall_mem_concat coherent.truthful truthful

theorem CacheCoherent.of_answers (coherent : CacheCoherent program state)
    {next : CachedChecks δ θ σ ρ ε ν κ} (answers : next.answers = state.answers) :
    CacheCoherent program next :=
  ⟨answers ▸ coherent.fresh, answers ▸ coherent.truthful⟩

/-- A check that has gone on without reading again is as sound as before. -/
theorem CheckSound.goOn {check : Check θ σ ρ κ} (sound : CheckSound rules state check)
    {result : ρ} {question : σ} (has : check.stage = .has result)
    (goesOn : program.resume check.request result = .inl question) :
    CheckSound rules state { check with stage := .reading question } where
  unread unread := by
    have first := sound.unread unread
    rw [has] at first
    cases first
  earlier := sound.earlier
  backed readAt read := by
    rcases sound.backed readAt read with overtaken | backed
    · exact Or.inl overtaken
    · rw [has] at backed
      exact Or.inr (rules.next backed goesOn)
  fresh := sound.fresh

/-- A check to which the repository has answered is sound. -/
theorem CheckSound.reads {check : Check θ σ ρ κ} (sound : CheckSound rules state check)
    {question : σ} (waits : check.stage = .reading question) :
    CheckSound rules state { check with
      stage := .has (program.read state.data check.request question),
      readAt := some (check.readAt.getD state.version) } where
  unread unread := nomatch unread
  earlier readAt read := by
    cases found : check.readAt with
    | none =>
      rw [found] at read
      rw [← Option.some.inj read]
      exact Nat.le_refl _
    | some first =>
      rw [found] at read
      rw [← Option.some.inj read]
      exact sound.earlier first found
  backed readAt read := by
    cases found : check.readAt with
    | none =>
      have first := sound.unread found
      rw [waits] at first
      have starts : question = program.start check.request := CheckStage.reading.inj first
      rw [starts]
      exact Or.inr (rules.read (rules.start _ _))
    | some first =>
      rw [found] at read
      rw [← Option.some.inj read]
      rcases sound.backed first found with overtaken | backed
      · exact Or.inl overtaken
      · rw [waits] at backed
        exact Or.inr (rules.read backed)
  fresh revocation member := sound.fresh revocation member

variable [DecidableEq κ]

namespace ChecksSound

section

variable (sound : ChecksSound rules state)

include sound

/-- A step that leaves the data and the deletions as they are. -/
theorem reshape {next : CachedChecks δ θ σ ρ ε ν κ}
    (data : next.data = state.data) (version : next.version = state.version)
    (pending : next.pending = state.pending) (completed : next.completed = state.completed)
    (stored : ∀ key filled, next.cache.Stored key filled →
      state.cache.Stored key filled ∨ FilledSound program state key filled)
    (checks : ∀ id check, next.checks.get id = some check →
      state.checks.get id = some check ∨ CheckSound rules state check)
    (coherent : CacheCoherent program next) : ChecksSound rules next where
  numbered := by
    rw [pending, completed, version]
    exact sound.numbered
  stored key filled found := by
    have before : FilledSound program state key filled := by
      rcases stored key filled found with old | new
      · exact sound.stored key filled old
      · exact new
    refine ⟨before.own, before.cacheable, ?_, ?_⟩
    · rw [completed]
      exact before.fresh
    · rw [pending, data]
      exact before.truthful
  checks id check found := by
    have before : CheckSound rules state check := by
      rcases checks id check found with old | new
      · exact sound.checks id check old
      · exact new
    refine ⟨before.unread, ?_, ?_, ?_⟩
    · rw [version]
      exact before.earlier
    · rw [pending, completed, data]
      exact before.backed
    · rw [version]
      exact before.fresh
  coherent := coherent

theorem started (request : θ) :
    CheckSound rules state
      { request, stage := .reading (program.start request), readAt := none,
        completed := state.completed } where
  unread _ := rfl
  earlier _ read := nomatch read
  backed _ read := nomatch read
  fresh revocation member :=
    sound.numbered revocation (List.mem_append_right _ member)

theorem ask {id : Nat} {request : θ} (timely : state.Timely rules (.ask id request)) :
    ChecksSound rules (state.ask program id request) := by
  have starts (cache : TtlCache κ (Filled θ ν))
      (kept : ∀ key filled, cache.Stored key filled → state.cache.Stored key filled) :
      ChecksSound rules { state with
        cache,
        checks := state.checks.set id
          { request, stage := .reading (program.start request), readAt := none,
            completed := state.completed } } := by
    exact sound.reshape rfl rfl rfl rfl (fun key filled found => Or.inl (kept key filled found))
      (OrderedMap.forall_set (Or.inr (sound.started request)) fun _ _ => Or.inl)
      (sound.coherent.of_answers rfl)
  unfold CachedChecks.ask
  by_cases cacheable : program.cacheable request
  · rw [if_pos cacheable]
    cases found : (state.cache.get state.nowMs (program.key request)).1 with
    | none =>
      simp only [found]
      exact starts _ fun key filled => TtlCache.Stored.of_get
    | some filled =>
      simp only [found]
      -- the answer comes from an entry that no outstanding deletion covers
      have entry := sound.stored _ _ (TtlCache.stored_of_get found)
      obtain ⟨alike, uncovered⟩ := timely cacheable filled found
      refine sound.reshape rfl rfl rfl rfl
        (fun key filled found => Or.inl (TtlCache.Stored.of_get found))
        (fun _ _ found => Or.inl found) (sound.coherent.append ?_ ?_ rfl)
      · intro _ _ revocation member covers
        exact entry.fresh revocation member covers
      · intro _
        rcases entry.truthful with ⟨revocation, member, covers⟩ | grants
        · have := uncovered revocation member
          rw [covers] at this
          cases this
        · exact rules.alike alike entry.cacheable cacheable entry.own grants
  · rw [if_neg cacheable]
    exact starts _ fun _ _ found => found

variable {check : Check θ σ ρ κ}

theorem readFor {id : Nat} (found : state.checks.get id = some check) :
    ChecksSound rules (state.readFor program id check) := by
  unfold CachedChecks.readFor
  cases stage : check.stage with
  | has result => exact sound
  | reading question =>
    exact sound.reshape rfl rfl rfl rfl (fun _ _ found => Or.inl found)
      (OrderedMap.forall_set (Or.inr ((sound.checks id check found).reads stage)) fun _ _ => Or.inl)
      (sound.coherent.of_answers rfl)

theorem answer {id : Nat}
    (found : state.checks.get id = some check) {result : ρ} {outcome : Except ε ν}
    (has : check.stage = .has result) (settles : program.resume check.request result = .inr outcome)
    (timely : state.Timely rules (.resume id)) :
    ChecksSound rules (state.answer program id check outcome) := by
  have waiting := sound.checks id check found
  obtain ⟨readAt, read⟩ : ∃ readAt, check.readAt = some readAt := by
    cases read : check.readAt with
    | none =>
      have first := waiting.unread read
      rw [has] at first
      cases first
    | some readAt => exact ⟨readAt, rfl⟩
  unfold CachedChecks.answer
  refine sound.reshape rfl rfl rfl rfl (fun key filled stored => ?_) (fun other later place => ?_)
    (sound.coherent.append ?_ (fun cached => absurd cached Bool.false_ne_true) rfl)
  · cases outcome with
    | error refusal => exact Or.inl stored
    | ok value =>
      simp only at stored
      by_cases cacheable : program.cacheable check.request
      · rw [if_pos cacheable] at stored
        rcases TtlCache.Stored.of_set stored with ⟨rfl, rfl⟩ | before
        · have fresh := timely check found result value has settles cacheable readAt read
          refine Or.inr ⟨rfl, cacheable, ?_, ?_⟩
          · rw [read]
            exact fresh
          · rcases waiting.backed readAt read with ⟨revocation, member, covers, later⟩ | backed
            · rcases List.mem_append.mp member with outstanding | done
              · exact Or.inl ⟨revocation, outstanding, covers⟩
              · have := fresh revocation done covers
                omega
            · rw [has] at backed
              exact Or.inr (rules.grant backed settles)
        · exact Or.inl before
      · rw [if_neg cacheable] at stored
        exact Or.inl stored
  · rw [OrderedMap.get_erase] at place
    split at place
    · cases place
    · exact Or.inl place
  · intro _ _ revocation member _
    exact waiting.fresh revocation member

theorem resume {id : Nat}
    (found : state.checks.get id = some check) (timely : state.Timely rules (.resume id)) :
    ChecksSound rules (state.resume program id check) := by
  unfold CachedChecks.resume
  cases stage : check.stage with
  | reading question => exact sound
  | has result =>
    simp only
    cases next : program.resume check.request result with
    | inr outcome => exact sound.answer found stage next timely
    | inl question =>
      refine sound.reshape rfl rfl rfl rfl (fun _ _ found => Or.inl found)
        (fun other later place => ?_) (sound.coherent.of_answers rfl)
      rcases OrderedMap.get_set_cases place with ⟨-, rfl⟩ | ⟨-, before⟩
      · exact Or.inr ((sound.checks id check found).goOn stage next)
      · exact Or.inl before

theorem write {change : χ} (timely : state.Timely rules (.write change)) :
    ChecksSound rules (state.write program change) := by
  have grown : ∀ revocation ∈ state.pending, revocation ∈ (state.write program change).pending := by
    intro revocation member
    unfold CachedChecks.write
    cases program.scope change with
    | none => exact member
    | some covers => exact List.mem_append_left _ member
  -- a request from which something is taken away is covered by the new deletion
  have covered (request : θ)
      (taken : rules.TakesAway state.data (program.apply change state.data) request) :
      ∃ revocation ∈ (state.write program change).pending,
        revocation.covers (program.key request) = true ∧ state.version < revocation.version := by
    obtain ⟨covers, scope, inScope⟩ := timely request taken
    refine ⟨⟨state.version + 1, covers⟩, ?_, inScope, Nat.lt_succ_self _⟩
    unfold CachedChecks.write
    rw [scope]
    exact List.mem_append_right _ (List.mem_singleton.mpr rfl)
  constructor
  · intro revocation member
    have later : (state.write program change).version = state.version + 1 := rfl
    rw [later]
    unfold CachedChecks.write at member
    cases scope : program.scope change with
    | none =>
      rw [scope] at member
      exact Nat.le_succ_of_le (sound.numbered revocation member)
    | some covers =>
      rw [scope] at member
      rcases List.mem_append.mp member with outstanding | done
      · rcases List.mem_append.mp outstanding with before | new
        · exact Nat.le_succ_of_le
            (sound.numbered revocation (List.mem_append_left _ before))
        · rw [List.mem_singleton.mp new]
      · exact Nat.le_succ_of_le (sound.numbered revocation (List.mem_append_right _ done))
  · intro key filled found
    have before := sound.stored key filled found
    refine ⟨before.own, before.cacheable, before.fresh, ?_⟩
    rcases before.truthful with ⟨revocation, member, covers⟩ | grants
    · exact Or.inl ⟨revocation, grown revocation member, covers⟩
    · by_cases taken : rules.TakesAway state.data (program.apply change state.data) filled.request
      · obtain ⟨revocation, member, covers, -⟩ := covered _ taken
        rw [before.own] at covers
        exact Or.inl ⟨revocation, member, covers⟩
      · exact Or.inr (rules.granted taken grants)
  · intro id check found
    have before := sound.checks id check found
    refine ⟨before.unread, fun readAt read => Nat.le_succ_of_le (before.earlier readAt read),
      fun readAt read => ?_, fun revocation member => ?_⟩
    · rcases before.backed readAt read with ⟨revocation, member, covers, later⟩ | backed
      · refine Or.inl ⟨revocation, ?_, covers, later⟩
        rcases List.mem_append.mp member with outstanding | done
        · exact List.mem_append_left _ (grown revocation outstanding)
        · exact List.mem_append_right _ done
      · by_cases taken : rules.TakesAway state.data (program.apply change state.data) check.request
        · obtain ⟨revocation, member, covers, later⟩ := covered _ taken
          exact Or.inl ⟨revocation, List.mem_append_left _ member, covers,
            Nat.lt_of_le_of_lt (before.earlier readAt read) later⟩
        · exact Or.inr (rules.kept taken backed)
    · have known := before.fresh revocation member
      cases read : check.readAt with
      | none =>
        rw [read] at known
        exact Nat.le_succ_of_le known
      | some readAt =>
        rw [read] at known
        exact known
  · exact sound.coherent.of_answers rfl

theorem invalidate {index : Nat} {revocation : Revocation κ}
    (found : state.pending[index]? = some revocation) :
    ChecksSound rules (state.invalidate index revocation) := by
  have member : revocation ∈ state.pending := List.mem_of_getElem? found
  have outstanding : ∀ other ∈ state.pending,
      other = revocation ∨ other ∈ state.pending.eraseIdx index := by
    intro other within
    obtain ⟨position, place⟩ := List.mem_iff_getElem?.mp within
    by_cases same : position = index
    · left
      rw [same, found] at place
      exact (Option.some.inj place).symm
    · right
      exact List.mem_eraseIdx_iff_getElem?.mpr ⟨position, same, place⟩
  have all : ∀ other, other ∈ state.pending ++ state.completed →
      other ∈ state.pending.eraseIdx index ++ (state.completed ++ [revocation]) := by
    intro other within
    rcases List.mem_append.mp within with before | done
    · rcases outstanding other before with rfl | stays
      · exact List.mem_append_right _ (List.mem_append_right _ (List.mem_singleton.mpr rfl))
      · exact List.mem_append_left _ stays
    · exact List.mem_append_right _ (List.mem_append_left _ done)
  constructor
  · intro other within
    refine sound.numbered other ?_
    rcases List.mem_append.mp within with stays | done
    · exact List.mem_append_left _ (List.mem_of_mem_eraseIdx stays)
    · rcases List.mem_append.mp done with before | new
      · exact List.mem_append_right _ before
      · rw [List.mem_singleton.mp new]
        exact List.mem_append_left _ member
  · intro key filled stored
    obtain ⟨uncovered, stored⟩ := TtlCache.Stored.of_deleteWhere stored
    have before := sound.stored key filled stored
    refine ⟨before.own, before.cacheable, ?_, ?_⟩
    · intro other done covers
      rcases List.mem_append.mp done with earlier | new
      · exact before.fresh other earlier covers
      · rw [List.mem_singleton.mp new, uncovered] at covers
        cases covers
    · rcases before.truthful with ⟨other, within, covers⟩ | grants
      · rcases outstanding other within with rfl | stays
        · rw [uncovered] at covers
          cases covers
        · exact Or.inl ⟨other, stays, covers⟩
      · exact Or.inr grants
  · intro id check place
    have before := sound.checks id check place
    refine ⟨before.unread, before.earlier, fun readAt read => ?_, before.fresh⟩
    rcases before.backed readAt read with ⟨other, within, covers, later⟩ | backed
    · exact Or.inl ⟨other, all other within, covers, later⟩
    · exact Or.inr backed
  · exact sound.coherent.of_answers rfl

/-- An action in time keeps the cache sound. -/
theorem step (action : CheckAction θ χ)
    (timely : state.Timely rules action) : ChecksSound rules (state.step program action) := by
  cases action with
  | ask id request =>
    simp only [CachedChecks.step]
    split
    · exact sound
    · exact sound.ask timely
  | read id =>
    cases found : state.checks.get id with
    | none => simpa only [CachedChecks.step, found] using sound
    | some check => simpa only [CachedChecks.step, found] using sound.readFor found
  | resume id =>
    cases found : state.checks.get id with
    | none => simpa only [CachedChecks.step, found] using sound
    | some check => simpa only [CachedChecks.step, found] using sound.resume found timely
  | write change => exact sound.write timely
  | invalidate index =>
    cases found : state.pending[index]? with
    | none => simpa only [CachedChecks.step, found] using sound
    | some revocation => simpa only [CachedChecks.step, found] using sound.invalidate found
  | tick byMs =>
    exact sound.reshape rfl rfl rfl rfl (fun _ _ found => Or.inl found)
      (fun _ _ found => Or.inl found) (sound.coherent.of_answers rfl)

end

theorem initial (data : δ) (ttlMs maxSize : Nat) :
    ChecksSound rules { data, cache := { ttlMs, maxSize } } where
  numbered _ member := nomatch member
  stored _ _ stored := by
    obtain ⟨entry, found, -⟩ := stored
    cases found
  checks _ _ found := nomatch found
  coherent := ⟨fun _ member => (nomatch member), fun _ member => (nomatch member)⟩

end ChecksSound

/-- In every run whose steps break no law, every answer is fresh and truthful, in every state
reached. -/
theorem coherent_of_timely (rules : CheckRules program) (data : δ) (ttlMs maxSize : Nat)
    (actions : List (CheckAction θ χ))
    (timely : Meets (CachedChecks.step program) (CachedChecks.Timely rules)
      { data, cache := { ttlMs, maxSize } } actions) :
    ∀ taken, taken <+: actions → CacheCoherent program
      (run (CachedChecks.step program) { data, cache := { ttlMs, maxSize } } taken) := by
  intro taken first
  have keeps : ∀ (state : CachedChecks δ θ σ ρ ε ν κ) action, ChecksSound rules state →
      state.Timely rules action → ChecksSound rules (state.step program action) :=
    fun _ action sound timely => sound.step action timely
  exact (every_state_of_meets _ keeps (ChecksSound.initial data ttlMs maxSize) timely
    taken first).coherent

end PlugHub.Library
