import PlugHub.Library.OrderedMap
import PlugHub.Library.Runs
import PlugHub.Library.Text

/-!
# Publications of one idempotency key, one after the other

`runWithClientSocketEventPublishIdempotencySerialization` chains the publications of a client and a
key: a task begins when the promise that was the tail of its key has settled, whatever it settled
with, and its own promise becomes the tail. When the promise of a task has settled, the reaction
that was attached to it first removes the tail if it is still the task's own; only then does the
next task of the key begin.
-/

namespace PlugHub.PublishSerialization

open Library

/-- The id of a client, a UUID. It has no colon. -/
structure ClientId where
  text : String
  plain : ':' ∉ text.toList
deriving DecidableEq

/-- A client and one of its idempotency keys. -/
structure PublishKey where
  clientId : ClientId
  idempotencyKey : String
deriving DecidableEq

/-- `buildSerializationKey`. -/
def buildSerializationKey (key : PublishKey) : String :=
  key.clientId.text ++ ":" ++ key.idempotencyKey

theorem buildSerializationKey_injective {key other : PublishKey}
    (same : buildSerializationKey key = buildSerializationKey other) : key = other := by
  obtain ⟨⟨clientId, plain⟩, idempotencyKey⟩ := key
  obtain ⟨⟨otherId, otherPlain⟩, otherKey⟩ := other
  have texts := congrArg String.toList same
  simp only [buildSerializationKey, String.toList_append] at texts
  obtain ⟨left, right⟩ := split_first plain otherPlain (by simpa using texts)
  rw [String.toList_inj] at left right
  subst left right
  rfl

/-- What a task gives: the outcome of the publication, or an error. -/
inductive TaskOutcome where
  | fulfilled
  | rejected
deriving DecidableEq

/-- Where a task is. -/
inductive TaskPhase where
  | waiting
  | running
  | settled (outcome : TaskOutcome)
  | tidied (outcome : TaskOutcome)
deriving DecidableEq

/-- The reaction has run. -/
def TaskPhase.isTidied : TaskPhase → Bool
  | .tidied _ => true
  | _ => false

/-- A task. -/
structure PublishTask where
  key : PublishKey
  after : Option Nat
  phase : TaskPhase := .waiting

/-- What happens. -/
inductive SerializationAction where
  | submit (key : PublishKey)
  | start (number : Nat)
  | settle (number : Nat) (outcome : TaskOutcome)
  | tidy (number : Nat)

/-- The key of a submission. -/
def SerializationAction.submitted : SerializationAction → Option PublishKey
  | .submit key => some key
  | _ => none

open SerializationAction

/-- The tasks and the tails. -/
structure Serialization where
  tasks : List PublishTask := []
  /-- `serializationTails`: the task whose promise is the tail of a key. -/
  serializationTails : OrderedMap String Nat := .empty
  refused : Nat := 0

namespace Serialization

variable (maxTracked : Nat) (serialization : Serialization)

/-- A task is over. -/
def isTidied (number : Nat) : Bool :=
  serialization.tasks[number]?.any fun task => task.phase.isTidied

/-- A task goes on. -/
def setPhase (number : Nat) (task : PublishTask) (phase : TaskPhase) : Serialization :=
  { serialization with tasks := serialization.tasks.set number { task with phase } }

/-- `runWithClientSocketEventPublishIdempotencySerialization`, as far as it is synchronous. -/
def submit (key : PublishKey) : Serialization :=
  let text := buildSerializationKey key
  if 0 < maxTracked ∧ serialization.serializationTails.has text = false ∧
      maxTracked ≤ serialization.serializationTails.size then
    { serialization with refused := serialization.refused + 1 }
  else
    { serialization with
      tasks := serialization.tasks ++ [{ key, after := serialization.serializationTails.get text }]
      serializationTails := serialization.serializationTails.set text serialization.tasks.length }

/-- The reaction to the promise of a task: the tail is removed if it is the task's. -/
def removeTail (number : Nat) (key : PublishKey) : OrderedMap String Nat :=
  if serialization.serializationTails.get (buildSerializationKey key) = some number then
    serialization.serializationTails.erase (buildSerializationKey key)
  else serialization.serializationTails

/-- One step. -/
def step : SerializationAction → Serialization
  | .submit key => serialization.submit maxTracked key
  | .start number =>
    match serialization.tasks[number]? with
    | none => serialization
    | some task =>
      if task.phase = .waiting ∧ task.after.all serialization.isTidied = true then
        serialization.setPhase number task .running
      else serialization
  | .settle number outcome =>
    match serialization.tasks[number]? with
    | none => serialization
    | some task =>
      if task.phase = .running then serialization.setPhase number task (.settled outcome)
      else serialization
  | .tidy number =>
    match serialization.tasks[number]? with
    | none => serialization
    | some task =>
      match task.phase with
      | .settled outcome =>
        { serialization with
          serializationTails := serialization.removeTail number task.key }.setPhase number task
            (.tidied outcome)
      | _ => serialization

/-- What is promised of the tasks. -/
structure Lawful : Prop where
  /-- A submission becomes a task unless the tails are full and its key has none. -/
  admits : ∀ key : PublishKey,
    maxTracked = 0 ∨ serialization.serializationTails.has (buildSerializationKey key) = true ∨
        serialization.serializationTails.size < maxTracked →
      ∃ after, (serialization.step maxTracked (.submit key)).tasks =
        serialization.tasks ++ [⟨key, after, .waiting⟩]
  /-- A task has begun only if those of its key that were submitted before are over. -/
  serial : ∀ (earlier later : Nat) (first second : PublishTask), earlier < later →
    serialization.tasks[earlier]? = some first → serialization.tasks[later]? = some second →
      first.key = second.key → second.phase ≠ .waiting → first.phase.isTidied = true
  /-- When they are over, whatever they gave, it can begin: it waits for no other task. -/
  proceeds : ∀ (number : Nat) (task : PublishTask), serialization.tasks[number]? = some task →
    task.phase = .waiting →
      (∀ (earlier : Nat) (first : PublishTask), earlier < number →
        serialization.tasks[earlier]? = some first → first.key = task.key →
          first.phase.isTidied = true) →
      (serialization.step maxTracked (.start number)).tasks[number]? =
        some { task with phase := .running }
  /-- A task that runs settles with what it gives, and its reaction ends it. -/
  settles : ∀ (number : Nat) (task : PublishTask) (outcome : TaskOutcome),
    serialization.tasks[number]? = some task →
      (task.phase = .running →
        (serialization.step maxTracked (.settle number outcome)).tasks[number]? =
          some { task with phase := .settled outcome }) ∧
      (task.phase = .settled outcome →
        (serialization.step maxTracked (.tidy number)).tasks[number]? =
          some { task with phase := .tidied outcome })
  /-- When every task of a key is over, the key has no tail. -/
  forgotten : ∀ key : PublishKey,
    (∀ (number : Nat) (task : PublishTask), serialization.tasks[number]? = some task →
      task.key = key → task.phase.isTidied = true) →
    serialization.serializationTails.get (buildSerializationKey key) = none

/-- What becomes of the submissions of a run. -/
structure Answered (actions : List SerializationAction) : Prop where
  /-- The tasks are those submitted, in their order, less those refused. -/
  kept : (serialization.tasks.map PublishTask.key).Sublist
    (actions.filterMap submitted)
  /-- Each submission is a task or was refused. -/
  counted : serialization.tasks.length + serialization.refused =
    (actions.filterMap submitted).length
  /-- Without a limit on the tails none is refused. -/
  unlimited : maxTracked = 0 → serialization.refused = 0

/-! ## What every step keeps -/

/-- Before a task every task of its key is over. -/
def OverBefore (tasks : List PublishTask) (number : Nat) (key : PublishKey) : Prop :=
  ∀ (earlier : Nat) (first : PublishTask), earlier < number → tasks[earlier]? = some first →
    first.key = key → first.phase.isTidied = true

/-- The tasks of each key wait for one another in their order. -/
structure Queued (tasks : List PublishTask) : Prop where
  /-- A task begins when those of its key that came before are over. -/
  serial : ∀ (later : Nat) (second : PublishTask), tasks[later]? = some second →
    second.phase ≠ .waiting → OverBefore tasks later second.key
  /-- A task that waits for none is the first that is not over. -/
  first : ∀ (number : Nat) (task : PublishTask), tasks[number]? = some task → task.after = none →
    OverBefore tasks number task.key
  /-- A task waits for the one of its key that came just before. -/
  chain : ∀ (number : Nat) (task : PublishTask) (previous : Nat), tasks[number]? = some task →
    task.after = some previous →
      previous < number ∧ ∃ earlier, tasks[previous]? = some earlier ∧ earlier.key = task.key ∧
        ∀ (between : Nat) (other : PublishTask), previous < between → between < number →
          tasks[between]? = some other → other.key ≠ task.key

/-- The tails are the last tasks of the keys that are not over. -/
structure Tailed (tasks : List PublishTask) (tails : OrderedMap String Nat) : Prop where
  /-- The tail of a key is its last task, which is not over. -/
  tail : ∀ (key : PublishKey) (number : Nat),
    tails.get (buildSerializationKey key) = some number →
      ∃ task, tasks[number]? = some task ∧ task.key = key ∧ task.phase.isTidied = false ∧
        ∀ (later : Nat) (other : PublishTask), number < later → tasks[later]? = some other →
          other.key ≠ key
  idle : ∀ key : PublishKey, tails.get (buildSerializationKey key) = none →
    OverBefore tasks tasks.length key

section Steps

variable {maxTracked : Nat} {tasks : List PublishTask} {tails : OrderedMap String Nat}

theorem Queued.overBefore (queued : Queued tasks) {number : Nat} {task : PublishTask}
    (found : tasks[number]? = some task)
    (ready : ∀ previous ∈ task.after, ∀ earlier, tasks[previous]? = some earlier →
      earlier.phase.isTidied = true) : OverBefore tasks number task.key := by
  cases waits : task.after with
  | none => exact queued.first number task found waits
  | some previous =>
    obtain ⟨-, earlier, before, same, apart⟩ := queued.chain number task previous found waits
    have ended := ready previous waits earlier before
    intro index other inside present own
    rcases Nat.lt_trichotomy index previous with lower | rfl | upper
    · have begun : earlier.phase ≠ .waiting := by
        intro waiting
        rw [waiting] at ended
        cases ended
      exact queued.serial previous earlier before begun index other lower present
        (own.trans same.symm)
    · rw [before] at present
      cases present
      exact ended
    · exact absurd own (apart index other upper inside present)

section Moved

variable {number : Nat} {task : PublishTask} {phase : TaskPhase}

theorem get_moved {index : Nat} {later : PublishTask} (found : tasks[number]? = some task)
    (present : (tasks.set number { task with phase })[index]? = some later) :
    ∃ earlier, tasks[index]? = some earlier ∧ later.key = earlier.key ∧
      later.after = earlier.after ∧
        (index ≠ number ∧ later = earlier ∨ index = number ∧ later.phase = phase) := by
  by_cases same : index = number
  · subst same
    rw [List.getElem?_set_self (List.getElem?_eq_some_iff.mp found).1] at present
    cases present
    exact ⟨task, found, rfl, rfl, .inr ⟨rfl, rfl⟩⟩
  · rw [List.getElem?_set_ne (Ne.symm same)] at present
    exact ⟨later, present, rfl, rfl, .inl ⟨same, rfl⟩⟩

theorem moved_of_get {index : Nat} {earlier : PublishTask} (next : TaskPhase)
    (found : tasks[number]? = some task) (present : tasks[index]? = some earlier) :
    ∃ later, (tasks.set number { task with phase := next })[index]? = some later ∧
      later.key = earlier.key ∧ (index ≠ number → later = earlier) := by
  by_cases same : index = number
  · subst same
    rw [found] at present
    cases present
    exact ⟨_, List.getElem?_set_self (List.getElem?_eq_some_iff.mp found).1, rfl,
      fun refuted => absurd rfl refuted⟩
  · exact ⟨earlier, by rw [List.getElem?_set_ne (Ne.symm same), present], rfl, fun _ => rfl⟩

theorem OverBefore.moved {limit : Nat} {key : PublishKey} (ended : OverBefore tasks limit key)
    (found : tasks[number]? = some task) (running : task.phase.isTidied = false) :
    OverBefore (tasks.set number { task with phase }) limit key := by
  intro index later inside present own
  obtain ⟨earlier, before, same, -, ⟨-, rfl⟩ | ⟨rfl, -⟩⟩ := get_moved found present
  · exact ended index later inside before own
  · rw [found] at before
    cases before
    have refuted := ended index task inside found (same.symm.trans own)
    rw [running] at refuted
    cases refuted

theorem Queued.moved (queued : Queued tasks) (found : tasks[number]? = some task)
    (running : task.phase.isTidied = false)
    (ready : OverBefore tasks number task.key) :
    Queued (tasks.set number { task with phase }) := by
  constructor
  · intro index later present begun
    obtain ⟨earlier, before, same, -, ⟨-, rfl⟩ | ⟨rfl, -⟩⟩ := get_moved found present
    · exact (queued.serial index later before begun).moved found running
    · rw [found] at before
      cases before
      rw [same]
      exact ready.moved found running
  · intro index later present waits
    obtain ⟨earlier, before, same, after, -⟩ := get_moved found present
    rw [same]
    exact (queued.first index earlier before (after.symm.trans waits)).moved found running
  · intro index later previous present waits
    obtain ⟨earlier, before, same, after, -⟩ := get_moved found present
    obtain ⟨lower, predecessor, here, own, apart⟩ :=
      queued.chain index earlier previous before (after.symm.trans waits)
    obtain ⟨still, there, kept, -⟩ := moved_of_get phase found here
    refine ⟨lower, still, there, kept.trans (own.trans same.symm), ?_⟩
    intro between other past inside stands
    obtain ⟨former, stood, keyed, -⟩ := get_moved found stands
    rw [keyed, same]
    exact apart between former past inside stood

theorem Tailed.moved (tailed : Tailed tasks tails) (found : tasks[number]? = some task)
    (running : task.phase.isTidied = false) (still : phase.isTidied = false) :
    Tailed (tasks.set number { task with phase }) tails := by
  constructor
  · intro key last isTail
    obtain ⟨earlier, before, own, unfinished, final⟩ := tailed.tail key last isTail
    obtain ⟨later, present, same, kept⟩ := moved_of_get phase found before
    refine ⟨later, present, same.trans own, ?_, fun index other past stands => ?_⟩
    · obtain ⟨former, stood, -, -, ⟨-, rfl⟩ | ⟨-, changed⟩⟩ := get_moved found present
      · rw [before] at stood
        cases stood
        exact unfinished
      · rw [changed]
        exact still
    · obtain ⟨former, stood, keyed, -⟩ := get_moved found stands
      rw [keyed]
      exact final index former past stood
  · intro key none
    rw [List.length_set]
    exact (tailed.idle key none).moved found running

theorem get_removeTail (serialization : Serialization) (number : Nat) (own key : PublishKey) :
    (serialization.removeTail number own).get (buildSerializationKey key) =
      if key = own ∧ serialization.serializationTails.get (buildSerializationKey own) = some number
      then none else serialization.serializationTails.get (buildSerializationKey key) := by
  unfold removeTail
  by_cases isTail : serialization.serializationTails.get (buildSerializationKey own) = some number
  · rw [if_pos isTail, OrderedMap.get_erase]
    by_cases same : key = own
    · rw [if_pos (congrArg buildSerializationKey same), if_pos ⟨same, isTail⟩]
    · rw [if_neg (fun texts => same (buildSerializationKey_injective texts)),
        if_neg (fun both => same both.1)]
  · rw [if_neg isTail, if_neg (fun both => isTail both.2)]

theorem Tailed.tidied {serialization : Serialization}
    (tailed : Tailed serialization.tasks serialization.serializationTails)
    (found : serialization.tasks[number]? = some task) (running : task.phase.isTidied = false)
    (ended : OverBefore serialization.tasks number task.key) (outcome : TaskOutcome) :
    Tailed (serialization.tasks.set number { task with phase := .tidied outcome })
      (serialization.removeTail number task.key) := by
  constructor
  · intro key last isTail
    rw [get_removeTail] at isTail
    split_ifs at isTail with removed
    obtain ⟨earlier, before, own, unfinished, final⟩ := tailed.tail key last isTail
    have apart : last ≠ number := by
      rintro rfl
      rw [found] at before
      cases before
      exact removed ⟨own.symm, by rw [own, isTail]⟩
    obtain ⟨later, present, -, kept⟩ :=
      moved_of_get (.tidied outcome) found before
    rw [kept apart] at present
    refine ⟨earlier, present, own, unfinished, fun index other past stands => ?_⟩
    obtain ⟨former, stood, keyed, -⟩ := get_moved found stands
    rw [keyed]
    exact final index former past stood
  · intro key none
    rw [List.length_set]
    rw [get_removeTail] at none
    split_ifs at none with removed
    · obtain ⟨rfl, isTail⟩ := removed
      obtain ⟨last, here, -, -, final⟩ := tailed.tail task.key number isTail
      intro index later inside present own
      obtain ⟨earlier, before, same, -, ⟨apart, rfl⟩ | ⟨-, changed⟩⟩ := get_moved found present
      · rcases Nat.lt_or_gt_of_ne apart with lower | upper
        · exact ended index later lower before own
        · exact absurd own (final index later upper before)
      · rw [changed]
        rfl
    · exact (tailed.idle key none).moved found running

end Moved

theorem Queued.submit (queued : Queued tasks) (tailed : Tailed tasks tails) (key : PublishKey) :
    Queued (tasks ++ [{ key, after := tails.get (buildSerializationKey key) }]) := by
  have old : ∀ {limit : Nat} {other : PublishKey}, limit ≤ tasks.length →
      OverBefore tasks limit other →
        OverBefore (tasks ++ [{ key, after := tails.get (buildSerializationKey key) }]) limit
          other := by
    intro limit other short ended index first inside present own
    rw [List.getElem?_append_left (Nat.lt_of_lt_of_le inside short)] at present
    exact ended index first inside present own
  have split : ∀ (index : Nat) (task : PublishTask),
      (tasks ++ [{ key, after := tails.get (buildSerializationKey key) }])[index]? = some task →
        index < tasks.length ∧ tasks[index]? = some task ∨ index = tasks.length ∧
          task = { key, after := tails.get (buildSerializationKey key) } := by
    intro index task present
    rw [List.getElem?_append] at present
    split_ifs at present with inside
    · exact .inl ⟨inside, present⟩
    · rw [List.getElem?_singleton] at present
      split_ifs at present with last
      cases present
      exact .inr ⟨by omega, rfl⟩
  constructor
  · intro later second present begun
    obtain ⟨inside, before⟩ | ⟨-, rfl⟩ := split later second present
    · exact old (Nat.le_of_lt inside) (queued.serial later second before begun)
    · exact absurd rfl begun
  · intro number task present waits
    obtain ⟨inside, before⟩ | ⟨rfl, rfl⟩ := split number task present
    · exact old (Nat.le_of_lt inside) (queued.first number task before waits)
    · exact old (Nat.le_refl _) (tailed.idle key waits)
  · intro number task previous present waits
    obtain ⟨inside, before⟩ | ⟨rfl, rfl⟩ := split number task present
    · obtain ⟨lower, earlier, here, own, apart⟩ := queued.chain number task previous before waits
      refine ⟨lower, earlier, ?_, own, fun between other past within stands => ?_⟩
      · rw [List.getElem?_append_left (Nat.lt_trans lower inside), here]
      · rw [List.getElem?_append_left (Nat.lt_trans within inside)] at stands
        exact apart between other past within stands
    · obtain ⟨earlier, here, own, -, final⟩ := tailed.tail key previous waits
      have lower := (List.getElem?_eq_some_iff.mp here).1
      refine ⟨lower, earlier, ?_, own, fun between other past within stands => ?_⟩
      · rw [List.getElem?_append_left lower, here]
      · rw [List.getElem?_append_left within] at stands
        exact final between other past stands

theorem Tailed.submit (tailed : Tailed tasks tails) (key : PublishKey) :
    Tailed (tasks ++ [{ key, after := tails.get (buildSerializationKey key) }])
      (tails.set (buildSerializationKey key) tasks.length) := by
  have new : (tasks ++ [{ key, after := tails.get (buildSerializationKey key) }])[tasks.length]? =
      some { key, after := tails.get (buildSerializationKey key) } := List.getElem?_concat_length
  constructor
  · intro other number isTail
    obtain ⟨same, rfl⟩ | ⟨apart, before⟩ := OrderedMap.get_set_cases isTail
    · refine ⟨_, new, (buildSerializationKey_injective same).symm, rfl,
        fun later task past stands => ?_⟩
      have inside := (List.getElem?_eq_some_iff.mp stands).1
      rw [List.length_append, List.length_singleton] at inside
      omega
    · obtain ⟨task, here, own, unfinished, final⟩ := tailed.tail other number before
      refine ⟨task, ?_, own, unfinished, fun later second past stands => ?_⟩
      · rw [List.getElem?_append_left (List.getElem?_eq_some_iff.mp here).1, here]
      · rw [List.getElem?_append] at stands
        split_ifs at stands with inside
        · exact final later second past stands
        · rw [List.getElem?_singleton] at stands
          split_ifs at stands
          cases stands
          rintro rfl
          exact apart rfl
  · intro other none index first inside present own
    rw [OrderedMap.get_set] at none
    split_ifs at none with same
    rw [List.getElem?_append] at present
    split_ifs at present with before
    · exact tailed.idle other none index first before present own
    · rw [List.getElem?_singleton] at present
      split_ifs at present
      cases present
      exact absurd (congrArg buildSerializationKey own.symm) same

end Steps

/-- What every step keeps. -/
structure Sound (serialization : Serialization) : Prop where
  queued : Queued serialization.tasks
  tailed : Tailed serialization.tasks serialization.serializationTails

/-- Every action keeps the chains sound. -/
theorem Sound.step {serialization : Serialization} (sound : serialization.Sound)
    (maxTracked : Nat) (action : SerializationAction) :
    (serialization.step maxTracked action).Sound := by
  cases action with
  | submit key =>
    simp only [Serialization.step, submit]
    split_ifs
    · exact ⟨sound.queued, sound.tailed⟩
    · exact ⟨sound.queued.submit sound.tailed key, sound.tailed.submit key⟩
  | start number =>
    simp only [Serialization.step]
    cases found : serialization.tasks[number]? with
    | none => exact sound
    | some task =>
      dsimp only
      split_ifs with ready
      · obtain ⟨waiting, free⟩ := ready
        have running : task.phase.isTidied = false := by rw [waiting]; rfl
        have ended := sound.queued.overBefore found fun previous waits earlier before => by
          rw [waits, Option.all_some, isTidied, before] at free
          exact free
        exact ⟨sound.queued.moved found running ended, sound.tailed.moved found running rfl⟩
      · exact sound
  | settle number outcome =>
    simp only [Serialization.step]
    cases found : serialization.tasks[number]? with
    | none => exact sound
    | some task =>
      dsimp only
      split_ifs with runs
      · have running : task.phase.isTidied = false := by rw [runs]; rfl
        have ended := sound.queued.serial number task found
          (by rw [runs]; exact TaskPhase.noConfusion)
        exact ⟨sound.queued.moved found running ended, sound.tailed.moved found running rfl⟩
      · exact sound
  | tidy number =>
    simp only [Serialization.step]
    cases found : serialization.tasks[number]? with
    | none => exact sound
    | some task =>
      dsimp only
      split
      · rename_i outcome settled
        have running : task.phase.isTidied = false := by rw [settled]; rfl
        have ended := sound.queued.serial number task found
          (by rw [settled]; exact TaskPhase.noConfusion)
        exact ⟨sound.queued.moved found running ended, sound.tailed.tidied found running ended _⟩
      · exact sound

theorem Sound.lawful {serialization : Serialization} (sound : serialization.Sound)
    (maxTracked : Nat) : serialization.Lawful maxTracked := by
  refine ⟨fun key room => ?_, fun earlier later first second before here there same begun => ?_,
    fun number task found waiting ended => ?_, fun number task outcome found => ?_,
    fun key ended => ?_⟩
  · have admitted : ¬(0 < maxTracked ∧
        serialization.serializationTails.has (buildSerializationKey key) = false ∧
          maxTracked ≤ serialization.serializationTails.size) := by
      rintro ⟨positive, fresh, full⟩
      rw [fresh] at room
      simp only [Bool.false_eq_true, false_or] at room
      omega
    simp only [Serialization.step, submit]
    rw [if_neg admitted]
    exact ⟨_, rfl⟩
  · exact sound.queued.serial later second there begun earlier first before here same
  · have free : task.after.all serialization.isTidied = true := by
      cases waits : task.after with
      | none => rfl
      | some previous =>
        obtain ⟨lower, earlier, here, own, -⟩ := sound.queued.chain number task previous found waits
        rw [Option.all_some, isTidied, here]
        exact ended previous earlier lower here own
    simp only [Serialization.step, found]
    rw [if_pos ⟨waiting, free⟩]
    exact List.getElem?_set_self (List.getElem?_eq_some_iff.mp found).1
  · have inside := (List.getElem?_eq_some_iff.mp found).1
    constructor
    · intro runs
      simp only [Serialization.step, found]
      rw [if_pos runs]
      exact List.getElem?_set_self inside
    · intro settled
      simp only [Serialization.step, found, settled]
      exact List.getElem?_set_self inside
  · cases isTail : serialization.serializationTails.get (buildSerializationKey key) with
    | none => rfl
    | some number =>
      obtain ⟨task, here, own, unfinished, -⟩ := sound.tailed.tail key number isTail
      rw [ended number task here own] at unfinished
      cases unfinished

/-- A step that submits nothing keeps the keys of the tasks. -/
theorem step_of_unsubmitted (serialization : Serialization) (maxTracked : Nat)
    {action : SerializationAction} (other : action.submitted = none) :
    (serialization.step maxTracked action).tasks.map PublishTask.key =
        serialization.tasks.map PublishTask.key ∧
      (serialization.step maxTracked action).refused = serialization.refused := by
  have moved : ∀ (number : Nat) (task : PublishTask) (phase : TaskPhase),
      serialization.tasks[number]? = some task →
        (serialization.setPhase number task phase).tasks.map PublishTask.key =
          serialization.tasks.map PublishTask.key := by
    intro number task phase found
    obtain ⟨inside, rfl⟩ := List.getElem?_eq_some_iff.mp found
    have position : number < (serialization.tasks.map PublishTask.key).length := by
      rwa [List.length_map]
    have same := List.set_getElem_self position
    rw [List.getElem_map] at same
    rw [setPhase, List.map_set]
    exact same
  cases action with
  | submit key => cases other
  | start number | settle number outcome =>
    simp only [Serialization.step]
    cases found : serialization.tasks[number]? with
    | none => exact ⟨rfl, rfl⟩
    | some task =>
      dsimp only
      split_ifs
      · exact ⟨moved number task _ found, rfl⟩
      · exact ⟨rfl, rfl⟩
  | tidy number =>
    simp only [Serialization.step]
    cases found : serialization.tasks[number]? with
    | none => exact ⟨rfl, rfl⟩
    | some task =>
      dsimp only
      split
      · exact ⟨moved number task _ found, rfl⟩
      · exact ⟨rfl, rfl⟩

/-- A submission is a task or refused, and no other action adds one. -/
theorem Answered.step {serialization : Serialization} {maxTracked : Nat}
    {taken : List SerializationAction} (answered : serialization.Answered maxTracked taken)
    (action : SerializationAction) :
    (serialization.step maxTracked action).Answered maxTracked (taken ++ [action]) := by
  obtain ⟨kept, counted, unlimited⟩ := answered
  cases submits : action.submitted with
  | none =>
    obtain ⟨keys, refused⟩ := serialization.step_of_unsubmitted maxTracked submits
    have same : (taken ++ [action]).filterMap submitted =
        taken.filterMap submitted := by
      simp [submits]
    have lengths := congrArg List.length keys
    rw [List.length_map, List.length_map] at lengths
    refine ⟨?_, ?_, fun boundless => refused.trans (unlimited boundless)⟩
    · rw [same, keys]
      exact kept
    · rw [same, lengths, refused]
      exact counted
  | some key =>
    obtain rfl : action = .submit key := by
      cases action <;> cases submits
      rfl
    have more : (taken ++ [SerializationAction.submit key]).filterMap submitted =
        taken.filterMap submitted ++ [key] := by
      simp [submitted]
    simp only [Serialization.step, submit]
    split_ifs with full
    · refine ⟨?_, ?_, fun boundless => ?_⟩
      · rw [more]
        exact kept.trans (List.sublist_append_left _ _)
      · rw [more, List.length_append, List.length_singleton, ← counted]
        exact (Nat.add_assoc _ _ _).symm
      · have positive := full.1
        omega
    · refine ⟨?_, ?_, unlimited⟩
      · rw [more, List.map_append]
        exact kept.append (List.Sublist.refl _)
      · rw [more, List.length_append, List.length_append, ← counted]
        exact Nat.add_right_comm _ _ _

end Serialization

/-- The promises are kept in every run, and of every submission. -/
theorem serialization_lawful (maxTracked : Nat) (actions : List SerializationAction) :
    (run (Serialization.step maxTracked) {} actions).Lawful maxTracked ∧
      (run (Serialization.step maxTracked) {} actions).Answered maxTracked actions := by
  have initially : ({} : Serialization).Sound := by
    refine ⟨⟨fun _ _ found => ?_, fun _ _ found => ?_, fun _ _ _ found => ?_⟩,
      ⟨fun _ _ isTail => ?_, fun _ _ _ _ _ found => ?_⟩⟩
    · cases found
    · cases found
    · cases found
    · cases isTail
    · cases found
  have keeps : ∀ (serialization : Serialization) (action : SerializationAction),
      serialization.Sound → (serialization.step maxTracked action).Sound :=
    fun _ action sound => sound.step maxTracked action
  have answers : ∀ (taken : List SerializationAction) (serialization : Serialization)
      (action : SerializationAction), serialization.Answered maxTracked taken →
        (serialization.step maxTracked action).Answered maxTracked (taken ++ [action]) :=
    fun _ _ action answered => answered.step action
  have none : ({} : Serialization).Answered maxTracked [] :=
    ⟨List.Sublist.refl _, rfl, fun _ => rfl⟩
  exact ⟨(run_invariant _ keeps initially actions).lawful maxTracked,
    run_history _ answers none actions⟩

end PlugHub.PublishSerialization
