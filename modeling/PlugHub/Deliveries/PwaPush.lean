import Mathlib.Algebra.Group.Int.Defs
import Mathlib.Data.List.Perm.Subperm
import PlugHub.Library.OrderedMap
import PlugHub.Library.Runs

/-!
# Push deliveries

Rows of push deliveries in a store that any number of workers drain. A worker reads a row that is
due, takes a lease on it by counting an attempt (a write that takes effect only while the row is as
it was read), reads the subscription of the row, sends, and marks the row done or lets it wait. A
lease ends after a minute whatever its worker does, and nothing tells the worker.

Every statement of a worker is a step of its own. The state of a run keeps what happened: leases,
jobs that were handed out and sent, and rows that were marked done.
-/

namespace PlugHub.PwaPush

open Library
open OrderedMap (forall_set get_eq_some_iff get_erase get_mapValues get_modify get_set_cases
  get_set_of_ne)

/-! ## The store -/

/-- A push subscription of an installation. -/
structure PwaSubscription where
  clientId : String
  installationId : String
  endpoint : String
  p256dh : String
  auth : String
deriving DecidableEq

/-- A message for a client. -/
structure PwaPushMessage where
  eventId : String
  type : String
deriving DecidableEq

/-- A row of the deliveries. -/
structure PwaDelivery where
  installationId : String
  clientId : String
  eventId : String
  type : String
  attempts : Nat := 0
  availableAt : Int
  done : Bool := false
deriving DecidableEq

/-- What a claim hands out. -/
structure PwaPushJob where
  id : Nat
  subscription : PwaSubscription
  message : PwaPushMessage
  attempts : Nat
deriving DecidableEq

/-- A row is claimed while fewer attempts were counted. -/
def maxAttempts : Nat := 3

/-- A row is due for an attempt. -/
def PwaDelivery.Due (row : PwaDelivery) (now : Int) : Bool :=
  !row.done && row.attempts < maxAttempts && row.availableAt ≤ now

/-- The entry that is due first. -/
def earliest : List (Nat × PwaDelivery) → Option (Nat × PwaDelivery)
  | [] => none
  | entry :: rest =>
    match earliest rest with
    | none => some entry
    | some other =>
      if other.2.availableAt < entry.2.availableAt then some other else some entry

/-- The two tables. -/
structure PushStore where
  subscriptions : OrderedMap String PwaSubscription := .empty
  deliveries : OrderedMap Nat PwaDelivery := .empty
  nextId : Nat := 0

namespace PushStore

variable (store : PushStore)

/-- Another installation has an endpoint. -/
def endpointTaken (input : PwaSubscription) : Bool :=
  store.subscriptions.entries.any fun entry =>
    entry.1 ≠ input.installationId && entry.2.endpoint = input.endpoint

/-- The update of `save`: the store, unless the endpoint is taken, and whether a row was
updated. -/
def saveUpdate (input : PwaSubscription) : Option (PushStore × Bool) :=
  match store.subscriptions.get input.installationId with
  | none => some (store, false)
  | some stored =>
    if stored.clientId ≠ input.clientId then some (store, false)
    else if store.endpointTaken input then none
    else some ({ store with
      subscriptions := store.subscriptions.set input.installationId input }, true)

/-- The insert of `save`; it fails when the installation or the endpoint is taken. -/
def saveCreate (input : PwaSubscription) : PushStore :=
  if store.subscriptions.has input.installationId || store.endpointTaken input then store
  else { store with subscriptions := store.subscriptions.set input.installationId input }

/-- `remove`: the subscription of an installation of the client, and its deliveries that are not
done. -/
def remove (clientId installationId : String) : PushStore :=
  { store with
    subscriptions :=
      if (store.subscriptions.get installationId).any (·.clientId = clientId) then
        store.subscriptions.erase installationId
      else store.subscriptions
    deliveries := store.deliveries.mapValues fun row =>
      if row.clientId = clientId && row.installationId = installationId then
        { row with done := true }
      else row }

/-- One row of `enqueuePwaDeliveries`, unless the installation has one for the event. -/
def createDelivery (now : Int) (clientId installationId : String) (message : PwaPushMessage) :
    PushStore :=
  if store.deliveries.values.any fun row =>
      row.installationId = installationId && row.eventId = message.eventId then store
  else { store with
    deliveries := store.deliveries.set store.nextId
      { installationId, clientId, eventId := message.eventId, type := message.type,
        availableAt := now }
    nextId := store.nextId + 1 }

/-- `enqueuePwaDeliveries`. -/
def enqueue (now : Int) (clientId : String) (message : PwaPushMessage) : PushStore :=
  (store.subscriptions.values.filter (·.clientId = clientId)).foldl
    (fun store subscription =>
      store.createDelivery now clientId subscription.installationId message) store

/-- The read of `claim`. -/
def findDue (now : Int) : Option (Nat × PwaDelivery) :=
  earliest (store.deliveries.entries.filter fun entry => entry.2.Due now)

/-- The lease of `claim`: the store, and whether the row was still as it was read. -/
def lease (now : Int) (id : Nat) (row : PwaDelivery) : PushStore × Bool :=
  match store.deliveries.get id with
  | none => (store, false)
  | some stored =>
    if !stored.done && stored.attempts = row.attempts && stored.availableAt ≤ now then
      ({ store with
        deliveries := store.deliveries.set id
          { stored with attempts := stored.attempts + 1, availableAt := now + 60000 } }, true)
    else (store, false)

/-- `complete`. -/
def complete (id : Nat) : PushStore :=
  { store with deliveries := store.deliveries.modify id fun row => { row with done := true } }

/-- `retry`. -/
def retry (id : Nat) (next : Int) : PushStore :=
  { store with
    deliveries := store.deliveries.modify id fun row => { row with availableAt := next } }

end PushStore

/-- The part of `claim` after it read the subscription: the job, unless the subscription is gone or
of another client, or the type is none that is sent. -/
def pair (id : Nat) (row : PwaDelivery) : Option PwaSubscription → Option PwaPushJob
  | none => none
  | some subscription =>
    if subscription.clientId ≠ row.clientId then none
    else if row.type ≠ "access-approved" ∧ row.type ≠ "access-revoked" then none
    else some
      { id, subscription, attempts := row.attempts + 1, message := ⟨row.eventId, row.type⟩ }

/-! ## Workers -/

/-- The answer of the sender. -/
inductive SendOutcome where
  | sent
  | expired
  | retry
deriving DecidableEq

/-- The statement that a worker waits for. -/
inductive DrainPoint where
  | finding (now : Int)
  | leasing (now : Int) (id : Nat) (row : PwaDelivery)
  | pairing (id : Nat) (row : PwaDelivery)
  | discarding (id : Nat)
  | sending (job : PwaPushJob)
  | removing (job : PwaPushJob)
  | completing (job : PwaPushJob)
  | retrying (job : PwaPushJob) (next : Int)

/-- A drain in progress. -/
structure Drain where
  count : Nat := 0
  point : DrainPoint

/-- How many rows a drain deals with at most. -/
def drainLimit : Nat := 20

/-- The part of `drain` after a row was dealt with, at an instant; nothing when it ends. -/
def Drain.next (drain : Drain) (now : Int) : Option Drain :=
  if drain.count + 1 < drainLimit then some ⟨drain.count + 1, .finding now⟩ else none

/-- The part of `drain` after the sender answered. -/
def afterSend (now : Int) (job : PwaPushJob) : SendOutcome → DrainPoint
  | .sent => .completing job
  | .expired => .removing job
  | .retry =>
    if maxAttempts ≤ job.attempts then .completing job
    else .retrying job (now + 30000 * 2 ^ job.attempts)

/-! ## Runs -/

/-- What happened to a row. -/
inductive PushEvent where
  | leased (id attempt : Nat)
  | handedOut (job : PwaPushJob)
  | done (id : Nat)

/-- The attempt of a job that was handed out. -/
def PushEvent.handed : PushEvent → Option (Nat × Nat)
  | .handedOut job => some (job.id, job.attempts)
  | _ => none

/-- The store, its workers, and what happened. -/
structure PushSystem where
  store : PushStore := {}
  creating : List PwaSubscription := []
  drains : OrderedMap Nat Drain := .empty
  history : List PushEvent := []

/-- What happens to the store and to the workers. -/
inductive PushAction where
  | subscribe (input : PwaSubscription)
  | create (position : Nat)
  | unsubscribe (clientId installationId : String)
  | enqueue (now : Int) (clientId : String) (message : PwaPushMessage)
  | drain (worker : Nat) (now : Int)
  | go (worker : Nat) (now : Int) (outcome : SendOutcome)
  /-- What a worker waits for fails, or the worker is gone; its drain ends. -/
  | fail (worker : Nat)

namespace PushSystem

variable (system : PushSystem)

/-- A worker goes on with a drain, or ends it. -/
def goOn (worker : Nat) : Option Drain → PushSystem
  | some drain => { system with drains := system.drains.set worker drain }
  | none => { system with drains := system.drains.erase worker }

/-- The rows that `remove` marks done. -/
def removed (clientId installationId : String) : List PushEvent :=
  (system.store.deliveries.entries.filter fun entry =>
    entry.2.clientId = clientId && entry.2.installationId = installationId).map
      fun entry => .done entry.1

/-- `remove` takes effect. -/
def remove (clientId installationId : String) : PushSystem :=
  { system with
    store := system.store.remove clientId installationId
    history := system.history ++ system.removed clientId installationId }

/-- `complete` takes effect. -/
def complete (id : Nat) : PushSystem :=
  { system with store := system.store.complete id, history := system.history ++ [.done id] }

/-- What a worker waits for takes effect. -/
def advance (worker : Nat) (drain : Drain) (now : Int) (outcome : SendOutcome) : PushSystem :=
  match drain.point with
  | .finding asked =>
    match system.store.findDue asked with
    | none => system.goOn worker none
    | some (id, row) => system.goOn worker (some { drain with point := .leasing asked id row })
  | .leasing asked id row =>
    let (store, leased) := system.store.lease asked id row
    if leased then
      { system with
        store
        history := system.history ++ [.leased id (row.attempts + 1)]
        drains := system.drains.set worker { drain with point := .pairing id row } }
    else system.goOn worker none
  | .pairing id row =>
    match pair id row (system.store.subscriptions.get row.installationId) with
    | none => system.goOn worker (some { drain with point := .discarding id })
    | some job =>
      { system with
        history := system.history ++ [.handedOut job]
        drains := system.drains.set worker { drain with point := .sending job } }
  | .discarding id => (system.complete id).goOn worker none
  | .sending job =>
    system.goOn worker (some { drain with point := afterSend now job outcome })
  | .removing job =>
    (system.remove job.subscription.clientId job.subscription.installationId).goOn worker
      (some { drain with point := .completing job })
  | .completing job => (system.complete job.id).goOn worker (drain.next now)
  | .retrying job next =>
    { system with store := system.store.retry job.id next }.goOn worker (drain.next now)

/-- One step. -/
def step : PushAction → PushSystem
  | .subscribe input =>
    match system.store.saveUpdate input with
    | none => system
    | some (store, true) => { system with store }
    | some (_, false) => { system with creating := system.creating ++ [input] }
  | .create position =>
    match system.creating[position]? with
    | none => system
    | some input =>
      { system with
        store := system.store.saveCreate input
        creating := system.creating.eraseIdx position }
  | .unsubscribe clientId installationId => system.remove clientId installationId
  | .enqueue now clientId message =>
    { system with store := system.store.enqueue now clientId message }
  | .drain worker now =>
    if system.drains.has worker then system
    else system.goOn worker (some { point := .finding now })
  | .go worker now outcome =>
    match system.drains.get worker with
    | none => system
    | some drain => system.advance worker drain now outcome
  | .fail worker => system.goOn worker none

/-- The attempts that claims handed out. -/
def handedOut : List (Nat × Nat) := system.history.filterMap PushEvent.handed

/-- What is promised. -/
structure Lawful : Prop where
  /-- No attempt of a delivery is handed out twice. -/
  once : system.handedOut.Nodup
  /-- A delivery is handed out three times at most. -/
  thrice : ∀ id, system.handedOut.countP (·.1 = id) ≤ 3
  /-- What is done is never leased again. -/
  final : system.history.Pairwise fun earlier later =>
    ∀ id attempt, earlier = .done id → later ≠ .leased id attempt
  /-- What is handed out was leased with that attempt. -/
  claimed : ∀ job, .handedOut job ∈ system.history → .leased job.id job.attempts ∈ system.history
  /-- A delivery goes to a subscription of its own client. -/
  own : ∀ job, .handedOut job ∈ system.history → ∃ row,
    system.store.deliveries.get job.id = some row ∧ row.clientId = job.subscription.clientId

end PushSystem

/-! ## What statements do to the rows -/

/-- Rows stay, count attempts up and stay done; new rows have new numbers. -/
structure PushStore.Grows (store later : PushStore) : Prop where
  kept : ∀ id row, store.deliveries.get id = some row → ∃ after,
    later.deliveries.get id = some after ∧ after.clientId = row.clientId ∧
      row.attempts ≤ after.attempts ∧ (row.done = true → after.done = true)
  next : store.nextId ≤ later.nextId
  numbered : (∀ id row, store.deliveries.get id = some row → id < store.nextId) →
    ∀ id row, later.deliveries.get id = some row → id < later.nextId
  bounded : (∀ id row, store.deliveries.get id = some row → row.attempts ≤ maxAttempts) →
    ∀ id row, later.deliveries.get id = some row → row.attempts ≤ maxAttempts

namespace PushStore.Grows

variable {store later : PushStore}

theorem refl (store : PushStore) : Grows store store :=
  ⟨fun _ row found => ⟨row, found, rfl, Nat.le_refl _, id⟩, Nat.le_refl _, id, id⟩

theorem trans {last : PushStore} (first : Grows store later) (second : Grows later last) :
    Grows store last := by
  refine ⟨fun id row found => ?_, Nat.le_trans first.next second.next,
    fun numbered => second.numbered (first.numbered numbered),
    fun bounded => second.bounded (first.bounded bounded)⟩
  obtain ⟨after, foundAfter, client, counted, done⟩ := first.kept id row found
  obtain ⟨final, foundFinal, clientFinal, countedFinal, doneFinal⟩ :=
    second.kept id after foundAfter
  exact ⟨final, foundFinal, clientFinal.trans client, Nat.le_trans counted countedFinal,
    fun isDone => doneFinal (done isDone)⟩

theorem stays (grows : Grows store later) {id : Nat}
    (there : ∃ row, store.deliveries.get id = some row) :
    ∃ row, later.deliveries.get id = some row := by
  obtain ⟨row, found⟩ := there
  obtain ⟨after, foundAfter, -⟩ := grows.kept id row found
  exact ⟨after, foundAfter⟩

theorem of_deliveries (same : later.deliveries = store.deliveries)
    (next : later.nextId = store.nextId) : Grows store later := by
  refine ⟨fun id row found => ⟨row, ?_, rfl, Nat.le_refl _, fun isDone => isDone⟩,
    Nat.le_of_eq next.symm, fun numbered => ?_, fun bounded => ?_⟩
  · rw [same]
    exact found
  · rw [same, next]
    exact numbered
  · rw [same]
    exact bounded

variable (store : PushStore)

theorem modify (id : Nat) (change : PwaDelivery → PwaDelivery)
    (client : ∀ row, (change row).clientId = row.clientId)
    (attempts : ∀ row, (change row).attempts = row.attempts)
    (done : ∀ row, row.done = true → (change row).done = true) :
    Grows store { store with deliveries := store.deliveries.modify id change } := by
  have before {other : Nat} {after : PwaDelivery}
      (found : (store.deliveries.modify id change).get other = some after) :
      ∃ row, store.deliveries.get other = some row ∧ after.attempts = row.attempts := by
    rw [get_modify] at found
    split_ifs at found with same
    · obtain ⟨row, stored, rfl⟩ := Option.map_eq_some_iff.mp found
      exact ⟨row, same ▸ stored, attempts row⟩
    · exact ⟨after, found, rfl⟩
  refine ⟨fun other row found => ?_, Nat.le_refl _, fun numbered other after found => ?_,
    fun bounded other after found => ?_⟩
  · by_cases same : other = id
    · subst same
      refine ⟨change row, ?_, client row, Nat.le_of_eq (attempts row).symm, done row⟩
      rw [get_modify, if_pos rfl, found]
      rfl
    · refine ⟨row, ?_, rfl, Nat.le_refl _, fun isDone => isDone⟩
      rw [get_modify, if_neg same]
      exact found
  · obtain ⟨row, stored, -⟩ := before found
    exact numbered other row stored
  · obtain ⟨row, stored, same⟩ := before found
    rw [same]
    exact bounded other row stored

theorem complete (id : Nat) : Grows store (store.complete id) :=
  modify store id _ (fun _ => rfl) (fun _ => rfl) fun _ _ => rfl

theorem retry (id : Nat) (next : Int) : Grows store (store.retry id next) :=
  modify store id _ (fun _ => rfl) (fun _ => rfl) fun _ isDone => isDone

theorem remove (clientId installationId : String) :
    Grows store (store.remove clientId installationId) := by
  have before {id : Nat} {after : PwaDelivery}
      (found : (store.remove clientId installationId).deliveries.get id = some after) :
      ∃ row, store.deliveries.get id = some row ∧ after.attempts = row.attempts := by
    rw [PushStore.remove, get_mapValues] at found
    obtain ⟨row, stored, rfl⟩ := Option.map_eq_some_iff.mp found
    refine ⟨row, stored, ?_⟩
    split_ifs
    · rfl
    · rfl
  refine ⟨fun id row found => ?_, Nat.le_refl _, fun numbered id after found => ?_,
    fun bounded id after found => ?_⟩
  · refine ⟨_, by rw [PushStore.remove, get_mapValues, found]; rfl, ?_⟩
    simp only
    split_ifs
    · exact ⟨rfl, Nat.le_refl _, fun _ => rfl⟩
    · exact ⟨rfl, Nat.le_refl _, fun isDone => isDone⟩
  · obtain ⟨row, stored, -⟩ := before found
    exact numbered id row stored
  · obtain ⟨row, stored, same⟩ := before found
    rw [same]
    exact bounded id row stored

theorem createDelivery
    (numbered : ∀ id row, store.deliveries.get id = some row → id < store.nextId) (now : Int)
    (clientId installationId : String) (message : PwaPushMessage) :
    Grows store (store.createDelivery now clientId installationId message) := by
  unfold PushStore.createDelivery
  split_ifs
  · exact refl store
  · refine ⟨fun id row found => ⟨row, ?_, rfl, Nat.le_refl _, fun isDone => isDone⟩,
      Nat.le_succ _, fun numbered => forall_set (Nat.lt_succ_self _) fun id row found =>
        Nat.lt_succ_of_lt (numbered id row found), forall_set (Nat.zero_le _)⟩
    have differs : id ≠ store.nextId := Nat.ne_of_lt (numbered id row found)
    rw [get_set_of_ne _ _ differs]
    exact found

theorem enqueue
    (numbered : ∀ id row, store.deliveries.get id = some row → id < store.nextId) (now : Int)
    (clientId : String) (message : PwaPushMessage) :
    Grows store (store.enqueue now clientId message) := by
  unfold PushStore.enqueue
  generalize store.subscriptions.values.filter (·.clientId = clientId) = subscriptions
  induction subscriptions generalizing store with
  | nil => exact refl store
  | cons subscription rest ih =>
    have first := createDelivery store numbered now clientId subscription.installationId message
    exact first.trans (ih _ (first.numbered numbered))

end PushStore.Grows

/-! ## What workers know of the rows -/

/-- What a worker's copy says of the store and of what happened. -/
def DrainPoint.Known (system : PushSystem) : DrainPoint → Prop
  | .finding _ => True
  | .leasing _ id row => row.attempts < maxAttempts ∧ ∃ stored,
    system.store.deliveries.get id = some stored ∧ stored.clientId = row.clientId
  | .pairing id row => .leased id (row.attempts + 1) ∈ system.history ∧
    (id, row.attempts + 1) ∉ system.handedOut ∧ ∃ stored,
      system.store.deliveries.get id = some stored ∧ stored.clientId = row.clientId
  | .discarding id => ∃ stored, system.store.deliveries.get id = some stored
  | .sending job => ∃ stored, system.store.deliveries.get job.id = some stored
  | .removing job => ∃ stored, system.store.deliveries.get job.id = some stored
  | .completing job => ∃ stored, system.store.deliveries.get job.id = some stored
  | .retrying job _ => ∃ stored, system.store.deliveries.get job.id = some stored

/-- The attempt of a row that a worker has a lease for and has not handed out. -/
def DrainPoint.held : DrainPoint → Option (Nat × Nat)
  | .pairing id row => some (id, row.attempts + 1)
  | _ => none

/-- What every step keeps. -/
structure Sound (system : PushSystem) : Prop where
  numbered : ∀ id row, system.store.deliveries.get id = some row → id < system.store.nextId
  bounded : ∀ id row, system.store.deliveries.get id = some row → row.attempts ≤ maxAttempts
  leased : ∀ id attempt, .leased id attempt ∈ system.history → 1 ≤ attempt ∧ ∃ row,
    system.store.deliveries.get id = some row ∧ attempt ≤ row.attempts
  done : ∀ id, .done id ∈ system.history → ∃ row,
    system.store.deliveries.get id = some row ∧ row.done = true
  once : system.handedOut.Nodup
  final : system.history.Pairwise fun earlier later =>
    ∀ id attempt, earlier = .done id → later ≠ .leased id attempt
  claimed : ∀ job, .handedOut job ∈ system.history → .leased job.id job.attempts ∈ system.history
  own : ∀ job, .handedOut job ∈ system.history → ∃ row,
    system.store.deliveries.get job.id = some row ∧ row.clientId = job.subscription.clientId
  known : ∀ worker drain, system.drains.get worker = some drain → drain.point.Known system
  single : ∀ worker drain other also, system.drains.get worker = some drain →
    system.drains.get other = some also → ∀ attempt, drain.point.held = some attempt →
      also.point.held = some attempt → worker = other

theorem DrainPoint.Known.grow {system : PushSystem} {point : DrainPoint}
    (known : point.Known system) {store : PushStore} (grows : system.store.Grows store) :
    point.Known { system with store } := by
  cases point with
  | finding now => trivial
  | leasing now id row =>
    obtain ⟨few, stored, found, client⟩ := known
    obtain ⟨after, foundAfter, same, -⟩ := grows.kept id stored found
    exact ⟨few, after, foundAfter, same.trans client⟩
  | pairing id row =>
    obtain ⟨leased, fresh, stored, found, client⟩ := known
    obtain ⟨after, foundAfter, same, -⟩ := grows.kept id stored found
    exact ⟨leased, fresh, after, foundAfter, same.trans client⟩
  | discarding id | sending job | removing job | completing job | retrying job _ =>
    obtain ⟨stored, found⟩ := known
    obtain ⟨after, foundAfter, -⟩ := grows.kept _ stored found
    exact ⟨after, foundAfter⟩

/-- What is known stays known while the rows stay, also when more happens that does not hand out the
attempt that is held. -/
theorem DrainPoint.Known.extend {system next : PushSystem} {point : DrainPoint}
    (known : point.Known system) (store : next.store = system.store)
    (history : system.history ⊆ next.history)
    (free : ∀ attempt, point.held = some attempt → attempt ∉ system.handedOut →
      attempt ∉ next.handedOut) : point.Known next := by
  cases point with
  | pairing id row =>
    obtain ⟨leased, fresh, stored⟩ := known
    exact ⟨history leased, free _ rfl fresh, store ▸ stored⟩
  | finding _ => trivial
  | leasing _ _ _ | discarding _ | sending _ | removing _ | completing _ | retrying _ _ =>
    unfold DrainPoint.Known
    rw [store]
    exact known

namespace Sound

variable {system : PushSystem}

theorem initial : Sound {} where
  numbered _ _ found := by cases found
  bounded _ _ found := by cases found
  leased _ _ member := by cases member
  done _ member := by cases member
  once := List.nodup_nil
  final := List.Pairwise.nil
  claimed _ member := by cases member
  own _ member := by cases member
  known _ _ found := by cases found
  single _ _ _ _ found := by cases found

variable {id : Nat}

theorem mem_handedOut {attempt : Nat} (member : (id, attempt) ∈ system.handedOut) :
    ∃ job, .handedOut job ∈ system.history ∧ job.id = id ∧ job.attempts = attempt := by
  obtain ⟨event, happened, picked⟩ := List.mem_filterMap.mp member
  cases event with
  | leased _ _ | done _ => cases picked
  | handedOut job =>
    cases picked
    exact ⟨job, happened, rfl, rfl⟩

section

variable (sound : Sound system)

include sound

theorem thrice (id : Nat) : system.handedOut.countP (·.1 = id) ≤ 3 := by
  have attempts : (system.handedOut.filter (·.1 = id)).map Prod.snd ⊆ [1, 2, 3] := by
    intro attempt member
    obtain ⟨entry, picked, rfl⟩ := List.mem_map.mp member
    obtain ⟨handed, same⟩ := List.mem_filter.mp picked
    obtain ⟨job, happened, -, attempts⟩ := mem_handedOut handed
    obtain ⟨positive, row, found, counted⟩ :=
      sound.leased job.id job.attempts (sound.claimed job happened)
    have few := sound.bounded job.id row found
    have limit : maxAttempts = 3 := rfl
    have choices : entry.2 = 1 ∨ entry.2 = 2 ∨ entry.2 = 3 := by omega
    simpa using choices
  have distinct : ((system.handedOut.filter (·.1 = id)).map Prod.snd).Nodup := by
    refine List.Nodup.map_on (fun first member second also same => ?_) (sound.once.filter _)
    have left := of_decide_eq_true (List.mem_filter.mp member).2
    have right := of_decide_eq_true (List.mem_filter.mp also).2
    exact Prod.ext (left.trans right.symm) same
  have length := (distinct.subperm attempts).length_le
  rw [List.length_map] at length
  rw [List.countP_eq_length_filter]
  exact length

theorem lawful : system.Lawful :=
  ⟨sound.once, sound.thrice, sound.final, sound.claimed, sound.own⟩

theorem grow {store : PushStore} (grows : system.store.Grows store) :
    Sound { system with store } := by
  refine ⟨grows.numbered sound.numbered, grows.bounded sound.bounded,
    fun id attempt member => ?_, fun id member => ?_, sound.once, sound.final, sound.claimed,
    fun job member => ?_, fun worker drain found => (sound.known worker drain found).grow grows,
    sound.single⟩
  · obtain ⟨positive, row, found, counted⟩ := sound.leased id attempt member
    obtain ⟨after, foundAfter, -, more, -⟩ := grows.kept id row found
    exact ⟨positive, after, foundAfter, Nat.le_trans counted more⟩
  · obtain ⟨row, found, isDone⟩ := sound.done id member
    obtain ⟨after, foundAfter, -, -, stays⟩ := grows.kept id row found
    exact ⟨after, foundAfter, stays isDone⟩
  · obtain ⟨row, found, client⟩ := sound.own job member
    obtain ⟨after, foundAfter, same, -⟩ := grows.kept job.id row found
    exact ⟨after, foundAfter, same.trans client⟩

theorem note {ids : List Nat}
    (isDone : ∀ id ∈ ids, ∃ row, system.store.deliveries.get id = some row ∧ row.done = true) :
    Sound { system with history := system.history ++ ids.map .done } := by
  have old {event : PushEvent} (member : event ∈ system.history ++ ids.map .done)
      (other : ∀ id, event ≠ .done id) : event ∈ system.history := by
    rcases List.mem_append.mp member with before | new
    · exact before
    · obtain ⟨id, -, rfl⟩ := List.mem_map.mp new
      exact absurd rfl (other id)
  have handed :
      ({ system with history := system.history ++ ids.map .done } : PushSystem).handedOut =
        system.handedOut := by
    have nothing : (ids.map PushEvent.done).filterMap PushEvent.handed = [] := by
      simp [PushEvent.handed]
    simp only [PushSystem.handedOut, List.filterMap_append, nothing, List.append_nil]
  refine ⟨sound.numbered, sound.bounded,
    fun id attempt member => sound.leased id attempt (old member fun _ same => by cases same),
    fun id member => ?_, handed ▸ sound.once, ?_,
    fun job member => List.mem_append_left _ (sound.claimed job (old member fun _ same => by
      cases same)),
    fun job member => sound.own job (old member fun _ same => by cases same),
    fun worker drain found => (sound.known worker drain found).extend rfl
      (List.subset_append_left _ _) fun _ _ free => handed ▸ free, sound.single⟩
  · rcases List.mem_append.mp member with before | new
    · exact sound.done id before
    · obtain ⟨other, listed, same⟩ := List.mem_map.mp new
      cases same
      exact isDone id listed
  · refine List.pairwise_append.mpr ⟨sound.final, ?_, fun earlier _ later member => ?_⟩
    · refine List.pairwise_map.mpr (List.pairwise_of_forall fun _ _ _ _ _ same => ?_)
      cases same
    · obtain ⟨id, -, rfl⟩ := List.mem_map.mp member
      intro _ _ _ same
      cases same

/-- A worker that holds no attempt goes on. -/
theorem single_set {worker : Nat} {next : Drain}
    (free : next.point.held = none) : ∀ first after second also,
      (system.drains.set worker next).get first = some after →
        (system.drains.set worker next).get second = some also → ∀ attempt,
          after.point.held = some attempt → also.point.held = some attempt → first = second := by
  intro first after second also found foundAlso attempt holds holdsAlso
  rcases get_set_cases found with ⟨-, rfl⟩ | ⟨-, before⟩
  · cases free.symm.trans holds
  · rcases get_set_cases foundAlso with ⟨-, rfl⟩ | ⟨-, beforeAlso⟩
    · cases free.symm.trans holdsAlso
    · exact sound.single first after second also before beforeAlso attempt holds holdsAlso

theorem goOn (worker : Nat) {next : Option Drain}
    (known : ∀ drain ∈ next, drain.point.Known system ∧ drain.point.held = none) :
    Sound (system.goOn worker next) := by
  cases next with
  | none =>
    have stays {other : Nat} {drain : Drain}
        (found : (system.drains.erase worker).get other = some drain) :
        system.drains.get other = some drain := by
      rw [get_erase] at found
      split_ifs at found with same
      exact found
    exact ⟨sound.numbered, sound.bounded, sound.leased, sound.done, sound.once, sound.final,
      sound.claimed, sound.own, fun other drain found => sound.known other drain (stays found),
      fun first drain second also found foundAlso =>
        sound.single first drain second also (stays found) (stays foundAlso)⟩
  | some drain =>
    obtain ⟨here, free⟩ := known drain rfl
    exact ⟨sound.numbered, sound.bounded, sound.leased, sound.done, sound.once, sound.final,
      sound.claimed, sound.own, forall_set here sound.known, sound.single_set free⟩

end

theorem mem_of_earliest {entries : List (Nat × PwaDelivery)} {entry : Nat × PwaDelivery}
    (found : earliest entries = some entry) : entry ∈ entries := by
  induction entries generalizing entry with
  | nil => cases found
  | cons first rest ih =>
    unfold earliest at found
    cases later : earliest rest with
    | none =>
      simp only [later] at found
      cases found
      exact List.mem_cons_self
    | some other =>
      simp only [later] at found
      split_ifs at found
      · cases found
        exact List.mem_cons_of_mem _ (ih later)
      · cases found
        exact List.mem_cons_self

variable {row : PwaDelivery}

theorem of_findDue {now : Int} (found : system.store.findDue now = some (id, row)) :
    system.store.deliveries.get id = some row ∧ row.attempts < maxAttempts := by
  obtain ⟨stored, due⟩ := List.mem_filter.mp (mem_of_earliest found)
  simp only [PwaDelivery.Due, Bool.and_eq_true, decide_eq_true_eq] at due
  exact ⟨(get_eq_some_iff _ id row).mpr stored, due.1.2⟩

variable {worker : Nat}

theorem lease (sound : Sound system) {drain : Drain} {now : Int}
    (few : row.attempts < maxAttempts) {stored : PwaDelivery}
    (found : system.store.deliveries.get id = some stored)
    (client : stored.clientId = row.clientId) (unsettled : stored.done = false)
    (same : stored.attempts = row.attempts) :
    Sound { system with
      store := { system.store with
        deliveries := system.store.deliveries.set id
          { stored with attempts := stored.attempts + 1, availableAt := now + 60000 } }
      history := system.history ++ [.leased id (row.attempts + 1)]
      drains := system.drains.set worker { drain with point := .pairing id row } } := by
  have here : (system.store.deliveries.set id
      { stored with attempts := stored.attempts + 1, availableAt := now + 60000 }).get id =
      some { stored with attempts := stored.attempts + 1, availableAt := now + 60000 } :=
    OrderedMap.get_set_self _ _ _
  have grows : system.store.Grows { system.store with
      deliveries := system.store.deliveries.set id
        { stored with attempts := stored.attempts + 1, availableAt := now + 60000 } } := by
    refine ⟨fun other before foundOther => ?_, Nat.le_refl _,
      fun numbered => forall_set (numbered id stored found) numbered,
      forall_set (Nat.succ_le_of_lt (same ▸ few))⟩
    by_cases equal : other = id
    · subst equal
      rw [found] at foundOther
      cases foundOther
      exact ⟨_, here, rfl, Nat.le_succ _, fun isDone => isDone⟩
    · exact ⟨before, (get_set_of_ne _ _ equal).trans foundOther, rfl, Nat.le_refl _,
        fun isDone => isDone⟩
  -- The attempt is new: what was leased before is counted in the row.
  have fresh : .leased id (row.attempts + 1) ∉ system.history := by
    intro member
    obtain ⟨-, counted, place, more⟩ := sound.leased id _ member
    rw [found] at place
    cases place
    omega
  have unhanded : (id, row.attempts + 1) ∉ system.handedOut := by
    intro member
    obtain ⟨job, happened, rfl, attempts⟩ := mem_handedOut member
    have claimed := sound.claimed job happened
    rw [attempts] at claimed
    exact fresh claimed
  have unfinished : .done id ∉ system.history := by
    intro member
    obtain ⟨other, place, isDone⟩ := sound.done id member
    rw [found] at place
    cases place
    rw [unsettled] at isDone
    cases isDone
  have grown := sound.grow grows
  have handed : (system.history ++ [PushEvent.leased id (row.attempts + 1)]).filterMap
      PushEvent.handed = system.handedOut := by
    simp [PushSystem.handedOut, PushEvent.handed]
  have old {event : PushEvent}
      (member : event ∈ system.history ++ [.leased id (row.attempts + 1)])
      (differs : event ≠ .leased id (row.attempts + 1)) : event ∈ system.history :=
    (List.mem_append.mp member).resolve_right fun new => differs (List.mem_singleton.mp new)
  refine ⟨grown.numbered, grown.bounded, fun other attempt member => ?_,
    fun other member => grown.done other (old member (by simp)), ?_, ?_,
    fun job member => List.mem_append_left _ (sound.claimed job (old member (by simp))),
    fun job member => grown.own job (old member (by simp)), forall_set ?_ fun other after before =>
      (grown.known other after before).extend rfl (List.subset_append_left _ _) fun _ _ free => ?_,
    fun first after second also place atAlso attempt holds holdsAlso => ?_⟩
  · rcases List.mem_append.mp member with before | new
    · exact grown.leased other attempt before
    · cases List.mem_singleton.mp new
      refine ⟨Nat.succ_le_succ (Nat.zero_le _), _, here, ?_⟩
      simp only
      omega
  · rw [PushSystem.handedOut, handed]
    exact sound.once
  · refine List.pairwise_append.mpr ⟨sound.final, List.pairwise_singleton _ _,
      fun earlier member later new other attempt isDone => ?_⟩
    rw [List.mem_singleton.mp new]
    intro leased
    cases leased
    exact unfinished (isDone ▸ member)
  · refine ⟨List.mem_append_right _ (List.mem_singleton_self _), ?_, _, here, client⟩
    rw [PushSystem.handedOut, handed]
    exact unhanded
  · rw [PushSystem.handedOut, handed]
    exact free
  · have apart {third : Nat} {holder : Drain} (before : system.drains.get third = some holder) :
        holder.point.held ≠ some (id, row.attempts + 1) := by
      intro holds
      have known := sound.known third holder before
      cases point : holder.point with
      | pairing leasedId leasedRow =>
        rw [point] at known holds
        obtain ⟨rfl, attempts⟩ := Prod.mk.inj (Option.some.inj holds)
        rw [← attempts] at fresh
        exact fresh known.1
      | finding _ | leasing _ _ _ | discarding _ | sending _ | removing _ | completing _
      | retrying _ _ =>
        rw [point] at holds
        cases holds
    rcases get_set_cases place with ⟨rfl, rfl⟩ | ⟨-, before⟩
    · cases holds
      rcases get_set_cases atAlso with ⟨rfl, -⟩ | ⟨-, beforeAlso⟩
      · rfl
      · exact absurd holdsAlso (apart beforeAlso)
    · rcases get_set_cases atAlso with ⟨-, rfl⟩ | ⟨-, beforeAlso⟩
      · cases holdsAlso
        exact absurd holds (apart before)
      · exact sound.single first after second also before beforeAlso attempt holds holdsAlso

theorem handOut (sound : Sound system) {drain : Drain}
    (place : system.drains.get worker = some drain)
    (point : drain.point = .pairing id row) {job : PwaPushJob}
    (paired : pair id row (system.store.subscriptions.get row.installationId) = some job) :
    Sound { system with
      history := system.history ++ [.handedOut job]
      drains := system.drains.set worker { drain with point := .sending job } } := by
  have known := sound.known worker drain place
  rw [point] at known
  obtain ⟨leased, fresh, stored, found, client⟩ := known
  have parts : job.id = id ∧ job.attempts = row.attempts + 1 ∧
      job.subscription.clientId = row.clientId := by
    cases subscribed : system.store.subscriptions.get row.installationId with
    | none =>
      rw [subscribed] at paired
      cases paired
    | some subscription =>
      rw [subscribed] at paired
      have own : subscription.clientId = row.clientId := by
        by_contra other
        rw [pair, if_pos other] at paired
        cases paired
      rw [pair, if_neg (not_not.mpr own)] at paired
      by_cases kind : row.type ≠ "access-approved" ∧ row.type ≠ "access-revoked"
      · rw [if_pos kind] at paired
        cases paired
      · rw [if_neg kind] at paired
        cases paired
        exact ⟨rfl, rfl, own⟩
  obtain ⟨rfl, attempts, owner⟩ := parts
  rw [← attempts] at leased fresh
  have handed : (system.history ++ [PushEvent.handedOut job]).filterMap PushEvent.handed =
      system.handedOut ++ [(job.id, job.attempts)] := by
    simp [PushSystem.handedOut, PushEvent.handed]
  have either {event : PushEvent} (member : event ∈ system.history ++ [.handedOut job]) :
      event ∈ system.history ∨ event = .handedOut job :=
    (List.mem_append.mp member).imp_right List.mem_singleton.mp
  refine ⟨sound.numbered, sound.bounded,
    fun other attempt member => sound.leased other attempt ((either member).resolve_right (by simp)),
    fun other member => sound.done other ((either member).resolve_right (by simp)),
    ?_, ?_, fun other member => ?_, fun other member => ?_, fun other after stays => ?_,
    sound.single_set rfl⟩
  · rw [PushSystem.handedOut, handed]
    exact List.nodup_append.mpr ⟨sound.once, List.nodup_singleton _,
      fun entry before other new same => fresh (List.mem_singleton.mp new ▸ same ▸ before)⟩
  · refine List.pairwise_append.mpr ⟨sound.final, List.pairwise_singleton _ _,
      fun earlier _ later new other attempt _ same => ?_⟩
    rw [List.mem_singleton.mp new] at same
    cases same
  · refine List.mem_append_left _ ?_
    rcases either member with before | new
    · exact sound.claimed other before
    · cases new
      exact leased
  · rcases either member with before | new
    · exact sound.own other before
    · cases new
      exact ⟨stored, found, client.trans owner.symm⟩
  · rcases get_set_cases stays with ⟨-, rfl⟩ | ⟨differs, before⟩
    · exact ⟨stored, found⟩
    · refine (sound.known other after before).extend rfl (List.subset_append_left _ _)
        fun attempt holds free member => ?_
      rw [PushSystem.handedOut, handed] at member
      rcases List.mem_append.mp member with early | new
      · exact free early
      · rw [List.mem_singleton.mp new] at holds
        refine differs (sound.single other after worker drain before place _ holds ?_)
        rw [point, attempts]
        rfl

theorem remove (sound : Sound system) (clientId installationId : String) :
    Sound (system.remove clientId installationId) := by
  have grown := sound.grow (PushStore.Grows.remove system.store clientId installationId)
  have ids : system.removed clientId installationId =
      ((system.store.deliveries.entries.filter fun entry =>
        entry.2.clientId = clientId && entry.2.installationId = installationId).map
          Prod.fst).map .done := by
    rw [List.map_map]
    rfl
  unfold PushSystem.remove
  rw [ids]
  refine grown.note fun id member => ?_
  obtain ⟨⟨_, row⟩, picked, rfl⟩ := List.mem_map.mp member
  obtain ⟨stored, test⟩ := List.mem_filter.mp picked
  have found := (get_eq_some_iff _ _ row).mpr stored
  refine ⟨{ row with done := true }, ?_, rfl⟩
  simp only [PushStore.remove, get_mapValues, found, Option.map_some, test, if_true]

theorem complete (sound : Sound system) {stored : PwaDelivery}
    (found : system.store.deliveries.get id = some stored) : Sound (system.complete id) := by
  have grown := sound.grow (PushStore.Grows.complete system.store id)
  refine grown.note fun other (member : other ∈ [id]) => ?_
  rw [List.mem_singleton.mp member]
  refine ⟨{ stored with done := true }, ?_, rfl⟩
  simp only [PushStore.complete, get_modify, if_true, found, Option.map_some]

theorem next_known (drain : Drain) (now : Int) :
    ∀ next ∈ drain.next now, next.point.Known system ∧ next.point.held = none := by
  intro next member
  unfold Drain.next at member
  split_ifs at member
  · cases member
    exact ⟨trivial, rfl⟩
  · cases member

theorem advance (sound : Sound system) {drain : Drain}
    (place : system.drains.get worker = some drain) (now : Int) (outcome : SendOutcome) :
    Sound (system.advance worker drain now outcome) := by
  have known := sound.known worker drain place
  unfold PushSystem.advance
  cases point : drain.point with
  | finding asked =>
    simp only
    cases due : system.store.findDue asked with
    | none => exact sound.goOn worker fun _ absent => by cases absent
    | some entry =>
      obtain ⟨id, row⟩ := entry
      obtain ⟨found, few⟩ := of_findDue due
      refine sound.goOn worker fun _ same => ?_
      cases same
      exact ⟨⟨few, row, found, rfl⟩, rfl⟩
  | leasing asked id row =>
    rw [point] at known
    obtain ⟨few, stored, found, client⟩ := known
    by_cases still : (!stored.done && stored.attempts = row.attempts &&
        stored.availableAt ≤ asked) = true
    · simp only [PushStore.lease, found, still, if_true]
      simp only [Bool.and_eq_true, Bool.not_eq_true', decide_eq_true_eq] at still
      exact sound.lease few found client still.1.1 still.1.2
    · simp only [PushStore.lease, found, still, Bool.false_eq_true, if_false]
      exact sound.goOn worker fun _ absent => by cases absent
  | pairing id row =>
    rw [point] at known
    obtain ⟨-, -, stored, found, -⟩ := known
    simp only
    cases paired : pair id row (system.store.subscriptions.get row.installationId) with
    | none =>
      refine sound.goOn worker fun _ same => ?_
      cases same
      exact ⟨⟨stored, found⟩, rfl⟩
    | some job => exact sound.handOut place point paired
  | discarding id =>
    rw [point] at known
    obtain ⟨stored, found⟩ := known
    exact (sound.complete found).goOn worker fun _ absent => by cases absent
  | sending job =>
    rw [point] at known
    refine sound.goOn worker fun _ same => ?_
    cases same
    cases outcome with
    | sent => exact ⟨known, rfl⟩
    | expired => exact ⟨known, rfl⟩
    | retry =>
      simp only [afterSend]
      split_ifs
      · exact ⟨known, rfl⟩
      · exact ⟨known, rfl⟩
  | removing job =>
    rw [point] at known
    refine (sound.remove _ _).goOn worker fun _ same => ?_
    cases same
    exact ⟨(PushStore.Grows.remove _ _ _).stays known, rfl⟩
  | completing job =>
    rw [point] at known
    obtain ⟨stored, found⟩ := known
    exact (sound.complete found).goOn worker (next_known drain now)
  | retrying job next =>
    exact (sound.grow (PushStore.Grows.retry system.store job.id next)).goOn worker
      (next_known drain now)

/-- Every action keeps the deliveries sound. -/
theorem step (sound : Sound system) (action : PushAction) : Sound (system.step action) := by
  cases action with
  | subscribe input =>
    simp only [PushSystem.step]
    cases saved : system.store.saveUpdate input with
    | none => exact sound
    | some result =>
      obtain ⟨store, updated⟩ := result
      cases updated with
      | true =>
        refine sound.grow ?_
        unfold PushStore.saveUpdate at saved
        cases found : system.store.subscriptions.get input.installationId with
        | none =>
          rw [found] at saved
          cases saved
        | some stored =>
          rw [found] at saved
          simp only at saved
          split_ifs at saved
          · cases saved
          · cases saved
            exact PushStore.Grows.of_deliveries rfl rfl
      | false =>
        exact ⟨sound.numbered, sound.bounded, sound.leased, sound.done, sound.once, sound.final,
          sound.claimed, sound.own, fun worker drain place => by
            have known := sound.known worker drain place
            cases point : drain.point <;> rw [point] at known <;> exact known, sound.single⟩
  | create position =>
    cases waiting : system.creating[position]? with
    | none => simpa only [PushSystem.step, waiting] using sound
    | some input =>
      simp only [PushSystem.step, waiting]
      have grows : system.store.Grows (system.store.saveCreate input) := by
        unfold PushStore.saveCreate
        split_ifs
        · exact PushStore.Grows.refl _
        · exact PushStore.Grows.of_deliveries rfl rfl
      have grown := sound.grow grows
      exact ⟨grown.numbered, grown.bounded, grown.leased, grown.done, grown.once, grown.final,
        grown.claimed, grown.own, fun worker drain place => by
          have known := grown.known worker drain place
          cases point : drain.point <;> rw [point] at known <;> exact known, grown.single⟩
  | unsubscribe clientId installationId => exact sound.remove clientId installationId
  | enqueue now clientId message =>
    exact sound.grow (PushStore.Grows.enqueue _ sound.numbered now clientId message)
  | drain worker now =>
    simp only [PushSystem.step]
    split_ifs
    · exact sound
    · refine sound.goOn worker fun _ same => ?_
      cases same
      exact ⟨trivial, rfl⟩
  | go worker now outcome =>
    cases found : system.drains.get worker with
    | none => simpa only [PushSystem.step, found] using sound
    | some drain =>
      simp only [PushSystem.step, found]
      exact sound.advance found now outcome
  | fail worker =>
    have ended : ∀ drain ∈ (none : Option Drain), drain.point.Known system ∧
        drain.point.held = none := fun _ absent => by cases absent
    exact sound.goOn worker ended

end Sound

/-- In every run of any number of workers over one store, no attempt of a row is handed out twice,
a row is sent three times at most, none is claimed after it was marked done, and every row is
paired with a subscription of its own client. -/
theorem push_deliveries_lawful (actions : List PushAction) :
    (run PushSystem.step {} actions).Lawful := by
  have keeps : ∀ system action, Sound system → Sound (system.step action) :=
    fun _ action sound => sound.step action
  exact (run_invariant PushSystem.step keeps Sound.initial actions).lawful

end PlugHub.PwaPush
