import Mathlib.Data.List.Pairwise
import PlugHub.Library.Runs

/-!
# Publications under one idempotency key on several replicas

Replicas share one Redis: a lock per key, and the entry that the last publication left. A request
looks at the entry its own process keeps, then at the shared one, then takes the lock and looks
once more; only then it publishes. Reads of the shared entry may go to a replica of Redis that
lags, so a look may show nothing or an older entry. The model is that of one client and one key:
requests under other keys touch nothing of it but the room in the stores of the processes, from
which an entry can disappear at any time. The requests of one process run one after the other.
-/

namespace PlugHub.PublishIdempotency

open Library

/-- The two durations of the settings. -/
structure Settings where
  restSocketEventIdempotencyTtlMs : Nat
  restSocketEventIdempotencyRedisWaitMs : Nat

/-- The response of a publication. Its event id is the number of its request. -/
structure Response where
  eventId : Nat
  eventName : String
  recipients : Nat
deriving DecidableEq

/-- What the stores keep of a publication. -/
structure Entry where
  fingerprint : String
  response : Response
deriving DecidableEq

/-- How a request ends. -/
inductive Answer where
  | published (response : Response)
  | replayed (response : Response)
  | idempotencyConflict
  | idempotencyBusy
  | failed
deriving DecidableEq

/-- Where a request is suspended. `locked` tells whether it took the lock, or goes on without the
shared store. -/
inductive Phase where
  | queued
  | lookingUp
  | locking
  | waiting (deadlineMs : Nat)
  | rechecking
  | publishing (locked : Bool)
  | appending (response : Response) (locked : Bool)
  | committing (response : Response)
  | releasing (answer : Answer)
  | answered (answer : Answer)
deriving DecidableEq

/-- The request runs. -/
def Phase.underWay : Phase → Bool
  | .queued | .answered _ => false
  | _ => true

/-- The request holds the lock. -/
def Phase.holding : Phase → Bool
  | .publishing locked | .appending _ locked => locked
  | .rechecking | .committing _ | .releasing _ => true
  | _ => false

/-- The answer that is certain. -/
def Phase.answer? : Phase → Option Answer
  | .appending response _ | .committing response => some (.published response)
  | .releasing answer | .answered answer => some answer
  | _ => none

/-- The request has published and not left its entry in Redis yet. -/
def Phase.unsettled : Phase → Bool
  | .appending _ _ | .committing _ => true
  | _ => false

/-- A request with an idempotency key. -/
structure Request where
  process : Nat
  eventName : String
  fingerprint : String
  phase : Phase := .queued

/-- A publication that the hub emitted. -/
structure Publication where
  entry : Entry
  atMs : Nat

/-- Redis, the processes and the requests, in the order of their arrival. -/
structure State where
  nowMs : Nat := 0
  /-- The entry of the key with its expiry. -/
  entry : Option (Entry × Nat) := none
  /-- The request whose token the lock holds. -/
  lock : Option Nat := none
  /-- Every entry that Redis ever held. -/
  history : List Entry := []
  /-- The entries of the processes with their expiries. -/
  entries : Nat → Option (Entry × Nat) := fun _ => none
  requests : List Request := []
  /-- The publications, the newest first. -/
  publications : List Publication := []

/-- What happens. A look shows an entry or nothing; a command succeeds or fails. -/
inductive Action where
  | tick (ms : Nat)
  | submit (process : Nat) (eventName fingerprint : String)
  | start (request : Nat) (shared : Bool)
  | getEntry (request : Nat) (seen : Option Entry)
  | acquireLock (request : Nat) (succeeds : Bool)
  | waitTimesOut (request : Nat)
  | publish (request : Nat) (recipients : Option Nat)
  | appended (request : Nat)
  | commitEntryAndReleaseLock (request : Nat) (succeeds : Bool)
  | releaseLock (request : Nat) (succeeds : Bool)
  | lockExpires
  | evict (process : Nat)

/-- An entry that has not expired. -/
def live (nowMs : Nat) (stored : Option (Entry × Nat)) : Option Entry :=
  (stored.filter (nowMs < ·.2)).map (·.1)

/-- `resolveExistingIdempotencyEntry` on an entry. -/
def resolveExistingIdempotencyEntry (existing : Entry) (fingerprint : String) : Answer :=
  if existing.fingerprint = fingerprint then .replayed existing.response else .idempotencyConflict

namespace State

variable (state : State)

/-- A request goes on. -/
def setPhase (number : Nat) (request : Request) (phase : Phase) : State :=
  { state with requests := state.requests.set number { request with phase := phase } }

/-- A request of the process runs. -/
def busy (process : Nat) : Bool :=
  state.requests.any fun request => request.process = process && request.phase.underWay

/-- The first part of a request, up to its look at the shared entry. -/
def start (number : Nat) (request : Request) (shared : Bool) : State :=
  match live state.nowMs (state.entries request.process) with
  | some existing =>
    state.setPhase number request
      (.answered (resolveExistingIdempotencyEntry existing request.fingerprint))
  | none => state.setPhase number request (if shared then .lookingUp else .publishing false)

/-- A look at the shared entry is answered. -/
def getEntry (number : Nat) (request : Request) (seen : Option Entry) : State :=
  let resolved := seen.map (resolveExistingIdempotencyEntry · request.fingerprint)
  match request.phase, resolved with
  | .lookingUp, none => state.setPhase number request .locking
  | .lookingUp, some answer | .waiting _, some answer =>
    state.setPhase number request (.answered answer)
  | .rechecking, none => state.setPhase number request (.publishing true)
  | .rechecking, some answer => state.setPhase number request (.releasing answer)
  | _, _ => state

/-- The lock is asked for. Without an answer of Redis the request goes on without the store. -/
def acquireLock (settings : Settings) (number : Nat) (request : Request) (succeeds : Bool) :
    State :=
  if request.phase ≠ .locking then state
  else if !succeeds then state.setPhase number request (.publishing false)
  else
    match state.lock with
    | none => { state with lock := some number }.setPhase number request .rechecking
    | some _ => state.setPhase number request
        (.waiting (state.nowMs + settings.restSocketEventIdempotencyRedisWaitMs))

/-- The event is emitted, or the publication throws before it is. -/
def publish (number : Nat) (request : Request) (recipients : Option Nat) : State :=
  match request.phase, recipients with
  | .publishing locked, none =>
    state.setPhase number request (if locked then .releasing .failed else .answered .failed)
  | .publishing locked, some recipients =>
    let response : Response :=
      { eventId := number, eventName := request.eventName, recipients := recipients }
    { state with
      publications := { entry := ⟨request.fingerprint, response⟩, atMs := state.nowMs } ::
        state.publications }.setPhase number request (.appending response locked)
  | _, _ => state

/-- The backlogs are written: the process keeps the entry, then the shared one is written. -/
def appended (settings : Settings) (number : Nat) (request : Request) : State :=
  match request.phase with
  | .appending response locked =>
    { state with
      entries := Function.update state.entries request.process
        (some (⟨request.fingerprint, response⟩,
          state.nowMs + settings.restSocketEventIdempotencyTtlMs)) }.setPhase number request
      (if locked then .committing response else .answered (.published response))
  | _ => state

/-- The token of a request leaves the lock. -/
def unlock (number : Nat) : State :=
  { state with lock := if state.lock = some number then none else state.lock }

/-- The entry is written and the lock released, in one script. -/
def commitEntryAndReleaseLock (settings : Settings) (number : Nat) (request : Request)
    (succeeds : Bool) : State :=
  match request.phase with
  | .committing response =>
    if succeeds then
      ({ state with
        entry := some (⟨request.fingerprint, response⟩,
          state.nowMs + settings.restSocketEventIdempotencyTtlMs)
        history := ⟨request.fingerprint, response⟩ :: state.history }.unlock number).setPhase
        number request (.answered (.published response))
    else state.setPhase number request (.releasing (.published response))
  | _ => state

/-- The lock is released at the end of a request; a failure is only logged. -/
def releaseLock (number : Nat) (request : Request) (succeeds : Bool) : State :=
  match request.phase with
  | .releasing answer =>
    (if succeeds then state.unlock number else state).setPhase number request (.answered answer)
  | _ => state

end State

/-- What a request does, if there is one under the number. -/
def withRequest (state : State) (number : Nat) (act : Request → State) : State :=
  match state.requests[number]? with
  | none => state
  | some request => act request

/-- One step. -/
def step (settings : Settings) (state : State) : Action → State
  | .tick ms => { state with nowMs := state.nowMs + ms }
  | .submit process eventName fingerprint =>
    { state with requests := state.requests ++ [{ process, eventName, fingerprint }] }
  | .start number shared => withRequest state number fun request =>
      if request.phase = .queued ∧ state.busy request.process = false then
        state.start number request shared
      else state
  | .getEntry number seen => withRequest state number fun request =>
      state.getEntry number request seen
  | .acquireLock number succeeds => withRequest state number fun request =>
      state.acquireLock settings number request succeeds
  | .waitTimesOut number => withRequest state number fun request =>
      match request.phase with
      | .waiting deadlineMs =>
        if deadlineMs ≤ state.nowMs then
          state.setPhase number request (.answered .idempotencyBusy)
        else state
      | _ => state
  | .publish number recipients => withRequest state number fun request =>
      state.publish number request recipients
  | .appended number => withRequest state number fun request =>
      state.appended settings number request
  | .commitEntryAndReleaseLock number succeeds => withRequest state number fun request =>
      state.commitEntryAndReleaseLock settings number request succeeds
  | .releaseLock number succeeds => withRequest state number fun request =>
      state.releaseLock number request succeeds
  | .lockExpires => { state with lock := none }
  | .evict process => { state with entries := Function.update state.entries process none }

/-! ## What is relied on -/

/-- Commands on the lock and the entry succeed, a lock does not expire under its holder, a look
shows nothing or what Redis held once, and the look after the lock shows what it holds now. -/
def dependable (state : State) : Action → Bool
  | .start _ shared => shared
  | .getEntry number seen =>
    (seen.all (· ∈ state.history)) && (state.requests[number]?).all fun request =>
      request.phase ≠ .rechecking || seen = live state.nowMs state.entry
  | .acquireLock _ succeeds | .commitEntryAndReleaseLock _ succeeds => succeeds
  | .lockExpires => state.lock.all fun number =>
      (state.requests[number]?).all fun request => !request.phase.holding
  | _ => true

/-! ## The law -/

/-- An entry is that of a publication. -/
def State.Knows (state : State) (entry : Entry) : Prop :=
  ∃ publication ∈ state.publications, publication.entry = entry

/-- An answer says what was published under the key. -/
def Truthful (state : State) (number : Nat) (request : Request) : Answer → Prop
  | .published response =>
    response.eventId = number ∧ state.Knows ⟨request.fingerprint, response⟩
  | .replayed response => state.Knows ⟨request.fingerprint, response⟩
  | .idempotencyConflict =>
    ∃ publication ∈ state.publications, publication.entry.fingerprint ≠ request.fingerprint
  | .idempotencyBusy | .failed => True

/-- Two publications are a time to live apart; answers are true; only a request that is answered so
has published. -/
structure Lawful (settings : Settings) (state : State) : Prop where
  spaced : state.publications.Pairwise fun later earlier =>
    earlier.atMs + settings.restSocketEventIdempotencyTtlMs ≤ later.atMs
  truthful : ∀ number request answer, state.requests[number]? = some request →
    request.phase = .answered answer → Truthful state number request answer
  published : ∀ publication ∈ state.publications, ∀ request answer,
    state.requests[publication.entry.response.eventId]? = some request →
      request.phase = .answered answer → answer = .published publication.entry.response

variable {settings : Settings} {state : State}

/-- What holds of one request. -/
structure Fits (settings : Settings) (state : State) (number : Nat) (request : Request) : Prop where
  holds : request.phase.holding = true → state.lock = some number
  locked : request.phase ≠ .publishing false ∧ ∀ response, request.phase ≠ .appending response false
  clear : request.phase = .publishing true → ∀ publication ∈ state.publications,
    publication.atMs + settings.restSocketEventIdempotencyTtlMs ≤ state.nowMs
  truthful : ∀ answer, request.phase.answer? = some answer → Truthful state number request answer

/-- The shared entry outlives the time to live of a publication. -/
def Covered (settings : Settings) (state : State) (publication : Publication) : Prop :=
  ∃ stored, state.entry = some stored ∧
    publication.atMs + settings.restSocketEventIdempotencyTtlMs ≤ stored.2

/-- The invariant: the lock has one holder, and what is published and no longer the holder's is
covered by the shared entry. -/
structure Sound (settings : Settings) (state : State) : Prop where
  fits : ∀ number request, state.requests[number]? = some request →
    Fits settings state number request
  told : ∀ publication ∈ state.publications, ∃ request,
    state.requests[publication.entry.response.eventId]? = some request ∧
      request.phase.answer? = some (.published publication.entry.response) ∧
      (request.phase.unsettled = true ∨ Covered settings state publication)
  spaced : state.publications.Pairwise fun later earlier =>
    earlier.atMs + settings.restSocketEventIdempotencyTtlMs ≤ later.atMs
  past : ∀ publication ∈ state.publications, publication.atMs ≤ state.nowMs
  history : ∀ entry ∈ state.history, state.Knows entry
  entries : ∀ process stored, state.entries process = some stored → state.Knows stored.1

/-- The invariant gives the law. -/
theorem Sound.lawful (sound : Sound settings state) : Lawful settings state where
  spaced := sound.spaced
  truthful := fun number request answer found answered =>
    (sound.fits number request found).truthful answer (by simp [answered, Phase.answer?])
  published := fun publication listed request answer found answered => by
    obtain ⟨teller, same, tells, -⟩ := sound.told publication listed
    obtain rfl : teller = request := Option.some.inj (same.symm.trans found)
    rw [answered] at tells
    exact Option.some.inj tells

variable {number : Nat} {request : Request}

/-- Truth is kept while publications are only added. -/
theorem Truthful.mono {after : State} {phase : Phase}
    {answer : Answer} (truthful : Truthful state number request answer)
    (more : ∀ publication ∈ state.publications, publication ∈ after.publications) :
    Truthful after number { request with phase := phase } answer := by
  have knows : ∀ entry, state.Knows entry → after.Knows entry := by
    rintro entry ⟨publication, listed, same⟩
    exact ⟨publication, more publication listed, same⟩
  cases answer with
  | published response => exact ⟨truthful.1, knows _ truthful.2⟩
  | replayed response => exact knows _ truthful
  | idempotencyConflict =>
    obtain ⟨publication, listed, differs⟩ := truthful
    exact ⟨publication, more publication listed, differs⟩
  | idempotencyBusy | failed => trivial

/-- What a store shows is answered truthfully. -/
theorem truthful_resolve {existing : Entry}
    (knows : state.Knows existing) : Truthful state number request
      (resolveExistingIdempotencyEntry existing request.fingerprint) := by
  obtain ⟨publication, listed, rfl⟩ := knows
  unfold resolveExistingIdempotencyEntry
  split
  · next same => exact ⟨publication, listed, by rw [← same]⟩
  · next differs => exact ⟨publication, listed, differs⟩

/-- A request that only looks or waits fits. -/
theorem fits_looking (free : request.phase.holding = false)
    (unpublished : request.phase.answer? = none) (locked : request.phase ≠ .publishing false) :
    Fits settings state number request := by
  refine ⟨by simp [free], ⟨locked, ?_⟩, ?_, by simp [unpublished]⟩
  · intro response appending
    simp [appending, Phase.answer?] at unpublished
  · intro publishing
    simp [publishing, Phase.holding] at free

/-- A request fits with a true answer, when it holds the lock or is over. -/
theorem fits_answer {answer : Answer} (certain : request.phase = .answered answer ∨
      request.phase = .releasing answer ∧ state.lock = some number)
    (truthful : Truthful state number request answer) : Fits settings state number request := by
  rcases certain with answered | ⟨releasing, holds⟩
  · refine ⟨by simp [answered, Phase.holding], by simp [answered], by simp [answered], ?_⟩
    simpa [answered, Phase.answer?] using truthful
  · refine ⟨fun _ => holds, by simp [releasing], by simp [releasing], ?_⟩
    simpa [releasing, Phase.answer?] using truthful

/-- Only the holder's token leaves the lock. -/
theorem others_of_unlock {other : Nat} (holds : state.lock = some number)
    (differs : other ≠ number) (taken : state.lock = some other) :
    (state.unlock number).lock = some other :=
  absurd (Option.some.inj (taken.symm.trans holds)) differs

namespace Sound

variable (sound : Sound settings state) {number : Nat} {request : Request}
  (found : state.requests[number]? = some request)

include sound found

omit found in
/-- Who has published and not left the entry yet holds the lock. -/
theorem unsettled_holds {other : Nat} {teller : Request}
    (stored : state.requests[other]? = some teller) (unsettled : teller.phase.unsettled = true) :
    state.lock = some other := by
  have fits := sound.fits other teller stored
  refine fits.holds ?_
  cases phase : teller.phase with
  | appending response locked =>
    cases locked with
    | true => rfl
    | false => exact absurd phase (fits.locked.2 response)
  | committing response => rfl
  | _ => simp [phase, Phase.unsettled] at unsettled

/-- A request goes on and may take or leave the lock. -/
theorem setPhase {phase : Phase} {lock : Option Nat}
    (others : ∀ other, other ≠ number → state.lock = some other → lock = some other)
    (fits : Fits settings { state with lock := lock } number { request with phase := phase })
    (same : request.phase.answer? = none ∨ phase.answer? = request.phase.answer?)
    (settles : request.phase.unsettled = true → phase.unsettled = true ∨
      ∀ publication ∈ state.publications, Covered settings state publication) :
    Sound settings ({ state with lock := lock }.setPhase number request phase) :=
  { sound with
    fits := by
      intro other record stored
      rw [State.setPhase, List.getElem?_set] at stored
      split at stored
      · next target =>
        subst target
        split at stored
        · cases stored
          exact ⟨fits.holds, fits.locked, fits.clear, fits.truthful⟩
        · cases stored
      · next differs =>
        have earlier := sound.fits other record stored
        exact ⟨fun holding => others other (Ne.symm differs) (earlier.holds holding),
          earlier.locked, earlier.clear, earlier.truthful⟩
    told := by
      intro publication listed
      obtain ⟨teller, stored, tells, covers⟩ := sound.told publication listed
      by_cases target : number = publication.entry.response.eventId
      · rw [← target, found] at stored
        cases stored
        have within := List.getElem?_eq_some_iff.mp found
        refine ⟨{ request with phase := phase }, ?_, ?_, ?_⟩
        · rw [← target]
          exact List.getElem?_set_self within.1
        · rcases same with none | same
          · rw [none] at tells
            cases tells
          · exact same.trans tells
        · rcases covers with unsettled | covered
          · exact (settles unsettled).imp_right (· publication listed)
          · exact .inr covered
      · exact ⟨teller, (List.getElem?_set_ne target).trans stored, tells, covers⟩ }

/-- A request without an answer goes on. -/
theorem advance {phase : Phase} {lock : Option Nat} (unanswered : request.phase.answer? = none)
    (others : ∀ other, other ≠ number → state.lock = some other → lock = some other)
    (fits : Fits settings { state with lock := lock } number { request with phase := phase }) :
    Sound settings ({ state with lock := lock }.setPhase number request phase) := by
  refine sound.setPhase found others fits (.inl unanswered) fun unsettled => ?_
  cases place : request.phase <;> simp [place, Phase.answer?, Phase.unsettled] at unanswered unsettled

theorem start {shared : Bool} (queued : request.phase = .queued) (dependable : shared = true) :
    Sound settings (state.start number request shared) := by
  have unanswered : request.phase.answer? = none := by rw [queued]; rfl
  unfold State.start
  split
  · next existing shown =>
    refine sound.advance found unanswered (fun _ _ => id) (fits_answer (.inl rfl) ?_)
    obtain ⟨stored, kept, rfl⟩ := Option.map_eq_some_iff.mp shown
    exact truthful_resolve (sound.entries _ _ (Option.filter_eq_some_iff.mp kept).1)
  · rw [if_pos dependable]
    exact sound.advance found unanswered (fun _ _ => id) (fits_looking rfl rfl (by simp))

theorem getEntry {seen : Option Entry}
    (known : ∀ existing, seen = some existing → state.Knows existing)
    (current : request.phase = .rechecking → seen = live state.nowMs state.entry) :
    Sound settings (state.getEntry number request seen) := by
  have fits := sound.fits number request found
  have resolved : ∀ answer, seen.map
      (resolveExistingIdempotencyEntry · request.fingerprint) = some answer →
      Truthful state number request answer := by
    intro answer shown
    obtain ⟨existing, given, rfl⟩ := Option.map_eq_some_iff.mp shown
    exact truthful_resolve (known existing given)
  unfold State.getEntry
  simp only
  split
  · next looking _ =>
    exact sound.advance found (by rw [looking]; rfl) (fun _ _ => id)
      (fits_looking rfl rfl (by simp))
  · next looking shown =>
    exact sound.advance found (by rw [looking]; rfl) (fun _ _ => id)
      (fits_answer (.inl rfl) (resolved _ shown))
  · next waiting shown =>
    exact sound.advance found (by rw [waiting]; rfl) (fun _ _ => id)
      (fits_answer (.inl rfl) (resolved _ shown))
  · next rechecking shown =>
    have holds := fits.holds (by rw [rechecking]; rfl)
    refine sound.advance found (by rw [rechecking]; rfl) (fun _ _ => id)
      ⟨fun _ => holds, by simp, fun _ publication listed => ?_, by simp [Phase.answer?]⟩
    -- The only request that could still be publishing holds the lock: it is this one.
    obtain ⟨teller, stored, tells, covers⟩ := sound.told publication listed
    have lapsed : state.entry.filter (state.nowMs < ·.2) = none := by
      have nothing := Option.map_eq_none_iff.mp shown
      rw [current rechecking] at nothing
      exact Option.map_eq_none_iff.mp nothing
    rcases covers with unsettled | ⟨kept, shared, outlives⟩
    · obtain rfl := Option.some.inj (holds.symm.trans (sound.unsettled_holds stored unsettled))
      obtain rfl := Option.some.inj (found.symm.trans stored)
      simp [rechecking, Phase.unsettled] at unsettled
    · rw [shared, Option.filter_eq_none_iff] at lapsed
      have expired := lapsed kept rfl
      simp only [decide_eq_true_eq, Nat.not_lt] at expired
      exact Nat.le_trans outlives expired
  · next rechecking shown =>
    exact sound.advance found (by rw [rechecking]; rfl) (fun _ _ => id)
      (fits_answer (.inr ⟨rfl, fits.holds (by rw [rechecking]; rfl)⟩) (resolved _ shown))
  · exact sound

theorem acquireLock {succeeds : Bool} (dependable : succeeds = true) :
    Sound settings (state.acquireLock settings number request succeeds) := by
  unfold State.acquireLock
  split
  · exact sound
  · next locking =>
    have unanswered : request.phase.answer? = none := by rw [not_not.mp locking]; rfl
    subst dependable
    simp only [Bool.not_true, Bool.false_eq_true, if_false]
    split
    · next free =>
      refine sound.advance found unanswered (fun other _ taken => ?_) ⟨fun _ => rfl, ?_, ?_, ?_⟩
      · rw [free] at taken
        cases taken
      · simp
      · simp
      · simp [Phase.answer?]
    · exact sound.advance found unanswered (fun _ _ => id) (fits_looking rfl rfl (by simp))

theorem publish (recipients : Option Nat) :
    Sound settings (state.publish number request recipients) := by
  have fits := sound.fits number request found
  unfold State.publish
  split
  · next locked publishing =>
    cases locked with
    | false => exact absurd publishing fits.locked.1
    | true =>
      exact sound.advance found (by rw [publishing]; rfl) (fun _ _ => id)
        (fits_answer (.inr ⟨rfl, fits.holds (by rw [publishing]; rfl)⟩) trivial)
  · next locked recipients publishing =>
    cases locked with
    | false => exact absurd publishing fits.locked.1
    | true =>
      have holds := fits.holds (by rw [publishing]; rfl)
      have within := (List.getElem?_eq_some_iff.mp found).1
      have knows : ∀ (entry : Entry) (publication : Publication), state.Knows entry →
          ∃ stored ∈ publication :: state.publications, stored.entry = entry := by
        rintro entry publication ⟨stored, listed, same⟩
        exact ⟨stored, List.mem_cons_of_mem _ listed, same⟩
      refine ⟨fun other record stored => ?_, fun publication listed => ?_,
        List.pairwise_cons.mpr ⟨fits.clear publishing, sound.spaced⟩,
        fun publication listed => ?_, fun entry kept => knows _ _ (sound.history _ kept),
        fun process stored kept => knows _ _ (sound.entries _ _ kept)⟩
      · rw [State.setPhase, List.getElem?_set] at stored
        split at stored
        · next target =>
          subst target
          cases stored
          refine ⟨fun _ => holds, by simp, by simp, fun answer told => ?_⟩
          obtain rfl := Option.some.inj told
          exact ⟨rfl, _, List.mem_cons_self, rfl⟩
        · next differs =>
          have earlier := sound.fits other record stored
          refine ⟨earlier.holds, earlier.locked, fun also => ?_, fun answer told =>
            (earlier.truthful answer told).mono fun _ => List.mem_cons_of_mem _⟩
          have taken := earlier.holds (by rw [also]; rfl)
          exact absurd (Option.some.inj (holds.symm.trans taken)) differs
      · rcases List.mem_cons.mp listed with rfl | earlier
        · exact ⟨_, List.getElem?_set_self within, rfl, .inl rfl⟩
        · obtain ⟨teller, stored, tells, covers⟩ := sound.told publication earlier
          refine ⟨teller, (List.getElem?_set_ne fun target => ?_).trans stored, tells, covers⟩
          rw [← target, found] at stored
          cases stored
          simp [publishing, Phase.answer?] at tells
      · rcases List.mem_cons.mp listed with rfl | earlier
        · exact Nat.le_refl _
        · exact sound.past publication earlier
  · exact sound

theorem appended : Sound settings (state.appended settings number request) := by
  have fits := sound.fits number request found
  unfold State.appended
  split
  · next response locked appending =>
    cases locked with
    | false => exact absurd appending (fits.locked.2 response)
    | true =>
      have truthful := fits.truthful _ (by rw [appending]; rfl)
      have kept : Sound settings { state with
          entries := Function.update state.entries request.process
            (some (⟨request.fingerprint, response⟩,
              state.nowMs + settings.restSocketEventIdempotencyTtlMs)) } :=
        { sound with
          fits := fun other record stored =>
            have earlier := sound.fits other record stored
            ⟨earlier.holds, earlier.locked, earlier.clear, earlier.truthful⟩
          entries := fun process stored found => by
            simp only [Function.update_apply] at found
            split at found
            · cases found
              exact truthful.2
            · exact sound.entries process stored found }
      refine kept.setPhase found (fun _ _ => id) ⟨fun _ => fits.holds ?_, ?_, ?_, ?_⟩ (.inr ?_)
        fun _ => .inl rfl
      · rw [appending]; rfl
      · simp
      · simp
      · intro answer told
        obtain rfl := Option.some.inj told
        exact truthful
      · rw [appending]; rfl
  · exact sound

theorem commitEntryAndReleaseLock {succeeds : Bool} (dependable : succeeds = true) :
    Sound settings (state.commitEntryAndReleaseLock settings number request succeeds) := by
  have fits := sound.fits number request found
  unfold State.commitEntryAndReleaseLock
  split
  · next response committing =>
    have holds := fits.holds (by rw [committing]; rfl)
    have truthful := fits.truthful _ (by rw [committing]; rfl)
    rw [if_pos dependable]
    have covered : ∀ publication ∈ state.publications,
        publication.atMs + settings.restSocketEventIdempotencyTtlMs ≤
          state.nowMs + settings.restSocketEventIdempotencyTtlMs := fun publication listed =>
      Nat.add_le_add_right (sound.past publication listed) _
    have written : Sound settings { state with
        entry := some (⟨request.fingerprint, response⟩,
          state.nowMs + settings.restSocketEventIdempotencyTtlMs)
        history := ⟨request.fingerprint, response⟩ :: state.history } :=
      { sound with
        fits := fun other record stored =>
          have earlier := sound.fits other record stored
          ⟨earlier.holds, earlier.locked, earlier.clear, earlier.truthful⟩
        told := fun publication listed => by
          obtain ⟨teller, stored, tells, -⟩ := sound.told publication listed
          exact ⟨teller, stored, tells, .inr ⟨_, rfl, covered publication listed⟩⟩
        history := fun entry listed => by
          rcases List.mem_cons.mp listed with rfl | earlier
          · exact truthful.2
          · exact sound.history entry earlier }
    exact written.setPhase found (fun _ => others_of_unlock holds)
      (fits_answer (.inl rfl) truthful) (.inr (by rw [committing]; rfl))
      fun _ => .inr fun publication listed => ⟨_, rfl, covered publication listed⟩
  · exact sound

theorem releaseLock (succeeds : Bool) :
    Sound settings (state.releaseLock number request succeeds) := by
  have fits := sound.fits number request found
  unfold State.releaseLock
  split
  · next answer releasing =>
    have holds := fits.holds (by rw [releasing]; rfl)
    have truthful := fits.truthful answer (by rw [releasing]; rfl)
    have same : (Phase.answered answer).answer? = request.phase.answer? := by
      rw [releasing]
      rfl
    have settled : request.phase.unsettled = true → False := by simp [releasing, Phase.unsettled]
    split
    · exact sound.setPhase found (fun _ => others_of_unlock holds)
        (fits_answer (.inl rfl) truthful) (.inr same) fun unsettled => (settled unsettled).elim
    · exact sound.setPhase found (fun _ _ => id) (fits_answer (.inl rfl) truthful) (.inr same)
        fun unsettled => (settled unsettled).elim
  · exact sound

end Sound

section

variable (sound : Sound settings state)

include sound

/-- What touches no request and no publication keeps the invariant, when the lock stays with a
holder and the time does not go back. -/
theorem Sound.untouched {nowMs : Nat} {lock : Option Nat}
    {entries : Nat → Option (Entry × Nat)} (later : state.nowMs ≤ nowMs)
    (held : ∀ (number : Nat) (request : Request), state.requests[number]? = some request →
      request.phase.holding = true → lock = state.lock)
    (fewer : ∀ process stored, entries process = some stored →
      state.entries process = some stored) :
    Sound settings { state with nowMs := nowMs, lock := lock, entries := entries } :=
  { sound with
    fits := fun number request stored =>
      have earlier := sound.fits number request stored
      ⟨fun holding => (held number request stored holding).trans (earlier.holds holding),
        earlier.locked, fun publishing publication listed =>
          Nat.le_trans (earlier.clear publishing publication listed) later, earlier.truthful⟩
    past := fun publication listed => Nat.le_trans (sound.past publication listed) later
    entries := fun process stored same => sound.entries process stored (fewer process stored same) }

theorem Sound.submit (process : Nat)
    (eventName fingerprint : String) :
    Sound settings (step settings state (.submit process eventName fingerprint)) :=
  { sound with
    fits := fun number request stored => by
      rw [step, List.getElem?_append] at stored
      split at stored
      · have earlier := sound.fits number request stored
        exact ⟨earlier.holds, earlier.locked, earlier.clear, earlier.truthful⟩
      · obtain rfl := List.mem_singleton.mp (List.mem_of_getElem? stored)
        exact fits_looking rfl rfl (by simp)
    told := fun publication listed => by
      obtain ⟨teller, stored, told⟩ := sound.told publication listed
      have within := (List.getElem?_eq_some_iff.mp stored).1
      exact ⟨teller, (List.getElem?_append_left within).trans stored, told⟩ }

/-- What each request keeps, the request under a number keeps. -/
theorem Sound.withRequest {act : Request → State}
    (keeps : ∀ request, state.requests[number]? = some request → Sound settings (act request)) :
    Sound settings (withRequest state number act) := by
  unfold PublishIdempotency.withRequest
  split
  · exact sound
  · next request found => exact keeps request found

/-- One step keeps the invariant when what it relies on holds. -/
theorem Sound.step {action : Action}
    (relied : dependable state action = true) :
    Sound settings (PublishIdempotency.step settings state action) := by
  cases action with
  | tick ms => exact sound.untouched (Nat.le_add_right _ _) (fun _ _ _ _ => rfl) fun _ _ => id
  | submit process eventName fingerprint => exact sound.submit process eventName fingerprint
  | start number shared =>
    refine sound.withRequest fun request found => ?_
    split
    · next ready => exact sound.start found ready.1 relied
    · exact sound
  | getEntry number seen =>
    refine sound.withRequest fun request found => sound.getEntry found ?_ fun rechecking => ?_
    · rintro existing rfl
      simp only [dependable, Option.all_some, Bool.and_eq_true, decide_eq_true_eq] at relied
      exact sound.history existing relied.1
    · simp only [dependable, found, Option.all_some, rechecking, ne_eq, not_true_eq_false,
        decide_false, Bool.false_or, Bool.and_eq_true, decide_eq_true_eq] at relied
      exact relied.2
  | acquireLock number succeeds =>
    exact sound.withRequest fun request found => sound.acquireLock found relied
  | waitTimesOut number =>
    refine sound.withRequest fun request found => ?_
    split
    · next waiting =>
      split
      · exact sound.advance found (by rw [waiting]; rfl) (fun _ _ => id)
          (fits_answer (.inl rfl) trivial)
      · exact sound
    · exact sound
  | publish number recipients =>
    exact sound.withRequest fun request found => sound.publish found recipients
  | appended number => exact sound.withRequest fun request found => sound.appended found
  | commitEntryAndReleaseLock number succeeds =>
    exact sound.withRequest fun request found => sound.commitEntryAndReleaseLock found relied
  | releaseLock number succeeds =>
    exact sound.withRequest fun request found => sound.releaseLock found succeeds
  | lockExpires =>
    refine sound.untouched (Nat.le_refl _) (fun number request found holding => ?_) fun _ _ => id
    have holds := (sound.fits number request found).holds holding
    simp [dependable, holds, found, holding] at relied
  | evict process =>
    refine sound.untouched (Nat.le_refl _) (fun _ _ _ _ => rfl) fun other stored kept => ?_
    rw [Function.update_apply] at kept
    split at kept
    · cases kept
    · exact kept

end

/-- Over any interleaving of the requests of any number of processes, while the commands of Redis
can be depended on and the look after the lock is current: publications under the key are a time to
live apart, a replayed response is that of a publication of the same body, a conflict has a
publication of another body behind it, and whoever is answered otherwise has not published. -/
theorem publications_once_per_ttl {actions : List Action}
    (relied : Meets (step settings) (fun state action => dependable state action = true) {}
      actions) :
    Lawful settings (run (step settings) {} actions) := by
  have initial : Sound settings {} :=
    ⟨by simp, by simp, .nil, by simp, by simp, by simp⟩
  exact (run_invariant_of_meets (step settings) (fun _ _ sound => sound.step) initial
    relied).lawful

/-- A publication on one replica, and the same request on another that finds the lock taken, and
then the entry. -/
def twoReplicas : List Action :=
  [.submit 0 "client:custom.ping" "body", .submit 1 "client:custom.ping" "body", .start 0 true,
    .start 1 true, .getEntry 0 none, .acquireLock 0 true, .getEntry 0 none, .getEntry 1 none,
    .acquireLock 1 true, .publish 0 (some 2), .getEntry 1 none, .appended 0,
    .commitEntryAndReleaseLock 0 true, .getEntry 1 (some ⟨"body", ⟨0, "client:custom.ping", 2⟩⟩)]

theorem second_replica_replays : Lawful ⟨60000, 500⟩ (run (step ⟨60000, 500⟩) {} twoReplicas) :=
  publications_once_per_ttl (by decide)

end PlugHub.PublishIdempotency
