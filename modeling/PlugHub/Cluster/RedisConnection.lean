import Mathlib.Data.List.Nodup
import PlugHub.Library.Runs
import PlugHub.Library.Text

/-!
# The managed Redis connection

A slot for the one Redis client of a module: `connect` makes a client and stores it when it is
connected, `detach` and `teardown` take the client out again. A connect waits for Redis between
the moment at which it notes its URL and the moment at which it stores its client, and it stores
the client whatever happened to the slot meanwhile.

The state of a run has the slot, the connects and the teardowns that wait for Redis, and what is
said about them afterwards: which clients were connected, which connects returned one, and which
clients were handed back.
-/

namespace PlugHub.RedisConnection

open Library

/-! ## The client -/

/-- A client of Redis; it has the number of the connect that made it. -/
structure RedisClient where
  id : Nat
  url : Text
deriving DecidableEq

/-- What Redis answers to the first `PING` of a client. -/
inductive PingAnswer where
  | ok
  | authError
  | otherError
deriving DecidableEq

/-- How Redis treats a client that connects. -/
inductive RedisAnswer where
  | refused
  /-- The client is connected, and its `PING` is answered. -/
  | connected (ping : PingAnswer)
deriving DecidableEq

/-- The result of `createInstrumentedRedisClient`. -/
inductive CreateResult where
  | client
  | undefined
  | thrown
deriving DecidableEq

/-- `runRedisPostConnectAuthCheck` throws; it does so in production only. -/
def postConnectAuthCheckThrows (production : Bool) : PingAnswer → Bool
  | .authError => production
  | _ => false

/-- `createInstrumentedRedisClient`. -/
def createInstrumentedRedisClient (production : Bool) (url : Text) : RedisAnswer → CreateResult
  | .refused => .undefined
  | .connected ping =>
    if trim url = [] then .undefined
    else if postConnectAuthCheckThrows production ping then .thrown
    else .client

/-! ## The slot -/

/-- The slot of one module. -/
structure ManagedRedisConnection where
  client : Option RedisClient := none
  /-- The URL of the last connect, unless it failed or was taken back. -/
  urlInUse : Option Text := none
  generation : Nat := 0

namespace ManagedRedisConnection

variable (connection : ManagedRedisConnection)

/-- A client is connected to exactly a URL. -/
def isConnectedTo (url : Text) : Bool :=
  connection.client.isSome && connection.urlInUse = some url

/-- The part of `connect` before it waits. -/
def beginConnect (url : Text) : ManagedRedisConnection :=
  { connection with generation := connection.generation + 1, urlInUse := some url }

/-- The part of `connect` after it waited. -/
def endConnect (client : RedisClient) : CreateResult → ManagedRedisConnection
  | .client => { connection with client := some client }
  | .undefined => { connection with urlInUse := none }
  | .thrown => connection

/-- `detach`, and the part of `teardown` before it waits; the client goes to the caller. -/
def detach : ManagedRedisConnection :=
  { client := none, urlInUse := none, generation := connection.generation + 1 }

end ManagedRedisConnection

/-! ## Runs -/

/-- A connect that waits for Redis. -/
structure ConnectAttempt where
  client : RedisClient
  generation : Nat
deriving DecidableEq

/-- A slot with its callers. -/
structure ConnectionState where
  production : Bool
  connection : ManagedRedisConnection := {}
  connecting : List ConnectAttempt := []
  quitting : List RedisClient := []
  nextId : Nat := 0
  /-- The client of the latest connect, unless a detach or a teardown came after it started. -/
  latest : Option RedisClient := none
  opened : List RedisClient := []
  returned : List RedisClient := []
  /-- The clients that were handed back: by `detach` to its caller, or told to quit. -/
  handedBack : List RedisClient := []

/-- What the callers do, and what Redis answers. -/
inductive ConnectionAction where
  /-- `connect` is called. -/
  | connect (url : Text)
  | answer (position : Nat) (answer : RedisAnswer)
  /-- `detach` is called. -/
  | detach
  /-- `teardown` is called. -/
  | teardown
  /-- A client that was told to quit has done so, or failed to. -/
  | quit (position : Nat)

namespace ConnectionState

variable (state : ConnectionState)

/-- The live client is taken out of the slot and handed back. -/
def takeOut : ConnectionState :=
  { state with
    connection := state.connection.detach
    latest := none
    handedBack := state.handedBack ++ state.connection.client.toList }

/-- A connect goes on. -/
def finish (attempt : ConnectAttempt) (answer : RedisAnswer) : ConnectionState :=
  let result := createInstrumentedRedisClient state.production attempt.client.url answer
  { state with
    connection := state.connection.endConnect attempt.client result
    connecting := state.connecting.erase attempt
    opened := if result = .undefined then state.opened else state.opened ++ [attempt.client]
    returned := if result = .client then state.returned ++ [attempt.client] else state.returned
    handedBack :=
      if result = .thrown then state.handedBack ++ [attempt.client] else state.handedBack }

/-- One step. -/
def step : ConnectionAction → ConnectionState
  | .connect url =>
    let connection := state.connection.beginConnect url
    { state with
      connection
      connecting := state.connecting ++ [⟨⟨state.nextId, url⟩, connection.generation⟩]
      nextId := state.nextId + 1
      latest := some ⟨state.nextId, url⟩ }
  | .answer position answer =>
    match state.connecting[position]? with
    | some attempt => state.finish attempt answer
    | none => state
  | .detach => state.takeOut
  | .teardown =>
    { state.takeOut with quitting := state.quitting ++ state.connection.client.toList }
  | .quit position => { state with quitting := state.quitting.eraseIdx position }

/-- No call is in progress. -/
def Idle : Prop := state.connecting = [] ∧ state.quitting = []

instance : Decidable state.Idle :=
  inferInstanceAs (Decidable (state.connecting = [] ∧ state.quitting = []))

/-- The client that should be live: that of the latest connect, if the connect returned it and no
detach or teardown came after it started. -/
def expected : Option RedisClient := state.latest.filter (· ∈ state.returned)

/-- What is promised while no call is in progress. -/
structure Lawful : Prop where
  /-- The slot holds the client of the last call, or none. -/
  live : state.connection.client = state.expected
  /-- The slot is connected to the URL of that client, and to no other. -/
  connectedTo : ∀ url, state.connection.isConnectedTo url = true ↔
    ∃ client, state.expected = some client ∧ client.url = url
  /-- Every other client that was opened was handed back. -/
  released : ∀ client ∈ state.opened, state.expected ≠ some client → client ∈ state.handedBack

end ConnectionState

/-- When a connect with a given result ends undisturbed: no client is live and it is still the
latest, for nothing was connected, detached or torn down since it started. One that fails need not
be the latest if the latest has ended or was taken back too, and one that throws leaves the slot as
it is. -/
def Undisturbed (state : ConnectionState) (attempt : ConnectAttempt) : CreateResult → Prop
  | .client =>
    state.connection.client = none ∧ attempt.generation = state.connection.generation
  | .undefined =>
    state.connection.client = none ∧ ∀ other ∈ state.connecting,
      other.generation = state.connection.generation → other = attempt
  | .thrown =>
    attempt.generation = state.connection.generation → state.connection.client = none

instance (state : ConnectionState) (attempt : ConnectAttempt) :
    ∀ result, Decidable (Undisturbed state attempt result)
  | .client => inferInstanceAs (Decidable (_ ∧ _))
  | .undefined => inferInstanceAs (Decidable (_ ∧ ∀ other ∈ state.connecting, _))
  | .thrown => inferInstanceAs (Decidable (_ → _))

/-- Every connect that ends does so undisturbed. -/
def EndsUndisturbed (state : ConnectionState) : ConnectionAction → Prop
  | .answer position answer => ∀ attempt ∈ state.connecting[position]?,
    Undisturbed state attempt
      (createInstrumentedRedisClient state.production attempt.client.url answer)
  | _ => True

instance (state : ConnectionState) : ∀ action, Decidable (EndsUndisturbed state action)
  | .answer position _ => inferInstanceAs (Decidable (∀ attempt ∈ state.connecting[position]?, _))
  | .connect _ => inferInstanceAs (Decidable True)
  | .detach => inferInstanceAs (Decidable True)
  | .teardown => inferInstanceAs (Decidable True)
  | .quit _ => inferInstanceAs (Decidable True)

/-! ## The slot and the connect that is still the latest -/

/-- What undisturbed runs keep. -/
structure Sound (state : ConnectionState) : Prop where
  distinct : (state.connecting.map (·.client.id)).Nodup
  known : ∀ attempt ∈ state.connecting, attempt.client.id < state.nextId
  numbered : ∀ client ∈ state.returned, client.id < state.nextId
  unreturned : ∀ attempt ∈ state.connecting, attempt.client ∉ state.returned
  captured : ∀ attempt ∈ state.connecting, attempt.generation ≤ state.connection.generation
  /-- A connect whose generation is current is the latest, and its URL is noted. -/
  current : ∀ attempt ∈ state.connecting, attempt.generation = state.connection.generation →
    state.latest = some attempt.client ∧ state.connection.urlInUse = some attempt.client.url
  /-- Once no connect is current, the live client is the one that should be, and its URL is
  noted. -/
  settled : (∀ attempt ∈ state.connecting, attempt.generation ≠ state.connection.generation) →
    state.connection.client = state.expected ∧ ∀ client ∈ state.connection.client,
      state.connection.urlInUse = some client.url
  released : ∀ client ∈ state.opened, state.connection.client = some client ∨
    client ∈ state.handedBack

namespace Sound

variable {state : ConnectionState}

theorem initial (production : Bool) : Sound { production } where
  distinct := List.nodup_nil
  known _ member := by cases member
  numbered _ member := by cases member
  unreturned _ member := by cases member
  captured _ member := by cases member
  current _ member := by cases member
  settled _ := ⟨rfl, fun _ live => by cases live⟩
  released _ member := by cases member

section

variable (sound : Sound state)

include sound

theorem only_current {attempt other : ConnectAttempt} (waits : attempt ∈ state.connecting)
    (latest : attempt.generation = state.connection.generation)
    (also : other ∈ state.connecting) (same : other.generation = state.connection.generation) :
    other = attempt := by
  have first := (sound.current attempt waits latest).1
  have second := (sound.current other also same).1
  have client : other.client = attempt.client := by
    rw [second] at first
    exact Option.some.inj first
  exact List.inj_on_of_nodup_map sound.distinct also waits (congrArg RedisClient.id client)

theorem mem_erase {attempt other : ConnectAttempt} :
    other ∈ state.connecting.erase attempt ↔ other ≠ attempt ∧ other ∈ state.connecting :=
  (List.Nodup.of_map _ sound.distinct).mem_erase_iff

theorem lawful (idle : state.Idle) : state.Lawful := by
  have ended : ∀ attempt ∈ state.connecting,
      attempt.generation ≠ state.connection.generation := by
    intro attempt member
    rw [idle.1] at member
    cases member
  obtain ⟨live, noted⟩ := sound.settled ended
  refine ⟨live, fun url => ?_, fun client member other => ?_⟩
  · rw [ManagedRedisConnection.isConnectedTo, Bool.and_eq_true, decide_eq_true_eq, ← live]
    constructor
    · rintro ⟨nonempty, same⟩
      obtain ⟨client, found⟩ := Option.isSome_iff_exists.mp nonempty
      refine ⟨client, found, ?_⟩
      rw [noted client found] at same
      exact Option.some.inj same
    · rintro ⟨client, found, rfl⟩
      exact ⟨by rw [found]; rfl, noted client found⟩
  · rcases sound.released client member with alive | back
    · exact absurd (live.symm.trans alive) other
    · exact back

theorem older (attempt : ConnectAttempt) (member : attempt ∈ state.connecting) :
    attempt.generation ≠ state.connection.generation + 1 := by
  have before := sound.captured attempt member
  omega

theorem connect (url : Text) : Sound (state.step (.connect url)) := by
  have either {attempt : ConnectAttempt}
      (member : attempt ∈ state.connecting ++
        [⟨⟨state.nextId, url⟩, state.connection.generation + 1⟩]) :
      attempt ∈ state.connecting ∨
        attempt = ⟨⟨state.nextId, url⟩, state.connection.generation + 1⟩ :=
    (List.mem_append.mp member).imp_right List.mem_singleton.mp
  refine ⟨?_, fun attempt member => ?_, fun client member => ?_, fun attempt member => ?_,
    fun attempt member => ?_, fun attempt member latest => ?_, fun ended => ?_, sound.released⟩
  · simp only [ConnectionState.step, List.map_append, List.map_cons, List.map_nil]
    rw [List.nodup_append]
    refine ⟨sound.distinct, List.nodup_singleton _, fun id stored other new same => ?_⟩
    obtain ⟨attempt, member, rfl⟩ := List.mem_map.mp stored
    have used := sound.known attempt member
    have unused := List.mem_singleton.mp new
    omega
  · rcases either member with before | rfl
    · exact Nat.lt_succ_of_lt (sound.known attempt before)
    · exact Nat.lt_succ_self _
  · exact Nat.lt_succ_of_lt (sound.numbered client member)
  · rcases either member with before | rfl
    · exact sound.unreturned attempt before
    · intro returned
      exact absurd (sound.numbered _ returned) (Nat.lt_irrefl _)
  · rcases either member with before | rfl
    · exact Nat.le_succ_of_le (sound.captured attempt before)
    · exact Nat.le_refl _
  · rcases either member with before | rfl
    · exact absurd latest (sound.older attempt before)
    · exact ⟨rfl, rfl⟩
  · exact absurd rfl (ended _ (List.mem_append_right _ List.mem_cons_self))

theorem takeOut : Sound state.takeOut := by
  refine ⟨sound.distinct, sound.known, sound.numbered, sound.unreturned,
    fun attempt member => Nat.le_succ_of_le (sound.captured attempt member),
    fun attempt member latest => absurd latest (sound.older attempt member),
    fun _ => ⟨rfl, fun client live => by cases live⟩, fun client member => Or.inr ?_⟩
  simp only [ConnectionState.takeOut, List.mem_append]
  rcases sound.released client member with live | back
  · exact Or.inr (by rw [live]; exact List.mem_singleton_self _)
  · exact Or.inl back

theorem finish {attempt : ConnectAttempt}
    (waits : attempt ∈ state.connecting) (answer : RedisAnswer)
    (undisturbed : Undisturbed state attempt
      (createInstrumentedRedisClient state.production attempt.client.url answer)) :
    Sound (state.finish attempt answer) := by
  have distinct : ((state.connecting.erase attempt).map (·.client.id)).Nodup :=
    sound.distinct.sublist (List.erase_sublist.map _)
  have stays {other : ConnectAttempt} (member : other ∈ state.connecting.erase attempt) :
      other ∈ state.connecting := (sound.mem_erase.mp member).2
  unfold ConnectionState.finish
  cases result : createInstrumentedRedisClient state.production attempt.client.url answer with
  | client =>
    rw [result] at undisturbed
    obtain ⟨empty, latest⟩ := undisturbed
    obtain ⟨named, noted⟩ := sound.current attempt waits latest
    refine ⟨distinct, fun other member => sound.known other (stays member),
      fun client member => ?_, fun other member => ?_,
      fun other member => sound.captured other (stays member), fun other member same => ?_,
      fun _ => ⟨?_, ?_⟩, fun client member => ?_⟩
    · simp only [if_true] at member
      exact forall_mem_concat sound.numbered (sound.known attempt waits) client member
    · simp only [if_true]
      intro returned
      rcases List.mem_append.mp returned with before | new
      · exact sound.unreturned other (stays member) before
      · have same := List.inj_on_of_nodup_map sound.distinct (stays member) waits
          (congrArg RedisClient.id (List.mem_singleton.mp new))
        exact (sound.mem_erase.mp member).1 same
    · have only := sound.only_current waits latest (stays member) same
      exact absurd only (sound.mem_erase.mp member).1
    · simp only [ConnectionState.expected, ManagedRedisConnection.endConnect, if_true]
      rw [named, Option.filter_some, if_pos (by simp)]
    · intro client live
      cases live
      exact noted
    · simp only [reduceCtorEq, if_false] at member
      rcases List.mem_append.mp member with before | new
      · rcases sound.released client before with live | back
        · rw [empty] at live
          cases live
        · exact Or.inr back
      · rw [List.mem_singleton.mp new]
        exact Or.inl rfl
  | undefined =>
    rw [result] at undisturbed
    obtain ⟨empty, only⟩ := undisturbed
    refine ⟨distinct, fun other member => sound.known other (stays member), sound.numbered,
      fun other member => sound.unreturned other (stays member),
      fun other member => sound.captured other (stays member), fun other member same => ?_,
      fun _ => ⟨?_, ?_⟩, sound.released⟩
    · exact absurd (only other (stays member) same) (sound.mem_erase.mp member).1
    · simp only [ManagedRedisConnection.endConnect, ConnectionState.expected, reduceCtorEq,
        if_false]
      by_cases latest : attempt.generation = state.connection.generation
      · rw [empty, (sound.current attempt waits latest).1, eq_comm, Option.filter_eq_none_iff]
        intro client same
        cases same
        simpa using sound.unreturned attempt waits
      · refine (sound.settled fun other member same => ?_).1
        exact latest (only other member same ▸ same)
    · intro client live
      simp only [ManagedRedisConnection.endConnect] at live
      rw [empty] at live
      cases live
  | thrown =>
    rw [result] at undisturbed
    refine ⟨distinct, fun other member => sound.known other (stays member), sound.numbered,
      fun other member => sound.unreturned other (stays member),
      fun other member => sound.captured other (stays member),
      fun other member same => sound.current other (stays member) same, fun ended => ?_,
      fun client member => ?_⟩
    · by_cases latest : attempt.generation = state.connection.generation
      · have empty := undisturbed latest
        simp only [ManagedRedisConnection.endConnect, ConnectionState.expected, reduceCtorEq,
          if_false]
        refine ⟨?_, fun client live => ?_⟩
        · rw [empty, (sound.current attempt waits latest).1, eq_comm, Option.filter_eq_none_iff]
          intro client same
          cases same
          simpa using sound.unreturned attempt waits
        · rw [empty] at live
          cases live
      · refine sound.settled fun other member => ?_
        by_cases same : other = attempt
        · rw [same]
          exact latest
        · exact ended other (sound.mem_erase.mpr ⟨same, member⟩)
    · simp only [reduceCtorEq, if_false, if_true] at member ⊢
      rcases List.mem_append.mp member with before | new
      · rcases sound.released client before with live | back
        · exact Or.inl live
        · exact Or.inr (List.mem_append_left _ back)
      · exact Or.inr (List.mem_append_right _ new)

/-- An undisturbed action keeps the connection sound. -/
theorem step (action : ConnectionAction)
    (undisturbed : EndsUndisturbed state action) : Sound (state.step action) := by
  cases action with
  | connect url => exact sound.connect url
  | answer position answer =>
    cases found : state.connecting[position]? with
    | none => simpa only [ConnectionState.step, found] using sound
    | some attempt =>
      simp only [ConnectionState.step, found]
      exact sound.finish (List.mem_of_getElem? found) answer (undisturbed attempt found)
  | detach => exact sound.takeOut
  | teardown =>
    have out := sound.takeOut
    exact ⟨out.distinct, out.known, out.numbered, out.unreturned, out.captured, out.current,
      out.settled, out.released⟩
  | quit position =>
    exact ⟨sound.distinct, sound.known, sound.numbered, sound.unreturned, sound.captured,
      sound.current, sound.settled, sound.released⟩

end

end Sound

/-- In every run in which connects end undisturbed, whenever no call is in progress the live client
is that of the latest connect, if it was connected and not taken back, the slot is connected to its
URL alone, and every other client that was connected has been handed back. -/
theorem connection_slot_exact_when_undisturbed (production : Bool) (actions : List ConnectionAction)
    (undisturbed : Meets ConnectionState.step EndsUndisturbed { production } actions) :
    ∀ taken, taken <+: actions → (run ConnectionState.step { production } taken).Idle →
      (run ConnectionState.step { production } taken).Lawful := by
  intro taken first idle
  have keeps : ∀ state action, Sound state → EndsUndisturbed state action →
      Sound (state.step action) := fun _ action sound fine => sound.step action fine
  exact (every_state_of_meets ConnectionState.step keeps (Sound.initial production) undisturbed
    taken first).lawful idle

/-- A connect succeeds, its client is torn down while another connect fails, and a third one
succeeds. -/
def connectedAgain : List ConnectionAction :=
  [.connect ['a'], .answer 0 (.connected .ok), .teardown, .connect ['b'], .quit 0,
    .answer 0 .refused, .connect ['c'], .answer 0 (.connected .otherError)]

/-- At the end the slot is connected to the third URL alone, and the first client was handed
back. -/
theorem connection_slot_exact_connected_again :
    (run ConnectionState.step { production := true } connectedAgain).Lawful :=
  connection_slot_exact_when_undisturbed true connectedAgain (by decide) _
    (List.prefix_refl _) (by decide)

/-- The slot is torn down while a connect waits for Redis. -/
def tornDownWhileConnecting : List ConnectionAction :=
  [.connect ['a'], .teardown, .answer 0 (.connected .ok)]

/-- The connect stores its client after the teardown, so a client is live that nobody wanted. -/
theorem torn_down_slot_is_live :
    (run ConnectionState.step { production := true } tornDownWhileConnecting).Idle ∧
      ¬(run ConnectionState.step { production := true } tornDownWhileConnecting).Lawful := by
  refine ⟨by decide, fun lawful => ?_⟩
  exact absurd lawful.live (by decide)

end PlugHub.RedisConnection
