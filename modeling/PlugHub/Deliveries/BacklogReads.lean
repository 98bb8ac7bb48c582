import Mathlib.Data.List.Nodup
import Mathlib.Data.Prod.Lex
import PlugHub.Library.ConsumerGroup
import PlugHub.Library.Runs
import PlugHub.Library.Text

/-!
# Reads of a backlog in a consumer group

A read of the backlog of a subscription takes what is pending for its own replica, then claims what
other replicas have not acknowledged for long enough, and then takes what is fresh, as long as it
has fewer entries than it may return. The commands of several reads interleave with each other, with
acknowledgements, with appends and with time. What is fresh comes behind everything that was
delivered, but what is claimed may stand in the stream before what the read has already.
-/

namespace PlugHub.BacklogReads

open Library ConsumerGroup

/-- The id of a message of a stream: its time and its number in that millisecond. -/
abbrev StreamId := Nat ×ₗ Nat

/-- A replica of the hub, which reads as a consumer of its own. -/
abbrev Replica := String

/-- The fields of a message, each name followed by its value. -/
abbrev Fields := List String

/-! ## Frames -/

/-- A frame with its place in the stream. -/
structure AgentEventStreamBacklogEntry where
  streamId : StreamId
  eventId : String
  eventName : String
  emittedAt : String
  payload : String
deriving DecidableEq

/-- The names and values of a message. -/
def pairs : Fields → List (String × String)
  | name :: value :: rest => (name, value) :: pairs rest
  | _ => []

/-- The value of a name; the last one counts. -/
def valueOf (fields : Fields) (name : String) : Option String :=
  (pairs fields).reverse.lookup name

/-- `Number.parseInt` of a decimal. -/
def parseInt (text : String) : Option Int :=
  let start := text.toList.dropWhile isWhiteSpace
  let digits := (if start.head? = some '-' ∨ start.head? = some '+' then start.tail else start)
    |>.takeWhile Char.isDigit
  if digits = [] then none
  else some ((if start.head? = some '-' then -1 else 1) * (Nat.ofDigitChars 10 digits 0 : Int))

/-- The version of frames. -/
def agentEventStreamFrameSchemaVersion : Int := 1

/-- The version of a message is one that this hub can read. -/
def knownVersion (fields : Fields) : Bool :=
  match valueOf fields "schemaVersion" with
  | none => true
  | some version => version = "" || parseInt version = some agentEventStreamFrameSchemaVersion

/-- Read a message. -/
def parseStreamMessage (id : StreamId) (fields : Fields) : Option AgentEventStreamBacklogEntry :=
  if knownVersion fields then do
    let eventId ← valueOf fields "eventId"
    let eventName ← valueOf fields "eventName"
    let emittedAt ← valueOf fields "emittedAt"
    let payload ← valueOf fields "payload"
    return { streamId := id, eventId, eventName, emittedAt, payload }
  else none

/-- Read one message of a reply; one that has left the stream has no fields. -/
def parseListed (raw : StreamId × Option Fields) : Option AgentEventStreamBacklogEntry :=
  raw.2.bind (parseStreamMessage raw.1)

/-- Read the messages of a reply; those that cannot be read are dropped. -/
def parseConsumerGroupMessages (reply : List (StreamId × Option Fields)) :
    List AgentEventStreamBacklogEntry :=
  reply.filterMap parseListed

/-- Append the entries whose ids are not there. -/
def appendDistinctEntries (target candidates : List AgentEventStreamBacklogEntry) :
    List AgentEventStreamBacklogEntry :=
  candidates.foldl (fun entries candidate =>
    if candidate.streamId ∈ entries.map AgentEventStreamBacklogEntry.streamId then entries
    else entries ++ [candidate]) target

/-! ## Reads -/

/-- What is configured. -/
structure BacklogConfig where
  backlogMaxEntries : Nat
  positive : 0 < backlogMaxEntries
  consumerClaimIdleMs : Nat

/-- What a read does next. -/
inductive ReadStage where
  | claims
  | takes
  | returns
deriving DecidableEq

/-- A read of a backlog. -/
structure BacklogRead where
  replica : Replica
  entries : List AgentEventStreamBacklogEntry
  stage : ReadStage

/-- The stream and those who read it. -/
structure BacklogState where
  group : ConsumerGroup StreamId Replica Fields
  reads : Nat → BacklogRead
  now : Nat

/-- What happens. -/
inductive BacklogAction where
  | readOwn (read : Nat) (replica : Replica)
  | claim (read : Nat)
  | takeFresh (read : Nat)
  | fail (read : Nat)
  | ackAgentEventFrames (streamIds : List StreamId)
  | append (id : StreamId) (fields : Fields)
  | tick

namespace BacklogState

/-- A read changes. -/
def setRead (state : BacklogState) (read : Nat) (next : BacklogRead) : BacklogState :=
  { state with reads := fun other => if other = read then next else state.reads other }

/-- A read with more entries goes on while it has fewer than it may return. -/
def withEntries (config : BacklogConfig) (current : BacklogRead)
    (entries : List AgentEventStreamBacklogEntry) (next : ReadStage) : BacklogRead :=
  { current with
    entries
    stage := if entries.length < config.backlogMaxEntries then next else .returns }

/-- How many entries a read may still get. -/
def room (config : BacklogConfig) (current : BacklogRead) : Nat :=
  config.backlogMaxEntries - current.entries.length

/-- What a claim of a read hands over. -/
def claimed (config : BacklogConfig) (state : BacklogState) (current : BacklogRead) :
    ConsumerGroup StreamId Replica Fields × List (StreamId × Fields) :=
  state.group.autoClaim current.replica config.consumerClaimIdleMs (room config current) state.now

/-- What is fresh for a read. -/
def taken (config : BacklogConfig) (state : BacklogState) (current : BacklogRead) :
    ConsumerGroup StreamId Replica Fields × List (StreamId × Fields) :=
  state.group.readFresh current.replica (room config current) state.now

/-- Messages of a reply, all of which have their fields. -/
def withFields (reply : List (StreamId × Fields)) : List (StreamId × Option Fields) :=
  reply.map fun message => (message.1, some message.2)

/-- A read begins. -/
def beginRead (config : BacklogConfig) (state : BacklogState) (read : Nat) (replica : Replica) :
    BacklogState :=
  let reply := state.group.readPending replica config.backlogMaxEntries state.now
  ({ state with group := reply.1 }).setRead read
    (withEntries config { replica, entries := [], stage := .claims }
      (parseConsumerGroupMessages reply.2) .claims)

/-- A read claims. -/
def claimRead (config : BacklogConfig) (state : BacklogState) (read : Nat) : BacklogState :=
  let current := state.reads read
  if current.stage = .claims then
    ({ state with group := (claimed config state current).1 }).setRead read
      (withEntries config current (appendDistinctEntries current.entries
        (parseConsumerGroupMessages (withFields (claimed config state current).2))) .takes)
  else state

/-- A read takes what is fresh. -/
def takeRead (config : BacklogConfig) (state : BacklogState) (read : Nat) : BacklogState :=
  let current := state.reads read
  if current.stage = .takes then
    ({ state with group := (taken config state current).1 }).setRead read
      { current with
        entries := appendDistinctEntries current.entries
          (parseConsumerGroupMessages (withFields (taken config state current).2))
        stage := .returns }
  else state

/-- A read whose command fails returns nothing. -/
def failRead (state : BacklogState) (read : Nat) : BacklogState :=
  state.setRead read { state.reads read with entries := [], stage := .returns }

/-- One step. -/
def step (config : BacklogConfig) (state : BacklogState) : BacklogAction → BacklogState
  | .readOwn read replica => state.beginRead config read replica
  | .claim read => state.claimRead config read
  | .takeFresh read => state.takeRead config read
  | .fail read => state.failRead read
  | .ackAgentEventFrames streamIds => { state with group := state.group.ack streamIds }
  | .append id fields => { state with group := state.group.append id fields }
  | .tick => { state with now := state.now + 1 }

end BacklogState

open BacklogState

/-! ## What is asked of reads -/

/-- The ids of entries. -/
def idsOf (entries : List AgentEventStreamBacklogEntry) : List StreamId :=
  entries.map AgentEventStreamBacklogEntry.streamId

/-- An entry is pending. -/
def Keeps (group : ConsumerGroup StreamId Replica Fields) (entry : AgentEventStreamBacklogEntry) :
    Prop :=
  ∃ fields, parseStreamMessage entry.streamId fields = some entry ∧
    group.Holds entry.streamId fields

/-- A message can be read. -/
def CanRead (id : StreamId) (fields : Fields) : Prop := (parseStreamMessage id fields).isSome = true

/-- What is pending is in the stream and can be read, and so is what is fresh. -/
def AllReadable (group : ConsumerGroup StreamId Replica Fields) : Prop := All CanRead group

/-- What is appended can be read. -/
def AppendsReadable : BacklogAction → Prop
  | .append id fields => CanRead id fields
  | _ => True

/-- A claim hands over nothing that stands in the stream before what its read has. -/
def ClaimsBehind (config : BacklogConfig) (state : BacklogState) : BacklogAction → Prop
  | .claim read => (state.reads read).stage = .claims →
      ∀ message ∈ (state.claimed config (state.reads read)).2, CanRead message.1 message.2 →
        message.1 ∉ idsOf (state.reads read).entries →
          ∀ id ∈ idsOf (state.reads read).entries, id < message.1
  | _ => True

/-- The entries of every read are in the order of the stream. -/
def InOrder (state : BacklogState) : Prop :=
  ∀ read, (idsOf (state.reads read).entries).Pairwise (· < ·)

/-- A whole read of the backlog by itself. -/
def readAgentEventBacklog (config : BacklogConfig) (replica : Replica) (state : BacklogState) :
    BacklogState :=
  run (step config) state [.readOwn 0 replica, .claim 0, .takeFresh 0]

/-- A whole read, all of which is acknowledged. -/
def drain (config : BacklogConfig) (replica : Replica) (state : BacklogState) : BacklogState :=
  let after := readAgentEventBacklog config replica state
  after.step config (.ackAgentEventFrames (idsOf (after.reads 0).entries))

/-- An entry is returned by a read of some replica, once what it reads before is acknowledged. -/
def ReturnedAgain (config : BacklogConfig) (state : BacklogState)
    (entry : AgentEventStreamBacklogEntry) : Prop :=
  ∃ replica drains,
    entry ∈ ((readAgentEventBacklog config replica ((drain config replica)^[drains] state)).reads
      0).entries

/-- An acknowledgement of an entry. -/
def Acks (id : StreamId) : BacklogAction → Prop
  | .ackAgentEventFrames streamIds => id ∈ streamIds
  | _ => False

/-- What is asked of the reads of a run. -/
structure Lawful (config : BacklogConfig) (start : BacklogState) (actions : List BacklogAction) :
    Prop where
  bounded : ∀ taken, taken <+: actions → ∀ read,
    ((run (step config) start taken).reads read).entries.length ≤
      config.backlogMaxEntries
  distinct : ∀ taken, taken <+: actions → ∀ read,
    (idsOf ((run (step config) start taken).reads read).entries).Nodup
  increasing : ∀ taken, taken <+: actions → InOrder (run (step config) start taken)
  pending : ∀ taken later, taken <+: later → later <+: actions → ∀ read,
    ∀ entry ∈ ((run (step config) start taken).reads read).entries,
      (∀ action ∈ later, ¬Acks entry.streamId action) →
        Keeps (run (step config) start later).group entry
  again : ∀ taken later, taken <+: later → later <+: actions → ∀ read,
    ∀ entry ∈ ((run (step config) start taken).reads read).entries,
      (∀ action ∈ later, ¬Acks entry.streamId action) →
        ReturnedAgain config (run (step config) start later) entry

/-! ## Entries of replies -/

variable {entry : AgentEventStreamBacklogEntry} {config : BacklogConfig}
  {group : ConsumerGroup StreamId Replica Fields}
  {entries candidates : List AgentEventStreamBacklogEntry} {state : BacklogState}

variable {fields : Fields}

theorem parsed_streamId {id : StreamId}
    (parsed : parseStreamMessage id fields = some entry) : entry.streamId = id := by
  unfold parseStreamMessage at parsed
  split at parsed
  · simp only [Option.bind_eq_bind, Option.bind_eq_some_iff, Option.pure_def,
      Option.some.injEq] at parsed
    obtain ⟨_, _, _, _, _, _, _, _, rfl⟩ := parsed
    rfl
  · cases parsed

theorem mem_parse {reply : List (StreamId × Option Fields)}
    (member : entry ∈ parseConsumerGroupMessages reply) :
    ∃ fields, (entry.streamId, some fields) ∈ reply ∧
      parseStreamMessage entry.streamId fields = some entry := by
  obtain ⟨⟨id, message⟩, inside, parsed⟩ := List.mem_filterMap.mp member
  cases message with
  | none => cases parsed
  | some fields =>
    have same := parsed_streamId parsed
    rw [same]
    exact ⟨fields, inside, parsed⟩

theorem idsOf_parse (reply : List (StreamId × Option Fields)) :
    (idsOf (parseConsumerGroupMessages reply)).Sublist (reply.map Prod.fst) := by
  induction reply with
  | nil => exact List.Sublist.refl _
  | cons raw rest ih =>
    unfold parseConsumerGroupMessages at ih ⊢
    cases parsed : parseListed raw with
    | none =>
      rw [List.filterMap_cons_none parsed]
      exact ih.cons _
    | some entry =>
      have same : entry.streamId = raw.1 := by
        obtain ⟨id, message⟩ := raw
        cases message with
        | none => cases parsed
        | some fields => exact parsed_streamId parsed
      rw [List.filterMap_cons_some parsed]
      unfold idsOf
      rw [List.map_cons, List.map_cons, same]
      exact ih.cons_cons _

theorem length_parse (reply : List (StreamId × Option Fields)) :
    (parseConsumerGroupMessages reply).length ≤ reply.length :=
  List.length_filterMap_le _ _

theorem ids_withFields (reply : List (StreamId × Fields)) :
    (withFields reply).map Prod.fst = reply.map Prod.fst := by
  unfold withFields
  rw [List.map_map]
  rfl

theorem mem_withFields {reply : List (StreamId × Fields)} {id : StreamId}
    (member : (id, some fields) ∈ withFields reply) : (id, fields) ∈ reply := by
  obtain ⟨message, inside, same⟩ := List.mem_map.mp member
  obtain ⟨rfl, there⟩ := Prod.mk.inj same
  rw [← Option.some.inj there]
  exact inside

theorem appendDistinctEntries_cons (target rest : List AgentEventStreamBacklogEntry)
    (candidate : AgentEventStreamBacklogEntry) :
    appendDistinctEntries target (candidate :: rest) =
      appendDistinctEntries (if candidate.streamId ∈ idsOf target then target
        else target ++ [candidate]) rest := rfl

theorem appendDistinctEntries_eq (target candidates : List AgentEventStreamBacklogEntry)
    (distinct : (idsOf candidates).Nodup) :
    appendDistinctEntries target candidates =
      target ++ candidates.filter fun candidate => candidate.streamId ∉ idsOf target := by
  induction candidates generalizing target with
  | nil => exact (List.append_nil target).symm
  | cons candidate rest ih =>
    unfold idsOf at distinct
    rw [List.map_cons, List.nodup_cons] at distinct
    rw [appendDistinctEntries_cons]
    by_cases there : candidate.streamId ∈ idsOf target
    · rw [if_pos there, ih target distinct.2, List.filter_cons_of_neg (by simpa using there)]
    · have same : rest.filter (fun other => other.streamId ∉ idsOf (target ++ [candidate])) =
          rest.filter fun other => other.streamId ∉ idsOf target := by
        apply List.filter_congr
        intro other member
        have apart : other.streamId ≠ candidate.streamId := by
          intro equal
          apply distinct.1
          rw [← equal]
          exact List.mem_map_of_mem member
        unfold idsOf
        rw [List.map_append, List.map_singleton]
        simp [apart]
      rw [if_neg there, ih _ distinct.2, same, List.filter_cons_of_pos (by simpa using there),
        List.append_assoc]
      rfl

/-! ## What a read has -/

/-- The entries of a read are distinct, no more than it may return, and none of them stands in the
stream behind what was delivered. -/
structure Fits (config : BacklogConfig) (group : ConsumerGroup StreamId Replica Fields)
    (entries : List AgentEventStreamBacklogEntry) : Prop where
  bounded : entries.length ≤ config.backlogMaxEntries
  distinct : (idsOf entries).Nodup
  within : ∀ id ∈ idsOf entries, AtMost group.lastId id
  before : ∀ id ∈ idsOf entries, ∀ message ∈ group.fresh, id < message.1

theorem Fits.mono {next : ConsumerGroup StreamId Replica Fields} (fits : Fits config group entries)
    (same : next.lastId = group.lastId) (fewer : ∀ message ∈ next.fresh, message ∈ group.fresh) :
    Fits config next entries where
  bounded := fits.bounded
  distinct := fits.distinct
  within := by
    rw [same]
    exact fits.within
  before := fun id member message fresh => fits.before id member message (fewer message fresh)

theorem Fits.append (fits : Fits config group entries)
    (id : StreamId) (fields : Fields) : Fits config (group.append id fields) entries := by
  unfold ConsumerGroup.append
  split
  · next greater =>
    have below : ∀ other ∈ idsOf entries, other < id := by
      intro other member
      obtain ⟨top, same, most⟩ := fits.within other member
      exact lt_of_le_of_lt most (greater top same)
    constructor
    · exact fits.bounded
    · exact fits.distinct
    · intro other member
      exact ⟨id, rfl, le_of_lt (below other member)⟩
    · intro other member
      exact forall_mem_concat (fits.before other member) (below other member)
  · exact fits

theorem fits_nil (config : BacklogConfig) (group : ConsumerGroup StreamId Replica Fields) :
    Fits config group [] where
  bounded := Nat.zero_le _
  distinct := List.nodup_nil
  within := by
    intro id member
    cases member
  before := by
    intro id member
    cases member

theorem Fits.appendDistinct (fits : Fits config group entries)
    (few : entries.length + candidates.length ≤ config.backlogMaxEntries)
    (distinct : (idsOf candidates).Nodup) (within : ∀ id ∈ idsOf candidates, AtMost group.lastId id)
    (before : ∀ id ∈ idsOf candidates, ∀ message ∈ group.fresh, id < message.1) :
    Fits config group (appendDistinctEntries entries candidates) := by
  rw [appendDistinctEntries_eq _ _ distinct]
  have among : ∀ id ∈ idsOf (entries ++ candidates.filter fun candidate =>
      candidate.streamId ∉ idsOf entries), id ∈ idsOf entries ∨ id ∈ idsOf candidates := by
    intro id member
    obtain ⟨entry, inside, rfl⟩ := List.mem_map.mp member
    cases List.mem_append.mp inside with
    | inl old => exact .inl (List.mem_map_of_mem old)
    | inr new => exact .inr (List.mem_map_of_mem (List.mem_of_mem_filter new))
  constructor
  · rw [List.length_append]
    have fewer := List.length_filter_le
      (fun candidate => decide (candidate.streamId ∉ idsOf entries)) candidates
    omega
  · unfold idsOf
    rw [List.map_append, List.nodup_append]
    refine ⟨fits.distinct, distinct.sublist (List.filter_sublist.map _), ?_⟩
    intro id old other new same
    obtain ⟨candidate, kept, rfl⟩ := List.mem_map.mp new
    have absent := (List.mem_filter.mp kept).2
    rw [← same] at absent
    exact of_decide_eq_true absent old
  · intro id member
    cases among id member with
    | inl old => exact fits.within id old
    | inr new => exact within id new
  · intro id member
    cases among id member with
    | inl old => exact fits.before id old
    | inr new => exact before id new

theorem ordered_appendDistinct
    (ordered : (idsOf entries).Pairwise (· < ·)) (inOrder : (idsOf candidates).Pairwise (· < ·)) :
    (idsOf (appendDistinctEntries entries candidates)).Pairwise (· < ·) ↔
      ∀ candidate ∈ candidates, candidate.streamId ∉ idsOf entries →
        ∀ id ∈ idsOf entries, id < candidate.streamId := by
  have distinct : (idsOf candidates).Nodup := inOrder.imp ne_of_lt
  rw [appendDistinctEntries_eq _ _ distinct]
  unfold idsOf
  rw [List.map_append, List.pairwise_append]
  have kept := inOrder.sublist (List.filter_sublist (l := candidates)
    (p := fun candidate => decide (candidate.streamId ∉ idsOf entries)) |>.map _)
  constructor
  · rintro ⟨_, _, behind⟩ candidate member absent id old
    exact behind id old _ (List.mem_map_of_mem (List.mem_filter.mpr ⟨member,
      decide_eq_true absent⟩))
  · intro behind
    refine ⟨ordered, kept, ?_⟩
    intro id old other new
    obtain ⟨candidate, member, rfl⟩ := List.mem_map.mp new
    obtain ⟨inside, absent⟩ := List.mem_filter.mp member
    exact behind candidate inside (of_decide_eq_true absent) id old

/-- The reads of a state fit. -/
def Sound (config : BacklogConfig) (state : BacklogState) : Prop :=
  ∀ read, Fits config state.group (state.reads read).entries

/-! ## What the commands of a read give it -/

/-- What a reply lists of what is pending. -/
structure Listed (group : ConsumerGroup StreamId Replica Fields)
    (entries : List AgentEventStreamBacklogEntry) : Prop where
  ordered : (idsOf entries).Pairwise (· < ·)
  within : ∀ id ∈ idsOf entries, AtMost group.lastId id
  before : ∀ id ∈ idsOf entries, ∀ message ∈ group.fresh, id < message.1

theorem listed_of_sublist (among : (idsOf entries).Sublist (group.pending.map PendingEntry.id)) :
    Listed group entries where
  ordered := group.pending_ordered.sublist among
  within := fun id member => group.within id (List.mem_append_left _ (among.subset member))
  before := fun _ member _ fresh =>
    group.pending_before_fresh (among.subset member) (List.mem_map_of_mem fresh)

theorem listed_readPending (config : BacklogConfig) (state : BacklogState) (replica : Replica) :
    Listed state.group (parseConsumerGroupMessages
      (state.group.readPending replica config.backlogMaxEntries state.now).2) :=
  listed_of_sublist ((idsOf_parse _).trans
    (state.group.readPending_sublist replica config.backlogMaxEntries state.now))

theorem listed_claimed (config : BacklogConfig) (state : BacklogState) (current : BacklogRead) :
    Listed state.group (parseConsumerGroupMessages
      (withFields (state.claimed config current).2)) := by
  apply listed_of_sublist
  refine (idsOf_parse _).trans ?_
  rw [ids_withFields]
  exact claimEntries_claims _ _ _ _ _ _

theorem listed_taken (config : BacklogConfig) (state : BacklogState) (current : BacklogRead) :
    Listed (state.taken config current).1 (parseConsumerGroupMessages
      (withFields (state.taken config current).2)) := by
  apply listed_of_sublist
  refine (idsOf_parse _).trans ?_
  rw [ids_withFields]
  have delivered : (state.taken config current).2.map Prod.fst =
      ((state.taken config current).2.map (deliver current.replica state.now)).map
        PendingEntry.id := by
    rw [List.map_map]
    rfl
  rw [delivered]
  exact (List.sublist_append_right _ _).map _

/-! ## Steps -/

theorem reads_setRead (holds : List AgentEventStreamBacklogEntry → Prop)
    {read : Nat} {next : BacklogRead} (others : ∀ other, holds (state.reads other).entries)
    (own : holds next.entries) (other : Nat) :
    holds ((state.setRead read next).reads other).entries := by
  change holds (if other = read then next else state.reads other).entries
  split
  · exact own
  · exact others other

theorem room_add {current : BacklogRead} (fits : Fits config group current.entries) {count : Nat}
    (few : count ≤ room config current) :
    current.entries.length + count ≤ config.backlogMaxEntries := by
  have bounded := fits.bounded
  unfold room at few
  omega

theorem length_claimed (config : BacklogConfig) (state : BacklogState) (current : BacklogRead) :
    (parseConsumerGroupMessages (withFields (state.claimed config current).2)).length ≤
      room config current := by
  refine (length_parse _).trans ?_
  unfold withFields
  rw [List.length_map]
  exact claimEntries_length _ _ _ _ _ _

theorem length_taken (config : BacklogConfig) (state : BacklogState) (current : BacklogRead) :
    (parseConsumerGroupMessages (withFields (state.taken config current).2)).length ≤
      room config current := by
  refine (length_parse _).trans ?_
  unfold withFields
  rw [List.length_map]
  change (state.group.fresh.take _).length ≤ _
  rw [List.length_take]
  exact Nat.min_le_left _ _

theorem taken_behind {current : BacklogRead} (fits : Fits config state.group current.entries) :
    ∀ candidate ∈ parseConsumerGroupMessages
        (withFields (state.taken config current).2),
      ∀ id ∈ idsOf current.entries, id < candidate.streamId := by
  intro candidate member id old
  obtain ⟨fields, inside, _⟩ := mem_parse member
  exact fits.before id old _ (List.mem_of_mem_take (mem_withFields inside))

theorem step_sound (sound : Sound config state)
    (action : BacklogAction) : Sound config (state.step config action) := by
  cases action with
  | readOwn read replica =>
    have listed := listed_readPending config state replica
    have same : ∀ entries, Fits config state.group entries →
        Fits config (state.group.readPending replica config.backlogMaxEntries state.now).1
          entries := fun _ fits => fits.mono rfl fun _ fresh => fresh
    apply reads_setRead _ fun other => same _ (sound other)
    exact ⟨(length_parse _).trans (state.group.readPending_length _ _ _),
      listed.ordered.imp ne_of_lt, listed.within, listed.before⟩
  | claim read =>
    change Sound config (state.claimRead config read)
    unfold claimRead
    simp only
    split
    · have listed := listed_claimed config state (state.reads read)
      have same : ∀ entries, Fits config state.group entries →
          Fits config (state.claimed config (state.reads read)).1 entries :=
        fun _ fits => fits.mono rfl fun _ fresh => fresh
      apply reads_setRead _ fun other => same _ (sound other)
      exact same _ ((sound read).appendDistinct
        (room_add (sound read) (length_claimed config state _)) (listed.ordered.imp ne_of_lt)
        listed.within listed.before)
    · exact sound
  | takeFresh read =>
    change Sound config (state.takeRead config read)
    unfold takeRead
    simp only
    split
    · have listed := listed_taken config state (state.reads read)
      have same : ∀ entries, Fits config state.group entries →
          Fits config (state.taken config (state.reads read)).1 entries :=
        fun _ fits => fits.mono rfl fun _ fresh => List.mem_of_mem_drop fresh
      apply reads_setRead _ fun other => same _ (sound other)
      exact (same _ (sound read)).appendDistinct
        (room_add (sound read) (length_taken config state _)) (listed.ordered.imp ne_of_lt)
        listed.within listed.before
    · exact sound
  | fail read => exact reads_setRead _ sound (fits_nil config state.group)
  | ackAgentEventFrames streamIds => exact fun read => (sound read).mono rfl fun _ fresh => fresh
  | append id fields => exact fun read => (sound read).append id fields
  | tick => exact sound

/-- A step keeps the entries of reads in order exactly when it is no claim that hands over what
stands before. -/
theorem step_inOrder_iff
    (sound : Sound config state) (inOrder : InOrder state) (action : BacklogAction) :
    ClaimsBehind config state action ↔ InOrder (state.step config action) := by
  cases action with
  | readOwn read replica =>
    refine iff_of_true trivial ?_
    exact reads_setRead (fun entries => (idsOf entries).Pairwise (· < ·)) inOrder
      (listed_readPending config state replica).ordered
  | claim read =>
    change _ ↔ InOrder (state.claimRead config read)
    unfold claimRead
    simp only
    by_cases stage : (state.reads read).stage = .claims
    · rw [if_pos stage]
      have listed := listed_claimed config state (state.reads read)
      have order := ordered_appendDistinct (inOrder read) listed.ordered
      have behind : ClaimsBehind config state (.claim read) ↔
          ∀ candidate ∈ parseConsumerGroupMessages
              (withFields (state.claimed config (state.reads read)).2),
            candidate.streamId ∉ idsOf (state.reads read).entries →
              ∀ id ∈ idsOf (state.reads read).entries, id < candidate.streamId := by
        constructor
        · intro claims candidate member
          obtain ⟨fields, inside, parsed⟩ := mem_parse member
          exact claims stage (candidate.streamId, fields) (mem_withFields inside)
            (by rw [CanRead, parsed]; rfl)
        · rintro claims _ ⟨id, fields⟩ inside readable
          obtain ⟨candidate, parsed⟩ := Option.isSome_iff_exists.mp readable
          have same := parsed_streamId parsed
          have member : candidate ∈ parseConsumerGroupMessages
              (withFields (state.claimed config (state.reads read)).2) :=
            List.mem_filterMap.mpr ⟨(id, some fields), List.mem_map_of_mem inside, parsed⟩
          have own := claims candidate member
          rw [same] at own
          exact own
      rw [behind, ← order]
      constructor
      · intro ordered
        exact reads_setRead (fun entries => (idsOf entries).Pairwise (· < ·)) inOrder
          ordered
      · intro all
        have own := all read
        change (idsOf (if read = read then _ else _ : BacklogRead).entries).Pairwise _ at own
        rw [if_pos rfl] at own
        exact own
    · rw [if_neg stage]
      exact iff_of_true (fun claims => absurd claims stage) inOrder
  | takeFresh read =>
    refine iff_of_true trivial ?_
    change InOrder (state.takeRead config read)
    unfold takeRead
    simp only
    split
    · apply reads_setRead (fun entries => (idsOf entries).Pairwise (· < ·)) inOrder
      exact (ordered_appendDistinct (inOrder read) (listed_taken config state _).ordered).mpr
        fun candidate member _ => taken_behind (sound read) candidate member
    · exact inOrder
  | fail read =>
    refine iff_of_true trivial ?_
    exact reads_setRead (fun entries => (idsOf entries).Pairwise (· < ·)) inOrder
      List.Pairwise.nil
  | ackAgentEventFrames streamIds | append id fields | tick => exact iff_of_true trivial inOrder

/-! ## What is kept -/

variable {action : BacklogAction}

theorem step_keeps (keeps : Keeps state.group entry) (other : ¬Acks entry.streamId action) :
    Keeps (state.step config action).group entry := by
  obtain ⟨fields, parsed, holds⟩ := keeps
  refine ⟨fields, parsed, ?_⟩
  cases action with
  | readOwn read replica => exact holds_readPending holds _ _ _
  | claim read =>
    change (state.claimRead config read).group.Holds _ _
    unfold claimRead
    simp only
    split
    · exact holds_autoClaim holds _ _ _ _
    · exact holds
  | takeFresh read =>
    change (state.takeRead config read).group.Holds _ _
    unfold takeRead
    simp only
    split
    · exact holds_readFresh holds _ _ _
    · exact holds
  | fail read => exact holds
  | ackAgentEventFrames streamIds => exact holds_ack holds other
  | append id fields => exact holds_append holds id fields
  | tick => exact holds

/-- An entry of a read after a step was an entry before it, or it is pending. -/
theorem step_gains {read : Nat} (has : entry ∈ ((state.step config action).reads read).entries) :
    (∃ other, entry ∈ (state.reads other).entries) ∨
      Keeps (state.step config action).group entry := by
  have own : ∀ {next : BacklogState} {at' : Nat} {current : BacklogRead},
      entry ∈ ((next.setRead at' current).reads read).entries →
        (∃ other, entry ∈ (next.reads other).entries) ∨ entry ∈ current.entries := by
    intro next at' current member
    change entry ∈ (if read = at' then current else next.reads read).entries at member
    split at member
    · exact .inr member
    · exact .inl ⟨read, member⟩
  have appended : ∀ {entries candidates : List AgentEventStreamBacklogEntry},
      (idsOf candidates).Pairwise (· < ·) → entry ∈ appendDistinctEntries entries candidates →
        entry ∈ entries ∨ entry ∈ candidates := by
    intro entries candidates ordered member
    rw [appendDistinctEntries_eq _ _ (ordered.imp ne_of_lt)] at member
    exact (List.mem_append.mp member).imp_right List.mem_of_mem_filter
  cases action with
  | readOwn at' replica =>
    refine (own has).imp_right ?_
    intro member
    obtain ⟨fields, inside, parsed⟩ := mem_parse member
    exact ⟨fields, parsed, holds_of_readPending inside⟩
  | claim at' =>
    change entry ∈ ((state.claimRead config at').reads read).entries at has
    change _ ∨ Keeps (state.claimRead config at').group entry
    unfold claimRead at has ⊢
    simp only at has ⊢
    split at has
    · next stage =>
      rw [if_pos stage]
      cases own has with
      | inl old => exact .inl old
      | inr member =>
        cases appended (listed_claimed config state _).ordered member with
        | inl old => exact .inl ⟨at', old⟩
        | inr new =>
          obtain ⟨fields, inside, parsed⟩ := mem_parse new
          exact .inr ⟨fields, parsed, holds_of_autoClaim (mem_withFields inside)⟩
    · exact .inl ⟨read, has⟩
  | takeFresh at' =>
    change entry ∈ ((state.takeRead config at').reads read).entries at has
    change _ ∨ Keeps (state.takeRead config at').group entry
    unfold takeRead at has ⊢
    simp only at has ⊢
    split at has
    · next stage =>
      rw [if_pos stage]
      cases own has with
      | inl old => exact .inl old
      | inr member =>
        cases appended (listed_taken config state _).ordered member with
        | inl old => exact .inl ⟨at', old⟩
        | inr new =>
          obtain ⟨fields, inside, parsed⟩ := mem_parse new
          exact .inr ⟨fields, parsed, holds_of_readFresh (mem_withFields inside)⟩
    · exact .inl ⟨read, has⟩
  | fail at' =>
    refine (own has).imp_right ?_
    intro member
    cases member
  | ackAgentEventFrames streamIds | append id fields | tick => exact .inl ⟨read, has⟩

theorem run_keeps {start : BacklogState}
    (idle : ∀ read, (start.reads read).entries = []) {actions : List BacklogAction}
    (unacked : ∀ action ∈ actions, ¬Acks entry.streamId action) {read : Nat}
    (has : entry ∈ ((run (step config) start actions).reads read).entries) :
    Keeps (run (step config) start actions).group entry := by
  have keeps : ∀ state action,
      (∀ read, entry ∈ (state.reads read).entries → Keeps state.group entry) →
        ¬Acks entry.streamId action →
          ∀ read, entry ∈ ((step config state action).reads read).entries →
            Keeps (step config state action).group entry := by
    intro state action before other read has
    obtain ⟨another, old⟩ | new := step_gains has
    · exact step_keeps (before another old) other
    · exact new
  have initially : ∀ read, entry ∈ (start.reads read).entries → Keeps start.group entry := by
    intro read has
    rw [idle read] at has
    cases has
  have met : Meets (step config) (fun _ action => ¬Acks entry.streamId action) start
      actions := meets_of_forall (step config) start unacked
  exact run_invariant_of_meets (step config) keeps initially met read has

/-! ## What is returned again -/

theorem step_allReadable (readable : AllReadable state.group)
    (appends : AppendsReadable action) : AllReadable (state.step config action).group := by
  cases action with
  | readOwn read replica => exact All.readPending readable _ _ _
  | claim read =>
    change AllReadable (state.claimRead config read).group
    unfold claimRead
    simp only
    split
    · exact All.autoClaim readable _ _ _ _
    · exact readable
  | takeFresh read =>
    change AllReadable (state.takeRead config read).group
    unfold takeRead
    simp only
    split
    · exact All.readFresh readable _ _ _
    · exact readable
  | fail read => exact readable
  | ackAgentEventFrames streamIds => exact All.ack readable streamIds
  | append id fields => exact All.append readable appends
  | tick => exact readable

theorem entries_appended (ordered : (idsOf candidates).Pairwise (· < ·))
    (has : entry ∈ entries) : entry ∈ appendDistinctEntries entries candidates := by
  rw [appendDistinctEntries_eq _ _ (ordered.imp ne_of_lt)]
  exact List.mem_append_left _ has

variable {replica : Replica}

theorem mem_readAgentEventBacklog
    (has : entry ∈ ((state.beginRead config 0 replica).reads 0).entries) :
    entry ∈ ((readAgentEventBacklog config replica state).reads 0).entries := by
  have claims : ∀ {state : BacklogState}, entry ∈ (state.reads 0).entries →
      entry ∈ ((state.claimRead config 0).reads 0).entries := by
    intro state has
    unfold claimRead
    simp only
    split
    · exact entries_appended (listed_claimed config state _).ordered has
    · exact has
  have takes : ∀ {state : BacklogState}, entry ∈ (state.reads 0).entries →
      entry ∈ ((state.takeRead config 0).reads 0).entries := by
    intro state has
    unfold takeRead
    simp only
    split
    · exact entries_appended (listed_taken config state _).ordered has
    · exact has
  exact takes (claims has)

theorem readAgentEventBacklog_full
    (full : ((state.beginRead config 0 replica).reads 0).entries.length =
      config.backlogMaxEntries) :
    readAgentEventBacklog config replica state = state.beginRead config 0 replica := by
  have ended : ((state.beginRead config 0 replica).reads 0).stage = .returns := if_neg (by
    change ¬((state.beginRead config 0 replica).reads 0).entries.length < _
    rw [full]
    exact lt_irrefl _)
  have claims : (state.beginRead config 0 replica).claimRead config 0 =
      state.beginRead config 0 replica := by
    unfold claimRead
    exact if_neg (by rw [ended]; decide)
  have takes : (state.beginRead config 0 replica).takeRead config 0 =
      state.beginRead config 0 replica := by
    unfold takeRead
    exact if_neg (by rw [ended]; decide)
  change ((state.beginRead config 0 replica).claimRead config 0).takeRead config 0 = _
  rw [claims, takes]

theorem idsOf_parse_readable (entries : List (PendingEntry StreamId Replica Fields))
    (readable : ∀ entry ∈ entries,
      ∃ fields, entry.message = some fields ∧ CanRead entry.id fields) :
    idsOf (parseConsumerGroupMessages (entries.map listed)) = entries.map PendingEntry.id := by
  induction entries with
  | nil => rfl
  | cons entry rest ih =>
    obtain ⟨fields, there, can⟩ := readable entry List.mem_cons_self
    obtain ⟨parsed, shape⟩ := Option.isSome_iff_exists.mp can
    have first : parseListed (listed entry) = some parsed := by
      unfold parseListed listed
      rw [there]
      exact shape
    have later := ih fun other member => readable other (List.mem_cons_of_mem entry member)
    unfold parseConsumerGroupMessages idsOf at later ⊢
    rw [List.map_cons, List.filterMap_cons_some first, List.map_cons, List.map_cons, later,
      parsed_streamId shape]

theorem idsOf_beginRead (config : BacklogConfig) (replica : Replica)
    (readable : AllReadable state.group) :
    idsOf ((state.beginRead config 0 replica).reads 0).entries =
      ((state.group.ownPending replica).take config.backlogMaxEntries).map PendingEntry.id := by
  apply idsOf_parse_readable
  intro other taken
  exact readable.1 other (List.mem_filter.mp (List.mem_of_mem_take taken)).1

/-- A read that begins with other messages than one that is pending for its replica begins with as
many as it may return; when they are acknowledged, fewer are pending, and this one still is. -/
theorem drain_other
    (readable : AllReadable state.group) {found : PendingEntry StreamId Replica Fields}
    (own : found ∈ state.group.ownPending replica)
    (later : found ∉ (state.group.ownPending replica).take config.backlogMaxEntries) :
    AllReadable (drain config replica state).group ∧
      ((drain config replica state).group.ownPending replica).length <
        (state.group.ownPending replica).length ∧
      ∀ fields, state.group.PendingFor replica found.id fields →
        (drain config replica state).group.PendingFor replica found.id fields := by
  have ids := idsOf_beginRead config replica readable
  have member := (List.mem_filter.mp own).1
  have long : config.backlogMaxEntries ≤ (state.group.ownPending replica).length := by
    by_contra short
    apply later
    rw [List.take_of_length_le (by omega)]
    exact own
  have full : ((state.beginRead config 0 replica).reads 0).entries.length =
      config.backlogMaxEntries := by
    have counted := congrArg List.length ids
    unfold idsOf at counted
    rw [List.length_map, List.length_map, List.length_take] at counted
    omega
  have drained : drain config replica state =
      (state.beginRead config 0 replica).step config (.ackAgentEventFrames
        (idsOf ((state.beginRead config 0 replica).reads 0).entries)) := by
    unfold drain
    rw [readAgentEventBacklog_full full]
  have other : found.id ∉ idsOf ((state.beginRead config 0 replica).reads 0).entries := by
    rw [ids]
    intro taken
    obtain ⟨another, within, equal⟩ := List.mem_map.mp taken
    have distinct : (state.group.pending.map PendingEntry.id).Nodup :=
      state.group.pending_ordered.imp ne_of_lt
    have same := List.inj_on_of_nodup_map distinct
      (List.mem_filter.mp (List.mem_of_mem_take within)).1 member equal
    rw [same] at within
    exact later within
  have begun := ownPending_readPending state.group replica config.backlogMaxEntries state.now
  have acked : ∃ first ∈ (state.group.readPending replica config.backlogMaxEntries
      state.now).1.ownPending replica,
        first.id ∈ idsOf ((state.beginRead config 0 replica).reads 0).entries := by
    cases shape : state.group.ownPending replica with
    | nil =>
      rw [shape] at own
      cases own
    | cons first rest =>
      rw [begun, shape]
      refine ⟨_, List.mem_map_of_mem List.mem_cons_self, ?_⟩
      obtain ⟨less, more⟩ := Nat.exists_eq_succ_of_ne_zero config.positive.ne'
      rw [redeliver_id, ids, shape, more, List.take_succ_cons]
      exact List.mem_map_of_mem List.mem_cons_self
  have fewer := length_ownPending_ack _ replica _ acked
  rw [begun, List.length_map] at fewer
  rw [drained]
  refine ⟨All.ack (All.readPending readable _ _ _) _, fewer, ?_⟩
  intro fields pending
  exact pendingFor_ack (pendingFor_readPending pending replica config.backlogMaxEntries state.now)
    other

theorem returned_of_pending (config : BacklogConfig) (replica : Replica)
    (parsed : parseStreamMessage entry.streamId fields = some entry) (bound : Nat) :
    ∀ state : BacklogState, (state.group.ownPending replica).length < bound →
      AllReadable state.group → state.group.PendingFor replica entry.streamId fields →
        ∃ drains, entry ∈ ((readAgentEventBacklog config replica
          ((drain config replica)^[drains] state)).reads 0).entries := by
  induction bound with
  | zero =>
    intro state short
    cases short
  | succ bound ih =>
    intro state short readable pending
    obtain ⟨found, member, same, owned, there⟩ := pending
    have own : found ∈ state.group.ownPending replica :=
      List.mem_filter.mpr ⟨member, decide_eq_true owned⟩
    by_cases soon : found ∈ (state.group.ownPending replica).take config.backlogMaxEntries
    · refine ⟨0, mem_readAgentEventBacklog ?_⟩
      change entry ∈ parseConsumerGroupMessages _
      apply List.mem_filterMap.mpr
      refine ⟨listed found, List.mem_map_of_mem soon, ?_⟩
      unfold parseListed listed
      rw [there, same]
      exact parsed
    · obtain ⟨readable', fewer, kept⟩ := drain_other readable own soon
      rw [same] at kept
      obtain ⟨drains, returned⟩ := ih (drain config replica state) (by omega) readable'
        (kept fields ⟨found, member, same, owned, there⟩)
      exact ⟨drains + 1, returned⟩

theorem run_allReadable (config : BacklogConfig) {start : BacklogState}
    {actions : List BacklogAction} (readable : AllReadable start.group)
    (appends : ∀ action ∈ actions, AppendsReadable action) :
    AllReadable (run (step config) start actions).group := by
  have keeps : ∀ state action, AllReadable state.group → AppendsReadable action →
      AllReadable (step config state action).group :=
    fun _ _ readable appends => step_allReadable readable appends
  have met : Meets (step config) (fun _ action => AppendsReadable action) start
      actions := meets_of_forall (step config) start appends
  exact run_invariant_of_meets (step config) keeps readable met

/-- Where all messages can be read, the reads of a run are lawful exactly when no claim of it hands
over what stands in the stream before what its read has. -/
theorem lawful_iff_claims_behind (config : BacklogConfig) {start : BacklogState}
    (idle : ∀ read, (start.reads read).entries = []) {actions : List BacklogAction}
    (readable : AllReadable start.group) (appends : ∀ action ∈ actions, AppendsReadable action) :
    Meets (step config) (ClaimsBehind config) start actions ↔
      Lawful config start actions := by
  have fits : Sound config start := by
    intro read
    rw [idle read]
    exact fits_nil config start.group
  have inOrder : InOrder start := by
    intro read
    rw [idle read]
    exact List.Pairwise.nil
  have keeps : ∀ state action, Sound config state → InOrder state →
      ClaimsBehind config state action → Sound config (step config state action) :=
    fun _ action sound _ _ => step_sound sound action
  have decides : ∀ state action, Sound config state → InOrder state →
      (ClaimsBehind config state action ↔ InOrder (step config state action)) :=
    fun _ action sound inOrder => step_inOrder_iff sound inOrder action
  have order := meets_iff_every_state (step config) keeps decides fits inOrder actions
  have soundKeeps : ∀ state action, Sound config state →
      Sound config (step config state action) :=
    fun _ action sound => step_sound sound action
  have sound : ∀ taken, Sound config (run (step config) start taken) :=
    fun taken => run_invariant (step config) soundKeeps fits taken
  have kept : ∀ taken later, taken <+: later → ∀ read,
      ∀ entry ∈ ((run (step config) start taken).reads read).entries,
        (∀ action ∈ later, ¬Acks entry.streamId action) →
          Keeps (run (step config) start later).group entry := by
    rintro taken _ ⟨rest, rfl⟩ read entry has unacked
    have early := run_keeps idle
      (fun action member => unacked action (List.mem_append_left rest member)) has
    rw [run_append]
    have met : Meets (step config) (fun _ action => ¬Acks entry.streamId action)
        (run (step config) start taken) rest :=
      meets_of_forall (step config) _
        fun action member => unacked action (List.mem_append_right taken member)
    have holds : ∀ state action, Keeps state.group entry → ¬Acks entry.streamId action →
        Keeps (step config state action).group entry :=
      fun _ _ keeps other => step_keeps keeps other
    exact run_invariant_of_meets (step config) holds early met
  constructor
  · intro meets
    refine ⟨fun taken _ read => (sound taken read).bounded,
      fun taken _ read => (sound taken read).distinct, order.mp meets,
      fun taken later first _ => kept taken later first, ?_⟩
    intro taken later first within read entry has unacked
    obtain ⟨fields, parsed, replica, pending⟩ := kept taken later first read entry has unacked
    have all := run_allReadable config readable
      fun action (member : action ∈ later) => appends action (within.subset member)
    obtain ⟨drains, returned⟩ := returned_of_pending config replica parsed _ _
      (Nat.lt_succ_self _) all pending
    exact ⟨replica, drains, returned⟩
  · intro lawful
    exact order.mpr lawful.increasing

/-! ## Two runs -/

/-- The fields of a frame. -/
def frameFields (eventId : String) : Fields :=
  ["schemaVersion", "1", "eventId", eventId, "eventName", "client:custom.x", "emittedAt",
    "2026-01-01T00:00:00.000Z", "payload", "{}"]

/-- Reads that return three entries at most. -/
def threeEntries : BacklogConfig where
  backlogMaxEntries := 3
  positive := by decide
  consumerClaimIdleMs := 5000

/-- A read that has nothing. -/
def noRead : BacklogRead where
  replica := "a"
  entries := []
  stage := .returns

/-- A message that is pending for the replica that reads, a later one that another replica left, and
one that is fresh. -/
def ownLeftFresh : BacklogState where
  group :=
    { pending :=
        [{ id := toLex (1, 0), consumer := "a", deliveredAt := 0,
           message := some (frameFields "first") },
          { id := toLex (2, 0), consumer := "b", deliveredAt := 0,
            message := some (frameFields "second") }]
      fresh := [(toLex (3, 0), frameFields "third")]
      lastId := some (toLex (3, 0))
      ordered := by decide
      within := by
        intro id member
        simp only [List.map_cons, List.map_nil, List.cons_append, List.nil_append, List.mem_cons,
          List.not_mem_nil, or_false] at member
        obtain rfl | rfl | rfl := member
        · exact ⟨_, rfl, by decide⟩
        · exact ⟨_, rfl, by decide⟩
        · exact ⟨_, rfl, le_refl _⟩ }
  reads := fun _ => noRead
  now := 5000

/-- A read of what is pending, claimed and fresh returns the three in the order of the stream, and
is lawful. -/
theorem own_claimed_fresh_lawful :
    idsOf ((readAgentEventBacklog threeEntries "a" ownLeftFresh).reads 0).entries =
        [toLex (1, 0), toLex (2, 0), toLex (3, 0)] ∧
      Lawful threeEntries ownLeftFresh [.readOwn 0 "a", .claim 0, .takeFresh 0] := by
  refine ⟨by decide, (lawful_iff_claims_behind threeEntries (fun _ => rfl) ⟨?_, ?_⟩ ?_).mp
    ⟨trivial, ?_, trivial, trivial⟩⟩
  · intro entry member
    simp only [ownLeftFresh, List.mem_cons, List.not_mem_nil, or_false] at member
    obtain rfl | rfl := member
    · exact ⟨_, rfl, by change (parseStreamMessage _ _).isSome = true; decide⟩
    · exact ⟨_, rfl, by change (parseStreamMessage _ _).isSome = true; decide⟩
  · intro message member
    rw [List.mem_singleton.mp member]
    change (parseStreamMessage (toLex (3, 0)) (frameFields "third")).isSome = true
    decide
  · intro action member
    simp only [List.mem_cons, List.not_mem_nil, or_false] at member
    obtain rfl | rfl | rfl := member
    · trivial
    · trivial
    · trivial
  · have behind : ∀ message ∈ (claimed threeEntries
        (step threeEntries ownLeftFresh (.readOwn 0 "a"))
        ((step threeEntries ownLeftFresh (.readOwn 0 "a")).reads 0)).2,
        ∀ id ∈ idsOf ((step threeEntries ownLeftFresh (.readOwn 0 "a")).reads 0).entries,
          id < message.1 := by
      decide
    intro _ message member _ _
    exact behind message member

/-- A message that another replica left, and a later one that is pending for the replica that
reads. -/
def leftBehind : BacklogState where
  group :=
    { pending :=
        [{ id := toLex (1, 0), consumer := "b", deliveredAt := 0,
           message := some (frameFields "first") },
          { id := toLex (3, 0), consumer := "a", deliveredAt := 0,
            message := some (frameFields "second") }]
      fresh := []
      lastId := some (toLex (3, 0))
      ordered := by decide
      within := by
        intro id member
        simp only [List.map_cons, List.map_nil, List.append_nil, List.mem_cons, List.not_mem_nil,
          or_false] at member
        obtain rfl | rfl := member
        · exact ⟨_, rfl, by decide⟩
        · exact ⟨_, rfl, le_refl _⟩ }
  reads := fun _ => noRead
  now := 5000

/-- The replica returns the later message before the earlier one, which it claims. -/
theorem claimed_after_later : ¬Lawful threeEntries leftBehind [.readOwn 0 "a", .claim 0] := by
  intro lawful
  have order := lawful.increasing _ (List.prefix_refl _) 0
  revert order
  decide

end PlugHub.BacklogReads
