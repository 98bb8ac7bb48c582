import PlugHub.Deliveries.BacklogReads
import PlugHub.Deliveries.StreamAppend

/-!
# The cursor of a backlog

Without consumer groups a drain of the backlog of a subscription loads the cursor, reads what stands
behind it in the stream, and emits one frame after the other until one is not acknowledged. Each
acknowledged frame is committed as the cursor, and at the end what was acknowledged is deleted from
the stream. Drains run next to each other, and the cursor and the stream expire.

The cursor never passes an event that waits for its acknowledgement. But where there is no cursor a
read begins at the end of the stream and finds nothing, so nothing is acknowledged and no cursor is
ever committed; and a slow drain commits behind a faster one.
-/

namespace PlugHub.BacklogCursor

open Library
open BacklogReads (Fields AgentEventStreamBacklogEntry parseStreamMessage parsed_streamId idsOf)
open StreamAppend (AgentEventStreamFrame frameFields)

/-! ## Messages -/

/-- The id of a message of the stream. -/
abbrev EntryId := BacklogReads.StreamId

/-- The fields of a frame as its message has them. -/
def messageFields (frame : AgentEventStreamFrame) : Fields :=
  (frameFields frame).flatMap fun field => [field.1, field.2]

/-- A frame with its place in the stream. -/
def entryOf (id : EntryId) (frame : AgentEventStreamFrame) : AgentEventStreamBacklogEntry where
  streamId := id
  eventId := frame.eventId
  eventName := frame.eventName
  emittedAt := frame.emittedAt
  payload := frame.payload

theorem parseStreamMessage_messageFields (id : EntryId) (frame : AgentEventStreamFrame) :
    parseStreamMessage id (messageFields frame) = some (entryOf id frame) := rfl

/-- Read one message. -/
def readMessage (message : EntryId × Fields) : Option AgentEventStreamBacklogEntry :=
  parseStreamMessage message.1 message.2

/-! ## Drains -/

/-- The backlog of one subscription. -/
structure BacklogSettings where
  eventName : String
  backlogMaxEntries : Nat
  positive : 0 < backlogMaxEntries

/-- Where a drain is. -/
inductive DrainStage where
  | idle
  | loads
  | reads (position : Option EntryId)
  | emits (entries : List AgentEventStreamBacklogEntry)
  | awaits (entry : AgentEventStreamBacklogEntry) (rest : List AgentEventStreamBacklogEntry)
  | commits (entry : AgentEventStreamBacklogEntry) (rest : List AgentEventStreamBacklogEntry)
  | finishes

/-- A drain. -/
structure Drain where
  stage : DrainStage
  acked : List EntryId

/-- The stream and the cursor of a subscription, its drains, and what happened. -/
structure CursorState where
  stream : List (EntryId × Fields)
  lastId : EntryId
  cursor : Option EntryId
  drains : Nat → Drain
  subscribed : Bool
  appended : List EntryId
  acknowledged : List EntryId
  committed : List EntryId

/-- What happens. -/
inductive CursorAction where
  | subscribe (drain : Nat)
  | getAgentEventCursor (drain : Nat) (answered : Bool)
  | readAgentEventBacklog (drain : Nat) (answered : Bool)
  | emitFrame (drain : Nat) (subscribed : Bool)
  | acknowledge (drain : Nat) (inTime : Bool)
  | commitAgentEventCursor (drain : Nat) (stored : Bool)
  | ackAgentEventFrames (drain : Nat) (deleted : Bool)
  | append (id : EntryId) (frame : AgentEventStreamFrame)
  | trim (count : Nat)
  | expireStream
  | expireCursor

namespace CursorState

variable (settings : BacklogSettings)

/-- The messages behind a position. -/
def behind (state : CursorState) (position : EntryId) : List (EntryId × Fields) :=
  state.stream.filter fun message => position < message.1

/-- `XREAD` from a position. -/
def xRead (state : CursorState) : Option EntryId → List (EntryId × Fields)
  | none => []
  | some position => (state.behind position).take settings.backlogMaxEntries

/-- `readAgentEventBacklog`: the messages that can be read. -/
def readBacklog (state : CursorState) (position : Option EntryId) :
    List AgentEventStreamBacklogEntry :=
  (state.xRead settings position).filterMap readMessage

/-- A drain goes to a stage. -/
def setStage (state : CursorState) (drain : Nat) (stage : DrainStage) : CursorState :=
  { state with
    drains := fun other =>
      if other = drain then { state.drains drain with stage } else state.drains other }

/-- A drain begins. -/
def subscribe (state : CursorState) (drain : Nat) : CursorState :=
  match (state.drains drain).stage with
  | .idle =>
    { state with
      subscribed := true
      drains := fun other =>
        if other = drain then { stage := .loads, acked := [] } else state.drains other }
  | _ => state

/-- A drain has loaded the cursor; without an answer it begins at the end of the stream. -/
def loadCursor (state : CursorState) (drain : Nat) (answered : Bool) : CursorState :=
  match (state.drains drain).stage with
  | .loads => state.setStage drain (.reads (if answered then state.cursor else none))
  | _ => state

/-- A drain has read; one that has nothing is over. -/
def read (state : CursorState) (drain : Nat) (answered : Bool) : CursorState :=
  match (state.drains drain).stage with
  | .reads position =>
    let entries := if answered then state.readBacklog settings position else []
    state.setStage drain (if entries = [] then .idle else .emits entries)
  | _ => state

/-- One turn of the loop over the entries up to the emit: an entry of another event is skipped. -/
def emitFrame (state : CursorState) (drain : Nat) (subscribed : Bool) : CursorState :=
  match (state.drains drain).stage with
  | .emits [] => state.setStage drain .finishes
  | .emits (entry :: rest) =>
    if subscribed then
      state.setStage drain
        (if entry.eventName = settings.eventName then .awaits entry rest else .emits rest)
    else state.setStage drain .finishes
  | _ => state

/-- An entry is acknowledged. -/
def accept (state : CursorState) (drain : Nat) (entry : AgentEventStreamBacklogEntry)
    (rest : List AgentEventStreamBacklogEntry) : CursorState :=
  { state with
    acknowledged := state.acknowledged ++ [entry.streamId]
    drains := fun other =>
      if other = drain then
        { stage := .commits entry rest
          acked := (state.drains drain).acked ++ [entry.streamId] }
      else state.drains other }

/-- The rest of the turn: an entry is acknowledged, or the loop is left. -/
def acknowledge (state : CursorState) (drain : Nat) (inTime : Bool) : CursorState :=
  match (state.drains drain).stage with
  | .awaits entry rest =>
    if inTime then state.accept drain entry rest else state.setStage drain .finishes
  | _ => state

/-- The cursor is set. -/
def store (state : CursorState) (id : EntryId) : CursorState :=
  { state with cursor := some id, committed := state.committed ++ [id] }

/-- A drain has committed; it goes on when it failed, too. -/
def commitCursor (state : CursorState) (drain : Nat) (stored : Bool) : CursorState :=
  match (state.drains drain).stage with
  | .commits entry rest =>
    (if stored then state.store entry.streamId else state).setStage drain (.emits rest)
  | _ => state

/-- A drain is over; what was acknowledged in it is deleted, if that does not fail. -/
def finish (state : CursorState) (drain : Nat) (deleted : Bool) : CursorState :=
  match (state.drains drain).stage with
  | .finishes =>
    ({ state with
      stream :=
        if deleted then state.stream.filter fun message => !(state.drains drain).acked.contains message.1
        else state.stream }).setStage drain .idle
  | _ => state

/-- The message of a frame is the last of the stream. -/
def push (state : CursorState) (id : EntryId) (frame : AgentEventStreamFrame) : CursorState :=
  { state with
    stream := state.stream ++ [(id, messageFields frame)]
    lastId := id
    appended :=
      if state.subscribed ∧ frame.eventName = settings.eventName then state.appended ++ [id]
      else state.appended }

/-- A frame is appended with a new id. -/
def append (state : CursorState) (id : EntryId) (frame : AgentEventStreamFrame) : CursorState :=
  if state.lastId < id then state.push settings id frame else state

/-- One step. -/
def step (state : CursorState) : CursorAction → CursorState
  | .subscribe drain => state.subscribe drain
  | .getAgentEventCursor drain answered => state.loadCursor drain answered
  | .readAgentEventBacklog drain answered => state.read settings drain answered
  | .emitFrame drain subscribed => state.emitFrame settings drain subscribed
  | .acknowledge drain inTime => state.acknowledge drain inTime
  | .commitAgentEventCursor drain stored => state.commitCursor drain stored
  | .ackAgentEventFrames drain deleted => state.finish drain deleted
  | .append id frame => state.append settings id frame
  | .trim count => { state with stream := state.stream.drop count }
  | .expireStream => { state with stream := [] }
  | .expireCursor => { state with cursor := none }

end CursorState

open CursorState

/-! ## What is asked of a backlog -/

/-- The ids of the messages of the stream. -/
def idsIn (state : CursorState) : List EntryId := state.stream.map Prod.fst

/-- An event of the subscriber waits: it was appended since the subscription started, it is still in
the stream, and it was not acknowledged. -/
def Waits (state : CursorState) (id : EntryId) : Prop :=
  id ∈ state.appended ∧ id ∈ idsIn state ∧ id ∉ state.acknowledged

/-- What the next drain reads. -/
def nextDrain (settings : BacklogSettings) (state : CursorState) :
    List AgentEventStreamBacklogEntry :=
  state.readBacklog settings state.cursor

theorem drain_goes_on_with_nextDrain (settings : BacklogSettings) {state : CursorState}
    {drain : Nat} (idle : (state.drains drain).stage = .idle) :
    ((run (CursorState.step settings) state [.subscribe drain, .getAgentEventCursor drain true,
        .readAgentEventBacklog drain true]).drains drain).stage =
      if nextDrain settings state = [] then .idle else .emits (nextDrain settings state) := by
  have begun : ∃ drains, state.subscribe drain = { state with subscribed := true, drains } ∧
      (drains drain).stage = .loads := by
    unfold CursorState.subscribe
    rw [idle]
    exact ⟨_, rfl, by rw [if_pos rfl]⟩
  obtain ⟨drains, first, loads⟩ := begun
  simp only [run_cons, run_nil, CursorState.step, first, CursorState.loadCursor, loads,
    CursorState.setStage, CursorState.read, if_true]
  rfl

/-- Every waiting event stands behind a position. -/
def Passed (state : CursorState) (position : EntryId) : Prop :=
  ∀ id, Waits state id → position < id

/-- What is asked of a state. -/
structure AtLeastOnce (settings : BacklogSettings) (state : CursorState) : Prop where
  /-- The next drain returns every event that waits, as an event of the subscription. -/
  returned : ∀ id, Waits state id → ∃ entry ∈ nextDrain settings state,
    entry.streamId = id ∧ entry.eventName = settings.eventName
  /-- The cursor has passed no event that waits. -/
  notPast : ∀ cursor, state.cursor = some cursor → Passed state cursor
  /-- The cursors that were committed never go back. -/
  forward : state.committed.Pairwise (· ≤ ·)

/-- A step leaves the cursor where it can carry the events of the subscriber: they are appended
behind a cursor and not too far behind it, the cursor does not expire while one waits, and no drain
commits behind what was committed. -/
def Carries (settings : BacklogSettings) (state : CursorState) : CursorAction → Prop
  | .append id frame => state.lastId < id → state.subscribed = true →
      frame.eventName = settings.eventName → ∃ cursor, state.cursor = some cursor ∧
        (state.behind cursor).length < settings.backlogMaxEntries
  | .expireCursor => ∀ id, ¬Waits state id
  | .commitAgentEventCursor drain true => ∀ entry rest,
      (state.drains drain).stage = .commits entry rest →
        ∀ earlier ∈ state.committed, earlier ≤ entry.streamId
  | _ => True

/-- A state before the subscription, with what was left in the stream and a cursor or none. -/
structure BeforeSubscription (state : CursorState) : Prop where
  ordered : (idsIn state).Pairwise (· < ·)
  within : ∀ id ∈ idsIn state, id ≤ state.lastId
  /-- A cursor is at an id that was given, or before all of them. -/
  cursorWithin : ∀ cursor ∈ state.cursor, cursor ≤ state.lastId
  committed : state.committed = state.cursor.toList
  idle : ∀ drain, (state.drains drain).stage = .idle
  unsubscribed : state.subscribed = false
  nothing : state.appended = []
  unacknowledged : state.acknowledged = []

/-! ## Increasing lists -/

theorem mem_take_iff_of_increasing {α : Type} [LinearOrder α] {list : List α}
    (increasing : list.Pairwise (· < ·)) (count : Nat) (value : α) :
    value ∈ list.take count ↔
      value ∈ list ∧ (list.countP fun other => decide (other < value)) < count := by
  induction list generalizing count with
  | nil => simp
  | cons first rest ih =>
    obtain ⟨least, later⟩ := List.pairwise_cons.mp increasing
    cases count with
    | zero => simp
    | succ count =>
      rw [List.take_succ_cons, List.mem_cons, List.mem_cons, ih later, List.countP_cons]
      by_cases same : value = first
      · have none : (rest.countP fun other => decide (other < value)) = 0 := by
          rw [List.countP_eq_zero]
          intro other member
          rw [decide_eq_true_eq, same]
          exact not_lt_of_gt (least other member)
        have self : ¬first < value := by
          rw [same]
          exact lt_irrefl first
        rw [none, if_neg (by rw [decide_eq_true_eq]; exact self)]
        simp [same]
      · constructor
        · rintro (found | ⟨member, few⟩)
          · exact absurd found same
          · refine ⟨.inr member, ?_⟩
            rw [if_pos (decide_eq_true (least value member))]
            omega
        · rintro ⟨found | member, few⟩
          · exact absurd found same
          · rw [if_pos (decide_eq_true (least value member))] at few
            exact .inr ⟨member, by omega⟩

/-! ## What drains hold -/

section Invariant

variable (settings : BacklogSettings)

/-- A position was given, and every waiting event stands behind it. -/
def Reached (state : CursorState) (position : EntryId) : Prop :=
  position ≤ state.lastId ∧ Passed state position

/-- A drain has every waiting event up to its last entry. -/
structure Covers (state : CursorState) (entries : List AgentEventStreamBacklogEntry) : Prop where
  increasing : (idsOf entries).Pairwise (· < ·)
  within : ∀ id ∈ idsOf entries, id ≤ state.lastId
  events : ∀ entry ∈ entries, entry.streamId ∈ state.appended →
    entry.eventName = settings.eventName
  complete : ∀ entry ∈ entries, ∀ id, Waits state id → id ≤ entry.streamId → id ∈ idsOf entries

/-- What holds of a drain. -/
def StageSound (state : CursorState) : DrainStage → Prop
  | .reads position => ∀ id ∈ position, id ∈ state.committed
  | .emits entries => Covers settings state entries
  | .awaits entry rest => Covers settings state (entry :: rest)
  | .commits entry rest => Reached state entry.streamId ∧ Covers settings state rest
  | _ => True

/-- What holds in every state. -/
structure Sound (state : CursorState) : Prop where
  increasing : (idsIn state).Pairwise (· < ·)
  within : ∀ id ∈ idsIn state, id ≤ state.lastId
  given : ∀ id ∈ state.appended, id ≤ state.lastId
  acknowledged : ∀ id ∈ state.acknowledged, id ≤ state.lastId
  frames : ∀ message ∈ state.stream, message.1 ∈ state.appended →
    ∃ entry, parseStreamMessage message.1 message.2 = some entry ∧
      entry.eventName = settings.eventName
  reached : ∀ id ∈ state.committed, Reached state id
  cursor : ∀ id ∈ state.cursor, id ∈ state.committed
  drains : ∀ drain, StageSound settings state (state.drains drain).stage

/-! ## Steps that append and commit nothing -/

/-- Nothing is appended and nothing is committed. -/
structure Keeps (before after : CursorState) : Prop where
  stream : after.stream.Sublist before.stream
  lastId : after.lastId = before.lastId
  appended : after.appended = before.appended
  acknowledged : ∀ id ∈ before.acknowledged, id ∈ after.acknowledged
  committed : after.committed = before.committed

variable {settings} {before after state : CursorState}

theorem Keeps.refl (state : CursorState) : Keeps state state where
  stream := List.Sublist.refl state.stream
  lastId := rfl
  appended := rfl
  acknowledged := fun _ member => member
  committed := rfl

theorem keeps_setStage (state : CursorState) (drain : Nat) (stage : DrainStage) :
    Keeps state (state.setStage drain stage) where
  stream := List.Sublist.refl state.stream
  lastId := rfl
  appended := rfl
  acknowledged := fun _ member => member
  committed := rfl

variable {id : EntryId}

theorem Keeps.waits (keeps : Keeps before after) (waits : Waits after id) :
    Waits before id := by
  obtain ⟨appended, present, unacknowledged⟩ := waits
  refine ⟨keeps.appended ▸ appended, ?_, fun old => unacknowledged (keeps.acknowledged id old)⟩
  exact (keeps.stream.map Prod.fst).subset present

theorem Keeps.reached (keeps : Keeps before after) (reached : Reached before id) :
    Reached after id :=
  ⟨keeps.lastId ▸ reached.1, fun other waits => reached.2 other (keeps.waits waits)⟩

theorem Keeps.covers (keeps : Keeps before after) {entries : List AgentEventStreamBacklogEntry}
    (covers : Covers settings before entries) : Covers settings after entries where
  increasing := covers.increasing
  within := by
    rw [keeps.lastId]
    exact covers.within
  events := by
    rw [keeps.appended]
    exact covers.events
  complete := fun entry member id waits => covers.complete entry member id (keeps.waits waits)

theorem Keeps.stageSound (keeps : Keeps before after) {stage : DrainStage}
    (sound : StageSound settings before stage) : StageSound settings after stage := by
  cases stage with
  | idle | loads | finishes => trivial
  | reads position =>
    intro id member
    rw [keeps.committed]
    exact sound id member
  | emits entries | awaits entry rest => exact keeps.covers sound
  | commits entry rest => exact ⟨keeps.reached sound.1, keeps.covers sound.2⟩

theorem Sound.of_keeps (sound : Sound settings before) (keeps : Keeps before after)
    (cursor : ∀ id ∈ after.cursor, id ∈ before.cursor)
    (acknowledged : ∀ id ∈ after.acknowledged, id ∈ before.acknowledged ∨ id ≤ before.lastId)
    (drains : ∀ drain, (after.drains drain).stage = (before.drains drain).stage ∨
      StageSound settings after (after.drains drain).stage) : Sound settings after where
  increasing := sound.increasing.sublist (keeps.stream.map Prod.fst)
  within := fun id member => by
    rw [keeps.lastId]
    exact sound.within id ((keeps.stream.map Prod.fst).subset member)
  given := fun id member => by
    rw [keeps.appended] at member
    rw [keeps.lastId]
    exact sound.given id member
  acknowledged := fun id member => by
    rw [keeps.lastId]
    exact (acknowledged id member).elim (sound.acknowledged id) fun given => given
  frames := fun message member owed => by
    rw [keeps.appended] at owed
    exact sound.frames message (keeps.stream.subset member) owed
  reached := fun id member => by
    rw [keeps.committed] at member
    exact keeps.reached (sound.reached id member)
  cursor := fun id member => by
    rw [keeps.committed]
    exact sound.cursor id (cursor id member)
  drains := fun drain => by
    cases drains drain with
    | inl same =>
      rw [same]
      exact keeps.stageSound (sound.drains drain)
    | inr holds => exact holds

theorem Sound.setStage (sound : Sound settings state) {drain : Nat} {stage : DrainStage}
    (holds : StageSound settings state stage) : Sound settings (state.setStage drain stage) := by
  have keeps := keeps_setStage state drain stage
  refine sound.of_keeps keeps (fun _ member => member) (fun _ member => .inl member) fun other => ?_
  by_cases same : other = drain
  · right
    have changed : ((state.setStage drain stage).drains other).stage = stage := by
      simp only [CursorState.setStage, if_pos same]
    rw [changed]
    exact keeps.stageSound holds
  · left
    simp only [CursorState.setStage, if_neg same]

/-! ## Reads -/

/-- How many messages stand between two positions. -/
def between (state : CursorState) (first second : EntryId) : Nat :=
  (idsIn state).countP fun other => decide (first < other ∧ other < second)

theorem map_behind (state : CursorState) (position : EntryId) :
    (state.behind position).map Prod.fst =
      (idsIn state).filter fun id => decide (position < id) := by
  unfold behind idsIn
  rw [List.filter_map]
  rfl

theorem mem_xRead_iff (sound : Sound settings state) (position id : EntryId) :
    id ∈ (state.xRead settings (some position)).map Prod.fst ↔
      id ∈ idsIn state ∧ position < id ∧
        between state position id < settings.backlogMaxEntries := by
  have ordered := sound.increasing.filter fun id => decide (position < id)
  unfold xRead
  rw [List.map_take, map_behind, mem_take_iff_of_increasing ordered, List.mem_filter,
    decide_eq_true_eq, List.countP_filter, and_assoc]
  have same : (idsIn state).countP (fun other => decide (other < id) && decide (position < other)) =
      between state position id := by
    unfold between
    congr 1
    funext other
    rw [Bool.and_comm, Bool.decide_and]
  rw [same]

theorem returned_iff (sound : Sound settings state) (waits : Waits state id) :
    (∃ entry ∈ nextDrain settings state,
        entry.streamId = id ∧ entry.eventName = settings.eventName) ↔
      ∃ cursor, state.cursor = some cursor ∧ cursor < id ∧
        between state cursor id < settings.backlogMaxEntries := by
  unfold nextDrain readBacklog
  cases place : state.cursor with
  | none =>
    constructor
    · rintro ⟨entry, member, _⟩
      cases member
    · rintro ⟨cursor, same, _⟩
      cases same
  | some cursor =>
    constructor
    · rintro ⟨entry, member, rfl, _⟩
      obtain ⟨message, present, parsed⟩ := List.mem_filterMap.mp member
      have own : entry.streamId = message.1 := parsed_streamId parsed
      have read := (mem_xRead_iff sound cursor entry.streamId).mp
        (own ▸ List.mem_map_of_mem (f := Prod.fst) present)
      exact ⟨cursor, rfl, read.2⟩
    · rintro ⟨other, same, later, few⟩
      cases same
      have read := (mem_xRead_iff sound cursor id).mpr ⟨waits.2.1, later, few⟩
      obtain ⟨message, present, rfl⟩ := List.mem_map.mp read
      have kept : message ∈ state.stream :=
        (List.mem_filter.mp (List.mem_of_mem_take present)).1
      obtain ⟨entry, parsed, name⟩ := sound.frames message kept waits.1
      exact ⟨entry, List.mem_filterMap.mpr ⟨message, present, parsed⟩, parsed_streamId parsed, name⟩

theorem idsOf_parsed (messages : List (EntryId × Fields)) :
    (idsOf (messages.filterMap readMessage)).Sublist
      (messages.map Prod.fst) := by
  induction messages with
  | nil => exact List.Sublist.refl _
  | cons message rest ih =>
    cases parsed : readMessage message with
    | none =>
      rw [List.filterMap_cons_none parsed]
      exact ih.cons _
    | some entry =>
      rw [List.filterMap_cons_some parsed, idsOf, List.map_cons, parsed_streamId parsed]
      exact ih.cons_cons _

/-- A read from a position that is reached has every waiting event up to its last entry. -/
theorem covers_readBacklog (sound : Sound settings state) (position : Option EntryId)
    (reached : ∀ id ∈ position, id ∈ state.committed) :
    Covers settings state (state.readBacklog settings position) := by
  cases position with
  | none =>
    refine ⟨List.Pairwise.nil, ?_, ?_, ?_⟩ <;> intro other member <;> cases member
  | some position =>
    have passed := (sound.reached position (reached position rfl)).2
    have origin : ∀ entry ∈ state.readBacklog settings (some position), ∃ message ∈ state.stream,
        parseStreamMessage message.1 message.2 = some entry ∧
          entry.streamId ∈ (state.xRead settings (some position)).map Prod.fst := by
      intro entry member
      obtain ⟨message, present, parsed⟩ := List.mem_filterMap.mp member
      refine ⟨message, (List.mem_filter.mp (List.mem_of_mem_take present)).1, parsed, ?_⟩
      rw [parsed_streamId parsed]
      exact List.mem_map_of_mem present
    have inside : (idsOf (state.readBacklog settings (some position))).Sublist
        ((state.xRead settings (some position)).map Prod.fst) := idsOf_parsed _
    have ordered : ((state.xRead settings (some position)).map Prod.fst).Sublist (idsIn state) :=
      ((List.take_sublist _ _).trans List.filter_sublist).map Prod.fst
    refine ⟨sound.increasing.sublist (inside.trans ordered), ?_, ?_, ?_⟩
    · intro id member
      exact sound.within id ((inside.trans ordered).subset member)
    · intro entry member owed
      obtain ⟨message, present, parsed, _⟩ := origin entry member
      rw [parsed_streamId parsed] at owed
      obtain ⟨other, again, name⟩ := sound.frames message present owed
      rw [parsed] at again
      exact Option.some.inj again ▸ name
    · intro entry member id waits before
      obtain ⟨message, _, _, read⟩ := origin entry member
      have few := ((mem_xRead_iff sound position entry.streamId).mp read).2.2
      have fewer : between state position id ≤ between state position entry.streamId := by
        apply List.countP_mono_left
        intro other _ both
        rw [decide_eq_true_eq] at both ⊢
        exact ⟨both.1, lt_of_lt_of_le both.2 before⟩
      have found := (mem_xRead_iff sound position id).mpr
        ⟨waits.2.1, passed id waits, lt_of_le_of_lt fewer few⟩
      obtain ⟨own, present, rfl⟩ := List.mem_map.mp found
      have kept : own ∈ state.stream := (List.mem_filter.mp (List.mem_of_mem_take present)).1
      obtain ⟨parsedEntry, parsed, _⟩ := sound.frames own kept waits.1
      refine List.mem_map.mpr ⟨parsedEntry, ?_, parsed_streamId parsed⟩
      exact List.mem_filterMap.mpr ⟨own, present, parsed⟩

/-! ## Steps -/

variable {entry : AgentEventStreamBacklogEntry} {rest : List AgentEventStreamBacklogEntry}

theorem Covers.tail (covers : Covers settings state (entry :: rest))
    (settled : ¬Waits state entry.streamId) : Covers settings state rest where
  increasing := (List.pairwise_cons.mp covers.increasing).2
  within := fun id member => covers.within id (List.mem_cons_of_mem _ member)
  events := fun other member => covers.events other (List.mem_cons_of_mem entry member)
  complete := by
    intro other member id waits before
    cases List.mem_cons.mp (covers.complete other (List.mem_cons_of_mem entry member) id waits
      before) with
    | inl same => exact absurd (same ▸ waits) settled
    | inr later => exact later

theorem Covers.passed_first (covers : Covers settings state (entry :: rest))
    (waits : Waits state id) (other : id ≠ entry.streamId) :
    entry.streamId < id := by
  by_contra early
  have before : id ≤ entry.streamId := le_of_not_gt early
  have least := (List.pairwise_cons.mp covers.increasing).1
  cases List.mem_cons.mp (covers.complete entry List.mem_cons_self id waits before) with
  | inl same => exact other same
  | inr later => exact early (least id later)

theorem subscribe_keeps (state : CursorState) (drain : Nat) :
    Keeps state (state.subscribe drain) := by
  unfold CursorState.subscribe
  split
  · exact ⟨List.Sublist.refl _, rfl, rfl, fun _ member => member, rfl⟩
  · exact Keeps.refl state

section

variable (sound : Sound settings state)

include sound

theorem Sound.subscribe (drain : Nat) :
    Sound settings (state.subscribe drain) := by
  refine sound.of_keeps (subscribe_keeps state drain) ?_ ?_ ?_
  · unfold CursorState.subscribe
    split <;> exact fun _ member => member
  · unfold CursorState.subscribe
    split <;> exact fun _ member => .inl member
  · intro other
    unfold CursorState.subscribe
    split
    · by_cases same : other = drain
      · right
        simp only [if_pos same]
        trivial
      · left
        simp only [if_neg same]
    · exact .inl rfl

theorem Sound.loadCursor (drain : Nat) (answered : Bool) :
    Sound settings (state.loadCursor drain answered) := by
  unfold CursorState.loadCursor
  split
  · apply sound.setStage
    intro id member
    split at member
    · exact sound.cursor id member
    · cases member
  · exact sound

theorem Sound.read (drain : Nat) (answered : Bool) :
    Sound settings (state.read settings drain answered) := by
  unfold CursorState.read
  split
  · rename_i position stage
    have reached : StageSound settings state (.reads position) := stage ▸ sound.drains drain
    apply sound.setStage
    cases answered with
    | false => trivial
    | true =>
      by_cases nothing : state.readBacklog settings position = []
      · simp only [if_true, nothing]
        trivial
      · simp only [if_true, if_neg nothing]
        exact covers_readBacklog sound position reached
  · exact sound

theorem Sound.emitFrame (drain : Nat) (subscribed : Bool) :
    Sound settings (state.emitFrame settings drain subscribed) := by
  unfold CursorState.emitFrame
  split
  · exact sound.setStage trivial
  · rename_i entry rest stage
    have covers : StageSound settings state (.emits (entry :: rest)) := stage ▸ sound.drains drain
    split
    · apply sound.setStage
      split
      · exact covers
      · rename_i foreign
        exact covers.tail fun waits =>
          foreign (covers.events entry List.mem_cons_self waits.1)
    · exact sound.setStage trivial
  · exact sound

end

theorem accept_keeps (state : CursorState) (drain : Nat) (entry : AgentEventStreamBacklogEntry)
    (rest : List AgentEventStreamBacklogEntry) : Keeps state (state.accept drain entry rest) where
  stream := List.Sublist.refl state.stream
  lastId := rfl
  appended := rfl
  acknowledged := fun _ member => List.mem_append_left _ member
  committed := rfl

theorem Sound.accept (sound : Sound settings state) (drain : Nat)
    (covers : Covers settings state (entry :: rest)) :
    Sound settings (state.accept drain entry rest) := by
  have keeps := accept_keeps state drain entry rest
  have settled : ¬Waits (state.accept drain entry rest) entry.streamId := by
    rintro ⟨_, _, unacknowledged⟩
    exact unacknowledged (List.mem_append_right _ List.mem_cons_self)
  have given : entry.streamId ≤ state.lastId := covers.within _ List.mem_cons_self
  have acknowledged : ∀ id ∈ (state.accept drain entry rest).acknowledged,
      id ∈ state.acknowledged ∨ id ≤ state.lastId := by
    intro id member
    cases List.mem_append.mp member with
    | inl old => exact .inl old
    | inr last => exact .inr (List.mem_singleton.mp last ▸ given)
  refine sound.of_keeps keeps (fun _ member => member) acknowledged fun other => ?_
  by_cases same : other = drain
  · right
    have changed : ((state.accept drain entry rest).drains other).stage = .commits entry rest := by
      simp only [CursorState.accept, if_pos same]
    rw [changed]
    refine ⟨⟨given, fun id waits => ?_⟩,
      (keeps.covers covers).tail settled⟩
    have different : id ≠ entry.streamId := by
      intro itself
      exact settled (itself ▸ waits)
    exact covers.passed_first (keeps.waits waits) different
  · left
    simp only [CursorState.accept, if_neg same]

theorem acknowledge_keeps (state : CursorState) (drain : Nat) (inTime : Bool) :
    Keeps state (state.acknowledge drain inTime) := by
  unfold CursorState.acknowledge
  split
  · split
    · exact accept_keeps state drain _ _
    · exact keeps_setStage state drain _
  · exact Keeps.refl state

section

variable (sound : Sound settings state)

include sound

theorem Sound.acknowledge (drain : Nat) (inTime : Bool) :
    Sound settings (state.acknowledge drain inTime) := by
  unfold CursorState.acknowledge
  split
  · rename_i entry rest stage
    have covers : StageSound settings state (.awaits entry rest) := stage ▸ sound.drains drain
    split
    · exact sound.accept drain covers
    · exact sound.setStage trivial
  · exact sound

theorem Sound.store (reached : Reached state id) :
    Sound settings (state.store id) :=
  { sound with
    reached := forall_mem_concat sound.reached reached
    cursor := fun other member => by
      rw [← Option.some.inj member]
      exact List.mem_append_right _ List.mem_cons_self
    drains := fun drain => by
      have holds := sound.drains drain
      change StageSound settings (state.store id) (state.drains drain).stage
      cases stage : (state.drains drain).stage with
      | idle | loads | finishes => trivial
      | reads position =>
        rw [stage] at holds
        exact fun other member => List.mem_append_left _ (holds other member)
      | emits entries | awaits entry rest =>
        rw [stage] at holds
        exact ⟨holds.increasing, holds.within, holds.events, holds.complete⟩
      | commits entry rest =>
        rw [stage] at holds
        exact ⟨holds.1, holds.2.increasing, holds.2.within, holds.2.events, holds.2.complete⟩ }

theorem Sound.commits {drain : Nat}
    (stage : (state.drains drain).stage = .commits entry rest) :
    Reached state entry.streamId ∧ Covers settings state rest := by
  have holds := sound.drains drain
  rw [stage] at holds
  exact holds

theorem Sound.commitCursor (drain : Nat) (stored : Bool) :
    Sound settings (state.commitCursor drain stored) := by
  unfold CursorState.commitCursor
  split
  · rename_i entry rest stage
    obtain ⟨reached, covers⟩ := sound.commits stage
    split
    · refine (sound.store reached).setStage ?_
      exact ⟨covers.increasing, covers.within, covers.events, covers.complete⟩
    · exact sound.setStage covers
  · exact sound

end

theorem finish_keeps (state : CursorState) (drain : Nat) (deleted : Bool) :
    Keeps state (state.finish drain deleted) := by
  unfold CursorState.finish
  split
  · refine ⟨?_, rfl, rfl, fun _ member => member, rfl⟩
    change (if deleted then _ else _ : List _).Sublist _
    split
    · exact List.filter_sublist
    · exact List.Sublist.refl _
  · exact Keeps.refl state

theorem Sound.finish (sound : Sound settings state) (drain : Nat) (deleted : Bool) :
    Sound settings (state.finish drain deleted) := by
  refine sound.of_keeps (finish_keeps state drain deleted) ?_ ?_ ?_
  · unfold CursorState.finish
    split <;> exact fun _ member => member
  · unfold CursorState.finish
    split <;> exact fun _ member => .inl member
  · intro other
    unfold CursorState.finish
    split
    · by_cases same : other = drain
      · right
        simp only [CursorState.setStage, if_pos same]
        trivial
      · left
        simp only [CursorState.setStage, if_neg same]
    · exact .inl rfl

theorem idsIn_push (state : CursorState) (id : EntryId) (frame : AgentEventStreamFrame) :
    idsIn (state.push settings id frame) = idsIn state ++ [id] := by
  unfold idsIn CursorState.push
  rw [List.map_append]
  rfl

theorem mem_appended_push {id other : EntryId} {frame : AgentEventStreamFrame} :
    other ∈ (state.push settings id frame).appended ↔
      other ∈ state.appended ∨
        other = id ∧ state.subscribed = true ∧ frame.eventName = settings.eventName := by
  change other ∈ (if _ then _ else _ : List EntryId) ↔ _
  split
  · rename_i own
    rw [List.mem_append, List.mem_singleton]
    simp only [own, and_self, and_true]
  · rename_i foreign
    constructor
    · exact .inl
    · rintro (old | ⟨_, own⟩)
      · exact old
      · exact absurd own foreign

section

variable (sound : Sound settings state)

include sound

variable {frame : AgentEventStreamFrame}

theorem waits_push {id other : EntryId} (fresh : state.lastId < id) :
    Waits (state.push settings id frame) other → Waits state other ∨
      other = id ∧ state.subscribed = true ∧ frame.eventName = settings.eventName := by
  rintro ⟨appended, present, unacknowledged⟩
  cases mem_appended_push.mp appended with
  | inr new => exact .inr new
  | inl old =>
    have early : other < id := lt_of_le_of_lt (sound.given other old) fresh
    rw [idsIn_push, List.mem_append, List.mem_singleton] at present
    exact .inl ⟨old, present.resolve_right (ne_of_lt early), unacknowledged⟩

theorem Sound.reached_push {id position : EntryId}
    (fresh : state.lastId < id) (reached : Reached state position) :
    Reached (state.push settings id frame) position := by
  refine ⟨le_of_lt (lt_of_le_of_lt reached.1 fresh), fun other waits => ?_⟩
  rcases waits_push sound fresh waits with old | ⟨rfl, _⟩
  · exact reached.2 other old
  · exact lt_of_le_of_lt reached.1 fresh

theorem Sound.covers_push (fresh : state.lastId < id)
    {entries : List AgentEventStreamBacklogEntry} (covers : Covers settings state entries) :
    Covers settings (state.push settings id frame) entries where
  increasing := covers.increasing
  within := fun other member => le_of_lt (lt_of_le_of_lt (covers.within other member) fresh)
  events := by
    intro entry member owed
    have early := covers.within entry.streamId (List.mem_map_of_mem member)
    rcases mem_appended_push.mp owed with old | ⟨same, _⟩
    · exact covers.events entry member old
    · exact absurd (same ▸ early) (not_le_of_gt fresh)
  complete := by
    intro entry member other waits before
    have early := covers.within entry.streamId (List.mem_map_of_mem member)
    rcases waits_push sound fresh waits with old | ⟨rfl, _⟩
    · exact covers.complete entry member other old before
    · exact absurd (le_trans before early) (not_le_of_gt fresh)

/-- The invariant goes on when a message is appended: its id is behind everything. -/
theorem Sound.push (fresh : state.lastId < id)
    (frame : AgentEventStreamFrame) : Sound settings (state.push settings id frame) where
  increasing := by
    rw [idsIn_push, List.pairwise_append]
    refine ⟨sound.increasing, List.pairwise_singleton _ _, fun earlier member last same => ?_⟩
    rw [List.mem_singleton.mp same]
    exact lt_of_le_of_lt (sound.within earlier member) fresh
  within := fun other member => by
    rw [idsIn_push, List.mem_append, List.mem_singleton] at member
    cases member with
    | inl old => exact le_of_lt (lt_of_le_of_lt (sound.within other old) fresh)
    | inr new => exact le_of_eq new
  given := fun other member => by
    rcases mem_appended_push.mp member with old | ⟨new, _⟩
    · exact le_of_lt (lt_of_le_of_lt (sound.given other old) fresh)
    · exact le_of_eq new
  acknowledged := fun other member =>
    le_of_lt (lt_of_le_of_lt (sound.acknowledged other member) fresh)
  frames := fun message member owed => by
    cases List.mem_append.mp member with
    | inl old =>
      have given := sound.within message.1 (List.mem_map_of_mem old)
      rcases mem_appended_push.mp owed with before | ⟨new, _⟩
      · exact sound.frames message old before
      · exact absurd (new ▸ given) (not_le_of_gt fresh)
    | inr last =>
      rw [List.mem_singleton.mp last] at owed ⊢
      rcases mem_appended_push.mp owed with before | ⟨_, _, name⟩
      · exact absurd (sound.given id before) (not_le_of_gt fresh)
      · exact ⟨entryOf id frame, parseStreamMessage_messageFields id frame, name⟩
  reached := fun other member => sound.reached_push fresh (sound.reached other member)
  cursor := sound.cursor
  drains := fun drain => by
    have holds := sound.drains drain
    change StageSound settings (state.push settings id frame) (state.drains drain).stage
    cases stage : (state.drains drain).stage with
    | idle | loads | finishes => trivial
    | reads position =>
      rw [stage] at holds
      exact holds
    | emits entries | awaits entry rest =>
      rw [stage] at holds
      exact sound.covers_push fresh holds
    | commits entry rest =>
      rw [stage] at holds
      exact ⟨sound.reached_push fresh holds.1, sound.covers_push fresh holds.2⟩

theorem Sound.append (id : EntryId) (frame : AgentEventStreamFrame) :
    Sound settings (state.append settings id frame) := by
  unfold CursorState.append
  split
  · rename_i fresh
    exact sound.push fresh frame
  · exact sound

/-- Every action keeps the cursor sound. -/
theorem Sound.step (action : CursorAction) :
    Sound settings (state.step settings action) := by
  cases action with
  | subscribe drain => exact sound.subscribe drain
  | getAgentEventCursor drain answered => exact sound.loadCursor drain answered
  | readAgentEventBacklog drain answered => exact sound.read drain answered
  | emitFrame drain subscribed => exact sound.emitFrame drain subscribed
  | acknowledge drain inTime => exact sound.acknowledge drain inTime
  | commitAgentEventCursor drain stored => exact sound.commitCursor drain stored
  | ackAgentEventFrames drain deleted => exact sound.finish drain deleted
  | append id frame => exact sound.append id frame
  | trim count =>
    refine sound.of_keeps ⟨List.drop_sublist count state.stream, rfl, rfl, fun _ member => member,
      rfl⟩ (fun _ member => member) (fun _ member => .inl member) fun _ => .inl rfl
  | expireStream =>
    refine sound.of_keeps ⟨List.nil_sublist state.stream, rfl, rfl, fun _ member => member, rfl⟩
      (fun _ member => member) (fun _ member => .inl member) fun _ => .inl rfl
  | expireCursor =>
    refine sound.of_keeps ⟨List.Sublist.refl state.stream, rfl, rfl, fun _ member => member, rfl⟩
      ?_ (fun _ member => .inl member) fun _ => .inl rfl
    intro id member
    cases member

end

theorem BeforeSubscription.sound (fresh : BeforeSubscription state) : Sound settings state where
  increasing := fresh.ordered
  within := fresh.within
  given := by
    rw [fresh.nothing]
    exact fun _ member => absurd member List.not_mem_nil
  acknowledged := by
    rw [fresh.unacknowledged]
    exact fun _ member => absurd member List.not_mem_nil
  frames := by
    rw [fresh.nothing]
    exact fun _ _ member => absurd member List.not_mem_nil
  reached := by
    intro id member
    rw [fresh.committed, Option.mem_toList] at member
    refine ⟨fresh.cursorWithin id member, ?_⟩
    rintro other ⟨appended, _⟩
    rw [fresh.nothing] at appended
    cases appended
  cursor := by
    intro id member
    rw [fresh.committed, Option.mem_toList]
    exact member
  drains := by
    intro drain
    rw [fresh.idle drain]
    trivial

theorem BeforeSubscription.atLeastOnce (fresh : BeforeSubscription state) :
    AtLeastOnce settings state where
  returned := by
    rintro id ⟨appended, _⟩
    rw [fresh.nothing] at appended
    cases appended
  notPast := by
    rintro cursor _ id ⟨appended, _⟩
    rw [fresh.nothing] at appended
    cases appended
  forward := by
    rw [fresh.committed]
    cases state.cursor with
    | none => exact List.Pairwise.nil
    | some cursor => exact List.pairwise_singleton _ _

/-! ## At least once -/

theorem AtLeastOnce.of_keeps (sound : Sound settings before) (later : Sound settings after)
    (keeps : Keeps before after) (cursor : after.cursor = before.cursor)
    (fine : AtLeastOnce settings before) : AtLeastOnce settings after where
  returned := by
    intro id waits
    obtain ⟨position, place, early, few⟩ :=
      (returned_iff sound (keeps.waits waits)).mp (fine.returned id (keeps.waits waits))
    refine (returned_iff later waits).mpr ⟨position, cursor.trans place, early, ?_⟩
    exact lt_of_le_of_lt ((keeps.stream.map Prod.fst).countP_le) few
  notPast := by
    intro position place id waits
    exact fine.notPast position (cursor ▸ place) id (keeps.waits waits)
  forward := by
    rw [keeps.committed]
    exact fine.forward

theorem between_push (state : CursorState) {id other : EntryId} (frame : AgentEventStreamFrame)
    (position : EntryId) (before : other ≤ id) :
    between (state.push settings id frame) position other = between state position other := by
  unfold between
  rw [idsIn_push, List.countP_append]
  have none : ([id].countP fun one => decide (position < one ∧ one < other)) = 0 := by
    rw [List.countP_eq_zero]
    intro one member
    rw [List.mem_singleton.mp member, decide_eq_true_eq]
    exact fun both => not_lt_of_ge before both.2
  rw [none, Nat.add_zero]

section

variable (sound : Sound settings state)

include sound

theorem between_fresh (fresh : state.lastId < id)
    (position : EntryId) : between state position id = (state.behind position).length := by
  have lengths : (state.behind position).length =
      ((state.behind position).map Prod.fst).length := by
    rw [List.length_map]
  rw [lengths, map_behind, ← List.countP_eq_length_filter]
  unfold between
  apply List.countP_congr
  intro other member
  rw [decide_eq_true_eq, decide_eq_true_eq]
  have early : other < id := lt_of_le_of_lt (sound.within other member) fresh
  exact ⟨fun both => both.1, fun behind => ⟨behind, early⟩⟩

theorem Sound.cursor_lt {cursor id : EntryId}
    (place : state.cursor = some cursor) (fresh : state.lastId < id) : cursor < id :=
  lt_of_le_of_lt (sound.reached cursor (sound.cursor cursor place)).1 fresh

theorem append_atLeastOnce_iff (fine : AtLeastOnce settings state)
    (id : EntryId) (frame : AgentEventStreamFrame) :
    Carries settings state (.append id frame) ↔
      AtLeastOnce settings (state.append settings id frame) := by
  unfold CursorState.append
  by_cases fresh : state.lastId < id
  · rw [if_pos fresh]
    have later := sound.push fresh frame
    constructor
    · intro carries
      refine ⟨fun other waits => (returned_iff later waits).mpr ?_, ?_, fine.forward⟩
      · rcases waits_push sound fresh waits with old | ⟨rfl, subscribed, name⟩
        · obtain ⟨cursor, place, early, few⟩ :=
            (returned_iff sound old).mp (fine.returned other old)
          have before : other ≤ id := le_of_lt (lt_of_le_of_lt (sound.given other old.1) fresh)
          refine ⟨cursor, place, early, ?_⟩
          rw [between_push state frame cursor before]
          exact few
        · obtain ⟨cursor, place, few⟩ := carries fresh subscribed name
          refine ⟨cursor, place, sound.cursor_lt place fresh, ?_⟩
          rw [between_push state frame cursor le_rfl, between_fresh sound fresh]
          exact few
      · intro cursor place
        exact (sound.reached_push fresh (sound.reached cursor (sound.cursor cursor place))).2
    · intro lawful _ subscribed name
      have waits : Waits (state.push settings id frame) id := by
        refine ⟨mem_appended_push.mpr (.inr ⟨rfl, subscribed, name⟩), ?_, fun acknowledged => ?_⟩
        · rw [idsIn_push]
          exact List.mem_append_right _ List.mem_cons_self
        · exact not_le_of_gt fresh (sound.acknowledged id acknowledged)
      obtain ⟨cursor, place, _, few⟩ := (returned_iff later waits).mp (lawful.returned id waits)
      rw [between_push state frame cursor le_rfl, between_fresh sound fresh] at few
      exact ⟨cursor, place, few⟩
  · rw [if_neg fresh]
    exact ⟨fun _ => fine, fun _ given => absurd given fresh⟩

/-- A commit loses nothing when it is not behind an earlier one. -/
theorem commit_atLeastOnce_iff (fine : AtLeastOnce settings state) (drain : Nat) :
    Carries settings state (.commitAgentEventCursor drain true) ↔
      AtLeastOnce settings (state.commitCursor drain true) := by
  by_cases committing : ∃ entry rest, (state.drains drain).stage = .commits entry rest
  · obtain ⟨entry, rest, stage⟩ := committing
    obtain ⟨reached, covers⟩ := sound.commits stage
    have stored := sound.store reached
    have next := sound.commitCursor drain true
    have effect : state.commitCursor drain true =
        (state.store entry.streamId).setStage drain (.emits rest) := by
      simp only [CursorState.commitCursor, stage, if_true]
    rw [effect] at next ⊢
    constructor
    · intro carries
      refine AtLeastOnce.of_keeps stored next (keeps_setStage _ drain _) rfl ⟨?_, ?_, ?_⟩
      · intro id waits
        have old : Waits state id := waits
        obtain ⟨cursor, place, _, few⟩ := (returned_iff sound old).mp (fine.returned id old)
        have behind : cursor ≤ entry.streamId :=
          carries entry rest stage cursor (sound.cursor cursor place)
        have fewer : between state entry.streamId id ≤ between state cursor id := by
          apply List.countP_mono_left
          intro other _ both
          rw [decide_eq_true_eq] at both ⊢
          exact ⟨lt_of_le_of_lt behind both.1, both.2⟩
        refine (returned_iff stored waits).mpr ⟨entry.streamId, rfl, reached.2 id old, ?_⟩
        exact lt_of_le_of_lt fewer few
      · intro cursor place
        cases place
        exact reached.2
      · refine List.pairwise_append.mpr ⟨fine.forward, List.pairwise_singleton _ _, ?_⟩
        intro earlier member last same
        rw [List.mem_singleton.mp same]
        exact carries entry rest stage earlier member
    · intro lawful other later same earlier member
      rw [stage] at same
      cases same
      have sorted : (state.committed ++ [entry.streamId]).Pairwise (· ≤ ·) := lawful.forward
      exact (List.pairwise_append.mp sorted).2.2 earlier member _ List.mem_cons_self
  · have same : state.commitCursor drain true = state := by
      unfold CursorState.commitCursor
      split
      · rename_i entry rest stage
        exact absurd ⟨entry, rest, stage⟩ committing
      · rfl
    rw [same]
    exact ⟨fun _ => fine, fun _ entry rest stage => absurd ⟨entry, rest, stage⟩ committing⟩

theorem expire_atLeastOnce_iff (fine : AtLeastOnce settings state) :
    Carries settings state .expireCursor ↔
      AtLeastOnce settings (state.step settings .expireCursor) := by
  have later := sound.step .expireCursor
  constructor
  · intro nothing
    refine ⟨fun id waits => absurd waits (nothing id), ?_, fine.forward⟩
    intro cursor place
    cases place
  · intro lawful id waits
    obtain ⟨cursor, place, _⟩ := (returned_iff later waits).mp (lawful.returned id waits)
    cases place

end

/-- Other steps append and commit nothing and leave the cursor. -/
theorem step_keeps (state : CursorState) (action : CursorAction) :
    (∃ id frame, action = .append id frame) ∨
      (∃ drain, action = .commitAgentEventCursor drain true) ∨ action = .expireCursor ∨
        Carries settings state action ∧ Keeps state (state.step settings action) ∧
          (state.step settings action).cursor = state.cursor := by
  cases action with
  | append id frame => exact .inl ⟨id, frame, rfl⟩
  | expireCursor => exact .inr (.inr (.inl rfl))
  | commitAgentEventCursor drain stored =>
    cases stored with
    | true => exact .inr (.inl ⟨drain, rfl⟩)
    | false =>
      refine .inr (.inr (.inr ⟨trivial, ?_⟩))
      change Keeps state (state.commitCursor drain false) ∧
        (state.commitCursor drain false).cursor = state.cursor
      unfold CursorState.commitCursor
      split
      · exact ⟨keeps_setStage state drain _, rfl⟩
      · exact ⟨Keeps.refl state, rfl⟩
  | subscribe drain =>
    refine .inr (.inr (.inr ⟨trivial, subscribe_keeps state drain, ?_⟩))
    change (state.subscribe drain).cursor = _
    unfold CursorState.subscribe
    split <;> rfl
  | getAgentEventCursor drain answered =>
    refine .inr (.inr (.inr ⟨trivial, ?_⟩))
    change Keeps state (state.loadCursor drain answered) ∧
      (state.loadCursor drain answered).cursor = state.cursor
    unfold CursorState.loadCursor
    split
    · exact ⟨keeps_setStage state drain _, rfl⟩
    · exact ⟨Keeps.refl state, rfl⟩
  | readAgentEventBacklog drain answered =>
    refine .inr (.inr (.inr ⟨trivial, ?_⟩))
    change Keeps state (state.read settings drain answered) ∧
      (state.read settings drain answered).cursor = state.cursor
    unfold CursorState.read
    split
    · exact ⟨keeps_setStage state drain _, rfl⟩
    · exact ⟨Keeps.refl state, rfl⟩
  | emitFrame drain subscribed =>
    refine .inr (.inr (.inr ⟨trivial, ?_⟩))
    change Keeps state (state.emitFrame settings drain subscribed) ∧
      (state.emitFrame settings drain subscribed).cursor = state.cursor
    unfold CursorState.emitFrame
    split
    · exact ⟨keeps_setStage state drain _, rfl⟩
    · split
      · exact ⟨keeps_setStage state drain _, rfl⟩
      · exact ⟨keeps_setStage state drain _, rfl⟩
    · exact ⟨Keeps.refl state, rfl⟩
  | acknowledge drain inTime =>
    refine .inr (.inr (.inr ⟨trivial, acknowledge_keeps state drain inTime, ?_⟩))
    change (state.acknowledge drain inTime).cursor = _
    unfold CursorState.acknowledge
    split
    · split <;> rfl
    · rfl
  | ackAgentEventFrames drain deleted =>
    refine .inr (.inr (.inr ⟨trivial, finish_keeps state drain deleted, ?_⟩))
    change (state.finish drain deleted).cursor = _
    unfold CursorState.finish
    split <;> rfl
  | trim count =>
    exact .inr (.inr (.inr ⟨trivial, ⟨List.drop_sublist count state.stream, rfl, rfl,
      fun _ member => member, rfl⟩, rfl⟩))
  | expireStream =>
    exact .inr (.inr (.inr ⟨trivial, ⟨List.nil_sublist state.stream, rfl, rfl,
      fun _ member => member, rfl⟩, rfl⟩))

theorem carries_iff (sound : Sound settings state) (fine : AtLeastOnce settings state)
    (action : CursorAction) :
    Carries settings state action ↔ AtLeastOnce settings (state.step settings action) := by
  rcases step_keeps state action with ⟨id, frame, rfl⟩ | ⟨drain, rfl⟩ | rfl | ⟨met, keeps, cursor⟩
  · exact append_atLeastOnce_iff sound fine id frame
  · exact commit_atLeastOnce_iff sound fine drain
  · exact expire_atLeastOnce_iff sound fine
  · exact ⟨fun _ => fine.of_keeps sound (sound.step action) keeps cursor, fun _ => met⟩

end Invariant

/-- From before the subscription on, the backlog is lossless in every state of a run exactly when
every step leaves the cursor where it can carry the events of the subscriber. -/
theorem at_least_once_iff_carries (settings : BacklogSettings) {start : CursorState}
    (before : BeforeSubscription start) (actions : List CursorAction) :
    Meets (CursorState.step settings) (Carries settings) start actions ↔
      ∀ taken, taken <+: actions →
        AtLeastOnce settings (run (CursorState.step settings) start taken) := by
  have keeps : ∀ state action, Sound settings state → AtLeastOnce settings state →
      Carries settings state action → Sound settings (state.step settings action) :=
    fun _ action sound _ _ => sound.step action
  have decides : ∀ state action, Sound settings state → AtLeastOnce settings state →
      (Carries settings state action ↔ AtLeastOnce settings (state.step settings action)) :=
    fun _ action sound fine => carries_iff sound fine action
  exact meets_iff_every_state _ keeps decides before.sound before.atLeastOnce actions

/-- The backlog of an event. -/
def alerts : BacklogSettings where
  eventName := "client:custom.alerts"
  backlogMaxEntries := 500
  positive := by decide

/-- A frame of that event. -/
def alert : AgentEventStreamFrame where
  eventId := "evt-1"
  eventName := "client:custom.alerts"
  emittedAt := "2026-01-01T00:00:00.000Z"
  payload := "n"

/-- An empty stream with a cursor or none. -/
def emptyStream (cursor : Option EntryId) : CursorState where
  stream := []
  lastId := toLex (0, 0)
  cursor := cursor
  drains := fun _ => { stage := .idle, acked := [] }
  subscribed := false
  appended := []
  acknowledged := []
  committed := cursor.toList

theorem emptyStream_before {cursor : Option EntryId}
    (within : ∀ id ∈ cursor, id ≤ toLex (0, 0)) : BeforeSubscription (emptyStream cursor) where
  ordered := List.Pairwise.nil
  within := fun _ member => absurd member List.not_mem_nil
  cursorWithin := within
  committed := rfl
  idle := fun _ => rfl
  unsubscribed := rfl
  nothing := rfl
  unacknowledged := rfl

/-- A frame is appended after the first drain, delivered by the second, acknowledged, committed and
deleted. -/
def delivery : List CursorAction :=
  [.subscribe 0, .getAgentEventCursor 0 true, .readAgentEventBacklog 0 true,
    .append (toLex (1, 0)) alert, .subscribe 1, .getAgentEventCursor 1 true,
    .readAgentEventBacklog 1 true, .emitFrame 1 true, .acknowledge 1 true,
    .commitAgentEventCursor 1 true, .emitFrame 1 true, .ackAgentEventFrames 1 true]

/-- With a cursor at the beginning of the stream nothing is lost. -/
theorem delivered_with_cursor :
    AtLeastOnce alerts
      (run (CursorState.step alerts) (emptyStream (some (toLex (0, 0)))) delivery) := by
  have start : BeforeSubscription (emptyStream (some (toLex (0, 0)))) := by
    apply emptyStream_before
    intro id member
    exact le_of_eq (Option.some.inj member).symm
  refine (at_least_once_iff_carries alerts start delivery).mp ?_ delivery (List.prefix_refl _)
  refine ⟨trivial, trivial, trivial, ?_, trivial, trivial, trivial, trivial, trivial, ?_, trivial,
    trivial, trivial⟩
  · exact fun _ _ _ => ⟨toLex (0, 0), rfl, by decide⟩
  · intro entry rest stage earlier member
    cases stage
    rw [List.mem_singleton.mp member]
    decide

/-- Without a cursor an event that is appended after the subscription started is not returned. -/
theorem lost_without_cursor : BeforeSubscription (emptyStream none) ∧
    ¬AtLeastOnce alerts (run (CursorState.step alerts) (emptyStream none)
      [.subscribe 0, .getAgentEventCursor 0 true, .readAgentEventBacklog 0 true,
        .append (toLex (1, 0)) alert]) := by
  refine ⟨emptyStream_before fun id member => (by cases member), fun lawful => ?_⟩
  obtain ⟨entry, member, _⟩ := lawful.returned (toLex (1, 0))
    ⟨List.mem_cons_self, List.mem_cons_self, List.not_mem_nil⟩
  cases member

end PlugHub.BacklogCursor
