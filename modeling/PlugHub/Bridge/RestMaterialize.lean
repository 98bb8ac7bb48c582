import PlugHub.Frames.ColumnarChunks
import PlugHub.Library.Runs

/-!
# Rows of a REST request that is answered by a stream

A REST request whose response names a stream is answered by one response with all the rows. The hub
opens a stream, pulls a window of chunks at a time, collects the rows of the chunks under the limits
on rows, chunks and bytes, and merges them into the response when the stream completes.

The window that the agent was asked for is ahead of the chunks that came, by one window at most, and
the rows that resolve the request are those of the response and of the chunks, in their order, as
long as no chunk is dropped: one that cannot be read ends the stream only when the envelope of its
frame names the request. The limits are checked for the rows of the response and for every chunk,
but not for the bytes of the response: these are first counted when a chunk comes.
-/

namespace PlugHub.RestMaterialize

open Library ColumnarChunks

/-! ## Merging -/

/-- The fields of a value that is an object or an array. -/
def toRecord : JsonValue → Option JsonFields
  | .object fields => some fields
  | .array items => some (items.mapIdx fun index item => (decimalUnits index, item))
  | _ => none

/-- The items of a field that holds an array. -/
def arrayField (fields : JsonFields) (name : String) : Option (List JsonValue) :=
  match field fields name with
  | some (.array items) => some items
  | _ => none

/-- The result of an envelope, when both are records. -/
def envelopeResult (initialRpc : JsonValue) : Option (JsonFields × JsonFields) := do
  let envelope ← toRecord initialRpc
  let value ← field envelope "result"
  let result ← toRecord value
  return (envelope, result)

/-- Why a stream cannot be merged. -/
inductive MergeError where
  | aborted
  | error

/-- The message of the error. -/
def MergeError.message : MergeError → String
  | .aborted => "Agent SQL stream ended with terminal_status=aborted"
  | .error => "Agent SQL stream ended with terminal_status=error"

/-- The terminal status of a completion that ended badly. -/
def terminalFailure (complete : JsonFields) : Option MergeError :=
  match field complete "terminal_status" with
  | some (.string status) =>
    if status = utf16 "aborted" then some .aborted
    else if status = utf16 "error" then some .error
    else none
  | _ => none

/-- The total that a completion states, or the number of the rows. -/
def totalRows (complete : JsonFields) (rows : List JsonValue) : JsonValue :=
  match field complete "total_rows" with
  | some (.number total) => .number total
  | _ => .number (.ofNat rows.length)

/-- The envelope with the rows in its result. -/
def mergedEnvelope (envelope result : JsonFields) (rows : List JsonValue)
    (complete : JsonFields) : JsonValue :=
  let mergedResult := setField (setField result (utf16 "rows") (.array rows)) (utf16 "total_rows")
    (totalRows complete rows)
  .object (setField envelope (utf16 "result")
    (.object (mergedResult.filter fun field => field.1 ≠ utf16 "stream_id")))

/-- `mergeSqlStreamRpcResponse`. -/
def mergeSqlStreamRpcResponse (initialRpc : JsonValue) (chunks : List JsonFields)
    (complete : JsonFields) : Except MergeError JsonValue :=
  match envelopeResult initialRpc with
  | none => .ok initialRpc
  | some (envelope, result) =>
    match terminalFailure complete with
    | some failure => .error failure
    | none =>
      let initialRows := (arrayField result "rows").getD []
      let rows := chunks.foldl (fun rows chunk => rows ++ (arrayField chunk "rows").getD [])
        initialRows
      .ok (mergedEnvelope envelope result rows complete)

/-- `mergeSqlStreamRpcResponseRows`. -/
def mergeSqlStreamRpcResponseRows (initialRpc : JsonValue) (appendedRows : List JsonValue)
    (complete : JsonFields) (takeOwnership : Bool) : Except MergeError JsonValue :=
  match envelopeResult initialRpc with
  | none => .ok initialRpc
  | some (envelope, result) =>
    match terminalFailure complete with
    | some failure => .error failure
    | none =>
      let initialRows := (arrayField result "rows").getD []
      let rows :=
        if takeOwnership ∧ initialRows.length = 0 then appendedRows
        else if appendedRows.length = 0 then initialRows
        else initialRows ++ appendedRows
      .ok (mergedEnvelope envelope result rows complete)

/-- `mergeSqlStreamRpcResponseWithAppendedRows`. -/
def mergeSqlStreamRpcResponseWithAppendedRows (initialRpc : JsonValue)
    (appendedRows : List JsonValue) (complete : JsonFields) : Except MergeError JsonValue :=
  mergeSqlStreamRpcResponseRows initialRpc appendedRows complete false

/-- `mergeSqlStreamRpcResponseWithOwnedRows`. -/
def mergeSqlStreamRpcResponseWithOwnedRows (initialRpc : JsonValue)
    (appendedRows : List JsonValue) (complete : JsonFields) : Except MergeError JsonValue :=
  mergeSqlStreamRpcResponseRows initialRpc appendedRows complete true

/-- `countSqlExecuteResultRowsInEnvelope`. -/
def countSqlExecuteResultRowsInEnvelope (initialRpc : JsonValue) : Nat :=
  match envelopeResult initialRpc with
  | none => 0
  | some (_, result) => ((arrayField result "rows").getD []).length

/-! ## The stream -/

/-- The limits of a materialization; zero is no limit. -/
structure MaterializeLimits where
  maxRows : Nat
  maxChunks : Nat
  maxBytes : Nat

/-- Which limit a chunk exceeds. -/
inductive LimitKind where
  | chunk
  | row
  | byte

/-- Why a request is rejected. -/
inductive Rejection where
  | capacity
  | initialRows
  | limit (kind : LimitKind)
  | invalidChunk (reason : ChunkError)
  | invalidContract
  /-- The stream was closed: the agent disconnected, the time ran out, the request was aborted, or a
  frame that names the request could not be decoded. -/
  | closed
  | merge (reason : MergeError)

/-- What a request comes to. -/
inductive Settlement where
  | resolved (response : JsonValue)
  | rejected (reason : Rejection)

/-- Settings of a stream. -/
structure MaterializeSettings where
  limits : MaterializeLimits
  chunks : ChunkLimits
  pullWindow : Nat
  positive : 0 < pullWindow
  /-- `primaryRequestId`, under which the route of the stream is found. -/
  requestId : String

/-- A frame that carries a chunk. -/
structure ChunkFrame where
  data : JsonObject
  originalSize : Nat
  /-- The request id of the envelope, which `extractFrameRequestId` reads. -/
  requestId : Option String
  /-- `validateAgentInboundContract` lets the chunk be processed. -/
  accepted : Bool

/-- A chunk can be read: the contract accepts it, and its columns can be expanded. -/
def ChunkFrame.readable (settings : MaterializeSettings) (frame : ChunkFrame) : Bool :=
  frame.accepted &&
    (normalizeColumnarSqlChunk settings.chunks frame.data fun _ _ => true).toOption.isSome

/-- A stream that answers a request. -/
structure RestStream where
  registered : Bool
  streamedRows : List JsonValue := []
  aggregatedRowCount : Nat
  aggregatedByteCount : Nat
  chunkFramesSeen : Nat := 0
  credits : Option Nat := none
  settlement : Option Settlement := none
  pulled : Nat := 0
  received : List ChunkFrame := []
  completed : Option JsonFields := none

/-- What happens to a stream. -/
inductive StreamEvent where
  /-- A chunk arrives; the agent is still connected when more is pulled, or not. -/
  | chunk (frame : ChunkFrame) (connected : Bool)
  | complete (payload : JsonFields)
  | close

namespace RestStream

/-- The request is settled once. -/
def settle (stream : RestStream) (settlement : Settlement) : RestStream :=
  { stream with settlement := some (stream.settlement.getD settlement) }

/-- The route is removed with its credits. -/
def removeRoute (stream : RestStream) : RestStream :=
  { stream with registered := false, credits := none }

/-- `emitRpcStreamPullForRoute`: an agent that is gone ends the stream. -/
def emitPull (stream : RestStream) (connected : Bool) (windowSize : Nat) : RestStream :=
  if stream.registered then
    if connected then { stream with pulled := stream.pulled + max 1 windowSize }
    else (stream.settle (.rejected .closed)).removeRoute
  else stream

/-- `stepRestSqlStreamMaterializeCredits`: the credits that are stored next, and whether to pull. -/
def stepCredits (storedCredits : Option Nat) (windowSize : Nat) : Nat × Bool :=
  if storedCredits.getD 0 ≤ 1 then (windowSize, true) else (storedCredits.getD 0 - 1, false)

/-- `restSqlStreamMaterializeConsumeChunk`. -/
def consumeChunk (stream : RestStream) (connected : Bool) (windowSize : Nat) : RestStream :=
  let next := stepCredits stream.credits windowSize
  let pulled := if next.2 then stream.emitPull connected windowSize else stream
  { pulled with credits := some next.1 }

/-- The limit that a chunk exceeds. -/
def exceededLimit (limits : MaterializeLimits) (stream : RestStream) (chunkRows chunkBytes : Nat) :
    Option LimitKind :=
  if 0 < limits.maxChunks ∧ limits.maxChunks < stream.chunkFramesSeen + 1 then some .chunk
  else if 0 < limits.maxRows ∧ limits.maxRows < stream.aggregatedRowCount + chunkRows then some .row
  else if 0 < limits.maxBytes ∧ limits.maxBytes < stream.aggregatedByteCount + chunkBytes then
    some .byte
  else none

/-- `admitNormalizedChunk`, when it does not admit a chunk. -/
def refuse (stream : RestStream) (kind : LimitKind) : RestStream :=
  (stream.settle (.rejected (.limit kind))).removeRoute

/-- The bytes of a frame count only when they are limited. -/
def countedBytes (limits : MaterializeLimits) (bytes : Nat) : Nat :=
  if 0 < limits.maxBytes then bytes else 0

/-- The rows of a chunk are counted and appended. -/
def append (limits : MaterializeLimits) (stream : RestStream) (rows : List JsonValue)
    (bytes : Nat) : RestStream :=
  { stream with
    chunkFramesSeen := stream.chunkFramesSeen + 1
    aggregatedByteCount := stream.aggregatedByteCount + countedBytes limits bytes
    aggregatedRowCount := stream.aggregatedRowCount + rows.length
    streamedRows := stream.streamedRows ++ rows }

/-- `onChunk`. -/
def onChunk (settings : MaterializeSettings) (stream : RestStream) (payload : JsonFields)
    (originalSizeBytes : Nat) (connected : Bool) : RestStream :=
  let rows := (arrayField payload "rows").getD []
  match exceededLimit settings.limits stream rows.length
    (countedBytes settings.limits originalSizeBytes) with
  | some kind => stream.refuse kind
  | none =>
    (stream.append settings.limits rows originalSizeBytes).consumeChunk connected
      settings.pullWindow

/-- `failFastInvalidAgentStreamFrame`, as far as the stream is concerned: without a request id in
the envelope, or with that of another route, nothing happens to it. -/
def failFast (settings : MaterializeSettings) (stream : RestStream) (frame : ChunkFrame)
    (reason : Rejection) : RestStream :=
  if frame.requestId = some settings.requestId then (stream.settle (.rejected reason)).removeRoute
  else stream

/-- `handleAgentRpcChunk` for a chunk of the stream: columns are expanded first. -/
def handleChunk (settings : MaterializeSettings) (stream : RestStream) (frame : ChunkFrame)
    (connected : Bool) : RestStream :=
  let admits := fun rows bytes => (exceededLimit settings.limits stream rows bytes).isNone
  if frame.accepted = false then stream.failFast settings frame .invalidContract
  else
  match normalizeColumnarSqlChunk settings.chunks frame.data admits with
  | .error reason => stream.failFast settings frame (.invalidChunk reason)
  | .ok .unchanged => stream.onChunk settings frame.data.fields frame.originalSize connected
  | .ok (.normalized payload size) => stream.onChunk settings payload size connected
  | .ok (.refused rows bytes) =>
    match exceededLimit settings.limits stream rows bytes with
    | some kind => stream.refuse kind
    | none => stream

/-- `onComplete`: the rows are merged into the response. -/
def onComplete (initialRpc : JsonValue) (stream : RestStream) (payload : JsonFields) : RestStream :=
  let merged :=
    if 0 < stream.streamedRows.length then
      mergeSqlStreamRpcResponseWithOwnedRows initialRpc stream.streamedRows payload
    else mergeSqlStreamRpcResponse initialRpc [] payload
  let emptied := { stream with streamedRows := [] }
  match merged with
  | .ok response => emptied.settle (.resolved response)
  | .error reason => emptied.settle (.rejected (.merge reason))

/-- One event. -/
def step (settings : MaterializeSettings) (initialRpc : JsonValue) (stream : RestStream) :
    StreamEvent → RestStream
  | .chunk frame connected =>
    if stream.registered then
      { stream with received := stream.received ++ [frame] }.handleChunk settings frame connected
    else stream
  | .complete payload =>
    if stream.registered then
      ({ stream with completed := some payload }.onComplete initialRpc payload).removeRoute
    else stream
  | .close =>
    if stream.registered then (stream.settle (.rejected .closed)).removeRoute else stream

end RestStream

open RestStream

/-- A stream before the first window is pulled, whose route is registered or not. -/
def initialStream (settings : MaterializeSettings) (initialRpc : JsonValue) (originalSize : Nat)
    (registered : Bool) : RestStream where
  registered := registered
  aggregatedRowCount := countSqlExecuteResultRowsInEnvelope initialRpc
  aggregatedByteCount := countedBytes settings.limits originalSize

/-- `startRestStreamMaterialization` for a response of some size; the agent may have too many
streams, or be gone when the first window is pulled. -/
def startRestStreamMaterialization (settings : MaterializeSettings) (initialRpc : JsonValue)
    (originalSize : Nat) (atCapacity connected : Bool) : RestStream :=
  if atCapacity then
    (initialStream settings initialRpc originalSize false).settle (.rejected .capacity)
  else if 0 < settings.limits.maxRows ∧
      settings.limits.maxRows < countSqlExecuteResultRowsInEnvelope initialRpc then
    (initialStream settings initialRpc originalSize false).settle (.rejected .initialRows)
  else
    let opened := initialStream settings initialRpc originalSize true
    { opened.emitPull connected settings.pullWindow with credits := some settings.pullWindow }

theorem start_cases (settings : MaterializeSettings) (initialRpc : JsonValue) (originalSize : Nat)
    (atCapacity connected : Bool) :
    (∃ reason, (startRestStreamMaterialization settings initialRpc originalSize atCapacity
        connected).registered = false ∧
      (startRestStreamMaterialization settings initialRpc originalSize atCapacity
        connected).settlement = some (.rejected reason)) ∨
      ¬(0 < settings.limits.maxRows ∧
        settings.limits.maxRows < countSqlExecuteResultRowsInEnvelope initialRpc) ∧
      startRestStreamMaterialization settings initialRpc originalSize atCapacity connected =
        { initialStream settings initialRpc originalSize true with
          pulled := settings.pullWindow
          credits := some settings.pullWindow } := by
  unfold startRestStreamMaterialization
  split
  · exact .inl ⟨.capacity, rfl, rfl⟩
  · split
    · exact .inl ⟨.initialRows, rfl, rfl⟩
    · next fits =>
      cases connected with
      | false => exact .inl ⟨.closed, rfl, rfl⟩
      | true =>
        right
        have window : 0 + max 1 settings.pullWindow = settings.pullWindow := by
          have positive := settings.positive
          omega
        refine ⟨fits, ?_⟩
        change { initialStream settings initialRpc originalSize true with
          pulled := 0 + max 1 settings.pullWindow
          credits := some settings.pullWindow } = _
        rw [window]

/-! ## What a chunk does -/

/-- What a frame carries: its rows, as the plain expansion of its columns where it has no rows of
its own, and its bytes as a payload with rows. -/
inductive Measured (frame : ChunkFrame) : List JsonValue → Nat → Prop where
  | rows (plain : field frame.data.fields "columnar" = none) :
    Measured frame ((arrayField frame.data.fields "rows").getD []) frame.originalSize
  | existing (columnar row : JsonValue) (rest : List JsonValue)
    (present : field frame.data.fields "columnar" = some columnar)
    (found : field frame.data.fields "rows" = some (.array (row :: rest))) :
    Measured frame (row :: rest) (JsonValue.object (withoutColumnar frame.data)).bytes
  | columns (rowCount : Nat) (vectors : List (Utf16 × List JsonValue))
    (carries : Carries frame.data rowCount vectors) :
    Measured frame (plainRows rowCount vectors)
      (JsonValue.object (expandedPayload frame.data (plainRows rowCount vectors))).bytes

theorem rows_withoutColumnar {chunk : JsonObject} {rows : List JsonValue}
    (found : field chunk.fields "rows" = some (.array rows)) :
    (arrayField (withoutColumnar chunk) "rows").getD [] = rows := by
  have kept : field (withoutColumnar chunk) "rows" = field chunk.fields "rows" :=
    getField_without chunk.fields (by decide : utf16 "rows" ≠ utf16 "columnar")
  unfold arrayField
  rw [kept, found]
  rfl

theorem rows_expandedPayload (chunk : JsonObject) (rows : List JsonValue) :
    (arrayField (expandedPayload chunk rows) "rows").getD [] = rows := by
  have set : field (expandedPayload chunk rows) "rows" = some (.array rows) :=
    getField_setField (withoutColumnar chunk) (utf16 "rows") (.array rows)
  unfold arrayField
  rw [set]
  rfl

/-- What a chunk that can be read does to a stream: its rows are appended and a credit is
consumed. -/
def Takes (settings : MaterializeSettings) (stream : RestStream) (frame : ChunkFrame)
    (connected : Bool) (next : RestStream) : Prop :=
  ∃ rows bytes, Measured frame rows bytes ∧ frame.readable settings = true ∧
    exceededLimit settings.limits stream rows.length
      (countedBytes settings.limits bytes) = none ∧
    next = (stream.append settings.limits rows bytes).consumeChunk connected settings.pullWindow

theorem failFast_cases (settings : MaterializeSettings) (stream : RestStream) (frame : ChunkFrame)
    (reason : Rejection) (unreadable : frame.readable settings = false) :
    stream.failFast settings frame reason = (stream.settle (.rejected reason)).removeRoute ∨
      frame.readable settings = false ∧ frame.requestId ≠ some settings.requestId ∧
        stream.failFast settings frame reason = stream := by
  by_cases named : frame.requestId = some settings.requestId
  · exact .inl (if_pos named)
  · exact .inr ⟨unreadable, named, if_neg named⟩

/-- A chunk ends the stream with an error, or it cannot be read and is dropped, or it is taken. -/
theorem handleChunk_cases (settings : MaterializeSettings) (stream : RestStream)
    (frame : ChunkFrame) (connected : Bool) :
    (∃ reason, stream.handleChunk settings frame connected =
        (stream.settle (.rejected reason)).removeRoute) ∨
      (frame.readable settings = false ∧ frame.requestId ≠ some settings.requestId ∧
        stream.handleChunk settings frame connected = stream) ∨
      Takes settings stream frame connected (stream.handleChunk settings frame connected) := by
  unfold handleChunk
  simp only
  split
  · next foreign =>
    have unreadable : frame.readable settings = false := by simp [ChunkFrame.readable, foreign]
    rcases failFast_cases settings stream frame .invalidContract unreadable with ended | dropped
    · exact .inl ⟨_, ended⟩
    · exact .inr (.inl dropped)
  · next accepted =>
    generalize admitting : (fun rows bytes =>
      (exceededLimit settings.limits stream rows bytes).isNone) = admits
    have same := normalize_isSome settings.chunks frame.data (fun _ _ => true) admits
    have readable : frame.readable settings =
        (normalizeColumnarSqlChunk settings.chunks frame.data admits).toOption.isSome := by
      rw [ChunkFrame.readable, Bool.eq_true_of_not_eq_false accepted, Bool.true_and, same]
    have taken : ∀ payload bytes, frame.readable settings = true →
        Measured frame ((arrayField payload "rows").getD []) bytes →
          (∃ reason, stream.onChunk settings payload bytes connected =
              (stream.settle (.rejected reason)).removeRoute) ∨
            Takes settings stream frame connected
              (stream.onChunk settings payload bytes connected) := by
      intro payload bytes readable measured
      unfold onChunk
      simp only
      cases limit : exceededLimit settings.limits stream
          ((arrayField payload "rows").getD []).length
          (countedBytes settings.limits bytes) with
      | some kind => exact .inl ⟨.limit kind, rfl⟩
      | none => exact .inr ⟨_, bytes, measured, readable, limit, rfl⟩
    rcases normalize_cases settings.chunks frame.data admits with ⟨reason, failed⟩ |
      ⟨unchanged, plain⟩ | ⟨rows, bytes, refused, ended⟩ | ⟨payload, normalized, shape⟩
    · rw [failed] at readable ⊢
      rcases failFast_cases settings stream frame (.invalidChunk reason) readable with
        ended | dropped
      · exact .inl ⟨_, ended⟩
      · exact .inr (.inl dropped)
    · rw [unchanged] at readable ⊢
      exact (taken frame.data.fields frame.originalSize readable (.rows plain)).imp_right .inr
    · left
      rw [refused]
      subst admitting
      cases limit : exceededLimit settings.limits stream rows bytes with
      | none =>
        simp only [limit] at ended
        cases ended
      | some kind =>
        simp only [limit]
        exact ⟨.limit kind, rfl⟩
    · have measured : Measured frame ((arrayField payload "rows").getD [])
          (JsonValue.object payload).bytes := by
        rcases shape with
          ⟨columnar, row, rest, present, found, rfl⟩ | ⟨rowCount, vectors, carries, rfl⟩
        · rw [rows_withoutColumnar found]
          exact .existing columnar row rest present found
        · rw [rows_expandedPayload]
          exact .columns rowCount vectors carries
      rw [normalized] at readable ⊢
      exact (taken payload (JsonValue.object payload).bytes readable measured).imp_right .inr

/-! ## The window -/

/-- The credits are the chunks that were pulled and did not come yet. -/
def Credited (settings : MaterializeSettings) (stream : RestStream) : Prop :=
  stream.registered = true → ∃ credits, stream.credits = some credits ∧ 0 < credits ∧
    credits ≤ settings.pullWindow ∧ stream.pulled = stream.received.length + credits

/-- What was pulled is ahead of the chunks, by one window at most. -/
def WithinWindow (settings : MaterializeSettings) (stream : RestStream) : Prop :=
  stream.registered = true → stream.received.length + 1 ≤ stream.pulled ∧
    stream.pulled ≤ stream.received.length + settings.pullWindow

theorem Credited.withinWindow {settings : MaterializeSettings} {stream : RestStream}
    (credited : Credited settings stream) : WithinWindow settings stream := by
  intro registered
  obtain ⟨credits, _, positive, bounded, pulled⟩ := credited registered
  omega

theorem start_credited (settings : MaterializeSettings) (initialRpc : JsonValue)
    (originalSize : Nat) (atCapacity connected : Bool) :
    Credited settings
      (startRestStreamMaterialization settings initialRpc originalSize atCapacity connected) := by
  intro registered
  rcases start_cases settings initialRpc originalSize atCapacity connected with
    ⟨reason, ended, _⟩ | ⟨_, started⟩
  · rw [ended] at registered
    cases registered
  · rw [started]
    exact ⟨settings.pullWindow, rfl, settings.positive, Nat.le_refl _, (Nat.zero_add _).symm⟩

theorem consumeChunk_credited {settings : MaterializeSettings} {stream : RestStream}
    {credits : Nat} (connected : Bool) (stored : stream.credits = some credits)
    (positive : 0 < credits) (bounded : credits ≤ settings.pullWindow)
    (pulled : stream.pulled + 1 = stream.received.length + credits) :
    Credited settings (stream.consumeChunk connected settings.pullWindow) := by
  have window := settings.positive
  intro registered
  unfold consumeChunk stepCredits at registered ⊢
  rw [stored, Option.getD_some] at registered ⊢
  by_cases last : credits ≤ 1
  · simp only [if_pos last, if_true] at registered ⊢
    unfold emitPull at registered ⊢
    by_cases still : stream.registered = true
    · cases connected with
      | false =>
        simp only [if_pos still, Bool.false_eq_true, if_false] at registered
        cases registered
      | true =>
        simp only [if_pos still, if_true] at registered ⊢
        refine ⟨settings.pullWindow, rfl, window, Nat.le_refl _, ?_⟩
        omega
    · simp only [if_neg still] at registered
      exact absurd registered still
  · simp only [if_neg last, Bool.false_eq_true, if_false] at registered ⊢
    exact ⟨credits - 1, rfl, by omega, by omega, by omega⟩

/-- A chunk of an open stream can be read, or the envelope of its frame names the request. -/
def Heeded (settings : MaterializeSettings) (stream : RestStream) : StreamEvent → Prop
  | .chunk frame _ => stream.registered = true →
      frame.readable settings = true ∨ frame.requestId = some settings.requestId
  | _ => True

theorem step_credited (settings : MaterializeSettings) (initialRpc : JsonValue)
    (stream : RestStream) (event : StreamEvent) (credited : Credited settings stream)
    (heeded : Heeded settings stream event) :
    Credited settings (stream.step settings initialRpc event) := by
  unfold step
  cases event with
  | chunk frame connected =>
    simp only
    split
    · next registered =>
      obtain ⟨credits, stored, positive, bounded, pulled⟩ := credited registered
      rcases handleChunk_cases settings { stream with received := stream.received ++ [frame] } frame
        connected with ⟨reason, ended⟩ | ⟨unreadable, unnamed, -⟩ | ⟨rows, bytes, -, -, -, taken⟩
      · rw [ended]
        intro refuted
        cases refuted
      · rcases heeded registered with readable | named
        · rw [unreadable] at readable
          cases readable
        · exact absurd named unnamed
      · rw [taken]
        have kept : (RestStream.append settings.limits
            { stream with received := stream.received ++ [frame] } rows bytes).credits =
              some credits := stored
        apply consumeChunk_credited connected kept positive bounded
        change stream.pulled + 1 = (stream.received ++ [frame]).length + credits
        rw [List.length_append, List.length_singleton]
        omega
    · exact credited
  | complete payload | close =>
    simp only
    split
    · intro refuted
      cases refuted
    · exact credited

/-- In every run of a stream and for every window in which each chunk that cannot be read names the
request, what the agent was asked for is in every state ahead of the chunks that came, by at least
one and by one window at most. -/
theorem within_window (settings : MaterializeSettings) (initialRpc : JsonValue)
    (originalSize : Nat) (atCapacity connected : Bool) (events : List StreamEvent)
    (heeded : Meets (step settings initialRpc) (Heeded settings)
      (startRestStreamMaterialization settings initialRpc originalSize atCapacity connected)
      events) :
    ∀ taken, taken <+: events → WithinWindow settings (run (step settings initialRpc)
      (startRestStreamMaterialization settings initialRpc originalSize atCapacity connected)
      taken) := by
  intro taken first
  have kept := every_state_of_meets _
    (fun stream event => step_credited settings initialRpc stream event)
    (start_credited settings initialRpc originalSize atCapacity connected) heeded taken first
  exact kept.withinWindow

/-- Settings with a window, without limits. -/
def windowOf (pullWindow : Nat) (positive : 0 < pullWindow) : MaterializeSettings :=
  ⟨⟨0, 0, 0⟩, ⟨10, 1000⟩, pullWindow, positive, "request"⟩

/-- A chunk of one column with one value, which is to have so many rows. -/
def columnFrame (rowCount : Nat) (requestId : Option String) : ChunkFrame :=
  ⟨oneColumn [] rowCount, 80, requestId, true⟩

/-- A window of two is pulled again when both chunks of the first came. -/
theorem within_window_of_two :
    WithinWindow (windowOf 2 (by decide)) (run (step (windowOf 2 (by decide)) .null)
      (startRestStreamMaterialization (windowOf 2 (by decide)) .null 0 false true)
      [.chunk (columnFrame 1 none) true, .chunk (columnFrame 1 (some "request")) true]) :=
  within_window (windowOf 2 (by decide)) .null 0 false true
    [.chunk (columnFrame 1 none) true, .chunk (columnFrame 1 (some "request")) true]
    ⟨fun _ => .inl (by decide), fun _ => .inl (by decide), trivial⟩ _ (List.prefix_refl _)

/-- A ragged chunk in a frame that names no request is dropped, and nothing more is pulled. -/
theorem dropped_chunk_stalls :
    ¬WithinWindow (windowOf 1 (by decide)) (run (step (windowOf 1 (by decide)) .null)
      (startRestStreamMaterialization (windowOf 1 (by decide)) .null 0 false true)
      [.chunk (columnFrame 2 none) true]) := by
  intro within
  exact absurd (within (by decide)).1 (by decide)

/-! ## The merged response -/

private theorem foldl_append_rows (chunks : List JsonFields) (rows : List JsonValue) :
    chunks.foldl (fun rows chunk => rows ++ (arrayField chunk "rows").getD []) rows =
      rows ++ chunks.flatMap fun chunk => (arrayField chunk "rows").getD [] := by
  induction chunks generalizing rows with
  | nil => rw [List.foldl_nil, List.flatMap_nil, List.append_nil]
  | cons chunk rest ih => rw [List.foldl_cons, ih, List.flatMap_cons, List.append_assoc]

private theorem merged_rows (initialRows appendedRows : List JsonValue) (takeOwnership : Bool) :
    (if takeOwnership ∧ initialRows.length = 0 then appendedRows
      else if appendedRows.length = 0 then initialRows
      else initialRows ++ appendedRows) = initialRows ++ appendedRows := by
  split
  · next owned => rw [List.length_eq_zero_iff.mp owned.2, List.nil_append]
  · split
    · next empty => rw [List.length_eq_zero_iff.mp empty, List.append_nil]
    · rfl

theorem merge_rows_eq (initialRpc : JsonValue) (chunks : List JsonFields) (complete : JsonFields)
    (takeOwnership : Bool) :
    mergeSqlStreamRpcResponseRows initialRpc
        (chunks.flatMap fun chunk => (arrayField chunk "rows").getD []) complete takeOwnership =
      mergeSqlStreamRpcResponse initialRpc chunks complete := by
  unfold mergeSqlStreamRpcResponseRows mergeSqlStreamRpcResponse
  simp only [merged_rows, foldl_append_rows]

/-- A response that names a stream. -/
structure StreamingResponse where
  envelope : JsonFields
  result : JsonFields
  holds : field envelope "result" = some (.object result)
  named : (field result "stream_id").isSome = true

/-- The response as a value. -/
def StreamingResponse.initialRpc (response : StreamingResponse) : JsonValue :=
  .object response.envelope

/-- The rows of the response. -/
def StreamingResponse.initialRows (response : StreamingResponse) : List JsonValue :=
  (arrayField response.result "rows").getD []

theorem StreamingResponse.envelopeResult_eq (response : StreamingResponse) :
    envelopeResult response.initialRpc = some (response.envelope, response.result) := by
  unfold envelopeResult StreamingResponse.initialRpc
  simp only [toRecord, Option.bind_eq_bind, Option.bind_some, response.holds, Option.pure_def]

theorem merge_streaming (response : StreamingResponse) (rows : List JsonValue)
    (complete : JsonFields) :
    (if 0 < rows.length then
        mergeSqlStreamRpcResponseWithOwnedRows response.initialRpc rows complete
      else mergeSqlStreamRpcResponse response.initialRpc [] complete) =
      match terminalFailure complete with
      | some failure => .error failure
      | none => .ok (mergedEnvelope response.envelope response.result
          (response.initialRows ++ rows) complete) := by
  split
  · unfold mergeSqlStreamRpcResponseWithOwnedRows mergeSqlStreamRpcResponseRows
    have whole := merged_rows ((arrayField response.result "rows").getD []) rows true
    rw [response.envelopeResult_eq]
    dsimp only
    rw [whole]
    rfl
  · next none =>
    have empty : rows = [] := List.length_eq_zero_iff.mp (by omega)
    unfold mergeSqlStreamRpcResponse
    simp only [response.envelopeResult_eq, List.foldl_nil, empty, List.append_nil]
    rfl

/-! ## What a stream collected -/

/-- What the frames of a stream carry, one after the other. -/
abbrev Parts := List (List JsonValue × Nat)

/-- The rows of the parts. -/
def rowsOf (parts : Parts) : List JsonValue := parts.flatMap Prod.fst

/-- The bytes of the parts. -/
def bytesOf (parts : Parts) : Nat := (parts.map Prod.snd).sum

/-- The frames carry the parts. -/
def Carrying (frames : List ChunkFrame) (parts : Parts) : Prop :=
  List.Forall₂ (fun frame part => Measured frame part.1 part.2) frames parts

section Lossless

variable (settings : MaterializeSettings) (response : StreamingResponse) (originalSize : Nat)

/-- The rows of the response and of the parts are within the limit. -/
def RowsWithin (parts : Parts) : Prop :=
  0 < settings.limits.maxRows →
    response.initialRows.length + (rowsOf parts).length ≤ settings.limits.maxRows

/-- The parts are within the limit on chunks. -/
def ChunksWithin (parts : Parts) : Prop :=
  0 < settings.limits.maxChunks → parts.length ≤ settings.limits.maxChunks

/-- The bytes of the response and of the parts are within the limit. -/
def BytesWithin (parts : Parts) : Prop :=
  0 < settings.limits.maxBytes → originalSize + bytesOf parts ≤ settings.limits.maxBytes

/-- What is asked of a stream: one that ended settled its request; and a request that is resolved is
resolved by the rows of the response and of all the chunks, in their order, merged with the
completion, and within every limit. -/
structure Lawful (stream : RestStream) : Prop where
  /-- A stream that is gone has settled its request. -/
  settled : stream.registered = false → stream.settlement.isSome = true
  /-- A resolved request has every row, in order and within the limits. -/
  resolved : ∀ value, stream.settlement = some (.resolved value) →
    ∃ parts complete, (∀ frame ∈ stream.received, frame.readable settings = true) ∧
      Carrying stream.received parts ∧ stream.completed = some complete ∧
      terminalFailure complete = none ∧
      value = mergedEnvelope response.envelope response.result
        (response.initialRows ++ rowsOf parts) complete ∧
      RowsWithin settings response parts ∧ ChunksWithin settings parts ∧
        BytesWithin settings originalSize parts
  /-- The completion of an open stream that is within the limits resolves its request. -/
  resolves : stream.registered = true → ∀ payload parts, terminalFailure payload = none →
    Carrying stream.received parts → RowsWithin settings response parts →
      ChunksWithin settings parts → BytesWithin settings originalSize parts →
        ∃ value, (stream.step settings response.initialRpc (.complete payload)).settlement =
          some (.resolved value)

/-- The completion finds every chunk taken and the bytes of the response checked: no chunk that came
was dropped, and the bytes are within the limit, or a chunk came; or the stream ended badly
anyway. -/
def BytesChecked (stream : RestStream) : StreamEvent → Prop
  | .complete payload => stream.registered = true → terminalFailure payload = none →
      (∀ frame ∈ stream.received, frame.readable settings = true) ∧
        (stream.received = [] → BytesWithin settings originalSize [])
  | _ => True

/-- What is known of a stream: while it is open its request is not settled, and it has collected
the chunks that can be read, within the limits as far as they are checked. -/
structure Collected (stream : RestStream) : Prop where
  settled : stream.registered = false → stream.settlement.isSome = true
  collected : stream.registered = true → stream.settlement = none ∧
    ∃ parts, Carrying (stream.received.filter (·.readable settings)) parts ∧
      stream.streamedRows = rowsOf parts ∧
      stream.aggregatedRowCount = response.initialRows.length + (rowsOf parts).length ∧
      stream.chunkFramesSeen = parts.length ∧
      (0 < settings.limits.maxBytes →
        stream.aggregatedByteCount = originalSize + bytesOf parts) ∧
      RowsWithin settings response parts ∧ ChunksWithin settings parts ∧
      (parts ≠ [] → BytesWithin settings originalSize parts)

variable {settings response originalSize}

theorem start_collected (atCapacity connected : Bool) :
    Collected settings response originalSize
      (startRestStreamMaterialization settings response.initialRpc originalSize atCapacity
        connected) := by
  have counted : countSqlExecuteResultRowsInEnvelope response.initialRpc =
      response.initialRows.length := by
    unfold countSqlExecuteResultRowsInEnvelope
    rw [response.envelopeResult_eq]
    rfl
  rcases start_cases settings response.initialRpc originalSize atCapacity connected with
    ⟨reason, ended, rejected⟩ | ⟨fits, started⟩
  · refine ⟨?_, ?_⟩
    · intro _
      rw [rejected]
      rfl
    · intro registered
      rw [ended] at registered
      cases registered
  · rw [started]
    refine ⟨(fun refuted => by cases refuted), ?_⟩
    intro _
    refine ⟨rfl, [], .nil, rfl, counted, rfl, ?_, ?_, ?_, ?_⟩
    · intro limited
      change countedBytes settings.limits originalSize = originalSize
      unfold countedBytes
      rw [if_pos limited]
    · intro limited
      rw [counted] at fits
      have within : ¬settings.limits.maxRows < response.initialRows.length :=
        fun ended => fits ⟨limited, ended⟩
      change response.initialRows.length + 0 ≤ _
      omega
    · intro _
      exact Nat.zero_le _
    · intro some
      exact absurd rfl some

theorem consumeChunk_cases (stream : RestStream) (connected : Bool) (windowSize : Nat)
    (registered : stream.registered = true) :
    ((stream.consumeChunk connected windowSize).registered = false ∧
        (stream.consumeChunk connected windowSize).settlement =
          some (stream.settlement.getD (.rejected .closed))) ∨
      ∃ pulled credits, stream.consumeChunk connected windowSize =
        { stream with pulled := pulled, credits := credits } := by
  unfold consumeChunk
  simp only
  split
  · unfold emitPull
    rw [if_pos registered]
    cases connected with
    | false => exact .inl ⟨rfl, rfl⟩
    | true => exact .inr ⟨_, _, rfl⟩
  · exact .inr ⟨_, _, rfl⟩

variable {stream : RestStream}

/-- What an open stream collected, with a chunk that is appended to it. -/
theorem Collected.append (collected : Collected settings response originalSize stream)
    (registered : stream.registered = true) {frame : ChunkFrame} {rows : List JsonValue}
    {bytes : Nat} (measured : Measured frame rows bytes) (readable : frame.readable settings = true)
    (fits : exceededLimit settings.limits stream rows.length
      (countedBytes settings.limits bytes) = none) (pulled : Nat)
    (credits : Option Nat) :
    Collected settings response originalSize
      { RestStream.append settings.limits { stream with received := stream.received ++ [frame] }
          rows bytes with
        pulled := pulled
        credits := credits } := by
  obtain ⟨unsettled, parts, carrying, streamed, rowCount, chunkCount, byteCount, rowsFit, chunksFit,
    bytesFit⟩ := collected.collected registered
  have rowsTogether : rowsOf (parts ++ [(rows, bytes)]) = rowsOf parts ++ rows := by
    unfold rowsOf
    rw [List.flatMap_append, List.flatMap_cons, List.flatMap_nil, List.append_nil]
  have bytesTogether : bytesOf (parts ++ [(rows, bytes)]) = bytesOf parts + bytes := by
    unfold bytesOf
    rw [List.map_append, List.sum_append, List.map_cons, List.sum_cons, List.map_nil, List.sum_nil,
      Nat.add_zero]
  have limits : ¬(0 < settings.limits.maxChunks ∧
        settings.limits.maxChunks < stream.chunkFramesSeen + 1) ∧
      ¬(0 < settings.limits.maxRows ∧
        settings.limits.maxRows < stream.aggregatedRowCount + rows.length) ∧
      ¬(0 < settings.limits.maxBytes ∧ settings.limits.maxBytes <
        stream.aggregatedByteCount + countedBytes settings.limits bytes) := by
    unfold exceededLimit at fits
    split at fits
    · cases fits
    · next chunksFit =>
      split at fits
      · cases fits
      · next rowsFit =>
        split at fits
        · cases fits
        · next bytesFit => exact ⟨chunksFit, rowsFit, bytesFit⟩
  refine ⟨?_, ?_⟩
  · intro refuted
    rw [show stream.registered = false from refuted] at registered
    cases registered
  · intro _
    refine ⟨unsettled, parts ++ [(rows, bytes)], ?_, ?_, ?_, ?_, ?_, ?_, ?_, ?_⟩
    · change Carrying ((stream.received ++ [frame]).filter (·.readable settings)) _
      rw [List.filter_append, List.filter_cons, if_pos readable, List.filter_nil]
      exact List.rel_append carrying (.cons measured .nil)
    · change stream.streamedRows ++ rows = _
      rw [streamed, rowsTogether]
    · change stream.aggregatedRowCount + rows.length = _
      rw [rowCount, rowsTogether, List.length_append, Nat.add_assoc]
    · change stream.chunkFramesSeen + 1 = _
      rw [chunkCount, List.length_append, List.length_singleton]
    · intro limited
      change stream.aggregatedByteCount + countedBytes settings.limits bytes = _
      unfold countedBytes
      rw [if_pos limited, byteCount limited, bytesTogether, Nat.add_assoc]
    · intro limited
      rw [rowsTogether, List.length_append]
      have fit : ¬settings.limits.maxRows < stream.aggregatedRowCount + rows.length :=
        fun ended => limits.2.1 ⟨limited, ended⟩
      omega
    · intro limited
      rw [List.length_append, List.length_singleton]
      have fit : ¬settings.limits.maxChunks < stream.chunkFramesSeen + 1 :=
        fun ended => limits.1 ⟨limited, ended⟩
      omega
    · intro _ limited
      have fit : ¬settings.limits.maxBytes < stream.aggregatedByteCount +
          countedBytes settings.limits bytes :=
        fun ended => limits.2.2 ⟨limited, ended⟩
      unfold countedBytes at fit
      rw [if_pos limited, byteCount limited] at fit
      rw [bytesTogether]
      omega

/-- A chunk that cannot be read is dropped. -/
theorem Collected.drop (collected : Collected settings response originalSize stream)
    {frame : ChunkFrame} (unreadable : frame.readable settings = false) :
    Collected settings response originalSize
      { stream with received := stream.received ++ [frame] } := by
  refine ⟨collected.settled, fun registered => ?_⟩
  have same : (stream.received ++ [frame]).filter (·.readable settings) =
      stream.received.filter (·.readable settings) := by
    rw [List.filter_append, List.filter_cons, if_neg (by simp [unreadable]), List.filter_nil,
      List.append_nil]
  have known := collected.collected registered
  rw [← same] at known
  exact known

theorem step_collected (stream : RestStream) (event : StreamEvent)
    (collected : Collected settings response originalSize stream) :
    Collected settings response originalSize
      (stream.step settings response.initialRpc event) := by
  have ended : ∀ later : RestStream, later.registered = false →
      later.settlement.isSome = true → Collected settings response originalSize later := by
    intro later gone settled
    refine ⟨fun _ => settled, ?_⟩
    intro registered
    rw [gone] at registered
    cases registered
  unfold step
  cases event with
  | chunk frame connected =>
    simp only
    split
    · next registered =>
      rcases handleChunk_cases settings { stream with received := stream.received ++ [frame] } frame
        connected with ⟨reason, failed⟩ | ⟨unreadable, -, dropped⟩ |
          ⟨rows, bytes, measured, readable, fits, taken⟩
      · rw [failed]
        exact ended _ rfl rfl
      · rw [dropped]
        exact collected.drop unreadable
      · rw [taken]
        rcases consumeChunk_cases (RestStream.append settings.limits
            { stream with received := stream.received ++ [frame] } rows bytes) connected
            settings.pullWindow registered with ⟨gone, settled⟩ | ⟨pulled, credits, kept⟩
        · refine ended _ gone ?_
          rw [settled]
          rfl
        · rw [kept]
          exact collected.append registered measured readable fits pulled credits
    · exact collected
  | complete payload =>
    simp only
    split
    · refine ended _ rfl ?_
      unfold onComplete removeRoute settle
      simp only
      split
      · rfl
      · rfl
    · exact collected
  | close =>
    simp only
    split
    · exact ended _ rfl rfl
    · exact collected

section

variable (collected : Collected settings response originalSize stream)

include collected

theorem complete_settlement
    (registered : stream.registered = true) (payload : JsonFields) :
    (stream.step settings response.initialRpc (.complete payload)).settlement =
      match terminalFailure payload with
      | some failure => some (.rejected (.merge failure))
      | none => some (.resolved (mergedEnvelope response.envelope response.result
          (response.initialRows ++ stream.streamedRows) payload)) := by
  obtain ⟨unsettled, _⟩ := collected.collected registered
  have merged := merge_streaming response stream.streamedRows payload
  unfold step
  simp only
  rw [if_pos registered]
  unfold onComplete removeRoute settle
  simp only [merged, unsettled, Option.getD_none]
  cases terminalFailure payload with
  | some failure | none => rfl

theorem Collected.resolves
    (registered : stream.registered = true) (payload : JsonFields) (parts : Parts)
    (fine : terminalFailure payload = none) (_ : Carrying stream.received parts)
    (_ : RowsWithin settings response parts) (_ : ChunksWithin settings parts)
    (_ : BytesWithin settings originalSize parts) :
    ∃ value, (stream.step settings response.initialRpc (.complete payload)).settlement =
      some (.resolved value) := by
  have settlement := complete_settlement collected registered payload
  rw [fine] at settlement
  exact ⟨_, settlement⟩

theorem lawful_of_unresolved
    (unresolved : ∀ value, stream.settlement ≠ some (.resolved value)) :
    Lawful settings response originalSize stream :=
  ⟨collected.settled, fun value resolved => absurd resolved (unresolved value),
    collected.resolves⟩

theorem chunk_unresolved
    (registered : stream.registered = true) (frame : ChunkFrame) (connected : Bool)
    (value : JsonValue) :
    (stream.step settings response.initialRpc (.chunk frame connected)).settlement ≠
      some (.resolved value) := by
  obtain ⟨unsettled, _⟩ := collected.collected registered
  unfold step
  simp only
  rw [if_pos registered]
  rcases handleChunk_cases settings { stream with received := stream.received ++ [frame] } frame
    connected with ⟨reason, failed⟩ | ⟨-, -, dropped⟩ | ⟨rows, bytes, -, -, -, taken⟩
  · rw [failed]
    unfold removeRoute settle
    simp only [unsettled, Option.getD_none]
    intro refuted
    cases refuted
  · rw [dropped]
    change stream.settlement ≠ _
    rw [unsettled]
    intro refuted
    cases refuted
  · have open' : (RestStream.append settings.limits
        { stream with received := stream.received ++ [frame] } rows bytes).settlement = none :=
      unsettled
    rw [taken]
    rcases consumeChunk_cases (RestStream.append settings.limits
        { stream with received := stream.received ++ [frame] } rows bytes) connected
        settings.pullWindow registered with ⟨_, settled⟩ | ⟨pulled, credits, kept⟩
    · rw [settled, open']
      intro refuted
      cases refuted
    · rw [kept]
      change (RestStream.append settings.limits
        { stream with received := stream.received ++ [frame] } rows bytes).settlement ≠ _
      rw [open']
      intro refuted
      cases refuted

end

/-- After an event the stream is lawful exactly when the completion found the bytes of the response
checked. -/
theorem step_lawful_iff (event : StreamEvent)
    (collected : Collected settings response originalSize stream)
    (lawful : Lawful settings response originalSize stream) :
    BytesChecked settings originalSize stream event ↔
      Lawful settings response originalSize (stream.step settings response.initialRpc event) := by
  have next := step_collected stream event collected
  by_cases registered : stream.registered = true
  · cases event with
    | chunk frame connected =>
      exact ⟨fun _ => lawful_of_unresolved next
        (chunk_unresolved collected registered frame connected), fun _ => trivial⟩
    | close =>
      refine ⟨fun _ => lawful_of_unresolved next ?_, fun _ => trivial⟩
      intro value resolved
      obtain ⟨unsettled, _⟩ := collected.collected registered
      unfold step at resolved
      simp only at resolved
      rw [if_pos registered] at resolved
      unfold removeRoute settle at resolved
      simp only [unsettled, Option.getD_none] at resolved
      cases resolved
    | complete payload =>
      have settlement := complete_settlement collected registered payload
      obtain ⟨_, parts, carrying, streamed, _, _, _, rowsFit, chunksFit, bytesFit⟩ :=
        collected.collected registered
      have received : (stream.step settings response.initialRpc (.complete payload)).received =
          stream.received := by
        unfold step
        simp only
        rw [if_pos registered]
        unfold onComplete removeRoute settle
        simp only
        split
        · rfl
        · rfl
      have completed : (stream.step settings response.initialRpc (.complete payload)).completed =
          some payload := by
        unfold step
        simp only
        rw [if_pos registered]
        unfold onComplete removeRoute settle
        simp only
        split
        · rfl
        · rfl
      cases failure : terminalFailure payload with
      | some reason =>
        rw [failure] at settlement
        constructor
        · intro _
          apply lawful_of_unresolved next
          intro value resolved
          rw [settlement] at resolved
          cases resolved
        · intro _ _ fine
          rw [failure] at fine
          cases fine
      | none =>
        rw [failure] at settlement
        constructor
        · intro checked
          obtain ⟨readable, covered⟩ := checked registered failure
          rw [List.filter_eq_self.mpr readable] at carrying
          refine ⟨next.settled, ?_, next.resolves⟩
          intro value resolved
          rw [settlement] at resolved
          have same := Settlement.resolved.inj (Option.some.inj resolved)
          refine ⟨parts, payload, ?_, ?_, completed, failure, ?_, rowsFit, chunksFit, ?_⟩
          · rw [received]
            exact readable
          · rw [received]
            exact carrying
          · rw [← same, streamed]
          · cases parts with
            | nil => exact covered (List.forall₂_nil_right_iff.mp carrying)
            | cons part rest => exact bytesFit (List.cons_ne_nil part rest)
        · intro after _ _
          obtain ⟨others, _, readable, carried, _, _, _, _, _, within⟩ :=
            after.resolved _ settlement
          rw [received] at readable carried
          refine ⟨readable, fun nothing => ?_⟩
          rw [nothing] at carried
          rw [List.forall₂_nil_left_iff.mp carried] at within
          exact within
  · have same : stream.step settings response.initialRpc event = stream := by
      unfold step
      cases event with
      | chunk frame connected | complete payload | close => exact if_neg registered
    rw [same]
    refine ⟨fun _ => lawful, fun _ => ?_⟩
    cases event with
    | chunk frame connected => trivial
    | complete payload => exact fun refuted => absurd refuted registered
    | close => trivial

theorem start_lawful (atCapacity connected : Bool) :
    Lawful settings response originalSize
      (startRestStreamMaterialization settings response.initialRpc originalSize atCapacity
        connected) := by
  have collected : Collected settings response originalSize
      (startRestStreamMaterialization settings response.initialRpc originalSize atCapacity
        connected) := start_collected atCapacity connected
  apply lawful_of_unresolved collected
  intro value resolved
  rcases start_cases settings response.initialRpc originalSize atCapacity connected with
    ⟨reason, _, rejected⟩ | ⟨_, started⟩
  · rw [rejected] at resolved
    cases resolved
  · rw [started] at resolved
    cases resolved

end Lossless

/-- The three merges agree, and in every run of a stream every state is lawful exactly when every
completion finds every chunk taken and the bytes of the response checked. -/
theorem lawful_iff_bytes_checked (settings : MaterializeSettings) (response : StreamingResponse)
    (originalSize : Nat) (atCapacity connected : Bool) (events : List StreamEvent) :
    (∀ (initialRpc : JsonValue) (chunks : List JsonFields) (complete : JsonFields),
      let rows := chunks.flatMap fun chunk => (arrayField chunk "rows").getD []
      mergeSqlStreamRpcResponseWithAppendedRows initialRpc rows complete =
          mergeSqlStreamRpcResponse initialRpc chunks complete ∧
        mergeSqlStreamRpcResponseWithOwnedRows initialRpc rows complete =
          mergeSqlStreamRpcResponse initialRpc chunks complete) ∧
    (Meets (step settings response.initialRpc) (BytesChecked settings originalSize)
        (startRestStreamMaterialization settings response.initialRpc originalSize atCapacity
          connected) events ↔
      ∀ taken, taken <+: events → Lawful settings response originalSize
        (run (step settings response.initialRpc)
          (startRestStreamMaterialization settings response.initialRpc originalSize atCapacity
            connected) taken)) := by
  refine ⟨?_, ?_⟩
  · intro initialRpc chunks complete
    exact ⟨merge_rows_eq initialRpc chunks complete false,
      merge_rows_eq initialRpc chunks complete true⟩
  · have keeps : ∀ (stream : RestStream) (event : StreamEvent),
        Collected settings response originalSize stream →
        Lawful settings response originalSize stream →
        BytesChecked settings originalSize stream event →
        Collected settings response originalSize
          (stream.step settings response.initialRpc event) :=
      fun stream event collected _ _ => step_collected stream event collected
    have decides : ∀ (stream : RestStream) (event : StreamEvent),
        Collected settings response originalSize stream →
        Lawful settings response originalSize stream →
        (BytesChecked settings originalSize stream event ↔
          Lawful settings response originalSize
            (stream.step settings response.initialRpc event)) :=
      fun stream event collected lawful => step_lawful_iff event collected lawful
    exact meets_iff_every_state _ keeps decides (start_collected atCapacity connected)
      (start_lawful atCapacity connected) events

/-- A response without rows that names a stream. -/
def emptyStreaming : StreamingResponse where
  envelope := [(utf16 "result",
    .object [(utf16 "rows", .array []), (utf16 "stream_id", .string (utf16 "s"))])]
  result := [(utf16 "rows", .array []), (utf16 "stream_id", .string (utf16 "s"))]
  holds := rfl
  named := rfl

/-- A response of a hundred bytes under a limit of ten, whose stream completes without a chunk, is
resolved. -/
theorem large_response_resolves :
    ¬Lawful ⟨⟨0, 0, 10⟩, ⟨10, 1000⟩, 1, by decide, "request"⟩ emptyStreaming 100
      (run (step ⟨⟨0, 0, 10⟩, ⟨10, 1000⟩, 1, by decide, "request"⟩
          emptyStreaming.initialRpc)
        (startRestStreamMaterialization ⟨⟨0, 0, 10⟩, ⟨10, 1000⟩, 1, by decide, "request"⟩
          emptyStreaming.initialRpc 100 false true) [.complete []]) := by
  intro lawful
  obtain ⟨parts, _, _, _, _, _, _, _, _, within⟩ := lawful.resolved _ rfl
  have limited := within (by decide)
  change 100 + bytesOf parts ≤ 10 at limited
  omega

end PlugHub.RestMaterialize
