import PlugHub.Frames.RoundTrip

/-!
# Forwarding the bytes of an agent

What an agent answers is forwarded to the consumer either re-encoded, after the hub has restored
the consumer's id, stripped the agent's phases and attached its timings, or as the bytes that the
agent sent when none of that is needed. Chunks and completions of a stream are forwarded as bytes
unless a chunk was normalized. When bytes are forwarded, the consumer reads the value that the hub
has read; of the re-encoded frame it would read the same exactly when the text that `JSON.stringify`
makes of the value is read as the value again. A number beyond the range of doubles is read as
infinity, for example, and written as null.
-/

namespace PlugHub.Frames

open Library

/-- A JSON value over a type of numbers. -/
inductive Json (Number : Type) where
  | null
  | bool (value : Bool)
  | number (value : Number)
  | string (value : Text)
  | array (items : List (Json Number))
  | object (fields : List (Text × Json Number))

namespace Json

variable {Number : Type}

/-- The fields of an object; an array has none that is serialized. -/
def fields : Json Number → Option (List (Text × Json Number))
  | object fields => some fields
  | array _ => some []
  | _ => none

/-- A field of an object. -/
def field (value : Json Number) (name : Text) : Option (Json Number) :=
  (value.fields.getD []).lookup name

/-- Assign a field; on an array the assignment is not serialized, on other values there is none. -/
def assign (value : Json Number) (name : Text) (content : Json Number) : Json Number :=
  match value with
  | object fields =>
    if fields.any fun entry => entry.1 = name then
      object (fields.map fun entry => if entry.1 = name then (name, content) else entry)
    else object (fields ++ [(name, content)])
  | other => other

/-- The fields that a copy takes over; those of an array are its items under their indexes. -/
def spread : Json Number → List (Text × Json Number)
  | object fields => fields
  | array items => items.mapIdx fun index item => (decimal index, item)
  | _ => []

/-- A copy of the fields of a value without some of them. -/
def withoutFields (value : Json Number) (names : List Text) : Json Number :=
  object (value.spread.filter fun entry => entry.1 ∉ names)

end Json

variable {Number : Type}

/-- The id of a message: a string that is not blank, without white space at its ends, or a finite
number as it is written. -/
def toRequestId (numberText : Number → Option Text) : Option (Json Number) → Option Text
  | some (.string text) => some (trim text) |>.filter fun id => id ≠ []
  | some (.number value) => numberText value
  | _ => none

/-- What a relay route says about the forwarding of its response. -/
structure ForwardRoute (Number : Type) where
  clientRequestId : Option Text
  requestServerTimings : Bool
  serverTimings : Option (Json Number)
  agentPhaseTimingsNegotiated : Bool

namespace ForwardRoute

variable (numberText : Number → Option Text) (route : ForwardRoute Number)

/-- The timings of the hub are attached. -/
def shouldAttachServerTimings : Bool := route.requestServerTimings && route.serverTimings.isSome

/-- The response names the phases of the agent. -/
def responseHasAgentPhases (data : Json Number) : Bool :=
  match data.field "meta".toList with
  | some responseMeta =>
    (responseMeta.field "agent_phases".toList).isSome ||
      (responseMeta.field "agentPhases".toList).isSome
  | none => false

/-- The phases of the agent are stripped. -/
def mustStripAgentPhases (data : Json Number) : Bool :=
  responseHasAgentPhases data &&
    (!route.requestServerTimings || !route.agentPhaseTimingsNegotiated)

/-- The id of the consumer is restored. -/
def shouldEchoClientBodyId (data : Json Number) : Bool :=
  match route.clientRequestId with
  | some clientRequestId => toRequestId numberText (data.field "id".toList) ≠ some clientRequestId
  | none => false

/-- The bytes of the agent can be forwarded. -/
def canBypassReencode (data : Json Number) : Bool :=
  !route.shouldAttachServerTimings && !route.shouldEchoClientBodyId numberText data &&
    !route.mustStripAgentPhases data

/-- The response with the id of the consumer. -/
def echoed (data : Json Number) : Json Number :=
  match route.clientRequestId with
  | some clientRequestId =>
    if route.shouldEchoClientBodyId numberText data then
      data.assign "id".toList (.string clientRequestId)
    else data
  | none => data

/-- The response without the phases of the agent. -/
def stripped (data base : Json Number) : Json Number :=
  if route.mustStripAgentPhases data then
    match base.field "meta".toList with
    | some responseMeta =>
      if responseMeta.fields.isSome then
        base.assign "meta".toList
          (responseMeta.withoutFields ["agent_phases".toList, "agentPhases".toList])
      else base
    | none => base
  else base

/-- The response with the timings of the hub. -/
def timed (base : Json Number) : Json Number :=
  match route.serverTimings with
  | some serverTimings =>
    if route.requestServerTimings then
      base.assign "meta".toList
        ((((base.field "meta".toList).getD .null).withoutFields []).assign "serverTimings".toList
          serverTimings)
    else base
  | none => base

/-- The value that the re-encoding delivers. -/
def outboundResponse (data : Json Number) : Json Number :=
  route.timed (route.stripped data (route.echoed numberText data))

end ForwardRoute

/-! ## The frames -/

/-- The options of a frame for a consumer; what the agent compressed is compressed again. -/
def relayOutboundOptions (requestId : Text) (forceGzip : Bool) : EncodePayloadFrameOptions :=
  if forceGzip then
    { requestId := some requestId, omitTraceId := true, compressionThreshold := some (.bytes 1),
      compressionPolicy := some .alwaysGzip }
  else { requestId := some requestId, omitTraceId := true }

section Relay

variable {Value : Type} (env : FrameEnv) (runtime : Runtime Value) (nowMs : Nat)
  (state : FrameState)

/-- Encode a value for a consumer. -/
def encodeRelayOutboundFrame (data : Value) (requestId : Text) (forceGzip : Bool) : Encoding :=
  encodePayloadFrameBridge env runtime data (relayOutboundOptions requestId forceGzip) [] nowMs
    state

/-- Wrap serialized bytes for a consumer. -/
def encodeRelayOutboundFrameFromBytesAsync (bytes : Buffer) (requestId : Text)
    (inboundCmp : Compression) : Encoding :=
  encodePayloadFrameFromBytesAsync env runtime bytes
    (relayOutboundOptions requestId (inboundCmp = .gzip)) [] nowMs state

/-- Wrap a compressed body for a consumer. -/
def encodeRelayOutboundFrameFromPreencodedWireAsync (body : PreencodedBody) (requestId : Text) :
    Encoding :=
  match encodePayloadFrameFromPreencodedWire env runtime body
    (relayOutboundOptions requestId false) [] state with
  | (frame, next) => .done frame next

/-- What is kept of an agent's frame to forward its bytes. -/
structure RelayChunkRawForward where
  bytes : Buffer
  cmp : Compression
  /-- The compressed bytes and the size of the value, when the agent compressed it. -/
  wire : Option (Buffer × Nat)

/-- The bytes of a payload that was decoded; the decoder leaves no other form. -/
def wireBytes : WirePayload → Option Buffer
  | .buffer bytes => some bytes
  | _ => none

/-- What is kept of a decoded chunk or completion. -/
def rawForwardOf (decoded : DecodedPayloadFrame Value) : RelayChunkRawForward where
  bytes := decoded.decodedBytes
  cmp := decoded.frame.cmp
  wire :=
    match decoded.frame.cmp, wireBytes decoded.frame.payload with
    | .gzip, some bytes => some (bytes, decoded.frame.originalSize)
    | _, _ => none

/-- Forward the bytes of a chunk or of a completion. -/
def encodeFrameFromBytes (rawForward : RelayChunkRawForward) (requestId : Text) : Encoding :=
  match rawForward.wire with
  | some (bytes, originalSize) =>
    encodeRelayOutboundFrameFromPreencodedWireAsync env runtime state
      ⟨originalSize, bytes, rawForward.cmp⟩ requestId
  | none =>
    encodeRelayOutboundFrameFromBytesAsync env runtime nowMs state rawForward.bytes requestId
      rawForward.cmp

/-- Forward the bytes of a response. -/
def forwardResponseBytes (decoded : DecodedPayloadFrame Value) (responseId : Text) : Encoding :=
  match decoded.frame.cmp, wireBytes decoded.frame.payload with
  | .gzip, some bytes =>
    encodeRelayOutboundFrameFromPreencodedWireAsync env runtime state
      ⟨decoded.frame.originalSize, bytes, .gzip⟩ responseId
  | _, _ =>
    encodeRelayOutboundFrameFromBytesAsync env runtime nowMs state decoded.decodedBytes responseId
      decoded.frame.cmp

end Relay

section Paths

variable (env : FrameEnv) (runtime : Runtime (Json Number)) (nowMs : Nat) (state : FrameState)

/-- Re-encode a response. -/
def reencodeResponse (numberText : Number → Option Text) (route : ForwardRoute Number)
    (decoded : DecodedPayloadFrame (Json Number)) (responseId : Text) : Encoding :=
  encodeRelayOutboundFrame env runtime nowMs state (route.outboundResponse numberText decoded.data)
    responseId (decoded.frame.cmp = .gzip && decoded.data.fields.isSome)

/-- Forward a response: its bytes when nothing is changed, else re-encoded. -/
def forwardResponse (numberText : Number → Option Text) (route : ForwardRoute Number)
    (decoded : DecodedPayloadFrame (Json Number)) (responseId : Text) : Encoding :=
  if route.canBypassReencode numberText decoded.data then
    forwardResponseBytes env runtime nowMs state decoded responseId
  else reencodeResponse env runtime nowMs state numberText route decoded responseId

/-- Re-encode what is forwarded of a stream. -/
def reencodeStreamFrame (decoded : DecodedPayloadFrame (Json Number)) (requestId : Text) :
    Encoding :=
  encodeRelayOutboundFrame env runtime nowMs state decoded.data requestId
    (decoded.frame.cmp = .gzip)

/-- Forward a chunk: its bytes, or what it was normalized to. -/
def forwardChunk (normalized : Option (Json Number)) (decoded : DecodedPayloadFrame (Json Number))
    (requestId : Text) : Encoding :=
  match normalized with
  | some payload =>
    encodeRelayOutboundFrame env runtime nowMs state payload requestId (decoded.frame.cmp = .gzip)
  | none => encodeFrameFromBytes env runtime nowMs state (rawForwardOf decoded) requestId

/-- Forward a completion. -/
def forwardComplete (decoded : DecodedPayloadFrame (Json Number)) (requestId : Text) : Encoding :=
  encodeFrameFromBytes env runtime nowMs state (rawForwardOf decoded) requestId

end Paths

/-! ## What a decoded frame is known to be -/

theorem decodePayloadFrameAsync_eq {Value : Type} (env : FrameEnv) (runtime : Runtime Value)
    (frame : PayloadFrameEnvelope) (state : FrameState) :
    decodePayloadFrameAsync env runtime frame state =
      decodePayloadFrame env runtime frame state := by
  have inflated : ∀ bytes size, decompressGzipBoundedAsync runtime bytes size =
      decompressGzipBounded runtime bytes size := by
    intro bytes size
    unfold decompressGzipBoundedAsync
    by_cases none : (gzipOutputCap size bytes.length).1 < 1
    · simp only [none, if_true]
    · simp only [none, if_false, decompressGzipBounded]
  unfold decodePayloadFrameAsync decodePayloadFrame
  simp only [inflated, ite_self]

/-- The serialized value of a payload under a compression. -/
def inflate {Value : Type} (runtime : Runtime Value) (cmp : Compression) (originalSize : Nat)
    (payload : Buffer) : Except DecodeError Buffer :=
  match cmp with
  | .none => .ok payload
  | .gzip => decompressGzipBounded runtime payload originalSize

/-- What is known of a frame that was decoded. -/
structure Arrived {Value : Type} (runtime : Runtime Value) (decoded : DecodedPayloadFrame Value)
    (payload : Buffer) : Prop where
  binary : decoded.frame.payload = .buffer payload
  fits : payload.length ≤ maxCompressedPayloadBytes
  inflated : inflate runtime decoded.frame.cmp decoded.frame.originalSize payload =
    .ok decoded.decodedBytes
  final : ∀ frame : PayloadFrameEnvelope, frame.cmp = decoded.frame.cmp →
    frame.originalSize = decoded.frame.originalSize →
    (finalizeDecodedPayloadBytes runtime frame payload decoded.decodedBytes).map (·.data) =
      .ok decoded.data
  within : decoded.decodedBytes.length ≤ maxDecodedPayloadBytes
  parsed : runtime.parse decoded.decodedBytes = some decoded.data

section Arrival

variable {Value : Type} {env : FrameEnv} {runtime : Runtime Value} {frame : PayloadFrameEnvelope}

theorem validate_ok {signatures : SignatureCache} {payload : Buffer}
    (passes : (validatePayloadFrameForDecode env runtime frame signatures).1 = .ok payload) :
    payload.length ≤ maxCompressedPayloadBytes := by
  unfold validatePayloadFrameForDecode at passes
  cases binary : toBuffer runtime frame.payload with
  | none =>
    simp only [binary] at passes
    cases passes
  | some bytes =>
    simp only [binary] at passes
    split at passes
    · cases passes
    · next small =>
      split at passes
      · cases passes
      · generalize validateFrameSignature env runtime frame bytes signatures = answer at passes
        obtain ⟨outcome, remembered⟩ := answer
        cases outcome with
        | error error => cases passes
        | ok checked =>
          cases passes
          omega

theorem finalize_ok {payload decodedBytes : Buffer} {decoded : DecodedPayloadFrame Value}
    (passes : finalizeDecodedPayloadBytes runtime frame payload decodedBytes = .ok decoded) :
    decoded.frame = { frame with payload := .buffer payload } ∧
      decoded.decodedBytes = decodedBytes ∧ decodedBytes.length ≤ maxDecodedPayloadBytes ∧
      runtime.parse decodedBytes = some decoded.data ∧
      ∀ other : PayloadFrameEnvelope, other.cmp = frame.cmp →
        other.originalSize = frame.originalSize →
        (finalizeDecodedPayloadBytes runtime other payload decodedBytes).map (·.data) =
          .ok decoded.data := by
  unfold finalizeDecodedPayloadBytes at passes
  split at passes
  · cases passes
  · next small =>
    split at passes
    · cases passes
    · next ratio =>
      split at passes
      · cases passes
      · next size =>
        cases parsed : runtime.parse decodedBytes with
        | none =>
          rw [parsed] at passes
          cases passes
        | some data =>
          rw [parsed] at passes
          cases passes
          refine ⟨rfl, rfl, by omega, rfl, fun other cmp original => ?_⟩
          unfold finalizeDecodedPayloadBytes
          rw [cmp, original, if_neg small, if_neg ratio, if_neg size, parsed]
          rfl

theorem arrived_of_decoded {state : FrameState} {decoded : DecodedPayloadFrame Value}
    (decodes : (decodePayloadFrameAsync env runtime frame state).1 = .ok decoded) :
    ∃ payload, Arrived runtime decoded payload := by
  rw [decodePayloadFrameAsync_eq] at decodes
  unfold decodePayloadFrame at decodes
  generalize checked : validatePayloadFrameForDecode env runtime frame state.signatures = outcome
    at decodes
  obtain ⟨result, remembered⟩ := outcome
  cases result with
  | error error => cases decodes
  | ok payload =>
    have fits := validate_ok (congrArg Prod.fst checked)
    have opened : ((inflate runtime frame.cmp frame.originalSize payload).bind fun decodedBytes =>
        finalizeDecodedPayloadBytes runtime frame payload decodedBytes) = .ok decoded := by
      rw [← decodes]
      cases frame.cmp with
      | none => rfl
      | gzip => rfl
    cases inflated : inflate runtime frame.cmp frame.originalSize payload with
    | error error =>
      rw [inflated] at opened
      cases opened
    | ok decodedBytes =>
      rw [inflated] at opened
      obtain ⟨shape, bytes, within, parsed, final⟩ := finalize_ok opened
      refine ⟨payload, by rw [shape], fits, ?_, ?_, ?_, ?_⟩
      · rw [shape, bytes]
        exact inflated
      · rw [shape, bytes]
        exact final
      · rw [bytes]
        exact within
      · rw [bytes]
        exact parsed

end Arrival

/-! ## Forwarded and re-encoded frames -/

section Forwarded

variable {Value : Type} {env : FrameEnv} {runtime : Runtime Value}

/-- The frame is rejected because its signature names no key. -/
structure RejectsUnnamed (env : FrameEnv) (runtime : Runtime Value) (frame : PayloadFrameEnvelope)
    (state : FrameState) : Prop where
  sync : (decodePayloadFrame env runtime frame state).1 = .error .missingKeyId
  async : (decodePayloadFrameAsync env runtime frame state).1 = .error .missingKeyId

/-- The payload of an agent, wrapped again, is read as the agent's value. -/
theorem reads_wire (reliable : runtime.Reliable) {decoded : DecodedPayloadFrame Value}
    {payload : Buffer}
    (arrived : Arrived runtime decoded payload) (options : EncodePayloadFrameOptions)
    (freshTraceId : Text) (signatures : SignatureCache) (adaptive : AdaptiveCache) :
    let finished := finishPayloadFrameEnvelope env runtime
      ⟨decoded.frame.originalSize, payload, decoded.frame.cmp⟩ options freshTraceId signatures
    (¬SignsUnnamed env ∧ Reads env runtime decoded.data finished.1 ⟨adaptive, finished.2⟩) ∨
      (SignsUnnamed env ∧ RejectsUnnamed env runtime finished.1 ⟨adaptive, finished.2⟩) := by
  intro finished
  have wraps : Wraps finished.1 ⟨decoded.frame.originalSize, payload, decoded.frame.cmp⟩ :=
    wraps_finish env runtime _ options freshTraceId signatures
  have checks : (validatePayloadFrameForDecode env runtime finished.1 finished.2).1 = _ :=
    validate_wraps wraps finished.2
  rw [if_neg (Nat.not_lt.mpr arrived.fits)] at checks
  rcases validate_finished env reliable ⟨decoded.frame.originalSize, payload, decoded.frame.cmp⟩
    options freshTraceId signatures with ⟨unnamed, rejected⟩ | ⟨named, accepted⟩
  · rw [rejected] at checks
    have fails : (decodePayloadFrame env runtime finished.1 ⟨adaptive, finished.2⟩).1 = _ ∧
        (decodePayloadFrameAsync env runtime finished.1 ⟨adaptive, finished.2⟩).1 = _ :=
      decode_of_error checks
    exact .inr ⟨unnamed, fails.1, fails.2⟩
  · rw [accepted] at checks
    have sync : (decodePayloadFrame env runtime finished.1 ⟨adaptive, finished.2⟩).1.map (·.data) =
        .ok decoded.data := by
      have cmp : finished.1.cmp = decoded.frame.cmp := wraps.cmp
      have size : finished.1.originalSize = decoded.frame.originalSize := wraps.originalSize
      have final := arrived.final finished.1 cmp size
      have inflated := arrived.inflated
      rw [← cmp, ← size] at inflated
      unfold decodePayloadFrame
      generalize validatePayloadFrameForDecode env runtime finished.1 finished.2 = outcome at checks
      obtain ⟨result, remembered⟩ := outcome
      cases checks
      unfold inflate at inflated
      simp only
      cases shape : finished.1.cmp with
      | none =>
        rw [shape] at inflated
        simp only [Except.ok.injEq] at inflated
        rw [← inflated] at final
        exact final
      | gzip =>
        rw [shape] at inflated
        simp only at inflated
        simp only [inflated]
        exact final
    refine .inl ⟨named, sync, ?_⟩
    rw [decodePayloadFrameAsync_eq]
    exact sync

theorem not_reads_of_large {frame : PayloadFrameEnvelope}
    (large : maxDecodedPayloadBytes < frame.originalSize) (state : FrameState) (value : Value) :
    ¬Reads env runtime value frame state := by
  intro reads
  have sync := reads.sync
  unfold decodePayloadFrame at sync
  generalize validatePayloadFrameForDecode env runtime frame state.signatures = outcome at sync
  obtain ⟨result, remembered⟩ := outcome
  have final : ∀ payload bytes, finalizeDecodedPayloadBytes runtime frame payload bytes =
      .error .decodedLimit := by
    intro payload bytes
    unfold finalizeDecodedPayloadBytes
    rw [if_pos (.inr large)]
  cases result with
  | error error => cases sync
  | ok payload =>
    simp only [final] at sync
    cases shape : frame.cmp with
    | none =>
      rw [shape] at sync
      cases sync
    | gzip =>
      rw [shape] at sync
      simp only at sync
      generalize decompressGzipBounded runtime payload frame.originalSize = inflated at sync
      cases inflated with
      | error error => cases sync
      | ok bytes => cases sync

end Forwarded

section Agreement

variable {Value : Type} {env : FrameEnv} {runtime : Runtime Value}

variable {options : EncodePayloadFrameOptions}

theorem every_encodeBytesAsync {bytes : Buffer}
    {freshTraceId : Text} {nowMs : Nat} {state : FrameState} {fine : PreencodedBody → Prop}
    {holds : PayloadFrameEnvelope → FrameState → Prop}
    (sync : fine (preencodeUtf8Buffer env runtime bytes
      (preencodeOptions env options bytes.length) nowMs state.adaptive).1)
    (async : (preencodeUtf8BufferAsync env runtime bytes
      (preencodeOptions env options bytes.length) nowMs state.adaptive).Every fine)
    (finish : ∀ body signatures adaptive, fine body →
      holds (finishPayloadFrameEnvelope env runtime body options freshTraceId signatures).1
        ⟨adaptive,
          (finishPayloadFrameEnvelope env runtime body options freshTraceId signatures).2⟩) :
    (encodeBytesAsync env runtime bytes options freshTraceId nowMs state).Every holds := by
  unfold encodeBytesAsync
  by_cases small : encodesAtOnce env bytes options = true
  · rw [if_pos small]
    exact finish _ state.signatures _ sync
  · rw [if_neg small]
    generalize preencodeUtf8BufferAsync env runtime bytes
      (preencodeOptions env options bytes.length) nowMs state.adaptive = result at async
    cases result with
    | done body adaptive => exact finish body state.signatures adaptive async
    | compressing adaptive resume =>
      intro laterMs later
      exact finish _ later.signatures _ (async laterMs later.adaptive)

theorem originalSize_finish (encoded compressed : Buffer) (options : PreencodeOptions) (nowMs : Nat)
    (cache : AdaptiveCache) :
    (finishAutoGzipBody env encoded compressed options nowMs cache).1.originalSize =
      encoded.length := by
  unfold finishAutoGzipBody
  cases options.compressionPolicy.getD .auto with
  | auto | alwaysGzip =>
    simp only
    split <;> rfl

theorem originalSize_preencode (encoded : Buffer) (options : PreencodeOptions) (nowMs : Nat)
    (cache : AdaptiveCache) :
    (preencodeUtf8Buffer env runtime encoded options nowMs cache).1.originalSize =
      encoded.length := by
  unfold preencodeUtf8Buffer
  split
  · rfl
  · cases options.compressionPolicy.getD .auto with
    | alwaysGzip => exact originalSize_finish encoded _ options nowMs cache
    | auto =>
      simp only
      obtain ⟨skip, remembered⟩ :=
        shouldSkipAutoGzip cache options.compressionCacheEvent encoded.length nowMs
      cases skip with
      | true => rfl
      | false => exact originalSize_finish encoded _ options nowMs remembered

theorem originalSize_preencodeAsync (encoded : Buffer) (options : PreencodeOptions) (nowMs : Nat)
    (cache : AdaptiveCache) :
    (preencodeUtf8BufferAsync env runtime encoded options nowMs cache).Every fun body =>
      body.originalSize = encoded.length := by
  unfold preencodeUtf8BufferAsync
  split
  · rfl
  · cases options.compressionPolicy.getD .auto with
    | alwaysGzip => exact fun laterMs later => originalSize_finish encoded _ options laterMs later
    | auto =>
      simp only
      obtain ⟨skip, remembered⟩ :=
        shouldSkipAutoGzip cache options.compressionCacheEvent encoded.length nowMs
      cases skip with
      | true => rfl
      | false => exact fun laterMs later => originalSize_finish encoded _ options laterMs later

/-- Bytes of a value that are wrapped under the automatic policy are read as the value, unless the
signature names no key. -/
theorem delivers_bytes (reliable : runtime.Reliable) {bytes : Buffer} {data : Value}
    (parsed : runtime.parse bytes = some data) (within : bytes.length ≤ maxDecodedPayloadBytes)
    (ratio : options.maxInflationRatio = none)
    (auto : options.compressionPolicy = none) (freshTraceId : Text) (nowMs : Nat)
    (state : FrameState) :
    (encodeBytesAsync env runtime bytes options freshTraceId nowMs state).Every fun frame later =>
      (¬SignsUnnamed env ∧ Reads env runtime data frame later) ∨
        (SignsUnnamed env ∧ RejectsUnnamed env runtime frame later) := by
  have bodyRatio : (preencodeOptions env options bytes.length).maxInflationRatio = none := ratio
  have notLarge : ¬KeepsOversized env runtime bytes
    (preencodeOptions env options bytes.length) := by
    intro keeps
    have policy : options.compressionPolicy = some .alwaysGzip := keeps.1
    rw [auto] at policy
    cases policy
  refine every_encodeBytesAsync (shaped_preencode within bodyRatio nowMs state.adaptive)
    (shaped_preencodeAsync within bodyRatio nowMs state.adaptive)
    fun body signatures adaptive shaped => ?_
  have made : BodyOf env runtime bytes body := by
    rcases shaped with ⟨-, made⟩ | ⟨keeps, -⟩
    · exact made
    · exact absurd keeps notLarge
  have small : ¬maxCompressedPayloadBytes < body.wireBytes.length := by
    cases made with
    | plain => exact Nat.not_lt.mpr within
    | compressed size _ => exact Nat.not_lt.mpr size
  have wraps := wraps_finish env runtime body options freshTraceId signatures
  have checks : (validatePayloadFrameForDecode env runtime
      (finishPayloadFrameEnvelope env runtime body options freshTraceId signatures).1
      (finishPayloadFrameEnvelope env runtime body options freshTraceId signatures).2).1 = _ :=
    validate_wraps wraps _
  rw [if_neg small] at checks
  rcases validate_finished env reliable body options freshTraceId signatures with
    ⟨unnamed, rejected⟩ | ⟨named, accepted⟩
  · rw [rejected] at checks
    have fails : (decodePayloadFrame env runtime _ ⟨adaptive, _⟩).1 = _ ∧
        (decodePayloadFrameAsync env runtime _ ⟨adaptive, _⟩).1 = _ := decode_of_error checks
    exact .inr ⟨unnamed, fails.1, fails.2⟩
  · rw [accepted] at checks
    exact .inl ⟨named, (opens_of_body reliable within made wraps checks).reads_iff.mpr parsed⟩

/-- A frame of serialized bytes that is read at all is read as the bytes are, and nothing was in
the way. -/
theorem reads_only (reliable : runtime.Reliable) {bytes : Buffer}
    (ratio : options.maxInflationRatio = none)
    (freshTraceId : Text) (nowMs : Nat) (state : FrameState) :
    (encodeBytesAsync env runtime bytes options freshTraceId nowMs state).Every fun frame later =>
      ∀ value, Reads env runtime value frame later → runtime.parse bytes = some value ∧
        ¬SignsUnnamed env ∧ bytes.length ≤ maxDecodedPayloadBytes ∧
        ¬KeepsOversized env runtime bytes (preencodeOptions env options bytes.length) := by
  have bodyRatio : (preencodeOptions env options bytes.length).maxInflationRatio = none := ratio
  by_cases within : bytes.length ≤ maxDecodedPayloadBytes
  · refine every_encodeBytesAsync (shaped_preencode within bodyRatio nowMs state.adaptive)
      (shaped_preencodeAsync within bodyRatio nowMs state.adaptive)
      fun body signatures adaptive shaped value reads => ?_
    rcases opens_finish reliable within shaped options freshTraceId signatures adaptive with
      ⟨fine, opens⟩ | ⟨-, never⟩
    · exact ⟨opens.reads_iff.mp reads, fine.1, within, fine.2⟩
    · exact absurd reads (never value)
  · refine every_encodeBytesAsync (originalSize_preencode bytes _ nowMs state.adaptive)
      (originalSize_preencodeAsync bytes _ nowMs state.adaptive)
      fun body signatures adaptive size value reads => ?_
    have wraps := wraps_finish env runtime body options freshTraceId signatures
    refine absurd reads (not_reads_of_large ?_ _ value)
    rw [wraps.originalSize, size]
    omega

/-- Forwarding bytes agrees with re-encoding: what is forwarded is read as the value, or rejected
because the hub signs without a name, never because of its size; and whatever a re-encoded frame
is read as, every forwarded frame is read as. -/
structure Agrees (env : FrameEnv) (runtime : Runtime Value) (data : Value)
    (forwarded reencoded : Encoding) : Prop where
  /-- What is forwarded is read as the value, or rejected for its signature. -/
  delivers : forwarded.Every fun frame state =>
    Reads env runtime data frame state ∨ RejectsUnnamed env runtime frame state
  /-- What a re-encoded frame is read as is the value, and every forwarded frame is read so. -/
  rereads : reencoded.Every fun frame state => ∀ value, Reads env runtime value frame state →
    value = data ∧ forwarded.Every (Reads env runtime value)

theorem Encoding.Every.imp {encoding : Encoding}
    {holds weaker : PayloadFrameEnvelope → FrameState → Prop} (every : encoding.Every holds)
    (weaken : ∀ frame state, holds frame state → weaker frame state) : encoding.Every weaker := by
  cases encoding with
  | done frame state => exact weaken frame state every
  | compressing state resume => exact fun laterMs later => weaken _ _ (every laterMs later)

theorem Encoding.Every.exists {encoding : Encoding}
    {holds also : PayloadFrameEnvelope → FrameState → Prop} (every : encoding.Every holds)
    (too : encoding.Every also) : ∃ frame state, holds frame state ∧ also frame state := by
  cases encoding with
  | done frame state => exact ⟨frame, state, every, too⟩
  | compressing state resume => exact ⟨_, _, every 0 state, too 0 state⟩

/-- Re-encoding keeps a value: what the text of the value is read as is the value, unless a frame of
the text is never read, since the hub signs without a name, the text is too long or its compressed
form is kept although it is too long. -/
def ReencodingKeeps (env : FrameEnv) (runtime : Runtime Value) (data : Value) (forceGzip : Bool) :
    Prop :=
  ∀ value, runtime.parse (runtime.stringify data) = some value → ¬SignsUnnamed env →
    (runtime.stringify data).length ≤ maxDecodedPayloadBytes →
    ¬KeepsOversized env runtime (runtime.stringify data)
      (preencodeOptions env (relayOutboundOptions [] forceGzip) (runtime.stringify data).length) →
    value = data

/-- Bytes that are delivered as a value agree with its re-encoding exactly when that keeps it. -/
theorem agrees_iff_keeps (reliable : runtime.Reliable) {data : Value} {forwarded : Encoding}
    (delivers : forwarded.Every fun frame later =>
      (¬SignsUnnamed env ∧ Reads env runtime data frame later) ∨
        (SignsUnnamed env ∧ RejectsUnnamed env runtime frame later))
    (requestId : Text) (forceGzip : Bool) (nowMs : Nat) (state : FrameState) :
    Agrees env runtime data forwarded
        (encodeRelayOutboundFrame env runtime nowMs state data requestId forceGzip) ↔
      ReencodingKeeps env runtime data forceGzip := by
  have ratio : (relayOutboundOptions requestId forceGzip).maxInflationRatio = none := by
    cases forceGzip <;> rfl
  have options : ∀ length, preencodeOptions env (relayOutboundOptions requestId forceGzip) length =
      preencodeOptions env (relayOutboundOptions [] forceGzip) length := by
    intro length
    cases forceGzip <;> rfl
  constructor
  · intro agrees value parsed named within small
    rw [← options] at small
    have reads : (encodeRelayOutboundFrame env runtime nowMs state data requestId
        forceGzip).Every (Reads env runtime value) :=
      (reads_encodeBytesAsync_iff env [] nowMs state reliable parsed within ratio).mpr
        ⟨named, small⟩
    obtain ⟨frame, later, own, matched⟩ := reads.exists agrees.rereads
    exact (matched value own).1
  · intro keeps
    constructor
    · refine delivers.imp fun frame later outcome => ?_
      rcases outcome with ⟨-, reads⟩ | ⟨-, rejects⟩
      · exact .inl reads
      · exact .inr rejects
    · have only : (encodeBytesAsync env runtime (runtime.stringify data)
          (relayOutboundOptions requestId forceGzip) [] nowMs state).Every _ :=
        reads_only reliable ratio [] nowMs state
      refine only.imp fun frame later reads value own => ?_
      obtain ⟨parsed, named, within, small⟩ := reads value own
      rw [options] at small
      have same := keeps value parsed named within small
      refine ⟨same, delivers.imp fun other last outcome => ?_⟩
      rcases outcome with ⟨-, delivered⟩ | ⟨unnamed, -⟩
      · rw [same]
        exact delivered
      · exact absurd unnamed named

theorem delivers_rawForward (reliable : runtime.Reliable) {decoded : DecodedPayloadFrame Value}
    {payload : Buffer} (arrived : Arrived runtime decoded payload) (requestId : Text) (nowMs : Nat)
    (state : FrameState) :
    (encodeFrameFromBytes env runtime nowMs state (rawForwardOf decoded) requestId).Every
      fun frame later =>
        (¬SignsUnnamed env ∧ Reads env runtime decoded.data frame later) ∨
          (SignsUnnamed env ∧ RejectsUnnamed env runtime frame later) := by
  cases cmp : decoded.frame.cmp with
  | none =>
    have raw : rawForwardOf decoded = ⟨decoded.decodedBytes, .none, none⟩ := by
      simp only [rawForwardOf, cmp]
    rw [raw]
    exact delivers_bytes reliable arrived.parsed arrived.within rfl rfl [] nowMs state
  | gzip =>
    have raw : rawForwardOf decoded =
        ⟨decoded.decodedBytes, .gzip, some (payload, decoded.frame.originalSize)⟩ := by
      simp only [rawForwardOf, cmp, arrived.binary, wireBytes]
    rw [raw]
    rw [← cmp]
    exact reads_wire reliable arrived (relayOutboundOptions requestId false) [] state.signatures
      state.adaptive

theorem forwardResponseBytes_eq (nowMs : Nat) (state : FrameState)
    (decoded : DecodedPayloadFrame Value) (responseId : Text) :
    forwardResponseBytes env runtime nowMs state decoded responseId =
      encodeFrameFromBytes env runtime nowMs state (rawForwardOf decoded) responseId := by
  unfold forwardResponseBytes encodeFrameFromBytes rawForwardOf
  cases decoded.frame.cmp with
  | none => rfl
  | gzip =>
    cases wireBytes decoded.frame.payload with
    | none => rfl
    | some bytes => rfl

end Agreement

theorem outboundResponse_of_bypass {numberText : Number → Option Text} {route : ForwardRoute Number}
    {data : Json Number} (bypass : route.canBypassReencode numberText data = true) :
    route.outboundResponse numberText data = data := by
  simp only [ForwardRoute.canBypassReencode, Bool.and_eq_true, Bool.not_eq_true'] at bypass
  obtain ⟨⟨attach, echo⟩, strip⟩ := bypass
  have sameId : route.echoed numberText data = data := by
    unfold ForwardRoute.echoed
    cases route.clientRequestId with
    | none => rfl
    | some clientRequestId => simp only [echo, Bool.false_eq_true, if_false]
  have samePhases : route.stripped data data = data := by
    unfold ForwardRoute.stripped
    rw [strip, if_neg (by decide)]
  unfold ForwardRoute.outboundResponse
  rw [sameId, samePhases]
  unfold ForwardRoute.timed
  cases timings : route.serverTimings with
  | none => rfl
  | some serverTimings =>
    simp only [ForwardRoute.shouldAttachServerTimings, timings, Option.isSome_some,
      Bool.and_true] at attach
    simp only [attach, Bool.false_eq_true, if_false]

/-! ## Forwarding -/

/-- For every frame of an agent that decodes and every path that forwards its bytes (a response on
a route that changes nothing, a chunk that is not normalized, a completion), forwarding the bytes
agrees with re-encoding the value exactly when re-encoding keeps the value. -/
theorem byte_forwarding_agrees_iff {env : FrameEnv} {runtime : Runtime (Json Number)}
    (reliable : runtime.Reliable) {inbound : PayloadFrameEnvelope} {arrival : FrameState}
    {decoded : DecodedPayloadFrame (Json Number)}
    (decodes : (decodePayloadFrameAsync env runtime inbound arrival).1 = .ok decoded)
    (numberText : Number → Option Text) (requestId : Text) (nowMs : Nat) (state : FrameState) :
    (∀ route : ForwardRoute Number, route.canBypassReencode numberText decoded.data = true →
      (Agrees env runtime (route.outboundResponse numberText decoded.data)
          (forwardResponse env runtime nowMs state numberText route decoded requestId)
          (reencodeResponse env runtime nowMs state numberText route decoded requestId) ↔
        ReencodingKeeps env runtime decoded.data
          (decoded.frame.cmp = .gzip && decoded.data.fields.isSome))) ∧
    (Agrees env runtime decoded.data
        (forwardChunk env runtime nowMs state none decoded requestId)
        (reencodeStreamFrame env runtime nowMs state decoded requestId) ↔
      ReencodingKeeps env runtime decoded.data (decoded.frame.cmp = .gzip)) ∧
    (Agrees env runtime decoded.data
        (forwardComplete env runtime nowMs state decoded requestId)
        (reencodeStreamFrame env runtime nowMs state decoded requestId) ↔
      ReencodingKeeps env runtime decoded.data (decoded.frame.cmp = .gzip)) := by
  obtain ⟨payload, arrived⟩ := arrived_of_decoded decodes
  have delivers : (encodeFrameFromBytes env runtime nowMs state _ requestId).Every _ :=
    delivers_rawForward reliable arrived requestId nowMs state
  refine ⟨fun route bypass => ?_, ?_, ?_⟩
  · unfold forwardResponse reencodeResponse
    rw [if_pos bypass, forwardResponseBytes_eq, outboundResponse_of_bypass bypass]
    exact agrees_iff_keeps reliable delivers requestId _ nowMs state
  · exact agrees_iff_keeps reliable delivers requestId _ nowMs state
  · exact agrees_iff_keeps reliable delivers requestId _ nowMs state

/-- The UTF-8 bytes of a text. -/
def utf8 (text : Text) : Buffer := text.flatMap String.utf8EncodeChar

/-- A response with a result. -/
def responseWith (result : Json Unit) : Json Unit :=
  .object [("jsonrpc".toList, .string "2.0".toList), ("id".toList, .string "1".toList),
    ("result".toList, result)]

/-- The JSON text of a response with the text of its result. -/
def responseText (result : Text) : Buffer :=
  utf8 ("\x7b\"jsonrpc\":\"2.0\",\"id\":\"1\",\"result\":".toList ++ result ++ "\x7d".toList)

/-- A runtime on values whose one number is infinity, which is read of 1e400 and written as null: it
knows the string of a hundred letters and the responses with the number and with null. -/
def infinityRuntime : Runtime (Json Unit) :=
  lettersRuntime
    (fun
      | .string _ => lettersText
      | .object _ => responseText "null".toList
      | _ => utf8 "null".toList)
    fun bytes =>
      if bytes = lettersText then some (.string (List.replicate 100 'a'))
      else if bytes = responseText "null".toList then some (responseWith .null)
      else if bytes = responseText "1e400".toList then some (responseWith (.number ()))
      else none

/-- The compressed and signed frame of an agent. -/
def lettersInbound : PayloadFrameEnvelope :=
  { cmp := .gzip, originalSize := 102, compressedSize := 25, payload := .buffer lettersGzip
    signature := some ⟨"uiErXOl8H0SLdg1vuSTaHDFjj11u2mjTY78+0A4+lvw=".toList, some "k1".toList⟩ }

set_option maxRecDepth 4000 in
theorem decodes_lettersInbound :
    (decodePayloadFrameAsync namedKeyEnv infinityRuntime lettersInbound {}).1 =
      .ok ⟨lettersInbound, .string (List.replicate 100 'a'), lettersText⟩ := by
  rfl

/-- The bytes of a compressed and signed frame are forwarded as its re-encoding is. -/
theorem letters_forwarding_agrees :
    Agrees namedKeyEnv infinityRuntime (.string (List.replicate 100 'a'))
      (forwardComplete namedKeyEnv infinityRuntime 0 {}
        ⟨lettersInbound, .string (List.replicate 100 'a'), lettersText⟩ ['r'])
      (reencodeStreamFrame namedKeyEnv infinityRuntime 0 {}
        ⟨lettersInbound, .string (List.replicate 100 'a'), lettersText⟩ ['r']) := by
  have either := byte_forwarding_agrees_iff (lettersRuntime_reliable _ _) decodes_lettersInbound
    (fun _ => none) ['r'] 0 {}
  refine either.2.2.mpr fun value parsed named within small => ?_
  cases parsed
  rfl

/-- The frame of an agent whose response is a number beyond the range of doubles. -/
def infinityInbound : PayloadFrameEnvelope :=
  { cmp := .none, originalSize := 41, compressedSize := 41
    payload := .buffer (responseText "1e400".toList) }

/-- The frame as it is decoded. -/
def infinityDecoded : DecodedPayloadFrame (Json Unit) :=
  ⟨infinityInbound, responseWith (.number ()), responseText "1e400".toList⟩

/-- The bytes of a response with the number 1e400 are forwarded, which is read as infinity; the
re-encoded response has null in its place. -/
theorem infinity_forwarded :
    ¬∀ (env : FrameEnv) (runtime : Runtime (Json Unit)), runtime.Reliable →
      ∀ (inbound : PayloadFrameEnvelope) (arrival : FrameState)
        (decoded : DecodedPayloadFrame (Json Unit)),
        (decodePayloadFrameAsync env runtime inbound arrival).1 = .ok decoded →
      ∀ (numberText : Unit → Option Text) (requestId : Text) (nowMs : Nat) (state : FrameState)
        (route : ForwardRoute Unit), route.canBypassReencode numberText decoded.data = true →
        Agrees env runtime (route.outboundResponse numberText decoded.data)
          (forwardResponse env runtime nowMs state numberText route decoded requestId)
          (reencodeResponse env runtime nowMs state numberText route decoded requestId) := by
  intro every
  have agrees := every {} infinityRuntime (lettersRuntime_reliable _ _) infinityInbound {}
    infinityDecoded rfl (fun _ => none) ['r'] 0 {} ⟨none, false, none, false⟩ rfl
  obtain ⟨frame, state, made, reads⟩ : ∃ frame state,
      reencodeResponse {} infinityRuntime 0 {} (fun _ => none) ⟨none, false, none, false⟩
        infinityDecoded ['r'] = .done frame state ∧
      Reads {} infinityRuntime (responseWith .null) frame state :=
    ⟨_, _, rfl, rfl, rfl⟩
  have rereads := agrees.rereads
  rw [made] at rereads
  obtain ⟨same, -⟩ := rereads _ reads
  cases same

end PlugHub.Frames
