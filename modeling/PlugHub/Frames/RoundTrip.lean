import PlugHub.Frames.Codec

/-!
# What the hub encodes, the hub decodes

Every encoder wraps either the serialized value or its compressed form, and the decoder reads the
value back unless the hub signs without naming its key while older keys are named, or keeps a
compressed form beyond the size limit.
-/

namespace PlugHub.Frames

open Library

variable {Value : Type}

/-! ## The body of a frame -/

/-- The bodies of a serialized value: itself, or its compressed form when that is kept. -/
inductive BodyOf (env : FrameEnv) (runtime : Runtime Value) (encoded : Buffer) :
    PreencodedBody → Prop
  | plain : BodyOf env runtime encoded (uncompressedBody encoded)
  | compressed
      (fits : (runtime.gzip env.payloadFrameGzipLevel encoded).length ≤ maxCompressedPayloadBytes)
      (ratio : exceedsMaxInflationRatio encoded.length
        (runtime.gzip env.payloadFrameGzipLevel encoded).length maxInflationRatio = false) :
      BodyOf env runtime encoded
        ⟨encoded.length, runtime.gzip env.payloadFrameGzipLevel encoded, .gzip⟩

/-- The encoder keeps a compressed form that is larger than a frame may carry: gzip is tried and
always kept, the value is not too large for it, and it exceeds the limit. -/
def KeepsOversized (env : FrameEnv) (runtime : Runtime Value) (encoded : Buffer)
    (options : PreencodeOptions) : Prop :=
  options.compressionPolicy = some .alwaysGzip ∧ gzipEligible env encoded options = true ∧
  exceedsMaxInflationRatio encoded.length
    (runtime.gzip env.payloadFrameGzipLevel encoded).length maxInflationRatio = false ∧
  maxCompressedPayloadBytes < (runtime.gzip env.payloadFrameGzipLevel encoded).length

section Bodies

variable {env : FrameEnv} {runtime : Runtime Value} {encoded : Buffer}
  {options : PreencodeOptions}

theorem bodyOf_finish_auto (within : encoded.length ≤ maxDecodedPayloadBytes)
    (ratio : options.maxInflationRatio = none) (auto : options.compressionPolicy.getD .auto = .auto)
    (nowMs : Nat) (cache : AdaptiveCache) :
    BodyOf env runtime encoded (finishAutoGzipBody env encoded
      (runtime.gzip env.payloadFrameGzipLevel encoded) options nowMs cache).1 := by
  simp only [finishAutoGzipBody, auto, ratio, Option.getD_none]
  split
  · next reduced =>
    simp only [Bool.and_eq_true, Bool.not_eq_true', decide_eq_true_eq] at reduced
    refine .compressed ?_ reduced.1
    have limits : maxDecodedPayloadBytes = maxCompressedPayloadBytes := rfl
    omega
  · exact .plain

theorem finish_always (ratio : options.maxInflationRatio = none)
    (always : options.compressionPolicy = some .alwaysGzip) (nowMs : Nat) (cache : AdaptiveCache) :
    (finishAutoGzipBody env encoded (runtime.gzip env.payloadFrameGzipLevel encoded) options nowMs
      cache).1 =
      if exceedsMaxInflationRatio encoded.length
        (runtime.gzip env.payloadFrameGzipLevel encoded).length maxInflationRatio then
        uncompressedBody encoded
      else ⟨encoded.length, runtime.gzip env.payloadFrameGzipLevel encoded, .gzip⟩ := by
  simp only [finishAutoGzipBody, always, ratio, Option.getD_some, Option.getD_none]
  split <;> rfl

/-- The body that the options give: one that a frame may carry, or the compressed form that is kept
although it exceeds the limit. -/
def Shaped (env : FrameEnv) (runtime : Runtime Value) (encoded : Buffer)
    (options : PreencodeOptions) (body : PreencodedBody) : Prop :=
  (¬KeepsOversized env runtime encoded options ∧ BodyOf env runtime encoded body) ∨
    (KeepsOversized env runtime encoded options ∧
      body = ⟨encoded.length, runtime.gzip env.payloadFrameGzipLevel encoded, .gzip⟩)

theorem shaped_finish (within : encoded.length ≤ maxDecodedPayloadBytes)
    (ratio : options.maxInflationRatio = none) (eligible : gzipEligible env encoded options = true)
    (nowMs : Nat) (cache : AdaptiveCache) :
    Shaped env runtime encoded options (finishAutoGzipBody env encoded
      (runtime.gzip env.payloadFrameGzipLevel encoded) options nowMs cache).1 := by
  by_cases always : options.compressionPolicy = some .alwaysGzip
  · rw [finish_always ratio always]
    cases exceeds : exceedsMaxInflationRatio encoded.length
      (runtime.gzip env.payloadFrameGzipLevel encoded).length maxInflationRatio with
    | true =>
      rw [if_pos rfl]
      refine .inl ⟨fun keeps => ?_, .plain⟩
      rw [keeps.2.2.1] at exceeds
      cases exceeds
    | false =>
      rw [if_neg (by decide)]
      by_cases fits : (runtime.gzip env.payloadFrameGzipLevel encoded).length ≤
          maxCompressedPayloadBytes
      · refine .inl ⟨fun keeps => ?_, .compressed fits exceeds⟩
        have large := keeps.2.2.2
        omega
      · exact .inr ⟨⟨always, eligible, exceeds, by omega⟩, rfl⟩
  · have auto : options.compressionPolicy.getD .auto = .auto := by
      cases policy : options.compressionPolicy with
      | none => rfl
      | some chosen =>
        cases chosen with
        | auto => rfl
        | alwaysGzip => exact absurd policy always
    exact .inl ⟨fun keeps => always keeps.1, bodyOf_finish_auto within ratio auto nowMs cache⟩

theorem shaped_of_ineligible (ineligible : gzipEligible env encoded options = false) :
    Shaped env runtime encoded options (uncompressedBody encoded) := by
  refine .inl ⟨fun keeps => ?_, .plain⟩
  rw [keeps.2.1] at ineligible
  cases ineligible

theorem shaped_of_auto (auto : options.compressionPolicy.getD .auto = .auto) :
    Shaped env runtime encoded options (uncompressedBody encoded) := by
  refine .inl ⟨fun keeps => ?_, .plain⟩
  rw [keeps.1] at auto
  cases auto

theorem shaped_preencode (within : encoded.length ≤ maxDecodedPayloadBytes)
    (ratio : options.maxInflationRatio = none) (nowMs : Nat) (cache : AdaptiveCache) :
    Shaped env runtime encoded options
      (preencodeUtf8Buffer env runtime encoded options nowMs cache).1 := by
  unfold preencodeUtf8Buffer
  cases eligible : gzipEligible env encoded options with
  | false =>
    rw [if_pos rfl]
    exact shaped_of_ineligible eligible
  | true =>
    rw [if_neg (by decide)]
    cases policy : options.compressionPolicy.getD .auto with
    | alwaysGzip => exact shaped_finish within ratio eligible nowMs cache
    | auto =>
      obtain ⟨skip, remembered⟩ :=
        shouldSkipAutoGzip cache options.compressionCacheEvent encoded.length nowMs
      cases skip with
      | true => exact shaped_of_auto policy
      | false => exact shaped_finish within ratio eligible nowMs remembered

/-- What every way of finishing a body has. -/
def Preencoding.Every (holds : PreencodedBody → Prop) : Preencoding → Prop
  | .done body _ => holds body
  | .compressing _ resume => ∀ laterMs cache, holds (resume laterMs cache).1

theorem shaped_preencodeAsync (within : encoded.length ≤ maxDecodedPayloadBytes)
    (ratio : options.maxInflationRatio = none) (nowMs : Nat) (cache : AdaptiveCache) :
    (preencodeUtf8BufferAsync env runtime encoded options nowMs cache).Every
      (Shaped env runtime encoded options) := by
  unfold preencodeUtf8BufferAsync
  cases eligible : gzipEligible env encoded options with
  | false =>
    rw [if_pos rfl]
    exact shaped_of_ineligible eligible
  | true =>
    rw [if_neg (by decide)]
    cases policy : options.compressionPolicy.getD .auto with
    | alwaysGzip => exact fun laterMs later => shaped_finish within ratio eligible laterMs later
    | auto =>
      obtain ⟨skip, remembered⟩ :=
        shouldSkipAutoGzip cache options.compressionCacheEvent encoded.length nowMs
      cases skip with
      | true => exact shaped_of_auto policy
      | false => exact fun laterMs later => shaped_finish within ratio eligible laterMs later

end Bodies

/-! ## The signature of a frame that the hub made -/

/-- The hub signs without naming its key while older keys are named. -/
def SignsUnnamed (env : FrameEnv) : Prop :=
  signingKey env ≠ none ∧ nonBlank env.payloadSigningKeyId = none ∧
    0 < env.payloadSigningPreviousKeys.size

theorem nonBlank_nonBlank (text : Option Text) : nonBlank (nonBlank text) = nonBlank text := by
  unfold nonBlank
  rw [Option.filter_filter]
  simp

theorem buildSignatureInput_again (runtime : Runtime Value) (cache : SignatureCache)
    (content : SignedContent) :
    (buildSignatureInput runtime (buildSignatureInput runtime cache content).2 content).1 =
      (buildSignatureInput runtime cache content).1 := by
  unfold buildSignatureInput
  by_cases large : signatureInputCacheMaxPayloadBytes < content.payload.length
  · simp only [large, if_true]
  · simp only [large, if_false]
    cases found : cache.get (buildSignatureInputCacheKey runtime content) with
    | some cached => simp only [found]
    | none => simp only [rememberCanonical, OrderedMap.get_set_self]

variable {env : FrameEnv} {runtime : Runtime Value} {frame : PayloadFrameEnvelope}

theorem resolve_own {secret : Text} (signs : signingKey env = some secret) (value : Text) :
    (SignsUnnamed env ∧ resolveSignatureVerificationKey env
      ⟨value, nonBlank env.payloadSigningKeyId⟩ = .error .missingKeyId) ∨
    (¬SignsUnnamed env ∧ resolveSignatureVerificationKey env
      ⟨value, nonBlank env.payloadSigningKeyId⟩ = .ok secret) := by
  have active : nonBlank env.payloadSigningKey = some secret := by
    unfold signingKey at signs
    split at signs
    · exact signs
    · cases signs
  unfold resolveSignatureVerificationKey
  simp only [nonBlank_nonBlank, active]
  cases named : nonBlank env.payloadSigningKeyId with
  | some keyId =>
    refine .inr ⟨fun unnamed => ?_, ?_⟩
    · rw [unnamed.2.1] at named
      cases named
    · simp only [Option.map_some, if_true]
  | none =>
    by_cases previous : 0 < env.payloadSigningPreviousKeys.size
    · refine .inl ⟨⟨by rw [signs]; exact Option.some_ne_none _, named, previous⟩, ?_⟩
      simp [previous]
    · refine .inr ⟨fun unnamed => previous unnamed.2.2, ?_⟩
      simp [previous]

theorem validate_signed (reliable : runtime.Reliable)
    (unsigned : frame.signature = none) (binaryPayload : Buffer) (cache : SignatureCache) :
    let signed := signOutboundFrameIfConfigured env runtime frame binaryPayload cache
    (SignsUnnamed env ∧
      (validateFrameSignature env runtime signed.1 binaryPayload signed.2).1 =
        .error .missingKeyId) ∨
    (¬SignsUnnamed env ∧
      (validateFrameSignature env runtime signed.1 binaryPayload signed.2).1 = .ok ()) := by
  unfold signOutboundFrameIfConfigured
  cases signs : signingKey env with
  | none =>
    refine .inr ⟨fun unnamed => unnamed.1 signs, ?_⟩
    simp only [validateFrameSignature, unsigned]
  | some secret =>
    have again := buildSignatureInput_again runtime cache (frame.signedContent binaryPayload)
    generalize buildSignatureInput runtime cache (frame.signedContent binaryPayload) = answer
      at again
    obtain ⟨input, remembered⟩ := answer
    have same : ∀ signature, ({ frame with signature := some signature } :
        PayloadFrameEnvelope).signedContent binaryPayload = frame.signedContent binaryPayload :=
      fun _ => rfl
    simp only [validateFrameSignature, same]
    rcases resolve_own signs (runtime.hmacSha256 secret input) with
      ⟨unnamed, resolved⟩ | ⟨fine, resolved⟩
    · exact .inl ⟨unnamed, by rw [resolved]⟩
    · refine .inr ⟨fine, ?_⟩
      generalize asked : buildSignatureInput runtime remembered
        (frame.signedContent binaryPayload) = second at again
      obtain ⟨repeated, later⟩ := second
      simp only at again
      rw [resolved]
      simp only [reliable.trimmed, reliable.digest, again, if_false, if_true]

/-! ## Reading a frame that the hub made -/

theorem le_gzipOutputCap {original compressed : Nat} (within : original ≤ maxDecodedPayloadBytes)
    (ratio : exceedsMaxInflationRatio original compressed maxInflationRatio = false) :
    original ≤ (gzipOutputCap original compressed).1 := by
  have fits : compressed ≠ 0 → original ≤ compressed * maxInflationRatio := by
    intro positive
    simp only [exceedsMaxInflationRatio, Bool.and_eq_false_iff, decide_eq_false_iff_not] at ratio
    rcases ratio with zero | small
    · omega
    · rw [Nat.mul_comm]
      omega
  unfold gzipOutputCap
  by_cases empty : compressed = 0
  · simp only [empty, if_true]
    split_ifs <;> simp_all
  · have room := fits empty
    simp only [empty, if_false]
    split_ifs <;> simp_all

variable {encoded : Buffer}

theorem decompress_own (reliable : runtime.Reliable) (level : Option Nat)
    (within : encoded.length ≤ maxDecodedPayloadBytes)
    (ratio : exceedsMaxInflationRatio encoded.length (runtime.gzip level encoded).length
      maxInflationRatio = false) :
    decompressGzipBounded runtime (runtime.gzip level encoded) encoded.length = .ok encoded ∧
      decompressGzipBoundedAsync runtime (runtime.gzip level encoded) encoded.length =
        .ok encoded := by
  have room := le_gzipOutputCap within ratio
  have bounded := reliable.inflates level encoded
    (some (gzipOutputCap encoded.length (runtime.gzip level encoded).length).1)
    (by rintro most ⟨⟩; exact room)
  have free := reliable.inflates level encoded none nofun
  have sync : decompressGzipBounded runtime (runtime.gzip level encoded) encoded.length =
      .ok encoded := by
    unfold decompressGzipBounded
    by_cases none : (gzipOutputCap encoded.length (runtime.gzip level encoded).length).1 < 1
    · have empty : ¬0 < encoded.length := by omega
      simp only [none, if_true, free, empty, if_false]
    · simp only [none, if_false, bounded]
  refine ⟨sync, ?_⟩
  unfold decompressGzipBoundedAsync
  by_cases none : (gzipOutputCap encoded.length (runtime.gzip level encoded).length).1 < 1
  · simp only [none, if_true, sync]
  · simp only [none, if_false, bounded]

/-- A frame as the hub wraps it: its payload is binary and of the declared size. -/
structure Wraps (frame : PayloadFrameEnvelope) (body : PreencodedBody) : Prop where
  cmp : frame.cmp = body.cmp
  originalSize : frame.originalSize = body.originalSize
  compressedSize : frame.compressedSize = body.wireBytes.length
  payload : frame.payload = .buffer body.wireBytes

theorem sign_eq (env : FrameEnv) (runtime : Runtime Value) (frame : PayloadFrameEnvelope)
    (binaryPayload : Buffer) (cache : SignatureCache) :
    ∃ signature, (signOutboundFrameIfConfigured env runtime frame binaryPayload cache).1 =
      { frame with signature := signature } := by
  unfold signOutboundFrameIfConfigured
  cases signingKey env with
  | none => exact ⟨frame.signature, rfl⟩
  | some secret => exact ⟨_, rfl⟩

theorem wraps_finish (env : FrameEnv) (runtime : Runtime Value) (body : PreencodedBody)
    (options : EncodePayloadFrameOptions) (freshTraceId : Text) (cache : SignatureCache) :
    Wraps (finishPayloadFrameEnvelope env runtime body options freshTraceId cache).1 body := by
  obtain ⟨signature, shape⟩ := sign_eq env runtime _ body.wireBytes cache
  unfold finishPayloadFrameEnvelope
  rw [shape]
  exact ⟨rfl, rfl, rfl, rfl⟩

variable {body : PreencodedBody}

theorem validate_wraps (wraps : Wraps frame body) (cache : SignatureCache) :
    (validatePayloadFrameForDecode env runtime frame cache).1 =
      if maxCompressedPayloadBytes < body.wireBytes.length then .error .compressedLimit
      else
        match (validateFrameSignature env runtime frame body.wireBytes cache).1 with
        | .error error => .error error
        | .ok () => .ok body.wireBytes := by
  unfold validatePayloadFrameForDecode
  rw [wraps.payload, wraps.compressedSize]
  simp only [toBuffer, or_self, ne_eq, not_true_eq_false, if_false]
  by_cases large : maxCompressedPayloadBytes < body.wireBytes.length
  · rw [if_pos large, if_pos large]
  · rw [if_neg large, if_neg large]
    obtain ⟨outcome, remembered⟩ := validateFrameSignature env runtime frame body.wireBytes cache
    cases outcome with
    | error error | ok checked => rfl

/-- A frame is read as a value by both decoders. -/
structure Reads (env : FrameEnv) (runtime : Runtime Value) (data : Value)
    (frame : PayloadFrameEnvelope) (state : FrameState) : Prop where
  sync : (decodePayloadFrame env runtime frame state).1.map (·.data) = .ok data
  async : (decodePayloadFrameAsync env runtime frame state).1.map (·.data) = .ok data

variable {state : FrameState}

theorem decode_of_error {error : DecodeError}
    (fails : (validatePayloadFrameForDecode env runtime frame state.signatures).1 = .error error) :
    (decodePayloadFrame env runtime frame state).1 = .error error ∧
      (decodePayloadFrameAsync env runtime frame state).1 = .error error := by
  unfold decodePayloadFrame decodePayloadFrameAsync
  generalize validatePayloadFrameForDecode env runtime frame state.signatures = outcome at fails
  obtain ⟨result, remembered⟩ := outcome
  cases fails
  exact ⟨rfl, rfl⟩

/-- What a serialized value is read as. -/
def readAs (runtime : Runtime Value) (encoded : Buffer) : Except DecodeError Value :=
  match runtime.parse encoded with
  | some data => .ok data
  | none => .error .jsonFailed

/-- Both decoders read a frame as its serialized value is read. -/
structure Opens (env : FrameEnv) (runtime : Runtime Value) (encoded : Buffer)
    (frame : PayloadFrameEnvelope) (state : FrameState) : Prop where
  sync : (decodePayloadFrame env runtime frame state).1.map (·.data) = readAs runtime encoded
  async : (decodePayloadFrameAsync env runtime frame state).1.map (·.data) = readAs runtime encoded

/-- A frame that opens is read as a value exactly when its serialized value is. -/
theorem Opens.reads_iff {data : Value} (opens : Opens env runtime encoded frame state) :
    Reads env runtime data frame state ↔ runtime.parse encoded = some data := by
  have answer : readAs runtime encoded = .ok data ↔ runtime.parse encoded = some data := by
    unfold readAs
    cases runtime.parse encoded with
    | none | some other => simp
  constructor
  · intro reads
    exact answer.mp (opens.sync.symm.trans reads.sync)
  · intro parsed
    exact ⟨opens.sync.trans (answer.mpr parsed), opens.async.trans (answer.mpr parsed)⟩

theorem opens_of_body (reliable : runtime.Reliable)
    (within : encoded.length ≤ maxDecodedPayloadBytes) (made : BodyOf env runtime encoded body)
    (wraps : Wraps frame body)
    (passes : (validatePayloadFrameForDecode env runtime frame state.signatures).1 =
      .ok body.wireBytes) : Opens env runtime encoded frame state := by
  generalize outcome : validatePayloadFrameForDecode env runtime frame state.signatures = result
    at passes
  obtain ⟨checked, remembered⟩ := result
  cases passes
  cases made with
  | plain =>
    have cmp : frame.cmp = .none := wraps.cmp
    have size : frame.originalSize = encoded.length := wraps.originalSize
    have final : (finalizeDecodedPayloadBytes runtime frame encoded encoded).map (·.data) =
        readAs runtime encoded := by
      unfold finalizeDecodedPayloadBytes readAs
      rw [if_neg (by omega), if_neg (by rw [cmp]; nofun), if_neg (by omega)]
      cases runtime.parse encoded with
      | none => rfl
      | some data => rfl
    constructor
    · simp only [decodePayloadFrame, outcome, cmp]
      exact final
    · simp only [decodePayloadFrameAsync, outcome, cmp]
      exact final
  | compressed fits ratio =>
    have cmp : frame.cmp = .gzip := wraps.cmp
    have size : frame.originalSize = encoded.length := wraps.originalSize
    obtain ⟨sync, async⟩ := decompress_own reliable env.payloadFrameGzipLevel within ratio
    have final : (finalizeDecodedPayloadBytes runtime frame
        (runtime.gzip env.payloadFrameGzipLevel encoded) encoded).map (·.data) =
        readAs runtime encoded := by
      unfold finalizeDecodedPayloadBytes readAs
      simp only [exceedsMaxInflationRatio, Bool.and_eq_false_iff, decide_eq_false_iff_not] at ratio
      rw [if_neg (by omega), if_neg (by omega), if_neg (by omega)]
      cases runtime.parse encoded with
      | none => rfl
      | some data => rfl
    constructor
    · simp only [decodePayloadFrame, outcome, cmp, size, sync]
      exact final
    · simp only [decodePayloadFrameAsync, outcome, cmp, size, sync, async, ite_self]
      exact final

theorem validate_finished (env : FrameEnv) (reliable : runtime.Reliable)
    (body : PreencodedBody) (options : EncodePayloadFrameOptions) (freshTraceId : Text)
    (cache : SignatureCache) :
    let finished := finishPayloadFrameEnvelope env runtime body options freshTraceId cache
    (SignsUnnamed env ∧
      (validateFrameSignature env runtime finished.1 body.wireBytes finished.2).1 =
        .error .missingKeyId) ∨
    (¬SignsUnnamed env ∧
      (validateFrameSignature env runtime finished.1 body.wireBytes finished.2).1 = .ok ()) := by
  unfold finishPayloadFrameEnvelope
  exact validate_signed reliable rfl body.wireBytes cache

theorem not_reads_of_error {error : DecodeError}
    (fails : (validatePayloadFrameForDecode env runtime frame state.signatures).1 = .error error)
    (data : Value) : ¬Reads env runtime data frame state := by
  intro reads
  have value := reads.sync
  rw [(decode_of_error fails).1] at value
  cases value

section

variable (reliable : runtime.Reliable) (within : encoded.length ≤ maxDecodedPayloadBytes)
  {options : PreencodeOptions} (shaped : Shaped env runtime encoded options body)
  (frameOptions : EncodePayloadFrameOptions) (freshTraceId : Text) (signatures : SignatureCache)
  (adaptive : AdaptiveCache)

include reliable within shaped

/-- A frame that the hub made of a body is read as the serialized value is when the hub does not
sign without a name and the body is not oversized; else it is not read at all. -/
theorem opens_finish :
    let finished := finishPayloadFrameEnvelope env runtime body frameOptions freshTraceId signatures
    ((¬SignsUnnamed env ∧ ¬KeepsOversized env runtime encoded options) ∧
      Opens env runtime encoded finished.1 ⟨adaptive, finished.2⟩) ∨
    (¬(¬SignsUnnamed env ∧ ¬KeepsOversized env runtime encoded options) ∧
      ∀ value, ¬Reads env runtime value finished.1 ⟨adaptive, finished.2⟩) := by
  intro finished
  have wraps : Wraps finished.1 body :=
    wraps_finish env runtime body frameOptions freshTraceId signatures
  have checks : (validatePayloadFrameForDecode env runtime finished.1 finished.2).1 = _ :=
    validate_wraps wraps finished.2
  rcases shaped with ⟨fits, made⟩ | ⟨keeps, rfl⟩
  · have small : ¬maxCompressedPayloadBytes < body.wireBytes.length := by
      cases made with
      | plain => exact Nat.not_lt.mpr within
      | compressed size ratio => exact Nat.not_lt.mpr size
    rw [if_neg small] at checks
    rcases validate_finished env reliable body frameOptions freshTraceId signatures with
      ⟨unnamed, rejected⟩ | ⟨named, accepted⟩
    · rw [rejected] at checks
      exact .inr ⟨fun fine => fine.1 unnamed, not_reads_of_error checks⟩
    · rw [accepted] at checks
      exact .inl ⟨⟨named, fits⟩, opens_of_body reliable within made wraps checks⟩
  · rw [if_pos keeps.2.2.2] at checks
    exact .inr ⟨fun fine => fine.2 keeps, not_reads_of_error checks⟩

/-- A frame that the hub made of a body is read as the value exactly when the hub does not sign
without a name and the body is not oversized. -/
theorem reads_finish_iff {data : Value} (parsed : runtime.parse encoded = some data) :
    let finished := finishPayloadFrameEnvelope env runtime body frameOptions freshTraceId signatures
    Reads env runtime data finished.1 ⟨adaptive, finished.2⟩ ↔
      ¬SignsUnnamed env ∧ ¬KeepsOversized env runtime encoded options := by
  rcases opens_finish reliable within shaped frameOptions freshTraceId signatures adaptive with
    ⟨fine, opens⟩ | ⟨wrong, fails⟩
  · exact iff_of_true (opens.reads_iff.mpr parsed) fine
  · exact iff_of_false (fails data) wrong

end

/-! ## The encoders -/

/-- What every way of finishing a frame has. -/
def Encoding.Every (holds : PayloadFrameEnvelope → FrameState → Prop) : Encoding → Prop
  | .done frame state => holds frame state
  | .compressing _ resume => ∀ laterMs later, holds (resume laterMs later).1
    (resume laterMs later).2

/-- The frame when nothing happens while it is compressed. -/
def Encoding.undisturbed (nowMs : Nat) : Encoding → PayloadFrameEnvelope × FrameState
  | .done frame state => (frame, state)
  | .compressing state resume => resume nowMs state

section Encoders

variable (env : FrameEnv) {runtime : Runtime Value} {bytes : Buffer}
  {options : EncodePayloadFrameOptions} (freshTraceId : Text) (nowMs : Nat) (state : FrameState)

theorem reads_encodeBytes_iff (reliable : runtime.Reliable) {data : Value}
    (parsed : runtime.parse bytes = some data) (within : bytes.length ≤ maxDecodedPayloadBytes)
    (ratio : options.maxInflationRatio = none) :
    Reads env runtime data (encodeBytes env runtime bytes options freshTraceId nowMs state).1
        (encodeBytes env runtime bytes options freshTraceId nowMs state).2 ↔
      ¬SignsUnnamed env ∧
        ¬KeepsOversized env runtime bytes (preencodeOptions env options bytes.length) := by
  have bodyRatio : (preencodeOptions env options bytes.length).maxInflationRatio = none := ratio
  have shaped : Shaped env runtime bytes (preencodeOptions env options bytes.length)
      (preencodeUtf8Buffer env runtime bytes (preencodeOptions env options bytes.length) nowMs
        state.adaptive).1 := shaped_preencode within bodyRatio nowMs state.adaptive
  exact reads_finish_iff reliable within shaped options freshTraceId state.signatures _ parsed

theorem reads_encodeBytesAsync_iff (reliable : runtime.Reliable) {data : Value}
    (parsed : runtime.parse bytes = some data) (within : bytes.length ≤ maxDecodedPayloadBytes)
    (ratio : options.maxInflationRatio = none) :
    (encodeBytesAsync env runtime bytes options freshTraceId nowMs state).Every
        (Reads env runtime data) ↔
      ¬SignsUnnamed env ∧
        ¬KeepsOversized env runtime bytes (preencodeOptions env options bytes.length) := by
  have bodyRatio : (preencodeOptions env options bytes.length).maxInflationRatio = none := ratio
  have shaped : (preencodeUtf8BufferAsync env runtime bytes
      (preencodeOptions env options bytes.length) nowMs state.adaptive).Every
        (Shaped env runtime bytes (preencodeOptions env options bytes.length)) :=
    shaped_preencodeAsync within bodyRatio nowMs state.adaptive
  unfold encodeBytesAsync
  by_cases small : encodesAtOnce env bytes options = true
  · rw [if_pos small]
    exact reads_encodeBytes_iff env freshTraceId nowMs state reliable parsed within ratio
  · rw [if_neg small]
    generalize preencodeUtf8BufferAsync env runtime bytes
      (preencodeOptions env options bytes.length) nowMs state.adaptive = result at shaped
    cases result with
    | done body adaptive =>
      exact reads_finish_iff reliable within shaped options freshTraceId state.signatures _ parsed
    | compressing adaptive resume =>
      constructor
      · intro every
        exact (reads_finish_iff reliable within (shaped nowMs adaptive) options freshTraceId
          state.signatures _ parsed).mp (every nowMs ⟨adaptive, state.signatures⟩)
      · intro fine laterMs later
        exact (reads_finish_iff reliable within (shaped laterMs later.adaptive) options
          freshTraceId later.signatures _ parsed).mpr fine

theorem undisturbed_encodeBytesAsync :
    (encodeBytesAsync env runtime bytes options freshTraceId nowMs state).undisturbed nowMs =
      encodeBytes env runtime bytes options freshTraceId nowMs state := by
  unfold encodeBytesAsync
  by_cases small : encodesAtOnce env bytes options = true
  · rw [if_pos small]
    rfl
  · rw [if_neg small]
    unfold preencodeUtf8BufferAsync encodeBytes preencodeUtf8Buffer
    cases eligible : gzipEligible env bytes (preencodeOptions env options bytes.length) with
    | false => rfl
    | true =>
      simp only [reduceCtorEq, if_false]
      cases (preencodeOptions env options bytes.length).compressionPolicy.getD .auto with
      | alwaysGzip => rfl
      | auto =>
        simp only
        obtain ⟨skip, remembered⟩ := shouldSkipAutoGzip state.adaptive
          (preencodeOptions env options bytes.length).compressionCacheEvent bytes.length nowMs
        cases skip with
        | true => rfl
        | false => rfl

end Encoders

/-- For every value within the size limit and all options, the frame that any encoder makes of it,
however long its compression takes and whatever happens meanwhile, is read back as the value by
both decoders exactly when the hub does not sign without a name while older keys are named and
does not keep an oversized compressed form; and the encoders agree. -/
theorem payload_frames_round_trip_iff (env : FrameEnv) {runtime : Runtime Value}
    (lawful : runtime.Lawful) (data : Value)
    (within : (runtime.stringify data).length ≤ maxDecodedPayloadBytes)
    (options : EncodePayloadFrameOptions) (ratio : options.maxInflationRatio = none)
    (freshTraceId : Text) (nowMs : Nat) (state : FrameState) :
    let fine := ¬SignsUnnamed env ∧ ¬KeepsOversized env runtime (runtime.stringify data)
      (preencodeOptions env options (runtime.stringify data).length)
    (Reads env runtime data
        (encodePayloadFrame env runtime data options freshTraceId nowMs state).1
        (encodePayloadFrame env runtime data options freshTraceId nowMs state).2 ↔ fine) ∧
    ((encodePayloadFrameBridge env runtime data options freshTraceId nowMs state).Every
      (Reads env runtime data) ↔ fine) ∧
    (Reads env runtime data
        (encodePayloadFrameFromBytes env runtime (runtime.stringify data) options freshTraceId nowMs
          state).1
        (encodePayloadFrameFromBytes env runtime (runtime.stringify data) options freshTraceId nowMs
          state).2 ↔ fine) ∧
    ((encodePayloadFrameFromBytesAsync env runtime (runtime.stringify data) options freshTraceId
      nowMs state).Every (Reads env runtime data) ↔ fine) ∧
    (encodePayloadFrameBridge env runtime data options freshTraceId nowMs state).undisturbed nowMs =
      encodePayloadFrame env runtime data options freshTraceId nowMs state ∧
    (encodePayloadFrameFromBytesAsync env runtime (runtime.stringify data) options freshTraceId
      nowMs state).undisturbed nowMs =
      encodePayloadFrameFromBytes env runtime (runtime.stringify data) options freshTraceId nowMs
        state := by
  have parsed := lawful.json data
  have reliable := lawful.toReliable
  refine ⟨?_, ?_, ?_, ?_, ?_, ?_⟩
  · exact reads_encodeBytes_iff env freshTraceId nowMs state reliable parsed within ratio
  · exact reads_encodeBytesAsync_iff env freshTraceId nowMs state reliable parsed within ratio
  · exact reads_encodeBytes_iff env freshTraceId nowMs state reliable parsed within ratio
  · exact reads_encodeBytesAsync_iff env freshTraceId nowMs state reliable parsed within ratio
  · exact undisturbed_encodeBytesAsync env freshTraceId nowMs state
  · exact undisturbed_encodeBytesAsync env freshTraceId nowMs state

/-! ## A value that is compressed and signed -/

/-- The JSON text of a string of a hundred letters. -/
def lettersText : Buffer := 34 :: List.replicate 100 97 ++ [34]

/-- Its gzip form. -/
def lettersGzip : Buffer :=
  [31, 139, 8, 0, 0, 0, 0, 0, 0, 3, 83, 74, 164, 3, 80, 2, 0, 37, 162, 128, 225, 102, 0, 0, 0]

/-- Exchange the text and its gzip form. -/
def exchangeLetters (bytes : Buffer) : Buffer :=
  if bytes = lettersText then lettersGzip
  else if bytes = lettersGzip then lettersText
  else bytes

theorem exchangeLetters_exchangeLetters (bytes : Buffer) :
    exchangeLetters (exchangeLetters bytes) = bytes := by
  have differ : lettersGzip ≠ lettersText := by decide
  by_cases text : bytes = lettersText
  · simp only [exchangeLetters, text, if_true, differ, if_false]
  · by_cases gzip : bytes = lettersGzip
    · simp only [exchangeLetters, gzip, differ, if_true, if_false]
    · simp only [exchangeLetters, text, gzip, if_false]

/-- The digests, under the secret of the environment below, of a frame of the compressed text
without ids and of one with the request id r. -/
def lettersDigest (text : Text) : Text :=
  if text = buildCanonicalSignatureFrame ⟨.gzip, 102, 25, none, none, lettersGzip⟩ then
    "uiErXOl8H0SLdg1vuSTaHDFjj11u2mjTY78+0A4+lvw=".toList
  else "ztiOf54m9a4+uObPu6myaVqHJ1OJTArSUtZaE8As5J0=".toList

/-- A runtime that compresses the text as gzip does and knows the digests of its frames. -/
def lettersRuntime (stringify : Value → Buffer) (parse : Buffer → Option Value) :
    Runtime Value where
  stringify
  parse
  gzip _ bytes := exchangeLetters bytes
  gunzip limit bytes :=
    match limit with
    | some most =>
      if (exchangeLetters bytes).length ≤ most then .output (exchangeLetters bytes) else .tooLarge
    | none => .output (exchangeLetters bytes)
  hmacSha256 _ text := lettersDigest text
  sha256 _ := "6b454dcf77e9251d964fdfeb500a30468a98281d9dbbd9e6800db7177a7a8070".toList
  fromBase64 _ := []

theorem lettersRuntime_reliable (stringify : Value → Buffer) (parse : Buffer → Option Value) :
    (lettersRuntime stringify parse).Reliable where
  inflates level bytes limit fits := by
    cases limit with
    | none => simp only [lettersRuntime, exchangeLetters_exchangeLetters]
    | some most =>
      simp only [lettersRuntime, exchangeLetters_exchangeLetters]
      rw [if_pos (fits most rfl)]
  trimmed secret text := by
    simp only [lettersRuntime, lettersDigest]
    split <;> decide
  digest secret text := by
    simp only [lettersRuntime, lettersDigest]
    split <;> decide

/-- The runtime on that one value. -/
def oneValueRuntime : Runtime Unit :=
  lettersRuntime (fun _ => lettersText) fun bytes => if bytes = lettersText then some () else none

theorem oneValueRuntime_lawful : oneValueRuntime.Lawful where
  toReliable := lettersRuntime_reliable _ _
  json _ := rfl

/-- A hub that compresses from a hundred bytes on and signs under a key that it names. -/
def namedKeyEnv : FrameEnv :=
  { payloadFrameCompressMinBytes := 100
    payloadSignOutbound := true
    payloadSigningKey := some "secret".toList
    payloadSigningKeyId := some "k1".toList
    payloadSigningPreviousKeys := OrderedMap.empty.set "old".toList "older secret".toList }

/-- A frame that is compressed and signed is read back. -/
theorem letters_round_trip :
    (encodePayloadFrame namedKeyEnv oneValueRuntime () { omitTraceId := true } [] 0 {}).1 =
      { cmp := .gzip, originalSize := 102, compressedSize := 25, payload := .buffer lettersGzip
        signature := some
          ⟨"uiErXOl8H0SLdg1vuSTaHDFjj11u2mjTY78+0A4+lvw=".toList, some "k1".toList⟩ } ∧
    Reads namedKeyEnv oneValueRuntime ()
      (encodePayloadFrame namedKeyEnv oneValueRuntime () { omitTraceId := true } [] 0 {}).1
      (encodePayloadFrame namedKeyEnv oneValueRuntime () { omitTraceId := true } [] 0 {}).2 :=
  ⟨by decide +kernel,
    (payload_frames_round_trip_iff namedKeyEnv oneValueRuntime_lawful () (by decide)
      { omitTraceId := true } rfl [] 0 {}).1.mpr
      ⟨fun unnamed => absurd unnamed.2.1 (by decide), fun keeps => by cases keeps.1⟩⟩

/-- A hub that signs without naming its key while an older key is named. -/
def unnamedKeyEnv : FrameEnv :=
  { payloadSignOutbound := true
    payloadSigningKey := some "secret".toList
    payloadSigningPreviousKeys := OrderedMap.empty.set "old".toList "older secret".toList }

/-- The hub rejects the frame that it just made. -/
theorem unnamed_signature_rejected :
    (decodePayloadFrame unnamedKeyEnv nullRuntime
      (encodePayloadFrame unnamedKeyEnv nullRuntime () {} [] 0 {}).1
      (encodePayloadFrame unnamedKeyEnv nullRuntime () {} [] 0 {}).2).1.map (·.data) =
        .error .missingKeyId := by
  rfl

end PlugHub.Frames
