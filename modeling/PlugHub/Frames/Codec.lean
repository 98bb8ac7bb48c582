import PlugHub.Frames.Signature

/-!
# Encoding and decoding frames

The encoders serialize a value, choose its compression and wrap the body in a signed envelope. The
decoder checks sizes and signature, inflates within a bound and reads the value. Both share the two
caches of the process.
-/

namespace PlugHub.Frames

open Library

/-- The caches that encoding and decoding share. -/
structure FrameState where
  adaptive : AdaptiveCache := .empty
  signatures : SignatureCache := .empty

/-- Options of the frame encoders. -/
structure EncodePayloadFrameOptions extends PreencodeOptions where
  requestId : Option Text := none
  traceId : Option Text := none
  omitTraceId : Bool := false
  asyncGzipMinUtf8Bytes : Option Nat := none

variable {Value : Type}

/-! ## Encoding -/

/-- Wrap a body in an envelope and sign it. Without a given trace a fresh one is used, unless it is
left out; an empty request id is left out. -/
def finishPayloadFrameEnvelope (env : FrameEnv) (runtime : Runtime Value) (body : PreencodedBody)
    (options : EncodePayloadFrameOptions) (freshTraceId : Text) (signatures : SignatureCache) :
    PayloadFrameEnvelope × SignatureCache :=
  signOutboundFrameIfConfigured env runtime
    { cmp := body.cmp
      originalSize := body.originalSize
      compressedSize := body.wireBytes.length
      payload := .buffer body.wireBytes
      traceId :=
        match options.traceId with
        | some traceId => some traceId
        | none => if options.omitTraceId then none else some freshTraceId
      requestId := options.requestId.filter fun requestId => requestId ≠ [] }
    body.wireBytes signatures

/-- The options of the body for a value of some size. -/
def preencodeOptions (env : FrameEnv) (options : EncodePayloadFrameOptions) (length : Nat) :
    PreencodeOptions :=
  { options.toPreencodeOptions with
    compressionThreshold :=
      some (effectiveEncodeCompressionThreshold env options.compressionThreshold length) }

/-- Encode serialized bytes at once. -/
def encodeBytes (env : FrameEnv) (runtime : Runtime Value) (bytes : Buffer)
    (options : EncodePayloadFrameOptions) (freshTraceId : Text) (nowMs : Nat)
    (state : FrameState) : PayloadFrameEnvelope × FrameState :=
  match preencodeUtf8Buffer env runtime bytes (preencodeOptions env options bytes.length) nowMs
    state.adaptive with
  | (body, adaptive) =>
    match finishPayloadFrameEnvelope env runtime body options freshTraceId state.signatures with
    | (frame, signatures) => (frame, ⟨adaptive, signatures⟩)

/-- Encode a value at once. -/
def encodePayloadFrame (env : FrameEnv) (runtime : Runtime Value) (data : Value)
    (options : EncodePayloadFrameOptions) (freshTraceId : Text) (nowMs : Nat)
    (state : FrameState) : PayloadFrameEnvelope × FrameState :=
  encodeBytes env runtime (runtime.stringify data) options freshTraceId nowMs state

/-- Encode bytes that are already serialized at once; the event is not remembered by name. -/
def encodePayloadFrameFromBytes (env : FrameEnv) (runtime : Runtime Value) (bytes : Buffer)
    (options : EncodePayloadFrameOptions) (freshTraceId : Text) (nowMs : Nat)
    (state : FrameState) : PayloadFrameEnvelope × FrameState :=
  encodeBytes env runtime bytes { options with compressionCacheEvent := none } freshTraceId nowMs
    state

/-- Wrap a body that is already compressed. -/
def encodePayloadFrameFromPreencodedWire (env : FrameEnv) (runtime : Runtime Value)
    (body : PreencodedBody) (options : EncodePayloadFrameOptions) (freshTraceId : Text)
    (state : FrameState) : PayloadFrameEnvelope × FrameState :=
  match finishPayloadFrameEnvelope env runtime body options freshTraceId state.signatures with
  | (frame, signatures) => (frame, { state with signatures := signatures })

/-- A frame that is encoded, or that waits for its compression and is finished at a later time with
the caches of that time. -/
inductive Encoding where
  | done (frame : PayloadFrameEnvelope) (state : FrameState)
  | compressing (state : FrameState)
      (resume : Nat → FrameState → PayloadFrameEnvelope × FrameState)

/-- Whether the bridge encodes at once: compressing off the event loop is disabled, gzip is not
tried, or the value is small. -/
def encodesAtOnce (env : FrameEnv) (bytes : Buffer) (options : EncodePayloadFrameOptions) : Bool :=
  let minAsync := options.asyncGzipMinUtf8Bytes.getD env.payloadFrameAsyncGzipMinUtf8Bytes
  minAsync = 0 || !gzipEligible env bytes (preencodeOptions env options bytes.length) ||
    bytes.length < minAsync

/-- Encode serialized bytes, off the event loop when they are large enough and gzip is tried. -/
def encodeBytesAsync (env : FrameEnv) (runtime : Runtime Value) (bytes : Buffer)
    (options : EncodePayloadFrameOptions) (freshTraceId : Text) (nowMs : Nat)
    (state : FrameState) : Encoding :=
  if encodesAtOnce env bytes options then
    match encodeBytes env runtime bytes options freshTraceId nowMs state with
    | (frame, next) => .done frame next
  else
    match preencodeUtf8BufferAsync env runtime bytes (preencodeOptions env options bytes.length)
      nowMs state.adaptive with
    | .done body adaptive =>
      match finishPayloadFrameEnvelope env runtime body options freshTraceId state.signatures with
      | (frame, signatures) => .done frame ⟨adaptive, signatures⟩
    | .compressing adaptive resume =>
      .compressing { state with adaptive := adaptive } fun laterMs later =>
        match resume laterMs later.adaptive with
        | (body, finished) =>
          match finishPayloadFrameEnvelope env runtime body options freshTraceId
            later.signatures with
          | (frame, signatures) => (frame, ⟨finished, signatures⟩)

/-- Encode a value for the bridge. -/
def encodePayloadFrameBridge (env : FrameEnv) (runtime : Runtime Value) (data : Value)
    (options : EncodePayloadFrameOptions) (freshTraceId : Text) (nowMs : Nat)
    (state : FrameState) : Encoding :=
  encodeBytesAsync env runtime (runtime.stringify data) options freshTraceId nowMs state

/-- Encode bytes that are already serialized, off the event loop when they are large. -/
def encodePayloadFrameFromBytesAsync (env : FrameEnv) (runtime : Runtime Value) (bytes : Buffer)
    (options : EncodePayloadFrameOptions) (freshTraceId : Text) (nowMs : Nat)
    (state : FrameState) : Encoding :=
  encodeBytesAsync env runtime bytes { options with compressionCacheEvent := none } freshTraceId
    nowMs state

/-! ## Decoding -/

/-- A decoded frame. -/
structure DecodedPayloadFrame (Value : Type) where
  frame : PayloadFrameEnvelope
  data : Value
  decodedBytes : Buffer

/-- Check the sizes and the signature of a frame. -/
def validatePayloadFrameForDecode (env : FrameEnv) (runtime : Runtime Value)
    (frame : PayloadFrameEnvelope) (signatures : SignatureCache) :
    Except DecodeError Buffer × SignatureCache :=
  match toBuffer runtime frame.payload with
  | none => (.error .notBinary, signatures)
  | some binaryPayload =>
    if maxCompressedPayloadBytes < frame.compressedSize ∨
        maxCompressedPayloadBytes < binaryPayload.length then
      (.error .compressedLimit, signatures)
    else if binaryPayload.length ≠ frame.compressedSize then
      (.error .compressedSizeMismatch, signatures)
    else
      match validateFrameSignature env runtime frame binaryPayload signatures with
      | (.error error, remembered) => (.error error, remembered)
      | (.ok (), remembered) => (.ok binaryPayload, remembered)

/-- Check the serialized value and read it. -/
def finalizeDecodedPayloadBytes (runtime : Runtime Value) (frame : PayloadFrameEnvelope)
    (binaryPayload decodedBytes : Buffer) : Except DecodeError (DecodedPayloadFrame Value) :=
  if maxDecodedPayloadBytes < decodedBytes.length ∨
      maxDecodedPayloadBytes < frame.originalSize then .error .decodedLimit
  else if frame.cmp = .gzip ∧ 0 < binaryPayload.length ∧
      maxInflationRatio * binaryPayload.length < decodedBytes.length then .error .inflationRatio
  else if decodedBytes.length ≠ frame.originalSize then .error .originalSizeMismatch
  else
    match runtime.parse decodedBytes with
    | some data => .ok ⟨{ frame with payload := .buffer binaryPayload }, data, decodedBytes⟩
    | none => .error .jsonFailed

/-- The tightest bound on the inflated bytes, and the error of exceeding it. -/
def gzipOutputCap (originalSize compressedSize : Nat) : Nat × DecodeError :=
  let ratioCap :=
    if compressedSize = 0 then maxDecodedPayloadBytes else compressedSize * maxInflationRatio
  let tighter := fun (tightest candidate : Nat × DecodeError) =>
    if candidate.1 < tightest.1 then candidate else tightest
  tighter (tighter (maxDecodedPayloadBytes, .decodedLimit) (ratioCap, .inflationRatio))
    (originalSize, .originalSizeMismatch)

/-- Inflate within the bound. -/
def decompressGzipBounded (runtime : Runtime Value) (binaryPayload : Buffer)
    (originalSize : Nat) : Except DecodeError Buffer :=
  let cap := gzipOutputCap originalSize binaryPayload.length
  if cap.1 < 1 then
    match runtime.gunzip none binaryPayload with
    | .output decoded => if 0 < decoded.length then .error cap.2 else .ok decoded
    | _ => .error .decompressFailed
  else
    match runtime.gunzip (some cap.1) binaryPayload with
    | .output decoded => .ok decoded
    | .tooLarge => .error cap.2
    | .failed => .error .decompressFailed

/-- Inflate within the bound off the event loop; a bound of zero is left to the other path. -/
def decompressGzipBoundedAsync (runtime : Runtime Value) (binaryPayload : Buffer)
    (originalSize : Nat) : Except DecodeError Buffer :=
  let cap := gzipOutputCap originalSize binaryPayload.length
  if cap.1 < 1 then decompressGzipBounded runtime binaryPayload originalSize
  else
    match runtime.gunzip (some cap.1) binaryPayload with
    | .output decoded => .ok decoded
    | .tooLarge => .error cap.2
    | .failed => .error .decompressFailed

/-- Decode a frame at once. -/
def decodePayloadFrame (env : FrameEnv) (runtime : Runtime Value) (frame : PayloadFrameEnvelope)
    (state : FrameState) : Except DecodeError (DecodedPayloadFrame Value) × FrameState :=
  match validatePayloadFrameForDecode env runtime frame state.signatures with
  | (.error error, signatures) => (.error error, { state with signatures := signatures })
  | (.ok binaryPayload, signatures) =>
    let decompressed : Except DecodeError Buffer :=
      match frame.cmp with
      | .none => .ok binaryPayload
      | .gzip => decompressGzipBounded runtime binaryPayload frame.originalSize
    (decompressed.bind fun decodedBytes =>
      finalizeDecodedPayloadBytes runtime frame binaryPayload decodedBytes,
      { state with signatures := signatures })

/-- Decode a frame, off the event loop when it is compressed and large. -/
def decodePayloadFrameAsync (env : FrameEnv) (runtime : Runtime Value)
    (frame : PayloadFrameEnvelope) (state : FrameState) :
    Except DecodeError (DecodedPayloadFrame Value) × FrameState :=
  match validatePayloadFrameForDecode env runtime frame state.signatures with
  | (.error error, signatures) => (.error error, { state with signatures := signatures })
  | (.ok binaryPayload, signatures) =>
    let minAsync := env.payloadFrameAsyncGunzipMinCompressedBytes
    let decompressed : Except DecodeError Buffer :=
      match frame.cmp with
      | .none => .ok binaryPayload
      | .gzip =>
        if 0 < minAsync ∧ minAsync ≤ binaryPayload.length then
          decompressGzipBoundedAsync runtime binaryPayload frame.originalSize
        else decompressGzipBounded runtime binaryPayload frame.originalSize
    (decompressed.bind fun decodedBytes =>
      finalizeDecodedPayloadBytes runtime frame binaryPayload decodedBytes,
      { state with signatures := signatures })

end PlugHub.Frames
