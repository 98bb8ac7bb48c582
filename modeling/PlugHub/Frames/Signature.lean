import PlugHub.Frames.Compression

/-!
# Signatures of frames

A frame is signed over a canonical text of its metadata and its payload. The texts of small frames
are cached under a key that joins the metadata with bars and ends in a hash of the payload; an
absent id is written as an empty one.
-/

namespace PlugHub.Frames

open Library

/-- How many canonical texts are cached. -/
def signatureInputCacheMaxEntries : Nat := 512

/-- Payloads above this size are not cached. -/
def signatureInputCacheMaxPayloadBytes : Nat := 64 * 1024

/-- Canonical texts by cache key. -/
abbrev SignatureCache := OrderedMap Text Text

/-- What is signed of a frame: its metadata and its payload as bytes. -/
structure SignedContent where
  cmp : Compression
  originalSize : Nat
  compressedSize : Nat
  traceId : Option Text
  requestId : Option Text
  payload : Buffer

/-- What is signed of a frame with its payload as bytes. -/
def PayloadFrameEnvelope.signedContent (frame : PayloadFrameEnvelope) (binaryPayload : Buffer) :
    SignedContent :=
  ⟨frame.cmp, frame.originalSize, frame.compressedSize, frame.traceId, frame.requestId,
    binaryPayload⟩

variable {Value : Type}

/-- The cache key: the fields joined with bars. -/
def buildSignatureInputCacheKey (runtime : Runtime Value) (content : SignedContent) : Text :=
  "1.0".toList ++ '|' :: content.cmp.name ++ '|' :: decimal content.originalSize ++ '|' ::
    decimal content.compressedSize ++ '|' :: content.traceId.getD [] ++ '|' ::
      content.requestId.getD [] ++ '|' :: runtime.sha256 content.payload

/-- An optional id in the canonical text. -/
def canonicalId : Option Text → Text
  | none => "null".toList
  | some id => quoted id

/-- The canonical text. -/
def buildCanonicalSignatureFrame (content : SignedContent) : Text :=
  "\x7b\"cmp\":".toList ++ quoted content.cmp.name ++
    ",\"compressedSize\":".toList ++ decimal content.compressedSize ++
    ",\"contentType\":\"application/json\",\"enc\":\"json\",\"originalSize\":".toList ++
    decimal content.originalSize ++
    ",\"payload\":\"".toList ++ base64 content.payload ++
    "\",\"requestId\":".toList ++ canonicalId content.requestId ++
    ",\"schemaVersion\":\"1.0\",\"traceId\":".toList ++ canonicalId content.traceId ++
    "\x7d".toList

/-- Cache a value; a full cache loses its oldest entry. -/
def rememberCanonical {ν : Type} (cache : OrderedMap Text ν) (key : Text) (value : ν) :
    OrderedMap Text ν :=
  let kept := if signatureInputCacheMaxEntries ≤ cache.size then dropOldest cache else cache
  kept.set key value

/-- The text that is signed, from the cache when it is there. -/
def buildSignatureInput (runtime : Runtime Value) (cache : SignatureCache)
    (content : SignedContent) : Text × SignatureCache :=
  if signatureInputCacheMaxPayloadBytes < content.payload.length then
    (buildCanonicalSignatureFrame content, cache)
  else
    let key := buildSignatureInputCacheKey runtime content
    match cache.get key with
    | some cached => (cached, cache)
    | none =>
      (buildCanonicalSignatureFrame content,
        rememberCanonical cache key (buildCanonicalSignatureFrame content))

/-- The key that signs outbound frames, when they are signed. -/
def signingKey (env : FrameEnv) : Option Text :=
  if env.payloadSignOutbound then nonBlank env.payloadSigningKey else none

/-- Sign an outbound frame when signing is configured. -/
def signOutboundFrameIfConfigured (env : FrameEnv) (runtime : Runtime Value)
    (frame : PayloadFrameEnvelope) (binaryPayload : Buffer) (cache : SignatureCache) :
    PayloadFrameEnvelope × SignatureCache :=
  match signingKey env with
  | none => (frame, cache)
  | some secret =>
    match buildSignatureInput runtime cache (frame.signedContent binaryPayload) with
    | (input, remembered) =>
      let signature : SignatureBlock :=
        { value := runtime.hmacSha256 secret input, keyId := nonBlank env.payloadSigningKeyId }
      ({ frame with signature := some signature }, remembered)

/-- The secret that verifies a signature. -/
def resolveSignatureVerificationKey (env : FrameEnv) (signature : SignatureBlock) :
    Except DecodeError Text :=
  let activeKey := nonBlank env.payloadSigningKey
  let activeKeyId := (nonBlank env.payloadSigningKeyId).map trim
  match nonBlank signature.keyId with
  | some keyId =>
    match activeKey with
    | some secret =>
      if activeKeyId = some (trim keyId) then .ok secret
      else
        match nonBlank (env.payloadSigningPreviousKeys.get (trim keyId)) with
        | some previous => .ok previous
        | none => .error .unknownKeyId
    | none =>
      match nonBlank (env.payloadSigningPreviousKeys.get (trim keyId)) with
      | some previous => .ok previous
      | none => .error .unknownKeyId
  | none =>
    if activeKeyId.isSome || 0 < env.payloadSigningPreviousKeys.size then .error .missingKeyId
    else
      match activeKey with
      | some secret => .ok secret
      | none => .error .noKeyConfigured

/-- Check the signature of a frame. -/
def validateFrameSignature (env : FrameEnv) (runtime : Runtime Value)
    (frame : PayloadFrameEnvelope) (binaryPayload : Buffer) (cache : SignatureCache) :
    Except DecodeError Unit × SignatureCache :=
  match frame.signature with
  | none => (.ok (), cache)
  | some signature =>
    match resolveSignatureVerificationKey env signature with
    | .error error => (.error error, cache)
    | .ok secret =>
      match buildSignatureInput runtime cache (frame.signedContent binaryPayload) with
      | (input, remembered) =>
        if trim signature.value = [] then (.error .emptySignature, remembered)
        else if trim signature.value = runtime.hmacSha256 secret input then (.ok (), remembered)
        else (.error .invalidSignature, remembered)

end PlugHub.Frames
