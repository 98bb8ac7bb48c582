import PlugHub.Library.OrderedMap
import PlugHub.Library.Text

/-!
# Payload frames

The envelope that carries every JSON value between the hub, its agents and its consumers, the
settings that its encoder and decoder read, and what both take from the runtime: JSON, gzip, the
two hashes and base64 reading.
-/

namespace PlugHub.Frames

open Library

/-- Bytes. -/
abbrev Buffer := List UInt8

/-- Settings of the frame encoder and decoder. -/
structure FrameEnv where
  payloadFrameCompressMinBytes : Nat := 4096
  payloadFrameMaxGzipInputBytes : Nat := 524288
  payloadFrameGzipLevel : Option Nat := none
  payloadFrameAutoGzipMinSavingsBytes : Nat := 64
  /-- From this size on the bridge compresses off the event loop; zero disables it. -/
  payloadFrameAsyncGzipMinUtf8Bytes : Nat := 131072
  /-- From this size on inbound frames are inflated off the event loop; zero disables it. -/
  payloadFrameAsyncGunzipMinCompressedBytes : Nat := 1
  payloadSignOutbound : Bool := false
  payloadSigningKey : Option Text := none
  payloadSigningKeyId : Option Text := none
  payloadSigningPreviousKeys : OrderedMap Text Text := .empty

/-- The size limit of the bytes a frame carries. -/
def maxCompressedPayloadBytes : Nat := 10 * 1024 * 1024

/-- The size limit of the serialized value. -/
def maxDecodedPayloadBytes : Nat := 10 * 1024 * 1024

/-- How many times larger than its compressed form a value may be. -/
def maxInflationRatio : Nat := 10

/-- How the payload of a frame is compressed. -/
inductive Compression where
  | none
  | gzip
deriving DecidableEq

/-- The name of a compression on the wire. -/
def Compression.name : Compression → Text
  | .none => "none".toList
  | .gzip => "gzip".toList

/-- The forms in which a payload may arrive. -/
inductive WirePayload where
  | buffer (bytes : Buffer)
  | numbers (values : List Int)
  | base64 (text : Text)
deriving DecidableEq

/-- A signature block that passed the shape check of an envelope. -/
structure SignatureBlock where
  value : Text
  keyId : Option Text := none
deriving DecidableEq

/-- A payload frame that passed the shape check: version, encoding and content type are the only
ones allowed, the sizes are natural numbers, a null request id is an absent one. -/
structure PayloadFrameEnvelope where
  cmp : Compression
  originalSize : Nat
  compressedSize : Nat
  payload : WirePayload
  traceId : Option Text := Option.none
  requestId : Option Text := Option.none
  signature : Option SignatureBlock := Option.none
deriving DecidableEq

/-- What inflating bytes answers. -/
inductive GunzipOutcome where
  | output (bytes : Buffer)
  | tooLarge
  | failed

/-- What the frames take from the runtime, over a type of JSON values. -/
structure Runtime (Value : Type) where
  stringify : Value → Buffer
  parse : Buffer → Option Value
  gzip : Option Nat → Buffer → Buffer
  gunzip : Option Nat → Buffer → GunzipOutcome
  hmacSha256 : Text → Text → Text
  sha256 : Buffer → Text
  fromBase64 : Text → Buffer

/-- What the code relies on of gzip and of the digests. -/
structure Runtime.Reliable {Value : Type} (runtime : Runtime Value) : Prop where
  /-- Inflating gives back what was compressed, within the limit. -/
  inflates : ∀ level bytes limit, (∀ most, limit = some most → bytes.length ≤ most) →
    runtime.gunzip limit (runtime.gzip level bytes) = .output bytes
  /-- A digest has no white space at its ends. -/
  trimmed : ∀ secret text, trim (runtime.hmacSha256 secret text) = runtime.hmacSha256 secret text
  /-- A digest is not empty. -/
  digest : ∀ secret text, runtime.hmacSha256 secret text ≠ []

/-- Moreover every value is read back from its text. -/
structure Runtime.Lawful {Value : Type} (runtime : Runtime Value) : Prop extends
    runtime.Reliable where
  /-- The text of a value is read as the value. -/
  json : ∀ value, runtime.parse (runtime.stringify value) = some value

/-- Why a frame is not decoded. -/
inductive DecodeError where
  | notBinary
  | compressedLimit
  | compressedSizeMismatch
  | unknownKeyId
  | missingKeyId
  | noKeyConfigured
  | emptySignature
  | invalidSignature
  | decodedLimit
  | inflationRatio
  | originalSizeMismatch
  | decompressFailed
  | jsonFailed

/-- The message of a decoding error. -/
def DecodeError.message : DecodeError → String
  | .notBinary => "PayloadFrame payload must contain binary data"
  | .compressedLimit => "PayloadFrame compressed payload exceeds limit"
  | .compressedSizeMismatch => "PayloadFrame compressed size mismatch"
  | .unknownKeyId => "PayloadFrame signature key_id is not recognized"
  | .missingKeyId => "PayloadFrame signature is missing key_id but key rotation is configured"
  | .noKeyConfigured => "PayloadFrame signature provided but no signing key is configured"
  | .emptySignature => "PayloadFrame signature value is empty"
  | .invalidSignature => "PayloadFrame signature verification failed"
  | .decodedLimit => "PayloadFrame decoded payload exceeds limit"
  | .inflationRatio => "PayloadFrame inflation ratio exceeds limit"
  | .originalSizeMismatch => "PayloadFrame original size mismatch"
  | .decompressFailed => "Failed to decompress PayloadFrame payload"
  | .jsonFailed => "Failed to decode PayloadFrame JSON payload"

/-- Text that is not blank. -/
def nonBlank (text : Option Text) : Option Text := text.filter fun text => trim text ≠ []

/-- The payload as bytes; an array of numbers must hold bytes only. -/
def toBuffer {Value : Type} (runtime : Runtime Value) : WirePayload → Option Buffer
  | .buffer bytes => some bytes
  | .numbers values =>
    if values.all fun value => 0 ≤ value && value ≤ 255 then
      some (values.map fun value => UInt8.ofNat value.toNat)
    else none
  | .base64 text => some (runtime.fromBase64 text)

/-- The runtime on the one value null: its text, its SHA-256, and a gzip and a digest that no frame
of null reaches or compares. -/
def nullRuntime : Runtime Unit where
  stringify _ := [110, 117, 108, 108]
  parse bytes := if bytes = [110, 117, 108, 108] then some () else none
  gzip _ bytes := bytes
  gunzip limit bytes :=
    match limit with
    | some most => if bytes.length ≤ most then .output bytes else .tooLarge
    | none => .output bytes
  hmacSha256 _ _ := "eQBtuD3bqU6YFFUpYI4gGaZbkwMXFIVzYYjmZbi0Wfs=".toList
  sha256 _ := "74234e98afe7498fb5daf1f36ac2d78acc339464f950703b8c019892f982b90b".toList
  fromBase64 _ := []

end PlugHub.Frames
