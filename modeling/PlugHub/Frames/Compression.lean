import PlugHub.Frames.Envelope

/-!
# Compressing the body of a frame

The encoder compresses a serialized value when its size is between a threshold and a limit. The
automatic policy keeps the compressed form only when it saves enough, and remembers for a while
which events at which sizes did not compress; the other policy always keeps it. Both give it up
when the value would be too large for it. A large value may be compressed off the event loop; the
encoding is then suspended and resumed later, when the memory of the automatic policy may have
changed.
-/

namespace PlugHub.Frames

open Library

/-- When gzip is kept. -/
inductive CompressionPolicy where
  | auto
  | alwaysGzip
deriving DecidableEq

/-- The size from which gzip is tried. -/
inductive CompressionThreshold where
  | bytes (count : Nat)
  | never
deriving DecidableEq

/-- Options of the body encoder. -/
structure PreencodeOptions where
  compressionThreshold : Option CompressionThreshold := none
  compressionPolicy : Option CompressionPolicy := none
  maxInflationRatio : Option Nat := none
  maxGzipInputBytes : Option Nat := none
  compressionCacheEvent : Option Text := none

/-! ## What the automatic policy remembers -/

/-- Until when an event at a size is not tried again. -/
abbrev AdaptiveCache := OrderedMap Text Nat

/-- How long an event is not tried again. -/
def adaptiveCompressionSkipTtlMs : Nat := 30000

/-- How many events are remembered. -/
def adaptiveCompressionCacheMaxEntries : Nat := 64

/-- The size on a logarithmic scale. -/
def sizeTier (originalSize : Nat) : Nat := Nat.log2 (if originalSize < 1 then 1 else originalSize)

/-- The key of an event at a size. -/
def adaptiveCacheKey (eventName : Option Text) (originalSize : Nat) : Text :=
  ((nonBlank eventName).getD "frame".toList) ++ ':' :: decimal (sizeTier originalSize)

/-- Remove the oldest key. -/
def dropOldest {ν : Type} (cache : OrderedMap Text ν) : OrderedMap Text ν :=
  match cache.keys.head? with
  | some oldest => cache.erase oldest
  | none => cache

/-- Remove the oldest keys while there are too many; one turn for each key is enough. -/
def dropWhileLarge (limit : Nat) : Nat → AdaptiveCache → AdaptiveCache
  | 0, cache => cache
  | fuel + 1, cache =>
    if limit < cache.size then dropWhileLarge limit fuel (dropOldest cache) else cache

/-- Move a key to the end. -/
def touchAdaptive (cache : AdaptiveCache) (key : Text) (retryAtMs : Nat) : AdaptiveCache :=
  let moved := (cache.erase key).set key retryAtMs
  dropWhileLarge adaptiveCompressionCacheMaxEntries moved.size moved

/-- Whether gzip is not tried now. -/
def shouldSkipAutoGzip (cache : AdaptiveCache) (eventName : Option Text)
    (originalSize nowMs : Nat) :
    Bool × AdaptiveCache :=
  let key := adaptiveCacheKey eventName originalSize
  match cache.get key with
  | none => (false, cache)
  | some retryAtMs =>
    if retryAtMs ≤ nowMs then (false, cache.erase key)
    else (true, touchAdaptive cache key retryAtMs)

/-- Remember whether gzip saved enough. -/
def recordAutoGzipAttempt (cache : AdaptiveCache) (eventName : Option Text) (originalSize : Nat)
    (reduced : Bool) (nowMs : Nat) : AdaptiveCache :=
  let key := adaptiveCacheKey eventName originalSize
  if reduced then cache.erase key
  else touchAdaptive cache key (nowMs + adaptiveCompressionSkipTtlMs)

/-! ## The body -/

/-- A serialized value ready for a frame. -/
structure PreencodedBody where
  originalSize : Nat
  wireBytes : Buffer
  cmp : Compression

/-- A value that is too large for its compressed form. -/
def exceedsMaxInflationRatio (originalSize compressedSize ratioLimit : Nat) : Bool :=
  0 < compressedSize && ratioLimit * compressedSize < originalSize

/-- The threshold of the frame encoders: values below the global minimum are never compressed. -/
def effectiveEncodeCompressionThreshold (env : FrameEnv) (explicit : Option CompressionThreshold)
    (serializedLength : Nat) : CompressionThreshold :=
  if explicit = some .never then .never
  else if serializedLength < env.payloadFrameCompressMinBytes then .never
  else explicit.getD (.bytes env.payloadFrameCompressMinBytes)

/-- A body that is not compressed. -/
def uncompressedBody (encoded : Buffer) : PreencodedBody := ⟨encoded.length, encoded, .none⟩

/-- Whether gzip is tried on a value. -/
def gzipEligible (env : FrameEnv) (encoded : Buffer) (options : PreencodeOptions) : Bool :=
  match options.compressionThreshold.getD (.bytes 4096) with
  | .never => false
  | .bytes count =>
    count ≤ encoded.length &&
      encoded.length ≤ options.maxGzipInputBytes.getD env.payloadFrameMaxGzipInputBytes

/-- Keep the compressed form or give it up. -/
def finishAutoGzipBody (env : FrameEnv) (encoded compressed : Buffer) (options : PreencodeOptions)
    (nowMs : Nat) (cache : AdaptiveCache) : PreencodedBody × AdaptiveCache :=
  let inflationExceeded := exceedsMaxInflationRatio encoded.length compressed.length
    (options.maxInflationRatio.getD maxInflationRatio)
  match options.compressionPolicy.getD .auto with
  | .auto =>
    let reduced := !inflationExceeded &&
      compressed.length + env.payloadFrameAutoGzipMinSavingsBytes ≤ encoded.length
    let remembered := recordAutoGzipAttempt cache options.compressionCacheEvent encoded.length
      reduced nowMs
    if reduced then (⟨encoded.length, compressed, .gzip⟩, remembered)
    else (uncompressedBody encoded, remembered)
  | .alwaysGzip =>
    if inflationExceeded then (uncompressedBody encoded, cache)
    else (⟨encoded.length, compressed, .gzip⟩, cache)

variable {Value : Type}

/-- Encode a body at once. -/
def preencodeUtf8Buffer (env : FrameEnv) (runtime : Runtime Value) (encoded : Buffer)
    (options : PreencodeOptions) (nowMs : Nat) (cache : AdaptiveCache) :
    PreencodedBody × AdaptiveCache :=
  if gzipEligible env encoded options = false then (uncompressedBody encoded, cache)
  else
    let compressed := runtime.gzip env.payloadFrameGzipLevel encoded
    match options.compressionPolicy.getD .auto with
    | .alwaysGzip => finishAutoGzipBody env encoded compressed options nowMs cache
    | .auto =>
      match shouldSkipAutoGzip cache options.compressionCacheEvent encoded.length nowMs with
      | (true, remembered) => (uncompressedBody encoded, remembered)
      | (false, remembered) => finishAutoGzipBody env encoded compressed options nowMs remembered

/-- A body that is encoded, or that is being compressed off the event loop and is finished at a
later time with the memory of that time. -/
inductive Preencoding where
  | done (body : PreencodedBody) (cache : AdaptiveCache)
  | compressing (cache : AdaptiveCache)
      (resume : Nat → AdaptiveCache → PreencodedBody × AdaptiveCache)

/-- Encode a body off the event loop. -/
def preencodeUtf8BufferAsync (env : FrameEnv) (runtime : Runtime Value) (encoded : Buffer)
    (options : PreencodeOptions) (nowMs : Nat) (cache : AdaptiveCache) : Preencoding :=
  if gzipEligible env encoded options = false then .done (uncompressedBody encoded) cache
  else
    let finish := finishAutoGzipBody env encoded
      (runtime.gzip env.payloadFrameGzipLevel encoded) options
    match options.compressionPolicy.getD .auto with
    | .alwaysGzip => .compressing cache finish
    | .auto =>
      match shouldSkipAutoGzip cache options.compressionCacheEvent encoded.length nowMs with
      | (true, remembered) => .done (uncompressedBody encoded) remembered
      | (false, remembered) => .compressing remembered finish

end PlugHub.Frames
