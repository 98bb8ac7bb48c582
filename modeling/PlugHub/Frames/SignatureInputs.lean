import PlugHub.Frames.Signature
import PlugHub.Library.Runs

/-!
# The inputs of signatures

The canonical text determines what is signed. The cache answers with a canonical text that some
earlier frame left under the same key, so the text is the one of the frame at hand exactly when
that earlier frame had the same ids and the same payload. The key does not tell absent ids from
empty ones, nor where one id ends and the next begins.
-/

namespace PlugHub.Frames

open Library

variable {Value : Type}

/-! ## The canonical text determines what is signed -/

theorem before_mark_unique {mark : Char} {first second text rest rest' : Text}
    (begins : text.head? = some mark) (free : mark ∉ first) (free' : mark ∉ second)
    (same : first ++ (text ++ rest) = second ++ (text ++ rest')) :
    first = second ∧ rest = rest' := by
  cases text with
  | nil => cases begins
  | cons head tail =>
    obtain rfl := Option.some.inj begins
    obtain ⟨firsts, after⟩ := split_first free free' same
    exact ⟨firsts, List.append_cancel_left after⟩

theorem decimal_comma_unique {first second : Nat} {text rest rest' : Text}
    (begins : text.head? = some ',')
    (same : decimal first ++ (text ++ rest) = decimal second ++ (text ++ rest')) :
    first = second ∧ rest = rest' := by
  obtain ⟨decimals, rests⟩ := before_mark_unique begins (not_mem_decimal (by decide))
    (not_mem_decimal (by decide)) same
  exact ⟨decimal_injective decimals, rests⟩

theorem canonicalId_unique {first second : Option Text} {rest rest' : Text}
    (same : canonicalId first ++ rest = canonicalId second ++ rest') :
    first = second ∧ rest = rest' := by
  cases first with
  | none =>
    cases second with
    | none => exact ⟨rfl, List.append_cancel_left same⟩
    | some id => exact absurd (List.cons.inj same).1 (by decide)
  | some id =>
    cases second with
    | none => exact absurd (List.cons.inj same).1 (by decide)
    | some id' =>
      obtain ⟨ids, rests⟩ := quoted_unique same
      exact ⟨by rw [ids], rests⟩

theorem Compression.name_injective {first second : Compression} (same : first.name = second.name) :
    first = second := by
  revert same
  cases first <;> cases second <;> decide

theorem buildCanonicalSignatureFrame_injective {first second : SignedContent}
    (same : buildCanonicalSignatureFrame first = buildCanonicalSignatureFrame second) :
    first = second := by
  unfold buildCanonicalSignatureFrame at same
  simp only [List.append_assoc] at same
  obtain ⟨names, afterName⟩ := quoted_unique (List.append_cancel_left same)
  obtain ⟨compressedSizes, afterCompressed⟩ := decimal_comma_unique (by simp)
    (List.append_cancel_left afterName)
  obtain ⟨originalSizes, afterOriginal⟩ := decimal_comma_unique (by simp) afterCompressed
  obtain ⟨payloads, afterPayload⟩ := before_mark_unique (by simp) (quote_not_mem_base64 _)
    (quote_not_mem_base64 _) afterOriginal
  obtain ⟨requestIds, afterRequest⟩ := canonicalId_unique afterPayload
  obtain ⟨traceIds, -⟩ := canonicalId_unique (List.append_cancel_left afterRequest)
  cases first
  cases second
  cases Compression.name_injective names
  cases base64_injective payloads
  simp_all

/-! ## What the cache key tells -/

theorem bar_not_mem_name (cmp : Compression) : '|' ∉ cmp.name := by
  cases cmp <;> decide

variable {runtime : Runtime Value} {state : SigningState}

theorem key_parts {first second : SignedContent} (same : buildSignatureInputCacheKey runtime first =
      buildSignatureInputCacheKey runtime second) :
    first.cmp = second.cmp ∧ first.originalSize = second.originalSize ∧
      first.compressedSize = second.compressedSize ∧
      first.traceId.getD [] ++ '|' :: (first.requestId.getD [] ++ '|' ::
          runtime.sha256 first.payload) =
        second.traceId.getD [] ++ '|' :: (second.requestId.getD [] ++ '|' ::
          runtime.sha256 second.payload) := by
  unfold buildSignatureInputCacheKey at same
  simp only [List.append_assoc, List.cons_append] at same
  have afterVersion := (List.cons.inj (List.append_cancel_left same)).2
  obtain ⟨names, afterName⟩ := split_first (bar_not_mem_name _) (bar_not_mem_name _) afterVersion
  obtain ⟨originals, afterOriginal⟩ := split_first (not_mem_decimal (by decide))
    (not_mem_decimal (by decide)) afterName
  obtain ⟨compressed, afterCompressed⟩ := split_first (not_mem_decimal (by decide))
    (not_mem_decimal (by decide)) afterOriginal
  exact ⟨Compression.name_injective names, decimal_injective originals,
    decimal_injective compressed, afterCompressed⟩

/-! ## The cache and the frames that filled it -/

/-- The cache beside the frames whose canonical texts it holds. -/
structure SigningState where
  cache : SignatureCache := .empty
  origins : OrderedMap Text SignedContent := .empty

/-- A frame is signed or verified: its input is built, and what was not cached is. -/
def process (runtime : Runtime Value) (state : SigningState) (content : SignedContent) :
    SigningState where
  cache := (buildSignatureInput runtime state.cache content).2
  origins :=
    if signatureInputCacheMaxPayloadBytes < content.payload.length then state.origins
    else
      match state.origins.get (buildSignatureInputCacheKey runtime content) with
      | some _ => state.origins
      | none =>
        rememberCanonical state.origins (buildSignatureInputCacheKey runtime content) content

/-- The cache holds the canonical texts of its origins, each under its own key. -/
structure Mirrors (runtime : Runtime Value) (state : SigningState) : Prop where
  keys : state.cache.keys = state.origins.keys
  texts : ∀ key,
    state.cache.get key = (state.origins.get key).map buildCanonicalSignatureFrame
  own : ∀ key origin, state.origins.get key = some origin →
    buildSignatureInputCacheKey runtime origin = key

theorem Mirrors.empty (runtime : Runtime Value) : Mirrors runtime {} := ⟨rfl, fun _ => rfl, nofun⟩

theorem Mirrors.dropOldest (mirrors : Mirrors runtime state) :
    Mirrors runtime ⟨Frames.dropOldest state.cache, Frames.dropOldest state.origins⟩ := by
  unfold Frames.dropOldest
  rw [← mirrors.keys]
  cases state.cache.keys.head? with
  | none => exact mirrors
  | some oldest =>
    refine ⟨?_, fun key => ?_, fun key origin found => ?_⟩
    · rw [OrderedMap.keys_erase, OrderedMap.keys_erase, mirrors.keys]
    · rw [OrderedMap.get_erase, OrderedMap.get_erase]
      by_cases same : key = oldest
      · rw [if_pos same, if_pos same]
        rfl
      · rw [if_neg same, if_neg same]
        exact mirrors.texts key
    · rw [OrderedMap.get_erase] at found
      by_cases same : key = oldest
      · rw [if_pos same] at found
        cases found
      · rw [if_neg same] at found
        exact mirrors.own key origin found

theorem Mirrors.set (mirrors : Mirrors runtime state) (content : SignedContent)
    (absent : state.origins.get (buildSignatureInputCacheKey runtime content) = none) :
    Mirrors runtime
      ⟨state.cache.set (buildSignatureInputCacheKey runtime content)
          (buildCanonicalSignatureFrame content),
        state.origins.set (buildSignatureInputCacheKey runtime content) content⟩ := by
  have missing : state.cache.get (buildSignatureInputCacheKey runtime content) = none := by
    rw [mirrors.texts, absent]
    rfl
  refine ⟨?_, fun key => ?_, fun key origin found => ?_⟩
  · rw [OrderedMap.keys_set_of_absent _ _ missing, OrderedMap.keys_set_of_absent _ _ absent,
      mirrors.keys]
  · rw [OrderedMap.get_set, OrderedMap.get_set]
    by_cases same : key = buildSignatureInputCacheKey runtime content
    · rw [if_pos same, if_pos same]
      rfl
    · rw [if_neg same, if_neg same]
      exact mirrors.texts key
  · rcases OrderedMap.get_set_cases found with ⟨same, rfl⟩ | ⟨-, stored⟩
    · exact same.symm
    · exact mirrors.own key origin stored

theorem get_dropOldest_of_none {ν : Type} {cache : OrderedMap Text ν} {key : Text}
    (absent : cache.get key = none) : (dropOldest cache).get key = none := by
  unfold dropOldest
  cases cache.keys.head? with
  | none => exact absent
  | some oldest =>
    rw [OrderedMap.get_erase]
    by_cases same : key = oldest
    · rw [if_pos same]
    · rw [if_neg same]
      exact absent

theorem Mirrors.process (mirrors : Mirrors runtime state) (content : SignedContent) :
    Mirrors runtime (process runtime state content) := by
  unfold Frames.process buildSignatureInput
  by_cases large : signatureInputCacheMaxPayloadBytes < content.payload.length
  · simp only [large, if_true]
    exact mirrors
  · simp only [large, if_false]
    have text := mirrors.texts (buildSignatureInputCacheKey runtime content)
    cases found : state.origins.get (buildSignatureInputCacheKey runtime content) with
    | some origin =>
      rw [found] at text
      simp only [text, Option.map_some]
      exact mirrors
    | none =>
      rw [found] at text
      have sizes : state.cache.size = state.origins.size := by
        have counts := congrArg List.length mirrors.keys
        simpa [OrderedMap.keys, OrderedMap.size] using counts
      simp only [text, Option.map_none, rememberCanonical, sizes]
      by_cases full : signatureInputCacheMaxEntries ≤ state.origins.size
      · simp only [full, if_true]
        exact mirrors.dropOldest.set content (get_dropOldest_of_none found)
      · simp only [full, if_false]
        exact mirrors.set content found

/-! ## The inputs along a run -/

/-- The cache has no entry of another frame for this one: what is cached under its key, if anything,
was left by a frame with the same ids and the same payload. -/
def OwnEntry (runtime : Runtime Value) (state : SigningState) (content : SignedContent) : Prop :=
  content.payload.length ≤ signatureInputCacheMaxPayloadBytes →
  ∀ origin, state.origins.get (buildSignatureInputCacheKey runtime content) = some origin →
    origin.traceId = content.traceId ∧ origin.requestId = content.requestId ∧
      origin.payload = content.payload

/-- The input of a frame is its own canonical text exactly when the cache has no entry of another
frame for it. -/
theorem Mirrors.input_iff (mirrors : Mirrors runtime state) (content : SignedContent) :
    OwnEntry runtime state content ↔
      (buildSignatureInput runtime state.cache content).1 =
        buildCanonicalSignatureFrame content := by
  unfold OwnEntry buildSignatureInput
  by_cases large : signatureInputCacheMaxPayloadBytes < content.payload.length
  · simp only [large, if_true, iff_true]
    intro small
    omega
  · simp only [large, if_false]
    have text := mirrors.texts (buildSignatureInputCacheKey runtime content)
    cases found : state.origins.get (buildSignatureInputCacheKey runtime content) with
    | none =>
      rw [found] at text
      simp [text]
    | some origin =>
      rw [found] at text
      simp only [text, Option.map_some]
      constructor
      · intro own
        obtain ⟨traces, requests, payloads⟩ := own (by omega) origin rfl
        obtain ⟨cmps, originals, compressed, -⟩ := key_parts (mirrors.own _ origin found)
        have same : origin = content := by
          cases origin
          cases content
          simp_all
        rw [same]
      · rintro same _ other taken
        cases taken
        cases buildCanonicalSignatureFrame_injective same
        exact ⟨rfl, rfl, rfl⟩

/-- In every run of signings and verifications, every frame is given its own canonical text exactly
when no frame meets a cached entry of a frame with other ids or another payload; in such a run two
frames with the same input have the same signed content. -/
theorem signature_inputs_canonical_iff (runtime : Runtime Value) (contents : List SignedContent) :
    (Meets (process runtime) (OwnEntry runtime) {} contents ↔
      ∀ taken content, taken ++ [content] <+: contents →
        (buildSignatureInput runtime (run (process runtime) {} taken).cache content).1 =
          buildCanonicalSignatureFrame content) ∧
    (Meets (process runtime) (OwnEntry runtime) {} contents →
      ∀ taken first later second, taken ++ [first] <+: contents → later ++ [second] <+: contents →
        (buildSignatureInput runtime (run (process runtime) {} taken).cache first).1 =
          (buildSignatureInput runtime (run (process runtime) {} later).cache second).1 →
        first = second) := by
  have keeps : ∀ state content, Mirrors runtime state → OwnEntry runtime state content →
      Mirrors runtime (process runtime state content) :=
    fun _ content mirrors _ => mirrors.process content
  have inputs : Meets (process runtime) (OwnEntry runtime) {} contents ↔
      ∀ taken content, taken ++ [content] <+: contents →
        (buildSignatureInput runtime (run (process runtime) {} taken).cache content).1 =
          buildCanonicalSignatureFrame content :=
    meets_iff_every_step (process runtime) keeps
      (fun _ content mirrors => mirrors.input_iff content) (Mirrors.empty runtime) contents
  refine ⟨inputs, fun meets taken first later second inTaken inLater same => ?_⟩
  have canonical := inputs.mp meets
  rw [canonical taken first inTaken, canonical later second inLater] at same
  exact buildCanonicalSignatureFrame_injective same

/-- The content of a frame of null under a trace. -/
def nullContent (traceId : Option Text) : SignedContent :=
  { cmp := .none, originalSize := 4, compressedSize := 4, traceId := traceId, requestId := none,
    payload := [110, 117, 108, 108] }

/-- A frame with an empty trace id is given the canonical text of an earlier one without. -/
theorem empty_trace_takes_absent_trace :
    (buildSignatureInput nullRuntime (process nullRuntime {} (nullContent none)).cache
      (nullContent (some []))).1 = buildCanonicalSignatureFrame (nullContent none) ∧
    buildCanonicalSignatureFrame (nullContent none) ≠
      buildCanonicalSignatureFrame (nullContent (some [])) := by
  refine ⟨rfl, fun same => ?_⟩
  have contents := buildCanonicalSignatureFrame_injective same
  cases contents

end PlugHub.Frames
