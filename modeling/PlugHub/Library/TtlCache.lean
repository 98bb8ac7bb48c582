import PlugHub.Library.Accounting

/-!
# A cache whose entries expire

Entries live for a fixed time. When the cache is full, entries that have expired are removed, or
else the oldest entry, before another key is stored. Whatever an operation does, what is stored
afterwards was stored before or is what the operation stores.
-/

namespace PlugHub.Library

/-- An entry of a cache. -/
structure CacheEntry (ν : Type) where
  value : ν
  expiresAtMs : Nat

/-- A cache; a size of zero does not limit it. -/
structure TtlCache (κ ν : Type) where
  ttlMs : Nat
  maxSize : Nat
  map : OrderedMap κ (CacheEntry ν) := .empty

namespace TtlCache

variable {κ ν : Type} [DecidableEq κ] (cache : TtlCache κ ν)

/-- The value of a key, unless its entry has expired, which is removed then. -/
def get (nowMs : Nat) (key : κ) : Option ν × TtlCache κ ν :=
  match cache.map.get key with
  | none => (none, cache)
  | some entry =>
    if entry.expiresAtMs ≤ nowMs then (none, { cache with map := cache.map.erase key })
    else (some entry.value, cache)

/-- The entries whose keys pass a test are removed. -/
def deleteWhere (test : κ → Bool) : TtlCache κ ν :=
  { cache with map := (cache.map.keys.filter test).foldl (·.erase ·) cache.map }

/-- The entries that have expired are removed. -/
def evictStale (nowMs : Nat) : TtlCache κ ν :=
  { cache with
    map := ((cache.map.entries.filter fun entry => entry.2.expiresAtMs ≤ nowMs).map
      Prod.fst).foldl (·.erase ·) cache.map }

/-- Room is made for a key. -/
def makeRoom (nowMs : Nat) (key : κ) : TtlCache κ ν :=
  if 0 < cache.maxSize ∧ cache.map.has key = false ∧ cache.maxSize ≤ cache.map.size then
    let evicted := cache.evictStale nowMs
    if cache.maxSize ≤ evicted.map.size then
      match evicted.map.keys with
      | [] => evicted
      | oldest :: _ => { evicted with map := evicted.map.erase oldest }
    else evicted
  else cache

/-- A value is stored. -/
def set (nowMs : Nat) (key : κ) (value : ν) : TtlCache κ ν :=
  let room := cache.makeRoom nowMs key
  { room with map := room.map.set key ⟨value, nowMs + cache.ttlMs⟩ }

/-- A value is stored under a key, whether it has expired or not. -/
def Stored (key : κ) (value : ν) : Prop :=
  ∃ entry, cache.map.get key = some entry ∧ entry.value = value

variable {cache}

theorem get_of_foldl_erase {map : OrderedMap κ (CacheEntry ν)} {keys : List κ} {key : κ}
    {entry : CacheEntry ν} (found : (keys.foldl (·.erase ·) map).get key = some entry) :
    key ∉ keys ∧ map.get key = some entry := by
  rw [OrderedMap.get_foldl_erase] at found
  split at found
  · cases found
  · next absent => exact ⟨absent, found⟩

variable {nowMs : Nat} {value : ν}

theorem stored_of_get {key : κ}
    (answered : (cache.get nowMs key).1 = some value) : cache.Stored key value := by
  unfold get at answered
  split at answered
  · cases answered
  · next entry found =>
    split at answered
    · cases answered
    · exact ⟨entry, found, Option.some.inj answered⟩

theorem Stored.of_get {looked key : κ}
    (stored : (cache.get nowMs looked).2.Stored key value) : cache.Stored key value := by
  unfold get at stored
  split at stored
  · exact stored
  · split at stored
    · obtain ⟨entry, found, same⟩ := stored
      rw [OrderedMap.get_erase] at found
      split at found
      · cases found
      · exact ⟨entry, found, same⟩
    · exact stored

/-- What is stored after a deletion was stored before, under a key that does not pass. -/
theorem Stored.of_deleteWhere {test : κ → Bool} {key : κ}
    (stored : (cache.deleteWhere test).Stored key value) :
    test key = false ∧ cache.Stored key value := by
  obtain ⟨entry, found, same⟩ := stored
  obtain ⟨kept, before⟩ := get_of_foldl_erase found
  refine ⟨?_, entry, before, same⟩
  by_contra passes
  have member : key ∈ cache.map.keys := (cache.map.mem_keys_iff key).mpr ⟨entry, before⟩
  exact kept (List.mem_filter.mpr ⟨member, by simpa using passes⟩)

/-- What is stored after room was made was stored before. -/
theorem Stored.of_makeRoom {made key : κ}
    (stored : (cache.makeRoom nowMs made).Stored key value) : cache.Stored key value := by
  have evicted (kept : (cache.evictStale nowMs).Stored key value) : cache.Stored key value := by
    obtain ⟨entry, found, same⟩ := kept
    exact ⟨entry, (get_of_foldl_erase found).2, same⟩
  unfold makeRoom at stored
  split at stored
  · simp only at stored
    split at stored
    · split at stored
      · exact evicted stored
      · obtain ⟨entry, found, same⟩ := stored
        rw [OrderedMap.get_erase] at found
        split at found
        · cases found
        · exact evicted ⟨entry, found, same⟩
    · exact evicted stored
  · exact stored

/-- What is stored after a value was stored is that value, or was stored before. -/
theorem Stored.of_set {made key : κ} {value other : ν}
    (stored : (cache.set nowMs made value).Stored key other) :
    key = made ∧ other = value ∨ cache.Stored key other := by
  obtain ⟨entry, found, same⟩ := stored
  rcases OrderedMap.get_set_cases found with ⟨rfl, rfl⟩ | ⟨-, before⟩
  · exact Or.inl ⟨rfl, same.symm⟩
  · exact Or.inr (Stored.of_makeRoom ⟨entry, before, same⟩)

end TtlCache

end PlugHub.Library
