import PlugHub.Registries.ExpirationHeap

/-!
# Stores whose entries expire

`IndexedTtlStore` and the idempotency store of published socket events keep a map of entries and
the heap of their expiries. Reading deletes an entry that has expired, and both take the expired
keys from the heap: the one with a timer, so many at a time, the other before it stores an entry.
The idempotency store has a limit, and makes room by deleting the oldest keys.

Both operations on a key go to the map and to the heap, so the two never differ, and what is read
is what was set last.
-/

namespace PlugHub.TtlStores

open Library
open ExpirationHeap (Expiration IndexedExpirationHeap)
open OrderedMap

/-- What is stored for a key. -/
structure TtlEntry (ν : Type) where
  value : ν
  expiresAtMs : Int

/-- The two structures of a store. -/
structure Indexed (κ ν : Type) [DecidableEq κ] where
  entries : OrderedMap κ (TtlEntry ν) := .empty
  expirations : IndexedExpirationHeap κ := {}

namespace Indexed

variable {κ ν : Type} [DecidableEq κ] (store : Indexed κ ν)

/-- An entry goes to both structures. -/
def put (key : κ) (entry : TtlEntry ν) : Indexed κ ν :=
  ⟨store.entries.set key entry, store.expirations.set key entry.expiresAtMs⟩

/-- A key is deleted from both. -/
def drop (key : κ) : Indexed κ ν :=
  ⟨store.entries.erase key, store.expirations.delete key⟩

/-- The loops over `takeExpired`: so many expired keys are deleted, or all of them. -/
def sweep (nowMs : Int) (count : Nat) : Indexed κ ν :=
  ⟨(store.expirations.takeEach nowMs count).1.foldl erase store.entries,
    (store.expirations.takeEach nowMs count).2⟩

end Indexed

/-! ## What a store keeps -/

section Agreement

variable {κ ν : Type} [DecidableEq κ]

/-- A store agrees with what was set last: its heap has the expiries of its entries, its entries
are among what was set, and what has not expired is there. -/
structure Agrees (store : Indexed κ ν) (held : κ → Option (TtlEntry ν)) (nowMs : Int) : Prop where
  /-- The heap has the expiries of the entries. -/
  represents : store.expirations.Represents fun key =>
    (store.entries.get key).map (·.expiresAtMs)
  ordered : store.expirations.IsHeap
  /-- An entry is what was set last for its key. -/
  stored : ∀ key entry, store.entries.get key = some entry → held key = some entry
  /-- What has not expired is there. -/
  kept : ∀ key entry, held key = some entry → nowMs < entry.expiresAtMs →
    store.entries.get key = some entry

variable {store : Indexed κ ν} {held : κ → Option (TtlEntry ν)} {nowMs : Int}

theorem agrees_empty (nowMs : Int) : Agrees ({} : Indexed κ ν) (fun _ => none) nowMs := by
  constructor
  · constructor
    · intro key position
      constructor
      · intro refuted
        cases refuted
      · rintro ⟨_, refuted⟩
        cases refuted
    · intro key time
      constructor
      · intro refuted
        cases refuted
      · intro refuted
        cases refuted
  · intro position _ inside
    cases inside
  · intro key entry refuted
    cases refuted
  · intro key entry refuted
    cases refuted

section

variable (agrees : Agrees store held nowMs)

include agrees

theorem Agrees.later {later : Int} (passed : nowMs ≤ later) :
    Agrees store held later :=
  ⟨agrees.represents, agrees.ordered, agrees.stored,
    fun key entry set fresh => agrees.kept key entry set (by omega)⟩

theorem Agrees.put (key : κ) (entry : TtlEntry ν) :
    Agrees (store.put key entry) (Function.update held key (some entry)) nowMs := by
  obtain ⟨represents, ordered⟩ := IndexedExpirationHeap.set_spec agrees.represents agrees.ordered
    key entry.expiresAtMs
  have expiries : (fun other => ((store.put key entry).entries.get other).map (·.expiresAtMs)) =
      Function.update (fun other => (store.entries.get other).map (·.expiresAtMs)) key
        (some entry.expiresAtMs) := by
    funext other
    rw [Indexed.put, get_set, Function.update_apply]
    by_cases same : other = key
    · rw [if_pos same, if_pos same, Option.map_some]
    · rw [if_neg same, if_neg same]
  constructor
  · rw [expiries]
    exact represents
  · exact ordered
  · intro other found read
    rw [Indexed.put, get_set] at read
    rw [Function.update_apply]
    by_cases same : other = key
    · rwa [if_pos same] at read ⊢
    · rw [if_neg same] at read ⊢
      exact agrees.stored other found read
  · intro other found set fresh
    rw [Function.update_apply] at set
    rw [Indexed.put, get_set]
    by_cases same : other = key
    · rwa [if_pos same] at set ⊢
    · rw [if_neg same] at set ⊢
      exact agrees.kept other found set fresh

/-- Deleting keys: the heap has the expiries of what is left, as long as the keys that are
forgotten or expired are the only ones that go. -/
theorem Agrees.without {rest : Indexed κ ν}
    {left : κ → Option (TtlEntry ν)} (gone : κ → Prop) [DecidablePred gone]
    (entries : ∀ key, rest.entries.get key = if gone key then none else store.entries.get key)
    (represents : rest.expirations.Represents fun key =>
      if gone key then none else (store.entries.get key).map (·.expiresAtMs))
    (ordered : rest.expirations.IsHeap)
    (same : ∀ key, ¬ gone key → left key = held key)
    (due : ∀ key entry, gone key → left key = some entry → entry.expiresAtMs ≤ nowMs) :
    Agrees rest left nowMs := by
  have expiries : (fun key => (rest.entries.get key).map (·.expiresAtMs)) =
      fun key => if gone key then none else (store.entries.get key).map (·.expiresAtMs) := by
    funext key
    rw [entries]
    by_cases deleted : gone key
    · rw [if_pos deleted, if_pos deleted, Option.map_none]
    · rw [if_neg deleted, if_neg deleted]
  constructor
  · rw [expiries]
    exact represents
  · exact ordered
  · intro key entry read
    rw [entries] at read
    by_cases deleted : gone key
    · rw [if_pos deleted] at read
      cases read
    · rw [if_neg deleted] at read
      rw [same key deleted]
      exact agrees.stored key entry read
  · intro key entry set fresh
    rw [entries]
    by_cases deleted : gone key
    · have expired := due key entry deleted set
      omega
    · rw [if_neg deleted]
      rw [same key deleted] at set
      exact agrees.kept key entry set fresh

theorem Agrees.drop (key : κ)
    {left : κ → Option (TtlEntry ν)} (same : ∀ other, other ≠ key → left other = held other)
    (due : ∀ entry, left key = some entry → entry.expiresAtMs ≤ nowMs) :
    Agrees (store.drop key) left nowMs := by
  obtain ⟨represents, ordered⟩ := IndexedExpirationHeap.delete_spec agrees.represents
    agrees.ordered key
  apply agrees.without (· = key)
  · intro other
    exact get_erase store.entries key other
  · have update : (fun other => if other = key then none
        else (store.entries.get other).map (·.expiresAtMs)) =
        Function.update (fun other => (store.entries.get other).map (·.expiresAtMs)) key none := by
      funext other
      rw [Function.update_apply]
    rw [update]
    exact represents
  · exact ordered
  · exact same
  · rintro other entry rfl set
    exact due entry set

theorem Agrees.dropExpired {key : κ} {entry : TtlEntry ν}
    (read : store.entries.get key = some entry) (expired : entry.expiresAtMs ≤ nowMs) :
    Agrees (store.drop key) held nowMs := by
  apply agrees.drop key
  · intro other _
    rfl
  · intro found set
    have last := agrees.stored key entry read
    rw [set] at last
    cases last
    exact expired

end

theorem get_foldl_erase (keys : List κ) (entries : OrderedMap κ (TtlEntry ν)) (key : κ) :
    (keys.foldl erase entries).get key =
      if key ∈ keys then none else entries.get key := by
  induction keys generalizing entries with
  | nil => rw [List.foldl_nil, if_neg List.not_mem_nil]
  | cons first keys ih =>
    rw [List.foldl_cons, ih, get_erase]
    by_cases later : key ∈ keys
    · rw [if_pos later, if_pos (List.mem_cons_of_mem _ later)]
    · rw [if_neg later]
      by_cases same : key = first
      · rw [if_pos same, if_pos (List.mem_cons.mpr (.inl same))]
      · rw [if_neg same, if_neg]
        intro member
        cases List.mem_cons.mp member with
        | inl refuted => exact same refuted
        | inr refuted => exact later refuted

theorem Agrees.sweep (agrees : Agrees store held nowMs) (count : Nat) :
    Agrees (store.sweep nowMs count) held nowMs := by
  obtain ⟨-, due, -, represents, ordered⟩ := IndexedExpirationHeap.takeEach_spec agrees.represents
    agrees.ordered nowMs count
  apply agrees.without (· ∈ (store.expirations.takeEach nowMs count).1)
  · intro key
    exact get_foldl_erase _ _ _
  · exact represents
  · exact ordered
  · intro key _
    rfl
  · intro key entry member set
    obtain ⟨time, expiry, expired⟩ := due key member
    cases read : store.entries.get key with
    | none =>
      rw [read] at expiry
      cases expiry
    | some found =>
      have last := agrees.stored key found read
      rw [set] at last
      cases last
      rw [read] at expiry
      cases expiry
      exact expired

theorem Agrees.sizes (agrees : Agrees store held nowMs) :
    store.expirations.size = store.entries.size := by
  have distinct : (store.expirations.nodes.map (·.key)).Nodup := by
    apply List.nodup_iff_getElem?_ne_getElem?.mpr
    intro first second before inside same
    rw [List.length_map] at inside
    have earlier : first < store.expirations.nodes.length := by omega
    have left := List.getElem?_eq_getElem earlier
    have right := List.getElem?_eq_getElem inside
    rw [List.getElem?_map, List.getElem?_map, left, right] at same
    have one := agrees.represents.position_unique left right (Option.some.inj same)
    omega
  have together : (store.expirations.nodes.map (·.key)).Perm store.entries.keys := by
    have unique : store.entries.keys.Nodup := store.entries.distinct
    apply (List.perm_ext_iff_of_nodup distinct unique).mpr
    intro key
    rw [mem_keys_iff, List.mem_map]
    constructor
    · rintro ⟨node, member, rfl⟩
      have expiry := (agrees.represents.contents node.key node.expiresAtMs).mpr member
      cases read : store.entries.get node.key with
      | none =>
        rw [read] at expiry
        cases expiry
      | some entry => exact ⟨entry, rfl⟩
    · rintro ⟨entry, read⟩
      have expiry : (store.entries.get key).map (·.expiresAtMs) = some entry.expiresAtMs := by
        rw [read, Option.map_some]
      exact ⟨_, (agrees.represents.contents key entry.expiresAtMs).mp expiry, rfl⟩
  have lengths := together.length_eq
  rwa [OrderedMap.keys, List.length_map, List.length_map] at lengths

/-- What is promised of a store: map and heap have the same keys with the same expiries, and what
is read is what was set last, unless it has expired. -/
structure Serves (store : Indexed κ ν) (held : κ → Option (TtlEntry ν)) (nowMs : Int)
    (get : κ → Int → Option ν) : Prop where
  /-- A key with its expiry is in the heap exactly when it is in the map. -/
  tracked : ∀ key expiresAtMs, ⟨key, expiresAtMs⟩ ∈ store.expirations.nodes ↔
    ∃ value, store.entries.get key = some ⟨value, expiresAtMs⟩
  sizes : store.expirations.size = store.entries.size
  /-- From now on, a key is read as it was set last until it expires. -/
  answers : ∀ key later, nowMs ≤ later → get key later = (held key).bind fun entry =>
    if later < entry.expiresAtMs then some entry.value else none

/-- A store that agrees with what was set last keeps the promises, if it is read by the expiry. -/
theorem Agrees.serves (agrees : Agrees store held nowMs) {get : κ → Int → Option ν}
    (reads : ∀ key later, get key later = (store.entries.get key).bind fun entry =>
      if later < entry.expiresAtMs then some entry.value else none) :
    Serves store held nowMs get := by
  constructor
  · intro key expiresAtMs
    rw [← agrees.represents.contents, Option.map_eq_some_iff]
    constructor
    · rintro ⟨⟨value, expiry⟩, read, same⟩
      cases same
      exact ⟨value, read⟩
    · rintro ⟨value, read⟩
      exact ⟨_, read, rfl⟩
  · exact agrees.sizes
  · intro key later passed
    rw [reads]
    cases set : held key with
    | none =>
      cases read : store.entries.get key with
      | none => rfl
      | some found =>
        have last := agrees.stored key found read
        rw [set] at last
        cases last
    | some entry =>
      by_cases fresh : later < entry.expiresAtMs
      · rw [(agrees.later passed).kept key entry set fresh]
      · cases read : store.entries.get key with
        | none =>
          rw [Option.bind_none, Option.bind_some, if_neg fresh]
        | some found =>
          have last := agrees.stored key found read
          rw [set] at last
          cases last
          rfl

end Agreement

/-- A store with what was set last for the keys that were neither deleted nor evicted since. -/
structure History (κ ν σ : Type) where
  store : σ
  held : κ → Option (TtlEntry ν)
  nowMs : Int

/-! ## The store with a timer -/

/-- `EXPIRATIONS_PER_TURN`. -/
def expirationsPerTurn : Nat := 256

/-- `IndexedTtlStore`. -/
structure IndexedTtlStore (κ ν : Type) [DecidableEq κ] extends Indexed κ ν where
  timer : Bool := false
  closed : Bool := false

namespace IndexedTtlStore

variable {κ ν : Type} [DecidableEq κ]

section Operations

variable (store : IndexedTtlStore κ ν)

/-- `schedule`. -/
def schedule : IndexedTtlStore κ ν :=
  { store with timer := store.expirations.peek.isSome && !store.closed }

/-- `get`. -/
def get (key : κ) (nowMs : Int) : Option ν × IndexedTtlStore κ ν :=
  match store.entries.get key with
  | none => (none, store)
  | some entry =>
    if entry.expiresAtMs ≤ nowMs then (none, schedule { store with toIndexed := store.drop key })
    else (some entry.value, store)

/-- `set`. -/
def set (ttlMs : Int) (key : κ) (value : ν) (nowMs : Int) : IndexedTtlStore κ ν :=
  if store.closed then store
  else schedule { store with toIndexed := store.put key ⟨value, nowMs + ttlMs⟩ }

/-- The callback of the timer. -/
def turn (nowMs : Int) : IndexedTtlStore κ ν :=
  if store.timer then
    schedule { store with toIndexed := store.sweep nowMs expirationsPerTurn, timer := false }
  else store

/-- `close`. -/
def close : IndexedTtlStore κ ν :=
  { entries := .empty, expirations := .clear, timer := false, closed := true }

end Operations

/-- What is done with the store. -/
inductive Action (κ ν : Type) where
  /-- `get`. -/
  | get (key : κ)
  /-- `set`. -/
  | set (key : κ) (value : ν)
  | turn
  /-- `close`. -/
  | close

/-- One step, so long after the one before. -/
def step (ttlMs : Int) (history : History κ ν (IndexedTtlStore κ ν)) (action : Nat × Action κ ν) :
    History κ ν (IndexedTtlStore κ ν) :=
  let nowMs := history.nowMs + action.1
  match action.2 with
  | .get key => { history with store := (history.store.get key nowMs).2, nowMs }
  | .set key value =>
    { store := history.store.set ttlMs key value nowMs
      held :=
        if history.store.closed then history.held
        else Function.update history.held key (some ⟨value, nowMs + ttlMs⟩)
      nowMs }
  | .turn => { history with store := history.store.turn nowMs, nowMs }
  | .close => { store := .close, held := fun _ => none, nowMs }

theorem get_eq (store : IndexedTtlStore κ ν) (key : κ) (nowMs : Int) :
    (store.get key nowMs).1 = (store.entries.get key).bind fun entry =>
      if nowMs < entry.expiresAtMs then some entry.value else none := by
  unfold get
  cases store.entries.get key with
  | none => rfl
  | some entry =>
    dsimp only [Option.bind_some]
    by_cases expired : entry.expiresAtMs ≤ nowMs
    · rw [if_pos expired, if_neg (by omega)]
    · rw [if_neg expired, if_pos (by omega)]

theorem step_agrees (ttlMs : Int) (history : History κ ν (IndexedTtlStore κ ν))
    (action : Nat × Action κ ν)
    (agrees : Agrees history.store.toIndexed history.held history.nowMs) :
    Agrees (step ttlMs history action).store.toIndexed (step ttlMs history action).held
      (step ttlMs history action).nowMs := by
  obtain ⟨elapsed, action⟩ := action
  have now := agrees.later (show history.nowMs ≤ history.nowMs + elapsed by omega)
  cases action with
  | get key =>
    dsimp only [step, get]
    cases read : history.store.entries.get key with
    | none => exact now
    | some entry =>
      dsimp only
      by_cases expired : entry.expiresAtMs ≤ history.nowMs + elapsed
      · rw [if_pos expired]
        exact now.dropExpired read expired
      · rw [if_neg expired]
        exact now
  | set key value =>
    dsimp only [step, set]
    by_cases closed : history.store.closed = true
    · rw [if_pos closed, if_pos closed]
      exact now
    · rw [if_neg closed, if_neg closed]
      exact now.put key _
  | turn =>
    dsimp only [step, turn]
    by_cases armed : history.store.timer = true
    · rw [if_pos armed]
      exact now.sweep expirationsPerTurn
    · rw [if_neg armed]
      exact now
  | close => exact agrees_empty _

end IndexedTtlStore

/-! ## The idempotency store of published socket events -/

/-- `env.restSocketEventIdempotencyTtlMs` and `env.restSocketEventIdempotencyMaxEntries`, as the
schema of the environment admits them. -/
structure IdempotencyLimits where
  ttlMs : Nat
  maxEntries : Nat
  positive : 0 < maxEntries

namespace PublishIdempotency

variable {κ ν : Type} [DecidableEq κ]

theorem keys_drop_oldest {store : Indexed κ ν} {oldestKey : κ} {rest : List κ}
    (present : store.entries.keys = oldestKey :: rest) :
    (store.drop oldestKey).entries.keys = rest := by
  have distinct : store.entries.keys.Nodup := store.entries.distinct
  rw [present, List.nodup_cons] at distinct
  rw [Indexed.drop, keys_erase, present]
  rw [List.filter_cons_of_neg (by simp)]
  apply List.filter_eq_self.mpr
  intro key member
  have other : key ≠ oldestKey := fun same => distinct.1 (same ▸ member)
  simpa using other

theorem size_eq (store : Indexed κ ν) : store.entries.size = store.entries.keys.length := by
  rw [OrderedMap.size, OrderedMap.keys, List.length_map]

section Operations

variable (store : Indexed κ ν)

/-- `getClientSocketEventPublishIdempotencyEntry`. -/
def getEntry (key : κ) (nowMs : Int) : Option (TtlEntry ν) × Indexed κ ν :=
  match store.entries.get key with
  | none => (none, store)
  | some entry =>
    if entry.expiresAtMs ≤ nowMs then (none, store.drop key) else (some entry, store)

/-- `pruneClientSocketEventPublishIdempotencyEntries`. -/
def pruneEntries (nowMs : Int) : Nat × Indexed κ ν :=
  ((store.expirations.takeEach nowMs (store.expirations.size + 1)).1.length,
    store.sweep nowMs (store.expirations.size + 1))

/-- The loop that makes room for an entry, with the keys that are evicted. -/
def makeRoom (maxEntries : Nat) (store : Indexed κ ν) : List κ × Indexed κ ν :=
  if maxEntries ≤ store.entries.size then
    match _ : store.entries.keys with
    | [] => ([], store)
    | oldestKey :: _ =>
      let (evicted, rest) := makeRoom maxEntries (store.drop oldestKey)
      (oldestKey :: evicted, rest)
  else ([], store)
termination_by store.entries.size
decreasing_by
  next keys =>
    rw [size_eq, size_eq, keys_drop_oldest keys, keys, List.length_cons]
    omega

/-- `setClientSocketEventPublishIdempotencyEntry`. -/
def setEntry (limits : IdempotencyLimits) (key : κ) (value : ν) (nowMs : Int) : Indexed κ ν :=
  if limits.ttlMs = 0 then store
  else
    (makeRoom limits.maxEntries (pruneEntries store nowMs).2).2.put key
      ⟨value, nowMs + limits.ttlMs⟩

end Operations

theorem size_put_le (store : Indexed κ ν) (key : κ) (entry : TtlEntry ν) :
    (store.put key entry).entries.size ≤ store.entries.size + 1 := by
  dsimp only [Indexed.put]
  by_cases present : key ∈ store.entries.keys
  · rw [OrderedMap.size, entries_set_of_present present, replaceEntry,
      List.length_map]
    exact Nat.le_succ _
  · rw [OrderedMap.size, entries_set_of_absent present, List.length_append]
    exact Nat.le_refl _

/-- What is done with the store. -/
inductive Action (κ ν : Type) where
  /-- `getClientSocketEventPublishIdempotencyEntry`. -/
  | getEntry (key : κ)
  /-- `setClientSocketEventPublishIdempotencyEntry`. -/
  | setEntry (key : κ) (value : ν)
  /-- `pruneClientSocketEventPublishIdempotencyEntries`. -/
  | pruneEntries
  /-- `resetClientSocketEventPublishIdempotencyStore`. -/
  | resetStore

/-- The keys that are evicted when an entry is stored. -/
def evictedKeys (limits : IdempotencyLimits) (store : Indexed κ ν) (nowMs : Int) : List κ :=
  (makeRoom limits.maxEntries (pruneEntries store nowMs).2).1

/-- One step, so long after the one before. -/
def step (limits : IdempotencyLimits) (history : History κ ν (Indexed κ ν))
    (action : Nat × Action κ ν) : History κ ν (Indexed κ ν) :=
  let nowMs := history.nowMs + action.1
  match action.2 with
  | .getEntry key => { history with store := (getEntry history.store key nowMs).2, nowMs }
  | .setEntry key value =>
    { store := setEntry history.store limits key value nowMs
      held :=
        if limits.ttlMs = 0 then history.held
        else
          Function.update
            (fun other =>
              if other ∈ evictedKeys limits history.store nowMs then none
              else history.held other)
            key (some ⟨value, nowMs + limits.ttlMs⟩)
      nowMs }
  | .pruneEntries => { history with store := (pruneEntries history.store nowMs).2, nowMs }
  | .resetStore =>
    { store := { entries := .empty, expirations := .clear }, held := fun _ => none, nowMs }

theorem getEntry_eq (store : Indexed κ ν) (key : κ) (nowMs : Int) :
    (getEntry store key nowMs).1.map (·.value) = (store.entries.get key).bind fun entry =>
      if nowMs < entry.expiresAtMs then some entry.value else none := by
  unfold getEntry
  cases store.entries.get key with
  | none => rfl
  | some entry =>
    dsimp only [Option.bind_some]
    by_cases expired : entry.expiresAtMs ≤ nowMs
    · rw [if_pos expired, if_neg (by omega)]
      rfl
    · rw [if_neg expired, if_pos (by omega)]
      rfl

variable {maxEntries : Nat}

variable {store : Indexed κ ν}

theorem makeRoom_of_room
    (room : store.entries.size < maxEntries) : makeRoom maxEntries store = ([], store) := by
  rw [makeRoom, if_neg (by omega)]

theorem makeRoom_of_full {oldestKey : κ} {rest : List κ}
    (full : maxEntries ≤ store.entries.size) (keys : store.entries.keys = oldestKey :: rest) :
    makeRoom maxEntries store =
      (oldestKey :: (makeRoom maxEntries (store.drop oldestKey)).1,
        (makeRoom maxEntries (store.drop oldestKey)).2) := by
  rw [makeRoom, if_pos full]
  split
  · next refuted =>
    rw [keys] at refuted
    cases refuted
  · next present =>
    rw [keys] at present
    cases present
    rfl

theorem makeRoom_evicts (positive : 0 < maxEntries) (store : Indexed κ ν) :
    (makeRoom maxEntries store).1 =
        store.entries.keys.take (store.entries.size + 1 - maxEntries) ∧
      (makeRoom maxEntries store).2.entries.size < maxEntries := by
  induction keys : store.entries.keys generalizing store with
  | nil =>
    have nothing : store.entries.size = 0 := by rw [size_eq, keys, List.length_nil]
    rw [makeRoom_of_room (by omega), List.take_nil]
    exact ⟨rfl, by rwa [nothing]⟩
  | cons oldestKey rest ih =>
    have left := keys_drop_oldest keys
    have fewer : store.entries.size = (store.drop oldestKey).entries.size + 1 := by
      rw [size_eq, size_eq, keys, left, List.length_cons]
    obtain ⟨evicted, room⟩ := ih (store.drop oldestKey) left
    by_cases full : maxEntries ≤ store.entries.size
    · have more : store.entries.size + 1 - maxEntries =
          (store.drop oldestKey).entries.size + 1 - maxEntries + 1 := by omega
      rw [makeRoom_of_full full keys, more, List.take_succ_cons, ← evicted]
      exact ⟨rfl, room⟩
    · have enough : store.entries.size + 1 - maxEntries = 0 := by omega
      rw [makeRoom_of_room (by omega), enough, List.take_zero]
      exact ⟨rfl, not_le.mp full⟩

theorem makeRoom_agrees (positive : 0 < maxEntries)
    {held : κ → Option (TtlEntry ν)} {nowMs : Int} (agrees : Agrees store held nowMs) :
    Agrees (makeRoom maxEntries store).2
      (fun key => if key ∈ (makeRoom maxEntries store).1 then none else held key) nowMs := by
  induction keys : store.entries.keys generalizing store held with
  | nil =>
    have nothing : store.entries.size = 0 := by rw [size_eq, keys, List.length_nil]
    rw [makeRoom_of_room (by omega)]
    simpa only [List.not_mem_nil, if_false] using agrees
  | cons oldestKey rest ih =>
    by_cases full : maxEntries ≤ store.entries.size
    · have dropped : Agrees (store.drop oldestKey) (Function.update held oldestKey none) nowMs := by
        apply agrees.drop oldestKey
        · intro other differs
          exact Function.update_of_ne differs _ _
        · intro entry set
          rw [Function.update_self] at set
          cases set
      have both : (fun key => if key ∈ (makeRoom maxEntries store).1 then none else held key) =
          fun key => if key ∈ (makeRoom maxEntries (store.drop oldestKey)).1 then none
            else Function.update held oldestKey none key := by
        funext key
        rw [makeRoom_of_full full keys, Function.update_apply]
        by_cases same : key = oldestKey
        · rw [if_pos (List.mem_cons.mpr (.inl same)), if_pos same, ite_self]
        · simp only [List.mem_cons, same, false_or, if_false]
      rw [both, makeRoom_of_full full keys]
      exact ih dropped (keys_drop_oldest keys)
    · rw [makeRoom_of_room (by omega)]
      simpa only [List.not_mem_nil, if_false] using agrees

theorem step_agrees (limits : IdempotencyLimits) (history : History κ ν (Indexed κ ν))
    (action : Nat × Action κ ν) (agrees : Agrees history.store history.held history.nowMs) :
    Agrees (step limits history action).store (step limits history action).held
      (step limits history action).nowMs := by
  obtain ⟨elapsed, action⟩ := action
  have now := agrees.later (show history.nowMs ≤ history.nowMs + elapsed by omega)
  cases action with
  | getEntry key =>
    dsimp only [step, getEntry]
    cases read : history.store.entries.get key with
    | none => exact now
    | some entry =>
      dsimp only
      by_cases expired : entry.expiresAtMs ≤ history.nowMs + elapsed
      · rw [if_pos expired]
        exact now.dropExpired read expired
      · rw [if_neg expired]
        exact now
  | setEntry key value =>
    dsimp only [step, setEntry]
    by_cases off : limits.ttlMs = 0
    · rw [if_pos off, if_pos off]
      exact now
    · rw [if_neg off, if_neg off]
      have pruned := now.sweep (history.store.expirations.size + 1)
      exact (makeRoom_agrees limits.positive pruned).put key _
  | pruneEntries => exact now.sweep (history.store.expirations.size + 1)
  | resetStore => exact agrees_empty _

theorem size_sweep_le (store : Indexed κ ν) (nowMs : Int) (count : Nat) :
    (store.sweep nowMs count).entries.size ≤ store.entries.size := by
  dsimp only [Indexed.sweep]
  generalize (store.expirations.takeEach nowMs count).1 = keys
  generalize store.entries = entries
  induction keys generalizing entries with
  | nil => exact Nat.le_refl _
  | cons key keys ih => exact Nat.le_trans (ih _) (List.length_filter_le _ _)

theorem step_size (limits : IdempotencyLimits) (history : History κ ν (Indexed κ ν))
    (action : Nat × Action κ ν) (within : history.store.entries.size ≤ limits.maxEntries) :
    (step limits history action).store.entries.size ≤ limits.maxEntries := by
  obtain ⟨elapsed, action⟩ := action
  cases action with
  | getEntry key =>
    dsimp only [step, getEntry]
    cases history.store.entries.get key with
    | none => exact within
    | some entry =>
      dsimp only
      by_cases expired : entry.expiresAtMs ≤ history.nowMs + elapsed
      · rw [if_pos expired]
        exact Nat.le_trans (List.length_filter_le _ _) within
      · rw [if_neg expired]
        exact within
  | setEntry key value =>
    dsimp only [step, setEntry]
    by_cases off : limits.ttlMs = 0
    · rw [if_pos off]
      exact within
    · rw [if_neg off]
      have room := (makeRoom_evicts limits.positive
        (pruneEntries history.store (history.nowMs + elapsed)).2).2
      have more := size_put_le (makeRoom limits.maxEntries
        (pruneEntries history.store (history.nowMs + elapsed)).2).2 key
        ⟨value, history.nowMs + elapsed + limits.ttlMs⟩
      omega
  | pruneEntries => exact Nat.le_trans (size_sweep_le _ _ _) within
  | resetStore => exact Nat.zero_le _

end PublishIdempotency

open TtlStores.PublishIdempotency

/-! ## Runs -/

/-- The promises of the store of published events: besides those of both stores, it never has more
entries than configured, and what a new entry evicts are the oldest unexpired keys, as many as are
needed for one more. -/
structure IdempotencyServes {κ ν : Type} [DecidableEq κ] (limits : IdempotencyLimits)
    (history : History κ ν (Indexed κ ν)) : Prop where
  serves : Serves history.store history.held history.nowMs fun key later =>
    (getEntry history.store key later).1.map (·.value)
  size : history.store.entries.size ≤ limits.maxEntries
  evicts : ∀ later, evictedKeys limits history.store later =
    let pruned := (pruneEntries history.store later).2.entries
    pruned.keys.take (pruned.size + 1 - limits.maxEntries)

/-- Both stores keep their promises in every run. -/
theorem ttl_stores_serve {κ ν : Type} [DecidableEq κ] (startMs : Int) :
    (∀ (ttlMs : Int) (actions : List (Nat × IndexedTtlStore.Action κ ν)),
      let history := run (IndexedTtlStore.step ttlMs) ⟨{}, fun _ => none, startMs⟩ actions
      Serves history.store.toIndexed history.held history.nowMs fun key later =>
        (history.store.get key later).1) ∧
    ∀ (limits : IdempotencyLimits) (actions : List (Nat × PublishIdempotency.Action κ ν)),
      IdempotencyServes limits
        (run (step limits) ⟨{}, fun _ => none, startMs⟩ actions) := by
  constructor
  · intro ttlMs actions history
    have agrees : Agrees history.store.toIndexed history.held history.nowMs :=
      run_invariant (IndexedTtlStore.step ttlMs) (IndexedTtlStore.step_agrees ttlMs)
        (agrees_empty startMs) actions
    exact agrees.serves (IndexedTtlStore.get_eq history.store)
  · intro limits actions
    let start : History κ ν (Indexed κ ν) := ⟨{}, fun _ => none, startMs⟩
    have empty : Agrees start.store start.held start.nowMs := agrees_empty startMs
    have few : start.store.entries.size ≤ limits.maxEntries := Nat.zero_le _
    have agrees := run_invariant (step limits)
      (step_agrees limits) empty actions
    have size := run_invariant (step limits)
      (step_size limits) few actions
    constructor
    · exact agrees.serves (getEntry_eq _)
    · exact size
    · intro later
      exact (makeRoom_evicts limits.positive _).1

end PlugHub.TtlStores
