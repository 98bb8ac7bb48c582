import PlugHub.Registries.IdempotencyAccounts

/-!
# The ages of idempotency entries

The store keeps the entries of a conversation in the order of their insertion and the conversations
in the order in which their maps were created. The eviction at the cap of the hub reads the first
conversation with a completed entry, so what it drops is the oldest completed entry of that
conversation. A clock beside the store says when each entry was inserted, and with it which
evictions drop the oldest completed entry of the hub.
-/

namespace PlugHub.Registries.RelayIdempotencyStore

open Library

variable {Frame : Type}

/-! ## The order of the keys of a conversation -/

/-- The client request ids of a conversation in the order of its map. -/
def keysOf (store : RelayIdempotencyStore Frame) (conversationId : ConversationId) :
    List ClientRequestId :=
  ((store.getRelayIdempotencyMap conversationId).map (·.keys)).getD []

/-- Every conversation keeps some of its keys, in their order. -/
def Thins (store next : RelayIdempotencyStore Frame) : Prop :=
  ∀ conversationId, (next.keysOf conversationId).Sublist (store.keysOf conversationId)

namespace Thins

theorem refl (store : RelayIdempotencyStore Frame) : Thins store store :=
    fun _ => List.Sublist.refl _

theorem trans {first second third : RelayIdempotencyStore Frame} (left : Thins first second)
    (right : Thins second third) : Thins first third :=
  fun conversationId => (right conversationId).trans (left conversationId)

theorem updateMap (store : RelayIdempotencyStore Frame) (conversationId : ConversationId)
    {change : ConversationMap Frame → ConversationMap Frame}
    (thins : ∀ entries, (change entries).keys.Sublist entries.keys) :
    Thins store (store.updateMap conversationId change) := by
  intro other
  rw [keysOf, getMap_updateMap, keysOf]
  by_cases here : other = conversationId
  · rw [if_pos here, here]
    cases store.getRelayIdempotencyMap conversationId with
    | none => exact List.Sublist.refl _
    | some entries => exact thins entries
  · rw [if_neg here]

theorem dropEmptyMap (store : RelayIdempotencyStore Frame) (conversationId : ConversationId) :
    Thins store (store.dropEmptyMap conversationId) := by
  intro other
  rw [keysOf, getMap_dropEmptyMap, keysOf]
  by_cases empty : other = conversationId ∧ store.sizeOf conversationId = 0
  · rw [if_pos empty]
    exact List.nil_sublist _
  · rw [if_neg empty]

theorem getOrCreate (store : RelayIdempotencyStore Frame) (conversationId : ConversationId) :
    Thins store (store.getOrCreateRelayIdempotencyMap conversationId) := by
  intro other
  rw [keysOf, getMap_getOrCreate, keysOf]
  by_cases here : other = conversationId
  · rw [if_pos here, here]
    cases store.getRelayIdempotencyMap conversationId with
    | none | some entries => exact List.Sublist.refl _
  · rw [if_neg here]

theorem foldl {κ : Type} {move : RelayIdempotencyStore Frame → κ → RelayIdempotencyStore Frame}
    (thins : ∀ store key, Thins store (move store key)) (keys : List κ)
    (store : RelayIdempotencyStore Frame) : Thins store (keys.foldl move store) := by
  induction keys generalizing store with
  | nil => exact refl store
  | cons head rest ih => exact (thins store head).trans (ih (move store head))

end Thins

variable (entries : ConversationMap Frame)

theorem keys_erase_sublist (clientRequestId : ClientRequestId) :
    (entries.erase clientRequestId).keys.Sublist entries.keys := by
  rw [OrderedMap.keys_erase]
  exact List.filter_sublist

theorem keys_foldl_erase_sublist
    (clientRequestIds : List ClientRequestId) :
    (clientRequestIds.foldl (·.erase ·) entries).keys.Sublist entries.keys := by
  induction clientRequestIds generalizing entries with
  | nil => exact List.Sublist.refl _
  | cons head rest ih => exact (ih (entries.erase head)).trans (keys_erase_sublist entries head)

theorem keys_modify (clientRequestId : ClientRequestId)
    (change : RelayIdempotencyEntry Frame → RelayIdempotencyEntry Frame) :
    (entries.modify clientRequestId change).keys = entries.keys := by
  cases found : entries.get clientRequestId with
  | none => simp only [OrderedMap.modify, found]
  | some entry =>
    rw [entries.modify_of_present change found, entries.keys_set_of_present (change entry) found]

theorem keys_foldl_modify
    (clientRequestIds : List ClientRequestId)
    (change : RelayIdempotencyEntry Frame → RelayIdempotencyEntry Frame) :
    (clientRequestIds.foldl (fun kept clientRequestId => kept.modify clientRequestId change)
      entries).keys = entries.keys := by
  induction clientRequestIds generalizing entries with
  | nil => rfl
  | cons head rest ih => rw [List.foldl_cons, ih, keys_modify]

theorem Thins.evictAlong (store : RelayIdempotencyStore Frame) (path : List ConversationId) :
    Thins store (store.evictAlong path).1 := by
  induction path generalizing store with
  | nil => exact Thins.refl store
  | cons head rest ih =>
    cases oldest : (store.getRelayIdempotencyMap head).bind oldestCompleted with
    | some clientRequestId =>
      simp only [RelayIdempotencyStore.evictAlong, oldest]
      have dropped : Thins store (store.dropEntry head clientRequestId) :=
        Thins.updateMap store head fun entries => keys_erase_sublist entries clientRequestId
      exact dropped.trans (Thins.dropEmptyMap _ head)
    | none =>
      simp only [RelayIdempotencyStore.evictAlong, oldest]
      exact (Thins.dropEmptyMap store head).trans (ih _)

theorem Thins.after (env : Env) (store : RelayIdempotencyStore Frame) (action : StoreAction Frame)
    (other : ∀ conversationId clientRequestId entry,
      action ≠ .set conversationId clientRequestId entry) :
    Thins store (store.after env action) := by
  cases action with
  | opens conversationId => exact Thins.getOrCreate store conversationId
  | set conversationId clientRequestId entry => exact absurd rfl (other _ _ _)
  | change conversationId clientRequestId change =>
    refine Thins.updateMap store conversationId fun entries => ?_
    rw [keys_modify]
  | remove conversationId clientRequestId =>
    simp only [RelayIdempotencyStore.after, removeRelayIdempotencyEntry]
    cases store.getEntry conversationId clientRequestId with
    | none => exact Thins.refl store
    | some entry =>
      have dropped : Thins store (store.dropEntry conversationId clientRequestId) :=
        Thins.updateMap store conversationId fun entries =>
          keys_erase_sublist entries clientRequestId
      exact dropped.trans (Thins.dropEmptyMap _ conversationId)
  | clear conversationId =>
    simp only [RelayIdempotencyStore.after, clearRelayIdempotencyForConversation]
    cases store.getRelayIdempotencyMap conversationId with
    | none => exact Thins.refl store
    | some entries =>
      intro place
      have read := store.relayIdempotencyByConversation.get_erase conversationId place
      simp only [keysOf, getRelayIdempotencyMap]
      rw [read]
      by_cases here : place = conversationId
      · rw [if_pos here]
        exact List.nil_sublist _
      · rw [if_neg here]
  | prune nowMs registered =>
    refine Thins.foldl (fun current conversationId => ?_) _ store
    have pruned := Thins.updateMap current conversationId fun entries =>
      keys_foldl_erase_sublist entries
        (((current.getRelayIdempotencyMap conversationId).map
          (expiredKeys nowMs registered)).getD [])
    refine Thins.trans ?_ (Thins.dropEmptyMap _ conversationId)
    exact pruned
  | pruneWaiter consumerSocketId =>
    refine Thins.foldl (fun current conversationId => ?_) _ store
    refine Thins.updateMap current conversationId fun entries => ?_
    rw [keys_foldl_modify]

/-! ## Ages -/

/-- When each entry was inserted. -/
abbrev Births := ConversationId → ClientRequestId → Nat

/-- The store beside a clock that counts actions and the time of each insertion. -/
structure AgedStore (Frame : Type) where
  store : RelayIdempotencyStore Frame := {}
  clock : Nat := 0
  births : Births := fun _ _ => 0

/-- An insertion of a new client request that is accepted. -/
def inserts (env : Env) (store : RelayIdempotencyStore Frame) :
    StoreAction Frame → ConversationId → ClientRequestId → Bool
  | .set conversationId clientRequestId entry, place, key =>
    place = conversationId ∧ key = clientRequestId ∧
      (store.getEntry conversationId clientRequestId).isNone = true ∧
      (store.setRelayIdempotencyEntry env conversationId clientRequestId entry).2 = none
  | _, _, _ => false

/-- One action beside the clock: an entry that is inserted is born now; a replaced or changed one
keeps its age. -/
def age (env : Env) (aged : AgedStore Frame) (action : StoreAction Frame) : AgedStore Frame where
  store := aged.store.after env action
  clock := aged.clock + 1
  births := fun place key =>
    if inserts env aged.store action place key then aged.clock else aged.births place key

/-- The keys of every conversation are in the order of their births, all before now. -/
structure Ordered (aged : AgedStore Frame) : Prop where
  order : ∀ conversationId, (aged.store.keysOf conversationId).Pairwise fun first second =>
    aged.births conversationId first < aged.births conversationId second
  born : ∀ conversationId, ∀ clientRequestId ∈ aged.store.keysOf conversationId,
    aged.births conversationId clientRequestId < aged.clock

variable {aged : AgedStore Frame}

theorem Ordered.thins (ordered : Ordered aged)
    {next : RelayIdempotencyStore Frame} (thins : Thins aged.store next) :
    Ordered { aged with store := next } where
  order conversationId := (ordered.order conversationId).sublist (thins conversationId)
  born conversationId clientRequestId member :=
    ordered.born conversationId clientRequestId ((thins conversationId).subset member)

theorem Ordered.tick (ordered : Ordered aged) :
    Ordered { aged with clock := aged.clock + 1 } where
  order := ordered.order
  born conversationId clientRequestId member :=
    Nat.lt_succ_of_lt (ordered.born conversationId clientRequestId member)

theorem getEntry_eq_none_iff (store : RelayIdempotencyStore Frame) (conversationId : ConversationId)
    (clientRequestId : ClientRequestId) :
    store.getEntry conversationId clientRequestId = none ↔
      clientRequestId ∉ store.keysOf conversationId := by
  rw [getEntry, keysOf]
  cases store.getRelayIdempotencyMap conversationId with
  | none => simp
  | some entries => exact entries.get_eq_none_iff clientRequestId

variable {store : RelayIdempotencyStore Frame} {conversationId : ConversationId}
  {clientRequestId : ClientRequestId}

theorem keysOf_insertEntry (entry : RelayIdempotencyEntry Frame)
    (new : store.getEntry conversationId clientRequestId = none) (other : ConversationId) :
    (store.insertEntry conversationId clientRequestId entry).keysOf other = store.keysOf other ∨
      (other = conversationId ∧
        (store.insertEntry conversationId clientRequestId entry).keysOf other =
          store.keysOf other ++ [clientRequestId]) := by
  have map : (store.insertEntry conversationId clientRequestId entry).getRelayIdempotencyMap other =
      if other = conversationId then
        (store.getRelayIdempotencyMap conversationId).map (·.set clientRequestId entry)
      else store.getRelayIdempotencyMap other :=
    store.getMap_updateMap conversationId other _
  by_cases here : other = conversationId
  · subst here
    cases found : store.getRelayIdempotencyMap other with
    | none =>
      refine .inl ?_
      rw [keysOf, map, if_pos rfl, keysOf, found]
      rfl
    | some entries =>
      refine .inr ⟨rfl, ?_⟩
      have absent : entries.get clientRequestId = none := by
        rw [getEntry, found] at new
        exact new
      rw [keysOf, map, if_pos rfl, keysOf, found]
      exact entries.keys_set_of_absent entry absent
  · refine .inl ?_
    rw [keysOf, map, if_neg here, keysOf]

theorem Ordered.insertEntry (ordered : Ordered aged) (entry : RelayIdempotencyEntry Frame)
    (new : aged.store.getEntry conversationId clientRequestId = none) :
    Ordered
      { store := aged.store.insertEntry conversationId clientRequestId entry
        clock := aged.clock + 1
        births := fun place key =>
          if place = conversationId ∧ key = clientRequestId then aged.clock
          else aged.births place key } := by
  have absent := (aged.store.getEntry_eq_none_iff conversationId clientRequestId).mp new
  have old : ∀ place, ∀ key ∈ aged.store.keysOf place,
      ¬(place = conversationId ∧ key = clientRequestId) := by
    rintro place key member ⟨rfl, rfl⟩
    exact absent member
  have kept : ∀ place, (aged.store.keysOf place).Pairwise fun first second =>
      (if place = conversationId ∧ first = clientRequestId then aged.clock
        else aged.births place first) <
      (if place = conversationId ∧ second = clientRequestId then aged.clock
        else aged.births place second) := by
    intro place
    refine (ordered.order place).imp_of_mem fun {first second} firstIn secondIn before => ?_
    rw [if_neg (old place first firstIn), if_neg (old place second secondIn)]
    exact before
  have earlier : ∀ place, ∀ key ∈ aged.store.keysOf place,
      (if place = conversationId ∧ key = clientRequestId then aged.clock
        else aged.births place key) < aged.clock := by
    intro place key member
    rw [if_neg (old place key member)]
    exact ordered.born place key member
  refine ⟨fun place => ?_, fun place key member => ?_⟩
  · rcases keysOf_insertEntry entry new place with same | ⟨rfl, more⟩
    · simp only [same]
      exact kept place
    · dsimp only
      rw [more]
      refine List.pairwise_append.mpr ⟨kept place, List.pairwise_singleton _ _, ?_⟩
      intro first member second last
      have now : (if place = place ∧ second = clientRequestId then aged.clock
          else aged.births place second) = aged.clock :=
        if_pos ⟨rfl, List.mem_singleton.mp last⟩
      rw [now]
      exact earlier place first member
  · rcases keysOf_insertEntry entry new place with same | ⟨rfl, more⟩
    · simp only [same] at member
      exact Nat.lt_succ_of_lt (earlier place key member)
    · simp only [more, List.mem_append, List.mem_singleton] at member
      rcases member with inside | rfl
      · exact Nat.lt_succ_of_lt (earlier place key inside)
      · simp

theorem Thins.writeEntry {old : RelayIdempotencyEntry Frame} (entry : RelayIdempotencyEntry Frame)
    (held : store.getEntry conversationId clientRequestId = some old) :
    Thins store (store.writeEntry conversationId clientRequestId entry) := by
  obtain ⟨entries, found, holds⟩ := getEntry_eq_some_iff.mp held
  intro other
  rw [keysOf, RelayIdempotencyStore.writeEntry, getMap_updateMap, keysOf]
  by_cases here : other = conversationId
  · rw [if_pos here, here, found]
    simp only [Option.map_some, Option.getD_some]
    rw [entries.keys_set_of_present entry holds]
  · rw [if_neg here]

variable {env : Env}

/-- The store an insertion leaves: the old one with some entries gone and, when a new client request
is accepted, the entry written and counted. -/
theorem SetOutcome.thins {opened : RelayIdempotencyStore Frame}
    {entry : RelayIdempotencyEntry Frame}
    {result : RelayIdempotencyStore Frame × Option IdempotencyRefusal}
    (outcome : SetOutcome env opened conversationId clientRequestId entry result) :
    (Thins opened result.1 ∧
      ((opened.getEntry conversationId clientRequestId).isNone = false ∨ result.2 ≠ none)) ∨
    (∃ trimmed, Thins opened trimmed ∧
      opened.getEntry conversationId clientRequestId = none ∧
      trimmed.getEntry conversationId clientRequestId = none ∧
      result = (trimmed.insertEntry conversationId clientRequestId entry, none)) := by
  cases outcome with
  | replaces held => exact .inl ⟨Thins.writeEntry entry held, .inl (by rw [held]; rfl)⟩
  | conversationFull _ _ => exact .inl ⟨Thins.refl opened, .inr nofun⟩
  | conversationEvicts new full evicted oldest =>
    obtain ⟨old, held, -⟩ := getEntry_of_oldest oldest
    refine .inr ⟨_, ?_, new, (Without.dropEntry held).new new, rfl⟩
    exact Thins.updateMap opened conversationId fun entries => keys_erase_sublist entries evicted
  | fits new room roomy => exact .inr ⟨opened, Thins.refl opened, new, new, rfl⟩
  | hubFull _ _ _ _ fails => exact .inl ⟨Thins.evictAlong opened _, .inr nofun⟩
  | hubEvicts new room limited full done =>
    obtain ⟨_, _, -, -, without⟩ := exists_without_of_evicts done
    exact .inr ⟨_, Thins.evictAlong opened _, new, without.new new, rfl⟩

theorem Ordered.aging (ordered : Ordered aged)
    (capped : Capped env aged.store) (action : StoreAction Frame) :
    Ordered (age env aged action) := by
  by_cases insertion : ∃ conversationId clientRequestId entry,
      action = .set conversationId clientRequestId entry
  · obtain ⟨conversationId, clientRequestId, entry, rfl⟩ := insertion
    have opened := Thins.getOrCreate aged.store conversationId
    have found := (Alike.getOrCreate aged.store conversationId).entry conversationId
      clientRequestId
    rcases (capped.setOutcome conversationId clientRequestId entry).thins with
      ⟨thins, refused⟩ | ⟨trimmed, thins, new, still, result⟩
    · have none : ∀ place key, inserts env aged.store
          (.set conversationId clientRequestId entry) place key = false := by
        intro place key
        simp only [inserts, decide_eq_false_iff_not]
        rintro ⟨-, -, new, accepted⟩
        rcases refused with held | refused
        · rw [found, new] at held
          cases held
        · exact refused accepted
      have same : age env aged (.set conversationId clientRequestId entry) =
          { aged with
            store := (aged.store.setRelayIdempotencyEntry env conversationId clientRequestId
              entry).1
            clock := aged.clock + 1 } := by
        simp only [age, none]
        rfl
      rw [same]
      exact (ordered.thins (opened.trans thins)).tick
    · have here : ∀ place key, inserts env aged.store
          (.set conversationId clientRequestId entry) place key =
            decide (place = conversationId ∧ key = clientRequestId) := by
        intro place key
        rw [found] at new
        simp [inserts, result, new]
      have same : age env aged (.set conversationId clientRequestId entry) =
          { store := trimmed.insertEntry conversationId clientRequestId entry
            clock := aged.clock + 1
            births := fun place key =>
              if place = conversationId ∧ key = clientRequestId then aged.clock
              else aged.births place key } := by
        simp only [age, here, decide_eq_true_eq, after, result]
      rw [same]
      exact (ordered.thins (opened.trans thins)).insertEntry entry still
  · have other : ∀ conversationId clientRequestId entry,
        action ≠ .set conversationId clientRequestId entry := fun conversationId clientRequestId
      entry same => insertion ⟨conversationId, clientRequestId, entry, same⟩
    have none : ∀ place key, inserts env aged.store action place key = false := by
      intro place key
      cases action with
      | set conversationId clientRequestId entry => exact absurd rfl (other _ _ _)
      | _ => rfl
    have same : age env aged action =
        { aged with store := aged.store.after env action, clock := aged.clock + 1 } := by
      simp only [age, none]
      rfl
    rw [same]
    exact (ordered.thins (Thins.after env aged.store action other)).tick

/-! ## Which entry an eviction drops -/

/-- An insertion that triggers the eviction across conversations: a new client request of a
conversation with room while the store is at the cap of the hub. -/
def TriggersGlobalEviction (env : Env) (store : RelayIdempotencyStore Frame)
    (conversationId : ConversationId) (clientRequestId : ClientRequestId) : Prop :=
  store.getEntry conversationId clientRequestId = none ∧
  store.sizeOf conversationId < env.socketRelayIdempotencyMaxEntriesPerConversation ∧
  0 < env.socketRelayIdempotencyMaxTotalEntries ∧
  env.socketRelayIdempotencyMaxTotalEntries ≤ store.totalEntries

/-- An entry is completed and no completed entry of the hub is older. -/
def IsOldestCompleted (aged : AgedStore Frame) (conversationId : ConversationId)
    (clientRequestId : ClientRequestId) : Prop :=
  (∃ entry, aged.store.getEntry conversationId clientRequestId = some entry ∧
    isCompletedIdempotencyEntry entry = true) ∧
  ∀ other otherRequestId entry, aged.store.getEntry other otherRequestId = some entry →
    isCompletedIdempotencyEntry entry = true →
    aged.births conversationId clientRequestId ≤ aged.births other otherRequestId

/-- The eviction across conversations that an action triggers drops the oldest completed entry of
the hub. -/
def EvictsOldest (env : Env) (aged : AgedStore Frame) (action : StoreAction Frame) : Prop :=
  ∀ conversationId clientRequestId entry, action = .set conversationId clientRequestId entry →
    TriggersGlobalEviction env aged.store conversationId clientRequestId →
    ∀ other otherRequestId, aged.store.getEntry other otherRequestId ≠ none →
      (aged.store.after env action).getEntry other otherRequestId = none →
      IsOldestCompleted aged other otherRequestId

/-- When an action triggers the eviction across conversations, the first conversation of the store
with a completed entry has the oldest completed entry of the hub. -/
def FirstHasOldest (env : Env) (aged : AgedStore Frame) (action : StoreAction Frame) : Prop :=
  ∀ conversationId clientRequestId entry, action = .set conversationId clientRequestId entry →
    TriggersGlobalEviction env aged.store conversationId clientRequestId →
    ∀ first,
      aged.store.relayIdempotencyByConversation.keys.find? aged.store.holdsCompleted =
        some first →
      ∃ firstRequestId, IsOldestCompleted aged first firstRequestId

theorem Ordered.oldest_le (ordered : Ordered aged) {oldest other : ClientRequestId}
    {entry : RelayIdempotencyEntry Frame}
    (first : (aged.store.getRelayIdempotencyMap conversationId).bind oldestCompleted = some oldest)
    (found : aged.store.getEntry conversationId other = some entry)
    (completed : isCompletedIdempotencyEntry entry = true) :
    aged.births conversationId oldest ≤ aged.births conversationId other := by
  obtain ⟨entries, stored, holds⟩ := getEntry_eq_some_iff.mp found
  have order := ordered.order conversationId
  rw [keysOf, stored] at order
  have inOrder := List.pairwise_map.mp order
  rw [stored] at first
  obtain ⟨⟨key, value⟩, found, rfl⟩ := Option.map_eq_some_iff.mp first
  exact le_of_find (fun entry => aged.births conversationId entry.1) inOrder found
    ((entries.get_eq_some_iff other entry).mp holds) completed

/-- What an insertion does that triggers the eviction across conversations: with no completed entry
in the hub no entry leaves; else the oldest completed entry of the first conversation with one is
dropped before the new entry is written. -/
theorem set_of_triggers (capped : Capped env store) (entry : RelayIdempotencyEntry Frame)
    (triggers : TriggersGlobalEviction env store conversationId clientRequestId) :
    (store.relayIdempotencyByConversation.keys.find? store.holdsCompleted = none ∧
      Alike store (store.setRelayIdempotencyEntry env conversationId clientRequestId entry).1) ∨
    ∃ first evicted trimmed,
      store.relayIdempotencyByConversation.keys.find? store.holdsCompleted = some first ∧
      (store.getRelayIdempotencyMap first).bind oldestCompleted = some evicted ∧
      Without store trimmed first evicted ∧
      (store.setRelayIdempotencyEntry env conversationId clientRequestId entry).1 =
        trimmed.insertEntry conversationId clientRequestId entry := by
  obtain ⟨new, room, limited, full⟩ := triggers
  have alike := Alike.getOrCreate store conversationId
  have size := alike.size conversationId
  have counted := alike.counted
  have outcome := capped.setOutcome conversationId clientRequestId entry
  generalize store.setRelayIdempotencyEntry env conversationId clientRequestId entry = result
    at outcome
  cases outcome with
  | replaces held =>
    rw [alike.entry, new] at held
    cases held
  | conversationFull _ most | conversationEvicts _ most _ _ => omega
  | fits _ _ roomy =>
    have less := roomy limited
    omega
  | hubFull _ _ _ _ fails =>
    refine .inl ⟨?_, alike.trans (alike_of_not_evicts fails)⟩
    cases found : store.relayIdempotencyByConversation.keys.find? store.holdsCompleted with
    | none => rfl
    | some first =>
      rw [← find_getOrCreate store conversationId] at found
      rw [evictGlobalOldestCompleted_of_completed found] at fails
      cases fails
  | hubEvicts _ _ _ _ done =>
    obtain ⟨first, evicted, found, oldest, without⟩ := exists_without_of_evicts done
    rw [find_getOrCreate] at found
    rw [oldestCompleted_getOrCreate] at oldest
    exact .inr ⟨first, evicted, _, found, oldest, alike.without without, rfl⟩

/-- An eviction drops the oldest completed entry of the hub exactly when the first conversation with
a completed entry has it. -/
theorem evictsOldest_iff (capped : Capped env aged.store)
    (ordered : Ordered aged) (action : StoreAction Frame) :
    FirstHasOldest env aged action ↔ EvictsOldest env aged action := by
  constructor
  · rintro hasOldest conversationId clientRequestId entry rfl triggers other otherRequestId held gone
    have differs : ¬(other = conversationId ∧ otherRequestId = clientRequestId) := by
      rintro ⟨rfl, rfl⟩
      exact held triggers.1
    rcases set_of_triggers capped entry triggers with
      ⟨-, alike⟩ | ⟨first, evicted, trimmed, found, oldest, without, result⟩
    · exact absurd ((alike.entry other otherRequestId).symm.trans gone) held
    · obtain ⟨firstRequestId, ⟨firstEntry, stored, completed⟩, least⟩ :=
        hasOldest conversationId clientRequestId entry rfl triggers first found
      have read : trimmed.getEntry other otherRequestId = none := by
        rw [← trimmed.getEntry_writeEntry_of_other entry differs, ← gone, after, result]
        rfl
      have same : other = first ∧ otherRequestId = evicted := by
        by_contra apart
        rw [without.entry, if_neg apart] at read
        exact held read
      obtain ⟨rfl, rfl⟩ := same
      refine ⟨getEntry_of_oldest oldest, fun place key older kept done => ?_⟩
      exact (ordered.oldest_le oldest stored completed).trans (least place key older kept done)
  · rintro evicts conversationId clientRequestId entry rfl triggers first found
    rcases set_of_triggers capped entry triggers with
      ⟨none, -⟩ | ⟨holder, evicted, trimmed, holds, oldest, without, result⟩
    · rw [none] at found
      cases found
    · have same : holder = first := Option.some.inj (holds.symm.trans found)
      subst same
      obtain ⟨old, held, -⟩ := getEntry_of_oldest oldest
      have differs : ¬(holder = conversationId ∧ evicted = clientRequestId) := by
        rintro ⟨rfl, rfl⟩
        rw [triggers.1] at held
        cases held
      refine ⟨evicted, evicts conversationId clientRequestId entry rfl triggers holder evicted
        (by rw [held]; nofun) ?_⟩
      have written := trimmed.getEntry_writeEntry_of_other entry differs
      rw [without.entry, if_pos ⟨rfl, rfl⟩] at written
      rw [after, result]
      exact written

/-- A store beside its clock, within its caps and in the order of its ages. -/
structure SoundAges (env : Env) (aged : AgedStore Frame) : Prop where
  capped : Capped env aged.store
  ordered : Ordered aged

theorem SoundAges.aging (sound : SoundAges env aged)
    (action : StoreAction Frame) : SoundAges env (age env aged action) :=
  ⟨sound.capped.after action, sound.ordered.aging sound.capped action⟩

theorem SoundAges.empty (env : Env) : SoundAges env ({} : AgedStore Frame) :=
  ⟨Capped.empty env, fun _ => List.Pairwise.nil, nofun⟩

/-- In every run of the store the evictions across conversations all drop the oldest completed entry
of the hub exactly when each of them finds it in the first conversation with a completed entry. -/
theorem global_evictions_oldest_first_iff (env : Env) (actions : List (StoreAction Frame)) :
    Meets (age env) (FirstHasOldest env) {} actions ↔
      ∀ taken action, taken ++ [action] <+: actions →
        EvictsOldest env (run (age env) {} taken) action := by
  have keeps : ∀ (aged : AgedStore Frame) action, SoundAges env aged →
      FirstHasOldest env aged action → SoundAges env (age env aged action) :=
    fun aged action sound _ => sound.aging action
  exact meets_iff_every_step (age env) keeps
    (fun aged action sound => evictsOldest_iff sound.capped sound.ordered action)
    (SoundAges.empty env) actions

/-- A hub that keeps three idempotency entries. -/
def threeEntriesEnv : Env := { socketRelayIdempotencyMaxTotalEntries := 3 }

/-- A conversation with a request in flight, then an answered request of a second conversation, then
an answered request of the first. -/
def crossingActions : List (StoreAction Unit) :=
  [.set "a" "pending" { requestId := "r1", expiresAtMs := 300000 },
    .set "b" "older" { requestId := "r2", expiresAtMs := 300000, responseFrame := some () },
    .set "a" "younger" { requestId := "r3", expiresAtMs := 300000, responseFrame := some () }]

/-- The next insertion drops the younger of the two completed entries. -/
theorem younger_completed_entry_evicted :
    ¬EvictsOldest threeEntriesEnv (run (age threeEntriesEnv) {} crossingActions)
      (.set "c" "next" { requestId := "r4", expiresAtMs := 300000 }) := by
  intro oldest
  obtain ⟨-, least⟩ := oldest "c" "next" { requestId := "r4", expiresAtMs := 300000 } rfl
    ⟨rfl, by decide, by decide, by decide⟩ "a" "younger" (by nofun) rfl
  have order := least "b" "older"
    { requestId := "r2", expiresAtMs := 300000, responseFrame := some () } rfl rfl
  revert order
  decide

end PlugHub.Registries.RelayIdempotencyStore
