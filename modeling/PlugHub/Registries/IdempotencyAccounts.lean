import Mathlib.Data.List.TakeWhile
import PlugHub.Registries.Idempotency
import PlugHub.Library.Accounting
import PlugHub.Library.Runs

/-!
# The accounts of the idempotency store

The counter of the store against what its maps hold, and the two caps. Every operation keeps the
count exact but one kind of insertion: at the cap of the hub the eviction can delete the map of the
very conversation that inserts, and the entry is then counted and not stored.
-/

namespace PlugHub.Registries.RelayIdempotencyStore

open Library

variable {Frame : Type}

/-! ## What the store holds -/

/-- The number of entries of a conversation. -/
def sizeOf (store : RelayIdempotencyStore Frame) (conversationId : ConversationId) : Nat :=
  ((store.getRelayIdempotencyMap conversationId).map (·.size)).getD 0

/-- The number of entries the maps hold. -/
def storedEntries (store : RelayIdempotencyStore Frame) : Nat :=
  store.relayIdempotencyByConversation.total (·.size)

/-- The counter is the number of stored entries. -/
def Exact (store : RelayIdempotencyStore Frame) : Prop := store.totalEntries = store.storedEntries

/-- No cap is exceeded; the cap of the hub is off when it is zero. -/
structure Capped (env : Env) (store : RelayIdempotencyStore Frame) : Prop where
  conversation : ∀ conversationId,
    store.sizeOf conversationId ≤ env.socketRelayIdempotencyMaxEntriesPerConversation
  hub : 0 < env.socketRelayIdempotencyMaxTotalEntries →
    store.totalEntries ≤ env.socketRelayIdempotencyMaxTotalEntries
  counted : store.storedEntries ≤ store.totalEntries

/-- A conversation has a completed entry. -/
def holdsCompleted (store : RelayIdempotencyStore Frame) (conversationId : ConversationId) : Bool :=
  ((store.getRelayIdempotencyMap conversationId).bind oldestCompleted).isSome

/-! ## Reading the store after an operation -/

section Reading

variable (store : RelayIdempotencyStore Frame)

theorem getMap_updateMap (conversationId other : ConversationId)
    (change : ConversationMap Frame → ConversationMap Frame) :
    (store.updateMap conversationId change).getRelayIdempotencyMap other =
      if other = conversationId then (store.getRelayIdempotencyMap conversationId).map change
      else store.getRelayIdempotencyMap other :=
  OrderedMap.get_modify _ _ _ _

theorem getMap_dropEmptyMap (conversationId other : ConversationId) :
    (store.dropEmptyMap conversationId).getRelayIdempotencyMap other =
      if other = conversationId ∧ store.sizeOf conversationId = 0 then none
      else store.getRelayIdempotencyMap other := by
  unfold dropEmptyMap sizeOf
  cases found : store.getRelayIdempotencyMap conversationId with
  | none =>
    by_cases same : other = conversationId
    · simp [same, found]
    · simp [same]
  | some entries =>
    by_cases empty : entries.size = 0
    · simp only [empty, if_true, Option.map_some, Option.getD_some, and_true]
      exact OrderedMap.get_erase _ _ _
    · simp [empty]

theorem totalEntries_dropEmptyMap (conversationId : ConversationId) :
    (store.dropEmptyMap conversationId).totalEntries = store.totalEntries := by
  unfold dropEmptyMap
  split
  · split <;> rfl
  · rfl

theorem sizeOf_dropEmptyMap (conversationId other : ConversationId) :
    (store.dropEmptyMap conversationId).sizeOf other = store.sizeOf other := by
  rw [sizeOf, getMap_dropEmptyMap]
  by_cases empty : other = conversationId ∧ store.sizeOf conversationId = 0
  · rw [if_pos empty, empty.1, empty.2]
    rfl
  · rw [if_neg empty]
    rfl

theorem bind_dropEmptyMap {β : Type} (view : ConversationMap Frame → Option β)
    (blank : view .empty = none) (conversationId other : ConversationId) :
    ((store.dropEmptyMap conversationId).getRelayIdempotencyMap other).bind view =
      (store.getRelayIdempotencyMap other).bind view := by
  rw [getMap_dropEmptyMap]
  by_cases empty : other = conversationId ∧ store.sizeOf conversationId = 0
  · rw [if_pos empty, empty.1]
    cases found : store.getRelayIdempotencyMap conversationId with
    | none => rfl
    | some entries =>
      have size := empty.2
      rw [sizeOf, found] at size
      have none : entries = .empty := OrderedMap.eq_of_entries (List.eq_nil_of_length_eq_zero size)
      rw [none]
      exact blank.symm
  · rw [if_neg empty]

theorem getEntry_dropEmptyMap (conversationId other : ConversationId)
    (clientRequestId : ClientRequestId) :
    (store.dropEmptyMap conversationId).getEntry other clientRequestId =
      store.getEntry other clientRequestId :=
  store.bind_dropEmptyMap (·.get clientRequestId) rfl conversationId other

theorem storedEntries_dropEmptyMap (conversationId : ConversationId) :
    (store.dropEmptyMap conversationId).storedEntries = store.storedEntries := by
  unfold dropEmptyMap
  cases found : store.getRelayIdempotencyMap conversationId with
  | none => rfl
  | some entries =>
    by_cases empty : entries.size = 0
    · simp only [empty, if_true, storedEntries]
      have whole := store.relayIdempotencyByConversation.total_erase_of_present
        (fun map => map.size) found
      omega
    · simp [empty]

theorem storedEntries_updateMap (conversationId : ConversationId)
    (change : ConversationMap Frame → ConversationMap Frame) :
    (store.updateMap conversationId change).storedEntries + store.sizeOf conversationId =
      store.storedEntries +
        ((store.getRelayIdempotencyMap conversationId).map fun map => (change map).size).getD 0 := by
  unfold sizeOf
  cases found : store.getRelayIdempotencyMap conversationId with
  | none =>
    have same : store.updateMap conversationId change = store := by
      have absent : store.relayIdempotencyByConversation.get conversationId = none := found
      simp only [updateMap, OrderedMap.modify, absent]
    rw [same]
    rfl
  | some entries =>
    exact OrderedMap.total_modify_of_present _ change (fun map => map.size) found

theorem getMap_getOrCreate (conversationId other : ConversationId) :
    (store.getOrCreateRelayIdempotencyMap conversationId).getRelayIdempotencyMap other =
      if other = conversationId then
        some ((store.getRelayIdempotencyMap conversationId).getD .empty)
      else store.getRelayIdempotencyMap other := by
  unfold getOrCreateRelayIdempotencyMap
  cases found : store.getRelayIdempotencyMap conversationId with
  | some entries =>
    by_cases same : other = conversationId
    · simp [same, found]
    · simp [same]
  | none =>
    simp only [Option.getD_none]
    exact OrderedMap.get_set _ _ _ _

theorem totalEntries_getOrCreate (conversationId : ConversationId) :
    (store.getOrCreateRelayIdempotencyMap conversationId).totalEntries = store.totalEntries := by
  unfold getOrCreateRelayIdempotencyMap
  split <;> rfl

theorem sizeOf_getOrCreate (conversationId other : ConversationId) :
    (store.getOrCreateRelayIdempotencyMap conversationId).sizeOf other = store.sizeOf other := by
  rw [sizeOf, getMap_getOrCreate]
  by_cases same : other = conversationId
  · rw [if_pos same, same, sizeOf]
    cases store.getRelayIdempotencyMap conversationId with
    | none | some entries => rfl
  · rw [if_neg same]
    rfl

theorem getEntry_getOrCreate (conversationId other : ConversationId)
    (clientRequestId : ClientRequestId) :
    (store.getOrCreateRelayIdempotencyMap conversationId).getEntry other clientRequestId =
      store.getEntry other clientRequestId := by
  rw [getEntry, getMap_getOrCreate]
  by_cases same : other = conversationId
  · rw [if_pos same, getEntry, same]
    cases store.getRelayIdempotencyMap conversationId with
    | none | some entries => rfl
  · rw [if_neg same]
    rfl

theorem storedEntries_getOrCreate (conversationId : ConversationId) :
    (store.getOrCreateRelayIdempotencyMap conversationId).storedEntries = store.storedEntries := by
  unfold getOrCreateRelayIdempotencyMap
  cases found : store.getRelayIdempotencyMap conversationId with
  | some entries => rfl
  | none =>
    exact OrderedMap.total_set_of_absent _ .empty
      (fun map : ConversationMap Frame => map.size) found

end Reading

/-! ## One entry leaves the store -/

/-- Take one entry out of the map of its conversation and out of the count. -/
def dropEntry (store : RelayIdempotencyStore Frame) (conversationId : ConversationId)
    (clientRequestId : ClientRequestId) : RelayIdempotencyStore Frame :=
  { store.updateMap conversationId (·.erase clientRequestId) with
    totalEntries := store.totalEntries - 1 }

/-- Two stores that hold the same entries under the same count; one may have empty maps that the
other lacks. -/
structure Alike (store next : RelayIdempotencyStore Frame) : Prop where
  entry : ∀ conversationId clientRequestId,
    next.getEntry conversationId clientRequestId = store.getEntry conversationId clientRequestId
  size : ∀ conversationId, next.sizeOf conversationId = store.sizeOf conversationId
  stored : next.storedEntries = store.storedEntries
  counted : next.totalEntries = store.totalEntries

/-- One store is another without one of its entries. -/
structure Without (store next : RelayIdempotencyStore Frame) (conversationId : ConversationId)
    (clientRequestId : ClientRequestId) : Prop where
  entry : ∀ other otherRequestId, next.getEntry other otherRequestId =
    if other = conversationId ∧ otherRequestId = clientRequestId then none
    else store.getEntry other otherRequestId
  size : ∀ other, next.sizeOf other + (if other = conversationId then 1 else 0) = store.sizeOf other
  stored : next.storedEntries + 1 = store.storedEntries
  counted : next.totalEntries = store.totalEntries - 1

namespace Alike

theorem refl (store : RelayIdempotencyStore Frame) : Alike store store :=
  ⟨fun _ _ => rfl, fun _ => rfl, rfl, rfl⟩

theorem trans {first second third : RelayIdempotencyStore Frame} (left : Alike first second)
    (right : Alike second third) : Alike first third where
  entry conversationId clientRequestId := by rw [right.entry, left.entry]
  size conversationId := by rw [right.size, left.size]
  stored := by rw [right.stored, left.stored]
  counted := by rw [right.counted, left.counted]

theorem dropEmptyMap (store : RelayIdempotencyStore Frame) (conversationId : ConversationId) :
    Alike store (store.dropEmptyMap conversationId) :=
  ⟨store.getEntry_dropEmptyMap conversationId, store.sizeOf_dropEmptyMap conversationId,
    store.storedEntries_dropEmptyMap conversationId, store.totalEntries_dropEmptyMap conversationId⟩

theorem getOrCreate (store : RelayIdempotencyStore Frame) (conversationId : ConversationId) :
    Alike store (store.getOrCreateRelayIdempotencyMap conversationId) :=
  ⟨store.getEntry_getOrCreate conversationId, store.sizeOf_getOrCreate conversationId,
    store.storedEntries_getOrCreate conversationId, store.totalEntries_getOrCreate conversationId⟩

theorem without {store next later : RelayIdempotencyStore Frame} {conversationId : ConversationId}
    {clientRequestId : ClientRequestId} (alike : Alike store next)
    (without : Without next later conversationId clientRequestId) :
    Without store later conversationId clientRequestId where
  entry other otherRequestId := by rw [without.entry, alike.entry]
  size other := by rw [without.size, alike.size]
  stored := by rw [without.stored, alike.stored]
  counted := by rw [without.counted, alike.counted]

end Alike

theorem Without.alike {store next later : RelayIdempotencyStore Frame}
    {conversationId : ConversationId} {clientRequestId : ClientRequestId}
    (without : Without store next conversationId clientRequestId) (alike : Alike next later) :
    Without store later conversationId clientRequestId where
  entry other otherRequestId := by rw [alike.entry, without.entry]
  size other := by rw [alike.size, without.size]
  stored := by rw [alike.stored, without.stored]
  counted := by rw [alike.counted, without.counted]

section Dropping

variable {store : RelayIdempotencyStore Frame} {conversationId : ConversationId}
  {clientRequestId : ClientRequestId} {entry : RelayIdempotencyEntry Frame}

theorem getEntry_eq_some_iff :
    store.getEntry conversationId clientRequestId = some entry ↔
      ∃ entries, store.getRelayIdempotencyMap conversationId = some entries ∧
        entries.get clientRequestId = some entry :=
  Option.bind_eq_some_iff

theorem getMap_dropEntry (other : ConversationId) :
    (store.dropEntry conversationId clientRequestId).getRelayIdempotencyMap other =
      if other = conversationId then
        (store.getRelayIdempotencyMap conversationId).map (·.erase clientRequestId)
      else store.getRelayIdempotencyMap other :=
  store.getMap_updateMap conversationId other _

theorem getEntry_dropEntry (other : ConversationId) (otherRequestId : ClientRequestId) :
    (store.dropEntry conversationId clientRequestId).getEntry other otherRequestId =
      if other = conversationId ∧ otherRequestId = clientRequestId then none
      else store.getEntry other otherRequestId := by
  rw [getEntry, getMap_dropEntry]
  by_cases same : other = conversationId
  · rw [if_pos same, getEntry, same]
    cases store.getRelayIdempotencyMap conversationId with
    | none => simp
    | some entries => simp [OrderedMap.get_erase]
  · simp [same, getEntry]

theorem sizeOf_dropEntry (found : store.getEntry conversationId clientRequestId = some entry)
    (other : ConversationId) :
    (store.dropEntry conversationId clientRequestId).sizeOf other +
        (if other = conversationId then 1 else 0) = store.sizeOf other := by
  obtain ⟨entries, stored, holds⟩ := getEntry_eq_some_iff.mp found
  rw [sizeOf, getMap_dropEntry]
  by_cases same : other = conversationId
  · rw [if_pos same, if_pos same, same, sizeOf, stored]
    exact entries.size_erase_of_present holds
  · rw [if_neg same, if_neg same]
    rfl

theorem storedEntries_dropEntry
    (found : store.getEntry conversationId clientRequestId = some entry) :
    (store.dropEntry conversationId clientRequestId).storedEntries + 1 = store.storedEntries := by
  obtain ⟨entries, stored, holds⟩ := getEntry_eq_some_iff.mp found
  have counted := store.storedEntries_updateMap conversationId (·.erase clientRequestId)
  have less := entries.size_erase_of_present holds
  rw [sizeOf, stored] at counted
  simp only [Option.map_some, Option.getD_some] at counted
  have same : (store.dropEntry conversationId clientRequestId).storedEntries =
    (store.updateMap conversationId (·.erase clientRequestId)).storedEntries := rfl
  omega

theorem Without.dropEntry (found : store.getEntry conversationId clientRequestId = some entry) :
    Without store (store.dropEntry conversationId clientRequestId) conversationId
      clientRequestId :=
  ⟨getEntry_dropEntry, sizeOf_dropEntry found, storedEntries_dropEntry found, rfl⟩

end Dropping

/-! ## Eviction -/

theorem oldestCompleted_eq_some {entries : ConversationMap Frame}
    {clientRequestId : ClientRequestId} (oldest : oldestCompleted entries = some clientRequestId) :
    ∃ entry, entries.get clientRequestId = some entry ∧
      isCompletedIdempotencyEntry entry = true := by
  obtain ⟨⟨key, entry⟩, first, rfl⟩ := Option.map_eq_some_iff.mp oldest
  have completed := List.find?_some first
  exact ⟨entry, (entries.get_eq_some_iff key entry).mpr (List.mem_of_find?_eq_some first),
    completed⟩

theorem oldestCompleted_dropEmptyMap (store : RelayIdempotencyStore Frame)
    (conversationId other : ConversationId) :
    ((store.dropEmptyMap conversationId).getRelayIdempotencyMap other).bind oldestCompleted =
      (store.getRelayIdempotencyMap other).bind oldestCompleted :=
  store.bind_dropEmptyMap oldestCompleted rfl conversationId other

theorem holdsCompleted_dropEmptyMap (store : RelayIdempotencyStore Frame)
    (conversationId : ConversationId) :
    (store.dropEmptyMap conversationId).holdsCompleted = store.holdsCompleted := by
  funext other
  rw [holdsCompleted, oldestCompleted_dropEmptyMap, holdsCompleted]

theorem getEntry_of_oldest {store : RelayIdempotencyStore Frame} {conversationId : ConversationId}
    {clientRequestId : ClientRequestId}
    (oldest : (store.getRelayIdempotencyMap conversationId).bind oldestCompleted =
      some clientRequestId) :
    ∃ entry, store.getEntry conversationId clientRequestId = some entry ∧
      isCompletedIdempotencyEntry entry = true := by
  obtain ⟨entries, stored, first⟩ := Option.bind_eq_some_iff.mp oldest
  obtain ⟨entry, holds, completed⟩ := oldestCompleted_eq_some first
  exact ⟨entry, getEntry_eq_some_iff.mpr ⟨entries, stored, holds⟩, completed⟩

/-- The eviction along a list takes the oldest completed entry of the first conversation of the
list that has one, or finds none and changes no entry. -/
theorem evictAlong_cases (store : RelayIdempotencyStore Frame) (path : List ConversationId) :
    (path.find? store.holdsCompleted = none ∧ (store.evictAlong path).2 = false ∧
      Alike store (store.evictAlong path).1) ∨
    (∃ conversationId clientRequestId,
      path.find? store.holdsCompleted = some conversationId ∧
      (store.getRelayIdempotencyMap conversationId).bind oldestCompleted = some clientRequestId ∧
      (store.evictAlong path).2 = true ∧
      Without store (store.evictAlong path).1 conversationId clientRequestId) := by
  induction path generalizing store with
  | nil => exact .inl ⟨rfl, rfl, Alike.refl store⟩
  | cons head rest ih =>
    cases oldest : (store.getRelayIdempotencyMap head).bind oldestCompleted with
    | some clientRequestId =>
      obtain ⟨entry, found, -⟩ := getEntry_of_oldest oldest
      have holds : store.holdsCompleted head = true := by rw [holdsCompleted, oldest]; rfl
      refine .inr ⟨head, clientRequestId, List.find?_cons_of_pos holds, oldest, ?_, ?_⟩
      · simp only [evictAlong, oldest]
      · simp only [evictAlong, oldest]
        exact (Without.dropEntry found).alike (Alike.dropEmptyMap _ head)
    | none =>
      have lacks : ¬store.holdsCompleted head = true := by simp [holdsCompleted, oldest]
      simp only [evictAlong, oldest, List.find?_cons_of_neg lacks]
      have alike := Alike.dropEmptyMap store head
      have rest := ih (store.dropEmptyMap head)
      rw [holdsCompleted_dropEmptyMap] at rest
      rcases rest with ⟨none, fails, same⟩ | ⟨conversationId, clientRequestId, first, chosen, done,
        without⟩
      · exact .inl ⟨none, fails, alike.trans same⟩
      · rw [oldestCompleted_dropEmptyMap] at chosen
        exact .inr ⟨conversationId, clientRequestId, first, chosen, done, alike.without without⟩

/-- The maps that an eviction along a list deletes: the empty ones it passes, and the map whose
only entry it takes. -/
theorem getMap_evictAlong_eq_none (store : RelayIdempotencyStore Frame)
    (path : List ConversationId) (conversationId : ConversationId) :
    (store.evictAlong path).1.getRelayIdempotencyMap conversationId = none ↔
      store.getRelayIdempotencyMap conversationId = none ∨
      (conversationId ∈ path.takeWhile (fun passed => !store.holdsCompleted passed) ∧
        store.sizeOf conversationId = 0) ∨
      (path.find? store.holdsCompleted = some conversationId ∧
        store.sizeOf conversationId = 1) := by
  induction path generalizing store with
  | nil => simp [evictAlong]
  | cons head rest ih =>
    cases oldest : (store.getRelayIdempotencyMap head).bind oldestCompleted with
    | some clientRequestId =>
      obtain ⟨entry, found, -⟩ := getEntry_of_oldest oldest
      have holds : store.holdsCompleted head = true := by rw [holdsCompleted, oldest]; rfl
      have size := sizeOf_dropEntry found head
      rw [if_pos rfl] at size
      have result : (store.evictAlong (head :: rest)).1 =
          (store.dropEntry head clientRequestId).dropEmptyMap head := by
        simp only [evictAlong, oldest]
        rfl
      have map : (store.dropEntry head clientRequestId).getRelayIdempotencyMap conversationId =
          if conversationId = head then
            (store.getRelayIdempotencyMap head).map (·.erase clientRequestId)
          else store.getRelayIdempotencyMap conversationId :=
        store.getMap_updateMap head conversationId _
      obtain ⟨entries, stored, -⟩ := getEntry_eq_some_iff.mp found
      rw [result, getMap_dropEmptyMap, map, List.find?_cons_of_pos holds,
        List.takeWhile_cons_of_neg (by simp [holds])]
      by_cases same : conversationId = head
      · subst same
        simp only [true_and, if_true, stored, Option.map_some, reduceCtorEq, List.not_mem_nil,
          false_and, false_or]
        by_cases last : store.sizeOf conversationId = 1
        · rw [if_pos (by omega)]
          simp [last]
        · rw [if_neg (by omega)]
          simp [last]
      · simp [same, eq_comm]
    | none =>
      have lacks : ¬store.holdsCompleted head = true := by simp [holdsCompleted, oldest]
      have passed : (head :: rest).takeWhile (fun passed => !store.holdsCompleted passed) =
          head :: rest.takeWhile fun passed => !store.holdsCompleted passed :=
        List.takeWhile_cons_of_pos (by simp [lacks])
      simp only [evictAlong, oldest, List.find?_cons_of_neg lacks]
      rw [ih, holdsCompleted_dropEmptyMap, sizeOf_dropEmptyMap, getMap_dropEmptyMap, passed,
        List.mem_cons]
      by_cases same : conversationId = head
      · subst same
        by_cases empty : store.sizeOf conversationId = 0
        · simp [empty]
        · simp [empty]
      · simp [same]

theorem evictConversation_cases {store : RelayIdempotencyStore Frame} {cap : Nat}
    {conversationId : ConversationId} (within : store.sizeOf conversationId ≤ cap) :
    (evictConversation cap conversationId (store.sizeOf conversationId + 1) store = store ∧
      (store.sizeOf conversationId = cap →
        (store.getRelayIdempotencyMap conversationId).bind oldestCompleted = none)) ∨
    (∃ clientRequestId, store.sizeOf conversationId = cap ∧ 0 < cap ∧
      (store.getRelayIdempotencyMap conversationId).bind oldestCompleted = some clientRequestId ∧
      evictConversation cap conversationId (store.sizeOf conversationId + 1) store =
        store.dropEntry conversationId clientRequestId) := by
  cases found : store.getRelayIdempotencyMap conversationId with
  | none =>
    refine .inl ⟨?_, fun _ => rfl⟩
    simp only [evictConversation, found]
  | some entries =>
    have size : store.sizeOf conversationId = entries.size := by rw [sizeOf, found]; rfl
    by_cases room : entries.size < cap
    · refine .inl ⟨?_, fun full => by omega⟩
      simp only [evictConversation, found, room, if_true]
    · cases oldest : oldestCompleted entries with
      | none =>
        refine .inl ⟨?_, fun _ => oldest⟩
        simp only [evictConversation, found, room, if_false, oldest]
      | some clientRequestId =>
        obtain ⟨entry, holds, -⟩ := oldestCompleted_eq_some oldest
        have less := entries.size_erase_of_present holds
        obtain ⟨fuel, turns⟩ : ∃ fuel, store.sizeOf conversationId = fuel + 1 :=
          ⟨store.sizeOf conversationId - 1, by omega⟩
        have map : (store.dropEntry conversationId clientRequestId).getRelayIdempotencyMap
            conversationId = some (entries.erase clientRequestId) := by
          have read := store.getMap_updateMap conversationId conversationId
            (·.erase clientRequestId)
          rw [if_pos rfl, found] at read
          exact read
        have stops : evictConversation cap conversationId (fuel + 1)
            (store.dropEntry conversationId clientRequestId) =
              store.dropEntry conversationId clientRequestId := by
          have fewer : (entries.erase clientRequestId).size < cap := by omega
          simp only [evictConversation, map, fewer, if_true]
        refine .inr ⟨clientRequestId, by omega, by omega, oldest, ?_⟩
        rw [turns, ← stops, evictConversation]
        simp only [found, room, if_false, oldest]
        rfl

theorem evictGlobal_eq {store : RelayIdempotencyStore Frame} {cap : Nat} (positive : 0 < cap)
    (within : store.totalEntries ≤ cap) :
    evictGlobal cap (store.totalEntries + 1) store =
      if store.totalEntries < cap then store else store.evictGlobalOldestCompleted.1 := by
  by_cases room : store.totalEntries < cap
  · simp only [evictGlobal, room, if_true]
  · have full : store.totalEntries = cap := by omega
    obtain ⟨fuel, turns⟩ : ∃ fuel, store.totalEntries = fuel + 1 := ⟨cap - 1, by omega⟩
    rw [evictGlobal, if_neg room, if_neg room]
    rcases evictAlong_cases store store.relayIdempotencyByConversation.keys with
      ⟨-, fails, -⟩ | ⟨conversationId, clientRequestId, -, -, done, without⟩
    · have pair : store.evictGlobalOldestCompleted = (store.evictGlobalOldestCompleted.1, false) :=
        Prod.ext rfl fails
      rw [pair]
    · have pair : store.evictGlobalOldestCompleted = (store.evictGlobalOldestCompleted.1, true) :=
        Prod.ext rfl done
      have fewer : store.evictGlobalOldestCompleted.1.totalEntries < cap := by
        have counted : store.evictGlobalOldestCompleted.1.totalEntries = store.totalEntries - 1 :=
          without.counted
        omega
      rw [pair, turns]
      simp only [evictGlobal, fewer, if_true]

/-! ## Insertion -/

section Writing

variable (store : RelayIdempotencyStore Frame) (conversationId : ConversationId)
  (clientRequestId : ClientRequestId) (entry : RelayIdempotencyEntry Frame)

theorem writeEntry_of_missing (missing : store.getRelayIdempotencyMap conversationId = none) :
    store.writeEntry conversationId clientRequestId entry = store := by
  have absent : store.relayIdempotencyByConversation.get conversationId = none := missing
  simp only [writeEntry, updateMap, OrderedMap.modify, absent]

section

variable (known : store.getRelayIdempotencyMap conversationId ≠ none)

include known

theorem getEntry_writeEntry (other : ConversationId) (otherRequestId : ClientRequestId) :
    (store.writeEntry conversationId clientRequestId entry).getEntry other otherRequestId =
      if other = conversationId ∧ otherRequestId = clientRequestId then some entry
      else store.getEntry other otherRequestId := by
  rw [getEntry, writeEntry, getMap_updateMap]
  obtain ⟨entries, found⟩ := Option.ne_none_iff_exists'.mp known
  by_cases same : other = conversationId
  · subst same
    simp [getEntry, found, OrderedMap.get_set]
  · simp [same, getEntry]

theorem sizeOf_writeEntry
    (new : store.getEntry conversationId clientRequestId = none) (other : ConversationId) :
    (store.writeEntry conversationId clientRequestId entry).sizeOf other =
      store.sizeOf other + if other = conversationId then 1 else 0 := by
  rw [sizeOf, writeEntry, getMap_updateMap]
  obtain ⟨entries, found⟩ := Option.ne_none_iff_exists'.mp known
  have absent : entries.get clientRequestId = none := by
    rw [getEntry, found] at new
    exact new
  by_cases same : other = conversationId
  · subst same
    simp [sizeOf, found, entries.size_set_of_absent entry absent]
  · simp [same, sizeOf]

theorem storedEntries_writeEntry (new : store.getEntry conversationId clientRequestId = none) :
    (store.writeEntry conversationId clientRequestId entry).storedEntries =
      store.storedEntries + 1 := by
  obtain ⟨entries, found⟩ := Option.ne_none_iff_exists'.mp known
  have absent : entries.get clientRequestId = none := by
    rw [getEntry, found] at new
    exact new
  have counted := store.storedEntries_updateMap conversationId (·.set clientRequestId entry)
  have more := entries.size_set_of_absent entry absent
  rw [sizeOf, found] at counted
  simp only [Option.map_some, Option.getD_some] at counted
  rw [writeEntry]
  omega

end

theorem sizeOf_writeEntry_of_present {old : RelayIdempotencyEntry Frame}
    (held : store.getEntry conversationId clientRequestId = some old) (other : ConversationId) :
    (store.writeEntry conversationId clientRequestId entry).sizeOf other = store.sizeOf other := by
  obtain ⟨entries, found, holds⟩ := getEntry_eq_some_iff.mp held
  have size := entries.size_set_of_present entry holds
  rw [sizeOf, writeEntry, getMap_updateMap]
  by_cases same : other = conversationId
  · subst same
    simp [sizeOf, found, size]
  · simp [same, sizeOf]

theorem storedEntries_writeEntry_of_present {old : RelayIdempotencyEntry Frame}
    (held : store.getEntry conversationId clientRequestId = some old) :
    (store.writeEntry conversationId clientRequestId entry).storedEntries =
      store.storedEntries := by
  obtain ⟨entries, found, holds⟩ := getEntry_eq_some_iff.mp held
  have size := entries.size_set_of_present entry holds
  have counted := store.storedEntries_updateMap conversationId (·.set clientRequestId entry)
  rw [sizeOf, found] at counted
  simp only [Option.map_some, Option.getD_some] at counted
  rw [writeEntry]
  omega

end Writing

/-- Write a new entry and count it. -/
def insertEntry (store : RelayIdempotencyStore Frame) (conversationId : ConversationId)
    (clientRequestId : ClientRequestId) (entry : RelayIdempotencyEntry Frame) :
    RelayIdempotencyStore Frame :=
  { store.writeEntry conversationId clientRequestId entry with
    totalEntries := store.totalEntries + 1 }

/-- What an insertion into a store within its caps does, given the store with the map of the
conversation opened. -/
inductive SetOutcome (env : Env) (opened : RelayIdempotencyStore Frame)
    (conversationId : ConversationId) (clientRequestId : ClientRequestId)
    (entry : RelayIdempotencyEntry Frame) :
    RelayIdempotencyStore Frame × Option IdempotencyRefusal → Prop
  | replaces {old : RelayIdempotencyEntry Frame}
      (held : opened.getEntry conversationId clientRequestId = some old) :
      SetOutcome env opened conversationId clientRequestId entry
        (opened.writeEntry conversationId clientRequestId entry, none)
  | conversationFull (new : opened.getEntry conversationId clientRequestId = none)
      (full : opened.sizeOf conversationId = env.socketRelayIdempotencyMaxEntriesPerConversation) :
      SetOutcome env opened conversationId clientRequestId entry
        (opened, some .perConversationCapReached)
  | conversationEvicts (new : opened.getEntry conversationId clientRequestId = none)
      (full : opened.sizeOf conversationId = env.socketRelayIdempotencyMaxEntriesPerConversation)
      (evicted : ClientRequestId)
      (oldest : (opened.getRelayIdempotencyMap conversationId).bind oldestCompleted =
        some evicted) :
      SetOutcome env opened conversationId clientRequestId entry
        ((opened.dropEntry conversationId evicted).insertEntry conversationId clientRequestId entry,
          none)
  | fits (new : opened.getEntry conversationId clientRequestId = none)
      (room : opened.sizeOf conversationId < env.socketRelayIdempotencyMaxEntriesPerConversation)
      (roomy : 0 < env.socketRelayIdempotencyMaxTotalEntries →
        opened.totalEntries < env.socketRelayIdempotencyMaxTotalEntries) :
      SetOutcome env opened conversationId clientRequestId entry
        (opened.insertEntry conversationId clientRequestId entry, none)
  | hubFull (new : opened.getEntry conversationId clientRequestId = none)
      (room : opened.sizeOf conversationId < env.socketRelayIdempotencyMaxEntriesPerConversation)
      (limited : 0 < env.socketRelayIdempotencyMaxTotalEntries)
      (full : opened.totalEntries = env.socketRelayIdempotencyMaxTotalEntries)
      (fails : opened.evictGlobalOldestCompleted.2 = false) :
      SetOutcome env opened conversationId clientRequestId entry
        (opened.evictGlobalOldestCompleted.1, some .globalCapReached)
  | hubEvicts (new : opened.getEntry conversationId clientRequestId = none)
      (room : opened.sizeOf conversationId < env.socketRelayIdempotencyMaxEntriesPerConversation)
      (limited : 0 < env.socketRelayIdempotencyMaxTotalEntries)
      (full : opened.totalEntries = env.socketRelayIdempotencyMaxTotalEntries)
      (done : opened.evictGlobalOldestCompleted.2 = true) :
      SetOutcome env opened conversationId clientRequestId entry
        (opened.evictGlobalOldestCompleted.1.insertEntry conversationId clientRequestId entry, none)

/-- A store after a number of entries left it, each out of its map and out of the count. -/
structure Sheds (store next : RelayIdempotencyStore Frame) (number : Nat) : Prop where
  size : ∀ conversationId, next.sizeOf conversationId ≤ store.sizeOf conversationId
  stored : next.storedEntries + number = store.storedEntries
  counted : next.totalEntries = store.totalEntries - number

theorem Alike.sheds {store next : RelayIdempotencyStore Frame} (alike : Alike store next) :
    Sheds store next 0 :=
  ⟨fun conversationId => (alike.size conversationId).le, alike.stored, alike.counted⟩

theorem Without.sheds {store next : RelayIdempotencyStore Frame} {conversationId : ConversationId}
    {clientRequestId : ClientRequestId}
    (without : Without store next conversationId clientRequestId) : Sheds store next 1 :=
  ⟨fun other => Nat.le_of_add_right_le (without.size other).le, without.stored, without.counted⟩

theorem Sheds.trans {first second third : RelayIdempotencyStore Frame} {number more : Nat}
    (left : Sheds first second number) (right : Sheds second third more) :
    Sheds first third (number + more) where
  size conversationId := (right.size conversationId).trans (left.size conversationId)
  stored := by
    have before := left.stored
    have after := right.stored
    omega
  counted := by rw [right.counted, left.counted, Nat.sub_sub]

theorem Capped.sheds {env : Env} {store next : RelayIdempotencyStore Frame} {number : Nat}
    (capped : Capped env store) (sheds : Sheds store next number) : Capped env next where
  conversation conversationId :=
    (sheds.size conversationId).trans (capped.conversation conversationId)
  hub limited := by
    have most := capped.hub limited
    rw [sheds.counted]
    omega
  counted := by
    have less := sheds.stored
    have every := capped.counted
    rw [sheds.counted]
    omega

theorem Exact.sheds {store next : RelayIdempotencyStore Frame} {number : Nat}
    (exact : store.Exact) (sheds : Sheds store next number) : next.Exact := by
  have less := sheds.stored
  unfold Exact at exact ⊢
  rw [sheds.counted]
  omega

/-- The outcomes of an insertion within the caps. -/
theorem Capped.setOutcome {env : Env} {store : RelayIdempotencyStore Frame}
    (capped : Capped env store) (conversationId : ConversationId)
    (clientRequestId : ClientRequestId) (entry : RelayIdempotencyEntry Frame) :
    SetOutcome env (store.getOrCreateRelayIdempotencyMap conversationId) conversationId
      clientRequestId entry
      (store.setRelayIdempotencyEntry env conversationId clientRequestId entry) := by
  unfold setRelayIdempotencyEntry
  have within := capped.sheds (Alike.getOrCreate store conversationId).sheds
  generalize store.getOrCreateRelayIdempotencyMap conversationId = opened at within
  cases held : opened.getEntry conversationId clientRequestId with
  | some old =>
    simp only [held]
    exact .replaces held
  | none =>
    simp only [held]
    have size : ∀ current : RelayIdempotencyStore Frame,
      ((current.getRelayIdempotencyMap conversationId).map (·.size)).getD 0 =
        current.sizeOf conversationId := fun _ => rfl
    simp only [size]
    have hub := within.hub
    rcases evictConversation_cases (within.conversation conversationId) with
      ⟨same, inFlight⟩ | ⟨evicted, full, positive, oldest, dropped⟩
    · rw [same]
      by_cases full : env.socketRelayIdempotencyMaxEntriesPerConversation ≤
          opened.sizeOf conversationId
      · rw [if_pos full]
        exact .conversationFull held (Nat.le_antisymm (within.conversation _) full)
      · rw [if_neg full]
        by_cases limited : 0 < env.socketRelayIdempotencyMaxTotalEntries
        · rw [if_pos limited, evictGlobal_eq limited (hub limited)]
          by_cases roomy : opened.totalEntries < env.socketRelayIdempotencyMaxTotalEntries
          · rw [if_pos roomy, if_neg (by omega)]
            exact .fits held (by omega) fun _ => roomy
          · have total : opened.totalEntries = env.socketRelayIdempotencyMaxTotalEntries := by
              have most := hub limited
              omega
            rw [if_neg roomy]
            rcases evictAlong_cases opened opened.relayIdempotencyByConversation.keys with
              ⟨-, fails, alike⟩ | ⟨other, evicted, -, -, done, without⟩
            · have counted : opened.evictGlobalOldestCompleted.1.totalEntries =
                  opened.totalEntries := alike.counted
              rw [if_pos ⟨limited, by omega⟩]
              exact .hubFull held (by omega) limited total fails
            · have counted : opened.evictGlobalOldestCompleted.1.totalEntries =
                  opened.totalEntries - 1 := without.counted
              rw [if_neg (by omega)]
              exact .hubEvicts held (by omega) limited total done
        · rw [if_neg limited, if_neg (fun both => limited both.1)]
          exact .fits held (by omega) fun positive => absurd positive limited
    · rw [dropped]
      obtain ⟨old, found, -⟩ := getEntry_of_oldest oldest
      have less := sizeOf_dropEntry found conversationId
      rw [if_pos rfl] at less
      have counted : (opened.dropEntry conversationId evicted).totalEntries =
        opened.totalEntries - 1 := rfl
      rw [if_neg (by omega)]
      have some_stored := storedEntries_dropEntry found
      have every := within.counted
      have trims : (if 0 < env.socketRelayIdempotencyMaxTotalEntries then
          evictGlobal env.socketRelayIdempotencyMaxTotalEntries
            ((opened.dropEntry conversationId evicted).totalEntries + 1)
            (opened.dropEntry conversationId evicted)
          else opened.dropEntry conversationId evicted) =
            opened.dropEntry conversationId evicted := by
        by_cases limited : 0 < env.socketRelayIdempotencyMaxTotalEntries
        · have most := hub limited
          rw [if_pos limited, evictGlobal_eq limited (by omega), if_pos (by omega)]
        · rw [if_neg limited]
      rw [trims, if_neg (fun both => by have most := hub both.1; omega)]
      exact .conversationEvicts held full evicted oldest

theorem Capped.insertEntry {env : Env} {store : RelayIdempotencyStore Frame}
    {conversationId : ConversationId} {clientRequestId : ClientRequestId}
    (capped : Capped env store) (entry : RelayIdempotencyEntry Frame)
    (new : store.getEntry conversationId clientRequestId = none)
    (room : store.sizeOf conversationId < env.socketRelayIdempotencyMaxEntriesPerConversation)
    (roomy : 0 < env.socketRelayIdempotencyMaxTotalEntries →
      store.totalEntries < env.socketRelayIdempotencyMaxTotalEntries) :
    Capped env (store.insertEntry conversationId clientRequestId entry) := by
  have sizes : ∀ other, (store.insertEntry conversationId clientRequestId entry).sizeOf other =
    (store.writeEntry conversationId clientRequestId entry).sizeOf other := fun _ => rfl
  have stored : (store.insertEntry conversationId clientRequestId entry).storedEntries =
    (store.writeEntry conversationId clientRequestId entry).storedEntries := rfl
  have total : (store.insertEntry conversationId clientRequestId entry).totalEntries =
    store.totalEntries + 1 := rfl
  have every := capped.counted
  by_cases known : store.getRelayIdempotencyMap conversationId = none
  · rw [store.writeEntry_of_missing conversationId clientRequestId entry known] at stored
    refine ⟨fun other => ?_, fun limited => ?_, by omega⟩
    · rw [sizes, store.writeEntry_of_missing conversationId clientRequestId entry known]
      exact capped.conversation other
    · have less := roomy limited
      omega
  · rw [store.storedEntries_writeEntry conversationId clientRequestId entry known new] at stored
    refine ⟨fun other => ?_, fun limited => ?_, by omega⟩
    · rw [sizes, store.sizeOf_writeEntry conversationId clientRequestId entry known new]
      have most := capped.conversation other
      by_cases same : other = conversationId
      · rw [if_pos same, same]
        omega
      · rw [if_neg same]
        omega
    · have less := roomy limited
      omega

/-- Every entry in flight of one store is in another, but for one client request that is written. -/
def KeepsInFlight (store next : RelayIdempotencyStore Frame) (conversationId : ConversationId)
    (clientRequestId : ClientRequestId) : Prop :=
  ∀ other otherRequestId entry, store.getEntry other otherRequestId = some entry →
    isCompletedIdempotencyEntry entry = false →
    ¬(other = conversationId ∧ otherRequestId = clientRequestId) →
    next.getEntry other otherRequestId = some entry

theorem getEntry_writeEntry_of_other (store : RelayIdempotencyStore Frame)
    {conversationId other : ConversationId} {clientRequestId otherRequestId : ClientRequestId}
    (entry : RelayIdempotencyEntry Frame)
    (differs : ¬(other = conversationId ∧ otherRequestId = clientRequestId)) :
    (store.writeEntry conversationId clientRequestId entry).getEntry other otherRequestId =
      store.getEntry other otherRequestId := by
  by_cases known : store.getRelayIdempotencyMap conversationId = none
  · rw [store.writeEntry_of_missing conversationId clientRequestId entry known]
  · rw [store.getEntry_writeEntry conversationId clientRequestId entry known, if_neg differs]

theorem Without.inFlight {store next : RelayIdempotencyStore Frame}
    {conversationId other : ConversationId} {clientRequestId otherRequestId : ClientRequestId}
    {entry : RelayIdempotencyEntry Frame}
    (without : Without store next conversationId clientRequestId)
    (oldest : (store.getRelayIdempotencyMap conversationId).bind oldestCompleted =
      some clientRequestId)
    (found : store.getEntry other otherRequestId = some entry)
    (inFlight : isCompletedIdempotencyEntry entry = false) :
    next.getEntry other otherRequestId = some entry := by
  rw [without.entry]
  by_cases same : other = conversationId ∧ otherRequestId = clientRequestId
  · obtain ⟨old, held, completed⟩ := getEntry_of_oldest oldest
    rw [same.1, same.2, held] at found
    cases found
    rw [completed] at inFlight
    cases inFlight
  · rw [if_neg same]
    exact found

theorem exists_without_of_evicts {store : RelayIdempotencyStore Frame}
    (done : store.evictGlobalOldestCompleted.2 = true) :
    ∃ conversationId clientRequestId,
      store.relayIdempotencyByConversation.keys.find? store.holdsCompleted = some conversationId ∧
      (store.getRelayIdempotencyMap conversationId).bind oldestCompleted = some clientRequestId ∧
      Without store store.evictGlobalOldestCompleted.1 conversationId clientRequestId := by
  rcases evictAlong_cases store store.relayIdempotencyByConversation.keys with
    ⟨-, fails, -⟩ | ⟨conversationId, clientRequestId, first, oldest, -, without⟩
  · rw [evictGlobalOldestCompleted, fails] at done
    cases done
  · exact ⟨conversationId, clientRequestId, first, oldest, without⟩

theorem alike_of_not_evicts {store : RelayIdempotencyStore Frame}
    (fails : store.evictGlobalOldestCompleted.2 = false) :
    Alike store store.evictGlobalOldestCompleted.1 := by
  rcases evictAlong_cases store store.relayIdempotencyByConversation.keys with
    ⟨-, -, alike⟩ | ⟨conversationId, clientRequestId, -, -, done, -⟩
  · exact alike
  · rw [evictGlobalOldestCompleted, done] at fails
    cases fails

section Outcome

variable {env : Env} {opened : RelayIdempotencyStore Frame} {conversationId : ConversationId}
  {clientRequestId : ClientRequestId} {entry : RelayIdempotencyEntry Frame}
  {result : RelayIdempotencyStore Frame × Option IdempotencyRefusal}

theorem Without.new {next : RelayIdempotencyStore Frame} {other : ConversationId}
    {otherRequestId : ClientRequestId} (without : Without opened next other otherRequestId)
    (new : opened.getEntry conversationId clientRequestId = none) :
    next.getEntry conversationId clientRequestId = none := by
  rw [without.entry]
  by_cases same : conversationId = other ∧ clientRequestId = otherRequestId
  · rw [if_pos same]
  · rw [if_neg same]
    exact new

theorem SetOutcome.capped
    (outcome : SetOutcome env opened conversationId clientRequestId entry result)
    (capped : Capped env opened) : Capped env result.1 := by
  cases outcome with
  | replaces held =>
    refine ⟨fun other => ?_, capped.hub, ?_⟩
    · rw [opened.sizeOf_writeEntry_of_present conversationId clientRequestId entry held]
      exact capped.conversation other
    · rw [opened.storedEntries_writeEntry_of_present conversationId clientRequestId entry held]
      exact capped.counted
  | conversationFull _ _ => exact capped
  | conversationEvicts new full evicted oldest =>
    obtain ⟨old, found, -⟩ := getEntry_of_oldest oldest
    have without := Without.dropEntry found
    have less := without.size conversationId
    rw [if_pos rfl] at less
    refine (capped.sheds without.sheds).insertEntry entry
      (without.new new) (by omega) fun limited => ?_
    have most := capped.hub limited
    have every := capped.counted
    have stored := without.stored
    rw [without.counted]
    omega
  | fits new room roomy => exact capped.insertEntry entry new room roomy
  | hubFull _ _ _ _ fails => exact capped.sheds (alike_of_not_evicts fails).sheds
  | hubEvicts new room limited full done =>
    obtain ⟨other, evicted, -, -, without⟩ := exists_without_of_evicts done
    have less := without.size conversationId
    refine (capped.sheds without.sheds).insertEntry entry (without.new new) (by omega) fun _ => ?_
    rw [without.counted]
    omega

theorem SetOutcome.keepsInFlight
    (outcome : SetOutcome env opened conversationId clientRequestId entry result) :
    KeepsInFlight opened result.1 conversationId clientRequestId := by
  intro other otherRequestId old found inFlight differs
  cases outcome with
  | replaces held =>
    rw [opened.getEntry_writeEntry_of_other entry differs]
    exact found
  | conversationFull _ _ => exact found
  | conversationEvicts new full evicted oldest =>
    obtain ⟨gone, held, -⟩ := getEntry_of_oldest oldest
    have kept := (Without.dropEntry held).inFlight oldest found inFlight
    rw [← kept]
    exact getEntry_writeEntry_of_other _ entry differs
  | fits new room roomy =>
    rw [← found]
    exact opened.getEntry_writeEntry_of_other entry differs
  | hubFull _ _ _ _ fails =>
    rw [(alike_of_not_evicts fails).entry]
    exact found
  | hubEvicts new room limited full done =>
    obtain ⟨_, _, -, oldest, without⟩ := exists_without_of_evicts done
    have kept := without.inFlight oldest found inFlight
    rw [← kept]
    exact getEntry_writeEntry_of_other _ entry differs

end Outcome

/-! ## The insertion that loses its map -/

/-- An insertion that loses its map: the client request is new, its conversation has room, the
store is at the cap of the hub, and the eviction that makes room deletes the map of the
conversation. Either the conversation is the first with a completed entry and has no other entry,
or its map is stored empty before the first conversation with a completed entry. -/
def LosesMap (env : Env) (store : RelayIdempotencyStore Frame) (conversationId : ConversationId)
    (clientRequestId : ClientRequestId) : Prop :=
  store.getEntry conversationId clientRequestId = none ∧
  store.sizeOf conversationId < env.socketRelayIdempotencyMaxEntriesPerConversation ∧
  0 < env.socketRelayIdempotencyMaxTotalEntries ∧
  env.socketRelayIdempotencyMaxTotalEntries ≤ store.totalEntries ∧
  ∃ first, store.relayIdempotencyByConversation.keys.find? store.holdsCompleted = some first ∧
    ((conversationId = first ∧ store.sizeOf conversationId = 1) ∨
      (conversationId ∈ store.relayIdempotencyByConversation.keys.takeWhile
          (fun passed => !store.holdsCompleted passed) ∧
        store.sizeOf conversationId = 0))

section

variable (store : RelayIdempotencyStore Frame)

include store

theorem oldestCompleted_getOrCreate (conversationId other : ConversationId) :
    ((store.getOrCreateRelayIdempotencyMap conversationId).getRelayIdempotencyMap other).bind
        oldestCompleted = (store.getRelayIdempotencyMap other).bind oldestCompleted := by
  rw [getMap_getOrCreate]
  by_cases same : other = conversationId
  · rw [if_pos same, same]
    cases store.getRelayIdempotencyMap conversationId with
    | none | some entries => rfl
  · rw [if_neg same]

theorem holdsCompleted_getOrCreate (conversationId : ConversationId) :
    (store.getOrCreateRelayIdempotencyMap conversationId).holdsCompleted =
      store.holdsCompleted := by
  funext other
  rw [holdsCompleted, oldestCompleted_getOrCreate, holdsCompleted]

theorem keys_getOrCreate (conversationId : ConversationId) :
    (store.getOrCreateRelayIdempotencyMap conversationId).relayIdempotencyByConversation.keys =
      if store.getRelayIdempotencyMap conversationId = none then
        store.relayIdempotencyByConversation.keys ++ [conversationId]
      else store.relayIdempotencyByConversation.keys := by
  unfold getOrCreateRelayIdempotencyMap
  cases found : store.getRelayIdempotencyMap conversationId with
  | some entries => rfl
  | none =>
    rw [if_pos rfl]
    exact OrderedMap.keys_set_of_absent _ _ found

theorem find_getOrCreate (conversationId : ConversationId) :
    (store.getOrCreateRelayIdempotencyMap conversationId).relayIdempotencyByConversation.keys.find?
      (store.getOrCreateRelayIdempotencyMap conversationId).holdsCompleted =
    store.relayIdempotencyByConversation.keys.find? store.holdsCompleted := by
  rw [holdsCompleted_getOrCreate, keys_getOrCreate]
  by_cases missing : store.getRelayIdempotencyMap conversationId = none
  · have lacks : ¬store.holdsCompleted conversationId = true := by
      rw [holdsCompleted, missing]
      nofun
    rw [if_pos missing, List.find?_append, List.find?_cons_of_neg lacks, List.find?_nil,
      Option.or_none]
  · rw [if_neg missing]

end

theorem evictGlobalOldestCompleted_of_completed {store : RelayIdempotencyStore Frame}
    {first : ConversationId}
    (holds : store.relayIdempotencyByConversation.keys.find? store.holdsCompleted = some first) :
    store.evictGlobalOldestCompleted.2 = true := by
  rcases evictAlong_cases store store.relayIdempotencyByConversation.keys with
    ⟨none, -, -⟩ | ⟨_, _, -, -, done, -⟩
  · rw [none] at holds
    cases holds
  · exact done

/-- The eviction deletes the map of the conversation that inserts exactly in the two cases of
`LosesMap`. -/
theorem map_lost_iff (store : RelayIdempotencyStore Frame) (conversationId : ConversationId)
    (done : (store.getOrCreateRelayIdempotencyMap conversationId).evictGlobalOldestCompleted.2 =
      true) :
    (store.getOrCreateRelayIdempotencyMap
        conversationId).evictGlobalOldestCompleted.1.getRelayIdempotencyMap conversationId = none ↔
      ∃ first, store.relayIdempotencyByConversation.keys.find? store.holdsCompleted = some first ∧
        ((conversationId = first ∧ store.sizeOf conversationId = 1) ∨
          (conversationId ∈ store.relayIdempotencyByConversation.keys.takeWhile
              (fun passed => !store.holdsCompleted passed) ∧
            store.sizeOf conversationId = 0)) := by
  obtain ⟨first, -, found, -, -⟩ := exists_without_of_evicts done
  have known : ¬(store.getOrCreateRelayIdempotencyMap conversationId).getRelayIdempotencyMap
      conversationId = none := by
    rw [getMap_getOrCreate, if_pos rfl]
    nofun
  rw [find_getOrCreate] at found
  rw [evictGlobalOldestCompleted, getMap_evictAlong_eq_none, sizeOf_getOrCreate, find_getOrCreate,
    holdsCompleted_getOrCreate, keys_getOrCreate]
  by_cases missing : store.getRelayIdempotencyMap conversationId = none
  · have absent : conversationId ∉ store.relayIdempotencyByConversation.keys :=
      (store.relayIdempotencyByConversation.get_eq_none_iff conversationId).mp missing
    have size : store.sizeOf conversationId = 0 := by rw [sizeOf, missing]; rfl
    have notAll : ¬((store.relayIdempotencyByConversation.keys.takeWhile fun passed =>
        !store.holdsCompleted passed).length =
          store.relayIdempotencyByConversation.keys.length) := by
      intro whole
      have every := List.takeWhile_eq_self_iff.mp
        ((List.takeWhile_prefix _).eq_of_length whole) first (List.mem_of_find?_eq_some found)
      rw [List.find?_some found] at every
      cases every
    have passed : conversationId ∉ store.relayIdempotencyByConversation.keys.takeWhile fun passed =>
        !store.holdsCompleted passed :=
      fun member => absurd (List.takeWhile_subset _ member) absent
    rw [if_pos missing, List.takeWhile_append, if_neg notAll]
    simp only [known, passed, size, false_and, and_false, or_false, zero_ne_one, exists_false]
  · rw [if_neg missing]
    simp only [known, false_or, found, Option.some.injEq, exists_eq_left']
    rw [or_comm, eq_comm]

/-- An insertion keeps its accounts: the count stays exact, and an entry that is accepted is found
under its conversation and client request id. -/
structure Accounted (env : Env) (store : RelayIdempotencyStore Frame)
    (conversationId : ConversationId) (clientRequestId : ClientRequestId)
    (entry : RelayIdempotencyEntry Frame) : Prop where
  exact : (store.setRelayIdempotencyEntry env conversationId clientRequestId entry).1.Exact
  retrievable :
    (store.setRelayIdempotencyEntry env conversationId clientRequestId entry).2 = none →
    (store.setRelayIdempotencyEntry env conversationId clientRequestId entry).1.getEntry
      conversationId clientRequestId = some entry

section Insertion

variable {store : RelayIdempotencyStore Frame} {conversationId : ConversationId}
  {clientRequestId : ClientRequestId}

theorem Exact.insertEntry (exact : store.Exact) (entry : RelayIdempotencyEntry Frame)
    (known : store.getRelayIdempotencyMap conversationId ≠ none)
    (new : store.getEntry conversationId clientRequestId = none) :
    (store.insertEntry conversationId clientRequestId entry).Exact := by
  have stored := store.storedEntries_writeEntry conversationId clientRequestId entry known new
  have counted : (store.insertEntry conversationId clientRequestId entry).storedEntries =
    (store.writeEntry conversationId clientRequestId entry).storedEntries := rfl
  have total : (store.insertEntry conversationId clientRequestId entry).totalEntries =
    store.totalEntries + 1 := rfl
  unfold Exact at exact ⊢
  omega

theorem getEntry_insertEntry (entry : RelayIdempotencyEntry Frame)
    (known : store.getRelayIdempotencyMap conversationId ≠ none) :
    (store.insertEntry conversationId clientRequestId entry).getEntry conversationId
      clientRequestId = some entry := by
  have found := store.getEntry_writeEntry conversationId clientRequestId entry known conversationId
    clientRequestId
  rw [if_pos ⟨rfl, rfl⟩] at found
  exact found

theorem getEntry_insertEntry_of_missing (entry : RelayIdempotencyEntry Frame)
    (missing : store.getRelayIdempotencyMap conversationId = none) :
    (store.insertEntry conversationId clientRequestId entry).getEntry conversationId
      clientRequestId = none := by
  have same : (store.insertEntry conversationId clientRequestId entry).getEntry conversationId
      clientRequestId = (store.writeEntry conversationId clientRequestId entry).getEntry
        conversationId clientRequestId := rfl
  rw [same, store.writeEntry_of_missing conversationId clientRequestId entry missing, getEntry,
    missing]
  rfl

end Insertion

theorem getMap_dropEntry_ne_none {store : RelayIdempotencyStore Frame} {other : ConversationId}
    (conversationId : ConversationId) (clientRequestId : ClientRequestId)
    (known : store.getRelayIdempotencyMap other ≠ none) :
    (store.dropEntry conversationId clientRequestId).getRelayIdempotencyMap other ≠ none := by
  rw [getMap_dropEntry]
  by_cases same : other = conversationId
  · rw [if_pos same, ne_eq, Option.map_eq_none_iff, ← same]
    exact known
  · rw [if_neg same]
    exact known

/-- An insertion within the caps keeps its accounts exactly when it does not lose its map. -/
theorem accounted_iff {env : Env} {store : RelayIdempotencyStore Frame} (capped : Capped env store)
    (exact : store.Exact) (conversationId : ConversationId) (clientRequestId : ClientRequestId)
    (entry : RelayIdempotencyEntry Frame) :
    ¬LosesMap env store conversationId clientRequestId ↔
      Accounted env store conversationId clientRequestId entry := by
  have outcome := capped.setOutcome conversationId clientRequestId entry
  have alike := Alike.getOrCreate store conversationId
  have opened := exact.sheds alike.sheds
  have known : (store.getOrCreateRelayIdempotencyMap conversationId).getRelayIdempotencyMap
      conversationId ≠ none := by
    rw [getMap_getOrCreate, if_pos rfl]
    nofun
  have found := alike.entry conversationId clientRequestId
  have size := alike.size conversationId
  have total := alike.counted
  generalize answer : store.setRelayIdempotencyEntry env conversationId clientRequestId entry =
    result at outcome
  cases outcome with
  | replaces held =>
    have written : Accounted env store conversationId clientRequestId entry := by
      refine ⟨?_, fun _ => ?_⟩
      · rw [answer]
        unfold Exact
        rw [storedEntries_writeEntry_of_present _ _ _ _ held]
        exact opened
      · rw [answer, getEntry_writeEntry _ _ _ _ known, if_pos ⟨rfl, rfl⟩]
    refine ⟨fun _ => written, fun _ loses => ?_⟩
    rw [found, loses.1] at held
    cases held
  | conversationFull new full =>
    refine ⟨fun _ => ⟨by rw [answer]; exact opened, fun accepted => ?_⟩, fun _ loses => ?_⟩
    · rw [answer] at accepted
      cases accepted
    · have room := loses.2.1
      omega
  | conversationEvicts new full evicted oldest =>
    obtain ⟨old, held, -⟩ := getEntry_of_oldest oldest
    have without := Without.dropEntry held
    have still := getMap_dropEntry_ne_none conversationId evicted known
    refine ⟨fun _ => ⟨?_, fun _ => ?_⟩, fun _ loses => ?_⟩
    · rw [answer]
      exact (opened.sheds without.sheds).insertEntry entry still (without.new new)
    · rw [answer]
      exact getEntry_insertEntry entry still
    · have room := loses.2.1
      omega
  | fits new room roomy =>
    refine ⟨fun _ => ⟨?_, fun _ => ?_⟩, fun _ loses => ?_⟩
    · rw [answer]
      exact opened.insertEntry entry known new
    · rw [answer]
      exact getEntry_insertEntry entry known
    · have limit := roomy loses.2.2.1
      have full := loses.2.2.2.1
      omega
  | hubFull new room limited full fails =>
    refine ⟨fun _ => ⟨?_, fun accepted => ?_⟩, fun _ loses => ?_⟩
    · rw [answer]
      exact opened.sheds (alike_of_not_evicts fails).sheds
    · rw [answer] at accepted
      cases accepted
    · obtain ⟨first, holds, -⟩ := loses.2.2.2.2
      rw [← find_getOrCreate store conversationId] at holds
      rw [evictGlobalOldestCompleted_of_completed holds] at fails
      cases fails
  | hubEvicts new room limited full done =>
    obtain ⟨other, evicted, -, -, without⟩ := exists_without_of_evicts done
    have lost := map_lost_iff store conversationId done
    constructor
    · intro keeps
      have still : (store.getOrCreateRelayIdempotencyMap
          conversationId).evictGlobalOldestCompleted.1.getRelayIdempotencyMap conversationId ≠
            none := by
        intro missing
        exact keeps ⟨by rw [← found]; exact new, by omega, limited, by omega, lost.mp missing⟩
      refine ⟨?_, fun _ => ?_⟩
      · rw [answer]
        exact (opened.sheds without.sheds).insertEntry entry still (without.new new)
      · rw [answer]
        exact getEntry_insertEntry entry still
    · intro accounted loses
      have stored := accounted.retrievable (by rw [answer])
      rw [answer, getEntry_insertEntry_of_missing entry (lost.mpr loses.2.2.2.2)] at stored
      cases stored

/-! ## The other operations -/

theorem Sheds.updateMap_of_size {store : RelayIdempotencyStore Frame}
    (conversationId : ConversationId) {change : ConversationMap Frame → ConversationMap Frame}
    (same : ∀ entries, (change entries).size = entries.size) :
    Sheds store (store.updateMap conversationId change) 0 where
  size other := by
    rw [sizeOf, getMap_updateMap, sizeOf]
    by_cases here : other = conversationId
    · rw [if_pos here, here]
      cases store.getRelayIdempotencyMap conversationId with
      | none => exact Nat.le_refl _
      | some entries => exact (same entries).le
    · rw [if_neg here]
  stored := by
    have counted := store.storedEntries_updateMap conversationId change
    simp only [same] at counted
    exact Nat.add_right_cancel counted
  counted := rfl

theorem exists_sheds_remove (store : RelayIdempotencyStore Frame) (conversationId : ConversationId)
    (clientRequestId : ClientRequestId) :
    ∃ number, Sheds store (store.removeRelayIdempotencyEntry conversationId clientRequestId)
      number := by
  unfold removeRelayIdempotencyEntry
  cases found : store.getEntry conversationId clientRequestId with
  | none => exact ⟨0, (Alike.refl store).sheds⟩
  | some entry =>
    exact ⟨1, ((Without.dropEntry found).alike (Alike.dropEmptyMap _ conversationId)).sheds⟩

theorem exists_sheds_clear (store : RelayIdempotencyStore Frame) (conversationId : ConversationId) :
    ∃ number, Sheds store (store.clearRelayIdempotencyForConversation conversationId) number := by
  unfold clearRelayIdempotencyForConversation
  cases found : store.getRelayIdempotencyMap conversationId with
  | none => exact ⟨0, (Alike.refl store).sheds⟩
  | some entries =>
    refine ⟨entries.size, fun other => ?_, ?_, rfl⟩
    · have read := store.relayIdempotencyByConversation.get_erase conversationId other
      simp only [sizeOf, getRelayIdempotencyMap]
      rw [read]
      by_cases here : other = conversationId
      · rw [if_pos here]
        exact Nat.zero_le _
      · rw [if_neg here]
    · exact store.relayIdempotencyByConversation.total_erase_of_present (fun map => map.size) found

theorem size_without_expired (nowMs : Nat) (registered : RequestId → Bool)
    (entries : ConversationMap Frame) :
    ((expiredKeys nowMs registered entries).foldl (·.erase ·) entries).size +
      (expiredKeys nowMs registered entries).length = entries.size := by
  refine entries.size_foldl_erase ?_ fun key member => ?_
  · exact entries.distinct.sublist (List.filter_sublist.map Prod.fst)
  · obtain ⟨entry, kept, rfl⟩ := List.mem_map.mp member
    exact List.mem_map_of_mem (List.mem_filter.mp kept).1

theorem exists_sheds_expire (nowMs : Nat) (registered : RequestId → Bool)
    (store : RelayIdempotencyStore Frame) (conversationId : ConversationId) :
    ∃ number, Sheds store
      ({ store.updateMap conversationId fun entries =>
          (((store.getRelayIdempotencyMap conversationId).map
            (expiredKeys nowMs registered)).getD []).foldl (·.erase ·) entries with
        totalEntries := store.totalEntries -
          (((store.getRelayIdempotencyMap conversationId).map
            (expiredKeys nowMs registered)).getD []).length }.dropEmptyMap conversationId)
      number := by
  suffices pruned : ∃ number, Sheds store
      { store.updateMap conversationId fun entries =>
          (((store.getRelayIdempotencyMap conversationId).map
            (expiredKeys nowMs registered)).getD []).foldl (·.erase ·) entries with
        totalEntries := store.totalEntries -
          (((store.getRelayIdempotencyMap conversationId).map
            (expiredKeys nowMs registered)).getD []).length }
      number by
    obtain ⟨number, sheds⟩ := pruned
    exact ⟨number + 0, sheds.trans (Alike.dropEmptyMap _ conversationId).sheds⟩
  cases found : store.getRelayIdempotencyMap conversationId with
  | none => exact ⟨0, Sheds.updateMap_of_size conversationId fun _ => rfl⟩
  | some entries =>
    have less := size_without_expired nowMs registered entries
    refine ⟨(expiredKeys nowMs registered entries).length, fun other => ?_, ?_, rfl⟩
    · have read := store.getMap_updateMap conversationId other fun kept =>
        (expiredKeys nowMs registered entries).foldl (·.erase ·) kept
      simp only [sizeOf, getRelayIdempotencyMap, Option.map_some, Option.getD_some] at read ⊢
      rw [read]
      by_cases here : other = conversationId
      · have stored : store.relayIdempotencyByConversation.get conversationId = some entries :=
          found
        rw [if_pos here, here, stored]
        exact Nat.le_of_add_right_le less.le
      · rw [if_neg here]
    · have counted := store.storedEntries_updateMap conversationId fun kept =>
        (expiredKeys nowMs registered entries).foldl (·.erase ·) kept
      rw [sizeOf, found] at counted
      simp only [Option.map_some, Option.getD_some] at counted ⊢
      have same : ∀ number, ({ store.updateMap conversationId fun kept =>
          (expiredKeys nowMs registered entries).foldl (·.erase ·) kept with
          totalEntries := number } : RelayIdempotencyStore Frame).storedEntries =
        (store.updateMap conversationId fun kept =>
          (expiredKeys nowMs registered entries).foldl (·.erase ·) kept).storedEntries :=
        fun _ => rfl
      rw [same]
      omega

theorem exists_sheds_foldl {κ : Type} {move : RelayIdempotencyStore Frame → κ →
    RelayIdempotencyStore Frame}
    (sheds : ∀ store key, ∃ number, Sheds store (move store key) number) (keys : List κ)
    (store : RelayIdempotencyStore Frame) : ∃ number, Sheds store
      (keys.foldl move store) number := by
  induction keys generalizing store with
  | nil => exact ⟨0, (Alike.refl store).sheds⟩
  | cons head rest ih =>
    obtain ⟨first, here⟩ := sheds store head
    obtain ⟨more, later⟩ := ih (move store head)
    exact ⟨first + more, here.trans later⟩

/-! ## Runs of the store -/

/-- What is done to the store. Reading is not listed; it changes nothing. -/
inductive StoreAction (Frame : Type) where
  | opens (conversationId : ConversationId)
  | set (conversationId : ConversationId) (clientRequestId : ClientRequestId)
      (entry : RelayIdempotencyEntry Frame)
  /-- An entry is changed in place: a response is attached, a waiter is added. -/
  | change (conversationId : ConversationId) (clientRequestId : ClientRequestId)
      (change : RelayIdempotencyEntry Frame → RelayIdempotencyEntry Frame)
  | remove (conversationId : ConversationId) (clientRequestId : ClientRequestId)
  | clear (conversationId : ConversationId)
  | prune (nowMs : Nat) (registered : RequestId → Bool)
  | pruneWaiter (consumerSocketId : SocketId)

/-- The store after an action. -/
def after (env : Env) (store : RelayIdempotencyStore Frame) :
    StoreAction Frame → RelayIdempotencyStore Frame
  | .opens conversationId => store.getOrCreateRelayIdempotencyMap conversationId
  | .set conversationId clientRequestId entry =>
    (store.setRelayIdempotencyEntry env conversationId clientRequestId entry).1
  | .change conversationId clientRequestId change =>
    store.updateEntry conversationId clientRequestId change
  | .remove conversationId clientRequestId =>
    store.removeRelayIdempotencyEntry conversationId clientRequestId
  | .clear conversationId => store.clearRelayIdempotencyForConversation conversationId
  | .prune nowMs registered => store.pruneExpiredRelayIdempotencyEntries nowMs registered
  | .pruneWaiter consumerSocketId => store.pruneRelayIdempotencyWaiterSocket consumerSocketId

theorem exists_sheds_after (env : Env) (store : RelayIdempotencyStore Frame)
    (action : StoreAction Frame)
    (other : ∀ conversationId clientRequestId entry,
      action ≠ .set conversationId clientRequestId entry) :
    ∃ number, Sheds store (store.after env action) number := by
  cases action with
  | opens conversationId => exact ⟨0, (Alike.getOrCreate store conversationId).sheds⟩
  | set conversationId clientRequestId entry => exact absurd rfl (other _ _ _)
  | change conversationId clientRequestId change =>
    exact ⟨0, Sheds.updateMap_of_size conversationId fun entries =>
      entries.size_modify clientRequestId change⟩
  | remove conversationId clientRequestId =>
    exact store.exists_sheds_remove conversationId clientRequestId
  | clear conversationId => exact store.exists_sheds_clear conversationId
  | prune nowMs registered =>
    exact exists_sheds_foldl (exists_sheds_expire nowMs registered) _ store
  | pruneWaiter consumerSocketId =>
    exact exists_sheds_foldl (fun current conversationId =>
      ⟨0, Sheds.updateMap_of_size conversationId fun entries =>
        entries.size_foldl_modify entries.keys _⟩) _ store

theorem Capped.empty (env : Env) : Capped env ({} : RelayIdempotencyStore Frame) :=
  ⟨fun _ => Nat.zero_le _, fun _ => Nat.zero_le _, Nat.le_refl 0⟩

theorem Capped.after {env : Env} {store : RelayIdempotencyStore Frame} (capped : Capped env store)
    (action : StoreAction Frame) : Capped env (store.after env action) := by
  by_cases inserts : ∃ conversationId clientRequestId entry,
      action = .set conversationId clientRequestId entry
  · obtain ⟨conversationId, clientRequestId, entry, rfl⟩ := inserts
    exact (capped.setOutcome conversationId clientRequestId entry).capped
      (capped.sheds (Alike.getOrCreate store conversationId).sheds)
  · obtain ⟨number, sheds⟩ := store.exists_sheds_after env action fun conversationId
      clientRequestId entry same => inserts ⟨conversationId, clientRequestId, entry, same⟩
    exact capped.sheds sheds

/-- What an action promises: the count is exact, and an entry that was accepted is found. -/
structure Promises (env : Env) (store : RelayIdempotencyStore Frame) (action : StoreAction Frame) :
    Prop where
  exact : (store.after env action).Exact
  retrievable : ∀ conversationId clientRequestId entry,
    action = .set conversationId clientRequestId entry →
    (store.setRelayIdempotencyEntry env conversationId clientRequestId entry).2 = none →
    (store.after env action).getEntry conversationId clientRequestId = some entry

/-- What an action respects: the caps, and the entries in flight. -/
structure Respects (env : Env) (store : RelayIdempotencyStore Frame) (action : StoreAction Frame) :
    Prop where
  capped : Capped env (store.after env action)
  inFlight : ∀ conversationId clientRequestId entry,
    action = .set conversationId clientRequestId entry →
    KeepsInFlight store (store.after env action) conversationId clientRequestId

/-- An action that is not an insertion losing its map. -/
def KeepsMap (env : Env) (store : RelayIdempotencyStore Frame) (action : StoreAction Frame) :
    Prop :=
  ∀ conversationId clientRequestId entry, action = .set conversationId clientRequestId entry →
    ¬LosesMap env store conversationId clientRequestId

theorem promises_iff {env : Env} {store : RelayIdempotencyStore Frame} (capped : Capped env store)
    (exact : store.Exact) (action : StoreAction Frame) :
    KeepsMap env store action ↔ Promises env store action := by
  by_cases inserts : ∃ conversationId clientRequestId entry,
      action = .set conversationId clientRequestId entry
  · obtain ⟨conversationId, clientRequestId, entry, rfl⟩ := inserts
    have decides := accounted_iff capped exact conversationId clientRequestId entry
    constructor
    · intro keeps
      have accounted := decides.mp (keeps conversationId clientRequestId entry rfl)
      refine ⟨accounted.exact, fun _ _ _ same accepted => ?_⟩
      cases same
      exact accounted.retrievable accepted
    · intro promises _ _ _ same
      cases same
      exact decides.mpr ⟨promises.exact, promises.retrievable _ _ _ rfl⟩
  · have other : ∀ conversationId clientRequestId entry,
        action ≠ .set conversationId clientRequestId entry := fun conversationId clientRequestId
      entry same => inserts ⟨conversationId, clientRequestId, entry, same⟩
    obtain ⟨number, sheds⟩ := store.exists_sheds_after env action other
    exact ⟨fun _ => ⟨exact.sheds sheds, fun _ _ _ same => absurd same (other _ _ _)⟩,
      fun _ _ _ _ same => absurd same (other _ _ _)⟩

theorem Capped.respects {env : Env} {store : RelayIdempotencyStore Frame}
    (capped : Capped env store) (action : StoreAction Frame) : Respects env store action := by
  refine ⟨capped.after action, fun conversationId clientRequestId entry same => ?_⟩
  subst same
  intro other otherRequestId old found
  rw [← (Alike.getOrCreate store conversationId).entry] at found
  exact (capped.setOutcome conversationId clientRequestId entry).keepsInFlight other otherRequestId
    old found

/-- In every run of the store the count is exact and accepted entries are found after every action
exactly when no insertion loses its map; the caps and the entries in flight are respected in every
run. -/
theorem idempotency_store_accounts (env : Env) (actions : List (StoreAction Frame)) :
    (Meets (after env) (KeepsMap env) {} actions ↔
      ∀ taken action, taken ++ [action] <+: actions →
        Promises env (run (after env) {} taken) action) ∧
    ∀ taken action, taken ++ [action] <+: actions →
      Respects env (run (after env) {} taken) action := by
  constructor
  · have keeps : ∀ (store : RelayIdempotencyStore Frame) action, Capped env store ∧ store.Exact →
        KeepsMap env store action →
        Capped env (store.after env action) ∧ (store.after env action).Exact :=
      fun store action sound kept => ⟨sound.1.after action,
        ((promises_iff sound.1 sound.2 action).mp kept).exact⟩
    exact meets_iff_every_step (after env) keeps
      (fun store action sound => promises_iff sound.1 sound.2 action)
      ⟨Capped.empty env, rfl⟩ actions
  · intro taken action _
    have capped : Capped env (run (after env) {} taken) :=
      run_invariant (after env) (fun _ next capped => capped.after next) (Capped.empty env) taken
    exact capped.respects action

/-- A hub that keeps one idempotency entry. -/
def singleEntryEnv : Env := { socketRelayIdempotencyMaxTotalEntries := 1 }

/-- Two client requests of one conversation, the first of them answered. -/
def losingActions : List (StoreAction Unit) :=
  [.set "c" "first" { requestId := "r1", expiresAtMs := 300000, responseFrame := some () },
    .set "c" "second" { requestId := "r2", expiresAtMs := 300000 }]

/-- The second request is accepted, counted and not stored. -/
theorem accepted_entry_lost :
    ((run (after singleEntryEnv) {} (losingActions.take 1)).setRelayIdempotencyEntry singleEntryEnv
      "c" "second" { requestId := "r2", expiresAtMs := 300000 }).2 = none ∧
    ((run (after singleEntryEnv) {} losingActions).getEntry "c" "second").isNone = true ∧
    (run (after singleEntryEnv) {} losingActions).totalEntries = 1 ∧
    (run (after singleEntryEnv) {} losingActions).storedEntries = 0 := by
  decide

end PlugHub.Registries.RelayIdempotencyStore
