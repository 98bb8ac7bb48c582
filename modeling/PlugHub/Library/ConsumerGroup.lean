import Mathlib.Data.List.Pairwise
import Mathlib.Order.Lattice

/-!
# Consumer groups

A consumer group of a stream of messages with increasing ids, as its documentation has it: what was
delivered to a consumer stays pending for it until it is acknowledged, a consumer reads what is
pending for it and then what is fresh, and claims what has been idle for others long enough. A
pending message may have left the stream; it is then listed without its content, and forgotten when
a claim comes across it. Ids are in the order of the stream everywhere, and nothing but an
acknowledgement takes a message that is in the stream from the pending ones.
-/

namespace PlugHub.Library

/-- A message that was delivered to a consumer. -/
structure PendingEntry (Id Consumer Message : Type) where
  id : Id
  consumer : Consumer
  deliveredAt : Nat
  message : Option Message

/-- An id is at most the last one. -/
def AtMost {Id : Type} [LE Id] (last : Option Id) (id : Id) : Prop :=
  ∃ top, last = some top ∧ id ≤ top

/-- A consumer group. -/
structure ConsumerGroup (Id Consumer Message : Type) [LinearOrder Id] where
  pending : List (PendingEntry Id Consumer Message)
  fresh : List (Id × Message)
  lastId : Option Id
  ordered : (pending.map PendingEntry.id ++ fresh.map Prod.fst).Pairwise (· < ·)
  within : ∀ id ∈ pending.map PendingEntry.id ++ fresh.map Prod.fst, AtMost lastId id

namespace ConsumerGroup

variable {Id Consumer Message : Type}

/-! ## Entries -/

/-- How an entry is listed. -/
def listed (entry : PendingEntry Id Consumer Message) : Id × Option Message :=
  (entry.id, entry.message)

/-- An entry that is listed with its message is delivered again. -/
def redeliver [DecidableEq Id] (ids : List Id) (now : Nat)
    (entry : PendingEntry Id Consumer Message) :
    PendingEntry Id Consumer Message :=
  if entry.id ∈ ids ∧ entry.message.isSome then { entry with deliveredAt := now } else entry

@[simp] theorem redeliver_id [DecidableEq Id] (ids : List Id) (now : Nat)
    (entry : PendingEntry Id Consumer Message) : (redeliver ids now entry).id = entry.id := by
  unfold redeliver
  split <;> rfl

@[simp] theorem redeliver_consumer [DecidableEq Id] (ids : List Id) (now : Nat)
    (entry : PendingEntry Id Consumer Message) :
    (redeliver ids now entry).consumer = entry.consumer := by
  unfold redeliver
  split <;> rfl

@[simp] theorem redeliver_message [DecidableEq Id] (ids : List Id) (now : Nat)
    (entry : PendingEntry Id Consumer Message) :
    (redeliver ids now entry).message = entry.message := by
  unfold redeliver
  split <;> rfl

/-- Go through entries, so many at most, and claim so many at most of those that are idle. Those
that are no longer in the stream are forgotten, and count as claimed. -/
def claimEntries (consumer : Consumer) (minIdle now : Nat) :
    Nat → Nat → List (PendingEntry Id Consumer Message) →
      List (PendingEntry Id Consumer Message) × List (Id × Message)
  | attempts + 1, count + 1, entry :: rest =>
    match entry.message with
    | none => claimEntries consumer minIdle now attempts count rest
    | some message =>
      if now - entry.deliveredAt < minIdle then
        let later := claimEntries consumer minIdle now attempts (count + 1) rest
        (entry :: later.1, later.2)
      else
        let later := claimEntries consumer minIdle now attempts count rest
        ({ entry with consumer := consumer, deliveredAt := now } :: later.1,
          (entry.id, message) :: later.2)
  | _, _, entries => (entries, [])

section

variable (consumer : Consumer)

include consumer

variable (minIdle now : Nat) (attempts count : Nat)

variable (entries : List (PendingEntry Id Consumer Message))

/-- The ids that are left are among those that were there, in their order. -/
theorem claimEntries_ids :
    ((claimEntries consumer minIdle now attempts count entries).1.map PendingEntry.id).Sublist
      (entries.map PendingEntry.id) := by
  fun_induction claimEntries consumer minIdle now attempts count entries with
  | case1 attempts count entry rest gone ih => exact ih.cons _
  | case2 attempts count entry rest message there young later ih
  | case3 attempts count entry rest message there idle later ih => exact ih.cons_cons _
  | case4 attempts count entries ended => exact List.Sublist.refl _

theorem claimEntries_claims :
    ((claimEntries consumer minIdle now attempts count entries).2.map Prod.fst).Sublist
      (entries.map PendingEntry.id) := by
  fun_induction claimEntries consumer minIdle now attempts count entries with
  | case1 attempts count entry rest gone ih
  | case2 attempts count entry rest message there young later ih => exact ih.cons _
  | case3 attempts count entry rest message there idle later ih => exact ih.cons_cons _
  | case4 attempts count entries ended => exact List.nil_sublist _

theorem claimEntries_length :
    (claimEntries consumer minIdle now attempts count entries).2.length ≤ count := by
  fun_induction claimEntries consumer minIdle now attempts count entries with
  | case1 attempts count entry rest gone ih => omega
  | case2 attempts count entry rest message there young later ih => exact ih
  | case3 attempts count entry rest message there idle later ih =>
    rw [List.length_cons]
    exact Nat.succ_le_succ ih
  | case4 attempts count entries ended => exact Nat.zero_le _

/-- What is claimed is pending for the consumer. -/
theorem claimEntries_pending {id : Id} {message : Message}
    (claimed : (id, message) ∈ (claimEntries consumer minIdle now attempts count entries).2) :
    ∃ entry ∈ (claimEntries consumer minIdle now attempts count entries).1,
      entry.id = id ∧ entry.consumer = consumer ∧ entry.message = some message := by
  fun_induction claimEntries consumer minIdle now attempts count entries with
  | case1 attempts count entry rest gone ih => exact ih claimed
  | case2 attempts count entry rest message' there young later ih =>
    obtain ⟨found, member, same⟩ := ih claimed
    exact ⟨found, List.mem_cons_of_mem entry member, same⟩
  | case3 attempts count entry rest message' there idle later ih =>
    cases List.mem_cons.mp claimed with
    | inl same =>
      obtain ⟨rfl, rfl⟩ := Prod.mk.inj same
      exact ⟨_, List.mem_cons_self, rfl, rfl, there⟩
    | inr other =>
      obtain ⟨found, member, same⟩ := ih other
      exact ⟨found, List.mem_cons_of_mem _ member, same⟩
  | case4 attempts count entries ended => cases claimed

/-- What is in the stream stays pending, for its consumer or for the one that claims it. -/
theorem claimEntries_keeps {entry : PendingEntry Id Consumer Message}
    (pending : entry ∈ entries) (there : entry.message.isSome = true) :
    ∃ kept ∈ (claimEntries consumer minIdle now attempts count entries).1,
      kept.id = entry.id ∧ kept.message = entry.message := by
  fun_induction claimEntries consumer minIdle now attempts count entries with
  | case1 attempts count first rest gone ih =>
    cases List.mem_cons.mp pending with
    | inl same =>
      rw [same, gone] at there
      cases there
    | inr other => exact ih other
  | case2 attempts count first rest message some young later ih =>
    cases List.mem_cons.mp pending with
    | inl same => exact ⟨first, List.mem_cons_self, by rw [same], by rw [same]⟩
    | inr other =>
      obtain ⟨kept, member, same⟩ := ih other
      exact ⟨kept, List.mem_cons_of_mem first member, same⟩
  | case3 attempts count first rest message some idle later ih =>
    cases List.mem_cons.mp pending with
    | inl same => exact ⟨_, List.mem_cons_self, by rw [same], by rw [same]⟩
    | inr other =>
      obtain ⟨kept, member, same⟩ := ih other
      exact ⟨kept, List.mem_cons_of_mem _ member, same⟩
  | case4 attempts count entries ended => exact ⟨entry, pending, rfl, rfl⟩

/-- What is pending after others are claimed was pending. -/
theorem claimEntries_from {entry : PendingEntry Id Consumer Message}
    (left : entry ∈ (claimEntries consumer minIdle now attempts count entries).1) :
    ∃ before ∈ entries, before.id = entry.id ∧ before.message = entry.message := by
  fun_induction claimEntries consumer minIdle now attempts count entries with
  | case1 attempts count first rest gone ih =>
    obtain ⟨before, member, same⟩ := ih left
    exact ⟨before, List.mem_cons_of_mem first member, same⟩
  | case2 attempts count first rest message some young later ih
  | case3 attempts count first rest message some idle later ih =>
    cases List.mem_cons.mp left with
    | inl same => exact ⟨first, List.mem_cons_self, by rw [same], by rw [same]⟩
    | inr other =>
      obtain ⟨before, member, same⟩ := ih other
      exact ⟨before, List.mem_cons_of_mem first member, same⟩
  | case4 attempts count entries ended => exact ⟨entry, left, rfl, rfl⟩

end

/-! ## Commands -/

variable [LinearOrder Id]

/-- What is pending for a consumer. -/
def ownPending [DecidableEq Consumer] (group : ConsumerGroup Id Consumer Message)
    (consumer : Consumer) : List (PendingEntry Id Consumer Message) :=
  group.pending.filter fun entry => entry.consumer = consumer

theorem map_redeliver_id (entries : List (PendingEntry Id Consumer Message)) (ids : List Id)
    (now : Nat) : (entries.map (redeliver ids now)).map PendingEntry.id =
      entries.map PendingEntry.id := by
  rw [List.map_map]
  apply List.map_congr_left
  intro entry _
  exact redeliver_id ids now entry

/-- Read what is pending for a consumer, from the first id, up to a number of messages. -/
def readPending [DecidableEq Consumer] (group : ConsumerGroup Id Consumer Message)
    (consumer : Consumer) (count now : Nat) :
    ConsumerGroup Id Consumer Message × List (Id × Option Message) :=
  let taken := (group.ownPending consumer).take count
  ({ group with
      pending := group.pending.map (redeliver (taken.map PendingEntry.id) now)
      ordered := by
        rw [map_redeliver_id]
        exact group.ordered
      within := by
        rw [map_redeliver_id]
        exact group.within },
    taken.map listed)

/-- Claim for a consumer, from the first id, what others have not acknowledged for long enough, up
to a number of messages; ten times as many entries are looked at. -/
def autoClaim (group : ConsumerGroup Id Consumer Message) (consumer : Consumer)
    (minIdle count now : Nat) : ConsumerGroup Id Consumer Message × List (Id × Message) :=
  ({ group with
      pending := (claimEntries consumer minIdle now (count * 10) count group.pending).1
      ordered := group.ordered.sublist
        ((claimEntries_ids consumer minIdle now (count * 10) count group.pending).append_right _)
      within := fun id member => group.within id
        (((claimEntries_ids consumer minIdle now (count * 10) count group.pending).append_right
          _).subset member) },
    (claimEntries consumer minIdle now (count * 10) count group.pending).2)

/-- A message that is delivered. -/
def deliver (consumer : Consumer) (now : Nat) (entry : Id × Message) :
    PendingEntry Id Consumer Message where
  id := entry.1
  consumer := consumer
  deliveredAt := now
  message := some entry.2

theorem ids_deliver (group : ConsumerGroup Id Consumer Message) (consumer : Consumer)
    (count now : Nat) :
    (group.pending ++ (group.fresh.take count).map (deliver consumer now)).map PendingEntry.id ++
        (group.fresh.drop count).map Prod.fst =
      group.pending.map PendingEntry.id ++ group.fresh.map Prod.fst := by
  have delivered : ((group.fresh.take count).map (deliver consumer now)).map PendingEntry.id =
      (group.fresh.take count).map Prod.fst := by
    rw [List.map_map]
    rfl
  rw [List.map_append, delivered, List.append_assoc, ← List.map_append, List.take_append_drop]

/-- Read what was not delivered yet, up to a number of messages. -/
def readFresh (group : ConsumerGroup Id Consumer Message) (consumer : Consumer) (count now : Nat) :
    ConsumerGroup Id Consumer Message × List (Id × Message) :=
  ({ group with
      pending := group.pending ++ (group.fresh.take count).map (deliver consumer now)
      fresh := group.fresh.drop count
      ordered := by
        rw [ids_deliver]
        exact group.ordered
      within := by
        rw [ids_deliver]
        exact group.within },
    group.fresh.take count)

/-- Acknowledge messages. -/
def ack (group : ConsumerGroup Id Consumer Message) (ids : List Id) :
    ConsumerGroup Id Consumer Message :=
  { group with
    pending := group.pending.filter fun entry => entry.id ∉ ids
    ordered := group.ordered.sublist ((List.filter_sublist.map _).append_right _)
    within := fun id member => group.within id
      (((List.filter_sublist.map _).append_right _).subset member) }

/-- Append a message with a greater id than the last one; another id is refused. -/
def append (group : ConsumerGroup Id Consumer Message) (id : Id) (message : Message) :
    ConsumerGroup Id Consumer Message :=
  if greater : ∀ last ∈ group.lastId, last < id then
    { group with
      fresh := group.fresh ++ [(id, message)]
      lastId := some id
      ordered := by
        rw [List.map_append, ← List.append_assoc, List.pairwise_append]
        refine ⟨group.ordered, List.pairwise_singleton _ _, ?_⟩
        intro other member last only
        rw [List.map_singleton, List.mem_singleton] at only
        obtain ⟨top, same, most⟩ := group.within other member
        rw [only]
        exact lt_of_le_of_lt most (greater top same)
      within := by
        intro other member
        rw [List.map_append, ← List.append_assoc, List.mem_append] at member
        cases member with
        | inl before =>
          obtain ⟨top, same, most⟩ := group.within other before
          exact ⟨id, rfl, le_of_lt (lt_of_le_of_lt most (greater top same))⟩
        | inr only =>
          rw [List.map_singleton, List.mem_singleton] at only
          exact ⟨id, rfl, le_of_eq only⟩ }
  else group

/-! ## What stays pending -/

/-- A message is pending for a consumer. -/
def PendingFor (group : ConsumerGroup Id Consumer Message) (consumer : Consumer) (id : Id)
    (message : Message) : Prop :=
  ∃ entry ∈ group.pending, entry.id = id ∧ entry.consumer = consumer ∧
    entry.message = some message

/-- A message is pending. -/
def Holds (group : ConsumerGroup Id Consumer Message) (id : Id) (message : Message) : Prop :=
  ∃ consumer, group.PendingFor consumer id message

variable {id : Id} {message : Message}

/-- What is pending for a consumer stays so while one reads what is pending for it. -/
theorem pendingFor_readPending [DecidableEq Consumer] {group : ConsumerGroup Id Consumer Message}
    {owner : Consumer} (pending : group.PendingFor owner id message)
    (consumer : Consumer) (count now : Nat) :
    (group.readPending consumer count now).1.PendingFor owner id message := by
  obtain ⟨entry, member, same, owned, there⟩ := pending
  refine ⟨_, List.mem_map_of_mem member, ?_⟩
  rw [redeliver_id, redeliver_consumer, redeliver_message]
  exact ⟨same, owned, there⟩

/-- What is pending stays pending while a consumer reads what is pending for it. -/
theorem holds_readPending [DecidableEq Consumer] {group : ConsumerGroup Id Consumer Message}
    (holds : group.Holds id message) (consumer : Consumer)
    (count now : Nat) : (group.readPending consumer count now).1.Holds id message := by
  obtain ⟨owner, pending⟩ := holds
  exact ⟨owner, pendingFor_readPending pending consumer count now⟩

/-- What is pending stays pending while a consumer claims, for its consumer or for this one. -/
theorem holds_autoClaim {group : ConsumerGroup Id Consumer Message}
    (holds : group.Holds id message) (consumer : Consumer) (minIdle count now : Nat) :
    (group.autoClaim consumer minIdle count now).1.Holds id message := by
  obtain ⟨owner, entry, pending, same, _, there⟩ := holds
  obtain ⟨kept, member, same', there'⟩ := claimEntries_keeps consumer minIdle now (count * 10) count
    group.pending pending (by rw [there]; rfl)
  exact ⟨kept.consumer, kept, member, same'.trans same, rfl, there'.trans there⟩

theorem holds_readFresh {group : ConsumerGroup Id Consumer Message}
    (holds : group.Holds id message) (consumer : Consumer) (count now : Nat) :
    (group.readFresh consumer count now).1.Holds id message := by
  obtain ⟨owner, entry, pending, same⟩ := holds
  exact ⟨owner, entry, List.mem_append_left _ pending, same⟩

theorem pendingFor_ack {group : ConsumerGroup Id Consumer Message} {owner : Consumer}
    (pending : group.PendingFor owner id message) {ids : List Id}
    (other : id ∉ ids) : (group.ack ids).PendingFor owner id message := by
  obtain ⟨entry, member, same, owned, there⟩ := pending
  refine ⟨entry, List.mem_filter.mpr ⟨member, ?_⟩, same, owned, there⟩
  rw [same]
  exact decide_eq_true other

theorem holds_ack {group : ConsumerGroup Id Consumer Message}
    (holds : group.Holds id message) {ids : List Id} (other : id ∉ ids) :
    (group.ack ids).Holds id message := by
  obtain ⟨owner, pending⟩ := holds
  exact ⟨owner, pendingFor_ack pending other⟩

theorem holds_append {group : ConsumerGroup Id Consumer Message}
    (holds : group.Holds id message) (next : Id) (content : Message) :
    (group.append next content).Holds id message := by
  unfold append
  split
  · exact holds
  · exact holds

/-! ## What is handed over -/

variable {consumer : Consumer}

theorem holds_of_readPending [DecidableEq Consumer] {group : ConsumerGroup Id Consumer Message}
    {count now : Nat} (given : (id, some message) ∈ (group.readPending consumer count now).2) :
    (group.readPending consumer count now).1.Holds id message := by
  obtain ⟨entry, member, same⟩ := List.mem_map.mp given
  obtain ⟨rfl, there⟩ := Prod.mk.inj same
  have pending := (List.mem_filter.mp (List.mem_of_mem_take member)).1
  exact holds_readPending ⟨entry.consumer, entry, pending, rfl, rfl, there⟩ consumer count now

theorem holds_of_autoClaim {group : ConsumerGroup Id Consumer Message} {minIdle count now : Nat}
    (given : (id, message) ∈ (group.autoClaim consumer minIdle count now).2) :
    (group.autoClaim consumer minIdle count now).1.Holds id message :=
  ⟨consumer, claimEntries_pending consumer minIdle now (count * 10) count group.pending given⟩

theorem holds_of_readFresh {group : ConsumerGroup Id Consumer Message}
    {count now : Nat} (given : (id, message) ∈ (group.readFresh consumer count now).2) :
    (group.readFresh consumer count now).1.Holds id message :=
  ⟨consumer, deliver consumer now (id, message),
    List.mem_append_right _ (List.mem_map_of_mem given), rfl, rfl, rfl⟩

theorem pending_ordered (group : ConsumerGroup Id Consumer Message) :
    (group.pending.map PendingEntry.id).Pairwise (· < ·) :=
  (List.pairwise_append.mp group.ordered).1

theorem pending_before_fresh (group : ConsumerGroup Id Consumer Message) {id next : Id}
    (pending : id ∈ group.pending.map PendingEntry.id) (fresh : next ∈ group.fresh.map Prod.fst) :
    id < next :=
  (List.pairwise_append.mp group.ordered).2.2 id pending next fresh

/-- What is listed is among what is pending, in its order. -/
theorem readPending_sublist [DecidableEq Consumer] (group : ConsumerGroup Id Consumer Message)
    (consumer : Consumer) (count now : Nat) :
    ((group.readPending consumer count now).2.map Prod.fst).Sublist
      (group.pending.map PendingEntry.id) := by
  have ids : (group.readPending consumer count now).2.map Prod.fst =
      ((group.ownPending consumer).take count).map PendingEntry.id := by
    unfold readPending
    rw [List.map_map]
    rfl
  rw [ids]
  exact ((List.take_sublist count _).trans List.filter_sublist).map _

theorem readPending_length [DecidableEq Consumer] (group : ConsumerGroup Id Consumer Message)
    (consumer : Consumer) (count now : Nat) :
    (group.readPending consumer count now).2.length ≤ count := by
  unfold readPending
  rw [List.length_map, List.length_take]
  exact Nat.min_le_left _ _

/-! ## What is pending for one consumer -/

/-- What is pending for a consumer after it read some of it. -/
theorem ownPending_readPending [DecidableEq Consumer] (group : ConsumerGroup Id Consumer Message)
    (consumer : Consumer) (count now : Nat) :
    (group.readPending consumer count now).1.ownPending consumer =
      (group.ownPending consumer).map
        (redeliver (((group.ownPending consumer).take count).map PendingEntry.id) now) := by
  unfold readPending
  simp only
  rw [ownPending, List.filter_map]
  congr 1
  apply List.filter_congr
  intro entry _
  rw [Function.comp_apply, redeliver_consumer]

/-- What is pending for a consumer after some of it is acknowledged. -/
theorem ownPending_ack [DecidableEq Consumer] (group : ConsumerGroup Id Consumer Message)
    (consumer : Consumer) (ids : List Id) :
    (group.ack ids).ownPending consumer =
      (group.ownPending consumer).filter fun entry => entry.id ∉ ids := by
  unfold ownPending ack
  simp only
  rw [List.filter_filter, List.filter_filter]
  apply List.filter_congr
  intro entry _
  rw [Bool.and_comm]

/-- An acknowledgement of something that is pending for a consumer leaves it less. -/
theorem length_ownPending_ack [DecidableEq Consumer] (group : ConsumerGroup Id Consumer Message)
    (consumer : Consumer) (ids : List Id)
    (some : ∃ entry ∈ group.ownPending consumer, entry.id ∈ ids) :
    ((group.ack ids).ownPending consumer).length < (group.ownPending consumer).length := by
  obtain ⟨entry, member, acked⟩ := some
  rw [ownPending_ack]
  apply List.length_filter_lt_length_iff_exists.mpr
  exact ⟨entry, member, by simp [acked]⟩

/-! ## What all messages have in common -/

/-- Everything pending is in the stream, and it and everything fresh has something. -/
def All (good : Id → Message → Prop) (group : ConsumerGroup Id Consumer Message) : Prop :=
  (∀ entry ∈ group.pending, ∃ message, entry.message = some message ∧ good entry.id message) ∧
    ∀ message ∈ group.fresh, good message.1 message.2

variable {good : Id → Message → Prop} {group : ConsumerGroup Id Consumer Message}

variable (all : All good group)

include all

theorem All.readPending [DecidableEq Consumer] (consumer : Consumer)
    (count now : Nat) : All good (group.readPending consumer count now).1 := by
  refine ⟨?_, all.2⟩
  intro entry member
  obtain ⟨before, pending, rfl⟩ := List.mem_map.mp member
  rw [redeliver_id, redeliver_message]
  exact all.1 before pending

theorem All.autoClaim (consumer : Consumer) (minIdle count now : Nat) :
    All good (group.autoClaim consumer minIdle count now).1 := by
  refine ⟨?_, all.2⟩
  intro entry member
  obtain ⟨before, pending, same, there⟩ := claimEntries_from _ _ _ _ _ _ member
  rw [← same, ← there]
  exact all.1 before pending

theorem All.readFresh (consumer : Consumer) (count now : Nat) :
    All good (group.readFresh consumer count now).1 := by
  constructor
  · intro entry member
    cases List.mem_append.mp member with
    | inl old => exact all.1 entry old
    | inr new =>
      obtain ⟨message, fresh, rfl⟩ := List.mem_map.mp new
      exact ⟨message.2, rfl, all.2 message (List.mem_of_mem_take fresh)⟩
  · intro message member
    exact all.2 message (List.mem_of_mem_drop member)

theorem All.ack (ids : List Id) : All good (group.ack ids) :=
  ⟨fun entry member => all.1 entry (List.mem_filter.mp member).1, all.2⟩

theorem All.append (holds : good id message) :
    All good (group.append id message) := by
  unfold ConsumerGroup.append
  split
  · refine ⟨all.1, ?_⟩
    intro other member
    cases List.mem_append.mp member with
    | inl old => exact all.2 other old
    | inr new =>
      rw [List.mem_singleton.mp new]
      exact holds
  · exact all

end ConsumerGroup

end PlugHub.Library
