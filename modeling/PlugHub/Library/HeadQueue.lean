import Mathlib.Data.List.ReduceOption

/-!
# A queue in an array with a moving head

Items are pushed at the end of an array and taken at its head, which moves on and leaves a hole.
When the array holds no more items it is emptied, and when most of it are holes they are cut off.
The array represents the list of the items from the head on.
-/

namespace PlugHub.Library

/-- An array of slots with a head: holes before it, items from it on. -/
structure HeadQueue (α : Type) where
  slots : List (Option α) := []
  head : Nat := 0
  within : head ≤ slots.length := by exact Nat.le_refl 0
  stored : ∀ slot ∈ slots.drop head, slot.isSome = true := by exact nofun
  freed : ∀ slot ∈ slots.take head, slot = none := by exact nofun

namespace HeadQueue

variable {α : Type}

/-- The queue without slots. -/
def empty : HeadQueue α := {}

/-- The items, first to last. -/
def items (queue : HeadQueue α) : List α := (queue.slots.drop queue.head).reduceOption

/-- There is no item left. -/
def isEmpty (queue : HeadQueue α) : Bool := queue.head == queue.slots.length

/-- An item is added at the end. -/
def push (queue : HeadQueue α) (item : α) : HeadQueue α where
  slots := queue.slots ++ [some item]
  head := queue.head
  within := by
    rw [List.length_append]
    exact Nat.le_add_right_of_le queue.within
  stored slot member := by
    rw [List.drop_append_of_le_length queue.within] at member
    rcases List.mem_append.mp member with earlier | last
    · exact queue.stored slot earlier
    · rw [List.mem_singleton.mp last]
      rfl
  freed slot member := by
    rw [List.take_append_of_le_length queue.within] at member
    exact queue.freed slot member

/-- The item at the head is cut out and the head moves on. The array is emptied when it holds no
more items; the holes are cut off when there are `compactFrom` of them and they are half of it. -/
def advance (compactFrom : Nat) (queue : HeadQueue α) (more : queue.head < queue.slots.length) :
    HeadQueue α :=
  if queue.head + 1 = queue.slots.length then {}
  else if compactFrom ≤ queue.head + 1 ∧ queue.slots.length ≤ (queue.head + 1) * 2 then
    { slots := queue.slots.drop (queue.head + 1)
      head := 0
      within := Nat.zero_le _
      stored := fun slot member => queue.stored slot (by
        rw [List.drop_zero] at member
        rw [List.drop_eq_getElem_cons more]
        exact List.mem_cons_of_mem _ member) }
  else
    { slots := queue.slots.set queue.head none
      head := queue.head + 1
      within := by
        rw [List.length_set]
        exact more
      stored := fun slot member => queue.stored slot (by
        rw [List.drop_set_of_lt (Nat.lt_succ_self _)] at member
        rw [List.drop_eq_getElem_cons more]
        exact List.mem_cons_of_mem _ member)
      freed := fun slot member => by
        have inside : queue.head < (queue.slots.set queue.head none).length := by
          rw [List.length_set]
          exact more
        rw [List.take_succ_eq_append_getElem inside, List.getElem_set_self,
          List.take_set_of_le (Nat.le_refl _)] at member
        rcases List.mem_append.mp member with earlier | last
        · exact queue.freed slot earlier
        · exact List.mem_singleton.mp last }

/-- The item at the head is taken. -/
def pop (compactFrom : Nat) (queue : HeadQueue α) : Option (α × HeadQueue α) :=
  if more : queue.head < queue.slots.length then
    (queue.slots.get ⟨queue.head, more⟩).map fun item => (item, queue.advance compactFrom more)
  else none

@[simp] theorem items_empty : (empty : HeadQueue α).items = [] := rfl

@[simp] theorem items_push (queue : HeadQueue α) (item : α) :
    (queue.push item).items = queue.items ++ [item] := by
  unfold items push
  rw [List.drop_append_of_le_length queue.within, List.reduceOption_append]
  rfl

/-- There is no item left exactly when there are no items. -/
theorem isEmpty_iff (queue : HeadQueue α) : queue.isEmpty = true ↔ queue.items = [] := by
  simp only [isEmpty, beq_iff_eq]
  constructor
  · intro ended
    rw [items, ended, List.drop_length]
    rfl
  · intro absent
    by_contra differs
    have more : queue.head < queue.slots.length := Nat.lt_of_le_of_ne queue.within differs
    rw [items, List.drop_eq_getElem_cons more] at absent
    have nonempty := queue.stored queue.slots[queue.head] (by
      rw [List.drop_eq_getElem_cons more]
      exact List.mem_cons_self)
    obtain ⟨item, found⟩ := Option.isSome_iff_exists.mp nonempty
    rw [found, List.reduceOption_cons_of_some] at absent
    cases absent

/-- Moving the head on drops the first item, wherever the items are kept afterwards. -/
theorem items_advance (compactFrom : Nat) (queue : HeadQueue α)
    (more : queue.head < queue.slots.length) :
    (queue.advance compactFrom more).items =
      (queue.slots.drop (queue.head + 1)).reduceOption := by
  unfold advance
  split
  · next ended =>
    rw [ended, List.drop_length]
    rfl
  · split
    · rfl
    · simp only [items]
      rw [List.drop_set_of_lt (Nat.lt_succ_self _)]

/-- What is taken is the first item, and the others stay. -/
theorem pop_spec {compactFrom : Nat} {queue rest : HeadQueue α} {item : α}
    (taken : queue.pop compactFrom = some (item, rest)) : queue.items = item :: rest.items := by
  unfold pop at taken
  split at taken
  · next more =>
    obtain ⟨found, stored, equal⟩ := Option.map_eq_some_iff.mp taken
    obtain ⟨rfl, rfl⟩ := Prod.mk.inj equal
    rw [List.get_eq_getElem] at stored
    rw [items_advance, items, List.drop_eq_getElem_cons more, stored,
      List.reduceOption_cons_of_some]
  · cases taken

theorem pop_isSome (compactFrom : Nat) {queue : HeadQueue α} (nonempty : queue.items ≠ []) :
    (queue.pop compactFrom).isSome = true := by
  have more : queue.head < queue.slots.length :=
    Nat.lt_of_le_of_ne queue.within fun ended => nonempty (queue.isEmpty_iff.mp (beq_iff_eq.mpr ended))
  have stored := queue.stored queue.slots[queue.head] (by
    rw [List.drop_eq_getElem_cons more]
    exact List.mem_cons_self)
  unfold pop
  rw [dif_pos more, Option.isSome_map]
  exact stored

end HeadQueue

end PlugHub.Library
