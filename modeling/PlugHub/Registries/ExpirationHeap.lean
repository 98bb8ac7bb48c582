import Mathlib.Logic.Equiv.Basic
import PlugHub.Library.HeapOrder
import PlugHub.Library.OrderedMap
import PlugHub.Library.Runs

/-!
# The heap of expirations

`IndexedExpirationHeap` keeps one node for each key in a binary heap ordered by expiry, and a map
from the keys to the positions of their nodes. Two nodes are exchanged together with their
positions, and a node that was put in the middle goes up or down from there.

What the nodes represent is the last expiry that was set for each key. The stores of the repository
take expired keys one after the other until there is none.
-/

namespace PlugHub.ExpirationHeap

open Library
open Library.HeapOrder (parent Ordered Holed HoledAbove HoledBelow exchange)

/-- `Expiration`. -/
structure Expiration (κ : Type) where
  key : κ
  expiresAtMs : Int

/-- `IndexedExpirationHeap`. -/
structure IndexedExpirationHeap (κ : Type) [DecidableEq κ] where
  nodes : List (Expiration κ) := []
  positions : OrderedMap κ Nat := .empty

namespace IndexedExpirationHeap

variable {κ : Type} [DecidableEq κ]

/-- The expiry of the node at a position; nobody asks for it where there is none. -/
def expiryAt (nodes : List (Expiration κ)) (position : Nat) : Int :=
  (nodes[position]?.map (·.expiresAtMs)).getD 0

section Operations

variable (heap : IndexedExpirationHeap κ)

/-- `size`. -/
def size : Nat := heap.nodes.length

/-- `peek`. -/
def peek : Option (Expiration κ) := heap.nodes[0]?

/-- `swap`. -/
def swap (a b : Nat) : IndexedExpirationHeap κ :=
  match heap.nodes[a]?, heap.nodes[b]? with
  | some left, some right =>
    { nodes := (heap.nodes.set a right).set b left
      positions := (heap.positions.set right.key a).set left.key b }
  | _, _ => heap

@[simp] theorem length_swap (a b : Nat) : (heap.swap a b).nodes.length = heap.nodes.length := by
  unfold swap
  split
  · rw [List.length_set, List.length_set]
  · rfl

/-- `up`: the heap, and where the node comes to be. -/
def up (heap : IndexedExpirationHeap κ) (position : Nat) : IndexedExpirationHeap κ × Nat :=
  if 0 < position then
    if expiryAt heap.nodes (parent position) ≤ expiryAt heap.nodes position then (heap, position)
    else up (heap.swap (parent position) position) (parent position)
  else (heap, position)
termination_by position
decreasing_by exact HeapOrder.parent_lt ‹_›

/-- Of a position and one of its children, the one that expires first. -/
def smaller (nodes : List (Expiration κ)) (child smallest : Nat) : Nat :=
  if child < nodes.length ∧ expiryAt nodes child < expiryAt nodes smallest then child else smallest

/-- Of a position and its children, the one that expires first. -/
def smallestOf (nodes : List (Expiration κ)) (position : Nat) : Nat :=
  smaller nodes (position * 2 + 2) (smaller nodes (position * 2 + 1) position)

omit [DecidableEq κ] in
theorem smallestOf_cases (nodes : List (Expiration κ)) (position : Nat) :
    smallestOf nodes position = position ∨
      0 < smallestOf nodes position ∧ smallestOf nodes position < nodes.length ∧
        parent (smallestOf nodes position) = position := by
  unfold smallestOf smaller parent
  split_ifs
  · right; omega
  · right; omega
  · right; omega
  · left; rfl

/-- `down`. -/
def down (heap : IndexedExpirationHeap κ) (position : Nat) : IndexedExpirationHeap κ :=
  if smallestOf heap.nodes position = position then heap
  else
    down (heap.swap position (smallestOf heap.nodes position)) (smallestOf heap.nodes position)
termination_by heap.nodes.length - position
decreasing_by
  have child := (smallestOf_cases heap.nodes position).resolve_left ‹_›
  have later := HeapOrder.parent_lt child.1
  rw [child.2.2] at later
  rw [length_swap]
  omega

/-- `set`. -/
def set (key : κ) (expiresAtMs : Int) : IndexedExpirationHeap κ :=
  match heap.positions.get key with
  | none =>
    let pushed : IndexedExpirationHeap κ :=
      { nodes := heap.nodes ++ [⟨key, expiresAtMs⟩]
        positions := heap.positions.set key heap.nodes.length }
    (pushed.up heap.nodes.length).1
  | some position =>
    let changed := { heap with nodes := heap.nodes.set position ⟨key, expiresAtMs⟩ }
    (changed.up position).1.down (changed.up position).2

/-- `delete`. -/
def delete (key : κ) : IndexedExpirationHeap κ :=
  match heap.positions.get key, heap.nodes.getLast? with
  | some position, some last =>
    let popped : IndexedExpirationHeap κ :=
      { nodes := heap.nodes.dropLast, positions := heap.positions.erase key }
    if position < popped.nodes.length then
      let moved : IndexedExpirationHeap κ :=
        { nodes := popped.nodes.set position last
          positions := popped.positions.set last.key position }
      (moved.up position).1.down (moved.up position).2
    else popped
  | _, _ => heap

/-- `takeExpired`. -/
def takeExpired (nowMs : Int) : Option κ × IndexedExpirationHeap κ :=
  match heap.peek with
  | none => (none, heap)
  | some first =>
    if nowMs < first.expiresAtMs then (none, heap) else (some first.key, heap.delete first.key)

/-- `clear`. -/
def clear : IndexedExpirationHeap κ := {}

/-- The loop of the stores: so many keys are taken, or all that have expired. -/
def takeEach (nowMs : Int) : Nat → IndexedExpirationHeap κ → List κ × IndexedExpirationHeap κ
  | 0, heap => ([], heap)
  | count + 1, heap =>
    match heap.takeExpired nowMs with
    | (none, heap) => ([], heap)
    | (some key, heap) =>
      let (keys, rest) := takeEach nowMs count heap
      (key :: keys, rest)

end Operations

/-! ## What the nodes represent -/

/-- The positions are those of the nodes, and the nodes are the expiries of the keys. -/
structure Represents (heap : IndexedExpirationHeap κ) (latest : κ → Option Int) : Prop where
  indexed : ∀ key position, heap.positions.get key = some position ↔
    ∃ expiresAtMs, heap.nodes[position]? = some ⟨key, expiresAtMs⟩
  contents : ∀ key expiresAtMs, latest key = some expiresAtMs ↔ ⟨key, expiresAtMs⟩ ∈ heap.nodes

/-- The nodes are ordered by expiry. -/
def IsHeap (heap : IndexedExpirationHeap κ) : Prop :=
  Ordered (expiryAt heap.nodes) heap.nodes.length

section Swap

variable {heap : IndexedExpirationHeap κ} {latest : κ → Option Int}

omit [DecidableEq κ] in
theorem expiryAt_of_get {nodes : List (Expiration κ)} {position : Nat} {node : Expiration κ}
    (found : nodes[position]? = some node) : expiryAt nodes position = node.expiresAtMs := by
  rw [expiryAt, found]
  rfl

theorem Represents.position_unique (represents : heap.Represents latest) {first second : Nat}
    {one other : Expiration κ} (left : heap.nodes[first]? = some one)
    (right : heap.nodes[second]? = some other) (same : one.key = other.key) : first = second := by
  have here := (represents.indexed one.key first).mpr ⟨one.expiresAtMs, left⟩
  have there := (represents.indexed other.key second).mpr ⟨other.expiresAtMs, right⟩
  rw [same, there] at here
  exact (Option.some.inj here).symm

variable {a b : Nat}

theorem getElem?_swap (left : a < heap.nodes.length) (right : b < heap.nodes.length)
    (position : Nat) : (heap.swap a b).nodes[position]? = heap.nodes[Equiv.swap a b position]? := by
  have first := List.getElem?_eq_getElem left
  have second := List.getElem?_eq_getElem right
  simp only [swap, first, second]
  rw [Equiv.swap_apply_def]
  by_cases isB : position = b
  · subst isB
    rw [List.getElem?_set_self (by rwa [List.length_set]), if_pos rfl]
    split_ifs with same
    · subst same
      exact second.symm
    · exact first.symm
  · rw [List.getElem?_set_ne (Ne.symm isB), if_neg isB]
    by_cases isA : position = a
    · subst isA
      rw [List.getElem?_set_self left, if_pos rfl]
      exact second.symm
    · rw [List.getElem?_set_ne (Ne.symm isA), if_neg isA]

theorem expiryAt_swap (left : a < heap.nodes.length) (right : b < heap.nodes.length) :
    expiryAt (heap.swap a b).nodes = exchange (expiryAt heap.nodes) a b := by
  funext position
  rw [expiryAt, getElem?_swap left right, Equiv.swap_apply_def]
  unfold exchange expiryAt
  split_ifs
  · rfl
  · rfl
  · rfl

theorem positions_swap (represents : heap.Represents latest)
    (left : a < heap.nodes.length) (right : b < heap.nodes.length) (key : κ) :
    (heap.swap a b).positions.get key = (heap.positions.get key).map (Equiv.swap a b) := by
  have first := List.getElem?_eq_getElem left
  have second := List.getElem?_eq_getElem right
  have atFirst := (represents.indexed heap.nodes[a].key a).mpr ⟨_, first⟩
  have atSecond := (represents.indexed heap.nodes[b].key b).mpr ⟨_, second⟩
  simp only [swap, first, second]
  rw [OrderedMap.get_set]
  split_ifs with isLeft
  · rw [isLeft, atFirst, Option.map_some, Equiv.swap_apply_left]
  · rw [OrderedMap.get_set]
    split_ifs with isRight
    · rw [isRight, atSecond, Option.map_some, Equiv.swap_apply_right]
    · cases found : heap.positions.get key with
      | none => rfl
      | some position =>
        obtain ⟨expiresAtMs, node⟩ := (represents.indexed key position).mp found
        have notA : position ≠ a := by
          rintro rfl
          rw [first] at node
          exact isLeft (congrArg Expiration.key (Option.some.inj node)).symm
        have notB : position ≠ b := by
          rintro rfl
          rw [second] at node
          exact isRight (congrArg Expiration.key (Option.some.inj node)).symm
        rw [Option.map_some, Equiv.swap_apply_of_ne_of_ne notA notB]

theorem Represents.swap (represents : heap.Represents latest)
    (left : a < heap.nodes.length) (right : b < heap.nodes.length) :
    (heap.swap a b).Represents latest := by
  constructor
  · intro key position
    rw [positions_swap represents left right, getElem?_swap left right, ← represents.indexed,
      Option.map_eq_some_iff]
    constructor
    · rintro ⟨before, found, rfl⟩
      rwa [Equiv.swap_apply_self]
    · intro found
      exact ⟨_, found, Equiv.swap_apply_self a b position⟩
  · intro key expiresAtMs
    rw [represents.contents, List.mem_iff_getElem?, List.mem_iff_getElem?]
    constructor
    · rintro ⟨position, found⟩
      exact ⟨Equiv.swap a b position, by rwa [getElem?_swap left right, Equiv.swap_apply_self]⟩
    · rintro ⟨position, found⟩
      exact ⟨Equiv.swap a b position, by rwa [getElem?_swap left right] at found⟩

end Swap

/-! ## Sifting -/

section Sift

variable {heap : IndexedExpirationHeap κ} {latest : κ → Option Int}

variable {position : Nat}

theorem up_spec (represents : heap.Represents latest) (inside : position < heap.nodes.length) :
    (heap.up position).1.Represents latest ∧
      (heap.up position).1.nodes.length = heap.nodes.length ∧
      (heap.up position).2 < heap.nodes.length ∧
      (HoledAbove (expiryAt heap.nodes) heap.nodes.length position → (heap.up position).1.IsHeap) ∧
      (Holed (expiryAt heap.nodes) heap.nodes.length position →
        HoledBelow (expiryAt (heap.up position).1.nodes) heap.nodes.length
          (heap.up position).2) := by
  induction position using Nat.strongRecOn generalizing heap with
  | ind position ih =>
    rw [up]
    split_ifs with positive settled
    · refine ⟨represents, rfl, inside, fun holed => ?_, fun holed => ?_⟩
      · exact holed.ordered fun _ _ => settled
      · exact ⟨holed, fun _ _ => settled⟩
    · have before := HeapOrder.parent_lt positive
      have within := lt_trans before inside
      have moved := ih (parent position) before (represents.swap within inside)
        (by rwa [length_swap])
      rw [length_swap, expiryAt_swap within inside] at moved
      obtain ⟨kept, length, there, rises, sinks⟩ := moved
      have risen : Holed (expiryAt heap.nodes) heap.nodes.length position →
          ((heap.swap (parent position) position).up (parent position)).1.IsHeap :=
        fun holed => rises (holed.up positive inside (not_le.mp settled))
      refine ⟨kept, length, there, fun holed => risen holed.toHoled, fun holed => ?_⟩
      have ordered := risen holed
      rw [IsHeap, length] at ordered
      exact ordered.holedBelow _
    · refine ⟨represents, rfl, inside, fun holed => ?_, fun holed => ?_⟩
      · exact holed.ordered fun positive' => absurd positive' positive
      · exact ⟨holed, fun positive' => absurd positive' positive⟩

omit [DecidableEq κ] in
theorem smaller_le (nodes : List (Expiration κ)) (child smallest : Nat) :
    expiryAt nodes (smaller nodes child smallest) ≤ expiryAt nodes smallest ∧
      (child < nodes.length →
        expiryAt nodes (smaller nodes child smallest) ≤ expiryAt nodes child) := by
  unfold smaller
  split_ifs with first
  · exact ⟨le_of_lt first.2, fun _ => le_refl _⟩
  · exact ⟨le_refl _, fun inside => not_lt.mp fun earlier => first ⟨inside, earlier⟩⟩

omit [DecidableEq κ] in
theorem smallestOf_le (nodes : List (Expiration κ)) (position : Nat) :
    expiryAt nodes (smallestOf nodes position) ≤ expiryAt nodes position ∧
      ∀ child, 0 < child → child < nodes.length → parent child = position →
        expiryAt nodes (smallestOf nodes position) ≤ expiryAt nodes child := by
  obtain ⟨first, leftChild⟩ := smaller_le nodes (position * 2 + 1) position
  obtain ⟨second, rightChild⟩ :=
    smaller_le nodes (position * 2 + 2) (smaller nodes (position * 2 + 1) position)
  refine ⟨le_trans second first, fun child positive inside under => ?_⟩
  unfold parent at under
  obtain isLeft | isRight : child = position * 2 + 1 ∨ child = position * 2 + 2 := by omega
  · subst isLeft
    exact le_trans second (leftChild inside)
  · subst isRight
    exact rightChild inside

omit [DecidableEq κ] in
theorem smaller_lt {nodes : List (Expiration κ)} {child smallest : Nat}
    (moves : smaller nodes child smallest ≠ smallest) :
    expiryAt nodes (smaller nodes child smallest) < expiryAt nodes smallest := by
  unfold smaller at moves ⊢
  split_ifs at moves ⊢ with first
  · exact first.2
  · exact absurd rfl moves

omit [DecidableEq κ] in
theorem smallestOf_lt {nodes : List (Expiration κ)} (moves : smallestOf nodes position ≠ position) :
    expiryAt nodes (smallestOf nodes position) < expiryAt nodes position := by
  unfold smallestOf at moves ⊢
  by_cases stays : smaller nodes (position * 2 + 2) (smaller nodes (position * 2 + 1) position) =
      smaller nodes (position * 2 + 1) position
  · rw [stays] at moves ⊢
    exact smaller_lt moves
  · exact lt_of_lt_of_le (smaller_lt stays) (smaller_le nodes _ _).1

theorem down_spec (represents : heap.Represents latest) (inside : position < heap.nodes.length)
    (holed : HoledBelow (expiryAt heap.nodes) heap.nodes.length position) :
    (heap.down position).Represents latest ∧ (heap.down position).IsHeap := by
  induction heap, position using down.induct with
  | case1 heap position stays =>
    rw [down, if_pos stays]
    refine ⟨represents, holed.ordered fun child positive within under => ?_⟩
    have least := (smallestOf_le heap.nodes position).2 child positive within under
    rwa [stays] at least
  | case2 heap position moves ih =>
    rw [down, if_neg moves]
    obtain ⟨positive, within, under⟩ := (smallestOf_cases heap.nodes position).resolve_left moves
    refine ih (represents.swap inside within) (by rwa [length_swap]) ?_
    rw [length_swap, expiryAt_swap inside within]
    exact holed.down positive within under (smallestOf_le heap.nodes position).2
      (smallestOf_lt moves)

theorem sift_spec (represents : heap.Represents latest) (inside : position < heap.nodes.length)
    (holed : Holed (expiryAt heap.nodes) heap.nodes.length position) :
    ((heap.up position).1.down (heap.up position).2).Represents latest ∧
      ((heap.up position).1.down (heap.up position).2).IsHeap := by
  obtain ⟨kept, length, there, -, sinks⟩ := up_spec represents inside
  refine down_spec kept (by rwa [length]) ?_
  rw [length]
  exact sinks holed

end Sift

/-! ## Operations -/

section Specifications

variable {heap : IndexedExpirationHeap κ} {latest : κ → Option Int}

theorem Represents.lt_length (represents : heap.Represents latest) {key : κ} {position : Nat}
    (found : heap.positions.get key = some position) : position < heap.nodes.length := by
  obtain ⟨expiresAtMs, node⟩ := (represents.indexed key position).mp found
  exact (List.getElem?_eq_some_iff.mp node).1

omit [DecidableEq κ] in
theorem expiryAt_set_of_ne {nodes : List (Expiration κ)} {position other : Nat}
    {node : Expiration κ} (differs : other ≠ position) :
    expiryAt (nodes.set position node) other = expiryAt nodes other := by
  rw [expiryAt, List.getElem?_set_ne (Ne.symm differs), expiryAt]

omit [DecidableEq κ] in
theorem holed_set {nodes : List (Expiration κ)} {position : Nat} (node : Expiration κ)
    (ordered : Ordered (expiryAt nodes) nodes.length) :
    Holed (expiryAt (nodes.set position node)) (nodes.set position node).length position := by
  have before := (ordered.holedBelow position).toHoled
  rw [List.length_set]
  refine ⟨fun other positive inside here under => ?_, fun positive child first inside under => ?_⟩
  · rw [expiryAt_set_of_ne under, expiryAt_set_of_ne here]
    exact before.pairs other positive inside here under
  · have later := HeapOrder.parent_lt first
    rw [under] at later
    rw [expiryAt_set_of_ne (ne_of_lt (HeapOrder.parent_lt positive)),
      expiryAt_set_of_ne (ne_of_gt later)]
    exact before.grand positive child first inside under

section

variable (represents : heap.Represents latest)

include represents

/-- The nodes with one more represent one more expiry. -/
theorem Represents.push {key : κ} (absent : heap.positions.get key = none) (expiresAtMs : Int) :
    IndexedExpirationHeap.Represents
      ⟨heap.nodes ++ [⟨key, expiresAtMs⟩], heap.positions.set key heap.nodes.length⟩
      (Function.update latest key (some expiresAtMs)) := by
  have none : ∀ (position : Nat) (time : Int),
      heap.nodes[position]? ≠ some (Expiration.mk key time) := by
    intro position time node
    rw [(represents.indexed key position).mpr ⟨time, node⟩] at absent
    cases absent
  have new : ∀ position : Nat, heap.nodes.length ≤ position → ∀ node,
      (heap.nodes ++ [Expiration.mk key expiresAtMs])[position]? = some node ↔
        position = heap.nodes.length ∧ node = ⟨key, expiresAtMs⟩ := by
    intro position beyond node
    rw [List.getElem?_append_right beyond, List.getElem?_singleton]
    split_ifs with last
    · rw [Option.some.injEq]
      constructor
      · rintro rfl
        exact ⟨by omega, rfl⟩
      · exact fun here => here.2.symm
    · refine iff_of_false (fun refuted => by cases refuted) ?_
      rintro ⟨rfl, -⟩
      exact last (Nat.sub_self _)
  constructor
  · intro other position
    dsimp only
    rw [OrderedMap.get_set]
    rcases Nat.lt_or_ge position heap.nodes.length with inside | beyond
    · rw [List.getElem?_append_left inside, ← represents.indexed]
      split_ifs with same
      · subst same
        rw [absent]
        refine iff_of_false (fun refuted => ?_) (fun refuted => by cases refuted)
        exact absurd (Option.some.inj refuted) (ne_of_gt inside)
      · rfl
    · simp only [new position beyond]
      split_ifs with same
      · subst same
        rw [Option.some.injEq]
        constructor
        · exact fun here => ⟨expiresAtMs, here.symm, rfl⟩
        · rintro ⟨-, here, -⟩
          exact here.symm
      · rw [represents.indexed, List.getElem?_eq_none beyond]
        refine iff_of_false (fun refuted => ?_) ?_
        · obtain ⟨_, refuted⟩ := refuted
          cases refuted
        · rintro ⟨_, -, here⟩
          cases here
          exact same rfl
  · intro other time
    rw [Function.update_apply, List.mem_append, List.mem_singleton]
    split_ifs with same
    · subst same
      constructor
      · intro here
        cases here
        exact .inr rfl
      · rintro (old | here)
        · obtain ⟨position, node⟩ := List.mem_iff_getElem?.mp old
          exact absurd node (none position time)
        · cases here
          rfl
    · rw [represents.contents]
      refine ⟨.inl, ?_⟩
      rintro (old | here)
      · exact old
      · cases here
        exact absurd rfl same

/-- The nodes with another expiry for a key represent it. -/
theorem Represents.replace {key : κ} {position : Nat}
    (found : heap.positions.get key = some position) (expiresAtMs : Int) :
    IndexedExpirationHeap.Represents
      { heap with nodes := heap.nodes.set position ⟨key, expiresAtMs⟩ }
      (Function.update latest key (some expiresAtMs)) := by
  obtain ⟨before, node⟩ := (represents.indexed key position).mp found
  have inside := represents.lt_length found
  have here := List.getElem?_set_self (a := Expiration.mk key expiresAtMs) inside
  have only : ∀ (other : Nat) (time : Int),
      heap.nodes[other]? = some (Expiration.mk key time) → other = position :=
    fun _ _ there => represents.position_unique there node rfl
  constructor
  · intro other place
    dsimp only
    by_cases same : place = position
    · subst same
      rw [here]
      constructor
      · intro indexed
        obtain ⟨time, there⟩ := (represents.indexed other place).mp indexed
        rw [node] at there
        cases there
        exact ⟨expiresAtMs, rfl⟩
      · rintro ⟨time, there⟩
        cases there
        exact found
    · rw [List.getElem?_set_ne (Ne.symm same)]
      exact represents.indexed other place
  · intro other time
    dsimp only
    rw [Function.update_apply, List.mem_iff_getElem?]
    split_ifs with same
    · subst same
      constructor
      · intro set
        cases set
        exact ⟨position, here⟩
      · rintro ⟨place, there⟩
        by_cases elsewhere : place = position
        · subst elsewhere
          rw [here] at there
          cases there
          rfl
        · rw [List.getElem?_set_ne (Ne.symm elsewhere)] at there
          exact absurd (only place time there) elsewhere
    · rw [represents.contents, List.mem_iff_getElem?]
      refine exists_congr fun place => ?_
      by_cases elsewhere : place = position
      · subst elsewhere
        rw [here, node]
        refine iff_of_false ?_ ?_
        · intro there
          cases there
          exact same rfl
        · intro there
          cases there
          exact same rfl
      · rw [List.getElem?_set_ne (Ne.symm elsewhere)]

theorem set_spec (ordered : heap.IsHeap) (key : κ) (expiresAtMs : Int) :
    (heap.set key expiresAtMs).Represents (Function.update latest key (some expiresAtMs)) ∧
      (heap.set key expiresAtMs).IsHeap := by
  unfold set
  cases found : heap.positions.get key with
  | none =>
    let node : Expiration κ := ⟨key, expiresAtMs⟩
    have old : ∀ position, position < heap.nodes.length →
        expiryAt (heap.nodes ++ [node]) position = expiryAt heap.nodes position := by
      intro position inside
      rw [expiryAt, List.getElem?_append_left inside, expiryAt]
    have leaf : ∀ child, child < (heap.nodes ++ [node]).length → 0 < child →
        parent child ≠ heap.nodes.length := by
      intro child inside positive under
      have later := HeapOrder.parent_lt positive
      rw [List.length_append, List.length_singleton] at inside
      omega
    have holed : HoledAbove (expiryAt (heap.nodes ++ [node])) (heap.nodes ++ [node]).length
        heap.nodes.length := by
      refine ⟨⟨fun position positive inside here under => ?_,
        fun _ child first inside under => absurd under (leaf child inside first)⟩,
        fun child first inside under => absurd under (leaf child inside first)⟩
      have within : position < heap.nodes.length := by
        rw [List.length_append, List.length_singleton] at inside
        omega
      rw [old _ (lt_trans (HeapOrder.parent_lt positive) within), old _ within]
      exact ordered position positive within
    obtain ⟨kept, -, -, rises, -⟩ := up_spec (represents.push found expiresAtMs)
      (show heap.nodes.length < (heap.nodes ++ [node]).length by simp)
    exact ⟨kept, rises holed⟩
  | some position =>
    have inside := represents.lt_length found
    exact sift_spec (represents.replace found expiresAtMs) (by rwa [List.length_set])
      (holed_set _ ordered)

theorem Represents.pop {last : Expiration κ}
    (final : heap.nodes[heap.nodes.length - 1]? = some last) {popped : IndexedExpirationHeap κ}
    (nodes : popped.nodes = heap.nodes.dropLast)
    (positions : ∀ key, popped.positions.get key =
      if key = last.key then none else heap.positions.get key) :
    popped.Represents (Function.update latest last.key none) := by
  have inside := (List.getElem?_eq_some_iff.mp final).1
  have kept : ∀ (position : Nat) (node : Expiration κ), popped.nodes[position]? = some node ↔
      heap.nodes[position]? = some node ∧ node.key ≠ last.key := by
    intro position node
    rw [nodes, List.getElem?_dropLast]
    split_ifs with before
    · refine (and_iff_left_of_imp fun found same => ?_).symm
      have here := represents.position_unique found final same
      omega
    · refine iff_of_false (fun refuted => by cases refuted) ?_
      rintro ⟨found, differs⟩
      have within := (List.getElem?_eq_some_iff.mp found).1
      rw [show position = heap.nodes.length - 1 by omega, final] at found
      exact differs (congrArg Expiration.key (Option.some.inj found)).symm
  constructor
  · intro key position
    rw [positions]
    simp only [kept]
    split_ifs with same
    · refine iff_of_false (fun refuted => by cases refuted) ?_
      rintro ⟨_, -, differs⟩
      exact differs same
    · rw [represents.indexed]
      exact exists_congr fun _ => (and_iff_left same).symm
  · intro key time
    rw [Function.update_apply, List.mem_iff_getElem?]
    simp only [kept]
    split_ifs with same
    · refine iff_of_false (fun refuted => by cases refuted) ?_
      rintro ⟨_, -, differs⟩
      exact differs same
    · rw [represents.contents, List.mem_iff_getElem?]
      exact exists_congr fun _ => (and_iff_left same).symm

theorem delete_spec (ordered : heap.IsHeap) (key : κ) :
    (heap.delete key).Represents (Function.update latest key none) ∧ (heap.delete key).IsHeap := by
  unfold delete
  cases found : heap.positions.get key with
  | none =>
    have absent : latest key = none := by
      cases held : latest key with
      | none => rfl
      | some time =>
        obtain ⟨position, node⟩ := List.mem_iff_getElem?.mp ((represents.contents key time).mp held)
        rw [(represents.indexed key position).mpr ⟨time, node⟩] at found
        cases found
    rw [Function.update_eq_self_iff.mpr absent.symm]
    exact ⟨represents, ordered⟩
  | some position =>
    have inside := represents.lt_length found
    obtain ⟨expiresAtMs, node⟩ := (represents.indexed key position).mp found
    have within : heap.nodes.length - 1 < heap.nodes.length := by omega
    have final := List.getElem?_eq_getElem within
    rw [List.getLast?_eq_getElem?, final]
    dsimp only
    rw [List.length_dropLast]
    have fewer : Ordered (expiryAt heap.nodes.dropLast) heap.nodes.dropLast.length := by
      rw [List.length_dropLast]
      refine ordered.initial (Nat.sub_le _ _) fun other before => ?_
      rw [expiryAt, List.getElem?_dropLast, if_pos before, expiryAt]
    split_ifs with middle
    · -- as if the node changed places with the last one, which is then removed
      have swapped := represents.swap inside within
      have final' : (heap.swap position (heap.nodes.length - 1)).nodes[(heap.swap position
          (heap.nodes.length - 1)).nodes.length - 1]? = some ⟨key, expiresAtMs⟩ := by
        rw [length_swap, getElem?_swap inside within, Equiv.swap_apply_right, node]
      have nodes : heap.nodes.dropLast.set position heap.nodes[heap.nodes.length - 1] =
          (heap.swap position (heap.nodes.length - 1)).nodes.dropLast := by
        apply List.ext_getElem?
        intro other
        rw [List.getElem?_dropLast, length_swap, getElem?_swap inside within,
          Equiv.swap_apply_def]
        by_cases same : other = position
        · subst same
          rw [List.getElem?_set_self (by rwa [List.length_dropLast]), if_pos middle, if_pos rfl,
            final]
        · rw [List.getElem?_set_ne (Ne.symm same), if_neg same, List.getElem?_dropLast]
          split_ifs with before last
          · exact absurd last (ne_of_lt before)
          · rfl
          · rfl
      have apart : heap.nodes[heap.nodes.length - 1].key ≠ key := by
        intro same
        have here := represents.position_unique final node same
        omega
      have positions : ∀ other, ((heap.positions.erase key).set
          heap.nodes[heap.nodes.length - 1].key position).get other =
            if other = key then none
            else (heap.swap position (heap.nodes.length - 1)).positions.get other := by
        intro other
        simp only [swap, node, final, OrderedMap.get_set, OrderedMap.get_erase]
        split_ifs with isLast isKey
        · exact absurd (isLast.symm.trans isKey) apart
        · rfl
        · rfl
        · rfl
      have moved : IndexedExpirationHeap.Represents
          ⟨heap.nodes.dropLast.set position heap.nodes[heap.nodes.length - 1],
            (heap.positions.erase key).set heap.nodes[heap.nodes.length - 1].key position⟩
          (Function.update latest key none) := swapped.pop final' nodes positions
      refine sift_spec moved ?_ (holed_set _ fewer)
      rw [List.length_set, List.length_dropLast]
      exact middle
    · have here : position = heap.nodes.length - 1 := by omega
      subst here
      refine ⟨represents.pop node rfl fun other => ?_, fewer⟩
      rw [OrderedMap.get_erase]

end

/-- What taking an expired key comes to: a key that expires first and has expired is taken, or no
key has expired. -/
inductive Takes (heap : IndexedExpirationHeap κ) (latest : κ → Option Int) (nowMs : Int) :
    Option κ × IndexedExpirationHeap κ → Prop where
  | taken {key : κ} {expiresAtMs : Int} {rest : IndexedExpirationHeap κ}
      (held : latest key = some expiresAtMs) (expired : expiresAtMs ≤ nowMs)
      (first : ∀ other time, latest other = some time → expiresAtMs ≤ time)
      (represents : rest.Represents (Function.update latest key none)) (ordered : rest.IsHeap) :
      Takes heap latest nowMs (some key, rest)
  | fresh (later : ∀ key time, latest key = some time → nowMs < time) :
      Takes heap latest nowMs (none, heap)

theorem takeExpired_spec (represents : heap.Represents latest) (ordered : heap.IsHeap)
    (nowMs : Int) : Takes heap latest nowMs (heap.takeExpired nowMs) := by
  have least : ∀ first, heap.peek = some first → ∀ key time, latest key = some time →
      first.expiresAtMs ≤ time := by
    intro first root key time held
    obtain ⟨position, node⟩ := List.mem_iff_getElem?.mp ((represents.contents key time).mp held)
    have below := ordered.root_le position (List.getElem?_eq_some_iff.mp node).1
    rwa [expiryAt_of_get root, expiryAt_of_get node] at below
  unfold takeExpired
  cases root : heap.peek with
  | none =>
    refine .fresh fun key time held => ?_
    have member := (represents.contents key time).mp held
    have nobody := List.getElem?_eq_none_iff.mp root
    rw [List.eq_nil_of_length_eq_zero (Nat.le_zero.mp nobody)] at member
    cases member
  | some first =>
    dsimp only
    split_ifs with later
    · exact .fresh fun key time held => lt_of_lt_of_le later (least first root key time held)
    · obtain ⟨kept, isHeap⟩ := delete_spec represents ordered first.key
      exact .taken ((represents.contents _ _).mpr (List.mem_iff_getElem?.mpr ⟨0, root⟩))
        (not_lt.mp later) (least first root) kept isHeap

theorem takeEach_spec (represents : heap.Represents latest) (ordered : heap.IsHeap) (nowMs : Int)
    (count : Nat) :
    (heap.takeEach nowMs count).1.Nodup ∧
      (∀ key ∈ (heap.takeEach nowMs count).1, ∃ time, latest key = some time ∧ time ≤ nowMs) ∧
      ((heap.takeEach nowMs count).1.length < count → ∀ key time, latest key = some time →
        time ≤ nowMs → key ∈ (heap.takeEach nowMs count).1) ∧
      (heap.takeEach nowMs count).2.Represents
        (fun key => if key ∈ (heap.takeEach nowMs count).1 then none else latest key) ∧
      (heap.takeEach nowMs count).2.IsHeap := by
  induction count generalizing heap latest with
  | zero =>
    refine ⟨List.nodup_nil, (fun _ member => by cases member), (fun short => by cases short), ?_,
      ordered⟩
    simpa only [takeEach, List.not_mem_nil, if_false] using represents
  | succ count ih =>
    have once := takeExpired_spec represents ordered nowMs
    rw [takeEach]
    generalize heap.takeExpired nowMs = answer at once
    cases once with
    | fresh later =>
      refine ⟨List.nodup_nil, (fun _ member => by cases member), fun _ key time held expired => ?_,
        ?_, ordered⟩
      · exact absurd (later key time held) (not_lt.mpr expired)
      · simpa only [List.not_mem_nil, if_false] using represents
    | @taken key expiresAtMs rest held expired first kept isHeap =>
      obtain ⟨distinct, due, complete, remaining, heaped⟩ := ih kept isHeap
      dsimp only
      refine ⟨?_, ?_, ?_, ?_, heaped⟩
      · refine List.nodup_cons.mpr ⟨fun again => ?_, distinct⟩
        obtain ⟨time, still, -⟩ := due key again
        rw [Function.update_self] at still
        cases still
      · intro other member
        obtain rfl | later := List.mem_cons.mp member
        · exact ⟨expiresAtMs, held, expired⟩
        · obtain ⟨time, still, past⟩ := due other later
          rw [Function.update_apply] at still
          split_ifs at still
          exact ⟨time, still, past⟩
      · intro short other time still past
        rw [List.length_cons] at short
        by_cases same : other = key
        · exact List.mem_cons.mpr (.inl same)
        · refine List.mem_cons_of_mem _ (complete (by omega) other time ?_ past)
          rw [Function.update_of_ne same, still]
      · have removed : (fun other => if other ∈ key :: (rest.takeEach nowMs count).1 then none
            else latest other) = fun other => if other ∈ (rest.takeEach nowMs count).1 then none
              else Function.update latest key none other := by
          funext other
          by_cases same : other = key
          · simp [same]
          · simp [same]
        rw [removed]
        exact remaining

theorem Represents.length_le (represents : heap.Represents latest) {keys : List κ}
    (distinct : keys.Nodup) (held : ∀ key ∈ keys, ∃ time, latest key = some time) :
    keys.length ≤ heap.nodes.length := by
  have within : keys ⊆ heap.nodes.map (·.key) := by
    intro key member
    obtain ⟨time, stored⟩ := held key member
    exact List.mem_map.mpr ⟨_, (represents.contents key time).mp stored, rfl⟩
  have fewer := List.Nodup.length_le_of_subset distinct within
  rwa [List.length_map] at fewer

end Specifications

end IndexedExpirationHeap

open IndexedExpirationHeap

/-! ## Runs -/

/-- What is done with a heap. -/
inductive HeapAction (κ : Type) where
  /-- `set`. -/
  | set (key : κ) (expiresAtMs : Int)
  /-- `delete`. -/
  | delete (key : κ)
  /-- `takeExpired`. -/
  | takeExpired (nowMs : Int)
  /-- `clear`. -/
  | clear

/-- A heap, and the expiry that was last set for each key that was not removed since. -/
structure HeapHistory (κ : Type) [DecidableEq κ] where
  heap : IndexedExpirationHeap κ := {}
  latest : κ → Option Int := fun _ => none

namespace HeapHistory

variable {κ : Type} [DecidableEq κ]

/-- One step. -/
def step (history : HeapHistory κ) : HeapAction κ → HeapHistory κ
  | .set key expiresAtMs =>
    ⟨history.heap.set key expiresAtMs, Function.update history.latest key (some expiresAtMs)⟩
  | .delete key => ⟨history.heap.delete key, Function.update history.latest key none⟩
  | .takeExpired nowMs =>
    match history.heap.takeExpired nowMs with
    | (none, heap) => ⟨heap, history.latest⟩
    | (some key, heap) => ⟨heap, Function.update history.latest key none⟩
  | .clear => ⟨.clear, fun _ => none⟩

/-- What is promised of the heap. -/
structure Lawful (history : HeapHistory κ) : Prop where
  /-- No node is before its parent. -/
  ordered : history.heap.IsHeap
  /-- Every key has the position of its node, and every position is that of the node's key. -/
  indexed : ∀ key position, history.heap.positions.get key = some position ↔
    ∃ expiresAtMs, history.heap.nodes[position]? = some ⟨key, expiresAtMs⟩
  /-- The nodes are the latest dates of the keys. -/
  contents : ∀ key expiresAtMs,
    ⟨key, expiresAtMs⟩ ∈ history.heap.nodes ↔ history.latest key = some expiresAtMs
  /-- A key that has expired is taken, and no other, or there is none. -/
  takes : ∀ nowMs, IndexedExpirationHeap.Takes history.heap history.latest nowMs
    (history.heap.takeExpired nowMs)
  /-- Until there is none, exactly the keys that have expired are taken, each once. -/
  drains : ∀ nowMs, (history.heap.takeEach nowMs (history.heap.size + 1)).1.Nodup ∧
    ∀ key, key ∈ (history.heap.takeEach nowMs (history.heap.size + 1)).1 ↔
      ∃ expiresAtMs, history.latest key = some expiresAtMs ∧ expiresAtMs ≤ nowMs
  /-- Those that have not expired stay. -/
  keeps : ∀ nowMs key expiresAtMs,
    ⟨key, expiresAtMs⟩ ∈ (history.heap.takeEach nowMs (history.heap.size + 1)).2.nodes ↔
      history.latest key = some expiresAtMs ∧ nowMs < expiresAtMs

theorem lawful_of_represents {history : HeapHistory κ}
    (represents : history.heap.Represents history.latest) (ordered : history.heap.IsHeap) :
    history.Lawful := by
  have drains : ∀ nowMs, (history.heap.takeEach nowMs (history.heap.size + 1)).1.Nodup ∧
      ∀ key, key ∈ (history.heap.takeEach nowMs (history.heap.size + 1)).1 ↔
        ∃ expiresAtMs, history.latest key = some expiresAtMs ∧ expiresAtMs ≤ nowMs := by
    intro nowMs
    obtain ⟨distinct, due, complete, -, -⟩ := takeEach_spec represents ordered
      nowMs (history.heap.size + 1)
    have short := represents.length_le distinct fun key member => by
      obtain ⟨time, held, -⟩ := due key member
      exact ⟨time, held⟩
    refine ⟨distinct, fun key => ⟨due key, ?_⟩⟩
    rintro ⟨time, held, expired⟩
    exact complete (Nat.lt_succ_of_le short) key time held expired
  refine ⟨ordered, represents.indexed, fun key time => (represents.contents key time).symm,
    takeExpired_spec represents ordered, drains, fun nowMs key time => ?_⟩
  obtain ⟨-, -, -, remaining, -⟩ := takeEach_spec represents ordered nowMs
    (history.heap.size + 1)
  rw [← remaining.contents]
  split_ifs with gone
  · refine iff_of_false (fun refuted => by cases refuted) ?_
    rintro ⟨held, later⟩
    obtain ⟨expiresAtMs, same, expired⟩ := ((drains nowMs).2 key).mp gone
    rw [held] at same
    cases same
    exact absurd later (not_lt.mpr expired)
  · constructor
    · intro held
      refine ⟨held, not_le.mp fun expired => gone (((drains nowMs).2 key).mpr ?_)⟩
      exact ⟨time, held, expired⟩
    · exact And.left

end HeapHistory

/-- The promises are kept in every run. -/
theorem heap_lawful {κ : Type} [DecidableEq κ] (actions : List (HeapAction κ)) :
    (run HeapHistory.step {} actions).Lawful := by
  have empty : (IndexedExpirationHeap.clear : IndexedExpirationHeap κ).Represents
      (fun _ => none) ∧ (IndexedExpirationHeap.clear : IndexedExpirationHeap κ).IsHeap := by
    refine ⟨⟨fun key position => ?_, fun key time => ?_⟩, fun position _ inside => ?_⟩
    · refine iff_of_false (fun refuted => by cases refuted) ?_
      rintro ⟨_, refuted⟩
      cases refuted
    · exact iff_of_false (fun refuted => by cases refuted) (fun refuted => by cases refuted)
    · cases inside
  have keeps : ∀ (history : HeapHistory κ) (action : HeapAction κ),
      history.heap.Represents history.latest ∧ history.heap.IsHeap →
        (history.step action).heap.Represents (history.step action).latest ∧
          (history.step action).heap.IsHeap := by
    rintro history action ⟨represents, ordered⟩
    cases action with
    | set key expiresAtMs => exact set_spec represents ordered key expiresAtMs
    | delete key => exact delete_spec represents ordered key
    | takeExpired nowMs =>
      have once := takeExpired_spec represents ordered nowMs
      simp only [HeapHistory.step]
      generalize history.heap.takeExpired nowMs = answer at once
      cases once with
      | taken held expired first kept isHeap => exact ⟨kept, isHeap⟩
      | fresh later => exact ⟨represents, ordered⟩
    | clear => exact empty
  have initially : ({} : HeapHistory κ).heap.Represents ({} : HeapHistory κ).latest ∧
      ({} : HeapHistory κ).heap.IsHeap := empty
  obtain ⟨represents, ordered⟩ := run_invariant HeapHistory.step keeps initially actions
  exact HeapHistory.lawful_of_represents represents ordered

end PlugHub.ExpirationHeap
