import Mathlib.Order.Lattice
import Mathlib.Order.Nat

/-!
# The order of a binary heap

The ranks at the positions of an array are a heap when no position ranks below its parent. A sift
works on a heap with a hole, a position whose rank may be out of order: going up it exchanges the
hole with its parent, going down with its smallest child. Each exchange leaves a hole in a position
for which the same can be said, and where it stops there is no hole left.
-/

namespace PlugHub.Library.HeapOrder

variable {τ : Type} [LinearOrder τ]

/-- The parent of a position. -/
def parent (position : Nat) : Nat := (position - 1) / 2

theorem parent_lt {position : Nat} (positive : 0 < position) : parent position < position := by
  unfold parent
  omega

/-- The ranks when two positions are exchanged. -/
def exchange (rank : Nat → τ) (first second : Nat) : Nat → τ :=
  fun position =>
    if position = first then rank second
    else if position = second then rank first
    else rank position

omit [LinearOrder τ] in
@[simp] theorem exchange_first (rank : Nat → τ) (first second : Nat) :
    exchange rank first second first = rank second := if_pos rfl

omit [LinearOrder τ] in
@[simp] theorem exchange_second (rank : Nat → τ) (first second : Nat) :
    exchange rank first second second = rank first := by
  unfold exchange
  by_cases same : second = first
  · rw [if_pos same, same]
  · rw [if_neg same, if_pos rfl]

omit [LinearOrder τ] in
theorem exchange_of_ne (rank : Nat → τ) {first second position : Nat} (notFirst : position ≠ first)
    (notSecond : position ≠ second) : exchange rank first second position = rank position := by
  rw [exchange, if_neg notFirst, if_neg notSecond]

/-- The first positions are a heap. -/
def Ordered (rank : Nat → τ) (size : Nat) : Prop :=
  ∀ position, 0 < position → position < size → rank (parent position) ≤ rank position

theorem Ordered.root_le {rank : Nat → τ} {size : Nat} (ordered : Ordered rank size) (position : Nat)
    (inside : position < size) : rank 0 ≤ rank position := by
  induction position using Nat.strongRecOn with
  | ind position ih =>
    cases position with
    | zero => exact le_refl _
    | succ previous =>
      have before := parent_lt (Nat.succ_pos previous)
      exact le_trans (ih _ before (lt_trans before inside))
        (ordered _ (Nat.succ_pos previous) inside)

/-- Ranks that agree on the first positions of a heap are a heap. -/
theorem Ordered.initial {rank other : Nat → τ} {size smaller : Nat} (ordered : Ordered rank size)
    (fewer : smaller ≤ size)
    (same : ∀ position, position < smaller → other position = rank position) :
    Ordered other smaller := by
  intro position positive inside
  rw [same _ (lt_trans (parent_lt positive) inside), same _ inside]
  exact ordered position positive (lt_of_lt_of_le inside fewer)

/-- A heap but for a hole, whose children do not rank below its parent. -/
structure Holed (rank : Nat → τ) (size hole : Nat) : Prop where
  pairs : ∀ position, 0 < position → position < size → position ≠ hole → parent position ≠ hole →
    rank (parent position) ≤ rank position
  grand : 0 < hole → ∀ child, 0 < child → child < size → parent child = hole →
    rank (parent hole) ≤ rank child

/-- A hole whose children do not rank below it. -/
structure HoledAbove (rank : Nat → τ) (size hole : Nat) : Prop extends Holed rank size hole where
  below : ∀ child, 0 < child → child < size → parent child = hole → rank hole ≤ rank child

/-- A hole that does not rank below its parent. -/
structure HoledBelow (rank : Nat → τ) (size hole : Nat) : Prop extends Holed rank size hole where
  above : 0 < hole → hole < size → rank (parent hole) ≤ rank hole

section Sift

variable {rank : Nat → τ} {size hole : Nat}

theorem Ordered.holedBelow (ordered : Ordered rank size) (hole : Nat) :
    HoledBelow rank size hole := by
  refine ⟨⟨fun position positive inside _ _ => ordered position positive inside, ?_⟩, ?_⟩
  · intro positive child first inside under
    have before : hole < child := by
      rw [← under]
      exact parent_lt first
    have upper := ordered hole positive (lt_trans before inside)
    have lower := ordered child first inside
    rw [under] at lower
    exact le_trans upper lower
  · exact fun positive inside => ordered hole positive inside

/-- Where a hole that goes up does not rank below its parent, there is none. -/
theorem HoledAbove.ordered (holed : HoledAbove rank size hole)
    (stops : 0 < hole → hole < size → rank (parent hole) ≤ rank hole) : Ordered rank size := by
  intro position positive inside
  by_cases here : position = hole
  · subst here
    exact stops positive inside
  · by_cases under : parent position = hole
    · rw [under]
      exact holed.below position positive inside under
    · exact holed.pairs position positive inside here under

/-- Where the children of a hole that goes down do not rank below it, there is none. -/
theorem HoledBelow.ordered (holed : HoledBelow rank size hole)
    (stops : ∀ child, 0 < child → child < size → parent child = hole → rank hole ≤ rank child) :
    Ordered rank size := by
  intro position positive inside
  by_cases here : position = hole
  · subst here
    exact holed.above positive inside
  · by_cases under : parent position = hole
    · rw [under]
      exact stops position positive inside under
    · exact holed.pairs position positive inside here under

/-- A hole that ranks below its parent goes up. -/
theorem Holed.up (holed : Holed rank size hole) (positive : 0 < hole) (inside : hole < size)
    (smaller : rank hole < rank (parent hole)) :
    HoledAbove (exchange rank (parent hole) hole) size (parent hole) := by
  have before := parent_lt positive
  have upper : 0 < parent hole → rank (parent (parent hole)) ≤ rank (parent hole) := fun first =>
    holed.pairs _ first (lt_trans before inside) (ne_of_lt before)
      (ne_of_lt (lt_trans (parent_lt first) before))
  have aside : ∀ child, 0 < child → child < size → child ≠ hole → parent child = parent hole →
      rank (parent hole) ≤ rank child := by
    intro child first within other under
    have pair := holed.pairs child first within other (by rw [under]; exact ne_of_lt before)
    rwa [under] at pair
  refine ⟨⟨fun position first within here under => ?_, fun first child least within under => ?_⟩,
    fun child least within under => ?_⟩
  · have notHole : position ≠ hole := by
      rintro rfl
      exact under rfl
    rw [exchange_of_ne rank here notHole]
    by_cases beneath : parent position = hole
    · rw [beneath, exchange_second]
      exact holed.grand positive position first within beneath
    · rw [exchange_of_ne rank under beneath]
      exact holed.pairs position first within notHole beneath
  · have higher := parent_lt first
    rw [exchange_of_ne rank (ne_of_lt higher) (ne_of_lt (lt_trans higher before))]
    by_cases same : child = hole
    · rw [same, exchange_second]
      exact upper first
    · have later := parent_lt least
      rw [under] at later
      rw [exchange_of_ne rank (ne_of_gt later) same]
      exact le_trans (upper first) (aside child least within same under)
  · rw [exchange_first]
    by_cases same : child = hole
    · rw [same, exchange_second]
      exact le_of_lt smaller
    · have later := parent_lt least
      rw [under] at later
      rw [exchange_of_ne rank (ne_of_gt later) same]
      exact le_trans (le_of_lt smaller) (aside child least within same under)

/-- A hole that ranks above a smallest child goes down. -/
theorem HoledBelow.down (holed : HoledBelow rank size hole) {smallest : Nat}
    (first : 0 < smallest) (within : smallest < size) (under : parent smallest = hole)
    (least : ∀ child, 0 < child → child < size → parent child = hole → rank smallest ≤ rank child)
    (smaller : rank smallest < rank hole) :
    HoledBelow (exchange rank hole smallest) size smallest := by
  have before : hole < smallest := by
    rw [← under]
    exact parent_lt first
  have beneath : ∀ child, 0 < child → parent child = smallest →
      child ≠ hole ∧ child ≠ smallest := by
    intro child positive below
    have later := parent_lt positive
    rw [below] at later
    exact ⟨ne_of_gt (lt_trans before later), ne_of_gt later⟩
  refine ⟨⟨fun position positive inside here apart => ?_, fun _ child positive inside below => ?_⟩,
    fun _ _ => ?_⟩
  · by_cases top : position = hole
    · subst top
      have higher := parent_lt positive
      rw [exchange_first, exchange_of_ne rank (ne_of_lt higher) apart]
      exact holed.grand positive smallest first within under
    · rw [exchange_of_ne rank top here]
      by_cases aside : parent position = hole
      · rw [aside, exchange_first]
        exact least position positive inside aside
      · rw [exchange_of_ne rank aside apart]
        exact holed.pairs position positive inside top aside
  · obtain ⟨notHole, notSmallest⟩ := beneath child positive below
    rw [under, exchange_first, exchange_of_ne rank notHole notSmallest]
    have pair := holed.pairs child positive inside notHole (by rw [below]; exact ne_of_gt before)
    rwa [below] at pair
  · rw [under, exchange_first, exchange_second]
    exact le_of_lt smaller

end Sift

end PlugHub.Library.HeapOrder
