import Mathlib.Data.List.Sort
import Mathlib.Data.Rat.Floor

/-!
# The selection of a percentile

A percentile is selected on a copy of the samples. A window of the copy is split by a pivot: two
cursors advance from its ends, past smaller elements and past greater ones, and exchange what stops
them until they have crossed. The window then shrinks to the side of the rank. What is left of the
window is never greater than what it left on its right, never smaller than what it left on its left,
so that the element of the rank is the one of the sorted samples when the window has closed.
-/

namespace PlugHub.Percentile

variable {α : Type} [LinearOrder α]

/-! ## The selection -/

/-- The left cursor advances past elements that are smaller than the pivot. -/
def advanceLeft (arr : Array α) (pivot : α) (left : Nat) : Nat :=
  match found : arr[left]? with
  | some value => if value < pivot then advanceLeft arr pivot (left + 1) else left
  | none => left
termination_by arr.size - left
decreasing_by
  obtain ⟨inside, _⟩ := Array.getElem?_eq_some_iff.mp found
  omega

/-- The right cursor retreats past elements that are greater than the pivot. It is kept as the
number of places up to it, since it may retreat past the first one. -/
def retreatRight (arr : Array α) (pivot : α) : Nat → Nat
  | 0 => 0
  | right + 1 =>
    match arr[right]? with
    | some value => if pivot < value then retreatRight arr pivot right else right + 1
    | none => right + 1

/-- A window that is being split. -/
structure Split (α : Type) where
  arr : Array α
  left : Nat
  stop : Nat

/-- One round of the two cursors. -/
def Split.round (pivot : α) (split : Split α) : Split α :=
  let left := advanceLeft split.arr pivot split.left
  let stop := retreatRight split.arr pivot split.stop
  if left < stop then
    { arr := split.arr.swapIfInBounds left (stop - 1), left := left + 1, stop := stop - 1 }
  else { split with left := left, stop := stop }

theorem le_advanceLeft (arr : Array α) (pivot : α) (left : Nat) :
    left ≤ advanceLeft arr pivot left := by
  fun_induction advanceLeft arr pivot left with
  | case1 left value found smaller ih => exact Nat.le_trans (Nat.le_succ left) ih
  | case2 left value found other | case3 left missing => exact Nat.le_refl left

theorem retreatRight_le (arr : Array α) (pivot : α) (stop : Nat) :
    retreatRight arr pivot stop ≤ stop := by
  fun_induction retreatRight arr pivot stop with
  | case1 => exact Nat.le_refl 0
  | case2 right value found greater ih => exact Nat.le_trans ih (Nat.le_succ right)
  | case3 right value found other | case4 right missing => exact Nat.le_refl _

/-- The loop over the rounds, until the cursors have crossed. -/
def Split.partition (pivot : α) (split : Split α) : Split α :=
  if split.left < split.stop then Split.partition pivot (split.round pivot) else split
termination_by split.stop - split.left
decreasing_by
  have left := le_advanceLeft split.arr pivot split.left
  have stop := retreatRight_le split.arr pivot split.stop
  simp only [Split.round]
  split <;> dsimp only <;> omega

/-- The loop over the windows; it gives up when it has used its fuel. -/
def select (rank : Nat) : Nat → Array α → Nat → Nat → Option (Array α)
  | 0, _, _, _ => none
  | fuel + 1, arr, lo, hi =>
    if lo < hi then
      match arr[(lo + hi) / 2]? with
      | none => none
      | some pivot =>
        let split := Split.partition pivot { arr := arr, left := lo, stop := hi + 1 }
        if rank < split.stop then select rank fuel split.arr lo (split.stop - 1)
        else if split.left ≤ rank then select rank fuel split.arr split.left hi
        else some split.arr
    else some arr

/-- The rank of a percentile. The share stands for every rounding of `(p / 100) * length`. -/
def rankOf (share : ℚ → Nat → ℚ) (p : ℚ) (length : Nat) : Nat :=
  (min (length - 1 : Int) (max 0 (⌈share p length⌉ - 1))).toNat

/-- `percentile`, unless the loop gives up. -/
def percentile [Zero α] (share : ℚ → Nat → ℚ) (values : List α) (p : ℚ) : Option α :=
  if values.length = 0 then some 0
  else
    let rank := rankOf share p values.length
    (select rank (values.length + 1) values.toArray 0 (values.length - 1)).map fun arr =>
      (arr[rank]?).getD 0

/-! ## What the cursors pass -/

section

variable {arr : Array α} {pivot value : α} {place : Nat}

/-- What the left cursor passes is smaller than the pivot. -/
theorem smaller_of_advanceLeft {left : Nat} (reached : left ≤ place)
    (passed : place < advanceLeft arr pivot left) (found : arr[place]? = some value) :
    value < pivot := by
  fun_induction advanceLeft arr pivot left with
  | case1 left head atLeft smaller ih =>
    by_cases same : place = left
    · rw [same, atLeft] at found
      exact Option.some.inj found ▸ smaller
    · exact ih (by omega) passed
  | case2 left head atLeft other | case3 left missing => omega

/-- It stops at what is not smaller. -/
theorem le_of_advanceLeft {left : Nat} (found : arr[advanceLeft arr pivot left]? = some value) :
    pivot ≤ value := by
  fun_induction advanceLeft arr pivot left with
  | case1 left head atLeft smaller ih => exact ih found
  | case2 left head atLeft other =>
    rw [atLeft] at found
    exact Option.some.inj found ▸ not_lt.mp other
  | case3 left missing =>
    rw [missing] at found
    cases found

/-- What the right cursor passes is greater. -/
theorem greater_of_retreatRight {stop : Nat} (passed : retreatRight arr pivot stop ≤ place)
    (bounded : place < stop) (found : arr[place]? = some value) : pivot < value := by
  fun_induction retreatRight arr pivot stop with
  | case1 => omega
  | case2 right head atRight greater ih =>
    by_cases same : place = right
    · rw [same, atRight] at found
      exact Option.some.inj found ▸ greater
    · exact ih passed (by omega)
  | case3 right head atRight other | case4 right missing => omega

/-- It stops at what is not greater. -/
theorem le_of_retreatRight {stop : Nat} (stopped : retreatRight arr pivot stop = place + 1)
    (found : arr[place]? = some value) : value ≤ pivot := by
  fun_induction retreatRight arr pivot stop with
  | case1 => cases stopped
  | case2 right head atRight greater ih => exact ih stopped
  | case3 right head atRight other =>
    rw [← Nat.succ.inj stopped, atRight] at found
    exact Option.some.inj found ▸ not_lt.mp other
  | case4 right missing =>
    rw [← Nat.succ.inj stopped, missing] at found
    cases found

omit [LinearOrder α] in
theorem getElem?_exchange {first second : Nat} (ordered : first ≤ second)
    (inside : second < arr.size) :
    (arr.swapIfInBounds first second)[place]? =
      if place = first then arr[second]? else if place = second then arr[first]? else arr[place]? := by
  rw [Array.swapIfInBounds_def, dif_pos (by omega), dif_pos inside, Array.getElem?_swap]
  rw [Array.getElem?_eq_getElem inside, Array.getElem?_eq_getElem (show first < arr.size by omega)]
  by_cases atSecond : second = place
  · subst atSecond
    by_cases same : second = first
    · subst same
      simp
    · simp [same]
  · by_cases atFirst : first = place
    · subst atFirst
      simp [atSecond]
    · simp [atSecond, atFirst, Ne.symm atSecond, Ne.symm atFirst]

end

/-! ## The split of a window -/

/-- What the rounds keep: outside the window nothing changes, what the cursors passed is on its side
of the pivot. -/
structure Parted (before : Array α) (pivot : α) (lo hi : Nat) (split : Split α) : Prop where
  perm : split.arr.Perm before
  outside : ∀ place, place < lo ∨ hi < place → split.arr[place]? = before[place]?
  drawn : ∀ place value, lo ≤ place → place ≤ hi → split.arr[place]? = some value →
    ∃ origin, lo ≤ origin ∧ origin ≤ hi ∧ before[origin]? = some value
  smaller : ∀ place value, lo ≤ place → place < split.left → split.arr[place]? = some value →
    value ≤ pivot
  greater : ∀ place value, split.stop ≤ place → place ≤ hi → split.arr[place]? = some value →
    pivot ≤ value
  left : lo ≤ split.left
  stop : split.stop ≤ hi + 1

namespace Parted

variable {before : Array α} {pivot : α} {lo hi : Nat} {split : Split α}

/-- A partition begins with nothing passed. -/
theorem start (before : Array α) (pivot : α) (lo hi : Nat) :
    Parted before pivot lo hi { arr := before, left := lo, stop := hi + 1 } where
  perm := .refl _
  outside := fun _ _ => rfl
  drawn := fun place _ above below found => ⟨place, above, below, found⟩
  smaller := fun _ _ above below => absurd below (Nat.not_lt.mpr above)
  greater := fun _ _ above below => absurd below (Nat.not_le.mpr above)
  left := Nat.le_refl lo
  stop := Nat.le_refl _

variable (parted : Parted before pivot lo hi split)

include parted

/-- The cursors keep the invariant. -/
theorem advance :
    Parted before pivot lo hi
      { split with
        left := advanceLeft split.arr pivot split.left
        stop := retreatRight split.arr pivot split.stop } :=
  { parted with
    smaller := by
      intro place value above below found
      by_cases earlier : place < split.left
      · exact parted.smaller place value above earlier found
      · exact (smaller_of_advanceLeft (by omega) below found).le
    greater := by
      intro place value above below found
      by_cases earlier : split.stop ≤ place
      · exact parted.greater place value earlier below found
      · exact (greater_of_retreatRight above (by omega) found).le
    left := Nat.le_trans parted.left (le_advanceLeft _ _ _)
    stop := Nat.le_trans (retreatRight_le _ _ _) parted.stop }

/-- So does the exchange of what they stop at. -/
theorem exchange (inside : hi < before.size)
    (apart : split.left < split.stop)
    (stopsLeft : ∀ value, split.arr[split.left]? = some value → pivot ≤ value)
    (stopsRight : ∀ value, split.arr[split.stop - 1]? = some value → value ≤ pivot) :
    Parted before pivot lo hi
      { arr := split.arr.swapIfInBounds split.left (split.stop - 1)
        left := split.left + 1
        stop := split.stop - 1 } := by
  have sized : split.arr.size = before.size := parted.perm.size_eq
  have above := parted.left
  have below := parted.stop
  have places : ∀ place, (split.arr.swapIfInBounds split.left (split.stop - 1))[place]? =
      if place = split.left then split.arr[split.stop - 1]?
      else if place = split.stop - 1 then split.arr[split.left]? else split.arr[place]? :=
    fun place => getElem?_exchange (by omega) (by omega)
  refine ⟨?_, fun place out => ?_, fun place value lower upper found => ?_,
    fun place value lower upper found => ?_, fun place value lower upper found => ?_,
    Nat.le_succ_of_le above, Nat.le_trans (Nat.sub_le _ _) below⟩
  all_goals dsimp only at *
  · rw [Array.swapIfInBounds_def, dif_pos (by omega), dif_pos (by omega)]
    exact (Array.swap_perm _ _).trans parted.perm
  · rw [places, if_neg (by omega), if_neg (by omega)]
    exact parted.outside place out
  · rw [places] at found
    split_ifs at found
    · exact parted.drawn _ value (by omega) (by omega) found
    · exact parted.drawn _ value above (by omega) found
    · exact parted.drawn place value lower upper found
  · rw [places] at found
    split_ifs at found with atLeft atRight
    · exact stopsRight value found
    · omega
    · exact parted.smaller place value lower (by omega) found
  · rw [places] at found
    split_ifs at found with atLeft atRight
    · have same : split.stop - 1 = split.left := by omega
      rw [same] at found
      exact stopsLeft value found
    · exact stopsLeft value found
    · exact parted.greater place value (by omega) upper found

/-- So does a round. -/
theorem round (inside : hi < before.size) :
    Parted before pivot lo hi (split.round pivot) := by
  have advanced := parted.advance
  simp only [Split.round]
  split
  · next apart =>
    have stopped : retreatRight split.arr pivot split.stop =
        retreatRight split.arr pivot split.stop - 1 + 1 := by omega
    exact advanced.exchange inside apart (fun value found => le_of_advanceLeft found)
      fun value found => le_of_retreatRight stopped found
  · exact advanced

/-- And at the end the cursors have crossed. -/
theorem partition (inside : hi < before.size) :
    Parted before pivot lo hi (split.partition pivot) ∧
      (split.partition pivot).stop ≤ (split.partition pivot).left := by
  fun_induction Split.partition pivot split with
  | case1 split apart ih => exact ih (parted.round inside)
  | case2 split crossed => exact ⟨parted, Nat.le_of_not_lt crossed⟩

end Parted

theorem round_shrinks (pivot : α) (split : Split α) :
    split.left ≤ (split.round pivot).left ∧ (split.round pivot).stop ≤ split.stop := by
  have left := le_advanceLeft split.arr pivot split.left
  have stop := retreatRight_le split.arr pivot split.stop
  simp only [Split.round]
  split <;> dsimp only <;> omega

theorem partition_shrinks (pivot : α) (split : Split α) :
    split.left ≤ (split.partition pivot).left ∧ (split.partition pivot).stop ≤ split.stop := by
  fun_induction Split.partition pivot split with
  | case1 split apart ih =>
    have first := round_shrinks pivot split
    omega
  | case2 split crossed => exact ⟨Nat.le_refl _, Nat.le_refl _⟩

/-- A partition by an element of the window leaves less on either side. -/
theorem partition_progress {arr : Array α} {pivot : α} {lo hi middle : Nat} (wide : lo < hi)
    (lower : lo ≤ middle) (upper : middle ≤ hi) (found : arr[middle]? = some pivot) :
    lo < ((Split.mk arr lo (hi + 1)).partition pivot).left ∧
      ((Split.mk arr lo (hi + 1)).partition pivot).stop ≤ hi := by
  have left : advanceLeft arr pivot lo ≤ middle := by
    by_contra beyond
    exact lt_irrefl pivot (smaller_of_advanceLeft lower (by omega) found)
  have stop : middle < retreatRight arr pivot (hi + 1) := by
    by_contra beyond
    exact lt_irrefl pivot (greater_of_retreatRight (Nat.le_of_not_lt beyond) (by omega) found)
  have first := le_advanceLeft arr pivot lo
  have last := retreatRight_le arr pivot (hi + 1)
  have later := partition_shrinks pivot ((Split.mk arr lo (hi + 1)).round pivot)
  rw [Split.partition, if_pos (show lo < hi + 1 by omega)]
  have exchanged : (Split.mk arr lo (hi + 1)).round pivot =
      { arr := arr.swapIfInBounds (advanceLeft arr pivot lo) (retreatRight arr pivot (hi + 1) - 1)
        left := advanceLeft arr pivot lo + 1
        stop := retreatRight arr pivot (hi + 1) - 1 } := by
    simp only [Split.round]
    rw [if_pos (by omega)]
  rw [exchanged] at later ⊢
  dsimp only at later
  omega

/-! ## The windows -/

/-- The window holds the rank, what is on its left is not greater than the rest, and what is on its
right is not smaller. -/
structure Window (values : Array α) (rank lo hi : Nat) (arr : Array α) : Prop where
  perm : arr.Perm values
  lower : lo ≤ rank
  upper : rank ≤ hi
  inside : hi < arr.size
  below : ∀ place other value next, place < lo → lo ≤ other → arr[place]? = some value →
    arr[other]? = some next → value ≤ next
  above : ∀ place other value next, place ≤ hi → hi < other → arr[place]? = some value →
    arr[other]? = some next → value ≤ next

/-- Nothing before the rank is greater than its element, and nothing behind it is smaller. -/
structure Pivoted (rank : Nat) (arr : Array α) : Prop where
  before : ∀ place value next, place < rank → arr[place]? = some value → arr[rank]? = some next →
    value ≤ next
  behind : ∀ place value next, rank < place → arr[rank]? = some value → arr[place]? = some next →
    value ≤ next

namespace Window

variable {values arr : Array α} {pivot : α} {rank lo hi : Nat} {split : Split α}

section

variable (window : Window values rank lo hi arr)

include window

/-- A window of one place has its rank in place. -/
theorem closed (narrow : ¬lo < hi) : Pivoted rank arr := by
  have lower := window.lower
  have upper := window.upper
  constructor
  · intro place value next earlier found atRank
    exact window.below place rank value next (by omega) lower found atRank
  · intro place value next later atRank found
    exact window.above rank place value next upper (by omega) atRank found

variable (parted : Parted arr pivot lo hi split)

include parted

variable {place other : Nat}

theorem below_parted {value next : α} (earlier : place < lo) (later : lo ≤ other)
    (found : split.arr[place]? = some value) (atOther : split.arr[other]? = some next) :
    value ≤ next := by
  rw [parted.outside place (.inl earlier)] at found
  by_cases within : other ≤ hi
  · obtain ⟨origin, lower, _, drawn⟩ := parted.drawn other next later within atOther
    exact window.below place origin value next earlier lower found drawn
  · rw [parted.outside other (.inr (by omega))] at atOther
    exact window.below place other value next earlier later found atOther

theorem above_parted {value next : α} (earlier : place ≤ hi) (later : hi < other)
    (found : split.arr[place]? = some value) (atOther : split.arr[other]? = some next) :
    value ≤ next := by
  rw [parted.outside other (.inr later)] at atOther
  by_cases within : lo ≤ place
  · obtain ⟨origin, _, upper, drawn⟩ := parted.drawn place value within earlier found
    exact window.above origin other value next upper later drawn atOther
  · rw [parted.outside place (.inl (by omega))] at found
    exact window.above place other value next earlier later found atOther

/-- What is on the left is not greater than what is on the right. -/
theorem across {value next : α} (passed : place < split.left)
    (beyond : split.stop ≤ other) (found : split.arr[place]? = some value)
    (atOther : split.arr[other]? = some next) (earlier : place ≤ hi) (later : lo ≤ other) :
    value ≤ next := by
  by_cases outer : place < lo
  · exact window.below_parted parted outer later found atOther
  · by_cases further : hi < other
    · exact window.above_parted parted earlier further found atOther
    · exact (parted.smaller place value (by omega) passed found).trans
        (parted.greater other next beyond (by omega) atOther)

/-- A rank between the cursors is in place. -/
theorem between (left : split.stop ≤ rank) (right : rank < split.left) :
    Pivoted rank split.arr := by
  have lower := window.lower
  have upper := window.upper
  constructor
  · intro place value next earlier found atRank
    exact window.across parted (by omega) left found atRank (by omega) lower
  · intro place value next later atRank found
    exact window.across parted right (by omega) atRank found upper (by omega)

variable (crossed : split.stop ≤ split.left)

include crossed

/-- Else the window on its side holds it: the left one, -/
theorem toLeft (inside : rank < split.stop) :
    Window values rank lo (split.stop - 1) split.arr := by
  have sized : split.arr.size = arr.size := parted.perm.size_eq
  have last := parted.stop
  have first := window.inside
  have lower := window.lower
  refine ⟨parted.perm.trans window.perm, lower, by omega, by omega, ?_, ?_⟩
  · intro place other value next earlier later found atOther
    exact window.below_parted parted earlier later found atOther
  · intro place other value next earlier later found atOther
    exact window.across parted (by omega) (by omega) found atOther (by omega) (by omega)

/-- or the right one. -/
theorem toRight (inside : split.left ≤ rank) : Window values rank split.left hi split.arr := by
  have sized : split.arr.size = arr.size := parted.perm.size_eq
  have first := parted.left
  have last := window.inside
  have upper := window.upper
  refine ⟨parted.perm.trans window.perm, inside, upper, by omega, ?_, ?_⟩
  · intro place other value next earlier later found atOther
    exact window.across parted earlier (by omega) found atOther (by omega) (by omega)
  · intro place other value next earlier later found atOther
    exact window.above_parted parted earlier later found atOther

end

/-- The selection ends with the rank in place. -/
theorem selects {fuel : Nat} (window : Window values rank lo hi arr) (enough : hi - lo < fuel) :
    ∃ final, select rank fuel arr lo hi = some final ∧ final.Perm values ∧ Pivoted rank final := by
  induction fuel generalizing arr lo hi with
  | zero => omega
  | succ fuel ih =>
    rw [select]
    by_cases wide : lo < hi
    · have inside := window.inside
      have middle : (lo + hi) / 2 < arr.size := by omega
      have found := Array.getElem?_eq_getElem middle
      have parted := (Parted.start arr arr[(lo + hi) / 2] lo hi).partition inside
      have progress := partition_progress wide (by omega) (by omega) found
      rw [if_pos wide, found]
      dsimp only
      split
      · next onLeft =>
        refine ih (window.toLeft parted.1 parted.2 onLeft) ?_
        have lower := window.lower
        omega
      · next notLeft =>
        split
        · next onRight =>
          refine ih (window.toRight parted.1 parted.2 onRight) ?_
          have upper := window.upper
          omega
        · next notRight =>
          exact ⟨_, rfl, parted.1.perm.trans window.perm,
            window.between parted.1 (by omega) (by omega)⟩
    · rw [if_neg wide]
      exact ⟨arr, rfl, window.perm, window.closed wide⟩

end Window

/-! ## The element of the rank -/

/-- An element with nothing greater before it and nothing smaller behind it is the one of its rank
in the sorted list. -/
theorem getElem?_insertionSort {rank : Nat} {arr : Array α} (pivoted : Pivoted rank arr)
    (inside : rank < arr.size) : (arr.toList.insertionSort (· ≤ ·))[rank]? = arr[rank]? := by
  have sized : rank < arr.toList.length := inside
  have atRank := Array.getElem?_eq_getElem inside
  have front : ∀ value ∈ arr.toList.take rank, value ≤ arr[rank] := by
    intro value member
    obtain ⟨place, bound, rfl⟩ := List.mem_take_iff_getElem.mp member
    exact pivoted.before place _ _ (by omega) (Array.getElem?_eq_getElem (by omega)) atRank
  have rear : ∀ value ∈ arr.toList.drop (rank + 1), arr[rank] ≤ value := by
    intro value member
    obtain ⟨place, bound, rfl⟩ := List.mem_drop_iff_getElem.mp member
    exact pivoted.behind (rank + 1 + place) _ _ (by omega) atRank
      (Array.getElem?_eq_getElem (by rw [Array.length_toList] at bound; omega))
  have parts : arr.toList = arr.toList.take rank ++ arr[rank] :: arr.toList.drop (rank + 1) := by
    rw [← Array.getElem_toList sized, List.cons_getElem_drop_succ, List.take_append_drop]
  have sorted : arr.toList.insertionSort (· ≤ ·) =
      (arr.toList.take rank).insertionSort (· ≤ ·) ++
        arr[rank] :: (arr.toList.drop (rank + 1)).insertionSort (· ≤ ·) := by
    have front' := List.perm_insertionSort (· ≤ ·) (arr.toList.take rank)
    have rear' := List.perm_insertionSort (· ≤ ·) (arr.toList.drop (rank + 1))
    refine List.Perm.eq_of_pairwise' (List.pairwise_insertionSort _ _) ?_ ?_
    · refine List.pairwise_append.mpr ⟨List.pairwise_insertionSort _ _,
        List.pairwise_cons.mpr ⟨fun value member => rear value (rear'.mem_iff.mp member),
          List.pairwise_insertionSort _ _⟩, fun value member next later => ?_⟩
      have atMost := front value (front'.mem_iff.mp member)
      rcases List.mem_cons.mp later with same | behind
      · exact same ▸ atMost
      · exact atMost.trans (rear next (rear'.mem_iff.mp behind))
    · have pieces := (front'.append (rear'.cons arr[rank])).symm
      rw [← parts] at pieces
      exact (List.perm_insertionSort (· ≤ ·) arr.toList).trans pieces
  rw [sorted, List.getElem?_append_right, List.length_insertionSort, List.length_take]
  · rw [Nat.min_eq_left sized.le, Nat.sub_self, atRank]
    rfl
  · rw [List.length_insertionSort, List.length_take]
    omega

/-! ## The percentile -/

/-- The rank is a place of the list. -/
theorem rankOf_lt (share : ℚ → Nat → ℚ) (p : ℚ) {length : Nat} (nonempty : 0 < length) :
    rankOf share p length < length := by
  unfold rankOf
  omega

theorem insertionSort_of_perm {left right : List α} (perm : left.Perm right) :
    left.insertionSort (· ≤ ·) = right.insertionSort (· ≤ ·) :=
  List.Perm.eq_of_pairwise' (List.pairwise_insertionSort _ _) (List.pairwise_insertionSort _ _)
    ((List.perm_insertionSort _ _).trans (perm.trans (List.perm_insertionSort _ _).symm))

/-- The percentile of samples is the sample of its rank in their order; the selection ends, and its
copy holds the samples that it was made of. -/
theorem percentile_selects [Zero α] (share : ℚ → Nat → ℚ) (p : ℚ) (first : α) (rest : List α) :
    ∃ arr : Array α,
      select (rankOf share p (rest.length + 1)) (rest.length + 2) (first :: rest).toArray 0
          rest.length = some arr ∧
        arr.toList.Perm (first :: rest) ∧
        rankOf share p (rest.length + 1) < rest.length + 1 ∧
        percentile share (first :: rest) p =
          ((first :: rest).insertionSort (· ≤ ·))[rankOf share p (rest.length + 1)]? := by
  have inside := rankOf_lt share p (Nat.succ_pos rest.length)
  have window : Window (first :: rest).toArray (rankOf share p (rest.length + 1)) 0 rest.length
      (first :: rest).toArray := by
    refine ⟨.refl _, Nat.zero_le _, Nat.le_of_lt_succ inside, Nat.lt_succ_self _,
      fun _ _ _ _ earlier => absurd earlier (Nat.not_lt_zero _), ?_⟩
    intro place other value next _ beyond _ atOther
    obtain ⟨within, _⟩ := Array.getElem?_eq_some_iff.mp atOther
    exact absurd within (Nat.not_lt.mpr beyond)
  obtain ⟨arr, selected, perm, pivoted⟩ := window.selects
    (show rest.length - 0 < rest.length + 2 by omega)
  have samples : arr.toList.Perm (first :: rest) := perm.toList
  have sized : arr.size = rest.length + 1 := samples.length_eq
  refine ⟨arr, selected, samples, inside, ?_⟩
  have within : rankOf share p (rest.length + 1) < arr.size := by
    rw [sized]
    exact inside
  have atRank := getElem?_insertionSort pivoted within
  rw [insertionSort_of_perm samples] at atRank
  have found := Array.getElem?_eq_getElem within
  simp only [percentile, List.length_cons, Nat.succ_ne_zero, if_false, Nat.add_sub_cancel]
  rw [selected, atRank, Option.map_some, found]
  rfl

end PlugHub.Percentile
