import Mathlib.Data.Int.ModEq
import Mathlib.Data.List.Nodup
import Mathlib.Tactic.Ring

/-!
# The clients of a tick

A tick of the reconciliation takes a batch of the clients, from where the last tick stopped, and
goes on from the first client behind the last one. The cursor is stored between the ticks, while
clients come and go, so that it may lie outside the list when the next tick reads it.
-/

namespace PlugHub.ReconcileTicks

variable {α : Type}

/-! ## The batch of a tick -/

/-- What a tick selects, where the next one starts, and how many clients wait for it. -/
structure ReconcileBatch (α : Type) where
  selected : List α
  nextCursor : Int
  deferredCount : Nat

/-- How many clients a tick takes. -/
def batchSize (length : Nat) (maxClientsPerTick : Int) : Nat :=
  (min (length : Int) (max 1 maxClientsPerTick)).toNat

/-- The cursor, taken into the list. The remainder of the source has the sign of the cursor. -/
def normalizedCursor (length : Nat) (cursor : Int) : Int :=
  (cursor.tmod length + length).tmod length

/-- The places that a tick takes. -/
def selectedPlaces (length : Nat) (cursor maxClientsPerTick : Int) : List Nat :=
  (List.range (batchSize length maxClientsPerTick)).map fun index =>
    ((normalizedCursor length cursor).toNat + index) % length

/-- `selectReconcileClientEntries`. -/
def selectReconcileClientEntries (entries : List α) (cursor maxClientsPerTick : Int) :
    ReconcileBatch α :=
  if entries.length = 0 then { selected := [], nextCursor := 0, deferredCount := 0 }
  else
    let size := batchSize entries.length maxClientsPerTick
    { selected := (selectedPlaces entries.length cursor maxClientsPerTick).filterMap (entries[·]?)
      nextCursor := (normalizedCursor entries.length cursor + size).tmod entries.length
      deferredCount := entries.length - size }

/-- The cursor after some ticks over clients that stay the same. -/
def cursorAfter (entries : List α) (maxClientsPerTick cursor : Int) (ticks : Nat) : Int :=
  (fun earlier => (selectReconcileClientEntries entries earlier maxClientsPerTick).nextCursor)^[ticks]
    cursor

/-! ## The cursor -/

section

variable {length : Nat} (filled : 0 < length)

include filled

/-- The cursor is brought into the list by its remainder. -/
theorem normalizedCursor_eq (cursor : Int) : normalizedCursor length cursor = cursor % length := by
  have lower := Int.lt_tmod_of_pos cursor (show (0 : Int) < length by omega)
  have apart := Int.tmod_add_mul_tdiv cursor length
  unfold normalizedCursor
  rw [Int.tmod_eq_emod_of_nonneg (by omega), Int.add_emod_right]
  calc
    cursor.tmod length % length
      = (cursor.tmod length + length * cursor.tdiv length) % length := by
        rw [Int.add_mul_emod_self_left]
    _ = cursor % length := by rw [apart]

/-- So it is a place of the list. -/
theorem normalizedCursor_bounds (cursor : Int) :
    0 ≤ normalizedCursor length cursor ∧ normalizedCursor length cursor < length := by
  rw [normalizedCursor_eq filled]
  exact ⟨Int.emod_nonneg _ (by omega), Int.emod_lt_of_pos _ (by omega)⟩

/-- A tick takes at least one client, and no more than there are. -/
theorem batchSize_bounds (maxClientsPerTick : Int) :
    0 < batchSize length maxClientsPerTick ∧ batchSize length maxClientsPerTick ≤ length := by
  unfold batchSize
  omega

/-- A tick takes places of the list. -/
theorem selectedPlaces_lt {cursor maxClientsPerTick : Int} {place : Nat}
    (taken : place ∈ selectedPlaces length cursor maxClientsPerTick) : place < length := by
  obtain ⟨index, _, rfl⟩ := List.mem_map.mp taken
  exact Nat.mod_lt _ filled

/-- It takes no place twice. -/
theorem selectedPlaces_nodup (cursor maxClientsPerTick : Int) :
    (selectedPlaces length cursor maxClientsPerTick).Nodup := by
  have size := (batchSize_bounds filled maxClientsPerTick).2
  refine List.Nodup.map_on ?_ List.nodup_range
  intro left leftTaken right rightTaken same
  rw [List.mem_range] at leftTaken rightTaken
  have alike : left ≡ right [MOD length] := Nat.ModEq.add_left_cancel' _ same
  exact alike.eq_of_lt_of_lt (by omega) (by omega)

variable {entries : List α}

/-- A tick moves the cursor by the size of a batch. -/
theorem nextCursor_modEq (sized : entries.length = length) (cursor maxClientsPerTick : Int) :
    (selectReconcileClientEntries entries cursor maxClientsPerTick).nextCursor ≡
      cursor + batchSize length maxClientsPerTick [ZMOD length] := by
  have bounds := normalizedCursor_bounds filled cursor
  have next : (selectReconcileClientEntries entries cursor maxClientsPerTick).nextCursor =
      (normalizedCursor length cursor + batchSize length maxClientsPerTick).tmod length := by
    unfold selectReconcileClientEntries
    rw [sized, if_neg (by omega)]
  rw [next, Int.tmod_eq_emod_of_nonneg (by omega), normalizedCursor_eq filled]
  exact (Int.mod_modEq _ _).trans ((Int.mod_modEq cursor length).add_right _)

/-- And some ticks move it by so many batches. -/
theorem cursorAfter_modEq (sized : entries.length = length)
    (maxClientsPerTick cursor : Int) (ticks : Nat) :
    cursorAfter entries maxClientsPerTick cursor ticks ≡
      cursor + ticks * batchSize length maxClientsPerTick [ZMOD length] := by
  induction ticks with
  | zero => simp [cursorAfter]
  | succ ticks ih =>
    have next := nextCursor_modEq filled sized
      (cursorAfter entries maxClientsPerTick cursor ticks) maxClientsPerTick
    unfold cursorAfter at ih next ⊢
    rw [Function.iterate_succ_apply']
    have later := next.trans (ih.add_right (batchSize length maxClientsPerTick : Int))
    have total : cursor + ticks * batchSize length maxClientsPerTick +
        batchSize length maxClientsPerTick =
        cursor + ((ticks + 1 : Nat) : Int) * batchSize length maxClientsPerTick := by
      push_cast
      ring
    exact total ▸ later

/-- In as many ticks as batches are needed for the list, every place is taken. -/
theorem taken_within (sized : entries.length = length)
    (maxClientsPerTick cursor : Int) (first : Nat) {place : Nat} (inside : place < length) :
    ∃ tick, first ≤ tick ∧
      tick < first + (length + batchSize length maxClientsPerTick - 1) /
        batchSize length maxClientsPerTick ∧
      place ∈ selectedPlaces length (cursorAfter entries maxClientsPerTick cursor tick)
        maxClientsPerTick := by
  obtain ⟨positive, _⟩ := batchSize_bounds filled maxClientsPerTick
  have size : (0 : Int) < length := by omega
  -- how far the place is behind the first one of the first tick
  obtain ⟨distance, below, reached⟩ : ∃ distance < length,
      cursor + first * batchSize length maxClientsPerTick + distance ≡ place [ZMOD length] := by
    have bounds := Int.emod_nonneg
      (place - (cursor + first * batchSize length maxClientsPerTick)) size.ne'
    have upper := Int.emod_lt_of_pos
      (place - (cursor + first * batchSize length maxClientsPerTick)) size
    refine ⟨((place - (cursor + first * batchSize length maxClientsPerTick)) % length).toNat,
      by omega, ?_⟩
    rw [Int.toNat_of_nonneg bounds]
    have apart := (Int.mod_modEq (place - (cursor + first * batchSize length maxClientsPerTick))
      length).add_left (cursor + first * batchSize length maxClientsPerTick)
    rwa [add_sub_cancel] at apart
  have split := Nat.div_add_mod distance (batchSize length maxClientsPerTick)
  have within := Nat.mod_lt distance positive
  generalize batches : distance / batchSize length maxClientsPerTick = passed at split
  generalize distance % batchSize length maxClientsPerTick = index at split within
  refine ⟨first + passed, Nat.le_add_right _ _, ?_, ?_⟩
  · have last : passed ≤ (length - 1) / batchSize length maxClientsPerTick :=
      batches ▸ Nat.div_le_div_right (by omega)
    rw [show length + batchSize length maxClientsPerTick - 1 =
      length - 1 + batchSize length maxClientsPerTick by omega, Nat.add_div_right _ positive]
    omega
  · refine List.mem_map.mpr ⟨index, List.mem_range.mpr within, ?_⟩
    have bounds := normalizedCursor_bounds filled
      (cursorAfter entries maxClientsPerTick cursor (first + passed))
    have current := normalizedCursor_eq filled
      (cursorAfter entries maxClientsPerTick cursor (first + passed))
    have taken : ((normalizedCursor length
        (cursorAfter entries maxClientsPerTick cursor (first + passed))).toNat + index : Int) ≡
        place [ZMOD length] := by
      rw [Int.toNat_of_nonneg bounds.1, current]
      have start := (Int.mod_modEq (cursorAfter entries maxClientsPerTick cursor (first + passed))
        length).trans (cursorAfter_modEq filled sized maxClientsPerTick cursor (first + passed))
      have moved := start.add_right (index : Int)
      have total : cursor + ((first + passed : Nat) : Int) * batchSize length maxClientsPerTick +
          index = cursor + first * batchSize length maxClientsPerTick + distance := by
        rw [← split]
        push_cast
        ring
      exact (total ▸ moved).trans reached
    have places : ((normalizedCursor length
        (cursorAfter entries maxClientsPerTick cursor (first + passed))).toNat + index) ≡
        place [MOD length] := by
      exact_mod_cast taken
    exact Eq.trans places (Nat.mod_eq_of_lt inside)
end

/-! ## The ticks -/

/-- The clients of a tick are those at its places. -/
theorem selected_eq {entries : List α} (filled : 0 < entries.length)
    (cursor maxClientsPerTick : Int) :
    (selectReconcileClientEntries entries cursor maxClientsPerTick).selected =
      (selectedPlaces entries.length cursor maxClientsPerTick).filterMap (entries[·]?) := by
  unfold selectReconcileClientEntries
  rw [if_neg (by omega)]

/-- A lookup that finds every key loses none. -/
theorem map_some_filterMap {β : Type} (lookup : β → Option α) {keys : List β}
    (present : ∀ key ∈ keys, (lookup key).isSome = true) :
    (keys.filterMap lookup).map some = keys.map lookup := by
  induction keys with
  | nil => rfl
  | cons key rest ih =>
    obtain ⟨value, found⟩ := Option.isSome_iff_exists.mp (present key List.mem_cons_self)
    rw [List.filterMap_cons_some found, List.map_cons, List.map_cons, found,
      ih fun other member => present other (List.mem_cons_of_mem _ member)]

/-- A tick takes so many clients at places that differ, and every client is taken within any
consecutive ticks whose batches are enough for the list, whatever cursor was stored. -/
theorem ticks_take_every_client (first : α) (rest : List α) (cursor maxClientsPerTick : Int) :
    let entries := first :: rest
    let length := entries.length
    let size := batchSize length maxClientsPerTick
    (size : Int) = min (length : Int) (max 1 maxClientsPerTick) ∧
      (selectReconcileClientEntries entries cursor maxClientsPerTick).selected.map some =
        (selectedPlaces length cursor maxClientsPerTick).map (entries[·]?) ∧
      (selectedPlaces length cursor maxClientsPerTick).length = size ∧
      (selectedPlaces length cursor maxClientsPerTick).Nodup ∧
      ∀ (start place : Nat) (client : α), entries[place]? = some client →
        ∃ tick, start ≤ tick ∧ tick < start + (length + size - 1) / size ∧
          place ∈ selectedPlaces length (cursorAfter entries maxClientsPerTick cursor tick)
            maxClientsPerTick ∧
          client ∈ (selectReconcileClientEntries entries
            (cursorAfter entries maxClientsPerTick cursor tick) maxClientsPerTick).selected := by
  intro entries length size
  have filled : 0 < entries.length := Nat.succ_pos rest.length
  refine ⟨?_, ?_, ?_, selectedPlaces_nodup filled cursor maxClientsPerTick, ?_⟩
  · exact Int.toNat_of_nonneg (by omega)
  · rw [selected_eq filled]
    refine map_some_filterMap _ fun place taken => ?_
    rw [List.getElem?_eq_getElem (selectedPlaces_lt filled taken)]
    rfl
  · exact (List.length_map _).trans List.length_range
  · intro start place client atPlace
    obtain ⟨inside, _⟩ := List.getElem?_eq_some_iff.mp atPlace
    obtain ⟨tick, later, within, taken⟩ :=
      taken_within filled rfl maxClientsPerTick cursor start inside
    refine ⟨tick, later, within, taken, ?_⟩
    rw [selected_eq filled]
    exact List.mem_filterMap.mpr ⟨place, taken, atPlace⟩

end PlugHub.ReconcileTicks
