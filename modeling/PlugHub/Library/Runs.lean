import Mathlib.Logic.Relation

/-!
# Runs of a total step function

A system is a total step function over a state type: an action that is not enabled
leaves the state as it is, so every list of actions is a run. An invariant of one step is
an invariant of every run, and a condition on the steps of a run (a guard that looks at
the state before the step and at the action) can be assumed while the step lemma is
proved.
-/

namespace PlugHub.Library

/-- What holds of the members of a list and of one more holds of all, with that one at the end. -/
theorem forall_mem_concat {α : Type} {list : List α} {last : α} {Holds : α → Prop}
    (earlier : ∀ item ∈ list, Holds item) (new : Holds last) : ∀ item ∈ list ++ [last], Holds item :=
  List.forall_mem_append.mpr ⟨earlier, List.forall_mem_singleton.mpr new⟩

section Runs

variable {σ α : Type} (step : σ → α → σ)

/-- The state after a list of actions. -/
def run (start : σ) (actions : List α) : σ := actions.foldl step start

@[simp] theorem run_nil (start : σ) : run step start [] = start := rfl

@[simp] theorem run_cons (start : σ) (action : α) (rest : List α) :
    run step start (action :: rest) = run step (step start action) rest := rfl

theorem run_append (start : σ) (first second : List α) :
    run step start (first ++ second) = run step (run step start first) second :=
  List.foldl_append

/-- Every step of the run from a state satisfies a condition on the state before the step
and the action taken. -/
def Meets (guard : σ → α → Prop) : σ → List α → Prop
  | _, [] => True
  | start, action :: rest => guard start action ∧ Meets guard (step start action) rest

instance (guard : σ → α → Prop) [∀ state action, Decidable (guard state action)] :
    ∀ (start : σ) (actions : List α), Decidable (Meets step guard start actions)
  | _, [] => inferInstanceAs (Decidable True)
  | start, action :: rest =>
    have := instDecidableMeets guard (step start action) rest
    inferInstanceAs (Decidable (guard start action ∧ Meets step guard (step start action) rest))

/-- A condition on the actions alone is met when every action satisfies it. -/
theorem meets_of_forall {guard : α → Prop} (start : σ) {actions : List α}
    (every : ∀ action ∈ actions, guard action) :
    Meets step (fun _ action => guard action) start actions := by
  induction actions generalizing start with
  | nil => trivial
  | cons action rest ih =>
    exact ⟨every action List.mem_cons_self,
      ih _ fun later member => every later (List.mem_cons_of_mem _ member)⟩

/-- What one step preserves under its guard, a run whose steps meet the guard preserves. -/
theorem run_invariant_of_meets {guard : σ → α → Prop} {holds : σ → Prop}
    (keeps : ∀ state action, holds state → guard state action → holds (step state action))
    {start : σ} (initially : holds start) {actions : List α}
    (meets : Meets step guard start actions) : holds (run step start actions) := by
  induction actions generalizing start with
  | nil => exact initially
  | cons action rest ih => exact ih (keeps _ _ initially meets.1) meets.2

theorem Meets.of_prefix {guard : σ → α → Prop} {start : σ} {taken actions : List α}
    (meets : Meets step guard start actions) (first : taken <+: actions) :
    Meets step guard start taken := by
  induction taken generalizing start actions with
  | nil => trivial
  | cons head tail ih =>
    cases actions with
    | nil => cases List.prefix_nil.mp first
    | cons action rest =>
      obtain ⟨rfl, within⟩ := List.cons_prefix_cons.mp first
      exact ⟨meets.1, ih meets.2 within⟩

theorem Meets.at_step {guard : σ → α → Prop} {start : σ} {taken actions : List α} {action : α}
    (meets : Meets step guard start actions) (first : taken ++ [action] <+: actions) :
    guard (run step start taken) action := by
  have upTo := meets.of_prefix step first
  induction taken generalizing start actions with
  | nil => exact upTo.1
  | cons head tail ih => exact ih upTo.2 (List.prefix_refl _) upTo.2

/-- What one step preserves under its guard holds in every state of a run whose steps meet the
guard. -/
theorem every_state_of_meets {guard : σ → α → Prop} {holds : σ → Prop}
    (keeps : ∀ state action, holds state → guard state action → holds (step state action))
    {start : σ} (initially : holds start) {actions : List α}
    (meets : Meets step guard start actions) :
    ∀ taken, taken <+: actions → holds (run step start taken) :=
  fun _ first => run_invariant_of_meets step keeps initially (meets.of_prefix step first)

theorem run_invariant {holds : σ → Prop}
    (keeps : ∀ state action, holds state → holds (step state action))
    {start : σ} (initially : holds start) (actions : List α) :
    holds (run step start actions) := by
  induction actions generalizing start with
  | nil => exact initially
  | cons action rest ih => exact ih (keeps _ _ initially)

/-- What one step keeps of the actions taken so far and of the state, a run keeps. -/
theorem run_history {holds : List α → σ → Prop}
    (keeps : ∀ taken state action, holds taken state → holds (taken ++ [action]) (step state action))
    {start : σ} (initially : holds [] start) (actions : List α) :
    holds actions (run step start actions) := by
  have continued (taken rest : List α) (state : σ) (now : holds taken state) :
      holds (taken ++ rest) (run step state rest) := by
    induction rest generalizing taken state with
    | nil => rwa [List.append_nil]
    | cons action rest ih =>
      have later := ih (taken ++ [action]) (step state action) (keeps taken state action now)
      rwa [List.append_assoc] at later
  exact continued [] actions start initially

/-- When the steps that meet a guard are exactly those that keep a property, the runs whose steps
all meet the guard are exactly those in which the property holds in every state reached. An
invariant of the steps that meet the guard may be assumed. -/
theorem meets_iff_every_state {guard : σ → α → Prop} {sound holds : σ → Prop}
    (keeps : ∀ state action, sound state → holds state → guard state action →
      sound (step state action))
    (decides : ∀ state action, sound state → holds state →
      (guard state action ↔ holds (step state action)))
    {start : σ} (initially : sound start) (fine : holds start) (actions : List α) :
    Meets step guard start actions ↔
      ∀ taken, taken <+: actions → holds (run step start taken) := by
  induction actions generalizing start with
  | nil =>
    refine ⟨fun _ taken first => ?_, fun _ => trivial⟩
    rw [List.prefix_nil.mp first]
    exact fine
  | cons action rest ih =>
    constructor
    · rintro ⟨met, later⟩ taken first
      cases taken with
      | nil => exact fine
      | cons head tail =>
        obtain ⟨rfl, within⟩ := List.cons_prefix_cons.mp first
        have next := (decides start head initially fine).mp met
        exact (ih (keeps start head initially fine met) next).mp later tail within
    · intro every
      have next : holds (step start action) := every [action] ⟨rest, rfl⟩
      have met := (decides start action initially fine).mpr next
      refine ⟨met, ?_⟩
      refine (ih (keeps start action initially fine met) next).mpr fun taken first => ?_
      exact every (action :: taken) (List.cons_prefix_cons.mpr ⟨rfl, first⟩)

/-- When, under an invariant of the steps that meet a guard, a step meets the guard exactly when it
has a property, the runs whose steps all meet the guard are exactly those whose steps all have the
property. -/
theorem meets_iff_every_step {guard has : σ → α → Prop} {sound : σ → Prop}
    (keeps : ∀ state action, sound state → guard state action → sound (step state action))
    (decides : ∀ state action, sound state → (guard state action ↔ has state action))
    {start : σ} (initially : sound start) (actions : List α) :
    Meets step guard start actions ↔
      ∀ taken action, taken ++ [action] <+: actions → has (run step start taken) action := by
  induction actions generalizing start with
  | nil =>
    refine ⟨fun _ taken action first => ?_, fun _ => trivial⟩
    have blank := List.prefix_nil.mp first
    simp at blank
  | cons head rest ih =>
    constructor
    · rintro ⟨met, later⟩ taken action first
      cases taken with
      | nil =>
        obtain ⟨rfl, -⟩ := List.cons_prefix_cons.mp first
        exact (decides start action initially).mp met
      | cons earlier tail =>
        obtain ⟨rfl, within⟩ := List.cons_prefix_cons.mp first
        exact (ih (keeps start earlier initially met)).mp later tail action within
    · intro every
      have met := (decides start head initially).mpr (every [] head ⟨rest, rfl⟩)
      refine ⟨met, (ih (keeps start head initially met)).mpr fun taken action first => ?_⟩
      exact every (head :: taken) action (List.cons_prefix_cons.mpr ⟨rfl, first⟩)

end Runs

end PlugHub.Library
