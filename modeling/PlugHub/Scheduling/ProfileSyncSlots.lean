import PlugHub.Library.Accounting
import PlugHub.Library.Runs

/-!
# Slots for profile synchronisation

The gate that limits how many profile synchronisations run at a time. A call that finds a free slot
takes it at once; otherwise it waits. A release function takes one from the count and resolves the
promise of the first waiter, and the waiter adds itself to the count when its continuation runs, in
a later microtask. Calls are numbered in the order in which they are made.
-/

namespace PlugHub.Scheduling

open Library
open OrderedMap

/-- A release function that was returned. -/
structure SyncGrant where
  generation : Nat
  released : Bool := false

/-- The gate. -/
structure ProfileSyncSlots where
  active : Nat := 0
  waitQueue : List Nat := []
  /-- The waiters whose promises were resolved and that have not run. -/
  woken : List Nat := []
  nextCall : Nat := 0
  grants : OrderedMap Nat SyncGrant := OrderedMap.empty
  generation : Nat := 0
  /-- The waiters that were granted a slot, in the order in which they were. -/
  granted : List Nat := []
  /-- The waiters that a reset rejected. -/
  rejected : List Nat := []

/-- What happens to the gate. -/
inductive SlotAction where
  /-- `acquireAgentProfileSyncSlot` is called. -/
  | acquire
  | resume
  /-- The release function of a call is called, for the first time or again. -/
  | release (call : Nat)
  /-- `resetAgentProfileSyncConcurrency` is called. -/
  | reset
deriving DecidableEq

namespace ProfileSyncSlots

/-- The limit in effect. -/
def limit (configured : Nat) : Nat := max 1 configured

/-- A call takes a slot. -/
def take (slots : ProfileSyncSlots) (call : Nat) : ProfileSyncSlots :=
  { slots with
    active := slots.active + 1
    grants := slots.grants.set call { generation := slots.generation } }

/-- What a release function does. -/
def free (slots : ProfileSyncSlots) : ProfileSyncSlots :=
  { slots with
    active := slots.active - 1
    waitQueue := slots.waitQueue.tail
    woken := slots.woken ++ slots.waitQueue.head?.toList }

/-- A release function is called. -/
def callRelease (slots : ProfileSyncSlots) (call : Nat) (grant : SyncGrant) : ProfileSyncSlots :=
  { slots.free with grants := slots.grants.set call { grant with released := true } }

/-- One step of the gate. -/
def step (configured : Nat) (slots : ProfileSyncSlots) : SlotAction → ProfileSyncSlots
  | .acquire =>
    if slots.active < limit configured then
      { slots.take slots.nextCall with nextCall := slots.nextCall + 1 }
    else
      { slots with
        waitQueue := slots.waitQueue ++ [slots.nextCall], nextCall := slots.nextCall + 1 }
  | .resume =>
    match slots.woken with
    | call :: rest =>
      { { slots with woken := rest }.take call with granted := slots.granted ++ [call] }
    | [] => slots
  | .release call =>
    match slots.grants.get call with
    | some grant => slots.callRelease call grant
    | none => slots
  | .reset =>
    { slots with
      waitQueue := [], active := 0, generation := slots.generation + 1,
      rejected := slots.rejected ++ slots.waitQueue }

/-! ## The property -/

/-- A release function whose slot was taken since the last reset and not released. -/
def holds (slots : ProfileSyncSlots) (grant : SyncGrant) : Bool :=
  grant.generation == slots.generation && !grant.released

/-- The number of holders. -/
def holders (slots : ProfileSyncSlots) : Nat :=
  slots.grants.count fun _ grant => slots.holds grant

/-- What has become of every call: it was granted a slot, it waits, or a reset rejected it. -/
structure Accounted (slots : ProfileSyncSlots) : Prop where
  /-- No call is lost. -/
  each : ∀ call < slots.nextCall, slots.grants.get call ≠ none ∨
    call ∈ slots.woken ++ slots.waitQueue ∨ call ∈ slots.rejected
  /-- A call that was granted a slot waits no more. -/
  returned : ∀ call, slots.grants.get call ≠ none →
    call < slots.nextCall ∧ call ∉ slots.woken ++ slots.waitQueue
  /-- A call that was rejected was not granted a slot and waits no more. -/
  refused : ∀ call ∈ slots.rejected, call < slots.nextCall ∧ slots.grants.get call = none ∧
    call ∉ slots.woken ++ slots.waitQueue

/-- The count is the number of holders, which is within the limit, and the waiters are granted
their slots in the order of their calls and exactly once. -/
structure Exact (configured : Nat) (slots : ProfileSyncSlots) : Prop where
  within : slots.holders ≤ limit configured
  counts : slots.active = slots.holders
  /-- The waiters were granted their slots in the order of their calls, and at most once. -/
  ordered : slots.granted.Pairwise (· < ·)
  /-- A call was granted a slot, waits or was refused, and only one of these. -/
  accounted : slots.Accounted
  /-- A call waits only while every slot is held or given to a waiter before it. -/
  busy : slots.waitQueue ≠ [] → limit configured ≤ slots.active + slots.woken.length
  /-- A woken waiter is granted its slot when it runs. -/
  resumes : ∀ call ∈ slots.woken.head?,
    (slots.step configured .resume).grants.get call = some { generation := slots.generation } ∧
      (slots.step configured .resume).granted = slots.granted ++ [call]
  /-- Only a reset rejects waiters. -/
  rejects : ∀ action, action ≠ .reset →
    (slots.step configured action).rejected = slots.rejected

/-- A release function of an earlier generation, or one that was called before. -/
def Stale (slots : ProfileSyncSlots) (call : Nat) : Prop :=
  ∀ grant ∈ slots.grants.get call, slots.holds grant = false

instance (slots : ProfileSyncSlots) (call : Nat) : Decidable (slots.Stale call) :=
  inferInstanceAs (Decidable (∀ grant ∈ slots.grants.get call, slots.holds grant = false))

/-- A release function that is stale changes neither the count nor the waiters. -/
def Inert (configured : Nat) (slots : ProfileSyncSlots) : SlotAction → Prop
  | .release call => slots.Stale call →
    (slots.step configured (.release call)).active = slots.active ∧
      (slots.step configured (.release call)).waitQueue = slots.waitQueue ∧
      (slots.step configured (.release call)).woken = slots.woken ∧
      (slots.step configured (.release call)).holders = slots.holders
  | _ => True

/-- No call arrives while the waiters that were woken and have not run fill the free slots, and a
stale release function is called only when the count is zero and nobody waits. -/
def Disciplined (configured : Nat) (slots : ProfileSyncSlots) : SlotAction → Prop
  | .acquire => slots.active < limit configured →
    slots.active + slots.woken.length < limit configured
  | .release call => slots.grants.has call = true → slots.Stale call →
    slots.active = 0 ∧ slots.waitQueue = []
  | _ => True

instance (configured : Nat) (slots : ProfileSyncSlots) :
    ∀ action, Decidable (slots.Disciplined configured action)
  | .acquire => inferInstanceAs (Decidable (_ → _))
  | .release call => inferInstanceAs (Decidable (_ → slots.Stale call → _ ∧ _))
  | .resume => inferInstanceAs (Decidable True)
  | .reset => inferInstanceAs (Decidable True)

/-! ## The invariant -/

/-- The gate in a disciplined run. -/
structure Sound (configured : Nat) (slots : ProfileSyncSlots) : Prop where
  within : slots.active + slots.woken.length ≤ limit configured
  counts : slots.active = slots.holders
  ordered : (slots.granted ++ slots.woken ++ slots.waitQueue).Pairwise (· < ·)
  made : ∀ call ∈ slots.granted ++ slots.woken ++ slots.waitQueue, call < slots.nextCall
  accounted : slots.Accounted
  busy : slots.waitQueue ≠ [] → limit configured ≤ slots.active + slots.woken.length
  past : ∀ call grant, slots.grants.get call = some grant → grant.generation ≤ slots.generation

variable {configured : Nat} {slots : ProfileSyncSlots}

theorem holders_take {call : Nat} (absent : slots.grants.get call = none) :
    (slots.take call).holders = slots.holders + 1 := by
  unfold holders take
  rw [count_set_of_absent _ _ _ absent]
  simp [holds]

theorem holders_release {call : Nat} {grant : SyncGrant}
    (found : slots.grants.get call = some grant) :
    (slots.callRelease call grant).holders + (if slots.holds grant then 1 else 0) =
      slots.holders := by
  have counted := count_set_of_present slots.grants { grant with released := true }
    (fun _ grant => slots.holds grant) found
  have marked : slots.holds { grant with released := true } = false := by simp [holds]
  rw [marked] at counted
  exact counted

theorem woken_free (slots : ProfileSyncSlots) :
    slots.free.woken ++ slots.free.waitQueue = slots.woken ++ slots.waitQueue := by
  unfold free
  cases slots.waitQueue with
  | nil | cons first rest => simp

theorem get_set_ne_none {call other : Nat} (grant : SyncGrant)
    (present : slots.grants.get call ≠ none) : (slots.grants.set other grant).get call ≠ none := by
  rw [get_set]
  split_ifs
  · exact Option.some_ne_none grant
  · exact present

namespace Accounted

section

variable (accounted : slots.Accounted)

include accounted

theorem absent : slots.grants.get slots.nextCall = none := by
  by_contra present
  exact Nat.lt_irrefl _ (accounted.returned slots.nextCall present).1

theorem acquire (configured : Nat)
    (made : ∀ call ∈ slots.woken ++ slots.waitQueue, call < slots.nextCall) :
    (slots.step configured .acquire).Accounted := by
  have fresh : ∀ call < slots.nextCall, call ≠ slots.nextCall := fun _ => Nat.ne_of_lt
  simp only [step]
  split_ifs with free
  · refine ⟨fun call before => ?_, fun call present => ?_, fun call refused => ?_⟩
    · rcases Nat.lt_succ_iff_lt_or_eq.mp before with earlier | rfl
      · rcases accounted.each call earlier with present | rest
        · exact .inl (get_set_ne_none _ present)
        · exact .inr rest
      · exact .inl (by simp [take])
    · by_cases same : call = slots.nextCall
      · subst same
        exact ⟨Nat.lt_succ_self _, fun waits => Nat.lt_irrefl _ (made _ waits)⟩
      · have kept : slots.grants.get call ≠ none := by
          rwa [← get_set_of_ne _ _ same]
        obtain ⟨earlier, apart⟩ := accounted.returned call kept
        exact ⟨Nat.lt_succ_of_lt earlier, apart⟩
    · obtain ⟨earlier, none, apart⟩ := accounted.refused call refused
      refine ⟨Nat.lt_succ_of_lt earlier, ?_, apart⟩
      exact (get_set_of_ne _ _ (fresh call earlier)).trans none
  · have apart : ∀ call < slots.nextCall, call ∉ slots.woken ++ slots.waitQueue →
        call ∉ slots.woken ++ (slots.waitQueue ++ [slots.nextCall]) := by
      intro call earlier apart waits
      rw [← List.append_assoc] at waits
      rcases List.mem_append.mp waits with known | last
      · exact apart known
      · exact fresh call earlier (List.mem_singleton.mp last)
    refine ⟨fun call before => ?_, fun call present => ?_, fun call refused => ?_⟩
    · rcases Nat.lt_succ_iff_lt_or_eq.mp before with earlier | rfl
      · rcases accounted.each call earlier with present | waits | refused
        · exact .inl present
        · refine .inr (.inl ?_)
          rw [← List.append_assoc]
          exact List.mem_append_left _ waits
        · exact .inr (.inr refused)
      · exact .inr (.inl (by simp))
    · obtain ⟨earlier, waitless⟩ := accounted.returned call present
      exact ⟨Nat.lt_succ_of_lt earlier, apart call earlier waitless⟩
    · obtain ⟨earlier, none, waitless⟩ := accounted.refused call refused
      exact ⟨Nat.lt_succ_of_lt earlier, none, apart call earlier waitless⟩

theorem resume (configured : Nat)
    (ordered : (slots.woken ++ slots.waitQueue).Pairwise (· < ·))
    (made : ∀ call ∈ slots.woken ++ slots.waitQueue, call < slots.nextCall) :
    (slots.step configured .resume).Accounted := by
  simp only [step]
  split
  · rename_i first rest woken
    obtain ⟨each, returned, refused⟩ := accounted
    rw [woken, List.cons_append] at ordered made each returned refused
    refine ⟨fun call before => ?_, fun call present => ?_, fun call out => ?_⟩
    · rcases each call before with present | waits | out
      · exact .inl (get_set_ne_none _ present)
      · rcases List.mem_cons.mp waits with rfl | later
        · exact .inl (by simp [take])
        · exact .inr (.inl later)
      · exact .inr (.inr out)
    · by_cases same : call = first
      · subst same
        exact ⟨made call List.mem_cons_self,
          fun waits => Nat.lt_irrefl _ (List.rel_of_pairwise_cons ordered waits)⟩
      · have kept : slots.grants.get call ≠ none := by
          rwa [← get_set_of_ne _ _ same]
        obtain ⟨earlier, apart⟩ := returned call kept
        exact ⟨earlier, fun waits => apart (List.mem_cons_of_mem _ waits)⟩
    · obtain ⟨earlier, none, apart⟩ := refused call out
      have differs : call ≠ first := fun same => apart (same ▸ List.mem_cons_self)
      exact ⟨earlier, (get_set_of_ne _ _ differs).trans none,
        fun waits => apart (List.mem_cons_of_mem _ waits)⟩
  · exact accounted

theorem release (configured call : Nat) :
    (slots.step configured (.release call)).Accounted := by
  simp only [step]
  cases found : slots.grants.get call with
  | none => exact accounted
  | some grant =>
    have lists := slots.woken_free
    have known : slots.grants.get call ≠ none := by
      rw [found]
      exact Option.some_ne_none grant
    have kept : ∀ other, (slots.callRelease call grant).grants.get other ≠ none ↔
        slots.grants.get other ≠ none := by
      intro other
      by_cases same : other = call
      · subst same
        simp [callRelease, found]
      · rw [callRelease, get_set_of_ne _ _ same]
    refine ⟨fun other before => ?_, fun other present => ?_, fun other out => ?_⟩
    · rw [kept]
      simp only [callRelease]
      rw [lists]
      exact accounted.each other before
    · simp only [callRelease]
      rw [lists]
      exact accounted.returned other ((kept other).mp present)
    · obtain ⟨earlier, none, apart⟩ := accounted.refused other out
      refine ⟨earlier, not_not.mp fun present => (kept other).mp present none, ?_⟩
      simp only [callRelease]
      rw [lists]
      exact apart

theorem reset (configured : Nat)
    (ordered : (slots.woken ++ slots.waitQueue).Pairwise (· < ·))
    (made : ∀ call ∈ slots.woken ++ slots.waitQueue, call < slots.nextCall) :
    (slots.step configured .reset).Accounted := by
  have fewer : ∀ call, call ∈ slots.woken ++ [] → call ∈ slots.woken ++ slots.waitQueue := by
    intro call waits
    rw [List.append_nil] at waits
    exact List.mem_append_left _ waits
  refine ⟨fun call before => ?_, fun call present => ?_, fun call out => ?_⟩
  · rcases accounted.each call before with present | waits | out
    · exact .inl present
    · rcases List.mem_append.mp waits with woken | queued
      · exact .inr (.inl (List.mem_append_left _ woken))
      · exact .inr (.inr (List.mem_append_right _ queued))
    · exact .inr (.inr (List.mem_append_left _ out))
  · obtain ⟨earlier, apart⟩ := accounted.returned call present
    exact ⟨earlier, fun waits => apart (fewer call waits)⟩
  · rcases List.mem_append.mp out with before | queued
    · obtain ⟨earlier, none, apart⟩ := accounted.refused call before
      exact ⟨earlier, none, fun waits => apart (fewer call waits)⟩
    · have waits : call ∈ slots.woken ++ slots.waitQueue := List.mem_append_right _ queued
      refine ⟨made call waits, not_not.mp fun present => (accounted.returned call present).2 waits,
        fun woken => ?_⟩
      rw [show (slots.step configured .reset).waitQueue = [] from rfl, List.append_nil] at woken
      exact Nat.lt_irrefl _ ((List.pairwise_append.mp ordered).2.2 call woken call queued)

end

end Accounted

namespace Sound

section

variable (sound : Sound configured slots)

include sound

theorem ordered_waiting : (slots.woken ++ slots.waitQueue).Pairwise (· < ·) := by
  have ordered := sound.ordered
  rw [List.append_assoc] at ordered
  exact (List.pairwise_append.mp ordered).2.1

theorem made_waiting : ∀ call ∈ slots.woken ++ slots.waitQueue, call < slots.nextCall := by
  intro call waits
  refine sound.made call ?_
  rw [List.append_assoc]
  exact List.mem_append_right _ waits

theorem acquire (disciplined : slots.Disciplined configured .acquire) :
    Sound configured (slots.step configured .acquire) := by
  have accounted := sound.accounted.acquire configured sound.made_waiting
  simp only [step] at accounted ⊢
  split_ifs at accounted ⊢ with free
  · have absent := sound.accounted.absent
    have room := disciplined free
    refine ⟨?_, ?_, sound.ordered, fun call member => ?_, accounted, fun waits => ?_,
      forall_set (Nat.le_refl _) sound.past⟩
    · simp only [take]
      omega
    · have more := holders_take absent
      have counts := sound.counts
      show slots.active + 1 = (slots.take slots.nextCall).holders
      omega
    · exact Nat.lt_succ_of_lt (sound.made call member)
    · have busy := sound.busy waits
      omega
  · refine ⟨sound.within, sound.counts, ?_, fun call member => ?_, accounted, fun _ => ?_,
      sound.past⟩
    · simp only
      rw [← List.append_assoc]
      refine List.pairwise_append.mpr ⟨sound.ordered, List.pairwise_singleton _ _, ?_⟩
      intro earlier member later last
      rw [List.mem_singleton.mp last]
      exact sound.made earlier member
    · simp only [← List.append_assoc] at member
      exact forall_mem_concat (fun call known => Nat.lt_succ_of_lt (sound.made call known))
        (Nat.lt_succ_self _) call member
    · show limit configured ≤ slots.active + slots.woken.length
      omega

theorem resume :
    Sound configured (slots.step configured .resume) := by
  have accounted := sound.accounted.resume configured sound.ordered_waiting sound.made_waiting
  simp only [step] at accounted ⊢
  split at accounted
  · rename_i call rest woken
    obtain ⟨within, counts, ordered, made, former, busy, past⟩ := sound
    rw [woken] at within ordered made busy
    have absent : slots.grants.get call = none := by
      by_contra present
      exact (former.returned call present).2 (woken ▸ List.mem_cons_self)
    have list : slots.granted ++ [call] ++ rest ++ slots.waitQueue =
        slots.granted ++ call :: rest ++ slots.waitQueue := by simp
    refine ⟨?_, ?_, ?_, ?_, accounted, fun waits => ?_, forall_set (Nat.le_refl _) past⟩
    · simp only [take, List.length_cons] at within ⊢
      omega
    · have more := holders_take absent
      show slots.active + 1 = (slots.take call).holders
      omega
    · simp only [take]
      rw [list]
      exact ordered
    · simp only [take]
      rw [list]
      exact made
    · have before := busy waits
      simp only [take, List.length_cons] at before ⊢
      omega
  · exact sound

theorem release (call : Nat) (disciplined : slots.Disciplined configured (.release call)) :
    Sound configured (slots.step configured (.release call)) := by
  have accounted := sound.accounted.release configured call
  simp only [step] at accounted ⊢
  cases found : slots.grants.get call with
  | none => exact sound
  | some grant =>
    rw [found] at accounted
    simp only at accounted ⊢
    have lists := slots.woken_free
    have released := holders_release found
    have counts := sound.counts
    have within := sound.within
    have stale (ended : slots.holds grant = false) : slots.active = 0 ∧ slots.waitQueue = [] := by
      refine disciplined ?_ fun other held => ?_
      · unfold has
        rw [found]
        rfl
      · rw [found] at held
        cases held
        exact ended
    refine ⟨?_, ?_, ?_, ?_, accounted, fun waits => ?_,
      forall_set (sound.past call grant found) sound.past⟩
    · cases holding : slots.holds grant with
      | true =>
        rw [holding, if_pos rfl] at released
        have one : slots.waitQueue.head?.toList.length ≤ 1 := by
          cases slots.waitQueue <;> simp
        simp only [callRelease, free, List.length_append]
        omega
      | false =>
        obtain ⟨none, empty⟩ := stale holding
        simp only [callRelease, free, empty, none, List.head?_nil, Option.toList_none,
          List.append_nil]
        omega
    · cases holding : slots.holds grant with
      | true =>
        rw [holding, if_pos rfl] at released
        show slots.active - 1 = (slots.callRelease call grant).holders
        omega
      | false =>
        rw [holding, if_neg (by decide)] at released
        have none := (stale holding).1
        show slots.active - 1 = (slots.callRelease call grant).holders
        omega
    · simp only [callRelease]
      rw [List.append_assoc, lists, ← List.append_assoc]
      exact sound.ordered
    · simp only [callRelease]
      rw [List.append_assoc, lists, ← List.append_assoc]
      exact sound.made
    · -- a waiter is left behind only after another was woken
      cases queue : slots.waitQueue with
      | nil => simp [callRelease, free, queue] at waits
      | cons first rest =>
        have busy := sound.busy (by rw [queue]; exact List.cons_ne_nil _ _)
        simp only [callRelease, free, queue, List.head?_cons, Option.toList_some,
          List.length_append, List.length_singleton]
        omega

theorem reset :
    Sound configured (slots.step configured .reset) := by
  have kept : (slots.granted ++ slots.woken ++ []).Sublist
      (slots.granted ++ slots.woken ++ slots.waitQueue) :=
    List.Sublist.append_left (List.nil_sublist _) _
  refine ⟨?_, ?_, sound.ordered.sublist kept, fun call member => ?_,
    sound.accounted.reset configured sound.ordered_waiting sound.made_waiting,
    fun waits => absurd rfl waits,
    fun call grant found => Nat.le_succ_of_le (sound.past call grant found)⟩
  · have within := sound.within
    show 0 + slots.woken.length ≤ _
    omega
  · refine ((count_eq_zero_iff _ _).mpr fun call grant found => ?_).symm
    have past := sound.past call grant found
    have older : grant.generation ≠ slots.generation + 1 := by omega
    show (grant.generation == slots.generation + 1 && !grant.released) = false
    rw [beq_eq_false_iff_ne.mpr older]
    rfl
  · exact sound.made call (kept.subset member)

/-- A disciplined action keeps the slots sound. -/
theorem step (action : SlotAction) (disciplined : slots.Disciplined configured action) :
    Sound configured (slots.step configured action) := by
  cases action with
  | acquire => exact sound.acquire disciplined
  | resume => exact sound.resume
  | release call => exact sound.release call disciplined
  | reset => exact sound.reset

end

theorem initial (configured : Nat) : Sound configured {} where
  within := Nat.zero_le _
  counts := rfl
  ordered := List.Pairwise.nil
  made := fun _ member => absurd member List.not_mem_nil
  accounted := ⟨fun _ before => absurd before (Nat.not_lt_zero _),
    fun _ present => absurd rfl present, fun _ out => absurd out List.not_mem_nil⟩
  busy := fun waits => absurd rfl waits
  past := fun _ _ found => absurd found.symm (Option.some_ne_none _)

theorem rejected_step {action : SlotAction} (goesOn : action ≠ .reset) :
    (slots.step configured action).rejected = slots.rejected := by
  cases action with
  | acquire =>
    simp only [ProfileSyncSlots.step]
    split_ifs <;> rfl
  | resume =>
    simp only [ProfileSyncSlots.step]
    split <;> rfl
  | release call =>
    simp only [ProfileSyncSlots.step]
    cases slots.grants.get call <;> rfl
  | reset => exact absurd rfl goesOn

theorem exact (sound : Sound configured slots) : Exact configured slots :=
  { sound with
    within := by
      have within := sound.within
      have counts := sound.counts
      omega
    ordered := by
      have ordered := sound.ordered
      rw [List.append_assoc] at ordered
      exact (List.pairwise_append.mp ordered).1
    resumes := by
      intro call first
      obtain ⟨rest, woken⟩ := List.head?_eq_some_iff.mp first
      simp only [ProfileSyncSlots.step, woken]
      exact ⟨get_set_self _ _ _, trivial⟩
    rejects := fun _ => rejected_step }

end Sound

/-- The calls are numbered one after the other. -/
theorem nextCall_step (configured : Nat) (slots : ProfileSyncSlots) (action : SlotAction) :
    (slots.step configured action).nextCall =
      slots.nextCall + if action = .acquire then 1 else 0 := by
  cases action with
  | acquire =>
    simp only [step]
    split_ifs <;> rfl
  | resume =>
    simp only [step]
    split <;> rfl
  | release call =>
    simp only [step]
    cases slots.grants.get call <;> rfl
  | reset => rfl

theorem inert_of_disciplined (action : SlotAction)
    (disciplined : slots.Disciplined configured action) : slots.Inert configured action := by
  cases action with
  | release call =>
    intro stale
    simp only [step]
    cases found : slots.grants.get call with
    | none => exact ⟨rfl, rfl, rfl, rfl⟩
    | some grant =>
      have present : slots.grants.has call = true := by
        unfold has
        rw [found]
        rfl
      obtain ⟨none, empty⟩ := disciplined present stale
      have released := holders_release found
      rw [stale grant found, if_neg (by decide)] at released
      refine ⟨?_, ?_, ?_, released⟩
      · show slots.active - 1 = slots.active
        omega
      · show slots.waitQueue.tail = slots.waitQueue
        rw [empty]
        rfl
      · show slots.woken ++ slots.waitQueue.head?.toList = slots.woken
        rw [empty]
        simp
  | acquire | resume | reset => trivial

end ProfileSyncSlots

open ProfileSyncSlots in
/-- In every run in which no call arrives while woken waiters fill the free slots, and in which
stale release functions are called only when the count is zero and nobody waits: in every state
reached, the holders since the last reset are within the limit and are what the count says, and
waiters are granted in the order of their calls and exactly once; and no stale release function
changed anything. -/
theorem profile_sync_slots_when_disciplined (configured : Nat) (actions : List SlotAction)
    (disciplined : Meets (step configured) (Disciplined configured) {} actions) :
    (∀ taken, taken <+: actions → Exact configured (run (step configured) {} taken) ∧
      (run (step configured) {} taken).nextCall = taken.count .acquire) ∧
    ∀ taken action, taken ++ [action] <+: actions →
      Inert configured (run (step configured) {} taken) action := by
  have keeps (slots : ProfileSyncSlots) (action : SlotAction) (sound : Sound configured slots)
      (disciplined : slots.Disciplined configured action) :
      Sound configured (slots.step configured action) := sound.step action disciplined
  have numbered (taken : List SlotAction) (slots : ProfileSyncSlots) (action : SlotAction)
      (counted : slots.nextCall = taken.count .acquire) :
      (slots.step configured action).nextCall = (taken ++ [action]).count .acquire := by
    rw [nextCall_step, counted, List.count_append, List.count_singleton']
  refine ⟨fun taken first => ⟨?_, run_history _ numbered rfl taken⟩, fun taken action first => ?_⟩
  · exact (every_state_of_meets _ keeps (Sound.initial configured) disciplined taken first).exact
  · exact inert_of_disciplined action (disciplined.at_step _ first)

/-- Two calls share one slot: the second waits until the first releases it. -/
def handedOver : List SlotAction := [.acquire, .acquire, .release 0, .resume]

open ProfileSyncSlots in
/-- The waiter holds the slot at the end. -/
theorem handed_over_slot :
    let final := run (step 1) {} handedOver
    Exact 1 final ∧ final.holders = 1 ∧ final.granted = [1] :=
  ⟨(profile_sync_slots_when_disciplined 1 handedOver (by decide)).1 handedOver
    (List.prefix_refl _) |>.1, by decide, by decide⟩

/-- A newcomer takes the slot that was given to a waiter before the waiter runs. -/
def overtaken : List SlotAction := [.acquire, .acquire, .release 0, .acquire, .resume]

open ProfileSyncSlots in
/-- There are two holders of one slot. -/
theorem newcomer_overtakes :
    let final := run (step 1) {} overtaken
    ¬Exact 1 final ∧ final.holders = 2 := by
  refine ⟨fun exact => ?_, by decide⟩
  exact absurd exact.within (by decide)

end PlugHub.Scheduling
