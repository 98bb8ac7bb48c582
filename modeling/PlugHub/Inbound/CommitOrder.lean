import PlugHub.Library.Accounting
import PlugHub.Inbound.Sequencer

/-!
# Order of the commits

The frames of a socket commit in the order in which they were admitted, each at most once, and
none of a generation that is over. The invariant follows the tickets of each socket: those before
the one whose turn it is are done, and a decoded frame waits only behind another one.
-/

namespace PlugHub.Inbound

open Library
open OrderedMap (get_erase get_modify get_set get_set_cases get_set_of_ne get_set_self keys_erase
  set_set)

namespace Sequencer

/-- Where a frame of the running generation can be, by its ticket. -/
def Fits (state : SocketSequencerState) (seq : Nat) : FramePhase → Prop
  | .decoding => state.nextCommitSeq ≤ seq
  | .awaiting => state.nextCommitSeq < seq
  | .resolved .live => seq = state.nextCommitSeq
  | .resolved .stale => False
  | .committing => seq = state.nextCommitSeq
  | .done => seq < state.nextCommitSeq

/-- The frames of the running generation of a socket. -/
structure Lane (frames : OrderedMap Nat InboundFrame) (socketId : SocketId)
    (state : SocketSequencerState) : Prop where
  busy : state.nextCommitSeq < state.nextAdmitSeq
  pending : state.pendingBySeq.keys =
    List.range' state.nextCommitSeq (state.nextAdmitSeq - state.nextCommitSeq)
  owned : ∀ seq < state.nextAdmitSeq, ∃ ref frame, frames.get ref = some frame ∧
    frame.ticket = ⟨socketId, seq, state.generation⟩
  fits : ∀ ref frame, frames.get ref = some frame → frame.ticket.socketId = socketId →
    frame.ticket.generation = state.generation →
    frame.ticket.seq < state.nextAdmitSeq ∧ Fits state frame.ticket.seq frame.phase
  waits : ∀ seq ref, state.waiters.get seq = some ref ↔ ∃ frame, frames.get ref = some frame ∧
    frame.ticket = ⟨socketId, seq, state.generation⟩ ∧ frame.phase = .awaiting

/-- The tickets that were drawn. -/
structure Tickets (frames : OrderedMap Nat InboundFrame)
    (states : OrderedMap SocketId SocketSequencerState) (nextGeneration nextFrame : Nat) :
    Prop where
  numbered : ∀ ref frame, frames.get ref = some frame → ref < nextFrame
  born : ∀ ref frame, frames.get ref = some frame → frame.ticket.generation ≤ nextGeneration
  latest : ∀ socketId state, states.get socketId = some state →
    state.generation ≤ nextGeneration ∧ ∀ ref frame, frames.get ref = some frame →
      frame.ticket.socketId = socketId → frame.ticket.generation ≤ state.generation
  increasing : ∀ first second earlier later, frames.get first = some earlier →
    frames.get second = some later → first < second →
    earlier.ticket.socketId = later.ticket.socketId →
      earlier.ticket.generation < later.ticket.generation ∨
        earlier.ticket.generation = later.ticket.generation ∧
          earlier.ticket.seq < later.ticket.seq

/-- No state of the socket is of the generation of a frame. -/
def Over (states : OrderedMap SocketId SocketSequencerState) (ticket : AgentInboundAdmitTicket) :
    Prop :=
  ∀ state, states.get ticket.socketId = some state → state.generation ≠ ticket.generation

/-- What holds of a frame and the log. -/
structure FrameHistory (sequencer : Sequencer) (ref : Nat) (frame : InboundFrame) : Prop where
  retired : (frame.ticket.socketId, frame.ticket.generation) ∉ sequencer.cleaned →
    Over sequencer.stateBySocketId frame.ticket → frame.phase = .done
  underway : frame.phase = .committing → (frame.ticket.socketId, ref) ∈ sequencer.committed
  complete : (frame.ticket.socketId, frame.ticket.generation) ∉ sequencer.cleaned →
    frame.phase = .done → frame.hasCommit = true →
    (frame.ticket.socketId, ref) ∈ sequencer.committed

/-- What was committed. -/
structure History (sequencer : Sequencer) : Prop where
  cleanedUp : ∀ socketId generation, (socketId, generation) ∈ sequencer.cleaned →
    generation ≤ sequencer.nextGeneration ∧
      ∀ state, sequencer.stateBySocketId.get socketId = some state → state.generation ≠ generation
  frames : ∀ ref frame, sequencer.frames.get ref = some frame → FrameHistory sequencer ref frame
  logged : ∀ socketId ref, (socketId, ref) ∈ sequencer.committed →
    ∃ frame, sequencer.frames.get ref = some frame ∧ frame.ticket.socketId = socketId ∧
      (frame.phase = .committing ∨ frame.phase = .done)
  inOrder : sequencer.committed.Pairwise fun later earlier =>
    later.1 = earlier.1 → earlier.2 < later.2

/-- What holds in every reachable state. -/
structure InStep (sequencer : Sequencer) : Prop where
  tickets : Tickets sequencer.frames sequencer.stateBySocketId sequencer.nextGeneration
    sequencer.nextFrame
  lanes : ∀ socketId state, sequencer.stateBySocketId.get socketId = some state →
    Lane sequencer.frames socketId state
  history : History sequencer

theorem inStep_empty : InStep {} where
  tickets := ⟨nofun, nofun, nofun, nofun⟩
  lanes := nofun
  history := ⟨nofun, nofun, nofun, List.Pairwise.nil⟩

/-! ## Tickets -/

variable {frames : OrderedMap Nat InboundFrame}
  {states : OrderedMap SocketId SocketSequencerState} {nextGeneration nextFrame : Nat}

theorem Tickets.unique (tickets : Tickets frames states nextGeneration nextFrame)
    {first second : Nat} {left right : InboundFrame} (foundLeft : frames.get first = some left)
    (foundRight : frames.get second = some right) (same : left.ticket = right.ticket) :
    first = second := by
  rcases Nat.lt_trichotomy first second with less | equal | greater
  · have order := tickets.increasing first second left right foundLeft foundRight less (by rw [same])
    rw [same] at order
    omega
  · exact equal
  · have order := tickets.increasing second first right left foundRight foundLeft greater
      (by rw [same])
    rw [same] at order
    omega

theorem Tickets.carry (tickets : Tickets frames states nextGeneration nextFrame)
    {others : OrderedMap Nat InboundFrame} {left : OrderedMap SocketId SocketSequencerState}
    (kept : ∀ ref frame, others.get ref = some frame →
      ∃ before, frames.get ref = some before ∧ before.ticket = frame.ticket)
    (fewer : ∀ socketId state, left.get socketId = some state →
      ∃ before, states.get socketId = some before ∧ before.generation = state.generation) :
    Tickets others left nextGeneration nextFrame where
  numbered := by
    intro ref frame found
    obtain ⟨before, stored, -⟩ := kept ref frame found
    exact tickets.numbered ref before stored
  born := by
    intro ref frame found
    obtain ⟨before, stored, same⟩ := kept ref frame found
    rw [← same]
    exact tickets.born ref before stored
  latest := by
    intro socketId state present
    obtain ⟨was, stored, generation⟩ := fewer socketId state present
    obtain ⟨bound, last⟩ := tickets.latest socketId was stored
    rw [← generation]
    refine ⟨bound, fun ref frame found owner => ?_⟩
    obtain ⟨before, storedFrame, same⟩ := kept ref frame found
    rw [← same] at owner ⊢
    exact last ref before storedFrame owner
  increasing := by
    intro first second earlier later foundFirst foundSecond less owner
    obtain ⟨before, storedFirst, sameFirst⟩ := kept first earlier foundFirst
    obtain ⟨after, storedSecond, sameSecond⟩ := kept second later foundSecond
    rw [← sameFirst, ← sameSecond] at owner ⊢
    exact tickets.increasing first second before after storedFirst storedSecond less owner

/-! ## Lanes -/

variable {socketId : SocketId} {state : SocketSequencerState}

section

variable (lane : Lane frames socketId state)

include lane

theorem Lane.keep {others : OrderedMap Nat InboundFrame}
    (agree : ∀ ref frame, frame.ticket.socketId = socketId →
      frame.ticket.generation = state.generation →
      (others.get ref = some frame ↔ frames.get ref = some frame)) : Lane others socketId state where
  busy := lane.busy
  pending := lane.pending
  owned := by
    intro seq below
    obtain ⟨ref, frame, found, ticket⟩ := lane.owned seq below
    exact ⟨ref, frame, (agree ref frame (by rw [ticket]) (by rw [ticket])).mpr found, ticket⟩
  fits := fun ref frame found owner generation =>
    lane.fits ref frame ((agree ref frame owner generation).mp found) owner generation
  waits := by
    intro seq ref
    rw [lane.waits]
    constructor
    · rintro ⟨frame, found, ticket, waiting⟩
      exact ⟨frame, (agree ref frame (by rw [ticket]) (by rw [ticket])).mpr found, ticket, waiting⟩
    · rintro ⟨frame, found, ticket, waiting⟩
      exact ⟨frame, (agree ref frame (by rw [ticket]) (by rw [ticket])).mp found, ticket, waiting⟩

theorem Lane.keep_set {ref : Nat} {frame : InboundFrame}
    (found : frames.get ref = some frame)
    (apart : ¬ (frame.ticket.socketId = socketId ∧ frame.ticket.generation = state.generation))
    {changed : InboundFrame} (same : changed.ticket = frame.ticket) :
    Lane (frames.set ref changed) socketId state := by
  refine lane.keep fun other held owner generation => ?_
  by_cases self : other = ref
  · rw [self, get_set_self, found]
    constructor
    · intro equal
      cases equal
      rw [same] at owner generation
      exact absurd ⟨owner, generation⟩ apart
    · intro equal
      cases equal
      exact absurd ⟨owner, generation⟩ apart
  · rw [get_set_of_ne _ _ self]

/-- A frame of the lane moves on within its turn or starts to wait. -/
theorem Lane.replace {next : SocketSequencerState} {ref : Nat} {frame changed : InboundFrame}
    (found : frames.get ref = some frame) (owner : frame.ticket.socketId = socketId)
    (generation : frame.ticket.generation = state.generation) (same : changed.ticket = frame.ticket)
    (fits : Fits state frame.ticket.seq changed.phase)
    (kept : next = { state with waiters := next.waiters })
    (waiters : ∀ seq waiter, next.waiters.get seq = some waiter ↔
      (waiter ≠ ref ∧ state.waiters.get seq = some waiter) ∨
        (waiter = ref ∧ seq = frame.ticket.seq ∧ changed.phase = .awaiting)) :
    Lane (frames.set ref changed) socketId next := by
  have fitsNext : ∀ seq phase, Fits next seq phase ↔ Fits state seq phase := by
    intro seq phase
    rw [kept]
    exact Iff.rfl
  refine ⟨?_, ?_, ?_, ?_, ?_⟩
  · rw [kept]
    exact lane.busy
  · rw [kept]
    exact lane.pending
  · intro seq below
    rw [kept] at below ⊢
    obtain ⟨other, held, stored, ticket⟩ := lane.owned seq below
    by_cases self : other = ref
    · refine ⟨ref, changed, get_set_self _ _ _, ?_⟩
      rw [self, found] at stored
      cases stored
      rw [same]
      exact ticket
    · exact ⟨other, held, (get_set_of_ne _ _ self).trans stored, ticket⟩
  · intro other held stored heldOwner heldGeneration
    rw [fitsNext]
    rw [kept] at heldGeneration ⊢
    rcases get_set_cases stored with ⟨-, new⟩ | ⟨-, before⟩
    · rw [new, same]
      exact ⟨(lane.fits ref frame found owner generation).1, fits⟩
    · exact lane.fits other held before heldOwner heldGeneration
  · intro seq waiter
    rw [waiters, lane.waits]
    have generations : next.generation = state.generation := by rw [kept]
    rw [generations]
    constructor
    · rintro (⟨differs, held, stored, ticket, waiting⟩ | ⟨self, place, waiting⟩)
      · exact ⟨held, (get_set_of_ne _ _ differs).trans stored, ticket, waiting⟩
      · rw [self]
        refine ⟨changed, get_set_self _ _ _, ?_, waiting⟩
        rw [same, place, ← owner, ← generation]
    · rintro ⟨held, stored, ticket, waiting⟩
      rcases get_set_cases stored with ⟨self, new⟩ | ⟨differs, before⟩
      · refine Or.inr ⟨self, ?_, by rw [← new]; exact waiting⟩
        rw [new, same] at ticket
        rw [ticket]
      · exact Or.inl ⟨differs, held, before, ticket, waiting⟩

theorem Lane.admitted {ref : Nat} (fresh : frames.get ref = none) (nowMs : Nat) :
    Lane (frames.set ref { ticket := ⟨socketId, state.nextAdmitSeq, state.generation⟩ }) socketId
      { state with
        nextAdmitSeq := state.nextAdmitSeq + 1
        pendingBySeq := state.pendingBySeq.set state.nextAdmitSeq nowMs } := by
  have busy := lane.busy
  have differs : ∀ {other : Nat} {held : InboundFrame}, frames.get other = some held →
      other ≠ ref := by
    intro other held stored self
    rw [self, fresh] at stored
    cases stored
  refine ⟨Nat.lt_succ_of_lt busy, ?_, ?_, ?_, ?_⟩
  · have absent : state.pendingBySeq.get state.nextAdmitSeq = none := by
      rw [OrderedMap.get_eq_none_iff, lane.pending, List.mem_range'_1]
      omega
    have length : state.nextAdmitSeq + 1 - state.nextCommitSeq =
        (state.nextAdmitSeq - state.nextCommitSeq) + 1 := by omega
    have last : state.nextCommitSeq + (state.nextAdmitSeq - state.nextCommitSeq) =
        state.nextAdmitSeq := by omega
    show (state.pendingBySeq.set state.nextAdmitSeq nowMs).keys = List.range' state.nextCommitSeq
      (state.nextAdmitSeq + 1 - state.nextCommitSeq)
    rw [OrderedMap.keys_set_of_absent _ _ absent, lane.pending, length, List.range'_1_concat, last]
  · intro seq below
    by_cases last : seq = state.nextAdmitSeq
    · exact ⟨ref, _, get_set_self _ _ _, by rw [last]⟩
    · have earlier : seq < state.nextAdmitSeq := by
        have bound : seq < state.nextAdmitSeq + 1 := below
        omega
      obtain ⟨other, held, stored, ticket⟩ := lane.owned seq earlier
      exact ⟨other, held, (get_set_of_ne _ _ (differs stored)).trans stored, ticket⟩
  · intro other held stored owner generation
    rcases get_set_cases stored with ⟨-, new⟩ | ⟨-, before⟩
    · rw [new]
      exact ⟨Nat.lt_succ_self _, Nat.le_of_lt busy⟩
    · obtain ⟨below, fits⟩ := lane.fits other held before owner generation
      refine ⟨Nat.lt_succ_of_lt below, ?_⟩
      cases phase : held.phase with
      | resolved turn => cases turn <;> rw [phase] at fits <;> exact fits
      | _ => rw [phase] at fits; exact fits
  · intro seq waiter
    show state.waiters.get seq = some waiter ↔ _
    rw [lane.waits]
    constructor
    · rintro ⟨held, stored, ticket, waiting⟩
      exact ⟨held, (get_set_of_ne _ _ (differs stored)).trans stored, ticket, waiting⟩
    · rintro ⟨held, stored, ticket, waiting⟩
      rcases get_set_cases stored with ⟨-, new⟩ | ⟨-, before⟩
      · rw [new] at waiting
        cases waiting
      · exact ⟨held, before, ticket, waiting⟩

end

theorem Lane.first {generation : Nat} {ref nowMs : Nat}
    (unused : ∀ other held, frames.get other = some held → held.ticket.socketId = socketId →
      held.ticket.generation ≠ generation) :
    Lane (frames.set ref { ticket := ⟨socketId, 0, generation⟩ }) socketId
      { generation := generation
        nextAdmitSeq := 1
        pendingBySeq := OrderedMap.empty.set 0 nowMs } := by
  refine ⟨Nat.zero_lt_one, rfl, ?_, ?_, ?_⟩
  · intro seq below
    have zero : seq = 0 := Nat.lt_one_iff.mp below
    exact ⟨ref, _, get_set_self _ _ _, by rw [zero]⟩
  · intro other held stored owner same
    rcases get_set_cases stored with ⟨-, new⟩ | ⟨-, before⟩
    · rw [new]
      exact ⟨Nat.zero_lt_one, Nat.le_refl 0⟩
    · exact absurd same (unused other held before owner)
  · intro seq waiter
    refine ⟨nofun, ?_⟩
    rintro ⟨held, stored, ticket, waiting⟩
    rcases get_set_cases stored with ⟨-, new⟩ | ⟨-, before⟩
    · rw [new] at waiting
      cases waiting
    · exact absurd (by rw [ticket]) (unused waiter held before (by rw [ticket]))

/-! ## The end of a turn -/

/-- The tickets of a socket after the turn of one of them. -/
def turned (state : SocketSequencerState) : SocketSequencerState :=
  { state with
    pendingBySeq := state.pendingBySeq.erase state.nextCommitSeq
    nextCommitSeq := state.nextCommitSeq + 1
    waiters := state.waiters.erase (state.nextCommitSeq + 1) }

/-- A frame after the turn of another one, or after its own. -/
def afterTurn (state : SocketSequencerState) (ref other : Nat) (held : InboundFrame) :
    InboundFrame :=
  if other = ref then { held with phase := .done }
  else if state.waiters.get (state.nextCommitSeq + 1) = some other then
    { held with phase := .resolved .live }
  else held

theorem afterTurn_ticket (state : SocketSequencerState) (ref other : Nat) (held : InboundFrame) :
    (afterTurn state ref other held).ticket = held.ticket ∧
      (afterTurn state ref other held).hasCommit = held.hasCommit := by
  unfold afterTurn
  split
  · exact ⟨rfl, rfl⟩
  · split <;> exact ⟨rfl, rfl⟩

section Turn

variable {socketId : SocketId} {state : SocketSequencerState} {ref : Nat} {frame : InboundFrame}
  {after : OrderedMap Nat InboundFrame}

section

variable (lane : Lane frames socketId state)

include lane

section

variable (tickets : Tickets frames states nextGeneration nextFrame)

include tickets

/-- Where the frames of the lane are after a turn. -/
theorem Lane.fits_afterTurn (found : frames.get ref = some frame)
    (ticket : frame.ticket = ⟨socketId, state.nextCommitSeq, state.generation⟩)
    {other : Nat} {held : InboundFrame} (stored : frames.get other = some held)
    (owner : held.ticket.socketId = socketId) (same : held.ticket.generation = state.generation) :
    Fits (turned state) held.ticket.seq (afterTurn state ref other held).phase := by
  obtain ⟨-, fits⟩ := lane.fits other held stored owner same
  unfold afterTurn
  by_cases self : other = ref
  · rw [if_pos self]
    rw [self, found] at stored
    cases stored
    rw [ticket]
    exact Nat.lt_succ_self _
  · rw [if_neg self]
    have apart : held.ticket.seq ≠ state.nextCommitSeq := by
      intro place
      refine self (tickets.unique stored found ?_)
      rw [ticket, ← place, ← owner, ← same]
    by_cases called : state.waiters.get (state.nextCommitSeq + 1) = some other
    · rw [if_pos called]
      obtain ⟨waiter, waiterStored, waiterTicket, -⟩ := (lane.waits _ _).mp called
      rw [stored] at waiterStored
      cases waiterStored
      show held.ticket.seq = state.nextCommitSeq + 1
      rw [waiterTicket]
    · rw [if_neg called]
      cases phase : held.phase with
      | decoding =>
        rw [phase] at fits
        have reached : state.nextCommitSeq ≤ held.ticket.seq := fits
        show state.nextCommitSeq + 1 ≤ held.ticket.seq
        omega
      | awaiting =>
        rw [phase] at fits
        have reached : state.nextCommitSeq < held.ticket.seq := fits
        show state.nextCommitSeq + 1 < held.ticket.seq
        have notNext : held.ticket.seq ≠ state.nextCommitSeq + 1 := by
          intro next
          refine called ((lane.waits _ _).mpr ⟨held, stored, ?_, phase⟩)
          rw [← next, ← owner, ← same]
        omega
      | resolved turn =>
        rw [phase] at fits
        cases turn with
        | live => exact absurd fits apart
        | stale => exact absurd fits id
      | committing =>
        rw [phase] at fits
        exact absurd fits apart
      | done =>
        rw [phase] at fits
        have past : held.ticket.seq < state.nextCommitSeq := fits
        show held.ticket.seq < state.nextCommitSeq + 1
        omega

/-- The lane after a turn that was not the last. -/
theorem Lane.turned (found : frames.get ref = some frame)
    (ticket : frame.ticket = ⟨socketId, state.nextCommitSeq, state.generation⟩)
    (effect : ∀ other, after.get other = (frames.get other).map (afterTurn state ref other))
    (more : state.nextCommitSeq + 1 < state.nextAdmitSeq) :
    Lane after socketId (Sequencer.turned state) := by
  refine ⟨more, ?_, ?_, ?_, ?_⟩
  · show (state.pendingBySeq.erase state.nextCommitSeq).keys = List.range' (state.nextCommitSeq + 1)
      (state.nextAdmitSeq - (state.nextCommitSeq + 1))
    have length : state.nextAdmitSeq - state.nextCommitSeq =
        (state.nextAdmitSeq - (state.nextCommitSeq + 1)) + 1 := by omega
    rw [keys_erase, lane.pending, length, List.range'_succ]
    rw [List.filter_cons_of_neg (by simp)]
    refine List.filter_eq_self.mpr fun seq member => ?_
    rw [List.mem_range'_1] at member
    simp only [ne_eq, decide_eq_true_eq]
    omega
  · intro seq below
    obtain ⟨other, held, stored, drawn⟩ := lane.owned seq below
    refine ⟨other, afterTurn state ref other held, ?_, ?_⟩
    · rw [effect, stored]
      rfl
    · rw [(afterTurn_ticket state ref other held).1]
      exact drawn
  · intro other changed stored owner same
    rw [effect] at stored
    obtain ⟨held, before, rfl⟩ := Option.map_eq_some_iff.mp stored
    rw [(afterTurn_ticket state ref other held).1] at owner same ⊢
    exact ⟨(lane.fits other held before owner same).1,
      lane.fits_afterTurn tickets found ticket before owner same⟩
  · intro seq waiter
    show (state.waiters.erase (state.nextCommitSeq + 1)).get seq = some waiter ↔ _
    rw [get_erase]
    constructor
    · intro waiting
      by_cases next : seq = state.nextCommitSeq + 1
      · rw [if_pos next] at waiting
        cases waiting
      · rw [if_neg next] at waiting
        obtain ⟨held, stored, drawn, awaits⟩ := (lane.waits seq waiter).mp waiting
        have notSelf : waiter ≠ ref := by
          intro self
          rw [self, found] at stored
          cases stored
          obtain ⟨-, fits⟩ := lane.fits ref frame found (by rw [ticket]) (by rw [ticket])
          rw [awaits] at fits
          have ahead : state.nextCommitSeq < frame.ticket.seq := fits
          rw [ticket] at ahead
          exact Nat.lt_irrefl _ ahead
        have notCalled : state.waiters.get (state.nextCommitSeq + 1) ≠ some waiter := by
          intro called
          obtain ⟨other, otherStored, otherTicket, -⟩ := (lane.waits _ _).mp called
          rw [stored] at otherStored
          cases otherStored
          rw [drawn] at otherTicket
          cases otherTicket
          exact next rfl
        refine ⟨held, ?_, drawn, awaits⟩
        rw [effect, stored]
        simp only [Option.map_some, afterTurn, if_neg notSelf, if_neg notCalled]
    · rintro ⟨changed, stored, drawn, awaits⟩
      rw [effect] at stored
      obtain ⟨held, before, rfl⟩ := Option.map_eq_some_iff.mp stored
      rw [(afterTurn_ticket state ref waiter held).1] at drawn
      unfold afterTurn at awaits
      split at awaits
      · cases awaits
      · split at awaits
        · cases awaits
        · next notCalled =>
          have waiting := (lane.waits seq waiter).mpr ⟨held, before, drawn, awaits⟩
          have next : seq ≠ state.nextCommitSeq + 1 := by
            intro place
            rw [place] at waiting
            exact notCalled waiting
          rw [if_neg next]
          exact waiting

theorem Lane.done_afterTurn (found : frames.get ref = some frame)
    (ticket : frame.ticket = ⟨socketId, state.nextCommitSeq, state.generation⟩)
    (last : state.nextCommitSeq + 1 = state.nextAdmitSeq) {other : Nat} {held : InboundFrame}
    (stored : frames.get other = some held) (owner : held.ticket.socketId = socketId)
    (same : held.ticket.generation = state.generation) :
    (afterTurn state ref other held).phase = .done := by
  have fits := lane.fits_afterTurn tickets found ticket stored owner same
  obtain ⟨below, -⟩ := lane.fits other held stored owner same
  cases phase : (afterTurn state ref other held).phase with
  | decoding =>
    rw [phase] at fits
    have reached : state.nextCommitSeq + 1 ≤ held.ticket.seq := fits
    omega
  | awaiting =>
    rw [phase] at fits
    have reached : state.nextCommitSeq + 1 < held.ticket.seq := fits
    omega
  | resolved turn =>
    rw [phase] at fits
    cases turn with
    | live =>
      have place : held.ticket.seq = state.nextCommitSeq + 1 := fits
      omega
    | stale => exact absurd fits id
  | committing =>
    rw [phase] at fits
    have place : held.ticket.seq = state.nextCommitSeq + 1 := fits
    omega
  | done => rfl

end

theorem Lane.idle_iff :
    (¬ (0 < (Sequencer.turned state).pendingBySeq.size ∨
        0 < (Sequencer.turned state).waiters.size) ∧
      (Sequencer.turned state).nextAdmitSeq = (Sequencer.turned state).nextCommitSeq) ↔
    state.nextCommitSeq + 1 = state.nextAdmitSeq := by
  constructor
  · rintro ⟨-, equal⟩
    exact equal.symm
  · intro last
    refine ⟨?_, last.symm⟩
    have pending : (Sequencer.turned state).pendingBySeq.size = 0 := by
      have keys : (state.pendingBySeq.erase state.nextCommitSeq).keys = [] := by
        have length : state.nextAdmitSeq - state.nextCommitSeq = 1 := by omega
        rw [keys_erase, lane.pending, length]
        simp [List.range']
      have sizes : (Sequencer.turned state).pendingBySeq.size =
          (state.pendingBySeq.erase state.nextCommitSeq).keys.length := by
        simp only [Sequencer.turned, OrderedMap.size, OrderedMap.keys, List.length_map]
      rw [sizes, keys]
      rfl
    have waiters : (Sequencer.turned state).waiters.size = 0 := by
      rw [OrderedMap.size_eq_count, OrderedMap.count_eq_zero_iff]
      intro seq waiter waiting
      have kept : state.waiters.get seq = some waiter := by
        have erased : (state.waiters.erase (state.nextCommitSeq + 1)).get seq = some waiter :=
          waiting
        rw [get_erase] at erased
        split at erased
        · cases erased
        · exact erased
      obtain ⟨held, stored, drawn, awaits⟩ := (lane.waits seq waiter).mp kept
      obtain ⟨below, fits⟩ := lane.fits waiter held stored (by rw [drawn]) (by rw [drawn])
      rw [awaits] at fits
      have ahead : state.nextCommitSeq < held.ticket.seq := fits
      omega
    omega

end

end Turn

theorem get_pruneIfIdle (states : OrderedMap SocketId SocketSequencerState) (socketId : SocketId)
    (state : SocketSequencerState) (other : SocketId) :
    (pruneIfIdle (states.set socketId state) socketId state).get other =
      if other = socketId then
        if ¬ (0 < state.pendingBySeq.size ∨ 0 < state.waiters.size) ∧
          state.nextAdmitSeq = state.nextCommitSeq then none else some state
      else states.get other := by
  unfold pruneIfIdle
  by_cases busy : 0 < state.pendingBySeq.size ∨ 0 < state.waiters.size
  · simp only [busy, not_true_eq_false, false_and, if_true, if_false, get_set]
  · by_cases even : state.nextAdmitSeq = state.nextCommitSeq
    · simp only [busy, even, not_false_eq_true, and_self, if_true, if_false, get_erase,
        get_set]
      split <;> rfl
    · simp only [busy, even, and_false, if_false, get_set]

/-- What the end of a turn does. -/
structure Turned (sequencer next : Sequencer) (ref : Nat) (socketId : SocketId)
    (state : SocketSequencerState) : Prop where
  frames : ∀ other, next.frames.get other =
    (sequencer.frames.get other).map (afterTurn state ref other)
  states : ∀ other, next.stateBySocketId.get other =
    if other = socketId then
      if state.nextCommitSeq + 1 = state.nextAdmitSeq then none else some (turned state)
    else sequencer.stateBySocketId.get other
  committed : next.committed = sequencer.committed
  cleaned : next.cleaned = sequencer.cleaned
  nextGeneration : next.nextGeneration = sequencer.nextGeneration
  nextFrame : next.nextFrame = sequencer.nextFrame

variable {sequencer : Sequencer} {ref : Nat} {frame : InboundFrame}

theorem frames_setPhase (found : sequencer.frames.get ref = some frame) (phase : FramePhase) :
    (sequencer.setPhase ref phase).frames =
      sequencer.frames.set ref { frame with phase := phase } :=
  OrderedMap.modify_of_present _ _ found

/-- The turn of a frame of the running generation ends. -/
theorem turned_complete (lane : Lane sequencer.frames frame.ticket.socketId state)
    (found : sequencer.frames.get ref = some frame)
    (present : sequencer.stateBySocketId.get frame.ticket.socketId = some state)
    (generation : frame.ticket.generation = state.generation)
    (place : frame.ticket.seq = state.nextCommitSeq) :
    Turned sequencer ((sequencer.setPhase ref .done).completeAgentInboundCommitTurn frame.ticket)
      ref frame.ticket.socketId state := by
  have running : (sequencer.setPhase ref .done).stateBySocketId.get frame.ticket.socketId =
      some state := present
  have idle := lane.idle_iff
  have first : ∀ other, (sequencer.setPhase ref .done).frames.get other =
      if other = ref then some { frame with phase := .done } else sequencer.frames.get other := by
    intro other
    rw [frames_setPhase found, get_set]
  have notWaiting : state.waiters.get (state.nextCommitSeq + 1) ≠ some ref := by
    intro called
    obtain ⟨held, stored, drawn, -⟩ := (lane.waits _ _).mp called
    rw [found] at stored
    cases stored
    rw [drawn] at place
    exact absurd place (Nat.succ_ne_self _)
  unfold completeAgentInboundCommitTurn
  rw [running]
  simp only [generation, ne_eq, not_true_eq_false, if_false, place, advance]
  cases called : state.waiters.get (state.nextCommitSeq + 1) with
  | none =>
    have same : { state with
        pendingBySeq := state.pendingBySeq.erase state.nextCommitSeq
        nextCommitSeq := state.nextCommitSeq + 1 } = turned state := by
      rw [turned, OrderedMap.erase_of_absent _ called]
    simp only [same]
    refine ⟨?_, ?_, rfl, rfl, rfl, rfl⟩
    · intro other
      show (sequencer.setPhase ref .done).frames.get other = _
      rw [first]
      unfold afterTurn
      rw [called]
      by_cases self : other = ref
      · rw [if_pos self, self, found]
        simp only [Option.map_some, if_true]
      · simp only [self, if_false, reduceCtorEq]
        exact Option.map_id'.symm
    · intro other
      show (pruneIfIdle (sequencer.stateBySocketId.set _ _) _ _).get other = _
      rw [get_pruneIfIdle]
      simp only [idle]
  | some waiter =>
    refine ⟨?_, ?_, rfl, rfl, rfl, rfl⟩
    · intro other
      show ((sequencer.setPhase ref .done).frames.modify waiter _).get other = _
      rw [get_modify, first, first]
      unfold afterTurn
      rw [called]
      have apart : waiter ≠ ref := by
        intro self
        rw [self] at called
        exact notWaiting called
      by_cases self : other = ref
      · subst self
        rw [if_neg apart.symm, if_pos rfl, found]
        simp only [Option.map_some, if_true]
      · by_cases chosen : other = waiter
        · subst chosen
          simp only [self, if_false, if_true]
        · have flipped : waiter ≠ other := fun equal => chosen equal.symm
          simp only [self, chosen, flipped, if_false, Option.some.injEq]
          exact Option.map_id'.symm
    · intro other
      show (pruneIfIdle (sequencer.stateBySocketId.set _ (turned state)) _ (turned state)).get
        other = _
      rw [get_pruneIfIdle]
      simp only [idle]

theorem complete_of_over {ticket : AgentInboundAdmitTicket}
    (isOver : Over sequencer.stateBySocketId ticket) :
    sequencer.completeAgentInboundCommitTurn ticket = sequencer := by
  unfold completeAgentInboundCommitTurn
  cases present : sequencer.stateBySocketId.get ticket.socketId with
  | none => rfl
  | some state =>
    have differs := isOver state present
    simp only [ne_eq, differs, not_false_eq_true, if_true]

/-! ## Steps -/

theorem current_or_over (states : OrderedMap SocketId SocketSequencerState)
    (ticket : AgentInboundAdmitTicket) :
    (∃ state, states.get ticket.socketId = some state ∧ ticket.generation = state.generation) ∨
      Over states ticket := by
  cases present : states.get ticket.socketId with
  | none =>
    refine Or.inr fun state found => ?_
    rw [present] at found
    cases found
  | some state =>
    by_cases same : ticket.generation = state.generation
    · exact Or.inl ⟨state, rfl, same⟩
    · refine Or.inr fun other found => ?_
      rw [present] at found
      cases found
      exact fun equal => same equal.symm

theorem afterTurn_of_not_waiting
    (lane : Lane frames socketId state) {other : Nat} {held : InboundFrame}
    (stored : frames.get other = some held) (moved : held.phase ≠ .awaiting)
    (differs : other ≠ ref) :
    afterTurn state ref other held = held := by
  unfold afterTurn
  rw [if_neg differs]
  split
  · next called =>
    obtain ⟨waiter, found, -, waiting⟩ := (lane.waits _ _).mp called
    rw [stored] at found
    cases found
    exact absurd waiting moved
  · rfl

theorem afterTurn_of_other (lane : Lane frames socketId state) (found : frames.get ref = some frame)
    (own : frame.ticket.socketId = socketId ∧ frame.ticket.generation = state.generation)
    {other : Nat} {held : InboundFrame} (stored : frames.get other = some held)
    (apart : ¬ (held.ticket.socketId = socketId ∧ held.ticket.generation = state.generation)) :
    afterTurn state ref other held = held := by
  unfold afterTurn
  have differs : other ≠ ref := by
    intro self
    rw [self, found] at stored
    cases stored
    exact apart own
  rw [if_neg differs]
  split
  · next called =>
    obtain ⟨waiter, waiterStored, drawn, -⟩ := (lane.waits _ _).mp called
    rw [stored] at waiterStored
    cases waiterStored
    exact absurd (by rw [drawn]; exact ⟨rfl, rfl⟩) apart
  · rfl

variable {next : Sequencer}

section

variable (present : sequencer.stateBySocketId.get socketId = some state)
    (found : sequencer.frames.get ref = some frame)
    (ticket : frame.ticket = ⟨socketId, state.nextCommitSeq, state.generation⟩)
    (effect : Turned sequencer next ref socketId state)
    (committed : frame.hasCommit = true → (socketId, ref) ∈ sequencer.committed)

include present found ticket effect committed

theorem History.turned (history : History sequencer) (lane : Lane sequencer.frames socketId state)
    (tickets : Tickets sequencer.frames states nextGeneration nextFrame) : History next := by
  have own : frame.ticket.socketId = socketId ∧ frame.ticket.generation = state.generation := by
    rw [ticket]
    exact ⟨rfl, rfl⟩
  have earlier : ∀ {other changed}, next.frames.get other = some changed →
      ∃ held, sequencer.frames.get other = some held ∧
        changed = afterTurn state ref other held := by
    intro other changed stored
    rw [effect.frames] at stored
    obtain ⟨held, before, same⟩ := Option.map_eq_some_iff.mp stored
    exact ⟨held, before, same.symm⟩
  refine ⟨?_, ?_, ?_, ?_⟩
  · intro owner generation member
    rw [effect.cleaned] at member
    obtain ⟨bound, gone⟩ := history.cleanedUp owner generation member
    rw [effect.nextGeneration]
    refine ⟨bound, fun running stored => ?_⟩
    rw [effect.states] at stored
    split at stored
    · next same =>
      split at stored
      · cases stored
      · cases stored
        exact gone state (same ▸ present)
    · exact gone running stored
  · intro other changed stored
    obtain ⟨held, before, rfl⟩ := earlier stored
    obtain ⟨sameTicket, sameCommit⟩ := afterTurn_ticket state ref other held
    have known := history.frames other held before
    refine ⟨fun uncleaned isOver => ?_, fun committing => ?_, fun uncleaned done hasCommit => ?_⟩
    · rw [effect.cleaned, sameTicket] at uncleaned
      unfold Over at isOver
      rw [sameTicket] at isOver
      by_cases inLane : held.ticket.socketId = socketId ∧ held.ticket.generation = state.generation
      · by_cases last : state.nextCommitSeq + 1 = state.nextAdmitSeq
        · exact lane.done_afterTurn tickets found ticket last before inLane.1 inLane.2
        · refine absurd inLane.2.symm (isOver (Sequencer.turned state) ?_)
          rw [effect.states, if_pos inLane.1, if_neg last]
      · rw [afterTurn_of_other lane found own before inLane]
        refine known.retired uncleaned fun running runs same => ?_
        by_cases here : held.ticket.socketId = socketId
        · rw [here, present] at runs
          cases runs
          exact inLane ⟨here, same.symm⟩
        · refine isOver running ?_ same
          rw [effect.states, if_neg here]
          exact runs
    · rw [sameTicket, effect.committed]
      unfold afterTurn at committing
      split at committing
      · cases committing
      · split at committing
        · cases committing
        · exact known.underway committing
    · rw [effect.cleaned, sameTicket] at uncleaned
      rw [sameCommit] at hasCommit
      rw [sameTicket, effect.committed]
      by_cases self : other = ref
      · rw [self, found] at before
        cases before
        rw [self, own.1]
        exact committed hasCommit
      · unfold afterTurn at done
        rw [if_neg self] at done
        split at done
        · cases done
        · exact known.complete uncleaned done hasCommit
  · intro owner other member
    rw [effect.committed] at member
    obtain ⟨held, before, belongs, moved⟩ := history.logged owner other member
    refine ⟨afterTurn state ref other held, ?_, ?_, ?_⟩
    · rw [effect.frames, before]
      rfl
    · rw [(afterTurn_ticket state ref other held).1]
      exact belongs
    · by_cases self : other = ref
      · refine Or.inr ?_
        unfold afterTurn
        rw [if_pos self]
      · have passed : held.phase ≠ .awaiting := by
          rcases moved with phase | phase <;> rw [phase] <;> decide
        rw [afterTurn_of_not_waiting lane before passed self]
        exact moved
  · rw [effect.committed]
    exact history.inOrder

/-- The end of a turn keeps the order. -/
theorem InStep.turned (inStep : InStep sequencer) : InStep next := by
  have lane := inStep.lanes socketId state present
  have own : frame.ticket.socketId = socketId ∧ frame.ticket.generation = state.generation := by
    rw [ticket]
    exact ⟨rfl, rfl⟩
  refine ⟨?_, ?_, .turned present found ticket effect committed inStep.history lane inStep.tickets⟩
  · rw [effect.nextGeneration, effect.nextFrame]
    refine inStep.tickets.carry ?_ ?_
    · intro other changed stored
      rw [effect.frames] at stored
      obtain ⟨held, before, rfl⟩ := Option.map_eq_some_iff.mp stored
      exact ⟨held, before, (afterTurn_ticket state ref other held).1.symm⟩
    · intro owner running stored
      rw [effect.states] at stored
      split at stored
      · next same =>
        split at stored
        · cases stored
        · cases stored
          exact ⟨state, same ▸ present, rfl⟩
      · exact ⟨running, stored, rfl⟩
  · intro owner running stored
    rw [effect.states] at stored
    split at stored
    · next same =>
      split at stored
      · cases stored
      · next more =>
        cases stored
        have busy := lane.busy
        rw [same]
        exact lane.turned inStep.tickets found ticket effect.frames (by omega)
    · next differs =>
      refine (inStep.lanes owner running stored).keep fun other held belongs _ => ?_
      have apart : ¬ (held.ticket.socketId = socketId ∧
          held.ticket.generation = state.generation) := by
        intro both
        exact differs (belongs.symm.trans both.1)
      rw [effect.frames]
      constructor
      · intro moved
        obtain ⟨before, storedBefore, changed⟩ := Option.map_eq_some_iff.mp moved
        have sameTicket : before.ticket = held.ticket := by
          rw [← changed, (afterTurn_ticket state ref other before).1]
        have elsewhere := afterTurn_of_other lane found own storedBefore (by rwa [sameTicket])
        rw [elsewhere] at changed
        rw [← changed]
        exact storedBefore
      · intro before
        rw [before, Option.map_some, afterTurn_of_other lane found own before apart]

end

/-- What holds of a frame goes on to hold while the log grows and its generation is not ended. -/
theorem FrameHistory.keep (known : FrameHistory sequencer ref frame)
    (cleaned : next.cleaned = sequencer.cleaned)
    (isOver : Over next.stateBySocketId frame.ticket → Over sequencer.stateBySocketId frame.ticket)
    (grows : ∀ entry, entry ∈ sequencer.committed → entry ∈ next.committed) :
    FrameHistory next ref frame where
  retired uncleaned ended := known.retired (cleaned ▸ uncleaned) (isOver ended)
  underway committing := grows _ (known.underway committing)
  complete uncleaned done hasCommit :=
    grows _ (known.complete (cleaned ▸ uncleaned) done hasCommit)

theorem kept_of_set (found : frames.get ref = some frame) {changed : InboundFrame}
    (same : changed.ticket = frame.ticket) (other : Nat) (held : InboundFrame)
    (stored : (frames.set ref changed).get other = some held) :
    ∃ before, frames.get other = some before ∧ before.ticket = held.ticket := by
  rcases get_set_cases stored with ⟨self, new⟩ | ⟨-, before⟩
  · rw [self, new]
    exact ⟨frame, found, same.symm⟩
  · exact ⟨held, before, rfl⟩

/-- What a move of one frame does to the sequencer. -/
structure Moved (sequencer next : Sequencer) (ref : Nat) (changed : InboundFrame) : Prop where
  frames : next.frames = sequencer.frames.set ref changed
  cleaned : next.cleaned = sequencer.cleaned
  nextGeneration : next.nextGeneration = sequencer.nextGeneration
  nextFrame : next.nextFrame = sequencer.nextFrame

/-- A frame whose generation is over moves on. -/
theorem InStep.moved_over (inStep : InStep sequencer) (changed : InboundFrame)
    (found : sequencer.frames.get ref = some frame)
    (isOver : Over sequencer.stateBySocketId frame.ticket) (same : changed.ticket = frame.ticket)
    (unfinished : frame.phase ≠ .done) (notAgain : changed.phase ≠ .committing)
    (ends : frame.phase = .committing → changed.phase = .done)
    (move : Moved sequencer next ref changed)
    (states : next.stateBySocketId = sequencer.stateBySocketId)
    (committed : next.committed = sequencer.committed) : InStep next := by
  have history := inStep.history
  have wasCleaned : (frame.ticket.socketId, frame.ticket.generation) ∈ sequencer.cleaned := by
    by_contra uncleaned
    exact unfinished ((history.frames ref frame found).retired uncleaned isOver)
  refine ⟨?_, ?_, ⟨?_, ?_, ?_, ?_⟩⟩
  · rw [move.frames, move.nextGeneration, move.nextFrame, states]
    exact inStep.tickets.carry (kept_of_set found same) fun _ running stored =>
      ⟨running, stored, rfl⟩
  · intro socketId state present
    rw [states] at present
    rw [move.frames]
    refine (inStep.lanes socketId state present).keep_set found ?_ same
    rintro ⟨owner, generation⟩
    exact isOver state (owner ▸ present) generation.symm
  · rw [move.cleaned, move.nextGeneration, states]
    exact history.cleanedUp
  · intro other held stored
    rw [move.frames] at stored
    rcases get_set_cases stored with ⟨-, new⟩ | ⟨-, before⟩
    · have wasCleaned : (held.ticket.socketId, held.ticket.generation) ∈ next.cleaned := by
        rw [new, same, move.cleaned]
        exact wasCleaned
      refine ⟨fun uncleaned => absurd wasCleaned uncleaned, fun committing => ?_,
        fun uncleaned => absurd wasCleaned uncleaned⟩
      rw [new] at committing
      exact absurd committing notAgain
    · refine (history.frames other held before).keep move.cleaned (fun ended => ?_) fun _ member => ?_
      · rw [states] at ended
        exact ended
      · rw [committed]
        exact member
  · intro socketId other member
    rw [committed] at member
    obtain ⟨held, before, owner, phase⟩ := history.logged socketId other member
    rw [move.frames]
    by_cases self : other = ref
    · rw [self, found] at before
      cases before
      refine ⟨changed, by rw [self]; exact get_set_self _ _ _, by rw [same]; exact owner,
        ?_⟩
      rcases phase with committing | done
      · exact Or.inr (ends committing)
      · exact absurd done unfinished
    · exact ⟨held, (get_set_of_ne _ _ self).trans before, owner, phase⟩
  · rw [committed]
    exact history.inOrder

/-- A frame of the running generation moves on within its turn or starts to wait. -/
theorem InStep.moved_current (inStep : InStep sequencer)
    (changed : InboundFrame) (running : SocketSequencerState)
    (found : sequencer.frames.get ref = some frame)
    (present : sequencer.stateBySocketId.get frame.ticket.socketId = some state)
    (generation : frame.ticket.generation = state.generation)
    (same : changed.ticket = frame.ticket) (move : Moved sequencer next ref changed)
    (states : ∀ other, next.stateBySocketId.get other =
      if other = frame.ticket.socketId then some running else sequencer.stateBySocketId.get other)
    (kept : running = { state with waiters := running.waiters })
    (lane : Lane (sequencer.frames.set ref changed) frame.ticket.socketId running)
    (notDone : changed.phase ≠ .done) (before : frame.phase ≠ .committing ∧ frame.phase ≠ .done)
    (log : (changed.phase ≠ .committing ∧ next.committed = sequencer.committed) ∨
      (changed.phase = .committing ∧
        next.committed = (frame.ticket.socketId, ref) :: sequencer.committed ∧
        ∀ other, (frame.ticket.socketId, other) ∈ sequencer.committed → other < ref)) :
    InStep next := by
  have history := inStep.history
  have generations : running.generation = state.generation := by rw [kept]
  have grows : ∀ entry, entry ∈ sequencer.committed → entry ∈ next.committed := by
    intro entry member
    rcases log with ⟨-, unchanged⟩ | ⟨-, extended, -⟩
    · rw [unchanged]
      exact member
    · rw [extended]
      exact List.mem_cons_of_mem _ member
  have stillOver : ∀ ticket, Over next.stateBySocketId ticket →
      Over sequencer.stateBySocketId ticket := by
    intro ticket isOver stateBefore stored equal
    by_cases here : ticket.socketId = frame.ticket.socketId
    · rw [here, present] at stored
      cases stored
      refine isOver running ?_ (generations.trans equal)
      rw [states, if_pos here]
    · refine isOver stateBefore ?_ equal
      rw [states, if_neg here]
      exact stored
  refine ⟨?_, ?_, ⟨?_, ?_, ?_, ?_⟩⟩
  · rw [move.frames, move.nextGeneration, move.nextFrame]
    refine inStep.tickets.carry (kept_of_set found same) fun socketId current stored => ?_
    rw [states] at stored
    split at stored
    · next here =>
      cases stored
      exact ⟨state, here ▸ present, generations.symm⟩
    · exact ⟨current, stored, rfl⟩
  · intro socketId current stored
    rw [states] at stored
    rw [move.frames]
    split at stored
    · next here =>
      cases stored
      rw [here]
      exact lane
    · next differs =>
      refine (inStep.lanes socketId current stored).keep_set found ?_ same
      exact fun both => differs both.1.symm
  · intro socketId isOver member
    rw [move.cleaned] at member
    obtain ⟨bound, gone⟩ := history.cleanedUp socketId isOver member
    rw [move.nextGeneration]
    refine ⟨bound, fun current stored => ?_⟩
    rw [states] at stored
    split at stored
    · next here =>
      cases stored
      rw [generations]
      exact gone state (here ▸ present)
    · exact gone current stored
  · intro other held stored
    rw [move.frames] at stored
    rcases get_set_cases stored with ⟨self, new⟩ | ⟨-, earlier⟩
    · rw [new, self]
      refine ⟨fun _ isOver => ?_, fun committing => ?_, fun _ done => absurd done notDone⟩
      · have overBefore := stillOver changed.ticket isOver
        rw [same] at overBefore
        exact absurd generation.symm (overBefore state present)
      · rw [same]
        rcases log with ⟨notNow, -⟩ | ⟨-, extended, -⟩
        · exact absurd committing notNow
        · rw [extended]
          exact List.mem_cons_self
    · exact (history.frames other held earlier).keep move.cleaned (stillOver held.ticket) grows
  · intro socketId other member
    rw [move.frames]
    have cases_log : (socketId, other) ∈ sequencer.committed ∨
        (changed.phase = .committing ∧ socketId = frame.ticket.socketId ∧ other = ref) := by
      rcases log with ⟨-, unchanged⟩ | ⟨committing, extended, -⟩
      · rw [unchanged] at member
        exact Or.inl member
      · rw [extended, List.mem_cons] at member
        rcases member with new | old
        · cases new
          exact Or.inr ⟨committing, rfl, rfl⟩
        · exact Or.inl old
    rcases cases_log with old | ⟨committing, owner, self⟩
    · obtain ⟨held, earlier, owner, phase⟩ := history.logged socketId other old
      have differs : other ≠ ref := by
        intro self
        rw [self, found] at earlier
        cases earlier
        rcases phase with was | was
        · exact before.1 was
        · exact before.2 was
      exact ⟨held, (get_set_of_ne _ _ differs).trans earlier, owner, phase⟩
    · rw [self]
      exact ⟨changed, get_set_self _ _ _, by rw [same, owner], Or.inl committing⟩
  · rcases log with ⟨-, unchanged⟩ | ⟨-, extended, youngest⟩
    · rw [unchanged]
      exact history.inOrder
    · rw [extended]
      refine List.Pairwise.cons ?_ history.inOrder
      intro entry member owner
      have here : frame.ticket.socketId = entry.1 := owner
      refine youngest entry.2 ?_
      rw [here]
      exact member

theorem InStep.youngest (inStep : InStep sequencer) (found : sequencer.frames.get ref = some frame)
    (present : sequencer.stateBySocketId.get frame.ticket.socketId = some state)
    (generation : frame.ticket.generation = state.generation)
    (answered : frame.phase = .resolved .live) (other : Nat)
    (member : (frame.ticket.socketId, other) ∈ sequencer.committed) : other < ref := by
  have lane := inStep.lanes _ state present
  obtain ⟨held, stored, owner, moved⟩ := inStep.history.logged _ other member
  obtain ⟨-, turn⟩ := lane.fits ref frame found rfl generation
  rw [answered] at turn
  have place : frame.ticket.seq = state.nextCommitSeq := turn
  have apart : other ≠ ref := by
    intro self
    rw [self, found] at stored
    cases stored
    rw [answered] at moved
    rcases moved with phase | phase <;> cases phase
  by_contra above
  have later : ref < other := by omega
  rcases inStep.tickets.increasing ref other frame held found stored later owner.symm with
    older | ⟨same, behind⟩
  · have bound := (inStep.tickets.latest _ state present).2 other held stored owner
    omega
  · obtain ⟨-, fits⟩ := lane.fits other held stored owner (same.symm.trans generation)
    rcases moved with phase | phase
    · rw [phase] at fits
      have here : held.ticket.seq = state.nextCommitSeq := fits
      omega
    · rw [phase] at fits
      have past : held.ticket.seq < state.nextCommitSeq := fits
      omega

theorem ticket_eq (generation : frame.ticket.generation = state.generation)
    (place : frame.ticket.seq = state.nextCommitSeq) :
    frame.ticket = ⟨frame.ticket.socketId, state.nextCommitSeq, state.generation⟩ := by
  rw [← generation, ← place]

theorem InStep.completes (inStep : InStep sequencer) (found : sequencer.frames.get ref = some frame)
    (unfinished : frame.phase = .resolved .live ∨ frame.phase = .committing)
    (committed : ∀ state, sequencer.stateBySocketId.get frame.ticket.socketId = some state →
      frame.ticket.generation = state.generation → frame.hasCommit = true →
      (frame.ticket.socketId, ref) ∈ sequencer.committed) :
    InStep ((sequencer.setPhase ref .done).completeAgentInboundCommitTurn frame.ticket) := by
  rcases current_or_over sequencer.stateBySocketId frame.ticket with
    ⟨state, present, generation⟩ | isOver
  · have lane := inStep.lanes _ state present
    have place : frame.ticket.seq = state.nextCommitSeq := by
      obtain ⟨-, fits⟩ := lane.fits ref frame found rfl generation
      rcases unfinished with phase | phase <;> rw [phase] at fits <;> exact fits
    exact inStep.turned present found (ticket_eq generation place)
      (turned_complete lane found present generation place) (committed state present generation)
  · have overAfter : Over (sequencer.setPhase ref .done).stateBySocketId frame.ticket := isOver
    rw [complete_of_over overAfter]
    refine inStep.moved_over { frame with phase := .done } found isOver rfl ?_ ?_
      (fun _ => rfl) ⟨frames_setPhase found .done, rfl, rfl, rfl⟩ rfl rfl
    · rcases unfinished with phase | phase <;> rw [phase] <;> decide
    · simp

theorem InStep.commitSettles (inStep : InStep sequencer) (ref : Nat) :
    InStep (sequencer.commitSettles ref) := by
  unfold Sequencer.commitSettles
  split
  · exact inStep
  · next frame found =>
    split
    · next committing =>
      exact inStep.completes found (Or.inr committing) fun _ _ _ _ =>
        (inStep.history.frames ref frame found).underway committing
    · exact inStep

theorem InStep.frameResumes (inStep : InStep sequencer) (ref : Nat) :
    InStep (sequencer.frameResumes ref) := by
  unfold Sequencer.frameResumes
  split
  · exact inStep
  · next frame found =>
    split
    · next answered =>
      split
      · next commits =>
        rw [Bool.and_eq_true] at commits
        rcases current_or_over sequencer.stateBySocketId frame.ticket with
          ⟨state, present, generation⟩ | isOver
        · have lane := inStep.lanes _ state present
          obtain ⟨-, fits⟩ := lane.fits ref frame found rfl generation
          rw [answered] at fits
          have notWaiting : ∀ seq, state.waiters.get seq ≠ some ref := by
            intro seq waiting
            obtain ⟨held, stored, -, awaits⟩ := (lane.waits seq ref).mp waiting
            rw [found] at stored
            cases stored
            rw [answered] at awaits
            cases awaits
          refine inStep.moved_current { frame with phase := .committing } state found present
            generation rfl ⟨frames_setPhase found .committing, rfl, rfl, rfl⟩ ?_ rfl ?_ (by simp) ?_ ?_
          · intro other
            by_cases here : other = frame.ticket.socketId
            · rw [if_pos here, here]
              exact present
            · rw [if_neg here]
              rfl
          · refine lane.replace found rfl generation rfl fits rfl fun seq waiter => ?_
            constructor
            · intro waiting
              refine Or.inl ⟨?_, waiting⟩
              intro self
              rw [self] at waiting
              exact notWaiting seq waiting
            · rintro (⟨-, waiting⟩ | ⟨-, -, awaits⟩)
              · exact waiting
              · cases awaits
          · rw [answered]
            decide
          · refine Or.inr ⟨rfl, rfl, ?_⟩
            exact inStep.youngest found present generation answered
        · have notCurrent : sequencer.isAgentInboundTicketCurrent frame.ticket = false := by
            unfold isAgentInboundTicketCurrent
            cases stored : sequencer.stateBySocketId.get frame.ticket.socketId with
            | none => rfl
            | some state => simp [isOver state stored]
          rw [notCurrent] at commits
          cases commits.2
      · next without =>
        refine inStep.completes found (Or.inl answered) fun state present generation hasCommit => ?_
        have current : sequencer.isAgentInboundTicketCurrent frame.ticket = true := by
          simp [isAgentInboundTicketCurrent, present, generation]
        rw [hasCommit, current] at without
        exact absurd rfl without
    · next answered =>
      have isOver : Over sequencer.stateBySocketId frame.ticket := by
        intro state present generation
        obtain ⟨-, fits⟩ := (inStep.lanes _ state present).fits ref frame found rfl generation.symm
        rw [answered] at fits
        exact fits
      refine inStep.moved_over { frame with phase := .done } found isOver rfl ?_ (by simp)
        (fun _ => rfl) ⟨frames_setPhase found .done, rfl, rfl, rfl⟩ rfl rfl
      rw [answered]
      decide
    · exact inStep

theorem Lane.waiters_set
    (lane : Lane frames socketId state) (tickets : Tickets frames states nextGeneration nextFrame)
    (found : frames.get ref = some frame) (owner : frame.ticket.socketId = socketId)
    (generation : frame.ticket.generation = state.generation) (awake : frame.phase ≠ .awaiting)
    (seq waiter : Nat) :
    (state.waiters.set frame.ticket.seq ref).get seq = some waiter ↔
      (waiter ≠ ref ∧ state.waiters.get seq = some waiter) ∨
        (waiter = ref ∧ seq = frame.ticket.seq) := by
  rw [get_set]
  constructor
  · intro waiting
    by_cases place : seq = frame.ticket.seq
    · rw [if_pos place] at waiting
      exact Or.inr ⟨(Option.some.inj waiting).symm, place⟩
    · rw [if_neg place] at waiting
      refine Or.inl ⟨?_, waiting⟩
      intro self
      obtain ⟨held, stored, -, awaits⟩ := (lane.waits seq waiter).mp waiting
      rw [self, found] at stored
      cases stored
      exact awake awaits
  · rintro (⟨differs, waiting⟩ | ⟨self, place⟩)
    · have elsewhere : seq ≠ frame.ticket.seq := by
        intro place
        obtain ⟨held, stored, drawn, -⟩ := (lane.waits seq waiter).mp waiting
        refine differs (tickets.unique stored found ?_)
        rw [drawn, place, ← owner, ← generation]
      rw [if_neg elsewhere]
      exact waiting
    · rw [if_pos place, self]

theorem InStep.frameDecoded (inStep : InStep sequencer) (ref : Nat) (hasCommit : Bool) :
    InStep (sequencer.frameDecoded ref hasCommit) := by
  unfold Sequencer.frameDecoded
  split
  · exact inStep
  · next frame found =>
    split
    · next decoding =>
      have start : frame.phase ≠ .committing ∧ frame.phase ≠ .done := by
        rw [decoding]
        decide
      -- Both writes to the frame, seen as one.
      have written : ∀ (base : Sequencer) (phase : FramePhase),
          base.frames = sequencer.frames.set ref { frame with hasCommit := hasCommit } →
          (base.setPhase ref phase).frames =
            sequencer.frames.set ref { frame with phase := phase, hasCommit := hasCommit } := by
        intro base phase stored
        have here : base.frames.get ref = some { frame with hasCommit := hasCommit } := by
          rw [stored]
          exact get_set_self _ _ _
        rw [frames_setPhase here phase, stored, set_set]
      unfold waitAgentInboundCommitTurn
      rcases current_or_over sequencer.stateBySocketId frame.ticket with
        ⟨state, present, generation⟩ | isOver
      · have lane := inStep.lanes _ state present
        obtain ⟨-, fits⟩ := lane.fits ref frame found rfl generation
        rw [decoding] at fits
        have reached : state.nextCommitSeq ≤ frame.ticket.seq := fits
        have notPast : ¬ frame.ticket.seq < state.nextCommitSeq := by omega
        have sameState : ∀ other, sequencer.stateBySocketId.get other =
            if other = frame.ticket.socketId then some state
            else sequencer.stateBySocketId.get other := by
          intro other
          by_cases here : other = frame.ticket.socketId
          · rw [if_pos here, here]
            exact present
          · rw [if_neg here]
        have awake : frame.phase ≠ .awaiting := by rw [decoding]; decide
        simp only [present, generation, ne_eq, not_true_eq_false, if_false, notPast]
        split
        · next turn =>
          refine inStep.moved_current
            { frame with phase := .resolved .live, hasCommit := hasCommit } state found present
            generation rfl ⟨written _ _ rfl, rfl, rfl, rfl⟩ sameState rfl ?_ (by simp) start
            (Or.inl ⟨by simp, rfl⟩)
          refine lane.replace found rfl generation rfl turn rfl fun seq waiter => ?_
          constructor
          · intro waiting
            refine Or.inl ⟨?_, waiting⟩
            intro self
            obtain ⟨held, stored, -, awaits⟩ := (lane.waits seq waiter).mp waiting
            rw [self, found] at stored
            cases stored
            exact awake awaits
          · rintro (⟨-, waiting⟩ | ⟨-, -, awaits⟩)
            · exact waiting
            · cases awaits
        · next early =>
          refine inStep.moved_current
            { frame with phase := .awaiting, hasCommit := hasCommit }
            { state with waiters := state.waiters.set frame.ticket.seq ref } found present
            generation rfl ⟨written _ _ rfl, rfl, rfl, rfl⟩ ?_ rfl ?_ (by simp) start
            (Or.inl ⟨by simp, rfl⟩)
          · intro other
            exact get_set _ _ _ _
          · have ahead : state.nextCommitSeq < frame.ticket.seq := by omega
            refine lane.replace found rfl generation rfl ahead rfl fun seq waiter => ?_
            rw [lane.waiters_set inStep.tickets found rfl generation awake seq waiter]
            simp only [and_true]
      · have stale : InStep ({ sequencer with
            frames := sequencer.frames.set ref
              { frame with hasCommit := hasCommit } }.setPhase ref (.resolved .stale)) := by
          refine inStep.moved_over
            { frame with phase := .resolved .stale, hasCommit := hasCommit } found isOver rfl start.2
            (by simp) ?_ ⟨written _ _ rfl, rfl, rfl, rfl⟩ rfl rfl
          exact fun committing => absurd committing start.1
        cases present : sequencer.stateBySocketId.get frame.ticket.socketId with
        | none => exact stale
        | some state =>
          have differs := isOver state present
          simp only [ne_eq, differs, not_false_eq_true, if_true]
          exact stale
    · exact inStep

theorem InStep.fresh (inStep : InStep sequencer) :
    sequencer.frames.get sequencer.nextFrame = none := by
  cases found : sequencer.frames.get sequencer.nextFrame with
  | none => rfl
  | some frame => exact absurd (inStep.tickets.numbered _ frame found) (Nat.lt_irrefl _)

/-- A frame that draws the last ticket of a running or a new generation keeps the order. -/
theorem InStep.admitted (inStep : InStep sequencer) {seq : Nat} (running : SocketSequencerState)
    (framesAfter : next.frames = sequencer.frames.set sequencer.nextFrame
      { ticket := ⟨socketId, seq, running.generation⟩ })
    (states : ∀ other, next.stateBySocketId.get other =
      if other = socketId then some running else sequencer.stateBySocketId.get other)
    (nextFrame : next.nextFrame = sequencer.nextFrame + 1)
    (committed : next.committed = sequencer.committed)
    (cleaned : next.cleaned = sequencer.cleaned)
    (lane : Lane next.frames socketId running)
    (grows : sequencer.nextGeneration ≤ next.nextGeneration)
    (bound : running.generation ≤ next.nextGeneration)
    (continues : ∀ state, sequencer.stateBySocketId.get socketId = some state →
      state.generation = running.generation)
    (uncleaned : (socketId, running.generation) ∉ sequencer.cleaned)
    (last : ∀ ref held, sequencer.frames.get ref = some held → held.ticket.socketId = socketId →
      held.ticket.generation < running.generation ∨
        held.ticket.generation = running.generation ∧ held.ticket.seq < seq) : InStep next := by
  have history := inStep.history
  have old : ∀ {ref held}, sequencer.frames.get ref = some held → ref ≠ sequencer.nextFrame :=
    fun stored => Nat.ne_of_lt (inStep.tickets.numbered _ _ stored)
  refine ⟨⟨?_, ?_, ?_, ?_⟩, ?_, ⟨?_, ?_, ?_, ?_⟩⟩
  · intro ref held stored
    rw [framesAfter] at stored
    rw [nextFrame]
    rcases get_set_cases stored with ⟨self, -⟩ | ⟨-, before⟩
    · omega
    · exact Nat.lt_succ_of_lt (inStep.tickets.numbered ref held before)
  · intro ref held stored
    rw [framesAfter] at stored
    rcases get_set_cases stored with ⟨-, new⟩ | ⟨-, before⟩
    · rw [new]
      exact bound
    · exact Nat.le_trans (inStep.tickets.born ref held before) grows
  · intro owner state stored
    rw [states] at stored
    rw [framesAfter]
    split at stored
    · next here =>
      cases stored
      refine ⟨bound, fun ref held found belongs => ?_⟩
      rcases get_set_cases found with ⟨-, new⟩ | ⟨-, before⟩
      · subst new
        exact Nat.le_refl _
      · have order := last ref held before (belongs.trans here)
        omega
    · next differs =>
      obtain ⟨limit, latest⟩ := inStep.tickets.latest owner state stored
      refine ⟨Nat.le_trans limit grows, fun ref held found belongs => ?_⟩
      rcases get_set_cases found with ⟨-, new⟩ | ⟨-, before⟩
      · rw [new] at belongs
        exact absurd belongs.symm differs
      · exact latest ref held before belongs
  · intro first second earlier later foundFirst foundSecond less owner
    rw [framesAfter] at foundFirst foundSecond
    rcases get_set_cases foundFirst with ⟨self, -⟩ | ⟨-, beforeFirst⟩
    · rcases get_set_cases foundSecond with ⟨same, -⟩ | ⟨-, beforeSecond⟩
      · omega
      · have below := inStep.tickets.numbered second later beforeSecond
        omega
    · rcases get_set_cases foundSecond with ⟨-, new⟩ | ⟨-, beforeSecond⟩
      · rw [new] at owner ⊢
        exact last first earlier beforeFirst owner
      · exact inStep.tickets.increasing first second earlier later beforeFirst beforeSecond less owner
  · intro owner state stored
    rw [states] at stored
    split at stored
    · next here =>
      cases stored
      rw [here]
      exact lane
    · next differs =>
      rw [framesAfter]
      refine (inStep.lanes owner state stored).keep fun ref held belongs _ => ?_
      by_cases self : ref = sequencer.nextFrame
      · rw [self, get_set_self, inStep.fresh]
        refine ⟨fun new => ?_, (fun refuted => by cases refuted)⟩
        cases new
        exact absurd belongs.symm differs
      · rw [get_set_of_ne _ _ self]
  · intro owner generation member
    rw [cleaned] at member
    obtain ⟨limit, gone⟩ := history.cleanedUp owner generation member
    refine ⟨Nat.le_trans limit grows, fun state stored equal => ?_⟩
    rw [states] at stored
    split at stored
    · next here =>
      cases stored
      rw [here, ← equal] at member
      exact uncleaned member
    · exact gone state stored equal
  · intro ref held stored
    rw [framesAfter] at stored
    rcases get_set_cases stored with ⟨-, new⟩ | ⟨-, before⟩
    · rw [new]
      refine ⟨fun _ isOver => ?_, (fun committing => by cases committing),
        (fun _ done => by cases done)⟩
      exact absurd rfl (isOver running (by rw [states, if_pos rfl]))
    · refine (history.frames ref held before).keep cleaned (fun isOver state found equal => ?_)
        fun _ member => committed ▸ member
      by_cases here : held.ticket.socketId = socketId
      · refine isOver running (by rw [states, if_pos here]) ?_
        rw [here] at found
        exact (continues state found).symm.trans equal
      · refine isOver state ?_ equal
        rw [states, if_neg here]
        exact found
  · intro owner ref member
    rw [committed] at member
    obtain ⟨held, before, belongs, phase⟩ := history.logged owner ref member
    rw [framesAfter]
    exact ⟨held, (get_set_of_ne _ _ (old before)).trans before, belongs, phase⟩
  · rw [committed]
    exact history.inOrder

theorem InStep.admitFrame (inStep : InStep sequencer) (socketId : SocketId) (nowMs : Nat) :
    InStep (sequencer.admitFrame socketId nowMs) := by
  unfold Sequencer.admitFrame admitAgentInboundFrameSeq getOrCreateState
  cases present : sequencer.stateBySocketId.get socketId with
  | some state =>
    have lane := inStep.lanes socketId state present
    obtain ⟨bound, latest⟩ := inStep.tickets.latest socketId state present
    dsimp only
    refine inStep.admitted
      { state with
        nextAdmitSeq := state.nextAdmitSeq + 1
        pendingBySeq := state.pendingBySeq.set state.nextAdmitSeq nowMs }
      rfl (fun _ => get_set _ _ _ _) rfl rfl rfl (lane.admitted inStep.fresh nowMs)
      (Nat.le_refl _) bound ?_ ?_ ?_
    · intro other found
      rw [present] at found
      cases found
      rfl
    · exact fun member => (inStep.history.cleanedUp _ _ member).2 state present rfl
    · intro ref held stored owner
      by_cases same : held.ticket.generation = state.generation
      · exact Or.inr ⟨same, (lane.fits ref held stored owner same).1⟩
      · have limit := latest ref held stored owner
        exact Or.inl (Nat.lt_of_le_of_ne limit same)
  | none =>
    have unused : ∀ ref held, sequencer.frames.get ref = some held →
        held.ticket.socketId = socketId →
        held.ticket.generation ≠ sequencer.nextGeneration + 1 := by
      intro ref held stored _
      have limit := inStep.tickets.born ref held stored
      omega
    dsimp only
    refine inStep.admitted
      { generation := sequencer.nextGeneration + 1
        nextAdmitSeq := 1
        pendingBySeq := OrderedMap.empty.set 0 nowMs }
      rfl (fun other => ?_) rfl rfl rfl (Lane.first unused) (Nat.le_succ _) (Nat.le_refl _)
      ?_ ?_ ?_
    · show ((sequencer.stateBySocketId.set _ _).set _ _).get other = _
      rw [set_set, get_set]
    · intro other found
      rw [present] at found
      cases found
    · intro member
      have limit : sequencer.nextGeneration + 1 ≤ sequencer.nextGeneration :=
        (inStep.history.cleanedUp _ _ member).1
      omega
    · intro ref held stored _
      have limit := inStep.tickets.born ref held stored
      exact Or.inl (Nat.lt_succ_of_le limit)

/-- What turning frames away does. -/
structure TurnedAway (sequencer next : Sequencer) (refs : List Nat) : Prop where
  frames : ∀ other, next.frames.get other = (sequencer.frames.get other).map fun held =>
    if other ∈ refs then { held with phase := .resolved .stale } else held
  states : next.stateBySocketId = sequencer.stateBySocketId
  committed : next.committed = sequencer.committed
  cleaned : next.cleaned = sequencer.cleaned
  nextGeneration : next.nextGeneration = sequencer.nextGeneration
  nextFrame : next.nextFrame = sequencer.nextFrame

theorem turnedAway_foldl (refs : List Nat) (sequencer : Sequencer) :
    TurnedAway sequencer
      (refs.foldl (fun left waiter => left.setPhase waiter (.resolved .stale)) sequencer) refs := by
  induction refs generalizing sequencer with
  | nil =>
    refine ⟨fun other => ?_, rfl, rfl, rfl, rfl, rfl⟩
    simp only [List.foldl_nil, List.not_mem_nil, if_false]
    exact Option.map_id'.symm
  | cons ref rest ih =>
    have later := ih (sequencer.setPhase ref (.resolved .stale))
    refine ⟨fun other => ?_, later.states, later.committed, later.cleaned, later.nextGeneration,
      later.nextFrame⟩
    rw [List.foldl_cons, later.frames]
    show Option.map _ ((sequencer.frames.modify ref _).get other) = _
    rw [get_modify]
    by_cases self : other = ref
    · subst self
      simp only [if_true, Option.map_map, List.mem_cons, true_or]
      congr 1
      funext held
      simp only [Function.comp]
      split <;> rfl
    · rw [if_neg self]
      simp only [List.mem_cons, self, false_or]

/-- Ending a generation and turning its waiting frames away keeps the order. -/
theorem InStep.turnedAway (inStep : InStep sequencer)
    (present : sequencer.stateBySocketId.get socketId = some state)
    (effect : TurnedAway { sequencer with
      stateBySocketId := sequencer.stateBySocketId.erase socketId
      cleaned := (socketId, state.generation) :: sequencer.cleaned } next state.waiters.values) :
    InStep next := by
  have history := inStep.history
  have lane := inStep.lanes socketId state present
  have waiting : ∀ {other}, other ∈ state.waiters.values → ∃ held,
      sequencer.frames.get other = some held ∧ held.ticket.socketId = socketId ∧
        held.ticket.generation = state.generation ∧ held.phase = .awaiting := by
    intro other member
    obtain ⟨entry, stored, rfl⟩ := List.mem_map.mp member
    have found := (state.waiters.get_eq_some_iff entry.1 entry.2).mpr stored
    obtain ⟨held, before, drawn, awaits⟩ := (lane.waits entry.1 entry.2).mp found
    exact ⟨held, before, by rw [drawn], by rw [drawn], awaits⟩
  have earlier : ∀ {other changed}, next.frames.get other = some changed →
      ∃ held, sequencer.frames.get other = some held ∧ held.ticket = changed.ticket ∧
        held.hasCommit = changed.hasCommit ∧
        (changed.phase = .resolved .stale ∨ changed = held) := by
    intro other changed stored
    rw [effect.frames] at stored
    obtain ⟨held, before, same⟩ := Option.map_eq_some_iff.mp stored
    refine ⟨held, before, ?_⟩
    split at same
    · rw [← same]
      exact ⟨rfl, rfl, Or.inl rfl⟩
    · rw [same]
      exact ⟨rfl, rfl, Or.inr rfl⟩
  have unmoved : ∀ {other held}, sequencer.frames.get other = some held →
      held.phase ≠ .awaiting → next.frames.get other = some held := by
    intro other held before moved
    rw [effect.frames]
    show (sequencer.frames.get other).map _ = _
    have notTurned : other ∉ state.waiters.values := by
      intro member
      obtain ⟨waiter, found, -, -, awaits⟩ := waiting member
      rw [before] at found
      cases found
      exact moved awaits
    rw [before, Option.map_some, if_neg notTurned]
  have states : ∀ other, next.stateBySocketId.get other =
      if other = socketId then none else sequencer.stateBySocketId.get other := by
    intro other
    rw [effect.states]
    exact get_erase _ _ _
  refine ⟨?_, ?_, ⟨?_, ?_, ?_, ?_⟩⟩
  · rw [effect.nextGeneration, effect.nextFrame]
    refine inStep.tickets.carry (fun other changed stored => ?_) fun owner running stored => ?_
    · obtain ⟨held, before, ticket, -, -⟩ := earlier stored
      exact ⟨held, before, ticket⟩
    · rw [states] at stored
      split at stored
      · cases stored
      · exact ⟨running, stored, rfl⟩
  · intro owner running stored
    rw [states] at stored
    split at stored
    · cases stored
    · next differs =>
      refine (inStep.lanes owner running stored).keep fun other held belongs _ => ?_
      rw [effect.frames]
      show (sequencer.frames.get other).map _ = some held ↔ _
      by_cases turned : other ∈ state.waiters.values
      · obtain ⟨waiter, found, home, -, -⟩ := waiting turned
        rw [found, Option.map_some, if_pos turned]
        constructor
        · intro same
          cases same
          exact absurd (belongs.symm.trans home) differs
        · intro same
          cases same
          exact absurd (belongs.symm.trans home) differs
      · simp only [if_neg turned]
        rw [Option.map_id']
  · intro owner generation member
    rw [effect.cleaned] at member
    rw [effect.nextGeneration]
    rcases List.mem_cons.mp member with new | old
    · cases new
      refine ⟨(inStep.tickets.latest socketId state present).1, fun running stored => ?_⟩
      rw [states, if_pos rfl] at stored
      cases stored
    · obtain ⟨bound, gone⟩ := history.cleanedUp owner generation old
      refine ⟨bound, fun running stored => ?_⟩
      rw [states] at stored
      split at stored
      · cases stored
      · exact gone running stored
  · intro other changed stored
    obtain ⟨held, before, ticket, -, moved⟩ := earlier stored
    have known := history.frames other held before
    refine ⟨fun uncleaned isOver => ?_, fun committing => ?_, fun uncleaned done hasCommit => ?_⟩
    · rw [effect.cleaned, ← ticket] at uncleaned
      have overBefore : Over sequencer.stateBySocketId held.ticket := by
        intro running runs equal
        by_cases here : held.ticket.socketId = socketId
        · rw [here, present] at runs
          cases runs
          exact uncleaned (List.mem_cons.mpr (Or.inl (by rw [here, equal])))
        · refine isOver running ?_ (ticket ▸ equal)
          rw [states, ← ticket, if_neg here]
          exact runs
      have done := known.retired (fun member => uncleaned (List.mem_cons_of_mem _ member))
        overBefore
      have kept := unmoved before (by rw [done]; decide)
      rw [stored] at kept
      cases kept
      exact done
    · rw [effect.committed]
      rcases moved with stale | rfl
      · rw [stale] at committing
        cases committing
      · exact known.underway committing
    · rw [effect.cleaned] at uncleaned
      rw [effect.committed]
      rcases moved with stale | rfl
      · rw [stale] at done
        cases done
      · exact known.complete (fun member => uncleaned (List.mem_cons_of_mem _ member)) done
          hasCommit
  · intro owner other member
    rw [effect.committed] at member
    obtain ⟨held, before, belongs, phase⟩ := history.logged owner other member
    refine ⟨held, unmoved before ?_, belongs, phase⟩
    rcases phase with was | was <;> rw [was] <;> decide
  · rw [effect.committed]
    exact history.inOrder

theorem InStep.cleanupAgentInboundSequencerSocket (inStep : InStep sequencer)
    (socketId : SocketId) : InStep (sequencer.cleanupAgentInboundSequencerSocket socketId) := by
  unfold Sequencer.cleanupAgentInboundSequencerSocket
  split
  · exact inStep
  · next state present => exact inStep.turnedAway present (turnedAway_foldl _ _)

/-- Every action keeps the sequencer in step. -/
theorem InStep.step (inStep : InStep sequencer) (action : Action) :
    InStep (sequencer.step action) := by
  cases action with
  | admitFrame socketId nowMs => exact inStep.admitFrame socketId nowMs
  | decoded ref hasCommit => exact inStep.frameDecoded ref hasCommit
  | resumes ref => exact inStep.frameResumes ref
  | settles ref => exact inStep.commitSettles ref
  | cleanup socketId => exact inStep.cleanupAgentInboundSequencerSocket socketId

/-- So every run is in step. -/
theorem inStep_run (actions : List Action) : InStep (run step {} actions) :=
  run_invariant _ (fun _ action inStep => inStep.step action) inStep_empty actions

/-! ## Generations that are over -/

/-- A change that commits nothing and starts no generation. -/
structure Quiet (before after : Sequencer) : Prop where
  tickets : ∀ ref, (after.frames.get ref).map InboundFrame.ticket =
    (before.frames.get ref).map InboundFrame.ticket
  states : ∀ socketId state, after.stateBySocketId.get socketId = some state →
    ∃ was, before.stateBySocketId.get socketId = some was ∧ was.generation = state.generation
  committed : after.committed = before.committed
  nextGeneration : after.nextGeneration = before.nextGeneration
  nextFrame : after.nextFrame = before.nextFrame

theorem Quiet.refl (sequencer : Sequencer) : Quiet sequencer sequencer :=
  ⟨fun _ => rfl, fun _ state stored => ⟨state, stored, rfl⟩, rfl, rfl, rfl⟩

theorem Quiet.trans {first second third : Sequencer} (left : Quiet first second)
    (right : Quiet second third) : Quiet first third where
  tickets := fun ref => (right.tickets ref).trans (left.tickets ref)
  states := by
    intro socketId state stored
    obtain ⟨middle, storedMiddle, sameMiddle⟩ := right.states socketId state stored
    obtain ⟨was, storedWas, sameWas⟩ := left.states socketId middle storedMiddle
    exact ⟨was, storedWas, sameWas.trans sameMiddle⟩
  committed := right.committed.trans left.committed
  nextGeneration := right.nextGeneration.trans left.nextGeneration
  nextFrame := right.nextFrame.trans left.nextFrame

theorem quiet_setPhase (sequencer : Sequencer) (ref : Nat) (phase : FramePhase) :
    Quiet sequencer (sequencer.setPhase ref phase) := by
  refine ⟨fun other => ?_, fun _ state stored => ⟨state, stored, rfl⟩, rfl, rfl, rfl⟩
  show ((sequencer.frames.modify ref _).get other).map _ = _
  rw [get_modify]
  split
  · next self =>
    rw [self, Option.map_map]
    rfl
  · rfl

theorem quiet_setState {changed : SocketSequencerState}
    (present : sequencer.stateBySocketId.get socketId = some state)
    (same : changed.generation = state.generation) :
    Quiet sequencer
      { sequencer with stateBySocketId := sequencer.stateBySocketId.set socketId changed } := by
  refine ⟨fun _ => rfl, fun other running stored => ?_, rfl, rfl, rfl⟩
  rcases get_set_cases stored with ⟨here, new⟩ | ⟨-, before⟩
  · rw [here, new]
    exact ⟨state, present, same.symm⟩
  · exact ⟨running, before, rfl⟩

theorem quiet_advance {changed : SocketSequencerState}
    (present : sequencer.stateBySocketId.get socketId = some state)
    (same : changed.generation = state.generation) :
    Quiet sequencer (sequencer.advance socketId changed) := by
  have pruned : ∀ called : SocketSequencerState, called.generation = state.generation →
      Quiet sequencer { sequencer with
        stateBySocketId :=
          pruneIfIdle (sequencer.stateBySocketId.set socketId called) socketId called } := by
    intro called kept
    refine ⟨fun _ => rfl, fun other running stored => ?_, rfl, rfl, rfl⟩
    rw [get_pruneIfIdle] at stored
    split at stored
    · next here =>
      split at stored
      · cases stored
      · cases stored
        rw [here]
        exact ⟨state, present, kept.symm⟩
    · exact ⟨running, stored, rfl⟩
  unfold advance
  split
  · have called := pruned { changed with waiters := changed.waiters.erase changed.nextCommitSeq } same
    exact called.trans (quiet_setPhase _ _ _)
  · exact pruned changed same

theorem quiet_complete (sequencer : Sequencer) (ticket : AgentInboundAdmitTicket) :
    Quiet sequencer (sequencer.completeAgentInboundCommitTurn ticket) := by
  unfold completeAgentInboundCommitTurn
  split
  · exact Quiet.refl _
  · next state present =>
    split
    · exact Quiet.refl _
    · split
      · exact Quiet.refl _
      · exact quiet_advance present rfl

theorem quiet_wait (sequencer : Sequencer) (ref : Nat) (ticket : AgentInboundAdmitTicket) :
    Quiet sequencer (sequencer.waitAgentInboundCommitTurn ref ticket) := by
  unfold waitAgentInboundCommitTurn
  split
  · exact quiet_setPhase _ _ _
  · next state present =>
    split
    · exact quiet_setPhase _ _ _
    · split
      · exact quiet_setPhase _ _ _
      · split
        · exact quiet_setPhase _ _ _
        · have filed : Quiet sequencer { sequencer with
              stateBySocketId := sequencer.stateBySocketId.set ticket.socketId
                { state with waiters := state.waiters.set ticket.seq ref } } :=
            quiet_setState present rfl
          exact filed.trans (quiet_setPhase _ _ _)

theorem quiet_cleanup (sequencer : Sequencer) (socketId : SocketId) :
    Quiet sequencer (sequencer.cleanupAgentInboundSequencerSocket socketId) := by
  unfold cleanupAgentInboundSequencerSocket
  split
  · exact Quiet.refl _
  · next state present =>
    have effect := turnedAway_foldl state.waiters.values
      { sequencer with
        stateBySocketId := sequencer.stateBySocketId.erase socketId
        cleaned := (socketId, state.generation) :: sequencer.cleaned }
    refine ⟨fun ref => ?_, fun other running stored => ?_, effect.committed,
      effect.nextGeneration, effect.nextFrame⟩
    · rw [effect.frames, Option.map_map]
      congr 1
      funext held
      simp only [Function.comp]
      split <;> rfl
    · rw [effect.states] at stored
      have erased : (sequencer.stateBySocketId.erase socketId).get other = some running := stored
      rw [get_erase] at erased
      split at erased
      · cases erased
      · exact ⟨running, erased, rfl⟩

/-- What one step can do to the generations and to the log. -/
structure Grew (before after : Sequencer) : Prop where
  tickets : ∀ ref frame, after.frames.get ref = some frame → ref < before.nextFrame →
    ∃ was, before.frames.get ref = some was ∧ was.ticket = frame.ticket
  states : ∀ socketId state, after.stateBySocketId.get socketId = some state →
    (∃ was, before.stateBySocketId.get socketId = some was ∧ was.generation = state.generation) ∨
      before.nextGeneration < state.generation
  committed : ∀ socketId ref, (socketId, ref) ∈ after.committed →
    (socketId, ref) ∈ before.committed ∨ ∃ frame state, before.frames.get ref = some frame ∧
      frame.ticket.socketId = socketId ∧ before.stateBySocketId.get socketId = some state ∧
      state.generation = frame.ticket.generation
  nextGeneration : before.nextGeneration ≤ after.nextGeneration
  nextFrame : before.nextFrame ≤ after.nextFrame

theorem Quiet.grew {before after : Sequencer} (quiet : Quiet before after) : Grew before after where
  tickets := by
    intro ref frame stored _
    have same := quiet.tickets ref
    rw [stored, Option.map_some] at same
    obtain ⟨was, found, ticket⟩ := Option.map_eq_some_iff.mp same.symm
    exact ⟨was, found, ticket⟩
  states := fun socketId state stored => Or.inl (quiet.states socketId state stored)
  committed := fun socketId ref member => Or.inl (quiet.committed ▸ member)
  nextGeneration := Nat.le_of_eq quiet.nextGeneration.symm
  nextFrame := Nat.le_of_eq quiet.nextFrame.symm

/-- An action adds frames and generations behind those there are. -/
theorem grew_step (sequencer : Sequencer) (action : Action) :
    Grew sequencer (sequencer.step action) := by
  cases action with
  | admitFrame socketId nowMs =>
    show Grew sequencer (sequencer.admitFrame socketId nowMs)
    unfold admitFrame admitAgentInboundFrameSeq getOrCreateState
    cases present : sequencer.stateBySocketId.get socketId with
    | some state =>
      dsimp only
      refine ⟨fun ref frame stored below => ?_, fun owner running stored => ?_,
        fun _ _ member => Or.inl member, Nat.le_refl _, Nat.le_succ _⟩
      · have differs : ref ≠ sequencer.nextFrame := Nat.ne_of_lt below
        exact ⟨frame, (get_set_of_ne _ _ differs).symm.trans stored, rfl⟩
      · rcases get_set_cases stored with ⟨here, new⟩ | ⟨-, before⟩
        · rw [here, new]
          exact Or.inl ⟨state, present, rfl⟩
        · exact Or.inl ⟨running, before, rfl⟩
    | none =>
      dsimp only
      refine ⟨fun ref frame stored below => ?_, fun owner running stored => ?_,
        fun _ _ member => Or.inl member, Nat.le_succ _, Nat.le_succ _⟩
      · have differs : ref ≠ sequencer.nextFrame := Nat.ne_of_lt below
        exact ⟨frame, (get_set_of_ne _ _ differs).symm.trans stored, rfl⟩
      · rcases get_set_cases stored with ⟨-, new⟩ | ⟨differs, before⟩
        · rw [new]
          exact Or.inr (Nat.lt_succ_self _)
        · rw [get_set_of_ne _ _ differs] at before
          exact Or.inl ⟨running, before, rfl⟩
  | decoded ref hasCommit =>
    show Grew sequencer (sequencer.frameDecoded ref hasCommit)
    unfold frameDecoded
    split
    · exact (Quiet.refl _).grew
    · next frame found =>
      split
      · have written : Quiet sequencer { sequencer with
            frames := sequencer.frames.set ref { frame with hasCommit := hasCommit } } := by
          refine ⟨fun other => ?_, fun _ state stored => ⟨state, stored, rfl⟩, rfl, rfl, rfl⟩
          show ((sequencer.frames.set ref _).get other).map _ = _
          rw [get_set]
          split
          · next self =>
            rw [self, found]
            rfl
          · rfl
        exact (written.trans (quiet_wait _ _ _)).grew
      · exact (Quiet.refl _).grew
  | resumes ref =>
    show Grew sequencer (sequencer.frameResumes ref)
    unfold frameResumes
    split
    · exact (Quiet.refl _).grew
    · next frame found =>
      split
      · split
        · next commits =>
          rw [Bool.and_eq_true] at commits
          have moved := (quiet_setPhase sequencer ref .committing).grew
          refine ⟨moved.tickets, moved.states, fun socketId other member => ?_,
            moved.nextGeneration, moved.nextFrame⟩
          rcases List.mem_cons.mp member with new | old
          · cases new
            refine Or.inr ⟨frame, ?_⟩
            have current := commits.2
            unfold isAgentInboundTicketCurrent at current
            split at current
            · cases current
            · next state present =>
              exact ⟨state, found, rfl, present, of_decide_eq_true current⟩
          · exact Or.inl old
        · exact ((quiet_setPhase _ _ _).trans (quiet_complete _ _)).grew
      · exact (quiet_setPhase _ _ _).grew
      · exact (Quiet.refl _).grew
  | settles ref =>
    show Grew sequencer (sequencer.commitSettles ref)
    unfold commitSettles
    split
    · exact (Quiet.refl _).grew
    · split
      · exact ((quiet_setPhase _ _ _).trans (quiet_complete _ _)).grew
      · exact (Quiet.refl _).grew
  | cleanup socketId => exact (quiet_cleanup sequencer socketId).grew

/-- The frames of a socket up to some number are of generations that ended, and none of them
committed since. -/
structure Ended (socketId : SocketId) (frame generation : Nat) (log : List (SocketId × Nat))
    (sequencer : Sequencer) : Prop where
  numbered : frame ≤ sequencer.nextFrame
  started : generation ≤ sequencer.nextGeneration
  earlier : ∀ ref held, sequencer.frames.get ref = some held → ref < frame →
    held.ticket.socketId = socketId → held.ticket.generation ≤ generation
  later : ∀ state, sequencer.stateBySocketId.get socketId = some state →
    generation < state.generation
  committed : ∀ ref, (socketId, ref) ∈ sequencer.committed → ref < frame → (socketId, ref) ∈ log

theorem Ended.step {frame generation : Nat} {log : List (SocketId × Nat)}
    (ended : Ended socketId frame generation log sequencer) (action : Action) :
    Ended socketId frame generation log (sequencer.step action) := by
  have grew := grew_step sequencer action
  refine ⟨Nat.le_trans ended.numbered grew.nextFrame, Nat.le_trans ended.started
    grew.nextGeneration, ?_, ?_, ?_⟩
  · intro ref held stored below owner
    obtain ⟨was, found, ticket⟩ :=
      grew.tickets ref held stored (Nat.lt_of_lt_of_le below ended.numbered)
    rw [← ticket] at owner ⊢
    exact ended.earlier ref was found below owner
  · intro state stored
    rcases grew.states socketId state stored with ⟨was, found, same⟩ | fresh
    · rw [← same]
      exact ended.later was found
    · exact Nat.lt_of_le_of_lt ended.started fresh
  · intro ref member below
    rcases grew.committed socketId ref member with old | ⟨held, state, found, owner, present, same⟩
    · exact ended.committed ref old below
    · have past := ended.earlier ref held found below owner
      have running := ended.later state present
      omega

theorem InStep.ended_cleanup (inStep : InStep sequencer) (socketId : SocketId) :
    Ended socketId sequencer.nextFrame sequencer.nextGeneration sequencer.committed
      (sequencer.step (.cleanup socketId)) := by
  have quiet : Quiet sequencer (sequencer.step (.cleanup socketId)) := quiet_cleanup _ _
  have grew := quiet.grew
  refine ⟨grew.nextFrame, grew.nextGeneration, ?_, ?_, ?_⟩
  · intro ref held stored below _
    obtain ⟨was, found, ticket⟩ := grew.tickets ref held stored below
    rw [← ticket]
    exact inStep.tickets.born ref was found
  · intro state stored
    have gone : (sequencer.step (.cleanup socketId)).stateBySocketId.get socketId = none := by
      show (sequencer.cleanupAgentInboundSequencerSocket socketId).stateBySocketId.get socketId = none
      unfold Sequencer.cleanupAgentInboundSequencerSocket
      split
      · next absent => exact absent
      · next running present =>
        rw [(turnedAway_foldl _ _).states]
        exact OrderedMap.get_erase_self _ _
    rw [gone] at stored
    cases stored
  · intro ref member _
    rw [quiet.committed] at member
    exact member

/-- No frame has an answer or a commit to resume from. -/
def Settled (sequencer : Sequencer) : Prop :=
  ∀ ref frame, sequencer.frames.get ref = some frame →
    frame.phase = .decoding ∨ frame.phase = .awaiting ∨ frame.phase = .done

/-- A frame is decoded, and so are the frames of its generation before it. -/
def DecodedUpTo (sequencer : Sequencer) (frame : InboundFrame) : Prop :=
  ∀ ref held, sequencer.frames.get ref = some held →
    held.ticket.socketId = frame.ticket.socketId →
    held.ticket.generation = frame.ticket.generation →
    held.ticket.seq ≤ frame.ticket.seq → held.phase ≠ .decoding

theorem InStep.done_of_decoded (inStep : InStep sequencer) (settled : Settled sequencer)
    (found : sequencer.frames.get ref = some frame)
    (uncleaned : (frame.ticket.socketId, frame.ticket.generation) ∉ sequencer.cleaned)
    (decoded : DecodedUpTo sequencer frame) : frame.phase = .done := by
  rcases current_or_over sequencer.stateBySocketId frame.ticket with
    ⟨state, present, generation⟩ | isOver
  · have lane := inStep.lanes _ state present
    obtain ⟨below, fits⟩ := lane.fits ref frame found rfl generation
    -- The frame whose turn it is must still be decoded, since it neither waits nor resumes.
    obtain ⟨first, held, stored, drawn⟩ := lane.owned state.nextCommitSeq lane.busy
    obtain ⟨-, place⟩ := lane.fits first held stored (by rw [drawn]) (by rw [drawn])
    have decoding : held.phase = .decoding := by
      rcases settled first held stored with phase | phase | phase
      · exact phase
      · rw [phase, drawn] at place
        exact absurd place (Nat.lt_irrefl _)
      · rw [phase, drawn] at place
        exact absurd place (Nat.lt_irrefl _)
    have before : frame.ticket.seq < state.nextCommitSeq := by
      by_contra behind
      refine decoded first held stored (by rw [drawn]) (by rw [drawn, generation]) ?_ decoding
      rw [drawn]
      exact Nat.le_of_not_lt behind
    rcases settled ref frame found with phase | phase | phase
    · rw [phase] at fits
      have reached : state.nextCommitSeq ≤ frame.ticket.seq := fits
      omega
    · rw [phase] at fits
      have reached : state.nextCommitSeq < frame.ticket.seq := fits
      omega
    · exact phase
  · exact (inStep.history.frames ref frame found).retired uncleaned isOver

/-- The frames of an agent socket commit one at a time, in the order of their admission, at most
once, and not after their socket was cleaned up; the frames that are decoded with those before them
have committed as soon as nothing is left to resume; and the pending tickets are those from the one
whose turn it is to the next one to draw. -/
theorem agent_inbound_commits_in_order (actions : List Action) :
    let sequencer := run step {} actions
    (sequencer.committed.Pairwise fun later earlier =>
      later.1 = earlier.1 → earlier.2 < later.2) ∧
    (∀ first second left right state, sequencer.frames.get first = some left →
      sequencer.frames.get second = some right →
      left.ticket.socketId = right.ticket.socketId →
      left.ticket.generation = state.generation → right.ticket.generation = state.generation →
      sequencer.stateBySocketId.get left.ticket.socketId = some state →
      left.phase = .resolved .live ∨ left.phase = .committing →
      right.phase = .resolved .live ∨ right.phase = .committing → first = second) ∧
    (∀ socketId later ref,
      (socketId, ref) ∈ (run step sequencer (.cleanup socketId :: later)).committed →
      ref < sequencer.nextFrame → (socketId, ref) ∈ sequencer.committed) ∧
    (Settled sequencer → ∀ ref frame, sequencer.frames.get ref = some frame →
      (frame.ticket.socketId, frame.ticket.generation) ∉ sequencer.cleaned →
      DecodedUpTo sequencer frame →
      frame.phase = .done ∧
        (frame.hasCommit = true → (frame.ticket.socketId, ref) ∈ sequencer.committed)) ∧
    (∀ socketId state, sequencer.stateBySocketId.get socketId = some state →
      state.pendingBySeq.keys =
        List.range' state.nextCommitSeq (state.nextAdmitSeq - state.nextCommitSeq)) := by
  intro sequencer
  have inStep : InStep sequencer := inStep_run actions
  refine ⟨inStep.history.inOrder, ?_, ?_, ?_, ?_⟩
  · intro first second left right state foundLeft foundRight owner leftGen rightGen present
      leftTurn rightTurn
    have lane := inStep.lanes _ state present
    have leftPlace : left.ticket.seq = state.nextCommitSeq := by
      obtain ⟨-, fits⟩ := lane.fits first left foundLeft rfl leftGen
      rcases leftTurn with phase | phase <;> rw [phase] at fits <;> exact fits
    have rightPlace : right.ticket.seq = state.nextCommitSeq := by
      obtain ⟨-, fits⟩ := lane.fits second right foundRight owner.symm rightGen
      rcases rightTurn with phase | phase <;> rw [phase] at fits <;> exact fits
    refine inStep.tickets.unique foundLeft foundRight ?_
    rw [ticket_eq leftGen leftPlace, ticket_eq rightGen rightPlace, owner]
  · intro socketId later ref member below
    have ended : Ended socketId sequencer.nextFrame sequencer.nextGeneration sequencer.committed
        (run step (sequencer.step (.cleanup socketId)) later) :=
      run_invariant _ (fun _ action kept => kept.step action) (inStep.ended_cleanup socketId) later
    exact ended.committed ref member below
  · intro settled ref frame found uncleaned decoded
    have done := inStep.done_of_decoded settled found uncleaned decoded
    exact ⟨done, (inStep.history.frames ref frame found).complete uncleaned done⟩
  · exact fun socketId state present => (inStep.lanes socketId state present).pending

end Sequencer

end PlugHub.Inbound
