import PlugHub.Config
import PlugHub.Library.OrderedMap
import PlugHub.Library.Runs

/-!
# The sequencer of agent frames

Frames of one agent socket are decoded concurrently and committed in the order in which they were
admitted. Each frame draws a ticket; once it is decoded it waits for its turn, commits, and lets
the next ticket in. The tickets of a socket are forgotten when all of them had their turn and when
the socket is cleaned up; the tickets drawn afterwards belong to another generation.

The commits of the source are synchronous: a commit is one step, and its turn ends in a later one,
when the await on its result resumes. A commit that throws ends its turn in the same way.
-/

namespace PlugHub.Inbound

open Library

/-- The place of a frame. -/
structure AgentInboundAdmitTicket where
  socketId : SocketId
  seq : Nat
  generation : Nat

/-- The tickets of one socket. -/
structure SocketSequencerState where
  generation : Nat
  nextAdmitSeq : Nat := 0
  nextCommitSeq : Nat := 0
  waiters : OrderedMap Nat Nat := .empty
  pendingBySeq : OrderedMap Nat Nat := .empty

/-- The answer to a frame that asked for its turn. -/
inductive CommitTurn where
  | live
  | stale
deriving DecidableEq

/-- Where a frame is. -/
inductive FramePhase where
  | decoding
  | awaiting
  | resolved (turn : CommitTurn)
  | committing
  | done
deriving DecidableEq

/-- An admitted frame. -/
structure InboundFrame where
  ticket : AgentInboundAdmitTicket
  phase : FramePhase := .decoding
  hasCommit : Bool := false

/-- The sequencer with the frames that were admitted. -/
structure Sequencer where
  stateBySocketId : OrderedMap SocketId SocketSequencerState := .empty
  nextGeneration : Nat := 0
  frames : OrderedMap Nat InboundFrame := .empty
  nextFrame : Nat := 0
  committed : List (SocketId × Nat) := []
  cleaned : List (SocketId × Nat) := []

namespace Sequencer

/-- The tickets of a socket; a socket without any starts a generation. -/
def getOrCreateState (sequencer : Sequencer) (socketId : SocketId) :
    Sequencer × SocketSequencerState :=
  match sequencer.stateBySocketId.get socketId with
  | some existing => (sequencer, existing)
  | none =>
    let created : SocketSequencerState := { generation := sequencer.nextGeneration + 1 }
    ({ sequencer with
        nextGeneration := sequencer.nextGeneration + 1
        stateBySocketId := sequencer.stateBySocketId.set socketId created }, created)

/-- Forget the tickets of a socket when all of them had their turn. -/
def pruneIfIdle (states : OrderedMap SocketId SocketSequencerState) (socketId : SocketId)
    (state : SocketSequencerState) : OrderedMap SocketId SocketSequencerState :=
  if 0 < state.pendingBySeq.size ∨ 0 < state.waiters.size then states
  else if state.nextAdmitSeq = state.nextCommitSeq then states.erase socketId
  else states

/-- Draw a ticket. -/
def admitAgentInboundFrameSeq (sequencer : Sequencer) (socketId : SocketId) (nowMs : Nat) :
    Sequencer × AgentInboundAdmitTicket :=
  let (created, state) := sequencer.getOrCreateState socketId
  ({ created with
      stateBySocketId := created.stateBySocketId.set socketId
        { state with
          nextAdmitSeq := state.nextAdmitSeq + 1
          pendingBySeq := state.pendingBySeq.set state.nextAdmitSeq nowMs } },
    { socketId := socketId, seq := state.nextAdmitSeq, generation := state.generation })

/-- Set the phase of a frame. -/
def setPhase (sequencer : Sequencer) (ref : Nat) (phase : FramePhase) : Sequencer :=
  { sequencer with frames := sequencer.frames.modify ref fun frame => { frame with phase := phase } }

/-- A frame asks for its turn. -/
def waitAgentInboundCommitTurn (sequencer : Sequencer) (ref : Nat)
    (ticket : AgentInboundAdmitTicket) : Sequencer :=
  match sequencer.stateBySocketId.get ticket.socketId with
  | none => sequencer.setPhase ref (.resolved .stale)
  | some state =>
    if state.generation ≠ ticket.generation then sequencer.setPhase ref (.resolved .stale)
    else if ticket.seq < state.nextCommitSeq then sequencer.setPhase ref (.resolved .stale)
    else if ticket.seq = state.nextCommitSeq then sequencer.setPhase ref (.resolved .live)
    else
      { sequencer with
        stateBySocketId := sequencer.stateBySocketId.set ticket.socketId
          { state with waiters := state.waiters.set ticket.seq ref } }.setPhase ref .awaiting

/-- The generation of a ticket is not over. -/
def isAgentInboundTicketCurrent (sequencer : Sequencer) (ticket : AgentInboundAdmitTicket) : Bool :=
  match sequencer.stateBySocketId.get ticket.socketId with
  | none => false
  | some state => decide (state.generation = ticket.generation)

/-- The next ticket has its turn. -/
def advance (sequencer : Sequencer) (socketId : SocketId) (state : SocketSequencerState) :
    Sequencer :=
  match state.waiters.get state.nextCommitSeq with
  | some waiter =>
    let called := { state with waiters := state.waiters.erase state.nextCommitSeq }
    { sequencer with
      stateBySocketId :=
        pruneIfIdle (sequencer.stateBySocketId.set socketId called) socketId called }.setPhase
      waiter (.resolved .live)
  | none =>
    { sequencer with
      stateBySocketId :=
        pruneIfIdle (sequencer.stateBySocketId.set socketId state) socketId state }

/-- The turn of a ticket ends. -/
def completeAgentInboundCommitTurn (sequencer : Sequencer) (ticket : AgentInboundAdmitTicket) :
    Sequencer :=
  match sequencer.stateBySocketId.get ticket.socketId with
  | none => sequencer
  | some state =>
    if state.generation ≠ ticket.generation then sequencer
    else if ticket.seq ≠ state.nextCommitSeq then sequencer
    else
      sequencer.advance ticket.socketId
        { state with
          pendingBySeq := state.pendingBySeq.erase ticket.seq
          nextCommitSeq := state.nextCommitSeq + 1 }

/-- Forget the tickets of a socket and turn its waiting frames away. -/
def cleanupAgentInboundSequencerSocket (sequencer : Sequencer) (socketId : SocketId) : Sequencer :=
  match sequencer.stateBySocketId.get socketId with
  | none => sequencer
  | some state =>
    state.waiters.values.foldl (fun left waiter => left.setPhase waiter (.resolved .stale))
      { sequencer with
        stateBySocketId := sequencer.stateBySocketId.erase socketId
        cleaned := (socketId, state.generation) :: sequencer.cleaned }

/-! ## A frame -/

/-- A frame is admitted. -/
def admitFrame (sequencer : Sequencer) (socketId : SocketId) (nowMs : Nat) : Sequencer :=
  let (drawn, ticket) := sequencer.admitAgentInboundFrameSeq socketId nowMs
  { drawn with
    frames := drawn.frames.set drawn.nextFrame { ticket := ticket }
    nextFrame := drawn.nextFrame + 1 }

/-- A frame is decoded, with a commit or without one, and asks for its turn. -/
def frameDecoded (sequencer : Sequencer) (ref : Nat) (hasCommit : Bool) : Sequencer :=
  match sequencer.frames.get ref with
  | none => sequencer
  | some frame =>
    if frame.phase = .decoding then
      { sequencer with
        frames := sequencer.frames.set ref
          { frame with hasCommit := hasCommit } }.waitAgentInboundCommitTurn ref frame.ticket
    else sequencer

/-- A frame with an answer resumes: it commits when it is its turn and its generation is not over;
a frame that does not commit ends its turn at once. -/
def frameResumes (sequencer : Sequencer) (ref : Nat) : Sequencer :=
  match sequencer.frames.get ref with
  | none => sequencer
  | some frame =>
    match frame.phase with
    | .resolved .live =>
      if frame.hasCommit && sequencer.isAgentInboundTicketCurrent frame.ticket then
        { sequencer.setPhase ref .committing with
          committed := (frame.ticket.socketId, ref) :: sequencer.committed }
      else (sequencer.setPhase ref .done).completeAgentInboundCommitTurn frame.ticket
    | .resolved .stale => sequencer.setPhase ref .done
    | _ => sequencer

/-- The turn of a frame that committed ends, also when the commit threw. -/
def commitSettles (sequencer : Sequencer) (ref : Nat) : Sequencer :=
  match sequencer.frames.get ref with
  | none => sequencer
  | some frame =>
    if frame.phase = .committing then
      (sequencer.setPhase ref .done).completeAgentInboundCommitTurn frame.ticket
    else sequencer

/-- What can happen. -/
inductive Action where
  | admitFrame (socketId : SocketId) (nowMs : Nat)
  | decoded (ref : Nat) (hasCommit : Bool)
  | resumes (ref : Nat)
  | settles (ref : Nat)
  | cleanup (socketId : SocketId)

/-- One step. -/
def step (sequencer : Sequencer) : Action → Sequencer
  | .admitFrame socketId nowMs => sequencer.admitFrame socketId nowMs
  | .decoded ref hasCommit => sequencer.frameDecoded ref hasCommit
  | .resumes ref => sequencer.frameResumes ref
  | .settles ref => sequencer.commitSettles ref
  | .cleanup socketId => sequencer.cleanupAgentInboundSequencerSocket socketId

end Sequencer

end PlugHub.Inbound
