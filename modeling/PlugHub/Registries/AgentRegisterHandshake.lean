import Mathlib.Data.List.Nodup
import PlugHub.Library.Runs

/-!
# The register handshake of an agent socket

One agent socket, its handshake record, the handlers of its register frames, and its session in the
registry. A handler that proceeds awaits the rate limit and the owner lookup before it registers the
socket; a frame that repeats the one in progress waits for it. A promise that is resolved resumes
its waiters before any other awaited answer arrives. Another socket that takes the agent over
disconnects this one in the same turn.

Capabilities are compared by their canonical text, which stands for them here.
-/

namespace PlugHub.Registries

open Library

/-- The phase of the handshake. -/
inductive AgentRegisterHandshakePhase where
  | unregistered
  | registering
  | registered
  | disconnected
deriving DecidableEq

/-- A register frame. -/
structure RegisterFrame where
  agentId : String
  frameRequestId : Option String
  capabilitiesKey : String
deriving DecidableEq

/-- The record of the socket. -/
structure HandshakeRecord where
  phase : AgentRegisterHandshakePhase := .unregistered
  frame : Option RegisterFrame := none
  inflight : Option Nat := none

/-- Where a handler stands. -/
inductive RegisterStage where
  | limiting
  | binding
  | refunding
  | waiting (inflight : Nat)
  | woken
deriving DecidableEq

/-- A handler that registers the socket. -/
def RegisterStage.InProgress : RegisterStage → Bool
  | limiting | binding | refunding => true
  | waiting _ | woken => false

/-- The handler of a frame. -/
structure RegisterHandler where
  id : Nat
  frame : RegisterFrame
  stage : RegisterStage

/-- A handler that waits for a promise is woken. -/
def RegisterHandler.wake (inflight : Nat) (handler : RegisterHandler) : RegisterHandler :=
  if handler.stage = .waiting inflight then { handler with stage := .woken } else handler

/-- The session of the socket in the registry. -/
structure RegisteredSession where
  agentId : String
  capabilitiesKey : String
deriving DecidableEq

/-- A frame that was answered with hub capabilities. -/
structure RegisterAnswer where
  frame : RegisterFrame
  session : Option RegisteredSession
deriving DecidableEq

/-- The socket. -/
structure AgentRegisterSocket where
  record : HandshakeRecord := {}
  handlers : List RegisterHandler := []
  session : Option RegisteredSession := none
  next : Nat := 0
  answers : List RegisterAnswer := []

/-- What the registry says. -/
inductive RegistrationResult where
  | ok
  | sessionActive
  | ownedByAnotherUser
deriving DecidableEq

/-- What the owner lookup says. -/
inductive BindResult where
  | ok (registration : RegistrationResult)
  | refused
  | threw
deriving DecidableEq

/-- What happens. -/
inductive RegisterAction where
  /-- A register frame was decoded; the checks that await nothing pass or fail. -/
  | frame (frame : RegisterFrame) (passes : Bool)
  | limited (id : Nat) (ok : Bool)
  | bound (id : Nat) (result : BindResult)
  | refunded (id : Nat)
  | resume (id : Nat)
  /-- The socket disconnects, by itself or because another socket takes the agent over. -/
  | disconnect

/-- What is decided about a frame. -/
inductive AgentRegisterHandshakeDecision where
  | proceed
  | coalesce (inflight : Nat)
  | idempotentReplay
  | reject

/-- `evaluateAgentRegisterHandshake`, with the promise that is made if the frame proceeds. -/
def evaluateAgentRegisterHandshake (record : HandshakeRecord) (frame : RegisterFrame)
    (promise : Nat) : HandshakeRecord × AgentRegisterHandshakeDecision :=
  match record.phase with
  | .disconnected => (record, .reject)
  | .registering =>
    if record.frame.map (·.agentId) = some frame.agentId &&
        record.frame.map (·.frameRequestId) = some frame.frameRequestId then
      match record.inflight with
      | some inflight => (record, .coalesce inflight)
      | none => (record, .proceed)
    else (record, .reject)
  | .registered =>
    if record.frame.map (·.agentId) = some frame.agentId &&
        record.frame.map (·.capabilitiesKey) = some frame.capabilitiesKey then
      (record, .idempotentReplay)
    else (record, .reject)
  | .unregistered => (⟨.registering, some frame, some promise⟩, .proceed)

/-- `completeAgentRegisterSuccess`. -/
def completeAgentRegisterSuccess (record : HandshakeRecord) : HandshakeRecord :=
  if record.phase = .disconnected then record else { record with phase := .registered }

/-- `completeAgentRegisterFailure`. -/
def completeAgentRegisterFailure (record : HandshakeRecord) : HandshakeRecord :=
  if record.phase = .disconnected ∨ record.phase = .registered then record
  else { record with phase := .unregistered, frame := none }

namespace AgentRegisterSocket

variable (socket : AgentRegisterSocket)

/-- A handler by its number. -/
def handler? (id : Nat) : Option RegisterHandler := socket.handlers.find? (·.id == id)

/-- A handler stands elsewhere. -/
def move (id : Nat) (stage : RegisterStage) : AgentRegisterSocket :=
  { socket with
    handlers := socket.handlers.map fun handler =>
      if handler.id = id then { handler with stage } else handler }

/-- A handler finishes. -/
def leave (id : Nat) : AgentRegisterSocket :=
  { socket with handlers := socket.handlers.filter (·.id != id) }

/-- `resolveAgentRegisterInflight`. -/
def resolveAgentRegisterInflight : AgentRegisterSocket :=
  match socket.record.inflight with
  | none => socket
  | some inflight =>
    { socket with
      record := { socket.record with inflight := none }
      handlers := socket.handlers.map (·.wake inflight) }

/-- `emitHubCapabilities`, for a frame. -/
def emitHubCapabilities (frame : RegisterFrame) : AgentRegisterSocket :=
  { socket with answers := socket.answers ++ [⟨frame, socket.session⟩] }

/-- A handler fails. -/
def fail (id : Nat) : AgentRegisterSocket :=
  ({ socket with
    record := completeAgentRegisterFailure socket.record }.resolveAgentRegisterInflight).leave id

/-- A handler that may register the socket does, unless the socket is gone. -/
def register (id : Nat) (frame : RegisterFrame) : RegistrationResult → AgentRegisterSocket
  | .ok =>
    if socket.record.phase = .disconnected then socket.fail id
    else
      ({ socket with
        session := some ⟨frame.agentId, frame.capabilitiesKey⟩
        record := completeAgentRegisterSuccess socket.record }.emitHubCapabilities
          frame).resolveAgentRegisterInflight.leave id
  | .sessionActive =>
    if socket.record.phase = .disconnected then socket.fail id else socket.move id .refunding
  | .ownedByAnotherUser => socket.fail id

/-- A frame is handled up to its first await. -/
def receive (frame : RegisterFrame) (passes : Bool) : AgentRegisterSocket :=
  let decided := evaluateAgentRegisterHandshake socket.record frame socket.next
  let entered (stage : RegisterStage) : AgentRegisterSocket :=
    { socket with
      record := decided.1
      handlers := socket.handlers ++ [⟨socket.next, frame, stage⟩], next := socket.next + 1 }
  match decided.2 with
  | .reject => socket
  | .idempotentReplay => socket.emitHubCapabilities frame
  | .coalesce inflight => entered (.waiting inflight)
  | .proceed => if passes then entered .limiting else (entered .limiting).fail socket.next

/-- No handler is about to resume. -/
def Settled : Bool := socket.handlers.all (·.stage ≠ .woken)

/-- `runAgentSocketDisconnectCleanup`. -/
def disconnect : AgentRegisterSocket :=
  { { socket with
      record := { socket.record with phase := .disconnected } }.resolveAgentRegisterInflight with
    session := none }

/-- One step. -/
def step : RegisterAction → AgentRegisterSocket
  | .frame frame passes => socket.receive frame passes
  | .limited id ok =>
    match socket.handler? id with
    | some ⟨_, _, .limiting⟩ =>
      if !socket.Settled then socket
      else if ok then socket.move id .binding else socket.fail id
    | _ => socket
  | .bound id result =>
    match socket.handler? id with
    | some ⟨_, frame, .binding⟩ =>
      if !socket.Settled then socket
      else match result with
        | .ok registration => socket.register id frame registration
        | .refused => socket.fail id
        | .threw => socket.move id .refunding
    | _ => socket
  | .refunded id =>
    match socket.handler? id with
    | some ⟨_, _, .refunding⟩ => if !socket.Settled then socket else socket.fail id
    | _ => socket
  | .resume id =>
    match socket.handler? id with
    | some ⟨_, frame, .woken⟩ =>
      if socket.record.phase = .registered then (socket.emitHubCapabilities frame).leave id
      else socket.leave id
    | _ => socket
  | .disconnect => socket.disconnect

/-! ## What is expected of the handshake -/

/-- At most one registration is in progress. -/
def AtMostOne : Prop :=
  ∀ first ∈ socket.handlers, ∀ second ∈ socket.handlers, first.stage.InProgress = true →
    second.stage.InProgress = true → first = second

/-- Once all handlers have finished, a socket that is gone has no session. -/
def GoneUnowned : Prop :=
  socket.handlers = [] → socket.record.phase = .disconnected → socket.session = none

/-- A frame was answered with hub capabilities only while the socket was registered under its agent
with its capabilities. -/
def AnsweredTruly : Prop :=
  ∀ answer ∈ socket.answers,
    answer.session = some ⟨answer.frame.agentId, answer.frame.capabilitiesKey⟩

/-- A frame that repeats the agent and the request of the registration in progress has its
capabilities too. -/
def RepeatsWhole : RegisterAction → Prop
  | .frame frame _ => socket.record.phase = .registering → ∀ current ∈ socket.record.frame,
      current.agentId = frame.agentId → current.frameRequestId = frame.frameRequestId →
        current.capabilitiesKey = frame.capabilitiesKey
  | _ => True

/-! ## The invariant -/

/-- The frame has the agent and the capabilities of another. -/
def Matches (frame other : RegisterFrame) : Prop :=
  frame.agentId = other.agentId ∧ frame.capabilitiesKey = other.capabilitiesKey

/-- What holds in every run, and, where `lawful`, in the runs whose frames repeat whole. -/
structure Sound (lawful : Prop) : Prop where
  distinct : (socket.handlers.map (·.id)).Nodup
  below : ∀ handler ∈ socket.handlers, handler.id < socket.next
  single : ∀ first ∈ socket.handlers, ∀ second ∈ socket.handlers,
    first.stage.InProgress = true → second.stage.InProgress = true → first.id = second.id
  idle : socket.record.phase = .unregistered ∨ socket.record.phase = .registered →
    ∀ handler ∈ socket.handlers, handler.stage.InProgress = false
  promise : socket.record.inflight.isSome ↔ socket.record.phase = .registering
  pending : socket.record.phase = .registering → ∃ frame, socket.record.frame = some frame ∧
    ∀ handler ∈ socket.handlers, handler.stage.InProgress = true → handler.frame = frame
  /-- A handler that waits does so for the promise of the record, whose frame it repeats. -/
  waits : ∀ handler ∈ socket.handlers, ∀ inflight, handler.stage = .waiting inflight →
    socket.record.inflight = some inflight ∧
      (lawful → ∀ frame ∈ socket.record.frame, Matches frame handler.frame)
  /-- A handler that was woken finds its own session, if there is one. -/
  woken : lawful → ∀ handler ∈ socket.handlers, handler.stage = .woken →
    socket.record.phase = .registered →
      socket.session = some ⟨handler.frame.agentId, handler.frame.capabilitiesKey⟩
  registered : socket.record.phase = .registered → ∃ frame, socket.record.frame = some frame ∧
    socket.session = some ⟨frame.agentId, frame.capabilitiesKey⟩
  gone : socket.record.phase = .disconnected → socket.session = none
  answered : lawful → socket.AnsweredTruly

variable {socket} {lawful : Prop}

theorem sound_initial : Sound {} lawful where
  distinct := List.nodup_nil
  below := nofun
  single := nofun
  idle _ := nofun
  promise := by simp
  pending := nofun
  waits := nofun
  woken _ := nofun
  registered := nofun
  gone := nofun
  answered _ := nofun

variable {handler : RegisterHandler}

theorem handler?_spec {id : Nat} (found : socket.handler? id = some handler) :
    handler ∈ socket.handlers ∧ handler.id = id :=
  ⟨List.mem_of_find?_eq_some found, by simpa using List.find?_some found⟩

@[simp] theorem id_wake (inflight : Nat) (handler : RegisterHandler) :
    (handler.wake inflight).id = handler.id := by
  unfold RegisterHandler.wake
  split <;> rfl

@[simp] theorem frame_wake (inflight : Nat) (handler : RegisterHandler) :
    (handler.wake inflight).frame = handler.frame := by
  unfold RegisterHandler.wake
  split <;> rfl

@[simp] theorem inProgress_wake (inflight : Nat) (handler : RegisterHandler) :
    (handler.wake inflight).stage.InProgress = handler.stage.InProgress := by
  unfold RegisterHandler.wake
  split
  · next waits => rw [waits]; rfl
  · rfl

theorem waiting_wake {resolved inflight : Nat}
    (waits : (handler.wake resolved).stage = .waiting inflight) :
    handler.stage = .waiting inflight ∧ inflight ≠ resolved := by
  unfold RegisterHandler.wake at waits
  split at waits
  · cases waits
  · next other =>
    refine ⟨waits, ?_⟩
    rintro rfl
    exact other waits

theorem woken_wake {resolved : Nat} (woken : (handler.wake resolved).stage = .woken) :
    handler.stage = .woken ∨ handler.stage = .waiting resolved := by
  unfold RegisterHandler.wake at woken
  split at woken
  · next waits => exact Or.inr waits
  · exact Or.inl woken

/-! ## Every step keeps it -/

/-- A handler in progress moves on to a stage in progress. -/
theorem Sound.move (sound : socket.Sound lawful) {id : Nat}
    (found : socket.handler? id = some handler) (progress : handler.stage.InProgress = true)
    {stage : RegisterStage} (stays : stage.InProgress = true) :
    (socket.move id stage).Sound lawful := by
  obtain ⟨member, self⟩ := handler?_spec found
  -- Every handler afterwards is one from before, at the new stage if it is the one that moves.
  have before {later : RegisterHandler} (moved : later ∈ (socket.move id stage).handlers) :
      ∃ earlier ∈ socket.handlers, later.id = earlier.id ∧ later.frame = earlier.frame ∧
        later.stage.InProgress = earlier.stage.InProgress ∧
        (later.stage.InProgress = false → later = earlier) := by
    obtain ⟨earlier, among, rfl⟩ := List.mem_map.mp moved
    refine ⟨earlier, among, ?_⟩
    split
    · next same =>
      have equal : earlier = handler :=
        List.inj_on_of_nodup_map sound.distinct among member (same.trans self.symm)
      refine ⟨rfl, rfl, ?_, fun never => absurd never (by simp [stays])⟩
      rw [equal, progress]
      exact stays
    · exact ⟨rfl, rfl, rfl, fun _ => rfl⟩
  refine ⟨?_, ?_, ?_, ?_, sound.promise, ?_, ?_, ?_, sound.registered, sound.gone,
    sound.answered⟩
  · have ids : (socket.move id stage).handlers.map (·.id) = socket.handlers.map (·.id) := by
      simp only [AgentRegisterSocket.move, List.map_map]
      refine List.map_congr_left fun earlier _ => ?_
      simp only [Function.comp]
      split <;> rfl
    rw [ids]
    exact sound.distinct
  · intro later among
    obtain ⟨earlier, known, same, -⟩ := before among
    rw [same]
    exact sound.below earlier known
  · intro first among second also one two
    obtain ⟨earlier, known, same, -, stage, -⟩ := before among
    obtain ⟨other, knows, alike, -, stages, -⟩ := before also
    rw [same, alike]
    exact sound.single earlier known other knows (stage ▸ one) (stages ▸ two)
  · intro phase later among
    obtain ⟨earlier, known, -, -, stage, -⟩ := before among
    rw [stage]
    exact sound.idle phase earlier known
  · intro phase
    obtain ⟨frame, current, own⟩ := sound.pending phase
    refine ⟨frame, current, fun later among going => ?_⟩
    obtain ⟨earlier, known, -, same, stage, -⟩ := before among
    rw [same]
    exact own earlier known (stage ▸ going)
  · intro later among inflight waits
    obtain ⟨earlier, known, -, -, -, equal⟩ := before among
    have same := equal (by rw [waits]; rfl)
    subst same
    exact sound.waits later known inflight waits
  · intro law later among woken
    obtain ⟨earlier, known, -, -, -, equal⟩ := before among
    have same := equal (by rw [woken]; rfl)
    subst same
    exact sound.woken law later known woken

/-- A promise that is resolved, if there is one, wakes a handler. -/
def wakeBy (inflight : Option Nat) (handler : RegisterHandler) : RegisterHandler :=
  match inflight with
  | none => handler
  | some promise => handler.wake promise

theorem resolveAgentRegisterInflight_eq :
    socket.resolveAgentRegisterInflight =
      { socket with
        record := { socket.record with inflight := none }
        handlers := socket.handlers.map (wakeBy socket.record.inflight) } := by
  obtain ⟨⟨phase, frame, inflight⟩, handlers, session, next, answers⟩ := socket
  cases inflight with
  | none =>
    have same : handlers.map (wakeBy none) = handlers := List.map_id' _
    simp only [resolveAgentRegisterInflight, same]
  | some promise => rfl

section

variable (sound : socket.Sound lawful)

include sound

theorem Sound.before_wake {later : RegisterHandler}
    (woken : later ∈ socket.handlers.map (wakeBy socket.record.inflight)) :
    ∃ earlier ∈ socket.handlers, later.id = earlier.id ∧ later.frame = earlier.frame ∧
      later.stage.InProgress = earlier.stage.InProgress ∧
      (∀ inflight, later.stage ≠ .waiting inflight) ∧
      (later.stage = .woken → earlier.stage = .woken ∨
        ∃ inflight, earlier.stage = .waiting inflight) := by
  obtain ⟨earlier, among, rfl⟩ := List.mem_map.mp woken
  refine ⟨earlier, among, ?_⟩
  cases pending : socket.record.inflight with
  | none =>
    refine ⟨rfl, rfl, rfl, fun inflight waits => ?_, Or.inl⟩
    have promised := (sound.waits earlier among inflight waits).1
    rw [pending] at promised
    cases promised
  | some promise =>
    refine ⟨id_wake promise earlier, frame_wake promise earlier, inProgress_wake promise earlier,
      fun inflight waits => ?_, fun woken => ?_⟩
    · obtain ⟨earlierWaits, differs⟩ := waiting_wake waits
      have promised := (sound.waits earlier among inflight earlierWaits).1
      rw [pending] at promised
      exact differs (Option.some.inj promised).symm
    · exact (woken_wake woken).imp_right fun waits => ⟨promise, waits⟩

/-- The registration in progress ends: its promise is resolved, and some handlers stay. -/
theorem Sound.ends (keep : RegisterHandler → Bool)
    (record : HandshakeRecord) (session : Option RegisteredSession)
    (answers : List RegisterAnswer) (quiet : record.inflight = none)
    (isOver : record.phase ≠ .registering)
    (idle : record.phase = .unregistered ∨ record.phase = .registered →
      ∀ handler ∈ socket.handlers.map (wakeBy socket.record.inflight), keep handler = true →
        handler.stage.InProgress = false)
    (woken : lawful → record.phase = .registered → ∀ handler ∈ socket.handlers,
      handler.stage = .woken ∨ (∃ inflight, handler.stage = .waiting inflight) →
        session = some ⟨handler.frame.agentId, handler.frame.capabilitiesKey⟩)
    (registered : record.phase = .registered → ∃ frame, record.frame = some frame ∧
      session = some ⟨frame.agentId, frame.capabilitiesKey⟩)
    (gone : record.phase = .disconnected → session = none)
    (answered : lawful → ∀ answer ∈ answers,
      answer.session = some ⟨answer.frame.agentId, answer.frame.capabilitiesKey⟩) :
    ({ socket with
        record, session, answers
        handlers := (socket.handlers.map (wakeBy socket.record.inflight)).filter keep } :
      AgentRegisterSocket).Sound lawful := by
  have before {later : RegisterHandler}
      (kept : later ∈ (socket.handlers.map (wakeBy socket.record.inflight)).filter keep) :=
    sound.before_wake (List.mem_filter.mp kept).1
  refine ⟨?_, ?_, ?_, ?_, ?_, fun pending => absurd pending isOver, ?_, ?_, registered, gone,
    answered⟩
  · have ids : (socket.handlers.map (wakeBy socket.record.inflight)).map (·.id) =
        socket.handlers.map (·.id) := by
      rw [List.map_map]
      refine List.map_congr_left fun earlier _ => ?_
      simp only [Function.comp, wakeBy]
      split
      · rfl
      · exact id_wake _ earlier
    refine (List.Sublist.map _ List.filter_sublist).nodup ?_
    rw [ids]
    exact sound.distinct
  · intro later kept
    obtain ⟨earlier, known, same, -⟩ := before kept
    rw [same]
    exact sound.below earlier known
  · intro first kept second also one two
    obtain ⟨earlier, known, same, -, stage, -⟩ := before kept
    obtain ⟨other, knows, alike, -, stages, -⟩ := before also
    rw [same, alike]
    exact sound.single earlier known other knows (stage ▸ one) (stages ▸ two)
  · intro phase later kept
    exact idle phase later (List.mem_filter.mp kept).1 (List.mem_filter.mp kept).2
  · simp only [quiet, Option.isSome_none, Bool.false_eq_true, false_iff]
    exact isOver
  · intro later kept inflight waits
    obtain ⟨-, -, -, -, -, never, -⟩ := before kept
    exact absurd waits (never inflight)
  · intro law later kept resumes phase
    obtain ⟨earlier, known, -, same, -, -, earlierStage⟩ := before kept
    simp only
    rw [same]
    exact woken law phase earlier known (earlierStage resumes)

variable {handler : RegisterHandler}

theorem Sound.alone {id : Nat}
    (found : socket.handler? id = some handler) (progress : handler.stage.InProgress = true)
    {later : RegisterHandler} (woken : later ∈ socket.handlers.map (wakeBy socket.record.inflight))
    (other : (later.id != id) = true) : later.stage.InProgress = false := by
  obtain ⟨member, self⟩ := handler?_spec found
  obtain ⟨earlier, known, same, -, stage, -⟩ := sound.before_wake woken
  by_contra going
  have both := sound.single earlier known handler member
    (stage ▸ (Bool.not_eq_false _).mp going) progress
  rw [same, both, self] at other
  simp at other

theorem Sound.phase_of_progress
    (member : handler ∈ socket.handlers) (progress : handler.stage.InProgress = true) :
    socket.record.phase = .registering ∨ socket.record.phase = .disconnected := by
  cases phase : socket.record.phase with
  | registering => exact Or.inl rfl
  | disconnected => exact Or.inr rfl
  | unregistered =>
    have idle := sound.idle (Or.inl phase) handler member
    rw [progress] at idle
    cases idle
  | registered =>
    have idle := sound.idle (Or.inr phase) handler member
    rw [progress] at idle
    cases idle

theorem Sound.fail {id : Nat}
    (found : socket.handler? id = some handler) (progress : handler.stage.InProgress = true) :
    (socket.fail id).Sound lawful := by
  obtain ⟨member, self⟩ := handler?_spec found
  have inflight : (completeAgentRegisterFailure socket.record).inflight =
      socket.record.inflight := by
    unfold completeAgentRegisterFailure
    split <;> rfl
  unfold AgentRegisterSocket.fail
  rw [resolveAgentRegisterInflight_eq]
  simp only [AgentRegisterSocket.leave, inflight]
  have phase : (completeAgentRegisterFailure socket.record).phase = .unregistered ∨
      (completeAgentRegisterFailure socket.record).phase = .disconnected := by
    unfold completeAgentRegisterFailure
    rcases sound.phase_of_progress member progress with phase | phase
    · rw [phase]
      exact Or.inl rfl
    · rw [phase]
      exact Or.inr phase
  refine sound.ends _ _ _ _ rfl ?_ ?_ ?_ ?_ ?_ sound.answered
  · rcases phase with phase | phase <;> simp [phase]
  · exact fun _ later woken other => sound.alone found progress woken other
  · intro _ registered
    rcases phase with phase | phase <;> rw [phase] at registered <;> cases registered
  · intro registered
    rcases phase with phase | phase <;> rw [phase] at registered <;> cases registered
  · intro gone
    refine sound.gone ?_
    rcases sound.phase_of_progress member progress with phase | phase
    · simp [completeAgentRegisterFailure, phase] at gone
    · exact phase

theorem Sound.disconnect : socket.disconnect.Sound lawful := by
  have everyone : (socket.handlers.map (wakeBy socket.record.inflight)).filter (fun _ => true) =
      socket.handlers.map (wakeBy socket.record.inflight) :=
    List.filter_eq_self.mpr fun _ _ => rfl
  have ended := sound.ends (fun _ => true)
    { socket.record with phase := .disconnected, inflight := none } none socket.answers rfl nofun
    (by simp) nofun nofun (fun _ => rfl) sound.answered
  rw [everyone] at ended
  unfold AgentRegisterSocket.disconnect
  rw [resolveAgentRegisterInflight_eq]
  exact ended

theorem Sound.registers (settled : socket.Settled = true) {id : Nat}
    (found : socket.handler? id = some handler)
    (progress : handler.stage.InProgress = true) (there : socket.record.phase ≠ .disconnected) :
    (({ socket with
      session := some ⟨handler.frame.agentId, handler.frame.capabilitiesKey⟩
      record := completeAgentRegisterSuccess socket.record }.emitHubCapabilities
        handler.frame).resolveAgentRegisterInflight.leave id).Sound lawful := by
  obtain ⟨member, self⟩ := handler?_spec found
  have phase := (sound.phase_of_progress member progress).resolve_right there
  obtain ⟨frame, current, own⟩ := sound.pending phase
  have same := own handler member progress
  have record : completeAgentRegisterSuccess socket.record =
      { socket.record with phase := .registered } := by
    unfold completeAgentRegisterSuccess
    rw [if_neg there]
  rw [record, resolveAgentRegisterInflight_eq]
  simp only [emitHubCapabilities, AgentRegisterSocket.leave]
  refine sound.ends _ _ _ _ rfl nofun ?_ ?_ (fun _ => ⟨frame, current, by rw [same]⟩) nofun ?_
  · exact fun _ later woken other => sound.alone found progress woken other
  · rintro law - other known (woken | ⟨inflight, waits⟩)
    · have absent := List.all_eq_true.mp settled other known
      simp [woken] at absent
    · obtain ⟨agentId, capabilities⟩ := (sound.waits other known inflight waits).2 law frame current
      rw [same, agentId, capabilities]
  · exact fun law => forall_mem_concat (sound.answered law) rfl

theorem Sound.leave (id : Nat) : (socket.leave id).Sound lawful :=
  { sound with
    distinct := (List.Sublist.map _ List.filter_sublist).nodup sound.distinct
    below handler member := sound.below handler (List.mem_filter.mp member).1
    single first member second also :=
      sound.single first (List.mem_filter.mp member).1 second (List.mem_filter.mp also).1
    idle phase handler member := sound.idle phase handler (List.mem_filter.mp member).1
    pending phase := by
      obtain ⟨frame, current, own⟩ := sound.pending phase
      exact ⟨frame, current, fun handler member => own handler (List.mem_filter.mp member).1⟩
    waits handler member := sound.waits handler (List.mem_filter.mp member).1
    woken law handler member := sound.woken law handler (List.mem_filter.mp member).1 }

theorem Sound.emit {frame : RegisterFrame}
    (truly : lawful → socket.session = some ⟨frame.agentId, frame.capabilitiesKey⟩) :
    (socket.emitHubCapabilities frame).Sound lawful :=
  { sound with
    answered := fun law => forall_mem_concat (sound.answered law) (truly law) }

/-- A handler is added, in progress when nothing else is, or waiting for the promise. -/
theorem Sound.enter (frame : RegisterFrame) (stage : RegisterStage)
    {record : HandshakeRecord} (fresh : stage ≠ .woken)
    (changes : record = socket.record ∧ stage.InProgress = false ∨
      stage.InProgress = true ∧ socket.record.phase = .unregistered ∧
        record = ⟨.registering, some frame, some socket.next⟩)
    (waits : ∀ inflight, stage = .waiting inflight → socket.record.inflight = some inflight ∧
      (lawful → ∀ current ∈ socket.record.frame, Matches current frame)) :
    ({ socket with
        record
        handlers := socket.handlers ++ [⟨socket.next, frame, stage⟩]
        next := socket.next + 1 } : AgentRegisterSocket).Sound lawful := by
  have either {handler : RegisterHandler}
      (member : handler ∈ socket.handlers ++ [(⟨socket.next, frame, stage⟩ : RegisterHandler)]) :
      handler ∈ socket.handlers ∨ handler = ⟨socket.next, frame, stage⟩ :=
    (List.mem_append.mp member).imp_right List.mem_singleton.mp
  have distinct : ((socket.handlers ++
      [(⟨socket.next, frame, stage⟩ : RegisterHandler)]).map (·.id)).Nodup := by
    rw [List.map_append]
    refine List.nodup_append.mpr ⟨sound.distinct, List.nodup_singleton _, ?_⟩
    intro id known other last equal
    obtain ⟨handler, member, rfl⟩ := List.mem_map.mp known
    have below := sound.below handler member
    simp only [List.map_cons, List.map_nil, List.mem_singleton] at last
    omega
  have below : ∀ handler ∈ socket.handlers ++
      [(⟨socket.next, frame, stage⟩ : RegisterHandler)], handler.id < socket.next + 1 := by
    intro handler member
    rcases either member with earlier | rfl
    · exact Nat.lt_succ_of_lt (sound.below handler earlier)
    · exact Nat.lt_succ_self _
  rcases changes with ⟨rfl, resting⟩ | ⟨going, phase, rfl⟩
  · refine ⟨distinct, below, ?_, ?_, sound.promise, ?_, ?_, ?_, sound.registered, sound.gone,
      sound.answered⟩
    · intro first member second also one two
      rcases either member with earlier | rfl
      · rcases either also with known | rfl
        · exact sound.single first earlier second known one two
        · rw [resting] at two
          cases two
      · rw [resting] at one
        cases one
    · intro phase handler member
      rcases either member with earlier | rfl
      · exact sound.idle phase handler earlier
      · exact resting
    · intro phase
      obtain ⟨current, there, own⟩ := sound.pending phase
      refine ⟨current, there, fun handler member one => ?_⟩
      rcases either member with earlier | rfl
      · exact own handler earlier one
      · rw [resting] at one
        cases one
    · intro handler member inflight stays
      rcases either member with earlier | rfl
      · exact sound.waits handler earlier inflight stays
      · exact waits inflight stays
    · intro law handler member woken
      rcases either member with earlier | rfl
      · exact sound.woken law handler earlier woken
      · exact absurd woken fresh
  · have idle := sound.idle (Or.inl phase)
    refine ⟨distinct, below, ?_, (fun phases => by rcases phases with phase | phase <;> cases phase),
      by simp, ?_, ?_, (fun _ _ _ _ phase => by cases phase), (fun refuted => by cases refuted),
      (fun refuted => by cases refuted), sound.answered⟩
    · intro first member second also one two
      rcases either member with earlier | rfl
      · rw [idle first earlier] at one
        cases one
      · rcases either also with known | rfl
        · rw [idle second known] at two
          cases two
        · rfl
    · refine fun _ => ⟨frame, rfl, fun handler member one => ?_⟩
      rcases either member with earlier | rfl
      · rw [idle handler earlier] at one
        cases one
      · rfl
    · intro handler member inflight stays
      rcases either member with earlier | rfl
      · have promised := (sound.waits handler earlier inflight stays).1
        have absent := sound.promise.mp (by rw [promised]; rfl)
        rw [phase] at absent
        cases absent
      · rw [show stage = .waiting inflight from stays] at going
        cases going

theorem Sound.handler?_next {record : HandshakeRecord}
    {entered : RegisterHandler} (own : entered.id = socket.next) :
    ({ socket with
        record
        handlers := socket.handlers ++ [entered]
        next := socket.next + 1 } : AgentRegisterSocket).handler? socket.next = some entered := by
  have others : socket.handlers.find? (·.id == socket.next) = none := by
    refine List.find?_eq_none.mpr fun handler member => ?_
    have below := sound.below handler member
    simp only [beq_iff_eq]
    omega
  simp only [AgentRegisterSocket.handler?]
  rw [List.find?_append, others, Option.none_or]
  exact List.find?_cons_of_pos (by simp [own])

theorem Sound.receive {frame : RegisterFrame} {passes : Bool}
    (whole : lawful → socket.RepeatsWhole (.frame frame passes)) :
    (socket.receive frame passes).Sound lawful := by
  unfold AgentRegisterSocket.receive evaluateAgentRegisterHandshake
  cases phase : socket.record.phase with
  | disconnected => exact sound
  | registering =>
    obtain ⟨inflight, promised⟩ := Option.isSome_iff_exists.mp (sound.promise.mpr phase)
    obtain ⟨current, there, -⟩ := sound.pending phase
    simp only [there, promised, Option.map_some, Option.some.injEq]
    by_cases same : (decide (current.agentId = frame.agentId) &&
        decide (current.frameRequestId = frame.frameRequestId)) = true
    · rw [if_pos same]
      simp only [Bool.and_eq_true, decide_eq_true_eq] at same
      refine sound.enter frame _ nofun (Or.inl ⟨rfl, rfl⟩) fun other waits => ?_
      refine ⟨by rw [promised, RegisterStage.waiting.inj waits], fun law other among => ?_⟩
      obtain rfl : current = other := Option.some.inj (there.symm.trans among)
      exact ⟨same.1, whole law phase current there same.1 same.2⟩
    · rw [if_neg same]
      exact sound
  | registered =>
    obtain ⟨current, there, session⟩ := sound.registered phase
    simp only [there, Option.map_some, Option.some.injEq]
    by_cases same : (decide (current.agentId = frame.agentId) &&
        decide (current.capabilitiesKey = frame.capabilitiesKey)) = true
    · rw [if_pos same]
      simp only [Bool.and_eq_true, decide_eq_true_eq] at same
      exact sound.emit fun _ => by rw [session, same.1, same.2]
    · rw [if_neg same]
      exact sound
  | unregistered =>
    have entered := sound.enter frame .limiting nofun
      (Or.inr ⟨rfl, phase, rfl⟩) nofun
    cases passes with
    | true => exact entered
    | false => exact entered.fail (sound.handler?_next rfl) rfl

/-- One step keeps the invariant, if the frame repeats whole where that is wanted. -/
theorem Sound.step {action : RegisterAction}
    (whole : lawful → socket.RepeatsWhole action) : (socket.step action).Sound lawful := by
  cases action with
  | frame frame passes => exact sound.receive whole
  | limited id ok =>
    simp only [AgentRegisterSocket.step]
    split
    · next found =>
      split_ifs
      · exact sound
      · exact sound.move found rfl rfl
      · exact sound.fail found rfl
    · exact sound
  | bound id result =>
    simp only [AgentRegisterSocket.step]
    split
    · next frame found =>
      split_ifs with settled
      · exact sound
      · have ready : socket.Settled = true := by simpa using settled
        cases result with
        | refused => exact sound.fail found rfl
        | threw => exact sound.move found rfl rfl
        | ok registration =>
          cases registration with
          | ownedByAnotherUser => exact sound.fail found rfl
          | sessionActive =>
            simp only [register]
            split_ifs
            · exact sound.fail found rfl
            · exact sound.move found rfl rfl
          | ok =>
            simp only [register]
            split_ifs with gone
            · exact sound.fail found rfl
            · exact sound.registers ready found rfl gone
    · exact sound
  | refunded id =>
    simp only [AgentRegisterSocket.step]
    split
    · next found =>
      split_ifs
      · exact sound
      · exact sound.fail found rfl
    · exact sound
  | resume id =>
    simp only [AgentRegisterSocket.step]
    split
    · next found =>
      split_ifs with registered
      · exact (sound.emit fun law =>
          sound.woken law _ (handler?_spec found).1 rfl registered).leave id
      · exact sound.leave id
    · exact sound
  | disconnect => exact sound.disconnect

end

/-! ## Every run -/

/-- Every reachable handshake is sound. -/
theorem sound_reached (actions : List RegisterAction) :
    ∀ taken, taken <+: actions → (run step {} taken).Sound False := by
  have keeps : ∀ (socket : AgentRegisterSocket) (action : RegisterAction), socket.Sound False →
      (socket.step action).Sound False := fun _ _ sound => sound.step nofun
  exact fun taken _ => run_invariant step keeps sound_initial taken

theorem sound_of_repeats {actions : List RegisterAction}
    (whole : Meets step RepeatsWhole {} actions) :
    ∀ taken, taken <+: actions → (run step {} taken).Sound True := by
  have keeps : ∀ (socket : AgentRegisterSocket) (action : RegisterAction), socket.Sound True →
      socket.RepeatsWhole action → (socket.step action).Sound True :=
    fun _ _ sound repeats => sound.step fun _ => repeats
  exact every_state_of_meets step keeps sound_initial whole

theorem Sound.atMostOne (sound : socket.Sound lawful) : socket.AtMostOne :=
  fun first member second also one two =>
    List.inj_on_of_nodup_map sound.distinct member also
      (sound.single first member second also one two)

theorem disconnected_step {socket : AgentRegisterSocket}
    (gone : socket.record.phase = .disconnected) (action : RegisterAction) :
    (socket.step action).record.phase = .disconnected := by
  have failed (id : Nat) : (socket.fail id).record.phase = .disconnected := by
    unfold AgentRegisterSocket.fail completeAgentRegisterFailure
    rw [if_pos (Or.inl gone), resolveAgentRegisterInflight_eq]
    exact gone
  cases action with
  | frame frame passes =>
    simp only [AgentRegisterSocket.step, AgentRegisterSocket.receive,
      evaluateAgentRegisterHandshake, gone]
  | limited id ok =>
    simp only [AgentRegisterSocket.step]
    split
    · split_ifs
      · exact gone
      · exact gone
      · exact failed id
    · exact gone
  | bound id result =>
    simp only [AgentRegisterSocket.step]
    split
    · split_ifs
      · exact gone
      · cases result with
        | refused => exact failed id
        | threw => exact gone
        | ok registration => cases registration <;> simp [register, gone, failed id]
    · exact gone
  | refunded id =>
    simp only [AgentRegisterSocket.step]
    split
    · split_ifs
      · exact gone
      · exact failed id
    · exact gone
  | resume id =>
    simp only [AgentRegisterSocket.step]
    split
    · split_ifs <;> exact gone
    · exact gone
  | disconnect =>
    simp only [AgentRegisterSocket.step, AgentRegisterSocket.disconnect]
    rw [resolveAgentRegisterInflight_eq]

/-- A socket that disconnected stays disconnected. -/
theorem disconnected_run {earlier later : List RegisterAction} (first : earlier <+: later)
    (gone : (run step {} earlier).record.phase = .disconnected) :
    (run step {} later).record.phase = .disconnected := by
  obtain ⟨rest, rfl⟩ := first
  rw [run_append]
  have keeps : ∀ (socket : AgentRegisterSocket) (action : RegisterAction),
      socket.record.phase = .disconnected → (socket.step action).record.phase = .disconnected :=
    fun _ action gone => disconnected_step gone action
  exact run_invariant step keeps gone rest

/-- The handshake, in every run: at most one registration is in progress, a socket that is gone
stays gone, and then has no session. While frames that repeat the agent and the request of the
registration in progress repeat its capabilities, every answer is true. -/
theorem handshake_answers_truly_when_repeats_whole (actions : List RegisterAction) :
    (∀ taken, taken <+: actions →
      (run step {} taken).AtMostOne ∧ (run step {} taken).GoneUnowned ∧
        ∀ later, taken <+: later → (run step {} taken).record.phase = .disconnected →
          (run step {} later).record.phase = .disconnected) ∧
      (Meets step RepeatsWhole {} actions → ∀ taken, taken <+: actions →
        (run step {} taken).AnsweredTruly) := by
  refine ⟨fun taken first => ?_, fun whole taken first => ?_⟩
  · have sound := sound_reached actions taken first
    exact ⟨sound.atMostOne, fun _ => sound.gone, fun later => disconnected_run⟩
  · exact (sound_of_repeats whole taken first).answered trivial

/-- A frame that repeats the one in progress is answered when that one is done. -/
theorem handshake_answers_truly_repeated :
    (run step {} [.frame ⟨"agent", none, "sql"⟩ true, .limited 0 true,
      .frame ⟨"agent", none, "sql"⟩ true, .bound 0 (.ok .ok), .resume 1]).answers.length = 2 ∧
    (run step {} [.frame ⟨"agent", none, "sql"⟩ true, .limited 0 true,
      .frame ⟨"agent", none, "sql"⟩ true, .bound 0 (.ok .ok), .resume 1]).AnsweredTruly := by
  refine ⟨by decide, (handshake_answers_truly_when_repeats_whole _).2 ?_ _ (List.prefix_refl _)⟩
  refine ⟨nofun, trivial, fun _ current there _ _ => ?_, trivial, trivial, trivial⟩
  rw [← Option.some.inj there]

/-- A frame with other capabilities, sent while the registration is in progress under the same
agent and request, is answered although the socket is registered without them. -/
theorem other_capabilities_answered :
    ¬ (run step {} [.frame ⟨"agent", none, "sql"⟩ true, .limited 0 true,
      .frame ⟨"agent", none, "sql,stream"⟩ true, .bound 0 (.ok .ok), .resume 1]).AnsweredTruly := by
  intro truly
  have equal := truly ⟨⟨"agent", none, "sql,stream"⟩, some ⟨"agent", "sql"⟩⟩ (by decide)
  simp at equal

end AgentRegisterSocket

end PlugHub.Registries
