import PlugHub.Accounts.AccessCaches
import PlugHub.Scheduling.ClientAgentRooms

/-!
# The guard of a consumer socket's agents

Before a consumer socket may use an agent, a guard asks the repository whether its principal has
access, and keeps the answer on the socket for a while. Two indexes tell which sockets hold a
snapshot of an agent, and which sockets of a principal hold any, so that an invalidation finds the
sockets whose snapshots it has to clear. Concurrent guards of one socket and agent wait for one
validation.

A validation writes when its awaits are over, and an invalidation does not stop those that are on
their way. Every step has a time, so that a snapshot can be compared with the invalidations that
came after its repository read had begun.
-/

namespace PlugHub.ConsumerSocketGuard

open Library
open OrderedMap (get_erase get_modify get_set get_set_cases get_set_of_ne get_set_self
  modify_of_present set_set size_pos_iff)
open AccessCaches (AgentAccessPrincipal AppError)
open ClientAgentRooms (Room)

/-! ## Principals -/

/-- `principal_type` of a token. -/
inductive PrincipalType where
  | user
  | client
deriving DecidableEq

/-- `JwtAccessPayload`, of which the guard reads this much. -/
structure JwtAccessPayload where
  sub : String
  role : Option String := none
  principalType : Option PrincipalType := none
  credentialsVersion : Option Nat := none

/-- A text is blank. -/
def isBlank (text : String) : Bool := (trim text.toList).isEmpty

/-- A principal key, which is written as the type, a colon and the id. -/
inductive PrincipalKey where
  | client (id : String)
  | user (id : String)
deriving DecidableEq

/-- `buildPrincipalKey`. -/
def buildPrincipalKey : AgentAccessPrincipal → PrincipalKey
  | .user id _ => .user id
  | .client id => .client id

/-- `resolvePrincipalKeyFromUser`. -/
def resolvePrincipalKeyFromUser (user : JwtAccessPayload) : Option PrincipalKey :=
  if isBlank user.sub then none
  else if user.principalType = some .client then some (.client user.sub)
  else some (.user user.sub)

/-- `resolveConsumerAgentAccessPrincipal`. -/
def resolveConsumerAgentAccessPrincipal (user : JwtAccessPayload) : Option AgentAccessPrincipal :=
  if isBlank user.sub then none
  else if user.principalType = some .client then some (.client user.sub)
  else some (.user user.sub user.role)

theorem key_of_principal {user : JwtAccessPayload} {principal : AgentAccessPrincipal}
    (resolved : resolveConsumerAgentAccessPrincipal user = some principal) :
    resolvePrincipalKeyFromUser user = some (buildPrincipalKey principal) := by
  unfold resolveConsumerAgentAccessPrincipal at resolved
  unfold resolvePrincipalKeyFromUser
  split_ifs at resolved ⊢
  · cases resolved
    rfl
  · cases resolved
    rfl

/-! ## Snapshots and their indexes -/

/-- `SocketAgentAccessSnapshot`. -/
structure SocketAgentAccessSnapshot where
  agentId : String
  principalId : String
  principalType : String
  credentialsVersion : Option Nat
  validatedAtMs : Int
  readAt : Nat

/-- `buildAgentAccessSnapshot`. -/
def buildAgentAccessSnapshot (user : JwtAccessPayload) (agentId : String)
    (principal : AgentAccessPrincipal) (nowMs : Int) (readAt : Nat) : SocketAgentAccessSnapshot :=
  ⟨agentId, principal.id, principal.type, user.credentialsVersion, nowMs, readAt⟩

/-- A consumer socket. Without a map of snapshots it has an empty one. -/
structure GuardSocket where
  user : JwtAccessPayload
  connected : Bool := true
  agentAccessSnapshots : OrderedMap String SocketAgentAccessSnapshot := .empty
  rooms : List Room := []

/-- `tryGetCachedAgentAccess`. -/
def tryGetCachedAgentAccess (ttlMs : Nat) (socket : GuardSocket) (agentId : String)
    (principal : AgentAccessPrincipal) (nowMs : Int) : Option AgentAccessPrincipal :=
  if ttlMs = 0 then none
  else
    match socket.agentAccessSnapshots.get agentId with
    | none => none
    | some snap =>
      if snap.principalId = principal.id ∧ snap.principalType = principal.type ∧
          snap.credentialsVersion = socket.user.credentialsVersion ∧
          nowMs - snap.validatedAtMs < ttlMs then some principal
      else none

/-- What an invalidation is about. -/
inductive Invalidation where
  | agent (agentId : String)
  | clientAgent (clientId agentId : String)
  | user (userId : String)

/-- An invalidation is about what a user may do with an agent. -/
def Invalidation.matches (user : JwtAccessPayload) (agentId : String) : Invalidation → Bool
  | .agent changed => agentId = changed
  | .clientAgent clientId changed =>
    agentId = changed && user.principalType = some .client && user.sub = clientId
  | .user userId => user.principalType ≠ some .client && user.sub = userId

/-- The sockets of a process, and the indexes of their snapshots. -/
structure LocalSnapshots where
  sockets : OrderedMap String GuardSocket := .empty
  socketIdsByAgentId : Index String String := .empty
  socketIdsByPrincipalKey : Index PrincipalKey String := .empty

namespace LocalSnapshots

variable (hub : LocalSnapshots)

/-- `namespace.sockets.get`: a socket that is connected. -/
def liveSocket (socketId : String) : Option GuardSocket :=
  (hub.sockets.get socketId).filter (·.connected)

/-- `recordAgentAccessSnapshot`. -/
def recordAgentAccessSnapshot (ttlMs : Nat) (user : JwtAccessPayload) (agentId : String)
    (principal : AgentAccessPrincipal) (socketId : String) (nowMs : Int) (readAt : Nat) :
    LocalSnapshots :=
  if ttlMs = 0 then hub
  else
    let snap := buildAgentAccessSnapshot user agentId principal nowMs readAt
    { sockets := hub.sockets.modify socketId fun socket =>
        { socket with agentAccessSnapshots := socket.agentAccessSnapshots.set agentId snap }
      socketIdsByAgentId := hub.socketIdsByAgentId.addToIndex agentId socketId
      socketIdsByPrincipalKey :=
        hub.socketIdsByPrincipalKey.addToIndex (buildPrincipalKey principal) socketId }

/-- `removeAgentAccessSnapshotIndexEntry`. -/
def removeAgentAccessSnapshotIndexEntry (agentId socketId : String) : LocalSnapshots :=
  { hub with socketIdsByAgentId := hub.socketIdsByAgentId.removeFromIndex agentId socketId }

/-- `untrackSocketFromPrincipalIndex`. -/
def untrackSocketFromPrincipalIndex (key : PrincipalKey) (socketId : String) : LocalSnapshots :=
  { hub with socketIdsByPrincipalKey := hub.socketIdsByPrincipalKey.removeFromIndex key socketId }

/-- `maybeUntrackSocketFromPrincipalIndex`. -/
def maybeUntrackSocketFromPrincipalIndex (socketId : String) (socket : GuardSocket) :
    LocalSnapshots :=
  if 0 < socket.agentAccessSnapshots.size then hub
  else
    match resolvePrincipalKeyFromUser socket.user with
    | none => hub
    | some key => hub.untrackSocketFromPrincipalIndex key socketId

/-- `clearConsumerSocketAgentAccessSnapshot`. -/
def clearConsumerSocketAgentAccessSnapshot (agentId socketId : String) : LocalSnapshots :=
  match hub.sockets.get socketId with
  | none => hub
  | some socket =>
    let cleared :=
      { socket with agentAccessSnapshots := socket.agentAccessSnapshots.erase agentId }
    let removed := { hub with sockets := hub.sockets.set socketId cleared }
      |>.removeAgentAccessSnapshotIndexEntry agentId socketId
    removed.maybeUntrackSocketFromPrincipalIndex socketId cleared

/-- `clearAllConsumerSocketAgentAccessSnapshots`. -/
def clearAllConsumerSocketAgentAccessSnapshots (socketId : String) : LocalSnapshots :=
  match hub.sockets.get socketId with
  | none => hub
  | some socket =>
    let cleared : LocalSnapshots :=
      { hub with
        sockets := hub.sockets.set socketId { socket with agentAccessSnapshots := .empty }
        socketIdsByAgentId := socket.agentAccessSnapshots.keys.foldl
          (fun index agentId => index.removeFromIndex agentId socketId) hub.socketIdsByAgentId }
    match resolvePrincipalKeyFromUser socket.user with
    | none => cleared
    | some key => cleared.untrackSocketFromPrincipalIndex key socketId

/-- One socket of an index is cleared if it is selected, or taken from the index if it is no longer
here. -/
def invalidateOne (selects : GuardSocket → Bool) (prune clear : LocalSnapshots → String →
    LocalSnapshots) (counted : LocalSnapshots × Nat) (socketId : String) : LocalSnapshots × Nat :=
  match counted.1.liveSocket socketId with
  | none => (prune counted.1 socketId, counted.2)
  | some socket =>
    if selects socket then (clear counted.1 socketId, counted.2 + 1) else counted

/-- `invalidateLocalAgentAccessSnapshotsByAgentId`, with the number of sockets cleared. -/
def invalidateLocalAgentAccessSnapshotsByAgentId (agentId : String) : LocalSnapshots × Nat :=
  (hub.socketIdsByAgentId.members agentId).foldl
    (invalidateOne (fun _ => true) (fun hub => hub.removeAgentAccessSnapshotIndexEntry agentId)
      (fun hub => hub.clearConsumerSocketAgentAccessSnapshot agentId)) (hub, 0)

/-- `invalidateLocalClientAgentAccessSnapshot`. -/
def invalidateLocalClientAgentAccessSnapshot (clientId agentId : String) : LocalSnapshots × Nat :=
  (hub.socketIdsByAgentId.members agentId).foldl
    (invalidateOne
      (fun socket => socket.user.principalType = some .client && socket.user.sub = clientId)
      (fun hub => hub.removeAgentAccessSnapshotIndexEntry agentId)
      (fun hub => hub.clearConsumerSocketAgentAccessSnapshot agentId)) (hub, 0)

/-- `invalidateLocalUserAccessSnapshots`. -/
def invalidateLocalUserAccessSnapshots (userId : String) : LocalSnapshots × Nat :=
  (hub.socketIdsByPrincipalKey.members (.user userId)).foldl
    (invalidateOne (fun _ => true) (fun hub => hub.untrackSocketFromPrincipalIndex (.user userId))
      (fun hub => hub.clearAllConsumerSocketAgentAccessSnapshots)) (hub, 0)

/-- An invalidation. -/
def invalidate : Invalidation → LocalSnapshots × Nat
  | .agent agentId => hub.invalidateLocalAgentAccessSnapshotsByAgentId agentId
  | .clientAgent clientId agentId => hub.invalidateLocalClientAgentAccessSnapshot clientId agentId
  | .user userId => hub.invalidateLocalUserAccessSnapshots userId

/-- The indexes tell which connected sockets hold snapshots. -/
structure Exact : Prop where
  /-- A socket is indexed under an agent exactly when it is connected and holds a snapshot of it. -/
  agents : ∀ agentId socketId, socketId ∈ hub.socketIdsByAgentId.members agentId ↔
    ∃ socket snap, hub.liveSocket socketId = some socket ∧
      socket.agentAccessSnapshots.get agentId = some snap
  /-- And under a principal exactly when it is connected by the principal and holds any. -/
  principals : ∀ key socketId, socketId ∈ hub.socketIdsByPrincipalKey.members key ↔
    ∃ socket agentId snap, hub.liveSocket socketId = some socket ∧
      resolvePrincipalKeyFromUser socket.user = some key ∧
      socket.agentAccessSnapshots.get agentId = some snap

end LocalSnapshots

/-! ## Validations -/

/-- What a validation gives: the principal, or what was thrown, with its error if it is one of the
application. -/
abbrev ValidationResult := Except (Option AppError) AgentAccessPrincipal

/-- Where a validation is. -/
inductive ValidationPhase where
  | reading
  | joining (rooms : List Room)
  | joined (failure : Option (Option AppError))
  | ended (result : ValidationResult)
  | settled (result : ValidationResult)

/-- The promise is settled. -/
def ValidationPhase.isSettled : ValidationPhase → Bool
  | .settled _ => true
  | _ => false

/-- A validation. -/
structure Validation where
  socketId : String
  agentId : String
  user : JwtAccessPayload
  principal : AgentAccessPrincipal
  readAt : Nat
  phase : ValidationPhase := .reading

/-- `inFlightAgentAccessKey`; an id of a socket has no colon. -/
def Validation.key (validation : Validation) : String × String :=
  (validation.socketId, validation.agentId)

/-- Rooms that were joined for a validation. -/
structure RoomJoin where
  user : JwtAccessPayload
  agentId : String
  readAt : Nat
  joinedAt : Nat

/-- What a guard answers. -/
inductive GuardAnswer where
  | rejected (error : AppError)
  | cached (principal : AgentAccessPrincipal)
  | awaits (number : Nat)
deriving DecidableEq

/-- What happens. -/
inductive GuardAction where
  | connect (socketId : String) (user : JwtAccessPayload)
  /-- A guard goes on when the account of the socket's user is known to be active. -/
  | guard (socketId agentId : String) (nowMs : Int)
  /-- The repository answers a validation; it grants the access or there is an error. -/
  | read (number : Nat) (failure : Option (Option AppError)) (nowMs : Int)
  | join (number : Nat) (failure : Option (Option AppError))
  | resume (number : Nat) (nowMs : Int)
  | settle (number : Nat)
  | invalidate (target : Invalidation)
  | clear (socketId agentId : String)
  | setRooms (socketId : String) (rooms : List Room)
  | disconnect (socketId : String)

/-- The guard's maps, with what has happened. -/
structure SocketGuard where
  hub : LocalSnapshots := {}
  /-- `inFlightAgentAccessBySocketAgent`. -/
  inFlight : OrderedMap (String × String) Nat := .empty
  /-- `inflightKeysBySocketId`. -/
  inflightKeysBySocketId : Index String (String × String) := .empty
  validations : List Validation := []
  clock : Nat := 0
  invalidations : List (Nat × Invalidation) := []
  joins : List RoomJoin := []

namespace SocketGuard

variable (ttlMs : Nat) (guard : SocketGuard)

/-- An invalidation of what a user may do with an agent came after a step. -/
def Overtaken (user : JwtAccessPayload) (agentId : String) (readAt : Nat) : Prop :=
  ∃ entry ∈ guard.invalidations, readAt < entry.1 ∧ entry.2.matches user agentId = true

instance (user : JwtAccessPayload) (agentId : String) (readAt : Nat) :
    Decidable (guard.Overtaken user agentId readAt) :=
  inferInstanceAs (Decidable (∃ entry ∈ guard.invalidations, readAt < entry.1 ∧
    entry.2.matches user agentId = true))

/-- A validation goes on. -/
def setPhase (number : Nat) (validation : Validation) (phase : ValidationPhase) : SocketGuard :=
  { guard with validations := guard.validations.set number { validation with phase } }

/-- What follows the account check in `assertConsumerSocketAgentAccess`: the answer, and a
validation if one begins. -/
def assertConsumerSocketAgentAccess (socketId : String) (socket : GuardSocket) (agentId : String)
    (nowMs : Int) : GuardAnswer × SocketGuard :=
  match resolveConsumerAgentAccessPrincipal socket.user with
  | none => (.rejected ⟨"Authentication required", 401, "UNAUTHORIZED"⟩, guard)
  | some principal =>
    match tryGetCachedAgentAccess ttlMs socket agentId principal nowMs with
    | some cached => (.cached cached, guard)
    | none =>
      match guard.inFlight.get (socketId, agentId) with
      | some number => (.awaits number, guard)
      | none =>
        let number := guard.validations.length
        (.awaits number,
          { guard with
            inFlight := guard.inFlight.set (socketId, agentId) number
            inflightKeysBySocketId :=
              guard.inflightKeysBySocketId.addToIndex socketId (socketId, agentId)
            validations := guard.validations ++
              [⟨socketId, agentId, socket.user, principal, guard.clock, .reading⟩] })

/-- The end of `validateAgentAccessAgainstDb`: the snapshot is recorded while the validation of the
socket and the agent is in flight. -/
def finishValidation (number : Nat) (validation : Validation) (nowMs : Int) : SocketGuard :=
  let recorded : SocketGuard := { guard with
    hub :=
      if guard.inFlight.has validation.key then
        guard.hub.recordAgentAccessSnapshot ttlMs validation.user validation.agentId
          validation.principal validation.socketId nowMs validation.readAt
      else guard.hub }
  recorded.setPhase number validation (.ended (.ok validation.principal))

/-- The rooms of a client and an agent. -/
def clientAgentRooms (clientId agentId : String) : List Room :=
  [.clientAgent clientId agentId, .agentProfile agentId]

/-- The repository has granted the access: a client joins the rooms that it is not in. -/
def onGranted (number : Nat) (validation : Validation) (nowMs : Int) : SocketGuard :=
  match validation.principal with
  | .user _ _ => guard.finishValidation ttlMs number validation nowMs
  | .client clientId =>
    let current := ((guard.hub.sockets.get validation.socketId).map (·.rooms)).getD []
    match (clientAgentRooms clientId validation.agentId).filter (· ∉ current) with
    | [] => guard.setPhase number validation (.joined none)
    | missing => guard.setPhase number validation (.joining missing)

/-- The adapter has joined rooms for a validation. -/
def onJoined (number : Nat) (validation : Validation) (rooms : List Room) : SocketGuard :=
  let joined : SocketGuard := { guard with
    hub := { guard.hub with
      sockets := guard.hub.sockets.modify validation.socketId fun socket =>
        { socket with rooms := socket.rooms ∪ rooms } }
    joins := guard.joins ++
      [⟨validation.user, validation.agentId, validation.readAt, guard.clock⟩] }
  joined.setPhase number validation (.joined none)

/-- The promise of a validation is settled and forgotten. -/
def onSettled (number : Nat) (validation : Validation) (result : ValidationResult) : SocketGuard :=
  let forgotten : SocketGuard := { guard with
    inFlight :=
      if guard.inFlight.get validation.key = some number then guard.inFlight.erase validation.key
      else guard.inFlight
    inflightKeysBySocketId :=
      guard.inflightKeysBySocketId.removeFromIndex validation.socketId validation.key }
  forgotten.setPhase number validation (.settled result)

/-- `clearInflightAgentAccessForSocket`. -/
def clearInflightAgentAccessForSocket (socketId : String) : SocketGuard :=
  { guard with
    inFlight := (guard.inflightKeysBySocketId.members socketId).foldl (·.erase ·) guard.inFlight
    inflightKeysBySocketId := guard.inflightKeysBySocketId.erase socketId }

/-- A socket is no longer connected and has left its rooms, and is cleaned up. -/
def onDisconnected (socketId : String) : SocketGuard :=
  let left : SocketGuard := { guard with
    hub := { guard.hub with
      sockets := guard.hub.sockets.modify socketId fun socket =>
        { socket with connected := false, rooms := [] } } }
  let cleared := left.clearInflightAgentAccessForSocket socketId
  { cleared with hub := cleared.hub.clearAllConsumerSocketAgentAccessSnapshots socketId }

/-- What a step does. -/
def perform : GuardAction → SocketGuard
  | .connect socketId user =>
    if guard.hub.sockets.has socketId then guard
    else
      { guard with
        hub := { guard.hub with sockets := guard.hub.sockets.set socketId { user } } }
  | .guard socketId agentId nowMs =>
    match guard.hub.sockets.get socketId with
    | none => guard
    | some socket => (guard.assertConsumerSocketAgentAccess ttlMs socketId socket agentId nowMs).2
  | .read number failure nowMs =>
    match guard.validations[number]? with
    | none => guard
    | some validation =>
      match validation.phase, failure with
      | .reading, none => guard.onGranted ttlMs number validation nowMs
      | .reading, some error => guard.setPhase number validation (.ended (.error error))
      | _, _ => guard
  | .join number failure =>
    match guard.validations[number]? with
    | none => guard
    | some validation =>
      match validation.phase, failure with
      | .joining rooms, none => guard.onJoined number validation rooms
      | .joining _, some error => guard.setPhase number validation (.joined (some error))
      | _, _ => guard
  | .resume number nowMs =>
    match guard.validations[number]? with
    | none => guard
    | some validation =>
      match validation.phase with
      | .joined none => guard.finishValidation ttlMs number validation nowMs
      | .joined (some error) => guard.setPhase number validation (.ended (.error error))
      | _ => guard
  | .settle number =>
    match guard.validations[number]? with
    | none => guard
    | some validation =>
      match validation.phase with
      | .ended result => guard.onSettled number validation result
      | _ => guard
  | .invalidate target =>
    { guard with
      hub := (guard.hub.invalidate target).1
      invalidations := guard.invalidations ++ [(guard.clock, target)] }
  | .clear socketId agentId =>
    match guard.hub.liveSocket socketId with
    | none => guard
    | some _ =>
      { guard with hub := guard.hub.clearConsumerSocketAgentAccessSnapshot agentId socketId }
  | .setRooms socketId rooms =>
    { guard with
      hub := { guard.hub with
        sockets := guard.hub.sockets.modify socketId fun socket => { socket with rooms } } }
  | .disconnect socketId =>
    match guard.hub.liveSocket socketId with
    | none => guard
    | some _ => guard.onDisconnected socketId

/-- One step. -/
def step (action : GuardAction) : SocketGuard :=
  { guard.perform ttlMs action with clock := guard.clock + 1 }

/-- What is promised of the snapshots. -/
structure Lawful : Prop where
  /-- The reverse indexes list exactly the snapshots that are held. -/
  indexes : guard.hub.Exact
  /-- An invalidation leaves no snapshot that it matches. -/
  reaches : ∀ (target : Invalidation) (socketId agentId : String) (socket : GuardSocket),
    (guard.hub.invalidate target).1.sockets.get socketId = some socket →
      target.matches socket.user agentId = true → socket.agentAccessSnapshots.get agentId = none
  /-- No invalidation came between the repository read and the recording of a snapshot. -/
  fresh : ∀ (socketId agentId : String) (socket : GuardSocket) (snap : SocketAgentAccessSnapshot),
    guard.hub.sockets.get socketId = some socket →
      socket.agentAccessSnapshots.get agentId = some snap →
        ¬ guard.Overtaken socket.user agentId snap.readAt
  /-- A guard that reads nothing and waits for nothing has such a snapshot. -/
  accepts : ∀ (socketId agentId : String) (socket : GuardSocket) (nowMs : Int)
    (principal : AgentAccessPrincipal), guard.hub.sockets.get socketId = some socket →
      (guard.assertConsumerSocketAgentAccess ttlMs socketId socket agentId nowMs).1 =
          .cached principal →
        ∃ snap, socket.agentAccessSnapshots.get agentId = some snap ∧
          ¬ guard.Overtaken socket.user agentId snap.readAt
  /-- No room was joined on a grant read before an invalidation that came before the join. -/
  joined : ∀ entry ∈ guard.joins, ∀ invalidation ∈ guard.invalidations,
    invalidation.2.matches entry.user entry.agentId = true →
      invalidation.1 ≤ entry.readAt ∨ entry.joinedAt ≤ invalidation.1

end SocketGuard

/-- A validation that is about to record its snapshot was not overtaken by an invalidation, and its
socket is connected. -/
def RecordsInTime (ttlMs : Nat) (guard : SocketGuard) (validation : Validation) : Prop :=
  ttlMs ≠ 0 → guard.inFlight.has validation.key = true →
    (guard.hub.liveSocket validation.socketId).isSome = true ∧
      ¬ guard.Overtaken validation.user validation.agentId validation.readAt

/-- A validation that was granted the access goes on in time. -/
def InTime (ttlMs : Nat) (guard : SocketGuard) : GuardAction → Prop
  | .read number failure _ => ∀ validation ∈ guard.validations[number]?,
    (∃ id role, validation.principal = .user id role) → validation.phase = .reading →
      failure = none → RecordsInTime ttlMs guard validation
  | .join number failure => ∀ validation ∈ guard.validations[number]?, ∀ rooms,
    validation.phase = .joining rooms → failure = none →
      ¬ guard.Overtaken validation.user validation.agentId validation.readAt
  | .resume number _ => ∀ validation ∈ guard.validations[number]?,
    validation.phase = .joined none → RecordsInTime ttlMs guard validation
  | _ => True

/-- A guard goes on while its socket is connected. -/
def BeginsConnected (guard : SocketGuard) : GuardAction → Prop
  | .guard socketId _ _ => (guard.hub.liveSocket socketId).isSome = true
  | _ => True

/-! ## The indexes -/

namespace LocalSnapshots

variable {hub : LocalSnapshots}

variable {socketId : String} {changed : LocalSnapshots}

variable {socket : GuardSocket}

theorem liveSocket_eq_some_iff :
    hub.liveSocket socketId = some socket ↔
      hub.sockets.get socketId = some socket ∧ socket.connected = true := by
  rw [liveSocket, Option.filter_eq_some_iff]

theorem liveSocket_set
    (sockets : changed.sockets = hub.sockets.set socketId socket) (other : String) :
    changed.liveSocket other =
      if other = socketId then (some socket).filter (·.connected) else hub.liveSocket other := by
  rw [liveSocket, sockets, get_set]
  split_ifs
  · rfl
  · rfl

theorem Exact.of_set (exact : hub.Exact)
    (sockets : changed.sockets = hub.sockets.set socketId socket)
    (agents : ∀ agentId other, other ∈ changed.socketIdsByAgentId.members agentId ↔
      if other = socketId then
        socket.connected = true ∧ ∃ snap, socket.agentAccessSnapshots.get agentId = some snap
      else other ∈ hub.socketIdsByAgentId.members agentId)
    (principals : ∀ key other, other ∈ changed.socketIdsByPrincipalKey.members key ↔
      if other = socketId then
        socket.connected = true ∧ resolvePrincipalKeyFromUser socket.user = some key ∧
          ∃ agentId snap, socket.agentAccessSnapshots.get agentId = some snap
      else other ∈ hub.socketIdsByPrincipalKey.members key) : changed.Exact := by
  constructor
  · intro agentId other
    rw [agents, liveSocket_set sockets]
    split_ifs with same
    · simp only [Option.filter_eq_some_iff, Option.some.injEq]
      constructor
      · rintro ⟨connected, snap, found⟩
        exact ⟨socket, snap, ⟨rfl, connected⟩, found⟩
      · rintro ⟨_, snap, ⟨rfl, connected⟩, found⟩
        exact ⟨connected, snap, found⟩
    · exact exact.agents agentId other
  · intro key other
    rw [principals, liveSocket_set sockets]
    split_ifs with same
    · simp only [Option.filter_eq_some_iff, Option.some.injEq]
      constructor
      · rintro ⟨connected, keyed, agentId, snap, found⟩
        exact ⟨socket, agentId, snap, ⟨rfl, connected⟩, keyed, found⟩
      · rintro ⟨_, agentId, snap, ⟨rfl, connected⟩, keyed, found⟩
        exact ⟨connected, keyed, agentId, snap, found⟩
    · exact exact.principals key other

theorem Exact.agent_of_get (exact : hub.Exact)
    (found : hub.sockets.get socketId = some socket) (agentId : String) :
    socketId ∈ hub.socketIdsByAgentId.members agentId ↔
      socket.connected = true ∧ ∃ snap, socket.agentAccessSnapshots.get agentId = some snap := by
  rw [exact.agents]
  simp only [liveSocket_eq_some_iff, found, Option.some.injEq]
  constructor
  · rintro ⟨_, snap, ⟨rfl, connected⟩, held⟩
    exact ⟨connected, snap, held⟩
  · rintro ⟨connected, snap, held⟩
    exact ⟨socket, snap, ⟨rfl, connected⟩, held⟩

theorem Exact.principal_of_get (exact : hub.Exact)
    (found : hub.sockets.get socketId = some socket) (key : PrincipalKey) :
    socketId ∈ hub.socketIdsByPrincipalKey.members key ↔
      socket.connected = true ∧ resolvePrincipalKeyFromUser socket.user = some key ∧
        ∃ agentId snap, socket.agentAccessSnapshots.get agentId = some snap := by
  rw [exact.principals]
  simp only [liveSocket_eq_some_iff, found, Option.some.injEq]
  constructor
  · rintro ⟨_, agentId, snap, ⟨rfl, connected⟩, keyed, held⟩
    exact ⟨connected, keyed, agentId, snap, held⟩
  · rintro ⟨connected, keyed, agentId, snap, held⟩
    exact ⟨socket, agentId, snap, ⟨rfl, connected⟩, keyed, held⟩

theorem Exact.of_same {socket next : GuardSocket} (exact : hub.Exact)
    (found : hub.sockets.get socketId = some socket)
    (sockets : changed.sockets = hub.sockets.set socketId next)
    (agents : changed.socketIdsByAgentId = hub.socketIdsByAgentId)
    (principals : changed.socketIdsByPrincipalKey = hub.socketIdsByPrincipalKey)
    (user : next.user = socket.user) (connected : next.connected = socket.connected)
    (snapshots : next.agentAccessSnapshots = socket.agentAccessSnapshots) : changed.Exact := by
  refine exact.of_set sockets (fun agentId other => ?_) (fun key other => ?_)
  · rw [agents, connected, snapshots]
    split_ifs with same
    · rw [same, exact.agent_of_get found]
    · rfl
  · rw [principals, user, connected, snapshots]
    split_ifs with same
    · rw [same, exact.principal_of_get found]
    · rfl

theorem held_set {map : OrderedMap String SocketAgentAccessSnapshot} {agentId other : String}
    {value : SocketAgentAccessSnapshot} :
    (∃ snap, (map.set agentId value).get other = some snap) ↔
      other = agentId ∨ ∃ snap, map.get other = some snap := by
  rw [get_set]
  split_ifs with same
  · simp [same]
  · simp [same]

theorem held_erase {map : OrderedMap String SocketAgentAccessSnapshot} {agentId other : String} :
    (∃ snap, (map.erase agentId).get other = some snap) ↔
      other ≠ agentId ∧ ∃ snap, map.get other = some snap := by
  rw [get_erase]
  split_ifs with same
  · simp [same]
  · simp [same]

theorem Exact.record (exact : hub.Exact) {ttlMs : Nat} {user : JwtAccessPayload} {agentId : String}
    {principal : AgentAccessPrincipal} (nowMs : Int)
    (readAt : Nat) (live : hub.liveSocket socketId = some socket)
    (keyed : resolvePrincipalKeyFromUser socket.user = some (buildPrincipalKey principal)) :
    (hub.recordAgentAccessSnapshot ttlMs user agentId principal socketId nowMs readAt).Exact := by
  obtain ⟨found, connected⟩ := liveSocket_eq_some_iff.mp live
  unfold recordAgentAccessSnapshot
  split_ifs with off
  · exact exact
  · refine exact.of_set
      (modify_of_present _ _ found : _ = hub.sockets.set socketId _)
      (fun other member => ?_) (fun key member => ?_)
    · simp only [Index.mem_addToIndex, held_set]
      split_ifs with same
      · rw [same, exact.agent_of_get found]
        constructor
        · rintro (⟨-, held⟩ | ⟨rfl, -⟩)
          · exact ⟨connected, .inr held⟩
          · exact ⟨connected, .inl rfl⟩
        · rintro ⟨-, rfl | held⟩
          · exact .inr ⟨rfl, rfl⟩
          · exact .inl ⟨connected, held⟩
      · simp [same]
    · simp only [Index.mem_addToIndex]
      split_ifs with same
      · rw [same, exact.principal_of_get found, keyed]
        constructor
        · rintro (⟨-, resolved, -⟩ | ⟨rfl, -⟩)
          · exact ⟨connected, resolved, agentId, _, get_set_self _ _ _⟩
          · exact ⟨connected, rfl, agentId, _, get_set_self _ _ _⟩
        · rintro ⟨-, resolved, -⟩
          exact .inr ⟨(Option.some.inj resolved).symm, rfl⟩
      · simp [same]

/-- Clearing the snapshot of an agent keeps the indexes right. -/
theorem Exact.clear (exact : hub.Exact) (agentId socketId : String) :
    (hub.clearConsumerSocketAgentAccessSnapshot agentId socketId).Exact := by
  unfold clearConsumerSocketAgentAccessSnapshot
  cases found : hub.sockets.get socketId with
  | none => exact exact
  | some socket =>
    have agents : ∀ agent other,
        other ∈ (hub.socketIdsByAgentId.removeFromIndex agentId socketId).members agent ↔
          if other = socketId then
            socket.connected = true ∧
              ∃ snap, (socket.agentAccessSnapshots.erase agentId).get agent = some snap
          else other ∈ hub.socketIdsByAgentId.members agent := by
      intro agent other
      rw [Index.mem_removeFromIndex, held_erase]
      split_ifs with same
      · rw [same, exact.agent_of_get found]
        constructor
        · rintro ⟨⟨connected, held⟩, kept⟩
          exact ⟨connected, fun refuted => kept ⟨refuted, rfl⟩, held⟩
        · rintro ⟨connected, kept, held⟩
          exact ⟨⟨connected, held⟩, fun refuted => kept refuted.1⟩
      · simp [same]
    simp only [maybeUntrackSocketFromPrincipalIndex, removeAgentAccessSnapshotIndexEntry]
    split_ifs with left
    · rw [size_pos_iff] at left
      refine exact.of_set rfl agents fun key other => ?_
      split_ifs with same
      · obtain ⟨agent, held⟩ := left
        rw [same, exact.principal_of_get found]
        have before := (held_erase.mp held).2
        exact and_congr_right fun _ => and_congr_right fun _ =>
          iff_of_true ⟨agent, before⟩ ⟨agent, held⟩
      · rfl
    · rw [size_pos_iff] at left
      cases keyed : resolvePrincipalKeyFromUser socket.user with
      | none =>
        refine exact.of_set rfl agents fun key other => ?_
        split_ifs with same
        · rw [same, exact.principal_of_get found, keyed]
          simp
        · rfl
      | some own =>
        refine exact.of_set rfl agents fun key other => ?_
        simp only [untrackSocketFromPrincipalIndex, Index.mem_removeFromIndex]
        split_ifs with same
        · rw [same, exact.principal_of_get found, keyed]
          refine iff_of_false ?_ (fun refuted => left refuted.2.2)
          rintro ⟨⟨-, resolved, -⟩, kept⟩
          exact kept ⟨(Option.some.inj resolved).symm, rfl⟩
        · simp [same]

/-- Clearing all snapshots of a socket makes the indexes right, whatever else has changed of it. -/
theorem Exact.clearAll_of {socket next : GuardSocket} (exact : hub.Exact)
    (found : hub.sockets.get socketId = some socket)
    (sockets : changed.sockets = hub.sockets.set socketId next)
    (agents : changed.socketIdsByAgentId = hub.socketIdsByAgentId)
    (principals : changed.socketIdsByPrincipalKey = hub.socketIdsByPrincipalKey)
    (user : next.user = socket.user)
    (snapshots : next.agentAccessSnapshots = socket.agentAccessSnapshots) :
    (changed.clearAllConsumerSocketAgentAccessSnapshots socketId).Exact := by
  have present : changed.sockets.get socketId = some next := by
    rw [sockets, get_set_self]
  have twice : changed.sockets.set socketId { next with agentAccessSnapshots := .empty } =
      hub.sockets.set socketId { next with agentAccessSnapshots := .empty } := by
    rw [sockets, set_set]
  have filed : ∀ agent other,
      other ∈ (next.agentAccessSnapshots.keys.foldl (fun index agentId =>
        index.removeFromIndex agentId socketId) changed.socketIdsByAgentId).members agent ↔
        if other = socketId then
          next.connected = true ∧ ∃ snap, (OrderedMap.empty :
            OrderedMap String SocketAgentAccessSnapshot).get agent = some snap
        else other ∈ hub.socketIdsByAgentId.members agent := by
    intro agent other
    rw [Index.mem_foldl_removeFromIndex, OrderedMap.mem_keys_iff, agents, snapshots]
    split_ifs with same
    · rw [same, exact.agent_of_get found]
      refine iff_of_false ?_ (by simp)
      rintro ⟨⟨-, held⟩, kept⟩
      exact kept ⟨held, rfl⟩
    · simp [same]
  simp only [clearAllConsumerSocketAgentAccessSnapshots, present]
  cases keyed : resolvePrincipalKeyFromUser next.user with
  | none =>
    refine exact.of_set twice filed fun key other => ?_
    dsimp only
    rw [principals]
    split_ifs with same
    · rw [same, exact.principal_of_get found, ← user, keyed]
      simp
    · rfl
  | some own =>
    refine exact.of_set twice filed fun key other => ?_
    simp only [untrackSocketFromPrincipalIndex, Index.mem_removeFromIndex]
    rw [principals]
    split_ifs with same
    · rw [same, exact.principal_of_get found, ← user, keyed]
      refine iff_of_false ?_ (by simp)
      rintro ⟨⟨-, resolved, -⟩, kept⟩
      exact kept ⟨(Option.some.inj resolved).symm, rfl⟩
    · simp [same]

theorem Exact.clearAll (exact : hub.Exact) (socketId : String) :
    (hub.clearAllConsumerSocketAgentAccessSnapshots socketId).Exact := by
  cases found : hub.sockets.get socketId with
  | none =>
    simp only [clearAllConsumerSocketAgentAccessSnapshots, found]
    exact exact
  | some socket =>
    exact exact.clearAll_of found (hub.sockets.set_of_get found).symm rfl rfl rfl rfl

theorem Exact.connect (exact : hub.Exact)
    (absent : hub.sockets.get socketId = none) (user : JwtAccessPayload) :
    ({ hub with sockets := hub.sockets.set socketId { user } } : LocalSnapshots).Exact := by
  refine exact.of_set rfl (fun agentId other => ?_) (fun key other => ?_)
  · split_ifs with same
    · rw [same, exact.agents]
      simp [liveSocket, absent]
    · rfl
  · split_ifs with same
    · rw [same, exact.principals]
      simp [liveSocket, absent]
    · rfl

end LocalSnapshots

/-! ## Invalidations -/

/-- A socket is the same as before, with some of its snapshots. -/
structure TrimmedSocket (socket next : GuardSocket) : Prop where
  user : next.user = socket.user
  connected : next.connected = socket.connected
  snapshots : ∀ agentId snap, next.agentAccessSnapshots.get agentId = some snap →
    socket.agentAccessSnapshots.get agentId = some snap

/-- The sockets are the same as before, with some of their snapshots. -/
structure Trimmed (hub next : LocalSnapshots) : Prop where
  before : ∀ socketId socket, next.sockets.get socketId = some socket →
    ∃ earlier, hub.sockets.get socketId = some earlier ∧ TrimmedSocket earlier socket
  after : ∀ socketId socket, hub.sockets.get socketId = some socket →
    ∃ later, next.sockets.get socketId = some later ∧ TrimmedSocket socket later

theorem TrimmedSocket.refl (socket : GuardSocket) : TrimmedSocket socket socket :=
  ⟨rfl, rfl, fun _ _ held => held⟩

theorem TrimmedSocket.trans {first second third : GuardSocket}
    (once : TrimmedSocket first second) (twice : TrimmedSocket second third) :
    TrimmedSocket first third :=
  ⟨twice.user.trans once.user, twice.connected.trans once.connected,
    fun agentId snap held => once.snapshots agentId snap (twice.snapshots agentId snap held)⟩

namespace Trimmed

variable {hub : LocalSnapshots}

theorem of_same {next : LocalSnapshots} (sockets : next.sockets = hub.sockets) :
    Trimmed hub next := by
  constructor
  · intro socketId socket found
    exact ⟨socket, by rwa [sockets] at found, .refl socket⟩
  · intro socketId socket found
    exact ⟨socket, by rwa [sockets], .refl socket⟩

theorem refl (hub : LocalSnapshots) : Trimmed hub hub := of_same rfl

theorem trans {second third : LocalSnapshots} (once : Trimmed hub second)
    (twice : Trimmed second third) : Trimmed hub third := by
  constructor
  · intro socketId socket found
    obtain ⟨middle, between, later⟩ := twice.before socketId socket found
    obtain ⟨earlier, first, sooner⟩ := once.before socketId middle between
    exact ⟨earlier, first, sooner.trans later⟩
  · intro socketId socket found
    obtain ⟨middle, between, sooner⟩ := once.after socketId socket found
    obtain ⟨last, third, later⟩ := twice.after socketId middle between
    exact ⟨last, third, sooner.trans later⟩

theorem of_set {next : LocalSnapshots} {socketId : String} {socket changed : GuardSocket}
    (found : hub.sockets.get socketId = some socket)
    (sockets : next.sockets = hub.sockets.set socketId changed)
    (trimmed : TrimmedSocket socket changed) : Trimmed hub next := by
  constructor
  · intro other later present
    rw [sockets] at present
    obtain ⟨rfl, rfl⟩ | ⟨-, unchanged⟩ := get_set_cases present
    · exact ⟨socket, found, trimmed⟩
    · exact ⟨later, unchanged, .refl later⟩
  · intro other earlier present
    rw [sockets, get_set]
    split_ifs with same
    · rw [same, found] at present
      cases present
      exact ⟨changed, rfl, trimmed⟩
    · exact ⟨earlier, present, .refl earlier⟩

theorem clear (agentId socketId : String) :
    Trimmed hub (hub.clearConsumerSocketAgentAccessSnapshot agentId socketId) := by
  unfold LocalSnapshots.clearConsumerSocketAgentAccessSnapshot
  cases found : hub.sockets.get socketId with
  | none => exact .refl hub
  | some socket =>
    have trimmed : TrimmedSocket socket { socket with
        agentAccessSnapshots := socket.agentAccessSnapshots.erase agentId } := by
      refine ⟨rfl, rfl, fun other snap held => ?_⟩
      rw [get_erase] at held
      split_ifs at held
      exact held
    refine of_set found ?_ trimmed
    simp only [LocalSnapshots.maybeUntrackSocketFromPrincipalIndex]
    split_ifs
    · rfl
    · split
      · rfl
      · rfl

theorem clearAll (socketId : String) :
    Trimmed hub (hub.clearAllConsumerSocketAgentAccessSnapshots socketId) := by
  unfold LocalSnapshots.clearAllConsumerSocketAgentAccessSnapshots
  cases found : hub.sockets.get socketId with
  | none => exact .refl hub
  | some socket =>
    have trimmed : TrimmedSocket socket { socket with agentAccessSnapshots := .empty } :=
      ⟨rfl, rfl, fun _ _ held => by cases held⟩
    refine of_set found ?_ trimmed
    dsimp only
    split
    · rfl
    · rfl

end Trimmed

namespace LocalSnapshots

variable {hub : LocalSnapshots}

theorem get_clear {agentId socketId : String} {socket : GuardSocket}
    (found : (hub.clearConsumerSocketAgentAccessSnapshot agentId socketId).sockets.get socketId =
      some socket) : socket.agentAccessSnapshots.get agentId = none := by
  unfold clearConsumerSocketAgentAccessSnapshot at found
  cases present : hub.sockets.get socketId with
  | none =>
    rw [present] at found
    simp only [present, reduceCtorEq] at found
  | some earlier =>
    have sockets : ((hub.clearConsumerSocketAgentAccessSnapshot agentId socketId).sockets).get
        socketId = some { earlier with
          agentAccessSnapshots := earlier.agentAccessSnapshots.erase agentId } := by
      simp only [clearConsumerSocketAgentAccessSnapshot, present,
        maybeUntrackSocketFromPrincipalIndex]
      split_ifs
      · exact get_set_self _ _ _
      · split
        · exact get_set_self _ _ _
        · exact get_set_self _ _ _
    rw [← clearConsumerSocketAgentAccessSnapshot, sockets] at found
    cases found
    exact OrderedMap.get_erase_self _ _

theorem get_clearAll {agentId socketId : String} {socket : GuardSocket}
    (found : (hub.clearAllConsumerSocketAgentAccessSnapshots socketId).sockets.get socketId =
      some socket) : socket.agentAccessSnapshots.get agentId = none := by
  unfold clearAllConsumerSocketAgentAccessSnapshots at found
  cases present : hub.sockets.get socketId with
  | none =>
    simp only [present, reduceCtorEq] at found
  | some earlier =>
    simp only [present] at found
    have cleared : some { earlier with agentAccessSnapshots := .empty } = some socket := by
      split at found
      · rwa [get_set_self] at found
      · rw [← found]
        exact (get_set_self _ _ _).symm
    cases cleared
    rfl

section Each

variable {selects : GuardSocket → Bool} {prune clear : LocalSnapshots → String → LocalSnapshots}

/-- What pruning and clearing one socket of an index do: no snapshot is added and the indexes stay
right. -/
structure KeepsExact (prune clear : LocalSnapshots → String → LocalSnapshots) : Prop where
  pruneTrims : ∀ hub socketId, Trimmed hub (prune hub socketId)
  clearTrims : ∀ hub socketId, Trimmed hub (clear hub socketId)
  prune : ∀ hub socketId, Exact hub → hub.liveSocket socketId = none → (prune hub socketId).Exact
  clear : ∀ hub socketId, Exact hub → (clear hub socketId).Exact

section

variable (keeps : KeepsExact prune clear)

include keeps

theorem KeepsExact.one_trimmed (selects : GuardSocket → Bool)
    (counted : LocalSnapshots × Nat) (socketId : String) :
    Trimmed counted.1 (invalidateOne selects prune clear counted socketId).1 := by
  unfold invalidateOne
  split
  · exact keeps.pruneTrims counted.1 socketId
  · split_ifs
    · exact keeps.clearTrims counted.1 socketId
    · exact .refl counted.1

variable {counted : LocalSnapshots × Nat}

theorem KeepsExact.one (selects : GuardSocket → Bool)
    (exact : counted.1.Exact) (socketId : String) :
    (invalidateOne selects prune clear counted socketId).1.Exact := by
  unfold invalidateOne
  split
  · rename_i gone
    exact keeps.prune counted.1 socketId exact gone
  · split_ifs
    · exact keeps.clear counted.1 socketId exact
    · exact exact

theorem KeepsExact.each_trimmed (selects : GuardSocket → Bool)
    (counted : LocalSnapshots × Nat) (socketIds : List String) :
    Trimmed counted.1 (socketIds.foldl (invalidateOne selects prune clear) counted).1 := by
  induction socketIds generalizing counted with
  | nil => exact .refl counted.1
  | cons socketId rest ih => exact (keeps.one_trimmed selects counted socketId).trans (ih _)

theorem KeepsExact.each (selects : GuardSocket → Bool)
    (exact : counted.1.Exact) (socketIds : List String) :
    (socketIds.foldl (invalidateOne selects prune clear) counted).1.Exact := by
  induction socketIds generalizing counted with
  | nil => exact exact
  | cons socketId rest ih => exact ih (keeps.one selects exact socketId)

theorem KeepsExact.cleared (gone : GuardSocket → Prop)
    (clears : ∀ hub socketId socket, (clear hub socketId).sockets.get socketId = some socket →
      gone socket) (stays : ∀ socket next, TrimmedSocket socket next → gone socket → gone next)
    (selectsSame : ∀ socket next, TrimmedSocket socket next → selects next = selects socket)
    {socketIds : List String} {socketId : String}
    {socket : GuardSocket} (listed : socketId ∈ socketIds)
    (found : (socketIds.foldl (invalidateOne selects prune clear) counted).1.sockets.get socketId =
      some socket) (connected : socket.connected = true) (selected : selects socket = true) :
    gone socket := by
  induction socketIds generalizing counted with
  | nil => cases listed
  | cons head rest ih =>
    rw [List.foldl_cons] at found
    by_cases same : socketId = head
    · subst same
      obtain ⟨middle, between, trimmed⟩ :=
        (keeps.each_trimmed selects _ rest).before socketId socket found
      obtain ⟨earlier, first, sooner⟩ :=
        (keeps.one_trimmed selects counted socketId).before socketId middle between
      have live : counted.1.liveSocket socketId = some earlier := by
        rw [liveSocket_eq_some_iff]
        exact ⟨first, by rw [← sooner.connected, ← trimmed.connected, connected]⟩
      have chosen : selects earlier = true := by
        rw [← selectsSame _ _ sooner, ← selectsSame _ _ trimmed, selected]
      refine stays middle socket trimmed (clears counted.1 socketId middle ?_)
      simpa only [invalidateOne, live, chosen, if_true] using between
    · exact ih ((List.mem_cons.mp listed).resolve_left same) found

end

end Each

theorem keepsExact_clear (agentId : String) :
    KeepsExact (fun hub => hub.removeAgentAccessSnapshotIndexEntry agentId)
      (fun hub => hub.clearConsumerSocketAgentAccessSnapshot agentId) := by
  refine ⟨fun _ _ => .of_same rfl, fun _ socketId => .clear agentId socketId,
    fun hub socketId exact gone => ?_, fun hub socketId exact => exact.clear agentId socketId⟩
  constructor
  · intro other member
    rw [removeAgentAccessSnapshotIndexEntry, Index.mem_removeFromIndex, exact.agents]
    refine and_iff_left_of_imp ?_
    rintro ⟨socket, -, live, -⟩ ⟨-, rfl⟩
    rw [gone] at live
    cases live
  · exact exact.principals

theorem keepsExact_clearAll (key : PrincipalKey) :
    KeepsExact (fun hub => hub.untrackSocketFromPrincipalIndex key)
      (fun hub => hub.clearAllConsumerSocketAgentAccessSnapshots) := by
  refine ⟨fun _ _ => .of_same rfl, fun _ socketId => .clearAll socketId,
    fun hub socketId exact gone => ?_, fun hub socketId exact => exact.clearAll socketId⟩
  constructor
  · exact exact.agents
  · intro other member
    rw [untrackSocketFromPrincipalIndex, Index.mem_removeFromIndex, exact.principals]
    refine and_iff_left_of_imp ?_
    rintro ⟨socket, -, -, live, -⟩ ⟨-, rfl⟩
    rw [gone] at live
    cases live

theorem trimmed_invalidate (hub : LocalSnapshots) (target : Invalidation) :
    Trimmed hub (hub.invalidate target).1 := by
  cases target with
  | agent agentId | clientAgent clientId agentId =>
    exact (keepsExact_clear agentId).each_trimmed _ (hub, 0) _
  | user userId => exact (keepsExact_clearAll (.user userId)).each_trimmed _ (hub, 0) _

theorem Exact.invalidate (exact : hub.Exact) (target : Invalidation) :
    (hub.invalidate target).1.Exact := by
  have counted : (hub, 0).1.Exact := exact
  cases target with
  | agent agentId | clientAgent clientId agentId =>
    exact (keepsExact_clear agentId).each _ counted _
  | user userId => exact (keepsExact_clearAll (.user userId)).each _ counted _

/-- Who holds a snapshot is connected, and its principal is known. -/
def Entitled (hub : LocalSnapshots) : Prop :=
  ∀ socketId socket agentId snap, hub.sockets.get socketId = some socket →
    socket.agentAccessSnapshots.get agentId = some snap →
      socket.connected = true ∧ (resolvePrincipalKeyFromUser socket.user).isSome = true

theorem Entitled.of_trimmed {next : LocalSnapshots} (entitled : hub.Entitled)
    (trimmed : Trimmed hub next) : next.Entitled := by
  intro socketId socket agentId snap found held
  obtain ⟨earlier, before, same⟩ := trimmed.before socketId socket found
  rw [same.connected, same.user]
  exact entitled socketId earlier agentId snap before (same.snapshots agentId snap held)

theorem none_of_trimmed {socket next : GuardSocket} {agentId : String}
    (trimmed : TrimmedSocket socket next)
    (gone : socket.agentAccessSnapshots.get agentId = none) :
    next.agentAccessSnapshots.get agentId = none := by
  cases held : next.agentAccessSnapshots.get agentId with
  | none => rfl
  | some snap =>
    rw [trimmed.snapshots agentId snap held] at gone
    cases gone

theorem Exact.reaches (exact : hub.Exact) (entitled : hub.Entitled) (target : Invalidation)
    {socketId agentId : String} {socket : GuardSocket}
    (found : (hub.invalidate target).1.sockets.get socketId = some socket)
    (about : target.matches socket.user agentId = true) :
    socket.agentAccessSnapshots.get agentId = none := by
  obtain ⟨earlier, before, same⟩ := (hub.trimmed_invalidate target).before socketId socket found
  cases held : earlier.agentAccessSnapshots.get agentId with
  | none => exact none_of_trimmed same held
  | some snap =>
    obtain ⟨before', keyed⟩ := entitled socketId earlier agentId snap before held
    have connected : socket.connected = true := by rw [same.connected, before']
    have indexed : socketId ∈ hub.socketIdsByAgentId.members agentId :=
      (exact.agent_of_get before agentId).mpr ⟨before', snap, held⟩
    have stays : ∀ socket next, TrimmedSocket socket next →
        socket.agentAccessSnapshots.get agentId = none →
          next.agentAccessSnapshots.get agentId = none := fun _ _ => none_of_trimmed
    cases target with
    | agent changed =>
      simp only [Invalidation.matches, decide_eq_true_eq] at about
      subst about
      exact (keepsExact_clear agentId).cleared _ (fun _ _ _ cleared => get_clear cleared) stays
        (fun _ _ _ => rfl) indexed found connected rfl
    | clientAgent clientId changed =>
      simp only [Invalidation.matches, Bool.and_eq_true, decide_eq_true_eq] at about
      obtain ⟨⟨rfl, isClient⟩, own⟩ := about
      refine (keepsExact_clear agentId).cleared _ (fun _ _ _ cleared => get_clear cleared) stays
        ?_ indexed found connected ?_
      · intro _ _ trimmed
        rw [trimmed.user]
      · rw [isClient, own]
        simp
    | user userId =>
      simp only [Invalidation.matches, Bool.and_eq_true, decide_eq_true_eq] at about
      obtain ⟨notClient, own⟩ := about
      rw [same.user] at notClient own
      have key : resolvePrincipalKeyFromUser earlier.user = some (.user userId) := by
        have named : ¬ isBlank earlier.user.sub = true := by
          intro blank
          rw [resolvePrincipalKeyFromUser, if_pos blank] at keyed
          cases keyed
        rw [resolvePrincipalKeyFromUser, if_neg named, if_neg notClient, own]
      have principal : socketId ∈ hub.socketIdsByPrincipalKey.members (.user userId) :=
        (exact.principal_of_get before _).mpr ⟨before', key, agentId, snap, held⟩
      exact (keepsExact_clearAll (.user userId)).cleared _
        (fun _ _ _ cleared => get_clearAll cleared) stays (fun _ _ _ => rfl) principal found
        connected rfl

end LocalSnapshots

open LocalSnapshots

/-! ## Steps -/

namespace SocketGuard

variable {ttlMs : Nat} {guard : SocketGuard}

/-- A validation is of a socket and its principal. -/
def Owned (hub : LocalSnapshots) (validations : List Validation) : Prop :=
  ∀ (number : Nat) (validation : Validation), validations[number]? = some validation →
    ∃ socket, hub.sockets.get validation.socketId = some socket ∧
      socket.user = validation.user ∧
      resolveConsumerAgentAccessPrincipal validation.user = some validation.principal

/-- What holds of the guard while validations go on in time. -/
structure Sound (guard : SocketGuard) : Prop where
  own : Owned guard.hub guard.validations
  entitled : guard.hub.Entitled
  past : ∀ entry ∈ guard.joins, entry.joinedAt < guard.clock
  came : ∀ entry ∈ guard.invalidations, entry.1 < guard.clock

/-- The promises from which the others follow. -/
structure Core (guard : SocketGuard) : Prop where
  indexes : guard.hub.Exact
  /-- No invalidation came between the repository read and the recording of a snapshot. -/
  fresh : ∀ (socketId agentId : String) (socket : GuardSocket) (snap : SocketAgentAccessSnapshot),
    guard.hub.sockets.get socketId = some socket →
      socket.agentAccessSnapshots.get agentId = some snap →
        ¬ guard.Overtaken socket.user agentId snap.readAt
  joined : ∀ entry ∈ guard.joins, ∀ invalidation ∈ guard.invalidations,
    invalidation.2.matches entry.user entry.agentId = true →
      invalidation.1 ≤ entry.readAt ∨ entry.joinedAt ≤ invalidation.1

variable {socketId agentId : String} {principal : AgentAccessPrincipal} {hub : LocalSnapshots}

theorem held_of_cached {socket : GuardSocket} {nowMs : Int}
    (cached : (guard.assertConsumerSocketAgentAccess ttlMs socketId socket agentId nowMs).1 =
      .cached principal) : ∃ snap, socket.agentAccessSnapshots.get agentId = some snap := by
  unfold assertConsumerSocketAgentAccess at cached
  cases resolved : resolveConsumerAgentAccessPrincipal socket.user with
  | none =>
    simp only [resolved, reduceCtorEq] at cached
  | some own =>
    simp only [resolved] at cached
    cases tried : tryGetCachedAgentAccess ttlMs socket agentId own nowMs with
    | none =>
      simp only [tried] at cached
      split at cached
      · cases cached
      · cases cached
    | some granted =>
      unfold tryGetCachedAgentAccess at tried
      split_ifs at tried
      split at tried
      · cases tried
      · rename_i snap found
        exact ⟨snap, found⟩

theorem Core.lawful (core : guard.Core) (sound : guard.Sound) : guard.Lawful ttlMs := by
  refine ⟨core.indexes, fun target socketId agentId socket found about => ?_, core.fresh, ?_,
    core.joined⟩
  · exact core.indexes.reaches sound.entitled target found about
  · intro socketId agentId socket nowMs principal found cached
    obtain ⟨snap, held⟩ := held_of_cached cached
    exact ⟨snap, held, core.fresh socketId agentId socket snap found held⟩

theorem Lawful.core (lawful : guard.Lawful ttlMs) : guard.Core :=
  ⟨lawful.indexes, lawful.fresh, lawful.joined⟩

/-! ### What is known of validations -/

variable {number : Nat} {validation : Validation}

theorem Owned.setPhase {validations : List Validation} (owned : Owned hub validations)
    (found : validations[number]? = some validation) (phase : ValidationPhase) :
    Owned hub (validations.set number { validation with phase }) := by
  intro other later present
  rw [List.getElem?_set] at present
  split_ifs at present with same
  · cases present
    exact owned number validation found
  · exact owned other later present

theorem Owned.of_kept {next : LocalSnapshots} {validations : List Validation}
    (owned : Owned hub validations)
    (kept : ∀ socketId socket, hub.sockets.get socketId = some socket →
      ∃ later, next.sockets.get socketId = some later ∧ later.user = socket.user) :
    Owned next validations := by
  intro number validation found
  obtain ⟨socket, present, user, resolved⟩ := owned number validation found
  obtain ⟨later, after, same⟩ := kept _ socket present
  exact ⟨later, after, same.trans user, resolved⟩

theorem kept_modify (socketId : String)
    (change : GuardSocket → GuardSocket) (user : ∀ socket, (change socket).user = socket.user) :
    ∀ other socket, hub.sockets.get other = some socket →
      ∃ later, (hub.sockets.modify socketId change).get other = some later ∧
        later.user = socket.user := by
  intro other socket found
  rw [get_modify]
  split_ifs with same
  · subst same
    rw [found]
    exact ⟨_, rfl, user socket⟩
  · exact ⟨socket, found, rfl⟩

theorem get_modify_cases {other : String} {change : GuardSocket → GuardSocket} {later : GuardSocket}
    (found : (hub.sockets.modify socketId change).get other = some later) :
    ∃ socket, hub.sockets.get other = some socket ∧
      (later = change socket ∧ other = socketId ∨ later = socket) := by
  rw [get_modify] at found
  split_ifs at found with same
  · subst same
    obtain ⟨socket, present, rfl⟩ := Option.map_eq_some_iff.mp found
    exact ⟨socket, present, .inl ⟨rfl, rfl⟩⟩
  · exact ⟨later, found, .inr rfl⟩

/-! ### Recording -/

theorem get_recorded {user : JwtAccessPayload} {nowMs : Int} {readAt : Nat} {other agent : String}
    {later : GuardSocket} {snap : SocketAgentAccessSnapshot}
    (found : (hub.recordAgentAccessSnapshot ttlMs user agentId principal socketId nowMs
      readAt).sockets.get other = some later)
    (held : later.agentAccessSnapshots.get agent = some snap) :
    ∃ socket, hub.sockets.get other = some socket ∧ later.user = socket.user ∧
      later.connected = socket.connected ∧
        (socket.agentAccessSnapshots.get agent = some snap ∨
          ttlMs ≠ 0 ∧ other = socketId ∧ agent = agentId ∧ snap.readAt = readAt) := by
  unfold recordAgentAccessSnapshot at found
  split_ifs at found with off
  · exact ⟨later, found, rfl, rfl, .inl held⟩
  · obtain ⟨socket, present, ⟨rfl, rfl⟩ | rfl⟩ := get_modify_cases found
    · refine ⟨socket, present, rfl, rfl, ?_⟩
      obtain ⟨rfl, rfl⟩ | ⟨-, before⟩ := get_set_cases held
      · exact .inr ⟨off, rfl, rfl, rfl⟩
      · exact .inl before
    · exact ⟨later, present, rfl, rfl, .inl held⟩

theorem kept_recorded {user : JwtAccessPayload} {nowMs : Int} {readAt : Nat} :
    ∀ other socket, hub.sockets.get other = some socket →
      ∃ later, (hub.recordAgentAccessSnapshot ttlMs user agentId principal socketId nowMs
        readAt).sockets.get other = some later ∧ later.user = socket.user := by
  unfold recordAgentAccessSnapshot
  split_ifs
  · exact fun _ socket found => ⟨socket, found, rfl⟩
  · exact kept_modify socketId _ fun _ => rfl

theorem entitled_finish (sound : guard.Sound)
    (found : guard.validations[number]? = some validation) (nowMs : Int)
    (timely : RecordsInTime ttlMs guard validation) :
    (guard.finishValidation ttlMs number validation nowMs).hub.Entitled := by
  obtain ⟨socket, present, user, resolved⟩ := sound.own number validation found
  unfold finishValidation setPhase
  dsimp only
  split_ifs with flying
  · intro other later agent snap after held
    obtain ⟨earlier, before, sameUser, connected, old | ⟨on, rfl, rfl, -⟩⟩ :=
      get_recorded after held
    · rw [sameUser, connected]
      exact sound.entitled other earlier agent snap before old
    · rw [present] at before
      cases before
      obtain ⟨alive, -⟩ := timely on flying
      obtain ⟨found, live⟩ := liveSocket_eq_some_iff.mp
        (Option.eq_some_of_isSome alive)
      rw [present] at found
      rw [connected, sameUser, user, key_of_principal resolved, Option.some.inj found, live]
      exact ⟨rfl, rfl⟩
  · exact sound.entitled

theorem owned_finish (owned : Owned guard.hub guard.validations)
    (found : guard.validations[number]? = some validation) (nowMs : Int) :
    Owned (guard.finishValidation ttlMs number validation nowMs).hub
      (guard.finishValidation ttlMs number validation nowMs).validations := by
  unfold finishValidation setPhase
  refine Owned.setPhase (Owned.of_kept owned ?_) found _
  split_ifs
  · exact kept_recorded
  · exact fun _ socket found => ⟨socket, found, rfl⟩

/-- A validation that ends keeps the promises exactly when it records in time. -/
theorem core_finish_iff (sound : guard.Sound) (core : guard.Core)
    (found : guard.validations[number]? = some validation) (nowMs : Int) :
    RecordsInTime ttlMs guard validation ↔
      (guard.finishValidation ttlMs number validation nowMs).Core := by
  obtain ⟨socket, present, user, resolved⟩ := sound.own number validation found
  by_cases writes : ttlMs ≠ 0 ∧ guard.inFlight.has validation.key = true
  · obtain ⟨on, flying⟩ := writes
    have hub : (guard.finishValidation ttlMs number validation nowMs).hub =
        guard.hub.recordAgentAccessSnapshot ttlMs validation.user validation.agentId
          validation.principal validation.socketId nowMs validation.readAt := by
      simp only [finishValidation, setPhase, flying, if_true]
    constructor
    · intro timely
      obtain ⟨alive, intime⟩ := timely on flying
      obtain ⟨own, live⟩ := liveSocket_eq_some_iff.mp
        (Option.eq_some_of_isSome alive)
      rw [present] at own
      have same : socket = (guard.hub.liveSocket validation.socketId).get alive :=
        Option.some.inj own
      refine ⟨?_, fun other agent later snap after held => ?_, core.joined⟩
      · rw [hub]
        refine core.indexes.record nowMs validation.readAt
          (liveSocket_eq_some_iff.mpr ⟨present, by rw [same, live]⟩) ?_
        rw [user]
        exact key_of_principal resolved
      · rw [hub] at after
        obtain ⟨earlier, before, sameUser, -, old | ⟨-, rfl, rfl, read⟩⟩ := get_recorded after held
        · rw [sameUser]
          exact core.fresh other agent earlier snap before old
        · rw [present] at before
          cases before
          rw [sameUser, user, read]
          exact intime
    · intro after _ _
      have set : (guard.finishValidation ttlMs number validation nowMs).hub.sockets.get
          validation.socketId = some { socket with
            agentAccessSnapshots := socket.agentAccessSnapshots.set validation.agentId
              (buildAgentAccessSnapshot validation.user validation.agentId validation.principal
                nowMs validation.readAt) } := by
        rw [hub, recordAgentAccessSnapshot, if_neg on]
        simp only [get_modify, if_true, present, Option.map_some]
      have indexed : validation.socketId ∈ (guard.finishValidation ttlMs number validation
          nowMs).hub.socketIdsByAgentId.members validation.agentId := by
        rw [hub, recordAgentAccessSnapshot, if_neg on]
        rw [Index.mem_addToIndex]
        exact .inr ⟨rfl, rfl⟩
      obtain ⟨connected, -⟩ := (after.indexes.agent_of_get set validation.agentId).mp indexed
      constructor
      · rw [liveSocket_eq_some_iff.mpr ⟨present, connected⟩]
        rfl
      · rw [← user]
        exact after.fresh _ validation.agentId _ _ set (get_set_self _ _ _)
  · have idle : RecordsInTime ttlMs guard validation :=
      fun on flying => absurd ⟨on, flying⟩ writes
    have hub : (guard.finishValidation ttlMs number validation nowMs).hub = guard.hub := by
      simp only [finishValidation, setPhase, recordAgentAccessSnapshot]
      split_ifs with flying off
      · rfl
      · exact absurd ⟨off, flying⟩ writes
      · rfl
    refine iff_of_true idle ⟨?_, ?_, core.joined⟩
    · rw [hub]
      exact core.indexes
    · rw [hub]
      exact core.fresh

/-! ### Joining rooms -/

theorem core_joined_iff (sound : guard.Sound) (core : guard.Core)
    (found : guard.validations[number]? = some validation) (rooms : List Room) :
    ¬ guard.Overtaken validation.user validation.agentId validation.readAt ↔
      (guard.onJoined number validation rooms).Core := by
  obtain ⟨socket, present, -, -⟩ := sound.own number validation found
  constructor
  · intro intime
    refine ⟨core.indexes.of_same present (modify_of_present _ _ present) rfl rfl rfl rfl rfl,
      fun other agent later snap after held => ?_, forall_mem_concat core.joined ?_⟩
    · obtain ⟨earlier, before, ⟨rfl, -⟩ | rfl⟩ := get_modify_cases after
      · exact core.fresh other agent earlier snap before held
      · exact core.fresh other agent later snap before held
    · intro invalidation came about
      exact .inl (Nat.le_of_not_lt fun later => intime ⟨invalidation, came, later, about⟩)
  · rintro after ⟨invalidation, came, later, about⟩
    have last : (⟨validation.user, validation.agentId, validation.readAt, guard.clock⟩ : RoomJoin) ∈
        (guard.onJoined number validation rooms).joins :=
      List.mem_append_right _ (List.mem_singleton_self _)
    obtain before | after := after.joined _ last invalidation came about
    · exact absurd later (Nat.not_lt.mpr before)
    · exact absurd (sound.came invalidation came) (Nat.not_lt.mpr after)

/-! ### What a step does -/

/-- What a step can do, and whether what went on did so in time. -/
inductive Performs (ttlMs : Nat) (guard : SocketGuard) : GuardAction → SocketGuard → Prop where
  | idle {action : GuardAction} (timely : InTime ttlMs guard action) :
      Performs ttlMs guard action guard
  | connected {socketId : String} {user : JwtAccessPayload}
      (absent : guard.hub.sockets.get socketId = none) :
      Performs ttlMs guard (.connect socketId user)
        { guard with hub := { guard.hub with sockets := guard.hub.sockets.set socketId { user } } }
  | began {socketId agentId : String} {nowMs : Int} {socket : GuardSocket}
      {principal : AgentAccessPrincipal} (found : guard.hub.sockets.get socketId = some socket)
      (resolved : resolveConsumerAgentAccessPrincipal socket.user = some principal)
      (free : guard.inFlight.get (socketId, agentId) = none) :
      Performs ttlMs guard (.guard socketId agentId nowMs)
        { guard with
          inFlight := guard.inFlight.set (socketId, agentId) guard.validations.length
          inflightKeysBySocketId :=
            guard.inflightKeysBySocketId.addToIndex socketId (socketId, agentId)
          validations := guard.validations ++
            [⟨socketId, agentId, socket.user, principal, guard.clock, .reading⟩] }
  | moved {action : GuardAction} {number : Nat} {validation : Validation} {phase : ValidationPhase}
      (found : guard.validations[number]? = some validation)
      (running : validation.phase.isSettled = false) (still : phase.isSettled = false)
      (timely : InTime ttlMs guard action) :
      Performs ttlMs guard action (guard.setPhase number validation phase)
  | finished {action : GuardAction} {number : Nat} {validation : Validation} {nowMs : Int}
      (found : guard.validations[number]? = some validation)
      (running : validation.phase.isSettled = false)
      (timely : InTime ttlMs guard action ↔ RecordsInTime ttlMs guard validation) :
      Performs ttlMs guard action (guard.finishValidation ttlMs number validation nowMs)
  | joined {action : GuardAction} {number : Nat} {validation : Validation} {rooms : List Room}
      (found : guard.validations[number]? = some validation)
      (running : validation.phase.isSettled = false)
      (timely : InTime ttlMs guard action ↔
        ¬ guard.Overtaken validation.user validation.agentId validation.readAt) :
      Performs ttlMs guard action (guard.onJoined number validation rooms)
  | settled {number : Nat} {validation : Validation} {result : ValidationResult}
      (found : guard.validations[number]? = some validation)
      (running : validation.phase.isSettled = false) :
      Performs ttlMs guard (.settle number) (guard.onSettled number validation result)
  | invalidated (target : Invalidation) :
      Performs ttlMs guard (.invalidate target)
        { guard with
          hub := (guard.hub.invalidate target).1
          invalidations := guard.invalidations ++ [(guard.clock, target)] }
  | cleared {socketId agentId : String} :
      Performs ttlMs guard (.clear socketId agentId)
        { guard with hub := guard.hub.clearConsumerSocketAgentAccessSnapshot agentId socketId }
  | roomsSet {socketId : String} {rooms : List Room} :
      Performs ttlMs guard (.setRooms socketId rooms)
        { guard with
          hub := { guard.hub with
            sockets := guard.hub.sockets.modify socketId fun socket => { socket with rooms } } }
  | disconnected {socketId : String} {socket : GuardSocket}
      (live : guard.hub.liveSocket socketId = some socket) :
      Performs ttlMs guard (.disconnect socketId) (guard.onDisconnected socketId)

theorem performs_guard (ttlMs : Nat) (guard : SocketGuard) (socketId agentId : String)
    (nowMs : Int) : Performs ttlMs guard (.guard socketId agentId nowMs)
      (guard.perform ttlMs (.guard socketId agentId nowMs)) := by
  simp only [perform]
  cases found : guard.hub.sockets.get socketId with
  | none => exact .idle trivial
  | some socket =>
    simp only [assertConsumerSocketAgentAccess]
    cases resolved : resolveConsumerAgentAccessPrincipal socket.user with
    | none => exact .idle trivial
    | some principal =>
      dsimp only
      cases tryGetCachedAgentAccess ttlMs socket agentId principal nowMs with
      | some granted => exact .idle trivial
      | none =>
        dsimp only
        cases free : guard.inFlight.get (socketId, agentId) with
        | some number => exact .idle trivial
        | none => exact .began found resolved free

theorem only_validation (guard : SocketGuard)
    (found : guard.validations[number]? = some validation) :
    ∀ other ∈ guard.validations[number]?, other = validation := by
  intro other member
  rw [found] at member
  exact (Option.some.inj member).symm

theorem performs_read (ttlMs : Nat) (guard : SocketGuard) (number : Nat)
    (failure : Option (Option AppError)) (nowMs : Int) :
    Performs ttlMs guard (.read number failure nowMs)
      (guard.perform ttlMs (.read number failure nowMs)) := by
  simp only [perform]
  cases found : guard.validations[number]? with
  | none =>
    refine .idle fun validation member => ?_
    rw [found] at member
    cases member
  | some validation =>
    have only := guard.only_validation found
    dsimp only
    split
    · rename_i reading
      unfold onGranted
      split
      · rename_i id role user
        refine .finished found (by rw [reading]; rfl) ⟨fun timely => ?_, fun timely => ?_⟩
        · exact timely validation found ⟨id, role, user⟩ reading rfl
        · intro other member _ _ _
          rw [only other member]
          exact timely
      · rename_i clientId client
        have timely : InTime ttlMs guard (.read number none nowMs) := by
          rintro other member ⟨id, role, user⟩
          rw [only other member, client] at user
          cases user
        dsimp only
        split
        · exact .moved found (by rw [reading]; rfl) rfl timely
        · exact .moved found (by rw [reading]; rfl) rfl timely
    · rename_i reading
      exact .moved found (by rw [reading]; rfl) rfl fun _ _ _ _ refuted => by cases refuted
    · rename_i neither _
      refine .idle fun later member _ reading granted => ?_
      rw [only later member] at reading
      exact (neither reading granted).elim

theorem performs_join (ttlMs : Nat) (guard : SocketGuard) (number : Nat)
    (failure : Option (Option AppError)) :
    Performs ttlMs guard (.join number failure) (guard.perform ttlMs (.join number failure)) := by
  simp only [perform]
  cases found : guard.validations[number]? with
  | none =>
    refine .idle fun validation member => ?_
    rw [found] at member
    cases member
  | some validation =>
    have only := guard.only_validation found
    dsimp only
    split
    · rename_i rooms joining
      refine .joined found (by rw [joining]; rfl) ⟨fun timely => ?_, fun timely => ?_⟩
      · exact timely validation found rooms joining rfl
      · intro other member _ _ _
        rw [only other member]
        exact timely
    · rename_i rooms error joining
      exact .moved found (by rw [joining]; rfl) rfl fun _ _ _ _ refuted => by cases refuted
    · rename_i neither _
      refine .idle fun later member rooms joining joined => ?_
      rw [only later member] at joining
      exact (neither rooms joining joined).elim

theorem performs_resume (ttlMs : Nat) (guard : SocketGuard) (number : Nat) (nowMs : Int) :
    Performs ttlMs guard (.resume number nowMs) (guard.perform ttlMs (.resume number nowMs)) := by
  simp only [perform]
  cases found : guard.validations[number]? with
  | none =>
    refine .idle fun validation member => ?_
    rw [found] at member
    cases member
  | some validation =>
    have only := guard.only_validation found
    dsimp only
    split
    · rename_i joined
      refine .finished found (by rw [joined]; rfl) ⟨fun timely => ?_, fun timely => ?_⟩
      · exact timely validation found joined
      · intro other member _
        rw [only other member]
        exact timely
    · rename_i error failed
      refine .moved found (by rw [failed]; rfl) rfl fun later member joined => ?_
      rw [only later member, failed] at joined
      cases joined
    · rename_i neither _
      refine .idle fun later member joined => ?_
      rw [only later member] at joined
      exact (neither joined).elim

theorem performs (ttlMs : Nat) (guard : SocketGuard) (action : GuardAction) :
    Performs ttlMs guard action (guard.perform ttlMs action) := by
  cases action with
  | connect socketId user =>
    simp only [perform]
    split_ifs with present
    · exact .idle trivial
    · refine .connected ?_
      rwa [OrderedMap.has, Bool.not_eq_true, Option.isSome_eq_false_iff, Option.isNone_iff_eq_none]
        at present
  | guard socketId agentId nowMs => exact performs_guard ttlMs guard socketId agentId nowMs
  | read number failure nowMs => exact performs_read ttlMs guard number failure nowMs
  | join number failure => exact performs_join ttlMs guard number failure
  | resume number nowMs => exact performs_resume ttlMs guard number nowMs
  | settle number =>
    simp only [perform]
    cases found : guard.validations[number]? with
    | none => exact .idle trivial
    | some validation =>
      dsimp only
      split
      · rename_i result ended
        exact .settled found (by rw [ended]; rfl)
      · exact .idle trivial
  | invalidate target => exact .invalidated target
  | clear socketId agentId =>
    simp only [perform]
    split
    · exact .idle trivial
    · exact .cleared
  | setRooms socketId rooms => exact .roomsSet
  | disconnect socketId =>
    simp only [perform]
    split
    · exact .idle trivial
    · rename_i live
      exact .disconnected live

end SocketGuard

/-! ## What every step keeps -/

namespace SocketGuard

variable {ttlMs : Nat} {guard : SocketGuard}

theorem get_disconnected {socketId other : String} {later : GuardSocket}
    (found : (guard.onDisconnected socketId).hub.sockets.get other = some later) :
    ∃ socket, guard.hub.sockets.get other = some socket ∧ later.user = socket.user ∧
      (∀ agentId snap, later.agentAccessSnapshots.get agentId = some snap →
        socket.agentAccessSnapshots.get agentId = some snap) ∧
      (other = socketId ∧ (∀ agentId, later.agentAccessSnapshots.get agentId = none) ∨
        other ≠ socketId ∧ later.connected = socket.connected) := by
  obtain ⟨middle, between, trimmed⟩ := (Trimmed.clearAll socketId).before other later found
  obtain ⟨socket, before, ⟨rfl, rfl⟩ | rfl⟩ := get_modify_cases between
  · exact ⟨socket, before, trimmed.user, trimmed.snapshots,
      .inl ⟨rfl, fun _ => get_clearAll found⟩⟩
  · refine ⟨middle, before, trimmed.user, trimmed.snapshots, ?_⟩
    by_cases same : other = socketId
    · subst same
      exact .inl ⟨rfl, fun _ => get_clearAll found⟩
    · exact .inr ⟨same, trimmed.connected⟩

theorem kept_disconnected (socketId : String) : ∀ other socket,
    guard.hub.sockets.get other = some socket →
      ∃ later, (guard.onDisconnected socketId).hub.sockets.get other = some later ∧
        later.user = socket.user := by
  intro other socket found
  let left : LocalSnapshots := { guard.hub with
    sockets := guard.hub.sockets.modify socketId fun socket =>
      { socket with connected := false, rooms := [] } }
  have trimmed : Trimmed left (guard.onDisconnected socketId).hub := .clearAll socketId
  obtain ⟨middle, between, user⟩ := kept_modify socketId
    (fun socket => { socket with connected := false, rooms := [] }) (fun _ => rfl) other socket
    found
  obtain ⟨later, after, same⟩ := trimmed.after other middle between
  exact ⟨later, after, same.user.trans user⟩

/-- Validations stay those of their sockets. -/
theorem owned_step (owned : Owned guard.hub guard.validations) (action : GuardAction) :
    Owned (guard.step ttlMs action).hub (guard.step ttlMs action).validations := by
  have what := performs ttlMs guard action
  unfold step
  generalize guard.perform ttlMs action = next at what
  cases what with
  | idle timely => exact owned
  | connected absent =>
    refine Owned.of_kept owned fun other socket found => ⟨socket, ?_, rfl⟩
    rw [get_set_of_ne]
    · exact found
    · rintro rfl
      rw [absent] at found
      cases found
  | began found resolved free =>
    intro number validation present
    rw [List.getElem?_append] at present
    split_ifs at present with old
    · exact owned number validation present
    · rw [List.getElem?_singleton] at present
      split_ifs at present
      cases present
      exact ⟨_, found, rfl, resolved⟩
  | moved found running still timely => exact Owned.setPhase owned found _
  | finished found running timely => exact owned_finish owned found _
  | joined found running timely =>
    refine Owned.setPhase (Owned.of_kept owned ?_) found _
    exact kept_modify _ _ fun _ => rfl
  | settled found running => exact Owned.setPhase owned found _
  | invalidated target =>
    refine Owned.of_kept owned fun other socket found => ?_
    obtain ⟨later, after, trimmed⟩ := (guard.hub.trimmed_invalidate target).after other socket found
    exact ⟨later, after, trimmed.user⟩
  | cleared =>
    refine Owned.of_kept owned fun other socket found => ?_
    obtain ⟨later, after, trimmed⟩ := (Trimmed.clear _ _).after other socket found
    exact ⟨later, after, trimmed.user⟩
  | roomsSet => exact Owned.of_kept owned (kept_modify _ _ fun _ => rfl)
  | disconnected live => exact Owned.of_kept owned (kept_disconnected _)

/-- And snapshots those of grants that were read. -/
theorem entitled_step (sound : guard.Sound) {action : GuardAction}
    (timely : InTime ttlMs guard action) : (guard.step ttlMs action).hub.Entitled := by
  have what := performs ttlMs guard action
  unfold step
  generalize guard.perform ttlMs action = next at what
  have changed : ∀ {socketId : String} (change : GuardSocket → GuardSocket),
      (∀ socket, (change socket).user = socket.user ∧ (change socket).connected = socket.connected ∧
        (change socket).agentAccessSnapshots = socket.agentAccessSnapshots) →
      ({ guard.hub with sockets := guard.hub.sockets.modify socketId change } :
        LocalSnapshots).Entitled := by
    intro socketId change same other later agentId snap found held
    obtain ⟨socket, before, ⟨rfl, -⟩ | rfl⟩ := get_modify_cases found
    · obtain ⟨user, connected, snapshots⟩ := same socket
      rw [user, connected]
      exact sound.entitled other socket agentId snap before (by rwa [snapshots] at held)
    · exact sound.entitled other later agentId snap before held
  cases what with
  | idle timely => exact sound.entitled
  | connected absent =>
    intro other later agentId snap found held
    obtain ⟨rfl, rfl⟩ | ⟨-, before⟩ := get_set_cases found
    · cases held
    · exact sound.entitled other later agentId snap before held
  | began found resolved free | moved found running still timely => exact sound.entitled
  | finished found running decides => exact entitled_finish sound found _ (decides.mp timely)
  | joined found running decides => exact changed _ fun _ => ⟨rfl, rfl, rfl⟩
  | settled found running => exact sound.entitled
  | invalidated target => exact sound.entitled.of_trimmed (guard.hub.trimmed_invalidate target)
  | cleared => exact sound.entitled.of_trimmed (.clear _ _)
  | roomsSet => exact changed _ fun _ => ⟨rfl, rfl, rfl⟩
  | disconnected live =>
    intro other later agentId snap found held
    obtain ⟨socket, before, user, snapshots, ⟨-, none⟩ | ⟨-, connected⟩⟩ := get_disconnected found
    · rw [none agentId] at held
      cases held
    · rw [user, connected]
      exact sound.entitled other socket agentId snap before (snapshots agentId snap held)

/-- A timely action keeps the guard sound. -/
theorem Sound.step (sound : guard.Sound) {action : GuardAction}
    (timely : InTime ttlMs guard action) : (guard.step ttlMs action).Sound := by
  refine ⟨owned_step sound.own action, entitled_step sound timely, ?_, ?_⟩
  · have what := performs ttlMs guard action
    unfold SocketGuard.step
    generalize guard.perform ttlMs action = next at what
    have later : ∀ entry ∈ guard.joins, entry.joinedAt < guard.clock + 1 :=
      fun entry member => Nat.lt_succ_of_lt (sound.past entry member)
    cases what with
    | joined found running decides =>
      exact forall_mem_concat later (Nat.lt_succ_self _)
    | _ => exact later
  · have what := performs ttlMs guard action
    unfold SocketGuard.step
    generalize guard.perform ttlMs action = next at what
    have later : ∀ entry ∈ guard.invalidations, entry.1 < guard.clock + 1 :=
      fun entry member => Nat.lt_succ_of_lt (sound.came entry member)
    cases what with
    | invalidated target =>
      exact forall_mem_concat later (Nat.lt_succ_self _)
    | _ => exact later

theorem Core.of_hub (core : guard.Core) {next : SocketGuard} (indexes : next.hub.Exact)
    (snapshots : ∀ socketId socket agentId snap, next.hub.sockets.get socketId = some socket →
      socket.agentAccessSnapshots.get agentId = some snap → ∃ earlier,
        guard.hub.sockets.get socketId = some earlier ∧ socket.user = earlier.user ∧
          earlier.agentAccessSnapshots.get agentId = some snap)
    (invalidations : next.invalidations = guard.invalidations)
    (joins : next.joins = guard.joins) : next.Core := by
  refine ⟨indexes, fun socketId agentId socket snap found held => ?_, ?_⟩
  · obtain ⟨earlier, before, user, had⟩ := snapshots socketId socket agentId snap found held
    rw [user, Overtaken, invalidations]
    exact core.fresh socketId agentId earlier snap before had
  · rw [joins, invalidations]
    exact core.joined

/-- A step keeps the promises exactly when what goes on does so in time. -/
theorem core_step_iff (sound : guard.Sound) (core : guard.Core) (action : GuardAction) :
    InTime ttlMs guard action ↔ (guard.step ttlMs action).Core := by
  have what := performs ttlMs guard action
  unfold step
  generalize guard.perform ttlMs action = next at what
  cases what with
  | idle timely => exact iff_of_true timely ⟨core.indexes, core.fresh, core.joined⟩
  | connected absent =>
    refine iff_of_true trivial (core.of_hub (core.indexes.connect absent _) ?_ rfl rfl)
    intro other later agentId snap found held
    obtain ⟨rfl, rfl⟩ | ⟨-, before⟩ := get_set_cases found
    · cases held
    · exact ⟨later, before, rfl, held⟩
  | began found resolved free =>
    exact iff_of_true trivial ⟨core.indexes, core.fresh, core.joined⟩
  | moved found running still timely =>
    exact iff_of_true timely ⟨core.indexes, core.fresh, core.joined⟩
  | finished found running decides =>
    rw [decides, core_finish_iff sound core found]
    exact ⟨fun core => ⟨core.indexes, core.fresh, core.joined⟩,
      fun core => ⟨core.indexes, core.fresh, core.joined⟩⟩
  | joined found running decides =>
    rw [decides, core_joined_iff sound core found]
    exact ⟨fun core => ⟨core.indexes, core.fresh, core.joined⟩,
      fun core => ⟨core.indexes, core.fresh, core.joined⟩⟩
  | settled found running => exact iff_of_true trivial ⟨core.indexes, core.fresh, core.joined⟩
  | invalidated target =>
    have trimmed := guard.hub.trimmed_invalidate target
    refine iff_of_true trivial ⟨core.indexes.invalidate target, ?_, ?_⟩
    · rintro socketId agentId socket snap found held ⟨invalidation, came, later, about⟩
      obtain ⟨earlier, before, same⟩ := trimmed.before socketId socket found
      obtain old | new := List.mem_append.mp came
      · rw [same.user] at about
        exact core.fresh socketId agentId earlier snap before (same.snapshots agentId snap held)
          ⟨invalidation, old, later, about⟩
      · rw [List.mem_singleton.mp new] at about
        have gone := core.indexes.reaches sound.entitled target found about
        rw [gone] at held
        cases held
    · intro entry member
      exact forall_mem_concat (core.joined entry member)
        fun _ => .inr (Nat.le_of_lt (sound.past entry member))
  | cleared =>
    refine iff_of_true trivial (core.of_hub (core.indexes.clear _ _) ?_ rfl rfl)
    intro other later agentId snap found held
    obtain ⟨earlier, before, same⟩ := (Trimmed.clear _ _).before other later found
    exact ⟨earlier, before, same.user, same.snapshots agentId snap held⟩
  | @roomsSet socketId rooms =>
    refine iff_of_true trivial (core.of_hub ?_ ?_ rfl rfl)
    · cases present : guard.hub.sockets.get socketId with
      | none =>
        have same : guard.hub.sockets.modify socketId (fun socket => { socket with rooms }) =
            guard.hub.sockets := by
          rw [OrderedMap.modify, present]
        dsimp only
        rw [same]
        exact core.indexes
      | some socket =>
        exact core.indexes.of_same present (modify_of_present _ _ present) rfl rfl rfl
          rfl rfl
    · intro other later agentId snap found held
      obtain ⟨socket, before, ⟨rfl, -⟩ | rfl⟩ := get_modify_cases found
      · exact ⟨socket, before, rfl, held⟩
      · exact ⟨later, before, rfl, held⟩
  | disconnected live =>
    obtain ⟨found, -⟩ := liveSocket_eq_some_iff.mp live
    refine iff_of_true trivial (core.of_hub ?_ ?_ rfl rfl)
    · exact core.indexes.clearAll_of found (modify_of_present _ _ found) rfl rfl rfl rfl
    · intro other later agentId snap found held
      obtain ⟨socket, before, user, snapshots, -⟩ := get_disconnected found
      exact ⟨socket, before, user, snapshots agentId snap held⟩

end SocketGuard

/-! ## Validations in flight -/

/-- The same sockets are connected. -/
def SameLives (hub next : LocalSnapshots) : Prop :=
  ∀ socketId, (next.liveSocket socketId).isSome = (hub.liveSocket socketId).isSome

theorem sameLives_modify {hub next : LocalSnapshots} {socketId : String}
    (change : GuardSocket → GuardSocket)
    (sockets : next.sockets = hub.sockets.modify socketId change)
    (connected : ∀ socket, (change socket).connected = socket.connected) : SameLives hub next := by
  intro other
  rw [liveSocket, sockets, get_modify, liveSocket]
  split_ifs with same
  · subst same
    cases hub.sockets.get other with
    | none => rfl
    | some socket =>
      simp only [Option.map_some, Option.filter, connected]
      split_ifs
      · rfl
      · rfl
  · rfl

theorem Trimmed.sameLives {hub next : LocalSnapshots} (trimmed : Trimmed hub next) :
    SameLives hub next := by
  intro socketId
  rw [Bool.eq_iff_iff, Option.isSome_iff_exists, Option.isSome_iff_exists]
  simp only [liveSocket_eq_some_iff]
  constructor
  · rintro ⟨socket, found, connected⟩
    obtain ⟨earlier, before, same⟩ := trimmed.before socketId socket found
    exact ⟨earlier, before, by rw [← same.connected, connected]⟩
  · rintro ⟨socket, found, connected⟩
    obtain ⟨later, after, same⟩ := trimmed.after socketId socket found
    exact ⟨later, after, by rw [same.connected, connected]⟩

namespace SocketGuard

variable {ttlMs : Nat} {guard : SocketGuard}

/-- The maps of validations in flight fit the validations. -/
structure Tracked (guard : SocketGuard) : Prop where
  /-- What is in flight is a validation of a connected socket, under its key. -/
  flying : ∀ (key : String × String) (number : Nat), guard.inFlight.get key = some number →
    key ∈ guard.inflightKeysBySocketId.members key.1 ∧
      (guard.hub.liveSocket key.1).isSome = true ∧
        ∃ validation, guard.validations[number]? = some validation ∧ validation.key = key ∧
          validation.phase.isSettled = false
  /-- A validation of a connected socket is in flight until it is settled. -/
  running : ∀ (number : Nat) (validation : Validation),
    guard.validations[number]? = some validation → validation.phase.isSettled = false →
      (guard.hub.liveSocket validation.socketId).isSome = true →
        guard.inFlight.get validation.key = some number
  filed : ∀ (socketId : String) (key : String × String),
    key ∈ guard.inflightKeysBySocketId.members socketId → key.1 = socketId

theorem Tracked.setPhase (tracked : guard.Tracked) {number : Nat} {validation : Validation}
    {phase : ValidationPhase} (found : guard.validations[number]? = some validation)
    (running : validation.phase.isSettled = false) (still : phase.isSettled = false) :
    (guard.setPhase number validation phase).Tracked := by
  have changed : (guard.validations.set number { validation with phase })[number]? =
      some { validation with phase } := by
    rw [List.getElem?_set_self' , found]
    rfl
  refine ⟨fun key other flying => ?_, fun other later present unsettled live => ?_, tracked.filed⟩
  · obtain ⟨filed, live, earlier, before, own, unsettled⟩ := tracked.flying key other flying
    refine ⟨filed, live, ?_⟩
    by_cases same : number = other
    · subst same
      rw [found] at before
      cases before
      exact ⟨_, changed, own, still⟩
    · exact ⟨earlier, by rw [SocketGuard.setPhase, List.getElem?_set_ne same, before], own,
        unsettled⟩
  · by_cases same : number = other
    · subst same
      have shape : later = { validation with phase } := Option.some.inj (present.symm.trans changed)
      subst shape
      exact tracked.running number validation found running live
    · rw [SocketGuard.setPhase, List.getElem?_set_ne same] at present
      exact tracked.running other later present unsettled live

theorem Tracked.of_lives (tracked : guard.Tracked) {next : SocketGuard}
    (lives : SameLives guard.hub next.hub) (inFlight : next.inFlight = guard.inFlight)
    (keys : next.inflightKeysBySocketId = guard.inflightKeysBySocketId)
    (validations : next.validations = guard.validations) : next.Tracked := by
  constructor
  · intro key number flying
    rw [inFlight] at flying
    rw [keys, validations, lives]
    exact tracked.flying key number flying
  · intro number validation found unsettled live
    rw [validations] at found
    rw [lives] at live
    rw [inFlight]
    exact tracked.running number validation found unsettled live
  · rw [keys]
    exact tracked.filed

/-- A promise that is settled is forgotten, and no other. -/
theorem Tracked.settled (tracked : guard.Tracked) {number : Nat} {validation : Validation}
    (found : guard.validations[number]? = some validation)
    (running : validation.phase.isSettled = false) (result : ValidationResult) :
    (guard.onSettled number validation result).Tracked := by
  have others : ∀ (key : String × String) (other : Nat),
      (guard.onSettled number validation result).inFlight.get key = some other →
        guard.inFlight.get key = some other ∧ key ≠ validation.key := by
    intro key other flying
    simp only [onSettled, SocketGuard.setPhase] at flying
    split_ifs at flying with own
    · rw [get_erase] at flying
      split_ifs at flying with same
      exact ⟨flying, same⟩
    · refine ⟨flying, ?_⟩
      -- another validation in flight under the key would be one of a connected socket
      rintro rfl
      obtain ⟨-, live, -⟩ := tracked.flying validation.key other flying
      exact own (tracked.running number validation found running live)
  refine ⟨fun key other flying => ?_, fun other later present unsettled live => ?_,
    fun socketId key filed => ?_⟩
  · obtain ⟨before, differs⟩ := others key other flying
    obtain ⟨filed, live, earlier, present, own, unsettled⟩ := tracked.flying key other before
    refine ⟨?_, live, earlier, ?_, own, unsettled⟩
    · simp only [onSettled, SocketGuard.setPhase, Index.mem_removeFromIndex]
      exact ⟨filed, fun refuted => differs refuted.2⟩
    · have apart : number ≠ other := by
        rintro rfl
        rw [found] at present
        cases present
        exact differs own.symm
      simp only [onSettled, SocketGuard.setPhase]
      rw [List.getElem?_set_ne apart, present]
  · simp only [onSettled, SocketGuard.setPhase] at present ⊢
    by_cases same : number = other
    · subst same
      rw [List.getElem?_set_self', found] at present
      cases present
      cases unsettled
    · rw [List.getElem?_set_ne same] at present
      have flying := tracked.running other later present unsettled live
      have differs : later.key ≠ validation.key := by
        intro shared
        have live' : (guard.hub.liveSocket validation.socketId).isSome = true := by
          rw [← show later.socketId = validation.socketId from congrArg Prod.fst shared]
          exact live
        have mine := tracked.running number validation found running live'
        rw [shared, mine] at flying
        exact same (Option.some.inj flying)
      split_ifs
      · rw [OrderedMap.get_erase_of_ne _ differs, flying]
      · exact flying
  · simp only [onSettled, SocketGuard.setPhase, Index.mem_removeFromIndex] at filed
    exact tracked.filed socketId key filed.1

theorem Tracked.began (tracked : guard.Tracked) {socketId agentId : String} {socket : GuardSocket}
    (live : (guard.hub.liveSocket socketId).isSome = true)
    (free : guard.inFlight.get (socketId, agentId) = none) (principal : AgentAccessPrincipal) :
    ({ guard with
      inFlight := guard.inFlight.set (socketId, agentId) guard.validations.length
      inflightKeysBySocketId :=
        guard.inflightKeysBySocketId.addToIndex socketId (socketId, agentId)
      validations := guard.validations ++
        [⟨socketId, agentId, socket.user, principal, guard.clock, .reading⟩] } :
      SocketGuard).Tracked := by
  refine ⟨fun key number flying => ?_, fun number validation found unsettled alive => ?_,
    fun other key filed => ?_⟩
  · simp only [Index.mem_addToIndex]
    obtain ⟨rfl, rfl⟩ | ⟨-, before⟩ := get_set_cases flying
    · exact ⟨.inr ⟨rfl, rfl⟩, live, _, List.getElem?_concat_length, rfl, rfl⟩
    · obtain ⟨filed, alive, earlier, present, own, unsettled⟩ := tracked.flying key number before
      refine ⟨.inl filed, alive, earlier, ?_, own, unsettled⟩
      rw [List.getElem?_append_left (List.getElem?_eq_some_iff.mp present).1, present]
  · dsimp only at found alive ⊢
    rw [List.getElem?_append] at found
    split_ifs at found with old
    · have flying := tracked.running number validation found unsettled alive
      rw [get_set_of_ne, flying]
      intro same
      rw [same, free] at flying
      cases flying
    · rw [List.getElem?_singleton] at found
      split_ifs at found with last
      cases found
      rw [show number = guard.validations.length by omega]
      exact get_set_self _ _ _
  · rw [Index.mem_addToIndex] at filed
    obtain filed | ⟨rfl, rfl⟩ := filed
    · exact tracked.filed other key filed
    · rfl

theorem live_disconnected {socketId other : String} :
    ((guard.onDisconnected socketId).hub.liveSocket other).isSome = true ↔
      other ≠ socketId ∧ (guard.hub.liveSocket other).isSome = true := by
  have trimmed : SameLives { guard.hub with
      sockets := guard.hub.sockets.modify socketId fun socket =>
        { socket with connected := false, rooms := [] } } (guard.onDisconnected socketId).hub :=
    (Trimmed.clearAll socketId).sameLives
  rw [trimmed, liveSocket, get_modify]
  split_ifs with same
  · subst same
    refine iff_of_false ?_ (fun refuted => refuted.1 rfl)
    cases guard.hub.sockets.get other with
    | none => simp
    | some socket => simp [Option.filter]
  · exact (and_iff_right same).symm

theorem Tracked.disconnected (tracked : guard.Tracked) (socketId : String) :
    (guard.onDisconnected socketId).Tracked := by
  have inFlight : (guard.onDisconnected socketId).inFlight =
      (guard.inflightKeysBySocketId.members socketId).foldl (·.erase ·) guard.inFlight := rfl
  have keys : (guard.onDisconnected socketId).inflightKeysBySocketId =
      guard.inflightKeysBySocketId.erase socketId := rfl
  have members : ∀ other, Index.members (guard.inflightKeysBySocketId.erase socketId) other =
        if other = socketId then [] else guard.inflightKeysBySocketId.members other := by
    intro other
    rw [Index.members, get_erase]
    split_ifs
    · rfl
    · rfl
  refine ⟨fun key number flying => ?_, fun number validation found unsettled alive => ?_,
    fun other key filed => ?_⟩
  · rw [inFlight, OrderedMap.get_foldl_erase] at flying
    split_ifs at flying with gone
    obtain ⟨filed, alive, rest⟩ := tracked.flying key number flying
    have apart : key.1 ≠ socketId := by
      rintro rfl
      exact gone filed
    refine ⟨?_, live_disconnected.mpr ⟨apart, alive⟩, rest⟩
    rw [keys, members, if_neg apart]
    exact filed
  · obtain ⟨apart, live⟩ := live_disconnected.mp alive
    rw [inFlight, OrderedMap.get_foldl_erase, if_neg]
    · exact tracked.running number validation found unsettled live
    · intro filed
      exact apart (tracked.filed socketId validation.key filed)
  · rw [keys, members] at filed
    split_ifs at filed
    · cases filed
    · exact tracked.filed other key filed

/-- Validations stay tracked while guards go on with their sockets connected. -/
theorem Tracked.step (tracked : guard.Tracked) (sound : Owned guard.hub guard.validations)
    {action : GuardAction} (connected : BeginsConnected guard action) :
    (guard.step ttlMs action).Tracked := by
  have what := performs ttlMs guard action
  unfold SocketGuard.step
  generalize guard.perform ttlMs action = next at what
  have ticked : ∀ {next : SocketGuard}, next.Tracked →
      ({ next with clock := guard.clock + 1 } : SocketGuard).Tracked :=
    fun tracked => tracked.of_lives (fun _ => rfl) rfl rfl rfl
  cases what with
  | idle timely => exact ticked tracked
  | @connected socketId user absent =>
    have apart : ∀ other, (guard.hub.sockets.get other).isSome = true → other ≠ socketId := by
      rintro other present rfl
      rw [absent] at present
      cases present
    have live : ∀ other, other ≠ socketId →
        ((LocalSnapshots.mk (guard.hub.sockets.set socketId { user })
          guard.hub.socketIdsByAgentId guard.hub.socketIdsByPrincipalKey).liveSocket other).isSome =
          (guard.hub.liveSocket other).isSome := by
      intro other differs
      rw [liveSocket_set rfl, if_neg differs]
    refine ticked ⟨fun key number flying => ?_, fun number validation found unsettled alive => ?_,
      tracked.filed⟩
    · obtain ⟨filed, alive, rest⟩ := tracked.flying key number flying
      obtain ⟨socket, present⟩ := Option.isSome_iff_exists.mp alive
      have known := (liveSocket_eq_some_iff.mp present).1
      exact ⟨filed, (live _ (apart _ (by rw [known]; rfl))).trans alive, rest⟩
    · obtain ⟨socket, present, -⟩ := sound number validation found
      rw [live _ (apart _ (by rw [present]; rfl))] at alive
      exact tracked.running number validation found unsettled alive
  | began found resolved free => exact ticked (tracked.began connected free _)
  | moved found running still timely => exact ticked (tracked.setPhase found running still)
  | @finished _ number validation nowMs found running timely =>
    have lives : SameLives guard.hub
        (guard.finishValidation ttlMs number validation nowMs).hub := by
      simp only [finishValidation, SocketGuard.setPhase]
      split_ifs
      · unfold recordAgentAccessSnapshot
        split_ifs
        · exact fun _ => rfl
        · exact sameLives_modify _ rfl fun _ => rfl
      · exact fun _ => rfl
    exact ticked ((tracked.setPhase found running rfl).of_lives lives rfl rfl rfl)
  | @joined _ number validation rooms found running timely =>
    have lives : SameLives guard.hub (guard.onJoined number validation rooms).hub :=
      sameLives_modify _ rfl fun _ => rfl
    exact ticked ((tracked.setPhase found running rfl).of_lives lives rfl rfl rfl)
  | settled found running => exact ticked (tracked.settled found running _)
  | invalidated target =>
    exact tracked.of_lives (guard.hub.trimmed_invalidate target).sameLives rfl rfl rfl
  | cleared => exact tracked.of_lives (Trimmed.clear _ _).sameLives rfl rfl rfl
  | roomsSet => exact tracked.of_lives (sameLives_modify _ rfl fun _ => rfl) rfl rfl rfl
  | disconnected live => exact ticked (tracked.disconnected _)

end SocketGuard

/-! ## Runs -/

/-- The runs in which what goes on does so in time are those in which the promises are kept in every
state. While guards go on with their sockets connected, nothing of a disconnected socket is in
flight. -/
theorem snapshots_lawful_iff_in_time (ttlMs : Nat) (actions : List GuardAction) :
    (Meets (SocketGuard.step ttlMs) (InTime ttlMs) {} actions ↔
      ∀ taken, taken <+: actions → (run (SocketGuard.step ttlMs) {} taken).Lawful ttlMs) ∧
    (Meets (SocketGuard.step ttlMs) BeginsConnected {} actions →
      ∀ taken, taken <+: actions → ∀ key number,
        (run (SocketGuard.step ttlMs) {} taken).inFlight.get key = some number →
          ((run (SocketGuard.step ttlMs) {} taken).hub.liveSocket key.1).isSome = true) := by
  have initially : ({} : SocketGuard).Sound := by
    refine ⟨fun number validation found => ?_, fun _ _ _ _ found => ?_, fun _ member => ?_,
      fun _ member => ?_⟩
    · cases found
    · cases found
    · cases member
    · cases member
  constructor
  · have keeps : ∀ (guard : SocketGuard) (action : GuardAction), guard.Sound →
        guard.Lawful ttlMs → InTime ttlMs guard action → (guard.step ttlMs action).Sound :=
      fun _ _ sound _ timely => sound.step timely
    have decides : ∀ (guard : SocketGuard) (action : GuardAction), guard.Sound →
        guard.Lawful ttlMs →
          (InTime ttlMs guard action ↔ (guard.step ttlMs action).Lawful ttlMs) := by
      intro guard action sound lawful
      rw [SocketGuard.core_step_iff sound lawful.core action]
      constructor
      · intro core
        have timely := (SocketGuard.core_step_iff sound lawful.core action).mpr core
        exact core.lawful (sound.step timely)
      · exact SocketGuard.Lawful.core
    have fine : ({} : SocketGuard).Lawful ttlMs := by
      refine SocketGuard.Core.lawful ?_ initially
      refine ⟨⟨fun agentId socketId => ?_, fun key socketId => ?_⟩, fun _ _ _ _ found => ?_,
        fun _ member => ?_⟩
      · refine iff_of_false (fun member => by cases member) ?_
        rintro ⟨_, _, live, -⟩
        cases live
      · refine iff_of_false (fun member => by cases member) ?_
        rintro ⟨_, _, _, live, -⟩
        cases live
      · cases found
      · cases member
    exact meets_iff_every_state _ keeps decides initially fine actions
  · intro meets taken first key number flying
    have keeps : ∀ (guard : SocketGuard) (action : GuardAction),
        (SocketGuard.Owned guard.hub guard.validations ∧ guard.Tracked) →
          BeginsConnected guard action →
            (SocketGuard.Owned (guard.step ttlMs action).hub (guard.step ttlMs action).validations ∧
              (guard.step ttlMs action).Tracked) :=
      fun _ action held connected =>
        ⟨SocketGuard.owned_step held.1 action, held.2.step held.1 connected⟩
    have tracked : ({} : SocketGuard).Tracked := by
      refine ⟨fun _ _ flying => ?_, fun _ _ found => ?_, fun _ _ filed => ?_⟩
      · cases flying
      · cases found
      · cases filed
    have every := every_state_of_meets _ keeps ⟨initially.own, tracked⟩ meets taken first
    exact (every.2.flying key number flying).2.1

/-- A user of the examples. -/
def someUser : JwtAccessPayload := { sub := "user" }

/-- A validation whose snapshot is recorded; the next guard needs no other. -/
example : (run (SocketGuard.step 1000) {}
    [.connect "socket" someUser, .guard "socket" "agent" 0, .read 0 none 5, .settle 0,
      .guard "socket" "agent" 10]).validations.length = 1 := by decide

/-- The access of a user is invalidated while the repository is being read. -/
def overtakenActions : List GuardAction :=
  [.connect "socket" someUser, .guard "socket" "agent" 0, .invalidate (.user "user"),
    .read 0 none 5, .settle 0]

/-- A guard goes on when its socket has been disconnected. -/
def lateActions : List GuardAction :=
  [.connect "socket" someUser, .disconnect "socket", .guard "socket" "agent" 0, .read 0 none 5]

/-- The validation leaves a snapshot that the next guard accepts, and the socket that is no longer
connected is in the index. -/
theorem overtaken_and_late_validations_leave_snapshots :
    ¬ (run (SocketGuard.step 1000) {} overtakenActions).Lawful 1000 ∧
      ¬ (run (SocketGuard.step 1000) {} lateActions).Lawful 1000 := by
  constructor
  · intro lawful
    obtain ⟨snap, held, fresh⟩ :=
      lawful.accepts "socket" "agent" _ 10 (.user "user" none) rfl (by decide)
    cases held
    exact fresh (by decide)
  · intro lawful
    have indexed : "socket" ∈
        (run (SocketGuard.step 1000) {} lateActions).hub.socketIdsByAgentId.members "agent" := by
      decide
    obtain ⟨socket, snap, live, -⟩ := (lawful.indexes.agents "agent" "socket").mp indexed
    cases live

end PlugHub.ConsumerSocketGuard
