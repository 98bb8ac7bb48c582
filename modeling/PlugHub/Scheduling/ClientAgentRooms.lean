import PlugHub.Library.Runs
import PlugHub.Library.TtlCache

/-!
# The rooms of a client's agents

A consumer socket of a client is in two rooms for every agent that the client may use: the room of
the client and the agent, and the room of the agent's profile. It joins them when it connects, when
access is granted, and at every tick of the reconciliation. When access is revoked, the sockets in
the room of the client and the agent are disconnected.

The approved agents are read from the repository, perhaps shared with another bootstrap of the same
client or kept in a cache for a while, and the rooms are joined later. A revocation that completes
in between disconnects nobody whose rooms are still to be joined, and nothing takes the agent from
the list that was read. `Fresh` says of a room that no revocation of its agent completed since the
agents were read, without another grant.
-/

namespace PlugHub.ClientAgentRooms

open Library
open OrderedMap (forall_set get_erase get_mapValues get_set_cases get_set_of_ne get_set_self)

/-! ## Access -/

/-- The access of clients to agents, with what became of it. -/
structure AccessLedger where
  /-- The agents that are approved for a client, as `listAgentIdsByClientId` lists them. -/
  approved : String → List String
  version : Nat := 0
  /-- The number of the last revocation of a client's access to an agent, unless access was granted
  again, and whether the sockets have been disconnected. -/
  revocations : String → String → Option (Nat × Bool) := fun _ _ => none

namespace AccessLedger

variable (ledger : AccessLedger)

/-- Access is granted in the repository. -/
def approve (clientId agentId : String) : AccessLedger :=
  { ledger with
    approved := Function.update ledger.approved clientId
      (ledger.approved clientId ∪ [agentId]),
    revocations := Function.update ledger.revocations clientId
      (Function.update (ledger.revocations clientId) agentId none) }

/-- Access is revoked in the repository. -/
def revoke (clientId agentId : String) : AccessLedger :=
  { approved := Function.update ledger.approved clientId
      ((ledger.approved clientId).filter (· ≠ agentId)),
    version := ledger.version + 1,
    revocations := Function.update ledger.revocations clientId
      (Function.update (ledger.revocations clientId) agentId (some (ledger.version + 1, false))) }

/-- A revocation is complete; it counts unless access was granted again. -/
def complete (clientId agentId : String) (version : Nat) : AccessLedger :=
  if ledger.revocations clientId agentId = some (version, false) then
    { ledger with
      revocations := Function.update ledger.revocations clientId
        (Function.update (ledger.revocations clientId) agentId (some (version, true))) }
  else ledger

/-- No revocation completed since a number, without another grant. -/
def Fresh (clientId : String) (readAt : Nat) (agentId : String) : Prop :=
  ∀ revocation ∈ ledger.revocations clientId agentId,
    revocation.2 = true → revocation.1 ≤ readAt

instance (clientId : String) (readAt : Nat) (agentId : String) :
    Decidable (ledger.Fresh clientId readAt agentId) :=
  inferInstanceAs (Decidable (∀ revocation ∈ ledger.revocations clientId agentId,
    revocation.2 = true → revocation.1 ≤ readAt))

end AccessLedger

/-! ## Sockets -/

/-- The rooms in question. A client's id and an agent's id are told apart by their place. -/
inductive Room where
  /-- `buildConsumerClientAgentRoom`. -/
  | clientAgent (clientId agentId : String)
  /-- `buildConsumerAgentProfileRoom`. -/
  | agentProfile (agentId : String)
deriving DecidableEq

/-- The agent of a room. -/
def Room.agentId : Room → String
  | .clientAgent _ agentId => agentId
  | .agentProfile agentId => agentId

/-- A consumer socket of a client. -/
structure ConsumerSocket where
  clientId : String
  connected : Bool := true
  rooms : List Room := []

/-- `listConsumerApprovedAgentRooms`. -/
def listConsumerApprovedAgentRooms (clientId : String) (agentIds : List String) : List Room :=
  agentIds.flatMap fun agentId => [.clientAgent clientId agentId, .agentProfile agentId]

namespace ConsumerSocket

variable (socket : ConsumerSocket)

/-- The socket joins rooms, while it is connected. -/
def join (rooms : List Room) : ConsumerSocket :=
  if socket.connected then { socket with rooms := socket.rooms ∪ rooms } else socket

/-- The socket leaves rooms. -/
def leave (rooms : List Room) : ConsumerSocket :=
  { socket with rooms := socket.rooms.filter (· ∉ rooms) }

/-- The socket is disconnected, which leaves its rooms. -/
def disconnect : ConsumerSocket := { socket with connected := false, rooms := [] }

/-- The rooms that begin with one of the two prefixes: `buildConsumerClientAgentRoomPrefix` of the
client and `buildConsumerAgentProfileRoomPrefix`. -/
def currentRooms (clientId : String) : List Room :=
  socket.rooms.filter fun
    | .clientAgent owner _ => owner = clientId
    | .agentProfile _ => true

/-- The rooms to leave. -/
def roomsToLeave (clientId : String) (agentIds : List String) : List Room :=
  (socket.currentRooms clientId).filter (· ∉ listConsumerApprovedAgentRooms clientId agentIds)

/-- The rooms to join. -/
def roomsToJoin (clientId : String) (agentIds : List String) : List Room :=
  (listConsumerApprovedAgentRooms clientId agentIds).filter (· ∉ socket.rooms)

end ConsumerSocket

/-! ## The hub -/

/-- The approved agents of a client as they were read. -/
structure ApprovedAgentIds where
  agentIds : List String
  readAt : Nat

/-- The approved agents of a client are being fetched. -/
structure ApprovedFetch where
  clientId : String
  found : Option ApprovedAgentIds
  fillsCache : Bool
  waiters : List Nat

/-- The rooms of a socket are to be reconciled with the agents that were fetched. -/
structure Reconciliation where
  socketId : Nat
  clientId : String
  approved : ApprovedAgentIds

/-- A socket is to join rooms. -/
structure PendingJoin where
  socketId : Nat
  clientId : String
  rooms : List Room
  /-- The number of the last revocation before the access was read or granted. -/
  readAt : Nat

/-- Access that was granted. -/
structure Grant where
  clientId : String
  agentId : String
  readAt : Nat

/-- Access that was revoked. -/
structure PendingRevocation where
  clientId : String
  agentId : String
  version : Nat

/-- The repository, the sockets, and what is under way. -/
structure RoomHub where
  ledger : AccessLedger
  /-- `approvedAgentIdsCache`; a lifetime of zero disables it. -/
  cache : TtlCache String ApprovedAgentIds
  nowMs : Nat := 0
  sockets : OrderedMap Nat ConsumerSocket := .empty
  fetches : OrderedMap Nat ApprovedFetch := .empty
  /-- `pendingApprovedAgentIdsByClientId`: the fetch that bootstraps of a client share. -/
  pendingApprovedAgentIdsByClientId : OrderedMap String Nat := .empty
  reconciliations : List Reconciliation := []
  joins : List PendingJoin := []
  granted : List Grant := []
  fetchingSockets : List Grant := []
  revoking : List PendingRevocation := []

namespace RoomHub

variable (hub : RoomHub)

/-- The socket with its rooms changed. -/
def setSocket (id : Nat) (socket : ConsumerSocket) : RoomHub :=
  { hub with sockets := hub.sockets.set id socket }

/-- `invalidateApprovedAgentIdsCache`. -/
def invalidateApprovedAgentIdsCache (clientId : String) : RoomHub :=
  { hub with cache := hub.cache.deleteWhere (· = clientId) }

/-- `fetchApprovedAgentIdsForReconcile`, up to the question to the repository. -/
def fetchApprovedAgentIdsForReconcile (id : Nat) (clientId : String) (waiters : List Nat) :
    RoomHub :=
  if hub.cache.ttlMs = 0 then
    { hub with fetches := hub.fetches.set id ⟨clientId, none, false, waiters⟩ }
  else
    let (found, cache) := hub.cache.get hub.nowMs clientId
    { hub with cache, fetches := hub.fetches.set id ⟨clientId, found, found.isNone, waiters⟩ }

/-- `backfillConsumerApprovedAgentRooms`, up to the fetch. -/
def backfillConsumerApprovedAgentRooms (socketId : Nat) (socket : ConsumerSocket) (id : Nat) :
    RoomHub :=
  let pending := do
    let shared ← hub.pendingApprovedAgentIdsByClientId.get socket.clientId
    let fetch ← hub.fetches.get shared
    return (shared, fetch)
  match pending with
  | some (shared, fetch) =>
    { hub with
      fetches := hub.fetches.set shared { fetch with waiters := fetch.waiters ++ [socketId] } }
  | none =>
    let started := hub.fetchApprovedAgentIdsForReconcile id socket.clientId [socketId]
    { started with
      pendingApprovedAgentIdsByClientId :=
        started.pendingApprovedAgentIdsByClientId.set socket.clientId id }

/-- The repository answers a fetch. -/
def readApproved (id : Nat) (fetch : ApprovedFetch) : RoomHub :=
  match fetch.found with
  | some _ => hub
  | none =>
    { hub with
      fetches := hub.fetches.set id
        { fetch with
          found := some ⟨hub.ledger.approved fetch.clientId, hub.ledger.version⟩ } }

/-- A fetch is over: bootstraps of the client no longer share it. -/
def endFetch (id : Nat) (fetch : ApprovedFetch) : RoomHub :=
  { hub with
    fetches := hub.fetches.erase id,
    pendingApprovedAgentIdsByClientId :=
      if hub.pendingApprovedAgentIdsByClientId.get fetch.clientId = some id then
        hub.pendingApprovedAgentIdsByClientId.erase fetch.clientId
      else hub.pendingApprovedAgentIdsByClientId }

/-- A fetch has found the agents. -/
def settleFetch (id : Nat) (fetch : ApprovedFetch) (found : ApprovedAgentIds) : RoomHub :=
  let ended := hub.endFetch id fetch
  { ended with
    cache :=
      if fetch.fillsCache then hub.cache.set hub.nowMs fetch.clientId found else hub.cache,
    reconciliations :=
      hub.reconciliations ++ fetch.waiters.map (⟨·, fetch.clientId, found⟩) }

/-- `reconcileConsumerClientAgentRoomsForSocket`. When there are rooms to leave, the others are
joined only afterwards. -/
def reconcileConsumerClientAgentRoomsForSocket (task : Reconciliation) : RoomHub :=
  match hub.sockets.get task.socketId with
  | none => hub
  | some socket =>
    if socket.connected then
      let toLeave := socket.roomsToLeave task.clientId task.approved.agentIds
      let toJoin := socket.roomsToJoin task.clientId task.approved.agentIds
      if toLeave = [] then hub.setSocket task.socketId (socket.join toJoin)
      else
        let left := hub.setSocket task.socketId (socket.leave toLeave)
        { left with
          joins := left.joins ++ [⟨task.socketId, task.clientId, toJoin, task.approved.readAt⟩] }
    else hub

/-- The rooms are joined. -/
def joinRooms (task : PendingJoin) : RoomHub :=
  match hub.sockets.get task.socketId with
  | none => hub
  | some socket => hub.setSocket task.socketId (socket.join task.rooms)

/-- `joinConsumerClientAgentRoom` for the sockets of the client that `fetchSockets` found: those of
the two rooms that a socket is not in yet. -/
def socketsFetched (grant : Grant) : RoomHub :=
  let found := hub.sockets.entries.filter fun entry =>
    entry.2.connected && entry.2.clientId = grant.clientId
  { hub with
    joins := hub.joins ++ found.map fun entry =>
      ⟨entry.1, grant.clientId, entry.2.roomsToJoin grant.clientId [grant.agentId],
        grant.readAt⟩ }

/-- `disconnectConsumerSocketsInRoom`. -/
def disconnectConsumerSocketsInRoom (room : Room) : RoomHub :=
  { hub with
    sockets := hub.sockets.mapValues fun socket =>
      if room ∈ socket.rooms then socket.disconnect else socket }

/-- `revokeClientAccess`. -/
def revokeClientAccess (revocation : PendingRevocation) : RoomHub :=
  let room := Room.clientAgent revocation.clientId revocation.agentId
  let invalidated := hub.invalidateApprovedAgentIdsCache revocation.clientId
  let disconnected := invalidated.disconnectConsumerSocketsInRoom room
  { disconnected with
    ledger := hub.ledger.complete revocation.clientId revocation.agentId revocation.version }

end RoomHub

/-- What can happen next. A position in a list says which of the things under way goes on. -/
inductive RoomAction where
  | connect (socketId : Nat) (clientId : String)
  | disconnect (socketId : Nat)
  | bootstrap (socketId fetch : Nat)
  /-- A tick reconciles the rooms of the client's sockets that it has found. -/
  | tick (clientId : String) (fetch : Nat) (socketIds : List Nat)
  | read (fetch : Nat)
  | settle (fetch : Nat)
  | reconcile (position : Nat)
  | join (position : Nat)
  | approve (clientId agentId : String)
  /-- `grantClientAccess`, up to the fetching of the sockets. -/
  | grant (position : Nat)
  | socketsFetched (position : Nat)
  | revoke (clientId agentId : String)
  /-- `revokeClientAccess`. -/
  | revokeClientAccess (position : Nat)
  | wait (byMs : Nat)

/-- One step. -/
def RoomHub.step (hub : RoomHub) : RoomAction → RoomHub
  | .connect socketId clientId =>
    if hub.sockets.has socketId then hub else hub.setSocket socketId { clientId }
  | .disconnect socketId => match hub.sockets.get socketId with
    | none => hub
    | some socket => hub.setSocket socketId socket.disconnect
  | .bootstrap socketId id => match hub.sockets.get socketId with
    | none => hub
    | some socket =>
      if hub.fetches.has id then hub
      else hub.backfillConsumerApprovedAgentRooms socketId socket id
  | .tick clientId id socketIds =>
    if hub.fetches.has id then hub
    else hub.fetchApprovedAgentIdsForReconcile id clientId (socketIds.filter fun socketId =>
      ((hub.sockets.get socketId).map ConsumerSocket.clientId) = some clientId)
  | .read id => match hub.fetches.get id with
    | none => hub
    | some fetch => hub.readApproved id fetch
  | .settle id => match hub.fetches.get id with
    | none => hub
    | some fetch => match fetch.found with
      | none => hub.endFetch id fetch
      | some found => hub.settleFetch id fetch found
  | .reconcile position => match hub.reconciliations[position]? with
    | none => hub
    | some task =>
      { hub with reconciliations := hub.reconciliations.eraseIdx position
        }.reconcileConsumerClientAgentRoomsForSocket task
  | .join position => match hub.joins[position]? with
    | none => hub
    | some task => { hub with joins := hub.joins.eraseIdx position }.joinRooms task
  | .approve clientId agentId =>
    { hub with
      ledger := hub.ledger.approve clientId agentId,
      granted := hub.granted ++ [⟨clientId, agentId, hub.ledger.version⟩] }
  | .grant position => match hub.granted[position]? with
    | none => hub
    | some grant =>
      { hub with
        granted := hub.granted.eraseIdx position,
        fetchingSockets := hub.fetchingSockets ++ [grant]
        }.invalidateApprovedAgentIdsCache grant.clientId
  | .socketsFetched position => match hub.fetchingSockets[position]? with
    | none => hub
    | some grant =>
      { hub with fetchingSockets := hub.fetchingSockets.eraseIdx position }.socketsFetched grant
  | .revoke clientId agentId =>
    if agentId ∈ hub.ledger.approved clientId then
      let ledger := hub.ledger.revoke clientId agentId
      { hub with ledger, revoking := hub.revoking ++ [⟨clientId, agentId, ledger.version⟩] }
    else hub
  | .revokeClientAccess position => match hub.revoking[position]? with
    | none => hub
    | some revocation =>
      { hub with revoking := hub.revoking.eraseIdx position }.revokeClientAccess revocation
  | .wait byMs => { hub with nowMs := hub.nowMs + byMs }

/-! ## The law -/

/-- Once a revocation is complete, no socket of the client is in the rooms of the agent, until
access is granted again. -/
def RoomsLawful (hub : RoomHub) : Prop :=
  ∀ clientId agentId version,
    hub.ledger.revocations clientId agentId = some (version, true) →
    ∀ id socket, hub.sockets.get id = some socket → socket.connected = true →
      socket.clientId = clientId →
      .clientAgent clientId agentId ∉ socket.rooms ∧ .agentProfile agentId ∉ socket.rooms

/-- When a connected socket joins rooms, no revocation of their agents completed since the access
was read or granted, without another grant. -/
def JoinsFresh (hub : RoomHub) : RoomAction → Prop
  | .reconcile position => ∀ task ∈ hub.reconciliations[position]?,
      ∀ socket ∈ hub.sockets.get task.socketId, socket.connected = true →
        socket.roomsToLeave task.clientId task.approved.agentIds = [] →
        ∀ room ∈ socket.roomsToJoin task.clientId task.approved.agentIds,
          hub.ledger.Fresh task.clientId task.approved.readAt room.agentId
  | .join position => ∀ task ∈ hub.joins[position]?,
      ∀ socket ∈ hub.sockets.get task.socketId, socket.connected = true →
        ∀ room ∈ task.rooms, hub.ledger.Fresh task.clientId task.readAt room.agentId
  | _ => True

instance (hub : RoomHub) : ∀ action, Decidable (JoinsFresh hub action)
  | .reconcile position => inferInstanceAs (Decidable (∀ task ∈ hub.reconciliations[position]?,
      ∀ socket ∈ hub.sockets.get task.socketId, socket.connected = true →
        socket.roomsToLeave task.clientId task.approved.agentIds = [] →
        ∀ room ∈ socket.roomsToJoin task.clientId task.approved.agentIds,
          hub.ledger.Fresh task.clientId task.approved.readAt room.agentId))
  | .join position => inferInstanceAs (Decidable (∀ task ∈ hub.joins[position]?,
      ∀ socket ∈ hub.sockets.get task.socketId, socket.connected = true →
        ∀ room ∈ task.rooms, hub.ledger.Fresh task.clientId task.readAt room.agentId))
  | .connect .. | .disconnect _ | .bootstrap .. | .tick .. | .read _ | .settle _ | .approve ..
  | .grant _ | .socketsFetched _ | .revoke .. | .revokeClientAccess _ | .wait _ =>
    inferInstanceAs (Decidable True)

/-! ## What is known of access -/

namespace AccessLedger

variable {ledger : AccessLedger} {clientId agentId : String} {readAt : Nat}

/-- Access that was read: it is approved, or was revoked since. -/
structure Known (ledger : AccessLedger) (clientId : String) (readAt : Nat) (agentId : String) :
    Prop where
  earlier : readAt ≤ ledger.version
  granted : agentId ∈ ledger.approved clientId ∨
    ∃ version complete, ledger.revocations clientId agentId = some (version, complete) ∧
      readAt < version

/-- Access that is approved, or whose revocation has not disconnected the sockets yet. -/
def Standing (ledger : AccessLedger) (clientId agentId : String) : Prop :=
  agentId ∈ ledger.approved clientId ∨
    ∃ version, ledger.revocations clientId agentId = some (version, false)

/-- Approved access is not revoked. -/
def Quiet (ledger : AccessLedger) : Prop :=
  ∀ clientId, ∀ agentId ∈ ledger.approved clientId, ledger.revocations clientId agentId = none

theorem Known.standing (known : ledger.Known clientId readAt agentId)
    (fresh : ledger.Fresh clientId readAt agentId) : ledger.Standing clientId agentId := by
  rcases known.granted with approved | ⟨version, complete, revoked, later⟩
  · exact Or.inl approved
  · cases complete with
    | false => exact Or.inr ⟨version, revoked⟩
    | true =>
      have := fresh (version, true) revoked rfl
      simp only at this
      omega

variable {owner other : String}

theorem mem_approve :
    agentId ∈ (ledger.approve owner other).approved clientId ↔
      agentId ∈ ledger.approved clientId ∨ clientId = owner ∧ agentId = other := by
  unfold approve
  simp only
  by_cases same : clientId = owner
  · simp [same]
  · simp [same]

theorem revocations_approve :
    (ledger.approve owner other).revocations clientId agentId =
      if clientId = owner ∧ agentId = other then none
      else ledger.revocations clientId agentId := by
  unfold approve
  simp only [Function.update_apply]
  by_cases same : clientId = owner
  · by_cases same' : agentId = other <;> simp [same, same']
  · simp [same]

theorem mem_revoke :
    agentId ∈ (ledger.revoke owner other).approved clientId ↔
      agentId ∈ ledger.approved clientId ∧ ¬(clientId = owner ∧ agentId = other) := by
  unfold revoke
  simp only
  by_cases same : clientId = owner
  · simp [same]
  · simp [same]

theorem revocations_revoke :
    (ledger.revoke owner other).revocations clientId agentId =
      if clientId = owner ∧ agentId = other then some (ledger.version + 1, false)
      else ledger.revocations clientId agentId := by
  unfold revoke
  simp only [Function.update_apply]
  by_cases same : clientId = owner
  · by_cases same' : agentId = other <;> simp [same, same']
  · simp [same]

@[simp] theorem approved_complete (owner other : String) (version : Nat) :
    (ledger.complete owner other version).approved = ledger.approved := by
  unfold complete
  split <;> rfl

@[simp] theorem version_complete (owner other : String) (version : Nat) :
    (ledger.complete owner other version).version = ledger.version := by
  unfold complete
  split <;> rfl

theorem revocations_complete {version : Nat} :
    (ledger.complete owner other version).revocations clientId agentId =
      if clientId = owner ∧ agentId = other ∧
          ledger.revocations owner other = some (version, false) then some (version, true)
      else ledger.revocations clientId agentId := by
  unfold complete
  split
  · next found =>
    simp only [Function.update_apply, found]
    by_cases same : clientId = owner
    · by_cases same' : agentId = other <;> simp [same, same']
    · simp [same]
  · next lost => simp [lost]

section

variable (known : ledger.Known clientId readAt agentId)

include known

theorem Known.approve (owner other : String) :
    (ledger.approve owner other).Known clientId readAt agentId := by
  refine ⟨known.earlier, ?_⟩
  rw [mem_approve, revocations_approve]
  by_cases same : clientId = owner ∧ agentId = other
  · exact Or.inl (Or.inr same)
  · rw [if_neg same]
    exact known.granted.imp_left Or.inl

theorem Known.revoke (owner other : String) :
    (ledger.revoke owner other).Known clientId readAt agentId := by
  refine ⟨Nat.le_succ_of_le known.earlier, ?_⟩
  rw [mem_revoke, revocations_revoke]
  by_cases same : clientId = owner ∧ agentId = other
  · rw [if_pos same]
    exact Or.inr ⟨_, _, rfl, Nat.lt_succ_of_le known.earlier⟩
  · rw [if_neg same]
    exact known.granted.imp_left fun approved => ⟨approved, same⟩

theorem Known.complete (owner other : String)
    (version : Nat) : (ledger.complete owner other version).Known clientId readAt agentId := by
  refine ⟨by simpa using known.earlier, ?_⟩
  rw [approved_complete, revocations_complete]
  split
  · next found =>
    obtain ⟨rfl, rfl, found⟩ := found
    refine known.granted.imp_right fun ⟨revoked, _, same, later⟩ => ⟨version, true, rfl, ?_⟩
    rw [found] at same
    rw [(Prod.mk.inj (Option.some.inj same)).1]
    exact later
  · exact known.granted

end

theorem Standing.approve (standing : ledger.Standing clientId agentId) (owner other : String) :
    (ledger.approve owner other).Standing clientId agentId := by
  unfold Standing
  rw [mem_approve, revocations_approve]
  by_cases same : clientId = owner ∧ agentId = other
  · exact Or.inl (Or.inr same)
  · rw [if_neg same]
    exact standing.imp_left Or.inl

theorem Standing.revoke (standing : ledger.Standing clientId agentId) (owner other : String) :
    (ledger.revoke owner other).Standing clientId agentId := by
  unfold Standing
  rw [mem_revoke, revocations_revoke]
  by_cases same : clientId = owner ∧ agentId = other
  · rw [if_pos same]
    exact Or.inr ⟨_, rfl⟩
  · rw [if_neg same]
    exact standing.imp_left fun approved => ⟨approved, same⟩

theorem Standing.complete (standing : ledger.Standing clientId agentId)
    (version : Nat) (differs : ¬(clientId = owner ∧ agentId = other)) :
    (ledger.complete owner other version).Standing clientId agentId := by
  unfold Standing
  rw [approved_complete, revocations_complete,
    if_neg fun same => differs ⟨same.1, same.2.1⟩]
  exact standing

theorem Quiet.approve (quiet : ledger.Quiet) (owner other : String) :
    (ledger.approve owner other).Quiet := by
  intro client agent approved
  rw [revocations_approve]
  split
  · rfl
  · next differs => exact quiet client agent ((mem_approve.mp approved).resolve_right differs)

theorem Quiet.revoke (quiet : ledger.Quiet) (owner other : String) :
    (ledger.revoke owner other).Quiet := by
  intro client agent approved
  obtain ⟨before, differs⟩ := mem_revoke.mp approved
  rw [revocations_revoke, if_neg differs]
  exact quiet client agent before

theorem Quiet.complete (quiet : ledger.Quiet) (owner other : String) (version : Nat) :
    (ledger.complete owner other version).Quiet := by
  intro client agent approved
  rw [approved_complete] at approved
  rw [revocations_complete]
  split
  · next found =>
    obtain ⟨rfl, rfl, found⟩ := found
    rw [quiet client agent approved] at found
    cases found
  · exact quiet client agent approved

end AccessLedger

/-! ## What is known of rooms -/

/-- Rooms of one client, the profile of an agent with the room of the client and the agent. -/
structure Paired (clientId : String) (rooms : List Room) : Prop where
  /-- The rooms of a client and an agent are those of this client. -/
  own : ∀ owner agentId, .clientAgent owner agentId ∈ rooms → owner = clientId
  both : ∀ agentId, .agentProfile agentId ∈ rooms ↔ .clientAgent clientId agentId ∈ rooms

variable {agentIds : List String}

theorem mem_rooms_clientAgent {clientId owner agentId : String} :
    .clientAgent owner agentId ∈ listConsumerApprovedAgentRooms clientId agentIds ↔
      owner = clientId ∧ agentId ∈ agentIds := by
  unfold listConsumerApprovedAgentRooms
  simp only [List.mem_flatMap, List.mem_cons, Room.clientAgent.injEq, reduceCtorEq,
    List.not_mem_nil, or_false]
  constructor
  · rintro ⟨agent, member, rfl, rfl⟩
    exact ⟨rfl, member⟩
  · rintro ⟨rfl, member⟩
    exact ⟨agentId, member, rfl, rfl⟩

theorem mem_rooms_agentProfile {clientId agentId : String} :
    .agentProfile agentId ∈ listConsumerApprovedAgentRooms clientId agentIds ↔
      agentId ∈ agentIds := by
  unfold listConsumerApprovedAgentRooms
  simp only [List.mem_flatMap, List.mem_cons, Room.agentProfile.injEq, reduceCtorEq,
    List.not_mem_nil, or_false, false_or]
  constructor
  · rintro ⟨_, member, rfl⟩
    exact member
  · intro member
    exact ⟨agentId, member, rfl⟩

theorem agentId_of_listed {clientId : String} {room : Room}
    (listed : room ∈ listConsumerApprovedAgentRooms clientId agentIds) :
    room.agentId ∈ agentIds := by
  cases room with
  | clientAgent owner agentId => exact (mem_rooms_clientAgent.mp listed).2
  | agentProfile agentId => exact mem_rooms_agentProfile.mp listed

namespace Paired

variable {clientId : String} {rooms others : List Room} {agentIds : List String}

theorem nil : Paired clientId [] := ⟨fun _ _ member => (nomatch member), by simp⟩

theorem union (paired : Paired clientId rooms) (paired' : Paired clientId others) :
    Paired clientId (rooms ∪ others) := by
  constructor
  · intro owner agentId member
    rcases List.mem_union_iff.mp member with here | there
    · exact paired.own owner agentId here
    · exact paired'.own owner agentId there
  · intro agentId
    rw [List.mem_union_iff, List.mem_union_iff, paired.both, paired'.both]

theorem missing (paired : Paired clientId rooms) :
    Paired clientId
      ((listConsumerApprovedAgentRooms clientId agentIds).filter (· ∉ rooms)) := by
  constructor
  · intro owner agentId member
    exact (mem_rooms_clientAgent.mp (List.mem_filter.mp member).1).1
  · intro agentId
    simp only [List.mem_filter, mem_rooms_clientAgent, mem_rooms_agentProfile, true_and,
      decide_eq_true_eq, paired.both]

theorem leave {socket : ConsumerSocket} (paired : Paired clientId socket.rooms) :
    Paired clientId (socket.leave (socket.roomsToLeave clientId agentIds)).rooms := by
  unfold ConsumerSocket.leave ConsumerSocket.roomsToLeave ConsumerSocket.currentRooms
  constructor
  · intro owner agentId member
    exact paired.own owner agentId (List.mem_filter.mp member).1
  · intro agentId
    simp only [List.mem_filter, mem_rooms_clientAgent, mem_rooms_agentProfile, true_and,
      decide_eq_true_eq, paired.both, and_true]

end Paired

/-! ## The steps that join fresh rooms only -/

/-- The socket is one of the client's. -/
def Owned (sockets : OrderedMap Nat ConsumerSocket) (id : Nat) (clientId : String) : Prop :=
  ∃ socket, sockets.get id = some socket ∧ socket.clientId = clientId

/-- The access to every agent of the rooms of a socket stands. -/
structure SocketSound (ledger : AccessLedger) (socket : ConsumerSocket) : Prop where
  paired : Paired socket.clientId socket.rooms
  standing : ∀ agentId, .clientAgent socket.clientId agentId ∈ socket.rooms →
    ledger.Standing socket.clientId agentId

/-- The agents were all approved when they were read. -/
def ListKnown (ledger : AccessLedger) (clientId : String) (found : ApprovedAgentIds) : Prop :=
  ∀ agentId ∈ found.agentIds, ledger.Known clientId found.readAt agentId

/-- A fetch has read what was approved, for sockets of the client. -/
structure FetchSound (hub : RoomHub) (fetch : ApprovedFetch) : Prop where
  known : ∀ found, fetch.found = some found → ListKnown hub.ledger fetch.clientId found
  owned : ∀ id ∈ fetch.waiters, Owned hub.sockets id fetch.clientId

/-- A reconciliation has what was approved, for a socket of the client. -/
structure ReconciliationSound (hub : RoomHub) (task : Reconciliation) : Prop where
  known : ListKnown hub.ledger task.clientId task.approved
  owned : Owned hub.sockets task.socketId task.clientId

/-- Rooms that are to be joined are those of agents that were approved. -/
structure JoinSound (hub : RoomHub) (task : PendingJoin) : Prop where
  known : ∀ room ∈ task.rooms, hub.ledger.Known task.clientId task.readAt room.agentId
  owned : Owned hub.sockets task.socketId task.clientId
  paired : Paired task.clientId task.rooms

/-- What every hub is that is reached by joining fresh rooms only. -/
structure RoomsSound (hub : RoomHub) : Prop where
  quiet : hub.ledger.Quiet
  sockets : ∀ id socket, hub.sockets.get id = some socket → SocketSound hub.ledger socket
  cached : ∀ clientId found, hub.cache.Stored clientId found →
    ListKnown hub.ledger clientId found
  fetches : ∀ id fetch, hub.fetches.get id = some fetch → FetchSound hub fetch
  shared : ∀ clientId id, hub.pendingApprovedAgentIdsByClientId.get clientId = some id →
    ∃ fetch, hub.fetches.get id = some fetch ∧ fetch.clientId = clientId
  reconciliations : ∀ task ∈ hub.reconciliations, ReconciliationSound hub task
  joins : ∀ task ∈ hub.joins, JoinSound hub task
  granted : ∀ grant ∈ hub.granted ++ hub.fetchingSockets,
    hub.ledger.Known grant.clientId grant.readAt grant.agentId

namespace RoomsSound

variable {hub : RoomHub}

theorem initial (approved : String → List String) (ttlMs : Nat) :
    RoomsSound { ledger := { approved }, cache := { ttlMs, maxSize := 10000 } } where
  quiet _ _ _ := rfl
  sockets _ _ found := nomatch found
  cached _ _ stored := by
    obtain ⟨entry, found, -⟩ := stored
    cases found
  fetches _ _ found := nomatch found
  shared _ _ found := nomatch found
  reconciliations _ member := nomatch member
  joins _ member := nomatch member
  granted _ member := nomatch member

theorem lawful (sound : RoomsSound hub) : RoomsLawful hub := by
  intro clientId agentId version complete id socket found _ same
  subst same
  have socketSound := sound.sockets id socket found
  have out : .clientAgent socket.clientId agentId ∉ socket.rooms := by
    intro member
    rcases socketSound.standing agentId member with approved | ⟨other, revoking⟩
    · rw [sound.quiet _ _ approved] at complete
      cases complete
    · rw [revoking] at complete
      exact nomatch (Prod.mk.inj (Option.some.inj complete)).2
  exact ⟨out, fun member => out ((socketSound.paired.both agentId).mp member)⟩

theorem withSockets (sound : RoomsSound hub) {sockets : OrderedMap Nat ConsumerSocket}
    (kept : ∀ id clientId, Owned hub.sockets id clientId → Owned sockets id clientId)
    (socketsSound : ∀ id socket, sockets.get id = some socket → SocketSound hub.ledger socket) :
    RoomsSound { hub with sockets } :=
  { sound with
    sockets := socketsSound
    fetches id fetch found :=
      ⟨(sound.fetches id fetch found).known,
        fun waiter member => kept _ _ ((sound.fetches id fetch found).owned waiter member)⟩
    reconciliations task member :=
      ⟨(sound.reconciliations task member).known,
        kept _ _ (sound.reconciliations task member).owned⟩
    joins task member :=
      ⟨(sound.joins task member).known, kept _ _ (sound.joins task member).owned,
        (sound.joins task member).paired⟩ }

theorem owned_set {id : Nat} {socket next : ConsumerSocket}
    (found : hub.sockets.get id = some socket) (same : next.clientId = socket.clientId)
    {other : Nat} {clientId : String} (owned : Owned hub.sockets other clientId) :
    Owned (hub.sockets.set id next) other clientId := by
  obtain ⟨old, before, owner⟩ := owned
  by_cases here : other = id
  · subst here
    rw [before] at found
    exact ⟨next, get_set_self _ _ _, by rw [same, ← Option.some.inj found, owner]⟩
  · exact ⟨old, by rw [get_set_of_ne _ _ here, before], owner⟩

theorem setSocket (sound : RoomsSound hub) {id : Nat} {socket next : ConsumerSocket}
    (found : hub.sockets.get id = some socket) (same : next.clientId = socket.clientId)
    (nextSound : SocketSound hub.ledger next) : RoomsSound (hub.setSocket id next) := by
  exact sound.withSockets (fun _ _ => owned_set found same) (forall_set nextSound sound.sockets)

theorem socket_join {ledger : AccessLedger} {socket : ConsumerSocket} {rooms : List Room}
    (sound : SocketSound ledger socket) (paired : Paired socket.clientId rooms)
    (standing : socket.connected = true → ∀ room ∈ rooms,
      ledger.Standing socket.clientId room.agentId) :
    SocketSound ledger (socket.join rooms) := by
  unfold ConsumerSocket.join
  by_cases connected : socket.connected = true
  · rw [if_pos connected]
    refine ⟨sound.paired.union paired, fun agentId member => ?_⟩
    rcases List.mem_union_iff.mp member with here | joined
    · exact sound.standing agentId here
    · exact standing connected _ joined
  · rw [if_neg connected]
    exact sound

@[simp] theorem clientId_join (socket : ConsumerSocket) (rooms : List Room) :
    (socket.join rooms).clientId = socket.clientId := by
  unfold ConsumerSocket.join
  split <;> rfl

theorem socket_disconnect (ledger : AccessLedger) (socket : ConsumerSocket) :
    SocketSound ledger socket.disconnect :=
  ⟨Paired.nil, fun _ member => nomatch member⟩

section

variable (sound : RoomsSound hub)

include sound

variable {id : Nat} {fetch : ApprovedFetch}

theorem connect (free : hub.sockets.has id = false)
    (clientId : String) : RoomsSound (hub.setSocket id { clientId }) := by
  refine sound.withSockets (fun other owner owned => ?_)
    (forall_set ⟨Paired.nil, fun _ member => nomatch member⟩ sound.sockets)
  obtain ⟨old, before, same⟩ := owned
  refine ⟨old, ?_, same⟩
  rw [get_set_of_ne _ _ ?_, before]
  rintro rfl
  rw [OrderedMap.has, before] at free
  cases free

theorem withFetches {cache : TtlCache String ApprovedAgentIds}
    {fetches : OrderedMap Nat ApprovedFetch} {pending : OrderedMap String Nat}
    (cached : ∀ clientId found, cache.Stored clientId found →
      hub.cache.Stored clientId found ∨ ListKnown hub.ledger clientId found)
    (fetched : ∀ id fetch, fetches.get id = some fetch →
      hub.fetches.get id = some fetch ∨ FetchSound hub fetch)
    (shared : ∀ clientId id, pending.get clientId = some id →
      ∃ fetch, fetches.get id = some fetch ∧ fetch.clientId = clientId) :
    RoomsSound { hub with
      cache, fetches, pendingApprovedAgentIdsByClientId := pending } :=
  { sound with
    cached clientId found stored := by
      rcases cached clientId found stored with old | new
      · exact sound.cached clientId found old
      · exact new
    fetches id fetch found := by
      have before : FetchSound hub fetch := by
        rcases fetched id fetch found with old | new
        · exact sound.fetches id fetch old
        · exact new
      exact ⟨before.known, before.owned⟩
    shared := shared
    reconciliations task member :=
      ⟨(sound.reconciliations task member).known, (sound.reconciliations task member).owned⟩
    joins task member :=
      ⟨(sound.joins task member).known, (sound.joins task member).owned,
        (sound.joins task member).paired⟩ }

variable {clientId : String}

theorem shared_set (fits : ∀ old, hub.fetches.get id = some old → old.clientId = fetch.clientId)
    {other : Nat} (noted : hub.pendingApprovedAgentIdsByClientId.get clientId = some other) :
    ∃ next, (hub.fetches.set id fetch).get other = some next ∧ next.clientId = clientId := by
  obtain ⟨old, found, client⟩ := sound.shared clientId other noted
  by_cases same : other = id
  · subst same
    exact ⟨fetch, get_set_self _ _ _, by rw [← fits old found, client]⟩
  · exact ⟨old, by rw [get_set_of_ne _ _ same, found], client⟩

theorem fetchApproved (free : hub.fetches.get id = none) {waiters : List Nat}
    (owned : ∀ waiter ∈ waiters, Owned hub.sockets waiter clientId) :
    RoomsSound (hub.fetchApprovedAgentIdsForReconcile id clientId waiters) := by
  have fits (fetch : ApprovedFetch) (old : ApprovedFetch) (found : hub.fetches.get id = some old) :
      old.clientId = fetch.clientId := by
    rw [free] at found
    cases found
  unfold RoomHub.fetchApprovedAgentIdsForReconcile
  by_cases off : hub.cache.ttlMs = 0
  · rw [if_pos off]
    exact sound.withFetches (fun _ _ => Or.inl)
      (forall_set (Or.inr ⟨fun _ found => (nomatch found), owned⟩) fun _ _ => Or.inl)
      fun _ _ => sound.shared_set (fits _)
  · rw [if_neg off]
    exact sound.withFetches (fun _ _ stored => Or.inl (TtlCache.Stored.of_get stored))
      (forall_set (Or.inr ⟨fun found hit => sound.cached _ _ (TtlCache.stored_of_get hit), owned⟩)
        fun _ _ => Or.inl) fun _ _ => sound.shared_set (fits _)

theorem backfill {socketId : Nat} {socket : ConsumerSocket}
    (found : hub.sockets.get socketId = some socket) (free : hub.fetches.get id = none) :
    RoomsSound (hub.backfillConsumerApprovedAgentRooms socketId socket id) := by
  have own : Owned hub.sockets socketId socket.clientId := ⟨socket, found, rfl⟩
  have starts : RoomsSound
      (hub.fetchApprovedAgentIdsForReconcile id socket.clientId [socketId]) := by
    refine sound.fetchApproved free fun waiter member => ?_
    rw [List.mem_singleton.mp member]
    exact own
  unfold RoomHub.backfillConsumerApprovedAgentRooms
  dsimp only
  split
  · next shared fetch pending =>
    simp only [Option.bind_eq_bind, Option.bind_eq_some_iff, Option.pure_def, Option.some.injEq,
      Prod.mk.injEq] at pending
    obtain ⟨_, noted, _, stored, same, same'⟩ := pending
    rw [same] at noted stored
    rw [same'] at stored
    have before := sound.fetches _ _ stored
    have client : fetch.clientId = socket.clientId := by
      obtain ⟨other, place, same⟩ := sound.shared _ _ noted
      rw [stored] at place
      rw [Option.some.inj place, same]
    refine sound.withFetches (fun _ _ => Or.inl) (forall_set (Or.inr ⟨before.known,
      forall_mem_concat before.owned (client ▸ own)⟩) fun _ _ => Or.inl) fun _ _ =>
        sound.shared_set fun old again => ?_
    rw [stored] at again
    rw [Option.some.inj again]
  · refine starts.withFetches (fun _ _ => Or.inl) (fun _ _ => Or.inl) fun clientId other noted => ?_
    rcases get_set_cases noted with ⟨rfl, rfl⟩ | ⟨-, old⟩
    · unfold RoomHub.fetchApprovedAgentIdsForReconcile
      split <;> exact ⟨_, get_set_self _ _ _, rfl⟩
    · exact starts.shared _ _ old

theorem readApproved
    (found : hub.fetches.get id = some fetch) : RoomsSound (hub.readApproved id fetch) := by
  unfold RoomHub.readApproved
  split
  · exact sound
  · refine sound.withFetches (fun _ _ => Or.inl) (forall_set (Or.inr ⟨fun approved same => ?_,
      (sound.fetches id fetch found).owned⟩) fun _ _ => Or.inl) fun _ _ =>
        sound.shared_set fun old again => ?_
    · rw [← Option.some.inj same]
      exact fun agentId member => ⟨Nat.le_refl _, Or.inl member⟩
    · rw [found] at again
      rw [Option.some.inj again]

theorem endFetch
    (found : hub.fetches.get id = some fetch) : RoomsSound (hub.endFetch id fetch) := by
  refine sound.withFetches (fun _ _ => Or.inl) (fun other next place => ?_)
    fun clientId other noted => ?_
  · rw [get_erase] at place
    split at place
    · cases place
    · exact Or.inl place
  · have before : hub.pendingApprovedAgentIdsByClientId.get clientId = some other ∧
        ¬(clientId = fetch.clientId ∧ other = id) := by
      split at noted
      · rw [get_erase] at noted
        split at noted
        · cases noted
        · next differs => exact ⟨noted, fun same => differs same.1⟩
      · next unshared =>
        refine ⟨noted, fun same => unshared ?_⟩
        rw [← same.1, noted, same.2]
    obtain ⟨next, place, client⟩ := sound.shared clientId other before.1
    refine ⟨next, ?_, client⟩
    rw [OrderedMap.get_erase_of_ne _ ?_, place]
    intro same
    rw [same, found] at place
    exact before.2 ⟨by rw [← client, Option.some.inj place], same⟩

theorem settleFetch (found : hub.fetches.get id = some fetch) {approved : ApprovedAgentIds}
    (read : fetch.found = some approved) :
    RoomsSound (hub.settleFetch id fetch approved) := by
  have fetched := sound.fetches id fetch found
  have known := fetched.known approved read
  have ended := sound.endFetch found
  unfold RoomHub.settleFetch
  refine ⟨ended.quiet, ended.sockets, fun clientId other stored => ?_, fun other next place =>
    ⟨(ended.fetches other next place).known, (ended.fetches other next place).owned⟩, ended.shared,
    fun task member => ?_, fun task member => ?_, ended.granted⟩
  · simp only at stored
    split at stored
    · rcases TtlCache.Stored.of_set stored with ⟨rfl, rfl⟩ | before
      · exact known
      · exact sound.cached _ _ before
    · exact sound.cached _ _ stored
  · rcases List.mem_append.mp member with before | new
    · exact ⟨(sound.reconciliations task before).known, (sound.reconciliations task before).owned⟩
    · obtain ⟨waiter, within, rfl⟩ := List.mem_map.mp new
      exact ⟨known, fetched.owned waiter within⟩
  · exact ⟨(sound.joins task member).known, (sound.joins task member).owned,
      (sound.joins task member).paired⟩

theorem withTasks {reconciliations : List Reconciliation}
    {joins : List PendingJoin} {granted fetchingSockets : List Grant}
    (reconciled : ∀ task ∈ reconciliations, task ∈ hub.reconciliations)
    (joined : ∀ task ∈ joins, task ∈ hub.joins ∨ JoinSound hub task)
    (known : ∀ grant ∈ granted ++ fetchingSockets, grant ∈ hub.granted ++ hub.fetchingSockets) :
    RoomsSound { hub with reconciliations, joins, granted, fetchingSockets } :=
  { sound with
    fetches id fetch found :=
      ⟨(sound.fetches id fetch found).known, (sound.fetches id fetch found).owned⟩
    reconciliations task member :=
      have before := sound.reconciliations task (reconciled task member)
      ⟨before.known, before.owned⟩
    joins task member := by
      have before : JoinSound hub task := by
        rcases joined task member with old | new
        · exact sound.joins task old
        · exact new
      exact ⟨before.known, before.owned, before.paired⟩
    granted grant member := sound.granted grant (known grant member) }

theorem roomsToJoin_sound {socket : ConsumerSocket} (found : hub.sockets.get id = some socket)
    (client : socket.clientId = clientId) {approved : ApprovedAgentIds}
    (known : ListKnown hub.ledger clientId approved) :
    JoinSound hub ⟨id, clientId, socket.roomsToJoin clientId approved.agentIds,
      approved.readAt⟩ := by
  subst client
  refine ⟨fun room member => ?_, ⟨socket, found, rfl⟩, ?_⟩
  · exact known _ (agentId_of_listed (List.mem_filter.mp member).1)
  · exact (sound.sockets id socket found).paired.missing

theorem reconcile {task : Reconciliation} (taskSound : ReconciliationSound hub task)
    (fresh : ∀ socket, hub.sockets.get task.socketId = some socket → socket.connected = true →
      socket.roomsToLeave task.clientId task.approved.agentIds = [] →
      ∀ room ∈ socket.roomsToJoin task.clientId task.approved.agentIds,
        hub.ledger.Fresh task.clientId task.approved.readAt room.agentId) :
    RoomsSound (hub.reconcileConsumerClientAgentRoomsForSocket task) := by
  obtain ⟨socket, found, client⟩ := taskSound.owned
  have join := sound.roomsToJoin_sound found client taskSound.known
  have socketSound := sound.sockets _ _ found
  unfold RoomHub.reconcileConsumerClientAgentRoomsForSocket
  simp only [found]
  by_cases connected : socket.connected = true
  · rw [if_pos connected]
    by_cases none : socket.roomsToLeave task.clientId task.approved.agentIds = []
    · rw [if_pos none]
      refine sound.setSocket found (clientId_join _ _)
        (socket_join socketSound (client ▸ join.paired) fun _ room member => ?_)
      rw [client]
      exact (join.known room member).standing (fresh socket found connected none room member)
    · rw [if_neg none]
      have leaves : SocketSound hub.ledger
          (socket.leave (socket.roomsToLeave task.clientId task.approved.agentIds)) := by
        refine ⟨client ▸ socketSound.paired.leave, fun agentId member => ?_⟩
        exact socketSound.standing agentId (List.mem_filter.mp member).1
      have client' : (socket.leave
          (socket.roomsToLeave task.clientId task.approved.agentIds)).clientId =
          socket.clientId := rfl
      have left := sound.setSocket found client' leaves
      exact left.withTasks (fun _ => id) (forall_mem_concat (fun _ => Or.inl)
        (Or.inr ⟨join.known, owned_set found client' join.owned, join.paired⟩)) fun _ => id
  · rw [if_neg connected]
    exact sound

theorem joinRooms {task : PendingJoin} (taskSound : JoinSound hub task)
    (fresh : ∀ socket, hub.sockets.get task.socketId = some socket → socket.connected = true →
      ∀ room ∈ task.rooms, hub.ledger.Fresh task.clientId task.readAt room.agentId) :
    RoomsSound (hub.joinRooms task) := by
  obtain ⟨socket, found, client⟩ := taskSound.owned
  unfold RoomHub.joinRooms
  simp only [found]
  refine sound.setSocket found (clientId_join _ _)
    (socket_join (sound.sockets _ _ found) (client ▸ taskSound.paired) fun connected room member =>
      ?_)
  rw [client]
  exact (taskSound.known room member).standing (fresh socket found connected room member)

theorem socketsFetched {grant : Grant}
    (known : hub.ledger.Known grant.clientId grant.readAt grant.agentId) :
    RoomsSound (hub.socketsFetched grant) := by
  refine sound.withTasks (fun _ => id) (fun task member => ?_) fun _ => id
  rcases List.mem_append.mp member with before | new
  · exact Or.inl before
  · obtain ⟨entry, within, rfl⟩ := List.mem_map.mp new
    obtain ⟨stored, test⟩ := List.mem_filter.mp within
    simp only [Bool.and_eq_true, decide_eq_true_eq] at test
    have found := (OrderedMap.get_eq_some_iff hub.sockets entry.1 entry.2).mpr stored
    have single : ListKnown hub.ledger grant.clientId ⟨[grant.agentId], grant.readAt⟩ := by
      intro agentId listed
      rw [List.mem_singleton.mp listed]
      exact known
    exact Or.inr (sound.roomsToJoin_sound found test.2 single)

theorem withLedger {ledger : AccessLedger} (quiet : ledger.Quiet)
    (known : ∀ {clientId readAt agentId}, hub.ledger.Known clientId readAt agentId →
      ledger.Known clientId readAt agentId)
    (standing : ∀ id socket, hub.sockets.get id = some socket →
      ∀ agentId, .clientAgent socket.clientId agentId ∈ socket.rooms →
        ledger.Standing socket.clientId agentId)
    {granted : List Grant} {revoking : List PendingRevocation}
    (granting : ∀ grant ∈ granted ++ hub.fetchingSockets,
      ledger.Known grant.clientId grant.readAt grant.agentId) :
    RoomsSound { hub with ledger, granted, revoking } where
  quiet := quiet
  sockets id socket found := ⟨(sound.sockets id socket found).paired, standing id socket found⟩
  cached clientId found stored agentId member :=
    known (sound.cached clientId found stored agentId member)
  fetches id fetch found :=
    ⟨fun approved read agentId member =>
        known ((sound.fetches id fetch found).known approved read agentId member),
      (sound.fetches id fetch found).owned⟩
  shared := sound.shared
  reconciliations task member :=
    ⟨fun agentId listed => known ((sound.reconciliations task member).known agentId listed),
      (sound.reconciliations task member).owned⟩
  joins task member :=
    ⟨fun room listed => known ((sound.joins task member).known room listed),
      (sound.joins task member).owned, (sound.joins task member).paired⟩
  granted := granting

theorem approve (clientId agentId : String) :
    RoomsSound { hub with
      ledger := hub.ledger.approve clientId agentId,
      granted := hub.granted ++ [⟨clientId, agentId, hub.ledger.version⟩] } := by
  refine sound.withLedger (sound.quiet.approve _ _) (fun known => known.approve _ _)
    (fun id socket found agent member =>
      ((sound.sockets id socket found).standing agent member).approve _ _) fun grant member => ?_
  rcases List.mem_append.mp member with granted | fetching
  · rcases List.mem_append.mp granted with before | new
    · exact (sound.granted grant (List.mem_append_left _ before)).approve _ _
    · rw [List.mem_singleton.mp new]
      exact ⟨Nat.le_refl _, Or.inl (AccessLedger.mem_approve.mpr (Or.inr ⟨rfl, rfl⟩))⟩
  · exact (sound.granted grant (List.mem_append_right _ fetching)).approve _ _

theorem revoke (clientId agentId : String) (revoking : List PendingRevocation) :
    RoomsSound { hub with ledger := hub.ledger.revoke clientId agentId, revoking } :=
  sound.withLedger (sound.quiet.revoke _ _) (fun known => known.revoke _ _)
    (fun id socket found agent member =>
      ((sound.sockets id socket found).standing agent member).revoke _ _)
    fun grant member => (sound.granted grant member).revoke _ _

theorem invalidate (clientId : String) :
    RoomsSound (hub.invalidateApprovedAgentIdsCache clientId) :=
  sound.withFetches (fun _ _ stored => Or.inl (TtlCache.Stored.of_deleteWhere stored).2)
    (fun _ _ => Or.inl) sound.shared

theorem disconnectRoom (room : Room) :
    RoomsSound (hub.disconnectConsumerSocketsInRoom room) ∧
      ∀ id socket, (hub.disconnectConsumerSocketsInRoom room).sockets.get id = some socket →
        room ∉ socket.rooms := by
  unfold RoomHub.disconnectConsumerSocketsInRoom
  refine ⟨sound.withSockets (fun id clientId owned => ?_) fun id socket place => ?_,
    fun id socket place => ?_⟩
  · obtain ⟨socket, found, client⟩ := owned
    refine ⟨_, by rw [get_mapValues, found]; rfl, ?_⟩
    simp only
    split
    · exact client
    · exact client
  · rw [get_mapValues] at place
    obtain ⟨before, found, rfl⟩ := Option.map_eq_some_iff.mp place
    split
    · exact socket_disconnect _ _
    · exact sound.sockets id before found
  · rw [get_mapValues] at place
    obtain ⟨before, -, rfl⟩ := Option.map_eq_some_iff.mp place
    split
    · exact fun member => nomatch member
    · next absent => exact absent

theorem revokeClientAccess (revocation : PendingRevocation) :
    RoomsSound (hub.revokeClientAccess revocation) := by
  obtain ⟨disconnected, out⟩ :=
    (sound.invalidate revocation.clientId).disconnectRoom
      (.clientAgent revocation.clientId revocation.agentId)
  unfold RoomHub.revokeClientAccess
  refine disconnected.withLedger (disconnected.quiet.complete _ _ _)
    (fun known => known.complete _ _ _) (fun id socket found agentId member => ?_)
    fun grant member => (disconnected.granted grant member).complete _ _ _
  refine ((disconnected.sockets id socket found).standing agentId member).complete _ ?_
  rintro ⟨client, agent⟩
  rw [client, agent] at member
  exact out id socket found member

/-- An action on fresh grants keeps the rooms sound. -/
theorem step (action : RoomAction) (fresh : JoinsFresh hub action) :
    RoomsSound (hub.step action) := by
  cases action with
  | connect socketId clientId =>
    simp only [RoomHub.step]
    split
    · exact sound
    · next free => exact sound.connect (by simpa using free) clientId
  | disconnect socketId =>
    cases found : hub.sockets.get socketId with
    | none => simpa only [RoomHub.step, found] using sound
    | some socket =>
      simp only [RoomHub.step, found]
      have client : socket.disconnect.clientId = socket.clientId := rfl
      exact sound.setSocket found client (socket_disconnect _ _)
  | bootstrap socketId id =>
    cases found : hub.sockets.get socketId with
    | none => simpa only [RoomHub.step, found] using sound
    | some socket =>
      simp only [RoomHub.step, found]
      split
      · exact sound
      · next free =>
        exact sound.backfill found (by simpa [OrderedMap.has] using free)
  | tick clientId id socketIds =>
    simp only [RoomHub.step]
    split
    · exact sound
    · next free =>
      refine sound.fetchApproved (by simpa [OrderedMap.has] using free) fun waiter member => ?_
      have owner := of_decide_eq_true (List.mem_filter.mp member).2
      obtain ⟨socket, found, client⟩ := Option.map_eq_some_iff.mp owner
      exact ⟨socket, found, client⟩
  | read id =>
    cases found : hub.fetches.get id with
    | none => simpa only [RoomHub.step, found] using sound
    | some fetch => simpa only [RoomHub.step, found] using sound.readApproved found
  | settle id =>
    cases found : hub.fetches.get id with
    | none => simpa only [RoomHub.step, found] using sound
    | some fetch =>
      cases read : fetch.found with
      | none => simpa only [RoomHub.step, found, read] using sound.endFetch found
      | some approved =>
        simpa only [RoomHub.step, found, read] using sound.settleFetch found read
  | reconcile position =>
    cases found : hub.reconciliations[position]? with
    | none => simpa only [RoomHub.step, found] using sound
    | some task =>
      simp only [RoomHub.step, found]
      have taken := sound.withTasks
        (fun other (member : other ∈ hub.reconciliations.eraseIdx position) =>
          List.mem_of_mem_eraseIdx member) (fun _ => Or.inl) fun _ => id
      have own := sound.reconciliations task (List.mem_of_getElem? found)
      exact taken.reconcile ⟨own.known, own.owned⟩ (fresh task found)
  | join position =>
    cases found : hub.joins[position]? with
    | none => simpa only [RoomHub.step, found] using sound
    | some task =>
      simp only [RoomHub.step, found]
      have taken := sound.withTasks (fun _ => id)
        (fun other (member : other ∈ hub.joins.eraseIdx position) =>
          Or.inl (List.mem_of_mem_eraseIdx member)) fun _ => id
      have own := sound.joins task (List.mem_of_getElem? found)
      exact taken.joinRooms ⟨own.known, own.owned, own.paired⟩ (fresh task found)
  | approve clientId agentId => exact sound.approve clientId agentId
  | grant position =>
    cases found : hub.granted[position]? with
    | none => simpa only [RoomHub.step, found] using sound
    | some grant =>
      simp only [RoomHub.step, found]
      have taken := sound.withTasks (fun _ => id) (fun _ => Or.inl)
        (fun other (member : other ∈ hub.granted.eraseIdx position ++
            (hub.fetchingSockets ++ [grant])) => ?_)
      · exact taken.invalidate grant.clientId
      · rcases List.mem_append.mp member with stays | fetching
        · exact List.mem_append_left _ (List.mem_of_mem_eraseIdx stays)
        · rcases List.mem_append.mp fetching with before | new
          · exact List.mem_append_right _ before
          · rw [List.mem_singleton.mp new]
            exact List.mem_append_left _ (List.mem_of_getElem? found)
  | socketsFetched position =>
    cases found : hub.fetchingSockets[position]? with
    | none => simpa only [RoomHub.step, found] using sound
    | some grant =>
      simp only [RoomHub.step, found]
      have taken := sound.withTasks (fun _ => id) (fun _ => Or.inl)
        (fun other (member : other ∈ hub.granted ++ hub.fetchingSockets.eraseIdx position) => ?_)
      · exact taken.socketsFetched
          (sound.granted grant (List.mem_append_right _ (List.mem_of_getElem? found)))
      · rcases List.mem_append.mp member with granted | stays
        · exact List.mem_append_left _ granted
        · exact List.mem_append_right _ (List.mem_of_mem_eraseIdx stays)
  | revoke clientId agentId =>
    simp only [RoomHub.step]
    split
    · exact sound.revoke clientId agentId _
    · exact sound
  | revokeClientAccess position =>
    cases found : hub.revoking[position]? with
    | none => simpa only [RoomHub.step, found] using sound
    | some revocation =>
      simp only [RoomHub.step, found]
      have taken : RoomsSound { hub with revoking := hub.revoking.eraseIdx position } :=
        sound.withLedger sound.quiet (fun known => known)
          (fun id socket place => (sound.sockets id socket place).standing) sound.granted
      exact taken.revokeClientAccess revocation
  | wait byMs =>
    exact ⟨sound.quiet, sound.sockets, sound.cached,
      fun id fetch found => ⟨(sound.fetches id fetch found).known,
        (sound.fetches id fetch found).owned⟩, sound.shared,
      fun task member => ⟨(sound.reconciliations task member).known,
        (sound.reconciliations task member).owned⟩,
      fun task member => ⟨(sound.joins task member).known, (sound.joins task member).owned,
        (sound.joins task member).paired⟩, sound.granted⟩

end

end RoomsSound

/-- In every run in which sockets join fresh rooms only, no socket of a client whose access was
revoked is in the rooms of the agent, in every state reached. -/
theorem revoked_clients_stay_out (approved : String → List String) (ttlMs : Nat)
    (actions : List RoomAction)
    (fresh : Meets RoomHub.step JoinsFresh
      { ledger := { approved }, cache := { ttlMs, maxSize := 10000 } } actions) :
    ∀ taken, taken <+: actions → RoomsLawful (run RoomHub.step
      { ledger := { approved }, cache := { ttlMs, maxSize := 10000 } } taken) := by
  intro taken first
  have keeps : ∀ hub action, RoomsSound hub → JoinsFresh hub action →
      RoomsSound (hub.step action) := fun _ action sound fresh => sound.step action fresh
  exact (every_state_of_meets RoomHub.step keeps (RoomsSound.initial approved ttlMs) fresh
    taken first).lawful

/-- A hub in which every client may use one agent; fetched agents are cached for a second. -/
def sampleHub : RoomHub :=
  { ledger := { approved := fun _ => ["a1"] }, cache := { ttlMs := 1000, maxSize := 10000 } }

/-- The rooms are joined, the access is revoked, and the client connects again. -/
def revokedBetweenBootstraps : List RoomAction :=
  [.connect 0 "c1", .bootstrap 0 0, .read 0, .settle 0, .reconcile 0, .revoke "c1" "a1",
    .revokeClientAccess 0, .connect 1 "c1", .bootstrap 1 1, .read 1, .settle 1, .reconcile 0]

/-- No reconciliation is overtaken, so the client is in no room of the agent at the end. -/
theorem revoked_client_stays_out :
    RoomsLawful (run RoomHub.step sampleHub revokedBetweenBootstraps) :=
  revoked_clients_stay_out (fun _ => ["a1"]) 1000 revokedBetweenBootstraps (by decide) _
    (List.prefix_refl _)

/-- The approved agents are read for a bootstrap, and the access is revoked before the rooms are
joined. -/
def revokedDuringBootstrap : List RoomAction :=
  [.connect 0 "c1", .bootstrap 0 0, .read 0, .revoke "c1" "a1", .revokeClientAccess 0, .settle 0,
    .reconcile 0]

/-- The revocation disconnects nobody, and the socket joins the rooms afterwards. -/
theorem revoked_client_joins :
    ¬RoomsLawful (run RoomHub.step sampleHub revokedDuringBootstrap) := by
  intro lawful
  have out := lawful "c1" "a1" 1 (by decide) 0 _ rfl rfl rfl
  exact absurd out.1 (by decide)

end PlugHub.ClientAgentRooms
