import Mathlib.Data.List.Nodup
import PlugHub.Library.Runs

/-!
# The presence record of an agent

One agent, the hub instances it connects to, and the one Redis key that says which hub and socket
serve it. Every hub sends its commands over one connection, so they take effect in the order in
which that hub issued them, and between the commands of different hubs any order is possible. The
key has a time to live; a record whose time is over is as good as absent.

A hub that restarts loses its sessions, the commands it had not sent, and its memory of touches.
-/

namespace PlugHub.Cluster

open Library

/-- The record of an agent. -/
structure PresenceRecord where
  hubInstanceId : String
  /-- The agent's socket there. Ids are fresh: a later socket has a larger number. -/
  socketId : Nat
  connectedAtMs : Nat
  lastSeenAtMs : Nat
deriving DecidableEq

/-- The key in Redis. -/
structure StoredPresence where
  record : PresenceRecord
  expiresAtMs : Nat
  /-- The socket whose registration or heartbeat last set the expiry (for the statements). -/
  renewedBy : Nat
deriving DecidableEq

/-- A command to Redis. -/
inductive PresenceCommand where
  /-- `upsert`, on a registration. -/
  | upsert (record : PresenceRecord)
  /-- `touch`, on a heartbeat of a socket. -/
  | touch (nowMs : Nat) (socketId : Nat)
  /-- `removeIfSocketMatches`, on the disconnect of a socket. -/
  | removeIfSocketMatches (socketId : Nat)
  /-- `resolveRoute`, for a command to an agent that is not registered locally. -/
  | resolveRoute
  /-- `removeIfHubInstanceMatches`, the repair of a stale route, with the socket of the record from
  which the route was read. -/
  | removeIfHubInstanceMatches (hubInstanceId : String) (seen : Nat)
deriving DecidableEq

/-- A session of the agent in the registry of a hub. -/
structure PresenceSession where
  hubInstanceId : String
  socketId : Nat
  /-- When the hub last issued a registration or a heartbeat touch for it. -/
  renewedAtMs : Nat

/-- The hubs, their connections and the key. -/
structure PresenceCluster where
  stored : Option StoredPresence := none
  sessions : List PresenceSession := []
  /-- The commands that each hub has issued and that have not taken effect. -/
  outbox : String → List PresenceCommand := fun _ => []
  lastRedisPresenceTouchMs : String → Option Nat := fun _ => none
  /-- The repairs that are due: the hub that read its own route, and the socket it read. -/
  repairs : List (String × Nat) := []
  nowMs : Nat := 0
  nextSocket : Nat := 0

/-- The configuration. -/
structure PresenceConfig where
  agentHubPresenceTtlMs : Nat
  presenceRedisTouchMinIntervalMs : Nat

/-- The time to live, in whole seconds, as Redis is told. -/
def PresenceConfig.presenceTtlSeconds (config : PresenceConfig) : Nat :=
  max 1 ((config.agentHubPresenceTtlMs + 999) / 1000)

/-- The time to live that Redis gives the key, in milliseconds. -/
def PresenceConfig.keyTtlMs (config : PresenceConfig) : Nat := config.presenceTtlSeconds * 1000

/-- What happens. -/
inductive PresenceAction where
  /-- The agent registers on a hub with a new socket, and replaces a session it had there. -/
  | register (hub : String)
  | heartbeat (hub : String)
  | disconnect (hub : String)
  | restart (hub : String)
  /-- A hub looks for the route of the agent, which is not registered there. -/
  | forward (hub : String)
  | repair (hub : String)
  | effect (hub : String)
  | tick (ms : Nat)

namespace PresenceCluster

/-- The key as Redis answers it: absent once it has expired. -/
def present (cluster : PresenceCluster) : Option StoredPresence :=
  cluster.stored.filter fun stored => cluster.nowMs < stored.expiresAtMs

/-- A hub issues a command. -/
def send (cluster : PresenceCluster) (hub : String) (command : PresenceCommand) :
    PresenceCluster :=
  { cluster with
    outbox := Function.update cluster.outbox hub (cluster.outbox hub ++ [command]) }

/-- The session of the agent at a hub. -/
def sessionAt? (cluster : PresenceCluster) (hub : String) : Option PresenceSession :=
  cluster.sessions.find? (·.hubInstanceId == hub)

/-- The session with a socket is in a registry. -/
def Connected (cluster : PresenceCluster) (socketId : Nat) : Prop :=
  ∃ session ∈ cluster.sessions, session.socketId = socketId

/-- `registerAgentSession`, followed by `syncAgentHubPresenceOnRegister`. -/
def register (cluster : PresenceCluster) (hub : String) : PresenceCluster :=
  let kept := cluster.sessions.filter fun session => session.hubInstanceId != hub
  let session : PresenceSession := ⟨hub, cluster.nextSocket, cluster.nowMs⟩
  let record : PresenceRecord := ⟨hub, cluster.nextSocket, cluster.nowMs, cluster.nowMs⟩
  { cluster with
    sessions := kept ++ [session], nextSocket := cluster.nextSocket + 1 }.send hub (.upsert record)

/-- The sessions after the one with a socket was renewed. -/
def renew (cluster : PresenceCluster) (socketId : Nat) : List PresenceSession :=
  cluster.sessions.map fun session =>
    if session.socketId = socketId then { session with renewedAtMs := cluster.nowMs } else session

/-- `syncAgentHubPresenceOnTouch`, for the heartbeat of a session. -/
def touchFor (config : PresenceConfig) (cluster : PresenceCluster) (hub : String)
    (session : PresenceSession) : PresenceCluster :=
  let recently := match cluster.lastRedisPresenceTouchMs hub with
    | none => false
    | some lastTouchMs =>
      decide (cluster.nowMs - lastTouchMs < config.presenceRedisTouchMinIntervalMs)
  if recently then cluster
  else { cluster with
    lastRedisPresenceTouchMs :=
      Function.update cluster.lastRedisPresenceTouchMs hub (some cluster.nowMs)
    sessions := cluster.renew session.socketId }.send hub (.touch cluster.nowMs session.socketId)

/-- The heartbeat of the agent's socket at a hub. -/
def heartbeat (config : PresenceConfig) (cluster : PresenceCluster) (hub : String) :
    PresenceCluster :=
  match cluster.sessionAt? hub with
  | none => cluster
  | some session => cluster.touchFor config hub session

/-- `removeBySocketId`, followed by `syncAgentHubPresenceOnDisconnect`. -/
def disconnect (cluster : PresenceCluster) (hub : String) : PresenceCluster :=
  match cluster.sessionAt? hub with
  | none => cluster
  | some session =>
    let kept := cluster.sessions.filter fun other => other.hubInstanceId != hub
    let touched := Function.update cluster.lastRedisPresenceTouchMs hub none
    { cluster with sessions := kept, lastRedisPresenceTouchMs := touched }.send hub
      (.removeIfSocketMatches session.socketId)

/-- A hub process is started again. -/
def restart (cluster : PresenceCluster) (hub : String) : PresenceCluster :=
  { cluster with
    sessions := cluster.sessions.filter (·.hubInstanceId != hub)
    outbox := Function.update cluster.outbox hub []
    lastRedisPresenceTouchMs := Function.update cluster.lastRedisPresenceTouchMs hub none
    repairs := cluster.repairs.filter (·.1 != hub) }

/-- `forwardViaPresenceOrPeers`, up to its first await. -/
def forward (cluster : PresenceCluster) (hub : String) : PresenceCluster :=
  match cluster.sessionAt? hub with
  | some _ => cluster
  | none => cluster.send hub .resolveRoute

/-- The repair of a stale route is issued. -/
def repair (cluster : PresenceCluster) (hub : String) : PresenceCluster :=
  match cluster.repairs.find? (·.1 == hub) with
  | none => cluster
  | some due =>
    { cluster with repairs := cluster.repairs.erase due }.send hub
      (.removeIfHubInstanceMatches hub due.2)

/-- What a command of a hub does when it takes effect. -/
def execute (config : PresenceConfig) (cluster : PresenceCluster) (hub : String) :
    PresenceCommand → PresenceCluster
  | .upsert record =>
    { cluster with
      stored := some ⟨record, cluster.nowMs + config.keyTtlMs, record.socketId⟩
      lastRedisPresenceTouchMs :=
        Function.update cluster.lastRedisPresenceTouchMs hub (some cluster.nowMs) }
  | .touch nowMs socketId =>
    match cluster.present with
    | none => cluster
    | some stored =>
      { cluster with
        stored := some ⟨{ stored.record with lastSeenAtMs := nowMs },
          cluster.nowMs + config.keyTtlMs, socketId⟩ }
  | .removeIfSocketMatches socketId =>
    match cluster.present with
    | none => cluster
    | some stored =>
      if stored.record.socketId = socketId then { cluster with stored := none } else cluster
  | .resolveRoute =>
    match cluster.present with
    | none => cluster
    | some stored =>
      if stored.record.hubInstanceId = hub then
        { cluster with repairs := cluster.repairs ++ [(hub, stored.record.socketId)] }
      else cluster
  | .removeIfHubInstanceMatches hubInstanceId _ =>
    match cluster.present with
    | none => cluster
    | some stored =>
      if stored.record.hubInstanceId = hubInstanceId then { cluster with stored := none }
      else cluster

/-- The oldest command of a hub takes effect. -/
def effect (config : PresenceConfig) (cluster : PresenceCluster) (hub : String) :
    PresenceCluster :=
  match cluster.outbox hub with
  | [] => cluster
  | command :: rest =>
    { cluster with outbox := Function.update cluster.outbox hub rest }.execute config hub command

/-- One step. A hub without an id does not start. -/
def step (config : PresenceConfig) (cluster : PresenceCluster) : PresenceAction → PresenceCluster
  | .register hub => if hub = "" then cluster else cluster.register hub
  | .heartbeat hub => cluster.heartbeat config hub
  | .disconnect hub => cluster.disconnect hub
  | .restart hub => cluster.restart hub
  | .forward hub => if hub = "" then cluster else cluster.forward hub
  | .repair hub => cluster.repair hub
  | .effect hub => cluster.effect config hub
  | .tick ms => { cluster with nowMs := cluster.nowMs + ms }

/-! ## What is expected of the record -/

variable (config : PresenceConfig) (cluster : PresenceCluster)

/-- The socket for which a removal was issued: the one that disconnected, or the one whose stale
route is repaired. -/
def removedFor? : PresenceCommand → Option Nat
  | .removeIfSocketMatches socketId => some socketId
  | .removeIfHubInstanceMatches _ seen => some seen
  | _ => none

/-- A removal that takes effect does not delete the record of a newer registration than the one it
was issued for. -/
def SparesNewer : PresenceAction → Prop
  | .effect hub => ∀ command ∈ (cluster.outbox hub).head?, ∀ issuedFor ∈ removedFor? command,
      ∀ stored ∈ cluster.present, (cluster.effect config hub).present = none →
        stored.record.socketId ≤ issuedFor
  | _ => True

/-- The record of a session that is no longer connected was last renewed by that session. -/
def OutlivesNone : Prop :=
  ∀ stored ∈ cluster.present, ¬cluster.Connected stored.record.socketId →
    stored.renewedBy = stored.record.socketId

/-- Once every issued command has taken effect, the agent, if one of its sessions was renewed
within the time to live, has a record that names the hub and the socket of its newest session. -/
def AgentFound : Prop :=
  (∀ hub, cluster.outbox hub = []) →
    ∀ session ∈ cluster.sessions, cluster.nowMs < session.renewedAtMs + config.keyTtlMs →
      ∃ newest ∈ cluster.sessions.getLast?, ∃ stored ∈ cluster.present,
        stored.record.hubInstanceId = newest.hubInstanceId ∧
          stored.record.socketId = newest.socketId

/-- A command takes effect on a key that is its own: an `upsert` on none of a newer registration; a
`touch` on the record of its own session, which is still there if the session is; the repair of a
route on the record from which the route was read, whose session is not connected. -/
def OnItsOwn : PresenceCommand → Prop
  | .upsert record => ∀ stored ∈ cluster.stored, stored.record.socketId ≤ record.socketId
  | .touch _ socketId =>
    (∀ stored ∈ cluster.present, stored.record.socketId = socketId) ∧
      (cluster.Connected socketId → cluster.present.isSome)
  | .removeIfHubInstanceMatches hubInstanceId seen =>
    ∀ stored ∈ cluster.present, stored.record.hubInstanceId = hubInstanceId →
      stored.record.socketId = seen ∧ ¬cluster.Connected stored.record.socketId
  | _ => True

/-- The newest session of the agent does not end at a hub while the agent has another one. -/
def LeavesNoOlder (hub : String) : Prop :=
  ∀ newest ∈ cluster.sessions.getLast?, newest.hubInstanceId = hub → cluster.sessions.length = 1

/-- The step is undisturbed: commands take effect on their own record, and the newest session of
the agent is the last to end. -/
def Undisturbed : PresenceAction → Prop
  | .effect hub => ∀ command ∈ (cluster.outbox hub).head?, cluster.OnItsOwn command
  | .disconnect hub | .restart hub => cluster.LeavesNoOlder hub
  | _ => True

/-! ## The invariant -/

/-- A session is covered by the key until its time to live is over, unless a touch for it is under
way. -/
def Covers (stored : StoredPresence) (session : PresenceSession) : Prop :=
  session.renewedAtMs + config.keyTtlMs ≤ stored.expiresAtMs ∨
    ∃ nowMs, .touch nowMs session.socketId ∈ cluster.outbox session.hubInstanceId

/-- The newest session's registration is under way, or the key names it and covers the sessions. -/
def Served (newest : PresenceSession) : Prop :=
  (∃ record, .upsert record ∈ cluster.outbox newest.hubInstanceId ∧
    record.socketId = newest.socketId) ∨
  ∃ stored ∈ cluster.stored, stored.record.socketId = newest.socketId ∧
    stored.record.hubInstanceId = newest.hubInstanceId ∧
    ∀ session ∈ cluster.sessions, cluster.Covers config stored session

/-- What holds in every undisturbed run. -/
structure Sound : Prop where
  sorted : cluster.sessions.Pairwise (·.socketId < ·.socketId)
  newest : ∀ session ∈ cluster.sessions.getLast?, session.socketId + 1 = cluster.nextSocket
  fresh : ∀ session ∈ cluster.sessions, session.socketId < cluster.nextSocket
  renewed : ∀ session ∈ cluster.sessions, session.renewedAtMs ≤ cluster.nowMs
  removals : ∀ hub socketId, .removeIfSocketMatches socketId ∈ cluster.outbox hub →
    socketId < cluster.nextSocket ∧ ¬cluster.Connected socketId
  upserts : ∀ hub record, .upsert record ∈ cluster.outbox hub →
    record.socketId < cluster.nextSocket ∧ ∀ session ∈ cluster.sessions,
      session.socketId = record.socketId → session.hubInstanceId = record.hubInstanceId
  owner : ∀ stored ∈ cluster.stored, stored.renewedBy = stored.record.socketId
  served : ∀ newest ∈ cluster.sessions.getLast?, cluster.Served config newest

variable {config cluster}

/-- The newest session stays served while the key is as it was and no command for it is lost. -/
theorem Served.keep {next : PresenceCluster} {newest : PresenceSession}
    (served : cluster.Served config newest) (same : next.stored = cluster.stored)
    (earlier : ∀ session ∈ next.sessions, session ∈ cluster.sessions)
    (registers : ∀ record, .upsert record ∈ cluster.outbox newest.hubInstanceId →
      .upsert record ∈ next.outbox newest.hubInstanceId)
    (touches : ∀ session ∈ next.sessions, ∀ nowMs,
      .touch nowMs session.socketId ∈ cluster.outbox session.hubInstanceId →
        .touch nowMs session.socketId ∈ next.outbox session.hubInstanceId) :
    next.Served config newest := by
  rcases served with ⟨record, under, named⟩ | ⟨stored, present, socket, there, covers⟩
  · exact Or.inl ⟨record, registers record under, named⟩
  · refine Or.inr ⟨stored, same ▸ present, socket, there, fun session member => ?_⟩
    rcases covers session (earlier session member) with covered | ⟨nowMs, under⟩
    · exact Or.inl covered
    · exact Or.inr ⟨nowMs, touches session member nowMs under⟩

@[simp] theorem outbox_send (hub other : String) (command : PresenceCommand) :
    (cluster.send hub command).outbox other =
      if other = hub then cluster.outbox hub ++ [command] else cluster.outbox other := by
  simp only [send, Function.update_apply]

variable {hub other : String}

theorem mem_outbox_send {command sent : PresenceCommand} (issued : command ∈ cluster.outbox other) :
    command ∈ (cluster.send hub sent).outbox other := by
  rw [outbox_send]
  split_ifs with same
  · exact List.mem_append_left _ (same ▸ issued)
  · exact issued

theorem mem_outbox_of_send {command sent : PresenceCommand}
    (issued : command ∈ (cluster.send hub sent).outbox other) :
    command ∈ cluster.outbox other ∨ command = sent ∧ other = hub := by
  rw [outbox_send] at issued
  split_ifs at issued with same
  · rcases List.mem_append.mp issued with earlier | last
    · exact Or.inl (same ▸ earlier)
    · exact Or.inr ⟨List.mem_singleton.mp last, same⟩
  · exact Or.inl issued

theorem mem_present {stored : StoredPresence} :
    stored ∈ cluster.present ↔ stored ∈ cluster.stored ∧ cluster.nowMs < stored.expiresAtMs := by
  simp only [present, Option.mem_def, Option.filter_eq_some_iff, decide_eq_true_eq]

theorem sound_initial : Sound config {} where
  sorted := List.Pairwise.nil
  newest := nofun
  fresh := nofun
  renewed := nofun
  removals := nofun
  upserts := nofun
  owner := nofun
  served := nofun

/-! ## Every undisturbed step keeps it -/

theorem Sound.of_eq (sound : cluster.Sound config) {other : PresenceCluster}
    (sessions : other.sessions = cluster.sessions) (outbox : other.outbox = cluster.outbox)
    (stored : other.stored = cluster.stored) (nextSocket : other.nextSocket = cluster.nextSocket)
    (nowMs : other.nowMs = cluster.nowMs) : other.Sound config := by
  cases other
  cases cluster
  simp only at sessions outbox stored nextSocket nowMs
  subst sessions outbox stored nextSocket nowMs
  exact ⟨sound.sorted, sound.newest, sound.fresh, sound.renewed, sound.removals, sound.upserts,
    sound.owner, sound.served⟩

theorem getLast?_filter_of_keeps {sessions : List PresenceSession} {last : PresenceSession}
    {keeps : PresenceSession → Bool} (final : sessions.getLast? = some last)
    (kept : keeps last = true) : (sessions.filter keeps).getLast? = some last := by
  obtain ⟨earlier, rfl⟩ := List.getLast?_eq_some_iff.mp final
  rw [List.filter_append, List.filter_cons_of_pos kept, List.filter_nil, List.getLast?_concat]

theorem getLast?_dropped (leaves : cluster.LeavesNoOlder hub) {newest : PresenceSession}
    (final : (cluster.sessions.filter (·.hubInstanceId != hub)).getLast? = some newest) :
    cluster.sessions.getLast? = some newest := by
  cases last : cluster.sessions.getLast? with
  | none =>
    rw [List.getLast?_eq_none_iff.mp last] at final
    exact final
  | some session =>
    by_cases there : session.hubInstanceId = hub
    · have one := leaves session last there
      obtain ⟨only, single⟩ := List.length_eq_one_iff.mp one
      rw [single] at last final
      have same : only = session := by simpa using last
      rw [same, List.filter_cons_of_neg (by simp [there]), List.filter_nil] at final
      cases final
    · rw [getLast?_filter_of_keeps last (by simpa using there)] at final
      exact final

theorem Sound.dropped (sound : cluster.Sound config) {hub : String}
    (leaves : cluster.LeavesNoOlder hub) :
    ({ cluster with
        sessions := cluster.sessions.filter (·.hubInstanceId != hub) } : PresenceCluster).Sound
      config where
  sorted := sound.sorted.filter _
  newest session final := sound.newest session (getLast?_dropped leaves final)
  fresh session member := sound.fresh session ((List.mem_filter.mp member).1)
  renewed session member := sound.renewed session ((List.mem_filter.mp member).1)
  removals other socketId issued := by
    obtain ⟨before, gone⟩ := sound.removals other socketId issued
    exact ⟨before, fun ⟨session, member, same⟩ =>
      gone ⟨session, (List.mem_filter.mp member).1, same⟩⟩
  upserts other record issued := by
    obtain ⟨before, named⟩ := sound.upserts other record issued
    exact ⟨before, fun session member => named session ((List.mem_filter.mp member).1)⟩
  owner := sound.owner
  served newest final := (sound.served newest (getLast?_dropped leaves final)).keep rfl
    (fun _ member => (List.mem_filter.mp member).1) (fun _ => id) fun _ _ _ => id

theorem Sound.send (sound : cluster.Sound config) (hub : String) (command : PresenceCommand)
    (removal : ∀ socketId, command = .removeIfSocketMatches socketId →
      socketId < cluster.nextSocket ∧ ¬cluster.Connected socketId)
    (registers : ∀ record, command ≠ .upsert record) :
    (cluster.send hub command).Sound config :=
  { sound with
    removals other socketId issued := by
      rcases mem_outbox_of_send issued with earlier | ⟨last, -⟩
      · exact sound.removals other socketId earlier
      · exact removal socketId last.symm
    upserts other record issued := by
      rcases mem_outbox_of_send issued with earlier | ⟨last, -⟩
      · exact sound.upserts other record earlier
      · exact absurd last.symm (registers record)
    served newest final := (sound.served newest final).keep rfl (fun _ => id)
      (fun _ => mem_outbox_send) fun _ _ _ => mem_outbox_send }

theorem Sound.register (sound : cluster.Sound config) (hub : String) :
    (cluster.register hub).Sound config := by
  have older : ∀ session ∈ cluster.sessions.filter (·.hubInstanceId != hub),
      session.socketId < cluster.nextSocket :=
    fun session member => sound.fresh session ((List.mem_filter.mp member).1)
  have last : (cluster.register hub).sessions.getLast? =
      some ⟨hub, cluster.nextSocket, cluster.nowMs⟩ := List.getLast?_concat
  have either {session : PresenceSession} (member : session ∈ (cluster.register hub).sessions) :
      session ∈ cluster.sessions ∨ session = ⟨hub, cluster.nextSocket, cluster.nowMs⟩ :=
    (List.mem_append.mp member).imp (fun kept => (List.mem_filter.mp kept).1) List.mem_singleton.mp
  refine ⟨?_, ?_, ?_, ?_, ?_, ?_, sound.owner, ?_⟩
  · refine List.pairwise_append.mpr ⟨sound.sorted.filter _, List.pairwise_singleton _ _, ?_⟩
    intro session member new same
    rw [List.mem_singleton.mp same]
    exact older session member
  · intro session final
    rw [last] at final
    cases final
    rfl
  · intro session member
    rcases either member with earlier | rfl
    · exact Nat.lt_succ_of_lt (sound.fresh session earlier)
    · exact Nat.lt_succ_self _
  · intro session member
    rcases either member with earlier | rfl
    · exact sound.renewed session earlier
    · exact Nat.le_refl _
  · intro other socketId issued
    rcases mem_outbox_of_send issued with earlier | ⟨sent, -⟩
    · obtain ⟨before, gone⟩ := sound.removals other socketId earlier
      refine ⟨Nat.lt_succ_of_lt before, fun ⟨session, member, same⟩ => ?_⟩
      rcases either member with earlier | rfl
      · exact gone ⟨session, earlier, same⟩
      · exact absurd same (Nat.ne_of_gt before)
    · cases sent
  · intro other record issued
    rcases mem_outbox_of_send issued with earlier | ⟨sent, -⟩
    · obtain ⟨before, named⟩ := sound.upserts other record earlier
      refine ⟨Nat.lt_succ_of_lt before, fun session member same => ?_⟩
      rcases either member with earlier | rfl
      · exact named session earlier same
      · exact absurd same (Nat.ne_of_gt before)
    · cases sent
      refine ⟨Nat.lt_succ_self _, fun session member same => ?_⟩
      rcases either member with earlier | rfl
      · exact absurd same (Nat.ne_of_lt (sound.fresh session earlier))
      · rfl
  · intro newest final
    rw [last] at final
    cases final
    refine Or.inl ⟨⟨hub, cluster.nextSocket, cluster.nowMs, cluster.nowMs⟩, ?_, rfl⟩
    simp only [PresenceCluster.register, outbox_send, if_true]
    exact List.mem_append_right _ (List.mem_singleton_self _)

variable {session : PresenceSession}

theorem sessionAt?_spec (found : cluster.sessionAt? hub = some session) :
    session ∈ cluster.sessions ∧ session.hubInstanceId = hub :=
  ⟨List.mem_of_find?_eq_some found, by simpa using List.find?_some found⟩

theorem Sound.socket_inj (sound : cluster.Sound config) {left right : PresenceSession}
    (first : left ∈ cluster.sessions) (second : right ∈ cluster.sessions)
    (same : left.socketId = right.socketId) : left = right := by
  have distinct : (cluster.sessions.map (·.socketId)).Nodup :=
    List.pairwise_map.mpr (sound.sorted.imp fun before => Nat.ne_of_lt before)
  exact List.inj_on_of_nodup_map distinct first second same

theorem Sound.disconnect (sound : cluster.Sound config) {hub : String}
    (leaves : cluster.LeavesNoOlder hub) : (cluster.disconnect hub).Sound config := by
  unfold PresenceCluster.disconnect
  cases found : cluster.sessionAt? hub with
  | none => exact sound
  | some session =>
    obtain ⟨member, there⟩ := sessionAt?_spec found
    have ended := (sound.dropped leaves).send hub
      (.removeIfSocketMatches session.socketId) (by
        rintro socketId ⟨⟩
        refine ⟨sound.fresh session member, fun ⟨other, kept, same⟩ => ?_⟩
        obtain ⟨earlier, elsewhere⟩ := List.mem_filter.mp kept
        rw [sound.socket_inj earlier member same, there] at elsewhere
        simp at elsewhere) nofun
    exact ended.of_eq rfl rfl rfl rfl rfl

theorem Sound.restart (sound : cluster.Sound config) {hub : String}
    (leaves : cluster.LeavesNoOlder hub) : (cluster.restart hub).Sound config := by
  have dropped := sound.dropped leaves
  have issued {other : String} {command : PresenceCommand}
      (left : command ∈ (cluster.restart hub).outbox other) : command ∈ cluster.outbox other := by
    simp only [PresenceCluster.restart, Function.update_apply] at left
    split_ifs at left with same
    · cases left
    · exact left
  have kept {session : PresenceSession} {command : PresenceCommand}
      (member : session ∈ (cluster.restart hub).sessions)
      (under : command ∈ cluster.outbox session.hubInstanceId) :
      command ∈ (cluster.restart hub).outbox session.hubInstanceId := by
    have elsewhere : session.hubInstanceId ≠ hub := by simpa using (List.mem_filter.mp member).2
    simp only [PresenceCluster.restart, Function.update_apply, if_neg elsewhere]
    exact under
  refine ⟨dropped.sorted, dropped.newest, dropped.fresh, dropped.renewed, ?_, ?_, dropped.owner, ?_⟩
  · exact fun other socketId left => dropped.removals other socketId (issued left)
  · exact fun other record left => dropped.upserts other record (issued left)
  · intro newest final
    have member := List.mem_of_getLast? final
    exact (dropped.served newest final).keep rfl (fun _ => id) (fun _ => kept member)
      fun _ member _ => kept member

theorem mem_renew {socketId : Nat} (member : session ∈ cluster.renew socketId) :
    ∃ before ∈ cluster.sessions, session.socketId = before.socketId ∧
      session.hubInstanceId = before.hubInstanceId ∧
      (before.socketId = socketId ∧ session.renewedAtMs = cluster.nowMs ∨ session = before) := by
  obtain ⟨before, earlier, rfl⟩ := List.mem_map.mp member
  refine ⟨before, earlier, ?_⟩
  split_ifs with same
  · exact ⟨rfl, rfl, Or.inl ⟨same, rfl⟩⟩
  · exact ⟨rfl, rfl, Or.inr rfl⟩

theorem getLast?_renew {socketId : Nat} (final : (cluster.renew socketId).getLast? = some session) :
    ∃ before, cluster.sessions.getLast? = some before ∧ session.socketId = before.socketId ∧
      session.hubInstanceId = before.hubInstanceId := by
  unfold renew at final
  rw [List.getLast?_map] at final
  obtain ⟨before, last, rfl⟩ := Option.map_eq_some_iff.mp final
  refine ⟨before, last, ?_⟩
  split_ifs <;> exact ⟨rfl, rfl⟩

theorem Sound.touchFor (sound : cluster.Sound config) {hub : String}
    (member : session ∈ cluster.sessions) (there : session.hubInstanceId = hub) :
    (cluster.touchFor config hub session).Sound config := by
  unfold PresenceCluster.touchFor
  simp only
  generalize (match cluster.lastRedisPresenceTouchMs hub with
    | none => false
    | some lastTouchMs =>
      decide (cluster.nowMs - lastTouchMs < config.presenceRedisTouchMinIntervalMs)) = recently
  cases recently with
  | true => exact sound
  | false =>
    have sent := sound.send hub (.touch cluster.nowMs session.socketId) nofun nofun
    have gone {socketId : Nat} (absent : ¬cluster.Connected socketId) :
        ¬∃ other ∈ cluster.renew session.socketId, other.socketId = socketId := by
      rintro ⟨other, renewed, same⟩
      obtain ⟨before, earlier, socket, -⟩ := mem_renew renewed
      exact absent ⟨before, earlier, socket ▸ same⟩
    have touched : (PresenceCommand.touch cluster.nowMs session.socketId) ∈
        (cluster.send hub (.touch cluster.nowMs session.socketId)).outbox hub := by
      rw [outbox_send, if_pos rfl]
      exact List.mem_append_right _ (List.mem_singleton_self _)
    simp only [Bool.false_eq_true, if_false]
    refine ⟨?_, ?_, ?_, ?_, ?_, ?_, sound.owner, ?_⟩
    · refine List.pairwise_map.mpr (sound.sorted.imp fun {a b} before => ?_)
      split_ifs <;> exact before
    · intro last final
      obtain ⟨before, final, socket, -⟩ := getLast?_renew final
      rw [socket]
      exact sound.newest before final
    · intro other renewed
      obtain ⟨before, earlier, socket, -⟩ := mem_renew renewed
      rw [socket]
      exact sound.fresh before earlier
    · intro other renewed
      obtain ⟨before, earlier, -, -, now | rfl⟩ := mem_renew renewed
      · exact Nat.le_of_eq now.2
      · exact sound.renewed other earlier
    · intro other socketId issued
      obtain ⟨before, absent⟩ := sent.removals other socketId issued
      exact ⟨before, gone absent⟩
    · intro other record issued
      obtain ⟨before, named⟩ := sent.upserts other record issued
      refine ⟨before, fun session renewed same => ?_⟩
      obtain ⟨earlier, known, socket, hubs, -⟩ := mem_renew renewed
      rw [hubs]
      exact named earlier known (socket ▸ same)
    · intro newest final
      obtain ⟨last, final, socket, hubs⟩ := getLast?_renew final
      rcases sent.served last final with ⟨record, under, named⟩ | stored
      · exact Or.inl ⟨record, hubs ▸ under, socket ▸ named⟩
      · obtain ⟨stored, present, names, place, covers⟩ := stored
        refine Or.inr ⟨stored, present, socket ▸ names, hubs ▸ place, fun other renewed => ?_⟩
        obtain ⟨before, earlier, socket, hubs, now | rfl⟩ := mem_renew renewed
        · have self := sound.socket_inj earlier member now.1
          refine Or.inr ⟨cluster.nowMs, ?_⟩
          rw [socket, now.1, hubs, self, there]
          exact touched
        · exact covers other earlier

theorem execute_frame (config : PresenceConfig) (cluster : PresenceCluster) (hub : String)
    (command : PresenceCommand) :
    (cluster.execute config hub command).sessions = cluster.sessions ∧
      (cluster.execute config hub command).outbox = cluster.outbox ∧
      (cluster.execute config hub command).nextSocket = cluster.nextSocket ∧
      (cluster.execute config hub command).nowMs = cluster.nowMs := by
  cases command with
  | upsert record => exact ⟨rfl, rfl, rfl, rfl⟩
  | touch nowMs socketId =>
    simp only [execute]
    split <;> exact ⟨rfl, rfl, rfl, rfl⟩
  | removeIfSocketMatches socketId | resolveRoute
  | removeIfHubInstanceMatches hubInstanceId seen =>
    simp only [execute]
    split
    · exact ⟨rfl, rfl, rfl, rfl⟩
    · split_ifs <;> exact ⟨rfl, rfl, rfl, rfl⟩

/-- The hub's connection after its oldest command was taken from it. -/
def taken (cluster : PresenceCluster) (hub : String) (rest : List PresenceCommand) :
    PresenceCluster :=
  { cluster with outbox := Function.update cluster.outbox hub rest }

variable {rest : List PresenceCommand}

theorem effect_eq {command : PresenceCommand} (issued : cluster.outbox hub = command :: rest) :
    cluster.effect config hub = (cluster.taken hub rest).execute config hub command := by
  simp only [effect, issued, taken]

theorem mem_of_taken {command next : PresenceCommand}
    (issued : cluster.outbox hub = command :: rest)
    (left : next ∈ (cluster.taken hub rest).outbox other) : next ∈ cluster.outbox other := by
  simp only [taken, Function.update_apply] at left
  split_ifs at left with same
  · rw [same, issued]
    exact List.mem_cons_of_mem _ left
  · exact left

theorem mem_taken {command next : PresenceCommand} (issued : cluster.outbox hub = command :: rest)
    (before : next ∈ cluster.outbox other) (differs : next ≠ command) :
    next ∈ (cluster.taken hub rest).outbox other := by
  simp only [taken, Function.update_apply]
  split_ifs with same
  · rw [same, issued] at before
    exact (List.mem_cons.mp before).resolve_left differs
  · exact before

section

variable (sound : cluster.Sound config)

include sound

variable {command : PresenceCommand}

variable {rest : List PresenceCommand} {newest : PresenceSession}

theorem Sound.served_taken {hub : String}
    (issued : cluster.outbox hub = command :: rest) (registers : ∀ record, command ≠ .upsert record)
    (touches : ∀ nowMs socketId, command = .touch nowMs socketId → ¬cluster.Connected socketId)
    (final : cluster.sessions.getLast? = some newest) :
    (cluster.taken hub rest).Served config newest :=
  (sound.served newest final).keep rfl (fun _ => id)
    (fun record under => mem_taken issued under (registers record).symm)
    fun session member nowMs under => mem_taken issued under fun same =>
      touches nowMs session.socketId same.symm ⟨session, member, rfl⟩

theorem Sound.served_now {next : PresenceCluster}
    {stored : StoredPresence} (present : next.stored = some stored)
    (sessions : next.sessions = cluster.sessions) (names : stored.record.socketId = newest.socketId)
    (there : stored.record.hubInstanceId = newest.hubInstanceId)
    (renewed : stored.expiresAtMs = cluster.nowMs + config.keyTtlMs) :
    next.Served config newest := by
  refine Or.inr ⟨stored, present, names, there, fun session member => Or.inl ?_⟩
  rw [renewed]
  exact Nat.add_le_add_right (sound.renewed session (sessions ▸ member)) _

theorem Sound.served_removed {hub : String}
    (issued : cluster.outbox hub = command :: rest) (registers : ∀ record, command ≠ .upsert record)
    {stored : StoredPresence} (present : stored ∈ cluster.present)
    (gone : ¬cluster.Connected stored.record.socketId)
    (final : cluster.sessions.getLast? = some newest) :
    ({ cluster.taken hub rest with stored := none } : PresenceCluster).Served config newest := by
  rcases sound.served newest final with ⟨record, under, named⟩ | ⟨other, kept, socket, -⟩
  · exact Or.inl ⟨record, mem_taken issued under (registers record).symm, named⟩
  · have same := (mem_present.mp present).1
    rw [kept] at same
    cases same
    exact absurd ⟨newest, List.mem_of_getLast? final, socket.symm⟩ gone

/-- The newest session stays served when a command takes effect that is on its own record. -/
theorem Sound.served_after {hub : String}
    (issued : cluster.outbox hub = command :: rest) (own : cluster.OnItsOwn command)
    (final : cluster.sessions.getLast? = some newest) :
    ((cluster.taken hub rest).execute config hub command).Served config newest := by
  have member := List.mem_of_getLast? final
  have head : command ∈ cluster.outbox hub := issued ▸ List.mem_cons_self
  cases command with
  | upsert record =>
    obtain ⟨before, named⟩ := sound.upserts hub record head
    by_cases same : newest.socketId = record.socketId
    · have stored : ((cluster.taken hub rest).execute config hub (.upsert record)).stored =
          some ⟨record, cluster.nowMs + config.keyTtlMs, record.socketId⟩ := rfl
      exact sound.served_now stored rfl same.symm (named newest member same).symm rfl
    · rcases sound.served newest final with ⟨other, under, names⟩ | ⟨stored, kept, socket, -⟩
      · refine Or.inl ⟨other, mem_taken issued under ?_, names⟩
        rintro ⟨⟩
        exact same names.symm
      · have older := own stored kept
        have last := sound.newest newest final
        omega
  | touch nowMs socketId =>
    cases present : cluster.present with
    | none =>
      have absent : ¬cluster.Connected socketId := fun connected => by
        have there := own.2 connected
        rw [present] at there
        cases there
      have idle : (cluster.taken hub rest).execute config hub (.touch nowMs socketId) =
          cluster.taken hub rest := by
        have same : (cluster.taken hub rest).present = none := present
        simp only [execute, same]
      rw [idle]
      refine sound.served_taken issued nofun ?_ final
      rintro _ _ ⟨⟩
      exact absent
    | some stored =>
      have renewed : (cluster.taken hub rest).execute config hub (.touch nowMs socketId) =
          { cluster.taken hub rest with
            stored := some ⟨{ stored.record with lastSeenAtMs := nowMs },
              cluster.nowMs + config.keyTtlMs, socketId⟩ } := by
        have same : (cluster.taken hub rest).present = some stored := present
        simp only [execute, same]
        rfl
      rw [renewed]
      rcases sound.served newest final with ⟨other, under, names⟩ | ⟨kept, there, socket, place, -⟩
      · exact Or.inl ⟨other, mem_taken issued under nofun, names⟩
      · have same := (mem_present.mp present).1
        rw [there] at same
        cases same
        have touched : ({ cluster.taken hub rest with
            stored := some ⟨{ stored.record with lastSeenAtMs := nowMs },
              cluster.nowMs + config.keyTtlMs, socketId⟩ } : PresenceCluster).stored =
            some ⟨{ stored.record with lastSeenAtMs := nowMs },
              cluster.nowMs + config.keyTtlMs, socketId⟩ := rfl
        exact sound.served_now touched rfl socket place rfl
  | removeIfSocketMatches socketId =>
    have gone := (sound.removals hub socketId head).2
    have idle := sound.served_taken issued nofun nofun final
    cases present : cluster.present with
    | none =>
      have same : (cluster.taken hub rest).present = none := present
      simp only [execute, same]
      exact idle
    | some stored =>
      have same : (cluster.taken hub rest).present = some stored := present
      simp only [execute, same]
      split_ifs with agrees
      · exact sound.served_removed issued nofun present (agrees ▸ gone) final
      · exact idle
  | resolveRoute =>
    have idle := sound.served_taken issued nofun nofun final
    simp only [execute]
    split
    · exact idle
    · split_ifs <;> exact idle
  | removeIfHubInstanceMatches hubInstanceId seen =>
    have idle := sound.served_taken issued nofun nofun final
    cases present : cluster.present with
    | none =>
      have same : (cluster.taken hub rest).present = none := present
      simp only [execute, same]
      exact idle
    | some stored =>
      have same : (cluster.taken hub rest).present = some stored := present
      simp only [execute, same]
      split_ifs with agrees
      · exact sound.served_removed issued nofun present (own stored present agrees).2 final
      · exact idle

/-- The key names the session that renewed it after a command took effect on its own record. -/
theorem Sound.owner_after {hub : String} (rest : List PresenceCommand)
    (own : cluster.OnItsOwn command) :
    ∀ stored ∈ ((cluster.taken hub rest).execute config hub command).stored,
      stored.renewedBy = stored.record.socketId := by
  intro stored kept
  cases command with
  | upsert record =>
    cases kept
    rfl
  | touch nowMs socketId =>
    simp only [execute] at kept
    split at kept
    · exact sound.owner stored kept
    · next earlier present =>
      cases kept
      exact (own.1 earlier present).symm
  | removeIfSocketMatches socketId =>
    simp only [execute] at kept
    split at kept
    · exact sound.owner stored kept
    · split_ifs at kept
      · cases kept
      · exact sound.owner stored kept
  | resolveRoute =>
    simp only [execute] at kept
    split at kept
    · exact sound.owner stored kept
    · split_ifs at kept <;> exact sound.owner stored kept
  | removeIfHubInstanceMatches hubInstanceId seen =>
    simp only [execute] at kept
    split at kept
    · exact sound.owner stored kept
    · split_ifs at kept
      · cases kept
      · exact sound.owner stored kept

theorem Sound.effect {hub : String}
    (own : ∀ command ∈ (cluster.outbox hub).head?, cluster.OnItsOwn command) :
    (cluster.effect config hub).Sound config := by
  cases issued : cluster.outbox hub with
  | nil =>
    simp only [PresenceCluster.effect, issued]
    exact sound
  | cons command rest =>
    have self : cluster.OnItsOwn command := own command (by rw [issued]; rfl)
    rw [effect_eq issued]
    obtain ⟨sessions, outbox, nextSocket, nowMs⟩ := execute_frame config (cluster.taken hub rest)
      hub command
    have gone {socketId : Nat} (absent : ¬cluster.Connected socketId) :
        ¬((cluster.taken hub rest).execute config hub command).Connected socketId := by
      unfold Connected
      rw [sessions]
      exact absent
    refine ⟨?_, ?_, ?_, ?_, ?_, ?_, sound.owner_after rest self, ?_⟩
    · rw [sessions]
      exact sound.sorted
    · rw [sessions, nextSocket]
      exact sound.newest
    · rw [sessions, nextSocket]
      exact sound.fresh
    · rw [sessions, nowMs]
      exact sound.renewed
    · intro other socketId left
      rw [outbox] at left
      rw [nextSocket]
      obtain ⟨before, absent⟩ := sound.removals other socketId (mem_of_taken issued left)
      exact ⟨before, gone absent⟩
    · intro other record left
      rw [outbox] at left
      rw [nextSocket, sessions]
      exact sound.upserts other record (mem_of_taken issued left)
    · rw [sessions]
      exact fun newest final => sound.served_after issued self final

/-- An undisturbed action keeps the presence sound. -/
theorem Sound.step {action : PresenceAction}
    (undisturbed : cluster.Undisturbed action) : (cluster.step config action).Sound config := by
  cases action with
  | register hub =>
    simp only [PresenceCluster.step]
    split_ifs
    · exact sound
    · exact sound.register hub
  | heartbeat hub =>
    simp only [PresenceCluster.step, PresenceCluster.heartbeat]
    cases found : cluster.sessionAt? hub with
    | none => exact sound
    | some session =>
      obtain ⟨member, there⟩ := sessionAt?_spec found
      exact sound.touchFor member there
  | disconnect hub => exact sound.disconnect undisturbed
  | restart hub => exact sound.restart undisturbed
  | forward hub =>
    simp only [PresenceCluster.step, forward]
    split_ifs
    · exact sound
    · split
      · exact sound
      · exact sound.send hub _ nofun nofun
  | repair hub =>
    simp only [PresenceCluster.step, repair]
    split
    · exact sound
    · exact (sound.send hub (.removeIfHubInstanceMatches hub _) nofun nofun).of_eq
        rfl rfl rfl rfl rfl
  | effect hub => exact sound.effect undisturbed
  | tick ms =>
    refine ⟨sound.sorted, sound.newest, sound.fresh, ?_, sound.removals, sound.upserts,
      sound.owner, sound.served⟩
    exact fun session member => Nat.le_trans (sound.renewed session member) (Nat.le_add_right _ _)

/-! ## What the invariant gives -/

theorem Sound.outlivesNone : cluster.OutlivesNone :=
  fun stored present _ => sound.owner stored (mem_present.mp present).1

theorem Sound.agentFound : cluster.AgentFound config := by
  intro quiet session member renewed
  cases last : cluster.sessions.getLast? with
  | none =>
    rw [List.getLast?_eq_none_iff.mp last] at member
    cases member
  | some newest =>
    refine ⟨newest, rfl, ?_⟩
    rcases sound.served newest last with ⟨record, under, -⟩ | ⟨stored, kept, socket, there, covers⟩
    · rw [quiet] at under
      cases under
    · refine ⟨stored, mem_present.mpr ⟨kept, ?_⟩, there, socket⟩
      rcases covers session member with covered | ⟨nowMs, under⟩
      · exact Nat.lt_of_lt_of_le renewed covered
      · rw [quiet] at under
        cases under

end

theorem sparesNewer_of_undisturbed {action : PresenceAction}
    (undisturbed : cluster.Undisturbed action) : cluster.SparesNewer config action := by
  cases action with
  | effect hub =>
    intro command oldest issuedFor names stored present removed
    cases issued : cluster.outbox hub with
    | nil =>
      rw [issued] at oldest
      cases oldest
    | cons head rest =>
      have self := undisturbed command oldest
      rw [issued] at oldest
      cases oldest
      have same : (cluster.taken hub rest).present = some stored := present
      rw [effect_eq issued] at removed
      cases command with
      | removeIfSocketMatches socketId =>
        cases names
        simp only [execute, same] at removed
        split_ifs at removed with agrees
        · exact Nat.le_of_eq agrees
        · rw [same] at removed
          cases removed
      | removeIfHubInstanceMatches hubInstanceId seen =>
        cases names
        simp only [execute, same] at removed
        split_ifs at removed with agrees
        · exact Nat.le_of_eq (self stored present agrees).1
        · rw [same] at removed
          cases removed
      | upsert record => cases names
      | touch nowMs socketId => cases names
      | resolveRoute => cases names
  | _ => trivial

end PresenceCluster

open PresenceCluster

/-- In every run whose steps are undisturbed, no removal deletes the record of a newer
registration, no touch makes the record of a session outlive it, and a connected agent is found
once every issued command has taken effect. -/
theorem presence_safe_when_undisturbed (config : PresenceConfig) (actions : List PresenceAction)
    (undisturbed : Meets (PresenceCluster.step config) Undisturbed {} actions) :
    (∀ taken action, taken ++ [action] <+: actions →
      (run (PresenceCluster.step config) {} taken).SparesNewer config action) ∧
    ∀ taken, taken <+: actions →
      (run (PresenceCluster.step config) {} taken).OutlivesNone ∧
        (run (PresenceCluster.step config) {} taken).AgentFound config := by
  constructor
  · intro taken action first
    have met : (run (PresenceCluster.step config) {} taken).Undisturbed action :=
      undisturbed.at_step _ first
    exact sparesNewer_of_undisturbed met
  · intro taken first
    have keeps : ∀ (cluster : PresenceCluster) (action : PresenceAction),
        cluster.Sound config → cluster.Undisturbed action →
          (cluster.step config action).Sound config :=
      fun _ _ sound met => sound.step met
    have sound : (run (PresenceCluster.step config) {} taken).Sound config :=
      every_state_of_meets _ keeps sound_initial undisturbed taken first
    exact ⟨sound.outlivesNone, sound.agentFound⟩

set_option maxRecDepth 4000 in
/-- An agent that moves from one hub to another while its old hub still has commands to send. -/
theorem moved_agent_found :
    (∀ taken action, taken ++ [action] <+: [.register "a", .effect "a", .register "b", .effect "b",
      .disconnect "a", .effect "a", .tick 40000, .heartbeat "b", .effect "b"] →
      (run (PresenceCluster.step ⟨90000, 30000⟩) {} taken).SparesNewer ⟨90000, 30000⟩ action) ∧
    ∀ taken, taken <+: [.register "a", .effect "a", .register "b", .effect "b",
      .disconnect "a", .effect "a", .tick 40000, .heartbeat "b", .effect "b"] →
      (run (PresenceCluster.step ⟨90000, 30000⟩) {} taken).OutlivesNone ∧
        (run (PresenceCluster.step ⟨90000, 30000⟩) {} taken).AgentFound ⟨90000, 30000⟩ := by
  refine presence_safe_when_undisturbed ⟨90000, 30000⟩ _ ?_
  refine ⟨trivial, ?_, trivial, ?_, ?_, ?_, trivial, trivial, ?_, trivial⟩
  · rintro _ ⟨⟩ _ ⟨⟩
  · rintro _ ⟨⟩ _ ⟨⟩
    decide
  · rintro _ ⟨⟩ there
    exact absurd there (by decide)
  · rintro _ ⟨⟩
    trivial
  · rintro _ ⟨⟩
    exact ⟨by decide, fun _ => by decide⟩

set_option maxRecDepth 4000 in
/-- A hub starts again and looks for the route of the agent; the agent registers there before the
answer comes, and the repair of the stale route deletes the new record. -/
theorem repair_deletes_newer :
    ¬∀ (config : PresenceConfig) (actions : List PresenceAction),
      (∀ taken action, taken ++ [action] <+: actions →
        (run (PresenceCluster.step config) {} taken).SparesNewer config action) ∧
      ∀ taken, taken <+: actions →
        (run (PresenceCluster.step config) {} taken).OutlivesNone ∧
          (run (PresenceCluster.step config) {} taken).AgentFound config := by
  intro every
  have spares := (every ⟨90000, 30000⟩ [.register "a", .effect "a", .restart "a", .forward "a",
    .register "a", .effect "a", .repair "a", .effect "a", .effect "a"]).1
    [.register "a", .effect "a", .restart "a", .forward "a", .register "a", .effect "a",
      .repair "a", .effect "a"] (.effect "a") (List.prefix_refl _)
  exact absurd (spares (.removeIfHubInstanceMatches "a" 0) (by decide) 0 rfl
    ⟨⟨"a", 1, 0, 0⟩, 90000, 1⟩ (by decide) (by decide)) (by decide)

end PlugHub.Cluster
