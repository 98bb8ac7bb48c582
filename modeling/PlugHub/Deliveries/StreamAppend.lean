import PlugHub.Library.OrderedMap

/-!
# Appending events to the streams of their recipients

`appendAgentEventFramesBatch` appends the frames of a fan-out. The entries whose principal is not in
the allowlist are left out, the others are appended in transactions of at most five hundred entries,
each with an `XADD` and, when streams expire, a `PEXPIRE`. The replies of a transaction are found
again by their positions.

The client of Redis is a parameter: what it answers for a transaction are the replies to its
commands, one for each and in their order, or it fails. What an append came to is the reply that
stands beside its own command.
-/

namespace PlugHub.StreamAppend

open Library

/-! ## Entries and commands -/

/-- `AgentEventStreamFrame`. -/
structure AgentEventStreamFrame where
  eventId : String
  eventName : String
  emittedAt : String
  payload : String
deriving DecidableEq

/-- `AgentEventStreamBatchEntry`. -/
structure BatchEntry where
  principalId : String
  frame : AgentEventStreamFrame

/-- Settings of the streams. -/
structure StreamConfig where
  /-- `agentEventStreamAgentAllowlist`; everybody is in an empty one. -/
  allowlist : List String
  /-- `agentEventStreamTtlMs`; zero is no expiry. -/
  ttlMs : Nat
  /-- `agentEventStreamMaxLen`. -/
  maxLen : Nat
  /-- `eventNameHash`. -/
  eventNameHash : String → String
  /-- `redisKeyNamespace`. -/
  keyNamespace : String
  /-- `sanitizePrincipalId`. -/
  sanitizePrincipalId : String → String

/-- A command of a transaction. -/
inductive StreamCommand where
  /-- `XADD` with the next id, trimmed to about so many entries. -/
  | xAdd (key : String) (fields : List (String × String)) (maxLen : Nat)
  /-- `PEXPIRE`. -/
  | pExpire (key : String) (ttlMs : Nat)

/-- A reply to a command. -/
inductive Reply where
  | text (value : String)
  | other

/-- What a transaction comes to. -/
inductive ExecResult where
  | rejected
  | malformed
  | replies (replies : List Reply)

/-- `XADD_PIPELINE_CHUNK_SIZE`. -/
def xaddPipelineChunkSize : Nat := 500

/-- An entry that is appended. -/
structure AcceptedEntry where
  entry : BatchEntry
  key : String
  resultIndex : Nat

section Append

variable (config : StreamConfig)

/-- `isPrincipalInAllowlist`. -/
def isPrincipalInAllowlist (principalId : String) : Bool :=
  config.allowlist.isEmpty || config.allowlist.contains principalId

/-- `streamKey`. -/
def streamKey (principalId hashedEventName : String) : String :=
  "plug_agent_stream_v2:" ++ config.keyNamespace ++ ":" ++ config.sanitizePrincipalId principalId ++
    ":" ++ hashedEventName

/-- The loop that accepts entries, with the hashes of the names that it has met. -/
def acceptEntries (index : Nat) (hashes : OrderedMap String String) :
    List BatchEntry → List AcceptedEntry
  | [] => []
  | entry :: rest =>
    if isPrincipalInAllowlist config entry.principalId then
      let eventName := entry.frame.eventName
      let hashed := (hashes.get eventName).getD (config.eventNameHash eventName)
      ⟨entry, streamKey config entry.principalId hashed, index⟩ ::
        acceptEntries (index + 1) (hashes.set eventName hashed) rest
    else acceptEntries (index + 1) hashes rest

/-- The fields of a frame in its stream. -/
def frameFields (frame : AgentEventStreamFrame) : List (String × String) :=
  [("schemaVersion", "1"), ("eventId", frame.eventId), ("eventName", frame.eventName),
    ("emittedAt", frame.emittedAt), ("payload", frame.payload)]

/-- The commands of an entry. -/
def queueCommands (slot : AcceptedEntry) : List StreamCommand :=
  .xAdd slot.key (frameFields slot.entry.frame) config.maxLen ::
    if 0 < config.ttlMs then [.pExpire slot.key config.ttlMs] else []

/-- `cmdsPerEntry`. -/
def cmdsPerEntry : Nat := if 0 < config.ttlMs then 2 else 1

/-- The stream id in the reply to an `XADD`. -/
def streamIdOf : Option Reply → Option String
  | some (.text value) => if value = "" then none else some value
  | _ => none

/-- The results of a transaction are stored in the places of its entries, from a position on. -/
def storeReplies (replies : List Reply) : Nat → List AcceptedEntry → List (Option String) →
    List (Option String)
  | _, [], result => result
  | position, slot :: rest, result =>
    let stored :=
      match streamIdOf replies[position * cmdsPerEntry config]? with
      | some streamId => result.set slot.resultIndex (some streamId)
      | none => result
    storeReplies replies (position + 1) rest stored

/-- The transactions, one after the other. A transaction that fails leaves the results. -/
def appendChunks (exec : Nat → List StreamCommand → ExecResult) (number : Nat)
    (accepted : List AcceptedEntry) (result : List (Option String)) : List (Option String) :=
  if accepted = [] then result
  else
    let chunk := accepted.take xaddPipelineChunkSize
    let stored :=
      match exec number (chunk.flatMap (queueCommands config)) with
      | .rejected => result
      | .malformed => result
      | .replies replies => storeReplies config replies 0 chunk result
    appendChunks exec (number + 1) (accepted.drop xaddPipelineChunkSize) stored
termination_by accepted.length
decreasing_by
  have some := List.length_pos_iff.mpr ‹_›
  rw [List.length_drop]
  unfold xaddPipelineChunkSize
  omega

/-- `appendAgentEventFramesBatch`; without a client, or with the streams disabled, nothing is
appended. -/
def appendAgentEventFramesBatch (active : Bool)
    (exec : Nat → List StreamCommand → ExecResult) (entries : List BatchEntry) :
    List (Option String) :=
  if active then
    appendChunks config exec 0 (acceptEntries config 0 .empty entries)
      (List.replicate entries.length none)
  else entries.map fun _ => none

/-! ## What an append came to -/

/-- The commands of an entry, each with the place of the entry among all. -/
def ownCommands (slot : AcceptedEntry) : List (Nat × StreamCommand) :=
  (queueCommands config slot).map fun command => (slot.resultIndex, command)

/-- The transactions that the accepted entries are divided into. -/
def transactions (accepted : List AcceptedEntry) : List (List AcceptedEntry) :=
  if accepted = [] then []
  else
    accepted.take xaddPipelineChunkSize :: transactions (accepted.drop xaddPipelineChunkSize)
termination_by accepted.length
decreasing_by
  have some := List.length_pos_iff.mpr ‹_›
  rw [List.length_drop]
  unfold xaddPipelineChunkSize
  omega

/-- The commands of the transactions beside the replies to them: a reply belongs to the command that
stands in its position. -/
def answered (exec : Nat → List StreamCommand → ExecResult) (number : Nat) :
    List (List AcceptedEntry) → List ((Nat × StreamCommand) × Reply)
  | [] => []
  | chunk :: rest =>
    (match exec number (chunk.flatMap (queueCommands config)) with
      | .rejected => []
      | .malformed => []
      | .replies replies => (chunk.flatMap (ownCommands config)).zip replies) ++
      answered exec (number + 1) rest

/-- Whether a command is an `XADD`. -/
def StreamCommand.isXAdd : StreamCommand → Bool
  | .xAdd _ _ _ => true
  | .pExpire _ _ => false

/-- The reply to the `XADD` of the entry in a place. -/
def ownReply (place : Nat) (answers : List ((Nat × StreamCommand) × Reply)) : Option Reply :=
  (answers.find? fun answer => answer.1.1 == place && answer.1.2.isXAdd).map Prod.snd

/-- What the append of the entry in a place came to. -/
def outcome (active : Bool) (exec : Nat → List StreamCommand → ExecResult)
    (entries : List BatchEntry) (place : Nat) : Option String :=
  if active then
    let chunks := transactions (acceptEntries config 0 .empty entries)
    streamIdOf (ownReply place (answered config exec 0 chunks))
  else none

/-- The commands that are sent, each with the place of its entry. -/
def sent (active : Bool) (entries : List BatchEntry) : List (Nat × StreamCommand) :=
  if active then
    (transactions (acceptEntries config 0 .empty entries)).flatMap
      fun chunk => chunk.flatMap (ownCommands config)
  else []

/-- The commands that an entry calls for: one `XADD` of its own frame to the stream of its principal
and its event, and a `PEXPIRE` of that stream when streams expire. -/
def calledFor (entry : BatchEntry) : List StreamCommand :=
  let key := streamKey config entry.principalId (config.eventNameHash entry.frame.eventName)
  if isPrincipalInAllowlist config entry.principalId then
    .xAdd key (frameFields entry.frame) config.maxLen ::
      if 0 < config.ttlMs then [.pExpire key config.ttlMs] else []
  else []

/-! ## The entries that are accepted -/

/-- The hashes that are remembered are the hashes of their names. -/
def Hashed (hashes : OrderedMap String String) : Prop :=
  ∀ name hashed, hashes.get name = some hashed → hashed = config.eventNameHash name

variable (entries : List BatchEntry)

variable (index : Nat)

theorem acceptEntries_from (hashes : OrderedMap String String) (slot : AcceptedEntry)
    (present : slot ∈ acceptEntries config index hashes entries) : index ≤ slot.resultIndex := by
  induction entries generalizing index hashes with
  | nil => cases present
  | cons entry rest ih =>
    rw [acceptEntries] at present
    split at present
    · cases present with
      | head => exact Nat.le_refl index
      | tail _ later =>
        have above := ih (index + 1) _ later
        omega
    · have above := ih (index + 1) _ present
      omega

theorem acceptEntries_distinct (hashes : OrderedMap String String) :
    ((acceptEntries config index hashes entries).map AcceptedEntry.resultIndex).Nodup := by
  induction entries generalizing index hashes with
  | nil => exact List.nodup_nil
  | cons entry rest ih =>
    rw [acceptEntries]
    split
    · rw [List.map_cons, List.nodup_cons]
      refine ⟨?_, ih (index + 1) _⟩
      intro again
      obtain ⟨slot, present, same⟩ := List.mem_map.mp again
      have above := acceptEntries_from config rest (index + 1) _ slot present
      change slot.resultIndex = index at same
      omega
    · exact ih (index + 1) hashes

theorem own_commands_from
    (hashes : OrderedMap String String) (place : Nat) (before : place < index) :
    ((acceptEntries config index hashes entries).flatMap (ownCommands config)).filter
      (fun command => command.1 == place) = [] := by
  rw [List.filter_eq_nil_iff]
  intro command present
  obtain ⟨slot, accepted, own⟩ := List.mem_flatMap.mp present
  obtain ⟨queued, _, same⟩ := List.mem_map.mp own
  have above := acceptEntries_from config entries index hashes slot accepted
  subst same
  simp only [beq_iff_eq]
  omega

variable (slot : AcceptedEntry)

theorem ownCommands_filter (place : Nat) :
    (ownCommands config slot).filter (fun command => command.1 == place) =
      if slot.resultIndex = place then ownCommands config slot else [] := by
  by_cases same : slot.resultIndex = place
  · rw [if_pos same, List.filter_eq_self]
    intro command present
    obtain ⟨queued, _, rfl⟩ := List.mem_map.mp present
    exact beq_iff_eq.mpr same
  · rw [if_neg same, List.filter_eq_nil_iff]
    intro command present
    obtain ⟨queued, _, rfl⟩ := List.mem_map.mp present
    simpa using same

/-- The commands of an entry are those that it calls for, whatever stands around it. -/
theorem own_commands_called_for
    (hashes : OrderedMap String String) (hashed : Hashed config hashes) (place : Nat)
    (entry : BatchEntry) (present : entries[place]? = some entry) :
    ((acceptEntries config index hashes entries).flatMap (ownCommands config)).filter
        (fun command => command.1 == index + place) =
      (calledFor config entry).map fun command => (index + place, command) := by
  induction entries generalizing index hashes place with
  | nil => cases present
  | cons first rest ih =>
    have remembered : (hashes.get first.frame.eventName).getD
        (config.eventNameHash first.frame.eventName) =
          config.eventNameHash first.frame.eventName := by
      cases found : hashes.get first.frame.eventName with
      | none => rfl
      | some value => exact hashed _ _ found
    have kept : Hashed config
        (hashes.set first.frame.eventName (config.eventNameHash first.frame.eventName)) := by
      intro name value found
      rw [OrderedMap.get_set] at found
      split at found
      · rename_i same
        rw [← Option.some.inj found, same]
      · exact hashed name value found
    rw [acceptEntries]
    cases place with
    | zero =>
      have same : first = entry := Option.some.inj present
      subst same
      unfold calledFor
      rw [Nat.add_zero]
      split
      · simp only [remembered]
        rw [List.flatMap_cons, List.filter_append, ownCommands_filter, if_pos rfl,
          own_commands_from config rest (index + 1) _ index (Nat.lt_succ_self index),
          List.append_nil]
        rfl
      · exact own_commands_from config rest (index + 1) hashes index (Nat.lt_succ_self index)
    | succ place =>
      have moved : index + (place + 1) = index + 1 + place := by omega
      rw [moved]
      split
      · simp only [remembered]
        rw [List.flatMap_cons, List.filter_append, ownCommands_filter, if_neg (by simp; omega),
          List.nil_append]
        exact ih (index + 1) _ kept place present
      · exact ih (index + 1) hashes hashed place present

/-! ## The transactions -/

theorem transactions_flatten (accepted : List AcceptedEntry) :
    (transactions accepted).flatten = accepted := by
  induction accepted using transactions.induct with
  | case1 => rw [transactions, if_pos rfl, List.flatten_nil]
  | case2 accepted some ih =>
    rw [transactions, if_neg some, List.flatten_cons, ih, List.take_append_drop]

/-! ## Finding the replies again -/

private theorem zip_append {α β : Type} (first second : List α) (others : List β) :
    (first ++ second).zip others =
      first.zip others ++ second.zip (others.drop first.length) := by
  induction first generalizing others with
  | nil => rfl
  | cons head tail ih =>
    cases others with
    | nil => simp
    | cons other rest =>
      rw [List.cons_append, List.zip_cons_cons, ih, List.zip_cons_cons, List.cons_append,
        List.length_cons, List.drop_succ_cons]

theorem ownCommands_length :
    (ownCommands config slot).length = cmdsPerEntry config := by
  unfold ownCommands queueCommands cmdsPerEntry
  rw [List.length_map]
  split
  · rfl
  · rfl

theorem ownReply_of_absent (place : Nat) (answers : List ((Nat × StreamCommand) × Reply))
    (absent : ∀ answer ∈ answers, answer.1.1 ≠ place) : ownReply place answers = none := by
  unfold ownReply
  have missed : (answers.find? fun answer =>
      answer.1.1 == place && answer.1.2.isXAdd) = none := by
    rw [List.find?_eq_none]
    intro answer present refuted
    rw [Bool.and_eq_true, beq_iff_eq] at refuted
    exact absent answer present refuted.1
  rw [missed, Option.map_none]

theorem ownReply_append (place : Nat) (first second : List ((Nat × StreamCommand) × Reply)) :
    ownReply place (first ++ second) = (ownReply place first).or (ownReply place second) := by
  unfold ownReply
  rw [List.find?_append, Option.map_or]

theorem place_of_zip {chunk : List AcceptedEntry} {replies : List Reply}
    {answer : (Nat × StreamCommand) × Reply}
    (present : answer ∈ (chunk.flatMap (ownCommands config)).zip replies) :
    answer.1.1 ∈ chunk.map AcceptedEntry.resultIndex := by
  have queued := (List.of_mem_zip (show (answer.1, answer.2) ∈ _ from present)).1
  obtain ⟨slot, held, own⟩ := List.mem_flatMap.mp queued
  obtain ⟨command, _, same⟩ := List.mem_map.mp own
  rw [← same]
  exact List.mem_map.mpr ⟨slot, held, rfl⟩

theorem ownReply_own (replies : List Reply) :
    ownReply slot.resultIndex ((ownCommands config slot).zip replies) = replies[0]? := by
  unfold ownReply ownCommands queueCommands
  cases replies with
  | nil => simp
  | cons reply rest => simp [StreamCommand.isXAdd]

/-- The replies of a transaction are stored where they belong: the place of an entry takes its own
reply, and every other place is left. -/
theorem storeReplies_own (replies : List Reply) (chunk : List AcceptedEntry) (position : Nat)
    (result : List (Option String)) (place : Nat)
    (distinct : (chunk.map AcceptedEntry.resultIndex).Nodup) :
    (storeReplies config replies position chunk result)[place]? =
      result[place]?.map fun old =>
        (streamIdOf (ownReply place ((chunk.flatMap (ownCommands config)).zip
          (replies.drop (position * cmdsPerEntry config))))).or old := by
  induction chunk generalizing position result with
  | nil =>
    change result[place]? = result[place]?.map fun old => (none : Option String).or old
    simp only [Option.none_or, Option.map_id']
  | cons slot rest ih =>
    rw [List.map_cons, List.nodup_cons] at distinct
    have moved : replies.drop ((position + 1) * cmdsPerEntry config) =
        (replies.drop (position * cmdsPerEntry config)).drop (ownCommands config slot).length := by
      rw [List.drop_drop, ownCommands_length, Nat.succ_mul]
    rw [storeReplies, ih (position + 1) _ distinct.2, List.flatMap_cons, zip_append,
      ownReply_append, moved]
    by_cases own : slot.resultIndex = place
    · -- The later entries have other places, so that what is stored here stays.
      subst own
      have later : ownReply slot.resultIndex ((rest.flatMap (ownCommands config)).zip
          ((replies.drop (position * cmdsPerEntry config)).drop
            (ownCommands config slot).length)) = none := by
        apply ownReply_of_absent
        intro answer present same
        rw [← same] at distinct
        exact distinct.1 (place_of_zip config present)
      rw [later, ownReply_own, Option.or_none, List.getElem?_drop, Nat.add_zero]
      cases stored : streamIdOf replies[position * cmdsPerEntry config]? with
      | none => rfl
      | some streamId =>
        simp only [List.getElem?_set, if_true, streamIdOf, Option.none_or, Option.some_or]
        by_cases inside : slot.resultIndex < result.length
        · rw [if_pos inside, List.getElem?_eq_getElem inside]
          rfl
        · rw [if_neg inside, List.getElem?_eq_none (Nat.le_of_not_lt inside)]
          rfl
    · have first : ownReply place ((ownCommands config slot).zip
          (replies.drop (position * cmdsPerEntry config))) = none := by
        apply ownReply_of_absent
        intro answer present same
        have held : answer.1.1 ∈ [slot].map AcceptedEntry.resultIndex := by
          apply place_of_zip config
          rw [List.flatMap_cons, List.flatMap_nil, List.append_nil]
          exact present
        rw [List.map_cons, List.map_nil, List.mem_singleton] at held
        exact own (held.symm.trans same)
      rw [first, Option.none_or]
      cases streamIdOf replies[position * cmdsPerEntry config]? with
      | none => rfl
      | some streamId => simp only [List.getElem?_set_ne own]

variable (exec : Nat → List StreamCommand → ExecResult)

theorem place_of_answered (number : Nat)
    (chunks : List (List AcceptedEntry)) {answer : (Nat × StreamCommand) × Reply}
    (present : answer ∈ answered config exec number chunks) :
    answer.1.1 ∈ chunks.flatten.map AcceptedEntry.resultIndex := by
  induction chunks generalizing number with
  | nil => cases present
  | cons chunk rest ih =>
    rw [List.flatten_cons, List.map_append, List.mem_append]
    rw [answered, List.mem_append] at present
    cases present with
    | inl here =>
      left
      split at here
      · cases here
      · cases here
      · exact place_of_zip config here
    | inr later => exact .inr (ih (number + 1) later)

/-- The results of the transactions: the place of an entry takes what its own append came to, and
every other place is left. -/
theorem appendChunks_own (number : Nat)
    (accepted : List AcceptedEntry) (result : List (Option String)) (place : Nat)
    (distinct : (accepted.map AcceptedEntry.resultIndex).Nodup) :
    (appendChunks config exec number accepted result)[place]? =
      result[place]?.map fun old => (streamIdOf (ownReply place
          (answered config exec number (transactions accepted)))).or old := by
  induction accepted using transactions.induct generalizing number result with
  | case1 =>
    rw [appendChunks, if_pos rfl, transactions, if_pos rfl]
    change result[place]? = result[place]?.map fun old => (none : Option String).or old
    simp only [Option.none_or, Option.map_id']
  | case2 accepted some ih =>
    have split := List.take_append_drop xaddPipelineChunkSize accepted
    rw [← split, List.map_append, List.nodup_append] at distinct
    obtain ⟨former, latter, apart⟩ := distinct
    rw [appendChunks, if_neg some, transactions, if_neg some, answered]
    rw [ih (number + 1) _ latter, ownReply_append]
    cases exec number ((accepted.take xaddPipelineChunkSize).flatMap (queueCommands config)) with
    | rejected => rfl
    | malformed => rfl
    | replies replies =>
      have stored := storeReplies_own config replies (accepted.take xaddPipelineChunkSize) 0 result
        place former
      rw [Nat.zero_mul, List.drop_zero] at stored
      simp only [stored]
      by_cases here : place ∈ (accepted.take xaddPipelineChunkSize).map AcceptedEntry.resultIndex
      · have later : ownReply place (answered config exec (number + 1)
            (transactions (accepted.drop xaddPipelineChunkSize))) = none := by
          apply ownReply_of_absent
          intro answer present same
          have held := place_of_answered config exec _ _ present
          rw [transactions_flatten] at held
          exact apart place here _ held same.symm
        rw [later, Option.or_none, Option.map_map]
        congr 1
      · have earlier : ownReply place
            (((accepted.take xaddPipelineChunkSize).flatMap (ownCommands config)).zip replies) =
              none := by
          apply ownReply_of_absent
          intro answer present same
          rw [← same] at here
          exact here (place_of_zip config present)
        rw [earlier, Option.none_or, Option.map_map]
        congr 1

theorem storeReplies_length (replies : List Reply) (chunk : List AcceptedEntry) (position : Nat)
    (result : List (Option String)) :
    (storeReplies config replies position chunk result).length = result.length := by
  induction chunk generalizing position result with
  | nil => rfl
  | cons slot rest ih =>
    rw [storeReplies, ih]
    split
    · exact List.length_set
    · rfl

theorem appendChunks_length (number : Nat)
    (accepted : List AcceptedEntry) (result : List (Option String)) :
    (appendChunks config exec number accepted result).length = result.length := by
  induction accepted using transactions.induct generalizing number result with
  | case1 => rw [appendChunks, if_pos rfl]
  | case2 accepted some ih =>
    rw [appendChunks, if_neg some, ih (number + 1)]
    split
    · rfl
    · rfl
    · exact storeReplies_length config _ _ 0 result

/-! ## The results of a batch -/

/-- What is asked of a batch. -/
structure Aligned (active : Bool) (exec : Nat → List StreamCommand → ExecResult)
    (entries : List BatchEntry) : Prop where
  /-- There is one result for each entry. -/
  one : (appendAgentEventFramesBatch config active exec entries).length = entries.length
  /-- The result in a place is what the append of the entry in that place came to. -/
  own : ∀ place < entries.length,
    (appendAgentEventFramesBatch config active exec entries)[place]? =
      some (outcome config active exec entries place)
  /-- The commands that are sent for a place are those that its entry calls for, once. -/
  called : ∀ (place : Nat) (entry : BatchEntry), entries[place]? = some entry →
    (sent config active entries).filter (fun command => command.1 == place) =
      if active then (calledFor config entry).map fun command => (place, command) else []

/-- Whatever the entries, the allowlist, the expiry and the answers of Redis, the results of a batch
are aligned with its entries. -/
theorem batch_aligned (active : Bool) (exec : Nat → List StreamCommand → ExecResult)
    (entries : List BatchEntry) : Aligned config active exec entries := by
  cases active with
  | false =>
    refine ⟨?_, ?_, ?_⟩
    · exact List.length_map ..
    · intro place inside
      change (entries.map fun _ => none)[place]? = some none
      rw [List.getElem?_map, List.getElem?_eq_getElem inside]
      rfl
    · intro place entry _
      rfl
  | true =>
    have distinct := acceptEntries_distinct config entries 0 .empty
    refine ⟨?_, ?_, ?_⟩
    · change (appendChunks config exec 0 _ (List.replicate entries.length none)).length = _
      rw [appendChunks_length, List.length_replicate]
    · intro place inside
      change (appendChunks config exec 0 _ (List.replicate entries.length none))[place]? = _
      rw [appendChunks_own config exec 0 _ _ place distinct, List.getElem?_replicate,
        if_pos inside, Option.map_some, Option.or_none]
      rfl
    · intro place entry present
      have unhashed : Hashed config .empty := by
        intro name hashed found
        cases found
      have queued := own_commands_called_for config entries 0 .empty unhashed place entry present
      rw [Nat.zero_add] at queued
      change ((transactions _).flatMap fun chunk => chunk.flatMap (ownCommands config)).filter _ = _
      have whole := transactions_flatten (acceptEntries config 0 .empty entries)
      rw [List.flatten_eq_flatMap] at whole
      rw [← whole, List.flatMap_assoc] at queued
      exact queued

end Append

end PlugHub.StreamAppend
