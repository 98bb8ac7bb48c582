import Mathlib.Data.List.Infix
import PlugHub.Library.OrderedMap

/-!
# The cache of the Lua scripts

The rate limits call their scripts by the digests under which the server keeps them. A server that
does not know a digest says so and runs nothing; the script is then loaded and called again, and
sent as a whole when that fails. Any other error may be reported before the server ran the script or
after it did.
-/

namespace PlugHub.LuaScripts

open Library

/-- What a command fails with. -/
structure CommandError where
  isError : Bool
  message : String

/-- `isNoScriptError`. -/
def isNoScriptError (error : CommandError) : Bool :=
  error.isError && decide ("noscript".toList <:+: error.message.toLower.toList)

/-- What comes of a command that calls a script. -/
inductive Reply (ν : Type) where
  | value (result : ν)
  /-- An error, with the result when the server did run the script. One that names a missing script
  means that it did not run. -/
  | error (failure : CommandError) (executed : Option ν)
      (honest : isNoScriptError failure = true → executed = none)

namespace Reply

variable {ν : Type}

/-- What the server ran for a command. -/
def executions : Reply ν → List ν
  | .value result => [result]
  | .error _ executed _ => executed.toList

/-- What the caller gets. -/
def outcome : Reply ν → Except CommandError ν
  | .value result => .ok result
  | .error failure _ _ => .error failure

/-- The server says that it does not know the script. -/
def isMissing : Reply ν → Bool
  | .value _ => false
  | .error failure _ _ => isNoScriptError failure

theorem length_executions_le (reply : Reply ν) : reply.executions.length ≤ 1 := by
  cases reply with
  | value result => exact Nat.le_refl 1
  | error failure executed honest =>
    cases executed with
    | none => exact Nat.zero_le 1
    | some result => exact Nat.le_refl 1

theorem executions_of_isMissing {reply : Reply ν} (missing : reply.isMissing = true) :
    reply.executions = [] := by
  cases reply with
  | value result => cases missing
  | error failure executed honest => rw [executions, honest missing, Option.toList_none]

theorem executions_of_outcome {reply : Reply ν} {result : ν}
    (answered : reply.outcome = .ok result) :
    reply.executions = [result] := by
  cases reply with
  | value found => exact congrArg (fun value => [value]) (Except.ok.inj answered)
  | error failure executed honest => cases answered

end Reply

/-- What the server does with the commands of a call, whatever it has cached. -/
structure Server (ν : Type) where
  evalSha : Reply ν
  /-- The digest that `SCRIPT LOAD` sends, if it sends a text, unless it fails. -/
  scriptLoad : Except CommandError (Option String)
  evalShaAgain : Reply ν
  eval : Reply ν

/-- What a call comes to. -/
structure Invocation (ν : Type) where
  outcome : Except CommandError ν
  executions : List ν
  shas : OrderedMap String String

section

variable {ν : Type} (shas : OrderedMap String String) (name : String) (server : Server ν)

/-- `load`: a digest is stored when it is a text that is not empty. -/
def load (sha : Option String) : OrderedMap String String :=
  match sha with
  | some sha => if 0 < sha.length then shas.set name sha else shas
  | none => shas

/-- The call with the whole script, after what ran before. -/
def evalSource (ran : List ν) : Invocation ν :=
  { outcome := server.eval.outcome, executions := ran ++ server.eval.executions, shas := shas }

/-- The second attempt: the script is loaded and called again. Every error falls through to the
whole script. -/
def reload (ran : List ν) : Invocation ν :=
  match server.scriptLoad with
  | .error _ => evalSource shas server ran
  | .ok sha =>
    let loaded := load shas name sha
    match loaded.get name with
    | none => evalSource loaded server ran
    | some _ =>
      match server.evalShaAgain with
      | .value result =>
        { outcome := .ok result, executions := ran ++ [result], shas := loaded }
      | .error failure executed honest =>
        evalSource loaded server (ran ++ (Reply.error failure executed honest).executions)

/-- `invoke`. -/
def invoke : Invocation ν :=
  match shas.get name with
  | none => evalSource shas server []
  | some _ =>
    match server.evalSha with
    | .value result => { outcome := .ok result, executions := [result], shas := shas }
    | .error failure executed honest =>
      if isNoScriptError failure then
        reload shas name server (Reply.error failure executed honest).executions
      else
        { outcome := .error failure
          executions := (Reply.error failure executed honest).executions
          shas := shas }

end

/-- A call runs the script at most once, and what it returns is the result of that execution. -/
structure Invocation.Once {ν : Type} (invocation : Invocation ν) : Prop where
  atMostOnce : invocation.executions.length ≤ 1
  /-- What it returns is the result of its one execution. -/
  returned : ∀ result, invocation.outcome = .ok result → invocation.executions = [result]

/-- The whole script is sent after a call by the digest that failed although the server had run it:
the first call missed the script, it was loaded, and the second call ran it. -/
structure RunsAgain {ν : Type} (shas : OrderedMap String String) (name : String)
    (server : Server ν) : Prop where
  cached : (shas.get name).isSome = true
  /-- The first call misses the script. -/
  missing : server.evalSha.isMissing = true
  loaded : ∃ sha, server.scriptLoad = .ok sha
  /-- The second call runs it, and its answer is lost. -/
  failed : ∃ failure executed honest, server.evalShaAgain = .error failure (some executed) honest
  evaluated : server.eval.executions ≠ []

section

variable {ν : Type} {shas : OrderedMap String String} {name : String} {server : Server ν}

theorem evalSource_once : (evalSource shas server []).Once where
  atMostOnce := server.eval.length_executions_le
  returned := fun _ answered => Reply.executions_of_outcome answered

theorem load_isSome (cached : (shas.get name).isSome = true) (sha : Option String) :
    ((load shas name sha).get name).isSome = true := by
  cases sha with
  | none => exact cached
  | some sha =>
    simp only [load]
    by_cases text : 0 < sha.length
    · rw [if_pos text, OrderedMap.get_set, if_pos rfl]
      rfl
    · rw [if_neg text]
      exact cached

/-- The second attempt is right unless it runs the script and then the whole script. -/
theorem reload_once_iff (cached : (shas.get name).isSome = true) :
    (reload shas name server []).Once ↔
      ¬((∃ sha, server.scriptLoad = .ok sha) ∧
        (∃ failure executed honest,
          server.evalShaAgain = .error failure (some executed) honest) ∧
        server.eval.executions ≠ []) := by
  unfold reload
  cases loading : server.scriptLoad with
  | error failure =>
    refine iff_of_true evalSource_once fun again => ?_
    obtain ⟨⟨sha, same⟩, _⟩ := again
    cases same
  | ok sha =>
    obtain ⟨stored, found⟩ := Option.isSome_iff_exists.mp (load_isSome cached sha)
    simp only [found]
    cases replied : server.evalShaAgain with
    | value result =>
      refine iff_of_true ⟨Nat.le_refl 1, fun other answered => ?_⟩ fun again => ?_
      · exact congrArg (fun value => [value]) (Except.ok.inj answered)
      · obtain ⟨_, ⟨failure, executed, honest, same⟩, _⟩ := again
        cases same
    | error failure executed honest =>
      cases executed with
      | none =>
        refine iff_of_true evalSource_once fun again => ?_
        obtain ⟨_, ⟨other, ran, _, same⟩, _⟩ := again
        cases same
      | some ran =>
        constructor
        · intro once again
          have length : (ran :: server.eval.executions).length ≤ 1 := once.atMostOnce
          have positive := List.length_pos_iff.mpr again.2.2
          rw [List.length_cons] at length
          omega
        · intro single
          have nothing : server.eval.executions = [] := by
            by_contra something
            exact single ⟨⟨sha, rfl⟩, ⟨failure, ran, honest, rfl⟩, something⟩
          refine ⟨?_, fun result answered => ?_⟩
          · change (ran :: server.eval.executions).length ≤ 1
            rw [nothing]
            exact Nat.le_refl 1
          · have own := Reply.executions_of_outcome answered
            rw [nothing] at own
            cases own

end

/-- A call runs its script at most once and returns the result of that execution, exactly when it
does not send the whole script after a second call by the digest that ran it and failed. -/
theorem invoke_once_iff {ν : Type} (shas : OrderedMap String String) (name : String)
    (server : Server ν) : (invoke shas name server).Once ↔ ¬RunsAgain shas name server := by
  unfold invoke
  cases cached : shas.get name with
  | none =>
    refine iff_of_true evalSource_once fun again => ?_
    have present := again.cached
    rw [cached] at present
    cases present
  | some sha =>
    have present : (shas.get name).isSome = true := by
      rw [cached]
      rfl
    cases replied : server.evalSha with
    | value result =>
      refine iff_of_true ⟨Nat.le_refl 1, fun other answered => ?_⟩ fun again => ?_
      · exact congrArg (fun value => [value]) (Except.ok.inj answered)
      · have missing := again.missing
        rw [replied] at missing
        cases missing
    | error failure executed honest =>
      by_cases missing : isNoScriptError failure = true
      · have nothing : (Reply.error failure executed honest).executions = [] :=
          Reply.executions_of_isMissing missing
        simp only [if_pos missing, nothing]
        rw [reload_once_iff present, not_iff_not]
        constructor
        · rintro ⟨loaded, failed, evaluated⟩
          exact ⟨present, by rw [replied]; exact missing, loaded, failed, evaluated⟩
        · intro again
          exact ⟨again.loaded, again.failed, again.evaluated⟩
      · simp only [if_neg missing]
        have single := (Reply.error failure executed honest).length_executions_le
        refine iff_of_true ⟨single, fun result answered => by cases answered⟩ fun again => ?_
        have named := again.missing
        rw [replied] at named
        exact missing named

/-- A consume by a server that lost its scripts: the answer to the second call is lost. -/
def lostAnswer : Server Int where
  evalSha := .error ⟨true, "NOSCRIPT No matching script. Please use EVAL."⟩ none fun _ => rfl
  scriptLoad := .ok (some "digest")
  evalShaAgain := .error ⟨true, "Socket closed unexpectedly"⟩ (some 1) fun named => by
    revert named
    decide +kernel
  eval := .value 2

/-- The script runs twice for one call. -/
theorem lost_answer_runs_twice :
    (invoke (OrderedMap.empty.set "consume" "digest") "consume" lostAnswer).executions = [1, 2] ∧
      ¬(invoke (OrderedMap.empty.set "consume" "digest") "consume" lostAnswer).Once := by
  have twice : (invoke (OrderedMap.empty.set "consume" "digest") "consume"
      lostAnswer).executions = [1, 2] := by
    decide +kernel
  refine ⟨twice, fun once => ?_⟩
  have length := once.atMostOnce
  rw [twice] at length
  exact absurd length (by decide)

end PlugHub.LuaScripts
