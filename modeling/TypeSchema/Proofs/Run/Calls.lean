/-
**The command lines of a question.**

* `Session.Asked`: every process of a session was started by a question of a kind;
* `Session.Asked.ask`: a question of the kind that is asked once keeps it so;
* `Call.Adds`: a question adds processes with its own command line, and no others;
* `begin_adds`, `step_adds`: **a question adds only its own command line**, whatever becomes of it;
-/

import TypeSchema.Flow.Command
import TypeSchema.Proofs.Run.Step

namespace TypeSchema

namespace Session

variable (session : Session) (number : Nat) (now : Instant)

/-! ### Command lines -/

theorem calls_update {change : Launch → Launch}
    (keeps : ∀ launch, (change launch).args = launch.args) :
    (session.update number change).calls = session.calls := by
  refine List.ext_getElem? fun other => ?_
  simp only [calls, update, List.getElem?_map, List.getElem?_modify]
  cases session.launches[other]? with
  | none => rfl
  | some launch =>
    by_cases same : number = other <;> simp [same, keeps]

@[simp] theorem calls_say (line : String) : (session.say line).calls = session.calls := rfl

@[simp] theorem calls_start : (session.start number now).calls = session.calls :=
  calls_update session number fun _ => rfl

@[simp] theorem calls_see : (session.see number).calls = session.calls :=
  calls_update session number fun _ => rfl

@[simp] theorem calls_kill : (session.kill number now).calls = session.calls := by
  rw [kill]
  exact calls_update _ number fun _ => rfl

@[simp] theorem calls_noteLimit (attempt : Attempt) :
    (session.noteLimit attempt now).calls = session.calls := by
  rw [noteLimit]
  split
  · split <;> simp
  · rfl

@[simp] theorem calls_stopAttempt (attempt : Attempt) :
    (session.stopAttempt now attempt).calls = session.calls := by
  rw [stopAttempt]
  split
  · simp
  · split <;> simp

@[simp] theorem calls_readAttempts (attempts : List Attempt) :
    (session.readAttempts attempts now).calls = session.calls := by
  rw [readAttempts]
  induction attempts generalizing session with
  | nil => rfl
  | cons attempt rest ih => exact (ih _).trans (by simp)

@[simp] theorem calls_stopAttempts (attempts : List Attempt) :
    (session.stopAttempts attempts now).calls = session.calls := by
  rw [stopAttempts]
  induction attempts generalizing session with
  | nil => rfl
  | cons attempt rest ih => exact (ih _).trans (calls_stopAttempt session now attempt)

@[simp] theorem calls_launch (tool : Tool) (args : List String) :
    (session.launch tool args now).2.2.calls = session.calls ++ [args] :=
  List.map_append

theorem calls_ask (tool : Tool) (args : List String) :
    (session.ask tool args now).2.2.calls = session.calls ++ [args] := by
  rw [ask]
  dsimp only
  split <;> simp

/-! ### Kinds of questions -/

/-- Every process of a session was started by a question of a kind. -/
def Asked (kind : Command → Prop) (session : Session) : Prop :=
  ∀ args ∈ session.calls, ∃ command, kind command ∧ args = command.args

variable {session} {kind : Command → Prop} {command : Command}

/-- A question of the kind adds processes. -/
theorem Asked.add {after : Session} {count : Nat} (asked : session.Asked kind)
    (isOfKind : kind command)
    (calls : after.calls = session.calls ++ List.replicate count command.args) :
    after.Asked kind := by
  intro args member
  rw [calls, List.mem_append] at member
  rcases member with old | new
  · exact asked args old
  · exact ⟨command, isOfKind, List.eq_of_mem_replicate new⟩

theorem Asked.of_same {after : Session} (asked : session.Asked kind)
    (same : after.calls = session.calls) : after.Asked kind := by
  rw [Asked, same]
  exact asked

/-- A question that is asked once. -/
theorem Asked.ask (asked : session.Asked kind) (isOfKind : kind command)
    (isSingle : command.isRetried = false) (tool : Tool) (policy : Policy) (now : Instant) :
    (command.ask tool policy now session).2.2.Asked kind := by
  rw [Command.ask, isSingle]
  have once : (session.ask tool command.args now).2.2.calls =
      session.calls ++ List.replicate 1 command.args := session.calls_ask now tool command.args
  exact asked.add isOfKind once

end Session

/-! ### Questions -/

namespace Call

/-- A question adds processes with its own command line, and goes on with it. -/
structure Adds (args : List String) (before : Session) (came : Progress × Session) : Prop where
  calls : ∃ count, came.2.calls = before.calls ++ List.replicate count args
  args : ∀ call, came.1 = .waiting call → call.args = args

variable {call : Call} {tool : Tool} {policy : Policy} {now : Instant} {before session : Session}
  {args : List String} {came : Progress × Session}

theorem Adds.of_calls (adds : Adds args session came) {count : Nat}
    (same : session.calls = before.calls ++ List.replicate count args) : Adds args before came := by
  obtain ⟨⟨more, calls⟩, keeps⟩ := adds
  refine ⟨⟨count + more, ?_⟩, keeps⟩
  rw [calls, same, List.append_assoc, List.replicate_append_replicate]

/-- A question that starts no process. -/
theorem Adds.of_same {progress : Progress} (same : session.calls = before.calls)
    (keeps : ∀ call, progress = .waiting call → call.args = args) :
    Adds args before (progress, session) :=
  ⟨⟨0, by rw [same, List.replicate_zero, List.append_nil]⟩, keeps⟩

theorem arrive_adds (call : Call) (tool : Tool) (policy : Policy) (number : Nat) (child : Child)
    (now : Instant) (session : Session) :
    Adds call.args session (call.arrive tool policy number child now session) := by
  rw [arrive]
  split
  · exact .of_same (by simp) (by rintro _ ⟨⟩; rfl)
  · exact .of_same (by simp) (by rintro _ ⟨⟩; rfl)
  · exact .of_same (by simp) (by rintro _ ⟨⟩)

theorem nextRound_adds (call : Call) (tool : Tool) (policy : Policy) (now : Instant)
    (session : Session) : Adds call.args session (call.nextRound tool policy now session) := by
  rw [nextRound]
  split
  · have launched : (session.launch tool call.args now).2.2.calls =
        session.calls ++ List.replicate 1 call.args := session.calls_launch now tool call.args
    dsimp only
    split
    · exact (arrive_adds ..).of_calls launched
    · exact ⟨⟨1, launched⟩, by rintro _ ⟨⟩; rfl⟩
  · split
    · exact .of_same rfl (by rintro _ ⟨⟩)
    · exact .of_same rfl (by rintro _ ⟨⟩; rfl)

/-- **A question begins with its own command line.** -/
theorem begin_adds (args : List String) (tool : Tool) (policy : Policy) (now : Instant)
    (session : Session) : Adds args session (begin args tool policy now session) :=
  nextRound_adds ⟨args, 0, [], .draining, now⟩ tool policy now session

theorem race_adds (call : Call) (tool : Tool) (policy : Policy) (now : Instant)
    (session : Session) : Adds call.args session (call.race tool policy now session) := by
  have read : (session.readAttempts (call.finished now) now).calls =
      session.calls ++ List.replicate 0 call.args := by simp
  rw [race_eq]
  split
  · exact .of_same (by simp) (by rintro _ ⟨⟩)
  · exact (nextRound_adds (call.pruned now) ..).of_calls read

/-- **A step of a question adds only its own command line.** -/
theorem step_adds (call : Call) (tool : Tool) (policy : Policy) (now : Instant)
    (session : Session) : Adds call.args session (call.step tool policy now session) := by
  rw [step]
  split
  · exact arrive_adds ..
  · exact race_adds ..
  · exact race_adds ..

@[simp] theorem calls_cancel (call : Call) (now : Instant) (session : Session) :
    (call.cancel now session).calls = session.calls :=
  session.calls_stopAttempts now call.live

end Call

end TypeSchema
