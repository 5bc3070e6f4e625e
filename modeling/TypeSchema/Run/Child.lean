/-
**Processes.**

* `Child`: what a process prints, when it ends and with which code, and what becomes of starting
  and of killing it;
* `Child.exit?`: when it ends, and with which code, if it is killed at an instant;
* `Child.ending`: what waiting for it comes to. A process that has not ended at the limit is killed
  and counts as too slow, once it has ended; a process that was killed before its end, or ended by a
  signal, counts as killed; otherwise its code and its output decide.
-/

import TypeSchema.Clock.Duration
import TypeSchema.Run.Error
import TypeSchema.Text.Utf8

namespace TypeSchema

/-- Why a process cannot be started. -/
inductive StartFault where
  /-- The system refuses, with an error number and its text. -/
  | refused (number : Int) (text : String)
  | crash (text : String)
deriving DecidableEq, Repr

/-- Why a process cannot be killed. -/
inductive KillFault where
  /-- There is no such process any more; it ends at once. -/
  | gone
  | refused (text : String)
deriving DecidableEq, Repr

/-- A process. -/
structure Child where
  /-- What it prints. -/
  output : List UInt8 := []
  /-- What it prints about its failure. -/
  complaint : List UInt8 := []
  /-- The code with which it ends by itself. -/
  code : Int := 0
  /-- How long it runs by itself. -/
  lifetime : Span := some 0
  /-- How long starting it takes. -/
  startup : Nat := 0
  startFault : Option StartFault := none
  killFault : Option KillFault := none
  /-- How long it goes on after it is killed. -/
  dying : Nat := 0
  /-- Whether reading its output is given up once it has ended. -/
  givesUp : Bool := false
deriving DecidableEq, Repr

/-- The code of a process that was killed. -/
def killedCode : Int := -9

/-- What waiting for a process comes to, and when. -/
structure Ending where
  time : Instant
  result : Except RunError String

namespace Child

/-- When a process that is there from `start` on ends by itself. -/
def naturalEnd (child : Child) (start : Instant) : Option Instant := after start child.lifetime

/-- When a process ends, and with which code, if it is killed at an instant. Killing it after its
end changes nothing. -/
def exit? (child : Child) (start : Instant) (kill : Option Instant) :
    Option (Instant × Int) :=
  let natural := (child.naturalEnd start).map fun time => (time, child.code)
  match kill with
  | none => natural
  | some instant =>
    if reached (child.naturalEnd start) instant then natural
    else
      match child.killFault with
      | some (.refused _) => natural
      | some .gone => some (instant, killedCode)
      | none =>
        if reached (child.naturalEnd start) (instant + child.dying) then natural
        else some (instant + child.dying, killedCode)

/-- What a process that ended in time comes to. -/
def outcome (child : Child) (args : List String) (wasKilled : Bool) (code : Int) :
    Except RunError String :=
  if child.givesUp then .error .cancelled
  else if wasKilled ∨ code < 0 then .error (.killed args code (decodeLossy child.complaint))
  else if code ≠ 0 then .error (.exited args code (decodeLossy child.complaint))
  else
    match decode? child.output with
    | some text => .ok text
    | none => .error .notText

/-- Whether a process that ends at some instant is still there at another one. -/
def outlasts (exit : Option (Instant × Int)) (instant : Instant) : Bool :=
  !(exit.any fun exit => exit.1 < instant)

/-- The instant at which waiting takes too long. -/
def deadline? (start : Instant) (limit : Option Binary64) : Option Instant :=
  limit.bind fun seconds => after start seconds.span?

/-- The instant of a kill from outside, if it comes before the process ends by itself. -/
def timelyKill? (child : Child) (start : Instant) (kill : Option Instant) : Option Instant :=
  kill.filter fun instant => !reached (child.naturalEnd start) instant

/-- The instant of the limit, if the process is still there. -/
def limitKill? (child : Child) (start : Instant) (limit : Option Binary64)
    (kill : Option Instant) : Option Instant :=
  (deadline? start limit).filter fun deadline => outlasts (child.exit? start kill) deadline

/-- When a process is first killed: from outside, or because it has come to its limit. -/
def killTime? (child : Child) (start : Instant) (limit : Option Binary64)
    (kill : Option Instant) : Option Instant :=
  earlier (child.timelyKill? start kill) (child.limitKill? start limit kill)

/-- What waiting for a process comes to, if it is there from `start` on, may run for a limit in
seconds, and is killed from outside at an instant. -/
def ending (child : Child) (args : List String) (start : Instant) (limit : Option Binary64)
    (kill : Option Instant) : Option Ending :=
  match limit, child.limitKill? start limit kill with
  | some seconds, some deadline =>
    match child.killFault with
    | some (.refused text) => some ⟨deadline, .error (.killRefused text)⟩
    | _ =>
      (child.exit? start (earlier kill (some deadline))).map fun (time, code) =>
        ⟨time, .error (.timedOut args seconds code)⟩
  | _, _ =>
    (child.exit? start kill).map fun (time, code) =>
      ⟨time, child.outcome args (child.timelyKill? start kill).isSome code⟩

end Child

end TypeSchema
