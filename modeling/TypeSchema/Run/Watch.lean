/-
**One process from its start to its end.**

* `watch`: starts a process, waits for it under a limit, and reports what came of it; it may be
  killed some time after its start, and the one who waits may be cancelled;
* `invoke`: the same without a limit; who is cancelled kills the process before leaving;
* `settledAt?`: when there is a result, if ever.
-/

import TypeSchema.Run.Child

namespace TypeSchema

/-- What came of one process. -/
structure Watched where
  result : Except RunError String
  /-- How long it took, none if it never ends. -/
  elapsed : Span
  /-- Whether the process was there. -/
  started : Bool
  /-- Whether it was killed. -/
  wasKilled : Bool

/-- How a process fails to start. -/
def StartFault.error (program : String) (args : List String) : StartFault → RunError
  | refused number text => .notStarted program args number text
  | crash text => .crashed text

namespace Watched

/-- One who waits for ever. -/
def endless : Watched := ⟨.error .endless, none, true, false⟩

/-- One who is cancelled while the process starts. -/
def cancelledAtStart (instant : Instant) : Watched := ⟨.error .cancelled, instant, false, false⟩

end Watched

/-- Starts a process and waits for it. `kill` counts from the start of the process, `cancel` from
the beginning; `killsOnCancel` says whether who is cancelled kills the process. -/
def watch (program : String) (args : List String) (child : Child) (limit : Option Binary64)
    (kill : Option Nat) (cancel : Option Instant) (killsOnCancel : Bool) : Watched :=
  let start := child.startup
  if cancel.any (· < start) then .cancelledAtStart (cancel.getD 0)
  else
    match child.startFault with
    | some fault => ⟨.error (fault.error program args), start, false, false⟩
    | none =>
      let kill := kill.map (start + ·)
      let ending := child.ending args start limit kill
      let isKilledBy (instant : Instant) : Bool :=
        reached (child.killTime? start limit kill) instant
      match cancel.filter fun instant => !reached (ending.map Ending.time) instant with
      | some instant =>
        match killsOnCancel, child.killFault with
        | true, some (.refused text) => ⟨.error (.killRefused text), instant, true, true⟩
        | _, _ => ⟨.error .cancelled, instant, true, killsOnCancel || isKilledBy instant⟩
      | none =>
        match ending with
        | none => .endless
        | some ending => ⟨ending.result, ending.time, true, isKilledBy ending.time⟩

/-- Runs a program once and gives what it prints. -/
def invoke (program : String) (args : List String) (child : Child) (cancel : Option Instant) :
    Watched :=
  watch program args child none none cancel true

/-- When a question is settled that was followed until an instant, none if nothing more ever
happens. -/
def settledAt? (instant : Instant) : Except RunError String → Option Instant
  | .error .endless => none
  | _ => some instant

end TypeSchema
