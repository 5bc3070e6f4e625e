/-
**The processes of a run.**

* `Tool`: a program and the processes that its command lines start. A command line belongs to a
  supply, whose processes are handed out in order; the last one is handed out again and again;
* `Session`: the processes that were started so far, the kills that were issued, the lines that
  were printed, and how many processes were there at a time at most.
-/

import TypeSchema.Run.Watch
import TypeSchema.Text.Markup

namespace TypeSchema

/-- The processes that are handed out for some command lines. -/
structure Supply where
  name : String
  children : List Child

/-- A program, and the console on which its refused starts are reported. -/
structure Tool where
  program : String
  supply : List String → Supply
  console : Console

/-- A process that began to start. -/
structure Launch where
  supply : String
  args : List String
  child : Child
  /-- When it began to start. -/
  began : Instant
  /-- Whether it is there, or was. -/
  started : Bool
  /-- When it was first killed. -/
  killed : Option Instant
  /-- Whether its end was seen. -/
  seen : Bool

namespace Launch

/-- When a process is there. -/
def start (launch : Launch) : Instant := launch.began + launch.child.startup

/-- Whether a process is there. One that ends as it begins is there until its end is seen. -/
def isThere (launch : Launch) (now : Instant) : Bool :=
  launch.started && !launch.seen &&
    match launch.child.exit? launch.start launch.killed with
    | none => true
    | some (time, _) => now < time || time == launch.start

end Launch

/-- What happened so far. -/
structure Session where
  launches : List Launch := []
  /-- The numbers of the processes that were killed, each with the instant. -/
  kills : List (Nat × Instant) := []
  lines : List String := []
  peak : Nat := 0

namespace Session

/-- Prints a line. -/
def say (session : Session) (line : String) : Session :=
  { session with lines := session.lines ++ [line] }

/-- The process that a supply hands out next. -/
def next (session : Session) (supply : Supply) : Child :=
  let used := (session.launches.filter fun launch => launch.supply == supply.name).length
  (supply.children[min used (supply.children.length - 1)]?).getD {}

/-- Begins to start a process: its number, and the process. -/
def launch (session : Session) (tool : Tool) (args : List String) (now : Instant) :
    Nat × Child × Session :=
  let supply := tool.supply args
  let child := session.next supply
  (session.launches.length, child,
    { session with launches := session.launches ++
        [⟨supply.name, args, child, now, false, none, false⟩] })

/-- The session with one of its launches changed. -/
def update (session : Session) (number : Nat) (change : Launch → Launch) : Session :=
  { session with launches := session.launches.modify number change }

/-- A process is there. -/
def start (session : Session) (number : Nat) (now : Instant) : Session :=
  let session := session.update number fun launch => { launch with started := true }
  let count := session.launches.countP fun launch => launch.isThere now
  { session with peak := max session.peak count }

/-- The end of a process was seen. -/
def see (session : Session) (number : Nat) : Session :=
  session.update number fun launch => { launch with seen := true }

/-- A process is killed; the first time counts. -/
def kill (session : Session) (number : Nat) (instant : Instant) : Session :=
  { session with kills := session.kills ++ [(number, instant)] }.update number fun launch =>
    { launch with killed := launch.killed.or (some instant) }

/-- The command lines of the processes, in the order of their beginnings. -/
def calls (session : Session) : List (List String) := session.launches.map Launch.args

/-- Runs a program once from an instant on: when it has ended, and what it gives. Of one that never
ends it is told when it was there. -/
def ask (session : Session) (tool : Tool) (args : List String) (now : Instant) :
    Instant × Except RunError String × Session :=
  let (number, child, session) := session.launch tool args now
  let watched := invoke tool.program args child none
  let session := if watched.started then session.start number (now + child.startup) else session
  (now + watched.elapsed.getD child.startup, watched.result, session.see number)

end Session

end TypeSchema
