/-
**Questions that are asked again.**

One process may hang, so a question starts further ones.

* `Policy`: how many processes a question may start, how long the first one runs alone, and how long
  each may run;
* `Call`: a question that waits. In a round it starts one more process, and then waits for any of
  them until the time of the round is over; each round is longer than the one before by the first
  one's time. After the last round it waits for what is left;
* `Call.race`: the attempts that have ended are read together. A success ends the question; else the
  failure of the earliest attempt ends it, unless that can be retried;
* whatever still runs when the question ends is killed.
-/

import TypeSchema.Run.Session
import TypeSchema.Settings.Basic

namespace TypeSchema

/-- How often and for how long a question is asked. -/
structure Policy where
  retries : Nat
  /-- How long the first process runs alone, in seconds. -/
  interval : Binary64
  /-- How long a process may run, in seconds. -/
  limit : Option Binary64

/-- The policy of settings. -/
def Settings.policy (settings : Settings) : Policy :=
  ⟨settings.maxRetries, settings.retryInterval, settings.callTimeout⟩

/-- How long a round lasts. -/
def Policy.roundSpan (policy : Policy) (round : Nat) : Span :=
  (policy.interval * Binary64.ofInt (round + 1 : Nat)).span?

/-- A process of a question that was not read yet. -/
structure Attempt where
  /-- The round in which it was started. -/
  slot : Nat
  /-- The number of its launch. -/
  number : Nat
  child : Child
  /-- When it reaches its limit, if it does. -/
  limitKill : Option Instant
  ending : Option Ending

namespace Attempt

/-- When waiting for an attempt is over. -/
def endTime? (attempt : Attempt) : Option Instant := attempt.ending.map Ending.time

/-- Whether waiting for an attempt is over. -/
def isOver (attempt : Attempt) (now : Instant) : Bool := reached attempt.endTime? now

/-- What an attempt came to; one that was cancelled counts as given up. -/
def result (attempt : Attempt) : Except RunError String :=
  match attempt.ending with
  | some ⟨_, .error .cancelled⟩ => .error .givenUp
  | some ending => ending.result
  | none => .error .endless

end Attempt

/-- What a question waits for. -/
inductive Phase where
  /-- A process that starts. -/
  | starting (number : Nat) (child : Child)
  /-- The attempts, until the round is over. -/
  | racing (roundEnd : Option Instant)
  /-- The attempts that are left. -/
  | draining

/-- A question that waits. -/
structure Call where
  args : List String
  /-- How many rounds have begun. -/
  rounds : Nat
  /-- The attempts that were not read yet, in the order of their rounds. -/
  live : List Attempt
  phase : Phase
  /-- When the phase began. -/
  since : Instant

/-- What a step of a question comes to. -/
inductive Progress where
  | waiting (call : Call)
  | ended (result : Except RunError String)

/-- What becomes of a process that a question starts. -/
inductive Arrival where
  | there
  /-- It could not be started, and a warning reports it. -/
  | absent (report : String)
  /-- It could not be started, which ends the question. -/
  | failed (error : RunError)

/-- The report of an attempt that could not be started. -/
def refusalReport (slot : Nat) (reason : String) : String :=
  s!"flow attempt {slot} failed to start: {reason}"

/-- What becomes of a process in a round. The warning of a refused start is a text with tags, and the
console may object to it. -/
def Tool.arrival (tool : Tool) (slot : Nat) (child : Child) : Arrival :=
  match child.startFault with
  | none => .there
  | some (.refused code text) =>
    let report := refusalReport slot (RunError.startMessage tool.program code text)
    match tool.console.objection ("[yellow]Warning:[/] " ++ report) with
    | none => .absent report
    | some objection => .failed (.unprintable objection)
  | some (.crash text) => .failed (.crashed text)

namespace Session

/-- Notes that an attempt was killed at its limit. -/
def noteLimit (session : Session) (attempt : Attempt) (now : Instant) : Session :=
  match attempt.limitKill with
  | some instant => if instant ≤ now then session.kill attempt.number instant else session
  | none => session

/-- Notes the ends of the attempts that are read. -/
def readAttempts (session : Session) (attempts : List Attempt) (now : Instant) : Session :=
  attempts.foldl (fun session attempt => (session.noteLimit attempt now).see attempt.number) session

/-- Kills an attempt that still runs and was not killed before. -/
def stopAttempt (session : Session) (now : Instant) (attempt : Attempt) : Session :=
  if attempt.isOver now ∨ reached attempt.limitKill now then session.noteLimit attempt now
  else
    let session := session.kill attempt.number now
    match attempt.child.killFault with
    | some (.refused text) => session.say s!"Failed to kill flow attempt {attempt.slot}: {text}"
    | _ => session

/-- Kills the attempts that still run. -/
def stopAttempts (session : Session) (attempts : List Attempt) (now : Instant) : Session :=
  attempts.foldl (fun session attempt => session.stopAttempt now attempt) session

end Session

/-- What attempts that are read together come to: the first success, else the first failure. -/
def verdict : List (Except RunError String) → Except RunError String
  | [] => .error .endless
  | first :: rest =>
    match (first :: rest).findSome? Except.toOption with
    | some text => .ok text
    | none => first

namespace Call

/-- The first instant at which an attempt is over. -/
def firstEnd? (call : Call) : Option Instant :=
  (call.live.map Attempt.endTime?).foldl earlier none

/-- The instant of the next step, if anything more happens. -/
def due? (call : Call) : Option Instant :=
  match call.phase with
  | .starting _ child => some (call.since + child.startup)
  | .racing roundEnd => (earlier call.firstEnd? roundEnd).map (max call.since)
  | .draining => call.firstEnd?.map (max call.since)

/-- A process is there, or could not be started. -/
def arrive (call : Call) (tool : Tool) (policy : Policy) (number : Nat) (child : Child)
    (now : Instant) (session : Session) : Progress × Session :=
  let racing : Phase := .racing (after now (policy.roundSpan call.rounds))
  match tool.arrival call.rounds child with
  | .there =>
    let attempt : Attempt :=
      ⟨call.rounds, number, child, child.limitKill? now policy.limit none,
        child.ending call.args now policy.limit none⟩
    (.waiting ⟨call.args, call.rounds + 1, call.live ++ [attempt], racing, now⟩,
      session.start number now)
  | .absent report =>
    (.waiting ⟨call.args, call.rounds + 1, call.live, racing, now⟩,
      session.say ("Warning: " ++ report))
  | .failed error => (.ended (.error error), session.stopAttempts call.live now)

/-- The next round, or the wait for what is left. -/
def nextRound (call : Call) (tool : Tool) (policy : Policy) (now : Instant) (session : Session) :
    Progress × Session :=
  if call.rounds < policy.retries then
    let (number, child, session) := session.launch tool call.args now
    if child.startup = 0 then call.arrive tool policy number child now session
    else (.waiting { call with phase := .starting number child, since := now }, session)
  else if call.live = [] then (.ended (.error (.exhausted call.args)), session)
  else (.waiting { call with phase := .draining, since := now }, session)

/-- Reads the attempts that are over. -/
def race (call : Call) (tool : Tool) (policy : Policy) (now : Instant) (session : Session) :
    Progress × Session :=
  let finished := call.live.filter fun attempt => attempt.isOver now
  let call := { call with live := call.live.filter fun attempt => !attempt.isOver now }
  if finished = [] then call.nextRound tool policy now session
  else
    let session := session.readAttempts finished now
    match verdict (finished.map Attempt.result) with
    | .ok text => (.ended (.ok text), session.stopAttempts call.live now)
    | .error error =>
      if error.isRetryable then call.nextRound tool policy now session
      else (.ended (.error error), session.stopAttempts call.live now)

/-- The step of a question at its instant. -/
def step (call : Call) (tool : Tool) (policy : Policy) (now : Instant) (session : Session) :
    Progress × Session :=
  match call.phase with
  | .starting number child => call.arrive tool policy number child now session
  | .racing _ => call.race tool policy now session
  | .draining => call.race tool policy now session

/-- Asks a question. -/
def begin (args : List String) (tool : Tool) (policy : Policy) (now : Instant)
    (session : Session) : Progress × Session :=
  nextRound ⟨args, 0, [], .draining, now⟩ tool policy now session

/-- Gives a question up: what runs is killed. -/
def cancel (call : Call) (now : Instant) (session : Session) : Session :=
  session.stopAttempts call.live now

/-- A bound on the number of steps of a question. -/
def bound (policy : Policy) : Nat := 3 * policy.retries + 2

/-- Follows a question to its end: when it ends, and with which result. It may be given up at an
instant. -/
def follow (tool : Tool) (policy : Policy) (giveUp : Option Instant) :
    (fuel : Nat) → Instant → Progress → Session → Instant × Except RunError String × Session
  | _, now, .ended result, session => (now, result, session)
  | 0, now, .waiting _, session => (now, .error .endless, session)
  | fuel + 1, now, .waiting call, session =>
    match call.due?, giveUp with
    | none, none => (now, .error .endless, session)
    | none, some instant => (instant, .error .cancelled, call.cancel instant session)
    | some due, some instant =>
      if instant < due then (instant, .error .cancelled, call.cancel instant session)
      else
        let (progress, session) := call.step tool policy due session
        follow tool policy giveUp fuel due progress session
    | some due, none =>
      let (progress, session) := call.step tool policy due session
      follow tool policy giveUp fuel due progress session

/-- Asks a question and waits for the answer. -/
def run (args : List String) (tool : Tool) (policy : Policy) (giveUp : Option Instant)
    (now : Instant) (session : Session) : Instant × Except RunError String × Session :=
  let (progress, session) := begin args tool policy now session
  follow tool policy giveUp (bound policy) now progress session

end Call

end TypeSchema
