/-
**Several exports at a time.**

Jobs take turns. What happens at one instant happens in turns, and in each turn in the order in
which it was planned.

* `Pool`: the places that are free, the jobs that wait for one, the events to come, and what the
  finished jobs came to. No more jobs run at a time than there are places;
* `Pool.handle`: a job arrives and takes a place or waits for one; a job whose turn it is goes on
  until it waits for an answer or ends; its place is then handed to the next job in the next turn;
* a failure is reported in the turn after it, once the place is handed on, and stops the others one
  turn later. A question never has its answer so soon;
* `Pool.run`: the registry of all findings, or the failure that was reported first.
-/

import TypeSchema.Assembly.Desk
import TypeSchema.Assembly.Resolution

namespace TypeSchema

/-- What happens to a job or to all of them. -/
inductive Event (Pending : Type) where
  /-- A job needs a place. -/
  | arrive (job : Inquiry Finding)
  /-- A job has got a place. -/
  | enter (job : Inquiry Finding)
  /-- A question is to be seen to. -/
  | resume (pending : Pending) (next : Except RunError String → Inquiry Finding)
  /-- A job has failed. -/
  | report (error : AssemblyError)
  /-- All jobs are given up. -/
  | stop (error : AssemblyError)

/-- An event with its instant, if it ever happens, and its turn. -/
structure Planned (Pending : Type) where
  time : Option Instant
  turn : Nat
  event : Event Pending

/-- Whether an event comes before another one that was planned earlier. -/
def Planned.precedes {Pending : Type} (later earlier : Planned Pending) : Bool :=
  match later.time, earlier.time with
  | none, _ => false
  | some _, none => true
  | some instant, some other =>
    instant < other || (instant == other && later.turn < earlier.turn)

/-- Places, jobs, and what they came to. -/
structure Pool (World Pending : Type) where
  /-- How many places are free. -/
  free : Nat
  /-- The jobs that wait for a place. -/
  waiting : List (Inquiry Finding)
  /-- The events to come, the next one first. -/
  agenda : List (Planned Pending)
  registry : Registry
  world : World

/-- How many turns an answer takes that comes at once. -/
def answerTurns : Nat := 8

namespace Pool

variable {World Pending : Type}

/-- Events with one more of them; it comes after those of its turn. -/
def insert (new : Planned Pending) : List (Planned Pending) → List (Planned Pending)
  | [] => [new]
  | old :: rest => if new.precedes old then new :: old :: rest else old :: insert new rest

/-- Plans an event. -/
def plan (time : Option Instant) (turn : Nat) (event : Event Pending)
    (pool : Pool World Pending) : Pool World Pending :=
  { pool with agenda := insert ⟨time, turn, event⟩ pool.agenda }

/-- A pool in which jobs arrive. -/
def ofJobs (places : Nat) (jobs : List (Inquiry Finding)) (now : Instant) (world : World) :
    Pool World Pending :=
  ⟨places, [], jobs.map fun job => ⟨some now, 0, .arrive job⟩, .empty, world⟩

/-- Hands a place on: to the job that waits longest, in the next turn. -/
def leave (now : Instant) (turn : Nat) (pool : Pool World Pending) : Pool World Pending :=
  match pool.waiting with
  | [] => { pool with free := pool.free + 1 }
  | job :: rest => { pool with waiting := rest }.plan (some now) (turn + 1) (.enter job)

/-- Takes down what a job found. -/
def record (desk : Desk World Pending) (finding : Finding) (pool : Pool World Pending) :
    Except AssemblyError Unit × Pool World Pending :=
  let world := finding.line?.toList.foldl (fun world line => desk.say line world) pool.world
  match pool.registry.record finding with
  | .ok registry => (.ok (), { pool with registry := registry, world := world })
  | .error error => (.error (.duplicate error), { pool with world := world })

/-- A job ends. -/
def conclude (desk : Desk World Pending) (now : Instant) (turn : Nat)
    (result : Except AssemblyError Finding) (pool : Pool World Pending) : Pool World Pending :=
  let (outcome, pool) := match result with
    | .ok finding => pool.record desk finding
    | .error error => (.error error, pool)
  match outcome with
  | .ok () => pool.leave now turn
  | .error error => (pool.leave now turn).plan (some now) (turn + 1) (.report error)

/-- Waits for an answer. -/
def await (desk : Desk World Pending) (now : Instant) (turn : Nat) (pending : Pending)
    (next : Except RunError String → Inquiry Finding) (pool : Pool World Pending) :
    Pool World Pending :=
  let due := (desk.due? pending).map (max now)
  pool.plan due (if due = some now then turn + answerTurns else 0) (.resume pending next)

/-- Goes on with an inquiry until it waits or is settled. -/
def pursue (desk : Desk World Pending) (now : Instant) (turn : Nat) :
    Inquiry Finding → Pool World Pending → Pool World Pending
  | .settled result, pool => pool.conclude desk now turn result
  | .ask command next, pool =>
    match desk.begin command now pool.world with
    | (.waiting pending, world) =>
      { pool with world := world }.await desk now turn pending next
    | (.answered result, world) =>
      pursue desk now turn (next result) { pool with world := world }

/-- An event happens; none if it stops all jobs. -/
def handle (desk : Desk World Pending) (now : Instant) (turn : Nat) (event : Event Pending)
    (pool : Pool World Pending) : Except AssemblyError (Pool World Pending) :=
  match event with
  | .arrive job =>
    match pool.free with
    | 0 => .ok { pool with waiting := pool.waiting ++ [job] }
    | free + 1 => .ok ({ pool with free := free }.pursue desk now turn job)
  | .enter job => .ok (pool.pursue desk now turn job)
  | .resume pending next =>
    match desk.step pending now pool.world with
    | (.waiting pending, world) =>
      .ok ({ pool with world := world }.await desk now turn pending next)
    | (.answered result, world) =>
      .ok ({ pool with world := world }.pursue desk now turn (next result))
  | .report error => .ok (pool.plan (some now) (turn + 1) (.stop error))
  | .stop error => .error error

/-- Gives up the question of an event. -/
def giveUp (desk : Desk World Pending) (now : Instant) (world : World) (planned : Planned Pending) :
    World :=
  match planned.event with
  | .resume pending _ => desk.cancel pending now world
  | _ => world

/-- Gives up all questions that wait. -/
def abandon (desk : Desk World Pending) (now : Instant) (pool : Pool World Pending) : World :=
  pool.agenda.foldl (giveUp desk now) pool.world

/-- Lets events happen until there are none, or one stops all jobs. -/
def finish (desk : Desk World Pending) :
    (fuel : Nat) → Instant → Pool World Pending → Except AssemblyError Registry × World
  | fuel, now, pool =>
    match pool.agenda, fuel with
    | [], _ => (.ok pool.registry, pool.world)
    | ⟨some time, turn, event⟩ :: rest, fuel + 1 =>
      match { pool with agenda := rest }.handle desk time turn event with
      | .error error => (.error error, { pool with agenda := rest }.abandon desk time)
      | .ok pool => finish desk fuel time pool
    | _ :: _, _ => (.error (.run .endless), pool.abandon desk now)

/-- Runs jobs from an instant on. `questions` bounds how many questions a job asks. -/
def run (desk : Desk World Pending) (places questions : Nat) (jobs : List (Inquiry Finding))
    (now : Instant) (world : World) : Except AssemblyError Registry × World :=
  let fuel := jobs.length * (questions * (desk.bound + 1) + 4)
  finish desk fuel now (ofJobs places jobs now world)

end Pool

end TypeSchema
