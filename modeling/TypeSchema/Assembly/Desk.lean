/-
**Who answers the questions.**

A `Desk` takes questions at instants and answers them while time passes; what it leaves behind is
its world. `Desk.ofTool` asks a program: each question is asked again as its policy says, and its
processes and lines are in a session.
-/

import TypeSchema.Flow.Command

namespace TypeSchema

/-- What becomes of a question for now. -/
inductive Reply (Pending : Type) where
  | waiting (pending : Pending)
  | answered (result : Except RunError String)

/-- Those who answer questions. -/
structure Desk (World Pending : Type) where
  /-- Asks a question. -/
  begin : Command → Instant → World → Reply Pending × World
  /-- When a question that waits is to be seen to, if ever. -/
  due? : Pending → Option Instant
  /-- Sees to a question that waits. -/
  step : Pending → Instant → World → Reply Pending × World
  /-- Gives a question up. -/
  cancel : Pending → Instant → World → World
  /-- Prints a line. -/
  say : String → World → World
  /-- How often a question is seen to at most. -/
  bound : Nat

/-- A step of a question as a reply. -/
def Command.reply (command : Command) : Progress → Reply (Command × Call)
  | .waiting call => .waiting (command, call)
  | .ended result => .answered (command.answer result)

/-- A program that is asked under a policy. -/
def Desk.ofTool (tool : Tool) (policy : Policy) : Desk Session (Command × Call) where
  begin command now session :=
    let (progress, session) := Call.begin command.args tool policy now session
    (command.reply progress, session)
  due? pending := pending.2.due?
  step pending now session :=
    let (progress, session) := pending.2.step tool policy now session
    (pending.1.reply progress, session)
  cancel pending now session := pending.2.cancel now session
  say line session := session.say line
  bound := Call.bound policy

end TypeSchema
