/-
**What a desk answers.**

* `Desk.Gives`: the answers that may come of a question, whatever else happens while it waits;
* `Desk.ComesWithin`: an answer comes after at most so many steps, if it comes;
* `Desk.Answers`: **a question has one answer**, and it comes after finitely many steps;
* `Desk.Prints`: of the lines that are watched, a desk prints only those that it is told to say.
-/

import TypeSchema.Assembly.Desk
import TypeSchema.Assembly.Resolution

namespace TypeSchema

namespace Desk

variable {World Pending : Type}

/-- The answers that may come of a question from an instant on. A question that waits is seen to
when it is due, and the world may be any other one by then. -/
inductive Gives (desk : Desk World Pending) :
    Instant → Reply Pending → Except RunError String → Prop where
  | answered (now : Instant) (answer : Except RunError String) :
      Gives desk now (.answered answer) answer
  | waiting {now due : Instant} {pending : Pending} {world : World}
      {answer : Except RunError String} (isDue : desk.due? pending = some due)
      (later : Gives desk (max now due) (desk.step pending (max now due) world).1 answer) :
      Gives desk now (.waiting pending) answer

/-- The answers that a question may have. -/
def MayAnswer (desk : Desk World Pending) (command : Command) (answer : Except RunError String) :
    Prop :=
  ∃ now world, desk.Gives now (desk.begin command now world).1 answer

/-- An answer comes after at most so many steps, whatever else happens. Unless answers have to be
`prompt`, a question may also wait for ever. -/
inductive ComesWithin (desk : Desk World Pending) (prompt : Prop) :
    Nat → Instant → Reply Pending → Prop where
  | answered (steps : Nat) (now : Instant) (answer : Except RunError String) :
      ComesWithin desk prompt steps now (.answered answer)
  | waiting {steps : Nat} {now : Instant} {pending : Pending}
      (isDue : prompt → (desk.due? pending).isSome)
      (later : ∀ due, desk.due? pending = some due → ∀ world,
        ComesWithin desk prompt steps (max now due) (desk.step pending (max now due) world).1) :
      ComesWithin desk prompt (steps + 1) now (.waiting pending)

/-- A question has one answer. It comes after finitely many steps, whatever else happens. -/
inductive Answers (desk : Desk World Pending) (answer : Except RunError String) :
    Instant → Reply Pending → Prop where
  | answered (now : Instant) : Answers desk answer now (.answered answer)
  | waiting {now due : Instant} {pending : Pending} (isDue : desk.due? pending = some due)
      (later : ∀ world, Answers desk answer (max now due)
        (desk.step pending (max now due) world).1) :
      Answers desk answer now (.waiting pending)

/-- Of the lines that are watched, a desk prints only the ones that report skipped exports, when it
is told to. -/
structure Prints (desk : Desk World Pending) (printed : World → List String) : Prop where
  begin : ∀ command now world, printed (desk.begin command now world).2 = printed world
  step : ∀ pending now world, printed (desk.step pending now world).2 = printed world
  say : ∀ name reason world,
    printed (desk.say (skipLine name reason) world) = printed world ++ [skipLine name reason]

variable {desk : Desk World Pending} {answer other : Except RunError String} {now : Instant}
  {reply : Reply Pending}

theorem Answers.gives (answers : desk.Answers answer now reply)
    (gives : desk.Gives now reply other) : other = answer := by
  induction answers with
  | answered =>
    cases gives
    rfl
  | waiting isDue _ ih =>
    cases gives with
    | waiting isDue' later =>
      cases isDue.symm.trans isDue'
      exact ih _ later

end Desk

end TypeSchema
