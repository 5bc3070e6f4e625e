/-
**Inquiries.**

An `Inquiry` is settled, or asks the type checker a question and goes on with the answer. Nothing
else is in it: neither time nor the processes that answer.

* `Inquiry.bind`: goes on with what an inquiry comes to;
* `Inquiry.settle`: what an inquiry comes to if every question has an answer of its own;
* `Inquiry.questions`: the questions that are then asked, in order.
-/

import TypeSchema.Assembly.Error
import TypeSchema.Flow.Command

namespace TypeSchema

/-- What is asked, and what becomes of the answers. -/
inductive Inquiry (α : Type) where
  | settled (result : Except AssemblyError α)
  | ask (command : Command) (next : Except RunError String → Inquiry α)

namespace Inquiry

variable {α β : Type}

/-- An inquiry that fails. -/
def fail (error : AssemblyError) : Inquiry α := settled (.error error)

/-- Goes on with what an inquiry comes to. -/
def bind : Inquiry α → (α → Inquiry β) → Inquiry β
  | settled (.ok value), next => next value
  | settled (.error error), _ => settled (.error error)
  | ask command rest, next => ask command fun answer => (rest answer).bind next

instance : Monad Inquiry where
  pure value := settled (.ok value)
  bind := bind

/-- An inquiry without questions. -/
def ofExcept {ε : Type} (wrap : ε → AssemblyError) (result : Except ε α) : Inquiry α :=
  settled (result.mapError wrap)

/-- The answer to one question. -/
def answer (command : Command) : Inquiry String :=
  ask command fun result => ofExcept .run result

/-- What an inquiry comes to if every question has an answer of its own. -/
def settle (answers : Command → Except RunError String) : Inquiry α → Except AssemblyError α
  | settled result => result
  | ask command next => (next (answers command)).settle answers

/-- The questions of an inquiry if every question has an answer of its own. -/
def questions (answers : Command → Except RunError String) : Inquiry α → List Command
  | settled _ => []
  | ask command next => command :: (next (answers command)).questions answers

end Inquiry

end TypeSchema
