/-
**Delays that can be cut short.**

* `Delay`: pending until an instant, resolved with a value, or abandoned;
* `Delay.advance`: a pending delay resolves with its own value once its instant has come;
* `Delay.cancel`: a pending delay resolves with the given value, or is abandoned for ever;
* `Delay.wait`: a delay while one waits, until an instant or for ever;
* `Agenda`: named delays and a clock.

Neither time nor a second cancel changes a delay that is no longer pending.
-/

import TypeSchema.Clock.Duration

namespace TypeSchema

/-- A value that comes at an instant. -/
inductive Delay (α : Type) where
  /-- Nothing has happened yet; the instant of the value may never come. -/
  | pending (due : Option Instant) (value : α)
  | resolved (value : α)
  | abandoned
deriving DecidableEq, Repr

namespace Delay

variable {α : Type}

/-- A delay that begins now. -/
def schedule (now : Instant) (span : Span) (value : α) : Delay α := pending (after now span) value

/-- A delay when time has come to an instant. -/
def advance (now : Instant) : Delay α → Delay α
  | pending due value => if reached due now then resolved value else pending due value
  | resolved value => resolved value
  | abandoned => abandoned

/-- A delay that is cut short, with the value that it resolves with, none to abandon it. -/
def cancel (value : Option α) : Delay α → Delay α
  | pending _ _ =>
    match value with
    | some value => resolved value
    | none => abandoned
  | resolved value => resolved value
  | abandoned => abandoned

/-- A delay when one has waited until an instant, or for ever. -/
def wait : Option Instant → Delay α → Delay α
  | some stop, delay => delay.advance stop
  | none, pending (some _) value => resolved value
  | none, delay => delay

/-- Whether nothing has happened yet. -/
def isPending : Delay α → Bool
  | pending _ _ => true
  | _ => false

/-- The value that a delay has resolved with. -/
def value? : Delay α → Option α
  | resolved value => some value
  | _ => none

/-- The instant at which a pending delay is due. -/
def due? : Delay α → Option Instant
  | pending due _ => due
  | _ => none

end Delay

/-- Named delays, in the order in which they were first scheduled, and the present instant. -/
structure Agenda (α : Type) where
  now : Instant
  delays : List (String × Delay α)

namespace Agenda

variable {α : Type}

/-- The beginning of time. -/
def empty : Agenda α := ⟨0, []⟩

/-- The delays with one of them set; a new name comes last. -/
def put (name : String) (delay : Delay α) : List (String × Delay α) → List (String × Delay α)
  | [] => [(name, delay)]
  | (other, old) :: rest =>
    if other = name then (name, delay) :: rest else (other, old) :: put name delay rest

/-- Schedules a delay. -/
def schedule (agenda : Agenda α) (name : String) (span : Span) (value : α) : Agenda α :=
  { agenda with delays := put name (.schedule agenda.now span value) agenda.delays }

/-- Cuts a delay short. -/
def cancel (agenda : Agenda α) (name : String) (value : Option α) : Agenda α :=
  match agenda.delays.lookup name with
  | some delay => { agenda with delays := put name (delay.cancel value) agenda.delays }
  | none => agenda

/-- Lets time come to an instant. -/
def advanceTo (agenda : Agenda α) (now : Instant) : Agenda α :=
  ⟨now, agenda.delays.map fun (name, delay) => (name, delay.advance now)⟩

/-- Lets a span pass. -/
def advance (agenda : Agenda α) (span : Nat) : Agenda α := agenda.advanceTo (agenda.now + span)

/-- Lets time come to the instant of a delay, if it is pending. -/
def await (agenda : Agenda α) (name : String) : Agenda α :=
  match (agenda.delays.lookup name).bind Delay.due? with
  | some due => agenda.advanceTo (max agenda.now due)
  | none => agenda

end Agenda

end TypeSchema
