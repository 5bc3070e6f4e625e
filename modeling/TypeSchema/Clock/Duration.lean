/-
**Time.**

An instant is a count of nanoseconds since the beginning of a run, and a span of time is a count of
them too; one without end is none. `Binary64.span?` reads seconds, with a span below zero as zero.
-/

import TypeSchema.Number.Binary64

namespace TypeSchema

/-- Nanoseconds since the beginning of a run. -/
abbrev Instant := Nat

/-- A count of nanoseconds, none without end. -/
abbrev Span := Option Nat

/-- How many nanoseconds a second has. -/
def perSecond : Nat := 1000000000

/-- The span of a number of seconds. -/
def Binary64.span? : Binary64 → Span
  | .nan => some 0
  | .infinite negative => if negative then some 0 else none
  | .finite negative units _ =>
    some (if negative then 0 else roundHalfEven (units * perSecond) unitsPerOne)

/-- The instant that lies a span after another, if there is one. -/
def after (start : Instant) (span : Span) : Option Instant := span.map (start + ·)

/-- The nearest count of milliseconds; a half goes to the even neighbour. -/
def milliseconds (instant : Instant) : Nat := roundHalfEven instant (perSecond / 1000)

/-- Whether an instant that may never come has come. -/
def reached (instant : Option Instant) (now : Instant) : Bool := instant.any (· ≤ now)

/-- The earlier one of two instants that may never come. -/
def earlier : Option Instant → Option Instant → Option Instant
  | none, second => second
  | first, none => first
  | some first, some second => some (min first second)

end TypeSchema
