/-
**What decides a delay.**

* `Delay.Event`: time passes, or the delay is cut short;
* `Delay.Event.Decides`: an event that ends a delay that is still pending; `Delay.Quiet`: none of
  the events does;
* `Delay.run_of_quiet`, `Delay.run_of_first`: **until the first such event a delay is pending, and
  from then on nothing changes it**;
* `Delay.quiet_or_first`: whatever happens, there is a first such event or none at all;
* `Delay.decidedOnce_schedule`: **every delay is decided once**;
* `Delay.value?_wait_schedule`: what a delay comes to while one waits, also for ever.
-/

import Mathlib.Algebra.BigOperators.Group.List.Basic
import Mathlib.Algebra.GroupWithZero.Nat
import TypeSchema.Clock.Delay

namespace TypeSchema

/-- A negative number of seconds is no time. -/
theorem Binary64.span?_of_negative {seconds : Binary64}
    (negative : seconds.compareInt? 0 = some .lt) : seconds.span? = some 0 := by
  cases seconds with
  | nan => rfl
  | infinite isNegative => cases isNegative <;> simp_all [compareInt?, span?]
  | finite isNegative units =>
    cases isNegative with
    | true => rfl
    | false =>
      have compared : some (compare (signedUnits false units) (0 * unitsPerOne)) = some .lt := negative
      rw [Int.zero_mul, Option.some.injEq, Int.compare_eq_lt] at compared
      exact (Int.not_lt.mpr (Int.natCast_nonneg units) compared).elim

namespace Delay

variable {α : Type}

/-! ### Events -/

/-- Something that happens to a delay. -/
inductive Event (α : Type) where
  /-- A span of time passes. -/
  | elapse (span : Nat)
  /-- The delay is cut short, with the value that it resolves with, none to abandon it. -/
  | cancel (value : Option α)

namespace Event

/-- How long an event takes. -/
def span : Event α → Nat
  | elapse span => span
  | cancel _ => 0

/-- Whether an event at an instant ends a delay that is still pending. -/
def Decides (due : Option Instant) (now : Instant) : Event α → Prop
  | elapse span => reached due (now + span) = true
  | cancel _ => True

/-- What a delay with a value comes to by an event that ends it. -/
def outcome (value : α) : Event α → Delay α
  | elapse _ => resolved value
  | cancel (some other) => resolved other
  | cancel none => abandoned

end Event

/-- A delay after an event at an instant. -/
def react (delay : Delay α) (now : Instant) : Event α → Delay α
  | .elapse span => delay.advance (now + span)
  | .cancel value => delay.cancel value

/-- A delay after several events, the first one at an instant. -/
def run (delay : Delay α) (now : Instant) : List (Event α) → Delay α
  | [] => delay
  | event :: rest => (delay.react now event).run (now + event.span) rest

/-- The instant at which some events are over. -/
def clock (now : Instant) (events : List (Event α)) : Instant := now + (events.map Event.span).sum

/-- None of the events ends a delay that is due at an instant. -/
def Quiet (due : Option Instant) (now : Instant) (events : List (Event α)) : Prop :=
  ∀ before event after, events = before ++ event :: after →
    ¬ event.Decides due (clock now before)

variable {delay : Delay α} {due : Option Instant} {now : Instant} {value : α} {event : Event α}
  {before events rest : List (Event α)}

theorem clock_cons (now : Instant) (event : Event α) (rest : List (Event α)) :
    clock now (event :: rest) = clock (now + event.span) rest := by
  rw [clock, clock, List.map_cons, List.sum_cons, Nat.add_assoc]

theorem quiet_nil : Quiet due now ([] : List (Event α)) := by
  intro before event after parts
  simp at parts

theorem quiet_cons_iff :
    Quiet due now (event :: rest) ↔ ¬ event.Decides due now ∧ Quiet due (now + event.span) rest := by
  constructor
  · refine fun quiet => ⟨quiet [] event rest rfl, fun before other after parts => ?_⟩
    rw [← clock_cons]
    exact quiet (event :: before) other after (by rw [parts, List.cons_append])
  · rintro ⟨first, quiet⟩ before other after parts
    cases before with
    | nil =>
      obtain ⟨rfl, -⟩ := List.cons.inj parts
      exact first
    | cons head between =>
      obtain ⟨rfl, later⟩ := List.cons.inj parts
      rw [clock_cons]
      exact quiet between other after later

/-! ### One event -/

/-- A delay that is over does not react any more. -/
theorem react_of_not_pending (isOver : delay.isPending = false) (now : Instant) (event : Event α) :
    delay.react now event = delay := by
  cases delay with
  | pending => cases isOver
  | resolved => cases event <;> rfl
  | abandoned => cases event <;> rfl

/-- A pending delay reacts to an event that decides it. -/
theorem react_of_decides (decides : event.Decides due now) :
    (pending due value).react now event = event.outcome value := by
  cases event with
  | elapse span => exact if_pos decides
  | cancel other => cases other <;> rfl

/-- A pending delay does not react to other events. -/
theorem react_of_not_decides (waits : ¬ event.Decides due now) :
    (pending due value).react now event = pending due value := by
  cases event with
  | elapse span => exact if_neg waits
  | cancel other => exact (waits trivial).elim

theorem isPending_outcome (value : α) (event : Event α) :
    (event.outcome value).isPending = false := by
  cases event with
  | elapse span => rfl
  | cancel other => cases other <;> rfl

/-- A delay that is cut short is over. -/
theorem isPending_cancel (value : Option α) (delay : Delay α) :
    (delay.cancel value).isPending = false := by
  cases delay with
  | pending => cases value <;> rfl
  | resolved => rfl
  | abandoned => rfl

/-- A delay that is abandoned keeps the value that it has resolved with. -/
theorem value?_cancel_none (delay : Delay α) : (delay.cancel none).value? = delay.value? := by
  cases delay <;> rfl

/-! ### Any events -/

theorem run_append (delay : Delay α) (now : Instant) (before after : List (Event α)) :
    delay.run now (before ++ after) = (delay.run now before).run (clock now before) after := by
  induction before generalizing delay now with
  | nil => rfl
  | cons event before ih => rw [List.cons_append, run, run, ih, clock_cons]

/-- **A delay that is over stays as it is.** -/
theorem run_of_not_pending (isOver : delay.isPending = false) (now : Instant)
    (events : List (Event α)) : delay.run now events = delay := by
  induction events generalizing now with
  | nil => rfl
  | cons event rest ih => rw [run, react_of_not_pending isOver, ih]

/-- **A delay is pending while no event decides it.** -/
theorem run_of_quiet (quiet : Quiet due now events) :
    (pending due value).run now events = pending due value := by
  induction events generalizing now with
  | nil => rfl
  | cons event rest ih =>
    obtain ⟨waits, quiet⟩ := quiet_cons_iff.mp quiet
    rw [run, react_of_not_decides waits, ih quiet]

/-- **The first event that decides a delay counts**, and no later one does. -/
theorem run_of_first (quiet : Quiet due now before) (decides : event.Decides due (clock now before))
    (value : α) (after : List (Event α)) :
    (pending due value).run now (before ++ event :: after) = event.outcome value := by
  rw [run_append, run_of_quiet quiet, run, react_of_decides decides,
    run_of_not_pending (isPending_outcome value event)]

/-- One of the events is the first that decides a delay, or none decides it. -/
theorem quiet_or_first (due : Option Instant) (now : Instant) (events : List (Event α)) :
    Quiet due now events ∨ ∃ before event after, events = before ++ event :: after ∧
      Quiet due now before ∧ event.Decides due (clock now before) := by
  induction events generalizing now with
  | nil => exact .inl quiet_nil
  | cons event rest ih =>
    by_cases decides : event.Decides due now
    · exact .inr ⟨[], event, rest, rfl, quiet_nil, decides⟩
    · rcases ih (now + event.span) with quiet | ⟨before, first, after, rfl, quiet, decided⟩
      · exact .inl (quiet_cons_iff.mpr ⟨decides, quiet⟩)
      · refine .inr ⟨event :: before, first, after, rfl, quiet_cons_iff.mpr ⟨decides, quiet⟩, ?_⟩
        rwa [clock_cons]

/-- **A delay is pending exactly before the first event that decides it.** -/
theorem isPending_run_iff :
    ((pending due value).run now events).isPending = true ↔ Quiet due now events := by
  rcases quiet_or_first due now events with quiet | ⟨before, event, after, rfl, quiet, decides⟩
  · rw [run_of_quiet quiet]
    exact iff_of_true rfl quiet
  · rw [run_of_first quiet decides, isPending_outcome]
    exact iff_of_false Bool.false_ne_true fun all => all before event after rfl decides

/-- A delay that begins at an instant is decided by the first event that can, and by no other. -/
structure DecidedOnce (delay : Delay α) (start : Instant) (due : Option Instant) (value : α) :
    Prop where
  waits : ∀ events, Quiet due start events → delay.run start events = pending due value
  decided : ∀ before event after, Quiet due start before →
    event.Decides due (clock start before) →
      delay.run start (before ++ event :: after) = event.outcome value
  /-- Nothing decides it, or something does first. -/
  quietOrFirst : ∀ events : List (Event α), Quiet due start events ∨ ∃ before event after,
    events = before ++ event :: after ∧ Quiet due start before ∧
      event.Decides due (clock start before)
  isPending : ∀ events, (delay.run start events).isPending = true ↔ Quiet due start events
  once : ∀ before after, (delay.run start before).isPending = false →
    delay.run start (before ++ after) = delay.run start before

/-- **Every delay is decided once.** -/
theorem decidedOnce_schedule (start : Instant) (span : Span) (value : α) :
    (schedule start span value).DecidedOnce start (after start span) value where
  waits _ quiet := run_of_quiet quiet
  decided _ _ after quiet decides := run_of_first quiet decides value after
  quietOrFirst := quiet_or_first _ _
  isPending _ := isPending_run_iff
  once _ _ isOver := by rw [run_append, run_of_not_pending isOver]

/-! ### Waiting -/

/-- Whether what is due at an instant, if ever, is due while one waits. -/
def DueBy (stop due : Option Instant) : Prop :=
  ∃ instant, due = some instant ∧ ∀ last, stop = some last → instant ≤ last

/-- **A delay has its value after a wait** exactly if it was due by then. -/
theorem value?_wait_schedule (start : Instant) (span : Span) (value : α) (stop : Option Instant) :
    DueBy stop (after start span) ∧ ((schedule start span value).wait stop).value? = some value ∨
      ¬ DueBy stop (after start span) ∧ ((schedule start span value).wait stop).value? = none := by
  rw [schedule]
  cases isDue : after start span with
  | none => exact .inr ⟨by rintro ⟨_, ⟨⟩, -⟩, by cases stop <;> rfl⟩
  | some due =>
    cases stop with
    | none => exact .inl ⟨⟨due, rfl, nofun⟩, rfl⟩
    | some last =>
      by_cases passed : due ≤ last
      · exact .inl ⟨⟨due, rfl, by rintro _ ⟨⟩; exact passed⟩, by simp [wait, advance, reached, passed, value?]⟩
      · refine .inr ⟨?_, by simp [wait, advance, reached, passed, value?]⟩
        rintro ⟨_, ⟨⟩, inTime⟩
        exact passed (inTime last rfl)

end Delay

end TypeSchema
