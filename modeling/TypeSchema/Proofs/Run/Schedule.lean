/-
**When the attempts of a question begin.**

* `Session.tries`: the processes that were started since, with the instants at which they began;
* `Policy.latest`: the time of the rounds before a slot, and what the earlier processes took to
  start; `Policy.Paced`: processes that begin by these instants, one after the other;
* `Call.Timely`: what holds of a question that waits, `Progress.Timely` of what a step comes to;
* `arrive_timely`, `nextRound_timely`, `race_timely`, `step_timely`, `begin_timely`: **each step
  keeps to the schedule**;
* `Runs.timely`: **so does a question until its end**, by induction on its steps.
-/

import Mathlib.Algebra.Order.BigOperators.Group.Finset
import Mathlib.Algebra.Order.BigOperators.Group.List
import Mathlib.Data.ENat.BigOperators
import Mathlib.Tactic.Abel
import TypeSchema.Proofs.Run.Races
import TypeSchema.Proofs.Run.Starts

namespace TypeSchema

open Call

/-! ### Time -/

/-- A span of time, or the instant after one; without end it is infinite. -/
def extent : Span → ℕ∞
  | some count => count
  | none => ⊤

@[simp] theorem extent_some (count : Nat) : extent (some count) = count := rfl

@[simp] theorem extent_none : extent none = ⊤ := rfl

theorem extent_after (now : Instant) (span : Span) :
    extent (after now span) = now + extent span := by
  cases span with
  | none => simp [after]
  | some count => simp [after]

theorem le_extent_of_earlier {first second : Option Instant} {time : Instant}
    (isEarlier : earlier first second = some time) : (time : ℕ∞) ≤ extent second := by
  cases second with
  | none => exact le_top
  | some later =>
    cases first with
    | none => simp_all [earlier]
    | some sooner =>
      simp only [earlier, Option.some.injEq] at isEarlier
      rw [extent_some, Nat.cast_le, ← isEarlier]
      exact Nat.min_le_right _ _

/-- How long the first rounds of a question last together. -/
noncomputable def Policy.roundsTime (policy : Policy) (rounds : Nat) : ℕ∞ :=
  ∑ round ∈ Finset.range rounds, extent (policy.roundSpan round)

theorem Policy.roundsTime_mono (policy : Policy) {fewer rounds : Nat} (order : fewer ≤ rounds) :
    policy.roundsTime fewer ≤ policy.roundsTime rounds :=
  Finset.sum_le_sum_of_subset (Finset.range_subset_range.mpr order)

/-! ### Processes -/

/-- A process, and when it began to start. -/
structure Origin where
  child : Child
  began : Instant
deriving DecidableEq

/-- When a process is there. -/
def Origin.start (origin : Origin) : Instant := origin.began + origin.child.startup

/-- Which process was started, and when. -/
def Launch.origin (launch : Launch) : Origin := ⟨launch.child, launch.began⟩

/-- How long processes take to start, one after the other. -/
def startups (tries : List Origin) : Nat := (tries.map fun origin => origin.child.startup).sum

namespace Session

variable (session : Session) (first number : Nat) (now : Instant)

/-- The processes that were started since, from a number on. -/
def tries : List Origin := (session.launches.drop first).map Launch.origin

variable {session}

theorem getElem?_tries {slot : Nat} {launch : Launch}
    (found : session.launches[first + slot]? = some launch) :
    (session.tries first)[slot]? = some launch.origin := by
  rw [tries, List.getElem?_map, List.getElem?_drop, found, Option.map_some]

theorem tries_of_stamps {after : Session} (same : after.stamps = session.stamps) :
    after.tries first = session.tries first := by
  have ofStamps (some : Session) : some.tries first =
      (some.stamps.drop first).map fun stamp => ⟨stamp.1, stamp.2.1⟩ := by
    rw [tries, stamps, ← List.map_drop, List.map_map]
    rfl
  rw [ofStamps, ofStamps, same]

theorem tries_start : (session.start number now).tries first = session.tries first := by
  simp only [tries, launches_start, update, List.map_drop]
  congr 1
  refine List.ext_getElem? fun other => ?_
  rw [List.getElem?_map, List.getElem?_map, List.getElem?_modify]
  cases session.launches[other]? with
  | none => rfl
  | some launch => by_cases same : number = other <;> simp [same, Launch.origin]

theorem tries_launch {first : Nat} (old : first ≤ session.launches.length) (tool : Tool)
    (args : List String) : (session.launch tool args now).2.2.tries first =
      session.tries first ++ [⟨(session.launch tool args now).2.1, now⟩] := by
  rw [tries, tries, launch, List.drop_append_of_le_length old, List.map_append]
  rfl

theorem length_tries {first rounds : Nat} (old : first ≤ session.launches.length)
    (length : (session.tries first).length = rounds) :
    session.launches.length = first + rounds := by
  rw [tries, List.length_map, List.length_drop] at length
  omega

end Session

/-! ### The schedule -/

namespace Policy

variable {policy : Policy} {start now : Instant} {tries more : List Origin} {child : Child}
  {slot : Nat}

/-- The latest instant at which the process of a slot begins: the rounds before it are over, and the
earlier processes are there. -/
noncomputable def latest (policy : Policy) (start : Instant) (tries : List Origin) (slot : Nat) :
    ℕ∞ :=
  start + policy.roundsTime slot + startups (tries.take slot)

theorem latest_append (inside : slot ≤ tries.length) :
    policy.latest start (tries ++ more) slot = policy.latest start tries slot := by
  rw [latest, latest, List.take_append_of_le_length inside]

/-- One more round. -/
theorem latest_concat (policy : Policy) (start : Instant) (tries : List Origin) (origin : Origin) :
    policy.latest start (tries ++ [origin]) (tries.length + 1) =
      policy.latest start tries tries.length + extent (policy.roundSpan tries.length) +
        origin.child.startup := by
  have whole : (tries ++ [origin]).take (tries.length + 1) = tries ++ [origin] :=
    List.take_of_length_le (by simp)
  rw [latest, latest, whole, List.take_length, roundsTime, Finset.sum_range_succ, ← roundsTime]
  simp only [startups, List.map_append, List.sum_append, List.map_singleton, List.sum_singleton,
    Nat.cast_add]
  abel

/-- No slot is later than all rounds and all processes together. -/
theorem latest_le {rounds : Nat} (inside : slot ≤ rounds) :
    policy.latest start tries slot ≤ start + policy.roundsTime rounds + startups tries := by
  have fewer : startups (tries.take slot) ≤ startups tries :=
    ((List.take_sublist slot tries).map _).sum_le_sum fun _ _ => Nat.zero_le _
  have rounds := policy.roundsTime_mono inside
  rw [latest]
  gcongr

/-- The processes of a question begin in time, one after the other. -/
structure Paced (policy : Policy) (start : Instant) (tries : List Origin) : Prop where
  few : tries.length ≤ policy.retries
  inTime : ∀ slot origin, tries[slot]? = some origin →
    start ≤ origin.began ∧ (origin.began : ℕ∞) ≤ policy.latest start tries slot
  oneByOne : tries.Pairwise fun earlier later => earlier.start ≤ later.began

theorem paced_nil (policy : Policy) (start : Instant) : policy.Paced start [] :=
  ⟨Nat.zero_le _, by simp, .nil⟩

/-- One more process. -/
theorem Paced.concat (paced : policy.Paced start tries) (child : Child)
    (room : tries.length < policy.retries) (order : start ≤ now)
    (there : ∀ origin ∈ tries, origin.start ≤ now)
    (inTime : (now : ℕ∞) ≤ policy.latest start tries tries.length) :
    policy.Paced start (tries ++ [⟨child, now⟩]) := by
  refine ⟨by simpa using room, fun slot origin found => ?_, ?_⟩
  · rcases Nat.lt_or_ge slot tries.length with old | new
    · rw [List.getElem?_append_left old] at found
      rw [latest_append old.le]
      exact paced.inTime slot origin found
    · rw [List.getElem?_append_right new, List.getElem?_singleton] at found
      split at found
      · cases found
        obtain rfl : slot = tries.length := by omega
        exact ⟨order, by rwa [latest_append (Nat.le_refl _)]⟩
      · cases found
  · refine List.pairwise_append.mpr ⟨paced.oneByOne, List.pairwise_singleton _ _, ?_⟩
    rintro origin member last isLast
    rw [List.mem_singleton.mp isLast]
    exact there origin member

end Policy

/-- How a phase stands in the schedule that begins after some rounds. -/
def Phase.Timely (policy : Policy) (first : Nat) (start : Instant) (rounds : Nat) (since : Instant)
    (tries : List Origin) : Phase → Prop
  | .starting number child => number = first + rounds ∧
    ∃ earlier, earlier.length = rounds ∧ tries = earlier ++ [⟨child, since⟩]
  | .racing roundEnd => tries.length = rounds ∧ (∀ origin ∈ tries, origin.start ≤ since) ∧
    since ≤ extent roundEnd ∧ extent roundEnd ≤ policy.latest start tries rounds
  | .draining => tries.length = rounds

/-- The attempts of a question are processes that could be started, one for each slot. -/
def Call.Slotted (call : Call) (first : Nat) : Prop :=
  ∀ attempt ∈ call.live, attempt.number = first + attempt.slot ∧ attempt.child.startFault = none

/-- A question that waits keeps to the schedule. -/
structure Call.Timely (call : Call) (args : List String) (policy : Policy) (first : Nat)
    (start : Instant) (tries : List Origin) : Prop where
  args : call.args = args
  order : start ≤ call.since
  slotted : call.Slotted first
  waits : call.phase = .draining → call.live ≠ []
  phase : call.phase.Timely policy first start call.rounds call.since tries

/-- What a step comes to keeps to the schedule. A failure is that of an attempt or of a start, unless
all processes have been started. -/
structure Progress.Timely (progress : Progress) (args : List String) (policy : Policy) (first : Nat)
    (start : Instant) (tries : List Origin) : Prop where
  paced : policy.Paced start tries
  waiting : ∀ call, progress = .waiting call → call.Timely args policy first start tries
  failed : ∀ error, progress = .ended (.error error) → error.IsOfAttempt ∨
    error.IsOfStart ∨
      (∃ args, error = .exhausted args) ∧ tries.length = policy.retries

/-! ### Attempts that are read together -/

/-- What a question ends with at a race is the result of an attempt that is read. -/
theorem exists_result_of_settle? {attempts : List Attempt} {result : Except RunError String}
    (settles : settle? attempts = some result) : ∃ attempt ∈ attempts, attempt.result = result := by
  have decides : attempts ≠ [] → verdict (attempts.map Attempt.result) ∈
      attempts.map Attempt.result := by
    intro some_
    cases found : (attempts.map Attempt.result).findSome? Except.toOption with
    | none =>
      obtain ⟨first, rest, rfl⟩ := List.exists_cons_of_ne_nil some_
      rw [List.map_cons] at found ⊢
      rw [verdict_of_none found]
      exact List.mem_cons_self
    | some text =>
      rw [verdict_of_some found]
      obtain ⟨result, member, isText⟩ := List.exists_of_findSome?_eq_some found
      cases result with
      | ok other =>
        cases isText
        exact member
      | error => cases isText
  rw [settle?] at settles
  split at settles
  · cases settles
  · rename_i some_
    have member := decides some_
    split at settles
    · rename_i text isText
      cases settles
      exact List.mem_map.mp (isText ▸ member)
    · rename_i error isError
      split at settles
      · cases settles
      · cases settles
        exact List.mem_map.mp (isError ▸ member)

/-! ### Steps -/

namespace Call

variable {call : Call} {args : List String} {policy : Policy} {first number : Nat}
  {start began now : Instant} {session : Session} {child : Child} {earlier : List Origin}

theorem tries_arrive (call : Call) (tool : Tool) (policy : Policy) (first number : Nat)
    (child : Child) (now : Instant) (session : Session) :
    (call.arrive tool policy number child now session).2.tries first = session.tries first := by
  rw [arrive]
  split
  · exact session.tries_start first number now
  · exact Session.tries_of_stamps first (session.stamps_say _)
  · exact Session.tries_of_stamps first (session.stamps_stopAttempts _ _)

/-- A process is there, or could not be started. -/
theorem arrive_timely (tool : Tool) (isArgs : call.args = args) (slotted : call.Slotted first)
    (paced : policy.Paced start (session.tries first)) (isNumber : number = first + call.rounds)
    (length : earlier.length = call.rounds)
    (tries : session.tries first = earlier ++ [⟨child, began⟩])
    (there : began + child.startup = now) :
    (call.arrive tool policy number child now session).1.Timely args policy first start
      (session.tries first) := by
  obtain ⟨order, inTime⟩ : start ≤ began ∧
      (began : ℕ∞) ≤ policy.latest start (session.tries first) call.rounds :=
    paced.inTime call.rounds ⟨child, began⟩ (by simp [tries, ← length])
  have arrives : began ≤ now := there ▸ Nat.le_add_right _ _
  have laterStart : start ≤ now := Nat.le_trans order arrives
  -- The round that begins now is over by the latest instant of the next slot.
  have phase : (Phase.racing (after now (policy.roundSpan call.rounds))).Timely policy first start
      (call.rounds + 1) now (session.tries first) := by
    refine ⟨by simp [tries, length], fun origin member => ?_, ?_, ?_⟩
    · rw [tries] at member
      have oneByOne := tries ▸ paced.oneByOne
      rcases List.mem_append.mp member with member | isLast
      · have before : origin.start ≤ began :=
          (List.pairwise_append.mp oneByOne).2.2 origin member _ List.mem_cons_self
        exact Nat.le_trans before arrives
      · rw [List.mem_singleton.mp isLast]
        exact Nat.le_of_eq there
    · rw [extent_after]
      exact le_self_add
    · rw [tries, ← length, Policy.latest_append (Nat.le_refl _)] at inTime
      rw [extent_after, tries, ← length, Policy.latest_concat, ← there, Nat.cast_add]
      calc (began : ℕ∞) + child.startup + extent (policy.roundSpan earlier.length)
          = began + extent (policy.roundSpan earlier.length) + child.startup := by abel
        _ ≤ _ := by gcongr
  rw [arrive]
  split
  · rename_i isThere
    refine ⟨paced, ?_, by rintro _ ⟨⟩⟩
    rintro _ ⟨⟩
    refine ⟨isArgs, laterStart, fun attempt member => ?_, by rintro ⟨⟩, phase⟩
    rcases List.mem_append.mp member with isLive | isLast
    · exact slotted attempt isLive
    · rw [List.mem_singleton.mp isLast]
      exact ⟨isNumber, Tool.arrival_eq_there_iff.mp isThere⟩
  · refine ⟨paced, ?_, by rintro _ ⟨⟩⟩
    rintro _ ⟨⟩
    exact ⟨isArgs, laterStart, slotted, by rintro ⟨⟩, phase⟩
  · rename_i failed
    refine ⟨paced, by rintro _ ⟨⟩, ?_⟩
    rintro _ ⟨⟩
    exact .inr (.inl (Tool.arrival_failed failed).1)

/-- What is needed for a further round to begin in time. -/
structure Ready (call : Call) (args : List String) (policy : Policy) (first : Nat)
    (start now : Instant) (session : Session) : Prop where
  args : call.args = args
  order : start ≤ now
  slotted : call.Slotted first
  old : first ≤ session.launches.length
  paced : policy.Paced start (session.tries first)
  length : (session.tries first).length = call.rounds
  inTime : call.rounds < policy.retries → (∀ origin ∈ session.tries first, origin.start ≤ now) ∧
    (now : ℕ∞) ≤ policy.latest start (session.tries first) call.rounds

/-- **The next round.** -/
theorem nextRound_timely (tool : Tool)
    (ready : call.Ready args policy first start now session) :
    session.tries first <+: (call.nextRound tool policy now session).2.tries first ∧
      (call.nextRound tool policy now session).1.Timely args policy first start
        ((call.nextRound tool policy now session).2.tries first) := by
  obtain ⟨isArgs, order, slotted, old, paced, length, inTime⟩ := ready
  rw [nextRound]
  split
  · rename_i room
    obtain ⟨there, early⟩ := inTime room
    have launched := Session.tries_launch now old tool call.args
    have isNumber : (session.launch tool call.args now).1 = first + call.rounds :=
      Session.length_tries old length
    have next := paced.concat (session.launch tool call.args now).2.1 (length ▸ room) order there
      (by rwa [length])
    rw [← launched] at next
    have grows : session.tries first <+: (session.launch tool call.args now).2.2.tries first :=
      launched ▸ List.prefix_append _ _
    dsimp only
    split
    · rename_i atOnce
      rw [tries_arrive]
      exact ⟨grows, arrive_timely tool isArgs slotted next isNumber length launched
        (by rw [atOnce, Nat.add_zero])⟩
    · refine ⟨grows, next, ?_, by rintro _ ⟨⟩⟩
      rintro _ ⟨⟩
      exact ⟨isArgs, order, slotted, by rintro ⟨⟩, isNumber, _, length, launched⟩
  · rename_i full
    have all : (session.tries first).length = policy.retries := by
      have few := paced.few
      omega
    split
    · refine ⟨List.prefix_rfl, paced, by rintro _ ⟨⟩, ?_⟩
      rintro _ ⟨⟩
      exact .inr (.inr ⟨⟨_, rfl⟩, all⟩)
    · rename_i some_
      refine ⟨List.prefix_rfl, paced, ?_, by rintro _ ⟨⟩⟩
      rintro _ ⟨⟩
      exact ⟨isArgs, order, slotted, fun _ => some_, length⟩

/-- Reading attempts keeps what the next round needs. -/
theorem Ready.pruned (ready : call.Ready args policy first start now session)
    (attempts : List Attempt) :
    (call.pruned now).Ready args policy first start now (session.readAttempts attempts now) := by
  have same := Session.tries_of_stamps first (session.stamps_readAttempts attempts now)
  refine ⟨ready.args, ready.order, fun attempt member => ?_, ?_, ?_, ?_, ?_⟩
  · exact ready.slotted attempt ((pruned_sublist ..).mem member)
  · simpa using ready.old
  · exact same ▸ ready.paced
  · exact same ▸ ready.length
  · exact same ▸ ready.inTime

/-- **A race.** -/
theorem race_timely (tool : Tool) (ordered : call.Ordered policy session)
    (ready : call.Ready args policy first start now session) :
    session.tries first <+: (call.race tool policy now session).2.tries first ∧
      (call.race tool policy now session).1.Timely args policy first start
        ((call.race tool policy now session).2.tries first) := by
  have read := Session.tries_of_stamps first
    (session.stamps_readAttempts (call.finished now) now)
  rw [race_eq]
  split
  · rename_i result settles
    have same := (Session.tries_of_stamps first
      (Session.stamps_stopAttempts _ (call.pruned now).live now)).trans read
    refine ⟨same ▸ List.prefix_rfl, same ▸ ready.paced, by rintro _ ⟨⟩, ?_⟩
    rintro error ⟨⟩
    obtain ⟨attempt, isRead, failure⟩ := exists_result_of_settle? settles
    obtain ⟨isLive, isOver⟩ := mem_finished.mp isRead
    obtain ⟨launch, -, described⟩ := ordered.tracks attempt isLive
    exact .inl (described.of_failure isOver failure)
  · have next := nextRound_timely tool (ready.pruned (call.finished now))
    rwa [read] at next

/-- A question that waits for a race is ready for a further round when the race comes. -/
theorem Timely.ready {due : Instant} (sound : call.Sound policy now session)
    (timely : call.Timely args policy first start (session.tries first))
    (paced : policy.Paced start (session.tries first)) (old : first ≤ session.launches.length)
    (isDue : call.due? = some due) (order : now ≤ due)
    (isRace : ∀ number child, call.phase ≠ .starting number child) :
    call.Ready args policy first start due session := by
  obtain ⟨isArgs, laterStart, slotted, -, inPhase⟩ := timely
  obtain ⟨-, rfl, -, fits⟩ := sound
  refine ⟨isArgs, Nat.le_trans laterStart order, slotted, old, paced, ?_, fun room => ?_⟩
  · cases phase : call.phase with
    | starting number child => exact (isRace number child phase).elim
    | racing roundEnd =>
      rw [phase] at inPhase
      exact inPhase.1
    | draining =>
      rw [phase] at inPhase
      exact inPhase
  · cases phase : call.phase with
    | starting number child => exact (isRace number child phase).elim
    | draining =>
      rw [phase] at fits
      exact (Nat.not_lt.mpr fits room).elim
    | racing roundEnd =>
      rw [phase] at inPhase
      obtain ⟨-, there, before, inTime⟩ := inPhase
      refine ⟨fun origin member => Nat.le_trans (there origin member) order, le_trans ?_ inTime⟩
      rw [due?, phase] at isDue
      obtain ⟨time, isEarlier, rfl⟩ := Option.map_eq_some_iff.mp isDue
      rcases Nat.le_total call.since time with sooner | later
      · rw [Nat.max_eq_right sooner]
        exact le_extent_of_earlier isEarlier
      · rw [Nat.max_eq_left later]
        exact before

/-- **A step.** -/
theorem step_timely (tool : Tool) {due : Instant} (sound : call.Sound policy now session)
    (timely : call.Timely args policy first start (session.tries first))
    (paced : policy.Paced start (session.tries first)) (old : first ≤ session.launches.length)
    (isDue : call.due? = some due) :
    session.tries first <+: (call.step tool policy due session).2.tries first ∧
      (call.step tool policy due session).1.Timely args policy first start
        ((call.step tool policy due session).2.tries first) := by
  have order := (step_follows tool sound isDue).1
  have ready := Timely.ready sound timely paced old isDue order
  rw [step]
  cases phase : call.phase with
  | starting number child =>
    have inPhase := timely.phase
    rw [phase] at inPhase
    obtain ⟨isNumber, earlier, length, tries⟩ := inPhase
    rw [due?, phase] at isDue
    dsimp only
    rw [tries_arrive]
    exact ⟨List.prefix_rfl, arrive_timely tool timely.args timely.slotted paced isNumber length
      tries (Option.some.inj isDue)⟩
  | racing roundEnd =>
    exact race_timely tool sound.ordered (ready (by simp [phase]))
  | draining =>
    exact race_timely tool sound.ordered (ready (by simp [phase]))

/-- A question is ready for its first round as it begins. -/
theorem ready_begin (args : List String) (policy : Policy) (start : Instant) (session : Session) :
    Ready ⟨args, 0, [], .draining, start⟩ args policy session.launches.length start start
      session := by
  have none_ : session.tries session.launches.length = [] := by
    rw [Session.tries, List.drop_length, List.map_nil]
  refine ⟨rfl, Nat.le_refl _, by simp [Slotted], Nat.le_refl _, ?_, ?_, fun _ => ⟨?_, ?_⟩⟩
  · exact none_ ▸ policy.paced_nil start
  · rw [none_]
    rfl
  · rw [none_]
    exact List.forall_mem_nil _
  · rw [Policy.latest, add_assoc]
    exact le_self_add

/-- **The beginning.** -/
theorem begin_timely (args : List String) (tool : Tool) (policy : Policy) (start : Instant)
    (session : Session) :
    (begin args tool policy start session).1.Timely args policy session.launches.length start
      ((begin args tool policy start session).2.tries session.launches.length) :=
  (nextRound_timely tool (ready_begin args policy start session)).2

end Call

/-! ### When a step is due -/

theorem exists_earlier (first second : Option Instant) {time : Instant}
    (isThere : first = some time ∨ second = some time) :
    ∃ sooner, earlier first second = some sooner ∧ sooner ≤ time := by
  cases first with
  | none => exact ⟨time, isThere.resolve_left (by simp), Nat.le_refl _⟩
  | some one =>
    cases second with
    | none => exact ⟨time, isThere.resolve_right (by simp), Nat.le_refl _⟩
    | some other =>
      refine ⟨min one other, rfl, ?_⟩
      rcases isThere with same | same
      · cases same
        exact Nat.min_le_left _ _
      · cases same
        exact Nat.min_le_right _ _

theorem exists_foldl_earlier {times : List (Option Instant)} {first : Option Instant}
    {time : Instant} (isThere : first = some time ∨ some time ∈ times) :
    ∃ sooner, times.foldl earlier first = some sooner ∧ sooner ≤ time := by
  induction times generalizing first time with
  | nil => exact ⟨time, isThere.resolve_right List.not_mem_nil, Nat.le_refl _⟩
  | cons head rest ih =>
    rw [List.mem_cons, ← or_assoc] at isThere
    rcases isThere with here | later
    · obtain ⟨sooner, isSooner, order⟩ := exists_earlier first head (here.imp_right Eq.symm)
      obtain ⟨soonest, found, least⟩ := ih (.inl isSooner)
      exact ⟨soonest, found, Nat.le_trans least order⟩
    · exact ih (.inr later)

theorem getElem?_of_prefix {α : Type} {fewer all : List α} {place : Nat} {value : α}
    (grows : fewer <+: all) (found : fewer[place]? = some value) : all[place]? = some value := by
  obtain ⟨inside, rfl⟩ := List.getElem?_eq_some_iff.mp found
  exact List.prefix_iff_getElem?.mp grows place inside

namespace Call

variable {call : Call} {args : List String} {policy : Policy} {first : Nat} {start now : Instant}
  {session : Session} {all : List Origin} {attempt : Attempt} {time : Instant}

/-- The first end is not later than that of any attempt. -/
theorem exists_firstEnd? (isLive : attempt ∈ call.live) (ends : attempt.endTime? = some time) :
    ∃ sooner, call.firstEnd? = some sooner ∧ sooner ≤ time :=
  exists_foldl_earlier (.inr (ends ▸ List.mem_map_of_mem isLive))

/-- A race is due by the end of its round. -/
theorem exists_due?_of_racing {roundEnd : Instant} (phase : call.phase = .racing (some roundEnd)) :
    ∃ due, call.due? = some due ∧ due ≤ max call.since roundEnd := by
  obtain ⟨sooner, isSooner, order⟩ := exists_earlier call.firstEnd? (some roundEnd) (.inr rfl)
  refine ⟨max call.since sooner, by rw [due?, phase]; simp only [isSooner, Option.map_some], ?_⟩
  exact max_le_max_left _ order

/-- A race, or the wait for what is left, is due by the end of an attempt. -/
theorem exists_due?_of_ends (isLive : attempt ∈ call.live) (ends : attempt.endTime? = some time)
    (isRace : ∀ number child, call.phase ≠ .starting number child) :
    ∃ due, call.due? = some due ∧ due ≤ max call.since time := by
  obtain ⟨soonest, found, least⟩ := exists_firstEnd? isLive ends
  rw [due?]
  cases phase : call.phase with
  | starting number child => exact (isRace number child phase).elim
  | racing roundEnd =>
    obtain ⟨sooner, isSooner, order⟩ := exists_earlier call.firstEnd? roundEnd (.inl found)
    refine ⟨max call.since sooner, by simp only [isSooner, Option.map_some], ?_⟩
    exact max_le_max_left _ (Nat.le_trans order least)
  | draining =>
    exact ⟨max call.since soonest, by simp only [found, Option.map_some], max_le_max_left _ least⟩

/-- What a question knows of an attempt is when its process began to start. -/
theorem Timely.exists_origin (sound : call.Sound policy now session)
    (timely : call.Timely args policy first start (session.tries first))
    (grows : session.tries first <+: all) (isLive : attempt ∈ call.live) :
    ∃ origin, all[attempt.slot]? = some origin ∧ origin.child.startFault = none ∧
      attempt.ending = origin.child.ending args origin.start policy.limit none := by
  obtain ⟨isNumber, noFault⟩ := timely.slotted attempt isLive
  obtain ⟨launch, found, described⟩ := sound.ordered.tracks attempt isLive
  rw [isNumber] at found
  rw [described.child] at noFault
  refine ⟨launch.origin, getElem?_of_prefix grows (Session.getElem?_tries first found), noFault, ?_⟩
  rw [described.ending, timely.args]
  rfl

/-- The process that starts is the one of its slot. -/
theorem Timely.starting (timely : call.Timely args policy first start (session.tries first))
    (grows : session.tries first <+: all) {number : Nat} {child : Child}
    (phase : call.phase = .starting number child) :
    all[call.rounds]? = some ⟨child, call.since⟩ := by
  have inPhase := timely.phase
  rw [phase] at inPhase
  obtain ⟨-, earlier, length, tries⟩ := inPhase
  exact getElem?_of_prefix grows (by simp [tries, ← length])

end Call

theorem Policy.latest_of_prefix {policy : Policy} {start : Instant} {fewer all : List Origin}
    (grows : fewer <+: all) {slot : Nat} (inside : slot ≤ fewer.length) :
    policy.latest start fewer slot = policy.latest start all slot := by
  obtain ⟨more, rfl⟩ := grows
  exact (latest_append inside).symm

/-! ### Runs -/

namespace Runs

variable {args : List String} {tool : Tool} {policy : Policy} {giveUp : Option Instant}
  {first : Nat} {start now : Instant} {progress : Progress} {session : Session} {races : List Race}
  {outcome : Instant × Except RunError String × Session}

/-- **A question keeps to the schedule until its end.** -/
theorem timely (runs : Runs tool policy giveUp now progress session races outcome)
    (sound : ∀ call, progress = .waiting call → call.Sound policy now session)
    (old : first ≤ session.launches.length)
    (onTime : progress.Timely args policy first start (session.tries first)) :
    session.tries first <+: outcome.2.2.tries first ∧
      policy.Paced start (outcome.2.2.tries first) ∧
      (∀ args', outcome.2.1 = .error (.exhausted args') →
        (outcome.2.2.tries first).length = policy.retries) ∧
      ∀ race ∈ races, ∀ attempt ∈ race.attempts, attempt.number = first + attempt.slot := by
  induction runs with
  | ended =>
    refine ⟨List.prefix_rfl, onTime.paced, ?_, by simp⟩
    rintro args' rfl
    rcases onTime.failed _ rfl with own | ofStart | ⟨-, all⟩
    · exact own.elim
    · exact ofStart.elim
    · exact all
  | stuck => exact ⟨List.prefix_rfl, onTime.paced, by rintro _ ⟨⟩, by simp⟩
  | @cancelled _ call session instant =>
    have same := Session.tries_of_stamps first (session.stamps_stopAttempts call.live instant)
    exact ⟨same ▸ List.prefix_rfl, same ▸ onTime.paced, by rintro _ ⟨⟩, by simp⟩
  | @stepped now call session due races outcome isDue inTime rest ih =>
    have isSound := sound call rfl
    have isTimely := onTime.waiting call rfl
    obtain ⟨-, follows⟩ := step_follows tool isSound isDue
    obtain ⟨gone, advance, -⟩ := follows.advance
    obtain ⟨grows, next⟩ := step_timely tool isSound isTimely onTime.paced old isDue
    obtain ⟨grown, paced, all, read⟩ := ih follows.sound (Nat.le_trans old advance.grows) next
    refine ⟨grows.trans grown, paced, all, fun race isRace attempt isRead => ?_⟩
    rcases List.mem_append.mp isRace with here | later
    · rw [racesAt] at here
      have isFinished : attempt ∈ call.finished due := by
        split at here
        · cases here
        · rwa [List.mem_singleton.mp here] at isRead
      exact (isTimely.slotted attempt (mem_finished.mp isFinished).1).1
    · exact read race later attempt isRead

end Runs

end TypeSchema
