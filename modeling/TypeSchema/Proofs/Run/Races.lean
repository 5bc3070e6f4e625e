/-
**What the races of a question decide.**

* `settle?_of_success`: the earliest attempt that succeeds ends a question; `settle?_of_failures`:
  without a success the earliest attempt of all decides;
* `successes_are_kept`: **no success is lost**. A process is read at most once, and by the first
  race at which waiting for it is over; a race that reads a success ends the question with it;
* `fatal_failure_ends_iff`: **a fatal failure ends a question exactly if no earlier attempt is read
  with it**; `fatal_failure_dropped`: so it can be dropped, and the question go on and answer.
-/

import TypeSchema.Proofs.Run.Chronicle

namespace TypeSchema

open Call

namespace Attempt

/-- Whether an attempt came to a text. -/
def isSuccess (attempt : Attempt) : Bool := attempt.result.toOption.isSome

/-- Whether an attempt failed in a way that cannot be retried. -/
def isFatal (attempt : Attempt) : Bool :=
  match attempt.result with
  | .ok _ => false
  | .error error => !error.isRetryable

theorem isSuccess_iff {attempt : Attempt} :
    attempt.isSuccess = true ↔ ∃ text, attempt.result = .ok text := by
  rw [isSuccess]
  cases attempt.result <;> simp [Except.toOption]

theorem isFatal_iff {attempt : Attempt} :
    attempt.isFatal = true ↔
      ∃ error, attempt.result = .error error ∧ error.isRetryable = false := by
  rw [isFatal]
  cases attempt.result <;> simp

end Attempt

/-- A question ends at a race with what an attempt came to, and starts no further process. -/
structure Race.Ends (race : Race) (attempt : Attempt) (later : List Race)
    (outcome : Instant × Except RunError String × Session) : Prop where
  last : later = []
  instant : outcome.1 = race.instant
  result : outcome.2.1 = attempt.result
  launches : outcome.2.2.launches.length = race.session.launches.length

/-! ### What is read together -/

section Settle

variable {attempts : List Attempt} {attempt : Attempt}

theorem verdict_of_some {results : List (Except RunError String)} {text : String}
    (found : results.findSome? Except.toOption = some text) : verdict results = .ok text := by
  cases results with
  | nil => cases found
  | cons first rest => rw [verdict, found]

theorem verdict_of_none {first : Except RunError String} {rest : List (Except RunError String)}
    (none : (first :: rest).findSome? Except.toOption = none) :
    verdict (first :: rest) = first := by
  rw [verdict, none]

/-- **The earliest success decides.** -/
theorem settle?_of_success
    (slots : attempts.Pairwise fun first second => first.slot < second.slot)
    (success : ∃ attempt ∈ attempts, attempt.isSuccess = true) :
    ∃ first ∈ attempts, first.isSuccess = true ∧
      (∀ other ∈ attempts, other.isSuccess = true → first.slot ≤ other.slot) ∧
      settle? attempts = some first.result := by
  obtain ⟨winner, isIn, succeeds⟩ := success
  have some : ((attempts.map Attempt.result).findSome? Except.toOption).isSome = true :=
    List.findSome?_isSome_iff.mpr ⟨_, List.mem_map_of_mem isIn, succeeds⟩
  obtain ⟨text, found⟩ := Option.isSome_iff_exists.mp some
  have decided := verdict_of_some found
  rw [List.findSome?_map, List.findSome?_eq_some_iff] at found
  obtain ⟨earlier, first, later, rfl, isText, failures⟩ := found
  have result : first.result = .ok text := by
    cases same : first.result <;> simp_all [Except.toOption]
  refine ⟨first, by simp, Attempt.isSuccess_iff.mpr ⟨text, result⟩, ?_, ?_⟩
  · intro other member succeeds
    obtain ⟨-, afterFirst, -⟩ := List.pairwise_append.mp slots
    rcases List.mem_append.mp member with member | member
    · have fails : other.result.toOption = none := failures other member
      rw [Attempt.isSuccess, fails] at succeeds
      cases succeeds
    · rcases List.mem_cons.mp member with rfl | member
      · exact Nat.le_refl _
      · exact Nat.le_of_lt (List.rel_of_pairwise_cons afterFirst member)
  · rw [settle?, if_neg (by simp), decided, result]

/-- One of the attempts is the earliest. -/
theorem exists_earliest (slots : attempts.Pairwise fun first second => first.slot < second.slot)
    (isIn : attempt ∈ attempts) :
    ∃ first ∈ attempts, ∀ other ∈ attempts, first.slot ≤ other.slot := by
  cases attempts with
  | nil => cases isIn
  | cons first rest =>
    refine ⟨first, List.mem_cons_self, fun other member => ?_⟩
    rcases List.mem_cons.mp member with rfl | isRest
    · exact Nat.le_refl _
    · exact Nat.le_of_lt (List.rel_of_pairwise_cons slots isRest)

/-- **Without a success the earliest attempt decides.** -/
theorem settle?_of_failures
    (slots : attempts.Pairwise fun first second => first.slot < second.slot)
    (failures : ∀ attempt ∈ attempts, attempt.isSuccess = false) (isIn : attempt ∈ attempts)
    (earliest : ∀ other ∈ attempts, attempt.slot ≤ other.slot) :
    settle? attempts = if attempt.isFatal then some attempt.result else none := by
  cases attempts with
  | nil => cases isIn
  | cons first rest =>
    have same : attempt = first := by
      rcases List.mem_cons.mp isIn with same | member
      · exact same
      · have order := List.rel_of_pairwise_cons slots member
        exact (Nat.not_le.mpr order (earliest first List.mem_cons_self)).elim
    subst same
    have none : ((attempt :: rest).map Attempt.result).findSome? Except.toOption = none := by
      rw [List.findSome?_eq_none_iff]
      intro result member
      obtain ⟨other, isOther, rfl⟩ := List.mem_map.mp member
      have fails := failures other isOther
      rwa [Attempt.isSuccess, Option.isSome_eq_false_iff, Option.isNone_iff_eq_none] at fails
    have decided : verdict ((attempt :: rest).map Attempt.result) = attempt.result :=
      verdict_of_none none
    rw [settle?, if_neg (List.cons_ne_nil _ _), decided, Attempt.isFatal]
    cases result : attempt.result with
    | ok text =>
      have fails := failures attempt isIn
      rw [Attempt.isSuccess, result] at fails
      cases fails
    | error error => by_cases retryable : error.isRetryable <;> simp [retryable]

end Settle

/-! ### How a question goes on from a race -/

section

variable {args : List String} {tool : Tool} {policy : Policy} {giveUp : Option Instant}
  {now : Instant} {session : Session} {race : Race} {call : Call} {later : List Race}
  {attempt : Attempt} {outcome : Instant × Except RunError String × Session}

/-- Attempts that are read together stand in order. -/
theorem Runs.At.slots (isAt : Runs.At tool policy giveUp race call later outcome) :
    race.attempts.Pairwise fun first second => first.slot < second.slot := by
  rw [isAt.attempts]
  exact isAt.ordered.slots.sublist (finished_sublist ..)

/-- A race reads each attempt that is over. -/
theorem Runs.At.reads (isAt : Runs.At tool policy giveUp race call later outcome) {number : Nat}
    {launch : Launch} {ending : Ending} (member : number ∈ call.numbers)
    (found : race.session.launches[number]? = some launch)
    (ends : launch.child.ending args launch.start policy.limit none = some ending)
    (inTime : ending.time ≤ race.instant) : number ∈ race.numbers := by
  rw [isAt.numbers] at member
  obtain ⟨attempt, isLive, rfl⟩ := List.mem_map.mp member
  obtain ⟨launch', found', described⟩ := isAt.ordered.tracks attempt isLive
  cases found.symm.trans found'
  have ended : attempt.isOver race.instant = true := by
    rw [Attempt.isOver, Attempt.endTime?, described.ending, Child.endTime_congr _ _ args, ends]
    exact (reached_some _ _).mpr inTime
  rw [Race.numbers, isAt.attempts]
  exact List.mem_map_of_mem (mem_finished.mpr ⟨isLive, ended⟩)

/-- What an attempt that succeeds gives is what its process printed. -/
theorem Runs.At.decoded (isAt : Runs.At tool policy giveUp race call later outcome)
    (read : attempt ∈ race.attempts) {text : String} (result : attempt.result = .ok text) :
    ∃ launch, race.session.launches[attempt.number]? = some launch ∧
      decode? launch.child.output = some text := by
  rw [isAt.attempts, mem_finished] at read
  obtain ⟨launch, found, described⟩ := isAt.ordered.tracks attempt read.1
  exact ⟨launch, found, (described.of_success result).2⟩

/-- An attempt that is read fails with a failure of its own. -/
theorem Runs.At.own (isAt : Runs.At tool policy giveUp race call later outcome)
    (read : attempt ∈ race.attempts) {error : RunError} (failure : attempt.result = .error error) :
    error.IsOfAttempt := by
  rw [isAt.attempts, mem_finished] at read
  obtain ⟨launch, -, described⟩ := isAt.ordered.tracks attempt read.1
  exact described.of_failure read.2 failure

/-- A race that decides ends the question. -/
theorem Runs.At.ends (isAt : Runs.At tool policy giveUp race call later outcome)
    (settles : settle? race.attempts = some attempt.result) :
    race.Ends attempt later outcome := by
  obtain ⟨ordered, -, attempts, -, rest⟩ := isAt
  rw [attempts] at settles
  rw [race_eq, settles] at rest
  obtain ⟨last, rfl⟩ := rest.of_ended
  exact ⟨last, rfl, rfl, by simp⟩

/-- The next round starts a process, or the question has no more to start: it ends exhausted, or
waits for what is left. -/
theorem nextRound_cases (call : Call) (tool : Tool) (policy : Policy) (now : Instant)
    (session : Session) :
    session.launches.length < (call.nextRound tool policy now session).2.launches.length ∨
      (∃ args, (call.nextRound tool policy now session).1 = .ended (.error (.exhausted args))) ∨
      ∃ next, (call.nextRound tool policy now session).1 = .waiting next ∧
        next.phase = .draining := by
  rw [nextRound]
  split
  · refine .inl ?_
    have launched : session.launches.length <
        (session.launch tool call.args now).2.2.launches.length := by
      simp [Session.launch]
    dsimp only
    split
    · rw [arrive]
      split <;> simpa using launched
    · exact launched
  · split
    · exact .inr (.inl ⟨_, rfl⟩)
    · exact .inr (.inr ⟨_, rfl, rfl⟩)

/-- A race that does not decide does not end the question with a failure of an attempt. -/
theorem Runs.At.goes_on (isAt : Runs.At tool policy giveUp race call later outcome)
    (undecided : settle? race.attempts = none) {error : RunError} (own : error.IsOfAttempt)
    (failure : attempt.result = .error error) : ¬ race.Ends attempt later outcome := by
  rintro ⟨last, -, result, launches⟩
  have follows := race_follows tool race.instant isAt.ordered
  obtain ⟨-, _, _, advance, -⟩ := isAt.rest.advance follows.sound isAt.inTime
  have grows := advance.grows
  obtain ⟨ordered, -, attempts, -, rest⟩ := isAt
  rw [failure] at result
  rw [attempts] at undecided
  rw [race_eq, undecided] at rest grows
  dsimp only at rest grows
  rcases nextRound_cases (call.pruned race.instant) tool policy race.instant
    (race.session.readAttempts (call.finished race.instant) race.instant) with
    more | ⟨args, exhausted⟩ | ⟨next, waits, drains⟩
  · rw [Session.length_readAttempts] at more
    omega
  · rw [exhausted] at rest
    rw [rest.of_ended.2] at result
    cases result
    exact own
  · rw [waits] at rest
    cases rest with
    | stuck =>
      cases result
      exact own
    | cancelled =>
      cases result
      exact own
    | stepped =>
      rw [racesAt, drains] at last
      cases last

/-! ### Main results -/

/-- **No success is lost.** -/
theorem successes_are_kept (args : List String) (tool : Tool) (policy : Policy)
    (giveUp : Option Instant) (start : Instant) (before : Session) :
    ((chronicle args tool policy giveUp start before).flatMap Race.numbers).Nodup ∧
      ∀ earlier race later,
        chronicle args tool policy giveUp start before = earlier ++ race :: later →
        -- What is over by the time of the race has been read.
        (∀ number launch ending, before.launches.length ≤ number →
          race.session.launches[number]? = some launch → launch.started = true →
          launch.child.ending args launch.start policy.limit none = some ending →
          ending.time ≤ race.instant → number ∈ (earlier ++ [race]).flatMap Race.numbers) ∧
        -- A success ends the question.
        ((∃ attempt ∈ race.attempts, attempt.isSuccess = true) →
          ∃ winner ∈ race.attempts,
            (∀ other ∈ race.attempts, other.isSuccess = true → winner.slot ≤ other.slot) ∧
            race.Ends winner later (run args tool policy giveUp start before) ∧
            ∃ launch text, race.session.launches[winner.number]? = some launch ∧
              decode? launch.child.output = some text ∧ winner.result = .ok text) := by
  refine ⟨chronicle_nodup .., fun earlier race later parts => ?_⟩
  obtain ⟨call, isAt, finds⟩ := chronicle_split parts
  refine ⟨fun number launch ending fresh found started ends inTime => ?_, fun success => ?_⟩
  · rw [List.flatMap_append, List.flatMap_singleton, List.mem_append]
    rcases finds.cover number (.inr fresh) launch found started with owned | wasRead
    · exact .inr (isAt.reads owned found ends inTime)
    · exact .inl wasRead
  · obtain ⟨winner, isIn, succeeds, earliest, decided⟩ := settle?_of_success isAt.slots success
    obtain ⟨text, result⟩ := Attempt.isSuccess_iff.mp succeeds
    obtain ⟨launch, found, decoded⟩ := isAt.decoded isIn result
    exact ⟨winner, isIn, earliest, isAt.ends decided, launch, text, found, decoded, result⟩

/-- Up to three processes, an eighth of a second and more after each other, for a second each. -/
def threeTries : Policy := ⟨3, .ofDecimal false 125 (-3), some (.ofInt 1)⟩

/-- A process that is killed and one that answers, both while the third one starts. -/
def lateAnswer : Tool :=
  ⟨"flow", fun _ => ⟨"version",
    [{ lifetime := some 500000000, code := -9 },
      { lifetime := some 500000000, output := [111, 107] },
      { startup := 500000000, lifetime := none }]⟩, .styled⟩

/-- The answer is read after the third process has come, together with the failure. -/
theorem successes_are_kept_lateAnswer :
    ∃ earlier race later winner,
      chronicle ["version"] lateAnswer threeTries none 0 {} = earlier ++ race :: later ∧
        race.attempts.map Attempt.slot = [0, 1] ∧ winner ∈ race.attempts ∧
        race.Ends winner later (run ["version"] lateAnswer threeTries none 0 {}) := by
  obtain ⟨race, isRace, slots, success⟩ :
      ∃ race ∈ chronicle ["version"] lateAnswer threeTries none 0 {},
        race.attempts.map Attempt.slot = [0, 1] ∧
        ∃ attempt ∈ race.attempts, attempt.isSuccess = true := by
    decide +kernel
  obtain ⟨earlier, later, parts⟩ := List.append_of_mem isRace
  obtain ⟨winner, isWinner, -, ends, -⟩ :=
    ((successes_are_kept ["version"] lateAnswer threeTries none 0 {}).2 _ _ _ parts).2 success
  exact ⟨earlier, race, later, winner, parts, slots, isWinner, ends⟩

/-- **A fatal failure ends a question exactly if no earlier attempt is read with it**, provided that
no success is. -/
theorem fatal_failure_ends_iff (args : List String) (tool : Tool) (policy : Policy)
    (giveUp : Option Instant) (start : Instant) (before : Session) {earlier later : List Race}
    {race : Race} {fatal : Attempt}
    (parts : chronicle args tool policy giveUp start before = earlier ++ race :: later)
    (read : fatal ∈ race.attempts) (isFatal : fatal.isFatal = true)
    (failures : ∀ other ∈ race.attempts, other.isSuccess = false)
    (earliest : ∀ other ∈ race.attempts, other.isFatal = true → fatal.slot ≤ other.slot) :
    race.Ends fatal later (run args tool policy giveUp start before) ↔
      ∀ other ∈ race.attempts, fatal.slot ≤ other.slot := by
  obtain ⟨call, isAt, -⟩ := chronicle_split parts
  constructor
  · intro ends
    obtain ⟨first, isFirst, least⟩ := exists_earliest isAt.slots read
    cases decides : first.isFatal with
    | true =>
      intro other member
      exact Nat.le_trans (earliest first isFirst decides) (least other member)
    | false =>
      -- The earliest attempt can be retried, so the race does not decide.
      have undecided : settle? race.attempts = none := by
        rw [settle?_of_failures isAt.slots failures isFirst least, decides]
        exact if_neg Bool.false_ne_true
      obtain ⟨error, failure, -⟩ := Attempt.isFatal_iff.mp isFatal
      exact (isAt.goes_on undecided (isAt.own read failure) failure ends).elim
  · intro first
    refine isAt.ends ?_
    rw [settle?_of_failures isAt.slots failures read first, if_pos isFatal]

/-- Processes that fail at once. -/
def failing : Tool := ⟨"flow", fun _ => ⟨"version", [{ code := 3 }]⟩, .styled⟩

/-- The first process fails alone. -/
theorem fatal_failure_ends_iff_alone :
    ∃ earlier race later fatal,
      chronicle ["version"] failing threeTries none 0 {} = earlier ++ race :: later ∧
        fatal ∈ race.attempts ∧ fatal.isFatal = true ∧
        (∀ other ∈ race.attempts, other.isSuccess = false) ∧
        (∀ other ∈ race.attempts, other.isFatal = true → fatal.slot ≤ other.slot) ∧
        race.Ends fatal later (run ["version"] failing threeTries none 0 {}) := by
  obtain ⟨race, isRace, fatal, read, isFatal, failures, earliest, first⟩ :
      ∃ race ∈ chronicle ["version"] failing threeTries none 0 {}, ∃ fatal ∈ race.attempts,
        fatal.isFatal = true ∧ (∀ other ∈ race.attempts, other.isSuccess = false) ∧
        (∀ other ∈ race.attempts, other.isFatal = true → fatal.slot ≤ other.slot) ∧
        ∀ other ∈ race.attempts, fatal.slot ≤ other.slot := by
    decide +kernel
  obtain ⟨earlier, later, parts⟩ := List.append_of_mem isRace
  exact ⟨earlier, race, later, fatal, parts, read, isFatal, failures, earliest,
    (fatal_failure_ends_iff _ _ _ _ _ _ parts read isFatal failures earliest).mpr first⟩

/-- A process that is killed and one that fails, both while the third one starts. -/
def lateStart : Tool :=
  ⟨"flow", fun _ => ⟨"version",
    [{ lifetime := some 500000000, code := -9 }, { lifetime := some 500000000, code := 3 },
      { startup := 500000000, lifetime := some 250000000, output := [108, 97, 116, 101] }]⟩,
    .styled⟩

/-- **A fatal failure can be dropped**: the question goes on, and the third process answers. -/
theorem fatal_failure_dropped :
    ¬ ∀ (args : List String) (tool : Tool) (policy : Policy) (giveUp : Option Instant)
      (start : Instant) (before : Session) (earlier : List Race) (race : Race) (later : List Race)
      (fatal : Attempt),
      chronicle args tool policy giveUp start before = earlier ++ race :: later →
      fatal ∈ race.attempts → fatal.isFatal = true →
      (∀ other ∈ race.attempts, other.isSuccess = false) →
      (∀ other ∈ race.attempts, other.isFatal = true → fatal.slot ≤ other.slot) →
      race.Ends fatal later (run args tool policy giveUp start before) := by
  intro ends
  obtain ⟨race, isRace, fatal, read, isFatal, failures, earliest⟩ :
      ∃ race ∈ chronicle ["version"] lateStart threeTries none 0 {}, ∃ fatal ∈ race.attempts,
        fatal.isFatal = true ∧ (∀ other ∈ race.attempts, other.isSuccess = false) ∧
        ∀ other ∈ race.attempts, other.isFatal = true → fatal.slot ≤ other.slot := by
    decide +kernel
  obtain ⟨earlier, later, parts⟩ := List.append_of_mem isRace
  have answers : (run ["version"] lateStart threeTries none 0 {}).2.1 = .ok "late" := by
    decide +kernel
  have failure := (ends _ _ _ _ _ _ _ _ _ _ parts read isFatal failures earliest).result
  rw [Attempt.isFatal, ← failure, answers] at isFatal
  cases isFatal

end

end TypeSchema
