/-
**What becomes of a process that cannot be killed.**

* `ending_eq_killRefused_iff`: waiting for a process comes to the refusal exactly if it ran past its
  limit and could not be killed then;
* `chronicle_decides`: a question that ends with a failure of an attempt ends at a race that decides
  for it;
* `refusals_surface`: **a question ends with a refusal exactly if the earliest attempt of a race
  without a success ran past its limit and could not be killed then**; so no kill of the clean-up
  shows, and a process past its limit can be retried exactly if it could be killed;
* `refusal_surfaced`: such a refusal does end a question that another process would answer.
-/

import TypeSchema.Proofs.Run.Races

namespace TypeSchema

open Call

namespace Child

variable {child : Child} {args : List String} {start time : Instant} {limit : Option Binary64}
  {text : String}

theorem outcome_ne_killRefused {wasKilled : Bool} {code : Int} :
    child.outcome args wasKilled code ≠ .error (.killRefused text) := by
  rw [outcome]
  split
  · rintro ⟨⟩
  · split
    · rintro ⟨⟩
    · split
      · rintro ⟨⟩
      · split <;> rintro ⟨⟩

/-- **A kill is refused at the limit**, and nowhere else. -/
theorem ending_eq_killRefused_iff :
    child.ending args start limit none = some ⟨time, .error (.killRefused text)⟩ ↔
      child.limitKill? start limit none = some time ∧ child.killFault = some (.refused text) := by
  cases limited : child.limitKill? start limit none with
  | none =>
    refine ⟨fun ends => ?_, fun both => by cases both.1⟩
    rw [ending_of_in_time limited] at ends
    obtain ⟨_, -, same⟩ := Option.map_eq_some_iff.mp ends
    exact (outcome_ne_killRefused (Ending.mk.inj same).2).elim
  | some deadline =>
    cases limit with
    | none => simp [limitKill?, deadline?_none] at limited
    | some seconds =>
      simp only [ending, limited, Option.some.injEq]
      split
      · rename_i refusal fault
        rw [fault]
        simp
      · rename_i noRefusal
        refine ⟨fun ends => ?_, fun both => (noRefusal text both.2).elim⟩
        obtain ⟨_, -, same⟩ := Option.map_eq_some_iff.mp ends
        cases same

end Child

/-! ### Attempts -/

namespace Attempt

variable {attempt : Attempt} {args : List String} {limit : Option Binary64} {launch : Launch}
  {text : String}

theorem result_eq_killRefused_iff : attempt.result = .error (.killRefused text) ↔
    ∃ time, attempt.ending = some ⟨time, .error (.killRefused text)⟩ := by
  rw [result]
  split
  · simp [*]
  · rename_i ending notCancelled same
    rw [same]
    obtain ⟨time, result⟩ := ending
    simp
  · simp [*]

/-- An attempt comes to a refusal exactly if its process ran past its limit and could not be killed. -/
theorem Describes.refused_iff (described : attempt.Describes args limit launch) :
    attempt.result = .error (.killRefused text) ↔
      attempt.limitKill ≠ none ∧ launch.child.killFault = some (.refused text) := by
  rw [result_eq_killRefused_iff, described.ending, described.limitKill]
  simp only [Child.ending_eq_killRefused_iff, exists_and_right, Option.ne_none_iff_exists']

/-- An attempt whose process ran past its limit fails, and for good exactly if the process could not
be killed. -/
theorem Describes.past_limit {now : Instant} (described : attempt.Describes args limit launch)
    (limited : attempt.limitKill ≠ none) (ended : attempt.isOver now = true) :
    attempt.isSuccess = false ∧
      (attempt.isFatal = true ↔ ∃ text, launch.child.killFault = some (.refused text)) := by
  obtain ⟨deadline, isDeadline⟩ := Option.ne_none_iff_exists'.mp limited
  obtain ⟨_, ends, -⟩ := reached_iff.mp ended
  obtain ⟨⟨time, result⟩, isEnding, -⟩ := Option.map_eq_some_iff.mp ends
  rw [described.limitKill] at isDeadline
  rw [described.ending] at isEnding
  rcases (Child.ending_of_limit_spec isDeadline isEnding).2 with ⟨text, rfl⟩ | ⟨seconds, code, rfl⟩
  · have refused := result_eq_killRefused_iff.mpr ⟨time, described.ending.trans isEnding⟩
    refine ⟨by rw [isSuccess, refused]; rfl, fun _ => ⟨text, (described.refused_iff.mp refused).2⟩,
      fun _ => by rw [isFatal, refused]; rfl⟩
  · have timedOut : attempt.result = .error (.timedOut args seconds code) := by
      rw [result, described.ending, isEnding]
    refine ⟨by rw [isSuccess, timedOut]; rfl, fun fatal => ?_, ?_⟩
    · rw [isFatal, timedOut] at fatal
      cases fatal
    · rintro ⟨text, fault⟩
      cases timedOut.symm.trans (described.refused_iff.mpr ⟨limited, fault⟩)

end Attempt

/-! ### Questions -/

section

variable {args : List String} {tool : Tool} {policy : Policy} {giveUp : Option Instant}
  {now : Instant} {progress : Progress} {session : Session} {races : List Race} {call : Call}
  {outcome : Instant × Except RunError String × Session} {error : RunError}

/-- A process that arrives does not end a question with a failure of an attempt. -/
theorem arrive_ne_ended {number : Nat} {child : Child} (own : error.IsOfAttempt) :
    (call.arrive tool policy number child now session).1 ≠ .ended (.error error) := by
  rw [arrive]
  split
  · rintro ⟨⟩
  · rintro ⟨⟩
  · rename_i failed
    rintro ⟨⟩
    have isOfStart := (Tool.arrival_failed failed).1
    cases error <;> first | exact own | exact isOfStart

/-- The next round does not end a question with a failure of an attempt. -/
theorem nextRound_ne_ended (own : error.IsOfAttempt) :
    (call.nextRound tool policy now session).1 ≠ .ended (.error error) := by
  rw [nextRound]
  split
  · dsimp only
    split
    · exact arrive_ne_ended own
    · rintro ⟨⟩
  · split
    · rintro ⟨⟩
      exact own
    · rintro ⟨⟩

/-- A step that ends a question with a failure of an attempt is a race that decides for it. -/
theorem step_decides {due : Instant} (own : error.IsOfAttempt)
    (ended : (call.step tool policy due session).1 = .ended (.error error)) :
    ∃ race, call.racesAt due session = [race] ∧ settle? race.attempts = some (.error error) := by
  have decides (ended : (call.race tool policy due session).1 = .ended (.error error)) :
      settle? (call.finished due) = some (.error error) := by
    rw [race_eq] at ended
    split at ended
    · rename_i result settles
      cases ended
      exact settles
    · exact (nextRound_ne_ended own ended).elim
  rw [step] at ended
  rw [racesAt]
  cases phase : call.phase with
  | starting number child =>
    rw [phase] at ended
    exact (arrive_ne_ended own ended).elim
  | racing roundEnd =>
    rw [phase] at ended
    exact ⟨_, rfl, decides ended⟩
  | draining =>
    rw [phase] at ended
    exact ⟨_, rfl, decides ended⟩

/-- A question that goes on and ends with a failure of an attempt ends at a race that decides for
it. -/
theorem Runs.decides (own : error.IsOfAttempt)
    (runs : Runs tool policy giveUp now progress session races outcome)
    (failed : outcome.2.1 = .error error) : progress = .ended (.error error) ∨
      ∃ before race, races = before ++ [race] ∧ settle? race.attempts = some (.error error) := by
  induction runs with
  | ended => exact .inl (congrArg Progress.ended failed)
  | stuck =>
    cases failed
    exact own.elim
  | cancelled =>
    cases failed
    exact own.elim
  | stepped isDue inTime rest ih =>
    rcases ih failed with ended | ⟨before, race, rfl, settles⟩
    · obtain ⟨race, one, settles⟩ := step_decides own ended
      rw [ended] at rest
      exact .inr ⟨[], race, by rw [one, rest.of_ended.1]; rfl, settles⟩
    · exact .inr ⟨_ ++ before, race, (List.append_assoc ..).symm, settles⟩

/-- **A question that ends with a failure of an attempt** ends at a race that decides for it. -/
theorem chronicle_decides (own : error.IsOfAttempt)
    (failed : (run args tool policy giveUp now session).2.1 = .error error) :
    ∃ before race, chronicle args tool policy giveUp now session = before ++ [race] ∧
      settle? race.attempts = some (.error error) := by
  rcases (runs_run args tool policy giveUp now session).decides own failed with begun | decided
  · exact (nextRound_ne_ended own begun).elim
  · exact decided

/-- A race reads a process that ran past its limit and could not be killed then. -/
structure Race.Resists (race : Race) (limit : Option Binary64) (attempt : Attempt) (text : String) :
    Prop where
  read : attempt ∈ race.attempts
  resists : ∃ launch deadline, race.session.launches[attempt.number]? = some launch ∧
    launch.child.limitKill? launch.start limit none = some deadline ∧
      launch.child.killFault = some (.refused text)

/-- An attempt comes to a refusal exactly if its process resists. -/
theorem Runs.At.resists_iff {race : Race} {later : List Race} {attempt : Attempt} {text : String}
    (isAt : Runs.At tool policy giveUp race call later outcome) (read : attempt ∈ race.attempts) :
    race.Resists policy.limit attempt text ↔ attempt.result = .error (.killRefused text) := by
  have isRead := read
  rw [isAt.attempts, mem_finished] at isRead
  obtain ⟨launch, found, described⟩ := isAt.ordered.tracks attempt isRead.1
  rw [described.refused_iff, described.limitKill, Option.ne_none_iff_exists']
  constructor
  · rintro ⟨-, launch', deadline, found', limited, fault⟩
    cases found.symm.trans found'
    exact ⟨⟨deadline, limited⟩, fault⟩
  · rintro ⟨⟨deadline, limited⟩, fault⟩
    exact ⟨read, launch, deadline, found, limited, fault⟩

/-- **What becomes of a process that cannot be killed.** A question ends with the refusal of a kill
exactly if, in a race that reads no success, the process of the earliest attempt ran past its limit
and could not be killed then; this race is the last one. So the refusal of a kill after the end of a
question never shows. An attempt that is read past its limit fails, and can be retried exactly if its
process could be killed. -/
theorem refusals_surface (args : List String) (tool : Tool) (policy : Policy)
    (giveUp : Option Instant) (start : Instant) (before : Session) :
    (∀ text, (run args tool policy giveUp start before).2.1 = .error (.killRefused text) ↔
      ∃ earlier race later attempt,
        chronicle args tool policy giveUp start before = earlier ++ race :: later ∧
        race.Resists policy.limit attempt text ∧
        (∀ other ∈ race.attempts, other.isSuccess = false ∧ attempt.slot ≤ other.slot) ∧
        race.Ends attempt later (run args tool policy giveUp start before)) ∧
    ∀ race ∈ chronicle args tool policy giveUp start before, ∀ attempt ∈ race.attempts,
      attempt.limitKill ≠ none → attempt.isSuccess = false ∧
        (attempt.isFatal = true ↔ ∃ text, race.Resists policy.limit attempt text) := by
  refine ⟨fun text => ⟨fun failed => ?_, ?_⟩, fun race isRace attempt read limited => ?_⟩
  · have own : (RunError.killRefused text).IsOfAttempt := trivial
    obtain ⟨earlier, race, parts, settles⟩ := chronicle_decides own failed
    obtain ⟨call, isAt, -⟩ := chronicle_split parts
    -- The race reads no success, for the earliest one would decide.
    have failures : ∀ other ∈ race.attempts, other.isSuccess = false := by
      by_contra success
      simp only [not_forall, exists_prop, Bool.not_eq_false] at success
      obtain ⟨winner, -, succeeds, -, decided⟩ := settle?_of_success isAt.slots success
      obtain ⟨answer, result⟩ := Attempt.isSuccess_iff.mp succeeds
      rw [settles, result] at decided
      cases decided
    obtain ⟨some, isIn⟩ : ∃ some, some ∈ race.attempts := by
      refine List.exists_mem_of_ne_nil _ fun none => ?_
      rw [none, settle?, if_pos rfl] at settles
      cases settles
    obtain ⟨attempt, read, earliest⟩ := exists_earliest isAt.slots isIn
    have decided := settle?_of_failures isAt.slots failures read earliest
    rw [settles] at decided
    split at decided
    · have refused := (Option.some.inj decided).symm
      refine ⟨earlier, race, [], attempt, parts, (isAt.resists_iff read).mpr refused,
        fun other member => ⟨failures other member, earliest other member⟩, isAt.ends ?_⟩
      rw [settles, refused]
    · cases decided
  · rintro ⟨earlier, race, later, attempt, parts, resists, -, ends⟩
    obtain ⟨call, isAt, -⟩ := chronicle_split parts
    exact ends.result.trans ((isAt.resists_iff resists.read).mp resists)
  · obtain ⟨earlier, later, parts⟩ := List.append_of_mem isRace
    obtain ⟨call, isAt, -⟩ := chronicle_split parts
    have isRead := read
    rw [isAt.attempts, mem_finished] at isRead
    obtain ⟨launch, found, described⟩ := isAt.ordered.tracks attempt isRead.1
    obtain ⟨fails, fatal⟩ := described.past_limit limited isRead.2
    refine ⟨fails, fatal.trans (exists_congr fun text => ?_)⟩
    rw [isAt.resists_iff read, described.refused_iff, and_iff_right limited]

/-- A process that runs past its limit and cannot be killed, and one that answers. -/
def resistsThenAnswers : Tool :=
  ⟨"flow", fun _ => ⟨"version",
    [{ lifetime := some 1125000000, killFault := some (.refused "Operation not permitted") },
      { lifetime := some 500000000, output := [108, 97, 116, 101] }]⟩,
    .styled⟩

/-- Up to two processes, three quarters of a second after each other, for a second each. -/
def twoTries : Policy := ⟨2, .ofDecimal false 75 (-2), some (.ofInt 1)⟩

/-- The process of the first attempt resists, and its refusal ends the question. -/
theorem refusals_surface_resistsThenAnswers :
    (run ["version"] resistsThenAnswers twoTries none 0 {}).2.1 =
        .error (.killRefused "Operation not permitted") ∧
      ∃ race ∈ chronicle ["version"] resistsThenAnswers twoTries none 0 {}, ∃ attempt,
        race.Resists twoTries.limit attempt "Operation not permitted" ∧
          attempt.limitKill ≠ none ∧ attempt.isSuccess = false ∧ attempt.isFatal = true := by
  obtain ⟨ends, pastLimit⟩ := refusals_surface ["version"] resistsThenAnswers twoTries none 0 {}
  have refused : (run ["version"] resistsThenAnswers twoTries none 0 {}).2.1 =
      .error (.killRefused "Operation not permitted") := by
    decide +kernel
  have limited : ∀ race ∈ chronicle ["version"] resistsThenAnswers twoTries none 0 {},
      ∀ attempt ∈ race.attempts, attempt.limitKill ≠ none := by
    decide +kernel
  obtain ⟨earlier, race, later, attempt, parts, resists, -⟩ := (ends _).mp refused
  have isRace : race ∈ chronicle ["version"] resistsThenAnswers twoTries none 0 {} := by
    rw [parts]
    exact List.mem_append_right _ List.mem_cons_self
  have isLimited := limited race isRace attempt resists.read
  obtain ⟨fails, fatal⟩ := pastLimit race isRace attempt resists.read isLimited
  exact ⟨refused, race, isRace, attempt, resists, isLimited, fails, fatal.mpr ⟨_, resists⟩⟩

/-- The refusal of a kill ends a question, although another process is about to answer. -/
theorem refusal_surfaced :
    ¬ ∀ (args : List String) (tool : Tool) (policy : Policy) (giveUp : Option Instant)
      (start : Instant) (before : Session),
      (∀ text, (run args tool policy giveUp start before).2.1 ≠ .error (.killRefused text)) ∧
      ∀ race ∈ chronicle args tool policy giveUp start before, ∀ attempt ∈ race.attempts,
        attempt.limitKill ≠ none → attempt.isFatal = false := by
  intro quiet
  have refused : (run ["version"] resistsThenAnswers twoTries none 0 {}).2.1 =
      .error (.killRefused "Operation not permitted") := by
    decide +kernel
  exact (quiet _ _ _ _ _ _).1 _ refused

end

end TypeSchema
