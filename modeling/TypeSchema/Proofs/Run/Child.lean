/-
**Waiting for a process that nobody else kills.**

* `limitKill?_eq_some_iff`: a process is killed at its limit if it has not ended before;
* `ending_of_in_time`, `ending_of_limit`: what waiting comes to, within the limit and past it;
* `ending_of_limit_spec`: **past its limit a process never answers**, and waiting for it is not over
  before the limit;
* `naturalEnd_of_running`: while waiting is not over and the limit is not reached, the process has
  not ended;
* `ending_eq_ok_iff`: **a process answers** exactly if it ends by itself, in time, with code zero
  and a text that is read;
* `ending_eq_error`: what waiting fails with is a failure of an attempt.
-/

import TypeSchema.Run.Child

namespace TypeSchema

/-! ### Instants -/

theorem reached_some (instant now : Instant) :
    reached (some instant) now = true ↔ instant ≤ now := by
  simp [reached]

theorem reached_iff {instant? : Option Instant} {now : Instant} :
    reached instant? now = true ↔ ∃ instant, instant? = some instant ∧ instant ≤ now := by
  cases instant? <;> simp [reached]

/-- The failures of an attempt, as opposed to those of the question that makes it. -/
def RunError.IsOfAttempt : RunError → Prop
  | .exited .. | .timedOut .. | .killed .. | .notText | .killRefused _ | .givenUp => True
  | _ => False

/-- The failures with which a start ends a question. -/
def RunError.IsOfStart : RunError → Prop
  | .crashed _ | .unprintable _ => True
  | _ => False

namespace Child

variable {child : Child} {args : List String} {start now : Instant} {limit : Option Binary64}

/-! ### Ends -/

theorem exit?_none : child.exit? start none =
    (child.naturalEnd start).map fun time => (time, child.code) := rfl

/-- A process that is killed ends by itself, or not before it is killed. -/
theorem exit?_some_cases {kill time : Instant} {code : Int}
    (exits : child.exit? start (some kill) = some (time, code)) :
    child.naturalEnd start = some time ∨ kill ≤ time := by
  have natural (same : (child.naturalEnd start).map (fun time => (time, child.code)) =
      some (time, code)) : child.naturalEnd start = some time := by
    obtain ⟨end_, isEnd, pair⟩ := Option.map_eq_some_iff.mp same
    rw [isEnd, (Prod.mk.inj pair).1]
  simp only [exit?] at exits
  split at exits
  · exact .inl (natural exits)
  · split at exits
    · exact .inl (natural exits)
    · cases exits
      exact .inr (Nat.le_refl _)
    · split at exits
      · exact .inl (natural exits)
      · cases exits
        exact .inr (Nat.le_add_right _ _)

/-! ### The limit -/

theorem deadline?_none : deadline? start none = none := rfl

/-- A process is killed at its limit if it has not ended before. -/
theorem limitKill?_eq_some_iff {deadline : Instant} :
    child.limitKill? start limit none = some deadline ↔
      deadline? start limit = some deadline ∧
        ∀ time, child.naturalEnd start = some time → deadline ≤ time := by
  rw [limitKill?, Option.filter_eq_some_iff, and_congr_right_iff]
  intro _
  rw [exit?_none, outlasts]
  cases child.naturalEnd start <;> simp

/-- Waiting for a process that does not come to its limit. -/
theorem ending_of_in_time (inTime : child.limitKill? start limit none = none) :
    child.ending args start limit none = (child.naturalEnd start).map fun time =>
      ⟨time, child.outcome args false child.code⟩ := by
  cases limit with
  | none =>
    simp only [ending]
    rw [exit?_none, Option.map_map]
    rfl
  | some seconds =>
    simp only [ending, inTime]
    rw [exit?_none, Option.map_map]
    rfl

/-- Waiting for a process that comes to its limit. -/
theorem ending_of_limit (args : List String) {deadline : Instant}
    (limited : child.limitKill? start limit none = some deadline) :
    ∃ seconds, limit = some seconds ∧
      ((∃ text, child.killFault = some (.refused text) ∧
          child.ending args start limit none = some ⟨deadline, .error (.killRefused text)⟩) ∨
        child.ending args start limit none =
          (child.exit? start (some deadline)).map fun (time, code) =>
            ⟨time, .error (.timedOut args seconds code)⟩) := by
  cases limit with
  | none => simp [limitKill?, deadline?_none] at limited
  | some seconds =>
    refine ⟨seconds, rfl, ?_⟩
    cases fault : child.killFault with
    | none =>
      simp only [ending, limited, fault]
      exact .inr rfl
    | some reason =>
      cases reason with
      | gone =>
        simp only [ending, limited, fault]
        exact .inr rfl
      | refused text =>
        simp only [ending, limited, fault]
        exact .inl ⟨text, rfl, rfl⟩

/-- **Past its limit a process never answers**, and waiting for it is not over before the limit. -/
theorem ending_of_limit_spec {deadline : Instant} {ending : Ending}
    (limited : child.limitKill? start limit none = some deadline)
    (ends : child.ending args start limit none = some ending) :
    deadline ≤ ending.time ∧
      ((∃ text, ending.result = .error (.killRefused text)) ∨
        ∃ seconds code, ending.result = .error (.timedOut args seconds code)) := by
  obtain ⟨seconds, -, ⟨text, -, refused⟩ | timedOut⟩ := ending_of_limit args limited
  · cases refused.symm.trans ends
    exact ⟨Nat.le_refl _, .inl ⟨text, rfl⟩⟩
  · rw [timedOut] at ends
    obtain ⟨⟨time, code⟩, exits, rfl⟩ := Option.map_eq_some_iff.mp ends
    refine ⟨?_, .inr ⟨seconds, code, rfl⟩⟩
    rcases exit?_some_cases exits with natural | after
    · exact (limitKill?_eq_some_iff.mp limited).2 time natural
    · exact after

/-- When waiting is over does not depend on the command line. -/
theorem endTime_congr (child : Child) (args args' : List String) (start : Instant)
    (limit : Option Binary64) : (child.ending args start limit none).map Ending.time =
      (child.ending args' start limit none).map Ending.time := by
  simp only [ending]
  split
  · split
    · rfl
    · rw [Option.map_map, Option.map_map]
      rfl
  · rw [Option.map_map, Option.map_map]
    rfl

/-- While waiting is not over and the limit is not reached, a process has not ended. -/
theorem naturalEnd_of_running {time : Instant}
    (waits : ¬ reached ((child.ending args start limit none).map Ending.time) now)
    (below : ¬ reached (child.limitKill? start limit none) now)
    (natural : child.naturalEnd start = some time) : now < time := by
  cases limited : child.limitKill? start limit none with
  | none =>
    rw [ending_of_in_time limited, natural] at waits
    simpa [reached] using waits
  | some deadline =>
    rw [limited, reached_some, Nat.not_le] at below
    exact Nat.lt_of_lt_of_le below ((limitKill?_eq_some_iff.mp limited).2 time natural)

/-! ### Answers -/

theorem outcome_eq_ok_iff {wasKilled : Bool} {code : Int} {text : String} :
    child.outcome args wasKilled code = .ok text ↔
      child.givesUp = false ∧ wasKilled = false ∧ code = 0 ∧ decode? child.output = some text := by
  rw [outcome]
  split
  · simp [*]
  · split
    · rename_i killed
      rcases killed with killed | negative
      · simp [killed]
      · simp [Int.ne_of_lt negative]
    · split
      · simp [*]
      · cases decode? child.output <;> simp_all

/-- **A process answers** exactly if it ends by itself, in time, with code zero and a text. -/
theorem ending_eq_ok_iff {time : Instant} {text : String} :
    child.ending args start limit none = some ⟨time, .ok text⟩ ↔
      child.limitKill? start limit none = none ∧ child.naturalEnd start = some time ∧
        child.givesUp = false ∧ child.code = 0 ∧ decode? child.output = some text := by
  cases limited : child.limitKill? start limit none with
  | none =>
    rw [ending_of_in_time limited]
    simp only [Option.map_eq_some_iff, Ending.mk.injEq, outcome_eq_ok_iff, true_and]
    exact ⟨fun ⟨_, natural, same, answers⟩ => ⟨same ▸ natural, answers⟩,
      fun ⟨natural, answers⟩ => ⟨time, natural, rfl, answers⟩⟩
  | some deadline =>
    refine ⟨fun ends => ?_, fun both => (Option.some_ne_none _ both.1).elim⟩
    rcases (ending_of_limit_spec limited ends).2 with ⟨_, error⟩ | ⟨_, _, error⟩ <;> cases error

/-! ### Failures -/

theorem outcome_eq_error {wasKilled : Bool} {code : Int} {error : RunError}
    (fails : child.outcome args wasKilled code = .error error) :
    error = .cancelled ∨ error.IsOfAttempt := by
  rw [outcome] at fails
  split at fails
  · cases fails
    exact .inl rfl
  · split at fails
    · cases fails
      exact .inr trivial
    · split at fails
      · cases fails
        exact .inr trivial
      · split at fails
        · cases fails
        · cases fails
          exact .inr trivial

/-- What waiting for a process fails with is a failure of an attempt, unless the wait is
cancelled. -/
theorem ending_eq_error {time : Instant} {error : RunError}
    (fails : child.ending args start limit none = some ⟨time, .error error⟩) :
    error = .cancelled ∨ error.IsOfAttempt := by
  cases limited : child.limitKill? start limit none with
  | none =>
    rw [ending_of_in_time limited] at fails
    obtain ⟨_, -, same⟩ := Option.map_eq_some_iff.mp fails
    exact outcome_eq_error (Ending.mk.inj same).2
  | some deadline =>
    rcases (ending_of_limit_spec limited fails).2 with ⟨_, same⟩ | ⟨_, _, same⟩
    · cases same
      exact .inr trivial
    · cases same
      exact .inr trivial

end Child

end TypeSchema
