/-
**When a question ends at the latest.**

* `Child.exists_ending_by`: waiting for a process is over some time after its limit, if the process
  is gone by then whenever it is killed at the limit;
* `Call.exists_due?_by`: a question never waits beyond its bound, by what each phase waits for;
  `Runs.ends_by`: **so it ends by its bound**;
* `launch_schedule`: **the schedule of a question**, from its first process to its end.
-/

import TypeSchema.Proofs.Run.Answers
import TypeSchema.Proofs.Run.Cleanup
import TypeSchema.Proofs.Run.Refusals

namespace TypeSchema

open Call

/-- A process is gone by some time after its limit, if it is killed then. -/
def Origin.DiesWithin (origin : Origin) (limit : Option Binary64) (span : Nat) : Prop :=
  ∀ deadline, origin.child.limitKill? origin.start limit none = some deadline →
    (∀ text, origin.child.killFault ≠ some (.refused text)) →
      ∃ time code, origin.child.exit? origin.start (some deadline) = some (time, code) ∧
        time ≤ deadline + span

/-- Waiting for a process that dies in time is over in time. -/
theorem Origin.DiesWithin.exists_ending {origin : Origin} {limit : Option Binary64} {span : Nat}
    (dies : origin.DiesWithin limit span) (args : List String) {seconds : Binary64} {timeout : Nat}
    (isLimit : limit = some seconds) (isTimeout : seconds.span? = some timeout) :
    ∃ ending, origin.child.ending args origin.start limit none = some ending ∧
      ending.time ≤ origin.start + timeout + span := by
  have isDeadline : Child.deadline? origin.start limit = some (origin.start + timeout) := by
    rw [isLimit, Child.deadline?, Option.bind_some, isTimeout]
    rfl
  cases limited : origin.child.limitKill? origin.start limit none with
  | none =>
    -- The process has ended before the limit.
    rw [Child.ending_of_in_time limited]
    rw [Child.limitKill?, isDeadline, Child.exit?_none] at limited
    cases natural : origin.child.naturalEnd origin.start with
    | none => simp [natural, Child.outlasts] at limited
    | some time =>
      have before : time < origin.start + timeout := by
        simpa [natural, Child.outlasts] using limited
      exact ⟨_, rfl, Nat.le_trans before.le (Nat.le_add_right _ _)⟩
  | some deadline =>
    cases isDeadline.symm.trans (Child.limitKill?_eq_some_iff.mp limited).1
    by_cases refuses : ∃ text, origin.child.killFault = some (.refused text)
    · obtain ⟨text, refusal⟩ := refuses
      exact ⟨_, Child.ending_eq_killRefused_iff.mpr ⟨limited, refusal⟩, Nat.le_add_right _ _⟩
    · have killable := not_exists.mp refuses
      obtain ⟨time, code, exits, inTime⟩ := dies _ limited killable
      obtain ⟨seconds, -, ⟨text, refusal, -⟩ | timedOut⟩ := Child.ending_of_limit args limited
      · exact (killable text refusal).elim
      · rw [timedOut, exits]
        exact ⟨_, rfl, inTime⟩

/-! ### Bounds -/

namespace Policy

variable {policy : Policy} {start : Instant} {tries : List Origin} {slot : Nat} {origin : Origin}

/-- The time of all rounds, after what all processes take to start. -/
noncomputable def lastRound (policy : Policy) (start : Instant) (tries : List Origin) : ℕ∞ :=
  start + policy.roundsTime policy.retries + startups tries

theorem startups_take_succ (found : tries[slot]? = some origin) :
    startups (tries.take slot) + origin.child.startup ≤ startups tries := by
  have parts : tries.take (slot + 1) = tries.take slot ++ [origin] := by
    rw [List.take_add_one, found, Option.toList_some]
  have fewer : startups (tries.take (slot + 1)) ≤ startups tries :=
    ((List.take_sublist _ tries).map _).sum_le_sum fun _ _ => Nat.zero_le _
  rwa [parts, startups, List.map_append, List.sum_append, List.map_singleton, List.sum_singleton]
    at fewer

/-- Every process is there by the end of all rounds. -/
theorem Paced.start_le (paced : policy.Paced start tries) (found : tries[slot]? = some origin) :
    (origin.start : ℕ∞) ≤ policy.lastRound start tries := by
  have inside : slot ≤ policy.retries :=
    Nat.le_trans (List.getElem?_eq_some_iff.mp found).1.le paced.few
  have rounds := policy.roundsTime_mono inside
  have last : ((startups (tries.take slot) + origin.child.startup : Nat) : ℕ∞) ≤ startups tries :=
    Nat.cast_le.mpr (startups_take_succ found)
  calc (origin.start : ℕ∞) = origin.began + origin.child.startup := by
        rw [Origin.start, Nat.cast_add]
    _ ≤ policy.latest start tries slot + origin.child.startup := by
        gcongr
        exact (paced.inTime slot origin found).2
    _ = start + policy.roundsTime slot + (startups (tries.take slot) + origin.child.startup : Nat) := by
        rw [latest, Nat.cast_add, add_assoc, add_assoc]
    _ ≤ policy.lastRound start tries := by
        rw [lastRound]
        gcongr

end Policy

namespace Call

variable {call : Call} {args : List String} {policy : Policy} {first : Nat} {start now : Instant}
  {session : Session} {all : List Origin} {seconds : Binary64} {timeout span bound : Nat}

/-- The attempts of a question are over in time. -/
theorem Timely.exists_endTime? {attempt : Attempt} (sound : call.Sound policy now session)
    (timely : call.Timely args policy first start (session.tries first))
    (grown : session.tries first <+: all) (paced : policy.Paced start all)
    (isLimit : policy.limit = some seconds) (isTimeout : seconds.span? = some timeout)
    (die : ∀ origin ∈ all, origin.child.startFault = none → origin.DiesWithin policy.limit span)
    (isBound : policy.lastRound start all + timeout + span = bound) (isLive : attempt ∈ call.live) :
    ∃ time, attempt.endTime? = some time ∧ time ≤ bound := by
  obtain ⟨origin, found, starts, describes⟩ := timely.exists_origin sound grown isLive
  obtain ⟨ending, isEnding, inTime⟩ := (die origin (List.mem_of_getElem? found) starts).exists_ending
    args isLimit isTimeout
  refine ⟨ending.time, by rw [Attempt.endTime?, describes, isEnding, Option.map_some], ?_⟩
  refine Nat.cast_le.mp (?_ : (ending.time : ℕ∞) ≤ bound)
  rw [← isBound]
  calc (ending.time : ℕ∞) ≤ (origin.start + timeout + span : Nat) := Nat.cast_le.mpr inTime
    _ = origin.start + timeout + span := by rw [Nat.cast_add, Nat.cast_add]
    _ ≤ policy.lastRound start all + timeout + span := by
        gcongr
        exact paced.start_le found

/-- A question never waits beyond its bound. -/
theorem exists_due?_by (sound : call.Sound policy now session)
    (timely : call.Timely args policy first start (session.tries first))
    (grown : session.tries first <+: all) (paced : policy.Paced start all)
    (isLimit : policy.limit = some seconds) (isTimeout : seconds.span? = some timeout)
    (die : ∀ origin ∈ all, origin.child.startFault = none → origin.DiesWithin policy.limit span)
    (isBound : policy.lastRound start all + timeout + span = bound) (inTime : now ≤ bound) :
    ∃ due, call.due? = some due ∧ due ≤ bound := by
  have within {time : ℕ∞} (early : time ≤ policy.lastRound start all) : time ≤ bound := by
    rw [← isBound, add_assoc]
    exact early.trans le_self_add
  rw [← sound.since] at inTime
  cases phase : call.phase with
  | starting number child =>
    have found := timely.starting grown phase
    refine ⟨call.since + child.startup, by rw [due?, phase], ?_⟩
    exact Nat.cast_le.mp (within (paced.start_le found))
  | racing roundEnd =>
    have inPhase := timely.phase
    rw [phase] at inPhase
    obtain ⟨length, -, -, inRound⟩ := inPhase
    have few : call.rounds ≤ policy.retries := by
      rw [← length]
      exact Nat.le_trans grown.length_le paced.few
    rw [Policy.latest_of_prefix grown (Nat.le_of_eq length.symm)] at inRound
    have early := within (inRound.trans (Policy.latest_le few))
    cases roundEnd with
    | none => exact (ENat.natCast_ne_top _ (top_le_iff.mp early)).elim
    | some roundEnd =>
      obtain ⟨due, isDue, order⟩ := exists_due?_of_racing phase
      exact ⟨due, isDue, Nat.le_trans order (Nat.max_le.mpr ⟨inTime, Nat.cast_le.mp early⟩)⟩
  | draining =>
    obtain ⟨attempt, isLive⟩ := List.exists_mem_of_ne_nil _ (timely.waits phase)
    obtain ⟨time, ends, before⟩ := timely.exists_endTime? sound grown paced isLimit isTimeout die
      isBound isLive
    obtain ⟨due, isDue, order⟩ := exists_due?_of_ends isLive ends (by simp [phase])
    exact ⟨due, isDue, Nat.le_trans order (Nat.max_le.mpr ⟨inTime, before⟩)⟩

end Call

/-- **A question under a limit ends by its bound.** -/
theorem Runs.ends_by {args : List String} {tool : Tool} {policy : Policy}
    {giveUp : Option Instant} {first : Nat} {start now : Instant} {progress : Progress}
    {session : Session} {races : List Race} {seconds : Binary64} {timeout span bound : Nat}
    {outcome : Instant × Except RunError String × Session}
    (runs : Runs tool policy giveUp now progress session races outcome)
    (sound : ∀ call, progress = .waiting call → call.Sound policy now session)
    (old : first ≤ session.launches.length)
    (onTime : progress.Timely args policy first start (session.tries first))
    (isLimit : policy.limit = some seconds) (isTimeout : seconds.span? = some timeout)
    (die : ∀ origin ∈ outcome.2.2.tries first, origin.child.startFault = none →
      origin.DiesWithin policy.limit span)
    (isBound : policy.lastRound start (outcome.2.2.tries first) + timeout + span = bound)
    (inTime : now ≤ bound) : outcome.1 ≤ bound ∧ outcome.2.1 ≠ .error .endless := by
  obtain ⟨grown, paced, -⟩ := runs.timely sound old onTime
  induction runs with
  | ended =>
    refine ⟨inTime, ?_⟩
    rintro rfl
    rcases onTime.failed _ rfl with own | ofStart | ⟨⟨args', same⟩, -⟩
    · exact own
    · exact ofStart
    · cases same
  | stuck never _ =>
    obtain ⟨due, isDue, -⟩ := exists_due?_by (sound _ rfl) (onTime.waiting _ rfl) grown paced
      isLimit isTimeout die isBound inTime
    cases never.symm.trans isDue
  | @cancelled _ call session instant given before =>
    obtain ⟨due, isDue, order⟩ := exists_due?_by (sound _ rfl) (onTime.waiting _ rfl) grown paced
      isLimit isTimeout die isBound inTime
    exact ⟨Nat.le_trans (before due isDue).le order, by rintro ⟨⟩⟩
  | @stepped now call session due races outcome isDue _ rest ih =>
    have isSound := sound call rfl
    have isTimely := onTime.waiting call rfl
    obtain ⟨-, follows⟩ := step_follows tool isSound isDue
    obtain ⟨gone, advance, -⟩ := follows.advance
    have older := Nat.le_trans old advance.grows
    obtain ⟨-, next⟩ := step_timely tool isSound isTimely onTime.paced old isDue
    obtain ⟨grown', -⟩ := rest.timely follows.sound older next
    obtain ⟨due', isDue', order⟩ := exists_due?_by isSound isTimely grown paced isLimit isTimeout
      die isBound inTime
    cases isDue.symm.trans isDue'
    exact ih follows.sound older next die isBound order grown' paced

/-- **The schedule of a question.** Its processes are started one after the other in the order of
their slots, at most as many as the policy says, and each one by the time at which the rounds before
its slot are over and the earlier processes are there. If the processes before a slot are refused,
hang or can be retried and the one of the slot answers at once, its answer comes when these rounds are
over, provided that no process takes time to start and that the console prints the warnings of those
that were refused. A question is exhausted only when it has started all its processes; and under a
limit it ends at the latest when all rounds are over, all processes are there, the limit has passed
and the processes that were killed at it are gone. -/
theorem launch_schedule (args : List String) (tool : Tool) (policy : Policy)
    (giveUp : Option Instant) (start : Instant) (before : Session) {now : Instant}
    {result : Except RunError String} {after : Session}
    (ran : run args tool policy giveUp start before = (now, result, after)) :
    policy.Paced start (after.tries before.launches.length) ∧
      (∀ race ∈ chronicle args tool policy giveUp start before, ∀ attempt ∈ race.attempts,
        attempt.number = before.launches.length + attempt.slot) ∧
      (∀ slot text bound,
        policy.AnsweredBy tool args start (after.tries before.launches.length) slot text bound →
        (∀ instant, giveUp = some instant → bound ≤ instant) → result = .ok text ∧ now ≤ bound) ∧
      (∀ args', result = .error (.exhausted args') →
        (after.tries before.launches.length).length = policy.retries) ∧
      ∀ seconds timeout span, policy.limit = some seconds → seconds.span? = some timeout →
        (∀ origin ∈ after.tries before.launches.length, origin.child.startFault = none →
          origin.DiesWithin policy.limit span) →
        (now : ℕ∞) ≤
            policy.lastRound start (after.tries before.launches.length) + timeout + span ∧
          (policy.roundsTime policy.retries ≠ ⊤ → result ≠ .error .endless) := by
  have runs := runs_run args tool policy giveUp start before
  have follows := begin_follows args tool policy start before
  obtain ⟨_, advance, -⟩ := follows.advance
  have onTime := begin_timely args tool policy start before
  obtain ⟨grows, paced, all, read⟩ := runs.timely follows.sound advance.grows onTime
  rw [ran] at runs grows paced all
  refine ⟨paced, read, fun slot text bound answered patient => ?_, all,
    fun seconds timeout span isLimit isTimeout die => ?_⟩
  · have inTime : start ≤ bound := by
      refine Nat.cast_le.mp (?_ : (start : ℕ∞) ≤ bound)
      rw [← answered.rounds]
      exact le_self_add
    obtain ⟨first, same, awaits⟩ := nextRound_awaits tool answered
      (ready_begin args policy start before) grows (Nat.zero_le slot)
    refine runs.answered follows.sound advance.grows onTime answered patient inTime
      (fun call waits => ?_) (fun result ends => ?_)
    · cases same.symm.trans waits
      exact awaits
    · cases same.symm.trans ends
  · cases isBound : policy.lastRound start (after.tries before.launches.length) + timeout + span with
    | top =>
      refine ⟨le_top, fun finite => (finite ?_).elim⟩
      simpa [Policy.lastRound, ENat.add_eq_top] using isBound
    | coe bound =>
      have inTime : start ≤ bound := by
        refine Nat.cast_le.mp (?_ : (start : ℕ∞) ≤ bound)
        rw [← isBound, Policy.lastRound, add_assoc, add_assoc, add_assoc]
        exact le_self_add
      obtain ⟨early, ends⟩ := runs.ends_by follows.sound advance.grows onTime isLimit isTimeout die
        isBound inTime
      exact ⟨Nat.cast_le.mpr early, fun _ => ends⟩

/-- A process that the system refuses to start. -/
def refusedChild : Child := { startFault := some (.refused 11 "Resource temporarily unavailable") }

/-- A process that answers at once. -/
def promptChild : Child := { output := [111, 107] }

/-- A process that hangs. -/
def hungChild : Child := { lifetime := none }

/-- A program of which the first process is refused. -/
def refusesFirst (program : String) (others : List Child) : Tool :=
  ⟨program, fun _ => ⟨"version", refusedChild :: others⟩, .styled⟩

/-- Asking such a program. -/
def runRefused (program : String) (others : List Child) :
    Instant × Except RunError String × Session :=
  run ["version"] (refusesFirst program others) threeTries none 0 {}

theorem isRetried_refusedChild {start bound : Instant} {args : List String}
    {limit : Option Binary64} : (⟨refusedChild, start⟩ : Origin).IsRetried args limit bound where
  starts _ crash := by cases crash
  fails started := by cases started

/-- A process that is refused and one that hangs are outraced: the third process answers when the
rounds of both are over. -/
theorem launch_schedule_refusesFirst :
    ∃ now after, runRefused "flow" [hungChild, promptChild] = (now, .ok "ok", after) ∧
      now ≤ 375000000 ∧ (after.tries 0).length ≤ 3 := by
  have rounds : threeTries.roundSpan 0 = some 125000000 ∧ threeTries.roundSpan 1 = some 250000000 := by
    decide +kernel
  have warns : (refusesFirst "flow" [hungChild, promptChild]).Warns 0 refusedChild := by
    rintro code text ⟨⟩
    decide +kernel
  have hangs : ∀ ending, hungChild.ending ["version"] 125000000 threeTries.limit none =
      some ending → ¬ ending.time ≤ 375000000 := by
    decide +kernel
  have answers : promptChild.ending ["version"] 375000000 threeTries.limit none =
      some ⟨375000000, .ok "ok"⟩ :=
    Child.ending_eq_ok_iff.mpr (by decide +kernel)
  have tries : (runRefused "flow" [hungChild, promptChild]).2.2.tries 0 =
      [⟨refusedChild, 0⟩, ⟨hungChild, 125000000⟩, ⟨promptChild, 375000000⟩] := by
    decide +kernel
  generalize ran : runRefused "flow" [hungChild, promptChild] = outcome at tries
  obtain ⟨now, result, after⟩ := outcome
  change after.tries 0 = _ at tries
  obtain ⟨paced, -, answered, -⟩ := launch_schedule _ _ _ _ _ _ ran
  obtain ⟨rfl, inTime⟩ := answered 2 "ok" 375000000
    { room := by decide
      rounds := by
        rw [Policy.roundsTime, Finset.sum_range_succ, Finset.sum_range_one, rounds.1, rounds.2]
        rfl
      atOnce := by
        rw [List.length_nil, tries]
        decide
      retried := by
        rw [List.length_nil, tries]
        simp only [List.take_succ_cons, List.take_zero, List.forall_mem_cons]
        refine ⟨isRetried_refusedChild, ⟨?_, ?_⟩, List.forall_mem_nil _⟩
        · rintro text ⟨⟩
        · exact fun _ ending ends early => (hangs ending ends early).elim
      warns := by
        rw [List.length_nil, tries]
        intro earlier origin before found
        obtain rfl | rfl : earlier = 0 ∨ earlier = 1 := by omega
        · cases found
          exact warns
        · cases found
          rintro code text ⟨⟩
      answers := by
        rw [List.length_nil, tries]
        rintro origin ⟨⟩
        exact ⟨rfl, answers⟩ } (by simp)
  exact ⟨now, after, rfl, inTime, paced.few⟩

/-- **A refused start can end a question**: the console takes a part of the path of the program for a
tag that closes what is not open, and the process that answers at once is not started. Under another
path it is. -/
theorem refused_start_ends_question :
    (∃ after, runRefused "/opt/x[/b]/flow" [promptChild] =
        (0, .error (.unprintable "closing tag '[/b]' at position 74 doesn't match any open tag"),
          after) ∧ after.tries 0 = [⟨refusedChild, 0⟩]) ∧
      (runRefused "flow" [promptChild]).2.1 = .ok "ok" ∧
      ¬ ∀ (args : List String) (tool : Tool) (policy : Policy) (giveUp : Option Instant)
        (start : Instant) (before : Session) (now : Instant) (result : Except RunError String)
        (after : Session), run args tool policy giveUp start before = (now, result, after) →
          ∀ slot text bound,
            policy.Answered args start (after.tries before.launches.length) slot text bound →
            (∀ instant, giveUp = some instant → bound ≤ instant) → result = .ok text ∧ now ≤ bound := by
  have came : (runRefused "/opt/x[/b]/flow" [promptChild]).1 = 0 ∧
      (runRefused "/opt/x[/b]/flow" [promptChild]).2.1 = .error (.unprintable
        "closing tag '[/b]' at position 74 doesn't match any open tag") ∧
      (runRefused "/opt/x[/b]/flow" [promptChild]).2.2.tries 0 = [⟨refusedChild, 0⟩] := by
    decide +kernel
  generalize ran : runRefused "/opt/x[/b]/flow" [promptChild] = outcome at came
  obtain ⟨now, result, after⟩ := outcome
  obtain ⟨rfl, rfl, tries⟩ := came
  change after.tries 0 = _ at tries
  refine ⟨⟨after, rfl, tries⟩, by decide +kernel, fun claimed => ?_⟩
  have round : threeTries.roundSpan 0 = some 125000000 := by decide +kernel
  obtain ⟨isText, -⟩ := claimed _ _ _ _ _ _ _ _ _ ran 1 "ok" 125000000
    { room := by decide
      rounds := by
        rw [Policy.roundsTime, Finset.sum_range_one, round]
        rfl
      atOnce := by
        rw [List.length_nil, tries]
        decide
      retried := by
        rw [List.length_nil, tries]
        simp only [List.take_succ_cons, List.take_zero, List.forall_mem_cons]
        exact ⟨isRetried_refusedChild, List.forall_mem_nil _⟩
      answers := by
        rw [List.length_nil, tries]
        rintro origin ⟨⟩ } (by rintro instant ⟨⟩)
  cases isText

end TypeSchema
