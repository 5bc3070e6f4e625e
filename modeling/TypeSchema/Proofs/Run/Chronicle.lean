/-
**The races of a question, from its beginning to its end.**

* `Race`: attempts that are read together, and the processes as they stood then;
  `Call.chronicle`: the races of a question in their order;
* `Runs`: the ways in which a question goes on, step by step, with the races on the way;
* `runs_run`: **the steps of a question are enough for it**, so that its run and its chronicle are
  among them;
* `Runs.advance`: what becomes of the processes until the end, by induction on the steps;
* `Runs.split`: what holds at a race, from the steps that lead there.
-/

import TypeSchema.Proofs.Run.Step

namespace TypeSchema

/-- Attempts that are read together. -/
structure Race where
  instant : Instant
  /-- The processes before the attempts are read. -/
  session : Session
  attempts : List Attempt

/-- The numbers of the attempts that are read. -/
def Race.numbers (race : Race) : List Nat := race.attempts.map Attempt.number

/-- What a race finds of the processes that a question owned when others had been read: processes
of others are as they were, and each one that was started is owned still, or was read. -/
structure Race.Finds (race : Race) (call : Call) (own : List Nat) (session : Session)
    (read : List Nat) : Prop where
  grows : session.launches.length ≤ race.session.launches.length
  frame : ∀ number < session.launches.length, number ∉ own →
    race.session.launches[number]? = session.launches[number]?
  cover : ∀ number, number ∈ own ∨ session.launches.length ≤ number →
    ∀ launch, race.session.launches[number]? = some launch → launch.started = true →
      number ∈ call.numbers ∨ number ∈ read

namespace Call

/-- The race of a step, unless a process only arrives. -/
def racesAt (call : Call) (now : Instant) (session : Session) : List Race :=
  match call.phase with
  | .starting _ _ => []
  | _ => [⟨now, session, call.finished now⟩]

/-- The races of a question that goes on. -/
def racesFrom (tool : Tool) (policy : Policy) (giveUp : Option Instant) :
    (fuel : Nat) → Progress → Session → List Race
  | fuel + 1, .waiting call, session =>
    match call.due? with
    | none => []
    | some due =>
      if giveUp.any (· < due) then []
      else
        let (progress, after) := call.step tool policy due session
        call.racesAt due session ++ racesFrom tool policy giveUp fuel progress after
  | _, _, _ => []

/-- The races of a question. -/
def chronicle (args : List String) (tool : Tool) (policy : Policy) (giveUp : Option Instant)
    (now : Instant) (session : Session) : List Race :=
  let (progress, session) := begin args tool policy now session
  racesFrom tool policy giveUp (bound policy) progress session

end Call

open Call

/-! ### Runs -/

/-- The ways in which a question goes on from an instant to its end, with its races. -/
inductive Runs (tool : Tool) (policy : Policy) (giveUp : Option Instant) :
    Instant → Progress → Session → List Race → Instant × Except RunError String × Session → Prop
  | ended {now : Instant} {result : Except RunError String} {session : Session} :
    Runs tool policy giveUp now (.ended result) session [] (now, result, session)
  /-- Nothing more happens. -/
  | stuck {now : Instant} {call : Call} {session : Session} (never : call.due? = none)
    (waits : giveUp = none) :
    Runs tool policy giveUp now (.waiting call) session [] (now, .error .endless, session)
  /-- The question is given up before its next step. -/
  | cancelled {now : Instant} {call : Call} {session : Session} {instant : Instant}
    (given : giveUp = some instant) (before : ∀ due, call.due? = some due → instant < due) :
    Runs tool policy giveUp now (.waiting call) session []
      (instant, .error .cancelled, call.cancel instant session)
  | stepped {now : Instant} {call : Call} {session : Session} {due : Instant} {races : List Race}
    {outcome : Instant × Except RunError String × Session} (isDue : call.due? = some due)
    (inTime : ∀ instant, giveUp = some instant → due ≤ instant)
    (rest : Runs tool policy giveUp due (call.step tool policy due session).1
      (call.step tool policy due session).2 races outcome) :
    Runs tool policy giveUp now (.waiting call) session (call.racesAt due session ++ races) outcome

section

variable {args : List String} {tool : Tool} {policy : Policy} {giveUp : Option Instant}
  {now : Instant} {progress : Progress} {session : Session} {races : List Race}
  {outcome : Instant × Except RunError String × Session}

/-- What is followed with enough fuel runs. -/
theorem runs_follow {fuel : Nat} (sound : ∀ call, progress = .waiting call →
      call.Sound policy now session ∧ call.stepsLeft policy ≤ fuel) :
    Runs tool policy giveUp now progress session
      (racesFrom tool policy giveUp fuel progress session)
      (follow tool policy giveUp fuel now progress session) := by
  induction fuel generalizing now progress session with
  | zero =>
    cases progress with
    | ended result => exact .ended
    | waiting call =>
      have none := (sound call rfl).2
      rw [stepsLeft] at none
      split at none <;> omega
  | succ fuel ih =>
    cases progress with
    | ended result => exact .ended
    | waiting call =>
      obtain ⟨isSound, enough⟩ := sound call rfl
      simp only [racesFrom, follow]
      cases isDue : call.due? with
      | none =>
        cases giveUp with
        | none => exact .stuck isDue rfl
        | some instant =>
          refine .cancelled rfl fun due found => ?_
          cases isDue.symm.trans found
      | some due =>
        obtain ⟨-, follows⟩ := step_follows tool isSound isDue
        have rest : Runs tool policy giveUp due (call.step tool policy due session).1
            (call.step tool policy due session).2 _ _ := ih fun next waits => by
          have := follows.shorter next waits
          exact ⟨follows.sound next waits, by omega⟩
        cases giveUp with
        | none => exact .stepped isDue (fun _ given => by cases given) rest
        | some instant =>
          by_cases early : instant < due
          · simp only [Option.any_some, early, decide_true, if_true]
            refine .cancelled rfl fun other found => ?_
            cases isDue.symm.trans found
            exact early
          · simp only [Option.any_some, early, decide_false, if_false]
            refine .stepped isDue (fun other given => ?_) rest
            cases given
            exact Nat.not_lt.mp early

/-- **The steps of a question are enough for it.** -/
theorem runs_run (args : List String) (tool : Tool) (policy : Policy) (giveUp : Option Instant)
    (now : Instant) (session : Session) :
    Runs tool policy giveUp now (begin args tool policy now session).1
      (begin args tool policy now session).2 (chronicle args tool policy giveUp now session)
      (run args tool policy giveUp now session) :=
  runs_follow fun call waits =>
    have follows := begin_follows args tool policy now session
    ⟨follows.sound call waits, follows.shorter call waits⟩

namespace Runs

/-- Nothing comes after the end. -/
theorem of_ended {result : Except RunError String}
    (runs : Runs tool policy giveUp now (.ended result) session races outcome) :
    races = [] ∧ outcome = (now, result, session) := by
  cases runs
  exact ⟨rfl, rfl⟩

/-! ### What becomes of the processes -/

/-- Giving a question up lets its processes go. -/
theorem cancel_advance {call : Call} {instant : Instant} (sound : call.Sound policy now session) :
    ∃ gone, session.Advance policy.limit call.numbers [] gone instant
      (call.cancel instant session) := by
  obtain ⟨ordered, -, nodup, fits⟩ := sound
  have stopped := Session.advance_stopAttempts instant ordered.nodup ordered.tracks
  rw [numbers] at nodup ⊢
  split at nodup
  · -- The process that starts is not there.
    rename_i number child phase
    rw [phase] at fits
    obtain ⟨-, launch, found, -, -, unstarted, -⟩ := fits
    have absent := (List.nodup_cons.mp nodup).1
    have dropped := ordered.advance_unstarted instant absent found unstarted
    exact ⟨_, dropped.trans stopped (Nat.le_refl instant)⟩
  · exact ⟨_, stopped⟩

/-- **Until a question ends, its processes are dealt with**; if it ends, all of them. -/
theorem advance (runs : Runs tool policy giveUp now progress session races outcome)
    (sound : ∀ call, progress = .waiting call → call.Sound policy now session)
    (patient : ∀ instant, giveUp = some instant → now ≤ instant) :
    now ≤ outcome.1 ∧ ∃ kept gone,
      session.Advance policy.limit progress.numbers kept gone outcome.1 outcome.2.2 ∧
        (outcome.2.1 ≠ .error .endless → kept = []) := by
  induction runs with
  | ended => exact ⟨Nat.le_refl _, [], [], .refl _ _ _ _, fun _ => rfl⟩
  | stuck => exact ⟨Nat.le_refl _, _, [], .refl _ _ _ _, fun ends => (ends rfl).elim⟩
  | cancelled given _ =>
    obtain ⟨gone, dropped⟩ := cancel_advance (sound _ rfl)
    exact ⟨patient _ given, [], gone, dropped, fun _ => rfl⟩
  | stepped isDue inTime _ ih =>
    obtain ⟨order, follows⟩ := step_follows tool (sound _ rfl) isDue
    obtain ⟨gone, first, -⟩ := follows.advance
    obtain ⟨later, kept, gone', second, ends⟩ := ih follows.sound inTime
    exact ⟨Nat.le_trans order later, kept, gone ++ gone', first.trans second later, ends⟩

/-! ### What holds at a race -/

theorem numbers_racesAt (call : Call) (now : Instant) (session : Session) :
    (call.racesAt now session).flatMap Race.numbers = (call.reads now).map Attempt.number := by
  cases phase : call.phase <;> simp [racesAt, reads, phase, Race.numbers]

/-- A step reads processes that the question owns, each of them once. -/
theorem reads_owned {call : Call} (sound : call.Sound policy now session) (due : Instant) :
    ((call.reads due).map Attempt.number).Nodup ∧
      ∀ number ∈ (call.reads due).map Attempt.number, number ∈ call.numbers := by
  rw [reads, numbers]
  split
  · simp
  · have fewer := (finished_sublist call due).map Attempt.number
    exact ⟨sound.ordered.nodup.sublist fewer, fun number member => fewer.mem member⟩

/-- **A process is read at most once**, and only if the question owns it. -/
theorem reads_nodup (runs : Runs tool policy giveUp now progress session races outcome)
    (sound : ∀ call, progress = .waiting call → call.Sound policy now session) :
    (races.flatMap Race.numbers).Nodup ∧ ∀ number ∈ races.flatMap Race.numbers,
      number ∈ progress.numbers ∨ session.launches.length ≤ number := by
  induction runs with
  | ended => simp
  | stuck => simp
  | cancelled => simp
  | @stepped now call session due races outcome isDue _ rest ih =>
    have isSound := sound call rfl
    obtain ⟨nodup, owned⟩ := reads_owned isSound due
    obtain ⟨-, follows⟩ := step_follows tool isSound isDue
    obtain ⟨gone, advance, goes⟩ := follows.advance
    obtain ⟨nodupRest, ownedRest⟩ := ih follows.sound
    rw [List.flatMap_append, numbers_racesAt]
    refine ⟨List.nodup_append.mpr ⟨nodup, nodupRest, ?_⟩, ?_⟩
    · rintro number isRead _ again rfl
      cases next : (call.step tool policy due session).1 with
      | ended result =>
        rw [next] at rest
        rw [rest.of_ended.1] at again
        cases again
      | waiting call' =>
        obtain ⟨-, dropped, old⟩ := advance.goes number (goes call' next ▸ isRead)
        exact (ownedRest number again).elim dropped (Nat.not_le.mpr old)
    · intro number member
      rcases List.mem_append.mp member with isRead | later
      · exact .inl (owned number isRead)
      · exact advance.mine (ownedRest number later)

/-- A process that the question lets go at a step is read in the step, or never started. -/
theorem finds_of_advance {race : Race} {call : Call} {own kept gone read : List Nat}
    {due : Instant} {after : Session}
    (advance : session.Advance policy.limit own kept gone due after)
    (finds : race.Finds call kept after read) : race.Finds call own session (gone ++ read) := by
  obtain ⟨grows, frame, cover⟩ := finds
  refine ⟨Nat.le_trans advance.grows grows, ?_, ?_⟩
  · intro number old others
    rw [frame number (Nat.lt_of_lt_of_le old advance.grows) (advance.not_kept old others),
      advance.frame number old others]
  · intro number mine launch found started
    by_cases still : number ∈ kept ∨ after.launches.length ≤ number
    · exact (cover number still launch found started).imp_right (List.mem_append_right _)
    · obtain ⟨dropped, old⟩ := not_or.mp still
      rw [frame number (Nat.not_le.mp old) dropped] at found
      have account := advance.account number mine dropped launch found started
      exact .inr (List.mem_append_left _ account.1)

/-- What holds at a race of a run that goes on to further races. -/
structure At (tool : Tool) (policy : Policy) (giveUp : Option Instant) (race : Race) (call : Call)
    (later : List Race) (outcome : Instant × Except RunError String × Session) : Prop where
  ordered : call.Ordered policy race.session
  numbers : call.numbers = call.live.map Attempt.number
  attempts : race.attempts = call.finished race.instant
  inTime : ∀ instant, giveUp = some instant → race.instant ≤ instant
  rest : Runs tool policy giveUp race.instant
    (call.race tool policy race.instant race.session).1
    (call.race tool policy race.instant race.session).2 later outcome

/-- A step is a race, unless a process arrives. -/
theorem at_step {call : Call} {due : Instant} (sound : call.Sound policy now session)
    (inTime : ∀ instant, giveUp = some instant → due ≤ instant)
    (rest : Runs tool policy giveUp due (call.step tool policy due session).1
      (call.step tool policy due session).2 races outcome) :
    call.racesAt due session = [] ∨
      ∃ race, call.racesAt due session = [race] ∧ race.session = session ∧
        At tool policy giveUp race call races outcome := by
  rw [racesAt]
  rw [step] at rest
  cases phase : call.phase with
  | starting number child => exact .inl rfl
  | racing roundEnd =>
    rw [phase] at rest
    exact .inr ⟨_, rfl, rfl, sound.ordered, by rw [Call.numbers, phase], rfl, inTime,
      rest⟩
  | draining =>
    rw [phase] at rest
    exact .inr ⟨_, rfl, rfl, sound.ordered, by rw [Call.numbers, phase], rfl, inTime,
      rest⟩

/-- **What holds at each race.** -/
theorem split (runs : Runs tool policy giveUp now progress session races outcome)
    (sound : ∀ call, progress = .waiting call → call.Sound policy now session)
    {before later : List Race} {race : Race} (parts : races = before ++ race :: later) :
    ∃ call, At tool policy giveUp race call later outcome ∧
      race.Finds call progress.numbers session (before.flatMap Race.numbers) := by
  induction runs generalizing before with
  | ended => simp at parts
  | stuck => simp at parts
  | cancelled => simp at parts
  | @stepped now call session due races outcome isDue inTime rest ih =>
    have isSound := sound call rfl
    obtain ⟨-, follows⟩ := step_follows tool isSound isDue
    obtain ⟨gone, advance, goes⟩ := follows.advance
    -- A race of a later step finds what this step and the steps in between have left.
    have further {between : List Race} (isLater : races = between ++ race :: later) :
        ∃ call', At tool policy giveUp race call' later outcome ∧
          race.Finds call' call.numbers session
            ((call.reads due).map Attempt.number ++ between.flatMap Race.numbers) := by
      obtain ⟨call', isAt, finds⟩ := ih follows.sound isLater
      refine ⟨call', isAt, ?_⟩
      cases next : (call.step tool policy due session).1 with
      | ended result =>
        rw [next, isLater] at rest
        simpa using rest.of_ended.1
      | waiting next' =>
        rw [← goes next' next]
        exact finds_of_advance advance finds
    have reads := numbers_racesAt call due session
    rcases at_step isSound inTime rest with none | ⟨first, one, same, isAt⟩
    · rw [none] at parts reads
      have finds := further parts
      rw [← reads] at finds
      exact finds
    · rw [one] at parts reads
      cases before with
      | nil =>
        obtain ⟨rfl, rfl⟩ := List.cons.inj parts
        subst same
        refine ⟨call, isAt, Nat.le_refl _, fun _ _ _ => rfl, fun number mine launch found _ => ?_⟩
        exact .inl (Session.mem_of_found mine found)
      | cons _ between =>
        obtain ⟨rfl, isLater⟩ := List.cons.inj parts
        rw [List.flatMap_singleton] at reads
        rw [List.flatMap_cons, reads]
        exact further isLater

end Runs

/-! ### Chronicles -/

/-- **What holds at each race of a question.** -/
theorem chronicle_split {before after : List Race} {race : Race}
    (parts : chronicle args tool policy giveUp now session = before ++ race :: after) :
    ∃ call, Runs.At tool policy giveUp race call after (run args tool policy giveUp now session) ∧
      race.Finds call [] session (before.flatMap Race.numbers) := by
  have follows := begin_follows args tool policy now session
  have runs := runs_run args tool policy giveUp now session
  obtain ⟨call, isAt, finds⟩ := runs.split follows.sound parts
  refine ⟨call, isAt, ?_⟩
  obtain ⟨gone, advance, goes⟩ := follows.advance
  cases begun : (begin args tool policy now session).1 with
  | ended result =>
    rw [begun, parts] at runs
    simpa using runs.of_ended.1
  | waiting next =>
    have finds' := Runs.finds_of_advance advance finds
    rwa [goes next begun] at finds'

/-- **A process is read at most once.** -/
theorem chronicle_nodup (args : List String) (tool : Tool) (policy : Policy)
    (giveUp : Option Instant) (now : Instant) (session : Session) :
    ((chronicle args tool policy giveUp now session).flatMap Race.numbers).Nodup :=
  ((runs_run args tool policy giveUp now session).reads_nodup
    (begin_follows args tool policy now session).sound).1

end

end TypeSchema
