/-
**One step of a question.**

* `Tool.arrival_failed`: when a start ends a question;
* `Call.Sound`: what holds of a question that waits. Its attempts stand in the order of their rounds
  and describe processes that were started and not killed; a process that starts was not started
  yet;
* `Progress.Follows`: what a step makes of the processes that the question owns, and that the
  question stays sound with fewer steps left;
* `arrive_follows`, `nextRound_follows`, `race_follows`, `step_follows`, `begin_follows`: **each
  step follows**;
* `race_eq`: reading attempts together ends the question, or it goes on with the next round.
-/

import Mathlib.Data.List.Nodup
import TypeSchema.Proofs.Run.Session

namespace TypeSchema

/-! ### Starts -/

namespace Tool

variable {tool : Tool} {slot : Nat} {child : Child}

theorem arrival_eq_there_iff : tool.arrival slot child = .there ↔ child.startFault = none := by
  rw [arrival]
  split
  · exact iff_of_true rfl ‹_›
  · rename_i refused
    rw [refused]
    dsimp only
    split <;> simp
  · rename_i crashes
    simp [crashes]

/-- The console does not object to the warning of a refused start. -/
def Warns (tool : Tool) (slot : Nat) (child : Child) : Prop :=
  ∀ code text, child.startFault = some (.refused code text) →
    tool.console.objection ("[yellow]Warning:[/] " ++
      refusalReport slot (RunError.startMessage tool.program code text)) = none

/-- **A start ends a question** if it crashes, or if the console does not print its warning. -/
theorem arrival_failed {error : RunError} (failed : tool.arrival slot child = .failed error) :
    error.IsOfStart ∧ ((∀ text, child.startFault ≠ some (.crash text)) → ¬ tool.Warns slot child) := by
  rw [arrival] at failed
  split at failed
  · cases failed
  · rename_i refused
    dsimp only at failed
    split at failed
    · cases failed
    · rename_i objects
      cases failed
      refine ⟨trivial, fun _ warns => ?_⟩
      cases objects.symm.trans (warns _ _ refused)
  · rename_i crashes
    cases failed
    exact ⟨trivial, fun starts => (starts _ crashes).elim⟩

end Tool

/-! ### Questions that wait -/

/-- What is known of a phase that begins at an instant after some rounds. -/
def Phase.Fits (policy : Policy) (rounds : Nat) (now : Instant) (session : Session) : Phase → Prop
  | .starting number child =>
    rounds < policy.retries ∧ ∃ launch, session.launches[number]? = some launch ∧
      launch.child = child ∧ launch.began = now ∧ launch.started = false ∧ launch.killed = none
  | .racing _ => True
  | .draining => policy.retries ≤ rounds

namespace Call

/-- The processes that a question owns. -/
def numbers (call : Call) : List Nat :=
  match call.phase with
  | .starting number _ => number :: call.live.map Attempt.number
  | _ => call.live.map Attempt.number

/-- How many steps a question has left at most. -/
def stepsLeft (call : Call) (policy : Policy) : Nat :=
  3 * (policy.retries - call.rounds) + call.live.length +
    match call.phase with
    | .racing _ => 2
    | _ => 1

/-- The attempts of a question stand in order and describe processes. -/
structure Ordered (call : Call) (policy : Policy) (session : Session) : Prop where
  slots : call.live.Pairwise fun first second => first.slot < second.slot
  below : ∀ attempt ∈ call.live, attempt.slot < call.rounds
  nodup : (call.live.map Attempt.number).Nodup
  tracks : ∀ attempt ∈ call.live, session.Tracks call.args policy.limit attempt

/-- What holds of a question that waits. -/
structure Sound (call : Call) (policy : Policy) (now : Instant) (session : Session) : Prop where
  ordered : call.Ordered policy session
  since : call.since = now
  nodup : call.numbers.Nodup
  phase : call.phase.Fits policy call.rounds now session

end Call

namespace Progress

/-- The processes that a question still owns. -/
def numbers : Progress → List Nat
  | .waiting call => call.numbers
  | .ended _ => []

/-- What a step makes of the processes that a question owned, if it read some of them. -/
structure Follows (policy : Policy) (own read : List Nat) (steps : Nat) (now : Instant)
    (before : Session) (progress : Progress) (after : Session) : Prop where
  /-- A question that goes on lets go only of the processes that it read. -/
  advance : ∃ gone, before.Advance policy.limit own progress.numbers gone now after ∧
    ∀ call, progress = .waiting call → gone = read
  sound : ∀ call, progress = .waiting call → call.Sound policy now after
  shorter : ∀ call, progress = .waiting call → call.stepsLeft policy ≤ steps

variable {policy : Policy} {own kept read : List Nat} {steps : Nat} {now : Instant}
  {before middle after : Session} {progress : Progress}

/-- What comes before a step at the same instant, with what was read then. -/
theorem Follows.of_advance (first : before.Advance policy.limit own kept read now middle)
    (second : progress.Follows policy kept [] steps now middle after) :
    progress.Follows policy own read steps now before after := by
  obtain ⟨gone, advance, goes⟩ := second.advance
  refine ⟨⟨read ++ gone, first.trans advance (Nat.le_refl now), fun call waits => ?_⟩,
    second.sound, second.shorter⟩
  rw [goes call waits, List.append_nil]

/-- A question that ends lets everything go. -/
theorem Follows.of_ended {result : Except RunError String} {gone : List Nat}
    (advance : before.Advance policy.limit own [] gone now after) :
    (Progress.ended result).Follows policy own read steps now before after := by
  refine ⟨⟨gone, advance, ?_⟩, ?_, ?_⟩ <;>
  · rintro _ ⟨⟩

/-- A question that goes on. -/
theorem Follows.of_waiting {call : Call}
    (advance : before.Advance policy.limit own call.numbers read now after)
    (sound : call.Sound policy now after) (shorter : call.stepsLeft policy ≤ steps) :
    (Progress.waiting call).Follows policy own read steps now before after := by
  refine ⟨⟨read, advance, fun _ _ => rfl⟩, ?_, ?_⟩
  · rintro _ ⟨⟩
    exact sound
  · rintro _ ⟨⟩
    exact shorter

end Progress

namespace Session

variable {session : Session} {limit : Option Binary64} {number : Nat} {launch : Launch}
  {now : Instant}

/-- A process that was not started is let go. -/
theorem advance_unstarted (limit : Option Binary64) (now : Instant)
    (found : session.launches[number]? = some launch) (unstarted : launch.started = false) :
    Advance limit [number] [] [] now session session := by
  refine ⟨Nat.le_refl _, fun _ _ _ => rfl, by simp, ?_, by simp, .of_same rfl⟩
  intro other mine _ launch' found' started
  have same : other = number := List.mem_singleton.mp (mem_of_found mine found')
  subst same
  cases found.symm.trans found'
  rw [unstarted] at started
  cases started

/-- A process that a question owns is there. -/
theorem advance_start (limit : Option Binary64) (session : Session) (number : Nat)
    (now : Instant) :
    Advance limit [number] [number] [] now session (session.start number now) := by
  refine ⟨by simp, ?_, fun _ member => .inl member, ?_, by simp, .of_same rfl⟩
  · intro other _ others
    exact getElem?_update_ne _ _ _ (List.ne_of_not_mem_cons others)
  · intro other mine dropped launch found
    have length : (session.start number now).launches.length = session.launches.length := by simp
    rw [← length] at mine
    exact (dropped (mem_of_found mine found)).elim

/-- A process begins to start. -/
theorem advance_launch (limit : Option Binary64) (session : Session) (tool : Tool)
    (args : List String) (now : Instant) :
    Advance limit [] [(session.launch tool args now).1] [] now session
      (session.launch tool args now).2.2 := by
  have launches : (session.launch tool args now).2.2.launches = session.launches ++
      [⟨(tool.supply args).name, args, (session.launch tool args now).2.1, now, false, none,
        false⟩] := rfl
  have fresh : (session.launch tool args now).1 = session.launches.length := rfl
  refine ⟨by simp [launches], ?_, ?_, ?_, by simp, .of_same rfl⟩
  · intro number old _
    rw [launches, List.getElem?_append_left old]
  · intro number member
    rw [fresh, List.mem_singleton] at member
    exact .inr (Nat.le_of_eq member.symm)
  · intro number mine dropped launch found _
    have old := (List.getElem?_eq_some_iff.mp found).1
    rw [launches, List.length_append, List.length_singleton] at old
    rw [fresh, List.mem_singleton] at dropped
    rcases mine with mine | new
    · exact (List.not_mem_nil mine).elim
    · omega

end Session

/-! ### Steps -/

namespace Call

variable {call : Call} {tool : Tool} {policy : Policy} {number : Nat} {child : Child}
  {now : Instant} {session : Session} {launch : Launch}

theorem Ordered.lt (ordered : call.Ordered policy session) :
    ∀ number ∈ call.live.map Attempt.number, number < session.launches.length := by
  intro number member
  obtain ⟨attempt, isLive, rfl⟩ := List.mem_map.mp member
  exact (ordered.tracks attempt isLive).lt

theorem Ordered.inPhase (ordered : call.Ordered policy session) (phase : Phase) (since : Instant) :
    { call with phase := phase, since := since }.Ordered policy session :=
  ⟨ordered.slots, ordered.below, ordered.nodup, ordered.tracks⟩

/-- Attempts that are not changed stay in order. -/
theorem Ordered.of_advance {own kept gone : List Nat} {after : Session}
    (ordered : call.Ordered policy session)
    (advance : session.Advance policy.limit own kept gone now after)
    (others : ∀ number ∈ call.live.map Attempt.number, number ∉ own) :
    call.Ordered policy after := by
  refine ⟨ordered.slots, ordered.below, ordered.nodup, fun attempt member => ?_⟩
  have tracks := ordered.tracks attempt member
  exact tracks.of_eq (advance.frame _ tracks.lt (others _ (List.mem_map_of_mem member)))

theorem Ordered.apart_of_absent (ordered : call.Ordered policy session)
    (absent : number ∉ call.live.map Attempt.number) :
    ∀ other ∈ call.live.map Attempt.number,
      other ∉ [number] ∧ other < session.launches.length := by
  intro other member
  refine ⟨fun same => absent ?_, ordered.lt other member⟩
  exact List.mem_singleton.mp same ▸ member

/-- A process that was not started is let go, and the attempts are kept. -/
theorem Ordered.advance_unstarted (ordered : call.Ordered policy session) (now : Instant)
    (absent : number ∉ call.live.map Attempt.number)
    (found : session.launches[number]? = some launch) (unstarted : launch.started = false) :
    session.Advance policy.limit (number :: call.live.map Attempt.number)
      (call.live.map Attempt.number) [] now session :=
  (Session.advance_unstarted policy.limit now found unstarted).aside _
    (ordered.apart_of_absent absent)

/-- An attempt of the latest round joins the ones of the earlier rounds. -/
theorem Ordered.join {attempt : Attempt} (ordered : call.Ordered policy session)
    (absent : attempt.number ∉ call.live.map Attempt.number) (slot : attempt.slot = call.rounds)
    (tracks : session.Tracks call.args policy.limit attempt) (phase : Phase) (since : Instant) :
    Ordered ⟨call.args, call.rounds + 1, call.live ++ [attempt], phase, since⟩ policy session := by
  refine ⟨?_, ?_, ?_, ?_⟩
  · refine List.pairwise_append.mpr ⟨ordered.slots, List.pairwise_singleton _ _, ?_⟩
    intro earlier isLive last isLast
    rw [List.mem_singleton.mp isLast, slot]
    exact ordered.below earlier isLive
  · intro other member
    rcases List.mem_append.mp member with isLive | isLast
    · exact Nat.lt_succ_of_lt (ordered.below other isLive)
    · rw [List.mem_singleton.mp isLast, slot]
      exact Nat.lt_succ_self _
  · rw [List.map_append, List.nodup_append]
    refine ⟨ordered.nodup, List.nodup_singleton _, ?_⟩
    rintro number member _ isLast rfl
    exact absent (List.mem_singleton.mp isLast ▸ member)
  · intro other member
    rcases List.mem_append.mp member with isLive | isLast
    · exact ordered.tracks other isLive
    · rw [List.mem_singleton.mp isLast]
      exact tracks

/-- **A process is there, or could not be started.** -/
theorem arrive_follows (tool : Tool) (now : Instant) (ordered : call.Ordered policy session)
    (absent : number ∉ call.live.map Attempt.number) (room : call.rounds < policy.retries)
    (found : session.launches[number]? = some launch) (isChild : launch.child = child)
    (there : launch.start = now) (unstarted : launch.started = false)
    (unkilled : launch.killed = none) :
    (call.arrive tool policy number child now session).1.Follows policy
      (number :: call.live.map Attempt.number) []
      (3 * (policy.retries - call.rounds) + call.live.length) now session
      (call.arrive tool policy number child now session).2 := by
  have apart := ordered.apart_of_absent absent
  have failed := ordered.advance_unstarted now absent found unstarted
  rw [arrive]
  split
  · -- The process is there: the question waits for it too.
    have started := Session.advance_start policy.limit session number now
    have still := ordered.of_advance started fun other member => (apart other member).1
    have tracks : (session.start number now).Tracks call.args policy.limit
        ⟨call.rounds, number, child, child.limitKill? now policy.limit none,
          child.ending call.args now policy.limit none⟩ := by
      refine ⟨{ launch with started := true },
        Session.getElem?_update_self _ _ _ found, isChild.symm, rfl, unkilled, ?_, ?_⟩
      · rw [← isChild, ← there]
        rfl
      · rw [← isChild, ← there]
        rfl
    have joined := still.join absent rfl tracks
      (.racing (after now (policy.roundSpan call.rounds))) now
    refine .of_waiting ((started.aside _ apart).congr (fun _ => .rfl) fun other => ?_)
      ⟨joined, rfl, joined.nodup, trivial⟩ ?_
    · simp [numbers, or_comm]
    · simp only [stepsLeft, List.length_append, List.length_singleton]
      omega
  · -- It could not be started: the round goes on without it.
    refine .of_waiting (failed.say _)
      ⟨⟨ordered.slots, fun attempt isLive => Nat.lt_succ_of_lt (ordered.below attempt isLive),
        ordered.nodup, ordered.tracks⟩, rfl, ordered.nodup, trivial⟩ ?_
    simp only [stepsLeft]
    omega
  · exact .of_ended (failed.trans (Session.advance_stopAttempts now ordered.nodup ordered.tracks)
      (Nat.le_refl now))

/-- **The next round.** -/
theorem nextRound_follows (tool : Tool) (now : Instant)
    (ordered : call.Ordered policy session) :
    (call.nextRound tool policy now session).1.Follows policy (call.live.map Attempt.number) []
      (3 * (policy.retries - call.rounds) + call.live.length + 1) now session
      (call.nextRound tool policy now session).2 := by
  rw [nextRound]
  split
  · rename_i room
    -- A process begins to start; the question owns it from now on.
    have begun := Session.advance_launch policy.limit session tool call.args now
    have launched := begun.aside (call.live.map Attempt.number) fun number member =>
      ⟨List.not_mem_nil, ordered.lt number member⟩
    have absent : session.launches.length ∉ call.live.map Attempt.number := fun member =>
      Nat.lt_irrefl _ (ordered.lt _ member)
    have still := ordered.of_advance begun fun _ _ => List.not_mem_nil
    have found : (session.launch tool call.args now).2.2.launches[session.launches.length]? =
        some ⟨(tool.supply call.args).name, call.args, session.next (tool.supply call.args), now,
          false, none, false⟩ := by
      simp [Session.launch]
    dsimp only
    split
    · rename_i atOnce
      have arrived := arrive_follows tool now still absent room found rfl
        (congrArg (now + ·) atOnce) rfl rfl
      exact ⟨(arrived.of_advance launched).advance, arrived.sound,
        fun next waits => Nat.le_succ_of_le (arrived.shorter next waits)⟩
    · exact .of_waiting launched ⟨still.inPhase _ _, rfl,
        List.nodup_cons.mpr ⟨absent, still.nodup⟩, room, _, found, rfl, rfl, rfl, rfl⟩
        (Nat.le_refl _)
  · rename_i full
    split
    · rename_i none
      rw [none]
      exact .of_ended (.refl _ _ _ _)
    · exact .of_waiting (.refl _ _ _ _) ⟨ordered.inPhase _ _, rfl, ordered.nodup,
        Nat.not_lt.mp full⟩ (Nat.le_refl _)

/-! ### Races -/

/-- The attempts that are over. -/
def finished (call : Call) (now : Instant) : List Attempt :=
  call.live.filter fun attempt => attempt.isOver now

/-- A question without the attempts that are over. -/
def pruned (call : Call) (now : Instant) : Call :=
  { call with live := call.live.filter fun attempt => !attempt.isOver now }

/-- The result of a question that reads attempts together, unless it goes on. -/
def settle? (attempts : List Attempt) : Option (Except RunError String) :=
  if attempts = [] then none
  else
    match verdict (attempts.map Attempt.result) with
    | .ok text => some (.ok text)
    | .error error => if error.isRetryable then none else some (.error error)

/-- **Reading attempts together** ends a question, or it goes on with the next round. -/
theorem race_eq (call : Call) (tool : Tool) (policy : Policy) (now : Instant) (session : Session) :
    call.race tool policy now session =
      match settle? (call.finished now) with
      | some result => (.ended result,
          (session.readAttempts (call.finished now) now).stopAttempts (call.pruned now).live now)
      | none => (call.pruned now).nextRound tool policy now
          (session.readAttempts (call.finished now) now) := by
  by_cases none : call.finished now = []
  · have same : session.readAttempts (call.finished now) now = session := by
      rw [none]
      rfl
    rw [same, settle?, if_pos none]
    exact if_pos none
  · have some : (call.live.filter fun attempt => attempt.isOver now) ≠ [] := none
    rw [race, settle?, if_neg none, if_neg some]
    cases read : verdict ((call.finished now).map Attempt.result) with
    | ok text =>
      simp only [finished] at read
      simp only [read]
      rfl
    | error error =>
      simp only [finished] at read
      simp only [read]
      cases error.isRetryable <;> rfl

theorem mem_finished {attempt : Attempt} :
    attempt ∈ call.finished now ↔ attempt ∈ call.live ∧ attempt.isOver now = true :=
  List.mem_filter

theorem mem_pruned {attempt : Attempt} :
    attempt ∈ (call.pruned now).live ↔ attempt ∈ call.live ∧ ¬ attempt.isOver now := by
  rw [pruned, List.mem_filter, Bool.not_eq_true', Bool.not_eq_true]

theorem finished_sublist (call : Call) (now : Instant) :
    (call.finished now).Sublist call.live :=
  List.filter_sublist

theorem pruned_sublist (call : Call) (now : Instant) :
    (call.pruned now).live.Sublist call.live :=
  List.filter_sublist

/-- An attempt is read, or the question goes on with it. -/
theorem mem_numbers_iff {number : Nat} :
    number ∈ call.live.map Attempt.number ↔
      number ∈ (call.finished now).map Attempt.number ++
        (call.pruned now).live.map Attempt.number := by
  simp only [List.mem_append, List.mem_map, mem_finished, mem_pruned]
  constructor
  · rintro ⟨attempt, isLive, rfl⟩
    by_cases isOver : attempt.isOver now
    · exact .inl ⟨attempt, ⟨isLive, isOver⟩, rfl⟩
    · exact .inr ⟨attempt, ⟨isLive, isOver⟩, rfl⟩
  · rintro (⟨attempt, ⟨isLive, -⟩, rfl⟩ | ⟨attempt, ⟨isLive, -⟩, rfl⟩) <;>
    exact ⟨attempt, isLive, rfl⟩

/-- An attempt that is read is none that the question goes on with. -/
theorem Ordered.apart (ordered : call.Ordered policy session) {number : Nat}
    (member : number ∈ (call.pruned now).live.map Attempt.number) :
    number ∉ (call.finished now).map Attempt.number := by
  intro again
  obtain ⟨attempt, isLeft, rfl⟩ := List.mem_map.mp member
  obtain ⟨other, isRead, same⟩ := List.mem_map.mp again
  obtain ⟨isLive, runs⟩ := mem_pruned.mp isLeft
  obtain ⟨wasLive, isOver⟩ := mem_finished.mp isRead
  rw [List.inj_on_of_nodup_map ordered.nodup wasLive isLive same] at isOver
  exact runs isOver

theorem Ordered.pruned (ordered : call.Ordered policy session) :
    (call.pruned now).Ordered policy session :=
  ⟨ordered.slots.sublist (pruned_sublist ..),
    fun attempt member => ordered.below attempt ((pruned_sublist ..).mem member),
    ordered.nodup.sublist ((pruned_sublist ..).map _),
    fun attempt member => ordered.tracks attempt ((pruned_sublist ..).mem member)⟩

/-- Reading the attempts that are over lets them go. -/
theorem advance_finished (ordered : call.Ordered policy session) (now : Instant) :
    session.Advance policy.limit ((call.finished now).map Attempt.number) []
      ((call.finished now).map Attempt.number) now (session.readAttempts (call.finished now) now) :=
  Session.advance_readAttempts (ordered.nodup.sublist ((finished_sublist call now).map _))
    (fun attempt member => ordered.tracks attempt (mem_finished.mp member).1)
    (fun _ member => (mem_finished.mp member).2)

/-- The attempts that a question goes on with stay in order. -/
theorem Ordered.after_finished (ordered : call.Ordered policy session) (now : Instant) :
    (call.pruned now).Ordered policy (session.readAttempts (call.finished now) now) :=
  ordered.pruned.of_advance (advance_finished ordered now) fun _ member => ordered.apart member

/-- **A race.** -/
theorem race_follows (tool : Tool) (now : Instant) (ordered : call.Ordered policy session) :
    (call.race tool policy now session).1.Follows policy (call.live.map Attempt.number)
      ((call.finished now).map Attempt.number)
      (3 * (policy.retries - call.rounds) + (call.pruned now).live.length + 1) now session
      (call.race tool policy now session).2 := by
  have still := ordered.after_finished now
  have read : session.Advance policy.limit (call.live.map Attempt.number)
      ((call.pruned now).live.map Attempt.number) ((call.finished now).map Attempt.number) now
      (session.readAttempts (call.finished now) now) :=
    ((advance_finished ordered now).aside _ fun number member =>
      ⟨ordered.apart member, ordered.pruned.lt number member⟩).congr
        (fun _ => mem_numbers_iff) fun _ => .rfl
  rw [race_eq]
  split
  · exact .of_ended (read.trans (Session.advance_stopAttempts now still.nodup still.tracks)
      (Nat.le_refl now))
  · exact (nextRound_follows tool now still).of_advance read

/-! ### Steps at their instants -/

theorem earlier_eq_some {first second : Option Instant} {time : Instant}
    (same : earlier first second = some time) : first = some time ∨ second = some time := by
  cases first with
  | none => exact .inr same
  | some first =>
    cases second with
    | none => exact .inl same
    | some second =>
      rcases Nat.le_total first second with order | order
      · exact .inl (by rw [← same, earlier, Nat.min_eq_left order])
      · exact .inr (by rw [← same, earlier, Nat.min_eq_right order])

theorem foldl_earlier_eq_some {times : List (Option Instant)} {first : Option Instant}
    {time : Instant} (same : times.foldl earlier first = some time) :
    first = some time ∨ some time ∈ times := by
  induction times generalizing first with
  | nil => exact .inl same
  | cons head rest ih =>
    rcases ih same with found | found
    · exact (earlier_eq_some found).imp_right fun isHead => List.mem_cons.mpr (.inl isHead.symm)
    · exact .inr (List.mem_cons_of_mem _ found)

/-- The first end is the end of an attempt. -/
theorem firstEnd?_eq_some {time : Instant} (found : call.firstEnd? = some time) :
    ∃ attempt ∈ call.live, attempt.endTime? = some time := by
  rcases foldl_earlier_eq_some found with none | member
  · cases none
  · exact List.mem_map.mp member

/-- The attempts that a question reads in its step. -/
def reads (call : Call) (now : Instant) : List Attempt :=
  match call.phase with
  | .starting _ _ => []
  | _ => call.finished now

/-- **A step.** -/
theorem step_follows (tool : Tool) {due : Instant} (sound : call.Sound policy now session)
    (isDue : call.due? = some due) :
    now ≤ due ∧ (call.step tool policy due session).1.Follows policy call.numbers
      ((call.reads due).map Attempt.number) (call.stepsLeft policy - 1) due session
      (call.step tool policy due session).2 := by
  obtain ⟨ordered, rfl, nodup, fits⟩ := sound
  rw [due?] at isDue
  unfold step numbers reads stepsLeft
  unfold numbers at nodup
  split at isDue
  · rename_i number child phase
    simp only [phase] at nodup fits ⊢
    cases isDue
    obtain ⟨room, launch, found, rfl, began, unstarted, unkilled⟩ := fits
    have there : launch.start = call.since + launch.child.startup := by
      rw [Launch.start, began]
    exact ⟨Nat.le_add_right _ _, arrive_follows tool _ ordered (List.nodup_cons.mp nodup).1 room
      found rfl there unstarted unkilled⟩
  · rename_i phase
    simp only [phase]
    obtain ⟨time, -, rfl⟩ := Option.map_eq_some_iff.mp isDue
    have follows := race_follows tool (max call.since time) ordered
    refine ⟨Nat.le_max_left _ _, follows.advance, follows.sound, fun next waits => ?_⟩
    have fewer := (pruned_sublist call (max call.since time)).length_le
    exact Nat.le_trans (follows.shorter next waits) (by omega)
  · rename_i phase
    simp only [phase] at fits ⊢
    obtain ⟨time, first, rfl⟩ := Option.map_eq_some_iff.mp isDue
    have follows := race_follows tool (max call.since time) ordered
    refine ⟨Nat.le_max_left _ _, follows.advance, follows.sound, fun next waits => ?_⟩
    have full : policy.retries ≤ call.rounds := fits
    -- The first end is what the step waits for, so at least one attempt is read.
    have fewer : (call.pruned (max call.since time)).live.length < call.live.length := by
      obtain ⟨attempt, isLive, ends⟩ := firstEnd?_eq_some first
      refine List.length_filter_lt_length_iff_exists.mpr ⟨attempt, isLive, ?_⟩
      rw [Attempt.isOver, ends, (reached_some _ _).mpr (Nat.le_max_right _ _)]
      exact Bool.false_ne_true
    exact Nat.le_trans (follows.shorter next waits) (by omega)

/-- **The beginning.** -/
theorem begin_follows (args : List String) (tool : Tool) (policy : Policy) (now : Instant)
    (session : Session) :
    (begin args tool policy now session).1.Follows policy [] [] (bound policy) now session
      (begin args tool policy now session).2 := by
  have ordered : Ordered ⟨args, 0, [], .draining, now⟩ policy session :=
    ⟨.nil, by simp, by simp, by simp⟩
  have follows := nextRound_follows tool now ordered
  exact ⟨follows.advance, follows.sound, fun call waits =>
    Nat.le_trans (follows.shorter call waits) (by simp [bound])⟩

end Call

end TypeSchema
