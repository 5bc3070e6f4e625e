/-
**A process that answers at once.**

* `Origin.IsRetried`: a process that does not keep a question from going on;
* `Policy.Answered`: processes that can be retried, and one behind them that answers at once;
  `Policy.AnsweredBy`: and the console prints the warnings of those that were refused;
* `Call.Awaits`: a question that has not come beyond that process, or is about to read its answer;
* `step_awaits`: **a step leads to the answer**; `Runs.answered`: **the answer comes when the rounds
  before it are over**, by induction on the steps.
-/

import TypeSchema.Proofs.Run.Schedule

namespace TypeSchema

open Call

/-! ### A process that answers at once -/

namespace Origin

/-- A process is there and answers at once. -/
structure AnswersAtOnce (origin : Origin) (args : List String) (limit : Option Binary64)
    (text : String) : Prop where
  starts : origin.child.startFault = none
  ending : origin.child.ending args origin.start limit none = some ⟨origin.start, .ok text⟩

/-- The system refuses to start a process, or until an instant it hangs, or it fails in a way that
can be retried. -/
structure IsRetried (origin : Origin) (args : List String) (limit : Option Binary64)
    (bound : Instant) : Prop where
  starts : ∀ text, origin.child.startFault ≠ some (.crash text)
  fails : origin.child.startFault = none → ∀ ending,
    origin.child.ending args origin.start limit none = some ending → ending.time ≤ bound →
      ∃ error, ending.result = .error error ∧ (error = .cancelled ∨ error.isRetryable = true)

end Origin

/-- The processes before a slot are retried and the process of the slot answers at once, none of
them takes time to start, and the rounds before the slot are over at an instant. -/
structure Policy.Answered (policy : Policy) (args : List String) (start : Instant)
    (tries : List Origin) (slot : Nat) (text : String) (bound : Instant) : Prop where
  room : slot < policy.retries
  rounds : start + policy.roundsTime slot = bound
  atOnce : ∀ origin ∈ tries.take (slot + 1), origin.child.startup = 0
  retried : ∀ origin ∈ tries.take slot, origin.IsRetried args policy.limit bound
  answers : ∀ origin, tries[slot]? = some origin → origin.AnswersAtOnce args policy.limit text

/-- The same, and the console prints the warning of each process before the slot that was refused. -/
structure Policy.AnsweredBy (policy : Policy) (tool : Tool) (args : List String) (start : Instant)
    (tries : List Origin) (slot : Nat) (text : String) (bound : Instant) : Prop
    extends policy.Answered args start tries slot text bound where
  warns : ∀ earlier origin, earlier < slot → tries[earlier]? = some origin →
    tool.Warns earlier origin.child

namespace Policy.Answered

variable {policy : Policy} {args : List String} {start bound : Instant} {all : List Origin}
  {slot other : Nat} {text : String} {origin : Origin}

theorem startup_eq (answered : policy.Answered args start all slot text bound)
    (found : all[other]? = some origin) (inside : other ≤ slot) : origin.child.startup = 0 :=
  answered.atOnce origin (List.mem_of_getElem?
    ((List.getElem?_take_of_lt (Nat.lt_succ_of_le inside)).trans found))

theorem isRetried (answered : policy.Answered args start all slot text bound)
    (found : all[other]? = some origin) (before : other < slot) :
    origin.IsRetried args policy.limit bound :=
  answered.retried origin (List.mem_of_getElem? ((List.getElem?_take_of_lt before).trans found))

/-- Up to the slot, every process begins by the instant. -/
theorem latest_le (answered : policy.Answered args start all slot text bound)
    (inside : other ≤ slot) : policy.latest start all other ≤ bound := by
  have none_ : startups (all.take other) = 0 := by
    refine List.sum_eq_zero fun startup member => ?_
    obtain ⟨origin, isEarly, rfl⟩ := List.mem_map.mp member
    exact answered.atOnce origin ((List.take_sublist_take_left (by omega)).mem isEarly)
  rw [latest, none_, Nat.cast_zero, add_zero, ← answered.rounds]
  gcongr
  exact policy.roundsTime_mono inside

end Policy.Answered

/-- An attempt that is retried does not decide when it is read. -/
theorem Origin.IsRetried.undecided {origin : Origin} {args : List String}
    {limit : Option Binary64} {bound now : Instant} {attempt : Attempt}
    (retried : origin.IsRetried args limit bound) (starts : origin.child.startFault = none)
    (describes : attempt.ending = origin.child.ending args origin.start limit none)
    (isOver : attempt.isOver now = true) (inTime : now ≤ bound) :
    attempt.isSuccess = false ∧ attempt.isFatal = false := by
  obtain ⟨_, ends, before⟩ := reached_iff.mp isOver
  obtain ⟨⟨time, result⟩, isEnding, rfl⟩ := Option.map_eq_some_iff.mp ends
  obtain ⟨error, rfl, retryable⟩ := retried.fails starts _ (describes ▸ isEnding)
    (Nat.le_trans before inTime)
  have failure : ∃ reason, attempt.result = .error reason ∧ reason.isRetryable = true := by
    rw [Attempt.result, isEnding]
    rcases retryable with rfl | isRetryable
    · exact ⟨.givenUp, rfl, rfl⟩
    · split
      · exact ⟨.givenUp, rfl, rfl⟩
      · rename_i same
        cases same
        exact ⟨error, rfl, isRetryable⟩
      · rename_i same
        cases same
  obtain ⟨reason, result, isRetryable⟩ := failure
  rw [Attempt.isSuccess, Attempt.isFatal, result]
  exact ⟨rfl, by simp [isRetryable]⟩

/-- Attempts of which none decides. -/
theorem settle?_eq_none {attempts : List Attempt}
    (slots : attempts.Pairwise fun first second => first.slot < second.slot)
    (undecided : ∀ attempt ∈ attempts, attempt.isSuccess = false ∧ attempt.isFatal = false) :
    settle? attempts = none := by
  rcases List.eq_nil_or_concat attempts with rfl | ⟨_, some_, parts⟩
  · rfl
  · have isThere : some_ ∈ attempts := by simp [parts]
    obtain ⟨earliest, isIn, least⟩ := exists_earliest slots isThere
    rw [settle?_of_failures slots (fun attempt member => (undecided attempt member).1) isIn least,
      (undecided earliest isIn).2]
    exact if_neg Bool.false_ne_true

namespace Call

/-- A question has not come beyond a slot, or it is about to read the process of the slot. -/
def Awaits (call : Call) (slot : Nat) : Prop :=
  match call.phase with
  | .starting _ _ => call.rounds ≤ slot
  | .racing _ => call.rounds ≤ slot ∨
    ∃ attempt ∈ call.live, attempt.slot = slot ∧ attempt.isOver call.since = true
  | .draining => False

variable {call : Call} {tool : Tool} {args : List String} {policy : Policy} {first number : Nat}
  {start began now bound due : Instant} {session : Session} {child : Child} {all : List Origin}
  {slot : Nat} {text : String}

/-- The process of a slot is there, or could not be started. -/
theorem arrive_awaits (tool : Tool) (session : Session) (number : Nat)
    (answered : policy.AnsweredBy tool args start all slot text bound) (isArgs : call.args = args)
    (found : all[call.rounds]? = some ⟨child, began⟩) (there : began + child.startup = now)
    (before : call.rounds ≤ slot) :
    ∃ next, (call.arrive tool policy number child now session).1 = .waiting next ∧
      next.Awaits slot := by
  rcases Nat.lt_or_eq_of_le before with earlier | same
  · have retried := answered.isRetried found earlier
    rw [arrive]
    split
    · exact ⟨_, rfl, .inl earlier⟩
    · exact ⟨_, rfl, .inl earlier⟩
    · rename_i failed
      have warns := answered.warns _ _ earlier found
      exact ((Tool.arrival_failed failed).2 retried.starts warns).elim
  · obtain ⟨starts, ending⟩ := answered.answers _ (same ▸ found)
    rw [Origin.start, there] at ending
    have isThere : tool.arrival call.rounds _ = .there := Tool.arrival_eq_there_iff.mpr starts
    simp only [arrive, isThere]
    refine ⟨_, rfl, .inr ⟨_, List.mem_append_right _ List.mem_cons_self, same, ?_⟩⟩
    rw [Attempt.isOver, Attempt.endTime?, isArgs, ending]
    exact (reached_some _ _).mpr (Nat.le_refl _)

/-- The next round up to the slot. -/
theorem nextRound_awaits (tool : Tool)
    (answered : policy.AnsweredBy tool args start all slot text bound)
    (ready : call.Ready args policy first start now session)
    (grows : (call.nextRound tool policy now session).2.tries first <+: all)
    (before : call.rounds ≤ slot) :
    ∃ next, (call.nextRound tool policy now session).1 = .waiting next ∧ next.Awaits slot := by
  have launched := Session.tries_launch now ready.old tool call.args
  have room : call.rounds < policy.retries := Nat.lt_of_le_of_lt before answered.room
  rw [nextRound, if_pos room] at grows ⊢
  dsimp only at grows ⊢
  split
  · rename_i atOnce
    rw [if_pos atOnce] at grows
    have found : all[call.rounds]? = some ⟨(session.launch tool call.args now).2.1, now⟩ := by
      refine getElem?_of_prefix grows ?_
      rw [tries_arrive, launched, ← ready.length]
      exact List.getElem?_concat_length
    exact arrive_awaits tool _ _ answered ready.args found (by rw [atOnce, Nat.add_zero]) before
  · exact ⟨_, rfl, before⟩

/-- A race before the answer goes on with the next round, and the race after it ends the question. -/
theorem race_awaits (tool : Tool) (answered : policy.AnsweredBy tool args start all slot text bound)
    (sound : call.Sound policy now session)
    (timely : call.Timely args policy first start (session.tries first))
    (ready : call.Ready args policy first start due session)
    (grows : (call.race tool policy due session).2.tries first <+: all)
    (grown : session.tries first <+: all) (inTime : due ≤ bound) (order : now ≤ due)
    (awaits : call.rounds ≤ slot ∨
      ∃ attempt ∈ call.live, attempt.slot = slot ∧ attempt.isOver call.since = true) :
    (∃ next, (call.race tool policy due session).1 = .waiting next ∧ next.Awaits slot) ∨
      (call.race tool policy due session).1 = .ended (.ok text) := by
  have slots := sound.ordered.slots.sublist (finished_sublist call due)
  have undecided : ∀ attempt ∈ call.finished due, attempt.slot < slot →
      attempt.isSuccess = false ∧ attempt.isFatal = false := by
    intro attempt isRead earlier
    obtain ⟨isLive, isOver⟩ := mem_finished.mp isRead
    obtain ⟨origin, found, starts, describes⟩ := timely.exists_origin sound grown isLive
    exact (answered.isRetried found earlier).undecided starts describes isOver inTime
  rw [race_eq] at grows ⊢
  rcases awaits with before | ⟨winner, isLive, isSlot, isOver⟩
  · have goesOn : settle? (call.finished due) = none := by
      refine settle?_eq_none slots fun attempt isRead => undecided attempt isRead ?_
      exact Nat.lt_of_lt_of_le (sound.ordered.below attempt (mem_finished.mp isRead).1) before
    rw [goesOn] at grows ⊢
    exact .inl (nextRound_awaits tool answered (ready.pruned _) grows before)
  · -- All attempts before the one of the slot fail, so that its answer decides.
    have answers : ∀ attempt ∈ call.live, attempt.slot = slot → attempt.result = .ok text := by
      intro attempt isLive isSlot
      obtain ⟨origin, found, -, describes⟩ := timely.exists_origin sound grown isLive
      rw [isSlot] at found
      rw [Attempt.result_eq_ok_iff, describes]
      exact ⟨_, (answered.answers origin found).ending⟩
    have isRead : winner ∈ call.finished due := by
      obtain ⟨time, ends, before⟩ := reached_iff.mp isOver
      refine mem_finished.mpr ⟨isLive, reached_iff.mpr ⟨time, ends, Nat.le_trans before ?_⟩⟩
      rwa [sound.since]
    have success : winner.isSuccess = true :=
      Attempt.isSuccess_iff.mpr ⟨text, answers winner isLive isSlot⟩
    obtain ⟨decider, isIn, succeeds, earliest, settles⟩ :=
      settle?_of_success slots ⟨winner, isRead, success⟩
    have notLater := earliest winner isRead success
    have notEarlier : ¬ decider.slot < slot := fun earlier => by
      rw [(undecided decider isIn earlier).1] at succeeds
      cases succeeds
    have result := answers decider (mem_finished.mp isIn).1 (by omega)
    rw [settles, result]
    exact .inr rfl

/-- A question that awaits the answer goes on by the instant of the answer. -/
theorem Awaits.exists_due? (awaits : call.Awaits slot)
    (answered : policy.AnsweredBy tool args start all slot text bound)
    (sound : call.Sound policy now session)
    (timely : call.Timely args policy first start (session.tries first))
    (grown : session.tries first <+: all) (inTime : now ≤ bound) :
    ∃ due, call.due? = some due ∧ due ≤ bound := by
  rw [← sound.since] at inTime
  rw [Awaits] at awaits
  cases phase : call.phase with
  | starting number child =>
    rw [phase] at awaits
    have found := timely.starting grown phase
    have atOnce : child.startup = 0 := answered.startup_eq found awaits
    exact ⟨call.since, by rw [due?, phase]; simp only [atOnce, Nat.add_zero], inTime⟩
  | racing roundEnd =>
    rw [phase] at awaits
    have inPhase := timely.phase
    rw [phase] at inPhase
    rcases awaits with before | ⟨winner, isLive, -, isOver⟩
    · obtain ⟨length, -, -, inRound⟩ := inPhase
      rw [Policy.latest_of_prefix grown (Nat.le_of_eq length.symm)] at inRound
      have early := inRound.trans (answered.latest_le before)
      cases roundEnd with
      | none => exact (ENat.natCast_ne_top _ (top_le_iff.mp early)).elim
      | some roundEnd =>
        obtain ⟨due, isDue, order⟩ := exists_due?_of_racing phase
        exact ⟨due, isDue, Nat.le_trans order (Nat.max_le.mpr ⟨inTime, Nat.cast_le.mp early⟩)⟩
    · obtain ⟨time, ends, before⟩ := reached_iff.mp isOver
      obtain ⟨due, isDue, order⟩ := exists_due?_of_ends isLive ends (by simp [phase])
      exact ⟨due, isDue, Nat.le_trans order (Nat.max_le.mpr ⟨inTime, Nat.le_trans before inTime⟩)⟩
  | draining =>
    rw [phase] at awaits
    exact awaits.elim

/-- A step towards the answer. -/
theorem step_awaits (tool : Tool) (awaits : call.Awaits slot)
    (answered : policy.AnsweredBy tool args start all slot text bound)
    (sound : call.Sound policy now session)
    (timely : call.Timely args policy first start (session.tries first))
    (paced : policy.Paced start (session.tries first)) (old : first ≤ session.launches.length)
    (isDue : call.due? = some due) (inTime : due ≤ bound)
    (grows : session.tries first <+: (call.step tool policy due session).2.tries first)
    (grown : (call.step tool policy due session).2.tries first <+: all) :
    (∃ next, (call.step tool policy due session).1 = .waiting next ∧ next.Awaits slot) ∨
      (call.step tool policy due session).1 = .ended (.ok text) := by
  have order := (step_follows tool sound isDue).1
  have fewer := grows.trans grown
  rw [step] at grown ⊢
  rw [Awaits] at awaits
  cases phase : call.phase with
  | starting number child =>
    rw [phase] at awaits
    rw [due?, phase] at isDue
    exact .inl (arrive_awaits tool session number answered timely.args
      (timely.starting fewer phase) (Option.some.inj isDue) awaits)
  | racing roundEnd =>
    rw [phase] at awaits grown
    exact race_awaits tool answered sound timely
      (timely.ready sound paced old isDue order (by simp [phase])) grown fewer inTime order awaits
  | draining =>
    rw [phase] at awaits
    exact awaits.elim

end Call

/-- **An answer ends a question in time**, if it is not given up before. -/
theorem Runs.answered {args : List String} {tool : Tool} {policy : Policy}
    {giveUp : Option Instant} {first : Nat} {start now bound : Instant} {progress : Progress}
    {session : Session} {races : List Race} {slot : Nat} {text : String}
    {outcome : Instant × Except RunError String × Session}
    (runs : Runs tool policy giveUp now progress session races outcome)
    (sound : ∀ call, progress = .waiting call → call.Sound policy now session)
    (old : first ≤ session.launches.length)
    (onTime : progress.Timely args policy first start (session.tries first))
    (answered : policy.AnsweredBy tool args start (outcome.2.2.tries first) slot text bound)
    (patient : ∀ instant, giveUp = some instant → bound ≤ instant) (inTime : now ≤ bound)
    (awaits : ∀ call, progress = .waiting call → call.Awaits slot)
    (ended : ∀ result, progress = .ended result → result = .ok text) :
    outcome.2.1 = .ok text ∧ outcome.1 ≤ bound := by
  have grown := (runs.timely sound old onTime).1
  induction runs with
  | ended => exact ⟨ended _ rfl, inTime⟩
  | stuck never _ =>
    obtain ⟨due, isDue, -⟩ := (awaits _ rfl).exists_due? answered (sound _ rfl)
      (onTime.waiting _ rfl) grown inTime
    cases never.symm.trans isDue
  | @cancelled _ call session instant given before =>
    obtain ⟨due, isDue, order⟩ := (awaits _ rfl).exists_due? answered (sound _ rfl)
      (onTime.waiting _ rfl) grown inTime
    exact (Nat.not_le.mpr (before due isDue) (Nat.le_trans order (patient instant given))).elim
  | @stepped now call session due races outcome isDue _ rest ih =>
    have isSound := sound call rfl
    have isTimely := onTime.waiting call rfl
    obtain ⟨-, follows⟩ := step_follows tool isSound isDue
    obtain ⟨gone, advance, -⟩ := follows.advance
    have older := Nat.le_trans old advance.grows
    obtain ⟨grows, next⟩ := step_timely tool isSound isTimely onTime.paced old isDue
    obtain ⟨grown', -⟩ := rest.timely follows.sound older next
    obtain ⟨due', isDue', order⟩ := (awaits call rfl).exists_due? answered isSound isTimely grown
      inTime
    cases isDue.symm.trans isDue'
    have towards := step_awaits tool (awaits call rfl) answered isSound isTimely onTime.paced old
      isDue order grows grown'
    refine ih follows.sound older next answered order (fun call' waits => ?_)
      (fun result ends => ?_) grown'
    · rcases towards with ⟨next, same, awaitsNext⟩ | same
      · cases same.symm.trans waits
        exact awaitsNext
      · cases same.symm.trans waits
    · rcases towards with ⟨next, same, -⟩ | same
      · cases same.symm.trans ends
      · cases same.symm.trans ends
        rfl

end TypeSchema
