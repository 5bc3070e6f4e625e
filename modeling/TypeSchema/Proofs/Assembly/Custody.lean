/-
**The processes of the jobs of a pool.**

* `Keeps`: what a job makes of the processes of its question until it waits again, or is settled;
  `walk_keeps`, `goOn_keeps`: **a job lets go of every process** but those of the question that it
  waits for;
* `Custody`: each process of a pool belongs to one question that waits, or was let go and has ended
  or was killed; none of them starts later than the pool has come;
* `Custody.handled`, `Custody.abandon`: **each event keeps custody**, and giving up all questions lets
  all processes go;
* `Lives.custody`: **when a pool ends**, whatever comes of it, each of its processes has ended or was
  killed.
-/

import TypeSchema.Proofs.Assembly.Alarm
import TypeSchema.Proofs.Run.Chronicle
import TypeSchema.Proofs.Run.Starts

namespace TypeSchema

open Session

/-! ### Questions among others -/

namespace Call

variable {call : Call} {policy : Policy} {now later due : Instant} {session after : Session}
  {own kept gone : List Nat}

theorem mem_numbers_of_live {number : Nat} (member : number ∈ call.live.map Attempt.number) :
    number ∈ call.numbers := by
  rw [numbers]
  split
  · exact List.mem_cons_of_mem _ member
  · exact member

theorem since_le (isDue : call.due? = some due) : call.since ≤ due := by
  rw [due?] at isDue
  split at isDue
  · cases isDue
    exact Nat.le_add_right _ _
  · obtain ⟨time, -, rfl⟩ := Option.map_eq_some_iff.mp isDue
    exact Nat.le_max_left _ _
  · obtain ⟨time, -, rfl⟩ := Option.map_eq_some_iff.mp isDue
    exact Nat.le_max_left _ _

theorem Sound.lt (sound : call.Sound policy now session) :
    ∀ number ∈ call.numbers, number < session.launches.length := by
  intro number member
  obtain ⟨ordered, -, -, fits⟩ := sound
  rw [numbers] at member
  split at member
  · rename_i starting child phase
    rw [phase] at fits
    obtain ⟨-, launch, found, -⟩ := fits
    rcases List.mem_cons.mp member with rfl | isLive
    · exact (List.getElem?_eq_some_iff.mp found).1
    · exact ordered.lt number isLive
  · exact ordered.lt number member

/-- What is done with the processes of others does not matter to a question. -/
theorem Sound.of_advance (sound : call.Sound policy now session)
    (advance : session.Advance policy.limit own kept gone later after)
    (others : ∀ number ∈ call.numbers, number ∉ own) : call.Sound policy now after := by
  refine ⟨sound.ordered.of_advance advance fun number member =>
    others number (mem_numbers_of_live member), sound.since, sound.nodup, ?_⟩
  have fits := sound.phase
  cases phase : call.phase with
  | starting number child =>
    rw [phase] at fits
    obtain ⟨room, launch, found, known⟩ := fits
    have mine : number ∈ call.numbers := by
      rw [numbers, phase]
      exact List.mem_cons_self
    have frame := advance.frame number (sound.lt number mine) (others number mine)
    exact ⟨room, launch, frame.trans found, known⟩
  | racing => trivial
  | draining =>
    rw [phase] at fits
    exact fits

end Call

/-! ### One job -/

/-- The processes of the question that a job waits for. -/
def Course.numbers : Course (Command × Call) → List Nat
  | waits pending _ => pending.2.numbers
  | settles _ => []

/-- What a job makes of the processes of its question, and of those that it starts, until it waits
again or is settled. -/
structure Keeps (policy : Policy) (own : List Nat) (first : Nat) (now : Instant) (before : Session)
    (came : Course (Command × Call) × Session) : Prop where
  advance : ∃ gone, before.Advance policy.limit own came.1.numbers gone now came.2
  sound : ∀ pending next, came.1 = .waits pending next → pending.2.Sound policy now came.2
  started : came.2.StartedBy first now

section

variable {tool : Tool} {policy : Policy} {own read : List Nat} {first steps : Nat} {now : Instant}
  {before after : Session} {progress : Progress} {command : Command}
  {next : Except RunError String → Inquiry Finding}

/-- A job goes on after a step of its question. -/
theorem goOn_keeps (follows : progress.Follows policy own read steps now before after)
    (started : after.StartedBy first now)
    (rest : ∀ answer session, StartedBy session first now → Keeps policy [] first now session
      ((Desk.ofTool tool policy).walk now (next answer) session)) :
    Keeps policy own first now before
      ((Desk.ofTool tool policy).goOn now next (command.reply progress, after)) := by
  obtain ⟨gone, advance, -⟩ := follows.advance
  cases progress with
  | waiting call =>
    refine ⟨⟨gone, advance⟩, ?_, started⟩
    rintro pending next' ⟨⟩
    exact follows.sound call rfl
  | ended result =>
    obtain ⟨⟨gone', advance'⟩, sound, started⟩ := rest (command.answer result) after started
    exact ⟨⟨_, advance.trans advance' (Nat.le_refl now)⟩, sound, started⟩

/-- **A job lets go of every process** but those of the question that it waits for. -/
theorem walk_keeps (tool : Tool) (policy : Policy) (job : Inquiry Finding)
    (started : before.StartedBy first now) :
    Keeps policy [] first now before ((Desk.ofTool tool policy).walk now job before) := by
  induction job generalizing before with
  | settled result => exact ⟨⟨[], .refl _ _ _ _⟩, fun _ _ waits => (nomatch waits), started⟩
  | ask command next ih =>
    rw [Desk.walk_ask]
    exact goOn_keeps (Call.begin_follows command.args tool policy now before)
      (Call.begin_startedBy command.args tool policy started) fun answer session => ih answer

end

/-! ### All jobs -/

/-- The processes of the question that an event is about. -/
def Event.numbers : Event (Command × Call) → List Nat
  | resume pending _ => pending.2.numbers
  | _ => []

/-- The processes of the questions that events are about. -/
def owned (agenda : List (Planned (Command × Call))) : List Nat :=
  agenda.flatMap fun planned => planned.event.numbers

/-- Each process since a session belongs to one question that waits, or was let go. -/
structure Custody (policy : Policy) (start : Session) (now : Instant)
    (agenda : List (Planned (Command × Call))) (session : Session) : Prop where
  advance : ∃ gone, start.Advance policy.limit [] (owned agenda) gone now session
  nodup : (owned agenda).Nodup
  waits : ∀ planned ∈ agenda, ∀ pending next, planned.event = .resume pending next →
    planned.time = pending.2.due? ∧ ∃ since, pending.2.Sound policy since session
  started : session.StartedBy start.launches.length now

namespace Custody

variable {tool : Tool} {policy : Policy} {start session after : Session} {now later : Instant}
  {agenda agenda' new rest : List (Planned (Command × Call))} {planned : Planned (Command × Call)}
  {moment : Moment Session (Command × Call)} {pool pool' : Pool Session (Command × Call)}
  {gone : List Nat}

theorem mono (custody : Custody policy start now agenda session) (order : now ≤ later) :
    Custody policy start later agenda session := by
  obtain ⟨gone, advance⟩ := custody.advance
  exact ⟨⟨_, advance.trans (.refl _ _ later session) order⟩, custody.nodup, custody.waits,
    custody.started.mono order⟩

theorem of_perm (custody : Custody policy start now agenda session) (perm : agenda'.Perm agenda) :
    Custody policy start now agenda' session := by
  have same := perm.flatMap_right fun planned => planned.event.numbers
  obtain ⟨gone, advance⟩ := custody.advance
  exact ⟨⟨gone, advance.congr (fun _ => .rfl) fun _ => same.mem_iff⟩, same.nodup_iff.mpr custody.nodup,
    fun planned member => custody.waits planned (perm.mem_iff.mp member), custody.started⟩

/-- An event without a question. -/
theorem cons (custody : Custody policy start now agenda session)
    (silent : ∀ pending next, planned.event ≠ .resume pending next) :
    Custody policy start now (planned :: agenda) session := by
  have none : planned.event.numbers = [] := by
    cases same : planned.event with
    | resume pending next => exact (silent pending next same).elim
    | _ => rfl
  have same : owned (planned :: agenda) = owned agenda := by
    rw [owned, List.flatMap_cons, none]
    rfl
  refine ⟨same ▸ custody.advance, same ▸ custody.nodup, fun other member pending next isResume => ?_,
    custody.started⟩
  rcases List.mem_cons.mp member with rfl | member
  · exact (silent pending next isResume).elim
  · exact custody.waits other member pending next isResume

theorem insert (custody : Custody policy start now agenda session)
    (silent : ∀ pending next, planned.event ≠ .resume pending next) :
    Custody policy start now (Pool.insert planned agenda) session :=
  (custody.cons silent).of_perm (Pool.insert_perm _ _)

/-- Another event is planned, without a question. -/
theorem plan {time : Option Instant} {turn : Nat} {event : Event (Command × Call)}
    (custody : Custody policy start now pool.agenda pool.world)
    (silent : ∀ pending next, event ≠ .resume pending next) :
    Custody policy start now (pool.plan time turn event).agenda
      (pool.plan time turn event).world :=
  custody.insert silent

theorem leave {time : Instant} {turn : Nat}
    (custody : Custody policy start now pool.agenda pool.world) :
    Custody policy start now (pool.leave time turn).agenda (pool.leave time turn).world := by
  rw [Pool.leave]
  split
  · exact custody
  · exact custody.plan (by rintro _ _ ⟨⟩)

theorem say (custody : Custody policy start now agenda session) (lines : List String) :
    Custody policy start now agenda (lines.foldl Session.say session) := by
  induction lines generalizing session with
  | nil => exact custody
  | cons line rest ih =>
    obtain ⟨⟨gone, advance⟩, nodup, waits, started⟩ := custody
    have told := (Advance.refl policy.limit [] now session).say line
    refine ih ⟨⟨gone, advance.say line⟩, nodup, fun planned member pending next isResume => ?_,
      started⟩
    obtain ⟨isDue, since, sound⟩ := waits planned member pending next isResume
    exact ⟨isDue, since, sound.of_advance told fun _ _ => List.not_mem_nil⟩

/-- **The first event is dealt with**: other processes come in the place of those of its question. -/
theorem replace (custody : Custody policy start now (planned :: rest) session) (order : now ≤ later)
    (advance : session.Advance policy.limit planned.event.numbers (owned new) gone later after)
    (nodup : (owned new).Nodup)
    (waits : ∀ planned ∈ new, ∀ pending next, planned.event = .resume pending next →
      planned.time = pending.2.due? ∧ ∃ since, pending.2.Sound policy since after)
    (started : after.StartedBy start.launches.length later) :
    Custody policy start later (new ++ rest) after := by
  obtain ⟨⟨_, before⟩, distinct, others, -⟩ := custody
  obtain ⟨-, nodupRest, apart⟩ := List.nodup_append.mp distinct
  have old : ∀ number ∈ owned rest, number < session.launches.length := by
    intro number member
    obtain ⟨other, isOther, mine⟩ := List.mem_flatMap.mp member
    cases same : other.event with
    | resume pending next =>
      obtain ⟨-, since, sound⟩ := others other (List.mem_cons_of_mem _ isOther) pending next same
      rw [same] at mine
      exact sound.lt number mine
    | arrive => rw [same] at mine; cases mine
    | enter => rw [same] at mine; cases mine
    | report => rw [same] at mine; cases mine
    | stop => rw [same] at mine; cases mine
  have foreign : ∀ number ∈ owned rest, number ∉ planned.event.numbers :=
    fun number member mine => apart number mine number member rfl
  have whole := before.trans (advance.aside (owned rest) fun number member =>
    ⟨foreign number member, old number member⟩) order
  have parts : owned (new ++ rest) = owned new ++ owned rest := List.flatMap_append
  refine ⟨⟨_, parts ▸ whole⟩, ?_, fun other member pending next isResume => ?_, started⟩
  · rw [parts, List.nodup_append]
    refine ⟨nodup, nodupRest, ?_⟩
    rintro number isNew _ isOld rfl
    rcases advance.owned number isNew with mine | fresh
    · exact foreign number isOld mine
    · exact Nat.not_le.mpr (old number isOld) fresh
  · rcases List.mem_append.mp member with isNew | isOld
    · exact waits other isNew pending next isResume
    · obtain ⟨isDue, since, sound⟩ :=
        others other (List.mem_cons_of_mem _ isOld) pending next isResume
      refine ⟨isDue, since, sound.of_advance advance fun number mine => foreign number ?_⟩
      refine List.mem_flatMap.mpr ⟨other, isOld, ?_⟩
      rw [isResume]
      exact mine

/-- An event that is about no question. -/
theorem tail (custody : Custody policy start now (planned :: rest) session) (order : now ≤ later)
    (silent : planned.event.numbers = []) : Custody policy start later rest session := by
  have nothing : session.Advance policy.limit planned.event.numbers (owned []) [] later session := by
    rw [silent]
    exact .refl _ _ _ _
  exact custody.replace order nothing List.nodup_nil (fun _ none => nomatch none)
    (custody.started.mono order)

/-- What a job makes of its processes when it is its turn. -/
theorem keeps {came : Course (Command × Call) × Session}
    (custody : Custody policy start now moment.before.agenda moment.pool.world)
    (order : now ≤ moment.time) (found : moment.course? (Desk.ofTool tool policy) = some came) :
    Keeps policy moment.event.numbers start.launches.length moment.time moment.pool.world came := by
  have started := custody.started.mono order
  obtain ⟨time, turn, event, pool⟩ := moment
  cases event with
  | arrive job =>
    simp only [Moment.course?] at found
    split at found
    · cases found
    · cases found
      exact walk_keeps tool policy job started
  | enter job =>
    cases found
    exact walk_keeps tool policy job started
  | resume pending next =>
    cases found
    obtain ⟨isDue, since, sound⟩ := custody.waits _ List.mem_cons_self pending next rfl
    obtain ⟨-, follows⟩ := Call.step_follows tool sound isDue.symm
    exact goOn_keeps follows (Call.step_startedBy tool sound isDue.symm started)
      fun answer session => walk_keeps tool policy (next answer)
  | report => cases found
  | stop => cases found

/-- **An event keeps custody.** -/
theorem handled (custody : Custody policy start now moment.before.agenda moment.pool.world)
    (order : now ≤ moment.time) (handled : moment.handled (Desk.ofTool tool policy) = .ok pool) :
    Custody policy start moment.time pool.agenda pool.world := by
  -- The event makes way for what its job waits for.
  have turned {came : Course (Command × Call) × Session}
      (found : moment.course? (Desk.ofTool tool policy) = some came)
      (new : List (Planned (Command × Call))) (same : owned new = came.1.numbers)
      (waits : ∀ planned ∈ new, ∀ pending next, planned.event = .resume pending next →
        planned.time = pending.2.due? ∧ came.1 = .waits pending next) :
      Custody policy start moment.time (new ++ moment.seated.agenda) came.2 := by
    have ⟨⟨gone, advance⟩, sound, started⟩ := custody.keeps order found
    rw [moment.agenda_seated]
    refine custody.replace order (same ▸ advance) ?_ (fun planned member pending next isResume => ?_)
      started
    · rw [same]
      cases course : came.1 with
      | settles => exact List.nodup_nil
      | waits pending next => exact (sound pending next course).nodup
    · obtain ⟨isDue, course⟩ := waits planned member pending next isResume
      exact ⟨isDue, _, sound pending next course⟩
  -- The job is settled and waits for nothing.
  have settled {result : Except AssemblyError Finding} {world : Session}
      (found : moment.course? (Desk.ofTool tool policy) = some (.settles result, world)) :
      Custody policy start moment.time moment.seated.agenda world := by
    have nothing := turned found [] rfl (fun _ none => nomatch none)
    rwa [List.nil_append] at nothing
  cases Pool.handled_makes handled with
  | queues arrives full =>
    refine custody.tail order ?_
    rw [arrives]
    rfl
  | @waits pending next world course =>
    have sound := (custody.keeps order course).sound pending next rfl
    have isDue : (pending.2.due?.map (max moment.time)) = pending.2.due? := by
      cases due : pending.2.due? with
      | none => rfl
      | some instant =>
        have after := Call.since_le due
        rw [sound.since] at after
        exact congrArg some (Nat.max_eq_right after)
    refine (turned course [_] (List.append_nil _) ?_).of_perm (Pool.insert_perm _ _)
    rintro _ member pending' next' isResume
    cases List.mem_singleton.mp member
    cases isResume
    exact ⟨isDue, rfl⟩
  | @finds finding registry world course recorded =>
    have told := (settled course).say finding.line?.toList
    exact leave told
  | @fails error result world course failed =>
    have given := settled course
    exact (leave given).plan (by rintro _ _ ⟨⟩)
  | @reports error failure =>
    have rest : Custody policy start moment.time moment.pool.agenda moment.pool.world := by
      refine custody.tail order ?_
      rw [failure]
      rfl
    exact rest.plan (by rintro _ _ ⟨⟩)

/-- The question of an event is given up. -/
theorem giveUp (custody : Custody policy start now (planned :: rest) session)
    (order : now ≤ later) :
    Custody policy start later rest
      (Pool.giveUp (Desk.ofTool tool policy) later session planned) := by
  cases event : planned.event with
  | resume pending next =>
    obtain ⟨-, since, sound⟩ := custody.waits _ List.mem_cons_self pending next event
    have own : planned.event.numbers = pending.2.numbers := by
      rw [event]
      rfl
    have ⟨gone, advance⟩ : ∃ gone, session.Advance policy.limit planned.event.numbers (owned [])
        gone later (pending.2.cancel later session) := own ▸ Runs.cancel_advance sound
    rw [Pool.giveUp, event]
    exact custody.replace order advance List.nodup_nil (fun _ none => nomatch none)
      ((custody.started.mono order).of_stamps (Session.stamps_stopAttempts _ _ _))
  | _ =>
    rw [Pool.giveUp, event]
    refine custody.tail order ?_
    rw [event]
    rfl

/-- **Giving up all questions** lets all processes go. -/
theorem abandon (custody : Custody policy start now pool.agenda pool.world) (order : now ≤ later) :
    Custody policy start later [] (pool.abandon (Desk.ofTool tool policy) later) := by
  rw [Pool.abandon]
  generalize pool.world = session at custody ⊢
  generalize pool.agenda = agenda at custody ⊢
  induction agenda generalizing session now with
  | nil => exact custody.mono order
  | cons planned rest ih => exact ih (Nat.le_refl later) _ (custody.giveUp order)

/-- A process that was let go has ended, or was killed. -/
theorem settled (custody : Custody policy start now [] session) {number : Nat} {launch : Launch}
    (fresh : start.launches.length ≤ number) (found : session.launches[number]? = some launch)
    (started : launch.started = true) : start.Settled session number launch now := by
  obtain ⟨gone, advance⟩ := custody.advance
  exact (advance.account number (.inr fresh) List.not_mem_nil launch found started).2

end Custody

/-- **When a pool ends**, whatever comes of it, all its processes were let go. -/
theorem Lives.custody {tool : Tool} {policy : Policy} {start : Session} {now : Instant} {turn : Nat}
    {pool left : Pool Session (Command × Call)} {moments : List (Moment Session (Command × Call))}
    {outcome : Except AssemblyError Registry × Session}
    (lives : Lives (Desk.ofTool tool policy) now pool moments left outcome)
    (timely : Pool.Timely now turn pool.agenda)
    (custody : Custody policy start now pool.agenda pool.world) :
    Custody policy start (lastTime now moments) [] outcome.2 := by
  induction lives generalizing turn with
  | done idle =>
    rw [idle] at custody
    exact custody
  | stuck => exact custody.abandon (Nat.le_refl _)
  | @stopped now pool moment error opens stops =>
    subst opens
    have order := (timely.due _ List.mem_cons_self moment.time rfl).le
    refine Custody.abandon (custody.tail order ?_) (Nat.le_refl _)
    rw [(Lives.end?_of_stops stops).1]
    rfl
  | @goesOn now pool after left moment moments outcome opens handled _ ih =>
    subst opens
    have order := (timely.due _ List.mem_cons_self moment.time rfl).le
    exact ih (timely.handled handled) (custody.handled order handled)

end TypeSchema
