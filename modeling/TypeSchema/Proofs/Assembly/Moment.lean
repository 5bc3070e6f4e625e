/-
**What happens at one moment of a pool.**

* `Desk.walk`: how far a job comes by itself, until it waits for an answer or is settled;
* `Moment`: an event that happens, and the pool that it finds;
* `Moment.course?`, `Moment.end?`: what becomes of the job of an event, and what it ends with;
* `Moment.Makes`, `handled_makes`: **everything that an event does** to a pool;
* `Moment.underWay`, `Moment.ahead`: the jobs that have a place, and those that are still to come;
  `underWay_add_ahead`, `Makes.remaining`: **a job is under way, or to come, or has its one end**.
-/

import TypeSchema.Proofs.Assembly.Pool

namespace TypeSchema

variable {World Pending : Type}

/-! ### Jobs by themselves -/

/-- How far a job comes by itself: it waits for an answer, or is settled. -/
inductive Course (Pending : Type) where
  | waits (pending : Pending) (next : Except RunError String → Inquiry Finding)
  | settles (result : Except AssemblyError Finding)

namespace Desk

variable {desk : Desk World Pending} {now : Instant}

/-- Goes on with a job until it waits or is settled. -/
def walk (desk : Desk World Pending) (now : Instant) :
    Inquiry Finding → World → Course Pending × World
  | .settled result, world => (.settles result, world)
  | .ask command next, world =>
    match desk.begin command now world with
    | (.waiting pending, world) => (.waits pending next, world)
    | (.answered result, world) => desk.walk now (next result) world

/-- Goes on with a job when its question was seen to. -/
def goOn (desk : Desk World Pending) (now : Instant)
    (next : Except RunError String → Inquiry Finding) :
    Reply Pending × World → Course Pending × World
  | (.waiting pending, world) => (.waits pending next, world)
  | (.answered result, world) => desk.walk now (next result) world

theorem walk_ask (command : Command) (next : Except RunError String → Inquiry Finding)
    (world : World) :
    desk.walk now (.ask command next) world =
      desk.goOn now next (desk.begin command now world) := by
  rw [walk, goOn.eq_def]

/-- The results that a job may still come to. -/
def courseResults (desk : Desk World Pending) (now : Instant) :
    Course Pending → Set (Except AssemblyError Finding)
  | .waits pending next => {result | ∃ answer, desk.Gives now (.waiting pending) answer ∧
      (next answer).Yields desk.MayAnswer result}
  | .settles result => {result}

/-- **A job comes to what it may come to.** -/
theorem walk_results (job : Inquiry Finding) (world : World) :
    desk.courseResults now (desk.walk now job world).1 ⊆ desk.results job := by
  induction job generalizing world with
  | settled result =>
    rintro other rfl
    exact .settled other
  | ask command next ih =>
    have may {answer : Except RunError String}
        (gives : desk.Gives now (desk.begin command now world).1 answer) :
        desk.MayAnswer command answer := ⟨now, world, gives⟩
    rw [walk]
    split <;> rename_i begun <;> rw [begun] at may
    · rintro result ⟨answer, gives, comes⟩
      exact .ask (may gives) comes
    · rename_i answer world'
      exact fun result comes => .ask (may (.answered now answer)) (ih answer world' comes)

/-- A job whose question was seen to comes to what it may come to. -/
theorem goOn_results (next : Except RunError String → Inquiry Finding)
    (replied : Reply Pending × World) :
    desk.courseResults now (desk.goOn now next replied).1 ⊆ {result | ∃ answer,
      desk.Gives now replied.1 answer ∧ (next answer).Yields desk.MayAnswer result} := by
  obtain ⟨pending | answer, world⟩ := replied
  · exact subset_refl _
  · exact fun result comes => ⟨answer, .answered now answer, walk_results (next answer) world comes⟩

end Desk

/-- Takes a finding down, if its name is free. -/
def Registry.accept (registry : Registry) (finding : Finding) : Except AssemblyError Finding :=
  match registry.record finding with
  | .ok _ => .ok finding
  | .error error => .error (.duplicate error)

/-! ### Moments -/

/-- An event that happens, and the pool that it finds. -/
structure Moment (World Pending : Type) where
  time : Instant
  turn : Nat
  event : Event Pending
  /-- The pool without the event. -/
  pool : Pool World Pending

namespace Moment

/-- What becomes of the job of an event; nothing yet if it gets no place. -/
def course? (desk : Desk World Pending) (moment : Moment World Pending) :
    Option (Course Pending × World) :=
  match moment.event with
  | .arrive job =>
    if moment.pool.free = 0 then none else some (desk.walk moment.time job moment.pool.world)
  | .enter job => some (desk.walk moment.time job moment.pool.world)
  | .resume pending next =>
    some (desk.goOn moment.time next (desk.step pending moment.time moment.pool.world))
  | .report _ => none
  | .stop _ => none

/-- What the job of an event ends with at this moment, if it does. -/
def end? (desk : Desk World Pending) (moment : Moment World Pending) :
    Option (Except AssemblyError Finding) :=
  match moment.course? desk with
  | some (.settles result, _) => some (result.bind moment.pool.registry.accept)
  | _ => none

/-- The pool in which the job of an event has a place. -/
def seated (moment : Moment World Pending) : Pool World Pending :=
  match moment.event with
  | .arrive _ => { moment.pool with free := moment.pool.free - 1 }
  | _ => moment.pool

theorem registry_seated (moment : Moment World Pending) :
    moment.seated.registry = moment.pool.registry := by
  rw [seated]
  split <;> rfl

/-- The pool after an event, or the failure that stops all jobs. -/
def handled (desk : Desk World Pending) (moment : Moment World Pending) :
    Except AssemblyError (Pool World Pending) :=
  moment.pool.handle desk moment.time moment.turn moment.event

/-- Everything that an event does to a pool. -/
inductive Makes (desk : Desk World Pending) (moment : Moment World Pending) :
    Pool World Pending → Prop
  /-- A job finds no place and waits for one. -/
  | queues {job : Inquiry Finding} (arrives : moment.event = .arrive job)
    (full : moment.pool.free = 0) :
    Makes desk moment { moment.pool with waiting := moment.pool.waiting ++ [job] }
  /-- A job has asked a question and waits for the answer. -/
  | waits {pending : Pending} {next : Except RunError String → Inquiry Finding} {world : World}
    (course : moment.course? desk = some (.waits pending next, world)) :
    Makes desk moment
      ({ moment.seated with world := world }.await desk moment.time moment.turn pending next)
  /-- The finding of a job is taken down. -/
  | finds {finding : Finding} {registry : Registry} {world : World}
    (course : moment.course? desk = some (.settles (.ok finding), world))
    (recorded : moment.pool.registry.record finding = .ok registry) :
    Makes desk moment
      ({ moment.seated with
          registry := registry
          world := finding.line?.toList.foldl (fun world line => desk.say line world) world }.leave
        moment.time moment.turn)
  /-- A job fails. -/
  | fails {error : AssemblyError} {result : Except AssemblyError Finding} {world : World}
    (course : moment.course? desk = some (.settles result, world))
    (failed : result.bind moment.pool.registry.accept = .error error) :
    Makes desk moment
      (({ moment.seated with world := world }.leave moment.time moment.turn).plan
        (some moment.time) (moment.turn + 1) (.report error))
  /-- A failure is seen to. -/
  | reports {error : AssemblyError} (failure : moment.event = .report error) :
    Makes desk moment (moment.pool.plan (some moment.time) (moment.turn + 1) (.stop error))

end Moment

namespace Pool

variable {desk : Desk World Pending} {moment : Moment World Pending} {pool after : Pool World Pending}

/-- What a pool makes of how far a job has come. -/
def take (desk : Desk World Pending) (now : Instant) (turn : Nat)
    (course : Course Pending × World) (pool : Pool World Pending) : Pool World Pending :=
  match course with
  | (.waits pending next, world) => { pool with world := world }.await desk now turn pending next
  | (.settles result, world) => { pool with world := world }.conclude desk now turn result

/-- **A job that has a place** comes as far as it does by itself. -/
theorem pursue_eq (now : Instant) (turn : Nat) (job : Inquiry Finding)
    (pool : Pool World Pending) :
    pool.pursue desk now turn job = pool.take desk now turn (desk.walk now job pool.world) := by
  induction job generalizing pool with
  | settled result => rfl
  | ask command next ih =>
    rw [pursue, Desk.walk]
    cases desk.begin command now pool.world with
    | mk reply world =>
      cases reply with
      | waiting pending => rfl
      | answered answer => exact ih _ _

/-- An event that gives a job its turn. -/
theorem handled_of_course {course : Course Pending × World}
    (found : moment.course? desk = some course) :
    moment.handled desk = .ok (moment.seated.take desk moment.time moment.turn course) := by
  obtain ⟨time, turn, event, pool⟩ := moment
  rw [Moment.handled]
  cases event with
  | arrive job =>
    simp only [Moment.course?] at found
    split at found
    · cases found
    · rename_i isFree
      cases found
      obtain ⟨free, same⟩ := Nat.exists_eq_succ_of_ne_zero isFree
      simp only [handle, same, Moment.seated, pursue_eq]
      rfl
  | enter job =>
    cases found
    exact congrArg Except.ok (pursue_eq ..)
  | resume pending next =>
    cases found
    simp only [handle, Desk.goOn.eq_def, Moment.seated]
    cases desk.step pending time pool.world with
    | mk reply world =>
      cases reply with
      | waiting pending' => rfl
      | answered answer => exact congrArg Except.ok (pursue_eq ..)
  | report error => cases found
  | stop error => cases found

/-- **Everything that an event does**, unless it stops all jobs. -/
theorem handled_makes (handled : moment.handled desk = .ok after) : moment.Makes desk after := by
  cases found : moment.course? desk with
  | some course =>
    rw [handled_of_course found] at handled
    cases handled
    obtain ⟨pending | result, world⟩ := course
    · exact .waits found
    · have registry := moment.registry_seated
      simp only [take, conclude]
      obtain error | finding := result
      · exact .fails found rfl
      · cases recorded : moment.pool.registry.record finding with
        | ok registry' =>
          have made := Moment.Makes.finds found recorded
          simpa only [record, registry, recorded] using made
        | error error =>
          have failed : (Except.ok finding).bind moment.pool.registry.accept =
              .error (.duplicate error) := by
            simp only [Except.bind, Registry.accept, recorded]
          obtain ⟨entry, rfl, -⟩ := Registry.record_eq_error recorded
          have made := Moment.Makes.fails found failed
          simpa only [record, registry, recorded, Finding.line?, Option.toList_none,
            List.foldl_nil] using made
  | none =>
    obtain ⟨time, turn, event, pool⟩ := moment
    cases event with
    | arrive job =>
      simp only [Moment.course?, ite_eq_left_iff, reduceCtorEq, imp_false, not_not] at found
      obtain ⟨free, waiting, agenda, registry, world⟩ := pool
      cases found
      cases handled
      exact .queues rfl rfl
    | enter => cases found
    | resume => cases found
    | report error =>
      cases handled
      exact .reports rfl
    | stop error => cases handled

end Pool

/-! ### What jobs may come to -/

namespace Moment

variable {desk : Desk World Pending} {moment : Moment World Pending} {after : Pool World Pending}

/-- What the job of an event may come to. -/
def results (desk : Desk World Pending) (moment : Moment World Pending) :
    Set (Except AssemblyError Finding) :=
  Planned.results desk ⟨some moment.time, moment.turn, moment.event⟩

/-- The job of an event comes to what it may come to. -/
theorem course_results {course : Course Pending × World}
    (found : moment.course? desk = some course) :
    desk.courseResults moment.time course.1 ⊆ moment.results desk := by
  obtain ⟨time, turn, event, pool⟩ := moment
  cases event with
  | arrive job =>
    simp only [course?] at found
    split at found
    · cases found
    · cases found
      exact Desk.walk_results job pool.world
  | enter job =>
    cases found
    exact Desk.walk_results job pool.world
  | resume pending next =>
    cases found
    refine (Desk.goOn_results next (desk.step pending time pool.world)).trans ?_
    rintro result ⟨answer, gives, comes⟩
    exact ⟨pool.world, answer, gives, comes⟩
  | report => cases found
  | stop => cases found

/-- The pool with the place of a job taken has the same jobs. -/
theorem results_seated (moment : Moment World Pending) :
    moment.seated.results desk = moment.pool.results desk := by
  rw [seated]
  split <;> rfl

/-- **What an event makes of its job, among the others**: it goes on with fewer possible results, or
ends with one of them that is taken down, or fails. -/
theorem Makes.results (makes : moment.Makes desk after) :
    (moment.end? desk = none ∧ after.registry = moment.pool.registry ∧
      ∃ fewer ⊆ moment.results desk, after.results desk = fewer ::ₘ moment.pool.results desk) ∨
    (∃ finding, moment.end? desk = some (.ok finding) ∧ .ok finding ∈ moment.results desk ∧
      moment.pool.registry.record finding = .ok after.registry ∧
      after.results desk = moment.pool.results desk) ∨
    ∃ error, moment.end? desk = some (.error error) ∧
      after.results desk = {.error error} ::ₘ moment.pool.results desk := by
  cases makes with
  | @queues job arrives full =>
    refine .inl ⟨?_, rfl, desk.results job, ?_, ?_⟩
    · simp [end?, course?, arrives, full]
    · simp [Moment.results, Planned.results, arrives]
    · rw [Pool.results, Pool.tasks, List.map_append, ← Multiset.coe_add, ← Multiset.add_assoc,
        Multiset.map_add, Multiset.add_comm]
      rfl
  | @waits pending next world course =>
    refine .inl ⟨by rw [end?, course], registry_seated moment, _, ?_, Pool.results_plan _ _ _ _ |>.trans
      (congrArg _ (results_seated moment))⟩
    refine subset_trans ?_ (course_results course)
    cases isDue : desk.due? pending with
    | none => exact Set.empty_subset _
    | some due =>
      rintro result ⟨world, answer, gives, comes⟩
      exact ⟨answer, .waiting isDue gives, comes⟩
  | @finds finding registry world course recorded =>
    refine .inr (.inl ⟨finding, ?_, course_results course rfl, ?_, ?_⟩)
    · simp only [end?, course, Except.bind, Registry.accept, recorded]
    · rw [(Pool.leave_registry _ _ _).1]
      exact recorded
    · exact (Pool.results_leave _ _ _).trans (results_seated moment)
  | @fails error result world course failed =>
    refine .inr (.inr ⟨error, by rw [end?, course]; exact congrArg some failed, ?_⟩)
    rw [Pool.results_plan, Pool.results_leave]
    exact congrArg _ (results_seated moment)
  | @reports error failure =>
    refine .inl ⟨by simp [end?, course?, failure], rfl, {.error error}, ?_, Pool.results_plan _ _ _ _⟩
    simp [Moment.results, Planned.results, failure]

end Moment

/-! ### Jobs that are not done -/

/-- Whether an event is one of a job that has no place yet. -/
def Event.isArrival : Event Pending → Bool
  | arrive _ => true
  | _ => false

/-- Whether an event is one of a job that has not ended. -/
def Event.isJob : Event Pending → Bool
  | report _ => false
  | stop _ => false
  | _ => true

namespace Pool

/-- How many jobs have a place. -/
def seats (pool : Pool World Pending) : Nat :=
  pool.agenda.countP fun planned => isSeated planned.event

/-- How many jobs have no place yet. -/
def coming (pool : Pool World Pending) : Nat :=
  (pool.agenda.countP fun planned => planned.event.isArrival) + pool.waiting.length

/-- How many jobs have not ended. -/
def remaining (pool : Pool World Pending) : Nat := pool.seats + pool.coming

variable {desk : Desk World Pending} {pool : Pool World Pending}

theorem remaining_eq_countP (pool : Pool World Pending) :
    pool.remaining = pool.tasks.countP fun planned => planned.event.isJob = true := by
  obtain ⟨free, waiting, agenda, registry, world⟩ := pool
  have parts : (agenda.countP fun planned => isSeated planned.event) +
      (agenda.countP fun planned => planned.event.isArrival) =
        agenda.countP fun planned => planned.event.isJob := by
    induction agenda with
    | nil => rfl
    | cons planned rest ih =>
      have one : (if isSeated planned.event then 1 else 0) +
          (if planned.event.isArrival then 1 else 0) = if planned.event.isJob then 1 else 0 := by
        cases planned.event <;> rfl
      rw [List.countP_cons, List.countP_cons, List.countP_cons]
      omega
  have all : (waiting.map (seat : Inquiry Finding → Planned Pending)).countP
      (fun planned => planned.event.isJob) = waiting.length := by
    rw [List.countP_map]
    exact List.countP_eq_length.mpr fun _ _ => rfl
  rw [tasks, Multiset.countP_add, Multiset.coe_countP, Multiset.coe_countP]
  simp only [remaining, seats, coming, Bool.decide_eq_true] at parts all ⊢
  omega

theorem remaining_plan (time : Option Instant) (turn : Nat) (event : Event Pending)
    (pool : Pool World Pending) :
    (pool.plan time turn event).remaining = pool.remaining + if event.isJob then 1 else 0 := by
  rw [remaining_eq_countP, remaining_eq_countP, tasks_plan, Multiset.countP_cons]

theorem remaining_leave (now : Instant) (turn : Nat) (pool : Pool World Pending) :
    (pool.leave now turn).remaining = pool.remaining := by
  rw [remaining_eq_countP, remaining_eq_countP]
  rcases tasks_leave now turn pool with same | ⟨job, others, before, left⟩
  · rw [same]
  · rw [before, left, Multiset.countP_cons, Multiset.countP_cons]
    rfl

end Pool

namespace Moment

variable {desk : Desk World Pending} {moment : Moment World Pending} {after : Pool World Pending}

/-- How many jobs have a place while an event happens. -/
def underWay (desk : Desk World Pending) (moment : Moment World Pending) : Nat :=
  moment.pool.seats + if (moment.course? desk).isSome then 1 else 0

/-- How many jobs have no place yet while an event happens. -/
def ahead (desk : Desk World Pending) (moment : Moment World Pending) : Nat :=
  moment.pool.coming + if moment.event.isArrival ∧ (moment.course? desk).isNone then 1 else 0

/-- Every job that has not ended is under way, or still to come. -/
theorem underWay_add_ahead (desk : Desk World Pending) (moment : Moment World Pending) :
    moment.underWay desk + moment.ahead desk =
      moment.pool.remaining + if moment.event.isJob then 1 else 0 := by
  rw [underWay, ahead, Pool.remaining]
  obtain ⟨time, turn, event, pool⟩ := moment
  cases event with
  | arrive job =>
    by_cases full : pool.free = 0 <;> simp [course?, full, Event.isArrival, Event.isJob] <;> omega
  | enter job => simp [course?, Event.isArrival, Event.isJob]; omega
  | resume pending next => simp [course?, Event.isArrival, Event.isJob]; omega
  | report error => simp [course?, Event.isArrival, Event.isJob]
  | stop error => simp [course?, Event.isArrival, Event.isJob]

/-- The pool with the place of a job taken has the same jobs. -/
theorem remaining_seated (moment : Moment World Pending) :
    moment.seated.remaining = moment.pool.remaining := by
  rw [seated]
  split <;> rfl

theorem isJob_of_course {course : Course Pending × World}
    (found : moment.course? desk = some course) : moment.event.isJob = true := by
  obtain ⟨time, turn, event, pool⟩ := moment
  cases event with
  | report => cases found
  | stop => cases found
  | _ => rfl

/-- **A job is under way, or to come, until its one end.** -/
theorem Makes.remaining (makes : moment.Makes desk after) :
    after.remaining + (if (moment.end? desk).isSome then 1 else 0) =
      moment.pool.remaining + if moment.event.isJob then 1 else 0 := by
  cases makes with
  | queues arrives full =>
    simp only [end?, course?, arrives, full, Event.isJob, Pool.remaining, Pool.seats, Pool.coming,
      List.length_append, List.length_singleton]
    simp
    omega
  | waits course =>
    rw [Pool.await, Pool.remaining_plan, isJob_of_course course, end?, course]
    exact congrArg (· + 1 + 0) (remaining_seated moment)
  | finds course recorded =>
    rw [Pool.remaining_leave, isJob_of_course course, end?, course]
    exact congrArg (· + 1) (remaining_seated moment)
  | fails course failed =>
    rw [Pool.remaining_plan, Pool.remaining_leave, isJob_of_course course, end?, course]
    exact congrArg (· + 0 + 1) (remaining_seated moment)
  | reports failure =>
    rw [Pool.remaining_plan, end?, course?, failure]
    rfl

end Moment

end TypeSchema
