/-
**Pools that ask questions of one kind.**

* `Desk.Keeps`: what a desk keeps of its world, and of the questions that wait, as long as only
  questions of a kind are asked;
* `Pool.Confined`: all jobs of a pool ask questions of the kind only;
* `Confined.pursue`, `handle_confined`: **each event keeps a pool confined**;
* `finish_holds`, `run_holds`: **so the world is kept until the pool ends**, whatever comes of
  it;
* `keeps_ofTool`: a program that is asked starts processes for these questions only.
-/

import TypeSchema.Proofs.Assembly.Outcome
import TypeSchema.Proofs.Run.Calls

namespace TypeSchema

variable {World Pending : Type}

/-- What a desk keeps as long as only questions of a kind are asked. -/
structure Desk.Keeps (desk : Desk World Pending) (kind : Command → Prop) (holds : World → Prop)
    (fits : Pending → Prop) : Prop where
  begin : ∀ command now world, kind command → holds world →
    holds (desk.begin command now world).2 ∧
      ∀ pending, (desk.begin command now world).1 = .waiting pending → fits pending
  step : ∀ pending now world, fits pending → holds world →
    holds (desk.step pending now world).2 ∧
      ∀ other, (desk.step pending now world).1 = .waiting other → fits other
  cancel : ∀ pending now world, holds world → holds (desk.cancel pending now world)
  say : ∀ line world, holds world → holds (desk.say line world)

/-- The job of an event asks questions of a kind only, and waits for the answer to such a one. -/
def Event.Confined (kind : Command → Prop) (fits : Pending → Prop) : Event Pending → Prop
  | .arrive job => ∃ questions, job.AsksAtMost kind questions
  | .enter job => ∃ questions, job.AsksAtMost kind questions
  | .resume pending next =>
    fits pending ∧ ∀ answer, ∃ questions, (next answer).AsksAtMost kind questions
  | .report _ => True
  | .stop _ => True

namespace Pool

/-- All jobs of a pool ask questions of a kind only. -/
structure Confined (kind : Command → Prop) (holds : World → Prop) (fits : Pending → Prop)
    (pool : Pool World Pending) : Prop where
  tasks : ∀ planned ∈ pool.tasks, planned.event.Confined kind fits
  world : holds pool.world

variable {desk : Desk World Pending} {kind : Command → Prop} {holds : World → Prop}
  {fits : Pending → Prop} {pool after : Pool World Pending} {job : Inquiry Finding}
  {event : Event Pending} {now time : Instant} {turn questions : Nat}

theorem Confined.plan (confined : pool.Confined kind holds fits) (event : Event Pending)
    (isConfined : event.Confined kind fits) (due : Option Instant) (turn : Nat) :
    (pool.plan due turn event).Confined kind holds fits := by
  refine ⟨fun planned member => ?_, confined.world⟩
  rw [tasks_plan] at member
  rcases Multiset.mem_cons.mp member with rfl | old
  · exact isConfined
  · exact confined.tasks planned old

theorem Confined.leave (confined : pool.Confined kind holds fits) (now : Instant) (turn : Nat) :
    (pool.leave now turn).Confined kind holds fits := by
  refine ⟨fun planned member => ?_, by rw [(leave_registry now turn pool).2]; exact confined.world⟩
  rcases tasks_leave now turn pool with same | ⟨job, others, before, left⟩
  · rw [same] at member
    exact confined.tasks planned member
  · rw [left] at member
    have tasks := confined.tasks
    rw [before] at tasks
    rcases Multiset.mem_cons.mp member with rfl | other
    · exact tasks (seat job) (Multiset.mem_cons_self _ _)
    · exact tasks planned (Multiset.mem_cons_of_mem other)

/-- The places and the registry do not matter. -/
theorem Confined.of_world (confined : pool.Confined kind holds fits) {world : World}
    (isKept : holds world) (free : Nat) (registry : Registry) :
    Confined kind holds fits { pool with free := free, registry := registry, world := world } :=
  ⟨confined.tasks, isKept⟩

variable (keeps : desk.Keeps kind holds fits)

include keeps

theorem Confined.conclude (confined : pool.Confined kind holds fits) (now : Instant) (turn : Nat)
    (result : Except AssemblyError Finding) :
    (pool.conclude desk now turn result).Confined kind holds fits := by
  have fails {pool : Pool World Pending} (confined : pool.Confined kind holds fits)
      (error : AssemblyError) :
      ((pool.leave now turn).plan (some now) (turn + 1) (.report error)).Confined kind holds fits :=
    (confined.leave now turn).plan (.report error) trivial _ _
  cases result with
  | error error => exact fails confined error
  | ok finding =>
    have said : holds (finding.line?.toList.foldl (fun world line => desk.say line world)
        pool.world) := by
      cases finding.line? with
      | none => exact confined.world
      | some line => exact keeps.say line _ confined.world
    cases recorded : pool.registry.record finding with
    | ok registry =>
      simp only [Pool.conclude, record, recorded]
      exact (confined.of_world said pool.free registry).leave now turn
    | error error =>
      simp only [Pool.conclude, record, recorded]
      exact fails (confined.of_world said pool.free pool.registry) (.duplicate error)

/-- **A job that asks only such questions** keeps its pool confined. -/
theorem Confined.pursue (confined : pool.Confined kind holds fits) (now : Instant) (turn : Nat)
    (asks : job.AsksAtMost kind questions) :
    (pool.pursue desk now turn job).Confined kind holds fits := by
  induction job generalizing pool questions with
  | settled result =>
    rw [Pool.pursue]
    exact confined.conclude keeps now turn result
  | ask command next ih =>
    cases questions with
    | zero => exact asks.elim
    | succ questions =>
      obtain ⟨isOfKind, asks⟩ := asks
      obtain ⟨isKept, waits⟩ := keeps.begin command now pool.world isOfKind confined.world
      rw [Pool.pursue]
      split
      · rename_i pending world begun
        rw [begun] at isKept waits
        exact (confined.of_world isKept pool.free pool.registry).plan (.resume pending next)
          ⟨waits pending rfl, fun answer => ⟨questions, asks answer⟩⟩ _ _
      · rename_i answer world begun
        rw [begun] at isKept
        exact ih answer (confined.of_world isKept pool.free pool.registry) (asks answer)

/-- **An event keeps a pool confined.** -/
theorem handle_confined (handled : pool.handle desk time turn event = .ok after)
    (confined : pool.Confined kind holds fits) (isConfined : event.Confined kind fits) :
    after.Confined kind holds fits := by
  cases event with
  | arrive job =>
    obtain ⟨questions, asks⟩ := isConfined
    simp only [handle] at handled
    split at handled
    · cases handled
      refine ⟨fun planned member => ?_, confined.world⟩
      rw [tasks_queue] at member
      rcases Multiset.mem_cons.mp member with rfl | old
      · exact ⟨questions, asks⟩
      · exact confined.tasks planned old
    · rename_i free _
      cases handled
      exact (confined.of_world confined.world free pool.registry).pursue keeps time turn asks
  | enter job =>
    obtain ⟨questions, asks⟩ := isConfined
    cases handled
    exact confined.pursue keeps time turn asks
  | resume pending next =>
    obtain ⟨isFit, asks⟩ := isConfined
    obtain ⟨isKept, waits⟩ := keeps.step pending time pool.world isFit confined.world
    simp only [handle] at handled
    split at handled
    · rename_i other world stepped
      rw [stepped] at isKept waits
      cases handled
      exact (confined.of_world isKept pool.free pool.registry).plan (.resume other next)
        ⟨waits other rfl, asks⟩ _ _
    · rename_i answer world stepped
      rw [stepped] at isKept
      cases handled
      obtain ⟨questions, asks⟩ := asks answer
      exact (confined.of_world isKept pool.free pool.registry).pursue keeps time turn asks
  | report error =>
    cases handled
    exact confined.plan (.stop error) trivial _ _
  | stop error => cases handled

/-- Giving up all questions keeps the world. -/
theorem abandon_holds (confined : pool.Confined kind holds fits) (now : Instant) :
    holds (pool.abandon desk now) := by
  rw [abandon]
  have isKept := confined.world
  generalize pool.world = world at isKept
  induction pool.agenda generalizing world with
  | nil => exact isKept
  | cons planned rest ih =>
    refine ih _ ?_
    rw [giveUp]
    split
    · exact keeps.cancel _ _ _ isKept
    · exact isKept

/-- **The world is kept until a pool ends**, whatever comes of it. -/
theorem finish_holds (fuel : Nat) (now : Instant) (confined : pool.Confined kind holds fits) :
    holds (finish desk fuel now pool).2 := by
  have pop {pool : Pool World Pending} {planned : Planned Pending} {rest : List (Planned Pending)}
      (confined : pool.Confined kind holds fits) (next : pool.agenda = planned :: rest) :
      planned.event.Confined kind fits ∧ Confined kind holds fits { pool with agenda := rest } := by
    obtain ⟨tasks, isKept⟩ := confined
    rw [tasks_of_agenda next] at tasks
    exact ⟨tasks planned (Multiset.mem_cons_self _ _),
      fun other member => tasks other (Multiset.mem_cons_of_mem member), isKept⟩
  fun_induction finish desk fuel now pool with
  | case1 => exact confined.world
  | case2 now pool time turn event rest fuel next error handled =>
    exact abandon_holds keeps (pop confined next).2 time
  | case3 now pool time turn event rest fuel next after handled ih =>
    obtain ⟨isConfined, confined⟩ := pop confined next
    exact ih (handle_confined keeps handled confined isConfined)
  | case4 _ now pool => exact abandon_holds keeps confined now

/-- **A run of jobs that ask only such questions keeps the world.** -/
theorem run_holds {jobs : List (Inquiry Finding)} {world : World} (places : Nat) (now : Instant)
    (asks : ∀ job ∈ jobs, job.AsksAtMost kind questions) (isKept : holds world) :
    holds (run desk places questions jobs now world).2 := by
  refine finish_holds keeps _ now ⟨fun planned member => ?_, isKept⟩
  simp only [tasks, ofJobs, List.map_nil, Multiset.coe_nil, Multiset.add_zero,
    Multiset.mem_coe] at member
  obtain ⟨job, isJob, rfl⟩ := List.mem_map.mp member
  exact ⟨questions, asks job isJob⟩

end Pool

/-! ### Programs -/

/-- **A program that is asked such questions** starts processes for them only. -/
theorem Desk.keeps_ofTool (tool : Tool) (policy : Policy) (kind : Command → Prop) :
    (Desk.ofTool tool policy).Keeps kind (Session.Asked kind) fun pending =>
      ∃ command, kind command ∧ pending.2.args = command.args := by
  have replied {command asked : Command} {session : Session} {came : Progress × Session}
      (isOfKind : kind asked) (isKept : session.Asked kind)
      (adds : Call.Adds asked.args session came) :
      came.2.Asked kind ∧ ∀ pending, command.reply came.1 = .waiting pending →
        ∃ command, kind command ∧ pending.2.args = command.args := by
    obtain ⟨⟨count, calls⟩, keeps⟩ := adds
    refine ⟨isKept.add isOfKind calls, fun pending waits => ?_⟩
    cases same : came.1 with
    | waiting call =>
      rw [same] at waits
      cases waits
      exact ⟨asked, isOfKind, keeps call same⟩
    | ended result =>
      rw [same] at waits
      cases waits
  constructor
  · intro command now session isOfKind isKept
    exact replied isOfKind isKept (Call.begin_adds command.args tool policy now session)
  · rintro ⟨command, call⟩ now session ⟨asked, isOfKind, args⟩ isKept
    have adds := Call.step_adds call tool policy now session
    rw [show call.args = asked.args from args] at adds
    exact replied isOfKind isKept adds
  · intro pending now session isKept
    exact isKept.of_same (Call.calls_cancel pending.2 now session)
  · exact fun line session isKept => isKept.of_same (session.calls_say line)

end TypeSchema
