/-
**The moments of a pool, from its beginning to its end.**

* `Pool.history`: the moments of a pool in their order, and the pool that is left;
* `Lives`: the ways in which a pool goes on, moment by moment. It is done, or stopped by a failure, or
  waits for ever;
* `lives_run`: **the events of a run are enough for it**, so that its history is among them;
* `Lives.seated`, `Lives.counted`: what holds of the places and of the jobs at each moment;
* `Lives.completes`: **a pool that is done** has ended each job once, with one of its findings.
-/

import TypeSchema.Proofs.Assembly.Moment
import TypeSchema.Proofs.Assembly.Outcome

namespace TypeSchema

variable {World Pending : Type}

namespace Moment

/-- The pool with the event that happens. -/
def before (moment : Moment World Pending) : Pool World Pending :=
  { moment.pool with
    agenda := ⟨some moment.time, moment.turn, moment.event⟩ :: moment.pool.agenda }

end Moment

/-- The moments of a pool in their order, and the pool that is left. -/
def Pool.history (desk : Desk World Pending) :
    (fuel : Nat) → Pool World Pending → List (Moment World Pending) × Pool World Pending
  | fuel, pool =>
    match pool.agenda, fuel with
    | ⟨some time, turn, event⟩ :: rest, fuel + 1 =>
      let moment : Moment World Pending := ⟨time, turn, event, { pool with agenda := rest }⟩
      match moment.handled desk with
      | .error _ => ([moment], moment.pool)
      | .ok after =>
        let (moments, left) := history desk fuel after
        (moment :: moments, left)
    | _, _ => ([], pool)

/-- The ways in which a pool goes on from an instant: its moments, the pool that is left, and what
comes of it. -/
inductive Lives (desk : Desk World Pending) :
    Instant → Pool World Pending → List (Moment World Pending) → Pool World Pending →
      Except AssemblyError Registry × World → Prop
  /-- Everything is done. -/
  | done {now : Instant} {pool : Pool World Pending} (idle : pool.agenda = []) :
    Lives desk now pool [] pool (.ok pool.registry, pool.world)
  /-- Nothing more is due. -/
  | stuck {now : Instant} {pool : Pool World Pending} {planned : Planned Pending}
    {rest : List (Planned Pending)} (next : pool.agenda = planned :: rest)
    (never : planned.time = none) :
    Lives desk now pool [] pool (.error (.run .endless), pool.abandon desk now)
  /-- A failure stops all jobs. -/
  | stopped {now : Instant} {pool : Pool World Pending} {moment : Moment World Pending}
    {error : AssemblyError} (opens : moment.before = pool)
    (stops : moment.handled desk = .error error) :
    Lives desk now pool [moment] moment.pool
      (.error error, moment.pool.abandon desk moment.time)
  | goesOn {now : Instant} {pool after left : Pool World Pending} {moment : Moment World Pending}
    {moments : List (Moment World Pending)} {outcome : Except AssemblyError Registry × World}
    (opens : moment.before = pool) (handled : moment.handled desk = .ok after)
    (rest : Lives desk moment.time after moments left outcome) :
    Lives desk now pool (moment :: moments) left outcome

namespace Pool

variable {desk : Desk World Pending} {kind : Command → Prop} {questions fuel : Nat}
  {now : Instant} {pool : Pool World Pending}

theorem history_before (moment : Moment World Pending) (fuel : Nat) :
    history desk (fuel + 1) moment.before =
      match moment.handled desk with
      | .error _ => ([moment], moment.pool)
      | .ok after => (moment :: (history desk fuel after).1, (history desk fuel after).2) := by
  rfl

theorem finish_before (moment : Moment World Pending) (fuel : Nat) (now : Instant) :
    finish desk (fuel + 1) now moment.before =
      match moment.handled desk with
      | .error error => (.error error, moment.pool.abandon desk moment.time)
      | .ok after => finish desk fuel moment.time after := by
  rfl

section

variable (paced : ∀ command, kind command → ∀ now world,
  desk.ComesWithin False desk.bound now (desk.begin command now world).1)

include paced

/-- What happens with enough fuel. -/
theorem lives_finish (lasts : LastAtMost desk False kind pool.tasks fuel) :
    Lives desk now pool (history desk fuel pool).1 (history desk fuel pool).2
      (finish desk fuel now pool) := by
  induction fuel generalizing now pool with
  | zero =>
    obtain ⟨free, waiting, agenda, registry, world⟩ := pool
    cases agenda with
    | nil => exact .done rfl
    | cons planned rest =>
      rw [tasks_of_agenda rfl, lastAtMost_cons_iff] at lasts
      obtain ⟨cost, _, took, -, enough⟩ := lasts
      have positive := took.pos
      omega
  | succ fuel ih =>
    obtain ⟨free, waiting, agenda, registry, world⟩ := pool
    cases agenda with
    | nil => exact .done rfl
    | cons planned rest =>
      obtain ⟨time | time, turn, event⟩ := planned
      · exact .stuck rfl rfl
      rw [tasks_of_agenda rfl, lastAtMost_cons_iff] at lasts
      obtain ⟨cost, left, took, others, enough⟩ := lasts
      let moment : Moment World Pending :=
        ⟨time, turn, event, ⟨free, waiting, rest, registry, world⟩⟩
      change Lives desk now moment.before (history desk (fuel + 1) moment.before).1
        (history desk (fuel + 1) moment.before).2 (finish desk (fuel + 1) now moment.before)
      rw [history_before, finish_before]
      cases handled : moment.handled desk with
      | error error => exact .stopped rfl handled
      | ok after =>
        obtain ⟨less, fewer, lasts⟩ := handle_lasts paced handled others took
        exact .goesOn rfl handled (ih (lasts.mono (by omega)))

/-- **The events of a run are enough for it.** -/
theorem lives_run {jobs : List (Inquiry Finding)} (places : Nat) (now : Instant) (world : World)
    (asks : ∀ job ∈ jobs, job.AsksAtMost kind questions) :
    let fuel := jobs.length * (questions * (desk.bound + 1) + 4)
    let start : Pool World Pending := ofJobs places jobs now world
    Lives desk now start (history desk fuel start).1 (history desk fuel start).2
      (run desk places questions jobs now world) :=
  lives_finish paced (lastAtMost_ofJobs desk False places now world asks)

end

end Pool

/-! ### Places and jobs -/

section

variable {desk : Desk World Pending} {now : Instant} {pool left : Pool World Pending}
  {moments earlier later : List (Moment World Pending)} {moment : Moment World Pending}
  {outcome : Except AssemblyError Registry × World} {places : Nat}

namespace Moment

theorem remaining_before (desk : Desk World Pending) (moment : Moment World Pending) :
    moment.before.remaining = moment.underWay desk + moment.ahead desk := by
  rw [underWay_add_ahead, Pool.remaining_eq_countP, Pool.remaining_eq_countP,
    Pool.tasks_of_agenda rfl, Multiset.countP_cons]
  rfl

/-- A job whose turn it is has a place, or takes one that is free. -/
theorem underWay_le (seated : moment.before.Seated places 0) :
    moment.underWay desk ≤ places := by
  obtain ⟨count, -⟩ := seated.pop rfl
  rw [underWay, Pool.seats]
  obtain ⟨time, turn, event, pool⟩ := moment
  cases event with
  | arrive job =>
    by_cases full : pool.free = 0 <;> simp [course?, full, Pool.isSeated, before] at count ⊢ <;> omega
  | enter job => simp [course?, Pool.isSeated, before] at count ⊢; omega
  | resume pending next => simp [course?, Pool.isSeated, before] at count ⊢; omega
  | report error => simp [course?, Pool.isSeated, before] at count ⊢; omega
  | stop error => simp [course?, Pool.isSeated, before] at count ⊢; omega

end Moment

namespace Lives

/-- **At no moment do more jobs have a place than there are places.** -/
theorem bounded (lives : Lives desk now pool moments left outcome)
    (seated : pool.Seated places 0) :
    (∀ moment ∈ moments, moment.underWay desk ≤ places) ∧ left.seats ≤ places := by
  have few {pool : Pool World Pending} (seated : pool.Seated places 0) : pool.seats ≤ places := by
    obtain ⟨count, -⟩ := seated
    rw [Pool.seats]
    omega
  induction lives with
  | done => exact ⟨by simp, few seated⟩
  | stuck => exact ⟨by simp, few seated⟩
  | stopped opens stops =>
    subst opens
    refine ⟨fun moment member => ?_, ?_⟩
    · rw [List.mem_singleton.mp member]
      exact Moment.underWay_le seated
    · obtain ⟨count, -⟩ := seated.pop rfl
      rw [Pool.seats]
      simp only [Moment.before] at count
      omega
  | goesOn opens handled _ ih =>
    subst opens
    obtain ⟨bounded, leaves⟩ := ih (Pool.handle_seated handled (seated.pop rfl))
    exact ⟨List.forall_mem_cons.mpr ⟨Moment.underWay_le seated, bounded⟩, leaves⟩

/-- The event that stops all jobs is not one of a job. -/
theorem end?_of_stops {error : AssemblyError} (stops : moment.handled desk = .error error) :
    moment.event = .stop error ∧ moment.end? desk = none := by
  cases found : moment.course? desk with
  | some course =>
    rw [Pool.handled_of_course found] at stops
    cases stops
  | none =>
    refine ⟨?_, by rw [Moment.end?, found]⟩
    obtain ⟨time, turn, event, pool⟩ := moment
    cases event with
    | arrive job =>
      simp only [Moment.handled, Pool.handle] at stops
      split at stops <;> cases stops
    | enter => cases found
    | resume => cases found
    | report => cases stops
    | stop => cases stops; rfl

/-- **A job is under way, or still to come, or has ended once.** -/
theorem counted (lives : Lives desk now pool moments left outcome) :
    (∀ earlier moment later, moments = earlier ++ moment :: later →
      moment.underWay desk + moment.ahead desk + (earlier.filterMap (Moment.end? desk)).length =
        pool.remaining) ∧
    left.remaining + (moments.filterMap (Moment.end? desk)).length = pool.remaining := by
  induction lives with
  | done => simp
  | stuck => simp
  | @stopped now pool moment error opens stops =>
    subst opens
    obtain ⟨isStop, none⟩ := end?_of_stops stops
    refine ⟨fun earlier other later parts => ?_, ?_⟩
    · obtain ⟨rfl, rfl⟩ : earlier = [] ∧ other = moment := by
        cases earlier with
        | nil => exact ⟨rfl, (List.cons.inj parts).1.symm⟩
        | cons => simp at parts
      exact (Moment.remaining_before desk other).symm
    · rw [Moment.remaining_before desk, Moment.underWay_add_ahead, isStop,
        List.filterMap_cons_none none]
      rfl
  | @goesOn now pool after left moment moments outcome opens handled _ ih =>
    subst opens
    obtain ⟨each, last⟩ := ih
    -- One end more, or none.
    have ends := (Pool.handled_makes handled).remaining
    rw [← Moment.underWay_add_ahead desk, ← Moment.remaining_before] at ends
    have counts (others : List (Moment World Pending)) :
        ((moment :: others).filterMap (Moment.end? desk)).length =
          (others.filterMap (Moment.end? desk)).length +
            if (moment.end? desk).isSome then 1 else 0 := by
      cases found : moment.end? desk <;> simp [found]
    refine ⟨fun earlier other later parts => ?_, by rw [counts]; omega⟩
    cases earlier with
    | nil =>
      obtain ⟨rfl, rfl⟩ := List.cons.inj parts
      exact (Moment.remaining_before desk moment).symm
    | cons first between =>
      obtain ⟨rfl, isLater⟩ := List.cons.inj parts
      have later := each between other later isLater
      rw [counts]
      omega

/-- **A pool that is done** has ended each job once, with a finding that it may come to, and has
taken these findings down. -/
theorem completes {registry : Registry} (lives : Lives desk now pool moments left outcome)
    (positive : 1 ≤ places) (seated : pool.Seated places 0) (ends : outcome.1 = .ok registry) :
    left.remaining = 0 ∧
      ∃ findings : List Finding, moments.filterMap (Moment.end? desk) = findings.map .ok ∧
        Multiset.Rel (fun results finding => .ok finding ∈ results) (pool.results desk) findings ∧
        registry.added = pool.registry.added ++ findings.filterMap Finding.added? := by
  induction lives with
  | @done now pool idle =>
    cases ends
    have nobody := seated.nobody_waits positive idle
    refine ⟨?_, [], rfl, ?_, (List.append_nil _).symm⟩
    · rw [Pool.remaining, Pool.seats, Pool.coming, idle, nobody]
      rfl
    · rw [Pool.results, Pool.tasks, idle, nobody]
      exact .zero
  | stuck => cases ends
  | stopped => cases ends
  | @goesOn now pool after left moment moments outcome opens handled _ ih =>
    subst opens
    obtain ⟨none, findings, all, found, entries⟩ :=
      ih (Pool.handle_seated handled (seated.pop rfl)) ends
    have before : moment.before.results desk = moment.results desk ::ₘ moment.pool.results desk :=
      Pool.results_of_agenda rfl
    refine ⟨none, ?_⟩
    rw [before]
    rcases (Pool.handled_makes handled).results with
      ⟨noEnd, same, fewer, subset, rest⟩ | ⟨finding, isEnd, isFinding, recorded, rest⟩ |
        ⟨error, isEnd, rest⟩
    · rw [rest] at found
      obtain ⟨finding, others, isFinding, related, parts⟩ := Multiset.rel_cons_left.mp found
      refine ⟨findings, by rw [List.filterMap_cons_none noEnd, all], ?_, by rw [entries, same]; rfl⟩
      rw [parts]
      exact related.cons (subset isFinding)
    · refine ⟨finding :: findings, by rw [List.filterMap_cons_some isEnd, all]; rfl, ?_, ?_⟩
      · rw [← Multiset.cons_coe, ← rest]
        exact found.cons isFinding
      · rw [entries, (Registry.record_eq_ok recorded).1, List.append_assoc]
        cases finding <;> rfl
    · -- What has failed comes to no finding.
      rw [rest] at found
      obtain ⟨finding, _, impossible, _⟩ := Multiset.rel_cons_left.mp found
      cases impossible

end Lives

end

end TypeSchema
