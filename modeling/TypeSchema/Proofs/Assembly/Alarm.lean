/-
**The first failure of a pool.**

* `Pool.Timely`: the events to come stand in the order of their instants and turns, and none of them
  is due before the moment at which it is planned;
* `Alarmed`: the first failure is on its way, and nothing that is planned later overtakes it;
* `Alarmed.handled`: **an alarm is kept by each event** of its instant, until it stops all jobs;
* `Lives.of_failure`: **the first failure of a pool is what comes of it**, at its very instant;
* `Lives.of_no_failure`: **without a failure a pool is done**, or waits for ever.
-/

import TypeSchema.Proofs.Assembly.History

namespace TypeSchema

variable {World Pending : Type}

theorem Moment.agenda_seated (moment : Moment World Pending) :
    moment.seated.agenda = moment.pool.agenda := by
  rw [seated]
  split <;> rfl

/-! ### The order of events -/

/-- A turn of an instant comes no later than another one. -/
def InOrder (time turn time' turn' : Nat) : Prop := time < time' ∨ time = time' ∧ turn ≤ turn'

namespace InOrder

variable {time turn time' turn' time'' turn'' : Nat}

theorem trans (first : InOrder time turn time' turn') (second : InOrder time' turn' time'' turn'') :
    InOrder time turn time'' turn'' := by
  rw [InOrder] at *
  omega

theorem not_iff : ¬ InOrder time turn time' turn' ↔ time' < time ∨ time' = time ∧ turn' < turn := by
  rw [InOrder]
  omega

theorem of_not (later : ¬ InOrder time turn time' turn') : InOrder time' turn' time turn := by
  rw [InOrder] at *
  omega

theorem le (order : InOrder time turn time' turn') : time ≤ time' := by
  rw [InOrder] at order
  omega

theorem turn_le (order : InOrder time turn time turn') : turn ≤ turn' := by
  rw [InOrder] at order
  omega

theorem same (order : time ≤ time') (later : time = time' → turn ≤ turn') :
    InOrder time turn time' turn' := by
  rw [InOrder]
  omega

end InOrder

namespace Planned

/-- An event comes no later than another one that is planned after it. -/
def NotAfter (first second : Planned Pending) : Prop := second.precedes first = false

/-- An event is not due before a turn of an instant. -/
def From (now : Instant) (turn : Nat) (planned : Planned Pending) : Prop :=
  ∀ time, planned.time = some time → InOrder now turn time planned.turn

variable {first second third : Planned Pending} {now : Instant} {turn : Nat}

theorem precedes_eq_true_iff : second.precedes first = true ↔ ∃ time, second.time = some time ∧
    ∀ earlier, first.time = some earlier → ¬ InOrder earlier first.turn time second.turn := by
  obtain ⟨time | time, turn, event⟩ := first <;>
  obtain ⟨time' | time', turn', event'⟩ := second
  · simp [precedes]
  · simp [precedes]
  · simp [precedes]
  · simp only [precedes, Bool.or_eq_true, decide_eq_true_eq, Bool.and_eq_true, beq_iff_eq,
      Option.some.injEq, exists_eq_left', forall_eq', InOrder.not_iff]

theorem notAfter_iff : first.NotAfter second ↔ ∀ time, second.time = some time →
    ∃ earlier, first.time = some earlier ∧ InOrder earlier first.turn time second.turn := by
  rw [NotAfter, ← Bool.not_eq_true, precedes_eq_true_iff]
  simp only [not_exists, not_and, not_forall, not_not, exists_prop]

theorem NotAfter.trans (before : first.NotAfter second) (after : second.NotAfter third) :
    first.NotAfter third := by
  rw [notAfter_iff] at *
  intro time isTime
  obtain ⟨middle, isMiddle, order⟩ := after time isTime
  obtain ⟨earlier, isEarlier, order'⟩ := before middle isMiddle
  exact ⟨earlier, isEarlier, order'.trans order⟩

theorem notAfter_of_precedes (precedes : first.precedes second = true) :
    first.NotAfter second := by
  obtain ⟨time, isTime, order⟩ := precedes_eq_true_iff.mp precedes
  exact notAfter_iff.mpr fun time' isTime' => ⟨time, isTime, .of_not (order time' isTime')⟩

theorem notAfter_of_turn {due : Nat} {event event' : Event Pending} (order : due ≤ turn) :
    (⟨some now, due, event⟩ : Planned Pending).NotAfter ⟨some now, turn, event'⟩ :=
  notAfter_iff.mpr fun _ isTime =>
    ⟨now, rfl, .same (Nat.le_of_eq (Option.some.inj isTime)) fun _ => order⟩

/-- What is due from a moment on comes no earlier than an event of that moment. -/
theorem From.of_notAfter {event : Event Pending}
    (order : (⟨some now, turn, event⟩ : Planned Pending).NotAfter second) :
    second.From now turn := by
  intro time isTime
  obtain ⟨_, ⟨⟩, order⟩ := notAfter_iff.mp order time isTime
  exact order

end Planned

namespace Pool

variable {desk : Desk World Pending} {moment : Moment World Pending}
  {pool after : Pool World Pending} {now : Instant} {turn : Nat} {new : Planned Pending}
  {agenda early late : List (Planned Pending)}

/-- Events stand in their order, and none of them is due before a moment. -/
structure Timely (now : Instant) (turn : Nat) (agenda : List (Planned Pending)) : Prop where
  sorted : agenda.Pairwise Planned.NotAfter
  due : ∀ planned ∈ agenda, planned.From now turn

theorem mem_insert {planned : Planned Pending} :
    planned ∈ insert new agenda ↔ planned = new ∨ planned ∈ agenda := by
  rw [(insert_perm new agenda).mem_iff, List.mem_cons]

theorem sorted_insert (sorted : agenda.Pairwise Planned.NotAfter) :
    (insert new agenda).Pairwise Planned.NotAfter := by
  induction agenda with
  | nil => exact List.pairwise_singleton _ _
  | cons old rest ih =>
    obtain ⟨first, others⟩ := List.pairwise_cons.mp sorted
    rw [insert]
    split
    · rename_i precedes
      have order := Planned.notAfter_of_precedes precedes
      refine List.pairwise_cons.mpr ⟨fun planned member => ?_, sorted⟩
      rcases List.mem_cons.mp member with rfl | member
      · exact order
      · exact order.trans (first planned member)
    · rename_i order
      refine List.pairwise_cons.mpr ⟨fun planned member => ?_, ih others⟩
      rcases mem_insert.mp member with rfl | member
      · exact eq_false_of_ne_true order
      · exact first planned member

section

variable (timely : Timely now turn pool.agenda)

include timely

theorem timely_plan {time : Option Instant} {turn' : Nat} {event : Event Pending}
    (due : Planned.From now turn ⟨time, turn', event⟩) :
    Timely now turn (pool.plan time turn' event).agenda := by
  refine ⟨sorted_insert timely.sorted, fun planned member => ?_⟩
  rcases mem_insert.mp member with rfl | member
  · exact due
  · exact timely.due planned member

/-- An event of the next turn. -/
theorem timely_plan_next (event : Event Pending) :
    Timely now turn (pool.plan (some now) (turn + 1) event).agenda :=
  timely_plan timely fun _ isNow =>
    .same (Nat.le_of_eq (Option.some.inj isNow)) fun _ => Nat.le_succ turn

theorem timely_leave : Timely now turn (pool.leave now turn).agenda := by
  rw [Pool.leave]
  split
  · exact timely
  · exact timely_plan_next timely (.enter _)

theorem timely_await (pending : Pending) (next : Except RunError String → Inquiry Finding) :
    Timely now turn (pool.await desk now turn pending next).agenda := by
  refine timely_plan timely fun time isTime => ?_
  obtain ⟨due, -, rfl⟩ := Option.map_eq_some_iff.mp isTime
  refine .same (Nat.le_max_left now due) fun same => ?_
  dsimp only
  rw [if_pos (isTime.trans (congrArg some same.symm))]
  exact Nat.le_add_right _ _

end

/-- After the first event, the others are due from its moment on. -/
theorem Timely.next (timely : Timely now turn moment.before.agenda) :
    Timely moment.time moment.turn moment.pool.agenda := by
  obtain ⟨first, sorted⟩ := List.pairwise_cons.mp timely.sorted
  exact ⟨sorted, fun planned member => .of_notAfter (first planned member)⟩

/-- **An event keeps the order.** -/
theorem Timely.handled (timely : Timely now turn moment.before.agenda)
    (handled : moment.handled desk = .ok after) :
    Timely moment.time moment.turn after.agenda := by
  have rest := timely.next
  have seated : Timely moment.time moment.turn moment.seated.agenda := moment.agenda_seated ▸ rest
  cases handled_makes handled with
  | queues => exact rest
  | waits => exact timely_await seated _ _
  | finds => exact timely_leave seated
  | fails =>
    refine timely_plan_next (timely_leave ?_) _
    exact seated
  | reports => exact timely_plan_next rest _

theorem timely_ofJobs (places : Nat) (jobs : List (Inquiry Finding)) (now : Instant)
    (world : World) : Timely now 0 (ofJobs places jobs now world : Pool World Pending).agenda := by
  refine ⟨List.pairwise_map.mpr (List.pairwise_of_forall fun _ _ => ?_), fun planned member => ?_⟩
  · simp [Planned.NotAfter, Planned.precedes]
  · obtain ⟨job, -, rfl⟩ := List.mem_map.mp member
    exact fun time isTime =>
      .same (Nat.le_of_eq (Option.some.inj isTime)) fun _ => Nat.zero_le _

/-! ### Where an event is planned -/

theorem insert_split (new : Planned Pending) (agenda : List (Planned Pending)) :
    ∃ early late, agenda = early ++ late ∧ insert new agenda = early ++ new :: late := by
  induction agenda with
  | nil => exact ⟨[], [], rfl, rfl⟩
  | cons old rest ih =>
    rw [insert]
    split
    · exact ⟨[], old :: rest, rfl, rfl⟩
    · obtain ⟨early, late, rfl, inserted⟩ := ih
      exact ⟨old :: early, late, rfl, by rw [inserted]; rfl⟩

/-- An event is planned before another one, or after it. -/
theorem insert_middle (new planned : Planned Pending) (early late : List (Planned Pending)) :
    ∃ early' late', insert new (early ++ planned :: late) = early' ++ planned :: late' ∧
      (∀ other ∈ early', other = new ∨ other ∈ early) ∧
      ∀ other ∈ late', other = new ∨ other ∈ late := by
  induction early with
  | nil =>
    rw [List.nil_append, insert]
    split
    · exact ⟨[new], late, rfl, fun _ member => .inl (List.mem_singleton.mp member),
        fun _ => .inr⟩
    · exact ⟨[], insert new late, rfl, by simp, fun _ => mem_insert.mp⟩
  | cons old rest ih =>
    rw [List.cons_append, insert]
    split
    · exact ⟨new :: old :: rest, late, rfl, fun _ => List.mem_cons.mp, fun _ => .inr⟩
    · obtain ⟨early', late', inserted, isEarly, isLate⟩ := ih
      refine ⟨old :: early', late', by rw [inserted]; rfl, fun other member => ?_, isLate⟩
      rcases List.mem_cons.mp member with rfl | member
      · exact .inr List.mem_cons_self
      · exact (isEarly other member).imp_right (List.mem_cons_of_mem _)

/-- What comes no later than a new event is not overtaken by it. -/
theorem insert_after {planned : Planned Pending}
    (sorted : (early ++ planned :: late).Pairwise Planned.NotAfter)
    (order : planned.NotAfter new) :
    insert new (early ++ planned :: late) = early ++ planned :: insert new late := by
  induction early with
  | nil => rw [List.nil_append, insert, if_neg (ne_true_of_eq_false order)]; rfl
  | cons old rest ih =>
    obtain ⟨first, sorted⟩ := List.pairwise_cons.mp sorted
    have before : old.NotAfter new := (first planned (by simp)).trans order
    rw [List.cons_append, insert, if_neg (ne_true_of_eq_false before), ih sorted]
    rfl

end Pool

/-! ### Alarms -/

/-- Whether an event stops all jobs. -/
def Event.isStop : Event Pending → Bool
  | stop _ => true
  | _ => false

/-- The first failure is on its way: it is to be reported at an instant, in the next turn at the
latest, or it is reported and is to stop all jobs. -/
inductive Alarmed (error : AssemblyError) (time : Instant) (turn : Nat) :
    List (Planned Pending) → Prop
  | reported {early late : List (Planned Pending)} {due : Nat} (soon : due ≤ turn + 1)
    (jobs : ∀ other ∈ early, other.event.isJob = true)
    (going : ∀ other ∈ late, other.event.isStop = false) :
    Alarmed error time turn (early ++ ⟨some time, due, .report error⟩ :: late)
  | stopping {early late : List (Planned Pending)} {due : Nat} (soon : due ≤ turn + 1)
    (first : ∀ other ∈ early, other.event.isStop = false) :
    Alarmed error time turn (early ++ ⟨some time, due, .stop error⟩ :: late)

namespace Alarmed

variable {error : AssemblyError} {now : Instant} {turn : Nat} {new : Planned Pending}
  {agenda : List (Planned Pending)} {desk : Desk World Pending} {moment : Moment World Pending}
  {pool after : Pool World Pending}

theorem isStop_of_isJob {event : Event Pending} (isJob : event.isJob = true) :
    event.isStop = false := by
  cases event <;> first | rfl | cases isJob

theorem isJob_insert (jobs : ∀ planned ∈ agenda, planned.event.isJob = true)
    (isJob : new.event.isJob = true) :
    ∀ planned ∈ Pool.insert new agenda, planned.event.isJob = true := by
  intro planned member
  rcases Pool.mem_insert.mp member with rfl | member
  · exact isJob
  · exact jobs planned member

theorem isJob_leave {time : Instant} (jobs : ∀ planned ∈ pool.agenda, planned.event.isJob = true) :
    ∀ planned ∈ (pool.leave time turn).agenda, planned.event.isJob = true := by
  rw [Pool.leave]
  split
  · exact jobs
  · exact isJob_insert jobs rfl

/-- Jobs do not matter to an alarm. -/
theorem insert_job (alarmed : Alarmed error now turn agenda) (isJob : new.event.isJob = true) :
    Alarmed error now turn (Pool.insert new agenda) := by
  cases alarmed with
  | @reported early late due soon jobs going =>
    obtain ⟨early', late', inserted, isEarly, isLate⟩ :=
      Pool.insert_middle new ⟨some now, due, .report error⟩ early late
    rw [inserted]
    refine .reported soon (fun other member => ?_) fun other member => ?_
    · rcases isEarly other member with rfl | member
      · exact isJob
      · exact jobs other member
    · rcases isLate other member with rfl | member
      · exact isStop_of_isJob isJob
      · exact going other member
  | @stopping early late due soon first =>
    obtain ⟨early', late', inserted, isEarly, -⟩ :=
      Pool.insert_middle new ⟨some now, due, .stop error⟩ early late
    rw [inserted]
    refine .stopping soon fun other member => ?_
    rcases isEarly other member with rfl | member
    · exact isStop_of_isJob isJob
    · exact first other member

/-- Later failures do not overtake the first one. -/
theorem insert_report (alarmed : Alarmed error now turn agenda)
    (sorted : agenda.Pairwise Planned.NotAfter) (other : AssemblyError) :
    Alarmed error now turn (Pool.insert ⟨some now, turn + 1, .report other⟩ agenda) := by
  cases alarmed with
  | @reported early late due soon jobs going =>
    rw [Pool.insert_after sorted]
    · refine .reported soon jobs fun planned member => ?_
      rcases Pool.mem_insert.mp member with rfl | member
      · rfl
      · exact going planned member
    · exact Planned.notAfter_of_turn soon
  | @stopping early late due soon first =>
    obtain ⟨early', late', inserted, isEarly, -⟩ := Pool.insert_middle
      ⟨some now, turn + 1, .report other⟩ ⟨some now, due, .stop error⟩ early late
    rw [inserted]
    refine .stopping soon fun planned member => ?_
    rcases isEarly planned member with rfl | member
    · rfl
    · exact first planned member

theorem leave (alarmed : Alarmed error now turn pool.agenda) :
    Alarmed error now turn (pool.leave now turn).agenda := by
  rw [Pool.leave]
  split
  · exact alarmed
  · exact alarmed.insert_job rfl

/-- The event of a job keeps an alarm. -/
theorem of_job (alarmed : Alarmed error moment.time moment.turn moment.pool.agenda)
    (timely : Pool.Timely moment.time moment.turn moment.pool.agenda)
    (isJob : moment.event.isJob = true) (handled : moment.handled desk = .ok after) :
    Alarmed error moment.time moment.turn after.agenda := by
  have seated : Alarmed error moment.time moment.turn moment.seated.agenda :=
    moment.agenda_seated ▸ alarmed
  cases Pool.handled_makes handled with
  | queues => exact alarmed
  | waits => exact seated.insert_job rfl
  | finds => exact leave seated
  | fails =>
    refine (leave ?_).insert_report (Pool.timely_leave ?_).sorted _
    · exact seated
    · exact moment.agenda_seated ▸ timely
  | reports failure =>
    rw [failure] at isJob
    cases isJob

theorem exists_mem (alarmed : Alarmed error now turn agenda) :
    ∃ planned ∈ agenda, planned.time = some now := by
  cases alarmed with
  | reported => exact ⟨_, List.mem_append_right _ List.mem_cons_self, rfl⟩
  | stopping => exact ⟨_, List.mem_append_right _ List.mem_cons_self, rfl⟩

theorem mono {turn' : Nat} (alarmed : Alarmed error now turn agenda) (order : turn ≤ turn') :
    Alarmed error now turn' agenda := by
  cases alarmed with
  | reported soon jobs going => exact .reported (by omega) jobs going
  | stopping soon first => exact .stopping (by omega) first

/-- The alarm is due at its instant. -/
theorem time_eq (alarmed : Alarmed error now turn moment.before.agenda)
    (timely : Pool.Timely now turn moment.before.agenda) :
    moment.time = now ∧ turn ≤ moment.turn := by
  have due := timely.due _ List.mem_cons_self moment.time rfl
  suffices order : moment.time ≤ now from
    have same := Nat.le_antisymm order due.le
    ⟨same, (same ▸ due : InOrder now turn now moment.turn).turn_le⟩
  obtain ⟨planned, isIn, isTime⟩ := alarmed.exists_mem
  rcases List.mem_cons.mp isIn with rfl | later
  · exact Nat.le_of_eq (Option.some.inj isTime)
  · obtain ⟨first, -⟩ := List.pairwise_cons.mp timely.sorted
    obtain ⟨_, ⟨⟩, order⟩ := Planned.notAfter_iff.mp (first planned later) now isTime
    exact order.le

/-- **An alarm is kept by each event** of its instant, until it stops all jobs. -/
theorem handled (desk : Desk World Pending)
    (alarmed : Alarmed error now turn moment.before.agenda)
    (timely : Pool.Timely now turn moment.before.agenda) :
    moment.time = now ∧ (moment.handled desk = .error error ∨
      ∃ after, moment.handled desk = .ok after ∧
        Alarmed error now moment.turn after.agenda) := by
  obtain ⟨rfl, order⟩ := alarmed.time_eq timely
  refine ⟨rfl, ?_⟩
  have rest := timely.next
  obtain ⟨time, turn', event, pool⟩ := moment
  dsimp only at order rest ⊢
  -- A job goes on, and the alarm stays where it is.
  have goesOn (isJob : event.isJob = true) (alarmed : Alarmed error time turn' pool.agenda) :
      ∃ after, Moment.handled desk ⟨time, turn', event, pool⟩ = .ok after ∧
        Alarmed error time turn' after.agenda := by
    cases handled : Moment.handled desk ⟨time, turn', event, pool⟩ with
    | ok after => exact ⟨after, rfl, of_job alarmed rest isJob handled⟩
    | error other =>
      obtain ⟨isStop, -⟩ := Lives.end?_of_stops handled
      cases isStop
      cases isJob
  change Alarmed error time turn (⟨some time, turn', event⟩ :: pool.agenda) at alarmed
  generalize same : (⟨some time, turn', event⟩ :: pool.agenda : List (Planned Pending)) = agenda
    at alarmed
  cases alarmed with
  | @reported early late due soon jobs going =>
    cases early with
    | nil =>
      -- The failure is reported, and nobody was stopped before.
      obtain ⟨isAlarm, isRest⟩ := List.cons.inj same
      cases isAlarm
      refine .inr ⟨_, rfl, ?_⟩
      obtain ⟨early, late', parts, inserted⟩ :=
        Pool.insert_split ⟨some time, turn' + 1, .stop error⟩ pool.agenda
      rw [Pool.plan, inserted]
      refine .stopping (Nat.le_refl _) fun other member => going other ?_
      rw [← isRest, parts]
      exact List.mem_append_left _ member
    | cons head early =>
      obtain ⟨isHead, isRest⟩ := List.cons.inj same
      cases isHead
      refine .inr (goesOn (jobs _ List.mem_cons_self) ?_)
      rw [isRest]
      exact .reported (by omega) (fun other member => jobs other (List.mem_cons_of_mem _ member))
        going
  | @stopping early late due soon first =>
    cases early with
    | nil =>
      obtain ⟨isAlarm, -⟩ := List.cons.inj same
      cases isAlarm
      exact .inl rfl
    | cons head early =>
      obtain ⟨isHead, isRest⟩ := List.cons.inj same
      cases isHead
      have still (other : Planned Pending) (member : other ∈ early) :=
        first other (List.mem_cons_of_mem _ member)
      have kept : Alarmed error time turn' pool.agenda := by
        rw [isRest]
        exact .stopping (by omega) still
      cases event with
      | arrive => exact .inr (goesOn rfl kept)
      | enter => exact .inr (goesOn rfl kept)
      | resume => exact .inr (goesOn rfl kept)
      | report other =>
        -- What is reported later stops nobody before the first failure does.
        refine .inr ⟨_, rfl, ?_⟩
        have isRest : pool.agenda = early ++ ⟨some time, due, .stop error⟩ :: late := isRest
        have sorted := rest.sorted
        rw [isRest] at sorted
        change Alarmed error time turn' (Pool.insert ⟨some time, turn' + 1, .stop other⟩ pool.agenda)
        rw [isRest, Pool.insert_after sorted]
        · exact .stopping (by omega) still
        · exact Planned.notAfter_of_turn (by omega)
      | stop => cases first _ List.mem_cons_self

/-- A failure raises the alarm, if it is the first one. -/
theorem of_failure (calm : ∀ planned ∈ moment.before.agenda, planned.event.isJob = true)
    (handled : moment.handled desk = .ok after) (fails : moment.end? desk = some (.error error)) :
    Alarmed error moment.time moment.turn after.agenda := by
  have seated : ∀ planned ∈ moment.seated.agenda, planned.event.isJob = true := by
    rw [moment.agenda_seated]
    exact fun planned member => calm planned (List.mem_cons_of_mem _ member)
  cases Pool.handled_makes handled with
  | queues arrives full => simp [Moment.end?, Moment.course?, arrives, full] at fails
  | waits course => simp [Moment.end?, course] at fails
  | finds course recorded => simp [Moment.end?, course, Except.bind, Registry.accept, recorded] at fails
  | reports failure => simp [Moment.end?, Moment.course?, failure] at fails
  | @fails other result world course failed =>
    simp only [Moment.end?, course, failed, Option.some.injEq, Except.error.injEq] at fails
    subst fails
    obtain ⟨early, late, parts, inserted⟩ := Pool.insert_split
      ⟨some moment.time, moment.turn + 1, .report other⟩
      ({ moment.seated with world := world }.leave moment.time moment.turn).agenda
    have going : ∀ planned ∈ early ++ late, planned.event.isJob = true := by
      rw [← parts]
      exact isJob_leave seated
    rw [Pool.plan, inserted]
    exact .reported (Nat.le_refl _)
      (fun planned member => going planned (List.mem_append_left _ member))
      fun planned member => isStop_of_isJob (going planned (List.mem_append_right _ member))

/-- Without a failure nothing but jobs is to come. -/
theorem calm_handled (calm : ∀ planned ∈ moment.before.agenda, planned.event.isJob = true)
    (handled : moment.handled desk = .ok after)
    (fine : ∀ error, moment.end? desk ≠ some (.error error)) :
    ∀ planned ∈ after.agenda, planned.event.isJob = true := by
  have others : ∀ planned ∈ moment.pool.agenda, planned.event.isJob = true :=
    fun planned member => calm planned (List.mem_cons_of_mem _ member)
  have seated : ∀ planned ∈ moment.seated.agenda, planned.event.isJob = true :=
    moment.agenda_seated ▸ others
  cases Pool.handled_makes handled with
  | queues => exact others
  | waits => exact isJob_insert seated rfl
  | finds => exact isJob_leave seated
  | @fails error result world course failed =>
    exact (fine error (by rw [Moment.end?, course]; exact congrArg some failed)).elim
  | @reports error failure =>
    have isJob : moment.event.isJob = true := calm _ List.mem_cons_self
    rw [failure] at isJob
    cases isJob

end Alarmed

/-! ### The end of a pool -/

/-- The failure of the job of an event, with its instant. -/
def Moment.failure? (desk : Desk World Pending) (moment : Moment World Pending) :
    Option (Instant × AssemblyError) :=
  match moment.end? desk with
  | some (.error error) => some (moment.time, error)
  | _ => none

/-- The instant of the last moment. -/
def lastTime (now : Instant) : List (Moment World Pending) → Instant
  | [] => now
  | moment :: rest => lastTime moment.time rest

/-- Nothing more is due, though not everything is done. -/
def Pool.IsStuck (pool : Pool World Pending) : Prop :=
  ∃ planned rest, pool.agenda = planned :: rest ∧ planned.time = none

section

variable {desk : Desk World Pending} {moment : Moment World Pending} {time now : Instant}
  {error : AssemblyError}

theorem Moment.failure?_eq_some_iff : moment.failure? desk = some (time, error) ↔
    moment.time = time ∧ moment.end? desk = some (.error error) := by
  rw [failure?]
  split <;> simp_all

theorem Moment.failure?_eq_none_iff :
    moment.failure? desk = none ↔ ∀ error, moment.end? desk ≠ some (.error error) := by
  rw [failure?]
  split <;> simp_all

theorem lastTime_eq {moments : List (Moment World Pending)}
    (times : ∀ moment ∈ moments, moment.time = now) : lastTime now moments = now := by
  induction moments with
  | nil => rfl
  | cons moment rest ih =>
    obtain ⟨rfl, others⟩ := List.forall_mem_cons.mp times
    exact ih others

end

namespace Lives

variable {desk : Desk World Pending} {now : Instant} {turn : Nat} {error : AssemblyError}
  {pool left : Pool World Pending} {moments earlier later : List (Moment World Pending)}
  {moment : Moment World Pending} {outcome : Except AssemblyError Registry × World}

/-- Time goes on. -/
theorem le_lastTime (lives : Lives desk now pool moments left outcome)
    (timely : Pool.Timely now turn pool.agenda) : now ≤ lastTime now moments := by
  induction lives generalizing turn with
  | done => exact Nat.le_refl _
  | stuck => exact Nat.le_refl _
  | @stopped now pool moment error opens =>
    subst opens
    exact (timely.due _ List.mem_cons_self moment.time rfl).le
  | @goesOn now pool after left moment moments outcome opens handled _ ih =>
    subst opens
    exact Nat.le_trans (timely.due _ List.mem_cons_self moment.time rfl).le
      (ih (timely.handled handled))

/-- **An alarm stops all jobs**, at its very instant. -/
theorem of_alarm (lives : Lives desk now pool moments left outcome)
    (timely : Pool.Timely now turn pool.agenda) (alarmed : Alarmed error now turn pool.agenda) :
    outcome = (.error error, left.abandon desk now) ∧
      (∃ last, moments.getLast? = some last ∧ last.event = .stop error) ∧
      ∀ moment ∈ moments, moment.time = now := by
  induction lives generalizing turn with
  | @done now pool idle =>
    rw [idle] at alarmed
    obtain ⟨planned, none, -⟩ := alarmed.exists_mem
    cases none
  | @stuck now pool planned rest next never =>
    -- The event of the alarm is due.
    rw [next] at alarmed timely
    obtain ⟨alarm, isIn, isTime⟩ := alarmed.exists_mem
    rcases List.mem_cons.mp isIn with rfl | later
    · cases never.symm.trans isTime
    · obtain ⟨first, -⟩ := List.pairwise_cons.mp timely.sorted
      obtain ⟨_, isFirst, -⟩ := Planned.notAfter_iff.mp (first alarm later) now isTime
      cases never.symm.trans isFirst
  | @stopped now pool moment other opens stops =>
    subst opens
    obtain ⟨rfl, stopped | ⟨after, handled, -⟩⟩ := alarmed.handled desk timely
    · cases stops.symm.trans stopped
      exact ⟨rfl, ⟨moment, rfl, (end?_of_stops stops).1⟩,
        fun _ member => by rw [List.mem_singleton.mp member]⟩
    · cases stops.symm.trans handled
  | @goesOn now pool after left moment moments outcome opens handled _ ih =>
    subst opens
    obtain ⟨rfl, stopped | ⟨after', handled', still⟩⟩ := alarmed.handled desk timely
    · cases handled.symm.trans stopped
    · cases handled.symm.trans handled'
      obtain ⟨ends, ⟨last, isLast, isStop⟩, times⟩ := ih (timely.handled handled) still
      refine ⟨ends, ⟨last, ?_, isStop⟩, List.forall_mem_cons.mpr ⟨rfl, times⟩⟩
      rw [List.getLast?_cons, isLast]
      rfl

/-- **The first failure of a pool is what comes of it**, at its very instant. -/
theorem of_failure {time : Instant} (lives : Lives desk now pool moments left outcome)
    (timely : Pool.Timely now turn pool.agenda)
    (calm : ∀ planned ∈ pool.agenda, planned.event.isJob = true)
    (fails : moments.findSome? (Moment.failure? desk) = some (time, error)) :
    outcome = (.error error, left.abandon desk time) ∧
      (∃ last, moments.getLast? = some last ∧ last.event = .stop error) ∧
      (∀ moment ∈ moments, moment.time ≤ time) ∧ lastTime now moments = time := by
  induction lives generalizing turn with
  | done => cases fails
  | stuck => cases fails
  | @stopped now pool last other opens stops =>
    have none : last.failure? desk = none := by rw [Moment.failure?, (end?_of_stops stops).2]
    rw [List.findSome?_cons, none] at fails
    cases fails
  | @goesOn now pool after left head moments outcome opens handled rest ih =>
    subst opens
    have later := timely.handled handled
    rw [List.findSome?_cons] at fails
    cases failure : head.failure? desk with
    | some first =>
      rw [failure] at fails
      cases fails
      obtain ⟨rfl, isEnd⟩ := Moment.failure?_eq_some_iff.mp failure
      obtain ⟨ends, ⟨last, isLast, isStop⟩, times⟩ :=
        rest.of_alarm later (.of_failure calm handled isEnd)
      refine ⟨ends, ⟨last, by rw [List.getLast?_cons, isLast]; rfl, isStop⟩,
        List.forall_mem_cons.mpr ⟨Nat.le_refl _, fun moment member => Nat.le_of_eq (times moment member)⟩,
        ?_⟩
      exact lastTime_eq times
    | none =>
      rw [failure] at fails
      obtain ⟨ends, ⟨last, isLast, isStop⟩, times, isTime⟩ :=
        ih later (Alarmed.calm_handled calm handled (Moment.failure?_eq_none_iff.mp failure)) fails
      refine ⟨ends, ⟨last, by rw [List.getLast?_cons, isLast]; rfl, isStop⟩,
        List.forall_mem_cons.mpr ⟨?_, times⟩, isTime⟩
      exact isTime ▸ rest.le_lastTime later

/-- **Without a failure a pool is done**, or waits for ever. -/
theorem of_no_failure (lives : Lives desk now pool moments left outcome)
    (calm : ∀ planned ∈ pool.agenda, planned.event.isJob = true)
    (fine : moments.findSome? (Moment.failure? desk) = none) :
    (∃ registry, outcome.1 = .ok registry) ∨ left.IsStuck := by
  induction lives with
  | done => exact .inl ⟨_, rfl⟩
  | stuck next never => exact .inr ⟨_, _, next, never⟩
  | @stopped now pool moment error opens stops =>
    subst opens
    have isJob : moment.event.isJob = true := calm _ List.mem_cons_self
    rw [(end?_of_stops stops).1] at isJob
    cases isJob
  | goesOn opens handled _ ih =>
    subst opens
    obtain ⟨fineHead, fineRest⟩ := List.forall_mem_cons.mp (List.findSome?_eq_none_iff.mp fine)
    exact ih (Alarmed.calm_handled calm handled (Moment.failure?_eq_none_iff.mp fineHead))
      (List.findSome?_eq_none_iff.mpr fineRest)

end Lives

end TypeSchema
