/-
**The jobs and the places of a pool.**

* `Registry.record_eq_ok`, `record_eq_error`: a finding is taken down unless its name is taken;
* `Pool.tasks`, `Pool.results`: what is still to come, and for each job that is not done yet the
  results that it may come to;
* `Pool.Serves`: what a step makes of one job. It goes on with fewer possible results, or ends with
  one of them that is taken down, or clashes with an entry of the same name;
* `Pool.Seated`: every place is free or taken, and nobody waits while one is free;
* `handle_serves`, `handle_seated`: **an event serves its job** and keeps the places in order.
-/

import Mathlib.Data.Multiset.AddSub
import Mathlib.Data.Multiset.MapFold
import TypeSchema.Assembly.Pool
import TypeSchema.Proofs.Assembly.Desk
import TypeSchema.Proofs.Assembly.Inquiry
import TypeSchema.Proofs.Registry.Order

namespace TypeSchema

/-! ### Findings that are taken down -/

/-- The entry that a finding makes. -/
def Finding.added? : Finding → Option TypeEntry
  | entry found => some found
  | skipped _ _ => none

namespace Registry

variable {registry after : Registry} {finding : Finding}

theorem contains_iff {name : String} : registry.contains name ↔ name ∈ registry.taken := by
  simp [contains, get?, taken, List.find?_isSome]

theorem record_eq_ok (recorded : registry.record finding = .ok after) :
    after.added = registry.added ++ finding.added?.toList ∧
      (registry.taken.Nodup → after.taken.Nodup) := by
  cases finding with
  | skipped =>
    cases recorded
    simp [Finding.added?]
  | entry entry =>
    simp only [record, add] at recorded
    split at recorded
    · cases recorded
    · rename_i fresh
      rw [contains_iff] at fresh
      cases recorded
      refine ⟨rfl, fun distinct => ?_⟩
      simp only [taken, List.map_append, List.map_singleton]
      exact List.nodup_append_comm.mp (List.nodup_cons.mpr ⟨fresh, distinct⟩)

theorem record_eq_error {error : DuplicateType} (refused : registry.record finding = .error error) :
    ∃ entry, finding = .entry entry ∧ registry.contains entry.name ∧ error = ⟨entry.name⟩ := by
  cases finding with
  | skipped => cases refused
  | entry entry =>
    simp only [record, add] at refused
    split at refused
    · cases refused
      exact ⟨entry, rfl, ‹_›, rfl⟩
    · cases refused

end Registry

variable {World Pending : Type}

/-! ### What is still to come -/

/-- The results that a job may come to. -/
def Desk.results (desk : Desk World Pending) (job : Inquiry Finding) :
    Set (Except AssemblyError Finding) :=
  {result | job.Yields desk.MayAnswer result}

/-- The results that the job of an event may come to. Of a failure that is on its way nothing else
can come. -/
def Planned.results (desk : Desk World Pending) (planned : Planned Pending) :
    Set (Except AssemblyError Finding) :=
  match planned.event, planned.time with
  | .arrive job, _ => desk.results job
  | .enter job, _ => desk.results job
  | .resume pending next, some time => {result | ∃ world answer,
      desk.Gives time (desk.step pending time world).1 answer ∧
        (next answer).Yields desk.MayAnswer result}
  | .resume _ _, none => ∅
  | .report error, _ => {.error error}
  | .stop error, _ => {.error error}

namespace Pool

/-- The event of a job that waits for a place, as if it had got one. -/
def seat (job : Inquiry Finding) : Planned Pending := ⟨some 0, 0, .enter job⟩

/-- What is still to come: the events, and the jobs that wait for a place. -/
def tasks (pool : Pool World Pending) : Multiset (Planned Pending) :=
  (pool.agenda : Multiset (Planned Pending)) + (pool.waiting.map seat : List (Planned Pending))

/-- For each job that is not done yet, the results that it may come to. -/
def results (desk : Desk World Pending) (pool : Pool World Pending) :
    Multiset (Set (Except AssemblyError Finding)) :=
  pool.tasks.map (Planned.results desk)

variable {desk : Desk World Pending} {pool after : Pool World Pending} {now time : Instant}
  {turn : Nat} {job : Inquiry Finding} {event : Event Pending}

theorem insert_perm (new : Planned Pending) (agenda : List (Planned Pending)) :
    (insert new agenda).Perm (new :: agenda) := by
  induction agenda with
  | nil => rfl
  | cons old rest ih =>
    rw [insert]
    split
    · rfl
    · exact (ih.cons old).trans (List.Perm.swap new old rest)

theorem tasks_plan (time : Option Instant) (turn : Nat) (event : Event Pending)
    (pool : Pool World Pending) : (pool.plan time turn event).tasks = ⟨time, turn, event⟩ ::ₘ
      pool.tasks := by
  rw [tasks, plan, Multiset.coe_eq_coe.mpr (insert_perm _ _), ← Multiset.cons_coe,
    Multiset.cons_add]
  rfl

theorem tasks_of_waiting {rest : List (Inquiry Finding)} (waits : pool.waiting = job :: rest) :
    pool.tasks = seat job ::ₘ { pool with waiting := rest }.tasks := by
  simp only [tasks, waits, List.map_cons, ← Multiset.cons_coe, Multiset.add_cons]

/-- A job that waits for a place is still to come. -/
theorem tasks_queue (job : Inquiry Finding) (pool : Pool World Pending) :
    { pool with waiting := pool.waiting ++ [job] }.tasks = seat job ::ₘ pool.tasks := by
  rw [tasks, List.map_append, ← Multiset.coe_add, ← Multiset.add_assoc, Multiset.add_comm]
  rfl

/-- Handing a place on changes only where a job waits. -/
theorem tasks_leave (now : Instant) (turn : Nat) (pool : Pool World Pending) :
    (pool.leave now turn).tasks = pool.tasks ∨
      ∃ job others, pool.tasks = seat job ::ₘ others ∧
        (pool.leave now turn).tasks = ⟨some now, turn + 1, .enter job⟩ ::ₘ others := by
  rw [leave]
  split
  · exact .inl rfl
  · rename_i job rest waits
    exact .inr ⟨job, _, tasks_of_waiting waits, tasks_plan _ _ _ _⟩

/-! ### The results of jobs -/

@[simp] theorem results_plan (time : Option Instant) (turn : Nat) (event : Event Pending)
    (pool : Pool World Pending) : (pool.plan time turn event).results desk =
      Planned.results desk ⟨time, turn, event⟩ ::ₘ pool.results desk := by
  rw [Pool.results, tasks_plan, Multiset.map_cons]
  rfl

@[simp] theorem results_leave (now : Instant) (turn : Nat) (pool : Pool World Pending) :
    (pool.leave now turn).results desk = pool.results desk := by
  rcases tasks_leave now turn pool with same | ⟨job, others, before, left⟩
  · rw [Pool.results, same]
    rfl
  · rw [Pool.results, Pool.results, before, left, Multiset.map_cons, Multiset.map_cons]
    rfl

theorem leave_registry (now : Instant) (turn : Nat) (pool : Pool World Pending) :
    (pool.leave now turn).registry = pool.registry ∧
      (pool.leave now turn).world = pool.world := by
  rw [leave]
  split <;> exact ⟨rfl, rfl⟩

/-! ### What an event makes of its job -/

section Results

variable {printed : World → List String} {results : Set (Except AssemblyError Finding)}

/-- What a step makes of one job, among the others. -/
inductive Serves (desk : Desk World Pending) (printed : World → List String)
    (results : Set (Except AssemblyError Finding)) (before after : Pool World Pending) : Prop where
  /-- The job goes on. -/
  | goesOn (left : Set (Except AssemblyError Finding)) (fewer : left ⊆ results)
      (rest : after.results desk = left ::ₘ before.results desk)
      (registry : after.registry = before.registry)
      (lines : printed after.world = printed before.world)
  /-- Its finding is taken down. -/
  | ends (finding : Finding) (found : .ok finding ∈ results)
      (rest : after.results desk = before.results desk)
      (recorded : before.registry.record finding = .ok after.registry)
      (lines : printed after.world = printed before.world ++ finding.line?.toList)
  /-- The name of its entry is taken. -/
  | clashes (entry : TypeEntry) (found : .ok (.entry entry) ∈ results)
      (taken : before.registry.contains entry.name)
      (rest : after.results desk = {.error (.duplicate ⟨entry.name⟩)} ::ₘ before.results desk)
      (registry : after.registry = before.registry)
      (lines : printed after.world = printed before.world)

theorem Serves.mono {more : Set (Except AssemblyError Finding)}
    (serves : Serves desk printed results pool after) (fewer : results ⊆ more) :
    Serves desk printed more pool after := by
  cases serves with
  | goesOn left subset rest registry lines =>
    exact .goesOn left (subset.trans fewer) rest registry lines
  | ends finding found rest recorded lines =>
    exact .ends finding (fewer found) rest recorded lines
  | clashes entry found taken rest registry lines =>
    exact .clashes entry (fewer found) taken rest registry lines

/-- A step serves a job also if something else of the pool was different before. -/
theorem Serves.of_before {start : Pool World Pending} (serves : Serves desk printed results start after)
    (rest : start.results desk = pool.results desk) (registry : start.registry = pool.registry)
    (silent : printed start.world = printed pool.world) :
    Serves desk printed results pool after := by
  cases serves with
  | goesOn left subset rest' registry' lines =>
    exact .goesOn left subset (rest'.trans (congrArg _ rest)) (registry'.trans registry)
      (lines.trans silent)
  | ends finding found rest' recorded lines =>
    exact .ends finding found (rest'.trans rest) (registry ▸ recorded)
      (lines.trans (congrArg (· ++ _) silent))
  | clashes entry found taken rest' registry' lines =>
    exact .clashes entry found (registry ▸ taken) (rest'.trans (congrArg _ rest))
      (registry'.trans registry) (lines.trans silent)

/-- **A job ends.** -/
theorem conclude_serves (prints : desk.Prints printed) (now : Instant) (turn : Nat)
    (result : Except AssemblyError Finding) (pool : Pool World Pending) :
    Serves desk printed {result} pool (pool.conclude desk now turn result) := by
  cases result with
  | error error =>
    refine .goesOn {.error error} (subset_refl _) ?_ ?_ ?_
    · simp [conclude, Planned.results]
    · exact (leave_registry now turn pool).1
    · exact congrArg printed (leave_registry now turn pool).2
  | ok finding =>
    cases recorded : pool.registry.record finding with
    | ok registry =>
      simp only [conclude, record, recorded]
      refine .ends finding rfl ?_ ?_ ?_
      · exact results_leave _ _ _
      · rw [(leave_registry _ _ _).1]
        exact recorded
      · rw [(leave_registry _ _ _).2]
        cases finding with
        | entry => exact (List.append_nil _).symm
        | skipped name reason => exact prints.say name reason pool.world
    | error error =>
      obtain ⟨entry, rfl, taken, rfl⟩ := Registry.record_eq_error recorded
      simp only [conclude, record, recorded]
      refine .clashes entry rfl taken ?_ ?_ ?_
      · rw [results_plan, results_leave]
        rfl
      · exact (leave_registry _ _ _).1
      · exact congrArg printed (leave_registry _ _ _).2

theorem await_serves (printed : World → List String) (now : Instant) (turn : Nat)
    (pending : Pending) (next : Except RunError String → Inquiry Finding)
    (pool : Pool World Pending) :
    Serves desk printed
      {result | ∃ answer, desk.Gives now (.waiting pending) answer ∧
        (next answer).Yields desk.MayAnswer result}
      pool (pool.await desk now turn pending next) := by
  refine .goesOn _ ?_ (results_plan _ _ _ _) rfl rfl
  cases isDue : desk.due? pending with
  | none => exact Set.empty_subset _
  | some due =>
    rintro result ⟨world, answer, gives, comes⟩
    exact ⟨answer, .waiting isDue gives, comes⟩

/-- **A job that has a place** goes on until it waits or ends. -/
theorem pursue_serves (prints : desk.Prints printed) (now : Instant) (turn : Nat)
    (job : Inquiry Finding) (pool : Pool World Pending) :
    Serves desk printed (desk.results job) pool (pool.pursue desk now turn job) := by
  induction job generalizing pool with
  | settled result =>
    refine (conclude_serves prints now turn result pool).mono ?_
    rintro other rfl
    exact .settled other
  | ask command next ih =>
    have silent := prints.begin command now pool.world
    have may {answer : Except RunError String}
        (gives : desk.Gives now (desk.begin command now pool.world).1 answer) :
        desk.MayAnswer command answer := ⟨now, pool.world, gives⟩
    rw [pursue]
    split
    · rename_i pending world begun
      rw [begun] at silent may
      refine ((await_serves printed now turn pending next _).mono ?_).of_before rfl rfl silent
      rintro result ⟨answer, gives, comes⟩
      exact .ask (may gives) comes
    · rename_i answer world begun
      rw [begun] at silent may
      refine ((ih answer { pool with world := world }).mono ?_).of_before rfl rfl silent
      intro result comes
      exact .ask (may (.answered now answer)) comes

/-- **An event serves its job.** -/
theorem handle_serves (prints : desk.Prints printed)
    (handled : pool.handle desk time turn event = .ok after) :
    Serves desk printed (Planned.results desk ⟨some time, turn, event⟩) pool after := by
  cases event with
  | arrive job =>
    simp only [handle] at handled
    split at handled
    · cases handled
      refine .goesOn (desk.results job) (subset_refl _) ?_ rfl rfl
      rw [Pool.results, tasks_queue, Multiset.map_cons]
      rfl
    · cases handled
      exact (pursue_serves prints time turn job _).of_before rfl rfl rfl
  | enter job =>
    cases handled
    exact pursue_serves prints time turn job pool
  | resume pending next =>
    have silent := prints.step pending time pool.world
    have gives {answer : Except RunError String}
        (gives : desk.Gives time (desk.step pending time pool.world).1 answer) :
        ∃ world, desk.Gives time (desk.step pending time world).1 answer := ⟨pool.world, gives⟩
    simp only [handle] at handled
    split at handled
    · rename_i pending' world stepped
      rw [stepped] at silent gives
      cases handled
      refine ((await_serves printed time turn pending' next _).mono ?_).of_before rfl rfl silent
      rintro result ⟨answer, later, comes⟩
      obtain ⟨world, now⟩ := gives later
      exact ⟨world, answer, now, comes⟩
    · rename_i answer world stepped
      rw [stepped] at silent gives
      cases handled
      refine ((pursue_serves prints time turn (next answer) _).mono ?_).of_before rfl rfl silent
      intro result comes
      obtain ⟨world, now⟩ := gives (.answered time answer)
      exact ⟨world, answer, now, comes⟩
  | report error =>
    cases handled
    exact .goesOn _ (subset_refl _) (results_plan _ _ _ _) rfl rfl
  | stop error => cases handled

end Results

/-! ### Places -/

section Places

variable {places spare : Nat}

/-- Whether the job of an event has a place. -/
def isSeated (event : Event Pending) : Bool :=
  match event with
  | .enter _ => true
  | .resume _ _ => true
  | _ => false

/-- Every place is free, spare or taken, and nobody waits while one is free. -/
structure Seated (places spare : Nat) (pool : Pool World Pending) : Prop where
  count : pool.free + pool.agenda.countP (fun planned => isSeated planned.event) + spare = places
  queue : pool.free = 0 ∨ pool.waiting = []

theorem Seated.plan (seated : pool.Seated places spare) (time : Option Instant) (turn : Nat)
    (event : Event Pending) (stands : isSeated event = false) :
    (pool.plan time turn event).Seated places spare := by
  refine ⟨?_, seated.queue⟩
  rw [Pool.plan, (insert_perm _ _).countP_eq, List.countP_cons_of_neg (by simp [stands])]
  exact seated.count

theorem Seated.sit (seated : pool.Seated places (spare + 1)) (time : Option Instant) (turn : Nat)
    (event : Event Pending) (sits : isSeated event = true) :
    (pool.plan time turn event).Seated places spare := by
  refine ⟨?_, seated.queue⟩
  rw [Pool.plan, (insert_perm _ _).countP_eq, List.countP_cons_of_pos (by simp [sits])]
  have count := seated.count
  dsimp only
  omega

theorem Seated.leave (seated : pool.Seated places (spare + 1)) (now : Instant) (turn : Nat) :
    (pool.leave now turn).Seated places spare := by
  obtain ⟨count, queue⟩ := seated
  rw [Pool.leave]
  split
  · rename_i nobody
    exact ⟨by dsimp only; omega, .inr nobody⟩
  · rename_i job rest waits
    have full : pool.free = 0 := queue.resolve_right (by simp [waits])
    have seated : { pool with waiting := rest }.Seated places (spare + 1) := ⟨count, .inl full⟩
    exact seated.sit _ _ (.enter job) rfl

theorem Seated.pop {planned : Planned Pending} {rest : List (Planned Pending)}
    (seated : pool.Seated places 0) (next : pool.agenda = planned :: rest) :
    { pool with agenda := rest }.Seated places (if isSeated planned.event then 1 else 0) := by
  obtain ⟨count, queue⟩ := seated
  rw [next, List.countP_cons] at count
  refine ⟨?_, queue⟩
  dsimp only
  omega

theorem conclude_seated (now : Instant) (turn : Nat) (result : Except AssemblyError Finding)
    (seated : pool.Seated places (spare + 1)) :
    (pool.conclude desk now turn result).Seated places spare := by
  have changed (registry : Registry) (world : World) :
      { pool with registry := registry, world := world }.Seated places (spare + 1) :=
    ⟨seated.count, seated.queue⟩
  cases result with
  | error error => exact (seated.leave now turn).plan _ _ (.report error) rfl
  | ok finding =>
    cases recorded : pool.registry.record finding with
    | ok registry =>
      simp only [conclude, record, recorded]
      exact (changed registry _).leave now turn
    | error error =>
      simp only [conclude, record, recorded]
      exact ((changed pool.registry _).leave now turn).plan _ _ (.report _) rfl

theorem pursue_seated (now : Instant) (turn : Nat) (job : Inquiry Finding)
    (seated : pool.Seated places (spare + 1)) :
    (pool.pursue desk now turn job).Seated places spare := by
  induction job generalizing pool with
  | settled result => exact conclude_seated now turn result seated
  | ask command next ih =>
    have changed (world : World) : { pool with world := world }.Seated places (spare + 1) :=
      ⟨seated.count, seated.queue⟩
    rw [pursue]
    split
    · rename_i pending world _
      exact (changed world).sit _ _ (.resume pending next) rfl
    · exact ih _ (changed _)

/-- **An event keeps the places in order.** -/
theorem handle_seated (handled : pool.handle desk time turn event = .ok after)
    (seated : pool.Seated places (if isSeated event then 1 else 0)) :
    after.Seated places 0 := by
  cases event with
  | arrive job =>
    obtain ⟨count, queue⟩ := seated
    simp only [handle] at handled
    split at handled
    · rename_i full
      cases handled
      exact ⟨count, .inl full⟩
    · rename_i free isFree
      cases handled
      refine pursue_seated time turn job ⟨?_, .inr (queue.resolve_left (by omega))⟩
      have stands : isSeated (.arrive job : Event Pending) = false := rfl
      simp only [stands, Bool.false_eq_true, if_false, isFree] at count
      dsimp only
      omega
  | enter job =>
    cases handled
    exact pursue_seated time turn job seated
  | resume pending next =>
    have changed (world : World) : { pool with world := world }.Seated places 1 :=
      ⟨seated.count, seated.queue⟩
    simp only [handle] at handled
    split at handled
    · rename_i pending' world _
      cases handled
      exact (changed world).sit _ _ (.resume pending' next) rfl
    · cases handled
      exact pursue_seated time turn _ (changed _)
  | report error =>
    cases handled
    exact seated.plan _ _ (.stop error) rfl
  | stop error => cases handled

/-- Nobody waits when nothing more happens. -/
theorem Seated.nobody_waits (seated : pool.Seated places 0) (positive : 1 ≤ places)
    (idle : pool.agenda = []) : pool.waiting = [] := by
  obtain ⟨count, queue⟩ := seated
  rw [idle, List.countP_nil] at count
  exact queue.resolve_left (by omega)

end Places

end Pool

end TypeSchema
