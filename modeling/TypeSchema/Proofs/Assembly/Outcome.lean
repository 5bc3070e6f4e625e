/-
**What a pool comes to.**

* `Pool.LastAtMost`: how many more events there are at most, if questions are answered in time;
* `handle_lasts`: **an event leaves fewer events to come**;
* `Pool.Comes`, `finish_ok`: **a pool that ends well took down one possible result of every job**,
  and nothing else;
* `Pool.Fails`, `finish_error`: **a pool that fails does so with the failure of a job**, or with a
  name that two jobs claim.
-/

import Mathlib.Algebra.BigOperators.Group.Multiset.Basic
import Mathlib.Data.List.Forall2
import Mathlib.Data.Multiset.Count
import Mathlib.Data.Multiset.ZeroCons
import TypeSchema.Proofs.Assembly.Pool

namespace TypeSchema

variable {World Pending : Type}

/-! ### How many events are to come -/

/-- An event and what comes of it are at most so many events. If answers have to be `prompt`, it
takes place at some instant. -/
structure Planned.Lasts (desk : Desk World Pending) (prompt : Prop) (kind : Command → Prop)
    (planned : Planned Pending) (cost : Nat) : Prop where
  timed : prompt → planned.time.isSome
  enough :
    match planned.event with
    | .arrive job => ∃ questions, job.AsksAtMost kind questions ∧
        questions * (desk.bound + 1) + 4 ≤ cost
    | .enter job => ∃ questions, job.AsksAtMost kind questions ∧
        questions * (desk.bound + 1) + 3 ≤ cost
    | .resume pending next => ∃ steps questions,
        (∀ time, planned.time = some time → ∀ world,
          desk.ComesWithin prompt steps time (desk.step pending time world).1) ∧
          (∀ answer, (next answer).AsksAtMost kind questions) ∧
            steps + questions * (desk.bound + 1) + 3 ≤ cost
    | .report _ => 2 ≤ cost
    | .stop _ => 1 ≤ cost

theorem Planned.Lasts.pos {desk : Desk World Pending} {prompt : Prop} {kind : Command → Prop}
    {planned : Planned Pending} {cost : Nat}
    (lasts : planned.Lasts desk prompt kind cost) : 0 < cost := by
  obtain ⟨_, enough⟩ := lasts
  split at enough
  · obtain ⟨_, _, enough⟩ := enough
    omega
  · obtain ⟨_, _, enough⟩ := enough
    omega
  · obtain ⟨_, _, _, _, enough⟩ := enough
    omega
  · omega
  · omega

namespace Pool

/-- There are at most so many more events. -/
def LastAtMost (desk : Desk World Pending) (prompt : Prop) (kind : Command → Prop)
    (tasks : Multiset (Planned Pending)) (count : Nat) : Prop :=
  ∃ costs : Multiset Nat, Multiset.Rel (Planned.Lasts desk prompt kind) tasks costs ∧
    costs.sum ≤ count

variable {desk : Desk World Pending} {pool after : Pool World Pending} {now time : Instant}
  {turn cost count questions steps : Nat} {isPrompt : Prop} {job : Inquiry Finding} {event : Event Pending}
  {planned : Planned Pending} {tasks : Multiset (Planned Pending)}
  {kind : Command → Prop}

theorem lastAtMost_cons_iff : LastAtMost desk isPrompt kind (planned ::ₘ tasks) count ↔
    ∃ cost rest, planned.Lasts desk isPrompt kind cost ∧ LastAtMost desk isPrompt kind tasks rest ∧
      cost + rest ≤ count := by
  constructor
  · rintro ⟨costs, related, enough⟩
    obtain ⟨cost, rest, lasts, others, rfl⟩ := Multiset.rel_cons_left.mp related
    rw [Multiset.sum_cons] at enough
    exact ⟨cost, rest.sum, lasts, ⟨rest, others, Nat.le_refl _⟩, enough⟩
  · rintro ⟨cost, rest, lasts, ⟨costs, related, some⟩, enough⟩
    refine ⟨cost ::ₘ costs, related.cons lasts, ?_⟩
    rw [Multiset.sum_cons]
    omega

theorem LastAtMost.mono {more : Nat} (lasts : LastAtMost desk isPrompt kind tasks count)
    (order : count ≤ more) : LastAtMost desk isPrompt kind tasks more := by
  obtain ⟨costs, related, enough⟩ := lasts
  exact ⟨costs, related, enough.trans order⟩

theorem LastAtMost.plan {due : Option Instant}
    (lasts : LastAtMost desk isPrompt kind pool.tasks count)
    (new : Planned.Lasts desk isPrompt kind ⟨due, turn, event⟩ cost) :
    LastAtMost desk isPrompt kind (pool.plan due turn event).tasks (count + cost) := by
  rw [tasks_plan, lastAtMost_cons_iff]
  exact ⟨cost, count, new, lasts, Nat.le_of_eq (Nat.add_comm _ _)⟩

theorem LastAtMost.leave (lasts : LastAtMost desk isPrompt kind pool.tasks count) (now : Instant)
    (turn : Nat) :
    LastAtMost desk isPrompt kind (pool.leave now turn).tasks count := by
  rcases tasks_leave now turn pool with same | ⟨job, others, before, left⟩
  · rw [same]
    exact lasts
  · rw [before, lastAtMost_cons_iff] at lasts
    obtain ⟨cost, rest, ⟨_, entering⟩, others, enough⟩ := lasts
    rw [left, lastAtMost_cons_iff]
    exact ⟨cost, rest, ⟨fun _ => rfl, entering⟩, others, enough⟩

theorem LastAtMost.conclude (lasts : LastAtMost desk isPrompt kind pool.tasks count) (now : Instant)
    (turn : Nat)
    (result : Except AssemblyError Finding) :
    LastAtMost desk isPrompt kind (pool.conclude desk now turn result).tasks (count + 2) := by
  have fails (pool : Pool World Pending) (lasts : LastAtMost desk isPrompt kind pool.tasks count)
      (error : AssemblyError) : LastAtMost desk isPrompt kind
        ((pool.leave now turn).plan (some now) (turn + 1) (.report error)).tasks (count + 2) :=
    (lasts.leave now turn).plan ⟨fun _ => rfl, Nat.le_refl 2⟩
  cases result with
  | error error => exact fails pool lasts error
  | ok finding =>
    cases recorded : pool.registry.record finding with
    | ok registry =>
      simp only [Pool.conclude, record, recorded]
      refine (LastAtMost.leave ?_ now turn).mono (Nat.le_add_right _ _)
      exact lasts
    | error error =>
      simp only [Pool.conclude, record, recorded]
      refine fails _ ?_ (.duplicate error)
      exact lasts

theorem LastAtMost.await {pending : Pending} {next : Except RunError String → Inquiry Finding}
    (lasts : LastAtMost desk isPrompt kind pool.tasks count) (turn : Nat)
    (comes : desk.ComesWithin isPrompt steps now (.waiting pending))
    (asks : ∀ answer, (next answer).AsksAtMost kind questions) :
    LastAtMost desk isPrompt kind (pool.await desk now turn pending next).tasks
      (count + (steps + questions * (desk.bound + 1) + 2)) := by
  cases comes with
  | @waiting steps _ _ isDue later =>
    refine lasts.plan ⟨fun prompt => by simpa using isDue prompt, steps, questions, ?_, asks,
      by omega⟩
    intro time isTime world
    obtain ⟨due, found, rfl⟩ := Option.map_eq_some_iff.mp isTime
    exact later due found world

section

variable (prompt : ∀ command, kind command → ∀ now world,
  desk.ComesWithin isPrompt desk.bound now (desk.begin command now world).1)

include prompt

theorem LastAtMost.pursue (lasts : LastAtMost desk isPrompt kind pool.tasks count) (now : Instant)
    (turn : Nat) (asks : job.AsksAtMost kind questions) :
    LastAtMost desk isPrompt kind (pool.pursue desk now turn job).tasks
      (count + (questions * (desk.bound + 1) + 2)) := by
  induction job generalizing pool questions with
  | settled result =>
    rw [Pool.pursue]
    exact (lasts.conclude now turn result).mono (by omega)
  | ask command next ih =>
    cases questions with
    | zero => exact asks.elim
    | succ questions =>
      obtain ⟨isOfKind, asks⟩ := asks
      have comes := prompt command isOfKind now pool.world
      rw [Pool.pursue, Nat.succ_mul]
      split
      · rename_i pending world begun
        rw [begun] at comes
        have lasts : LastAtMost desk isPrompt kind { pool with world := world }.tasks count := lasts
        exact (lasts.await turn comes asks).mono (by omega)
      · rename_i answer world begun
        have lasts : LastAtMost desk isPrompt kind { pool with world := world }.tasks count := lasts
        exact (ih answer lasts (asks answer)).mono (by omega)

/-- **An event leaves fewer events to come.** -/
theorem handle_lasts (handled : pool.handle desk time turn event = .ok after)
    (lasts : LastAtMost desk isPrompt kind pool.tasks count)
    (took : Planned.Lasts desk isPrompt kind ⟨some time, turn, event⟩ cost) :
    ∃ less, less < cost ∧ LastAtMost desk isPrompt kind after.tasks (count + less) := by
  replace took := took.enough
  cases event with
  | arrive job =>
    obtain ⟨questions, asks, enough⟩ := took
    simp only [handle] at handled
    split at handled
    · cases handled
      refine ⟨questions * (desk.bound + 1) + 3, by omega, ?_⟩
      have waits : { pool with waiting := pool.waiting ++ [job] }.tasks =
          seat job ::ₘ pool.tasks := by
        rw [tasks, List.map_append, ← Multiset.coe_add, ← Multiset.add_assoc, Multiset.add_comm]
        rfl
      rw [waits, lastAtMost_cons_iff]
      exact ⟨_, count, ⟨fun _ => rfl, questions, asks, Nat.le_refl _⟩, lasts, by omega⟩
    · rename_i free _
      cases handled
      have lasts : LastAtMost desk isPrompt kind { pool with free := free }.tasks count := lasts
      exact ⟨_, by omega, lasts.pursue prompt time turn asks⟩
  | enter job =>
    obtain ⟨questions, asks, enough⟩ := took
    cases handled
    exact ⟨_, by omega, lasts.pursue prompt time turn asks⟩
  | resume pending next =>
    obtain ⟨steps, questions, comes, asks, enough⟩ := took
    have comes := comes time rfl pool.world
    simp only [handle] at handled
    split at handled
    · rename_i pending' world stepped
      rw [stepped] at comes
      cases handled
      have lasts : LastAtMost desk isPrompt kind { pool with world := world }.tasks count := lasts
      exact ⟨_, by omega, lasts.await turn comes asks⟩
    · rename_i answer world stepped
      cases handled
      have lasts : LastAtMost desk isPrompt kind { pool with world := world }.tasks count := lasts
      exact ⟨_, by omega, lasts.pursue prompt time turn (asks answer)⟩
  | report error =>
    cases handled
    exact ⟨1, took, lasts.plan ⟨fun _ => rfl, Nat.le_refl 1⟩⟩
  | stop error => cases handled

end

/-! ### Pools that end well -/

variable {printed : World → List String} {jobs : Multiset (Set (Except AssemblyError Finding))}
  {results : Set (Except AssemblyError Finding)} {registry : Registry} {start world : World}
  {findings : List Finding} {rest : List (Planned Pending)} {places fuel : Nat}
  {error : AssemblyError}

theorem tasks_of_agenda (next : pool.agenda = planned :: rest) :
    pool.tasks = planned ::ₘ { pool with agenda := rest }.tasks := by
  rw [tasks, next, ← Multiset.cons_coe, Multiset.cons_add, tasks]

theorem results_of_agenda (next : pool.agenda = planned :: rest) : pool.results desk =
    planned.results desk ::ₘ { pool with agenda := rest }.results desk := by
  rw [Pool.results, tasks_of_agenda next, Multiset.map_cons]
  rfl

/-- What a pool comes to that takes down one finding for each of some jobs. -/
structure Comes (printed : World → List String)
    (jobs : Multiset (Set (Except AssemblyError Finding))) (pool : Pool World Pending)
    (registry : Registry) (world : World) (findings : List Finding) : Prop where
  found : Multiset.Rel (fun results finding => .ok finding ∈ results) jobs findings
  entries : registry.added = pool.registry.added ++ findings.filterMap Finding.added?
  distinct : pool.registry.taken.Nodup → registry.taken.Nodup
  lines : printed world = printed pool.world ++ findings.filterMap Finding.line?

/-- Before a step that serves a job, a pool comes to a finding for that job too. -/
theorem Serves.comes (serves : Serves desk printed results pool after)
    (comes : after.Comes printed (after.results desk) registry world findings) :
    ∃ findings, pool.Comes printed (results ::ₘ pool.results desk) registry world findings := by
  obtain ⟨found, entries, distinct, lines⟩ := comes
  cases serves with
  | goesOn left fewer rest sameRegistry sameLines =>
    rw [rest] at found
    rw [sameRegistry] at entries distinct
    rw [sameLines] at lines
    obtain ⟨finding, others, foundLeft, related, parts⟩ := Multiset.rel_cons_left.mp found
    refine ⟨findings, ?_, entries, distinct, lines⟩
    rw [parts]
    exact related.cons (fewer foundLeft)
  | ends finding foundHere rest recorded moreLines =>
    obtain ⟨added, keeps⟩ := Registry.record_eq_ok recorded
    refine ⟨finding :: findings, ?_, ?_, distinct ∘ keeps, ?_⟩
    · rw [← Multiset.cons_coe, ← rest]
      exact found.cons foundHere
    · rw [entries, added, List.append_assoc]
      cases finding <;> rfl
    · rw [lines, moreLines, List.append_assoc]
      cases finding <;> rfl
  | clashes entry _ _ rest =>
    rw [rest] at found
    obtain ⟨finding, _, impossible, _⟩ := Multiset.rel_cons_left.mp found
    cases impossible

/-- **A pool that ends well** took down one possible result of every job. -/
theorem finish_ok (prints : desk.Prints printed) (positive : 1 ≤ places)
    (seated : pool.Seated places 0) (ends : finish desk fuel now pool = (.ok registry, world)) :
    ∃ findings, pool.Comes printed (pool.results desk) registry world findings := by
  fun_induction finish desk fuel now pool with
  | case1 fuel now pool idle =>
    cases ends
    have none : pool.results desk = 0 := by
      rw [Pool.results, tasks, idle, seated.nobody_waits positive idle]
      rfl
    rw [none]
    exact ⟨[], .zero, (List.append_nil _).symm, id, (List.append_nil _).symm⟩
  | case2 => cases ends
  | case3 fuel now pool time turn event rest next after handled ih =>
    obtain ⟨findings, comes⟩ := ih (handle_seated handled (seated.pop next)) ends
    obtain ⟨findings, comes⟩ := (handle_serves prints handled).comes comes
    rw [results_of_agenda next]
    exact ⟨findings, comes.found, comes.entries, comes.distinct, comes.lines⟩
  | case4 => cases ends

/-! ### Pools that fail -/

/-- Whether a job may come to an entry of a name. -/
def Claims (name : String) (results : Set (Except AssemblyError Finding)) : Prop :=
  ∃ entry, .ok (.entry entry) ∈ results ∧ entry.name = name

open Classical in
/-- How many entries of a name there are, or may be. -/
noncomputable def claimants (name : String) (jobs : Multiset (Set (Except AssemblyError Finding)))
    (registry : Registry) : Nat :=
  registry.taken.count name + jobs.countP (Claims name)

/-- Why a pool may fail: a job fails, or a name is claimed twice. -/
def Fails (jobs : Multiset (Set (Except AssemblyError Finding))) (registry : Registry)
    (error : AssemblyError) : Prop :=
  (∃ results ∈ jobs, .error error ∈ results) ∨
    ∃ name, error = .duplicate ⟨name⟩ ∧ 2 ≤ claimants name jobs registry

theorem Claims.mono {name : String} {fewer : Set (Except AssemblyError Finding)}
    (claims : Claims name fewer) (subset : fewer ⊆ results) : Claims name results := by
  obtain ⟨entry, found, same⟩ := claims
  exact ⟨entry, subset found, same⟩

theorem claimants_cons_of_not {name : String} (silent : ¬ Claims name results)
    (jobs : Multiset (Set (Except AssemblyError Finding))) (registry : Registry) :
    claimants name (results ::ₘ jobs) registry = claimants name jobs registry := by
  classical rw [claimants, Multiset.countP_cons_of_neg jobs silent, claimants]

theorem claimants_cons {name : String} (claims : Claims name results)
    (jobs : Multiset (Set (Except AssemblyError Finding))) (registry : Registry) :
    claimants name (results ::ₘ jobs) registry = claimants name jobs registry + 1 := by
  classical rw [claimants, Multiset.countP_cons_of_pos jobs claims, claimants, Nat.add_assoc]

theorem claimants_le_cons (name : String) (results : Set (Except AssemblyError Finding))
    (jobs : Multiset (Set (Except AssemblyError Finding))) (registry : Registry) :
    claimants name jobs registry ≤ claimants name (results ::ₘ jobs) registry := by
  by_cases claims : Claims name results
  · rw [claimants_cons claims]
    exact Nat.le_succ _
  · rw [claimants_cons_of_not claims]

theorem claimants_record {finding : Finding} (name : String)
    (jobs : Multiset (Set (Except AssemblyError Finding))) {before after : Registry}
    (found : .ok finding ∈ results) (recorded : before.record finding = .ok after) :
    claimants name jobs after ≤ claimants name (results ::ₘ jobs) before := by
  have added : after.taken = before.taken ++ finding.added?.toList.map TypeEntry.name := by
    rw [Registry.taken, (Registry.record_eq_ok recorded).1, List.map_append, Registry.taken]
  have order := claimants_le_cons name results jobs before
  cases finding with
  | skipped =>
    simpa [claimants, added, Finding.added?] using order
  | entry entry =>
    by_cases same : entry.name = name
    · have more := claimants_cons ⟨entry, found, same⟩ jobs before
      simp only [claimants, added, Finding.added?, Option.toList_some, List.map_singleton,
        List.count_append, List.count_singleton, same, beq_self_eq_true, if_true] at more ⊢
      omega
    · simp only [claimants, added, Finding.added?, Option.toList_some, List.map_singleton,
        List.count_append, List.count_singleton, beq_eq_false_iff_ne.mpr same] at order ⊢
      simpa using order

theorem Serves.claimants_le (serves : Serves desk printed results pool after) (name : String) :
    claimants name (after.results desk) after.registry ≤
      claimants name (results ::ₘ pool.results desk) pool.registry := by
  cases serves with
  | goesOn left fewer rest sameRegistry =>
    rw [rest, sameRegistry]
    by_cases claims : Claims name left
    · rw [claimants_cons claims, claimants_cons (claims.mono fewer)]
    · rw [claimants_cons_of_not claims]
      exact claimants_le_cons _ _ _ _
  | ends finding found rest recorded =>
    rw [rest]
    exact claimants_record name _ found recorded
  | clashes entry _ _ rest sameRegistry =>
    have silent : ¬ Claims name {.error (.duplicate ⟨entry.name⟩)} := by
      rintro ⟨_, ⟨⟩, _⟩
    rw [rest, sameRegistry, claimants_cons_of_not silent]
    exact claimants_le_cons _ _ _ _

/-- Before a step that serves a job, a pool may fail for the same reason. -/
theorem Serves.fails (serves : Serves desk printed results pool after)
    (fails : Fails (after.results desk) after.registry error) :
    Fails (results ::ₘ pool.results desk) pool.registry error := by
  rcases fails with ⟨other, isLeft, failed⟩ | ⟨name, rfl, twice⟩
  · cases serves with
    | goesOn left fewer rest _ _ =>
      rw [rest] at isLeft
      rcases Multiset.mem_cons.mp isLeft with rfl | isOther
      · exact .inl ⟨results, Multiset.mem_cons_self _ _, fewer failed⟩
      · exact .inl ⟨other, Multiset.mem_cons_of_mem isOther, failed⟩
    | ends _ _ rest _ _ =>
      rw [rest] at isLeft
      exact .inl ⟨other, Multiset.mem_cons_of_mem isLeft, failed⟩
    | clashes entry found taken rest _ _ =>
      rw [rest] at isLeft
      rcases Multiset.mem_cons.mp isLeft with rfl | isOther
      · -- The name that is taken is claimed by this job too.
        cases failed
        refine .inr ⟨entry.name, rfl, ?_⟩
        rw [claimants_cons ⟨entry, found, rfl⟩, claimants]
        have once := List.count_pos_iff.mpr (Registry.contains_iff.mp taken)
        omega
      · exact .inl ⟨other, Multiset.mem_cons_of_mem isOther, failed⟩
  · exact .inr ⟨name, rfl, Nat.le_trans twice (serves.claimants_le name)⟩

/-- The event that stops all jobs is the failure of one. -/
theorem handle_error (handled : pool.handle desk time turn event = .error error) :
    .error error ∈ Planned.results desk ⟨some time, turn, event⟩ := by
  cases event with
  | stop => cases handled; rfl
  | resume pending next =>
    simp only [handle] at handled
    split at handled <;> cases handled
  | arrive job =>
    simp only [handle] at handled
    split at handled <;> cases handled
  | enter => cases handled
  | report => cases handled

/-- **A pool that fails** does so with the failure of a job, or with a name that is claimed
twice. -/
theorem finish_error (prints : desk.Prints printed)
    (prompt : ∀ command, kind command → ∀ now world,
      desk.ComesWithin True desk.bound now (desk.begin command now world).1)
    (lasts : LastAtMost desk True kind pool.tasks fuel)
    (ends : finish desk fuel now pool = (.error error, world)) :
    Fails (pool.results desk) pool.registry error := by
  fun_induction finish desk fuel now pool with
  | case1 => cases ends
  | case2 fuel now pool time turn event rest next other handled =>
    cases ends
    rw [results_of_agenda next]
    exact .inl ⟨_, Multiset.mem_cons_self _ _, handle_error handled⟩
  | case3 fuel now pool time turn event rest next after handled ih =>
    rw [tasks_of_agenda next, lastAtMost_cons_iff] at lasts
    obtain ⟨cost, left, took, others, enough⟩ := lasts
    obtain ⟨less, fewer, lasts⟩ := handle_lasts prompt handled others took
    have fails := ih (lasts.mono (by omega)) ends
    rw [results_of_agenda next]
    exact (handle_serves prints handled).fails fails
  | case4 fuel now pool next more planned refuses =>
    -- The next event takes place, and there is fuel for it.
    rw [tasks_of_agenda planned, lastAtMost_cons_iff] at lasts
    obtain ⟨cost, left, took, -, enough⟩ := lasts
    obtain ⟨time, turn, event⟩ := next
    have positive := took.pos
    obtain ⟨time, rfl⟩ := Option.isSome_iff_exists.mp (took.timed trivial)
    obtain ⟨fuel, rfl⟩ : ∃ less, fuel = less + 1 := ⟨fuel - 1, by omega⟩
    exact (refuses time turn event fuel rfl rfl).elim

/-! ### Whole runs -/

variable {inquiries : List (Inquiry Finding)}

theorem seated_ofJobs (places : Nat) (inquiries : List (Inquiry Finding)) (now : Instant)
    (world : World) :
    (ofJobs places inquiries now world : Pool World Pending).Seated places 0 := by
  refine ⟨?_, .inr rfl⟩
  have none : (inquiries.map fun job => (⟨some now, 0, .arrive job⟩ : Planned Pending)).countP
      (fun planned => isSeated planned.event) = 0 := by
    simp [List.countP_eq_zero, isSeated]
  exact congrArg (places + · + 0) none

theorem results_ofJobs (desk : Desk World Pending) (places : Nat)
    (inquiries : List (Inquiry Finding)) (now : Instant) (world : World) :
    (ofJobs places inquiries now world : Pool World Pending).results desk =
      (inquiries.map desk.results : List _) := by
  simp only [Pool.results, tasks, ofJobs, List.map_nil, Multiset.coe_nil, Multiset.add_zero,
    Multiset.map_coe, List.map_map]
  rfl

theorem lastAtMost_ofJobs (desk : Desk World Pending) (isPrompt : Prop) (places : Nat)
    (now : Instant) (world : World)
    (asks : ∀ job ∈ inquiries, job.AsksAtMost kind questions) :
    LastAtMost desk isPrompt kind (ofJobs places inquiries now world : Pool World Pending).tasks
      (inquiries.length * (questions * (desk.bound + 1) + 4)) := by
  change LastAtMost desk isPrompt kind (((inquiries.map fun job => ⟨some now, 0, .arrive job⟩ :
    List (Planned Pending)) : Multiset (Planned Pending)) + 0) _
  rw [Multiset.add_zero]
  induction inquiries with
  | nil => exact ⟨0, .zero, Nat.zero_le _⟩
  | cons job rest ih =>
    rw [List.map_cons, ← Multiset.cons_coe, lastAtMost_cons_iff, List.length_cons, Nat.succ_mul]
    have others := ih fun other member => asks other (List.mem_cons_of_mem _ member)
    have first := asks job List.mem_cons_self
    exact ⟨_, _, ⟨fun _ => rfl, questions, first, Nat.le_refl _⟩, others, by omega⟩

theorem map_eq_map_iff_forall₂ {α β γ : Type} {f : α → γ} {g : β → γ} {first : List α}
    {second : List β} :
    first.map f = second.map g ↔ List.Forall₂ (fun a b => f a = g b) first second := by
  rw [← List.forall₂_eq_eq_eq, List.forall₂_map_left_iff, List.forall₂_map_right_iff]

/-- What is related to jobs in some order can be put into the order of the jobs. -/
theorem exists_forall₂_of_rel {α β : Type} {related : α → β → Prop} {first : List α}
    {second : List β} (pairs : Multiset.Rel related first second) :
    ∃ inOrder, List.Forall₂ related first inOrder ∧ inOrder.Perm second := by
  induction first generalizing second with
  | nil =>
    have none := Multiset.rel_zero_left.mp pairs
    exact ⟨[], .nil, List.nil_perm.mpr ((Multiset.coe_eq_zero _).mp none)⟩
  | cons head tail ih =>
    rw [← Multiset.cons_coe] at pairs
    obtain ⟨partner, others, isPartner, pairs, parts⟩ := Multiset.rel_cons_left.mp pairs
    induction others using Quot.inductionOn with
    | _ others =>
      obtain ⟨inOrder, aligned, perm⟩ := ih pairs
      exact ⟨partner :: inOrder, .cons isPartner aligned,
        (perm.cons partner).trans (Multiset.coe_eq_coe.mp parts.symm)⟩

/-- **A run that ends well** takes down one possible result of every job. -/
theorem run_ok (prints : desk.Prints printed) (positive : 1 ≤ places)
    (ends : run desk places questions inquiries now start = (.ok registry, world)) :
    ∃ findings, List.Forall₂ (fun job finding => job.Yields desk.MayAnswer (.ok finding))
        inquiries findings ∧
      registry.added.Perm (findings.filterMap Finding.added?) ∧ registry.taken.Nodup ∧
      ∃ said, said.Perm (findings.filterMap Finding.line?) ∧
        printed world = printed start ++ said := by
  obtain ⟨taken, found, entries, distinct, lines⟩ :=
    finish_ok prints positive (seated_ofJobs places inquiries now start) ends
  rw [results_ofJobs, ← Multiset.map_coe, Multiset.rel_map_left] at found
  obtain ⟨findings, aligned, perm⟩ := exists_forall₂_of_rel found
  refine ⟨findings, aligned, ?_, distinct List.nodup_nil, _, (perm.filterMap _).symm, lines⟩
  rw [entries]
  exact (perm.filterMap _).symm

/-- **A run that fails** does so with the failure of a job, or with a name that is claimed twice. -/
theorem run_error (prints : desk.Prints printed)
    (prompt : ∀ command, kind command → ∀ now world,
      desk.ComesWithin True desk.bound now (desk.begin command now world).1)
    (asks : ∀ job ∈ inquiries, job.AsksAtMost kind questions)
    (ends : run desk places questions inquiries now start = (.error error, world)) :
    Fails (inquiries.map desk.results : List _) .empty error := by
  have fails := finish_error prints prompt (lastAtMost_ofJobs desk True places now start asks) ends
  rw [results_ofJobs] at fails
  exact fails

end Pool

end TypeSchema
