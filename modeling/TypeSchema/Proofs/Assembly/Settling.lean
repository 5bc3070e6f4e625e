/-
**Jobs whose questions have one answer.**

* `run_ok_settles`: **a run that ends well takes down what every job settles to**;
* `run_ok_of_settles`: it does end well if every job settles to a finding and no name is claimed
  twice;
* `run_error_settles`: if it fails and no name is claimed twice, a job fails that way.

So neither the number of places nor the times of the answers matter.
-/

import TypeSchema.Proofs.Assembly.Outcome

namespace TypeSchema

namespace Pool

variable {World Pending : Type} {desk : Desk World Pending} {printed : World → List String}
  {kind : Command → Prop} {inquiries : List (Inquiry Finding)} {places questions : Nat}
  {now : Instant} {start world : World} {registry : Registry} {error : AssemblyError}
  {answers : Command → Except RunError String} {labels : List (Option String)}

/-- A name is claimed no more often than it is the label of a job. -/
theorem claimants_le_count {claimed : List (Set (Except AssemblyError Finding))}
    (aligned : List.Forall₂ (fun results label => ∀ name, Claims name results → label = some name)
      claimed labels) (name : String) :
    claimants name claimed .empty ≤ (labels.filterMap id).count name := by
  induction aligned with
  | nil => exact Nat.le_of_eq (by simp [claimants, Registry.taken, Registry.empty])
  | @cons results label others labels isLabel _ ih =>
    rw [← Multiset.cons_coe]
    by_cases claims : Claims name results
    · cases isLabel name claims
      have counted : (some name :: labels).filterMap id = name :: labels.filterMap id := rfl
      rw [claimants_cons claims, counted, List.count_cons_self]
      exact Nat.succ_le_succ ih
    · rw [claimants_cons_of_not claims]
      refine Nat.le_trans ih (List.Sublist.count_le _ ?_)
      exact (List.sublist_cons_self label labels).filterMap id

variable (asks : ∀ job ∈ inquiries, job.AsksAtMost kind questions)
  (only : ∀ command answer, kind command → desk.MayAnswer command answer →
    answer = answers command)

include asks only

/-- **A run that ends well** takes down what every job settles to. -/
theorem run_ok_settles (prints : desk.Prints printed) (positive : 1 ≤ places)
    (ends : run desk places questions inquiries now start = (.ok registry, world)) :
    ∃ findings, List.Forall₂ (fun job finding => job.settle answers = .ok finding)
        inquiries findings ∧
      registry.added.Perm (findings.filterMap Finding.added?) ∧ registry.taken.Nodup ∧
      ∃ said, said.Perm (findings.filterMap Finding.line?) ∧
        printed world = printed start ++ said := by
  obtain ⟨findings, aligned, rest⟩ := run_ok prints positive ends
  refine ⟨findings, ?_, rest⟩
  exact ((List.forall₂_and_left _ _).mpr ⟨asks, aligned⟩).imp fun job finding ⟨asks, comes⟩ =>
    (Inquiry.yields_eq_settle asks only comes).symm

variable (prompt : ∀ command, kind command → ∀ now world,
  desk.ComesWithin True desk.bound now (desk.begin command now world).1)

include prompt

/-- **A run that fails** does so with the failure of a job, if no two jobs claim one name. -/
theorem run_error_settles (prints : desk.Prints printed)
    (named : List.Forall₂ (fun job label => ∀ entry,
      job.settle answers = .ok (.entry entry) → label = some entry.name) inquiries labels)
    (distinct : (labels.filterMap id).Nodup)
    (ends : run desk places questions inquiries now start = (.error error, world)) :
    ∃ job ∈ inquiries, job.settle answers = .error error := by
  have settles (job : Inquiry Finding) (member : job ∈ inquiries)
      (result : Except AssemblyError Finding) (comes : result ∈ desk.results job) :
      job.settle answers = result :=
    (Inquiry.yields_eq_settle (asks job member) only comes).symm
  rcases run_error prints prompt asks ends with ⟨results, isJob, failed⟩ | ⟨name, -, twice⟩
  · obtain ⟨job, member, rfl⟩ := List.mem_map.mp isJob
    exact ⟨job, member, settles job member _ failed⟩
  · have aligned : List.Forall₂ (fun results label => ∀ name, Claims name results →
        label = some name) (inquiries.map desk.results) labels := by
      rw [List.forall₂_map_left_iff]
      refine ((List.forall₂_and_left _ _).mpr ⟨settles, named⟩).imp ?_
      rintro job label ⟨settles, isLabel⟩ name ⟨entry, comes, rfl⟩
      exact isLabel entry (settles _ comes)
    have most := claimants_le_count aligned name
    have once := List.nodup_iff_count_le_one.mp distinct name
    omega

/-- **A run ends well** if every job settles to a finding and no two of them name one entry. -/
theorem run_ok_of_settles (prints : desk.Prints printed) {findings : List Finding}
    (aligned : List.Forall₂ (fun job finding => job.settle answers = .ok finding)
      inquiries findings)
    (distinct : ((findings.filterMap Finding.added?).map TypeEntry.name).Nodup) :
    ∃ registry world, run desk places questions inquiries now start = (.ok registry, world) := by
  cases ends : run desk places questions inquiries now start with
  | mk result world =>
    cases result with
    | ok registry => exact ⟨registry, world, rfl⟩
    | error error =>
      have named : List.Forall₂ (fun job label => ∀ entry,
          job.settle answers = .ok (.entry entry) → label = some entry.name)
          inquiries (findings.map fun finding => finding.added?.map TypeEntry.name) := by
        rw [List.forall₂_map_right_iff]
        refine aligned.imp fun job finding settled entry other => ?_
        cases settled.symm.trans other
        rfl
      have names : (findings.map fun finding => finding.added?.map TypeEntry.name).filterMap id =
          (findings.filterMap Finding.added?).map TypeEntry.name := by
        rw [List.filterMap_map, List.map_filterMap]
        rfl
      obtain ⟨job, member, failed⟩ :=
        run_error_settles asks only prompt prints named (names ▸ distinct) ends
      have settled := ((List.forall₂_and_left _ _).mp (aligned.imp fun job finding settled =>
        ⟨Exists.intro finding settled, settled⟩)).1 job member
      obtain ⟨finding, settled⟩ := settled
      cases settled.symm.trans failed

end Pool

end TypeSchema
