/-
**Killing a process at any time.**

`Child.ending` knows of one kill from outside. A handle may be killed at any time and as often as
one likes.

* `Handle`: when the process ends, as things stand, the kills that were passed on to it, and when
  waiting took too long;
* `Handle.kill`: a call of kill; nothing happens if the process has ended;
* `Handle.expire`: the limit comes; the process is killed if it is still there;
* `Handle.run`: the calls of kill and the limit, in the order in which they come;
* `Handle.ending`: what waiting comes to;
* `struck_struck`: of several kills only the first one counts;
* `kill_of_isOver`, `killAll_of_isOver`: a kill after the end changes nothing;
* `run_of_ended`, `run_of_expired`: the limit comes after the end, or it kills;
* `expired_run`: waiting took too long exactly if the process is still there at the limit;
* `run_append`: **calls that come after the end change nothing**;
* `DecidedBy`, `run_spawn`, `ending_run`: **the first call of kill decides**, so that waiting comes
  to what it comes to if no other one is made.
-/

import TypeSchema.Proofs.Run.Child

namespace TypeSchema

/-- A process and what its handle knows of it. -/
structure Handle where
  /-- When the process ends, and with which code, as things stand. -/
  exit : Option (Instant × Int)
  /-- When it was killed. -/
  issued : List Instant
  /-- When waiting took too long. -/
  expired : Option Instant

namespace Handle

/-! ### The handle -/

/-- A process that is there from `start` on. -/
def spawn (child : Child) (start : Instant) : Handle := ⟨child.exit? start none, [], none⟩

/-- Whether the process has ended. -/
def isOver (handle : Handle) (now : Instant) : Bool := reached (handle.exit.map Prod.fst) now

/-- When a process ends that is killed at an instant, if it would end at another one. -/
def struck (child : Child) (now : Instant) (exit : Option (Instant × Int)) :
    Option (Instant × Int) :=
  if reached (exit.map Prod.fst) now then exit
  else
    match child.killFault with
    | some (.refused _) => exit
    | some .gone => some (now, killedCode)
    | none =>
      if reached (exit.map Prod.fst) (now + child.dying) then exit
      else some (now + child.dying, killedCode)

/-- Kills the process. -/
def strike (handle : Handle) (child : Child) (now : Instant) : Handle :=
  { handle with exit := struck child now handle.exit, issued := handle.issued ++ [now] }

/-- A call of kill. -/
def kill (handle : Handle) (child : Child) (now : Instant) : Handle :=
  if handle.isOver now then handle else handle.strike child now

/-- The limit comes. -/
def expire (handle : Handle) (child : Child) (now : Instant) : Handle :=
  if Child.outlasts handle.exit now then { handle.strike child now with expired := some now }
  else handle

/-- Several calls of kill. -/
def killAll (handle : Handle) (child : Child) (calls : List Instant) : Handle :=
  calls.foldl (fun handle now => handle.kill child now) handle

/-- The calls of kill, in their order, and the limit between them. -/
def run (handle : Handle) (child : Child) (calls : List Instant) :
    (deadline : Option Instant) → Handle
  | none => handle.killAll child calls
  | some deadline =>
    ((handle.killAll child (calls.takeWhile (· < deadline))).expire child deadline).killAll child
      (calls.dropWhile (· < deadline))

/-- A process that is started and waited for. The calls of kill count from its start. -/
def watched (child : Child) (limit : Option Binary64) (kills : List Nat) : Handle :=
  (spawn child child.startup).run child (kills.map (child.startup + ·))
    (Child.deadline? child.startup limit)

/-- Whether the process was killed. -/
def wasKilled (handle : Handle) : Bool := !handle.issued.isEmpty

/-- What waiting for the process comes to, and when. -/
def ending (handle : Handle) (child : Child) (args : List String) (limit : Option Binary64) :
    Option Ending :=
  match limit, handle.expired with
  | some seconds, some deadline =>
    match child.killFault with
    | some (.refused text) => some ⟨deadline, .error (.killRefused text)⟩
    | _ => handle.exit.map fun (time, code) => ⟨time, .error (.timedOut args seconds code)⟩
  | _, _ => handle.exit.map fun (time, code) => ⟨time, child.outcome args handle.wasKilled code⟩

variable {child : Child} {handle : Handle} {exit : Option (Instant × Int)} {now later : Instant}
  {calls more : List Instant} {start : Instant} {limit : Option Binary64}

theorem reached_mono {instant? : Option Instant} (order : now ≤ later)
    (before : reached instant? now = true) : reached instant? later = true := by
  obtain ⟨instant, isInstant, atMost⟩ := reached_iff.mp before
  exact reached_iff.mpr ⟨instant, isInstant, Nat.le_trans atMost order⟩

theorem earlier_none (first : Option Instant) : earlier first none = first := by
  cases first <;> rfl

/-! ### One kill -/

theorem struck_of_reached (passed : reached (exit.map Prod.fst) now = true) :
    struck child now exit = exit := if_pos passed

/-- A process that is killed ends no earlier than it is killed. -/
theorem le_of_struck {time : Instant} {code : Int}
    (running : ¬ reached (exit.map Prod.fst) now = true)
    (ends : struck child now exit = some (time, code)) : now ≤ time := by
  have byItself (same : exit = some (time, code)) : now ≤ time := by
    rw [same, Option.map_some, reached_some] at running
    exact Nat.le_of_lt (Nat.lt_of_not_le running)
  rw [struck, if_neg running] at ends
  split at ends
  · exact byItself ends
  · cases ends
    exact Nat.le_refl _
  · split at ends
    · exact byItself ends
    · cases ends
      exact Nat.le_add_right _ _

/-- **Of several kills only the first one counts.** -/
theorem struck_struck (order : now ≤ later) :
    struck child later (struck child now exit) = struck child now exit := by
  by_cases passed : reached (exit.map Prod.fst) now = true
  · rw [struck_of_reached passed, struck_of_reached (reached_mono order passed)]
  · have first : struck child now exit = _ := if_neg passed
    have soon : ∀ exit : Option (Instant × Int),
        reached (exit.map Prod.fst) (later + child.dying) = true → child.killFault = none →
          struck child later exit = exit := fun exit soon fault => by
      rw [struck]
      split
      · rfl
      · simp only [fault]
    rw [first]
    split
    · rename_i fault
      rw [struck]
      split
      · rfl
      · rw [fault]
    · exact struck_of_reached ((reached_some _ _).mpr order)
    · rename_i fault
      have order : now + child.dying ≤ later + child.dying := Nat.add_le_add_right order _
      split
      · rename_i ends
        exact soon exit (reached_mono order ends) fault
      · exact soon _ ((reached_some _ _).mpr order) fault

/-- A kill from outside, told by the end of the process without it. -/
theorem exit?_some_eq_struck (child : Child) (start kill : Instant) :
    child.exit? start (some kill) = struck child kill (child.exit? start none) := by
  have same : ((child.naturalEnd start).map fun time => (time, child.code)).map Prod.fst =
      child.naturalEnd start := by
    rw [Option.map_map]
    exact congrFun Option.map_id _
  cases fault : child.killFault with
  | none => simp only [Child.exit?, struck, same, fault]
  | some reason => cases reason <;> simp only [Child.exit?, struck, same, fault]

theorem exit_kill (handle : Handle) (child : Child) (now : Instant) :
    (handle.kill child now).exit = struck child now handle.exit := by
  rw [kill]
  split
  · rename_i passed
    exact (struck_of_reached passed).symm
  · rfl

theorem expired_kill (handle : Handle) (child : Child) (now : Instant) :
    (handle.kill child now).expired = handle.expired := by
  rw [kill]
  split <;> rfl

/-- **A kill after the end changes nothing.** -/
theorem kill_of_isOver (passed : handle.isOver now = true) : handle.kill child now = handle :=
  if_pos passed

theorem issued_kill (running : ¬ handle.isOver now = true) :
    (handle.kill child now).issued = handle.issued ++ [now] := by
  rw [kill, if_neg running]
  rfl

/-! ### Several calls of kill -/

theorem killAll_cons (handle : Handle) (child : Child) (now : Instant) (calls : List Instant) :
    handle.killAll child (now :: calls) = (handle.kill child now).killAll child calls := rfl

theorem killAll_append (handle : Handle) (child : Child) (calls more : List Instant) :
    handle.killAll child (calls ++ more) = (handle.killAll child calls).killAll child more :=
  List.foldl_append

theorem killAll_of_isOver (passed : ∀ call ∈ calls, handle.isOver call = true) :
    handle.killAll child calls = handle := by
  induction calls with
  | nil => rfl
  | cons now calls ih =>
    obtain ⟨first, behind⟩ := List.forall_mem_cons.mp passed
    rw [killAll_cons, kill_of_isOver first, ih behind]

theorem expired_killAll (handle : Handle) (child : Child) (calls : List Instant) :
    (handle.killAll child calls).expired = handle.expired := by
  induction calls generalizing handle with
  | nil => rfl
  | cons now calls ih => rw [killAll_cons, ih, expired_kill]

/-- Kills that are passed on to a process stay noted. -/
theorem issued_killAll (handle : Handle) (child : Child) (calls : List Instant) :
    handle.issued <+: (handle.killAll child calls).issued := by
  induction calls generalizing handle with
  | nil => exact List.prefix_rfl
  | cons now calls ih =>
    have first : handle.issued <+: (handle.kill child now).issued := by
      rw [kill]
      split
      · exact List.prefix_rfl
      · exact List.prefix_append _ _
    exact first.trans (ih _)

/-- The end of a process that was killed before does not change any more. -/
theorem exit_killAll_of_struck
    (fixed : ∀ call ∈ calls, struck child call handle.exit = handle.exit) :
    (handle.killAll child calls).exit = handle.exit := by
  induction calls generalizing handle with
  | nil => rfl
  | cons now calls ih =>
    obtain ⟨first, behind⟩ := List.forall_mem_cons.mp fixed
    have same : (handle.kill child now).exit = handle.exit := (exit_kill ..).trans first
    rw [killAll_cons, ih fun call isCall => by rw [same, behind call isCall], same]

/-- The end of a process that is killed several times. -/
theorem exit_killAll (inOrder : (now :: calls).Pairwise (· ≤ ·)) :
    (handle.killAll child (now :: calls)).exit = struck child now handle.exit := by
  have first : (handle.kill child now).exit = struck child now handle.exit := exit_kill ..
  rw [killAll_cons, exit_killAll_of_struck, first]
  intro call isCall
  rw [first, struck_struck ((List.pairwise_cons.mp inOrder).1 call isCall)]

/-- A process is killed exactly if it has not ended at the first call. -/
theorem issued_killAll_eq_nil_iff (fresh : handle.issued = [])
    (inOrder : (now :: calls).Pairwise (· ≤ ·)) :
    (handle.killAll child (now :: calls)).issued = [] ↔ handle.isOver now = true := by
  constructor
  · intro nothing
    refine Decidable.byContradiction fun running => ?_
    have noted := issued_killAll (handle.kill child now) child calls
    rw [issued_kill running, ← killAll_cons, nothing, List.prefix_nil] at noted
    simp at noted
  · intro passed
    rw [killAll_of_isOver, fresh]
    intro call isCall
    rcases List.mem_cons.mp isCall with rfl | behind
    · exact passed
    · exact reached_mono ((List.pairwise_cons.mp inOrder).1 call behind) passed

/-! ### The limit -/

theorem le_of_mem_dropWhile {deadline : Instant} (inOrder : calls.Pairwise (· ≤ ·)) :
    ∀ call ∈ calls.dropWhile (· < deadline), deadline ≤ call := by
  induction calls with
  | nil => exact fun _ isCall => nomatch isCall
  | cons now calls ih =>
    obtain ⟨first, behind⟩ := List.pairwise_cons.mp inOrder
    rw [List.dropWhile_cons]
    split
    · exact ih behind
    · rename_i late
      have late : deadline ≤ now := by simpa using late
      intro call isCall
      rcases List.mem_cons.mp isCall with rfl | inCalls
      · exact late
      · exact Nat.le_trans late (first call inCalls)

theorem outlasts_iff {deadline : Instant} : Child.outlasts exit deadline = true ↔
    ∀ time code, exit = some (time, code) → deadline ≤ time := by
  cases exit with
  | none => simp [Child.outlasts]
  | some exit =>
    obtain ⟨time, code⟩ := exit
    simp [Child.outlasts]

/-- A kill does not end a process before it is made. -/
theorem outlasts_struck {deadline : Instant} (late : deadline ≤ now)
    (there : Child.outlasts exit deadline = true) :
    Child.outlasts (struck child now exit) deadline = true := by
  by_cases passed : reached (exit.map Prod.fst) now = true
  · rwa [struck_of_reached passed]
  · exact outlasts_iff.mpr fun time code isExit => Nat.le_trans late (le_of_struck passed isExit)

/-- A process that ends before a deadline has ended at any later call. -/
theorem isOver_of_ended {deadline : Instant} (late : deadline ≤ now)
    (ended : Child.outlasts handle.exit deadline = false) : handle.isOver now = true := by
  simp only [Child.outlasts, Bool.not_eq_false', Option.any_eq_true, decide_eq_true_eq] at ended
  obtain ⟨exit, isExit, before⟩ := ended
  rw [isOver, isExit, Option.map_some, reached_some]
  exact Nat.le_trans (Nat.le_of_lt before) late

/-- A process that ends within the limit. Neither the limit nor what comes later changes that. -/
theorem run_of_ended {deadline : Instant} (inOrder : calls.Pairwise (· ≤ ·))
    (ended : Child.outlasts (handle.killAll child (calls.takeWhile (· < deadline))).exit deadline =
      false) :
    handle.run child calls (some deadline) =
      handle.killAll child (calls.takeWhile (· < deadline)) := by
  rw [run, expire, ended]
  exact killAll_of_isOver fun call isCall =>
    isOver_of_ended (le_of_mem_dropWhile inOrder call isCall) ended

/-- A process that is still there when the limit comes. -/
theorem run_of_expired {deadline : Instant} (inOrder : calls.Pairwise (· ≤ ·))
    (there : Child.outlasts (handle.killAll child (calls.takeWhile (· < deadline))).exit deadline =
      true) :
    (handle.run child calls (some deadline)).exit =
        struck child deadline (handle.killAll child (calls.takeWhile (· < deadline))).exit ∧
      (handle.run child calls (some deadline)).expired = some deadline ∧
      deadline ∈ (handle.run child calls (some deadline)).issued := by
  rw [run, expire, there, if_pos rfl]
  refine ⟨exit_killAll_of_struck fun call isCall => ?_, expired_killAll .., ?_⟩
  · exact struck_struck (le_of_mem_dropWhile inOrder call isCall)
  · exact (issued_killAll ..).subset (List.mem_append_right _ (List.mem_singleton_self deadline))

/-- Waiting took too long exactly if the process is still there at the limit. -/
theorem expired_run (fresh : handle.expired = none) (inOrder : calls.Pairwise (· ≤ ·))
    (deadline : Option Instant) :
    (handle.run child calls deadline).expired =
      deadline.filter (Child.outlasts (handle.run child calls deadline).exit ·) := by
  cases deadline with
  | none => exact (expired_killAll ..).trans fresh
  | some deadline =>
    cases there : Child.outlasts
        (handle.killAll child (calls.takeWhile (· < deadline))).exit deadline with
    | false =>
      rw [run_of_ended inOrder there, expired_killAll, fresh,
        Option.filter_some_neg (by simp [there])]
    | true =>
      obtain ⟨isExit, isExpired, -⟩ := run_of_expired inOrder there
      rw [isExpired, isExit, Option.filter_some_pos]
      exact outlasts_struck (Nat.le_refl _) there

/-- A process for which waiting took too long was killed at the limit. -/
theorem issued_of_expired {deadline : Instant} (fresh : handle.expired = none)
    (inOrder : calls.Pairwise (· ≤ ·))
    (late : (handle.run child calls (some deadline)).expired = some deadline) :
    deadline ∈ (handle.run child calls (some deadline)).issued := by
  cases there : Child.outlasts
      (handle.killAll child (calls.takeWhile (· < deadline))).exit deadline with
  | false =>
    rw [run_of_ended inOrder there, expired_killAll, fresh] at late
    cases late
  | true => exact (run_of_expired inOrder there).2.2

/-- Calls before the limit that come after the end. -/
theorem killAll_of_expire {deadline : Instant}
    (passed : ∀ call ∈ more, (handle.expire child deadline).isOver call = true) :
    handle.killAll child (more.takeWhile (· < deadline)) = handle := by
  cases there : Child.outlasts handle.exit deadline with
  | false =>
    rw [expire, there, if_neg (by simp)] at passed
    refine killAll_of_isOver fun call isCall => passed call ?_
    exact (List.takeWhile_sublist _).subset isCall
  | true =>
    rw [expire, there, if_pos rfl] at passed
    cases more with
    | nil => rfl
    | cons call more =>
      have late : ¬ call < deadline := by
        obtain ⟨time, isTime, before⟩ := reached_iff.mp (passed call List.mem_cons_self)
        obtain ⟨⟨time, code⟩, isExit, rfl⟩ := Option.map_eq_some_iff.mp isTime
        have after := outlasts_iff.mp (outlasts_struck (Nat.le_refl _) there) time code isExit
        exact Nat.not_lt_of_le (Nat.le_trans after before)
      rw [List.takeWhile_cons_of_neg (by simpa using late)]
      rfl

/-- **Calls that come after the end change nothing.** -/
theorem run_append (deadline : Option Instant)
    (passed : ∀ call ∈ more, (handle.run child calls deadline).isOver call = true) :
    handle.run child (calls ++ more) deadline = handle.run child calls deadline := by
  cases deadline with
  | none =>
    rw [run, killAll_append]
    exact killAll_of_isOver passed
  | some deadline =>
    have parts := List.takeWhile_append_dropWhile (p := (· < deadline)) (l := calls)
    have lengths := congrArg List.length parts
    rw [List.length_append] at lengths
    cases behind : calls.dropWhile (· < deadline) with
    | cons late rest =>
      -- The limit comes before the last calls, and the further ones only follow those.
      rw [behind, List.length_cons] at lengths
      rw [run, List.takeWhile_append, if_neg (by omega), List.dropWhile_append, behind,
        if_neg (by simp), killAll_append, ← behind]
      exact killAll_of_isOver passed
    | nil =>
      -- All calls come before the limit, and some of the further ones may too.
      rw [behind, List.append_nil] at parts
      rw [behind, List.length_nil, Nat.add_zero] at lengths
      have alone : handle.run child calls (some deadline) =
          (handle.killAll child calls).expire child deadline := by
        rw [run, behind, parts]
        rfl
      rw [alone] at passed ⊢
      rw [run, List.takeWhile_append, if_pos lengths, List.dropWhile_append, behind,
        if_pos (by simp), killAll_append, killAll_of_expire passed]
      exact killAll_of_isOver fun call isCall =>
        passed call ((List.dropWhile_sublist _).subset isCall)

/-! ### The first call decides -/

theorem exit_killAll_spawn (child : Child) (start : Instant) (inOrder : calls.Pairwise (· ≤ ·)) :
    ((spawn child start).killAll child calls).exit = child.exit? start calls.head? := by
  cases calls with
  | nil => rfl
  | cons now calls =>
    rw [exit_killAll inOrder, List.head?_cons, exit?_some_eq_struck]
    rfl

theorem isOver_spawn (child : Child) (start now : Instant) :
    (spawn child start).isOver now = reached (child.naturalEnd start) now := by
  rw [isOver, spawn, Child.exit?_none, Option.map_map]
  exact congrArg (reached · now) (congrFun Option.map_id _)

theorem wasKilled_killAll_spawn (child : Child) (start : Instant)
    (inOrder : calls.Pairwise (· ≤ ·)) :
    ((spawn child start).killAll child calls).wasKilled =
      (child.timelyKill? start calls.head?).isSome := by
  cases calls with
  | nil => rfl
  | cons now calls =>
    have passed : ((spawn child start).killAll child (now :: calls)).issued = [] ↔
        (spawn child start).isOver now = true := issued_killAll_eq_nil_iff rfl inOrder
    rw [isOver_spawn] at passed
    rw [wasKilled, List.head?_cons, Child.timelyKill?]
    cases natural : reached (child.naturalEnd start) now with
    | true => rw [passed.mpr natural]; simp [natural]
    | false =>
      have killed := mt passed.mp (by simp [natural])
      simp [natural, killed]

/-- A kill that comes after an instant does not decide what is there at that instant. -/
theorem outlasts_exit?_late {deadline kill : Instant} (late : deadline ≤ kill) :
    Child.outlasts (child.exit? start (some kill)) deadline =
      Child.outlasts (child.exit? start none) deadline := by
  rw [exit?_some_eq_struck]
  by_cases passed : reached ((child.exit? start none).map Prod.fst) kill = true
  · rw [struck_of_reached passed]
  · have there : Child.outlasts (child.exit? start none) deadline = true := by
      refine outlasts_iff.mpr fun time code isExit => ?_
      rw [isExit, Option.map_some, reached_some] at passed
      exact Nat.le_trans late (Nat.le_of_lt (Nat.lt_of_not_le passed))
    rw [there, outlasts_struck late there]

/-- A process that ends before a kill. -/
theorem exit?_late {deadline kill : Instant} (late : deadline ≤ kill)
    (ended : Child.outlasts (child.exit? start none) deadline = false) :
    child.exit? start (some kill) = child.exit? start none := by
  have passed : (spawn child start).isOver kill = true := isOver_of_ended late ended
  rw [exit?_some_eq_struck]
  exact struck_of_reached passed

/-- What a call of kill and the limit make of a process: when it ends, whether waiting took too
long, and whether it was killed. -/
structure DecidedBy (handle : Handle) (child : Child) (start : Instant) (limit : Option Binary64)
    (kill : Option Instant) : Prop where
  isExit : handle.exit = child.exit? start (earlier kill (child.limitKill? start limit kill))
  isExpired : handle.expired = child.limitKill? start limit kill
  isKilled : handle.wasKilled = (child.killTime? start limit kill).isSome

section

variable {deadline : Instant} (inOrder : calls.Pairwise (· ≤ ·))

include inOrder

theorem exit_killAll_early :
    ((spawn child start).killAll child (calls.takeWhile (· < deadline))).exit =
      child.exit? start (calls.head?.filter (· < deadline)) := by
  have before : (calls.takeWhile (· < deadline)).Pairwise (· ≤ ·) :=
    inOrder.sublist (List.takeWhile_sublist _)
  rw [exit_killAll_spawn child start before, List.head?_takeWhile]

theorem wasKilled_killAll_early :
    ((spawn child start).killAll child (calls.takeWhile (· < deadline))).wasKilled =
      (child.timelyKill? start (calls.head?.filter (· < deadline))).isSome := by
  have before : (calls.takeWhile (· < deadline)).Pairwise (· ≤ ·) :=
    inOrder.sublist (List.takeWhile_sublist _)
  rw [wasKilled_killAll_spawn child start before, List.head?_takeWhile]

/-- What is there at the limit does not depend on calls that come later. -/
theorem outlasts_killAll_early :
    Child.outlasts ((spawn child start).killAll child (calls.takeWhile (· < deadline))).exit
        deadline = Child.outlasts (child.exit? start calls.head?) deadline := by
  rw [exit_killAll_early inOrder]
  cases calls.head? with
  | none => rfl
  | some kill =>
    by_cases isEarly : kill < deadline
    · rw [Option.filter_some_pos (by simpa using isEarly)]
    · rw [Option.filter_some_neg (by simpa using isEarly),
        outlasts_exit?_late (Nat.le_of_not_lt isEarly)]

/-- A process that ends within the limit is decided by the first call alone. -/
theorem decidedBy_of_ended (isDeadline : Child.deadline? start limit = some deadline)
    (ended : Child.outlasts (child.exit? start calls.head?) deadline = false) :
    ((spawn child start).run child calls (some deadline)).DecidedBy child start limit
      calls.head? := by
  have noLimit : child.limitKill? start limit calls.head? = none := by
    rw [Child.limitKill?, isDeadline, Option.filter_some_neg (by simp [ended])]
  rw [run_of_ended inOrder ((outlasts_killAll_early inOrder).trans ended)]
  -- A first call that comes after the limit finds the process ended, as if there were none.
  have same : child.exit? start (calls.head?.filter (· < deadline)) =
        child.exit? start calls.head? ∧
      (child.timelyKill? start (calls.head?.filter (· < deadline))).isSome =
        (child.timelyKill? start calls.head?).isSome := by
    cases isHead : calls.head? with
    | none => exact ⟨rfl, rfl⟩
    | some kill =>
      by_cases isEarly : kill < deadline
      · rw [Option.filter_some_pos (by simpa using isEarly)]
        exact ⟨rfl, rfl⟩
      · have late := Nat.le_of_not_lt isEarly
        rw [isHead, outlasts_exit?_late late] at ended
        have passed : reached (child.naturalEnd start) kill = true := by
          rw [← isOver_spawn]
          exact isOver_of_ended late ended
        rw [Option.filter_some_neg (by simpa using isEarly), exit?_late late ended]
        exact ⟨rfl, by simp [Child.timelyKill?, passed]⟩
  refine ⟨?_, ?_, ?_⟩
  · rw [noLimit, earlier_none, exit_killAll_early inOrder, same.1]
  · rw [noLimit, expired_killAll]
    rfl
  · rw [Child.killTime?, noLimit, earlier_none, wasKilled_killAll_early inOrder, same.2]

/-- A process that is still there at the limit is decided by what comes first. -/
theorem decidedBy_of_there (isDeadline : Child.deadline? start limit = some deadline)
    (there : Child.outlasts (child.exit? start calls.head?) deadline = true) :
    ((spawn child start).run child calls (some deadline)).DecidedBy child start limit
      calls.head? := by
  have atLimit : child.limitKill? start limit calls.head? = some deadline := by
    rw [Child.limitKill?, isDeadline, Option.filter_some_pos (by simp [there])]
  obtain ⟨isExit, isExpired, isIssued⟩ :=
    run_of_expired inOrder ((outlasts_killAll_early inOrder).trans there)
  refine ⟨?_, isExpired.trans atLimit.symm, ?_⟩
  · rw [isExit, atLimit, exit_killAll_early inOrder]
    cases calls.head? with
    | none => exact (exit?_some_eq_struck ..).symm
    | some kill =>
      by_cases isEarly : kill < deadline
      · have first : earlier (some kill) (some deadline) = some kill :=
          congrArg some (Nat.min_eq_left (Nat.le_of_lt isEarly))
        rw [Option.filter_some_pos (by simpa using isEarly), first, exit?_some_eq_struck,
          struck_struck (Nat.le_of_lt isEarly)]
      · have first : earlier (some kill) (some deadline) = some deadline :=
          congrArg some (Nat.min_eq_right (Nat.le_of_not_lt isEarly))
        rw [Option.filter_some_neg (by simpa using isEarly), first, exit?_some_eq_struck]
  · have killed : ((spawn child start).run child calls (some deadline)).wasKilled = true := by
      simp [wasKilled, List.ne_nil_of_mem isIssued]
    rw [killed, Child.killTime?, atLimit]
    cases child.timelyKill? start calls.head? <;> rfl

end

/-- **The first call of kill decides**, together with the limit. -/
theorem run_spawn (child : Child) (start : Instant) (inOrder : calls.Pairwise (· ≤ ·))
    (limit : Option Binary64) :
    ((spawn child start).run child calls (Child.deadline? start limit)).DecidedBy child start limit
      calls.head? := by
  cases isDeadline : Child.deadline? start limit with
  | none =>
    have noLimit : child.limitKill? start limit calls.head? = none := by
      rw [Child.limitKill?, isDeadline, Option.filter_none]
    refine ⟨?_, ?_, ?_⟩
    · rw [run, noLimit, earlier_none, exit_killAll_spawn child start inOrder]
    · rw [run, noLimit, expired_killAll]
      rfl
    · rw [run, Child.killTime?, noLimit, earlier_none, wasKilled_killAll_spawn child start inOrder]
  | some deadline =>
    cases isThere : Child.outlasts (child.exit? start calls.head?) deadline with
    | false => exact decidedBy_of_ended inOrder isDeadline isThere
    | true => exact decidedBy_of_there inOrder isDeadline isThere

/-- Waiting comes to what it comes to if only the first call of kill is made. -/
theorem ending_run (inOrder : calls.Pairwise (· ≤ ·)) (args : List String)
    (limit : Option Binary64) :
    ((spawn child start).run child calls (Child.deadline? start limit)).ending child args limit =
      child.ending args start limit calls.head? := by
  obtain ⟨isExit, isExpired, isKilled⟩ := run_spawn child start inOrder limit
  unfold ending Child.ending
  rw [isExit, isExpired, isKilled, Child.killTime?]
  cases limited : child.limitKill? start limit calls.head? with
  | none =>
    rw [earlier_none, earlier_none]
    cases limit <;> rfl
  | some deadline =>
    cases limit with
    | none => simp [Child.limitKill?, Child.deadline?_none] at limited
    | some seconds => rfl

end Handle

end TypeSchema
