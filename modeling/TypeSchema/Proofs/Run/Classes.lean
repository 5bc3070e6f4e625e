/-
**The classes of results of a process.**

* `InTime`, `Interrupted`: whether a process ends within its limit, and whether it is killed before
  it ends by itself;
* `Classified`: one result for each case of the limit, the kills, the code and the output;
* `classified_watched`: each result is that of one class;
* `exit_watched_eq_none_iff`: waiting has an end unless the process has none, there is no limit, and
  nobody kills it;
* `watch_classified`: **each process that starts comes to exactly one result**, at its end. What a
  killed process prints is never an answer, and a kill after the end changes nothing.
-/

import TypeSchema.Run.Watch
import TypeSchema.Proofs.Run.Handle

namespace TypeSchema

namespace Handle

variable {child : Child} {handle : Handle} {start : Instant} {limit : Option Binary64}

/-! ### The classes -/

/-- Whether a process that ends at some instant ends within its limit. -/
def InTime (child : Child) (limit : Option Binary64) (time : Instant) : Prop :=
  ∀ deadline, Child.deadline? child.startup limit = some deadline → time < deadline

/-- Whether a process is killed before it ends by itself. -/
def Interrupted (child : Child) (kills : List Nat) : Prop :=
  ∃ kill ∈ kills, ∀ time, child.naturalEnd child.startup = some time → child.startup + kill < time

/-- What waiting for a process comes to that ended with a code: one class for each case. -/
structure Classified (child : Child) (args : List String) (limit : Option Binary64)
    (kills : List Nat) (code : Int) (ending : Ending) : Prop where
  /-- A process that is not disturbed ends when and as it would by itself. -/
  undisturbed : InTime child limit ending.time → ¬ Interrupted child kills →
    child.naturalEnd child.startup = some ending.time ∧ code = child.code
  answers : ∀ text, ending.result = .ok text ↔ InTime child limit ending.time ∧
    ¬ Interrupted child kills ∧ code = 0 ∧ decode? child.output = some text
  unreadable : ending.result = .error .notText ↔ InTime child limit ending.time ∧
    ¬ Interrupted child kills ∧ code = 0 ∧ decode? child.output = none
  timedOut : (∃ seconds, limit = some seconds ∧
    ending.result = .error (.timedOut args seconds code)) ↔ ¬ InTime child limit ending.time
  killed : ending.result = .error (.killed args code (decodeLossy child.complaint)) ↔
    InTime child limit ending.time ∧ (Interrupted child kills ∨ code < 0)
  exited : ending.result = .error (.exited args code (decodeLossy child.complaint)) ↔
    InTime child limit ending.time ∧ ¬ Interrupted child kills ∧ 0 < code

variable {args : List String} {kills : List Nat} {code : Int} {ending : Ending}

/-- The classes of a process that ended in time. -/
theorem outcome_classes (args : List String) (code : Int) (reads : child.givesUp = false)
    (wasKilled : Bool) :
    (child.outcome args wasKilled code = .error .notText ↔
        wasKilled = false ∧ code = 0 ∧ decode? child.output = none) ∧
      (∀ seconds, child.outcome args wasKilled code ≠ .error (.timedOut args seconds code)) ∧
      (child.outcome args wasKilled code =
          .error (.killed args code (decodeLossy child.complaint)) ↔
        wasKilled = true ∨ code < 0) ∧
      (child.outcome args wasKilled code =
          .error (.exited args code (decodeLossy child.complaint)) ↔
        wasKilled = false ∧ 0 < code) := by
  rw [Child.outcome, reads]
  simp only [Bool.false_eq_true, if_false]
  by_cases killed : wasKilled = true ∨ code < 0
  · rw [if_pos killed]
    rcases killed with rfl | negative
    · simp
    · have notZero : code ≠ 0 := Int.ne_of_lt negative
      have notPositive : ¬ 0 < code := by omega
      simp [negative, notZero, notPositive]
  · rw [if_neg killed]
    obtain ⟨spared, notNegative⟩ := not_or.mp killed
    rw [Bool.not_eq_true] at spared
    by_cases zero : code = 0
    · subst zero
      cases decode? child.output <;> simp [spared]
    · have positive : 0 < code := by omega
      simp [spared, zero, positive, notNegative]

/-- A process that can be killed ends if it is killed. -/
theorem exit?_some_ne_none (killable : ∀ text, child.killFault ≠ some (.refused text))
    (kill : Instant) : child.exit? start (some kill) ≠ none := by
  rw [exit?_some_eq_struck, struck]
  split
  · rename_i passed
    obtain ⟨time, isTime, -⟩ := reached_iff.mp passed
    obtain ⟨exit, isExit, -⟩ := Option.map_eq_some_iff.mp isTime
    simp [isExit]
  · split
    · rename_i text refused
      exact (killable text refused).elim
    · simp
    · split
      · rename_i passed
        obtain ⟨time, isTime, -⟩ := reached_iff.mp passed
        obtain ⟨exit, isExit, -⟩ := Option.map_eq_some_iff.mp isTime
        simp [isExit]
      · simp

/-- The calls of kill in the order of their instants. -/
theorem inOrder_calls (inOrder : kills.Pairwise (· ≤ ·)) (start : Instant) :
    (kills.map (start + ·)).Pairwise (· ≤ ·) :=
  List.Pairwise.map _ (fun _ _ order => Nat.add_le_add_left order start) inOrder

/-- A process is interrupted exactly if the first call of kill interrupts it. -/
theorem interrupted_iff (inOrder : kills.Pairwise (· ≤ ·)) : Interrupted child kills ↔
    (child.timelyKill? child.startup (kills.map (child.startup + ·)).head?).isSome = true := by
  cases kills with
  | nil => simp [Interrupted, Child.timelyKill?]
  | cons kill kills =>
    have running : reached (child.naturalEnd child.startup) (child.startup + kill) = false ↔
        ∀ time, child.naturalEnd child.startup = some time → child.startup + kill < time := by
      cases child.naturalEnd child.startup <;> simp [reached]
    have first : (child.timelyKill? child.startup (some (child.startup + kill))).isSome = true ↔
        reached (child.naturalEnd child.startup) (child.startup + kill) = false := by
      cases passed : reached (child.naturalEnd child.startup) (child.startup + kill) <;>
        simp [Child.timelyKill?, passed]
    rw [List.map_cons, List.head?_cons, first, running]
    constructor
    · rintro ⟨other, isKill, before⟩ time isEnd
      rcases List.mem_cons.mp isKill with rfl | behind
      · exact before time isEnd
      · have order := (List.pairwise_cons.mp inOrder).1 other behind
        exact Nat.lt_of_le_of_lt (Nat.add_le_add_left order _) (before time isEnd)
    · exact fun before => ⟨kill, List.mem_cons_self, before⟩

/-- Waiting took too long exactly if the process is still there at the limit. -/
theorem expired_watched (inOrder : kills.Pairwise (· ≤ ·)) :
    (watched child limit kills).expired = (Child.deadline? child.startup limit).filter
      (Child.outlasts (watched child limit kills).exit ·) :=
  expired_run rfl (inOrder_calls inOrder _) _

/-- A process for which waiting did not take too long ended within its limit. -/
theorem expired_watched_eq_none_iff (inOrder : kills.Pairwise (· ≤ ·)) {time : Instant}
    (ends : (watched child limit kills).exit = some (time, code)) :
    (watched child limit kills).expired = none ↔ InTime child limit time := by
  rw [expired_watched inOrder, ends, Option.filter_eq_none_iff]
  simp [InTime, Child.outlasts]

/-- Whether a process that ended in time counts as killed. -/
theorem wasKilled_watched (inOrder : kills.Pairwise (· ≤ ·))
    (inTime : (watched child limit kills).expired = none) :
    (watched child limit kills).wasKilled = true ↔ Interrupted child kills := by
  obtain ⟨-, isExpired, isKilled⟩ := run_spawn child child.startup (inOrder_calls inOrder _) limit
  rw [watched] at inTime ⊢
  rw [isKilled, Child.killTime?, ← isExpired, inTime, earlier_none, interrupted_iff inOrder]

/-- A process that ended in time and was not interrupted ended by itself. -/
theorem exit_of_not_interrupted (inOrder : kills.Pairwise (· ≤ ·)) {time : Instant}
    (inTime : (watched child limit kills).expired = none) (calm : ¬ Interrupted child kills)
    (ends : (watched child limit kills).exit = some (time, code)) :
    child.naturalEnd child.startup = some time ∧ code = child.code := by
  obtain ⟨isExit, isExpired, -⟩ := run_spawn child child.startup (inOrder_calls inOrder _) limit
  rw [watched] at inTime ends
  rw [isExit, ← isExpired, inTime, earlier_none] at ends
  have byItself : child.exit? child.startup none = some (time, code) := by
    cases first : (kills.map (child.startup + ·)).head? with
    | none => rwa [first] at ends
    | some kill =>
      rw [interrupted_iff inOrder, first] at calm
      rw [first, exit?_some_eq_struck, struck_of_reached] at ends
      · exact ends
      · have passed : reached (child.naturalEnd child.startup) kill = true := by
          simpa [Child.timelyKill?] using calm
        rwa [← isOver_spawn] at passed
  rw [Child.exit?_none, Option.map_eq_some_iff] at byItself
  obtain ⟨natural, isEnd, same⟩ := byItself
  obtain ⟨rfl, rfl⟩ := Prod.mk.inj same
  exact ⟨isEnd, rfl⟩

/-- Waiting that did not take too long. -/
theorem ending_of_not_expired (inTime : handle.expired = none) :
    handle.ending child args limit =
      handle.exit.map fun (time, code) => ⟨time, child.outcome args handle.wasKilled code⟩ := by
  unfold Handle.ending
  rw [inTime]
  cases limit <;> rfl

/-- Waiting that took too long ends with the process. -/
theorem ending_of_expired (killable : ∀ text, child.killFault ≠ some (.refused text))
    {seconds : Binary64} {deadline : Instant} (late : handle.expired = some deadline) :
    handle.ending child args (some seconds) =
      handle.exit.map fun (time, code) => ⟨time, .error (.timedOut args seconds code)⟩ := by
  unfold Handle.ending
  rw [late]
  cases isFault : child.killFault with
  | none => rfl
  | some fault =>
    cases fault with
    | gone => rfl
    | refused text => exact (killable text isFault).elim

/-- Each result of waiting is that of one class. -/
theorem classified_watched (reads : child.givesUp = false)
    (killable : ∀ text, child.killFault ≠ some (.refused text))
    (inOrder : kills.Pairwise (· ≤ ·))
    (ends : (watched child limit kills).ending child args limit = some ending) :
    ∃ code, (watched child limit kills).exit = some (ending.time, code) ∧
      Classified child args limit kills code ending := by
  cases late : (watched child limit kills).expired with
  | none =>
    rw [ending_of_not_expired late] at ends
    obtain ⟨⟨time, code⟩, isExit, rfl⟩ := Option.map_eq_some_iff.mp ends
    have inTime := (expired_watched_eq_none_iff inOrder isExit).mp late
    have killed := wasKilled_watched inOrder late
    have spared : (watched child limit kills).wasKilled = false ↔ ¬ Interrupted child kills := by
      rw [← killed, Bool.not_eq_true]
    obtain ⟨unreadable, notLate, isKilled, exited⟩ :=
      outcome_classes args code reads (watched child limit kills).wasKilled
    refine ⟨code, isExit, ?_, ?_, ?_, ?_, ?_, ?_⟩
    · exact fun _ calm => exit_of_not_interrupted inOrder late calm isExit
    · intro text
      rw [Child.outcome_eq_ok_iff, spared]
      exact ⟨fun ⟨_, rest⟩ => ⟨inTime, rest⟩, fun ⟨_, rest⟩ => ⟨reads, rest⟩⟩
    · rw [unreadable, spared]
      exact (and_iff_right inTime).symm
    · exact iff_of_false (fun ⟨seconds, _, same⟩ => notLate seconds same) (not_not_intro inTime)
    · rw [isKilled, killed]
      exact (and_iff_right inTime).symm
    · rw [exited, spared]
      exact (and_iff_right inTime).symm
  | some deadline =>
    cases limit with
    | none =>
      rw [expired_watched inOrder, Child.deadline?_none] at late
      cases late
    | some seconds =>
      rw [ending_of_expired killable late] at ends
      obtain ⟨⟨time, code⟩, isExit, rfl⟩ := Option.map_eq_some_iff.mp ends
      have tooLate : ¬ InTime child (some seconds) time := fun inTime => by
        rw [(expired_watched_eq_none_iff inOrder isExit).mpr inTime] at late
        cases late
      exact ⟨code, isExit, fun inTime => absurd inTime tooLate,
        fun _ => iff_of_false (fun same => nomatch same) (fun both => tooLate both.1),
        iff_of_false (fun same => nomatch same) (fun both => tooLate both.1),
        iff_of_true ⟨seconds, rfl, rfl⟩ tooLate,
        iff_of_false (fun same => nomatch same) (fun both => tooLate both.1),
        iff_of_false (fun same => nomatch same) (fun both => tooLate both.1)⟩

theorem earlier_eq_none_iff {first second : Option Instant} :
    earlier first second = none ↔ first = none ∧ second = none := by
  cases first <;> cases second <;> simp [earlier]

/-- Waiting has no end exactly if the process has none. -/
theorem ending_eq_none_iff (killable : ∀ text, child.killFault ≠ some (.refused text))
    (fits : limit = none → handle.expired = none) :
    handle.ending child args limit = none ↔ handle.exit = none := by
  cases late : handle.expired with
  | none => rw [ending_of_not_expired late, Option.map_eq_none_iff]
  | some deadline =>
    cases limit with
    | none => exact nomatch (fits rfl).symm.trans late
    | some seconds => rw [ending_of_expired killable late, Option.map_eq_none_iff]

/-- A process has no end exactly if it has none by itself, there is no limit, and nobody kills
it. -/
theorem exit_watched_eq_none_iff (killable : ∀ text, child.killFault ≠ some (.refused text))
    (inOrder : kills.Pairwise (· ≤ ·)) :
    (watched child limit kills).exit = none ↔
      child.lifetime = none ∧ Child.deadline? child.startup limit = none ∧ kills = [] := by
  have isEnd : child.naturalEnd child.startup = none ↔ child.lifetime = none := by
    rw [Child.naturalEnd, after, Option.map_eq_none_iff]
  rw [watched, (run_spawn child _ (inOrder_calls inOrder _) limit).isExit]
  constructor
  · intro endless
    cases first : earlier (kills.map (child.startup + ·)).head?
        (child.limitKill? child.startup limit (kills.map (child.startup + ·)).head?) with
    | some kill =>
      rw [first] at endless
      exact (exit?_some_ne_none killable kill endless).elim
    | none =>
      rw [first, Child.exit?_none, Option.map_eq_none_iff] at endless
      obtain ⟨noKill, noLimit⟩ := earlier_eq_none_iff.mp first
      obtain rfl : kills = [] := by simpa using noKill
      refine ⟨isEnd.mp endless, ?_, rfl⟩
      rw [Child.limitKill?, List.map_nil, List.head?_nil, Child.exit?_none, endless] at noLimit
      exact Option.eq_none_iff_forall_ne_some.mpr (by simpa [Child.outlasts] using noLimit)
  · rintro ⟨noLife, noLimit, rfl⟩
    have noKill : child.limitKill? child.startup limit none = none := by
      rw [Child.limitKill?, noLimit, Option.filter_none]
    rw [List.map_nil, List.head?_nil, noKill, earlier_none, Child.exit?_none, isEnd.mpr noLife,
      Option.map_none]

/-- A process that is still there at its limit does not end before it. -/
theorem outlasts_exit?_earlier {deadline : Instant} {kill : Option Instant}
    (there : Child.outlasts (child.exit? start kill) deadline = true) :
    Child.outlasts (child.exit? start (earlier kill (some deadline))) deadline = true := by
  have atLimit (natural : Child.outlasts (child.exit? start none) deadline = true) :
      Child.outlasts (child.exit? start (some deadline)) deadline = true := by
    rw [exit?_some_eq_struck]
    exact outlasts_struck (Nat.le_refl _) natural
  cases kill with
  | none => exact atLimit there
  | some kill =>
    rcases Nat.le_total kill deadline with early | late
    · rwa [earlier, Nat.min_eq_left early]
    · rw [earlier, Nat.min_eq_right late]
      exact atLimit ((outlasts_exit?_late late).symm.trans there)

/-- A process that ends before waiting is over ends no earlier than its first kill. -/
theorem le_of_timelyKill? {kill : Option Instant} {first time : Instant}
    (timely : child.timelyKill? start kill = some first)
    (ends : child.exit? start kill = some (time, code)) : first ≤ time := by
  rw [Child.timelyKill?, Option.filter_eq_some_iff] at timely
  obtain ⟨rfl, running⟩ := timely
  rw [exit?_some_eq_struck] at ends
  refine le_of_struck ?_ ends
  rw [← isOver_spawn] at running
  simpa [isOver, spawn] using running

/-- A process is first killed before waiting for it is over. -/
theorem killTime?_le {kill : Option Instant} {time : Instant}
    (ends : child.ending args start limit kill = some ending)
    (killed : child.killTime? start limit kill = some time) : time ≤ ending.time := by
  unfold Child.ending at ends
  rw [Child.killTime?] at killed
  cases limited : child.limitKill? start limit kill with
  | none =>
    rw [limited, earlier_none] at killed
    have exits : (child.exit? start kill).map (fun (time, code) =>
        (⟨time, child.outcome args (child.timelyKill? start kill).isSome code⟩ : Ending)) =
          some ending := by
      rw [← ends, limited]
      cases limit <;> rfl
    obtain ⟨⟨exitTime, code⟩, isExit, rfl⟩ := Option.map_eq_some_iff.mp exits
    exact le_of_timelyKill? killed isExit
  | some deadline =>
    have atMost : time ≤ deadline := by
      rw [limited] at killed
      cases timely : child.timelyKill? start kill with
      | none =>
        rw [timely] at killed
        exact Nat.le_of_eq (Option.some.inj killed).symm
      | some first =>
        rw [timely] at killed
        exact (Option.some.inj killed) ▸ Nat.min_le_right first deadline
    have there := outlasts_exit?_earlier (Option.filter_eq_some_iff.mp limited).2
    cases limit with
    | none => simp [Child.limitKill?, Child.deadline?_none] at limited
    | some seconds =>
      rw [limited] at ends
      simp only at ends
      split at ends
      · cases ends
        exact atMost
      · obtain ⟨⟨exitTime, code⟩, isExit, rfl⟩ := Option.map_eq_some_iff.mp ends
        exact Nat.le_trans atMost (outlasts_iff.mp there exitTime code isExit)

/-- Watching a process that is killed at most once, or whose later kills are left out. -/
theorem watch_head? (program : String) (args : List String) (limit : Option Binary64)
    (starts : child.startFault = none) (inOrder : kills.Pairwise (· ≤ ·)) :
    watch program args child limit kills.head? none false =
      match (watched child limit kills).ending child args limit with
      | none => .endless
      | some ending =>
        ⟨ending.result, ending.time, true, (watched child limit kills).wasKilled⟩ := by
  have calls := inOrder_calls inOrder child.startup
  have isKilled := (run_spawn child child.startup calls limit).isKilled
  rw [watch, watched, isKilled, ending_run calls, List.head?_map]
  simp only [starts, Option.any_none, Bool.false_eq_true, if_false, Option.filter_none]
  cases ends : child.ending args child.startup limit (kills.head?.map (child.startup + ·)) with
  | none => rfl
  | some ending =>
    cases killed : child.killTime? child.startup limit (kills.head?.map (child.startup + ·)) with
    | none => rfl
    | some time =>
      have inTime : reached (some time) ending.time = true :=
        (reached_some _ _).mpr (killTime?_le ends killed)
      simp only [inTime, Option.isSome_some]

/-- **Each process that starts comes to exactly one result**, at its end: an answer, a text that is
not read, too long a wait, a kill, or another code. Too long a wait ends with the process, and only
after it was killed. -/
theorem watch_classified (program : String) (args : List String) (child : Child)
    (limit : Option Binary64) (kills : List Nat) (starts : child.startFault = none)
    (reads : child.givesUp = false) (killable : ∀ text, child.killFault ≠ some (.refused text))
    (inOrder : kills.Pairwise (· ≤ ·)) :
    (watch program args child limit kills.head? none false =
        match (watched child limit kills).ending child args limit with
        | none => .endless
        | some ending =>
          ⟨ending.result, ending.time, true, (watched child limit kills).wasKilled⟩) ∧
      ((watched child limit kills).ending child args limit = none ↔
        child.lifetime = none ∧ Child.deadline? child.startup limit = none ∧ kills = []) ∧
      ∀ ending, (watched child limit kills).ending child args limit = some ending →
        (∃ code, (watched child limit kills).exit = some (ending.time, code) ∧
          Classified child args limit kills code ending) ∧
        (¬ InTime child limit ending.time → ∃ deadline ∈ (watched child limit kills).issued,
          Child.deadline? child.startup limit = some deadline ∧ deadline ≤ ending.time) ∧
        ((watched child limit kills).wasKilled = true → ∀ text, ending.result ≠ .ok text) ∧
        ∀ more, (∀ kill ∈ more, ending.time ≤ child.startup + kill) →
          watched child limit (kills ++ more) = watched child limit kills := by
  have calls := inOrder_calls inOrder child.startup
  refine ⟨watch_head? program args limit starts inOrder, ?_, fun ending ends => ?_⟩
  · rw [ending_eq_none_iff killable fun noLimit => ?_, exit_watched_eq_none_iff killable inOrder]
    rw [expired_watched inOrder, noLimit, Child.deadline?_none, Option.filter_none]
  · obtain ⟨code, isExit, classified⟩ := classified_watched reads killable inOrder ends
    refine ⟨⟨code, isExit, classified⟩, fun late => ?_, fun killed text answers => ?_,
      fun more behind => ?_⟩
    · obtain ⟨deadline, isDeadline, atMost⟩ : ∃ deadline,
          Child.deadline? child.startup limit = some deadline ∧ deadline ≤ ending.time := by
        simpa [InTime] using late
      have isExpired : (watched child limit kills).expired = some deadline := by
        rw [expired_watched inOrder, isDeadline, isExit,
          Option.filter_some_pos (by simpa [Child.outlasts] using atMost)]
      rw [watched, isDeadline] at isExpired ⊢
      exact ⟨deadline, issued_of_expired rfl calls isExpired, rfl, atMost⟩
    · obtain ⟨inTime, spared, -⟩ := (classified.answers text).mp answers
      have notExpired := (expired_watched_eq_none_iff inOrder isExit).mpr inTime
      exact spared ((wasKilled_watched inOrder notExpired).mp killed)
    · rw [watched, List.map_append]
      refine run_append _ fun call isCall => ?_
      obtain ⟨kill, isKill, rfl⟩ := List.mem_map.mp isCall
      rw [watched] at isExit
      rw [isOver, isExit, Option.map_some, reached_some]
      exact behind kill isKill

/-- A process that is killed while it runs, and goes on for a while. -/
def slowToDie : Child := { lifetime := some 5000, dying := 2000 }

/-- `slowToDie` counts as killed, and kills after its end change nothing. -/
theorem watch_classified_slowToDie :
    slowToDie.startFault = none ∧ slowToDie.givesUp = false ∧
      (∀ text, slowToDie.killFault ≠ some (.refused text)) ∧ [1000, 2000].Pairwise (· ≤ ·) ∧
      (watch "flow" [] slowToDie none (some 1000) none false).result =
        .error (.killed [] killedCode (decodeLossy [])) ∧
      watched slowToDie none [1000, 2000, 4000] = watched slowToDie none [1000, 2000] := by
  have killable : ∀ text, slowToDie.killFault ≠ some (.refused text) := fun _ same => nomatch same
  have inOrder : [1000, 2000].Pairwise (· ≤ ·) := by decide
  have ends : (watched slowToDie none [1000, 2000]).ending slowToDie [] none =
      some ⟨3000, .error (.killed [] killedCode (decodeLossy []))⟩ := rfl
  obtain ⟨once, -, classes⟩ :=
    watch_classified "flow" [] slowToDie none [1000, 2000] rfl rfl killable inOrder
  obtain ⟨-, -, -, unchanged⟩ := classes _ ends
  refine ⟨rfl, rfl, killable, inOrder, ?_, unchanged [4000] (by decide)⟩
  rw [List.head?_cons, ends] at once
  rw [once]

end Handle

end TypeSchema
