/-
**What becomes of the processes of a question.**

* `Session.Settled`: a process has ended, or was killed; `Launch.KilledInTime`: it was killed while
  it was there;
* `Session.Advance`: what is done with the processes that a question owns, and with no others. The
  ones that it lets go are settled, and each kill is issued on one of them, once and in time;
* `Attempt.Describes`: what a question knows of a process that it waits for;
* `advance_readAttempts`, `advance_stopAttempts`: **reading attempts and stopping them lets their
  processes go**, whether or not a kill is refused.
-/

import TypeSchema.Proofs.Run.Child
import TypeSchema.Run.Call

namespace TypeSchema

namespace Launch

variable {launch : Launch} {limit : Option Binary64} {now later instant : Instant}

/-- A process has ended. -/
def HasExited (launch : Launch) (now : Instant) : Prop :=
  ∃ time code, launch.child.exit? launch.start launch.killed = some (time, code) ∧ time ≤ now

/-- A process was killed while it was there: before its end, or at its limit if it ends at that very
instant. -/
structure KilledInTime (launch : Launch) (limit : Option Binary64) (instant : Instant) : Prop where
  started : launch.started = true
  killed : launch.killed = some instant
  inTime : ∀ time, launch.child.naturalEnd launch.start = some time →
    instant < time ∨ instant = time ∧ Child.deadline? launch.start limit = some instant

theorem HasExited.mono (exited : launch.HasExited now) (order : now ≤ later) :
    launch.HasExited later := by
  obtain ⟨time, code, exits, before⟩ := exited
  exact ⟨time, code, exits, Nat.le_trans before order⟩

end Launch

namespace Session

variable {session before middle after : Session} {limit : Option Binary64}
  {own kept left gone gone' : List Nat} {now later : Instant}

/-! ### Changes of one launch -/

section Update

variable (session : Session) (number other : Nat) (change : Launch → Launch) (instant : Instant)

@[simp] theorem length_update :
    (session.update number change).launches.length = session.launches.length :=
  List.length_modify ..

theorem getElem?_update_self {launch : Launch} (found : session.launches[number]? = some launch) :
    (session.update number change).launches[number]? = some (change launch) := by
  simp [update, found]

theorem getElem?_update_ne {other : Nat} (differs : other ≠ number) :
    (session.update number change).launches[other]? = session.launches[other]? := by
  simp [update, differs.symm]

@[simp] theorem launches_say (line : String) : (session.say line).launches = session.launches := rfl

@[simp] theorem length_kill :
    (session.kill number instant).launches.length = session.launches.length :=
  List.length_modify ..

theorem getElem?_kill_self {launch : Launch} (found : session.launches[number]? = some launch) :
    (session.kill number instant).launches[number]? =
      some { launch with killed := launch.killed.or (some instant) } := by
  simp [kill, update, found]

theorem getElem?_kill_ne {other : Nat} (differs : other ≠ number) :
    (session.kill number instant).launches[other]? = session.launches[other]? := by
  simp [kill, update, differs.symm]

@[simp] theorem length_see : (session.see number).launches.length = session.launches.length :=
  List.length_modify ..

theorem getElem?_see :
    (session.see number).launches[other]? = (session.launches[other]?).map fun launch =>
      if number = other then { launch with seen := true } else launch := by
  rw [see, update, List.getElem?_modify]
  cases session.launches[other]? <;> simp

@[simp] theorem length_noteLimit (attempt : Attempt) :
    (session.noteLimit attempt instant).launches.length = session.launches.length := by
  rw [noteLimit]
  split
  · split <;> simp
  · rfl

@[simp] theorem length_stopAttempt (attempt : Attempt) :
    (session.stopAttempt instant attempt).launches.length = session.launches.length := by
  rw [stopAttempt]
  split
  · simp
  · split <;> simp

@[simp] theorem length_readAttempts (attempts : List Attempt) :
    (session.readAttempts attempts instant).launches.length = session.launches.length := by
  induction attempts generalizing session with
  | nil => rfl
  | cons attempt rest ih =>
    exact (ih ((session.noteLimit attempt instant).see attempt.number)).trans (by simp)

@[simp] theorem length_stopAttempts (attempts : List Attempt) :
    (session.stopAttempts attempts instant).launches.length = session.launches.length := by
  induction attempts generalizing session with
  | nil => rfl
  | cons attempt rest ih => exact (ih (session.stopAttempt instant attempt)).trans (by simp)

@[simp] theorem launches_start :
    (session.start number instant).launches =
      (session.update number fun launch => { launch with started := true }).launches := rfl

end Update

/-! ### Kills -/

/-- The kills that were issued since. -/
def killsSince (before after : Session) : List (Nat × Instant) :=
  after.kills.drop before.kills.length

theorem killsSince_eq {kills : List (Nat × Instant)} (log : after.kills = before.kills ++ kills) :
    before.killsSince after = kills := by
  rw [killsSince, log, List.drop_left]

/-- Only processes that are not kept are killed, once each and in time. -/
structure Kills (limit : Option Binary64) (own kept : List Nat) (before after : Session) :
    Prop where
  log : after.kills = before.kills ++ before.killsSince after
  once : ((before.killsSince after).map Prod.fst).Nodup
  each : ∀ kill ∈ before.killsSince after,
    (kill.1 ∈ own ∨ before.launches.length ≤ kill.1) ∧ kill.1 ∉ kept ∧
      ∃ launch, after.launches[kill.1]? = some launch ∧ launch.KilledInTime limit kill.2

theorem Kills.of_same (same : after.kills = before.kills) : Kills limit own kept before after := by
  have none : before.killsSince after = [] := killsSince_eq (by rw [same, List.append_nil])
  exact ⟨by rw [none, same, List.append_nil], by simp [none], by simp [none]⟩

/-- A process has ended, or was killed since. -/
def Settled (before after : Session) (number : Nat) (launch : Launch) (now : Instant) : Prop :=
  launch.HasExited now ∨ ∃ instant, (number, instant) ∈ before.killsSince after ∧ instant ≤ now

/-! ### Advances -/

/-- Until an instant, processes that a question owns or starts are dealt with: it keeps some and
lets others go. -/
structure Advance (limit : Option Binary64) (own kept gone : List Nat) (now : Instant)
    (before after : Session) : Prop where
  grows : before.launches.length ≤ after.launches.length
  /-- Other processes are left alone. -/
  frame : ∀ number < before.launches.length, number ∉ own →
    after.launches[number]? = before.launches[number]?
  owned : ∀ number ∈ kept, number ∈ own ∨ before.launches.length ≤ number
  /-- A process that is not kept is let go and settled, unless it never started. -/
  account : ∀ number, number ∈ own ∨ before.launches.length ≤ number → number ∉ kept →
    ∀ launch, after.launches[number]? = some launch → launch.started = true →
      number ∈ gone ∧ before.Settled after number launch now
  /-- What is let go was owned or started, and is not kept. -/
  goes : ∀ number ∈ gone, (number ∈ own ∨ before.launches.length ≤ number) ∧ number ∉ kept ∧
    number < after.launches.length
  kills : Kills limit own kept before after

/-- A process that is there and was not started since is one that a question owned. -/
theorem mem_of_found {number : Nat} {launch : Launch}
    (mine : number ∈ own ∨ session.launches.length ≤ number)
    (found : session.launches[number]? = some launch) : number ∈ own :=
  mine.resolve_right (Nat.not_le.mpr (List.getElem?_eq_some_iff.mp found).1)

namespace Advance

/-- A process that was there and that the question did not own is none that it keeps. -/
theorem not_kept {number : Nat} (advance : Advance limit own kept gone now before after)
    (old : number < before.launches.length) (others : number ∉ own) : number ∉ kept :=
  fun member => (advance.owned number member).elim others (Nat.not_le.mpr old)

/-- What the question keeps or starts later, it owned or started. -/
theorem mine {number : Nat} (advance : Advance limit own kept gone now before after)
    (member : number ∈ kept ∨ after.launches.length ≤ number) :
    number ∈ own ∨ before.launches.length ≤ number :=
  member.elim (advance.owned number) fun fresh => .inr (Nat.le_trans advance.grows fresh)

theorem killed_lt {kill : Nat × Instant} (advance : Advance limit own kept gone now before after)
    (member : kill ∈ before.killsSince after) : kill.1 < after.launches.length := by
  obtain ⟨-, -, launch, found, -⟩ := advance.kills.each kill member
  exact (List.getElem?_eq_some_iff.mp found).1

section Trans

variable (first : Advance limit own kept gone now before middle)
  (second : Advance limit kept left gone' later middle after)

include first second

theorem log_trans : after.kills =
    before.kills ++ (before.killsSince middle ++ middle.killsSince after) := by
  rw [← List.append_assoc, ← first.kills.log, ← second.kills.log]

theorem killsSince_trans :
    before.killsSince after = before.killsSince middle ++ middle.killsSince after :=
  killsSince_eq (log_trans first second)

/-- A process that is not kept is let go by the first advance or by the second one. -/
theorem account_trans (order : now ≤ later) {number : Nat} {launch : Launch}
    (owned : number ∈ own ∨ before.launches.length ≤ number) (dropped : number ∉ left)
    (found : after.launches[number]? = some launch) (started : launch.started = true) :
    number ∈ gone ++ gone' ∧ before.Settled after number launch later := by
  rw [Settled, killsSince_trans first second]
  by_cases still : number ∈ kept ∨ middle.launches.length ≤ number
  · obtain ⟨isGone, settled⟩ := second.account number still dropped launch found started
    refine ⟨List.mem_append_right _ isGone, settled.imp_right ?_⟩
    rintro ⟨instant, killed, inTime⟩
    exact ⟨instant, List.mem_append_right _ killed, inTime⟩
  · obtain ⟨notKept, old⟩ := not_or.mp still
    rw [second.frame number (Nat.not_le.mp old) notKept] at found
    obtain ⟨isGone, settled⟩ := first.account number owned notKept launch found started
    refine ⟨List.mem_append_left _ isGone, settled.imp (·.mono order) ?_⟩
    rintro ⟨instant, killed, inTime⟩
    exact ⟨instant, List.mem_append_left _ killed, Nat.le_trans inTime order⟩

/-- What the first advance kills it does not keep, so the second one leaves it alone. -/
theorem kills_trans : Kills limit own left before after := by
  have since := killsSince_trans first second
  refine ⟨since ▸ log_trans first second, ?_, ?_⟩
  · rw [since, List.map_append, List.nodup_append]
    refine ⟨first.kills.once, second.kills.once, ?_⟩
    rintro _ one _ two rfl
    obtain ⟨kill, member, same⟩ := List.mem_map.mp one
    obtain ⟨again, member', same'⟩ := List.mem_map.mp two
    rw [← same'] at same
    rcases (second.kills.each again member').1 with isKept | fresh
    · exact (first.kills.each kill member).2.1 (same ▸ isKept)
    · exact Nat.not_le.mpr (first.killed_lt member) (same ▸ fresh)
  · intro kill member
    rw [since] at member
    rcases List.mem_append.mp member with member | member
    · obtain ⟨owned, dropped, launch, found, inTime⟩ := first.kills.each kill member
      have old := first.killed_lt member
      refine ⟨owned, second.not_kept old dropped, launch, ?_, inTime⟩
      rw [second.frame _ old dropped, found]
    · obtain ⟨isKept, dropped, found⟩ := second.kills.each kill member
      exact ⟨first.mine isKept, dropped, found⟩

/-- One advance after the other. -/
theorem trans (order : now ≤ later) :
    Advance limit own left (gone ++ gone') later before after := by
  refine ⟨Nat.le_trans first.grows second.grows, ?_, ?_, ?_, ?_, kills_trans first second⟩
  · intro number old others
    have dropped := first.not_kept old others
    rw [second.frame number (Nat.lt_of_lt_of_le old first.grows) dropped,
      first.frame number old others]
  · exact fun number member => first.mine (second.owned number member)
  · exact fun number owned dropped launch => account_trans first second order owned dropped
  · intro number member
    rcases List.mem_append.mp member with member | member
    · obtain ⟨isOwn, dropped, old⟩ := first.goes number member
      exact ⟨isOwn, second.not_kept old dropped, Nat.lt_of_lt_of_le old second.grows⟩
    · obtain ⟨isKept, dropped, old⟩ := second.goes number member
      exact ⟨first.mine isKept, dropped, old⟩

end Trans

/-- Nothing happens. -/
theorem refl (limit : Option Binary64) (own : List Nat) (now : Instant) (session : Session) :
    Advance limit own own [] now session session := by
  refine ⟨Nat.le_refl _, fun _ _ _ => rfl, fun _ member => .inl member, ?_, by simp, .of_same rfl⟩
  intro number mine dropped launch found
  exact (dropped (mem_of_found mine found)).elim

/-- The order in which processes are listed does not matter. -/
theorem congr {own' kept' : List Nat} (advance : Advance limit own kept gone now before after)
    (sameOwn : ∀ number, number ∈ own' ↔ number ∈ own)
    (sameKept : ∀ number, number ∈ kept' ↔ number ∈ kept) :
    Advance limit own' kept' gone now before after := by
  refine ⟨advance.grows, ?_, ?_, ?_, ?_, ?_⟩
  · simpa only [sameOwn] using advance.frame
  · simpa only [sameOwn, sameKept] using advance.owned
  · simpa only [sameOwn, sameKept] using advance.account
  · simpa only [sameOwn, sameKept] using advance.goes
  · obtain ⟨log, once, each⟩ := advance.kills
    exact ⟨log, once, by simpa only [sameOwn, sameKept] using each⟩

/-- A line may be printed. -/
theorem say (advance : Advance limit own kept gone now before after) (line : String) :
    Advance limit own kept gone now before (after.say line) :=
  have ⟨log, once, each⟩ := advance.kills
  ⟨advance.grows, advance.frame, advance.owned, advance.account, advance.goes, log, once, each⟩

/-- Processes that are kept aside. -/
theorem aside (advance : Advance limit own kept gone now before after) (more : List Nat)
    (apart : ∀ number ∈ more, number ∉ own ∧ number < before.launches.length) :
    Advance limit (own ++ more) (kept ++ more) gone now before after := by
  have others (number : Nat) (mine : number ∈ own ∨ before.launches.length ≤ number)
      (dropped : number ∉ kept) : number ∉ kept ++ more := by
    intro again
    rcases List.mem_append.mp again with again | member
    · exact dropped again
    · obtain ⟨notMine, old⟩ := apart number member
      exact mine.elim notMine (Nat.not_le.mpr old)
  refine ⟨advance.grows, ?_, ?_, ?_, ?_, ?_⟩
  · intro number old others
    exact advance.frame number old fun member => others (List.mem_append_left _ member)
  · intro number member
    rcases List.mem_append.mp member with member | member
    · exact (advance.owned number member).imp_left (List.mem_append_left _)
    · exact .inl (List.mem_append_right _ member)
  · intro number mine dropped
    obtain ⟨dropped, others⟩ := not_or.mp (mt List.mem_append.mpr dropped)
    refine advance.account number (mine.imp_left fun member => ?_) dropped
    exact (List.mem_append.mp member).resolve_right others
  · intro number member
    obtain ⟨mine, dropped, old⟩ := advance.goes number member
    exact ⟨mine.imp_left (List.mem_append_left _), others number mine dropped, old⟩
  · obtain ⟨log, once, each⟩ := advance.kills
    refine ⟨log, once, fun kill member => ?_⟩
    obtain ⟨mine, dropped, found⟩ := each kill member
    exact ⟨mine.imp_left (List.mem_append_left _), others _ mine dropped, found⟩

/-- Seeing the end of a process that is let go changes nothing else. -/
theorem see {number : Nat} (advance : Advance limit own [] gone now before after)
    (mine : number ∈ own) : Advance limit own [] gone now before (after.see number) := by
  refine ⟨by simpa using advance.grows, ?_, advance.owned, ?_, by simpa using advance.goes, ?_⟩
  · intro other old others
    have differs : number ≠ other := fun same => others (same ▸ mine)
    rw [getElem?_see, ← advance.frame other old others]
    simp [differs]
  · intro other mine dropped launch found started
    rw [getElem?_see] at found
    obtain ⟨launch', found', rfl⟩ := Option.map_eq_some_iff.mp found
    split at started
    · rw [if_pos ‹_›]
      exact advance.account other mine dropped launch' found' started
    · rw [if_neg ‹_›]
      exact advance.account other mine dropped launch' found' started
  · obtain ⟨log, once, each⟩ := advance.kills
    refine ⟨log, once, fun kill member => ?_⟩
    obtain ⟨mine, dropped, launch, found, inTime⟩ := each kill member
    refine ⟨mine, dropped, _, by rw [getElem?_see, found]; rfl, ?_⟩
    split
    · exact ⟨inTime.started, inTime.killed, inTime.inTime⟩
    · exact inTime

/-- One process is let go. -/
theorem drop {number : Nat} {launch : Launch}
    (length : after.launches.length = before.launches.length)
    (frame : ∀ other ≠ number, after.launches[other]? = before.launches[other]?)
    (found : after.launches[number]? = some launch)
    (settled : after.kills = before.kills ∧ launch.HasExited now ∨
      ∃ instant ≤ now, after.kills = before.kills ++ [(number, instant)] ∧
        launch.KilledInTime limit instant) :
    Advance limit [number] [] [number] now before after := by
  have old : number < after.launches.length := (List.getElem?_eq_some_iff.mp found).1
  refine ⟨Nat.le_of_eq length.symm, ?_, by simp, ?_, by simpa using old, ?_⟩
  · intro other _ others
    exact frame other (List.ne_of_not_mem_cons others)
  · intro other mine _ launch' found' _
    rw [← length] at mine
    have same : other = number := List.mem_singleton.mp (mem_of_found mine found')
    subst same
    cases found.symm.trans found'
    refine ⟨List.mem_singleton_self _, ?_⟩
    rcases settled with ⟨-, exited⟩ | ⟨instant, order, log, -⟩
    · exact .inl exited
    · exact .inr ⟨instant, killsSince_eq log ▸ List.mem_singleton_self _, order⟩
  · rcases settled with ⟨same, -⟩ | ⟨instant, -, log, inTime⟩
    · exact .of_same same
    · have since := killsSince_eq log
      refine ⟨since ▸ log, by simp [since], fun kill member => ?_⟩
      rw [since] at member
      rw [List.mem_singleton.mp member]
      exact ⟨.inl (List.mem_singleton_self _), List.not_mem_nil, launch, found, inTime⟩

end Advance

end Session

/-! ### Attempts -/

namespace Attempt

variable {attempt : Attempt} {args : List String} {limit : Option Binary64} {launch : Launch}
  {now instant : Instant}

/-- What a question knows of a process that it waits for. -/
structure Describes (attempt : Attempt) (args : List String) (limit : Option Binary64)
    (launch : Launch) : Prop where
  child : attempt.child = launch.child
  started : launch.started = true
  unkilled : launch.killed = none
  limitKill : attempt.limitKill = launch.child.limitKill? launch.start limit none
  ending : attempt.ending = launch.child.ending args launch.start limit none

namespace Describes

/-- A process whose wait is over within the limit has ended. -/
theorem hasExited (described : attempt.Describes args limit launch)
    (inTime : attempt.limitKill = none) (ended : attempt.isOver now = true) :
    launch.HasExited now := by
  rw [described.limitKill] at inTime
  rw [isOver, endTime?, described.ending, Child.ending_of_in_time inTime] at ended
  rw [Option.map_map] at ended
  obtain ⟨_, ends, before⟩ := reached_iff.mp ended
  obtain ⟨time, natural, rfl⟩ := Option.map_eq_some_iff.mp ends
  refine ⟨time, launch.child.code, ?_, before⟩
  rw [described.unkilled, Child.exit?_none, natural]
  rfl

/-- Waiting is not over before the limit that a process comes to. -/
theorem limit_le (described : attempt.Describes args limit launch)
    (limited : attempt.limitKill = some instant) (ended : attempt.isOver now = true) :
    instant ≤ now := by
  rw [isOver, endTime?, described.ending] at ended
  rw [described.limitKill] at limited
  obtain ⟨_, ends, before⟩ := reached_iff.mp ended
  obtain ⟨ending, found, rfl⟩ := Option.map_eq_some_iff.mp ends
  exact Nat.le_trans (Child.ending_of_limit_spec limited found).1 before

theorem killedAtLimit (described : attempt.Describes args limit launch)
    (limited : attempt.limitKill = some instant) :
    Launch.KilledInTime { launch with killed := some instant } limit instant := by
  rw [described.limitKill] at limited
  obtain ⟨isDeadline, outlasted⟩ := Child.limitKill?_eq_some_iff.mp limited
  refine ⟨described.started, rfl, fun time natural => ?_⟩
  rcases Nat.lt_or_eq_of_le (outlasted time natural) with before | same
  · exact .inl before
  · exact .inr ⟨same, isDeadline⟩

theorem killedNow (described : attempt.Describes args limit launch)
    (waits : ¬ attempt.isOver now) (below : ¬ reached attempt.limitKill now) :
    Launch.KilledInTime { launch with killed := some now } limit now := by
  rw [isOver, endTime?, described.ending] at waits
  rw [described.limitKill] at below
  exact ⟨described.started, rfl, fun time natural =>
    .inl (Child.naturalEnd_of_running waits below natural)⟩

end Describes

theorem result_eq_ok_iff {text : String} :
    attempt.result = .ok text ↔ ∃ time, attempt.ending = some ⟨time, .ok text⟩ := by
  rw [result]
  split
  · simp [*]
  · rename_i ending notCancelled same
    rw [same]
    obtain ⟨time, result⟩ := ending
    simp
  · simp [*]

/-- An attempt that answers describes a process that is not killed, and answers what it prints. -/
theorem Describes.of_success (described : attempt.Describes args limit launch) {text : String}
    (success : attempt.result = .ok text) :
    attempt.limitKill = none ∧ decode? launch.child.output = some text := by
  obtain ⟨time, ends⟩ := result_eq_ok_iff.mp success
  obtain ⟨inTime, -, -, -, decoded⟩ := Child.ending_eq_ok_iff.mp (described.ending ▸ ends)
  exact ⟨described.limitKill.trans inTime, decoded⟩

/-- An attempt fails with a failure of its own. -/
theorem Describes.of_failure (described : attempt.Describes args limit launch)
    (ended : attempt.isOver now = true) {error : RunError}
    (failure : attempt.result = .error error) : error.IsOfAttempt := by
  obtain ⟨time, ends, -⟩ := reached_iff.mp ended
  obtain ⟨ending, ends, -⟩ := Option.map_eq_some_iff.mp ends
  obtain ⟨time, result⟩ := ending
  rw [Attempt.result, ends] at failure
  cases result with
  | ok text => cases failure
  | error reason =>
    rcases Child.ending_eq_error (described.ending ▸ ends) with rfl | own
    · cases failure
      trivial
    · split at failure
      · cases failure
        trivial
      · rename_i same
        cases same
        cases failure
        exact own
      · rename_i same
        cases same

end Attempt

namespace Session

variable {session after : Session} {args : List String} {limit : Option Binary64} {own : List Nat}
  {attempt : Attempt} {attempts : List Attempt} {now : Instant}

/-- An attempt describes the launch with its number. -/
def Tracks (session : Session) (args : List String) (limit : Option Binary64) (attempt : Attempt) :
    Prop :=
  ∃ launch, session.launches[attempt.number]? = some launch ∧ attempt.Describes args limit launch

theorem Tracks.lt (tracks : session.Tracks args limit attempt) :
    attempt.number < session.launches.length := by
  obtain ⟨launch, found, -⟩ := tracks
  exact (List.getElem?_eq_some_iff.mp found).1

theorem Tracks.of_eq (tracks : session.Tracks args limit attempt)
    (same : after.launches[attempt.number]? = session.launches[attempt.number]?) :
    after.Tracks args limit attempt := by
  obtain ⟨launch, found, described⟩ := tracks
  exact ⟨launch, same.trans found, described⟩

/-- A process that is killed, and need not be waited for any more. -/
theorem advance_kill {launch : Launch} {instant : Instant}
    (found : session.launches[attempt.number]? = some launch)
    (described : attempt.Describes args limit launch) (order : instant ≤ now)
    (inTime : Launch.KilledInTime { launch with killed := some instant } limit instant) :
    Advance limit [attempt.number] [] [attempt.number] now session
      (session.kill attempt.number instant) := by
  have killed := getElem?_kill_self session attempt.number instant found
  rw [described.unkilled, Option.none_or] at killed
  exact .drop (length_kill ..) (fun other differs => getElem?_kill_ne _ _ _ differs) killed
    (.inr ⟨instant, order, rfl, inTime⟩)

/-- An attempt whose wait is over, or whose limit is reached. -/
theorem advance_noteLimit (tracks : session.Tracks args limit attempt)
    (done : attempt.isOver now = true ∨ reached attempt.limitKill now = true) :
    Advance limit [attempt.number] [] [attempt.number] now session
      (session.noteLimit attempt now) := by
  obtain ⟨launch, found, described⟩ := tracks
  cases limited : attempt.limitKill with
  | none =>
    rw [noteLimit, limited]
    have ended : attempt.isOver now = true := done.resolve_right (by simp [limited, reached])
    exact .drop rfl (fun _ _ => rfl) found (.inl ⟨rfl, described.hasExited limited ended⟩)
  | some instant =>
    have order : instant ≤ now := by
      rcases done with ended | came
      · exact described.limit_le limited ended
      · exact (reached_some _ _).mp (limited ▸ came)
    simp only [noteLimit, limited, if_pos order]
    exact advance_kill found described order (described.killedAtLimit limited)

/-- An attempt whose wait is over is read. -/
theorem advance_readAttempt (tracks : session.Tracks args limit attempt)
    (ended : attempt.isOver now = true) :
    Advance limit [attempt.number] [] [attempt.number] now session
      ((session.noteLimit attempt now).see attempt.number) :=
  (advance_noteLimit tracks (.inl ended)).see (List.mem_singleton_self _)

/-- An attempt is stopped; it counts as killed even if the system refuses to. -/
theorem advance_stopAttempt (tracks : session.Tracks args limit attempt) :
    Advance limit [attempt.number] [] [attempt.number] now session
      (session.stopAttempt now attempt) := by
  rw [stopAttempt]
  split
  · exact advance_noteLimit tracks ‹_›
  · rename_i runs
    obtain ⟨waits, below⟩ := not_or.mp runs
    obtain ⟨launch, found, described⟩ := tracks
    have killed := advance_kill found described (Nat.le_refl now)
      (described.killedNow waits below)
    split
    · exact killed.say _
    · exact killed

/-- What is done with each attempt of a list is done with them all. -/
theorem advance_foldl {act : Session → Attempt → Session}
    (each : ∀ attempt ∈ attempts, ∀ session : Session, session.Tracks args limit attempt →
      Advance limit [attempt.number] [] [attempt.number] now session (act session attempt))
    (nodup : (attempts.map Attempt.number).Nodup)
    (tracks : ∀ attempt ∈ attempts, session.Tracks args limit attempt) :
    Advance limit (attempts.map Attempt.number) [] (attempts.map Attempt.number) now session
      (attempts.foldl act session) := by
  induction attempts generalizing session with
  | nil => exact .refl _ _ _ _
  | cons attempt rest ih =>
    obtain ⟨absent, nodupRest⟩ := List.nodup_cons.mp nodup
    obtain ⟨tracksFirst, tracksRest⟩ := List.forall_mem_cons.mp tracks
    have apart (number : Nat) (member : number ∈ rest.map Attempt.number) :
        number ∉ [attempt.number] ∧ number < session.launches.length := by
      obtain ⟨other, isOther, rfl⟩ := List.mem_map.mp member
      refine ⟨fun same => absent ?_, (tracksRest other isOther).lt⟩
      exact List.mem_singleton.mp same ▸ member
    have first := each attempt List.mem_cons_self session tracksFirst
    have later : ∀ other ∈ rest, (act session attempt).Tracks args limit other := by
      intro other isOther
      obtain ⟨others, old⟩ := apart _ (List.mem_map_of_mem isOther)
      exact (tracksRest other isOther).of_eq (first.frame _ old others)
    have remaining := ih (fun other isOther => each other (List.mem_cons_of_mem _ isOther))
      nodupRest later
    exact (first.aside _ apart).trans remaining (Nat.le_refl now)

/-- **Attempts that are read together are let go.** -/
theorem advance_readAttempts (nodup : (attempts.map Attempt.number).Nodup)
    (tracks : ∀ attempt ∈ attempts, session.Tracks args limit attempt)
    (ended : ∀ attempt ∈ attempts, attempt.isOver now = true) :
    Advance limit (attempts.map Attempt.number) [] (attempts.map Attempt.number) now session
      (session.readAttempts attempts now) :=
  advance_foldl (fun attempt member _ tracks => advance_readAttempt tracks (ended attempt member))
    nodup tracks

/-- Reading attempts does not kill a process that does not come to its limit. -/
theorem getElem?_readAttempts {attempts : List Attempt} (now : Instant) {number : Nat}
    {launch : Launch} (found : session.launches[number]? = some launch)
    (spared : ∀ attempt ∈ attempts, attempt.number = number → attempt.limitKill = none) :
    ∃ seen, (session.readAttempts attempts now).launches[number]? =
      some { launch with seen := seen } := by
  induction attempts generalizing session launch with
  | nil => exact ⟨launch.seen, found⟩
  | cons attempt rest ih =>
    obtain ⟨sparedFirst, sparedRest⟩ := List.forall_mem_cons.mp spared
    have noted : (session.noteLimit attempt now).launches[number]? = some launch := by
      rw [noteLimit]
      split
      · rename_i instant limited
        split
        · rw [getElem?_kill_ne, found]
          rintro rfl
          exact Option.some_ne_none _ (limited.symm.trans (sparedFirst rfl))
        · exact found
      · exact found
    have wasSeen : ((session.noteLimit attempt now).see attempt.number).launches[number]? =
        some (if attempt.number = number then { launch with seen := true } else launch) := by
      rw [getElem?_see, noted, Option.map_some]
    obtain ⟨seen, still⟩ := ih wasSeen sparedRest
    refine ⟨seen, still.trans ?_⟩
    split <;> rfl

/-- **Attempts that are stopped are let go**, whether or not a kill is refused. -/
theorem advance_stopAttempts (now : Instant) (nodup : (attempts.map Attempt.number).Nodup)
    (tracks : ∀ attempt ∈ attempts, session.Tracks args limit attempt) :
    Advance limit (attempts.map Attempt.number) [] (attempts.map Attempt.number) now session
      (session.stopAttempts attempts now) :=
  advance_foldl (fun _ _ _ tracks => advance_stopAttempt tracks) nodup tracks

end Session

end TypeSchema
