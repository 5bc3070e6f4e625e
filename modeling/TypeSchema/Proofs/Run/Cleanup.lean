/-
**No process outlives the question that started it.**

* `Runs.At.winner_spared`: a process whose answer is read is not killed;
* `no_process_outlives`: **when a question ends**, whatever its end, each process that it started
  has ended or was killed, even if the system refuses to kill some; each is killed at most once, and
  only while it is there; and no process that answered is killed.
-/

import TypeSchema.Proofs.Run.Races

namespace TypeSchema

open Call

/-- A process whose answer is read is not killed. -/
theorem Runs.At.winner_spared {tool : Tool} {policy : Policy} {giveUp : Option Instant}
    {race : Race} {call : Call} {later : List Race}
    {outcome : Instant × Except RunError String × Session} {winner : Attempt}
    (isAt : Runs.At tool policy giveUp race call later outcome) (read : winner ∈ race.attempts)
    (success : winner.isSuccess = true) :
    ∃ launch, outcome.2.2.launches[winner.number]? = some launch ∧ launch.killed = none := by
  obtain ⟨first, -, -, -, settles⟩ := settle?_of_success isAt.slots ⟨winner, read, success⟩
  obtain ⟨ordered, -, attempts, -, rest⟩ := isAt
  obtain ⟨text, result⟩ := Attempt.isSuccess_iff.mp success
  rw [attempts] at read settles
  obtain ⟨isLive, -⟩ := mem_finished.mp read
  obtain ⟨launch, found, described⟩ := ordered.tracks winner isLive
  -- Reading the attempts together only sees the end of this one.
  have spared : ∀ other ∈ call.finished race.instant, other.number = winner.number →
      other.limitKill = none := by
    intro other isOther same
    rw [List.inj_on_of_nodup_map ordered.nodup (mem_finished.mp isOther).1 isLive same]
    exact (described.of_success result).1
  obtain ⟨seen, still⟩ := Session.getElem?_readAttempts race.instant found spared
  have left := ordered.after_finished race.instant
  have stopped := Session.advance_stopAttempts race.instant left.nodup left.tracks
  rw [race_eq, settles] at rest
  obtain ⟨-, rfl⟩ := rest.of_ended
  refine ⟨_, (stopped.frame _ (List.getElem?_eq_some_iff.mp still).1 fun again => ?_).trans still,
    described.unkilled⟩
  exact ordered.apart again (List.mem_map_of_mem read)

/-- **No process outlives the question that started it.** A question that never ends is one that
nothing more happens to. -/
theorem no_process_outlives (args : List String) (tool : Tool) (policy : Policy)
    (patience : Option Nat) (start : Instant) (before : Session) {now : Instant}
    {result : Except RunError String} {after : Session}
    (ran : run args tool policy (patience.map (start + ·)) start before = (now, result, after))
    (ends : result ≠ .error .endless) :
    (∀ number launch, before.launches.length ≤ number →
        after.launches[number]? = some launch → launch.started = true →
        before.Settled after number launch now) ∧
      after.kills = before.kills ++ before.killsSince after ∧
      ((before.killsSince after).map Prod.fst).Nodup ∧
      (∀ kill ∈ before.killsSince after, before.launches.length ≤ kill.1 ∧
        ∃ launch, after.launches[kill.1]? = some launch ∧
          launch.KilledInTime policy.limit kill.2) ∧
      ∀ race ∈ chronicle args tool policy (patience.map (start + ·)) start before,
        ∀ winner ∈ race.attempts, winner.isSuccess = true →
          winner.number ∉ (before.killsSince after).map Prod.fst := by
  have runs := runs_run args tool policy (patience.map (start + ·)) start before
  have begun := begin_follows args tool policy start before
  obtain ⟨_, first, -⟩ := begun.advance
  obtain ⟨order, kept, _, second, all⟩ := runs.advance begun.sound fun instant given => by
    obtain ⟨span, -, rfl⟩ := Option.map_eq_some_iff.mp given
    exact Nat.le_add_right _ _
  rw [ran] at order second all
  obtain rfl : kept = [] := all ends
  have advance := first.trans second order
  refine ⟨fun number launch fresh found started => ?_, advance.kills.log, advance.kills.once,
    fun kill member => ?_, fun race isRace winner read success killed => ?_⟩
  · exact (advance.account number (.inr fresh) List.not_mem_nil launch found started).2
  · obtain ⟨mine, -, inTime⟩ := advance.kills.each kill member
    exact ⟨mine.resolve_left List.not_mem_nil, inTime⟩
  · obtain ⟨earlier, later, parts⟩ := List.append_of_mem isRace
    obtain ⟨call, isAt, -⟩ := chronicle_split parts
    obtain ⟨launch, found, spared⟩ := isAt.winner_spared read success
    obtain ⟨kill, member, same⟩ := List.mem_map.mp killed
    obtain ⟨-, -, launch', found', inTime⟩ := advance.kills.each kill member
    rw [ran] at found
    rw [same, found] at found'
    cases found'
    exact Option.some_ne_none _ (inTime.killed.symm.trans spared)

/-- A process that hangs and cannot be killed, and one that answers. -/
def hungFirst : Tool :=
  ⟨"flow", fun _ => ⟨"version",
    [{ lifetime := none, killFault := some (.refused "denied") }, { output := [111, 107] }]⟩,
    .styled⟩

/-- The process that hangs was killed when the other one had answered. -/
theorem no_process_outlives_hungFirst :
    ∃ now after launch, run ["version"] hungFirst threeTries none 0 {} = (now, .ok "ok", after) ∧
      after.launches[0]? = some launch ∧ launch.started = true ∧
      ({} : Session).killsSince after = [(0, now)] ∧
      ({} : Session).Settled after 0 launch now := by
  have answers : (run ["version"] hungFirst threeTries none 0 {}).2.1 = .ok "ok" := by
    decide +kernel
  have started : (run ["version"] hungFirst threeTries none 0 {}).2.2.launches[0]?.map
      Launch.started = some true := by
    decide +kernel
  have kills : ({} : Session).killsSince (run ["version"] hungFirst threeTries none 0 {}).2.2 =
      [(0, (run ["version"] hungFirst threeTries none 0 {}).1)] := by
    decide +kernel
  generalize ran : run ["version"] hungFirst threeTries none 0 {} = outcome at answers started kills
  obtain ⟨now, result, after⟩ := outcome
  obtain rfl : result = .ok "ok" := answers
  obtain ⟨launch, found, isStarted⟩ := Option.map_eq_some_iff.mp started
  refine ⟨now, after, launch, rfl, found, isStarted, kills, ?_⟩
  rw [← Option.map_none (0 + ·)] at ran
  exact (no_process_outlives ["version"] hungFirst threeTries none 0 {} ran (by simp)).1 0 launch
    (Nat.zero_le _) found isStarted

end TypeSchema
