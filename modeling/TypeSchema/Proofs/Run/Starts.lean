/-
**When processes begin.**

* `Session.StartedBy`: processes began to start, and are there, by an instant;
* `Session.stamps`: what of the processes neither reading nor killing them changes;
* `step_startedBy`, `begin_startedBy`: **a question starts processes at the instants of its steps**,
  and none of them later.
-/

import TypeSchema.Proofs.Run.Step

namespace TypeSchema

/-- What of a process does not change once it is there. -/
def Launch.stamp (launch : Launch) : Child × Instant × Bool :=
  (launch.child, launch.began, launch.started)

namespace Session

variable {session after : Session} {first number : Nat} {now later : Instant}

/-- What of the processes does not change once they are there. -/
def stamps (session : Session) : List (Child × Instant × Bool) :=
  session.launches.map Launch.stamp

/-- The processes from a number on began to start by an instant, and those that are there have
started by then. -/
def StartedBy (session : Session) (first : Nat) (now : Instant) : Prop :=
  ∀ number launch, first ≤ number → session.launches[number]? = some launch →
    launch.began ≤ now ∧ (launch.started = true → launch.start ≤ now)

/-! ### What does not change -/

theorem stamps_update (session : Session) (number : Nat) {change : Launch → Launch}
    (keeps : ∀ launch, (change launch).stamp = launch.stamp) :
    (session.update number change).stamps = session.stamps := by
  refine List.ext_getElem? fun other => ?_
  simp only [stamps, update, List.getElem?_map, List.getElem?_modify]
  cases session.launches[other]? with
  | none => rfl
  | some launch =>
    by_cases same : number = other <;> simp [same, keeps]

@[simp] theorem stamps_kill (session : Session) (number : Nat) (instant : Instant) :
    (session.kill number instant).stamps = session.stamps := by
  rw [kill]
  exact stamps_update _ _ fun _ => by rfl

@[simp] theorem stamps_see (session : Session) (number : Nat) :
    (session.see number).stamps = session.stamps := by
  rw [see]
  exact stamps_update _ _ fun _ => by rfl

@[simp] theorem stamps_say (session : Session) (line : String) :
    (session.say line).stamps = session.stamps := rfl

@[simp] theorem stamps_noteLimit (session : Session) (attempt : Attempt) (now : Instant) :
    (session.noteLimit attempt now).stamps = session.stamps := by
  rw [noteLimit]
  split
  · split <;> simp
  · rfl

@[simp] theorem stamps_stopAttempt (session : Session) (attempt : Attempt) (now : Instant) :
    (session.stopAttempt now attempt).stamps = session.stamps := by
  rw [stopAttempt]
  split
  · simp
  · split <;> simp

@[simp] theorem stamps_readAttempts (session : Session) (attempts : List Attempt) (now : Instant) :
    (session.readAttempts attempts now).stamps = session.stamps := by
  rw [readAttempts]
  induction attempts generalizing session with
  | nil => rfl
  | cons attempt rest ih => exact (ih _).trans (by simp)

@[simp] theorem stamps_stopAttempts (session : Session) (attempts : List Attempt) (now : Instant) :
    (session.stopAttempts attempts now).stamps = session.stamps := by
  rw [stopAttempts]
  induction attempts generalizing session with
  | nil => rfl
  | cons attempt rest ih => exact (ih _).trans (stamps_stopAttempt session attempt now)

/-! ### Changes of a session -/

theorem StartedBy.mono (started : session.StartedBy first now) (order : now ≤ later) :
    session.StartedBy first later := fun number launch fresh found =>
  have ⟨began, there⟩ := started number launch fresh found
  ⟨Nat.le_trans began order, fun isThere => Nat.le_trans (there isThere) order⟩

theorem StartedBy.of_stamps (started : session.StartedBy first now)
    (same : after.stamps = session.stamps) : after.StartedBy first now := by
  intro number launch fresh found
  have stamp : session.stamps[number]? = some launch.stamp := by
    rw [← same, stamps, List.getElem?_map, found]
    rfl
  rw [stamps, List.getElem?_map] at stamp
  obtain ⟨launch', found', isStamp⟩ := Option.map_eq_some_iff.mp stamp
  obtain ⟨sameChild, sameBegan, sameStarted⟩ : launch'.child = launch.child ∧
      launch'.began = launch.began ∧ launch'.started = launch.started := by
    simpa [Launch.stamp] using isStamp
  have known := started number launch' fresh found'
  rw [Launch.start, sameChild, sameBegan, sameStarted] at known
  exact known

/-- A process begins to start. -/
theorem StartedBy.launch (started : session.StartedBy first now) (tool : Tool)
    (args : List String) : (session.launch tool args now).2.2.StartedBy first now := by
  intro number launch fresh found
  change (session.launches ++ [_])[number]? = some launch at found
  rcases Nat.lt_or_ge number session.launches.length with old | new
  · rw [List.getElem?_append_left old] at found
    exact started number launch fresh found
  · rw [List.getElem?_append_right new, List.getElem?_singleton] at found
    split at found
    · cases found
      exact ⟨Nat.le_refl now, fun isThere => by cases isThere⟩
    · cases found

/-- A process is there. -/
theorem StartedBy.start (started : session.StartedBy first now)
    (there : ∀ launch, session.launches[number]? = some launch → launch.start ≤ now) :
    (session.start number now).StartedBy first now := by
  intro other launch fresh found
  rw [launches_start, update, List.getElem?_modify] at found
  obtain ⟨launch', found', rfl⟩ := Option.map_eq_some_iff.mp found
  obtain ⟨began, isThere⟩ := started other launch' fresh found'
  by_cases same : number = other
  · subst same
    simpa using ⟨began, there launch' found'⟩
  · simpa [same] using ⟨began, isThere⟩

end Session

/-! ### Questions -/

namespace Call

variable {call : Call} {tool : Tool} {policy : Policy} {now : Instant} {session : Session}
  {first : Nat}

theorem arrive_startedBy {number : Nat} (child : Child) (started : session.StartedBy first now)
    (there : ∀ launch, session.launches[number]? = some launch → launch.start ≤ now) :
    (call.arrive tool policy number child now session).2.StartedBy first now := by
  rw [arrive]
  split
  · exact started.start there
  · exact started
  · exact started.of_stamps (Session.stamps_stopAttempts _ _ _)

theorem nextRound_startedBy (started : session.StartedBy first now) :
    (call.nextRound tool policy now session).2.StartedBy first now := by
  rw [nextRound]
  split
  · have launched := started.launch tool call.args
    dsimp only
    split
    · rename_i atOnce
      refine arrive_startedBy _ launched fun launch found => ?_
      have isNew : some launch = some _ := found.symm.trans List.getElem?_concat_length
      cases isNew
      exact Nat.le_of_eq (congrArg (now + ·) atOnce)
    · exact launched
  · split <;> exact started

theorem race_startedBy (started : session.StartedBy first now) :
    (call.race tool policy now session).2.StartedBy first now := by
  rw [race_eq]
  split
  · exact started.of_stamps (by simp)
  · exact nextRound_startedBy (started.of_stamps (by simp))

/-- **A step starts a process at its instant**, or none. -/
theorem step_startedBy (tool : Tool) {due : Instant} (sound : call.Sound policy now session)
    (isDue : call.due? = some due) (started : session.StartedBy first due) :
    (call.step tool policy due session).2.StartedBy first due := by
  obtain ⟨-, since, -, fits⟩ := sound
  rw [step]
  cases phase : call.phase with
  | starting number child =>
    rw [phase] at fits
    obtain ⟨-, launch, found, isChild, began, -⟩ := fits
    rw [due?, phase] at isDue
    cases isDue
    refine arrive_startedBy child started fun launch' found' => ?_
    cases found.symm.trans found'
    exact Nat.le_of_eq (by rw [Launch.start, isChild, began, since])
  | racing => exact race_startedBy started
  | draining => exact race_startedBy started

/-- **A question starts its first process as it begins**, or none. -/
theorem begin_startedBy (args : List String) (tool : Tool) (policy : Policy)
    (started : session.StartedBy first now) :
    (begin args tool policy now session).2.StartedBy first now :=
  nextRound_startedBy started

end Call

end TypeSchema
