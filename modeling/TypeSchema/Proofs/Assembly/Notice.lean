/-
**The notice that the type checker is not ready.**

* `readyAt?`: when a wait for the type checker is over, if it ever is;
* `NoticedOnce`: a wait that prints the notice once, if at all, and exactly if it is not over before
  the notice is due;
* `run_notice`: the delay of the notice is cut short when the wait is over, so that nothing that
  comes later decides it; `run_notice_endless`: nothing cuts it short in a wait without an end;
* `lines_waitForServer`: what waiting for the type checker prints is what the delay of the notice
  comes to meanwhile;
* `first_event_decides`: **every delay is decided once, by the first event that can**, so that the
  notice is printed at most once, and only if the wait was not over before it was due.
-/

import TypeSchema.Proofs.Assembly.Route
import TypeSchema.Proofs.Clock.Delay
import TypeSchema.Proofs.Run.Child

namespace TypeSchema

section

variable (tool : Tool) (settings : Settings) (now : Instant) (session : Session)

/-- When the type checker has answered whether it is ready, or has failed; none if it never does. -/
def readyAt? : Option Instant :=
  settledAt? (Command.status.ask tool settings.policy now session).1
    (Command.status.ask tool settings.policy now session).2.1

end

/-- Waiting for the type checker comes to what its question comes to, and has no end exactly if its
process has none. It prints the notice at most once, and exactly if the wait is not over, whatever it
comes to, before the notice is due: what is printed is what the delay of the notice comes to, which
nothing that happens after the wait changes. -/
structure NoticedOnce (tool : Tool) (settings : Settings) (path : String) (now : Instant)
    (session : Session) : Prop where
  instant : (waitForServer tool settings path now session).1 =
    (Command.status.ask tool settings.policy now session).1
  result : (waitForServer tool settings path now session).2.1 =
    (Command.status.ask tool settings.policy now session).2.1
  endless : readyAt? tool settings now session = none ↔
    (session.next (tool.supply Command.status.args)).startFault = none ∧
      (session.next (tool.supply Command.status.args)).lifetime = none
  notice : ∃ printed,
    (waitForServer tool settings path now session).2.2.lines = session.lines ++ printed ∧
      printed.Sublist [noticeLine path] ∧
      (printed ≠ [] ↔ ∃ due, after now settings.statusNoticeDelay.span? = some due ∧
        ∀ ready, readyAt? tool settings now session = some ready → due ≤ ready) ∧
      (∀ ready, readyAt? tool settings now session = some ready → ∀ later, printed =
        ((Delay.schedule now settings.statusNoticeDelay.span? (noticeLine path)).run now
          (.elapse (ready - now) :: .cancel none :: later)).value?.toList) ∧
      (readyAt? tool settings now session = none → ∀ wait,
        (∀ due, after now settings.statusNoticeDelay.span? = some due → due ≤ now + wait) →
          printed = ((Delay.schedule now settings.statusNoticeDelay.span? (noticeLine path)).run now
            [.elapse wait]).value?.toList)

/-- A process that is run once has no result exactly if it is there and has no end. -/
theorem invoke_endless_iff (program : String) (args : List String) (child : Child) :
    (invoke program args child none).result = .error .endless ↔
      child.startFault = none ∧ child.lifetime = none := by
  simp only [invoke, watch, Option.any_none, Bool.false_eq_true, if_false, Option.filter_none]
  cases starts : child.startFault with
  | some fault => cases fault <;> simp [StartFault.error]
  | none =>
    cases lifetime : child.lifetime with
    | none => simp [Child.ending, Child.exit?, Child.naturalEnd, after, lifetime, Watched.endless]
    | some span =>
      have ends : child.ending args child.startup none none =
          some ⟨child.startup + span, child.outcome args false child.code⟩ := by
        simp [Child.ending, Child.exit?, Child.naturalEnd, Child.timelyKill?, after, lifetime]
      simp only [Option.map_none, ends, reduceCtorEq, and_false, iff_false]
      intro endless
      rcases Child.outcome_eq_error endless with isCancelled | isOwn
      · cases isCancelled
      · exact isOwn

variable (tool : Tool) (settings : Settings) (path : String) (now : Instant) (session : Session)

/-- What is asked once takes its time. -/
theorem le_ask (args : List String) : now ≤ (session.ask tool args now).1 :=
  Nat.le_add_right _ _

/-- **A wait has no end** exactly if its process has none. -/
theorem readyAt?_eq_none_iff : readyAt? tool settings now session = none ↔
    (session.next (tool.supply Command.status.args)).startFault = none ∧
      (session.next (tool.supply Command.status.args)).lifetime = none := by
  have asked : (Command.status.ask tool settings.policy now session).2.1 =
    Command.status.answer (invoke tool.program Command.status.args
      (session.next (tool.supply Command.status.args)) none).result := rfl
  rw [← invoke_endless_iff tool.program Command.status.args, readyAt?, asked]
  generalize (invoke tool.program Command.status.args
    (session.next (tool.supply Command.status.args)) none).result = result
  obtain error | answer := result
  · cases error with
    | exited =>
      simp only [Command.answer]
      split <;> simp [settledAt?]
    | _ => simp [Command.answer, settledAt?]
  · simp [Command.answer, settledAt?]

theorem eq_of_readyAt?_eq_some {ready : Instant}
    (isReady : readyAt? tool settings now session = some ready) :
    (Command.status.ask tool settings.policy now session).1 = ready := by
  unfold readyAt? settledAt? at isReady
  split at isReady
  · cases isReady
  · exact Option.some.inj isReady

/-- What the delay of the notice comes to when the wait ends at an instant, whatever comes later. -/
theorem run_notice {ready : Instant} (order : now ≤ ready) (span : Span) (line : String)
    (later : List (Delay.Event String)) :
    ((Delay.schedule now span line).run now (.elapse (ready - now) :: .cancel none :: later)).value? =
      ((Delay.schedule now span line).wait (some ready)).value? := by
  have wait : now + (ready - now) = ready := Nat.add_sub_cancel' order
  rw [Delay.run, Delay.react, wait, Delay.run, Delay.react,
    Delay.run_of_not_pending (Delay.isPending_cancel none _), Delay.value?_cancel_none, Delay.wait]

/-- What the delay of the notice comes to in a wait without an end, as soon as it was due. -/
theorem run_notice_endless {wait : Nat} (span : Span) (line : String)
    (isDue : ∀ due, after now span = some due → due ≤ now + wait) :
    ((Delay.schedule now span line).run now [.elapse wait]).value? =
      ((Delay.schedule now span line).wait none).value? := by
  rw [Delay.run, Delay.run, Delay.react, Delay.schedule, Delay.advance]
  cases due? : after now span with
  | none => rfl
  | some due => rw [if_pos ((reached_some _ _).mpr (isDue due due?)), Delay.wait]

/-- **The notice**: what waiting for the type checker prints. -/
theorem lines_waitForServer :
    (waitForServer tool settings path now session).2.2.lines = session.lines ++
      ((Delay.schedule now settings.statusNoticeDelay.span? (noticeLine path)).wait
        (readyAt? tool settings now session)).value?.toList := by
  have asked : (Command.status.ask tool settings.policy now session).2.2.lines = session.lines :=
    lines_ask tool Command.status.args now session
  rw [waitForServer]
  dsimp only
  rw [← asked, readyAt?]
  cases ((Delay.schedule now settings.statusNoticeDelay.span? (noticeLine path)).wait
    (settledAt? (Command.status.ask tool settings.policy now session).1
      (Command.status.ask tool settings.policy now session).2.1)).value? with
  | none => exact (List.append_nil _).symm
  | some line => rfl

/-- **The notice is printed once, if at all.** -/
theorem noticedOnce : NoticedOnce tool settings path now session := by
  refine ⟨rfl, rfl, readyAt?_eq_none_iff tool settings now session, _,
    lines_waitForServer tool settings path now session, ?_, ?_, fun ready isReady later => ?_,
    fun endless wait isDue => ?_⟩
  · rcases Delay.value?_wait_schedule now settings.statusNoticeDelay.span? (noticeLine path)
      (readyAt? tool settings now session) with ⟨-, said⟩ | ⟨-, silent⟩
    · rw [said]
      exact .refl _
    · rw [silent]
      exact List.nil_sublist _
  · rcases Delay.value?_wait_schedule now settings.statusNoticeDelay.span? (noticeLine path)
      (readyAt? tool settings now session) with ⟨isDue, said⟩ | ⟨isEarly, silent⟩
    · rw [said]
      exact iff_of_true (List.cons_ne_nil _ _) isDue
    · rw [silent]
      exact iff_of_false (fun some_ => some_ rfl) isEarly
  · have order : now ≤ ready := by
      rw [← eq_of_readyAt?_eq_some tool settings now session isReady]
      exact le_ask tool now session Command.status.args
    rw [run_notice now order, isReady]
  · rw [run_notice_endless now _ _ isDue, endless]

/-- **Every delay is decided once, by the first event that can.** A delay of less than no time is one
of no time. So the notice is printed at most once when the server is waited for, and exactly if the
wait is not over, whatever it comes to, before the notice is due; a wait without an end is never
over. -/
theorem first_event_decides :
    (∀ (α : Type) (start : Instant) (seconds : Binary64) (value : α),
      (seconds.compareInt? 0 = some .lt → seconds.span? = some 0) ∧
        (Delay.schedule start seconds.span? value).DecidedOnce start
          (after start seconds.span?) value) ∧
    ∀ (tool : Tool) (settings : Settings) (path : String) (now : Instant) (session : Session),
      NoticedOnce tool settings path now session :=
  ⟨fun _ start seconds value => ⟨Binary64.span?_of_negative,
    Delay.decidedOnce_schedule start seconds.span? value⟩, noticedOnce⟩

/-- A type checker that says that it has failed after a time, or never does. -/
def failsAfter (lifetime : Span) : Tool :=
  ⟨"flow", fun _ => ⟨"status", [{ lifetime := lifetime, code := 3 }]⟩, .styled⟩

/-- The notice is printed once before a failure that takes two seconds, and once if the type checker
never answers; and a delay of less than no time that is cut short after its value has come keeps it. -/
theorem first_event_decides_slowFailure :
    (waitForServer (failsAfter (some 2000000000)) {} "e.js" 0 {}).2.2.lines = [noticeLine "e.js"] ∧
      (waitForServer (failsAfter none) {} "e.js" 0 {}).2.2.lines = [noticeLine "e.js"] ∧
      ∃ delay, delay = Delay.schedule 7 (Binary64.ofInt (-1)).span? "elapsed" ∧
        delay.run 7 [.elapse 0, .cancel (some "late"), .cancel none] = .resolved "elapsed" := by
  obtain ⟨delays, notice⟩ := first_event_decides
  have isDue : after 0 ({} : Settings).statusNoticeDelay.span? = some 1000000000 := by
    decide +kernel
  have once (lifetime : Span) (late : ∀ ready, readyAt? (failsAfter lifetime) {} 0 {} = some ready →
      1000000000 ≤ ready) :
      (waitForServer (failsAfter lifetime) {} "e.js" 0 {}).2.2.lines = [noticeLine "e.js"] := by
    obtain ⟨printed, lines, fewer, isPrinted, -⟩ :=
      (notice (failsAfter lifetime) {} "e.js" 0 {}).notice
    rw [lines]
    refine fewer.eq_of_length_le (Nat.succ_le_of_lt (List.length_pos_of_ne_nil ?_))
    exact isPrinted.mpr ⟨1000000000, isDue, late⟩
  obtain ⟨isNone, decided⟩ := delays String 7 (.ofInt (-1)) "elapsed"
  have atOnce : after 7 (Binary64.ofInt (-1)).span? = some 7 :=
    congrArg (after 7) (isNone (by decide +kernel))
  refine ⟨once _ (by decide +kernel), once _ fun ready isReady => ?_, _, rfl, ?_⟩
  · have endless := (notice (failsAfter none) {} "e.js" 0 {}).endless.mpr ⟨rfl, rfl⟩
    cases endless.symm.trans isReady
  · rw [atOnce] at decided
    have fires : reached (some 7) (7 + 0) = true := by decide
    exact decided.decided [] (.elapse 0) [.cancel (some "late"), .cancel none] Delay.quiet_nil fires

end TypeSchema
