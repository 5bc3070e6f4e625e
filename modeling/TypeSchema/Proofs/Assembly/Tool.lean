/-
**A program as a desk.**

* `Session.skips`: the lines that report skipped exports; `prints_ofTool`: **a program that is asked
  prints none of them**;
* `step_shorter`, `comesWithin_begin`: a question is seen to no more often than the policy allows;
  `comesWithin_of_answers`: so an answer that comes at all comes in time;
* `Tool.Knows`: **a program answers every question with the same answer**, after some time;
* `knows_of_comesTo`: a program does if each of its processes ends in time and says the same.
-/

import TypeSchema.Proofs.Assembly.Desk
import TypeSchema.Proofs.Assembly.Inquiry
import TypeSchema.Proofs.Run.Step

namespace TypeSchema

/-! ### Lines -/

/-- Whether a line reports a skipped export. -/
def isSkipLine (line : String) : Bool := "Skipping type ".toList.isPrefixOf line.toList

/-- The lines that report skipped exports. -/
def Session.skips (session : Session) : List String := session.lines.filter isSkipLine

theorem isSkipLine_skipLine (name reason : String) : isSkipLine (skipLine name reason) = true := by
  delta skipLine
  simp [isSkipLine, toString]

namespace Session

variable {session : Session} {line : String}

theorem skips_say_of_isSkipLine (isSkip : isSkipLine line = true) :
    (session.say line).skips = session.skips ++ [line] := by
  simp [skips, say, List.filter_cons_of_pos isSkip]

theorem skips_say_of_not (other : isSkipLine line = false) :
    (session.say line).skips = session.skips := by
  simp [skips, say, List.filter_cons_of_neg, other]

@[simp] theorem skips_update (session : Session) (number : Nat) (change : Launch → Launch) :
    (session.update number change).skips = session.skips := rfl

@[simp] theorem skips_start (session : Session) (number : Nat) (now : Instant) :
    (session.start number now).skips = session.skips := rfl

@[simp] theorem skips_kill (session : Session) (number : Nat) (instant : Instant) :
    (session.kill number instant).skips = session.skips := rfl

@[simp] theorem skips_launch (session : Session) (tool : Tool) (args : List String)
    (now : Instant) : (session.launch tool args now).2.2.skips = session.skips := rfl

@[simp] theorem skips_noteLimit (session : Session) (attempt : Attempt) (now : Instant) :
    (session.noteLimit attempt now).skips = session.skips := by
  rw [noteLimit]
  split
  · split <;> rfl
  · rfl

@[simp] theorem skips_readAttempts (session : Session) (attempts : List Attempt) (now : Instant) :
    (session.readAttempts attempts now).skips = session.skips := by
  rw [readAttempts]
  induction attempts generalizing session with
  | nil => rfl
  | cons attempt rest ih => exact (ih _).trans (skips_noteLimit session attempt now)

@[simp] theorem skips_stopAttempt (session : Session) (attempt : Attempt) (now : Instant) :
    (session.stopAttempt now attempt).skips = session.skips := by
  rw [stopAttempt]
  split
  · exact skips_noteLimit session attempt now
  · split
    · refine skips_say_of_not ?_
      simp [isSkipLine, toString, String.toList_append, List.isPrefixOf]
    · rfl

@[simp] theorem skips_stopAttempts (session : Session) (attempts : List Attempt) (now : Instant) :
    (session.stopAttempts attempts now).skips = session.skips := by
  rw [stopAttempts]
  induction attempts generalizing session with
  | nil => rfl
  | cons attempt rest ih => exact (ih _).trans (skips_stopAttempt session attempt now)

end Session

namespace Call

variable (call : Call) (tool : Tool) (policy : Policy) (now : Instant) (session : Session)

theorem skips_arrive (number : Nat) (child : Child) :
    (call.arrive tool policy number child now session).2.skips = session.skips := by
  rw [arrive]
  split
  · rfl
  · refine Session.skips_say_of_not ?_
    simp [isSkipLine, String.toList_append, List.isPrefixOf]
  · exact Session.skips_stopAttempts _ _ _

theorem skips_nextRound : (call.nextRound tool policy now session).2.skips = session.skips := by
  rw [nextRound]
  split
  · dsimp only
    split
    · exact skips_arrive call tool policy now _ _ _
    · rfl
  · split <;> rfl

theorem skips_race : (call.race tool policy now session).2.skips = session.skips := by
  rw [race_eq]
  split
  · simp
  · exact (skips_nextRound _ tool policy now _).trans (Session.skips_readAttempts _ _ _)

theorem skips_step : (call.step tool policy now session).2.skips = session.skips := by
  rw [step]
  split
  · exact skips_arrive call tool policy now session _ _
  · exact skips_race call tool policy now session
  · exact skips_race call tool policy now session

end Call

/-- **A program that is asked** prints no line that reports a skipped export. -/
theorem prints_ofTool (tool : Tool) (policy : Policy) :
    (Desk.ofTool tool policy).Prints Session.skips where
  begin _ now session := Call.skips_nextRound _ tool policy now session
  step pending now session := Call.skips_step pending.2 tool policy now session
  say name reason _ := Session.skips_say_of_isSkipLine (isSkipLine_skipLine name reason)

/-! ### Steps -/

namespace Call

variable {call next : Call} {tool : Tool} {policy : Policy} {now due : Instant} {session : Session}

/-- What is known of the rounds of a question by its phase. -/
def Staged (call : Call) (policy : Policy) : Prop :=
  match call.phase with
  | .starting _ _ => call.rounds < policy.retries
  | .racing _ => True
  | .draining => policy.retries ≤ call.rounds

theorem arrive_shorter {number : Nat} {child : Child} (room : call.rounds < policy.retries)
    (waits : (call.arrive tool policy number child now session).1 = .waiting next) :
    next.Staged policy ∧
      next.stepsLeft policy ≤ 3 * (policy.retries - call.rounds) + call.live.length := by
  rw [arrive] at waits
  split at waits
  · cases waits
    refine ⟨trivial, ?_⟩
    simp only [stepsLeft, List.length_append, List.length_singleton]
    omega
  · cases waits
    refine ⟨trivial, ?_⟩
    simp only [stepsLeft]
    omega
  · cases waits

theorem nextRound_shorter (waits : (call.nextRound tool policy now session).1 = .waiting next) :
    next.Staged policy ∧
      next.stepsLeft policy ≤ 3 * (policy.retries - call.rounds) + call.live.length + 1 := by
  rw [nextRound] at waits
  split at waits
  · rename_i room
    dsimp only at waits
    split at waits
    · exact (arrive_shorter room waits).imp_right Nat.le_succ_of_le
    · cases waits
      exact ⟨room, Nat.le_refl _⟩
  · rename_i full
    split at waits
    · cases waits
    · cases waits
      exact ⟨Nat.not_lt.mp full, Nat.le_refl _⟩

theorem race_shorter (waits : (call.race tool policy now session).1 = .waiting next) :
    next.Staged policy ∧ next.stepsLeft policy ≤
      3 * (policy.retries - call.rounds) + (call.pruned now).live.length + 1 := by
  rw [race_eq] at waits
  split at waits
  · cases waits
  · exact nextRound_shorter waits

/-- **A step leaves fewer steps**, if it does not come too early. -/
theorem step_shorter (staged : call.Staged policy) (isDue : call.due? = some due)
    (inTime : due ≤ now) (waits : (call.step tool policy now session).1 = .waiting next) :
    next.Staged policy ∧ next.stepsLeft policy < call.stepsLeft policy := by
  rw [due?] at isDue
  rw [step] at waits
  rw [Staged] at staged
  have fewer := (pruned_sublist call now).length_le
  cases phase : call.phase with
  | starting number child =>
    rw [phase] at waits staged
    obtain ⟨nextStaged, shorter⟩ := arrive_shorter staged waits
    refine ⟨nextStaged, ?_⟩
    simp only [stepsLeft, phase] at shorter ⊢
    omega
  | racing roundEnd =>
    rw [phase] at waits
    obtain ⟨nextStaged, shorter⟩ := race_shorter waits
    refine ⟨nextStaged, ?_⟩
    simp only [stepsLeft, phase] at shorter ⊢
    omega
  | draining =>
    rw [phase] at waits isDue staged
    obtain ⟨nextStaged, shorter⟩ := race_shorter waits
    -- The first end is what the step waits for, so at least one attempt is read.
    have fewer : (call.pruned now).live.length < call.live.length := by
      obtain ⟨time, first, rfl⟩ := Option.map_eq_some_iff.mp isDue
      obtain ⟨attempt, isLive, ends⟩ := firstEnd?_eq_some first
      refine List.length_filter_lt_length_iff_exists.mpr ⟨attempt, isLive, ?_⟩
      rw [Attempt.isOver, ends, (reached_some _ _).mpr (Nat.le_trans (Nat.le_max_right _ _) inTime)]
      exact Bool.false_ne_true
    refine ⟨nextStaged, ?_⟩
    simp only [stepsLeft, phase] at shorter ⊢
    omega

theorem begin_shorter {args : List String}
    (waits : (begin args tool policy now session).1 = .waiting next) :
    next.Staged policy ∧ next.stepsLeft policy ≤ bound policy := by
  obtain ⟨staged, shorter⟩ := nextRound_shorter waits
  refine ⟨staged, Nat.le_trans shorter ?_⟩
  simp [bound]

theorem stepsLeft_pos (call : Call) (policy : Policy) : 0 < call.stepsLeft policy := by
  rw [stepsLeft]
  split <;> omega

end Call

variable {tool : Tool} {policy : Policy} {command : Command} {now : Instant}
  {answer : Except RunError String}

/-- **A question is seen to at most as often as it has steps left.** -/
theorem comesWithin_reply {steps : Nat} {progress : Progress}
    (shorter : ∀ call, progress = .waiting call →
      call.Staged policy ∧ call.stepsLeft policy ≤ steps) :
    (Desk.ofTool tool policy).ComesWithin False steps now (command.reply progress) := by
  induction steps generalizing now progress with
  | zero =>
    cases progress with
    | ended result => exact .answered 0 now _
    | waiting call =>
      have none := (shorter call rfl).2
      have some := call.stepsLeft_pos policy
      omega
  | succ steps ih =>
    cases progress with
    | ended result => exact .answered (steps + 1) now _
    | waiting call =>
      obtain ⟨staged, enough⟩ := shorter call rfl
      refine .waiting False.elim fun due isDue session => ih fun next stepped => ?_
      obtain ⟨nextStaged, less⟩ := Call.step_shorter staged isDue (Nat.le_max_right _ _) stepped
      exact ⟨nextStaged, by omega⟩

/-- A question is seen to no more often than the policy allows. -/
theorem comesWithin_begin (tool : Tool) (policy : Policy) (command : Command) (now : Instant)
    (session : Session) :
    (Desk.ofTool tool policy).ComesWithin False (Desk.ofTool tool policy).bound now
      ((Desk.ofTool tool policy).begin command now session).1 :=
  comesWithin_reply fun _ begun => Call.begin_shorter begun

/-- **An answer that comes at all comes in time**, if so many steps are left. -/
theorem comesWithin_of_answers {steps : Nat} {reply : Reply (Command × Call)}
    (answers : (Desk.ofTool tool policy).Answers answer now reply)
    (shorter : ∀ command call, reply = .waiting (command, call) →
      call.Staged policy ∧ call.stepsLeft policy ≤ steps) :
    (Desk.ofTool tool policy).ComesWithin True steps now reply := by
  induction answers generalizing steps with
  | answered now => exact .answered steps now answer
  | @waiting now due pending isDue _ ih =>
    obtain ⟨command, call⟩ := pending
    obtain ⟨staged, enough⟩ := shorter command call rfl
    obtain ⟨steps, rfl⟩ : ∃ fewer, steps = fewer + 1 :=
      ⟨steps - 1, by have := call.stepsLeft_pos policy; omega⟩
    refine .waiting (fun _ => by rw [isDue]; rfl) fun due' isDue' session => ?_
    cases isDue.symm.trans isDue'
    refine ih session fun command' call' waits => ?_
    cases stepped : (call.step tool policy (max now due) session).1 with
    | ended result => simp [Desk.ofTool, stepped, Command.reply] at waits
    | waiting next =>
      simp only [Desk.ofTool, stepped, Command.reply] at waits
      cases waits
      obtain ⟨nextStaged, less⟩ := Call.step_shorter staged isDue (Nat.le_max_right _ _) stepped
      exact ⟨nextStaged, by omega⟩

/-! ### Programs that answer -/

/-- A program that answers every question with the same answer, whatever happened before and
however long it takes. -/
structure Tool.Knows (tool : Tool) (policy : Policy)
    (answers : Command → Except RunError String) : Prop where
  /-- What is asked again while it waits comes to its answer. -/
  retried : ∀ command, Retried command → ∀ now session,
    (Desk.ofTool tool policy).Answers (answers command) now
      ((Desk.ofTool tool policy).begin command now session).1
  /-- What is asked once comes to its answer. -/
  single : ∀ command, ¬ Retried command → ∀ now session,
    (command.ask tool policy now session).2.1 = answers command

namespace Tool.Knows

variable {answers : Command → Except RunError String}

/-- No other answer may come. -/
theorem only (knows : tool.Knows policy answers) (command : Command)
    (answer : Except RunError String) (isRetried : Retried command)
    (may : (Desk.ofTool tool policy).MayAnswer command answer) : answer = answers command := by
  obtain ⟨now, session, gives⟩ := may
  exact (knows.retried command isRetried now session).gives gives

/-- The answers come in time. -/
theorem prompt (knows : tool.Knows policy answers) (command : Command)
    (isRetried : Retried command) (now : Instant) (session : Session) :
    (Desk.ofTool tool policy).ComesWithin True (Desk.ofTool tool policy).bound now
      ((Desk.ofTool tool policy).begin command now session).1 := by
  refine comesWithin_of_answers (knows.retried command isRetried now session) ?_
  intro command' call waits
  cases begun : (Call.begin command.args tool policy now session).1 with
  | ended result => simp [Desk.ofTool, begun, Command.reply] at waits
  | waiting next =>
    simp only [Desk.ofTool, begun, Command.reply] at waits
    cases waits
    exact Call.begin_shorter begun

end Tool.Knows

/-! ### Steady programs -/

/-- A process that is there, ends, and always comes to the same, which nobody asks again for. -/
structure Child.ComesTo (child : Child) (args : List String) (limit : Option Binary64)
    (result : Except RunError String) : Prop where
  starts : child.startFault = none
  ends : ∀ start, ∃ time, child.ending args start limit none = some ⟨time, result⟩
  final : ∀ error, result = .error error → error.isRetryable = false ∧ error ≠ .cancelled

/-- What was read together is the same. -/
theorem verdict_of_forall {results : List (Except RunError String)}
    {result : Except RunError String} (some : results ≠ [])
    (same : ∀ other ∈ results, other = result) : verdict results = result := by
  obtain ⟨first, rest, rfl⟩ := List.exists_cons_of_ne_nil some
  cases same first List.mem_cons_self
  cases result with
  | ok text => rfl
  | error error =>
    have none : (Except.error error :: rest).findSome? Except.toOption = none := by
      refine List.findSome?_eq_none_iff.mpr fun other member => ?_
      rw [same other member]
      rfl
    rw [verdict, none]

/-- An attempt that ends, with a result. -/
def Attempt.EndsWith (attempt : Attempt) (result : Except RunError String) : Prop :=
  attempt.result = result ∧ ∃ time, attempt.endTime? = some time

namespace Call

variable {call : Call} {args : List String} {result : Except RunError String} {session : Session}

/-- A question all of whose processes come to the same. -/
structure Agrees (call : Call) (policy : Policy) (args : List String)
    (result : Except RunError String) : Prop where
  same : call.args = args
  live : ∀ attempt ∈ call.live, attempt.EndsWith result
  phase : match call.phase with
    | .starting _ child => child.ComesTo args policy.limit result
    | _ => call.live ≠ []

/-- A step after which all processes of a question come to the same. -/
def AgreesAfter (policy : Policy) (args : List String) (result : Except RunError String) :
    Progress → Prop
  | .waiting call => call.Agrees policy args result
  | .ended other => other = result

theorem foldl_earlier_isSome {times : List (Option Instant)} {first : Option Instant}
    (known : first.isSome ∨ ∃ time ∈ times, Option.isSome time) :
    (times.foldl earlier first).isSome := by
  induction times generalizing first with
  | nil => simpa using known
  | cons head rest ih =>
    refine ih ?_
    simp only [List.mem_cons, exists_eq_or_imp] at known
    cases first <;> cases head <;> simp_all [earlier]

theorem Agrees.due (agrees : call.Agrees policy args result) : ∃ due, call.due? = some due := by
  obtain ⟨-, live, fits⟩ := agrees
  -- A first end is known, so it is known when to look again.
  have first (left : call.live ≠ []) : ∃ time, call.firstEnd? = some time := by
    obtain ⟨attempt, member⟩ := List.exists_mem_of_ne_nil _ left
    obtain ⟨-, time, ends⟩ := live attempt member
    have known : attempt.endTime?.isSome := by simp [ends]
    exact Option.isSome_iff_exists.mp
      (foldl_earlier_isSome (.inr ⟨attempt.endTime?, List.mem_map_of_mem member, known⟩))
  rw [due?]
  split
  · exact ⟨_, rfl⟩
  · rename_i roundEnd phase
    rw [phase] at fits
    obtain ⟨time, ends⟩ := first fits
    rw [ends]
    cases roundEnd <;> exact ⟨_, rfl⟩
  · rename_i phase
    rw [phase] at fits
    obtain ⟨time, ends⟩ := first fits
    rw [ends]
    exact ⟨_, rfl⟩

theorem arrive_agrees {number : Nat} {child : Child} (same : call.args = args)
    (live : ∀ attempt ∈ call.live, attempt.EndsWith result)
    (comes : child.ComesTo args policy.limit result) :
    AgreesAfter policy args result (call.arrive tool policy number child now session).1 := by
  rw [arrive, Tool.arrival_eq_there_iff.mpr comes.starts]
  refine ⟨same, fun attempt member => ?_, by simp⟩
  rcases List.mem_append.mp member with old | new
  · exact live attempt old
  · obtain ⟨time, ends⟩ := comes.ends now
    rw [List.mem_singleton.mp new, same]
    refine ⟨?_, time, by simp [Attempt.endTime?, ends]⟩
    simp only [Attempt.result, ends]
    split
    · rename_i isCancelled
      cases isCancelled
      exact ((comes.final _ rfl).2 rfl).elim
    · rename_i isEnding
      cases isEnding
      rfl
    · rename_i none
      cases none

variable (same : call.args = args)
  (comes : ∀ session : Session,
    (session.next (tool.supply args)).ComesTo args policy.limit result)

include same comes

theorem nextRound_agrees (room : call.live = [] → call.rounds < policy.retries)
    (live : ∀ attempt ∈ call.live, attempt.EndsWith result) :
    AgreesAfter policy args result (call.nextRound tool policy now session).1 := by
  rw [nextRound]
  split
  · have child : (session.next (tool.supply call.args)).ComesTo args policy.limit result := by
      rw [same]
      exact comes session
    dsimp only
    split
    · exact arrive_agrees same live child
    · exact ⟨same, live, child⟩
  · rename_i full
    have left : call.live ≠ [] := fun none => full (room none)
    rw [if_neg left]
    exact ⟨same, live, left⟩

theorem race_agrees (left : call.live ≠ [])
    (live : ∀ attempt ∈ call.live, attempt.EndsWith result) :
    AgreesAfter policy args result (call.race tool policy now session).1 := by
  rw [race_eq, settle?]
  by_cases none : call.finished now = []
  · -- Nobody is read, so everybody is left.
    have all : (call.pruned now).live = call.live := by
      refine List.filter_eq_self.mpr fun attempt member => ?_
      simpa using List.filter_eq_nil_iff.mp none attempt member
    rw [if_pos none]
    refine nextRound_agrees same comes (fun empty => (left (all ▸ empty)).elim) ?_
    rw [all]
    exact live
  · have read : verdict ((call.finished now).map Attempt.result) = result := by
      refine verdict_of_forall (by simpa using none) fun other member => ?_
      obtain ⟨attempt, isRead, rfl⟩ := List.mem_map.mp member
      exact (live attempt (mem_finished.mp isRead).1).1
    rw [if_neg none, read]
    cases result with
    | ok text => rfl
    | error error =>
      simp only [((comes {}).final error rfl).1]
      rfl

theorem step_agrees (agrees : call.Agrees policy args result) :
    AgreesAfter policy args result (call.step tool policy now session).1 := by
  obtain ⟨-, live, fits⟩ := agrees
  rw [step]
  cases phase : call.phase with
  | starting number child =>
    rw [phase] at fits
    exact arrive_agrees same live fits
  | racing roundEnd =>
    rw [phase] at fits
    exact race_agrees same comes fits live
  | draining =>
    rw [phase] at fits
    exact race_agrees same comes fits live

end Call

section

variable {result : Except RunError String} (comes : ∀ session : Session,
  (session.next (tool.supply command.args)).ComesTo command.args policy.limit result)

include comes

/-- **A question all of whose processes come to the same** has that answer. -/
theorem answers_of_agrees {progress : Progress}
    (agrees : Call.AgreesAfter policy command.args result progress)
    (staged : ∀ call, progress = .waiting call → call.Staged policy) :
    (Desk.ofTool tool policy).Answers (command.answer result) now (command.reply progress) := by
  cases progress with
  | ended other =>
    cases agrees
    exact .answered now
  | waiting call =>
    induction left : call.stepsLeft policy using Nat.strongRecOn generalizing call now with
    | _ steps ih =>
      obtain ⟨due, isDue⟩ := Call.Agrees.due agrees
      refine .waiting isDue fun session => ?_
      have agreesAfter : Call.AgreesAfter policy command.args result
          (call.step tool policy (max now due) session).1 :=
        Call.step_agrees agrees.same comes agrees
      change (Desk.ofTool tool policy).Answers _ _
        (command.reply (call.step tool policy (max now due) session).1)
      cases stepped : (call.step tool policy (max now due) session).1 with
      | ended other =>
        rw [stepped] at agreesAfter
        cases agreesAfter
        exact .answered _
      | waiting next =>
        rw [stepped] at agreesAfter
        obtain ⟨nextStaged, less⟩ :=
          Call.step_shorter (staged call rfl) isDue (Nat.le_max_right _ _) stepped
        refine ih _ (left ▸ less) next agreesAfter ?_ rfl
        rintro _ ⟨⟩
        exact nextStaged

end

/-- A process that is run once gives what it comes to. -/
theorem ask_of_comesTo {args : List String} {result : Except RunError String} {session : Session}
    (comes : (session.next (tool.supply args)).ComesTo args none result) :
    (session.ask tool args now).2.1 = result := by
  obtain ⟨starts, ends, -⟩ := comes
  obtain ⟨time, ending⟩ := ends (session.next (tool.supply args)).startup
  simp [Session.ask, Session.launch, invoke, watch, starts, ending]

/-- **A program knows its answers** if its processes end in time and come to the same whenever they
are started. -/
theorem knows_of_comesTo {results : Command → Except RunError String}
    (positive : 1 ≤ policy.retries)
    (comes : ∀ command (session : Session), (session.next (tool.supply command.args)).ComesTo
      command.args (if command.isRetried then policy.limit else none) (results command)) :
    tool.Knows policy fun command => command.answer (results command) where
  retried command isRetried now session := by
    have comes (session : Session) := comes command session
    rw [if_pos (show command.isRetried = true from isRetried)] at comes
    refine answers_of_agrees comes ?_ fun call begun => (Call.begin_shorter begun).1
    exact Call.nextRound_agrees rfl comes (fun _ => positive) (by simp)
  single command isSingle now session := by
    have comes := comes command session
    have isSingle : ¬ command.isRetried = true := isSingle
    rw [if_neg isSingle] at comes
    rw [Command.ask, if_neg isSingle]
    exact congrArg command.answer (ask_of_comesTo comes)

/-- A program that prints the same for a command line whenever it is started, after the same
time. -/
def Tool.steady (delay : List String → Nat) (output : List String → List UInt8) : Tool :=
  ⟨"flow", fun args => ⟨"", [{ output := output args, lifetime := some (delay args) }]⟩, .styled⟩

/-- What printed bytes come to. -/
def printedText (bytes : List UInt8) : Except RunError String :=
  match decode? bytes with
  | some text => .ok text
  | none => .error .notText

/-- **A steady program knows its answers**, if it may take its time. -/
theorem knows_steady (delay : List String → Nat) (output : List String → List UInt8)
    (positive : 1 ≤ policy.retries) (patient : policy.limit = none) :
    (Tool.steady delay output).Knows policy fun command =>
      command.answer (printedText (output command.args)) := by
  refine knows_of_comesTo positive fun command session => ?_
  rw [patient, ite_self]
  have next : session.next ((Tool.steady delay output).supply command.args) =
      { output := output command.args, lifetime := some (delay command.args) } := by
    simp [Tool.steady, Session.next]
  rw [next]
  refine ⟨rfl, fun start => ⟨start + delay command.args, ?_⟩, ?_⟩
  · rw [printedText]
    simp only [Child.ending, Child.exit?, Child.naturalEnd, after, Child.outcome, Child.timelyKill?]
    rfl
  · intro error failed
    rw [printedText] at failed
    split at failed
    · cases failed
    · cases failed
      exact ⟨rfl, by simp⟩

end TypeSchema
