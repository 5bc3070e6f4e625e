/-
**The way of a run to its registry.**

* `Route`: a run fails before any export is looked at, looks its exports up, or takes a listing;
* `assemble_eq`: **what a run comes to by its route**;
* `kind_route`: the answers to the questions that are asked once decide the kind of the route;
* `skips_route`: on its way a run prints at most one line that may look like the report of a skipped
  export, the notice that the type checker is not ready;
* `recordListed_ok`: **a listing is taken down** if every finding is there, and then no two of them
  name one entry.
-/

import TypeSchema.Assembly.Run
import TypeSchema.Proofs.Assembly.Pool
import TypeSchema.Proofs.Assembly.Tool
import TypeSchema.Proofs.Clock.Delay

namespace TypeSchema

/-- How a run goes on once the questions are answered that are asked once. -/
inductive Route where
  | failed (error : AssemblyError) (session : Session)
  | positions (now : Instant) (session : Session)
  | listing (text : String) (session : Session)

namespace Route

/-- What happened before. -/
def session : Route → Session
  | failed _ session => session
  | positions _ session => session
  | listing _ session => session

/-- A failure, or the text of a listing, or nothing if exports are looked up. -/
def kind : Route → Except AssemblyError (Option String)
  | failed error _ => .error error
  | positions _ _ => .ok none
  | listing text _ => .ok (some text)

/-- What comes of a module by a route. -/
def registry (tool : Tool) (settings : Settings) (files : FileTree) (path : String) :
    Route → Except AssemblyError Registry × Session
  | failed error session => (.error error, session)
  | positions now session => registryByPosition tool settings files path now session
  | listing text session => registryOfListing path text session

end Route

/-- The route of a run on a module. -/
def route (tool : Tool) (settings : Settings) (path : String) : Route :=
  match waitForServer tool settings path 0 (({} : Session).say s!"Processing {path}...") with
  | (_, .error error, session) => .failed (.run error) session
  | (ready, .ok _, session) =>
    match Command.version.ask tool settings.policy ready session with
    | (_, .error error, session) => .failed (.run error) session
    | (now, .ok version, session) =>
      match hasReached version settings.minPositionQueryVersion with
      | .error error => .failed (.version error) session
      | .ok true => .positions now session
      | .ok false =>
        match (Command.flowFiles path).ask tool settings.policy now session with
        | (_, .error error, session) => .failed (.run error) session
        | (_, .ok text, session) => .listing text session

/-- The kind of a route by the answers to the questions that are asked once. -/
def routeKind (answers : Command → Except RunError String) (settings : Settings) (path : String) :
    Except AssemblyError (Option String) :=
  match answers .status with
  | .error error => .error (.run error)
  | .ok _ =>
    match answers .version with
    | .error error => .error (.run error)
    | .ok version =>
      match hasReached version settings.minPositionQueryVersion with
      | .error error => .error (.version error)
      | .ok true => .ok none
      | .ok false => ((answers (.flowFiles path)).mapError .run).map some

variable {tool : Tool} {settings : Settings} {files : FileTree} {entry : Path} {path : String}
  {answers : Command → Except RunError String} {session : Session} {registry : Registry}

/-- **What a run comes to by its route.** -/
theorem assemble_eq (tool : Tool) (settings : Settings) (files : FileTree) (entry : Path) :
    assemble tool settings files entry =
      (((route tool settings entry.text).registry tool settings files entry.text).1.bind
          (nonempty entry.text),
        ((route tool settings entry.text).registry tool settings files entry.text).2) := by
  rw [assemble, route]
  dsimp only
  generalize waitForServer tool settings entry.text 0 _ = waited
  obtain ⟨ready, error | answer, session⟩ := waited
  · rfl
  dsimp only
  rw [registryOf]
  generalize Command.version.ask tool settings.policy ready session = asked
  obtain ⟨now, error | version, session⟩ := asked
  · rfl
  dsimp only
  generalize hasReached version settings.minPositionQueryVersion = reached
  obtain error | _ | _ := reached
  · rfl
  · dsimp only
    rw [registryByListing]
    generalize (Command.flowFiles entry.text).ask tool settings.policy now session = listed
    obtain ⟨-, error | text, session⟩ := listed
    · rfl
    · rfl
  · rfl

theorem nonempty_eq_ok_iff {found : Registry} :
    nonempty path found = .ok registry ↔ found.added ≠ [] ∧ found = registry := by
  have size : found.size = 0 ↔ found.added = [] := List.length_eq_zero_iff
  rw [nonempty]
  split
  · simp [size.mp ‹_›]
  · simpa [← size] using fun _ => ‹_›

/-- **The answers decide the kind of a route.** -/
theorem kind_route (settings : Settings) (knows : tool.Knows settings.policy answers)
    (path : String) :
    (route tool settings path).kind = routeKind answers settings path := by
  have status (now : Instant) (session : Session) :=
    knows.single .status Bool.false_ne_true now session
  have version (now : Instant) (session : Session) :=
    knows.single .version Bool.false_ne_true now session
  have listed (now : Instant) (session : Session) :=
    knows.single (.flowFiles path) Bool.false_ne_true now session
  rw [route, waitForServer, routeKind, ← status 0 _]
  generalize Command.status.ask tool settings.policy 0 _ = waited
  obtain ⟨ready, error | answer, session⟩ := waited
  · rfl
  dsimp only
  rw [← version ready _]
  generalize Command.version.ask tool settings.policy ready _ = asked
  obtain ⟨now, error | version, session⟩ := asked
  · rfl
  dsimp only
  generalize hasReached version settings.minPositionQueryVersion = reached
  obtain error | _ | _ := reached
  · rfl
  · dsimp only
    rw [← listed now session]
    generalize (Command.flowFiles path).ask tool settings.policy now session = asked
    obtain ⟨-, error | text, session⟩ := asked
    · rfl
    · rfl
  · rfl

/-- A run that takes a listing. -/
theorem assemble_of_listing (knows : tool.Knows settings.policy answers) (files : FileTree)
    (entry : Path) {text : String}
    (kind : routeKind answers settings entry.text = .ok (some text)) :
    ∃ session, route tool settings entry.text = .listing text session ∧
      assemble tool settings files entry =
        ((registryOfListing entry.text text session).1.bind (nonempty entry.text),
          (registryOfListing entry.text text session).2) := by
  rw [← kind_route settings knows] at kind
  rw [assemble_eq]
  cases way : route tool settings entry.text with
  | failed => rw [way] at kind; cases kind
  | positions => rw [way] at kind; cases kind
  | listing other session =>
    rw [way] at kind
    cases kind
    exact ⟨session, rfl, rfl⟩

/-- A run that looks exports up. -/
theorem assemble_of_positions (knows : tool.Knows settings.policy answers) (files : FileTree)
    (entry : Path) (kind : routeKind answers settings entry.text = .ok none) :
    ∃ now session, route tool settings entry.text = .positions now session ∧
      assemble tool settings files entry =
        ((registryByPosition tool settings files entry.text now session).1.bind
            (nonempty entry.text),
          (registryByPosition tool settings files entry.text now session).2) := by
  rw [← kind_route settings knows] at kind
  rw [assemble_eq]
  cases way : route tool settings entry.text with
  | failed => rw [way] at kind; cases kind
  | listing => rw [way] at kind; cases kind
  | positions now session => exact ⟨now, session, rfl, rfl⟩

/-! ### Lines on the way -/

/-- A question that is asked once prints nothing. -/
theorem lines_ask (tool : Tool) (args : List String) (now : Instant) (session : Session) :
    (session.ask tool args now).2.2.lines = session.lines := by
  rw [Session.ask]
  dsimp only
  split <;> rfl

theorem skips_ask (command : Command) (isSingle : command.isRetried = false) (tool : Tool)
    (policy : Policy) (now : Instant) (session : Session) :
    (command.ask tool policy now session).2.2.skips = session.skips := by
  simp [Command.ask, isSingle, lines_ask, Session.skips]

theorem skips_waitForServer (tool : Tool) (settings : Settings) (path : String) (now : Instant)
    (session : Session) : ∃ notices, notices.Sublist [noticeLine path] ∧
      (waitForServer tool settings path now session).2.2.skips = session.skips ++ notices := by
  have asked := skips_ask .status rfl tool settings.policy now session
  rw [waitForServer]
  dsimp only
  rcases Delay.value?_wait_schedule now settings.statusNoticeDelay.span? (noticeLine path)
    (settledAt? (Command.status.ask tool settings.policy now session).1
      (Command.status.ask tool settings.policy now session).2.1) with ⟨-, said⟩ | ⟨-, silent⟩
  · rw [said]
    cases isSkip : isSkipLine (noticeLine path) with
    | true =>
      refine ⟨[noticeLine path], .refl _, ?_⟩
      rw [← asked]
      exact Session.skips_say_of_isSkipLine isSkip
    | false =>
      refine ⟨[], List.nil_sublist _, ?_⟩
      rw [List.append_nil, ← asked]
      exact Session.skips_say_of_not isSkip
  · rw [silent]
    exact ⟨[], List.nil_sublist _, by rw [List.append_nil, ← asked]; rfl⟩

/-- **Only the notice** may look like the report of a skipped export. -/
theorem skips_route (tool : Tool) (settings : Settings) (path : String) :
    (route tool settings path).session.skips.Sublist [noticeLine path] := by
  obtain ⟨notices, fewer, said⟩ := skips_waitForServer tool settings path 0
    (({} : Session).say s!"Processing {path}...")
  have unsaid : (({} : Session).say s!"Processing {path}...").skips = [] := by
    refine Session.skips_say_of_not ?_
    simp [isSkipLine, toString, String.toList_append, List.isPrefixOf]
  rw [unsaid, List.nil_append] at said
  rw [← said] at fewer
  rw [route]
  generalize waitForServer tool settings path 0 _ = waited at fewer
  obtain ⟨ready, error | answer, session⟩ := waited
  · exact fewer
  dsimp only at fewer ⊢
  rw [← skips_ask .version rfl tool settings.policy ready session] at fewer
  generalize Command.version.ask tool settings.policy ready session = asked at fewer
  obtain ⟨now, error | version, session⟩ := asked
  · exact fewer
  dsimp only at fewer ⊢
  split
  · exact fewer
  · exact fewer
  · rw [← skips_ask (.flowFiles path) rfl tool settings.policy now session] at fewer
    split <;> rename_i listed <;> rw [listed] at fewer <;> exact fewer

theorem skips_route_of_not (tool : Tool) (settings : Settings)
    (other : isSkipLine (noticeLine path) = false) :
    (route tool settings path).session.skips = [] := by
  refine List.eq_nil_iff_forall_not_mem.mpr fun line member => ?_
  have isNotice := (skips_route tool settings path).mem member
  have isSkip : isSkipLine line = true := (List.mem_filter.mp member).2
  rw [List.mem_singleton.mp isNotice, other] at isSkip
  cases isSkip

/-! ### Listings -/

theorem skips_report (finding : Finding) (session : Session) :
    (finding.line?.toList.foldl Session.say session).skips =
      session.skips ++ finding.line?.toList := by
  cases finding with
  | entry => exact (List.append_nil _).symm
  | skipped name reason => exact Session.skips_say_of_isSkipLine (isSkipLine_skipLine name reason)

/-- **A listing is taken down** if every finding is there. -/
theorem recordListed_ok {findings : List (Except AssemblyError Finding)} {start : Registry}
    {after : Session} (ends : recordListed findings start session = (.ok registry, after)) :
    ∃ found : List Finding, findings = found.map Except.ok ∧
      registry.added = start.added ++ found.filterMap Finding.added? ∧
      (start.taken.Nodup → registry.taken.Nodup) ∧
      after.skips = session.skips ++ found.filterMap Finding.line? := by
  induction findings generalizing start session with
  | nil =>
    cases ends
    exact ⟨[], rfl, (List.append_nil _).symm, id, (List.append_nil _).symm⟩
  | cons result rest ih =>
    obtain error | finding := result
    · cases ends
    · rw [recordListed] at ends
      cases recorded : start.record finding with
      | error error =>
        rw [recorded] at ends
        cases ends
      | ok middle =>
        rw [recorded] at ends
        obtain ⟨found, rfl, entries, distinct, lines⟩ := ih ends
        obtain ⟨added, keeps⟩ := Registry.record_eq_ok recorded
        refine ⟨finding :: found, rfl, ?_, distinct ∘ keeps, ?_⟩
        · rw [entries, added, List.append_assoc]
          cases finding <;> rfl
        · rw [lines, skips_report, List.append_assoc]
          cases finding <;> rfl

end TypeSchema
