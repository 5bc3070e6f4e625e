/-
**Exports are looked up in an orderly way.**

* `Custody.ask`, `custody_route`: before exports are looked up, all processes are gone;
* `Declarations.jobs`, `fanOut`: the jobs of a run, its moments, and the pool that is left;
* `fan_out_orderly`: **no more exports are looked up at a time than the settings allow**, each of them
  once; the first failure is what comes of the run, at its very instant; and when the run ends, each
  process that it has started has ended or was killed.
-/

import TypeSchema.Proofs.Assembly.Custody
import TypeSchema.Proofs.Assembly.Resolution
import TypeSchema.Proofs.Assembly.Route
import TypeSchema.Proofs.Result
import TypeSchema.Proofs.Source.Order

namespace TypeSchema

open Session

/-! ### Questions that are asked once -/

/-- **A program that is run once** does not start, or never ends, or has ended. -/
theorem invoke_cases (program : String) (args : List String) (child : Child) :
    (invoke program args child none).started = false ∧
        (invoke program args child none).elapsed = child.startup ∨
      (invoke program args child none).result = .error .endless ∨
      ∃ lifetime, child.lifetime = some lifetime ∧
        (invoke program args child none).started = true ∧
        (invoke program args child none).elapsed = child.startup + lifetime := by
  simp only [invoke, watch, Option.any_none, Bool.false_eq_true, if_false, Option.filter_none]
  cases child.startFault with
  | some fault => exact .inl ⟨rfl, rfl⟩
  | none =>
    refine .inr ?_
    cases lifetime : child.lifetime with
    | none => simp [Child.ending, Child.exit?, Child.naturalEnd, after, lifetime, Watched.endless]
    | some span =>
      refine .inr ⟨span, rfl, ?_⟩
      simp [Child.ending, Child.exit?, Child.naturalEnd, after, lifetime]

/-- A process that starts and ends by itself. -/
theorem Session.advance_once {session : Session} {launch : Launch} {number lifetime : Nat}
    (limit : Option Binary64) (found : session.launches[number]? = some launch)
    (unkilled : launch.killed = none) (ends : launch.child.lifetime = some lifetime) :
    session.Advance limit [number] [] ([] ++ [number]) (launch.start + lifetime)
      ((session.start number launch.start).see number) := by
  have isThere := getElem?_update_self session number
    (fun launch => { launch with started := true }) found
  have exits : (session.start number launch.start).Advance limit [number] [] [number]
      (launch.start + lifetime) (session.start number launch.start) := by
    refine .drop rfl (fun _ _ => rfl) isThere (.inl ⟨rfl, launch.start + lifetime, launch.child.code,
      ?_, Nat.le_refl _⟩)
    simp [Child.exit?, Child.naturalEnd, after, Launch.start, unkilled, ends]
  exact (advance_start limit session number launch.start).trans
    (exits.see (List.mem_singleton_self _)) (Nat.le_add_right _ _)

/-- **A process that is run once** is gone when the question has its answer. -/
theorem Custody.ask {policy : Policy} {start session : Session} {now : Instant}
    (custody : Custody policy start now [] session) (tool : Tool) (args : List String)
    (ends : (session.ask tool args now).2.1 ≠ .error .endless) :
    Custody policy start (session.ask tool args now).1 [] (session.ask tool args now).2.2 := by
  let launch : Launch := ⟨(tool.supply args).name, args, session.next (tool.supply args), now, false,
    none, false⟩
  have found : (session.launch tool args now).2.2.launches[session.launches.length]? =
      some launch := List.getElem?_concat_length
  have started := custody.started.launch tool args
  have begun := advance_launch policy.limit session tool args now
  -- What is let go after the beginning was started by the run.
  have extend {later : Instant} {gone : List Nat} {after : Session} (order : now ≤ later)
      (advance : Advance policy.limit [session.launches.length] [] gone later
        (session.launch tool args now).2.2 after)
      (started : after.StartedBy start.launches.length later) :
      Custody policy start later [] after := by
    obtain ⟨_, before⟩ := custody.advance
    exact ⟨⟨_, before.trans (begun.trans advance order) order⟩, List.nodup_nil,
      fun _ none => (nomatch none), started⟩
  have atStart : now ≤ launch.start := Nat.le_add_right _ _
  have came := invoke_cases tool.program args launch.child
  change Custody policy start
    (now + (invoke tool.program args launch.child none).elapsed.getD launch.child.startup) []
    ((if (invoke tool.program args launch.child none).started then
      (session.launch tool args now).2.2.start session.launches.length launch.start
      else (session.launch tool args now).2.2).see session.launches.length)
  rcases came with ⟨absent, elapsed⟩ | endless | ⟨lifetime, isLifetime, there, elapsed⟩
  · rw [absent, elapsed, Option.getD_some]
    exact extend atStart
      ((advance_unstarted _ _ found rfl).see (List.mem_singleton_self _))
      ((started.mono atStart).of_stamps (stamps_see _ _))
  · exact (ends endless).elim
  · rw [there, elapsed, Option.getD_some, if_pos rfl, ← Nat.add_assoc]
    have atEnd : launch.start ≤ launch.start + lifetime := Nat.le_add_right _ _
    refine extend (Nat.le_trans atStart atEnd) (advance_once _ found rfl isLifetime)
      (StartedBy.of_stamps ?_ (stamps_see _ _))
    refine ((started.mono atStart).start fun other isOther => ?_).mono atEnd
    cases found.symm.trans isOther
    exact Nat.le_refl _

/-! ### Whole runs -/

variable {tool : Tool} {settings : Settings} {path : String} {now : Instant} {session : Session}

/-- An answer to a question that is asked once. -/
theorem Custody.ask_command {policy : Policy} {start before after : Session} {begin : Instant}
    {answer : String} (custody : Custody policy start begin [] before) {command : Command} (tool : Tool)
    (isSingle : command.isRetried = false)
    (asked : command.ask tool policy begin before = (now, .ok answer, after)) :
    Custody policy start now [] after := by
  have ends : (before.ask tool command.args begin).2.1 ≠ .error .endless := by
    intro endless
    have failed : (command.ask tool policy begin before).2.1 = .error .endless := by
      rw [Command.ask, isSingle]
      change command.answer (before.ask tool command.args begin).2.1 = _
      rw [endless]
      cases command <;> rfl
    rw [asked] at failed
    cases failed
  have kept := custody.ask tool command.args ends
  rw [Command.ask, isSingle] at asked
  obtain ⟨rfl, rest⟩ := Prod.mk.inj asked
  obtain ⟨-, rfl⟩ := Prod.mk.inj rest
  exact kept

/-- **Before exports are looked up**, all processes are gone. -/
theorem custody_route (way : route tool settings path = .positions now session) :
    Custody settings.policy {} now [] session := by
  have nothing : Custody settings.policy {} 0 [] (({} : Session).say s!"Processing {path}...") :=
    ⟨⟨[], (Advance.refl _ [] 0 {}).say _⟩, List.nodup_nil, fun _ none => (nomatch none),
      fun number launch _ found => by cases found⟩
  rw [route] at way
  cases waited : waitForServer tool settings path 0 (({} : Session).say s!"Processing {path}...") with
  | mk ready rest =>
    obtain ⟨error | answer, before⟩ := rest
    · rw [waited] at way
      cases way
    · rw [waited] at way
      dsimp only at way
      have isReady : Custody settings.policy {} ready [] before := by
        rw [waitForServer] at waited
        cases asked : Command.status.ask tool settings.policy 0
            (({} : Session).say s!"Processing {path}...") with
        | mk ready' rest =>
          obtain ⟨result, session'⟩ := rest
          rw [asked] at waited
          cases waited
          exact (nothing.ask_command tool rfl asked).say _
      cases asked : Command.version.ask tool settings.policy ready before with
      | mk current rest =>
        obtain ⟨error | version, after⟩ := rest
        · rw [asked] at way
          cases way
        · rw [asked] at way
          dsimp only at way
          have known := isReady.ask_command tool rfl asked
          split at way
          · cases way
          · cases way
            exact known
          · split at way <;> cases way

/-! ### Looking exports up -/

/-- The jobs of a module: one for each of its exports. -/
def Declarations.jobs (files : FileTree) (settings : Settings) (declarations : Declarations) :
    List (Inquiry Finding) :=
  declarations.exports.map (declarations.finding files settings.maxReexportDepth)

/-- The moments of jobs from an instant on, and the pool that is left. -/
def fanOut (tool : Tool) (settings : Settings) (jobs : List (Inquiry Finding)) (now : Instant)
    (session : Session) :
    List (Moment Session (Command × Call)) × Pool Session (Command × Call) :=
  let desk := Desk.ofTool tool settings.policy
  (Pool.ofJobs settings.concurrency jobs now session).history desk
    (jobs.length * ((settings.maxReexportDepth + 3) * (desk.bound + 1) + 4))

namespace Pool

variable {World Pending : Type} {jobs : List (Inquiry Finding)} {places : Nat}

theorem calm_ofJobs (places : Nat) (jobs : List (Inquiry Finding)) (now : Instant) (world : World) :
    ∀ planned ∈ (ofJobs places jobs now world : Pool World Pending).agenda,
      planned.event.isJob = true := by
  intro planned member
  obtain ⟨job, -, rfl⟩ := List.mem_map.mp member
  rfl

theorem remaining_ofJobs (places : Nat) (jobs : List (Inquiry Finding)) (now : Instant)
    (world : World) : (ofJobs places jobs now world : Pool World Pending).remaining = jobs.length := by
  rw [remaining_eq_countP, tasks, Multiset.countP_add, Multiset.coe_countP]
  simp [ofJobs, Event.isJob, List.countP_map, Function.comp_def]

/-- Jobs that arrive have no processes yet. -/
theorem custody_ofJobs {policy : Policy} {start session : Session} {now : Instant}
    (custody : Custody policy start now [] session) (places : Nat) (jobs : List (Inquiry Finding)) :
    Custody policy start now (ofJobs places jobs now session).agenda
      (ofJobs places jobs now session : Pool Session (Command × Call)).world := by
  change Custody policy start now (jobs.map fun job => ⟨some now, 0, .arrive job⟩) session
  induction jobs with
  | nil => exact custody
  | cons job rest ih => exact ih.cons (by rintro _ _ ⟨⟩)

end Pool

/-- **Jobs that are done** have ended once, each with a finding of its own. -/
theorem Lives.completes_ofJobs {World Pending : Type} {desk : Desk World Pending} {places : Nat}
    {jobs : List (Inquiry Finding)} {now : Instant} {world : World} {registry : Registry}
    {moments : List (Moment World Pending)} {left : Pool World Pending}
    {outcome : Except AssemblyError Registry × World}
    (lives : Lives desk now (.ofJobs places jobs now world) moments left outcome)
    (positive : 1 ≤ places) (ends : outcome.1 = .ok registry) :
    left.remaining = 0 ∧ ∃ findings : List Finding,
      List.Forall₂ (fun job finding => job.Yields desk.MayAnswer (.ok finding)) jobs findings ∧
        (moments.filterMap (Moment.end? desk)).Perm (findings.map .ok) ∧
        registry.added.Perm (findings.filterMap Finding.added?) := by
  obtain ⟨none, ended, all, found, entries⟩ :=
    lives.completes positive (Pool.seated_ofJobs places jobs now world) ends
  rw [Pool.results_ofJobs, ← Multiset.map_coe, Multiset.rel_map_left] at found
  obtain ⟨findings, aligned, perm⟩ := Pool.exists_forall₂_of_rel found
  refine ⟨none, findings, aligned, ?_, ?_⟩
  · rw [all]
    exact (perm.map _).symm
  · rw [entries]
    exact (perm.filterMap _).symm

section

variable {files : FileTree} {entry : Path} {text : String}

/-- The moments of a run are those of its jobs. -/
theorem lives_fanOut (tool : Tool) (settings : Settings)
    (read : files.read (Path.ofText entry.text) = .ok text) (now : Instant) (session : Session) :
    let jobs := (Declarations.ofSource entry.text text.toList).jobs files settings
    Lives (Desk.ofTool tool settings.policy) now (.ofJobs settings.concurrency jobs now session)
      (fanOut tool settings jobs now session).1 (fanOut tool settings jobs now session).2
      (registryByPosition tool settings files entry.text now session) := by
  intro jobs
  have asks : ∀ job ∈ jobs, job.AsksAtMost Retried (settings.maxReexportDepth + 3) := by
    intro job member
    obtain ⟨exported, -, rfl⟩ := List.mem_map.mp member
    exact finding_asks _ _ _ _
  have isRun : registryByPosition tool settings files entry.text now session =
      Pool.run (Desk.ofTool tool settings.policy) settings.concurrency
        (settings.maxReexportDepth + 3) jobs now session := by
    rw [registryByPosition, read]
    rfl
  rw [isRun]
  exact Pool.lives_run (fun command _ => comesWithin_begin tool settings.policy command)
    settings.concurrency now session asks

end

/-- **Exports are looked up in an orderly way.** -/
theorem fan_out_orderly (tool : Tool) (settings : Settings) (files : FileTree) (entry : Path)
    {text : String} {start : Instant} {before : Session} (positive : 1 ≤ settings.concurrency)
    (read : files.read (Path.ofText entry.text) = .ok text)
    (way : route tool settings entry.text = .positions start before) :
    let desk := Desk.ofTool tool settings.policy
    let jobs := (Declarations.ofSource entry.text text.toList).jobs files settings
    let moments := (fanOut tool settings jobs start before).1
    let left := (fanOut tool settings jobs start before).2
    let run := assemble tool settings files entry
    -- At no moment are more jobs under way than allowed; a job is under way, or to come, or has ended.
    ((∀ earlier moment later, moments = earlier ++ moment :: later →
        moment.underWay desk ≤ settings.concurrency ∧
        moment.underWay desk + moment.ahead desk +
          (earlier.filterMap (Moment.end? desk)).length = jobs.length) ∧
      left.seats ≤ settings.concurrency ∧
      left.remaining + (moments.filterMap (Moment.end? desk)).length = jobs.length) ∧
    -- Without a failure each job ends once, with a finding of its own, unless some wait for ever.
    (moments.findSome? (Moment.failure? desk) = none → left.IsStuck ∨ left.remaining = 0 ∧
      ∃ findings registry,
        List.Forall₂ (fun job finding => job.Yields desk.MayAnswer (.ok finding)) jobs findings ∧
        (moments.filterMap (Moment.end? desk)).Perm (findings.map .ok) ∧
        registry.added.Perm (findings.filterMap Finding.added?) ∧
        run.1 = nonempty entry.text registry) ∧
    -- The first failure is what comes of the run; nothing happens later, and no process starts later.
    (∀ time error, moments.findSome? (Moment.failure? desk) = some (time, error) →
      run = (.error error, left.abandon desk time) ∧
      (∃ last, moments.getLast? = some last ∧ last.event = .stop error) ∧
      (∀ moment ∈ moments, moment.time ≤ time) ∧ lastTime start moments = time ∧
      ∀ (number : Nat) (launch : Launch), run.2.launches[number]? = some launch →
        launch.began ≤ time ∧ (launch.started = true → launch.start ≤ time)) ∧
    -- When the run ends, each process that was there has ended, or was killed.
    (∀ (number : Nat) (launch : Launch), run.2.launches[number]? = some launch →
      launch.started = true →
        ({} : Session).Settled run.2 number launch (lastTime start moments)) := by
  intro desk jobs moments left run
  have lives : Lives desk start (.ofJobs settings.concurrency jobs start before) moments left
      (registryByPosition tool settings files entry.text start before) :=
    lives_fanOut tool settings read start before
  have calm := @Pool.calm_ofJobs _ (Command × Call) settings.concurrency jobs start before
  have timely := @Pool.timely_ofJobs _ (Command × Call) settings.concurrency jobs start before
  have custody := lives.custody timely (Pool.custody_ofJobs (custody_route way) _ jobs)
  have isRun : run = ((registryByPosition tool settings files entry.text start before).1.bind
      (nonempty entry.text), (registryByPosition tool settings files entry.text start before).2) := by
    change assemble tool settings files entry = _
    rw [assemble_eq, way]
    rfl
  refine ⟨⟨fun earlier moment later parts => ?_, ?_, ?_⟩, fun fine => ?_, fun time error fails => ?_,
    fun number launch found started => ?_⟩
  · have allowed := (lives.bounded (Pool.seated_ofJobs _ _ _ _)).1 moment (parts ▸ by simp)
    exact ⟨allowed, (lives.counted.1 earlier moment later parts).trans
      (Pool.remaining_ofJobs _ _ _ _)⟩
  · exact (lives.bounded (Pool.seated_ofJobs _ _ _ _)).2
  · exact lives.counted.2.trans (Pool.remaining_ofJobs _ _ _ _)
  · rcases lives.of_no_failure calm fine with ⟨registry, ends⟩ | stuck
    · obtain ⟨none, findings, aligned, ended, entries⟩ := lives.completes_ofJobs positive ends
      refine .inr ⟨none, findings, registry, aligned, ended, entries, ?_⟩
      rw [isRun, ends]
      rfl
    · exact .inl stuck
  · obtain ⟨ends, stops, times, isTime⟩ := lives.of_failure timely calm fails
    have isRun : run = (.error error, left.abandon desk time) := by
      rw [isRun, ends]
      rfl
    refine ⟨isRun, stops, times, isTime, fun number launch found => ?_⟩
    have came := custody.started number launch (Nat.zero_le _)
    rw [ends, isTime] at came
    rw [isRun] at found
    exact came found
  · rw [isRun] at found ⊢
    exact custody.settled (Nat.zero_le _) found started

/-- Three definitions. -/
def threeTexts : String :=
  "export type A = string;\nexport type B = string;\nexport type C = string;\n"

/-- The aliases of these definitions. -/
def threeAliases : List AliasDeclaration :=
  [⟨"A", true, ⟨1, 13⟩, 0, 23, 16, 22⟩, ⟨"B", true, ⟨2, 13⟩, 24, 47, 40, 46⟩,
    ⟨"C", true, ⟨3, 13⟩, 48, 71, 64, 70⟩]

/-- A type checker that fails for the first definition, and never answers about the others. -/
def failsOrHangs : Tool :=
  ⟨"flow", fun args =>
    match args with
    | "version" :: _ =>
      ⟨"version", [{ output := "\x7b\"semver\": \"0.99.0\"\x7d".toUTF8.toList }]⟩
    | ["type-at-pos", _, _, _, _, "1", _] => ⟨"first", [{ code := 1, lifetime := some 5 }]⟩
    | "type-at-pos" :: _ => ⟨"others", [{ lifetime := none }]⟩
    | _ => ⟨"status", []⟩, .styled⟩

/-- Two exports at a time, with one process for each. -/
def twoPlaces : Settings := { maxRetries := 1, callTimeout := none, concurrency := 2 }

theorem jobs_threeTexts (files : FileTree) (settings : Settings) :
    (Declarations.ofSource "e.js" threeTexts.toList).jobs files settings =
      threeAliases.map fun alias_ => (Declarations.ofSource "e.js" threeTexts.toList).finding files
        settings.maxReexportDepth (.declared alias_) := by
  have located : locatedExports threeTexts.toList = [
      (0, .declared ⟨"A", true, ⟨1, 13⟩, 0, 23, 16, 22⟩),
      (24, .declared ⟨"B", true, ⟨2, 13⟩, 24, 47, 40, 46⟩),
      (48, .declared ⟨"C", true, ⟨3, 13⟩, 48, 71, 64, 70⟩)] := by
    rw [threeTexts, String.toList_ofList]
    decide +kernel
  rw [Declarations.jobs, exports_ofSource "e.js" located (by simp)]
  rfl

/-- The first failure comes after five nanoseconds. -/
theorem route_failsOrHangs : ∃ start before,
    route failsOrHangs twoPlaces (Path.ofText "e.js").text = .positions start before ∧
      let jobs := (Declarations.ofSource (Path.ofText "e.js").text threeTexts.toList).jobs
        (.ofFiles [("e.js", threeTexts)]) twoPlaces
      ((fanOut failsOrHangs twoPlaces jobs start before).1.findSome?
        (Moment.failure? (.ofTool failsOrHangs twoPlaces.policy))).map Prod.fst = some 5 := by
  have path : (Path.ofText "e.js").text = "e.js" := by decide +kernel
  simp only [path, jobs_threeTexts]
  have known : (match route failsOrHangs twoPlaces "e.js" with
    | .positions start before => ((fanOut failsOrHangs twoPlaces (threeAliases.map fun alias_ =>
        (Declarations.ofSource "e.js" threeTexts.toList).finding (.ofFiles [("e.js", threeTexts)])
          twoPlaces.maxReexportDepth (.declared alias_)) start before).1.findSome?
            (Moment.failure? (.ofTool failsOrHangs twoPlaces.policy))).map Prod.fst
    | _ => none) = some 5 := by decide +kernel
  split at known
  · exact ⟨_, _, ‹_›, known⟩
  · cases known

/-- The first definition fails after five nanoseconds, while the second one is looked up and the third
one has just got the place of the first one. -/
theorem fan_out_orderly_failsOrHangs : ∃ error session,
    assemble failsOrHangs twoPlaces (.ofFiles [("e.js", threeTexts)]) (.ofText "e.js") =
      (.error error, session) ∧
    ∀ (number : Nat) (launch : Launch), session.launches[number]? = some launch →
      launch.began ≤ 5 ∧ (launch.started = true →
        launch.start ≤ 5 ∧ ({} : Session).Settled session number launch 5) := by
  have read : (FileTree.ofFiles [("e.js", threeTexts)]).read
      (Path.ofText (Path.ofText "e.js").text) = .ok threeTexts := eq_ok_of_toOption (by decide +kernel)
  obtain ⟨start, before, way, fails⟩ := route_failsOrHangs
  obtain ⟨-, -, first, settled⟩ :=
    fan_out_orderly failsOrHangs twoPlaces _ (.ofText "e.js") (by decide) read way
  obtain ⟨⟨_, error⟩, found, rfl⟩ := Option.map_eq_some_iff.mp fails
  obtain ⟨came, -, -, last, begins⟩ := first _ error found
  rw [came] at begins settled
  rw [last] at settled
  refine ⟨error, _, came, fun number launch isThere => ?_⟩
  obtain ⟨began, starts⟩ := begins number launch isThere
  exact ⟨began, fun started => ⟨starts started, settled number launch isThere started⟩⟩

end TypeSchema
