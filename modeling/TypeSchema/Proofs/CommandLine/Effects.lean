/-
**What commands do to files.**

* `FileTree.Written`: the one file that a path leads to has a new text, and every other file is as
  it was; `Storage.Lost`: the file was opened, and has what the storage left of its text;
* `Work.Ends`: what is left if work fails, and what it comes to if not, at whatever step it fails;
  `Ends.bind` is the rule for one step after another;
* `registry_ends`, `writeText_ends`, `print_ends`: making a registry and printing change no file, and
  writing a text changes one;
* `Invocation.Writes`: what a command writes, and the lines that confirm it;
* `failed_command_keeps_files`: **a command that fails leaves the files as they were**, unless it had
  opened the file that it writes: then the storage did not take the text, or the console did not print
  the confirmation. One that succeeds changes only the file that it writes, and that file holds the
  module or the schemas of the registry that was made;
* `unconfirmed_file_written`: a command that fails behind what it has written.
-/

import TypeSchema.CommandLine.Report
import TypeSchema.Proofs.Assembly.Timing
import TypeSchema.Proofs.Json.Fields

namespace TypeSchema

namespace FileTree

/-! ### One file -/

theorem lookup_put (names other : List String) (text : String)
    (files : List (List String × String)) :
    (put names text files).lookup other =
      if other = names then some text else files.lookup other := by
  induction files with
  | nil => rw [put, lookup_first]
  | cons file rest ih =>
    obtain ⟨first, old⟩ := file
    rw [put, lookup_first]
    by_cases found : first = names
    · subst found
      rw [if_pos rfl, lookup_first]
      split <;> rfl
    · rw [if_neg found, lookup_first, ih]
      by_cases here : other = first
      · subst here
        rw [if_pos rfl, if_neg found, if_pos rfl]
      · rw [if_neg here, if_neg here]

theorem text?_set (tree : FileTree) (names other : List String) (text : String) :
    (tree.set names text).text? other = if other = names then some text else tree.text? other :=
  lookup_put names other text tree.files

/-- After a text was written to a path, the file there holds it, and no other file has changed. -/
def Written (before : FileTree) (path : Path) (text : String) (after : FileTree) : Prop :=
  ∃ names, before.fileNames path = .ok names ∧ after.text? names = some text ∧
    ∀ other, other ≠ names → after.text? other = before.text? other

end FileTree

/-- A file was opened, which empties it, and the storage did not take the text: the file has what the
storage left of it, and no other file has changed. -/
def Storage.Lost (storage : Storage) (before : FileTree) (path : Path) (text : String)
    (error : CommandError) (after : FileTree) : Prop :=
  ∃ names fault left, before.fileNames path = .ok names ∧
    storage.loss names text = some (fault, left) ∧ error = .lost fault ∧
    before.Written path left after

/-! ### Work that fails or not -/

namespace Work

variable {α β : Type}

/-- Work that fails leaves files as described, and other work comes to a result and a workspace as
described. -/
def Ends (work : Work α) (before : Workspace) (failed : CommandError → FileTree → Prop)
    (result : α → Workspace → Prop) : Prop :=
  match work.run.run before with
  | (.error error, after) => failed error after.files
  | (.ok value, after) => result value after

theorem run_bind (first : Work α) (next : α → Work β) (before : Workspace) :
    (first >>= next).run.run before =
      match first.run.run before with
      | (.error error, after) => (.error error, after)
      | (.ok value, after) => (next value).run.run after := by
  show (ExceptT.bindCont next =<< first.run).run before = _
  rw [show (ExceptT.bindCont next =<< first.run).run before =
    (ExceptT.bindCont next (first.run.run before).1).run (first.run.run before).2 from rfl]
  match first.run.run before with
  | (.error _, after) => rfl
  | (.ok value, after) => rfl

theorem run_ofExcept (step : Except CommandError α) (before : Workspace) :
    (ExceptT.mk (Pure.pure step) : Work α).run.run before = (step, before) :=
  rfl

namespace Ends

variable {before : Workspace} {failed weaker : CommandError → FileTree → Prop}

/-- **One step after another.** -/
theorem bind {first : Work α} {next : α → Work β} {result : β → Workspace → Prop}
    (holds : first.Ends before failed fun value middle => (next value).Ends middle failed result) :
    (first >>= next).Ends before failed result := by
  unfold Ends at holds ⊢
  rw [run_bind]
  split at holds <;> exact holds

theorem pure {value : α} {result : α → Workspace → Prop} (holds : result value before) :
    Ends (Pure.pure value) before failed result :=
  holds

/-- A step that fails or not, and changes nothing. -/
theorem ofExcept {step : Except CommandError α} {result : α → Workspace → Prop}
    (fails : ∀ error, step = .error error → failed error before.files)
    (holds : ∀ value, step = .ok value → result value before) :
    Ends (ExceptT.mk (Pure.pure step)) before failed result := by
  match step with
  | .error error => exact fails error rfl
  | .ok value => exact holds value rfl

theorem get {result : Workspace → Workspace → Prop} (holds : result before before) :
    Ends MonadState.get before failed result :=
  holds

theorem set {after : Workspace} {result : PUnit → Workspace → Prop} (holds : result ⟨⟩ after) :
    Ends (MonadStateOf.set after) before failed result :=
  holds

theorem mono {work : Work α} {result loose : α → Workspace → Prop}
    (holds : work.Ends before failed result)
    (fails : ∀ error files, failed error files → weaker error files)
    (implies : ∀ value after, result value after → loose value after) :
    work.Ends before weaker loose := by
  unfold Ends at holds ⊢
  split at holds
  next error after step => exact fails error after.files holds
  next value after step => exact implies value after holds

end Ends

/-! ### The steps -/

theorem print_ends (console : Console) (texts : List String) (before : Workspace) :
    (print console texts).Ends before
      (fun error files => files = before.files ∧ ∃ text ∈ texts, ∃ objection,
        console.objection text = some objection ∧ error = .unprintable objection)
      fun _ after => after = before ∧ ∀ text ∈ texts, console.objection text = none := by
  unfold print
  split
  · rename_i silent
    exact ⟨rfl, List.findSome?_eq_none_iff.mp silent⟩
  · rename_i objection objects
    obtain ⟨text, member, found⟩ := List.exists_of_findSome?_eq_some objects
    exact ⟨rfl, text, member, objection, found, rfl⟩

/-- **A registry is made**, unless the console does not print the line that comes first. -/
theorem registry_run (machine : Machine) (settings : Settings) (input : Path)
    (before : Workspace) :
    (registry machine settings input).run.run before =
      match machine.console.objection (processingLine input) with
      | some objection => (.error (.unprintable objection), before)
      | none =>
        let (result, session) :=
          assemble (machine.tools settings.flowPath) settings before.files input
        (result.mapError .assembly,
          { before with
            session := session,
            program := if session.launches.isEmpty then none else some settings.flowPath }) := by
  unfold registry
  rw [run_bind, print, List.findSome?_singleton]
  cases machine.console.objection (processingLine input) with
  | some objection => rfl
  | none => rfl

theorem registry_ends (machine : Machine) (settings : Settings) (input : Path)
    (before : Workspace) :
    (registry machine settings input).Ends before (fun _ files => files = before.files)
      fun registry after => after.files = before.files ∧
        (assemble (machine.tools settings.flowPath) settings before.files input).1 =
          .ok registry := by
  unfold Ends
  rw [registry_run]
  cases machine.console.objection (processingLine input) with
  | some objection => rfl
  | none =>
    dsimp only
    cases (assemble (machine.tools settings.flowPath) settings before.files input).1 with
    | error error => rfl
    | ok registry => exact ⟨rfl, rfl⟩

theorem openFile_run (storage : Storage) (path : Path) (before : Workspace) :
    (openFile storage path).run.run before =
      match before.files.fileNames path with
      | .error fault => (.error (.file ⟨fault, path⟩), before)
      | .ok names =>
        match storage.refusal names with
        | some fault => (.error (.refused fault path), before)
        | none => (.ok names, { before with files := before.files.set names "" }) := by
  unfold openFile
  rw [run_bind]
  show (match before.files.fileNames path with
    | .error fault => _
    | .ok names => _ : Work (List String)).run.run before = _
  cases before.files.fileNames path with
  | error fault => rfl
  | ok names =>
    dsimp only
    cases storage.refusal names <;> rfl

/-- **A text is written**, or it is not and the file has what is left of it. -/
theorem writeText_run {path : Path} {names : List String} {before : Workspace} (storage : Storage)
    (text : String) (leads : before.files.fileNames path = .ok names)
    (opens : storage.refusal names = none) :
    (writeText storage path text).run.run before =
      match storage.loss names text with
      | none => (.ok (), { before with files := (before.files.set names "").set names text })
      | some (fault, left) =>
        (.error (.lost fault), { before with files := (before.files.set names "").set names left }) := by
  unfold writeText
  rw [run_bind, openFile_run, leads]
  simp only [opens]
  cases storage.loss names text <;> rfl

theorem written_set {path : Path} {names : List String} {before : FileTree}
    (leads : before.fileNames path = .ok names) (text : String) :
    before.Written path text ((before.set names "").set names text) := by
  refine ⟨names, leads, ?_, fun other different => ?_⟩
  · rw [FileTree.text?_set, if_pos rfl]
  · rw [FileTree.text?_set, if_neg different, FileTree.text?_set, if_neg different]

theorem writeText_ends (storage : Storage) (path : Path) (text : String) (before : Workspace) :
    (writeText storage path text).Ends before
      (fun error files => files = before.files ∨ storage.Lost before.files path text error files)
      fun _ after => before.files.Written path text after.files := by
  cases leads : before.files.fileNames path with
  | error fault =>
    unfold Ends writeText
    rw [run_bind, openFile_run, leads]
    exact .inl rfl
  | ok names =>
    cases opens : storage.refusal names with
    | some fault =>
      unfold Ends writeText
      rw [run_bind, openFile_run, leads]
      simp only [opens]
      exact .inl trivial
    | none =>
      unfold Ends
      rw [writeText_run storage text leads opens]
      cases lost : storage.loss names text with
      | none => exact written_set leads text
      | some both =>
        obtain ⟨fault, left⟩ := both
        exact .inr ⟨names, fault, left, leads, lost, rfl, written_set leads left⟩

end Work

/-! ### Commands -/

variable (machine : Machine) (settings : Settings) (input : Path) (output : Option Path)
  (before : Workspace)

/-- Writing the validators of a module leaves every file as it was, or sets one. -/
theorem writeValidator_ends :
    (writeValidator machine settings input output).Ends before
      (fun error files => files = before.files ∨ ∃ path registry,
        outputPath input output = .ok path ∧
        (assemble (machine.tools settings.flowPath) settings before.files input).1 = .ok registry ∧
        machine.storage.Lost before.files path (registry.validatorModule input.text) error files)
      fun path after => ∃ registry, outputPath input output = .ok path ∧
        (assemble (machine.tools settings.flowPath) settings before.files input).1 = .ok registry ∧
        before.files.Written path (registry.validatorModule input.text) after.files := by
  unfold writeValidator
  refine .bind (.ofExcept (fun _ _ => .inl rfl) fun path placed => ?_)
  have destination : outputPath input output = .ok path := by
    cases place : outputPath input output with
    | error error =>
      rw [place] at placed
      cases placed
    | ok place =>
      rw [place] at placed
      cases placed
      rfl
  refine .bind ((Work.registry_ends machine settings input before).mono (fun _ _ => .inl)
    fun registry middle step => ?_)
  obtain ⟨same, made⟩ := step
  refine .bind ((Work.writeText_ends machine.storage path _ middle).mono
    (fun error files failed => ?_) fun _ after written => .pure ?_)
  · rw [same] at failed
    exact failed.imp_right fun lost => ⟨path, registry, destination, made, lost⟩
  · rw [same] at written
    exact ⟨registry, destination, made, written⟩

theorem dumpSchemas_ends (storage : Storage) (registry : Registry) :
    (dumpSchemas storage registry output).Ends before
      (fun error files => files = before.files ∨ ∃ path, output = some path ∧
        storage.Lost before.files path registry.document error files)
      fun document after => document = registry.document ∧
        match output with
        | none => after.files = before.files
        | some path => before.files.Written path registry.document after.files := by
  unfold dumpSchemas
  match output with
  | none => exact .pure ⟨rfl, rfl⟩
  | some path =>
    exact .bind ((Work.writeText_ends storage path _ before).mono
      (fun _ _ failed => failed.imp_right fun lost => ⟨path, rfl, lost⟩)
      fun _ after written => .pure ⟨rfl, written⟩)

theorem settings_ends (options : SettingsOptions) :
    options.work.Ends before (fun _ files => files = before.files) fun settings after =>
      after = before ∧ options.settings before.files = .ok settings := by
  unfold SettingsOptions.work
  exact .bind (.get (.ofExcept (fun _ _ => rfl) fun settings found => ⟨rfl, found⟩))

namespace Invocation

variable (machine : Machine) (before : FileTree)

/-- A text that a command writes to a path once its registry is made, and the lines that confirm it. -/
def Writes (path : Path) (text : String) (lines : List String) : Invocation → Prop
  | version => False
  | generate paths options =>
    ∃ input output settings registry, generatePaths? paths = some (input, output) ∧
      outputPath input output = .ok path ∧ options.settings before = .ok settings ∧
      (assemble (machine.tools settings.flowPath) settings before input).1 = .ok registry ∧
      text = registry.validatorModule input.text ∧ lines = validatorReport path
  | schema input output options =>
    ∃ place settings registry, output = some place ∧ path = .ofText place ∧
      options.settings before = .ok settings ∧
      (assemble (machine.tools settings.flowPath) settings before (.ofText input)).1 =
        .ok registry ∧
      text = registry.document ∧ lines = schemasReport registry (.ofText input) path

/-- A command that only prints, and can. -/
def Prints : Invocation → Prop
  | version => True
  | generate _ _ => False
  | schema input output options =>
    output = none ∧ ∃ settings registry, options.settings before = .ok settings ∧
      (assemble (machine.tools settings.flowPath) settings before (.ofText input)).1 = .ok registry

/-- What is left of a command that fails: the files as they were; or the file that it writes was
opened, and the storage did not take the text, or it did and the console did not print a line that
confirms it. -/
def Leaves (invocation : Invocation) (error : CommandError) (after : FileTree) : Prop :=
  after = before ∨ ∃ path text lines, invocation.Writes machine before path text lines ∧
    (machine.storage.Lost before path text error after ∨
      before.Written path text after ∧ ∃ line ∈ lines, ∃ objection,
        machine.console.objection line = some objection ∧ error = .unprintable objection)

/-- What a command that succeeds has done. -/
def Done (invocation : Invocation) (after : FileTree) : Prop :=
  invocation.Prints machine before ∧ after = before ∨
    ∃ path text lines, invocation.Writes machine before path text lines ∧
      before.Written path text after ∧ ∀ line ∈ lines, machine.console.objection line = none

end Invocation

theorem work_ends (invocation : Invocation) :
    (invocation.work machine).Ends before (invocation.Leaves machine before.files)
      fun printed after => printed.1 = 0 ∧ invocation.Done machine before.files after.files ∨
        printed.1 = failureCode ∧ after.files = before.files := by
  match invocation with
  | .version => exact .pure (.inl ⟨rfl, .inl ⟨trivial, rfl⟩⟩)
  | .generate paths options =>
    unfold Invocation.work
    dsimp only
    cases found : generatePaths? paths with
    | none => exact .pure (.inr ⟨rfl, rfl⟩)
    | some both =>
      obtain ⟨input, output⟩ := both
      refine .bind ((settings_ends before options).mono (fun _ _ => .inl)
        fun settings middle step => ?_)
      obtain ⟨rfl, resolved⟩ := step
      have writes {path : Path} {registry : Registry} (placed : outputPath input output = .ok path)
          (made : (assemble (machine.tools settings.flowPath) settings middle.files input).1 =
            .ok registry) :
          (Invocation.generate paths options).Writes machine middle.files path
            (registry.validatorModule input.text) (validatorReport path) :=
        ⟨input, output, settings, registry, found, placed, resolved, made, rfl, rfl⟩
      refine .bind ((writeValidator_ends machine settings input output middle).mono
        (fun error files failed => ?_) fun path after step => ?_)
      · refine failed.imp_right fun ⟨path, registry, placed, made, lost⟩ => ?_
        exact ⟨path, _, _, writes placed made, .inl lost⟩
      · obtain ⟨registry, placed, made, written⟩ := step
        refine .bind ((Work.print_ends machine.console (validatorReport path) after).mono
          (fun error files failed => ?_) fun _ last printed => .pure ?_)
        · obtain ⟨rfl, objected⟩ := failed
          exact .inr ⟨path, _, _, writes placed made, .inr ⟨written, objected⟩⟩
        · obtain ⟨rfl, silent⟩ := printed
          exact .inl ⟨rfl, .inr ⟨path, _, _, writes placed made, written, silent⟩⟩
  | .schema input output options =>
    refine .bind ((settings_ends before options).mono (fun _ _ => .inl)
      fun settings middle step => ?_)
    obtain ⟨rfl, resolved⟩ := step
    refine .bind ((Work.registry_ends machine settings (.ofText input) middle).mono
      (fun _ _ => .inl) fun registry made step => ?_)
    obtain ⟨same, assembled⟩ := step
    refine .bind ((dumpSchemas_ends (output.map Path.ofText) made machine.storage registry).mono
      (fun error files failed => ?_) fun document after step => ?_)
    · rw [same] at failed
      refine failed.imp_right fun ⟨path, isPath, lost⟩ => ?_
      obtain ⟨place, isPlace, rfl⟩ := Option.map_eq_some_iff.mp isPath
      exact ⟨_, _, _, ⟨place, settings, registry, isPlace, rfl, resolved, assembled, rfl, rfl⟩,
        .inl lost⟩
    · obtain ⟨-, written⟩ := step
      rw [same] at written
      cases output with
      | none => exact .pure (.inl ⟨rfl, .inl ⟨⟨rfl, settings, registry, resolved, assembled⟩, written⟩⟩)
      | some place =>
        have writes : (Invocation.schema input (some place) options).Writes machine middle.files
            (.ofText place) registry.document
            (schemasReport registry (.ofText input) (.ofText place)) :=
          ⟨place, settings, registry, rfl, rfl, resolved, assembled, rfl, rfl⟩
        refine .bind ((Work.print_ends machine.console _ after).mono
          (fun error files failed => ?_) fun _ last printed => .pure ?_)
        · obtain ⟨rfl, objected⟩ := failed
          exact .inr ⟨_, _, _, writes, .inr ⟨written, objected⟩⟩
        · obtain ⟨rfl, silent⟩ := printed
          exact .inl ⟨rfl, .inr ⟨_, _, _, writes, written, silent⟩⟩

/-! ### Commands that come to their file -/

section

variable {machine : Machine} {files : FileTree} {words paths : List String}
  {options : SettingsOptions} {input path : Path} {output : Option Path} {settings : Settings}
  {registry : Registry}

theorem ofWords?_plain (names : List String) {words : List String}
    (plain : ∀ word ∈ words, word ≠ "--" ∧ isOption word.toList = false) :
    Arguments.ofWords? names words = some ⟨[], words⟩ := by
  induction words with
  | nil => rw [Arguments.ofWords?]
  | cons word rest ih =>
    obtain ⟨⟨open_, operand⟩, plain⟩ := List.forall_mem_cons.mp plain
    rw [Arguments.ofWords?, if_neg open_, operand, ih plain]
    rfl

/-- Words without options call the generation of validators with the usual settings. -/
theorem ofArguments?_generate (files : FileTree) (paths : List String)
    (plain : ∀ path ∈ paths, path ≠ "--" ∧ isOption path.toList = false) :
    Invocation.ofArguments? files ("generate" :: paths) =
      some (.generate paths ⟨none, none⟩) := by
  show (do
    let arguments ← Arguments.ofWords? [Invocation.configName, Invocation.flowName] paths
    return Invocation.generate arguments.operands
      (← Invocation.settingsOptions? files arguments)) = _
  rw [ofWords?_plain _ plain]
  rfl

/-- **Once the registry is made**, what is left is to write the file and to confirm it. -/
theorem report_of_registry
    (called : Invocation.ofArguments? files words = some (.generate paths options))
    (found : generatePaths? paths = some (input, output))
    (resolved : options.settings files = .ok settings) (placed : outputPath input output = .ok path)
    (prints : machine.console.objection (Work.processingLine input) = none)
    (made : (assemble (machine.tools settings.flowPath) settings files input).1 = .ok registry) :
    ∃ middle : Workspace, middle.files = files ∧
      report machine files words = .ofResult (
        match (Work.writeText machine.storage path (registry.validatorModule input.text)).run.run
          middle with
        | (.error error, after) => (.error error, after)
        | (.ok _, after) => (((validatorReport path).findSome? machine.console.objection).elim
            (.ok (0, s!"Validator written: {path.text}\n")) (.error ∘ .unprintable), after)) := by
  have settled : options.work.run.run { files := files } = (.ok settings, { files := files }) := by
    show ((options.settings files, _) : Except CommandError Settings × Workspace) = _
    rw [resolved]
  rw [report, called]
  dsimp only [Invocation.report]
  unfold Invocation.work writeValidator
  dsimp only
  rw [found]
  dsimp only
  rw [Work.run_bind, settled]
  dsimp only
  rw [Work.run_bind, Work.run_bind, Work.run_ofExcept, placed]
  dsimp only [Except.mapError]
  rw [Work.run_bind, Work.registry_run, prints]
  dsimp only
  rw [made]
  dsimp only [Except.mapError]
  rw [Work.run_bind]
  refine ⟨⟨files, (assemble (machine.tools settings.flowPath) settings files input).2,
    if (assemble (machine.tools settings.flowPath) settings files input).2.launches.isEmpty then none
    else some settings.flowPath⟩, rfl, ?_⟩
  congr 1
  match (Work.writeText machine.storage path (registry.validatorModule input.text)).run.run _ with
  | (.error error, after) => rfl
  | (.ok _, after) =>
    show (Work.print machine.console (validatorReport path) >>= _).run.run after = _
    rw [Work.run_bind, Work.print]
    cases (validatorReport path).findSome? machine.console.objection <;> rfl

/-- A command that can open and fill its file has written it, whether or not that is confirmed. -/
theorem report_written {names : List String}
    (called : Invocation.ofArguments? files words = some (.generate paths options))
    (found : generatePaths? paths = some (input, output))
    (resolved : options.settings files = .ok settings) (placed : outputPath input output = .ok path)
    (prints : machine.console.objection (Work.processingLine input) = none)
    (made : (assemble (machine.tools settings.flowPath) settings files input).1 = .ok registry)
    (leads : files.fileNames path = .ok names) (opens : machine.storage.refusal names = none)
    (keeps : machine.storage.loss names (registry.validatorModule input.text) = none) :
    files.Written path (registry.validatorModule input.text) (report machine files words).files ∧
      (report machine files words).error =
        ((validatorReport path).findSome? machine.console.objection).map .unprintable ∧
      ((report machine files words).code = 0 ↔ (report machine files words).error = none) := by
  obtain ⟨middle, rfl, same⟩ := report_of_registry called found resolved placed prints made
  rw [same, Work.writeText_run machine.storage _ leads opens, keeps]
  dsimp only
  cases (validatorReport path).findSome? machine.console.objection with
  | none => exact ⟨Work.written_set leads _, rfl, ⟨fun _ => rfl, fun _ => rfl⟩⟩
  | some objection => exact ⟨Work.written_set leads _, rfl, nofun, nofun⟩

/-- A command whose path leads to no file fails there, behind the questions. -/
theorem report_unwritten {fault : FileFault}
    (called : Invocation.ofArguments? files words = some (.generate paths options))
    (found : generatePaths? paths = some (input, output))
    (resolved : options.settings files = .ok settings) (placed : outputPath input output = .ok path)
    (prints : machine.console.objection (Work.processingLine input) = none)
    (made : (assemble (machine.tools settings.flowPath) settings files input).1 = .ok registry)
    (leads : files.fileNames path = .error fault) :
    (report machine files words).error = some (.file ⟨fault, path⟩) ∧
      (report machine files words).code = failureCode := by
  obtain ⟨middle, rfl, same⟩ := report_of_registry called found resolved placed prints made
  rw [same]
  unfold Work.writeText
  rw [Work.run_bind, Work.openFile_run, leads]
  exact ⟨rfl, rfl⟩

end

/-! ### What is kept -/

/-- A command that does not fail once it has opened the file that it writes: the storage takes the text,
and the console prints the lines that confirm it. -/
def Invocation.Confirmed (machine : Machine) (before : FileTree) (invocation : Invocation) : Prop :=
  ∀ path text lines, invocation.Writes machine before path text lines →
    (∀ names, before.fileNames path = .ok names → machine.storage.loss names text = none) ∧
      ∀ line ∈ lines, machine.console.objection line = none

theorem Invocation.Confirmed.same {machine : Machine} {before after : FileTree}
    {invocation : Invocation} {error : CommandError} (confirmed : invocation.Confirmed machine before)
    (leaves : invocation.Leaves machine before error after) : after = before := by
  obtain same | ⟨path, text, lines, writes, late⟩ := leaves
  · exact same
  obtain ⟨keeps, prints⟩ := confirmed path text lines writes
  obtain ⟨names, fault, left, leads, lost, -⟩ | ⟨-, line, member, objection, objects, -⟩ := late
  · cases (keeps names leads).symm.trans lost
  · cases (prints line member).symm.trans objects

theorem report_files (files : FileTree) (words : List String) :
    ((report machine files words).code ≠ 0 →
        (report machine files words).files = files ∨ ∃ invocation error,
          Invocation.ofArguments? files words = some invocation ∧
          (report machine files words).error = some error ∧
          invocation.Leaves machine files error (report machine files words).files) ∧
      ((report machine files words).code = 0 → ∃ invocation,
        Invocation.ofArguments? files words = some invocation ∧
        invocation.Done machine files (report machine files words).files) := by
  unfold report
  cases called : Invocation.ofArguments? files words with
  | none => exact ⟨fun _ => .inl rfl, nofun⟩
  | some invocation =>
    have effect := work_ends machine { files := files } invocation
    unfold Work.Ends at effect
    dsimp only [Invocation.report]
    match step : ((invocation.work machine).run.run { files := files } :
        Except CommandError (Nat × String) × Workspace) with
    | (.error error, after) =>
      rw [step] at effect
      exact ⟨fun _ => .inr ⟨invocation, error, rfl, rfl, effect⟩, nofun⟩
    | (.ok (code, output), after) =>
      rw [step] at effect
      obtain ⟨code_eq, finished⟩ | ⟨code_eq, same⟩ := effect
      · exact ⟨fun failed => (failed code_eq).elim, fun _ => ⟨invocation, rfl, finished⟩⟩
      · exact ⟨fun _ => .inl same, fun succeeded =>
          absurd (code_eq.symm.trans succeeded) Nat.one_ne_zero⟩

theorem Invocation.Leaves.same_of_file {machine : Machine} {before after : FileTree}
    {invocation : Invocation} {error : FileError}
    (leaves : invocation.Leaves machine before (.file error) after) : after = before := by
  obtain same | ⟨_, _, _, _, ⟨_, _, _, _, _, isLost, _⟩ | ⟨_, _, _, _, _, isUnprintable⟩⟩ := leaves
  · exact same
  · cases isLost
  · cases isUnprintable

/-- **A command that fails leaves the files as they were**, and so do its parts, writing the validators
of a module and writing the schemas of a registry, as long as nothing goes wrong once a file was
opened: the storage takes the text, and the console prints the lines that confirm it. Otherwise only
the file that is written has changed, and holds what the storage has left of the text, or the text. A
command that succeeds changes only that file, and the file holds the module or the schemas of the
registry that was made. -/
theorem failed_command_keeps_files (machine : Machine) :
    (∀ settings input output before,
      (writeValidator machine settings input output).Ends before
        (fun error files => files = before.files ∨ ∃ path registry,
          outputPath input output = .ok path ∧
          (assemble (machine.tools settings.flowPath) settings before.files input).1 =
            .ok registry ∧
          machine.storage.Lost before.files path (registry.validatorModule input.text) error files)
        fun path after => ∃ registry, outputPath input output = .ok path ∧
          (assemble (machine.tools settings.flowPath) settings before.files input).1 =
            .ok registry ∧
          before.files.Written path (registry.validatorModule input.text) after.files) ∧
    (∀ registry output before,
      (dumpSchemas machine.storage registry output).Ends before
        (fun error files => files = before.files ∨ ∃ path, output = some path ∧
          machine.storage.Lost before.files path registry.document error files)
        fun document after => document = registry.document ∧
          match output with
          | none => after.files = before.files
          | some path => before.files.Written path registry.document after.files) ∧
    ∀ files words,
      ((report machine files words).code ≠ 0 →
          (∀ invocation, Invocation.ofArguments? files words = some invocation →
            invocation.Confirmed machine files) →
          (report machine files words).files = files) ∧
        ((report machine files words).code ≠ 0 →
          (report machine files words).files = files ∨ ∃ invocation error,
            Invocation.ofArguments? files words = some invocation ∧
            (report machine files words).error = some error ∧
            invocation.Leaves machine files error (report machine files words).files) ∧
        ((report machine files words).code = 0 → ∃ invocation,
          Invocation.ofArguments? files words = some invocation ∧
          invocation.Done machine files (report machine files words).files) := by
  refine ⟨writeValidator_ends machine, fun registry output before =>
    dumpSchemas_ends output before machine.storage registry, fun files words => ?_⟩
  obtain ⟨fails, succeeds⟩ := report_files machine files words
  refine ⟨fun failed confirmed => ?_, fails, succeeds⟩
  obtain same | ⟨invocation, error, called, -, leaves⟩ := fails failed
  · exact same
  · exact (confirmed invocation called).same leaves

/-! ### Files of an earlier run -/

/-- A module, what an earlier run has made of it, and two directories. -/
def earlierRun : FileTree :=
  .ofFiles [("e.js", twoTexts), ("e_validator.py", "kept"), ("out/keep.txt", ""),
    ("x[/keep.txt", "")]

/-- A machine whose programs know the two aliases of the module. -/
def knowing : Machine := ⟨fun _ => .steady (fun _ => 0) twoAliases, .styled, .sound⟩

/-- What the programs tell of the module. -/
theorem assemble_earlierRun :
    ∃ registry, (assemble (knowing.tools ({} : Settings).flowPath) {} earlierRun (.ofText "e.js")).1 =
        .ok registry ∧
      registry.shown =
        [("A", "\x7b\"type\":\"string\"\x7d"), ("B", "\x7b\"type\":\"number\"\x7d")] :=
  assemble_twoTexts (eq_ok_of_toOption (by decide +kernel))
    (by decide +kernel : shownTwo (.steady (fun _ => 0) twoAliases) {} earlierRun =
      some [("A", "\x7b\"type\":\"string\"\x7d"), ("B", "\x7b\"type\":\"number\"\x7d")])

/-- A command whose file is a directory fails when everything was told, and the files are kept; one
without a path of its own replaces what the earlier run has made. -/
theorem earlierRun_keptOrReplaced :
    (report knowing earlierRun ["generate", "e.js", "out"]).code = failureCode ∧
      (report knowing earlierRun ["generate", "e.js", "out"]).files = earlierRun ∧
      (report knowing earlierRun ["generate", "e.js"]).code = 0 ∧
      ∃ registry : Registry, registry.shown =
          [("A", "\x7b\"type\":\"string\"\x7d"), ("B", "\x7b\"type\":\"number\"\x7d")] ∧
        earlierRun.Written (.ofText "e_validator.py") (registry.validatorModule "e.js")
          (report knowing earlierRun ["generate", "e.js"]).files := by
  obtain ⟨registry, made, shown⟩ := assemble_earlierRun
  have prints : knowing.console.objection (Work.processingLine (.ofText "e.js")) = none := by
    decide +kernel
  have destination : outputPath (.ofText "e.js") none = .ok (.ofText "e_validator.py") := by
    decide +kernel
  have unwritten := report_unwritten
    (ofArguments?_generate earlierRun ["e.js", "out"] (by decide +kernel)) rfl rfl rfl prints made
    (by decide +kernel : earlierRun.fileNames (.ofText "out") = .error .directory)
  have written := report_written
    (ofArguments?_generate earlierRun ["e.js"] (by decide +kernel)) rfl rfl destination prints
    made (by decide +kernel : earlierRun.fileNames (.ofText "e_validator.py") =
      .ok ["e_validator.py"]) rfl rfl
  obtain ⟨-, kept, -⟩ :=
    (failed_command_keeps_files knowing).2.2 earlierRun ["generate", "e.js", "out"]
  obtain ⟨-, -, replaced⟩ :=
    (failed_command_keeps_files knowing).2.2 earlierRun ["generate", "e.js"]
  have silent : (validatorReport (.ofText "e_validator.py")).findSome? knowing.console.objection =
      none := by decide +kernel
  have succeeded := written.2.2.mpr (written.2.1.trans (congrArg _ silent))
  refine ⟨unwritten.2, ?_, succeeded, ?_⟩
  · obtain same | ⟨invocation, error, -, isError, leaves⟩ := kept (by rw [unwritten.2]; decide)
    · exact same
    cases isError.symm.trans unwritten.1
    exact leaves.same_of_file
  · obtain ⟨invocation, isInvocation, done⟩ := replaced succeeded
    cases isInvocation.symm.trans (ofArguments?_generate earlierRun ["e.js"] (by decide +kernel))
    obtain ⟨prints, -⟩ | ⟨path, text, lines, writes, holds, -⟩ := done
    · exact prints.elim
    obtain ⟨input, output, settings, found, isInput, placed, isSettings, isFound, rfl, -⟩ := writes
    cases isInput
    cases isSettings
    cases made.symm.trans isFound
    cases placed.symm.trans destination
    exact ⟨registry, shown, holds⟩

/-- A command whose file has a name that closes a tag which is not open has written the file when it
fails: the console does not print the line that confirms it. -/
theorem unconfirmed_file_written :
    let unconfirmed := report knowing earlierRun ["generate", "e.js", "x[/b].py"]
    unconfirmed.code ≠ 0 ∧
      unconfirmed.error = some (.unprintable
        "closing tag '[/b]' at position 35 doesn't match any open tag") ∧
      unconfirmed.files ≠ earlierRun ∧
      ∃ registry : Registry, registry.shown =
          [("A", "\x7b\"type\":\"string\"\x7d"), ("B", "\x7b\"type\":\"number\"\x7d")] ∧
        earlierRun.Written (.ofText "x[/b].py") (registry.validatorModule "e.js")
          unconfirmed.files := by
  intro unconfirmed
  obtain ⟨registry, made, shown⟩ := assemble_earlierRun
  have objects : (validatorReport (.ofText "x[/b].py")).findSome? knowing.console.objection =
      some "closing tag '[/b]' at position 35 doesn't match any open tag" := by decide +kernel
  have leads : earlierRun.fileNames (.ofText "x[/b].py") = .ok ["x[", "b].py"] := by decide +kernel
  obtain ⟨written, error, succeeds⟩ := report_written
    (ofArguments?_generate earlierRun ["e.js", "x[/b].py"] (by decide +kernel)) rfl rfl rfl
    (by decide +kernel) made leads rfl rfl
  rw [objects] at error
  refine ⟨fun none => ?_, error, fun same => ?_, registry, shown, written⟩
  · cases error.symm.trans (succeeds.mp none)
  · obtain ⟨names, isNames, text, -⟩ := written
    cases isNames.symm.trans leads
    have unknown : earlierRun.text? ["x[", "b].py"] = none := by decide +kernel
    cases text.symm.trans ((congrArg (FileTree.text? · _) same).trans unknown)

end TypeSchema
