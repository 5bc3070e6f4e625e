/-
**Timing does not change the result.**

* `run_of_run`: programs that know the same answers find the same entries, whatever the number of
  places and the times of the answers;
* `registry_of_kind`: so routes of the same kind lead to the same entries;
* `timing_irrelevant`: **two runs that differ only in the times of the answers and in the number of
  places** either both fail or find the same entries, and these have the same outputs in whatever
  order they were found.
-/

import TypeSchema.Proofs.Assembly.Resolution
import TypeSchema.Proofs.Assembly.Route
import TypeSchema.Proofs.Assembly.Settling
import TypeSchema.Proofs.Result
import TypeSchema.Proofs.Source.Order

namespace TypeSchema

variable {tool tool' : Tool} {policy : Policy} {settings : Settings} {files : FileTree}
  {path : String} {entry : Path} {answers : Command → Except RunError String}
  {inquiries : List (Inquiry Finding)} {places places' questions : Nat} {now now' : Instant}
  {start start' after : Session} {registry : Registry}

/-- Programs that know the same answers find the same entries. -/
theorem run_of_run (knows : tool.Knows policy answers) (knows' : tool'.Knows policy answers)
    (asks : ∀ job ∈ inquiries, job.AsksAtMost Retried questions) (positive : 1 ≤ places)
    (positive' : 1 ≤ places')
    (ends : Pool.run (.ofTool tool policy) places questions inquiries now start =
      (.ok registry, after)) :
    ∃ registry', (Pool.run (.ofTool tool' policy) places' questions inquiries now' start').1 =
      .ok registry' ∧ registry.added.Perm registry'.added ∧ registry.taken.Nodup := by
  obtain ⟨findings, settled, perm, distinct, -⟩ :=
    Pool.run_ok_settles asks knows.only (prints_ofTool tool policy) positive ends
  have names : ((findings.filterMap Finding.added?).map TypeEntry.name).Nodup :=
    (perm.map TypeEntry.name).nodup_iff.mp distinct
  obtain ⟨registry', after', ends'⟩ : ∃ registry' after',
      Pool.run (.ofTool tool' policy) places' questions inquiries now' start' =
        (.ok registry', after') :=
    Pool.run_ok_of_settles asks knows'.only knows'.prompt (prints_ofTool tool' policy) settled names
  obtain ⟨findings', settled', perm', -⟩ :=
    Pool.run_ok_settles asks knows'.only (prints_ofTool tool' policy) positive' ends'
  have same : findings = findings' :=
    List.right_unique_forall₂' (fun _ _ _ first second => by cases first.symm.trans second; rfl)
      settled settled'
  subst same
  exact ⟨registry', congrArg Prod.fst ends', perm.trans perm'.symm, distinct⟩

/-- What a listing comes to does not depend on what happened before. -/
theorem fst_recordListed (findings : List (Except AssemblyError Finding)) (registry : Registry)
    (session session' : Session) :
    (recordListed findings registry session).1 = (recordListed findings registry session').1 := by
  induction findings generalizing registry session session' with
  | nil => rfl
  | cons result rest ih =>
    obtain error | finding := result
    · rfl
    · rw [recordListed, recordListed]
      cases registry.record finding with
      | error => rfl
      | ok registry => exact ih registry _ _

/-- Routes of the same kind lead to the same entries. -/
theorem registry_of_kind {first second : Route} (knows : tool.Knows settings.policy answers)
    (knows' : tool'.Knows settings.policy answers) (positive : 1 ≤ settings.concurrency)
    (positive' : 1 ≤ places) (same : first.kind = second.kind)
    (ends : (first.registry tool settings files path).1 = .ok registry) :
    ∃ registry', (second.registry tool' { settings with concurrency := places } files path).1 =
      .ok registry' ∧ registry.added.Perm registry'.added ∧ registry.taken.Nodup := by
  cases first with
  | failed => cases ends
  | positions now session =>
    cases second with
    | failed => cases same
    | listing => cases same
    | positions now' session' =>
      simp only [Route.registry, registryByPosition] at ends ⊢
      cases read : files.read (Path.ofText path) with
      | error error =>
        rw [read] at ends
        cases ends
      | ok text =>
        rw [read] at ends
        refine run_of_run knows knows' ?_ positive positive' (Prod.ext ends rfl)
        intro job member
        obtain ⟨entry, -, rfl⟩ := List.mem_map.mp member
        exact finding_asks _ _ _ _
  | listing text session =>
    cases second with
    | failed => cases same
    | positions => cases same
    | listing text' session' =>
      cases same
      simp only [Route.registry, registryOfListing] at ends ⊢
      obtain ⟨found, -, -, distinct, -⟩ := recordListed_ok (Prod.ext ends rfl)
      rw [fst_recordListed _ _ session' session]
      exact ⟨registry, ends, .refl _, distinct List.nodup_nil⟩

/-- What comes of a run comes of every other one that differs only in its timing. -/
theorem assemble_of_assemble (settings : Settings) (places : Nat)
    (knows : tool.Knows settings.policy answers) (knows' : tool'.Knows settings.policy answers)
    (positive : 1 ≤ settings.concurrency) (positive' : 1 ≤ places)
    (ends : (assemble tool settings files entry).1 = .ok registry) :
    ∃ registry', (assemble tool' { settings with concurrency := places } files entry).1 =
      .ok registry' ∧ registry.added.Perm registry'.added ∧ registry.taken.Nodup := by
  have same : (route tool settings entry.text).kind =
      (route tool' { settings with concurrency := places } entry.text).kind := by
    rw [kind_route settings knows, kind_route { settings with concurrency := places } knows']
    rfl
  rw [assemble_eq] at ends ⊢
  dsimp only at ends ⊢
  cases came : ((route tool settings entry.text).registry tool settings files entry.text).1 with
  | error error =>
    rw [came] at ends
    cases ends
  | ok found =>
    rw [came] at ends
    obtain ⟨some, rfl⟩ := nonempty_eq_ok_iff.mp ends
    obtain ⟨registry', came', perm, distinct⟩ :=
      registry_of_kind knows knows' positive positive' same came
    rw [came']
    refine ⟨registry', nonempty_eq_ok_iff.mpr ⟨fun none => some ?_, rfl⟩, perm, distinct⟩
    exact List.perm_nil.mp (none ▸ perm)

/-- **Timing does not change the result.** Two runs whose programs know the same answers, and which
may differ in the times of the answers and in the number of places, both fail, or both find the
same entries; the names, entries, schemas, sources, documents and validator modules are then the
same. -/
theorem timing_irrelevant (files : FileTree) (entry : Path)
    (knows : tool.Knows settings.policy answers) (knows' : tool'.Knows settings.policy answers)
    (positive : 1 ≤ settings.concurrency) (positive' : 1 ≤ places) :
    (∃ error error', (assemble tool settings files entry).1 = .error error ∧
      (assemble tool' { settings with concurrency := places } files entry).1 = .error error') ∨
    ∃ registry registry', (assemble tool settings files entry).1 = .ok registry ∧
      (assemble tool' { settings with concurrency := places } files entry).1 = .ok registry' ∧
      registry.added.Perm registry'.added ∧ registry.Alike registry' := by
  cases first : (assemble tool settings files entry).1 with
  | ok registry =>
    obtain ⟨registry', second, perm, distinct⟩ :=
      assemble_of_assemble settings places knows knows' positive positive' first
    exact .inr ⟨registry, registry', rfl, second, perm, Registry.alike_of_perm distinct perm⟩
  | error error =>
    cases second : (assemble tool' { settings with concurrency := places } files entry).1 with
    | error error' => exact .inl ⟨error, error', rfl, rfl⟩
    | ok registry' =>
      obtain ⟨registry, other, -⟩ := assemble_of_assemble { settings with concurrency := places }
        settings.concurrency knows' knows positive' positive second
      cases first.symm.trans other

/-! ### A module with two aliases -/

/-- What a type checker prints about a module with two aliases. -/
def twoAliases : List String → List UInt8
  | "version" :: _ => "\x7b\"semver\": \"0.99.0\"\x7d".toUTF8.toList
  | ["type-at-pos", _, _, _, _, "1", _] =>
    "\x7b\"type\": \"type A = string;\"\x7d".toUTF8.toList
  | "type-at-pos" :: _ => "\x7b\"type\": \"type B = number;\"\x7d".toUTF8.toList
  | _ => []

/-- The module. -/
def twoTexts : String := "export type A = string;\nexport type B = number;\n"

/-- Its aliases. -/
def twoDeclarations : List AliasDeclaration :=
  [⟨"A", true, ⟨1, 13⟩, 0, 23, 16, 22⟩, ⟨"B", true, ⟨2, 13⟩, 24, 47, 40, 46⟩]

/-- What is shown of a registry. -/
def Registry.shown (registry : Registry) : List (String × String) :=
  registry.added.map fun entry => (entry.name, entry.schema.compact)

/-- What a run on the module comes to, as it can be evaluated: the declarations are told. -/
def shownTwo (tool : Tool) (settings : Settings) (files : FileTree) :
    Option (List (String × String)) :=
  match route tool settings "e.js" with
  | .positions now session =>
    (Pool.run (.ofTool tool settings.policy) settings.concurrency (settings.maxReexportDepth + 3)
      (twoDeclarations.map fun declaration => (Declarations.ofSource "e.js" twoTexts.toList).finding
        files settings.maxReexportDepth (.declared declaration)) now session).1.toOption.map
          Registry.shown
  | .listing .. => none
  | .failed .. => none

theorem assemble_twoTexts {tool : Tool} {settings : Settings} {files : FileTree}
    {head : String × String} {rest : List (String × String)}
    (read : files.read (Path.ofText "e.js") = .ok twoTexts)
    (shown : shownTwo tool settings files = some (head :: rest)) :
    ∃ registry, (assemble tool settings files (.ofText "e.js")).1 = .ok registry ∧
      registry.shown = head :: rest := by
  have located : locatedExports twoTexts.toList = [
      (0, .declared ⟨"A", true, ⟨1, 13⟩, 0, 23, 16, 22⟩),
      (24, .declared ⟨"B", true, ⟨2, 13⟩, 24, 47, 40, 46⟩)] := by
    rw [twoTexts, String.toList_ofList]
    decide +kernel
  have exports : (Declarations.ofSource "e.js" twoTexts.toList).exports =
      twoDeclarations.map .declared := exports_ofSource "e.js" located (by simp)
  have path : (Path.ofText "e.js").text = "e.js" := by decide +kernel
  rw [assemble_eq, path]
  dsimp only
  rw [shownTwo] at shown
  cases way : route tool settings "e.js" with
  | failed => simp [way] at shown
  | listing => simp [way] at shown
  | positions now session =>
    simp only [way] at shown
    obtain ⟨registry, came, isShown⟩ := Option.map_eq_some_iff.mp shown
    have made : (registryByPosition tool settings files "e.js" now session).1 = .ok registry := by
      simp only [registryByPosition, read, exports, List.map_map]
      exact eq_ok_of_toOption came
    refine ⟨registry, ?_, isShown⟩
    rw [Route.registry, made]
    refine nonempty_eq_ok_iff.mpr ⟨fun isNone => ?_, rfl⟩
    rw [Registry.shown, isNone] at isShown
    cases isShown

/-- A program that answers at once to three questions at a time, and one that takes longer for
longer questions, one at a time, find both aliases. -/
theorem timing_irrelevant_twoAliases :
    let files := FileTree.ofFiles [("e.js", twoTexts)]
    let settings : Settings := { callTimeout := none }
    ∃ registry registry',
      (assemble (.steady (fun _ => 0) twoAliases) settings files (.ofText "e.js")).1 =
        .ok registry ∧
      (assemble (.steady List.length twoAliases) { settings with concurrency := 1 } files
        (.ofText "e.js")).1 = .ok registry' ∧
      registry.shown = [("A", "\x7b\"type\":\"string\"\x7d"), ("B", "\x7b\"type\":\"number\"\x7d")] ∧
      registry.added.Perm registry'.added ∧ registry.Alike registry' := by
  intro files settings
  have read : files.read (Path.ofText "e.js") = .ok twoTexts := eq_ok_of_toOption (by decide +kernel)
  have told : shownTwo (.steady (fun _ => 0) twoAliases) settings files =
      some [("A", "\x7b\"type\":\"string\"\x7d"), ("B", "\x7b\"type\":\"number\"\x7d")] := by
    decide +kernel
  obtain ⟨registry, made, shown⟩ := assemble_twoTexts read told
  have knows (duration : List String → Nat) :
      (Tool.steady duration twoAliases).Knows settings.policy _ :=
    knows_steady duration twoAliases (by decide) rfl
  obtain ⟨error, -, failed, -⟩ | ⟨found, registry', isFound, second, perm, alike⟩ :=
    timing_irrelevant files (.ofText "e.js") (knows fun _ => 0) (knows List.length) (by decide)
      (Nat.le_refl 1)
  · cases made.symm.trans failed
  · cases made.symm.trans isFound
    exact ⟨registry, registry', made, second, shown, perm, alike⟩

end TypeSchema
