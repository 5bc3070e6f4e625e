/-
**Where questions for types point.**

* `Declarations.PointInto`: what a source declares stands in it, and its exports are in order;
* `Declarations.Resolves`: the places of the names that a module gives its exports;
  `Resolves.readsAt`: **such a name can be read at its place**;
* `FileTree.Locates`: a question for a type names such a place in a file;
* `finding_locates`: **an export asks only such questions**, through any chain of modules;
* `asked_assemble`: **and so does a whole run**.
-/

import TypeSchema.Proofs.Assembly.Confined
import TypeSchema.Proofs.Assembly.Reexport
import TypeSchema.Proofs.Assembly.Route
import TypeSchema.Proofs.Assembly.Timing
import TypeSchema.Proofs.Source.Increasing

namespace TypeSchema

variable {path name text : String} {source : List Char} {position : Position}
  {declaration : AliasDeclaration} {entry : Export} {files : FileTree}

/-! ### Declarations of a source -/

namespace Declarations

theorem mem_exports (isExport : entry ∈ (ofSource path source).exports) :
    ∃ start, (start, entry) ∈ locatedExports source := by
  obtain ⟨⟨start, found⟩, member, rfl⟩ := List.mem_map.mp isExport
  exact ⟨start, List.mem_mergeSort.mp member⟩

/-- An alias is kept under its own name. -/
theorem mem_findAliases_of_aliases
    (isAlias : (name, declaration) ∈ (ofSource path source).aliases) :
    declaration ∈ findAliases source (mask source) ∧ declaration.name = name := by
  obtain ⟨other, member, same⟩ := List.mem_map.mp (mem_of_mem_collectFields isAlias)
  cases same
  exact ⟨member, rfl⟩

/-- What a source declares stands in it, and its exports are in order. -/
structure PointInto (declarations : Declarations) (source : List Char) : Prop where
  aliases : ∀ name declaration, (name, declaration) ∈ declarations.aliases →
    declaration.name = name ∧ declaration.StandsIn source
  declared : ∀ declaration, .declared declaration ∈ declarations.exports →
    declaration.StandsIn source
  imports : ∀ name binding, (name, binding) ∈ declarations.imports →
    ReadsAt source binding.position binding.imported
  named : ∀ specifier, .specifier specifier ∈ declarations.exports →
    ReadsAt source specifier.position specifier.localName
  /-- Exports are in the order of the statements that make them, and those of one statement in the
  order of their places. -/
  inOrder : ∃ located : List (Nat × Export), located.Perm (locatedExports source) ∧
    located.map Prod.snd = declarations.exports ∧
      located.Pairwise fun first second => first.1 < second.1 ∨ first.1 = second.1 ∧
        offsetAt source first.2.position < offsetAt source second.2.position
  increasing : Untangled source → declarations.exports.Pairwise fun first second =>
    offsetAt source first.position < offsetAt source second.position

theorem standsIn_of_exports (isExport : .declared declaration ∈ (ofSource path source).exports) :
    declaration.StandsIn source := by
  obtain ⟨start, located⟩ := mem_exports isExport
  rcases mem_locatedExports located with ⟨other, found, -, same⟩ | ⟨place, isBlock, listed⟩
  · cases same
    exact (standsIn_of_findAliases found).1
  · obtain ⟨-, specifier, same, -⟩ := mem_exportsOf isBlock listed
    cases same

theorem readsAt_of_exports {specifier : ExportSpecifier}
    (isExport : .specifier specifier ∈ (ofSource path source).exports) :
    ReadsAt source specifier.position specifier.localName := by
  obtain ⟨start, located⟩ := mem_exports isExport
  rcases mem_locatedExports located with ⟨other, -, -, same⟩ | ⟨place, isBlock, listed⟩
  · cases same
  · obtain ⟨-, other, same, reads, -⟩ := mem_exportsOf isBlock listed
    cases same
    exact reads

/-- **What a source declares stands in it.** -/
theorem pointInto_ofSource (path : String) (source : List Char) :
    (ofSource path source).PointInto source where
  aliases name declaration isAlias := by
    obtain ⟨found, same⟩ := mem_findAliases_of_aliases isAlias
    exact ⟨same, (standsIn_of_findAliases found).1⟩
  declared _ isExport := standsIn_of_exports isExport
  imports _ _ isImport := readsAt_of_imports isImport
  named _ isExport := readsAt_of_exports isExport
  inOrder := exports_inOrder path source
  increasing := exports_increasing path

/-! ### Places of names -/

/-- The place of a name that a module gives one of its exports: an alias that it exports, or where a
name is bound that it exports. -/
inductive Resolves (declarations : Declarations) : Position → String → Prop where
  | declared {declaration : AliasDeclaration}
      (isExport : .declared declaration ∈ declarations.exports) :
      Resolves declarations declaration.position declaration.name
  | bound {entry : ExportSpecifier} {declaration : AliasDeclaration}
      (isExport : .specifier entry ∈ declarations.exports) (own : entry.module = none)
      (isAlias : declarations.aliases.lookup entry.localName = some declaration) :
      Resolves declarations declaration.position entry.localName
  | imported {entry : ExportSpecifier} {binding : ImportBinding}
      (isExport : .specifier entry ∈ declarations.exports) (own : entry.module = none)
      (noAlias : declarations.aliases.lookup entry.localName = none)
      (isImport : declarations.imports.lookup entry.localName = some binding) :
      Resolves declarations binding.position binding.imported

/-- **A name can be read at its place.** -/
theorem Resolves.readsAt (resolves : (ofSource path source).Resolves position name) :
    ReadsAt source position name := by
  have stands := pointInto_ofSource path source
  cases resolves with
  | declared isExport => exact (stands.declared _ isExport).named
  | bound _ _ isAlias =>
    obtain ⟨same, alias_⟩ := stands.aliases _ _ (mem_of_lookup isAlias)
    rw [← same]
    exact alias_.named
  | imported _ _ _ isImport => exact stands.imports _ _ (mem_of_lookup isImport)

end Declarations

/-! ### Questions of one export -/

/-- A question for a type names the place of a name in a file. -/
def FileTree.Locates (files : FileTree) : Command → Prop
  | .typeAt path line column => ∃ text name, files.read (Path.ofText path) = .ok text ∧
      (Declarations.ofSource path text.toList).Resolves ⟨line, column⟩ name
  | _ => True

section

variable (isFile : files.read (Path.ofText path) = .ok text)

include isFile

theorem typeAt_locates
    (resolves : (Declarations.ofSource path text.toList).Resolves position name) :
    (typeAt path position).AsksAtMost files.Locates 1 :=
  (Inquiry.asksAtMost_answer ⟨text, name, isFile, resolves⟩).bind fun _ =>
    (Inquiry.asksAtMost_settled _ _ 0).bind fun _ => Inquiry.asksAtMost_settled _ _ 0

theorem referent_locates {specifier : ExportSpecifier}
    (isExport : .specifier specifier ∈ (Declarations.ofSource path text.toList).exports)
    (own : specifier.module = none) (exported : String) :
    ((Declarations.ofSource path text.toList).referent specifier.localName exported).AsksAtMost
      files.Locates 1 := by
  rw [Declarations.referent, Declarations.localPosition?]
  cases isAlias : (Declarations.ofSource path text.toList).aliases.lookup specifier.localName with
  | some declaration => exact (typeAt_locates isFile (.bound isExport own isAlias)).map _
  | none =>
    cases isImport :
      (Declarations.ofSource path text.toList).imports.lookup specifier.localName with
    | some binding => exact (typeAt_locates isFile (.imported isExport own isAlias isImport)).map _
    | none => exact Inquiry.asksAtMost_settled _ _ _

end

/-- **A chain of modules asks only such questions.** -/
theorem typeByName_locates (files : FileTree) (limit hops : Nat) (chain : List (String × String))
    (path name : String) :
    (typeByName files limit hops chain path name).AsksAtMost files.Locates hops := by
  induction hops generalizing chain path name with
  | zero => exact Inquiry.asksAtMost_settled _ _ _
  | succ hops ih =>
    rw [typeByName]
    cases isFile : files.read (Path.ofText path) with
    | error error =>
      rw [FileTree.declarations, isFile]
      exact Inquiry.asksAtMost_settled _ _ _
    | ok text =>
      rw [declarations_of_read isFile, settled_ok_bind]
      split
      · exact Inquiry.asksAtMost_settled _ _ _
      · rename_i declaration found
        have asks := typeAt_locates isFile (.declared (List.mem_of_find?_eq_some found))
        exact (asks.map _).mono (by omega)
      · rename_i found
        exact (referent_locates isFile (List.mem_of_find?_eq_some found) rfl name).mono (by omega)
      · exact ((Inquiry.asksAtMost_answer trivial).bind fun target => ih _ target _).mono (by omega)

theorem exported_locates (isFile : files.read (Path.ofText path) = .ok text) (limit : Nat)
    (isExport : entry ∈ (Declarations.ofSource path text.toList).exports) :
    ((Declarations.ofSource path text.toList).exported files limit entry).AsksAtMost files.Locates
      (limit + 2) := by
  rw [Declarations.exported.eq_def]
  split
  · exact ((typeAt_locates isFile (.declared isExport)).map _).mono (by omega)
  · exact (referent_locates isFile isExport rfl _).mono (by omega)
  · exact ((Inquiry.asksAtMost_answer trivial).bind fun target =>
      typeByName_locates files limit (limit + 1) [] target _).mono (by omega)

/-- **An export asks only for the types of names at their places**, through any chain of modules. -/
theorem finding_locates (isFile : files.read (Path.ofText path) = .ok text) (limit : Nat)
    (isExport : entry ∈ (Declarations.ofSource path text.toList).exports) :
    ((Declarations.ofSource path text.toList).finding files limit entry).AsksAtMost files.Locates
      (limit + 3) := by
  change (Declarations.exported files limit _ entry >>= _).AsksAtMost files.Locates (limit + 2 + 1)
  refine (exported_locates isFile limit isExport).bind fun referent => ?_
  cases referent <;> exact Inquiry.asksAtMost_settled _ _ 1

/-! ### Questions of a run -/

variable {session : Session} {kind : Command → Prop}

theorem asked_foldl_say (asked : session.Asked kind) (lines : List String) :
    (lines.foldl Session.say session).Asked kind := by
  induction lines generalizing session with
  | nil => exact asked
  | cons line rest ih => exact ih (asked.of_same (session.calls_say line))

theorem asked_recordListed (asked : session.Asked kind)
    (findings : List (Except AssemblyError Finding)) (registry : Registry) :
    (recordListed findings registry session).2.Asked kind := by
  induction findings generalizing registry session with
  | nil => exact asked
  | cons result rest ih =>
    cases result with
    | error error => exact asked
    | ok finding =>
      rw [recordListed]
      split
      · exact asked_foldl_say asked _
      · exact ih (asked_foldl_say asked _) _

/-- What a run asks before it looks at any export is asked once. -/
theorem asked_route (tool : Tool) (settings : Settings) (path : String)
    (single : ∀ command, command.isRetried = false → kind command) :
    (route tool settings path).session.Asked kind := by
  have fresh : (({} : Session).say s!"Processing {path}...").Asked kind := nofun
  have waited : (waitForServer tool settings path 0
      (({} : Session).say s!"Processing {path}...")).2.2.Asked kind :=
    asked_foldl_say (fresh.ask (single .status rfl) rfl tool settings.policy 0) _
  rw [route]
  split
  · rename_i came
    rw [came] at waited
    exact waited
  · rename_i ready _ _ came
    rw [came] at waited
    have versioned := waited.ask (single .version rfl) rfl tool settings.policy ready
    split
    · rename_i came
      rw [came] at versioned
      exact versioned
    · rename_i now _ _ came
      rw [came] at versioned
      split
      · exact versioned
      · exact versioned
      · have listed := versioned.ask (single (.flowFiles path) rfl) rfl tool settings.policy now
        split
        · rename_i came
          rw [came] at listed
          exact listed
        · rename_i came
          rw [came] at listed
          exact listed

/-- **A run asks for types only at the places of names**, besides what it asks once. -/
theorem asked_assemble (tool : Tool) (settings : Settings) (files : FileTree) (entry : Path) :
    (assemble tool settings files entry).2.Asked files.Locates := by
  have asked := @asked_route files.Locates tool settings entry.text fun command isSingle => by
    cases command with
    | typeAt => cases isSingle
    | _ => trivial
  rw [assemble_eq]
  dsimp only
  cases same : route tool settings entry.text with
  | failed error session =>
    rw [same] at asked
    exact asked
  | positions now session =>
    rw [same] at asked
    rw [Route.registry, registryByPosition]
    split
    · exact asked
    · rename_i text isFile
      refine Pool.run_holds (Desk.keeps_ofTool tool settings.policy files.Locates) _ now
        (fun job isJob => ?_) asked
      obtain ⟨entry, isExport, rfl⟩ := List.mem_map.mp isJob
      exact finding_locates isFile _ isExport
  | listing text session =>
    rw [same] at asked
    exact asked_recordListed asked _ _

/-- **Positions point at names.** What is declared in a source stands where its line and column say,
and its exports are in order; every question for a type in a run on a module points at the name of
an export in the text of the file that it is about. -/
theorem positions_point_at_names (tool : Tool) (settings : Settings) (files : FileTree)
    (entry : Path) :
    (∀ path source, (Declarations.ofSource path source).PointInto source) ∧
      ∀ args ∈ (assemble tool settings files entry).2.calls, args.head? = some "type-at-pos" →
        ∃ path position text name,
          args = (Command.typeAt path position.line position.column).args ∧
            files.read (Path.ofText path) = .ok text ∧
              (Declarations.ofSource path text.toList).Resolves position name ∧
                ReadsAt text.toList position name := by
  refine ⟨Declarations.pointInto_ofSource, fun args isCall isQuery => ?_⟩
  obtain ⟨command, locates, rfl⟩ := asked_assemble tool settings files entry args isCall
  cases command with
  | typeAt path line column =>
    obtain ⟨text, name, isFile, resolves⟩ := locates
    exact ⟨path, ⟨line, column⟩, text, name, rfl, isFile, resolves, resolves.readsAt⟩
  | status => exact absurd isQuery (by decide)
  | version => exact absurd isQuery (by decide)
  | findModule module path => exact absurd isQuery (by simp [Command.args])
  | flowFiles path => exact absurd isQuery (by simp [Command.args])

/-- A source that exports what it imports under another name. -/
def renamingSource : String := "import type \x7bA as B\x7d from './a';\nexport type \x7bB\x7d;\n"

/-- A run on the source asks for a type where the imported name stands. -/
theorem asked_renamingSource : (Command.typeAt "e.js" 1 14).args ∈
    (assemble (.steady (fun _ => 0) twoAliases) { callTimeout := none }
      (.ofFiles [("e.js", renamingSource)]) (.ofText "e.js")).2.calls := by
  have path : (Path.ofText "e.js").text = "e.js" := by decide +kernel
  have isFile : (FileTree.ofFiles [("e.js", renamingSource)]).read (Path.ofText "e.js") =
      .ok renamingSource := by decide +kernel
  have located : locatedExports renamingSource.toList =
      [(33, .specifier ⟨"B", "B", none, ⟨2, 14⟩⟩)] := by decide +kernel
  have exports := exports_ofSource "e.js" located (List.pairwise_singleton _ _)
  -- The exports are sorted, which the kernel does not compute: the pool is given the only one.
  have asked : (Command.typeAt "e.js" 1 14).args ∈
      match route (.steady (fun _ => 0) twoAliases) { callTimeout := none } "e.js" with
      | .positions now session =>
        (Pool.run (.ofTool (.steady (fun _ => 0) twoAliases)
          (Settings.policy { callTimeout := none })) 3 8
          [(Declarations.ofSource "e.js" renamingSource.toList).finding
            (.ofFiles [("e.js", renamingSource)]) 5 (.specifier ⟨"B", "B", none, ⟨2, 14⟩⟩)]
              now session).2.calls
      | _ => [] := by decide +kernel
  rw [assemble_eq, path]
  cases way : route (.steady (fun _ => 0) twoAliases) { callTimeout := none } "e.js" with
  | positions now session =>
    rw [way] at asked
    rw [Route.registry, registryByPosition, isFile]
    dsimp only
    rw [exports]
    exact asked
  | failed | listing =>
    rw [way] at asked
    cases asked

/-- The type of a renamed import is asked for at a name that stands there. -/
theorem positions_point_at_names_renamingSource :
    (Command.typeAt "e.js" 1 14).args ∈
      (assemble (.steady (fun _ => 0) twoAliases) { callTimeout := none }
        (.ofFiles [("e.js", renamingSource)]) (.ofText "e.js")).2.calls ∧
    (Command.typeAt "e.js" 1 14).args.head? = some "type-at-pos" ∧
    ∃ path position text name, (Command.typeAt "e.js" 1 14).args =
        (Command.typeAt path position.line position.column).args ∧
      (FileTree.ofFiles [("e.js", renamingSource)]).read (Path.ofText path) = .ok text ∧
        (Declarations.ofSource path text.toList).Resolves position name ∧
          ReadsAt text.toList position name :=
  ⟨asked_renamingSource, by decide,
    (positions_point_at_names _ _ _ _).2 _ asked_renamingSource (by decide)⟩

/-- A source with an alias inside an export of names. -/
def tangledSource : String := "export type \x7bA,\nexport type B = string\n, C\x7d;\n"

/-- **Exports need not be in the order of their places**: here the alias comes after the names
between the braces, the last of which stands behind it. -/
theorem exports_tangledSource :
    ¬(Declarations.ofSource "x.js" tangledSource.toList).exports.Pairwise fun first second =>
      offsetAt tangledSource.toList first.position ≤
        offsetAt tangledSource.toList second.position := by
  intro increasing
  obtain ⟨located, perm, same, inOrder⟩ := exports_inOrder "x.js" tangledSource.toList
  rw [← same, List.pairwise_map] at increasing
  -- The last name between the braces belongs to the first statement, but stands behind the alias.
  have last : (0, .specifier ⟨"C", "C", none, ⟨3, 3⟩⟩) ∈ located :=
    perm.mem_iff.mpr (by decide +kernel)
  have inside : (16, .declared ⟨"B", true, ⟨2, 13⟩, 16, 38, 32, 38⟩) ∈ located :=
    perm.mem_iff.mpr (by decide +kernel)
  rcases rel_or_rel_of_pairwise (inOrder.and increasing) last inside (by decide) with
    ⟨-, less⟩ | ⟨less, -⟩
  · revert less
    decide +kernel
  · revert less
    decide

end TypeSchema
