/-
**No export is dropped without a trace, with two exceptions.**

* `Route.considered`: of a listing, only the aliases among the exports are looked at;
* `findings_of_assemble`: **a run that ends well has one finding for each export that it looks at**;
  the entries and the reports of skipped exports are these findings;
* `exports_accounted`: the same by name. **Each export has an entry, or is reported as skipped under
  its name**, exactly once, except for the names in braces of a listing and for exports that are
  followed to a module where they have another name and are not bound;
* `listed_name_dropped`: **a name in braces of a listing is dropped**, and nothing reports it.
-/

import TypeSchema.Proofs.Assembly.Resolution
import TypeSchema.Proofs.Assembly.Route
import TypeSchema.Proofs.Assembly.Outcome
import TypeSchema.Proofs.Result
import TypeSchema.Proofs.Source.Order

namespace TypeSchema

variable {tool : Tool} {settings : Settings} {files : FileTree} {entry : Path} {path : String}
  {declarations : Declarations} {finding : Finding} {registry : Registry}
  {start session : Session} {may : Command → Except RunError String → Prop}

/-! ### What is looked at -/

/-- Whether an export is an alias. -/
def Export.isDeclared : Export → Bool
  | declared _ => true
  | specifier _ => false

namespace Route

/-- The declarations of the module of a run. -/
def declarations? (files : FileTree) (path : String) : Route → Option Declarations
  | failed _ _ => none
  | positions _ _ => (files.read (Path.ofText path)).toOption.map fun text =>
      Declarations.ofSource path text.toList
  | listing text _ => some (Declarations.ofSource path text.toList)

/-- The exports that a run looks at. -/
def considered (exports : List Export) : Route → List Export
  | listing _ _ => exports.filter Export.isDeclared
  | _ => exports

/-- Whether an export is looked at, and leads to no other name. -/
def Keeps (may : Command → Except RunError String → Prop) (files : FileTree) (path : String)
    (entry : Export) : Route → Prop
  | listing _ _ => entry.isDeclared = true
  | _ => ∀ last, entry.LeadsTo may files path last → last = entry.name

end Route

/-! ### Findings -/

theorem eq_of_listedFinding {declaration : AliasDeclaration}
    (found : declarations.listedFinding declaration = .ok finding) :
    finding.name = declaration.name := by
  simp only [Declarations.listedFinding] at found
  cases read : TypeNode.ofText (declarations.rightSide declaration) (some declarations.path)
      (positionAt declarations.source declaration.sideStart) with
  | error error =>
    rw [read] at found
    cases found
  | ok type =>
    rw [read] at found
    exact eq_of_finding found

/-- The aliases among exports. -/
theorem filter_isDeclared (declarations : Declarations) :
    declarations.exports.filter Export.isDeclared =
      declarations.exportedAliases.map .declared := by
  rw [Declarations.exportedAliases, List.map_filterMap]
  induction declarations.exports with
  | nil => rfl
  | cons entry rest ih =>
    cases entry <;> simp [List.filter_cons, Export.isDeclared, ih]

/-- What a run comes to that makes findings for exports. -/
structure Accounted (may : Command → Except RunError String → Prop) (files : FileTree)
    (path : String) (exports : List Export) (start : Session) (registry : Registry)
    (session : Session) (findings : List Finding) : Prop where
  accounts : List.Forall₂ (Accounts may files path) exports findings
  entries : registry.added.Perm (findings.filterMap Finding.added?)
  distinct : registry.taken.Nodup
  lines : session.skips.Perm (start.skips ++ findings.filterMap Finding.line?)

theorem accounted_of_positions {now : Instant} (positive : 1 ≤ settings.concurrency)
    (ends : registryByPosition tool settings files path now start = (.ok registry, session)) :
    ∃ text findings, files.read (Path.ofText path) = .ok text ∧
      Accounted (Desk.ofTool tool settings.policy).MayAnswer files path
        (Declarations.ofSource path text.toList).exports start registry session findings := by
  rw [registryByPosition] at ends
  split at ends
  · cases ends
  · rename_i text read
    obtain ⟨findings, aligned, entries, distinct, said, perm, lines⟩ :=
      Pool.run_ok (prints_ofTool tool settings.policy) positive ends
    rw [List.forall₂_map_left_iff] at aligned
    refine ⟨text, findings, read, aligned.imp fun _ _ => finding_accounts, entries, distinct, ?_⟩
    rw [lines]
    exact perm.append_left _

theorem accounted_of_listing (may : Command → Except RunError String → Prop) {text : String}
    (ends : registryOfListing path text start = (.ok registry, session)) :
    ∃ findings, Accounted may files path
      ((Declarations.ofSource path text.toList).exports.filter Export.isDeclared) start registry
        session findings := by
  obtain ⟨findings, found, entries, distinct, lines⟩ := recordListed_ok ends
  refine ⟨findings, ?_, .of_eq (by simpa [Registry.empty] using entries),
    distinct List.nodup_nil, .of_eq lines⟩
  rw [Pool.map_eq_map_iff_forall₂] at found
  rw [filter_isDeclared, List.forall₂_map_left_iff]
  exact found.imp fun _ _ found => .inl (eq_of_listedFinding found)

/-- **A run that ends well** has one finding for each export that it looks at. -/
theorem findings_of_assemble (positive : 1 ≤ settings.concurrency)
    (ends : assemble tool settings files entry = (.ok registry, session)) :
    ∃ declarations findings,
      (route tool settings entry.text).declarations? files entry.text = some declarations ∧
        Accounted (Desk.ofTool tool settings.policy).MayAnswer files entry.text
          ((route tool settings entry.text).considered declarations.exports)
          (route tool settings entry.text).session registry session findings := by
  rw [assemble_eq] at ends
  generalize route tool settings entry.text = way at ends
  obtain ⟨came, rfl⟩ := Prod.ext_iff.mp ends
  dsimp only at came
  cases found : (way.registry tool settings files entry.text).1 with
  | error error =>
    rw [found] at came
    cases came
  | ok other =>
    rw [found] at came
    obtain ⟨-, rfl⟩ := nonempty_eq_ok_iff.mp came
    cases way with
    | failed => cases found
    | positions now start =>
      obtain ⟨text, findings, read, accounted⟩ :=
        accounted_of_positions positive (Prod.ext found rfl)
      exact ⟨_, findings, by simp [Route.declarations?, read, Except.toOption], accounted⟩
    | listing text start =>
      obtain ⟨findings, accounted⟩ := accounted_of_listing _ (Prod.ext found rfl)
      exact ⟨_, findings, rfl, accounted⟩

/-! ### Names -/

/-- A report of a skipped export: its name, and the reason. -/
def Finding.report? : Finding → Option (String × String)
  | .entry _ => none
  | .skipped name reason => some (name, reason)

theorem lines_eq_reports (findings : List Finding) : findings.filterMap Finding.line? =
    (findings.filterMap Finding.report?).map fun report => skipLine report.1 report.2 := by
  rw [List.map_filterMap]
  exact List.filterMap_congr fun finding _ => by cases finding <;> rfl

/-- Each finding is an entry or is reported. -/
theorem names_perm (findings : List Finding) :
    ((findings.filterMap Finding.added?).map TypeEntry.name ++
      (findings.filterMap Finding.report?).map Prod.fst).Perm (findings.map Finding.name) := by
  induction findings with
  | nil => rfl
  | cons finding rest ih =>
    cases finding with
    | entry found => exact ih.cons _
    | skipped name reason => exact List.perm_middle.trans (ih.cons _)

/-- Entries have names of exports. -/
theorem name_mem_of_accounts {exports : List Export} {findings : List Finding} {name : String}
    (accounts : List.Forall₂ (Accounts may files path) exports findings)
    (member : name ∈ (findings.filterMap Finding.added?).map TypeEntry.name) :
    name ∈ exports.map Export.name := by
  induction accounts with
  | nil => cases member
  | @cons entry finding exports findings accounts _ ih =>
    cases finding with
    | skipped => exact List.mem_cons_of_mem _ (ih member)
    | entry found =>
      rcases List.mem_cons.mp member with rfl | later
      · obtain same | ⟨_, _, impossible⟩ := accounts
        · exact List.mem_cons.mpr (.inl same)
        · cases impossible
      · exact List.mem_cons_of_mem _ (ih later)

theorem considered_sublist (way : Route) (exports : List Export) :
    (way.considered exports).Sublist exports := by
  cases way with
  | listing => exact List.filter_sublist
  | _ => exact .refl _

theorem name_of_keeps {way : Route} {exported : Export} (keeps : way.Keeps may files path exported)
    (accounts : Accounts may files path exported finding) : exported.name = finding.name := by
  obtain same | ⟨last, leads, rfl⟩ := accounts
  · exact same.symm
  · cases way with
    | listing =>
      obtain ⟨_, _, _, _, _, rfl, _⟩ := leads
      cases keeps
    | _ => exact (keeps last leads).symm

/-- Where every export keeps its name, the findings have the names of the exports. -/
theorem names_of_keeps {way : Route} {exports : List Export} {findings : List Finding}
    (accounts : List.Forall₂ (Accounts may files path) (way.considered exports) findings)
    (keeps : ∀ exported ∈ exports, way.Keeps may files path exported) :
    exports.map Export.name = findings.map Finding.name := by
  have all : way.considered exports = exports := by
    cases way with
    | listing => exact List.filter_eq_self.mpr keeps
    | _ => rfl
  rw [all] at accounts
  rw [Pool.map_eq_map_iff_forall₂]
  exact ((List.forall₂_and_left _ _).mpr ⟨keeps, accounts⟩).imp fun _ _ ⟨keeps, accounts⟩ =>
    name_of_keeps keeps accounts

/-! ### A listing -/

/-- A listing with an alias and a name in braces. -/
def ghostListing : String := "export type Real = string;\nexport type \x7bghost\x7d;\n"

/-- What an older type checker prints that gives this listing. -/
def ghostLister : List String → List UInt8
  | "version" :: _ => "\x7b\"semver\": \"0.88.0\"\x7d".toUTF8.toList
  | "gen-flow-files" :: _ => ghostListing.toUTF8.toList
  | _ => []

/-- The alias of the listing. -/
def ghostAlias : AliasDeclaration := ⟨"Real", true, ⟨1, 13⟩, 0, 26, 19, 25⟩

theorem exports_ghostListing (path : String) :
    (Declarations.ofSource path ghostListing.toList).exports =
      [.declared ghostAlias, .specifier ⟨"ghost", "ghost", none, ⟨2, 14⟩⟩] := by
  have located : locatedExports ghostListing.toList = [(0, .declared ghostAlias),
      (27, .specifier ⟨"ghost", "ghost", none, ⟨2, 14⟩⟩)] := by
    rw [ghostListing, String.toList_ofList]
    decide +kernel
  exact exports_ofSource path located (by simp)

theorem listedFinding_ghostAlias : ∃ found,
    (Declarations.ofSource "e.js" ghostListing.toList).listedFinding ghostAlias =
      .ok (.entry found) ∧ found.name = "Real" := by
  have known : (((Declarations.ofSource "e.js" ghostListing.toList).listedFinding
      ghostAlias).toOption.bind Finding.added?).map TypeEntry.name = some "Real" := by
    rw [ghostListing, String.toList_ofList]
    decide +kernel
  obtain ⟨found, isEntry, named⟩ := Option.map_eq_some_iff.mp known
  obtain ⟨finding, isFinding, isEntry⟩ := Option.bind_eq_some_iff.mp isEntry
  cases finding with
  | entry other =>
    cases isEntry
    exact ⟨found, eq_ok_of_toOption isFinding, named⟩
  | skipped => cases isEntry

/-- The listing is taken down: the alias has an entry, and nothing is reported. -/
theorem assemble_ghostLister : ∃ registry session,
    assemble (.steady (fun _ => 0) ghostLister) { callTimeout := none } ⟨[]⟩ (.ofText "e.js") =
      (.ok registry, session) ∧ registry.taken = ["Real"] ∧ session.skips = [] := by
  have path : (Path.ofText "e.js").text = "e.js" := by decide +kernel
  have knows : (Tool.steady (fun _ => 0) ghostLister).Knows
      (Settings.policy { callTimeout := none }) _ := knows_steady _ _ (by decide) rfl
  have kind : routeKind (fun command => command.answer (printedText (ghostLister command.args)))
      { callTimeout := none } (Path.ofText "e.js").text = .ok (some ghostListing) :=
    eq_ok_of_toOption (by decide +kernel)
  obtain ⟨start, way, came⟩ := assemble_of_listing knows ⟨[]⟩ _ kind
  have unsaid : (Route.listing ghostListing start).session.skips = [] :=
    way ▸ skips_route_of_not _ _ (by decide +kernel)
  obtain ⟨found, isFound, named⟩ := listedFinding_ghostAlias
  have aliases : (Declarations.ofSource "e.js" ghostListing.toList).exportedAliases =
      [ghostAlias] := by
    simp [Declarations.exportedAliases, exports_ghostListing]
  rw [came, path, registryOfListing]
  simp only [aliases, List.map_singleton, isFound]
  exact ⟨⟨[found]⟩, start, rfl, by simp [Registry.taken, named], unsaid⟩

/-! ### Exports -/

/-- **Each export is accounted for exactly once.** A run that ends well has one finding for each
export that it looks at. The entries are distinct by name and come from exports; apart from the
notice, the lines that report skipped exports are those of the other findings. If the run looks at
every export and none of them leads to another name, then the names of the entries and of the
reports are the names of the exports. -/
theorem exports_accounted (positive : 1 ≤ settings.concurrency)
    (ends : assemble tool settings files entry = (.ok registry, session)) :
    ∃ declarations findings notices,
      (route tool settings entry.text).declarations? files entry.text = some declarations ∧
      List.Forall₂ (Accounts (Desk.ofTool tool settings.policy).MayAnswer files entry.text)
        ((route tool settings entry.text).considered declarations.exports) findings ∧
      registry.added.Perm (findings.filterMap Finding.added?) ∧ registry.taken.Nodup ∧
      (∀ name ∈ registry.taken, name ∈ declarations.exports.map Export.name) ∧
      notices.Sublist [noticeLine entry.text] ∧
      session.skips.Perm (notices ++
        (findings.filterMap Finding.report?).map fun report => skipLine report.1 report.2) ∧
      ((∀ exported ∈ declarations.exports, (route tool settings entry.text).Keeps
          (Desk.ofTool tool settings.policy).MayAnswer files entry.text exported) →
        (registry.taken ++ (findings.filterMap Finding.report?).map Prod.fst).Perm
          (declarations.exports.map Export.name)) := by
  obtain ⟨declarations, findings, scanned, accounts, entries, distinct, lines⟩ :=
    findings_of_assemble positive ends
  have taken := entries.map TypeEntry.name
  refine ⟨declarations, findings, _, scanned, accounts, entries, distinct, fun name member => ?_,
    skips_route tool settings entry.text, lines_eq_reports findings ▸ lines, fun keeps => ?_⟩
  · have member := name_mem_of_accounts accounts (taken.mem_iff.mp member)
    exact ((considered_sublist _ _).map Export.name).mem member
  · rw [names_of_keeps accounts keeps]
    exact (taken.append_right _).trans (names_perm findings)

/-- A listing whose alias has an entry. -/
theorem exports_accounted_ghostLister : ∃ registry session,
    assemble (.steady (fun _ => 0) ghostLister) { callTimeout := none } ⟨[]⟩ (.ofText "e.js") =
      (.ok registry, session) ∧
    ∃ (declarations : Declarations) (findings : List Finding) (notices : List String),
      (route (.steady (fun _ => 0) ghostLister) { callTimeout := none }
        (Path.ofText "e.js").text).declarations? ⟨[]⟩ (Path.ofText "e.js").text =
          some declarations ∧
      registry.added.Perm (findings.filterMap Finding.added?) ∧ registry.taken.Nodup ∧
      (∀ name ∈ registry.taken, name ∈ declarations.exports.map Export.name) ∧
      session.skips.Perm (notices ++
        (findings.filterMap Finding.report?).map fun report => skipLine report.1 report.2) := by
  obtain ⟨registry, session, ends, -⟩ := assemble_ghostLister
  obtain ⟨declarations, findings, notices, scanned, -, entries, distinct, names, -, lines, -⟩ :=
    exports_accounted (by decide) ends
  exact ⟨registry, session, ends, declarations, findings, notices, scanned, entries, distinct,
    names, lines⟩

/-- **A listed name is dropped.** A run ends well with a registry that has no entry for an exported
name, and reports nothing. -/
theorem listed_name_dropped : ∃ registry session,
    assemble (.steady (fun _ => 0) ghostLister) { callTimeout := none } ⟨[]⟩ (.ofText "e.js") =
      (.ok registry, session) ∧
    "ghost" ∈ (Declarations.ofSource "e.js" ghostListing.toList).exports.map Export.name ∧
    "ghost" ∉ registry.taken ∧ session.skips = [] := by
  obtain ⟨registry, session, came, taken, unsaid⟩ := assemble_ghostLister
  refine ⟨registry, session, came, ?_, ?_, unsaid⟩
  · simp [exports_ghostListing, Export.name]
  · simp [taken]

end TypeSchema
