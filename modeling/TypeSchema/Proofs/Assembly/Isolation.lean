/-
**Types fail one by one.**

* `TypedExport`: an export whose type is known, with what becomes of it: an entry, a report, or a
  misuse of a name that takes arguments;
* `Exposes`: every export of a module resolves to a type, and the type checker's answers say to
  which;
* `Reflects`, `reflects_of_exposes`: **a registry reflects its exports**: it has the entries of
  those that have a schema, the others are reported, and only a misuse makes it fail;
* `type_failures_isolated`: **so no type takes the others down**, but for a misuse, and one that has
  no schema can be left out without changing the entries of the others;
* `misuse_ends_run`: a misuse does end a run in which another type has a schema.
-/

import TypeSchema.Proofs.Assembly.Accounting
import TypeSchema.Proofs.Assembly.Settling

namespace TypeSchema

/-- An exported type: its name, the statement that is kept for it, and what it resolves to. -/
structure TypedExport where
  name : String
  snippet : String
  resolved : ResolvedType

namespace TypedExport

/-- What an exported type comes to. -/
def finding (typed : TypedExport) : Except AssemblyError Finding :=
  typed.resolved.finding typed.name typed.snippet

/-- The entry of a type that has a schema. -/
def added? (typed : TypedExport) : Option TypeEntry :=
  match typed.resolved.type.schema with
  | .ok schema => some ⟨typed.name, typed.resolved.path, typed.snippet, schema⟩
  | .error _ => none

/-- The defect of a type that is wrongly built. -/
def misuse? (typed : TypedExport) : Option Defect :=
  match typed.resolved.type.schema with
  | .ok _ => none
  | .error defect => if defect.isMisuse then some defect else none

/-- The line that reports a type that no schema can describe. -/
def report? (typed : TypedExport) : Option String :=
  match typed.resolved.type.schema with
  | .ok _ => none
  | .error defect => if defect.isMisuse then none else some (skipLine typed.name defect.message)

variable {typed : TypedExport} {error : AssemblyError} {found : Finding}

theorem finding_eq_error (failed : typed.finding = .error error) :
    ∃ defect, typed.misuse? = some defect ∧ error = .misuse defect := by
  rw [finding, ResolvedType.finding] at failed
  rw [misuse?]
  cases built : typed.resolved.type.schema with
  | ok schema =>
    rw [built] at failed
    cases failed
  | error defect =>
    rw [built] at failed
    by_cases isMisuse : defect.isMisuse
    · simp only [if_pos isMisuse] at failed ⊢
      cases failed
      exact ⟨defect, rfl, rfl⟩
    · simp only [if_neg isMisuse] at failed
      cases failed

theorem finding_eq_ok (comes : typed.finding = .ok found) :
    typed.misuse? = none ∧ found.added? = typed.added? ∧ found.line? = typed.report? := by
  rw [finding, ResolvedType.finding] at comes
  rw [misuse?, added?, report?]
  cases built : typed.resolved.type.schema with
  | ok schema =>
    rw [built] at comes
    cases comes
    exact ⟨rfl, rfl, rfl⟩
  | error defect =>
    rw [built] at comes
    by_cases isMisuse : defect.isMisuse
    · simp only [if_pos isMisuse] at comes
      cases comes
    · simp only [if_neg isMisuse] at comes ⊢
      cases comes
      exact ⟨trivial, rfl, rfl⟩

theorem added?_name {entry : TypeEntry} (isEntry : typed.added? = some entry) :
    entry.name = typed.name := by
  rw [added?] at isEntry
  split at isEntry
  · cases isEntry
    rfl
  · cases isEntry

end TypedExport

/-- An alias of a listing as an exported type. -/
def Declarations.listedType (declarations : Declarations) (declaration : AliasDeclaration) :
    Except AssemblyError TypedExport := do
  let source := declarations.rightSide declaration
  let type ← (TypeNode.ofText source (some declarations.path)
    (positionAt declarations.source declaration.sideStart)).mapError .text
  let statement := String.ofList (declarations.statement declaration)
  return ⟨declaration.name,
    if statement.isEmpty then exportStatement declaration.name (String.ofList source) else statement,
    ⟨declarations.path, String.ofList source, type⟩⟩

/-- Every export of a module resolves to a type: by its position, or as a listed alias. -/
inductive Exposes (answers : Command → Except RunError String) (settings : Settings)
    (files : FileTree) (path : String) (exports : List TypedExport) : Prop where
  | positions {text : String} (kind : routeKind answers settings path = .ok none)
      (read : files.read (Path.ofText path) = .ok text)
      (types : List.Forall₂ (fun entry typed =>
        ((Declarations.ofSource path text.toList).exported files settings.maxReexportDepth
            entry).settle answers = .ok (.type typed.resolved) ∧ typed.name = entry.name ∧
          typed.snippet = exportStatement entry.name typed.resolved.source)
        (Declarations.ofSource path text.toList).exports exports)
  | listing {text : String} (kind : routeKind answers settings path = .ok (some text))
      (aliases : ∀ entry ∈ (Declarations.ofSource path text.toList).exports,
        entry.isDeclared = true)
      (types : List.Forall₂ (fun declaration typed =>
        (Declarations.ofSource path text.toList).listedType declaration = .ok typed)
        (Declarations.ofSource path text.toList).exportedAliases exports)

/-- What comes of exports whose types are known: the entries and reports, or a misuse. -/
structure Reflects (exports : List TypedExport) (start : Session)
    (result : Except AssemblyError Registry) (session : Session) : Prop where
  failed : ∀ error, result = .error error → ∃ typed ∈ exports, typed.finding = .error error
  found : ∀ registry, result = .ok registry → (∀ typed ∈ exports, typed.misuse? = none) ∧
    registry.added.Perm (exports.filterMap TypedExport.added?) ∧
    session.skips.Perm (start.skips ++ exports.filterMap TypedExport.report?)

variable {tool : Tool} {settings : Settings} {files : FileTree} {entry : Path} {path : String}
  {answers : Command → Except RunError String} {exports : List TypedExport}
  {start session : Session} {registry : Registry}

/-- What findings say about the exports that they are made for. -/
theorem filterMap_of_findings {findings : List Finding}
    (comes : List.Forall₂ (fun typed found => TypedExport.finding typed = .ok found) exports
      findings) :
    (∀ typed ∈ exports, typed.misuse? = none) ∧
      findings.filterMap Finding.added? = exports.filterMap TypedExport.added? ∧
      findings.filterMap Finding.line? = exports.filterMap TypedExport.report? := by
  induction comes with
  | nil => simp
  | cons comes _ ih =>
    obtain ⟨built, sameEntry, sameLine⟩ := TypedExport.finding_eq_ok comes
    obtain ⟨others, entries, lines⟩ := ih
    refine ⟨List.forall_mem_cons.mpr ⟨built, others⟩, ?_, ?_⟩
    · rw [List.filterMap_cons, List.filterMap_cons, sameEntry, entries]
    · rw [List.filterMap_cons, List.filterMap_cons, sameLine, lines]

/-! ### Exports that are looked up -/

/-- The inquiry for an export that resolves settles to what becomes of its type. -/
theorem settle_finding {declarations : Declarations} {exported : Export} {typed : TypedExport}
    {limit : Nat}
    (resolves : (declarations.exported files limit exported).settle answers =
      .ok (.type typed.resolved))
    (name : typed.name = exported.name)
    (snippet : typed.snippet = exportStatement exported.name typed.resolved.source) :
    (declarations.finding files limit exported).settle answers = typed.finding := by
  rw [Declarations.finding, Inquiry.settle_bind, resolves, TypedExport.finding, name, snippet]
  rfl

theorem reflects_of_positions (knows : tool.Knows settings.policy answers)
    (positive : 1 ≤ settings.concurrency) {text : String} (now : Instant) (start : Session)
    (read : files.read (Path.ofText path) = .ok text)
    (types : List.Forall₂ (fun entry typed =>
      ((Declarations.ofSource path text.toList).exported files settings.maxReexportDepth
          entry).settle answers = .ok (.type typed.resolved) ∧ typed.name = entry.name ∧
        typed.snippet = exportStatement entry.name typed.resolved.source)
      (Declarations.ofSource path text.toList).exports exports)
    (distinct : (exports.map TypedExport.name).Nodup) :
    Reflects exports start (registryByPosition tool settings files path now start).1
      (registryByPosition tool settings files path now start).2 := by
  have asks : ∀ job ∈ (Declarations.ofSource path text.toList).exports.map
      ((Declarations.ofSource path text.toList).finding files settings.maxReexportDepth),
      job.AsksAtMost Retried (settings.maxReexportDepth + 3) := by
    intro job member
    obtain ⟨entry, -, rfl⟩ := List.mem_map.mp member
    exact finding_asks _ _ _ _
  have settled : ((Declarations.ofSource path text.toList).exports.map
      ((Declarations.ofSource path text.toList).finding files settings.maxReexportDepth)).map
        (Inquiry.settle answers) = exports.map TypedExport.finding := by
    rw [Pool.map_eq_map_iff_forall₂, List.forall₂_map_left_iff]
    exact types.imp fun entry typed ⟨resolves, name, snippet⟩ =>
      settle_finding resolves name snippet
  simp only [registryByPosition, read]
  generalize (Declarations.ofSource path text.toList).exports.map
      ((Declarations.ofSource path text.toList).finding files settings.maxReexportDepth) = jobs
      at asks settled
  constructor
  · intro error failed
    have named : List.Forall₂ (fun (job : Inquiry Finding) label => ∀ found,
        job.settle answers = .ok (.entry found) → label = some found.name) jobs
        (exports.map fun typed => some typed.name) := by
      rw [List.forall₂_map_right_iff]
      refine (Pool.map_eq_map_iff_forall₂.mp settled).imp fun job typed settled found comes => ?_
      have isEntry := (TypedExport.finding_eq_ok (settled.symm.trans comes)).2.1
      rw [TypedExport.added?_name isEntry.symm]
    have labels : (exports.map fun typed => some typed.name).filterMap id =
        exports.map TypedExport.name := by
      rw [List.filterMap_map]
      exact congrFun List.filterMap_eq_map exports
    obtain ⟨job, member, fails⟩ := Pool.run_error_settles asks knows.only knows.prompt
      (prints_ofTool tool settings.policy) named (labels ▸ distinct) (Prod.ext failed rfl)
    have isFinding : job.settle answers ∈ exports.map TypedExport.finding :=
      settled ▸ List.mem_map_of_mem member
    obtain ⟨typed, isTyped, same⟩ := List.mem_map.mp isFinding
    exact ⟨typed, isTyped, same.trans fails⟩
  · intro registry ends
    obtain ⟨findings, found, entries, -, said, perm, lines⟩ := Pool.run_ok_settles asks knows.only
      (prints_ofTool tool settings.policy) positive (Prod.ext ends rfl)
    have comes : List.Forall₂ (fun typed found => TypedExport.finding typed = .ok found) exports
        findings := by
      rw [← Pool.map_eq_map_iff_forall₂, ← settled, Pool.map_eq_map_iff_forall₂]
      exact found
    obtain ⟨built, sameEntries, sameLines⟩ := filterMap_of_findings comes
    rw [sameEntries] at entries
    rw [sameLines] at perm
    refine ⟨built, entries, ?_⟩
    rw [lines]
    exact perm.append_left _

/-! ### Exports that are listed -/

theorem listedFinding_eq {declarations : Declarations} {declaration : AliasDeclaration}
    {typed : TypedExport} (listed : declarations.listedType declaration = .ok typed) :
    declarations.listedFinding declaration = typed.finding := by
  simp only [Declarations.listedType] at listed
  simp only [Declarations.listedFinding]
  cases read : TypeNode.ofText (declarations.rightSide declaration) (some declarations.path)
      (positionAt declarations.source declaration.sideStart) with
  | error error =>
    rw [read] at listed
    cases listed
  | ok type =>
    rw [read] at listed
    cases listed
    rfl

/-- A listing of distinct names fails only with the failure of one of them. -/
theorem recordListed_error {error : AssemblyError}
    (distinct : (registry.taken ++ exports.map TypedExport.name).Nodup)
    (failed : (recordListed (exports.map TypedExport.finding) registry start).1 = .error error) :
    ∃ typed ∈ exports, typed.finding = .error error := by
  induction exports generalizing registry start with
  | nil => cases failed
  | cons typed rest ih =>
    rw [List.map_cons] at failed distinct
    cases comes : typed.finding with
    | error other =>
      rw [comes] at failed
      cases failed
      exact ⟨typed, List.mem_cons_self, comes⟩
    | ok finding =>
      rw [comes, recordListed] at failed
      cases recorded : registry.record finding with
      | error clash =>
        -- The name of the entry would have to be taken already.
        obtain ⟨found, rfl, taken, -⟩ := Registry.record_eq_error recorded
        have isEntry := (TypedExport.finding_eq_ok comes).2.1
        rw [Registry.contains_iff, TypedExport.added?_name isEntry.symm] at taken
        exact ((List.nodup_append.mp distinct).2.2 _ taken _ List.mem_cons_self rfl).elim
      | ok after =>
        rw [recorded] at failed
        have isEntry := (TypedExport.finding_eq_ok comes).2.1
        have fewer : (after.taken ++ rest.map TypedExport.name).Sublist
            (registry.taken ++ typed.name :: rest.map TypedExport.name) := by
          rw [Registry.taken, (Registry.record_eq_ok recorded).1, isEntry, List.map_append,
            List.append_assoc]
          refine List.Sublist.append_left ?_ _
          cases entry : typed.added? with
          | none => exact List.sublist_cons_self _ _
          | some found =>
            rw [← TypedExport.added?_name entry]
            exact .refl _
        obtain ⟨other, member, fails⟩ := ih (distinct.sublist fewer) failed
        exact ⟨other, List.mem_cons_of_mem _ member, fails⟩

theorem reflects_of_listing {text : String} (start : Session)
    (types : List.Forall₂ (fun declaration typed =>
      (Declarations.ofSource path text.toList).listedType declaration = .ok typed)
      (Declarations.ofSource path text.toList).exportedAliases exports)
    (distinct : (exports.map TypedExport.name).Nodup) :
    Reflects exports start (registryOfListing path text start).1
      (registryOfListing path text start).2 := by
  have same : (Declarations.ofSource path text.toList).exportedAliases.map
      (Declarations.ofSource path text.toList).listedFinding =
        exports.map TypedExport.finding := by
    rw [Pool.map_eq_map_iff_forall₂]
    exact types.imp fun _ _ => listedFinding_eq
  rw [registryOfListing, same]
  constructor
  · intro error failed
    exact recordListed_error (show (Registry.empty.taken ++ _).Nodup from distinct) failed
  · intro registry ends
    obtain ⟨findings, found, entries, -, lines⟩ := recordListed_ok (Prod.ext ends rfl)
    rw [Pool.map_eq_map_iff_forall₂] at found
    obtain ⟨built, sameEntries, sameLines⟩ := filterMap_of_findings found
    rw [sameEntries] at entries
    rw [sameLines] at lines
    exact ⟨built, .of_eq entries, .of_eq lines⟩

/-- **A registry reflects its exports.** -/
theorem reflects_of_exposes (knows : tool.Knows settings.policy answers)
    (positive : 1 ≤ settings.concurrency)
    (exposes : Exposes answers settings files entry.text exports)
    (distinct : (exports.map TypedExport.name).Nodup) :
    ∃ start result, start.skips.Sublist [noticeLine entry.text] ∧
      (assemble tool settings files entry).1 = result.bind (nonempty entry.text) ∧
      Reflects exports start result (assemble tool settings files entry).2 := by
  have notice := skips_route tool settings entry.text
  cases exposes with
  | positions kind read types =>
    obtain ⟨now, start, way, came⟩ := assemble_of_positions knows files entry kind
    rw [way] at notice
    rw [came]
    exact ⟨start, _, notice, rfl,
      reflects_of_positions knows positive now start read types distinct⟩
  | listing kind _ types =>
    obtain ⟨start, way, came⟩ := assemble_of_listing knows files entry kind
    rw [way] at notice
    rw [came]
    exact ⟨start, _, notice, rfl, reflects_of_listing start types distinct⟩

/-! ### Runs -/

/-- What a run comes to, by the types of its exports. -/
structure Isolates (exports : List TypedExport) (path : String)
    (result : Except AssemblyError Registry) (session : Session) : Prop where
  /-- A misuse ends the run. -/
  misused : (∃ typed ∈ exports, typed.misuse? ≠ none) →
    ∃ typed ∈ exports, ∃ defect, typed.misuse? = some defect ∧ result = .error (.misuse defect)
  /-- Otherwise the types that have a schema have entries. -/
  entries : (∀ typed ∈ exports, typed.misuse? = none) →
    exports.filterMap TypedExport.added? ≠ [] →
      ∃ registry, result = .ok registry ∧
        registry.added.Perm (exports.filterMap TypedExport.added?)
  /-- There must be one. -/
  noTypes : (∀ typed ∈ exports, typed.misuse? = none) →
    exports.filterMap TypedExport.added? = [] → result = .error (.noTypes path)
  /-- The others are reported. -/
  lines : (∀ typed ∈ exports, typed.misuse? = none) →
    ∃ notices, notices.Sublist [noticeLine path] ∧
      session.skips.Perm (notices ++ exports.filterMap TypedExport.report?)

/-- A run isolates the types of its exports. -/
theorem isolates_of_exposes (knows : tool.Knows settings.policy answers)
    (positive : 1 ≤ settings.concurrency)
    (exposes : Exposes answers settings files entry.text exports)
    (distinct : (exports.map TypedExport.name).Nodup) :
    Isolates exports entry.text (assemble tool settings files entry).1
      (assemble tool settings files entry).2 := by
  obtain ⟨start, result, notice, came, failed, found⟩ :=
    reflects_of_exposes knows positive exposes distinct
  rw [came]
  cases result with
  | error error =>
    obtain ⟨typed, member, fails⟩ := failed error rfl
    obtain ⟨defect, isMisuse, rfl⟩ := TypedExport.finding_eq_error fails
    have notBuilt : ¬ ∀ typed ∈ exports, typed.misuse? = none := by
      intro built
      rw [built typed member] at isMisuse
      cases isMisuse
    exact ⟨fun _ => ⟨typed, member, defect, isMisuse, rfl⟩, fun built => (notBuilt built).elim,
      fun built => (notBuilt built).elim, fun built => (notBuilt built).elim⟩
  | ok registry =>
    obtain ⟨built, entries, lines⟩ := found registry rfl
    refine ⟨?_, fun _ some => ?_, fun _ none => ?_, fun _ => ⟨start.skips, notice, lines⟩⟩
    · rintro ⟨typed, member, isMisuse⟩
      exact (isMisuse (built typed member)).elim
    · refine ⟨registry, nonempty_eq_ok_iff.mpr ⟨?_, rfl⟩, entries⟩
      rintro empty
      exact some (List.nil_perm.mp (empty ▸ entries))
    · rw [none] at entries
      have empty : registry.size = 0 := by rw [Registry.size, entries.eq_nil, List.length_nil]
      exact if_pos empty

section

variable {exports' : List TypedExport} {path' : String}
  {result result' : Except AssemblyError Registry} {session' : Session}

theorem Isolates.of_ok (isolates : Isolates exports path result session)
    (ended : result = .ok registry) : (∀ typed ∈ exports, typed.misuse? = none) ∧
      exports.filterMap TypedExport.added? ≠ [] ∧
        registry.added.Perm (exports.filterMap TypedExport.added?) := by
  have built (typed : TypedExport) (member : typed ∈ exports) : typed.misuse? = none := by
    by_contra isMisuse
    obtain ⟨_, _, _, _, fails⟩ := isolates.misused ⟨typed, member, isMisuse⟩
    cases ended.symm.trans fails
  have some : exports.filterMap TypedExport.added? ≠ [] := fun none => by
    cases ended.symm.trans (isolates.noTypes built none)
  obtain ⟨registry', ended', perm⟩ := isolates.entries built some
  cases ended.symm.trans ended'
  exact ⟨built, some, perm⟩

/-- Runs whose exports have the same entries find the same entries. -/
theorem Isolates.transfer (isolates : Isolates exports path result session)
    (isolates' : Isolates exports' path' result' session')
    (built : (∀ typed ∈ exports, typed.misuse? = none) → ∀ typed ∈ exports', typed.misuse? = none)
    (same : (exports.filterMap TypedExport.added?).Perm (exports'.filterMap TypedExport.added?))
    (ended : result = .ok registry) :
    ∃ registry', result' = .ok registry' ∧ registry.added.Perm registry'.added := by
  obtain ⟨allBuilt, some, perm⟩ := isolates.of_ok ended
  have some' : exports'.filterMap TypedExport.added? ≠ [] := fun none =>
    some (List.perm_nil.mp (none ▸ same))
  obtain ⟨registry', ended', perm'⟩ := isolates'.entries (built allBuilt) some'
  exact ⟨registry', ended', perm.trans (same.trans perm'.symm)⟩

end

/-! ### A listing of two aliases -/

/-- A listing of two aliases. -/
def pairListing (side : String) : String :=
  "export type A = " ++ side ++ ";\nexport type B = string;\n"

/-- What an older type checker prints that gives this listing. -/
def pairLister (side : String) : List String → List UInt8
  | "version" :: _ => "\x7b\"semver\": \"0.88.0\"\x7d".toUTF8.toList
  | "gen-flow-files" :: _ => (pairListing side).toUTF8.toList
  | _ => []

/-- The aliases of the listing, if the right side of the first one has five characters. -/
def pairFirst : AliasDeclaration := ⟨"A", true, ⟨1, 13⟩, 0, 22, 16, 21⟩

/-- The second alias of the listing. -/
def pairSecond : AliasDeclaration := ⟨"B", true, ⟨2, 13⟩, 23, 46, 39, 45⟩

/-- What a listing of two aliases exposes. -/
theorem exposes_pair (side : String) (misuse : Option Defect)
    (located : locatedExports (pairListing side).toList =
      [(0, .declared pairFirst), (23, .declared pairSecond)])
    (kind : (routeKind (fun command => command.answer (printedText (pairLister side command.args)))
      { callTimeout := none } "e.js").toOption = some (some (pairListing side)))
    (first : ((Declarations.ofSource "e.js" (pairListing side).toList).listedType
      pairFirst).toOption.map (fun typed => (typed.name, typed.misuse?)) = some ("A", misuse))
    (second : ((Declarations.ofSource "e.js" (pairListing side).toList).listedType
      pairSecond).toOption.map (fun typed => (typed.name, typed.misuse?, typed.added?.isSome)) =
        some ("B", none, true)) :
    ∃ first second : TypedExport,
      Exposes (fun command => command.answer (printedText (pairLister side command.args)))
        { callTimeout := none } ⟨[]⟩ "e.js" [first, second] ∧
      first.name = "A" ∧ first.misuse? = misuse ∧
      second.name = "B" ∧ second.misuse? = none ∧ second.added?.isSome := by
  obtain ⟨first, isFirst, firstIs⟩ := Option.map_eq_some_iff.mp first
  obtain ⟨second, isSecond, secondIs⟩ := Option.map_eq_some_iff.mp second
  obtain ⟨firstName, firstMisuse⟩ := Prod.mk.inj firstIs
  obtain ⟨secondName, secondView⟩ := Prod.mk.inj secondIs
  obtain ⟨secondBuilt, secondEntry⟩ := Prod.mk.inj secondView
  have exports := exports_ofSource "e.js" located (by simp)
  have aliases : (Declarations.ofSource "e.js" (pairListing side).toList).exportedAliases =
      [pairFirst, pairSecond] := by
    simp [Declarations.exportedAliases, exports]
  refine ⟨first, second, .listing (eq_ok_of_toOption kind) ?_ ?_, firstName, firstMisuse,
    secondName, secondBuilt, secondEntry⟩
  · simp [exports, Export.isDeclared]
  · rw [aliases]
    exact .cons (eq_ok_of_toOption isFirst) (.cons (eq_ok_of_toOption isSecond) .nil)

/-- **Types fail one by one.** Where every export of a module resolves to a type, under distinct
names, a misuse ends the run. Without one, the run has an entry for each type that has a schema and
reports the others; only if no type has one does it fail. A further export that no schema can
describe changes no entry. -/
theorem type_failures_isolated (knows : tool.Knows settings.policy answers)
    (positive : 1 ≤ settings.concurrency)
    (exposes : Exposes answers settings files entry.text exports)
    (distinct : (exports.map TypedExport.name).Nodup) :
    Isolates exports entry.text (assemble tool settings files entry).1
      (assemble tool settings files entry).2 ∧
    ∀ (tool' : Tool) (answers' : Command → Except RunError String) (files' : FileTree)
      (entry' : Path) (exports' : List TypedExport) (extra : TypedExport),
      tool'.Knows settings.policy answers' →
      Exposes answers' settings files' entry'.text exports' →
      (exports'.map TypedExport.name).Nodup → exports'.Perm (extra :: exports) →
      extra.added? = none → extra.misuse? = none →
      (∀ registry, (assemble tool settings files entry).1 = .ok registry →
        ∃ registry', (assemble tool' settings files' entry').1 = .ok registry' ∧
          registry.added.Perm registry'.added) ∧
      ∀ registry', (assemble tool' settings files' entry').1 = .ok registry' →
        ∃ registry, (assemble tool settings files entry).1 = .ok registry ∧
          registry.added.Perm registry'.added := by
  have isolates := isolates_of_exposes knows positive exposes distinct
  refine ⟨isolates, ?_⟩
  intro tool' answers' files' entry' exports' extra knows' exposes' distinct' perm unsupported built
  have isolates' := isolates_of_exposes knows' positive exposes' distinct'
  have same : (exports.filterMap TypedExport.added?).Perm
      (exports'.filterMap TypedExport.added?) := by
    refine .trans (.of_eq ?_) (perm.filterMap TypedExport.added?).symm
    rw [List.filterMap_cons_none unsupported]
  have members (typed : TypedExport) : typed ∈ exports' ↔ typed = extra ∨ typed ∈ exports := by
    rw [perm.mem_iff, List.mem_cons]
  constructor
  · refine fun registry ended => isolates.transfer isolates' (fun all typed member => ?_) same ended
    rcases (members typed).mp member with rfl | isOther
    · exact built
    · exact all typed isOther
  · intro registry' ended
    obtain ⟨registry, came, perm⟩ := isolates'.transfer isolates
      (fun all typed member => all typed ((members typed).mpr (.inr member))) same.symm ended
    exact ⟨registry, came, perm.symm⟩

/-- A listing of two aliases, of which the first one has an unsupported type. -/
theorem type_failures_isolated_unsupported : ∃ exports : List TypedExport,
    exports.map TypedExport.name = ["A", "B"] ∧
    Isolates exports (Path.ofText "e.js").text
      (assemble (.steady (fun _ => 0) (pairLister "Maybe")) { callTimeout := none } ⟨[]⟩
        (.ofText "e.js")).1
      (assemble (.steady (fun _ => 0) (pairLister "Maybe")) { callTimeout := none } ⟨[]⟩
        (.ofText "e.js")).2 := by
  have path : (Path.ofText "e.js").text = "e.js" := by decide +kernel
  obtain ⟨first, second, exposes, firstName, -, secondName, -, -⟩ :=
    exposes_pair "Maybe" none (by decide +kernel) (by decide +kernel) (by decide +kernel)
      (by decide +kernel)
  have names : [first, second].map TypedExport.name = ["A", "B"] := by simp [firstName, secondName]
  rw [← path] at exposes
  exact ⟨[first, second], names, (type_failures_isolated (knows_steady _ _ (by decide) rfl)
    (by decide) exposes (by rw [names]; decide)).1⟩

/-- **A misuse ends a run** in which every export resolves to a type, under distinct names, and one
of the types has a schema. -/
theorem misuse_ends_run : ∃ exports : List TypedExport,
    Exposes (fun command => command.answer (printedText (pairLister "Array" command.args)))
      { callTimeout := none } ⟨[]⟩ (Path.ofText "e.js").text exports ∧
    exports.map TypedExport.name = ["A", "B"] ∧ exports.filterMap TypedExport.added? ≠ [] ∧
    (assemble (.steady (fun _ => 0) (pairLister "Array")) { callTimeout := none } ⟨[]⟩
      (.ofText "e.js")).1 = .error (.misuse (.argumentCount "Array" 0)) := by
  have path : (Path.ofText "e.js").text = "e.js" := by decide +kernel
  obtain ⟨first, second, exposes, firstName, firstMisuse, secondName, secondBuilt, secondEntry⟩ :=
    exposes_pair "Array" (some (.argumentCount "Array" 0)) (by decide +kernel)
      (by decide +kernel) (by decide +kernel) (by decide +kernel)
  have names : [first, second].map TypedExport.name = ["A", "B"] := by simp [firstName, secondName]
  rw [← path] at exposes
  have isolates := isolates_of_exposes (knows_steady (fun _ => 0) _ (by decide) rfl) (by decide)
    exposes (by rw [names]; decide)
  obtain ⟨typed, member, defect, isMisuse, ended⟩ :=
    isolates.misused ⟨first, List.mem_cons_self, by simp [firstMisuse]⟩
  refine ⟨[first, second], exposes, names, ?_, ?_⟩
  · obtain ⟨entry, isEntry⟩ := Option.isSome_iff_exists.mp secondEntry
    intro none
    have member : entry ∈ [first, second].filterMap TypedExport.added? :=
      List.mem_filterMap.mpr ⟨second, by simp, isEntry⟩
    rw [none] at member
    cases member
  · rw [ended]
    rcases List.mem_pair.mp member with rfl | rfl
    · cases firstMisuse.symm.trans isMisuse
      rfl
    · cases secondBuilt.symm.trans isMisuse

end TypeSchema
