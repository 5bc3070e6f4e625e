/-
**Looking types up and listing them come to the same.**

* `NamedText.exported`: what a definition comes to as an exported type;
* `Shows`: a type checker that lists a module as it is written, and shows a definition at its name;
* `settle_typeAt`: a definition that is looked up resolves to its right side;
* `listedType_define`: so does one that is listed;
* `ways_agree`: **both ways fail, or both find the same entries**.
-/

import TypeSchema.Proofs.Assembly.Isolation
import TypeSchema.Proofs.Registry.Order
import TypeSchema.Proofs.Source.Listing
import TypeSchema.Proofs.TypeExpr.Splitting

namespace TypeSchema

variable {texts before after : List NamedText} {named : NamedText} {path : String}
  {answers : Command → Except RunError String} {declaration : AliasDeclaration}

namespace NamedText

/-- The type that a text denotes, if it denotes one. -/
def type (named : NamedText) : TypeNode :=
  (TypeNode.ofText named.side none ⟨1, 1⟩).toOption.getD (.primitive .any)

/-- A definition as an exported type of a module. -/
def exported (path : String) (named : NamedText) : TypedExport :=
  ⟨String.ofList named.name, exportStatement (String.ofList named.name) (String.ofList named.side),
    path, String.ofList named.side, named.type⟩

end NamedText

/-- A type checker that lists a module as it is written, and shows each definition at its name. The
name stands behind two words, on the line that it has when the module is read from a file. -/
structure Shows (answers : Command → Except RunError String) (path : String)
    (texts : List NamedText) : Prop where
  lists : answers (.flowFiles path) = .ok (String.ofList (listing texts))
  types : ∀ before named after, texts = before ++ named :: after →
    let place := positionAt (listing (texts.map NamedText.asRead))
      ((listing (before.map NamedText.asRead)).length + "export type ".length : Nat)
    answers (.typeAt path place.line place.column) =
      .ok (String.ofList (aliasText named.name named.side))

namespace NamedText.Listable

variable (listable : named.Listable)

include listable

theorem identifier : IsIdentifier named.name := listable.wellFormed.1

theorem accepted (path : Option String) (start : Position) :
    TypeNode.ofText named.side path start = .ok named.type := by
  obtain ⟨_, _, node, accepted⟩ := listable.wellFormed.2.1
  rw [type, TypeNode.ofText_anywhere accepted, TypeNode.ofText_anywhere accepted]
  rfl

theorem noEnd : named.side.getLast? ≠ some ';' := by
  have noEnd := listable.wellFormed.2.2.1
  rwa [(ends_of_trim listable.trimmed).2] at noEnd

/-- **A definition that is looked up** resolves to its right side. -/
theorem settle_typeAt {position : Position}
    (shows_ : answers (.typeAt path position.line position.column) =
      .ok (String.ofList (aliasText named.name named.side))) :
    (typeAt path position).settle answers = .ok (named.exported path).resolved := by
  obtain ⟨found, split, -, source, type⟩ := Alias.ofText_written listable.identifier
    (listable.accepted none ⟨1, 1⟩) listable.trimmed listable.noEnd (some path) position
  rw [typeAt, Inquiry.settle_bind, Inquiry.answer, Inquiry.settle, shows_]
  simp only [Inquiry.ofExcept, Inquiry.settle, Except.mapError, Except.bind, Inquiry.settle_bind,
    String.toList_ofList, split, source, type]
  rfl

/-- **A definition that is listed** resolves to its right side. -/
theorem listedType_define (texts_ : texts = before ++ named :: after)
    (defines : named.statement.aliasAt (listing texts) (listing before).length =
      some declaration) :
    (Declarations.ofSource path (listing texts)).listedType declaration =
      .ok (named.exported path) := by
  obtain ⟨isName, -, -, statement, side⟩ :=
    slice_define ((congrArg listing texts_).trans (listing_split before named after)) defines
  have written : String.ofList named.statement.text = (named.exported path).snippet := by
    have parts : (named.exported path).snippet = "export type " ++ String.ofList named.name ++
        " = " ++ String.ofList named.side ++ ";" := rfl
    apply String.toList_inj.mp
    rw [parts, String.toList_ofList]
    simp only [String.toList_append, String.toList_ofList, List.append_assoc]
    rfl
  have visible : (named.exported path).snippet.isEmpty = false := by
    rw [← written]
    simp [named.statement.text_ne_nil]
  have type := listable.accepted (some path)
    (positionAt (listing texts) declaration.sideStart)
  rw [listable.trimmed] at side
  change slice _ _ _ = named.statement.text at statement
  simp only [Declarations.listedType, Declarations.rightSide, Declarations.statement,
    Declarations.ofSource, statement, side, type, written, isName, visible]
  rfl

end NamedText.Listable

/-! ### Both ways -/

section

variable {tool : Tool} {settings : Settings} {files : FileTree} {text : String}

theorem name_of_aliasAt {source : List Char} {offset : Nat}
    (defines : named.statement.aliasAt source offset = some declaration) :
    declaration.name = String.ofList named.name := by
  cases defines
  rfl

/-- Exports that are aliases, as aliases. -/
theorem forall₂_exportedAliases {α : Type} {relation : α → AliasDeclaration → Prop} {values : List α}
    {declarations : Declarations}
    (declared : List.Forall₂ (fun value (entry : Export) => ∃ declaration,
      entry = .declared declaration ∧ relation value declaration) values declarations.exports) :
    List.Forall₂ relation values declarations.exportedAliases := by
  rw [Declarations.exportedAliases]
  generalize declarations.exports = exports at declared ⊢
  induction declared with
  | nil => exact .nil
  | cons declares _ ih =>
    obtain ⟨declaration, rfl, related⟩ := declares
    exact .cons related ih

/-- What looking up the definitions of a module reflects. -/
theorem reflects_of_shows (knows : tool.Knows settings.policy answers)
    (positive : 1 ≤ settings.concurrency)
    (distinct : ((texts.map (NamedText.exported path)).map TypedExport.name).Nodup)
    (listable : ∀ named ∈ texts, named.Listable)
    (readable : ∀ named ∈ texts, named.asRead.statement.WellFormed)
    (shows_ : Shows answers path texts)
    (read : files.read (Path.ofText path) = .ok (String.ofList (unixLines (listing texts))))
    (now : Instant) (start : Session) :
    Reflects (texts.map (NamedText.exported path)) start
      (registryByPosition tool settings files path now start).1
      (registryByPosition tool settings files path now start).2 := by
  rw [unixLines_listing fun named member => (listable named member).identifier] at read
  refine reflects_of_positions knows positive now start read ?_ distinct
  have exports := exports_listing NamedText.asRead readable path
  rw [String.toList_ofList, List.forall₂_map_right_iff]
  refine ((List.forall₂_and_left _ _).mpr ⟨listable, exports⟩).flip.imp ?_
  rintro entry named ⟨listable, declaration, rfl, before, after, split, defines⟩
  have isName := name_of_aliasAt defines
  have shown := shows_.types before named after split
  cases defines
  refine ⟨?_, isName.symm, congrArg (exportStatement · _) isName.symm⟩
  have resolves := listable.settle_typeAt shown
  change (typeAt _ _ >>= fun resolved => .settled (.ok (Referent.type resolved))).settle answers = _
  rw [Inquiry.settle_bind]
  exact congrArg (Except.bind · _) resolves

/-- What listing the definitions of a module reflects. -/
theorem reflects_of_listed
    (distinct : ((texts.map (NamedText.exported path)).map TypedExport.name).Nodup)
    (listable : ∀ named ∈ texts, named.Listable) (start : Session) :
    Reflects (texts.map (NamedText.exported path)) start
      (registryOfListing path (String.ofList (listing texts)) start).1
      (registryOfListing path (String.ofList (listing texts)) start).2 := by
  refine reflects_of_listing start ?_ distinct
  have exports := exports_listing id (fun named member => (listable named member).wellFormed) path
  rw [List.map_id] at exports
  rw [String.toList_ofList, List.forall₂_map_right_iff]
  refine ((List.forall₂_and_left _ _).mpr ⟨listable, forall₂_exportedAliases exports⟩).flip.imp ?_
  rintro declaration named ⟨listable, before, after, split, defines⟩
  rw [List.map_id, List.map_id] at defines
  exact listable.listedType_define split defines

/-- A listing is taken down as it is printed. -/
theorem registryByListing_of_lists (knows : tool.Knows settings.policy answers)
    (lists : answers (.flowFiles path) = .ok text) (now : Instant) (start : Session) :
    ∃ session, registryByListing tool settings path now start = registryOfListing path text session := by
  have asked := knows.single (.flowFiles path) nofun now start
  rw [registryByListing]
  generalize (Command.flowFiles path).ask tool settings.policy now start = asks at asked
  obtain ⟨time, answer, session⟩ := asks
  obtain rfl : answer = .ok text := asked.trans lists
  exact ⟨session, rfl⟩

/-- The entries of exports have names of their own. -/
theorem nodup_names_added {exports : List TypedExport} (distinct : (exports.map TypedExport.name).Nodup) :
    ((exports.filterMap TypedExport.added?).map TypeEntry.name).Nodup := by
  refine distinct.sublist ?_
  induction exports with
  | nil => exact .slnil
  | cons typed rest ih =>
    have later := ih (List.nodup_cons.mp distinct).2
    cases isEntry : typed.added? with
    | none =>
      rw [List.filterMap_cons_none isEntry]
      exact later.cons _
    | some entry =>
      rw [List.filterMap_cons_some isEntry, List.map_cons, List.map_cons,
        TypedExport.added?_name isEntry]
      exact later.cons_cons _

/-- **What reflects the same exports agrees.** -/
theorem Reflects.agree {exports : List TypedExport} {start start' session session' : Session}
    {result result' : Except AssemblyError Registry}
    (distinct : (exports.map TypedExport.name).Nodup)
    (reflects : Reflects exports start result session)
    (reflects' : Reflects exports start' result' session') :
    (∃ error error', result = .error error ∧ result' = .error error') ∨
    ∃ registry registry', result = .ok registry ∧ result' = .ok registry' ∧
      registry.added.Perm registry'.added ∧ registry.Alike registry' := by
  -- A misuse among the exports makes both fail.
  have misused {error : AssemblyError}
      (failed : ∃ typed ∈ exports, typed.finding = .error error)
      (built : ∀ typed ∈ exports, typed.misuse? = none) : False := by
    obtain ⟨typed, member, fails⟩ := failed
    obtain ⟨defect, isMisuse, -⟩ := TypedExport.finding_eq_error fails
    rw [built typed member] at isMisuse
    cases isMisuse
  cases result with
  | error error =>
    cases result' with
    | error error' => exact .inl ⟨error, error', rfl, rfl⟩
    | ok registry' =>
      exact (misused (reflects.failed error rfl) (reflects'.found registry' rfl).1).elim
  | ok registry =>
    obtain ⟨built, perm, -⟩ := reflects.found registry rfl
    cases result' with
    | error error' => exact (misused (reflects'.failed error' rfl) built).elim
    | ok registry' =>
      have same := perm.trans (reflects'.found registry' rfl).2.1.symm
      have taken : registry.taken.Nodup :=
        ((perm.map TypeEntry.name).nodup_iff).mpr (nodup_names_added distinct)
      exact .inr ⟨registry, registry', rfl, rfl, same, Registry.alike_of_perm taken same⟩

/-- **Looking types up and listing them come to the same.** Take a module of exported definitions with
distinct names, each of them well-formed as it is written and as it is read from a file, and a type
checker that lists the module as it is written and shows each definition at its name. Then both ways
fail, or both find the same entries; the names, entries, schemas, sources, documents and validator
modules are then the same. -/
theorem ways_agree (knows : tool.Knows settings.policy answers)
    (positive : 1 ≤ settings.concurrency)
    (distinct : (texts.map NamedText.name).Nodup)
    (listable : ∀ named ∈ texts, named.Listable)
    (readable : ∀ named ∈ texts, named.asRead.statement.WellFormed)
    (shows_ : Shows answers path texts)
    (read : files.read (Path.ofText path) = .ok (String.ofList (unixLines (listing texts))))
    (now now' : Instant) (start start' : Session) :
    let found := (registryByPosition tool settings files path now start).1
    let listed := (registryByListing tool settings path now' start').1
    (∃ error error', found = .error error ∧ listed = .error error') ∨
    ∃ registry registry', found = .ok registry ∧ listed = .ok registry' ∧
      registry.added.Perm registry'.added ∧ registry.Alike registry' := by
  intro found listed
  have names : ((texts.map (NamedText.exported path)).map TypedExport.name).Nodup := by
    have same := distinct.map (f := String.ofList) fun _ _ => String.ofList_inj.mp
    rwa [List.map_map] at same ⊢
  obtain ⟨session, taken⟩ := registryByListing_of_lists knows shows_.lists now' start'
  have byPosition := reflects_of_shows knows positive names listable readable shows_ read now start
  have byListing := reflects_of_listed names listable session
  rw [← taken] at byListing
  exact byPosition.agree names byListing

end

/-! ### Line ends in files -/

/-- A definition whose lines end as on another system, and one on a line. -/
def windowsTexts : List NamedText :=
  [⟨['A'], "?string |\r\n  number".toList⟩, ⟨['B'], "number".toList⟩]

/-- What a type checker prints about these definitions. -/
def windowsPrinter : List String → List UInt8
  | "gen-flow-files" :: _ => (String.ofList (listing windowsTexts)).toUTF8.toList
  | ["type-at-pos", _, _, _, _, "1", _] =>
    "\x7b\"type\": \"type A = ?string |\\r\\n  number\"\x7d".toUTF8.toList
  | "type-at-pos" :: _ => "\x7b\"type\": \"type B = number\"\x7d".toUTF8.toList
  | _ => []

theorem listable_windowsTexts : ∀ named ∈ windowsTexts,
    named.Listable ∧ named.asRead.statement.WellFormed := by
  have number : (StatementText.define true ['B'] "number".toList).WellFormed := by
    exact ⟨isIdentifier_singleton rfl, ⟨none, ⟨1, 1⟩, exists_eq_ok (by decide +kernel)⟩, by decide,
      breaksAtBars_of_oneLine (by decide +kernel)⟩
  have union : (StatementText.define true ['A'] "?string |\r\n  number".toList).WellFormed := by
    exact ⟨isIdentifier_singleton rfl, ⟨none, ⟨1, 1⟩, exists_eq_ok (by decide +kernel)⟩, by decide,
      @breaksAtBars_of_twoLines _ "?string |\r".toList "  number".toList (by decide +kernel)
        (by decide) (by decide)⟩
  refine List.forall_mem_cons.mpr ⟨⟨⟨union, by decide⟩, wellFormed_exampleUnion⟩,
    List.forall_mem_singleton.mpr ⟨⟨number, by decide⟩, number⟩⟩

theorem shows_windowsPrinter :
    Shows (fun command => command.answer (printedText (windowsPrinter command.args))) "e.js"
      windowsTexts where
  lists := eq_ok_of_toOption (by decide +kernel)
  types := by
    intro before named after split
    match before, split with
    | [], split =>
      obtain ⟨rfl, rfl⟩ := List.cons.inj split
      exact eq_ok_of_toOption (by decide +kernel)
    | [_], split =>
      obtain ⟨rfl, rest⟩ := List.cons.inj split
      obtain ⟨rfl, rfl⟩ := List.cons.inj rest
      exact eq_ok_of_toOption (by decide +kernel)
    | _ :: _ :: _, split => simp [windowsTexts] at split

/-- A file with a text, read with the line ends of this system. -/
theorem read_single (text : List Char) :
    (FileTree.ofFiles [("e.js", String.ofList text)]).read (Path.ofText "e.js") =
      .ok (String.ofList (unixLines text)) := by
  have leads : (FileTree.ofFiles [("e.js", String.ofList text)]).fileNames (Path.ofText "e.js") =
      .ok ["e.js"] := by
    with_unfolding_all rfl
  have holds : (FileTree.ofFiles [("e.js", String.ofList text)]).text? ["e.js"] =
      some (String.ofList text) := by
    with_unfolding_all rfl
  simp only [FileTree.read, leads, holds, String.toList_ofList]

theorem ways_agree_windowsTexts :
    let tool := Tool.steady (fun _ => 0) windowsPrinter
    let files := FileTree.ofFiles [("e.js", String.ofList (listing windowsTexts))]
    let settings : Settings := { callTimeout := none }
    let found := (registryByPosition tool settings files "e.js" 0 {}).1
    let listed := (registryByListing tool settings "e.js" 0 {}).1
    (∃ error error', found = .error error ∧ listed = .error error') ∨
    ∃ registry registry', found = .ok registry ∧ listed = .ok registry' ∧
      registry.added.Perm registry'.added ∧ registry.Alike registry' :=
  ways_agree (knows_steady _ _ (by decide) rfl) (by decide) (by decide)
    (fun named member => (listable_windowsTexts named member).1)
    (fun named member => (listable_windowsTexts named member).2)
    shows_windowsPrinter (read_single (listing windowsTexts)) 0 0 {} {}

/-- A definition whose text has a carriage return in a string. Read from a file, it is broken there,
and what follows looks like another definition. -/
def returnText : NamedText := ⟨['N'], "['\rexport type Z = string;']".toList⟩

/-- What a type checker prints about this definition. -/
def returnPrinter : List String → List UInt8
  | "gen-flow-files" :: _ => (String.ofList (listing [returnText])).toUTF8.toList
  | ["type-at-pos", _, _, _, _, "1", _] =>
    "\x7b\"type\": \"type N = ['\\rexport type Z = string;']\"\x7d".toUTF8.toList
  | _ => []

theorem listable_returnText : returnText.Listable := by
  exact ⟨⟨isIdentifier_singleton rfl, ⟨none, ⟨1, 1⟩, exists_eq_ok (by decide +kernel)⟩, by decide,
    breaksAtBars_of_oneLine (by decide +kernel)⟩, by decide⟩

theorem shows_returnPrinter :
    Shows (fun command => command.answer (printedText (returnPrinter command.args))) "e.js"
      [returnText] where
  lists := eq_ok_of_toOption (by decide +kernel)
  types := by
    intro before named after split
    match before, split with
    | [], split =>
      obtain ⟨rfl, rfl⟩ := List.cons.inj split
      exact eq_ok_of_toOption (by decide +kernel)
    | _ :: _, split => simp at split

/-- What looks like a definition in the file. -/
def returnAlias : AliasDeclaration := ⟨"Z", true, ⟨2, 13⟩, 19, 42, 35, 41⟩

theorem exports_returnText :
    (Declarations.ofSource "e.js" (unixLines (listing [returnText]))).exports =
      [.declared ⟨"N", true, ⟨1, 13⟩, 0, 46, 16, 43⟩, .declared returnAlias] := by
  have located : locatedExports (unixLines (listing [returnText])) =
      [(0, .declared ⟨"N", true, ⟨1, 13⟩, 0, 46, 16, 43⟩), (19, .declared returnAlias)] := by
    decide +kernel
  exact exports_ofSource "e.js" located (by simp)

/-- An export that comes to nothing makes looking up fail. -/
theorem registryByPosition_fails {tool : Tool} {settings : Settings} {files : FileTree}
    {text : String} {exported : Export} (knows : tool.Knows settings.policy answers)
    (positive : 1 ≤ settings.concurrency) (read : files.read (Path.ofText path) = .ok text)
    (member : exported ∈ (Declarations.ofSource path text.toList).exports)
    (nothing : (((Declarations.ofSource path text.toList).finding files settings.maxReexportDepth
      exported).settle answers).toOption = none) (now : Instant) (start : Session) :
    ∃ error, (registryByPosition tool settings files path now start).1 = .error error := by
  cases came : (registryByPosition tool settings files path now start).1 with
  | error other => exact ⟨other, rfl⟩
  | ok registry =>
    have asks : ∀ job ∈ (Declarations.ofSource path text.toList).exports.map
        ((Declarations.ofSource path text.toList).finding files settings.maxReexportDepth),
        job.AsksAtMost Retried (settings.maxReexportDepth + 3) :=
      List.forall_mem_map.mpr fun entry _ => finding_asks _ _ _ _
    simp only [registryByPosition, read] at came
    obtain ⟨findings, found, -⟩ := Pool.run_ok_settles asks knows.only
      (prints_ofTool tool settings.policy) positive (Prod.ext came rfl)
    rw [List.forall₂_map_left_iff] at found
    obtain ⟨finding, settles⟩ := ((List.forall₂_and_left _ _).mp (found.imp fun entry finding settled =>
      ⟨Exists.intro finding settled, settled⟩)).1 exported member
    rw [settles] at nothing
    cases nothing

/-- **A carriage return in a string sets the ways apart.** The definition is well-formed, and the type
checker lists the module as it is written and shows the definition at its name, but looking up fails,
where listing finds the entry. -/
theorem ways_differ_returnText :
    let answers := fun command : Command =>
      command.answer (printedText (returnPrinter command.args))
    let tool := Tool.steady (fun _ => 0) returnPrinter
    let files := FileTree.ofFiles [("e.js", String.ofList (listing [returnText]))]
    let settings : Settings := { callTimeout := none }
    tool.Knows settings.policy answers ∧ (∀ named ∈ [returnText], named.Listable) ∧
      Shows answers "e.js" [returnText] ∧
      files.read (Path.ofText "e.js") = .ok (String.ofList (unixLines (listing [returnText]))) ∧
      (∃ error, (registryByPosition tool settings files "e.js" 0 {}).1 = .error error) ∧
      ∃ registry, (registryByListing tool settings "e.js" 0 {}).1 = .ok registry ∧
        registry.taken = ["N"] := by
  intro answers tool files settings
  have knows : tool.Knows settings.policy answers := knows_steady _ _ (by decide) rfl
  have listable : ∀ named ∈ [returnText], named.Listable :=
    List.forall_mem_singleton.mpr listable_returnText
  have read : files.read (Path.ofText "e.js") =
      .ok (String.ofList (unixLines (listing [returnText]))) := read_single (listing [returnText])
  refine ⟨knows, listable, shows_returnPrinter, read, ?_, ?_⟩
  · have member : Export.declared returnAlias ∈ (Declarations.ofSource "e.js"
        (String.ofList (unixLines (listing [returnText]))).toList).exports := by
      rw [String.toList_ofList, exports_returnText]
      simp
    have nothing : (((Declarations.ofSource "e.js"
        (String.ofList (unixLines (listing [returnText]))).toList).finding files
          settings.maxReexportDepth (.declared returnAlias)).settle answers).toOption.isNone := by
      decide +kernel
    exact registryByPosition_fails knows (by decide) read member
      (Option.isNone_iff_eq_none.mp nothing) 0 {}
  · obtain ⟨session, taken⟩ := registryByListing_of_lists knows shows_returnPrinter.lists 0 {}
    rw [taken]
    have names : (([returnText].map (NamedText.exported "e.js")).map TypedExport.name).Nodup :=
      List.nodup_singleton _
    have reflects := reflects_of_listed names listable session
    have isEntry : (returnText.exported "e.js").added?.map TypeEntry.name = some "N" := by
      decide +kernel
    obtain ⟨entry, isEntry, named⟩ := Option.map_eq_some_iff.mp isEntry
    cases listed : (registryOfListing "e.js" (String.ofList (listing [returnText])) session).1 with
    | error error =>
      obtain ⟨typed, member, fails⟩ := reflects.failed error listed
      obtain ⟨defect, isMisuse, -⟩ := TypedExport.finding_eq_error fails
      rw [List.map_singleton, List.mem_singleton] at member
      have built : (returnText.exported "e.js").misuse?.isNone := by decide +kernel
      rw [← member, isMisuse] at built
      cases built
    | ok registry =>
      have entries := (reflects.found registry listed).2.1
      rw [List.map_singleton, List.filterMap_cons_some isEntry, List.filterMap_nil] at entries
      exact ⟨registry, rfl, by rw [Registry.taken, List.perm_singleton.mp entries]; simp [named]⟩

end TypeSchema
