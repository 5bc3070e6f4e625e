/-
**The settings that options ask for.**

* `Datum.Names`: a document that names settings is empty, or a mapping whose keys are texts;
* `ofDatum_of_names`, `ofDatum_of_unnamed`: what such a document makes, and what any other one does;
* `settings_resolved`: **which settings come of a document and a program.** A document that names
  settings makes valid ones, or is refused for one of its names. What a document without names is
  taken for depends on whether its value is empty, and a program that is given is not checked: the
  settings are valid exactly if it is empty or visible.
-/

import TypeSchema.CommandLine.Report
import TypeSchema.Proofs.Json.Documents
import TypeSchema.Proofs.Result
import TypeSchema.Proofs.Settings.Named
import TypeSchema.Proofs.Text.Newline

namespace TypeSchema

open Settings

/-! ### Documents -/

/-- The names and values of a document that names settings. -/
inductive Datum.Names : Datum → List (String × Datum) → Prop
  | empty : Names .null []
  | mapping (entries : List (String × Datum)) :
      Names (.mapping (entries.map fun entry => (.string entry.1, entry.2))) entries

theorem mapM_keyText?_iff {pairs : List (Datum × Datum)} {entries : List (String × Datum)} :
    pairs.mapM Datum.keyText? = some entries ↔
      pairs = entries.map fun entry => (.string entry.1, entry.2) := by
  induction pairs generalizing entries with
  | nil =>
    rw [List.mapM_nil, eq_comm (a := []), List.map_eq_nil_iff]
    exact ⟨fun same => (Option.some.inj same).symm, fun same => congrArg some same.symm⟩
  | cons pair rest ih =>
    obtain ⟨key, value⟩ := pair
    rw [List.mapM_cons]
    constructor
    · intro read
      obtain ⟨first, text, others⟩ := Option.bind_eq_some_iff.mp read
      obtain ⟨more, found, same⟩ := Option.bind_eq_some_iff.mp others
      cases same
      cases key with
      | string name =>
        cases text
        rw [ih.mp found]
        rfl
      | null | bool | number | sequence | mapping | rare => cases text
    · intro same
      cases entries with
      | nil => cases same
      | cons entry entries =>
        obtain ⟨first, others⟩ := List.cons.inj same
        cases first
        rw [ih.mpr others]
        rfl

/-- What the value of a document makes that names settings. -/
theorem ofDatum_of_names {datum : Datum} {entries : List (String × Datum)} (path : Path)
    (names : datum.Names entries) :
    ofDatum path datum = (ofEntries? entries).elim (.error (.field path)) .ok := by
  cases names with
  | empty => rfl
  | mapping entries =>
    unfold ofDatum
    cases entries with
    | nil => rfl
    | cons entry rest =>
      rw [if_neg (by simp [Datum.isEmpty])]
      dsimp only
      rw [mapM_keyText?_iff.mpr rfl]
      dsimp only
      cases ofEntries? (entry :: rest) with
      | none => rfl
      | some settings => rfl

/-- A document that names no settings is never told as an invalid one. -/
theorem ofDatum_of_unnamed {datum : Datum} (path : Path)
    (unnamed : ∀ entries, ¬ datum.Names entries) :
    if datum.isEmpty then ofDatum path datum = .ok {}
    else ∃ error, ofDatum path datum = .error error ∧ ∀ place, error ≠ .field place := by
  unfold ofDatum
  split
  next => rfl
  next =>
    split
    next pairs full =>
      cases keys : pairs.mapM Datum.keyText? with
      | none => exact ⟨.name, rfl, nofun⟩
      | some entries =>
        rw [mapM_keyText?_iff.mp keys] at unnamed
        exact (unnamed entries (.mapping entries)).elim
    next => exact ⟨_, rfl, nofun⟩

section File

variable {path : Path} {text : String}

theorem ofList_unixLines (clean : '\r' ∉ text.toList) :
    String.ofList (unixLines text.toList) = text := by
  rw [unixLines_of_noReturn clean, String.ofList_toList]

/-- A YAML file without carriage returns is read as it is. -/
theorem readDatum_yaml (isYaml : isYamlPath path = true) (clean : '\r' ∉ text.toList)
    {value : Datum} (reads : Datum.ofYaml text = .ok value) : readDatum path text = .ok value := by
  simp [readDatum, ofList_unixLines clean, isYaml, reads, Except.mapError]

/-- A JSON file without carriage returns is read as it is. -/
theorem readDatum_json (isJson : ¬ isYamlPath path = true) (clean : '\r' ∉ text.toList)
    {value : Json} (reads : Json.parse? text = some value) :
    readDatum path text = .ok (.ofJson value) := by
  simp [readDatum, ofList_unixLines clean, isJson, reads]

end File

/-! ### Options -/

/-- The settings of a document that is there and has a value. -/
theorem written_of_document {options : SettingsOptions} {files : FileTree} {document text : String}
    (datum : Datum) (named : options.document = some document)
    (there : files.read (.ofText document) = .ok text)
    (read : readDatum (.ofText document) text = .ok datum) :
    options.written files = (ofDatum (.ofText document) datum).mapError .settings := by
  have made : ofText (.ofText document) text = ofDatum (.ofText document) datum := by
    unfold ofText
    rw [read]
    rfl
  unfold SettingsOptions.written
  rw [named]
  dsimp only
  rw [there, ← made]
  dsimp only [bind, Except.bind, Except.mapError]

/-- The settings of a document that is there and names settings in bounds. -/
theorem settings_of_names {options : SettingsOptions} {files : FileTree} {document text : String}
    {datum : Datum} {entries : List (String × Datum)} {settings : Settings}
    (named : options.document = some document) (there : files.read (.ofText document) = .ok text)
    (read : readDatum (.ofText document) text = .ok datum) (names : datum.Names entries)
    (made : ofEntries? entries = some settings) :
    options.settings files = .ok (options.override settings) := by
  unfold SettingsOptions.settings
  rw [written_of_document datum named there read, ofDatum_of_names _ names, made]
  rfl

theorem override_valid_iff {options : SettingsOptions} {settings : Settings}
    (valid : settings.Valid) :
    (options.override settings).Valid ↔
      ∀ program ∈ options.program, program = "" ∨ IsVisible program := by
  unfold SettingsOptions.override
  cases options.program with
  | none => exact iff_of_true valid nofun
  | some program =>
    have chosen : (∀ given ∈ some program, given = "" ∨ IsVisible given) ↔
        program = "" ∨ IsVisible program := by
      simp
    rw [chosen]
    by_cases silent : program = ""
    · subst silent
      exact iff_of_true valid (.inl rfl)
    · show (if program.isEmpty = true then settings
        else { settings with flowPath := program }).Valid ↔ _
      rw [if_neg (by simpa using silent)]
      constructor
      · exact fun replaced => .inr replaced.flowPath
      · intro visible
        exact { valid with flowPath := visible.resolve_left silent }

/-! ### The main result -/

/-- **The settings that options ask for.** Without a document they are the usual ones. A document
that names settings is refused exactly if it names an unknown one or a value out of bounds, and
otherwise makes valid settings, the usual ones only where it is silent. Any other document with an
empty value makes the usual settings, and the rest of them is refused for its shape. A program that
is given keeps settings valid exactly if it is empty or visible. -/
theorem settings_resolved (options : SettingsOptions) (files : FileTree) :
    (options.document = none → options.settings files = .ok (options.override {})) ∧
    (∀ document text datum, options.document = some document →
      files.read (.ofText document) = .ok text → readDatum (.ofText document) text = .ok datum →
      (∀ entries, datum.Names entries →
        (options.settings files = .error (.settings (.field (.ofText document))) ∧
          ∃ entry ∈ entries, ¬ Accepts entry) ∨
        ∃ settings, options.settings files = .ok (options.override settings) ∧ settings.Valid ∧
          settings.Holds entries ∧ ∀ entry ∈ entries, Accepts entry) ∧
      ((∀ entries, ¬ datum.Names entries) →
        if datum.isEmpty then options.settings files = .ok (options.override {})
        else ∃ error, options.settings files = .error (.settings error) ∧
          ∀ path, error ≠ .field path)) ∧
    ∀ settings : Settings, settings.Valid →
      ((options.override settings).Valid ↔
        ∀ program ∈ options.program, program = "" ∨ IsVisible program) := by
  refine ⟨fun unnamed => ?_, fun document text datum named there read => ⟨?_, ?_⟩,
    fun settings valid => override_valid_iff valid⟩
  · unfold SettingsOptions.settings SettingsOptions.written
    rw [unnamed]
    rfl
  · intro entries names
    unfold SettingsOptions.settings
    rw [written_of_document datum named there read, ofDatum_of_names _ names]
    have spec := ofEntries?_spec entries
    cases made : ofEntries? entries with
    | none =>
      rw [made] at spec
      exact .inl ⟨rfl, spec⟩
    | some settings =>
      rw [made] at spec
      exact .inr ⟨settings, rfl, spec⟩
  · intro unnamed
    unfold SettingsOptions.settings
    rw [written_of_document datum named there read]
    have outcome := ofDatum_of_unnamed (.ofText document) unnamed
    split at outcome
    next empty =>
      rw [if_pos empty, outcome]
      rfl
    next full =>
      obtain ⟨error, refused, other⟩ := outcome
      rw [if_neg full, refused]
      exact ⟨error, rfl, other⟩

/-- A document of three settings in bounds. -/
def fewAttempts : Json :=
  .object [("max_retries", .number (.int 4)), ("call_timeout", .null), ("concurrency", .string "2")]

def fewAttemptsEntries : List (String × Datum) :=
  [("max_retries", .number (.int 4)), ("call_timeout", .null), ("concurrency", .string "2")]

/-- A document of two settings in bounds and an interval of no length. -/
def noInterval : Json :=
  .object [("max_retries", .number (.int 4)), ("call_timeout", .null),
    ("retry_interval", .number (.int 0))]

def noIntervalEntries : List (String × Datum) :=
  [("max_retries", .number (.int 4)), ("call_timeout", .null), ("retry_interval", .number (.int 0))]

def settingsFiles : FileTree :=
  .ofFiles [("c.json", fewAttempts.indented), ("d.json", noInterval.indented)]

theorem names_fewAttempts : (Datum.ofJson fewAttempts).Names fewAttemptsEntries := by
  simp only [fewAttempts, Datum.ofJson, Datum.ofFields]
  exact .mapping fewAttemptsEntries

theorem names_noInterval : (Datum.ofJson noInterval).Names noIntervalEntries := by
  simp only [noInterval, Datum.ofJson, Datum.ofFields]
  exact .mapping noIntervalEntries

theorem readDatum_settingsFiles :
    readDatum (.ofText "c.json") fewAttempts.indented = .ok (.ofJson fewAttempts) ∧
      readDatum (.ofText "d.json") noInterval.indented = .ok (.ofJson noInterval) := by
  constructor
  · refine readDatum_json (by decide +kernel) (by decide +kernel)
      (Json.parse?_of_value (Json.value_indentedAt 0 _ ?_))
    simp [fewAttempts, Json.parts, Json.partsFields, Json.Documented, Number.Finite]
  · refine readDatum_json (by decide +kernel) (by decide +kernel)
      (Json.parse?_of_value (Json.value_indentedAt 0 _ ?_))
    simp [noInterval, Json.parts, Json.partsFields, Json.Documented, Number.Finite]

/-- Settings in bounds are valid, and usual where the document is silent. Beside an interval of no
length they are refused. -/
theorem settings_resolved_several :
    (∃ settings : Settings, settings.Valid ∧
      SettingsOptions.settings ⟨some "c.json", some "/opt/flow"⟩ settingsFiles = .ok settings ∧
      settings = { flowPath := "/opt/flow", maxRetries := 4, callTimeout := none, concurrency := 2 }) ∧
    SettingsOptions.settings ⟨some "d.json", none⟩ settingsFiles =
      .error (.settings (.field (.ofText "d.json"))) := by
  obtain ⟨read, read'⟩ := readDatum_settingsFiles
  constructor
  · have several := settings_resolved ⟨some "c.json", some "/opt/flow"⟩ settingsFiles
    have there : settingsFiles.read (.ofText "c.json") = .ok fewAttempts.indented :=
      eq_ok_of_toOption (by decide +kernel)
    have inBounds : ∀ entry ∈ fewAttemptsEntries, Accepts entry := by decide +kernel
    have entries : ofEntries? fewAttemptsEntries =
        some { maxRetries := 4, callTimeout := none, concurrency := 2 } := by
      decide +kernel
    obtain ⟨-, entry, member, refused⟩ | ⟨settings, made, valid, -⟩ :=
      (several.2.1 "c.json" _ _ rfl there read).1 _ names_fewAttempts
    · exact absurd (inBounds entry member) refused
    · refine ⟨_, (several.2.2 settings valid).mpr ?_, made, ?_⟩
      · rintro program ⟨⟩
        exact .inr (by decide)
      · have value : SettingsOptions.settings ⟨some "c.json", some "/opt/flow"⟩ settingsFiles = _ :=
          settings_of_names rfl there read names_fewAttempts entries
        exact (Except.ok.inj (made.symm.trans value)).trans (by decide +kernel)
  · have there : settingsFiles.read (.ofText "d.json") = .ok noInterval.indented :=
      eq_ok_of_toOption (by decide +kernel)
    obtain ⟨refused, -⟩ | ⟨-, -, -, -, accepted⟩ :=
      ((settings_resolved ⟨some "d.json", none⟩ settingsFiles).2.1 "d.json" _ _ rfl there read').1 _
        names_noInterval
    · exact refused
    · exact absurd accepted (by decide +kernel)

/-- A blank program is taken as it is, and so is the usual one if a document is an empty list. -/
theorem blankProgram_accepted :
    (∃ settings : Settings, ¬ settings.Valid ∧
      SettingsOptions.settings ⟨some "c.json", some " "⟩ (.ofFiles [("c.json", "{}")]) =
        .ok settings) ∧
    SettingsOptions.settings ⟨some "c.json", none⟩ (.ofFiles [("c.json", "[]")]) = .ok {} := by
  have emptyMapping : SettingsOptions.written ⟨some "c.json", some " "⟩
      (.ofFiles [("c.json", "{}")]) = .ok {} :=
    written_of_document (.mapping []) rfl rfl rfl
  have emptyList : SettingsOptions.written ⟨some "c.json", none⟩
      (.ofFiles [("c.json", "[]")]) = .ok {} :=
    written_of_document (.sequence []) rfl rfl rfl
  have blank : ¬ IsVisible " " := by decide
  constructor
  · refine ⟨SettingsOptions.override ⟨some "c.json", some " "⟩ {}, fun valid => ?_, ?_⟩
    · exact blank valid.flowPath
    · rw [SettingsOptions.settings, emptyMapping]
      rfl
  · rw [SettingsOptions.settings, emptyList]
    rfl

end TypeSchema
