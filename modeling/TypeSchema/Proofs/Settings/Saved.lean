/-
**Saved settings.**

* `Json.wideScript`: documents in which a number need not be finite; the reader of documents reads
  them, too;
* `Json.noReturn_indentedAt`: a document has no carriage returns, so that its file is read as it was
  written;
* `ofEntries?_entries`: valid settings are made again by their names and values;
* `readDatum_text`: the file of settings holds these, whether it is a YAML or a JSON document;
* `saved_settings_load`: **valid settings are loaded as they were saved**, unless an integer among
  them has too many digits to be written.
-/

import TypeSchema.Proofs.Json.Documents
import TypeSchema.Proofs.Settings.Resolution
import TypeSchema.Proofs.TypeNode.Textual
import TypeSchema.Proofs.Yaml.Printed

namespace TypeSchema

/-! ### Documents with any numbers -/

namespace Json

/-- The text of a scalar in a document whose numbers need not be finite. -/
inductive IsWideScalar : Json → List Char → Prop
  | scalar {value : Json} {text : List Char} (isScalar : IsScalar value text) :
      IsWideScalar value text
  | endless {value : Number} (endless : ¬ value.Finite) :
      IsWideScalar (number value) value.document.toList

/-- Documents whose numbers need not be finite. -/
def wideScript : Script where
  Scalar := IsWideScalar
  Name := IsString

/-- The three numbers that are not finite. -/
theorem endless_cases {value : Number} (endless : ¬ value.Finite) :
    value = .real .nan ∨ value = .real (.infinite false) ∨ value = .real (.infinite true) := by
  match value, endless with
  | .real .nan, _ => exact .inl rfl
  | .real (.infinite false), _ => exact .inr (.inl rfl)
  | .real (.infinite true), _ => exact .inr (.inr rfl)
  | .int _, endless => exact absurd trivial endless
  | .real (.finite ..), endless => exact absurd trivial endless

/-- The reader of documents reads such numbers as well. -/
theorem reader_reads_wide : reader.Reads wideScript where
  scalar value text rest isScalar closes := by
    cases isScalar with
    | scalar isScalar => exact reader_reads.scalar value text rest isScalar closes
    | endless endless => obtain rfl | rfl | rfl := endless_cases endless <;> rfl
  opensScalar value text isScalar := by
    cases isScalar with
    | scalar isScalar => exact reader_reads.opensScalar value text isScalar
    | endless endless =>
      obtain rfl | rfl | rfl := endless_cases endless <;>
        exact ⟨⟨_, _, rfl, rfl, by decide, by decide⟩, by decide, by decide⟩
  name := reader_reads.name
  opensName := reader_reads.opensName

/-! ### Carriage returns -/

theorem noReturn_of_isBody {value text : List Char} (isBody : IsBody value text) :
    '\r' ∉ text := by
  have noDigit {unit : Nat} {digits : List Char} (isUnit : IsUnit unit digits) : '\r' ∉ digits := by
    intro member
    exact absurd (isUnit.isHexDigit _ member) (by decide)
  induction isBody with
  | nil => exact List.not_mem_nil
  | plain notControl _ _ _ ih =>
    refine fun member => (List.mem_cons.mp member).elim ?_ ih
    rintro rfl
    exact absurd notControl (by decide)
  | @letter c letter _ _ isLetter _ ih =>
    have noLetter : ∀ entry ∈ escapeLetters, '\r' ≠ entry.2 :=
      List.all_iff_forall_prop.mp (by decide)
    simp [ih, noLetter _ isLetter]
  | unit isUnit _ _ ih => simp [ih, noDigit isUnit]
  | pair isHigh isLow _ _ _ ih => simp [ih, noDigit isHigh, noDigit isLow]

theorem noReturn_documentString (value : String) : '\r' ∉ (documentString value).toList := by
  obtain ⟨body, isBody, same⟩ := isString_documentString value
  rw [same]
  simp [noReturn_of_isBody isBody]

theorem noReturn_document (value : Number) : '\r' ∉ value.document.toList := by
  by_cases finite : value.Finite
  · intro member
    have isChar := Yaml.mem_numeralChars_of_spells (Number.spells_document finite) _ member
    exact absurd isChar (by decide)
  · obtain rfl | rfl | rfl := endless_cases finite <;> decide

theorem noReturn_newline (level : Nat) : '\r' ∉ (newline level).toList := by
  simp [newline, List.mem_replicate]

theorem noReturn_intercalate {separator : String} (clean : '\r' ∉ separator.toList)
    {texts : List String} (each : ∀ text ∈ texts, '\r' ∉ text.toList) :
    '\r' ∉ (separator.intercalate texts).toList := by
  induction texts with
  | nil => simp
  | cons text rest ih =>
    rw [List.forall_mem_cons] at each
    cases rest with
    | nil => simpa using each.1
    | cons next more =>
      rw [String.intercalate_cons_cons, String.toList_append, String.toList_append]
      simp only [List.mem_append, not_or]
      exact ⟨⟨each.1, clean⟩, ih each.2⟩

theorem noReturn_block {opening closing : String} (opens : '\r' ∉ opening.toList)
    (closes : '\r' ∉ closing.toList) (level : Nat) {texts : List String}
    (each : ∀ text ∈ texts, '\r' ∉ text.toList) :
    '\r' ∉ (block opening closing level texts).toList := by
  by_cases some_ : texts = []
  · subst some_
    simp [block, opens, closes]
  · have separator : '\r' ∉ ("," ++ newline (level + 1)).toList := by
      simp [noReturn_newline]
    have inside := noReturn_intercalate separator each
    rw [block_of_ne_nil some_]
    simp only [String.toList_append, List.mem_append, not_or]
    exact ⟨⟨⟨⟨opens, noReturn_newline _⟩, by simpa using inside⟩, noReturn_newline _⟩, closes⟩

mutual

/-- **A document has no carriage returns.** -/
theorem noReturn_indentedAt (level : Nat) : (value : Json) →
    '\r' ∉ (value.indentedAt level).toList
  | null => by simp [indentedAt]
  | bool true => by simp [indentedAt]
  | bool false => by simp [indentedAt]
  | number value => noReturn_document value
  | string value => noReturn_documentString value
  | array items =>
    noReturn_block (by decide) (by decide) level (noReturn_indentedItems (level + 1) items)
  | object fields =>
    noReturn_block (by decide) (by decide) level (noReturn_indentedFields (level + 1) fields)

theorem noReturn_indentedItems (level : Nat) : (items : List Json) →
    ∀ text ∈ indentedItems level items, '\r' ∉ text.toList
  | [] => nofun
  | item :: rest =>
    List.forall_mem_cons.mpr ⟨noReturn_indentedAt level item, noReturn_indentedItems level rest⟩

theorem noReturn_indentedFields (level : Nat) : (fields : List (String × Json)) →
    ∀ text ∈ indentedFields level fields, '\r' ∉ text.toList
  | [] => nofun
  | (name, value) :: rest => by
    refine List.forall_mem_cons.mpr ⟨?_, noReturn_indentedFields level rest⟩
    simp [noReturn_documentString, noReturn_indentedAt level value]

end

end Json

namespace Settings

/-! ### Names and values -/

variable {settings : Settings}

/-- Settings as named values of a document. -/
def entries (settings : Settings) : List (String × Datum) :=
  settings.fields.map fun field => (field.1, field.2.datum)

/-- **Valid settings are made again** by their names and values. -/
theorem ofEntries?_entries (valid : settings.Valid) :
    ofEntries? settings.entries = some settings := by
  have step {settings : Settings} {name : String} {value : Datum} {change : Settings → Settings}
      (sets : Sets name value change) (rest : Settings → Option Settings) :
      (settings.set? name value >>= rest) = rest (change settings) := by
    rw [set?_eq_some_iff.mpr ⟨change, sets, rfl⟩]
    rfl
  have count {least value : Nat} (bound : least ≤ value) : (least : Int) ≤ value :=
    Int.ofNat_le.mpr bound
  unfold ofEntries? entries fields
  simp only [List.map_cons, List.map_nil, List.foldlM_cons, List.foldlM_nil, Yaml.Scalar.datum]
  rw [step (.flowPath rfl valid.flowPath), step (.maxRetries rfl (count valid.maxRetries)),
    step (.retryInterval rfl valid.retryInterval)]
  obtain ⟨path, retries, interval, limit, concurrency, depth, delay, version⟩ := settings
  cases limit with
  | none =>
    rw [step .noCallTimeout, step (.concurrency rfl (count valid.concurrency)),
      step (.maxReexportDepth rfl (Int.natCast_nonneg _)),
      step (.statusNoticeDelay rfl valid.statusNoticeDelay), step (.minPositionQueryVersion rfl)]
    rfl
  | some limit =>
    rw [step (.callTimeout rfl (valid.callTimeout limit rfl)),
      step (.concurrency rfl (count valid.concurrency)),
      step (.maxReexportDepth rfl (Int.natCast_nonneg _)),
      step (.statusNoticeDelay rfl valid.statusNoticeDelay), step (.minPositionQueryVersion rfl)]
    rfl

/-! ### Files -/

/-- Every integer among settings has as many digits as a text may have. -/
def Short (settings : Settings) : Prop :=
  ∀ value ∈ settings.integers, (Nat.toDigits 10 value).length ≤ digitLimit

instance : Decidable settings.Short := inferInstanceAs (Decidable (∀ _ ∈ _, _))

/-- The names of settings. -/
def names : List String :=
  ["flow_path", "max_retries", "retry_interval", "call_timeout", "concurrency",
    "max_reexport_depth", "status_notice_delay", "min_position_query_version"]

theorem map_fst_fields (settings : Settings) : settings.fields.map Prod.fst = names := rfl

theorem nodup_names : names.Nodup := by decide

/-- The characters of names. -/
def nameChars : List Char := "abcdefghijklmnopqrstuvwxyz_".toList

theorem isName_of_nameChars {name : List Char} (some_ : name ≠ []) (short : name.length ≤ 1024)
    (chars : ∀ c ∈ name, c ∈ nameChars) : Yaml.Scanner.IsName name := by
  have nameChar : ∀ c ∈ nameChars, Yaml.IsWordChar c ∧ c ≠ '#' ∧
      c ∉ '-' :: '?' :: ':' :: '.' :: Yaml.signs := List.all_iff_forall_prop.mp (by decide)
  refine ⟨⟨some_, fun c member => (nameChar c (chars c member)).1, fun comment => ?_,
    fun colon => ?_⟩, short, fun c head => (nameChar c (chars c (List.mem_of_head? head))).2.2⟩
  · exact (nameChar _ (chars _ (List.mem_of_head? comment))).2.1 rfl
  · exact (nameChar _ (chars _ (List.mem_of_getLast? colon))).2.2 (by decide)

/-- Settings may stand in a YAML document. -/
theorem field_fields (short : settings.Short) : ∀ field ∈ settings.fields, Yaml.Field field := by
  have words : ∀ name ∈ names, name.toList ≠ [] ∧ name.toList.length ≤ 1024 ∧
      (name.toList.all (nameChars.contains ·) = true) ∧
      Yaml.impliedTag name = Yaml.basicTag "str" := by decide
  intro field member
  have isName : field.1 ∈ names := by
    rw [← settings.map_fst_fields]
    exact List.mem_map_of_mem member
  obtain ⟨some_, fits, chars, implied⟩ := words field.1 isName
  refine ⟨isName_of_nameChars some_ fits fun c inside => ?_, implied, ?_⟩
  · simpa using List.all_eq_true.mp chars c inside
  · unfold Short integers at short
    simp only [List.forall_mem_cons] at short
    unfold fields at member
    simp only [List.mem_cons, List.not_mem_nil, or_false] at member
    obtain rfl | rfl | rfl | rfl | rfl | rfl | rfl | rfl := member
    · trivial
    · exact short.1
    · trivial
    · cases settings.callTimeout <;> trivial
    · exact short.2.1
    · exact short.2.2.1
    · trivial
    · trivial

theorem ofJson_scalarJson (value : Yaml.Scalar) :
    Datum.ofJson (scalarJson value) = value.datum := by
  cases value <;> rfl

theorem value_scalarJson (level : Nat) (value : Yaml.Scalar) :
    Json.wideScript.Value (scalarJson value) ((scalarJson value).indentedAt level).toList := by
  cases value with
  | null => exact .scalar (.scalar .null)
  | text value => exact .scalar (.scalar (.string (Json.isString_documentString value)))
  | number value =>
    by_cases finite : value.Finite
    · exact .scalar (.scalar (.number (Number.spells_document finite)))
    · exact .scalar (.endless finite)

theorem fields_scalarJson (level : Nat) (fields : List (String × Yaml.Scalar)) :
    List.Forall₂ (fun field text => Json.wideScript.Field field text.toList)
      (fields.map fun field => (field.1, scalarJson field.2))
      (Json.indentedFields level (fields.map fun field => (field.1, scalarJson field.2))) := by
  induction fields with
  | nil => exact .nil
  | cons field rest ih =>
    refine .cons ⟨_, [' '], _, Json.isString_documentString field.1, by simp [IsGap, Json.isSpace],
      value_scalarJson level field.2, ?_⟩ ih
    simp

/-- Settings as a JSON value. -/
def json (settings : Settings) : Json :=
  .object (settings.fields.map fun field => (field.1, scalarJson field.2))

/-- The JSON document of settings is read as their names and values. -/
theorem parse?_json (settings : Settings) :
    Json.parse? settings.json.indented = some settings.json := by
  have distinct : ((settings.fields.map fun field =>
      (field.1, scalarJson field.2)).map Prod.fst).Nodup := by
    rw [List.map_map]
    exact nodup_names
  exact Json.parse?_of_reads Json.reader_reads_wide
    (Json.value_block_object 0 distinct (fields_scalarJson 1 settings.fields))

theorem ofFields_scalarJson (fields : List (String × Yaml.Scalar)) :
    Datum.ofFields (fields.map fun field => (field.1, scalarJson field.2)) =
      fields.map fun field => (.string field.1, field.2.datum) := by
  induction fields with
  | nil => rfl
  | cons field rest ih =>
    rw [List.map_cons, List.map_cons, Datum.ofFields, ih, ofJson_scalarJson]

theorem noReturn_of_printed {text : List Char} (printed : Yaml.Printed text) : '\r' ∉ text :=
  fun member => absurd (printed _ member) (by decide)

/-- **The file of settings holds their names and values**, in either form. -/
theorem readDatum_text (short : settings.Short) (path : Path) :
    ∃ text, settings.text path = .ok text ∧
      readDatum path text = .ok (.mapping (settings.entries.map fun entry =>
        (.string entry.1, entry.2))) := by
  have fits : (settings.integers.any fun value =>
      digitLimit < (Nat.toDigits 10 value).length) = false := by
    rw [List.any_eq_false]
    intro value member
    simpa using short value member
  have good := field_fields short
  have distinct : (settings.fields.map Prod.fst).Nodup := nodup_names
  unfold text
  rw [fits, if_neg Bool.false_ne_true, entries, List.map_map]
  by_cases isYaml : isYamlPath path = true
  · rw [if_pos isYaml]
    refine ⟨_, rfl, ?_⟩
    have clean := noReturn_of_printed (Yaml.printed_document good)
    exact readDatum_yaml isYaml clean (Yaml.ofYaml_document (List.cons_ne_nil _ _) good distinct)
  · rw [if_neg isYaml]
    refine ⟨_, rfl, ?_⟩
    have clean : '\r' ∉ settings.json.indented.toList := Json.noReturn_indentedAt 0 _
    have value := readDatum_json isYaml clean settings.parse?_json
    exact value.trans (congrArg (Except.ok ∘ Datum.mapping) (ofFields_scalarJson settings.fields))

/-- Settings with an integer that is too long have no file. -/
theorem text_of_not_short (long : ¬ settings.Short) (path : Path) :
    settings.text path = .error ⟨⟩ := by
  have tooLong : (settings.integers.any fun value =>
      digitLimit < (Nat.toDigits 10 value).length) = true := by
    rw [List.any_eq_true]
    simpa [Short] using long
  unfold text
  rw [if_pos tooLong]

/-! ### The main result -/

/-- **Valid settings are loaded as they were saved**, by any path, if no integer among them has too
many digits. Those that have such an integer are not saved at all. -/
theorem saved_settings_load {settings : Settings} (valid : settings.Valid) (path : Path) :
    (settings.Short → ∃ text, settings.text path = .ok text ∧ ofText path text = .ok settings) ∧
    (¬ settings.Short → settings.text path = .error ⟨⟩) := by
  refine ⟨fun short => ?_, fun long => text_of_not_short long path⟩
  obtain ⟨text, saved, holds⟩ := readDatum_text short path
  refine ⟨text, saved, ?_⟩
  unfold ofText
  rw [holds, ok_bind, ofDatum_of_names path (.mapping settings.entries), ofEntries?_entries valid]
  rfl

/-- A program whose name is no plain scalar, and a process that may run forever. -/
theorem saved_settings_load_endless :
    let settings : Settings :=
      { flowPath := "no: #\r\n \u2028", callTimeout := some (.infinite false) }
    settings.Valid ∧ ∃ text, settings.text (.ofText "a.d/c.yml") = .ok text ∧
      ofText (.ofText "a.d/c.yml") text = .ok settings := by
  intro settings
  have valid : settings.Valid := { usual_valid with
    flowPath := by decide
    callTimeout := by decide +kernel }
  have short : settings.Short := by decide
  exact ⟨valid, (saved_settings_load valid _).1 short⟩

/-- A power of ten has one digit more than its exponent says. -/
theorem not_short_power (exponent : Nat) : ¬ (Nat.toDigits 10 (10 ^ exponent)).length ≤ exponent := by
  intro short
  have small := digitsValue_lt (Nat.toDigits 10 (10 ^ exponent))
  rw [digitsValue_toDigits] at small
  exact absurd (Nat.pow_le_pow_right (by decide) short) (Nat.not_le.mpr small)

/-- **An integer with one digit too many keeps valid settings from being saved.** -/
theorem long_integer_unsaved :
    let settings : Settings := { maxRetries := 10 ^ digitLimit }
    settings.Valid ∧ ∀ path, settings.text path = .error ⟨⟩ := by
  intro settings
  have positive (exponent : Nat) : 1 ≤ 10 ^ exponent := Nat.one_le_pow _ _ (by decide)
  have valid : settings.Valid := ⟨usual_valid.flowPath, positive digitLimit,
    usual_valid.retryInterval, usual_valid.callTimeout, usual_valid.concurrency,
    usual_valid.statusNoticeDelay⟩
  have counted (retries : Nat) (short : ({ maxRetries := retries } : Settings).Short) :
      (Nat.toDigits 10 retries).length ≤ digitLimit := short retries List.mem_cons_self
  have long : ¬ settings.Short := fun short => not_short_power digitLimit (counted _ short)
  exact ⟨valid, text_of_not_short long⟩

end Settings

end TypeSchema
