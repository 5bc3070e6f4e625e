/-
**The functions of a validator module.**

* `ValidatorFunction.Written`: the text of a function that passes a value on to the validators under
  the name of a type;
* `Registry.Runs`, `Registry.bound?`: when a module is run to its end, and the function that a name
  stands for then: of several with one normal form, the last;
* `functionSuffix_eq`: a dollar sign in an identifier becomes an underscore, and nothing else changes;
* `nodup_offeredNames`, `last_functionsOf`: which functions share a name, and which of them is left;
* `validators_defined`: **every type has its functions in the module, and keeps them exactly if the
  module runs and no other type has its name** up to dollar signs, underscores and normal forms;
* `dollar_shadowed`: where one has, a type is validated as another.
-/

import Mathlib.Data.List.Find
import TypeSchema.Generated.Validator
import TypeSchema.Proofs.Registry.Schemas
import TypeSchema.Proofs.Text.Blank
import TypeSchema.Proofs.Text.NormalForm

namespace TypeSchema

/-- What a function of a module does: it checks a value, or returns it if it is valid. -/
inductive Role where
  | check
  | assert
deriving DecidableEq

namespace Role

/-- The word before the name of a type in the name of a function. -/
def word : Role → String
  | check => "check"
  | assert => "assert"

/-- The method of the validators that a function calls. -/
def method : Role → String
  | check => "check"
  | assert => "assert_valid"

/-- What the function of a type is for. -/
def purpose (name : String) : Role → String
  | check => "Check whether \x60\x60value\x60\x60 is a valid " ++ name ++ "."
  | assert => "Return \x60\x60value\x60\x60 if it is a valid " ++ name ++
      "; raise ValidationError otherwise."

end Role

/-- A text that may stand between quotes as it is. -/
def Quotable (text : String) : Prop := ∀ c ∈ text.toList, c ≠ '"' ∧ c ≠ '\\' ∧ c ≠ '\x00'

instance (text : String) : Decidable (Quotable text) := List.decidableBAll _ _

/-- A function of a module: what it is for, the end of its name, and the name of the type with which
it calls the validators. -/
structure ValidatorFunction where
  role : Role
  suffix : String
  type : String
deriving DecidableEq

namespace ValidatorFunction

/-- The name of a function. -/
def identifier (function : ValidatorFunction) : String := function.role.word ++ function.suffix

/-- Whether the name of a function is one. It starts with a letter, so its other characters decide. -/
def Callable (function : ValidatorFunction) : Prop := ∀ c ∈ function.suffix.toList, mayCall c

instance (function : ValidatorFunction) : Decidable function.Callable := List.decidableBAll _ _

/-- The text of a function, with what it is for. -/
def text (function : ValidatorFunction) (purpose : String) : String :=
  "\n\ndef " ++ function.identifier ++ "(value, all_errors=False):\n" ++
    "    \"\"\"" ++ purpose ++ "\"\"\"\n" ++
    "    return VALIDATORS." ++ function.role.method ++ "(" ++ quote function.type ++
    ", value, all_errors=all_errors)\n"

/-- A function as it is written. What it is for does not end the quotes around it. -/
def Written (function : ValidatorFunction) (text : String) : Prop :=
  ∃ purpose, Quotable purpose ∧ text = function.text purpose

end ValidatorFunction

/-- The function of a type. -/
def functionOf (role : Role) (name : String) : ValidatorFunction := ⟨role, functionSuffix name, name⟩

@[simp]
theorem identifier_functionOf (role : Role) (name : String) :
    (functionOf role name).identifier = role.word ++ functionSuffix name := rfl

/-- The functions of some types, in the order of their definitions. -/
def functionsOf (names : List String) : List ValidatorFunction :=
  names.flatMap fun name => [functionOf .check name, functionOf .assert name]

/-- The last of some functions with a name. Names with one normal form are one. -/
def last? (functions : List ValidatorFunction) (identifier : String) : Option ValidatorFunction :=
  functions.reverse.find? fun function => normalForm function.identifier = normalForm identifier

namespace Registry

/-- The module of a registry is run to its end: all numbers of its schemas are finite, as any other one
is written as a name that stands for nothing, and all functions have names. -/
def Runs (registry : Registry) : Prop :=
  registry.AllFinite ∧ ∀ function ∈ functionsOf registry.names, function.Callable

instance (registry : Registry) : Decidable registry.Runs := inferInstanceAs (Decidable (_ ∧ _))

/-- The function that a name stands for in the module of a registry: none if the module cannot be
run, and otherwise the last definition, which takes the place of earlier ones. -/
def bound? (registry : Registry) (identifier : String) : Option ValidatorFunction :=
  if registry.Runs then last? (functionsOf registry.names) identifier else none

end Registry

/-- A name with an underscore for every dollar sign. -/
def underscored (name : String) : String :=
  String.ofList (name.toList.map fun c => if c = '$' then '_' else c)

variable {name other : String} {names : List String} {role role' : Role}

/-! ### Names of functions -/

/-- **A dollar sign becomes an underscore.** -/
theorem functionSuffix_eq (isIdentifier : IsIdentifier name.toList) :
    functionSuffix name = underscored name := by
  rw [functionSuffix, underscored]
  refine congrArg String.ofList (List.map_congr_left fun c member => ?_)
  have isPart := isIdentifier.parts c member
  rw [isIdentifierPart, Bool.or_eq_true, beq_iff_eq] at isPart
  rcases isPart with word | rfl
  · rw [if_pos word, if_neg]
    rintro rfl
    cases word
  · rfl

theorem identifier_eq_iff {suffix suffix' : String} :
    role.word ++ suffix = role'.word ++ suffix' ↔ role = role' ∧ suffix = suffix' := by
  cases role <;> cases role' <;> simp [← String.toList_inj, Role.word]

/-- The check functions share no name with the assert functions. -/
theorem normalForm_word_append_iff {suffix suffix' : String} :
    normalForm (role.word ++ suffix) = normalForm (role'.word ++ suffix') ↔
      role = role' ∧ normalForm suffix = normalForm suffix' := by
  have ascii (role : Role) : ∀ c ∈ role.word.toList, c.toNat < 0x80 :=
    forall_mem_of_all (by cases role <;> decide)
  rw [normalForm_append (ascii role), normalForm_append (ascii role')]
  cases role <;> cases role' <;> simp [Role.word]

/-- The functions of types have names if the characters of the types may stand in them. -/
theorem callable_functionsOf (identifiers : ∀ name ∈ names, IsIdentifier name.toList) :
    (∀ function ∈ functionsOf names, function.Callable) ↔
      ∀ name ∈ names, ∀ c ∈ name.toList, c = '$' ∨ mayCall c := by
  have own {name : String} (isIdentifier : IsIdentifier name.toList) (role : Role) :
      (functionOf role name).Callable ↔ ∀ c ∈ name.toList, c = '$' ∨ mayCall c := by
    rw [ValidatorFunction.Callable, functionOf, functionSuffix_eq isIdentifier, underscored,
      String.toList_ofList, List.forall_mem_map]
    refine forall₂_congr fun c _ => ?_
    by_cases dollar : c = '$'
    · simp only [dollar, true_or, iff_true]
      decide
    · simp [dollar]
  rw [functionsOf, List.forall_mem_flatMap]
  refine forall₂_congr fun name member => ?_
  rw [List.forall_mem_cons, List.forall_mem_singleton, own (identifiers name member),
    own (identifiers name member), and_self]

/-- The names that a module offers are those that every module has, and those of its functions. -/
theorem offeredNames_eq (names : List String) : offeredNames names =
    ["ValidationError", "VALIDATORS"] ++ (functionsOf names).map ValidatorFunction.identifier := by
  rw [offeredNames, functionsOf, List.map_flatMap]
  rfl

theorem nodup_identifiers : ((functionsOf names).map ValidatorFunction.identifier).Nodup ↔
    (names.map functionSuffix).Nodup := by
  have own (name : String) : ([functionOf .check name, functionOf .assert name].map
      ValidatorFunction.identifier).Nodup := by
    simp [Role.word, ← String.toList_inj]
  rw [functionsOf, List.map_flatMap, List.nodup_flatMap, List.Nodup, List.pairwise_map]
  constructor
  · rintro ⟨-, apart⟩
    refine apart.imp fun {name other} disjoint same => ?_
    refine disjoint (a := Role.check.word ++ functionSuffix name) ?_ ?_
    · simp
    · simp [same]
  · intro distinct
    refine ⟨fun name _ => own name, distinct.imp fun {name other} differ => ?_⟩
    simp [Function.onFun, identifier_eq_iff, Ne.symm differ]

/-- **Names that a module offers are distinct** if the suffixes of its functions are. -/
theorem nodup_offeredNames :
    (offeredNames names).Nodup ↔ (names.map functionSuffix).Nodup := by
  have apart : ∀ offered ∈ ["ValidationError", "VALIDATORS"],
      ∀ function ∈ functionsOf names, function.identifier ≠ offered := by
    rintro offered isOffered function member rfl
    obtain ⟨name, -, isFunction⟩ := List.mem_flatMap.mp member
    simp only [List.mem_cons, List.not_mem_nil, or_false] at isFunction
    rcases isFunction with rfl | rfl <;>
      simp [Role.word, ← String.toList_inj] at isOffered
  rw [offeredNames_eq, ← nodup_identifiers, List.nodup_append]
  refine ⟨fun distinct => distinct.2.1, fun distinct => ⟨by decide, distinct, ?_⟩⟩
  rintro offered isOffered _ inFunctions rfl
  obtain ⟨function, member, same⟩ := List.mem_map.mp inFunctions
  exact apart offered isOffered function member same

/-- **The last type with a suffix** has the functions of that suffix. -/
theorem last_functionsOf (names : List String) (role : Role) (suffix : String) :
    last? (functionsOf names) (role.word ++ suffix) =
      (names.reverse.find? fun name => normalForm (functionSuffix name) = normalForm suffix).map
        (functionOf role) := by
  induction names using List.reverseRecOn with
  | nil => rfl
  | append_singleton earlier last ih =>
    have split : functionsOf (earlier ++ [last]) =
        functionsOf earlier ++ [functionOf .check last, functionOf .assert last] := by
      simp [functionsOf]
    rw [last?] at ih
    rw [last?, split, List.reverse_append, List.reverse_append, List.find?_append,
      List.find?_append, ih]
    by_cases found : normalForm (functionSuffix last) = normalForm suffix
    · cases role <;> simp [normalForm_word_append_iff, found]
    · cases role <;> simp [normalForm_word_append_iff, found]

/-- A type keeps its function if no other one has its suffix. -/
theorem last_of_nodup (distinct : (names.map (normalForm ∘ functionSuffix)).Nodup)
    (member : name ∈ names) (role : Role) :
    last? (functionsOf names) (functionOf role name).identifier = some (functionOf role name) := by
  have isLast := last_functionsOf names role (functionSuffix name)
  cases found : names.reverse.find? fun other =>
      normalForm (functionSuffix other) = normalForm (functionSuffix name) with
  | none =>
    have none := List.find?_eq_none.mp found name (List.mem_reverse.mpr member)
    simp at none
  | some other =>
    have inside := List.mem_reverse.mp (List.mem_of_find?_eq_some found)
    have same : (normalForm ∘ functionSuffix) other = (normalForm ∘ functionSuffix) name := by
      simpa using List.find?_some found
    rw [found, List.inj_on_of_nodup_map distinct inside member same, Option.map_some] at isLast
    exact isLast

/-- Types that keep their functions have suffixes of their own. -/
theorem nodup_of_last (once : names.Nodup) (role : Role) (kept : ∀ name ∈ names,
    last? (functionsOf names) (functionOf role name).identifier = some (functionOf role name)) :
    (names.map (normalForm ∘ functionSuffix)).Nodup := by
  refine once.map_on fun name member other isOther same => ?_
  have first := (last_functionsOf names role (functionSuffix name)).symm.trans (kept name member)
  have second := (last_functionsOf names role (functionSuffix other)).symm.trans (kept other isOther)
  rw [Function.comp_apply, Function.comp_apply] at same
  rw [same, second] at first
  exact (congrArg ValidatorFunction.type (Option.some.inj first)).symm

/-! ### The text of the functions -/

theorem validatorFunctions_eq (name : String) : validatorFunctions name =
    (functionOf .check name).text (Role.check.purpose name) ++
      (functionOf .assert name).text (Role.assert.purpose name) := by
  -- The literals of the module, cut where a function has parts of its own.
  have heads : "\n\ndef check" = "\n\ndef " ++ "check" ∧
      "\n\ndef assert" = "\n\ndef " ++ "assert" := ⟨rfl, rfl⟩
  have starts : "    \"\"\"Check whether \x60\x60value\x60\x60 is a valid " =
        "    \"\"\"" ++ "Check whether \x60\x60value\x60\x60 is a valid " ∧
      "    \"\"\"Return \x60\x60value\x60\x60 if it is a valid " =
        "    \"\"\"" ++ "Return \x60\x60value\x60\x60 if it is a valid " := ⟨rfl, rfl⟩
  have ends : ".\"\"\"\n" = "." ++ "\"\"\"\n" ∧
      "; raise ValidationError otherwise.\"\"\"\n" =
        "; raise ValidationError otherwise." ++ "\"\"\"\n" := ⟨rfl, rfl⟩
  have calls : "    return VALIDATORS.check(" = "    return VALIDATORS." ++ ("check" ++ "(") ∧
      "    return VALIDATORS.assert_valid(" = "    return VALIDATORS." ++ ("assert_valid" ++ "(") :=
    ⟨rfl, rfl⟩
  unfold validatorFunctions ValidatorFunction.text ValidatorFunction.identifier functionOf
  dsimp only [Role.word, Role.method, Role.purpose]
  simp only [heads.1, heads.2, starts.1, starts.2, ends.1, ends.2, calls.1, calls.2,
    String.append_assoc]

theorem Quotable.append {front back : String} (first : Quotable front) (second : Quotable back) :
    Quotable (front ++ back) := by
  intro c member
  rw [String.toList_append, List.mem_append] at member
  exact member.elim (first c) (second c)

/-- An identifier may stand between quotes. -/
theorem quotable_of_isIdentifier (isIdentifier : IsIdentifier name.toList) : Quotable name := by
  intro c member
  have isPart := isIdentifier.parts c member
  refine ⟨?_, ?_, ?_⟩ <;> rintro rfl <;> exact absurd isPart (by decide)

theorem written_functionOf (isIdentifier : IsIdentifier name.toList) (role : Role) :
    (functionOf role name).Written ((functionOf role name).text (role.purpose name)) := by
  have isName := quotable_of_isIdentifier isIdentifier
  refine ⟨role.purpose name, ?_, rfl⟩
  cases role with
  | check => exact (Quotable.append (by decide) isName).append (by decide)
  | assert => exact (Quotable.append (by decide) isName).append (by decide)

/-- **The functions of types are written** one behind the other. -/
theorem written_functionsOf (identifiers : ∀ name ∈ names, IsIdentifier name.toList) :
    ∃ texts, List.Forall₂ ValidatorFunction.Written (functionsOf names) texts ∧
      String.join (names.map validatorFunctions) = String.join texts := by
  induction names with
  | nil => exact ⟨[], .nil, rfl⟩
  | cons name rest ih =>
    obtain ⟨isIdentifier, later⟩ := List.forall_mem_cons.mp identifiers
    obtain ⟨texts, written, same⟩ := ih later
    refine ⟨_, .cons (written_functionOf isIdentifier .check)
      (.cons (written_functionOf isIdentifier .assert) written), ?_⟩
    rw [List.map_cons, String.join_cons, String.join_cons, String.join_cons, same,
      validatorFunctions_eq, String.append_assoc]

/-! ### Modules -/

section

variable {registry : Registry} {entry : TypeEntry}

/-- The schema of an entry stands under its name. -/
theorem lookup_schemas (distinct : registry.taken.Nodup) (member : entry ∈ registry.added) :
    registry.schemas.lookup entry.name = some entry.schema := by
  have keys : (registry.schemas.map Prod.fst).Nodup := by
    rw [Registry.map_fst_schemas distinct]
    exact (Registry.perm_names registry).nodup_iff.mpr distinct
  have isName : entry.name ∈ registry.names :=
    (Registry.perm_names registry).mem_iff.mpr (List.mem_map_of_mem member)
  have inEntries : entry ∈ registry.entries :=
    List.mem_filterMap.mpr ⟨entry.name, isName,
      (Registry.get?_eq_some_iff distinct).mpr ⟨member, rfl⟩⟩
  exact (mem_iff_lookup keys _ _).mp (List.mem_map_of_mem inEntries)

/-- The header of a module is one text in quotes, with an import behind it. -/
theorem moduleHeader_eq {path : String} (quotable : Quotable path) :
    ∃ about, Quotable about ∧ moduleHeader path = "\"\"\"" ++ about ++ "\"\"\"\n\n" ++
      "from flow_jsonschema.runtime import ValidationError, ValidatorCache\n\n" := by
  refine ⟨"Validators generated by flow-jsonschema from " ++ path ++ ".\n\nDO NOT EDIT.\n",
    (Quotable.append (by decide +kernel) quotable).append (by decide +kernel), ?_⟩
  -- The literals of the header, cut where its quotes stand.
  have start : "\"\"\"Validators generated by flow-jsonschema from " =
      "\"\"\"" ++ "Validators generated by flow-jsonschema from " := rfl
  have about : ".\n\nDO NOT EDIT.\n" = ".\n" ++ ("\n" ++ "DO NOT EDIT.\n") := rfl
  have quotes : "\"\"\"\n\n" = "\"\"\"\n" ++ "\n" := rfl
  have library : "from flow_jsonschema.runtime import ValidationError, ValidatorCache\n\n" =
      "from flow_jsonschema.runtime import ValidationError, ValidatorCache\n" ++ "\n" := rfl
  unfold moduleHeader
  simp only [start, about, quotes, library, String.append_assoc]

namespace Registry

/-- The module of no types runs. -/
theorem runs_of_added_eq_nil (none : registry.added = []) : registry.Runs := by
  have names : registry.names = [] :=
    List.perm_nil.mp ((perm_names registry).trans (by rw [taken, none, List.map_nil]))
  rw [Runs, AllFinite, none, names]
  exact ⟨List.forall_mem_nil _, List.forall_mem_nil _⟩

/-- **Types keep their functions** exactly if the module runs and the suffixes are distinct. -/
theorem bound_iff (distinct : registry.taken.Nodup) :
    (∀ entry ∈ registry.added, ∀ role : Role,
      registry.bound? (functionOf role entry.name).identifier = some (functionOf role entry.name)) ↔
      registry.Runs ∧ (registry.names.map (normalForm ∘ functionSuffix)).Nodup := by
  have perm := perm_names registry
  constructor
  · intro kept
    have runs : registry.Runs := by
      cases added : registry.added with
      | nil => exact runs_of_added_eq_nil added
      | cons entry rest =>
        by_contra refused
        have first := kept entry (added ▸ List.mem_cons_self) .check
        rw [bound?, if_neg refused] at first
        cases first
    refine ⟨runs, nodup_of_last (perm.nodup_iff.mpr distinct) .check fun name member => ?_⟩
    obtain ⟨entry, inAdded, rfl⟩ := List.mem_map.mp (perm.mem_iff.mp member)
    rw [← kept entry inAdded .check, bound?, if_pos runs]
  · rintro ⟨runs, apart⟩ entry member role
    rw [bound?, if_pos runs]
    exact last_of_nodup apart (perm.mem_iff.mpr (List.mem_map_of_mem member)) role

end Registry

/-- **Every type has its functions, and keeps them exactly if the module runs and no other type has
its name.** Let the names of a registry be distinct identifiers, and the path of the source one that
may stand between quotes. The module starts with a text in quotes, an import, the sources and the
schemas. Then it defines a check and an assert function for each name in order, each of which calls
the validators with that name, under which the schema of its entry stands; they are called `check`
and `assert` with the name in which every dollar sign is an underscore. If the module runs, the last
definition of a name counts. The names that it offers are distinct exactly if the types differ in
more than dollar signs and underscores. It runs, and no definition takes the place of another one,
exactly if all numbers of the schemas are finite, the characters of all types may stand in names, and
the normal forms of the types differ in more than dollar signs and underscores. -/
theorem validators_defined (distinct : registry.taken.Nodup)
    (identifiers : ∀ name ∈ registry.taken, IsIdentifier name.toList) {source : String}
    (quotable : Quotable (normalPath source)) :
    (∃ about texts, Quotable about ∧
      List.Forall₂ ValidatorFunction.Written (functionsOf registry.names) texts ∧
      registry.validatorModule source =
        "\"\"\"" ++ about ++ "\"\"\"\n\n" ++
          "from flow_jsonschema.runtime import ValidationError, ValidatorCache\n\n" ++
          "FLOW_SOURCE = " ++ textBlock registry.sourceText ++ "\n\n" ++
          "SCHEMAS = " ++ registry.schemaLiteral ++ "\n\n" ++
          "VALIDATORS = ValidatorCache(SCHEMAS)\n" ++ String.join texts ++
          "\n\n__all__ = [\n" ++ "\n".intercalate
            ((offeredNames registry.names).map fun name => "    " ++ quote name ++ ",") ++
          "\n]\n") ∧
    (∀ entry ∈ registry.added, ∀ role : Role,
      functionOf role entry.name ∈ functionsOf registry.names ∧
      (functionOf role entry.name).identifier = role.word ++ underscored entry.name ∧
      registry.schemas.lookup (functionOf role entry.name).type = some entry.schema ∧
      registry.bound? (functionOf role entry.name).identifier =
        if registry.Runs then
          (registry.names.reverse.find? fun name =>
            normalForm (underscored name) = normalForm (underscored entry.name)).map
              (functionOf role)
        else none) ∧
    ((offeredNames registry.names).Nodup ↔ (registry.names.map underscored).Nodup) ∧
    ((∀ entry ∈ registry.added, ∀ role : Role,
      registry.bound? (functionOf role entry.name).identifier = some (functionOf role entry.name)) ↔
        registry.AllFinite ∧
        (∀ name ∈ registry.names, ∀ c ∈ name.toList, c = '$' ∨ mayCall c) ∧
        (registry.names.map (normalForm ∘ underscored)).Nodup) := by
  have perm := Registry.perm_names registry
  have identifiers' : ∀ name ∈ registry.names, IsIdentifier name.toList := fun name member =>
    identifiers name (perm.mem_iff.mp member)
  have suffix : ∀ name ∈ registry.names, functionSuffix name = underscored name :=
    fun name member => functionSuffix_eq (identifiers' name member)
  have isName {entry : TypeEntry} (member : entry ∈ registry.added) : entry.name ∈ registry.names :=
    perm.mem_iff.mpr (List.mem_map_of_mem member)
  refine ⟨?_, fun entry member role => ⟨?_, ?_, lookup_schemas distinct member, ?_⟩, ?_, ?_⟩
  · obtain ⟨texts, written, same⟩ := written_functionsOf identifiers'
    obtain ⟨about, isAbout, header⟩ := moduleHeader_eq quotable
    refine ⟨about, texts, isAbout, written, ?_⟩
    rw [← same, ← header, Registry.validatorModule]
  · refine List.mem_flatMap.mpr ⟨entry.name, isName member, ?_⟩
    cases role <;> simp
  · exact congrArg (role.word ++ ·) (suffix _ (isName member))
  · have named : (registry.names.reverse.find? fun name =>
        normalForm (functionSuffix name) = normalForm (functionSuffix entry.name)) =
        registry.names.reverse.find? fun name =>
          normalForm (underscored name) = normalForm (underscored entry.name) := by
      refine List.find?_congr fun name inNames => ?_
      rw [suffix _ (List.mem_reverse.mp inNames), suffix _ (isName member)]
    rw [← named, ← last_functionsOf]
    rfl
  · rw [nodup_offeredNames, List.map_congr_left suffix]
  · have forms : registry.names.map (normalForm ∘ functionSuffix) =
        registry.names.map (normalForm ∘ underscored) :=
      List.map_congr_left fun name member => by
        rw [Function.comp_apply, Function.comp_apply, suffix name member]
    rw [Registry.bound_iff distinct, forms, Registry.Runs, callable_functionsOf identifiers',
      and_assoc]

end

/-- Two types with strings and numbers as their values. -/
def pairRegistry (first second : String) : Registry :=
  ⟨[⟨first, "e.js", s!"export type {first} = string;", .object (kindSchema .string)⟩,
    ⟨second, "e.js", s!"export type {second} = number;", .object (kindSchema .number)⟩]⟩

theorem names_pairRegistry {first second : String} (inOrder : first ≤ second) :
    (pairRegistry first second).names = [first, second] :=
  List.mergeSort_of_pairwise (List.pairwise_pair.mpr (decide_eq_true inOrder))

theorem isIdentifier_dollar : IsIdentifier "$A".toList ∧ IsIdentifier "A$".toList ∧
    IsIdentifier "A_".toList :=
  ⟨⟨'$', ['A'], rfl, rfl, forall_mem_of_all (by decide)⟩,
    ⟨'A', ['$'], rfl, rfl, forall_mem_of_all (by decide)⟩,
    ⟨'A', ['_'], rfl, rfl, forall_mem_of_all (by decide)⟩⟩

theorem validators_defined_pair :
    (offeredNames (pairRegistry "$A" "A_").names).Nodup ∧
    (pairRegistry "$A" "A_").bound? "check_A" = some (functionOf .check "$A") ∧
    (pairRegistry "$A" "A_").bound? "assertA_" = some (functionOf .assert "A_") := by
  obtain ⟨before, -, behind⟩ := isIdentifier_dollar
  obtain ⟨-, -, offered, bound⟩ := @validators_defined (pairRegistry "$A" "A_") (by decide)
    (List.forall_mem_cons.mpr ⟨before, List.forall_mem_singleton.mpr behind⟩) "e.js"
    (by decide +kernel)
  have names := @names_pairRegistry "$A" "A_" (by decide)
  rw [names] at offered bound ⊢
  have parts : ∀ name ∈ ["$A", "A_"], ∀ c ∈ name.toList, c = '$' ∨ mayCall c := by
    refine List.forall_mem_cons.mpr ⟨?_, List.forall_mem_singleton.mpr ?_⟩ <;>
      exact forall_mem_of_all (by decide +kernel)
  have kept := bound.mpr ⟨by decide +kernel, parts, by decide +kernel⟩
  exact ⟨offered.mpr (by decide +kernel), kept _ List.mem_cons_self .check,
    kept _ (List.mem_cons_of_mem _ List.mem_cons_self) .assert⟩

/-- A raised two is a word character, but no function has it in its name. -/
example : ¬ (pairRegistry "A" "A\u00b2").Runs := by
  rw [Registry.Runs, names_pairRegistry (by decide)]
  exact fun runs => absurd runs.2 (by decide +kernel)

/-- **A type is validated as another** whose name has an underscore in the place of its dollar sign:
the check function of both is that of the other one. -/
theorem dollar_shadowed :
    (pairRegistry "A$" "A_").taken.Nodup ∧
    (∀ name ∈ (pairRegistry "A$" "A_").taken, IsIdentifier name.toList) ∧
    ¬ (offeredNames (pairRegistry "A$" "A_").names).Nodup ∧
    (pairRegistry "A$" "A_").bound? (functionOf .check "A$").identifier =
      some (functionOf .check "A_") ∧
    (pairRegistry "A$" "A_").schemas.lookup "A$" ≠ (pairRegistry "A$" "A_").schemas.lookup "A_" := by
  obtain ⟨-, first, second⟩ := isIdentifier_dollar
  have distinct : (pairRegistry "A$" "A_").taken.Nodup := by decide
  have string := lookup_schemas distinct List.mem_cons_self
  have number := lookup_schemas distinct (List.mem_cons_of_mem _ List.mem_cons_self)
  have names := @names_pairRegistry "A$" "A_" (by decide)
  have runs : (pairRegistry "A$" "A_").Runs := by
    rw [Registry.Runs, names]
    decide +kernel
  refine ⟨distinct, List.forall_mem_cons.mpr ⟨first, List.forall_mem_singleton.mpr second⟩,
    ?_, ?_, fun same => ?_⟩
  · rw [names]
    decide +kernel
  · rw [Registry.bound?, if_pos runs, names]
    decide +kernel
  · have kinds := string.symm.trans (same.trans number)
    simp [kindSchema, Kind.name] at kinds

end TypeSchema
