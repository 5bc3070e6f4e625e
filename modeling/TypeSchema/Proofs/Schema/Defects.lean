/-
**The first defect decides.**

* `TypeNode.defect?`: the defect that a type has by itself, whatever stands inside it;
* `TypeNode.visited`: the positions of a tree from the outside in and from left to right, without
  the key types of indexers and without what stands below a defect;
* `DecidedBy`: the outcome that the first defect on the way leaves no choice about;
* `compile_decidedBy`: compilation has that outcome;
* `first_defect_decides`: **a type is compiled exactly if no visited position has a defect**, and
  otherwise the first position that has one says whether the type is rejected as one that no schema
  can describe, and why, or whether the tree was built wrongly. The schema of a type is that of its
  compilation, and is missing for the same reason.
-/

import TypeSchema.Proofs.Result
import TypeSchema.Proofs.TypeNode.Values
import TypeSchema.Schema.Compile

namespace TypeSchema

namespace TypeNode

/-! ### Positions -/

/-- The defect of a type by itself. -/
def defect? : TypeNode → Option Defect
  | primitive .void => some .undefinedType
  | object _ _ _ true => some .callSignature
  | object (_ :: _) _ (some _) false => some .mixedObject
  | generic name arguments =>
    if name = "Array" ∨ name = "$Exact" then
      if arguments.length = 1 then none else some (.argumentCount name arguments.length)
    else some (.unsupportedName name)
  | stray kind => some (.notAType kind)
  | _ => none

/-- The types directly inside a type, from left to right, key types left out. -/
def inside : TypeNode → List TypeNode
  | literal .. => []
  | primitive _ => []
  | nullable inner => [inner]
  | tuple elements => elements
  | union alternatives => alternatives
  | generic _ arguments => arguments
  | object properties _ indexer _ =>
    properties.map Property.type ++ indexer.toList.map Indexer.value
  | stray _ => []

theorem sizeOf_lt_of_mem_inside {type part : TypeNode} (member : part ∈ type.inside) :
    sizeOf part < sizeOf type := by
  cases type with
  | literal | primitive | stray => cases member
  | nullable inner =>
    rw [inside, List.mem_singleton] at member
    simp [member]
  | tuple parts | union parts | generic _ parts =>
    have := List.sizeOf_lt_of_mem (show part ∈ parts from member)
    simp only [tuple.sizeOf_spec, union.sizeOf_spec, generic.sizeOf_spec]
    omega
  | object properties exact indexer hasCallSignature =>
    rw [inside, List.mem_append, List.mem_map, List.mem_map] at member
    rw [object.sizeOf_spec]
    obtain ⟨property, among, rfl⟩ | ⟨⟨value, key⟩, among, rfl⟩ := member
    · have := List.sizeOf_lt_of_mem among
      have := property.sizeOf_type_lt
      omega
    · rw [Option.mem_toList] at among
      subst among
      simp only [Option.some.sizeOf_spec, Indexer.mk.sizeOf_spec]
      omega

/-- The positions of a tree in the order of the text; nothing below a defect is visited. -/
def visited (type : TypeNode) : List TypeNode :=
  if type.defect?.isSome then [type]
  else type :: type.inside.attach.flatMap fun part => part.1.visited
termination_by sizeOf type
decreasing_by exact sizeOf_lt_of_mem_inside part.2

theorem visited_eq (type : TypeNode) :
    type.visited =
      if type.defect?.isSome then [type] else type :: type.inside.flatMap visited := by
  rw [visited, List.flatMap_subtype (fun _ _ => rfl), List.unattach_attach]

/-- The defect of the first visited position that has one. -/
def firstDefect? (type : TypeNode) : Option Defect := type.visited.findSome? defect?

/-- The defect of the first visited position of several trees. -/
def firstAmong? : List TypeNode → Option Defect
  | [] => none
  | type :: rest => type.firstDefect?.or (firstAmong? rest)

theorem findSome?_flatMap_visited (types : List TypeNode) :
    (types.flatMap visited).findSome? defect? = firstAmong? types := by
  induction types with
  | nil => rfl
  | cons type rest ih =>
    rw [List.flatMap_cons, List.findSome?_append, ih]
    rfl

theorem firstDefect?_eq (type : TypeNode) :
    type.firstDefect? = type.defect?.or (firstAmong? type.inside) := by
  rw [firstDefect?, visited_eq]
  cases own : type.defect? with
  | some defect => simp [own]
  | none => simp [own, findSome?_flatMap_visited]

end TypeNode

/-! ### Outcomes -/

/-- What comes of a type whose first defect is this one. -/
def Defect.outcome {α : Type} (defect : Defect) : Except Defect (Compilation α) :=
  if defect.isMisuse then .error defect else .ok (.unsupported defect)

/-- An outcome is the one that the first defect decides, or a success if there is none. -/
def DecidedBy {α : Type} (first : Option Defect) (result : Except Defect (Compilation α)) :
    Prop :=
  match first with
  | none => ∃ made, result = .ok (.compiled made)
  | some defect => result = defect.outcome

namespace DecidedBy

variable {α β γ : Type}

theorem map {first : Option Defect} {result : Except Defect (Compilation α)} (make : α → β)
    (decided : DecidedBy first result) :
    DecidedBy first (do return (← result).map make) := by
  match first with
  | none =>
    obtain ⟨made, rfl⟩ := decided
    exact ⟨make made, rfl⟩
  | some defect =>
    rw [show result = defect.outcome from decided]
    unfold DecidedBy Defect.outcome
    by_cases misuse : defect.isMisuse = true
    · simp [misuse, bind, Except.bind]
    · simp [misuse, bind, Except.bind, pure, Except.pure, Compilation.map]

/-- A defect of the first thing keeps the second from being looked at. -/
theorem both {first second : Option Defect} {result : Except Defect (Compilation α)}
    {rest : Except Defect (Compilation β)} (make : α → β → γ) (here : DecidedBy first result)
    (there : DecidedBy second rest) :
    DecidedBy (first.or second) (compileBoth make result rest) := by
  match first with
  | none =>
    obtain ⟨made, rfl⟩ := here
    exact there.map (make made)
  | some defect =>
    rw [show result = defect.outcome from here]
    show _ = defect.outcome
    unfold compileBoth Defect.outcome
    by_cases misuse : defect.isMisuse = true
    · simp [misuse, bind, Except.bind]
    · simp [misuse, bind, Except.bind, pure, Except.pure]

end DecidedBy

/-! ### Compilation -/

theorem compileAll_decidedBy {types : List TypeNode}
    (each : ∀ type ∈ types, DecidedBy type.firstDefect? type.compile) :
    DecidedBy (TypeNode.firstAmong? types) (compileAll types) := by
  induction types with
  | nil => exact ⟨[], by rw [compileAll]⟩
  | cons type rest ih =>
    rw [List.forall_mem_cons] at each
    rw [compileAll]
    exact each.1.both List.cons (ih each.2)

theorem compileProperties_decidedBy {properties : List (Property TypeNode)}
    (each : ∀ property ∈ properties,
      DecidedBy property.type.firstDefect? property.type.compile) :
    DecidedBy (TypeNode.firstAmong? (properties.map Property.type))
      (compileProperties properties) := by
  induction properties with
  | nil => exact ⟨[], by rw [compileProperties]⟩
  | cons property rest ih =>
    obtain ⟨name, type, optional⟩ := property
    rw [List.forall_mem_cons] at each
    rw [compileProperties]
    exact each.1.both (fun schema more => (name, schema) :: more) (ih each.2)

namespace TypeNode

section Generic

variable {name : String} {arguments : List TypeNode}

/-- A named type that is not one of the two with one argument has a defect of its own. -/
theorem generic_of_improper
    (improper : ¬((name = "Array" ∨ name = "$Exact") ∧ arguments.length = 1)) :
    ∃ defect, (generic name arguments).defect? = some defect ∧
      (generic name arguments).compile = defect.outcome ∧
      (generic name arguments).schema = .error defect := by
  have notArray : ∀ element, name = "Array" → arguments = [element] → False := by
    rintro element rfl rfl
    exact improper ⟨.inl rfl, rfl⟩
  have notExact : ∀ inner, name = "$Exact" → arguments = [inner] → False := by
    rintro inner rfl rfl
    exact improper ⟨.inr rfl, rfl⟩
  have compiled : (generic name arguments).compile =
      if name = "Array" ∨ name = "$Exact" then .error (.argumentCount name arguments.length)
      else .ok (.unsupported (.unsupportedName name)) := by
    rw [compile]
    · exact notArray
    · exact notExact
  have missing : (generic name arguments).schema =
      if name = "Array" ∨ name = "$Exact" then .error (.argumentCount name arguments.length)
      else .error (.unsupportedName name) := by
    rw [schema]
    · exact notArray
    · exact notExact
  rw [compiled, missing, defect?]
  by_cases known : name = "Array" ∨ name = "$Exact"
  · have several : arguments.length ≠ 1 := fun single => improper ⟨known, single⟩
    rw [if_pos known, if_pos known, if_pos known, if_neg several]
    exact ⟨_, rfl, rfl, rfl⟩
  · rw [if_neg known, if_neg known, if_neg known]
    exact ⟨_, rfl, rfl, rfl⟩

theorem compile_generic_decidedBy
    (each : ∀ type ∈ arguments, DecidedBy type.firstDefect? type.compile) :
    DecidedBy (generic name arguments).firstDefect? (generic name arguments).compile := by
  rw [firstDefect?_eq, inside]
  by_cases proper : (name = "Array" ∨ name = "$Exact") ∧ arguments.length = 1
  · obtain ⟨known, single⟩ := proper
    obtain ⟨argument, rfl⟩ := List.length_eq_one_iff.mp single
    have decided := each argument (List.mem_singleton_self argument)
    obtain rfl | rfl := known
    · simpa [defect?, firstAmong?, compile] using decided.map arraySchema
    · simpa [defect?, firstAmong?, compile] using decided.map exactSchema
  · obtain ⟨defect, own, outcome, -⟩ := generic_of_improper proper
    rw [own, outcome]
    rfl

end Generic

theorem compile_object_decidedBy (properties : List (Property TypeNode)) (exact : Bool)
    (indexer : Option (Indexer TypeNode)) (hasCallSignature : Bool)
    (ofProperties : ∀ property ∈ properties,
      DecidedBy property.type.firstDefect? property.type.compile)
    (ofIndexer : ∀ entry, indexer = some entry →
      DecidedBy entry.value.firstDefect? entry.value.compile) :
    DecidedBy (object properties exact indexer hasCallSignature).firstDefect?
      (object properties exact indexer hasCallSignature).compile := by
  rw [firstDefect?_eq, inside]
  match hasCallSignature, properties, indexer with
  | true, _, _ => simp [defect?, compile, DecidedBy, Defect.outcome, Defect.isMisuse]
  | false, _ :: _, some _ => simp [defect?, compile, DecidedBy, Defect.outcome, Defect.isMisuse]
  | false, [], some ⟨value, key⟩ =>
    simpa [defect?, firstAmong?, compile, compileIndexer] using
      (ofIndexer ⟨value, key⟩ rfl).map indexedSchema
  | false, properties, none =>
    have decided := (compileProperties_decidedBy ofProperties).map fun schemas =>
      objectSchema exact schemas
        ((properties.filter fun property => !property.optional).map Property.name)
    simpa [defect?, compile] using decided

/-- **Compilation has the outcome that the first visited defect decides.** -/
theorem compile_decidedBy (type : TypeNode) : DecidedBy type.firstDefect? type.compile := by
  induction type with
  | literal kind value =>
    rw [firstDefect?_eq, compile]
    exact ⟨_, rfl⟩
  | primitive kind =>
    rw [firstDefect?_eq]
    cases kind with
    | void => simp [defect?, compile, DecidedBy, Defect.outcome, Defect.isMisuse]
    | string | number | boolean | null | any | other =>
      simp [defect?, inside, firstAmong?, compile, DecidedBy]
  | nullable inner ih =>
    rw [firstDefect?_eq, compile]
    simpa [defect?, inside, firstAmong?] using
      ih.map fun schema => choiceSchema [.object (kindSchema .null), schema]
  | tuple elements ih =>
    rw [firstDefect?_eq, compile]
    exact (compileAll_decidedBy ih).map fun schemas => arraySchema (.array schemas)
  | union alternatives ih =>
    rw [firstDefect?_eq, compile]
    exact (compileAll_decidedBy ih).map choiceSchema
  | generic name arguments ih => exact compile_generic_decidedBy ih
  | object properties exact indexer hasCallSignature ofProperties ofIndexer =>
    exact compile_object_decidedBy properties exact indexer hasCallSignature ofProperties ofIndexer
  | stray kind =>
    rw [firstDefect?_eq, compile]
    rfl

end TypeNode

/-! ### The schema of a compilation -/

/-- What was compiled, or the failure to compile it. -/
def Compilation.get {α : Type} : Compilation α → Except Defect α
  | compiled made => .ok made
  | unsupported defect => .error defect

section Get

variable {α β γ : Type}

theorem Defect.outcome_get (defect : Defect) :
    (defect.outcome : Except Defect (Compilation α)) >>= Compilation.get = .error defect := by
  unfold outcome
  split <;> rfl

theorem map_get (make : α → β) (result : Except Defect (Compilation α)) :
    (do return (← result).map make) >>= Compilation.get =
      (do return make (← result >>= Compilation.get)) := by
  match result with
  | .error _ => rfl
  | .ok (.compiled _) => rfl
  | .ok (.unsupported _) => rfl

theorem compileBoth_get (make : α → β → γ) (first : Except Defect (Compilation α))
    (second : Except Defect (Compilation β)) :
    compileBoth make first second >>= Compilation.get = (do
      let made ← first >>= Compilation.get
      let more ← second >>= Compilation.get
      return make made more) := by
  match first with
  | .error _ => rfl
  | .ok (.compiled made) => exact map_get (make made) second
  | .ok (.unsupported _) => rfl

theorem get_eq_ok_iff {result : Except Defect (Compilation α)} {made : α} :
    result >>= Compilation.get = .ok made ↔ result = .ok (.compiled made) := by
  match result with
  | .error _ => simp [bind, Except.bind]
  | .ok (.compiled _) => simp [bind, Except.bind, Compilation.get]
  | .ok (.unsupported _) => simp [bind, Except.bind, Compilation.get]

namespace DecidedBy

variable {first : Option Defect} {result : Except Defect (Compilation α)}

theorem compiled_iff (decided : DecidedBy first result) :
    (∃ made, result = .ok (.compiled made)) ↔ first = none := by
  match first with
  | none => exact iff_of_true decided rfl
  | some defect =>
    rw [show result = defect.outcome from decided, Defect.outcome]
    split <;> simp

/-- What was compiled is missing, and not for a tree built wrongly, exactly if no schema can
describe the type. -/
theorem get_eq_error_iff {defect : Defect} (decided : DecidedBy first result) :
    result >>= Compilation.get = .error defect ∧ defect.isMisuse = false ↔
      result = .ok (.unsupported defect) := by
  match first with
  | none =>
    obtain ⟨made, rfl⟩ := decided
    simp [bind, Except.bind, Compilation.get]
  | some found =>
    rw [show result = found.outcome from decided, Defect.outcome_get, Defect.outcome]
    by_cases misuse : found.isMisuse = true
    · simp only [misuse, if_true, reduceCtorEq, iff_false, not_and, Except.error.injEq]
      rintro rfl
      simp [misuse]
    · rw [if_neg misuse, Except.error.injEq, Except.ok.injEq, Compilation.unsupported.injEq]
      constructor
      · exact And.left
      · rintro rfl
        exact ⟨rfl, Bool.not_eq_true _ ▸ misuse⟩

end DecidedBy

end Get

theorem schemas_eq_compileAll {types : List TypeNode}
    (each : ∀ type ∈ types, type.schema = type.compile >>= Compilation.get) :
    schemas types = compileAll types >>= Compilation.get := by
  induction types with
  | nil => rfl
  | cons type rest ih =>
    rw [List.forall_mem_cons] at each
    rw [schemas, compileAll, compileBoth_get, each.1, ih each.2]

theorem propertySchemas_eq_compileProperties {properties : List (Property TypeNode)}
    (each : ∀ property ∈ properties,
      property.type.schema = property.type.compile >>= Compilation.get) :
    propertySchemas properties = compileProperties properties >>= Compilation.get := by
  induction properties with
  | nil => rfl
  | cons property rest ih =>
    obtain ⟨name, type, optional⟩ := property
    rw [List.forall_mem_cons] at each
    rw [propertySchemas, compileProperties, compileBoth_get, ← each.1, ih each.2]

/-- The schema of a type is what it is compiled to. -/
theorem TypeNode.schema_eq_compile (type : TypeNode) :
    type.schema = type.compile >>= Compilation.get := by
  induction type with
  | literal kind value => rw [schema, compile]; rfl
  | primitive kind => cases kind with
    | void | string | number | boolean | null | any | other => rfl
  | nullable inner ih => rw [schema, compile, map_get, ih]
  | tuple elements ih => rw [schema, compile, map_get, schemas_eq_compileAll ih]
  | union alternatives ih => rw [schema, compile, map_get, schemas_eq_compileAll ih]
  | generic name arguments ih =>
    by_cases proper : (name = "Array" ∨ name = "$Exact") ∧ arguments.length = 1
    · obtain ⟨known, single⟩ := proper
      obtain ⟨argument, rfl⟩ := List.length_eq_one_iff.mp single
      have same := ih argument (List.mem_singleton_self argument)
      obtain rfl | rfl := known
      · rw [schema, compile, map_get, same]
      · rw [schema, compile, map_get, same]
    · obtain ⟨defect, -, outcome, missing⟩ := generic_of_improper proper
      rw [outcome, missing, Defect.outcome_get]
  | object properties exact indexer hasCallSignature ofProperties ofIndexer =>
    cases hasCallSignature with
    | true => rw [schema, compile]; rfl
    | false =>
      cases indexer with
      | none =>
        simp only [schema, compile]
        rw [map_get, propertySchemas_eq_compileProperties ofProperties]
      | some entry =>
        obtain ⟨value, key⟩ := entry
        cases properties with
        | nil =>
          rw [schema, compile, map_get, indexerSchema, compileIndexer, ofIndexer ⟨value, key⟩ rfl]
        | cons property rest => rw [schema, compile]; rfl
  | stray kind => rw [schema, compile]; rfl

/-- A type has the schema that it is compiled to. -/
theorem TypeNode.schema_eq_ok_iff {type : TypeNode} {schema : Json} :
    type.schema = .ok schema ↔ type.compile = .ok (.compiled schema) := by
  rw [type.schema_eq_compile]
  exact get_eq_ok_iff

/-! ### The main result -/

/-- **The first defect in the order of the text decides.** -/
theorem first_defect_decides (type : TypeNode) :
    ((∃ schema, type.compile = .ok (.compiled schema)) ↔
      ∀ position ∈ type.visited, position.defect? = none) ∧
    (∀ before position after defect, type.visited = before ++ position :: after →
      (∀ earlier ∈ before, earlier.defect? = none) → position.defect? = some defect →
      type.compile =
        if defect.isMisuse then .error defect else .ok (.unsupported defect)) ∧
    (∀ schema, type.schema = .ok schema ↔ type.compile = .ok (.compiled schema)) ∧
    ∀ defect, type.schema = .error defect ∧ defect.isMisuse = false ↔
      type.compile = .ok (.unsupported defect) := by
  have decided := type.compile_decidedBy
  refine ⟨?_, ?_, ?_, ?_⟩
  · rw [← List.findSome?_eq_none_iff]
    exact decided.compiled_iff
  · intro before position after defect split sound found
    have first : type.firstDefect? = some defect := by
      rw [TypeNode.firstDefect?, split, List.findSome?_append,
        List.findSome?_eq_none_iff.mpr sound, List.findSome?_cons, found]
      rfl
    rw [first] at decided
    exact decided
  · intro schema
    rw [type.schema_eq_compile]
    exact get_eq_ok_iff
  · intro defect
    rw [type.schema_eq_compile]
    exact decided.get_eq_error_iff

/-- Neither what stands below a wrong number of arguments nor what comes after it is looked at. -/
theorem wrong_arguments_before_void :
    let arguments : TypeNode := .generic "Array" [.stray .nothing, .primitive .void]
    (TypeNode.tuple [.nullable (.primitive .string), arguments, .primitive .void]).compile =
      .error (.argumentCount "Array" 2) := by
  intro arguments
  have visited :
      (TypeNode.tuple [.nullable (.primitive .string), arguments, .primitive .void]).visited =
        [.tuple [.nullable (.primitive .string), arguments, .primitive .void],
          .nullable (.primitive .string), .primitive .string] ++
          arguments :: [.primitive .void] := by
    simp [TypeNode.visited_eq, TypeNode.defect?, TypeNode.inside, arguments]
  have wrong : arguments.defect? = some (.argumentCount "Array" 2) := by
    simp [TypeNode.defect?, arguments]
  exact (first_defect_decides _).2.1 _ arguments _ _ visited (by simp [TypeNode.defect?]) wrong

end TypeSchema
