/-
**Type parameters of alias statements.**

* `TypeNode.ofText_trim`: white space around a text does not change its type;
* `Composes`: a property of texts that type parameters have if their bounds and defaults have it;
* `skipped_parametersText`: **the search for the equals sign passes over type parameters** without
  angle brackets in the string literals of their bounds and defaults;
* `sign_of_ok`: **in an accepted statement the equals sign is found where it stands**;
* `parameters_ignored_iff`: type parameters are ignored in every statement that is accepted, and it
  is accepted exactly if the search passes over them;
* `bracket_in_bound`: an angle bracket in a string literal of a bound hides the equals sign.
-/

import TypeSchema.Proofs.TypeExpr.AngleBrackets
import TypeSchema.Proofs.TypeExpr.Places
import TypeSchema.Proofs.TypeExpr.Quotes
import TypeSchema.Proofs.TypeExpr.Splitting

namespace TypeSchema

variable {c : Char} {text other rest front side name parameters : List Char} {token : Token}
  {tokens : List Token} {node : TypeNode} {path : Option String} {start : Position}

/-! ### White space around a type -/

theorem tokens_trimStart (isTokens : Tokens text tokens) : Tokens (trimStart text) tokens := by
  induction isTokens with
  | nil => exact .nil
  | @space c rest _ space _ ih =>
    have gap : AllBlank [c] := List.forall_mem_singleton.mpr (isBlank_of_isTokenSpace space)
    rwa [← List.singleton_append, trimStart_gap gap]
  | @token text token _ longest more =>
    obtain ⟨⟨c, others, shown, same, -, visible⟩, -⟩ := longest.1.1.shape.ends
    obtain ⟨back, rfl⟩ := longest.1.2
    have whole := Tokens.token longest more
    rwa [same, List.cons_append, trimStart_visible visible, ← List.cons_append, ← same]

theorem tokens_trimEnd (isTokens : Tokens text tokens) : Tokens (trimEnd text) tokens := by
  induction isTokens with
  | nil => exact .nil
  | @space c rest _ space _ ih =>
    by_cases nothing : trimEnd rest = []
    · have gap : AllBlank (c :: rest) := List.forall_mem_cons.mpr
        ⟨isBlank_of_isTokenSpace space, allBlank_of_trimEnd nothing⟩
      rw [trimEnd_blank gap]
      rwa [nothing] at ih
    · rw [← List.singleton_append, trimEnd_append nothing]
      exact .space space ih
  | @token text token _ longest _ ih =>
    obtain ⟨-, c, head, shown, same, -, visible⟩ := longest.1.1.shape.ends
    obtain ⟨back, rfl⟩ := longest.1.2
    rw [List.drop_left] at ih
    have ends : trimEnd (token.lexeme ++ back) = token.lexeme ++ trimEnd back := by
      by_cases nothing : trimEnd back = []
      · rw [trimEnd_gap (allBlank_of_trimEnd nothing), nothing, List.append_nil, same,
          trimEnd_visible visible]
      · exact trimEnd_append nothing
    have inside : token.lexeme ++ trimEnd back <+: token.lexeme ++ back := by
      obtain ⟨gap, -, isBack, -⟩ := exists_trimEnd back
      conv_rhs => rw [isBack]
      rw [← List.append_assoc]
      exact List.prefix_append ..
    rw [ends]
    refine .token (longest.of_prefix (List.prefix_append ..) inside) ?_
    rwa [List.drop_left]

/-- **White space around a text** does not change its type. -/
theorem TypeNode.ofText_trim (accepted : TypeNode.ofText side path start = .ok node) :
    TypeNode.ofText (trim side) path start = .ok node := by
  obtain ⟨tokens, tree, isTokens, whole⟩ := accepted_iff.mp accepted
  exact accepted_iff.mpr ⟨tokens, tree, tokens_trimEnd (tokens_trimStart isTokens), whole⟩

/-! ### Statements with type parameters -/

/-- A type parameter: its sign, its name, its bound and its default. -/
structure TypeParameter where
  sign : Option Char
  name : List Char
  bound : Option (List Char)
  preset : Option (List Char)

namespace TypeParameter

/-- How a type parameter is written. -/
def written (parameter : TypeParameter) : List Char :=
  parameter.sign.toList ++ (parameter.name ++
    ((parameter.bound.elim [] (": ".toList ++ ·)) ++ parameter.preset.elim [] (" = ".toList ++ ·)))

/-- A type parameter has a name; its sign is one, and its bound and its default are types. -/
structure WellFormed (parameter : TypeParameter) : Prop where
  sign : ∀ c, parameter.sign = some c → c = '+' ∨ c = '-'
  name : IsIdentifier parameter.name
  types : ∀ type, parameter.bound = some type ∨ parameter.preset = some type →
    ∃ node, TypeNode.ofText type none .first = .ok node

/-- No angle bracket stands in a string literal of the bound or of the default. -/
def NoQuotedAngles (parameter : TypeParameter) : Prop :=
  ∀ type, parameter.bound = some type ∨ parameter.preset = some type →
    TypeSchema.NoQuotedAngles type

end TypeParameter

/-- A list of type parameters in angle brackets, or nothing. -/
def parametersText : List TypeParameter → List Char
  | [] => []
  | first :: others => '<' ::
    (List.intercalate ", ".toList ((first :: others).map TypeParameter.written) ++ ['>'])

/-- What stands in front of the equals sign of a statement, without the type parameters. -/
def statementHead (declared exported : Bool) (name : List Char) : List Char :=
  (if declared then "declare ".toList else []) ++
    ((if exported then "export ".toList else []) ++ ("type ".toList ++ name))

/-- An alias statement with type parameters. -/
def statementText (declared exported : Bool) (name parameters side : List Char) : List Char :=
  statementHead declared exported name ++ (parameters ++ (" = ".toList ++ (side ++ [';'])))

/-- The search for the equals sign passes over a text. -/
def Skipped (text : List Char) : Prop :=
  rightSide? none 0 0 text = none ∧ bracketDepth none 0 text = 0

instance (text : List Char) : Decidable (Skipped text) := inferInstanceAs (Decidable (_ ∧ _))

/-! ### Texts in parts -/

/-- A quote, an angle bracket or a backslash. -/
def isMarkChar (c : Char) : Bool := c ∈ ['"', '\'', '<', '>', '\\']

/-- A text without such characters that does not end in an equals sign. -/
def Unmarked (text : List Char) : Prop :=
  (text.all fun c => !isMarkChar c) ∧ text.getLast? ≠ some '='

instance (text : List Char) : Decidable (Unmarked text) := inferInstanceAs (Decidable (_ ∧ _))

theorem Unmarked.ne {d : Char} (unmarked : Unmarked text) (member : c ∈ text)
    (isMark : isMarkChar d) : c ≠ d := by
  rintro rfl
  have noMark := List.all_eq_true.mp unmarked.1 c member
  rw [isMark] at noMark
  cases noMark

theorem unmarked_of_isIdentifier (isIdentifier : IsIdentifier name) : Unmarked name := by
  have each {d : Char} (member : d ∈ name) {sign : Char} (noPart : isIdentifierPart sign = false) :
      d ≠ sign := by
    rintro rfl
    rw [isIdentifier.parts d member] at noPart
    cases noPart
  refine ⟨List.all_eq_true.mpr fun d member => ?_, fun last => ?_⟩
  · have noPart : ∀ sign ∈ ['"', '\'', '<', '>', '\\'], isIdentifierPart sign = false :=
      forall_mem_of_all (by decide)
    have noMark : d ∉ ['"', '\'', '<', '>', '\\'] := fun isMark => each member (noPart d isMark) rfl
    simpa [isMarkChar] using noMark
  · exact each (List.mem_of_getLast? last) (by decide) rfl

/-- A property that texts without marks have, and two such texts next to each other. -/
structure Composes (property : List Char → Prop) : Prop where
  unmarked : ∀ text, Unmarked text → property text
  append : ∀ text rest, property text → property rest → property (text ++ rest)

namespace Composes

variable {property : List Char → Prop}

/-- A bound or a default with the sign in front of it. -/
theorem elim (composes : Composes property) {sign : List Char} (isSign : Unmarked sign)
    {type : Option (List Char)} (isType : ∀ text, type = some text → property text) :
    property (type.elim [] (sign ++ ·)) := by
  cases type with
  | none => exact composes.unmarked [] (by decide)
  | some text => exact composes.append _ _ (composes.unmarked sign isSign) (isType text rfl)

/-- A type parameter has the property if its types have it. -/
theorem written (composes : Composes property) {parameter : TypeParameter}
    (wellFormed : parameter.WellFormed)
    (types : ∀ type, parameter.bound = some type ∨ parameter.preset = some type → property type) :
    property parameter.written := by
  have sign : property parameter.sign.toList := by
    cases isSign : parameter.sign with
    | none => exact composes.unmarked [] (by decide)
    | some c =>
      rcases wellFormed.sign c isSign with rfl | rfl
      · exact composes.unmarked ['+'] (by decide)
      · exact composes.unmarked ['-'] (by decide)
  have name : property parameter.name :=
    composes.unmarked _ (unmarked_of_isIdentifier wellFormed.name)
  have bound := @elim _ composes ": ".toList (by decide) parameter.bound
    fun text isBound => types text (.inl isBound)
  have preset := @elim _ composes " = ".toList (by decide) parameter.preset
    fun text isPreset => types text (.inr isPreset)
  exact composes.append _ _ sign (composes.append _ _ name (composes.append _ _ bound preset))

/-- A list has the property if its members have it. -/
theorem intercalate (composes : Composes property) {texts : List (List Char)}
    (each : ∀ text ∈ texts, property text) : property (List.intercalate ", ".toList texts) := by
  induction texts with
  | nil => exact composes.unmarked [] (by decide)
  | cons text texts ih =>
    obtain ⟨first, others⟩ := List.forall_mem_cons.mp each
    cases texts with
    | nil => simpa using first
    | cons next texts =>
      rw [List.intercalate_cons_cons]
      have comma := composes.append _ _ first (composes.unmarked ", ".toList (by decide))
      exact composes.append _ _ comma (ih others)

end Composes

/-! ### The search passes over type parameters -/

theorem composes_steps (depth : Nat) : Composes (Steps depth depth) where
  unmarked text unmarked := steps_of_noAngles
    (fun c member => ⟨unmarked.ne member (by decide), unmarked.ne member (by decide)⟩) unmarked.2 _
  append _ _ := Steps.append

/-- The search passes over angle brackets with such a text between them. -/
theorem Steps.skipped (steps : Steps 0 0 text) : Skipped ('<' :: (text ++ ['>'])) := by
  have opened : some '<' ≠ some '=' := by decide
  have noSign : text.getLast?.or (some '<') ≠ some '=' := noSign_or steps.noSign opened
  have level : bracketDepth (some '<') 1 text = 1 := by
    rw [bracketDepth_before opened]
    exact steps.level
  constructor
  · have inside : rightSide? (some '<') 1 1 text = none := steps.passes_before opened 1
    rw [rightSide?, if_pos rfl, Int.zero_add, rightSide?_append steps.noSign, inside, level,
      rightSide?_before noSign]
    simp [rightSide?]
  · rw [bracketDepth, if_pos rfl, Int.zero_add, bracketDepth_append, level,
      bracketDepth_before noSign]
    simp [bracketDepth]

/-- **The search for the equals sign passes over type parameters** without angle brackets in the
string literals of their bounds and defaults. -/
theorem skipped_parametersText {parameters : List TypeParameter}
    (wellFormed : ∀ parameter ∈ parameters, parameter.WellFormed)
    (noAngles : ∀ parameter ∈ parameters, parameter.NoQuotedAngles) :
    Skipped (parametersText parameters) := by
  cases parameters with
  | nil => decide
  | cons first parameters =>
    have composes := composes_steps 0
    refine Steps.skipped (composes.intercalate (List.forall_mem_map.mpr fun parameter member => ?_))
    refine composes.written (wellFormed parameter member) fun type isType => ?_
    obtain ⟨node, accepted⟩ := (wellFormed parameter member).types type isType
    exact steps_of_ofText accepted (noAngles parameter member type isType) 0

/-! ### The quotes of type parameters -/

theorem composes_quotesClosed : Composes (QuotesClosed true) where
  unmarked text unmarked := by
    refine quotesClosed_of_each fun c member => ?_
    have noMark {d : Char} (isMark : isMarkChar d) : c ≠ d := unmarked.ne member isMark
    simp [Quoting.next?, noMark (d := '\\') rfl, noMark (d := '"') rfl, noMark (d := '\'') rfl]
  append _ _ := QuotesClosed.append

/-- The string literals of type parameters are closed. -/
theorem quotesClosed_parametersText {parameters : List TypeParameter}
    (wellFormed : ∀ parameter ∈ parameters, parameter.WellFormed) :
    QuotesClosed true (parametersText parameters) := by
  cases parameters with
  | nil => rfl
  | cons first parameters =>
    have composes := composes_quotesClosed
    have inside : QuotesClosed true (List.intercalate ", ".toList
        ((first :: parameters).map TypeParameter.written)) := by
      refine composes.intercalate (List.forall_mem_map.mpr fun parameter member => ?_)
      refine composes.written (wellFormed parameter member) fun type isType => ?_
      obtain ⟨node, accepted⟩ := (wellFormed parameter member).types type isType
      exact Quoting.after?_true (quotesClosed_of_ofText accepted)
    have opens : QuotesClosed true ['<'] := rfl
    exact opens.append (inside.append rfl)

/-! ### Splitting statements -/

/-- The name of a statement. -/
theorem aliasHead?_statementHead (isIdentifier : IsIdentifier name) (declared exported : Bool)
    (stops : ∀ c, rest.head? = some c → isIdentifierPart c = false) :
    aliasHead? (statementHead declared exported name ++ rest) =
      some (name, (statementHead declared exported name).length) := by
  have words : skipWord "export".toList (skipWord "declare".toList
      (trimStart (statementHead declared exported name ++ rest))) =
        "type".toList ++ ([' '] ++ (name ++ rest)) := by
    cases declared <;> cases exported <;> rfl
  have shown : trimStart (name ++ rest) = name ++ rest := by
    obtain ⟨c, more, rfl, starts, -⟩ := isIdentifier
    exact trimStart_visible (not_isBlank_of_isNameStart starts)
  have gap : AllBlank [' '] := List.forall_mem_singleton.mpr (by decide)
  have word : afterWord? "type".toList ("type".toList ++ ([' '] ++ (name ++ rest))) =
      some (name ++ rest) := by
    rw [afterWord?_append _ gap (List.cons_ne_nil _ _), shown]
  unfold aliasHead?
  simp only [words, word, identifier?_append isIdentifier stops, Option.bind_eq_bind,
    Option.bind_some, Option.pure_def, List.length_append, Nat.add_sub_cancel]

/-- The search at an equals sign with spaces around it. -/
theorem rightSide?_sign (depth offset : Int) (rest : List Char) :
    rightSide? none depth offset (" = ".toList ++ rest) =
      if depth = 0 then some (offset + 2) else rightSide? (some ' ') depth (offset + 3) rest := by
  have second : offset + 1 + 1 = offset + 2 := by omega
  have third : offset + 2 + 1 = offset + 3 := by omega
  show rightSide? none depth offset (' ' :: '=' :: ' ' :: rest) = _
  simp [rightSide?, second, third]

/-- The equals sign of a statement is found exactly if the search passes over what stands between it
and the name. -/
theorem rightSideStart?_iff (noSign : front.getLast? ≠ some '=')
    (ends : parameters.getLast? ≠ some '=') (rest : List Char) :
    rightSideStart? (front ++ (parameters ++ (" = ".toList ++ rest))) front.length =
      some (front.length + parameters.length + 2) ↔ Skipped parameters := by
  have behind : parameters.getLast?.or none ≠ some '=' := noSign_or ends (by decide)
  have moved := rightSide?_offset none 0 0 front.length parameters
  rw [Int.zero_add] at moved
  rw [rightSideStart?, List.take_left, List.drop_left, rightSide?_before noSign,
    rightSide?_append ends, rightSide?_before behind, rightSide?_sign, moved, Skipped]
  cases found : rightSide? none 0 0 parameters with
  | some sign =>
    obtain ⟨skipped, more, rfl, rfl⟩ := rightSide?_eq_some found
    simp only [Int.zero_add, Option.map_some, List.length_append, List.length_cons,
      Option.some_or, Option.some.injEq, reduceCtorEq, false_and, iff_false]
    omega
  | none =>
    by_cases level : bracketDepth none 0 parameters = 0
    · simp only [Option.map_none, level, if_true, Option.none_or, Option.map_some,
        Option.some.injEq, and_self, iff_true]
      omega
    · simp only [Option.map_none, level, if_false, Option.none_or, Option.map_eq_some_iff,
        and_false, iff_false, not_exists, not_and]
      intro sign later
      obtain ⟨skipped, more, rfl, rfl⟩ := rightSide?_eq_some later
      omega

/-- A statement in parts: what stands in front of the trimmed right side, and what behind it. -/
theorem exists_sides (shown : trim side ≠ []) (front : List Char) : ∃ gap back,
    AllBlank gap ∧ trimStart (side ++ [';']) = trim side ++ back ∧
    front ++ (" = ".toList ++ (side ++ [';'])) = (front ++ (" = ".toList ++ gap)) ++
      (trim side ++ back) ∧
    Alias.sourceEnd (front ++ (" = ".toList ++ (side ++ [';']))) =
      (front ++ (" = ".toList ++ gap)).length + (trim side).length := by
  obtain ⟨gap, blank, isSide, -⟩ := exists_trimStart side
  obtain ⟨more, -, isShown, -⟩ := exists_trimEnd (trimStart side)
  rw [← trim] at isShown
  have some_ : trimStart side ≠ [] := by
    intro nothing
    rw [trim, nothing] at shown
    exact shown rfl
  have ends : trimEnd side = gap ++ trim side := by
    conv_lhs => rw [isSide]
    exact trimEnd_append shown
  have whole : front ++ (" = ".toList ++ (side ++ [';'])) =
      (front ++ (" = ".toList ++ side)) ++ [';'] := by simp
  refine ⟨gap, more ++ [';'], blank, ?_, ?_, ?_⟩
  · rw [trimStart_append some_]
    conv_lhs => rw [isShown]
    rw [List.append_assoc]
  · conv_lhs => rw [isSide, isShown]
    simp only [List.append_assoc]
  · have noGap : trimEnd side ≠ [] := by
      rw [ends]
      exact List.append_ne_nil_of_right_ne_nil _ shown
    have closed : trimEnd (front ++ (" = ".toList ++ (side ++ [';']))) =
        (front ++ (" = ".toList ++ side)) ++ [';'] := by
      rw [whole]
      exact trimEnd_visible (by decide)
    rw [Alias.sourceEnd, closed, List.getLast?_concat, if_pos rfl, List.dropLast_concat,
      ← List.append_assoc, trimEnd_append noGap, ends]
    simp only [List.length_append]
    omega

/-- An alias with the name, the type and the right side of a statement, and the place of the right
side in it. -/
structure Alias.Splits (found : Alias) (text name side : List Char) (node : TypeNode) : Prop where
  name : found.name = String.ofList name
  type : found.type = node
  source : found.source = String.ofList (trim side)
  slice : slice text found.start found.stop = trim side

/-- The name of a statement ends in no equals sign. -/
theorem getLast?_statementHead (isIdentifier : IsIdentifier name) (declared exported : Bool) :
    (statementHead declared exported name).getLast? ≠ some '=' := by
  obtain ⟨c, more, same, -, -⟩ := id isIdentifier
  have some_ : name ≠ [] := same ▸ List.cons_ne_nil _ _
  rw [statementHead, ← List.append_assoc, ← List.append_assoc,
    List.getLast?_append_of_ne_nil _ some_]
  intro last
  have part := isIdentifier.parts _ (List.mem_of_getLast? last)
  revert part
  decide

section

variable {nameEnd : Nat}

/-- A statement whose equals sign is found is split there. -/
theorem splits_of_sign (accepted : TypeNode.ofText side none .first = .ok node)
    (isText : text = front ++ (" = ".toList ++ (side ++ [';'])))
    (named : aliasHead? text = some (name, nameEnd))
    (sign : rightSideStart? text nameEnd = some (front.length + 2)) (path : Option String)
    (start : Position) : ∃ found, Alias.ofText text path start = .ok found ∧
      found.Splits text name side node := by
  have trimmed := TypeNode.ofText_trim accepted
  obtain ⟨gap, back, blank, isBehind, parts, stop⟩ := exists_sides (ne_nil_of_ofText trimmed) front
  have behind : trimStart (text.drop (front.length + 2)) = trim side ++ back := by
    have gap : AllBlank [' '] := List.forall_mem_singleton.mpr (by decide)
    rw [isText, List.drop_length_add_append]
    show trimStart ([' '] ++ (side ++ [';'])) = _
    rw [trimStart_gap gap, isBehind]
  rw [← isText] at parts stop
  have begins : text.length - (trimStart (text.drop (front.length + 2))).length =
      (front ++ (" = ".toList ++ gap)).length := by
    rw [behind, parts, List.length_append, Nat.add_sub_cancel]
  have source : slice text (front ++ (" = ".toList ++ gap)).length (Alias.sourceEnd text) =
      trim side := by
    rw [stop]
    conv_lhs => rw [parts]
    exact slice_middle _ _ _ rfl rfl
  have isType (place : Position) : TypeNode.ofText (trim side) path place = .ok node :=
    TypeNode.ofText_anywhere trimmed path place
  refine ⟨⟨String.ofList name, node, String.ofList (trim side),
    (front ++ (" = ".toList ++ gap)).length, Alias.sourceEnd text⟩, ?_, ⟨rfl, rfl, rfl, source⟩⟩
  rw [slice] at source
  simp only [Alias.ofText, named, sign, begins, source, isType]

theorem quotesClosed_of_allBlank {gap : List Char} {equals : Bool} (blank : AllBlank gap) :
    QuotesClosed equals gap := by
  refine quotesClosed_of_each fun c member => ?_
  have noSign {d : Char} (visible : isBlank d = false) : c ≠ d := by
    rintro rfl
    rw [blank c member] at visible
    cases visible
  simp [Quoting.next?, noSign (d := '\\') (by decide), noSign (d := '=') (by decide),
    noSign (d := '"') (by decide), noSign (d := '\'') (by decide)]

/-- **An accepted statement in parts**: up to its end it is what stands before an equals sign, white
space and a type. -/
theorem exists_source {found : Alias} (named : aliasHead? text = some (name, nameEnd))
    (parsed : Alias.ofText text path start = .ok found) : ∃ before gap source,
      rightSideStart? text nameEnd = some (before.length + 1) ∧ text.take nameEnd <+: before ∧
      AllBlank gap ∧ text.take (Alias.sourceEnd text) = (before ++ '=' :: gap) ++ source ∧
      ∃ place type, TypeNode.ofText source path place = .ok type := by
  unfold Alias.ofText at parsed
  simp only [named] at parsed
  cases isSign : rightSideStart? text nameEnd with
  | none =>
    rw [isSign] at parsed
    cases parsed
  | some sideStart =>
    obtain ⟨before, gap, blank, rfl, isBefore, parts⟩ := exists_front isSign
    have begins : text.length - (trimStart (text.drop (before.length + 1))).length =
        (before ++ '=' :: gap).length := by
      rw [congrArg List.length parts, List.length_append, Nat.add_sub_cancel]
    simp only [isSign, begins] at parsed
    split at parsed
    · cases parsed
    · rename_i type isType
      refine ⟨before, gap, _, rfl, isBefore, blank, ?_, _, type, isType⟩
      have reaches : (before ++ '=' :: gap).length ≤ Alias.sourceEnd text := by
        by_contra short
        refine ne_nil_of_ofText isType (List.drop_eq_nil_of_le ?_)
        rw [List.length_take]
        omega
      conv_lhs =>
        rw [← List.take_append_drop (before ++ '=' :: gap).length (text.take _), List.take_take,
          Nat.min_eq_left reaches]
      congr 1
      conv_lhs => rw [parts]
      exact List.take_left

/-- **The equals sign of an accepted statement** is found where it stands: what stands behind any
other one is no type. -/
theorem sign_of_ok {head : List Char} {found : Alias}
    (accepted : TypeNode.ofText side none .first = .ok node)
    (closed : QuotesClosed true parameters)
    (isText : text = (head ++ parameters) ++ (" = ".toList ++ (side ++ [';'])))
    (named : aliasHead? text = some (name, head.length))
    (parsed : Alias.ofText text path start = .ok found) :
    rightSideStart? text head.length = some ((head ++ parameters).length + 2) := by
  obtain ⟨before, gap, source, isSign, ⟨skipped, isBefore⟩, blank, atFound, place, type, isType⟩ :=
    exists_source named parsed
  have trimmed := TypeNode.ofText_trim accepted
  obtain ⟨other, back, isBlank, -, whole, stop⟩ :=
    exists_sides (ne_nil_of_ofText trimmed) (head ++ parameters)
  rw [← isText] at whole stop
  have atWritten : text.take (Alias.sourceEnd text) =
      ((head ++ parameters) ++ (" = ".toList ++ other)) ++ trim side := by
    rw [stop]
    conv_lhs => rw [whole]
    rw [List.take_length_add_append, List.take_left]
  have isHead : text.take head.length = head := by
    rw [isText, List.append_assoc, List.take_left]
  rw [isHead] at isBefore
  have same : (parameters ++ [' ']) ++ '=' :: ([' '] ++ other ++ trim side) =
      skipped ++ '=' :: (gap ++ source) := by
    have both := atWritten.symm.trans atFound
    rw [← isBefore] at both
    simpa using both
  have space : QuotesClosed true [' '] := rfl
  have isSpace : AllBlank [' '] := List.forall_mem_singleton.mpr (by decide)
  have isBehind : QuotesClosed false ([' '] ++ other ++ trim side) :=
    (quotesClosed_of_allBlank (isSpace.append isBlank)).append (quotesClosed_of_ofText trimmed)
  have isRest : QuotesClosed false (gap ++ source) :=
    (quotesClosed_of_allBlank blank).append (quotesClosed_of_ofText isType)
  rw [isSign, ← isBefore, eq_of_sign (closed.append space) isBehind isRest same]
  simp only [List.length_append, List.length_singleton, Option.some.injEq]
  omega

end

/-- **A statement is accepted** exactly if the search passes over what stands between its name and
the equals sign, and then it is split there. -/
theorem accepted_iff (isIdentifier : IsIdentifier name)
    (accepted : TypeNode.ofText side none .first = .ok node)
    (stops : ∀ c, parameters.head? = some c → isIdentifierPart c = false)
    (ends : parameters.getLast? ≠ some '=') (closed : QuotesClosed true parameters)
    (declared exported : Bool) (path : Option String) (start : Position) :
    let text := statementText declared exported name parameters side
    ((∃ found, Alias.ofText text path start = .ok found) ↔ Skipped parameters) ∧
      ∀ found, Alias.ofText text path start = .ok found → found.Splits text name side node := by
  intro text
  have named : aliasHead? text = some (name, (statementHead declared exported name).length) := by
    refine aliasHead?_statementHead isIdentifier declared exported fun c first => ?_
    cases parameters with
    | nil =>
      cases first
      decide
    | cons d parameters => exact stops c first
  have parts : text = (statementHead declared exported name ++ parameters) ++
      (" = ".toList ++ (side ++ [';'])) := (List.append_assoc ..).symm
  have sign : _ ↔ Skipped parameters :=
    rightSideStart?_iff (getLast?_statementHead isIdentifier declared exported) ends (side ++ [';'])
  rw [← List.length_append, ← List.append_assoc, ← parts] at sign
  have split (isSkipped : Skipped parameters) :
      ∃ found, Alias.ofText text path start = .ok found ∧ found.Splits text name side node :=
    splits_of_sign accepted parts named (sign.mpr isSkipped) path start
  have skipped {found : Alias} (parsed : Alias.ofText text path start = .ok found) :
      Skipped parameters := sign.mp (sign_of_ok accepted closed parts named parsed)
  refine ⟨⟨fun ⟨found, parsed⟩ => skipped parsed, fun isSkipped => ?_⟩, fun found parsed => ?_⟩
  · obtain ⟨found, parsed, -⟩ := split isSkipped
    exact ⟨found, parsed⟩
  · obtain ⟨other, isOther, splits⟩ := split (skipped parsed)
    rw [parsed] at isOther
    cases isOther
    exact splits

/-! ### Type parameters are ignored -/

theorem stops_parametersText (parameters : List TypeParameter) (c : Char)
    (first : (parametersText parameters).head? = some c) : isIdentifierPart c = false := by
  cases parameters with
  | nil => cases first
  | cons parameter parameters =>
    cases first
    decide

theorem getLast?_parametersText (parameters : List TypeParameter) :
    (parametersText parameters).getLast? ≠ some '=' := by
  cases parameters with
  | nil => decide
  | cons parameter parameters =>
    rw [parametersText, ← List.cons_append, List.getLast?_concat]
    decide

/-- **Type parameters are ignored** in every statement that is accepted: its name, its type and its
right side are the ones that are written. It is accepted exactly if the search for the equals sign
passes over the type parameters, and it does if no angle bracket stands in a string literal of a
bound or of a default. -/
theorem parameters_ignored_iff {parameters : List TypeParameter} (isIdentifier : IsIdentifier name)
    (wellFormed : ∀ parameter ∈ parameters, parameter.WellFormed)
    (accepted : TypeNode.ofText side none .first = .ok node) (declared exported : Bool)
    (path : Option String) (start : Position) :
    let text := statementText declared exported name (parametersText parameters) side
    (∀ found, Alias.ofText text path start = .ok found → found.Splits text name side node) ∧
    ((∃ found, Alias.ofText text path start = .ok found) ↔ Skipped (parametersText parameters)) ∧
    ((∀ parameter ∈ parameters, parameter.NoQuotedAngles) →
      Skipped (parametersText parameters)) := by
  intro text
  obtain ⟨isAccepted, splits⟩ := accepted_iff isIdentifier accepted
    (stops_parametersText parameters) (getLast?_parametersText parameters)
    (quotesClosed_parametersText wellFormed) declared exported path start
  exact ⟨splits, isAccepted, skipped_parametersText wellFormed⟩

/-- A bound in angle brackets, and an equals sign in a string literal of a default. -/
theorem parameters_ignored_nested : ∃ found,
    Alias.ofText "declare export type N<+T: Array<string> = 'a=b'> =  number ;".toList none .first =
        .ok found ∧
      found.Splits "declare export type N<+T: Array<string> = 'a=b'> =  number ;".toList ['N']
        " number ".toList (.primitive .number) := by
  have types : ∀ type,
      some "Array<string>".toList = some type ∨ some "'a=b'".toList = some type →
        ∃ node, TypeNode.ofText type none .first = .ok node := by
    rintro type (⟨⟨⟩⟩ | ⟨⟨⟩⟩)
    · exact ⟨.generic "Array" [.primitive .string], by with_unfolding_all rfl⟩
    · exact ⟨.literal .string (.string "a=b"), by with_unfolding_all rfl⟩
  have wellFormed : TypeParameter.WellFormed
      ⟨some '+', ['T'], some "Array<string>".toList, some "'a=b'".toList⟩ :=
    ⟨by simp, ⟨'T', [], rfl, by decide, List.forall_mem_nil _⟩, types⟩
  have isIdentifier : IsIdentifier ['N'] := ⟨'N', [], rfl, by decide, List.forall_mem_nil _⟩
  have accepted : TypeNode.ofText " number ".toList none .first = .ok (.primitive .number) := by
    with_unfolding_all rfl
  have isText : statementText true true ['N'] (parametersText
      [⟨some '+', ['T'], some "Array<string>".toList, some "'a=b'".toList⟩]) " number ".toList =
        "declare export type N<+T: Array<string> = 'a=b'> =  number ;".toList := by decide
  rw [← isText]
  obtain ⟨splits, isAccepted, -⟩ := parameters_ignored_iff isIdentifier
    (List.forall_mem_singleton.mpr wellFormed) accepted true true none .first
  obtain ⟨found, parsed⟩ := isAccepted.mpr (by decide)
  exact ⟨found, parsed, splits found parsed⟩

/-- **An angle bracket in a string literal of a bound** hides the equals sign of a statement. -/
theorem bracket_in_bound :
    TypeParameter.WellFormed ⟨none, ['T'], some "'<'".toList, none⟩ ∧
    TypeNode.ofText "string".toList none .first = .ok (.primitive .string) ∧
    statementText false false ['N'] (parametersText [⟨none, ['T'], some "'<'".toList, none⟩])
      "string".toList = "type N<T: '<'> = string;".toList ∧
    ∀ found, Alias.ofText "type N<T: '<'> = string;".toList none .first ≠ .ok found := by
  have type : TypeNode.ofText "'<'".toList none .first = .ok (.literal .string (.string "<")) := by
    with_unfolding_all rfl
  have noSign : Alias.ofText "type N<T: '<'> = string;".toList none .first =
      .error ⟨.noAlias, none, .first⟩ := by
    with_unfolding_all rfl
  refine ⟨⟨by simp, ⟨'T', [], rfl, by decide, List.forall_mem_nil _⟩, ?_⟩,
    by with_unfolding_all rfl, rfl, ?_⟩
  · rintro text (⟨⟨⟩⟩ | ⟨⟨⟩⟩)
    exact ⟨_, type⟩
  · intro found accepted
    rw [noSign] at accepted
    cases accepted

end TypeSchema
