/-
**Angle brackets in type texts.**

* `rightSide?_append`: the search for the equals sign of an alias goes through a text piece by
  piece, and carries the number of open angle brackets with it;
* `Derives.keepsAngles`: among the tokens of a type angle brackets are closed in pairs;
* `steps_of_ofText`: **behind an angle bracket the search passes over an accepted text**, unless an
  angle bracket stands in one of its string literals.
-/

import TypeSchema.Proofs.Source.Aliases

namespace TypeSchema

variable {c : Char} {before : Option Char} {text other rest lexeme : List Char} {token : Token}
  {tokens ts us : List Token} {terminal : Terminal} {depth next after : Nat} {node : TypeNode}

/-! ### The search for the equals sign -/

theorem getLast?_cons_or (c : Char) (text : List Char) (before : Option Char) :
    ((c :: text).getLast?).or before = text.getLast?.or (some c) := by
  cases text with
  | nil => rfl
  | cons d text =>
    obtain ⟨last, isLast⟩ := Option.isSome_iff_exists.mp
      (show ((d :: text).getLast?).isSome by simp)
    rw [List.getLast?_cons_cons, isLast]
    rfl

/-- A text that does not end in an equals sign, behind a character that is none. -/
theorem noSign_or (last : text.getLast? ≠ some '=') (noSign : before ≠ some '=') :
    text.getLast?.or before ≠ some '=' := by
  cases isLast : text.getLast? with
  | none => exact noSign
  | some d =>
    rw [Option.some_or, ← isLast]
    exact last

theorem bracketDepth_append (before : Option Char) (depth : Int) (text rest : List Char) :
    bracketDepth before depth (text ++ rest) =
      bracketDepth (text.getLast?.or before) (bracketDepth before depth text) rest := by
  induction text generalizing before depth with
  | nil => rfl
  | cons c text ih =>
    rw [List.cons_append, bracketDepth, bracketDepth, getLast?_cons_or]
    split_ifs
    · exact ih ..
    · exact ih ..
    · exact ih ..

/-- **The search goes on** behind a text in which it finds nothing, with the angle brackets that are
open then. -/
theorem rightSide?_append (noSign : text.getLast? ≠ some '=') (before : Option Char)
    (depth offset : Int) (rest : List Char) :
    rightSide? before depth offset (text ++ rest) = (rightSide? before depth offset text).or
      (rightSide? (text.getLast?.or before) (bracketDepth before depth text)
        (offset + text.length) rest) := by
  induction text generalizing before depth offset with
  | nil => simp [rightSide?, bracketDepth]
  | cons c text ih =>
    have count : offset + (c :: text).length = offset + 1 + text.length := by
      rw [List.length_cons]
      omega
    have behind : text.getLast? ≠ some '=' ∧
        (c = '=' → (text ++ rest).head? = text.head?) := by
      cases text with
      | nil => exact ⟨by decide, fun isSign => absurd (congrArg some isSign) noSign⟩
      | cons d text => exact ⟨noSign, fun _ => rfl⟩
    have same : (c = '=' ∧ depth = 0 ∧ (text ++ rest).head? ≠ some '>') ↔
        (c = '=' ∧ depth = 0 ∧ text.head? ≠ some '>') :=
      and_congr_right fun isSign => by rw [behind.2 isSign]
    have goesOn (depth : Int) := ih behind.1 (some c) depth (offset + 1)
    rw [List.cons_append, rightSide?, rightSide?, bracketDepth, getLast?_cons_or, count]
    simp only [same]
    split_ifs
    · exact goesOn _
    · exact goesOn _
    · rfl
    · exact goesOn _

/-- Of what stands in front the search sees only whether it is an equals sign. -/
theorem rightSide?_before (noSign : before ≠ some '=') (depth offset : Int) (text : List Char) :
    rightSide? before depth offset text = rightSide? none depth offset text := by
  cases text with
  | nil => rfl
  | cons c text => simp [rightSide?, noSign]

theorem bracketDepth_before (noSign : before ≠ some '=') (depth : Int) (text : List Char) :
    bracketDepth before depth text = bracketDepth none depth text := by
  cases text with
  | nil => rfl
  | cons c text => simp [bracketDepth, noSign]

/-- Where the search begins to count moves what it finds. -/
theorem rightSide?_offset (before : Option Char) (depth offset more : Int) (text : List Char) :
    rightSide? before depth (offset + more) text =
      (rightSide? before depth offset text).map (· + more) := by
  induction text generalizing before depth offset with
  | nil => rfl
  | cons c text ih =>
    have moved : offset + more + 1 = offset + 1 + more := by omega
    rw [rightSide?, rightSide?, moved]
    split_ifs
    · exact ih ..
    · exact ih ..
    · rfl
    · exact ih ..

/-! ### Pieces behind an angle bracket -/

/-- A text in which the search finds nothing behind an open angle bracket, and which takes the
number of other open ones from one to another. -/
structure Steps (depth after : Nat) (text : List Char) : Prop where
  noSign : text.getLast? ≠ some '='
  passes : rightSide? none (depth + 1) 0 text = none
  level : bracketDepth none (depth + 1) text = after + 1

theorem Steps.passes_before (steps : Steps depth after text) (noSign : before ≠ some '=')
    (offset : Int) : rightSide? before (depth + 1) offset text = none := by
  have moved := rightSide?_offset none (depth + 1) 0 offset text
  rw [Int.zero_add, steps.passes] at moved
  rw [rightSide?_before noSign, moved, Option.map_none]

theorem steps_nil (depth : Nat) : Steps depth depth [] := ⟨by decide, rfl, rfl⟩

theorem Steps.append (first : Steps depth next text) (second : Steps next after rest) :
    Steps depth after (text ++ rest) := by
  have noSign : text.getLast?.or none ≠ some '=' := noSign_or first.noSign (by decide)
  refine ⟨?_, ?_, ?_⟩
  · rw [List.getLast?_append]
    exact noSign_or second.noSign first.noSign
  · rw [rightSide?_append first.noSign, first.passes, first.level, Option.none_or]
    exact second.passes_before noSign _
  · rw [bracketDepth_append, first.level, bracketDepth_before noSign]
    exact second.level

/-- No angle bracket stands in a text. -/
def NoAngles (text : List Char) : Prop := ∀ d ∈ text, d ≠ '<' ∧ d ≠ '>'

theorem steps_of_noAngles (noAngles : NoAngles text) (noSign : text.getLast? ≠ some '=')
    (depth : Nat) : Steps depth depth text := by
  have goesOn (before : Option Char) (offset : Int) (text : List Char) (noAngles : NoAngles text) :
      rightSide? before (depth + 1) offset text = none ∧
        bracketDepth before (depth + 1) text = depth + 1 := by
    induction text generalizing before offset with
    | nil => exact ⟨rfl, rfl⟩
    | cons c text ih =>
      obtain ⟨⟨noLess, noGreater⟩, others⟩ := List.forall_mem_cons.mp noAngles
      have inside : ¬ ((depth : Int) + 1 = 0) := by omega
      simpa [rightSide?, bracketDepth, noLess, noGreater, inside] using ih _ _ others
  obtain ⟨passes, level⟩ := goesOn none 0 text noAngles
  exact ⟨noSign, passes, level⟩

theorem steps_less (depth : Nat) : Steps depth (depth + 1) ['<'] := by
  refine ⟨by decide, by simp [rightSide?], ?_⟩
  simp [bracketDepth]

theorem steps_greater (depth : Nat) : Steps (depth + 1) depth ['>'] := by
  refine ⟨by decide, by simp [rightSide?], ?_⟩
  simp [bracketDepth]

/-! ### Angle brackets among tokens -/

/-- The number of open angle brackets after a token, if none is closed that is not open. -/
def Token.angles (depth : Nat) (token : Token) : Option Nat :=
  match token.terminal with
  | .less => some (depth + 1)
  | .greater => closeOne depth
  | _ => some depth

/-- Tokens that leave angle brackets as they are. -/
def KeepsAngles (tokens : List Token) : Prop :=
  ∀ depth, tokens.foldlM Token.angles depth = some depth

/-- A token that is no angle bracket. -/
def Terminal.isAngle : Terminal → Bool
  | less | greater => true
  | _ => false

theorem keepsAngles_nil : KeepsAngles [] := fun _ => rfl

theorem KeepsAngles.append (first : KeepsAngles ts) (second : KeepsAngles us) :
    KeepsAngles (ts ++ us) := by
  intro depth
  rw [List.foldlM_append, first depth]
  exact second depth

theorem KeepsAngles.plain (plain : token.terminal.isAngle = false) (more : KeepsAngles ts) :
    KeepsAngles (token :: ts) := by
  intro depth
  have same : token.angles depth = some depth := by
    obtain ⟨terminal, lexeme⟩ := token
    cases terminal <;> first | rfl | cases plain
  rw [List.foldlM_cons, same]
  exact more depth

theorem KeepsAngles.single (plain : token.terminal.isAngle = false) : KeepsAngles [token] :=
  keepsAngles_nil.plain plain

/-- Angle brackets around tokens. -/
theorem KeepsAngles.inside {l r : List Char} (inside : KeepsAngles ts) :
    KeepsAngles (⟨.less, l⟩ :: (ts ++ [⟨.greater, r⟩])) := by
  intro depth
  show (ts ++ [Token.mk .greater r]).foldlM Token.angles (depth + 1) = some depth
  rw [List.foldlM_append, inside]
  rfl

theorem Optional.keepsAngles (optional : Optional terminal ts) (plain : terminal.isAngle = false)
    (more : KeepsAngles us) : KeepsAngles (ts ++ us) := by
  rcases optional with rfl | ⟨lexeme, rfl⟩
  · exact more
  · exact more.plain plain

/-- **Angle brackets are closed in pairs** in a type. -/
theorem Derives.keepsAngles {symbol : Symbol} {value : symbol.Value}
    (derives : Derives symbol tokens value) : KeepsAngles tokens := by
  induction derives with
  | noItem => exact keepsAngles_nil
  | start _ ih | type _ ih | lastAlternative _ ih | nonunion _ ih | arrays _ ih | named _ ih
  | lastItem _ ih => exact ih
  | text | numeral | firstPart => exact .single rfl
  | leadingBar _ ih | nullable _ ih => exact ih.plain rfl
  | terminated _ ih => exact ih.append (.single rfl)
  | arrayOf _ ih | nextPart _ ih => exact ih.append ((KeepsAngles.single rfl).plain rfl)
  | alternative _ _ ihFirst ihMore => exact ihFirst.append (ihMore.plain rfl)
  | applied _ _ ihPath ihArguments => exact ihPath.append ihArguments.inside
  | @object _ exact_ _ _ _ _ ih =>
    cases exact_ <;> exact (ih.append (.single rfl)).plain rfl
  | tuple _ ih | group _ ih => exact (ih.append (.single rfl)).plain rfl
  | item _ separates _ ihFirst ihMore =>
    refine ihFirst.append (ihMore.plain ?_)
    rcases mem_separators separates with comma | semicolon
    · rw [comma]
      rfl
    · rw [semicolon]
      rfl
  | property variance isKey optional _ ih =>
    refine variance.keepsAngles rfl (KeepsAngles.plain ?_ (optional.keepsAngles rfl (ih.plain rfl)))
    cases isKey <;> rfl
  | indexer variance isLabel _ _ ihKey ihValue =>
    refine variance.keepsAngles rfl (.plain rfl ?_)
    rcases isLabel with rfl | ⟨name, colon, rfl⟩
    · exact ihKey.append (.plain rfl (.plain rfl ihValue))
    · exact .plain rfl (.plain rfl (ihKey.append (.plain rfl (.plain rfl ihValue))))
  | call _ _ ihParameters ihResult =>
    exact (ihParameters.append ((ihResult.plain rfl).plain rfl)).plain rfl
  | parameter isHead _ ih =>
    cases isHead with
    | @name name colon mark optional =>
      have behind : KeepsAngles (⟨.colon, colon⟩ :: _) := ih.plain rfl
      have whole := @KeepsAngles.plain ⟨.name, name⟩ _ rfl (optional.keepsAngles rfl behind)
      simpa using whole
    | rest => exact .plain rfl (.plain rfl (.plain rfl ih))

/-! ### Accepted texts -/

/-- No angle bracket stands in a string literal of a text. -/
def NoQuotedAngles (text : List Char) : Prop :=
  ∀ tokens, Tokens text tokens → ∀ token ∈ tokens, token.terminal = .text → NoAngles token.lexeme

theorem LexemeShape.noAngles (shape : LexemeShape terminal lexeme)
    (plain : terminal.isAngle = false) (quoted : terminal = .text → NoAngles lexeme) :
    NoAngles lexeme := by
  cases shape with
  | word _ _ each =>
    intro d member
    exact ⟨ne_of_isWordChar (each d member) rfl, ne_of_isWordChar (each d member) rfl⟩
  | text => exact quoted rfl
  | sign isSign =>
    have known : (signs.all fun sign => sign.1.isAngle ||
        sign.2.all fun d => decide (d ≠ '<' ∧ d ≠ '>')) = true := by decide
    have found := List.all_eq_true.mp known _ isSign
    rw [plain, Bool.false_or] at found
    exact forall_mem_of_all found

/-- A lexeme does not end in an equals sign. -/
theorem LexemeShape.noSign (shape : LexemeShape terminal lexeme) : lexeme.getLast? ≠ some '=' := by
  obtain ⟨-, c, front, shown, rfl, isMask, -⟩ := shape.ends
  have noEquals := shape.noEquals
  rw [isMask] at noEquals
  rw [List.getLast?_concat]
  rintro ⟨⟩
  exact noEquals (by simp)

/-- A token takes the number of open angle brackets from one to another. -/
theorem Terminal.Lexeme.steps (isLexeme : terminal.Lexeme lexeme)
    (quoted : terminal = .text → NoAngles lexeme)
    (level : Token.angles depth ⟨terminal, lexeme⟩ = some next) : Steps depth next lexeme := by
  have plain (noAngle : terminal.isAngle = false) (same : next = depth) :
      Steps depth next lexeme := by
    subst same
    exact steps_of_noAngles (isLexeme.shape.noAngles noAngle quoted) isLexeme.shape.noSign _
  cases terminal with
  | less =>
    cases isLexeme
    cases level
    exact steps_less depth
  | greater =>
    cases isLexeme
    cases depth with
    | zero => cases level
    | succ depth =>
      cases level
      exact steps_greater _
  | _ => exact plain rfl (Option.some.inj level).symm

theorem Tokens.steps (isTokens : Tokens text tokens)
    (noAngles : ∀ token ∈ tokens, token.terminal = .text → NoAngles token.lexeme)
    (levels : tokens.foldlM Token.angles depth = some after) : Steps depth after text := by
  induction isTokens generalizing depth with
  | nil =>
    cases levels
    exact steps_nil _
  | @space c rest tokens space _ ih =>
    have visible : NoAngles [c] ∧ [c].getLast? ≠ some '=' := by
      simp only [isTokenSpace, Bool.or_eq_true, beq_iff_eq] at space
      rcases space with (((rfl | rfl) | rfl) | rfl) | rfl <;>
        exact ⟨List.forall_mem_singleton.mpr (by decide), by decide⟩
    exact (steps_of_noAngles visible.1 visible.2 depth).append (ih noAngles levels)
  | @token text token tokens longest _ ih =>
    obtain ⟨ownAngles, others⟩ := List.forall_mem_cons.mp noAngles
    obtain ⟨⟨isLexeme, back, rfl⟩, -⟩ := longest
    rw [List.drop_left] at ih
    obtain ⟨terminal, lexeme⟩ := token
    obtain ⟨next, isNext, goesOn⟩ := Option.bind_eq_some_iff.mp levels
    have own := isLexeme.steps (ownAngles ·) isNext
    exact own.append (ih others goesOn)

/-- **Behind an angle bracket the search passes over an accepted text** without angle brackets in
its string literals. -/
theorem steps_of_ofText (accepted : TypeNode.ofText text none .first = .ok node)
    (noAngles : NoQuotedAngles text) (depth : Nat) : Steps depth depth text := by
  obtain ⟨tokens, tree, isTokens, derives, -⟩ := TypeNode.accepted_iff.mp accepted
  exact isTokens.steps (noAngles tokens isTokens) (derives.keepsAngles depth)

end TypeSchema
