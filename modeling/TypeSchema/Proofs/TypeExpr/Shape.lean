/-
**The shape of the tokens of a type.**

* `Derives.separated`: no name follows a name or a number directly;
* `Derives.forall_token`: what holds of signs, and of literals that denote something, holds of all
  tokens;
* `Derives.encloses`: brackets are closed in pairs, and a semicolon stands inside brackets only.
-/

import Mathlib.Data.List.Chain
import TypeSchema.Proofs.TypeExpr.Grammar

namespace TypeSchema

variable {ts us : List Token} {middle : Token}

/-! ### Neighbours -/

/-- A token that a name may not follow directly. -/
def Terminal.isWord : Terminal → Bool
  | name | numeral => true
  | _ => false

/-- A token may stand before another one: no name follows a name or a number. -/
def Token.MayPrecede (first second : Token) : Prop :=
  second.terminal = .name → first.terminal.isWord = false

/-- Tokens none of which is a name after a name or a number. -/
def Separated (tokens : List Token) : Prop := tokens.IsChain Token.MayPrecede

theorem separated_nil : Separated [] := .nil

theorem separated_single (token : Token) : Separated [token] := .singleton token

/-- Around a sign the tokens have nothing to do with each other. -/
theorem separated_around (sign : middle.terminal.isWord = false) :
    Separated (ts ++ middle :: us) ↔ Separated ts ∧ Separated us := by
  have noName : middle.terminal ≠ .name := by
    intro name
    rw [name] at sign
    cases sign
  rw [Separated, List.isChain_append, List.isChain_cons]
  constructor
  · rintro ⟨left, ⟨-, right⟩, -⟩
    exact ⟨left, right⟩
  · rintro ⟨left, right⟩
    refine ⟨left, ⟨fun _ _ _ => sign, right⟩, fun first _ second isSecond name => ?_⟩
    cases Option.some.inj isSecond
    exact absurd name noName

theorem separated_after (sign : middle.terminal.isWord = false) :
    Separated (middle :: us) ↔ Separated us := by
  have around := @separated_around [] us middle sign
  rw [List.nil_append] at around
  rw [around, and_iff_right separated_nil]

theorem Optional.separated {terminal : Terminal} (optional : Optional terminal ts)
    (sign : terminal.isWord = false) (others : Separated us) : Separated (ts ++ us) := by
  rcases optional with rfl | ⟨lexeme, rfl⟩
  · exact others
  · exact (separated_after sign).mpr others

/-- What separates items: a comma or a semicolon. -/
theorem mem_separators {item : Symbol} {terminal : Terminal}
    (separates : terminal ∈ item.separators) : terminal = .comma ∨ terminal = .semicolon := by
  cases item with
  | member => simpa [Symbol.separators] using separates
  | _ => exact .inl (List.mem_singleton.mp separates)

/-- **No name follows a name or a number directly.** -/
theorem Derives.separated {symbol : Symbol} {tokens : List Token} {value : symbol.Value}
    (derives : Derives symbol tokens value) : Separated tokens := by
  induction derives with
  | noItem => exact separated_nil
  | start _ ih | type _ ih | lastAlternative _ ih | nonunion _ ih | arrays _ ih | named _ ih
  | lastItem _ ih => exact ih
  | text | numeral | firstPart => exact separated_single _
  | terminated _ ih => exact (separated_around rfl).mpr ⟨ih, separated_nil⟩
  | leadingBar _ ih | nullable _ ih => exact (separated_after rfl).mpr ih
  | alternative _ _ ihFirst ihMore => exact (separated_around rfl).mpr ⟨ihFirst, ihMore⟩
  | arrayOf _ ih => exact (separated_around rfl).mpr ⟨ih, (separated_after rfl).mpr separated_nil⟩
  | applied _ _ ihPath ihArguments =>
    refine (separated_around rfl).mpr ⟨ihPath, ?_⟩
    exact (separated_around rfl).mpr ⟨ihArguments, separated_nil⟩
  | @object _ exact_ _ _ _ _ ih =>
    have opens : (openOf exact_).isWord = false := by cases exact_ <;> rfl
    have closes : (closeOf exact_).isWord = false := by cases exact_ <;> rfl
    exact (separated_after opens).mpr ((separated_around closes).mpr ⟨ih, separated_nil⟩)
  | tuple _ ih | group _ ih =>
    exact (separated_after rfl).mpr ((separated_around rfl).mpr ⟨ih, separated_nil⟩)
  | nextPart _ ih => exact (separated_around rfl).mpr ⟨ih, separated_single _⟩
  | @item item _ _ _ _ separator _ separates _ ihFirst ihMore =>
    have sign : separator.terminal.isWord = false := by
      rcases mem_separators separates with comma | semicolon
      · rw [comma]; rfl
      · rw [semicolon]; rfl
    exact (separated_around sign).mpr ⟨ihFirst, ihMore⟩
  | @property _ mark _ key _ _ _ variance isKey optional _ ih =>
    have front : Separated (key :: mark) := by
      rcases optional with rfl | ⟨lexeme, rfl⟩
      · exact separated_single key
      · exact (@separated_around [key] [] _ rfl).mpr ⟨separated_single key, separated_nil⟩
    refine variance.separated rfl ?_
    exact (@separated_around (key :: mark) _ _ rfl).mpr ⟨front, ih⟩
  | indexer variance isLabel _ _ ihKey ihValue =>
    refine variance.separated rfl ((separated_after rfl).mpr ?_)
    rcases isLabel with rfl | ⟨name, colon, rfl⟩
    · exact (separated_around rfl).mpr ⟨ihKey, (separated_after rfl).mpr ihValue⟩
    · refine (@separated_around [_] _ _ rfl).mpr ⟨separated_single _, ?_⟩
      exact (separated_around rfl).mpr ⟨ihKey, (separated_after rfl).mpr ihValue⟩
  | call _ _ ihParameters ihResult =>
    refine (separated_after rfl).mpr ((separated_around rfl).mpr ⟨ihParameters, ?_⟩)
    exact (separated_after rfl).mpr ihResult
  | parameter isHead _ ih =>
    cases isHead with
    | @name name _ mark optional =>
      have front : Separated (⟨.name, name⟩ :: mark) := by
        rcases optional with rfl | ⟨lexeme, rfl⟩
        · exact separated_single _
        · exact (@separated_around [_] [] _ rfl).mpr ⟨separated_single _, separated_nil⟩
      simpa using (separated_around rfl).mpr ⟨front, ih⟩
    | rest =>
      refine (separated_after rfl).mpr ?_
      exact (@separated_around [_] _ _ rfl).mpr ⟨separated_single _, ih⟩

/-! ### Signs and literals -/

/-- What holds of all signs and names, and of literals that denote something, holds of all tokens
of a text that has a type. -/
theorem Derives.forall_token {holds : Token → Prop}
    (sign : ∀ terminal lexeme, terminal ≠ .text → terminal ≠ .numeral → holds ⟨terminal, lexeme⟩)
    (text : ∀ lexeme value, Unescapes (inner lexeme) value → holds ⟨.text, lexeme⟩)
    (numeral : ∀ lexeme numeral, Numeral.read? lexeme = some (numeral, []) → numeral.InRange →
      holds ⟨.numeral, lexeme⟩)
    {symbol : Symbol} {tokens : List Token} {value : symbol.Value}
    (derives : Derives symbol tokens value) : ∀ token ∈ tokens, holds token := by
  have optional {terminal : Terminal} {ts : List Token} (optional : Optional terminal ts)
      (noText : terminal ≠ .text) (noNumeral : terminal ≠ .numeral) :
      ∀ token ∈ ts, holds token := by
    rcases optional with rfl | ⟨lexeme, rfl⟩
    · exact List.forall_mem_nil _
    · exact List.forall_mem_singleton.mpr (sign terminal lexeme noText noNumeral)
  induction derives with
  | noItem => exact List.forall_mem_nil _
  | start _ ih | type _ ih | lastAlternative _ ih | nonunion _ ih | arrays _ ih | named _ ih
  | lastItem _ ih => exact ih
  | text denotes => exact List.forall_mem_singleton.mpr (text _ _ denotes)
  | numeral reads inRange => exact List.forall_mem_singleton.mpr (numeral _ _ reads inRange)
  | firstPart => exact List.forall_mem_singleton.mpr (sign _ _ (by decide) (by decide))
  | terminated _ ih | leadingBar _ ih | nullable _ ih | arrayOf _ ih | tuple _ ih | group _ ih
  | nextPart _ ih =>
    simpa only [List.forall_mem_append, List.forall_mem_cons, sign, ne_eq, reduceCtorEq,
      not_false_eq_true, List.not_mem_nil, false_implies, implies_true, and_true, true_and] using ih
  | alternative _ _ ihFirst ihMore | applied _ _ ihFirst ihMore | call _ _ ihFirst ihMore =>
    simpa only [List.forall_mem_append, List.forall_mem_cons, sign, ne_eq, reduceCtorEq,
      not_false_eq_true, List.not_mem_nil, false_implies, implies_true, and_true, true_and]
      using And.intro ihFirst ihMore
  | @object _ exact_ _ l r _ ih =>
    have opens : holds ⟨openOf exact_, l⟩ := by
      cases exact_ <;> exact sign _ _ (by decide) (by decide)
    have closes : holds ⟨closeOf exact_, r⟩ := by
      cases exact_ <;> exact sign _ _ (by decide) (by decide)
    simpa only [List.forall_mem_append, List.forall_mem_cons, opens, closes, List.not_mem_nil,
      false_implies, implies_true, and_true, true_and] using ih
  | @item _ _ _ _ _ separator _ separates _ ihFirst ihMore =>
    have isSign : holds separator := by
      refine sign separator.terminal separator.lexeme ?_ ?_ <;>
        rcases mem_separators separates with same | same <;> simp [same]
    exact List.forall_mem_append.mpr ⟨ihFirst, List.forall_mem_cons.mpr ⟨isSign, ihMore⟩⟩
  | @property _ mark _ key _ _ _ variance isKey mark_ _ ih =>
    have isHeld : holds key := by
      cases isKey with
      | bare => exact sign _ _ (by decide) (by decide)
      | text denotes => exact text _ _ denotes
    simp only [List.forall_mem_append, List.forall_mem_cons]
    exact ⟨optional variance (by decide) (by decide), isHeld,
      optional mark_ (by decide) (by decide), sign _ _ (by decide) (by decide), ih⟩
  | indexer variance isLabel _ _ ihKey ihValue =>
    have isHeld := optional variance (by decide) (by decide)
    simp only [List.forall_mem_append, List.forall_mem_cons]
    refine ⟨isHeld, sign _ _ (by decide) (by decide), ?_, ihKey, ?_⟩
    · rcases isLabel with rfl | ⟨name, colon, rfl⟩ <;> simp [sign]
    · exact ⟨sign _ _ (by decide) (by decide), sign _ _ (by decide) (by decide), ihValue⟩
  | parameter isHead _ ih =>
    refine List.forall_mem_append.mpr ⟨?_, ih⟩
    cases isHead with
    | name mark =>
      simp only [List.cons_append, List.forall_mem_append, List.forall_mem_cons]
      exact ⟨sign _ _ (by decide) (by decide), optional mark (by decide) (by decide),
        by simp [sign]⟩
    | rest => simp [sign]

/-! ### Brackets -/

/-- One open bracket less, if there is one. -/
def closeOne : Nat → Option Nat
  | 0 => none
  | depth + 1 => some depth

/-- The number of open brackets after a token, if a semicolon stands inside brackets only and no
bracket is closed that is not open. -/
def Terminal.level (depth : Nat) : Terminal → Option Nat
  | openExact | openBrace | openBracket | openParen | less => some (depth + 1)
  | closeExact | closeBrace | closeBracket | closeParen | greater => closeOne depth
  | semicolon => if depth = 0 then none else some depth
  | _ => some depth

/-- The number of open brackets after tokens. -/
def levelOf (depth : Nat) : List Token → Option Nat
  | [] => some depth
  | token :: rest => (token.terminal.level depth).bind fun depth => levelOf depth rest

/-- Tokens that leave brackets as they are, from some number of open ones on. -/
def Encloses (least : Nat) (tokens : List Token) : Prop :=
  ∀ depth, least ≤ depth → levelOf depth tokens = some depth

theorem levelOf_append (depth : Nat) (ts us : List Token) :
    levelOf depth (ts ++ us) = (levelOf depth ts).bind fun depth => levelOf depth us := by
  induction ts generalizing depth with
  | nil => rfl
  | cons token ts ih =>
    rw [List.cons_append, levelOf, levelOf]
    cases token.terminal.level depth with
    | none => rfl
    | some after => exact ih after

theorem encloses_nil (least : Nat) : Encloses least [] := fun _ _ => rfl

theorem Encloses.append {least : Nat} (left : Encloses least ts) (right : Encloses least us) :
    Encloses least (ts ++ us) := by
  intro depth enough
  rw [levelOf_append, left depth enough]
  exact right depth enough

theorem Encloses.after {least : Nat}
    (level : ∀ depth, least ≤ depth → middle.terminal.level depth = some depth)
    (right : Encloses least us) : Encloses least (middle :: us) := by
  intro depth enough
  rw [levelOf, level depth enough]
  exact right depth enough

/-- Brackets around tokens. -/
theorem Encloses.inside {least : Nat} {open_ close : Token} (inside : Encloses (least + 1) ts)
    (opens : ∀ depth, open_.terminal.level depth = some (depth + 1))
    (closes : ∀ depth, close.terminal.level (depth + 1) = some depth) (right : Encloses least us) :
    Encloses least (open_ :: (ts ++ close :: us)) := by
  intro depth enough
  rw [levelOf, opens, Option.bind_some, levelOf_append, inside (depth + 1) (by omega),
    Option.bind_some, levelOf, closes]
  exact right depth enough

/-- How many brackets must be open around what a symbol derives. -/
def Symbol.least : Symbol → Nat
  | start | list _ => 1
  | _ => 0

theorem Symbol.least_le (symbol : Symbol) : symbol.least ≤ 1 := by
  cases symbol <;> first | exact Nat.le_refl 1 | exact Nat.zero_le 1

/-- A token that is no bracket and no semicolon. -/
def Terminal.isPlain : Terminal → Bool
  | openExact | openBrace | openBracket | openParen | less => false
  | closeExact | closeBrace | closeBracket | closeParen | greater | semicolon => false
  | _ => true

theorem Terminal.level_of_isPlain {terminal : Terminal} (plain : terminal.isPlain) (depth : Nat) :
    terminal.level depth = some depth := by
  cases terminal <;> first | rfl | cases plain

theorem Encloses.plain {least : Nat} (plain : middle.terminal.isPlain) (right : Encloses least us) :
    Encloses least (middle :: us) :=
  right.after fun depth _ => Terminal.level_of_isPlain plain depth

theorem Optional.encloses {least : Nat} {terminal : Terminal} (optional : Optional terminal ts)
    (plain : terminal.isPlain) (others : Encloses least us) : Encloses least (ts ++ us) := by
  rcases optional with rfl | ⟨lexeme, rfl⟩
  · exact others
  · exact others.plain plain

theorem Encloses.mono {least more : Nat} (encloses : Encloses least ts) (atMost : least ≤ more) :
    Encloses more ts := fun depth enough => encloses depth (Nat.le_trans atMost enough)

/-- **Brackets are closed in pairs, and a semicolon stands inside brackets only.** -/
theorem Derives.encloses {symbol : Symbol} {tokens : List Token} {value : symbol.Value}
    (derives : Derives symbol tokens value) : Encloses symbol.least tokens := by
  induction derives with
  | noItem => exact encloses_nil _
  | start _ ih => exact ih.mono (Nat.zero_le 1)
  | type _ ih | lastAlternative _ ih | nonunion _ ih | arrays _ ih | named _ ih => exact ih
  | @lastItem item _ _ _ ih => exact ih.mono item.least_le
  | text | numeral | firstPart => exact (encloses_nil 0).plain rfl
  | terminated _ ih =>
    refine (ih.mono (Nat.zero_le 1)).append ((encloses_nil 1).after fun depth enough => ?_)
    exact if_neg (Nat.ne_of_gt enough)
  | leadingBar _ ih | nullable _ ih => exact ih.plain rfl
  | alternative _ _ ihFirst ihMore => exact ihFirst.append (ihMore.plain rfl)
  | arrayOf _ ih =>
    exact ih.append ((encloses_nil 1).inside (fun _ => rfl) (fun _ => rfl) (encloses_nil 0))
  | applied _ _ ihPath ihArguments =>
    exact ihPath.append (ihArguments.inside (fun _ => rfl) (fun _ => rfl) (encloses_nil 0))
  | @object _ exact_ _ _ _ _ ih =>
    refine Encloses.inside ih ?_ ?_ (encloses_nil 0)
    · cases exact_ <;> exact fun _ => rfl
    · cases exact_ <;> exact fun _ => rfl
  | tuple _ ih => exact ih.inside (fun _ => rfl) (fun _ => rfl) (encloses_nil 0)
  | group _ ih =>
    exact (ih.mono (Nat.zero_le 1)).inside (fun _ => rfl) (fun _ => rfl) (encloses_nil 0)
  | nextPart _ ih => exact ih.append (((encloses_nil 0).plain rfl).plain rfl)
  | @item item _ _ _ _ separator _ separates _ ihFirst ihMore =>
    refine (ihFirst.mono item.least_le).append (ihMore.after fun depth enough => ?_)
    rcases mem_separators separates with comma | semicolon
    · rw [comma]
      rfl
    · rw [semicolon]
      exact if_neg (Nat.ne_of_gt enough)
  | property variance isKey optional _ ih =>
    refine variance.encloses rfl (Encloses.plain ?_ (optional.encloses rfl (ih.plain rfl)))
    cases isKey <;> rfl
  | indexer variance isLabel _ _ ihKey ihValue =>
    refine variance.encloses rfl ?_
    have inside := ihKey.mono (Nat.zero_le 1)
    rcases isLabel with rfl | ⟨name, colon, rfl⟩
    · exact inside.inside (fun _ => rfl) (fun _ => rfl) (ihValue.plain rfl)
    · exact ((inside.plain rfl).plain rfl).inside (fun _ => rfl) (fun _ => rfl) (ihValue.plain rfl)
  | call _ _ ihParameters ihResult =>
    exact ihParameters.inside (fun _ => rfl) (fun _ => rfl) (ihResult.plain rfl)
  | parameter isHead _ ih =>
    cases isHead with
    | @name name colon mark optional =>
      have behind : Encloses Symbol.parameter.least (⟨.colon, colon⟩ :: _) := ih.plain rfl
      have whole := @Encloses.plain _ ⟨.name, name⟩ _ rfl (optional.encloses rfl behind)
      simpa using whole
    | rest => exact ((ih.plain rfl).plain rfl).plain rfl

end TypeSchema
