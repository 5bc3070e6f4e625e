/-
**The grammar of type texts.**

* `Tokens`: a text as tokens. Each token is the longest lexeme of any kind, and white space may
  stand between tokens only; `Terminal.Lexeme` gives the lexemes of each kind;
* `Derives`: the tokens that a symbol of the grammar derives, and what they denote. Each rule stands
  here with the tree it builds.

Nothing here mentions a reader: a text has a type if its tokens derive one.
-/

import TypeSchema.TypeExpr.Meaning

namespace TypeSchema

/-- A token of a type text. -/
structure Token where
  terminal : Terminal
  lexeme : List Char

/-! ### Lexemes -/

/-- One or more digits of any script. -/
def IsDigits (digits : List Char) : Prop := digits ≠ [] ∧ ∀ c ∈ digits, isDecimalDigit c

/-- What stands between the quotes of a string literal. -/
inductive IsStringBody (quote : Char) : List Char → Prop
  | nil : IsStringBody quote []
  | plain {c : Char} {rest : List Char} (notQuote : c ≠ quote) (notEscape : c ≠ '\\')
      (notLine : c ≠ '\n') (body : IsStringBody quote rest) : IsStringBody quote (c :: rest)
  | escaped {c : Char} {rest : List Char} (notLine : c ≠ '\n') (body : IsStringBody quote rest) :
      IsStringBody quote ('\\' :: c :: rest)

/-- The digits of a numeral, with at most one point among them. -/
inductive IsMantissa : List Char → Prop
  | integer {whole : List Char} (digits : IsDigits whole) : IsMantissa whole
  | point {whole fraction : List Char} (digits : IsDigits whole)
      (more : ∀ c ∈ fraction, isDecimalDigit c) : IsMantissa (whole ++ '.' :: fraction)
  | fraction {fraction : List Char} (digits : IsDigits fraction) : IsMantissa ('.' :: fraction)

/-- The power of ten of a numeral, perhaps with a sign, or nothing. -/
inductive IsExponent : List Char → Prop
  | none : IsExponent []
  | unsigned {mark : Char} {digits : List Char} (isMark : mark = 'e' ∨ mark = 'E')
      (isDigits : IsDigits digits) : IsExponent (mark :: digits)
  | signed {mark sign : Char} {digits : List Char} (isMark : mark = 'e' ∨ mark = 'E')
      (isSign : sign = '+' ∨ sign = '-') (isDigits : IsDigits digits) :
      IsExponent (mark :: sign :: digits)

namespace Terminal

/-- The lexemes of a kind of tokens. -/
def Lexeme : Terminal → List Char → Prop
  | text, lexeme => ∃ quote body, (quote = '"' ∨ quote = '\'') ∧ IsStringBody quote body ∧
      lexeme = quote :: (body ++ [quote])
  | numeral, lexeme => ∃ sign mantissa exponent, (sign = [] ∨ sign = ['-']) ∧
      IsMantissa mantissa ∧ IsExponent exponent ∧ lexeme = sign ++ (mantissa ++ exponent)
  | name, lexeme => ∃ c rest, isNameStart c ∧ (∀ c ∈ rest, isNamePart c) ∧ lexeme = c :: rest
  | variance, lexeme => lexeme = ['+'] ∨ lexeme = ['-']
  | ellipsis, lexeme => lexeme = ['.', '.', '.']
  | openExact, lexeme => lexeme = ['\x7b', '|']
  | closeExact, lexeme => lexeme = ['|', '\x7d']
  | openBrace, lexeme => lexeme = ['\x7b']
  | closeBrace, lexeme => lexeme = ['\x7d']
  | openBracket, lexeme => lexeme = ['[']
  | closeBracket, lexeme => lexeme = [']']
  | openParen, lexeme => lexeme = ['(']
  | closeParen, lexeme => lexeme = [')']
  | less, lexeme => lexeme = ['<']
  | greater, lexeme => lexeme = ['>']
  | bar, lexeme => lexeme = ['|']
  | question, lexeme => lexeme = ['?']
  | comma, lexeme => lexeme = [',']
  | semicolon, lexeme => lexeme = [';']
  | colon, lexeme => lexeme = [':']
  | dot, lexeme => lexeme = ['.']

end Terminal

/-- A token stands at the beginning of a text: it has the lexeme of its kind. -/
def Token.Begins (token : Token) (text : List Char) : Prop :=
  token.terminal.Lexeme token.lexeme ∧ token.lexeme <+: text

/-- No longer token begins the text. -/
def Token.Longest (token : Token) (text : List Char) : Prop :=
  token.Begins text ∧ ∀ other : Token, other.Begins text → other.lexeme.length ≤ token.lexeme.length

/-- A text as tokens. -/
inductive Tokens : List Char → List Token → Prop
  | nil : Tokens [] []
  | space {c : Char} {rest : List Char} {tokens : List Token} (space : isTokenSpace c)
      (more : Tokens rest tokens) : Tokens (c :: rest) tokens
  | token {text : List Char} {token : Token} {tokens : List Token} (longest : token.Longest text)
      (more : Tokens (text.drop token.lexeme.length) tokens) : Tokens text (token :: tokens)

/-! ### Literals -/

/-- The code points that the inside of a string literal denotes. No escape by number is above the
last one; the number of a surrogate denotes that surrogate. -/
inductive Unescapes : List Char → List CodePoint → Prop
  | nil : Unescapes [] []
  | plain {c : Char} {rest : List Char} {value : List CodePoint} (notEscape : c = '\\' → rest = [])
      (more : Unescapes rest value) : Unescapes (c :: rest) (.ofChar c :: value)
  | letter {letter : Char} {rest : List Char} {value : List CodePoint}
      (noNumber : numberEscape? letter rest = none) (more : Unescapes rest value) :
      Unescapes ('\\' :: letter :: rest) (.ofChar (escapeLetter letter) :: value)
  | number {letter : Char} {rest : List Char} {value : List CodePoint} {number width : Nat}
      (isNumber : numberEscape? letter rest = some (number, width))
      (inRange : number < 0x110000) (more : Unescapes (rest.drop width) value) :
      Unescapes ('\\' :: letter :: rest) (⟨number, inRange⟩ :: value)

/-- An integer is not too long. -/
def Numeral.InRange (numeral : Numeral) : Prop :=
  numeral.isInteger → numeral.whole.length ≤ digitLimit

/-- The number that a numeral denotes. -/
def Numeral.number (numeral : Numeral) : Number :=
  if numeral.isInteger then .int numeral.toInt else .real numeral.toBinary64

/-! ### Rules -/

/-- The symbols of the grammar. -/
inductive Symbol where
  | start
  | type
  /-- The alternatives of a union, with bars between them. -/
  | alternatives
  | nonunion
  /-- A primary type and any number of pairs of brackets. -/
  | arrays
  | primary
  /-- The parts of a dotted name. -/
  | path
  | member
  | parameter
  /-- Any number of items, with separators between them and perhaps one after the last. -/
  | list (item : Symbol)

namespace Symbol

/-- What a symbol denotes. -/
abbrev Value : Symbol → Type
  | start | type | nonunion | arrays | primary => ReadNode
  | alternatives => List ReadNode
  | path => List String
  | member => Contribution
  | parameter => Unit
  | list item => List item.Value

/-- The tokens that separate items. -/
def separators : Symbol → List Terminal
  | member => [.comma, .semicolon]
  | _ => [.comma]

end Symbol

/-- A single alternative is no union. -/
def unionOf : List ReadNode → ReadNode
  | [type] => type
  | types => .union types

/-- The token that opens an object. -/
def openOf (exact : Bool) : Terminal := if exact then .openExact else .openBrace

/-- The key of a property and its name. -/
inductive Token.IsKey : Token → List CodePoint → Prop
  | bare {lexeme : List Char} : IsKey ⟨.name, lexeme⟩ (pointsOf lexeme)
  | text {lexeme : List Char} {value : List CodePoint} (denotes : Unescapes (inner lexeme) value) :
      IsKey ⟨.text, lexeme⟩ value

/-- One token of a kind. -/
def One (terminal : Terminal) (tokens : List Token) : Prop :=
  ∃ lexeme, tokens = [⟨terminal, lexeme⟩]

/-- At most one token of a kind. -/
def Optional (terminal : Terminal) (tokens : List Token) : Prop :=
  tokens = [] ∨ One terminal tokens

/-- The name of an indexer, which denotes nothing. -/
def IsLabel (tokens : List Token) : Prop :=
  tokens = [] ∨ ∃ name colon, tokens = [⟨.name, name⟩, ⟨.colon, colon⟩]

/-- The beginning of a parameter, up to its type: a name, or an ellipsis and a name. -/
inductive IsParameterHead : List Token → Prop
  | name {name colon : List Char} {mark : List Token} (optional : Optional .question mark) :
      IsParameterHead (⟨.name, name⟩ :: mark ++ [⟨.colon, colon⟩])
  | rest {dots name colon : List Char} :
      IsParameterHead [⟨.ellipsis, dots⟩, ⟨.name, name⟩, ⟨.colon, colon⟩]

/-- The tokens that a symbol derives, and what they denote. -/
inductive Derives : (symbol : Symbol) → List Token → symbol.Value → Prop
  | start {ts : List Token} {type : ReadNode} (whole : Derives .type ts type) :
      Derives .start ts type
  | terminated {ts : List Token} {type : ReadNode} {l : List Char}
      (whole : Derives .type ts type) : Derives .start (ts ++ [⟨.semicolon, l⟩]) type
  | type {ts : List Token} {types : List ReadNode} (union : Derives .alternatives ts types) :
      Derives .type ts (unionOf types)
  | leadingBar {ts : List Token} {types : List ReadNode} {l : List Char}
      (union : Derives .alternatives ts types) : Derives .type (⟨.bar, l⟩ :: ts) (unionOf types)
  | lastAlternative {ts : List Token} {type : ReadNode} (last : Derives .nonunion ts type) :
      Derives .alternatives ts [type]
  | alternative {ts us : List Token} {type : ReadNode} {types : List ReadNode} {l : List Char}
      (first : Derives .nonunion ts type) (more : Derives .alternatives us types) :
      Derives .alternatives (ts ++ ⟨.bar, l⟩ :: us) (type :: types)
  | nullable {ts : List Token} {type : ReadNode} {l : List Char}
      (inner : Derives .nonunion ts type) :
      Derives .nonunion (⟨.question, l⟩ :: ts) (.nullable type)
  | nonunion {ts : List Token} {type : ReadNode} (inner : Derives .arrays ts type) :
      Derives .nonunion ts type
  | arrays {ts : List Token} {type : ReadNode} (inner : Derives .primary ts type) :
      Derives .arrays ts type
  | arrayOf {ts : List Token} {type : ReadNode} {l r : List Char}
      (element : Derives .arrays ts type) :
      Derives .arrays (ts ++ [⟨.openBracket, l⟩, ⟨.closeBracket, r⟩]) (.generic "Array" [type])
  | named {ts : List Token} {path : List String} (isPath : Derives .path ts path) :
      Derives .primary ts (namedType (".".intercalate path))
  | applied {ts us : List Token} {path : List String} {first : ReadNode} {more : List ReadNode}
      {l r : List Char} (isPath : Derives .path ts path)
      (arguments : Derives (.list .type) us (first :: more)) :
      Derives .primary (ts ++ ⟨.less, l⟩ :: (us ++ [⟨.greater, r⟩]))
        (.generic (".".intercalate path) (first :: more))
  | text {lexeme : List Char} {value : List CodePoint} (denotes : Unescapes (inner lexeme) value) :
      Derives .primary [⟨.text, lexeme⟩] (.literal .string (.text value))
  | numeral {lexeme : List Char} {numeral : Numeral}
      (reads : Numeral.read? lexeme = some (numeral, [])) (inRange : numeral.InRange) :
      Derives .primary [⟨.numeral, lexeme⟩] (.literal .number (.number numeral.number))
  | object {ts : List Token} {exact : Bool} {members : List Contribution} {l r : List Char}
      (inside : Derives (.list .member) ts members) :
      Derives .primary (⟨openOf exact, l⟩ :: (ts ++ [⟨closeOf exact, r⟩]))
        (objectType exact members)
  | tuple {ts : List Token} {types : List ReadNode} {l r : List Char}
      (elements : Derives (.list .type) ts types) :
      Derives .primary (⟨.openBracket, l⟩ :: (ts ++ [⟨.closeBracket, r⟩])) (.tuple types)
  | group {ts : List Token} {type : ReadNode} {l r : List Char} (inside : Derives .type ts type) :
      Derives .primary (⟨.openParen, l⟩ :: (ts ++ [⟨.closeParen, r⟩])) type
  | firstPart {name : List Char} : Derives .path [⟨.name, name⟩] [String.ofList name]
  | nextPart {ts : List Token} {path : List String} {l name : List Char}
      (front : Derives .path ts path) :
      Derives .path (ts ++ [⟨.dot, l⟩, ⟨.name, name⟩]) (path ++ [String.ofList name])
  | noItem {item : Symbol} : Derives (.list item) [] []
  | lastItem {item : Symbol} {ts : List Token} {value : item.Value}
      (last : Derives item ts value) : Derives (.list item) ts [value]
  | item {item : Symbol} {ts us : List Token} {value : item.Value} {values : List item.Value}
      {separator : Token} (first : Derives item ts value)
      (separates : separator.terminal ∈ item.separators)
      (more : Derives (.list item) us values) :
      Derives (.list item) (ts ++ separator :: us) (value :: values)
  | property {sign mark ts : List Token} {key : Token} {name : List CodePoint} {type : ReadNode}
      {colon : List Char} (variance : Optional .variance sign) (isKey : key.IsKey name)
      (optional : Optional .question mark) (value : Derives .type ts type) :
      Derives .member (sign ++ key :: (mark ++ ⟨.colon, colon⟩ :: ts))
        (.property ⟨name, type, !mark.isEmpty⟩)
  | indexer {sign label ts us : List Token} {key value : ReadNode} {l r colon : List Char}
      (variance : Optional .variance sign) (isLabel : IsLabel label)
      (isKey : Derives .type ts key) (isValue : Derives .type us value) :
      Derives .member (sign ++ ⟨.openBracket, l⟩ ::
        (label ++ (ts ++ ⟨.closeBracket, r⟩ :: ⟨.colon, colon⟩ :: us))) (.indexer ⟨value, some key⟩)
  | call {ts us : List Token} {values : List Unit} {result : ReadNode} {l r colon : List Char}
      (parameters : Derives (.list .parameter) ts values) (isResult : Derives .type us result) :
      Derives .member (⟨.openParen, l⟩ :: (ts ++ ⟨.closeParen, r⟩ :: ⟨.colon, colon⟩ :: us)) .call
  | parameter {head ts : List Token} {type : ReadNode} (isHead : IsParameterHead head)
      (isType : Derives .type ts type) : Derives .parameter (head ++ ts) ()

end TypeSchema
