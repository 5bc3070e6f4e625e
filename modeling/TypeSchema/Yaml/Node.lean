/-
**Nodes of YAML documents.**

* `Node`: a scalar, a sequence or a mapping with its tag; an alias inside the node that it names is
  a `cycle`;
* `impliedTag`: the tag of a plain scalar, read off its text;
* `Node.ofText?`: the node of the one document of a text, if there is one.

The reader takes a bound on the depth of its calls, which the number of tokens gives.
-/

import TypeSchema.Yaml.Token

namespace TypeSchema.Yaml

/-- A node of a document. -/
inductive Node where
  | scalar (tag text : String)
  | sequence (tag : String) (items : List Node)
  | mapping (tag : String) (entries : List (Node × Node))
  | cycle
deriving Inhabited

/-- The tag of a basic type. -/
def basicTag (name : String) : String := "tag:yaml.org,2002:" ++ name

/-- Whether a character is a digit or an underscore. -/
def isDigitOrGap (c : Char) : Bool := c.isDigit || c == '_'

/-- The text after an optional sign. -/
def afterSign : List Char → List Char
  | '+' :: rest => rest
  | '-' :: rest => rest
  | text => text

/-- Whether a text is one or more groups of a colon and a number below sixty. -/
def isSexagesimalTail : List Char → Bool
  | [] => true
  | ':' :: a :: b :: rest =>
    if '0' ≤ a ∧ a ≤ '5' ∧ b.isDigit then isSexagesimalTail rest
    else a.isDigit && isSexagesimalTail (b :: rest)
  | [':', a] => a.isDigit
  | _ => false

/-- Whether a text is a power of ten with its sign, or empty. -/
def isSignedExponent : List Char → Bool
  | [] => true
  | mark :: sign :: digits =>
    (mark == 'e' || mark == 'E') && (sign == '+' || sign == '-') && digits != [] &&
      digits.all Char.isDigit
  | _ => false

/-- Whether a text is an integer: in base two, eight, ten or sixteen, or in groups of sixty. -/
def isInteger (text : List Char) : Bool :=
  match afterSign text with
  | '0' :: 'b' :: rest => rest != [] && rest.all fun c => c == '0' || c == '1' || c == '_'
  | '0' :: 'x' :: rest => rest != [] && rest.all fun c => isHexDigit c || c == '_'
  | ['0'] => true
  | '0' :: rest => rest.all fun c => ('0' ≤ c && c ≤ '7') || c == '_'
  | c :: rest => '1' ≤ c && c ≤ '9' && isSexagesimalTail (rest.dropWhile isDigitOrGap)
  | [] => false

/-- Whether a text is a double precision number: with a point, in groups of sixty with a point, or a
word for what is not finite. -/
def isReal (text : List Char) : Bool :=
  let magnitude := afterSign text
  if [".inf", ".Inf", ".INF"].any (·.toList == magnitude) then true
  else if [".nan", ".NaN", ".NAN"].any (·.toList == text) then true
  else
    match text with
    | '.' :: c :: rest => c.isDigit && isSignedExponent (rest.dropWhile isDigitOrGap)
    | _ =>
      magnitude.head?.any Char.isDigit &&
        match magnitude.dropWhile isDigitOrGap with
        | '.' :: rest => isSignedExponent (rest.dropWhile isDigitOrGap)
        | rest =>
          let groups := rest.takeWhile fun c => c.isDigit || c == ':'
          let fraction := rest.drop groups.length
          groups != [] && isSexagesimalTail groups && fraction.head? == some '.' &&
            fraction.tail.all isDigitOrGap

/-- The first digits of a text, at least one and at most the given number. -/
def digitsUpTo (most : Nat) (text : List Char) : Option (List Char × List Char) :=
  let digits := (text.take most).takeWhile Char.isDigit
  if digits = [] then none else some (digits, text.drop digits.length)

/-- Exactly the given number of digits at the start of a text. -/
def digitsOf (count : Nat) (text : List Char) : Option (List Char × List Char) :=
  let digits := text.take count
  if digits.length = count ∧ digits.all Char.isDigit then some (digits, text.drop count) else none

/-- The text after a character. -/
def afterChar (c : Char) : List Char → Option (List Char)
  | [] => none
  | d :: rest => if c = d then some rest else none

/-- A point in time as it is written: a date, perhaps a time of day. -/
structure Timestamp where
  year : Nat
  month : Nat
  day : Nat
  time : Option (Nat × Nat × Nat)
deriving DecidableEq, Repr

/-- Whether a text is an offset from universal time, or empty. -/
def isZone (text : List Char) : Bool :=
  match text.dropWhile isGap with
  | [] => text = []
  | ['Z'] => true
  | sign :: rest =>
    (sign == '+' || sign == '-') &&
      match digitsUpTo 2 rest with
      | none => false
      | some (_, []) => true
      | some (_, after) => ((afterChar ':' after).bind (digitsOf 2)).any fun (_, last) => last = []

/-- The rest of a time of day after its seconds: a fraction and a zone. -/
def isTimeTail (text : List Char) : Bool :=
  match text with
  | '.' :: rest => isZone (rest.dropWhile Char.isDigit)
  | _ => isZone text

/-- The point in time that a text names: a date with four, two and two digits, or a date and a time
with any number of digits up to that. -/
def timestamp? (text : List Char) : Option Timestamp := do
  let (year, rest) ← digitsOf 4 text
  let rest ← afterChar '-' rest
  let (month, rest) ← digitsUpTo 2 rest
  let rest ← afterChar '-' rest
  let (day, rest) ← digitsUpTo 2 rest
  if rest = [] then
    if month.length = 2 ∧ day.length = 2 then
      some ⟨digitsValue year, digitsValue month, digitsValue day, none⟩
    else none
  else
    let rest ←
      match rest with
      | 'T' :: rest => some rest
      | 't' :: rest => some rest
      | c :: rest => if isGap c then some (rest.dropWhile isGap) else none
      | [] => none
    let (hour, rest) ← digitsUpTo 2 rest
    let rest ← afterChar ':' rest
    let (minute, rest) ← digitsOf 2 rest
    let rest ← afterChar ':' rest
    let (second, rest) ← digitsOf 2 rest
    if isTimeTail rest then
      some ⟨digitsValue year, digitsValue month, digitsValue day,
        some (digitsValue hour, digitsValue minute, digitsValue second)⟩
    else none

/-- The words for truth, in the spellings that count. -/
def truthWords : List String :=
  ["yes", "Yes", "YES", "no", "No", "NO", "true", "True", "TRUE", "false", "False", "FALSE",
    "on", "On", "ON", "off", "Off", "OFF"]

/-- The tag of a plain scalar. -/
def impliedTag (text : String) : String :=
  if truthWords.contains text then basicTag "bool"
  else if isReal text.toList then basicTag "float"
  else if isInteger text.toList then basicTag "int"
  else if text = "<<" then basicTag "merge"
  else if ["~", "null", "Null", "NULL", ""].contains text then basicTag "null"
  else if (timestamp? text.toList).isSome then basicTag "timestamp"
  else if text = "=" then basicTag "value"
  else basicTag "str"

/-- The state of reading nodes: the tokens left, why they end, the handles of tags, and the anchors
so far, without a node while that is being read. -/
structure Composer where
  tokens : List Token
  failure : Option Error
  handles : List (String × String)
  anchors : List (String × Option Node)

/-- A step of reading nodes. -/
abbrev Compose := StateT Composer (Except Error)

namespace Compose

/-- The next token. -/
def peek : Compose Token := do
  let state ← get
  match state.tokens with
  | token :: _ => return token
  | [] => throw (state.failure.getD .arrangement)

/-- Moves past the next token. -/
def skip : Compose Unit := modify fun state => { state with tokens := state.tokens.tail }

/-- The handles of tags that every document has. -/
def usualHandles : List (String × String) := [("!", "!"), ("!!", basicTag "")]

/-- The full name of a tag. -/
def expandTag (handle : Option String) (suffix : String) : Compose String := do
  match handle with
  | none => return suffix
  | some handle =>
    match (← get).handles.lookup handle with
    | some first => return first ++ suffix
    | none => throw .arrangement

/-- The anchor and the tag in front of a node, in either order. -/
def properties : Compose (Option String × Option String) := do
  match ← peek with
  | .anchor name =>
    skip
    match ← peek with
    | .tag handle suffix => skip; return (some name, some (← expandTag handle suffix))
    | _ => return (some name, none)
  | .tag handle suffix =>
    skip
    match ← peek with
    | .anchor name => skip; return (some name, some (← expandTag handle suffix))
    | _ => return (none, some (← expandTag handle suffix))
  | _ => return (none, none)

/-- Names the node that is about to be read. -/
def beginAnchor (anchor : Option String) : Compose Unit := do
  match anchor with
  | none => return
  | some name =>
    if ((← get).anchors.lookup name).isSome then throw .reference
    else modify fun state => { state with anchors := (name, none) :: state.anchors }

/-- Gives a name its node. -/
def endAnchor (anchor : Option String) (node : Node) : Compose Unit :=
  match anchor with
  | none => return
  | some name => modify fun state => { state with anchors := (name, some node) :: state.anchors }

/-- The node that an alias names. -/
def aliased (name : String) : Compose Node := do
  match (← get).anchors.lookup name with
  | none => throw .reference
  | some none => return .cycle
  | some (some node) => return node

/-- A node without content. -/
def emptyNode : Node := .scalar (basicTag "null") ""

/-- The tag of a scalar: given, or implied by a plain text. -/
def scalarTag (tag : Option String) (text : String) (plain : Bool) : String :=
  match tag with
  | none => if plain then impliedTag text else basicTag "str"
  | some tag => if tag = "!" then impliedTag text else tag

/-- The tag of a collection. -/
def collectionTag (tag : Option String) (name : String) : String :=
  match tag with
  | none => basicTag name
  | some tag => if tag = "!" then basicTag name else tag

mutual

/-- A node. `block` allows blocks, `indentless` a sequence that is indented like the mapping around
it. -/
def node (fuel : Nat) (block indentless : Bool) : Compose Node :=
  match fuel with
  | 0 => throw .arrangement
  | fuel + 1 => do
    match ← peek with
    | .reference name => skip; aliased name
    | _ =>
      let (anchor, tag) ← properties
      let token ← peek
      match token with
      | .blockEntry =>
        if indentless then
          beginAnchor anchor
          let items ← indentlessItems fuel
          finish anchor (.sequence (collectionTag tag "seq") items)
        else bare anchor tag
      | .scalar text plain =>
        beginAnchor anchor
        skip
        finish anchor (.scalar (scalarTag tag text plain) text)
      | .flowSequenceStart =>
        beginAnchor anchor
        skip
        let items ← flowItems fuel true
        finish anchor (.sequence (collectionTag tag "seq") items)
      | .flowMappingStart =>
        beginAnchor anchor
        skip
        let entries ← flowEntries fuel true
        finish anchor (.mapping (collectionTag tag "map") entries)
      | .sequenceStart =>
        if block then
          beginAnchor anchor
          skip
          let items ← blockItems fuel
          finish anchor (.sequence (collectionTag tag "seq") items)
        else bare anchor tag
      | .mappingStart =>
        if block then
          beginAnchor anchor
          skip
          let entries ← blockEntries fuel
          finish anchor (.mapping (collectionTag tag "map") entries)
        else bare anchor tag
      | _ => bare anchor tag
where
  /-- Gives the node its name. -/
  finish (anchor : Option String) (node : Node) : Compose Node := do
    endAnchor anchor node
    return node
  /-- A node of which only an anchor or a tag is there. -/
  bare (anchor tag : Option String) : Compose Node := do
    if anchor.isNone ∧ tag.isNone then throw .arrangement
    else
      beginAnchor anchor
      finish anchor (.scalar (scalarTag tag "" (tag.isNone || tag == some "!")) "")

/-- The items of a block sequence. -/
def blockItems (fuel : Nat) : Compose (List Node) :=
  match fuel with
  | 0 => throw .arrangement
  | fuel + 1 => do
    match ← peek with
    | .blockEntry =>
      skip
      let item ← match ← peek with
        | .blockEntry | .blockEnd => pure emptyNode
        | _ => node fuel true false
      let items ← blockItems fuel
      return item :: items
    | .blockEnd => skip; return []
    | _ => throw .arrangement

/-- The items of a sequence that is indented like the mapping around it. -/
def indentlessItems (fuel : Nat) : Compose (List Node) :=
  match fuel with
  | 0 => throw .arrangement
  | fuel + 1 => do
    match ← peek with
    | .blockEntry =>
      skip
      let item ← match ← peek with
        | .blockEntry | .key | .value | .blockEnd => pure emptyNode
        | _ => node fuel true false
      let items ← indentlessItems fuel
      return item :: items
    | _ => return []

/-- The entries of a block mapping. -/
def blockEntries (fuel : Nat) : Compose (List (Node × Node)) :=
  match fuel with
  | 0 => throw .arrangement
  | fuel + 1 => do
    match ← peek with
    | .key =>
      skip
      let key ← match ← peek with
        | .key | .value | .blockEnd => pure emptyNode
        | _ => node fuel true true
      let value ← blockValue fuel
      let entries ← blockEntries fuel
      return (key, value) :: entries
    | .blockEnd => skip; return []
    | _ => throw .arrangement

/-- The value of an entry of a block mapping. -/
def blockValue (fuel : Nat) : Compose Node :=
  match fuel with
  | 0 => throw .arrangement
  | fuel + 1 => do
    match ← peek with
    | .value =>
      skip
      match ← peek with
      | .key | .value | .blockEnd => return emptyNode
      | _ => node fuel true true
    | _ => return emptyNode

/-- The items of a flow sequence; an item with a key is a mapping of one entry. -/
def flowItems (fuel : Nat) (first : Bool) : Compose (List Node) :=
  match fuel with
  | 0 => throw .arrangement
  | fuel + 1 => do
    match ← peek with
    | .flowSequenceEnd => skip; return []
    | token =>
      if !first then
        if token = .flowEntry then skip else throw .arrangement
      match ← peek with
      | .key =>
        skip
        let key ← match ← peek with
          | .value | .flowEntry | .flowSequenceEnd => pure emptyNode
          | _ => node fuel false false
        let value ← match ← peek with
          | .value =>
            skip
            match ← peek with
            | .flowEntry | .flowSequenceEnd => pure emptyNode
            | _ => node fuel false false
          | _ => pure emptyNode
        let items ← flowItems fuel false
        return .mapping (basicTag "map") [(key, value)] :: items
      | .flowSequenceEnd => skip; return []
      | _ =>
        let item ← node fuel false false
        let items ← flowItems fuel false
        return item :: items

/-- The entries of a flow mapping; an item without a key has no value. -/
def flowEntries (fuel : Nat) (first : Bool) : Compose (List (Node × Node)) :=
  match fuel with
  | 0 => throw .arrangement
  | fuel + 1 => do
    match ← peek with
    | .flowMappingEnd => skip; return []
    | token =>
      if !first then
        if token = .flowEntry then skip else throw .arrangement
      match ← peek with
      | .key =>
        skip
        let key ← match ← peek with
          | .value | .flowEntry | .flowMappingEnd => pure emptyNode
          | _ => node fuel false false
        let value ← match ← peek with
          | .value =>
            skip
            match ← peek with
            | .flowEntry | .flowMappingEnd => pure emptyNode
            | _ => node fuel false false
          | _ => pure emptyNode
        let entries ← flowEntries fuel false
        return (key, value) :: entries
      | .flowMappingEnd => skip; return []
      | _ =>
        let key ← node fuel false false
        let entries ← flowEntries fuel false
        return (key, emptyNode) :: entries

end

/-- The directives before a document. -/
def directives (fuel : Nat) (version : Bool) (handles : List (String × String)) : Compose Unit :=
  match fuel with
  | 0 => throw .arrangement
  | fuel + 1 => do
    match ← peek with
    | .version major =>
      skip
      if version ∨ major ≠ 1 then throw .arrangement else directives fuel true handles
    | .tagPrefix handle first =>
      skip
      if (handles.lookup handle).isSome then throw .arrangement
      else directives fuel version (handles ++ [(handle, first)])
    | .directive => skip; directives fuel version handles
    | _ => modify fun state => { state with handles := handles ++ usualHandles }

/-- Moves past the marks that end a document. -/
def skipEnds (fuel : Nat) : Compose Unit :=
  match fuel with
  | 0 => return
  | fuel + 1 => do
    match ← peek with
    | .documentEnd => skip; skipEnds fuel
    | _ => return

/-- The start of a document after the first one or with a mark; none at the end of the text. -/
def documentStart (fuel : Nat) : Compose Bool := do
  skipEnds fuel
  match ← peek with
  | .streamEnd => return false
  | _ =>
    directives fuel false []
    match ← peek with
    | .documentStart => skip; return true
    | _ => throw .arrangement

/-- The content of a document after its mark. -/
def documentContent (fuel : Nat) : Compose Node := do
  match ← peek with
  | .version _ | .tagPrefix .. | .directive | .documentStart | .documentEnd | .streamEnd =>
    return emptyNode
  | _ => node fuel true false

/-- The one document of a text, if there is one. -/
def document (fuel : Nat) : Compose (Option Node) := do
  let content ← match ← peek with
    | .streamEnd => pure none
    | .version _ | .tagPrefix .. | .directive | .documentStart =>
      if ← documentStart fuel then some <$> documentContent fuel else pure none
    | _ => some <$> node fuel true false
  match content with
  | none => return none
  | some content =>
    match ← peek with
    | .documentEnd => skip
    | _ => pure ()
    if ← documentStart fuel then throw .reference
    return some content

end Compose

/-- Whether a character may occur in a text. -/
def isAllowed (c : Char) : Bool :=
  c == '\t' || c == '\n' || c == '\r' || c == '\u0085' || (' ' ≤ c && c ≤ '~') ||
    ('\u00a0' ≤ c && c ≤ '\uFFFD') || 0x10000 ≤ c.toNat

/-- The node of the one document of a text, if there is one. -/
def Node.ofText? (text : List Char) : Except Error (Option Node) :=
  if text.all isAllowed then
    let read := Tokens.ofText text
    ((Compose.document (3 * read.tokens.length + 3)).run
      ⟨read.tokens, read.failure, Compose.usualHandles, []⟩).map Prod.fst
  else .error .character

end TypeSchema.Yaml
