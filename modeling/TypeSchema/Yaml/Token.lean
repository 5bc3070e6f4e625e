/-
**Tokens of YAML texts.**

* `Token`: the signs, the marks of blocks that indentation opens and closes, and scalars;
* `Scanner`: a place, the open blocks and flow collections, and the tokens that may turn out to be
  the key of a mapping when a `:` follows them on the same line;
* `Tokens.ofText`: the tokens of a text. Where no token can be read the list ends with the reason;
  tokens after one that may still become a key are then not in it.
-/

import TypeSchema.Yaml.Scalar

namespace TypeSchema.Yaml

/-- A token. -/
inductive Token where
  | version (major : Nat)
  | tagPrefix (handle first : String)
  | directive
  | documentStart
  | documentEnd
  | streamEnd
  | sequenceStart
  | mappingStart
  | blockEnd
  | flowSequenceStart
  | flowSequenceEnd
  | flowMappingStart
  | flowMappingEnd
  | blockEntry
  | flowEntry
  | key
  | value
  | reference (name : String)
  | anchor (name : String)
  | tag (handle : Option String) (suffix : String)
  | scalar (text : String) (plain : Bool)
deriving DecidableEq, Repr

/-- Whether a character may stand in the name of an anchor, a directive or a tag handle. -/
def isNameChar (c : Char) : Bool := c.isAlphanum || c == '-' || c == '_'

/-- Whether a character may stand in the name of a tag. -/
def isTagChar (c : Char) : Bool := c.isAlphanum || "-;/?:@&=+$,_.!~*'()[]%".toList.contains c

/-- The name at the cursor. -/
def nameAt (cursor : Cursor) : Except Error (String × Cursor) :=
  match cursor.takeWhile isNameChar with
  | ([], _) => .error .token
  | (name, place) => .ok (String.ofList name, place)

/-- The name of an alias or an anchor after its sign. -/
def anchorName (cursor : Cursor) : Except Error (String × Cursor) := do
  let (name, place) ← nameAt cursor
  if isBlankOrEnd place.peek ∨ place.peek.any fun c => "?:,]\x7d%@\x60".toList.contains c then
    return (name, place)
  else .error .token

/-- A tag handle: an exclamation mark, perhaps a name and another one. -/
def tagHandle (cursor : Cursor) : Except Error (String × Cursor) :=
  if cursor.peek = some '!' then
    if cursor.next.peek = some ' ' then .ok ("!", cursor.next)
    else
      let (name, place) := cursor.next.takeWhile isNameChar
      if place.peek = some '!' then .ok (String.ofList ('!' :: name ++ ['!']), place.next)
      else .error .token
  else .error .token

/-- The bytes of percent escapes at the beginning of a text. -/
def percentBytes : List Char → List UInt8
  | '%' :: a :: b :: rest =>
    if isHexDigit a ∧ isHexDigit b then UInt8.ofNat (hexValue [a, b]) :: percentBytes rest else []
  | _ => []

/-- The name of a tag, with percent escapes decoded. -/
def tagName (fuel : Nat) (cursor : Cursor) : Except Error (List Char × Cursor) :=
  match fuel with
  | 0 => .error .token
  | fuel + 1 =>
    match cursor.peek with
    | none => .ok ([], cursor)
    | some '%' =>
      let bytes := percentBytes cursor.rest
      let after := cursor.advance (3 * bytes.length)
      match String.fromUTF8? ⟨bytes.toArray⟩ with
      | some text =>
        if bytes = [] ∨ after.peek = some '%' then .error .token
        else do
          let (more, last) ← tagName fuel after
          return (text.toList ++ more, last)
      | none => .error .token
    | some c =>
      if isTagChar c then do
        let (more, last) ← tagName fuel cursor.next
        return (c :: more, last)
      else .ok ([], cursor)

/-- The name of a tag that has at least one character. -/
def tagNameAt (cursor : Cursor) : Except Error (String × Cursor) := do
  let (name, place) ← tagName cursor.bound cursor
  if name = [] then .error .token else return (String.ofList name, place)

/-- Whether a text has an exclamation mark before its first space or line end. -/
def hasHandle (text : List Char) : Bool :=
  (text.takeWhile fun c => !endsWord (some c)).contains '!'

/-- The tag at the cursor. -/
def tagAt (cursor : Cursor) : Except Error (Token × Cursor) := do
  let (token, place) ←
    if cursor.next.peek = some '<' then do
      let (name, place) ← tagNameAt (cursor.advance 2)
      if place.peek = some '>' then pure (Token.tag none name, place.next) else .error .token
    else if isBlankOrEnd cursor.next.peek then pure (Token.tag none "!", cursor.next)
    else if hasHandle cursor.next.rest then do
      let (handle, place) ← tagHandle cursor
      let (name, place) ← tagNameAt place
      pure (Token.tag (some handle) name, place)
    else do
      let (name, place) ← tagNameAt cursor.next
      pure (Token.tag (some "!") name, place)
  if endsWord place.peek then return (token, place) else .error .token

/-- The number at the cursor. -/
def numberAt (cursor : Cursor) : Except Error (Nat × Cursor) :=
  match cursor.takeWhile Char.isDigit with
  | ([], _) => .error .token
  | (digits, place) => .ok (digitsValue digits, place)

/-- The directive at the cursor, and the start of the next line. -/
def directiveAt (cursor : Cursor) : Except Error (Token × Cursor) := do
  let (name, place) ← nameAt cursor.next
  if !endsWord place.peek then .error .token
  else
    let (token, place) ←
      if name = "YAML" then do
        let (major, place) ← numberAt place.skipSpaces
        if place.peek = some '.' then do
          let (_, place) ← numberAt place.next
          if endsWord place.peek then pure (Token.version major, place) else .error .token
        else .error .token
      else if name = "TAG" then do
        let (handle, place) ← tagHandle place.skipSpaces
        if place.peek = some ' ' then do
          let (first, place) ← tagNameAt place.skipSpaces
          if endsWord place.peek then pure (Token.tagPrefix handle first, place) else .error .token
        else .error .token
      else pure (Token.directive, place.skipWhile fun c => !isBreak c)
    let last := place.skipSpaces.skipComment
    if endsLine last.peek then return (token, last.takeBreak.2) else .error .token

/-- A token that may turn out to be a key: its number, whether a `:` must follow it, and where it
stands. -/
structure PossibleKey where
  number : Nat
  required : Bool
  index : Nat
  line : Nat
  column : Nat

/-- The state between two tokens. -/
structure Scanner where
  cursor : Cursor
  /-- How many flow collections are open. -/
  flowLevel : Nat
  /-- The column of the innermost open block, and those of the blocks around it. -/
  indent : Int
  indents : List Int
  /-- Whether the next token may be a key. -/
  allowKey : Bool
  /-- The token of each flow level that may turn out to be a key. -/
  keys : List (Nat × PossibleKey)
  tokens : List Token
  finished : Bool

namespace Scanner

/-- The state at the start of a text. -/
def ofText (text : List Char) : Scanner :=
  ⟨.ofText text, 0, -1, [], true, [], [], false⟩

/-- Whether a possible key has been left behind: its line has ended, or it is too far away. -/
def isStale (scanner : Scanner) (key : PossibleKey) : Bool :=
  key.line != scanner.cursor.line || scanner.cursor.index > key.index + 1024

/-- How many tokens can no longer turn out to be a key, nor have one in front of them. -/
def settled (scanner : Scanner) : Nat :=
  scanner.keys.foldl (fun least (_, key) =>
    if scanner.isStale key then least else min least key.number) scanner.tokens.length

/-- Forgets the possible keys that have been left behind; a required one may not be. -/
def dropStale (scanner : Scanner) : Except Error Scanner :=
  if scanner.keys.any fun (_, key) => scanner.isStale key && key.required then .error .token
  else .ok { scanner with keys := scanner.keys.filter fun (_, key) => !scanner.isStale key }

/-- Forgets the possible key of the current flow level; a required one may not be. -/
def removeKey (scanner : Scanner) : Except Error Scanner :=
  match scanner.keys.lookup scanner.flowLevel with
  | some key =>
    if key.required then .error .token
    else .ok { scanner with keys := scanner.keys.filter fun (level, _) =>
      level != scanner.flowLevel }
  | none => .ok scanner

/-- Notes that the next token may turn out to be a key. -/
def saveKey (scanner : Scanner) : Except Error Scanner :=
  if scanner.allowKey then do
    let cleared ← scanner.removeKey
    let key : PossibleKey := {
      number := scanner.tokens.length
      required := scanner.flowLevel == 0 && scanner.indent == scanner.cursor.column
      index := scanner.cursor.index
      line := scanner.cursor.line
      column := scanner.cursor.column }
    return { cleared with keys := cleared.keys ++ [(scanner.flowLevel, key)] }
  else .ok scanner

/-- One more token, and the place after it. -/
def push (scanner : Scanner) (token : Token) (cursor : Cursor) : Scanner :=
  { scanner with tokens := scanner.tokens ++ [token], cursor }

/-- Closes the blocks that are indented more than a column. -/
def unwind (column : Int) : List Int → Scanner → Scanner
  | [], scanner => scanner
  | outer :: rest, scanner =>
    if column < scanner.indent then
      unwind column rest { scanner with
        indent := outer, indents := rest, tokens := scanner.tokens ++ [.blockEnd] }
    else scanner

/-- Closes the blocks that end at a column; inside flow collections indentation does not count. -/
def closeBlocks (scanner : Scanner) (column : Int) : Scanner :=
  if scanner.flowLevel = 0 then unwind column scanner.indents scanner else scanner

/-- Opens a block at a column, unless that is the column of the current one, with its token put
before the token of a number. -/
def openBlock (scanner : Scanner) (column : Nat) (token : Token) (number : Nat) : Scanner :=
  if scanner.indent < column then
    { scanner with
      indent := column
      indents := scanner.indent :: scanner.indents
      tokens := scanner.tokens.insertIdx number token }
  else scanner

/-- The place of the next token: after spaces, comments and line breaks. A line break outside flow
collections lets a key follow. -/
def skipToToken (fuel : Nat) (scanner : Scanner) : Scanner :=
  match fuel with
  | 0 => scanner
  | fuel + 1 =>
    let place := scanner.cursor.skipSpaces.skipComment
    if place.peek.any isBreak then
      skipToToken fuel { scanner with
        cursor := place.takeBreak.2
        allowKey := scanner.allowKey || scanner.flowLevel == 0 }
    else { scanner with cursor := place }

/-- The end of the text. -/
def fetchEnd (scanner : Scanner) : Except Error Scanner := do
  let cleared ← (scanner.closeBlocks (-1)).removeKey
  return { cleared with
    tokens := cleared.tokens ++ [.streamEnd], keys := [], allowKey := false, finished := true }

/-- A directive. -/
def fetchDirective (scanner : Scanner) : Except Error Scanner := do
  let cleared ← (scanner.closeBlocks (-1)).removeKey
  let (token, place) ← directiveAt scanner.cursor
  return { cleared with allowKey := false }.push token place

/-- A mark between documents. -/
def fetchSeparator (scanner : Scanner) (token : Token) : Except Error Scanner := do
  let cleared ← (scanner.closeBlocks (-1)).removeKey
  return { cleared with allowKey := false }.push token (scanner.cursor.advance 3)

/-- The start of a flow collection. -/
def fetchFlowStart (scanner : Scanner) (token : Token) : Except Error Scanner := do
  let saved ← scanner.saveKey
  return { saved with flowLevel := saved.flowLevel + 1, allowKey := true }.push token
    scanner.cursor.next

/-- The end of a flow collection. -/
def fetchFlowEnd (scanner : Scanner) (token : Token) : Except Error Scanner := do
  let cleared ← scanner.removeKey
  return { cleared with flowLevel := cleared.flowLevel - 1, allowKey := false }.push token
    scanner.cursor.next

/-- A comma between the parts of a flow collection. -/
def fetchFlowEntry (scanner : Scanner) : Except Error Scanner := do
  let cleared ← scanner.removeKey
  return { cleared with allowKey := true }.push .flowEntry scanner.cursor.next

/-- A dash before an item. -/
def fetchBlockEntry (scanner : Scanner) : Except Error Scanner := do
  if scanner.flowLevel = 0 ∧ !scanner.allowKey then .error .token
  else
    let opened :=
      if scanner.flowLevel = 0 then
        scanner.openBlock scanner.cursor.column .sequenceStart scanner.tokens.length
      else scanner
    let cleared ← opened.removeKey
    return { cleared with allowKey := true }.push .blockEntry scanner.cursor.next

/-- A question mark before a key. -/
def fetchKey (scanner : Scanner) : Except Error Scanner := do
  if scanner.flowLevel = 0 ∧ !scanner.allowKey then .error .token
  else
    let opened :=
      if scanner.flowLevel = 0 then
        scanner.openBlock scanner.cursor.column .mappingStart scanner.tokens.length
      else scanner
    let cleared ← opened.removeKey
    return { cleared with allowKey := scanner.flowLevel == 0 }.push .key scanner.cursor.next

/-- A colon before a value. If a token before it may be a key it is one now. -/
def fetchValue (scanner : Scanner) : Except Error Scanner := do
  match scanner.keys.lookup scanner.flowLevel with
  | some key =>
    let marked := { scanner with
      keys := scanner.keys.filter fun (level, _) => level != scanner.flowLevel
      tokens := scanner.tokens.insertIdx key.number .key
      allowKey := false }
    let opened :=
      if scanner.flowLevel = 0 then marked.openBlock key.column .mappingStart key.number
      else marked
    return opened.push .value scanner.cursor.next
  | none =>
    if scanner.flowLevel = 0 ∧ !scanner.allowKey then .error .token
    else
      let opened :=
        if scanner.flowLevel = 0 then
          scanner.openBlock scanner.cursor.column .mappingStart scanner.tokens.length
        else scanner
      return { opened with allowKey := scanner.flowLevel == 0 }.push .value scanner.cursor.next

/-- An alias, an anchor, a tag or a quoted scalar: a token that may turn out to be a key. -/
def fetchInline (scanner : Scanner) (read : Cursor → Except Error (Token × Cursor)) :
    Except Error Scanner := do
  let saved ← scanner.saveKey
  let (token, place) ← read scanner.cursor
  return { saved with allowKey := false }.push token place

/-- A scalar after `|` or `>`. -/
def fetchBlockScalar (scanner : Scanner) (folded : Bool) : Except Error Scanner := do
  let cleared ← scanner.removeKey
  let (text, place) ← blockScalar folded scanner.indent scanner.cursor
  return { cleared with allowKey := true }.push (.scalar (String.ofList text) false) place

/-- A plain scalar. -/
def fetchPlain (scanner : Scanner) : Except Error Scanner := do
  let saved ← scanner.saveKey
  let plain := plainScalar (scanner.flowLevel != 0) (scanner.indent + 1) scanner.cursor
  return { saved with allowKey := plain.lineEnded }.push (.scalar (String.ofList plain.text) true)
    plain.place

/-- Whether a plain scalar may begin at the cursor. -/
def mayBeginPlain (scanner : Scanner) (c : Char) : Bool :=
  !(isGap c || isBreak c || "-?:,[]\x7b\x7d#&*!|>'\"%@\x60".toList.contains c) ||
    (!isBlankOrEnd (scanner.cursor.peekAt 1) &&
      (c == '-' || (scanner.flowLevel == 0 && (c == '?' || c == ':'))))

/-- Reads an alias or an anchor. -/
def readName (token : String → Token) (cursor : Cursor) : Except Error (Token × Cursor) :=
  (anchorName cursor.next).map fun (name, place) => (token name, place)

/-- Reads a quoted scalar. -/
def readQuoted (double : Bool) (cursor : Cursor) : Except Error (Token × Cursor) :=
  (quotedScalar double cursor).map fun (text, place) =>
    (.scalar (String.ofList text) false, place)

/-- The token at the cursor. -/
def fetchAt (scanner : Scanner) : Except Error Scanner :=
  let cursor := scanner.cursor
  let inFlow := scanner.flowLevel != 0
  let blankNext := isBlankOrEnd (cursor.peekAt 1)
  match cursor.peek with
  | none => scanner.fetchEnd
  | some c =>
    if c = '%' ∧ cursor.column = 0 then scanner.fetchDirective
    else if c = '-' ∧ cursor.column = 0 ∧ cursor.atSeparator then
      scanner.fetchSeparator .documentStart
    else if c = '.' ∧ cursor.column = 0 ∧ cursor.atSeparator then
      scanner.fetchSeparator .documentEnd
    else if c = '[' then scanner.fetchFlowStart .flowSequenceStart
    else if c = '\x7b' then scanner.fetchFlowStart .flowMappingStart
    else if c = ']' then scanner.fetchFlowEnd .flowSequenceEnd
    else if c = '\x7d' then scanner.fetchFlowEnd .flowMappingEnd
    else if c = ',' then scanner.fetchFlowEntry
    else if c = '-' ∧ blankNext then scanner.fetchBlockEntry
    else if c = '?' ∧ (inFlow ∨ blankNext) then scanner.fetchKey
    else if c = ':' ∧ (inFlow ∨ blankNext) then scanner.fetchValue
    else if c = '*' then scanner.fetchInline (readName .reference)
    else if c = '&' then scanner.fetchInline (readName .anchor)
    else if c = '!' then scanner.fetchInline tagAt
    else if c = '|' ∧ !inFlow then scanner.fetchBlockScalar false
    else if c = '>' ∧ !inFlow then scanner.fetchBlockScalar true
    else if c = '\'' then scanner.fetchInline (readQuoted false)
    else if c = '"' then scanner.fetchInline (readQuoted true)
    else if scanner.mayBeginPlain c then scanner.fetchPlain
    else .error .token

/-- One step: the next token, with the blocks that end before it. -/
def fetch (scanner : Scanner) : Except Error Scanner := do
  let start :=
    if scanner.cursor.index = 0 ∧ scanner.cursor.peek = some '\uFEFF' then
      { scanner with cursor := scanner.cursor.next }
    else scanner
  let placed ← (start.skipToToken start.cursor.bound).dropStale
  (placed.closeBlocks placed.cursor.column).fetchAt

/-- All tokens from a state on, and why they end before the text does, if they do. -/
def run (fuel : Nat) (scanner : Scanner) : List Token × Option Error :=
  match fuel with
  | 0 => (scanner.tokens, some .token)
  | fuel + 1 =>
    match scanner.fetch with
    | .ok next => if next.finished then (next.tokens, none) else run fuel next
    | .error error => (scanner.tokens.take scanner.settled, some error)

end Scanner

/-- Tokens that have been read, and why there are no more if the text has not ended. -/
structure Tokens where
  tokens : List Token
  failure : Option Error

/-- The tokens of a text. -/
def Tokens.ofText (text : List Char) : Tokens :=
  let (tokens, failure) := (Scanner.ofText text).run (text.length + 2)
  ⟨tokens, failure⟩

end TypeSchema.Yaml
