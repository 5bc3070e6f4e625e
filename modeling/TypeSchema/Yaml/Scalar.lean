/-
**Scalars of YAML texts.**

* `quotedScalar`: text between quotes; a line break with the blanks around it counts as one space,
  each further one as itself; two single quotes stand for one; double quoted text has escapes, of
  which those for surrogates stand for the replacement character;
* `plainScalar`: text without quotes, up to `: `, ` #`, or a line that is indented too little;
* `blockScalar`: the lines after `|` or `>`, indented alike.

The bounds on the number of steps are the length of the text that is left.
-/

import TypeSchema.Text.Hexadecimal
import TypeSchema.TypeExpr.Literal
import TypeSchema.Yaml.Cursor
import TypeSchema.Yaml.Error

namespace TypeSchema.Yaml

/-- A bound on the steps that reading from a place can take. -/
def Cursor.bound (cursor : Cursor) : Nat := cursor.rest.length + 2

/-- The breaks and blanks before the next text of a quoted scalar. No mark between documents may
stand at the start of a line. -/
def quotedBreaks (fuel : Nat) (cursor : Cursor) : Except Error (List Char × Cursor) :=
  match fuel with
  | 0 => .error .token
  | fuel + 1 =>
    if cursor.atSeparator then .error .token
    else
      let place := cursor.skipWhile isGap
      if place.peek.any isBreak then do
        let (first, after) := place.takeBreak
        let (more, last) ← quotedBreaks fuel after
        return (first ++ more, last)
      else .ok ([], place)

/-- What a line break and the breaks after it count as. -/
def foldedBreaks (first more : List Char) : List Char :=
  if first ≠ ['\n'] then first ++ more
  else if more = [] then [' ']
  else more

/-- The blanks at the cursor inside a quoted scalar, with line breaks folded. -/
def quotedSpaces (cursor : Cursor) : Except Error (List Char × Cursor) :=
  let (gap, place) := cursor.takeWhile isGap
  match place.peek with
  | none => .error .token
  | some c =>
    if isBreak c then do
      let (first, after) := place.takeBreak
      let (more, last) ← quotedBreaks after.bound after
      return (foldedBreaks first more, last)
    else .ok (gap, place)

/-- The character that an escape by letter stands for. -/
def escapeLetter? (c : Char) : Option Char :=
  if c = '0' then some '\x00'
  else if c = 'a' then some '\x07'
  else if c = 'b' then some '\x08'
  else if c = 't' ∨ c = '\t' then some '\t'
  else if c = 'n' then some '\n'
  else if c = 'v' then some '\x0b'
  else if c = 'f' then some '\x0c'
  else if c = 'r' then some '\r'
  else if c = 'e' then some '\x1b'
  else if c = ' ' ∨ c = '"' ∨ c = '\\' ∨ c = '/' then some c
  else if c = 'N' then some '\u0085'
  else if c = '_' then some '\u00a0'
  else if c = 'L' then some '\u2028'
  else if c = 'P' then some '\u2029'
  else none

/-- How many digits an escape by number has. -/
def escapeDigits? (c : Char) : Option Nat :=
  if c = 'x' then some 2 else if c = 'u' then some 4 else if c = 'U' then some 8 else none

/-- The text of an escape after its backslash. -/
def escape (cursor : Cursor) : Except Error (List Char × Cursor) :=
  match cursor.peek with
  | none => .error .token
  | some letter =>
    match escapeLetter? letter, escapeDigits? letter with
    | some c, _ => .ok ([c], cursor.next)
    | none, some count =>
      let digits := cursor.next.rest.take count
      if digits.length = count ∧ digits.all isHexDigit then
        match codePointOf (hexValue digits) with
        | .ok point => .ok ([point.char], cursor.next.advance count)
        | .error error => .error (.literal error)
      else .error .token
    | none, none =>
      if isBreak letter then quotedBreaks cursor.bound cursor.takeBreak.2 else .error .token

/-- The characters of a quoted scalar up to the next blank or its closing quote. -/
def quotedRun (double : Bool) (fuel : Nat) (cursor : Cursor) : Except Error (List Char × Cursor) :=
  match fuel with
  | 0 => .error .token
  | fuel + 1 =>
    match cursor.rest with
    | [] => .ok ([], cursor)
    | c :: rest =>
      if isGap c ∨ isBreak c then .ok ([], cursor)
      else if double ∧ c = '\\' then do
        let (first, after) ← escape cursor.next
        let (more, last) ← quotedRun double fuel after
        return (first ++ more, last)
      else if double ∧ c = '"' then .ok ([], cursor)
      else if ¬double ∧ c = '\'' then
        if rest.head? = some '\'' then do
          let (more, last) ← quotedRun double fuel (cursor.advance 2)
          return ('\'' :: more, last)
        else .ok ([], cursor)
      else do
        let (more, last) ← quotedRun double fuel cursor.next
        return (c :: more, last)

/-- The text of a quoted scalar from a place inside it, and the place after its closing quote. -/
def quotedRest (double : Bool) (fuel : Nat) (cursor : Cursor) :
    Except Error (List Char × Cursor) :=
  match fuel with
  | 0 => .error .token
  | fuel + 1 => do
    let (run, place) ← quotedRun double cursor.bound cursor
    if place.peek = some (if double then '"' else '\'') then .ok (run, place.next)
    else
      let (gap, after) ← quotedSpaces place
      let (more, last) ← quotedRest double fuel after
      return (run ++ gap ++ more, last)

/-- The text of the quoted scalar at the cursor. -/
def quotedScalar (double : Bool) (cursor : Cursor) : Except Error (List Char × Cursor) :=
  quotedRest double cursor.bound cursor.next

/-- Whether a character ends a run of a plain scalar. -/
def endsPlain (inFlow : Bool) (c : Char) (next : Option Char) : Bool :=
  isGap c || isBreak c ||
    (c == ':' && (isBlankOrEnd next ||
      (inFlow && next.any fun c => [',', '[', ']', '\x7b', '\x7d'].contains c))) ||
    (inFlow && [',', '?', '[', ']', '\x7b', '\x7d'].contains c)

/-- The characters of a plain scalar up to its next end of a run. -/
def plainRun (inFlow : Bool) : List Char → List Char
  | [] => []
  | c :: rest => if endsPlain inFlow c rest.head? then [] else c :: plainRun inFlow rest

/-- The breaks and spaces before the next text of a plain scalar, none before a mark between
documents. -/
def plainBreaks (fuel : Nat) (cursor : Cursor) : Option (List Char) × Cursor :=
  match fuel with
  | 0 => (none, cursor)
  | fuel + 1 =>
    let place := cursor.skipSpaces
    if place.peek.any isBreak then
      let (first, after) := place.takeBreak
      if after.atSeparator then (none, after)
      else
        let (more, last) := plainBreaks fuel after
        (more.map (first ++ ·), last)
    else (some [], place)

/-- What the blanks at the cursor count as inside a plain scalar, the place after them, and whether
a line ended there. -/
def plainSpaces (cursor : Cursor) : List Char × Cursor × Bool :=
  let (gap, place) := cursor.takeWhile (· == ' ')
  if place.peek.any isBreak then
    let (first, after) := place.takeBreak
    if after.atSeparator then ([], after, true)
    else
      match plainBreaks after.bound after with
      | (none, last) => ([], last, true)
      | (some more, last) => (foldedBreaks first more, last, true)
  else (gap, place, false)

/-- A plain scalar: its text, the place after it, and whether the last line ended before that. -/
structure Plain where
  text : List Char
  place : Cursor
  lineEnded : Bool

/-- The rest of a plain scalar, after the blanks `gap`. -/
def plainRest (inFlow : Bool) (indent : Int) (fuel : Nat) (gap : List Char) (plain : Plain) :
    Plain :=
  match fuel with
  | 0 => plain
  | fuel + 1 =>
    let run := plainRun inFlow plain.place.rest
    if plain.place.peek = some '#' ∨ run = [] then plain
    else
      let (spaces, place, ended) := plainSpaces (plain.place.advance run.length)
      let longer : Plain := ⟨plain.text ++ gap ++ run, place, ended⟩
      if spaces = [] ∨ place.peek = some '#' ∨ (!inFlow ∧ place.column < indent) then longer
      else plainRest inFlow indent fuel spaces longer

/-- The plain scalar at the cursor; its lines must be indented by at least `indent`. -/
def plainScalar (inFlow : Bool) (indent : Int) (cursor : Cursor) : Plain :=
  plainRest inFlow indent cursor.bound [] ⟨[], cursor, false⟩

/-- What happens to the line breaks at the end of a block scalar. -/
inductive Chomping where
  | clip
  | strip
  | keep
deriving DecidableEq

/-- The chomping that a sign asks for. -/
def chomping? (c : Option Char) : Option Chomping :=
  if c = some '+' then some .keep else if c = some '-' then some .strip else none

/-- The indentation that a digit asks for. -/
def increment? (c : Option Char) : Option Nat := c.bind fun c =>
  if c.isDigit then some (c.toNat - 0x30) else none

/-- The signs after the mark of a block scalar, and the end of their line. -/
def blockHeader (cursor : Cursor) :
    Except Error ((Chomping × Option Nat) × Cursor) :=
  let (chomping, increment, place) :=
    match chomping? cursor.peek, increment? cursor.peek with
    | some chomping, _ =>
      match increment? cursor.next.peek with
      | some digit => (chomping, some digit, cursor.advance 2)
      | none => (chomping, none, cursor.next)
    | none, some digit =>
      match chomping? cursor.next.peek with
      | some chomping => (chomping, some digit, cursor.advance 2)
      | none => (.clip, some digit, cursor.next)
    | none, none => (.clip, none, cursor)
  if increment = some 0 ∨ !endsWord place.peek then .error .token
  else
    let last := place.skipSpaces.skipComment
    if endsLine last.peek then .ok ((chomping, increment), last.takeBreak.2) else .error .token

/-- The breaks before the first line of a block scalar, and the widest indentation among them. -/
def blockIndentation (fuel : Nat) (widest : Nat) (cursor : Cursor) : List Char × Nat × Cursor :=
  match fuel with
  | 0 => ([], widest, cursor)
  | fuel + 1 =>
    match cursor.peek with
    | none => ([], widest, cursor)
    | some c =>
      if c = ' ' then blockIndentation fuel (max widest cursor.next.column) cursor.next
      else if isBreak c then
        let (first, after) := cursor.takeBreak
        let (more, widest, last) := blockIndentation fuel widest after
        (first ++ more, widest, last)
      else ([], widest, cursor)

/-- The place after the spaces at the cursor that are needed for an indentation. -/
def skipIndent (indent : Nat) (cursor : Cursor) : Cursor :=
  cursor.advance ((cursor.rest.take (indent - cursor.column)).takeWhile (· == ' ')).length

/-- The breaks before the next line of a block scalar. -/
def blockBreaks (indent : Nat) (fuel : Nat) (cursor : Cursor) : List Char × Cursor :=
  match fuel with
  | 0 => ([], cursor)
  | fuel + 1 =>
    let place := skipIndent indent cursor
    if place.peek.any isBreak then
      let (first, after) := place.takeBreak
      let (more, last) := blockBreaks indent fuel after
      (first ++ more, last)
    else ([], place)

/-- Whether a block scalar has another line at the cursor. -/
def hasLine (indent : Nat) (cursor : Cursor) : Bool :=
  cursor.column == indent && cursor.peek.isSome

/-- The lines of a block scalar: their text, the last line break, and the breaks after it. -/
def blockLines (folded : Bool) (indent : Nat) (fuel : Nat) (cursor : Cursor) :
    List Char × List Char × List Char × Cursor :=
  match fuel with
  | 0 => ([], [], [], cursor)
  | fuel + 1 =>
    let (line, place) := cursor.takeWhile fun c => !isBreak c
    let (lineBreak, after) := place.takeBreak
    let (breaks, last) := blockBreaks indent after.bound after
    if hasLine indent last then
      let joined :=
        if folded ∧ lineBreak = ['\n'] ∧ !cursor.peek.any isGap ∧ !last.peek.any isGap then
          if breaks = [] then [' '] else []
        else lineBreak
      let (more, final, trailing, stop) := blockLines folded indent fuel last
      (line ++ joined ++ breaks ++ more, final, trailing, stop)
    else (line, lineBreak, breaks, last)

/-- The block scalar whose mark is at the cursor, inside a block with the given indentation. -/
def blockScalar (folded : Bool) (indent : Int) (cursor : Cursor) :
    Except Error (List Char × Cursor) := do
  let ((chomping, increment), start) ← blockHeader cursor.next
  let least := (max (indent + 1) 1).toNat
  let (breaks, width, place) :=
    match increment with
    | some digit =>
      let width := least + digit - 1
      let (breaks, place) := blockBreaks width start.bound start
      (breaks, width, place)
    | none =>
      let (breaks, widest, place) := blockIndentation start.bound 0 start
      (breaks, max least widest, place)
  if hasLine width place then
    let (text, final, trailing, last) := blockLines folded width place.bound place
    return (breaks ++ text ++ (if chomping = .strip then [] else final) ++
      (if chomping = .keep then trailing else []), last)
  else return (if chomping = .keep then breaks else [], place)

end TypeSchema.Yaml
