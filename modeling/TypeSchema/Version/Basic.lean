/-
**Versions.**

* `Version`: an epoch, a release, and marks for what comes before it, after it, during its
  development and in a place of its own;
* `Version.ofText?`: reads a version in any of its spellings;
* `Version.compare`: development comes before a preliminary release, that before the release, and
  that before what comes after it.
-/

import TypeSchema.Text.Blank
import TypeSchema.Text.DecimalDigit
import TypeSchema.Text.Quoted
import TypeSchema.Text.Split

namespace TypeSchema

/-- The kinds of preliminary releases. -/
inductive Preliminary where
  | alpha
  | beta
  | candidate
deriving DecidableEq, Repr

/-- A part of the mark of a place. -/
inductive PlacePart where
  | word (text : String)
  | number (value : Nat)
deriving DecidableEq, Repr

/-- A version. -/
structure Version where
  epoch : Nat
  release : List Nat
  preliminary : Option (Preliminary × Nat)
  afterwards : Option Nat
  development : Option Nat
  place : Option (List PlacePart)
deriving DecidableEq, Repr

namespace Version

/-- Whether a character separates the parts of a version. -/
def isSeparator (c : Char) : Bool := c == '-' || c == '_' || c == '.'

/-- The text after a separator that may be missing. -/
def skipSeparator : List Char → List Char
  | [] => []
  | c :: rest => if isSeparator c then rest else c :: rest

/-- The digits at the start of a text, and what follows them. -/
def digits (text : List Char) : List Char × List Char :=
  (text.takeWhile Char.isDigit, text.dropWhile Char.isDigit)

/-- The number after a word, zero if it is missing, and what follows it. -/
def wordNumber (text : List Char) : Nat × List Char :=
  let (number, rest) := digits (skipSeparator text)
  (digitsValue number, rest)

/-- What follows the first of some words that stands at the start of a text, and its meaning. -/
def afterFirst? {α : Type} (words : List (String × α)) (text : List Char) :
    Option (α × List Char) :=
  words.findSome? fun (word, meaning) =>
    if word.toList.isPrefixOf text then some (meaning, text.drop word.length) else none

/-- A word with the number after it, perhaps with a separator on either side of the word. -/
def marked? {α : Type} (words : List (String × α)) (text : List Char) :
    Option ((α × Nat) × List Char) :=
  (afterFirst? words (skipSeparator text)).map fun (meaning, rest) =>
    let (number, last) := wordNumber rest
    ((meaning, number), last)

/-- The words for preliminary releases. -/
def preliminaryWords : List (String × Preliminary) :=
  [("alpha", .alpha), ("a", .alpha), ("beta", .beta), ("b", .beta), ("preview", .candidate),
   ("pre", .candidate), ("c", .candidate), ("rc", .candidate)]

/-- The words for what comes after a release. -/
def afterwardsWords : List (String × Unit) := [("post", ()), ("rev", ()), ("r", ())]

/-- The word for development. -/
def developmentWords : List (String × Unit) := [("dev", ())]

/-- The mark of what comes after a release: a hyphen and a number, or a word. -/
def afterwards? (text : List Char) : Option (Nat × List Char) :=
  match text with
  | '-' :: c :: rest =>
    if c.isDigit then some (digitsValue (digits (c :: rest)).1, (digits (c :: rest)).2)
    else (marked? afterwardsWords text).map fun (mark, rest) => (mark.2, rest)
  | _ => (marked? afterwardsWords text).map fun (mark, rest) => (mark.2, rest)

/-- The further numbers of a release, in a text with at most the given number of characters. -/
def moreNumbers : (length : Nat) → List Char → List Nat × List Char
  | 0, text => ([], text)
  | length + 1, text =>
    match text with
    | '.' :: c :: rest =>
      if c.isDigit then
        let (numbers, last) := moreNumbers length (digits (c :: rest)).2
        (digitsValue (digits (c :: rest)).1 :: numbers, last)
      else ([], text)
    | _ => ([], text)

/-- A part of the mark of a place. -/
def placePart? (text : List Char) : Option PlacePart :=
  if text = [] then none
  else if text.all Char.isDigit then some (.number (digitsValue text))
  else if text.all Char.isAlphanum then some (.word (String.ofList text))
  else none

/-- The parts of the mark of a place. -/
def place? (text : List Char) : Option (List PlacePart) :=
  (splitAt '.' (text.map fun c => if isSeparator c then '.' else c)).mapM placePart?

/-- A part that may be missing, and what follows it. -/
def optional {α : Type} (read : List Char → Option (α × List Char)) (text : List Char) :
    Option α × List Char :=
  match read text with
  | some (value, rest) => (some value, rest)
  | none => (none, text)

/-- The version that a text in lower case names, without a `v` and an epoch. -/
def afterEpoch? (epoch : Nat) (text : List Char) : Option Version :=
  match digits text with
  | ([], _) => none
  | (first, rest) =>
    let (more, rest) := moreNumbers rest.length rest
    let (preliminary, rest) := optional (marked? preliminaryWords) rest
    let (afterwards, rest) := optional afterwards? rest
    let (development, rest) := optional (marked? developmentWords) rest
    let version (place : Option (List PlacePart)) : Version :=
      ⟨epoch, digitsValue first :: more, preliminary, afterwards, development.map Prod.snd, place⟩
    match rest with
    | [] => some (version none)
    | '+' :: mark => (place? mark).map fun parts => version (some parts)
    | _ => none

/-- The version that a text names, white space around it aside. -/
def ofText? (text : String) : Option Version :=
  let lower := (trim text.toList).map Char.toLower
  let plain :=
    match lower with
    | 'v' :: rest => rest
    | rest => rest
  match digits plain with
  | (first, '!' :: rest) => if first = [] then none else afterEpoch? (digitsValue first) rest
  | _ => afterEpoch? 0 plain

/-- A list without the zeros at its end. -/
def withoutFinalZeros (numbers : List Nat) : List Nat :=
  (numbers.reverse.dropWhile (· == 0)).reverse

/-- The order of lists by their first difference; a list comes after its beginnings. -/
def compareLists {α : Type} (order : α → α → Ordering) : List α → List α → Ordering
  | [], [] => .eq
  | [], _ :: _ => .lt
  | _ :: _, [] => .gt
  | first :: firsts, second :: seconds =>
    (order first second).then (compareLists order firsts seconds)

/-- The stage of a release: development alone, preliminary, or the release itself. -/
def stage (version : Version) : Nat × Nat :=
  match version.preliminary with
  | some (.alpha, number) => (1, number)
  | some (.beta, number) => (2, number)
  | some (.candidate, number) => (3, number)
  | none => if version.afterwards.isNone ∧ version.development.isSome then (0, 0) else (4, 0)

/-- The order of parts of a place: words before numbers. -/
def comparePart : PlacePart → PlacePart → Ordering
  | .word first, .word second => Ord.compare first second
  | .word _, .number _ => .lt
  | .number _, .word _ => .gt
  | .number first, .number second => Ord.compare first second

/-- The order of values that may be missing; a missing one comes first. -/
def compareOption {α : Type} (order : α → α → Ordering) : Option α → Option α → Ordering
  | none, none => .eq
  | none, some _ => .lt
  | some _, none => .gt
  | some first, some second => order first second

/-- The order of versions. -/
def compare (first second : Version) : Ordering :=
  (Ord.compare first.epoch second.epoch).then <|
  (compareLists Ord.compare (withoutFinalZeros first.release)
    (withoutFinalZeros second.release)).then <|
  (Ord.compare first.stage.1 second.stage.1).then <|
  (Ord.compare first.stage.2 second.stage.2).then <|
  (compareOption Ord.compare first.afterwards second.afterwards).then <|
  (Ord.compare first.development.isNone.toNat second.development.isNone.toNat).then <|
  (compareOption Ord.compare first.development second.development).then <|
  compareOption (compareLists comparePart) first.place second.place

end Version

/-- A text that names no version. -/
structure InvalidVersion where
  text : String
deriving DecidableEq, Repr

/-- The wording of a text that names no version. -/
def InvalidVersion.message (error : InvalidVersion) : String :=
  "Invalid version: " ++ quote error.text

/-- The version that a text names. -/
def Version.ofText (text : String) : Except InvalidVersion Version :=
  match Version.ofText? text with
  | some version => .ok version
  | none => .error ⟨text⟩

/-- Whether a version has come to a minimum. -/
def hasReached (current minimum : String) : Except InvalidVersion Bool := do
  let version ← Version.ofText current
  let least ← Version.ofText minimum
  return (version.compare least).isGE

end TypeSchema
