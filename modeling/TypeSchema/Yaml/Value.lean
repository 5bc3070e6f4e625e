/-
**The values of YAML nodes.**

* `Datum`: the value of a document: the values of JSON, with keys of any kind, and dates and other
  values that are told apart only by their kind;
* `Node.datum`: the value of a node by its tag. Underscores in numbers are dropped, a zero at the
  start of an integer means base eight, colons separate groups of sixty; an entry with the key `<<`
  stands for the entries of its value, which come first;
* `Datum.ofYaml`: the value of a text, null if there is no document.
-/

import TypeSchema.Text.Base64
import TypeSchema.Text.Split
import TypeSchema.Text.Utf8
import TypeSchema.Yaml.Node

namespace TypeSchema

/-- The kinds of values that JSON has no form for. -/
inductive RareKind where
  | date
  | moment
  /-- Bytes, with the text that they encode. -/
  | binary (text : Option String)
  | set
  /-- A collection inside itself. -/
  | cycle
deriving DecidableEq, Repr

/-- The value of a document. -/
inductive Datum where
  | null
  | bool (value : Bool)
  | number (value : Number)
  | string (value : String)
  | sequence (items : List Datum)
  | mapping (entries : List (Datum × Datum))
  /-- A value of a rare kind, and whether it is empty. -/
  | rare (kind : RareKind) (isEmpty : Bool)
deriving Inhabited

namespace Datum

mutual

/-- A JSON value as the value of a document. -/
def ofJson : Json → Datum
  | .null => null
  | .bool value => bool value
  | .number value => number value
  | .string value => string value
  | .array items => sequence (ofItems items)
  | .object fields => mapping (ofFields fields)

/-- The values of a JSON array. -/
def ofItems : List Json → List Datum
  | [] => []
  | item :: rest => ofJson item :: ofItems rest

/-- The fields of a JSON object. -/
def ofFields : List (String × Json) → List (Datum × Datum)
  | [] => []
  | (name, value) :: rest => (string name, ofJson value) :: ofFields rest

end

end Datum

namespace Yaml

/-- Whether a character is a digit of a base. -/
def isDigitOf (base : Nat) (c : Char) : Bool := (hexDigit? c).any (· < base)

/-- The integer that digits denote in a base. -/
def inBase (base : Nat) (digits : List Char) : Except Error Int :=
  if digits ≠ [] ∧ digits.all (isDigitOf base) then
    .ok (digits.foldl (fun value c => base * value + ((hexDigit? c).getD 0 : Nat)) (0 : Int))
  else .error (.numeral base (String.ofList digits))

/-- A decimal integer, of limited length. -/
def decimalInteger (digits : List Char) : Except Error Int :=
  if digitLimit < digits.length ∧ digits.all (isDigitOf 10) then
    .error (.literal (.digits digits.length))
  else inBase 10 digits

/-- The value of groups of sixty, the most significant one first. -/
def sexagesimal (groups : List (List Char)) : Int :=
  groups.foldl (fun value digits => 60 * value + (digitsValue digits : Int)) 0

/-- Whether a text has a minus sign. -/
def isNegative (text : List Char) : Bool := text.head? == some '-'

/-- A text without its underscores. -/
def withoutGaps (text : List Char) : List Char := text.filter (· != '_')

/-- The integer that a scalar denotes. -/
def integerOf (text : List Char) : Except Error Int := do
  let plain := withoutGaps text
  let magnitude ←
    match afterSign plain with
    | ['0'] => .ok 0
    | '0' :: 'b' :: digits => inBase 2 digits
    | '0' :: 'x' :: digits => inBase 16 digits
    | '0' :: digits => inBase 8 ('0' :: digits)
    | digits =>
      if digits.contains ':' then .ok (sexagesimal (splitAt ':' digits)) else decimalInteger digits
  return if isNegative plain then -magnitude else magnitude

/-- The value of groups of sixty with a fraction, the least significant one first. -/
def sexagesimalReal : Binary64 → Binary64 → List Binary64 → Binary64
  | value, _, [] => value
  | value, base, digit :: rest =>
    sexagesimalReal (value + digit * base) (base * Binary64.ofInt 60) rest

/-- The double precision number that a scalar denotes. -/
def realOf (text : List Char) : Except Error Binary64 :=
  let plain := lowered (withoutGaps text)
  let magnitude := afterSign plain
  let signed (value : Binary64) := if isNegative plain then -value else value
  if magnitude = ".inf".toList then .ok (.infinite (isNegative plain))
  else if magnitude = ".nan".toList then .ok .nan
  else if magnitude.contains ':' then
    let groups := (splitAt ':' magnitude).map fun group =>
      (Binary64.readLiteral? group).getD .nan
    .ok (signed (sexagesimalReal (.zero false) (.ofInt 1) groups.reverse))
  else
    match Binary64.readLiteral? magnitude with
    | some value => .ok (signed value)
    | none => .error (.real (String.ofList magnitude))

/-- Whether a word stands for truth. -/
def truthOf? (text : String) : Option Bool :=
  let word := String.ofList (lowered text.toList)
  if ["yes", "true", "on"].contains word then some true
  else if ["no", "false", "off"].contains word then some false
  else none

/-- The number of days of a month. -/
def daysIn (year month : Nat) : Nat :=
  if month = 2 then
    if (year % 4 = 0 ∧ year % 100 ≠ 0) ∨ year % 400 = 0 then 29 else 28
  else if month = 4 ∨ month = 6 ∨ month = 9 ∨ month = 11 then 30
  else 31

/-- The first part of a point in time that is out of range. -/
def Timestamp.fault? (stamp : Timestamp) : Option DateError :=
  if stamp.year = 0 then some .year
  else if stamp.month = 0 ∨ 12 < stamp.month then some .month
  else if stamp.day = 0 ∨ daysIn stamp.year stamp.month < stamp.day then some .day
  else
    match stamp.time with
    | none => none
    | some (hour, minute, second) =>
      if 23 < hour then some .hour
      else if 59 < minute then some .minute
      else if 59 < second then some .second
      else none

/-- The value of a point in time. -/
def timestampOf (text : List Char) : Except Error Datum :=
  match timestamp? text with
  | none => .error .construction
  | some stamp =>
    match stamp.fault? with
    | some error => .error (.date error)
    | none => .ok (.rare (if stamp.time.isSome then .moment else .date) false)

/-- The value of bytes in base sixty-four. -/
def binaryOf (text : List Char) : Except Error Datum :=
  match if text.all (fun c => c.toNat < 0x80) then base64Bytes? text else none with
  | none => .error .construction
  | some bytes => .ok (.rare (.binary (decode? bytes)) bytes.isEmpty)

/-- The value of a scalar by its tag. -/
def scalarDatum (tag text : String) : Except Error Datum :=
  if tag = basicTag "str" then .ok (.string text)
  else if tag = basicTag "null" then .ok .null
  else if tag = basicTag "bool" then
    match truthOf? text with
    | some value => .ok (.bool value)
    | none => .error (.truth (String.ofList (lowered text.toList)))
  else if tag = basicTag "int" then (integerOf text.toList).map fun value => .number (.int value)
  else if tag = basicTag "float" then (realOf text.toList).map fun value => .number (.real value)
  else if tag = basicTag "timestamp" then timestampOf text.toList
  else if tag = basicTag "binary" then binaryOf text.toList
  else .error .construction

/-- Whether a value may be a key. -/
def isKey : Datum → Bool
  | .sequence _ => false
  | .mapping _ => false
  | .rare kind _ => kind != .set
  | _ => true

/-- Writes an entry: a present string key keeps its place. -/
def setEntry (key value : Datum) : List (Datum × Datum) → List (Datum × Datum)
  | [] => [(key, value)]
  | (other, old) :: rest =>
    match key, other with
    | .string name, .string present =>
      if name = present then (other, value) :: rest else (other, old) :: setEntry key value rest
    | _, _ => (other, old) :: setEntry key value rest

/-- The entries of a mapping, each key with its last value. -/
def collectEntries (entries : List (Datum × Datum)) : List (Datum × Datum) :=
  entries.foldl (fun collected entry => setEntry entry.1 entry.2 collected) []

/-- Whether a node is the key that merges entries. -/
def isMerge : Node → Bool
  | .scalar tag _ => tag == basicTag "merge"
  | _ => false

mutual

/-- The value of a node. -/
def Node.datum : Node → Except Error Datum
  | .cycle => .ok (.rare .cycle false)
  | .scalar tag text => scalarDatum tag text
  | .sequence tag items => do
    let values ← itemData items
    if tag = basicTag "seq" then return .sequence values
    else if tag = basicTag "omap" ∨ tag = basicTag "pairs" then return .sequence values
    else throw .construction
  | .mapping tag entries => do
    let values ← entryData entries
    let merged ← mergedData entries
    if tag = basicTag "map" then return .mapping (collectEntries (merged ++ values))
    else if tag = basicTag "set" then return .rare .set values.isEmpty
    else throw .construction

/-- The values of a list of nodes. -/
def itemData : List Node → Except Error (List Datum)
  | [] => .ok []
  | item :: rest => do
    let value ← item.datum
    let values ← itemData rest
    return value :: values

/-- The entries of a mapping that merge nothing. -/
def entryData : List (Node × Node) → Except Error (List (Datum × Datum))
  | [] => .ok []
  | (key, value) :: rest => do
    if isMerge key then entryData rest
    else
      let name ← keyDatum key
      if !isKey name then throw .construction
      let content ← value.datum
      let entries ← entryData rest
      return (name, content) :: entries

/-- The value of a key; an equals sign is a string. -/
def keyDatum : Node → Except Error Datum
  | .scalar tag text =>
    if tag = basicTag "value" then .ok (.string text) else scalarDatum tag text
  | .sequence _ _ => .error .construction
  | .mapping _ _ => .error .construction
  | .cycle => .error .construction

/-- The entries that a mapping merges. -/
def mergedData : List (Node × Node) → Except Error (List (Datum × Datum))
  | [] => .ok []
  | (key, value) :: rest => do
    let more ← mergedData rest
    if isMerge key then
      let entries ← sourceData value
      return entries ++ more
    else return more

/-- The entries of a mapping, or of a list of mappings in which the first one counts most. -/
def sourceData : Node → Except Error (List (Datum × Datum))
  | .mapping _ entries => do
    let merged ← mergedData entries
    let values ← entryData entries
    return merged ++ values
  | .sequence _ items => sourcesData items
  | .scalar _ _ => .error .construction
  | .cycle => .error .construction

/-- The entries of a list of mappings, the last one first. -/
def sourcesData : List Node → Except Error (List (Datum × Datum))
  | [] => .ok []
  | .mapping _ entries :: rest => do
    let more ← sourcesData rest
    let merged ← mergedData entries
    let values ← entryData entries
    return more ++ merged ++ values
  | _ :: _ => .error .construction

end

end Yaml

/-- The value of a YAML text. -/
def Datum.ofYaml (text : String) : Except Yaml.Error Datum := do
  match ← Yaml.Node.ofText? text.toList with
  | none => return .null
  | some node => node.datum

end TypeSchema
