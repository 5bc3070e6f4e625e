/-
**Texts as bytes.**

* `Lead.ofByte?`: what the first byte of a character says about the bytes that follow it;
* `readCharacter`: the character at the start of some bytes, or how many of them belong to a broken
  one: the longest part that begins a character, at least one byte;
* `decode?` and `decodeLossy`: the text of bytes, refused or with a replacement character for each
  broken part.
-/

namespace TypeSchema

/-- The state inside a character: its value so far, how many bytes it still needs, and the bounds of
the next one. -/
structure Lead where
  value : Nat
  needed : Nat
  low : Nat
  high : Nat

/-- What the first byte of a character says. -/
def Lead.ofByte? (byte : Nat) : Option Lead :=
  if byte < 0x80 then some ⟨byte, 0, 0x80, 0xBF⟩
  else if byte < 0xC2 then none
  else if byte < 0xE0 then some ⟨byte - 0xC0, 1, 0x80, 0xBF⟩
  else if byte = 0xE0 then some ⟨0, 2, 0xA0, 0xBF⟩
  else if byte = 0xED then some ⟨0xD, 2, 0x80, 0x9F⟩
  else if byte < 0xF0 then some ⟨byte - 0xE0, 2, 0x80, 0xBF⟩
  else if byte = 0xF0 then some ⟨0, 3, 0x90, 0xBF⟩
  else if byte < 0xF4 then some ⟨byte - 0xF0, 3, 0x80, 0xBF⟩
  else if byte = 0xF4 then some ⟨4, 3, 0x80, 0x8F⟩
  else none

/-- The rest of a character: the character if it is complete, and the bytes after the part that was
read. -/
def readRest (value : Nat) (low high : Nat) : (needed : Nat) → List UInt8 → Option Char × List UInt8
  | 0, bytes => (some (Char.ofNat value), bytes)
  | _ + 1, [] => (none, [])
  | needed + 1, byte :: rest =>
    if low ≤ byte.toNat ∧ byte.toNat ≤ high then
      readRest (64 * value + (byte.toNat - 0x80)) 0x80 0xBF needed rest
    else (none, byte :: rest)

theorem readRest_length_le (value low high needed : Nat) (bytes : List UInt8) :
    (readRest value low high needed bytes).2.length ≤ bytes.length := by
  induction needed generalizing value low high bytes with
  | zero => simp [readRest]
  | succ needed ih =>
    cases bytes with
    | nil => simp [readRest]
    | cons byte rest =>
      unfold readRest
      split
      · exact Nat.le_succ_of_le (ih _ _ _ rest)
      · simp

/-- The character that begins with a byte, if it is complete, and the bytes after what was read. -/
def readCharacter (byte : UInt8) (rest : List UInt8) : Option Char × List UInt8 :=
  match Lead.ofByte? byte.toNat with
  | none => (none, rest)
  | some lead => readRest lead.value lead.low lead.high lead.needed rest

theorem readCharacter_length_le (byte : UInt8) (rest : List UInt8) :
    (readCharacter byte rest).2.length ≤ rest.length := by
  unfold readCharacter
  split
  · exact Nat.le_refl _
  · exact readRest_length_le _ _ _ _ _

/-- The characters of bytes, none for each broken part. -/
def characters : List UInt8 → List (Option Char)
  | [] => []
  | byte :: rest => (readCharacter byte rest).1 :: characters (readCharacter byte rest).2
termination_by bytes => bytes.length
decreasing_by exact Nat.lt_succ_of_le (readCharacter_length_le byte rest)

/-- The text of bytes, if none of them is broken. -/
def decode? (bytes : List UInt8) : Option String :=
  ((characters bytes).mapM id).map String.ofList

/-- The text of bytes, with a replacement character for each broken part. -/
def decodeLossy (bytes : List UInt8) : String :=
  String.ofList ((characters bytes).map fun c => c.getD '\ufffd')

end TypeSchema
