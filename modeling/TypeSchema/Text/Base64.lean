/-
**Bytes in base sixty-four.**

`base64Bytes?` reads four characters as three bytes. Characters that are no digits are skipped;
signs of padding may end the text early, and a group that stops in the middle must be padded.
-/

namespace TypeSchema

/-- The value of a digit. -/
def base64Digit? (c : Char) : Option Nat :=
  if 'A' ≤ c ∧ c ≤ 'Z' then some (c.toNat - 'A'.toNat)
  else if 'a' ≤ c ∧ c ≤ 'z' then some (c.toNat - 'a'.toNat + 26)
  else if '0' ≤ c ∧ c ≤ '9' then some (c.toNat - '0'.toNat + 52)
  else if c = '+' then some 62
  else if c = '/' then some 63
  else none

/-- The bits of a group that were not written yet, and how many digits it has. -/
structure Base64Group where
  digits : Nat
  rest : Nat

/-- The byte that a digit completes, if it does, and the group after it. -/
def Base64Group.push (group : Base64Group) (digit : Nat) : Option UInt8 × Base64Group :=
  match group.digits with
  | 0 => (none, ⟨1, digit⟩)
  | 1 => (some (UInt8.ofNat (group.rest * 4 + digit / 16)), ⟨2, digit % 16⟩)
  | 2 => (some (UInt8.ofNat (group.rest * 16 + digit / 4)), ⟨3, digit % 4⟩)
  | _ => (some (UInt8.ofNat (group.rest * 64 + digit)), ⟨0, 0⟩)

/-- The bytes of a text inside a group, after some signs of padding. -/
def base64Rest? (group : Base64Group) (pads : Nat) : List Char → Option (List UInt8)
  | [] => if group.digits = 0 then some [] else none
  | c :: rest =>
    if c = '=' then
      if 2 ≤ group.digits ∧ 4 ≤ group.digits + pads + 1 then some []
      else base64Rest? group (if 2 ≤ group.digits then pads + 1 else pads) rest
    else
      match base64Digit? c with
      | none => base64Rest? group pads rest
      | some digit =>
        let (byte, group) := group.push digit
        (base64Rest? group 0 rest).map (byte.toList ++ ·)

/-- The bytes that a text denotes. -/
def base64Bytes? (text : List Char) : Option (List UInt8) := base64Rest? ⟨0, 0⟩ 0 text

end TypeSchema
