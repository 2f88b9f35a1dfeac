import Playback.Text.Digits

/-!
# Base 64

Bytes written in groups of four characters, six bits each. The last group is filled up with equals
signs, and its unused bits are zero.
-/

namespace Playback.Text.Base64

/-- The six bits that a character stands for. -/
def bits? (c : Char) : Option Nat :=
  if 'A' ≤ c ∧ c ≤ 'Z' then some (c.toNat - 65)
  else if 'a' ≤ c ∧ c ≤ 'z' then some (c.toNat - 71)
  else if isDigit c then some (c.toNat + 4)
  else if c = '+' then some 62
  else if c = '/' then some 63
  else none

/-- The bytes of a group of 24 bits, the first `count` of them. -/
def bytesOf (group count : Nat) : List UInt8 :=
  [UInt8.ofNat (group / 65536), UInt8.ofNat (group / 256), UInt8.ofNat group].take count

/-- The bytes that a text writes. -/
def decode? : List Char → Option (List UInt8)
  | [] => some []
  | [a, b, '=', '='] => do
    let x ← bits? a
    let y ← bits? b
    if y % 16 = 0 then some (bytesOf (x * 262144 + y * 4096) 1) else none
  | [a, b, c, '='] => do
    let x ← bits? a
    let y ← bits? b
    let z ← bits? c
    if z % 4 = 0 then some (bytesOf (x * 262144 + y * 4096 + z * 64) 2) else none
  | a :: b :: c :: d :: rest => do
    let x ← bits? a
    let y ← bits? b
    let z ← bits? c
    let w ← bits? d
    return bytesOf (x * 262144 + y * 4096 + z * 64 + w) 3 ++ (← decode? rest)
  | _ => none

/-- The text whose bytes in UTF-8 another text writes. -/
def decodeText? (cs : List Char) : Option String := do
  String.fromUTF8? ⟨(← decode? cs).toArray⟩

end Playback.Text.Base64
