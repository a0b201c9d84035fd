-- SUMMARY: Hexadecimal text.
import DidAdmission.Bytes
import DidAdmission.Text.Quoted

/-!
# Hexadecimal

Two digits a byte, in either case; texts are written in lower case. Positions count bytes of the text,
and a byte that is no digit is shown as the Latin-1 character of its number.
-/

namespace DidAdmission.Hex

/-- Why a text is not hexadecimal. -/
inductive Fault
  | oddLength
  | invalidCharacter (byte : UInt8) (position : Nat)
deriving DecidableEq, Repr

def Fault.message : Fault → String
  | .oddLength => "Odd number of digits"
  | .invalidCharacter byte position =>
    "Invalid character " ++ Text.quoteChar (Char.ofNat byte.toNat) ++ " at position "
      ++ toString position

def digit? (b : UInt8) : Option UInt8 :=
  if 48 ≤ b ∧ b ≤ 57 then some (b - 48)
  else if 97 ≤ b ∧ b ≤ 102 then some (b - 87)
  else if 65 ≤ b ∧ b ≤ 70 then some (b - 55)
  else none

/-- The digit of a value below sixteen. -/
def symbol (v : UInt8) : Char :=
  if v < 10 then Char.ofNat (48 + v.toNat) else Char.ofNat (87 + v.toNat)

/-- Reads pairs of digits, the first of which stands at `position`. -/
def decodePairs (position : Nat) : Bytes → Except Fault Bytes
  | [] => .ok []
  | [_] => .error .oddLength
  | a :: b :: rest =>
    match digit? a, digit? b with
    | none, _ => .error (.invalidCharacter a position)
    | some _, none => .error (.invalidCharacter b (position + 1))
    | some high, some low =>
      (decodePairs (position + 2) rest).map ((high * 16 + low) :: ·)

/-- The bytes that a text stands for. -/
def decode (s : List Char) : Except Fault Bytes :=
  let text := Bytes.ofChars s
  if text.length % 2 = 1 then .error .oddLength else decodePairs 0 text

/-- The text that stands for bytes. -/
def encode (b : Bytes) : List Char :=
  b.flatMap fun x => [symbol (x / 16), symbol (x % 16)]

end DidAdmission.Hex
