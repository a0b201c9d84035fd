-- SUMMARY: Base58: a byte string as one big number.
import DidAdmission.Bytes
import DidAdmission.Codec.Alphabet
import DidAdmission.Text.Quoted

/-!
# Base58

A text is a number in base 58; each leading zero digit stands for one leading zero byte. The same rule
serves other bases (`Radix`), where only the alphabet differs.
-/

namespace DidAdmission

namespace Radix

/-- The digits of a byte string in `base`: one zero for each leading zero byte, then the number. -/
def encode (base : Nat) (b : Bytes) : List Nat :=
  List.replicate (b.takeWhile (· == 0)).length 0 ++ Digits.ofNat base b.toNat

/-- The byte string that digits in `base` stand for. -/
def decode (base : Nat) (digits : List Nat) : Bytes :=
  List.replicate (digits.takeWhile (· == 0)).length 0 ++ Bytes.ofNat (Digits.toNat base digits)

end Radix

namespace Base58

/-- Why a text is not Base58. Offsets count bytes. -/
inductive Fault
  | notAscii (offset : Nat)
  | invalidCharacter (character : Char) (offset : Nat)
deriving DecidableEq, Repr

def Fault.message : Fault → String
  | .notAscii offset =>
    "provided string contained non-ascii character starting at byte " ++ toString offset
  | .invalidCharacter c offset =>
    "provided string contained invalid character " ++ Text.quoteChar c ++ " at byte "
      ++ toString offset

/-- The values of the characters, the first of which stands at `offset`. All characters before a fault
are ASCII, so that their count is a count of bytes. -/
def values (offset : Nat) : List Char → Except Fault (List Nat)
  | [] => .ok []
  | c :: cs =>
    if 0x80 ≤ c.toNat then .error (.notAscii offset)
    else match Alphabet.bitcoin.value? c with
      | none => .error (.invalidCharacter c offset)
      | some v => (values (offset + 1) cs).map (v :: ·)

/-- The bytes that a text stands for. -/
def decode (s : List Char) : Except Fault Bytes :=
  (values 0 s).map (Radix.decode 58)

/-- The text that stands for bytes. -/
def encode (b : Bytes) : List Char :=
  (Radix.encode 58 b).map Alphabet.bitcoin.symbol

end Base58

end DidAdmission
