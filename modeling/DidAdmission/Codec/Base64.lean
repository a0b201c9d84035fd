-- SUMMARY: Base64 in two alphabets, with padding optional on reading.
import DidAdmission.Bytes
import DidAdmission.Codec.Alphabet

/-!
# Base64

Four symbols of six bits make three bytes. Texts are written with padding; on reading the padding may
be missing in whole or in part. All but the last chunk of eight bytes must be symbols; in the last one
padding may follow the symbols from the third place of a quad on. Offsets count bytes of the text.
-/

namespace DidAdmission.Base64

/-- Why a text is not Base64. -/
inductive Fault
  | invalidByte (offset : Nat) (byte : UInt8)
  | invalidLength
  | invalidLastSymbol (offset : Nat) (byte : UInt8)
deriving DecidableEq, Repr

def Fault.message : Fault → String
  | .invalidByte offset byte =>
    "Invalid byte " ++ toString byte.toNat ++ ", offset " ++ toString offset ++ "."
  | .invalidLength => "Encoded text cannot have a 6-bit remainder."
  | .invalidLastSymbol offset byte =>
    "Invalid last symbol " ++ toString byte.toNat ++ ", offset " ++ toString offset ++ "."

/-- The byte of the padding character. -/
def padding : UInt8 := 61

/-- The value of a byte of the text that is a symbol. -/
def value? (alphabet : Alphabet) (b : UInt8) : Option Nat :=
  alphabet.value? (Char.ofNat b.toNat)

/-- The values of bytes that must all be symbols. -/
def frontValues (alphabet : Alphabet) (offset : Nat) : Bytes → Except Fault (List Nat)
  | [] => .ok []
  | b :: rest =>
    match value? alphabet b with
    | none => .error (.invalidByte offset b)
    | some v => (frontValues alphabet (offset + 1) rest).map (v :: ·)

/-- The values of the symbols of the last chunk, which starts at `start`. `index` counts the bytes of
the chunk that have been read and `firstPad` is the index of the first padding among them. -/
def tailValues (alphabet : Alphabet) (start : Nat) (index : Nat) (firstPad : Option Nat) :
    Bytes → Except Fault (List Nat)
  | [] => .ok []
  | b :: rest =>
    if b = padding then
      if index % 4 < 2 then .error (.invalidByte (start + firstPad.getD index) padding)
      else tailValues alphabet start (index + 1) (some (firstPad.getD index)) rest
    else match firstPad with
      | some i => .error (.invalidByte (start + i) padding)
      | none =>
        match value? alphabet b with
        | none => .error (.invalidByte (start + index) b)
        | some v => (tailValues alphabet start (index + 1) none rest).map (v :: ·)

/-- The length of the last chunk of a text. -/
def tailLength (length : Nat) : Nat :=
  if length % 8 = 0 then min length 8 else length % 8

/-- The values of all symbols of a text. -/
def values (alphabet : Alphabet) (text : Bytes) : Except Fault (List Nat) := do
  let start := text.length - tailLength text.length
  let front ← frontValues alphabet 0 (text.take start)
  let tail ← tailValues alphabet start 0 none (text.drop start)
  .ok (front ++ tail)

/-- The bytes of groups of six bits, unless bits are left over that are not zero. -/
def joinSextets : List Nat → Option Bytes
  | a :: b :: c :: d :: rest =>
    (joinSextets rest).map fun bytes =>
      UInt8.ofNat (a * 4 + b / 16) :: UInt8.ofNat (b % 16 * 16 + c / 4)
        :: UInt8.ofNat (c % 4 * 64 + d) :: bytes
  | [a, b, c] =>
    if c % 4 = 0 then some [UInt8.ofNat (a * 4 + b / 16), UInt8.ofNat (b % 16 * 16 + c / 4)]
    else none
  | [a, b] => if b % 16 = 0 then some [UInt8.ofNat (a * 4 + b / 16)] else none
  | [_] => none
  | [] => some []

/-- The groups of six bits of bytes; the last group is filled with zero bits. -/
def splitSextets : Bytes → List Nat
  | a :: b :: c :: rest =>
    a.toNat / 4 :: (a.toNat % 4 * 16 + b.toNat / 16) :: (b.toNat % 16 * 4 + c.toNat / 64)
      :: c.toNat % 64 :: splitSextets rest
  | [a, b] => [a.toNat / 4, a.toNat % 4 * 16 + b.toNat / 16, b.toNat % 16 * 4]
  | [a] => [a.toNat / 4, a.toNat % 4 * 16]
  | [] => []

/-- The bytes that a text stands for. -/
def decodeBytes (alphabet : Alphabet) (text : Bytes) : Except Fault Bytes :=
  if text.length % 4 = 1 then
    match text.getLast? with
    | some last =>
      if last ≠ padding ∧ value? alphabet last = none then
        .error (.invalidByte (text.length - 1) last)
      else .error .invalidLength
    | none => .error .invalidLength
  else
    match values alphabet text with
    | .error fault => .error fault
    | .ok sextets =>
      match joinSextets sextets with
      | some bytes => .ok bytes
      | none =>
        .error (.invalidLastSymbol (sextets.length - 1) (text.getD (sextets.length - 1) 0))

/-- The bytes that a text in the given alphabet stands for. -/
def decodeIn (alphabet : Alphabet) (s : List Char) : Except Fault Bytes :=
  decodeBytes alphabet (Bytes.ofChars s)

/-- The bytes that a text in the standard alphabet stands for. -/
def decode (s : List Char) : Except Fault Bytes :=
  decodeIn Alphabet.base64 s

/-- The text without padding that stands for bytes. -/
def encodeUnpadded (alphabet : Alphabet) (b : Bytes) : List Char :=
  (splitSextets b).map alphabet.symbol

/-- The padding after the symbols of `length` bytes. -/
def paddingFor (length : Nat) : List Char :=
  List.replicate ((3 - length % 3) % 3) '='

/-- The text with padding that stands for bytes. -/
def encodePadded (alphabet : Alphabet) (b : Bytes) : List Char :=
  encodeUnpadded alphabet b ++ paddingFor b.length

/-- The text in the standard alphabet that stands for bytes. -/
def encode (b : Bytes) : List Char :=
  encodePadded Alphabet.base64 b

end DidAdmission.Base64
