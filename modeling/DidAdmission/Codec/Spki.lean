-- SUMMARY: Public keys wrapped with the identifier of their algorithm.
import DidAdmission.Codec.Der

/-!
# Subject public key information

A wrapped key is a sequence of an algorithm and a bit string; the algorithm is an object identifier with
at most one parameter of any known type, whose content is not read.
-/

namespace DidAdmission

/-- A wrapped key. -/
structure Spki where
  /-- The content of the algorithm's object identifier. -/
  algorithm : Bytes
  /-- The parameter of the algorithm as it stands, if there is one. -/
  parameter : Bytes
  /-- How many bits of the last byte do not count. -/
  unusedBits : UInt8
  key : Bytes
deriving DecidableEq, Repr

namespace Spki

/-- The lengths admitted in a wrapped key. -/
def limit : Der.Limit := ⟨4, Nat.pow 2 28 - 1⟩

/-- The tags a parameter may have. -/
def isKnownTag (tag : UInt8) : Bool :=
  tag % 32 != 31 &&
    (([0x01, 0x02, 0x03, 0x04, 0x05, 0x06, 0x09, 0x0A, 0x0C, 0x12, 0x13, 0x14, 0x15, 0x16, 0x17,
        0x18, 0x1A, 0x1E, 0x30, 0x31] : List UInt8).contains tag
      || 0x40 ≤ tag)

/-- Are these the parts of an object identifier after the first? Each ends with a byte below 128;
`length` counts the bytes of the part so far, of which the sixth and later ones must be small. -/
def areParts (length : Nat) : Bytes → Bool
  | [] => length == 0
  | b :: rest =>
    (length < 5 || b < 0x10) && areParts (if b < 0x80 then 0 else length + 1) rest

/-- Is this the content of an object identifier? -/
def isObjectIdentifier (content : Bytes) : Bool :=
  match content with
  | [] => false
  | first :: rest =>
    3 ≤ content.length && content.length ≤ 39 && first < 120 && areParts 0 rest

/-- Is there nothing, or exactly one element with a known tag? -/
def isParameter (b : Bytes) : Bool :=
  b.isEmpty ||
    match Der.readElement? limit b with
    | some (tag, _, rest) => isKnownTag tag && rest.isEmpty
    | none => false

def read? (b : Bytes) : Option Spki := do
  let content ← Der.only? limit Der.sequenceTag b
  let (algorithm, rest) ← Der.expect? limit Der.sequenceTag content
  let (identifier, parameter) ← Der.expect? limit Der.objectIdentifierTag algorithm
  let bits ← Der.only? limit Der.bitStringTag rest
  if isObjectIdentifier identifier && isParameter parameter then
    match bits with
    | [] => none
    | unused :: key =>
      if 7 < unused ∨ (unused ≠ 0 ∧ key.isEmpty) then none
      else some ⟨identifier, parameter, unused, key⟩
  else none

def write (spki : Spki) : Bytes :=
  Der.sequence
    [Der.sequence [Der.element Der.objectIdentifierTag spki.algorithm, spki.parameter],
      Der.element Der.bitStringTag (spki.unusedBits :: spki.key)]

end Spki

end DidAdmission
