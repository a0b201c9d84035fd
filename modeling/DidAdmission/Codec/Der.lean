-- SUMMARY: Distinguished encoding: a writer, and a strict reader for the structures keys come in.
import DidAdmission.Bytes

/-!
# Distinguished encoding

An element is a tag, a length and a content. The reader accepts only what the writer writes: definite
lengths in the fewest octets, non-negative integers without superfluous leading zeros, and nothing after
the outermost element. Readers differ in the greatest length they admit (`Limit`).
-/

namespace DidAdmission.Der

def integerTag : UInt8 := 0x02

/-- The tag of a bit string. -/
def bitStringTag : UInt8 := 0x03

/-- The tag of an object identifier. -/
def objectIdentifierTag : UInt8 := 0x06

def sequenceTag : UInt8 := 0x30

/-! ## Writing -/

/-- The octets of a length: one below 128, else their count and the number. -/
def lengthOctets (n : Nat) : Bytes :=
  if n < 128 then [UInt8.ofNat n]
  else
    let octets := Bytes.ofNat n
    UInt8.ofNat (128 + octets.length) :: octets

def element (tag : UInt8) (content : Bytes) : Bytes :=
  tag :: (lengthOctets content.length ++ content)

/-- The content of the non-negative integer with the given bytes: no leading zero but the one that keeps
it from being negative, or that writes zero itself. -/
def unsignedContent (b : Bytes) : Bytes :=
  match b.dropWhile (· == 0) with
  | [] => [0]
  | first :: rest => if 0x80 ≤ first then 0 :: first :: rest else first :: rest

/-- The integer with the given bytes. -/
def unsignedInteger (b : Bytes) : Bytes :=
  element integerTag (unsignedContent b)

def sequence (elements : List Bytes) : Bytes :=
  element sequenceTag elements.flatten

/-- A sequence of two non-negative integers: an RSA public key, or an elliptic-curve signature. -/
def integerPair (a b : Bytes) : Bytes :=
  sequence [unsignedInteger a, unsignedInteger b]

/-! ## Reading -/

/-- The lengths a reader admits. -/
structure Limit where
  /-- How many octets may follow the first one. -/
  octets : Nat
  /-- The greatest length. -/
  length : Nat
deriving DecidableEq, Repr

/-- Reads a length, and answers it with what follows. -/
def readLength? (limit : Limit) : Bytes → Option (Nat × Bytes)
  | [] => none
  | first :: rest =>
    if first < 0x80 then some (first.toNat, rest)
    else
      let count := first.toNat - 128
      let octets := rest.take count
      let n := Bytes.toNat octets
      if count = 0 ∨ limit.octets < count ∨ octets.length ≠ count then none
      else if n < 128 ∨ octets.head? = some 0 ∨ limit.length < n then none
      else some (n, rest.drop count)

/-- Reads an element: its tag, its content, and what follows it. -/
def readElement? (limit : Limit) : Bytes → Option (UInt8 × Bytes × Bytes)
  | [] => none
  | tag :: rest =>
    match readLength? limit rest with
    | none => none
    | some (length, rest) =>
      if rest.length < length then none
      else some (tag, rest.take length, rest.drop length)

/-- Reads an element with the given tag. -/
def expect? (limit : Limit) (tag : UInt8) (b : Bytes) : Option (Bytes × Bytes) :=
  match readElement? limit b with
  | some (found, content, rest) => if found = tag then some (content, rest) else none
  | none => none

/-- Reads the one element that makes up all of the bytes. -/
def only? (limit : Limit) (tag : UInt8) (b : Bytes) : Option Bytes :=
  match expect? limit tag b with
  | some (content, []) => some content
  | _ => none

/-- The number in the content of a non-negative integer. -/
def unsignedValue? : Bytes → Option Nat
  | [] => none
  | [b] => if b < 0x80 then some b.toNat else none
  | first :: second :: rest =>
    if 0x80 ≤ first ∨ (first = 0 ∧ second < 0x80) then none
    else some (Bytes.toNat (first :: second :: rest))

def readUnsigned? (limit : Limit) (b : Bytes) : Option (Nat × Bytes) :=
  match expect? limit integerTag b with
  | some (content, rest) => (unsignedValue? content).map fun n => (n, rest)
  | none => none

/-- Reads a sequence of exactly two non-negative integers. -/
def readIntegerPair? (limit : Limit) (b : Bytes) : Option (Nat × Nat) := do
  let content ← only? limit sequenceTag b
  let (x, rest) ← readUnsigned? limit content
  let (y, rest) ← readUnsigned? limit rest
  if rest.isEmpty then some (x, y) else none

end DidAdmission.Der
