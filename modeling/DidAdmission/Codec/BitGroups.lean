-- SUMMARY: Symbols of a fixed number of bits, packed into bytes.
import DidAdmission.Bytes
import DidAdmission.Codec.Alphabet

/-!
# Bit groups

Each symbol of a text stands for `width` bits, most significant bit first. The bits are cut into bytes;
what is left over must be less than one symbol and all zero, so that every byte string has exactly one
text without padding. A padded text is made of blocks of a fixed length, each ended by padding.
-/

namespace DidAdmission.BitGroups

/-- The lowest `width` bits of a number, most significant first. -/
def bitsOf : (width : Nat) → Nat → List Bool
  | 0, _ => []
  | width + 1, n => n.testBit width :: bitsOf width n

/-- The number that bits write, most significant first. -/
def numberOf (bits : List Bool) : Nat :=
  bits.foldl (fun n b => 2 * n + b.toNat) 0

/-- Cuts bits into bytes; the rest has less than eight bits. -/
def packBytes : List Bool → Bytes × List Bool
  | a :: b :: c :: d :: e :: f :: g :: h :: rest =>
    let (bytes, left) := packBytes rest
    (UInt8.ofNat (numberOf [a, b, c, d, e, f, g, h]) :: bytes, left)
  | left => ([], left)

/-- The bytes that symbols of `width` bits stand for. -/
def decode? (width : Nat) (values : List Nat) : Option Bytes :=
  let (bytes, left) := packBytes (values.flatMap (bitsOf width))
  if left.length < width ∧ left.all (! ·) then some bytes else none

/-- Cuts a list into blocks of `size`; `fuel` bounds their number. -/
def blocks {α : Type} (size : Nat) : (fuel : Nat) → List α → List (List α)
  | 0, _ => []
  | fuel + 1, items =>
    if items.isEmpty then [] else items.take size :: blocks size fuel (items.drop size)

/-- The symbols of one block without the padding at its end, at least one. -/
def unpadBlock? (block : List Char) : Option (List Char) :=
  let symbols := (block.reverse.dropWhile (· == '=')).reverse
  if symbols.isEmpty then none else some symbols

/-- The bytes of a text made of padded blocks of `size` characters, each read by `decodeBlock`. -/
def decodePadded? (size : Nat) (decodeBlock : List Char → Option Bytes) (s : List Char) :
    Option Bytes :=
  if s.length % size = 0 then
    ((blocks size s.length s).mapM fun block => (unpadBlock? block).bind decodeBlock).map
      List.flatten
  else none

end DidAdmission.BitGroups
