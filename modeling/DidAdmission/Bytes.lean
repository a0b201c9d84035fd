-- SUMMARY: Byte strings, the bytes of a text, and byte strings read as numbers.

/-!
# Byte strings

Key material, signatures and signed messages are lists of bytes. A byte string is also a number in
base 256, most significant byte first: `toNat` reads it, `ofNat` writes it with no leading zero and
`ofNatPadded` writes it in a fixed number of bytes.
-/

namespace DidAdmission

/-- A byte string. -/
abbrev Bytes := List UInt8

/-- The number that digits in `base` write, most significant digit first. -/
def Digits.toNat (base : Nat) (digits : List Nat) : Nat :=
  digits.foldl (fun n d => n * base + d) 0

/-- The lowest `fuel` digits of a number, least significant first, stopping where only zeros remain. -/
def Digits.lowFirst (base : Nat) : (fuel : Nat) → Nat → List Nat
  | 0, _ => []
  | fuel + 1, n => if n = 0 then [] else n % base :: Digits.lowFirst base fuel (n / base)

/-- The digits of a number in `base`, most significant first, with no leading zero; zero has none. -/
def Digits.ofNat (base n : Nat) : List Nat :=
  (Digits.lowFirst base (n.log2 + 1) n).reverse

namespace Bytes

/-- The UTF-8 bytes of a list of characters. -/
def ofChars (cs : List Char) : Bytes :=
  cs.flatMap String.utf8EncodeChar

/-- The UTF-8 bytes of a text. -/
def ofText (s : String) : Bytes :=
  ofChars s.toList

/-- The number a byte string writes, most significant byte first. -/
def toNat (b : Bytes) : Nat :=
  Digits.toNat 256 (b.map UInt8.toNat)

/-- The shortest byte string that writes a number; zero is the empty string. -/
def ofNat (n : Nat) : Bytes :=
  (Digits.ofNat 256 n).map UInt8.ofNat

/-- The lowest `width` bytes of a number, most significant first. -/
def ofNatPadded : (width : Nat) → Nat → Bytes
  | 0, _ => []
  | width + 1, n => UInt8.ofNat (n / Nat.pow 256 width) :: ofNatPadded width n

@[simp] theorem length_ofNatPadded (width n : Nat) : (ofNatPadded width n).length = width := by
  induction width with
  | zero => rfl
  | succ w ih => simp [ofNatPadded, ih]

end Bytes

end DidAdmission
