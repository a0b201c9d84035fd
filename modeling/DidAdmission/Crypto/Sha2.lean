-- SUMMARY: The hash functions of the second secure hash family, with words of 32 and of 64 bits.
import DidAdmission.Bytes

/-!
# Secure hashes

The two functions differ in the size of their words, the amounts they rotate by and their constants
(`Variant`); everything else is shared. A message is padded to whole blocks, and each block is mixed into
a state of eight words.
-/

namespace DidAdmission.Sha2

/-- Three amounts by which a word is rotated or shifted. -/
structure Amounts where
  first : Nat
  second : Nat
  third : Nat

/-- What tells the members of the family apart. -/
structure Variant where
  /-- The number of bytes of a word. -/
  wordBytes : Nat
  /-- Rotations of the first state word. -/
  upperSum : Amounts
  /-- Rotations of the fifth state word. -/
  lowerSum : Amounts
  /-- Two rotations and a shift of an early schedule word. -/
  earlyMix : Amounts
  /-- Two rotations and a shift of a late schedule word. -/
  lateMix : Amounts
  initial : List Nat
  constants : List Nat

/-- The state between two rounds. -/
structure State where
  a : Nat
  b : Nat
  c : Nat
  d : Nat
  e : Nat
  f : Nat
  g : Nat
  h : Nat

/-- The words of a state in order. -/
def State.words (s : State) : List Nat :=
  [s.a, s.b, s.c, s.d, s.e, s.f, s.g, s.h]

/-- The state made of the first eight words of a list. -/
def State.ofWords (w : List Nat) : State :=
  ⟨w.getD 0 0, w.getD 1 0, w.getD 2 0, w.getD 3 0, w.getD 4 0, w.getD 5 0, w.getD 6 0, w.getD 7 0⟩

namespace Variant

/-- The number of bits of a word. -/
def wordBits (v : Variant) : Nat := 8 * v.wordBytes

/-- The number of words there are. -/
def modulus (v : Variant) : Nat := Nat.pow 2 v.wordBits

/-- A word rotated to the right. -/
def rotate (v : Variant) (amount x : Nat) : Nat :=
  (x >>> amount) ||| (x <<< (v.wordBits - amount)) % v.modulus

/-- The exclusive sum of three rotations. -/
def sum (v : Variant) (m : Amounts) (x : Nat) : Nat :=
  v.rotate m.first x ^^^ v.rotate m.second x ^^^ v.rotate m.third x

/-- The exclusive sum of two rotations and a shift. -/
def mix (v : Variant) (m : Amounts) (x : Nat) : Nat :=
  v.rotate m.first x ^^^ v.rotate m.second x ^^^ (x >>> m.third)

/-- One round, with a constant and a word of the schedule. -/
def round (v : Variant) (s : State) (constant word : Nat) : State :=
  let chosen := (s.e &&& s.f) ^^^ ((v.modulus - 1 - s.e) &&& s.g)
  let majority := (s.a &&& s.b) ^^^ (s.a &&& s.c) ^^^ (s.b &&& s.c)
  let t := s.h + v.sum v.lowerSum s.e + chosen + constant + word
  let u := v.sum v.upperSum s.a + majority
  ⟨(t + u) % v.modulus, s.a, s.b, s.c, (s.d + t) % v.modulus, s.e, s.f, s.g⟩

/-- The word of the schedule that follows sixteen others. -/
def nextWord (v : Variant) (window : List Nat) : Nat :=
  (v.mix v.lateMix (window.getD 14 0) + window.getD 9 0 + v.mix v.earlyMix (window.getD 1 0)
    + window.getD 0 0) % v.modulus

/-- One round for each constant, with a window of sixteen words that moves along the schedule. -/
def rounds (v : Variant) : (constants : List Nat) → (window : List Nat) → State → State
  | [], _, s => s
  | k :: ks, window, s =>
    v.rounds ks (window.drop 1 ++ [v.nextWord window]) (v.round s k (window.getD 0 0))

/-- The big-endian words of a byte string. -/
def wordsOf (v : Variant) : (count : Nat) → Bytes → List Nat
  | 0, _ => []
  | count + 1, b => Bytes.toNat (b.take v.wordBytes) :: v.wordsOf count (b.drop v.wordBytes)

/-- Mixes one block into the state. -/
def compress (v : Variant) (s : State) (block : Bytes) : State :=
  let mixed := v.rounds v.constants (v.wordsOf 16 block) s
  State.ofWords (List.zipWith (fun x y => (x + y) % v.modulus) s.words mixed.words)

/-- The number of bytes of a block. -/
def blockBytes (v : Variant) : Nat := 16 * v.wordBytes

/-- A message padded to whole blocks: a mark, zeros, and the length in bits in two words. -/
def pad (v : Variant) (message : Bytes) : Bytes :=
  let used := message.length + 1 + 2 * v.wordBytes
  let zeros := (v.blockBytes - used % v.blockBytes) % v.blockBytes
  message ++ 0x80 :: List.replicate zeros 0
    ++ Bytes.ofNatPadded (2 * v.wordBytes) (8 * message.length)

/-- Mixes blocks into the state one after another. -/
def absorb (v : Variant) : (blocks : Nat) → Bytes → State → State
  | 0, _, s => s
  | blocks + 1, b, s =>
    v.absorb blocks (b.drop v.blockBytes) (v.compress s (b.take v.blockBytes))

def digest (v : Variant) (message : Bytes) : Bytes :=
  let padded := v.pad message
  let final := v.absorb (padded.length / v.blockBytes) padded (State.ofWords v.initial)
  final.words.flatMap (Bytes.ofNatPadded v.wordBytes)

end Variant

/-- The function with words of 32 bits. -/
def sha256 : Variant where
  wordBytes := 4
  upperSum := ⟨2, 13, 22⟩
  lowerSum := ⟨6, 11, 25⟩
  earlyMix := ⟨7, 18, 3⟩
  lateMix := ⟨17, 19, 10⟩
  initial :=
    [0x6a09e667, 0xbb67ae85, 0x3c6ef372, 0xa54ff53a, 0x510e527f, 0x9b05688c, 0x1f83d9ab, 0x5be0cd19]
  constants :=
    [0x428a2f98, 0x71374491, 0xb5c0fbcf, 0xe9b5dba5, 0x3956c25b, 0x59f111f1, 0x923f82a4, 0xab1c5ed5,
     0xd807aa98, 0x12835b01, 0x243185be, 0x550c7dc3, 0x72be5d74, 0x80deb1fe, 0x9bdc06a7, 0xc19bf174,
     0xe49b69c1, 0xefbe4786, 0x0fc19dc6, 0x240ca1cc, 0x2de92c6f, 0x4a7484aa, 0x5cb0a9dc, 0x76f988da,
     0x983e5152, 0xa831c66d, 0xb00327c8, 0xbf597fc7, 0xc6e00bf3, 0xd5a79147, 0x06ca6351, 0x14292967,
     0x27b70a85, 0x2e1b2138, 0x4d2c6dfc, 0x53380d13, 0x650a7354, 0x766a0abb, 0x81c2c92e, 0x92722c85,
     0xa2bfe8a1, 0xa81a664b, 0xc24b8b70, 0xc76c51a3, 0xd192e819, 0xd6990624, 0xf40e3585, 0x106aa070,
     0x19a4c116, 0x1e376c08, 0x2748774c, 0x34b0bcb5, 0x391c0cb3, 0x4ed8aa4a, 0x5b9cca4f, 0x682e6ff3,
     0x748f82ee, 0x78a5636f, 0x84c87814, 0x8cc70208, 0x90befffa, 0xa4506ceb, 0xbef9a3f7, 0xc67178f2]

/-- The function with words of 64 bits. -/
def sha512 : Variant where
  wordBytes := 8
  upperSum := ⟨28, 34, 39⟩
  lowerSum := ⟨14, 18, 41⟩
  earlyMix := ⟨1, 8, 7⟩
  lateMix := ⟨19, 61, 6⟩
  initial :=
    [0x6a09e667f3bcc908, 0xbb67ae8584caa73b, 0x3c6ef372fe94f82b, 0xa54ff53a5f1d36f1,
     0x510e527fade682d1, 0x9b05688c2b3e6c1f, 0x1f83d9abfb41bd6b, 0x5be0cd19137e2179]
  constants :=
    [0x428a2f98d728ae22, 0x7137449123ef65cd, 0xb5c0fbcfec4d3b2f, 0xe9b5dba58189dbbc,
     0x3956c25bf348b538, 0x59f111f1b605d019, 0x923f82a4af194f9b, 0xab1c5ed5da6d8118,
     0xd807aa98a3030242, 0x12835b0145706fbe, 0x243185be4ee4b28c, 0x550c7dc3d5ffb4e2,
     0x72be5d74f27b896f, 0x80deb1fe3b1696b1, 0x9bdc06a725c71235, 0xc19bf174cf692694,
     0xe49b69c19ef14ad2, 0xefbe4786384f25e3, 0x0fc19dc68b8cd5b5, 0x240ca1cc77ac9c65,
     0x2de92c6f592b0275, 0x4a7484aa6ea6e483, 0x5cb0a9dcbd41fbd4, 0x76f988da831153b5,
     0x983e5152ee66dfab, 0xa831c66d2db43210, 0xb00327c898fb213f, 0xbf597fc7beef0ee4,
     0xc6e00bf33da88fc2, 0xd5a79147930aa725, 0x06ca6351e003826f, 0x142929670a0e6e70,
     0x27b70a8546d22ffc, 0x2e1b21385c26c926, 0x4d2c6dfc5ac42aed, 0x53380d139d95b3df,
     0x650a73548baf63de, 0x766a0abb3c77b2a8, 0x81c2c92e47edaee6, 0x92722c851482353b,
     0xa2bfe8a14cf10364, 0xa81a664bbc423001, 0xc24b8b70d0f89791, 0xc76c51a30654be30,
     0xd192e819d6ef5218, 0xd69906245565a910, 0xf40e35855771202a, 0x106aa07032bbd1b8,
     0x19a4c116b8d2d0c8, 0x1e376c085141ab53, 0x2748774cdf8eeb99, 0x34b0bcb5e19b48a8,
     0x391c0cb3c5c95a63, 0x4ed8aa4ae3418acb, 0x5b9cca4f7763e373, 0x682e6ff3d6b2b8a3,
     0x748f82ee5defb2fc, 0x78a5636f43172f60, 0x84c87814a1f0ab72, 0x8cc702081a6439ec,
     0x90befffa23631e28, 0xa4506cebde82bde9, 0xbef9a3f7b2c67915, 0xc67178f2e372532b,
     0xca273eceea26619c, 0xd186b8c721c0c207, 0xeada7dd6cde0eb1e, 0xf57d4f7fee6ed178,
     0x06f067aa72176fba, 0x0a637dc5a2c898a6, 0x113f9804bef90dae, 0x1b710b35131c471b,
     0x28db77f523047d84, 0x32caab7b40c72493, 0x3c9ebe0a15c9bebc, 0x431d67c49c100d4c,
     0x4cc5d4becb3e42b6, 0x597f299cfc657e2a, 0x5fcb6fab3ad6faec, 0x6c44198c4a475817]

end DidAdmission.Sha2
