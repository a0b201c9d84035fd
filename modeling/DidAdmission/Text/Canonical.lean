-- SUMMARY: The canonical form of a text.
import DidAdmission.Text.Decomposition
import DidAdmission.Text.Marks

/-!
# Canonical form

Texts that look the same may be written with a letter that carries its mark or with the letter and the
mark apart. The canonical form takes every character apart, puts the marks after a letter in the order of
their classes, and then puts together what has a preferred form (Normalization Form C).
-/

namespace DidAdmission.Text

/-! ## Syllables of Hangul -/

/-- The parts of a syllable: a lead, a vowel and, unless it is the first of its kind, a tail. -/
def syllableParts? (c : Char) : Option (List Char) :=
  let n := c.toNat
  if 0xAC00 ≤ n ∧ n ≤ 0xD7A3 then
    let s := n - 0xAC00
    let pair := [Char.ofNat (0x1100 + s / 588), Char.ofNat (0x1161 + s % 588 / 28)]
    some (if s % 28 = 0 then pair else pair ++ [Char.ofNat (0x11A7 + s % 28)])
  else none

/-- The syllable of a lead and a vowel, or of a syllable without a tail and a tail. -/
def syllable? (a b : Char) : Option Char :=
  let m := a.toNat
  let n := b.toNat
  if 0x1100 ≤ m ∧ m ≤ 0x1112 ∧ 0x1161 ≤ n ∧ n ≤ 0x1175 then
    some (Char.ofNat (0xAC00 + (m - 0x1100) * 588 + (n - 0x1161) * 28))
  else if 0xAC00 ≤ m ∧ m ≤ 0xD7A3 ∧ (m - 0xAC00) % 28 = 0 ∧ 0x11A8 ≤ n ∧ n ≤ 0x11C2 then
    some (Char.ofNat (m + (n - 0x11A7)))
  else none

/-! ## Taking apart -/

/-- What a character stands for, in one step. -/
def parts? (c : Char) : Option (List Char) :=
  if c.toNat < 0xC0 then none
  else match syllableParts? c with
    | some parts => some parts
    | none =>
      match likenessTable.lookup c with
      | some other => some [other]
      | none =>
        match unionTable.lookup c with
        | some (a, b) => some [a, b]
        | none => (partingTable.lookup c).map fun (a, b) => [a, b]

/-- The number of steps that takes every character apart. -/
def maxSteps : Nat := 3

/-- Takes a character apart; `steps` bounds the nesting. -/
def takeApart : (steps : Nat) → Char → List Char
  | 0, c => [c]
  | steps + 1, c =>
    match parts? c with
    | some parts => parts.flatMap (takeApart steps)
    | none => [c]

/-- All that a character stands for. -/
def decompose (c : Char) : List Char :=
  takeApart maxSteps c

/-! ## Putting together -/

/-- The marks after each character in the order of their classes. -/
def orderMarks (cs : List Char) : List Char :=
  (cs.splitBy fun _ c => combiningClass c != 0).flatMap fun group =>
    group.mergeSort fun a b => combiningClass a ≤ combiningClass b

/-- The preferred form of two characters. -/
def union? (a b : Char) : Option Char :=
  if b.toNat < 0x300 then none
  else match syllable? a b with
    | some c => some c
    | none =>
      match unionTable.find? fun (_, first, second) => first == a && second == b with
      | some (c, _, _) => some c
      | none => none

/-- Puts characters together with the last one that is no mark, `base`. The marks that stay apart from it,
latest first, are in `kept`; a mark can only reach the base past marks of lower classes. -/
def putTogether (base : Char) (kept : List Char) : List Char → List Char
  | [] => base :: kept.reverse
  | c :: cs =>
    let reaches := match kept with
      | [] => true
      | mark :: _ => combiningClass mark < combiningClass c
    match if reaches then union? base c else none with
    | some whole => putTogether whole kept cs
    | none =>
      if combiningClass c = 0 then base :: kept.reverse ++ putTogether c [] cs
      else putTogether base (c :: kept) cs

/-- The canonical form of a text. -/
def canonical (cs : List Char) : List Char :=
  match orderMarks (cs.flatMap decompose) with
  | [] => []
  | c :: rest => putTogether c [] rest

end DidAdmission.Text
