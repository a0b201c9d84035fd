-- SUMMARY: Punycode: labels beyond ASCII written in ASCII.

/-!
# Punycode

The ASCII characters of a label come first, then, in ascending order, the positions and values of the
others as variable-length numbers in base 36. The thresholds between digits follow a bias that adapts to
the numbers written so far.
-/

namespace DidAdmission.Punycode

/-- The digit of a value below 36. -/
def symbol (d : Nat) : Char :=
  if d < 26 then Char.ofNat (0x61 + d) else Char.ofNat (0x30 + d - 26)

def value? (c : Char) : Option Nat :=
  let n := c.toNat
  if 0x61 ≤ n ∧ n ≤ 0x7A then some (n - 0x61)
  else if 0x41 ≤ n ∧ n ≤ 0x5A then some (n - 0x41)
  else if 0x30 ≤ n ∧ n ≤ 0x39 then some (n - 0x30 + 26)
  else none

/-- The threshold of the digit at position `k`. -/
def threshold (k bias : Nat) : Nat :=
  if k ≤ bias then 1 else if bias + 26 ≤ k then 26 else k - bias

/-- Divides by 35 until the number is small, counting 36 for each step. -/
def reduceDelta : (fuel : Nat) → (delta k : Nat) → Nat
  | 0, _, k => k
  | fuel + 1, delta, k =>
    if 455 < delta then reduceDelta fuel (delta / 35) (k + 36) else k + 36 * delta / (delta + 38)

/-- The bias after a number has been written. -/
def adapt (delta count : Nat) (first : Bool) : Nat :=
  let halved := if first then delta / 700 else delta / 2
  reduceDelta 64 (halved + halved / count) 0

/-- The variable-length digits of a number. -/
def writeNumber (bias : Nat) : (fuel : Nat) → (k q : Nat) → List Char
  | 0, _, _ => []
  | fuel + 1, k, q =>
    let t := threshold k bias
    if q < t then [symbol q]
    else symbol (t + (q - t) % (36 - t)) :: writeNumber bias fuel (k + 36) ((q - t) / (36 - t))

/-- What has been written and counted on the way through a label. -/
structure Progress where
  delta : Nat
  bias : Nat
  written : Nat
  output : List Char

/-- Passes one character of the label while the characters of value `n` are written. -/
def writeChar (basic n : Nat) (p : Progress) (c : Nat) : Progress :=
  if c < n then { p with delta := p.delta + 1 }
  else if c = n then
    { delta := 0
      bias := adapt p.delta (p.written + 1) (p.written == basic)
      written := p.written + 1
      output := p.output ++ writeNumber p.bias 64 36 p.delta }
  else p

/-- Writes the characters beyond ASCII, in ascending order of their values. -/
def writeValues (label : List Nat) (basic : Nat) : (values : List Nat) → (n : Nat) → Progress → Progress
  | [], _, p => p
  | m :: rest, n, p =>
    let p := { p with delta := p.delta + (m - n) * (p.written + 1) }
    let p := label.foldl (writeChar basic m) p
    writeValues label basic rest (m + 1) { p with delta := p.delta + 1 }

def encode (label : List Char) : List Char :=
  let codes := label.map Char.toNat
  let basic := label.filter fun c => c.toNat < 0x80
  let values := ((codes.filter (0x80 ≤ ·)).mergeSort (· ≤ ·)).eraseDups
  let lead := if basic.isEmpty then [] else basic ++ ['-']
  lead ++ (writeValues codes basic.length values 128 ⟨0, 72, basic.length, []⟩).output

/-- Reads a variable-length number: its value, and what follows. The value and the weights of its digits
fit into 32 bits. -/
def readNumber? (bias : Nat) : (k weight : Nat) → (total : Nat) → List Char → Option (Nat × List Char)
  | _, _, _, [] => none
  | k, weight, total, c :: cs =>
    match value? c with
    | none => none
    | some d =>
      let t := threshold k bias
      let total := total + d * weight
      if Nat.pow 2 32 ≤ total then none
      else if d < t then some (total, cs)
      else if Nat.pow 2 32 ≤ weight * (36 - t) then none
      else readNumber? bias (k + 36) (weight * (36 - t)) total cs

/-- Inserts the characters that the digits stand for; `fuel` bounds their number. -/
def readValues? : (fuel : Nat) → (n i bias : Nat) → (output : List Char) → List Char →
    Option (List Char)
  | _, _, _, _, output, [] => some output
  | 0, _, _, _, _, _ :: _ => none
  | fuel + 1, n, i, bias, output, c :: cs =>
    match readNumber? bias 36 1 0 (c :: cs) with
    | none => none
    | some (delta, rest) =>
      let count := output.length + 1
      let position := i + delta
      let code := n + position / count
      if code < 0x110000 ∧ ¬ (0xD800 ≤ code ∧ code ≤ 0xDFFF) then
        let slot := position % count
        readValues? fuel code (slot + 1) (adapt delta count (i == 0))
          (output.take slot ++ Char.ofNat code :: output.drop slot) rest
      else none

/-- The label that an ASCII text stands for. The last hyphen ends the ASCII characters of the label, of
which there has to be one. -/
def decode? (text : List Char) : Option (List Char) :=
  let digits := (text.reverse.takeWhile (· != '-')).reverse
  let basic := text.take (text.length - digits.length - 1)
  if (basic.all fun c => c.toNat < 0x80) ∧ ¬ (basic.isEmpty ∧ digits.length < text.length) then
    readValues? text.length 128 0 72 basic digits
  else none

end DidAdmission.Punycode
