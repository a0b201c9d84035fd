-- SUMMARY: The lexemes of JSON: blanks, literal words, strings and numbers.
import DidAdmission.Bytes
import DidAdmission.Json.Fault

/-!
# Lexemes

A reader takes the rest of a text and answers a value and what remains, or the first fault. Strings
are read in full (`readString`) or only passed over (`skipString`, which does not ask whether
surrogates are paired); numbers are scanned first (`scanNumber`) and valued afterwards
(`NumeralText.value?`).
-/

namespace DidAdmission.Json

/-- A reader of a value at the start of a text. -/
abbrev Reader (α : Type) := List Char → Except Fault (α × List Char)

def isSpace (c : Char) : Bool :=
  c == ' ' || c == '\t' || c == '\n' || c == '\r'

def skipSpace (s : List Char) : List Char :=
  s.dropWhile isSpace

/-- Passes over the rest of a literal word. -/
def skipWord : (word : List Char) → List Char → Except Fault (List Char)
  | [], s => .ok s
  | _ :: _, [] => .error .endInValue
  | w :: word, c :: s => if c = w then skipWord word s else .error .expectedIdent

/-! ## Strings -/

/-- The value of a hexadecimal digit in either case. -/
def hexValue? (c : Char) : Option Nat :=
  if '0' ≤ c ∧ c ≤ '9' then some (c.toNat - 48)
  else if 'a' ≤ c ∧ c ≤ 'f' then some (c.toNat - 87)
  else if 'A' ≤ c ∧ c ≤ 'F' then some (c.toNat - 55)
  else none

/-- The number written by four hexadecimal digits. A text of less than four bytes ends too early,
whatever those bytes are. -/
def hexQuad (s : List Char) : Except Fault Nat :=
  match s with
  | a :: b :: c :: d :: _ =>
    match [a, b, c, d].mapM hexValue? with
    | some digits => .ok (Digits.toNat 16 digits)
    | none => .error .invalidEscape
  | _ => if (Bytes.ofChars s).length < 4 then .error .endInString else .error .invalidEscape

/-- The second half of a surrogate pair whose first half is `high`. -/
def surrogatePair (high : Nat) (s : List Char) : Except Fault Char :=
  match s with
  | [] => .error .endInString
  | '\\' :: [] => .error .endInString
  | '\\' :: 'u' :: rest =>
    match hexQuad rest with
    | .error fault => .error fault
    | .ok low =>
      if 0xDC00 ≤ low ∧ low ≤ 0xDFFF then
        .ok (Char.ofNat (0x10000 + (high - 0xD800) * 0x400 + (low - 0xDC00)))
      else .error .loneSurrogate
  | _ => .error .unfinishedSurrogate

/-- The character of the escape that follows a backslash and its length in characters. -/
def readEscape (s : List Char) : Except Fault (Char × Nat) :=
  match s with
  | [] => .error .endInString
  | '"' :: _ => .ok ('"', 1)
  | '\\' :: _ => .ok ('\\', 1)
  | '/' :: _ => .ok ('/', 1)
  | 'b' :: _ => .ok ('\x08', 1)
  | 'f' :: _ => .ok ('\x0c', 1)
  | 'n' :: _ => .ok ('\n', 1)
  | 'r' :: _ => .ok ('\r', 1)
  | 't' :: _ => .ok ('\t', 1)
  | 'u' :: rest =>
    match hexQuad rest with
    | .error fault => .error fault
    | .ok n =>
      if 0xDC00 ≤ n ∧ n ≤ 0xDFFF then .error .loneSurrogate
      else if 0xD800 ≤ n ∧ n ≤ 0xDBFF then
        (surrogatePair n (rest.drop 4)).map fun c => (c, 11)
      else .ok (Char.ofNat n, 5)
  | _ => .error .invalidEscape

/-- The length in characters of the escape that follows a backslash, surrogates not paired. -/
def skipEscape (s : List Char) : Except Fault Nat :=
  match s with
  | [] => .error .endInString
  | 'u' :: rest => (hexQuad rest).map fun _ => 5
  | c :: _ => if "\"\\/bfnrt".toList.contains c then .ok 1 else .error .invalidEscape

/-- Reads the rest of a string up to its closing quote, passing over the next `skip` characters,
which belong to an escape already read. -/
def stringChars : (skip : Nat) → Reader (List Char)
  | _, [] => .error .endInString
  | skip + 1, _ :: s => stringChars skip s
  | 0, c :: s =>
    if c = '"' then .ok ([], s)
    else if c = '\\' then
      match readEscape s with
      | .error fault => .error fault
      | .ok (e, length) => (stringChars length s).map fun (cs, rest) => (e :: cs, rest)
    else if c.toNat < 0x20 then .error .controlCharacter
    else (stringChars 0 s).map fun (cs, rest) => (c :: cs, rest)

/-- Reads the rest of a string up to its closing quote. -/
def readString : Reader String := fun s =>
  (stringChars 0 s).map fun (cs, rest) => (String.ofList cs, rest)

/-- Passes over the rest of a string, after `skip` characters of an escape. -/
def skipChars : (skip : Nat) → List Char → Except Fault (List Char)
  | _, [] => .error .endInString
  | skip + 1, _ :: s => skipChars skip s
  | 0, c :: s =>
    if c = '"' then .ok s
    else if c = '\\' then
      match skipEscape s with
      | .error fault => .error fault
      | .ok length => skipChars length s
    else if c.toNat < 0x20 then .error .controlCharacter
    else skipChars 0 s

/-- Passes over the rest of a string up to its closing quote. -/
def skipString (s : List Char) : Except Fault (List Char) :=
  skipChars 0 s

/-! ## Numbers -/

/-- A number as written: its sign, and the digits of its parts. -/
structure NumeralText where
  negative : Bool
  whole : List Nat
  fraction : Option (List Nat)
  exponent : Option (Bool × List Nat)
deriving DecidableEq, Repr

/-- The value of a decimal digit. -/
def digitValue (c : Char) : Nat :=
  c.toNat - 48

/-- The digits at the start of a text, and what follows them. -/
def takeDigits (s : List Char) : List Nat × List Char :=
  ((s.takeWhile Char.isDigit).map digitValue, s.dropWhile Char.isDigit)

/-- At least one digit; `atEnd` is the fault of a text that ends here. -/
def takeSomeDigits (atEnd : Fault) : Reader (List Nat) := fun s =>
  match takeDigits s with
  | ([], []) => .error atEnd
  | ([], _ :: _) => .error .invalidNumber
  | found => .ok found

/-- The digits before the point: a zero stands alone. -/
def scanWhole (atEnd : Fault) : Reader (List Nat) := fun s =>
  match s with
  | '0' :: rest =>
    match rest with
    | c :: _ => if c.isDigit then .error .invalidNumber else .ok ([0], rest)
    | [] => .ok ([0], rest)
  | _ => takeSomeDigits atEnd s

/-- The digits after the point, if there is one. -/
def scanFraction (atEnd : Fault) : Reader (Option (List Nat)) := fun s =>
  match s with
  | '.' :: rest => (takeSomeDigits atEnd rest).map fun (ds, rest) => (some ds, rest)
  | _ => .ok (none, s)

/-- The exponent, if there is one, with `true` for a minus sign. -/
def scanExponent (atEnd : Fault) : Reader (Option (Bool × List Nat)) := fun s =>
  match s with
  | c :: rest =>
    if c = 'e' ∨ c = 'E' then
      let (negative, rest) :=
        match rest with
        | '+' :: rest => (false, rest)
        | '-' :: rest => (true, rest)
        | rest => (false, rest)
      (takeSomeDigits atEnd rest).map fun (ds, rest) => (some (negative, ds), rest)
    else .ok (none, s)
  | [] => .ok (none, s)

/-- Scans a number whose sign has been read. -/
def scanNumber (atEnd : Fault) (negative : Bool) : Reader NumeralText := fun s => do
  let (whole, s) ← scanWhole atEnd s
  let (fraction, s) ← scanFraction atEnd s
  let (exponent, s) ← scanExponent atEnd s
  .ok (⟨negative, whole, fraction, exponent⟩, s)

/-- The greatest number of 64 bits. -/
def maxWord : Nat := Nat.pow 2 64 - 1

/-- Appends digits to a number as long as it stays within 64 bits; answers the digits left over. -/
def appendDigits : (significand : Nat) → List Nat → Nat × List Nat
  | significand, [] => (significand, [])
  | significand, d :: ds =>
    if maxWord < significand * 10 + d then (significand, d :: ds)
    else appendDigits (significand * 10 + d) ds

/-- Scales by a power of ten in steps of at most 308 places, rounding after each; no answer beyond
the greatest finite number. After four steps down nothing is left. -/
def scaleTenfold : (steps : Nat) → Magnitude → (places : Nat) → (down : Bool) → Option Magnitude
  | 0, _, _, _ => some .zero
  | steps + 1, x, places, down =>
    if places ≤ 308 then
      if down then x.div (.powerOfTen places) else x.mul (.powerOfTen places)
    else if x.isZero then some x
    else if down then
      match x.div (.powerOfTen 308) with
      | some y => scaleTenfold steps y (places - 308) down
      | none => none
    else none

/-- The floating-point number nearest to `significand`, moved by `exponent` decimal places. -/
def binaryOf? (significand : Nat) (exponent : Int) : Option Magnitude :=
  match Magnitude.round significand 1 with
  | some x => scaleTenfold 5 x exponent.natAbs (exponent < 0)
  | none => none

/-- The value of a number as written, unless it exceeds every finite number. Up to 64 bits of the
digits count; each digit of the whole part left over moves the point by one place. -/
def NumeralText.value? (t : NumeralText) : Option Number :=
  let (wholePart, wholeRest) := appendDigits 0 t.whole
  let fraction := t.fraction.getD []
  let (significand, fractionRest) := appendDigits wholePart fraction
  let point : Int := (wholeRest.length : Int) - ((fraction.length - fractionRest.length : Nat) : Int)
  let real (x : Option Magnitude) : Option Number :=
    x.map fun m => .real ⟨t.negative, m⟩
  match t.exponent with
  | some (down, digits) =>
    let places := Digits.toNat 10 digits
    if Nat.pow 2 31 ≤ places then
      if significand = 0 ∨ down then some (.real ⟨t.negative, .zero⟩) else none
    else real (binaryOf? significand (if down then point - places else point + places))
  | none =>
    if t.fraction.isSome ∨ wholeRest ≠ [] then real (binaryOf? significand point)
    else if ¬ t.negative then some (.integer significand)
    else if 0 < significand ∧ significand ≤ Nat.pow 2 63 then some (.integer (-(significand : Int)))
    else real (binaryOf? significand 0)

/-- Reads a number whose sign has been read. -/
def readNumber (negative : Bool) : Reader Number := fun s => do
  let (numeral, s) ← scanNumber .endInValue negative s
  match numeral.value? with
  | some n => .ok (n, s)
  | none => .error .numberOutOfRange

end DidAdmission.Json
