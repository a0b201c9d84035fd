-- SUMMARY: Date-times as written, with any offset dropped.
import DidAdmission.Text.Blank

/-!
# Timestamps

Only the order of timestamps matters, so the wall clock is kept as written and an offset is dropped. Two
forms are read: the one with an offset (`withOffset?`), whose fields have fixed widths, and the looser
one without (`withoutOffset?`). What is read with an offset is the instant in universal time; of it only
the time on the clock with that offset is kept (`Zoned.clock?`). A leap second is second 59 with a billion
nanoseconds more.
-/

namespace DidAdmission

/-- A date and a time of day. -/
structure Timestamp where
  year : Int
  month : Nat
  day : Nat
  hour : Nat
  minute : Nat
  second : Nat
  nanosecond : Nat
deriving DecidableEq, Repr

namespace Timestamp

/-! ## Calendar -/

/-- Does the year have a 29th of February? -/
def isLeapYear (year : Int) : Bool :=
  year % 4 == 0 && (year % 100 != 0 || year % 400 == 0)

/-- The number of days of a month. -/
def daysIn (year : Int) (month : Nat) : Nat :=
  match month with
  | 2 => if isLeapYear year then 29 else 28
  | 4 | 6 | 9 | 11 => 30
  | _ => 31

/-- The earliest and the latest year. -/
def minYear : Int := -262143

def maxYear : Int := 262142

/-- The timestamp with the given fields, if there is such a date and time. Second 60 is a leap second. -/
def ofFields? (year : Int) (month day hour minute second nanosecond : Nat) : Option Timestamp :=
  if minYear ≤ year ∧ year ≤ maxYear ∧ 1 ≤ month ∧ month ≤ 12 ∧ 1 ≤ day ∧ day ≤ daysIn year month
      ∧ hour < 24 ∧ minute < 60 ∧ second ≤ 60 then
    if second = 60 then some ⟨year, month, day, hour, minute, 59, 1000000000 + nanosecond⟩
    else some ⟨year, month, day, hour, minute, second, nanosecond⟩
  else none

/-- The fields in the order in which they are compared. -/
def fields (t : Timestamp) : List Int :=
  [t.year, t.month, t.day, t.hour, t.minute, t.second, t.nanosecond]

/-- Is the first list of numbers before the second, entry by entry? -/
def fieldsBefore : List Int → List Int → Bool
  | a :: as, b :: bs => a < b || (a == b && fieldsBefore as bs)
  | _, _ => false

/-- Is the first timestamp strictly earlier? -/
def before (s t : Timestamp) : Bool :=
  fieldsBefore s.fields t.fields

/-! ## Clocks with an offset -/

/-- The timestamp at the same time of the next day, if it is not past the latest year. -/
def nextDay? (t : Timestamp) : Option Timestamp :=
  if t.day < daysIn t.year t.month then some { t with day := t.day + 1 }
  else if t.month < 12 then some { t with month := t.month + 1, day := 1 }
  else if t.year < maxYear then some { t with year := t.year + 1, month := 1, day := 1 }
  else none

/-- The timestamp at the same time of the day before, if it is not before the earliest year. -/
def previousDay? (t : Timestamp) : Option Timestamp :=
  if 1 < t.day then some { t with day := t.day - 1 }
  else if 1 < t.month then some { t with month := t.month - 1, day := daysIn t.year (t.month - 1) }
  else if minYear < t.year then some { t with year := t.year - 1, month := 12, day := 31 }
  else none

def secondsPerDay : Nat := 86400

/-- The seconds since midnight. -/
def secondOfDay (t : Timestamp) : Nat :=
  t.hour * 3600 + t.minute * 60 + t.second

/-- The timestamp on the same day at a number of seconds since midnight. -/
def atSecond (t : Timestamp) (seconds : Nat) : Timestamp :=
  { t with hour := seconds / 3600, minute := seconds / 60 % 60, second := seconds % 60 }

/-- The timestamp at the same time of the next day, of the day before, or of the same day. -/
def onDay? (t : Timestamp) (days : Int) : Option Timestamp :=
  if days = 1 then t.nextDay? else if days = -1 then t.previousDay? else some t

/-- The timestamp that is less than a day later, or earlier. Nanoseconds, and a leap second with them, are
left as they are. -/
def shift? (t : Timestamp) (seconds : Int) : Option Timestamp :=
  let total := t.secondOfDay + seconds
  (t.onDay? (total / secondsPerDay)).map (·.atSecond (total % secondsPerDay).toNat)

/-- An instant in universal time, and how many seconds a clock is ahead of it. -/
structure Zoned where
  utc : Timestamp
  offset : Int
deriving DecidableEq, Repr

/-- The instant at which a clock with the given offset shows a timestamp. -/
def Zoned.ofClock? (shown : Timestamp) (offset : Int) : Option Zoned :=
  (shown.shift? (-offset)).map (⟨·, offset⟩)

/-- What the clock shows. -/
def Zoned.clock? (z : Zoned) : Option Timestamp :=
  z.utc.shift? z.offset

/-! ## Fields of a text -/

/-- The number that decimal digits write. -/
def number (digits : List Char) : Nat :=
  digits.foldl (fun n c => n * 10 + (c.toNat - 48)) 0

/-- Exactly `width` digits. -/
def fixedDigits? (width : Nat) (cs : List Char) : Option (Nat × List Char) :=
  let digits := cs.take width
  if digits.length = width ∧ digits.all Char.isDigit then some (number digits, cs.drop width)
  else none

/-- One to `width` digits, after any blanks. -/
def looseDigits? (width : Nat) (cs : List Char) : Option (Nat × List Char) :=
  let cs := cs.dropWhile Text.isBlank
  let digits := (cs.take width).takeWhile Char.isDigit
  if digits.isEmpty then none else some (number digits, cs.drop digits.length)

def mark? (mark : Char) : List Char → Option (List Char)
  | c :: cs => if c = mark then some cs else none
  | [] => none

/-- The fraction of a second in nanoseconds, if there is one; digits past the ninth do not count. -/
def fraction? (cs : List Char) : Option (Nat × List Char) :=
  match cs with
  | '.' :: rest =>
    let digits := rest.takeWhile Char.isDigit
    let counted := digits.take 9
    if digits.isEmpty then none
    else some (number counted * Nat.pow 10 (9 - counted.length), rest.dropWhile Char.isDigit)
  | _ => some (0, cs)

/-! ## The form with an offset -/

/-- The offset in seconds that a text is: `Z`, or a sign, hours and minutes. -/
def offset? (cs : List Char) : Option Int :=
  match cs with
  | [] => none
  | sign :: rest =>
    if sign == 'Z' || sign == 'z' then if rest.isEmpty then some 0 else none
    else if sign == '+' || sign == '-' || sign == '\u2212' then
      match fixedDigits? 2 rest with
      | some (hours, ':' :: rest) =>
        match fixedDigits? 2 rest with
        | some (minutes, []) =>
          let seconds : Int := hours * 3600 + minutes * 60
          if hours < 24 ∧ minutes < 60 then some (if sign == '+' then seconds else -seconds) else none
        | _ => none
      | _ => none
    else none

/-- Reads fields of fixed widths and an offset after them. -/
def clockWithOffset? (cs : List Char) : Option (Timestamp × Int) := do
  let (year, cs) ← fixedDigits? 4 cs
  let cs ← mark? '-' cs
  let (month, cs) ← fixedDigits? 2 cs
  let cs ← mark? '-' cs
  let (day, cs) ← fixedDigits? 2 cs
  let cs ← (mark? 'T' cs <|> mark? 't' cs <|> mark? ' ' cs)
  let (hour, cs) ← fixedDigits? 2 cs
  let cs ← mark? ':' cs
  let (minute, cs) ← fixedDigits? 2 cs
  let cs ← mark? ':' cs
  let (second, cs) ← fixedDigits? 2 cs
  let (nanosecond, cs) ← fraction? cs
  let offset ← offset? cs
  let shown ← ofFields? year month day hour minute second nanosecond
  some (shown, offset)

/-- Reads an instant from what a clock with an offset shows. -/
def withOffset? (cs : List Char) : Option Zoned :=
  (clockWithOffset? cs).bind fun (shown, offset) => Zoned.ofClock? shown offset

/-! ## The form without an offset -/

/-- A year: any number of digits after a sign, at most four without one. -/
def looseYear? (cs : List Char) : Option (Int × List Char) :=
  let cs := cs.dropWhile Text.isBlank
  match cs with
  | '-' :: rest =>
    let digits := rest.takeWhile Char.isDigit
    if digits.isEmpty then none else some (-(number digits : Int), rest.dropWhile Char.isDigit)
  | '+' :: rest =>
    let digits := rest.takeWhile Char.isDigit
    if digits.isEmpty then none else some ((number digits : Int), rest.dropWhile Char.isDigit)
  | _ => (looseDigits? 4 cs).map fun (n, rest) => ((n : Int), rest)

/-- Reads fields of up to two digits with nothing after them. -/
def withoutOffset? (cs : List Char) : Option Timestamp := do
  let (year, cs) ← looseYear? cs
  let cs ← mark? '-' cs
  let (month, cs) ← looseDigits? 2 cs
  let cs ← mark? '-' cs
  let (day, cs) ← looseDigits? 2 cs
  let cs ← mark? 'T' cs
  let (hour, cs) ← looseDigits? 2 cs
  let cs ← mark? ':' cs
  let (minute, cs) ← looseDigits? 2 cs
  let cs ← mark? ':' cs
  let (second, cs) ← looseDigits? 2 cs
  let (nanosecond, cs) ← fraction? cs
  if cs.isEmpty then ofFields? year month day hour minute second nanosecond else none

/-- Reads a timestamp in either form. -/
def parse? (s : String) : Option Timestamp :=
  match withOffset? s.toList with
  | some zoned => zoned.clock?
  | none => withoutOffset? s.toList

end Timestamp

end DidAdmission
