-- SUMMARY: A timestamp is read as the fields that are written, whatever offset follows them.
import DidAdmission.Proofs.Timestamp.Offset
import Mathlib.Data.List.TakeWhile
import Mathlib.Data.Nat.Digits.Lemmas
import Mathlib.Tactic.Ring

/-!
# Written timestamps

A wall clock shows a day of the Gregorian calendar and a time of day, and is written with an offset or
without one. A text with an offset is taken by the reader of fixed fields, and what it shows does not depend
on the offset (`parse?_eq`). One without is refused there, since nothing follows the seconds, and taken by
the looser reader, which finds the same fields: a field that starts with a digit is cut off after as many
digits as it may have. So what the clock shows is read from its text in any zone (`WallClock.parse?_text`).
-/

namespace DidAdmission

namespace Timestamp

/-! ## Digits -/

/-- The character of a digit. -/
def digitChar (d : Fin 10) : Char :=
  Char.ofNat (48 + d)

/-- Digits as they are written. -/
def digitChars (digits : List (Fin 10)) : List Char :=
  digits.map digitChar

/-- The lowest `width` digits of a number, the most significant first. -/
def paddedDigits : (width : Nat) → Nat → List (Fin 10)
  | 0, _ => []
  | width + 1, n => Fin.ofNat 10 (n / 10 ^ width) :: paddedDigits width n

/-- A number in a field of fixed width, filled up with zeros in front. -/
def padded (width n : Nat) : List Char :=
  digitChars (paddedDigits width n)

theorem digitChar_plain (d : Fin 10) :
    (digitChar d).isDigit = true ∧ (digitChar d).toNat - 48 = d ∧ Text.isBlank (digitChar d) = false := by
  revert d
  decide

theorem isDigit_of_mem {digits : List (Fin 10)} : ∀ c ∈ digitChars digits, c.isDigit = true := by
  intro c hc
  obtain ⟨d, -, rfl⟩ := List.mem_map.1 hc
  exact (digitChar_plain d).1

theorem length_padded (width n : Nat) : (padded width n).length = width := by
  rw [padded, digitChars, List.length_map]
  induction width with
  | zero => rfl
  | succ width ih => rw [paddedDigits, List.length_cons, ih]

theorem number_digitChars (digits : List (Fin 10)) :
    number (digitChars digits) = Nat.ofDigits 10 (digits.map Fin.val).reverse := by
  rw [Nat.ofDigits_eq_foldr, List.foldr_reverse, number, digitChars, List.foldl_map, List.foldl_map]
  congr 1
  funext n d
  rw [(digitChar_plain d).2.1, Nat.add_comm, Nat.mul_comm]
  rfl

theorem number_padded {width n : Nat} (h : n < 10 ^ width) : number (padded width n) = n := by
  suffices hfold : ∀ first, (padded width n).foldl (fun n c => n * 10 + (c.toNat - 48)) first =
      first * 10 ^ width + n % 10 ^ width by
    rw [number, hfold, Nat.zero_mul, Nat.zero_add, Nat.mod_eq_of_lt h]
  clear h
  induction width with
  | zero => simp [padded, digitChars, paddedDigits, Nat.mod_one]
  | succ width ih =>
    intro first
    have hsplit : n % 10 ^ (width + 1) = n / 10 ^ width % 10 * 10 ^ width + n % 10 ^ width := by
      rw [pow_succ, Nat.mod_mul, Nat.add_comm, Nat.mul_comm]
    rw [padded, digitChars, paddedDigits, List.map_cons, List.foldl_cons, (digitChar_plain _).2.1]
    refine (ih _).trans ?_
    rw [Fin.val_ofNat, hsplit]
    ring

theorem fixedDigits?_padded {width n : Nat} (h : n < 10 ^ width) (rest : List Char) :
    fixedDigits? width (padded width n ++ rest) = some (n, rest) := by
  have htake : (padded width n ++ rest).take width = padded width n :=
    List.take_left' (length_padded width n)
  have hdrop : (padded width n ++ rest).drop width = rest :=
    List.drop_left' (length_padded width n)
  have hdigits : (padded width n).all Char.isDigit = true := List.all_eq_true.2 isDigit_of_mem
  rw [fixedDigits?, htake, hdrop, if_pos ⟨length_padded width n, hdigits⟩, number_padded h]

theorem dropWhile_isBlank_padded {width : Nat} (hwidth : 0 < width) (n : Nat) (rest : List Char) :
    (padded width n ++ rest).dropWhile Text.isBlank = padded width n ++ rest := by
  obtain ⟨width, rfl⟩ := Nat.exists_eq_succ_of_ne_zero hwidth.ne'
  exact List.dropWhile_cons_of_neg (by simp [(digitChar_plain _).2.2])

/-- A field that is full is cut off from what follows it, even from a digit. -/
theorem looseDigits?_padded {width n : Nat} (hwidth : 0 < width) (h : n < 10 ^ width)
    (rest : List Char) : looseDigits? width (padded width n ++ rest) = some (n, rest) := by
  have hdigits : ((padded width n ++ rest).take width).takeWhile Char.isDigit = padded width n := by
    rw [List.take_left' (length_padded width n)]
    exact List.takeWhile_eq_self_iff.2 isDigit_of_mem
  have hsome : (padded width n).isEmpty = false := by
    rw [List.isEmpty_eq_false_iff, ← List.length_pos_iff, length_padded]
    exact hwidth
  rw [looseDigits?, dropWhile_isBlank_padded hwidth]
  simp only [hdigits, hsome, Bool.false_eq_true, if_false, number_padded h]
  rw [List.drop_left]

theorem looseYear?_padded {n : Nat} (h : n < 10000) (rest : List Char) :
    looseYear? (padded 4 n ++ rest) = some ((n : Int), rest) := by
  have hread := looseDigits?_padded (by decide : 0 < 4) h rest
  obtain ⟨c, tail, hc, hdigit⟩ : ∃ c tail, padded 4 n ++ rest = c :: tail ∧ c.isDigit = true :=
    ⟨_, _, rfl, (digitChar_plain _).1⟩
  rw [looseYear?, dropWhile_isBlank_padded (by decide)]
  split
  · next hminus =>
    obtain ⟨rfl, -⟩ := List.cons.inj (hc.symm.trans hminus)
    exact absurd hdigit (by decide)
  · next hplus =>
    obtain ⟨rfl, -⟩ := List.cons.inj (hc.symm.trans hplus)
    exact absurd hdigit (by decide)
  · rw [hread]
    rfl

/-! ## Dates -/

/-- Is there such a day in the Gregorian calendar? The 29th of February comes in the years that four
divides, except for those that a hundred divides and four hundred does not. -/
structure IsDate (year month day : Nat) : Prop where
  month_pos : 1 ≤ month
  month_le : month ≤ 12
  day_pos : 1 ≤ day
  day_le : day ≤ 31
  short : month ∈ [4, 6, 9, 11] → day ≤ 30
  february : month = 2 → day ≤ 29 ∧ (day = 29 → 4 ∣ year ∧ (100 ∣ year → 400 ∣ year))

theorem isLeapYear_of_dvd {year : Nat} (h : 4 ∣ year ∧ (100 ∣ year → 400 ∣ year)) :
    isLeapYear year = true := by
  simp only [isLeapYear, Bool.and_eq_true, Bool.or_eq_true, beq_iff_eq, bne_iff_ne]
  omega

theorem IsDate.le_daysIn {year month day : Nat} (h : IsDate year month day) :
    day ≤ daysIn year month := by
  unfold daysIn
  split
  · obtain ⟨hday, hleap⟩ := h.february rfl
    by_cases hlast : day = 29
    · rw [isLeapYear_of_dvd (hleap hlast), if_pos rfl]
      exact hday
    · split <;> omega
  iterate 4 exact h.short (by decide)
  · exact h.day_le

/-! ## Wall clocks -/

/-- Is there such a day in the years of four digits and such a time of day, which may be a leap second? -/
structure IsMoment (year month day hour minute second : Nat) : Prop where
  year_lt : year < 10000
  date : IsDate year month day
  hour_lt : hour < 24
  minute_lt : minute < 60
  second_le : second ≤ 60

/-- A day and a time of day with any number of digits after the point. -/
structure WallClock where
  year : Nat
  month : Nat
  day : Nat
  hour : Nat
  minute : Nat
  second : Nat
  fraction : List (Fin 10)
  valid : IsMoment year month day hour minute second

/-- What stands after the time of day. -/
inductive Zone
  | unstated
  | utc
  | offset (east : Bool) (hours : Fin 24) (minutes : Fin 60)

def Zone.text : Zone → List Char
  | .unstated => []
  | .utc => ['Z']
  | .offset east hours minutes =>
    (if east then '+' else '-') :: (padded 2 hours ++ ':' :: padded 2 minutes)

/-- The digits of a fraction after their point; without digits there is no point. -/
def fractionText (fraction : List (Fin 10)) : List Char :=
  match fraction with
  | [] => []
  | digits => '.' :: digitChars digits

/-- The first nine digits of a fraction, filled up with zeros at the end. -/
def nanoseconds (fraction : List (Fin 10)) : Nat :=
  Nat.ofDigits 10 ((fraction.map Fin.val ++ List.replicate 9 0).take 9).reverse

namespace WallClock

variable (w : WallClock) (z : Zone)

/-- The text of a wall clock in a zone. -/
def chars : List Char :=
  padded 4 w.year ++ '-' :: padded 2 w.month ++ '-' :: padded 2 w.day ++
    'T' :: padded 2 w.hour ++ ':' :: padded 2 w.minute ++ ':' :: padded 2 w.second ++
    fractionText w.fraction ++ z.text

def text : String :=
  String.ofList (w.chars z)

/-- What is read: the leap second is the second before it with a billion nanoseconds more. -/
def timestamp : Timestamp where
  year := w.year
  month := w.month
  day := w.day
  hour := w.hour
  minute := w.minute
  second := if w.second = 60 then 59 else w.second
  nanosecond := nanoseconds w.fraction + if w.second = 60 then 1000000000 else 0

/-- The fields of what is read, the largest unit first. -/
def fields : List Nat :=
  [w.year, w.month, w.day, w.hour, w.minute, w.timestamp.second, w.timestamp.nanosecond]

end WallClock

/-! ## Reading a wall clock -/

theorem mark?_self (mark : Char) (cs : List Char) : mark? mark (mark :: cs) = some cs :=
  if_pos rfl

theorem Zone.text_plain (z : Zone) :
    z.text.takeWhile Char.isDigit = [] ∧ z.text.dropWhile Char.isDigit = z.text ∧
      ∀ rest, z.text ≠ '.' :: rest := by
  cases z with
  | unstated => simp [text]
  | utc => exact ⟨rfl, rfl, by simp [text]⟩
  | offset east hours minutes =>
    cases east
    all_goals exact ⟨rfl, rfl, by simp [text]⟩

theorem number_counted (fraction : List (Fin 10)) :
    number (digitChars (fraction.take 9)) * 10 ^ (9 - (fraction.take 9).length) =
      nanoseconds fraction := by
  have hfilled : (fraction.map Fin.val ++ List.replicate 9 0).take 9 =
      (fraction.take 9).map Fin.val ++ List.replicate (9 - (fraction.take 9).length) 0 := by
    rw [List.take_append, List.take_replicate, List.map_take, List.length_map, List.length_take]
    congr 2
    omega
  rw [nanoseconds, hfilled, List.reverse_append, List.reverse_replicate, Nat.ofDigits_append,
    Nat.ofDigits_replicate_zero, List.length_replicate, number_digitChars, Nat.zero_add, Nat.mul_comm]

theorem fraction?_fractionText (fraction : List (Fin 10)) (z : Zone) :
    fraction? (fractionText fraction ++ z.text) = some (nanoseconds fraction, z.text) := by
  obtain ⟨htake, hdrop, hpoint⟩ := z.text_plain
  cases fraction with
  | nil =>
    rw [fractionText, List.nil_append, fraction?]
    · rfl
    · exact hpoint
  | cons d fraction =>
    have hdigits : (digitChars (d :: fraction) ++ z.text).takeWhile Char.isDigit =
        digitChars (d :: fraction) := by
      rw [List.takeWhile_append_of_pos isDigit_of_mem, htake, List.append_nil]
    have hrest : (digitChars (d :: fraction) ++ z.text).dropWhile Char.isDigit = z.text := by
      rw [List.dropWhile_append_of_pos isDigit_of_mem, hdrop]
    have hcounted : (digitChars (d :: fraction)).take 9 = digitChars ((d :: fraction).take 9) :=
      List.map_take.symm
    have hlength (digits : List (Fin 10)) : (digitChars digits).length = digits.length :=
      List.length_map _
    simp only [fractionText, List.cons_append, fraction?, hdigits, hrest, hcounted, hlength]
    rw [if_neg (by simp [digitChars])]
    exact congrArg (fun n => some (n, z.text)) (number_counted (d :: fraction))

/-- The seconds by which a clock in the zone is ahead of universal time, where the zone is written. -/
def Zone.offset? : Zone → Option Int
  | .unstated => none
  | .utc => some 0
  | .offset east hours minutes =>
    let seconds : Int := hours * 3600 + minutes * 60
    some (if east then seconds else -seconds)

theorem offset?_text (z : Zone) : Timestamp.offset? z.text = z.offset? := by
  cases z with
  | unstated => rfl
  | utc => rfl
  | offset east hours minutes =>
    have hhours : (hours : Nat) < 10 ^ 2 := by omega
    have hminutes : (minutes : Nat) < 10 ^ 2 := by omega
    have hread := fixedDigits?_padded hminutes []
    rw [List.append_nil] at hread
    cases east
    all_goals simp [Zone.text, Zone.offset?, Timestamp.offset?, fixedDigits?_padded hhours, hread]

namespace WallClock

variable (w : WallClock) (z : Zone)

theorem ofFields?_eq : ofFields? w.year w.month w.day w.hour w.minute w.second
    (nanoseconds w.fraction) = some w.timestamp := by
  have hyear : minYear ≤ (w.year : Int) ∧ (w.year : Int) ≤ maxYear := by
    have := w.valid.year_lt
    unfold minYear maxYear
    omega
  rw [ofFields?, if_pos ⟨hyear.1, hyear.2, w.valid.date.month_pos, w.valid.date.month_le, w.valid.date.day_pos,
    w.valid.date.le_daysIn, w.valid.hour_lt, w.valid.minute_lt, w.valid.second_le⟩]
  unfold timestamp
  split
  · rw [Nat.add_comm]
  · rfl

/-- The fields of a clock are below a power of ten, so their text is theirs alone. -/
theorem lt_pow : w.year < 10 ^ 4 ∧ w.month < 10 ^ 2 ∧ w.day < 10 ^ 2 ∧ w.hour < 10 ^ 2 ∧
    w.minute < 10 ^ 2 ∧ w.second < 10 ^ 2 := by
  have hyear := w.valid.year_lt
  have hmonth := w.valid.date.month_le
  have hday := w.valid.date.day_le
  have hhour := w.valid.hour_lt
  have hminute := w.valid.minute_lt
  have hsecond := w.valid.second_le
  omega

theorem clockWithOffset?_chars :
    clockWithOffset? (w.chars z) = z.offset?.map fun offset => (w.timestamp, offset) := by
  obtain ⟨hyear, hmonth, hday, hhour, hminute, hsecond⟩ := w.lt_pow
  simp only [clockWithOffset?, chars, List.append_assoc, List.cons_append, mark?_self,
    Option.bind_eq_bind, Option.bind_some, Option.orElse_eq_orElse, Option.orElse_some,
    fixedDigits?_padded hyear, fixedDigits?_padded hmonth, fixedDigits?_padded hday,
    fixedDigits?_padded hhour, fixedDigits?_padded hminute, fixedDigits?_padded hsecond,
    fraction?_fractionText, offset?_text, w.ofFields?_eq]
  rw [Option.map_eq_bind]
  rfl

theorem withoutOffset?_chars : withoutOffset? (w.chars .unstated) = some w.timestamp := by
  obtain ⟨-, hmonth, hday, hhour, hminute, hsecond⟩ := w.lt_pow
  have htwo : 0 < 2 := by decide
  simp only [withoutOffset?, chars, List.append_assoc, List.cons_append, mark?_self, Option.bind_eq_bind,
    Option.bind_some, looseYear?_padded w.valid.year_lt, looseDigits?_padded htwo hmonth,
    looseDigits?_padded htwo hday, looseDigits?_padded htwo hhour, looseDigits?_padded htwo hminute,
    looseDigits?_padded htwo hsecond, fraction?_fractionText, w.ofFields?_eq]
  rfl

/-- What a clock shows is read from its text in any zone. -/
theorem parse?_text : parse? (w.text z) = some w.timestamp := by
  rw [parse?_eq, text, String.toList_ofList, clockWithOffset?_chars]
  cases z with
  | unstated => exact w.withoutOffset?_chars
  | utc => rfl
  | offset east hours minutes => rfl

end WallClock

end Timestamp

end DidAdmission
