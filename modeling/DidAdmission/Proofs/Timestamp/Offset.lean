-- SUMMARY: A clock shows again what its instant in universal time was found from, over the end of any day.
import DidAdmission.Timestamp
import Mathlib.Algebra.Group.Nat.Defs
import Mathlib.Data.List.Basic

/-!
# Offsets

An offset moves a clock to universal time and back. Each way the day may change, and with it the month and
the year, but the day before the next day is the day itself (`previousDay?_of_nextDay?`), the day after the
previous one is too (`nextDay?_of_previousDay?`), and the time of day does not depend on the day. So a shift
is undone by the opposite one (`shift?_neg`), a clock shows what its instant was found from
(`Zoned.clock?_of_ofClock?`), and a timestamp is read as if no offset followed it (`parse?_eq`).
-/

namespace DidAdmission.Timestamp

variable {t u : Timestamp} {seconds : Int}

/-! ## Days -/

/-- The day is in the calendar, and the time in the day. -/
structure IsShown (t : Timestamp) : Prop where
  year_ge : minYear ≤ t.year
  year_le : t.year ≤ maxYear
  month_pos : 1 ≤ t.month
  month_le : t.month ≤ 12
  day_pos : 1 ≤ t.day
  day_le : t.day ≤ daysIn t.year t.month
  hour_lt : t.hour < 24
  minute_lt : t.minute < 60
  second_lt : t.second < 60

theorem daysIn_december (year : Int) : daysIn year 12 = 31 := rfl

/-- The day before the next day is the day itself. -/
theorem previousDay?_of_nextDay? (h : t.IsShown) (hnext : t.nextDay? = some u) :
    u.previousDay? = some t := by
  obtain ⟨year, month, day, hour, minute, second, nanosecond⟩ := t
  obtain ⟨hyearGe, -, hmonthPos, hmonthLe, hdayPos, hdayLe, -, -, -⟩ := h
  simp only [nextDay?] at hnext hyearGe hmonthPos hmonthLe hdayPos hdayLe
  split_ifs at hnext with hwithin hmonths hyears
  all_goals obtain rfl := Option.some.inj hnext
  -- The next day is in the same month, the first of the next month, or the first of January.
  · have hpos : 1 < day + 1 := by omega
    simp [previousDay?, hpos]
  · have hpos : 1 < month + 1 := by omega
    have hlast : day = daysIn year month := by omega
    simp [previousDay?, hpos, hlast]
  · obtain rfl : month = 12 := by omega
    rw [daysIn_december] at hwithin hdayLe
    have hlast : day = 31 := by omega
    have hmin : minYear < year + 1 := by omega
    simp [previousDay?, hlast, hmin]

/-- The day after the previous day is the day itself. -/
theorem nextDay?_of_previousDay? (h : t.IsShown) (hprevious : t.previousDay? = some u) :
    u.nextDay? = some t := by
  obtain ⟨year, month, day, hour, minute, second, nanosecond⟩ := t
  obtain ⟨-, hyearLe, hmonthPos, hmonthLe, hdayPos, hdayLe, -, -, -⟩ := h
  simp only [previousDay?] at hprevious hyearLe hmonthPos hmonthLe hdayPos hdayLe
  split_ifs at hprevious with hdays hmonths hyears
  all_goals obtain rfl := Option.some.inj hprevious
  -- The previous day is in the same month, the last of the month before, or the last of December.
  · have hwithin : day - 1 < daysIn year month := by omega
    have hday : day - 1 + 1 = day := by omega
    simp [nextDay?, hwithin, hday]
  · have hbefore : month - 1 < 12 := by omega
    have hmonth : month - 1 + 1 = month := by omega
    have hfirst : day = 1 := by omega
    simp [nextDay?, hbefore, hmonth, hfirst]
  · obtain rfl : month = 1 := by omega
    have hfirst : day = 1 := by omega
    have hmax : year - 1 < maxYear := by omega
    simp [nextDay?, daysIn_december, hfirst, hmax]

theorem onDay?_neg {days : Int} (h : t.IsShown) (hdays : -1 ≤ days ∧ days ≤ 1)
    (hu : t.onDay? days = some u) : u.onDay? (-days) = some t := by
  obtain rfl | rfl | rfl : days = -1 ∨ days = 0 ∨ days = 1 := by omega
  · exact nextDay?_of_previousDay? h hu
  · obtain rfl := Option.some.inj hu
    rfl
  · exact previousDay?_of_nextDay? h hu

theorem exists_onDay? (h : minYear < t.year ∧ t.year < maxYear) (days : Int) :
    ∃ u, t.onDay? days = some u := by
  unfold onDay? nextDay? previousDay?
  split_ifs
  all_goals simp_all

/-! ## Times of day -/

theorem secondOfDay_lt (h : t.IsShown) : t.secondOfDay < secondsPerDay := by
  obtain ⟨-, -, -, -, -, -, hhour, hminute, hsecond⟩ := h
  rw [secondOfDay, secondsPerDay]
  omega

theorem atSecond_secondOfDay (h : t.IsShown) : t.atSecond t.secondOfDay = t := by
  obtain ⟨year, month, day, hour, minute, second, nanosecond⟩ := t
  obtain ⟨-, -, -, -, -, -, -, hminute, hsecond⟩ := h
  simp only at hminute hsecond
  have hhours : (hour * 3600 + minute * 60 + second) / 3600 = hour := by omega
  have hminutes : (hour * 3600 + minute * 60 + second) / 60 % 60 = minute := by omega
  have hseconds : (hour * 3600 + minute * 60 + second) % 60 = second := by omega
  simp only [atSecond, secondOfDay, hhours, hminutes, hseconds]

theorem secondOfDay_atSecond (t : Timestamp) (n : Nat) : (t.atSecond n).secondOfDay = n := by
  simp only [secondOfDay, atSecond]
  omega

@[simp] theorem atSecond_atSecond (t : Timestamp) (m n : Nat) :
    (t.atSecond m).atSecond n = t.atSecond n := rfl

theorem onDay?_atSecond (t : Timestamp) (n : Nat) (days : Int) :
    (t.atSecond n).onDay? days = (t.onDay? days).map (·.atSecond n) := by
  simp only [onDay?, nextDay?, previousDay?, atSecond, apply_ite (Option.map _), Option.map_some,
    Option.map_none]
  rfl

/-! ## Shifts -/

/-- A shift goes by the day and the second of that day at which it ends. -/
theorem shift?_eq {n : Nat} {days : Int} (hn : n < secondsPerDay)
    (h : t.secondOfDay + seconds = n + secondsPerDay * days) :
    t.shift? seconds = (t.onDay? days).map (·.atSecond n) := by
  have hday : (0 : Int) < secondsPerDay := by decide
  have hlt : (n : Int) < secondsPerDay := Int.ofNat_lt.2 hn
  obtain ⟨hdays, hrest⟩ := (Int.ediv_emod_unique hday).2 ⟨h.symm, Int.natCast_nonneg n, hlt⟩
  simp only [shift?, hdays, hrest, Int.toNat_natCast]

/-- A shift by less than a day ends on the same day or on a neighbour. -/
theorem exists_end (h : t.IsShown) (hlo : -secondsPerDay < seconds) (hhi : seconds < secondsPerDay) :
    ∃ (n : Nat) (days : Int), n < secondsPerDay ∧ (-1 ≤ days ∧ days ≤ 1) ∧
      t.secondOfDay + seconds = n + secondsPerDay * days := by
  have hlt := secondOfDay_lt h
  refine ⟨((t.secondOfDay + seconds) % secondsPerDay).toNat, (t.secondOfDay + seconds) / secondsPerDay, ?_⟩
  rw [secondsPerDay] at *
  omega

/-- A shift by less than a day is undone by the opposite shift. -/
theorem shift?_neg (h : t.IsShown) (hlo : -secondsPerDay < seconds) (hhi : seconds < secondsPerDay)
    (hu : t.shift? seconds = some u) : u.shift? (-seconds) = some t := by
  obtain ⟨n, days, hn, hdays, hend⟩ := exists_end h hlo hhi
  rw [shift?_eq hn hend] at hu
  obtain ⟨v, hv, rfl⟩ := Option.map_eq_some_iff.1 hu
  have hback : (v.atSecond n).secondOfDay + -seconds = t.secondOfDay + secondsPerDay * -days := by
    rw [secondOfDay_atSecond, Int.mul_neg]
    omega
  rw [shift?_eq (secondOfDay_lt h) hback, onDay?_atSecond, onDay?_neg h hdays hv]
  simp [atSecond_secondOfDay h]

/-- Away from the first and the last year, every shift ends at a timestamp. -/
theorem exists_shift? (h : minYear < t.year ∧ t.year < maxYear) (seconds : Int) :
    ∃ u, t.shift? seconds = some u := by
  obtain ⟨u, hu⟩ := exists_onDay? h ((t.secondOfDay + seconds) / secondsPerDay)
  exact ⟨_, Option.map_eq_some_iff.2 ⟨u, hu, rfl⟩⟩

/-- A clock shows what its instant was found from. -/
theorem Zoned.clock?_of_ofClock? {offset : Int} {z : Zoned} (h : t.IsShown)
    (hlo : -secondsPerDay < offset) (hhi : offset < secondsPerDay)
    (hz : Zoned.ofClock? t offset = some z) : z.clock? = some t := by
  obtain ⟨u, hu, rfl⟩ := Option.map_eq_some_iff.1 hz
  have hback := shift?_neg h (by omega) (by omega) hu
  rwa [Int.neg_neg] at hback

/-! ## Readers -/

theorem of_ofFields? {year : Int} {month day hour minute second nanosecond : Nat}
    (h : ofFields? year month day hour minute second nanosecond = some t) :
    t.year = year ∧ t.IsShown := by
  unfold ofFields? at h
  split_ifs at h with hfields hleap
  all_goals
    obtain rfl := Option.some.inj h
    obtain ⟨hmin, hmax, hmonthPos, hmonthLe, hdayPos, hdayLe, hhour, hminute, hsecond⟩ := hfields
    refine ⟨rfl, hmin, hmax, hmonthPos, hmonthLe, hdayPos, hdayLe, hhour, hminute, ?_⟩
  · exact (by decide : 59 < 60)
  · exact Nat.lt_of_le_of_ne hsecond hleap

theorem number_lt {digits : List Char} (h : digits.all Char.isDigit) :
    number digits < 10 ^ digits.length := by
  suffices hfold : ∀ first,
      digits.foldl (fun n c => n * 10 + (c.toNat - 48)) first < (first + 1) * 10 ^ digits.length by
    simpa [number] using hfold 0
  induction digits with
  | nil => simp
  | cons c digits ih =>
    intro first
    obtain ⟨hc, hdigits⟩ := Bool.and_eq_true_iff.1 h
    have hdigit : c.toNat - 48 < 10 := by
      simp only [Char.isDigit, Bool.and_eq_true, decide_eq_true_eq, UInt32.le_iff_toNat_le] at hc
      have hle : c.toNat ≤ 57 := hc.2
      omega
    have hnext : first * 10 + (c.toNat - 48) + 1 ≤ (first + 1) * 10 := by omega
    calc digits.foldl _ (first * 10 + (c.toNat - 48))
      _ < (first * 10 + (c.toNat - 48) + 1) * 10 ^ digits.length := ih hdigits _
      _ ≤ (first + 1) * 10 * 10 ^ digits.length := Nat.mul_le_mul_right _ hnext
      _ = (first + 1) * 10 ^ (c :: digits).length := by
        rw [List.length_cons, Nat.pow_succ, Nat.mul_assoc, Nat.mul_comm 10]

theorem fixedDigits?_lt {width n : Nat} {cs rest : List Char}
    (h : fixedDigits? width cs = some (n, rest)) : n < 10 ^ width := by
  simp only [fixedDigits?] at h
  split_ifs at h with hdigits
  obtain ⟨rfl, -⟩ := Prod.mk.inj (Option.some.inj h)
  have hlt := number_lt hdigits.2
  rwa [hdigits.1] at hlt

/-- What a sign, hours and minutes write is less than a day. -/
theorem offset?_lt {cs : List Char} {offset : Int} (h : offset? cs = some offset) :
    -secondsPerDay < offset ∧ offset < secondsPerDay := by
  rw [secondsPerDay]
  unfold offset? at h
  split at h
  · cases h
  split at h
  · split_ifs at h
    obtain rfl := Option.some.inj h
    decide
  split at h
  case isFalse => cases h
  split at h
  case h_2 => cases h
  split at h
  case h_2 => cases h
  split_ifs at h
  all_goals
    obtain rfl := Option.some.inj h
    omega

/-- What is read before an offset is in a year of four digits. -/
theorem of_clockWithOffset? {cs : List Char} {offset : Int}
    (h : clockWithOffset? cs = some (t, offset)) :
    t.IsShown ∧ (minYear < t.year ∧ t.year < maxYear) ∧
      -secondsPerDay < offset ∧ offset < secondsPerDay := by
  simp only [clockWithOffset?, Option.bind_eq_bind, Option.bind_eq_some_iff] at h
  obtain ⟨⟨year, _⟩, hyear, _, -, ⟨month, _⟩, -, _, -, ⟨day, _⟩, -, _, -, ⟨hour, _⟩, -, _, -,
    ⟨minute, _⟩, -, _, -, ⟨second, _⟩, -, ⟨nanosecond, _⟩, -, _, hoffset, _, hshown, hresult⟩ := h
  obtain ⟨rfl, rfl⟩ := Prod.mk.inj (Option.some.inj hresult)
  obtain ⟨hsame, hvalid⟩ := of_ofFields? hshown
  have hlt := fixedDigits?_lt hyear
  refine ⟨hvalid, ?_, offset?_lt hoffset⟩
  rw [hsame, minYear, maxYear]
  omega

/-- What is read is what the clock shows, whatever offset follows. -/
theorem parse?_eq (s : String) :
    parse? s = ((clockWithOffset? s.toList).map Prod.fst).orElse fun _ => withoutOffset? s.toList := by
  rw [parse?, withOffset?]
  cases hread : clockWithOffset? s.toList with
  | none => rfl
  | some read =>
    obtain ⟨shown, offset⟩ := read
    obtain ⟨hvalid, hyear, hlo, hhi⟩ := of_clockWithOffset? hread
    obtain ⟨u, hu⟩ := exists_shift? hyear (-offset)
    have hz : Zoned.ofClock? shown offset = some ⟨u, offset⟩ :=
      Option.map_eq_some_iff.2 ⟨u, hu, rfl⟩
    simp only [Option.bind_some, hz]
    exact Zoned.clock?_of_ofClock? hvalid hlo hhi hz

end DidAdmission.Timestamp
