/-
Writing a `datetime`: the date of a day, and the text of `isoformat`.

`ord2ymd` is the inverse of `ymd2ord` on the days of the years 1 to 9999, so a reading of the wall
clock is a `CalendarDate` and a `TimeString` of whole seconds; `isoformatSeconds` writes these two.

* **`exists_calendarDate`** — every day is the day of a date;
* **`isoformatSeconds_eq`** — what is written of a UTC time;
* **`isoformatZulu_eq`** — the same with `+00:00` replaced by `Z`.
-/
import OnvifZeep.IsoFormat

namespace Onvif

/-! ### The date of a day -/

/-- The month a day of the year lies in: a guess, which may be one too large. -/
def monthOf (leap : Bool) (day : ℕ) : ℕ :=
  let month := (day + 50) / 32
  if day < daysBefore leap month then month - 1 else month

/-- **The guess** and its correction find the month. -/
theorem monthOf_spec (leap : Bool) : ∀ day < 365,
    1 ≤ monthOf leap day ∧ monthOf leap day ≤ 12 ∧ daysBefore leap (monthOf leap day) ≤ day ∧
      day - daysBefore leap (monthOf leap day) + 1 ≤ daysIn leap (monthOf leap day) := by
  cases leap with
  | false => decide +kernel
  | true => decide +kernel

/-- Which years are leap years, by the cycles of 400, 100, 4 and 1 years before them. -/
theorem isLeap_of_cycles {a b c e : ℕ} (hb : b ≤ 3) (hc : c ≤ 24) (he : e ≤ 3) :
    isLeap (400 * a + 100 * b + 4 * c + e + 1) = decide (e = 3 ∧ (c ≠ 24 ∨ b = 3)) := by
  rw [isLeap, Bool.eq_iff_iff]
  simp only [Bool.and_eq_true, Bool.or_eq_true, beq_iff_eq, bne_iff_ne, decide_eq_true_eq]
  omega

/-- The days before a year, by its cycles. -/
theorem daysBeforeYear_of_cycles {a b c e : ℕ} (hb : b ≤ 3) (hc : c ≤ 24) (he : e ≤ 3) :
    daysBeforeYear (400 * a + 100 * b + 4 * c + e + 1)
      = 146097 * a + 36524 * b + 1461 * c + 365 * e := by
  rw [daysBeforeYear]
  omega

/-- The last day of a leap year. -/
theorem ymd2ord_last {year : ℕ} (h : isLeap year = true) :
    ymd2ord year 12 31 = daysBeforeYear year + 366 := by
  rw [ymd2ord, daysBeforeMonth, h]
  rfl

/-- The date of a day, by the cycles before it. -/
theorem ord2ymd_of_cycles (ordinal : ℕ) :
    ∃ a b c e r : ℕ, ordinal - 1 = 146097 * a + 36524 * b + 1461 * c + 365 * e + r ∧
      r < 365 ∧
      (b ≤ 3 ∧ c ≤ 24 ∧ e ≤ 3 ∧
        ord2ymd ordinal = (400 * a + 100 * b + 4 * c + e + 1,
          monthOf (isLeap (400 * a + 100 * b + 4 * c + e + 1)) r,
          r - daysBefore (isLeap (400 * a + 100 * b + 4 * c + e + 1))
            (monthOf (isLeap (400 * a + 100 * b + 4 * c + e + 1)) r) + 1) ∨
      r = 0 ∧ (b = 4 ∧ c = 0 ∧ e = 0 ∨ b ≤ 3 ∧ c ≤ 23 ∧ e = 4) ∧
        ord2ymd ordinal = (400 * a + 100 * b + 4 * c + e, 12, 31)) := by
  refine ⟨(ordinal - 1) / 146097, (ordinal - 1) % 146097 / 36524,
    (ordinal - 1) % 146097 % 36524 / 1461, (ordinal - 1) % 146097 % 36524 % 1461 / 365,
    (ordinal - 1) % 146097 % 36524 % 1461 % 365, by omega, by omega, ?_⟩
  have hyear : ∀ a b c e : ℕ, a * 400 + 1 + b * 100 + c * 4 + e
      = 400 * a + 100 * b + 4 * c + e + 1 := fun a b c e => by omega
  by_cases hlast : (ordinal - 1) % 146097 % 36524 % 1461 / 365 = 4 ∨
      (ordinal - 1) % 146097 / 36524 = 4
  · -- the last day of a cycle
    refine Or.inr ⟨by omega, by omega, ?_⟩
    rw [ord2ymd, if_pos hlast]
    simp only [Prod.mk.injEq, and_true]
    omega
  · refine Or.inl ⟨by omega, by omega, by omega, ?_⟩
    rw [ord2ymd, if_neg hlast, hyear]
    rfl

/-- **Every day of the years 1 to 9999** is the day of a date, which `ord2ymd` finds. -/
theorem exists_calendarDate {ordinal : ℕ} (hpos : 1 ≤ ordinal) (hle : ordinal ≤ 3652059) :
    ∃ d : CalendarDate, ord2ymd ordinal = (d.year, d.month, d.day) ∧
      ymd2ord d.year d.month d.day = ordinal := by
  obtain ⟨a, b, c, e, r, hordinal, hr, ⟨hb, hc, he, hymd⟩ | ⟨rfl, hcycle, hymd⟩⟩ :=
    ord2ymd_of_cycles ordinal
  · obtain ⟨hlow, hhigh, hbefore, hin⟩ :=
      monthOf_spec (isLeap (400 * a + 100 * b + 4 * c + e + 1)) r hr
    have hyear := daysBeforeYear_of_cycles (a := a) hb hc he
    refine ⟨⟨_, _, _, by omega, by omega, hlow, hhigh, by omega, hin⟩, hymd, ?_⟩
    show daysBeforeYear (400 * a + 100 * b + 4 * c + e + 1) +
      daysBefore (isLeap (400 * a + 100 * b + 4 * c + e + 1))
        (monthOf (isLeap (400 * a + 100 * b + 4 * c + e + 1)) r) +
      (r - daysBefore (isLeap (400 * a + 100 * b + 4 * c + e + 1))
        (monthOf (isLeap (400 * a + 100 * b + 4 * c + e + 1)) r) + 1) = ordinal
    omega
  · -- the year before ends with this day, and is a leap year
    have hyear : ∃ a' b' c' e' : ℕ, b' ≤ 3 ∧ c' ≤ 24 ∧ e' = 3 ∧ (c' ≠ 24 ∨ b' = 3) ∧
        400 * a + 100 * b + 4 * c + e = 400 * a' + 100 * b' + 4 * c' + e' + 1 ∧
        146097 * a' + 36524 * b' + 1461 * c' + 365 * e' + 366 = ordinal := by
      rcases hcycle with ⟨rfl, rfl, rfl⟩ | ⟨hb, hc, rfl⟩
      · exact ⟨a, 3, 24, 3, by omega, by omega, rfl, Or.inr rfl, by omega, by omega⟩
      · exact ⟨a, b, c, 3, hb, by omega, rfl, Or.inl (by omega), by omega, by omega⟩
    obtain ⟨a', b', c', e', hb, hc, rfl, hcentury, hyear, hdays⟩ := hyear
    have hleap := isLeap_of_cycles (a := a') (e := 3) hb hc (by omega)
    rw [decide_eq_true ⟨rfl, hcentury⟩, ← hyear] at hleap
    have hlast : daysIn (isLeap (400 * a + 100 * b + 4 * c + e)) 12 = 31 := rfl
    refine ⟨⟨400 * a + 100 * b + 4 * c + e, 12, 31, by omega, ?_, by omega, by omega, by omega,
      hlast.ge⟩, hymd, ?_⟩
    · omega
    · show ymd2ord (400 * a + 100 * b + 4 * c + e) 12 31 = ordinal
      rw [ymd2ord_last hleap, hyear, daysBeforeYear_of_cycles hb hc (by omega)]
      exact hdays

/-! ### Digits -/

theorem digitChar_eq_digit : ∀ n < 10, n.digitChar = digit n := by decide

theorem pad_one {n : ℕ} (h : n < 10) : (DateTime.pad 1 n).toList = [digit n] := by
  rw [DateTime.pad, Nat.toDigits_of_lt_base h, digitChar_eq_digit n h]
  simp

/-- A wider number ends in its last digit. -/
theorem pad_succ (width n : ℕ) : (DateTime.pad (width + 2) n).toList
    = (DateTime.pad (width + 1) (n / 10)).toList ++ [digit (n % 10)] := by
  simp only [DateTime.pad, String.toList_ofList]
  rcases Nat.lt_or_ge n 10 with hlt | hge
  · -- one digit: the number before it is zero
    have hdiv : n / 10 = 0 := by omega
    have hmod : n % 10 = n := by omega
    rw [hdiv, hmod, Nat.toDigits_of_lt_base hlt, Nat.toDigits_zero, digitChar_eq_digit n hlt]
    simp [List.replicate_succ']
  · rw [Nat.toDigits_of_base_le (by decide) hge, digitChar_eq_digit _ (Nat.mod_lt n (by decide)),
      List.length_append, List.append_assoc]
    congr 2
    show width + 2 - ((Nat.toDigits 10 (n / 10)).length + 1) = _
    omega

theorem pad_two {n : ℕ} (h : n < 100) : (DateTime.pad 2 n).toList = twoDigits n := by
  rw [pad_succ 0, pad_one (by omega)]
  rfl

theorem pad_four {n : ℕ} (h : n < 10000) :
    (DateTime.pad 4 n).toList = twoDigits (n / 100) ++ twoDigits (n % 100) := by
  have htens : n % 100 / 10 = n / 10 % 10 := by omega
  have hones : n % 100 % 10 = n % 10 := by omega
  rw [pad_succ 2, pad_succ 1, pad_two (by omega), Nat.div_div_eq_div_mul, twoDigits, twoDigits,
    htens, hones]
  simp

/-! ### The text of a moment -/

/-- The second a reading of the wall clock lies in. -/
def wholeSecond (wall : ℤ) : ℤ := wall - wall % 1000000

/-- The second of the day a reading lies in. -/
def secondOfDay (wall : ℤ) : ℕ := (wall % DateTime.microsPerDay).toNat / 1000000

theorem secondOfDay_lt (wall : ℤ) : secondOfDay wall < 86400 := by
  have hlt := Int.emod_lt_of_pos wall (show 0 < DateTime.microsPerDay by decide)
  rw [DateTime.microsPerDay] at hlt
  rw [secondOfDay, DateTime.microsPerDay]
  omega

theorem secondOfDay_eq (wall : ℤ) : (secondOfDay wall : ℤ) * 1000000
    = wholeSecond wall - wall / DateTime.microsPerDay * DateTime.microsPerDay := by
  rw [secondOfDay, wholeSecond, DateTime.microsPerDay]
  omega

/-- The time of day of a reading, in whole seconds. -/
def timeOf (wall : ℤ) (zone : Zone) : TimeString :=
  have hlt := secondOfDay_lt wall
  { hour := ⟨secondOfDay wall / 3600, by omega⟩
    minute := ⟨secondOfDay wall / 60 % 60, by omega⟩
    second := ⟨secondOfDay wall % 60, by omega⟩
    fraction := []
    length_fraction := by decide
    zone := zone }

theorem inRange_timeOf (wall : ℤ) (zone : Zone) : (timeOf wall zone).InRange := by
  have hlt := secondOfDay_lt wall
  refine ⟨?_, ?_, ?_⟩
  · show secondOfDay wall / 3600 ≤ 23
    omega
  · show secondOfDay wall / 60 % 60 ≤ 59
    omega
  · show secondOfDay wall % 60 ≤ 59
    omega

theorem duration_timeOf (wall : ℤ) (zone : Zone) : (timeOf wall zone).duration
    = wholeSecond wall - wall / DateTime.microsPerDay * DateTime.microsPerDay := by
  have hhour : ((timeOf wall zone).hour.val : ℤ) = (secondOfDay wall / 3600 : ℕ) := rfl
  have hminute : ((timeOf wall zone).minute.val : ℤ) = (secondOfDay wall / 60 % 60 : ℕ) := rfl
  have hsecond : ((timeOf wall zone).second.val : ℤ) = (secondOfDay wall % 60 : ℕ) := rfl
  have hmicros : (timeOf wall zone).micros = 0 := by simp [TimeString.micros, timeOf]
  have hdiv : secondOfDay wall / 60 / 60 = secondOfDay wall / 3600 := Nat.div_div_eq_div_mul _ _ _
  rw [← secondOfDay_eq]
  show (((timeOf wall zone).hour : ℤ) * 3600 + (timeOf wall zone).minute * 60 +
    (timeOf wall zone).second) * 1000000 + (timeOf wall zone).micros
      = (secondOfDay wall : ℤ) * 1000000
  rw [hmicros]
  omega

/-- The day of a reading in the years 1 to 9999. -/
theorem exists_dateOf {wall : ℤ} (hwall : 0 ≤ wall ∧ wall < DateTime.maxWall) :
    ∃ d : CalendarDate,
      ord2ymd ((wall / DateTime.microsPerDay).toNat + 1) = (d.year, d.month, d.day) ∧
      d.midnight = wall / DateTime.microsPerDay * DateTime.microsPerDay := by
  rw [DateTime.maxWall, DateTime.microsPerDay] at hwall
  have hday : (wall / DateTime.microsPerDay).toNat + 1 ≤ 3652059 := by
    rw [DateTime.microsPerDay]
    omega
  obtain ⟨d, hymd, hord⟩ := exists_calendarDate (Nat.succ_pos _) hday
  refine ⟨d, hymd, ?_⟩
  rw [CalendarDate.midnight, hord, DateTime.microsPerDay]
  omega

/-- **What `isoformat` writes** of a UTC time. -/
theorem isoformatSeconds_eq {wall : ℤ} {d : CalendarDate}
    (hd : ord2ymd ((wall / DateTime.microsPerDay).toNat + 1) = (d.year, d.month, d.day)) :
    (DateTime.isoformatSeconds ⟨wall, some 0⟩).toList
      = d.str ++ 'T' :: (timeOf wall .missing).str ++ "+00:00".toList := by
  obtain ⟨-, hyear, -, hmonth, -⟩ := d.valid
  have hday := d.day_le
  have hlt := secondOfDay_lt wall
  rw [DateTime.isoformatSeconds, hd]
  simp only [String.toList_append, Option.map_some, Option.getD_some]
  rw [pad_four (by omega), pad_two (by omega), pad_two (by omega),
    pad_two (n := (wall % DateTime.microsPerDay).toNat / 1000000 / 3600) (by
      show secondOfDay wall / 3600 < 100
      omega),
    pad_two (n := (wall % DateTime.microsPerDay).toNat / 1000000 / 60 % 60) (by omega),
    pad_two (n := (wall % DateTime.microsPerDay).toNat / 1000000 % 60) (by omega)]
  rfl

/-! ### Zulu time -/

/-- A text is searched to its end where what is replaced begins with a character it lacks. -/
theorem replaceChars_append {c : Char} {old new : List Char} {front : List Char} (h : c ∉ front)
    {n : ℕ} (hn : front.length ≤ n) (back : List Char) :
    replaceChars (c :: old) new n (front ++ back)
      = front ++ replaceChars (c :: old) new (n - front.length) back := by
  induction front generalizing n with
  | nil => rfl
  | cons x front ih =>
    obtain ⟨hx, hfront⟩ : c ≠ x ∧ c ∉ front := by simpa using h
    obtain ⟨n, rfl⟩ : ∃ m, n = m + 1 := ⟨n - 1, by simp at hn; omega⟩
    have hstart : ¬(c :: old).isPrefixOf (x :: (front ++ back)) = true := by
      simp [List.isPrefixOf, hx]
    rw [List.cons_append, replaceChars, if_neg hstart, ih hfront (by simpa using hn),
      List.length_cons, Nat.add_sub_add_right]
    rfl

theorem plus_not_mem_digit : ∀ n < 10, digit n ≠ '+' := by decide

theorem plus_not_mem_twoDigits {n : ℕ} (h : n < 100) : '+' ∉ twoDigits n := by
  have htens := plus_not_mem_digit (n / 10) (by omega)
  have hones := plus_not_mem_digit (n % 10) (by omega)
  simp [twoDigits, htens.symm, hones.symm]

/-- **The Zulu form** of a UTC time. -/
theorem isoformatZulu_eq {wall : ℤ} {d : CalendarDate}
    (hd : ord2ymd ((wall / DateTime.microsPerDay).toNat + 1) = (d.year, d.month, d.day)) :
    (replaceStr (DateTime.isoformatSeconds ⟨wall, some 0⟩) "+00:00" "Z").toList
      = d.str ++ ['T'] ++ (timeOf wall .utc).str := by
  obtain ⟨-, hyear, -, hmonth, -⟩ := d.valid
  have hday := d.day_le
  have hlt := secondOfDay_lt wall
  have hdate : '+' ∉ d.str := by
    simp [CalendarDate.str, plus_not_mem_twoDigits (show d.year / 100 < 100 by omega),
      plus_not_mem_twoDigits (show d.year % 100 < 100 by omega),
      plus_not_mem_twoDigits (show d.month < 100 by omega),
      plus_not_mem_twoDigits (show d.day < 100 by omega)]
  have htime : '+' ∉ (timeOf wall .missing).str := by
    simp [TimeString.str, TimeString.trailer, TimeString.fractionStr, timeOf, Zone.str,
      plus_not_mem_twoDigits (show secondOfDay wall / 3600 < 100 by omega),
      plus_not_mem_twoDigits (show secondOfDay wall / 60 % 60 < 100 by omega),
      plus_not_mem_twoDigits (show secondOfDay wall % 60 < 100 by omega)]
  have hfront : '+' ∉ d.str ++ 'T' :: (timeOf wall .missing).str := by
    simp [hdate, htime]
  rw [replaceStr, isoformatSeconds_eq hd, String.toList_ofList]
  show replaceChars ('+' :: "00:00".toList) ['Z'] _ _ = _
  rw [replaceChars_append hfront (by simp), List.length_append, Nat.add_sub_cancel_left]
  simp [TimeString.str, TimeString.trailer, Zone.str]
  rfl

end Onvif
