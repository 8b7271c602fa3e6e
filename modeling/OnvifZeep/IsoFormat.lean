/-
Dates and times as text: `YYYY-MM-DD`, and `hh:mm:ss` with a fraction and a zone.

A `CalendarDate` is a valid date of the years 1 to 9999.  The fields of a `TimeString` are any two
digits each, so it may lie past the end of its day; what it stands for is its `duration` since
midnight.  Both are written by `str` and read back by `readDate` and `readTime`.

* **`readDate_str`**, **`readTime_str`** — reading what was written;
* **`CalendarDate.str_subset`**, **`TimeString.str_subset`** — the characters that are written.
-/
import Mathlib.Data.List.GetD
import OnvifZeep.DateTime

namespace Onvif

/-! ### Digits -/

def digit (n : ℕ) : Char := Char.ofNat (48 + n)

def twoDigits (n : ℕ) : List Char := [digit (n / 10), digit (n % 10)]

def readDigit (c : Char) : Option (Fin 10) :=
  if h : 48 ≤ c.toNat ∧ c.toNat < 58 then some ⟨c.toNat - 48, by omega⟩ else none

def readTwo : List Char → Option (Fin 100 × List Char)
  | a :: b :: rest => do
    let x ← readDigit a
    let y ← readDigit b
    return (⟨10 * x + y, by omega⟩, rest)
  | _ => none

/-- The rest of a text that begins with the given character. -/
def expect (c : Char) : List Char → Option (List Char)
  | c' :: rest => if c' = c then some rest else none
  | [] => none

/-- The digits a text begins with, and the rest. -/
def spanDigits : List Char → List (Fin 10) × List Char
  | [] => ([], [])
  | c :: rest =>
    match readDigit c with
    | some d => (d :: (spanDigits rest).1, (spanDigits rest).2)
    | none => ([], c :: rest)

@[simp] theorem expect_cons (c : Char) (rest : List Char) : expect c (c :: rest) = some rest :=
  if_pos rfl

theorem readDigit_digit : ∀ n : Fin 10, readDigit (digit n) = some n := by decide

@[simp] theorem readTwo_twoDigits (n : Fin 100) (rest : List Char) :
    readTwo (twoDigits n ++ rest) = some (n, rest) := by
  have hx := readDigit_digit ⟨n / 10, by omega⟩
  have hy := readDigit_digit ⟨n % 10, by omega⟩
  show ((readDigit (digit (n / 10))).bind fun x => (readDigit (digit (n % 10))).bind fun y =>
    some ((⟨10 * x + y, by omega⟩ : Fin 100), rest)) = _
  rw [hx, Option.bind_some, hy, Option.bind_some]
  congr 2
  exact Fin.ext (Nat.div_add_mod n 10)

theorem spanDigits_map_digit (ds : List (Fin 10)) {rest : List Char}
    (h : ∀ c ∈ rest.head?, readDigit c = none) :
    spanDigits ((ds.map fun d : Fin 10 => digit d) ++ rest) = (ds, rest) := by
  induction ds with
  | nil =>
    cases rest with
    | nil => rfl
    | cons c rest =>
      rw [List.map_nil, List.nil_append, spanDigits, h c rfl]
  | cons d ds ih => rw [List.map_cons, List.cons_append, spanDigits, readDigit_digit, ih]

/-! ### Dates -/

/-- A valid date of the years 1 to 9999. -/
structure CalendarDate where
  year : ℕ
  month : ℕ
  day : ℕ
  valid : 1 ≤ year ∧ year ≤ 9999 ∧ 1 ≤ month ∧ month ≤ 12 ∧ 1 ≤ day ∧ day ≤ daysInMonth year month

namespace CalendarDate

/-- `YYYY-MM-DD`. -/
def str (d : CalendarDate) : List Char :=
  twoDigits (d.year / 100) ++ twoDigits (d.year % 100) ++ '-' :: twoDigits d.month ++
    '-' :: twoDigits d.day

/-- The first moment of the date, on a wall clock. -/
def midnight (d : CalendarDate) : ℤ :=
  ((ymd2ord d.year d.month d.day : ℤ) - 1) * DateTime.microsPerDay

end CalendarDate

theorem daysInMonth_le (year month : ℕ) : daysInMonth year month ≤ 31 := by
  rw [daysInMonth, daysIn]
  split
  · decide
  · have hall : ∀ n ∈ [0, 31, 28, 31, 30, 31, 30, 31, 31, 30, 31, 30, 31], n ≤ 31 := by decide
    by_cases hmonth : month < [0, 31, 28, 31, 30, 31, 30, 31, 31, 30, 31, 30, 31].length
    · rw [List.getD_eq_getElem _ _ hmonth]
      exact hall _ (List.getElem_mem hmonth)
    · rw [List.getD_eq_default _ _ (Nat.le_of_not_lt hmonth)]
      exact Nat.zero_le _

theorem CalendarDate.day_le (d : CalendarDate) : d.day ≤ 31 :=
  d.valid.2.2.2.2.2.trans (daysInMonth_le _ _)

theorem daysBeforeMonth_add_le (year : ℕ) {month day : ℕ} (hmonth : month ≤ 12)
    (hday : day ≤ daysInMonth year month) :
    daysBeforeMonth year month + day ≤ 365 + if isLeap year then 1 else 0 := by
  have hall : ∀ leap, ∀ m ≤ 12,
      daysBefore leap m + daysIn leap m ≤ 365 + if leap then 1 else 0 := by decide
  exact (Nat.add_le_add_left hday _).trans (hall (isLeap year) month hmonth)

namespace CalendarDate

/-- The last date is day 3652059. -/
theorem ymd2ord_le (d : CalendarDate) : ymd2ord d.year d.month d.day ≤ 3652059 := by
  obtain ⟨-, hyear, -, hmonth, -, hday⟩ := d.valid
  have hdays := daysBeforeMonth_add_le d.year hmonth hday
  rw [ymd2ord, daysBeforeYear]
  by_cases hlast : d.year = 9999
  · rw [hlast] at hdays ⊢
    rw [if_neg (by decide)] at hdays
    omega
  · have hle : (if isLeap d.year then 1 else 0) ≤ 1 := by
      split
      · exact Nat.le_refl 1
      · exact Nat.zero_le 1
    omega

theorem midnight_nonneg (d : CalendarDate) : 0 ≤ d.midnight := by
  obtain ⟨-, -, -, -, hday, -⟩ := d.valid
  have hord : 1 ≤ ymd2ord d.year d.month d.day := by
    rw [ymd2ord]
    omega
  exact Int.mul_nonneg (by omega) (by decide)

/-- Every date ends by year 10000. -/
theorem midnight_le (d : CalendarDate) : d.midnight + DateTime.microsPerDay ≤ DateTime.maxWall := by
  have hord := d.ymd2ord_le
  rw [midnight, DateTime.maxWall, DateTime.microsPerDay]
  omega

end CalendarDate

def readDate (s : List Char) : Option (CalendarDate × List Char) := do
  let (century, s) ← readTwo s
  let (year, s) ← readTwo s
  let s ← expect '-' s
  let (month, s) ← readTwo s
  let s ← expect '-' s
  let (day, s) ← readTwo s
  if h : 1 ≤ 100 * century.val + year ∧ 100 * century.val + year ≤ 9999 ∧ 1 ≤ month.val ∧
      month.val ≤ 12 ∧ 1 ≤ day.val ∧ day.val ≤ daysInMonth (100 * century.val + year) month then
    some (⟨_, _, _, h⟩, s)
  else none

/-- **Reading a date that was written.** -/
theorem readDate_str (d : CalendarDate) (rest : List Char) :
    readDate (d.str ++ rest) = some (d, rest) := by
  obtain ⟨year, month, day, hvalid⟩ := d
  have hle : day ≤ 31 := CalendarDate.day_le ⟨year, month, day, hvalid⟩
  have hcentury := readTwo_twoDigits ⟨year / 100, by omega⟩
  have hyear := readTwo_twoDigits ⟨year % 100, by omega⟩
  have hmonth := readTwo_twoDigits ⟨month, by omega⟩
  have hday := readTwo_twoDigits ⟨day, by omega⟩
  have hsplit : 100 * (year / 100) + year % 100 = year := Nat.div_add_mod year 100
  simp only [CalendarDate.str, List.append_assoc, List.cons_append, readDate, hcentury, hyear,
    hmonth, hday, expect_cons, Option.bind_eq_bind, Option.bind_some, hsplit]
  rw [dif_pos hvalid]

/-! ### Times -/

/-- The zone of a time: none, `Z`, or an offset of hours and minutes. -/
inductive Zone where
  | missing
  | utc
  | offset (negative : Bool) (hours : Fin 24) (minutes : Fin 60)

namespace Zone

def str : Zone → List Char
  | missing => []
  | utc => ['Z']
  | offset negative hours minutes =>
    (if negative then '-' else '+') :: twoDigits hours ++ ':' :: twoDigits minutes

def utcoffset : Zone → Option TimeDelta
  | missing => none
  | utc => some 0
  | offset negative hours minutes =>
    let seconds := TimeDelta.ofSeconds (hours * 3600 + minutes * 60)
    some (if negative then -seconds else seconds)

end Zone

/-- Two digits for each field, at most six of the fraction, and the zone. -/
structure TimeString where
  hour : Fin 100
  minute : Fin 100
  second : Fin 100
  fraction : List (Fin 10)
  length_fraction : fraction.length ≤ 6
  zone : Zone

namespace TimeString

/-- `.` and the digits of the fraction, or nothing. -/
def fractionStr : List (Fin 10) → List Char
  | [] => []
  | d :: ds => '.' :: (d :: ds).map fun d : Fin 10 => digit d

/-- What follows the seconds. -/
def trailer (t : TimeString) : List Char := fractionStr t.fraction ++ t.zone.str

/-- `hh:mm:ss`, the fraction and the zone. -/
def str (t : TimeString) : List Char :=
  twoDigits t.hour ++ ':' :: (twoDigits t.minute ++ ':' :: (twoDigits t.second ++ t.trailer))

/-- The fraction, in microseconds. -/
def micros (t : TimeString) : ℤ :=
  (t.fraction.foldl (fun n d => n * 10 + d.val) 0 * 10 ^ (6 - t.fraction.length) : ℕ)

/-- The time since midnight, in microseconds. -/
def duration (t : TimeString) : TimeDelta :=
  TimeDelta.ofSeconds (t.hour * 3600 + t.minute * 60 + t.second) + t.micros

theorem foldl_digits_lt (ds : List (Fin 10)) (n : ℕ) :
    ds.foldl (fun n d => n * 10 + d.val) n < (n + 1) * 10 ^ ds.length := by
  induction ds generalizing n with
  | nil =>
    rw [List.foldl_nil, List.length_nil]
    omega
  | cons d ds ih =>
    rw [List.foldl_cons, List.length_cons]
    calc _ < (n * 10 + d.val + 1) * 10 ^ ds.length := ih _
      _ ≤ ((n + 1) * 10) * 10 ^ ds.length := Nat.mul_le_mul_right _ (by omega)
      _ = (n + 1) * 10 ^ (ds.length + 1) := by rw [Nat.pow_succ]; ac_rfl

/-- A fraction is less than a second. -/
theorem micros_bounds (t : TimeString) : 0 ≤ t.micros ∧ t.micros < 1000000 := by
  have hdigits := foldl_digits_lt t.fraction 0
  rw [Nat.zero_add, Nat.one_mul] at hdigits
  have hmul := Nat.mul_lt_mul_of_pos_right hdigits (Nat.pow_pos (n := 6 - t.fraction.length)
    (show 0 < 10 by decide))
  rw [← Nat.pow_add, Nat.add_sub_cancel' t.length_fraction] at hmul
  rw [micros]
  omega

theorem duration_nonneg (t : TimeString) : 0 ≤ t.duration := by
  have hmicros := t.micros_bounds.1
  show (0 : ℤ) ≤ (t.hour * 3600 + t.minute * 60 + t.second) * 1000000 + t.micros
  omega

/-- The time lies within its day. -/
def InRange (t : TimeString) : Prop := t.hour.val ≤ 23 ∧ t.minute.val ≤ 59 ∧ t.second.val ≤ 59

instance (t : TimeString) : Decidable t.InRange := inferInstanceAs (Decidable (_ ∧ _))

theorem InRange.duration_lt {t : TimeString} (h : t.InRange) :
    t.duration < DateTime.microsPerDay := by
  obtain ⟨hhour, hminute, hsecond⟩ := h
  have hmicros := t.micros_bounds.2
  show (t.hour * 3600 + t.minute * 60 + t.second) * 1000000 + t.micros < (86400000000 : ℤ)
  omega

/-- `24:00:00`. -/
def EndOfDay (t : TimeString) : Prop := t.hour.val = 24 ∧ t.minute.val = 0 ∧ t.second.val = 0

/-- The time of the day, counted from midnight again where the day ends. -/
def ofDay (t : TimeString) : ℤ := t.duration % DateTime.microsPerDay

end TimeString

/-- The moment on the wall clock that a date and a time stand for. -/
def moment (d : CalendarDate) (t : TimeString) : DateTime where
  wall := d.midnight + t.duration
  utcoffset := t.zone.utcoffset

def readFraction : List Char → Option (List (Fin 10) × List Char)
  | '.' :: rest => if (spanDigits rest).1 = [] then none else some (spanDigits rest)
  | s => some ([], s)

def readOffset (negative : Bool) (s : List Char) : Option Zone := do
  let (hours, s) ← readTwo s
  let s ← expect ':' s
  let (minutes, s) ← readTwo s
  if h : hours.val < 24 ∧ minutes.val < 60 ∧ s = [] then
    some (.offset negative ⟨hours, h.1⟩ ⟨minutes, h.2.1⟩)
  else none

def readZone : List Char → Option Zone
  | [] => some .missing
  | ['Z'] => some .utc
  | '-' :: s => readOffset true s
  | '+' :: s => readOffset false s
  | _ => none

def readTime (s : List Char) : Option TimeString := do
  let (hour, s) ← readTwo s
  let s ← expect ':' s
  let (minute, s) ← readTwo s
  let s ← expect ':' s
  let (second, s) ← readTwo s
  let (fraction, s) ← readFraction s
  let zone ← readZone s
  if h : fraction.length ≤ 6 then some ⟨hour, minute, second, fraction, h, zone⟩ else none

theorem readOffset_str (negative : Bool) (hours : Fin 24) (minutes : Fin 60) :
    readOffset negative (twoDigits hours ++ ':' :: twoDigits minutes)
      = some (.offset negative hours minutes) := by
  have hhours := readTwo_twoDigits ⟨hours, by omega⟩
  have hminutes := readTwo_twoDigits ⟨minutes, by omega⟩ []
  rw [List.append_nil] at hminutes
  simp only [readOffset, hhours, expect_cons, Option.bind_eq_bind, Option.bind_some, hminutes]
  rw [dif_pos ⟨hours.isLt, minutes.isLt, trivial⟩]

theorem readZone_str (z : Zone) : readZone z.str = some z := by
  cases z with
  | missing => rfl
  | utc => rfl
  | offset negative hours minutes =>
    cases negative with
    | true => exact readOffset_str true hours minutes
    | false => exact readOffset_str false hours minutes

theorem Zone.head?_str (z : Zone) : ∀ c ∈ z.str.head?, readDigit c = none ∧ c ≠ '.' := by
  cases z with
  | missing => exact fun c hc => by cases hc
  | utc => exact fun c hc => by cases hc; decide
  | offset negative hours minutes =>
    cases negative with
    | true => exact fun c hc => by cases hc; decide
    | false => exact fun c hc => by cases hc; decide

theorem readFraction_trailer (t : TimeString) :
    readFraction t.trailer = some (t.fraction, t.zone.str) := by
  have hhead := t.zone.head?_str
  rw [TimeString.trailer]
  cases hfraction : t.fraction with
  | nil =>
    show readFraction t.zone.str = _
    cases hzone : t.zone.str with
    | nil => rfl
    | cons c rest =>
      have hdot : c ≠ '.' := (hhead c (by rw [hzone]; rfl)).2
      rw [readFraction.eq_2 _ fun rest' heq => hdot (List.cons.inj heq).1]
  | cons d ds =>
    have hspan := spanDigits_map_digit (d :: ds) fun c hc => (hhead c hc).1
    show (if (spanDigits (_ ++ t.zone.str)).1 = [] then none
      else some (spanDigits (_ ++ t.zone.str))) = _
    rw [hspan, if_neg (List.cons_ne_nil d ds)]

/-- **Reading a time that was written.** -/
theorem readTime_str (t : TimeString) : readTime t.str = some t := by
  simp only [readTime, TimeString.str, readTwo_twoDigits, expect_cons, Option.bind_eq_bind,
    Option.bind_some, readFraction_trailer, readZone_str]
  rw [dif_pos t.length_fraction]

/-! ### The characters -/

/-- The characters of dates and times. -/
def isoChars : List Char :=
  ['0', '1', '2', '3', '4', '5', '6', '7', '8', '9', '-', ':', '.', '+', 'Z']

theorem digit_mem : ∀ n : Fin 10, digit n ∈ isoChars := by decide

theorem twoDigits_subset {n : ℕ} (h : n < 100) : twoDigits n ⊆ isoChars := by
  intro c hc
  rw [twoDigits, List.mem_cons, List.mem_singleton] at hc
  rcases hc with rfl | rfl
  · exact digit_mem ⟨n / 10, by omega⟩
  · exact digit_mem ⟨n % 10, by omega⟩

theorem CalendarDate.str_subset (d : CalendarDate) : d.str ⊆ isoChars := by
  have hle := d.day_le
  obtain ⟨-, hyear, -, hmonth, -⟩ := d.valid
  have hdash : '-' ∈ isoChars := by decide
  refine List.append_subset.mpr ⟨?_, List.cons_subset.mpr ⟨hdash, twoDigits_subset (by omega)⟩⟩
  refine List.append_subset.mpr ⟨?_, List.cons_subset.mpr ⟨hdash, twoDigits_subset (by omega)⟩⟩
  exact List.append_subset.mpr ⟨twoDigits_subset (by omega), twoDigits_subset (by omega)⟩

theorem Zone.str_subset (z : Zone) : z.str ⊆ isoChars := by
  cases z with
  | missing => exact List.nil_subset _
  | utc => exact fun c hc => by rw [List.mem_singleton.mp hc]; decide
  | offset negative hours minutes =>
    have hsign : (if negative then '-' else '+') ∈ isoChars := by
      cases negative with
      | true => decide
      | false => decide
    refine List.cons_subset.mpr ⟨hsign, List.append_subset.mpr ⟨twoDigits_subset (by omega), ?_⟩⟩
    exact List.cons_subset.mpr ⟨by decide, twoDigits_subset (by omega)⟩

theorem TimeString.fractionStr_subset (ds : List (Fin 10)) : fractionStr ds ⊆ isoChars := by
  cases ds with
  | nil => exact List.nil_subset _
  | cons d ds =>
    refine List.cons_subset.mpr ⟨by decide, fun c hc => ?_⟩
    obtain ⟨e, -, rfl⟩ := List.mem_map.mp hc
    exact digit_mem e

theorem TimeString.str_subset (t : TimeString) : t.str ⊆ isoChars := by
  have hcolon : ':' ∈ isoChars := by decide
  refine List.append_subset.mpr ⟨twoDigits_subset t.hour.isLt, List.cons_subset.mpr ⟨hcolon, ?_⟩⟩
  refine List.append_subset.mpr ⟨twoDigits_subset t.minute.isLt, List.cons_subset.mpr ⟨hcolon, ?_⟩⟩
  refine List.append_subset.mpr ⟨twoDigits_subset t.second.isLt, ?_⟩
  exact List.append_subset.mpr ⟨fractionStr_subset _, t.zone.str_subset⟩

@[simp] theorem CalendarDate.length_str (d : CalendarDate) : d.str.length = 10 := rfl

end Onvif
