/-
Dates, times and time differences, as `datetime` has them.

A `TimeDelta` is a number of microseconds.  A `DateTime` is a reading of a wall clock, in
microseconds since 0001-01-01T00:00:00, with the offset of its zone when it has one; two
readings subtract only when both are naive or both are aware (`DateTime.sub`), and adding
may leave the years 1 to 9999 (`DateTime.add`).  The calendar is the proleptic Gregorian one,
with the conversions of CPython (`ymd2ord`, `ord2ymd`).

* **`sub_isOk_iff`** — when a subtraction does not raise.
-/
import Mathlib.Data.Rat.Defs
import Mathlib.Algebra.Order.Ring.Rat
import OnvifZeep.Binary64
import OnvifZeep.Exceptions

namespace Onvif

/-! ### Time differences -/

/-- A `timedelta`, in microseconds. -/
abbrev TimeDelta : Type := ℤ

namespace TimeDelta

def ofSeconds (s : ℤ) : TimeDelta := s * 1000000

/-- The seconds of a difference, exactly. -/
def totalSeconds (d : TimeDelta) : ℚ := (d : ℚ) / 1000000

/-- `total_seconds()`: the closest double. -/
def totalSecondsDouble (d : TimeDelta) : ℚ := Binary64.nearest (totalSeconds d)

end TimeDelta

/-! ### The calendar -/

def isLeap (year : ℕ) : Bool :=
  year % 4 == 0 && (year % 100 != 0 || year % 400 == 0)

/-- The days of a common year before each month. -/
def daysBeforeMonthTable : List ℕ := [0, 0, 31, 59, 90, 120, 151, 181, 212, 243, 273, 304, 334]

/-- The days of a month, by whether the year is a leap year. -/
def daysIn (leap : Bool) (month : ℕ) : ℕ :=
  if month = 2 && leap then 29
  else [0, 31, 28, 31, 30, 31, 30, 31, 31, 30, 31, 30, 31].getD month 0

/-- The days before a month, by whether the year is a leap year. -/
def daysBefore (leap : Bool) (month : ℕ) : ℕ :=
  daysBeforeMonthTable.getD month 0 + if 2 < month && leap then 1 else 0

def daysInMonth (year month : ℕ) : ℕ := daysIn (isLeap year) month

def daysBeforeMonth (year month : ℕ) : ℕ := daysBefore (isLeap year) month

def daysBeforeYear (year : ℕ) : ℕ :=
  (year - 1) * 365 + (year - 1) / 4 - (year - 1) / 100 + (year - 1) / 400

/-- The ordinal of a date; 0001-01-01 is 1. -/
def ymd2ord (year month day : ℕ) : ℕ := daysBeforeYear year + daysBeforeMonth year month + day

/-- The date with the given ordinal. -/
def ord2ymd (ordinal : ℕ) : ℕ × ℕ × ℕ :=
  let n := ordinal - 1
  let n400 := n / 146097
  let n := n % 146097
  let n100 := n / 36524
  let n := n % 36524
  let n4 := n / 1461
  let n := n % 1461
  let n1 := n / 365
  let n := n % 365
  let year := n400 * 400 + 1 + n100 * 100 + n4 * 4 + n1
  -- the last day of a leap cycle counts as day 365 of its fourth year
  if n1 = 4 ∨ n100 = 4 then (year - 1, 12, 31)
  else
    let month := (n + 50) / 32
    let month := if n < daysBeforeMonth year month then month - 1 else month
    (year, month, n - daysBeforeMonth year month + 1)

/-! ### Datetimes -/

/-- A wall-clock reading, in microseconds, and the offset of its zone from UTC if it has
one. -/
structure DateTime where
  wall : ℤ
  utcoffset : Option TimeDelta
deriving DecidableEq

namespace DateTime

def microsPerDay : ℤ := 86400000000

/-- The first reading past 9999-12-31T23:59:59.999999. -/
def maxWall : ℤ := 3652059 * microsPerDay

/-- `datetime(year, month, day, hour, minute, second, tzinfo=timezone.utc)`. -/
def ofFields (year month day hour minute second : ℤ) : Except Exc DateTime :=
  if 1 ≤ year ∧ year ≤ 9999 ∧ 1 ≤ month ∧ month ≤ 12 ∧ 1 ≤ day ∧
      day ≤ daysInMonth year.toNat month.toNat ∧ 0 ≤ hour ∧ hour ≤ 23 ∧
      0 ≤ minute ∧ minute ≤ 59 ∧ 0 ≤ second ∧ second ≤ 59 then
    .ok
      { wall := ((ymd2ord year.toNat month.toNat day.toNat : ℤ) - 1) * microsPerDay +
          TimeDelta.ofSeconds (hour * 3600 + minute * 60 + second)
        utcoffset := some 0 }
  else .error (.builtin .valueError "value is out of range")

/-- `datetime + timedelta`. -/
def add (d : DateTime) (t : TimeDelta) : Except Exc DateTime :=
  if 0 ≤ d.wall + t ∧ d.wall + t < maxWall then .ok { d with wall := d.wall + t }
  else .error (.builtin .overflowError "date value out of range")

/-- `datetime - datetime`. -/
def sub (a b : DateTime) : Except Exc TimeDelta :=
  match a.utcoffset, b.utcoffset with
  | none, none => .ok (a.wall - b.wall)
  | some o, some o' => .ok (a.wall - o - (b.wall - o'))
  | _, _ => .error (.builtin .typeError "can't subtract offset-naive and offset-aware datetimes")

/-- Both have a zone or neither has. -/
def Comparable (a b : DateTime) : Prop := a.utcoffset.isSome = b.utcoffset.isSome

instance (a b : DateTime) : Decidable (a.Comparable b) := by unfold Comparable; infer_instance

theorem sub_isOk_iff (a b : DateTime) : (∃ t, a.sub b = .ok t) ↔ a.Comparable b := by
  unfold sub Comparable
  cases a.utcoffset <;> cases b.utcoffset <;> simp

theorem only_builtin_sub (a b : DateTime) : Only (fun e => e.isBuiltin) (a.sub b) := by
  unfold sub
  cases a.utcoffset with
  | none =>
    cases b.utcoffset with
    | none => exact only_ok _
    | some _ => exact only_error rfl
  | some _ =>
    cases b.utcoffset with
    | none => exact only_error rfl
    | some _ => exact only_ok _

theorem only_builtin_add (d : DateTime) (t : TimeDelta) :
    Only (fun e => e.isBuiltin) (d.add t) := .ite (only_ok _) (only_error rfl)

/-! ### `isoformat(timespec="seconds")` -/

/-- `n` in decimal, with at least `width` digits. -/
def pad (width n : ℕ) : String :=
  String.ofList (List.replicate (width - (Nat.toDigits 10 n).length) '0' ++ Nat.toDigits 10 n)

/-- The offset as `isoformat` writes it, for an offset of whole minutes. -/
def formatOffset (o : TimeDelta) : String :=
  let minutes := o.natAbs / 60000000
  (if o < 0 then "-" else "+") ++ pad 2 (minutes / 60) ++ ":" ++ pad 2 (minutes % 60)

def isoformatSeconds (d : DateTime) : String :=
  let days := (d.wall / microsPerDay).toNat
  let seconds := (d.wall % microsPerDay).toNat / 1000000
  let (year, month, day) := ord2ymd (days + 1)
  pad 4 year ++ "-" ++ pad 2 month ++ "-" ++ pad 2 day ++ "T" ++
    pad 2 (seconds / 3600) ++ ":" ++ pad 2 (seconds / 60 % 60) ++ ":" ++ pad 2 (seconds % 60) ++
    (d.utcoffset.map formatOffset).getD ""

end DateTime

/-- `str.replace`, with a bound on the length of the string. -/
def replaceChars (old new : List Char) : ℕ → List Char → List Char
  | 0, l => l
  | _, [] => []
  | n + 1, c :: cs =>
    if old.isPrefixOf (c :: cs) then new ++ replaceChars old new n ((c :: cs).drop old.length)
    else c :: replaceChars old new n cs

def replaceStr (s old new : String) : String :=
  String.ofList (replaceChars old.toList new.toList s.toList.length s.toList)

example : replaceStr (DateTime.isoformatSeconds
    ⟨(ymd2ord 2024 8 17 - 1) * DateTime.microsPerDay + TimeDelta.ofSeconds 45076, some 0⟩)
    "+00:00" "Z" = "2024-08-17T12:31:16Z" := by decide +kernel

end Onvif
