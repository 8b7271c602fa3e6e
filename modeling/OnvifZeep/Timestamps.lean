/-
`onvif/types.py`: reading the timestamps of a device.

Devices write timestamps with a `-` or a blank between date and time, and count hours, minutes
and seconds past their ends.  `FastDateTime.pythonvalue` and `ForgivingTime.pythonvalue` repair
both around the parsers of ciso8601 and isodate, which are parameters here (`Parsers`), as is
what zeep's `treat_whitespace` does first.

Strings are lists of characters.  `int` and the format `02d` are those of Python.

* **`tryFixTimeOverflow`** — clamps the fields of a time and returns what was cut off;
* **`only_valueError_tryFixTimeOverflow`**, **`TimeOffset.bounds_of_tryFixTimeOverflow`** — it
  raises nothing but `ValueError`, and what it cuts off is less than four days.
-/
import OnvifZeep.DateTime
import OnvifZeep.UrlParse

namespace Onvif

/-! ### `int` and `02d` -/

/-- The zeros of the decimal digits of Unicode. -/
def decimalZeros : List ℕ :=
  [0x30, 0x660, 0x6F0, 0x7C0, 0x966, 0x9E6, 0xA66, 0xAE6, 0xB66, 0xBE6, 0xC66, 0xCE6, 0xD66,
    0xDE6, 0xE50, 0xED0, 0xF20, 0x1040, 0x1090, 0x17E0, 0x1810, 0x1946, 0x19D0, 0x1A80, 0x1A90,
    0x1B50, 0x1BB0, 0x1C40, 0x1C50, 0xA620, 0xA8D0, 0xA900, 0xA9D0, 0xA9F0, 0xAA50, 0xABF0,
    0xFF10, 0x104A0, 0x10D30, 0x11066, 0x110F0, 0x11136, 0x111D0, 0x112F0, 0x11450, 0x114D0,
    0x11650, 0x116C0, 0x11730, 0x118E0, 0x11950, 0x11C50, 0x11D50, 0x11DA0, 0x11F50, 0x16A60,
    0x16AC0, 0x16B50, 0x1D7CE, 0x1D7D8, 0x1D7E2, 0x1D7EC, 0x1D7F6, 0x1E140, 0x1E2F0, 0x1E4F0,
    0x1E950, 0x1FBF0]

def digitValue (c : Char) : Option ℕ :=
  (decimalZeros.find? fun start => start ≤ c.toNat ∧ c.toNat < start + 10).map fun start =>
    c.toNat - start

/-- The blanks `str.strip` removes. -/
def isSpace (c : Char) : Bool :=
  c.toNat ∈ [0x9, 0xA, 0xB, 0xC, 0xD, 0x1C, 0x1D, 0x1E, 0x1F, 0x20, 0x85, 0xA0, 0x1680, 0x2028,
    0x2029, 0x202F, 0x205F, 0x3000] || (0x2000 ≤ c.toNat && c.toNat ≤ 0x200A)

def strip (s : List Char) : List Char :=
  ((s.dropWhile isSpace).reverse.dropWhile isSpace).reverse

/-- The digits after the first, with single underscores between them. -/
def readDigits : ℕ → List Char → Option ℕ
  | n, [] => some n
  | n, '_' :: c :: rest => (digitValue c).bind fun d => readDigits (n * 10 + d) rest
  | n, c :: rest => (digitValue c).bind fun d => readDigits (n * 10 + d) rest

def readNat : List Char → Option ℕ
  | [] => none
  | c :: rest => (digitValue c).bind fun d => readDigits d rest

def readInt (s : List Char) : Option ℤ :=
  match strip s with
  | '-' :: rest => (readNat rest).map fun n : ℕ => -(n : ℤ)
  | '+' :: rest => (readNat rest).map fun n : ℕ => (n : ℤ)
  | s => (readNat s).map fun n : ℕ => (n : ℤ)

/-- `int(s)`. -/
def parseInt (s : List Char) : Except Exc ℤ :=
  match readInt s with
  | some n => .ok n
  | none => valueError s!"invalid literal for int() with base 10: '{String.ofList s}'"

/-- `f"{n:02d}"`. -/
def format02 (n : ℤ) : List Char :=
  if n < 0 then '-' :: (DateTime.pad 1 n.natAbs).toList else (DateTime.pad 2 n.natAbs).toList

/-! ### The parsers -/

/-- A `datetime.time`: the time of day in microseconds and the offset of its zone. -/
structure Time where
  micros : ℤ
  utcoffset : Option TimeDelta
deriving DecidableEq

/-- `datetime.timetz()`. -/
def DateTime.timetz (d : DateTime) : Time where
  micros := d.wall % microsPerDay
  utcoffset := d.utcoffset

/-- What the module uses of zeep, ciso8601 and isodate. -/
structure Parsers where
  -- `treat_whitespace("collapse")`
  collapse : List Char → List Char
  ciso8601 : List Char → Except Exc DateTime
  isodateDatetime : List Char → Except Exc DateTime
  isodateTime : List Char → Except Exc Time

/-- `try: return x except ValueError: pass`. -/
def unlessValueError {α : Type} (x : Except Exc α) : Except Exc (Option α) :=
  match x with
  | .ok a => .ok (some a)
  | .error e => if e.oneOf [.valueError] then .ok none else .error e

/-- `_try_parse_datetime`. -/
def tryParseDatetime (P : Parsers) (value : List Char) : Except Exc (Option DateTime) := do
  match ← unlessValueError (P.ciso8601 value) with
  | some dt => return some dt
  | none => unlessValueError (P.isodateDatetime value)

/-! ### Fields past their ends -/

/-- The keyword arguments of a `timedelta`; a missing one is zero. -/
structure TimeOffset where
  hours : ℤ
  minutes : ℤ
  seconds : ℤ
deriving DecidableEq

def TimeOffset.timedelta (o : TimeOffset) : TimeDelta :=
  TimeDelta.ofSeconds (o.hours * 3600 + o.minutes * 60 + o.seconds)

/-- What of a field lies past its last value. -/
def overflow (last n : ℤ) : ℤ := if last < n then n - last else 0

def clamp (last n : ℤ) : ℤ := if last < n then last else n

/-- `_try_fix_time_overflow`. -/
def tryFixTimeOverflow (time : List Char) : Except Exc (List Char × TimeOffset) := do
  let hour ← parseInt (time.take 2)
  let minute ← parseInt ((time.drop 3).take 2)
  let second ← parseInt ((time.drop 6).take 2)
  return (format02 (clamp 23 hour) ++ ':' :: format02 (clamp 59 minute) ++
      ':' :: format02 (clamp 59 second) ++ time.drop 8,
    { hours := overflow 23 hour, minutes := overflow 59 minute, seconds := overflow 59 second })

/-! ### The two types -/

/-- A `-` between date and time becomes a `T`, and one after the `T` goes. -/
def fixDashes (value : List Char) : List Char :=
  let value := if 10 < value.length ∧ value[10]? = some '-' then value.take 10 ++ 'T' :: value.drop 11
    else value
  if 11 < value.length ∧ value[11]? = some '-' then value.take 11 ++ value.drop 12 else value

/-- A date alone is read at midnight, and in strings of some lengths a blank becomes a `T`. -/
def fixSeparator (value : List Char) : List Char :=
  if value.length = 10 then value ++ "T00:00:00".toList
  else if value.length ∈ [19, 20, 26] ∧ value[10]? = some ' ' then
    -- `"T".join(value.split(" "))`
    value.map fun c => if c = ' ' then 'T' else c
  else value

/-- The repaired time on its date, and how much later it was meant, if the fields of the time
are numbers. -/
def repairOverflow (value : List Char) : Except Exc (List Char × TimeOffset) := do
  let (date, time) := cutAt 'T' value
  let (fixedTime, offset) ← tryFixTimeOverflow time
  return (date ++ 'T' :: fixedTime, offset)

def FastDateTime.pythonvalue (P : Parsers) (xmlvalue : List Char) : Except Exc DateTime := do
  let value := fixSeparator (fixDashes (P.collapse xmlvalue))
  match ← tryParseDatetime P value with
  | some dt => return dt
  | none =>
    match ← unlessValueError (repairOverflow value) with
    | none => P.ciso8601 value
    | some (repaired, offset) =>
      match ← tryParseDatetime P repaired with
      | some dt => dt.add offset.timedelta
      | none => P.ciso8601 value

/-- A day to put a time on. -/
def someDay : List Char := "2024-01-15T".toList

def ForgivingTime.pythonvalue (P : Parsers) (xmlvalue : List Char) : Except Exc Time := do
  let value := P.collapse xmlvalue
  match ← unlessValueError (P.isodateTime value) with
  | some time => return time
  | none =>
    match ← unlessValueError (tryFixTimeOverflow value) with
    | none => P.isodateTime value
    | some (fixedTime, offset) =>
      match ← tryParseDatetime P (someDay ++ fixedTime) with
      | some dt =>
        let moved ← dt.add offset.timedelta
        return moved.timetz
      | none => P.isodateTime value

/-! ### What overflows -/

theorem only_valueError_parseInt (s : List Char) : Only IsValueError (parseInt s) := by
  rw [parseInt]
  cases readInt s with
  | some n => exact only_ok n
  | none => exact only_valueError _

/-- **Splitting a time** raises nothing but `ValueError`. -/
theorem only_valueError_tryFixTimeOverflow (time : List Char) :
    Only IsValueError (tryFixTimeOverflow time) :=
  .bind (only_valueError_parseInt _) fun _ => .bind (only_valueError_parseInt _) fun _ =>
    .bind (only_valueError_parseInt _) fun _ => only_ok _

theorem digitValue_lt {c : Char} {d : ℕ} (h : digitValue c = some d) : d < 10 := by
  obtain ⟨start, hstart, rfl⟩ := Option.map_eq_some_iff.mp h
  have hfound := List.find?_some hstart
  rw [decide_eq_true_iff] at hfound
  omega

/-- One digit more. -/
theorem lt_of_digit {n m d k : ℕ} (hd : d < 10) (h : m < (n * 10 + d + 1) * 10 ^ k) :
    m < (n + 1) * 10 ^ (k + 1) :=
  calc m < (n * 10 + d + 1) * 10 ^ k := h
    _ ≤ ((n + 1) * 10) * 10 ^ k := Nat.mul_le_mul_right _ (by omega)
    _ = (n + 1) * 10 ^ (k + 1) := by rw [Nat.pow_succ]; ac_rfl

theorem readDigits_lt {n m : ℕ} {s : List Char} (h : readDigits n s = some m) :
    m < (n + 1) * 10 ^ s.length := by
  induction n, s using readDigits.induct generalizing m with
  | case1 n =>
    rw [readDigits] at h
    obtain rfl := Option.some.inj h
    simp
  | case2 n c rest ih =>
    rw [readDigits] at h
    obtain ⟨d, hd, hrest⟩ := Option.bind_eq_some_iff.mp h
    have hlt := lt_of_digit (digitValue_lt hd) (ih d hrest)
    calc m < (n + 1) * 10 ^ (rest.length + 1) := hlt
      _ ≤ (n + 1) * 10 ^ (rest.length + 1 + 1) :=
        Nat.mul_le_mul_left _ (Nat.pow_le_pow_right (by omega) (by omega))
  | case3 n c rest hne ih =>
    rw [readDigits.eq_3 _ _ _ hne] at h
    obtain ⟨d, hd, hrest⟩ := Option.bind_eq_some_iff.mp h
    exact lt_of_digit (digitValue_lt hd) (ih d hrest)

theorem readNat_lt {m : ℕ} {s : List Char} (h : readNat s = some m) : m < 10 ^ s.length := by
  cases s with
  | nil => cases h
  | cons c rest =>
    obtain ⟨d, hd, hrest⟩ := Option.bind_eq_some_iff.mp h
    have hlt := readDigits_lt hrest
    have hdigit := digitValue_lt hd
    calc m < (d + 1) * 10 ^ rest.length := hlt
      _ ≤ 10 * 10 ^ rest.length := Nat.mul_le_mul_right _ (by omega)
      _ = 10 ^ (rest.length + 1) := by rw [Nat.pow_succ, Nat.mul_comm]

theorem length_strip_le (s : List Char) : (strip s).length ≤ s.length := by
  rw [strip, List.length_reverse]
  refine (List.dropWhile_sublist _).length_le.trans ?_
  rw [List.length_reverse]
  exact (List.dropWhile_sublist _).length_le

/-- Two characters make no number over 99. -/
theorem parseInt_le {s : List Char} {n : ℤ} (hlen : s.length ≤ 2) (h : parseInt s = .ok n) :
    n ≤ 99 := by
  have hlt : ∀ {m : ℕ} {rest : List Char}, rest.length ≤ 2 → readNat rest = some m → m ≤ 99 := by
    intro m rest hrest hm
    have hm := readNat_lt hm
    have hpow : 10 ^ rest.length ≤ 10 ^ 2 := Nat.pow_le_pow_right (by omega) hrest
    omega
  have hstrip := (length_strip_le s).trans hlen
  rw [parseInt, readInt] at h
  cases hs : strip s with
  | nil =>
    rw [hs] at h
    cases h
  | cons c rest =>
    rw [hs] at h hstrip
    rw [List.length_cons] at hstrip
    split at h
    · rename_i m hm
      obtain rfl := Except.ok.inj h
      split at hm
      · rename_i heq
        obtain ⟨k, hk, rfl⟩ := Option.map_eq_some_iff.mp hm
        omega
      · rename_i heq
        obtain ⟨-, rfl⟩ := List.cons.inj heq
        obtain ⟨k, hk, rfl⟩ := Option.map_eq_some_iff.mp hm
        have hk := hlt (by omega) hk
        omega
      · obtain ⟨k, hk, rfl⟩ := Option.map_eq_some_iff.mp hm
        have hk := hlt (by rw [List.length_cons]; omega) hk
        omega
    · cases h

theorem overflow_bounds {last n : ℤ} (h : n ≤ 99) (hlast : last ≤ 99) :
    0 ≤ overflow last n ∧ overflow last n ≤ 99 - last := by
  rw [overflow]
  by_cases hlt : last < n
  · rw [if_pos hlt]
    omega
  · rw [if_neg hlt]
    omega

/-- **What is cut off** is less than four days. -/
theorem TimeOffset.bounds_of_tryFixTimeOverflow {time fixedTime : List Char} {offset : TimeOffset}
    (h : tryFixTimeOverflow time = .ok (fixedTime, offset)) :
    0 ≤ offset.timedelta ∧ offset.timedelta < 4 * DateTime.microsPerDay := by
  rw [tryFixTimeOverflow] at h
  cases hhour : parseInt (time.take 2) with
  | error e =>
    rw [hhour] at h
    cases h
  | ok hour =>
    cases hminute : parseInt ((time.drop 3).take 2) with
    | error e =>
      rw [hhour, hminute] at h
      cases h
    | ok minute =>
      cases hsecond : parseInt ((time.drop 6).take 2) with
      | error e =>
        rw [hhour, hminute, hsecond] at h
        cases h
      | ok second =>
        rw [hhour, hminute, hsecond] at h
        cases h
        have h₁ := overflow_bounds (parseInt_le (List.length_take_le _ _) hhour)
          (show (23 : ℤ) ≤ 99 by decide)
        have h₂ := overflow_bounds (parseInt_le (List.length_take_le _ _) hminute)
          (show (59 : ℤ) ≤ 99 by decide)
        have h₃ := overflow_bounds (parseInt_le (List.length_take_le _ _) hsecond)
          (show (59 : ℤ) ≤ 99 by decide)
        have hseconds : 0 ≤ overflow 23 hour * 3600 + overflow 59 minute * 60 + overflow 59 second ∧
            overflow 23 hour * 3600 + overflow 59 minute * 60 + overflow 59 second < 4 * 86400 := by
          omega
        refine ⟨Int.mul_nonneg hseconds.1 (by decide), ?_⟩
        exact Int.mul_lt_mul_of_pos_right hseconds.2 (show (0 : ℤ) < 1000000 by decide)

end Onvif
