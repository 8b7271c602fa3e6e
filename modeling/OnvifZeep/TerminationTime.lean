/-
`ONVIFCamera.get_next_termination_time`: the two ways to say when a subscription ends.

Where the timestamps of the device are known to be broken the camera sends the moment itself, as
`YYYY-MM-DDTHH:MM:SSZ` on the clock of the device; otherwise it sends `PT<n>S`, which the device
counts from its own clock.

`int(duration.total_seconds())` drops the fraction of a double, which may be the next whole second
where doubles are more than two microseconds apart.

* **`pythonvalue_absolute`** — the moment sent is read back to the second;
* **`getNextTerminationTime_relative`** — the seconds that are sent;
* **`not_roundsUp_of_lt`** — they are those of the duration for some 544 years;
* **`encodings_agree_iff`** — when both stand for one expiry.
-/
import OnvifZeep.CalendarText
import OnvifZeep.TimestampRepair
import OnvifZeep.Client

namespace Onvif

namespace TerminationTime

open TimestampRepair

/-- What is assumed of the libraries: words have no blanks to collapse, and ciso8601 reads
`YYYY-MM-DDTHH:MM:SSZ` exactly. -/
structure ReadsZulu (P : Parsers) : Prop where
  collapse_word : ∀ w, Word w → P.collapse w = w
  ciso8601 : ∀ d t, t.InRange → t.fraction = [] → t.zone = .utc →
    P.ciso8601 (timestamp d ['T'] t) = .ok (moment d t)

theorem readsZulu_of_conforming {P : Parsers} (hP : Conforming P) : ReadsZulu P where
  collapse_word := hP.collapse_word
  ciso8601 d t ht _ _ := (hP.ciso8601 d).inRange t ht

/-- `PT<n>S`, a duration of whole seconds. -/
def DenotesSeconds (text : String) (counted : TimeDelta) : Prop :=
  ∃ digits : List Char, digits ≠ [] ∧ (∀ c ∈ digits, c.isDigit) ∧
    text.toList = 'P' :: 'T' :: digits ++ ['S'] ∧
    counted = TimeDelta.ofSeconds (Nat.ofDigitChars 10 digits 0)

/-- A reading of the years 1 to 9999. -/
def Representable (wall : ℤ) : Prop := 0 ≤ wall ∧ wall < DateTime.maxWall

instance (wall : ℤ) : Decidable (Representable wall) := inferInstanceAs (Decidable (_ ∧ _))

/-- The clock of the device, as the camera reckons it. -/
def deviceClock (s : ONVIFCamera) : ℤ := s.now + s.dtDiff.getD 0

/-- When a subscription of the given duration ends, on the clock of the device. -/
def expiry (s : ONVIFCamera) (duration : TimeDelta) : ℤ :=
  s.now + duration + s.dtDiff.getD 0

theorem add_of_representable {d : DateTime} {t : TimeDelta}
    (h : Representable (d.wall + t)) : d.add t = .ok { d with wall := d.wall + t } :=
  if_pos h

/-! ### The moment -/

/-- **A whole second in Zulu time** is read exactly. -/
theorem pythonvalue_absolute {P : Parsers} (hP : ReadsZulu P) {wall : ℤ} (hwall : Representable wall) :
    FastDateTime.pythonvalue P
        (replaceStr (DateTime.isoformatSeconds ⟨wall, some 0⟩) "+00:00" "Z").toList
      = .ok ⟨wholeSecond wall, some 0⟩ := by
  obtain ⟨d, hymd, hmidnight⟩ := exists_dateOf hwall
  have htext : (replaceStr (DateTime.isoformatSeconds ⟨wall, some 0⟩) "+00:00" "Z").toList
      = timestamp d ['T'] (timeOf wall .utc) := isoformatZulu_eq hymd
  have hmoment : moment d (timeOf wall .utc) = ⟨wholeSecond wall, some 0⟩ := by
    rw [moment, hmidnight, duration_timeOf, add_sub_cancel]
    rfl
  have hword : Word (timestamp d ['T'] (timeOf wall .utc)) := by
    refine ⟨List.cons_ne_nil _ _, fun c hc => ?_⟩
    rcases List.mem_append.mp hc with hc | hc
    · rcases List.mem_append.mp hc with hc | hc
      · exact (word_date d).2 c hc
      · rw [List.mem_singleton.mp hc]
        decide
    · exact (word_time _).2 c hc
  -- nothing is repaired: the separator is in place, and ciso8601 reads the text
  have hrepaired : fixSeparator (fixDashes (P.collapse (timestamp d ['T'] (timeOf wall .utc))))
      = timestamp d ['T'] (timeOf wall .utc) := by
    rw [hP.collapse_word _ hword, fixDashes_timestamp d (by decide), fixSeparator_T]
  rw [htext]
  refine pythonvalue_of_read hrepaired (tryParseDatetime_of_ok (Or.inl ?_))
  rw [hP.ciso8601 d _ (inRange_timeOf wall .utc) rfl rfl, hmoment]

/-- The moment that is sent where timestamps are broken. -/
theorem getNextTerminationTime_broken {s : ONVIFCamera} {duration : TimeDelta}
    (hbroken : s.hasBrokenRelativeTimestamps = true)
    (hsum : Representable (s.now + duration)) (hexpiry : Representable (expiry s duration)) :
    s.getNextTerminationTime duration
      = .ok (replaceStr (DateTime.isoformatSeconds ⟨expiry s duration, some 0⟩) "+00:00" "Z") := by
  have hnow : s.utcnow.add duration = .ok ⟨s.now + duration, some 0⟩ :=
    add_of_representable hsum
  rw [ONVIFCamera.getNextTerminationTime, hbroken, hnow]
  rw [expiry] at hexpiry ⊢
  rcases hdiff : s.dtDiff with _ | dtDiff
  · rw [Option.getD_none, add_zero]
    rfl
  · rw [hdiff, Option.getD_some] at hexpiry
    have hadd : (DateTime.mk (s.now + duration) (some 0)).add dtDiff
        = .ok ⟨s.now + duration + dtDiff, some 0⟩ := add_of_representable hexpiry
    by_cases hzero : dtDiff = 0
    · simp [hzero]
      rfl
    · simp only [Bool.not_true, Bool.false_eq_true, if_false, hzero]
      show (DateTime.add ⟨s.now + duration, some 0⟩ dtDiff >>= _) = _
      rw [hadd]
      rfl

/-! ### The seconds -/

/-- The next whole second is within half the spacing of the doubles around the duration, so that
`total_seconds()` is rounded up to it. -/
def RoundsUp (duration : TimeDelta) : Prop :=
  ((duration / 1000000 : ℤ) : ℚ) + 1 - Binary64.unit (TimeDelta.totalSeconds duration) / 2
    ≤ TimeDelta.totalSeconds duration

instance (duration : TimeDelta) : Decidable (RoundsUp duration) :=
  inferInstanceAs (Decidable (_ ≤ _))

theorem floor_totalSeconds (duration : TimeDelta) :
    ⌊TimeDelta.totalSeconds duration⌋ = duration / 1000000 :=
  Rat.floor_intCast_div_natCast duration 1000000

theorem totalSeconds_nonneg {duration : ℤ} (h : 0 ≤ duration) :
    0 ≤ TimeDelta.totalSeconds duration :=
  div_nonneg (by exact_mod_cast h) (by norm_num)

theorem totalSeconds_lt {duration : ℤ} {k : ℕ} (h : duration < 2 ^ k * 1000000) :
    TimeDelta.totalSeconds duration < 2 ^ k := by
  rw [TimeDelta.totalSeconds, div_lt_iff₀ (by norm_num)]
  exact_mod_cast h

/-- **A duration below `2 ^ 34` seconds**, some 544 years, is not rounded up: the doubles are
then less than two microseconds apart. -/
theorem not_roundsUp_of_lt {duration : ℤ} (hduration : 0 ≤ duration)
    (hlt : duration < 2 ^ 34 * 1000000) : ¬RoundsUp duration := by
  have hseconds := totalSeconds_lt hlt
  have hunit : Binary64.unit (TimeDelta.totalSeconds duration) ≤ 2 ^ 33 / 2 ^ 52 := by
    apply Binary64.unit_le
    rwa [abs_of_nonneg (totalSeconds_nonneg hduration)]
  -- the last microsecond before the next second
  have hlast : duration + 1 ≤ (duration / 1000000 + 1) * 1000000 := by omega
  have hlast' : (duration : ℚ) + 1 ≤ (((duration / 1000000 : ℤ) : ℚ) + 1) * 1000000 := by
    exact_mod_cast hlast
  rw [RoundsUp, TimeDelta.totalSeconds, not_le] at *
  linarith

/-- The whole seconds that `int(duration.total_seconds())` counts. -/
def sentSeconds (duration : TimeDelta) : ℤ :=
  duration / 1000000 + if RoundsUp duration then 1 else 0

theorem truncate_totalSecondsDouble {duration : ℤ} (hduration : 0 ≤ duration)
    (hlt : duration < 2 ^ 52 * 1000000) :
    Binary64.truncate (TimeDelta.totalSecondsDouble duration) = sentSeconds duration := by
  have hnonneg := totalSeconds_nonneg hduration
  rw [Binary64.truncate, TimeDelta.totalSecondsDouble, if_pos (Binary64.nearest_nonneg hnonneg),
    Binary64.floor_nearest hnonneg (totalSeconds_lt hlt), floor_totalSeconds, sentSeconds]
  by_cases hup : RoundsUp duration
  · rw [if_pos hup]
    exact if_pos hup
  · rw [if_neg hup, add_zero]
    exact if_neg hup

theorem sentSeconds_nonneg {duration : ℤ} (h : 0 ≤ duration) : 0 ≤ sentSeconds duration := by
  rw [sentSeconds]
  split <;> omega

/-- The years 1 to 9999 are far shorter than `2 ^ 52` seconds. -/
theorem lt_of_representable {wall duration : ℤ} (h : Representable wall)
    (hsum : Representable (wall + duration)) : duration < 2 ^ 52 * 1000000 := by
  have hlow := h.1
  have hhigh := hsum.2
  rw [DateTime.maxWall, DateTime.microsPerDay] at hhigh
  omega

/-- What is sent where timestamps are not broken. -/
theorem getNextTerminationTime_relative {s : ONVIFCamera} {duration : ℤ}
    (hbroken : s.hasBrokenRelativeTimestamps = false) (hduration : 0 ≤ duration)
    (hlt : duration < 2 ^ 52 * 1000000) :
    s.getNextTerminationTime duration = .ok ("PT" ++ toString (sentSeconds duration) ++ "S") := by
  rw [← truncate_totalSecondsDouble hduration hlt, ONVIFCamera.getNextTerminationTime, hbroken]
  rfl

theorem denotes_relative {seconds : ℤ} (h : 0 ≤ seconds) :
    DenotesSeconds ("PT" ++ toString seconds ++ "S") (TimeDelta.ofSeconds seconds) := by
  obtain ⟨n, rfl⟩ := Int.eq_ofNat_of_zero_le h
  have hdigits : (toString (n : ℤ)).toList = Nat.toDigits 10 n := Nat.toList_repr
  refine ⟨Nat.toDigits 10 n, Nat.toDigits_ne_nil,
    fun c hc => Nat.isDigit_of_mem_toDigits (by decide) (by decide) hc, ?_, ?_⟩
  · rw [String.toList_append, String.toList_append, hdigits]
    rfl
  · rw [Nat.ofDigitChars_ten_toDigits]

/-- A text denotes one duration. -/
theorem DenotesSeconds.unique {text : String} {counted counted' : TimeDelta}
    (h : DenotesSeconds text counted) (h' : DenotesSeconds text counted') : counted = counted' := by
  obtain ⟨digits, -, -, htext, rfl⟩ := h
  obtain ⟨digits', -, -, htext', rfl⟩ := h'
  have hsame : ['P', 'T'] ++ (digits ++ ['S']) = ['P', 'T'] ++ (digits' ++ ['S']) :=
    htext.symm.trans htext'
  rw [List.append_cancel_right (List.append_cancel_left hsame)]

/-! ### The expiry -/

/-- Both encodings denote the expiry: the moment is read as its whole second, and the seconds,
counted by the device, end within one second of that. -/
def EncodingsAgree (P : Parsers) (s : ONVIFCamera) (duration : TimeDelta) : Prop :=
  (s.hasBrokenRelativeTimestamps = true → ∃ text,
    s.getNextTerminationTime duration = .ok text ∧
    FastDateTime.pythonvalue P text.toList
      = .ok ⟨wholeSecond (expiry s duration), some 0⟩) ∧
  (s.hasBrokenRelativeTimestamps = false → ∃ text counted,
    s.getNextTerminationTime duration = .ok text ∧ DenotesSeconds text counted ∧
    |deviceClock s + counted - wholeSecond (expiry s duration)| ≤ 1000000)

/-- The seconds end within one second of the expiry unless they were rounded up and the
fractions of clock and duration do not make up for it. -/
theorem sentSeconds_near_iff (clock : ℤ) (duration : TimeDelta) :
    |clock + TimeDelta.ofSeconds (sentSeconds duration) - wholeSecond (clock + duration)| ≤ 1000000
      ↔ ¬RoundsUp duration ∨ clock % 1000000 = 0 ∨
        1000000 ≤ clock % 1000000 + duration % 1000000 := by
  rw [abs_le, wholeSecond, TimeDelta.ofSeconds, sentSeconds]
  by_cases hup : RoundsUp duration
  · simp only [hup, if_true, not_true_eq_false, false_or]
    omega
  · simp only [hup, if_false, not_false_eq_true, true_or, iff_true]
    omega

/-- **The two encodings denote the same expiry** unless the seconds are sent, were rounded up, and
the fractions of clock and duration do not make up for that. -/
theorem encodings_agree_iff (P : Parsers) (hP : ReadsZulu P) (s : ONVIFCamera)
    (duration : TimeDelta) (hduration : 0 ≤ duration) (hnow : Representable s.now)
    (hsum : Representable (s.now + duration)) (hexpiry : Representable (expiry s duration)) :
    EncodingsAgree P s duration ↔
      s.hasBrokenRelativeTimestamps = true ∨ ¬RoundsUp duration ∨
        deviceClock s % 1000000 = 0 ∨
        1000000 ≤ deviceClock s % 1000000 + duration % 1000000 := by
  cases hbroken : s.hasBrokenRelativeTimestamps with
  | true =>
    refine iff_of_true ⟨fun _ => ?_, fun h => absurd (hbroken.symm.trans h) (by decide)⟩ (Or.inl rfl)
    exact ⟨_, getNextTerminationTime_broken hbroken hsum hexpiry, pythonvalue_absolute hP hexpiry⟩
  | false =>
    have hsent := getNextTerminationTime_relative hbroken hduration (lt_of_representable hnow hsum)
    have hdenotes := denotes_relative (sentSeconds_nonneg hduration)
    have hsame : expiry s duration = deviceClock s + duration := by
      rw [expiry, deviceClock]
      exact add_right_comm _ _ _
    rw [or_iff_right Bool.false_ne_true, ← sentSeconds_near_iff, ← hsame]
    constructor
    · rintro ⟨-, hrelative⟩
      obtain ⟨text, counted, htext, hcounted, hnear⟩ := hrelative hbroken
      obtain rfl := Except.ok.inj (hsent.symm.trans htext)
      rwa [hdenotes.unique hcounted]
    · intro hnear
      exact ⟨fun h => absurd (hbroken.symm.trans h) (by decide),
        fun _ => ⟨_, _, hsent, hdenotes, hnear⟩⟩

/-- The start of the year 2024. -/
def newYear : ℤ := ((ymd2ord 2024 1 1 : ℤ) - 1) * DateTime.microsPerDay

/-- 7900 years of 365 days, and ten microseconds less than a second. -/
def centuries : TimeDelta := 7900 * 365 * DateTime.microsPerDay + 999990

/-- A camera some time into the year, with the offset of its clock. -/
def cameraAt (fraction : ℤ) (dtDiff : Option TimeDelta) : ONVIFCamera :=
  { ONVIFCamera.localCamera with now := newYear + fraction, dtDiff := dtDiff }

/-- Five microseconds into the year the seconds sent for the centuries end more than a second
after the expiry. -/
theorem encodings_disagree_centuries :
    ReadsZulu isoParsers ∧ 0 ≤ centuries ∧ Representable (cameraAt 5 none).now ∧
    Representable ((cameraAt 5 none).now + centuries) ∧
    Representable (expiry (cameraAt 5 none) centuries) ∧
    (cameraAt 5 none).getNextTerminationTime centuries = .ok "PT249134400001S" ∧
    deviceClock (cameraAt 5 none) + TimeDelta.ofSeconds 249134400001
      - wholeSecond (expiry (cameraAt 5 none) centuries) = 1000005 ∧
    ¬EncodingsAgree isoParsers (cameraAt 5 none) centuries := by
  have hseconds : Binary64.truncate (TimeDelta.totalSecondsDouble centuries) = 249134400001 := by
    decide +kernel
  have hsent : (cameraAt 5 none).getNextTerminationTime centuries = .ok "PT249134400001S" := by
    rw [ONVIFCamera.getNextTerminationTime, hseconds]
    rfl
  refine ⟨readsZulu_of_conforming conforming_isoParsers, by decide, by decide +kernel,
    by decide +kernel, by decide +kernel, hsent, by decide +kernel, ?_⟩
  rintro ⟨-, hrelative⟩
  obtain ⟨text, counted, htext, hcounted, hnear⟩ := hrelative rfl
  obtain rfl := Except.ok.inj (hsent.symm.trans htext)
  have hdenotes : DenotesSeconds "PT249134400001S" (TimeDelta.ofSeconds 249134400001) :=
    denotes_relative (by decide : (0 : ℤ) ≤ 249134400001)
  rw [← hdenotes.unique hcounted] at hnear
  exact absurd hnear (by decide +kernel)

/-- A minute from the first second of the year, on a device whose clock is five seconds ahead;
and the centuries. -/
theorem encodings_agree_minute :
    EncodingsAgree isoParsers (cameraAt 250000 (some 5000000)) 60000000 ∧
    EncodingsAgree isoParsers
      { cameraAt 250000 (some 5000000) with hasBrokenRelativeTimestamps := true } 60000000 ∧
    ¬EncodingsAgree isoParsers (cameraAt 5 none) centuries ∧
    EncodingsAgree isoParsers (cameraAt 15 none) centuries := by
  have hreads := readsZulu_of_conforming conforming_isoParsers
  have hminute := encodings_agree_iff isoParsers hreads (cameraAt 250000 (some 5000000)) 60000000
    (by decide) (by decide +kernel) (by decide +kernel) (by decide +kernel)
  have hbroken := encodings_agree_iff isoParsers hreads
    { cameraAt 250000 (some 5000000) with hasBrokenRelativeTimestamps := true } 60000000
    (by decide) (by decide +kernel) (by decide +kernel) (by decide +kernel)
  have hcenturies := fun fraction => encodings_agree_iff isoParsers hreads (cameraAt fraction none)
    centuries (by decide)
  refine ⟨hminute.mpr (Or.inr (Or.inl (not_roundsUp_of_lt (by decide) (by decide)))),
    hbroken.mpr (Or.inl rfl), ?_, ?_⟩
  · rw [hcenturies 5 (by decide +kernel) (by decide +kernel) (by decide +kernel)]
    decide +kernel
  · rw [hcenturies 15 (by decide +kernel) (by decide +kernel) (by decide +kernel)]
    decide +kernel

end TerminationTime

end Onvif
