/-
Repairing timestamps: what `types.py` makes of a date and a time with overflowing fields.

The theorems are about every date, time, fraction and zone, and rest on what ciso8601 and isodate
document (`Conforming`): fields in range are read exactly, others raise `ValueError`, and 24:00:00
may be read as the midnight it stands for.

* **`overflow_repair_exact`** — the value read is midnight plus all the fields;
* **`separator_immaterial_iff`** — when the separator between date and time makes no difference.
-/
import Mathlib.Data.List.TakeWhile
import Mathlib.Order.Fin.Basic
import OnvifZeep.IsoParsers

namespace Onvif

namespace TimestampRepair

variable {α : Type} {P : Parsers} {d : CalendarDate} {t : TimeString}

/-! ### Reading with both parsers -/

/-- One of the parsers reads the value. -/
theorem tryParseDatetime_of_ok {s : List Char} {dt : DateTime}
    (h : P.ciso8601 s = .ok dt ∨ RaisesValueError (P.ciso8601 s) ∧ P.isodateDatetime s = .ok dt) :
    tryParseDatetime P s = .ok (some dt) := by
  rw [tryParseDatetime]
  rcases h with hread | ⟨hraises, hread⟩
  · rw [hread]
    rfl
  · rw [unlessValueError_of_raises hraises, hread]
    rfl

theorem tryParseDatetime_of_raises {s : List Char} (h : RaisesValueError (P.ciso8601 s))
    (h' : RaisesValueError (P.isodateDatetime s)) : tryParseDatetime P s = .ok none := by
  rw [tryParseDatetime, unlessValueError_of_raises h]
  exact unlessValueError_of_raises h'

/-! ### Clamping the fields -/

/-- The time with each field at most its last value. -/
def clamped (t : TimeString) : TimeString :=
  { t with hour := min t.hour 23, minute := min t.minute 59, second := min t.second 59 }

/-- What clamping cuts off. -/
def cutOff (t : TimeString) : TimeOffset where
  hours := overflow 23 t.hour
  minutes := overflow 59 t.minute
  seconds := overflow 59 t.second

theorem parseInt_twoDigits (n : Fin 100) : parseInt (twoDigits n) = .ok (n.val : ℤ) := by
  have hread : ∀ n : Fin 100, readInt (twoDigits n) = some (n.val : ℤ) := by decide +kernel
  rw [parseInt, hread n]

theorem format02_clamp_hour : ∀ n : Fin 100, format02 (clamp 23 n) = twoDigits (min n 23).val := by
  decide +kernel

theorem format02_clamp : ∀ n : Fin 100, format02 (clamp 59 n) = twoDigits (min n 59).val := by
  decide +kernel

/-- **Repairing a time** clamps its fields. -/
theorem tryFixTimeOverflow_str (t : TimeString) :
    tryFixTimeOverflow t.str = .ok ((clamped t).str, cutOff t) := by
  have hhour : parseInt (t.str.take 2) = .ok (t.hour.val : ℤ) := parseInt_twoDigits t.hour
  have hminute : parseInt ((t.str.drop 3).take 2) = .ok (t.minute.val : ℤ) :=
    parseInt_twoDigits t.minute
  have hsecond : parseInt ((t.str.drop 6).take 2) = .ok (t.second.val : ℤ) :=
    parseInt_twoDigits t.second
  have htrailer : t.str.drop 8 = t.trailer := rfl
  rw [tryFixTimeOverflow, hhour, hminute, hsecond, htrailer]
  simp only [bind, Except.bind, pure, Except.pure, format02_clamp_hour, format02_clamp,
    List.append_assoc, List.cons_append]
  rfl

theorem clamped_inRange (t : TimeString) : (clamped t).InRange := by
  have hle : ∀ last n : Fin 100, (min n last).val ≤ last.val := fun last n => min_le_right n last
  exact ⟨hle 23 t.hour, hle 59 t.minute, hle 59 t.second⟩

/-- **Nothing is lost**: the clamped time and what was cut off make up the time. -/
theorem clamped_duration (t : TimeString) :
    (clamped t).duration + (cutOff t).timedelta = t.duration := by
  have hhour : ∀ n : Fin 100, ((min n 23).val : ℤ) + overflow 23 n = n.val := by decide +kernel
  have hsixty : ∀ n : Fin 100, ((min n 59).val : ℤ) + overflow 59 n = n.val := by decide +kernel
  show (((min t.hour 23).val : ℤ) * 3600 + (min t.minute 59).val * 60 + (min t.second 59).val)
      * 1000000 + t.micros + (overflow 23 t.hour * 3600 + overflow 59 t.minute * 60 +
        overflow 59 t.second) * 1000000
    = ((t.hour.val : ℤ) * 3600 + t.minute.val * 60 + t.second.val) * 1000000 + t.micros
  have h₁ := hhour t.hour
  have h₂ := hsixty t.minute
  have h₃ := hsixty t.second
  omega

/-! ### Text in normal form -/

theorem isSpace_of_mem_isoChars {c : Char} (h : c ∈ isoChars) : isSpace c = false := by
  have hall : isoChars.all (fun c => !isSpace c) = true := by decide
  exact (Bool.not_eq_true' _).mp (List.all_eq_true.mp hall c h)

theorem ne_of_mem_isoChars {c c' : Char} (h : c ∈ isoChars) (h' : c' ∉ isoChars) : c ≠ c' :=
  fun heq => h' (heq ▸ h)

theorem word_date (d : CalendarDate) : Word d.str :=
  ⟨List.cons_ne_nil _ _, fun _ hc => isSpace_of_mem_isoChars (d.str_subset hc)⟩

theorem word_time (t : TimeString) : Word t.str :=
  ⟨List.cons_ne_nil _ _, fun _ hc => isSpace_of_mem_isoChars (t.str_subset hc)⟩

/-- A timestamp is collapsed already. -/
theorem collapse_timestamp (hP : Conforming P) {separator : List Char}
    (hseparator : ∀ c ∈ separator, isSpace c = false) :
    P.collapse (timestamp d separator t) = timestamp d separator t := by
  refine hP.collapse_word _ ⟨List.cons_ne_nil _ _, fun c hc => ?_⟩
  rcases List.mem_append.mp hc with hc | hc
  · rcases List.mem_append.mp hc with hc | hc
    · exact (word_date d).2 c hc
    · exact hseparator c hc
  · exact (word_time t).2 c hc

theorem collapse_blank (hP : Conforming P) :
    P.collapse (timestamp d [' '] t) = timestamp d [' '] t :=
  hP.collapse_words _ _ (word_date d) (word_time t)

theorem length_timestamp (d : CalendarDate) (c : Char) (t : TimeString) :
    (timestamp d [c] t).length = 11 + t.str.length := by
  rw [timestamp, List.length_append, List.length_append, d.length_str]
  rfl

/-- The time begins with a digit. -/
theorem head_str_ne_dash (t : TimeString) : digit (t.hour.val / 10) ≠ '-' := by
  have hne : ∀ n : Fin 100, digit (n.val / 10) ≠ '-' := by decide
  exact hne t.hour

/-- A separator that is no dash stays. -/
theorem fixDashes_timestamp (d : CalendarDate) {c : Char} (hc : c ≠ '-') (t : TimeString) :
    fixDashes (timestamp d [c] t) = timestamp d [c] t := by
  have hfirst : ¬(10 < (timestamp d [c] t).length ∧ (timestamp d [c] t)[10]? = some '-') :=
    fun h => hc (Option.some.inj h.2)
  have hsecond : ¬(11 < (timestamp d [c] t).length ∧ (timestamp d [c] t)[11]? = some '-') :=
    fun h => head_str_ne_dash t (Option.some.inj h.2)
  rw [fixDashes, if_neg hfirst]
  exact if_neg hsecond

theorem fixDashes_dash (d : CalendarDate) (t : TimeString) :
    fixDashes (timestamp d ['-'] t) = timestamp d ['T'] t := by
  have hfirst : 10 < (timestamp d ['-'] t).length ∧ (timestamp d ['-'] t)[10]? = some '-' := by
    rw [length_timestamp]
    exact ⟨by omega, rfl⟩
  have hfixed : (timestamp d ['-'] t).take 10 ++ 'T' :: (timestamp d ['-'] t).drop 11
      = timestamp d ['T'] t := rfl
  have hsecond : ¬(11 < (timestamp d ['T'] t).length ∧ (timestamp d ['T'] t)[11]? = some '-') :=
    fun h => head_str_ne_dash t (Option.some.inj h.2)
  rw [fixDashes, if_pos hfirst, hfixed]
  exact if_neg hsecond

theorem fixDashes_stray (d : CalendarDate) (t : TimeString) :
    fixDashes (timestamp d ['T', '-'] t) = timestamp d ['T'] t := by
  have hfirst : ¬(10 < (timestamp d ['T', '-'] t).length ∧
      (timestamp d ['T', '-'] t)[10]? = some '-') :=
    fun h => absurd (Option.some.inj h.2) (show 'T' ≠ '-' by decide)
  have hlength : 11 < (timestamp d ['T', '-'] t).length := by
    rw [timestamp, List.length_append, List.length_append, d.length_str]
    show 11 < 10 + 2 + _
    omega
  have hfixed : (timestamp d ['T', '-'] t).take 11 ++ (timestamp d ['T', '-'] t).drop 12
      = timestamp d ['T'] t := rfl
  rw [fixDashes, if_neg hfirst]
  exact (if_pos ⟨hlength, rfl⟩).trans hfixed

theorem fixSeparator_T (d : CalendarDate) (t : TimeString) :
    fixSeparator (timestamp d ['T'] t) = timestamp d ['T'] t := by
  have hlength : (timestamp d ['T'] t).length ≠ 10 := by
    rw [length_timestamp]
    omega
  rw [fixSeparator, if_neg hlength]
  exact if_neg fun h => absurd (Option.some.inj h.2) (show 'T' ≠ ' ' by decide)

/-- Whether `fixSeparator` looks for a blank, which it does by the length of the time. -/
def ReplacesBlank (t : TimeString) : Prop := t.str.length ∈ [8, 9, 15]

instance (t : TimeString) : Decidable (ReplacesBlank t) := inferInstanceAs (Decidable (_ ∈ _))

theorem replacesBlank_iff (d : CalendarDate) (t : TimeString) :
    (timestamp d [' '] t).length ∈ [19, 20, 26] ↔ ReplacesBlank t := by
  rw [ReplacesBlank, length_timestamp]
  simp only [List.mem_cons, List.not_mem_nil, or_false]
  omega

theorem map_blank_of_subset {s : List Char} (h : s ⊆ isoChars) :
    (s.map fun c => if c = ' ' then 'T' else c) = s := by
  have hblank : ' ' ∉ isoChars := by decide
  exact (List.map_congr_left fun c hc => if_neg (ne_of_mem_isoChars (h hc) hblank)).trans
    (List.map_id s)

theorem fixSeparator_blank (d : CalendarDate) (t : TimeString) :
    fixSeparator (timestamp d [' '] t)
      = if ReplacesBlank t then timestamp d ['T'] t else timestamp d [' '] t := by
  have hlength : (timestamp d [' '] t).length ≠ 10 := by
    rw [length_timestamp]
    omega
  have hblank : (timestamp d [' '] t)[10]? = some ' ' := rfl
  rw [fixSeparator, if_neg hlength]
  by_cases h : ReplacesBlank t
  · rw [if_pos ⟨(replacesBlank_iff d t).mpr h, hblank⟩, if_pos h, timestamp, List.map_append,
      List.map_append, map_blank_of_subset d.str_subset, map_blank_of_subset t.str_subset]
    rfl
  · rw [if_neg fun h' => h ((replacesBlank_iff d t).mp h'.1), if_neg h]

/-! ### Reading a timestamp -/

theorem pythonvalue_of_read {s value : List Char} {dt : DateTime}
    (hvalue : fixSeparator (fixDashes (P.collapse s)) = value)
    (hread : tryParseDatetime P value = .ok (some dt)) : FastDateTime.pythonvalue P s = .ok dt := by
  rw [FastDateTime.pythonvalue, hvalue, hread]
  rfl

theorem pythonvalue_of_repaired {s value repaired : List Char} {offset : TimeOffset} {dt : DateTime}
    (hvalue : fixSeparator (fixDashes (P.collapse s)) = value)
    (hread : tryParseDatetime P value = .ok none)
    (hrepair : repairOverflow value = .ok (repaired, offset))
    (hagain : tryParseDatetime P repaired = .ok (some dt)) :
    FastDateTime.pythonvalue P s = dt.add offset.timedelta := by
  rw [FastDateTime.pythonvalue, hvalue, hread]
  show (unlessValueError (repairOverflow value) >>= _) = _
  rw [hrepair]
  show (tryParseDatetime P repaired >>= _) = _
  rw [hagain]
  rfl

theorem pythonvalue_of_unread {s value repaired : List Char} {offset : TimeOffset}
    (hvalue : fixSeparator (fixDashes (P.collapse s)) = value)
    (hread : tryParseDatetime P value = .ok none)
    (hrepair : repairOverflow value = .ok (repaired, offset))
    (hagain : tryParseDatetime P repaired = .ok none) :
    FastDateTime.pythonvalue P s = P.ciso8601 value := by
  rw [FastDateTime.pythonvalue, hvalue, hread]
  show (unlessValueError (repairOverflow value) >>= _) = _
  rw [hrepair]
  show (tryParseDatetime P repaired >>= _) = _
  rw [hagain]
  rfl

theorem pythonvalue_of_unrepaired {s value : List Char}
    (hvalue : fixSeparator (fixDashes (P.collapse s)) = value)
    (hread : tryParseDatetime P value = .ok none)
    (hrepair : RaisesValueError (repairOverflow value)) :
    FastDateTime.pythonvalue P s = P.ciso8601 value := by
  rw [FastDateTime.pythonvalue, hvalue, hread]
  show (unlessValueError (repairOverflow value) >>= _) = _
  rw [unlessValueError_of_raises hrepair]
  rfl

/-- The sum of a date and the fields of a time, which `datetime` holds up to year 9999. -/
def sumOf (d : CalendarDate) (t : TimeString) : Except Exc DateTime :=
  if d.midnight + t.duration < DateTime.maxWall then .ok (moment d t)
  else .error (.builtin .overflowError "date value out of range")

theorem sumOf_of_lt (h : d.midnight + t.duration < DateTime.maxWall) :
    sumOf d t = .ok (moment d t) := if_pos h

theorem moment_add_cutOff (d : CalendarDate) (t : TimeString) :
    (moment d (clamped t)).add (cutOff t).timedelta = sumOf d t := by
  have hsum : d.midnight + (clamped t).duration + (cutOff t).timedelta
      = d.midnight + t.duration := by
    rw [Int.add_assoc, clamped_duration]
  have hnonneg : 0 ≤ d.midnight + t.duration := Int.add_nonneg d.midnight_nonneg t.duration_nonneg
  show (if 0 ≤ d.midnight + (clamped t).duration + (cutOff t).timedelta ∧
      d.midnight + (clamped t).duration + (cutOff t).timedelta < DateTime.maxWall then
    Except.ok { moment d (clamped t) with
      wall := d.midnight + (clamped t).duration + (cutOff t).timedelta } else _) = _
  rw [hsum, sumOf]
  by_cases h : d.midnight + t.duration < DateTime.maxWall
  · rw [if_pos ⟨hnonneg, h⟩, if_pos h]
    rfl
  · rw [if_neg fun h' => h h'.2, if_neg h]

theorem cutAt_timestamp (d : CalendarDate) (t : TimeString) :
    cutAt 'T' (timestamp d ['T'] t) = (d.str, t.str) := by
  have htext : timestamp d ['T'] t = d.str ++ 'T' :: t.str := by
    rw [timestamp, List.append_assoc]
    rfl
  rw [htext]
  exact cutAt_append (fun c hc => ne_of_mem_isoChars (d.str_subset hc) (by decide)) t.str

theorem repairOverflow_timestamp (d : CalendarDate) (t : TimeString) :
    repairOverflow (timestamp d ['T'] t) = .ok (timestamp d ['T'] (clamped t), cutOff t) := by
  have hdate : d.str ++ 'T' :: (clamped t).str = timestamp d ['T'] (clamped t) := by
    rw [timestamp, List.append_assoc]
    rfl
  rw [repairOverflow, cutAt_timestamp]
  show (tryFixTimeOverflow t.str >>= _) = _
  rw [tryFixTimeOverflow_str, ← hdate]
  rfl

/-- Without a `T` there is no time to repair. -/
theorem repairOverflow_blank (d : CalendarDate) (t : TimeString) :
    RaisesValueError (repairOverflow (timestamp d [' '] t)) := by
  have hall : ∀ c ∈ timestamp d [' '] t, decide (c ≠ 'T') = true := by
    intro c hc
    rcases List.mem_append.mp hc with hc | hc
    · rcases List.mem_append.mp hc with hc | hc
      · exact decide_eq_true (ne_of_mem_isoChars (d.str_subset hc) (by decide))
      · rw [List.mem_singleton.mp hc]
        decide
    · exact decide_eq_true (ne_of_mem_isoChars (t.str_subset hc) (by decide))
  have hdrop : (timestamp d [' '] t).dropWhile (· ≠ 'T') = [] :=
    List.dropWhile_eq_nil_iff.mpr hall
  rw [repairOverflow, cutAt, hdrop]
  exact ⟨_, rfl, _, rfl⟩

/-- **Reading a timestamp** whose normal form has the separator `T` adds up its fields. -/
theorem pythonvalue_timestamp (hP : Conforming P) {s : List Char}
    (hvalue : fixSeparator (fixDashes (P.collapse s)) = timestamp d ['T'] t) :
    FastDateTime.pythonvalue P s = sumOf d t := by
  rcases (hP.ciso8601 d).cases t with hread | ⟨hraises, -⟩
  · rw [sumOf_of_lt (hP.valid _ _ (Or.inl hread))]
    exact pythonvalue_of_read hvalue (tryParseDatetime_of_ok (Or.inl hread))
  · rcases (hP.isodateDatetime d).cases t with hread | ⟨hraises', -⟩
    · rw [sumOf_of_lt (hP.valid _ _ (Or.inr hread))]
      exact pythonvalue_of_read hvalue (tryParseDatetime_of_ok (Or.inr ⟨hraises, hread⟩))
    · have hagain := (hP.ciso8601 d).inRange (clamped t) (clamped_inRange t)
      rw [← moment_add_cutOff d t]
      exact pythonvalue_of_repaired hvalue (tryParseDatetime_of_raises hraises hraises')
        (repairOverflow_timestamp d t) (tryParseDatetime_of_ok (Or.inl hagain))

theorem pythonvalue_T (hP : Conforming P) (d : CalendarDate) (t : TimeString) :
    FastDateTime.pythonvalue P (timestamp d ['T'] t) = sumOf d t := by
  refine pythonvalue_timestamp hP ?_
  rw [collapse_timestamp hP (List.forall_mem_singleton.mpr rfl), fixDashes_timestamp d (by decide),
    fixSeparator_T]

/-! ### Reading a time -/

/-- The date that times are put on. -/
def someDate : CalendarDate := ⟨2024, 1, 15, by decide⟩

theorem someDate_str : someDate.str ++ ['T'] = someDay := by decide

/-- The time of the day of a sum, its date put aside. -/
theorem timetz_moment (d : CalendarDate) (t : TimeString) : (moment d t).timetz = timeOfDay t := by
  have hwall : (d.midnight + t.duration) % DateTime.microsPerDay
      = t.duration % DateTime.microsPerDay := by
    rw [CalendarDate.midnight, Int.add_comm, Int.add_mul_emod_self_right]
  rw [DateTime.timetz, timeOfDay, TimeString.ofDay, ← hwall]
  rfl

theorem duration_lt (t : TimeString) : t.duration < 5 * DateTime.microsPerDay := by
  have hmicros := t.micros_bounds.2
  show (t.hour * 3600 + t.minute * 60 + t.second) * 1000000 + t.micros < (432000000000 : ℤ)
  omega

theorem sumOf_someDate (t : TimeString) : sumOf someDate t = .ok (moment someDate t) := by
  have hmidnight : someDate.midnight + 5 * DateTime.microsPerDay < DateTime.maxWall := by decide
  exact sumOf_of_lt ((Int.add_lt_add_left (duration_lt t) _).trans hmidnight)

theorem pythonvalue_time (hP : Conforming P) (t : TimeString) :
    ForgivingTime.pythonvalue P t.str = .ok (timeOfDay t) := by
  rw [ForgivingTime.pythonvalue, hP.collapse_word _ (word_time t)]
  rcases hP.isodateTime.cases t with hread | ⟨hraises, -⟩
  · rw [hread]
    rfl
  · have hagain := (hP.ciso8601 someDate).inRange (clamped t) (clamped_inRange t)
    rw [timestamp, someDate_str] at hagain
    rw [unlessValueError_of_raises hraises, tryFixTimeOverflow_str]
    show (tryParseDatetime P (someDay ++ (clamped t).str) >>= _) = _
    rw [tryParseDatetime_of_ok (Or.inl hagain)]
    show ((moment someDate (clamped t)).add (cutOff t).timedelta >>= _) = _
    rw [moment_add_cutOff, sumOf_someDate, ← timetz_moment someDate t]
    rfl

/-! ### The sum of the fields -/

/-- **Overflow repair is exact**: a timestamp is read as midnight of its date plus all its fields,
where that lies before year 10000, and a time as the time of the day of that sum. -/
theorem overflow_repair_exact (hP : Conforming P) (d : CalendarDate) (t : TimeString) :
    (d.midnight + t.duration < DateTime.maxWall →
      FastDateTime.pythonvalue P (d.str ++ ['T'] ++ t.str)
        = .ok { wall := d.midnight + t.duration, utcoffset := t.zone.utcoffset }) ∧
    ForgivingTime.pythonvalue P t.str
      = .ok { micros := t.duration % DateTime.microsPerDay, utcoffset := t.zone.utcoffset } :=
  ⟨fun h => (pythonvalue_T hP d t).trans (sumOf_of_lt h), pythonvalue_time hP t⟩

/-- All three fields overflow, at the end of a leap February. -/
def lateTime : TimeString := ⟨25, 61, 99, [5], by decide, .offset true 5 30⟩

theorem overflow_repair_exact_february :
    FastDateTime.pythonvalue isoParsers "2024-02-29T25:61:99.5-05:30".toList
      = .ok
        { wall := ((ymd2ord 2024 3 1 : ℤ) - 1) * DateTime.microsPerDay +
            TimeDelta.ofSeconds (2 * 3600 + 2 * 60 + 39) + 500000
          utcoffset := some (-TimeDelta.ofSeconds (5 * 3600 + 30 * 60)) } ∧
    ForgivingTime.pythonvalue isoParsers "25:61:99.5-05:30".toList
      = .ok
        { micros := TimeDelta.ofSeconds (2 * 3600 + 2 * 60 + 39) + 500000
          utcoffset := some (-TimeDelta.ofSeconds (5 * 3600 + 30 * 60)) } := by
  have hexact := overflow_repair_exact conforming_isoParsers ⟨2024, 2, 29, by decide⟩ lateTime
  exact ⟨hexact.1 (by decide), hexact.2⟩

/-! ### The separator -/

/-- The separators devices write. -/
def separators : List (List Char) := [['T'], [' '], ['-'], ['T', '-']]

/-- All separators give one value, or `ValueError`. -/
def SeparatorImmaterial (P : Parsers) (d : CalendarDate) (t : TimeString) : Prop :=
  (∃ dt, ∀ separator ∈ separators,
    FastDateTime.pythonvalue P (d.str ++ separator ++ t.str) = .ok dt) ∨
  ∀ separator ∈ separators,
    RaisesValueError (FastDateTime.pythonvalue P (d.str ++ separator ++ t.str))

/-- The fields are in range, or ciso8601 reads the end of the day as the midnight after. -/
def ReadDirectly (P : Parsers) (d : CalendarDate) (t : TimeString) : Prop :=
  t.InRange ∨ t.EndOfDay ∧ ∃ dt, P.ciso8601 (d.str ++ ['T'] ++ t.str) = .ok dt

theorem pythonvalue_dash (hP : Conforming P) (d : CalendarDate) (t : TimeString) :
    FastDateTime.pythonvalue P (timestamp d ['-'] t) = sumOf d t := by
  refine pythonvalue_timestamp hP ?_
  rw [collapse_timestamp hP (List.forall_mem_singleton.mpr rfl), fixDashes_dash, fixSeparator_T]

theorem pythonvalue_stray (hP : Conforming P) (d : CalendarDate) (t : TimeString) :
    FastDateTime.pythonvalue P (timestamp d ['T', '-'] t) = sumOf d t := by
  refine pythonvalue_timestamp hP ?_
  have hplain : ∀ c ∈ ['T', '-'], isSpace c = false :=
    List.forall_mem_cons.mpr ⟨rfl, List.forall_mem_singleton.mpr rfl⟩
  rw [collapse_timestamp hP hplain, fixDashes_stray, fixSeparator_T]

theorem normalForm_blank (hP : Conforming P) (d : CalendarDate) (t : TimeString) :
    fixSeparator (fixDashes (P.collapse (timestamp d [' '] t)))
      = if ReplacesBlank t then timestamp d ['T'] t else timestamp d [' '] t := by
  rw [collapse_blank hP, fixDashes_timestamp d (by decide), fixSeparator_blank]

theorem pythonvalue_blank_of_replaces (hP : Conforming P) (d : CalendarDate)
    (h : ReplacesBlank t) : FastDateTime.pythonvalue P (timestamp d [' '] t) = sumOf d t := by
  refine pythonvalue_timestamp hP ?_
  rw [normalForm_blank hP, if_pos h]

/-- ciso8601 reads the timestamp, in either form. -/
theorem ciso8601_of_readDirectly (hP : Conforming P) (h : ReadDirectly P d t) :
    P.ciso8601 (timestamp d ['T'] t) = .ok (moment d t) := by
  rcases h with hrange | ⟨-, dt, hread⟩
  · exact (hP.ciso8601 d).inRange t hrange
  · rcases (hP.ciso8601 d).cases t with hmoment | ⟨⟨e, hraises, -⟩, -⟩
    · exact hmoment
    · cases hraises.symm.trans hread

theorem raises_of_not_readDirectly (hP : Conforming P) (h : ¬ReadDirectly P d t) :
    RaisesValueError (P.ciso8601 (timestamp d ['T'] t)) := by
  have hrange : ¬t.InRange := fun hrange => h (Or.inl hrange)
  rcases (hP.ciso8601 d).outOfRange t hrange with hraises | ⟨hend, hread⟩
  · exact hraises
  · exact absurd (Or.inr ⟨hend, _, hread⟩) h

theorem pythonvalue_blank_of_readDirectly (hP : Conforming P) (hB : AcceptsBlank P)
    (h : ReadDirectly P d t) :
    FastDateTime.pythonvalue P (timestamp d [' '] t) = .ok (moment d t) := by
  have hread := ciso8601_of_readDirectly hP h
  by_cases hreplaces : ReplacesBlank t
  · rw [pythonvalue_blank_of_replaces hP d hreplaces]
    exact sumOf_of_lt (hP.valid _ _ (Or.inl hread))
  · refine pythonvalue_of_read ((normalForm_blank hP d t).trans (if_neg hreplaces)) ?_
    exact tryParseDatetime_of_ok (Or.inl ((hB.ciso8601 d t).trans hread))

/-- A blank that stays hides the time from the repair. -/
theorem raises_blank (hP : Conforming P) (hB : AcceptsBlank P) (h : ¬ReadDirectly P d t)
    (hreplaces : ¬ReplacesBlank t) :
    RaisesValueError (FastDateTime.pythonvalue P (timestamp d [' '] t)) := by
  have hraises : RaisesValueError (P.ciso8601 (timestamp d [' '] t)) := by
    rw [hB.ciso8601]
    exact raises_of_not_readDirectly hP h
  rw [pythonvalue_of_unrepaired ((normalForm_blank hP d t).trans (if_neg hreplaces))
    (tryParseDatetime_of_raises hraises (hB.isodateDatetime d t)) (repairOverflow_blank d t)]
  exact hraises

theorem not_raises_sumOf (d : CalendarDate) (t : TimeString) : ¬RaisesValueError (sumOf d t) := by
  rintro ⟨e, hsum, message, rfl⟩
  rw [sumOf] at hsum
  by_cases h : d.midnight + t.duration < DateTime.maxWall
  · rw [if_pos h] at hsum
    cases hsum
  · rw [if_neg h] at hsum
    cases hsum

theorem lt_of_sumOf {dt : DateTime} (h : sumOf d t = .ok dt) :
    d.midnight + t.duration < DateTime.maxWall := by
  by_contra hge
  rw [sumOf, if_neg hge] at h
  cases h

/-- **The separator does not matter** exactly where ciso8601 reads the time itself, or the blank
is replaced and the sum of the fields lies before year 10000. -/
theorem separator_immaterial_iff (hP : Conforming P) (hB : AcceptsBlank P) (d : CalendarDate)
    (t : TimeString) :
    SeparatorImmaterial P d t ↔
      ReadDirectly P d t ∨
        t.str.length ∈ [8, 9, 15] ∧ d.midnight + t.duration < DateTime.maxWall := by
  have hT := pythonvalue_T hP d t
  have hdash := pythonvalue_dash hP d t
  have hstray := pythonvalue_stray hP d t
  constructor
  · rintro (⟨dt, hvalue⟩ | hraises)
    · by_cases hdirect : ReadDirectly P d t
      · exact Or.inl hdirect
      · refine Or.inr ⟨?_, lt_of_sumOf (hT.symm.trans (hvalue ['T'] (by decide)))⟩
        by_contra hreplaces
        obtain ⟨e, hblank, -⟩ := raises_blank hP hB hdirect hreplaces
        cases hblank.symm.trans (hvalue [' '] (by decide))
    · have hsum := hraises ['T'] (by decide)
      rw [← timestamp, hT] at hsum
      exact absurd hsum (not_raises_sumOf d t)
  · intro h
    have hlt : d.midnight + t.duration < DateTime.maxWall := by
      rcases h with hdirect | ⟨-, hlt⟩
      · exact hP.valid _ _ (Or.inl (ciso8601_of_readDirectly hP hdirect))
      · exact hlt
    have hblank : FastDateTime.pythonvalue P (timestamp d [' '] t) = .ok (moment d t) := by
      rcases h with hdirect | ⟨hreplaces, -⟩
      · exact pythonvalue_blank_of_readDirectly hP hB hdirect
      · rw [pythonvalue_blank_of_replaces hP d hreplaces, sumOf_of_lt hlt]
    rw [sumOf_of_lt hlt] at hT hdash hstray
    refine Or.inl ⟨moment d t, fun separator hseparator => ?_⟩
    rw [separators, List.mem_cons, List.mem_cons, List.mem_cons, List.mem_singleton] at hseparator
    rcases hseparator with rfl | rfl | rfl | rfl
    · exact hT
    · exact hblank
    · exact hdash
    · exact hstray

def augustDate : CalendarDate := ⟨2024, 8, 17, by decide⟩

/-- 61 minutes past midnight. -/
def minuteTime (fraction : List (Fin 10)) (h : fraction.length ≤ 6) : TimeString :=
  ⟨0, 61, 16, fraction, h, .utc⟩

theorem separator_immaterial_minute :
    SeparatorImmaterial isoParsers augustDate (minuteTime [] (by decide)) :=
  (separator_immaterial_iff conforming_isoParsers acceptsBlank_isoParsers _ _).mpr
    (Or.inr ⟨by decide, by decide⟩)

/-- A fraction of one digit makes the text too long for its blank to be replaced. -/
theorem separator_material_fraction :
    ¬∀ P, Conforming P → AcceptsBlank P → ∀ d t, SeparatorImmaterial P d t := by
  intro h
  rcases h isoParsers conforming_isoParsers acceptsBlank_isoParsers augustDate
    (minuteTime [5] (by decide)) with ⟨dt, hvalue⟩ | hraises
  · cases hvalue [' '] (by decide)
  · obtain ⟨e, hraises, -⟩ := hraises ['T'] (by decide)
    cases hraises

end TimestampRepair

end Onvif
