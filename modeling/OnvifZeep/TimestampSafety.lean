/-
What reading a timestamp raises, for any text.

Both parsers, `int` and the slices of the repair raise nothing but `ValueError`; what is left is
the sum at the end, which may lie past year 9999.

* **`only_valueError_iff`** — reading raises nothing but `ValueError`, unless that sum is
  reached.
-/
import OnvifZeep.TimestampRepair

namespace Onvif

namespace TimestampRepair

variable {α : Type} {P : Parsers} {s : List Char}

/-! ### What the parsers return -/

theorem unlessValueError_of_only {x : Except Exc α} (h : Only IsValueError x) :
    unlessValueError x = .ok x.toOption := by
  cases x with
  | ok a => rfl
  | error e => exact unlessValueError_of_raises ⟨e, rfl, h e rfl⟩

theorem tryParseDatetime_isOk (hP : WellBehaved P) (s : List Char) :
    ∃ read, tryParseDatetime P s = .ok read := by
  rw [tryParseDatetime, unlessValueError_of_only (hP.ciso8601 s)]
  cases (P.ciso8601 s).toOption with
  | some dt => exact ⟨some dt, rfl⟩
  | none => exact ⟨_, unlessValueError_of_only (hP.isodateDatetime s)⟩

theorem eq_ok_of_unlessValueError {x : Except Exc α} {a : α}
    (h : unlessValueError x = .ok (some a)) : x = .ok a := by
  cases x with
  | ok b => exact congrArg Except.ok (Option.some.inj (Except.ok.inj h))
  | error e =>
    rw [unlessValueError] at h
    split at h
    · cases h
    · cases h

theorem read_of_tryParseDatetime {dt : DateTime} (h : tryParseDatetime P s = .ok (some dt)) :
    P.ciso8601 s = .ok dt ∨ P.isodateDatetime s = .ok dt := by
  rw [tryParseDatetime] at h
  cases hciso : unlessValueError (P.ciso8601 s) with
  | error e =>
    rw [hciso] at h
    cases h
  | ok read =>
    rw [hciso] at h
    cases read with
    | some dt' =>
      obtain rfl := Option.some.inj (Except.ok.inj h)
      exact Or.inl (eq_ok_of_unlessValueError hciso)
    | none => exact Or.inr (eq_ok_of_unlessValueError h)

theorem only_valueError_repairOverflow (value : List Char) :
    Only IsValueError (repairOverflow value) :=
  .bind (only_valueError_tryFixTimeOverflow _) fun _ => only_ok _

/-! ### The sum -/

/-- The text after its separator was normalized. -/
def normalForm (P : Parsers) (s : List Char) : List Char := fixSeparator (fixDashes (P.collapse s))

/-- No parser reads the text before its time is clamped, and with what was cut off it stands for a
moment past year 9999. -/
def PastCalendar (P : Parsers) (s : List Char) : Prop :=
  ∃ repaired offset dt, tryParseDatetime P (normalForm P s) = .ok none ∧
    repairOverflow (normalForm P s) = .ok (repaired, offset) ∧
    tryParseDatetime P repaired = .ok (some dt) ∧ DateTime.maxWall ≤ dt.wall + offset.timedelta

theorem bounds_of_repairOverflow {value repaired : List Char} {offset : TimeOffset}
    (h : repairOverflow value = .ok (repaired, offset)) :
    0 ≤ offset.timedelta ∧ offset.timedelta < 4 * DateTime.microsPerDay := by
  change (tryFixTimeOverflow (cutAt 'T' value).2 >>= fun fixed =>
    Except.ok ((cutAt 'T' value).1 ++ 'T' :: fixed.1, fixed.2)) = _ at h
  cases hfix : tryFixTimeOverflow (cutAt 'T' value).2 with
  | error e =>
    rw [hfix] at h
    cases h
  | ok fixed =>
    rw [hfix] at h
    cases h
    exact TimeOffset.bounds_of_tryFixTimeOverflow hfix

theorem add_of_lt {dt : DateTime} {offset : TimeDelta} (hwall : 0 ≤ dt.wall) (hoffset : 0 ≤ offset)
    (h : dt.wall + offset < DateTime.maxWall) :
    dt.add offset = .ok { dt with wall := dt.wall + offset } :=
  if_pos ⟨Int.add_nonneg hwall hoffset, h⟩

theorem fastDateTime_of_not_pastCalendar (hP : WellBehaved P) (h : ¬PastCalendar P s) :
    Only IsValueError (FastDateTime.pythonvalue P s) := by
  obtain ⟨read, hread⟩ := tryParseDatetime_isOk hP (normalForm P s)
  cases read with
  | some dt =>
    rw [pythonvalue_of_read rfl hread]
    exact only_ok dt
  | none =>
    cases hrepair : repairOverflow (normalForm P s) with
    | error e =>
      have hraises := only_valueError_repairOverflow _ e hrepair
      rw [pythonvalue_of_unrepaired rfl hread ⟨e, hrepair, hraises⟩]
      exact hP.ciso8601 _
    | ok fixed =>
      obtain ⟨repaired, offset⟩ := fixed
      obtain ⟨again, hagain⟩ := tryParseDatetime_isOk hP repaired
      cases again with
      | some dt =>
        have hlt : dt.wall + offset.timedelta < DateTime.maxWall := by
          by_contra hge
          exact h ⟨repaired, offset, dt, hread, hrepair, hagain, not_lt.mp hge⟩
        have hvalid := hP.valid _ _ (read_of_tryParseDatetime hagain)
        rw [pythonvalue_of_repaired rfl hread hrepair hagain,
          add_of_lt hvalid.1 (bounds_of_repairOverflow hrepair).1 hlt]
        exact only_ok _
      | none =>
        rw [pythonvalue_of_unread rfl hread hrepair hagain]
        exact hP.ciso8601 _

theorem not_only_of_pastCalendar (h : PastCalendar P s) :
    ¬Only IsValueError (FastDateTime.pythonvalue P s) := by
  obtain ⟨repaired, offset, dt, hread, hrepair, hagain, hpast⟩ := h
  have hadd : dt.add offset.timedelta
      = .error (.builtin .overflowError "date value out of range") :=
    if_neg fun hrange => not_lt.mpr hpast hrange.2
  rw [pythonvalue_of_repaired rfl hread hrepair hagain, hadd]
  intro honly
  obtain ⟨message, he⟩ := honly _ rfl
  cases he

/-- A time stays on some day or the four after it. -/
theorem only_valueError_forgivingTime (hP : WellBehaved P) (s : List Char) :
    Only IsValueError (ForgivingTime.pythonvalue P s) := by
  rw [ForgivingTime.pythonvalue, unlessValueError_of_only (hP.isodateTime _)]
  cases (P.isodateTime (P.collapse s)).toOption with
  | some time => exact only_ok time
  | none =>
    show Only IsValueError (unlessValueError (tryFixTimeOverflow (P.collapse s)) >>= _)
    cases hfix : tryFixTimeOverflow (P.collapse s) with
    | error e =>
      rw [unlessValueError_of_raises ⟨e, rfl, only_valueError_tryFixTimeOverflow _ e hfix⟩]
      exact hP.isodateTime _
    | ok fixed =>
      obtain ⟨fixedTime, offset⟩ := fixed
      obtain ⟨read, hread⟩ := tryParseDatetime_isOk hP (someDay ++ fixedTime)
      show Only IsValueError (tryParseDatetime P (someDay ++ fixedTime) >>= _)
      rw [hread]
      cases read with
      | none => exact hP.isodateTime _
      | some dt =>
        have hreads := read_of_tryParseDatetime hread
        have hvalid := hP.valid _ _ hreads
        rw [← someDate_str, List.append_assoc] at hreads
        have hdate := hP.date someDate fixedTime dt hreads
        have hoffset := TimeOffset.bounds_of_tryFixTimeOverflow hfix
        have hmidnight : someDate.midnight + 5 * DateTime.microsPerDay < DateTime.maxWall := by
          decide
        have hlt : dt.wall + offset.timedelta < DateTime.maxWall := by
          calc dt.wall + offset.timedelta
              < someDate.midnight + DateTime.microsPerDay + 4 * DateTime.microsPerDay :=
                Int.add_lt_add_of_le_of_lt hdate hoffset.2
            _ = someDate.midnight + 5 * DateTime.microsPerDay := by omega
            _ < DateTime.maxWall := hmidnight
        show Only IsValueError (dt.add offset.timedelta >>= _)
        rw [add_of_lt hvalid.1 hoffset.1 hlt]
        exact only_ok _

/-- **Timestamp parsing** raises nothing but `ValueError`, exactly for text that does not stand
for a moment past year 9999 with the time cut off. -/
theorem only_valueError_iff (hP : WellBehaved P) (s : List Char) :
    Only IsValueError (FastDateTime.pythonvalue P s) ∧
        Only IsValueError (ForgivingTime.pythonvalue P s) ↔ ¬PastCalendar P s :=
  ⟨fun h hpast => not_only_of_pastCalendar hpast h.1,
    fun h => ⟨fastDateTime_of_not_pastCalendar hP h, only_valueError_forgivingTime hP s⟩⟩

/-- Minutes past the hour are carried over, but not past the last day. -/
theorem only_valueError_overflow :
    (Only IsValueError (FastDateTime.pythonvalue isoParsers "2024-08-17T00:61:16Z".toList) ∧
      Only IsValueError (ForgivingTime.pythonvalue isoParsers "2024-08-17T00:61:16Z".toList)) ∧
    ¬(Only IsValueError (FastDateTime.pythonvalue isoParsers "9999-12-31T23:61:16Z".toList) ∧
      Only IsValueError (ForgivingTime.pythonvalue isoParsers "9999-12-31T23:61:16Z".toList)) := by
  have hiff := only_valueError_iff wellBehaved_isoParsers
  constructor
  · refine (hiff _).mpr ?_
    rintro ⟨repaired, offset, dt, -, hrepair, hagain, hpast⟩
    obtain ⟨rfl, rfl⟩ : "2024-08-17T00:59:16Z".toList = repaired ∧ ⟨0, 2, 0⟩ = offset :=
      Prod.mk.inj (Except.ok.inj hrepair)
    obtain rfl := Option.some.inj (Except.ok.inj hagain)
    exact absurd hpast (by decide +kernel)
  · rw [hiff, not_not]
    exact ⟨_, _, _, rfl, rfl, rfl, by decide +kernel⟩

/-- The last day has no hour 25. -/
theorem overflowError_lastDay :
    ¬∀ P, WellBehaved P → ∀ s, Only IsValueError (FastDateTime.pythonvalue P s) ∧
      Only IsValueError (ForgivingTime.pythonvalue P s) := by
  intro h
  have honly := (h isoParsers wellBehaved_isoParsers "9999-12-31T25:00:00Z".toList).1
  obtain ⟨message, he⟩ := honly (.builtin .overflowError "date value out of range") rfl
  cases he

end TimestampRepair

end Onvif
