/-
What ciso8601 and isodate document, and parsers that do so.

The contracts are about the forms of text that `types.py` hands on: a date and a time with a
separator between them, and a time.  The libraries accept more than that; `isoParsers` reads
these forms alone.

* **`conforming_isoParsers`**, **`acceptsBlank_isoParsers`**, **`wellBehaved_isoParsers`** — the
  contracts can be met.
-/
import OnvifZeep.Timestamps
import OnvifZeep.IsoFormat

namespace Onvif

namespace TimestampRepair

variable {α : Type} {P : Parsers}

/-! ### The contracts -/

def RaisesValueError (r : Except Exc α) : Prop := ∃ e, r = .error e ∧ IsValueError e

/-- Fields in range are read exactly and others raise `ValueError`, but for 24:00:00, which may
be read as the midnight after. -/
structure ReadsTimes (read : List Char → Except Exc α) (text : TimeString → List Char)
    (value : TimeString → α) : Prop where
  inRange : ∀ t, t.InRange → read (text t) = .ok (value t)
  outOfRange : ∀ t, ¬t.InRange →
    RaisesValueError (read (text t)) ∨ t.EndOfDay ∧ read (text t) = .ok (value t)

/-- A date and a time with a separator between them. -/
def timestamp (d : CalendarDate) (separator : List Char) (t : TimeString) : List Char :=
  d.str ++ separator ++ t.str

/-- The time of the day. -/
def timeOfDay (t : TimeString) : Time where
  micros := t.ofDay
  utcoffset := t.zone.utcoffset

/-- Text without blanks. -/
def Word (s : List Char) : Prop := s ≠ [] ∧ ∀ c ∈ s, isSpace c = false

/-- What the libraries make of fields in range and out of range. -/
structure Conforming (P : Parsers) : Prop where
  -- words with a blank between them are collapsed already
  collapse_word : ∀ w, Word w → P.collapse w = w
  collapse_words : ∀ v w, Word v → Word w → P.collapse (v ++ [' '] ++ w) = v ++ [' '] ++ w
  ciso8601 : ∀ d, ReadsTimes P.ciso8601 (timestamp d ['T']) (moment d)
  isodateDatetime : ∀ d, ReadsTimes P.isodateDatetime (timestamp d ['T']) (moment d)
  isodateTime : ReadsTimes P.isodateTime TimeString.str timeOfDay
  -- a `datetime` lies in the years 1 to 9999
  valid : ∀ s dt, P.ciso8601 s = .ok dt ∨ P.isodateDatetime s = .ok dt → dt.wall < DateTime.maxWall

/-- ciso8601 accepts a blank for the `T`, and isodate does not. -/
structure AcceptsBlank (P : Parsers) : Prop where
  ciso8601 : ∀ d t, P.ciso8601 (timestamp d [' '] t) = P.ciso8601 (timestamp d ['T'] t)
  isodateDatetime : ∀ d t, RaisesValueError (P.isodateDatetime (timestamp d [' '] t))

/-- The parsers raise nothing but `ValueError`, and return what a `datetime` can hold. -/
structure WellBehaved (P : Parsers) : Prop where
  ciso8601 : ∀ s, Only IsValueError (P.ciso8601 s)
  isodateDatetime : ∀ s, Only IsValueError (P.isodateDatetime s)
  isodateTime : ∀ s, Only IsValueError (P.isodateTime s)
  valid : ∀ s dt, P.ciso8601 s = .ok dt ∨ P.isodateDatetime s = .ok dt →
    0 ≤ dt.wall ∧ dt.wall < DateTime.maxWall
  -- text that begins with a date is read as a moment of that date or the midnight after
  date : ∀ d : CalendarDate, ∀ s dt, P.ciso8601 (d.str ++ 'T' :: s) = .ok dt ∨
    P.isodateDatetime (d.str ++ 'T' :: s) = .ok dt →
      dt.wall ≤ d.midnight + DateTime.microsPerDay

theorem ReadsTimes.cases {read : List Char → Except Exc α} {text : TimeString → List Char}
    {value : TimeString → α} (h : ReadsTimes read text value) (t : TimeString) :
    read (text t) = .ok (value t) ∨ RaisesValueError (read (text t)) ∧ ¬t.InRange := by
  by_cases hrange : t.InRange
  · exact Or.inl (h.inRange t hrange)
  · rcases h.outOfRange t hrange with hraises | ⟨-, hread⟩
    · exact Or.inr ⟨hraises, hrange⟩
    · exact Or.inl hread

theorem unlessValueError_of_raises {x : Except Exc α} (h : RaisesValueError x) :
    unlessValueError x = .ok none := by
  obtain ⟨e, rfl, message, rfl⟩ := h
  rfl

/-! ### A strict reader -/

/-- `re.sub(r"[\n\r\t ]", " ", value).strip()`. -/
def collapseBlanks (s : List Char) : List Char :=
  strip (s.map fun c => if c ∈ ['\n', '\r', '\t', ' '] then ' ' else c)

/-- The date and time of a text, with one of the separators between them. -/
def readTimestamp (separators s : List Char) : Option DateTime :=
  match readDate s with
  | some (d, c :: rest) =>
    if c ∈ separators then
      (readTime rest).bind fun t => if t.InRange then some (moment d t) else none
    else none
  | _ => none

def orValueError (x : Option α) : Except Exc α :=
  match x with
  | some a => .ok a
  | none => valueError "Invalid timestamp"

/-- Parsers that read dates and times in range, and nothing else. -/
def isoParsers : Parsers where
  collapse := collapseBlanks
  ciso8601 s := orValueError (readTimestamp ['T', ' '] s)
  isodateDatetime s := orValueError (readTimestamp ['T'] s)
  isodateTime s :=
    orValueError ((readTime s).bind fun t => if t.InRange then some (timeOfDay t) else none)

theorem raises_orValueError_none : RaisesValueError (orValueError (none : Option α)) :=
  ⟨_, rfl, _, rfl⟩

theorem only_valueError_orValueError (x : Option α) : Only IsValueError (orValueError x) := by
  cases x with
  | some a => exact only_ok a
  | none => exact only_valueError _

theorem eq_some_of_orValueError {x : Option α} {a : α} (h : orValueError x = .ok a) :
    x = some a := by
  cases x with
  | some b => exact congrArg some (Except.ok.inj h)
  | none => cases h

/-- Text that begins and ends with no blank is stripped already. -/
theorem strip_of_ends {s : List Char} (front back : List Char) {c c' : Char}
    (hc : isSpace c = false) (hc' : isSpace c' = false) (hfront : s = c :: back)
    (hback : s = front ++ [c']) : strip s = s := by
  have hne : ∀ {c : Char}, isSpace c = false → ¬isSpace c = true := fun h => by
    rw [h]
    exact Bool.false_ne_true
  have hleft : s.dropWhile isSpace = s := by rw [hfront, List.dropWhile_cons_of_neg (hne hc)]
  have hright : s.reverse.dropWhile isSpace = s.reverse := by
    rw [hback, List.reverse_concat, List.dropWhile_cons_of_neg (hne hc')]
  rw [strip, hleft, hright, List.reverse_reverse]

theorem map_blanks_of_word {w : List Char} (hw : Word w) :
    (w.map fun c => if c ∈ ['\n', '\r', '\t', ' '] then ' ' else c) = w := by
  refine (List.map_congr_left fun c hc => if_neg fun hblank => ?_).trans (List.map_id w)
  have hall : ∀ c ∈ ['\n', '\r', '\t', ' '], isSpace c = true :=
    List.all_eq_true.mp (by decide)
  exact Bool.false_ne_true ((hw.2 c hc).symm.trans (hall c hblank))

theorem collapseBlanks_word {w : List Char} (hw : Word w) : collapseBlanks w = w := by
  rw [collapseBlanks, map_blanks_of_word hw]
  exact strip_of_ends _ _ (hw.2 _ (List.head_mem hw.1)) (hw.2 _ (List.getLast_mem hw.1))
    (List.cons_head_tail hw.1).symm (List.dropLast_concat_getLast hw.1).symm

theorem collapseBlanks_words {v w : List Char} (hv : Word v) (hw : Word w) :
    collapseBlanks (v ++ [' '] ++ w) = v ++ [' '] ++ w := by
  have hblank : [' '].map (fun c => if c ∈ ['\n', '\r', '\t', ' '] then ' ' else c) = [' '] := rfl
  rw [collapseBlanks, List.map_append, List.map_append, map_blanks_of_word hv,
    map_blanks_of_word hw, hblank]
  refine strip_of_ends (v ++ [' '] ++ w.dropLast) (v.tail ++ [' '] ++ w)
    (hv.2 _ (List.head_mem hv.1)) (hw.2 _ (List.getLast_mem hw.1)) ?_ ?_
  · rw [← List.cons_append, ← List.cons_append, List.cons_head_tail]
  · rw [List.append_assoc _ w.dropLast, List.dropLast_concat_getLast]

/-! ### The contracts are met -/

/-- **Reading a timestamp that was written.** -/
theorem readTimestamp_timestamp {separators : List Char} {c : Char} (hc : c ∈ separators)
    (d : CalendarDate) (t : TimeString) :
    readTimestamp separators (timestamp d [c] t)
      = if t.InRange then some (moment d t) else none := by
  rw [readTimestamp, timestamp, List.append_assoc, readDate_str]
  show (if c ∈ separators then
    (readTime t.str).bind fun t => if t.InRange then some (moment d t) else none else none) = _
  rw [if_pos hc, readTime_str, Option.bind_some]

theorem readTimestamp_other {separators : List Char} {c : Char} (hc : c ∉ separators)
    (d : CalendarDate) (t : TimeString) : readTimestamp separators (timestamp d [c] t) = none := by
  rw [readTimestamp, timestamp, List.append_assoc, readDate_str]
  exact if_neg hc

/-- What is read is a date and a time in range. -/
theorem exists_of_readTimestamp {separators s : List Char} {dt : DateTime}
    (h : readTimestamp separators s = some dt) :
    ∃ d rest t, readDate s = some (d, rest) ∧ t.InRange ∧ dt = moment d t := by
  rw [readTimestamp] at h
  split at h
  · rename_i d c rest hdate
    by_cases hc : c ∈ separators
    · rw [if_pos hc] at h
      obtain ⟨t, -, ht⟩ := Option.bind_eq_some_iff.mp h
      by_cases hrange : t.InRange
      · rw [if_pos hrange] at ht
        exact ⟨d, _, t, hdate, hrange, (Option.some.inj ht).symm⟩
      · rw [if_neg hrange] at ht
        cases ht
    · rw [if_neg hc] at h
      cases h
  · cases h

theorem readsTimes_orValueError {text : TimeString → List Char} {value : TimeString → α}
    {read : List Char → Option α}
    (h : ∀ t, read (text t) = if t.InRange then some (value t) else none) :
    ReadsTimes (fun s => orValueError (read s)) text value := by
  constructor
  · intro t ht
    rw [h t, if_pos ht]
    rfl
  · intro t ht
    rw [h t, if_neg ht]
    exact Or.inl raises_orValueError_none

theorem moment_bounds {d : CalendarDate} {t : TimeString} (h : t.InRange) :
    0 ≤ (moment d t).wall ∧ (moment d t).wall < d.midnight + DateTime.microsPerDay := by
  have hmidnight := d.midnight_nonneg
  have hnonneg := t.duration_nonneg
  have hlt := h.duration_lt
  exact ⟨Int.add_nonneg hmidnight hnonneg, Int.add_lt_add_left hlt _⟩

/-- What the strict reader returns, whichever parser it plays. -/
theorem exists_of_isoParsers {s : List Char} {dt : DateTime}
    (h : isoParsers.ciso8601 s = .ok dt ∨ isoParsers.isodateDatetime s = .ok dt) :
    ∃ d rest t, readDate s = some (d, rest) ∧ t.InRange ∧ dt = moment d t := by
  rcases h with h | h
  · exact exists_of_readTimestamp (eq_some_of_orValueError h)
  · exact exists_of_readTimestamp (eq_some_of_orValueError h)

theorem valid_isoParsers {s : List Char} {dt : DateTime}
    (h : isoParsers.ciso8601 s = .ok dt ∨ isoParsers.isodateDatetime s = .ok dt) :
    0 ≤ dt.wall ∧ dt.wall < DateTime.maxWall := by
  obtain ⟨d, rest, t, -, hrange, rfl⟩ := exists_of_isoParsers h
  exact ⟨(moment_bounds hrange).1, (moment_bounds hrange).2.trans_le d.midnight_le⟩

theorem conforming_isoParsers : Conforming isoParsers where
  collapse_word _ := collapseBlanks_word
  collapse_words _ _ := collapseBlanks_words
  ciso8601 d := readsTimes_orValueError fun t => readTimestamp_timestamp (by decide) d t
  isodateDatetime d := readsTimes_orValueError fun t => readTimestamp_timestamp (by decide) d t
  isodateTime := readsTimes_orValueError fun t => by rw [readTime_str, Option.bind_some]
  valid _ _ h := (valid_isoParsers h).2

theorem acceptsBlank_isoParsers : AcceptsBlank isoParsers where
  ciso8601 d t := congrArg orValueError
    ((readTimestamp_timestamp (by decide) d t).trans (readTimestamp_timestamp (by decide) d t).symm)
  isodateDatetime d t := by
    show RaisesValueError (orValueError (readTimestamp ['T'] (timestamp d [' '] t)))
    rw [readTimestamp_other (by decide)]
    exact raises_orValueError_none

theorem wellBehaved_isoParsers : WellBehaved isoParsers where
  ciso8601 _ := only_valueError_orValueError _
  isodateDatetime _ := only_valueError_orValueError _
  isodateTime _ := only_valueError_orValueError _
  valid _ _ := valid_isoParsers
  date d s dt h := by
    obtain ⟨d', rest, t, hdate, hrange, rfl⟩ := exists_of_isoParsers h
    rw [readDate_str] at hdate
    obtain ⟨rfl, -⟩ := Prod.mk.inj (Option.some.inj hdate)
    exact (moment_bounds hrange).2.le

end TimestampRepair

end Onvif
