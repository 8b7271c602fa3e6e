/-
Reporting an error, and telling an authentication error from the others.

`isAuthError` looks for `NotAuthorized` in the subcodes of a fault, and only where no subcode has it
reads the report of the fault.  So it raises on fewer faults than `stringifyOnvifError` does.

* **`isAuthError_ok_iff`** — when the verdict does not raise;
* **`isAuthError_of_notAuthorized`** — a subcode with `NotAuthorized` decides it;
* **`stringifyOnvifError_ne_empty`** — no report is empty;
* **`never_fails_iff`** — the errors whose reporting does not fail.
-/
import OnvifZeep.Client
import Mathlib.Data.List.Infix

namespace Onvif

/-- `part in text`. -/
def occursIn (part text : String) : Bool := decide (part.toList <:+: text.toList)

/-- `extract_subcodes_as_strings(error.subcodes)`, an absent value being `None`. -/
def Fault.subcodeStrings (f : Fault) : List String :=
  match f.subcodes with
  | some subcodes => extractSubcodesAsStrings subcodes
  | none => ["None"]

/-- `is_auth_error`.  `str.lower` makes the letters of `auth` of no others than their capitals. -/
def isAuthError : Exc → Except Exc Bool
  | .fault f =>
    if f.subcodeStrings.any fun code => occursIn "NotAuthorized" code then .ok true
    else (stringifyOnvifError (.fault f)).map fun message => occursIn "auth" (lower message)
  | _ => .ok false

/-- The subcodes an error has. -/
def Exc.subcodes : Exc → List String
  | .fault f => (f.subcodes.map extractSubcodesAsStrings).getD []
  | _ => []

/-- Some subcode contains `NotAuthorized`. -/
def Exc.NotAuthorized (e : Exc) : Prop := ∃ code ∈ e.subcodes, occursIn "NotAuthorized" code

theorem Fault.any_subcodeStrings_iff (f : Fault) :
    (f.subcodeStrings.any fun code => occursIn "NotAuthorized" code) = true ↔
      (Exc.fault f).NotAuthorized := by
  unfold Exc.NotAuthorized
  rw [List.any_eq_true, Fault.subcodeStrings, Exc.subcodes]
  cases f.subcodes with
  | some subcodes => rfl
  | none =>
    -- `str(None)` is no subcode, and does not contain the word
    constructor
    · rintro ⟨code, hcode, hoccurs⟩
      rw [List.mem_singleton.mp hcode] at hoccurs
      exact absurd hoccurs (by decide)
    · rintro ⟨code, hcode, -⟩
      exact absurd hcode List.not_mem_nil

theorem isAuthError_of_notAuthorized {e : Exc} (h : e.NotAuthorized) : isAuthError e = .ok true := by
  cases e with
  | fault f => exact if_pos (f.any_subcodeStrings_iff.mpr h)
  | _ =>
    obtain ⟨code, hcode, -⟩ := h
    exact absurd hcode List.not_mem_nil

/-- **The verdict** on an error raises where reporting it does, unless a subcode decides it. -/
theorem isAuthError_ok_iff (e : Exc) :
    (∃ b, isAuthError e = .ok b) ↔ e.NotAuthorized ∨ e.Reportable := by
  by_cases hsubcode : e.NotAuthorized
  · exact ⟨fun _ => .inl hsubcode, fun _ => ⟨true, isAuthError_of_notAuthorized hsubcode⟩⟩
  · -- without such a subcode the report of a fault is read, and raises or not
    rw [or_iff_right hsubcode, ← stringifyOnvifError_ok_iff]
    cases e with
    | fault f =>
      rw [isAuthError, if_neg (fun h => hsubcode (f.any_subcodeStrings_iff.mp h))]
      cases stringifyOnvifError (.fault f) with
      | error e =>
        constructor
        · rintro ⟨b, hb⟩
          cases hb
        · rintro ⟨m, hm⟩
          cases hm
      | ok m => exact ⟨fun _ => ⟨m, rfl⟩, fun _ => ⟨_, rfl⟩⟩
    | _ => exact ⟨fun _ => ⟨_, rfl⟩, fun _ => ⟨false, rfl⟩⟩

theorem fallback_ne_empty (type : String) : "Device sent empty error with type " ++ type ≠ "" := by
  intro h
  have hchars := congrArg String.toList h
  rw [String.toList_append] at hchars
  exact absurd hchars (by simp)

theorem orEmpty_ne_empty (e : Exc) (message : Option String) : e.orEmpty message ≠ "" := by
  unfold Exc.orEmpty
  cases message with
  | none =>
    simp only
    exact fallback_ne_empty e.typeStr
  | some text =>
    simp only
    by_cases htext : text = ""
    · rw [if_pos htext]
      exact fallback_ne_empty e.typeStr
    · rw [if_neg htext]
      exact htext

/-- **No report is empty.** -/
theorem stringifyOnvifError_ne_empty {e : Exc} {m : String} (h : stringifyOnvifError e = .ok m) :
    m ≠ "" := by
  unfold stringifyOnvifError at h
  cases hreport : e.report with
  | error e' =>
    rw [hreport] at h
    cases h
  | ok message =>
    rw [hreport] at h
    obtain rfl := Except.ok.inj h
    exact orEmpty_ne_empty e message

/-- What is promised of reporting an error. -/
structure NeverFails (e : Exc) : Prop where
  report : ∃ m, stringifyOnvifError e = .ok m ∧ m ≠ ""
  verdict : ∃ b, isAuthError e = .ok b
  notAuthorized : e.NotAuthorized → isAuthError e = .ok true

/-- **Error reporting never fails** exactly on the errors that can be reported: every exception but
a fault that has no message and has another part. -/
theorem never_fails_iff (e : Exc) : NeverFails e ↔ e.Reportable := by
  constructor
  · intro h
    obtain ⟨m, hm, -⟩ := h.report
    exact (stringifyOnvifError_ok_iff e).mp ⟨m, hm⟩
  · intro h
    obtain ⟨m, hm⟩ := (stringifyOnvifError_ok_iff e).mpr h
    exact ⟨⟨m, hm, stringifyOnvifError_ne_empty hm⟩, (isAuthError_ok_iff e).mpr (.inr h),
      isAuthError_of_notAuthorized⟩

/-- A fault of SOAP 1.2 whose reason has no text. -/
def faultWithoutReason : Fault where
  message := none
  code := some "env:Sender"
  actor := none
  detail := none
  subcodes := some (.list [])

theorem fault_without_reason_fails : ¬NeverFails (.fault faultWithoutReason) := by
  intro h
  obtain ⟨m, hm, -⟩ := h.report
  cases hm

end Onvif
