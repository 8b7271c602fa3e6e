/-
When the next renewal is due, and what the device granted.

The same pair of timestamps is read twice: `has_broken_relative_time` looks for a window much
shorter than the one asked for, and `_calculate_next_renewal_call_at` takes eight tenths of the
window.  The first guards against missing timestamps and timestamps without a zone, the second
against missing ones only.

* **`le_renewalDelay`** — no delay is shorter than 48 seconds;
* **`renewal_timely_iff`** — a renewal is scheduled, and before the granted window ends, exactly
  for timestamps that can be subtracted.
-/
import Mathlib.Tactic.Linarith
import OnvifZeep.CoroutineRules
import OnvifZeep.Client

namespace Onvif

open Coro BaseManager

namespace RenewalTiming

variable {interval : TimeDelta} {loopTime callAt : ℚ} {result : SubscriptionTimes}

/-! ### The window -/

/-- The window the response grants, when both timestamps are there and can be subtracted. -/
def grantedWindow (result : SubscriptionTimes) : Option TimeDelta :=
  match result.terminationTime, result.currentTime with
  | some terminationTime, some currentTime => (terminationTime.sub currentTime).toOption
  | _, _ => none

/-- The window a renewal is scheduled in. -/
def renewalWindow (interval : TimeDelta) (result : SubscriptionTimes) : TimeDelta :=
  (grantedWindow result).getD interval

/-- Eight tenths of the window after `loopTime`, a window under a minute counting as one. -/
def renewalTime (interval : TimeDelta) (loopTime : ℚ) (result : SubscriptionTimes) : ℚ :=
  loopTime + max (TimeDelta.totalSeconds (renewalWindow interval result)) MINIMUM_SUBSCRIPTION_SECONDS *
    RENEWAL_PERCENTAGE

theorem calculateNextRenewalCallAt_of_schedulable (interval : TimeDelta) (loopTime : ℚ)
    (h : Schedulable result) :
    calculateNextRenewalCallAt interval loopTime result
      = .ok (renewalTime interval loopTime result) := by
  obtain ⟨currentTime, terminationTime⟩ := result
  unfold calculateNextRenewalCallAt renewalDelay renewalTime renewalWindow grantedWindow
  cases terminationTime with
  | none => rfl
  | some terminationTime =>
    cases currentTime with
    | none => rfl
    | some currentTime =>
      obtain ⟨delay, hdelay⟩ := (DateTime.sub_isOk_iff _ _).mpr (h _ rfl _ rfl)
      dsimp only
      rw [hdelay]
      rfl

/-- What is scheduled at all is scheduled at the renewal time. -/
theorem eq_renewalTime (h : calculateNextRenewalCallAt interval loopTime result = .ok callAt) :
    callAt = renewalTime interval loopTime result := by
  have hschedulable := (calculateNextRenewalCallAt_isOk_iff interval loopTime result).mp ⟨_, h⟩
  rw [calculateNextRenewalCallAt_of_schedulable interval loopTime hschedulable] at h
  exact (Except.ok.inj h).symm

/-- **The least delay**: whatever the device granted, the next renewal is 48 seconds away. -/
theorem le_renewalTime (interval : TimeDelta) (loopTime : ℚ) (result : SubscriptionTimes) :
    loopTime + 48 ≤ renewalTime interval loopTime result := by
  have hmax : MINIMUM_SUBSCRIPTION_SECONDS
      ≤ max (TimeDelta.totalSeconds (renewalWindow interval result)) MINIMUM_SUBSCRIPTION_SECONDS :=
    le_max_right _ _
  have hminimum : MINIMUM_SUBSCRIPTION_SECONDS * RENEWAL_PERCENTAGE = 48 := by
    rw [MINIMUM_SUBSCRIPTION_SECONDS, RENEWAL_PERCENTAGE]
    norm_num
  have hmul := mul_le_mul_of_nonneg_right hmax (show 0 ≤ RENEWAL_PERCENTAGE by
    rw [RENEWAL_PERCENTAGE]
    norm_num)
  rw [hminimum] at hmul
  rw [renewalTime]
  linarith

/-- **Renewal comes before expiry**, for every granted window over 48 seconds. -/
theorem renewalTime_lt_expiry {window : TimeDelta} (hgranted : grantedWindow result = some window)
    (hlong : 48 < TimeDelta.totalSeconds window) :
    renewalTime interval loopTime result < loopTime + TimeDelta.totalSeconds window := by
  rw [renewalTime, renewalWindow, hgranted, Option.getD_some, RENEWAL_PERCENTAGE,
    MINIMUM_SUBSCRIPTION_SECONDS]
  rcases le_total (TimeDelta.totalSeconds window) 60 with hle | hle
  · rw [max_eq_right hle]
    linarith
  · rw [max_eq_left hle]
    linarith

/-! ### The two checks -/

/-- The next renewal is scheduled at the renewal time, and before the granted window ends if that
is over 48 seconds. -/
structure Timely (interval : TimeDelta) (loopTime : ℚ) (result : SubscriptionTimes) : Prop where
  scheduled : calculateNextRenewalCallAt interval loopTime result
    = .ok (renewalTime interval loopTime result)
  beforeExpiry : ∀ window, grantedWindow result = some window →
    48 < TimeDelta.totalSeconds window →
    renewalTime interval loopTime result < loopTime + TimeDelta.totalSeconds window

/-- `has_broken_relative_time` returns, for any timestamps. -/
theorem hasBrokenRelativeTime_isOk (w : CameraWorld) (n : ℕ) (s : ONVIFCamera)
    (interval : TimeDelta) (currentTime terminationTime : Option DateTime) :
    ((ONVIFCamera.hasBrokenRelativeTime interval currentTime terminationTime).exec w n s).result
      = .ok (ONVIFCamera.brokenRelativeTime interval currentTime terminationTime) := by
  rw [ONVIFCamera.hasBrokenRelativeTime]
  cases ONVIFCamera.brokenRelativeTime interval currentTime terminationTime with
  | true => rfl
  | false => rfl

/-- **Renewal timing**: where `has_broken_relative_time` returns, the renewal is scheduled in
time exactly if the timestamps, where both are present, both have a zone or both have none. -/
theorem renewal_timely_iff (w : CameraWorld) (n : ℕ) (s : ONVIFCamera) (interval : TimeDelta)
    (loopTime : ℚ) (result : SubscriptionTimes) :
    ((∃ broken, ((ONVIFCamera.hasBrokenRelativeTime interval result.currentTime
        result.terminationTime).exec w n s).result = .ok broken) →
      Timely interval loopTime result) ↔ Schedulable result := by
  constructor
  · intro h
    have htimely := h ⟨_, hasBrokenRelativeTime_isOk w n s interval _ _⟩
    exact (calculateNextRenewalCallAt_isOk_iff interval loopTime result).mp ⟨_, htimely.scheduled⟩
  · intro h _
    exact ⟨calculateNextRenewalCallAt_of_schedulable interval loopTime h,
      fun window hgranted hlong => renewalTime_lt_expiry hgranted hlong⟩

/-- A device that gives its own time without a zone and the termination time with one. -/
def mixedTimes : SubscriptionTimes where
  currentTime := some ⟨63000000000000000, none⟩
  terminationTime := some ⟨63000000060000000, some 0⟩

/-- The check for broken timestamps returns, and scheduling the renewal raises. -/
theorem renewal_untimely_mixedTimes :
    ¬∀ (result : SubscriptionTimes),
      (∃ broken, ((ONVIFCamera.hasBrokenRelativeTime (TimeDelta.ofSeconds 60) result.currentTime
        result.terminationTime).exec (deviceAlone fun _ => .error .cancelledError) 0
          ONVIFCamera.localCamera).result = .ok broken) →
      Timely (TimeDelta.ofSeconds 60) 1000 result := by
  intro h
  have htimely := h mixedTimes ⟨false, rfl⟩
  cases htimely.scheduled

end RenewalTiming

end Onvif
