/-
Invariants of the device a manager works on.

The methods of the base class leave the device alone, so its tasks keep every invariant of the
device that `_start()` keeps, whatever else the manager does in between.

* **`preserves_task`** — the tasks of a manager;
* **`keeping_step`** — one step of a manager and its tasks, of which nothing is assumed: any order of
  calls, timers and answers.
-/
import OnvifZeep.SharedInvariant
import OnvifZeep.TaskHistories

namespace Onvif

open Coro BaseManager

namespace System

variable {δ : Type} {I : Interface} {M : ManagerClass δ I} {Inv : δ → Prop}
  {m m' : BaseManager δ} {S S' : System I δ}

/-- The invariant of the device, seen from its manager. -/
def OfDevice (Inv : δ → Prop) (m : BaseManager δ) : Prop := Inv m.held.device

theorem OfDevice.of_held (h : OfDevice Inv m) (hheld : m'.held = m.held) : OfDevice Inv m' := by
  rw [OfDevice, hheld]
  exact h

/-- A coroutine of the manager keeps the invariant of the device. -/
abbrev KeepsDevice {α : Type} (Inv : δ → Prop) (x : ManagerCoro I δ α) : Prop :=
  Maintains (OfDevice Inv) x

/-- A change that leaves alone what `_start()` works on. -/
theorem keepsDevice_modifyState {f : BaseManager δ → BaseManager δ} (hf : ∀ m, (f m).held = m.held) :
    KeepsDevice (I := I) Inv (modifyState f) :=
  .modifyState fun _ m h => h.of_held (hf m)

/-- `_start()` keeps what it keeps of the device it works on. -/
theorem keepsDevice_innerStart (h : Maintains (fun held : Held δ => Inv held.device) M.start) :
    KeepsDevice Inv (innerStart M) :=
  Maintains.zoom (fun held : Held δ => Inv held.device) heldLens h

section Tasks

variable (hstart : KeepsDevice Inv (innerStart M))

include hstart

theorem keepsDevice_renewOrRestartBody : KeepsDevice Inv (renewOrRestartBody M) := by
  have hrenew : KeepsDevice Inv (renewSubscription M) :=
    preserves_renewSubscription (fun c _ => Maintains.call c) fun _ _ h => h.of_held rfl
  have hrestart : KeepsDevice Inv (restartSubscription M) :=
    .bind (keepsDevice_modifyState fun m => (cancelRenewals_fields m).1) fun _ => hstart
  refine .bind hrenew fun t => ?_
  cases t with
  | some t => exact .pure (some t)
  | none =>
    refine .tryExcept (.bind hrestart fun t => .pure (some t)) fun e => ?_
    by_cases he : e.oneOf renewErrors = true
    · rw [if_pos he]
      exact .bind (.ofExcept _) fun _ => .pure none
    · rw [if_neg he]
      exact .raise e

theorem keepsDevice_background : KeepsDevice Inv (background M) := by
  refine .bind (Maintains.call _) fun _ => .bind .getState fun m => ?_
  by_cases hm : (m.shutdown || m.sessionClosed M) = true
  · rw [if_pos hm]
    exact .pure ()
  · rw [if_neg hm]
    refine .bind (fun g m h => ?_) fun _ => .pure ()
    rw [wp_tryFinally]
    refine wp_mono (fun r g m hr => ?_) (keepsDevice_renewOrRestartBody hstart g m h)
    have hrearm : ∀ t, OfDevice Inv (rearm M t m) := fun t => hr.of_held (by
      rw [rearm]
      split
      · exact scheduleSubscriptionRenew_held m _
      · rfl)
    rw [wp_modifyState, ends_ok]
    exact hrearm _

/-- **The tasks of a manager** keep what `_start()` keeps. -/
theorem preserves_task (kind : Kind) : KeepsDevice Inv (task M kind) := by
  have hstop : KeepsDevice Inv (BaseManager.stop : ManagerCoro I δ Unit) :=
    preserves_stop (fun c => Maintains.call c) fun _ m h =>
      h.of_held (cancelRenewals_fields m).1
  cases kind with
  | background => exact keepsDevice_background hstart
  | start =>
    refine .bind (.bind hstart fun time => ?_) fun _ => .pure ()
    exact keepsDevice_modifyState (I := I) fun m => scheduleSubscriptionRenew_held m time
  | stop => exact hstop
  | shutdown => exact .bind (keepsDevice_modifyState fun _ => rfl) fun _ => hstop

variable [DecidableEq I.Call]

/-- **One step of a manager**: the invariant can be lost through the surroundings alone. -/
theorem keeping_step (h : S.Keeping (OfDevice Inv)) {a : Action I δ}
    (hsurround : ∀ device loopTime raises, a = .environment device loopTime raises → Inv device)
    (hstep : step M S a = some S') : S'.Keeping (OfDevice Inv) := by
  cases a with
  | start =>
    obtain rfl := Option.some.inj hstep
    exact h.start .start (preserves_task hstart .start)
  | stop =>
    obtain rfl := Option.some.inj hstep
    exact h.start .stop (preserves_task hstart .stop)
  | shutdown =>
    obtain rfl := Option.some.inj hstep
    exact h.start .shutdown (preserves_task hstart .shutdown)
  | pause =>
    obtain rfl := Option.some.inj hstep
    exact h.update (h.shared.of_held (cancelRenewals_fields S.shared).1)
  | resume =>
    obtain rfl := Option.some.inj hstep
    exact h.update (h.shared.of_held (scheduleSubscriptionRenew_held S.shared _))
  | fire i =>
    obtain ⟨-, rfl⟩ := step_fire.mp hstep
    have hfired : (S.update (fireTimer i)).Keeping (OfDevice Inv) := h.update (h.shared.of_held rfl)
    rw [runRestartOrRenew]
    split
    · exact hfired
    · have hspawned := hfired.start .background (preserves_task hstart .background)
      exact hspawned.update (hspawned.shared.of_held rfl)
  | answer t c r =>
    obtain ⟨-, hresume⟩ := step_answer.mp hstep
    have hdelivered : (S.update (deliverCancel t)).Keeping (OfDevice Inv) :=
      h.update (h.shared.of_held rfl)
    exact hdelivered.resume hresume
  | environment device loopTime raises =>
    obtain ⟨-, rfl⟩ := step_environment.mp hstep
    exact h.update (hsurround device loopTime raises rfl)

end Tasks

end System

end Onvif
