/-
A camera in use: any number of calls of its consumer and any number of managers.

Calls, managers and the surroundings take steps in any order, and nothing is assumed of what the
calls they make are answered.  Whoever takes a step leaves the camera to all others as it is then.

* **`InUse`** — the calls in progress and the managers with their tasks;
* **`Upholds`** — an invariant of the camera, and that what is left of every call and task keeps it;
* **`upholds_run`** — what every call, every `_start()` and the surroundings keep holds in every run.
-/
import OnvifZeep.DeviceInvariant
import OnvifZeep.RegistryIntegrity
import OnvifZeep.SharedCamera

namespace Onvif

open Coro ONVIFCamera Onvif.System

/-- A camera and its managers: the arguments they were constructed with. -/
structure CameraUse (ι : Type) where
  config : CameraConfig
  interval : ι → TimeDelta
  kind : ι → ManagerKind

variable {ι : Type}

def CameraUse.manager (X : CameraUse ι) (i : ι) : ManagerClass ONVIFCamera cameraInterface :=
  Onvif.manager X.config (X.interval i) (X.kind i)

/-- The calls of the consumer and the managers with their tasks; each holds the camera as it is. -/
structure InUse (ι : Type) where
  calls : CameraTasks
  managers : ι → SharedCamera.CameraSystem

namespace InUse

/-- A camera that nobody has called yet. -/
def init (camera : ONVIFCamera) (loopTime : ℚ) : InUse ι where
  calls := { shared := camera, tasks := [] }
  managers _ := System.init camera loopTime

/-- What happens next: a new call, the answer to one, something to a manager, or the surroundings of
all of them change. -/
inductive Action (ι : Type) where
  | call (op : CameraOp)
  | answer (t : TaskId) (c : CameraCall) (r : Except Exc (cameraInterface.Answer c))
  | act (i : ι) (a : System.Action cameraInterface ONVIFCamera)
  | surround (now : ℤ) (wsdlDirFiles : Dict String (Option (List String)))
      (pathIsfile : String → Bool) (sessionRaises : Option Exc) (elapsed : ℚ)
      (callbackRaises : ι → Option Exc)

/-- The camera is as the calls left it. -/
def afterCalls (W : InUse ι) (calls : CameraTasks) : InUse ι where
  calls := calls
  managers i := (W.managers i).update (SharedCamera.Pair.setDevice calls.shared)

/-- The camera is as manager `i` left it. -/
def afterManager [DecidableEq ι] (W : InUse ι) (i : ι) (S : SharedCamera.CameraSystem) : InUse ι where
  calls := W.calls.update fun _ => S.shared.held.device
  managers j :=
    if j = i then S else (W.managers j).update (SharedCamera.Pair.setDevice S.shared.held.device)

/-- One step; `none` if the action is not possible now. -/
def step [DecidableEq ι] (X : CameraUse ι) (W : InUse ι) : Action ι → Option (InUse ι)
  | .call op =>
    some (W.afterCalls (W.calls.start op (perform X.config op >>= fun _ => pure ())))
  | .answer t c r => (W.calls.resume t c r).map W.afterCalls
  | .act i a =>
    if SharedCamera.Surrounding a then none
    else (System.step (X.manager i) (W.managers i) a).map (W.afterManager i)
  | .surround now wsdlDirFiles pathIsfile sessionRaises elapsed callbackRaises =>
    if 0 ≤ elapsed then
      some
        { calls := W.calls.update
            (ONVIFCamera.surround now wsdlDirFiles pathIsfile sessionRaises)
          managers := fun i => (W.managers i).update fun m => System.surround
            (m.held.device.surround now wsdlDirFiles pathIsfile sessionRaises)
            (m.held.loopTime + elapsed) (callbackRaises i) m }
    else none

/-- The state after some actions. -/
abbrev run [DecidableEq ι] (X : CameraUse ι) (W : InUse ι) (actions : List (Action ι)) :
    Option (InUse ι) :=
  Runs.run (step X) W actions

/-- The camera meets the invariant, what is left of every call and task keeps it, and all hold the
same camera. -/
structure Upholds (Inv : ONVIFCamera → Prop) (W : InUse ι) : Prop where
  calls : W.calls.Keeping Inv
  managers : ∀ i, (W.managers i).Keeping (OfDevice Inv)
  device : ∀ i, (W.managers i).shared.held.device = W.calls.shared

variable {Inv : ONVIFCamera → Prop} {X : CameraUse ι} {W W' : InUse ι}

theorem upholds_init {camera : ONVIFCamera} (h : Inv camera) (loopTime : ℚ) :
    Upholds Inv (init camera loopTime : InUse ι) where
  calls := ⟨h, fun _ ht => nomatch ht⟩
  managers _ := ⟨h, fun _ ht => nomatch ht⟩
  device _ := rfl

/-- **A step of the calls** is one of all that hold the camera. -/
theorem Upholds.afterCalls (h : Upholds Inv W) {calls : CameraTasks} (hcalls : calls.Keeping Inv) :
    Upholds Inv (W.afterCalls calls) where
  calls := hcalls
  managers i := (h.managers i).update hcalls.shared
  device _ := rfl

theorem managers_afterManager [DecidableEq ι] (W : InUse ι) (i : ι) (S : SharedCamera.CameraSystem)
    (j : ι) : (W.afterManager i S).managers j = if j = i then S
      else (W.managers j).update (SharedCamera.Pair.setDevice S.shared.held.device) := rfl

/-- **A step of a manager** is one of all that hold the camera. -/
theorem Upholds.afterManager [DecidableEq ι] (h : Upholds Inv W) {i : ι} {S : SharedCamera.CameraSystem}
    (hS : S.Keeping (OfDevice Inv)) : Upholds Inv (W.afterManager i S) where
  calls := h.calls.update (f := fun _ => S.shared.held.device) hS.shared
  managers j := by
    rw [managers_afterManager]
    by_cases hj : j = i
    · rw [if_pos hj]
      exact hS
    · rw [if_neg hj]
      exact (h.managers j).update hS.shared
  device j := by
    rw [managers_afterManager]
    by_cases hj : j = i
    · rw [if_pos hj]
      rfl
    · rw [if_neg hj]
      rfl

section Steps

variable [DecidableEq ι]
  (hperform : ∀ op, Maintains Inv (perform X.config op))
  (hstart : ∀ i, Maintains (fun held : Held ONVIFCamera => Inv held.device) (X.manager i).start)
  (hsurround : ∀ now wsdlDirFiles pathIsfile sessionRaises s, Inv s →
    Inv (ONVIFCamera.surround now wsdlDirFiles pathIsfile sessionRaises s))

include hperform hstart hsurround

/-- **One step** keeps what every call, every `_start()` and the surroundings keep. -/
theorem upholds_step (h : Upholds Inv W) {a : Action ι} (hstep : step X W a = some W') : Upholds Inv W' := by
  cases a with
  | call op =>
    obtain rfl := Option.some.inj hstep
    exact h.afterCalls (h.calls.start op (.bind (hperform op) fun _ => .pure ()))
  | answer t c r =>
    obtain ⟨calls, hcalls, rfl⟩ := Option.map_eq_some_iff.mp hstep
    exact h.afterCalls (h.calls.resume hcalls)
  | act i a =>
    rw [step] at hstep
    by_cases hown : SharedCamera.Surrounding a
    · rw [if_pos hown] at hstep
      cases hstep
    · rw [if_neg hown] at hstep
      obtain ⟨S, hS, rfl⟩ := Option.map_eq_some_iff.mp hstep
      refine h.afterManager (keeping_step (keepsDevice_innerStart (hstart i)) (h.managers i) ?_ hS)
      rintro device loopTime raises rfl
      exact (hown trivial).elim
  | surround now wsdlDirFiles pathIsfile sessionRaises elapsed callbackRaises =>
    rw [step] at hstep
    by_cases helapsed : 0 ≤ elapsed
    · rw [if_pos helapsed] at hstep
      obtain rfl := Option.some.inj hstep
      have hkept := hsurround now wsdlDirFiles pathIsfile sessionRaises
      refine ⟨h.calls.update (hkept _ h.calls.shared),
        fun i => (h.managers i).update (hkept _ (h.managers i).shared), fun i => ?_⟩
      exact congrArg (ONVIFCamera.surround now wsdlDirFiles pathIsfile sessionRaises) (h.device i)
    · rw [if_neg helapsed] at hstep
      cases hstep

/-- **Every run** keeps it. -/
theorem upholds_run {camera : ONVIFCamera} (hcamera : Inv camera) {loopTime : ℚ}
    {actions : List (Action ι)} (hrun : run X (init camera loopTime) actions = some W) :
    Upholds Inv W :=
  Runs.run_invariant_of_step (fun _ _ _ h => upholds_step hperform hstart hsurround h)
    (upholds_init hcamera loopTime) hrun

end Steps

end InUse

end Onvif
