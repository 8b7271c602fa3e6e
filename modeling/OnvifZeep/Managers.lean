/-
`managers.py`: the notification and pull-point managers.

A manager's `_start()` works on the fields it may write and on the camera, which is a part of
what it holds; a method of the camera that it awaits runs on that part (`onDevice`).

* **`PullPointManager.start`**, **`NotificationManager.start`** — the two `_start()` methods;
* **`manager`** — what they and the camera contribute to the base class;
* **`start_resume`**, **`device_resume`** — the contract of a task, as `_start()` and the camera
  in it see it.
-/
import OnvifZeep.Registry

namespace Onvif

open Coro

/-- A coroutine of `_start()`. -/
abbrev StartCoro (α : Type) : Type := Coro cameraInterface Exc (Held ONVIFCamera) α

namespace Held

/-- The device a manager holds. -/
def deviceLens : Lens (Held ONVIFCamera) ONVIFCamera where
  get h := h.device
  set s h := { h with device := s }
  get_set _ _ := rfl
  set_get _ := rfl
  set_set _ _ _ := rfl

def setSubscription (sid : ServiceId) (h : Held ONVIFCamera) : Held ONVIFCamera :=
  { h with subscription := some sid }

def setService (sid : ServiceId) (h : Held ONVIFCamera) : Held ONVIFCamera :=
  { h with service := some sid }

end Held

/-- A coroutine of the camera, run by its manager. -/
def onDevice {α : Type} (x : CameraCoro α) : StartCoro α :=
  zoom (Embedding.id cameraInterface) Held.deviceLens x

def PULLPOINT_TIMEOUT : ℕ := 90

/-- The port types of the two managers. -/
def pullPointPortType : String := "PullPointSubscription"

def notificationPortType : String := "NotificationConsumer"

/-- `device.get_next_termination_time(self._interval)`. -/
def nextTerminationTime (interval : TimeDelta) : StartCoro String := do
  let h ← getState
  ofExcept (h.device.getNextTerminationTime interval)

/-- The namespace under which a manager stores the address of its subscription. -/
def subscriptionNamespace (portType : String) : String :=
  "http://www.onvif.org/ver10/events/wsdl/" ++ portType

/-- Store the address a subscription was created at. -/
def storeAddress (C : CameraConfig) (portType : String) (address : Option String) :
    StartCoro Unit := do
  let url ← ofExcept (discoveredUrl C address)
  onDevice (modifyState (ONVIFCamera.setXaddr (subscriptionNamespace portType) url))

/-- The extra Renew for a device with broken relative timestamps, and the time of the next
renewal. -/
def scheduleRenewal (interval : TimeDelta) (result : SubscriptionTimes) : StartCoro ℚ := do
  let broken ← onDevice
    (ONVIFCamera.hasBrokenRelativeTime interval result.currentTime result.terminationTime)
  let h ← getState
  let result ←
    if broken then
      match h.subscription with
      | some subscription => do
        let time ← nextTerminationTime interval
        call (I := cameraInterface) (.renew subscription time)
      | none => .raise (.builtin .attributeError "'NoneType' object has no attribute 'Renew'")
    else pure result
  let h ← getState
  ofExcept (BaseManager.calculateNextRenewalCallAt interval h.loopTime result)

namespace PullPointManager

/-- `PullPointManager._start`. -/
def start (C : CameraConfig) (interval : TimeDelta) : StartCoro ℚ := do
  let eventsService ← onDevice (ONVIFCamera.createOnvifService C "events" none none)
  let time ← nextTerminationTime interval
  let result ← call (I := cameraInterface) (.createPullPointSubscription eventsService time)
  storeAddress C pullPointPortType result.address
  let subscription ← onDevice
    (ONVIFCamera.createOnvifService C "subscription" (some pullPointPortType) none)
  modifyState (Held.setSubscription subscription)
  let service ← onDevice
    (ONVIFCamera.createOnvifService C "pullpoint" (some pullPointPortType) (some PULLPOINT_TIMEOUT))
  modifyState (Held.setService service)
  scheduleRenewal interval result.times

end PullPointManager

namespace NotificationManager

/-- `NotificationManager._start`. -/
def start (C : CameraConfig) (address : String) (interval : TimeDelta) : StartCoro ℚ := do
  let notifyService ← onDevice (ONVIFCamera.createOnvifService C "notification" none none)
  let time ← nextTerminationTime interval
  let result ← call (I := cameraInterface) (.subscribe notifyService time address)
  storeAddress C notificationPortType result.address
  let service ← onDevice
    (ONVIFCamera.createOnvifService C "pullpoint" (some notificationPortType) none)
  modifyState (Held.setService service)
  let subscription ← onDevice
    (ONVIFCamera.createOnvifService C "subscription" (some notificationPortType) none)
  modifyState (Held.setSubscription subscription)
  scheduleRenewal interval result.times

end NotificationManager

/-- The two managers, a notification manager with the address of its consumer. -/
inductive ManagerKind where
  | pullPoint
  | notification (address : String)

namespace ManagerKind

def portType : ManagerKind → String
  | .pullPoint => pullPointPortType
  | .notification _ => notificationPortType

def start (C : CameraConfig) (interval : TimeDelta) : ManagerKind → StartCoro ℚ
  | .pullPoint => PullPointManager.start C interval
  | .notification address => NotificationManager.start C address interval

/-- The binding key of the manager's subscription. -/
def subscriptionKey (k : ManagerKind) : BindingKey := ("subscription", some k.portType)

/-- The binding key of `_service`. -/
def serviceKey (k : ManagerKind) : BindingKey := ("pullpoint", some k.portType)

/-- The keys of `_subscription` and `_service`. -/
def Session (k : ManagerKind) (key : BindingKey) : Prop :=
  key = k.subscriptionKey ∨ key = k.serviceKey

/-- The namespace the manager stores the address of its subscription under. -/
def space (k : ManagerKind) : String := subscriptionNamespace k.portType

instance (k : ManagerKind) (key : BindingKey) : Decidable (k.Session key) :=
  inferInstanceAs (Decidable (_ ∨ _))

/-- Both services are looked up where the address is stored. -/
theorem address_space (C : CameraConfig) (s : ONVIFCamera) (k : ManagerKind) {key : BindingKey}
    (hkey : k.Session key) : s.address C key.1 key.2 = (s.xaddrs.get? k.space).join := by
  rcases hkey with rfl | rfl
  · cases k with
    | pullPoint => rfl
    | notification address => rfl
  · cases k with
    | pullPoint => rfl
    | notification address => rfl

end ManagerKind

/-- A manager of the camera. -/
def manager (C : CameraConfig) (interval : TimeDelta) (k : ManagerKind) :
    ManagerClass ONVIFCamera cameraInterface where
  interval := interval
  sessionClosed := ONVIFCamera.isClosed
  getNextTerminationTime := ONVIFCamera.getNextTerminationTime
  start := k.start C interval

/-! ### Contracts of `_start()` and of the camera in it -/

abbrev CameraManager : Type := BaseManager ONVIFCamera

abbrev ManagerEvent : Type := Event (managerInterface cameraInterface) Exc CameraManager

section View

variable {γ : Type} (K : Contract (managerInterface cameraInterface) Exc CameraManager γ)

abbrev startContract : Contract cameraInterface Exc (Held ONVIFCamera) (γ × CameraManager) :=
  K.zoom (BaseManager.startEmbedding cameraInterface) BaseManager.heldLens

abbrev deviceContract :
    Contract cameraInterface Exc ONVIFCamera ((γ × CameraManager) × Held ONVIFCamera) :=
  (startContract K).zoom (Embedding.id cameraInterface) Held.deviceLens

/-- The manager with what `_start()` works on in it. -/
def heldView (g : γ × CameraManager) (h : Held ONVIFCamera) : CameraManager :=
  BaseManager.heldLens.set h g.2

/-- The manager with a camera in it, from the rest of what it holds. -/
def view (g : (γ × CameraManager) × Held ONVIFCamera) (s : ONVIFCamera) : CameraManager :=
  heldView g.1 (Held.deviceLens.set s g.2)

variable {K} {c : CameraCall} {r : Except Exc (cameraInterface.Answer c)}

theorem start_resume {g g' : γ × CameraManager} {h h' : Held ONVIFCamera}
    (hr : (startContract K).resume g c h r g' h') :
    K.resume g.1 (.start c) (heldView g h) r g'.1 (heldView g' h') := by
  obtain ⟨r', hr', hresume, hheld⟩ := hr
  have hsame : r = r' := by
    rw [hr']
    cases r' with
    | ok a => rfl
    | error e => rfl
  have hview : heldView g' h' = g'.2 := by
    rw [heldView, hheld]
    rfl
  rw [hview, hsame]
  exact hresume

theorem device_resume {g g' : (γ × CameraManager) × Held ONVIFCamera} {s s' : ONVIFCamera}
    (hr : (deviceContract K).resume g c s r g' s') :
    K.resume g.1.1 (.start c) (view g s) r g'.1.1 (view g' s') := by
  obtain ⟨r', hr', hresume, hdevice⟩ := hr
  have hsame : r = r' := by
    rw [hr']
    cases r' with
    | ok a => rfl
    | error e => rfl
  have hview : view g' s' = heldView g'.1 g'.2 := by
    rw [view, hdevice]
    rfl
  rw [hview, hsame]
  exact start_resume hresume

end View

end Onvif
