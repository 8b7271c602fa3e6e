/-
What can go wrong in a restart, call by call.

`_start()` catches nothing, so that a call that fails ends it.  `StartStep` says which answers,
of the calls that succeed, let it go on: the address and the times of the reply are usable, a
closed service is still registered, and the termination time can be formatted.

* **`transparent_start`** — `_start()` ends with the first exception of its calls;
* **`finishes_start`** — what it raises by itself, with answers as `StartStep` says, is an
  `ONVIFError` or a cancellation.
-/
import OnvifZeep.Discovery
import OnvifZeep.Registry
import OnvifZeep.Managers

namespace Onvif

open Coro BaseManager ONVIFCamera

namespace Containment

variable {C : CameraConfig} {interval : TimeDelta}

/-! ### The answers in a restart -/

/-- Caught by the renewal task, which can report it. -/
def Handled (e : Exc) : Prop := e.oneOf renewErrors ∧ e.Reportable

/-- The termination time to ask for can be formatted. -/
def CanRenew (interval : TimeDelta) (s : ONVIFCamera) : Prop :=
  (s.getNextTerminationTime interval).isOk

/-- Likewise as an absolute time. -/
def CanRenewAbsolutely (interval : TimeDelta) (s : ONVIFCamera) : Prop :=
  CanRenew interval { s with hasBrokenRelativeTimestamps := true }

instance (e : Exc) : Decidable (Handled e) := inferInstanceAs (Decidable (_ ∧ _))

instance (interval : TimeDelta) (s : ONVIFCamera) : Decidable (CanRenew interval s) :=
  inferInstanceAs (Decidable (_ = true))

instance (interval : TimeDelta) (s : ONVIFCamera) : Decidable (CanRenewAbsolutely interval s) :=
  inferInstanceAs (Decidable (CanRenew _ _))

/-- The reply to a subscribe request, if the call is one. -/
def subscribeReply? : (c : CameraCall) → cameraInterface.Answer c → Option SubscribeReply
  | .createPullPointSubscription _ _, reply => some reply
  | .subscribe _ _ _, reply => some reply
  | _, _ => none

def grantedReply? : ManagerEvent → Option SubscribeReply
  | ⟨.start c, _, .ok a, _⟩ => subscribeReply? c a
  | _ => none

/-- The device granted a window that calls for absolute times. -/
def Broken (interval : TimeDelta) (v : ManagerEvent) : Prop :=
  (grantedReply? v).any fun reply =>
    brokenRelativeTime interval reply.times.currentTime reply.times.terminationTime

/-- Termination times can be formatted, also as absolute times if these may be needed. -/
def Formats (absolute : Prop) (interval : TimeDelta) (s : ONVIFCamera) : Prop :=
  CanRenew interval s ∧ (absolute → CanRenewAbsolutely interval s)

/-- A reply that a subscription can be made of. -/
def Usable (C : CameraConfig) (reply : SubscribeReply) : Prop :=
  Accepted C reply.address ∧ Schedulable reply.times

/-- The registry still has an entry for every key the service had one for. -/
def EntryKept (sid : ServiceId) (s s' : ONVIFCamera) : Prop :=
  ∀ entry ∈ s.services.entries, entry.2 = sid → (s'.services.get? entry.1).isSome

/-- The answer to a call of `_start()` that left the camera `s` and found it `s'` does not make
`_start()` raise. -/
def AnswerFits (C : CameraConfig) (interval : TimeDelta) (absolute : Prop) (s s' : ONVIFCamera) :
    (c : CameraCall) → cameraInterface.Answer c → Prop
  | .listWsdlDir _, _ => Formats absolute interval s'
  | .setup _, _ => Formats absolute interval s'
  | .close sid, _ => EntryKept sid s s'
  | .createPullPointSubscription _ _, reply => Usable C reply ∧ Formats absolute interval s'
  | .subscribe _ _ _, reply => Usable C reply ∧ Formats absolute interval s'
  | .renew _ _, times => Schedulable times
  | _, _ => True

def StartStep (C : CameraConfig) (interval : TimeDelta) (absolute : Prop) : ManagerEvent → Prop
  | ⟨.start c, before, .ok a, after⟩ =>
    AnswerFits C interval absolute before.held.device after.held.device c a
  | _ => True

instance (interval : TimeDelta) (v : ManagerEvent) : Decidable (Broken interval v) :=
  inferInstanceAs (Decidable (_ = true))

instance (absolute : Prop) [Decidable absolute] (interval : TimeDelta) (s : ONVIFCamera) :
    Decidable (Formats absolute interval s) := inferInstanceAs (Decidable (_ ∧ (_ → _)))

instance (C : CameraConfig) (reply : SubscribeReply) : Decidable (Usable C reply) :=
  inferInstanceAs (Decidable (_ ∧ _))

instance (sid : ServiceId) (s s' : ONVIFCamera) : Decidable (EntryKept sid s s') :=
  inferInstanceAs (Decidable (∀ entry ∈ s.services.entries, entry.2 = sid → _ = true))

instance (C : CameraConfig) (interval : TimeDelta) (absolute : Prop) [Decidable absolute]
    (s s' : ONVIFCamera) : (c : CameraCall) → (a : cameraInterface.Answer c) →
      Decidable (AnswerFits C interval absolute s s' c a)
  | .listWsdlDir _, _ | .setup _, _ => inferInstanceAs (Decidable (Formats _ _ _))
  | .close _, _ => inferInstanceAs (Decidable (EntryKept _ _ _))
  | .createPullPointSubscription _ _, _ | .subscribe _ _ _, _ => inferInstanceAs (Decidable (_ ∧ _))
  | .renew _ _, _ => inferInstanceAs (Decidable (Schedulable _))
  | .getSystemDateAndTime _ _, _ | .getServices _, _ | .getCapabilities _, _ => isTrue trivial

instance (C : CameraConfig) (interval : TimeDelta) (absolute : Prop) [Decidable absolute] :
    (v : ManagerEvent) → Decidable (StartStep C interval absolute v)
  | ⟨.start _, _, .ok _, _⟩ => inferInstanceAs (Decidable (AnswerFits _ _ _ _ _ _ _))
  | ⟨.start _, _, .error _, _⟩ | ⟨.begin, _, _, _⟩ | ⟨.renew _ _, _, _, _⟩
  | ⟨.unsubscribe _, _, _, _⟩ | ⟨.sleep _, _, _, _⟩ => isTrue trivial

/-! ### `_start()` catches nothing -/

theorem transparent_createOnvifService (name : String) (portType : Option String)
    (readTimeout : Option ℕ) : (createOnvifService C name portType readTimeout).Transparent := by
  have hlist : (listWsdlDir C).Transparent := by
    refine .bind .getState fun s => ?_
    cases s.wsdlDirFiles.get? C.wsdlDir with
    | some files => exact .pure ()
    | none => exact .bind (.call _) fun files => .modifyState _
  have hbuild : ∀ definition : String × String × String,
      (buildService C (lower name, portType) definition readTimeout).Transparent :=
    fun definition => .bind .getState fun s => .bind (.ofExcept _) fun service => .bind (.modifyState _) fun _ =>
      .bind (.call _) fun _ => .bind (.modifyState _) fun _ => .pure _
  refine .bind hlist fun _ => .bind .getState fun s => .bind (.ofExcept _) fun definition => ?_
  cases s.existingService (lower name, portType) with
  | none => exact hbuild definition
  | some existing =>
    dsimp only
    by_cases hxaddr : existing.2.xaddr = definition.1
    · rw [if_pos hxaddr]
      exact .pure _
    · rw [if_neg hxaddr]
      refine .bind (.bind (.modifyState _) fun _ => .call _) fun _ =>
        .bind ?_ fun _ => hbuild definition
      refine .bind .getState fun s => ?_
      cases s.services.get? (lower name, portType) with
      | some sid => exact .modifyState _
      | none => exact .raise _

theorem transparent_scheduleRenewal (result : SubscriptionTimes) :
    (scheduleRenewal interval result).Transparent := by
  have hbroken : (hasBrokenRelativeTime interval result.currentTime
      result.terminationTime).Transparent := by
    rw [hasBrokenRelativeTime]
    by_cases h : brokenRelativeTime interval result.currentTime result.terminationTime = true
    · rw [if_pos h]
      exact .bind (.modifyState _) fun _ => .pure true
    · rw [if_neg h]
      exact .pure false
  have hlast : ∀ result : SubscriptionTimes, ((getState : StartCoro (Held ONVIFCamera)) >>= fun h =>
      ofExcept (calculateNextRenewalCallAt interval h.loopTime result)).Transparent :=
    fun result => .bind .getState fun _ => .ofExcept _
  refine .bind (.zoom _ _ hbroken) fun broken => .bind .getState fun h => ?_
  cases broken with
  | false => exact .bind (.pure result) fun result => hlast result
  | true =>
    rw [if_pos rfl]
    cases h.subscription with
    | some sid =>
      exact .bind (.bind .getState fun _ => .ofExcept _) fun time =>
        .bind (.call _) fun result => hlast result
    | none => exact .bind (.raise _) fun result => hlast result

theorem transparent_storeAddress (portType : String) (address : Option String) :
    (storeAddress C portType address).Transparent :=
  .bind (.ofExcept _) fun _ => .zoom _ _ (.modifyState _)

/-- **`_start()`** ends with the first exception of its calls. -/
theorem transparent_start (k : ManagerKind) : (k.start C interval).Transparent := by
  have hcreate : ∀ name portType readTimeout,
      (onDevice (createOnvifService C name portType readTimeout)).Transparent :=
    fun name portType readTimeout => .zoom _ _ (transparent_createOnvifService _ _ _)
  have hnext : (nextTerminationTime interval).Transparent := .bind .getState fun _ => .ofExcept _
  cases k with
  | pullPoint =>
    exact .bind (hcreate _ _ _) fun eventsService => .bind hnext fun time => .bind (.call _)
      fun result => .bind (transparent_storeAddress _ _) fun _ => .bind (hcreate _ _ _)
      fun subscription => .bind (.modifyState _) fun _ => .bind (hcreate _ _ _)
      fun service => .bind (.modifyState _) fun _ => transparent_scheduleRenewal _
  | notification address =>
    exact .bind (hcreate _ _ _) fun notifyService => .bind hnext fun time => .bind (.call _)
      fun result => .bind (transparent_storeAddress _ _) fun _ => .bind (hcreate _ _ _)
      fun service => .bind (.modifyState _) fun _ => .bind (hcreate _ _ _)
      fun subscription => .bind (.modifyState _) fun _ => transparent_scheduleRenewal _

/-! ### What `_start()` raises by itself -/

/-- The task ends with the exception or handles it. -/
def Tolerable (e : Exc) : Prop := e.isCancelledError ∨ Handled e

theorem tolerable_onvif (cls : OnvifErrorClass) (err : String) : Tolerable (.onvif cls err) :=
  Or.inr ⟨rfl, trivial⟩

theorem only_tolerable_getDefinition (s : ONVIFCamera) (name : String) (portType : Option String) :
    Only Tolerable (s.getDefinition C name portType) := by
  have honvif : ∀ message,
      Only Tolerable (onvifError message : Except Exc (String × String × String)) :=
    fun message => only_error (tolerable_onvif _ _)
  rw [getDefinition]
  cases lookupService name with
  | none => exact honvif _
  | some d =>
    refine .ite (honvif _) (.ite (only_ok _) ?_)
    dsimp only
    cases s.xaddrs.get? (definitionNamespace d portType) with
    | none => exact honvif _
    | some xaddr =>
      cases xaddr with
      | none => exact honvif _
      | some xaddr => exact .ite (honvif _) (only_ok _)

theorem only_tolerable_newService (s : ONVIFCamera) (xaddr url bindingName : String)
    (key : BindingKey) (readTimeout : Option ℕ) :
    Only Tolerable (s.newService C xaddr url bindingName key readTimeout) := by
  have hsafe : ∀ r : Except Exc ONVIFService, Only Tolerable (safeFunc r) := by
    intro r
    cases r with
    | ok v => exact only_ok v
    | error e =>
      cases e with
      | cancelledError => exact only_error (Or.inl rfl)
      | _ => exact only_error (tolerable_onvif _ _)
  exact hsafe _

section Restart

variable {absolute : Prop} {α β γ : Type}

/-- What `_start()` works on, wherever it may ask for a termination time. -/
structure Startable (absolute : Prop) (interval : TimeDelta) (h : Held ONVIFCamera) : Prop where
  formats : Formats absolute interval h.device
  subscription : h.subscription.isSome

/-- The call is answered, and as `StartStep` says. -/
def Smooth (C : CameraConfig) (interval : TimeDelta) (absolute : Prop) (v : ManagerEvent) : Prop :=
  v.answer.isOk ∧ StartStep C interval absolute v ∧ (Broken interval v → absolute)

/-- The calls of `_start()` are answered like that. -/
def restartSteps (C : CameraConfig) (interval : TimeDelta) (absolute : Prop) :
    Contract (managerInterface cameraInterface) Exc CameraManager Unit where
  suspend _ _ _ := True
  resume _ c m r _ m' := Smooth C interval absolute ⟨c, m, r, m'⟩ ∧
    (m.held.subscription.isSome → m'.held.subscription.isSome)

/-- **Creating a service** raises nothing that escapes. -/
def startableOutline (C : CameraConfig) (interval : TimeDelta) (absolute : Prop) (name : String)
    (portType : Option String) :
    CreationOutline (deviceContract (restartSteps C interval absolute)) C name portType where
  idle g s := Startable absolute interval (Held.deviceLens.set s g.2)
  closed g s := (s.services.get? (lower name, portType)).isSome ∧ g.2.subscription.isSome
  vacant g _ := g.2.subscription.isSome
  returned _ g s := Startable absolute interval (Held.deviceLens.set s g.2)
  failed e _ _ := Tolerable e
  listed h := by
    refine ⟨trivial, fun r g' s' hr => ?_⟩
    obtain ⟨⟨hok, hstep, -⟩, hsubscription⟩ := device_resume hr
    cases r with
    | ok files => exact ⟨hstep, hsubscription h.subscription⟩
    | error e => cases hok
  undefined _ he := only_tolerable_getDefinition _ _ _ _ he
  reused h _ := h
  absent h _ := h.subscription
  closing h hexisting := by
    refine ⟨trivial, fun r g' s' hr => ?_⟩
    obtain ⟨⟨hok, hstep, -⟩, hsubscription⟩ := device_resume hr
    obtain ⟨hentry, -⟩ := existingService_eq_some.mp hexisting
    cases r with
    | ok _ =>
      exact ⟨hstep _ (Dict.mem_entries_of_get? hentry) rfl, hsubscription h.subscription⟩
    | error e => cases hok
  popped h _ := h.2
  notFound h hentry := absurd h.1 (by rw [hentry]; exact Bool.false_ne_true)
  built h _ _ := by
    refine ⟨trivial, fun r g' s' hr => ?_⟩
    obtain ⟨⟨hok, hstep, -⟩, hsubscription⟩ := device_resume hr
    cases r with
    | ok _ => exact ⟨hstep, hsubscription h⟩
    | error e => cases hok
  notBuilt _ _ he := only_tolerable_newService _ _ _ _ _ _ _ he

/-- `x`, begun where `_start()` may ask for a time, returns there with a result in `A` or raises
what the task tolerates. -/
def Spares (C : CameraConfig) (interval : TimeDelta) (absolute : Prop) (A : α → Prop)
    (x : StartCoro α) : Prop :=
  ∀ g h, Startable absolute interval h →
    wp (startContract (restartSteps C interval absolute))
      (Ends (fun a _ h => A a ∧ Startable absolute interval h) fun e _ _ => Tolerable e) x g h

/-- `x`, begun where `_start()` may ask for a time, returns or raises what the task tolerates. -/
def Finishes (C : CameraConfig) (interval : TimeDelta) (absolute : Prop) (x : StartCoro α) : Prop :=
  ∀ g h, Startable absolute interval h →
    wp (startContract (restartSteps C interval absolute))
      (Ends (fun _ _ _ => True) fun e _ _ => Tolerable e) x g h

theorem Spares.bind {A : α → Prop} {x : StartCoro α} {f : α → StartCoro β}
    (hx : Spares C interval absolute A x) (hf : ∀ a, A a → Finishes C interval absolute (f a)) :
    Finishes C interval absolute (x >>= f) := by
  intro g h hstartable
  rw [wp_bind]
  refine wp_mono (fun r g h hr => ?_) (hx g h hstartable)
  cases r with
  | ok a => exact hf a hr.1 g h hr.2
  | error e => exact hr

theorem spares_create (name : String) (portType : Option String) (readTimeout : Option ℕ) :
    Spares C interval absolute (fun _ => True)
      (onDevice (createOnvifService C name portType readTimeout)) := by
  intro g h hstartable
  refine (wp_zoom _ h).mpr (wp_mono (fun r g s hr => ?_)
    ((startableOutline C interval absolute name portType).wp_createOnvifService (g := (g, h)) hstartable
      readTimeout))
  cases r with
  | ok sid => exact ⟨trivial, hr⟩
  | error e => exact hr

theorem spares_nextTerminationTime :
    Spares C interval absolute (fun _ => True) (nextTerminationTime interval) := by
  intro g h hstartable
  rw [nextTerminationTime, wp_bind, wp_getState, ends_ok, wp_ofExcept]
  have hcan : (h.device.getNextTerminationTime interval).isOk := hstartable.formats.1
  cases htime : h.device.getNextTerminationTime interval with
  | ok time => exact ⟨trivial, hstartable⟩
  | error e =>
    rw [htime] at hcan
    cases hcan

theorem spares_setService (sid : ServiceId) :
    Spares C interval absolute (fun _ => True) (modifyState (Held.setService sid)) :=
  fun _ _ hstartable => ⟨trivial, hstartable.formats, hstartable.subscription⟩

theorem spares_setSubscription (sid : ServiceId) :
    Spares C interval absolute (fun _ => True) (modifyState (Held.setSubscription sid)) :=
  fun _ _ hstartable => ⟨trivial, hstartable.formats, rfl⟩

theorem spares_storeAddress (portType : String) {address : Option String}
    (h : Accepted C address) :
    Spares C interval absolute (fun _ => True) (storeAddress C portType address) := by
  intro g held hstartable
  obtain ⟨url, hurl⟩ := h
  rw [storeAddress, wp_bind, wp_ofExcept, hurl, ends_ok]
  exact ⟨trivial, hstartable.formats, hstartable.subscription⟩

theorem Finishes.getState_bind {f : Held ONVIFCamera → StartCoro α}
    (hf : ∀ h, Startable absolute interval h → Finishes C interval absolute (f h)) :
    Finishes C interval absolute (getState >>= f) :=
  fun g h hstartable => (wp_bind _ _).mpr (hf h hstartable g h hstartable)

/-- The reply to a subscribe request. -/
theorem spares_reply (c : CameraCall) (reply : cameraInterface.Answer c → SubscribeReply)
    (hstep : ∀ m a m', StartStep C interval absolute ⟨.start c, m, .ok a, m'⟩ →
      Usable C (reply a) ∧ Formats absolute interval m'.held.device)
    (hbroken : ∀ m a m', brokenRelativeTime interval (reply a).times.currentTime
      (reply a).times.terminationTime → Broken interval ⟨.start c, m, .ok a, m'⟩) :
    Spares C interval absolute (fun a => Usable C (reply a) ∧
      (brokenRelativeTime interval (reply a).times.currentTime (reply a).times.terminationTime →
        absolute)) (call (I := cameraInterface) c) := by
  intro g h hstartable
  refine (wp_call _).mpr ⟨trivial, fun r g' h' hr => ?_⟩
  obtain ⟨⟨hok, hevent, habsolute⟩, hsubscription⟩ := start_resume hr
  cases r with
  | ok a =>
    obtain ⟨husable, hformats⟩ := hstep _ a _ hevent
    exact ⟨⟨husable, fun h => habsolute (hbroken _ a _ h)⟩, hformats,
      hsubscription hstartable.subscription⟩
  | error e => cases hok

/-- `device.has_broken_relative_time` -/
theorem spares_hasBrokenRelativeTime {currentTime terminationTime : Option DateTime}
    (habsolute : brokenRelativeTime interval currentTime terminationTime → absolute) :
    Spares C interval absolute (fun _ => True)
      (onDevice (hasBrokenRelativeTime interval currentTime terminationTime)) := by
  intro g h hstartable
  rw [onDevice, wp_zoom, hasBrokenRelativeTime]
  by_cases hbroken : brokenRelativeTime interval currentTime terminationTime = true
  · rw [if_pos hbroken, wp_bind, wp_modifyState, ends_ok, wp_pure, ends_ok]
    exact ⟨trivial, ⟨hstartable.formats.2 (habsolute hbroken), hstartable.formats.2⟩,
      hstartable.subscription⟩
  · rw [if_neg hbroken, wp_pure, ends_ok]
    exact ⟨trivial, hstartable.formats, hstartable.subscription⟩

/-- The extra Renew, if it is made, is answered with times to schedule by. -/
theorem finishes_scheduleRenewal {result : SubscriptionTimes} (hresult : Schedulable result)
    (habsolute : brokenRelativeTime interval result.currentTime result.terminationTime → absolute) :
    Finishes C interval absolute (scheduleRenewal interval result) := by
  have hlast : ∀ result : SubscriptionTimes, Schedulable result → ∀ g h,
      wp (startContract (restartSteps C interval absolute))
        (Ends (fun _ _ _ => True) fun e _ _ => Tolerable e)
        ((getState : StartCoro (Held ONVIFCamera)) >>= fun h =>
          ofExcept (calculateNextRenewalCallAt interval h.loopTime result)) g h := by
    intro result hresult g h
    obtain ⟨t, ht⟩ := (calculateNextRenewalCallAt_isOk_iff interval h.loopTime result).mpr hresult
    rw [wp_bind, wp_getState, ends_ok, wp_ofExcept, ht]
    exact trivial
  refine (spares_hasBrokenRelativeTime habsolute).bind fun broken _ =>
    .getState_bind fun h hstartable => ?_
  cases broken with
  | false => exact fun g h _ => hlast result hresult g h
  | true =>
    obtain ⟨sid, hsid⟩ := Option.isSome_iff_exists.mp hstartable.subscription
    rw [if_pos rfl, hsid]
    refine spares_nextTerminationTime.bind fun time _ g h _ => ?_
    rw [wp_bind]
    refine (wp_call _).mpr ⟨trivial, fun r g' h' hr => ?_⟩
    obtain ⟨⟨hok, hstep, -⟩, -⟩ := start_resume hr
    cases r with
    | ok times => exact hlast times hstep g' h'
    | error e => cases hok

/-- **`_start()`** of either manager. -/
theorem finishes_start (k : ManagerKind) : Finishes C interval absolute (k.start C interval) := by
  cases k with
  | pullPoint =>
    refine (spares_create _ _ _).bind fun eventsService _ => spares_nextTerminationTime.bind
      fun time _ => (spares_reply (.createPullPointSubscription eventsService time) (fun a => a)
        (fun _ _ _ h => h) fun _ _ _ h => h).bind fun result hresult => ?_
    exact (spares_storeAddress _ hresult.1.1).bind fun _ _ => (spares_create _ _ _).bind
      fun subscription _ => (spares_setSubscription _).bind fun _ _ => (spares_create _ _ _).bind
      fun service _ => (spares_setService _).bind fun _ _ =>
      finishes_scheduleRenewal hresult.1.2 hresult.2
  | notification address =>
    refine (spares_create _ _ _).bind fun notifyService _ => spares_nextTerminationTime.bind
      fun time _ => (spares_reply (.subscribe notifyService time address) (fun a => a)
        (fun _ _ _ h => h) fun _ _ _ h => h).bind fun result hresult => ?_
    exact (spares_storeAddress _ hresult.1.1).bind fun _ _ => (spares_create _ _ _).bind
      fun service _ => (spares_setService _).bind fun _ _ => (spares_create _ _ _).bind
      fun subscription _ => (spares_setSubscription _).bind fun _ _ =>
      finishes_scheduleRenewal hresult.1.2 hresult.2

end Restart

end Containment

end Onvif
