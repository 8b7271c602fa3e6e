/-
What a successful `_start()` of a manager establishes.

The device answers a subscribe request with an address and two timestamps.  The manager stores the
address, rewritten, creates its subscription and its service there, and schedules the renewal by the
timestamps, or, where these show that the device does not know relative times, by those of a first
Renew.  Others may change the clocks meanwhile, and nothing else.

* **`Served`** — a service of a port type at an address, registered and open;
  `ensures_createOnvifService_served` is what `create_onvif_service` does for it;
* **`Established`** — the manager, the camera and the time of the next renewal after `_start()`;
* **`start_establishes`** — both managers, for every run that ends normally.
-/
import OnvifZeep.FailedRestart
import OnvifZeep.Managers
import OnvifZeep.RestartSteps
import OnvifZeep.ServiceCreation

namespace Onvif

open Coro BaseManager ONVIFCamera

namespace ManagerStart

open FailedRestart (OpenFor)

variable {C : CameraConfig} {s s' s'' : ONVIFCamera} {key : BindingKey} {sid i : ServiceId}
  {v : ONVIFService} {interval : TimeDelta}

/-! ### Services that are registered and open -/

/-- Every registered service is one for its key, and open. -/
def AllOpen (s : ONVIFCamera) : Prop :=
  ∀ key sid, s.services.get? key = some sid → OpenFor key sid s

theorem AllOpen.registered (h : AllOpen s) : Registered s := by
  intro key sid hsid
  obtain ⟨v, hv, hkey, -⟩ := h key sid hsid
  exact ⟨v, hv, hkey⟩

theorem AllOpen.of_same (h : AllOpen s) (hsame : SameRegistry s s') : AllOpen s' := by
  intro key sid hsid
  rw [hsame.services] at hsid
  obtain ⟨v, hv, hv'⟩ := h key sid hsid
  exact ⟨v, by rw [hsame.service?, hv], hv'⟩

/-- The service registered for the key is `sid`, at the address and open. -/
structure Served (key : BindingKey) (address : String) (sid : ServiceId) (s : ONVIFCamera) :
    Prop where
  entry : s.services.get? key = some sid
  opened : ∃ v, s.service? sid = some v ∧ v.xaddr = address ∧ v.bindingKey = key ∧
    v.sessionClosed = false

/-- What `create_onvif_service` leaves: the service of its key served, and the others as they
were. -/
structure Provided (C : CameraConfig) (s : ONVIFCamera) (key : BindingKey) (sid : ServiceId)
    (s' : ONVIFCamera) : Prop where
  xaddrs : s'.xaddrs = s.xaddrs
  allOpen : AllOpen s'
  served : ∃ address, s.address C key.1 key.2 = some address ∧ Served key address sid s'
  others : ∀ key' address i, key' ≠ key → Served key' address i s → Served key' address i s'

theorem Provided.of_same (hsame : SameRegistry s s') (h : Provided C s' key sid s'') :
    Provided C s key sid s'' where
  xaddrs := h.xaddrs.trans hsame.xaddrs
  allOpen := h.allOpen
  served := by
    obtain ⟨address, haddress, hserved⟩ := h.served
    exact ⟨address, by rw [← hsame.address, haddress], hserved⟩
  others key' address i hne hserved := by
    refine h.others key' address i hne ⟨by rw [hsame.services]; exact hserved.entry, ?_⟩
    obtain ⟨v, hv, hv'⟩ := hserved.opened
    exact ⟨v, by rw [hsame.service?, hv], hv'⟩

/-- What building a service leaves. -/
structure BuiltAt (s : ONVIFCamera) (key : BindingKey) (address : String) (sid : ServiceId)
    (s' : ONVIFCamera) : Prop where
  xaddrs : s'.xaddrs = s.xaddrs
  allOpen : AllOpen s'
  served : Served key address sid s'
  others : ∀ key' address i, key' ≠ key → Served key' address i s → Served key' address i s'

theorem ensures_buildService_served (h : AllOpen s) (key : BindingKey)
    (definition : String × String × String) (readTimeout : Option ℕ) :
    Ensures (buildService C key definition readTimeout) s
      fun sid s' => BuiltAt s key definition.1 sid s' := by
  refine .bind (.bind (.ofExcept fun v hv => ?_))
  obtain ⟨hxaddr, -, hkey, hopened⟩ := newService_spec hv
  refine .bind (.bind (.await fun _ s₁ hsame => .bind ?_))
  have hself : s₁.service? s.constructed.length = some v := by
    rw [hsame.service?]
    exact service?_addService_self v s
  have hold : ∀ i u, s.service? i = some u → s₁.service? i = some u := by
    intro i u hu
    rw [hsame.service?]
    exact service?_addService_of_some hu v
  have hget : ∀ key', (s₁.register key s.constructed.length).services.get? key'
      = if key' = key then some s.constructed.length else s.services.get? key' := by
    intro key'
    rw [ONVIFCamera.register, Dict.get?_insert, hsame.services]
    rfl
  refine ⟨hsame.xaddrs, fun key' i hi => ?_, ⟨?_, v, hself, hxaddr, hkey, hopened⟩,
    fun key' address i hne hserved => ⟨?_, ?_⟩⟩
  · rw [hget] at hi
    by_cases hne : key' = key
    · rw [if_pos hne] at hi
      rw [← Option.some.inj hi, hne]
      exact ⟨v, hself, hkey, hopened⟩
    · rw [if_neg hne] at hi
      obtain ⟨u, hu, hu'⟩ := h key' i hi
      exact ⟨u, hold i u hu, hu'⟩
  · rw [hget, if_pos rfl]
  · rw [hget, if_neg hne, hserved.entry]
  · obtain ⟨u, hu, hu'⟩ := hserved.opened
    exact ⟨u, hold i u hu, hu'⟩

/-- Closing the service of a key and removing its entry leaves the others. -/
theorem retired_of_close (h : AllOpen s) (hi : s.services.get? key = some i)
    (hsame : SameRegistry (s.markClosed i) s') :
    AllOpen (s'.unregister key) ∧
      ∀ key' address j, key' ≠ key → Served key' address j s →
        Served key' address j (s'.unregister key) := by
  have hget : ∀ key', (s'.unregister key).services.get? key'
      = if key' = key then none else s.services.get? key' := by
    intro key'
    rw [ONVIFCamera.unregister, Dict.get?_erase, hsame.services]
    rfl
  have hold : ∀ key' j u, key' ≠ key → s.service? j = some u → u.bindingKey = key' →
      s'.service? j = some u := by
    intro key' j u hne hu hkey'
    obtain ⟨v, hv, hkey, -⟩ := h key i hi
    have hij : i ≠ j := by
      rintro rfl
      obtain rfl := Option.some.inj (hv.symm.trans hu)
      exact hne (hkey'.symm.trans hkey)
    rw [hsame.service?, service?_markClosed, if_neg hij, hu]
  refine ⟨fun key' j hj => ?_, fun key' address j hne hserved => ⟨?_, ?_⟩⟩
  · rw [hget] at hj
    by_cases hne : key' = key
    · rw [if_pos hne] at hj
      cases hj
    · rw [if_neg hne] at hj
      obtain ⟨u, hu, hkey', hopened⟩ := h key' j hj
      exact ⟨u, hold key' j u hne hu hkey', hkey', hopened⟩
  · rw [hget, if_neg hne, hserved.entry]
  · obtain ⟨u, hu, hxaddr, hkey', hopened⟩ := hserved.opened
    exact ⟨u, hold key' j u hne hu hkey', hxaddr, hkey', hopened⟩

theorem BuiltAt.provided {name : String} {portType : Option String} {address : String}
    (h : BuiltAt s' (name, portType) address sid s'') (hxaddrs : s'.xaddrs = s.xaddrs)
    (haddress : s.address C name portType = some address)
    (hothers : ∀ key' address i, key' ≠ (name, portType) → Served key' address i s →
      Served key' address i s') : Provided C s (name, portType) sid s'' where
  xaddrs := h.xaddrs.trans hxaddrs
  allOpen := h.allOpen
  served := ⟨address, haddress, h.served⟩
  others key' address' i hne hserved := h.others key' address' i hne
    (hothers key' address' i hne hserved)

/-- **Creating a service** provides it at its address, and leaves the others alone. -/
theorem ensures_createOnvifService_served (h : AllOpen s) (name : String)
    (portType : Option String) (readTimeout : Option ℕ) :
    Ensures (createOnvifService C name portType readTimeout) s
      fun sid s' => Provided C s (lower name, portType) sid s' := by
  refine .bind ((ensures_listWsdlDir s).mono fun _ s₁ hsame => ?_)
  have h₁ : AllOpen s₁ := h.of_same hsame
  refine .mono ?_ fun sid s' hprovided => Provided.of_same hsame hprovided
  refine .bind (.bind (.ofExcept fun definition hdefinition => ?_))
  have haddress := getDefinition_address hdefinition
  cases hexisting : s₁.existingService (lower name, portType) with
  | none =>
    refine (ensures_buildService_served h₁ _ definition readTimeout).mono fun sid s' hbuilt => ?_
    exact hbuilt.provided rfl haddress fun _ _ _ _ hserved => hserved
  | some entry =>
    obtain ⟨i, u⟩ := entry
    obtain ⟨hi, hu⟩ := existingService_eq_some.mp hexisting
    dsimp only
    by_cases hxaddr : u.xaddr = definition.1
    · rw [if_pos hxaddr]
      -- reused
      obtain ⟨u', hu', hkey, hopened⟩ := h₁ _ i hi
      obtain rfl := Option.some.inj (hu.symm.trans hu')
      exact ⟨rfl, h₁, ⟨definition.1, haddress, hi, u, hu, hxaddr, hkey, hopened⟩,
        fun _ _ _ _ hserved => hserved⟩
    · rw [if_neg hxaddr]
      -- replaced
      refine .bind ((ensures_closeService i s₁).mono fun _ s₂ hclosed => ?_)
      refine .bind ((ensures_popService _ s₂).mono fun _ s₃ hpop => ?_)
      subst hpop
      obtain ⟨hopen, hothers⟩ := retired_of_close h₁ hi hclosed
      refine (ensures_buildService_served hopen _ definition readTimeout).mono
        fun sid s' hbuilt => ?_
      exact hbuilt.provided hclosed.xaddrs haddress hothers

/-! ### Runs of `_start()` -/

abbrev HeldCamera : Type := Held ONVIFCamera

abbrev StartEvent : Type := Event cameraInterface Exc HeldCamera

/-- Others change nothing but the clocks. -/
structure LeftAlone (h h' : HeldCamera) : Prop where
  subscription : h'.subscription = h.subscription
  service : h'.service = h.service
  device : SameRegistry h.device h'.device

def AloneDuring (v : StartEvent) : Prop := LeftAlone v.before v.after

/-- A call that only manages services. -/
def Housekeeping : CameraCall → Prop
  | .listWsdlDir _ | .close _ | .setup _ => True
  | _ => False

/-- What was called since `trace` only managed services. -/
def KeptHouse (trace trace' : List StartEvent) : Prop :=
  ∃ front, trace' = trace ++ front ∧ ∀ v ∈ front, Housekeeping v.call

theorem KeptHouse.refl (trace : List StartEvent) : KeptHouse trace trace :=
  ⟨[], (List.append_nil trace).symm, fun _ hv => absurd hv List.not_mem_nil⟩

theorem KeptHouse.trans {trace trace' trace'' : List StartEvent} (h : KeptHouse trace trace')
    (h' : KeptHouse trace' trace'') : KeptHouse trace trace'' := by
  obtain ⟨front, rfl, hfront⟩ := h
  obtain ⟨back, rfl, hback⟩ := h'
  exact ⟨front ++ back, List.append_assoc _ _ _, fun v hv =>
    (List.mem_append.mp hv).elim (hfront v) (hback v)⟩

/-- If `x` ends normally, it ends with `P`. -/
def Attains {α : Type} (x : StartCoro α) (trace : List StartEvent) (h : HeldCamera)
    (P : α → List StartEvent → HeldCamera → Prop) : Prop :=
  wp (recording AloneDuring) (Ends P fun _ _ _ => True) x trace h

section Attains

variable {α β : Type} {trace : List StartEvent} {h : HeldCamera}

theorem Attains.mono {x : StartCoro α} {P P' : α → List StartEvent → HeldCamera → Prop}
    (hx : Attains x trace h P) (hP : ∀ a trace h, P a trace h → P' a trace h) :
    Attains x trace h P' := by
  refine wp_mono (fun r trace h hr => ?_) hx
  cases r with
  | ok a => exact hP a trace h hr
  | error e => exact trivial

theorem Attains.bind {x : StartCoro α} {f : α → StartCoro β}
    {P : β → List StartEvent → HeldCamera → Prop}
    (hx : Attains x trace h fun a trace h => Attains (f a) trace h P) :
    Attains (x >>= f) trace h P := (wp_bind x f).mpr hx

theorem Attains.getState {f : HeldCamera → StartCoro β}
    {P : β → List StartEvent → HeldCamera → Prop} (hf : Attains (f h) trace h P) :
    Attains (getState >>= f) trace h P := .bind hf

theorem Attains.ofExcept {r : Except Exc α} {P : α → List StartEvent → HeldCamera → Prop}
    (hr : ∀ a, r = .ok a → P a trace h) : Attains (ofExcept r) trace h P := by
  refine (wp_ofExcept r).mpr ?_
  cases r with
  | ok a => exact hr a rfl
  | error e => exact trivial

theorem Attains.await {c : CameraCall}
    {P : cameraInterface.Answer c → List StartEvent → HeldCamera → Prop}
    (hc : ∀ a h', LeftAlone h h' → P a (trace ++ [⟨c, h, .ok a, h'⟩]) h') :
    Attains (call (I := cameraInterface) c) trace h P := by
  refine (wp_call_recording (I := cameraInterface)).mpr fun r h' halone => ?_
  cases r with
  | ok a => exact hc a h' halone
  | error e => exact trivial

end Attains

/-- `_start()` as the camera in it sees it. -/
abbrev deviceRecording :
    Contract cameraInterface Exc ONVIFCamera (List StartEvent × HeldCamera) :=
  (recording AloneDuring).zoom (Embedding.id cameraInterface) Held.deviceLens

theorem device_of_resume {g g' : List StartEvent × HeldCamera} {c : CameraCall}
    {r : Except Exc (cameraInterface.Answer c)} (hr : deviceRecording.resume g c s r g' s') :
    (∃ v : StartEvent, v.call = c ∧ g'.1 = g.1 ++ [v]) ∧ g'.2.subscription = g.2.subscription ∧
      g'.2.service = g.2.service ∧ SameRegistry s s' := by
  obtain ⟨r', -, ⟨htrace, halone⟩, hs'⟩ := hr
  have hdevice : SameRegistry s g'.2.device := halone.device
  refine ⟨⟨_, rfl, htrace⟩, halone.subscription, halone.service, ?_⟩
  rwa [show s' = g'.2.device from hs']

/-- Creating a service in `_start()`. -/
theorem attains_createOnvifService {trace : List StartEvent} {h : HeldCamera}
    (hopen : AllOpen h.device) (name : String) (hname : lower name = name)
    (portType : Option String) (readTimeout : Option ℕ) :
    Attains (onDevice (createOnvifService C name portType readTimeout)) trace h
      fun sid trace' h' => KeptHouse trace trace' ∧ h'.subscription = h.subscription ∧
        h'.service = h.service ∧ Provided C h.device (name, portType) sid h'.device := by
  -- what becomes of the camera
  have hdevice : wp deviceRecording
      (fun r _ s' => Ends (fun sid (_ : Unit) => Provided C h.device (name, portType) sid)
        (fun _ _ _ => True) r () s')
      (createOnvifService C name portType readTimeout) (trace, h) h.device := by
    have hserved := ensures_createOnvifService_served (C := C) hopen name portType readTimeout
    rw [hname] at hserved
    exact wp_comap (fun _ => ()) (fun _ _ _ _ => trivial)
      (fun _ _ _ _ _ _ hr => (device_of_resume hr).2.2.2) hserved
  -- what was called, and what the manager holds
  have hawait : ∀ c : CameraCall, Housekeeping c → Preserves deviceRecording
      (fun g _ => KeptHouse trace g.1 ∧ g.2.subscription = h.subscription ∧
        g.2.service = h.service) (await c) := by
    intro c hc
    refine .call (fun _ _ _ => trivial) fun g s r g' s' hkept hr => ?_
    obtain ⟨⟨v, hv, htrace⟩, hsubscription, hservice, -⟩ := device_of_resume hr
    have hone : KeptHouse g.1 g'.1 := by
      refine ⟨[v], htrace, fun u hu => ?_⟩
      rw [List.mem_singleton.mp hu, hv]
      exact hc
    exact ⟨hkept.1.trans hone, hsubscription.trans hkept.2.1, hservice.trans hkept.2.2⟩
  have hkept := preserves_createOnvifService (C := C) (fun _ _ _ _ hg => hg) (hawait _ trivial)
    (fun _ => hawait _ trivial) (fun _ => hawait _ trivial) name portType readTimeout (trace, h)
    h.device ⟨.refl trace, rfl, rfl⟩
  refine (wp_zoom _ _).mpr (wp_mono (fun r g s' hr => ?_) (wp_and hdevice hkept))
  obtain ⟨hdevice, hkept⟩ := hr
  cases r with
  | ok sid => exact ⟨hkept.1, hkept.2.1, hkept.2.2, hdevice⟩
  | error e => exact trivial

/-! ### What is established -/

/-- The address is stored, and both services of the manager are at it. -/
structure Placed (k : ManagerKind) (url : String) (h : HeldCamera) : Prop where
  stored : h.device.xaddrs.get? k.space = some (some url)
  subscription : ∃ sid, h.subscription = some sid ∧
    Served ("subscription", some k.portType) url sid h.device
  service : ∃ sid, h.service = some sid ∧
    Served ("pullpoint", some k.portType) url sid h.device

/-- The reply to a subscribe request. -/
def granted : StartEvent → Option SubscribeReply
  | ⟨c, _, .ok a, _⟩ => Containment.subscribeReply? c a
  | ⟨_, _, .error _, _⟩ => none

/-- The renewal is scheduled by the timestamps of the reply, or, where these call for absolute
times, by those of one Renew of the subscription, the last call made. -/
def Scheduled (interval : TimeDelta) (reply : SubscribeReply) (back : List StartEvent)
    (h : HeldCamera) (time : ℚ) : Prop :=
  if brokenRelativeTime interval reply.times.currentTime reply.times.terminationTime then
    ∃ keep sid asked before times after,
      back = keep ++ [⟨.renew sid asked, before, .ok times, after⟩] ∧
      (∀ v ∈ keep, Housekeeping v.call) ∧ h.subscription = some sid ∧
      before.device.hasBrokenRelativeTimestamps = true ∧
      before.device.getNextTerminationTime interval = .ok asked ∧
      calculateNextRenewalCallAt interval h.loopTime times = .ok time
  else (∀ v ∈ back, Housekeeping v.call) ∧
    calculateNextRenewalCallAt interval h.loopTime reply.times = .ok time

/-- After a successful `_start()`: one subscribe request was answered, the manager is where the
answer says, and the next renewal is scheduled. -/
def Established (C : CameraConfig) (interval : TimeDelta) (k : ManagerKind)
    (trace : List StartEvent) (h : HeldCamera) (time : ℚ) : Prop :=
  ∃ front v back reply url, trace = front ++ v :: back ∧ (∀ u ∈ front, Housekeeping u.call) ∧
    granted v = some reply ∧ discoveredUrl C reply.address = .ok (some url) ∧ Placed k url h ∧
    Scheduled interval reply back h time

theorem Served.of_same {address : String} (h : Served key address sid s)
    (hsame : SameRegistry s s') : Served key address sid s' where
  entry := by rw [hsame.services, h.entry]
  opened := by
    obtain ⟨v, hv, hv'⟩ := h.opened
    exact ⟨v, by rw [hsame.service?, hv], hv'⟩

theorem Placed.of_same {k : ManagerKind} {url : String} {h h' : HeldCamera}
    (hplaced : Placed k url h) (hsubscription : h'.subscription = h.subscription)
    (hservice : h'.service = h.service) (hdevice : SameRegistry h.device h'.device) :
    Placed k url h' where
  stored := by rw [hdevice.xaddrs, hplaced.stored]
  subscription := by
    obtain ⟨sid, hsid, hserved⟩ := hplaced.subscription
    exact ⟨sid, hsubscription.trans hsid, hserved.of_same hdevice⟩
  service := by
    obtain ⟨sid, hsid, hserved⟩ := hplaced.service
    exact ⟨sid, hservice.trans hsid, hserved.of_same hdevice⟩

/-- Once the address is stored, a service of the manager is created at it. -/
theorem served_of_provided {k : ManagerKind} {name : String} {url : Option String}
    (hprovided : Provided C s (name, some k.portType) sid s')
    (haddress : s.address C name (some k.portType) = (s.xaddrs.get? k.space).join)
    (hstored : s.xaddrs.get? k.space = some url) :
    ∃ address, url = some address ∧ Served (name, some k.portType) address sid s' := by
  obtain ⟨address, hget, hserved⟩ := hprovided.served
  rw [haddress, hstored] at hget
  exact ⟨address, hget, hserved⟩

/-! ### The two methods -/

/-- The reply was received and its address stored. -/
structure Replied (C : CameraConfig) (k : ManagerKind) (reply : SubscribeReply)
    (url : Option String) (front : List StartEvent) (v : StartEvent) (trace : List StartEvent)
    (h : HeldCamera) : Prop where
  kept : KeptHouse (front ++ [v]) trace
  rewritten : discoveredUrl C reply.address = .ok url
  stored : h.device.xaddrs.get? k.space = some url
  allOpen : AllOpen h.device

theorem attains_storeAddress {k : ManagerKind} {reply : SubscribeReply} {front : List StartEvent}
    {v : StartEvent} {h : HeldCamera} (hopen : AllOpen h.device) :
    Attains (storeAddress C k.portType reply.address) (front ++ [v]) h
      fun _ trace' h' => ∃ url, Replied C k reply url front v trace' h' := by
  refine .bind (.ofExcept fun url hurl => ?_)
  refine (wp_zoom _ _).mpr ⟨url, .refl _, hurl, ?_, hopen⟩
  show Dict.get? (Dict.insert _ _ _) _ = _
  rw [Dict.get?_insert]
  exact if_pos rfl

/-- The device is found to know relative times or not. -/
theorem attains_hasBrokenRelativeTime {k : ManagerKind} {url : String}
    {currentTime terminationTime : Option DateTime} {trace : List StartEvent} {h : HeldCamera}
    (hplaced : Placed k url h) :
    Attains (onDevice (hasBrokenRelativeTime interval currentTime terminationTime)) trace h
      fun broken trace' h' => trace' = trace ∧ Placed k url h' ∧
        broken = brokenRelativeTime interval currentTime terminationTime ∧
        (broken = true → h'.device.hasBrokenRelativeTimestamps = true) := by
  refine (wp_zoom _ _).mpr ?_
  rw [hasBrokenRelativeTime]
  cases brokenRelativeTime interval currentTime terminationTime with
  | true => exact ⟨rfl, hplaced.of_same rfl rfl ⟨rfl, rfl, rfl, rfl⟩, rfl, fun _ => rfl⟩
  | false => exact ⟨rfl, hplaced.of_same rfl rfl ⟨rfl, rfl, rfl, rfl⟩, rfl, fun h => by cases h⟩

/-- The end of both methods. -/
theorem attains_scheduleRenewal {k : ManagerKind} {reply : SubscribeReply} {url : String}
    {front : List StartEvent} {v : StartEvent} {trace : List StartEvent} {h : HeldCamera}
    (hkept : KeptHouse (front ++ [v]) trace) (hfront : ∀ u ∈ front, Housekeeping u.call)
    (hgranted : granted v = some reply) (hurl : discoveredUrl C reply.address = .ok (some url))
    (hplaced : Placed k url h) :
    Attains (scheduleRenewal interval reply.times) trace h
      fun time trace' h' => Established C interval k trace' h' time := by
  obtain ⟨keep, rfl, hkeep⟩ := hkept
  refine .bind ((attains_hasBrokenRelativeTime hplaced).mono ?_)
  rintro broken _ h' ⟨rfl, hplaced, hbroken, hflag⟩
  refine .getState ?_
  cases broken with
  | false =>
    refine .bind (.getState (.ofExcept fun time htime => ?_))
    refine ⟨front, v, keep, reply, url, ?_, hfront, hgranted, hurl, hplaced, ?_⟩
    · rw [List.append_assoc, List.singleton_append]
    · rw [Scheduled, ← hbroken]
      exact ⟨hkeep, htime⟩
  | true =>
    obtain ⟨sid, hsid, -⟩ := hplaced.subscription
    simp only [hsid, if_true]
    refine .bind (.getState (.ofExcept fun asked hasked => ?_))
    refine .bind (.await fun times h'' halone => .getState (.ofExcept fun time htime => ?_))
    have hplaced' := hplaced.of_same halone.subscription halone.service halone.device
    refine ⟨front, v, keep ++ [⟨.renew sid asked, h', .ok times, h''⟩], reply, url, ?_, hfront,
      hgranted, hurl, hplaced', ?_⟩
    · simp only [List.append_assoc, List.singleton_append]
      rfl
    · rw [Scheduled, ← hbroken]
      exact ⟨keep, sid, asked, h', times, h'', rfl, hkeep, halone.subscription.trans hsid,
        hflag rfl, hasked, htime⟩

/-- One of the two services of a manager was created. -/
structure Placing (k : ManagerKind) (name : String) (url : Option String) (sid : ServiceId)
    (h h' : HeldCamera) : Prop where
  subscription : h'.subscription = h.subscription
  service : h'.service = h.service
  allOpen : AllOpen h'.device
  stored : h'.device.xaddrs.get? k.space = some url
  served : ∃ address, url = some address ∧ Served (name, some k.portType) address sid h'.device
  others : ∀ key' address i, key' ≠ (name, some k.portType) → Served key' address i h.device →
    Served key' address i h'.device

theorem attains_placing {k : ManagerKind} {name : String} {url : Option String}
    {trace : List StartEvent} {h : HeldCamera} (hname : lower name = name)
    (hkey : k.Session (name, some k.portType))
    (hopen : AllOpen h.device) (hstored : h.device.xaddrs.get? k.space = some url)
    (readTimeout : Option ℕ) :
    Attains (onDevice (createOnvifService C name (some k.portType) readTimeout)) trace h
      fun sid trace' h' => KeptHouse trace trace' ∧ Placing k name url sid h h' := by
  refine (attains_createOnvifService hopen name hname _ readTimeout).mono ?_
  rintro sid trace' h' ⟨hkept, hsubscription, hservice, hprovided⟩
  exact ⟨hkept, hsubscription, hservice, hprovided.allOpen, by rw [hprovided.xaddrs, hstored],
    served_of_provided hprovided (k.address_space C _ hkey) hstored, hprovided.others⟩

theorem served_of_some {k : ManagerKind} {name address : String} {h h' : HeldCamera}
    (hplacing : Placing k name (some address) sid h h') :
    Served (name, some k.portType) address sid h'.device := by
  obtain ⟨address', haddress, hserved⟩ := hplacing.served
  obtain rfl := Option.some.inj haddress
  exact hserved

/-- **`PullPointManager._start`**. -/
theorem attains_pullPoint {h : HeldCamera} (hopen : AllOpen h.device) :
    Attains (PullPointManager.start C interval) [] h
      fun time trace h => Established C interval .pullPoint trace h time := by
  refine .bind ((attains_createOnvifService hopen "events" (by decide) none none).mono ?_)
  rintro events _ h₁ ⟨⟨front, rfl, hfront⟩, -, -, hevents⟩
  refine .bind (.getState (.ofExcept fun asked _ => ?_))
  refine .bind (.await fun reply h₂ halone => ?_)
  have hopen₂ : AllOpen h₂.device := hevents.allOpen.of_same halone.device
  refine .bind ((attains_storeAddress (k := .pullPoint) hopen₂).mono ?_)
  rintro _ trace₃ h₃ ⟨url, hreplied⟩
  refine .bind ((attains_placing (k := .pullPoint) (by decide) (Or.inl rfl)
    hreplied.allOpen hreplied.stored none).mono ?_)
  rintro sid trace₄ h₄ ⟨hkept₄, hsubscription⟩
  refine .bind (.bind ((attains_placing (k := .pullPoint) (h := Held.setSubscription sid h₄)
    (by decide) (Or.inr rfl) hsubscription.allOpen hsubscription.stored
    _).mono ?_))
  rintro sid' trace₅ h₅ ⟨hkept₅, hservice⟩
  obtain ⟨address, rfl, hserved⟩ := hservice.served
  have hfirst := served_of_some hsubscription
  have hne : ("subscription", some ManagerKind.pullPoint.portType)
      ≠ ("pullpoint", some ManagerKind.pullPoint.portType) := by decide
  have hother := hservice.others _ _ _ hne hfirst
  exact .bind (attains_scheduleRenewal ((hreplied.kept.trans hkept₄).trans hkept₅) hfront rfl
    hreplied.rewritten ⟨hservice.stored, ⟨sid, hservice.subscription, hother⟩,
      ⟨sid', rfl, hserved⟩⟩)

/-- **`NotificationManager._start`**: the services are created in the other order. -/
theorem attains_notification {address : String} {h : HeldCamera} (hopen : AllOpen h.device) :
    Attains (NotificationManager.start C address interval) [] h
      fun time trace h => Established C interval (.notification address) trace h time := by
  refine .bind ((attains_createOnvifService hopen "notification" (by decide) none none).mono ?_)
  rintro notify _ h₁ ⟨⟨front, rfl, hfront⟩, -, -, hnotify⟩
  refine .bind (.getState (.ofExcept fun asked _ => ?_))
  refine .bind (.await fun reply h₂ halone => ?_)
  have hopen₂ : AllOpen h₂.device := hnotify.allOpen.of_same halone.device
  refine .bind ((attains_storeAddress (k := .notification address) hopen₂).mono ?_)
  rintro _ trace₃ h₃ ⟨url, hreplied⟩
  refine .bind ((attains_placing (k := .notification address) (by decide)
    (Or.inr rfl) hreplied.allOpen hreplied.stored none).mono ?_)
  rintro sid trace₄ h₄ ⟨hkept₄, hservice⟩
  refine .bind (.bind ((attains_placing (k := .notification address) (h := Held.setService sid h₄)
    (by decide) (Or.inl rfl) hservice.allOpen hservice.stored
    _).mono ?_))
  rintro sid' trace₅ h₅ ⟨hkept₅, hsubscription⟩
  obtain ⟨url, rfl, hserved⟩ := hsubscription.served
  have hfirst := served_of_some hservice
  have hne : ("pullpoint", some (ManagerKind.notification address).portType)
      ≠ ("subscription", some (ManagerKind.notification address).portType) := by simp
  have hother := hsubscription.others _ _ _ hne hfirst
  exact .bind (attains_scheduleRenewal ((hreplied.kept.trans hkept₄).trans hkept₅) hfront rfl
    hreplied.rewritten ⟨hsubscription.stored, ⟨sid', rfl, hserved⟩,
      ⟨sid, hsubscription.service, hother⟩⟩)

/-- **A started manager is where the device said**: in every run of `_start()` that ends normally,
one subscribe request was answered, both services of the manager are registered, open and at the
address of the answer, and the next renewal is scheduled by its timestamps, or by those of one Renew
of that subscription where they call for absolute times. -/
theorem start_establishes (C : CameraConfig) (interval : TimeDelta) (k : ManagerKind)
    (w : World cameraInterface Exc HeldCamera) (n : ℕ) (h : HeldCamera) (hopen : AllOpen h.device)
    (halone : ∀ i c h, LeftAlone h (w i c h).2) {time : ℚ}
    (hok : ((k.start C interval).exec w n h).result = .ok time) :
    Established C interval k ((k.start C interval).exec w n h).trace
      ((k.start C interval).exec w n h).state time := by
  have hattains : Attains (k.start C interval) [] h
      fun time trace h => Established C interval k trace h time := by
    cases k with
    | pullPoint => exact attains_pullPoint hopen
    | notification address => exact attains_notification hopen
  have hpost := wp_exec_recording (w := w) (n := n) hattains fun v hv => ?_
  · rw [hok] at hpost
    exact hpost
  · obtain ⟨i, hi⟩ := exec_answered hv
    have hw := halone i v.call v.before
    rw [hi] at hw
    exact hw

/-- The device moves the subscription and grants ten seconds, or an hour to an absolute time. -/
def movedSubscription : World cameraInterface Exc HeldCamera :=
  World.alone fun
    | .close _ | .setup _ => .ok ()
    | .createPullPointSubscription _ _ =>
      .ok ⟨some "http://192.168.0.2:80:80/onvif/subscription?Idx=2",
        ⟨some ⟨63000000000000000, some 0⟩, some ⟨63000000010000000, some 0⟩⟩⟩
    | .renew _ _ => .ok ⟨some ⟨63000000000000000, some 0⟩, some ⟨63000003600000000, some 0⟩⟩
    | _ => .error .cancelledError

def subscribedHeld : HeldCamera := FailedRestart.subscribedManager.held

theorem allOpen_subscribedCamera : AllOpen FailedRestart.subscribedCamera := by
  intro key sid hsid
  rw [FailedRestart.subscribedCamera, Dict.get?_insert, Dict.get?_insert] at hsid
  by_cases hsubscription : key = ("subscription", some "PullPointSubscription")
  · rw [if_pos hsubscription] at hsid
    rw [← Option.some.inj hsid, hsubscription]
    exact ⟨FailedRestart.subscriptionService, rfl, rfl, rfl⟩
  rw [if_neg hsubscription] at hsid
  by_cases hevents : key = ("events", none)
  · rw [if_pos hevents] at hsid
    rw [← Option.some.inj hsid, hevents]
    exact ⟨FailedRestart.eventsService, rfl, rfl, rfl⟩
  · rw [if_neg hevents] at hsid
    cases hsid

/-- The subscription is replaced, and renewed with an absolute time. -/
theorem start_establishes_moved : ∃ time,
    Established localConfig (TimeDelta.ofSeconds 60) .pullPoint
      ((ManagerKind.start localConfig (TimeDelta.ofSeconds 60) .pullPoint).exec movedSubscription 0
        subscribedHeld).trace
      ((ManagerKind.start localConfig (TimeDelta.ofSeconds 60) .pullPoint).exec movedSubscription 0
        subscribedHeld).state time := by
  have hsome : ((ManagerKind.start localConfig (TimeDelta.ofSeconds 60) .pullPoint).exec
      movedSubscription 0 subscribedHeld).result.toOption.isSome = true := by decide +kernel
  cases hresult : ((ManagerKind.start localConfig (TimeDelta.ofSeconds 60) .pullPoint).exec
      movedSubscription 0 subscribedHeld).result with
  | error e =>
    rw [hresult] at hsome
    cases hsome
  | ok time =>
    exact ⟨time, start_establishes localConfig (TimeDelta.ofSeconds 60) .pullPoint movedSubscription
      0 subscribedHeld allOpen_subscribedCamera
      (fun _ _ _ => ⟨rfl, rfl, ⟨rfl, rfl, rfl, rfl⟩⟩) hresult⟩

end ManagerStart

end Onvif
