/-
Clock-skew compensation over sequences of calls.

The offset of the device's clock is copied into a service when it is constructed, and a
registered service is reused by its key and address alone.  The clock handshake replaces the
device service, and no other.

* **`SkewInv`** — what every sequence of successful calls keeps: the registered device service
  carries the current offset;
* **`clock_skew_compensated_iff`** — the calls of a sequence all return services with the
  current offset exactly when none of them reuses a service with another one.
-/
import OnvifZeep.Runs
import OnvifZeep.ServiceCreation

namespace Onvif

open Coro

namespace ONVIFCamera

variable {C : CameraConfig} {s s' s'' : ONVIFCamera}

/-! ### The device service -/

def devicemgmtKey : BindingKey := ("devicemgmt", none)

/-- The registered device service carries the current offset. -/
def DeviceCurrent (s : ONVIFCamera) : Prop :=
  ∀ sid v, s.services.get? devicemgmtKey = some sid → s.service? sid = some v → v.dtDiff = s.dtDiff

/-- What successful calls keep. -/
structure SkewInv (s : ONVIFCamera) : Prop where
  registered : Registered s
  deviceCurrent : DeviceCurrent s

theorem Extends.dtDiff {sid : ServiceId} {v v' : ONVIFService} (h : Extends s s')
    (hv : s.service? sid = some v) (hv' : s'.service? sid = some v') : v'.dtDiff = v.dtDiff := by
  rcases h sid v hv with heq | heq
  · rw [← Option.some.inj (heq.symm.trans hv')]
  · rw [← Option.some.inj (heq.symm.trans hv')]
    rfl

theorem DeviceCurrent.of_keeps (h : DeviceCurrent s) (hregistered : Registered s)
    (hkeeps : Extends s s') (hdtDiff : s'.dtDiff = s.dtDiff)
    (hservices : s'.services.get? devicemgmtKey = s.services.get? devicemgmtKey) :
    DeviceCurrent s' := by
  intro sid v' hsid hv'
  rw [hservices] at hsid
  obtain ⟨v, hv, -⟩ := hregistered _ _ hsid
  rw [hkeeps.dtDiff hv hv', h sid v hsid hv, hdtDiff]

theorem SkewInv.of_same (h : SkewInv s) (hsame : SameRegistry s s') : SkewInv s' where
  registered := h.registered.of_same hsame
  deviceCurrent := h.deviceCurrent.of_keeps h.registered hsame.extends hsame.dtDiff
    (by rw [hsame.services])

variable {name : String} {portType : Option String} {sid : ServiceId}

/-- Creating a service keeps the invariant. -/
theorem Created.skewInv (h : Created C s name portType sid s') (hs : SkewInv s) : SkewInv s' where
  registered := h.registered
  deviceCurrent := by
    by_cases hkey : devicemgmtKey = (name, portType)
    · intro i v' hi hv'
      rw [h.services, if_pos hkey] at hi
      obtain rfl := Option.some.inj hi
      rcases h.source with ⟨v, hsid, hv, -⟩ | ⟨-, v, hv, hdtDiff⟩
      · rw [h.keeps.dtDiff hv hv', hs.deviceCurrent sid v (hkey ▸ hsid) hv, h.dtDiff]
      · rw [← Option.some.inj (hv.symm.trans hv'), hdtDiff, h.dtDiff]
    · exact hs.deviceCurrent.of_keeps hs.registered h.keeps h.dtDiff
        (by rw [h.services, if_neg hkey])

/-- The device service is up to date, or the offset was reset. -/
structure MaybeReset (s : ONVIFCamera) : Prop where
  registered : Registered s
  deviceCurrent : s.dtDiff ≠ none → DeviceCurrent s

theorem ensures_getSystemDateAndTime (devicemgmt : ServiceId) (s : ONVIFCamera) :
    Ensures (getSystemDateAndTime devicemgmt) s fun _ s' => SameRegistry s s' := by
  refine (wp_tryExcept _ _).mpr ?_
  refine (wp_call _).mpr ⟨trivial, fun r _ s' hsame => ?_⟩
  cases r with
  | ok reply => exact hsame
  | error e =>
    rw [ends_error]
    by_cases he : e.oneOf [.fault]
    · rw [if_pos he]
      refine Ensures.await fun reply s'' hsame' => ?_
      exact ⟨hsame'.dtDiff.trans hsame.dtDiff, hsame'.xaddrs.trans hsame.xaddrs,
        hsame'.services.trans hsame.services, hsame'.constructed.trans hsame.constructed⟩
    · rw [if_neg he]
      exact trivial

theorem ensures_createDevicemgmtService (h : Registered s) :
    Ensures (createDevicemgmtService C) s
      fun sid s' => Created C s "devicemgmt" none sid s' := by
  have hlower : lower "devicemgmt" = "devicemgmt" := by decide +kernel
  have hcreated := created_createOnvifService (C := C) h "devicemgmt" none none
  rwa [hlower] at hcreated

/-- **The handshake** ends with a new device service. -/
theorem ensures_adjustTime (hadjust : C.adjustTime = true) (h : Registered s)
    (hsid : s.services.get? devicemgmtKey = some sid) :
    Ensures (adjustTime C sid) s fun _ s' => SkewInv s' := by
  rw [adjustTime, if_neg (by simp [hadjust])]
  refine .bind ((ensures_getSystemDateAndTime sid s).mono fun reply s₁ hsame => ?_)
  refine .bind (.ofExcept fun date _ => .bind (.bind (.ofExcept fun d _ => .bind ?_)))
  have h₁ : Registered (s₁.setDtDiff (some d)) := (h.of_same hsame).of_extends (.of_eq rfl) rfl
  have hsid₁ : s₁.services.get? devicemgmtKey = some sid := hsame.services ▸ hsid
  obtain ⟨v, hv, hkey⟩ := h₁ _ _ hsid₁
  refine .bind ((ensures_closeService sid _).mono fun _ s₂ hclosed => .getState ?_)
  have hkeeps : Extends (s₁.setDtDiff (some d)) s₂ := (Extends.markClosed sid).trans hclosed.extends
  have hv₂ : s₂.service? sid = some v.closed := by
    rw [hclosed.service?, service?_markClosed, if_pos rfl, hv]
    rfl
  rw [hv₂]
  refine .bind ((ensures_popService _ s₂).mono fun _ s₃ hpop => ?_)
  subst hpop
  have h₂ : Registered s₂ := h₁.of_extends hkeeps hclosed.services
  refine (ensures_createDevicemgmtService (h₂.unregister _)).mono fun i s' hcreated => ?_
  refine hcreated.skewInv ⟨h₂.unregister _, fun j u hj hu => ?_⟩
  -- the old device service is no longer registered
  rw [show v.closed.bindingKey = devicemgmtKey from hkey] at hj
  exact absurd hj (by simp [ONVIFCamera.unregister])

theorem ensures_devicemgmtWithTime (hadjust : C.adjustTime = true) (h : MaybeReset s) :
    Ensures (devicemgmtWithTime C) s fun _ s' => SkewInv s' := by
  refine .bind ((ensures_createDevicemgmtService h.registered).mono
    fun sid s₁ hcreated => .getState ?_)
  cases hdtDiff : s₁.dtDiff with
  | some d =>
    have hcurrent : s.dtDiff ≠ none := by
      rw [← hcreated.dtDiff, hdtDiff]
      simp
    exact hcreated.skewInv ⟨h.registered, h.deviceCurrent hcurrent⟩
  | none =>
    exact ensures_adjustTime hadjust hcreated.registered
      ((hcreated.services _).trans (if_pos rfl))

/-! ### Discovery -/

theorem skewInv_await (c : CameraCall) :
    Preserves sequential (fun _ => SkewInv) (await c) :=
  .call (fun _ _ _ => trivial) fun _ _ _ _ _ h hsame => h.of_same hsame

theorem SkewInv.setXaddr (h : SkewInv s) (ns : String) (xaddr : Option String) :
    SkewInv (s.setXaddr ns xaddr) where
  registered := h.registered.of_extends (.of_eq rfl) rfl
  deviceCurrent := h.deviceCurrent

theorem SkewInv.setCapabilities (h : SkewInv s)
    (capabilities : List (Option String × Capability)) :
    SkewInv (s.setCapabilities capabilities) where
  registered := h.registered.of_extends (.of_eq rfl) rfl
  deviceCurrent := h.deviceCurrent

theorem skewInv_fromCapabilities (devicemgmt : ServiceId) :
    Preserves sequential (fun _ => SkewInv) (updateXaddrsFromCapabilities C devicemgmt) :=
  preserves_updateXaddrsFromCapabilities (fun ns xaddr _ _ h => h.setXaddr ns xaddr)
    (fun capabilities _ _ h => h.setCapabilities capabilities) (skewInv_await _)

theorem ensures_updateXaddrs (hadjust : C.adjustTime = true) (h : SkewInv s) :
    Ensures (updateXaddrs C) s fun _ s' => SkewInv s' := by
  have hreset : MaybeReset (s.setDtDiff none) :=
    ⟨h.registered.of_extends (.of_eq rfl) rfl, fun hne => (hne rfl).elim⟩
  refine .bind (.bind ((ensures_devicemgmtWithTime hadjust hreset).mono fun sid s₁ h₁ => ?_))
  have hempty : SkewInv (s₁.setXaddrs Dict.empty) :=
    ⟨h₁.registered.of_extends (.of_eq rfl) rfl, h₁.deviceCurrent⟩
  refine .bind (show Ensures (_ >>= _) (s₁.setXaddrs Dict.empty) _ from ?_)
  refine Ensures.of_preserves (.bind ?_ fun found => ?_) hempty
  · exact preserves_updateXaddrsFromServices (fun ns xaddr _ _ h => h.setXaddr ns xaddr)
      (skewInv_await _)
  · cases found with
    | true => exact .pure ()
    | false => exact skewInv_fromCapabilities sid

theorem ensures_getCapabilities (hadjust : C.adjustTime = true) (h : SkewInv s) :
    Ensures (getCapabilities C) s fun _ s' => SkewInv s' := by
  refine .getState ?_
  cases s.capabilities with
  | some capabilities => exact h
  | none =>
    refine .bind ((ensures_devicemgmtWithTime hadjust ⟨h.registered, fun _ => h.deviceCurrent⟩).mono
      fun sid s₁ h₁ => ?_)
    exact Ensures.of_preserves (.bind (skewInv_fromCapabilities sid) fun _ =>
      .bind .getState fun _ => .pure _) h₁

/-! ### Sequences of calls -/

inductive CameraAction where
  -- a call and what the device answers
  | call (op : CameraOp) (w : CameraWorld)
  -- the clock and the file system between two calls
  | elsewhere (now : ℤ) (wsdlDirFiles : Dict String (Option (List String)))
    (pathIsfile : String → Bool) (sessionRaises : Option Exc)

/-- The call of the action, run from `s`. -/
def runOp (C : CameraConfig) (op : CameraOp) (w : CameraWorld) (s : ONVIFCamera) :
    Outcome cameraInterface Exc ONVIFCamera (Option ServiceId) := (perform C op).exec w 0 s

/-- The camera after an action; a call that fails has no next state. -/
def step (C : CameraConfig) (s : ONVIFCamera) : CameraAction → Option ONVIFCamera
  | .call op w =>
    match (runOp C op w s).result with
    | .ok _ => some (runOp C op w s).state
    | .error _ => none
  | .elsewhere now wsdlDirFiles pathIsfile sessionRaises =>
    some (s.surround now wsdlDirFiles pathIsfile sessionRaises)

/-- The service an action returns to the caller. -/
def returned (C : CameraConfig) (s : ONVIFCamera) : CameraAction → Option ServiceId
  | .call op w =>
    match (runOp C op w s).result with
    | .ok service => service
    | .error _ => none
  | .elsewhere _ _ _ _ => none

/-- Nothing else uses the camera during the call. -/
def NonOverlapping : CameraAction → Prop
  | .call _ w => ∀ n c s, SameRegistry s (w n c s).2
  | .elsewhere _ _ _ _ => True

/-- The service carries the offset of the camera and signs its timestamps with it. -/
def Compensated (v : ONVIFService) (s : ONVIFCamera) : Prop :=
  v.dtDiff = s.dtDiff ∧ ∀ now, v.wsse.created now = createdAt s.dtDiff now

/-- The service the action returns is compensated. -/
def Compensates (C : CameraConfig) (s : ONVIFCamera) (a : CameraAction) (s' : ONVIFCamera) :
    Prop :=
  ∀ sid, returned C s a = some sid → ∃ v, s'.service? sid = some v ∧ Compensated v s'

/-- The device service, or a service that is not registered at its present address, or one
that was constructed with the present offset. -/
def Fresh (C : CameraConfig) (s : ONVIFCamera) (name : String) (portType : Option String) : Prop :=
  (name, portType) = devicemgmtKey ∨
    ∀ sid v, s.services.get? (name, portType) = some sid → s.service? sid = some v →
      s.address C name portType = some v.xaddr → v.dtDiff = s.dtDiff

/-- The action asks for no service but fresh ones. -/
def AsksFresh (C : CameraConfig) (s : ONVIFCamera) (a : CameraAction) (_ : ONVIFCamera) : Prop :=
  ∀ name portType readTimeout w, a = .call (.createOnvifService name portType readTimeout) w →
    Fresh C s (lower name) portType

theorem compensated_iff {v : ONVIFService} : Compensated v s ↔ v.dtDiff = s.dtDiff := by
  constructor
  · intro h
    exact h.1
  · intro h
    exact ⟨h, fun now => congrArg (createdAt · now) h⟩

/-- **One request**: what it returns is compensated exactly if it asked for something
fresh. -/
theorem Created.compensated_iff_fresh (h : Created C s name portType sid s') (hs : SkewInv s) :
    (∃ v, s'.service? sid = some v ∧ Compensated v s') ↔ Fresh C s name portType := by
  rcases h.source with ⟨v, hsid, hv, haddress⟩ | ⟨hother, v, hv, hdtDiff⟩
  · have hv' : ∃ v', s'.service? sid = some v' ∧ v'.dtDiff = v.dtDiff := by
      rcases h.keeps sid v hv with heq | heq
      · exact ⟨v, heq, rfl⟩
      · exact ⟨v.closed, heq, rfl⟩
    obtain ⟨v', hv', hdtDiff⟩ := hv'
    constructor
    · rintro ⟨u, hu, hcompensated⟩
      refine Or.inr fun i w hi hw _ => ?_
      obtain rfl := Option.some.inj (hsid.symm.trans hi)
      obtain rfl := Option.some.inj (hv.symm.trans hw)
      obtain rfl := Option.some.inj (hv'.symm.trans hu)
      rw [← hdtDiff, compensated_iff.mp hcompensated, h.dtDiff]
    · intro hfresh
      refine ⟨v', hv', compensated_iff.mpr ?_⟩
      rw [hdtDiff, h.dtDiff]
      rcases hfresh with hdevice | hfresh
      · exact hs.deviceCurrent sid v (hdevice ▸ hsid) hv
      · exact hfresh sid v hsid hv haddress
  · constructor
    · intro _
      exact Or.inr fun i w hi hw heq => absurd heq (hother i w hi hw)
    · intro _
      exact ⟨v, hv, compensated_iff.mpr (hdtDiff.trans h.dtDiff.symm)⟩

/-- What a successful call returns. -/
def Performed (C : CameraConfig) (s : ONVIFCamera) :
    CameraOp → Option ServiceId → ONVIFCamera → Prop
  | .createOnvifService name portType _, r, s' =>
    ∃ sid, r = some sid ∧ Created C s (lower name) portType sid s'
  | _, r, _ => r = none

theorem ensures_perform (hadjust : C.adjustTime = true) (h : SkewInv s) (op : CameraOp) :
    Ensures (perform C op) s fun r s' => SkewInv s' ∧ Performed C s op r s' := by
  cases op with
  | updateXaddrs => exact .bind ((ensures_updateXaddrs hadjust h).mono fun _ s' hs' => ⟨hs', rfl⟩)
  | getCapabilities =>
    exact .bind ((ensures_getCapabilities hadjust h).mono fun _ s' hs' => ⟨hs', rfl⟩)
  | createOnvifService name portType readTimeout =>
    exact .bind ((created_createOnvifService h.registered name portType readTimeout).mono
      fun sid s' hcreated => ⟨hcreated.skewInv h, sid, rfl, hcreated⟩)

theorem ensures_exec {α : Type} {x : CameraCoro α} {P : α → ONVIFCamera → Prop} {w : CameraWorld}
    (hw : ∀ n c s, SameRegistry s (w n c s).2) (h : Ensures x s P) {a : α}
    (hok : (x.exec w 0 s).result = .ok a) : P a (x.exec w 0 s).state := by
  have hobeys : w.Obeys sequential fun _ _ => () := fun n _ c s _ => hw n c s
  have hpost := wp_exec hobeys (n := 0) h
  rw [hok] at hpost
  exact hpost

/-- An action that asks for no service and returns none promises nothing. -/
theorem compensates_iff_of_returns_none {a : CameraAction} (hnone : returned C s a = none)
    (hasks : ∀ name portType readTimeout w,
      a ≠ .call (.createOnvifService name portType readTimeout) w) :
    Compensates C s a s' ↔ AsksFresh C s a s' := by
  constructor
  · intro _ name portType readTimeout w heq
    exact absurd heq (hasks name portType readTimeout w)
  · intro _ sid hsid
    rw [hnone] at hsid
    cases hsid

/-- **The step lemma.** -/
theorem skewInv_step (hadjust : C.adjustTime = true) {a : CameraAction} (h : SkewInv s)
    (hstep : step C s a = some s') (hover : NonOverlapping a) :
    SkewInv s' ∧ (Compensates C s a s' ↔ AsksFresh C s a s') := by
  cases a with
  | elsewhere now wsdlDirFiles pathIsfile sessionRaises =>
    obtain rfl := Option.some.inj hstep
    exact ⟨⟨h.registered.of_extends (.of_eq rfl) rfl, h.deviceCurrent⟩,
      compensates_iff_of_returns_none rfl fun _ _ _ _ heq => by cases heq⟩
  | call op w =>
    rw [step] at hstep
    cases hresult : (runOp C op w s).result with
    | error e =>
      rw [hresult] at hstep
      cases hstep
    | ok r =>
      have hreturned : returned C s (.call op w) = r := by rw [returned, hresult]
      rw [hresult] at hstep
      obtain rfl := Option.some.inj hstep
      obtain ⟨hinv, hperformed⟩ := ensures_exec hover (ensures_perform hadjust h op) hresult
      refine ⟨hinv, ?_⟩
      cases op with
      | createOnvifService name portType readTimeout =>
        -- the service returned has the present offset exactly when it was asked for fresh
        obtain ⟨sid, rfl, hcreated⟩ := hperformed
        have hiff := hcreated.compensated_iff_fresh h
        constructor
        · intro hcompensates name' portType' readTimeout' w' heq
          cases heq
          exact hiff.mp (hcompensates sid hreturned)
        · intro hfresh sid' hsid'
          obtain rfl := Option.some.inj (hreturned.symm.trans hsid')
          exact hiff.mpr (hfresh name portType readTimeout w rfl)
      | updateXaddrs =>
        obtain rfl := hperformed
        exact compensates_iff_of_returns_none hreturned fun _ _ _ _ heq => by cases heq
      | getCapabilities =>
        obtain rfl := hperformed
        exact compensates_iff_of_returns_none hreturned fun _ _ _ _ heq => by cases heq

theorem skewInv_newCamera (now : ℤ) (wsdlDirFiles : Dict String (Option (List String)))
    (pathIsfile : String → Bool) (sessionRaises : Option Exc) :
    SkewInv (newCamera now wsdlDirFiles pathIsfile sessionRaises) where
  registered _ _ hsid := by cases hsid
  deviceCurrent _ _ hsid := by cases hsid

/-- **Compensation is stale only by reuse**: from a new camera on, every service a sequence of
successful calls returns is compensated if and only if the sequence asks for none that is
registered at its present address and was constructed with another offset, the device service
apart. -/
theorem clock_skew_compensated_iff (C : CameraConfig) (hadjust : C.adjustTime = true) (now : ℤ)
    (wsdlDirFiles : Dict String (Option (List String))) (pathIsfile : String → Bool)
    (sessionRaises : Option Exc) (as : List CameraAction) (hover : ∀ a ∈ as, NonOverlapping a) :
    Runs.Along (step C) (Compensates C) (newCamera now wsdlDirFiles pathIsfile sessionRaises) as ↔
      Runs.Along (step C) (AsksFresh C) (newCamera now wsdlDirFiles pathIsfile sessionRaises) as := by
  have halong : Runs.Along (step C) (fun _ a _ => NonOverlapping a)
      (newCamera now wsdlDirFiles pathIsfile sessionRaises) as :=
    Runs.along_of_forall fun a ha _ _ => hover a ha
  refine Runs.along_iff (fun s a s' h hstep hover => ?_) (skewInv_newCamera _ _ _ _) halong
  exact skewInv_step hadjust h hstep hover

/-! ### A camera whose clock drifts -/

def driftingConfig : CameraConfig := { localConfig with adjustTime := true }

/-- The device clock shows the given second, and the device has a media service. -/
def clockAnswers (second : ℤ) : (c : CameraCall) → Except Exc (cameraInterface.Answer c)
  | .getSystemDateAndTime _ _ => .ok
    { utcDateTime := some
        { date := some { year := some 2024, month := some 8, day := some 17 }
          time := some { hour := some 12, minute := some 31, second := some second } } }
  | .getServices _ => .ok (some
    [{ namespaceAttr := some (some "http://www.onvif.org/ver10/media/wsdl")
       xaddrAttr := some (some "http://192.168.0.2/onvif/media") }])
  | .listWsdlDir _ => .ok (some ["devicemgmt.wsdl", "media.wsdl"])
  | .close _ | .setup _ => .ok ()
  | .getCapabilities _ | .createPullPointSubscription _ _ | .subscribe _ _ _ | .renew _ _ =>
    .error (.timeoutError "")

def discoverAt (second : ℤ) : CameraAction := .call .updateXaddrs (deviceAlone (clockAnswers second))

def createMedia : CameraAction :=
  .call (.createOnvifService "media" none none) (deviceAlone (clockAnswers 0))

def driftingCamera : ONVIFCamera := newCamera 63000000000000000 Dict.empty (fun _ => false) none

/-- Created once the clock was read, the media service is compensated. -/
theorem clock_skew_compensated_media :
    Runs.Along (step driftingConfig) (Compensates driftingConfig) driftingCamera
      [discoverAt 16, createMedia] := by
  refine (clock_skew_compensated_iff driftingConfig rfl _ _ _ _ [discoverAt 16, createMedia] ?_).mpr ?_
  · intro a ha
    rcases List.mem_cons.mp ha with rfl | ha
    · exact fun _ _ s => SameRegistry.refl s
    · obtain rfl := List.mem_singleton.mp ha
      exact fun _ _ s => SameRegistry.refl s
  · intro s₁ hs₁
    constructor
    · intro name portType readTimeout w heq
      cases heq
    intro s₂ hs₂
    refine ⟨?_, trivial⟩
    intro name portType readTimeout w heq
    cases heq
    have hnone : ((step driftingConfig driftingCamera (discoverAt 16)).map fun s =>
        s.services.get? ("media", none)) = some none := by decide +kernel
    rw [show step driftingConfig driftingCamera (discoverAt 16) = some s₁ from hs₁] at hnone
    refine Or.inr fun sid v hsid => ?_
    have hnone : s₁.services.get? ("media", none) = none := Option.some.inj hnone
    rw [show lower "media" = "media" by decide +kernel, hnone] at hsid
    cases hsid

/-- A second discovery measures another offset, and the media service keeps the first. -/
theorem clock_skew_stale_media :
    ¬∀ as : List CameraAction, (∀ a ∈ as, NonOverlapping a) →
      Runs.Along (step driftingConfig) (Compensates driftingConfig) driftingCamera as := by
  intro h
  have halong := h ([discoverAt 16, createMedia, discoverAt 17] ++ [createMedia]) fun a ha => by
    simp only [List.cons_append, List.nil_append, List.mem_cons, List.not_mem_nil, or_false] at ha
    rcases ha with rfl | rfl | rfl | rfl <;> exact fun _ _ s => SameRegistry.refl s
  have hstale : ((Runs.run (step driftingConfig) driftingCamera
      [discoverAt 16, createMedia, discoverAt 17]).any fun s₁ =>
        (step driftingConfig s₁ createMedia).any fun s₂ =>
          (returned driftingConfig s₁ createMedia).any fun sid =>
            (s₂.service? sid).any fun v => decide (v.dtDiff ≠ s₂.dtDiff)) = true := by
    decide +kernel
  simp only [Option.any_eq_true, decide_eq_true_eq] at hstale
  obtain ⟨s₁, hs₁, s₂, hs₂, sid, hsid, v, hv, hne⟩ := hstale
  obtain ⟨u, hu, hcompensated⟩ := (halong.at_end hs₁ hs₂) sid hsid
  obtain rfl := Option.some.inj (hv.symm.trans hu)
  exact hne hcompensated.1

end ONVIFCamera

end Onvif
