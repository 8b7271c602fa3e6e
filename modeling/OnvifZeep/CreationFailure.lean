/-
What a failed call of `create_onvif_service` leaves behind, when nothing else uses the camera.

The call closes a stale service before it removes its entry, and opens the session of a new one
before it sets it up; a call that raises at either await is left with what it did so far.

* **`failureOutline`** — how far the registry has changed at each point of the call;
* **`failed_creation_leaks_nothing_iff`** — every service constructed is closed and the registry
  lost at most the stale service exactly if neither of the two awaits raised.
-/
import OnvifZeep.Registry

namespace Onvif

open Coro

namespace ONVIFCamera

namespace CreationFailure

variable {C : CameraConfig} {name : String} {portType : Option String} {s₀ s s' : ONVIFCamera}
  {sid : ServiceId} {v : ONVIFService} {key : BindingKey} {trace trace' : List CameraEvent}

/-! ### What may be left behind -/

/-- The state after a failed call, compared with the state before. -/
structure LeaksNothing (s s' : ONVIFCamera) : Prop where
  -- every service constructed in between
  constructed : ∀ sid, s.constructed.length ≤ sid → sid < s'.constructed.length → s'.isClosed sid
  -- no registered service was closed in between
  closed : ∀ key sid, s'.services.get? key = some sid → s'.isClosed sid → s.isClosed sid
  services : s'.services = s.services ∨ ∃ key sid, s.services.get? key = some sid ∧
    s'.isClosed sid ∧ s'.services = s.services.erase key

/-- Nothing else works on the registry while the call is suspended. -/
def RegistryAlone (s s' : ONVIFCamera) : Prop :=
  s'.services = s.services ∧ s'.constructed = s.constructed

/-- Closing a service that was open before the call succeeded, and so did every setup. -/
def Blameless (s₀ : ONVIFCamera) : CameraEvent → Prop
  | ⟨.close sid, _, r, _⟩ => r.isOk ∨ s₀.isClosed sid
  | ⟨.setup _, _, r, _⟩ => r.isOk
  | _ => True

/-! ### The points of the call -/

/-- The registry is as it was before the call. -/
structure Untouched (s₀ : ONVIFCamera) (trace : List CameraEvent) (s : ONVIFCamera) : Prop where
  blameless : ∀ e ∈ trace, Blameless s₀ e
  services : s.services = s₀.services
  constructed : s.constructed = s₀.constructed

/-- The stale service is closed; `services` is the registry from there on. -/
structure StaleClosed (s₀ : ONVIFCamera) (key : BindingKey) (services : Dict BindingKey ServiceId)
    (trace : List CameraEvent) (s : ONVIFCamera) : Prop where
  blameless : ∀ e ∈ trace, Blameless s₀ e
  services : s.services = services
  stale : ∃ sid v, s₀.services.get? key = some sid ∧ s₀.service? sid = some v ∧
    s.constructed = s₀.constructed.modify sid ONVIFService.closed

theorem isClosed_of_constructed (h : s'.constructed = s.constructed) (sid : ServiceId) :
    s'.isClosed sid = s.isClosed sid := by
  rw [isClosed, isClosed, service?, service?, h]

theorem isClosed_markClosed_of_ne {i : ServiceId} (hne : sid ≠ i) (s : ONVIFCamera) :
    (s.markClosed sid).isClosed i = s.isClosed i := by
  rw [isClosed, isClosed, service?_markClosed, if_neg hne]

theorem Untouched.leaksNothing (h : Untouched s₀ trace s) : LeaksNothing s₀ s where
  constructed sid hle hlt := absurd hlt (by rw [h.constructed]; exact Nat.not_lt.mpr hle)
  closed key sid _ hclosed := by
    rwa [isClosed_of_constructed h.constructed] at hclosed
  services := Or.inl h.services

theorem leaksNothing_iff_of_blameless (h : ∀ e ∈ trace, Blameless s₀ e) (hs : LeaksNothing s₀ s) :
    LeaksNothing s₀ s ↔ ∀ e ∈ trace, Blameless s₀ e := iff_of_true hs h

/-- With the stale service closed and its entry removed, nothing is left. -/
theorem StaleClosed.leaksNothing (h₀ : Registered s₀)
    (h : StaleClosed s₀ key (s₀.services.erase key) trace s) : LeaksNothing s₀ s := by
  obtain ⟨stale, v, hstale, hv, hconstructed⟩ := h.stale
  have hmarked : s.constructed = (s₀.markClosed stale).constructed := hconstructed
  refine ⟨fun sid hle hlt => ?_, fun key' sid hsid hclosed => ?_, Or.inr ⟨key, stale, hstale, ?_,
    h.services⟩⟩
  · rw [hconstructed, List.length_modify] at hlt
    exact absurd hlt (Nat.not_lt.mpr hle)
  · rw [h.services, Dict.get?_erase] at hsid
    by_cases hkey : key' = key
    · rw [if_pos hkey] at hsid
      cases hsid
    · rw [if_neg hkey] at hsid
      rw [isClosed_of_constructed hmarked, isClosed_markClosed_of_ne] at hclosed
      · exact hclosed
      · -- a service stands under its own key only
        rintro rfl
        obtain ⟨u, hu, hown⟩ := h₀ key' stale hsid
        obtain ⟨u', hu', hown'⟩ := h₀ key stale hstale
        obtain rfl := Option.some.inj (hu.symm.trans hu')
        exact hkey (hown.symm.trans hown')
  · rw [isClosed_of_constructed hmarked]
    exact isClosed_markClosed hv

/-- With the stale service closed and its entry still there, its session tells. -/
theorem leaksNothing_markClosed_iff (hstale : s₀.services.get? key = some sid)
    (hv : s₀.service? sid = some v) (hservices : s.services = s₀.services)
    (hconstructed : s.constructed = (s₀.markClosed sid).constructed) :
    LeaksNothing s₀ s ↔ s₀.isClosed sid := by
  have hclosed : s.isClosed sid := by
    rw [isClosed_of_constructed hconstructed]
    exact isClosed_markClosed hv
  constructor
  · intro h
    exact h.closed key sid (by rw [hservices, hstale]) hclosed
  · intro h
    refine ⟨fun i hle hlt => ?_, fun key' i _ hi => ?_, Or.inl hservices⟩
    · rw [hconstructed, markClosed, List.length_modify] at hlt
      exact absurd hlt (Nat.not_lt.mpr hle)
    · by_cases hne : sid = i
      · rwa [← hne]
      · rwa [isClosed_of_constructed hconstructed, isClosed_markClosed_of_ne hne] at hi

/-- A new service whose setup failed is open. -/
theorem not_leaksNothing_of_open (hv : v.sessionClosed = false) (hlen : s.constructed.length
    = s₀.constructed.length) (hconstructed : s'.constructed = s.constructed ++ [v]) :
    ¬LeaksNothing s₀ s' := by
  intro h
  have hclosed := h.constructed s.constructed.length (Nat.le_of_eq hlen.symm)
    (by rw [hconstructed, List.length_append]; exact Nat.lt_succ_self _)
  rw [isClosed, service?, hconstructed, List.getElem?_concat_length, Option.any_some, hv] at hclosed
  cases hclosed

/-! ### The call -/

/-- Nothing else works on the registry, and the ghost is the trace. -/
def registryAlone : Contract cameraInterface Exc ONVIFCamera (List CameraEvent) where
  suspend _ _ _ := True
  resume trace c s r trace' s' := trace' = trace ++ [⟨c, s, r, s'⟩] ∧ RegistryAlone s s'

theorem blameless_snoc {e : CameraEvent} : (∀ e' ∈ trace ++ [e], Blameless s₀ e') ↔
    (∀ e' ∈ trace, Blameless s₀ e') ∧ Blameless s₀ e := by
  rw [List.forall_mem_append, List.forall_mem_singleton]

/-- The service to be constructed has no entry to replace, or none any more. -/
def Vacant (s₀ : ONVIFCamera) (key : BindingKey) (trace : List CameraEvent) (s : ONVIFCamera) :
    Prop :=
  Untouched s₀ trace s ∨ StaleClosed s₀ key (s₀.services.erase key) trace s

theorem Vacant.blameless (h : Vacant s₀ key trace s) : ∀ e ∈ trace, Blameless s₀ e :=
  h.elim Untouched.blameless StaleClosed.blameless

theorem Vacant.leaksNothing (h₀ : Registered s₀) (h : Vacant s₀ key trace s) :
    LeaksNothing s₀ s := h.elim Untouched.leaksNothing fun h => h.leaksNothing h₀

theorem Vacant.length_constructed (h : Vacant s₀ key trace s) :
    s.constructed.length = s₀.constructed.length := by
  rcases h with h | h
  · rw [h.constructed]
  · obtain ⟨sid, v, -, -, hconstructed⟩ := h.stale
    rw [hconstructed, List.length_modify]

/-- **How far the registry has changed** at each point of the call. -/
def failureOutline (C : CameraConfig) (name : String) (portType : Option String)
    (h₀ : Registered s₀) : CreationOutline registryAlone C name portType where
  idle := Untouched s₀
  closed := StaleClosed s₀ (lower name, portType) s₀.services
  vacant := Vacant s₀ (lower name, portType)
  returned _ _ _ := True
  failed _ trace s := LeaksNothing s₀ s ↔ ∀ e ∈ trace, Blameless s₀ e
  listed h := by
    refine ⟨trivial, ?_⟩
    rintro r trace' s' ⟨htrace, hservices, hconstructed⟩
    have h' : Untouched s₀ trace' s' := by
      refine ⟨?_, hservices.trans h.services, hconstructed.trans h.constructed⟩
      rw [htrace]
      exact blameless_snoc.mpr ⟨h.blameless, trivial⟩
    cases r with
    | ok files => exact ⟨h'.blameless, h'.services, h'.constructed⟩
    | error e => exact leaksNothing_iff_of_blameless h'.blameless h'.leaksNothing
  undefined h _ := leaksNothing_iff_of_blameless h.blameless h.leaksNothing
  reused _ _ := trivial
  absent h _ := Or.inl h
  closing h hexisting := by
    refine ⟨trivial, ?_⟩
    rintro r _ s' ⟨rfl, hservices, hconstructed⟩
    obtain ⟨hsid, hv⟩ := existingService_eq_some.mp hexisting
    rw [h.services] at hsid
    rw [service?, h.constructed] at hv
    rename_i g s sid v
    have hservices' : s'.services = s₀.services := hservices.trans h.services
    have hconstructed' : s'.constructed = (s₀.markClosed sid).constructed := by
      rw [hconstructed, markClosed, markClosed, h.constructed]
    cases r with
    | ok _ =>
      exact ⟨blameless_snoc.mpr ⟨h.blameless, Or.inl rfl⟩, hservices', sid, v, hsid, hv,
        hconstructed'⟩
    | error e =>
      dsimp only
      rw [leaksNothing_markClosed_iff hsid hv hservices' hconstructed', blameless_snoc]
      exact ⟨fun hclosed => ⟨h.blameless, Or.inr hclosed⟩,
        fun hboth => hboth.2.resolve_left (by simp [Except.isOk, Except.toBool])⟩
  popped h _ := Or.inr ⟨h.blameless, by rw [unregister, h.services], h.stale⟩
  notFound h hnone := by
    obtain ⟨sid, v, hsid, -, -⟩ := h.stale
    rw [h.services, hsid] at hnone
    cases hnone
  built h _ hservice := by
    refine ⟨trivial, ?_⟩
    rintro r _ s' ⟨rfl, hservices, hconstructed⟩
    obtain ⟨-, -, -, hopen⟩ := newService_spec hservice
    cases r with
    | ok _ => exact trivial
    | error e =>
      refine iff_of_false (not_leaksNothing_of_open hopen h.length_constructed hconstructed) ?_
      intro hblameless
      exact absurd (blameless_snoc.mp hblameless).2 (by simp [Blameless, Except.isOk, Except.toBool])
  notBuilt h _ _ := leaksNothing_iff_of_blameless h.blameless (h.leaksNothing h₀)

/-- **A failed call leaks nothing** exactly if neither closing an open stale service nor setting
up the new one raised. -/
theorem failed_creation_leaks_nothing_iff (C : CameraConfig) (name : String)
    (portType : Option String) (readTimeout : Option ℕ) (w : CameraWorld)
    (hw : ∀ n c s, RegistryAlone s (w n c s).2) (s : ONVIFCamera) (hs : Registered s) (e : Exc)
    (hfailed : ((createOnvifService C name portType readTimeout).exec w 0 s).result = .error e) :
    LeaksNothing s ((createOnvifService C name portType readTimeout).exec w 0 s).state ↔
      ∀ v ∈ ((createOnvifService C name portType readTimeout).exec w 0 s).trace, Blameless s v := by
  have hobeys : w.Obeys registryAlone fun trace v => trace ++ [v] :=
    fun n _ c s _ => ⟨rfl, hw n c s⟩
  have hidle : Untouched s [] s := ⟨fun _ h => absurd h List.not_mem_nil, rfl, rfl⟩
  have hpost := wp_exec_trace hobeys (n := 0)
    ((failureOutline C name portType hs).wp_createOnvifService hidle readTimeout)
  rw [hfailed] at hpost
  exact hpost

/-- The device has no PTZ service. -/
theorem failed_creation_leaks_nothing_ptz :
    LeaksNothing localCamera ((createOnvifService localConfig "ptz" none none).exec
      (deviceAlone fun _ => .error .cancelledError) 0 localCamera).state :=
  (failed_creation_leaks_nothing_iff localConfig "ptz" none none
    (deviceAlone fun _ => .error .cancelledError) (fun _ _ _ => ⟨rfl, rfl⟩) localCamera
    registered_localCamera _ rfl).mpr fun _ hv => absurd hv List.not_mem_nil

/-- The setup of every service times out. -/
def setupTimesOut : CameraWorld := deviceAlone fun _ => .error (.timeoutError "")

/-- The media service is constructed, its setup times out, and its session stays open. -/
theorem failed_creation_leaks_media :
    ¬∀ (s : ONVIFCamera) (e : Exc),
      ((createOnvifService localConfig "media" none none).exec setupTimesOut 0 s).result = .error e →
      LeaksNothing s ((createOnvifService localConfig "media" none none).exec setupTimesOut 0 s).state := by
  intro h
  have hleaks := h (localCamera.setXaddr "http://www.onvif.org/ver10/media/wsdl"
    (some "http://192.168.0.2/onvif/media")) (.timeoutError "") rfl
  have hclosed := hleaks.constructed 1 (by decide) (by decide +kernel)
  exact absurd hclosed (by decide +kernel)

end CreationFailure

end ONVIFCamera

end Onvif
