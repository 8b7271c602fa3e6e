/-
What a call of `create_onvif_service` does when nothing else uses the camera.

* **`Ensures`** — what holds when a coroutine of the camera ends normally, and its rules;
* **`Created`**, **`created_createOnvifService`** — the call returns the service registered at
  the address, or registers a new one that carries the present offset of the clock.
-/
import OnvifZeep.Registry

namespace Onvif

open Coro

namespace ONVIFCamera

variable {C : CameraConfig} {s s' s'' : ONVIFCamera}

/-! ### Calls that do not overlap -/

/-- What others may not change while a call is in progress. -/
structure SameRegistry (s s' : ONVIFCamera) : Prop where
  dtDiff : s'.dtDiff = s.dtDiff
  xaddrs : s'.xaddrs = s.xaddrs
  services : s'.services = s.services
  constructed : s'.constructed = s.constructed

theorem SameRegistry.refl (s : ONVIFCamera) : SameRegistry s s := ⟨rfl, rfl, rfl, rfl⟩

theorem SameRegistry.extends (h : SameRegistry s s') : Extends s s' := .of_eq h.constructed

theorem SameRegistry.service? (h : SameRegistry s s') (sid : ServiceId) :
    s'.service? sid = s.service? sid := by
  rw [ONVIFCamera.service?, h.constructed]
  rfl

theorem SameRegistry.address (h : SameRegistry s s') (name : String) (portType : Option String) :
    s'.address C name portType = s.address C name portType := by
  rw [ONVIFCamera.address, h.xaddrs]
  rfl

theorem Registered.of_same (h : Registered s) (hsame : SameRegistry s s') : Registered s' :=
  h.of_extends hsame.extends hsame.services

def sequential : Contract cameraInterface Exc ONVIFCamera Unit where
  suspend _ _ _ := True
  resume _ _ s _ _ s' := SameRegistry s s'

/-- If `x` ends normally, it ends with `P`. -/
def Ensures {α : Type} (x : CameraCoro α) (s : ONVIFCamera) (P : α → ONVIFCamera → Prop) : Prop :=
  wp sequential (Ends (fun a _ s' => P a s') fun _ _ _ => True) x () s

section Ensures

variable {α β : Type} {P P' : α → ONVIFCamera → Prop}

theorem Ensures.mono {x : CameraCoro α} (h : Ensures x s P) (hP : ∀ a s, P a s → P' a s) :
    Ensures x s P' := by
  refine wp_mono (fun r _ s hr => ?_) h
  cases r with
  | ok a => exact hP a s hr
  | error e => exact trivial

theorem Ensures.bind {x : CameraCoro α} {f : α → CameraCoro β} {P : β → ONVIFCamera → Prop}
    (h : Ensures x s fun a s' => Ensures (f a) s' P) : Ensures (x >>= f) s P :=
  (wp_bind x f).mpr h

theorem Ensures.getState {f : ONVIFCamera → CameraCoro β} {P : β → ONVIFCamera → Prop}
    (h : Ensures (f s) s P) : Ensures (getState >>= f) s P := .bind h

theorem Ensures.await {c : CameraCall} {P : cameraInterface.Answer c → ONVIFCamera → Prop}
    (h : ∀ a s', SameRegistry s s' → P a s') : Ensures (await c) s P := by
  refine (wp_call _).mpr ⟨trivial, fun r _ s' hsame => ?_⟩
  cases r with
  | ok a => exact h a s' hsame
  | error e => exact trivial

theorem Ensures.ofExcept {r : Except Exc α} (h : ∀ a, r = .ok a → P a s) :
    Ensures (ofExcept r) s P := by
  refine (wp_ofExcept r).mpr ?_
  cases r with
  | ok a => exact h a rfl
  | error e => exact trivial

theorem Ensures.raise {e : Exc} : Ensures (.raise e : CameraCoro α) s P := trivial

theorem Ensures.of_preserves {x : CameraCoro α} {P : ONVIFCamera → Prop}
    (h : Preserves sequential (fun _ => P) x) (hs : P s) : Ensures x s fun _ => P := by
  refine wp_mono (fun r _ s hr => ?_) (h () s hs)
  cases r with
  | ok a => exact hr
  | error e => exact trivial

end Ensures

/-! ### Creating a service -/

theorem ensures_listWsdlDir (s : ONVIFCamera) :
    Ensures (listWsdlDir C) s fun _ s' => SameRegistry s s' := by
  refine .getState ?_
  cases s.wsdlDirFiles.get? C.wsdlDir with
  | some files => exact SameRegistry.refl s
  | none =>
    refine .bind (.await fun files s' hsame => ?_)
    exact ⟨hsame.dtDiff, hsame.xaddrs, hsame.services, hsame.constructed⟩

/-- A service was constructed and registered. -/
structure Built (s : ONVIFCamera) (key : BindingKey) (sid : ServiceId) (s' : ONVIFCamera) :
    Prop where
  dtDiff : s'.dtDiff = s.dtDiff
  services : s'.services = s.services.insert key sid
  keeps : Extends s s'
  registered : Registered s'
  carries : ∃ v, s'.service? sid = some v ∧ v.dtDiff = s.dtDiff

theorem ensures_buildService (h : Registered s) (key : BindingKey)
    (definition : String × String × String) (readTimeout : Option ℕ) :
    Ensures (buildService C key definition readTimeout) s fun sid s' => Built s key sid s' := by
  refine .bind (.bind (.ofExcept fun v hv => ?_))
  obtain ⟨-, hdtDiff, hkey, -⟩ := newService_spec hv
  refine .bind (.bind (.await fun _ s₁ hsame => .bind ?_))
  have hself : s₁.service? s.constructed.length = some v := by
    rw [hsame.service?]
    exact service?_addService_self v s
  have hkeeps : Extends s s₁ := (Extends.addService v).trans hsame.extends
  exact
    { dtDiff := hsame.dtDiff
      services := congrArg (Dict.insert · key s.constructed.length) hsame.services
      keeps := hkeeps
      registered := (h.of_extends hkeeps hsame.services).register hself hkey
      carries := ⟨v, hself, hdtDiff⟩ }

/-- What a successful `create_onvif_service` does. -/
structure Created (C : CameraConfig) (s : ONVIFCamera) (name : String)
    (portType : Option String) (sid : ServiceId) (s' : ONVIFCamera) : Prop where
  dtDiff : s'.dtDiff = s.dtDiff
  keeps : Extends s s'
  registered : Registered s'
  services : ∀ key, s'.services.get? key
    = if key = (name, portType) then some sid else s.services.get? key
  -- the service that is registered at the address, or a new one with the current offset
  source : (∃ v, s.services.get? (name, portType) = some sid ∧ s.service? sid = some v ∧
      s.address C name portType = some v.xaddr) ∨
    (∀ i v, s.services.get? (name, portType) = some i → s.service? i = some v →
      s.address C name portType ≠ some v.xaddr) ∧
      ∃ v, s'.service? sid = some v ∧ v.dtDiff = s.dtDiff

theorem Created.of_same {name : String} {portType : Option String} {sid : ServiceId}
    (hsame : SameRegistry s s') (h : Created C s' name portType sid s'') :
    Created C s name portType sid s'' where
  dtDiff := h.dtDiff.trans hsame.dtDiff
  keeps := hsame.extends.trans h.keeps
  registered := h.registered
  services key := by rw [h.services, hsame.services]
  source := by
    have hsource := h.source
    simp only [hsame.services, hsame.service?, hsame.address, hsame.dtDiff] at hsource
    exact hsource

/-- Nothing usable was registered, and a service was built. -/
theorem Built.created {name : String} {portType : Option String} {sid : ServiceId}
    (h : Built s' (name, portType) sid s'')
    (hnone : ∀ i v, s.services.get? (name, portType) = some i → s.service? i = some v →
      s.address C name portType ≠ some v.xaddr)
    (hdtDiff : s'.dtDiff = s.dtDiff) (hkeeps : Extends s s')
    (hservices : ∀ key, key ≠ (name, portType) → s'.services.get? key = s.services.get? key) :
    Created C s name portType sid s'' where
  dtDiff := h.dtDiff.trans hdtDiff
  keeps := hkeeps.trans h.keeps
  registered := h.registered
  services key := by
    rw [h.services, Dict.get?_insert]
    by_cases hkey : key = (name, portType)
    · rw [if_pos hkey, if_pos hkey]
    · rw [if_neg hkey, if_neg hkey, hservices key hkey]
  source := Or.inr ⟨hnone, by rw [← hdtDiff]; exact h.carries⟩

theorem ensures_closeService (sid : ServiceId) (s : ONVIFCamera) :
    Ensures (closeService sid) s fun _ s' => SameRegistry (s.markClosed sid) s' :=
  .bind (Ensures.await (s := s.markClosed sid) fun _ _ hsame => hsame)

theorem ensures_popService (key : BindingKey) (s : ONVIFCamera) :
    Ensures (popService key) s fun _ s' => s' = s.unregister key := by
  refine .getState ?_
  cases s.services.get? key with
  | some sid => exact rfl
  | none => exact Ensures.raise

/-- **Creating a service.** -/
theorem created_createOnvifService (h : Registered s) (name : String) (portType : Option String)
    (readTimeout : Option ℕ) :
    Ensures (createOnvifService C name portType readTimeout) s
      fun sid s' => Created C s (lower name) portType sid s' := by
  refine .bind ((ensures_listWsdlDir s).mono fun _ s₁ hsame => ?_)
  have h₁ : Registered s₁ := h.of_same hsame
  refine .mono ?_ fun sid s' hcreated => Created.of_same hsame hcreated
  refine .bind (.bind (.ofExcept fun definition hdefinition => ?_))
  have haddress := getDefinition_address hdefinition
  cases hexisting : s₁.existingService (lower name, portType) with
  | none =>
    have hnone := (existingService_eq_none h₁).mp hexisting
    refine (ensures_buildService h₁ _ definition readTimeout).mono fun sid s' hbuilt => ?_
    exact hbuilt.created (fun i v hi => absurd (hnone.symm.trans hi) (by simp)) rfl
      (Extends.refl s₁) fun _ _ => rfl
  | some entry =>
    obtain ⟨i, u⟩ := entry
    obtain ⟨hi, hu⟩ := existingService_eq_some.mp hexisting
    dsimp only
    by_cases hxaddr : u.xaddr = definition.1
    · rw [if_pos hxaddr]
      -- reused
      refine ⟨rfl, Extends.refl s₁, h₁, fun key => ?_, Or.inl ⟨u, hi, hu, ?_⟩⟩
      · by_cases hkey : key = (lower name, portType)
        · rw [if_pos hkey, hkey, hi]
        · rw [if_neg hkey]
      · rw [haddress, hxaddr]
    · rw [if_neg hxaddr]
      -- replaced
      have hother : ∀ j v, s₁.services.get? (lower name, portType) = some j →
          s₁.service? j = some v → s₁.address C (lower name) portType ≠ some v.xaddr := by
        intro j v hj hv heq
        obtain rfl := Option.some.inj (hi.symm.trans hj)
        obtain rfl := Option.some.inj (hu.symm.trans hv)
        exact hxaddr (Option.some.inj (heq.symm.trans haddress))
      refine .bind ((ensures_closeService i s₁).mono fun _ s₂ hclosed => ?_)
      refine .bind ((ensures_popService _ s₂).mono fun _ s₃ hpop => ?_)
      subst hpop
      have hkeeps : Extends s₁ s₂ := (Extends.markClosed i).trans hclosed.extends
      have h₂ : Registered s₂ := h₁.of_extends hkeeps hclosed.services
      refine (ensures_buildService (h₂.unregister _) _ definition readTimeout).mono
        fun sid s' hbuilt => hbuilt.created hother hclosed.dtDiff (hkeeps.trans (.of_eq rfl)) ?_
      intro key hkey
      show (s₂.services.erase _).get? key = _
      rw [Dict.get?_erase_of_ne _ hkey, hclosed.services]
      rfl

end ONVIFCamera

end Onvif
