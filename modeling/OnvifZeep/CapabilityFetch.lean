/-
What `get_capabilities()` does to discovery.

The capabilities are fetched on first use, by the routine that discovery falls back to where a
device has no `GetServices`.  It stores the addresses of the capabilities over those that
`GetServices` reported.

* **`Populated`** — `GetServices` has populated the addresses; `update_xaddrs()` leads there
  (`populated_updateXaddrs`);
* **`Framed`** — what obtaining the device service leaves alone;
* **`getCapabilities_undisturbing_iff`** — when the addresses and the services created there stay.
-/
import OnvifZeep.Discovery
import OnvifZeep.ClockSkew
import OnvifZeep.Replay

namespace Onvif

open Coro

namespace ONVIFCamera

variable {C : CameraConfig} {s₀ s s' : ONVIFCamera} {sid : ServiceId}

/-! ### Nothing else uses the camera -/

/-- While a call is in progress nothing else uses the camera, but time passes. -/
def UsedAlone (w : CameraWorld) : Prop :=
  ∀ n c s, ∃ now sessionRaises, (w n c s).2 = { s with now := now, sessionRaises := sessionRaises }

def usedAlone : Contract cameraInterface Exc ONVIFCamera Unit where
  suspend _ _ _ := True
  resume _ _ s _ _ s' := ∃ now sessionRaises,
    s' = { s with now := now, sessionRaises := sessionRaises }

theorem UsedAlone.obeys {w : CameraWorld} (hw : UsedAlone w) :
    w.Obeys usedAlone fun _ _ => () := fun n _ c s _ => hw n c s

/-! ### Obtaining the device service -/

/-- The addresses, and the services other than the device service, are those of `s₀`. -/
structure Framed (s₀ s : ONVIFCamera) : Prop where
  xaddrs : s.xaddrs = s₀.xaddrs
  others : ∀ key, key ≠ devicemgmtKey → s.services.get? key = s₀.services.get? key
  keeps : Extends s₀ s
  registered : Registered s
  listed : ∀ dir files, s₀.wsdlDirFiles.get? dir = some files →
    s.wsdlDirFiles.get? dir = some files
  pathIsfile : s.pathIsfile = s₀.pathIsfile

theorem Framed.refl (h : Registered s) : Framed s s :=
  ⟨rfl, fun _ _ => rfl, Extends.refl s, h, fun _ _ h => h, rfl⟩

/-- A change of neither the registry nor the addresses. -/
theorem Framed.of_eq (h : Framed s₀ s) (hxaddrs : s'.xaddrs = s.xaddrs)
    (hservices : s'.services = s.services) (hconstructed : s'.constructed = s.constructed)
    (hlisted : s'.wsdlDirFiles = s.wsdlDirFiles) (hisfile : s'.pathIsfile = s.pathIsfile) :
    Framed s₀ s' where
  xaddrs := hxaddrs.trans h.xaddrs
  others key hkey := by rw [hservices, h.others key hkey]
  keeps := h.keeps.trans (.of_eq hconstructed)
  registered := h.registered.of_extends (.of_eq hconstructed) hservices
  listed dir files hfiles := by rw [hlisted, h.listed dir files hfiles]
  pathIsfile := hisfile.trans h.pathIsfile

theorem Framed.resumed (h : Framed s₀ s)
    (hs' : ∃ now sessionRaises, s' = { s with now := now, sessionRaises := sessionRaises }) :
    Framed s₀ s' := by
  obtain ⟨now, sessionRaises, rfl⟩ := hs'
  exact h.of_eq rfl rfl rfl rfl rfl

theorem Framed.markClosed (h : Framed s₀ s) (sid : ServiceId) : Framed s₀ (s.markClosed sid) where
  xaddrs := h.xaddrs
  others := h.others
  keeps := h.keeps.trans (.markClosed sid)
  registered := h.registered.of_extends (.markClosed sid) rfl
  listed := h.listed
  pathIsfile := h.pathIsfile

theorem Framed.unregister (h : Framed s₀ s) : Framed s₀ (s.unregister devicemgmtKey) where
  xaddrs := h.xaddrs
  others key hkey := (Dict.get?_erase_of_ne s.services hkey).trans (h.others key hkey)
  keeps := h.keeps
  registered := h.registered.unregister devicemgmtKey
  listed := h.listed
  pathIsfile := h.pathIsfile

/-- A device service that was constructed. -/
def IsDevice (s : ONVIFCamera) (sid : ServiceId) : Prop :=
  ∃ v, s.service? sid = some v ∧ v.bindingKey = devicemgmtKey

theorem IsDevice.of_extends (h : IsDevice s sid) (hkeeps : Extends s s') : IsDevice s' sid := by
  obtain ⟨v, hv, hkey⟩ := h
  obtain ⟨v', hv', hkey'⟩ := hkeeps.exists_service? hv
  exact ⟨v', hv', hkey'.trans hkey⟩

theorem Framed.register (h : Framed s₀ s) (hsid : IsDevice s sid) :
    Framed s₀ (s.register devicemgmtKey sid) where
  xaddrs := h.xaddrs
  others key hkey := (Dict.get?_insert_of_ne s.services sid hkey).trans (h.others key hkey)
  keeps := h.keeps
  registered := by
    obtain ⟨v, hv, hkey⟩ := hsid
    exact h.registered.register hv hkey
  listed := h.listed
  pathIsfile := h.pathIsfile

theorem Framed.addService (h : Framed s₀ s) (v : ONVIFService) : Framed s₀ (s.addService v) where
  xaddrs := h.xaddrs
  others := h.others
  keeps := h.keeps.trans (.addService v)
  registered := h.registered.of_extends (.addService v) rfl
  listed := h.listed
  pathIsfile := h.pathIsfile

/-- The listing of a directory is cached only where there is none. -/
theorem Framed.cacheWsdlDir (h : Framed s₀ s) {dir : String} (hnone : s.wsdlDirFiles.get? dir = none)
    (files : Option (List String)) : Framed s₀ (s.cacheWsdlDir dir files) where
  xaddrs := h.xaddrs
  others := h.others
  keeps := h.keeps
  registered := h.registered
  listed dir' files' hfiles := by
    have hlisted := h.listed dir' files' hfiles
    have hne : dir' ≠ dir := by
      rintro rfl
      rw [hnone] at hlisted
      cases hlisted
    exact (Dict.get?_insert_of_ne s.wsdlDirFiles files hne).trans hlisted
  pathIsfile := h.pathIsfile

/-- The device service was obtained, or not. -/
def Obtained (s₀ : ONVIFCamera) : Except Exc ServiceId → Unit → ONVIFCamera → Prop :=
  Ends (fun sid _ s => Framed s₀ s ∧ IsDevice s sid) fun _ _ s => Framed s₀ s

theorem framed_await (c : CameraCall) : Preserves usedAlone (fun _ => Framed s₀) (await c) :=
  .call (fun _ _ _ => trivial) fun _ _ _ _ _ h hs' => h.resumed hs'

theorem framed_listWsdlDir : Preserves usedAlone (fun _ => Framed s₀) (listWsdlDir C) := by
  intro g s h
  rw [ONVIFCamera.listWsdlDir, wp_bind, wp_getState, ends_ok]
  cases hfiles : s.wsdlDirFiles.get? C.wsdlDir with
  | some files => exact h
  | none =>
    dsimp only
    rw [wp_bind]
    refine (wp_call _).mpr ⟨trivial, fun r g' s' hs' => ?_⟩
    cases r with
    | error e => exact h.resumed hs'
    | ok files =>
      refine (h.resumed hs').cacheWsdlDir ?_ files
      obtain ⟨now, sessionRaises, rfl⟩ := hs'
      exact hfiles

theorem framed_popService :
    Preserves usedAlone (fun _ => Framed s₀) (popService devicemgmtKey) := by
  refine .bind .getState fun s => ?_
  cases s.services.get? devicemgmtKey with
  | some sid => exact .modifyState fun _ _ h => h.unregister
  | none => exact .raise _

theorem framed_closeService (sid : ServiceId) :
    Preserves usedAlone (fun _ => Framed s₀) (closeService sid) :=
  .bind (.modifyState fun _ _ h => h.markClosed sid) fun _ => framed_await _

theorem framed_buildService (h : Framed s₀ s) (definition : String × String × String)
    (readTimeout : Option ℕ) :
    wp usedAlone (Obtained s₀) (buildService C devicemgmtKey definition readTimeout) () s := by
  rw [ONVIFCamera.buildService, wp_bind, wp_getState, ends_ok, wp_bind, wp_ofExcept]
  cases hservice : s.newService C definition.1 definition.2.1 definition.2.2 devicemgmtKey
      readTimeout with
  | error e => exact h
  | ok v =>
    rw [ends_ok, wp_bind, wp_modifyState, ends_ok, wp_bind]
    refine (wp_call _).mpr ⟨trivial, fun r g' s' hs' => ?_⟩
    have hadded := (h.addService v).resumed hs'
    cases r with
    | error e => exact hadded
    | ok _ =>
      have hdevice : IsDevice s' s.constructed.length := by
        obtain ⟨now, sessionRaises, rfl⟩ := hs'
        exact ⟨v, service?_addService_self v s, (newService_spec hservice).2.2.1⟩
      exact ⟨hadded.register hdevice, hdevice⟩

theorem framed_createDevicemgmtService (h : Framed s₀ s) :
    wp usedAlone (Obtained s₀) (createDevicemgmtService C) () s := by
  have hlower : lower "devicemgmt" = "devicemgmt" := by decide +kernel
  rw [createDevicemgmtService, createOnvifService, wp_bind, hlower]
  refine wp_mono (fun r g s h => ?_) (framed_listWsdlDir () s h)
  cases r with
  | error e => exact h
  | ok _ =>
    rw [ends_ok, wp_bind, wp_getState, ends_ok, wp_bind, wp_ofExcept]
    cases s.getDefinition C "devicemgmt" none with
    | error e => exact h
    | ok definition =>
      rw [ends_ok]
      cases hexisting : s.existingService ("devicemgmt", none) with
      | none => exact framed_buildService h definition none
      | some entry =>
        obtain ⟨i, u⟩ := entry
        obtain ⟨hi, hu⟩ := existingService_eq_some.mp hexisting
        dsimp only
        by_cases hxaddr : u.xaddr = definition.1
        · -- the registered service is returned, and it was constructed for this key
          rw [if_pos hxaddr]
          refine ⟨h, u, hu, ?_⟩
          obtain ⟨u', hu', hkey⟩ := h.registered _ _ hi
          rw [← Option.some.inj (hu'.symm.trans hu), hkey]
          rfl
        · rw [if_neg hxaddr, wp_bind]
          refine wp_mono (fun r g s h => ?_) (framed_closeService i () s h)
          cases r with
          | error e => exact h
          | ok _ =>
            rw [ends_ok, wp_bind]
            refine wp_mono (fun r g s h => ?_) (framed_popService () s h)
            cases r with
            | error e => exact h
            | ok _ => exact framed_buildService h definition none

/-- Asking for the time keeps the device service a device service. -/
theorem framed_getSystemDateAndTime (sid : ServiceId) :
    Preserves usedAlone (fun _ s => Framed s₀ s ∧ IsDevice s sid) (getSystemDateAndTime sid) := by
  refine preserves_getSystemDateAndTime sid fun authless => ?_
  refine .call (fun _ _ _ => trivial) fun _ s _ _ s' h hs' => ⟨h.1.resumed hs', ?_⟩
  obtain ⟨now, sessionRaises, rfl⟩ := hs'
  exact h.2

/-- **The handshake** replaces the device service, and no other. -/
theorem framed_adjustTime (h : Framed s₀ s) (hsid : IsDevice s sid) :
    wp usedAlone (Obtained s₀) (adjustTime C sid) () s := by
  rw [adjustTime]
  by_cases hadjust : (!C.adjustTime) = true
  · rw [if_pos hadjust]
    exact ⟨h, hsid⟩
  rw [if_neg hadjust, wp_bind]
  refine wp_mono (fun r g s h => ?_) (framed_getSystemDateAndTime sid () s ⟨h, hsid⟩)
  obtain ⟨h, hsid⟩ := h
  cases r with
  | error e => exact h
  | ok reply =>
    rw [ends_ok, wp_bind, wp_ofExcept]
    cases camDate reply with
    | error e => exact h
    | ok date =>
      rw [ends_ok, wp_bind, wp_getState, ends_ok, wp_bind, wp_ofExcept]
      cases date.sub s.utcnow with
      | error e => exact h
      | ok d =>
        rw [ends_ok, wp_bind, wp_modifyState, ends_ok, wp_bind, closeService, wp_bind,
          wp_modifyState, ends_ok]
        have hset : Framed s₀ (s.setDtDiff (some d)) := h.of_eq rfl rfl rfl rfl rfl
        refine (wp_call _).mpr ⟨trivial, fun r g' s' hs' => ?_⟩
        have hclosed := (hset.markClosed sid).resumed hs'
        cases r with
        | error e => exact hclosed
        | ok _ =>
          -- the service that is removed is the device service that was closed
          have hdevice : IsDevice s' sid := by
            obtain ⟨now, sessionRaises, rfl⟩ := hs'
            exact hsid.of_extends (Extends.markClosed sid)
          obtain ⟨v, hv, hkey⟩ := hdevice
          rw [ends_ok, wp_bind, wp_getState, ends_ok, hv]
          dsimp only
          rw [wp_bind, hkey]
          refine wp_mono (fun r g s h => ?_) (framed_popService () s' hclosed)
          cases r with
          | error e => exact h
          | ok _ => exact framed_createDevicemgmtService h

/-- **Obtaining the device service** leaves the addresses and the other services alone. -/
theorem framed_devicemgmtWithTime (h : Framed s₀ s) :
    wp usedAlone (Obtained s₀) (devicemgmtWithTime C) () s := by
  rw [devicemgmtWithTime, wp_bind]
  refine wp_mono (fun r g s h => ?_) (framed_createDevicemgmtService h)
  cases r with
  | error e => exact h
  | ok sid =>
    rw [ends_ok, wp_bind, wp_getState, ends_ok]
    cases s.dtDiff with
    | some d => exact h
    | none => exact framed_adjustTime h.1 h.2

/-! ### What is fetched -/

/-- The addresses a `get_capabilities()` stores, when `GetCapabilities` is answered with `reply`. -/
def fetched (C : CameraConfig) (w : CameraWorld) (s : ONVIFCamera)
    (reply : Except Exc CapabilitiesReply) : List (String × Option String) :=
  match s.capabilities with
  | some _ => []
  | none =>
    match ((devicemgmtWithTime C).exec w 0 s).result with
    | .error _ => []
    | .ok _ =>
      match reply with
      | .error _ => []
      | .ok reply => readable C (reportedCapabilities reply)

/-- The camera with addresses stored over those it has. -/
def overwrite (C : CameraConfig) (l : List (String × Option String)) (s : ONVIFCamera) :
    ONVIFCamera :=
  s.setXaddrs (storeAll C l s.xaddrs)

theorem Framed.overwrite (h : Framed s₀ s) (l : List (String × Option String)) :
    Framed (s₀.overwrite C l) (s.overwrite C l) where
  xaddrs := congrArg (storeAll C l) h.xaddrs
  others := h.others
  keeps := h.keeps
  registered := h.registered
  listed := h.listed
  pathIsfile := h.pathIsfile

/-- **`get_capabilities()`** stores what it has fetched, and leaves everything else alone. -/
theorem framed_getCapabilities {w : CameraWorld} (hw : UsedAlone w) (h : Registered s)
    {reply : Except Exc CapabilitiesReply}
    (hreply : ∀ n sid s, (w n (CameraCall.getCapabilities sid) s).1 = reply) :
    Framed (s.overwrite C (fetched C w s reply)) ((getCapabilities C).exec w 0 s).state := by
  have hrun : wp w.traced (fun _ _ s' => Framed (s.overwrite C (fetched C w s reply)) s')
      (getCapabilities C) [] s ↔ _ := wp_traced
  refine hrun.mp ?_
  have hobtained := wp_exec hw.obeys (n := 0) (framed_devicemgmtWithTime (C := C) (Framed.refl h))
  rw [getCapabilities, wp_bind, wp_getState, ends_ok, fetched.eq_def]
  cases s.capabilities with
  | some capabilities => exact Framed.refl h
  | none =>
    -- the run so far matters only for the state it ends in
    dsimp only
    rw [wp_bind, wp_traced, List.length_nil]
    revert hobtained
    generalize ((devicemgmtWithTime C).exec w 0 s).state = s₁
    generalize [] ++ ((devicemgmtWithTime C).exec w 0 s).trace = trace
    cases ((devicemgmtWithTime C).exec w 0 s).result with
    | error e => exact fun hframed => hframed
    | ok sid =>
      intro hobtained
      rw [ends_ok, wp_bind, updateXaddrsFromCapabilities, wp_bind]
      refine (wp_call_traced (I := cameraInterface)).mpr ?_
      have hresumed := hobtained.1.resumed (hw trace.length (CameraCall.getCapabilities sid) s₁)
      rw [hreply]
      cases reply with
      | error e => exact hresumed
      | ok reply =>
        rw [ends_ok, wp_bind]
        -- the loop may stop at an address that does not parse; what it stored stays
        obtain ⟨r, -, hwp⟩ := wp_addCapabilities (K := w.traced) (C := C) reply.entries
        rw [hwp]
        have hstored : Framed (s.overwrite C (readable C (reportedCapabilities reply))) _ :=
          hresumed.overwrite (readable C (reportedCapabilities reply))
        cases r with
        | error e => exact hstored
        | ok _ =>
          cases reply.serializable with
          | false => exact hstored
          | true => exact hstored.of_eq rfl rfl rfl rfl rfl

/-! ### Services that are reused -/

/-- `create_onvif_service` returns this service at once. -/
def Reuses (C : CameraConfig) (name : String) (portType : Option String) (readTimeout : Option ℕ)
    (sid : ServiceId) (s : ONVIFCamera) : Prop :=
  (createOnvifService C name portType readTimeout).run s = (s, .done (.ok sid))

variable {name : String} {portType : Option String} {readTimeout : Option ℕ}

theorem run_ofExcept_ok {α : Type} (a : α) (s : ONVIFCamera) :
    (ofExcept (.ok a) : CameraCoro α).run s = (s, .done (.ok a)) := rfl

/-- A new service is not returned at once. -/
theorem run_buildService_ne {key : BindingKey} {definition : String × String × String} :
    (buildService C key definition readTimeout).run s ≠ (s', .done (.ok sid)) := by
  intro h
  rw [ONVIFCamera.buildService, run_bind] at h
  simp only [getState, Coro.run, advance] at h
  rw [run_bind] at h
  cases hservice : s.newService C definition.1 definition.2.1 definition.2.2 key readTimeout with
  | error e =>
    rw [hservice] at h
    cases (Prod.mk.inj h).2
  | ok v =>
    rw [hservice, run_ofExcept_ok, advance] at h
    cases (Prod.mk.inj h).2

/-- A service is reused if it is registered under the address that is looked up. -/
theorem reuses_iff : Reuses C name portType readTimeout sid s ↔
    (∃ files, s.wsdlDirFiles.get? C.wsdlDir = some files) ∧
      ∃ definition v, s.getDefinition C (lower name) portType = .ok definition ∧
        s.existingService (lower name, portType) = some (sid, v) ∧ v.xaddr = definition.1 := by
  rw [Reuses, createOnvifService, run_bind, ONVIFCamera.listWsdlDir, run_bind]
  simp only [getState, Coro.run, advance]
  cases s.wsdlDirFiles.get? C.wsdlDir with
  | none =>
    refine iff_of_false (fun h => by cases (Prod.mk.inj h).2) ?_
    rintro ⟨⟨files, hfiles⟩, -⟩
    cases hfiles
  | some files =>
    rw [and_iff_right ⟨files, rfl⟩]
    show (ofExcept (s.getDefinition C (lower name) portType) >>= _).run s = _ ↔ _
    rw [run_bind]
    cases s.getDefinition C (lower name) portType with
    | error e =>
      refine iff_of_false (fun h => by cases (Prod.mk.inj h).2) ?_
      rintro ⟨d, v, hd, -⟩
      cases hd
    | ok definition =>
      rw [run_ofExcept_ok, advance]
      cases s.existingService (lower name, portType) with
      | none =>
        -- a service that is built is waited for
        refine iff_of_false run_buildService_ne ?_
        rintro ⟨d, v, -, hv, -⟩
        cases hv
      | some entry =>
        obtain ⟨i, u⟩ := entry
        dsimp only
        by_cases hxaddr : u.xaddr = definition.1
        · rw [if_pos hxaddr]
          constructor
          · intro h
            cases h
            exact ⟨definition, u, rfl, rfl, hxaddr⟩
          · rintro ⟨d, v, -, hv, -⟩
            cases hv
            rfl
        · rw [if_neg hxaddr]
          refine iff_of_false (fun h => by cases (Prod.mk.inj h).2) ?_
          rintro ⟨d, v, hd, hv, heq⟩
          cases hd
          cases hv
          exact hxaddr heq

/-- The address that is looked up under a name and port type. -/
theorem getDefinition_congr (portType : Option String) {d : ServiceDefinition}
    (hd : lookupService name = some d)
    (hlisted : s'.wsdlDirFiles.get? C.wsdlDir = s.wsdlDirFiles.get? C.wsdlDir)
    (hisfile : s'.pathIsfile = s.pathIsfile)
    (hxaddr : s'.xaddrs.get? (definitionNamespace d portType)
      = s.xaddrs.get? (definitionNamespace d portType)) :
    s'.getDefinition C name portType = s.getDefinition C name portType := by
  have hexists : ∀ file path, s'.wsdlExists C.wsdlDir file path
      = s.wsdlExists C.wsdlDir file path := by
    intro file path
    rw [wsdlExists, wsdlExists, hlisted, hisfile]
  rw [getDefinition, getDefinition, hd]
  dsimp only
  rw [hexists, hxaddr]

/-- A service whose address stays is still reused. -/
theorem reuses_of_framed {l : List (String × Option String)} (h : Framed (s.overwrite C l) s')
    (hname : lower name ≠ "devicemgmt")
    (hxaddr : ∀ d xaddr, lookupService (lower name) = some d →
      s.xaddrs.get? (definitionNamespace d portType) = some xaddr →
      (storeAll C l s.xaddrs).get? (definitionNamespace d portType) = some xaddr)
    (hreuses : Reuses C name portType readTimeout sid s) :
    Reuses C name portType readTimeout sid s' := by
  obtain ⟨⟨files, hfiles⟩, definition, v, hdefinition, hexisting, hv⟩ := reuses_iff.mp hreuses
  obtain ⟨hsid, hservice⟩ := existingService_eq_some.mp hexisting
  have hfiles' := h.listed C.wsdlDir files hfiles
  obtain ⟨d, hd, -⟩ := getDefinition_wsdl hdefinition
  have hlooked : s'.xaddrs.get? (definitionNamespace d portType)
      = s.xaddrs.get? (definitionNamespace d portType) := by
    -- the service was found under this address, so there was one
    rw [h.xaddrs]
    have haddress := getDefinition_address hdefinition
    rw [address, if_neg hname, hd, Option.bind_some] at haddress
    cases hfound : s.xaddrs.get? (definitionNamespace d portType) with
    | none =>
      rw [hfound] at haddress
      cases haddress
    | some xaddr => exact hxaddr d xaddr hd hfound
  have hsid' : s'.services.get? (lower name, portType) = some sid := by
    refine (h.others _ fun hkey => hname ?_).trans hsid
    exact (Prod.mk.inj hkey).1
  refine reuses_iff.mpr ⟨⟨files, hfiles'⟩, definition, ?_⟩
  have hdefinition' := getDefinition_congr portType hd (hfiles'.trans hfiles.symm) h.pathIsfile
    hlooked
  rcases h.keeps sid v hservice with hservice' | hservice'
  · exact ⟨v, hdefinition'.trans hdefinition, existingService_eq_some.mpr ⟨hsid', hservice'⟩, hv⟩
  · exact ⟨v.closed, hdefinition'.trans hdefinition,
      existingService_eq_some.mpr ⟨hsid', hservice'⟩, hv⟩

/-! ### Discovery is not disturbed -/

/-- The namespaces a reply to `GetServices` reports. -/
def reportedNamespaces (services : Option (List ServiceEntry)) : List String :=
  (reportedServices (.ok services)).map fun e => e.1

/-- The namespace of a service that is known. -/
def IsServiceNamespace (ns : String) : Prop := ∃ name d, lookupService name = some d ∧ d.ns = ns

/-- The addresses are those that `GetServices` reported, as far as it or a capability can say. -/
def Populated (C : CameraConfig) (services : Option (List ServiceEntry)) (s : ONVIFCamera) : Prop :=
  ∀ ns, ns ∈ reportedNamespaces services ∨ IsServiceNamespace ns →
    s.xaddrs.get? ns = (storeAll C (reportedServices (.ok services)) Dict.empty).get? ns

/-- From `s` to `s'` the reported addresses stayed, and services that were reused still are. -/
def Undisturbed (C : CameraConfig) (services : Option (List ServiceEntry)) (s s' : ONVIFCamera) :
    Prop :=
  (∀ ns ∈ reportedNamespaces services, s'.xaddrs.get? ns = s.xaddrs.get? ns) ∧
    ∀ name portType readTimeout sid, lower name ≠ "devicemgmt" →
      Reuses C name portType readTimeout sid s → Reuses C name portType readTimeout sid s'

/-- There is nothing to fetch, or for every namespace that was reported the last address a
capability has, up to the first that does not parse, is the one that is there. -/
def CapabilitiesAgree (C : CameraConfig) (w : CameraWorld)
    (services : Option (List ServiceEntry)) (reply : Except Exc CapabilitiesReply)
    (s : ONVIFCamera) : Prop :=
  s.capabilities ≠ none ∨ (∃ e, ((devicemgmtWithTime C).exec w 0 s).result = .error e) ∨
    ∀ capabilities, reply = .ok capabilities → ∀ ns ∈ reportedNamespaces services, ∀ address,
      Dict.lastValue ns (readable C (reportedCapabilities capabilities)) = some address →
        s.xaddrs.get? ns = some (storedUrl C address)

theorem capabilitiesAgree_iff {w : CameraWorld} {services : Option (List ServiceEntry)}
    {reply : Except Exc CapabilitiesReply} : CapabilitiesAgree C w services reply s ↔
      ∀ ns ∈ reportedNamespaces services, ∀ address,
        Dict.lastValue ns (fetched C w s reply) = some address →
          s.xaddrs.get? ns = some (storedUrl C address) := by
  rw [CapabilitiesAgree, fetched.eq_def]
  cases s.capabilities with
  | some capabilities =>
    exact iff_of_true (Or.inl fun h => nomatch h) fun _ _ _ h => nomatch h
  | none =>
    rw [or_iff_right fun h => h rfl]
    cases ((devicemgmtWithTime C).exec w 0 s).result with
    | error e => exact iff_of_true (Or.inl ⟨e, rfl⟩) fun _ _ _ h => nomatch h
    | ok sid =>
      rw [or_iff_right fun h => nomatch h.choose_spec]
      cases reply with
      | error e => exact iff_of_true (fun _ h => nomatch h) fun _ _ _ h => nomatch h
      | ok capabilities =>
        constructor
        · exact fun h => h capabilities rfl
        · intro h capabilities' heq
          cases heq
          exact h

/-- The last address stored for a namespace is there, or none was stored. -/
theorem get?_storeAll_eq_iff (l : List (String × Option String))
    (xaddrs : Dict String (Option String)) (ns : String) :
    (storeAll C l xaddrs).get? ns = xaddrs.get? ns ↔
      ∀ address, Dict.lastValue ns l = some address →
        xaddrs.get? ns = some (storedUrl C address) := by
  rw [storeAll, Dict.get?_insertAll, Dict.lastValue_map]
  cases Dict.lastValue ns l with
  | none =>
    rw [Option.map_none, Option.none_or]
    exact iff_of_true rfl fun _ h => by cases h
  | some address =>
    rw [Option.map_some, Option.some_or]
    constructor
    · intro h address' heq
      cases heq
      exact h.symm
    · exact fun h => (h address rfl).symm

/-- What is fetched has the namespaces of known services. -/
theorem isServiceNamespace_of_fetched {w : CameraWorld} {reply : Except Exc CapabilitiesReply}
    {e : String × Option String} (h : e ∈ fetched C w s reply) : IsServiceNamespace e.1 := by
  rw [fetched.eq_def] at h
  cases hcapabilities : s.capabilities with
  | some capabilities =>
    rw [hcapabilities] at h
    cases h
  | none =>
    rw [hcapabilities] at h
    cases hresult : ((devicemgmtWithTime C).exec w 0 s).result with
    | error e =>
      rw [hresult] at h
      cases h
    | ok sid =>
      rw [hresult] at h
      cases reply with
      | error e => cases h
      | ok capabilities =>
        obtain ⟨⟨n, capability⟩, -, hentry⟩ :=
          List.mem_filterMap.mp (List.takeWhile_subset _ h)
        rw [capabilityAddress] at hentry
        split at hentry
        · rename_i d xaddr hd hcapability
          cases hentry
          obtain ⟨name, -, hlookup⟩ := Option.bind_eq_some_iff.mp hd
          exact ⟨lower name, d, hlookup, rfl⟩
        · cases hentry

/-- **`update_xaddrs()`** populates the addresses when `GetServices` reports some. -/
theorem populated_updateXaddrs {w : CameraWorld} (hw : UsedAlone w)
    {services : Option (List ServiceEntry)}
    (hservices : ∀ n sid s, (w n (CameraCall.getServices sid) s).1 = .ok services)
    (hreported : reportedServices (.ok services) ≠ [])
    (hok : ((updateXaddrs C).exec w 0 s).result = .ok ()) :
    Populated C services ((updateXaddrs C).exec w 0 s).state := by
  have hrun : wp w.traced (fun r _ s' => r = .ok () → Populated C services s')
      (updateXaddrs C) [] s ↔ _ := wp_traced
  refine hrun.mp ?_ hok
  rw [updateXaddrs, wp_bind, wp_modifyState, ends_ok, wp_bind, wp_traced, List.length_nil]
  generalize ((devicemgmtWithTime C).exec _ _ _).state = s₁
  generalize [] ++ _ = trace
  cases ((devicemgmtWithTime C).exec w 0 (s.setDtDiff none)).result with
  | error e => exact fun h => by cases h
  | ok sid =>
    rw [ends_ok, wp_bind, wp_modifyState, ends_ok, wp_bind, updateXaddrsFromServices, wp_bind,
      wp_attempt]
    refine (wp_call_traced (I := cameraInterface)).mpr ?_
    rw [hservices]
    obtain ⟨now, sessionRaises, hresumed⟩ :=
      hw trace.length (CameraCall.getServices sid) (s₁.setXaddrs Dict.empty)
    rw [hresumed, ends_ok]
    by_cases haccepted : ∀ e ∈ (services.getD []).filterMap serviceAddress, Accepted C e.2
    · rw [wp_addServices_of_accepted haccepted, ends_ok]
      have hfound : (!(false || !((services.getD []).filterMap serviceAddress).isEmpty)) = false := by
        have hne : (services.getD []).filterMap serviceAddress ≠ [] := hreported
        simpa using hne
      rw [hfound, if_neg Bool.false_ne_true, wp_pure]
      exact fun _ ns _ => rfl
    · -- an address that does not parse ends `update_xaddrs()`
      obtain ⟨e, l, -, hraise⟩ := wp_addServices_of_not_accepted (K := w.traced) haccepted
      refine (hraise _).mpr ?_
      exact fun h => by cases h

/-- Creating services leaves the addresses populated. -/
theorem populated_createOnvifService {w : CameraWorld} (hw : UsedAlone w)
    {services : Option (List ServiceEntry)} (h : Populated C services s) (name : String)
    (portType : Option String) (readTimeout : Option ℕ) :
    Populated C services ((createOnvifService C name portType readTimeout).exec w 0 s).state := by
  have hupdate : ∀ (_ : Unit) (s s' : ONVIFCamera), RegistryUpdate s s' →
      Populated C services s → Populated C services s' := by
    intro _ s s' hupdate h ns hns
    rw [hupdate.xaddrs, h ns hns]
  have hawait : ∀ c, Preserves usedAlone (fun _ => Populated C services) (await c) := by
    refine fun c => .call (fun _ _ _ => trivial) fun _ s _ _ s' h hs' => ?_
    obtain ⟨now, sessionRaises, rfl⟩ := hs'
    exact h
  exact wp_exec hw.obeys (preserves_createOnvifService hupdate (hawait _) (fun _ => hawait _)
    (fun _ => hawait _) name portType readTimeout () s h)

theorem get?_of_populated {services : Option (List ServiceEntry)} (h : Populated C services s)
    {ns : String} (hns : IsServiceNamespace ns) {xaddr : Option String}
    (hxaddr : s.xaddrs.get? ns = some xaddr) : ns ∈ reportedNamespaces services := by
  rw [h ns (Or.inr hns), get?_storeAll, Option.map_eq_some_iff] at hxaddr
  obtain ⟨address, haddress, -⟩ := hxaddr
  exact List.mem_map.mpr ⟨(ns, address), Dict.lastValue_mem haddress, rfl⟩

/-- **`get_capabilities()` does not disturb discovery** if and only if it finds nothing to fetch or
the addresses that `GetServices` reported. -/
theorem getCapabilities_undisturbing_iff (C : CameraConfig) (w : CameraWorld) (hw : UsedAlone w)
    (services : Option (List ServiceEntry)) (reply : Except Exc CapabilitiesReply)
    (hreply : ∀ n sid s, (w n (CameraCall.getCapabilities sid) s).1 = reply) (s : ONVIFCamera)
    (hregistered : Registered s) (hs : Populated C services s) :
    Undisturbed C services s ((getCapabilities C).exec w 0 s).state ↔
      CapabilitiesAgree C w services reply s := by
  have hframed := framed_getCapabilities (C := C) hw hregistered hreply
  revert hframed
  generalize ((getCapabilities C).exec w 0 s).state = s'
  intro hframed
  have hxaddrs : s'.xaddrs = storeAll C (fetched C w s reply) s.xaddrs := hframed.xaddrs
  rw [capabilitiesAgree_iff]
  constructor
  · rintro ⟨hunchanged, -⟩ ns hns
    have hsame := hunchanged ns hns
    rw [hxaddrs] at hsame
    exact (get?_storeAll_eq_iff _ _ _).mp hsame
  · intro hagree
    have hkept : ∀ ns ∈ reportedNamespaces services,
        (storeAll C (fetched C w s reply) s.xaddrs).get? ns = s.xaddrs.get? ns :=
      fun ns hns => (get?_storeAll_eq_iff _ _ _).mpr (hagree ns hns)
    refine ⟨fun ns hns => by rw [hxaddrs, hkept ns hns], ?_⟩
    intro name portType readTimeout sid hname hreuses
    refine reuses_of_framed hframed hname (fun d xaddr hd hxaddr => ?_) hreuses
    rw [← hxaddr]
    by_cases hns : IsServiceNamespace (definitionNamespace d portType)
    · exact hkept _ (get?_of_populated hs hns hxaddr)
    · -- no capability has the namespace of a port type
      refine (get?_storeAll_eq_iff _ _ _).mpr fun address haddress => ?_
      exact (hns (isServiceNamespace_of_fetched (Dict.lastValue_mem haddress))).elim

/-! ### A media service -/

/-- A reply to `GetServices` with the media service. -/
def mediaServices : Option (List ServiceEntry) := some [mediaEntry]

/-- The camera after discovery, with its media service. -/
def mediaCamera : ONVIFCamera :=
  { localCamera with
    xaddrs := storeAll localConfig (reportedServices (.ok mediaServices)) Dict.empty
    services := localCamera.services.insert ("media", none) 1
    constructed := [localDevicemgmt, localMedia] }

theorem registered_mediaCamera : Registered mediaCamera := by
  have hadded : Registered (localCamera.addService localMedia) :=
    registered_localCamera.of_extends (.addService localMedia) rfl
  have hmedia : (localCamera.addService localMedia).service? 1 = some localMedia := rfl
  exact (hadded.register hmedia rfl).of_extends (.of_eq rfl) rfl

/-- A reply to `GetCapabilities` with the media service at an address. -/
def mediaAt (xaddr : String) : CapabilitiesReply where
  entries := [(some "Media", .mapping (some (some xaddr)))]
  serializable := true

/-- A device that answers `GetCapabilities` so. -/
def mediaDevice (xaddr : String) : CameraWorld :=
  deviceAlone (discoveryAnswers (.ok mediaServices) (mediaAt xaddr))

theorem usedAlone_mediaDevice (xaddr : String) : UsedAlone (mediaDevice xaddr) :=
  fun _ _ s => ⟨s.now, s.sessionRaises, rfl⟩

/-- A device whose two answers agree. -/
theorem getCapabilities_undisturbing_media :
    Undisturbed localConfig mediaServices mediaCamera ((getCapabilities localConfig).exec
      (mediaDevice "http://192.168.0.2/onvif/media") 0 mediaCamera).state := by
  refine (getCapabilities_undisturbing_iff localConfig (mediaDevice "http://192.168.0.2/onvif/media")
    (usedAlone_mediaDevice _) mediaServices (.ok (mediaAt "http://192.168.0.2/onvif/media"))
    (fun _ _ _ => rfl) mediaCamera registered_mediaCamera fun _ _ => rfl).mpr ?_
  refine Or.inr (Or.inr fun capabilities hreply ns hns address haddress => ?_)
  cases hreply
  have hnamespaces : reportedNamespaces mediaServices = ["http://www.onvif.org/ver10/media/wsdl"] := by
    decide +kernel
  rw [hnamespaces, List.mem_singleton] at hns
  have hlast : Dict.lastValue "http://www.onvif.org/ver10/media/wsdl" (readable localConfig
      (reportedCapabilities (mediaAt "http://192.168.0.2/onvif/media")))
      = some (some "http://192.168.0.2/onvif/media") := by decide +kernel
  rw [hns, hlast] at haddress
  cases haddress
  rw [hns]
  decide +kernel

/-- A device whose `GetCapabilities` has the media service at another port. -/
theorem getCapabilities_overwrites_media :
    ¬∀ (C : CameraConfig) (w : CameraWorld) (_ : UsedAlone w)
      (services : Option (List ServiceEntry)) (reply : Except Exc CapabilitiesReply)
      (_ : ∀ n sid s, (w n (CameraCall.getCapabilities sid) s).1 = reply) (s : ONVIFCamera)
      (_ : Registered s) (_ : Populated C services s),
      Undisturbed C services s ((getCapabilities C).exec w 0 s).state := by
  intro h
  have hunchanged := (h localConfig (mediaDevice "http://192.168.0.2:8080/onvif/media")
    (usedAlone_mediaDevice _) mediaServices (.ok (mediaAt "http://192.168.0.2:8080/onvif/media"))
    (fun _ _ _ => rfl) mediaCamera registered_mediaCamera fun _ _ => rfl).1
    "http://www.onvif.org/ver10/media/wsdl" (by decide +kernel)
  exact absurd hunchanged (by decide +kernel)

end ONVIFCamera

end Onvif
