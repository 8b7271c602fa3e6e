/-
The registry of services and the services it refers to.

* **`Extends`** — services are never lost or exchanged, they only get closed;
* **`Registered`** — every registered service was constructed for the key it is registered
  under; `Registered.register`, `Registered.addService` and so on carry it through the
  operations;
* **`address`** — where the service of a key is found, which is what `get_definition` returns;
* **`CreationOutline`**, **`CreationOutline.wp_createOnvifService`** — assertions for the points
  `create_onvif_service` comes through, and the rule for it;
* **`preserves_updateXaddrsFromServices`**, **`preserves_updateXaddrsFromCapabilities`** —
  discovery keeps whatever does not depend on the addresses and the capabilities;
* **`preserves_createOnvifService`**, **`preserves_perform`** — creating a service, and every call
  of the consumer, keeps whatever each update of its own (`RegistryUpdate`, `CameraUpdate`) keeps.
-/
import OnvifZeep.CoroutineRules
import OnvifZeep.Client

namespace Onvif

open Coro

namespace ONVIFCamera

variable {s s' s'' : ONVIFCamera} {sid i : ServiceId} {v : ONVIFService} {key : BindingKey}

/-! ### Reading after an operation -/

theorem service?_addService (v : ONVIFService) (s : ONVIFCamera) (i : ServiceId) :
    (s.addService v).service? i = if i = s.constructed.length then some v else s.service? i := by
  rw [service?, service?, addService]
  rcases Nat.lt_trichotomy i s.constructed.length with hlt | rfl | hgt
  · rw [List.getElem?_append_left hlt, if_neg (Nat.ne_of_lt hlt)]
  · rw [List.getElem?_concat_length, if_pos rfl]
  · have hlen : (s.constructed ++ [v]).length ≤ i := by
      rw [List.length_append]
      exact hgt
    rw [List.getElem?_eq_none hlen, if_neg (Nat.ne_of_gt hgt),
      List.getElem?_eq_none (Nat.le_of_lt hgt)]

theorem service?_lt (h : s.service? i = some v) : i < s.constructed.length :=
  (List.getElem?_eq_some_iff.mp h).1

theorem service?_addService_of_some (h : s.service? i = some v) (u : ONVIFService) :
    (s.addService u).service? i = some v := by
  rw [service?_addService, if_neg (Nat.ne_of_lt (service?_lt h)), h]

theorem service?_addService_self (v : ONVIFService) (s : ONVIFCamera) :
    (s.addService v).service? s.constructed.length = some v := by
  rw [service?_addService, if_pos rfl]

theorem service?_markClosed (sid : ServiceId) (s : ONVIFCamera) (i : ServiceId) :
    (s.markClosed sid).service? i
      = if sid = i then (s.service? i).map ONVIFService.closed else s.service? i := by
  rw [service?, service?, markClosed, List.getElem?_modify]
  by_cases h : sid = i
  · rw [if_pos h]
    simp [h]
  · rw [if_neg h]
    simp [h]

theorem isClosed_markClosed (h : s.service? sid = some v) : (s.markClosed sid).isClosed sid := by
  rw [isClosed, service?_markClosed, if_pos rfl, h]
  rfl

/-! ### Services stay -/

/-- Every service of `s` is still there, possibly closed by now. -/
def Extends (s s' : ONVIFCamera) : Prop :=
  ∀ sid v, s.service? sid = some v → s'.service? sid = some v ∨ s'.service? sid = some v.closed

theorem Extends.refl (s : ONVIFCamera) : Extends s s := fun _ _ h => Or.inl h

theorem Extends.trans (h : Extends s s') (h' : Extends s' s'') : Extends s s'' := by
  intro sid v hv
  rcases h sid v hv with hv | hv
  · exact h' sid v hv
  · rcases h' sid v.closed hv with hv | hv
    · exact Or.inr hv
    · exact Or.inr hv

theorem Extends.of_eq (h : s'.constructed = s.constructed) : Extends s s' := fun sid v hv =>
  Or.inl (by rwa [service?, h])

theorem Extends.addService (u : ONVIFService) : Extends s (s.addService u) :=
  fun _ _ hv => Or.inl (service?_addService_of_some hv u)

theorem Extends.markClosed (sid : ServiceId) : Extends s (s.markClosed sid) := by
  intro i v hv
  rw [service?_markClosed]
  by_cases h : sid = i
  · rw [if_pos h, hv]
    exact Or.inr rfl
  · rw [if_neg h]
    exact Or.inl hv

theorem Extends.of_left (h : Extends s s') (hs : s''.constructed = s.constructed) :
    Extends s'' s' := by
  intro sid v hv
  rw [service?, hs] at hv
  exact h sid v hv

theorem Extends.exists_service? (h : Extends s s') (hv : s.service? sid = some v) :
    ∃ v', s'.service? sid = some v' ∧ v'.bindingKey = v.bindingKey := by
  rcases h sid v hv with hv' | hv'
  · exact ⟨v, hv', rfl⟩
  · exact ⟨v.closed, hv', rfl⟩

theorem Extends.isClosed (h : Extends s s') (hclosed : s.isClosed sid) : s'.isClosed sid := by
  rw [ONVIFCamera.isClosed] at hclosed ⊢
  cases hv : s.service? sid with
  | none =>
    rw [hv] at hclosed
    exact absurd hclosed (by simp)
  | some v =>
    rw [hv] at hclosed
    rcases h sid v hv with hv' | hv'
    · rw [hv']
      exact hclosed
    · rw [hv']
      rfl

/-! ### Registered services -/

/-- A registered service was constructed for its key. -/
def Registered (s : ONVIFCamera) : Prop :=
  ∀ key sid, s.services.get? key = some sid → ∃ v, s.service? sid = some v ∧ v.bindingKey = key

theorem Registered.of_extends (h : Registered s) (hext : Extends s s')
    (hservices : s'.services = s.services) : Registered s' := by
  intro key sid hsid
  obtain ⟨v, hv, hkey⟩ := h key sid (hservices ▸ hsid)
  rcases hext sid v hv with hv | hv
  · exact ⟨v, hv, hkey⟩
  · exact ⟨v.closed, hv, hkey⟩

theorem Registered.register (h : Registered s) (hv : s.service? sid = some v)
    (hkey : v.bindingKey = key) : Registered (s.register key sid) := by
  intro key' sid' hsid
  rw [ONVIFCamera.register, Dict.get?_insert] at hsid
  by_cases heq : key' = key
  · rw [if_pos heq] at hsid
    obtain rfl := Option.some.inj hsid
    exact ⟨v, hv, hkey.trans heq.symm⟩
  · rw [if_neg heq] at hsid
    exact h key' sid' hsid

theorem Registered.unregister (h : Registered s) (key : BindingKey) :
    Registered (s.unregister key) := by
  intro key' sid' hsid
  rw [ONVIFCamera.unregister, Dict.get?_erase] at hsid
  by_cases heq : key' = key
  · rw [if_pos heq] at hsid
    cases hsid
  · rw [if_neg heq] at hsid
    exact h key' sid' hsid

theorem Registered.existingService (h : Registered s) (hsid : s.services.get? key = some sid) :
    ∃ v, s.service? sid = some v ∧ v.bindingKey = key ∧
      s.existingService key = some (sid, v) := by
  obtain ⟨v, hv, hkey⟩ := h key sid hsid
  refine ⟨v, hv, hkey, ?_⟩
  rw [ONVIFCamera.existingService, hsid]
  simp [hv]

theorem existingService_eq_some :
    s.existingService key = some (sid, v) ↔ s.services.get? key = some sid ∧ s.service? sid = some v := by
  rw [existingService]
  cases s.services.get? key with
  | none => simp
  | some i =>
    cases hi : s.service? i with
    | none =>
      simp only [Option.bind_eq_bind, Option.bind_some, hi, Option.bind_none]
      constructor
      · intro h
        cases h
      · rintro ⟨h, hv⟩
        rw [← Option.some.inj h, hi] at hv
        cases hv
    | some u =>
      simp only [Option.bind_eq_bind, Option.bind_some, hi]
      constructor
      · intro h
        cases h
        exact ⟨rfl, hi⟩
      · rintro ⟨h, hv⟩
        cases h
        rw [hi] at hv
        cases hv
        rfl

theorem existingService_eq_none (h : Registered s) :
    s.existingService key = none ↔ s.services.get? key = none := by
  constructor
  · intro hnone
    cases hsid : s.services.get? key with
    | none => rfl
    | some sid =>
      obtain ⟨v, -, -, hsome⟩ := h.existingService hsid
      rw [hnone] at hsome
      cases hsome
  · intro hnone
    rw [ONVIFCamera.existingService, hnone]
    rfl

theorem registered_localCamera : Registered localCamera := by
  intro key sid hsid
  rw [localCamera, Dict.get?_insert] at hsid
  by_cases hkey : key = ("devicemgmt", none)
  · rw [if_pos hkey] at hsid
    obtain rfl := Option.some.inj hsid
    exact ⟨localDevicemgmt, rfl, hkey.symm⟩
  · rw [if_neg hkey] at hsid
    cases hsid

/-! ### Addresses -/

/-- Where the service of a name and port type is found. -/
def address (C : CameraConfig) (s : ONVIFCamera) (name : String) (portType : Option String) :
    Option String :=
  if name = "devicemgmt" then some (devicemgmtXaddr C)
  else (lookupService name).bind fun d => (s.xaddrs.get? (definitionNamespace d portType)).join

theorem getDefinition_address {C : CameraConfig} {name : String} {portType : Option String}
    {definition : String × String × String} (h : s.getDefinition C name portType = .ok definition) :
    s.address C name portType = some definition.1 := by
  rw [getDefinition] at h
  rw [address]
  cases hd : lookupService name with
  | none =>
    rw [hd] at h
    cases h
  | some d =>
    rw [hd] at h
    dsimp only at h
    split at h
    · cases h
    split at h
    · rename_i hname
      rw [if_pos hname]
      cases h
      rfl
    · rename_i hname
      rw [if_neg hname, Option.bind_some]
      split at h
      · rename_i xaddr hxaddr
        split at h
        · cases h
        · cases h
          rw [hxaddr]
          rfl
      · cases h

theorem getDefinition_wsdl {C : CameraConfig} {name : String} {portType : Option String}
    {definition : String × String × String} (h : s.getDefinition C name portType = .ok definition) :
    ∃ d, lookupService name = some d ∧ definition.2.1 = joinPath C.wsdlDir d.wsdl := by
  rw [getDefinition] at h
  cases hd : lookupService name with
  | none =>
    rw [hd] at h
    cases h
  | some d =>
    rw [hd] at h
    dsimp only at h
    refine ⟨d, rfl, ?_⟩
    split at h
    · cases h
    split at h
    · cases h
      rfl
    · split at h
      · split at h
        · cases h
        · cases h
          rfl
      · cases h

/-- Constructing a service fails without its WSDL file, or when no session can be opened. -/
theorem newService_isOk_iff {C : CameraConfig} {xaddr url bindingName : String} {key : BindingKey}
    {readTimeout : Option ℕ} : (∃ v, s.newService C xaddr url bindingName key readTimeout = .ok v) ↔
      s.sessionRaises = none ∧ s.wsdlExists (splitPath url).1 (splitPath url).2 url := by
  rw [newService]
  by_cases hexists : s.wsdlExists (splitPath url).1 (splitPath url).2 url = true
  · rw [if_neg (by simp [hexists])]
    cases hraises : s.sessionRaises with
    | none => exact ⟨fun _ => ⟨rfl, hexists⟩, fun _ => ⟨_, rfl⟩⟩
    | some e =>
      constructor
      · rintro ⟨v, hv⟩
        cases e <;> cases hv
      · rintro ⟨hnone, -⟩
        cases hnone
  · rw [if_pos (by simp [hexists])]
    constructor
    · rintro ⟨v, hv⟩
      cases hv
    · rintro ⟨-, h⟩
      exact absurd h hexists

theorem newService_spec {C : CameraConfig} {xaddr url bindingName : String} {key : BindingKey}
    {readTimeout : Option ℕ} (h : s.newService C xaddr url bindingName key readTimeout = .ok v) :
    v.xaddr = xaddr ∧ v.dtDiff = s.dtDiff ∧ v.bindingKey = key ∧ v.sessionClosed = false := by
  rw [newService] at h
  split at h
  · cases h
  · cases hraises : s.sessionRaises with
    | none =>
      rw [hraises] at h
      cases h
      exact ⟨rfl, rfl, rfl, rfl⟩
    | some e =>
      rw [hraises] at h
      cases e <;> cases h

/-! ### Discovery -/

section Discovery

variable {C : CameraConfig} {γ : Type} {K : Contract cameraInterface Exc ONVIFCamera γ}
  {P : γ → ONVIFCamera → Prop}

theorem preserves_addServices (hxaddr : ∀ ns xaddr g s, P g s → P g (s.setXaddr ns xaddr))
    (entries : List ServiceEntry) (found : Bool) :
    Preserves K P (addServices C entries found) := by
  induction entries generalizing found with
  | nil => exact .pure found
  | cons entry rest ih =>
    rw [addServices]
    split
    · split
      · exact .bind (.ofExcept _) fun url =>
          .bind (.modifyState fun g s h => hxaddr _ url g s h) fun _ => ih true
      · exact ih found
    · exact ih found

theorem preserves_updateXaddrsFromServices
    (hxaddr : ∀ ns xaddr g s, P g s → P g (s.setXaddr ns xaddr)) {devicemgmt : ServiceId}
    (hcall : Preserves K P (await (.getServices devicemgmt))) :
    Preserves K P (updateXaddrsFromServices C devicemgmt) := by
  refine .bind (.attempt hcall) fun services => ?_
  cases services with
  | ok services => exact preserves_addServices hxaddr _ _
  | error err =>
    by_cases herr : err.oneOf [.onvifError, .fault]
    · simp only [herr, if_true]
      exact .pure false
    · simp only [herr]
      exact .raise err

theorem preserves_addCapability (hxaddr : ∀ ns xaddr g s, P g s → P g (s.setXaddr ns xaddr))
    (name : Option String) (capability : Capability) :
    Preserves K P (addCapability C name capability) := by
  rw [addCapability.eq_def]
  split
  · exact .raise _
  · split
    · exact .pure ()
    · exact .pure ()
    · exact .raise _
    · exact .raise _
    · exact .bind (.ofExcept _) fun url => .modifyState fun g s h => hxaddr _ url g s h

theorem preserves_updateXaddrsFromCapabilities
    (hxaddr : ∀ ns xaddr g s, P g s → P g (s.setXaddr ns xaddr))
    (hcapabilities : ∀ capabilities g s, P g s → P g (s.setCapabilities capabilities))
    {devicemgmt : ServiceId} (hcall : Preserves K P (await (.getCapabilities devicemgmt))) :
    Preserves K P (updateXaddrsFromCapabilities C devicemgmt) := by
  refine .bind hcall fun reply => .bind (.forEach (fun entry => ?_) _) fun _ => ?_
  · refine .tryExcept (preserves_addCapability hxaddr _ _) fun err => ?_
    by_cases herr : err.oneOf capabilityErrors
    · rw [if_pos herr]
      exact .pure ()
    · rw [if_neg herr]
      exact .raise err
  · by_cases hserializable : reply.serializable = true
    · rw [if_pos hserializable]
      exact .modifyState fun g s h => hcapabilities _ g s h
    · rw [if_neg hserializable]
      exact .pure ()

end Discovery

/-! ### Whatever a call does -/

/-- What creating a service does to the camera at a time. -/
inductive RegistryUpdate (s : ONVIFCamera) : ONVIFCamera → Prop where
  | addService (service : ONVIFService) : RegistryUpdate s (s.addService service)
  | markClosed (sid : ServiceId) : RegistryUpdate s (s.markClosed sid)
  | register (key : BindingKey) (sid : ServiceId) : RegistryUpdate s (s.register key sid)
  | unregister (key : BindingKey) : RegistryUpdate s (s.unregister key)
  | cacheWsdlDir (wsdlDir : String) (files : Option (List String)) :
    RegistryUpdate s (s.cacheWsdlDir wsdlDir files)

/-- What a call of the consumer does to the camera at a time. -/
inductive CameraUpdate (s : ONVIFCamera) : ONVIFCamera → Prop where
  | registry {s' : ONVIFCamera} (h : RegistryUpdate s s') : CameraUpdate s s'
  | setDtDiff (dtDiff : Option TimeDelta) : CameraUpdate s (s.setDtDiff dtDiff)
  | setXaddrs (xaddrs : Dict String (Option String)) : CameraUpdate s (s.setXaddrs xaddrs)
  | setXaddr (ns : String) (xaddr : Option String) : CameraUpdate s (s.setXaddr ns xaddr)
  | setCapabilities (capabilities : List (Option String × Capability)) :
    CameraUpdate s (s.setCapabilities capabilities)

theorem RegistryUpdate.xaddrs (h : RegistryUpdate s s') : s'.xaddrs = s.xaddrs := by
  cases h <;> rfl

theorem RegistryUpdate.dtDiff (h : RegistryUpdate s s') : s'.dtDiff = s.dtDiff := by
  cases h <;> rfl

/-- **Services stay**, whatever a call does. -/
theorem CameraUpdate.extends (h : CameraUpdate s s') : Extends s s' := by
  cases h with
  | registry h =>
    cases h with
    | addService service => exact .addService service
    | markClosed sid => exact .markClosed sid
    | _ => exact .of_eq rfl
  | _ => exact .of_eq rfl

section RegistryUpdates

variable {C : CameraConfig} {γ : Type} {K : Contract cameraInterface Exc ONVIFCamera γ}
  {P : γ → ONVIFCamera → Prop} (hupdate : ∀ g s s', RegistryUpdate s s' → P g s → P g s')

include hupdate

theorem preserves_modify {f : ONVIFCamera → ONVIFCamera} (hf : ∀ s, RegistryUpdate s (f s)) :
    Preserves K P (modifyState f) :=
  .modifyState fun g s h => hupdate g s (f s) (hf s) h

theorem preserves_closeService (sid : ServiceId) (hclose : Preserves K P (await (.close sid))) :
    Preserves K P (closeService sid) :=
  .bind (preserves_modify hupdate fun _ => .markClosed sid) fun _ => hclose

theorem preserves_popService (key : BindingKey) : Preserves K P (popService key) := by
  refine .bind .getState fun s => ?_
  cases s.services.get? key with
  | some sid => exact preserves_modify hupdate fun _ => .unregister key
  | none => exact .raise _

theorem preserves_buildService (hsetup : ∀ sid, Preserves K P (await (.setup sid)))
    (key : BindingKey) (definition : String × String × String) (readTimeout : Option ℕ) :
    Preserves K P (buildService C key definition readTimeout) :=
  .bind .getState fun _ => .bind (.ofExcept _) fun service =>
    .bind (preserves_modify hupdate fun _ => .addService service) fun _ =>
      .bind (hsetup _) fun _ => .bind (preserves_modify hupdate fun _ => .register key _) fun _ =>
        .pure _

/-- **Creating a service** keeps what each of its updates keeps. -/
theorem preserves_createOnvifService (hlist : Preserves K P (await (.listWsdlDir C.wsdlDir)))
    (hclose : ∀ sid, Preserves K P (await (.close sid)))
    (hsetup : ∀ sid, Preserves K P (await (.setup sid))) (name : String)
    (portType : Option String) (readTimeout : Option ℕ) :
    Preserves K P (createOnvifService C name portType readTimeout) := by
  refine .bind (.bind .getState fun s => ?_) fun _ => .bind .getState fun s =>
    .bind (.ofExcept _) fun definition => ?_
  · cases s.wsdlDirFiles.get? C.wsdlDir with
    | some files => exact .pure ()
    | none =>
      exact .bind hlist fun files => preserves_modify hupdate fun _ => .cacheWsdlDir C.wsdlDir files
  · cases s.existingService (lower name, portType) with
    | none => exact preserves_buildService hupdate hsetup _ _ _
    | some entry =>
      obtain ⟨sid, service⟩ := entry
      dsimp only
      by_cases hxaddr : service.xaddr = definition.1
      · rw [if_pos hxaddr]
        exact .pure sid
      · rw [if_neg hxaddr]
        exact .bind (preserves_closeService hupdate sid (hclose sid)) fun _ =>
          .bind (preserves_popService hupdate _) fun _ =>
            preserves_buildService hupdate hsetup _ _ _

end RegistryUpdates

section CameraUpdates

variable {C : CameraConfig} {γ : Type} {K : Contract cameraInterface Exc ONVIFCamera γ}
  {P : γ → ONVIFCamera → Prop}

theorem preserves_getSystemDateAndTime (devicemgmt : ServiceId)
    (hawait : ∀ authless, Preserves K P (await (.getSystemDateAndTime devicemgmt authless))) :
    Preserves K P (getSystemDateAndTime devicemgmt) := by
  refine .tryExcept (hawait true) fun e => ?_
  by_cases he : e.oneOf [.fault]
  · rw [if_pos he]
    exact hawait false
  · rw [if_neg he]
    exact .raise e

variable (hupdate : ∀ g s s', CameraUpdate s s' → P g s → P g s')
  (hawait : ∀ c, Preserves K P (await c))

include hupdate hawait

theorem preserves_devicemgmtWithTime : Preserves K P (devicemgmtWithTime C) := by
  have hregistry : ∀ g s s', RegistryUpdate s s' → P g s → P g s' :=
    fun g s s' h => hupdate g s s' (.registry h)
  have hcreate : Preserves K P (createDevicemgmtService C) :=
    preserves_createOnvifService hregistry (hawait _) (fun _ => hawait _) (fun _ => hawait _) _ _ _
  refine .bind hcreate fun devicemgmt => .bind .getState fun s => ?_
  cases s.dtDiff with
  | some dtDiff => exact .pure devicemgmt
  | none =>
    rw [adjustTime]
    by_cases hadjust : (!C.adjustTime) = true
    · rw [if_pos hadjust]
      exact .pure devicemgmt
    rw [if_neg hadjust]
    refine .bind (preserves_getSystemDateAndTime devicemgmt fun _ => hawait _) fun reply =>
      .bind (.ofExcept _) fun date => .bind .getState fun s => .bind (.ofExcept _) fun dtDiff =>
        .bind (.modifyState fun g s h => hupdate g s _ (.setDtDiff (some dtDiff)) h) fun _ =>
          .bind (preserves_closeService hregistry devicemgmt (hawait _)) fun _ =>
            .bind .getState fun s => ?_
    cases s.service? devicemgmt with
    | some service => exact .bind (preserves_popService hregistry _) fun _ => hcreate
    | none => exact .bind (.raise _) fun _ => hcreate

/-- **A call of the consumer** keeps what each of its updates keeps. -/
theorem preserves_perform (op : CameraOp) : Preserves K P (perform C op) := by
  have hxaddr : ∀ ns xaddr g s, P g s → P g (s.setXaddr ns xaddr) :=
    fun ns xaddr g s h => hupdate g s _ (.setXaddr ns xaddr) h
  have hcapabilities : ∀ capabilities g s, P g s → P g (s.setCapabilities capabilities) :=
    fun capabilities g s h => hupdate g s _ (.setCapabilities capabilities) h
  have hdevicemgmt : Preserves K P (devicemgmtWithTime C) :=
    preserves_devicemgmtWithTime hupdate hawait
  cases op with
  | updateXaddrs =>
    refine .bind (.bind (.modifyState fun g s h => hupdate g s _ (.setDtDiff none) h) fun _ =>
      .bind hdevicemgmt fun devicemgmt =>
        .bind (.modifyState fun g s h => hupdate g s _ (.setXaddrs Dict.empty) h) fun _ =>
          .bind (preserves_updateXaddrsFromServices hxaddr (hawait _)) fun found => ?_)
      fun _ => .pure none
    cases found with
    | true => exact .pure ()
    | false => exact preserves_updateXaddrsFromCapabilities hxaddr hcapabilities (hawait _)
  | getCapabilities =>
    refine .bind (.bind .getState fun s => ?_) fun _ => .pure none
    cases s.capabilities with
    | some capabilities => exact .pure (some capabilities)
    | none =>
      exact .bind hdevicemgmt fun devicemgmt =>
        .bind (preserves_updateXaddrsFromCapabilities hxaddr hcapabilities (hawait _)) fun _ =>
          .bind .getState fun s => .pure s.capabilities
  | createOnvifService name portType readTimeout =>
    exact .bind (preserves_createOnvifService (fun g s s' h => hupdate g s s' (.registry h))
      (hawait _) (fun _ => hawait _) (fun _ => hawait _) name portType readTimeout)
      fun sid => .pure (some sid)

end CameraUpdates

/-! ### Proof outlines for `create_onvif_service` -/

/-- The definition was found under the name and port type, in some state. -/
def Defined (C : CameraConfig) (name : String) (portType : Option String)
    (definition : String × String × String) : Prop :=
  ∃ s : ONVIFCamera, s.getDefinition C (lower name) portType = .ok definition

/-- One assertion for each point `create_onvif_service` comes through, and what makes each of
them follow from the one before: under the contract `K`, for every answer. -/
structure CreationOutline {γ : Type} (K : Contract cameraInterface Exc ONVIFCamera γ)
    (C : CameraConfig) (name : String) (portType : Option String) where
  -- nothing is done yet
  idle : γ → ONVIFCamera → Prop
  -- the registered service is closed, its entry still there
  closed : γ → ONVIFCamera → Prop
  -- a service is to be constructed
  vacant : γ → ONVIFCamera → Prop
  returned : ServiceId → γ → ONVIFCamera → Prop
  failed : Exc → γ → ONVIFCamera → Prop
  listed : ∀ {g s}, idle g s → K.suspend g (.listWsdlDir C.wsdlDir) s ∧
    ∀ r g' s', K.resume g (.listWsdlDir C.wsdlDir) s r g' s' →
      match r with
      | .ok files => idle g' (s'.cacheWsdlDir C.wsdlDir files)
      | .error e => failed e g' s'
  undefined : ∀ {g s e}, idle g s → s.getDefinition C (lower name) portType = .error e →
    failed e g s
  reused : ∀ {g s sid v}, idle g s →
    s.existingService (lower name, portType) = some (sid, v) → returned sid g s
  absent : ∀ {g s}, idle g s → s.existingService (lower name, portType) = none → vacant g s
  closing : ∀ {g s sid v}, idle g s → s.existingService (lower name, portType) = some (sid, v) →
    K.suspend g (.close sid) (s.markClosed sid) ∧
      ∀ r g' s', K.resume g (.close sid) (s.markClosed sid) r g' s' →
        match r with
        | .ok _ => closed g' s'
        | .error e => failed e g' s'
  popped : ∀ {g s sid}, closed g s → s.services.get? (lower name, portType) = some sid →
    vacant g (s.unregister (lower name, portType))
  notFound : ∀ {g s}, closed g s → s.services.get? (lower name, portType) = none →
    failed (.builtin .keyError (bindingKeyStr (lower name, portType))) g s
  built : ∀ {g s definition readTimeout v}, vacant g s → Defined C name portType definition →
    s.newService C definition.1 definition.2.1 definition.2.2 (lower name, portType) readTimeout
      = .ok v →
    K.suspend g (.setup s.constructed.length) (s.addService v) ∧
      ∀ r g' s', K.resume g (.setup s.constructed.length) (s.addService v) r g' s' →
        match r with
        | .ok _ => returned s.constructed.length g'
            (s'.register (lower name, portType) s.constructed.length)
        | .error e => failed e g' s'
  notBuilt : ∀ {g s definition readTimeout e}, vacant g s → Defined C name portType definition →
    s.newService C definition.1 definition.2.1 definition.2.2 (lower name, portType) readTimeout
      = .error e → failed e g s

namespace CreationOutline

variable {C : CameraConfig} {γ : Type} {K : Contract cameraInterface Exc ONVIFCamera γ}
  {name : String} {portType : Option String} {g : γ}

/-- How `create_onvif_service` ends by the outline. -/
def post (O : CreationOutline K C name portType) : Except Exc ServiceId → γ → ONVIFCamera → Prop :=
  Ends O.returned O.failed

theorem wp_listWsdlDir (O : CreationOutline K C name portType) (h : O.idle g s) :
    wp K (Ends (fun _ => O.idle) O.failed) (listWsdlDir C) g s := by
  rw [ONVIFCamera.listWsdlDir, wp_bind, wp_getState, ends_ok]
  cases s.wsdlDirFiles.get? C.wsdlDir with
  | some files => exact h
  | none =>
    dsimp only
    rw [wp_bind]
    refine (wp_call _).mpr ⟨(O.listed h).1, fun r g' s' hr => ?_⟩
    have hlisted := (O.listed h).2 r g' s' hr
    cases r with
    | ok files => exact hlisted
    | error e => exact hlisted

theorem wp_closeService (O : CreationOutline K C name portType) (h : O.idle g s)
    (hexisting : s.existingService (lower name, portType) = some (sid, v)) :
    wp K (Ends (fun _ => O.closed) O.failed) (closeService sid) g s := by
  rw [ONVIFCamera.closeService, wp_bind, wp_modifyState, ends_ok]
  refine (wp_call _).mpr ⟨(O.closing h hexisting).1, fun r g' s' hr => ?_⟩
  have hclosing := (O.closing h hexisting).2 r g' s' hr
  cases r with
  | ok _ => exact hclosing
  | error e => exact hclosing

theorem wp_popService (O : CreationOutline K C name portType) (h : O.closed g s) :
    wp K (Ends (fun _ => O.vacant) O.failed) (popService (lower name, portType)) g s := by
  rw [ONVIFCamera.popService, wp_bind, wp_getState, ends_ok]
  cases hentry : s.services.get? (lower name, portType) with
  | some sid => exact O.popped h hentry
  | none => exact O.notFound h hentry

theorem wp_buildService (O : CreationOutline K C name portType) (h : O.vacant g s)
    {definition : String × String × String} (hdefined : Defined C name portType definition)
    (readTimeout : Option ℕ) :
    wp K O.post (buildService C (lower name, portType) definition readTimeout) g s := by
  rw [ONVIFCamera.buildService, wp_bind, wp_getState, ends_ok, wp_bind, wp_ofExcept]
  cases hservice : s.newService C definition.1 definition.2.1 definition.2.2
      (lower name, portType) readTimeout with
  | error e => exact O.notBuilt h hdefined hservice
  | ok v =>
    rw [ends_ok, wp_bind, wp_modifyState, ends_ok, wp_bind]
    refine (wp_call _).mpr ⟨(O.built h hdefined hservice).1, fun r g' s' hr => ?_⟩
    have hbuilt := (O.built h hdefined hservice).2 r g' s' hr
    cases r with
    | ok _ => exact hbuilt
    | error e => exact hbuilt

/-- **The rule for `create_onvif_service`**. -/
theorem wp_createOnvifService (O : CreationOutline K C name portType) (h : O.idle g s)
    (readTimeout : Option ℕ) :
    wp K O.post (createOnvifService C name portType readTimeout) g s := by
  rw [ONVIFCamera.createOnvifService, wp_bind]
  refine wp_mono (fun r g s hr => ?_) (O.wp_listWsdlDir h)
  cases r with
  | error e => exact hr
  | ok _ =>
    rw [ends_ok, wp_bind, wp_getState, ends_ok, wp_bind, wp_ofExcept]
    cases hdefinition : s.getDefinition C (lower name) portType with
    | error e => exact O.undefined hr hdefinition
    | ok definition =>
      have hdefined : Defined C name portType definition := ⟨s, hdefinition⟩
      rw [ends_ok]
      cases hexisting : s.existingService (lower name, portType) with
      | none => exact O.wp_buildService (O.absent hr hexisting) hdefined readTimeout
      | some entry =>
        obtain ⟨sid, service⟩ := entry
        dsimp only
        by_cases hxaddr : service.xaddr = definition.1
        · rw [if_pos hxaddr]
          exact O.reused hr hexisting
        · rw [if_neg hxaddr, wp_bind]
          refine wp_mono (fun r g s hr => ?_) (O.wp_closeService hr hexisting)
          cases r with
          | error e => exact hr
          | ok _ =>
            rw [ends_ok, wp_bind]
            refine wp_mono (fun r g s hr => ?_) (O.wp_popService hr)
            cases r with
            | error e => exact hr
            | ok _ => exact O.wp_buildService hr hdefined readTimeout

end CreationOutline

end ONVIFCamera

end Onvif
