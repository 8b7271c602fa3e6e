/-
Two managers on one camera: what each of them leaves alone.

A manager creates its services under binding keys, and stores the address of its subscription
under a namespace, that are its own (`Own`, `space`): the other manager never touches them.

* **`Kept`** — the entries, services and addresses of some keys and namespaces stay;
* **`isolated`** — the contract of a manager's tasks: they keep what is not the manager's, and
  others keep what is;
* **`wp_createOnvifService`** — creating a service of the manager under that contract;
* **`wp_innerStart`** — a `_start()` that completes leaves both services at the address of its
  reply;
* **`wp_working`** — the tasks that call `_start()`.
-/
import OnvifZeep.Managers
import OnvifZeep.Registry
import OnvifZeep.TaskHistories

namespace Onvif

open Coro BaseManager ONVIFCamera Onvif.System

/-! ### What belongs to a manager -/

namespace ManagerKind

/-- The binding key of the service a manager asks for its subscription. -/
def createKey : ManagerKind → BindingKey
  | .pullPoint => ("events", none)
  | .notification _ => ("notification", none)

/-- The keys of all services the manager creates. -/
def Own (k : ManagerKind) (key : BindingKey) : Prop := key = k.createKey ∨ k.Session key

theorem serviceKey_ne (k : ManagerKind) : k.serviceKey ≠ k.subscriptionKey :=
  fun h => absurd (congrArg Prod.fst h) (by decide : ("pullpoint" : String) ≠ "subscription")

theorem own_notification {address : String} {key : BindingKey} :
    (notification address).Own key ↔ key = ("notification", none) ∨
      key = ("subscription", some notificationPortType) ∨
      key = ("pullpoint", some notificationPortType) := Iff.rfl

/-- **The two managers** have no key in common. -/
theorem own_disjoint {address : String} {key : BindingKey} (h : pullPoint.Own key) :
    ¬(notification address).Own key := by
  rw [own_notification]
  rcases h with rfl | rfl | rfl
  · decide
  · decide
  · decide

end ManagerKind

namespace SharedCamera

variable {C : CameraConfig} {keys keys' : BindingKey → Prop} {spaces spaces' : String → Prop}
  {s s' s'' : ONVIFCamera} {sid i : ServiceId} {v : ONVIFService} {key : BindingKey}

/-! ### What a change of the camera leaves alone -/

/-- The entries and services of `keys` and the addresses of `spaces` stayed as they were. -/
structure Kept (keys : BindingKey → Prop) (spaces : String → Prop) (s s' : ONVIFCamera) :
    Prop where
  keeps : Extends s s'
  registered : Registered s → Registered s'
  entry : ∀ key, keys key → s'.services.get? key = s.services.get? key
  service : ∀ sid v, s.service? sid = some v → keys v.bindingKey → s'.service? sid = some v
  xaddr : ∀ ns, spaces ns → s'.xaddrs.get? ns = s.xaddrs.get? ns

theorem Kept.refl (s : ONVIFCamera) : Kept keys spaces s s :=
  ⟨.refl s, id, fun _ _ => rfl, fun _ _ hv _ => hv, fun _ _ => rfl⟩

theorem Kept.trans (h : Kept keys spaces s s') (h' : Kept keys spaces s' s'') :
    Kept keys spaces s s'' where
  keeps := h.keeps.trans h'.keeps
  registered hs := h'.registered (h.registered hs)
  entry key hkey := (h'.entry key hkey).trans (h.entry key hkey)
  service sid v hv hkey := h'.service sid v (h.service sid v hv hkey) hkey
  xaddr ns hns := (h'.xaddr ns hns).trans (h.xaddr ns hns)

theorem Kept.mono (h : Kept keys spaces s s') (hkeys : ∀ key, keys' key → keys key)
    (hspaces : ∀ ns, spaces' ns → spaces ns) : Kept keys' spaces' s s' where
  keeps := h.keeps
  registered := h.registered
  entry key hkey := h.entry key (hkeys key hkey)
  service sid v hv hkey := h.service sid v hv (hkeys _ hkey)
  xaddr ns hns := h.xaddr ns (hspaces ns hns)

/-- A change of other fields. -/
theorem Kept.of_eq (hconstructed : s'.constructed = s.constructed)
    (hservices : s'.services = s.services) (hxaddrs : s'.xaddrs = s.xaddrs) :
    Kept keys spaces s s' where
  keeps := .of_eq hconstructed
  registered hs := hs.of_extends (.of_eq hconstructed) hservices
  entry key _ := by rw [hservices]
  service sid v hv _ := by rwa [ONVIFCamera.service?, hconstructed]
  xaddr ns _ := by rw [hxaddrs]

theorem Kept.addService (v : ONVIFService) : Kept keys spaces s (s.addService v) where
  keeps := .addService v
  registered hs := hs.of_extends (.addService v) rfl
  entry _ _ := rfl
  service _ _ hv _ := service?_addService_of_some hv v
  xaddr _ _ := rfl

/-- A service of another key is closed. -/
theorem Kept.markClosed (hi : s.service? i = some v) (hkey : ¬keys v.bindingKey) :
    Kept keys spaces s (s.markClosed i) where
  keeps := .markClosed i
  registered hs := hs.of_extends (.markClosed i) rfl
  entry _ _ := rfl
  service sid u hu hu' := by
    rw [service?_markClosed]
    by_cases heq : i = sid
    · subst heq
      obtain rfl := Option.some.inj (hi.symm.trans hu)
      exact (hkey hu').elim
    · rw [if_neg heq]
      exact hu
  xaddr _ _ := rfl

theorem Kept.unregister (hkey : ¬keys key) : Kept keys spaces s (s.unregister key) where
  keeps := .of_eq rfl
  registered hs := hs.unregister key
  entry _ hkey' := Dict.get?_erase_of_ne _ fun heq => hkey (heq ▸ hkey')
  service _ _ hv _ := hv
  xaddr _ _ := rfl

theorem Kept.register (hkey : ¬keys key) (hi : s.service? i = some v) (hv : v.bindingKey = key) :
    Kept keys spaces s (s.register key i) where
  keeps := .of_eq rfl
  registered hs := hs.register hi hv
  entry _ hkey' := Dict.get?_insert_of_ne _ _ fun heq => hkey (heq ▸ hkey')
  service _ _ hv _ := hv
  xaddr _ _ := rfl

theorem Kept.setXaddr {ns : String} {xaddr : Option String} (hns : ¬spaces ns) :
    Kept keys spaces s (s.setXaddr ns xaddr) where
  keeps := .of_eq rfl
  registered hs := hs.of_extends (.of_eq rfl) rfl
  entry _ _ := rfl
  service _ _ hv _ := hv
  xaddr _ hns' := Dict.get?_insert_of_ne _ _ fun heq => hns (heq ▸ hns')

theorem Kept.isClosed (h : Kept keys spaces s s') (hv : s.service? sid = some v)
    (hkey : keys v.bindingKey) : s'.isClosed sid = s.isClosed sid := by
  rw [ONVIFCamera.isClosed, ONVIFCamera.isClosed, hv, h.service sid v hv hkey]

variable {k : ManagerKind} {m m' m'' : CameraManager}

/-- The service was constructed for the key. -/
def HasKey (s : ONVIFCamera) (sid : ServiceId) (key : BindingKey) : Prop :=
  ∃ v, s.service? sid = some v ∧ v.bindingKey = key

theorem HasKey.of_extends (h : HasKey s sid key) (hs : Extends s s') : HasKey s' sid key := by
  obtain ⟨v, hv, hkey⟩ := h
  obtain ⟨v', hv', hkey'⟩ := hs.exists_service? hv
  exact ⟨v', hv', hkey'.trans hkey⟩

/-- What a manager holds was created for it. -/
structure Fit (k : ManagerKind) (m : CameraManager) : Prop where
  registered : Registered m.held.device
  subscription : ∀ sid, m.held.subscription = some sid →
    HasKey m.held.device sid k.subscriptionKey
  service : ∀ sid, m.held.service = some sid → HasKey m.held.device sid k.serviceKey

/-- The registered services of the manager's session are open. -/
def Clean (k : ManagerKind) (s : ONVIFCamera) : Prop :=
  ∀ key, k.Session key → ∀ sid, s.services.get? key = some sid → s.isClosed sid = false

/-- A change of the camera by the manager. -/
def Within (k : ManagerKind) (s s' : ONVIFCamera) : Prop :=
  Kept (fun key => ¬k.Own key) (fun ns => ns ≠ k.space) s s'

/-- What others do to the manager while one of its tasks is suspended. -/
structure Meanwhile (k : ManagerKind) (m m' : CameraManager) : Prop where
  device : Kept k.Own (fun ns => ns = k.space) m.held.device m'.held.device
  subscription : m'.held.subscription = m.held.subscription
  service : m'.held.service = m.held.service
  shutdown : m.shutdown → m'.shutdown

theorem Meanwhile.refl (m : CameraManager) : Meanwhile k m m := ⟨.refl _, rfl, rfl, id⟩

theorem Meanwhile.trans (h : Meanwhile k m m') (h' : Meanwhile k m' m'') : Meanwhile k m m'' :=
  ⟨h.device.trans h'.device, h'.subscription.trans h.subscription, h'.service.trans h.service,
    fun hm => h'.shutdown (h.shutdown hm)⟩

/-- A change that leaves alone what `_start()` works on. -/
theorem Meanwhile.of_held (hheld : m'.held = m.held) (hshutdown : m.shutdown → m'.shutdown) :
    Meanwhile k m m' :=
  ⟨hheld ▸ .refl _, by rw [hheld], by rw [hheld], hshutdown⟩

theorem Fit.mono (h : Fit k m) (hs : Extends m.held.device m'.held.device)
    (hregistered : Registered m'.held.device)
    (hsubscription : m'.held.subscription = m.held.subscription)
    (hservice : m'.held.service = m.held.service) : Fit k m' where
  registered := hregistered
  subscription sid hsid := (h.subscription sid (hsubscription ▸ hsid)).of_extends hs
  service sid hsid := (h.service sid (hservice ▸ hsid)).of_extends hs

theorem Fit.meanwhile (h : Fit k m) (hm : Meanwhile k m m') : Fit k m' :=
  h.mono hm.device.keeps (hm.device.registered h.registered) hm.subscription hm.service

theorem Registered.hasKey (h : Registered s) (hsid : s.services.get? key = some sid) :
    HasKey s sid key := h key sid hsid

/-- The sessions stay open where nothing of the manager is touched. -/
theorem Clean.kept (h : Clean k s) (hs : Kept keys spaces s s')
    (hkeys : ∀ key, k.Session key → keys key) (hregistered : Registered s) : Clean k s' := by
  intro key hkey sid hsid
  rw [hs.entry key (hkeys key hkey)] at hsid
  obtain ⟨v, hv, hv'⟩ := hregistered key sid hsid
  rw [hs.isClosed hv (hkeys _ (hv' ▸ hkey))]
  exact h key hkey sid hsid

/-! ### The contract -/

/-- The reply to a request for a subscription. -/
def replyOf : ManagerWakeup cameraInterface ONVIFCamera → Option SubscribeReply
  | ⟨.start (.createPullPointSubscription _ _), .ok reply, _⟩ => some reply
  | ⟨.start (.subscribe _ _ _), .ok reply, _⟩ => some reply
  | _ => none

/-- The replies to the requests for a subscription. -/
def replies (ws : List (ManagerWakeup cameraInterface ONVIFCamera)) : List SubscribeReply :=
  ws.filterMap replyOf

/-- A `close()` raised. -/
def CloseRaises : (c : (managerInterface cameraInterface).Call) →
    Except Exc ((managerInterface cameraInterface).Answer c) → Prop
  | .start (.close _), .error _ => True
  | _, _ => False

/-- What a task went on with so far, and the camera its segment began with. -/
structure Past where
  begun : ONVIFCamera
  wakeups : List (ManagerWakeup cameraInterface ONVIFCamera)

/-- A task of the manager changes only what is the manager's, and others leave that alone.  With
`good`, a `close()` raises only after a shutdown. -/
def isolated (k : ManagerKind) (good : Prop) :
    Contract (managerInterface cameraInterface) Exc CameraManager Past where
  suspend g _ m := Within k g.begun m.held.device ∧ Fit k m
  resume g c m r g' m' := g' = ⟨m'.held.device, g.wakeups ++ [⟨c, r, m'⟩]⟩ ∧ Meanwhile k m m' ∧
    (good → CloseRaises c r → m'.shutdown = true)

/-- What is known all along. -/
structure Sharing (k : ManagerKind) (g : Past) (m : CameraManager) : Prop where
  within : Within k g.begun m.held.device
  fit : Fit k m

/-- What holds when the manager does not create a service. -/
structure Tidy (k : ManagerKind) (good : Prop) (g : Past) (m : CameraManager) : Prop
    extends Sharing k g m where
  clean : good → Clean k m.held.device ∨ m.shutdown = true

variable {good : Prop} {g g' g₀ : Past} {m₀ : CameraManager}
  {c : (managerInterface cameraInterface).Call}
  {r : Except Exc ((managerInterface cameraInterface).Answer c)}

theorem Clean.meanwhile (h : Clean k m.held.device) (hfit : Fit k m) (hm : Meanwhile k m m') :
    Clean k m'.held.device :=
  h.kept hm.device (fun _ hkey => Or.inr hkey) hfit.registered

theorem Sharing.resume (h : Sharing k g m) (hr : (isolated k good).resume g c m r g' m') :
    Sharing k g' m' := by
  obtain ⟨rfl, hm, -⟩ := hr
  exact ⟨.refl _, h.fit.meanwhile hm⟩

/-- Only the answer to a request for a subscription is a reply. -/
theorem replies_resume (hr : (isolated k good).resume g c m r g' m')
    (hreply : replyOf ⟨c, r, m'⟩ = none) : replies g'.wakeups = replies g.wakeups := by
  obtain ⟨rfl, -⟩ := hr
  rw [replies, List.filterMap_append, List.filterMap_cons, hreply]
  exact List.append_nil _

theorem Tidy.resume (h : Tidy k good g m) (hr : (isolated k good).resume g c m r g' m') :
    Tidy k good g' m' := by
  refine ⟨h.toSharing.resume hr, fun hgood => ?_⟩
  obtain ⟨-, hm, -⟩ := hr
  rcases h.clean hgood with hclean | hshutdown
  · exact Or.inl (hclean.meanwhile h.fit hm)
  · exact Or.inr (hm.shutdown hshutdown)

/-- A change that leaves alone what `_start()` works on. -/
theorem Sharing.of_held (h : Sharing k g m) (hheld : m'.held = m.held) : Sharing k g m' :=
  ⟨hheld ▸ h.within, h.fit.mono (hheld ▸ .refl _) (hheld ▸ h.fit.registered) (by rw [hheld])
    (by rw [hheld])⟩

theorem Tidy.of_held (h : Tidy k good g m) (hheld : m'.held = m.held)
    (hshutdown : m.shutdown = true → m'.shutdown = true) : Tidy k good g m' :=
  ⟨h.toSharing.of_held hheld, fun hgood => hheld ▸ (h.clean hgood).imp id hshutdown⟩

/-! ### Creating a service -/

/-- While the manager creates the service of `key`: everything else is as in `m₀`. -/
structure Creating (k : ManagerKind) (key : BindingKey) (g₀ : Past) (m₀ : CameraManager) (g : Past)
    (m : CameraManager) : Prop extends Sharing k g m where
  replies : replies g.wakeups = replies g₀.wakeups
  since : Kept (fun key' => k.Own key' ∧ key' ≠ key) (fun ns => ns = k.space) m₀.held.device
    m.held.device
  subscription : m.held.subscription = m₀.held.subscription
  service : m.held.service = m₀.held.service

theorem Sharing.creating (h : Sharing k g m) (key : BindingKey) : Creating k key g m g m :=
  ⟨h, rfl, .refl _, rfl, rfl⟩

theorem Creating.resume (h : Creating k key g₀ m₀ g m)
    (hr : (isolated k good).resume g c m r g' m') (hreply : replyOf ⟨c, r, m'⟩ = none) :
    Creating k key g₀ m₀ g' m' := by
  refine ⟨h.toSharing.resume hr, (replies_resume hr hreply).trans h.replies, ?_, ?_, ?_⟩
  · exact h.since.trans (hr.2.1.device.mono (fun _ hkey => hkey.1) fun _ => id)
  · exact hr.2.1.subscription.trans h.subscription
  · exact hr.2.1.service.trans h.service

/-- The sessions of the other keys are open, so all are if that of `key` is. -/
theorem Creating.clean (h : Creating k key g₀ m₀ g m) (hm₀ : Fit k m₀)
    (hclean : Clean k m₀.held.device)
    (hkey : k.Session key → ∀ sid, m.held.device.services.get? key = some sid →
      m.held.device.isClosed sid = false) : Clean k m.held.device := by
  intro key' hkey' sid hsid
  by_cases heq : key' = key
  · subst heq
    exact hkey hkey' sid hsid
  · rw [h.since.entry key' ⟨Or.inr hkey', heq⟩] at hsid
    obtain ⟨v, hv, hv'⟩ := hm₀.registered key' sid hsid
    rw [h.since.isClosed hv (by rw [hv']; exact ⟨Or.inr hkey', heq⟩)]
    exact hclean key' hkey' sid hsid

/-- The service of `key`, at the address stored. -/
structure NewlyCreated (k : ManagerKind) (good : Prop) (key : BindingKey) (g₀ : Past)
    (m₀ : CameraManager) (sid : ServiceId) (g : Past) (m : CameraManager) : Prop
    extends Creating k key g₀ m₀ g m where
  hasKey : HasKey m.held.device sid key
  clean : good → Clean k m.held.device
  session : k.Session key → ∃ v, m.held.device.service? sid = some v ∧
    some v.xaddr = (m₀.held.device.xaddrs.get? k.space).join ∧ (good → v.sessionClosed = false)

section Camera

variable {G G' : (Past × CameraManager) × Held ONVIFCamera}

theorem Fit.view (h : Fit k (view G s)) (hs : Extends s s') (hregistered : Registered s') :
    Fit k (Onvif.view G s') := h.mono hs hregistered rfl rfl

/-- A change of the camera that concerns only `key`. -/
theorem Creating.change (h : Creating k key g₀ m₀ g (view G s)) (hkey : k.Own key)
    (hs : Kept (fun key' => key' ≠ key) (fun _ => True) s s') :
    Creating k key g₀ m₀ g (view G s') := by
  refine ⟨⟨?_, ?_⟩, h.replies, ?_, h.subscription, h.service⟩
  · refine h.within.trans (hs.mono (fun key' hkey' heq => hkey' ?_) fun _ _ => trivial)
    rwa [heq]
  · exact h.fit.view hs.keeps (hs.registered h.fit.registered)
  · exact h.since.trans (hs.mono (fun _ hkey' => hkey'.2) fun _ _ => trivial)

theorem preserves_listWsdlDir (hkey : k.Own key) :
    Preserves (deviceContract (isolated k good))
      (fun G s => Creating k key g₀ m₀ G.1.1 (view G s) ∧ (good → Clean k s)) (listWsdlDir C) := by
  refine .bind .getState fun s => ?_
  cases s.wsdlDirFiles.get? C.wsdlDir with
  | some files => exact .pure ()
  | none =>
    refine .bind (.call (fun G s h => ⟨h.1.within, h.1.fit⟩) fun G s r G' s' h hr => ?_) fun files =>
      .modifyState fun G s h => ⟨h.1.change hkey (.of_eq rfl rfl rfl), h.2⟩
    exact ⟨h.1.resume (device_resume hr) rfl, fun hgood =>
      (h.2 hgood).meanwhile h.1.fit (device_resume hr).2.1⟩

/-- **Constructing** the service of a key without one. -/
theorem wp_buildService (hkey : k.Own key) (definition : String × String × String)
    (readTimeout : Option ℕ) (h : Creating k key g₀ m₀ G.1.1 (view G s))
    (hvacant : s.services.get? key = none) :
    wp (deviceContract (isolated k good))
      (Ends
        (fun sid G s => Creating k key g₀ m₀ G.1.1 (view G s) ∧ s.services.get? key = some sid ∧
          ∃ v, s.service? sid = some v ∧ v.bindingKey = key ∧ v.xaddr = definition.1 ∧
            v.sessionClosed = false)
        fun _ G s => Creating k key g₀ m₀ G.1.1 (view G s) ∧ s.services.get? key = none)
      (buildService C key definition readTimeout) G s := by
  rw [buildService, wp_bind, wp_getState, ends_ok, wp_bind, wp_ofExcept]
  cases hservice : s.newService C definition.1 definition.2.1 definition.2.2 key readTimeout with
  | error e => exact ⟨h, hvacant⟩
  | ok v =>
    obtain ⟨hxaddr, -, hv, hopen⟩ := newService_spec hservice
    have hadded := h.change hkey (.addService v)
    rw [ends_ok, wp_bind, wp_modifyState, ends_ok, wp_bind]
    refine (wp_call _).mpr ⟨⟨hadded.within, hadded.fit⟩, fun r G' s' hr => ?_⟩
    have hafter := hadded.resume (device_resume hr) rfl
    obtain ⟨-, hm, -⟩ := device_resume hr
    -- others left the new service and the missing entry alone
    have hself : s'.service? s.constructed.length = some v :=
      hm.device.service _ v (service?_addService_self v s) (hv ▸ hkey)
    cases r with
    | error e => exact ⟨hafter, (hm.device.entry key hkey).trans hvacant⟩
    | ok a =>
      have hregister : Kept (fun key' => key' ≠ key) (fun _ => True) s'
          (s'.register key s.constructed.length) :=
        .register (fun hne => hne rfl) hself hv
      exact ⟨hafter.change hkey hregister, Dict.get?_insert_self _ _ _, v, hself, hv, hxaddr,
        hopen⟩

theorem isClosed_of_service? (hv : s.service? sid = some v) (hopen : v.sessionClosed = false) :
    s.isClosed sid = false := by
  rw [ONVIFCamera.isClosed, hv]
  exact hopen

/-- An open service is registered for the key. -/
theorem Creating.created (h : Creating k key g₀ m₀ g m) (hm₀ : Fit k m₀)
    (hclean : good → Clean k m₀.held.device) (hsid : m.held.device.services.get? key = some sid)
    (hv : m.held.device.service? sid = some v) (hkey : v.bindingKey = key)
    (hxaddr : k.Session key → some v.xaddr = (m₀.held.device.xaddrs.get? k.space).join)
    (hopen : good → k.Session key → v.sessionClosed = false) :
    NewlyCreated k good key g₀ m₀ sid g m := by
  refine ⟨h, ⟨v, hv, hkey⟩, fun hgood => h.clean hm₀ (hclean hgood) fun hsession sid' hsid' => ?_,
    fun hsession => ⟨v, hv, hxaddr hsession, fun hgood => hopen hgood hsession⟩⟩
  obtain rfl := Option.some.inj (hsid.symm.trans hsid')
  exact isClosed_of_service? hv (hopen hgood hsession)

/-- A key without a service. -/
theorem Creating.tidy_of_vacant (h : Creating k key g₀ m₀ g m) (hm₀ : Fit k m₀)
    (hclean : good → Clean k m₀.held.device) (hvacant : m.held.device.services.get? key = none) :
    Tidy k good g m := by
  refine ⟨h.toSharing, fun hgood => Or.inl (h.clean hm₀ (hclean hgood) fun _ sid hsid => ?_)⟩
  rw [hvacant] at hsid
  cases hsid

/-- **`create_onvif_service`** for a key of the manager. -/
theorem wp_createOnvifService (name : String) (portType : Option String)
    (hkey : k.Own (lower name, portType)) (readTimeout : Option ℕ)
    (h : Sharing k G.1.1 (view G s)) (hclean : good → Clean k s) :
    wp (deviceContract (isolated k good))
      (Ends
        (fun sid G' s' => NewlyCreated k good (lower name, portType) G.1.1 (view G s) sid G'.1.1
          (view G' s'))
        fun _ G' s' => Tidy k good G'.1.1 (view G' s'))
      (createOnvifService C name portType readTimeout) G s := by
  rw [createOnvifService, wp_bind]
  refine wp_mono ?_ (preserves_listWsdlDir hkey G s ⟨h.creating _, hclean⟩)
  rintro r G₁ s₁ ⟨h₁, hclean₁⟩
  have hfit := h.fit
  have htidy₁ : Tidy k good G₁.1.1 (view G₁ s₁) :=
    ⟨h₁.toSharing, fun hgood => Or.inl (hclean₁ hgood)⟩
  cases r with
  | error e => exact htidy₁
  | ok a =>
    rw [ends_ok, wp_bind, wp_getState, ends_ok, wp_bind, wp_ofExcept]
    cases hdefinition : s₁.getDefinition C (lower name) portType with
    | error e => exact htidy₁
    | ok definition =>
      have hxaddr : k.Session (lower name, portType) →
          some definition.1 = (s.xaddrs.get? k.space).join := by
        intro hsession
        rw [← getDefinition_address hdefinition,
          ManagerKind.address_space C s₁ k hsession]
        exact congrArg Option.join (h₁.since.xaddr _ rfl)
      -- what is left is to construct the service
      have hbuild : ∀ {G₂ s₂},
          Creating k (lower name, portType) G.1.1 (view G s) G₂.1.1 (view G₂ s₂) →
          s₂.services.get? (lower name, portType) = none →
          wp (deviceContract (isolated k good))
            (Ends
              (fun sid G' s' => NewlyCreated k good (lower name, portType) G.1.1 (view G s) sid G'.1.1
                (view G' s'))
              fun _ G' s' => Tidy k good G'.1.1 (view G' s'))
            (buildService C (lower name, portType) definition readTimeout) G₂ s₂ := by
        intro G₂ s₂ h₂ hvacant
        refine wp_mono ?_ (wp_buildService hkey definition readTimeout h₂ hvacant)
        intro r G' s' hr
        cases r with
        | error e => exact hr.1.tidy_of_vacant hfit hclean hr.2
        | ok sid =>
          obtain ⟨h', hsid, v, hv, hv', hv'', hopen⟩ := hr
          exact h'.created hfit hclean hsid hv hv' (fun hsession => hv'' ▸ hxaddr hsession)
            fun _ _ => hopen
      rw [ends_ok]
      cases hexisting : s₁.existingService (lower name, portType) with
      | none => exact hbuild h₁ ((existingService_eq_none h₁.fit.registered).mp hexisting)
      | some entry =>
        obtain ⟨i, v⟩ := entry
        obtain ⟨hi, hv⟩ := existingService_eq_some.mp hexisting
        obtain ⟨v', hv', hkey'⟩ := h₁.fit.registered _ _ hi
        obtain rfl : v = v' := Option.some.inj (hv.symm.trans hv')
        dsimp only
        by_cases hsame : v.xaddr = definition.1
        · -- reused
          rw [if_pos hsame]
          refine h₁.created hfit hclean hi hv hkey' (fun hs => hsame ▸ hxaddr hs) ?_
          intro hgood hsession
          have hopen := hclean₁ hgood _ hsession i hi
          rwa [ONVIFCamera.isClosed, hv] at hopen
        · -- closed and replaced
          rw [if_neg hsame, wp_bind, closeService, wp_bind, wp_modifyState, ends_ok]
          have hclosing := h₁.change hkey (.markClosed hv fun hne => hne hkey')
          refine (wp_call _).mpr ⟨⟨hclosing.within, hclosing.fit⟩, fun r G₂ s₂ hr => ?_⟩
          have h₂ := hclosing.resume (device_resume hr) rfl
          obtain ⟨-, hm, hraises⟩ := device_resume hr
          have hi₂ : s₂.services.get? (lower name, portType) = some i :=
            (hm.device.entry _ hkey).trans hi
          cases r with
          | error e => exact ⟨h₂.toSharing, fun hgood => Or.inr (hraises hgood trivial)⟩
          | ok a =>
            rw [ends_ok, wp_bind, popService, wp_bind, wp_getState, ends_ok, hi₂]
            exact hbuild (h₂.change hkey (.unregister fun hne => hne rfl)) (Dict.get?_erase_self _ _)

end Camera

/-! ### `_start()` -/

section Start

variable {H H' : Past × CameraManager} {h h' : Held ONVIFCamera} {reply : SubscribeReply}
  {subscribed served : Prop}

/-- The service is where the reply says, and open as far as `good` goes. -/
def Reached (C : CameraConfig) (reply : SubscribeReply) (good : Prop) (s : ONVIFCamera)
    (held : Option ServiceId) : Prop :=
  ∃ sid v, held = some sid ∧ s.service? sid = some v ∧
    discoveredUrl C reply.address = .ok (some v.xaddr) ∧ (good → v.sessionClosed = false)

/-- Before `_start()` asks for a subscription. -/
structure Asking (k : ManagerKind) (good : Prop) (g : Past) (m : CameraManager) : Prop
    extends Sharing k g m where
  clean : good → Clean k m.held.device
  replies : replies g.wakeups = []

/-- After `_start()` stored the address of the reply; `subscribed` and `served` say which of the
two services it created. -/
structure Answered (C : CameraConfig) (k : ManagerKind) (good : Prop) (reply : SubscribeReply)
    (subscribed served : Prop) (g : Past) (m : CameraManager) : Prop extends Sharing k g m where
  clean : good → Clean k m.held.device
  replies : replies g.wakeups = [reply]
  stored : ∃ url, discoveredUrl C reply.address = .ok url ∧
    m.held.device.xaddrs.get? k.space = some url
  subscription : subscribed → Reached C reply good m.held.device m.held.subscription
  service : served → Reached C reply good m.held.device m.held.service

theorem Sharing.tidy (hm : Sharing k g m) (hclean : good → Clean k m.held.device) :
    Tidy k good g m := ⟨hm, fun hgood => Or.inl (hclean hgood)⟩

theorem Asking.tidy (h : Asking k good g m) : Tidy k good g m := h.toSharing.tidy h.clean

theorem Answered.tidy (h : Answered C k good reply subscribed served g m) : Tidy k good g m :=
  h.toSharing.tidy h.clean

/-- Neither others nor the creation of another service move it or close it. -/
theorem Reached.kept {held : Option ServiceId} (h : Reached C reply good s held)
    (hs : Kept keys spaces s s') (hkey : ∀ sid, held = some sid → HasKey s sid key)
    (hkeys : keys key) : Reached C reply good s' held := by
  obtain ⟨sid, v, hsid, hv, hurl, hopen⟩ := h
  obtain ⟨v', hv', hkey'⟩ := hkey sid hsid
  obtain rfl := Option.some.inj (hv.symm.trans hv')
  exact ⟨sid, v, hsid, hs.service sid v hv (hkey' ▸ hkeys), hurl, hopen⟩

theorem Answered.resume (h : Answered C k good reply subscribed served g m)
    (hr : (isolated k good).resume g c m r g' m') (hreply : replyOf ⟨c, r, m'⟩ = none) :
    Answered C k good reply subscribed served g' m' := by
  have hm := hr.2.1
  refine ⟨h.toSharing.resume hr, fun hgood => (h.clean hgood).meanwhile h.fit hm,
    (replies_resume hr hreply).trans h.replies, ?_, fun hs => ?_, fun hs => ?_⟩
  · obtain ⟨url, hurl, hstored⟩ := h.stored
    exact ⟨url, hurl, (hm.device.xaddr _ rfl).trans hstored⟩
  · rw [hm.subscription]
    exact (h.subscription hs).kept hm.device h.fit.subscription (Or.inr (Or.inl rfl))
  · rw [hm.service]
    exact (h.service hs).kept hm.device h.fit.service (Or.inr (Or.inr rfl))

/-- The service just created is where the reply says. -/
theorem NewlyCreated.reached (h : Answered C k good reply subscribed served g₀ m₀)
    (hc : NewlyCreated k good key g₀ m₀ sid g m) (hkey : k.Session key) :
    Reached C reply good m.held.device (some sid) := by
  obtain ⟨v, hv, hxaddr, hopen⟩ := hc.session hkey
  obtain ⟨url, hurl, hstored⟩ := h.stored
  rw [hstored] at hxaddr
  refine ⟨sid, v, rfl, hv, ?_, hopen⟩
  rw [hurl, ← show some v.xaddr = url from hxaddr]

/-- The address stays stored while a service is created. -/
theorem NewlyCreated.stored (h : Answered C k good reply subscribed served g₀ m₀)
    (hc : NewlyCreated k good key g₀ m₀ sid g m) : ∃ url, discoveredUrl C reply.address = .ok url ∧
    m.held.device.xaddrs.get? k.space = some url := by
  obtain ⟨url, hurl, hstored⟩ := h.stored
  exact ⟨url, hurl, (hc.since.xaddr _ rfl).trans hstored⟩

/-- `self._subscription = ...`. -/
theorem Answered.setSubscription (h : Answered C k good reply subscribed served g₀ m₀)
    (hc : NewlyCreated k good k.subscriptionKey g₀ m₀ sid g (heldView H h')) :
    Answered C k good reply True served g (heldView H (h'.setSubscription sid)) where
  within := hc.within
  fit :=
    { registered := hc.fit.registered
      subscription := fun sid' hsid' => Option.some.inj hsid' ▸ hc.hasKey
      service := hc.fit.service }
  clean := hc.clean
  replies := hc.replies.trans h.replies
  stored := NewlyCreated.stored (m := heldView H h') h hc
  subscription _ := (hc.reached h (Or.inl rfl) : Reached C reply good h'.device (some sid))
  service hs := by
    have hkept := (h.service hs).kept hc.since h.fit.service
      ⟨Or.inr (Or.inr rfl), k.serviceKey_ne⟩
    rwa [← hc.service] at hkept

/-- `self._service = ...`. -/
theorem Answered.setService (h : Answered C k good reply subscribed served g₀ m₀)
    (hc : NewlyCreated k good k.serviceKey g₀ m₀ sid g (heldView H h')) :
    Answered C k good reply subscribed True g (heldView H (h'.setService sid)) where
  within := hc.within
  fit :=
    { registered := hc.fit.registered
      subscription := hc.fit.subscription
      service := fun sid' hsid' => Option.some.inj hsid' ▸ hc.hasKey }
  clean := hc.clean
  replies := hc.replies.trans h.replies
  stored := NewlyCreated.stored (m := heldView H h') h hc
  service _ := (hc.reached h (Or.inr rfl) : Reached C reply good h'.device (some sid))
  subscription hs := by
    have hkept := (h.subscription hs).kept hc.since h.fit.subscription
      ⟨Or.inr (Or.inl rfl), (k.serviceKey_ne).symm⟩
    rwa [← hc.subscription] at hkept

/-! #### The steps of the two methods -/

theorem wp_onDevice_create (name : String) (portType : Option String)
    (hkey : (lower name, portType) = key) (hown : k.Own key) (readTimeout : Option ℕ)
    (hm : Sharing k H.1 (heldView H h)) (hclean : good → Clean k h.device) :
    wp (startContract (isolated k good))
      (Ends (fun sid H' h' => NewlyCreated k good key H.1 (heldView H h) sid H'.1 (heldView H' h'))
        fun _ H' h' => Tidy k good H'.1 (heldView H' h'))
      (onDevice (createOnvifService C name portType readTimeout)) H h := by
  subst hkey
  refine (wp_zoom _ _).mpr (wp_mono (fun r G s hr => ?_)
    (wp_createOnvifService (G := (H, h)) name portType hown readTimeout hm hclean))
  cases r with
  | ok sid => exact hr
  | error e => exact hr

theorem wp_nextTerminationTime {Q : Exc → Past × CameraManager → Held ONVIFCamera → Prop}
    (interval : TimeDelta) (hQ : ∀ e, Q e H h) :
    wp (startContract (isolated k good)) (Ends (fun _ H' h' => H' = H ∧ h' = h) Q)
      (nextTerminationTime interval) H h := by
  rw [nextTerminationTime, wp_bind, wp_getState, ends_ok, wp_ofExcept]
  cases h.device.getNextTerminationTime interval with
  | ok time => exact ⟨rfl, rfl⟩
  | error e => exact hQ e

/-- Asking for a subscription and storing the address of the reply. -/
theorem wp_request {c : CameraCall} {f : cameraInterface.Answer c → SubscribeReply}
    (hreply : ∀ a m, replyOf ⟨.start c, .ok a, m⟩ = some (f a))
    (hm : Asking k good H.1 (heldView H h)) :
    wp (startContract (isolated k good))
      (Ends
        (fun a H' h' => Sharing k H'.1 (heldView H' h') ∧ (good → Clean k h'.device) ∧
          replies H'.1.wakeups = [f a])
        fun _ H' h' => Tidy k good H'.1 (heldView H' h'))
      (call (I := cameraInterface) c) H h := by
  refine (wp_call _).mpr ⟨⟨hm.within, hm.fit⟩, fun r H' h' hr => ?_⟩
  have hsharing := hm.toSharing.resume (start_resume hr)
  obtain ⟨hpast, hmeanwhile, -⟩ := start_resume hr
  have hclean : good → Clean k h'.device := fun hgood =>
    (hm.clean hgood).meanwhile hm.fit hmeanwhile
  cases r with
  | error e => exact hsharing.tidy hclean
  | ok a =>
    refine ⟨hsharing, hclean, ?_⟩
    rw [hpast, replies, List.filterMap_append, List.filterMap_cons, hreply]
    exact congrArg (· ++ [f a]) hm.replies

theorem wp_storeAddress {reply : SubscribeReply} (hm : Sharing k H.1 (heldView H h))
    (hclean : good → Clean k h.device) (hreplies : replies H.1.wakeups = [reply]) :
    wp (startContract (isolated k good))
      (Ends (fun _ H h => Answered C k good reply False False H.1 (heldView H h))
        fun _ H h => Tidy k good H.1 (heldView H h))
      (storeAddress C k.portType reply.address) H h := by
  rw [storeAddress, wp_bind, wp_ofExcept]
  cases hurl : discoveredUrl C reply.address with
  | error e => exact hm.tidy hclean
  | ok url =>
    have hkept : ∀ {keys}, Kept keys (fun ns => ns ≠ k.space) h.device
        (h.device.setXaddr k.space url) := .setXaddr fun hne => hne rfl
    refine (wp_zoom _ _).mpr ?_
    exact
      { within := hm.within.trans hkept
        fit := hm.fit.mono (.of_eq rfl) (hm.fit.registered.of_extends (.of_eq rfl) rfl) rfl rfl
        clean := fun hgood => hclean hgood
        replies := hreplies
        stored := ⟨url, hurl, Dict.get?_insert_self _ _ _⟩
        subscription := False.elim
        service := False.elim }

/-- **The end of `_start()`** touches neither service. -/
theorem wp_scheduleRenewal (interval : TimeDelta) (times : SubscriptionTimes)
    (hm : Answered C k good reply subscribed served H.1 (heldView H h)) :
    wp (startContract (isolated k good))
      (Ends (fun _ H h => Answered C k good reply subscribed served H.1 (heldView H h))
        fun _ H h => Tidy k good H.1 (heldView H h))
      (scheduleRenewal interval times) H h := by
  have hlast : ∀ {H h} (result : SubscriptionTimes),
      Answered C k good reply subscribed served H.1 (heldView H h) →
      wp (startContract (isolated k good))
        (Ends (fun _ H h => Answered C k good reply subscribed served H.1 (heldView H h))
          fun _ H h => Tidy k good H.1 (heldView H h))
        ((getState : StartCoro (Held ONVIFCamera)) >>= fun h =>
          ofExcept (calculateNextRenewalCallAt interval h.loopTime result)) H h := by
    intro H h result hm
    rw [wp_bind, wp_getState, ends_ok, wp_ofExcept]
    cases calculateNextRenewalCallAt interval h.loopTime result with
    | ok time => exact hm
    | error e => exact hm.tidy
  have hflag : ∀ {H : Past × CameraManager} {h : Held ONVIFCamera},
      Answered C k good reply subscribed served H.1 (heldView H h) →
      Answered C k good reply subscribed served H.1 (heldView H
        { h with device := { h.device with hasBrokenRelativeTimestamps := true } }) :=
    fun hm => ⟨⟨hm.within.trans (.of_eq rfl rfl rfl), hm.fit.mono (.of_eq rfl)
      (hm.fit.registered.of_extends (.of_eq rfl) rfl) rfl rfl⟩, hm.clean, hm.replies, hm.stored,
      hm.subscription, hm.service⟩
  rw [scheduleRenewal]
  refine wp_seq (R := fun _ H h => Answered C k good reply subscribed served H.1 (heldView H h)) ?_ ?_
  · refine (wp_zoom _ _).mpr ?_
    rw [hasBrokenRelativeTime]
    by_cases hbroken : brokenRelativeTime interval times.currentTime times.terminationTime = true
    · rw [if_pos hbroken, wp_bind, wp_modifyState]
      exact hflag hm
    · rw [if_neg hbroken]
      exact hm
  · intro broken H h hm
    rw [wp_bind, wp_getState, ends_ok]
    by_cases hbroken : broken = true
    · simp only [hbroken, if_true]
      cases h.subscription with
      | none => exact hm.tidy
      | some sid =>
        refine wp_seq (wp_nextTerminationTime interval fun _ => hm.tidy) ?_
        rintro time _ _ ⟨rfl, rfl⟩
        refine wp_seq (R := fun _ H h => Answered C k good reply subscribed served H.1 (heldView H h))
          ((wp_call _).mpr ⟨⟨hm.within, hm.fit⟩, fun r H' h' hr => ?_⟩) fun result H h hm =>
            hlast result hm
        have hafter := hm.resume (start_resume hr) rfl
        cases r with
        | ok result => exact hafter
        | error e => exact hafter.tidy
    · rw [if_neg hbroken]
      exact hlast times hm

/-- **`PullPointManager._start`.** -/
theorem wp_start_pullPoint (interval : TimeDelta)
    (hm : Asking .pullPoint good H.1 (heldView H h)) :
    wp (startContract (isolated .pullPoint good))
      (Ends (fun _ H h => ∃ reply, Answered C .pullPoint good reply True True H.1 (heldView H h))
        fun _ H h => Tidy .pullPoint good H.1 (heldView H h))
      (PullPointManager.start C interval) H h := by
  rw [PullPointManager.start]
  refine wp_seq (wp_onDevice_create "events" none rfl (Or.inl rfl) none hm.toSharing hm.clean)
    fun sid H h hc => ?_
  have hasking : Asking .pullPoint good H.1 (heldView H h) :=
    ⟨hc.toSharing, hc.clean, hc.replies.trans hm.replies⟩
  refine wp_seq (wp_nextTerminationTime interval fun _ => hasking.tidy) ?_
  rintro time _ _ ⟨rfl, rfl⟩
  refine wp_seq (wp_request (f := id) (fun _ _ => rfl) hasking) fun result H h hreplied => ?_
  refine wp_seq (wp_storeAddress hreplied.1 hreplied.2.1 hreplied.2.2) fun _ H h hstored => ?_
  refine wp_seq (wp_onDevice_create "subscription" _ rfl (Or.inr (Or.inl rfl)) none
    hstored.toSharing hstored.clean) fun subscription H h hc => ?_
  have hsubscribed := hstored.setSubscription hc
  rw [wp_bind, wp_modifyState, ends_ok]
  refine wp_seq (wp_onDevice_create "pullpoint" _ rfl (Or.inr (Or.inr rfl)) _
    hsubscribed.toSharing hsubscribed.clean) fun service H h hc => ?_
  have hserved := hsubscribed.setService hc
  rw [wp_bind, wp_modifyState, ends_ok]
  refine wp_mono (fun r H h hr => ?_) (wp_scheduleRenewal interval result.times hserved)
  cases r with
  | ok time => exact ⟨_, hr⟩
  | error e => exact hr

/-- **`NotificationManager._start`** creates the two services in the other order. -/
theorem wp_start_notification (address : String) (interval : TimeDelta)
    (hm : Asking (.notification address) good H.1 (heldView H h)) :
    wp (startContract (isolated (.notification address) good))
      (Ends
        (fun _ H h => ∃ reply,
          Answered C (.notification address) good reply True True H.1 (heldView H h))
        fun _ H h => Tidy (.notification address) good H.1 (heldView H h))
      (NotificationManager.start C address interval) H h := by
  rw [NotificationManager.start]
  refine wp_seq (wp_onDevice_create "notification" none rfl (Or.inl rfl) none hm.toSharing hm.clean)
    fun sid H h hc => ?_
  have hasking : Asking (.notification address) good H.1 (heldView H h) :=
    ⟨hc.toSharing, hc.clean, hc.replies.trans hm.replies⟩
  refine wp_seq (wp_nextTerminationTime interval fun _ => hasking.tidy) ?_
  rintro time _ _ ⟨rfl, rfl⟩
  refine wp_seq (wp_request (f := id) (fun _ _ => rfl) hasking) fun result H h hreplied => ?_
  refine wp_seq (wp_storeAddress hreplied.1 hreplied.2.1 hreplied.2.2) fun _ H h hstored => ?_
  refine wp_seq (wp_onDevice_create "pullpoint" _ rfl (Or.inr (Or.inr rfl)) none
    hstored.toSharing hstored.clean) fun service H h hc => ?_
  have hserved := hstored.setService hc
  rw [wp_bind, wp_modifyState, ends_ok]
  refine wp_seq (wp_onDevice_create "subscription" _ rfl (Or.inr (Or.inl rfl)) none
    hserved.toSharing hserved.clean) fun subscription H h hc => ?_
  have hsubscribed := hserved.setSubscription hc
  rw [wp_bind, wp_modifyState, ends_ok]
  refine wp_mono (fun r H h hr => ?_) (wp_scheduleRenewal interval result.times hsubscribed)
  cases r with
  | ok time => exact ⟨_, hr⟩
  | error e => exact hr

/-- **A `_start()` that completes** leaves both services at the address of its reply. -/
theorem wp_innerStart (interval : TimeDelta) (hm : Asking k good g m) :
    wp (isolated k good)
      (Ends (fun _ g m => ∃ reply, Answered C k good reply True True g m) fun _ => Tidy k good)
      (innerStart (manager C interval k)) g m := by
  refine (wp_zoom _ _).mpr ?_
  cases k with
  | pullPoint =>
    refine wp_mono (fun r H h hr => ?_) (wp_start_pullPoint (H := (g, m)) (h := m.held) interval hm)
    cases r with
    | ok time => exact hr
    | error e => exact hr
  | notification address =>
    refine wp_mono (fun r H h hr => ?_)
      (wp_start_notification (H := (g, m)) (h := m.held) address interval hm)
    cases r with
    | ok time => exact hr
    | error e => exact hr

end Start

/-! ### The tasks that call `_start()` -/

/-- The renewal task up to the end of `_start()`: what that returned, if it was called. -/
def restarted {δ : Type} {I : Interface} (M : ManagerClass δ I) : ManagerCoro I δ (Option ℚ) := do
  let renewalCallAt ← renewSubscription M
  match renewalCallAt with
  | some _ => return none
  | none => restartSubscription M >>= fun t => pure (some t)

/-- What the `_start()` of the renewal task with these wakeups returned; `none` if the task did not
call it, or it is not done or raised. -/
def restartCallAt {δ : Type} {I : Interface} [DecidableEq I.Call] (M : ManagerClass δ I) :
    List (ManagerWakeup I δ) → Option ℚ
  | ⟨.begin, .ok _, m⟩ :: ws =>
    if m.renewalOver M then none
    else
      match (restarted M).replay m ws with
      | some (_, .done (.ok restartCallAt)) => restartCallAt
      | _ => none
  | _ => none

/-- The task ended so, with these wakeups, after its `_start()` completed. -/
def Completed {δ : Type} {I : Interface} [DecidableEq I.Call] (M : ManagerClass δ I) :
    Kind → Except Exc Unit → List (ManagerWakeup I δ) → Prop
  | .start, r, _ => r = .ok ()
  | .background, _, ws => (restartCallAt M ws).isSome
  | .stop, _, _ | .shutdown, _, _ => False

section Tasks

variable {interval : TimeDelta} {reply : SubscribeReply} {subscribed served : Prop}

/-- What a task of the manager establishes at its end. -/
structure Finished (C : CameraConfig) (interval : TimeDelta) (k : ManagerKind) (good : Prop)
    (kind : Kind) (r : Except Exc Unit) (g : Past) (m : CameraManager) : Prop
    extends Tidy k good g m where
  completed : Completed (manager C interval k) kind r g.wakeups →
    ∃ reply, Answered C k good reply True True g m

theorem Asking.resume (h : Asking k good g m) (hr : (isolated k good).resume g c m r g' m')
    (hreply : replyOf ⟨c, r, m'⟩ = none) : Asking k good g' m' :=
  ⟨h.toSharing.resume hr, fun hgood => (h.clean hgood).meanwhile h.fit hr.2.1,
    (replies_resume hr hreply).trans h.replies⟩

theorem Asking.of_held (h : Asking k good g m) (hheld : m'.held = m.held) : Asking k good g m' :=
  ⟨h.toSharing.of_held hheld, hheld ▸ h.clean, h.replies⟩

theorem Answered.of_held (h : Answered C k good reply subscribed served g m)
    (hheld : m'.held = m.held) : Answered C k good reply subscribed served g m' :=
  ⟨h.toSharing.of_held hheld, hheld ▸ h.clean, h.replies, hheld ▸ h.stored,
    hheld ▸ h.subscription, hheld ▸ h.service⟩

/-- **`start()`.** -/
theorem wp_start (h : Asking k good g m) :
    wp (isolated k good) (Finished C interval k good .start) (task (manager C interval k) .start) g
      m := by
  rw [task, wp_bind, BaseManager.start, wp_bind]
  refine wp_mono (fun r g m hr => ?_) (wp_innerStart interval h)
  cases r with
  | error e =>
    refine ⟨hr, fun hcompleted => ?_⟩
    cases hcompleted
  | ok time =>
    obtain ⟨reply, hanswered⟩ := hr
    have hscheduled := hanswered.of_held (scheduleSubscriptionRenew_held m time)
    exact ⟨hscheduled.tidy, fun _ => ⟨reply, hscheduled⟩⟩

/-- Renewing the subscription is no part of `_start()`. -/
theorem preserves_renew :
    Preserves (isolated k good) (Asking k good) (renewSubscription (manager C interval k)) := by
  refine preserves_renewSubscription (fun c hc => ?_) fun g m h => h.of_held rfl
  refine .call (fun g m h => ⟨h.within, h.fit⟩) fun g m r g' m' h hr => h.resume hr ?_
  cases c with
  | start c => exact (hc c rfl).elim
  | _ => rfl

theorem restartCallAt_cons {M : ManagerClass ONVIFCamera cameraInterface} {a : Unit}
    {ws : List (ManagerWakeup cameraInterface ONVIFCamera)} {r : Except Exc (Option ℚ)}
    (hover : ¬m.renewalOver M = true) (h : (restarted M).replay m ws = some (m', .done r)) :
    restartCallAt M (⟨.begin, .ok a, m⟩ :: ws) = r.toOption.join := by
  refine (if_neg hover).trans ?_
  rw [h]
  cases r with
  | ok t => rfl
  | error e => rfl

theorem restartCallAt_over {M : ManagerClass ONVIFCamera cameraInterface} {a : Unit}
    {ws : List (ManagerWakeup cameraInterface ONVIFCamera)} (hover : m.renewalOver M = true) :
    restartCallAt M (⟨.begin, .ok a, m⟩ :: ws) = none := if_pos hover

theorem wakeups_of_resume (hr : (isolated k good).resume g c m r g' m') :
    g'.wakeups = g.wakeups ++ [⟨c, r, m'⟩] := by
  obtain ⟨rfl, -, -⟩ := hr
  rfl

theorem wp_restartSubscription (h : Asking k good g m) :
    wp (isolated k good)
      (Ends (fun _ g m => ∃ reply, Answered C k good reply True True g m) fun _ => Tidy k good)
      (restartSubscription (manager C interval k) >>= fun t => pure (some t)) g m := by
  rw [wp_bind, restartSubscription, wp_bind, wp_modifyState, ends_ok]
  refine wp_mono (fun r g m hr => ?_)
    (wp_innerStart interval (h.of_held (cancelRenewals_fields m).1))
  cases r with
  | ok t => exact hr
  | error e => exact hr

/-- **The body of the renewal task**, which begins in `m₀`. -/
theorem wp_renewOrRestartBody {a : Unit}
    (hover : ¬m₀.renewalOver (manager C interval k) = true) (h : Asking k good g m₀)
    (hg : g.wakeups = [⟨.begin, .ok a, m₀⟩]) :
    wp (isolated k good)
      (fun _ g m => Tidy k good g m ∧ ((restartCallAt (manager C interval k) g.wakeups).isSome →
        ∃ reply, Answered C k good reply True True g m))
      (renewOrRestartBody (manager C interval k)) g m₀ := by
  -- the wakeups up to here, once the first part of the task is done
  have hdone : ∀ {g₁ : Past} {ws : List (ManagerWakeup cameraInterface ONVIFCamera)} {m₁ r},
      g₁.wakeups = g.wakeups ++ ws →
      (restarted (manager C interval k)).replay m₀ ws = some (m₁, .done r) →
      restartCallAt (manager C interval k) g₁.wakeups = r.toOption.join := by
    intro g₁ ws m₁ r hws hreplay
    rw [hws, hg]
    exact restartCallAt_cons hover hreplay
  rw [renewOrRestartBody, wp_bind]
  refine wp_mono ?_ (wp_tracked (fun _ _ _ _ _ _ => wakeups_of_resume) (preserves_renew g m₀ h))
  rintro r g₁ m₁ ⟨h₁, ws₁, hws₁, hreplay₁⟩
  cases r with
  | error e =>
    refine ⟨h₁.tidy, fun hsome => ?_⟩
    rw [hdone (r := .error e) hws₁ (replay_advance _ hreplay₁)] at hsome
    cases hsome
  | ok renewed =>
    cases renewed with
    | some t =>
      refine ⟨h₁.tidy, fun hsome => ?_⟩
      rw [hdone (r := .ok none) hws₁ (replay_bind hreplay₁)] at hsome
      cases hsome
    | none =>
      rw [ends_ok, wp_tryExcept]
      refine wp_mono ?_ (wp_tracked (fun _ _ _ _ _ _ => wakeups_of_resume)
        (wp_restartSubscription h₁))
      rintro r g₂ m₂ ⟨h₂, ws₂, hws₂, hreplay₂⟩
      have hws : g₂.wakeups = g.wakeups ++ (ws₁ ++ ws₂) := by
        rw [hws₂, hws₁, List.append_assoc]
      have hfound := hdone hws ((replay_bind_append hreplay₁).trans hreplay₂)
      cases r with
      | ok t =>
        obtain ⟨reply, hanswered⟩ := h₂
        exact ⟨hanswered.tidy, fun _ => ⟨reply, hanswered⟩⟩
      | error e =>
        -- the handler does nothing more
        have hend : Tidy k good g₂ m₂ ∧
            ((restartCallAt (manager C interval k) g₂.wakeups).isSome →
              ∃ reply, Answered C k good reply True True g₂ m₂) := by
          refine ⟨h₂, fun hsome => ?_⟩
          rw [hfound] at hsome
          cases hsome
        rw [ends_error]
        by_cases he : e.oneOf renewErrors = true
        · rw [if_pos he, wp_bind, wp_ofExcept]
          cases stringifyOnvifError e with
          | ok text => exact hend
          | error e' => exact hend
        · rw [if_neg he]
          exact hend

theorem rearm_fields (M : ManagerClass ONVIFCamera cameraInterface) (t : Option ℚ)
    (m : CameraManager) : (rearm M t m).held = m.held ∧ (rearm M t m).shutdown = m.shutdown := by
  rw [rearm]
  split
  · exact ⟨scheduleSubscriptionRenew_held m _, scheduleSubscriptionRenew_shutdown m _⟩
  · exact ⟨rfl, rfl⟩

/-- **The renewal task.** -/
theorem wp_background (h : Tidy k good g m) (hg : g.wakeups = []) :
    wp (isolated k good) (Finished C interval k good .background)
      (task (manager C interval k) .background) g m := by
  rw [task, background, wp_bind]
  refine (wp_call _).mpr ⟨⟨h.within, h.fit⟩, fun r g₀ m₀ hr => ?_⟩
  have h₀ := h.resume hr
  have hg₀ : g₀.wakeups = [⟨.begin, r, m₀⟩] := by
    rw [wakeups_of_resume hr, hg]
    rfl
  cases r with
  | error e =>
    refine ⟨h₀, fun hsome => ?_⟩
    replace hsome : (restartCallAt (manager C interval k) g₀.wakeups).isSome := hsome
    rw [hg₀] at hsome
    cases hsome
  | ok a =>
    rw [ends_ok, renewOrRestartSubscription, wp_bind, wp_getState, ends_ok]
    by_cases hover : (m₀.shutdown || m₀.sessionClosed (manager C interval k)) = true
    · rw [if_pos hover]
      refine ⟨h₀, fun hsome => ?_⟩
      replace hsome : (restartCallAt (manager C interval k) g₀.wakeups).isSome := hsome
      rw [hg₀, restartCallAt_over hover] at hsome
      cases hsome
    · -- not shut down, so the registry is sound
      have hasking : Asking k good g₀ m₀ := by
        refine ⟨h₀.toSharing, fun hgood => (h₀.clean hgood).resolve_right fun hshutdown => ?_, ?_⟩
        · exact hover (Bool.or_eq_true_iff.mpr (Or.inl hshutdown))
        · rw [hg₀]
          rfl
      rw [if_neg hover, wp_bind, wp_tryFinally]
      refine wp_mono (fun r g m hr => ?_) (wp_renewOrRestartBody hover hasking hg₀)
      have hend : ∀ (t : Option ℚ) (r : Except Exc Unit),
          Finished C interval k good .background r g (rearm (manager C interval k) t m) := by
        intro t r
        obtain ⟨hheld, hshutdown⟩ := rearm_fields (manager C interval k) t m
        refine ⟨hr.1.of_held hheld fun hm => hshutdown.trans hm, fun hsome => ?_⟩
        obtain ⟨reply, hanswered⟩ := hr.2 hsome
        exact ⟨reply, hanswered.of_held hheld⟩
      rw [wp_modifyState, ends_ok]
      cases r with
      | ok t => exact hend _ _
      | error e => exact hend _ _

end Tasks

end SharedCamera

end Onvif
