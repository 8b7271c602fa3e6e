/-
A camera behind a NAT is reached at its own host and port, and nowhere else.

The address of a service comes from one of four places: the configuration, the replies to
`GetServices` and `GetCapabilities`, and the reply to a subscribe request.  All but the first are
what the device says, and all of these are rewritten before they are stored.

* **`Confined`** — every address in use, stored or of a service, is of one kind;
  `maintains_perform` and `maintains_start` carry it through the calls and through `_start()`, given
  that the device service and whatever discovery accepts are of that kind;
* **`atHost_discoveredUrl`** — any address the device may report is rewritten to the camera's host
  and port, also one without a scheme or a network location;
* **`stays_behind_nat`** — every run of any number of calls and managers, whatever the device
  answers.
-/
import OnvifZeep.CameraInUse
import OnvifZeep.Discovery
import OnvifZeep.UrlRoundTrip

namespace Onvif

open Coro ONVIFCamera NatRewrite

namespace BehindNat

variable {C : CameraConfig} {P : String → Prop} {s s' : ONVIFCamera} {v : ONVIFService}

/-! ### Addresses of one kind -/

/-- Every address that is stored, unless it is empty, and that of every service meet `P`. -/
structure Confined (P : String → Prop) (s : ONVIFCamera) : Prop where
  stored : ∀ ns url, s.xaddrs.get? ns = some (some url) → url ≠ "" → P url
  services : ∀ sid v, s.service? sid = some v → P v.xaddr

theorem Confined.of_eq (h : Confined P s) (hxaddrs : s'.xaddrs = s.xaddrs)
    (hconstructed : s'.constructed = s.constructed) : Confined P s' where
  stored ns url hurl := h.stored ns url (hxaddrs ▸ hurl)
  services sid v hv := h.services sid v (by rwa [service?, hconstructed] at hv)

theorem Confined.addService (h : Confined P s) (hv : P v.xaddr) : Confined P (s.addService v) where
  stored := h.stored
  services sid u hu := by
    rw [service?_addService] at hu
    by_cases hsid : sid = s.constructed.length
    · rw [if_pos hsid] at hu
      rwa [← Option.some.inj hu]
    · rw [if_neg hsid] at hu
      exact h.services sid u hu

theorem Confined.markClosed (h : Confined P s) (sid : ServiceId) : Confined P (s.markClosed sid) where
  stored := h.stored
  services i u hu := by
    rw [service?_markClosed] at hu
    by_cases hi : sid = i
    · rw [if_pos hi] at hu
      obtain ⟨u', hu', rfl⟩ := Option.map_eq_some_iff.mp hu
      exact h.services i u' hu'
    · rw [if_neg hi] at hu
      exact h.services i u hu

theorem Confined.setXaddr (h : Confined P s) (ns : String) {xaddr : Option String}
    (hxaddr : ∀ url, xaddr = some url → url ≠ "" → P url) : Confined P (s.setXaddr ns xaddr) where
  stored ns' url hurl hne := by
    rw [ONVIFCamera.setXaddr, Dict.get?_insert] at hurl
    by_cases hns : ns' = ns
    · rw [if_pos hns] at hurl
      exact hxaddr url (Option.some.inj hurl) hne
    · rw [if_neg hns] at hurl
      exact h.stored ns' url hurl hne
  services := h.services

theorem Confined.setXaddrs_empty (h : Confined P s) : Confined P (s.setXaddrs Dict.empty) where
  stored ns url hurl := by
    rw [setXaddrs, Dict.get?_empty] at hurl
    cases hurl
  services := h.services

theorem confined_newCamera (now : ℤ) (wsdlDirFiles : Dict String (Option (List String)))
    (pathIsfile : String → Bool) (sessionRaises : Option Exc) :
    Confined P (newCamera now wsdlDirFiles pathIsfile sessionRaises) where
  stored ns url hurl := by
    rw [newCamera, Dict.get?_empty] at hurl
    cases hurl
  services sid v hv := by
    rw [service?, newCamera] at hv
    cases hv

/-- What `get_definition` returns an address from. -/
theorem Confined.definition (h : Confined P s) (hdevice : P (devicemgmtXaddr C)) {name : String}
    {portType : Option String} {definition : String × String × String}
    (hdefinition : s.getDefinition C name portType = .ok definition) : P definition.1 := by
  rw [getDefinition] at hdefinition
  cases hservice : lookupService name with
  | none =>
    rw [hservice] at hdefinition
    cases hdefinition
  | some d =>
    rw [hservice] at hdefinition
    dsimp only at hdefinition
    split at hdefinition
    · cases hdefinition
    split at hdefinition
    · cases hdefinition
      exact hdevice
    · split at hdefinition
      · rename_i xaddr hxaddr
        split at hdefinition
        · cases hdefinition
        · rename_i hne
          cases hdefinition
          exact h.stored _ xaddr hxaddr hne
      · cases hdefinition

/-! ### The registry of services -/

abbrev Confines {α : Type} (P : String → Prop) (x : CameraCoro α) : Prop := Maintains (Confined P) x

/-- An update that changes neither addresses nor services. -/
theorem confines_modifyState {f : ONVIFCamera → ONVIFCamera} (hxaddrs : ∀ s, (f s).xaddrs = s.xaddrs)
    (hconstructed : ∀ s, (f s).constructed = s.constructed) : Confines P (modifyState f) :=
  .modifyState fun _ s h => h.of_eq (hxaddrs s) (hconstructed s)

theorem confines_closeService (sid : ServiceId) : Confines P (closeService sid) :=
  .bind (.modifyState fun _ _ h => h.markClosed sid) fun _ => Maintains.call _

theorem confines_popService (key : BindingKey) : Confines P (popService key) := by
  refine .bind .getState fun s => ?_
  cases s.services.get? key with
  | some sid => exact confines_modifyState (fun _ => rfl) fun _ => rfl
  | none => exact .raise _

theorem confines_buildService (key : BindingKey) {definition : String × String × String}
    (hdefinition : P definition.1) (readTimeout : Option ℕ) :
    Confines P (buildService C key definition readTimeout) := by
  refine .bind .getState fun s => .ofExcept_bind fun v hv => ?_
  obtain ⟨hxaddr, -⟩ := newService_spec hv
  have hservice : P v.xaddr := hxaddr.symm ▸ hdefinition
  exact .bind (.modifyState fun _ _ h => h.addService hservice) fun _ => .bind (Maintains.call _) fun _ =>
    .bind (confines_modifyState (fun _ => rfl) fun _ => rfl) fun _ => .pure _

section Registry

variable (hdevice : P (devicemgmtXaddr C))

include hdevice

/-- **`create_onvif_service`** gives a service the address of its definition. -/
theorem confines_createOnvifService (name : String) (portType : Option String)
    (readTimeout : Option ℕ) : Confines P (createOnvifService C name portType readTimeout) := by
  refine .bind (.bind .getState fun s => ?_) fun _ => .getState_bind fun s hs =>
    .ofExcept_bind fun definition hdefinition => ?_
  · cases s.wsdlDirFiles.get? C.wsdlDir with
    | some files => exact .pure ()
    | none => exact .bind (Maintains.call _) fun files => confines_modifyState (fun _ => rfl) fun _ => rfl
  · have hbuild : Confines P
        (buildService C (lower name, portType) definition readTimeout) :=
      confines_buildService _ (hs.definition hdevice hdefinition) _
    cases s.existingService (lower name, portType) with
    | none => exact hbuild
    | some entry =>
      obtain ⟨sid, service⟩ := entry
      dsimp only
      by_cases hxaddr : service.xaddr = definition.1
      · rw [if_pos hxaddr]
        exact .pure sid
      · rw [if_neg hxaddr]
        exact .bind (confines_closeService sid) fun _ => .bind (confines_popService _) fun _ => hbuild

theorem confines_devicemgmtWithTime : Confines P (devicemgmtWithTime C) := by
  have hcreate : Confines P (createDevicemgmtService C) := confines_createOnvifService hdevice _ _ _
  refine .bind hcreate fun devicemgmt => .bind .getState fun s => ?_
  cases s.dtDiff with
  | some dtDiff => exact .pure devicemgmt
  | none =>
    rw [adjustTime]
    by_cases hadjust : (!C.adjustTime) = true
    · rw [if_pos hadjust]
      exact .pure devicemgmt
    rw [if_neg hadjust]
    refine .bind (preserves_getSystemDateAndTime devicemgmt fun _ => Maintains.call _) fun reply =>
      .bind (.ofExcept _) fun date => .bind .getState fun s => .bind (.ofExcept _) fun dtDiff =>
        .bind (confines_modifyState (fun _ => rfl) fun _ => rfl) fun _ =>
          .bind (confines_closeService devicemgmt) fun _ => .bind .getState fun s => ?_
    cases s.service? devicemgmt with
    | some service => exact .bind (confines_popService _) fun _ => hcreate
    | none => exact .bind (.raise _) fun _ => hcreate

end Registry

/-! ### `_start()` -/

/-- A coroutine of `_start()` leaves every address of the kind. -/
abbrev StartConfines {α : Type} (P : String → Prop) (x : StartCoro α) : Prop :=
  Maintains (fun held : Held ONVIFCamera => Confined P held.device) x

theorem startConfines_onDevice {α : Type} {x : CameraCoro α} (hx : Confines P x) :
    StartConfines P (onDevice x) := Maintains.zoom (Confined P) Held.deviceLens hx

theorem startConfines_scheduleRenewal (interval : TimeDelta) (result : SubscriptionTimes) :
    StartConfines P (scheduleRenewal interval result) := by
  have hbroken : Confines P
      (hasBrokenRelativeTime interval result.currentTime result.terminationTime) := by
    rw [hasBrokenRelativeTime]
    split
    · exact .bind (confines_modifyState (fun _ => rfl) fun _ => rfl) fun _ => .pure true
    · exact .pure false
  refine .bind (startConfines_onDevice hbroken) fun broken => .bind .getState fun held => ?_
  have hlast : ∀ times : SubscriptionTimes, StartConfines P (getState >>= fun held =>
      ofExcept (BaseManager.calculateNextRenewalCallAt interval held.loopTime times)) :=
    fun times => .bind .getState fun _ => .ofExcept _
  cases broken with
  | false => exact .bind (.pure _) hlast
  | true =>
    cases held.subscription with
    | none => exact .bind (.raise _) hlast
    | some subscription =>
      exact .bind (.bind .getState fun _ => .ofExcept _) fun _ => .bind (Maintains.call _) hlast

/-! ### What the device reports -/

section Discovery

variable
  (hdiscovered : ∀ address url, discoveredUrl C address = .ok (some url) → url ≠ "" → P url)

include hdiscovered

theorem confines_addServices (entries : List ServiceEntry) (found : Bool) :
    Confines P (addServices C entries found) := by
  induction entries generalizing found with
  | nil => exact .pure found
  | cons entry rest ih =>
    intro g s hs
    rw [wp_addServices_cons]
    cases serviceAddress entry with
    | none => exact ih found g s hs
    | some e =>
      obtain ⟨ns, xaddr⟩ := e
      dsimp only
      cases hurl : discoveredUrl C xaddr with
      | error e => exact hs
      | ok url =>
        refine ih true g _ (hs.setXaddr ns fun url' hurl' hne => hdiscovered xaddr url' ?_ hne)
        rw [hurl, hurl']

theorem confines_updateXaddrsFromServices (devicemgmt : ServiceId) :
    Confines P (updateXaddrsFromServices C devicemgmt) := by
  refine .bind (.attempt (Maintains.call _)) fun services => ?_
  cases services with
  | ok services => exact confines_addServices hdiscovered _ _
  | error err =>
    by_cases herr : err.oneOf [.onvifError, .fault]
    · simp only [herr, if_true]
      exact .pure false
    · simp only [herr]
      exact .raise err

theorem confines_updateXaddrsFromCapabilities (devicemgmt : ServiceId) :
    Confines P (updateXaddrsFromCapabilities C devicemgmt) := by
  refine .bind (Maintains.call _) fun reply => .bind (.forEach (fun entry g s hs => ?_) _) fun _ => ?_
  · rw [wp_tryCapability]
    cases capabilityAddress entry with
    | none => exact hs
    | some e =>
      obtain ⟨ns, xaddr⟩ := e
      dsimp only
      cases hurl : discoveredUrl C xaddr with
      | error e => exact hs
      | ok url =>
        refine hs.setXaddr ns fun url' hurl' hne => hdiscovered xaddr url' ?_ hne
        rw [hurl, hurl']
  · by_cases hserializable : reply.serializable = true
    · rw [if_pos hserializable]
      exact confines_modifyState (fun _ => rfl) fun _ => rfl
    · rw [if_neg hserializable]
      exact .pure ()

/-- **The address of a subscription** is rewritten like those of discovery. -/
theorem startConfines_storeAddress (portType : String) (address : Option String) :
    StartConfines P (storeAddress C portType address) := by
  refine .ofExcept_bind fun url hurl => startConfines_onDevice (.modifyState fun _ s hs => ?_)
  refine hs.setXaddr _ fun url' hurl' hne => hdiscovered address url' ?_ hne
  rw [hurl, hurl']

end Discovery

/-! ### Calls and managers -/

section Consumers

variable (hdevice : P (devicemgmtXaddr C))
  (hdiscovered : ∀ address url, discoveredUrl C address = .ok (some url) → url ≠ "" → P url)

include hdevice hdiscovered

/-- **A call of the consumer** leaves every address of the kind. -/
theorem maintains_perform (op : CameraOp) : Confines P (perform C op) := by
  have hdevicemgmt : Confines P (devicemgmtWithTime C) := confines_devicemgmtWithTime hdevice
  cases op with
  | updateXaddrs =>
    refine .bind (.bind (confines_modifyState (fun _ => rfl) fun _ => rfl) fun _ =>
      .bind hdevicemgmt fun devicemgmt => .bind (.modifyState fun _ _ h => h.setXaddrs_empty) fun _ =>
        .bind (confines_updateXaddrsFromServices hdiscovered devicemgmt) fun found => ?_)
      fun _ => .pure none
    cases found with
    | true => exact .pure ()
    | false => exact confines_updateXaddrsFromCapabilities hdiscovered devicemgmt
  | getCapabilities =>
    refine .bind (.bind .getState fun s => ?_) fun _ => .pure none
    cases s.capabilities with
    | some capabilities => exact .pure (some capabilities)
    | none =>
      exact .bind hdevicemgmt fun devicemgmt =>
        .bind (confines_updateXaddrsFromCapabilities hdiscovered devicemgmt) fun _ =>
          .bind .getState fun s => .pure s.capabilities
  | createOnvifService name portType readTimeout =>
    exact .bind (confines_createOnvifService hdevice name portType readTimeout) fun sid =>
      .pure (some sid)

/-- **`_start()`** leaves every address of the kind. -/
theorem maintains_start (interval : TimeDelta) (k : ManagerKind) :
    StartConfines P (k.start C interval) := by
  have hcreate : ∀ name portType readTimeout,
      StartConfines P (onDevice (createOnvifService C name portType readTimeout)) :=
    fun _ _ _ => startConfines_onDevice (confines_createOnvifService hdevice _ _ _)
  have hset : ∀ f : Held ONVIFCamera → Held ONVIFCamera, (∀ held, (f held).device = held.device) →
      StartConfines P (modifyState f) := fun f hf => .modifyState fun _ held h => by rwa [hf held]
  cases k with
  | pullPoint =>
    exact .bind (hcreate _ _ _) fun _ => .bind (.bind .getState fun _ => .ofExcept _) fun _ =>
      .bind (Maintains.call _) fun _ => .bind (startConfines_storeAddress hdiscovered _ _) fun _ =>
        .bind (hcreate _ _ _) fun _ => .bind (hset _ fun _ => rfl) fun _ =>
          .bind (hcreate _ _ _) fun _ => .bind (hset _ fun _ => rfl) fun _ =>
            startConfines_scheduleRenewal _ _
  | notification address =>
    exact .bind (hcreate _ _ _) fun _ => .bind (.bind .getState fun _ => .ofExcept _) fun _ =>
      .bind (Maintains.call _) fun _ => .bind (startConfines_storeAddress hdiscovered _ _) fun _ =>
        .bind (hcreate _ _ _) fun _ => .bind (hset _ fun _ => rfl) fun _ =>
          .bind (hcreate _ _ _) fun _ => .bind (hset _ fun _ => rfl) fun _ =>
            startConfines_scheduleRenewal _ _

end Consumers

/-! ### The host and port of the camera -/

/-- The address is accepted, and its host and port are the camera's. -/
def AtHost (C : CameraConfig) (url : String) : Prop :=
  ∃ r, urlparse C.nfkc url.toList = .ok r ∧
    r.netloc = hostPort (bracketHost C.host.toList) C.port

/-- A host without a scheme before it stands in a URL as an authority. -/
theorem isAuthority_bracketHost {host : List Char} (h : IsHost host)
    (hscheme : ¬HasScheme (String.ofList host)) : IsAuthority (bracketHost host) := by
  cases h with
  | authority h =>
    rw [bracketHost_of_isAuthority h]
    exact h
  | ipv6 h =>
    rw [bracketHost_of_isIPv6Literal h]
    exact .bracketed h
  | url hstart h =>
    refine (hscheme ?_).elim
    exact hasScheme_of_url (C := { localConfig with host := String.ofList _ }) hstart
      (String.toList_ofList)

/-- A URL that begins with its network location. -/
theorem netlocOf_of_slashes {netloc rest : List Char} (hnetloc : ∀ c ∈ netloc, Plain c)
    (hrest : ∀ c ∈ rest.head?, isDelim c = true) :
    netlocOf ('/' :: '/' :: (netloc ++ rest)) = netloc := by
  have hclean : cleanUrl ('/' :: '/' :: (netloc ++ rest))
      = '/' :: '/' :: (netloc ++ rest.filter fun c => c ∉ ['\t', '\r', '\n']) := by
    rw [cleanUrl, List.dropWhile_cons_of_neg (by decide), List.filter_cons_of_pos (by decide),
      List.filter_cons_of_pos (by decide), List.filter_append,
      filter_eq_self_of fun c hc => (hnetloc c hc).2]
  rw [netlocOf, hclean, UrlRoundTrip.splitScheme_slash]
  exact takeWhile_netloc (fun c hc => (hnetloc c hc).1) (head?_filter_delim hrest)

/-- Without a scheme nothing comes before the network location. -/
theorem urlunparse_of_no_scheme {r : ParseResult} (hscheme : r.scheme = []) (hnetloc : r.netloc ≠ []) :
    ∃ rest, urlunparse r = '/' :: '/' :: (r.netloc ++ rest) ∧
      ∀ c ∈ rest.head?, isDelim c = true := by
  obtain ⟨rest, hrest, hdelim⟩ := urlunparse_eq (r := { r with scheme := ['x'] })
    (List.cons_ne_nil _ _) hnetloc
  refine ⟨rest, ?_, hdelim⟩
  -- a scheme makes no other difference
  have hplaced : urlunparse { r with scheme := ['x'] } = 'x' :: ':' :: urlunparse r := by
    have hne : (!r.netloc.isEmpty) = true := by simpa using hnetloc
    simp only [urlunparse, hne, if_true, hscheme]
    by_cases hq : r.query.isEmpty <;> by_cases hf : r.fragment.isEmpty <;> simp [hq, hf]
  rw [hplaced] at hrest
  exact List.cons.inj (List.cons.inj hrest).2 |>.2

/-- **Replacing the network location** of any URL that is accepted replaces it. -/
theorem netlocOf_with_netloc {nfkc : Normalization} {url netloc : List Char} {r : ParseResult}
    (hurl : urlparse nfkc url = .ok r) (hne : netloc ≠ []) (hplain : ∀ c ∈ netloc, Plain c) :
    netlocOf (urlunparse { r with netloc := netloc }) = netloc := by
  by_cases hscheme : r.scheme = []
  · obtain ⟨rest, hrest, hdelim⟩ := urlunparse_of_no_scheme (r := { r with netloc := netloc })
      hscheme hne
    rw [hrest]
    exact netlocOf_of_slashes hplain hdelim
  · have hsame := netlocOf_urlunparse netloc [] hurl hscheme hne hplain fun c hc => by cases hc
    rwa [List.append_nil] at hsame

section Host

variable (hhost : IsAuthority (bracketHost C.host.toList))

include hhost

theorem atHost_of_netlocOf {url : List Char}
    (h : netlocOf url = hostPort (bracketHost C.host.toList) C.port) :
    AtHost C (String.ofList url) := by
  rw [AtHost, String.toList_ofList]
  exact urlparse_of_hostPort C.nfkc hhost h

theorem atHost_devicemgmtXaddr (hscheme : ¬HasScheme C.host) : AtHost C (devicemgmtXaddr C) :=
  urlparse_of_hostPort C.nfkc hhost (netlocOf_devicemgmtXaddr hhost hscheme)

/-- **Whatever the device reports**, what is stored is at the camera's host and port. -/
theorem atHost_discoveredUrl (hnat : C.natOverride = true) {address : Option String} {url : String}
    (h : discoveredUrl C address = .ok (some url)) (hne : url ≠ "") : AtHost C url := by
  have hrewritten : ∃ normal, rewriteUrl C normal = .ok (some url) := by
    rw [discoveredUrl] at h
    cases hnormal : normalizeUrl C.nfkc address with
    | error e =>
      rw [hnormal] at h
      cases h
    | ok normal =>
      rw [hnormal] at h
      exact ⟨normal, h⟩
  obtain ⟨normal, hrewritten⟩ := hrewritten
  rw [rewriteUrl, if_pos hnat] at hrewritten
  cases normal with
  | none => cases hrewritten
  | some normal =>
    rw [replaceHostPort] at hrewritten
    by_cases hempty : normal = ""
    · rw [if_pos hempty] at hrewritten
      cases hrewritten
      exact (hne hempty).elim
    · rw [if_neg hempty, replaceHostPortChars] at hrewritten
      cases hparsed : urlparse C.nfkc normal.toList with
      | error e =>
        rw [hparsed] at hrewritten
        cases hrewritten
      | ok r =>
        rw [hparsed] at hrewritten
        cases hrewritten
        have hport : hostPort (bracketHost C.host.toList) C.port ≠ [] := fun hnil =>
          List.cons_ne_nil _ _ (List.append_eq_nil_iff.mp hnil).2
        exact atHost_of_netlocOf hhost
          (netlocOf_with_netloc hparsed hport (plain_hostPort hhost C.port))

end Host

/-- **A camera behind a NAT** with any number of managers, whose consumer makes any number of calls,
in any interleaving: whatever the device answers, every address that is stored and every service
that is ever constructed, for the camera and for its managers, is at the camera's host and port. -/
theorem stays_behind_nat {ι : Type} [DecidableEq ι] (X : CameraUse ι)
    (hnat : X.config.natOverride = true) (hhost : IsHost X.config.host.toList)
    (hscheme : ¬HasScheme X.config.host) (now : ℤ)
    (wsdlDirFiles : Dict String (Option (List String))) (pathIsfile : String → Bool)
    (sessionRaises : Option Exc) (loopTime : ℚ) (actions : List (InUse.Action ι)) (W : InUse ι)
    (hrun : InUse.run X
      (InUse.init (newCamera now wsdlDirFiles pathIsfile sessionRaises) loopTime) actions = some W) :
    (∀ ns url, W.calls.shared.xaddrs.get? ns = some (some url) → url ≠ "" → AtHost X.config url) ∧
    (∀ sid v, W.calls.shared.service? sid = some v → AtHost X.config v.xaddr) ∧
    ∀ i, (W.managers i).shared.held.device = W.calls.shared := by
  have hauthority : IsAuthority (bracketHost X.config.host.toList) :=
    isAuthority_bracketHost hhost (by rwa [String.ofList_toList])
  have hdevice := atHost_devicemgmtXaddr hauthority hscheme
  have hdiscovered : ∀ address url, discoveredUrl X.config address = .ok (some url) → url ≠ "" →
      AtHost X.config url := fun _ _ => atHost_discoveredUrl hauthority hnat
  have hkept := InUse.upholds_run (maintains_perform hdevice hdiscovered)
    (fun i => maintains_start hdevice hdiscovered (X.interval i) (X.kind i))
    (fun _ _ _ _ _ hs => hs.of_eq rfl rfl)
    (confined_newCamera now wsdlDirFiles pathIsfile sessionRaises) hrun
  exact ⟨hkept.calls.shared.stored, hkept.calls.shared.services, hkept.device⟩

/-! ### A device that reports its private address -/

/-- A camera behind a NAT with one pull-point manager. -/
def natUse : CameraUse Unit where
  config := natConfig "203.0.113.7"
  interval _ := TimeDelta.ofSeconds 60
  kind _ := .pullPoint

/-- Discovery finds the event service at a private address, and so does the manager its
subscription, without a scheme. -/
def natActions : List (InUse.Action Unit) :=
  [.call .updateXaddrs,
    .answer 0 (.setup 0) (.ok ()),
    .answer 0 (.getServices 0) (.ok (some [⟨some (some "http://www.onvif.org/ver10/events/wsdl"),
      some (some "http://10.0.0.5:8080:8080/onvif/events")⟩])),
    .act () .start,
    .act () (.answer 0 (.start (.setup 1)) (.ok ())),
    .act () (.answer 0 (.start (.createPullPointSubscription 1 "PT60S"))
      (.ok ⟨some "10.0.0.5/sub/1", ⟨none, none⟩⟩))]

def natCamera : ONVIFCamera :=
  newCamera 63000000000000000 (Dict.empty.insert "wsdl" none) (fun _ => true) none

theorem isHost_natUse : IsHost natUse.config.host.toList :=
  .authority (.hostname ⟨by decide, forall_mem_of_all (by decide)⟩)

theorem stays_behind_nat_private :
    ∃ W, InUse.run natUse (InUse.init natCamera 0) natActions = some W ∧
      W.calls.shared.constructed.map (·.xaddr) = ["http://203.0.113.7:80/onvif/device_service",
        "http://203.0.113.7:80/onvif/events", "//203.0.113.7:80/10.0.0.5/sub/1"] ∧
      ∀ sid v, W.calls.shared.service? sid = some v → AtHost natUse.config v.xaddr := by
  have hsome : (InUse.run natUse (InUse.init natCamera 0) natActions).any (fun W =>
      W.calls.shared.constructed.map (·.xaddr) = ["http://203.0.113.7:80/onvif/device_service",
        "http://203.0.113.7:80/onvif/events", "//203.0.113.7:80/10.0.0.5/sub/1"]) = true := by
    decide +kernel
  obtain ⟨W, hrun, hxaddrs⟩ := (Option.any_eq_true _ _).mp hsome
  exact ⟨W, hrun, of_decide_eq_true hxaddrs, (stays_behind_nat natUse rfl isHost_natUse (by decide)
    63000000000000000 (Dict.empty.insert "wsdl" none) (fun _ => true) none 0 natActions W hrun).2.1⟩

end BehindNat

end Onvif
