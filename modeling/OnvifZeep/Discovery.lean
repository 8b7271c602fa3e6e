/-
What `update_xaddrs()` finds.

`expectedXaddrs` is the map discovery is meant to build: for every namespace, the last
well-formed entry of `GetServices`, or of `GetCapabilities` when no entry of `GetServices` is
well formed.

* **`discovery_exact_iff`** — exactly when `update_xaddrs()` ends normally with that map: the
  code catches only some failures of `GetServices`, an address that does not parse ends either
  loop, and a capability with an empty address is stored.
-/
import Mathlib.Data.List.TakeWhile
import OnvifZeep.CoroutineRules
import OnvifZeep.Client

namespace Onvif

open Coro

namespace ONVIFCamera

/-! ### Well-formed entries -/

/-- The address parses, so that it is stored rather than raising. -/
def Accepted (C : CameraConfig) (address : Option String) : Prop :=
  ∃ url, discoveredUrl C address = .ok url

/-- What is stored for an accepted address. -/
def storedUrl (C : CameraConfig) (address : Option String) : Option String :=
  match discoveredUrl C address with
  | .ok url => url
  | .error _ => none

theorem Accepted.eq {C : CameraConfig} {address : Option String} (h : Accepted C address) :
    discoveredUrl C address = .ok (storedUrl C address) := by
  obtain ⟨url, hurl⟩ := h
  rw [storedUrl, hurl]

instance (C : CameraConfig) (address : Option String) : Decidable (Accepted C address) :=
  decidable_of_iff ((discoveredUrl C address).isOk = true) (by
    rw [Accepted]
    cases discoveredUrl C address with
    | ok url => exact ⟨fun _ => ⟨url, rfl⟩, fun _ => rfl⟩
    | error e => simp [Except.isOk, Except.toBool])

/-- The address is a string and not empty. -/
def isAddress (address : Option String) : Bool := address.any (· ≠ "")

/-- The namespace and the address of an entry of GetServices that has both. -/
def serviceAddress (entry : ServiceEntry) : Option (String × Option String) :=
  match entry.namespaceAttr, entry.xaddrAttr with
  | some (some ns), some (some xaddr) => if ns ≠ "" ∧ xaddr ≠ "" then some (ns, some xaddr) else none
  | _, _ => none

/-- The namespace and the `XAddr` of a capability that is a known service and has one. -/
def capabilityAddress (entry : Option String × Capability) : Option (String × Option String) :=
  match entry.1.bind fun name => lookupService (lower name), entry.2 with
  | some d, .mapping (some xaddr) => some (d.ns, xaddr)
  | _, _ => none

/-- The addresses a reply to GetServices reports. -/
def reportedServices : Except Exc (Option (List ServiceEntry)) → List (String × Option String)
  | .ok services => (services.getD []).filterMap serviceAddress
  | .error _ => []

/-- The addresses a reply to GetCapabilities reports. -/
def reportedCapabilities (reply : CapabilitiesReply) : List (String × Option String) :=
  reply.entries.filterMap capabilityAddress

/-- Every address of a list stored under its namespace, the later ones last. -/
def storeAll (C : CameraConfig) (l : List (String × Option String))
    (xaddrs : Dict String (Option String)) : Dict String (Option String) :=
  xaddrs.insertAll (l.map fun e => (e.1, storedUrl C e.2))

/-- The entries discovery is meant to use. -/
def wellFormed (C : CameraConfig) (l : List (String × Option String)) :
    List (String × Option String) :=
  l.filter fun e => isAddress e.2 && decide (Accepted C e.2)

/-- The map discovery is meant to build. -/
def expectedXaddrs (C : CameraConfig) (services : Except Exc (Option (List ServiceEntry)))
    (reply : CapabilitiesReply) : Dict String (Option String) :=
  if wellFormed C (reportedServices services) ≠ [] then
    storeAll C (wellFormed C (reportedServices services)) Dict.empty
  else storeAll C (wellFormed C (reportedCapabilities reply)) Dict.empty

/-- The call ended normally with the map discovery is meant to build. -/
def DiscoveryExact (C : CameraConfig) (services : Except Exc (Option (List ServiceEntry)))
    (reply : CapabilitiesReply) (result : Except Exc Unit) (s : ONVIFCamera) : Prop :=
  result = .ok () ∧ ∀ ns, s.xaddrs.get? ns = (expectedXaddrs C services reply).get? ns

/-! ### Addresses -/

theorem storedUrl_of_not_isAddress {C : CameraConfig} {address : Option String}
    (h : isAddress address = false) : storedUrl C address = address := by
  rw [storedUrl]
  rcases address with _ | url
  · change (match (rewriteUrl C none) with | .ok url => url | .error _ => none) = _
    rw [rewriteUrl]
    cases C.natOverride with
    | true => rfl
    | false => rfl
  · obtain rfl : url = "" := by simpa [isAddress] using h
    change (match (rewriteUrl C (some "")) with | .ok url => url | .error _ => none) = _
    rw [rewriteUrl]
    cases C.natOverride with
    | true => rfl
    | false => rfl

theorem isAddress_storedUrl {C : CameraConfig} {address : Option String}
    (h : Accepted C address) (haddress : isAddress address) :
    isAddress (storedUrl C address) := by
  obtain ⟨stored, hstored⟩ := h
  rw [storedUrl, hstored]
  rcases address with _ | url
  · exact absurd haddress (by simp [isAddress])
  have hurl : url.toList ≠ [] := by simpa [isAddress] using haddress
  rw [discoveredUrl, normalizeUrl] at hstored
  cases hnormal : normalizeUrlChars C.nfkc url.toList with
  | error e =>
    rw [hnormal] at hstored
    cases hstored
  | ok l =>
    have hl := normalizeUrlChars_ne_nil hurl hnormal
    rw [hnormal] at hstored
    change rewriteUrl C (some (String.ofList l)) = .ok stored at hstored
    rw [rewriteUrl] at hstored
    cases hnat : C.natOverride with
    | false =>
      rw [hnat] at hstored
      cases hstored
      simpa [isAddress] using hl
    | true =>
      rw [hnat, if_pos rfl, replaceHostPort] at hstored
      simp only [String.ofList_eq_empty_iff, hl, if_false] at hstored
      cases hreplaced : replaceHostPortChars C.nfkc (String.ofList l).toList C.host.toList C.port with
      | error e =>
        rw [hreplaced] at hstored
        cases hstored
      | ok l' =>
        rw [hreplaced] at hstored
        cases hstored
        simpa [isAddress] using replaceHostPortChars_ne_nil hreplaced

/-! ### The loops -/

variable {C : CameraConfig} {γ : Type} {K : Contract cameraInterface Exc ONVIFCamera γ} {g : γ}
  {s : ONVIFCamera}

theorem storeAll_cons (e : String × Option String) (l : List (String × Option String))
    (xaddrs : Dict String (Option String)) :
    storeAll C (e :: l) xaddrs = storeAll C l (xaddrs.insert e.1 (storedUrl C e.2)) := rfl

/-- What one entry of GetServices does. -/
theorem wp_addServices_cons (entry : ServiceEntry) (rest : List ServiceEntry) (found : Bool)
    {Q : Except Exc Bool → γ → ONVIFCamera → Prop} :
    wp K Q (addServices C (entry :: rest) found) g s ↔
      match serviceAddress entry with
      | none => wp K Q (addServices C rest found) g s
      | some (ns, xaddr) =>
        match discoveredUrl C xaddr with
        | .ok url => wp K Q (addServices C rest true) g (s.setXaddr ns url)
        | .error e => Q (.error e) g s := by
  obtain ⟨n, x⟩ := entry
  rcases n with _ | _ | ns
  · exact Iff.rfl
  · exact Iff.rfl
  rcases x with _ | _ | xaddr
  · exact Iff.rfl
  · exact Iff.rfl
  simp only [addServices, serviceAddress]
  by_cases h : ns ≠ "" ∧ xaddr ≠ ""
  · rw [if_pos h, if_pos h, wp_bind, wp_ofExcept]
    dsimp only
    cases discoveredUrl C (some xaddr) with
    | ok url => exact Iff.rfl
    | error e => exact Iff.rfl
  · rw [if_neg h, if_neg h]

/-- The loop over accepted entries stores them all. -/
theorem wp_addServices_of_accepted {entries : List ServiceEntry} {found : Bool}
    {Q : Except Exc Bool → γ → ONVIFCamera → Prop}
    (h : ∀ e ∈ entries.filterMap serviceAddress, Accepted C e.2) :
    wp K Q (addServices C entries found) g s ↔
      Q (.ok (found || !(entries.filterMap serviceAddress).isEmpty)) g
        (s.setXaddrs (storeAll C (entries.filterMap serviceAddress) s.xaddrs)) := by
  induction entries generalizing found s with
  | nil =>
    rw [addServices, wp_pure]
    simp [storeAll, Dict.insertAll, setXaddrs]
  | cons entry rest ih =>
    rw [wp_addServices_cons]
    cases hentry : serviceAddress entry with
    | none =>
      rw [List.filterMap_cons_none hentry] at h ⊢
      exact ih h
    | some e =>
      rw [List.filterMap_cons_some hentry] at h ⊢
      have he := (h e List.mem_cons_self).eq
      simp only [he]
      rw [ih fun e' he' => h e' (List.mem_cons_of_mem e he')]
      simp [storeAll_cons, setXaddr, setXaddrs]

/-- The loop over entries that are not all accepted raises, after storing some of them. -/
theorem wp_addServices_of_not_accepted {entries : List ServiceEntry} {found : Bool}
    (h : ¬∀ e ∈ entries.filterMap serviceAddress, Accepted C e.2) :
    ∃ e, ∃ l ⊆ entries.filterMap serviceAddress, ∀ Q : Except Exc Bool → γ → ONVIFCamera → Prop,
      wp K Q (addServices C entries found) g s ↔
        Q (.error e) g (s.setXaddrs (storeAll C l s.xaddrs)) := by
  induction entries generalizing found s with
  | nil => exact (h fun e he => absurd he List.not_mem_nil).elim
  | cons entry rest ih =>
    simp only [wp_addServices_cons]
    cases hentry : serviceAddress entry with
    | none =>
      rw [List.filterMap_cons_none hentry] at h ⊢
      exact ih h
    | some e =>
      rw [List.filterMap_cons_some hentry] at h ⊢
      obtain ⟨ns, xaddr⟩ := e
      cases hurl : discoveredUrl C xaddr with
      | error err =>
        simp only [hurl]
        exact ⟨err, [], List.nil_subset _, fun Q => Iff.rfl⟩
      | ok url =>
        have hstored : storedUrl C xaddr = url := by rw [storedUrl, hurl]
        have hrest : ¬∀ e ∈ rest.filterMap serviceAddress, Accepted C e.2 := by
          refine fun hrest => h fun e he => ?_
          rcases List.mem_cons.mp he with rfl | he
          · exact ⟨url, hurl⟩
          · exact hrest e he
        obtain ⟨err, l, hl, hwp⟩ := ih (s := s.setXaddr ns url) hrest
        refine ⟨err, (ns, xaddr) :: l, List.cons_subset_cons _ hl, fun Q => ?_⟩
        simp only [hurl, storeAll_cons, hstored]
        exact hwp Q

/-- What one capability does. -/
theorem wp_tryCapability (entry : Option String × Capability)
    {Q : Except Exc Unit → γ → ONVIFCamera → Prop} :
    wp K Q (tryExcept (addCapability C entry.1 entry.2) fun err =>
        if err.oneOf capabilityErrors then pure () else .raise err) g s ↔
      match capabilityAddress entry with
      | none => Q (.ok ()) g s
      | some (ns, xaddr) =>
        match discoveredUrl C xaddr with
        | .ok url => Q (.ok ()) g (s.setXaddr ns url)
        | .error e => Q (.error e) g s := by
  obtain ⟨name, capability⟩ := entry
  rw [wp_tryExcept]
  rcases name with _ | name
  · exact Iff.rfl
  cases hd : lookupService (lower name) with
  | none => simp [addCapability, capabilityAddress, hd]
  | some d =>
    rcases capability with _ | _ | _ | xaddr
    · simp [addCapability, capabilityAddress, hd]
    · simp [addCapability, capabilityAddress, hd, Exc.oneOf, capabilityErrors, Exc.isInstance]
    · simp [addCapability, capabilityAddress, hd, Exc.oneOf, capabilityErrors, Exc.isInstance]
    · simp only [addCapability, capabilityAddress, hd, Option.bind_some]
      rw [wp_bind, wp_ofExcept]
      cases hurl : discoveredUrl C xaddr with
      | ok url => exact Iff.rfl
      | error e =>
        obtain ⟨message, rfl⟩ := only_valueError_discoveredUrl C xaddr e hurl
        exact Iff.rfl

/-- The addresses up to the first that does not parse. -/
def readable (C : CameraConfig) (l : List (String × Option String)) :
    List (String × Option String) :=
  l.takeWhile fun e => decide (Accepted C e.2)

theorem readable_cons (C : CameraConfig) (e : String × Option String)
    (l : List (String × Option String)) :
    readable C (e :: l) = if Accepted C e.2 then e :: readable C l else [] := by
  rw [readable, List.takeWhile_cons]
  by_cases h : Accepted C e.2
  · rw [if_pos (decide_eq_true h), if_pos h]
    rfl
  · rw [if_neg (by simpa using h), if_neg h]

/-- **The loop over the capabilities** stores the addresses up to the first that does not parse,
and raises there. -/
theorem wp_addCapabilities (entries : List (Option String × Capability)) :
    ∃ r : Except Exc Unit,
      ((∀ e ∈ entries.filterMap capabilityAddress, Accepted C e.2) ↔ r = .ok ()) ∧
      ∀ {g : γ} {s : ONVIFCamera} {Q : Except Exc Unit → γ → ONVIFCamera → Prop},
        wp K Q (addCapabilities C entries) g s ↔
          Q r g (s.setXaddrs (storeAll C (readable C (entries.filterMap capabilityAddress)) s.xaddrs)) := by
  induction entries with
  | nil => exact ⟨.ok (), iff_of_true (fun e he => absurd he List.not_mem_nil) rfl, Iff.rfl⟩
  | cons entry rest ih =>
    obtain ⟨r, haccepted, hrest⟩ := ih
    have hcons : ∀ {g : γ} {s : ONVIFCamera} {Q : Except Exc Unit → γ → ONVIFCamera → Prop},
        wp K Q (addCapabilities C (entry :: rest)) g s ↔
          wp K Q (tryExcept (addCapability C entry.1 entry.2) (fun err =>
            if err.oneOf capabilityErrors then pure () else .raise err) >>=
              fun _ => addCapabilities C rest) g s := Iff.rfl
    simp only [wp_bind, wp_tryCapability] at hcons
    cases hentry : capabilityAddress entry with
    | none =>
      rw [List.filterMap_cons_none hentry]
      simp only [hentry] at hcons
      exact ⟨r, haccepted, fun {g s Q} => hcons.trans hrest⟩
    | some e =>
      obtain ⟨ns, xaddr⟩ := e
      rw [List.filterMap_cons_some hentry, List.forall_mem_cons]
      cases hurl : discoveredUrl C xaddr with
      | error err =>
        have hnot : ¬Accepted C xaddr := by
          rintro ⟨url, hok⟩
          rw [hurl] at hok
          cases hok
        simp only [hentry, hurl] at hcons
        refine ⟨.error err, iff_of_false (fun h => hnot h.1) (fun h => nomatch h),
          fun {g s Q} => hcons.trans ?_⟩
        rw [readable_cons, if_neg hnot]
        exact Iff.rfl
      | ok url =>
        have hok : Accepted C xaddr := ⟨url, hurl⟩
        have hstored : storedUrl C xaddr = url := by rw [storedUrl, hurl]
        simp only [hentry, hurl] at hcons
        refine ⟨r, (and_iff_right hok).trans haccepted, fun {g s Q} => hcons.trans ?_⟩
        rw [readable_cons, if_pos hok, storeAll_cons, hstored]
        exact hrest

theorem readable_eq_self {l : List (String × Option String)} (h : ∀ e ∈ l, Accepted C e.2) :
    readable C l = l :=
  List.takeWhile_eq_self_iff.mpr fun e he => decide_eq_true (h e he)

theorem wp_addCapabilities_of_accepted {entries : List (Option String × Capability)}
    {Q : Except Exc Unit → γ → ONVIFCamera → Prop}
    (h : ∀ e ∈ entries.filterMap capabilityAddress, Accepted C e.2) :
    wp K Q (addCapabilities C entries) g s ↔
      Q (.ok ()) g (s.setXaddrs (storeAll C (entries.filterMap capabilityAddress) s.xaddrs)) := by
  obtain ⟨r, hr, hwp⟩ := wp_addCapabilities (K := K) (C := C) entries
  rw [hwp, hr.mp h, readable_eq_self h]

theorem wp_addCapabilities_of_not_accepted {entries : List (Option String × Capability)}
    (h : ¬∀ e ∈ entries.filterMap capabilityAddress, Accepted C e.2) :
    ∃ e, ∃ l ⊆ entries.filterMap capabilityAddress,
      ∀ Q : Except Exc Unit → γ → ONVIFCamera → Prop,
        wp K Q (addCapabilities C entries) g s ↔
          Q (.error e) g (s.setXaddrs (storeAll C l s.xaddrs)) := by
  obtain ⟨r, hr, hwp⟩ := wp_addCapabilities (K := K) (C := C) entries
  cases r with
  | ok _ => exact (h (hr.mpr rfl)).elim
  | error e => exact ⟨e, _, List.takeWhile_subset _, fun Q => hwp⟩

/-! ### Discovery is exact -/

/-- When discovery works: a failing GetServices fails with a caught error, every reported
address parses, and, where capabilities are used, the last address of every namespace is not
empty. -/
def Discoverable (C : CameraConfig) (services : Except Exc (Option (List ServiceEntry)))
    (reply : CapabilitiesReply) : Prop :=
  (∀ e, services = .error e → e.oneOf [.onvifError, .fault]) ∧
    (∀ e ∈ reportedServices services, Accepted C e.2) ∧
    (reportedServices services = [] →
      (∀ e ∈ reportedCapabilities reply, Accepted C e.2) ∧
        ∀ ns address, Dict.lastValue ns (reportedCapabilities reply) = some address →
          isAddress address)

theorem isAddress_of_mem_reportedServices {services : Except Exc (Option (List ServiceEntry))}
    {e : String × Option String} (h : e ∈ reportedServices services) : isAddress e.2 := by
  rcases services with err | services
  · exact absurd h List.not_mem_nil
  obtain ⟨⟨n, x⟩, -, hentry⟩ := List.mem_filterMap.mp h
  rcases n with _ | _ | ns
  · cases hentry
  · cases hentry
  rcases x with _ | _ | xaddr
  · cases hentry
  · cases hentry
  simp only [serviceAddress] at hentry
  by_cases hne : ns ≠ "" ∧ xaddr ≠ ""
  · rw [if_pos hne] at hentry
    cases hentry
    simpa [isAddress] using hne.2
  · rw [if_neg hne] at hentry
    cases hentry

/-- Entries that are all accepted addresses are all well formed. -/
theorem wellFormed_eq_self {l : List (String × Option String)}
    (haccepted : ∀ e ∈ l, Accepted C e.2) (haddress : ∀ e ∈ l, isAddress e.2) :
    wellFormed C l = l := by
  rw [wellFormed, List.filter_eq_self]
  intro e he
  rw [haddress e he, decide_eq_true (haccepted e he)]
  rfl

theorem get?_storeAll (l : List (String × Option String)) (ns : String) :
    (storeAll C l Dict.empty).get? ns = (Dict.lastValue ns l).map (storedUrl C) := by
  rw [storeAll, Dict.get?_insertAll, Dict.lastValue_map, Dict.get?_empty, Option.or_none]

/-- The map of all capabilities is the map of the well-formed ones exactly if the last address
of every namespace is not empty. -/
theorem storeAll_wellFormed_iff {l : List (String × Option String)}
    (haccepted : ∀ e ∈ l, Accepted C e.2) :
    (∀ ns, (storeAll C l Dict.empty).get? ns = (storeAll C (wellFormed C l) Dict.empty).get? ns) ↔
      ∀ ns address, Dict.lastValue ns l = some address → isAddress address := by
  have hmem : ∀ {ns address}, Dict.lastValue ns (wellFormed C l) = some address →
      Accepted C address ∧ isAddress address := fun {ns address} h => by
    have hfilter := (List.mem_filter.mp (Dict.lastValue_mem h)).2
    rw [Bool.and_eq_true, decide_eq_true_iff] at hfilter
    exact ⟨hfilter.2, hfilter.1⟩
  simp only [get?_storeAll]
  constructor
  · intro h ns address hlast
    have hns := h ns
    rw [hlast, Option.map_some] at hns
    cases haddress : isAddress address with
    | true => rfl
    | false =>
      -- an empty address is stored as it is, a well-formed one is not empty
      rw [storedUrl_of_not_isAddress haddress] at hns
      cases hgood : Dict.lastValue ns (wellFormed C l) with
      | none =>
        rw [hgood] at hns
        cases hns
      | some good =>
        rw [hgood, Option.map_some] at hns
        rw [Option.some.inj hns] at haddress
        rw [isAddress_storedUrl (hmem hgood).1 (hmem hgood).2] at haddress
        cases haddress
  · intro h ns
    have hlast : Dict.lastValue ns (wellFormed C l) = Dict.lastValue ns l := by
      refine Dict.lastValue_filter (p := fun a => isAddress a && decide (Accepted C a)) ?_
      intro address hlast
      rw [h ns address hlast, decide_eq_true (haccepted _ (Dict.lastValue_mem hlast))]
      rfl
    rw [hlast]

theorem discoveryExact_error {services : Except Exc (Option (List ServiceEntry))}
    {reply : CapabilitiesReply} {e : Exc} : ¬DiscoveryExact C services reply (.error e) s :=
  fun h => by cases h.1

/-- Falling back to GetCapabilities. -/
theorem discoveryExact_capabilities {w : CameraWorld}
    {trace : List CameraEvent}
    {services : Except Exc (Option (List ServiceEntry))} {reply : CapabilitiesReply}
    {devicemgmt : ServiceId}
    (hreply : w trace.length (CameraCall.getCapabilities devicemgmt) s = (.ok reply, s))
    (hservices : reportedServices services = []) (hempty : s.xaddrs = Dict.empty) :
    wp w.traced (fun r _ s => DiscoveryExact C services reply r s)
        (updateXaddrsFromCapabilities C devicemgmt) trace s ↔
      (∀ e ∈ reportedCapabilities reply, Accepted C e.2) ∧
        ∀ ns address, Dict.lastValue ns (reportedCapabilities reply) = some address →
          isAddress address := by
  have hexpected : expectedXaddrs C services reply
      = storeAll C (wellFormed C (reportedCapabilities reply)) Dict.empty := by
    rw [expectedXaddrs, hservices]
    exact if_neg fun h => h rfl
  rw [updateXaddrsFromCapabilities, wp_bind]
  refine (wp_call_traced (I := cameraInterface)).trans ?_
  rw [hreply, ends_ok, wp_bind]
  by_cases haccepted : ∀ e ∈ reportedCapabilities reply, Accepted C e.2
  · rw [wp_addCapabilities_of_accepted haccepted, ends_ok, ← storeAll_wellFormed_iff haccepted,
      and_iff_right haccepted, ← hexpected, ← hempty]
    cases reply.serializable with
    | true => exact ⟨fun h => h.2, fun h => ⟨rfl, h⟩⟩
    | false => exact ⟨fun h => h.2, fun h => ⟨rfl, h⟩⟩
  · obtain ⟨e, l, -, hraise⟩ := wp_addCapabilities_of_not_accepted (K := w.traced) (g := trace ++ _)
      (s := s) haccepted
    rw [hraise]
    exact ⟨fun h => (discoveryExact_error h).elim, fun h => (haccepted h.1).elim⟩

/-- **Discovery is exact** under precisely these conditions on the replies, given that the
device service can be created and its clock read. -/
theorem discovery_exact_iff (C : CameraConfig) (s : ONVIFCamera)
    (answers : (c : CameraCall) → Except Exc (cameraInterface.Answer c)) (devicemgmt : ServiceId)
    (reply : CapabilitiesReply)
    (hdevicemgmt : ((devicemgmtWithTime C).exec (deviceAlone answers) 0 (s.setDtDiff none)).result
      = .ok devicemgmt)
    (hreply : answers (.getCapabilities devicemgmt) = .ok reply) :
    DiscoveryExact C (answers (.getServices devicemgmt)) reply
        ((updateXaddrs C).exec (deviceAlone answers) 0 s).result
        ((updateXaddrs C).exec (deviceAlone answers) 0 s).state ↔
      Discoverable C (answers (.getServices devicemgmt)) reply := by
  have hrun : wp (deviceAlone answers).traced
      (fun r _ s => DiscoveryExact C (answers (.getServices devicemgmt)) reply r s)
      (updateXaddrs C) [] s ↔ _ := wp_traced
  refine hrun.symm.trans ?_
  rw [updateXaddrs, wp_bind, wp_modifyState, ends_ok, wp_bind, wp_traced, List.length_nil,
    hdevicemgmt, ends_ok, wp_bind, wp_modifyState, ends_ok, wp_bind, updateXaddrsFromServices,
    wp_bind, wp_attempt]
  refine (wp_call_traced (I := cameraInterface)).trans ?_
  generalize [] ++ _ = trace
  generalize ((devicemgmtWithTime C).exec _ _ _).state = s₁
  have hcapabilities : ∀ n s, deviceAlone answers n (CameraCall.getCapabilities devicemgmt) s
      = (.ok reply, s) := fun n s => by rw [deviceAlone, World.alone, hreply]
  cases hservices : answers (.getServices devicemgmt) with
  | error e =>
    simp only [deviceAlone, World.alone, hservices, ends_ok]
    by_cases he : e.oneOf [.onvifError, .fault]
    · rw [if_pos he, wp_pure, ends_ok]
      refine (discoveryExact_capabilities (hcapabilities _ _) rfl rfl).trans ?_
      refine ⟨fun h => ⟨?_, fun _ hp => absurd hp List.not_mem_nil, fun _ => h⟩, fun h => h.2.2 rfl⟩
      rintro e' ⟨⟩
      exact he
    · rw [if_neg he]
      exact ⟨fun h => (discoveryExact_error h).elim, fun h => (he (h.1 e rfl)).elim⟩
  | ok services =>
    simp only [deviceAlone, World.alone, hservices, ends_ok]
    by_cases haccepted : ∀ e ∈ reportedServices (.ok services), Accepted C e.2
    · rw [wp_addServices_of_accepted haccepted, ends_ok]
      by_cases hreported : (services.getD []).filterMap serviceAddress = []
      · -- nothing was stored, so the capabilities are used
        rw [hreported]
        have hnone : reportedServices (.ok services) = [] := hreported
        refine (discoveryExact_capabilities (hcapabilities _ _) hnone rfl).trans ?_
        exact ⟨fun h => ⟨fun e he => (by cases he), haccepted, fun _ => h⟩,
          fun h => h.2.2 hreported⟩
      · have hfound : (!(false || !((services.getD []).filterMap serviceAddress).isEmpty)) = false := by
          simpa using hreported
        have hself : wellFormed C (reportedServices (.ok services)) = reportedServices (.ok services) :=
          wellFormed_eq_self haccepted fun e he => isAddress_of_mem_reportedServices he
        rw [hfound, if_neg Bool.false_ne_true, wp_pure]
        refine ⟨fun _ => ⟨fun e he => (by cases he), haccepted, fun h => (hreported h).elim⟩,
          fun _ => ⟨rfl, fun ns => ?_⟩⟩
        have hsome : reportedServices (.ok services) ≠ [] := hreported
        rw [expectedXaddrs, hself, if_pos hsome]
        rfl
    · obtain ⟨e, l, -, hraise⟩ := wp_addServices_of_not_accepted
        (K := (deviceAlone answers).traced) (g := trace ++ _)
        (s := s₁.setXaddrs Dict.empty) haccepted
      refine (hraise _).trans ?_
      exact ⟨fun h => (discoveryExact_error h).elim, fun h => (haccepted h.2.1).elim⟩

/-- A device that answers discovery and nothing else. -/
def discoveryAnswers (services : Except Exc (Option (List ServiceEntry)))
    (reply : CapabilitiesReply) : (c : CameraCall) → Except Exc (cameraInterface.Answer c)
  | .getServices _ => services
  | .getCapabilities _ => .ok reply
  | .listWsdlDir _ | .close _ | .setup _ | .getSystemDateAndTime _ _
  | .createPullPointSubscription _ _ | .subscribe _ _ _ | .renew _ _ =>
    .error (.timeoutError "")

def noCapabilities : CapabilitiesReply := { entries := [], serializable := true }

/-- An entry of GetServices with both attributes. -/
def serviceEntry (ns xaddr : String) : ServiceEntry :=
  { namespaceAttr := some (some ns), xaddrAttr := some (some xaddr) }

def mediaEntry : ServiceEntry :=
  serviceEntry "http://www.onvif.org/ver10/media/wsdl" "http://192.168.0.2/onvif/media"

/-- An address whose bracket is never closed. -/
def brokenEntry : ServiceEntry :=
  serviceEntry "http://www.onvif.org/ver20/ptz/wsdl" "http://[fe80::1/onvif/ptz"

/-- A device that reports one service. -/
theorem discovery_exact_media :
    DiscoveryExact localConfig (.ok (some [mediaEntry])) noCapabilities
      ((updateXaddrs localConfig).exec
        (deviceAlone (discoveryAnswers (.ok (some [mediaEntry])) noCapabilities)) 0 localCamera).result
      ((updateXaddrs localConfig).exec
        (deviceAlone (discoveryAnswers (.ok (some [mediaEntry])) noCapabilities)) 0 localCamera).state := by
  have hdiscoverable : Discoverable localConfig (.ok (some [mediaEntry])) noCapabilities := by
    refine ⟨fun e he => (by cases he), by decide +kernel, fun h => ?_⟩
    exact absurd h (by decide +kernel)
  exact (discovery_exact_iff localConfig localCamera
    (discoveryAnswers (.ok (some [mediaEntry])) noCapabilities) 0 noCapabilities rfl rfl).mpr
    hdiscoverable

/-- One address that does not parse ends discovery with a `ValueError`. -/
theorem discovery_ended_by_broken_address :
    ¬∀ services : Except Exc (Option (List ServiceEntry)),
      (∀ e, services = .error e → e.isZeepError ∨ e.isInstance .onvifError) →
      DiscoveryExact localConfig services noCapabilities
        ((updateXaddrs localConfig).exec
          (deviceAlone (discoveryAnswers services noCapabilities)) 0 localCamera).result
        ((updateXaddrs localConfig).exec
          (deviceAlone (discoveryAnswers services noCapabilities)) 0 localCamera).state := by
  intro h
  have hexact := (h (.ok (some [mediaEntry, brokenEntry])) fun e he => by cases he).1
  have hraised : ((updateXaddrs localConfig).exec
      (deviceAlone (discoveryAnswers (.ok (some [mediaEntry, brokenEntry])) noCapabilities)) 0
      localCamera).result.isOk = false := by decide +kernel
  rw [hexact] at hraised
  cases hraised

end ONVIFCamera

end Onvif
