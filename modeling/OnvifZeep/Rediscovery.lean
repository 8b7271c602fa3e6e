/-
What others see of `update_xaddrs()`.

The call resets `dt_diff` first and `xaddrs` once it has a device service, and fills `xaddrs`
from the replies.  Its ghost is the trace so far, so that what it finds at a point can be
compared with the replies it got.

* **`rediscovery_atomic`** — at every await the map is the old one or empty, never a partial
  one; at a normal end it is the complete new one; after an exception it is the old one or
  holds only new addresses, and `dt_diff` is absent or newly measured.
-/
import OnvifZeep.Discovery
import OnvifZeep.Registry

namespace Onvif

open Coro

namespace ONVIFCamera

/-- The requests that ask for addresses. -/
def isDiscoveryRequest : CameraCall → Bool
  | .getServices _ | .getCapabilities _ => true
  | _ => false

/-- Addresses have been asked for. -/
def Requested (trace : List CameraEvent) : Prop := ∃ v ∈ trace, isDiscoveryRequest v.call

/-- The offset was computed from a reply in the trace, by the clock at that moment. -/
def Measured (trace : List CameraEvent) (dtDiff : TimeDelta) : Prop :=
  ∃ sid authless before reply after date,
    (⟨.getSystemDateAndTime sid authless, before, .ok reply, after⟩ : CameraEvent) ∈ trace ∧
      camDate reply = .ok date ∧ date.sub after.utcnow = .ok dtDiff

/-- GetServices ended this way. -/
def ServicesReply (trace : List CameraEvent)
    (services : Except Exc (Option (List ServiceEntry))) : Prop :=
  ∃ sid before after, (⟨.getServices sid, before, services, after⟩ : CameraEvent) ∈ trace

def CapabilitiesReplied (trace : List CameraEvent) (reply : CapabilitiesReply) : Prop :=
  ∃ sid before after, (⟨.getCapabilities sid, before, .ok reply, after⟩ : CameraEvent) ∈ trace

/-- The complete map of what the replies report. -/
def CompleteMap (C : CameraConfig) (trace : List CameraEvent)
    (xaddrs : Dict String (Option String)) : Prop :=
  ∃ services, ServicesReply trace services ∧
    (reportedServices services ≠ [] ∧ xaddrs = storeAll C (reportedServices services) Dict.empty ∨
      reportedServices services = [] ∧ ∃ reply, CapabilitiesReplied trace reply ∧
        xaddrs = storeAll C (reportedCapabilities reply) Dict.empty)

/-- A map of addresses the replies report, and no others. -/
def OnlyReported (C : CameraConfig) (trace : List CameraEvent)
    (xaddrs : Dict String (Option String)) : Prop :=
  ∃ l, xaddrs = storeAll C l Dict.empty ∧ ∀ e ∈ l,
    (∃ services, ServicesReply trace services ∧ e ∈ reportedServices services) ∨
      ∃ reply, CapabilitiesReplied trace reply ∧ e ∈ reportedCapabilities reply

/-- What an exception leaves behind. -/
structure AfterFailure (C : CameraConfig) (old : Dict String (Option String))
    (trace : List CameraEvent) (s : ONVIFCamera) : Prop where
  unchanged : ¬Requested trace → s.xaddrs = old
  onlyReported : Requested trace → OnlyReported C trace s.xaddrs
  dtDiff : ∀ d, s.dtDiff = some d → Measured trace d

/-! ### The contract -/

/-- At an await the map is the old one, or empty while addresses are asked for; others leave
the map and the offset alone. -/
def discoveryContract (old : Dict String (Option String)) :
    Contract cameraInterface Exc ONVIFCamera (List CameraEvent) where
  suspend _ c s := s.xaddrs = if isDiscoveryRequest c then Dict.empty else old
  resume trace c s r trace' s' :=
    trace' = trace ++ [⟨c, s, r, s'⟩] ∧ s'.xaddrs = s.xaddrs ∧ s'.dtDiff = s.dtDiff

/-- Before addresses are asked for. -/
structure Preparing (old : Dict String (Option String)) (trace : List CameraEvent)
    (s : ONVIFCamera) : Prop where
  notRequested : ¬Requested trace
  xaddrs : s.xaddrs = old
  dtDiff : ∀ d, s.dtDiff = some d → Measured trace d

theorem Measured.mono {trace trace' : List CameraEvent} {d : TimeDelta} (h : Measured trace d)
    (hsub : trace ⊆ trace') : Measured trace' d := by
  obtain ⟨sid, authless, before, reply, after, date, hmem, hdate, hsub'⟩ := h
  exact ⟨sid, authless, before, reply, after, date, hsub hmem, hdate, hsub'⟩

variable {C : CameraConfig} {old : Dict String (Option String)} {trace trace' : List CameraEvent}
  {s s' : ONVIFCamera}

/-- Changes of the registry and of the cache do not matter here. -/
theorem Preparing.of_eq (h : Preparing old trace s) (hxaddrs : s'.xaddrs = s.xaddrs)
    (hdtDiff : s'.dtDiff = s.dtDiff) : Preparing old trace s' :=
  ⟨h.notRequested, hxaddrs.trans h.xaddrs, fun d hd => h.dtDiff d (hdtDiff ▸ hd)⟩

theorem Preparing.resume {c : CameraCall} {r : Except Exc (cameraInterface.Answer c)}
    (h : Preparing old trace s) (hc : isDiscoveryRequest c = false)
    (hr : (discoveryContract old).resume trace c s r trace' s') : Preparing old trace' s' := by
  obtain ⟨rfl, hxaddrs, hdtDiff⟩ := hr
  refine ⟨?_, hxaddrs.trans h.xaddrs, fun d hd => ?_⟩
  · rintro ⟨v, hv, hrequest⟩
    rcases List.mem_append.mp hv with hv | hv
    · exact h.notRequested ⟨v, hv, hrequest⟩
    · rw [List.mem_singleton.mp hv] at hrequest
      exact absurd hrequest (by simp [hc])
  · exact (h.dtDiff d (hdtDiff ▸ hd)).mono (List.subset_append_left _ _)

theorem preparing_await {c : CameraCall} (hc : isDiscoveryRequest c = false) :
    Preserves (discoveryContract old) (Preparing old) (await c) := by
  refine .call (fun trace s h => ?_) fun trace s r trace' s' h hr => h.resume hc hr
  show s.xaddrs = _
  rw [h.xaddrs, if_neg (by simp [hc])]

/-! ### The device service -/

theorem preparing_update (trace : List CameraEvent) (s s' : ONVIFCamera)
    (hupdate : RegistryUpdate s s') (h : Preparing old trace s) : Preparing old trace s' :=
  h.of_eq hupdate.xaddrs hupdate.dtDiff

theorem preparing_createOnvifService (name : String) (portType : Option String)
    (readTimeout : Option ℕ) :
    Preserves (discoveryContract old) (Preparing old)
      (createOnvifService C name portType readTimeout) :=
  preserves_createOnvifService preparing_update (preparing_await rfl) (fun _ => preparing_await rfl)
    (fun _ => preparing_await rfl) name portType readTimeout

/-- The last reply was this one. -/
def JustAnswered (reply : SystemDateAndTime) (trace : List CameraEvent) (s : ONVIFCamera) : Prop :=
  ∃ sid authless before,
    (⟨.getSystemDateAndTime sid authless, before, .ok reply, s⟩ : CameraEvent) ∈ trace

theorem preparing_askTime (h : Preparing old trace s) (sid : ServiceId) (authless : Bool)
    {Q : Except Exc SystemDateAndTime → List CameraEvent → ONVIFCamera → Prop}
    (hok : ∀ reply trace s, Preparing old trace s → JustAnswered reply trace s →
      Q (.ok reply) trace s)
    (herror : ∀ e trace s, Preparing old trace s → Q (.error e) trace s) :
    wp (discoveryContract old) Q (await (.getSystemDateAndTime sid authless)) trace s := by
  refine (wp_call _).mpr ⟨?_, fun r trace' s' hr => ?_⟩
  · show s.xaddrs = _
    rw [h.xaddrs]
    rfl
  · have h' := h.resume rfl hr
    cases r with
    | error e => exact herror e trace' s' h'
    | ok reply =>
      obtain ⟨rfl, -, -⟩ := hr
      exact hok reply _ s' h'
        ⟨sid, authless, s, List.mem_append_right trace (List.mem_singleton_self _)⟩

theorem preparing_getSystemDateAndTime (h : Preparing old trace s) (devicemgmt : ServiceId) :
    wp (discoveryContract old)
      (Ends (fun reply trace s => Preparing old trace s ∧ JustAnswered reply trace s)
        fun _ => Preparing old) (getSystemDateAndTime devicemgmt) trace s := by
  rw [getSystemDateAndTime, wp_tryExcept]
  refine preparing_askTime h devicemgmt true (fun reply trace s h hreply => ⟨h, hreply⟩) ?_
  intro e trace s h
  rw [ends_error]
  by_cases he : e.oneOf [.fault]
  · rw [if_pos he]
    exact preparing_askTime h devicemgmt false (fun reply trace s h hreply => ⟨h, hreply⟩)
      fun e trace s h => h
  · rw [if_neg he]
    exact h

theorem preparing_adjustTime (devicemgmt : ServiceId) :
    Preserves (discoveryContract old) (Preparing old) (adjustTime C devicemgmt) := by
  intro trace s h
  rw [adjustTime]
  by_cases hadjust : (!C.adjustTime) = true
  · rw [if_pos hadjust]
    exact h
  rw [if_neg hadjust, wp_bind]
  refine wp_mono (fun r trace s hr => ?_) (preparing_getSystemDateAndTime h devicemgmt)
  cases r with
  | error e => exact hr
  | ok reply =>
    obtain ⟨h, sid, authless, before, hmem⟩ := hr
    rw [ends_ok, wp_bind, wp_ofExcept]
    cases hdate : camDate reply with
    | error e => exact h
    | ok date =>
      rw [ends_ok, wp_bind, wp_getState, ends_ok, wp_bind, wp_ofExcept]
      cases hdiff : date.sub s.utcnow with
      | error e => exact h
      | ok d =>
        rw [ends_ok, wp_bind, wp_modifyState, ends_ok]
        -- from here on the offset is the one just measured
        have hmeasured : Preparing old trace (s.setDtDiff (some d)) :=
          ⟨h.notRequested, h.xaddrs, fun d' hd' => by
            obtain rfl : d = d' := Option.some.inj hd'
            exact ⟨sid, authless, before, reply, s, date, hmem, hdate, hdiff⟩⟩
        refine (Preserves.bind (preserves_closeService preparing_update devicemgmt
          (preparing_await rfl)) fun _ =>
          .bind .getState fun s => ?_) _ _ hmeasured
        cases s.service? devicemgmt with
        | some service =>
          exact .bind (preserves_popService preparing_update _) fun _ =>
            preparing_createOnvifService _ _ _
        | none => exact .bind (.raise _) fun _ => preparing_createOnvifService _ _ _

theorem preparing_devicemgmtWithTime :
    Preserves (discoveryContract old) (Preparing old) (devicemgmtWithTime C) := by
  refine .bind (preparing_createOnvifService _ _ _) fun devicemgmt => .bind .getState fun s => ?_
  cases s.dtDiff with
  | some d => exact .pure _
  | none => exact preparing_adjustTime devicemgmt

/-! ### The replies -/

/-- After the map was reset. -/
structure AfterReset (trace : List CameraEvent) (s : ONVIFCamera) : Prop where
  xaddrs : s.xaddrs = Dict.empty
  dtDiff : ∀ d, s.dtDiff = some d → Measured trace d

theorem AfterReset.resume {c : CameraCall} {r : Except Exc (cameraInterface.Answer c)}
    (h : AfterReset trace s) (hr : (discoveryContract old).resume trace c s r trace' s') :
    AfterReset trace' s' := by
  obtain ⟨rfl, hxaddrs, hdtDiff⟩ := hr
  exact ⟨hxaddrs.trans h.xaddrs,
    fun d hd => (h.dtDiff d (hdtDiff ▸ hd)).mono (List.subset_append_left _ _)⟩

theorem requested_of_mem {v : CameraEvent} (hv : v ∈ trace) (hc : isDiscoveryRequest v.call) :
    Requested trace := ⟨v, hv, hc⟩

/-- An exception in a loop leaves a map of reported addresses behind. -/
theorem afterFailure_of_stored {l : List (String × Option String)} (h : AfterReset trace s)
    (hrequested : Requested trace)
    (hl : ∀ e ∈ l, (∃ services, ServicesReply trace services ∧ e ∈ reportedServices services) ∨
      ∃ reply, CapabilitiesReplied trace reply ∧ e ∈ reportedCapabilities reply) :
    AfterFailure C old trace (s.setXaddrs (storeAll C l s.xaddrs)) where
  unchanged hno := (hno hrequested).elim
  onlyReported _ := ⟨l, by rw [h.xaddrs]; rfl, hl⟩
  dtDiff := h.dtDiff

/-- An exception before anything was stored. -/
theorem AfterReset.afterFailure (h : AfterReset trace s) (hrequested : Requested trace) :
    AfterFailure C old trace s where
  unchanged hno := (hno hrequested).elim
  onlyReported _ := ⟨[], h.xaddrs, fun _ he => absurd he List.not_mem_nil⟩
  dtDiff := h.dtDiff

/-- How the call ends. -/
def Rediscovered (C : CameraConfig) (old : Dict String (Option String)) :
    Except Exc Unit → List CameraEvent → ONVIFCamera → Prop :=
  Ends (fun _ trace s => CompleteMap C trace s.xaddrs) fun _ => AfterFailure C old

theorem rediscovered_capabilities (h : AfterReset trace s) (devicemgmt : ServiceId)
    {services : Except Exc (Option (List ServiceEntry))} (hservices : ServicesReply trace services)
    (hnone : reportedServices services = []) :
    wp (discoveryContract old) (Rediscovered C old) (updateXaddrsFromCapabilities C devicemgmt)
      trace s := by
  rw [updateXaddrsFromCapabilities, wp_bind]
  refine (wp_call _).mpr ⟨h.xaddrs, fun r trace' s' hr => ?_⟩
  have h' := h.resume hr
  obtain ⟨rfl, -, -⟩ := hr
  have hmem : (⟨.getCapabilities devicemgmt, s, r, s'⟩ : CameraEvent)
      ∈ trace ++ [⟨.getCapabilities devicemgmt, s, r, s'⟩] :=
    List.mem_append_right trace (List.mem_singleton_self _)
  have hrequested := requested_of_mem hmem rfl
  cases r with
  | error e => exact h'.afterFailure hrequested
  | ok reply =>
    have hreply : CapabilitiesReplied _ reply := ⟨devicemgmt, s, s', hmem⟩
    rw [ends_ok, wp_bind]
    by_cases haccepted : ∀ e ∈ reply.entries.filterMap capabilityAddress, Accepted C e.2
    · rw [wp_addCapabilities_of_accepted haccepted, ends_ok]
      obtain ⟨sid, before, after, hsent⟩ := hservices
      have hcomplete : CompleteMap C (trace ++ [⟨.getCapabilities devicemgmt, s, .ok reply, s'⟩])
          (storeAll C (reportedCapabilities reply) s'.xaddrs) := by
        refine ⟨services, ⟨sid, before, after, List.mem_append_left _ hsent⟩,
          Or.inr ⟨hnone, reply, hreply, ?_⟩⟩
        rw [h'.xaddrs]
      cases reply.serializable with
      | true => exact hcomplete
      | false => exact hcomplete
    · obtain ⟨e, l, hl, hraise⟩ := wp_addCapabilities_of_not_accepted
        (K := discoveryContract old) (g := trace ++ [⟨.getCapabilities devicemgmt, s, .ok reply, s'⟩])
        (s := s') haccepted
      rw [hraise]
      exact afterFailure_of_stored h' hrequested fun e he => Or.inr ⟨reply, hreply, hl he⟩

theorem rediscovered_services (h : AfterReset trace s) (devicemgmt : ServiceId) :
    wp (discoveryContract old) (Rediscovered C old)
      (updateXaddrsFromServices C devicemgmt >>= fun found =>
        if !found then updateXaddrsFromCapabilities C devicemgmt else pure ()) trace s := by
  rw [wp_bind, updateXaddrsFromServices, wp_bind, wp_attempt]
  refine (wp_call _).mpr ⟨h.xaddrs, fun r trace' s' hr => ?_⟩
  have h' := h.resume hr
  obtain ⟨rfl, -, -⟩ := hr
  have hmem : (⟨.getServices devicemgmt, s, r, s'⟩ : CameraEvent)
      ∈ trace ++ [⟨.getServices devicemgmt, s, r, s'⟩] :=
    List.mem_append_right trace (List.mem_singleton_self _)
  have hrequested := requested_of_mem hmem rfl
  have hreply : ServicesReply _ r := ⟨devicemgmt, s, s', hmem⟩
  rw [ends_ok]
  cases r with
  | error e =>
    dsimp only
    by_cases he : e.oneOf [.onvifError, .fault]
    · rw [if_pos he]
      exact rediscovered_capabilities h' devicemgmt hreply rfl
    · rw [if_neg he]
      exact h'.afterFailure hrequested
  | ok services =>
    dsimp only
    by_cases haccepted : ∀ e ∈ (services.getD []).filterMap serviceAddress, Accepted C e.2
    · rw [wp_addServices_of_accepted haccepted, ends_ok]
      by_cases hreported : (services.getD []).filterMap serviceAddress = []
      · rw [hreported]
        exact rediscovered_capabilities ⟨h'.xaddrs, h'.dtDiff⟩ devicemgmt hreply hreported
      · have hfound : (!(false || !((services.getD []).filterMap serviceAddress).isEmpty)) = false := by
          simpa using hreported
        rw [hfound, if_neg Bool.false_ne_true]
        refine ⟨.ok services, hreply, Or.inl ⟨hreported, ?_⟩⟩
        show storeAll C _ s'.xaddrs = _
        rw [h'.xaddrs]
        rfl
    · obtain ⟨e, l, hl, hraise⟩ := wp_addServices_of_not_accepted
        (K := discoveryContract old) (g := trace ++ [⟨.getServices devicemgmt, s, .ok services, s'⟩])
        (s := s') haccepted
      refine (hraise _).mpr ?_
      exact afterFailure_of_stored h' hrequested fun e he => Or.inl ⟨.ok services, hreply, hl he⟩

theorem rediscovered_updateXaddrs (s : ONVIFCamera) :
    wp (discoveryContract s.xaddrs) (Rediscovered C s.xaddrs) (updateXaddrs C) [] s := by
  have hstart : Preparing s.xaddrs [] (s.setDtDiff none) :=
    ⟨fun ⟨v, hv, _⟩ => absurd hv List.not_mem_nil, rfl, fun d hd => by cases hd⟩
  rw [updateXaddrs, wp_bind, wp_modifyState, ends_ok, wp_bind]
  refine wp_mono (fun r trace s' hr => ?_) (preparing_devicemgmtWithTime [] _ hstart)
  cases r with
  | error e => exact ⟨fun _ => hr.xaddrs, fun h => (hr.notRequested h).elim, hr.dtDiff⟩
  | ok devicemgmt =>
    rw [ends_ok, wp_bind, wp_modifyState, ends_ok]
    have hreset : AfterReset trace (s'.setXaddrs Dict.empty) := ⟨rfl, hr.dtDiff⟩
    exact rediscovered_services hreset devicemgmt

/-! ### Whole runs -/

/-- Nothing else writes the addresses and the offset meanwhile. -/
def KeepsDiscovery (w : CameraWorld) : Prop :=
  ∀ n c s, (w n c s).2.xaddrs = s.xaddrs ∧ (w n c s).2.dtDiff = s.dtDiff

theorem obeys_discoveryContract {w : CameraWorld} (hw : KeepsDiscovery w)
    (old : Dict String (Option String)) :
    w.Obeys (discoveryContract old) fun trace v => trace ++ [v] :=
  fun n _ c s _ => ⟨rfl, hw n c s⟩

/-- **What others see of `update_xaddrs()`**, whatever the device answers. -/
theorem rediscovery_atomic (C : CameraConfig) (w : CameraWorld) (hw : KeepsDiscovery w)
    (s : ONVIFCamera) :
    (∀ v ∈ ((updateXaddrs C).exec w 0 s).trace,
        v.before.xaddrs = if isDiscoveryRequest v.call then Dict.empty else s.xaddrs) ∧
      (((updateXaddrs C).exec w 0 s).result = .ok () →
        CompleteMap C ((updateXaddrs C).exec w 0 s).trace ((updateXaddrs C).exec w 0 s).state.xaddrs) ∧
      ∀ e, ((updateXaddrs C).exec w 0 s).result = .error e →
        AfterFailure C s.xaddrs ((updateXaddrs C).exec w 0 s).trace
          ((updateXaddrs C).exec w 0 s).state := by
  have hobeys := obeys_discoveryContract hw s.xaddrs
  have hpost := wp_exec_trace hobeys (n := 0) (rediscovered_updateXaddrs (C := C) s)
  refine ⟨fun v hv => ?_, fun hok => ?_, fun e he => ?_⟩
  · obtain ⟨_, hsuspend⟩ := wp_exec_suspend hobeys (n := 0) (rediscovered_updateXaddrs (C := C) s) v hv
    exact hsuspend
  · rw [hok] at hpost
    exact hpost
  · rw [he] at hpost
    exact hpost

/-- A device that reports one service. -/
theorem rediscovery_atomic_media :
    CompleteMap localConfig
      ((updateXaddrs localConfig).exec
        (deviceAlone (discoveryAnswers (.ok (some [mediaEntry])) noCapabilities)) 0 localCamera).trace
      ((updateXaddrs localConfig).exec
        (deviceAlone (discoveryAnswers (.ok (some [mediaEntry])) noCapabilities)) 0
        localCamera).state.xaddrs :=
  (rediscovery_atomic localConfig
    (deviceAlone (discoveryAnswers (.ok (some [mediaEntry])) noCapabilities))
    (fun _ _ _ => ⟨rfl, rfl⟩) localCamera).2.1 rfl

def mediaNamespace : String := "http://www.onvif.org/ver10/media/wsdl"

/-- A camera that was discovered before. -/
def rediscoveredCamera : ONVIFCamera :=
  localCamera.setXaddr mediaNamespace (some "http://192.168.0.2/onvif/media")

/-- While GetServices is in flight, an address that was known before and will be known after
is not there. -/
theorem rediscovery_seen_empty :
    ¬∀ (s : ONVIFCamera) (services : Except Exc (Option (List ServiceEntry))),
      (∀ v ∈ ((updateXaddrs localConfig).exec
          (deviceAlone (discoveryAnswers services noCapabilities)) 0 s).trace,
        v.before.xaddrs.get? = s.xaddrs.get? ∨
          v.before.xaddrs.get? = ((updateXaddrs localConfig).exec
            (deviceAlone (discoveryAnswers services noCapabilities)) 0 s).state.xaddrs.get?) ∧
        ∀ e, ((updateXaddrs localConfig).exec
            (deviceAlone (discoveryAnswers services noCapabilities)) 0 s).result = .error e →
          ((updateXaddrs localConfig).exec
              (deviceAlone (discoveryAnswers services noCapabilities)) 0 s).state.xaddrs.get?
            = s.xaddrs.get? ∧
          ((updateXaddrs localConfig).exec
              (deviceAlone (discoveryAnswers services noCapabilities)) 0 s).state.dtDiff = s.dtDiff := by
  intro h
  obtain ⟨hseen, -⟩ := h rediscoveredCamera (.ok (some [mediaEntry]))
  have hempty : (((updateXaddrs localConfig).exec
      (deviceAlone (discoveryAnswers (.ok (some [mediaEntry])) noCapabilities)) 0
      rediscoveredCamera).trace.any fun v => v.before.xaddrs.get? mediaNamespace = none) = true := by
    decide +kernel
  obtain ⟨v, hv, hnone⟩ := List.any_eq_true.mp hempty
  have hnone : v.before.xaddrs.get? mediaNamespace = none := of_decide_eq_true hnone
  rcases hseen v hv with hold | hnew
  · rw [hold] at hnone
    exact absurd hnone (by decide +kernel)
  · rw [hnew] at hnone
    exact absurd hnone (by decide +kernel)

end ONVIFCamera

end Onvif
