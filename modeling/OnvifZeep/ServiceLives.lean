/-
The lives of the services of a camera.

A service is constructed, set up, used and closed, and the camera's methods do all of it: they reuse
a service, replace it when its address has changed, and close the device service once the clock was
compared.  What a service is ready for is read off the calls made so far.

* **`Ready`** — set up and not closed since, a property of the calls alone;
* **`Permitted`** — what may come next: a service is set up before it is used, set up and closed
  once at most, and never while another one of its binding key is ready;
* **`Lives`** — the invariant: the registered services are the ready ones, and are open;
  `lifeOutline` carries it through `create_onvif_service`;
* **`services_live_once`** — the calls of any number of the consumer's calls, one after the other.
-/
import OnvifZeep.Registry
import OnvifZeep.Runs

namespace Onvif

open Coro

namespace ONVIFCamera

namespace ServiceLives

variable {C : CameraConfig} {s s' : ONVIFCamera} {sid i : ServiceId} {v u : CameraEvent}
  {trace : List CameraEvent} {key : BindingKey}

/-! ### What a service is ready for -/

/-- The service a call is about. -/
def about : CameraCall → Option ServiceId
  | .listWsdlDir _ => none
  | .close sid | .setup sid | .getSystemDateAndTime sid _ | .getServices sid | .getCapabilities sid
  | .createPullPointSubscription sid _ | .subscribe sid _ _ | .renew sid _ => some sid

def Succeeded (v : CameraEvent) : Prop := ∃ a, v.answer = .ok a

/-- The service was set up, and not closed. -/
def Ready (trace : List CameraEvent) (sid : ServiceId) : Prop :=
  (∃ v ∈ trace, v.call = .setup sid ∧ Succeeded v) ∧ ∀ v ∈ trace, v.call ≠ .close sid

/-- The binding key a service was constructed for. -/
def keyOf (s : ONVIFCamera) (sid : ServiceId) : Option BindingKey :=
  (s.service? sid).map (·.bindingKey)

/-- What may come after `front`: the set-up of a new service, if no other of its key is ready, or a
use of a ready one. -/
def Permitted (front : List CameraEvent) (v : CameraEvent) : Prop :=
  match v.call with
  | .setup sid => (∀ u ∈ front, about u.call ≠ some sid) ∧
    ∀ i, Ready front i → keyOf v.before i ≠ keyOf v.before sid
  | c => ∀ sid, about c = some sid → Ready front sid

theorem ready_snoc : Ready (trace ++ [v]) sid ↔
    (Ready trace sid ∨ (v.call = .setup sid ∧ Succeeded v ∧ ∀ u ∈ trace, u.call ≠ .close sid)) ∧
      v.call ≠ .close sid := by
  simp only [Ready, List.mem_append, List.mem_singleton]
  constructor
  · rintro ⟨⟨u, hu | rfl, hcall, hok⟩, hclose⟩
    · exact ⟨Or.inl ⟨⟨u, hu, hcall, hok⟩, fun t ht => hclose t (Or.inl ht)⟩, hclose v (Or.inr rfl)⟩
    · exact ⟨Or.inr ⟨hcall, hok, fun t ht => hclose t (Or.inl ht)⟩, hclose u (Or.inr rfl)⟩
  · rintro ⟨⟨⟨u, hu, hcall, hok⟩, hclose⟩ | ⟨hcall, hok, hclose⟩, hv⟩
    · exact ⟨⟨u, Or.inl hu, hcall, hok⟩, fun t ht => ht.elim (hclose t) fun heq => heq ▸ hv⟩
    · exact ⟨⟨v, Or.inr rfl, hcall, hok⟩, fun t ht => ht.elim (hclose t) fun heq => heq ▸ hv⟩

/-- A call that neither sets up nor closes a service changes no service's readiness. -/
theorem ready_snoc_of_use (hsetup : ∀ i, v.call ≠ .setup i) (hclose : ∀ i, v.call ≠ .close i) :
    Ready (trace ++ [v]) sid ↔ Ready trace sid := by
  rw [ready_snoc]
  constructor
  · rintro ⟨h | ⟨hcall, -⟩, -⟩
    · exact h
    · exact (hsetup sid hcall).elim
  · exact fun h => ⟨Or.inl h, hclose sid⟩

theorem ready_snoc_of_close (hv : v.call = .close i) :
    Ready (trace ++ [v]) sid ↔ Ready trace sid ∧ sid ≠ i := by
  rw [ready_snoc, hv]
  constructor
  · rintro ⟨h | ⟨hcall, -⟩, hne⟩
    · exact ⟨h, fun heq => hne (heq ▸ rfl)⟩
    · cases hcall
  · rintro ⟨h, hne⟩
    exact ⟨Or.inl h, fun heq => hne (CameraCall.close.inj heq).symm⟩

/-- A set-up makes its service ready, if it succeeds. -/
theorem ready_snoc_of_setup (hv : v.call = .setup i)
    (hfresh : ∀ u ∈ trace, about u.call ≠ some i) :
    Ready (trace ++ [v]) sid ↔ Ready trace sid ∨ sid = i ∧ Succeeded v := by
  rw [ready_snoc, hv]
  constructor
  · rintro ⟨h | ⟨hcall, hok, -⟩, -⟩
    · exact Or.inl h
    · exact Or.inr ⟨(CameraCall.setup.inj hcall).symm, hok⟩
  · rintro (h | ⟨rfl, hok⟩)
    · exact ⟨Or.inl h, by rintro ⟨⟩⟩
    · refine ⟨Or.inr ⟨rfl, hok, fun u hu hclose => hfresh u hu ?_⟩, by rintro ⟨⟩⟩
      rw [hclose]
      rfl

/-! ### The invariant -/

/-- The calls so far were permitted, and every service they are about was constructed. -/
structure Traced (trace : List CameraEvent) (s : ONVIFCamera) : Prop where
  lawful : Runs.Lawful Permitted trace
  known : ∀ v ∈ trace, ∀ i, about v.call = some i → i < s.constructed.length
  registered : Registered s

/-- The registered services are the ready ones, and are open. -/
structure Lives (trace : List CameraEvent) (s : ONVIFCamera) : Prop extends Traced trace s where
  ready : ∀ i, Ready trace i ↔ ∃ key, s.services.get? key = some i
  opened : ∀ key i, s.services.get? key = some i → s.isClosed i = false

/-- The service of the key was closed, and its entry is still there. -/
structure Retired (key : BindingKey) (trace : List CameraEvent) (s : ONVIFCamera) : Prop
    extends Traced trace s where
  entry : ∃ i, s.services.get? key = some i
  ready : ∀ i, Ready trace i ↔ ∃ key', key' ≠ key ∧ s.services.get? key' = some i
  opened : ∀ key' i, key' ≠ key → s.services.get? key' = some i → s.isClosed i = false

/-- Nobody else changes the services, and a service can be closed. -/
def Alone (v : CameraEvent) : Prop :=
  v.after.services = v.before.services ∧ v.after.constructed = v.before.constructed ∧
    ∀ i, v.call = .close i → Succeeded v

theorem keyOf_of_registered (h : Registered s) (hi : s.services.get? key = some i) :
    keyOf s i = some key := by
  obtain ⟨v, hv, hkey⟩ := h key i hi
  rw [keyOf, hv, Option.map_some, hkey]

theorem Lives.of_eq (h : Lives trace s) (hservices : s'.services = s.services)
    (hconstructed : s'.constructed = s.constructed) : Lives trace s' where
  lawful := h.lawful
  known v hv i hi := by
    rw [hconstructed]
    exact h.known v hv i hi
  registered := h.registered.of_extends (.of_eq hconstructed) hservices
  ready i := by rw [hservices, h.ready]
  opened key i hi := by
    rw [isClosed, service?, hconstructed]
    exact h.opened key i (hservices ▸ hi)

theorem Traced.lt_of_ready (h : Traced trace s) (hi : Ready trace i) :
    i < s.constructed.length := by
  obtain ⟨⟨v, hv, hcall, -⟩, -⟩ := hi
  exact h.known v hv i (by rw [hcall]; rfl)

/-- One permitted call more. -/
theorem Traced.snoc (h : Traced trace s) (hv : Permitted trace v)
    (hknown : ∀ i, about v.call = some i → i < s'.constructed.length)
    (hlen : s.constructed.length ≤ s'.constructed.length) (hregistered : Registered s') :
    Traced (trace ++ [v]) s' where
  lawful := Runs.lawful_snoc.mpr ⟨h.lawful, hv⟩
  known u hu i hi := by
    rcases List.mem_append.mp hu with hu | hu
    · exact (h.known u hu i hi).trans_le hlen
    · rw [List.mem_singleton.mp hu] at hi
      exact hknown i hi
  registered := hregistered

/-- **A request to a ready service** leaves all lives as they were. -/
theorem Lives.use (h : Lives trace s) (hbefore : v.before = s) (halone : Alone v)
    (hready : ∀ i, about v.call = some i → Ready trace i) (hsetup : ∀ i, v.call ≠ .setup i)
    (hclose : ∀ i, v.call ≠ .close i) : Lives (trace ++ [v]) v.after := by
  have hsame : Lives trace v.after := by
    subst hbefore
    exact h.of_eq halone.1 halone.2.1
  have hpermitted : Permitted trace v := by
    rw [Permitted]
    cases hcall : v.call with
    | setup i => exact (hsetup i hcall).elim
    | _ => exact fun i hi => hready i (hcall ▸ hi)
  refine ⟨hsame.toTraced.snoc hpermitted (fun i hi => hsame.lt_of_ready (hready i hi)) le_rfl
    hsame.registered, fun i => ?_, hsame.opened⟩
  rw [ready_snoc_of_use hsetup hclose, hsame.ready]

/-- **Closing** a registered service. -/
theorem Lives.close (h : Lives trace s) (hi : s.services.get? key = some i)
    (hcall : v.call = .close i) (hbefore : v.before = s.markClosed i) (halone : Alone v) :
    Retired key (trace ++ [v]) v.after := by
  obtain ⟨hservices, hconstructed, -⟩ := halone
  rw [hbefore] at hservices hconstructed
  have hready : Ready trace i := (h.ready i).mpr ⟨key, hi⟩
  have hlen : v.after.constructed.length = s.constructed.length := by
    rw [hconstructed, markClosed, List.length_modify]
  have hpermitted : Permitted trace v := by
    rw [Permitted, hcall]
    intro j hj
    obtain rfl : i = j := Option.some.inj hj
    exact hready
  have hother : ∀ key' j, key' ≠ key → s.services.get? key' = some j → j ≠ i := by
    rintro key' j hne hj rfl
    have hkey := (keyOf_of_registered h.registered hj).symm.trans
      (keyOf_of_registered h.registered hi)
    exact hne (Option.some.inj hkey)
  refine ⟨h.toTraced.snoc hpermitted (fun j hj => ?_) hlen.ge
    (h.registered.of_extends ((Extends.markClosed i).trans (.of_eq hconstructed)) hservices),
    ⟨i, hservices ▸ hi⟩, fun j => ?_, fun key' j hne hj => ?_⟩
  · rw [hcall] at hj
    obtain rfl : i = j := Option.some.inj hj
    exact hlen ▸ h.lt_of_ready hready
  · rw [ready_snoc_of_close hcall, h.ready, hservices]
    constructor
    · rintro ⟨⟨key', hj⟩, hne⟩
      refine ⟨key', fun heq => hne ?_, hj⟩
      subst heq
      exact Option.some.inj (hj.symm.trans hi)
    · rintro ⟨key', hne, hj⟩
      exact ⟨⟨key', hj⟩, hother key' j hne hj⟩
  · rw [hservices] at hj
    have hopened := h.opened key' j hj
    rw [isClosed, service?, hconstructed]
    have hsame := service?_markClosed i s j
    rw [if_neg (hother key' j hne hj).symm] at hsame
    rw [← hopened, isClosed, ← hsame]
    rfl

/-- The entry of the closed service is removed. -/
theorem Retired.pop (h : Retired key trace s) :
    Lives trace (s.unregister key) ∧ (s.unregister key).services.get? key = none := by
  have hget : ∀ key', (s.unregister key).services.get? key'
      = if key' = key then none else s.services.get? key' := fun key' => Dict.get?_erase _ _ _
  refine ⟨⟨⟨h.lawful, h.known, h.registered.unregister key⟩, fun i => ?_, fun key' i hi => ?_⟩, ?_⟩
  · rw [h.ready]
    refine exists_congr fun key' => ?_
    rw [hget]
    by_cases hkey : key' = key
    · simp [hkey]
    · simp [hkey]
  · rw [hget] at hi
    by_cases hkey : key' = key
    · rw [if_pos hkey] at hi
      cases hi
    · rw [if_neg hkey] at hi
      exact h.opened key' i hkey hi
  · rw [hget, if_pos rfl]

/-- **Setting up** a new service, while none is registered for its key. -/
theorem Lives.setup {service : ONVIFService} (h : Lives trace s)
    (hvacant : s.services.get? key = none) (hkey : service.bindingKey = key)
    (hopened : service.sessionClosed = false) (hcall : v.call = .setup s.constructed.length)
    (hbefore : v.before = s.addService service) (halone : Alone v) :
    (Succeeded v → Lives (trace ++ [v]) (v.after.register key s.constructed.length)) ∧
      (¬Succeeded v → Lives (trace ++ [v]) v.after) := by
  obtain ⟨hservices, hconstructed, -⟩ := halone
  rw [hbefore] at hservices hconstructed
  have hservices' : v.after.services = s.services := hservices
  have hfresh : ∀ u ∈ trace, about u.call ≠ some s.constructed.length :=
    fun u hu heq => lt_irrefl _ (h.known u hu _ heq)
  have hself : v.after.service? s.constructed.length = some service := by
    rw [service?, hconstructed]
    exact service?_addService_self service s
  have hpermitted : Permitted trace v := by
    rw [Permitted, hcall]
    refine ⟨hfresh, fun i hi heq => ?_⟩
    obtain ⟨key', hi⟩ := (h.ready i).mp hi
    have hold := keyOf_of_registered (h.registered.of_extends (.addService service) rfl) hi
    have hnew : keyOf (s.addService service) s.constructed.length = some key := by
      rw [keyOf, service?_addService_self, Option.map_some, hkey]
    rw [hbefore, hold, hnew] at heq
    rw [Option.some.inj heq, hvacant] at hi
    cases hi
  have hextends : Extends s v.after := (Extends.addService service).trans (.of_eq hconstructed)
  have hlen : v.after.constructed.length = s.constructed.length + 1 := by
    rw [hconstructed, addService, List.length_append, List.length_singleton]
  have hregistered : Registered v.after := h.registered.of_extends hextends hservices'
  have htraced : Traced (trace ++ [v]) v.after := by
    refine h.toTraced.snoc hpermitted (fun i hi => ?_) (by omega) hregistered
    rw [hcall] at hi
    rw [hlen, ← Option.some.inj hi]
    exact Nat.lt_succ_self _
  have holdOpened : ∀ key' i, s.services.get? key' = some i → v.after.isClosed i = false := by
    intro key' i hi
    obtain ⟨w, hw, -⟩ := h.registered key' i hi
    rw [← h.opened key' i hi, isClosed, isClosed, hw, service?, hconstructed]
    exact congrArg (Option.any _) (service?_addService_of_some hw service)
  constructor
  · intro hok
    refine ⟨⟨htraced.lawful, htraced.known, hregistered.register hself hkey⟩, fun i => ?_,
      fun key' i hi => ?_⟩
    · rw [ready_snoc_of_setup hcall hfresh, h.ready]
      constructor
      · rintro (⟨key', hi⟩ | ⟨rfl, -⟩)
        · refine ⟨key', ?_⟩
          rw [ONVIFCamera.register, Dict.get?_insert, if_neg (fun heq => ?_), hservices', hi]
          rw [heq, hvacant] at hi
          cases hi
        · refine ⟨key, ?_⟩
          rw [ONVIFCamera.register, Dict.get?_insert, if_pos rfl]
      · rintro ⟨key', hi⟩
        rw [ONVIFCamera.register, Dict.get?_insert] at hi
        by_cases hne : key' = key
        · rw [if_pos hne] at hi
          exact Or.inr ⟨(Option.some.inj hi).symm, hok⟩
        · rw [if_neg hne, hservices'] at hi
          exact Or.inl ⟨key', hi⟩
    · rw [ONVIFCamera.register, Dict.get?_insert] at hi
      by_cases hne : key' = key
      · rw [if_pos hne] at hi
        obtain rfl : s.constructed.length = i := Option.some.inj hi
        show (v.after.service? _).any _ = false
        rw [hself, Option.any_some, hopened]
      · rw [if_neg hne, hservices'] at hi
        exact holdOpened key' i hi
  · intro hfailed
    refine ⟨htraced, fun i => ?_, fun key' i hi => holdOpened key' i (hservices' ▸ hi)⟩
    rw [ready_snoc_of_setup hcall hfresh, h.ready, hservices']
    exact or_iff_left fun hand => hfailed hand.2

/-! ### Creating a service -/

/-- The points of `create_onvif_service`. -/
def lifeOutline (C : CameraConfig) (name : String) (portType : Option String) :
    CreationOutline (recording Alone) C name portType where
  idle := Lives
  closed := Retired (lower name, portType)
  vacant trace s := Lives trace s ∧ s.services.get? (lower name, portType) = none
  returned sid trace s := Lives trace s ∧ s.services.get? (lower name, portType) = some sid
  failed _ := Lives
  listed h := by
    refine ⟨trivial, ?_⟩
    rintro r _ s' ⟨rfl, halone⟩
    have hlives := h.use rfl halone (fun i hi => by cases hi) (fun i hi => by cases hi)
      fun i hi => by cases hi
    cases r with
    | ok files => exact hlives.of_eq rfl rfl
    | error e => exact hlives
  undefined h _ := h
  reused h hexisting := ⟨h, (existingService_eq_some.mp hexisting).1⟩
  absent h hexisting := ⟨h, (existingService_eq_none h.registered).mp hexisting⟩
  closing h hexisting := by
    refine ⟨trivial, ?_⟩
    rintro r _ s' ⟨rfl, halone⟩
    have hretired := h.close (existingService_eq_some.mp hexisting).1 rfl rfl halone
    cases r with
    | ok _ => exact hretired
    | error e =>
      obtain ⟨a, ha⟩ := halone.2.2 _ rfl
      cases ha
  popped h _ := h.pop
  notFound h hnone := by
    obtain ⟨i, hi⟩ := h.entry
    rw [hnone] at hi
    cases hi
  built h _ hservice := by
    refine ⟨trivial, ?_⟩
    rintro r _ s' ⟨rfl, halone⟩
    obtain ⟨-, -, hkey, hopened⟩ := newService_spec hservice
    have hsetup := h.1.setup h.2 hkey hopened rfl rfl halone
    cases r with
    | ok a =>
      refine ⟨hsetup.1 ⟨a, rfl⟩, ?_⟩
      rw [ONVIFCamera.register, Dict.get?_insert, if_pos rfl]
    | error e => exact hsetup.2 fun ⟨a, ha⟩ => by cases ha
  notBuilt h _ _ := h.1

/-! ### The consumer's calls -/

/-- The device service is registered. -/
def Holding (devicemgmt : ServiceId) (trace : List CameraEvent) (s : ONVIFCamera) : Prop :=
  Lives trace s ∧ s.services.get? ("devicemgmt", none) = some devicemgmt

theorem wp_createDevicemgmtService (h : Lives trace s) :
    wp (recording Alone) (Ends Holding fun _ => Lives) (createDevicemgmtService C) trace s :=
  (lifeOutline C "devicemgmt" none).wp_createOnvifService h none

/-- A request to the device service. -/
theorem preserves_request {devicemgmt : ServiceId} {c : CameraCall} (hc : about c = some devicemgmt)
    (hsetup : ∀ i, c ≠ .setup i) (hclose : ∀ i, c ≠ .close i) :
    Preserves (recording Alone) (Holding devicemgmt) (await c) := by
  rintro trace s ⟨h, hentry⟩
  refine (wp_call_recording (I := cameraInterface)).mpr fun r s' halone => ?_
  refine ⟨h.use rfl halone (fun i hi => ?_) hsetup hclose, halone.1 ▸ hentry⟩
  obtain rfl : devicemgmt = i := Option.some.inj (hc.symm.trans hi)
  exact (h.ready devicemgmt).mpr ⟨_, hentry⟩

theorem Holding.update {devicemgmt : ServiceId} (h : Holding devicemgmt trace s)
    (hservices : s'.services = s.services) (hconstructed : s'.constructed = s.constructed) :
    Holding devicemgmt trace s' := ⟨h.1.of_eq hservices hconstructed, hservices ▸ h.2⟩

/-- Comparing the clocks replaces the device service. -/
theorem wp_adjustTime {devicemgmt : ServiceId} (h : Holding devicemgmt trace s) :
    wp (recording Alone) (Ends Holding fun _ => Lives) (adjustTime C devicemgmt) trace s := by
  rw [adjustTime]
  by_cases hadjust : (!C.adjustTime) = true
  · rw [if_pos hadjust]
    exact h
  rw [if_neg hadjust]
  have hrequest : Preserves (recording Alone) (Holding devicemgmt)
      (getSystemDateAndTime devicemgmt) :=
    preserves_getSystemDateAndTime devicemgmt fun authless =>
      preserves_request rfl (fun i hi => by cases hi) fun i hi => by cases hi
  rw [wp_bind]
  refine wp_mono (fun r trace s h => ?_) (hrequest trace s h)
  cases r with
  | error e => exact h.1
  | ok reply =>
    rw [ends_ok, wp_bind, wp_ofExcept]
    cases camDate reply with
    | error e => exact h.1
    | ok date =>
      rw [ends_ok, wp_bind, wp_getState, ends_ok, wp_bind, wp_ofExcept]
      cases date.sub s.utcnow with
      | error e => exact h.1
      | ok dtDiff =>
        rw [ends_ok, wp_bind, wp_modifyState, ends_ok, wp_bind, closeService, wp_bind,
          wp_modifyState, ends_ok]
        have hset : Holding devicemgmt trace (s.setDtDiff (some dtDiff)) := h.update rfl rfl
        refine (wp_call_recording (I := cameraInterface)).mpr fun r s' halone => ?_
        have hretired := hset.1.close hset.2 rfl rfl halone
        cases r with
        | error e =>
          obtain ⟨a, ha⟩ := halone.2.2 _ rfl
          cases ha
        | ok _ =>
          have hentry : s'.services.get? ("devicemgmt", none) = some devicemgmt := halone.1 ▸ hset.2
          obtain ⟨service, hservice, hkey⟩ := hretired.registered _ _ hentry
          rw [ends_ok, wp_bind, wp_getState, ends_ok]
          simp only [hservice, hkey]
          rw [wp_bind, popService, wp_bind, wp_getState, ends_ok, hentry]
          exact wp_createDevicemgmtService hretired.pop.1

theorem wp_devicemgmtWithTime (h : Lives trace s) :
    wp (recording Alone) (Ends Holding fun _ => Lives) (devicemgmtWithTime C) trace s := by
  rw [devicemgmtWithTime, wp_bind]
  refine wp_mono (fun r trace s hr => ?_) (wp_createDevicemgmtService h)
  cases r with
  | error e => exact hr
  | ok devicemgmt =>
    rw [ends_ok, wp_bind, wp_getState, ends_ok]
    cases s.dtDiff with
    | some _ => exact hr
    | none => exact wp_adjustTime hr

theorem preserves_fromServices {devicemgmt : ServiceId} :
    Preserves (recording Alone) (Holding devicemgmt) (updateXaddrsFromServices C devicemgmt) :=
  preserves_updateXaddrsFromServices (fun _ _ _ _ h => h.update rfl rfl)
    (preserves_request rfl (fun i hi => by cases hi) fun i hi => by cases hi)

theorem preserves_fromCapabilities {devicemgmt : ServiceId} :
    Preserves (recording Alone) (Holding devicemgmt)
      (updateXaddrsFromCapabilities C devicemgmt) :=
  preserves_updateXaddrsFromCapabilities (fun _ _ _ _ h => h.update rfl rfl)
    (fun _ _ _ h => h.update rfl rfl)
    (preserves_request rfl (fun i hi => by cases hi) fun i hi => by cases hi)

/-- **Every call of the consumer** keeps the lives. -/
theorem preserves_perform_lives (op : CameraOp) :
    Preserves (recording Alone) Lives (perform C op) := by
  cases op with
  | updateXaddrs =>
    intro trace s h
    rw [perform, wp_bind, updateXaddrs, wp_bind, wp_modifyState, ends_ok, wp_bind]
    have hreset : Lives trace (s.setDtDiff none) := h.of_eq rfl rfl
    refine wp_mono (fun r trace s hr => ?_) (wp_devicemgmtWithTime hreset)
    cases r with
    | error e => exact hr
    | ok devicemgmt =>
      have hset : Holding devicemgmt trace (s.setXaddrs Dict.empty) := hr.update rfl rfl
      rw [ends_ok, wp_bind, wp_modifyState, ends_ok, wp_bind]
      refine wp_mono (fun r trace s hr => ?_) (preserves_fromServices trace _ hset)
      cases r with
      | error e => exact hr.1
      | ok found =>
        rw [ends_ok]
        cases found with
        | true => exact hr.1
        | false =>
          refine wp_mono (fun r trace s hr => ?_) (preserves_fromCapabilities trace s hr)
          cases r with
          | ok _ => exact hr.1
          | error e => exact hr.1
  | getCapabilities =>
    intro trace s h
    rw [perform, wp_bind, getCapabilities, wp_bind, wp_getState, ends_ok]
    cases s.capabilities with
    | some capabilities => exact h
    | none =>
      dsimp only
      rw [wp_bind]
      refine wp_mono (fun r trace s hr => ?_) (wp_devicemgmtWithTime h)
      cases r with
      | error e => exact hr
      | ok devicemgmt =>
        rw [ends_ok, wp_bind]
        refine wp_mono (fun r trace s hr => ?_) (preserves_fromCapabilities trace s hr)
        cases r with
        | ok _ => exact hr.1
        | error e => exact hr.1
  | createOnvifService name portType readTimeout =>
    intro trace s h
    rw [perform, wp_bind]
    refine wp_mono (fun r trace s hr => ?_)
      ((lifeOutline C name portType).wp_createOnvifService h readTimeout)
    cases r with
    | ok sid => exact hr.1
    | error e => exact hr

/-- The consumer's calls one after the other, whatever they return or raise. -/
def session (C : CameraConfig) : List CameraOp → CameraCoro Unit :=
  forEach fun op => attempt (perform C op) >>= fun _ => pure ()

/-- **Every service lives once**: over any number of the consumer's calls, a service is set up
before it is used, set up and closed at most once, never used after it was closed, nor set up while
another service of its binding key is ready; the services registered in the end are those that are
ready, and they are open. -/
theorem services_live_once (C : CameraConfig) (ops : List CameraOp) (w : CameraWorld) (n : ℕ)
    (now : ℤ) (wsdlDirFiles : Dict String (Option (List String))) (pathIsfile : String → Bool)
    (sessionRaises : Option Exc)
    (hsame : ∀ i c s, (w i c s).2.services = s.services ∧ (w i c s).2.constructed = s.constructed)
    (hclose : ∀ i sid s, (w i (.close sid) s).1 = .ok ()) :
    let run := (session C ops).exec w n (newCamera now wsdlDirFiles pathIsfile sessionRaises)
    Runs.Lawful Permitted run.trace ∧
      (∀ sid, Ready run.trace sid ↔ ∃ key, run.state.services.get? key = some sid) ∧
      ∀ key sid, run.state.services.get? key = some sid → run.state.isClosed sid = false := by
  have hempty : Lives [] (newCamera now wsdlDirFiles pathIsfile sessionRaises) := by
    refine ⟨⟨Runs.lawful_nil _, fun _ hv => absurd hv List.not_mem_nil, ?_⟩, fun i => ?_, ?_⟩
    · rintro key sid ⟨⟩
    · constructor
      · rintro ⟨⟨v, hv, -⟩, -⟩
        exact absurd hv List.not_mem_nil
      · rintro ⟨key, ⟨⟩⟩
    · rintro key sid ⟨⟩
  have hsession : Preserves (recording Alone) Lives (session C ops) :=
    Preserves.forEach
      (fun op => .bind (.attempt (preserves_perform_lives op)) fun _ => .pure ()) ops
  have hpost := wp_exec_recording (w := w) (n := n) (hsession [] _ hempty) fun v hv => ?_
  · exact ⟨hpost.lawful, hpost.ready, hpost.opened⟩
  · obtain ⟨i, hi⟩ := exec_answered hv
    have hi' := hsame i v.call v.before
    rw [hi] at hi'
    refine ⟨hi'.1, hi'.2, fun sid hcall => ?_⟩
    obtain ⟨c, before, answer, after⟩ := v
    obtain rfl : c = .close sid := hcall
    exact ⟨(), (congrArg Prod.fst hi).symm.trans (hclose i sid before)⟩

/-- A device whose clock can be read and which has a media service. -/
def clockedDevice : CameraWorld :=
  deviceAlone fun
    | .listWsdlDir _ => .ok (some ["devicemgmt.wsdl", "media.wsdl"])
    | .close _ | .setup _ => .ok ()
    | .getSystemDateAndTime _ _ =>
      .ok ⟨some ⟨some ⟨some 2024, some 2, some 29⟩, some ⟨some 12, some 0, some 0⟩⟩⟩
    | .getServices _ => .ok (some [⟨some (some "http://www.onvif.org/ver10/media/wsdl"),
        some (some "http://192.168.0.2/onvif/media")⟩])
    | _ => .error .cancelledError

/-- The device service is replaced once, and the media service created after it. -/
theorem services_live_once_media :
    let run := (session { localConfig with adjustTime := true }
      [.updateXaddrs, .createOnvifService "media" none none]).exec clockedDevice 0
        (newCamera 63000000000000000 Dict.empty (fun _ => false) none)
    Runs.Lawful Permitted run.trace ∧
      (∀ sid, Ready run.trace sid ↔ ∃ key, run.state.services.get? key = some sid) ∧
      ∀ key sid, run.state.services.get? key = some sid → run.state.isClosed sid = false :=
  services_live_once _ _ clockedDevice 0 _ _ _ _ (fun _ _ _ => ⟨rfl, rfl⟩) fun _ _ _ => rfl

end ServiceLives

end ONVIFCamera

end Onvif
