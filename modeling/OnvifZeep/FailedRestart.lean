/-
Restarts that fail, and what becomes of the renewal loop.

When a Renew fails, the task calls `_start()` again, which replaces the subscription of the
manager: the service registered for it is closed before there is a new one.  If the restart
fails in between, the manager is left with a closed session, which the `finally` block takes
for a session the consumer closed.

* **`Unprovoked`** — what others may do meanwhile: anything but closing a session of the
  manager's subscription, removing its registration or shutting the manager down;
* **`restart_rearms_iff`** — the task leaves a live timer exactly when no replacement fails once
  the present subscription is closed.
-/
import OnvifZeep.ManagerTasks
import OnvifZeep.Registry
import OnvifZeep.Managers

namespace Onvif

open Coro BaseManager ONVIFCamera

namespace FailedRestart

variable {C : CameraConfig} {key : BindingKey} {sid i : ServiceId} {v : ONVIFService}
  {s s' : ONVIFCamera} {m m' m'' : CameraManager} {trace trace' : List ManagerEvent}

/-! ### Sessions -/

/-- The service was constructed for the key and its session is open. -/
def OpenFor (key : BindingKey) (sid : ServiceId) (s : ONVIFCamera) : Prop :=
  ∃ v, s.service? sid = some v ∧ v.bindingKey = key ∧ v.sessionClosed = false

/-- The session of the present subscription is closed. -/
def SubscriptionClosed (m : CameraManager) : Prop :=
  ∃ sid, m.held.subscription = some sid ∧ m.held.device.isClosed sid

/-- What others do to the manager and its camera while the task is suspended. -/
structure Unprovoked (key : BindingKey) (m m' : CameraManager) : Prop where
  shutdown : m'.shutdown = m.shutdown
  keeps : Extends m.held.device m'.held.device
  open_ : ∀ sid v, m.held.device.service? sid = some v → v.bindingKey = key →
    m'.held.device.service? sid = some v
  registered : Registered m.held.device → Registered m'.held.device
  -- a new entry or a new subscription has an open session
  entry : ∀ sid, m'.held.device.services.get? key = some sid →
    m.held.device.services.get? key = some sid ∨ OpenFor key sid m'.held.device
  subscription : m'.held.subscription = m.held.subscription ∨
    ∃ sid, m'.held.subscription = some sid ∧ OpenFor key sid m'.held.device

/-- A service of the package's `events.wsdl` can be constructed. -/
def CanConstruct (C : CameraConfig) (s : ONVIFCamera) : Prop :=
  s.sessionRaises = none ∧
    s.wsdlExists (splitPath (joinPath C.wsdlDir "events.wsdl")).1
      (splitPath (joinPath C.wsdlDir "events.wsdl")).2 (joinPath C.wsdlDir "events.wsdl")

/-- The entry of a closed service can be replaced. -/
def CanReplace (C : CameraConfig) (key : BindingKey) (s : ONVIFCamera) : Prop :=
  (s.services.get? key).isSome ∧ CanConstruct C s

/-- No replacement fails here that finds the present subscription closed: closing succeeds and
a new service can be constructed, and setting it up succeeds. -/
def ReplacementSucceeds (C : CameraConfig) (key : BindingKey) (e : ManagerEvent) : Prop :=
  match e with
  | ⟨.start (.close _), _, r, after⟩ =>
    SubscriptionClosed after → r.isOk ∧ CanReplace C key after.held.device
  | ⟨.start (.setup _), _, r, after⟩ => SubscriptionClosed after → r.isOk
  | _ => True

instance (m : CameraManager) : Decidable (SubscriptionClosed m) :=
  decidable_of_iff (m.held.subscription.any m.held.device.isClosed = true) (by
    rw [SubscriptionClosed]
    cases m.held.subscription with
    | none => simp
    | some sid => simp)

instance (C : CameraConfig) (s : ONVIFCamera) : Decidable (CanConstruct C s) :=
  inferInstanceAs (Decidable (_ ∧ _))

instance (C : CameraConfig) (key : BindingKey) (s : ONVIFCamera) :
    Decidable (CanReplace C key s) := inferInstanceAs (Decidable (_ ∧ _))

instance (C : CameraConfig) (key : BindingKey) :
    (e : ManagerEvent) → Decidable (ReplacementSucceeds C key e)
  | ⟨.start (.close _), _, _, _⟩ => inferInstanceAs (Decidable (_ → _))
  | ⟨.start (.setup _), _, _, _⟩ => inferInstanceAs (Decidable (_ → _))
  | ⟨.start (.listWsdlDir _), _, _, _⟩ | ⟨.start (.getSystemDateAndTime _ _), _, _, _⟩
  | ⟨.start (.getServices _), _, _, _⟩ | ⟨.start (.getCapabilities _), _, _, _⟩
  | ⟨.start (.createPullPointSubscription _ _), _, _, _⟩ | ⟨.start (.subscribe _ _ _), _, _, _⟩
  | ⟨.start (.renew _ _), _, _, _⟩ | ⟨.begin, _, _, _⟩ | ⟨.renew _ _, _, _, _⟩
  | ⟨.unsubscribe _, _, _, _⟩ | ⟨.sleep _, _, _, _⟩ => isTrue trivial

/-! ### Assertions -/

section Assertions

/-- What is known all along; `arms` says that others arm no timers. -/
structure Standing (quiet : Prop) (m : CameraManager) : Prop where
  shutdown : m.shutdown = false
  registered : Registered m.held.device
  noLiveTimer : quiet → m.NoLiveTimer

variable (C : CameraConfig) (key : BindingKey) (quiet : Prop)

/-- Every replacement so far succeeded. -/
def Good (trace : List ManagerEvent) : Prop := ∀ e ∈ trace, ReplacementSucceeds C key e

/-- The present subscription, if any, is open. -/
structure Attached (trace : List ManagerEvent) (m : CameraManager) : Prop where
  good : Good C key trace
  standing : Standing quiet m
  subscription : ∀ sid, m.held.subscription = some sid → OpenFor key sid m.held.device

/-- And so is the service registered for it. -/
structure Alive (trace : List ManagerEvent) (m : CameraManager) : Prop
    extends Attached C key quiet trace m where
  entry : ∀ sid, m.held.device.services.get? key = some sid → OpenFor key sid m.held.device

/-- The present subscription is closed, and whether it can be replaced depends on `P`. -/
structure Detached (P : Prop) (trace : List ManagerEvent) (m : CameraManager) : Prop where
  good : Good C key trace ↔ P
  standing : Standing quiet m
  closed : SubscriptionClosed m

/-- There is a service for the new subscription. -/
structure Replaced (sid : ServiceId) (trace : List ManagerEvent) (m : CameraManager) : Prop where
  good : Good C key trace
  standing : Standing quiet m
  open_ : OpenFor key sid m.held.device
  entry : m.held.device.services.get? key = some sid

/-- How the task may end: with the session open, or after a replacement failed. -/
inductive Ended (trace : List ManagerEvent) (m : CameraManager) : Prop where
  | fine (good : Good C key trace) (standing : Standing quiet m) (open_ : ¬SubscriptionClosed m)
  | lost (bad : ¬Good C key trace) (standing : Standing quiet m) (closed : SubscriptionClosed m)

end Assertions

variable {quiet : Prop}

theorem OpenFor.not_isClosed (h : OpenFor key sid s) : s.isClosed sid = false := by
  obtain ⟨v, hv, -, hopen⟩ := h
  rw [isClosed, hv]
  exact hopen

theorem OpenFor.of_unprovoked (h : OpenFor key sid m.held.device) (hm : Unprovoked key m m') :
    OpenFor key sid m'.held.device := by
  obtain ⟨v, hv, hkey, hopen⟩ := h
  exact ⟨v, hm.open_ sid v hv hkey, hkey, hopen⟩

theorem Attached.not_closed (h : Attached C key quiet trace m) : ¬SubscriptionClosed m := by
  rintro ⟨sid, hsid, hclosed⟩
  rw [(h.subscription sid hsid).not_isClosed] at hclosed
  cases hclosed

theorem Attached.ended (h : Attached C key quiet trace m) : Ended C key quiet trace m :=
  .fine h.good h.standing h.not_closed

theorem Detached.lost {P : Prop} (h : Detached C key quiet P trace m) (hP : ¬P) :
    Ended C key quiet trace m := .lost (fun hgood => hP (h.good.mp hgood)) h.standing h.closed

theorem Good.snoc {e : ManagerEvent} : Good C key (trace ++ [e]) ↔
    Good C key trace ∧ ReplacementSucceeds C key e := by
  constructor
  · intro h
    exact ⟨fun e' he' => h e' (List.mem_append_left _ he'),
      h e (List.mem_append_right _ (List.mem_singleton_self e))⟩
  · rintro ⟨h, he⟩ e' he'
    rcases List.mem_append.mp he' with he' | he'
    · exact h e' he'
    · rw [List.mem_singleton.mp he']
      exact he

/-- Nothing failed where the session is open. -/
theorem replacementSucceeds_of_open (c : (managerInterface cameraInterface).Call)
    (before : CameraManager) (r : Except Exc ((managerInterface cameraInterface).Answer c))
    {after : CameraManager} (h : ¬SubscriptionClosed after) :
    ReplacementSucceeds C key ⟨c, before, r, after⟩ := by
  cases c with
  | start c =>
    cases c with
    | close sid => exact fun hclosed => absurd hclosed h
    | setup sid => exact fun hclosed => absurd hclosed h
    | _ => exact trivial
  | _ => exact trivial

/-! ### The contract -/

/-- Others keep to `Unprovoked`, and arm no timer if `quiet` says so. -/
def restartContract (key : BindingKey) (quiet : Prop) :
    Contract (managerInterface cameraInterface) Exc CameraManager (List ManagerEvent) where
  suspend _ _ _ := True
  resume trace c m r trace' m' := trace' = trace ++ [⟨c, m, r, m'⟩] ∧ Unprovoked key m m' ∧
    (quiet → m.NoLiveTimer → m'.NoLiveTimer)

variable {c : (managerInterface cameraInterface).Call}
  {r : Except Exc ((managerInterface cameraInterface).Answer c)}

theorem Standing.resume (h : Standing quiet m)
    (hr : (restartContract key quiet).resume trace c m r trace' m') : Standing quiet m' := by
  obtain ⟨-, hm, htimers⟩ := hr
  exact ⟨hm.shutdown.trans h.shutdown, hm.registered h.registered,
    fun hquiet => htimers hquiet (h.noLiveTimer hquiet)⟩

theorem Alive.resume (h : Alive C key quiet trace m)
    (hr : (restartContract key quiet).resume trace c m r trace' m') :
    Alive C key quiet trace' m' := by
  have hstanding := h.standing.resume hr
  obtain ⟨rfl, hm, -⟩ := hr
  have hsubscription : ∀ sid, m'.held.subscription = some sid →
      OpenFor key sid m'.held.device := by
    intro sid hsid
    rcases hm.subscription with hsame | ⟨sid', hsid', hopen⟩
    · exact (h.subscription sid (hsame ▸ hsid)).of_unprovoked hm
    · rw [hsid'] at hsid
      rw [← Option.some.inj hsid]
      exact hopen
  have hopen : ¬SubscriptionClosed m' := by
    rintro ⟨sid, hsid, hclosed⟩
    rw [(hsubscription sid hsid).not_isClosed] at hclosed
    cases hclosed
  refine ⟨⟨Good.snoc.mpr ⟨h.good, replacementSucceeds_of_open _ _ _ hopen⟩, hstanding,
    hsubscription⟩, fun sid hsid => ?_⟩
  rcases hm.entry sid hsid with hentry | hopen
  · exact (h.entry sid hentry).of_unprovoked hm
  · exact hopen

/-! ### The camera as part of the manager -/

variable {g g' : (List ManagerEvent × CameraManager) × Held ONVIFCamera}

theorem Standing.view (h : Standing quiet (view g s)) (hs : Registered s') :
    Standing quiet (Onvif.view g s') := ⟨h.shutdown, hs, h.noLiveTimer⟩

/-- A change of the camera that keeps the sessions of the key open. -/
theorem Alive.change (h : Alive C key quiet trace (view g s)) (hs' : Registered s')
    (hopen : ∀ sid, OpenFor key sid s → OpenFor key sid s')
    (hentry : ∀ sid, s'.services.get? key = some sid → s.services.get? key = some sid) :
    Alive C key quiet trace (view g s') where
  good := h.good
  standing := h.standing.view hs'
  subscription sid hsid := hopen sid (h.subscription sid hsid)
  entry sid hsid := hopen sid (h.entry sid (hentry sid hsid))

theorem OpenFor.addService (h : OpenFor key sid s) (u : ONVIFService) :
    OpenFor key sid (s.addService u) := by
  obtain ⟨v, hv, hkey, hopen⟩ := h
  exact ⟨v, service?_addService_of_some hv u, hkey, hopen⟩

theorem OpenFor.markClosed (h : OpenFor key sid s) (hne : i ≠ sid) :
    OpenFor key sid (s.markClosed i) := by
  obtain ⟨v, hv, hkey, hopen⟩ := h
  refine ⟨v, ?_, hkey, hopen⟩
  rw [service?_markClosed, if_neg hne]
  exact hv

/-- The service closed is not one of the subscription's key. -/
theorem Alive.markClosed (h : Alive C key quiet trace (view g s)) {key' : BindingKey}
    (hne : key' ≠ key) (hi : s.services.get? key' = some i) :
    Alive C key quiet trace (view g (s.markClosed i)) := by
  refine h.change (h.standing.registered.of_extends (.markClosed i) rfl) (fun sid ho => ?_)
    fun _ he => he
  refine ho.markClosed fun heq => ?_
  obtain ⟨u, hu, hkey, -⟩ := ho
  obtain ⟨u', hu', hkey'⟩ := h.standing.registered _ _ hi
  subst heq
  obtain rfl := Option.some.inj (hu.symm.trans hu')
  exact hne (hkey'.symm.trans hkey)

theorem Alive.addService (h : Alive C key quiet trace (view g s)) (u : ONVIFService) :
    Alive C key quiet trace (view g (s.addService u)) :=
  h.change (h.standing.registered.of_extends (.addService u) rfl) (fun _ ho => ho.addService u)
    fun _ he => he

theorem Alive.cacheWsdlDir (h : Alive C key quiet trace (view g s)) (wsdlDir : String)
    (files : Option (List String)) :
    Alive C key quiet trace (view g (s.cacheWsdlDir wsdlDir files)) :=
  h.change (h.standing.registered.of_extends (.of_eq rfl) rfl) (fun _ ho => ho) fun _ he => he

/-- **Creating a service of another key** leaves the subscription open. -/
def otherOutline (C : CameraConfig) (quiet : Prop) {name : String} {portType : Option String}
    (hne : (lower name, portType) ≠ key) :
    CreationOutline (deviceContract (restartContract key quiet)) C name portType where
  idle g s := Alive C key quiet g.1.1 (view g s)
  closed g s := Alive C key quiet g.1.1 (view g s)
  vacant g s := Alive C key quiet g.1.1 (view g s)
  returned _ g s := Alive C key quiet g.1.1 (view g s)
  failed _ g s := Ended C key quiet g.1.1 (view g s)
  listed h := by
    refine ⟨trivial, fun r g' s' hr => ?_⟩
    have h' := h.resume (device_resume hr)
    cases r with
    | ok files => exact h'.cacheWsdlDir _ _
    | error e => exact h'.ended
  undefined h _ := h.ended
  reused h _ := h
  absent h _ := h
  closing h hexisting := by
    refine ⟨trivial, fun r g' s' hr => ?_⟩
    obtain ⟨hi, -⟩ := existingService_eq_some.mp hexisting
    have h' := (h.markClosed hne hi).resume (device_resume hr)
    cases r with
    | ok _ => exact h'
    | error e => exact h'.ended
  popped h _ := h.change (h.standing.registered.unregister _) (fun _ ho => ho) fun sid hsid => by
    rwa [ONVIFCamera.unregister, Dict.get?_erase_of_ne _ (Ne.symm hne)] at hsid
  notFound h _ := h.ended
  built h _ hservice := by
    refine ⟨trivial, fun r g' s' hr => ?_⟩
    obtain ⟨-, -, hkey, -⟩ := newService_spec hservice
    have h' := (h.addService _).resume (device_resume hr)
    obtain ⟨-, hm, -⟩ := device_resume hr
    cases r with
    | error e => exact h'.ended
    | ok _ =>
      obtain ⟨v', hv', hkey'⟩ : ∃ v', s'.service? _ = some v' ∧ v'.bindingKey = _ :=
        hm.keeps.exists_service? (service?_addService_self _ _)
      refine h'.change (h'.standing.registered.register hv' (hkey'.trans hkey)) (fun _ ho => ho)
        fun sid hsid => ?_
      rwa [ONVIFCamera.register, Dict.get?_insert_of_ne _ _ (Ne.symm hne)] at hsid
  notBuilt h _ _ := h.ended

/-! ### Replacing the subscription -/

theorem Detached.congr {P P' : Prop} (h : Detached C key quiet P trace m) (hP : P ↔ P') :
    Detached C key quiet P' trace m := ⟨h.good.trans hP, h.standing, h.closed⟩

/-- **After closing** the registered service: the present subscription is still open, or it was
the one closed. -/
theorem Alive.afterClose (h : Alive C key quiet g.1.1 (view g s))
    (hi : s.services.get? key = some i) {r : Except Exc Unit}
    (hr : (restartContract key quiet).resume g.1.1 (.start (.close i)) (view g (s.markClosed i)) r
      g'.1.1 (view g' s')) :
    Attached C key quiet g'.1.1 (view g' s') ∨
      Detached C key quiet (r.isOk ∧ CanReplace C key s') g'.1.1 (view g' s') := by
  have hmarked : Standing quiet (view g (s.markClosed i)) :=
    h.standing.view (h.standing.registered.of_extends (.markClosed i) rfl)
  have hstanding := hmarked.resume hr
  obtain ⟨htrace, hm, -⟩ := hr
  by_cases hclosed : SubscriptionClosed (view g' s')
  · refine Or.inr ⟨?_, hstanding, hclosed⟩
    rw [htrace, Good.snoc]
    exact ⟨fun hgood => hgood.2 hclosed, fun hreplaced => ⟨h.good, fun _ => hreplaced⟩⟩
  · refine Or.inl ⟨?_, hstanding, fun sid hsid => ?_⟩
    · rw [htrace]
      exact Good.snoc.mpr ⟨h.good, replacementSucceeds_of_open _ _ _ hclosed⟩
    · rcases hm.subscription with hsame | ⟨sid', hsid', hopen⟩
      · have hbefore : (view g s).held.subscription = some sid := hsame.symm.trans hsid
        refine ((h.subscription sid hbefore).markClosed fun heq => ?_).of_unprovoked hm
        obtain ⟨v, hv, -⟩ := h.entry i hi
        subst heq
        exact hclosed ⟨i, hsid, hm.keeps.isClosed (isClosed_markClosed hv)⟩
      · rw [hsid'] at hsid
        rw [← Option.some.inj hsid]
        exact hopen

/-- **After setting up** a new service. -/
theorem replaced_afterSetup (hgood : Good C key g.1.1) (hstanding : Standing quiet (view g s))
    (hkey : v.bindingKey = key) (hopen : v.sessionClosed = false) {r : Except Exc Unit}
    (hr : (restartContract key quiet).resume g.1.1 (.start (.setup s.constructed.length))
      (view g (s.addService v)) r g'.1.1 (view g' s')) :
    (r.isOk → Replaced C key quiet s.constructed.length g'.1.1
        (view g' (s'.register key s.constructed.length))) ∧
      (¬r.isOk → Ended C key quiet g'.1.1 (view g' s')) := by
  have hadded : Standing quiet (view g (s.addService v)) :=
    hstanding.view (hstanding.registered.of_extends (.addService v) rfl)
  have hstanding' := hadded.resume hr
  obtain ⟨htrace, hm, -⟩ := hr
  have hself : s'.service? s.constructed.length = some v :=
    hm.open_ _ _ (service?_addService_self v s) hkey
  constructor
  · intro hr
    refine ⟨?_, hstanding'.view (hstanding'.registered.register hself hkey), ⟨v, hself, hkey, hopen⟩,
      Dict.get?_insert_self _ _ _⟩
    rw [htrace]
    exact Good.snoc.mpr ⟨hgood, fun _ => hr⟩
  · intro hr
    by_cases hclosed : SubscriptionClosed (view g' s')
    · refine .lost (fun hbad => ?_) hstanding' hclosed
      rw [htrace] at hbad
      exact hr ((Good.snoc.mp hbad).2 hclosed)
    · refine .fine ?_ hstanding' hclosed
      rw [htrace]
      exact Good.snoc.mpr ⟨hgood, replacementSucceeds_of_open _ _ _ hclosed⟩

theorem defined_subscription {portType : Option String} {definition : String × String × String}
    (h : Defined C "subscription" portType definition) :
    definition.2.1 = joinPath C.wsdlDir "events.wsdl" := by
  obtain ⟨s, hs⟩ := h
  obtain ⟨d, hd, hwsdl⟩ := getDefinition_wsdl hs
  have hevents : (lookupService (lower "subscription")).map (·.wsdl) = some "events.wsdl" := by
    decide +kernel
  rw [hd] at hevents
  rw [hwsdl, show d.wsdl = "events.wsdl" from Option.some.inj hevents]

theorem canConstruct_iff {portType : Option String} {definition : String × String × String}
    (h : Defined C "subscription" portType definition) {readTimeout : Option ℕ} :
    CanConstruct C s ↔ ∃ v, s.newService C definition.1 definition.2.1 definition.2.2 key readTimeout
      = .ok v := by
  rw [newService_isOk_iff, defined_subscription h]
  exact Iff.rfl

/-- **Creating the service of the subscription.** -/
def subscriptionOutline (C : CameraConfig) (quiet : Prop) {portType : Option String}
    (hkey : (lower "subscription", portType) = key) :
    CreationOutline (deviceContract (restartContract key quiet)) C "subscription" portType where
  idle g s := Alive C key quiet g.1.1 (view g s)
  closed g s := Attached C key quiet g.1.1 (view g s) ∨
    Detached C key quiet (CanReplace C key s) g.1.1 (view g s)
  vacant g s := Attached C key quiet g.1.1 (view g s) ∨
    Detached C key quiet (CanConstruct C s) g.1.1 (view g s)
  returned sid g s := Replaced C key quiet sid g.1.1 (view g s)
  failed _ g s := Ended C key quiet g.1.1 (view g s)
  listed h := by
    refine ⟨trivial, fun r g' s' hr => ?_⟩
    have h' := h.resume (device_resume hr)
    cases r with
    | ok files => exact h'.cacheWsdlDir _ _
    | error e => exact h'.ended
  undefined h _ := h.ended
  reused h hexisting := by
    obtain ⟨hentry, -⟩ := existingService_eq_some.mp hexisting
    rw [hkey] at hentry
    exact ⟨h.good, h.standing, h.entry _ hentry, hentry⟩
  absent h _ := Or.inl h.toAttached
  closing h hexisting := by
    refine ⟨trivial, fun r g' s' hr => ?_⟩
    obtain ⟨hentry, -⟩ := existingService_eq_some.mp hexisting
    rw [hkey] at hentry
    have hclosed := h.afterClose hentry (device_resume hr)
    cases r with
    | ok _ => exact hclosed.imp_right fun hdetached => hdetached.congr (and_iff_right rfl)
    | error e =>
      rcases hclosed with hattached | hdetached
      · exact hattached.ended
      · exact hdetached.lost fun hok => absurd hok.1 (by simp [Except.isOk, Except.toBool])
  popped h hentry := by
    rw [hkey] at hentry ⊢
    rcases h with hattached | hdetached
    · exact Or.inl ⟨hattached.good,
        hattached.standing.view (hattached.standing.registered.unregister key),
        hattached.subscription⟩
    · have hreplace := hdetached.congr (and_iff_right (by rw [hentry]; rfl))
      exact Or.inr ⟨hreplace.good,
        hreplace.standing.view (hreplace.standing.registered.unregister key), hreplace.closed⟩
  notFound h hentry := by
    rw [hkey] at hentry
    rcases h with hattached | hdetached
    · exact hattached.ended
    · refine hdetached.lost fun hreplace => ?_
      exact absurd hreplace.1 (by rw [hentry]; simp)
  built h hdefined hservice := by
    refine ⟨trivial, fun r g' s' hr => ?_⟩
    obtain ⟨-, -, hbinding, hopen⟩ := newService_spec hservice
    have hconstruct := (canConstruct_iff hdefined).mpr ⟨_, hservice⟩
    have hready := h.elim (fun hattached => And.intro hattached.good hattached.standing)
      fun hdetached => ⟨hdetached.good.mpr hconstruct, hdetached.standing⟩
    have hsetup := replaced_afterSetup hready.1 hready.2 (hbinding.trans hkey) hopen
      (device_resume hr)
    rw [hkey]
    cases r with
    | ok _ => exact hsetup.1 rfl
    | error e => exact hsetup.2 (by simp [Except.isOk, Except.toBool])
  notBuilt h hdefined hservice := by
    rcases h with hattached | hdetached
    · exact hattached.ended
    · refine hdetached.lost fun hconstruct => ?_
      obtain ⟨v, hv⟩ := (canConstruct_iff hdefined).mp hconstruct
      rw [hservice] at hv
      cases hv

/-! ### `_start()` -/

section Start

variable {α β : Type}

/-- `x`, begun with the subscription open, returns with it open or raises as the task may. -/
def KeepsAlive (C : CameraConfig) (key : BindingKey) (quiet : Prop) (x : StartCoro α) : Prop :=
  ∀ g h, Alive C key quiet g.1 (heldView g h) →
    wp (startContract (restartContract key quiet))
      (Ends (fun _ g h => Alive C key quiet g.1 (heldView g h))
        fun _ g h => Ended C key quiet g.1 (heldView g h)) x g h

theorem KeepsAlive.bind {x : StartCoro α} {f : α → StartCoro β} (hx : KeepsAlive C key quiet x)
    (hf : ∀ a, KeepsAlive C key quiet (f a)) : KeepsAlive C key quiet (x >>= f) := by
  intro g h halive
  rw [wp_bind]
  refine wp_mono (fun r g h hr => ?_) (hx g h halive)
  cases r with
  | ok a => exact hf a g h hr
  | error e => exact hr

theorem KeepsAlive.pure (a : α) : KeepsAlive C key quiet (pure a : StartCoro α) :=
  fun _ _ halive => halive

theorem KeepsAlive.raise (e : Exc) : KeepsAlive C key quiet (.raise e : StartCoro α) :=
  fun _ _ halive => halive.ended

theorem KeepsAlive.getState : KeepsAlive C key quiet (getState : StartCoro (Held ONVIFCamera)) :=
  fun _ _ halive => halive

theorem KeepsAlive.ofExcept (r : Except Exc α) :
    KeepsAlive C key quiet (ofExcept r : StartCoro α) := by
  intro g h halive
  refine (wp_ofExcept r).mpr ?_
  cases r with
  | ok a => exact halive
  | error e => exact halive.ended

theorem KeepsAlive.setService (sid : ServiceId) :
    KeepsAlive C key quiet (modifyState (Held.setService sid)) := fun _ _ halive =>
  ⟨⟨halive.good, ⟨halive.standing.shutdown, halive.standing.registered,
    halive.standing.noLiveTimer⟩, halive.subscription⟩, halive.entry⟩

theorem KeepsAlive.call (c : CameraCall) :
    KeepsAlive C key quiet (call (I := cameraInterface) c : StartCoro _) := by
  intro g h halive
  refine (wp_call _).mpr ⟨trivial, ?_⟩
  intro r g' h' hr
  have halive' := halive.resume (start_resume hr)
  cases r with
  | ok a => exact halive'
  | error e => exact halive'.ended

/-- A coroutine of the camera that keeps the subscription open. -/
theorem keepsAlive_onDevice {x : CameraCoro α}
    (hx : ∀ g s, Alive C key quiet g.1.1 (view g s) →
      wp (deviceContract (restartContract key quiet))
        (Ends (fun _ g s => Alive C key quiet g.1.1 (view g s))
          fun _ g s => Ended C key quiet g.1.1 (view g s)) x g s) :
    KeepsAlive C key quiet (onDevice x) := by
  intro g h halive
  refine (wp_zoom x h).mpr (wp_mono (fun r g s hr => ?_) (hx (g, h) h.device halive))
  cases r with
  | ok a => exact hr
  | error e => exact hr

theorem keepsAlive_modifyDevice {f : ONVIFCamera → ONVIFCamera}
    (hservices : ∀ s, (f s).services = s.services)
    (hconstructed : ∀ s, (f s).constructed = s.constructed) :
    ∀ g s, Alive C key quiet g.1.1 (view g s) →
      wp (deviceContract (restartContract key quiet))
        (Ends (fun _ g s => Alive C key quiet g.1.1 (view g s))
          fun _ g s => Ended C key quiet g.1.1 (view g s)) (modifyState f) g s := by
  intro g s halive
  have hopen : ∀ sid, OpenFor key sid s → OpenFor key sid (f s) := by
    rintro sid ⟨v, hv, hopen⟩
    refine ⟨v, ?_, hopen⟩
    rw [service?, hconstructed]
    exact hv
  refine halive.change ?_ hopen fun sid hsid => ?_
  · exact halive.standing.registered.of_extends (.of_eq (hconstructed s)) (hservices s)
  · rwa [hservices] at hsid

theorem keepsAlive_createOther {name : String} {portType : Option String}
    (hne : (lower name, portType) ≠ key) (readTimeout : Option ℕ) :
    KeepsAlive C key quiet (onDevice (createOnvifService C name portType readTimeout)) := by
  refine keepsAlive_onDevice fun g s halive => ?_
  refine wp_mono (fun r g s hr => ?_)
    ((otherOutline C quiet hne).wp_createOnvifService halive readTimeout)
  cases r with
  | ok sid => exact hr
  | error e => exact hr

/-- **The new subscription** takes the place of the old one. -/
theorem keepsAlive_createSubscription {portType : Option String}
    (hkey : (lower "subscription", portType) = key) (readTimeout : Option ℕ)
    {f : Unit → StartCoro α} (hf : KeepsAlive C key quiet (f ())) :
    KeepsAlive C key quiet (onDevice (createOnvifService C "subscription" portType readTimeout) >>=
      fun sid => modifyState (Held.setSubscription sid) >>= f) := by
  intro g h halive
  rw [wp_bind]
  refine (wp_zoom _ h).mpr (wp_mono (fun r g s hr => ?_)
    ((subscriptionOutline C quiet hkey).wp_createOnvifService (g := (g, h)) halive readTimeout))
  cases r with
  | error e => exact hr
  | ok sid =>
    obtain ⟨hgood, hstanding, hopen, hentry⟩ := hr
    rw [ends_ok, wp_bind, wp_modifyState, ends_ok]
    refine hf _ _ ⟨⟨hgood, ⟨hstanding.shutdown, hstanding.registered, hstanding.noLiveTimer⟩,
      fun i hi => ?_⟩, fun i hi => ?_⟩
    · obtain rfl := Option.some.inj hi
      exact hopen
    · obtain rfl := Option.some.inj (hentry.symm.trans hi)
      exact hopen

theorem keepsAlive_nextTerminationTime (interval : TimeDelta) :
    KeepsAlive C key quiet (nextTerminationTime interval) :=
  .bind .getState fun _ => .ofExcept _

theorem keepsAlive_storeAddress (portType : String) (address : Option String) :
    KeepsAlive C key quiet (storeAddress C portType address) :=
  .bind (.ofExcept _) fun _ => keepsAlive_onDevice
    (keepsAlive_modifyDevice (fun _ => rfl) fun _ => rfl)

theorem keepsAlive_hasBrokenRelativeTime (interval : TimeDelta)
    (currentTime terminationTime : Option DateTime) :
    KeepsAlive C key quiet (onDevice (hasBrokenRelativeTime interval currentTime terminationTime)) := by
  refine keepsAlive_onDevice fun g s halive => ?_
  rw [hasBrokenRelativeTime]
  by_cases hbroken : brokenRelativeTime interval currentTime terminationTime = true
  · rw [if_pos hbroken, wp_bind]
    have hmodify := keepsAlive_modifyDevice (C := C)
      (f := fun s => { s with hasBrokenRelativeTimestamps := true }) (fun _ => rfl) (fun _ => rfl)
      g s halive
    exact hmodify
  · rw [if_neg hbroken]
    exact halive

theorem keepsAlive_scheduleRenewal (interval : TimeDelta) (result : SubscriptionTimes) :
    KeepsAlive C key quiet (scheduleRenewal interval result) := by
  have hlast : ∀ result : SubscriptionTimes, KeepsAlive C key quiet
      ((getState : StartCoro (Held ONVIFCamera)) >>= fun h =>
        ofExcept (calculateNextRenewalCallAt interval h.loopTime result)) :=
    fun result => .bind .getState fun _ => .ofExcept _
  refine .bind (keepsAlive_hasBrokenRelativeTime _ _ _) fun broken => .bind .getState fun h => ?_
  by_cases hbroken : broken = true
  · simp only [hbroken, if_true]
    cases h.subscription with
    | some sid =>
      exact .bind (keepsAlive_nextTerminationTime interval) fun _ =>
        .bind (.call _) fun result => hlast result
    | none => exact .bind (.raise _) fun result => hlast result
  · rw [if_neg hbroken]
    exact .bind (.pure result) fun result => hlast result

/-- **`_start()`** of either manager. -/
theorem keepsAlive_start (interval : TimeDelta) (k : ManagerKind) :
    KeepsAlive C k.subscriptionKey quiet (k.start C interval) := by
  have hlower : lower "subscription" = "subscription" := by decide +kernel
  have hevents : lower "events" ≠ "subscription" := by decide +kernel
  have hnotification : lower "notification" ≠ "subscription" := by decide +kernel
  have hpullpoint : lower "pullpoint" ≠ "subscription" := by decide +kernel
  have hne : ∀ {name : String} {portType : Option String}, lower name ≠ "subscription" →
      (lower name, portType) ≠ k.subscriptionKey :=
    fun hname heq => hname (congrArg Prod.fst heq)
  cases k with
  | pullPoint =>
    refine .bind (keepsAlive_createOther (hne hevents) _) fun eventsService => ?_
    refine .bind (keepsAlive_nextTerminationTime _) fun time => .bind (.call _) fun result => ?_
    refine .bind (keepsAlive_storeAddress _ _) fun _ => ?_
    refine keepsAlive_createSubscription (by rw [hlower]; rfl) none ?_
    exact .bind (keepsAlive_createOther (hne hpullpoint) _) fun service =>
      .bind (.setService service) fun _ => keepsAlive_scheduleRenewal _ _
  | notification address =>
    refine .bind (keepsAlive_createOther (hne hnotification) _) fun notifyService => ?_
    refine .bind (keepsAlive_nextTerminationTime _) fun time => .bind (.call _) fun result => ?_
    refine .bind (keepsAlive_storeAddress _ _) fun _ => ?_
    refine .bind (keepsAlive_createOther (hne hpullpoint) _) fun service =>
      .bind (.setService service) fun _ => ?_
    exact keepsAlive_createSubscription (by rw [hlower]; rfl) none (keepsAlive_scheduleRenewal _ _)

end Start

/-! ### The renewal task -/

variable {interval : TimeDelta} {k : ManagerKind}

theorem alive_call (c : (managerInterface cameraInterface).Call) :
    Preserves (restartContract key quiet) (Alive C key quiet)
      (call (I := managerInterface cameraInterface) (ε := Exc) c) :=
  .call (fun _ _ _ => trivial) fun _ _ _ _ _ h hr => h.resume hr

theorem alive_renewSubscription :
    Preserves (restartContract key quiet) (Alive C key quiet)
      (renewSubscription (manager C interval k)) :=
  preserves_renewSubscription (fun c _ => alive_call c) fun _ _ h =>
    ⟨⟨h.good, ⟨h.standing.shutdown, h.standing.registered, h.standing.noLiveTimer⟩,
      h.subscription⟩, h.entry⟩

theorem wp_restartSubscription (h : Alive C k.subscriptionKey quiet trace m) :
    wp (restartContract k.subscriptionKey quiet)
      (fun _ => Ended C k.subscriptionKey quiet)
      (restartSubscription (manager C interval k)) trace m := by
  obtain ⟨hheld, hshutdown, -⟩ := cancelRenewals_fields m
  rw [restartSubscription, wp_bind, wp_modifyState, ends_ok]
  have halive : Alive C k.subscriptionKey quiet trace
      { m.cancelRenewals with milestones := m.milestones ++ [.restart] } := by
    refine ⟨⟨h.good, ⟨hshutdown.trans h.standing.shutdown, ?_, fun hquiet => ?_⟩, ?_⟩, ?_⟩
    · exact hheld ▸ h.standing.registered
    · exact (h.standing.noLiveTimer hquiet).cancelRenewals
    · exact hheld ▸ h.subscription
    · exact hheld ▸ h.entry
  refine (wp_zoom _ _).mpr (wp_mono (fun r g s hr => ?_)
    (keepsAlive_start interval k (trace, _) _ halive))
  cases r with
  | ok t => exact hr.ended
  | error e => exact hr

theorem wp_renewOrRestartBody (h : Alive C k.subscriptionKey quiet trace m) :
    wp (restartContract k.subscriptionKey quiet) (fun _ => Ended C k.subscriptionKey quiet)
      (renewOrRestartBody (manager C interval k)) trace m := by
  rw [renewOrRestartBody, wp_bind]
  refine wp_mono (fun r trace m hr => ?_) (alive_renewSubscription trace m h)
  cases r with
  | error e => exact hr.ended
  | ok t =>
    cases t with
    | some t => exact hr.ended
    | none =>
      rw [ends_ok]
      dsimp only
      rw [wp_tryExcept, wp_bind]
      refine wp_mono (fun r trace m hr => ?_) (wp_restartSubscription hr)
      cases r with
      | ok t => exact hr
      | error e =>
        rw [ends_error, ends_error]
        by_cases he : e.oneOf renewErrors = true
        · rw [if_pos he, wp_bind, wp_ofExcept]
          cases stringifyOnvifError e with
          | ok message => exact hr
          | error e' => exact hr
        · rw [if_neg he]
          exact hr

theorem sessionClosed_iff : m.sessionClosed (manager C interval k) = true ↔ SubscriptionClosed m := by
  rw [BaseManager.sessionClosed, SubscriptionClosed]
  cases m.held.subscription with
  | none => simp
  | some sid => simp [manager]

/-- The `finally` block re-arms the timer unless a replacement failed. -/
theorem Ended.rearm (h : Ended C key quiet trace m) (t : Option ℚ) :
    (Good C key trace → ∃ h, (rearm (manager C interval k) t m).isLive h) ∧
      (quiet → (∃ h, (rearm (manager C interval k) t m).isLive h) → Good C key trace) := by
  rw [BaseManager.rearm]
  cases h with
  | fine hgood hstanding hopen =>
    have hsession : m.sessionClosed (manager C interval k) = false :=
      Bool.eq_false_iff.mpr (mt sessionClosed_iff.mp hopen)
    rw [hstanding.shutdown, hsession]
    exact ⟨fun _ => exists_isLive_scheduleSubscriptionRenew m _, fun _ _ => hgood⟩
  | lost hbad hstanding hclosed =>
    rw [sessionClosed_iff.mpr hclosed, if_neg (by simp)]
    refine ⟨fun hgood => (hbad hgood).elim, fun hquiet hlive => ?_⟩
    obtain ⟨t, ht⟩ := hlive
    exact (hstanding.noLiveTimer hquiet t ht).elim

/-- The manager is not shut down, and the sessions of its subscription and of the service
registered for it are open. -/
structure Running (key : BindingKey) (m : CameraManager) : Prop where
  shutdown : m.shutdown = false
  registered : Registered m.held.device
  subscription : ∀ sid, m.held.subscription = some sid → OpenFor key sid m.held.device
  entry : ∀ sid, m.held.device.services.get? key = some sid → OpenFor key sid m.held.device

theorem wp_renewOrRestartSubscription (h : Running k.subscriptionKey m)
    (htimers : quiet → m.NoLiveTimer) :
    wp (restartContract k.subscriptionKey quiet)
      (fun _ trace m => (Good C k.subscriptionKey trace → ∃ h, m.isLive h) ∧
        (quiet → (∃ h, m.isLive h) → Good C k.subscriptionKey trace))
      (renewOrRestartSubscription (manager C interval k)) [] m := by
  have halive : Alive C k.subscriptionKey quiet [] m :=
    ⟨⟨fun _ he => absurd he List.not_mem_nil, ⟨h.shutdown, h.registered, htimers⟩,
      h.subscription⟩, h.entry⟩
  have hsession : m.sessionClosed (manager C interval k) = false :=
    Bool.eq_false_iff.mpr (mt sessionClosed_iff.mp halive.not_closed)
  rw [renewOrRestartSubscription, wp_bind, wp_getState, ends_ok,
    if_neg (by rw [h.shutdown, hsession]; simp), wp_bind, wp_tryFinally]
  refine wp_mono (fun r trace m hr => ?_) (wp_renewOrRestartBody halive)
  rw [wp_modifyState, ends_ok]
  cases r with
  | ok t => exact hr.rearm t
  | error e => exact hr.rearm none

/-- **A failed restart ends the renewal loop only by closing the subscription itself**: the
task leaves a live timer if every replacement that finds the present subscription closed
succeeds, and, where nothing else arms a timer, only then. -/
theorem restart_rearms_iff (C : CameraConfig) (interval : TimeDelta) (k : ManagerKind)
    (w : World (managerInterface cameraInterface) Exc CameraManager)
    (hw : ∀ n c m, Unprovoked k.subscriptionKey m (w n c m).2) (m : CameraManager)
    (hm : Running k.subscriptionKey m) :
    ((∀ e ∈ ((renewOrRestartSubscription (manager C interval k)).exec w 0 m).trace,
        ReplacementSucceeds C k.subscriptionKey e) →
      ∃ h, ((renewOrRestartSubscription (manager C interval k)).exec w 0 m).state.isLive h) ∧
    (m.NoLiveTimer → (∀ n c m, m.NoLiveTimer → (w n c m).2.NoLiveTimer) →
      (∃ h, ((renewOrRestartSubscription (manager C interval k)).exec w 0 m).state.isLive h) →
      ∀ e ∈ ((renewOrRestartSubscription (manager C interval k)).exec w 0 m).trace,
        ReplacementSucceeds C k.subscriptionKey e) := by
  have hobeys : w.Obeys (restartContract k.subscriptionKey (m.NoLiveTimer ∧
      ∀ n c m, m.NoLiveTimer → (w n c m).2.NoLiveTimer)) fun trace e => trace ++ [e] :=
    fun n trace c m' _ => ⟨rfl, hw n c m', fun hquiet => hquiet.2 n c m'⟩
  have hpost := wp_exec_trace hobeys (n := 0) (wp_renewOrRestartSubscription hm And.left :
    wp _ _ (renewOrRestartSubscription (manager C interval k)) [] m)
  exact ⟨hpost.1, fun htimers harms => hpost.2 ⟨htimers, harms⟩⟩

/-! ### A manager on the local network -/

def eventsService : ONVIFService :=
  { localDevicemgmt with
    xaddr := "http://192.168.0.2/onvif/events"
    url := "wsdl/events.wsdl"
    bindingName := "\x7bhttp://www.onvif.org/ver10/events/wsdl\x7dEventBinding"
    bindingKey := ("events", none) }

def subscriptionService : ONVIFService :=
  { eventsService with
    xaddr := "http://192.168.0.2/onvif/subscription?Idx=1"
    bindingName := "\x7bhttp://www.onvif.org/ver10/events/wsdl\x7dSubscriptionManagerBinding"
    bindingKey := ("subscription", some "PullPointSubscription") }

/-- A camera with a subscription. -/
def subscribedCamera : ONVIFCamera :=
  { localCamera with
    xaddrs := (Dict.empty.insert "http://www.onvif.org/ver10/events/wsdl" (some eventsService.xaddr)).insert
      "http://www.onvif.org/ver10/events/wsdl/PullPointSubscription" (some subscriptionService.xaddr)
    services := (Dict.empty.insert ("events", none) 0).insert
      ("subscription", some "PullPointSubscription") 1
    constructed := [eventsService, subscriptionService] }

/-- Its manager, after the timer fired. -/
def subscribedManager : CameraManager :=
  { BaseManager.init subscribedCamera 0 with
    held := { subscription := some 1, service := none, loopTime := 0, device := subscribedCamera } }

/-- The device granted a subscription at a new address, and its reply is timed out from then on. -/
def newSubscription : SubscribeReply where
  address := some "http://192.168.0.2/onvif/subscription?Idx=2"
  times := { currentTime := none, terminationTime := none }

/-- The device does not know the subscription any more; setting services up ends as given. -/
def rebooted (setup : Except Exc Unit) :
    (c : (managerInterface cameraInterface).Call) →
      Except Exc ((managerInterface cameraInterface).Answer c)
  | .renew _ _ => .error (.onvif .onvifError "unknown subscription")
  | .start (.createPullPointSubscription _ _) => .ok newSubscription
  | .start (.close _) => .ok ()
  | .start (.setup _) => setup
  | .start (.listWsdlDir _) | .start (.getSystemDateAndTime _ _) | .start (.getServices _)
  | .start (.getCapabilities _) | .start (.subscribe _ _ _) | .start (.renew _ _) =>
    .error (.timeoutError "")
  | .begin | .unsubscribe _ | .sleep _ => .ok ()

theorem unprovoked_refl (key : BindingKey) (m : CameraManager) : Unprovoked key m m :=
  ⟨rfl, Extends.refl _, fun _ _ hv _ => hv, fun h => h, fun _ h => Or.inl h, Or.inl rfl⟩

theorem running_subscribedManager :
    Running ManagerKind.pullPoint.subscriptionKey subscribedManager := by
  have hopen : OpenFor ManagerKind.pullPoint.subscriptionKey 1 subscribedCamera :=
    ⟨subscriptionService, rfl, rfl, rfl⟩
  refine ⟨rfl, fun key sid hsid => ?_, fun sid hsid => ?_, fun sid hsid => ?_⟩
  · have hentries : subscribedCamera.services.get? key
        = if key = ("subscription", some "PullPointSubscription") then some 1
          else if key = ("events", none) then some 0 else none := by
      show ((Dict.empty.insert _ _).insert _ _).get? key = _
      rw [Dict.get?_insert, Dict.get?_insert, Dict.get?_empty]
    rw [show subscribedManager.held.device = subscribedCamera from rfl, hentries] at hsid
    by_cases hsubscription : key = ("subscription", some "PullPointSubscription")
    · rw [if_pos hsubscription] at hsid
      obtain rfl := Option.some.inj hsid
      exact ⟨subscriptionService, rfl, hsubscription.symm⟩
    · rw [if_neg hsubscription] at hsid
      by_cases hevents : key = ("events", none)
      · rw [if_pos hevents] at hsid
        obtain rfl := Option.some.inj hsid
        exact ⟨eventsService, rfl, hevents.symm⟩
      · rw [if_neg hevents] at hsid
        cases hsid
  · obtain rfl := Option.some.inj hsid
    exact hopen
  · obtain rfl : 1 = sid := Option.some.inj hsid
    exact hopen

/-- Every step of the replacement succeeds. -/
theorem restart_rearms_rebooted :
    ∃ h, ((renewOrRestartSubscription (manager localConfig (TimeDelta.ofSeconds 60) .pullPoint)).exec
      (World.alone (rebooted (.ok ()))) 0 subscribedManager).state.isLive h :=
  (restart_rearms_iff localConfig (TimeDelta.ofSeconds 60) .pullPoint
    (World.alone (rebooted (.ok ()))) (fun _ _ m => unprovoked_refl _ m) subscribedManager
    running_subscribedManager).1 (by decide +kernel)

/-- The new service times out in its setup, when the old one is closed already. -/
theorem restart_ended_by_setup :
    ¬∀ (w : World (managerInterface cameraInterface) Exc CameraManager) (m : CameraManager),
      (∀ n c m, Unprovoked ManagerKind.pullPoint.subscriptionKey m (w n c m).2) →
      Running ManagerKind.pullPoint.subscriptionKey m →
      -- Renew failed, and so did a call of `_start()`
      (∃ v ∈ ((renewOrRestartSubscription
          (manager localConfig (TimeDelta.ofSeconds 60) .pullPoint)).exec w 0 m).trace,
        (∃ sid time, v.call = .renew sid time) ∧ ¬v.answer.isOk) →
      (∃ v ∈ ((renewOrRestartSubscription
          (manager localConfig (TimeDelta.ofSeconds 60) .pullPoint)).exec w 0 m).trace,
        (∃ c, v.call = .start c) ∧ ¬v.answer.isOk) →
      ∃ h, ((renewOrRestartSubscription
        (manager localConfig (TimeDelta.ofSeconds 60) .pullPoint)).exec w 0 m).state.isLive h := by
  intro h
  have hnone : ((renewOrRestartSubscription
      (manager localConfig (TimeDelta.ofSeconds 60) .pullPoint)).exec
      (World.alone (rebooted (.error (.timeoutError "")))) 0 subscribedManager).state.liveTimers
        = [] := by decide +kernel
  obtain ⟨t, ht⟩ := h (World.alone (rebooted (.error (.timeoutError "")))) subscribedManager
    (fun _ _ m => unprovoked_refl _ m) running_subscribedManager
    ⟨_, List.mem_cons_self, ⟨1, _, rfl⟩, by decide⟩
    ⟨_, List.mem_cons_of_mem _ (List.mem_cons_of_mem _ (List.mem_cons_of_mem _ List.mem_cons_self)),
      ⟨.setup 2, rfl⟩, by decide⟩
  exact liveTimers_eq_nil.mp hnone t ht

end FailedRestart

end Onvif
