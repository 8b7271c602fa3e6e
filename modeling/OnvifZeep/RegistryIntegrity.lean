/-
The registry of services under overlapping calls.

`CameraTasks` is a camera with the calls its consumer made, each finished or suspended in an
await.  A step is a new call, the answer to a call that waits for it, or a change of the
surroundings; steps come in any order.

* **`RegistryInv`** — every service is closed, or registered under its key, or being set up;
* **`registry_neither_leaks_nor_loses`** — in every run in which no call finds the entry of its
  key taken or gone when it comes back to it, no call raises `KeyError` and at the end every
  service is closed or registered under its key.
-/
import OnvifZeep.Runs
import OnvifZeep.RegistryTasks

namespace Onvif

open Coro ONVIFCamera

/-- A camera and the calls its consumer made. -/
abbrev CameraTasks : Type := Pool CameraOp cameraInterface Exc ONVIFCamera

namespace CameraTasks

inductive Action where
  | call (op : CameraOp)
  | answer (t : TaskId) (c : CameraCall) (r : Except Exc (cameraInterface.Answer c))
  | elsewhere (now : ℤ) (wsdlDirFiles : Dict String (Option (List String)))
    (pathIsfile : String → Bool) (sessionRaises : Option Exc)

/-- One step; `none` if the action is not possible now. -/
def step (C : CameraConfig) (p : CameraTasks) : Action → Option CameraTasks
  | .call op => some (p.start op (perform C op >>= fun _ => pure ()))
  | .answer t c r => if mayAnswer c r then p.resume t c r else none
  | .elsewhere now wsdlDirFiles pathIsfile sessionRaises =>
    some (p.update (ONVIFCamera.surround now wsdlDirFiles pathIsfile sessionRaises))

/-- A new camera, before any call. -/
def init (now : ℤ) (wsdlDirFiles : Dict String (Option (List String)))
    (pathIsfile : String → Bool) (sessionRaises : Option Exc) : CameraTasks :=
  { shared := newCamera now wsdlDirFiles pathIsfile sessionRaises, tasks := [] }

/-- No call has ended with a `KeyError`. -/
def NoKeyError (p : CameraTasks) : Prop :=
  ∀ t ∈ p.tasks, ∀ e, t.stop = .finished (.error e) → NotKeyError e

/-- The service is closed or registered under its own key. -/
def Accounted (s : ONVIFCamera) (sid : ServiceId) (v : ONVIFService) : Prop :=
  v.sessionClosed ∨ s.services.get? v.bindingKey = some sid

/-- No call ended with a `KeyError` and, once all have returned, every service is accounted
for. -/
def Intact (p : CameraTasks) : Prop :=
  p.NoKeyError ∧ ((∀ t ∈ p.tasks, t.pending = none) →
    ∀ sid v, p.shared.service? sid = some v → Accounted p.shared sid v)

/-- A call that comes back from closing a service finds it registered still, and one that comes
back from setting up a service finds no other registered under its key. -/
def Unraced (p : CameraTasks) (a : Action) (_ : CameraTasks) : Prop :=
  match a with
  | .answer _ (.close sid) _ => ∀ v, p.shared.service? sid = some v →
      p.shared.services.get? v.bindingKey = some sid
  | .answer _ (.setup sid) _ => ∀ v, p.shared.service? sid = some v →
      p.shared.services.get? v.bindingKey = none
  | _ => True

/-- What unraced runs keep. -/
structure RegistryInv (p : CameraTasks) : Prop where
  sound : p.Sound registryOutline
  registered : Registered p.shared
  accounted : ∀ sid v, p.shared.service? sid = some v →
    Accounted p.shared sid v ∨ ∃ t ∈ p.tasks, t.pending = some (.setup sid)
  noKeyError : p.NoKeyError

variable {C : CameraConfig} {p p' : CameraTasks} {s s' s₁ : ONVIFCamera} {sid : ServiceId}
  {v : ONVIFService}

theorem RegistryInv.intact (h : RegistryInv p) : p.Intact := by
  refine ⟨h.noKeyError, fun hfinished sid v hv => ?_⟩
  rcases h.accounted sid v hv with haccounted | ⟨t, ht, hsetup⟩
  · exact haccounted
  · rw [hfinished t ht] at hsetup
    cases hsetup

/-! ### Segments -/

theorem service?_of_constructed (h : s'.constructed = s.constructed) (sid : ServiceId) :
    s'.service? sid = s.service? sid := by
  rw [service?, h]
  rfl

/-- The segment that begins with this answer finds the registry as it left it. -/
structure BeginsUnraced (o : Option CameraResumption) (s : ONVIFCamera) : Prop where
  closed : ∀ i r, o = some ⟨.close i, r⟩ → s.isClosed i ∧
    ∀ u, s.service? i = some u → s.services.get? u.bindingKey = some i
  setup : ∀ i r, o = some ⟨.setup i, r⟩ →
    ∀ u, s.service? i = some u → s.services.get? u.bindingKey = none

variable {o : Option CameraResumption} {st : CameraStop}

/-- Removing the entry of a closed service, or entering one where there was none, leaves
every other service accounted for. -/
theorem accounted_of_begun (h : Begun o s s₁) (hbegins : BeginsUnraced o s)
    (hv : s.service? sid = some v) (haccounted : Accounted s sid v) : Accounted s₁ sid v := by
  rcases haccounted with haccounted | hentry
  · exact Or.inl haccounted
  obtain ⟨-, hbegun⟩ := h
  split at hbegun
  · rename_i i r
    obtain ⟨u, hu, -, hservices⟩ := hbegun
    obtain ⟨hisClosed, hregistered⟩ := hbegins.closed i r rfl
    by_cases hkey : v.bindingKey = u.bindingKey
    · -- the entry removed was that of the service itself, which is closed
      rw [hkey, hregistered u hu] at hentry
      obtain rfl := Option.some.inj hentry
      rw [isClosed, hv] at hisClosed
      exact Or.inl hisClosed
    · right
      rw [hservices, Dict.get?_erase_of_ne _ hkey]
      exact hentry
  · rename_i i r
    obtain ⟨u, hu, hservices⟩ := hbegun
    have hfree := hbegins.setup i r rfl u hu
    right
    rw [hservices, Dict.get?_insert_of_ne _ _ (fun hkey => ?_)]
    · exact hentry
    · rw [hkey, hfree] at hentry
      cases hentry
  · right
    rw [hbegun]
    exact hentry

/-- The service that was being set up is now registered. -/
theorem accounted_of_setup {r : Except Exc Unit} (h : Begun (some ⟨.setup sid, r⟩) s s₁)
    (hv : s.service? sid = some v) : Accounted s₁ sid v := by
  obtain ⟨-, u, hu, hservices⟩ := h
  obtain rfl := Option.some.inj (hv.symm.trans hu)
  right
  rw [hservices, Dict.get?_insert_self]

/-- Stopping leaves no service unaccounted for but one that is now being set up. -/
theorem accounted_of_stopped (h : Stopped s₁ st s') {W : ServiceId → Prop}
    (haccounted : ∀ i u, s₁.service? i = some u → Accounted s₁ i u ∨ W i)
    (hv : s'.service? sid = some v) :
    Accounted s' sid v ∨ W sid ∨ st.pending = some (.setup sid) := by
  obtain ⟨hservices, hstop⟩ := h
  have hsame : s₁.service? sid = some v →
      Accounted s' sid v ∨ W sid ∨ st.pending = some (.setup sid) := by
    intro hv
    rcases haccounted sid v hv with hclosed | hW
    · rw [Accounted, ← hservices] at hclosed
      exact Or.inl hclosed
    · exact Or.inr (Or.inl hW)
  split at hstop
  · rename_i i
    have hmark : s'.service? sid = (s₁.markClosed i).service? sid :=
      service?_of_constructed hstop.2 sid
    rw [hmark, service?_markClosed] at hv
    by_cases hi : i = sid
    · rw [if_pos hi] at hv
      obtain ⟨u, -, rfl⟩ := Option.map_eq_some_iff.mp hv
      exact Or.inl (Or.inl rfl)
    · rw [if_neg hi] at hv
      exact hsame hv
  · rename_i i
    obtain ⟨rfl, u, hconstructed⟩ := hstop
    have hadd : s'.service? sid = (s₁.addService u).service? sid :=
      service?_of_constructed hconstructed sid
    rw [hadd, service?_addService] at hv
    by_cases hi : sid = s₁.constructed.length
    · rw [hi]
      exact Or.inr (Or.inr rfl)
    · rw [if_neg hi] at hv
      exact hsame hv
  · rw [service?_of_constructed hstop] at hv
    exact hsame hv
  · rw [service?_of_constructed hstop.1] at hv
    exact hsame hv

/-- **One segment** leaves every service accounted for, but those being set up. -/
theorem accounted_of_moves (h : registryMoves o s st s') (hbegins : BeginsUnraced o s)
    {W : ServiceId → Prop}
    (haccounted : ∀ i u, s.service? i = some u →
      Accounted s i u ∨ W i ∨ ∃ r, o = some ⟨.setup i, r⟩)
    (hv : s'.service? sid = some v) :
    Accounted s' sid v ∨ W sid ∨ st.pending = some (.setup sid) := by
  rcases h with ⟨s₁, hbegun, hstopped⟩ | ⟨-, -, -, i, r, u, rfl, hu, hnone⟩
  · refine accounted_of_stopped hstopped (fun i u hu => ?_) hv
    rw [service?_of_constructed hbegun.1] at hu
    rcases haccounted i u hu with haccounted | hW | ⟨r, rfl⟩
    · exact Or.inl (accounted_of_begun hbegun hbegins hu haccounted)
    · exact Or.inr hW
    · exact Or.inl (accounted_of_setup hbegun hu)
  · rw [(hbegins.closed i r rfl).2 u hu] at hnone
    cases hnone

/-- **One segment** ends with no `KeyError`. -/
theorem notKeyError_of_moves (h : registryMoves o s st s') (hbegins : BeginsUnraced o s)
    {e : Exc} (hst : st = .finished (.error e)) : NotKeyError e := by
  subst hst
  rcases h with ⟨s₁, -, -, -, hnot⟩ | ⟨-, -, -, i, r, u, rfl, hu, hnone⟩
  · exact hnot e rfl
  · rw [(hbegins.closed i r rfl).2 u hu] at hnone
    cases hnone

theorem extends_of_moves (h : registryMoves o s st s') : Extends s s' := by
  rcases h with ⟨s₁, ⟨hconstructed, -⟩, -, hstop⟩ | ⟨-, hconstructed, -⟩
  · refine (Extends.of_eq hconstructed).trans ?_
    split at hstop
    · exact (Extends.markClosed _).trans (.of_eq hstop.2)
    · obtain ⟨-, u, hu⟩ := hstop
      exact (Extends.addService u).trans (.of_eq hu)
    · exact .of_eq hstop
    · exact .of_eq hstop.1
  · exact .of_eq hconstructed

theorem registered_of_moves (h : registryMoves o s st s') (hs : Registered s) : Registered s' := by
  have hkeeps := extends_of_moves h
  rcases h with ⟨s₁, ⟨-, hbegun⟩, hservices, -⟩ | ⟨hservices, -⟩
  · split at hbegun
    · obtain ⟨u, -, -, herase⟩ := hbegun
      exact (hs.unregister u.bindingKey).of_extends (hkeeps.of_left rfl)
        (hservices.trans herase)
    · rename_i i r
      obtain ⟨u, hu, hinsert⟩ := hbegun
      exact (hs.register hu rfl).of_extends (hkeeps.of_left rfl) (hservices.trans hinsert)
    · exact hs.of_extends hkeeps (hservices.trans hbegun)
  · exact hs.of_extends hkeeps hservices

/-! ### Steps -/

theorem holds_of_extends {op : CameraOp} {c : CameraCall} (hs' : Registered s')
    (hkeeps : Extends s s') (h : registryOutline.holds op c s) : registryOutline.holds op c s' :=
  ⟨hs', fun sid hsid => hkeeps.isClosed (h.2 sid hsid)⟩

theorem beginsUnraced_none (s : ONVIFCamera) : BeginsUnraced none s :=
  ⟨fun _ _ h => absurd h (by simp), fun _ _ h => absurd h (by simp)⟩

theorem RegistryInv.call (h : RegistryInv p) (op : CameraOp) :
    RegistryInv (p.start op (perform C op >>= fun _ => pure ())) := by
  have hfollows : registryOutline.Follows op (perform C op >>= fun _ => pure ()) none p.shared :=
    follows_perform h.registered
  obtain ⟨hmoves, -⟩ := hfollows.segment
  have hregistered := registered_of_moves hmoves h.registered
  have hkeeps := extends_of_moves hmoves
  refine ⟨Pool.start_sound h.sound hfollows hkeeps fun t _ c _ hc =>
    holds_of_extends hregistered hkeeps hc, hregistered, fun sid v hv => ?_, fun t ht e he => ?_⟩
  · have haccounted := accounted_of_moves hmoves (beginsUnraced_none _)
      (fun i u hu => (h.accounted i u hu).imp_right Or.inl) hv
    rcases haccounted with haccounted | ⟨t, ht, hsetup⟩ | hsetup
    · exact Or.inl haccounted
    · exact Or.inr ⟨t, List.mem_append_left _ ht, hsetup⟩
    · exact Or.inr ⟨_, List.mem_append_right _ (List.mem_singleton_self _), hsetup⟩
  · rcases List.mem_append.mp ht with ht | ht
    · exact h.noKeyError t ht e he
    · rw [List.mem_singleton.mp ht] at he
      exact notKeyError_of_moves hmoves (beginsUnraced_none _) he

theorem RegistryInv.update (h : RegistryInv p) {f : ONVIFCamera → ONVIFCamera}
    (hservices : ∀ s, (f s).services = s.services)
    (hconstructed : ∀ s, (f s).constructed = s.constructed) : RegistryInv (p.update f) := by
  have hkeeps : Extends p.shared (f p.shared) := .of_eq (hconstructed _)
  have hregistered := h.registered.of_extends hkeeps (hservices _)
  refine ⟨fun t ht => (h.sound t ht).frame hkeeps fun c _ hc =>
    holds_of_extends hregistered hkeeps hc, hregistered, fun sid v hv => ?_, h.noKeyError⟩
  have hv : p.shared.service? sid = some v := by
    rw [← service?_of_constructed (hconstructed _)]
    exact hv
  rw [Accounted, show (p.update f).shared.services = p.shared.services from hservices _]
  exact h.accounted sid v hv

/-- What the answer finds is what the run says it finds. -/
theorem RegistryInv.beginsUnraced (h : RegistryInv p) {t : TaskId} {c : CameraCall}
    {r : Except Exc (cameraInterface.Answer c)} {u : Task CameraOp cameraInterface Exc ONVIFCamera}
    (hu : p.tasks[t]? = some u) (hpending : u.pending = some c)
    (hunraced : Unraced p (.answer t c r) p') :
    BeginsUnraced (some ⟨c, r⟩) p.shared := by
  have hholds := (h.sound u (List.mem_of_getElem? hu)).holds hpending
  constructor
  · intro i r' heq
    cases heq
    exact ⟨hholds.2 i rfl, hunraced⟩
  · intro i r' heq
    cases heq
    exact hunraced

theorem RegistryInv.answer (h : RegistryInv p) {t : TaskId} {c : CameraCall}
    {r : Except Exc (cameraInterface.Answer c)} (hmay : mayAnswer c r)
    (hresume : p.resume t c r = some p') (hunraced : Unraced p (.answer t c r) p') :
    RegistryInv p' := by
  obtain ⟨u, u', hu, hpending, htasks, -, -, hmoves⟩ :=
    Pool.resume_segment h.sound hresume fun _ _ => hmay
  have hbegins := h.beginsUnraced hu hpending hunraced
  have hregistered := registered_of_moves hmoves h.registered
  have hkeeps := extends_of_moves hmoves
  have hself : p'.tasks[t]? = some u' := by
    rw [htasks, List.getElem?_set_self (List.getElem?_eq_some_iff.mp hu).1]
  -- the other calls stand where they stood
  have hothers : ∀ j w, j ≠ t → (p'.tasks[j]? = some w ↔ p.tasks[j]? = some w) := by
    intro j w hj
    rw [htasks, List.getElem?_set_ne (Ne.symm hj)]
  refine ⟨Pool.resume_sound h.sound hresume (fun _ _ => hmay) hkeeps fun _ _ _ _ _ _ hc =>
    holds_of_extends hregistered hkeeps hc, hregistered, fun sid v hv => ?_, fun w hw e he => ?_⟩
  · have hbefore : ∀ i v, p.shared.service? i = some v → Accounted p.shared i v ∨
        (∃ j w, j ≠ t ∧ p.tasks[j]? = some w ∧ w.pending = some (.setup i)) ∨
          ∃ r', (some ⟨c, r⟩ : Option CameraResumption) = some ⟨.setup i, r'⟩ := by
      intro i v hv
      rcases h.accounted i v hv with haccounted | ⟨w, hw, hsetup⟩
      · exact Or.inl haccounted
      obtain ⟨j, hj⟩ := List.mem_iff_getElem?.mp hw
      by_cases hjt : j = t
      · subst hjt
        obtain rfl := Option.some.inj (hu.symm.trans hj)
        obtain rfl := Option.some.inj (hpending.symm.trans hsetup)
        exact Or.inr (Or.inr ⟨r, rfl⟩)
      · exact Or.inr (Or.inl ⟨j, w, hjt, hj, hsetup⟩)
    rcases accounted_of_moves hmoves hbegins hbefore hv with haccounted | ⟨j, w, hjt, hj, hsetup⟩ | hsetup
    · exact Or.inl haccounted
    · exact Or.inr ⟨w, List.mem_of_getElem? ((hothers j w hjt).mpr hj), hsetup⟩
    · exact Or.inr ⟨u', List.mem_of_getElem? hself, hsetup⟩
  · obtain ⟨j, hj⟩ := List.mem_iff_getElem?.mp hw
    by_cases hjt : j = t
    · subst hjt
      obtain rfl := Option.some.inj (hself.symm.trans hj)
      exact notKeyError_of_moves hmoves hbegins he
    · exact h.noKeyError w (List.mem_of_getElem? ((hothers j w hjt).mp hj)) e he

/-- **The step lemma.** -/
theorem registryInv_step (h : RegistryInv p) {a : Action} (hstep : step C p a = some p')
    (hunraced : Unraced p a p') : RegistryInv p' := by
  cases a with
  | call op =>
    rw [← Option.some.inj hstep]
    exact h.call op
  | answer t c r =>
    rw [step] at hstep
    by_cases hmay : mayAnswer c r = true
    · rw [if_pos hmay] at hstep
      exact h.answer hmay hstep hunraced
    · rw [if_neg hmay] at hstep
      exact absurd hstep (by simp)
  | elsewhere now wsdlDirFiles pathIsfile sessionRaises =>
    rw [← Option.some.inj hstep]
    exact h.update (fun _ => rfl) fun _ => rfl

theorem registryInv_init (now : ℤ) (wsdlDirFiles : Dict String (Option (List String)))
    (pathIsfile : String → Bool) (sessionRaises : Option Exc) :
    RegistryInv (init now wsdlDirFiles pathIsfile sessionRaises) where
  sound _ h := absurd h List.not_mem_nil
  registered _ _ hsid := absurd hsid (by simp [init, newCamera])
  accounted _ _ hv := absurd hv (by simp [init, newCamera, service?])
  noKeyError _ h := absurd h List.not_mem_nil

/-- **The registry neither leaks nor loses a service** in any run whose calls do not disturb
each other's entries. -/
theorem registry_neither_leaks_nor_loses (C : CameraConfig) (now : ℤ)
    (wsdlDirFiles : Dict String (Option (List String))) (pathIsfile : String → Bool)
    (sessionRaises : Option Exc) (actions : List Action) (p : CameraTasks)
    (hrun : Runs.run (step C) (init now wsdlDirFiles pathIsfile sessionRaises) actions = some p)
    (hunraced : Runs.Along (step C) Unraced
      (init now wsdlDirFiles pathIsfile sessionRaises) actions) :
    p.Intact :=
  (Runs.run_invariant (fun _ _ _ h hstep hunraced => registryInv_step h hstep hunraced)
    (registryInv_init now wsdlDirFiles pathIsfile sessionRaises) hunraced hrun).intact

/-! ### Two calls -/

def wsdlListing : Dict String (Option (List String)) :=
  Dict.empty.insert "wsdl" (some ["devicemgmt.wsdl"])

def localTasks : CameraTasks := init 63000000000000000 wsdlListing (fun _ => false) none

def createDevice : Action := .call (.createOnvifService "devicemgmt" none none)

def twoInTurn : List Action := [createDevice, .answer 0 (.setup 0) (.ok ()), createDevice]

/-- One call after the other. -/
theorem registry_neither_leaks_nor_loses_in_turn :
    ∃ p, Runs.run (step localConfig) localTasks twoInTurn = some p ∧ p.Intact := by
  have hruns : (Runs.run (step localConfig) localTasks twoInTurn).isSome = true := by
    decide +kernel
  obtain ⟨p, hp⟩ := Option.isSome_iff_exists.mp hruns
  refine ⟨p, hp, registry_neither_leaks_nor_loses localConfig _ _ _ _ twoInTurn p hp ?_⟩
  intro p₁ hp₁
  refine ⟨trivial, fun p₂ _ => ⟨fun v _ => ?_, fun p₃ _ => ⟨trivial, trivial⟩⟩⟩
  -- while the first call sets its service up, nothing is registered
  have hempty : (step localConfig localTasks createDevice).map
      (fun p => p.shared.services.entries.isEmpty) = some true := by decide +kernel
  rw [show step localConfig localTasks createDevice = some p₁ from hp₁] at hempty
  have hnil : p₁.shared.services.entries = [] :=
    List.isEmpty_iff.mp (Option.some.inj hempty)
  rw [Dict.get?, hnil]
  rfl

/-- Two calls that find the registry empty both construct the device service, and the second
takes the entry of the first. -/
theorem registry_leaks_overwritten : ¬∀ (actions : List Action) (p : CameraTasks),
    Runs.run (step localConfig) localTasks actions = some p → p.Intact := by
  intro h
  have hleak : (Runs.run (step localConfig) localTasks
      [createDevice, createDevice, .answer 0 (.setup 0) (.ok ()), .answer 1 (.setup 1) (.ok ())]).any
        (fun p => p.tasks.all (fun t => t.pending.isNone) &&
          (p.shared.service? 0).any fun v =>
            !v.sessionClosed && decide (p.shared.services.get? v.bindingKey ≠ some 0)) = true := by
    decide +kernel
  obtain ⟨p, hp, hleaked⟩ := (Option.any_eq_true _ _).mp hleak
  rw [Bool.and_eq_true] at hleaked
  obtain ⟨hall, hservice⟩ := hleaked
  obtain ⟨v, hv, hlost⟩ := (Option.any_eq_true _ _).mp hservice
  rw [Bool.and_eq_true] at hlost
  obtain ⟨hopen, hgone⟩ := hlost
  have hreturned : ∀ t ∈ p.tasks, t.pending = none := fun t ht =>
    Option.isNone_iff_eq_none.mp (List.all_eq_true.mp hall t ht)
  rcases (h _ p hp).2 hreturned 0 v hv with hclosed | hentry
  · rw [hclosed] at hopen
    cases hopen
  · exact of_decide_eq_true hgone hentry

end CameraTasks

end Onvif
