/-
What one segment of a camera's call does to the registry of services.

Between two suspensions a call first finishes what it was doing: after closing a service it
removes the entry of its binding key, after setting one up it enters it (`Begun`).  Then it
runs on and stops: closing a service, having constructed one, in any other call, or at its end
(`Stopped`).  Removing an entry that is not there is a `KeyError` (`PopFailed`).

* **`registryMoves`** — these segments;
* **`follows_perform`** — the coroutines of the source keep to them, whatever the other calls
  do meanwhile, as long as services are set up and closed successfully and the device's answers
  are no `KeyError`.
-/
import OnvifZeep.TaskPool
import OnvifZeep.Registry

namespace Onvif

open Coro

namespace ONVIFCamera

variable {C : CameraConfig} {s s' s₁ s₂ : ONVIFCamera} {sid : ServiceId} {v : ONVIFService}
  {key : BindingKey}

/-! ### The outline -/

abbrev CameraResumption : Type := Resumption cameraInterface Exc

abbrev CameraStop : Type := Stop cameraInterface Exc

/-- The exception is not a `KeyError`. -/
abbrev NotKeyError (e : Exc) : Prop := e.isKeyError = false

/-- Setting up and closing succeed, and nothing else is answered with a `KeyError`. -/
def mayAnswer (c : CameraCall) : Except Exc (cameraInterface.Answer c) → Bool
  | .ok _ => true
  | .error e =>
    match c with
    | .close _ | .setup _ => false
    | _ => !e.isKeyError

/-- What the segment did first. -/
def Begun (o : Option CameraResumption) (s s₁ : ONVIFCamera) : Prop :=
  s₁.constructed = s.constructed ∧
    match o with
    | some ⟨.close sid, _⟩ => ∃ v, s.service? sid = some v ∧
        (s.services.get? v.bindingKey).isSome ∧ s₁.services = s.services.erase v.bindingKey
    | some ⟨.setup sid, _⟩ => ∃ v, s.service? sid = some v ∧
        s₁.services = s.services.insert v.bindingKey sid
    | _ => s₁.services = s.services

/-- How it stopped. -/
def Stopped (s₁ : ONVIFCamera) (st : CameraStop) (s' : ONVIFCamera) : Prop :=
  s'.services = s₁.services ∧
    match st with
    | .waiting (.close sid) => (∃ v, s₁.service? sid = some v) ∧
        s'.constructed = s₁.constructed.modify sid ONVIFService.closed
    | .waiting (.setup sid) => sid = s₁.constructed.length ∧
        ∃ v, s'.constructed = s₁.constructed ++ [v]
    | .waiting _ => s'.constructed = s₁.constructed
    | .finished r => s'.constructed = s₁.constructed ∧ ∀ e, r = .error e → e.isKeyError = false

/-- The segment had an entry to remove and there was none. -/
def PopFailed (o : Option CameraResumption) (s : ONVIFCamera) (st : CameraStop)
    (s' : ONVIFCamera) : Prop :=
  s'.services = s.services ∧ s'.constructed = s.constructed ∧ (∃ r, st = .finished r) ∧
    ∃ sid r v, o = some ⟨.close sid, r⟩ ∧ s.service? sid = some v ∧
      s.services.get? v.bindingKey = none

/-- What a segment may do. -/
def registryMoves (o : Option CameraResumption) (s : ONVIFCamera) (st : CameraStop)
    (s' : ONVIFCamera) : Prop :=
  (∃ s₁, Begun o s s₁ ∧ Stopped s₁ st s') ∨ PopFailed o s st s'

/-- Services stay while a call is suspended, and a service that is being closed is marked so. -/
def registryOutline : Outline CameraOp cameraInterface Exc ONVIFCamera where
  holds _ c s := Registered s ∧ ∀ sid, c = .close sid → s.isClosed sid
  rely := Extends
  rely_refl := Extends.refl
  rely_trans := Extends.trans
  answers _ c r := mayAnswer c r
  moves _ := registryMoves
  returns _ _ := True

/-! ### Segments -/

theorem Begun.of_eq {o : Option CameraResumption} (h : Begun o s s₁)
    (hservices : s₂.services = s₁.services) (hconstructed : s₂.constructed = s₁.constructed) :
    Begun o s s₂ := by
  obtain ⟨hbegun, hentry⟩ := h
  refine ⟨hconstructed.trans hbegun, ?_⟩
  rw [hservices]
  exact hentry

/-- The segment has done what it had to do first. -/
def Prepared (g : Option CameraResumption × ONVIFCamera) (s : ONVIFCamera) : Prop :=
  Begun g.1 g.2 s ∧ Registered s

/-- The segment may end with this exception. -/
def Failed (e : Exc) (g : Option CameraResumption × ONVIFCamera) (s : ONVIFCamera) : Prop :=
  registryMoves g.1 g.2 (.finished (.error e)) s

theorem Prepared.of_eq {g : Option CameraResumption × ONVIFCamera} (h : Prepared g s)
    (hservices : s'.services = s.services) (hconstructed : s'.constructed = s.constructed) :
    Prepared g s' :=
  ⟨h.1.of_eq hservices hconstructed, h.2.of_extends (.of_eq hconstructed) hservices⟩

theorem Prepared.failed {g : Option CameraResumption × ONVIFCamera} (h : Prepared g s) {e : Exc}
    (he : e.isKeyError = false) : Failed e g s := by
  refine Or.inl ⟨s, h.1, rfl, rfl, fun e' he' => ?_⟩
  cases he'
  exact he

/-- The calls that neither close nor set up a service. -/
def isPlain : CameraCall → Bool
  | .close _ | .setup _ => false
  | _ => true

theorem begun_of_isPlain {c : CameraCall} (hc : isPlain c)
    (r : Except Exc (cameraInterface.Answer c)) (s : ONVIFCamera) : Begun (some ⟨c, r⟩) s s := by
  refine ⟨rfl, ?_⟩
  cases c with
  | close sid => exact absurd hc (by simp [isPlain])
  | setup sid => exact absurd hc (by simp [isPlain])
  | _ => exact rfl

theorem stopped_of_isPlain {c : CameraCall} (hc : isPlain c) (s : ONVIFCamera) :
    Stopped s (.waiting c) s := by
  refine ⟨rfl, ?_⟩
  cases c with
  | close sid => exact absurd hc (by simp [isPlain])
  | setup sid => exact absurd hc (by simp [isPlain])
  | _ => exact rfl

theorem not_isKeyError_of_mayAnswer {c : CameraCall} {e : Exc}
    (h : mayAnswer c (.error e) = true) : e.isKeyError = false := by
  cases c with
  | close sid => exact absurd h (by simp [mayAnswer])
  | setup sid => exact absurd h (by simp [mayAnswer])
  | _ => simpa [mayAnswer] using h

abbrev registryContract (op : CameraOp) :
    Contract cameraInterface Exc ONVIFCamera (Option CameraResumption × ONVIFCamera) :=
  registryOutline.contract op

/-- `x`, begun in a segment that is prepared, keeps to the outline and returns with `P`, prepared
again. -/
def Does {α : Type} (op : CameraOp) (x : CameraCoro α) (s : ONVIFCamera)
    (P : α → ONVIFCamera → Prop) : Prop :=
  ∀ g, Prepared g s → wp (registryContract op) (Ends (fun a g s' => Prepared g s' ∧ P a s') Failed) x g s

section Does

variable {op : CameraOp} {α β : Type} {P P' : α → ONVIFCamera → Prop}

theorem Does.mono {x : CameraCoro α} (h : Does op x s P) (hP : ∀ a s, P a s → P' a s) :
    Does op x s P' := by
  intro g hg
  refine wp_mono (fun r g s hr => ?_) (h g hg)
  cases r with
  | ok a => exact ⟨hr.1, hP a s hr.2⟩
  | error e => exact hr

theorem Does.bind {x : CameraCoro α} {f : α → CameraCoro β} {P : β → ONVIFCamera → Prop}
    (h : Does op x s fun a s' => Does op (f a) s' P) : Does op (x >>= f) s P := by
  intro g hg
  rw [wp_bind]
  refine wp_mono (fun r g s hr => ?_) (h g hg)
  cases r with
  | ok a => exact hr.2 g hr.1
  | error e => exact hr

theorem Does.pure {a : α} (h : P a s) : Does op (pure a) s P := fun _ hg => ⟨hg, h⟩

theorem Does.getState {f : ONVIFCamera → CameraCoro β} {P : β → ONVIFCamera → Prop}
    (h : Does op (f s) s P) : Does op (getState >>= f) s P := fun g hg => h g hg

theorem Does.modifyState {f : ONVIFCamera → ONVIFCamera} {P : Unit → ONVIFCamera → Prop}
    (hservices : (f s).services = s.services) (hconstructed : (f s).constructed = s.constructed)
    (h : P () (f s)) : Does op (modifyState f) s P :=
  fun _ hg => ⟨hg.of_eq hservices hconstructed, h⟩

theorem Does.ofExcept {r : Except Exc α} (herror : ∀ e, r = .error e → e.isKeyError = false)
    (hok : ∀ a, r = .ok a → P a s) : Does op (ofExcept r) s P := by
  intro g hg
  refine (wp_ofExcept r).mpr ?_
  cases r with
  | ok a => exact ⟨hg, hok a rfl⟩
  | error e => exact hg.failed (herror e rfl)

theorem prepared_await {c : CameraCall} (hc : isPlain c) :
    Preserves (registryContract op) Prepared (await c) := by
  refine .call (fun g s h => ⟨Or.inl ⟨s, h.1, stopped_of_isPlain hc s⟩, h.2, ?_⟩) ?_
  · intro sid hsid
    rw [hsid] at hc
    exact absurd hc (by simp [isPlain])
  · rintro g s r _ s' - ⟨-, hs', -, rfl⟩
    exact ⟨begun_of_isPlain hc r s', hs'.1⟩

theorem Does.await {c : CameraCall} (hc : isPlain c)
    {P : cameraInterface.Answer c → ONVIFCamera → Prop} (h : ∀ a s', Extends s s' → P a s') :
    Does op (await c) s P := by
  intro g hg
  obtain ⟨hsuspend, hresume⟩ := (wp_call _).mp (prepared_await hc g s hg)
  refine (wp_call _).mpr ⟨hsuspend, fun r g' s' hr => ?_⟩
  have hprepared := hresume r g' s' hr
  cases r with
  | ok a => exact ⟨hprepared, h a s' hr.1⟩
  | error e => exact hprepared.failed (not_isKeyError_of_mayAnswer hr.2.2.1)

theorem Does.of_preserves {x : CameraCoro α} (h : Preserves (registryContract op) Prepared x)
    (hx : Raises (fun c r => mayAnswer c r = true) (fun e => e.isKeyError = false) x) :
    Does op x s fun _ _ => True := by
  intro g hg
  refine wp_mono (fun r g s hr => ?_) (wp_and_raises (fun _ _ _ _ _ _ hr => hr.2.2.1) (h g s hg) hx)
  cases r with
  | ok a => exact ⟨hr.1, trivial⟩
  | error e => exact hr.1.failed (hr.2 e rfl)

end Does

/-! ### The coroutines of the source -/

variable {op : CameraOp}

/-- **Closing a service**: what follows begins a new segment, in which its entry is due to be
removed. -/
theorem wp_closeService {β : Type} {f : Unit → CameraCoro β}
    {Q : Except Exc β → Option CameraResumption × ONVIFCamera → ONVIFCamera → Prop}
    {g : Option CameraResumption × ONVIFCamera} (hg : Prepared g s) (hv : s.service? sid = some v)
    (hf : ∀ s', Extends s s' → Registered s' →
      wp (registryContract op) Q (f ()) (some ⟨.close sid, .ok ()⟩, s') s') :
    wp (registryContract op) Q (closeService sid >>= f) g s := by
  have hkeeps : Extends s (s.markClosed sid) := .markClosed sid
  rw [wp_bind, closeService, wp_bind]
  refine (wp_call _).mpr ⟨⟨Or.inl ⟨s, hg.1, rfl, ⟨v, hv⟩, rfl⟩, hg.2.of_extends hkeeps rfl, ?_⟩, ?_⟩
  · intro i hi
    cases hi
    exact isClosed_markClosed hv
  · rintro r _ s' ⟨hrely, hs', hr, rfl⟩
    cases r with
    | ok a => exact hf s' (hkeeps.trans hrely) hs'.1
    | error e => cases hr

/-- **Removing the entry** of the service that was closed. -/
theorem wp_popService (hs : Registered s) (hv : s.service? sid = some v)
    (hkey : v.bindingKey = key) (r : Except Exc Unit) :
    wp (registryContract op)
      (Ends (fun _ g s' => Prepared g s' ∧ Extends s s') Failed)
      (popService key) (some ⟨.close sid, r⟩, s) s := by
  rw [popService, wp_bind, wp_getState, ends_ok]
  cases hentry : s.services.get? key with
  | some i =>
    refine ⟨⟨⟨rfl, v, hv, ?_, ?_⟩, hs.unregister key⟩, .of_eq rfl⟩
    · rw [hkey, hentry]
      rfl
    · rw [hkey]
      rfl
  | none =>
    refine Or.inr ⟨rfl, rfl, ⟨_, rfl⟩, sid, r, v, rfl, hv, ?_⟩
    rw [hkey]
    exact hentry

theorem safeFunc_not_isKeyError {α : Type} (r : Except Exc α) :
    ∀ e, safeFunc r = .error e → e.isKeyError = false := by
  intro e he
  rcases r with e' | a
  · cases e' with
    | _ => cases he; rfl
  · cases he

theorem does_listWsdlDir (s : ONVIFCamera) :
    Does op (listWsdlDir C) s fun _ s' => Extends s s' := by
  refine .getState ?_
  cases s.wsdlDirFiles.get? C.wsdlDir with
  | some files => exact .pure (Extends.refl s)
  | none => exact .bind (.await rfl fun files s' hs' => .modifyState rfl rfl (hs'.trans (.of_eq rfl)))

/-- **Constructing a service**: it is entered under its own key. -/
theorem does_buildService (definition : String × String × String) (readTimeout : Option ℕ) :
    Does op (buildService C key definition readTimeout) s fun sid s' =>
      ∃ v, s'.service? sid = some v := by
  refine .getState (.bind (.ofExcept (safeFunc_not_isKeyError _) fun v hv => ?_))
  obtain ⟨-, -, hkey, -⟩ := newService_spec hv
  intro g hg
  have hself := service?_addService_self v s
  have hadded : Registered (s.addService v) := hg.2.of_extends (.addService v) rfl
  rw [wp_bind, wp_modifyState, ends_ok, wp_bind]
  refine (wp_call _).mpr ⟨⟨Or.inl ⟨s, hg.1, rfl, rfl, v, rfl⟩, hadded, ?_⟩, ?_⟩
  · intro i hi
    cases hi
  · rintro r _ s' ⟨hrely, hs', hr, rfl⟩
    cases r with
    | error e => cases hr
    | ok a =>
      obtain ⟨v', hv', hkey'⟩ := hrely.exists_service? hself
      rw [ends_ok, wp_bind, wp_modifyState, ends_ok]
      refine ⟨⟨⟨rfl, v', hv', ?_⟩, hs'.1.register hv' (hkey'.trans hkey)⟩, v', hv'⟩
      rw [hkey', hkey]
      rfl

theorem getDefinition_not_isKeyError (name : String) (portType : Option String) :
    ∀ e, s.getDefinition C name portType = .error e → e.isKeyError = false := by
  intro e he
  rw [getDefinition] at he
  split at he
  · cases he
    rfl
  · dsimp only at he
    split at he
    · cases he
      rfl
    · split at he
      · cases he
      · split at he
        · split at he
          · cases he
            rfl
          · cases he
        · cases he
          rfl

/-- **`create_onvif_service`** returns a service that exists. -/
theorem does_createOnvifService (name : String) (portType : Option String)
    (readTimeout : Option ℕ) (s : ONVIFCamera) :
    Does op (createOnvifService C name portType readTimeout) s fun sid s' =>
      ∃ v, s'.service? sid = some v := by
  refine .bind ((does_listWsdlDir s).mono fun _ s₁ _ => .getState ?_)
  refine .bind (.ofExcept (getDefinition_not_isKeyError _ _) fun definition _ => ?_)
  cases hexisting : s₁.existingService (lower name, portType) with
  | none => exact does_buildService definition readTimeout
  | some entry =>
    obtain ⟨i, u⟩ := entry
    obtain ⟨hi, hu⟩ := existingService_eq_some.mp hexisting
    dsimp only
    by_cases hxaddr : u.xaddr = definition.1
    · rw [if_pos hxaddr]
      exact .pure ⟨u, hu⟩
    · rw [if_neg hxaddr]
      intro g hg
      have hkey : u.bindingKey = (lower name, portType) := by
        obtain ⟨u', hu', hkey⟩ := hg.2 _ _ hi
        rw [Option.some.inj (hu.symm.trans hu')]
        exact hkey
      refine wp_closeService hg hu fun s₂ hkeeps hs₂ => ?_
      obtain ⟨u', hu', hkey'⟩ := hkeeps.exists_service? hu
      rw [wp_bind]
      refine wp_mono (fun r g s₃ hr => ?_) (wp_popService hs₂ hu' (hkey'.trans hkey) (.ok ()))
      cases r with
      | ok _ => exact does_buildService definition readTimeout g hr.1
      | error e => exact hr

/-! ### The clock handshake -/

theorem does_getSystemDateAndTime (devicemgmt : ServiceId) (s : ONVIFCamera) :
    Does op (getSystemDateAndTime devicemgmt) s fun _ s' => Extends s s' := by
  intro g hg
  have hawait : Preserves (registryContract op) Prepared
      (await (.getSystemDateAndTime devicemgmt true)) := prepared_await rfl
  obtain ⟨hsuspend, hresume⟩ := (wp_call _).mp (hawait g s hg)
  refine (wp_tryExcept _ _).mpr ((wp_call _).mpr ⟨hsuspend, fun r g' s' hr => ?_⟩)
  have hprepared := hresume r g' s' hr
  cases r with
  | ok reply => exact ⟨hprepared, hr.1⟩
  | error e =>
    rw [ends_error]
    by_cases he : e.oneOf [.fault]
    · rw [if_pos he]
      exact Does.await rfl (fun _ _ hs'' => hr.1.trans hs'') g' hprepared
    · rw [if_neg he]
      exact hprepared.failed (not_isKeyError_of_mayAnswer hr.2.2.1)

theorem only_attributeOf {α : Type} (name : String) (a : Option α) :
    Only NotKeyError (attributeOf name a) := by
  cases a with
  | none => exact only_error rfl
  | some a => exact only_ok a

theorem only_orNoInteger (a : Option ℤ) : Only NotKeyError (orNoInteger a) := by
  cases a with
  | none => exact only_error rfl
  | some a => exact only_ok a

theorem only_camDate (reply : SystemDateAndTime) : Only NotKeyError (camDate reply) :=
  .bind (only_attributeOf _ _) fun _ => .bind (only_attributeOf _ _) fun _ =>
    .bind (only_attributeOf _ _) fun _ => .bind (only_orNoInteger _) fun _ =>
      .bind (only_orNoInteger _) fun _ => .bind (only_orNoInteger _) fun _ =>
        .bind (only_orNoInteger _) fun _ => .bind (only_orNoInteger _) fun _ =>
          .bind (only_orNoInteger _) fun _ => .ite (only_ok _) (only_error rfl)

theorem only_sub (a b : DateTime) : Only NotKeyError (a.sub b) := by
  rw [DateTime.sub]
  split
  · exact only_ok _
  · exact only_ok _
  · exact only_error rfl

/-- **The handshake** removes the entry of the device service it closed. -/
theorem does_adjustTime (hv : s.service? sid = some v) :
    Does op (adjustTime C sid) s fun _ _ => True := by
  rw [adjustTime]
  by_cases hadjust : (!C.adjustTime) = true
  · rw [if_pos hadjust]
    exact .pure trivial
  rw [if_neg hadjust]
  refine .bind ((does_getSystemDateAndTime sid s).mono fun reply s₁ hkeeps => ?_)
  refine .bind (.ofExcept (only_camDate reply) fun date _ => .getState ?_)
  refine .bind (.ofExcept (only_sub date _) fun dtDiff _ => ?_)
  refine .bind (.modifyState rfl rfl ?_)
  intro g hg
  obtain ⟨v₁, hv₁, -⟩ := hkeeps.exists_service? hv
  refine wp_closeService hg hv₁ fun s₂ hkeeps₂ hs₂ => ?_
  obtain ⟨v₂, hv₂, -⟩ := hkeeps₂.exists_service? hv₁
  rw [wp_bind, wp_getState, ends_ok, hv₂]
  dsimp only
  rw [wp_bind]
  refine wp_mono (fun r g s₃ hr => ?_) (wp_popService hs₂ hv₂ rfl (.ok ()))
  cases r with
  | ok _ => exact (does_createOnvifService _ _ _ s₃).mono (fun _ _ _ => trivial) g hr.1
  | error e => exact hr

theorem does_devicemgmtWithTime (s : ONVIFCamera) :
    Does op (devicemgmtWithTime C) s fun _ _ => True := by
  refine .bind ((does_createOnvifService _ _ _ s).mono fun sid s₁ hsid => .getState ?_)
  obtain ⟨v, hv⟩ := hsid
  cases s₁.dtDiff with
  | some dtDiff => exact .pure trivial
  | none => exact does_adjustTime hv

/-! ### Discovery -/

theorem prepared_setXaddr (ns : String) (xaddr : Option String)
    (g : Option CameraResumption × ONVIFCamera) (s : ONVIFCamera) (h : Prepared g s) :
    Prepared g (s.setXaddr ns xaddr) := h.of_eq rfl rfl

theorem prepared_fromCapabilities (devicemgmt : ServiceId) :
    Preserves (registryContract op) Prepared (updateXaddrsFromCapabilities C devicemgmt) :=
  preserves_updateXaddrsFromCapabilities prepared_setXaddr (fun _ _ _ h => h.of_eq rfl rfl)
    (prepared_await rfl)

/-- An answer that is no `KeyError`. -/
abbrev Admissible (c : CameraCall) (r : Except Exc (cameraInterface.Answer c)) : Prop :=
  mayAnswer c r = true

theorem raises_await (c : CameraCall) : Raises Admissible NotKeyError (await c) :=
  .call fun _ h => not_isKeyError_of_mayAnswer h

theorem only_discoveredUrl (address : Option String) :
    Only NotKeyError (discoveredUrl C address) := by
  refine (only_valueError_discoveredUrl C address).mono fun e he => ?_
  obtain ⟨message, rfl⟩ := he
  rfl

theorem raises_addServices (entries : List ServiceEntry) (found : Bool) :
    Raises Admissible NotKeyError (addServices C entries found) := by
  induction entries generalizing found with
  | nil => exact .pure found
  | cons entry rest ih =>
    rw [addServices]
    split
    · split
      · exact .bind (.ofExcept (only_discoveredUrl _)) fun url =>
          .bind (.modifyState _) fun _ => ih true
      · exact ih found
    · exact ih found

theorem raises_updateXaddrsFromServices (devicemgmt : ServiceId) :
    Raises Admissible NotKeyError (updateXaddrsFromServices C devicemgmt) := by
  refine .attempt_bind (raises_await _) (fun services => raises_addServices _ _) fun e he => ?_
  dsimp only
  by_cases hcaught : e.oneOf [.onvifError, .fault]
  · rw [if_pos hcaught]
    exact .pure false
  · rw [if_neg hcaught]
    exact .raise he

theorem notKeyError_of_not_caught {e : Exc} (h : ¬e.oneOf capabilityErrors) : NotKeyError e := by
  rcases e with _ | _ | _ | _ | _ | _ | ⟨cls, message⟩
  case builtin =>
    cases cls with
    | keyError => exact absurd rfl h
    | _ => rfl
  all_goals rfl

/-- A `KeyError` of a malformed capability is caught. -/
theorem raises_addCapabilities (entries : List (Option String × Capability)) :
    Raises Admissible NotKeyError (addCapabilities C entries) := by
  refine .forEach (fun entry => ?_) entries
  refine .tryExcept (.any _) fun e _ => ?_
  by_cases hcaught : e.oneOf capabilityErrors
  · rw [if_pos hcaught]
    exact .pure ()
  · rw [if_neg hcaught]
    exact .raise (notKeyError_of_not_caught hcaught)

theorem raises_updateXaddrsFromCapabilities (devicemgmt : ServiceId) :
    Raises Admissible NotKeyError (updateXaddrsFromCapabilities C devicemgmt) := by
  refine .bind (raises_await _) fun reply => .bind (raises_addCapabilities _) fun _ => ?_
  by_cases hserializable : reply.serializable = true
  · rw [if_pos hserializable]
    exact .modifyState _
  · rw [if_neg hserializable]
    exact .pure ()

theorem does_updateXaddrsFromCapabilities (devicemgmt : ServiceId) (s : ONVIFCamera) :
    Does op (updateXaddrsFromCapabilities C devicemgmt) s fun _ _ => True :=
  .of_preserves (prepared_fromCapabilities devicemgmt) (raises_updateXaddrsFromCapabilities devicemgmt)

theorem does_updateXaddrs (s : ONVIFCamera) : Does op (updateXaddrs C) s fun _ _ => True := by
  refine .bind (.modifyState rfl rfl (.bind ?_))
  refine (does_devicemgmtWithTime _).mono fun sid s₁ _ => .bind (.modifyState rfl rfl (.bind ?_))
  have hservices : Does op (updateXaddrsFromServices C sid) (s₁.setXaddrs Dict.empty)
      fun _ _ => True :=
    .of_preserves (preserves_updateXaddrsFromServices prepared_setXaddr (prepared_await rfl))
      (raises_updateXaddrsFromServices sid)
  refine hservices.mono fun found s₂ _ => ?_
  cases found with
  | true => exact .pure trivial
  | false => exact does_updateXaddrsFromCapabilities sid s₂

theorem does_getCapabilities (s : ONVIFCamera) :
    Does op (getCapabilities C) s fun _ _ => True := by
  refine .getState ?_
  cases s.capabilities with
  | some capabilities => exact .pure trivial
  | none =>
    refine .bind ((does_devicemgmtWithTime s).mono fun sid s₁ _ => .bind ?_)
    exact (does_updateXaddrsFromCapabilities sid s₁).mono fun _ _ _ => .getState (.pure trivial)

/-! ### Calls as tasks -/

theorem does_perform (s : ONVIFCamera) : Does op (perform C op) s fun _ _ => True := by
  cases op with
  | updateXaddrs => exact .bind ((does_updateXaddrs s).mono fun _ _ _ => .pure trivial)
  | getCapabilities => exact .bind ((does_getCapabilities s).mono fun _ _ _ => .pure trivial)
  | createOnvifService name portType readTimeout =>
    exact .bind ((does_createOnvifService name portType readTimeout s).mono
      fun _ _ _ => .pure trivial)

/-- **A call of the consumer**, run as a task, keeps to the outline. -/
theorem follows_perform (hs : Registered s) :
    registryOutline.Follows op (perform C op >>= fun _ => pure ()) none s := by
  have hprepared : Prepared (none, s) s := ⟨⟨rfl, rfl⟩, hs⟩
  have hdoes : Does op (perform C op >>= fun _ => pure ()) s fun _ _ => True :=
    .bind ((does_perform s).mono fun _ _ _ => .pure trivial)
  refine wp_mono (fun r g s' hr => ?_) (hdoes (none, s) hprepared)
  cases r with
  | ok _ => exact ⟨Or.inl ⟨s', hr.1.1, rfl, rfl, fun e he => by cases he⟩, trivial⟩
  | error e => exact ⟨hr, trivial⟩

end ONVIFCamera

end Onvif
