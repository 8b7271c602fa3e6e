/-
`ONVIFCamera.close` of `onvif/client.py`, while other calls use the registry.

`close()` awaits inside the iteration over the live registry.  A run starts on any camera; its
consumer calls `close()` and whatever else at any time, and every call waited for may be answered
with an exception.

* **`ONVIFCamera.close`** — the code;
* **`Considerate`** — the steps on which `close()` relies;
* **`keeps_close`** — what each of its segments does, as long as the others keep to that;
* **`close_reaches_every_service`** — in every considerate run a `close()` that returned or raised has
  closed every service that was registered when it was called, and raises only what a `close()` it
  waited for raised.
-/
import OnvifZeep.DictIteration
import OnvifZeep.Registry
import OnvifZeep.Runs
import OnvifZeep.TaskPool

namespace Onvif

open Coro ONVIFCamera

/-- The calls of a camera whose consumer may close it. -/
inductive CloseCall where
  | closeSnapshotClient
  | closeSnapshotConnector
  | camera (c : CameraCall)
deriving DecidableEq

abbrev closeInterface : Interface where
  Call := CloseCall
  Answer
    | .closeSnapshotClient => Unit
    | .closeSnapshotConnector => Unit
    | .camera c => cameraInterface.Answer c

instance : DecidableEq closeInterface.Call := inferInstanceAs (DecidableEq CloseCall)

/-- A camera, and how often its registry got or lost an entry. -/
abbrev LiveCamera : Type := Versioned ONVIFCamera

namespace ONVIFCamera

def serviceKeys (s : ONVIFCamera) : List BindingKey := s.services.entries.map Prod.fst

def cameraCalls : Embedding cameraInterface closeInterface := ⟨.camera, fun _ a => a⟩

def onCamera {α : Type} (x : CameraCoro α) : Coro closeInterface Exc LiveCamera α :=
  versioned serviceKeys cameraCalls x

def runtimeError (message : String) : Exc := .builtin .runtimeError message

/-- `ONVIFCamera.close`; `layout` is for the iterator, should the registry change under it. -/
def close (layout : ℕ → Option ℕ) : Coro closeInterface Exc LiveCamera Unit := do
  call (I := closeInterface) .closeSnapshotClient
  call (I := closeInterface) .closeSnapshotConnector
  forValues ONVIFCamera.services runtimeError layout fun service => onCamera (closeService service)

end ONVIFCamera

namespace CameraClose

/-! ### Calls that overlap -/

inductive Kind where
  | consumer (op : CameraOp)
  -- `close()`, with the camera as it was called on it
  | close (atCall : ONVIFCamera)

abbrev ClosingTask : Type := Task Kind closeInterface Exc LiveCamera

abbrev ClosingTasks : Type := Pool Kind closeInterface Exc LiveCamera

inductive Action where
  | call (op : CameraOp)
  | close (layout : ℕ → Option ℕ)
  | answer (i : ℕ) (c : CloseCall) (r : Except Exc (closeInterface.Answer c))
  | elsewhere (now : ℤ) (wsdlDirFiles : Dict String (Option (List String)))
    (pathIsfile : String → Bool) (sessionRaises : Option Exc)

/-- One step; `none` if the action is not possible now. -/
def step (C : CameraConfig) (p : ClosingTasks) : Action → Option ClosingTasks
  | .call op => some (p.start (.consumer op) (onCamera (perform C op >>= fun _ => pure ())))
  | .close layout => some (p.start (.close p.shared.value) (ONVIFCamera.close layout))
  | .answer i c r => p.resume i c r
  | .elsewhere now wsdlDirFiles pathIsfile sessionRaises =>
    some (p.update fun t =>
      ⟨ONVIFCamera.surround now wsdlDirFiles pathIsfile sessionRaises t.value, t.version⟩)

/-- A camera nobody has called yet. -/
def initial (s : ONVIFCamera) : ClosingTasks := ⟨⟨s, 0⟩, []⟩

/-- Every service that was registered in `s₀` has had its `close()` called. -/
def AllClosed (s₀ s : ONVIFCamera) : Prop :=
  ∀ key sid v, s₀.existingService key = some (sid, v) → s.isClosed sid

/-- Every `close()` that is over has reached every service. -/
def ReachesAll (p : ClosingTasks) : Prop :=
  ∀ s₀ r, ⟨.close s₀, .done r⟩ ∈ p.tasks → AllClosed s₀ p.shared.value

/-- If a `close()` ends with an exception, a `close()` it waited for raised it. -/
def OwnFailures (p : ClosingTasks) (a : Action) (p' : ClosingTasks) : Prop :=
  ∀ i s₀ e, p'.tasks[i]? = some ⟨.close s₀, .done (.error e)⟩ →
    p.tasks[i]? = some ⟨.close s₀, .done (.error e)⟩ ∨ ∃ c, a = .answer i c (.error e)

/-- A `close()` is in its loop over the registry. -/
def Iterating (p : ClosingTasks) : Prop :=
  ∃ s₀ sid k, (⟨.close s₀, .waiting (.camera (.close sid)) k⟩ : ClosingTask) ∈ p.tasks

/-- No service that was registered in `s₀` leaves the registry before its `close()` was called. -/
def StaysRegistered (s₀ s s' : ONVIFCamera) : Prop :=
  ∀ key sid v, s₀.existingService key = some (sid, v) → s.services.get? key = some sid →
    s.isClosed sid ∨ s'.services.get? key = some sid

/-- What `close()` takes for granted of every step. -/
structure Considerate (p : ClosingTasks) (a : Action) (p' : ClosingTasks) : Prop where
  -- none of the `close()` calls it waits for raises but that of the last service
  failsLast : ∀ i c e s₀ k, a = .answer i c (.error e) →
    p.tasks[i]? = some ⟨.close s₀, .waiting c k⟩ → AllClosed s₀ p.shared.value
  -- others take no service out of the registry that it has still to close
  kept : ∀ s₀ c k, (⟨.close s₀, .waiting c k⟩ : ClosingTask) ∈ p.tasks →
    StaysRegistered s₀ p.shared.value p'.shared.value
  -- and add and remove nothing during the loop
  unchanged : Iterating p → p'.shared.version = p.shared.version

variable {C : CameraConfig} {p p' : ClosingTasks} {s₀ s s' s'' : ONVIFCamera}
  {t t' t'' : LiveCamera} {c : CloseCall} {o : Option CloseCall}

/-! ### What others do meanwhile -/

theorem AllClosed.of_extends (h : AllClosed s₀ s) (hkeeps : Extends s s') : AllClosed s₀ s' :=
  fun key sid v hv => hkeeps.isClosed (h key sid v hv)

/-- What a segment of any call does to the camera. -/
abbrev CameraSegment : LiveCamera → LiveCamera → Prop := VersionedSegment serviceKeys Extends

theorem CameraSegment.refl (t : LiveCamera) : CameraSegment t t := ⟨.refl _, .refl t⟩

/-- What has happened since a `close()` began to wait for a call, if it is not over. -/
structure SinceCall (s₀ : ONVIFCamera) (o : Option CloseCall) (t t' : LiveCamera) : Prop where
  segment : CameraSegment t t'
  kept : o.isSome → ∀ key sid v, s₀.existingService key = some (sid, v) →
    t.value.services.get? key = some sid →
    t'.value.isClosed sid ∨ t'.value.services.get? key = some sid
  version : ∀ sid, o = some (.camera (.close sid)) → t'.version = t.version

theorem SinceCall.refl (s₀ : ONVIFCamera) (o : Option CloseCall) (t : LiveCamera) :
    SinceCall s₀ o t t where
  segment := .refl t
  kept _ _ _ _ _ hsid := Or.inr hsid
  version _ _ := rfl

theorem SinceCall.trans (h : SinceCall s₀ o t t') (h' : SinceCall s₀ o t' t'') :
    SinceCall s₀ o t t'' where
  segment := ⟨h.segment.1.trans h'.segment.1, h.segment.2.trans h'.segment.2⟩
  kept ho key sid v hv hsid := by
    rcases h.kept ho key sid v hv hsid with hclosed | hsid
    · exact Or.inl (h'.segment.1.isClosed hclosed)
    · exact h'.kept ho key sid v hv hsid
  version sid ho := (h'.version sid ho).trans (h.version sid ho)

/-! ### The segments of `close()` -/

/-- The exception a call was answered with. -/
def failure {α : Type} : Except Exc α → Option Exc
  | .ok _ => none
  | .error e => some e

/-- The contract of `close()`; the ghost is the exception a segment begins with, and the camera
then. -/
def closing (s₀ : ONVIFCamera) : Contract closeInterface Exc LiveCamera (Option Exc × LiveCamera) where
  suspend g _ t := CameraSegment g.2 t
  resume _ c t r g' t' := g' = (failure r, t') ∧ SinceCall s₀ (some c) t t' ∧
    ∀ e, r = .error e → AllClosed s₀ t'.value

/-- How `close()` ends. -/
def Closed (s₀ : ONVIFCamera) (r : Except Exc Unit) (g : Option Exc × LiveCamera) (t : LiveCamera) :
    Prop :=
  CameraSegment g.2 t ∧ AllClosed s₀ t.value ∧ ∀ e, r = .error e → g.1 = some e

/-- Every service that is not closed yet is registered under its key. -/
def Pending (s₀ s : ONVIFCamera) : Prop :=
  Extends s₀ s ∧ ∀ key sid v, s₀.existingService key = some (sid, v) →
    s.isClosed sid ∨ s.services.get? key = some sid

theorem Pending.refl (s : ONVIFCamera) : Pending s s :=
  ⟨.refl s, fun _ _ _ hv => Or.inr (existingService_eq_some.mp hv).1⟩

theorem Pending.meanwhile (h : Pending s₀ t.value) (hsince : SinceCall s₀ (some c) t t') :
    Pending s₀ t'.value := by
  refine ⟨h.1.trans hsince.segment.1, fun key sid v hv => ?_⟩
  rcases h.2 key sid v hv with hclosed | hsid
  · exact Or.inl (hsince.segment.1.isClosed hclosed)
  · exact hsince.kept rfl key sid v hv hsid

/-- A call answered with an exception ends `close()`. -/
theorem closed_of_failure {r : Except Exc (closeInterface.Answer c)} {e : Exc}
    {g g' : Option Exc × LiveCamera} (hr : r = .error e)
    (h : (closing s₀).resume g c t r g' t') : Closed s₀ (.error e) g' t' := by
  obtain ⟨rfl, -, hclosed⟩ := h
  subst hr
  refine ⟨.refl t', hclosed e rfl, fun e' he' => ?_⟩
  rw [Except.error.inj he']
  rfl

/-- Before the loop comes to entry `i`; it began on `t₁`. -/
structure Visiting (s₀ : ONVIFCamera) (t₁ : LiveCamera) (i : ℕ) (g : Option Exc × LiveCamera)
    (t : LiveCamera) : Prop where
  segment : CameraSegment g.2 t
  keeps : Extends s₀ t.value
  version : t.version = t₁.version
  keys : serviceKeys t.value = serviceKeys t₁.value
  left : ∀ key sid v, s₀.existingService key = some (sid, v) → t.value.isClosed sid ∨
    t.value.services.get? key = some sid ∧ key ∈ (serviceKeys t.value).drop i

/-- What is registered is still to come when the loop begins. -/
theorem Pending.visiting (h : Pending s₀ t.value) {g : Option Exc × LiveCamera}
    (hg : CameraSegment g.2 t) : Visiting s₀ t 0 g t where
  segment := hg
  keeps := h.1
  version := rfl
  keys := rfl
  left key sid v hv := by
    refine (h.2 key sid v hv).imp_right fun hsid => ⟨hsid, ?_⟩
    exact List.mem_map_of_mem (Dict.mem_entries_of_get? hsid)

/-- **One service of the loop**: it is closed, and the others are as they were or closed. -/
theorem visiting_closeService {t₁ : LiveCamera} {i : ℕ} {g : Option Exc × LiveCamera}
    {entry : BindingKey × ServiceId} (h : Visiting s₀ t₁ i g t)
    (hentry : t.value.services.entries[i]? = some entry) :
    wp (closing s₀) (Ends (fun _ => Visiting s₀ t₁ (i + 1)) fun e => Closed s₀ (.error e))
      (onCamera (closeService entry.2)) g t := by
  obtain ⟨hlt, hget⟩ := List.getElem?_eq_some_iff.mp hentry
  -- the state in which the call is waited for
  let t₂ : LiveCamera := t.replace serviceKeys (t.value.markClosed entry.2)
  have hversion : t₂.version = t.version := if_pos rfl
  have hmark : CameraSegment t t₂ := ⟨.markClosed entry.2, .replace t _⟩
  refine ⟨⟨h.segment.1.trans hmark.1, h.segment.2.trans hmark.2⟩, fun r g' t' hr => ?_⟩
  obtain ⟨hg', hsince, -⟩ := id hr
  cases r with
  | error e => exact closed_of_failure rfl hr
  | ok a =>
    have hsame : t'.version = t₂.version := hsince.version _ rfl
    have hkeys : serviceKeys t'.value = serviceKeys t.value := hsince.segment.2.keys hsame
    have hkeeps : Extends t.value t'.value := hmark.1.trans hsince.segment.1
    refine ⟨?_, h.keeps.trans hkeeps, hsame.trans (hversion.trans h.version),
      hkeys.trans h.keys, fun key sid v hv => ?_⟩
    · rw [hg']
      exact .refl t'
    rcases h.left key sid v hv with hclosed | ⟨hsid, hmem⟩
    · exact Or.inl (hkeeps.isClosed hclosed)
    obtain ⟨v', hv', -⟩ := h.keeps.exists_service? (existingService_eq_some.mp hv).2
    have hdrop : (serviceKeys t.value).drop i
        = entry.1 :: (serviceKeys t.value).drop (i + 1) := by
      have hlen : i < (serviceKeys t.value).length := by rwa [serviceKeys, List.length_map]
      rw [List.drop_eq_getElem_cons hlen]
      simp [serviceKeys, hget]
    rw [hdrop] at hmem
    rcases List.mem_cons.mp hmem with rfl | hmem
    · -- the service is the one of this entry, unless it was closed before
      have hself := Dict.get?_of_mem_entries (List.mem_of_getElem? hentry)
      obtain rfl : entry.2 = sid := Option.some.inj (hself.symm.trans hsid)
      exact Or.inl (hsince.segment.1.isClosed (isClosed_markClosed hv'))
    · rw [hkeys]
      exact (hsince.kept rfl key sid v hv hsid).imp_right fun hsid => ⟨hsid, hmem⟩

/-- **The segments of `close()`**, as long as the others keep to the contract. -/
theorem keeps_close (layout : ℕ → Option ℕ) (t : LiveCamera) :
    wp (closing t.value) (Closed t.value) (ONVIFCamera.close layout) (none, t) t := by
  rw [ONVIFCamera.close, wp_bind]
  refine (wp_call _).mpr ⟨.refl t, fun r g₁ t₁ hr => ?_⟩
  have hpending : Pending t.value t₁.value := (Pending.refl t.value).meanwhile hr.2.1
  cases r with
  | error e => exact closed_of_failure rfl hr
  | ok a =>
    -- what is registered stays so until it is closed, before the loop as well
    rw [ends_ok, wp_bind]
    have hg₁ : CameraSegment g₁.2 t₁ := by
      rw [hr.1]
      exact .refl t₁
    refine (wp_call _).mpr ⟨hg₁, fun r g₂ t₂ hr => ?_⟩
    cases r with
    | error e => exact closed_of_failure rfl hr
    | ok a =>
      have hg₂ : CameraSegment g₂.2 t₂ := by
        rw [hr.1]
        exact .refl t₂
      rw [ends_ok]
      refine wp_forValues (Visiting t.value t₂) (fun i g t h => ?_)
        (fun i entry g t h hentry => visiting_closeService h hentry) (fun g t h => ?_)
        ((hpending.meanwhile hr.2.1).visiting hg₂)
      · have hlength := congrArg List.length h.keys
        rw [serviceKeys, serviceKeys, List.length_map, List.length_map] at hlength
        exact ⟨h.version, hlength⟩
      · refine ⟨h.segment, fun key sid v hv => ?_, fun e he => by cases he⟩
        rcases h.left key sid v hv with hclosed | ⟨-, hmem⟩
        · exact hclosed
        · -- nothing is left to come
          have hlength := congrArg List.length h.keys
          rw [List.drop_eq_nil_of_le] at hmem
          · exact absurd hmem List.not_mem_nil
          · rw [hlength, serviceKeys, List.length_map]

/-! ### Steps -/

/-- **The segments of the other calls**: services stay. -/
theorem keeps_perform (op : CameraOp) (t : LiveCamera) :
    wp (segments CameraSegment) (fun _ => CameraSegment)
      (onCamera (perform C op >>= fun _ => pure ())) t t := by
  have hawait : ∀ c, Preserves (segments Extends) Extends (await c) := by
    refine fun c => .call (fun _ _ h => h) ?_
    rintro g s r g' s' - rfl
    exact .refl _
  have hperform : Preserves (segments Extends) Extends (perform C op >>= fun _ => pure ()) :=
    .bind (preserves_perform (fun _ _ _ hupdate h => h.trans hupdate.extends) hawait op)
      fun _ => .pure ()
  exact wp_versioned (hperform t.value t.value (.refl _)) rfl rfl (.refl t)

/-- Where a task stands, and what has happened since. -/
def TaskInv (u : ClosingTask) (t : LiveCamera) : Prop :=
  match u.kind with
  | .consumer _ => ∃ g t', u.status.Keeps (segments CameraSegment) (fun _ => CameraSegment) g t'
  | .close s₀ => ∃ g t', u.status.Keeps (closing s₀) (Closed s₀) g t' ∧ SinceCall s₀ u.pending t' t

theorem segment_of_keeps {st : Status closeInterface Exc LiveCamera Unit} {g : LiveCamera}
    (h : st.Keeps (segments CameraSegment) (fun _ => CameraSegment) g t) : CameraSegment g t := by
  cases st with
  | done r => exact h
  | waiting c k => exact h.1

theorem segment_of_keeps_closing {st : Status closeInterface Exc LiveCamera Unit}
    {g : Option Exc × LiveCamera} (h : st.Keeps (closing s₀) (Closed s₀) g t) :
    CameraSegment g.2 t := by
  cases st with
  | done r => exact h.1
  | waiting c k => exact h.1

/-- Others' steps leave a task where it stands. -/
theorem TaskInv.aside {u : ClosingTask} {a : Action} (h : TaskInv u p.shared) (hu : u ∈ p.tasks)
    (hsegment : CameraSegment p.shared p'.shared) (hconsiderate : Considerate p a p') :
    TaskInv u p'.shared := by
  obtain ⟨kind, st⟩ := u
  cases kind with
  | consumer op => exact h
  | close s₀ =>
    obtain ⟨g, t', hkeeps, hsince⟩ := h
    refine ⟨g, t', hkeeps, hsince.trans
      ⟨hsegment, fun ho key sid v hv hsid => ?_, fun sid ho => ?_⟩⟩
    · cases st with
      | done r => cases ho
      | waiting c k =>
        rcases hconsiderate.kept s₀ c k hu key sid v hv hsid with hclosed | hsid
        · exact Or.inl (hsegment.1.isClosed hclosed)
        · exact Or.inr hsid
    · cases st with
      | done r => cases ho
      | waiting c k =>
        obtain rfl : c = .camera (.close sid) := Option.some.inj ho
        exact hconsiderate.unchanged ⟨s₀, sid, k, hu⟩

/-- **A task that is answered** runs its next segment. -/
theorem TaskInv.answer {i : ℕ} {r : Except Exc (closeInterface.Answer c)} {kind : Kind}
    {k : Except Exc (closeInterface.Answer c) → Coro closeInterface Exc LiveCamera Unit}
    (h : TaskInv ⟨kind, .waiting c k⟩ p.shared) (hi : p.tasks[i]? = some ⟨kind, .waiting c k⟩)
    (hconsiderate : Considerate p (.answer i c r) p') :
    CameraSegment p.shared ((k r).run p.shared).1 ∧
      TaskInv ⟨kind, ((k r).run p.shared).2⟩ ((k r).run p.shared).1 ∧
      ∀ s₀ e, kind = .close s₀ → ((k r).run p.shared).2 = .done (.error e) → r = .error e := by
  cases kind with
  | consumer op =>
    obtain ⟨g, t', -, hk⟩ := h
    have hkeeps := wp_run (hk r p.shared p.shared rfl)
    exact ⟨segment_of_keeps hkeeps, ⟨_, _, hkeeps⟩, fun s₀ e hkind => by cases hkind⟩
  | close s₀ =>
    obtain ⟨g, t', ⟨-, hk⟩, hsince⟩ := h
    have hkeeps := wp_run (hk r (failure r, p.shared) p.shared
      ⟨rfl, hsince, fun e he => hconsiderate.failsLast i c e s₀ k (by rw [he]) hi⟩)
    refine ⟨segment_of_keeps_closing hkeeps, ⟨_, _, hkeeps, .refl _ _ _⟩, fun s₁ e _ hdone => ?_⟩
    rw [hdone] at hkeeps
    have hfailure : failure r = some e := hkeeps.2.2 e rfl
    cases r with
    | ok a => cases hfailure
    | error e' => rw [Option.some.inj hfailure]

/-- **The step lemma.** -/
theorem taskInv_step {a : Action} (h : ∀ u ∈ p.tasks, TaskInv u p.shared)
    (hstep : step C p a = some p') (hconsiderate : Considerate p a p') :
    (∀ u ∈ p'.tasks, TaskInv u p'.shared) ∧ OwnFailures p a p' := by
  cases a with
  | call op =>
    obtain rfl := Option.some.inj hstep
    have hkeeps := wp_run (keeps_perform (C := C) op p.shared)
    refine ⟨fun u hu => ?_, fun i s₀ e hi => ?_⟩
    · rcases List.mem_append.mp hu with hu | hu
      · exact (h u hu).aside hu (segment_of_keeps hkeeps) hconsiderate
      · rw [List.mem_singleton.mp hu]
        exact ⟨_, _, hkeeps⟩
    · rcases Pool.getElem?_concat_eq_some.mp hi with hi | ⟨-, hu⟩
      · exact Or.inl hi
      · cases (Task.mk.inj hu).1
  | close layout =>
    obtain rfl := Option.some.inj hstep
    have hkeeps := wp_run (keeps_close layout p.shared)
    refine ⟨fun u hu => ?_, fun i s₀ e hi => ?_⟩
    · rcases List.mem_append.mp hu with hu | hu
      · exact (h u hu).aside hu (segment_of_keeps_closing hkeeps) hconsiderate
      · rw [List.mem_singleton.mp hu]
        exact ⟨_, _, hkeeps, .refl _ _ _⟩
    · rcases Pool.getElem?_concat_eq_some.mp hi with hi | ⟨-, hu⟩
      · exact Or.inl hi
      · -- its first segment has no answer that could have failed
        rw [← (Task.mk.inj hu).2] at hkeeps
        cases hkeeps.2.2 e rfl
  | answer i c r =>
    obtain ⟨kind, k, hi, rfl⟩ := (Pool.resume_eq_some (I := closeInterface)).mp hstep
    obtain ⟨hsegment, hself, hfails⟩ := (h _ (List.mem_of_getElem? hi)).answer hi hconsiderate
    refine ⟨fun u hu => ?_, fun j s₀ e hj => ?_⟩
    · obtain ⟨j, hj⟩ := List.mem_iff_getElem?.mp hu
      rcases Pool.getElem?_set_eq_some hj with ⟨-, rfl⟩ | ⟨-, hj⟩
      · exact hself
      · have hu := List.mem_of_getElem? hj
        exact (h u hu).aside hu hsegment hconsiderate
    · rcases Pool.getElem?_set_eq_some hj with ⟨rfl, hu⟩ | ⟨-, hj⟩
      · obtain ⟨hkind, hstatus⟩ := Task.mk.inj hu
        rw [hfails s₀ e hkind.symm hstatus.symm]
        exact Or.inr ⟨c, rfl⟩
      · exact Or.inl hj
  | elsewhere now wsdlDirFiles pathIsfile sessionRaises =>
    obtain rfl := Option.some.inj hstep
    have hsegment : CameraSegment p.shared
        ⟨p.shared.value.surround now wsdlDirFiles pathIsfile sessionRaises, p.shared.version⟩ :=
      ⟨.of_eq rfl, Nat.le_refl _, fun _ => rfl⟩
    exact ⟨fun u hu => (h u hu).aside hu hsegment hconsiderate, fun i s₀ e hi => Or.inl hi⟩

/-- **`close()` reaches every service** in every considerate run, and fails only as a `close()` it waits
for does. -/
theorem close_reaches_every_service (C : CameraConfig) (s : ONVIFCamera) (actions : List Action)
    (p : ClosingTasks) (hrun : Runs.run (step C) (initial s) actions = some p)
    (hconsiderate : Runs.Along (step C) Considerate (initial s) actions) :
    ReachesAll p ∧ Runs.Along (step C) OwnFailures (initial s) actions := by
  have hinitial : ∀ u ∈ (initial s).tasks, TaskInv u (initial s).shared :=
    fun u hu => absurd hu List.not_mem_nil
  have hsteps : ∀ (p : ClosingTasks) (a : Action) (p' : ClosingTasks),
      (∀ u ∈ p.tasks, TaskInv u p.shared) → step C p a = some p' → Considerate p a p' →
      (∀ u ∈ p'.tasks, TaskInv u p'.shared) ∧ OwnFailures p a p' :=
    fun _ _ _ h hstep hconsiderate => taskInv_step h hstep hconsiderate
  refine ⟨fun s₀ r hmem => ?_, .of_invariant hsteps hinitial hconsiderate⟩
  have hinv := Runs.run_invariant
    (fun p a p' h hstep hconsiderate => (hsteps p a p' h hstep hconsiderate).1)
    hinitial hconsiderate hrun
  obtain ⟨g, t, ⟨-, hclosed, -⟩, hsince⟩ := hinv _ hmem
  exact hclosed.of_extends hsince.segment.1

/-! ### A camera with two services -/

def twoServices : ONVIFCamera :=
  { localCamera with
    services := localCamera.services.insert ("media", none) 1
    constructed := [localDevicemgmt, localMedia] }

/-- `close()`, up to where it waits for the first service. -/
def closeFirst : List Action :=
  [.close fun _ => none, .answer 0 .closeSnapshotClient (.ok ()),
    .answer 0 .closeSnapshotConnector (.ok ())]

/-- Nothing happens to the registry in a step that no call fails in. -/
theorem considerate_of_eq {a : Action} (hservices : p'.shared.value.services = p.shared.value.services)
    (hversion : p'.shared.version = p.shared.version)
    (ha : ∀ i c e, a ≠ .answer i c (.error e)) : Considerate p a p' where
  failsLast i c e _ _ heq := absurd heq (ha i c e)
  kept _ _ _ _ key sid _ _ hsid := Or.inr (by rwa [hservices])
  unchanged _ := hversion

def closeBoth : List Action :=
  closeFirst ++ [.call (.createOnvifService "devicemgmt" none none),
    .answer 0 (.camera (.close 0)) (.ok ()), .answer 0 (.camera (.close 1)) (.ok ())]

/-- Meanwhile somebody asks for a service that is there. -/
theorem close_reaches_every_service_of_two :
    ∃ p, Runs.run (step localConfig) (initial twoServices) closeBoth = some p ∧ ReachesAll p ∧
      Runs.Along (step localConfig) OwnFailures (initial twoServices) closeBoth := by
  refine ⟨_, rfl, close_reaches_every_service localConfig twoServices closeBoth _ rfl ?_⟩
  have hquiet : ∀ {p p' : ClosingTasks} {a : Action} {as : List Action},
      step localConfig p a = some p' → p'.shared.value.services = p.shared.value.services →
      p'.shared.version = p.shared.version → (∀ i c e, a ≠ .answer i c (.error e)) →
      Runs.Along (step localConfig) Considerate p' as →
      Runs.Along (step localConfig) Considerate p (a :: as) :=
    fun hstep hservices hversion ha h => h.cons hstep (considerate_of_eq hservices hversion ha)
  refine hquiet rfl rfl rfl (fun _ _ _ h => by cases h) ?_
  refine hquiet rfl rfl rfl (fun _ _ _ h => by cases h) ?_
  refine hquiet rfl rfl rfl (fun _ _ _ h => by cases h) ?_
  refine hquiet rfl rfl rfl (fun _ _ _ h => by cases h) ?_
  refine hquiet rfl rfl rfl (fun _ _ _ h => by cases h) ?_
  exact hquiet rfl rfl rfl (fun _ _ _ h => by cases h) trivial

/-- Closing the device service fails, and the media service is never closed. -/
theorem close_skips_media_service :
    ¬∀ (C : CameraConfig) (s : ONVIFCamera) (actions : List Action) (p : ClosingTasks),
      Runs.run (step C) (initial s) actions = some p →
        ReachesAll p ∧ Runs.Along (step C) OwnFailures (initial s) actions := by
  intro h
  obtain ⟨hreached, -⟩ := h localConfig twoServices (closeFirst ++
    [.answer 0 (.camera (.close 0)) (.error (runtimeError "Session is closed"))]) _ rfl
  have hclosed := hreached twoServices _ (List.mem_singleton.mpr rfl) ("media", none) 1 localMedia rfl
  exact absurd hclosed (by decide +kernel)

/-- A service is set up while another is closed, and the iterator raises. -/
example : (Runs.run (step localConfig)
    (initial { twoServices with services := Dict.empty.insert ("media", none) 1 })
    (closeFirst ++ [.call (.createOnvifService "devicemgmt" none none),
      .answer 1 (.camera (.setup 2)) (.ok ()), .answer 0 (.camera (.close 1)) (.ok ())])).any
    (fun p => (p.tasks[0]?).any fun task => match task.status with
      | .done (.error e) => e.str == "dictionary changed size during iteration"
      | _ => false) = true := by decide +kernel

end CameraClose

end Onvif
