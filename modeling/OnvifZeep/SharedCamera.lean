/-
A pull-point manager and a notification manager on one camera, in any interleaving.

* **`ManagerInv`** — what holds of each manager as long as others keep to what is not its own;
* **`managerInv_step`**, **`ManagerInv.aside`** — a step of the manager keeps it, and so does
  what others do meanwhile;
* **`Pair`** — the two managers; `pairInv_run` carries both invariants through every run;
* **`managers_isolated`** — neither closes a session of the other, and a `_start()` that
  completes leaves its services at the address of its own reply.
-/
import OnvifZeep.Isolation

namespace Onvif

open Coro BaseManager ONVIFCamera Onvif.System

namespace SharedCamera

abbrev CameraSystem : Type := System cameraInterface ONVIFCamera

abbrev CameraWakeup : Type := ManagerWakeup cameraInterface ONVIFCamera

variable {C : CameraConfig} {interval : TimeDelta} {k : ManagerKind} {good : Prop}
  {history history' : TaskId → List CameraWakeup} {S S' : CameraSystem} {m m' : CameraManager}

/-! ### Tasks that do not call `_start()` -/

/-- `stop()` and `shutdown()` leave alone what `_start()` works on. -/
def Apart (m m' : CameraManager) : Prop :=
  m'.held = m.held ∧ (m.shutdown = true → m'.shutdown = true)

theorem Apart.refl (m : CameraManager) : Apart m m := ⟨rfl, id⟩

theorem Apart.meanwhile (h : Apart m m') : Meanwhile k m m' := .of_held h.1 h.2

/-- The kinds of tasks that call `_start()`. -/
def Working : Kind → Prop
  | .start | .background => True
  | .stop | .shutdown => False

theorem wp_apart {M : ManagerClass ONVIFCamera cameraInterface} {kind : Kind}
    (hkind : ¬Working kind) (m : CameraManager) :
    wp (within Apart) (fun _ => Apart) (task M kind) m m := by
  have hcancel : ∀ m m' : CameraManager, Apart m m' → Apart m m'.cancelRenewals := by
    intro m m' h
    obtain ⟨hheld, hshutdown, -⟩ := cancelRenewals_fields m'
    exact ⟨hheld.trans h.1, fun hm => hshutdown.trans (h.2 hm)⟩
  have hstop : Preserves (within Apart) Apart (BaseManager.stop : ManagerCoro cameraInterface _ _) :=
    preserves_stop (preserves_call_within Apart.refl) hcancel
  cases kind with
  | background => exact (hkind trivial).elim
  | start => exact (hkind trivial).elim
  | stop => exact hstop m m (.refl m)
  | shutdown =>
    rw [task, shutdownManager, wp_bind, wp_modifyState, ends_ok]
    exact hstop m _ ⟨rfl, fun _ => rfl⟩

/-! ### The invariant of one manager -/

/-- What the tasks of the manager know and leave behind, as long as others leave alone what is the
manager's. -/
structure Serving (C : CameraConfig) (interval : TimeDelta) (k : ManagerKind) (good : Prop)
    (history : TaskId → List CameraWakeup) (S : CameraSystem) : Prop where
  recorded : Recorded (manager C interval k) history S
  fit : Fit k S.shared
  fresh : (∀ u ∈ S.tasks, u.kind ≠ .start) → good → Clean k S.shared.held.device
  idle : (∀ kind t, Working kind → ¬S.Unfinished kind t) → good →
    Clean k S.shared.held.device ∨ S.shared.shutdown = true
  working : ∀ (t : TaskId) u, S.tasks[t]? = some u → Working u.kind → u.pending.isSome →
    ∃ g m, g.wakeups = history t ∧
      u.status.Keeps (isolated k good) (Finished C interval k good u.kind) g m ∧
      Meanwhile k m S.shared

theorem unfinished_of_getElem? {t : TaskId} {u : Task Kind _ Exc CameraManager}
    (hu : S.tasks[t]? = some u) (hpending : u.pending.isSome) : S.Unfinished u.kind t :=
  ⟨u, hu, rfl, hpending⟩

/-- **Others** may do anything but touch what is the manager's or its tasks that call
`_start()`. -/
theorem Serving.aside (h : Serving C interval k good history S)
    (hrecorded : Recorded (manager C interval k) history' S')
    (hm : Meanwhile k S.shared S'.shared)
    (htasks : ∀ (t : TaskId) u, Working u.kind → (S'.tasks[t]? = some u ↔ S.tasks[t]? = some u))
    (hhistory : ∀ (t : TaskId) u, S.tasks[t]? = some u → Working u.kind → history' t = history t) :
    Serving C interval k good history' S' where
  recorded := hrecorded
  fit := h.fit.meanwhile hm
  fresh hnone hgood := by
    refine (h.fresh (fun u hu hk => ?_) hgood).meanwhile h.fit hm
    obtain ⟨t, ht⟩ := List.mem_iff_getElem?.mp hu
    exact hnone u (List.mem_of_getElem? ((htasks t u (hk ▸ trivial)).mpr ht)) hk
  idle hidle hgood := by
    refine (h.idle (fun kind t hkind ht => ?_) hgood).imp (fun hc => hc.meanwhile h.fit hm) hm.shutdown
    obtain ⟨u, hu, rfl, hpending⟩ := ht
    exact hidle u.kind t hkind (unfinished_of_getElem? ((htasks t u hkind).mpr hu) hpending)
  working t u hu hkind hpending := by
    have hu₀ := (htasks t u hkind).mp hu
    obtain ⟨g, m, hg, hkeeps, hmeanwhile⟩ := h.working t u hu₀ hkind hpending
    exact ⟨g, m, hg.trans (hhistory t u hu₀ hkind).symm, hkeeps, hmeanwhile.trans hm⟩

/-- A change of the manager's fields. -/
theorem Serving.update (h : Serving C interval k good history S) {f : CameraManager → CameraManager}
    (hm : Meanwhile k S.shared (f S.shared)) : Serving C interval k good history (S.update f) :=
  h.aside (h.recorded.update f) hm (fun _ _ _ => Iff.rfl) fun _ _ _ _ => rfl

theorem sharing_of_keeps {kind : Kind} {st : Status (managerInterface cameraInterface) Exc _ Unit}
    {g : Past} (h : st.Keeps (isolated k good) (Finished C interval k good kind) g m) :
    Sharing k g m := by
  cases st with
  | done r => exact h.toSharing
  | waiting c f => exact ⟨h.1.1, h.1.2⟩

/-- A task that is finished leaves the registry as it must be. -/
theorem clean_of_keeps {u : Task Kind (managerInterface cameraInterface) Exc CameraManager}
    {kind : Kind} {g : Past}
    (h : u.status.Keeps (isolated k good) (Finished C interval k good kind) g m)
    (hdone : ¬u.pending.isSome) (hgood : good) :
    Clean k m.held.device ∨ m.shutdown = true := by
  obtain ⟨kind, st⟩ := u
  cases st with
  | done r => exact h.clean hgood
  | waiting c f => exact (hdone rfl).elim

/-- **A task that calls `_start()`** begins, when no other is in progress. -/
theorem Serving.spawn (h : Serving C interval k good history S) {kind : Kind}
    (hkind : Working kind) (hidle : ∀ kind t, Working kind → ¬S.Unfinished kind t)
    (hstarted : kind = .start ∨ ∃ u ∈ S.tasks, u.kind = .start)
    (hkeeps : ((task (manager C interval k) kind).run S.shared).2.Keeps (isolated k good)
      (Finished C interval k good kind) ⟨S.shared.held.device, []⟩
      ((task (manager C interval k) kind).run S.shared).1) :
    Serving C interval k good history (S.start kind (task (manager C interval k) kind)) where
  recorded := h.recorded.spawn kind
  fit := (sharing_of_keeps hkeeps).fit
  fresh hnone := by
    rcases hstarted with rfl | ⟨u, hu, hk⟩
    · exact (hnone _ (List.mem_append_right _ (List.mem_singleton_self _)) rfl).elim
    · exact (hnone u (List.mem_append_left _ hu) hk).elim
  idle hidle' hgood := by
    refine clean_of_keeps (u := ⟨kind, _⟩) hkeeps (fun hpending => ?_) hgood
    exact hidle' kind S.tasks.length hkind
      (unfinished_of_getElem? List.getElem?_concat_length hpending)
  working t u hu hkind hpending := by
    rcases Pool.getElem?_concat_eq_some.mp hu with hu | ⟨rfl, rfl⟩
    · exact (hidle u.kind t hkind (unfinished_of_getElem? hu hpending)).elim
    · exact ⟨_, _, (h.recorded.fresh _ (Nat.le_refl _)).symm, hkeeps, .refl _⟩

/-- **One segment** of a task that is answered, when a `close()` raises only after a shutdown. -/
theorem Serving.segment (h : Serving C interval k good history S) {t : TaskId}
    {c : (managerInterface cameraInterface).Call}
    {r : Except Exc ((managerInterface cameraInterface).Answer c)}
    (hclose : good → CloseRaises c r → S.shared.shutdown = true)
    (hstep : step (manager C interval k) S (.answer t c r) = some S') :
    ∃ u u', S.tasks[t]? = some u ∧ u.pending = some c ∧ u'.kind = u.kind ∧
      S'.tasks = S.tasks.set t u' ∧
      (Working u.kind → u'.status.Keeps (isolated k good) (Finished C interval k good u.kind)
        ⟨S.shared.held.device, history t ++ [⟨c, r, deliverCancel t S.shared⟩]⟩ S'.shared) ∧
      (¬Working u.kind → Apart S.shared S'.shared) := by
  obtain ⟨kind, f, m₀, hu, rfl, hreplay⟩ := h.recorded.resumed hstep
  refine ⟨_, ⟨kind, ((f r).run (deliverCancel t S.shared)).2⟩, hu, rfl, rfl, rfl, fun hkind => ?_,
    fun hkind => ?_⟩
  · obtain ⟨g, m, hg, hkeeps, hm⟩ := h.working t _ hu hkind rfl
    refine wp_run (hkeeps.2 r _ _ ⟨?_, hm.trans (.of_held rfl id), hclose⟩)
    rw [hg]
    rfl
  · exact within_replay (wp_apart hkind m₀) hreplay

/-- The invariant of a manager. -/
structure ManagerInv (C : CameraConfig) (interval : TimeDelta) (k : ManagerKind) (good : Prop)
    (history : TaskId → List CameraWakeup) (S : CameraSystem) : Prop
    extends Serving C interval k good history S where
  first : StartedFirst (manager C interval k) S

/-- At most one task calls `_start()` at a time. -/
theorem ManagerInv.working_unique (h : ManagerInv C interval k good history S) {kind kind' : Kind}
    {t t' : TaskId} (hkind : Working kind) (ht : S.Unfinished kind t) (hkind' : Working kind')
    (ht' : S.Unfinished kind' t') : t = t' := by
  cases kind with
  | stop => exact hkind.elim
  | shutdown => exact hkind.elim
  | start =>
    cases kind' with
    | stop => exact hkind'.elim
    | shutdown => exact hkind'.elim
    | start => exact h.first.once t t' ht ht'
    | background => exact (h.first.noRenewal t ht t' ht').elim
  | background =>
    cases kind' with
    | stop => exact hkind'.elim
    | shutdown => exact hkind'.elim
    | start => exact (h.first.noRenewal t' ht' t ht).elim
    | background =>
      exact Option.some.inj ((h.first.inv.recorded t ht).symm.trans (h.first.inv.recorded t' ht'))

/-- A task in progress that calls `_start()` comes after a `start()`. -/
theorem ManagerInv.started (h : ManagerInv C interval k good history S) {kind : Kind} {t : TaskId}
    (hkind : Working kind) (ht : S.Unfinished kind t) : ∃ u ∈ S.tasks, u.kind = .start := by
  by_contra hnone
  have hnone' : ∀ u ∈ S.tasks, u.kind ≠ .start := fun u hu hk => hnone ⟨u, hu, hk⟩
  cases kind with
  | stop => exact hkind
  | shutdown => exact hkind
  | start =>
    obtain ⟨u, hu, hk, -⟩ := ht
    exact hnone' u (List.mem_of_getElem? hu) hk
  | background => exact (h.first.before hnone').2 t ht

theorem ManagerInv.answer (h : ManagerInv C interval k good history S) {t : TaskId}
    {c : (managerInterface cameraInterface).Call}
    {r : Except Exc ((managerInterface cameraInterface).Answer c)}
    (hclose : good → CloseRaises c r → S.shared.shutdown = true)
    (hstep : step (manager C interval k) S (.answer t c r) = some S') :
    Serving C interval k good
        (fun t' => history t' ++ (wakeup t' S (.answer t c r)).toList) S' ∧
      Within k S.shared.held.device S'.shared.held.device := by
  have hrecorded := recorded_step h.recorded hstep
  obtain ⟨u, u', hu, hpending, hkind, htasks, hworking, hapart⟩ := h.segment hclose hstep
  have hself : S'.tasks[t]? = some u' := by
    rw [htasks, List.getElem?_set_self (List.getElem?_eq_some_iff.mp hu).1]
  have hother : ∀ t', t' ≠ t → S'.tasks[t']? = S.tasks[t']? := fun t' hne => by
    rw [htasks, List.getElem?_set_ne (Ne.symm hne)]
  by_cases hwork : Working u.kind
  · have hkeeps := hworking hwork
    have hsharing := sharing_of_keeps hkeeps
    have hunfinished : S.Unfinished u.kind t := unfinished_of_getElem? hu (by simp [hpending])
    refine ⟨⟨hrecorded, hsharing.fit, fun hnone => ?_, fun hidle hgood => ?_,
      fun t' v hv hv' hpending' => ?_⟩, hsharing.within⟩
    · obtain ⟨v, hv, hk⟩ := h.started hwork hunfinished
      obtain ⟨i, hi⟩ := List.mem_iff_getElem?.mp hv
      obtain ⟨v', hv', hk'⟩ := Pool.getElem?_set_kind hu hkind hi
      rw [← htasks] at hv'
      exact (hnone v' (List.mem_of_getElem? hv') (hk'.trans hk)).elim
    · refine clean_of_keeps hkeeps (fun hpending' => ?_) hgood
      exact hidle u'.kind t (hkind ▸ hwork) (unfinished_of_getElem? hself hpending')
    · by_cases hne : t' = t
      · subst hne
        obtain rfl := Option.some.inj (hself.symm.trans hv)
        rw [hkind, append_wakeup_self]
        exact ⟨_, _, rfl, hkeeps, .refl _⟩
      · rw [hother t' hne] at hv
        exact (hne (h.working_unique hv' (unfinished_of_getElem? hv hpending') hwork
          hunfinished)).elim
  · -- a task that only tears down
    have hm := hapart hwork
    refine ⟨h.toServing.aside hrecorded hm.meanwhile (fun t' v hv => ?_) fun t' v hv hv' => ?_, ?_⟩
    · by_cases hne : t' = t
      · subst hne
        rw [hself, hu]
        constructor
        · intro heq
          rw [← Option.some.inj heq, hkind] at hv
          exact (hwork hv).elim
        · intro heq
          rw [← Option.some.inj heq] at hv
          exact (hwork hv).elim
      · rw [hother t' hne]
    · refine append_wakeup_of_ne fun heq => hwork ?_
      rw [heq, hu] at hv
      rwa [Option.some.inj hv]
    · rw [hm.1]
      exact .refl _

/-- A task that only tears down starts. -/
theorem Serving.teardown (h : Serving C interval k good history S) {kind : Kind}
    (hkind : ¬Working kind) :
    Serving C interval k good history (S.start kind (task (manager C interval k) kind)) ∧
      Apart S.shared (S.start kind (task (manager C interval k) kind)).shared := by
  have hapart : Apart S.shared ((task (manager C interval k) kind).run S.shared).1 := by
    have hkeeps := wp_run (wp_apart (M := manager C interval k) hkind S.shared)
    cases hst : ((task (manager C interval k) kind).run S.shared).2 with
    | done r =>
      rw [hst] at hkeeps
      exact hkeeps
    | waiting c f =>
      rw [hst] at hkeeps
      exact hkeeps.1
  refine ⟨h.aside (h.recorded.spawn kind) hapart.meanwhile (fun t u hu => ?_) fun _ _ _ _ => rfl,
    hapart⟩
  constructor
  · intro hu'
    rcases Pool.getElem?_concat_eq_some.mp hu' with hu' | ⟨-, rfl⟩
    · exact hu'
    · exact (hkind hu).elim
  · exact Pool.getElem?_append_of_some

/-- The timer fires. -/
theorem ManagerInv.fire (h : ManagerInv C interval k good history S) {i : ℕ}
    (hlive : S.shared.isLive i = true) :
    Serving C interval k good history
        (runRestartOrRenew (manager C interval k) (S.update (fireTimer i))) ∧
      Within k S.shared.held.device
        (runRestartOrRenew (manager C interval k) (S.update (fireTimer i))).shared.held.device := by
  have hfired : Serving C interval k good history (S.update (fireTimer i)) :=
    h.toServing.update (.of_held rfl id)
  rw [runRestartOrRenew]
  by_cases hrunning : (S.update (fireTimer i)).shared.restartOrRenewTask.any
      (isUnfinished (S.update (fireTimer i))) = true
  · rw [if_pos hrunning]
    exact ⟨hfired, .refl _⟩
  · rw [if_neg hrunning]
    have hidle : ∀ kind t, Working kind → ¬(S.update (fireTimer i)).Unfinished kind t := by
      intro kind t hkind ht
      cases kind with
      | stop => exact hkind
      | shutdown => exact hkind
      | start => exact h.first.noLiveTimer t ht i hlive
      | background =>
        refine hrunning ?_
        rw [show (S.update (fireTimer i)).shared.restartOrRenewTask = some t from
          h.first.inv.recorded t ht]
        exact isUnfinished_of_unfinished ht
    have hstarted : ∃ u ∈ S.tasks, u.kind = .start := by
      by_contra hnone
      exact (h.first.before fun u hu hk => hnone ⟨u, hu, hk⟩).1 i hlive
    have htidy : Tidy k good ⟨S.shared.held.device, []⟩ (S.update (fireTimer i)).shared :=
      ⟨⟨.refl _, hfired.fit⟩, hfired.idle hidle⟩
    have hspawned := hfired.spawn (show Working .background from trivial) hidle (Or.inr hstarted)
      (wp_run (wp_background htidy rfl))
    exact ⟨hspawned.update (.of_held rfl id), .refl _⟩

/-- No `close()` raises before a shutdown. -/
def ClosesSucceed (S : CameraSystem) : System.Action cameraInterface ONVIFCamera → Prop
  | .answer _ c r => CloseRaises c r → S.shared.shutdown = true
  | .start | .pause | .resume | .stop | .shutdown | .fire _ | .environment _ _ _ => True

/-- What the surroundings do, and not the manager. -/
def Surrounding : System.Action cameraInterface ONVIFCamera → Prop
  | .environment _ _ _ => True
  | .start | .pause | .resume | .stop | .shutdown | .fire _ | .answer _ _ _ => False

instance : DecidablePred Surrounding
  | .environment _ _ _ => isTrue trivial
  | .start | .pause | .resume | .stop | .shutdown | .fire _ | .answer _ _ _ => isFalse id

/-- **A step of the manager** keeps the invariant and changes only what is the manager's. -/
theorem managerInv_step (h : ManagerInv C interval k good history S)
    {a : System.Action cameraInterface ONVIFCamera} (horderly : a.Orderly S) (hown : ¬Surrounding a)
    (hclose : good → ClosesSucceed S a) (hstep : step (manager C interval k) S a = some S') :
    ManagerInv C interval k good (fun t => history t ++ (wakeup t S a).toList) S' ∧
      Within k S.shared.held.device S'.shared.held.device := by
  have hfirst := startedFirst_step h.first horderly hstep
  -- every action but an answer leaves the histories as they are
  have hsame : ∀ {S' : CameraSystem}, Serving C interval k good history S' →
      Within k S.shared.held.device S'.shared.held.device →
      Serving C interval k good (fun t => history t ++ []) S' ∧
        Within k S.shared.held.device S'.shared.held.device := by
    intro S' hserving hwithin
    simp only [List.append_nil]
    exact ⟨hserving, hwithin⟩
  suffices H : Serving C interval k good (fun t => history t ++ (wakeup t S a).toList) S' ∧
      Within k S.shared.held.device S'.shared.held.device from ⟨⟨H.1, hfirst⟩, H.2⟩
  cases a with
  | start =>
    obtain rfl := Option.some.inj hstep
    have hidle : ∀ kind t, Working kind → ¬S.Unfinished kind t := fun kind t hkind ht => by
      obtain ⟨u, hu, hk⟩ := h.started hkind ht
      exact horderly u hu hk
    have hkeeps : ((task (manager C interval k) .start).run S.shared).2.Keeps (isolated k good)
        (Finished C interval k good .start) ⟨S.shared.held.device, []⟩
        ((task (manager C interval k) .start).run S.shared).1 :=
      wp_run (wp_start ⟨⟨.refl _, h.fit⟩, h.fresh horderly, rfl⟩)
    exact hsame (h.toServing.spawn trivial hidle (Or.inl rfl) hkeeps)
      (sharing_of_keeps hkeeps).within
  | pause =>
    obtain rfl := Option.some.inj hstep
    obtain ⟨hheld, hshutdown, -⟩ := cancelRenewals_fields S.shared
    refine hsame (h.toServing.update (.of_held hheld fun hm => hshutdown.trans hm)) ?_
    exact hheld ▸ .refl _
  | resume =>
    obtain rfl := Option.some.inj hstep
    have hheld := scheduleSubscriptionRenew_held S.shared S.shared.held.loopTime
    refine hsame (h.toServing.update (.of_held hheld fun hm => ?_)) ?_
    · exact (scheduleSubscriptionRenew_shutdown _ _).trans hm
    · exact hheld ▸ .refl _
  | stop =>
    obtain rfl := Option.some.inj hstep
    obtain ⟨hserving, hapart⟩ := h.toServing.teardown (show ¬Working .stop from id)
    exact hsame hserving (hapart.1 ▸ .refl _)
  | shutdown =>
    obtain rfl := Option.some.inj hstep
    obtain ⟨hserving, hapart⟩ := h.toServing.teardown (show ¬Working .shutdown from id)
    exact hsame hserving (hapart.1 ▸ .refl _)
  | fire i =>
    obtain ⟨hlive, rfl⟩ := (step_fire (M := manager C interval k)).mp hstep
    obtain ⟨hserving, hwithin⟩ := h.fire hlive
    exact hsame hserving hwithin
  | answer t c r => exact h.answer hclose hstep
  | environment device loopTime raises => exact (hown trivial).elim

/-! ### Completing `_start()` -/

/-- Task `t` ends in this step, after its `_start()` completed; `ws` is what it went on with. -/
def StartCompletes (M : ManagerClass ONVIFCamera cameraInterface) (t : TaskId)
    (ws : List CameraWakeup) (S S' : CameraSystem) : Prop :=
  (∀ u, S.tasks[t]? = some u → u.pending.isSome) ∧
    ∃ u r, S'.tasks[t]? = some u ∧ u.status = .done r ∧ Completed M u.kind r ws

/-- The two services of the manager are where the reply says, and open as far as `good` goes. -/
def AtReply (C : CameraConfig) (reply : SubscribeReply) (good : Prop) (m : CameraManager) : Prop :=
  Reached C reply good m.held.device m.held.subscription ∧
    Reached C reply good m.held.device m.held.service

/-- **Where `_start()` completes**, its services are where its reply says. -/
theorem ManagerInv.startCompletes (h : ManagerInv C interval k good history S)
    {a : System.Action cameraInterface ONVIFCamera} (horderly : a.Orderly S) (hown : ¬Surrounding a)
    (hclose : good → ClosesSucceed S a) (hstep : step (manager C interval k) S a = some S')
    {t : TaskId}
    (hcompletes : StartCompletes (manager C interval k) t (history t ++ (wakeup t S a).toList) S S') :
    ∃ reply, replies (history t ++ (wakeup t S a).toList) = [reply] ∧
      AtReply C reply good S'.shared := by
  obtain ⟨hunfinished, u, r, hu, hdone, hcompleted⟩ := hcompletes
  -- a task that was there before was not done
  have hold : S.tasks[t]? ≠ some u := fun hu₀ => by
    have hpending := hunfinished u hu₀
    rw [Task.pending, Task.stop, hdone] at hpending
    cases hpending
  have hkeeps : ∀ {g : Past}, g.wakeups = history t ++ (wakeup t S a).toList →
      u.status.Keeps (isolated k good) (Finished C interval k good u.kind) g S'.shared →
      ∃ reply, replies (history t ++ (wakeup t S a).toList) = [reply] ∧
        AtReply C reply good S'.shared := by
    intro g hg hkeeps
    rw [hdone] at hkeeps
    obtain ⟨reply, hanswered⟩ := hkeeps.completed (hg ▸ hcompleted)
    exact ⟨reply, hg ▸ hanswered.replies, hanswered.subscription trivial, hanswered.service trivial⟩
  cases a with
  | start =>
    obtain rfl := Option.some.inj hstep
    rcases Pool.getElem?_concat_eq_some.mp hu with hu₀ | ⟨rfl, rfl⟩
    · exact (hold hu₀).elim
    · refine hkeeps (g := ⟨S.shared.held.device, []⟩) ?_
        (wp_run (wp_start ⟨⟨.refl _, h.fit⟩, h.fresh horderly, rfl⟩))
      rw [h.recorded.fresh _ (Nat.le_refl _)]
      rfl
  | pause =>
    obtain rfl := Option.some.inj hstep
    exact (hold hu).elim
  | resume =>
    obtain rfl := Option.some.inj hstep
    exact (hold hu).elim
  | stop =>
    obtain rfl := Option.some.inj hstep
    rcases Pool.getElem?_concat_eq_some.mp hu with hu₀ | ⟨rfl, rfl⟩
    · exact (hold hu₀).elim
    · exact hcompleted.elim
  | shutdown =>
    obtain rfl := Option.some.inj hstep
    rcases Pool.getElem?_concat_eq_some.mp hu with hu₀ | ⟨rfl, rfl⟩
    · exact (hold hu₀).elim
    · exact hcompleted.elim
  | fire i =>
    -- a renewal task waits for its turn first
    obtain ⟨hlive, rfl⟩ := (step_fire (M := manager C interval k)).mp hstep
    rw [runRestartOrRenew] at hu
    split at hu
    · exact (hold hu).elim
    · rcases Pool.getElem?_concat_eq_some.mp hu with hu₀ | ⟨rfl, rfl⟩
      · exact (hold hu₀).elim
      · cases hdone
  | answer i c r' =>
    obtain ⟨v, v', hv, -, hkind, htasks, hworking, -⟩ := h.segment hclose hstep
    by_cases hti : t = i
    · subst hti
      rw [htasks, List.getElem?_set_self (List.getElem?_eq_some_iff.mp hv).1] at hu
      obtain rfl := Option.some.inj hu
      have hwork : Working v.kind := by
        rw [hkind] at hcompleted
        cases hk : v.kind with
        | start => exact trivial
        | background => exact trivial
        | stop =>
          rw [hk] at hcompleted
          exact hcompleted
        | shutdown =>
          rw [hk] at hcompleted
          exact hcompleted
      refine hkeeps ?_ (hkind ▸ hworking hwork)
      rw [append_wakeup_self]
    · rw [htasks, List.getElem?_set_ne (Ne.symm hti)] at hu
      exact (hold hu).elim
  | environment device loopTime raises => exact (hown trivial).elim

/-! ### Two managers -/

/-- The two managers of a camera. -/
inductive Side where
  | pullPoint | notification
deriving DecidableEq

/-- A camera and its two managers: the arguments they were constructed with. -/
structure Managers where
  config : CameraConfig
  interval : Side → TimeDelta
  -- where the notifications are sent
  address : String

namespace Managers

def kind (X : Managers) : Side → ManagerKind
  | .pullPoint => .pullPoint
  | .notification => .notification X.address

def manager (X : Managers) (side : Side) : ManagerClass ONVIFCamera cameraInterface :=
  Onvif.manager X.config (X.interval side) (X.kind side)

end Managers

/-- Both managers with their tasks; each holds the camera as it is. -/
abbrev Pair : Type := Side → CameraSystem

namespace Pair

def init (camera : ONVIFCamera) (loopTime : ℚ) : Pair := fun _ => System.init camera loopTime

/-- What happens next: something to one manager, or the surroundings of both change. -/
inductive Action where
  | act (side : Side) (a : System.Action cameraInterface ONVIFCamera)
  | surround (now : ℤ) (wsdlDirFiles : Dict String (Option (List String)))
      (pathIsfile : String → Bool) (sessionRaises : Option Exc) (loopTime : ℚ)
      (callbackRaises : Side → Option Exc)

/-- The camera was changed by the other manager. -/
def setDevice (device : ONVIFCamera) (m : CameraManager) : CameraManager :=
  System.surround device m.held.loopTime m.callbackRaises m

/-- One step; `none` if the action is not possible now. -/
def step (X : Managers) (P : Pair) : Action → Option Pair
  | .act side a =>
    if Surrounding a then none
    else
      (System.step (X.manager side) (P side) a).map fun S other =>
        if other = side then S else (P other).update (setDevice S.shared.held.device)
  | .surround now wsdlDirFiles pathIsfile sessionRaises loopTime callbackRaises =>
    if (P .pullPoint).shared.held.loopTime ≤ loopTime ∧
        (P .notification).shared.held.loopTime ≤ loopTime then
      some fun side => (P side).update fun m => System.surround
        (m.held.device.surround now wsdlDirFiles pathIsfile sessionRaises) loopTime
        (callbackRaises side) m
    else none

/-- The state after some actions. -/
abbrev run (X : Managers) (P : Pair) (actions : List Action) : Option Pair :=
  Runs.run (step X) P actions

/-- Each `start()` is called once, and awaited before any `resume()`. -/
def Orderly (P : Pair) : Action → Prop
  | .act side a => a.Orderly (P side)
  | .surround _ _ _ _ _ _ => True

/-- No `close()` of a service raises before its manager was shut down. -/
def ClosesSucceed (P : Pair) : Action → Prop
  | .act side a => SharedCamera.ClosesSucceed (P side) a
  | .surround _ _ _ _ _ _ => True

/-- What task `t` of a manager goes on with at this action. -/
def wakeup (side : Side) (t : TaskId) (P : Pair) : Action → Option CameraWakeup
  | .act side' a => if side' = side then System.wakeup t (P side) a else none
  | .surround _ _ _ _ _ _ => none

/-- What task `t` of a manager went on with in a run. -/
def wakeups (X : Managers) (side : Side) (t : TaskId) (P : Pair) (actions : List Action) :
    List CameraWakeup :=
  Runs.collect (step X) (wakeup side t) P actions

end Pair

variable {X : Managers} {P P' : Pair} {histories : Side → TaskId → List CameraWakeup}

/-- What belongs to one manager does not belong to the other. -/
theorem not_own_of_ne {side other : Side} (hne : other ≠ side) {key : BindingKey}
    (hkey : (X.kind other).Own key) : ¬(X.kind side).Own key := by
  cases side with
  | pullPoint =>
    cases other with
    | pullPoint => exact (hne rfl).elim
    | notification => exact fun h => ManagerKind.own_disjoint h hkey
  | notification =>
    cases other with
    | pullPoint => exact ManagerKind.own_disjoint hkey
    | notification => exact (hne rfl).elim

theorem space_ne {side other : Side} (hne : other ≠ side) :
    (X.kind other).space ≠ (X.kind side).space := by
  have hspaces : subscriptionNamespace pullPointPortType ≠
      subscriptionNamespace notificationPortType := by decide
  cases side with
  | pullPoint =>
    cases other with
    | pullPoint => exact (hne rfl).elim
    | notification => exact hspaces.symm
  | notification =>
    cases other with
    | pullPoint => exact hspaces
    | notification => exact (hne rfl).elim

/-- **What one manager changes** is nothing of the other's. -/
theorem kept_of_within {side other : Side} (hne : other ≠ side) {s s' : ONVIFCamera}
    (h : Within (X.kind side) s s') :
    Kept (X.kind other).Own (fun ns => ns = (X.kind other).space) s s' :=
  h.mono (fun _ hkey => not_own_of_ne hne hkey) fun _ hns => hns ▸ space_ne hne

/-- The invariant of both managers; they hold the same camera. -/
structure PairInv (X : Managers) (good : Prop) (histories : Side → TaskId → List CameraWakeup)
    (P : Pair) : Prop where
  manager : ∀ side, ManagerInv X.config (X.interval side) (X.kind side) good (histories side)
    (P side)
  device : ∀ side side', (P side).shared.held.device = (P side').shared.held.device

theorem pairInv_init {camera : ONVIFCamera} {loopTime : ℚ} (hregistered : Registered camera)
    (hclean : good → ∀ side, Clean (X.kind side) camera) :
    PairInv X good (fun _ _ => []) (Pair.init camera loopTime) where
  manager side :=
    { recorded := recorded_init camera loopTime
      fit :=
        { registered := hregistered
          subscription := fun _ hsid => by cases hsid
          service := fun _ hsid => by cases hsid }
      fresh := fun _ hgood => hclean hgood side
      idle := fun _ hgood => Or.inl (hclean hgood side)
      working := fun t u hu => by simp [Pair.init, System.init] at hu
      first := startedFirst_init camera loopTime }
  device _ _ := rfl

/-- A change of the surroundings of a manager. -/
theorem ManagerInv.surround (h : ManagerInv C interval k good history S) {device : ONVIFCamera}
    {loopTime : ℚ} {callbackRaises : Option Exc} (htime : S.shared.held.loopTime ≤ loopTime)
    (hdevice : Kept k.Own (fun ns => ns = k.space) S.shared.held.device device) :
    ManagerInv C interval k good history
      (S.update (System.surround device loopTime callbackRaises)) := by
  refine ⟨h.toServing.update ⟨hdevice, rfl, rfl, id⟩, ?_⟩
  refine startedFirst_step h.first (a := .environment device loopTime callbackRaises) trivial ?_
  exact (step_environment (M := manager C interval k)).mpr ⟨htime, rfl⟩

/-- A step of one manager, as both see it. -/
theorem step_act {side : Side} {a : System.Action cameraInterface ONVIFCamera}
    (hstep : Pair.step X P (.act side a) = some P') :
    ¬Surrounding a ∧ System.step (X.manager side) (P side) a = some (P' side) ∧
      ∀ other, other ≠ side →
        P' other = (P other).update (Pair.setDevice (P' side).shared.held.device) := by
  rw [Pair.step] at hstep
  by_cases hown : Surrounding a
  · rw [if_pos hown] at hstep
    cases hstep
  · rw [if_neg hown] at hstep
    obtain ⟨S, hS, rfl⟩ := Option.map_eq_some_iff.mp hstep
    dsimp only
    rw [if_pos rfl]
    exact ⟨hown, hS, fun other hne => if_neg hne⟩

/-- **A step of the pair** keeps the invariant. -/
theorem pairInv_step (h : PairInv X good histories P) {a : Pair.Action}
    (horderly : Pair.Orderly P a) (hclose : good → Pair.ClosesSucceed P a)
    (hstep : Pair.step X P a = some P') :
    PairInv X good (fun side t => histories side t ++ (Pair.wakeup side t P a).toList) P' := by
  cases a with
  | surround now wsdlDirFiles pathIsfile sessionRaises loopTime callbackRaises =>
    rw [Pair.step] at hstep
    split at hstep
    · rename_i htime
      obtain rfl := Option.some.inj hstep
      refine ⟨fun side => ?_, fun side side' => ?_⟩
      · simp only [Pair.wakeup, Option.toList_none, List.append_nil]
        refine (h.manager side).surround ?_ (.of_eq rfl rfl rfl)
        cases side with
        | pullPoint => exact htime.1
        | notification => exact htime.2
      · exact congrArg (ONVIFCamera.surround now wsdlDirFiles pathIsfile sessionRaises)
          (h.device side side')
    · cases hstep
  | act side a =>
    obtain ⟨hown, hside, hothers⟩ := step_act hstep
    obtain ⟨hinv, hwithin⟩ := managerInv_step (h.manager side) horderly hown hclose hside
    have hdevices : ∀ other, (P' other).shared.held.device = (P' side).shared.held.device := by
      intro other
      by_cases hother : other = side
      · rw [hother]
      · rw [hothers other hother]
        rfl
    refine ⟨fun other => ?_, fun side₁ side₂ => (hdevices side₁).trans (hdevices side₂).symm⟩
    by_cases hother : other = side
    · subst hother
      simp only [Pair.wakeup, if_true]
      exact hinv
    · simp only [Pair.wakeup, if_neg (Ne.symm hother), Option.toList_none, List.append_nil]
      rw [hothers other hother]
      refine (h.manager other).surround (le_refl _) ?_
      rw [h.device other side]
      exact kept_of_within hother hwithin

/-- **Every run** of the pair keeps the invariant. -/
theorem pairInv_run (h : PairInv X good histories P) {actions : List Pair.Action}
    (horderly : Runs.Along (Pair.step X) (fun P a _ => Pair.Orderly P a) P actions)
    (hclose : good → Runs.Along (Pair.step X) (fun P a _ => Pair.ClosesSucceed P a) P actions)
    (hrun : Pair.run X P actions = some P') :
    PairInv X good (fun side t => histories side t ++ Pair.wakeups X side t P actions) P' := by
  induction actions generalizing P histories with
  | nil =>
    obtain rfl : P = P' := Option.some.inj hrun
    simpa only [Pair.wakeups, Runs.collect, List.append_nil] using h
  | cons a actions ih =>
    obtain ⟨P₁, h₁, hrun⟩ := Runs.run_cons.mp hrun
    obtain ⟨hfirst, horderly⟩ := horderly P₁ h₁
    have hrest := ih (pairInv_step h hfirst (fun hgood => (hclose hgood P₁ h₁).1) h₁) horderly
      (fun hgood => (hclose hgood P₁ h₁).2) hrun
    simpa only [Pair.wakeups, Runs.collect_cons h₁, List.append_assoc] using hrest

/-! ### Isolation -/

/-- The service is the manager's `_subscription` or `_service`. -/
def Holds (m : CameraManager) (sid : ServiceId) : Prop :=
  m.held.subscription = some sid ∨ m.held.service = some sid

/-- What a manager holds was created under a key of its own. -/
theorem Fit.holds (h : Fit k m) {sid : ServiceId} (hsid : Holds m sid) :
    ∃ v, m.held.device.service? sid = some v ∧ k.Own v.bindingKey := by
  rcases hsid with hsid | hsid
  · obtain ⟨v, hv, hkey⟩ := h.subscription sid hsid
    exact ⟨v, hv, hkey ▸ Or.inr (Or.inl rfl)⟩
  · obtain ⟨v, hv, hkey⟩ := h.service sid hsid
    exact ⟨v, hv, hkey ▸ Or.inr (Or.inr rfl)⟩

/-- In the run, the services registered for the managers at the outset are open, and no `close()`
of a service raises before its manager was shut down. -/
def Faultless (X : Managers) (camera : ONVIFCamera) (loopTime : ℚ) (actions : List Pair.Action) :
    Prop :=
  (∀ side, Clean (X.kind side) camera) ∧
    Runs.Along (Pair.step X) (fun P a _ => Pair.ClosesSucceed P a) (Pair.init camera loopTime)
      actions

theorem not_startCompletes_of_tasks_eq {M : ManagerClass ONVIFCamera cameraInterface} {t : TaskId}
    {ws : List CameraWakeup} (htasks : S'.tasks = S.tasks) : ¬StartCompletes M t ws S S' := by
  rintro ⟨hunfinished, u, r, hu, hdone, -⟩
  have hpending := hunfinished u (htasks ▸ hu)
  rw [Task.pending, Task.stop, hdone] at hpending
  cases hpending

/-- **No step closes a session of the other manager.** -/
theorem PairInv.isClosed (h : PairInv X good histories P) {side other : Side}
    {a : System.Action cameraInterface ONVIFCamera} (horderly : a.Orderly (P side))
    (hclose : good → ClosesSucceed (P side) a) (hstep : Pair.step X P (.act side a) = some P')
    (hne : other ≠ side) {sid : ServiceId} (hsid : Holds (P other).shared sid) :
    (P' other).shared.held.device.isClosed sid = (P other).shared.held.device.isClosed sid := by
  obtain ⟨hown, hside, hothers⟩ := step_act hstep
  obtain ⟨-, hwithin⟩ := managerInv_step (h.manager side) horderly hown hclose hside
  obtain ⟨v, hv, hkey⟩ := (h.manager other).fit.holds hsid
  rw [h.device other side] at hv ⊢
  rw [hothers other hne]
  exact (kept_of_within hne hwithin).isClosed hv hkey

/-- **The two managers do not interfere**: in every interleaving, no step of one closes the session
of a service the other holds; and a `_start()` that completes leaves both services of its manager
at the address of the reply to that `_start()`, and open, unless a `close()` raised or a service
was closed at the outset. -/
theorem managers_isolated (X : Managers) (camera : ONVIFCamera) (loopTime : ℚ)
    (actions : List Pair.Action) (a : Pair.Action) (P P' : Pair)
    (hregistered : Registered camera)
    (hrun : Pair.run X (Pair.init camera loopTime) actions = some P)
    (hstep : Pair.step X P a = some P')
    (horderly : Runs.Along (Pair.step X) (fun P a _ => Pair.Orderly P a)
      (Pair.init camera loopTime) (actions ++ [a])) :
    (∀ side b other sid, a = .act side b → other ≠ side → Holds (P other).shared sid →
      (P' other).shared.held.device.isClosed sid = (P other).shared.held.device.isClosed sid) ∧
    ∀ side t,
      StartCompletes (X.manager side) t
        (Pair.wakeups X side t (Pair.init camera loopTime) (actions ++ [a])) (P side) (P' side) →
      ∃ reply,
        replies (Pair.wakeups X side t (Pair.init camera loopTime) (actions ++ [a])) = [reply] ∧
        AtReply X.config reply (Faultless X camera loopTime (actions ++ [a])) (P' side).shared := by
  have hinit : PairInv X (Faultless X camera loopTime (actions ++ [a])) (fun _ _ => [])
      (Pair.init camera loopTime) := pairInv_init hregistered fun hgood => hgood.1
  have hinv := pairInv_run hinit horderly.of_append (fun hgood => hgood.2.of_append) hrun
  have hlast := horderly.at_end hrun hstep
  have hclose := fun hgood : Faultless X camera loopTime (actions ++ [a]) =>
    hgood.2.at_end hrun hstep
  refine ⟨fun side b other sid ha hne hsid => ?_, fun side t hcompletes => ?_⟩
  · subst ha
    exact hinv.isClosed hlast hclose hstep hne hsid
  · have hwakeups : Pair.wakeups X side t (Pair.init camera loopTime) (actions ++ [a])
        = ([] ++ Pair.wakeups X side t (Pair.init camera loopTime) actions)
          ++ (Pair.wakeup side t P a).toList := by
      rw [List.nil_append, Pair.wakeups, Runs.collect_append hrun, Runs.collect_cons hstep,
        Runs.collect, List.append_nil]
      rfl
    rw [hwakeups] at hcompletes ⊢
    cases a with
    | surround now wsdlDirFiles pathIsfile sessionRaises time callbackRaises =>
      rw [Pair.step] at hstep
      split at hstep
      · obtain rfl := Option.some.inj hstep
        exact (not_startCompletes_of_tasks_eq (S := P side) rfl hcompletes).elim
      · cases hstep
    | act side' b =>
      obtain ⟨hown, hside, hothers⟩ := step_act hstep
      by_cases hsame : side = side'
      · subst hsame
        simp only [Pair.wakeup, if_true] at hcompletes ⊢
        exact (hinv.manager side).startCompletes hlast hown hclose hside hcompletes
      · rw [hothers side hsame] at hcompletes
        exact (not_startCompletes_of_tasks_eq (S := P side) rfl hcompletes).elim

/-! ### Two managers on the local network -/

def localManagers : Managers where
  config := localConfig
  interval _ := TimeDelta.ofSeconds 60
  address := "http://192.168.0.9/notify"

/-- A camera whose event service is known. -/
def eventsCamera : ONVIFCamera :=
  { localCamera with
    xaddrs := Dict.empty.insert "http://www.onvif.org/ver10/events/wsdl"
      (some "http://192.168.0.2/onvif/events") }

theorem services_eventsCamera (key : BindingKey) :
    eventsCamera.services.get? key = if key = ("devicemgmt", none) then some 0 else none := by
  show (Dict.empty.insert _ _).get? key = _
  rw [Dict.get?_insert, Dict.get?_empty]

theorem registered_eventsCamera : Registered eventsCamera :=
  registered_localCamera.of_extends (.of_eq rfl) rfl

theorem clean_eventsCamera (k : ManagerKind) : Clean k eventsCamera := by
  intro key hkey sid hsid
  have hne : key ≠ ("devicemgmt", none) := by
    rintro rfl
    rcases hkey with h | h
    · exact absurd (congrArg Prod.snd h) (by simp [ManagerKind.subscriptionKey])
    · exact absurd (congrArg Prod.snd h) (by simp [ManagerKind.serviceKey])
  rw [services_eventsCamera, if_neg hne] at hsid
  cases hsid

/-- The device grants a subscription. -/
def grantedAt (address : String) : SubscribeReply where
  address := some address
  times := { currentTime := none, terminationTime := none }

/-- A call of the pull-point manager's `_start()` is answered. -/
def answered (t : TaskId) (c : CameraCall) (r : Except Exc (cameraInterface.Answer c)) :
    Pair.Action := .act .pullPoint (.answer t (.start c) r)

/-- Time passes. -/
def clock (loopTime : ℚ) : Pair.Action :=
  .surround eventsCamera.now eventsCamera.wsdlDirFiles eventsCamera.pathIsfile none
    loopTime fun _ => none

/-- `start()` of the pull-point manager, up to its last call. -/
def starting : List Pair.Action :=
  [.act .pullPoint .start,
    answered 0 (.setup 1) (.ok ()),
    answered 0 (.createPullPointSubscription 1 "PT60S") (.ok (grantedAt "http://192.168.0.2/sub/1")),
    answered 0 (.setup 2) (.ok ())]

/-- The device forgets the subscription twice.  It grants the first one again the second time, and
`close()` of `_service` timed out the first time. -/
def restarting : List Pair.Action :=
  [answered 0 (.setup 3) (.ok ()),
    clock 48,
    .act .pullPoint (.fire 0),
    .act .pullPoint (.answer 1 .begin (.ok ())),
    .act .pullPoint (.answer 1 (.renew 2 "PT60S") (.error (.onvif .onvifError "unknown"))),
    answered 1 (.createPullPointSubscription 1 "PT60S") (.ok (grantedAt "http://192.168.0.2/sub/2")),
    answered 1 (.close 2) (.ok ()),
    answered 1 (.setup 4) (.ok ()),
    answered 1 (.close 3) (.error (.timeoutError "")),
    clock 88,
    .act .pullPoint (.fire 1),
    .act .pullPoint (.answer 2 .begin (.ok ())),
    .act .pullPoint (.answer 2 (.renew 4 "PT60S") (.error (.onvif .onvifError "unknown"))),
    answered 2 (.createPullPointSubscription 1 "PT60S") (.ok (grantedAt "http://192.168.0.2/sub/1")),
    answered 2 (.close 4) (.ok ())]

/-- A run that calls `start()` once, first, and not `resume()`. -/
theorem orderly_of_tail {camera : ONVIFCamera} {loopTime : ℚ} {tail : List Pair.Action}
    (htail : ∀ a ∈ tail, ∀ P : Pair, Pair.Orderly P a) :
    Runs.Along (Pair.step X) (fun P a _ => Pair.Orderly P a) (Pair.init camera loopTime)
      (.act .pullPoint .start :: tail) :=
  fun _ _ => ⟨fun _ hu => absurd hu List.not_mem_nil, Runs.along_of_forall fun a ha P _ => htail a ha P⟩

/-- The task returned, and its `_start()` completed. -/
def returned (M : ManagerClass ONVIFCamera cameraInterface) (ws : List CameraWakeup)
    (u : Task Kind (managerInterface cameraInterface) Exc CameraManager) : Bool :=
  match u.kind, u.status with
  | .start, .done (.ok _) => true
  | .background, .done _ => (restartCallAt M ws).isSome
  | _, _ => false

theorem startCompletes_of_returned {M : ManagerClass ONVIFCamera cameraInterface} {t : TaskId}
    {ws : List CameraWakeup} (hbefore : (S.tasks[t]?).any (·.pending.isSome) = true)
    (hafter : (S'.tasks[t]?).any (returned M ws) = true) : StartCompletes M t ws S S' := by
  obtain ⟨u, hu, hreturned⟩ := (Option.any_eq_true _ _).mp hafter
  refine ⟨fun u₀ hu₀ => ?_, u, ?_⟩
  · rw [hu₀] at hbefore
    exact hbefore
  obtain ⟨kind, st⟩ := u
  unfold returned at hreturned
  split at hreturned
  · rename_i a hkind hst
    exact ⟨.ok (), hu, hst, by rw [show kind = .start from hkind]; rfl⟩
  · rename_i r hkind hst
    exact ⟨r, hu, hst, by rw [show kind = .background from hkind]; exact hreturned⟩
  · cases hreturned

/-- The last step of the run completes a `_start()`. -/
theorem exists_startCompletes (X : Managers) (camera : ONVIFCamera) (loopTime : ℚ)
    (actions : List Pair.Action) (a : Pair.Action) (side : Side) (t : TaskId)
    (hbefore : (Pair.run X (Pair.init camera loopTime) actions).any
      (fun P => ((P side).tasks[t]?).any (·.pending.isSome)) = true)
    (hafter : (Pair.run X (Pair.init camera loopTime) (actions ++ [a])).any
      (fun P => ((P side).tasks[t]?).any (returned (X.manager side)
        (Pair.wakeups X side t (Pair.init camera loopTime) (actions ++ [a])))) = true) :
    ∃ P P', Pair.run X (Pair.init camera loopTime) actions = some P ∧ Pair.step X P a = some P' ∧
      Pair.run X (Pair.init camera loopTime) (actions ++ [a]) = some P' ∧
      StartCompletes (X.manager side) t
        (Pair.wakeups X side t (Pair.init camera loopTime) (actions ++ [a])) (P side) (P' side) := by
  obtain ⟨P₀, hP₀, hbefore⟩ := (Option.any_eq_true _ _).mp hbefore
  obtain ⟨P', hP', hafter⟩ := (Option.any_eq_true _ _).mp hafter
  obtain ⟨P, hrun, hlast⟩ := Runs.run_append.mp hP'
  obtain ⟨P₁, hstep, hnil⟩ := Runs.run_cons.mp hlast
  obtain rfl : P₁ = P' := Option.some.inj hnil
  obtain rfl : P₀ = P := Option.some.inj (hP₀.symm.trans hrun)
  exact ⟨P₀, P₁, hrun, hstep, hP', startCompletes_of_returned hbefore hafter⟩

/-- `start()` completes: both services are at the address granted, and open. -/
theorem managers_isolated_started :
    ∃ P P', Pair.run localManagers (Pair.init eventsCamera 0) starting = some P ∧
      Pair.step localManagers P (answered 0 (.setup 3) (.ok ())) = some P' ∧
      ∃ reply, AtReply localConfig reply True (P' .pullPoint).shared := by
  obtain ⟨P, P', hrun, hstep, -, hcompletes⟩ := exists_startCompletes localManagers
    eventsCamera 0 starting (answered 0 (.setup 3) (.ok ())) .pullPoint 0 (by decide +kernel)
    (by decide +kernel)
  have hfaultless : Faultless localManagers eventsCamera 0
      (starting ++ [answered 0 (.setup 3) (.ok ())]) := by
    refine ⟨fun side => clean_eventsCamera _, Runs.along_of_forall ?_⟩
    simp [starting, answered, Pair.ClosesSucceed, ClosesSucceed, CloseRaises]
  obtain ⟨reply, -, hsubscription, hservice⟩ := (managers_isolated localManagers eventsCamera 0
    starting _ P P' registered_eventsCamera hrun hstep (orderly_of_tail
      (by simp [answered, Pair.Orderly, Action.Orderly]))).2 .pullPoint 0 hcompletes
  refine ⟨P, P', hrun, hstep, reply, ?_, ?_⟩
  · obtain ⟨sid, v, hsid, hv, hurl, hopen⟩ := hsubscription
    exact ⟨sid, v, hsid, hv, hurl, fun _ => hopen hfaultless⟩
  · obtain ⟨sid, v, hsid, hv, hurl, hopen⟩ := hservice
    exact ⟨sid, v, hsid, hv, hurl, fun _ => hopen hfaultless⟩

/-- `close()` timed out, so the closed service stays registered and is used again. -/
theorem not_open_after_close_raised :
    ¬∀ (X : Managers) (camera : ONVIFCamera) (loopTime : ℚ) (actions : List Pair.Action)
      (a : Pair.Action) (P P' : Pair), Registered camera → (∀ side, Clean (X.kind side) camera) →
      Pair.run X (Pair.init camera loopTime) actions = some P → Pair.step X P a = some P' →
      Runs.Along (Pair.step X) (fun P a _ => Pair.Orderly P a) (Pair.init camera loopTime)
        (actions ++ [a]) →
      ∀ side t,
        StartCompletes (X.manager side) t
          (Pair.wakeups X side t (Pair.init camera loopTime) (actions ++ [a])) (P side) (P' side) →
        ∃ reply,
          replies (Pair.wakeups X side t (Pair.init camera loopTime) (actions ++ [a])) = [reply] ∧
          AtReply X.config reply True (P' side).shared := by
  intro h
  obtain ⟨P, P', hrun, hstep, hall, hcompletes⟩ := exists_startCompletes localManagers
    eventsCamera 0 (starting ++ restarting) (answered 2 (.setup 5) (.ok ())) .pullPoint 2
    (by decide +kernel) (by decide +kernel)
  have hclosed : (Pair.run localManagers (Pair.init eventsCamera 0)
      (starting ++ restarting ++ [answered 2 (.setup 5) (.ok ())])).any
      (fun P => ((P .pullPoint).shared.held.service).any (P .pullPoint).shared.held.device.isClosed)
        = true := by decide +kernel
  obtain ⟨reply, -, -, sid, v, hsid, hv, -, hopen⟩ := h localManagers eventsCamera 0
    (starting ++ restarting) _ P P' registered_eventsCamera (fun _ => clean_eventsCamera _)
    hrun hstep (orderly_of_tail (by
      simp [restarting, answered, clock, Pair.Orderly, Action.Orderly]))
    .pullPoint 2 hcompletes
  have hsession : (P' .pullPoint).shared.held.device.isClosed sid = true := by
    rw [hall, Option.any_some, hsid] at hclosed
    exact hclosed
  rw [isClosed_of_service? hv (hopen trivial)] at hsession
  cases hsession

end SharedCamera

end Onvif
