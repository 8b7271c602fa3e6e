/-
Failures of the device, and which of them the manager contains.

The renewal task catches `RENEW_ERRORS` around Renew and around the restart, `stop()` catches
`SUBSCRIPTION_ERRORS` around Unsubscribe, and both report what they caught.  What is in neither
list, what cannot be reported and what is raised outside an `await` escapes.

* **`Contained`** — nothing escapes, and the loss of a subscription is reported once and
  followed by one restart;
* **`Absorbs`**, **`Restartable`** — the answers of the device for which that is so;
* **`contained_when`** — how these are related, in every run.
-/
import OnvifZeep.FailedRestart
import OnvifZeep.RestartSteps

namespace Onvif

open Coro BaseManager ONVIFCamera

/-- The errors an `await` of the device can raise. -/
def Exc.IsDeviceError : Exc → Prop
  | .onvif _ _ => True
  | .fault _ => True
  | .zeep _ _ => True
  | .client _ _ => True
  | .timeoutError _ => True
  | .cancelledError => False
  | .builtin _ _ => False

theorem Exc.IsDeviceError.not_cancelled {e : Exc} (h : e.IsDeviceError) :
    e.isCancelledError = false := by
  cases e with
  | cancelledError => exact h.elim
  | _ => rfl

theorem Exc.not_cancelled_of_builtin {e : Exc} (h : e.isBuiltin) : e.isCancelledError = false := by
  cases e with
  | cancelledError => cases h
  | _ => rfl

theorem Exc.not_oneOf_of_builtin {e : Exc} (h : e.isBuiltin) :
    e.oneOf renewErrors = false ∧ e.oneOf [.clientError] = false := by
  cases e with
  | builtin cls message => cases cls <;> exact ⟨rfl, rfl⟩
  | _ => cases h

namespace Containment

variable {C : CameraConfig} {interval : TimeDelta} {k : ManagerKind} {m m₀ m' : CameraManager}
  {trace trace' : List ManagerEvent} {v : ManagerEvent}

/-! ### The answers of the device -/

/-- Caught by `stop()`, which can report it. -/
def Dismissed (e : Exc) : Prop := e.oneOf subscriptionErrors ∧ e.Reportable

/-- The answer does not make its caller raise. -/
def Absorbed (interval : TimeDelta) : ManagerEvent → Prop
  | ⟨.renew _ _, _, .ok times, _⟩ => Schedulable times
  | ⟨.renew _ _, _, .error e, _⟩ => Handled e
  | ⟨.start _, _, .error e, _⟩ => Handled e
  | ⟨.unsubscribe _, _, .error e, _⟩ => Dismissed e
  -- another attempt begins
  | ⟨.sleep _, _, .ok _, after⟩ => CanRenew interval after.held.device
  | _ => True

def isRenew (v : ManagerEvent) : Bool :=
  match v.call with
  | .renew _ _ => true
  | _ => false

/-- The last attempt to renew. -/
def lastRenew (trace : List ManagerEvent) : Option ManagerEvent := (trace.filter isRenew).getLast?

/-- Renew failed for good. -/
def RenewFailed (trace : List ManagerEvent) : Prop := ∃ v ∈ lastRenew trace, ¬v.answer.isOk

instance (e : Exc) : Decidable (Dismissed e) := inferInstanceAs (Decidable (_ ∧ _))

instance (interval : TimeDelta) : (v : ManagerEvent) → Decidable (Absorbed interval v)
  | ⟨.renew _ _, _, .ok _, _⟩ => inferInstanceAs (Decidable (Schedulable _))
  | ⟨.renew _ _, _, .error _, _⟩ => inferInstanceAs (Decidable (Handled _))
  | ⟨.start _, _, .error _, _⟩ => inferInstanceAs (Decidable (Handled _))
  | ⟨.unsubscribe _, _, .error _, _⟩ => inferInstanceAs (Decidable (Dismissed _))
  | ⟨.sleep _, _, .ok _, _⟩ => inferInstanceAs (Decidable (CanRenew _ _))
  | ⟨.start _, _, .ok _, _⟩ | ⟨.unsubscribe _, _, .ok _, _⟩ | ⟨.sleep _, _, .error _, _⟩
  | ⟨.begin, _, _, _⟩ => isTrue trivial

/-! ### The answers in a restart -/

/-- No answer, and no state the restart begins in, makes it raise outside an `await`. -/
structure Restartable (C : CameraConfig) (interval : TimeDelta) (trace : List ManagerEvent) :
    Prop where
  begins : ∀ v ∈ lastRenew trace, ¬v.answer.isOk →
    Formats (∃ u ∈ trace, Broken interval u) interval v.after.held.device
  steps : ∀ v ∈ trace, StartStep C interval (∃ u ∈ trace, Broken interval u) v

/-- A call of `_start()` failed. -/
def StartFailed (trace : List ManagerEvent) : Prop :=
  ∃ v ∈ trace, (∃ c, v.call = .start c) ∧ ¬v.answer.isOk

/-! ### Runs -/

/-- Every failure is the device's, and nothing else takes part in a renewal. -/
structure DeviceCaused (w : World (managerInterface cameraInterface) Exc CameraManager) : Prop where
  slept : ∀ n t m, (w n (.sleep t) m).1 = .ok ()
  raises : ∀ n c m e, (w n c m).1 = .error e → e.IsDeviceError
  subscription : ∀ n c m, m.held.subscription.isSome → (w n c m).2.held.subscription.isSome
  callbackRaises : ∀ n c m, (w n c m).2.callbackRaises = m.callbackRaises
  milestones : ∀ n c m, (w n c m).2.milestones = m.milestones

/-- The manager has a subscription, and its callback does not raise. -/
structure Operating (m : CameraManager) : Prop where
  subscription : m.held.subscription.isSome
  callbackRaises : m.callbackRaises = none

/-- A run of the renewal task. -/
def renewalRun (C : CameraConfig) (interval : TimeDelta) (k : ManagerKind)
    (w : World (managerInterface cameraInterface) Exc CameraManager) (m : CameraManager) :
    Outcome (managerInterface cameraInterface) Exc CameraManager Unit :=
  (renewOrRestartSubscription (manager C interval k)).exec w 0 m

def stopRun (w : World (managerInterface cameraInterface) Exc CameraManager) (m : CameraManager) :
    Outcome (managerInterface cameraInterface) Exc CameraManager Unit := stop.exec w 0 m

def shutdownRun (w : World (managerInterface cameraInterface) Exc CameraManager)
    (m : CameraManager) : Outcome (managerInterface cameraInterface) Exc CameraManager Unit :=
  shutdownManager.exec w 0 m

/-- No failure escapes the renewal task, `stop()` or `shutdown()`, and a Renew that failed is
followed by one report of the loss and one restart. -/
structure Contained (C : CameraConfig) (interval : TimeDelta) (k : ManagerKind)
    (w : World (managerInterface cameraInterface) Exc CameraManager) (m : CameraManager) : Prop where
  task : ∀ e, (renewalRun C interval k w m).result = .error e → e.isCancelledError
  loss : RenewFailed (renewalRun C interval k w m).trace →
    (renewalRun C interval k w m).state.milestones = m.milestones ++ [.subscriptionLost, .restart]
  stop : (stopRun w m).result.isOk
  shutdown : (shutdownRun w m).result.isOk

/-- Every answer is absorbed where it is awaited. -/
structure Absorbs (C : CameraConfig) (interval : TimeDelta) (k : ManagerKind)
    (w : World (managerInterface cameraInterface) Exc CameraManager) (m : CameraManager) : Prop where
  -- the first attempt begins
  begins : m.renewalOver (manager C interval k) = false → CanRenew interval m.held.device
  task : ∀ v ∈ (renewalRun C interval k w m).trace, Absorbed interval v
  stop : ∀ v ∈ (stopRun w m).trace, Absorbed interval v
  shutdown : ∀ v ∈ (shutdownRun w m).trace, Absorbed interval v

/-! ### Handlers -/

theorem not_handled_of_builtin {e : Exc} (h : e.isBuiltin) : ¬Handled e := by
  intro hhandled
  have hcaught := hhandled.1
  rw [(Exc.not_oneOf_of_builtin h).1] at hcaught
  cases hcaught

theorem handled_of_clientError {e : Exc} (h : e.oneOf [.clientError]) : Handled e := by
  cases e with
  | client cls message => cases cls <;> exact ⟨rfl, trivial⟩
  | onvif cls err => cases cls <;> cases h
  | zeep cls message => cases cls <;> cases h
  | builtin cls message => cases cls <;> cases h
  | _ => cases h

section Report

variable {I : Interface} {σ γ α : Type} {K : Contract I Exc σ γ} {Q : Except Exc α → γ → σ → Prop}
  {g : γ} {s : σ} {e : Exc}

/-- **Reporting** what a handler caught: it goes on, or the report escapes. -/
theorem wp_report {x : Coro I Exc σ α} (hok : e.Reportable → wp K Q x g s)
    (herror : ∀ e', ¬e.Reportable → e'.isCancelledError = false → Q (.error e') g s) :
    wp K Q (ofExcept (stringifyOnvifError e) >>= fun _ => x) g s := by
  rw [wp_bind, wp_ofExcept]
  cases hreport : stringifyOnvifError e with
  | ok message => exact hok ((stringifyOnvifError_ok_iff e).mp ⟨message, hreport⟩)
  | error e' =>
    refine herror e' (fun hreportable => ?_)
      (Exc.not_cancelled_of_builtin (only_builtin_stringifyOnvifError e e' hreport))
    obtain ⟨message, hmessage⟩ := (stringifyOnvifError_ok_iff e).mpr hreportable
    exact absurd (hreport.symm.trans hmessage) (by simp)

end Report

/-! ### Renewing -/

/-- What the task keeps of the manager `m₀` it began with, but for the milestones passed. -/
structure Tracked (m₀ : CameraManager) (passed : List Milestone) (m : CameraManager) : Prop where
  subscription : m.held.subscription.isSome
  callbackRaises : m.callbackRaises = none
  milestones : m.milestones = m₀.milestones ++ passed

/-- Nothing went wrong so far but what the task handles. -/
def Fine (interval : TimeDelta) (m₀ : CameraManager) (trace : List ManagerEvent) : Prop :=
  CanRenew interval m₀.held.device ∧ ∀ v ∈ trace, Absorbed interval v

/-- Renew failed for good, and the camera is as it was then. -/
def LostAt (trace : List ManagerEvent) (m : CameraManager) : Prop :=
  ∃ v ∈ lastRenew trace, ¬v.answer.isOk ∧ v.after.held.device = m.held.device

/-- No call of `_start()` was made. -/
def BeforeStart (trace : List ManagerEvent) : Prop := ∀ v ∈ trace, ∀ c, v.call ≠ .start c

/-- The subscription was renewed. -/
structure Renewed (interval : TimeDelta) (m₀ : CameraManager) (trace : List ManagerEvent) :
    Prop where
  fine : Fine interval m₀ trace
  renewed : ¬RenewFailed trace

/-- Renewing raised `e`. -/
structure Unrenewed (interval : TimeDelta) (m₀ : CameraManager) (e : Exc)
    (trace : List ManagerEvent) (m : CameraManager) : Prop where
  tracked : Tracked m₀ [] m
  beforeStart : BeforeStart trace
  not_cancelled : e.isCancelledError = false
  fine_iff : Fine interval m₀ trace ↔ Handled e
  lost : Handled e → LostAt trace m

theorem Fine.snoc :
    Fine interval m₀ (trace ++ [v]) ↔ Fine interval m₀ trace ∧ Absorbed interval v := by
  simp only [Fine, List.forall_mem_append, List.forall_mem_singleton, and_assoc]

theorem BeforeStart.snoc (h : BeforeStart trace) (hv : ∀ c, v.call ≠ .start c) :
    BeforeStart (trace ++ [v]) := by
  intro u hu
  rcases List.mem_append.mp hu with hu | hu
  · exact h u hu
  · rw [List.mem_singleton.mp hu]
    exact hv

theorem lastRenew_snoc (h : isRenew v) : lastRenew (trace ++ [v]) = some v := by
  rw [lastRenew, List.filter_append, List.filter_cons_of_pos h, List.filter_nil,
    List.getLast?_append]
  rfl

theorem lastRenew_append (h : ∀ v ∈ trace', isRenew v = false) :
    lastRenew (trace ++ trace') = lastRenew trace := by
  have hnone : trace'.filter isRenew = [] :=
    List.filter_eq_nil_iff.mpr fun v hv => by rw [h v hv]; exact Bool.false_ne_true
  rw [lastRenew, List.filter_append, hnone, List.append_nil, lastRenew]

section Run

variable {γ : Type} {w : World (managerInterface cameraInterface) Exc CameraManager}

theorem Tracked.resume {passed : List Milestone} (h : Tracked m₀ passed m) (hw : DeviceCaused w)
    (n : ℕ) (c : (managerInterface cameraInterface).Call) : Tracked m₀ passed (w n c m).2 where
  subscription := hw.subscription n c m h.subscription
  callbackRaises := (hw.callbackRaises n c m).trans h.callbackRaises
  milestones := (hw.milestones n c m).trans h.milestones

/-- A segment that raises outside an `await`. -/
theorem Unrenewed.of_builtin {e : Exc} (h : e.isBuiltin) (hm : Tracked m₀ [] m)
    (htrace : BeforeStart trace) (hfine : ¬Fine interval m₀ trace) :
    Unrenewed interval m₀ e trace m where
  tracked := hm
  beforeStart := htrace
  not_cancelled := Exc.not_cancelled_of_builtin h
  fine_iff := iff_of_false hfine (not_handled_of_builtin h)
  lost hhandled := (not_handled_of_builtin h hhandled).elim

/-- What follows the answer to a Renew that could be sent. -/
theorem wp_renewAnswered (hw : DeviceCaused w) (hm : Tracked m₀ [] m) (htrace : BeforeStart trace)
    (hfine : Fine interval m₀ trace) (sid : ServiceId) (time : String) :
    wp w.traced (Ends (fun _ trace _ => Renewed interval m₀ trace) (Unrenewed interval m₀))
      (call (I := managerInterface cameraInterface) (.renew sid time) >>= fun result =>
        getState >>= fun m =>
          ofExcept (calculateNextRenewalCallAt interval m.held.loopTime result)) trace m := by
  rw [wp_bind]
  refine (wp_call _).mpr ⟨trivial, ?_⟩
  rintro r _ m' ⟨rfl, hr, rfl⟩
  have hm' := hm.resume hw trace.length (.renew sid time)
  have htrace' := htrace.snoc (v := ⟨.renew sid time, m, r,
    (w trace.length (.renew sid time) m).2⟩) fun c h => by cases h
  cases r with
  | error e =>
    have hdevice := hw.raises _ _ _ e hr.symm
    refine ⟨hm', htrace', hdevice.not_cancelled, ?_, fun _ => ⟨_, lastRenew_snoc rfl, ?_, rfl⟩⟩
    · rw [Fine.snoc]
      exact and_iff_right hfine
    · exact Bool.false_ne_true
  | ok times =>
    rw [ends_ok, wp_bind, wp_getState, ends_ok, wp_ofExcept]
    have hschedulable := calculateNextRenewalCallAt_isOk_iff interval
      (w trace.length (.renew sid time) m).2.held.loopTime times
    cases hnext : calculateNextRenewalCallAt interval
        (w trace.length (.renew sid time) m).2.held.loopTime times with
    | error e =>
      have hbuiltin := only_builtin_calculateNextRenewalCallAt _ _ _ e hnext
      refine Unrenewed.of_builtin hbuiltin hm' htrace' fun hfine' => ?_
      obtain ⟨t, ht⟩ := hschedulable.mpr (Fine.snoc.mp hfine').2
      exact absurd (hnext.symm.trans ht) (by simp)
    | ok t =>
      refine ⟨Fine.snoc.mpr ⟨hfine, hschedulable.mp ⟨t, hnext⟩⟩, ?_⟩
      rintro ⟨v, hv, hfailed⟩
      rw [lastRenew_snoc rfl] at hv
      obtain rfl := Option.some.inj hv
      exact hfailed rfl

/-- **One attempt**, where renewing is fine so far exactly if it can begin. -/
theorem wp_callSubscriptionRenewOnce (hw : DeviceCaused w) (hm : Tracked m₀ [] m)
    (htrace : BeforeStart trace)
    (hbegins : Fine interval m₀ trace ↔ CanRenew interval m.held.device) :
    wp w.traced (Ends (fun _ trace _ => Renewed interval m₀ trace) (Unrenewed interval m₀))
      (callSubscriptionRenewOnce (manager C interval k)) trace m := by
  rw [callSubscriptionRenewOnce, wp_bind, wp_getState, ends_ok]
  obtain ⟨sid, hsid⟩ := Option.isSome_iff_exists.mp hm.subscription
  rw [hsid]
  dsimp only
  rw [wp_bind, wp_ofExcept]
  show Ends _ _ (m.held.device.getNextTerminationTime interval) _ _
  rw [CanRenew] at hbegins
  cases htime : m.held.device.getNextTerminationTime interval with
  | error e =>
    have hbuiltin := only_builtin_getNextTerminationTime m.held.device interval e htime
    rw [htime] at hbegins
    exact Unrenewed.of_builtin hbuiltin hm htrace fun hfine => Bool.false_ne_true (hbegins.mp hfine)
  | ok time =>
    rw [htime] at hbegins
    exact wp_renewAnswered hw hm htrace (hbegins.mpr rfl) sid time

/-- **Renewing**, with the attempts and the sleep between them. -/
theorem wp_callSubscriptionRenew (hw : DeviceCaused w) (hm : Tracked m₀ [] m)
    (htrace : BeforeStart trace)
    (hbegins : Fine interval m₀ trace ↔ CanRenew interval m.held.device) :
    wp w.traced (Ends (fun t trace _ => t.isSome ∧ Renewed interval m₀ trace)
        (Unrenewed interval m₀))
      (callSubscriptionRenew (manager C interval k)) trace m := by
  refine wp_retryConnectionError (by decide) (fun trace m => Tracked m₀ [] m ∧ BeforeStart trace ∧
    (Fine interval m₀ trace ↔ CanRenew interval m.held.device)) ?_ ⟨hm, htrace, hbegins⟩
  rintro trace m ⟨hm, htrace, hbegins⟩
  refine wp_mono (fun r trace m hr => ?_) (wp_callSubscriptionRenewOnce hw hm htrace hbegins)
  cases r with
  | ok t => exact ⟨rfl, hr⟩
  | error e =>
    refine ⟨hr, fun hclient => (wp_call _).mpr ⟨trivial, ?_⟩⟩
    rintro r _ m' ⟨rfl, hr', rfl⟩
    rw [hw.slept] at hr'
    subst hr'
    refine ⟨hr.tracked.resume hw _ _, hr.beforeStart.snoc fun c h => (by cases h), ?_⟩
    rw [Fine.snoc]
    exact and_iff_right (hr.fine_iff.mpr (handled_of_clientError hclient))

/-- How `_renew_subscription` ends. -/
inductive RenewalEnds (interval : TimeDelta) (m₀ : CameraManager) :
    Except Exc (Option ℚ) → List ManagerEvent → CameraManager → Prop
  | renewed {t : ℚ} {trace : List ManagerEvent} {m : CameraManager}
      (h : Renewed interval m₀ trace) : RenewalEnds interval m₀ (.ok (some t)) trace m
  | lost {trace : List ManagerEvent} {m : CameraManager}
      (tracked : Tracked m₀ [.subscriptionLost] m) (beforeStart : BeforeStart trace)
      (fine : Fine interval m₀ trace) (lost : LostAt trace m) :
      RenewalEnds interval m₀ (.ok none) trace m
  | escaped {e : Exc} {trace : List ManagerEvent} {m : CameraManager}
      (not_cancelled : e.isCancelledError = false) (broken : ¬Fine interval m₀ trace) :
      RenewalEnds interval m₀ (.error e) trace m

/-- **The loss of the subscription** is reported once, if Renew failed for good. -/
theorem wp_renewSubscription (hw : DeviceCaused w) (hm : Tracked m₀ [] m)
    (htrace : BeforeStart trace)
    (hbegins : Fine interval m₀ trace ↔ CanRenew interval m.held.device)
    (hover : m.renewalOver (manager C interval k) = false) :
    wp w.traced (RenewalEnds interval m₀) (renewSubscription (manager C interval k)) trace m := by
  obtain ⟨sid, hsid⟩ := Option.isSome_iff_exists.mp hm.subscription
  have hopen : (m.closed (manager C interval k) || m.shutdown) = false := by
    rw [closed, hsid, Option.isNone_some, Bool.false_or, Bool.or_comm]
    exact hover
  rw [renewSubscription, wp_bind, wp_getState, ends_ok, hopen, if_neg Bool.false_ne_true,
    wp_tryExcept]
  refine wp_mono (fun r trace m hr => ?_) (wp_callSubscriptionRenew hw hm htrace hbegins)
  cases r with
  | ok t =>
    obtain ⟨ht, hrenewed⟩ := hr
    obtain ⟨t, rfl⟩ := Option.isSome_iff_exists.mp ht
    exact .renewed hrenewed
  | error e =>
    have hr : Unrenewed interval m₀ e trace m := hr
    rw [ends_error]
    by_cases hcaught : e.oneOf renewErrors = true
    · -- the callback returns, so the report decides
      rw [if_pos hcaught, wp_bind, subscriptionLostCallback, wp_bind, wp_modifyState, ends_ok,
        wp_bind, wp_getState, ends_ok]
      dsimp only
      rw [hr.tracked.callbackRaises]
      dsimp only
      rw [wp_pure, ends_ok]
      refine wp_report (fun hreportable => ?_) fun e' hnot hsame => ?_
      · have hhandled : Handled e := ⟨hcaught, hreportable⟩
        refine .lost ⟨hr.tracked.subscription, rfl, ?_⟩ hr.beforeStart
          (hr.fine_iff.mpr hhandled) (hr.lost hhandled)
        rw [hr.tracked.milestones, List.append_nil]
      · exact .escaped hsame fun hfine => hnot (hr.fine_iff.mp hfine).2
    · rw [if_neg hcaught]
      exact .escaped hr.not_cancelled fun hfine => hcaught (hr.fine_iff.mp hfine).1

/-! ### Restarting -/

/-- What the task makes of a restart: a handled exception ends there, any other escapes. -/
inductive Guarded {α β : Type} : Except Exc α → Except Exc β → Prop
  | ok (a : α) (b : β) : Guarded (.ok a) (.ok b)
  | handled {e : Exc} (h : Handled e) (b : β) : Guarded (.error e) (.ok b)
  | escaped {e e' : Exc} (h : ¬Handled e) (same : e'.isCancelledError = e.isCancelledError) :
      Guarded (.error e) (.error e')

/-- A run of `_start()` from within the task. -/
def restartRun (C : CameraConfig) (interval : TimeDelta) (k : ManagerKind)
    (w : World (managerInterface cameraInterface) Exc CameraManager) (n : ℕ) (m : CameraManager) :
    Outcome (managerInterface cameraInterface) Exc CameraManager ℚ :=
  (innerStart (manager C interval k)).exec w n m

/-- How the `try` of the task ends. -/
inductive TaskEnds (C : CameraConfig) (interval : TimeDelta) (k : ManagerKind)
    (w : World (managerInterface cameraInterface) Exc CameraManager) (m₀ : CameraManager) :
    Except Exc (Option ℚ) → List ManagerEvent → CameraManager → Prop
  | renewed {t : ℚ} {trace : List ManagerEvent} {m : CameraManager}
      (h : Renewed interval m₀ trace) : TaskEnds C interval k w m₀ (.ok (some t)) trace m
  | escaped {e : Exc} {trace : List ManagerEvent} {m : CameraManager}
      (not_cancelled : e.isCancelledError = false) (broken : ¬Fine interval m₀ trace) :
      TaskEnds C interval k w m₀ (.error e) trace m
  | restarted {r : Except Exc (Option ℚ)} {before : List ManagerEvent} {m : CameraManager}
      (tracked : Tracked m₀ [.subscriptionLost, .restart] m) (beforeStart : BeforeStart before)
      (fine : Fine interval m₀ before) (lost : LostAt before m)
      (guarded : Guarded (restartRun C interval k w before.length m).result r) :
      TaskEnds C interval k w m₀ r
        (before ++ (restartRun C interval k w before.length m).trace)
        (restartRun C interval k w before.length m).state

/-- The handler around the restart. -/
theorem wp_guarded {K : Contract (managerInterface cameraInterface) Exc CameraManager γ}
    {Q : Except Exc (Option ℚ) → γ → CameraManager → Prop} {g : γ} {e : Exc}
    (h : ∀ r, Guarded (.error e : Except Exc ℚ) r → Q r g m) :
    wp K Q (if e.oneOf renewErrors then (ofExcept (stringifyOnvifError e) >>= fun _ => pure none)
      else .raise e) g m := by
  by_cases hcaught : e.oneOf renewErrors = true
  · rw [if_pos hcaught]
    refine wp_report (fun hreportable => ?_) fun e' hnot hsame => ?_
    · exact h _ (.handled ⟨hcaught, hreportable⟩ _)
    · have hcancelled : e.isCancelledError = false := by
        cases e with
        | cancelledError => exact absurd hcaught (by decide)
        | _ => rfl
      exact h _ (.escaped (fun hhandled => hnot hhandled.2) (hsame.trans hcancelled.symm))
  · rw [if_neg hcaught]
    exact h _ (.escaped (fun hhandled => hcaught hhandled.1) rfl)

theorem cancelRenewals_report (m : CameraManager) :
    m.cancelRenewals.callbackRaises = m.callbackRaises ∧
      m.cancelRenewals.milestones = m.milestones := by
  rw [cancelRenewals]
  cases m.cancelSubscriptionRenew with
  | none => exact ⟨rfl, rfl⟩
  | some h => exact ⟨rfl, rfl⟩

/-- **The body of the task**: at most one restart, after the report of the loss. -/
theorem wp_renewOrRestartBody (hw : DeviceCaused w) (hm : Operating m)
    (hover : m.renewalOver (manager C interval k) = false) :
    wp w.traced (TaskEnds C interval k w m) (renewOrRestartBody (manager C interval k)) [] m := by
  have htracked : Tracked m [] m := ⟨hm.subscription, hm.callbackRaises, (List.append_nil _).symm⟩
  have hbegins : Fine interval m [] ↔ CanRenew interval m.held.device :=
    and_iff_left fun _ hv => absurd hv List.not_mem_nil
  rw [renewOrRestartBody, wp_bind]
  refine wp_mono (fun r trace m' hr => ?_) (wp_renewSubscription hw htracked
    (fun _ hv => absurd hv List.not_mem_nil) hbegins hover)
  cases hr with
  | renewed h => exact .renewed h
  | escaped hcancelled hbroken => exact .escaped hcancelled hbroken
  | lost hm' htrace hfine hlost =>
    rw [ends_ok]
    dsimp only
    rw [wp_tryExcept, wp_bind, restartSubscription, wp_bind, wp_modifyState, ends_ok, wp_traced,
      ← restartRun]
    have hheld := (cancelRenewals_fields m').1
    have htracked' : Tracked m [.subscriptionLost, .restart]
        { m'.cancelRenewals with milestones := m'.milestones ++ [.restart] } := by
      refine ⟨hheld ▸ hm'.subscription, ?_, ?_⟩
      · exact (cancelRenewals_report m').1.trans hm'.callbackRaises
      · rw [hm'.milestones, List.append_assoc]
        rfl
    have hlost' : LostAt trace
        { m'.cancelRenewals with milestones := m'.milestones ++ [.restart] } := by
      obtain ⟨v, hv, hfailed, hdevice⟩ := hlost
      exact ⟨v, hv, hfailed, hdevice.trans (congrArg Held.device hheld.symm)⟩
    have hends := fun r hguarded => TaskEnds.restarted (C := C) (k := k) (w := w) (r := r)
      htracked' htrace hfine hlost' hguarded
    cases hresult : (restartRun C interval k w trace.length
        { m'.cancelRenewals with milestones := m'.milestones ++ [.restart] }).result with
    | ok t => exact hends _ (hresult ▸ .ok _ _)
    | error e =>
      rw [ends_error, ends_error]
      exact wp_guarded fun r hguarded => hends r (hresult ▸ hguarded)

theorem rearm_milestones (M : ManagerClass ONVIFCamera cameraInterface) (t : Option ℚ)
    (m : CameraManager) : (rearm M t m).milestones = m.milestones := by
  rw [rearm]
  by_cases hguard : (!m.shutdown && !m.sessionClosed M) = true
  · rw [if_pos hguard]
    exact (cancelRenewals_report m).2
  · rw [if_neg hguard]

/-- **The whole task**, if it has anything to do. -/
theorem taskEnds_renewalRun (hw : DeviceCaused w) (hm : Operating m)
    (hover : m.renewalOver (manager C interval k) = false) :
    ∃ r m', TaskEnds C interval k w m r (renewalRun C interval k w m).trace m' ∧
      (renewalRun C interval k w m).result = r.map (fun _ => ()) ∧
      (renewalRun C interval k w m).state.milestones = m'.milestones := by
  have hrun : wp w.traced (fun r trace n => ∃ r₀ m', TaskEnds C interval k w m r₀ trace m' ∧
      r = r₀.map (fun _ => ()) ∧ n.milestones = m'.milestones)
      (renewOrRestartSubscription (manager C interval k)) [] m := by
    rw [renewOrRestartSubscription, wp_bind, wp_getState, ends_ok, ← renewalOver, hover,
      if_neg Bool.false_ne_true, wp_bind, wp_tryFinally]
    refine wp_mono (fun r trace m' hr => ?_) (wp_renewOrRestartBody hw hm hover)
    rw [wp_modifyState, ends_ok]
    cases r with
    | ok t => exact ⟨_, m', hr, rfl, rearm_milestones _ _ m'⟩
    | error e => exact ⟨_, m', hr, rfl, rearm_milestones _ _ m'⟩
  exact wp_traced.mp hrun

/-! ### Teardown -/

/-- **`stop()`** returns exactly if the answer to Unsubscribe is absorbed. -/
theorem wp_stop (hm : m.held.subscription.isSome) :
    wp w.traced (fun r trace _ => r.isOk ↔ ∀ v ∈ trace, Absorbed interval v)
      (stop (I := cameraInterface)) [] m := by
  obtain ⟨sid, hsid⟩ := Option.isSome_iff_exists.mp hm
  rw [stop, wp_bind, wp_modifyState, ends_ok, wp_bind, wp_getState, ends_ok,
    (cancelRenewals_fields m).1, hsid]
  dsimp only
  rw [wp_tryExcept]
  refine (wp_call _).mpr ⟨trivial, ?_⟩
  rintro r _ m' ⟨rfl, -, -⟩
  cases r with
  | ok a => exact iff_of_true rfl (List.forall_mem_singleton.mpr trivial)
  | error e =>
    rw [ends_error]
    by_cases hcaught : e.oneOf subscriptionErrors = true
    · rw [if_pos hcaught]
      refine wp_report (fun hreportable => ?_) fun e' hnot _ => ?_
      · exact iff_of_true rfl (List.forall_mem_singleton.mpr ⟨hcaught, hreportable⟩)
      · exact iff_of_false Bool.false_ne_true
          fun h => hnot (List.forall_mem_singleton.mp h).2
    · rw [if_neg hcaught]
      exact iff_of_false Bool.false_ne_true
        fun h => hcaught (List.forall_mem_singleton.mp h).1

theorem stopRun_isOk_iff (interval : TimeDelta) (hm : m.held.subscription.isSome) :
    (stopRun w m).result.isOk ↔ ∀ v ∈ (stopRun w m).trace, Absorbed interval v :=
  wp_traced.mp (wp_stop hm)

theorem shutdownRun_isOk_iff (interval : TimeDelta) (hm : m.held.subscription.isSome) :
    (shutdownRun w m).result.isOk ↔ ∀ v ∈ (shutdownRun w m).trace, Absorbed interval v := by
  have hrun : wp w.traced (fun r trace _ => r.isOk ↔ ∀ v ∈ trace, Absorbed interval v)
      (shutdownManager (I := cameraInterface)) [] m := by
    rw [shutdownManager, wp_bind, wp_modifyState, ends_ok]
    exact wp_stop hm
  exact wp_traced.mp hrun

end Run

/-! ### The restart in a run -/

section Run

variable {w : World (managerInterface cameraInterface) Exc CameraManager} {n : ℕ}

/-- It makes only calls of `_start()` and passes no milestone. -/
theorem restartRun_frame (hw : DeviceCaused w) (before : List ManagerEvent) (m : CameraManager) :
    (∀ v ∈ (restartRun C interval k w before.length m).trace, ∃ c, v.call = .start c) ∧
      (restartRun C interval k w before.length m).state.milestones = m.milestones := by
  have hframe : wp w.traced (fun _ trace m' => ∃ l, trace = before ++ l ∧
      (∀ v ∈ l, ∃ c, v.call = .start c) ∧ m'.milestones = m.milestones)
      (innerStart (manager C interval k)) before m := by
    refine wp_zoom_frame (fun trace (m' : CameraManager) => ∃ l, trace = before ++ l ∧
      (∀ v ∈ l, ∃ c, v.call = .start c) ∧ m'.milestones = m.milestones) (fun _ _ _ h => h)
      (fun _ _ _ _ => trivial) ?_ (fun _ _ _ h => h) _
      ⟨[], (List.append_nil _).symm, fun _ hv => absurd hv List.not_mem_nil, rfl⟩
    rintro _ c m₁ r _ _ ⟨l, rfl, hl, hmilestones⟩ ⟨rfl, -, rfl⟩
    refine ⟨_, List.append_assoc _ _ _, fun v hv => ?_, (hw.milestones _ _ _).trans hmilestones⟩
    rcases List.mem_append.mp hv with hv | hv
    · exact hl v hv
    · rw [List.mem_singleton.mp hv]
      exact ⟨c, rfl⟩
  obtain ⟨l, htrace, hl, hmilestones⟩ := wp_traced.mp hframe
  rw [← List.append_cancel_left htrace] at hl
  exact ⟨hl, hmilestones⟩

/-- It ends with the first error its calls are answered with. -/
theorem restartRun_error {m : CameraManager} (hv : v ∈ (restartRun C interval k w n m).trace)
    {e : Exc} (he : v.answer = .error e) : (restartRun C interval k w n m).result = .error e :=
  (Transparent.zoom _ _ (transparent_start k)).exec w hv he

/-- **A restart whose steps are as they should be** raises nothing that escapes. -/
theorem restartRun_tolerable (hw : DeviceCaused w) {absolute : Prop} {m : CameraManager}
    (hm : Startable absolute interval m.held)
    (hsteps : ∀ v ∈ (restartRun C interval k w n m).trace, Smooth C interval absolute v) :
    Only Tolerable (restartRun C interval k w n m).result := by
  have hstart : wp (restartSteps C interval absolute)
      (Ends (fun _ _ _ => True) fun e _ _ => Tolerable e)
      (innerStart (manager C interval k)) () m := by
    refine (wp_zoom _ _).mpr (wp_mono (fun r g h hr => ?_) (finishes_start k ((), m) m.held hm))
    cases r with
    | ok t => exact hr
    | error e => exact hr
  have hpost := wp_exec_of_trace (K := restartSteps C interval absolute) (w := w) (fun _ _ => ())
    (P := Smooth C interval absolute) (fun i _ c s hsmooth => ⟨hsmooth, hw.subscription i c s⟩)
    hstart hsteps
  intro e he
  rw [restartRun] at he
  rw [he] at hpost
  exact hpost

/-! ### What is contained -/

theorem renewalRun_of_over (hover : m.renewalOver (manager C interval k) = true) :
    (renewalRun C interval k w m).result = .ok () ∧ (renewalRun C interval k w m).trace = [] := by
  have hrun : wp w.traced (fun r trace _ => r = .ok () ∧ trace = [])
      (renewOrRestartSubscription (manager C interval k)) [] m := by
    rw [renewOrRestartSubscription, wp_bind, wp_getState, ends_ok, ← renewalOver, hover, if_pos rfl]
    exact ⟨rfl, rfl⟩
  exact wp_traced.mp hrun

theorem lastRenew_restart {before : List ManagerEvent} (hw : DeviceCaused w) (m : CameraManager) :
    lastRenew (before ++ (restartRun C interval k w before.length m).trace) = lastRenew before := by
  refine lastRenew_append fun v hv => ?_
  obtain ⟨c, hc⟩ := (restartRun_frame hw before m).1 v hv
  rw [isRenew, hc]

/-- The task handles every error of the restart it made. -/
theorem absorbed_restart (hw : DeviceCaused w) {before : List ManagerEvent} {m₁ : CameraManager}
    {r : Except Exc (Option ℚ)}
    (hguarded : Guarded (restartRun C interval k w before.length m₁).result r)
    (htask : ∀ e, r = .error e → e.isCancelledError)
    (hv : v ∈ (restartRun C interval k w before.length m₁).trace) : Absorbed interval v := by
  have herror : ∀ e, v.answer = .error e → Handled e := by
    intro e he
    rw [restartRun_error hv he] at hguarded
    obtain ⟨i, hi⟩ := exec_answered hv
    have hdevice := hw.raises i v.call v.before e ((congrArg Prod.fst hi).trans he)
    generalize hr : r = r' at hguarded
    cases hguarded with
    | handled h => exact h
    | escaped h hsame =>
      have hcancelled := hsame.symm.trans (htask _ hr)
      rw [hdevice.not_cancelled] at hcancelled
      cases hcancelled
  obtain ⟨c, hc⟩ := (restartRun_frame hw before m₁).1 v hv
  obtain ⟨call, before', answer, after⟩ := v
  subst hc
  cases answer with
  | ok a => exact trivial
  | error e => exact herror e rfl

/-- Where nothing escapes the task, every answer was absorbed. -/
theorem fine_of_task (hw : DeviceCaused w) (hm : Operating m)
    (hover : m.renewalOver (manager C interval k) = false)
    (htask : ∀ e, (renewalRun C interval k w m).result = .error e → e.isCancelledError) :
    Fine interval m (renewalRun C interval k w m).trace := by
  obtain ⟨r, m', hends, hresult, -⟩ := taskEnds_renewalRun hw hm hover
  have htask' : ∀ e, r = .error e → e.isCancelledError := by
    intro e he
    refine htask e ?_
    rw [hresult, he]
    rfl
  generalize (renewalRun C interval k w m).trace = trace at hends
  cases hends with
  | renewed h => exact h.fine
  | escaped hcancelled hbroken =>
    have hcontained := htask' _ rfl
    rw [hcancelled] at hcontained
    cases hcontained
  | restarted htracked htrace hfine hlost hguarded =>
    refine ⟨hfine.1, fun v hv => ?_⟩
    rcases List.mem_append.mp hv with hv | hv
    · exact hfine.2 v hv
    · exact absorbed_restart hw hguarded htask' hv

/-- A restart that failed in a call, or whose steps were as they should be, is tolerable. -/
theorem tolerable_restart (hw : DeviceCaused w) {before : List ManagerEvent} {m₁ : CameraManager}
    (hm : m₁.held.subscription.isSome) (htrace : BeforeStart before) (hlost : LostAt before m₁)
    (habsorbed : ∀ v ∈ (restartRun C interval k w before.length m₁).trace, Absorbed interval v)
    (hrestartable : ¬StartFailed (before ++ (restartRun C interval k w before.length m₁).trace) →
      Restartable C interval (before ++ (restartRun C interval k w before.length m₁).trace)) :
    Only Tolerable (restartRun C interval k w before.length m₁).result := by
  have hcalls : ∀ v ∈ (restartRun C interval k w before.length m₁).trace, ∃ c, v.call = .start c :=
    (restartRun_frame hw before m₁).1
  by_cases hfailed : StartFailed (before ++ (restartRun C interval k w before.length m₁).trace)
  · obtain ⟨v, hv, ⟨c, hc⟩, hnot⟩ := hfailed
    rcases List.mem_append.mp hv with hbefore | hv
    · exact absurd hc (htrace v hbefore c)
    · obtain ⟨call, before', answer, after⟩ := v
      cases hc
      cases answer with
      | ok a => exact absurd rfl hnot
      | error e =>
        rw [restartRun_error hv rfl]
        exact only_error (Or.inr (habsorbed _ hv))
  · have hsteps := hrestartable hfailed
    refine restartRun_tolerable hw ⟨?_, hm⟩ fun v hv => ⟨?_, hsteps.steps v ?_, fun hbroken => ?_⟩
    · obtain ⟨v, hv, hrenew, hdevice⟩ := hlost
      rw [← lastRenew_restart (C := C) (k := k) hw m₁] at hv
      rw [← hdevice]
      exact hsteps.begins v hv hrenew
    · by_contra hnot
      exact hfailed ⟨v, List.mem_append_right _ hv, hcalls v hv, hnot⟩
    · exact List.mem_append_right _ hv
    · exact ⟨v, List.mem_append_right _ hv, hbroken⟩

/-- **The task contains** what it absorbs, with one report and one restart for a lost
subscription. -/
theorem task_of_fine (hw : DeviceCaused w) (hm : Operating m)
    (hover : m.renewalOver (manager C interval k) = false)
    (hfine : Fine interval m (renewalRun C interval k w m).trace)
    (hrestartable : ¬StartFailed (renewalRun C interval k w m).trace →
      Restartable C interval (renewalRun C interval k w m).trace) :
    (∀ e, (renewalRun C interval k w m).result = .error e → e.isCancelledError) ∧
      (RenewFailed (renewalRun C interval k w m).trace →
        (renewalRun C interval k w m).state.milestones
          = m.milestones ++ [.subscriptionLost, .restart]) := by
  obtain ⟨r, m', hends, hresult, hmilestones⟩ := taskEnds_renewalRun hw hm hover
  rw [hresult, hmilestones]
  generalize (renewalRun C interval k w m).trace = trace at hends hfine hrestartable ⊢
  cases hends with
  | renewed h => exact ⟨fun e he => (by cases he), fun hfailed => absurd hfailed h.renewed⟩
  | escaped hcancelled hbroken => exact absurd hfine hbroken
  | @restarted _ before m₁ htracked htrace hbefore hlost hguarded =>
    have htolerable := tolerable_restart hw htracked.subscription htrace hlost
      (fun v hv => hfine.2 v (List.mem_append_right _ hv)) hrestartable
    refine ⟨fun e he => ?_, fun _ => ?_⟩
    · generalize hrestart : (restartRun C interval k w before.length m₁).result = r' at *
      cases hguarded with
      | ok t t' => cases he
      | handled h t' => cases he
      | escaped h hsame =>
        cases he
        rcases htolerable _ rfl with hcancelled | hhandled
        · exact hsame.trans hcancelled
        · exact absurd hhandled h
    · rw [(restartRun_frame hw before m₁).2, htracked.milestones]

end Run

/-- **The failures a manager contains**: that every answer is absorbed where it is awaited is
necessary, and it is enough if in a restart whose calls all succeed no answer makes `_start()`
raise. -/
theorem contained_when (C : CameraConfig) (interval : TimeDelta) (k : ManagerKind)
    (w : World (managerInterface cameraInterface) Exc CameraManager) (hw : DeviceCaused w)
    (m : CameraManager) (hm : Operating m) :
    (Contained C interval k w m → Absorbs C interval k w m) ∧
    (Absorbs C interval k w m →
      (¬StartFailed (renewalRun C interval k w m).trace →
        Restartable C interval (renewalRun C interval k w m).trace) →
      Contained C interval k w m) := by
  have hstop := stopRun_isOk_iff (w := w) interval hm.subscription
  have hshutdown := shutdownRun_isOk_iff (w := w) interval hm.subscription
  cases hover : m.renewalOver (manager C interval k) with
  | true =>
    obtain ⟨hresult, htrace⟩ := renewalRun_of_over (w := w) hover
    constructor
    · intro h
      refine ⟨fun hnot => ?_, fun v hv => ?_, hstop.mp h.stop, hshutdown.mp h.shutdown⟩
      · rw [hover] at hnot
        cases hnot
      · rw [htrace] at hv
        exact absurd hv List.not_mem_nil
    · intro h _
      refine ⟨fun e he => ?_, fun hfailed => ?_, hstop.mpr h.stop, hshutdown.mpr h.shutdown⟩
      · rw [hresult] at he
        cases he
      · rw [htrace] at hfailed
        obtain ⟨v, hv, -⟩ := hfailed
        cases hv
  | false =>
    constructor
    · intro h
      have hfine := fine_of_task hw hm hover h.task
      exact ⟨fun _ => hfine.1, hfine.2, hstop.mp h.stop, hshutdown.mp h.shutdown⟩
    · intro h hrestartable
      obtain ⟨htask, hloss⟩ := task_of_fine hw hm hover ⟨h.begins hover, h.task⟩ hrestartable
      exact ⟨htask, hloss, hstop.mpr h.stop, hshutdown.mpr h.shutdown⟩

/-! ### A manager on the local network -/

/-- Renew ends as given; a restart succeeds. -/
def renewing (renew : Except Exc SubscriptionTimes) :
    (c : (managerInterface cameraInterface).Call) →
      Except Exc ((managerInterface cameraInterface).Answer c)
  | .renew _ _ => renew
  | .start c => FailedRestart.rebooted (.ok ()) (.start c)
  | .begin | .unsubscribe _ | .sleep _ => .ok ()

theorem deviceCaused_renewing {renew : Except Exc SubscriptionTimes}
    (h : ∀ e, renew = .error e → e.IsDeviceError) :
    DeviceCaused (World.alone (renewing renew)) where
  slept _ _ _ := rfl
  raises _ c _ e he := by
    cases c with
    | renew sid time => exact h e he
    | start c =>
      cases c with
      | close sid => cases he
      | setup sid => cases he
      | createPullPointSubscription sid time => cases he
      | _ =>
        cases he
        exact trivial
    | _ => cases he
  subscription _ _ _ h := h
  callbackRaises _ _ _ := rfl
  milestones _ _ _ := rfl

theorem operating_subscribedManager : Operating FailedRestart.subscribedManager := ⟨rfl, rfl⟩

/-- The device does not know the subscription any more. -/
theorem contained_rebooted : Contained localConfig (TimeDelta.ofSeconds 60) .pullPoint
    (World.alone (renewing (.error (.onvif .onvifError "unknown subscription"))))
    FailedRestart.subscribedManager := by
  refine (contained_when localConfig (TimeDelta.ofSeconds 60) .pullPoint _
    (deviceCaused_renewing fun e he => ?_) _ operating_subscribedManager).2
    ⟨fun _ => ?_, ?_, ?_, ?_⟩ fun _ => ⟨?_, ?_⟩
  · cases he
    exact trivial
  all_goals decide +kernel

/-- Renew fails in the transport, which no handler expects. -/
theorem not_contained_transportError :
    ¬∀ (w : World (managerInterface cameraInterface) Exc CameraManager) (m : CameraManager),
      DeviceCaused w → Operating m →
        Contained localConfig (TimeDelta.ofSeconds 60) .pullPoint w m := by
  intro h
  have hescaped : (renewalRun localConfig (TimeDelta.ofSeconds 60) .pullPoint
      (World.alone (renewing (.error (.zeep .transportError "Service Unavailable"))))
      FailedRestart.subscribedManager).result
        = .error (.zeep .transportError "Service Unavailable") := rfl
  have hcontained := (h _ _ (deviceCaused_renewing fun e he => (by cases he; exact trivial))
    operating_subscribedManager).task _ hescaped
  cases hcontained

end Containment

end Onvif
