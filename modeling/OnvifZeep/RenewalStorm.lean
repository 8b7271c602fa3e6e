/-
No renewal storm: how long after a renewal task the next one starts.

The `finally` block of a renewal task arms the timer at the time the task found for the next
renewal, or 40 seconds ahead when it found none.  Every path that finds one goes through
`_calculate_next_renewal_call_at`, which looks at least 48 seconds ahead, and reads the clock in
the segment the task ends in.

* **`Standstill`** — within a segment the clock stands still and no timer is armed;
  `unhurried_manager` shows that the two `_start()` methods keep to it, and what they return;
* **`StartsAfter`** — no renewal task starts before a given time: kept by every step that is not
  `start()` or `resume()`;
* **`no_renewal_storm`** — 40 seconds after every renewal task, 48 after a successful one.
-/
import Mathlib.Tactic.Linarith
import OnvifZeep.TaskHistories
import OnvifZeep.RenewalTimer
import OnvifZeep.RenewalTiming
import OnvifZeep.Managers
import OnvifZeep.FailedRestart

namespace Onvif

open Coro BaseManager Onvif.System

namespace RenewalStorm

variable {δ : Type} {I : Interface} {M : ManagerClass δ I} {m m' m'' : BaseManager δ}

/-! ### Timers and the times they are set to -/

/-- Timer `h` is live and set to `time`. -/
def DueAt (m : BaseManager δ) (h : ℕ) (time : ℚ) : Prop := m.timers[h]? = some ⟨time, .live⟩

theorem DueAt.isLive {h : ℕ} {time : ℚ} (hdue : DueAt m h time) : m.isLive h := by
  rw [BaseManager.isLive, hdue]
  rfl

theorem exists_dueAt {h : ℕ} (hlive : m.isLive h) : ∃ time, DueAt m h time := by
  obtain ⟨t, ht, hstate⟩ := (Option.any_eq_true _ _).mp hlive
  obtain ⟨time, state⟩ := t
  obtain rfl : state = .live := of_decide_eq_true hstate
  exact ⟨time, ht⟩

/-- From `m` to `m'` the loop clock stood still and no timer was armed. -/
structure Standstill (m m' : BaseManager δ) : Prop where
  loopTime : m'.held.loopTime = m.held.loopTime
  timers : ∀ h time, DueAt m' h time → DueAt m h time

theorem Standstill.refl (m : BaseManager δ) : Standstill m m := ⟨rfl, fun _ _ => id⟩

theorem Standstill.trans (h : Standstill m m') (h' : Standstill m' m'') : Standstill m m'' :=
  ⟨h'.loopTime.trans h.loopTime, fun i time hdue => h.timers i time (h'.timers i time hdue)⟩

theorem Standstill.of_fields (htime : m'.held.loopTime = m.held.loopTime)
    (htimers : m'.timers = m.timers) : Standstill m m' :=
  ⟨htime, fun h time hdue => by rwa [DueAt, ← htimers]⟩

theorem Standstill.cancelRenewals (m : BaseManager δ) : Standstill m m.cancelRenewals := by
  rw [BaseManager.cancelRenewals]
  cases m.cancelSubscriptionRenew with
  | none => exact .refl m
  | some i =>
    refine ⟨rfl, fun h time hdue => ?_⟩
    rw [DueAt] at hdue ⊢
    simp only [List.getElem?_modify] at hdue
    cases ht : m.timers[h]? with
    | none =>
      rw [ht] at hdue
      cases hdue
    | some t =>
      rw [ht] at hdue
      replace hdue : some (if i = h then t.cancel else t) = some ⟨time, .live⟩ := hdue
      by_cases hih : i = h
      · -- a cancelled timer is not live
        rw [if_pos hih] at hdue
        exact (t.not_live_cancel (congrArg TimerHandle.state (Option.some.inj hdue))).elim
      · rwa [if_neg hih] at hdue

theorem dueAt_callAt {time time' : ℚ} {h : ℕ} (hdue : DueAt (m.callAt time) h time') :
    DueAt m h time' ∨ time' = time := by
  rw [DueAt, callAt] at hdue
  rcases Pool.getElem?_concat_eq_some.mp hdue with hdue | ⟨-, heq⟩
  · exact Or.inl hdue
  · exact Or.inr (congrArg TimerHandle.time heq)

/-- From `m` to `m'` the clock stood still, and a timer armed meanwhile is set to `b` or later. -/
structure StandstillUntil (b : ℚ) (m m' : BaseManager δ) : Prop where
  loopTime : m'.held.loopTime = m.held.loopTime
  timers : ∀ h time, DueAt m' h time → DueAt m h time ∨ b ≤ time

theorem Standstill.until (h : Standstill m m') (b : ℚ) : StandstillUntil b m m' :=
  ⟨h.loopTime, fun i time hdue => Or.inl (h.timers i time hdue)⟩

theorem Standstill.schedule (h : Standstill m m') {b time : ℚ} (hb : b ≤ time) :
    StandstillUntil b m (m'.scheduleSubscriptionRenew time) := by
  refine ⟨(congrArg Held.loopTime (scheduleSubscriptionRenew_held m' time)).trans h.loopTime,
    fun i time' hdue => ?_⟩
  rcases dueAt_callAt hdue with hdue | rfl
  · exact Or.inl (h.timers i time' ((Standstill.cancelRenewals m').timers i time' hdue))
  · exact Or.inr hb

/-! ### Segments -/

/-- The ghost is the state a segment began in. -/
def segments : Contract (managerInterface I) Exc (BaseManager δ) (BaseManager δ) where
  suspend m _ m' := Standstill m m'
  resume _ _ _ _ m m' := m = m'

/-- The time found is 48 seconds ahead, seen from the segment. -/
def Ahead (time : ℚ) (m : BaseManager δ) (_ : BaseManager δ) : Prop := m.held.loopTime + 48 ≤ time

abbrev segmentsInStart : Contract I Exc (Held δ) (BaseManager δ × BaseManager δ) :=
  segments.zoom (startEmbedding I) heldLens

def StandstillInStart (g : BaseManager δ × BaseManager δ) (h : Held δ) : Prop :=
  Standstill g.1 (heldLens.set h g.2)

/-- `_start()` leaves the clock alone and returns a time 48 seconds ahead. -/
def Unhurried (M : ManagerClass δ I) : Prop :=
  Yields segmentsInStart StandstillInStart (fun time g _ => g.1.held.loopTime + 48 ≤ time) M.start

theorem standstill_of_resume {g g' : BaseManager δ × BaseManager δ} {c : I.Call} {h h' : Held δ}
    {r : Except Exc (I.Answer c)} (hr : segmentsInStart.resume g c h r g' h') :
    StandstillInStart g' h' := by
  obtain ⟨r', -, hresume, rfl⟩ := hr
  obtain ⟨m, t⟩ := g'
  obtain rfl : m = t := hresume
  exact .refl m

/-! ### The renewal task -/

theorem preserves_call_segments (c : (managerInterface I).Call) :
    Preserves segments Standstill (call (I := managerInterface I) (ε := Exc) (σ := BaseManager δ) c) :=
  .call (fun _ _ h => h) fun _ _ _ m m' _ hr => by
    rw [show m = m' from hr]
    exact .refl m'

/-- The time calculated from a response. -/
theorem ahead_calculate {interval : TimeDelta} {result : SubscriptionTimes} {time : ℚ}
    (h : Standstill m m')
    (hok : calculateNextRenewalCallAt interval m'.held.loopTime result = .ok time) :
    Ahead time m m' := by
  have hle := RenewalTiming.le_renewalTime interval m'.held.loopTime result
  rw [← RenewalTiming.eq_renewalTime hok, h.loopTime] at hle
  exact hle

theorem yields_callSubscriptionRenew (M : ManagerClass δ I) :
    Yields segments Standstill (fun o m m' => ∀ time ∈ o, Ahead time m m')
      (callSubscriptionRenew M) := by
  refine yields_retryConnectionError ?_ (preserves_call_segments _)
  refine .bind_of_preserves .getState fun m => ?_
  cases m.held.subscription with
  | none => exact .raise _
  | some sid =>
    refine .bind_of_preserves (.ofExcept _) fun time => ?_
    refine .bind_of_preserves (preserves_call_segments _) fun result => ?_
    intro g m h
    rw [wp_bind, wp_getState, ends_ok, wp_ofExcept]
    exact ⟨h, fun time htime => ahead_calculate h htime⟩

theorem yields_renewSubscription (M : ManagerClass δ I) :
    Yields segments Standstill (fun o m m' => ∀ time ∈ o, Ahead time m m') (renewSubscription M) := by
  refine .bind_of_preserves .getState fun m => ?_
  by_cases hm : (m.closed M || m.shutdown) = true
  · rw [if_pos hm]
    exact .pure fun _ _ _ time htime => by cases htime
  · rw [if_neg hm]
    refine .tryExcept (yields_callSubscriptionRenew M) fun e => ?_
    by_cases he : e.oneOf renewErrors = true
    · rw [if_pos he]
      refine .bind_of_preserves ?_ fun _ => .bind_of_preserves (.ofExcept _) fun _ =>
        .pure fun _ _ _ time htime => by cases htime
      refine .bind (.modifyState fun g m h => h.trans (.of_fields rfl rfl)) fun _ =>
        .bind .getState fun m => ?_
      cases m.callbackRaises with
      | none => exact .pure ()
      | some e => exact .raise e
    · rw [if_neg he]
      exact .raise e

theorem yields_innerStart (hM : Unhurried M) : Yields segments Standstill Ahead (innerStart M) := by
  intro g m h
  refine (wp_zoom _ _).mpr (wp_mono (fun r g h hr => hr) (hM (g, m) m.held h))

theorem yields_restartSubscription (hM : Unhurried M) :
    Yields segments Standstill Ahead (restartSubscription M) :=
  .bind_of_preserves (.modifyState fun _ m h =>
    (h.trans (.cancelRenewals m)).trans (.of_fields rfl rfl)) fun _ => yields_innerStart hM

theorem yields_renewOrRestartBody (hM : Unhurried M) :
    Yields segments Standstill (fun o m m' => ∀ time ∈ o, Ahead time m m')
      (renewOrRestartBody M) := by
  refine .bind (yields_renewSubscription M) fun o g m h ho => ?_
  cases o with
  | some time =>
    refine ⟨h, fun o' ho' => ?_⟩
    rw [← Except.ok.inj ho']
    exact ho
  | none =>
    have hrestart : Yields segments Standstill (fun o m m' => ∀ time ∈ o, Ahead time m m')
        (restartSubscription M >>= fun time => pure (some time)) := by
      refine .bind (yields_restartSubscription hM) fun time g m h htime => ⟨h, fun o ho => ?_⟩
      rw [← Except.ok.inj ho]
      intro time' htime'
      rw [← Option.some.inj htime']
      exact htime
    refine Yields.tryExcept hrestart (fun e => ?_) g m h
    by_cases he : e.oneOf renewErrors = true
    · rw [if_pos he]
      exact .bind_of_preserves (.ofExcept _) fun _ => .pure fun _ _ _ time htime => by cases htime
    · rw [if_neg he]
      exact .raise e

/-- The `finally` block looks 40 seconds ahead at least. -/
theorem le_nextCallAt {o : Option ℚ} {loopTime : ℚ} (ho : ∀ time ∈ o, loopTime + 48 ≤ time) :
    loopTime + 40 ≤ nextCallAt o loopTime := by
  have hinterval : TimeDelta.totalSeconds SUBSCRIPTION_RESTART_INTERVAL_ON_ERROR = 40 := by
    rw [SUBSCRIPTION_RESTART_INTERVAL_ON_ERROR, TimeDelta.totalSeconds, TimeDelta.ofSeconds]
    norm_num
  cases o with
  | none =>
    rw [nextCallAt, hinterval]
  | some time =>
    rw [nextCallAt, hinterval]
    have htime := ho time rfl
    by_cases hzero : time = 0
    · exact (if_pos hzero).ge
    · rw [if_neg hzero]
      linarith

/-- A time found is used unless it is zero, which it is not on a clock that counts up from zero. -/
theorem nextCallAt_some {time loopTime : ℚ} (htime : loopTime + 48 ≤ time) (h : 0 ≤ loopTime) :
    nextCallAt (some time) loopTime = time := if_neg (by linarith)

theorem standstillUntil_rearm {b : ℚ} {o : Option ℚ} (h : Standstill m m')
    (hb : b ≤ nextCallAt o m'.held.loopTime) : StandstillUntil b m (rearm M o m') := by
  rw [rearm]
  by_cases hover : (!m'.shutdown && !m'.sessionClosed M) = true
  · rw [if_pos hover]
    exact h.schedule hb
  · rw [if_neg hover]
    exact h.until b

/-- **A renewal task** ends by arming the timer 40 seconds ahead at least. -/
theorem wp_background (hM : Unhurried M) (m : BaseManager δ) :
    wp segments (fun _ m m' => StandstillUntil (m.held.loopTime + 40) m m') (background M) m m := by
  rw [background, wp_bind]
  refine (wp_call _).mpr ⟨.refl m, ?_⟩
  rintro r g m' ⟨⟩
  cases r with
  | error e => exact (Standstill.refl g).until _
  | ok a =>
    rw [ends_ok, renewOrRestartSubscription, wp_bind, wp_getState, ends_ok]
    by_cases hover : (g.shutdown || g.sessionClosed M) = true
    · rw [if_pos hover]
      exact (Standstill.refl g).until _
    · rw [if_neg hover, wp_bind, wp_tryFinally]
      refine wp_mono (fun r g m hr => ?_) (yields_renewOrRestartBody hM g g (.refl g))
      rw [wp_modifyState, ends_ok]
      have hloop := hr.1.loopTime
      cases r with
      | ok o =>
        refine standstillUntil_rearm hr.1 ?_
        rw [hloop]
        exact le_nextCallAt (hr.2 o rfl)
      | error e =>
        refine standstillUntil_rearm hr.1 ?_
        rw [hloop]
        exact le_nextCallAt fun _ htime => by cases htime

/-! ### The two `_start()` methods -/

section Start

variable {α : Type}

theorem preserves_onDevice (x : CameraCoro α) :
    Preserves segmentsInStart StandstillInStart (onDevice x) := by
  intro g h hstandstill
  refine wp_zoom_frame StandstillInStart (fun g t s ht => ?_) (fun _ _ _ ht => ht)
    (fun _ _ _ _ _ _ _ hr => standstill_of_resume hr) (fun _ _ _ ht => ht) x hstandstill
  exact Standstill.trans ht (.of_fields rfl rfl)

theorem preserves_setField {f : Held ONVIFCamera → Held ONVIFCamera}
    (hf : ∀ h, (f h).loopTime = h.loopTime) :
    Preserves segmentsInStart StandstillInStart (modifyState f : StartCoro Unit) :=
  .modifyState fun _ h hstandstill => Standstill.trans hstandstill (.of_fields (hf h) rfl)

theorem preserves_call_start (c : CameraCall) :
    Preserves segmentsInStart StandstillInStart
      (call (I := cameraInterface) c : StartCoro (cameraInterface.Answer c)) :=
  .call (fun _ _ h => h) fun _ _ _ _ _ _ hr => standstill_of_resume hr

theorem preserves_nextTerminationTime (interval : TimeDelta) :
    Preserves segmentsInStart StandstillInStart (nextTerminationTime interval) :=
  .bind .getState fun _ => .ofExcept _

theorem preserves_storeAddress (C : CameraConfig) (portType : String) (address : Option String) :
    Preserves segmentsInStart StandstillInStart (storeAddress C portType address) :=
  .bind (.ofExcept _) fun _ => preserves_onDevice _

theorem yields_scheduleRenewal (interval : TimeDelta) (result : SubscriptionTimes) :
    Yields segmentsInStart StandstillInStart (fun time g _ => g.1.held.loopTime + 48 ≤ time)
      (scheduleRenewal interval result) := by
  -- the clock is read after the last call
  have hlast : ∀ result : SubscriptionTimes, Yields segmentsInStart StandstillInStart
      (fun time g _ => g.1.held.loopTime + 48 ≤ time)
      ((getState : StartCoro (Held ONVIFCamera)) >>= fun h =>
        ofExcept (calculateNextRenewalCallAt interval h.loopTime result)) := by
    intro result g h hstandstill
    rw [wp_bind, wp_getState, ends_ok, wp_ofExcept]
    exact ⟨hstandstill, fun time htime => ahead_calculate hstandstill htime⟩
  refine .bind_of_preserves (preserves_onDevice _) fun broken =>
    .bind_of_preserves .getState fun h => ?_
  by_cases hbroken : broken = true
  · simp only [hbroken, if_true]
    cases h.subscription with
    | some sid =>
      exact .bind_of_preserves (preserves_nextTerminationTime interval) fun _ =>
        .bind_of_preserves (preserves_call_start _) hlast
    | none => exact .bind_of_preserves (.raise _) hlast
  · rw [if_neg hbroken]
    exact .bind_of_preserves (.pure result) hlast

/-- **Both `_start()` methods** return a time 48 seconds ahead, whatever the device answers. -/
theorem unhurried_manager (C : CameraConfig) (interval : TimeDelta) (k : ManagerKind) :
    Unhurried (manager C interval k) := by
  cases k with
  | pullPoint =>
    refine .bind_of_preserves (preserves_onDevice _) fun eventsService => ?_
    refine .bind_of_preserves (preserves_nextTerminationTime _) fun time => ?_
    refine .bind_of_preserves (preserves_call_start _) fun result => ?_
    refine .bind_of_preserves (preserves_storeAddress _ _ _) fun _ => ?_
    refine .bind_of_preserves (preserves_onDevice _) fun subscription => ?_
    refine .bind_of_preserves (preserves_setField fun _ => rfl) fun _ => ?_
    refine .bind_of_preserves (preserves_onDevice _) fun service => ?_
    exact .bind_of_preserves (preserves_setField fun _ => rfl) fun _ => yields_scheduleRenewal _ _
  | notification address =>
    refine .bind_of_preserves (preserves_onDevice _) fun notifyService => ?_
    refine .bind_of_preserves (preserves_nextTerminationTime _) fun time => ?_
    refine .bind_of_preserves (preserves_call_start _) fun result => ?_
    refine .bind_of_preserves (preserves_storeAddress _ _ _) fun _ => ?_
    refine .bind_of_preserves (preserves_onDevice _) fun service => ?_
    refine .bind_of_preserves (preserves_setField fun _ => rfl) fun _ => ?_
    refine .bind_of_preserves (preserves_onDevice _) fun subscription => ?_
    exact .bind_of_preserves (preserves_setField fun _ => rfl) fun _ => yields_scheduleRenewal _ _

end Start

/-! ### Segments of the tasks -/

/-- What a task of each kind does in the segment it ends in. -/
def Ending : Kind → BaseManager δ → BaseManager δ → Prop
  | .background, m, m' | .start, m, m' => StandstillUntil (m.held.loopTime + 40) m m'
  | .stop, m, m' | .shutdown, m, m' => Standstill m m'

theorem wp_task (hM : Unhurried M) (kind : Kind) (m : BaseManager δ) :
    wp segments (fun _ m m' => Ending kind m m') (task M kind) m m := by
  have hcancel : ∀ m m' : BaseManager δ, Standstill m m' → Standstill m m'.cancelRenewals :=
    fun _ m' h => h.trans (.cancelRenewals m')
  cases kind with
  | background => exact wp_background hM m
  | start =>
    rw [task, BaseManager.start, wp_bind, wp_bind]
    refine wp_mono (fun r g m' hr => ?_) (yields_innerStart hM m m (.refl m))
    cases r with
    | ok time =>
      refine hr.1.schedule ?_
      have hahead : g.held.loopTime + 48 ≤ time := hr.2 time rfl
      linarith
    | error e => exact hr.1.until _
  | stop => exact preserves_stop preserves_call_segments hcancel m m (.refl m)
  | shutdown =>
    rw [task, shutdownManager, wp_bind, wp_modifyState, ends_ok]
    exact preserves_stop preserves_call_segments hcancel m _ (.of_fields rfl rfl)

/-- The first segment of a task. -/
theorem keeps_first (hM : Unhurried M) (kind : Kind) (m : BaseManager δ) :
    ((task M kind).run m).2.Keeps segments (fun _ m m' => Ending kind m m') m
      ((task M kind).run m).1 := wp_run (wp_task hM kind m)

theorem loopTime_of_keeps {kind : Kind} {st : Status (managerInterface I) Exc (BaseManager δ) Unit}
    (h : st.Keeps segments (fun _ m m' => Ending kind m m') m m') :
    m'.held.loopTime = m.held.loopTime := by
  cases st with
  | waiting c k => exact h.1.loopTime
  | done r =>
    cases kind with
    | background => exact StandstillUntil.loopTime h
    | start => exact StandstillUntil.loopTime h
    | stop => exact Standstill.loopTime h
    | shutdown => exact Standstill.loopTime h

/-- A task that only cancels the timer. -/
theorem standstill_of_keeps {kind : Kind} {st : Status (managerInterface I) Exc (BaseManager δ) Unit}
    (h : st.Keeps segments (fun _ m m' => Ending kind m m') m m') (hstart : kind ≠ .start)
    (hback : kind ≠ .background) : Standstill m m' := by
  cases st with
  | waiting c k => exact h.1
  | done r =>
    cases kind with
    | background => exact (hback rfl).elim
    | start => exact (hstart rfl).elim
    | stop => exact h
    | shutdown => exact h

section Runs

variable [DecidableEq I.Call] {S S' : System I δ} {history : TaskId → List (ManagerWakeup I δ)}

/-- The state of the last wakeup, or `m` without one. -/
def lastState (m : BaseManager δ) (ws : List (ManagerWakeup I δ)) : BaseManager δ :=
  ws.foldl (fun _ w => w.state) m

omit [DecidableEq I.Call] in
theorem lastState_snoc (m : BaseManager δ) (ws : List (ManagerWakeup I δ))
    (w : ManagerWakeup I δ) : lastState m (ws ++ [w]) = w.state := by
  rw [lastState, List.foldl_append]
  rfl

/-- A precondition in terms of segments, along a replay. -/
theorem keeps_replay_segments {α : Type} {x : ManagerCoro I δ α}
    {Q : Except Exc α → BaseManager δ → BaseManager δ → Prop} {ws : List (ManagerWakeup I δ)}
    {p : BaseManager δ × Status (managerInterface I) Exc (BaseManager δ) α} (h : wp segments Q x m m)
    (hreplay : x.replay m ws = some p) : p.2.Keeps segments Q (lastState m ws) p.1 :=
  keeps_replay (R := fun _ _ => True) (fun _ _ _ _ _ _ _ => rfl) h
    (Runs.along_of_forall fun _ _ _ _ => trivial) hreplay

/-- **A segment** of the task that is answered. -/
theorem keeps_answer (hM : Unhurried M) (h : Recorded M history S) {t : TaskId}
    {c : (managerInterface I).Call} {r : Except Exc ((managerInterface I).Answer c)}
    (hstep : step M S (.answer t c r) = some S') :
    ∃ u u', S.tasks[t]? = some u ∧ u.pending = some c ∧ u'.kind = u.kind ∧
      S'.tasks = S.tasks.set t u' ∧
      u'.status.Keeps segments (fun _ m m' => Ending u.kind m m') (deliverCancel t S.shared)
        S'.shared := by
  obtain ⟨u, u', m, hu, hpending, hkind, htasks, hreplay⟩ := h.answer hstep
  have hkeeps := keeps_replay_segments (wp_task hM u.kind m) hreplay
  rw [lastState_snoc] at hkeeps
  exact ⟨u, u', hu, hpending, hkind, htasks, hkeeps⟩

/-! ### The invariant of a manager left alone -/

/-- While a renewal task is in progress, no timer is live. -/
structure Alternating (M : ManagerClass δ I) (S : System I δ) : Prop extends StartedFirst M S where
  busy : ∀ t, S.Unfinished .background t → S.shared.NoLiveTimer

omit [DecidableEq I.Call] in
theorem noLiveTimer_fireTimer (hm : m.TimerInv) {i : ℕ} (hi : m.isLive i) :
    (fireTimer i m).NoLiveTimer := by
  intro h hh
  by_cases hih : i = h
  · subst hih
    simp only [BaseManager.isLive, fireTimer, List.getElem?_modify] at hh
    cases ht : m.timers[i]? with
    | none => simp [ht] at hh
    | some t => simp [ht] at hh
  · have hlive : m.isLive h := by
      simp only [BaseManager.isLive, fireTimer, List.getElem?_modify, if_neg hih] at hh
      simpa [BaseManager.isLive] using hh
    exact hih (Option.some.inj ((hm i hi).symm.trans (hm h hlive)))

theorem alternating_step (h : Alternating M S) {a : Action I δ} (ha : ¬a.Arming)
    (hstep : step M S a = some S') : Alternating M S' := by
  have horderly : a.Orderly S := by
    cases a with
    | start => exact (ha trivial).elim
    | resume => exact (ha trivial).elim
    | _ => exact trivial
  refine ⟨startedFirst_step h.toStartedFirst horderly hstep, fun t ht => ?_⟩
  cases a with
  | start => exact (ha trivial).elim
  | resume => exact (ha trivial).elim
  | pause =>
    obtain rfl := Option.some.inj hstep
    exact (h.busy t ht).cancelRenewals
  | stop =>
    obtain rfl := Option.some.inj hstep
    exact (follows_stop (M := M) S.shared).segment.1.1.noLiveTimer
      (h.busy t (Pool.unfinished_of_start (by decide) ht))
  | shutdown =>
    obtain rfl := Option.some.inj hstep
    have hm := h.busy t (Pool.unfinished_of_start (by decide) ht)
    exact (follows_shutdownManager (M := M) S.shared).segment.1.1.noLiveTimer fun i hi => hm i hi
  | fire i =>
    obtain ⟨hlive, rfl⟩ := step_fire.mp hstep
    have hfired := noLiveTimer_fireTimer h.inv.timerInv hlive
    rw [System.runRestartOrRenew]
    split
    · exact hfired
    · exact fun t ht => hfired t ht
  | answer i c r =>
    have ht₀ := unfinished_of_answer h.inv.sound hstep ht
    have hlive : ∀ t, ¬(deliverCancel i S.shared).isLive t := h.busy t ht₀
    obtain ⟨-, -, u, u', hu, hpending, htasks, -, hmoves⟩ := answer_spec h.inv.sound hstep
    by_cases hback : u.kind = .background
    · -- the task in progress is the one answered
      obtain rfl : i = t := Option.some.inj ((h.inv.recorded i
        ⟨u, hu, hback, by simp [hpending]⟩).symm.trans (h.inv.recorded t ht₀))
      rw [hback] at hmoves
      cases hstop : u'.stop with
      | waiting c' =>
        rw [hstop] at hmoves
        exact Quiet.noLiveTimer hmoves hlive
      | finished res =>
        exact (unfinished_of_set hu htasks ht (by rw [Task.pending, hstop]; rfl) rfl).elim
    · refine noLiveTimer_of_moves hmoves (fun hstart => ?_) (fun hk => (hback hk).elim) hlive
      exact h.noRenewal i ⟨u, hu, hstart, by simp [hpending]⟩ t ht₀
  | environment device loopTime raises =>
    obtain ⟨-, rfl⟩ := step_environment.mp hstep
    exact fun i hi => h.busy t ht i hi

theorem alternating_start {device : δ} {loopTime : ℚ}
    (h : step M (init device loopTime) .start = some S) : Alternating M S := by
  have hfirst : Action.Orderly (System.init device loopTime : System I δ) .start :=
    fun u hu => absurd hu List.not_mem_nil
  refine ⟨startedFirst_step (startedFirst_init device loopTime) hfirst h, fun t ht => ?_⟩
  obtain rfl := Option.some.inj h
  obtain ⟨u, hu, -⟩ := Pool.unfinished_of_start (by decide) ht
  simp [System.init] at hu

/-! ### When the next renewal task starts -/

/-- A timer that fires does not fire early. -/
def NotEarly (S : System I δ) : Action I δ → Prop
  | .fire i => ∀ time, DueAt S.shared i time → time ≤ S.shared.held.loopTime
  | .start | .pause | .resume | .stop | .shutdown | .answer _ _ _ | .environment _ _ _ => True

/-- No renewal task starts before `b`: it is past `b` already, or only a timer set to `b` or later
can start one. -/
def StartsAfter (b : ℚ) (S : System I δ) : Prop :=
  b ≤ S.shared.held.loopTime ∨
    (∀ t, ¬S.Unfinished .start t) ∧ (∀ t, ¬S.Unfinished .background t) ∧
      ∀ i time, DueAt S.shared i time → b ≤ time

/-- **The clock** never goes back. -/
theorem loopTime_le_step (hM : Unhurried M) (h : Recorded M history S) {a : Action I δ}
    (hstep : step M S a = some S') : S.shared.held.loopTime ≤ S'.shared.held.loopTime := by
  cases a with
  | start =>
    obtain rfl := Option.some.inj hstep
    exact (loopTime_of_keeps (keeps_first hM .start S.shared)).ge
  | pause =>
    obtain rfl := Option.some.inj hstep
    exact (Standstill.cancelRenewals S.shared).loopTime.ge
  | resume =>
    obtain rfl := Option.some.inj hstep
    exact (congrArg Held.loopTime (scheduleSubscriptionRenew_held S.shared _)).ge
  | stop =>
    obtain rfl := Option.some.inj hstep
    exact (loopTime_of_keeps (keeps_first hM .stop S.shared)).ge
  | shutdown =>
    obtain rfl := Option.some.inj hstep
    exact (loopTime_of_keeps (keeps_first hM .shutdown S.shared)).ge
  | fire i =>
    obtain ⟨-, rfl⟩ := step_fire.mp hstep
    rw [System.runRestartOrRenew]
    split
    · exact le_refl S.shared.held.loopTime
    · exact (loopTime_of_keeps (keeps_first hM .background (fireTimer i S.shared))).ge
  | answer i c r =>
    obtain ⟨u, u', -, -, -, -, hkeeps⟩ := keeps_answer hM h hstep
    exact (loopTime_of_keeps hkeeps).ge
  | environment device loopTime raises =>
    obtain ⟨htime, rfl⟩ := step_environment.mp hstep
    exact htime

omit [DecidableEq I.Call] in
/-- A change at a standstill that leaves no new task in progress. -/
theorem StartsAfter.standstill {b : ℚ} (h : StartsAfter b S)
    (hstandstill : Standstill S.shared S'.shared)
    (hstart : ∀ t, S'.Unfinished .start t → S.Unfinished .start t)
    (hback : ∀ t, S'.Unfinished .background t → S.Unfinished .background t) :
    StartsAfter b S' := by
  rcases h with hpast | ⟨hnoStart, hnoBack, htimers⟩
  · exact Or.inl (hpast.trans hstandstill.loopTime.ge)
  · exact Or.inr ⟨fun t ht => hnoStart t (hstart t ht), fun t ht => hnoBack t (hback t ht),
      fun i time hdue => htimers i time (hstandstill.timers i time hdue)⟩

/-- **One step** of a manager left alone starts no renewal task too early. -/
theorem startsAfter_step {b : ℚ} (hM : Unhurried M) (hrecorded : Recorded M history S)
    (hinv : SystemInv M S) (h : StartsAfter b S) {a : Action I δ} (ha : ¬a.Arming)
    (hnotEarly : NotEarly S a) (hstep : step M S a = some S') : StartsAfter b S' := by
  rcases h with hpast | hwait
  · exact Or.inl (hpast.trans (loopTime_le_step hM hrecorded hstep))
  have hstandstill : ∀ {kind : Kind}, kind ≠ .start → kind ≠ .background →
      StartsAfter b (S.start kind (task M kind)) := fun hstart hback =>
    StartsAfter.standstill (Or.inr hwait) (standstill_of_keeps (keeps_first hM _ _) hstart hback)
      (fun t => Pool.unfinished_of_start hstart.symm) fun t => Pool.unfinished_of_start hback.symm
  cases a with
  | start => exact (ha trivial).elim
  | resume => exact (ha trivial).elim
  | pause =>
    obtain rfl := Option.some.inj hstep
    exact StartsAfter.standstill (Or.inr hwait) (.cancelRenewals _) (fun _ => id) fun _ => id
  | stop =>
    obtain rfl := Option.some.inj hstep
    exact hstandstill (by decide) (by decide)
  | shutdown =>
    obtain rfl := Option.some.inj hstep
    exact hstandstill (by decide) (by decide)
  | fire i =>
    refine Or.inl (le_trans ?_ (loopTime_le_step hM hrecorded hstep))
    obtain ⟨time, hdue⟩ := exists_dueAt (step_fire.mp hstep).1
    exact (hwait.2.2 i time hdue).trans (hnotEarly time hdue)
  | answer i c r =>
    obtain ⟨u, u', hu, hpending, -, -, hkeeps⟩ := keeps_answer hM hrecorded hstep
    have hunfinished : S.Unfinished u.kind i := ⟨u, hu, rfl, by simp [hpending]⟩
    have hdelivered : Standstill S.shared (deliverCancel i S.shared) := .of_fields rfl rfl
    have hsegment := standstill_of_keeps hkeeps (fun hk => hwait.1 i (hk ▸ hunfinished))
      fun hk => hwait.2.1 i (hk ▸ hunfinished)
    exact StartsAfter.standstill (Or.inr hwait) (hdelivered.trans hsegment)
      (fun _ => unfinished_of_answer hinv.sound hstep)
      fun _ => unfinished_of_answer hinv.sound hstep
  | environment device loopTime raises =>
    obtain ⟨-, rfl⟩ := step_environment.mp hstep
    exact Or.inr hwait

/-- **Every run** of a manager left alone starts no renewal task too early. -/
theorem startsAfter_run {b : ℚ} (hM : Unhurried M) (hrecorded : Recorded M history S)
    (hinv : SystemInv M S) (h : StartsAfter b S) {actions : List (Action I δ)}
    (hactions : ∀ a ∈ actions, ¬a.Arming)
    (hnotEarly : Runs.Along (step M) (fun S a _ => NotEarly S a) S actions)
    (hrun : run M S actions = some S') : StartsAfter b S' := by
  induction actions generalizing S history with
  | nil =>
    obtain rfl : S = S' := Option.some.inj hrun
    exact h
  | cons a actions ih =>
    obtain ⟨S₁, h₁, hrun⟩ := Runs.run_cons.mp hrun
    obtain ⟨hfirst, hnotEarly⟩ := hnotEarly S₁ h₁
    exact ih (recorded_step hrecorded h₁) (systemInv_step hinv h₁)
      (startsAfter_step hM hrecorded hinv h (hactions a List.mem_cons_self) hfirst h₁)
      (fun a' ha' => hactions a' (List.mem_cons_of_mem a ha')) hnotEarly hrun

/-- **A renewal task that ends** leaves no other, and only the timer it armed. -/
theorem startsAfter_of_finished {b : ℚ} (h : Alternating M S) {t : TaskId}
    {c : (managerInterface I).Call} {r : Except Exc ((managerInterface I).Answer c)}
    (hstep : step M S (.answer t c r) = some S') (hback : S.Unfinished .background t)
    (hfinished : ¬S'.Unfinished .background t)
    (hsegment : StandstillUntil b (deliverCancel t S.shared) S'.shared) : StartsAfter b S' := by
  refine Or.inr ⟨fun i hi => ?_, fun i hi => ?_, fun i time hdue => ?_⟩
  · exact h.noRenewal i (unfinished_of_answer h.inv.sound hstep hi) t hback
  · have hi₀ := unfinished_of_answer h.inv.sound hstep hi
    obtain rfl : i = t :=
      Option.some.inj ((h.inv.recorded i hi₀).symm.trans (h.inv.recorded t hback))
    exact hfinished hi
  · rcases hsegment.timers i time hdue with hdue | hle
    · exact (h.busy t hback i (DueAt.isLive hdue)).elim
    · exact hle

/-! ### What a renewal task found -/

/-- `renewal_call_at` as the renewal task with these wakeups left it: the time its Renew or its
restart returned, `none` if it ended without either. -/
def renewalCallAt (M : ManagerClass δ I) : List (ManagerWakeup I δ) → Option ℚ
  | ⟨.begin, .ok _, m⟩ :: ws =>
    if m.renewalOver M then none
    else
      match (renewOrRestartBody M).replay m ws with
      | some (_, .done (.ok renewalCallAt)) => renewalCallAt
      | _ => none
  | _ => none

/-- **A successful renewal task** arms the timer 48 seconds ahead at least. -/
theorem standstillUntil_of_renewalCallAt (hM : Unhurried M) {ws : List (ManagerWakeup I δ)} {time : ℚ}
    (hfound : renewalCallAt M ws = some time) {m₀ : BaseManager δ}
    {p : BaseManager δ × Status (managerInterface I) Exc (BaseManager δ) Unit}
    (hreplay : (task M .background).replay m₀ ws = some p)
    (hzero : 0 ≤ (lastState m₀ ws).held.loopTime) :
    StandstillUntil ((lastState m₀ ws).held.loopTime + 48) (lastState m₀ ws) p.1 := by
  unfold renewalCallAt at hfound
  split at hfound
  · rename_i a m ws
    split at hfound
    · cases hfound
    · rename_i hover
      split at hfound
      · rename_i m' o hbody
        obtain rfl : o = some time := hfound
        have hrest : (task M .background).replay m₀ (⟨.begin, .ok a, m⟩ :: ws)
            = (renewOrRestartSubscription M).replay m ws := rfl
        have hfinally : (renewOrRestartSubscription M).replay m ws = some
            (rearm M (some time) m', .done (.ok ())) := by
          rw [replay, renewOrRestartSubscription, run_bind]
          show Runs.run _ (Coro.run (if _ then _ else _) m) ws = _
          rw [if_neg (show ¬(m.shutdown || m.sessionClosed M) = true from hover)]
          exact replay_bind (replay_tryFinally hbody)
        obtain ⟨hstandstill, htime⟩ :=
          keeps_replay_segments (yields_renewOrRestartBody hM m m (.refl m)) hbody
        have hahead : (lastState m ws).held.loopTime + 48 ≤ time := htime _ rfl time rfl
        rw [hrest, hfinally] at hreplay
        rw [← Option.some.inj hreplay]
        refine standstillUntil_rearm hstandstill ?_
        rw [hstandstill.loopTime, nextCallAt_some hahead hzero]
        exact hahead
      · cases hfound
  · cases hfound

theorem alternating_run (hM : Unhurried M) (hrecorded : Recorded M history S) (h : Alternating M S)
    {actions : List (Action I δ)} (hactions : ∀ a ∈ actions, ¬a.Arming)
    (hrun : run M S actions = some S') :
    Alternating M S' ∧ S.shared.held.loopTime ≤ S'.shared.held.loopTime := by
  induction actions generalizing S history with
  | nil =>
    obtain rfl : S = S' := Option.some.inj hrun
    exact ⟨h, le_refl _⟩
  | cons a actions ih =>
    obtain ⟨S₁, h₁, hrun⟩ := Runs.run_cons.mp hrun
    obtain ⟨hlast, hle⟩ := ih (recorded_step hrecorded h₁)
      (alternating_step h (hactions a List.mem_cons_self) h₁)
      (fun a' ha' => hactions a' (List.mem_cons_of_mem a ha')) hrun
    exact ⟨hlast, (loopTime_le_step hM hrecorded h₁).trans hle⟩

/-- A renewal task that ends was replayed to its end. -/
theorem replay_of_finished (hrecorded : Recorded M history S) {t : TaskId}
    {c : (managerInterface I).Call} {r : Except Exc ((managerInterface I).Answer c)}
    (hstep : step M S (.answer t c r) = some S') (hback : S.Unfinished .background t)
    (hfinished : ¬S'.Unfinished .background t) :
    ∃ m res, (task M .background).replay m (history t ++ [⟨c, r, deliverCancel t S.shared⟩])
      = some (S'.shared, .done res) := by
  obtain ⟨u, u', m, hu, -, hkind, htasks, hreplay⟩ := hrecorded.answer hstep
  obtain ⟨v, hv, hk, -⟩ := hback
  obtain rfl : u = v := Option.some.inj (hu.symm.trans hv)
  rw [hk] at hreplay hkind
  have hu' : S'.tasks[t]? = some u' := by
    rw [htasks, List.getElem?_set_self (List.getElem?_eq_some_iff.mp hu).1]
  cases hstatus : u'.status with
  | done res =>
    rw [hstatus] at hreplay
    exact ⟨m, res, hreplay⟩
  | waiting c' k =>
    refine (hfinished ⟨u', hu', hkind, ?_⟩).elim
    rw [Task.pending, Task.stop, hstatus]
    rfl

/-- The timer of a manager left alone fires `d` seconds after a renewal task ended, if the task
armed none to fire earlier. -/
theorem fires_after {d : ℚ} (hM : Unhurried M) (hrecorded : Recorded M history S)
    (h : Alternating M S) {t : TaskId} {c : (managerInterface I).Call}
    {r : Except Exc ((managerInterface I).Answer c)} (hstep : step M S (.answer t c r) = some S')
    (hback : S.Unfinished .background t) (hfinished : ¬S'.Unfinished .background t)
    (hsegment : StandstillUntil (S.shared.held.loopTime + d) (deliverCancel t S.shared) S'.shared)
    {between : List (Action I δ)} {U U' : System I δ} {i : ℕ}
    (hrun : run M S' between = some U) (hfire : step M U (.fire i) = some U')
    (halone : ∀ a ∈ between, ¬a.Arming)
    (hnotEarly : Runs.Along (step M) (fun S a _ => NotEarly S a) S' (between ++ [.fire i])) :
    S'.shared.held.loopTime + d ≤ U.shared.held.loopTime := by
  have hafter := startsAfter_of_finished h hstep hback hfinished hsegment
  rw [hsegment.loopTime]
  rcases startsAfter_run hM (recorded_step hrecorded hstep) (systemInv_step h.inv hstep) hafter
    halone hnotEarly.of_append hrun with hpast | ⟨-, -, htimers⟩
  · exact hpast
  · obtain ⟨time, hdue⟩ := exists_dueAt (step_fire.mp hfire).1
    exact (htimers i time hdue).trans (hnotEarly.at_end hrun hfire time hdue)

end Runs

/-- **No renewal storm**: after `start()`, and without another `start()` or a `resume()`, a
renewal task starts 40 seconds or more after every one that ended before it, and 48 seconds or
more if that one ended with a successful Renew or restart.

The 48 seconds need a clock that counts up from zero: `renewal_call_at or ...` takes a time of
zero for none. -/
theorem no_renewal_storm (C : CameraConfig) (interval : TimeDelta) (k : ManagerKind)
    (camera : ONVIFCamera) (loopTime : ℚ) (before : List (Action cameraInterface ONVIFCamera))
    (S S' : System cameraInterface ONVIFCamera) (t : TaskId)
    (c : (managerInterface cameraInterface).Call)
    (r : Except Exc ((managerInterface cameraInterface).Answer c))
    (between : List (Action cameraInterface ONVIFCamera))
    (U U' : System cameraInterface ONVIFCamera) (i : ℕ)
    (hbefore : run (manager C interval k) (System.init camera loopTime) (.start :: before) = some S)
    -- renewal task `t` ends
    (hback : S.Unfinished .background t)
    (hfinish : step (manager C interval k) S (.answer t c r) = some S')
    (hfinished : ¬S'.Unfinished .background t)
    -- and some time later a timer starts the next one
    (hbetween : run (manager C interval k) S' between = some U)
    (hfire : step (manager C interval k) U (.fire i) = some U')
    (halone : ∀ a ∈ before ++ between, ¬a.Arming)
    (hnotEarly : Runs.Along (step (manager C interval k)) (fun S a _ => NotEarly S a) S'
      (between ++ [.fire i])) :
    S'.shared.held.loopTime + 40 ≤ U.shared.held.loopTime ∧
      (0 ≤ loopTime →
        (renewalCallAt (manager C interval k) (wakeups (manager C interval k) t
          (System.init camera loopTime) (.start :: before ++ [.answer t c r]))).isSome →
        S'.shared.held.loopTime + 48 ≤ U.shared.held.loopTime) := by
  have hM := unhurried_manager C interval k
  obtain ⟨S₀, h₀, hrest⟩ := Runs.run_cons.mp hbefore
  have hrecorded := recorded_run (recorded_init camera loopTime) hbefore
  obtain ⟨halternating, hclock⟩ := alternating_run hM (recorded_step (recorded_init _ _) h₀)
    (alternating_start h₀) (fun a ha => halone a (List.mem_append_left _ ha)) hrest
  have hbetween' : ∀ a ∈ between, ¬a.Arming := fun a ha => halone a (List.mem_append_right _ ha)
  obtain ⟨m, res, hreplay⟩ := replay_of_finished hrecorded hfinish hback hfinished
  constructor
  · have hkeeps := keeps_replay_segments (wp_background hM m) hreplay
    rw [lastState_snoc] at hkeeps
    exact fires_after hM hrecorded halternating hfinish hback hfinished hkeeps hbetween hfire
      hbetween' hnotEarly
  · intro hzero hsuccess
    obtain ⟨time, hfound⟩ := Option.isSome_iff_exists.mp hsuccess
    have hwakeups : wakeups (manager C interval k) t (System.init camera loopTime)
        (.start :: before ++ [.answer t c r])
        = [] ++ wakeups (manager C interval k) t (System.init camera loopTime) (.start :: before)
          ++ [⟨c, r, deliverCancel t S.shared⟩] := by
      rw [List.nil_append, wakeups, Runs.collect_append hbefore, Runs.collect_cons hfinish, wakeup,
        if_pos rfl]
      rfl
    rw [hwakeups] at hfound
    have hstarted : S₀.shared.held.loopTime = loopTime := by
      obtain rfl := Option.some.inj h₀
      exact loopTime_of_keeps (keeps_first hM .start (BaseManager.init camera loopTime))
    have hlong := standstillUntil_of_renewalCallAt hM hfound hreplay
    rw [lastState_snoc] at hlong
    refine fires_after hM hrecorded halternating hfinish hback hfinished (hlong ?_) hbetween hfire
      hbetween' hnotEarly
    exact hzero.trans (hstarted ▸ hclock)

/-! ### A manager on the local network -/

def localPullPointManager : ManagerClass ONVIFCamera cameraInterface :=
  manager ONVIFCamera.localConfig (TimeDelta.ofSeconds 60) .pullPoint

/-- The subscription granted again at the address it has. -/
def grantedAgain : SubscribeReply where
  address := some FailedRestart.subscriptionService.xaddr
  times := { currentTime := none, terminationTime := none }

/-- `start()` returns, its timer fires on time, and the renewal task sends Renew. -/
def renewing : List (Action cameraInterface ONVIFCamera) :=
  [.answer 0 (.start (.createPullPointSubscription 0 "PT60S")) (.ok grantedAgain),
    .answer 0 (.start (.setup 2)) (.ok ()),
    .environment FailedRestart.subscribedCamera 48 none,
    .fire 0,
    .answer 1 .begin (.ok ())]

/-- Renew is answered without times. -/
def renewed : Action cameraInterface ONVIFCamera :=
  .answer 1 (.renew 1 "PT60S") (.ok ⟨none, none⟩)

def later : Action cameraInterface ONVIFCamera :=
  .environment FailedRestart.subscribedCamera 96 none

/-- The next renewal task starts 48 seconds after the Renew. -/
theorem no_renewal_storm_renewed :
    ∃ S S' U, run localPullPointManager (System.init FailedRestart.subscribedCamera 0) (.start :: renewing)
        = some S ∧
      step localPullPointManager S renewed = some S' ∧ run localPullPointManager S' [later] = some U ∧
      S'.shared.held.loopTime + 48 ≤ U.shared.held.loopTime := by
  have hall : (run localPullPointManager (System.init FailedRestart.subscribedCamera 0)
      (.start :: renewing ++ [renewed, later, .fire 1])).isSome := by decide +kernel
  obtain ⟨T, hall⟩ := Option.isSome_iff_exists.mp hall
  obtain ⟨S, hbefore, hrest⟩ := Runs.run_append.mp hall
  obtain ⟨S', hfinish, hrest⟩ := Runs.run_cons.mp hrest
  obtain ⟨U, hlater, hrest⟩ := Runs.run_cons.mp hrest
  obtain ⟨U', hfire, -⟩ := Runs.run_cons.mp hrest
  replace hbefore : run localPullPointManager (System.init FailedRestart.subscribedCamera 0)
      (.start :: renewing) = some S := hbefore
  have hbetween : run localPullPointManager S' [later] = some U := Runs.run_cons.mpr ⟨U, hlater, rfl⟩
  have hrenewed : run localPullPointManager (System.init FailedRestart.subscribedCamera 0)
      (.start :: renewing ++ [renewed]) = some S' :=
    Runs.run_append.mpr ⟨S, hbefore, Runs.run_cons.mpr ⟨S', hfinish, rfl⟩⟩
  have hwaited : run localPullPointManager (System.init FailedRestart.subscribedCamera 0)
      (.start :: renewing ++ [renewed, later]) = some U :=
    Runs.run_append.mpr ⟨S, hbefore, Runs.run_cons.mpr ⟨S', hfinish, hbetween⟩⟩
  have hback : (run localPullPointManager (System.init FailedRestart.subscribedCamera 0)
      (.start :: renewing)).map (fun S => S.unfinished .background) = some [1] := by decide +kernel
  have hfinished : (run localPullPointManager (System.init FailedRestart.subscribedCamera 0)
      (.start :: renewing ++ [renewed])).map (fun S => S.unfinished .background) = some [] := by
    decide +kernel
  have htimers : (run localPullPointManager (System.init FailedRestart.subscribedCamera 0)
      (.start :: renewing ++ [renewed, later])).map
        (fun S => (S.shared.timers.map (·.time), S.shared.held.loopTime)) = some ([48, 96], 96) := by
    decide +kernel
  rw [hbefore] at hback
  rw [hrenewed] at hfinished
  rw [hwaited] at htimers
  obtain ⟨htimes, hclock⟩ := Prod.mk.inj (Option.some.inj htimers)
  refine ⟨S, S', U, hbefore, hfinish, hbetween,
    (no_renewal_storm ONVIFCamera.localConfig (TimeDelta.ofSeconds 60) .pullPoint
      FailedRestart.subscribedCamera 0 renewing S S' 1 _ _ [later] U U' 1 hbefore ?_ hfinish ?_
      hbetween hfire ?_ ?_).2 (le_refl 0) (by decide +kernel)⟩
  · have hunfinished : S.unfinished .background = [1] := Option.some.inj hback
    refine Pool.mem_unfinished.mp ?_
    rw [hunfinished]
    exact List.mem_singleton_self 1
  · exact Pool.unfinished_eq_nil.mp (Option.some.inj hfinished) 1
  · simp [renewing, later, Action.Arming]
  · intro U₁ h₁
    obtain rfl := Option.some.inj (hlater.symm.trans h₁)
    refine ⟨trivial, fun U₂ _ => ⟨fun time hdue => ?_, trivial⟩⟩
    have hmem : time ∈ U.shared.timers.map (·.time) :=
      List.mem_map_of_mem (f := TimerHandle.time) (List.mem_of_getElem? hdue)
    rw [htimes] at hmem
    rw [hclock]
    rcases List.mem_pair.mp hmem with rfl | rfl
    · norm_num
    · norm_num

end RenewalStorm

end Onvif
