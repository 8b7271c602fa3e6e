/-
What one segment of a manager's task does to the renewal timer.

Between two suspensions a task of a manager either arms no timer (`Quiet`) or ends by arming
one (`Armed`).  `managerMoves` says which, for each kind of task and each place it can stop:

* `start()` arms the timer when it returns, and only then;
* `stop()` and `shutdown()` cancel the timer in their first segment and never arm one;
* the renewal task arms the timer when it ends, unless the manager is shut down, the session
  is closed, or the task was cancelled before its first step.

**`follows_start`**, **`follows_stop`**, **`follows_shutdownManager`** and
**`follows_background`** show that the coroutines of the source keep to it, for every
`_start()` and every answer to every call.
-/
import OnvifZeep.TaskPool
import OnvifZeep.BaseManager

namespace Onvif

open Coro

namespace BaseManager

variable {δ : Type} {I : Interface} {m m' m'' : BaseManager δ}

/-! ### Quiet and arming changes -/

/-- From `m` to `m'` no timer was armed and no flag of the manager changed. -/
structure Quiet (m m' : BaseManager δ) : Prop where
  timerInv : m.TimerInv → m'.TimerInv
  noLiveTimer : m.NoLiveTimer → m'.NoLiveTimer
  shutdown : m'.shutdown = m.shutdown
  restartOrRenewTask : m'.restartOrRenewTask = m.restartOrRenewTask
  cancelRequested : m'.cancelRequested = m.cancelRequested

/-- From `m` to `m'` everything was quiet but for a last step that armed the timer. -/
def Armed (m m' : BaseManager δ) : Prop :=
  ∃ n time, Quiet m n ∧ m' = n.scheduleSubscriptionRenew time

theorem Quiet.refl (m : BaseManager δ) : Quiet m m := ⟨id, id, rfl, rfl, rfl⟩

theorem Quiet.trans (h : Quiet m m') (h' : Quiet m' m'') : Quiet m m'' where
  timerInv hm := h'.timerInv (h.timerInv hm)
  noLiveTimer hm := h'.noLiveTimer (h.noLiveTimer hm)
  shutdown := h'.shutdown.trans h.shutdown
  restartOrRenewTask := h'.restartOrRenewTask.trans h.restartOrRenewTask
  cancelRequested := h'.cancelRequested.trans h.cancelRequested

/-- A change of fields that concern neither timers nor flags is quiet. -/
theorem Quiet.of_fields (htimers : m'.timers = m.timers)
    (hrecorded : m'.cancelSubscriptionRenew = m.cancelSubscriptionRenew)
    (hshutdown : m'.shutdown = m.shutdown)
    (htask : m'.restartOrRenewTask = m.restartOrRenewTask)
    (hcancel : m'.cancelRequested = m.cancelRequested) : Quiet m m' := by
  have hlive : ∀ h, m'.isLive h = m.isLive h := fun h => by rw [isLive, isLive, htimers]
  refine ⟨fun hm h hh => ?_, fun hm h hh => ?_, hshutdown, htask, hcancel⟩
  · rw [hrecorded]
    exact hm h (hlive h ▸ hh)
  · exact hm h (hlive h ▸ hh)

theorem cancelRenewals_fields (m : BaseManager δ) :
    m.cancelRenewals.held = m.held ∧ m.cancelRenewals.shutdown = m.shutdown ∧
      m.cancelRenewals.restartOrRenewTask = m.restartOrRenewTask ∧
      m.cancelRenewals.cancelRequested = m.cancelRequested := by
  rw [cancelRenewals]
  cases m.cancelSubscriptionRenew with
  | none => exact ⟨rfl, rfl, rfl, rfl⟩
  | some h => exact ⟨rfl, rfl, rfl, rfl⟩

theorem Quiet.cancelRenewals (m : BaseManager δ) : Quiet m m.cancelRenewals := by
  obtain ⟨-, hshutdown, htask, hcancel⟩ := cancelRenewals_fields m
  exact ⟨fun hm => hm.cancelRenewals.timerInv, fun hm => hm.cancelRenewals, hshutdown, htask,
    hcancel⟩

@[simp] theorem scheduleSubscriptionRenew_shutdown (m : BaseManager δ) (time : ℚ) :
    (m.scheduleSubscriptionRenew time).shutdown = m.shutdown := (cancelRenewals_fields m).2.1

@[simp] theorem scheduleSubscriptionRenew_restartOrRenewTask (m : BaseManager δ) (time : ℚ) :
    (m.scheduleSubscriptionRenew time).restartOrRenewTask = m.restartOrRenewTask :=
  (cancelRenewals_fields m).2.2.1

@[simp] theorem scheduleSubscriptionRenew_cancelRequested (m : BaseManager δ) (time : ℚ) :
    (m.scheduleSubscriptionRenew time).cancelRequested = m.cancelRequested :=
  (cancelRenewals_fields m).2.2.2

@[simp] theorem scheduleSubscriptionRenew_held (m : BaseManager δ) (time : ℚ) :
    (m.scheduleSubscriptionRenew time).held = m.held := (cancelRenewals_fields m).1

theorem Quiet.armed (h : Quiet m m') (time : ℚ) :
    Armed m (m'.scheduleSubscriptionRenew time) := ⟨m', time, h, rfl⟩

theorem Armed.timerInv (h : Armed m m') (hm : m.TimerInv) : m'.TimerInv := by
  obtain ⟨n, time, hn, rfl⟩ := h
  exact (hn.timerInv hm).scheduleSubscriptionRenew time

theorem Armed.exists_isLive (h : Armed m m') : ∃ t, m'.isLive t := by
  obtain ⟨n, time, -, rfl⟩ := h
  exact exists_isLive_scheduleSubscriptionRenew n time

theorem Armed.fields (h : Armed m m') :
    m'.shutdown = m.shutdown ∧ m'.restartOrRenewTask = m.restartOrRenewTask ∧
      m'.cancelRequested = m.cancelRequested := by
  obtain ⟨n, time, hn, rfl⟩ := h
  simp [hn.shutdown, hn.restartOrRenewTask, hn.cancelRequested]

/-! ### The outline -/

/-- What the tasks of a manager were created for; `background` is the renewal task. -/
inductive Kind where
  | background | start | stop | shutdown
deriving DecidableEq

abbrev ManagerStop (I : Interface) : Type := Stop (managerInterface I) Exc

abbrev ManagerResumption (I : Interface) : Type := Resumption (managerInterface I) Exc

/-- The renewal task does nothing more at its end. -/
def renewalOver (M : ManagerClass δ I) (m : BaseManager δ) : Bool :=
  m.shutdown || m.sessionClosed M

/-- What a segment of a task may do, by the kind of the task and the place it stops. -/
def managerMoves (M : ManagerClass δ I) :
    Kind → Option (ManagerResumption I) → BaseManager δ → ManagerStop I → BaseManager δ → Prop
  | .start, _, m, .waiting _, m' => Quiet m m'
  | .start, _, m, .finished (.ok _), m' => Armed m m'
  | .start, _, m, .finished (.error _), m' => Quiet m m'
  | .background, _, m, .waiting _, m' => Quiet m m'
  | .background, o, m, .finished _, m' =>
    Quiet m m' ∧ ((∃ e, o = some ⟨.begin, .error e⟩) ∨ m'.renewalOver M) ∨
      Armed m m' ∧ m'.renewalOver M = false
  | .stop, none, m, _, m' => Quiet m m' ∧ (m.TimerInv → m'.NoLiveTimer)
  | .stop, some _, m, _, m' => Quiet m m'
  | .shutdown, none, m, _, m' => Quiet m.requestShutdown m' ∧ (m.TimerInv → m'.NoLiveTimer)
  | .shutdown, some _, m, _, m' => Quiet m m'

/-- What no segment changes: the invariant of the timers, which renewal task is recorded, and
a shutdown. -/
structure Keeps (m m' : BaseManager δ) : Prop where
  timerInv : m.TimerInv → m'.TimerInv
  restartOrRenewTask : m'.restartOrRenewTask = m.restartOrRenewTask
  shutdown : m.shutdown → m'.shutdown

theorem Quiet.keeps (h : Quiet m m') : Keeps m m' :=
  ⟨h.timerInv, h.restartOrRenewTask, fun hm => h.shutdown.trans hm⟩

theorem Armed.keeps (h : Armed m m') : Keeps m m' :=
  ⟨h.timerInv, h.fields.2.1, fun hm => h.fields.1.trans hm⟩

theorem managerMoves_keeps {M : ManagerClass δ I} {kind : Kind}
    {o : Option (ManagerResumption I)} {st : ManagerStop I} (h : managerMoves M kind o m st m') :
    Keeps m m' := by
  cases kind with
  | start =>
    rcases st with (e | a) | c
    · exact Quiet.keeps h
    · exact Armed.keeps h
    · exact Quiet.keeps h
  | background =>
    rcases st with r | c
    · rcases h with ⟨hq, -⟩ | ⟨ha, -⟩
      · exact hq.keeps
      · exact ha.keeps
    · exact Quiet.keeps h
  | stop =>
    rcases o with _ | o
    · exact Quiet.keeps h.1
    · exact Quiet.keeps h
  | shutdown =>
    rcases o with _ | o
    · exact ⟨fun hm => h.1.timerInv fun t ht => hm t ht, h.1.restartOrRenewTask,
        fun _ => h.1.shutdown⟩
    · exact Quiet.keeps h

/-- The calls a task of each kind can wait for. -/
def managerCalls : Kind → ManagerCall I.Call → Prop
  | .start, c => ∃ c', c = .start c'
  | .background, _ => True
  | .stop, c => ∃ sid, c = .unsubscribe sid
  | .shutdown, c => ∃ sid, c = .unsubscribe sid

/-- The state may change in any way between two segments, and any answer is possible. -/
def managerOutline (M : ManagerClass δ I) :
    Outline Kind (managerInterface I) Exc (BaseManager δ) where
  holds kind c _ := managerCalls kind c
  rely _ _ := True
  rely_refl _ := trivial
  rely_trans _ _ := trivial
  answers _ _ _ := True
  moves := managerMoves M
  returns _ _ := True

theorem keeps_of_follows {M : ManagerClass δ I} {kind : Kind} {x : ManagerCoro I δ Unit}
    {o : Option (ManagerResumption I)} (h : (managerOutline M).Follows kind x o m) :
    Keeps m (x.run m).1 := managerMoves_keeps h.segment.1

/-- Since the segment began, everything was quiet. -/
def Calm (g : Option (ManagerResumption I) × BaseManager δ) (m : BaseManager δ) : Prop :=
  Quiet g.2 m

variable {M : ManagerClass δ I}

/-- After any answer a new segment begins. -/
theorem calm_of_resume {kind : Kind} {g g' : Option (ManagerResumption I) × BaseManager δ}
    {c : (managerInterface I).Call} {r : Except Exc ((managerInterface I).Answer c)}
    (h : ((managerOutline M).contract kind).resume g c m r g' m') : Calm g' m' := by
  obtain ⟨-, -, -, rfl⟩ := h
  exact Quiet.refl m'

/-- `_start()` arms no timer, whatever it does: it works on other fields. -/
theorem preserves_innerStart {kind : Kind} (hcalls : ∀ c : I.Call, managerCalls kind (.start c))
    (hmoves : ∀ g c m, Calm g m → managerMoves M kind g.1 g.2 (.waiting (.start c)) m) :
    Preserves ((managerOutline M).contract kind) Calm (innerStart M) := by
  intro g m h
  refine wp_zoom_frame Calm (fun g t s ht => ?_) (fun g c t ht => ?_)
    (fun _ _ _ _ _ _ _ hr => calm_of_resume hr) (fun _ _ _ ht => ht) M.start h
  · exact ht.trans (.of_fields rfl rfl rfl rfl rfl)
  · exact ⟨hmoves g c t ht, hcalls c⟩

/-! ### `start()`, `stop()` and `shutdown()` -/

/-- **`start()`** arms the timer exactly when it returns. -/
theorem follows_start (m : BaseManager δ) :
    (managerOutline M).Follows .start (start M >>= fun _ => pure ()) none m := by
  have hpreserves : Preserves ((managerOutline M).contract .start) Calm (innerStart M) :=
    preserves_innerStart (fun c => ⟨c, rfl⟩) fun g c m h => h
  have hstart := hpreserves (none, m) m (Quiet.refl m)
  rw [Outline.Follows, start]
  simp only [wp_bind]
  refine wp_mono (fun r g m' hr => ?_) hstart
  cases r with
  | ok time => exact ⟨hr.armed time, trivial⟩
  | error e => exact ⟨hr, trivial⟩

/-- The body of `stop()`: its first segment cancels the timer, its second does nothing. -/
theorem follows_stop_body {kind : Kind} {m₀ m : BaseManager δ}
    (hcalls : ∀ sid, managerCalls (I := I) kind (.unsubscribe sid))
    (hfirst : ∀ st, managerMoves M kind none m₀ st m.cancelRenewals)
    (hsecond : ∀ o m' r, managerMoves M kind (some o) m' (.finished r) m') :
    wp ((managerOutline M).contract kind) ((managerOutline M).post kind) stop (none, m₀) m := by
  rw [stop, wp_bind, wp_modifyState, ends_ok, wp_bind, wp_getState, ends_ok]
  cases m.cancelRenewals.held.subscription with
  | none => exact ⟨hfirst _, trivial⟩
  | some sid =>
    dsimp only
    rw [wp_tryExcept]
    refine (wp_call _).mpr ⟨⟨hfirst _, hcalls sid⟩, ?_⟩
    rintro r _ m' ⟨-, -, -, rfl⟩
    cases r with
    | ok a => exact ⟨hsecond _ _ _, trivial⟩
    | error e =>
      rw [ends_error]
      by_cases he : e.oneOf subscriptionErrors
      · rw [if_pos he, wp_bind, wp_ofExcept]
        cases stringifyOnvifError e with
        | ok s => exact ⟨hsecond _ _ _, trivial⟩
        | error e' => exact ⟨hsecond _ _ _, trivial⟩
      · rw [if_neg he]
        exact ⟨hsecond _ _ _, trivial⟩

/-- **`stop()`** cancels the timer at once. -/
theorem follows_stop (m : BaseManager δ) : (managerOutline M).Follows .stop stop none m :=
  follows_stop_body (fun sid => ⟨sid, rfl⟩)
    (fun _ => ⟨Quiet.cancelRenewals m, fun hm => hm.cancelRenewals⟩)
    fun _ m' _ => Quiet.refl m'

/-- **`shutdown()`** sets the flag and cancels the timer at once. -/
theorem follows_shutdownManager (m : BaseManager δ) :
    (managerOutline M).Follows .shutdown shutdownManager none m := by
  rw [Outline.Follows, shutdownManager, wp_bind, wp_modifyState, ends_ok]
  refine follows_stop_body (fun sid => ⟨sid, rfl⟩) (fun _ => ⟨Quiet.cancelRenewals _, ?_⟩)
    fun _ m' _ => Quiet.refl m'
  -- the flag and the cancellation of the task leave the timers as they were
  exact fun hm => TimerInv.cancelRenewals fun h hh => hm h hh

/-! ### The renewal task -/

theorem preserves_call {c : (managerInterface I).Call} :
    Preserves ((managerOutline M).contract .background) Calm
      (call (I := managerInterface I) (ε := Exc) c) :=
  .call (fun _ _ h => ⟨h, trivial⟩) fun _ _ _ _ _ _ hr => calm_of_resume hr

section Renewing

variable {γ : Type} {K : Contract (managerInterface I) Exc (BaseManager δ) γ}
  {P : γ → BaseManager δ → Prop}

theorem preserves_stop
    (hcall : ∀ c, Preserves K P (call (I := managerInterface I) (ε := Exc) c))
    (hcancel : ∀ g m, P g m → P g m.cancelRenewals) :
    Preserves K P (stop : ManagerCoro I δ Unit) := by
  refine .bind (.modifyState hcancel) fun _ => .bind .getState fun m => ?_
  cases m.held.subscription with
  | none => exact .raise _
  | some sid =>
    refine .tryExcept (hcall _) fun e => ?_
    by_cases he : e.oneOf subscriptionErrors = true
    · rw [if_pos he]
      exact .bind (.ofExcept _) fun _ => .pure ()
    · rw [if_neg he]
      exact .raise e

/-- Renewing preserves what its calls, which are none of `_start()`, and the report of a loss
preserve. -/
theorem preserves_callSubscriptionRenewOnce
    (hcall : ∀ c : (managerInterface I).Call, (∀ c', c ≠ .start c') →
      Preserves K P (call (I := managerInterface I) (ε := Exc) c)) :
    Preserves K P (callSubscriptionRenewOnce M) := by
  refine .bind .getState fun m => ?_
  cases m.held.subscription with
  | none => exact .raise _
  | some sid =>
    exact .bind (.ofExcept _) fun time => .bind (hcall _ fun _ h => nomatch h) fun _ =>
      .bind .getState fun _ => .ofExcept _

theorem preserves_renewSubscription
    (hcall : ∀ c : (managerInterface I).Call, (∀ c', c ≠ .start c') →
      Preserves K P (call (I := managerInterface I) (ε := Exc) c))
    (hlost : ∀ g m, P g m → P g { m with milestones := m.milestones ++ [.subscriptionLost] }) :
    Preserves K P (renewSubscription M) := by
  refine .bind .getState fun m => ?_
  by_cases hm : (m.closed M || m.shutdown) = true
  · rw [if_pos hm]
    exact .pure none
  · rw [if_neg hm]
    refine .tryExcept ?_ fun e => ?_
    · exact preserves_retryConnectionError (preserves_callSubscriptionRenewOnce hcall)
        (hcall _ fun _ h => nomatch h)
    · by_cases he : e.oneOf renewErrors = true
      · rw [if_pos he]
        refine .bind ?_ fun _ => .bind (.ofExcept _) fun _ => .pure none
        refine .bind (.modifyState hlost) fun _ => .bind .getState fun m => ?_
        cases m.callbackRaises with
        | none => exact .pure ()
        | some e => exact .raise e
      · rw [if_neg he]
        exact .raise e

end Renewing

theorem preserves_restartSubscription :
    Preserves ((managerOutline M).contract .background) Calm (restartSubscription M) := by
  refine .bind (.modifyState fun g m h => ?_) fun _ =>
    preserves_innerStart (fun _ => trivial) fun g c m h => h
  exact (h.trans (Quiet.cancelRenewals m)).trans (.of_fields rfl rfl rfl rfl rfl)

theorem preserves_renewOrRestartBody :
    Preserves ((managerOutline M).contract .background) Calm (renewOrRestartBody M) := by
  have hrenew : Preserves ((managerOutline M).contract .background) Calm (renewSubscription M) :=
    preserves_renewSubscription (fun _ _ => preserves_call) fun _ _ h =>
      h.trans (.of_fields rfl rfl rfl rfl rfl)
  refine .bind hrenew fun t => ?_
  cases t with
  | some t => exact .pure (some t)
  | none =>
    refine .tryExcept (.bind preserves_restartSubscription fun t => .pure (some t)) fun e => ?_
    by_cases he : e.oneOf renewErrors = true
    · rw [if_pos he]
      exact .bind (.ofExcept _) fun _ => .pure none
    · rw [if_neg he]
      exact .raise e

/-- The `finally` block arms the timer exactly when the renewal is not over. -/
theorem moves_rearm {o : Option (ManagerResumption I)} {r : Except Exc Unit} (t : Option ℚ)
    (h : Quiet m m') : managerMoves M .background o m (.finished r) (rearm M t m') := by
  have hguard : (!m'.shutdown && !m'.sessionClosed M) = !m'.renewalOver M :=
    (Bool.not_or _ _).symm
  rw [rearm, hguard]
  cases hm : m'.renewalOver M with
  | true => exact Or.inl ⟨h, Or.inr hm⟩
  | false =>
    refine Or.inr ⟨h.armed _, ?_⟩
    simpa [renewalOver, sessionClosed] using hm

/-- The renewal task: a turn of the event loop, then `_renew_or_restart_subscription()`. -/
def background (M : ManagerClass δ I) : ManagerCoro I δ Unit := do
  call (I := managerInterface I) .begin
  renewOrRestartSubscription M

/-- **The renewal task** arms the timer at its end unless the renewal is over by then. -/
theorem follows_background (m : BaseManager δ) :
    (managerOutline M).Follows .background (background M) none m := by
  rw [Outline.Follows, background, wp_bind]
  refine (wp_call _).mpr ⟨⟨Quiet.refl m, trivial⟩, ?_⟩
  rintro r _ m' ⟨-, -, -, rfl⟩
  cases r with
  | error e => exact ⟨Or.inl ⟨Quiet.refl m', Or.inl ⟨e, rfl⟩⟩, trivial⟩
  | ok a =>
    rw [ends_ok, renewOrRestartSubscription, wp_bind, wp_getState, ends_ok]
    by_cases hm : (m'.shutdown || m'.sessionClosed M) = true
    · rw [if_pos hm]
      exact ⟨Or.inl ⟨Quiet.refl m', Or.inr hm⟩, trivial⟩
    · rw [if_neg hm, wp_bind, wp_tryFinally]
      refine wp_mono (fun r g n hr => ?_) (preserves_renewOrRestartBody _ _ (Quiet.refl m'))
      rw [wp_modifyState, ends_ok]
      cases r with
      | ok t => exact ⟨moves_rearm (r := .ok ()) _ hr, trivial⟩
      | error e => exact ⟨moves_rearm (r := .error e) _ hr, trivial⟩

end BaseManager

end Onvif
