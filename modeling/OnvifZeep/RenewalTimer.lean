/-
The renewal timer over whole runs of a manager.

For every manager, every `_start()` and every interleaving:

* **`at_most_one_pending_renewal`** — at most one timer is live and at most one renewal task
  is unfinished;
* **`renewal_chain_never_lost`** — while the consumer does not interrupt it, a started manager
  always has a live timer or an unfinished renewal task;
* **`dormant_run`** — a manager without a live timer and without a task that could arm one
  stays so until the next `start()` or `resume()`.

The last gives what pausing, stopping and shutting down achieve
(`paused_until_resumed`, `shutdown_is_final`), and under which conditions: a renewal task in
flight re-arms the timer a pause cancelled, and neither `resume()` nor `start()` looks at the
shutdown.
-/
import OnvifZeep.ManagerLoop

namespace Onvif

open Coro BaseManager

namespace System

variable {δ : Type} {I : Interface} [DecidableEq I.Call] {M : ManagerClass δ I}
  {S S' : System I δ}

/-! ### A manager without calls -/

def noCalls : Interface := ⟨Empty, fun _ => Unit⟩

instance : DecidableEq noCalls.Call := inferInstanceAs (DecidableEq Empty)

/-- A manager whose `_start()` makes no call, on a device that only knows whether the session
is closed. -/
def localManager : ManagerClass Bool noCalls where
  interval := TimeDelta.ofSeconds 60
  sessionClosed closed _ := closed
  getNextTerminationTime _ _ := .ok "PT60S"
  start := do
    modifyState fun h => { h with subscription := some 0, service := some 1 }
    let h ← getState
    return h.loopTime + 48

/-! ### At most one pending renewal -/

/-- **At most one pending renewal**, in every run. -/
theorem at_most_one_pending_renewal (M : ManagerClass δ I) (device : δ) (loopTime : ℚ)
    (actions : List (Action I δ)) (S : System I δ)
    (h : run M (init device loopTime) actions = some S) :
    S.shared.liveTimers.length ≤ 1 ∧
      (∀ t, S.shared.isLive t → S.shared.cancelSubscriptionRenew = some t) ∧
      (S.unfinished .background).length ≤ 1 := by
  have hinv := systemInv_run (systemInv_init (M := M) device loopTime) h
  refine ⟨hinv.timerInv.length_liveTimers_le, hinv.timerInv, ?_⟩
  have hnodup : (S.unfinished .background).Nodup := List.nodup_range.filter _
  have hsub : S.unfinished .background ⊆ S.shared.restartOrRenewTask.toList := fun t ht => by
    rw [hinv.recorded t (Pool.mem_unfinished.mp ht)]
    exact List.mem_singleton_self t
  exact (List.subperm_of_subset hnodup hsub).length_le.trans Option.length_toList_le

/-- `resume()` while a renewal task is in flight, twice. -/
theorem at_most_one_pending_renewal_fired :
    ∃ S, run localManager (init false 0) [.start, .fire 0, .resume, .fire 1, .resume] = some S ∧
      S.shared.liveTimers.length ≤ 1 ∧
      (∀ t, S.shared.isLive t → S.shared.cancelSubscriptionRenew = some t) ∧
      (S.unfinished .background).length ≤ 1 :=
  ⟨_, rfl, at_most_one_pending_renewal localManager false 0
    [.start, .fire 0, .resume, .fire 1, .resume] _ rfl⟩

/-! ### The renewal chain -/

/-- Task `t` has returned. -/
def HasReturned (S : System I δ) (t : TaskId) : Prop :=
  ∃ u, S.tasks[t]? = some u ∧ u.stop = .finished (.ok ())

/-- The actions a manager is left alone with after `start()`; `resume()` is allowed. -/
def Action.LeavesRunning : Action I δ → Prop
  | .resume | .fire _ | .answer _ _ _ | .environment _ _ _ => True
  | .start | .pause | .stop | .shutdown => False

/-- A manager that was started once, by task 0, and not interrupted since. -/
structure StartedOnce (M : ManagerClass δ I) (S : System I δ) : Prop where
  inv : SystemInv M S
  running : S.shared.shutdown = false
  notCancelled : S.shared.cancelRequested = []
  kinds : ∀ t u, S.tasks[t]? = some u → u.kind = .background ∨ u.kind = .start ∧ t = 0

/-- There is a live timer or an unfinished renewal task. -/
def Renewing (S : System I δ) : Prop :=
  (∃ t, S.shared.isLive t) ∨ ∃ t, S.Unfinished .background t

omit [DecidableEq I.Call] in
/-- A change of the manager that keeps its flags and its invariant. -/
theorem StartedOnce.update (h : StartedOnce M S) {f : BaseManager δ → BaseManager δ}
    (hinv : SystemInv M (S.update f)) (hshutdown : (f S.shared).shutdown = S.shared.shutdown)
    (hcancel : (f S.shared).cancelRequested = S.shared.cancelRequested) :
    StartedOnce M (S.update f) :=
  ⟨hinv, hshutdown.trans h.running, hcancel.trans h.notCancelled, h.kinds⟩

omit [DecidableEq I.Call] in
/-- A firing timer leaves an unfinished renewal task: the one in progress or a new one. -/
theorem StartedOnce.runRestartOrRenew (h : StartedOnce M S) :
    StartedOnce M (runRestartOrRenew M S) ∧ (System.runRestartOrRenew M S).Renewing := by
  have hinv := h.inv.runRestartOrRenew
  rw [System.runRestartOrRenew] at hinv ⊢
  by_cases hdone : S.shared.restartOrRenewTask.any S.isUnfinished = true
  · rw [if_pos hdone]
    obtain ⟨t, ht, hun⟩ := (Option.any_eq_true _ _).mp hdone
    obtain ⟨u, hu, hk⟩ := h.inv.task t ht
    rw [isUnfinished, hu] at hun
    exact ⟨h, Or.inr ⟨t, u, hu, hk, hun⟩⟩
  · rw [if_neg hdone] at hinv ⊢
    refine ⟨⟨hinv, h.running, h.notCancelled, fun t u hu => ?_⟩, Or.inr ?_⟩
    · rcases Pool.getElem?_concat_eq_some.mp hu with hu | ⟨-, rfl⟩
      · exact h.kinds t u hu
      · exact Or.inl rfl
    · exact ⟨S.tasks.length, _, List.getElem?_concat_length, rfl, rfl⟩

/-- An answered call: `start()` arms the timer when it returns, a renewal task when it ends. -/
theorem StartedOnce.answer (h : StartedOnce M S) {t : TaskId} {c : (managerInterface I).Call}
    {r : Except Exc ((managerInterface I).Answer c)}
    (hstep : step M S (.answer t c r) = some S') (hopen : S'.shared.sessionClosed M = false) :
    StartedOnce M S' ∧ (S'.HasReturned 0 → S'.Renewing) := by
  obtain ⟨hmay, -, u, u', hu, hpending, htasks, hkind, hmoves⟩ := answer_spec h.inv.sound hstep
  have hinv := h.inv.answer hstep
  have hcancel : (deliverCancel t S.shared).cancelRequested = [] := by
    rw [deliverCancel, h.notCancelled]
    rfl
  have hkinds : ∀ i v, S'.tasks[i]? = some v → v.kind = .background ∨ v.kind = .start ∧ i = 0 := by
    intro i v hv
    rw [htasks] at hv
    obtain ⟨v', hv', hvk⟩ := Pool.getElem?_of_set hu hkind hv
    rw [hvk]
    exact h.kinds i v' hv'
  have hself : S'.tasks[t]? = some u' := by
    rw [htasks, List.getElem?_set_self (List.getElem?_eq_some_iff.mp hu).1]
  have hquiet : Quiet (deliverCancel t S.shared) S'.shared → StartedOnce M S' := fun hq =>
    ⟨hinv, hq.shutdown.trans h.running, hq.cancelRequested.trans hcancel, hkinds⟩
  have harmed : Armed (deliverCancel t S.shared) S'.shared → StartedOnce M S' ∧ S'.Renewing :=
    fun ha => ⟨⟨hinv, ha.fields.1.trans h.running, ha.fields.2.2.trans hcancel, hkinds⟩,
      Or.inl ha.exists_isLive⟩
  rcases h.kinds t u hu with hback | ⟨hstart, rfl⟩
  · rw [hback] at hmoves
    cases hstop : u'.stop with
    | waiting c' =>
      rw [hstop] at hmoves
      exact ⟨hquiet hmoves, fun _ => Or.inr
        ⟨t, u', hself, hkind.trans hback, by simp [Task.pending, hstop, Stop.pending]⟩⟩
    | finished res =>
      rw [hstop] at hmoves
      rcases hmoves with ⟨hq, ⟨e, he⟩ | hover⟩ | ⟨ha, -⟩
      · -- a first step that fails was cancelled, and nothing cancels this task
        exfalso
        cases he
        rw [mayAnswer, h.notCancelled, if_neg List.not_mem_nil] at hmay
        obtain ⟨a, ha⟩ := hmay rfl
        cases ha
      · have hrunning : S'.shared.shutdown = false := hq.shutdown.trans h.running
        rw [renewalOver, hrunning, hopen] at hover
        exact absurd hover (by decide)
      · exact ⟨(harmed ha).1, fun _ => (harmed ha).2⟩
  · -- `start()` has returned only when its last segment ended without an exception
    have hreturned : S'.HasReturned 0 → u'.stop = .finished (.ok ()) := by
      rintro ⟨v, hv, hret⟩
      rwa [← Option.some.inj (hself.symm.trans hv)] at hret
    rw [hstart] at hmoves
    cases hstop : u'.stop with
    | waiting c' =>
      rw [hstop] at hmoves
      refine ⟨hquiet hmoves, fun hret => ?_⟩
      cases hstop.symm.trans (hreturned hret)
    | finished res =>
      rw [hstop] at hmoves
      cases res with
      | ok a => exact ⟨(harmed hmoves).1, fun _ => (harmed hmoves).2⟩
      | error e =>
        refine ⟨hquiet hmoves, fun hret => ?_⟩
        cases hstop.symm.trans (hreturned hret)

theorem startedOnce_step (h : StartedOnce M S) (halive : S.HasReturned 0 → S.Renewing)
    {a : Action I δ} (ha : a.LeavesRunning) (hstep : step M S a = some S')
    (hopen : S'.shared.sessionClosed M = false) :
    StartedOnce M S' ∧ (S'.HasReturned 0 → S'.Renewing) := by
  have hinv := systemInv_step h.inv hstep
  cases a with
  | resume =>
    obtain rfl := Option.some.inj hstep
    refine ⟨h.update hinv ?_ ?_, fun _ => Or.inl ?_⟩
    · exact scheduleSubscriptionRenew_shutdown _ _
    · exact scheduleSubscriptionRenew_cancelRequested _ _
    · exact exists_isLive_scheduleSubscriptionRenew _ _
  | fire t =>
    obtain ⟨-, rfl⟩ := step_fire.mp hstep
    have hfired := h.inv.update (f := fireTimer t) (timerInv_fireTimer h.inv.timerInv t) rfl
    obtain ⟨hstarted, hrenewing⟩ := (h.update hfired rfl rfl).runRestartOrRenew
    exact ⟨hstarted, fun _ => hrenewing⟩
  | answer t c r => exact h.answer hstep hopen
  | environment device loopTime raises =>
    obtain ⟨-, rfl⟩ := step_environment.mp hstep
    exact ⟨h.update hinv rfl rfl, halive⟩
  | start => exact ha.elim
  | pause => exact ha.elim
  | stop => exact ha.elim
  | shutdown => exact ha.elim

theorem startedOnce_start {device : δ} {loopTime : ℚ}
    (h : step M (init device loopTime) .start = some S) :
    StartedOnce M S ∧ (S.HasReturned 0 → S.Renewing) := by
  have hinv := systemInv_step (systemInv_init device loopTime) h
  obtain rfl := Option.some.inj h
  have hfollows := follows_start (M := M) (BaseManager.init device loopTime)
  have hmoves := hfollows.segment.1
  set x := BaseManager.start M >>= fun _ => (pure () : ManagerCoro I δ Unit) with hx
  have hkinds : ∀ (t : TaskId) (u : Task Kind (managerInterface I) Exc (BaseManager δ)),
      ((init device loopTime : System I δ).start .start x).tasks[t]? = some u →
      u.kind = .background ∨ u.kind = .start ∧ t = 0 := by
    intro t u hu
    cases t with
    | zero =>
      rw [← Option.some.inj hu]
      exact Or.inr ⟨rfl, rfl⟩
    | succ t => exact absurd hu (by simp [Pool.start, init])
  -- only a segment that went to its end has returned
  have hreturned : HasReturned ((init device loopTime : System I δ).start .start x) 0 →
      (x.run (BaseManager.init device loopTime)).2.stop = .finished (.ok ()) := by
    rintro ⟨v, hv, hret⟩
    rw [← Option.some.inj hv] at hret
    exact hret
  rcases hstop : (x.run (BaseManager.init device loopTime)).2.stop with (e | a) | c
  · rw [hstop] at hmoves
    refine ⟨⟨hinv, hmoves.shutdown, hmoves.cancelRequested, hkinds⟩, fun hret => ?_⟩
    cases hstop.symm.trans (hreturned hret)
  · rw [hstop] at hmoves
    obtain ⟨hshutdown, -, hcancel⟩ := Armed.fields hmoves
    exact ⟨⟨hinv, hshutdown, hcancel, hkinds⟩, fun _ => Or.inl (Armed.exists_isLive hmoves)⟩
  · rw [hstop] at hmoves
    refine ⟨⟨hinv, hmoves.shutdown, hmoves.cancelRequested, hkinds⟩, fun hret => ?_⟩
    cases hstop.symm.trans (hreturned hret)

/-- **The renewal chain is never lost**: in every run that begins with `start()`, goes on
without `pause()`, `stop()` and `shutdown()`, and never sees the session closed, the manager
has a live timer or an unfinished renewal task from the return of `start()` on. -/
theorem renewal_chain_never_lost (M : ManagerClass δ I) (device : δ) (loopTime : ℚ)
    (actions : List (Action I δ)) (S : System I δ)
    (h : run M (init device loopTime) (.start :: actions) = some S)
    (hactions : ∀ a ∈ actions, a.LeavesRunning)
    (hopen : Runs.Along (step M) (fun _ _ S' => S'.shared.sessionClosed M = false)
      (init device loopTime) (.start :: actions))
    (hreturned : S.HasReturned 0) :
    S.shared.liveTimers ≠ [] ∨ S.unfinished .background ≠ [] := by
  obtain ⟨S₁, h₁, h⟩ := Runs.run_cons.mp h
  have hstep : ∀ (S : System I δ) (a : Action I δ) (S' : System I δ),
      (StartedOnce M S ∧ (S.HasReturned 0 → S.Renewing)) → step M S a = some S' →
      (a.LeavesRunning ∧ S'.shared.sessionClosed M = false) →
      StartedOnce M S' ∧ (S'.HasReturned 0 → S'.Renewing) :=
    fun S a S' hS hs hc => startedOnce_step hS.1 hS.2 hc.1 hs hc.2
  have hleaves : Runs.Along (step M) (fun _ a _ => Action.LeavesRunning a) S₁ actions :=
    Runs.along_of_forall fun a ha _ _ => hactions a ha
  have halong := hleaves.and (hopen _ h₁).2
  obtain ⟨-, hrenewing⟩ := Runs.run_invariant hstep (startedOnce_start h₁) halong h
  rcases hrenewing hreturned with ⟨t, ht⟩ | ⟨t, ht⟩
  · exact Or.inl (List.ne_nil_of_mem (mem_liveTimers.mpr ht))
  · exact Or.inr (List.ne_nil_of_mem (Pool.mem_unfinished.mpr ht))

/-- The timer of a started manager fires: a renewal task is created. -/
theorem renewal_chain_never_lost_fired :
    ∃ S, run localManager (init false 0) [.start, .fire 0] = some S ∧
      (S.shared.liveTimers ≠ [] ∨ S.unfinished .background ≠ []) := by
  refine ⟨_, rfl, renewal_chain_never_lost localManager false 0 [.fire 0] _ rfl ?_ ?_ ⟨_, rfl, rfl⟩⟩
  · intro a ha
    rw [List.mem_singleton.mp ha]
    trivial
  · intro S₁ h₁
    obtain rfl := Option.some.inj h₁
    refine ⟨rfl, fun S₂ h₂ => ⟨?_, trivial⟩⟩
    obtain rfl := Option.some.inj h₂
    rfl

/-! ### Dormant managers -/

/-- The action arms the timer: `start()` does when it returns, `resume()` at once. -/
def Action.Arming : Action I δ → Prop
  | .start | .resume => True
  | .pause | .stop | .shutdown | .fire _ | .answer _ _ _ | .environment _ _ _ => False

/-- No timer is live, and no unfinished task will arm one. -/
structure Dormant (M : ManagerClass δ I) (S : System I δ) : Prop where
  inv : SystemInv M S
  noLiveTimer : S.shared.NoLiveTimer
  noStart : ∀ t, ¬S.Unfinished .start t
  noRenewal : S.shared.shutdown ∨ ∀ t, ¬S.Unfinished .background t

omit [DecidableEq I.Call] in
theorem Dormant.update (h : Dormant M S) {f : BaseManager δ → BaseManager δ}
    (hinv : SystemInv M (S.update f)) (hq : Quiet S.shared (f S.shared)) :
    Dormant M (S.update f) :=
  ⟨hinv, hq.noLiveTimer h.noLiveTimer, h.noStart,
    h.noRenewal.imp_left fun hs => hq.shutdown.trans hs⟩

omit [DecidableEq I.Call] in
/-- A segment of a task that cannot arm the timer. -/
theorem noLiveTimer_of_moves {m m' : BaseManager δ} {kind : Kind}
    {o : Option (ManagerResumption I)} {st : ManagerStop I} (h : managerMoves M kind o m st m')
    (hstart : kind ≠ .start) (hback : kind = .background → m.shutdown) (hm : m.NoLiveTimer) :
    m'.NoLiveTimer := by
  cases kind with
  | start => exact (hstart rfl).elim
  | background =>
    rcases st with r | c
    · rcases h with ⟨hq, -⟩ | ⟨ha, hover⟩
      · exact hq.noLiveTimer hm
      · -- the guard in the `finally` block sees the shutdown
        rw [renewalOver, ha.fields.1, hback rfl] at hover
        exact absurd hover (by simp)
    · exact Quiet.noLiveTimer h hm
  | stop =>
    rcases o with _ | o
    · exact h.1.noLiveTimer hm
    · exact Quiet.noLiveTimer h hm
  | shutdown =>
    rcases o with _ | o
    · exact h.1.noLiveTimer fun t ht => hm t ht
    · exact Quiet.noLiveTimer h hm

omit [DecidableEq I.Call] in
theorem Dormant.spawn (h : Dormant M S) {kind : Kind} {x : ManagerCoro I δ Unit}
    (hinv : SystemInv M (S.start kind x)) (hx : (managerOutline M).Follows kind x none S.shared)
    (hstart : kind ≠ .start) (hback : kind ≠ .background) : Dormant M (S.start kind x) := by
  refine ⟨hinv, ?_, fun t ht => ?_, ?_⟩
  · exact noLiveTimer_of_moves hx.segment.1 hstart (fun hk => (hback hk).elim) h.noLiveTimer
  · exact h.noStart t (Pool.unfinished_of_start hstart.symm ht)
  · exact h.noRenewal.imp (keeps_of_follows hx).shutdown fun hno t ht =>
      hno t (Pool.unfinished_of_start hback.symm ht)

theorem Dormant.answer (h : Dormant M S) {t : TaskId} {c : (managerInterface I).Call}
    {r : Except Exc ((managerInterface I).Answer c)}
    (hstep : step M S (.answer t c r) = some S') : Dormant M S' := by
  obtain ⟨-, -, u, u', hu, hpending, -, -, hmoves⟩ := answer_spec h.inv.sound hstep
  have hunfinished : S.Unfinished u.kind t := ⟨u, hu, rfl, by simp [hpending]⟩
  refine ⟨h.inv.answer hstep, noLiveTimer_of_moves hmoves ?_ ?_ h.noLiveTimer,
    fun i hi => h.noStart i (unfinished_of_answer h.inv.sound hstep hi), ?_⟩
  · exact fun hk => h.noStart t (hk ▸ hunfinished)
  · exact fun hk => h.noRenewal.resolve_right fun hno => hno t (hk ▸ hunfinished)
  · exact h.noRenewal.imp (managerMoves_keeps hmoves).shutdown fun hno i hi =>
      hno i (unfinished_of_answer h.inv.sound hstep hi)

/-- **One step** of a dormant manager: only `start()` and `resume()` can arm a timer. -/
theorem dormant_step (h : Dormant M S) {a : Action I δ} (hstep : step M S a = some S')
    (ha : ¬a.Arming) : Dormant M S' := by
  have hinv := systemInv_step h.inv hstep
  cases a with
  | start => exact (ha trivial).elim
  | resume => exact (ha trivial).elim
  | pause =>
    obtain rfl := Option.some.inj hstep
    exact h.update hinv (Quiet.cancelRenewals _)
  | stop =>
    obtain rfl := Option.some.inj hstep
    exact h.spawn hinv (follows_stop _) (by decide) (by decide)
  | shutdown =>
    obtain rfl := Option.some.inj hstep
    exact h.spawn hinv (follows_shutdownManager _) (by decide) (by decide)
  | fire t =>
    exact absurd (step_fire.mp hstep).1 (h.noLiveTimer t)
  | answer t c r => exact h.answer hstep
  | environment device loopTime raises =>
    obtain ⟨-, rfl⟩ := step_environment.mp hstep
    exact h.update hinv (.of_fields rfl rfl rfl rfl rfl)

/-- **A dormant manager** stays dormant until the next `start()` or `resume()`. -/
theorem dormant_run (h : Dormant M S) {actions : List (Action I δ)}
    (hrun : run M S actions = some S') (hactions : ∀ a ∈ actions, ¬a.Arming) : Dormant M S' :=
  Runs.run_invariant (fun _ _ _ hs ha hna => dormant_step hs ha hna) h
    (Runs.along_of_forall fun a ha _ _ => hactions a ha) hrun

/-! ### Pausing and stopping -/

/-- `pause()` and `stop()` cancel the timer at once. -/
theorem dormant_of_pause_or_stop (hinv : SystemInv M S) (hstart : ∀ t, ¬S.Unfinished .start t)
    (hidle : S.shared.shutdown ∨ ∀ t, ¬S.Unfinished .background t) {a : Action I δ}
    (ha : a = .pause ∨ a = .stop) (hstep : step M S a = some S') : Dormant M S' := by
  have hinv' := systemInv_step hinv hstep
  rcases ha with rfl | rfl
  · obtain rfl := Option.some.inj hstep
    exact ⟨hinv', hinv.timerInv.cancelRenewals, hstart,
      hidle.imp_left fun hs => (cancelRenewals_fields _).2.1.trans hs⟩
  · obtain rfl := Option.some.inj hstep
    have hx := follows_stop (M := M) S.shared
    refine ⟨hinv', (hx.segment.1).2 hinv.timerInv, fun t ht => ?_, ?_⟩
    · exact hstart t (Pool.unfinished_of_start (by decide) ht)
    · exact hidle.imp (keeps_of_follows hx).shutdown fun hno t ht =>
        hno t (Pool.unfinished_of_start (by decide) ht)

/-- **Pausing and stopping are effective** when no renewal task is in flight, or the manager
is shut down: no timer is live until the next `resume()` or `start()`. -/
theorem paused_until_resumed (M : ManagerClass δ I) (device : δ) (loopTime : ℚ)
    (before : List (Action I δ)) (S : System I δ) (a : Action I δ) (after : List (Action I δ))
    (S' : System I δ) (hbefore : run M (init device loopTime) before = some S)
    (hreturned : S.unfinished .start = [])
    (hidle : S.shared.shutdown ∨ S.unfinished .background = [])
    (ha : a = .pause ∨ a = .stop) (hafter : run M S (a :: after) = some S')
    (hactions : ∀ b ∈ after, ¬b.Arming) : S'.shared.liveTimers = [] := by
  have hinv := systemInv_run (systemInv_init (M := M) device loopTime) hbefore
  obtain ⟨S₁, h₁, hafter⟩ := Runs.run_cons.mp hafter
  have hdormant := dormant_of_pause_or_stop hinv (Pool.unfinished_eq_nil.mp hreturned)
    (hidle.imp_right Pool.unfinished_eq_nil.mp) ha h₁
  exact liveTimers_eq_nil.mpr (dormant_run hdormant hafter hactions).noLiveTimer

/-- A manager is started and paused, and time passes. -/
theorem paused_until_resumed_idle :
    ∃ S S', run localManager (init false 0) [.start] = some S ∧
      run localManager S [.pause, .environment false 100 none] = some S' ∧
      S'.shared.liveTimers = [] := by
  refine ⟨_, _, rfl, rfl, paused_until_resumed localManager false 0 [.start] _ .pause
    [.environment false 100 none] _ rfl rfl (Or.inr rfl) (Or.inl rfl) rfl ?_⟩
  intro b hb
  rw [List.mem_singleton.mp hb]
  exact id

/-- The answer to the Renew of the renewal task, with no times in it. -/
def renewedWithoutTimes : Action noCalls Bool :=
  .answer 1 (.renew 0 "PT60S") (.ok ⟨none, none⟩)

/-- A renewal task in flight re-arms the timer that `pause()` cancelled. -/
theorem pause_overruled_by_renewal :
    ¬∀ (before : List (Action noCalls Bool)) (S : System noCalls Bool) (a : Action noCalls Bool)
      (after : List (Action noCalls Bool)) (S' : System noCalls Bool),
      run localManager (init false 0) before = some S → S.unfinished .start = [] →
      a = .pause ∨ a = .stop → run localManager S (a :: after) = some S' →
      (∀ b ∈ after, ¬b.Arming) → S'.shared.liveTimers = [] := by
  intro h
  have hlive := h [.start, .fire 0, .answer 1 .begin (.ok ())] _ .pause [renewedWithoutTimes] _
    rfl rfl (Or.inl rfl) rfl fun b hb => by
      rw [List.mem_singleton.mp hb]
      exact id
  exact absurd hlive (by decide)

/-! ### Shutting down -/

/-- The call sends a Renew request, or one of those that `_start()` sends. -/
def isRequest : (managerInterface I).Call → Bool
  | .renew _ _ | .start _ => true
  | .begin | .unsubscribe _ | .sleep _ => false

/-- The renewal and subscription requests in flight. -/
def requests (S : System I δ) : List (managerInterface I).Call := S.pendingCalls.filter isRequest

/-- `shutdown()` sets the flag and cancels the timer at once. -/
theorem dormant_of_shutdown (hinv : SystemInv M S) (hstart : ∀ t, ¬S.Unfinished .start t)
    (hstep : step M S .shutdown = some S') : Dormant M S' := by
  have hinv' := systemInv_step hinv hstep
  obtain rfl := Option.some.inj hstep
  have hmoves := (follows_shutdownManager (M := M) S.shared).segment.1
  exact ⟨hinv', hmoves.2 hinv.timerInv,
    fun t ht => hstart t (Pool.unfinished_of_start (by decide) ht), Or.inl hmoves.1.shutdown⟩

/-- A step of a dormant manager leaves no new renewal task. -/
theorem Dormant.unfinished_of_step (h : Dormant M S) {a : Action I δ}
    (hstep : step M S a = some S') {t : TaskId} (ht : S'.Unfinished .background t) :
    S.Unfinished .background t := by
  cases a with
  | start =>
    obtain rfl := Option.some.inj hstep
    exact Pool.unfinished_of_start (by decide) ht
  | resume =>
    obtain rfl := Option.some.inj hstep
    exact ht
  | pause =>
    obtain rfl := Option.some.inj hstep
    exact ht
  | stop =>
    obtain rfl := Option.some.inj hstep
    exact Pool.unfinished_of_start (by decide) ht
  | shutdown =>
    obtain rfl := Option.some.inj hstep
    exact Pool.unfinished_of_start (by decide) ht
  | fire i =>
    exact absurd (step_fire.mp hstep).1 (h.noLiveTimer i)
  | answer i c r => exact unfinished_of_answer h.inv.sound hstep ht
  | environment device loopTime raises =>
    obtain ⟨-, rfl⟩ := step_environment.mp hstep
    exact ht

omit [DecidableEq I.Call] in
/-- Without an unfinished renewal task, a dormant manager has no request in flight. -/
theorem Dormant.requests_eq_nil (h : Dormant M S) (hno : ∀ t, ¬S.Unfinished .background t) :
    S.requests = [] := by
  rw [requests, List.filter_eq_nil_iff]
  intro c hc
  obtain ⟨u, hu, hpending⟩ := List.mem_filterMap.mp hc
  obtain ⟨i, hi⟩ := List.mem_iff_getElem?.mp hu
  have hcalls := (h.inv.sound u hu).holds hpending
  have hun : S.Unfinished u.kind i := ⟨u, hi, rfl, by simp [hpending]⟩
  cases hk : u.kind with
  | start => exact (h.noStart i (hk ▸ hun)).elim
  | background => exact (hno i (hk ▸ hun)).elim
  | stop =>
    rw [hk] at hcalls
    obtain ⟨sid, rfl⟩ := hcalls
    exact Bool.false_ne_true
  | shutdown =>
    rw [hk] at hcalls
    obtain ⟨sid, rfl⟩ := hcalls
    exact Bool.false_ne_true

/-- **Shutdown is final** when no `start()` is in progress and neither `start()` nor
`resume()` is called afterwards: once the renewal task has unwound, no timer is live and no
renewal or subscription request is sent. -/
theorem shutdown_is_final (M : ManagerClass δ I) (device : δ) (loopTime : ℚ)
    (before : List (Action I δ)) (S : System I δ) (unwinding : List (Action I δ))
    (S' : System I δ) (after : List (Action I δ)) (S'' : System I δ)
    (hbefore : run M (init device loopTime) before = some S)
    (hnoStart : S.unfinished .start = [])
    (hunwinding : run M S (.shutdown :: unwinding) = some S')
    (hunwound : S'.unfinished .background = []) (hafter : run M S' after = some S'')
    (hactions : ∀ a ∈ unwinding ++ after, ¬a.Arming) :
    S''.shared.liveTimers = [] ∧ S''.requests = [] := by
  have hinv := systemInv_run (systemInv_init (M := M) device loopTime) hbefore
  obtain ⟨S₁, h₁, hunwinding⟩ := Runs.run_cons.mp hunwinding
  have hdormant := dormant_run
    (dormant_of_shutdown hinv (Pool.unfinished_eq_nil.mp hnoStart) h₁) hunwinding
    fun a ha => hactions a (List.mem_append_left _ ha)
  have hstep : ∀ (S : System I δ) (a : Action I δ) (S' : System I δ),
      (Dormant M S ∧ ∀ t, ¬S.Unfinished .background t) → step M S a = some S' → ¬a.Arming →
      Dormant M S' ∧ ∀ t, ¬S'.Unfinished .background t :=
    fun S a S' hS hs ha =>
      ⟨dormant_step hS.1 hs ha, fun t ht => hS.2 t (hS.1.unfinished_of_step hs ht)⟩
  obtain ⟨hdormant'', hno⟩ := Runs.run_invariant hstep
    ⟨hdormant, Pool.unfinished_eq_nil.mp hunwound⟩
    (Runs.along_of_forall fun a ha _ _ => hactions a (List.mem_append_right _ ha)) hafter
  exact ⟨liveTimers_eq_nil.mpr hdormant''.noLiveTimer, hdormant''.requests_eq_nil hno⟩

/-- The Renew of the renewal task is cancelled. -/
def renewCancelled : Action noCalls Bool :=
  .answer 1 (.renew 0 "PT60S") (.error .cancelledError)

/-- A manager is shut down while it renews, the cancelled task unwinds, and it is paused. -/
theorem shutdown_is_final_unwound :
    ∃ S S' S'', run localManager (init false 0) [.start, .fire 0, .answer 1 .begin (.ok ())] = some S ∧
      run localManager S [.shutdown, renewCancelled] = some S' ∧
      run localManager S' [.pause] = some S'' ∧
      S''.shared.liveTimers = [] ∧ S''.requests = [] := by
  refine ⟨_, _, _, rfl, rfl, rfl, shutdown_is_final localManager false 0
    [.start, .fire 0, .answer 1 .begin (.ok ())] _ [renewCancelled] _ [.pause] _
    rfl rfl rfl rfl rfl fun a ha => ?_⟩
  rcases List.mem_pair.mp ha with rfl | rfl
  · exact id
  · exact id

/-- `resume()` arms the timer of a manager that was shut down. -/
theorem shutdown_overruled_by_resume :
    ¬∀ (before : List (Action noCalls Bool)) (S : System noCalls Bool)
      (unwinding : List (Action noCalls Bool)) (S' : System noCalls Bool)
      (after : List (Action noCalls Bool)) (S'' : System noCalls Bool),
      run localManager (init false 0) before = some S →
      run localManager S (.shutdown :: unwinding) = some S' →
      S'.unfinished .background = [] → run localManager S' after = some S'' →
      S''.shared.liveTimers = [] ∧ S''.requests = [] := by
  intro h
  have hlive := (h [.start] _ [] _ [.resume] _ rfl rfl rfl rfl).1
  exact absurd hlive (by decide)

end System

end Onvif
