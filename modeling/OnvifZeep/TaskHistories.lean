/-
What the tasks of a manager did, from the answers they got.

* **`Recorded`** — every task is its coroutine, replayed on the wakeups the run gave it
  (`wakeups`); `Recorded.answer` is what one more answer does;
* **`StartedFirst`** — until `start()`, called once, has returned no timer is live and no renewal
  task is unfinished.
-/
import OnvifZeep.Replay
import OnvifZeep.ManagerLoop

namespace Onvif

open Coro BaseManager

namespace System

variable {δ : Type} {I : Interface} {M : ManagerClass δ I} {S S' : System I δ}

abbrev ManagerWakeup (I : Interface) (δ : Type) : Type :=
  Wakeup (managerInterface I) Exc (BaseManager δ)

/-- The coroutine of each kind of task. -/
def task (M : ManagerClass δ I) : Kind → ManagerCoro I δ Unit
  | .background => background M
  | .start => BaseManager.start M >>= fun _ => pure ()
  | .stop => BaseManager.stop
  | .shutdown => shutdownManager

/-- What task `t` goes on with at this action, if the action answers its call. -/
def wakeup (t : TaskId) (S : System I δ) : Action I δ → Option (ManagerWakeup I δ)
  | .answer i c r => if i = t then some ⟨c, r, deliverCancel t S.shared⟩ else none
  | .start | .pause | .resume | .stop | .shutdown | .fire _ | .environment _ _ _ => none

variable [DecidableEq I.Call]

/-- What task `t` went on with in a run. -/
def wakeups (M : ManagerClass δ I) (t : TaskId) (S : System I δ) (actions : List (Action I δ)) :
    List (ManagerWakeup I δ) :=
  Runs.collect (step M) (wakeup t) S actions

/-! ### Replaying the tasks -/

/-- Every task of `S` is where the wakeups in its history lead its coroutine. -/
structure Recorded (M : ManagerClass δ I) (history : TaskId → List (ManagerWakeup I δ))
    (S : System I δ) : Prop where
  status : ∀ t u, S.tasks[t]? = some u →
    ∃ m m', (task M u.kind).replay m (history t) = some (m', u.status)
  fresh : ∀ t, S.tasks.length ≤ t → history t = []

variable {history : TaskId → List (ManagerWakeup I δ)}

omit [DecidableEq I.Call] in
theorem append_wakeup_self {t : TaskId} {c : (managerInterface I).Call}
    {r : Except Exc ((managerInterface I).Answer c)} :
    history t ++ (wakeup t S (.answer t c r)).toList
      = history t ++ [⟨c, r, deliverCancel t S.shared⟩] := by
  rw [wakeup, if_pos rfl]
  rfl

omit [DecidableEq I.Call] in
/-- An answer to one task is no wakeup of another. -/
theorem append_wakeup_of_ne {t i : TaskId} (hne : t ≠ i) {c : (managerInterface I).Call}
    {r : Except Exc ((managerInterface I).Answer c)} :
    history t ++ (wakeup t S (.answer i c r)).toList = history t := by
  rw [wakeup, if_neg (Ne.symm hne)]
  exact List.append_nil _

theorem recorded_init (device : δ) (loopTime : ℚ) :
    Recorded M (fun _ => []) (init device loopTime) where
  status t u h := by simp [init] at h
  fresh _ _ := rfl

theorem Recorded.update (h : Recorded M history S) (f : BaseManager δ → BaseManager δ) :
    Recorded M history (S.update f) := ⟨h.status, h.fresh⟩

theorem Recorded.spawn (h : Recorded M history S) (kind : Kind) :
    Recorded M history (S.start kind (task M kind)) := by
  refine ⟨fun t u hu => ?_, fun t ht => h.fresh t ?_⟩
  · rcases Pool.getElem?_concat_eq_some.mp hu with hu | ⟨rfl, rfl⟩
    · exact h.status t u hu
    · rw [h.fresh _ (Nat.le_refl _)]
      exact ⟨S.shared, _, rfl⟩
  · rw [Pool.start, List.length_append] at ht
    omega

/-- **An answer** is one more wakeup of the task that waits for it. -/
theorem Recorded.resumed (h : Recorded M history S) {t : TaskId} {c : (managerInterface I).Call}
    {r : Except Exc ((managerInterface I).Answer c)} (hstep : step M S (.answer t c r) = some S') :
    ∃ kind f m, S.tasks[t]? = some ⟨kind, .waiting c f⟩ ∧
      S' = ⟨((f r).run (deliverCancel t S.shared)).1,
        S.tasks.set t ⟨kind, ((f r).run (deliverCancel t S.shared)).2⟩⟩ ∧
      (task M kind).replay m (history t ++ [⟨c, r, deliverCancel t S.shared⟩])
        = some ((f r).run (deliverCancel t S.shared)) := by
  obtain ⟨-, hresume⟩ := step_answer.mp hstep
  obtain ⟨kind, f, hu, rfl⟩ := Pool.resume_eq_some.mp hresume
  obtain ⟨m, m', hreplay⟩ := h.status t _ hu
  exact ⟨kind, f, m, hu, rfl,
    replay_snoc.mpr ⟨_, hreplay, Status.wake_eq_some.mpr ⟨f, rfl, rfl⟩⟩⟩

theorem Recorded.answer (h : Recorded M history S) {t : TaskId} {c : (managerInterface I).Call}
    {r : Except Exc ((managerInterface I).Answer c)} (hstep : step M S (.answer t c r) = some S') :
    ∃ u u' m, S.tasks[t]? = some u ∧ u.pending = some c ∧ u'.kind = u.kind ∧
      S'.tasks = S.tasks.set t u' ∧
      (task M u.kind).replay m (history t ++ [⟨c, r, deliverCancel t S.shared⟩])
        = some (S'.shared, u'.status) := by
  obtain ⟨kind, f, m, hu, rfl, hreplay⟩ := h.resumed hstep
  exact ⟨_, ⟨kind, ((f r).run (deliverCancel t S.shared)).2⟩, m, hu, rfl, rfl, rfl, hreplay⟩

theorem recorded_step (h : Recorded M history S) {a : Action I δ} (hstep : step M S a = some S') :
    Recorded M (fun t => history t ++ (wakeup t S a).toList) S' := by
  have hsame : ∀ {S' : System I δ}, Recorded M history S' →
      Recorded M (fun t => history t ++ []) S' := by
    intro S' h'
    simpa only [List.append_nil] using h'
  cases a with
  | start =>
    rw [← Option.some.inj hstep]
    exact hsame (h.spawn .start)
  | pause =>
    rw [← Option.some.inj hstep]
    exact hsame (h.update _)
  | resume =>
    rw [← Option.some.inj hstep]
    exact hsame (h.update _)
  | stop =>
    rw [← Option.some.inj hstep]
    exact hsame (h.spawn .stop)
  | shutdown =>
    rw [← Option.some.inj hstep]
    exact hsame (h.spawn .shutdown)
  | fire i =>
    obtain ⟨-, rfl⟩ := step_fire.mp hstep
    rw [runRestartOrRenew]
    refine hsame ?_
    split
    · exact h.update _
    · exact ((h.update _).spawn .background).update _
  | answer i c r =>
    obtain ⟨u, u', m, hu, -, hkind, htasks, hreplay⟩ := h.answer hstep
    refine ⟨fun t v hv => ?_, fun t ht => ?_⟩
    · rw [htasks] at hv
      by_cases hti : t = i
      · subst hti
        rw [List.getElem?_set_self (List.getElem?_eq_some_iff.mp hu).1] at hv
        obtain rfl := Option.some.inj hv
        rw [append_wakeup_self, hkind]
        exact ⟨m, _, hreplay⟩
      · rw [List.getElem?_set_ne (Ne.symm hti)] at hv
        rw [append_wakeup_of_ne hti]
        exact h.status t v hv
    · rw [htasks, List.length_set] at ht
      have hlt := (List.getElem?_eq_some_iff.mp hu).1
      rw [append_wakeup_of_ne (Nat.ne_of_gt (Nat.lt_of_lt_of_le hlt ht))]
      exact h.fresh t ht
  | environment device loopTime raises =>
    obtain ⟨-, rfl⟩ := step_environment.mp hstep
    exact hsame (h.update _)

/-- **Every run** replays the tasks on what it woke them up with. -/
theorem recorded_run (h : Recorded M history S) {actions : List (Action I δ)}
    (hrun : run M S actions = some S') :
    Recorded M (fun t => history t ++ wakeups M t S actions) S' := by
  induction actions generalizing S history with
  | nil =>
    obtain rfl : S = S' := Option.some.inj hrun
    simpa only [wakeups, Runs.collect, List.append_nil] using h
  | cons a actions ih =>
    obtain ⟨S₁, h₁, hrun⟩ := Runs.run_cons.mp hrun
    have hrecorded := ih (recorded_step h h₁) hrun
    simpa only [wakeups, Runs.collect_cons h₁, List.append_assoc] using hrecorded

/-! ### `start()` comes first -/

/-- `start()` is called once, and `resume()` only after it returned or raised. -/
def Action.Orderly (S : System I δ) : Action I δ → Prop
  | .start => ∀ u ∈ S.tasks, u.kind ≠ .start
  | .resume => (∃ u ∈ S.tasks, u.kind = .start) ∧ S.unfinished .start = []
  | .pause | .stop | .shutdown | .fire _ | .answer _ _ _ | .environment _ _ _ => True

/-- At most one `start()` is in progress, and neither before nor while it is does anything renew
the subscription. -/
structure StartedFirst (M : ManagerClass δ I) (S : System I δ) : Prop where
  inv : SystemInv M S
  before : (∀ u ∈ S.tasks, u.kind ≠ .start) →
    S.shared.NoLiveTimer ∧ ∀ t, ¬S.Unfinished .background t
  once : ∀ t t', S.Unfinished .start t → S.Unfinished .start t' → t = t'
  noLiveTimer : ∀ t, S.Unfinished .start t → S.shared.NoLiveTimer
  noRenewal : ∀ t, S.Unfinished .start t → ∀ t', ¬S.Unfinished .background t'

omit [DecidableEq I.Call] in
/-- A step that leaves no new `start()` and no new renewal task in progress, and arms no timer
while `start()` is or before it was called. -/
theorem StartedFirst.mono (h : StartedFirst M S) (hinv : SystemInv M S')
    (hkinds : ∀ u ∈ S.tasks, ∃ u' ∈ S'.tasks, u'.kind = u.kind)
    (hstart : ∀ t, S'.Unfinished .start t → S.Unfinished .start t)
    (hback : ∀ t, S'.Unfinished .background t → S.Unfinished .background t)
    (htimers : ((∃ t, S'.Unfinished .start t) ∨ ∀ u ∈ S.tasks, u.kind ≠ .start) →
      S.shared.NoLiveTimer → S'.shared.NoLiveTimer) : StartedFirst M S' where
  inv := hinv
  before hnone := by
    have hnone₀ : ∀ u ∈ S.tasks, u.kind ≠ .start := by
      intro u hu hk
      obtain ⟨u', hu', hk'⟩ := hkinds u hu
      exact hnone u' hu' (hk'.trans hk)
    exact ⟨htimers (Or.inr hnone₀) (h.before hnone₀).1,
      fun t ht => (h.before hnone₀).2 t (hback t ht)⟩
  once t t' ht ht' := h.once t t' (hstart t ht) (hstart t' ht')
  noLiveTimer t ht := htimers (Or.inl ⟨t, ht⟩) (h.noLiveTimer t (hstart t ht))
  noRenewal t ht t' ht' := h.noRenewal t (hstart t ht) t' (hback t' ht')

omit [DecidableEq I.Call] in
theorem startedFirst_init (device : δ) (loopTime : ℚ) :
    StartedFirst M (init device loopTime) := by
  have hnone : ∀ kind t, ¬(init device loopTime : System I δ).Unfinished kind t := by
    rintro kind t ⟨u, hu, -⟩
    simp [init] at hu
  refine ⟨systemInv_init device loopTime, fun _ => ⟨fun h hh => ?_, hnone .background⟩,
    fun t _ ht => (hnone .start t ht).elim, fun t ht => (hnone .start t ht).elim,
    fun t ht => (hnone .start t ht).elim⟩
  simp [init, BaseManager.init, isLive] at hh

omit [DecidableEq I.Call] in
/-- The task that was answered is of one kind, another unfinished one is some other task. -/
theorem unfinished_of_set {t : TaskId} {u u' : Task Kind (managerInterface I) Exc (BaseManager δ)}
    (hu : S.tasks[t]? = some u) (htasks : S'.tasks = S.tasks.set t u') {kind : Kind} {i : TaskId}
    (hi : S'.Unfinished kind i) (hdone : u'.pending = none) : i ≠ t := by
  rintro rfl
  obtain ⟨v, hv, -, hpending⟩ := hi
  rw [htasks, List.getElem?_set_self (List.getElem?_eq_some_iff.mp hu).1] at hv
  rw [← Option.some.inj hv, hdone] at hpending
  cases hpending

theorem StartedFirst.answer (h : StartedFirst M S) {t : TaskId} {c : (managerInterface I).Call}
    {r : Except Exc ((managerInterface I).Answer c)} (hstep : step M S (.answer t c r) = some S') :
    StartedFirst M S' := by
  have hinv := h.inv.answer hstep
  obtain ⟨-, -, u, u', hu, hpending, htasks, hkind, hmoves⟩ := answer_spec h.inv.sound hstep
  have hunfinished : S.Unfinished u.kind t := ⟨u, hu, rfl, by simp [hpending]⟩
  refine h.mono hinv (fun v hv => ?_) (fun i => unfinished_of_answer h.inv.sound hstep)
    (fun i => unfinished_of_answer h.inv.sound hstep) fun hwhen hlive => ?_
  · obtain ⟨i, hi⟩ := List.mem_iff_getElem?.mp hv
    obtain ⟨v', hv', hk'⟩ := Pool.getElem?_set_kind hu hkind hi
    rw [← htasks] at hv'
    exact ⟨v', List.mem_of_getElem? hv', hk'⟩
  -- what is answered is a `start()` that did not return, or a task that arms no timer
  have hback : u.kind ≠ .background := by
    intro hk
    rcases hwhen with ⟨i, hi⟩ | hnone
    · exact h.noRenewal i (unfinished_of_answer h.inv.sound hstep hi) t (hk ▸ hunfinished)
    · exact (h.before hnone).2 t (hk ▸ hunfinished)
  by_cases hstart : u.kind = .start
  · rcases hwhen with ⟨i, hi⟩ | hnone
    · obtain rfl := h.once i t (unfinished_of_answer h.inv.sound hstep hi) (hstart ▸ hunfinished)
      rw [hstart] at hmoves
      cases hstop : u'.stop with
      | waiting c' =>
        rw [hstop] at hmoves
        exact Quiet.noLiveTimer hmoves fun t ht => hlive t ht
      | finished res =>
        exact (unfinished_of_set hu htasks hi (by rw [Task.pending, hstop]; rfl) rfl).elim
    · exact (hnone u (List.mem_of_getElem? hu) hstart).elim
  · generalize u.kind = kind at hmoves hback hstart
    cases kind with
    | background => exact (hback rfl).elim
    | start => exact (hstart rfl).elim
    | stop => exact Quiet.noLiveTimer hmoves fun t ht => hlive t ht
    | shutdown => exact Quiet.noLiveTimer hmoves fun t ht => hlive t ht

omit [DecidableEq I.Call] in
theorem StartedFirst.start (h : StartedFirst M S) (hnone : ∀ u ∈ S.tasks, u.kind ≠ .start) :
    StartedFirst M (S.start .start (task M .start)) := by
  have hinv := h.inv.spawn (by decide) (follows_start S.shared)
  obtain ⟨hlive, hidle⟩ := h.before hnone
  have hself : ∀ t, (S.start .start (task M .start)).Unfinished .start t →
      t = S.tasks.length ∧ ((task M .start).run S.shared).2.stop.pending.isSome = true := by
    intro t ht
    rcases Pool.unfinished_append.mp ht with ⟨u, hu, hk, -⟩ | ⟨rfl, -, hpending⟩
    · exact (hnone u (List.mem_of_getElem? hu) hk).elim
    · exact ⟨rfl, hpending⟩
  refine ⟨hinv, fun hnone' => ?_, fun t t' ht ht' => ?_, fun t ht => ?_, fun t _ t' ht' => ?_⟩
  · exact (hnone' _ (List.mem_append_right _ (List.mem_singleton_self _)) rfl).elim
  · rw [(hself t ht).1, (hself t' ht').1]
  · have hmoves : managerMoves M .start none S.shared ((task M .start).run S.shared).2.stop
        ((task M .start).run S.shared).1 := (follows_start S.shared).segment.1
    have hpending := (hself t ht).2
    cases hstop : ((task M .start).run S.shared).2.stop with
    | finished res =>
      rw [hstop] at hpending
      cases hpending
    | waiting c =>
      rw [hstop] at hmoves
      exact Quiet.noLiveTimer hmoves hlive
  · exact hidle t' (Pool.unfinished_of_start (by decide) ht')

theorem startedFirst_step (h : StartedFirst M S) {a : Action I δ} (ha : a.Orderly S)
    (hstep : step M S a = some S') : StartedFirst M S' := by
  have hinv := systemInv_step h.inv hstep
  have hsame : ∀ {S' : System I δ}, S'.tasks = S.tasks → ∀ u ∈ S.tasks, ∃ u' ∈ S'.tasks,
      u'.kind = u.kind := fun htasks u hu => ⟨u, htasks ▸ hu, rfl⟩
  have hmore : ∀ {S' : System I δ} {v}, S'.tasks = S.tasks ++ [v] → ∀ u ∈ S.tasks, ∃ u' ∈ S'.tasks,
      u'.kind = u.kind := fun htasks u hu => ⟨u, htasks ▸ List.mem_append_left _ hu, rfl⟩
  cases a with
  | start =>
    obtain rfl := Option.some.inj hstep
    exact h.start ha
  | pause =>
    obtain rfl := Option.some.inj hstep
    exact h.mono hinv (hsame rfl) (fun _ => id) (fun _ => id) fun _ hm => hm.cancelRenewals
  | resume =>
    obtain rfl := Option.some.inj hstep
    refine h.mono hinv (hsame rfl) (fun _ => id) (fun _ => id) ?_
    obtain ⟨⟨u, hu, hk⟩, hreturned⟩ := ha
    rintro (⟨t, ht⟩ | hnone)
    · exact (Pool.unfinished_eq_nil.mp hreturned t ht).elim
    · exact (hnone u hu hk).elim
  | stop =>
    obtain rfl := Option.some.inj hstep
    refine h.mono hinv (hmore rfl) (fun _ => Pool.unfinished_of_start (by decide))
      (fun _ => Pool.unfinished_of_start (by decide)) fun _ hm => ?_
    exact (follows_stop (M := M) S.shared).segment.1.1.noLiveTimer hm
  | shutdown =>
    obtain rfl := Option.some.inj hstep
    refine h.mono hinv (hmore rfl) (fun _ => Pool.unfinished_of_start (by decide))
      (fun _ => Pool.unfinished_of_start (by decide)) fun _ hm => ?_
    exact (follows_shutdownManager (M := M) S.shared).segment.1.1.noLiveTimer fun t ht => hm t ht
  | fire i =>
    -- a live timer, so no `start()` is in progress and one was called
    obtain ⟨hlive, rfl⟩ := step_fire.mp hstep
    have hnone : ∀ t, ¬(runRestartOrRenew M (S.update (fireTimer i))).Unfinished .start t := by
      intro t ht
      rw [runRestartOrRenew] at ht
      refine h.noLiveTimer t ?_ i hlive
      split at ht
      · exact ht
      · exact Pool.unfinished_of_start (p := S.update (fireTimer i)) (by decide) ht
    refine ⟨hinv, fun hnone' => ?_, fun t _ ht => (hnone t ht).elim,
      fun t ht => (hnone t ht).elim, fun t ht => (hnone t ht).elim⟩
    refine ((h.before fun u hu => hnone' u ?_).1 i hlive).elim
    rw [runRestartOrRenew]
    split
    · exact hu
    · exact List.mem_append_left _ hu
  | answer i c r => exact h.answer hstep
  | environment device loopTime raises =>
    obtain ⟨-, rfl⟩ := step_environment.mp hstep
    exact h.mono hinv (hsame rfl) (fun _ => id) (fun _ => id) fun _ hm t ht => hm t ht

end System

end Onvif
