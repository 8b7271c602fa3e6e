/-
A manager in its event loop.

The `System` is the manager with all its tasks: the calls of `start()`, `stop()` and
`shutdown()` its consumer made and the renewal tasks its timers created.  One `step` is a
call of the consumer, a timer firing, the answer to a call that a task waits for, or a change
of the surroundings (the clock, the device, the consumer's callback).  Steps come in any
order and answers are arbitrary, except that a task whose cancellation was requested is
resumed with a `CancelledError`.

* **`SystemInv`** — every live timer is the recorded one and only the recorded renewal task
  can be unfinished; `systemInv_run` carries it through every run;
* **`answer_spec`** — what a segment of a task does, from the outline of its kind.
-/
import OnvifZeep.Runs
import OnvifZeep.ManagerTasks

namespace Onvif

open Coro BaseManager

variable {δ : Type} {I : Interface}

/-- A manager and its tasks. -/
abbrev System (I : Interface) (δ : Type) : Type :=
  Pool Kind (managerInterface I) Exc (BaseManager δ)

namespace System

/-- A new manager, with no task. -/
def init (device : δ) (loopTime : ℚ) : System I δ :=
  { shared := BaseManager.init device loopTime, tasks := [] }

/-- What happens next to a manager. -/
inductive Action (I : Interface) (δ : Type) where
  | start
  | pause
  | resume
  | stop
  | shutdown
  | fire (h : ℕ)
  | answer (t : TaskId) (c : (managerInterface I).Call)
      (r : Except Exc ((managerInterface I).Answer c))
  | environment (device : δ) (loopTime : ℚ) (callbackRaises : Option Exc)

/-- `task.done()` is false. -/
def isUnfinished (S : System I δ) (t : TaskId) : Bool := (S.tasks[t]?).any (·.pending.isSome)

def fireTimer (h : ℕ) (m : BaseManager δ) : BaseManager δ :=
  { m with timers := m.timers.modify h fun t => { t with state := .fired } }

def recordTask (t : TaskId) (m : BaseManager δ) : BaseManager δ :=
  { m with restartOrRenewTask := some t }

/-- `_run_restart_or_renew`: create a renewal task unless the last one is unfinished. -/
def runRestartOrRenew (M : ManagerClass δ I) (S : System I δ) : System I δ :=
  if S.shared.restartOrRenewTask.any S.isUnfinished then S
  else (S.start .background (background M)).update (recordTask S.tasks.length)

/-- A requested cancellation is delivered, once; a task not cancelled makes its first step. -/
def mayAnswer (m : BaseManager δ) (t : TaskId) (c : (managerInterface I).Call)
    (r : Except Exc ((managerInterface I).Answer c)) : Prop :=
  if t ∈ m.cancelRequested then ∃ e, r = .error e ∧ e.isCancelledError
  else c = .begin → ∃ a, r = .ok a

instance (m : BaseManager δ) (t : TaskId) (c : (managerInterface I).Call)
    (r : Except Exc ((managerInterface I).Answer c)) [Decidable (c = .begin)] :
    Decidable (mayAnswer m t c r) :=
  match r with
  | .ok a => decidable_of_iff (t ∉ m.cancelRequested) (by
      unfold mayAnswer
      by_cases ht : t ∈ m.cancelRequested
      · simp [ht]
      · simp [ht])
  | .error e => decidable_of_iff
      (if t ∈ m.cancelRequested then e.isCancelledError = true else ¬c = .begin) (by
        unfold mayAnswer
        by_cases ht : t ∈ m.cancelRequested
        · simp [ht]
        · simp [ht])

def deliverCancel (t : TaskId) (m : BaseManager δ) : BaseManager δ :=
  { m with cancelRequested := m.cancelRequested.filter (· ≠ t) }

def surround (device : δ) (loopTime : ℚ) (callbackRaises : Option Exc) (m : BaseManager δ) :
    BaseManager δ :=
  { m with
    held := { m.held with device := device, loopTime := loopTime }
    callbackRaises := callbackRaises }

variable [DecidableEq I.Call]

/-- One step; `none` if the action is not possible now. -/
def step (M : ManagerClass δ I) (S : System I δ) : Action I δ → Option (System I δ)
  | .start => some (S.start .start (BaseManager.start M >>= fun _ => pure ()))
  | .pause => some (S.update BaseManager.pause)
  | .resume => some (S.update BaseManager.resume)
  | .stop => some (S.start .stop BaseManager.stop)
  | .shutdown => some (S.start .shutdown shutdownManager)
  | .fire h => if S.shared.isLive h then some (runRestartOrRenew M (S.update (fireTimer h))) else none
  | .answer t c r =>
    if mayAnswer S.shared t c r then (S.update (deliverCancel t)).resume t c r else none
  | .environment device loopTime callbackRaises =>
    if S.shared.held.loopTime ≤ loopTime then
      some (S.update (surround device loopTime callbackRaises))
    else none

/-- The state after some actions. -/
abbrev run (M : ManagerClass δ I) (S : System I δ) (actions : List (Action I δ)) :
    Option (System I δ) :=
  Runs.run (step M) S actions

/-! ### The invariant of every run -/

/-- Every live timer is the recorded one, the recorded task is a renewal task, and no other
renewal task is unfinished. -/
structure SystemInv (M : ManagerClass δ I) (S : System I δ) : Prop where
  sound : S.Sound (managerOutline M)
  timerInv : S.shared.TimerInv
  task : ∀ t, S.shared.restartOrRenewTask = some t →
    ∃ u, S.tasks[t]? = some u ∧ u.kind = .background
  recorded : ∀ t, S.Unfinished .background t → S.shared.restartOrRenewTask = some t

variable {M : ManagerClass δ I} {S S' : System I δ}

omit [DecidableEq I.Call]

theorem sound_update (h : S.Sound (managerOutline M)) (f : BaseManager δ → BaseManager δ) :
    (S.update f).Sound (managerOutline M) :=
  fun u hu => (h u hu).frame trivial fun _ _ hc => hc

theorem systemInv_init (device : δ) (loopTime : ℚ) :
    SystemInv M (init device loopTime) where
  sound _ h := absurd h List.not_mem_nil
  timerInv h hh := by simp [init, BaseManager.init, isLive] at hh
  task t ht := by simp [init, BaseManager.init] at ht
  recorded t := by
    rintro ⟨u, hu, -⟩
    simp [init] at hu

theorem SystemInv.update (h : SystemInv M S) {f : BaseManager δ → BaseManager δ}
    (htimers : (f S.shared).TimerInv)
    (htask : (f S.shared).restartOrRenewTask = S.shared.restartOrRenewTask) :
    SystemInv M (S.update f) where
  sound := sound_update h.sound f
  timerInv := htimers
  task t ht := h.task t (htask.symm.trans ht)
  recorded t ht := htask.trans (h.recorded t ht)

/-- A task that is not a renewal task starts. -/
theorem SystemInv.spawn (h : SystemInv M S) {kind : Kind} (hkind : kind ≠ .background)
    {x : ManagerCoro I δ Unit} (hx : (managerOutline M).Follows kind x none S.shared) :
    SystemInv M (S.start kind x) := by
  have hkeeps := keeps_of_follows hx
  refine ⟨Pool.start_sound h.sound hx trivial fun _ _ _ _ hc => hc, hkeeps.timerInv h.timerInv,
    fun t ht => ?_, fun t ht => ?_⟩
  · obtain ⟨u, hu, hk⟩ := h.task t (hkeeps.restartOrRenewTask.symm.trans ht)
    exact ⟨u, Pool.getElem?_append_of_some hu, hk⟩
  · exact hkeeps.restartOrRenewTask.trans (h.recorded t (Pool.unfinished_of_start hkind.symm ht))

/-- A fired timer is not live any more, and no other timer is touched. -/
theorem timerInv_fireTimer {m : BaseManager δ} (hm : m.TimerInv) (h : ℕ) :
    (fireTimer h m).TimerInv := by
  intro t ht
  refine hm t ?_
  simp only [isLive, fireTimer, List.getElem?_modify] at ht ⊢
  cases hget : m.timers[t]? with
  | none => simp [hget] at ht
  | some u =>
    by_cases hht : h = t
    · simp [hget, hht] at ht
    · simpa [hget, hht] using ht

theorem isUnfinished_of_unfinished {kind : Kind} {t : TaskId} (h : S.Unfinished kind t) :
    S.isUnfinished t := by
  obtain ⟨u, hu, -, hpending⟩ := h
  rw [isUnfinished, hu]
  exact hpending

theorem SystemInv.runRestartOrRenew (h : SystemInv M S) :
    SystemInv M (runRestartOrRenew M S) := by
  rw [System.runRestartOrRenew]
  by_cases hdone : S.shared.restartOrRenewTask.any S.isUnfinished = true
  · rw [if_pos hdone]
    exact h
  · rw [if_neg hdone]
    have hx := follows_background (M := M) S.shared
    have htimers := (keeps_of_follows hx).timerInv h.timerInv
    refine ⟨sound_update (Pool.start_sound h.sound hx trivial fun _ _ _ _ hc => hc) _, htimers,
      fun t ht => ?_, fun t ht => ?_⟩
    · obtain rfl : S.tasks.length = t := Option.some.inj ht
      exact ⟨_, List.getElem?_concat_length, rfl⟩
    rcases Pool.unfinished_append.mp ht with ht | ⟨rfl, -⟩
    · -- an older unfinished renewal task would be the recorded one
      refine (hdone ?_).elim
      rw [h.recorded t ht]
      exact isUnfinished_of_unfinished ht
    · rfl

variable [DecidableEq I.Call]

theorem step_fire {h : ℕ} : step M S (.fire h) = some S' ↔
    S.shared.isLive h = true ∧ System.runRestartOrRenew M (S.update (fireTimer h)) = S' := by
  rw [step]
  by_cases hlive : S.shared.isLive h = true
  · rw [if_pos hlive, Option.some.injEq]
    exact (and_iff_right hlive).symm
  · rw [if_neg hlive]
    simp [hlive]

theorem step_answer {t : TaskId} {c : (managerInterface I).Call}
    {r : Except Exc ((managerInterface I).Answer c)} : step M S (.answer t c r) = some S' ↔
      mayAnswer S.shared t c r ∧ (S.update (deliverCancel t)).resume t c r = some S' := by
  rw [step]
  by_cases hmay : mayAnswer S.shared t c r
  · rw [if_pos hmay]
    exact (and_iff_right hmay).symm
  · rw [if_neg hmay]
    simp [hmay]

theorem step_environment {device : δ} {loopTime : ℚ} {callbackRaises : Option Exc} :
    step M S (.environment device loopTime callbackRaises) = some S' ↔
      S.shared.held.loopTime ≤ loopTime ∧
        S.update (surround device loopTime callbackRaises) = S' := by
  rw [step]
  by_cases htime : S.shared.held.loopTime ≤ loopTime
  · rw [if_pos htime, Option.some.injEq]
    exact (and_iff_right htime).symm
  · rw [if_neg htime]
    simp [htime]

/-- What the answer to a call does: one segment of the task that waits for it. -/
theorem answer_spec (h : S.Sound (managerOutline M)) {t : TaskId} {c : (managerInterface I).Call}
    {r : Except Exc ((managerInterface I).Answer c)} (hstep : step M S (.answer t c r) = some S') :
    mayAnswer S.shared t c r ∧ S'.Sound (managerOutline M) ∧
      ∃ u u', S.tasks[t]? = some u ∧ u.pending = some c ∧ S'.tasks = S.tasks.set t u' ∧
        u'.kind = u.kind ∧ managerMoves M u.kind (some ⟨c, r⟩) (deliverCancel t S.shared) u'.stop
          S'.shared := by
  obtain ⟨hmay, hresume⟩ := step_answer.mp hstep
  have hsound := sound_update h (deliverCancel t)
  obtain ⟨u, u', hu, hpending, htasks, hkind, -, hmoves⟩ :=
    Pool.resume_segment hsound hresume fun _ _ => trivial
  refine ⟨hmay, ?_, u, u', hu, hpending, htasks, hkind, hmoves⟩
  exact Pool.resume_sound hsound hresume (fun _ _ => trivial) trivial fun _ _ _ _ _ _ hc => hc

/-- Answering a call leaves no new task unfinished. -/
theorem unfinished_of_answer (h : S.Sound (managerOutline M)) {t : TaskId}
    {c : (managerInterface I).Call} {r : Except Exc ((managerInterface I).Answer c)}
    (hstep : step M S (.answer t c r) = some S') {kind : Kind} {i : TaskId}
    (hi : S'.Unfinished kind i) : S.Unfinished kind i := by
  obtain ⟨-, -, u, u', hu, hpending, htasks, hkind, -⟩ := answer_spec h hstep
  have hset : Pool.Unfinished ⟨S'.shared, S.tasks.set t u'⟩ kind i := htasks ▸ hi
  exact Pool.unfinished_set hu (by simp [hpending]) hkind hset

theorem SystemInv.answer (h : SystemInv M S) {t : TaskId} {c : (managerInterface I).Call}
    {r : Except Exc ((managerInterface I).Answer c)}
    (hstep : step M S (.answer t c r) = some S') : SystemInv M S' := by
  obtain ⟨-, hsound, u, u', hu, hpending, htasks, hkind, hmoves⟩ := answer_spec h.sound hstep
  have hkeeps := managerMoves_keeps hmoves
  refine ⟨hsound, hkeeps.timerInv fun t ht => h.timerInv t ht, fun i hi => ?_, fun i hi => ?_⟩
  · obtain ⟨v, hv, hk⟩ := h.task i (hkeeps.restartOrRenewTask.symm.trans hi)
    rw [htasks]
    obtain ⟨v', hv', hk'⟩ := Pool.getElem?_set_kind hu hkind hv
    exact ⟨v', hv', hk'.trans hk⟩
  · exact hkeeps.restartOrRenewTask.trans
      (h.recorded i (unfinished_of_answer h.sound hstep hi))

/-- **Every step** keeps the invariant. -/
theorem systemInv_step (h : SystemInv M S) {a : Action I δ} (hstep : step M S a = some S') :
    SystemInv M S' := by
  cases a with
  | start =>
    rw [← Option.some.inj hstep]
    exact h.spawn (by decide) (follows_start S.shared)
  | pause =>
    rw [← Option.some.inj hstep]
    exact h.update h.timerInv.cancelRenewals.timerInv (cancelRenewals_fields _).2.2.1
  | resume =>
    rw [← Option.some.inj hstep]
    exact h.update (h.timerInv.scheduleSubscriptionRenew _) (by simp [BaseManager.resume])
  | stop =>
    rw [← Option.some.inj hstep]
    exact h.spawn (by decide) (follows_stop S.shared)
  | shutdown =>
    rw [← Option.some.inj hstep]
    exact h.spawn (by decide) (follows_shutdownManager S.shared)
  | fire t =>
    obtain ⟨-, rfl⟩ := step_fire.mp hstep
    exact (h.update (timerInv_fireTimer h.timerInv t) rfl).runRestartOrRenew
  | answer t c r => exact h.answer hstep
  | environment device loopTime callbackRaises =>
    obtain ⟨-, rfl⟩ := step_environment.mp hstep
    exact h.update (fun t ht => h.timerInv t ht) rfl

/-- **Every run** keeps the invariant. -/
theorem systemInv_run (h : SystemInv M S) {actions : List (Action I δ)}
    (hrun : run M S actions = some S') : SystemInv M S' :=
  Runs.run_invariant_of_step (fun _ _ _ hs ha => systemInv_step hs ha) h hrun

end System

end Onvif
