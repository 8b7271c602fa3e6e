/-
`managers.py`: the base class of the notification and pull-point managers.

`BaseManager δ` holds the fields of a manager and the part of the event loop it uses: the
timer handles `call_at` returned, the cancellations requested of its tasks, and the behaviour
of the consumer's callback.  What a subclass and its device contribute is a `ManagerClass`:
the abstract `_start()` is any coroutine over `Held δ`, the fields it may write and the device.

The methods that suspend are coroutines over the manager; the others are functions on it.

* **`TimerInv`** — every live timer is the one recorded in `_cancel_subscription_renew`;
* **`TimerInv.cancelRenewals`**, **`TimerInv.scheduleSubscriptionRenew`** — the only two
  operations on timers keep it.
-/
import Mathlib.Data.List.Perm.Subperm
import Mathlib.Data.List.Range
import OnvifZeep.DateTime
import OnvifZeep.Wrappers

namespace Onvif

open Coro

/-- The identity of an `ONVIFService` object. -/
abbrev ServiceId : Type := ℕ

/-- The position of a task in its pool. -/
abbrev TaskId : Type := ℕ

/-! ### Constants -/

def RENEWAL_PERCENTAGE : ℚ := 8 / 10

def subscriptionErrors : List ExcClass := [.fault, .timeoutError, .clientError]

def renewErrors : List ExcClass :=
  [.onvifError, .clientError, .xmlParseError] ++ subscriptionErrors

def SUBSCRIPTION_RESTART_INTERVAL_ON_ERROR : TimeDelta := TimeDelta.ofSeconds 40

def MINIMUM_SUBSCRIPTION_SECONDS : ℚ := 60

/-! ### Calls and responses -/

/-- The part of a subscribe or Renew response that the renewal is scheduled by. -/
structure SubscriptionTimes where
  currentTime : Option DateTime
  terminationTime : Option DateTime

/-- The calls of a manager; `start` wraps those `_start()` makes, `begin` is the turn of the
event loop a task waits for before its first step. -/
inductive ManagerCall (C : Type) : Type where
  | begin
  | renew (subscription : ServiceId) (terminationTime : String)
  | unsubscribe (subscription : ServiceId)
  | sleep (seconds : ℚ)
  | start (c : C)
deriving DecidableEq

/-- The interface of a manager whose `_start()` uses `I`. -/
abbrev managerInterface (I : Interface) : Interface where
  Call := ManagerCall I.Call
  Answer
    | .renew _ _ => SubscriptionTimes
    | .start c => I.Answer c
    | _ => Unit

/-! ### The manager -/

/-- What `_start()` reads and writes: the fields that subclasses set, the loop's clock and the
device. -/
structure Held (δ : Type) where
  subscription : Option ServiceId
  service : Option ServiceId
  loopTime : ℚ
  device : δ

/-- What a concrete manager and its device contribute. -/
structure ManagerClass (δ : Type) (I : Interface) where
  interval : TimeDelta
  -- `subscription.transport.session.closed`
  sessionClosed : δ → ServiceId → Bool
  getNextTerminationTime : δ → TimeDelta → Except Exc String
  -- the abstract method `_start()`
  start : Coro I Exc (Held δ) ℚ

inductive TimerState where
  | live | cancelled | fired
deriving DecidableEq

/-- An `asyncio.TimerHandle`. -/
structure TimerHandle where
  time : ℚ
  state : TimerState

/-- `TimerHandle.cancel()`: a handle that fired stays fired. -/
def TimerHandle.cancel (t : TimerHandle) : TimerHandle :=
  if t.state = .live then { t with state := .cancelled } else t

@[simp] theorem TimerHandle.not_live_cancel (t : TimerHandle) : t.cancel.state ≠ .live := by
  rw [cancel]
  by_cases ht : t.state = .live
  · rw [if_pos ht]
    exact TimerState.noConfusion
  · rwa [if_neg ht]

/-- What a run of the renewal task does besides its calls: reporting the loss of the
subscription and attempting a restart. -/
inductive Milestone where
  | subscriptionLost | restart
deriving DecidableEq

/-- A manager, with the timers and cancellations of the event loop that concern it. -/
structure BaseManager (δ : Type) where
  held : Held δ
  shutdown : Bool
  restartOrRenewTask : Option TaskId
  cancelSubscriptionRenew : Option ℕ
  -- every handle `call_at` returned, in order
  timers : List TimerHandle
  -- tasks whose `cancel()` was called and not yet delivered
  cancelRequested : List TaskId
  -- what the consumer's callback raises when it is called
  callbackRaises : Option Exc
  milestones : List Milestone

namespace BaseManager

variable {δ : Type} {I : Interface}

/-- A new manager: the fields `__init__` sets. -/
def init (device : δ) (loopTime : ℚ) : BaseManager δ where
  held := { subscription := none, service := none, loopTime := loopTime, device := device }
  shutdown := false
  restartOrRenewTask := none
  cancelSubscriptionRenew := none
  timers := []
  cancelRequested := []
  callbackRaises := none
  milestones := []

/-- The part of a manager `_start()` works on. -/
def heldLens : Lens (BaseManager δ) (Held δ) where
  get m := m.held
  set h m := { m with held := h }
  get_set _ _ := rfl
  set_get _ := rfl
  set_set _ _ _ := rfl

def startEmbedding (I : Interface) : Embedding I (managerInterface I) where
  call := .start
  answer _ a := a

/-! ### Timers -/

def isLive (m : BaseManager δ) (h : ℕ) : Bool := (m.timers[h]?).any (·.state = .live)

def cancelRenewals (m : BaseManager δ) : BaseManager δ :=
  match m.cancelSubscriptionRenew with
  | some h =>
    { m with timers := m.timers.modify h TimerHandle.cancel, cancelSubscriptionRenew := none }
  | none => m

/-- `loop.call_at`: arm a timer and keep its handle. -/
def callAt (time : ℚ) (m : BaseManager δ) : BaseManager δ :=
  { m with
    timers := m.timers ++ [{ time := time, state := .live }]
    cancelSubscriptionRenew := some m.timers.length }

def scheduleSubscriptionRenew (time : ℚ) (m : BaseManager δ) : BaseManager δ :=
  m.cancelRenewals.callAt time

def liveTimers (m : BaseManager δ) : List ℕ := (List.range m.timers.length).filter m.isLive

/-- Every live timer is the recorded one. -/
def TimerInv (m : BaseManager δ) : Prop :=
  ∀ h, m.isLive h → m.cancelSubscriptionRenew = some h

/-- No timer is live. -/
def NoLiveTimer (m : BaseManager δ) : Prop := ∀ h, ¬m.isLive h

theorem NoLiveTimer.timerInv {m : BaseManager δ} (hm : m.NoLiveTimer) : m.TimerInv :=
  fun h hh => (hm h hh).elim

theorem isLive_lt {m : BaseManager δ} {h : ℕ} (hh : m.isLive h) : h < m.timers.length := by
  by_contra hlt
  rw [isLive, List.getElem?_eq_none (by omega)] at hh
  exact absurd hh (by simp)

theorem mem_liveTimers {m : BaseManager δ} {h : ℕ} : h ∈ m.liveTimers ↔ m.isLive h := by
  rw [liveTimers, List.mem_filter, List.mem_range]
  exact ⟨fun hh => hh.2, fun hh => ⟨isLive_lt hh, hh⟩⟩

theorem liveTimers_eq_nil {m : BaseManager δ} : m.liveTimers = [] ↔ m.NoLiveTimer := by
  rw [List.eq_nil_iff_forall_not_mem]
  exact forall_congr' fun h => not_congr mem_liveTimers

theorem TimerInv.length_liveTimers_le {m : BaseManager δ} (hm : m.TimerInv) :
    m.liveTimers.length ≤ 1 := by
  have hnodup : m.liveTimers.Nodup := List.nodup_range.filter _
  have hsub : m.liveTimers ⊆ m.cancelSubscriptionRenew.toList := fun h hh => by
    rw [hm h (mem_liveTimers.mp hh)]
    exact List.mem_singleton_self h
  exact (List.subperm_of_subset hnodup hsub).length_le.trans Option.length_toList_le

/-- **Cancelling** the recorded timer leaves none live. -/
theorem TimerInv.cancelRenewals {m : BaseManager δ} (hm : m.TimerInv) :
    m.cancelRenewals.NoLiveTimer := by
  intro h hh
  rw [BaseManager.cancelRenewals] at hh
  cases hrec : m.cancelSubscriptionRenew with
  | none =>
    rw [hrec] at hh
    exact absurd (hm h hh) (by rw [hrec]; simp)
  | some h' =>
    simp only [hrec, isLive, List.getElem?_modify] at hh
    by_cases heq : h' = h
    · subst heq
      cases hget : m.timers[h']? with
      | none => simp [hget] at hh
      | some t => simp [hget] at hh
    · cases hget : m.timers[h]? with
      | none => simp [hget] at hh
      | some t =>
        simp only [hget, if_neg heq] at hh
        have hlive : m.isLive h := by simpa [isLive, hget] using hh
        exact heq (Option.some.inj (hrec.symm.trans (hm h hlive)))

theorem NoLiveTimer.cancelRenewals {m : BaseManager δ} (hm : m.NoLiveTimer) :
    m.cancelRenewals.NoLiveTimer := hm.timerInv.cancelRenewals

theorem isLive_callAt {m : BaseManager δ} {time : ℚ} {h : ℕ} :
    (m.callAt time).isLive h ↔ m.isLive h ∨ h = m.timers.length := by
  simp only [isLive, callAt]
  rcases Nat.lt_trichotomy h m.timers.length with hlt | rfl | hgt
  · rw [List.getElem?_append_left hlt]
    exact ⟨Or.inl, fun hh => hh.resolve_right (by omega)⟩
  · simp
  · rw [List.getElem?_append_right (by omega), List.getElem?_eq_none (l := m.timers) (by omega),
      List.getElem?_eq_none (by simp; omega)]
    simp
    omega

/-- **Scheduling** leaves exactly the new timer live, and records it. -/
theorem TimerInv.scheduleSubscriptionRenew {m : BaseManager δ} (hm : m.TimerInv) (time : ℚ) :
    (m.scheduleSubscriptionRenew time).TimerInv := by
  intro h hh
  rcases isLive_callAt.mp hh with hh | rfl
  · exact (hm.cancelRenewals h hh).elim
  · rfl

theorem exists_isLive_scheduleSubscriptionRenew (m : BaseManager δ) (time : ℚ) :
    ∃ h, (m.scheduleSubscriptionRenew time).isLive h :=
  ⟨_, isLive_callAt.mpr (Or.inr rfl)⟩

/-! ### The session -/

def sessionClosed (M : ManagerClass δ I) (m : BaseManager δ) : Bool :=
  match m.held.subscription with
  | some sid => M.sessionClosed m.held.device sid
  | none => false

def closed (M : ManagerClass δ I) (m : BaseManager δ) : Bool :=
  m.held.subscription.isNone || m.sessionClosed M

/-! ### The consumer's calls -/

def pause (m : BaseManager δ) : BaseManager δ := m.cancelRenewals

def resume (m : BaseManager δ) : BaseManager δ := m.scheduleSubscriptionRenew m.held.loopTime

/-- A coroutine of a manager. -/
abbrev ManagerCoro (I : Interface) (δ α : Type) : Type :=
  Coro (managerInterface I) Exc (BaseManager δ) α

/-- `self._start()`. -/
def innerStart (M : ManagerClass δ I) : ManagerCoro I δ ℚ :=
  zoom (startEmbedding I) heldLens M.start

def start (M : ManagerClass δ I) : ManagerCoro I δ (Option ServiceId) := do
  let renewalCallAt ← innerStart M
  modifyState (scheduleSubscriptionRenew renewalCallAt)
  let m ← getState
  return m.held.subscription

def stop : ManagerCoro I δ Unit := do
  modifyState cancelRenewals
  let m ← getState
  match m.held.subscription with
  | none => .raise (.builtin .assertionError "Call start first")
  | some subscription =>
    tryExcept (call (I := managerInterface I) (.unsubscribe subscription)) fun err => do
      if err.oneOf subscriptionErrors then
        let _ ← ofExcept (stringifyOnvifError err)
      else
        .raise err

/-- `self._shutdown = True` and, if there is a task, its `cancel()`. -/
def requestShutdown (m : BaseManager δ) : BaseManager δ :=
  { m with
    shutdown := true
    cancelRequested :=
      match m.restartOrRenewTask with
      | some t => t :: m.cancelRequested
      | none => m.cancelRequested }

def shutdownManager : ManagerCoro I δ Unit := do
  modifyState requestShutdown
  stop

/-! ### The renewal task -/

/-- The delay to the next renewal, in seconds. -/
def renewalDelay (interval : TimeDelta) (result : SubscriptionTimes) : Except Exc ℚ := do
  let delay ←
    match result.terminationTime, result.currentTime with
    | some terminationTime, some currentTime => terminationTime.sub currentTime
    | _, _ => .ok interval
  return max (TimeDelta.totalSeconds delay) MINIMUM_SUBSCRIPTION_SECONDS * RENEWAL_PERCENTAGE

def calculateNextRenewalCallAt (interval : TimeDelta) (loopTime : ℚ)
    (result : SubscriptionTimes) : Except Exc ℚ := do
  let delaySeconds ← renewalDelay interval result
  return loopTime + delaySeconds

/-- The times, where both are present, can be subtracted. -/
def Schedulable (result : SubscriptionTimes) : Prop :=
  ∀ terminationTime ∈ result.terminationTime, ∀ currentTime ∈ result.currentTime,
    terminationTime.Comparable currentTime

instance (result : SubscriptionTimes) : Decidable (Schedulable result) := by
  unfold Schedulable
  infer_instance

/-- **The time of the next renewal** is found for exactly the schedulable responses. -/
theorem calculateNextRenewalCallAt_isOk_iff (interval : TimeDelta) (loopTime : ℚ)
    (result : SubscriptionTimes) :
    (∃ time, calculateNextRenewalCallAt interval loopTime result = .ok time) ↔
      Schedulable result := by
  obtain ⟨currentTime, terminationTime⟩ := result
  unfold calculateNextRenewalCallAt renewalDelay Schedulable
  cases terminationTime with
  | none => simp [bind, Except.bind, pure, Except.pure]
  | some terminationTime =>
    cases currentTime with
    | none => simp [bind, Except.bind, pure, Except.pure]
    | some currentTime =>
      simp only [Option.mem_def, Option.some.injEq, forall_eq', ← DateTime.sub_isOk_iff]
      cases terminationTime.sub currentTime with
      | ok delay => simp [bind, Except.bind, pure, Except.pure]
      | error e => simp [bind, Except.bind]

theorem only_builtin_calculateNextRenewalCallAt (interval : TimeDelta) (loopTime : ℚ)
    (result : SubscriptionTimes) :
    Only (fun e => e.isBuiltin) (calculateNextRenewalCallAt interval loopTime result) := by
  obtain ⟨currentTime, terminationTime⟩ := result
  unfold calculateNextRenewalCallAt renewalDelay
  refine .bind ?_ fun delay => only_ok _
  cases terminationTime with
  | none => exact only_ok _
  | some terminationTime =>
    cases currentTime with
    | none => exact only_ok _
    | some currentTime => exact .bind (DateTime.only_builtin_sub _ _) fun delay => only_ok _

/-- One attempt of `_call_subscription_renew`. -/
def callSubscriptionRenewOnce (M : ManagerClass δ I) : ManagerCoro I δ ℚ := do
  let m ← getState
  match m.held.subscription with
  | none => .raise (.builtin .attributeError "'NoneType' object has no attribute 'Renew'")
  | some subscription =>
    let time ← ofExcept (M.getNextTerminationTime m.held.device M.interval)
    let result ← call (I := managerInterface I) (.renew subscription time)
    let m ← getState
    ofExcept (calculateNextRenewalCallAt M.interval m.held.loopTime result)

def callSubscriptionRenew (M : ManagerClass δ I) : ManagerCoro I δ (Option ℚ) :=
  retryConnectionError DEFAULT_ATTEMPTS [.clientError]
    (call (I := managerInterface I) (.sleep BACKOFF_TIME)) (callSubscriptionRenewOnce M)

/-- `self._subscription_lost_callback()`. -/
def subscriptionLostCallback : ManagerCoro I δ Unit := do
  modifyState fun m => { m with milestones := m.milestones ++ [.subscriptionLost] }
  let m ← getState
  match m.callbackRaises with
  | some e => .raise e
  | none => pure ()

def renewSubscription (M : ManagerClass δ I) : ManagerCoro I δ (Option ℚ) := do
  let m ← getState
  if m.closed M || m.shutdown then
    return none
  else
    tryExcept (callSubscriptionRenew M) fun err => do
      if err.oneOf renewErrors then
        subscriptionLostCallback
        let _ ← ofExcept (stringifyOnvifError err)
        return none
      else
        .raise err

def restartSubscription (M : ManagerClass δ I) : ManagerCoro I δ ℚ := do
  modifyState fun m => { m.cancelRenewals with milestones := m.milestones ++ [.restart] }
  innerStart M

/-- The body of the `try` of `_renew_or_restart_subscription`, returning `renewal_call_at`. -/
def renewOrRestartBody (M : ManagerClass δ I) : ManagerCoro I δ (Option ℚ) := do
  let renewalCallAt ← renewSubscription M
  match renewalCallAt with
  | some t => return some t
  | none =>
    tryExcept (restartSubscription M >>= fun t => pure (some t)) fun err => do
      if err.oneOf renewErrors then
        let _ ← ofExcept (stringifyOnvifError err)
        return none
      else
        .raise err

/-- `renewal_call_at or self._loop.time() + 40`: an absent time and the time zero both fall
back. -/
def nextCallAt (renewalCallAt : Option ℚ) (loopTime : ℚ) : ℚ :=
  match renewalCallAt with
  | some t =>
    if t = 0 then loopTime + TimeDelta.totalSeconds SUBSCRIPTION_RESTART_INTERVAL_ON_ERROR else t
  | none => loopTime + TimeDelta.totalSeconds SUBSCRIPTION_RESTART_INTERVAL_ON_ERROR

/-- The `finally` block of `_renew_or_restart_subscription`. -/
def rearm (M : ManagerClass δ I) (renewalCallAt : Option ℚ) (m : BaseManager δ) :
    BaseManager δ :=
  if !m.shutdown && !m.sessionClosed M then
    m.scheduleSubscriptionRenew (nextCallAt renewalCallAt m.held.loopTime)
  else m

def renewOrRestartSubscription (M : ManagerClass δ I) : ManagerCoro I δ Unit := do
  let m ← getState
  if m.shutdown || m.sessionClosed M then
    return ()
  else
    -- a body that raises leaves `renewal_call_at` unset
    let _ ← tryFinally (renewOrRestartBody M) fun r =>
      modifyState (rearm M (match r with | .ok t => t | .error _ => none))

end BaseManager

end Onvif
