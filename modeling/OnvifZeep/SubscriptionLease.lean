/-
A subscription that never lapses.

What the device grants is a lease: it ends a window after the request, unless it is renewed.  The
timer looks eight tenths of the window ahead, so two tenths are left for everything that comes
late: the timer, the turn of the event loop, the device's answer, and one failed attempt of Renew
with the backoff after it.

* **`Leased`** — a manager with the lease it has, counted from the time the request was made;
* **`Waits`** — what a renewal task waits for, with the waits it may have left; `waits_background`
  shows of the coroutine that an answer leaves it with fewer;
* **`leasing_step`**, **`subscription_never_lapses`** — in every run whose waits are short enough,
  however often the subscription is renewed, the lease never ends, and the manager neither reports a
  loss nor restarts.
-/
import OnvifZeep.Replay
import OnvifZeep.RenewalStorm
import OnvifZeep.RenewalTimer
import OnvifZeep.RenewalTiming

namespace Onvif

open Coro BaseManager Onvif.System Onvif.RenewalStorm Onvif.RenewalTiming

namespace SubscriptionLease

variable {δ : Type} {I : Interface} {M : ManagerClass δ I} {sid : ServiceId}
  {m m' : BaseManager δ}

/-! ### The waits of a renewal task -/

/-- The manager has the subscription `sid`, and nothing keeps it from asking for a Renew. -/
structure Renewable (M : ManagerClass δ I) (sid : ServiceId) (m : BaseManager δ) : Prop where
  running : m.shutdown = false
  subscribed : m.held.subscription = some sid
  opened : m.sessionClosed M = false
  asked : (M.getNextTerminationTime m.held.device M.interval).isOk = true

/-- What follows a Renew that failed. -/
def reportLoss (err : Exc) : ManagerCoro I δ (Option ℚ) := do
  if err.oneOf renewErrors then
    subscriptionLostCallback
    let _ ← ofExcept (stringifyOnvifError err)
    return none
  else
    .raise err

/-- What follows the renewal: a restart, unless it found the time of the next one. -/
def orRestart (M : ManagerClass δ I) : Option ℚ → ManagerCoro I δ (Option ℚ)
  | some t => return some t
  | none =>
    tryExcept (restartSubscription M >>= fun t => pure (some t)) fun err => do
      if err.oneOf renewErrors then
        let _ ← ofExcept (stringifyOnvifError err)
        return none
      else
        .raise err

/-- `_renew_or_restart_subscription` past its guards, from the renewal `x` on. -/
def renewWith (M : ManagerClass δ I) (x : ManagerCoro I δ (Option ℚ)) : ManagerCoro I δ Unit := do
  let _ ← tryFinally (tryExcept x reportLoss >>= orRestart M) fun r =>
    modifyState (rearm M (match r with | .ok t => t | .error _ => none))

theorem run_renewSubscription (h : Renewable M sid m) :
    (renewSubscription M).run m = (tryExcept (callSubscriptionRenew M) reportLoss).run m := by
  have hguard : ¬(m.closed M || m.shutdown) = true := by
    rw [closed, h.subscribed, h.opened, h.running]
    exact Bool.false_ne_true
  show (if (m.closed M || m.shutdown) = true then _ else _ : ManagerCoro I δ (Option ℚ)).run m = _
  rw [if_neg hguard]
  rfl

/-- The guards let a renewable manager through. -/
theorem run_renewOrRestartSubscription (h : Renewable M sid m) :
    (renewOrRestartSubscription M).run m = (renewWith M (callSubscriptionRenew M)).run m := by
  have hguard : ¬(m.shutdown || m.sessionClosed M) = true := by
    rw [h.running, h.opened]
    exact Bool.false_ne_true
  have hbody : (renewOrRestartBody M).run m
      = (tryExcept (callSubscriptionRenew M) reportLoss >>= orRestart M).run m := by
    rw [renewOrRestartBody, run_bind, run_bind, run_renewSubscription h]
    rfl
  show (if (m.shutdown || m.sessionClosed M) = true then _ else _ : ManagerCoro I δ Unit).run m = _
  rewrite [if_neg hguard, renewWith, run_bind, run_bind, Coro.tryFinally, Coro.tryFinally, run_bind,
    run_bind, run_attempt, run_attempt, hbody]
  rfl

theorem run_renewWith_of_waiting {x : ManagerCoro I δ (Option ℚ)} {c : (managerInterface I).Call}
    {k : Except Exc ((managerInterface I).Answer c) → ManagerCoro I δ (Option ℚ)}
    (h : x.run m = (m', .waiting c k)) :
    (renewWith M x).run m = (m', .waiting c fun r => renewWith M (k r)) :=
  run_bind_of_waiting (run_tryFinally_of_waiting
    (run_bind_of_waiting (run_tryExcept_of_waiting h)))

/-- A renewal that succeeds ends by arming the timer. -/
theorem run_renewWith_of_ok {x : ManagerCoro I δ (Option ℚ)} {time : ℚ}
    (h : x.run m = (m', .done (.ok (some time)))) :
    (renewWith M x).run m = (rearm M (some time) m', .done (.ok ())) := by
  have hbody : (tryExcept x reportLoss >>= orRestart M).run m
      = (m', .done (.ok (some time))) := run_bind_of_done (run_tryExcept_of_ok h)
  exact run_bind_of_done (run_tryFinally_of_done hbody)

/-! ### The attempts -/

/-- What an attempt of `_call_subscription_renew` makes of the answer to its Renew. -/
def scheduleNext (M : ManagerClass δ I) (r : Except Exc SubscriptionTimes) : ManagerCoro I δ ℚ := do
  let result ← ofExcept r
  let m ← getState
  ofExcept (calculateNextRenewalCallAt M.interval m.held.loopTime result)

/-- One attempt waits for a Renew of the subscription. -/
theorem run_callSubscriptionRenewOnce (h : Renewable M sid m) : ∃ time,
    (callSubscriptionRenewOnce M).run m = (m, .waiting (.renew sid time) (scheduleNext M)) := by
  have hasked := h.asked
  obtain ⟨time, htime⟩ : ∃ time,
      M.getNextTerminationTime m.held.device M.interval = .ok time := by
    cases htime : M.getNextTerminationTime m.held.device M.interval with
    | ok time => exact ⟨time, rfl⟩
    | error e => simp [htime, Except.isOk, Except.toBool] at hasked
  refine ⟨time, ?_⟩
  have hstate : (getState : ManagerCoro I δ (BaseManager δ)).run m = (m, .done (.ok m)) := rfl
  rw [callSubscriptionRenewOnce, run_bind_of_done hstate, h.subscribed]
  show (ofExcept (M.getNextTerminationTime m.held.device M.interval) >>= _).run m = _
  rw [htime]
  rfl

/-- The loop of `retry_connection_error` around the attempts, from those left. -/
def renewLoop (M : ManagerClass δ I) : List ℕ → ManagerCoro I δ (Option ℚ) :=
  retryLoop DEFAULT_ATTEMPTS (·.oneOf [.clientError])
    (call (I := managerInterface I) (.sleep BACKOFF_TIME)) (callSubscriptionRenewOnce M)

/-- What is left of the loop while attempt `n` is answered. -/
def afterAttempt (M : ManagerClass δ I) (n : ℕ) (rest : List ℕ) (x : ManagerCoro I δ ℚ) :
    ManagerCoro I δ (Option ℚ) :=
  tryExcept (x >>= fun a => pure (some a)) fun ex =>
    if ex.oneOf [.clientError] then
      if n + 1 = DEFAULT_ATTEMPTS then .raise ex
      else call (I := managerInterface I) (.sleep BACKOFF_TIME) >>= fun _ => renewLoop M rest
    else .raise ex

theorem run_renewLoop (h : Renewable M sid m) (n : ℕ) (rest : List ℕ) : ∃ time,
    (renewLoop M (n :: rest)).run m
      = (m, .waiting (.renew sid time) fun r => afterAttempt M n rest (scheduleNext M r)) := by
  obtain ⟨time, hrun⟩ := run_callSubscriptionRenewOnce h
  exact ⟨time, run_tryExcept_of_waiting (run_bind_of_waiting hrun)⟩

theorem run_afterAttempt_ok {n : ℕ} {rest : List ℕ} {result : SubscriptionTimes} {callAt : ℚ}
    (hcall : calculateNextRenewalCallAt M.interval m.held.loopTime result = .ok callAt) :
    (afterAttempt M n rest (scheduleNext M (.ok result))).run m
      = (m, .done (.ok (some callAt))) := by
  have hrun : (scheduleNext M (.ok result)).run m = (m, .done (.ok callAt)) := by
    show (ofExcept (calculateNextRenewalCallAt M.interval m.held.loopTime result)).run m = _
    rw [hcall]
    rfl
  exact run_tryExcept_of_ok (run_bind_of_done hrun)

/-- After a first attempt that lost the connection comes the backoff. -/
theorem run_afterAttempt_error {e : Exc} (he : e.oneOf [.clientError] = true) (rest : List ℕ) :
    (afterAttempt M 0 rest (scheduleNext M (.error e))).run m
      = (m, .waiting (.sleep BACKOFF_TIME) fun r => ofExcept r >>= fun _ => renewLoop M rest) := by
  have hraised : (scheduleNext M (.error e) >>= fun callAt => pure (some callAt)).run m
      = (m, .done (.error e)) := rfl
  rw [afterAttempt, run_tryExcept_of_error hraised, if_pos he, if_neg (by decide)]
  rfl

/-! ### The waits of a renewal task -/

abbrev ManagerStatus (I : Interface) (δ : Type) : Type :=
  Status (managerInterface I) Exc (BaseManager δ) Unit

/-- The answer to a Renew ends the task: it arms the timer. -/
def Finishing (M : ManagerClass δ I) (k : Except Exc SubscriptionTimes → ManagerCoro I δ Unit) :
    Prop :=
  ∀ result callAt m, calculateNextRenewalCallAt M.interval m.held.loopTime result = .ok callAt →
    (k (.ok result)).run m = (rearm M (some callAt) m, .done (.ok ()))

/-- What the task waits for, with the number of waits it may have left and the attempts that
failed. -/
inductive Waits (M : ManagerClass δ I) (sid : ServiceId) : ℕ → ℕ → ManagerStatus I δ → Prop where
  | lastRenew (time : String) (k : Except Exc SubscriptionTimes → ManagerCoro I δ Unit)
      (hk : Finishing M k) : Waits M sid 1 1 (.waiting (.renew sid time) k)
  | backoff (k : Except Exc Unit → ManagerCoro I δ Unit)
      (hsame : ∀ m, Renewable M sid m → ((k (.ok ())).run m).1 = m)
      (hnext : ∀ m, Renewable M sid m → Waits M sid 1 1 ((k (.ok ())).run m).2) :
      Waits M sid 2 1 (.waiting (.sleep BACKOFF_TIME) k)
  | firstRenew (time : String) (k : Except Exc SubscriptionTimes → ManagerCoro I δ Unit)
      (hk : Finishing M k)
      (hsame : ∀ (e : Exc) m, e.oneOf [.clientError] = true → ((k (.error e)).run m).1 = m)
      (hnext : ∀ (e : Exc) m, e.oneOf [.clientError] = true →
        Waits M sid 2 1 ((k (.error e)).run m).2) :
      Waits M sid 3 0 (.waiting (.renew sid time) k)
  | begin (k : Except Exc Unit → ManagerCoro I δ Unit)
      (hsame : ∀ m, Renewable M sid m → ((k (.ok ())).run m).1 = m)
      (hnext : ∀ m, Renewable M sid m → Waits M sid 3 0 ((k (.ok ())).run m).2) :
      Waits M sid 4 0 (.waiting .begin k)

theorem finishing_renewWith (n : ℕ) (rest : List ℕ) :
    Finishing M fun r => renewWith M (afterAttempt M n rest (scheduleNext M r)) :=
  fun _ _ _ hcall => run_renewWith_of_ok (run_afterAttempt_ok hcall)

theorem waits_lastRenew (h : Renewable M sid m) :
    ((renewWith M (renewLoop M [1])).run m).1 = m ∧
      Waits M sid 1 1 ((renewWith M (renewLoop M [1])).run m).2 := by
  obtain ⟨time, hrun⟩ := run_renewLoop h 1 []
  rw [run_renewWith_of_waiting hrun]
  exact ⟨rfl, .lastRenew _ _ (finishing_renewWith 1 [])⟩

theorem waits_firstRenew (h : Renewable M sid m) :
    ((renewWith M (callSubscriptionRenew M)).run m).1 = m ∧
      Waits M sid 3 0 ((renewWith M (callSubscriptionRenew M)).run m).2 := by
  obtain ⟨time, hrun⟩ := run_renewLoop h 0 [1]
  have hloop : (callSubscriptionRenew M).run m = _ := hrun
  rw [run_renewWith_of_waiting hloop]
  have hretry : ∀ (e : Exc) m, e.oneOf [.clientError] = true →
      (renewWith M (afterAttempt M 0 [1] (scheduleNext M (.error e)))).run m
        = (m, .waiting (.sleep BACKOFF_TIME) fun r =>
          renewWith M (ofExcept r >>= fun _ => renewLoop M [1])) :=
    fun e m he => run_renewWith_of_waiting (run_afterAttempt_error he [1])
  refine ⟨rfl, .firstRenew _ _ (finishing_renewWith 0 [1]) (fun e m he => ?_) fun e m he => ?_⟩
  · rw [hretry e m he]
  · rw [hretry e m he]
    exact .backoff _ (fun m hm => (waits_lastRenew hm).1) fun m hm => (waits_lastRenew hm).2

/-- **A new renewal task** has four waits at most, if the second attempt succeeds. -/
theorem waits_background (m : BaseManager δ) : Waits M sid 4 0 ((background M).run m).2 := by
  have hfirst : ∀ m, Renewable M sid m → ((renewOrRestartSubscription M).run m).1 = m ∧
      Waits M sid 3 0 ((renewOrRestartSubscription M).run m).2 := fun m hm => by
    rw [run_renewOrRestartSubscription hm]
    exact waits_firstRenew hm
  exact .begin _ (fun m hm => (hfirst m hm).1) fun m hm => (hfirst m hm).2

/-! ### Leases -/

/-- How late things may come, and the least the device grants. -/
structure Bounds where
  -- the timer fires within `latency` of its time
  latency : ℚ
  -- a renewal task waits for `response` at a time at the longest
  response : ℚ
  -- the shortest window the device grants
  minimum : ℚ
  latency_nonneg : 0 ≤ latency
  response_nonneg : 0 ≤ response
  margin : latency + 5 * response + max minimum MINIMUM_SUBSCRIPTION_SECONDS * RENEWAL_PERCENTAGE
    ≤ minimum

/-- The window a response grants, in seconds; one without both times is taken to grant the interval
that was asked for. -/
def window (M : ManagerClass δ I) (result : SubscriptionTimes) : ℚ :=
  TimeDelta.totalSeconds (renewalWindow M.interval result)

/-- A manager with the lease of its subscription. -/
structure Leased (I : Interface) (δ : Type) where
  system : System I δ
  -- when the renewal task last went on
  since : ℚ
  -- the device keeps the subscription until then
  expiry : ℚ
  -- the attempts of Renew that failed since the last one that succeeded
  failures : ℕ

namespace Leased

def manager (L : Leased I δ) : BaseManager δ := L.system.shared

def now (L : Leased I δ) : ℚ := L.manager.held.loopTime

/-- What a step to `S` makes of the lease: a Renew that succeeds extends it, from the time of its
request. -/
def note (M : ManagerClass δ I) (L : Leased I δ) (S : System I δ) : Action I δ → Leased I δ
  | .answer _ (.renew _ _) (.ok result) =>
    ⟨S, S.shared.held.loopTime, L.since + window M result, 0⟩
  | .answer _ (.renew _ _) (.error _) => ⟨S, S.shared.held.loopTime, L.expiry, L.failures + 1⟩
  | .answer _ _ _ | .fire _ => ⟨S, S.shared.held.loopTime, L.expiry, L.failures⟩
  | _ => ⟨S, L.since, L.expiry, L.failures⟩

theorem note_system (L : Leased I δ) (S : System I δ) (a : Action I δ) :
    (L.note M S a).system = S := by
  cases a with
  | answer t c r =>
    cases c with
    | renew subscription time =>
      cases r with
      | ok result => rfl
      | error e => rfl
    | begin => rfl
    | unsubscribe => rfl
    | sleep => rfl
    | start => rfl
  | start => rfl
  | pause => rfl
  | resume => rfl
  | stop => rfl
  | shutdown => rfl
  | fire => rfl
  | environment => rfl

end Leased

/-- The manager is left alone and the device is obliging: it grants the shortest window at least,
and of the attempts of a renewal only the first may lose the connection. -/
def Obliging (M : ManagerClass δ I) (B : Bounds) (L : Leased I δ) : Action I δ → Prop
  | .answer _ (.renew _ _) (.ok result) => Schedulable result ∧ B.minimum ≤ window M result
  | .answer _ (.renew _ _) (.error e) => e.oneOf [.clientError] = true ∧ L.failures = 0
  | .answer _ (.sleep _) (.error _) => False
  | .answer _ _ _ | .fire _ | .environment _ _ _ => True
  | .start | .pause | .resume | .stop | .shutdown => False

instance (B : Bounds) (L : Leased I δ) (a : Action I δ) : Decidable (Obliging M B L a) :=
  match a with
  | .answer _ (.renew _ _) (.ok result) =>
    inferInstanceAs (Decidable (Schedulable result ∧ B.minimum ≤ window M result))
  | .answer _ (.renew _ _) (.error e) =>
    inferInstanceAs (Decidable (e.oneOf [.clientError] = true ∧ L.failures = 0))
  | .answer _ (.sleep _) (.error _) => isFalse id
  | .answer _ (.sleep _) (.ok _) | .answer _ .begin _ | .answer _ (.unsubscribe _) _
  | .answer _ (.start _) _ | .fire _ | .environment _ _ _ => isTrue trivial
  | .start | .pause | .resume | .stop | .shutdown => isFalse id

/-- The timer and the answers come in time, the session is open and the camera can ask for a
Renew. -/
structure OnTime (M : ManagerClass δ I) (B : Bounds) (L : Leased I δ) : Prop where
  timer : ∀ t ∈ L.manager.timers, t.state = .live → L.now ≤ t.time + B.latency
  answers : L.system.unfinished .background ≠ [] → L.now ≤ L.since + B.response
  opened : L.manager.sessionClosed M = false
  asked : (M.getNextTerminationTime L.manager.held.device M.interval).isOk = true

instance (B : Bounds) (L : Leased I δ) : Decidable (OnTime M B L) :=
  decidable_of_iff ((∀ t ∈ L.manager.timers, t.state = .live → L.now ≤ t.time + B.latency) ∧
      (L.system.unfinished .background ≠ [] → L.now ≤ L.since + B.response) ∧
      L.manager.sessionClosed M = false ∧
      (M.getNextTerminationTime L.manager.held.device M.interval).isOk = true)
    ⟨fun ⟨htimer, hanswers, hopened, hasked⟩ => ⟨htimer, hanswers, hopened, hasked⟩,
      fun h => ⟨h.timer, h.answers, h.opened, h.asked⟩⟩

/-- Where the manager is between two renewals: it waits for its timer, or its renewal task has some
waits left. -/
inductive Phase (M : ManagerClass δ I) (B : Bounds) (sid : ServiceId) (L : Leased I δ) : Prop where
  | resting (h : ℕ) (time : ℚ) (hdue : DueAt L.manager h time)
      (hnone : ∀ t, ¬L.system.Unfinished .background t) (hfailures : L.failures = 0)
      (hlate : L.now ≤ time + B.latency) (hspare : time + B.latency + 4 * B.response ≤ L.expiry)
  | renewing (t : TaskId) (n f : ℕ) (st : ManagerStatus I δ)
      (htask : L.system.tasks[t]? = some ⟨.background, st⟩) (hwaits : Waits M sid n f st)
      (hfailures : L.failures = f) (htimer : L.manager.NoLiveTimer)
      (hlate : L.now ≤ L.since + B.response) (hspare : L.since + n * B.response ≤ L.expiry)

/-- The invariant: the lease covers the waits that are left. -/
structure Leasing (M : ManagerClass δ I) (B : Bounds) (sid : ServiceId) (L : Leased I δ) :
    Prop where
  inv : SystemInv M L.system
  renewable : Renewable M sid L.manager
  notCancelled : L.manager.cancelRequested = []
  alone : ∀ kind t, L.system.Unfinished kind t → kind = .background
  phase : Phase M B sid L

/-! ### The arithmetic of a lease -/

/-- The spare time does not shrink when the device grants more. -/
theorem margin_of_le (B : Bounds) {w : ℚ} (hw : B.minimum ≤ w) :
    B.latency + 5 * B.response + max w MINIMUM_SUBSCRIPTION_SECONDS * RENEWAL_PERCENTAGE ≤ w := by
  have hmargin := B.margin
  have hpercentage : RENEWAL_PERCENTAGE = 8 / 10 := rfl
  rw [hpercentage] at hmargin ⊢
  rcases le_total w MINIMUM_SUBSCRIPTION_SECONDS with h | h
  · rw [max_eq_right (hw.trans h)] at hmargin
    rw [max_eq_right h]
    linarith
  · have hle : max B.minimum MINIMUM_SUBSCRIPTION_SECONDS ≤ w := max_le hw h
    have hmin : B.minimum ≤ max B.minimum MINIMUM_SUBSCRIPTION_SECONDS := le_max_left _ _
    rw [max_eq_left h]
    linarith

/-- The `finally` block does not look further ahead than the time found. -/
theorem nextCallAt_le {time loopTime : ℚ} (htime : loopTime + 48 ≤ time) :
    nextCallAt (some time) loopTime ≤ time := by
  have hinterval : TimeDelta.totalSeconds SUBSCRIPTION_RESTART_INTERVAL_ON_ERROR = 40 := by
    rw [SUBSCRIPTION_RESTART_INTERVAL_ON_ERROR, TimeDelta.totalSeconds, TimeDelta.ofSeconds]
    norm_num
  rw [nextCallAt, hinterval]
  by_cases hzero : time = 0
  · rw [if_pos hzero]
    linarith
  · rw [if_neg hzero]

theorem Waits.pos {n f : ℕ} {st : ManagerStatus I δ} (h : Waits M sid n f st) : 1 ≤ n := by
  cases h with
  | lastRenew => decide
  | backoff => decide
  | firstRenew => decide
  | begin => decide

/-- **The lease has not ended** in any phase. -/
theorem Phase.now_le_expiry {B : Bounds} {L : Leased I δ} (h : Phase M B sid L) :
    L.now ≤ L.expiry := by
  have hresponse := B.response_nonneg
  cases h with
  | resting h time hdue hnone hfailures hlate hspare => linarith
  | renewing t n f st htask hwaits hfailures htimer hlate hspare =>
    have hn : (1 : ℚ) ≤ n := by exact_mod_cast hwaits.pos
    have hle : B.response ≤ n * B.response := le_mul_of_one_le_left hresponse hn
    linarith

/-! ### One step -/

theorem dueAt_scheduleSubscriptionRenew (m : BaseManager δ) (time : ℚ) :
    ∃ h, DueAt (m.scheduleSubscriptionRenew time) h time :=
  ⟨_, List.getElem?_concat_length⟩

theorem scheduleSubscriptionRenew_milestones (m : BaseManager δ) (time : ℚ) :
    (m.scheduleSubscriptionRenew time).milestones = m.milestones := by
  rw [scheduleSubscriptionRenew, callAt, cancelRenewals]
  cases m.cancelSubscriptionRenew with
  | none => rfl
  | some h => rfl

theorem Renewable.scheduleSubscriptionRenew (h : Renewable M sid m) (time : ℚ) :
    Renewable M sid (m.scheduleSubscriptionRenew time) := by
  have hheld := scheduleSubscriptionRenew_held m time
  refine ⟨(scheduleSubscriptionRenew_shutdown m time).trans h.running, ?_, ?_, ?_⟩
  · rw [hheld]
    exact h.subscribed
  · rw [sessionClosed, hheld]
    exact h.opened
  · rw [hheld]
    exact h.asked

theorem deliverCancel_of_none (h : m.cancelRequested = []) (t : TaskId) :
    deliverCancel t m = m := by
  rw [deliverCancel, h, List.filter_nil, ← h]

section Steps

variable [DecidableEq I.Call] {B : Bounds} {L L' : Leased I δ} {S S' : System I δ}

/-- A step of the manager, with what it makes of the lease. -/
def leasedStep (M : ManagerClass δ I) (L : Leased I δ) (a : Action I δ) : Option (Leased I δ) :=
  (step M L.system a).map fun S => L.note M S a

/-- What the runs are taken under. -/
def InTerms (M : ManagerClass δ I) (B : Bounds) (L : Leased I δ) (a : Action I δ)
    (L' : Leased I δ) : Prop := Obliging M B L a ∧ OnTime M B L'

instance (a : Action I δ) : Decidable (InTerms M B L a L') := inferInstanceAs (Decidable (_ ∧ _))

omit [DecidableEq I.Call] in
theorem Waits.isSome_pending {n f : ℕ} {st : ManagerStatus I δ} (h : Waits M sid n f st) :
    st.stop.pending.isSome = true := by
  cases h with
  | lastRenew => rfl
  | backoff => rfl
  | firstRenew => rfl
  | begin => rfl

omit [DecidableEq I.Call] in
/-- A timer that fires creates a renewal task: none is unfinished. -/
theorem runRestartOrRenew_fireTimer {h : ℕ} (hL : Leasing M B sid L)
    (hlive : L.manager.isLive h = true) :
    runRestartOrRenew M (L.system.update (fireTimer h))
      = ⟨recordTask L.system.tasks.length (fireTimer h L.manager),
        L.system.tasks ++ [⟨.background, ((background M).run (fireTimer h L.manager)).2⟩]⟩ := by
  have hnone : ∀ t, ¬L.system.Unfinished .background t := by
    cases hL.phase with
    | renewing t n f st htask hwaits hfailures hquiet => exact (hquiet h hlive).elim
    | resting i time hdue hnone => exact hnone
  have hdone : ¬(L.system.update (fireTimer h)).shared.restartOrRenewTask.any
      (isUnfinished (L.system.update (fireTimer h))) = true := by
    intro hany
    obtain ⟨t, ht, hun⟩ := (Option.any_eq_true _ _).mp hany
    obtain ⟨u, hu, hkind⟩ := hL.inv.task t ht
    have hpending : (L.system.tasks[t]?).any (·.pending.isSome) = true := hun
    rw [hu] at hpending
    exact hnone t ⟨u, hu, hkind, hpending⟩
  rw [runRestartOrRenew, if_neg hdone]
  rfl

omit [DecidableEq I.Call] in
/-- A new renewal task has four waits left. -/
theorem Phase.fire {h : ℕ} (hL : Leasing M B sid L) (hlive : L.manager.isLive h = true) :
    Phase M B sid
      ⟨⟨recordTask L.system.tasks.length (fireTimer h L.manager),
        L.system.tasks ++ [⟨.background, ((background M).run (fireTimer h L.manager)).2⟩]⟩,
        L.now, L.expiry, L.failures⟩ := by
  cases hL.phase with
  | renewing t n f st htask hwaits hfailures hquiet => exact (hquiet h hlive).elim
  | resting i time hdue hnone hfailures hlate hspare =>
    refine .renewing L.system.tasks.length 4 0 _ List.getElem?_concat_length
      (waits_background _) hfailures (noLiveTimer_fireTimer hL.inv.timerInv hlive) ?_ ?_
    · exact le_add_of_nonneg_right B.response_nonneg
    · show L.now + ((4 : ℕ) : ℚ) * B.response ≤ L.expiry
      push_cast
      linarith

omit [DecidableEq I.Call] in
/-- **A wait is over**: the renewal task goes on in time, with fewer waits left. -/
theorem Phase.goOn {t : TaskId} {n n' f f' : ℕ} {st st' : ManagerStatus I δ}
    (hresponse : L.now ≤ L.since + B.response) (hspare : L.since + n * B.response ≤ L.expiry)
    (hn : n' + 1 = n) (hf : f = f') (htimer : L.manager.NoLiveTimer)
    (htask : L.system.tasks[t]? = some ⟨.background, st⟩) (hwaits : Waits M sid n' f' st') :
    Phase M B sid
      ⟨⟨L.manager, L.system.tasks.set t ⟨.background, st'⟩⟩, L.now, L.expiry, f⟩ := by
  refine .renewing t n' f' st' ?_ hwaits hf htimer ?_ ?_
  · exact List.getElem?_set_self (List.getElem?_eq_some_iff.mp htask).1
  · exact le_add_of_nonneg_right B.response_nonneg
  · subst hn
    push_cast at hspare
    show L.now + n' * B.response ≤ L.expiry
    linarith

omit [DecidableEq I.Call] in
/-- **The lease is extended**: the last segment of a renewal task arms the timer, and spares the
time a renewal may take. -/
theorem Phase.extend {t : TaskId} {st : ManagerStatus I δ} {result : SubscriptionTimes}
    {k : Except Exc SubscriptionTimes → ManagerCoro I δ Unit} (hk : Finishing M k)
    (hL : Leasing M B sid L) (hresponse : L.now ≤ L.since + B.response)
    (htask : L.system.tasks[t]? = some ⟨.background, st⟩) (hst : st.stop.pending.isSome = true)
    (hschedulable : Schedulable result) (hwindow : B.minimum ≤ window M result) :
    Phase M B sid ⟨⟨((k (.ok result)).run L.manager).1,
        L.system.tasks.set t ⟨.background, ((k (.ok result)).run L.manager).2⟩⟩,
        ((k (.ok result)).run L.manager).1.held.loopTime, L.since + window M result, 0⟩ ∧
      Renewable M sid ((k (.ok result)).run L.manager).1 ∧
      ((k (.ok result)).run L.manager).1.milestones = L.manager.milestones ∧
      ((k (.ok result)).run L.manager).1.cancelRequested = [] := by
  have hcall := calculateNextRenewalCallAt_of_schedulable M.interval L.now hschedulable
  set callAt := renewalTime M.interval L.now result with heq
  have hrearm : rearm M (some callAt) L.manager
      = L.manager.scheduleSubscriptionRenew (nextCallAt (some callAt) L.now) := by
    rw [rearm, hL.renewable.running, hL.renewable.opened]
    rfl
  have hahead : L.now + 48 ≤ callAt := heq ▸ le_renewalTime M.interval L.now result
  have hnext := nextCallAt_le hahead
  have hmargin := margin_of_le B hwindow
  have hlatest : L.now + 40 ≤ nextCallAt (some callAt) L.now :=
    le_nextCallAt fun time htime => Option.some.inj htime ▸ hahead
  obtain ⟨h, hdue⟩ := dueAt_scheduleSubscriptionRenew L.manager (nextCallAt (some callAt) L.now)
  rw [hk result callAt L.manager hcall, hrearm]
  refine ⟨.resting h _ hdue (fun i hi => ?_) rfl ?_ ?_, hL.renewable.scheduleSubscriptionRenew _,
    scheduleSubscriptionRenew_milestones _ _,
    (scheduleSubscriptionRenew_cancelRequested _ _).trans hL.notCancelled⟩
  · -- the task that ended was the only one
    have hold : L.system.Unfinished .background i :=
      Pool.unfinished_set (u := ⟨.background, .done (.ok ())⟩) htask hst rfl hi
    have hself := hL.inv.recorded t ⟨_, htask, rfl, hst⟩
    have hsame : i = t := Option.some.inj ((hL.inv.recorded i hold).symm.trans hself)
    exact unfinished_of_set htask rfl hi rfl hsame
  · show (scheduleSubscriptionRenew _ L.manager).held.loopTime ≤ _
    rw [scheduleSubscriptionRenew_held]
    have hnow : L.manager.held.loopTime = L.now := rfl
    have hlatency := B.latency_nonneg
    linarith
  · show nextCallAt (some callAt) L.now + B.latency + 4 * B.response ≤ L.since + window M result
    have hcallAt : callAt = L.now
      + max (window M result) MINIMUM_SUBSCRIPTION_SECONDS * RENEWAL_PERCENTAGE := heq
    linarith

/-- A segment of the task in progress. -/
theorem Phase.answer (hL : Leasing M B sid L) {t : TaskId} {c : (managerInterface I).Call}
    {r : Except Exc ((managerInterface I).Answer c)}
    (hstep : step M L.system (.answer t c r) = some S)
    (hobliging : Obliging M B L (.answer t c r)) :
    Phase M B sid (L.note M S (.answer t c r)) ∧ Renewable M sid S.shared ∧
      S.shared.milestones = L.manager.milestones ∧ S.shared.cancelRequested = [] := by
  obtain ⟨hmay, hresume⟩ := step_answer.mp hstep
  obtain ⟨kind, k, htask, rfl⟩ := Pool.resume_eq_some.mp hresume
  have hdeliver : deliverCancel t L.system.shared = L.manager :=
    deliverCancel_of_none hL.notCancelled t
  have hbackground := hL.alone kind t ⟨_, htask, rfl, rfl⟩
  subst hbackground
  have hunfinished : L.system.Unfinished .background t := ⟨_, htask, rfl, rfl⟩
  cases hL.phase with
  | resting h time hdue hnone => exact (hnone t hunfinished).elim
  | renewing t' n f st htask' hwaits hfailures htimer hlate hspare =>
    have hself := hL.inv.recorded t' ⟨_, htask', rfl, hwaits.isSome_pending⟩
    obtain rfl : t = t' := Option.some.inj ((hL.inv.recorded t hunfinished).symm.trans hself)
    obtain rfl : st = .waiting c k := by
      have hsame := Option.some.inj (htask'.symm.trans htask)
      exact congrArg Task.status hsame
    simp only [Pool.update, hdeliver]
    have hrenewable := hL.renewable
    cases hwaits with
    | begin k hsame hnext =>
      have hnot : t ∉ L.system.shared.cancelRequested := by
        rw [show L.system.shared.cancelRequested = [] from hL.notCancelled]
        exact List.not_mem_nil
      rw [mayAnswer, if_neg hnot] at hmay
      obtain ⟨⟨⟩, rfl⟩ := hmay rfl
      rw [hsame _ hrenewable]
      exact ⟨.goOn hlate hspare rfl hfailures htimer htask' (hnext _ hrenewable), hrenewable, rfl,
        hL.notCancelled⟩
    | firstRenew time k hk hsame hnext =>
      cases r with
      | ok result =>
        obtain ⟨hschedulable, hwindow⟩ := hobliging
        exact Phase.extend hk hL hlate htask' rfl hschedulable hwindow
      | error e =>
        obtain ⟨he, -⟩ := hobliging
        rw [hsame e _ he]
        exact ⟨.goOn hlate hspare rfl (congrArg Nat.succ hfailures) htimer htask' (hnext e _ he),
          hrenewable, rfl, hL.notCancelled⟩
    | backoff k hsame hnext =>
      cases r with
      | error e => exact hobliging.elim
      | ok a =>
        rw [hsame _ hrenewable]
        exact ⟨.goOn hlate hspare rfl hfailures htimer htask' (hnext _ hrenewable), hrenewable, rfl,
          hL.notCancelled⟩
    | lastRenew time k hk =>
      cases r with
      | ok result =>
        obtain ⟨hschedulable, hwindow⟩ := hobliging
        exact Phase.extend hk hL hlate htask' rfl hschedulable hwindow
      | error e => exact absurd (hfailures.symm.trans hobliging.2) one_ne_zero

omit [DecidableEq I.Call] in
/-- Time passes and the surroundings change, within the bounds. -/
theorem Phase.environment (hL : Leasing M B sid L) {device : δ} {loopTime : ℚ} {raises : Option Exc}
    (hontime : OnTime M B ⟨L.system.update (surround device loopTime raises), L.since, L.expiry,
      L.failures⟩) :
    Phase M B sid
      ⟨L.system.update (surround device loopTime raises), L.since, L.expiry, L.failures⟩ := by
  cases hL.phase with
  | resting h time hdue hnone hfailures hlate hspare =>
    have hlate' := hontime.timer _ (List.mem_of_getElem? hdue) rfl
    exact .resting h time hdue hnone hfailures hlate' hspare
  | renewing t n f st htask hwaits hfailures htimer hlate hspare =>
    have hunfinished : L.system.Unfinished .background t := ⟨_, htask, rfl, hwaits.isSome_pending⟩
    have hbusy := List.ne_nil_of_mem (Pool.mem_unfinished.mpr hunfinished)
    exact .renewing t n f st htask hwaits hfailures htimer (hontime.answers hbusy) hspare

/-- **Every step** in time keeps the lease alive, and the manager reports no loss. -/
theorem leasing_step (hL : Leasing M B sid L) {a : Action I δ} (hstep : leasedStep M L a = some L')
    (hterms : InTerms M B L a L') :
    Leasing M B sid L' ∧ L'.manager.milestones = L.manager.milestones := by
  obtain ⟨S, hS, rfl⟩ := Option.map_eq_some_iff.mp hstep
  obtain ⟨hobliging, hontime⟩ := hterms
  have hinv := systemInv_step hL.inv hS
  cases a with
  | start => exact hobliging.elim
  | pause => exact hobliging.elim
  | resume => exact hobliging.elim
  | stop => exact hobliging.elim
  | shutdown => exact hobliging.elim
  | fire h =>
    obtain ⟨hlive, rfl⟩ := step_fire.mp hS
    have hphase := Phase.fire hL hlive
    rw [runRestartOrRenew_fireTimer hL hlive] at hinv ⊢
    have hrenewable : Renewable M sid (recordTask L.system.tasks.length (fireTimer h L.manager)) :=
      ⟨hL.renewable.running, hL.renewable.subscribed, hL.renewable.opened, hL.renewable.asked⟩
    refine ⟨⟨hinv, hrenewable, hL.notCancelled, fun kind t ht => ?_, hphase⟩, rfl⟩
    rcases Pool.unfinished_append.mp ht with ht | ⟨-, hkind, -⟩
    · exact hL.alone kind t ht
    · exact hkind.symm
  | answer t c r =>
    obtain ⟨hphase, hrenewable, hmilestones, hcancel⟩ := Phase.answer hL hS hobliging
    have hsystem := Leased.note_system (M := M) L S (.answer t c r)
    refine ⟨⟨?_, ?_, ?_, fun kind i hi => ?_, hphase⟩, ?_⟩
    · rw [hsystem]
      exact hinv
    · rw [Leased.manager, hsystem]
      exact hrenewable
    · rw [Leased.manager, hsystem]
      exact hcancel
    · rw [hsystem] at hi
      exact hL.alone kind i (unfinished_of_answer hL.inv.sound hS hi)
    · rw [Leased.manager, hsystem]
      exact hmilestones
  | environment device loopTime raises =>
    obtain ⟨-, rfl⟩ := step_environment.mp hS
    have hrenewable : Renewable M sid (surround device loopTime raises L.manager) :=
      ⟨hL.renewable.running, hL.renewable.subscribed, hontime.opened, hontime.asked⟩
    exact ⟨⟨hinv, hrenewable, hL.notCancelled, hL.alone, .environment hL hontime⟩, rfl⟩

/-- A manager between two renewals, whose timer is early enough for the lease. -/
structure Resting (M : ManagerClass δ I) (B : Bounds) (sid : ServiceId) (L : Leased I δ) :
    Prop where
  inv : SystemInv M L.system
  renewable : Renewable M sid L.manager
  notCancelled : L.manager.cancelRequested = []
  idle : ∀ kind t, ¬L.system.Unfinished kind t
  noFailure : L.failures = 0
  due : ∃ h time, DueAt L.manager h time ∧ L.now ≤ time + B.latency ∧
    time + B.latency + 4 * B.response ≤ L.expiry

omit [DecidableEq I.Call] in
theorem Resting.leasing (h : Resting M B sid L) : Leasing M B sid L := by
  obtain ⟨i, time, hdue, hlate, hspare⟩ := h.due
  exact ⟨h.inv, h.renewable, h.notCancelled, fun kind t ht => (h.idle kind t ht).elim,
    .resting i time hdue (h.idle .background) h.noFailure hlate hspare⟩

/-- **The subscription never lapses**: from a manager between two renewals, whatever the order of
the steps and however often the subscription was renewed, the lease has not ended, the manager has
the same subscription, and has neither reported a loss nor attempted a restart. -/
theorem subscription_never_lapses (M : ManagerClass δ I) (B : Bounds) (sid : ServiceId)
    (L L' : Leased I δ) (hresting : Resting M B sid L) (actions : List (Action I δ))
    (hterms : Runs.Along (leasedStep M) (InTerms M B) L actions)
    (hrun : Runs.run (leasedStep M) L actions = some L') :
    L'.now ≤ L'.expiry ∧ L'.manager.held.subscription = some sid ∧
      L'.manager.milestones = L.manager.milestones := by
  have hstep : ∀ (L₁ : Leased I δ) (a : Action I δ) (L₂ : Leased I δ),
      (Leasing M B sid L₁ ∧ L₁.manager.milestones = L.manager.milestones) →
      leasedStep M L₁ a = some L₂ → InTerms M B L₁ a L₂ →
      Leasing M B sid L₂ ∧ L₂.manager.milestones = L.manager.milestones := by
    rintro L₁ a L₂ ⟨hL, hsame⟩ hs hin
    obtain ⟨hL₂, hmilestones⟩ := leasing_step hL hs hin
    exact ⟨hL₂, hmilestones.trans hsame⟩
  obtain ⟨hleasing, hmilestones⟩ := Runs.run_invariant hstep ⟨hresting.leasing, rfl⟩ hterms hrun
  exact ⟨hleasing.phase.now_le_expiry, hleasing.renewable.subscribed, hmilestones⟩

end Steps

/-! ### A run with a lost connection -/

/-- A manager that asks for five minutes. -/
def fiveMinutes : ManagerClass Bool noCalls :=
  { localManager with interval := TimeDelta.ofSeconds 300 }

/-- Ten seconds late at most. -/
def tenSeconds : Bounds where
  latency := 10
  response := 10
  minimum := 300
  latency_nonneg := by norm_num
  response_nonneg := by norm_num
  margin := by
    rw [MINIMUM_SUBSCRIPTION_SECONDS, RENEWAL_PERCENTAGE]
    norm_num

/-- The manager once `start()` returned. -/
def startedLease : Leased noCalls Bool where
  system := ((init false 0 : System noCalls Bool).start .start
    (BaseManager.start fiveMinutes >>= fun _ => pure ()))
  since := 0
  expiry := 300
  failures := 0

/-- The first attempt of the renewal loses the connection, the second succeeds. -/
def renewal : List (Action noCalls Bool) :=
  [.environment false 50 none, .fire 0, .answer 1 .begin (.ok ()),
    .answer 1 (.renew 0 "PT60S") (.error (.client .serverDisconnectedError "Server disconnected")),
    .environment false 55 none, .answer 1 (.sleep BACKOFF_TIME) (.ok ()),
    .answer 1 (.renew 0 "PT60S") (.ok ⟨none, none⟩), .environment false 300 none]

theorem resting_startedLease : Resting fiveMinutes tenSeconds 0 startedLease where
  inv := systemInv_step (M := fiveMinutes) (systemInv_init false 0) (a := .start) rfl
  renewable := ⟨rfl, rfl, rfl, rfl⟩
  notCancelled := rfl
  idle kind t := by
    rintro ⟨u, hu, -, hpending⟩
    cases t with
    | zero =>
      rw [← Option.some.inj hu] at hpending
      cases hpending
    | succ t => cases hu
  noFailure := rfl
  due := ⟨0, 0 + 48, rfl, by decide +kernel, by decide +kernel⟩

theorem subscription_never_lapses_retried :
    ∃ L, Runs.run (leasedStep fiveMinutes) startedLease renewal = some L ∧
      L.now ≤ L.expiry ∧ L.manager.held.subscription = some 0 ∧ L.manager.milestones = [] := by
  have hall : (Runs.run (leasedStep fiveMinutes) startedLease renewal).isSome := by decide +kernel
  obtain ⟨L, hrun⟩ := Option.isSome_iff_exists.mp hall
  exact ⟨L, hrun, subscription_never_lapses fiveMinutes tenSeconds 0 startedLease L
    resting_startedLease renewal (by decide +kernel) hrun⟩

end SubscriptionLease

end Onvif
