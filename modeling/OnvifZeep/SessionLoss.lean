/-
The end of the renewal loop when the consumer closes the session.

The manager does not own the session.  Once that is closed the guard at the start of a renewal task
and the one in its `finally` block end the loop: no timer is armed any more, and a renewal task
created later ends in its first step.

* **`Unarmed`** — no timer was armed; `follows_task` shows which segments are so, for every
  `_start()`;
* **`Closing`** — the state of a manager since the session was closed, kept by every step but
  `start()` and `resume()`;
* **`session_loss_ends_renewals`** — whole runs: the timer fires at most once more, and the renewal
  task this creates sends nothing.
-/
import OnvifZeep.ManagerLoop
import OnvifZeep.RenewalTimer

namespace Onvif

open Coro BaseManager Onvif.System

namespace SessionLoss

variable {δ : Type} {I : Interface} {M : ManagerClass δ I} {m m' m'' : BaseManager δ}

/-! ### Segments that arm no timer -/

/-- From `m` to `m'` no timer was armed. -/
def Unarmed (m m' : BaseManager δ) : Prop := ∀ h, m'.isLive h → m.isLive h

theorem Unarmed.refl (m : BaseManager δ) : Unarmed m m := fun _ => id

theorem Unarmed.trans (h : Unarmed m m') (h' : Unarmed m' m'') : Unarmed m m'' :=
  fun i hi => h i (h' i hi)

theorem Unarmed.of_timers (h : m'.timers = m.timers) : Unarmed m m' := by
  intro i hi
  rwa [isLive, ← h]

theorem Unarmed.cancelRenewals (m : BaseManager δ) : Unarmed m m.cancelRenewals := by
  intro i hi
  rw [BaseManager.cancelRenewals] at hi
  cases hrec : m.cancelSubscriptionRenew with
  | none =>
    rw [hrec] at hi
    exact hi
  | some h =>
    rw [hrec] at hi
    simp only [isLive, List.getElem?_modify] at hi ⊢
    cases hget : m.timers[i]? with
    | none => simp [hget] at hi
    | some t =>
      by_cases heq : h = i
      · simp [hget, heq] at hi
      · simpa [hget, heq] using hi

theorem unarmed_fireTimer (m : BaseManager δ) (h : ℕ) : Unarmed m (fireTimer h m) := by
  intro i hi
  simp only [isLive, fireTimer, List.getElem?_modify] at hi ⊢
  cases hget : m.timers[i]? with
  | none => simp [hget] at hi
  | some t =>
    by_cases heq : h = i
    · simp [hget, heq] at hi
    · simpa [hget, heq] using hi

/-- Which segments of a task arm no timer: those that stop in a call, those of `stop()` and
`shutdown()`, and the last one of a renewal task when the session is closed by then. -/
def unarmedMoves (M : ManagerClass δ I) (kind : Kind) (m : BaseManager δ) :
    ManagerStop I → BaseManager δ → Prop
  | .waiting _, m' => Unarmed m m'
  | .finished _, m' =>
    match kind with
    | .start => True
    | .background => m'.sessionClosed M = true → Unarmed m m'
    | .stop | .shutdown => Unarmed m m'

/-- The state may change in any way between two segments, and any answer is possible. -/
def armingOutline (M : ManagerClass δ I) :
    Outline Kind (managerInterface I) Exc (BaseManager δ) where
  holds _ _ _ := True
  rely _ _ := True
  rely_refl _ := trivial
  rely_trans _ _ := trivial
  answers _ _ _ := True
  moves kind _ := unarmedMoves M kind
  returns _ _ := True

/-- Since the segment began, no timer was armed. -/
def UnarmedSince (g : Option (ManagerResumption I) × BaseManager δ) (m : BaseManager δ) : Prop :=
  Unarmed g.2 m

theorem unarmedSince_of_resume {kind : Kind} {g g' : Option (ManagerResumption I) × BaseManager δ}
    {c : (managerInterface I).Call} {r : Except Exc ((managerInterface I).Answer c)}
    (h : ((armingOutline M).contract kind).resume g c m r g' m') : UnarmedSince g' m' := by
  obtain ⟨-, -, -, rfl⟩ := h
  exact .refl m'

theorem preserves_call_arming {kind : Kind} (c : (managerInterface I).Call) :
    Preserves ((armingOutline M).contract kind) UnarmedSince
      (call (I := managerInterface I) (ε := Exc) c) :=
  .call (fun _ _ h => ⟨h, trivial⟩) fun _ _ _ _ _ _ hr => unarmedSince_of_resume hr

/-- `_start()` arms no timer, whatever it does: it works on other fields. -/
theorem preserves_innerStart_arming {kind : Kind} :
    Preserves ((armingOutline M).contract kind) UnarmedSince (innerStart M) := by
  intro g m h
  refine wp_zoom_frame UnarmedSince (fun g t s ht => ?_) (fun g c t ht => ?_)
    (fun _ _ _ _ _ _ _ hr => unarmedSince_of_resume hr) (fun _ _ _ ht => ht) M.start h
  · exact Unarmed.trans ht (.of_timers rfl)
  · exact ⟨ht, trivial⟩

theorem preserves_renewOrRestartBody_arming :
    Preserves ((armingOutline M).contract .background) UnarmedSince (renewOrRestartBody M) := by
  have hrestart : Preserves ((armingOutline M).contract .background) UnarmedSince
      (restartSubscription M) :=
    .bind (.modifyState fun _ m h => (Unarmed.trans h (.cancelRenewals m)).trans (.of_timers rfl))
      fun _ => preserves_innerStart_arming
  refine .bind (preserves_renewSubscription (fun c _ => preserves_call_arming c)
    fun _ _ h => Unarmed.trans h (.of_timers rfl)) fun o => ?_
  cases o with
  | some time => exact .pure (some time)
  | none =>
    refine .tryExcept (.bind hrestart fun time => .pure (some time)) fun e => ?_
    by_cases he : e.oneOf renewErrors = true
    · rw [if_pos he]
      exact .bind (.ofExcept _) fun _ => .pure none
    · rw [if_neg he]
      exact .raise e

/-- The `finally` block arms no timer once the session is closed. -/
theorem unarmed_rearm (h : Unarmed m m') (o : Option ℚ)
    (hclosed : (rearm M o m').sessionClosed M = true) : Unarmed m (rearm M o m') := by
  rw [rearm] at hclosed ⊢
  by_cases hover : (!m'.shutdown && !m'.sessionClosed M) = true
  · rw [if_pos hover] at hclosed
    simp only [Bool.and_eq_true, Bool.not_eq_true'] at hover
    have hsame : (m'.scheduleSubscriptionRenew (nextCallAt o m'.held.loopTime)).sessionClosed M
        = m'.sessionClosed M := by
      rw [sessionClosed, scheduleSubscriptionRenew_held]
      rfl
    rw [hsame, hover.2] at hclosed
    cases hclosed
  · rwa [if_neg hover]

theorem follows_background_arming (m : BaseManager δ) :
    (armingOutline M).Follows .background (background M) none m := by
  rw [Outline.Follows, background, wp_bind]
  refine (wp_call _).mpr ⟨⟨Unarmed.refl m, trivial⟩, ?_⟩
  rintro r _ m' ⟨-, -, -, rfl⟩
  cases r with
  | error e => exact ⟨fun _ => .refl m', trivial⟩
  | ok a =>
    rw [ends_ok, renewOrRestartSubscription, wp_bind, wp_getState, ends_ok]
    by_cases hm : (m'.shutdown || m'.sessionClosed M) = true
    · rw [if_pos hm]
      exact ⟨fun _ => .refl m', trivial⟩
    · rw [if_neg hm, wp_bind, wp_tryFinally]
      refine wp_mono (fun r g n hr => ?_) (preserves_renewOrRestartBody_arming _ _ (.refl m'))
      rw [wp_modifyState, ends_ok]
      cases r with
      | ok o => exact ⟨unarmed_rearm hr o, trivial⟩
      | error e => exact ⟨unarmed_rearm hr none, trivial⟩

theorem follows_start_arming (m : BaseManager δ) :
    (armingOutline M).Follows .start (BaseManager.start M >>= fun _ => pure ()) none m := by
  rw [Outline.Follows, BaseManager.start]
  simp only [wp_bind]
  refine wp_mono (fun r g m' hr => ?_) (preserves_innerStart_arming (none, m) m (.refl m))
  cases r with
  | ok time => exact ⟨trivial, trivial⟩
  | error e => exact ⟨trivial, trivial⟩

/-- `stop()` and what `shutdown()` does after setting its flag. -/
theorem wp_stop_arming {kind : Kind} (hkind : kind = .stop ∨ kind = .shutdown) {m₀ : BaseManager δ}
    (h : Unarmed m₀ m) :
    wp ((armingOutline M).contract kind) ((armingOutline M).post kind) stop (none, m₀) m := by
  refine wp_mono (fun r g m' hr => ?_) (preserves_stop (fun c => preserves_call_arming c)
    (fun _ m h => Unarmed.trans h (.cancelRenewals m)) (none, m₀) m h)
  rcases hkind with rfl | rfl
  · exact ⟨hr, trivial⟩
  · exact ⟨hr, trivial⟩

theorem follows_stop_arming (m : BaseManager δ) :
    (armingOutline M).Follows .stop stop none m := wp_stop_arming (Or.inl rfl) (.refl m)

theorem follows_shutdown_arming (m : BaseManager δ) :
    (armingOutline M).Follows .shutdown shutdownManager none m := by
  rw [Outline.Follows, shutdownManager, wp_bind, wp_modifyState, ends_ok]
  exact wp_stop_arming (Or.inr rfl) (.of_timers rfl)

/-- The first segment of `stop()` or `shutdown()`. -/
theorem unarmed_of_follows {kind : Kind} (hkind : kind = .stop ∨ kind = .shutdown)
    {x : ManagerCoro I δ Unit} (h : (armingOutline M).Follows kind x none m) :
    Unarmed m (x.run m).1 := by
  have hmoves : unarmedMoves M kind m (x.run m).2.stop (x.run m).1 := h.segment.1
  rcases hstop : (x.run m).2.stop with r | c
  · rw [hstop] at hmoves
    rcases hkind with rfl | rfl
    · exact hmoves
    · exact hmoves
  · rw [hstop] at hmoves
    exact hmoves

section Steps

variable [DecidableEq I.Call] {S S₀ S' : System I δ}

theorem sound_step (h : S.Sound (armingOutline M)) {a : Action I δ} (hstep : step M S a = some S') :
    S'.Sound (armingOutline M) := by
  have hupdate : ∀ (S : System I δ) (f : BaseManager δ → BaseManager δ),
      S.Sound (armingOutline M) → (S.update f).Sound (armingOutline M) :=
    fun S f hS u hu => (hS u hu).frame trivial fun _ _ hc => hc
  cases a with
  | start =>
    rw [← Option.some.inj hstep]
    exact Pool.start_sound h (follows_start_arming _) trivial fun _ _ _ _ hc => hc
  | pause =>
    rw [← Option.some.inj hstep]
    exact hupdate S _ h
  | resume =>
    rw [← Option.some.inj hstep]
    exact hupdate S _ h
  | stop =>
    rw [← Option.some.inj hstep]
    exact Pool.start_sound h (follows_stop_arming _) trivial fun _ _ _ _ hc => hc
  | shutdown =>
    rw [← Option.some.inj hstep]
    exact Pool.start_sound h (follows_shutdown_arming _) trivial fun _ _ _ _ hc => hc
  | fire i =>
    obtain ⟨-, rfl⟩ := step_fire.mp hstep
    rw [System.runRestartOrRenew]
    split_ifs
    · exact hupdate S _ h
    · exact hupdate _ _ (Pool.start_sound (hupdate S _ h) (follows_background_arming _) trivial
        fun _ _ _ _ hc => hc)
  | answer t c r =>
    obtain ⟨-, hresume⟩ := step_answer.mp hstep
    exact Pool.resume_sound (hupdate S _ h) hresume (fun _ _ => trivial) trivial
      fun _ _ _ _ _ _ hc => hc
  | environment device loopTime raises =>
    obtain ⟨-, rfl⟩ := step_environment.mp hstep
    exact hupdate S _ h

omit [DecidableEq I.Call] in
theorem sound_init (device : δ) (loopTime : ℚ) :
    (init device loopTime : System I δ).Sound (armingOutline M) :=
  fun _ h => absurd h List.not_mem_nil

/-! ### After the session was closed -/

/-- A renewal task that has ended or not begun. -/
def Fresh (M : ManagerClass δ I) (u : Task Kind (managerInterface I) Exc (BaseManager δ)) : Prop :=
  u.pending = none ∨ ∀ m : BaseManager δ, u.status = ((background M).run m).2

/-- The state since `S₀`, when the session was closed: no timer was armed, no `start()` is in
progress, and the renewal tasks created since have done nothing. -/
structure Closing (M : ManagerClass δ I) (S₀ S : System I δ) : Prop where
  inv : SystemInv M S
  sound : S.Sound (armingOutline M)
  closed : S.shared.sessionClosed M = true
  unarmed : Unarmed S₀.shared S.shared
  noStart : ∀ t, ¬S.Unfinished .start t
  created : S₀.tasks.length ≤ S.tasks.length
  fresh : ∀ t u, S₀.tasks.length ≤ t → S.tasks[t]? = some u → u.kind = .background → Fresh M u

omit [DecidableEq I.Call] in
theorem Closing.refl (hinv : SystemInv M S) (hsound : S.Sound (armingOutline M))
    (hclosed : S.shared.sessionClosed M = true) (hnoStart : ∀ t, ¬S.Unfinished .start t) :
    Closing M S S where
  inv := hinv
  sound := hsound
  closed := hclosed
  unarmed := .refl _
  noStart := hnoStart
  created := le_rfl
  fresh t u ht hu := by
    rw [List.getElem?_eq_none ht] at hu
    cases hu

omit [DecidableEq I.Call] in
theorem Closing.now (h : Closing M S₀ S) : Closing M S S :=
  .refl h.inv h.sound h.closed h.noStart

omit [DecidableEq I.Call] in
/-- The first step of a renewal task on a closed session is its last, and changes nothing. -/
theorem run_first_step_closed (hclosed : m.sessionClosed M = true) (r : Except Exc Unit) :
    ∃ r', (ofExcept r >>= fun _ => renewOrRestartSubscription M).run m
      = (m, Status.done r') := by
  cases r with
  | error e => exact ⟨.error e, rfl⟩
  | ok a =>
    refine ⟨.ok (), ?_⟩
    show (if (m.shutdown || m.sessionClosed M) = true then _ else _ : ManagerCoro I δ Unit).run m = _
    rw [hclosed, Bool.or_true, if_pos rfl]
    rfl

omit [DecidableEq I.Call] in
theorem Closing.update (h : Closing M S₀ S) {f : BaseManager δ → BaseManager δ}
    (hinv : SystemInv M (S.update f)) (hsound : (S.update f).Sound (armingOutline M))
    (hclosed : (f S.shared).sessionClosed M = true) (hf : Unarmed S.shared (f S.shared)) :
    Closing M S₀ (S.update f) :=
  ⟨hinv, hsound, hclosed, h.unarmed.trans hf, h.noStart, h.created, h.fresh⟩

omit [DecidableEq I.Call] in
theorem Closing.spawn (h : Closing M S₀ S) {kind : Kind} {x : ManagerCoro I δ Unit}
    (hinv : SystemInv M (S.start kind x)) (hsound : (S.start kind x).Sound (armingOutline M))
    (hclosed : (S.start kind x).shared.sessionClosed M = true)
    (hx : Unarmed S.shared (S.start kind x).shared) (hstart : Kind.start ≠ kind)
    (hfresh : kind = .background → Fresh M ⟨kind, (x.run S.shared).2⟩) :
    Closing M S₀ (S.start kind x) := by
  refine ⟨hinv, hsound, hclosed, h.unarmed.trans hx, fun t ht => ?_, ?_, fun t u ht hu hk => ?_⟩
  · exact h.noStart t (Pool.unfinished_of_start hstart ht)
  · exact h.created.trans (by simp [Pool.start])
  · rcases Pool.getElem?_concat_eq_some.mp hu with hu | ⟨-, rfl⟩
    · exact h.fresh t u ht hu hk
    · exact hfresh hk

/-- A segment of a task, while the session is closed. -/
theorem Closing.answer (h : Closing M S₀ S) {t : TaskId} {c : (managerInterface I).Call}
    {r : Except Exc ((managerInterface I).Answer c)} (hstep : step M S (.answer t c r) = some S')
    (hclosed : S'.shared.sessionClosed M = true) : Closing M S₀ S' := by
  have hinv := systemInv_step h.inv hstep
  have hsound := sound_step h.sound hstep
  obtain ⟨-, hresume⟩ := step_answer.mp hstep
  have hdelivered : (S.update (deliverCancel t)).Sound (armingOutline M) :=
    fun u hu => (h.sound u hu).frame trivial fun _ _ hc => hc
  obtain ⟨kind, k, htask, rfl⟩ := Pool.resume_eq_some.mp hresume
  have hmoves : unarmedMoves M kind S.shared ((k r).run (deliverCancel t S.shared)).2.stop
      ((k r).run (deliverCancel t S.shared)).1 :=
    ((hdelivered _ (List.mem_of_getElem? htask)).2 r _ trivial trivial trivial).segment.1
  have hunarmed : Unarmed S.shared ((k r).run (deliverCancel t S.shared)).1 := by
    rcases hstop : ((k r).run (deliverCancel t S.shared)).2.stop with r' | c'
    · rw [hstop] at hmoves
      cases kind with
      | start => exact (h.noStart t ⟨_, htask, rfl, rfl⟩).elim
      | background => exact hmoves hclosed
      | stop => exact hmoves
      | shutdown => exact hmoves
    · rw [hstop] at hmoves
      exact hmoves
  refine ⟨hinv, hsound, hclosed, h.unarmed.trans hunarmed,
    fun i hi => h.noStart i (unfinished_of_answer h.inv.sound hstep hi), ?_, fun i v hi hv hk => ?_⟩
  · simpa [Pool.update] using h.created
  · rcases Pool.getElem?_set_eq_some hv with ⟨rfl, rfl⟩ | ⟨-, hv⟩
    · -- a renewal task created since ends in its first step
      obtain rfl : kind = .background := hk
      rcases h.fresh i _ hi htask rfl with hnone | hbegin
      · cases hnone
      · have hstatus : Status.waiting c k = ((background M).run S.shared).2 := hbegin S.shared
        cases hstatus
        obtain ⟨r', hrun⟩ := run_first_step_closed (M := M) (m := deliverCancel i S.shared)
          h.closed r
        exact Or.inl (congrArg (fun p => p.2.stop.pending) hrun)
    · exact h.fresh i v hi hv hk

/-- **One step** while the session is closed: only `start()` and `resume()` can arm a timer. -/
theorem closing_step (h : Closing M S₀ S) {a : Action I δ} (hstep : step M S a = some S')
    (ha : ¬a.Arming) (hclosed : S'.shared.sessionClosed M = true) : Closing M S₀ S' := by
  have hinv := systemInv_step h.inv hstep
  have hsound := sound_step h.sound hstep
  cases a with
  | start => exact (ha trivial).elim
  | resume => exact (ha trivial).elim
  | pause =>
    obtain rfl := Option.some.inj hstep
    exact h.update hinv hsound hclosed (.cancelRenewals _)
  | stop =>
    obtain rfl := Option.some.inj hstep
    exact h.spawn hinv hsound hclosed
      (unarmed_of_follows (M := M) (Or.inl rfl) (follows_stop_arming _)) (by decide)
      fun hk => by cases hk
  | shutdown =>
    obtain rfl := Option.some.inj hstep
    exact h.spawn hinv hsound hclosed
      (unarmed_of_follows (M := M) (Or.inr rfl) (follows_shutdown_arming _)) (by decide)
      fun hk => by cases hk
  | fire i =>
    obtain ⟨-, rfl⟩ := step_fire.mp hstep
    have hfired : Unarmed S₀.shared (fireTimer i S.shared) :=
      h.unarmed.trans (unarmed_fireTimer _ i)
    rw [System.runRestartOrRenew] at hinv hsound hclosed ⊢
    split_ifs at hinv hsound hclosed ⊢
    · exact ⟨hinv, hsound, hclosed, hfired, h.noStart, h.created, h.fresh⟩
    · -- the renewal task created stops before its first step
      refine ⟨hinv, hsound, hclosed, hfired, fun t ht => ?_, ?_, fun t u ht hu hk => ?_⟩
      · rcases Pool.unfinished_append.mp ht with ht | ⟨-, hk, -⟩
        · exact h.noStart t ht
        · cases hk
      · exact h.created.trans (by simp [Pool.start, Pool.update])
      · rcases Pool.getElem?_concat_eq_some.mp hu with hu | ⟨-, rfl⟩
        · exact h.fresh t u ht hu hk
        · exact Or.inr fun _ => rfl
  | answer t c r => exact h.answer hstep hclosed
  | environment device loopTime raises =>
    obtain ⟨-, rfl⟩ := step_environment.mp hstep
    exact h.update hinv hsound hclosed (.of_timers rfl)

/-! ### Whole runs -/

def isFire : Action I δ → Bool
  | .fire _ => true
  | _ => false

omit [DecidableEq I.Call] in
/-- Firing the only live timer leaves none. -/
theorem noLiveTimer_of_fire (hinv : SystemInv M S) {i : ℕ} (hlive : S.shared.isLive i) :
    (fireTimer i S.shared).NoLiveTimer := by
  intro h hh
  have hrecorded := hinv.timerInv h (unarmed_fireTimer _ i h hh)
  obtain rfl : i = h := Option.some.inj ((hinv.timerInv i hlive).symm.trans hrecorded)
  simp only [isLive, fireTimer, List.getElem?_modify] at hh
  cases hget : S.shared.timers[i]? with
  | none => simp [hget] at hh
  | some t => simp [hget] at hh

/-- While the session is closed the timer fires at most once. -/
theorem countP_isFire_le_one (h : Closing M S S) {actions : List (Action I δ)}
    (hrun : run M S actions = some S')
    (hR : Runs.Along (step M) (fun _ a S' => ¬a.Arming ∧ S'.shared.sessionClosed M = true) S
      actions) : actions.countP isFire ≤ 1 := by
  let fired (_ : System I δ) (a : Action I δ) : Option Unit := if isFire a then some () else none
  have hinv : ∀ (S : System I δ) a S', Closing M S S → step M S a = some S' →
      (¬a.Arming ∧ S'.shared.sessionClosed M = true) → Closing M S' S' :=
    fun S a S' hS hstep hR => (closing_step hS hstep hR.1 hR.2).now
  have hkeep : ∀ (S : System I δ) a S', Closing M S S → step M S a = some S' →
      (¬a.Arming ∧ S'.shared.sessionClosed M = true) → S.shared.NoLiveTimer →
      S'.shared.NoLiveTimer :=
    fun S a S' hS hstep hR hnone i hi => hnone i ((closing_step hS hstep hR.1 hR.2).unarmed i hi)
  have hyield : ∀ (S : System I δ) a S', Closing M S S → step M S a = some S' →
      (¬a.Arming ∧ S'.shared.sessionClosed M = true) → fired S a = some () →
      ¬S.shared.NoLiveTimer ∧ S'.shared.NoLiveTimer := by
    intro S a S' hS hstep hR hfired
    cases a with
    | fire i =>
      obtain ⟨hlive, hfire⟩ := step_fire.mp hstep
      refine ⟨fun hnone => hnone i hlive, ?_⟩
      have hnone := noLiveTimer_of_fire hS.inv hlive
      rw [← hfire, System.runRestartOrRenew]
      split_ifs
      · exact hnone
      · exact hnone
    | _ => cases hfired
  have hcollect := Runs.count_collect_le_one hinv hkeep hyield h hR
  rw [Runs.collect_eq_filterMap hrun] at hcollect
  refine le_trans (le_of_eq ?_) hcollect
  have hunits : ∀ l : List Unit, l.count () = l.length :=
    fun l => List.count_eq_length.mpr fun _ _ => rfl
  rw [hunits, List.length_filterMap_eq_countP]
  refine List.countP_congr fun a _ => ?_
  cases isFire a <;> simp

/-- **The end of the renewal loop**: once the session is closed, and stays so, no timer is armed
until `start()` or `resume()` is called, the one that is live fires at most once, the renewal tasks
created send nothing, and when those in flight have ended no `Renew` or subscribe request is in
flight. -/
theorem session_loss_ends_renewals (M : ManagerClass δ I) (device : δ) (loopTime : ℚ)
    (before : List (Action I δ)) (S : System I δ) (after : List (Action I δ)) (S' : System I δ)
    (hbefore : run M (init device loopTime) before = some S)
    (hreturned : S.unfinished .start = []) (hclosed : S.shared.sessionClosed M = true)
    (hafter : run M S after = some S')
    (hactions : Runs.Along (step M)
      (fun _ a S' => ¬a.Arming ∧ S'.shared.sessionClosed M = true) S after) :
    (∀ h ∈ S'.shared.liveTimers, h ∈ S.shared.liveTimers) ∧ after.countP isFire ≤ 1 ∧
    (∀ t u c, S.tasks.length ≤ t → S'.tasks[t]? = some u → u.kind = .background →
      u.pending = some c → c = .begin) ∧
    ((∀ t ∈ S'.unfinished .background, S.tasks.length ≤ t) → S'.requests = []) := by
  have hbegin : Closing M S S := by
    refine Closing.refl (systemInv_run (systemInv_init device loopTime) hbefore) ?_ hclosed
      (Pool.unfinished_eq_nil.mp hreturned)
    exact Runs.run_invariant_of_step (fun _ _ _ hS ha => sound_step hS ha)
      (sound_init device loopTime) hbefore
  have hend : Closing M S S' :=
    Runs.run_invariant (fun _ _ _ hS ha hR => closing_step hS ha hR.1 hR.2) hbegin hactions hafter
  have hcreated : ∀ t u c, S.tasks.length ≤ t → S'.tasks[t]? = some u → u.kind = .background →
      u.pending = some c → c = .begin := by
    intro t u c ht hu hk hpending
    rcases hend.fresh t u ht hu hk with hnone | hfresh
    · rw [hnone] at hpending
      cases hpending
    · rw [Task.pending, Task.stop, hfresh S.shared] at hpending
      exact (Option.some.inj hpending).symm
  refine ⟨fun h hh => ?_, countP_isFire_le_one hbegin hafter hactions, hcreated, fun hended => ?_⟩
  · exact mem_liveTimers.mpr (hend.unarmed h (mem_liveTimers.mp hh))
  · rw [requests, List.filter_eq_nil_iff]
    intro c hc
    obtain ⟨u, hu, hpending⟩ := List.mem_filterMap.mp hc
    obtain ⟨t, ht⟩ := List.mem_iff_getElem?.mp hu
    have hunfinished : S'.Unfinished u.kind t := ⟨u, ht, rfl, by simp [hpending]⟩
    have hcalls := (hend.inv.sound u hu).holds hpending
    cases hk : u.kind with
    | start => exact (hend.noStart t (hk ▸ hunfinished)).elim
    | background =>
      have hlate := hended t (Pool.mem_unfinished.mpr (hk ▸ hunfinished))
      obtain rfl := hcreated t u c hlate ht hk hpending
      exact Bool.false_ne_true
    | stop | shutdown =>
      rw [hk] at hcalls
      obtain ⟨sid, rfl⟩ := hcalls
      exact Bool.false_ne_true

end Steps

/-- The session is closed while the timer is live; it fires, and the renewal task ends. -/
theorem session_loss_ends_renewals_fired :
    ∃ S S', run localManager (init false 0) [.start, .environment true 0 none] = some S ∧
      run localManager S [.fire 0, .answer 1 .begin (.ok ())] = some S' ∧
      (∀ h ∈ S'.shared.liveTimers, h ∈ S.shared.liveTimers) ∧
      ((∀ t ∈ S'.unfinished .background, S.tasks.length ≤ t) → S'.requests = []) := by
  have hall := session_loss_ends_renewals localManager false 0
    [.start, .environment true 0 none] _ [.fire 0, .answer 1 .begin (.ok ())] _ rfl rfl rfl rfl
    (Runs.Along.cons rfl ⟨id, rfl⟩ (Runs.Along.cons rfl ⟨id, rfl⟩ trivial))
  exact ⟨_, _, rfl, rfl, hall.1, hall.2.2.2⟩

end SessionLoss

end Onvif
