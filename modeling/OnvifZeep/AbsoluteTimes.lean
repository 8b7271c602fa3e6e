/-
From relative to absolute termination times, for both managers of a camera.

A manager asks for a relative termination time until a reply to a subscribe request, with both
times and their zones, grants less than half of what was asked; the camera is then marked as having
broken relative timestamps, and its managers ask for absolute times.

* **`punctual`** — the contract of a manager's tasks: a time asked for is the camera's at that
  moment, and only such a reply marks the camera;
* **`wp_start`**, **`wp_background`**, **`wp_teardown`** — every task keeps it;
* **`asking_step`** — what one step asks for, and when it marks the camera;
* **`absolute_from_then_on`** — once a `_start()` completed on such a reply, neither manager asks
  for a relative time again.
-/
import OnvifZeep.SharedCamera

namespace Onvif

open Coro BaseManager ONVIFCamera Onvif.System

namespace AbsoluteTimes

open SharedCamera

variable {C : CameraConfig} {interval : TimeDelta} {k : ManagerKind} {rs : List SubscribeReply}
  {due : Prop} {g g' : Past} {m m' : CameraManager} {c : (managerInterface cameraInterface).Call}
  {r : Except Exc ((managerInterface cameraInterface).Answer c)}

/-- The termination time a call asks for. -/
def askedTime : (managerInterface cameraInterface).Call → Option String
  | .renew _ time => some time
  | .start (.createPullPointSubscription _ time) => some time
  | .start (.subscribe _ time _) => some time
  | .start (.renew _ time) => some time
  | .begin | .unsubscribe _ | .sleep _ | .start _ => none

/-- The camera of the manager is marked. -/
def marked (m : CameraManager) : Bool := m.held.device.hasBrokenRelativeTimestamps

/-- The reply has both times, with zones, and grants less than half of what was asked for. -/
def CallsForAbsolute (interval : TimeDelta) (reply : SubscribeReply) : Prop :=
  brokenRelativeTime interval reply.times.currentTime reply.times.terminationTime = true

/-- What a task with the replies `rs` knows: no segment of it unmarks the camera, and one marks it
only after a reply that calls for absolute times.  With `due` it did. -/
structure Informed (interval : TimeDelta) (rs : List SubscribeReply) (due : Prop) (g : Past)
    (m : CameraManager) : Prop where
  kept : g.begun.hasBrokenRelativeTimestamps = true → marked m = true
  caused : marked m = true →
    g.begun.hasBrokenRelativeTimestamps = true ∨ ∃ reply ∈ rs, CallsForAbsolute interval reply
  replies : replies g.wakeups = rs
  noted : due → marked m = true

/-- What a task knows wherever it stops. -/
def Aware (interval : TimeDelta) (g : Past) (m : CameraManager) : Prop :=
  Informed interval (replies g.wakeups) False g m

/-- A task asks for the time of the camera as it is then; nobody unmarks the camera. -/
def punctual (interval : TimeDelta) :
    Contract (managerInterface cameraInterface) Exc CameraManager Past where
  suspend g c m := Aware interval g m ∧
    ∀ time ∈ askedTime c, m.held.device.getNextTerminationTime interval = .ok time
  resume g c m r g' m' := g' = ⟨m'.held.device, g.wakeups ++ [⟨c, r, m'⟩]⟩ ∧
    (marked m = true → marked m' = true)

theorem Informed.aware (h : Informed interval rs due g m) : Aware interval g m :=
  ⟨h.kept, h.replies ▸ h.caused, rfl, False.elim⟩

theorem Informed.of_marked (h : Informed interval rs due g m) (hm : marked m' = marked m) :
    Informed interval rs due g m' :=
  ⟨hm ▸ h.kept, hm ▸ h.caused, h.replies, hm ▸ h.noted⟩

theorem replies_append (ws : List CameraWakeup) (w : CameraWakeup) :
    replies (ws ++ [w]) = replies ws ++ (replyOf w).toList := by
  rw [replies, List.filterMap_append]
  cases hw : replyOf w with
  | none => rw [List.filterMap_cons_none hw]; rfl
  | some reply => rw [List.filterMap_cons_some hw]; rfl

theorem Informed.resume (h : Informed interval rs due g m)
    (hr : (punctual interval).resume g c m r g' m') :
    Informed interval (rs ++ (replyOf ⟨c, r, m'⟩).toList) due g' m' := by
  obtain ⟨rfl, hkept⟩ := hr
  exact ⟨id, Or.inl, by rw [replies_append, h.replies], fun hdue => hkept (h.noted hdue)⟩

theorem Informed.resume_of_none (h : Informed interval rs due g m)
    (hr : (punctual interval).resume g c m r g' m') (hreply : replyOf ⟨c, r, m'⟩ = none) :
    Informed interval rs due g' m' := by
  have hresumed := h.resume hr
  rwa [hreply, Option.toList_none, List.append_nil] at hresumed

theorem Informed.suspend (h : Informed interval rs due g m) (hc : askedTime c = none) :
    (punctual interval).suspend g c m :=
  ⟨h.aware, fun time htime => by rw [hc] at htime; cases htime⟩

/-- A call that neither asks for a time nor for a subscription. -/
theorem preserves_call_untimed (hc : askedTime c = none)
    (hreply : ∀ r m', replyOf ⟨c, r, m'⟩ = none) :
    Preserves (punctual interval) (Informed interval rs due)
      (call (I := managerInterface cameraInterface) (ε := Exc) c) :=
  .call (fun _ _ h => h.suspend hc) fun _ _ r _ m' h hr => h.resume_of_none hr (hreply r m')

/-! ### `_start()` -/

section Start

variable {H : Past × CameraManager} {h : Held ONVIFCamera}

/-- The same, seen from `_start()`. -/
def InStart (interval : TimeDelta) (rs : List SubscribeReply) (due : Prop)
    (H : Past × CameraManager) (h : Held ONVIFCamera) : Prop :=
  Informed interval rs due H.1 (heldView H h)

theorem preserves_create (name : String) (portType : Option String) (readTimeout : Option ℕ) :
    Preserves (startContract (punctual interval)) (InStart interval rs due)
      (onDevice (createOnvifService C name portType readTimeout)) := by
  have hawait : ∀ c : CameraCall, askedTime (.start c) = none →
      (∀ r m', replyOf ⟨.start c, r, m'⟩ = none) →
      Preserves (deviceContract (punctual interval))
        (fun G s => Informed interval rs due G.1.1 (view G s)) (await c) := by
    intro c hc hreply
    refine .call (fun G s hinformed => hinformed.suspend hc) fun G s r G' s' hinformed hr => ?_
    exact hinformed.resume_of_none (device_resume hr) (hreply r _)
  intro H h hinformed
  refine (wp_zoom _ h).mpr ?_
  refine preserves_createOnvifService (fun G s s' hs hinformed => hinformed.of_marked ?_)
    (hawait _ rfl fun _ _ => rfl) (fun sid => hawait _ rfl fun _ _ => rfl)
    (fun sid => hawait _ rfl fun _ _ => rfl) name portType readTimeout (H, h) h.device hinformed
  cases hs <;> rfl

theorem preserves_storeAddress (portType : String) (address : Option String) :
    Preserves (startContract (punctual interval)) (InStart interval rs due)
      (storeAddress C portType address) := by
  refine .bind (.ofExcept _) fun url H h hinformed => (wp_zoom _ h).mpr ?_
  exact Informed.of_marked hinformed rfl

theorem preserves_setField {f : Held ONVIFCamera → Held ONVIFCamera}
    (hf : ∀ h, (f h).device = h.device) :
    Preserves (startContract (punctual interval)) (InStart interval rs due)
      (modifyState f : StartCoro Unit) :=
  .modifyState fun _ h hinformed =>
    hinformed.of_marked (congrArg ONVIFCamera.hasBrokenRelativeTimestamps (hf h))

/-- **A time is asked for** right after it was calculated. -/
theorem wp_timed {c : String → CameraCall} (hc : ∀ time, askedTime (.start (c time)) = some time)
    {β : Type} {f : (time : String) → cameraInterface.Answer (c time) → StartCoro β}
    {Q : Except Exc β → Past × CameraManager → Held ONVIFCamera → Prop}
    (hinformed : InStart interval rs due H h) (herror : ∀ e, Q (.error e) H h)
    (hanswer : ∀ time r H' h',
      InStart interval (rs ++ (replyOf ⟨.start (c time), r, heldView H' h'⟩).toList) due H' h' →
      Ends (fun a => wp (startContract (punctual interval)) Q (f time a)) (fun e => Q (.error e)) r
        H' h') :
    wp (startContract (punctual interval)) Q
      (nextTerminationTime interval >>= fun time =>
        call (I := cameraInterface) (c time) >>= f time) H h := by
  rw [wp_bind, nextTerminationTime, wp_bind, wp_getState, ends_ok, wp_ofExcept]
  cases htime : h.device.getNextTerminationTime interval with
  | error e => exact herror e
  | ok time =>
    rw [ends_ok, wp_bind]
    refine (wp_call _).mpr ⟨⟨hinformed.aware, fun time' htime' => ?_⟩, fun r H' h' hr => ?_⟩
    · obtain rfl : time = time' := Option.some.inj ((hc time).symm.trans htime')
      exact htime
    · exact hanswer time r H' h' (hinformed.resume (start_resume hr))

/-- A part of `_start()` that asks for nothing, and what comes after it. -/
theorem wp_after {α β : Type} {x : StartCoro α} {f : α → StartCoro β}
    {Q : Except Exc β → Past × CameraManager → Held ONVIFCamera → Prop}
    (hx : Preserves (startContract (punctual interval)) (InStart interval rs due) x)
    (hinformed : InStart interval rs due H h)
    (herror : ∀ e H h, InStart interval rs due H h → Q (.error e) H h)
    (hf : ∀ a H h, InStart interval rs due H h →
      wp (startContract (punctual interval)) Q (f a) H h) :
    wp (startContract (punctual interval)) Q (x >>= f) H h := by
  rw [wp_bind]
  refine wp_mono (fun r H h hr => ?_) (hx H h hinformed)
  cases r with
  | ok a => exact hf a H h hr
  | error e => exact herror e H h hr

/-- How `_start()` ends: with the camera marked, if the reply calls for absolute times, or with an
exception. -/
def Started (interval : TimeDelta) :
    Except Exc ℚ → Past × CameraManager → Held ONVIFCamera → Prop :=
  Ends (fun _ H h => ∃ reply, InStart interval [reply] (CallsForAbsolute interval reply) H h)
    fun _ H h => Aware interval H.1 (heldView H h)

/-- **The check of the granted times** marks the camera where they call for it. -/
theorem wp_scheduleRenewal {reply : SubscribeReply}
    (hinformed : InStart interval [reply] False H h) :
    wp (startContract (punctual interval)) (Started interval) (scheduleRenewal interval reply.times)
      H h := by
  have hlast : ∀ {H h} (times : SubscriptionTimes),
      InStart interval [reply] (CallsForAbsolute interval reply) H h →
      wp (startContract (punctual interval)) (Started interval)
        ((getState : StartCoro (Held ONVIFCamera)) >>= fun h =>
          ofExcept (calculateNextRenewalCallAt interval h.loopTime times)) H h := by
    intro H h times hinformed
    rw [wp_bind, wp_getState, ends_ok, wp_ofExcept]
    cases calculateNextRenewalCallAt interval h.loopTime times with
    | ok time => exact ⟨reply, hinformed⟩
    | error e => exact hinformed.aware
  rw [scheduleRenewal]
  refine wp_seq (R := fun _ => InStart interval [reply] (CallsForAbsolute interval reply)) ?_ ?_
  · refine (wp_zoom _ _).mpr ?_
    rw [hasBrokenRelativeTime]
    by_cases hbroken :
        brokenRelativeTime interval reply.times.currentTime reply.times.terminationTime = true
    · rw [if_pos hbroken, wp_bind, wp_modifyState]
      exact ⟨fun _ => rfl, fun _ => Or.inr ⟨reply, List.mem_singleton_self _, hbroken⟩,
        hinformed.replies, fun _ => rfl⟩
    · rw [if_neg hbroken]
      exact ⟨hinformed.kept, hinformed.caused, hinformed.replies, fun hdue => (hbroken hdue).elim⟩
  · intro broken H h hinformed
    rw [wp_bind, wp_getState, ends_ok]
    by_cases hbroken : broken = true
    · simp only [hbroken, if_true]
      cases h.subscription with
      | none => exact hinformed.aware
      | some sid =>
        refine wp_timed (c := fun time => .renew sid time) (fun _ => rfl) hinformed
          (fun _ => hinformed.aware) fun time r H' h' hrenewed => ?_
        have hsame : InStart interval [reply] (CallsForAbsolute interval reply) H' h' := hrenewed
        cases r with
        | ok times => exact hlast times hsame
        | error e => exact hsame.aware
    · rw [if_neg hbroken]
      exact hlast _ hinformed

/-- **`PullPointManager._start`.** -/
theorem wp_start_pullPoint (hinformed : InStart interval [] False H h) :
    wp (startContract (punctual interval)) (Started interval) (PullPointManager.start C interval)
      H h := by
  have haware : ∀ {rs : List SubscribeReply} (e : Exc) H h, InStart interval rs False H h →
      Started interval (.error e) H h := fun _ _ _ hinformed => hinformed.aware
  rw [PullPointManager.start]
  refine wp_after (preserves_create _ _ _) hinformed haware fun sid H h hinformed => ?_
  refine wp_timed (c := fun time => .createPullPointSubscription sid time) (fun _ => rfl) hinformed
    (fun _ => hinformed.aware) fun time r H h hreplied => ?_
  cases r with
  | error e => exact haware e H h hreplied
  | ok reply =>
    have hreply : InStart interval [reply] False H h := hreplied
    refine wp_after (preserves_storeAddress _ _) hreply haware fun _ H h hreply => ?_
    refine wp_after (preserves_create _ _ _) hreply haware fun subscription H h hreply => ?_
    refine wp_after (preserves_setField fun _ => rfl) hreply haware fun _ H h hreply => ?_
    refine wp_after (preserves_create _ _ _) hreply haware fun service H h hreply => ?_
    refine wp_after (preserves_setField fun _ => rfl) hreply haware fun _ H h hreply => ?_
    exact wp_scheduleRenewal hreply

/-- **`NotificationManager._start`.** -/
theorem wp_start_notification (address : String) (hinformed : InStart interval [] False H h) :
    wp (startContract (punctual interval)) (Started interval)
      (NotificationManager.start C address interval) H h := by
  have haware : ∀ {rs : List SubscribeReply} (e : Exc) H h, InStart interval rs False H h →
      Started interval (.error e) H h := fun _ _ _ hinformed => hinformed.aware
  rw [NotificationManager.start]
  refine wp_after (preserves_create _ _ _) hinformed haware fun sid H h hinformed => ?_
  refine wp_timed (c := fun time => .subscribe sid time address) (fun _ => rfl) hinformed
    (fun _ => hinformed.aware) fun time r H h hreplied => ?_
  cases r with
  | error e => exact haware e H h hreplied
  | ok reply =>
    have hreply : InStart interval [reply] False H h := hreplied
    refine wp_after (preserves_storeAddress _ _) hreply haware fun _ H h hreply => ?_
    refine wp_after (preserves_create _ _ _) hreply haware fun service H h hreply => ?_
    refine wp_after (preserves_setField fun _ => rfl) hreply haware fun _ H h hreply => ?_
    refine wp_after (preserves_create _ _ _) hreply haware fun subscription H h hreply => ?_
    refine wp_after (preserves_setField fun _ => rfl) hreply haware fun _ H h hreply => ?_
    exact wp_scheduleRenewal hreply

end Start

/-- A `_start()` that completed marked the camera if its reply called for it. -/
def Noted (interval : TimeDelta) (g : Past) (m : CameraManager) : Prop :=
  ∃ reply, Informed interval [reply] (CallsForAbsolute interval reply) g m

theorem wp_innerStart (h : Informed interval [] False g m) :
    wp (punctual interval) (Ends (fun _ => Noted interval) fun _ => Aware interval)
      (innerStart (manager C interval k)) g m := by
  refine (wp_zoom _ _).mpr ?_
  have hstart : wp (startContract (punctual interval)) (Started interval) (k.start C interval)
      (g, m) m.held := by
    cases k with
    | pullPoint => exact wp_start_pullPoint (H := (g, m)) h
    | notification address => exact wp_start_notification (H := (g, m)) address h
  refine wp_mono (fun r H h hr => ?_) hstart
  cases r with
  | ok time => exact hr
  | error e => exact hr

/-! ### The tasks -/

/-- What is known of a task at its end. -/
def Learned (C : CameraConfig) (interval : TimeDelta) (k : ManagerKind) (kind : Kind)
    (r : Except Exc Unit) (g : Past) (m : CameraManager) : Prop :=
  Aware interval g m ∧ (Completed (manager C interval k) kind r g.wakeups → Noted interval g m)

theorem Informed.of_held (h : Informed interval rs due g m) (hheld : m'.held = m.held) :
    Informed interval rs due g m' :=
  h.of_marked (congrArg (fun held => held.device.hasBrokenRelativeTimestamps) hheld)

theorem Noted.of_held (h : Noted interval g m) (hheld : m'.held = m.held) : Noted interval g m' :=
  h.imp fun _ hreply => hreply.of_held hheld

theorem Noted.aware (h : Noted interval g m) : Aware interval g m := h.elim fun _ h => h.aware

/-- **`start()`.** -/
theorem wp_start (h : Informed interval [] False g m) :
    wp (punctual interval) (Learned C interval k .start) (task (manager C interval k) .start) g
      m := by
  rw [task, wp_bind, BaseManager.start, wp_bind]
  refine wp_mono (fun r g m hr => ?_) (wp_innerStart h)
  cases r with
  | error e => exact ⟨hr, fun hcompleted => by cases hcompleted⟩
  | ok time =>
    have hscheduled := hr.of_held (scheduleSubscriptionRenew_held m time)
    exact ⟨hscheduled.aware, fun _ => hscheduled⟩

/-- `stop()` and `shutdown()` ask for nothing. -/
theorem wp_teardown {kind : Kind} (hkind : ¬Working kind) (h : Informed interval [] False g m) :
    wp (punctual interval) (Learned C interval k kind) (task (manager C interval k) kind) g m := by
  have hstop : Preserves (punctual interval) (Informed interval [] False)
      (BaseManager.stop : ManagerCoro cameraInterface ONVIFCamera Unit) := by
    refine .bind (.modifyState fun g m h => h.of_held (cancelRenewals_fields m).1) fun _ =>
      .bind .getState fun m => ?_
    cases m.held.subscription with
    | none => exact .raise _
    | some sid =>
      refine .tryExcept (preserves_call_untimed rfl fun _ _ => rfl) fun e => ?_
      by_cases he : e.oneOf subscriptionErrors = true
      · rw [if_pos he]
        exact .bind (.ofExcept _) fun _ => .pure ()
      · rw [if_neg he]
        exact .raise e
  have hend : ∀ {x : ManagerCoro cameraInterface ONVIFCamera Unit},
      Preserves (punctual interval) (Informed interval [] False) x →
      (∀ r ws, ¬Completed (manager C interval k) kind r ws) →
      wp (punctual interval) (Learned C interval k kind) x g m := fun hx hnever =>
    wp_mono (fun r _ _ hr => ⟨hr.aware, fun hc => (hnever r _ hc).elim⟩) (hx g m h)
  cases kind with
  | background => exact (hkind trivial).elim
  | start => exact (hkind trivial).elim
  | stop => exact hend hstop fun _ _ => id
  | shutdown =>
    exact hend (.bind (.modifyState fun _ _ h => h.of_held rfl) fun _ => hstop) fun _ _ => id

/-- Renewing asks for the time of each attempt anew. -/
theorem preserves_renew :
    Preserves (punctual interval) (Informed interval rs due)
      (renewSubscription (manager C interval k)) := by
  have honce : Preserves (punctual interval) (Informed interval rs due)
      (callSubscriptionRenewOnce (manager C interval k)) := by
    intro g m h
    rw [callSubscriptionRenewOnce, wp_bind, wp_getState, ends_ok]
    cases m.held.subscription with
    | none => exact h
    | some sid =>
      dsimp only
      rw [wp_bind, wp_ofExcept]
      cases htime : (manager C interval k).getNextTerminationTime m.held.device
          (manager C interval k).interval with
      | error e => exact h
      | ok time =>
        rw [ends_ok, wp_bind]
        refine (wp_call _).mpr ⟨⟨h.aware, fun time' htime' => ?_⟩, fun r g' m' hr => ?_⟩
        · obtain rfl : time = time' := Option.some.inj htime'
          exact htime
        · have hrenewed := h.resume_of_none hr rfl
          cases r with
          | error e => exact hrenewed
          | ok times =>
            rw [ends_ok, wp_bind, wp_getState, ends_ok, wp_ofExcept]
            exact hrenewed
  refine .bind .getState fun m => ?_
  by_cases hm : (m.closed (manager C interval k) || m.shutdown) = true
  · rw [if_pos hm]
    exact .pure none
  · rw [if_neg hm]
    refine .tryExcept (preserves_retryConnectionError honce
      (preserves_call_untimed rfl fun _ _ => rfl)) fun e => ?_
    by_cases he : e.oneOf renewErrors = true
    · rw [if_pos he]
      refine .bind (.bind (.modifyState fun _ _ h => h.of_held rfl) fun _ =>
        .bind .getState fun m => ?_) fun _ => .bind (.ofExcept _) fun _ => .pure none
      cases m.callbackRaises with
      | none => exact .pure ()
      | some e => exact .raise e
    · rw [if_neg he]
      exact .raise e

/-- **The body of the renewal task**, by a contract that records the wakeups: `A` holds before the
restart, `B` where its `_start()` completed, and `D` wherever it ends. -/
theorem wp_renewOrRestartBody_of {γ : Type}
    {K : Contract (managerInterface cameraInterface) Exc CameraManager γ}
    {M : ManagerClass ONVIFCamera cameraInterface} (hist : γ → List CameraWakeup)
    (hK : ∀ g c m r g' m', K.resume g c m r g' m' → hist g' = hist g ++ [⟨c, r, m'⟩])
    {A B D : γ → CameraManager → Prop} (hA : ∀ g m, A g m → D g m) (hB : ∀ g m, B g m → D g m)
    {g : γ} {m₀ : CameraManager} {a : Unit} (hover : ¬m₀.renewalOver M = true)
    (hg : hist g = [⟨.begin, .ok a, m₀⟩])
    (hrenew : wp K (fun _ => A) (renewSubscription M) g m₀)
    (hrestart : ∀ g m, A g m → wp K (Ends (fun _ => B) fun _ => D)
      (restartSubscription M >>= fun t => pure (some t)) g m) :
    wp K (fun _ g m => D g m ∧ ((restartCallAt M (hist g)).isSome → B g m)) (renewOrRestartBody M) g
      m₀ := by
  -- the wakeups up to here, once the first part of the task is done
  have hdone : ∀ {g₁ : γ} {ws : List CameraWakeup} {m₁ r}, hist g₁ = hist g ++ ws →
      (restarted M).replay m₀ ws = some (m₁, .done r) →
      restartCallAt M (hist g₁) = r.toOption.join := by
    intro g₁ ws m₁ r hws hreplay
    rw [hws, hg]
    exact restartCallAt_cons hover hreplay
  have hnever : ∀ {g₁ : γ} {m₁ : CameraManager}, restartCallAt M (hist g₁) = none → D g₁ m₁ →
      D g₁ m₁ ∧ ((restartCallAt M (hist g₁)).isSome → B g₁ m₁) := by
    intro g₁ m₁ hnone hend
    refine ⟨hend, fun hsome => ?_⟩
    rw [hnone] at hsome
    cases hsome
  rw [renewOrRestartBody, wp_bind]
  refine wp_mono ?_ (wp_tracked hK hrenew)
  rintro r g₁ m₁ ⟨h₁, ws₁, hws₁, hreplay₁⟩
  cases r with
  | error e => exact hnever (hdone (r := .error e) hws₁ (replay_advance _ hreplay₁)) (hA _ _ h₁)
  | ok renewed =>
    cases renewed with
    | some t => exact hnever (hdone (r := .ok none) hws₁ (replay_bind hreplay₁)) (hA _ _ h₁)
    | none =>
      rw [ends_ok, wp_tryExcept]
      refine wp_mono ?_ (wp_tracked hK (hrestart _ _ h₁))
      rintro r g₂ m₂ ⟨h₂, ws₂, hws₂, hreplay₂⟩
      have hws : hist g₂ = hist g ++ (ws₁ ++ ws₂) := by
        rw [hws₂, hws₁, List.append_assoc]
      have hfound := hdone hws ((replay_bind_append hreplay₁).trans hreplay₂)
      cases r with
      | ok t => exact ⟨hB _ _ h₂, fun _ => h₂⟩
      | error e =>
        -- the handler does nothing more
        have hend := hnever hfound h₂
        rw [ends_error]
        by_cases he : e.oneOf renewErrors = true
        · rw [if_pos he, wp_bind, wp_ofExcept]
          cases stringifyOnvifError e with
          | ok text => exact hend
          | error e' => exact hend
        · rw [if_neg he]
          exact hend

/-- **The renewal task.** -/
theorem wp_background (h : Informed interval [] False g m) (hg : g.wakeups = []) :
    wp (punctual interval) (Learned C interval k .background)
      (task (manager C interval k) .background) g m := by
  rw [task, background, wp_bind]
  refine (wp_call _).mpr ⟨h.suspend rfl, fun r g₀ m₀ hr => ?_⟩
  have h₀ := h.resume_of_none hr rfl
  have hg₀ : g₀.wakeups = [⟨.begin, r, m₀⟩] := by
    rw [hr.1, hg]
    rfl
  have hnever : restartCallAt (manager C interval k) g₀.wakeups = none →
      Learned C interval k .background (.ok ()) g₀ m₀ := by
    refine fun hnone => ⟨h₀.aware, fun hsome => ?_⟩
    replace hsome : (restartCallAt (manager C interval k) g₀.wakeups).isSome := hsome
    rw [hnone] at hsome
    cases hsome
  cases r with
  | error e => exact hnever (by rw [hg₀]; rfl)
  | ok a =>
    rw [ends_ok, renewOrRestartSubscription, wp_bind, wp_getState, ends_ok]
    by_cases hover : (m₀.shutdown || m₀.sessionClosed (manager C interval k)) = true
    · rw [if_pos hover]
      exact hnever (by rw [hg₀]; exact restartCallAt_over hover)
    · rw [if_neg hover, wp_bind, wp_tryFinally]
      have hrenew : Preserves (punctual interval) (Informed interval [] False)
          (renewSubscription (manager C interval k)) := preserves_renew
      have hbody := wp_renewOrRestartBody_of Past.wakeups (fun _ _ _ _ _ _ hr => by rw [hr.1])
        (fun _ _ h => Informed.aware h) (fun _ _ h => Noted.aware h) hover hg₀
        (hrenew g₀ m₀ h₀) fun g m h => by
          rw [wp_bind, restartSubscription, wp_bind, wp_modifyState, ends_ok]
          refine wp_mono (fun r g m hr => ?_)
            (wp_innerStart (h.of_held (cancelRenewals_fields m).1))
          cases r with
          | ok t => exact hr
          | error e => exact hr
      refine wp_mono (fun r g m hr => ?_) hbody
      have hend : ∀ (t : Option ℚ) (r : Except Exc Unit),
          Learned C interval k .background r g (rearm (manager C interval k) t m) := by
        intro t r
        have hheld := (rearm_fields (manager C interval k) t m).1
        exact ⟨Informed.of_held hr.1 hheld, fun hsome => (hr.2 hsome).of_held hheld⟩
      rw [wp_modifyState, ends_ok]
      cases r with
      | ok t => exact hend _ _
      | error e => exact hend _ _

/-- **Every task** keeps the contract. -/
theorem wp_task (kind : Kind) (h : Informed interval [] False g m) (hg : g.wakeups = []) :
    wp (punctual interval) (Learned C interval k kind) (task (manager C interval k) kind) g m := by
  cases kind with
  | background => exact wp_background h hg
  | start => exact wp_start h
  | stop => exact wp_teardown id h
  | shutdown => exact wp_teardown id h

/-! ### The steps of a manager -/

section Steps

variable {history : TaskId → List CameraWakeup} {S S' : CameraSystem}
  {u : Task Kind (managerInterface cameraInterface) Exc CameraManager}

/-- The task that runs in the step. -/
def runner (S : CameraSystem) : System.Action cameraInterface ONVIFCamera → Option TaskId
  | .start | .stop | .shutdown | .fire _ => some S.tasks.length
  | .answer t _ _ => some t
  | .pause | .resume | .environment _ _ _ => none

/-- The termination time asked for in the step, by the request it ends with. -/
def asked (S : CameraSystem) (a : System.Action cameraInterface ONVIFCamera) (S' : CameraSystem) :
    Option String :=
  (runner S a).bind fun t => (S'.tasks[t]?).bind fun u => u.pending.bind askedTime

theorem asked_of_getElem? {a : System.Action cameraInterface ONVIFCamera} {t : TaskId}
    (hrunner : runner S a = some t) (hu : S'.tasks[t]? = some u) :
    asked S a S' = u.pending.bind askedTime := by
  rw [asked, hrunner, Option.bind_some, hu, Option.bind_some]

/-- Every task keeps the contract with what it went on with so far. -/
structure Punctual (C : CameraConfig) (interval : TimeDelta) (k : ManagerKind)
    (history : TaskId → List CameraWakeup) (S : CameraSystem) : Prop where
  every : ∀ (t : TaskId) u, S.tasks[t]? = some u → ∃ g m, g.wakeups = history t ∧
    u.status.Keeps (punctual interval) (Learned C interval k u.kind) g m ∧
    (marked m = true → marked S.shared = true)
  fresh : ∀ t, S.tasks.length ≤ t → history t = []

/-- What a step asks for, and when it marks the camera; `history` has the step in it. -/
structure Turns (interval : TimeDelta) (history : TaskId → List CameraWakeup) (S : CameraSystem)
    (time : Option String) (S' : CameraSystem) : Prop where
  kept : marked S.shared = true → marked S'.shared = true
  caused : marked S'.shared = true → marked S.shared = true ∨
    ∃ t, ∃ reply ∈ replies (history t), CallsForAbsolute interval reply
  asked : ∀ x ∈ time, S'.shared.held.device.getNextTerminationTime interval = .ok x

theorem aware_of_keeps {kind : Kind}
    (h : u.status.Keeps (punctual interval) (Learned C interval k kind) g m) :
    Aware interval g m ∧ ∀ x ∈ u.pending.bind askedTime,
      m.held.device.getNextTerminationTime interval = .ok x := by
  obtain ⟨kind', st⟩ := u
  cases st with
  | done r => exact ⟨h.1, fun x hx => by cases hx⟩
  | waiting c f => exact h.1

/-- **A segment** of a task. -/
theorem turns_of_keeps {t : TaskId} {kind : Kind}
    (h : u.status.Keeps (punctual interval) (Learned C interval k kind) g S'.shared)
    (hg : g.begun = S.shared.held.device) (hw : g.wakeups = history t) :
    Turns interval history S (u.pending.bind askedTime) S' := by
  obtain ⟨haware, hasked⟩ := aware_of_keeps h
  have hbegun : g.begun.hasBrokenRelativeTimestamps = marked S.shared :=
    congrArg ONVIFCamera.hasBrokenRelativeTimestamps hg
  refine ⟨fun hm => haware.kept (hbegun.trans hm), fun hm => ?_, hasked⟩
  rcases haware.caused hm with hm | ⟨reply, hmem, hcalls⟩
  · exact Or.inl (hbegun.symm.trans hm)
  · exact Or.inr ⟨t, reply, hw ▸ hmem, hcalls⟩

/-- A step without a segment. -/
theorem turns_of_marked (h : marked S'.shared = marked S.shared) :
    Turns interval history S none S' :=
  ⟨fun hm => h.trans hm, fun hm => Or.inl (h.symm.trans hm), fun _ hx => by cases hx⟩

theorem Punctual.update (h : Punctual C interval k history S) {f : CameraManager → CameraManager}
    (hf : marked S.shared = true → marked (f S.shared) = true) :
    Punctual C interval k history (S.update f) where
  every t u hu := by
    obtain ⟨g, m, hg, hkeeps, hm⟩ := h.every t u hu
    exact ⟨g, m, hg, hkeeps, fun hmarked => hf (hm hmarked)⟩
  fresh := h.fresh

/-- The first segment of a task. -/
theorem keeps_spawn (C : CameraConfig) (interval : TimeDelta) (k : ManagerKind)
    (m : CameraManager) (kind : Kind) :
    ((task (manager C interval k) kind).run m).2.Keeps (punctual interval)
      (Learned C interval k kind) ⟨m.held.device, []⟩
      ((task (manager C interval k) kind).run m).1 :=
  wp_run (wp_task kind ⟨id, Or.inl, rfl, False.elim⟩ rfl)

theorem Punctual.spawn (h : Punctual C interval k history S) (kind : Kind) :
    Punctual C interval k history (S.start kind (task (manager C interval k) kind)) ∧
      Turns interval history S
        (((S.start kind (task (manager C interval k) kind)).tasks[S.tasks.length]?).bind
          fun u => u.pending.bind askedTime)
        (S.start kind (task (manager C interval k) kind)) := by
  have hkeeps := keeps_spawn C interval k S.shared kind
  have hnew : history S.tasks.length = [] := h.fresh _ (Nat.le_refl _)
  have hturns : Turns interval history S
      (Task.pending ⟨kind, ((task (manager C interval k) kind).run S.shared).2⟩ >>= askedTime)
      (S.start kind (task (manager C interval k) kind)) :=
    turns_of_keeps (t := S.tasks.length)
      (u := ⟨kind, ((task (manager C interval k) kind).run S.shared).2⟩) hkeeps rfl hnew.symm
  refine ⟨⟨fun t u hu => ?_, fun t ht => h.fresh t ?_⟩, ?_⟩
  · rcases Pool.getElem?_concat_eq_some.mp hu with hu | ⟨rfl, rfl⟩
    · obtain ⟨g, m, hg, hold, hm⟩ := h.every t u hu
      exact ⟨g, m, hg, hold, fun hmarked => hturns.kept (hm hmarked)⟩
    · exact ⟨_, _, hnew.symm, hkeeps, id⟩
  · rw [Pool.start, List.length_append] at ht
    omega
  · rw [show (S.start kind (task (manager C interval k) kind)).tasks[S.tasks.length]? = _ from
      List.getElem?_concat_length]
    exact hturns

/-- **A task that is answered** goes on for a segment. -/
theorem Punctual.answer (h : Punctual C interval k history S) {t : TaskId}
    {c : (managerInterface cameraInterface).Call}
    {r : Except Exc ((managerInterface cameraInterface).Answer c)}
    (hstep : step (manager C interval k) S (.answer t c r) = some S') :
    Punctual C interval k (fun t' => history t' ++ (wakeup t' S (.answer t c r)).toList) S' ∧
      Turns interval (fun t' => history t' ++ (wakeup t' S (.answer t c r)).toList) S
        (asked S (.answer t c r) S') S' := by
  obtain ⟨-, hresume⟩ := (step_answer (M := manager C interval k)).mp hstep
  obtain ⟨kind, f, hu, rfl⟩ :=
    (Pool.resume_eq_some (I := managerInterface cameraInterface)).mp hresume
  replace hu : S.tasks[t]? = some ⟨kind, .waiting c f⟩ := hu
  obtain ⟨g, m, hg, hkeeps, hm⟩ := h.every t _ hu
  have hafter := wp_run (hkeeps.2 r ⟨(deliverCancel t S.shared).held.device,
    g.wakeups ++ [⟨c, r, deliverCancel t S.shared⟩]⟩ (deliverCancel t S.shared) ⟨rfl, hm⟩)
  have hwakeups : g.wakeups ++ [⟨c, r, deliverCancel t S.shared⟩]
      = history t ++ (wakeup t S (.answer t c r)).toList := by
    rw [append_wakeup_self, hg]
  have hturns : Turns interval (fun t' => history t' ++ (wakeup t' S (.answer t c r)).toList) S
      (Task.pending ⟨kind, ((f r).run (deliverCancel t S.shared)).2⟩ >>= askedTime)
      ⟨((f r).run (deliverCancel t S.shared)).1,
        S.tasks.set t ⟨kind, ((f r).run (deliverCancel t S.shared)).2⟩⟩ :=
    turns_of_keeps (t := t) (u := ⟨kind, ((f r).run (deliverCancel t S.shared)).2⟩) hafter rfl
      hwakeups
  refine ⟨⟨fun t' v hv => ?_, fun t' ht' => ?_⟩, ?_⟩
  · rcases Pool.getElem?_set_eq_some hv with ⟨rfl, rfl⟩ | ⟨hne, hv⟩
    · exact ⟨_, _, hwakeups, hafter, id⟩
    · obtain ⟨g', m', hg', hold, hm'⟩ := h.every t' v hv
      refine ⟨g', m', ?_, hold, fun hmarked => hturns.kept (hm' hmarked)⟩
      rw [append_wakeup_of_ne hne, hg']
  · have hlt := (List.getElem?_eq_some_iff.mp hu).1
    replace ht' : S.tasks.length ≤ t' := le_of_eq_of_le List.length_set.symm ht'
    rw [append_wakeup_of_ne (Nat.ne_of_gt (Nat.lt_of_lt_of_le hlt ht'))]
    exact h.fresh t' ht'
  · have hself : (S.tasks.set t (⟨kind, ((f r).run (deliverCancel t S.shared)).2⟩ :
        Task Kind (managerInterface cameraInterface) Exc CameraManager))[t]? = some _ :=
      List.getElem?_set_self (List.getElem?_eq_some_iff.mp hu).1
    rw [asked_of_getElem? (a := .answer t c r) rfl hself]
    exact hturns

/-- **A step of the manager.** -/
theorem punctual_step (h : Punctual C interval k history S)
    {a : System.Action cameraInterface ONVIFCamera} (hown : ¬Surrounding a)
    (hstep : step (manager C interval k) S a = some S') :
    Punctual C interval k (fun t => history t ++ (wakeup t S a).toList) S' ∧
      Turns interval (fun t => history t ++ (wakeup t S a).toList) S (asked S a S') S' := by
  -- every action but an answer leaves the histories as they are
  have hsame : ∀ {S' : CameraSystem} {time : Option String}, Punctual C interval k history S' →
      Turns interval history S time S' →
      Punctual C interval k (fun t => history t ++ []) S' ∧
        Turns interval (fun t => history t ++ []) S time S' := by
    intro S' time hpunctual hturns
    simp only [List.append_nil]
    exact ⟨hpunctual, hturns⟩
  cases a with
  | start =>
    obtain rfl := Option.some.inj hstep
    exact hsame (h.spawn .start).1 (h.spawn .start).2
  | stop =>
    obtain rfl := Option.some.inj hstep
    exact hsame (h.spawn .stop).1 (h.spawn .stop).2
  | shutdown =>
    obtain rfl := Option.some.inj hstep
    exact hsame (h.spawn .shutdown).1 (h.spawn .shutdown).2
  | pause =>
    obtain rfl := Option.some.inj hstep
    have hmarked : marked S.shared.cancelRenewals = marked S.shared := by
      rw [marked, marked, (cancelRenewals_fields S.shared).1]
    exact hsame (h.update fun hm => hmarked.trans hm) (turns_of_marked hmarked)
  | resume =>
    obtain rfl := Option.some.inj hstep
    have hmarked : marked (BaseManager.resume S.shared) = marked S.shared := by
      rw [marked, marked, BaseManager.resume, scheduleSubscriptionRenew_held]
    exact hsame (h.update fun hm => hmarked.trans hm) (turns_of_marked hmarked)
  | fire i =>
    obtain ⟨-, rfl⟩ := (step_fire (M := manager C interval k)).mp hstep
    have hfired : Punctual C interval k history (S.update (fireTimer i)) := h.update id
    rw [runRestartOrRenew]
    by_cases hrunning : (S.update (fireTimer i)).shared.restartOrRenewTask.any
        (isUnfinished (S.update (fireTimer i))) = true
    · rw [if_pos hrunning]
      refine hsame hfired ?_
      have hnone : (S.update (fireTimer i)).tasks[S.tasks.length]? = none :=
        List.getElem?_eq_none (Nat.le_refl _)
      rw [asked, runner, Option.bind_some, hnone]
      exact turns_of_marked rfl
    · rw [if_neg hrunning]
      obtain ⟨hspawned, hturns⟩ := hfired.spawn .background
      exact hsame (hspawned.update id) ⟨hturns.kept, hturns.caused, hturns.asked⟩
  | answer t c r => exact h.answer hstep
  | environment device loopTime raises => exact (hown trivial).elim

end Steps

/-! ### Both managers -/

/-- A request that asks for a termination time: which manager sent it, and the camera as it was
then. -/
structure Asked where
  side : Side
  time : String
  camera : ONVIFCamera

/-- The time asked for is an absolute one. -/
def Asked.Absolute (x : Asked) : Prop := x.camera.hasBrokenRelativeTimestamps = true

/-- The request that the step ends with, if it asks for a time. -/
def timedRequest (X : Managers) (P : Pair) : Pair.Action → Option Asked
  | .act side a => (Pair.step X P (.act side a)).bind fun P' =>
    (asked (P side) a (P' side)).map fun time => ⟨side, time, (P' side).shared.held.device⟩
  | .surround _ _ _ _ _ _ => none

/-- The requests of a run that ask for a time. -/
def timedRequests (X : Managers) (P : Pair) (actions : List Pair.Action) : List Asked :=
  Runs.collect (Pair.step X) (timedRequest X) P actions

section Pairs

variable {X : Managers} {P P' P'' : Pair} {histories histories' : Side → TaskId → List CameraWakeup}
  {xs ys : List Asked}

/-- The tasks of both managers keep the contract; they hold the same camera. -/
structure PairPunctual (X : Managers) (histories : Side → TaskId → List CameraWakeup) (P : Pair) :
    Prop where
  manager : ∀ side, Punctual X.config (X.interval side) (X.kind side) (histories side) (P side)
  device : ∀ side side', (P side).shared.held.device = (P side').shared.held.device

/-- The camera of both is marked. -/
def Marked (P : Pair) : Prop := ∀ side, marked (P side).shared = true

/-- A task of a manager got a reply that calls for absolute times. -/
def Warned (X : Managers) (histories : Side → TaskId → List CameraWakeup) : Prop :=
  ∃ side t, ∃ reply ∈ replies (histories side t), CallsForAbsolute (X.interval side) reply

/-- What a part of a run asks for, and when it marks the camera; `histories` has it in it. -/
structure Conducted (X : Managers) (histories : Side → TaskId → List CameraWakeup) (P : Pair)
    (xs : List Asked) (P' : Pair) : Prop where
  kept : Marked P → Marked P'
  caused : Marked P' → Marked P ∨ Warned X histories
  punctual : ∀ x ∈ xs, x.camera.getNextTerminationTime (X.interval x.side) = .ok x.time
  absolute : Marked P → ∀ x ∈ xs, x.Absolute
  marks : ∀ x ∈ xs, x.Absolute → Marked P'

theorem PairPunctual.marked_iff (h : PairPunctual X histories P) (side : Side) :
    marked (P side).shared = true ↔ Marked P := by
  refine ⟨fun hm side' => ?_, fun hm => hm side⟩
  rw [marked, h.device side' side]
  exact hm

theorem Warned.mono (h : Warned X histories)
    (hmore : ∀ side t, histories side t <+: histories' side t) : Warned X histories' := by
  obtain ⟨side, t, reply, hreply, hcalls⟩ := h
  obtain ⟨ws, hws⟩ := hmore side t
  refine ⟨side, t, reply, ?_, hcalls⟩
  rw [← hws, replies, List.filterMap_append]
  exact List.mem_append_left _ hreply

theorem Conducted.refl (P : Pair) : Conducted X histories P [] P :=
  ⟨id, Or.inl, fun _ hx => absurd hx List.not_mem_nil, fun _ _ hx => absurd hx List.not_mem_nil,
    fun _ hx => absurd hx List.not_mem_nil⟩

theorem Conducted.trans (h : Conducted X histories P xs P') (h' : Conducted X histories' P' ys P'')
    (hmore : ∀ side t, histories side t <+: histories' side t) :
    Conducted X histories' P (xs ++ ys) P'' where
  kept hm := h'.kept (h.kept hm)
  caused hm := by
    rcases h'.caused hm with hm | hwarned
    · exact (h.caused hm).imp_right fun hwarned => hwarned.mono hmore
    · exact Or.inr hwarned
  punctual x hx := (List.mem_append.mp hx).elim (h.punctual x) (h'.punctual x)
  absolute hm x hx :=
    (List.mem_append.mp hx).elim (h.absolute hm x) (h'.absolute (h.kept hm) x)
  marks x hx habsolute :=
    (List.mem_append.mp hx).elim (fun hx => h'.kept (h.marks x hx habsolute)) fun hx =>
      h'.marks x hx habsolute

theorem pairPunctual_init (camera : ONVIFCamera) (loopTime : ℚ) :
    PairPunctual X (fun _ _ => []) (Pair.init camera loopTime) where
  manager _ := ⟨fun t u hu => by simp [Pair.init, System.init] at hu, fun _ _ => rfl⟩
  device _ _ := rfl

/-- **A step of the pair.** -/
theorem pairPunctual_step (h : PairPunctual X histories P) {a : Pair.Action}
    (hstep : Pair.step X P a = some P') :
    PairPunctual X (fun side t => histories side t ++ (Pair.wakeup side t P a).toList) P' ∧
      Conducted X (fun side t => histories side t ++ (Pair.wakeup side t P a).toList) P
        (timedRequest X P a).toList P' := by
  cases a with
  | surround now wsdlDirFiles pathIsfile sessionRaises loopTime callbackRaises =>
    rw [Pair.step] at hstep
    split at hstep
    · obtain rfl := Option.some.inj hstep
      simp only [Pair.wakeup, Option.toList_none, List.append_nil]
      refine ⟨⟨fun side => (h.manager side).update id, fun side side' => ?_⟩, ?_⟩
      · exact congrArg (ONVIFCamera.surround now wsdlDirFiles pathIsfile sessionRaises)
          (h.device side side')
      · exact ⟨id, Or.inl, fun _ hx => absurd hx List.not_mem_nil,
          fun _ _ hx => absurd hx List.not_mem_nil, fun _ hx => absurd hx List.not_mem_nil⟩
    · cases hstep
  | act side a =>
    obtain ⟨hown, hside, hothers⟩ := step_act hstep
    obtain ⟨hpunctual, hturns⟩ := punctual_step (h.manager side) hown hside
    have hdevices : ∀ other, (P' other).shared.held.device = (P' side).shared.held.device := by
      intro other
      by_cases hother : other = side
      · rw [hother]
      · rw [hothers other hother]
        rfl
    have hpair : PairPunctual X
        (fun side' t => histories side' t ++ (Pair.wakeup side' t P (.act side a)).toList) P' := by
      refine ⟨fun other => ?_, fun side₁ side₂ => (hdevices side₁).trans (hdevices side₂).symm⟩
      by_cases hother : other = side
      · subst hother
        simp only [Pair.wakeup, if_true]
        exact hpunctual
      · simp only [Pair.wakeup, if_neg (Ne.symm hother), Option.toList_none, List.append_nil]
        rw [hothers other hother]
        refine (h.manager other).update fun hm => hturns.kept ?_
        exact ((h.marked_iff other).mp hm) side
    have hmarked := hpair.marked_iff side
    have hrequest : ∀ x ∈ (timedRequest X P (.act side a)).toList, x.side = side ∧
        x.camera = (P' side).shared.held.device ∧ asked (P side) a (P' side) = some x.time := by
      intro x hx
      rw [timedRequest, hstep, Option.bind_some, Option.mem_toList] at hx
      obtain ⟨time, htime, rfl⟩ := Option.map_eq_some_iff.mp hx
      exact ⟨rfl, rfl, htime⟩
    refine ⟨hpair, fun hm => hmarked.mp (hturns.kept (hm side)), fun hm => ?_, fun x hx => ?_,
      fun hm x hx => ?_, fun x hx habsolute => ?_⟩
    · rcases hturns.caused (hm side) with hm | ⟨t, reply, hreply, hcalls⟩
      · exact Or.inl ((h.marked_iff side).mp hm)
      · refine Or.inr ⟨side, t, reply, ?_, hcalls⟩
        simpa only [Pair.wakeup, if_true] using hreply
    · obtain ⟨hx₁, hx₂, hx₃⟩ := hrequest x hx
      rw [hx₁, hx₂]
      exact hturns.asked _ hx₃
    · obtain ⟨-, hx₂, -⟩ := hrequest x hx
      rw [Asked.Absolute, hx₂]
      exact hturns.kept (hm side)
    · obtain ⟨-, hx₂, -⟩ := hrequest x hx
      rw [Asked.Absolute, hx₂] at habsolute
      exact hmarked.mp habsolute

/-- **Every run** of the pair. -/
theorem pairPunctual_run (h : PairPunctual X histories P) {actions : List Pair.Action}
    (hrun : Pair.run X P actions = some P') :
    PairPunctual X (fun side t => histories side t ++ Pair.wakeups X side t P actions) P' ∧
      Conducted X (fun side t => histories side t ++ Pair.wakeups X side t P actions) P
        (timedRequests X P actions) P' := by
  induction actions generalizing P histories with
  | nil =>
    obtain rfl : P = P' := Option.some.inj hrun
    simp only [Pair.wakeups, Runs.collect, List.append_nil]
    exact ⟨h, .refl P⟩
  | cons a actions ih =>
    obtain ⟨P₁, h₁, hrun⟩ := Runs.run_cons.mp hrun
    obtain ⟨hpair, hconducted⟩ := pairPunctual_step h h₁
    obtain ⟨hpair', hrest⟩ := ih hpair hrun
    have hall := hconducted.trans hrest fun _ _ => List.prefix_append _ _
    simp only [Pair.wakeups, timedRequests, Runs.collect_cons h₁, ← List.append_assoc]
    exact ⟨hpair', hall⟩

/-- **A `_start()` that completed** on a reply that calls for absolute times marked the camera. -/
theorem PairPunctual.marked_of_completed (h : PairPunctual X histories P) {side : Side} {t : TaskId}
    {u : Task Kind (managerInterface cameraInterface) Exc CameraManager} {r : Except Exc Unit}
    (hu : (P side).tasks[t]? = some u) (hdone : u.status = .done r)
    (hcompleted : Completed (X.manager side) u.kind r (histories side t))
    {reply : SubscribeReply} (hreply : reply ∈ replies (histories side t))
    (hcalls : CallsForAbsolute (X.interval side) reply) : Marked P := by
  obtain ⟨g, m, hg, hkeeps, hm⟩ := (h.manager side).every t u hu
  rw [hdone] at hkeeps
  obtain ⟨reply', hnoted⟩ := hkeeps.2 (hg ▸ hcompleted)
  rw [← hg, hnoted.replies, List.mem_singleton] at hreply
  exact (h.marked_iff side).mp (hm (hnoted.noted (hreply ▸ hcalls)))

end Pairs

/-- A `_start()` completed in the run, on a reply that calls for absolute times. -/
def StartedOnShort (X : Managers) (camera : ONVIFCamera) (loopTime : ℚ)
    (actions : List Pair.Action) (P : Pair) : Prop :=
  ∃ side t u r, (P side).tasks[t]? = some u ∧ u.status = .done r ∧
    Completed (X.manager side) u.kind r
      (Pair.wakeups X side t (Pair.init camera loopTime) actions) ∧
    ∃ reply ∈ replies (Pair.wakeups X side t (Pair.init camera loopTime) actions),
      CallsForAbsolute (X.interval side) reply

/-- **Absolute from then on**: in every interleaving, each request of either manager asks for the
termination time of the camera as it is when the request is sent; after a `_start()` completed on a
reply that calls for absolute times, or one was asked for, only such are asked for; and on a camera
that was not marked at first none is until a reply calls for them. -/
theorem absolute_from_then_on (X : Managers) (camera : ONVIFCamera) (loopTime : ℚ)
    (before after : List Pair.Action) (P P' : Pair)
    (hbefore : Pair.run X (Pair.init camera loopTime) before = some P)
    (hafter : Pair.run X P after = some P') :
    (∀ x ∈ timedRequests X P after,
      x.camera.getNextTerminationTime (X.interval x.side) = .ok x.time) ∧
    (StartedOnShort X camera loopTime before P ∨
        (∃ x ∈ timedRequests X (Pair.init camera loopTime) before, x.Absolute) →
      ∀ x ∈ timedRequests X P after, x.Absolute) ∧
    (camera.hasBrokenRelativeTimestamps = false →
      ¬Warned X (fun side t => Pair.wakeups X side t (Pair.init camera loopTime) before) →
      ∀ x ∈ timedRequests X (Pair.init camera loopTime) before, ¬x.Absolute) := by
  obtain ⟨hpair, hfirst⟩ := pairPunctual_run (pairPunctual_init camera loopTime) hbefore
  obtain ⟨-, hsecond⟩ := pairPunctual_run hpair hafter
  simp only [List.nil_append] at hpair hfirst
  refine ⟨hsecond.punctual, fun hturned => hsecond.absolute ?_,
    fun hfresh hnever x hx habsolute => ?_⟩
  · rcases hturned with hstarted | ⟨x, hx, habsolute⟩
    · obtain ⟨side, t, u, r, hu, hdone, hcompleted, reply, hreply, hcalls⟩ := hstarted
      exact hpair.marked_of_completed hu hdone hcompleted hreply hcalls
    · exact hfirst.marks x hx habsolute
  · rcases hfirst.caused (hfirst.marks x hx habsolute) with hm | hwarned
    · have hmarked : camera.hasBrokenRelativeTimestamps = true := hm x.side
      exact absurd (hmarked.symm.trans hfresh) (by decide)
    · exact hnever hwarned

/-! ### A device that grants ten seconds -/

/-- The device grants ten seconds. -/
def shortReply (address : String) : SubscribeReply where
  address := some address
  times := ⟨some ⟨63000000000000000, some 0⟩, some ⟨63000000010000000, some 0⟩⟩

/-- `start()` of the pull-point manager renews once, with an absolute time. -/
def startingShort : List Pair.Action :=
  [.act .pullPoint .start,
    answered 0 (.setup 1) (.ok ()),
    answered 0 (.createPullPointSubscription 1 "PT60S")
      (.ok (shortReply "http://192.168.0.2/sub/1")),
    answered 0 (.setup 2) (.ok ()),
    answered 0 (.setup 3) (.ok ()),
    answered 0 (.renew 2 "1997-05-23T16:01:00Z") (.ok ⟨none, none⟩)]

/-- The notification manager starts 48 seconds later, and the timer of the other one fires. -/
def startingSecond : List Pair.Action :=
  [.surround (SharedCamera.eventsCamera.now + 48000000)
      SharedCamera.eventsCamera.wsdlDirFiles SharedCamera.eventsCamera.pathIsfile none 48
      fun _ => none,
    .act .notification .start,
    .act .notification (.answer 0 (.start (.setup 4)) (.ok ())),
    .act .pullPoint (.fire 0),
    .act .pullPoint (.answer 1 .begin (.ok ()))]

/-- Both managers ask for absolute times. -/
theorem absolute_from_then_on_second :
    ∃ P P',
      Pair.run localManagers (Pair.init SharedCamera.eventsCamera 0) startingShort = some P ∧
      Pair.run localManagers P startingSecond = some P' ∧
      (timedRequests localManagers P startingSecond).map Asked.time
        = ["1997-05-23T16:01:48Z", "1997-05-23T16:01:48Z"] ∧
      ∀ x ∈ timedRequests localManagers P startingSecond, x.Absolute := by
  have hsome : (Pair.run localManagers (Pair.init SharedCamera.eventsCamera 0)
      startingShort).any (fun P => (Pair.run localManagers P startingSecond).isSome ∧
        (timedRequests localManagers P startingSecond).map Asked.time
          = ["1997-05-23T16:01:48Z", "1997-05-23T16:01:48Z"]) = true := by decide +kernel
  have hasked : (timedRequests localManagers (Pair.init SharedCamera.eventsCamera 0)
      startingShort).any (fun x => x.camera.hasBrokenRelativeTimestamps) = true := by
    decide +kernel
  obtain ⟨P, hbefore, hP⟩ := (Option.any_eq_true _ _).mp hsome
  obtain ⟨hafter, htimes⟩ := of_decide_eq_true hP
  obtain ⟨P', hafter⟩ := Option.isSome_iff_exists.mp hafter
  exact ⟨P, P', hbefore, hafter, htimes, (absolute_from_then_on localManagers
    SharedCamera.eventsCamera 0 startingShort startingSecond P P' hbefore hafter).2.1
    (Or.inr (List.any_eq_true.mp hasked))⟩

end AbsoluteTimes

end Onvif
