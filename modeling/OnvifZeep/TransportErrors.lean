/-
The errors that leave the transport, and what the wrappers around it make of them.

A time-out becomes a plain `TimeoutError` even where aiohttp raises one that is a client error too,
and a `RuntimeError` of a closed session becomes a client error.  Both matter further up: a client
error is sent again by the wrapper around a `Renew`, and is caught by the managers.

* **`wp_retry_timedOutLast`** — retrying client errors does not retry a time-out;
* **`timed_out_is_final`** — after a time-out a `Renew` sends nothing more;
* **`wp_retried_refused`** — the retries of the transport, on a session that is closed meanwhile;
* **`closed_session_reported`** — how often a closed session is tried, and what comes of it.
-/
import OnvifZeep.Transport

namespace Onvif

open Coro

namespace SessionTransport

/-! ### Operations -/

/-- An operation of a service as zeep calls it: the address, the envelope and the headers it builds,
and what it makes of the response. -/
structure SoapOperation {fold : String → String} (D : CaseInsensitiveDict fold) (α : Type) where
  build : SessionState → Except Exc (String × Element × Dict String String)
  reply : RequestsResponse D.Headers → Except Exc α

section Operations

variable (self : SessionTransport) (zeep : ZeepUtils) {fold : String → String}
  (D : CaseInsensitiveDict fold) {α : Type}

/-- A call of the operation. -/
def invoke (operation : SoapOperation D α) : Coro clientSession Exc SessionState α :=
  getState >>= fun s => ofExcept (operation.build s) >>= fun message =>
    modifyState (fun s => { s with headers := some message.2.2 }) >>= fun _ =>
      retried (self.postXml zeep D message.1 message.2.1) >>= fun response =>
        match response with
        | some response => ofExcept (operation.reply response)
        | none => .raise (.builtin .attributeError
            "'NoneType' object has no attribute 'status_code'")

/-- `_call_subscription_renew`, over the session. -/
def renewOverSession (operation : SoapOperation D α) :
    Coro clientSession Exc SessionState (Option α) :=
  retryConnectionError DEFAULT_ATTEMPTS [.clientError]
    (call (I := clientSession) (.sleep BACKOFF_TIME)) (invoke self zeep D operation)

end Operations

/-! ### Time-outs -/

/-- A request or the reading of a response has timed out. -/
def TimedOut (v : SessionEvent) : Prop :=
  (isRequest v.call ∨ v.call = .read) ∧ ∃ exc, v.answer = .error exc ∧ exc.isInstance .timeoutError

def Untimed (trace : List SessionEvent) : Prop := ∀ v ∈ trace, ¬TimedOut v

/-- What the transport raises after a time-out. -/
def timeoutOf (address : String) : Exc := .timeoutError ("Request to " ++ address ++ " timed out")

/-- The last event, and no other, is a time-out, and it is reported as a plain one. -/
def EndsTimedOut {α : Type} (res : Except Exc α) (trace : List SessionEvent) : Prop :=
  ∃ front v address, trace = front ++ [v] ∧ Untimed front ∧ TimedOut v ∧
    res = .error (timeoutOf address)

/-- No event is a time-out, except maybe the last. -/
def TimedOutLast {α : Type} (res : Except Exc α) (trace : List SessionEvent)
    (_ : SessionState) : Prop :=
  Untimed trace ∨ EndsTimedOut res trace

theorem untimed_append {front events : List SessionEvent} :
    Untimed (front ++ events) ↔ Untimed front ∧ Untimed events :=
  List.forall_mem_append

theorem untimed_singleton {v : SessionEvent} : Untimed [v] ↔ ¬TimedOut v :=
  List.forall_mem_singleton

theorem not_timedOut_response {r : HttpRequest} {s s' : SessionState} {response : ClientResponse} :
    ¬TimedOut ⟨.request r, s, .ok response, s'⟩ := by
  rintro ⟨-, exc, h, -⟩
  cases h

theorem not_timedOut_content {s s' : SessionState} {content : List UInt8} :
    ¬TimedOut ⟨.read, s, .ok content, s'⟩ := by
  rintro ⟨-, exc, h, -⟩
  cases h

theorem not_timedOut_sleep {seconds : ℚ} {s s' : SessionState} {answer : Except Exc Unit} :
    ¬TimedOut ⟨.sleep seconds, s, answer, s'⟩ := by
  rintro ⟨h | h, -⟩
  · cases h
  · cases h

/-- A time-out is reported as a plain one, whichever class it had. -/
theorem reraised_of_timeoutError {action address : String} {closed : Bool} {exc : Exc}
    (h : exc.isInstance .timeoutError) : reraised action address closed exc = timeoutOf address := by
  unfold reraised
  split
  · cases h
  · rw [if_pos h]
    rfl

/-- What the handlers make of the last event. -/
theorem timedOutLast_of_error {β : Type} {action address : String} {closed : Bool}
    {front : List SessionEvent} {v : SessionEvent} {exc : Exc} {s : SessionState}
    (hfront : Untimed front) (hcall : isRequest v.call ∨ v.call = .read)
    (hanswer : v.answer = .error exc) :
    TimedOutLast (.error (reraised action address closed exc) : Except Exc β) (front ++ [v]) s := by
  by_cases hexc : exc.isInstance .timeoutError
  · refine Or.inr ⟨front, v, address, rfl, hfront, ⟨hcall, exc, hanswer, hexc⟩, ?_⟩
    rw [reraised_of_timeoutError hexc]
  · refine Or.inl (untimed_append.mpr ⟨hfront, untimed_singleton.mpr ?_⟩)
    rintro ⟨-, exc', hanswer', htime⟩
    rw [hanswer] at hanswer'
    cases hanswer'
    exact hexc htime

/-- **A time-out ends the exchange.** -/
theorem Exchanged.timedOutLast {β : Type} {action address : String}
    {convert : ClientResponse × List UInt8 → Except Exc β} {closed : Bool} {r : HttpRequest}
    {events trace : List SessionEvent} {answer : Except Exc (ClientResponse × List UInt8)}
    {s : SessionState} (h : Exchanged r events answer s) (htrace : Untimed trace) :
    TimedOutLast (finished action address convert closed answer) (trace ++ events) s := by
  cases h with
  | refused s₀ s exc => exact timedOutLast_of_error htrace (Or.inl rfl) rfl
  | unread s₀ s₁ s response exc =>
    rw [List.append_cons]
    refine timedOutLast_of_error (untimed_append.mpr ⟨htrace, ?_⟩) (Or.inr rfl) rfl
    exact untimed_singleton.mpr not_timedOut_response
  | answered s₀ s₁ s response content =>
    refine Or.inl (untimed_append.mpr ⟨htrace, fun v hv => ?_⟩)
    rcases List.mem_pair.mp hv with rfl | rfl
    · exact not_timedOut_response
    · exact not_timedOut_content

variable {P : SessionEvent → Prop} {trace : List SessionEvent} {s : SessionState} {α β : Type}

theorem wp_attemptWith_timedOutLast {action address : String} {defaults : List (String × String)}
    {request : Dict String String → HttpRequest}
    {convert : ClientResponse × List UInt8 → Except Exc β} (htrace : Untimed trace) :
    wp (recording P) TimedOutLast (attemptWith action defaults request address convert) trace s := by
  refine wp_mono (fun res trace' s' hres => ?_)
    (wp_attemptWith (fun _ => True) (fun _ _ _ => trivial) trivial)
  obtain ⟨-, events, answer, rfl, -, hexchanged, rfl⟩ := hres
  exact hexchanged.timedOutLast htrace

/-- **Retrying exceptions other than time-outs** does not retry a time-out. -/
theorem wp_retry_timedOutLast {attempts : ℕ} (hattempts : 0 < attempts)
    {exception : List ExcClass} (hexception : ExcClass.timeoutError ∉ exception) {backoff : ℚ}
    {func : Coro clientSession Exc SessionState α}
    (hfunc : ∀ trace s, Untimed trace → wp (recording P) TimedOutLast func trace s)
    (htrace : Untimed trace) :
    wp (recording P) TimedOutLast (retryConnectionError attempts exception
      (call (I := clientSession) (.sleep backoff)) func) trace s := by
  refine wp_retryConnectionError hattempts (fun trace _ => Untimed trace)
    (fun trace s htrace => wp_mono (fun res trace' s' hres => ?_) (hfunc trace s htrace)) htrace
  rcases res with exc | a
  · rw [ends_error]
    rcases hres with hnone | ⟨front, v, address, rfl, hfront, hv, hexc⟩
    · refine ⟨Or.inl hnone, fun _ => wp_call_recording.mpr fun answer s'' _ => ?_⟩
      have hslept : Untimed (trace' ++ [⟨.sleep backoff, s', answer, s''⟩]) :=
        untimed_append.mpr ⟨hnone, untimed_singleton.mpr not_timedOut_sleep⟩
      rcases answer with exc' | _
      · exact Or.inl hslept
      · exact hslept
    · -- a plain time-out is not among the exceptions to retry
      cases hexc
      refine ⟨Or.inr ⟨front, v, address, rfl, hfront, hv, rfl⟩, fun hagain => ?_⟩
      obtain ⟨cls, hcls, his⟩ := List.any_eq_true.mp hagain
      cases cls <;> first | exact absurd hcls hexception | cases his
  · rw [ends_ok]
    rcases hres with hnone | ⟨front, v, address, -, -, -, hexc⟩
    · exact Or.inl hnone
    · cases hexc

section Renewals

variable {self : SessionTransport} {zeep : ZeepUtils} {fold : String → String}
  {D : CaseInsensitiveDict fold}

/-- A property of runs that ending with a reply, or before the first call, cannot break holds of a
call of an operation when it holds of the request. -/
theorem wp_invoke {Q : ∀ {γ : Type}, Except Exc γ → List SessionEvent → SessionState → Prop}
    {operation : SoapOperation D α}
    (hstart : ∀ e s, Q (.error e : Except Exc α) trace s)
    (hrequest : ∀ address envelope s, wp (recording P) Q
      (retried (self.postXml zeep D address envelope)) trace s)
    (herror : ∀ e trace s, Q (.error e : Except Exc (Option (RequestsResponse D.Headers))) trace s →
      Q (.error e : Except Exc α) trace s)
    (hreply : ∀ response res trace s,
      Q (.ok response : Except Exc (Option (RequestsResponse D.Headers))) trace s →
        Q (res : Except Exc α) trace s) :
    wp (recording P) Q (invoke self zeep D operation) trace s := by
  rw [invoke, wp_bind, wp_getState, ends_ok, wp_bind, wp_ofExcept]
  rcases operation.build s with e | message
  · exact hstart e s
  · rw [ends_ok, wp_bind, wp_modifyState, ends_ok, wp_bind]
    refine wp_mono (fun res trace' s' hres => ?_) (hrequest message.1 message.2.1 _)
    rcases res with e | response
    · exact herror e trace' s' hres
    · rw [ends_ok]
      rcases response with _ | response
      · exact hreply none _ trace' s' hres
      · exact (wp_ofExcept _).mpr (hreply (some response) _ trace' s' hres)

/-- **After a time-out a `Renew` sends nothing more**: the time-out is the last event of the run, and
the run ends with a plain `TimeoutError`. -/
theorem timed_out_is_final (self : SessionTransport) (zeep : ZeepUtils)
    (operation : SoapOperation D α) (w : World clientSession Exc SessionState) (n : ℕ)
    (s : SessionState) :
    let run := (renewOverSession self zeep D operation).exec w n s
    ∀ front v rest, run.trace = front ++ v :: rest → TimedOut v →
      rest = [] ∧ ∃ address, run.result = .error (timeoutOf address) := by
  intro run front v rest htrace hv
  have hfinal : TimedOutLast run.result run.trace run.state := by
    refine wp_exec_recording (P := fun _ => True) ?_ fun _ _ => trivial
    refine wp_retry_timedOutLast (by decide) (by decide) (fun trace s hbefore => ?_)
      (fun v hv => absurd hv List.not_mem_nil)
    refine wp_invoke (Q := TimedOutLast) (fun e s => Or.inl hbefore) (fun address envelope s => ?_)
      (fun e trace s h => ?_) (fun response res trace s h => ?_)
    · refine wp_retry_timedOutLast (by decide) (by decide) (fun trace s hbefore => ?_) hbefore
      rw [postXml_eq]
      exact wp_attemptWith_timedOutLast hbefore
    · rcases h with hnone | ⟨front, v, address, htrace, hfront, hv, hexc⟩
      · exact Or.inl hnone
      · exact Or.inr ⟨front, v, address, htrace, hfront, hv, by cases hexc; rfl⟩
    · rcases h with hnone | ⟨front, v, address, -, -, -, hexc⟩
      · exact Or.inl hnone
      · cases hexc
  rcases hfinal with hnone | ⟨front', v', address, htrace', hfront', hv', hres⟩
  · exact absurd hv (hnone v (htrace ▸ List.mem_append_right front List.mem_cons_self))
  · refine ⟨?_, address, hres⟩
    -- an event before the last one would be among those that are no time-outs
    rcases List.eq_nil_or_concat rest with hrest | ⟨rest', u, rfl⟩
    · exact hrest
    · rw [htrace', List.concat_eq_append, ← List.cons_append, ← List.append_assoc] at htrace
      have hmem : v ∈ front' := by
        rw [(List.append_inj' htrace rfl).1]
        exact List.mem_append_right front List.mem_cons_self
      exact absurd hv (hfront' v hmem)

end Renewals

/-! ### A closed session -/

/-- The session stays closed once it is, a closed session refuses every request with a
`RuntimeError`, and a pause can only be cancelled. -/
structure RefusesClosed (v : SessionEvent) : Prop where
  closed : v.before.closed = true → v.after.closed = true
  refused : v.before.closed = true → isRequest v.call →
    ∃ message, v.answer = .error (.builtin .runtimeError message)
  paused : ∀ exc, isRequest v.call = false → v.call ≠ .read → v.answer = .error exc →
    exc = .cancelledError

/-- The requests sent while the session was closed. -/
def closedRequests (trace : List SessionEvent) : ℕ :=
  trace.countP fun v => isRequest v.call && v.before.closed

/-- A client error other than the disconnections. -/
def isClientError (exc : Exc) : Prop := ∃ message, exc = .client .clientError message

/-- At most one request more than `n` has been sent on the closed session, and if one has, the run
ends with a client error; it ends with no `RuntimeError` once the session is closed. -/
def RefusedLast (n : ℕ) {β : Type} (res : Except Exc β) (trace : List SessionEvent)
    (s : SessionState) : Prop :=
  (closedRequests trace = n ∨
    closedRequests trace = n + 1 ∧ ∃ exc, res = .error exc ∧ isClientError exc) ∧
  ∀ message, res = .error (.builtin .runtimeError message) → s.closed = false

theorem closedRequests_append (front events : List SessionEvent) :
    closedRequests (front ++ events) = closedRequests front + closedRequests events :=
  List.countP_append

/-- What the handlers make of a `RuntimeError` depends on the session. -/
theorem open_of_reraised {action address message : String} {closed : Bool} {exc : Exc}
    (h : reraised action address closed exc = .builtin .runtimeError message) : closed = false := by
  unfold reraised at h
  split at h
  · cases closed
    · rfl
    · cases h
  · rename_i hexc
    split at h
    · cases h
    · exact absurd h (hexc message)

theorem not_isDisconnect_of_isClientError {exc : Exc} (h : isClientError exc) :
    ¬isDisconnect exc := by
  obtain ⟨message, rfl⟩ := h
  exact Bool.false_ne_true

/-- A client error is caught where a `Renew` and where an `Unsubscribe` fails. -/
theorem oneOf_of_isClientError {exc : Exc} (h : isClientError exc) :
    exc.oneOf renewErrors ∧ exc.oneOf subscriptionErrors := by
  obtain ⟨message, rfl⟩ := h
  exact ⟨rfl, rfl⟩

/-- How a run ends in an exception does not depend on the type of its result. -/
theorem RefusedLast.error {n : ℕ} {exc : Exc}
    (h : RefusedLast n (.error exc : Except Exc α) trace s) :
    RefusedLast n (.error exc : Except Exc β) trace s := by
  constructor
  · rcases h.1 with hsame | ⟨hmore, exc', hexc', hclient⟩
    · exact Or.inl hsame
    · obtain rfl := Except.error.inj hexc'
      exact Or.inr ⟨hmore, exc, rfl, hclient⟩
  · intro message hexc
    obtain rfl := Except.error.inj hexc
    exact h.2 message rfl

/-- **One exchange over a session that may have been closed.** -/
theorem Exchanged.refusedLast {action address : String}
    {convert : ClientResponse × List UInt8 → β} {r : HttpRequest}
    {events trace : List SessionEvent} {answer : Except Exc (ClientResponse × List UInt8)}
    {s : SessionState} (h : Exchanged r events answer s) (hP : ∀ v ∈ events, RefusesClosed v) :
    RefusedLast (closedRequests trace)
      (finished action address (fun p => .ok (convert p)) s.closed answer) (trace ++ events) s := by
  refine ⟨?_, fun message hres => ?_⟩
  · rw [closedRequests_append]
    cases h with
    | refused s₀ s exc =>
      have hevent := hP _ List.mem_cons_self
      cases hclosed : s₀.closed with
      | false => exact Or.inl (by simp [closedRequests, hclosed])
      | true =>
        refine Or.inr ⟨by simp [closedRequests, hclosed, isRequest], ?_⟩
        obtain ⟨message, hrefused⟩ := hevent.refused hclosed rfl
        cases hrefused
        rw [hevent.closed hclosed]
        exact ⟨_, rfl, _, rfl⟩
    | unread s₀ s₁ s response exc | answered s₀ s₁ s response content =>
      -- a request that is answered was sent while the session was open
      have hevent := hP _ List.mem_cons_self
      have hopen : s₀.closed = false := by
        cases hclosed : s₀.closed with
        | false => rfl
        | true =>
          obtain ⟨message, hrefused⟩ := hevent.refused hclosed rfl
          cases hrefused
      exact Or.inl (by simp [closedRequests, hopen, isRequest])
  · rcases answer with exc | p
    · exact open_of_reraised (Except.error.inj hres)
    · cases hres

/-- **The retries of the transport**, on a session that may be closed meanwhile. -/
theorem wp_retried_refused {action address : String} {defaults : List (String × String)}
    {request : Dict String String → HttpRequest} {convert : ClientResponse × List UInt8 → β} :
    wp (recording RefusesClosed) (RefusedLast (closedRequests trace))
      (retried (attemptWith action defaults request address fun p => .ok (convert p))) trace s := by
  refine wp_retryConnectionError (by decide)
    (fun trace' _ => closedRequests trace' = closedRequests trace) (fun trace₁ s hcount => ?_) rfl
  refine wp_mono (fun res trace₂ s' hres => ?_)
    (wp_attemptWith (fun _ => True) (fun _ _ _ => trivial) trivial)
  obtain ⟨-, events, answer, rfl, hevents, hexchanged, rfl⟩ := hres
  have hlast : RefusedLast (closedRequests trace₁)
      (finished action address (fun p => .ok (convert p)) s'.closed answer) (trace₁ ++ events) s' :=
    hexchanged.refusedLast hevents
  rw [hcount] at hlast
  generalize finished action address (fun p => .ok (convert p)) s'.closed answer = res at hlast ⊢
  rcases res with exc | b
  · rw [ends_error]
    refine ⟨hlast.error, fun hagain => wp_call_recording.mpr fun answer' s'' hpaused => ?_⟩
    -- a client error is not retried here, so no request has been refused yet
    have hnone : closedRequests (trace₁ ++ events ++ [⟨.sleep 0, s', answer', s''⟩])
        = closedRequests trace := by
      rw [closedRequests_append]
      rcases hlast.1 with hsame | ⟨-, exc', hexc', hclient⟩
      · exact hsame
      · cases hexc'
        exact absurd hagain (not_isDisconnect_of_isClientError hclient)
    rcases answer' with exc' | _
    · obtain rfl := hpaused.paused exc' rfl (fun h => by cases h) rfl
      exact ⟨Or.inl hnone, fun message h => by cases h⟩
    · exact hnone
  · refine ⟨?_, fun message h => by cases h⟩
    rcases hlast.1 with hsame | ⟨-, exc, hexc, -⟩
    · exact Or.inl hsame
    · cases hexc

/-- The requests refused by attempts of a `Renew`: at most one an attempt. -/
theorem wp_renewOverSession_refused {self : SessionTransport} {zeep : ZeepUtils}
    {fold : String → String} {D : CaseInsensitiveDict fold} {operation : SoapOperation D α}
    (s : SessionState) :
    wp (recording RefusesClosed)
      (fun res trace _ => closedRequests trace < 2 ∨
        closedRequests trace = 2 ∧ ∃ exc, res = .error exc ∧ isClientError exc)
      (renewOverSession self zeep D operation) [] s := by
  refine wp_asyncWrapConnectionErrorRetry
    (fun attempt trace _ => closedRequests trace ≤ attempt) (by decide)
    (fun attempt hattempt trace s hcount => ?_) (Nat.zero_le _)
  have hattempt : attempt < 2 := hattempt
  let Q {γ : Type} (res : Except Exc γ) (trace' : List SessionEvent) (_ : SessionState) : Prop :=
    closedRequests trace' = closedRequests trace ∨
      closedRequests trace' = closedRequests trace + 1 ∧ ∃ exc, res = .error exc ∧ isClientError exc
  refine wp_mono (fun res trace' s' hres => ?_) (wp_invoke (Q := Q) (fun _ _ => Or.inl rfl)
    (fun address envelope s => ?_) (fun e trace' s' h => ?_) (fun response res trace' s' h => ?_))
  · rcases res with exc | a
    · rw [AttemptEnds, ends_error]
      split_ifs with hagain
      · have hnext : attempt + 1 ≠ 2 := hagain.2
        refine wp_call_recording.mpr fun answer s'' _ => ?_
        have hle : closedRequests (trace' ++ [⟨.sleep BACKOFF_TIME, s', answer, s''⟩])
            ≤ attempt + 1 := by
          have hpause : closedRequests [⟨.sleep BACKOFF_TIME, s', answer, s''⟩] = 0 := rfl
          rw [closedRequests_append, hpause]
          rcases hres with hsame | ⟨hmore, -⟩ <;> omega
        rcases answer with exc' | _
        · exact Or.inl (by omega)
        · exact hle
      · rcases hres with hsame | ⟨hmore, exc', hexc', hclient⟩
        · exact Or.inl (by omega)
        · obtain rfl := Except.error.inj hexc'
          by_cases htwo : closedRequests trace' = 2
          · exact Or.inr ⟨htwo, exc, rfl, hclient⟩
          · exact Or.inl (by omega)
    · rw [AttemptEnds, ends_ok]
      rcases hres with hsame | ⟨-, exc, hexc, -⟩
      · exact Or.inl (by omega)
      · cases hexc
  · rw [postXml_eq]
    exact wp_mono (fun _ _ _ h => h.1) wp_retried_refused
  · rcases h with hsame | ⟨hmore, exc, hexc, hclient⟩
    · exact Or.inl hsame
    · obtain rfl := Except.error.inj hexc
      exact Or.inr ⟨hmore, e, rfl, hclient⟩
  · rcases h with hsame | ⟨-, exc, hexc, -⟩
    · exact Or.inl hsame
    · cases hexc

/-- **A closed session is reported as a client error.**  A retried `post_xml` or `get` sends it at
most one request, and the refusal of it is an error that the managers catch; no `RuntimeError`
leaves once the session is closed.  A `Renew` sends it at most two. -/
theorem closed_session_reported (self : SessionTransport) (zeep : ZeepUtils)
    {fold : String → String} {D : CaseInsensitiveDict fold} (operation : SoapOperation D α)
    (address : String) (envelope : Element) (params : Option (List (String × String)))
    (w : World clientSession Exc SessionState) (n : ℕ) (s : SessionState)
    (hw : ∀ n c s, RefusesClosed ⟨c, s, (w n c s).1, (w n c s).2⟩) :
    (∀ x ∈ [self.postXml zeep D address envelope, self.get zeep D address params],
      let run := (retried x).exec w n s
      closedRequests run.trace ≤ 1 ∧
      (closedRequests run.trace = 1 →
        ∃ exc, run.result = .error exc ∧ exc.oneOf renewErrors ∧ exc.oneOf subscriptionErrors) ∧
      ∀ message, run.result = .error (.builtin .runtimeError message) → run.state.closed = false) ∧
    let run := (renewOverSession self zeep D operation).exec w n s
    closedRequests run.trace ≤ 2 ∧
    (closedRequests run.trace = 2 → ∃ exc, run.result = .error exc ∧ exc.oneOf renewErrors) := by
  have hevents : ∀ {γ : Type} (x : Coro clientSession Exc SessionState γ),
      ∀ v ∈ (x.exec w n s).trace, RefusesClosed v := by
    intro γ x v hv
    obtain ⟨i, hi⟩ := exec_answered hv
    have hrefuses := hw i v.call v.before
    rwa [hi] at hrefuses
  refine ⟨fun x hx => ?_, ?_⟩
  · intro run
    have hlast : RefusedLast 0 run.result run.trace run.state := by
      refine wp_exec_recording ?_ (hevents _)
      rcases List.mem_pair.mp hx with rfl | rfl
      · rw [postXml_eq]
        exact wp_retried_refused
      · rw [get_eq]
        exact wp_retried_refused
    refine ⟨?_, fun hone => ?_, hlast.2⟩
    · rcases hlast.1 with hnone | ⟨hone, -⟩ <;> omega
    · rcases hlast.1 with hnone | ⟨-, exc, hexc, hclient⟩
      · omega
      · exact ⟨exc, hexc, oneOf_of_isClientError hclient⟩
  · intro run
    have hlast : closedRequests run.trace < 2 ∨
        closedRequests run.trace = 2 ∧ ∃ exc, run.result = .error exc ∧ isClientError exc :=
      wp_exec_recording (wp_renewOverSession_refused s) (hevents _)
    rcases hlast with hless | ⟨htwo, exc, hexc, hclient⟩
    · exact ⟨by omega, fun h => by omega⟩
    · exact ⟨by omega, fun _ => ⟨exc, hexc, (oneOf_of_isClientError hclient).1⟩⟩

/-- A `Renew` with a fixed message, whose response is ignored. -/
def sampleRenew : SoapOperation (foldedDict lower) Unit where
  build _ := .ok ("http://camera/", sampleEnvelope, soapHeaders)
  reply _ := .ok ()

/-- A session in which every request fails with `exc`. -/
def failingSession (exc : Exc) : World clientSession Exc SessionState := fun _ c s =>
  match c with
  | .request _ => (.error exc, s)
  | .read => (.ok [], s)
  | .sleep _ => (.ok (), s)

theorem timed_out_is_final_once :
    let run := (renewOverSession sampleTransport sampleZeep _ sampleRenew).exec
      (failingSession (.client .serverTimeoutError "Timeout on reading data from socket")) 0
      sampleState
    requestCount run.trace = 1 ∧ ∃ address, run.result = .error (timeoutOf address) := by
  intro run
  refine ⟨rfl, ?_⟩
  exact (timed_out_is_final sampleTransport sampleZeep sampleRenew
    (failingSession (.client .serverTimeoutError "Timeout on reading data from socket")) 0
    sampleState [] _ [] rfl ⟨Or.inl rfl, _, rfl, rfl⟩).2

theorem closed_session_reported_twice :
    let run := (renewOverSession sampleTransport sampleZeep _ sampleRenew).exec
      (failingSession (.builtin .runtimeError "Session is closed")) 0
      { sampleState with closed := true }
    closedRequests run.trace = 2 ∧ ∃ exc, run.result = .error exc ∧ exc.oneOf renewErrors := by
  intro run
  have hrefuses : ∀ n c s, RefusesClosed ⟨c, s,
      (failingSession (.builtin .runtimeError "Session is closed") n c s).1,
      (failingSession (.builtin .runtimeError "Session is closed") n c s).2⟩ := by
    intro n c s
    cases c with
    | request r => exact ⟨id, fun _ _ => ⟨_, rfl⟩, fun _ h => by cases h⟩
    | read => exact ⟨id, fun _ h => (by cases h), fun _ _ h => absurd rfl h⟩
    | sleep seconds => exact ⟨id, fun _ h => (by cases h), fun _ _ _ h => (by cases h)⟩
  have htwo : closedRequests run.trace = 2 := rfl
  exact ⟨htwo, (closed_session_reported sampleTransport sampleZeep sampleRenew "http://camera/"
    sampleEnvelope none (failingSession (.builtin .runtimeError "Session is closed")) 0
    { sampleState with closed := true } hrefuses).2.2 htwo⟩

end SessionTransport

end Onvif
