/-
How often a request is sent when wrappers of `retry_connection_error` are around it.

The wrapped function is a request whose outcomes are a stream: the `k`-th request made gets the
`k`-th outcome.  The shared state counts the requests made so far.

* **`wp_retried_request`** — one wrapper: the requests and sleeps it makes and what it yields;
* **`wp_retried_retried`** — a wrapper around a wrapper;
* **`retry_bounded_faithful`** — both, for whole runs;
* **`requests_renew_le`** — the wrappers around a `Renew` send it at most four times.
-/
import OnvifZeep.Wrappers
import OnvifZeep.XmlTree

namespace Onvif

open Coro

/-! ### The calls -/

/-- What a wrapped request waits for. -/
inductive WireCall where
  | request
  | sleep (seconds : ℚ)
deriving DecidableEq

/-- A request is answered with an `α`. -/
abbrev WireAnswer (α : Type) : WireCall → Type
  | .request => α
  | .sleep _ => Unit

abbrev wire (α : Type) : Interface := ⟨WireCall, WireAnswer α⟩

variable {ε α β : Type}

def request : Coro (wire α) ε ℕ α := call (I := wire α) .request

/-- `asyncio.sleep(seconds)`. -/
def sleep (seconds : ℚ) : Coro (wire α) ε ℕ Unit := call (I := wire α) (.sleep seconds)

/-- `retry_connection_error(attempts, exception, backoff)` around a function. -/
def retried (attempts : ℕ) (exception : ε → Bool) (backoff : ℚ) (func : Coro (wire α) ε ℕ β) :
    Coro (wire α) ε ℕ (Option β) :=
  asyncWrapConnectionErrorRetry attempts exception (sleep backoff) func

/-- The world in which the `k`-th request has the `k`-th outcome. -/
def stream (outcomes : ℕ → Except ε α) : World (wire α) ε ℕ := fun _ c made =>
  match c with
  | .request => (outcomes made, made + 1)
  | .sleep _ => (.ok (), made)

/-- The outcome is an exception that is caught. -/
def retryable (exception : ε → Bool) : Except ε α → Bool
  | .ok _ => false
  | .error ex => exception ex

/-- The first outcome that is not an exception to catch is the `i`-th, counted from one. -/
def FirstFinal (exception : ε → Bool) (outcomes : ℕ → Except ε α) (i : ℕ) : Prop :=
  1 ≤ i ∧ retryable exception (outcomes (i - 1)) = false ∧
    ∀ j, j + 1 < i → retryable exception (outcomes j) = true

/-- The calls of `failed` failed attempts, each with the sleep after it. -/
def failedCalls (backoff : ℚ) (failed : ℕ) : List WireCall :=
  (List.replicate failed [.request, .sleep backoff]).flatten

theorem failedCalls_succ (backoff : ℚ) (failed : ℕ) :
    failedCalls backoff (failed + 1)
      = failedCalls backoff failed ++ [.request] ++ [.sleep backoff] := by
  simp [failedCalls, List.replicate_succ']

/-- One sleep stands between two requests. -/
theorem failedCalls_append_request (backoff : ℚ) (failed : ℕ) :
    failedCalls backoff failed ++ [.request]
      = (List.replicate (failed + 1) WireCall.request).intersperse (.sleep backoff) := by
  induction failed with
  | zero => rfl
  | succ failed ih =>
    have hfront : failedCalls backoff (failed + 1)
        = .request :: .sleep backoff :: failedCalls backoff failed := by
      simp [failedCalls, List.replicate_succ]
    rw [hfront, List.cons_append, List.cons_append, ih]
    rfl

theorem count_failedCalls (backoff : ℚ) (failed : ℕ) :
    (failedCalls backoff failed).count .request = failed := by
  induction failed with
  | zero => rfl
  | succ failed ih => simp [failedCalls_succ, ih]

/-! ### What the wrappers do -/

/-- The calls so far are the ghost; the outcomes are those of the stream. -/
def streamContract (outcomes : ℕ → Except ε α) : Contract (wire α) ε ℕ (List WireCall) where
  suspend _ _ _ := True
  resume calls c made r calls' made' :=
    calls' = calls ++ [c] ∧ (r, made') = stream outcomes 0 c made

section

variable {outcomes : ℕ → Except ε α} {calls : List WireCall} {made : ℕ}

theorem wp_wireCall (c : WireCall) {Q : Except ε (WireAnswer α c) → List WireCall → ℕ → Prop} :
    wp (streamContract outcomes) Q (call (I := wire α) c) calls made
      ↔ Q (stream outcomes 0 c made).1 (calls ++ [c]) (stream outcomes 0 c made).2 := by
  rw [wp_call]
  constructor
  · rintro ⟨-, h⟩
    exact h _ _ _ ⟨rfl, rfl⟩
  · intro h
    refine ⟨trivial, ?_⟩
    rintro r calls' made' ⟨rfl, hstream⟩
    rw [← hstream] at h
    exact h

theorem wp_request {Q : Except ε α → List WireCall → ℕ → Prop} :
    wp (streamContract outcomes) Q request calls made
      ↔ Q (outcomes made) (calls ++ [.request]) (made + 1) :=
  wp_wireCall .request

theorem wp_sleep {Q : Except ε Unit → List WireCall → ℕ → Prop} {seconds : ℚ} :
    wp (streamContract outcomes) Q (sleep seconds) calls made
      ↔ Q (.ok ()) (calls ++ [.sleep seconds]) made :=
  wp_wireCall (.sleep seconds)

variable {n m : ℕ} (outcomes) (E F : ε → Bool) (backoff outerBackoff : ℚ)

/-- How a wrapped request ends: after `failed` caught exceptions it yields the outcome of one more
request, which is the last attempt or is not caught. -/
def RequestEnds (outcomes : ℕ → Except ε α) (n : ℕ) (E : ε → Bool) (backoff : ℚ)
    (calls : List WireCall) (made : ℕ) (r : Except ε (Option α)) (calls' : List WireCall)
    (made' : ℕ) : Prop :=
  ∃ failed < n, made' = made + failed + 1 ∧
    calls' = calls ++ (failedCalls backoff failed ++ [.request]) ∧
    (∀ j < failed, retryable E (outcomes (made + j)) = true) ∧
    (failed + 1 = n ∨ retryable E (outcomes (made + failed)) = false) ∧
    r = (outcomes (made + failed)).map some

/-- **One wrapper around the request.** -/
theorem wp_retried_request (hn : 1 ≤ n) :
    wp (streamContract outcomes) (RequestEnds outcomes n E backoff calls made)
      (retried n E backoff request) calls made := by
  -- before an attempt, the attempts made have all failed with an exception to catch
  refine wp_asyncWrapConnectionErrorRetry
    (fun attempt calls' made' => made' = made + attempt ∧
      calls' = calls ++ failedCalls backoff attempt ∧
      ∀ j < attempt, retryable E (outcomes (made + j)) = true) hn ?_ ?_
  · rintro attempt hattempt calls' made' ⟨rfl, rfl, hfailed⟩
    rw [wp_request, AttemptEnds]
    rcases houtcome : outcomes (made + attempt) with ex | a
    · rw [ends_error]
      split_ifs with hagain
      · -- caught, and attempts are left: sleep, then the next attempt
        rw [wp_sleep, ends_ok]
        refine ⟨by omega, by simp [failedCalls_succ], fun j hj => ?_⟩
        rcases Nat.lt_succ_iff_lt_or_eq.mp hj with hj | rfl
        · exact hfailed j hj
        · rw [houtcome]
          exact hagain.1
      · refine ⟨attempt, hattempt, by omega, by simp, hfailed, ?_, by rw [houtcome]; rfl⟩
        rw [houtcome, retryable]
        by_cases hex : E ex
        · exact Or.inl (by simpa [hex] using hagain)
        · exact Or.inr (by simpa using hex)
    · rw [ends_ok]
      refine ⟨attempt, hattempt, by omega, by simp, hfailed, ?_, by rw [houtcome]; rfl⟩
      rw [houtcome]
      exact Or.inr rfl
  · exact ⟨rfl, by simp [failedCalls], by simp⟩

/-- **A wrapper around the wrapper**: at most `n` requests an attempt, and every request but the
last failed with an exception that one of the two catches. -/
theorem wp_retried_retried (hn : 1 ≤ n) (hm : 1 ≤ m) :
    wp (streamContract outcomes)
      (fun _ calls made => calls.count .request = made ∧ made ≤ n * m ∧
        ∀ k, k + 1 < made → retryable E (outcomes k) = true ∨ retryable F (outcomes k) = true)
      (retried m F outerBackoff (retried n E backoff request)) [] 0 := by
  refine wp_asyncWrapConnectionErrorRetry
    (fun attempt calls made => calls.count .request = made ∧ made ≤ n * attempt ∧
      ∀ k < made, retryable E (outcomes k) = true ∨ retryable F (outcomes k) = true) hm ?_ ?_
  · rintro attempt hattempt calls made ⟨hcount, hmade, hcaught⟩
    refine wp_mono (fun r calls' made' hr => ?_) (wp_retried_request outcomes E backoff hn)
    obtain ⟨failed, hfailed, rfl, rfl, hinner, -, rfl⟩ := hr
    have hcount' : (calls ++ (failedCalls backoff failed ++ [WireCall.request])).count .request
        = made + failed + 1 := by
      simp [count_failedCalls, hcount]
      omega
    have hmade' : made + failed + 1 ≤ n * (attempt + 1) := by
      rw [Nat.mul_succ]
      omega
    -- the requests before the last one of this attempt
    have hbefore : ∀ k < made + failed,
        retryable E (outcomes k) = true ∨ retryable F (outcomes k) = true := by
      intro k hk
      by_cases hold : k < made
      · exact hcaught k hold
      · have hnew := hinner (k - made) (by omega)
        rw [show made + (k - made) = k by omega] at hnew
        exact Or.inl hnew
    have hends : made + failed + 1 ≤ n * m :=
      hmade'.trans (Nat.mul_le_mul_left n hattempt)
    rw [AttemptEnds]
    rcases houtcome : outcomes (made + failed) with ex | a
    · show Ends _ _ (.error ex) _ _
      rw [ends_error]
      split_ifs with hagain
      · rw [wp_sleep, ends_ok]
        refine ⟨by simpa using hcount', hmade', fun k hk => ?_⟩
        rcases Nat.lt_succ_iff_lt_or_eq.mp hk with hk | rfl
        · exact hbefore k hk
        · rw [houtcome]
          exact Or.inr hagain.1
      · exact ⟨hcount', hends, fun k hk => hbefore k (by omega)⟩
    · exact ⟨hcount', hends, fun k hk => hbefore k (by omega)⟩
  · simp

end

/-! ### The transport under a `Renew` -/

/-- The methods of `AIOHTTPTransport` that `AsyncTransportProtocolErrorHandler` overrides, with
responses `ρ`. -/
structure AIOHTTPTransport (I : Interface) (σ ρ : Type) where
  post : String → String → List (String × String) → Coro I Exc σ ρ
  get : String → Option (List (String × String)) → Option (List (String × String)) → Coro I Exc σ ρ
  postXml : String → Element → List (String × String) → Coro I Exc σ ρ

namespace AsyncTransportProtocolErrorHandler

variable {I : Interface} {σ ρ : Type} (sleep : ℚ → Coro I Exc σ Unit)

/-- The exceptions that mean that the request did not reach the server. -/
def disconnected : List ExcClass := [.serverDisconnectedError, .clientConnectionResetError]

/-- The decorator of the three methods. -/
def retryOnDisconnect (func : Coro I Exc σ ρ) : Coro I Exc σ (Option ρ) :=
  retryConnectionError 2 disconnected (sleep 0) func

def post (base : AIOHTTPTransport I σ ρ) (address message : String)
    (headers : List (String × String)) : Coro I Exc σ (Option ρ) :=
  retryOnDisconnect sleep (base.post address message headers)

def get (base : AIOHTTPTransport I σ ρ) (address : String)
    (params headers : Option (List (String × String))) : Coro I Exc σ (Option ρ) :=
  retryOnDisconnect sleep (base.get address params headers)

def postXml (base : AIOHTTPTransport I σ ρ) (address : String) (envelope : Element)
    (headers : List (String × String)) : Coro I Exc σ (Option ρ) :=
  retryOnDisconnect sleep (base.postXml address envelope headers)

end AsyncTransportProtocolErrorHandler

/-- The exceptions of which the transport tries again are client errors. -/
theorem clientError_of_disconnected {ex : Exc}
    (h : ex.oneOf AsyncTransportProtocolErrorHandler.disconnected) :
    ex.isInstance .clientError := by
  obtain ⟨cls, hcls, hex⟩ := List.any_eq_true.mp h
  rcases List.mem_pair.mp hcls with rfl | rfl
  all_goals
    unfold Exc.isInstance at hex ⊢
    split at hex <;> simp_all

/-! ### Whole runs -/

/-- A run against the stream, from the first request on. -/
def runStream (outcomes : ℕ → Except ε α) (x : Coro (wire α) ε ℕ β) : Outcome (wire α) ε ℕ β :=
  x.exec (stream outcomes) 0 0

/-- The calls of a run, in order. -/
def callsOf (o : Outcome (wire α) ε ℕ β) : List WireCall := o.trace.map Event.call

def requestsOf (o : Outcome (wire α) ε ℕ β) : ℕ := (callsOf o).count .request

/-- **Runs keep the contract** of the stream. -/
theorem runStream_of_wp {outcomes : ℕ → Except ε α} {x : Coro (wire α) ε ℕ β}
    {Q : Except ε β → List WireCall → ℕ → Prop} (h : wp (streamContract outcomes) Q x [] 0) :
    Q (runStream outcomes x).result (callsOf (runStream outcomes x))
      (runStream outcomes x).state := by
  have hobeys : (stream outcomes).Obeys (streamContract outcomes) fun calls v => calls ++ [v.call] :=
    fun _ _ _ _ _ => ⟨rfl, rfl⟩
  have hnoted : ∀ (calls : List WireCall) (trace : List (Event (wire α) ε ℕ)),
      trace.foldl (fun calls v => calls ++ [v.call]) calls = calls ++ trace.map Event.call := by
    intro calls trace
    induction trace generalizing calls with
    | nil => simp
    | cons v trace ih => simp [ih]
  have hrun := wp_exec hobeys (n := 0) h
  rwa [hnoted, List.nil_append] at hrun

/-- A `Renew` on the wire: the wrapper of the manager around that of the transport. -/
def renewOnWire (base : AIOHTTPTransport (wire α) ℕ α) (address : String) (envelope : Element)
    (headers : List (String × String)) : Coro (wire α) Exc ℕ (Option (Option α)) :=
  retryConnectionError DEFAULT_ATTEMPTS [.clientError] (sleep BACKOFF_TIME)
    (AsyncTransportProtocolErrorHandler.postXml sleep base address envelope headers)

/-- **A `Renew` is sent at most four times**, and again only after a client error. -/
theorem requests_renew_le (base : AIOHTTPTransport (wire α) ℕ α)
    (hbase : ∀ address envelope headers, base.postXml address envelope headers = request)
    (address : String) (envelope : Element) (headers : List (String × String))
    (outcomes : ℕ → Except Exc α) :
    let run := runStream outcomes (renewOnWire base address envelope headers)
    requestsOf run ≤ 4 ∧
    ∀ k, k + 1 < requestsOf run → ∃ ex, outcomes k = .error ex ∧ ex.isInstance .clientError := by
  have hrenew : renewOnWire base address envelope headers
      = retried 2 (·.oneOf [.clientError]) BACKOFF_TIME (retried 2
          (·.oneOf AsyncTransportProtocolErrorHandler.disconnected) 0 request) := by
    rw [renewOnWire, AsyncTransportProtocolErrorHandler.postXml, hbase]
    rfl
  obtain ⟨hcount, hle, hcaught⟩ := runStream_of_wp (wp_retried_retried outcomes
    (·.oneOf AsyncTransportProtocolErrorHandler.disconnected) (·.oneOf [.clientError]) 0 BACKOFF_TIME
    (n := 2) (m := 2) (by omega) (by omega))
  rw [← hrenew] at hcount hle hcaught
  rw [← hcount] at hle hcaught
  refine ⟨hle, fun k hk => ?_⟩
  have hclient := hcaught k hk
  rcases houtcome : outcomes k with ex | a
  · rw [houtcome] at hclient
    refine ⟨ex, rfl, ?_⟩
    rcases hclient with hinner | houter
    · exact clientError_of_disconnected hinner
    · simpa [retryable, Exc.oneOf] using houter
  · rw [houtcome] at hclient
    simp [retryable] at hclient

/-- The number of requests is the one the first final outcome and the attempts allow. -/
theorem requests_eq_min {n failed i : ℕ} {E : ε → Bool} {outcomes : ℕ → Except ε α}
    (hfailed : failed < n) (hbefore : ∀ j < failed, retryable E (outcomes j) = true)
    (hlast : failed + 1 = n ∨ retryable E (outcomes failed) = false)
    (hi : FirstFinal E outcomes i) : failed + 1 = min n i := by
  obtain ⟨hpos, hfinal, hearlier⟩ := hi
  -- the first final outcome is not among the failed ones
  have hge : failed + 1 ≤ i := by
    by_contra hlt
    have hcaught := hbefore (i - 1) (by omega)
    rw [hfinal] at hcaught
    exact absurd hcaught (by simp)
  rcases hlast with hn | hstop
  · omega
  · have hle : i ≤ failed + 1 := by
      by_contra hlt
      have hcaught := hearlier failed (by omega)
      rw [hstop] at hcaught
      exact absurd hcaught (by simp)
    omega

/-- Without a final outcome every attempt is made. -/
theorem requests_eq_attempts {n failed : ℕ} {E : ε → Bool} {outcomes : ℕ → Except ε α}
    (hbefore : ∀ j < failed, retryable E (outcomes j) = true)
    (hlast : failed + 1 = n ∨ retryable E (outcomes failed) = false)
    (hnone : ∀ i, ¬ FirstFinal E outcomes i) : failed + 1 = n := by
  rcases hlast with hn | hstop
  · exact hn
  · exact absurd ⟨by omega, hstop, fun j hj => hbefore j (by omega)⟩ (hnone (failed + 1))

/-- **Retries are bounded and faithful**, and so is a wrapper around a wrapper. -/
theorem retry_bounded_faithful (n : ℕ) (hn : 1 ≤ n) (E : ε → Bool) (backoff : ℚ)
    (outcomes : ℕ → Except ε α) :
    let run := runStream outcomes (retried n E backoff request)
    (∀ i, FirstFinal E outcomes i → requestsOf run = min n i) ∧
    ((∀ i, ¬ FirstFinal E outcomes i) → requestsOf run = n) ∧
    callsOf run
      = (List.replicate (requestsOf run) WireCall.request).intersperse (.sleep backoff) ∧
    run.result = (outcomes (requestsOf run - 1)).map some ∧
    ∀ (m : ℕ) (F : ε → Bool) (outerBackoff : ℚ), 1 ≤ m →
      let nested := runStream outcomes (retried m F outerBackoff (retried n E backoff request))
      requestsOf nested ≤ n * m ∧
      ∀ k, k + 1 < requestsOf nested →
        retryable E (outcomes k) = true ∨ retryable F (outcomes k) = true := by
  intro run
  obtain ⟨failed, hfailed, -, hcalls, hbefore, hlast, hresult⟩ :=
    runStream_of_wp (wp_retried_request outcomes E backoff hn)
  simp only [Nat.zero_add] at hbefore hlast hresult
  rw [List.nil_append] at hcalls
  have hrequests : requestsOf run = failed + 1 := by
    rw [requestsOf, hcalls]
    simp [count_failedCalls]
  refine ⟨fun i hi => ?_, fun hnone => ?_, ?_, ?_, fun m F outerBackoff hm => ?_⟩
  · rw [hrequests]
    exact requests_eq_min hfailed hbefore hlast hi
  · rw [hrequests]
    exact requests_eq_attempts hbefore hlast hnone
  · rw [hrequests, ← failedCalls_append_request]
    exact hcalls
  · rw [hrequests]
    exact hresult
  · obtain ⟨hcount, hle, hcaught⟩ := runStream_of_wp
      (wp_retried_retried outcomes E F backoff outerBackoff hn hm)
    rw [← hcount] at hle hcaught
    exact ⟨hle, hcaught⟩

/-- Two disconnections and an answer, within three attempts; and under a second wrapper. -/
theorem retry_bounded_faithful_three :
    let outcomes : ℕ → Except Exc ℕ := fun k =>
      if k < 2 then .error (.client .serverDisconnectedError "closed") else .ok 7
    let transport := retried 3 (·.oneOf [.serverDisconnectedError]) 0 request
    requestsOf (runStream outcomes transport) = 3 ∧
    (runStream outcomes transport).result = .ok (some 7) ∧
    requestsOf (runStream outcomes (retried 2 (·.oneOf [.clientError]) BACKOFF_TIME transport))
      ≤ 6 := by
  intro outcomes transport
  obtain ⟨hfirst, -, -, hresult, hnested⟩ := retry_bounded_faithful 3 (by decide)
    (·.oneOf [.serverDisconnectedError]) 0 outcomes
  have hthree : requestsOf (runStream outcomes transport) = 3 := by
    refine hfirst 3 ⟨by decide, rfl, fun j hj => ?_⟩
    have hfails : outcomes j = .error (.client .serverDisconnectedError "closed") :=
      if_pos (by omega)
    rw [hfails]
    rfl
  refine ⟨hthree, ?_, (hnested 2 (·.oneOf [.clientError]) BACKOFF_TIME (by decide)).1⟩
  rw [hresult, hthree]
  rfl

end Onvif
