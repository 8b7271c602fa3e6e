/-
`onvif/zeep_aiohttp.py`: requests through a session of aiohttp, under the retries of
`AsyncTransportProtocolErrorHandler`.

The caller's dictionary of headers is shared with the transport, which fills in its defaults in
place; that dictionary is part of the state, as is whether the session has been closed.

* **`wp_exchange`** — one request and the reading of its response;
* **`wp_retried_attemptWith`** — the same under the retries: how often, and how it ends;
* **`every_attempt_alike`** — all attempts of a retried request send the same.
-/
import OnvifZeep.Retries
import OnvifZeep.ResponseHeaders
import OnvifZeep.BaseManager

namespace Onvif

open Coro

/-! ### The session -/

/-- `aiohttp.ClientTimeout`. -/
structure ClientTimeout where
  total : Option ℚ
  connect : Option ℚ
  sockRead : Option ℚ
deriving DecidableEq

inductive HttpMethod where
  | post | get
deriving DecidableEq

/-- What is given to `session.post` or `session.get`. -/
structure HttpRequest where
  method : HttpMethod
  address : String
  params : Option (List (String × String))
  data : Option (List UInt8)
  headers : Dict String String
  proxy : Option String
  timeout : ClientTimeout

/-- What a request waits for; `read` reads the body of the response before it. -/
inductive SessionCall where
  | request (r : HttpRequest)
  | read
  | sleep (seconds : ℚ)

abbrev SessionAnswer : SessionCall → Type
  | .request _ => ClientResponse
  | .read => List UInt8
  | .sleep _ => Unit

abbrev clientSession : Interface := ⟨SessionCall, SessionAnswer⟩

/-- What a request shares with the rest of the program: the dictionary given as its headers, if
one was, whether the session has been closed, and the time, which messages are built with. -/
structure SessionState where
  headers : Option (Dict String String)
  closed : Bool
  now : ℚ

/-- What the transport uses of zeep: `get_version` and `etree_to_string`. -/
structure ZeepUtils where
  getVersion : String
  etreeToString : Element → List UInt8

/-- The argument `message`. -/
inductive Message where
  | str (s : String)
  | bytes (b : List UInt8)

/-- `message.encode("utf-8") if isinstance(message, str) else message`. -/
def Message.data : Message → List UInt8
  | .str s => s.toUTF8.toList
  | .bytes b => b

/-! ### The transport -/

/-- The fields of `AIOHTTPTransport` that a request reads. -/
structure SessionTransport where
  proxy : Option String
  clientTimeout : ClientTimeout

namespace SessionTransport

/-- The defaults of a `POST`. -/
def postDefaults (zeep : ZeepUtils) : List (String × String) :=
  [("User-Agent", "Zeep/" ++ zeep.getVersion), ("Content-Type", "text/xml; charset=\"utf-8\"")]

/-- The defaults of a `GET`. -/
def getDefaults (zeep : ZeepUtils) : List (String × String) :=
  [("User-Agent", "Zeep/" ++ zeep.getVersion)]

/-- `headers or {}` with the defaults filled in. -/
def sentHeaders (defaults : List (String × String)) : Option (Dict String String) →
    Dict String String
  | some headers => headers.setDefaults defaults
  | none => Dict.empty.setDefaults defaults

/-- The caller's dictionary afterwards: an empty one is replaced by a new one, any other is the one
filled in. -/
def callerHeaders (defaults : List (String × String)) : Option (Dict String String) →
    Option (Dict String String)
  | some headers => some (if headers.entries = [] then headers else headers.setDefaults defaults)
  | none => none

/-- `headers = headers or {}` and the `setdefault`s. -/
def setDefaults (defaults : List (String × String)) :
    Coro clientSession Exc SessionState (Dict String String) :=
  getState >>= fun s =>
    modifyState (fun s => { s with headers := callerHeaders defaults s.headers }) >>= fun _ =>
      pure (sentHeaders defaults s.headers)

/-- What the handlers of a request raise, where `action` says what failed. -/
def reraised (action address : String) (closed : Bool) (exc : Exc) : Exc :=
  match exc with
  | .builtin .runtimeError message =>
    let msg := "Failed to " ++ action ++ " " ++ address ++ ": " ++ message
    if closed then .client .clientError msg else .builtin .runtimeError msg
  | exc =>
    if exc.isInstance .timeoutError then .timeoutError ("Request to " ++ address ++ " timed out")
    else exc

/-- The handlers of a request. -/
def handled {α : Type} (action address : String) (body : Coro clientSession Exc SessionState α) :
    Coro clientSession Exc SessionState α :=
  tryExcept body fun exc => getState >>= fun s => .raise (reraised action address s.closed exc)

/-- Send `r` and read the response. -/
def exchange (r : HttpRequest) :
    Coro clientSession Exc SessionState (ClientResponse × List UInt8) :=
  call (I := clientSession) (.request r) >>= fun response =>
    call (I := clientSession) .read >>= fun content => pure (response, content)

variable (self : SessionTransport) (zeep : ZeepUtils)

/-- The arguments of `session.post`. -/
def postRequest (address : String) (data : List UInt8) (headers : Dict String String) :
    HttpRequest where
  method := .post
  address := address
  params := none
  data := some data
  headers := headers
  proxy := self.proxy
  timeout := self.clientTimeout

/-- The arguments of `session.get`. -/
def getRequest (address : String) (params : Option (List (String × String)))
    (headers : Dict String String) : HttpRequest where
  method := .get
  address := address
  params := params
  data := none
  headers := headers
  proxy := self.proxy
  timeout := self.clientTimeout

/-- `_post_internal`. -/
def postInternal (address : String) (message : Message) :
    Coro clientSession Exc SessionState (ClientResponse × List UInt8) :=
  setDefaults (postDefaults zeep) >>= fun headers =>
    handled "post to" address (exchange (self.postRequest address message.data headers))

def post (X : HttpxHeaders) (address message : String) :
    Coro clientSession Exc SessionState (HttpxResponse X.Headers) :=
  postInternal self zeep address (.str message) >>= fun p =>
    ofExcept (aiohttpToHttpxResponse X p.1 p.2)

def postXml {fold : String → String} (D : CaseInsensitiveDict fold) (address : String)
    (envelope : Element) : Coro clientSession Exc SessionState (RequestsResponse D.Headers) :=
  postInternal self zeep address (.bytes (zeep.etreeToString envelope)) >>= fun p =>
    pure (aiohttpToRequestsResponse D p.1 p.2)

def get {fold : String → String} (D : CaseInsensitiveDict fold) (address : String)
    (params : Option (List (String × String))) :
    Coro clientSession Exc SessionState (RequestsResponse D.Headers) :=
  setDefaults (getDefaults zeep) >>= fun headers =>
    handled "get from" address (exchange (self.getRequest address params headers) >>= fun p =>
      pure (aiohttpToRequestsResponse D p.1 p.2))

/-! ### One attempt -/

/-- The three methods, at one request: fill in the defaults, send, convert what comes back. -/
def attemptWith {β : Type} (action : String) (defaults : List (String × String))
    (request : Dict String String → HttpRequest) (address : String)
    (convert : ClientResponse × List UInt8 → Except Exc β) : Coro clientSession Exc SessionState β :=
  setDefaults defaults >>= fun headers =>
    handled action address (exchange (request headers)) >>= fun p => ofExcept (convert p)

theorem sentHeaders_callerHeaders (defaults : List (String × String))
    (headers : Option (Dict String String)) :
    sentHeaders defaults (callerHeaders defaults headers) = sentHeaders defaults headers := by
  cases headers with
  | none => rfl
  | some d =>
    rw [callerHeaders]
    split_ifs
    · rfl
    · exact d.setDefaults_setDefaults defaults

theorem callerHeaders_callerHeaders (defaults : List (String × String))
    (headers : Option (Dict String String)) :
    callerHeaders defaults (callerHeaders defaults headers) = callerHeaders defaults headers := by
  cases headers with
  | none => rfl
  | some d =>
    rw [callerHeaders]
    by_cases hd : d.entries = []
    · rw [if_pos hd, callerHeaders, if_pos hd]
    · rw [if_neg hd, callerHeaders, d.setDefaults_setDefaults]
      rw [ite_self]

abbrev SessionEvent := Event clientSession Exc SessionState

/-- What sending `r` and reading the response comes to, and the state then: no response, a response
whose body cannot be read, or both. -/
inductive Exchanged (r : HttpRequest) :
    List SessionEvent → Except Exc (ClientResponse × List UInt8) → SessionState → Prop
  | refused (s s' : SessionState) (exc : Exc) :
    Exchanged r [⟨.request r, s, .error exc, s'⟩] (.error exc) s'
  | unread (s s₁ s' : SessionState) (response : ClientResponse) (exc : Exc) :
    Exchanged r [⟨.request r, s, .ok response, s₁⟩, ⟨.read, s₁, .error exc, s'⟩] (.error exc) s'
  | answered (s s₁ s' : SessionState) (response : ClientResponse) (content : List UInt8) :
    Exchanged r [⟨.request r, s, .ok response, s₁⟩, ⟨.read, s₁, .ok content, s'⟩]
      (.ok (response, content)) s'

variable {P : SessionEvent → Prop} {trace : List SessionEvent} {s : SessionState}

/-- **Sending a request and reading the response.** -/
theorem wp_exchange (r : HttpRequest) (J : SessionState → Prop)
    (hJ : ∀ v : SessionEvent, P v → J v.before → J v.after) (h : J s) :
    wp (recording P) (fun res trace' s' => J s' ∧ ∃ events, trace' = trace ++ events ∧
      (∀ v ∈ events, P v) ∧ Exchanged r events res s') (exchange r) trace s := by
  rw [exchange, wp_bind, wp_call_recording]
  intro answer s₁ hsent
  have hJ₁ := hJ _ hsent h
  rcases answer with exc | response
  · refine ⟨hJ₁, [_], rfl, ?_, .refused s s₁ exc⟩
    rintro v hv
    rw [List.mem_singleton.mp hv]
    exact hsent
  · rw [ends_ok, wp_bind, wp_call_recording]
    intro answer s' hread
    have hevents : ∀ v ∈ [(⟨.request r, s, .ok response, s₁⟩ : SessionEvent),
        ⟨.read, s₁, answer, s'⟩], P v := by
      intro v hv
      rcases List.mem_pair.mp hv with rfl | rfl
      · exact hsent
      · exact hread
    have hJ' := hJ _ hread hJ₁
    rcases answer with exc | content
    · exact ⟨hJ', _, List.append_assoc .., hevents, .unread s s₁ s' response exc⟩
    · exact ⟨hJ', _, List.append_assoc .., hevents, .answered s s₁ s' response content⟩

/-- What is made of the answer to a request. -/
def finished {β : Type} (action address : String)
    (convert : ClientResponse × List UInt8 → Except Exc β) (closed : Bool) :
    Except Exc (ClientResponse × List UInt8) → Except Exc β
  | .ok p => convert p
  | .error exc => .error (reraised action address closed exc)

/-- **One attempt**: the headers sent are those of the caller with the defaults that are missing. -/
theorem wp_attemptWith {β : Type} {action address : String} {defaults : List (String × String)}
    {request : Dict String String → HttpRequest}
    {convert : ClientResponse × List UInt8 → Except Exc β} (J : SessionState → Prop)
    (hJ : ∀ v : SessionEvent, P v → J v.before → J v.after)
    (h : J { s with headers := callerHeaders defaults s.headers }) :
    wp (recording P) (fun res trace' s' => J s' ∧ ∃ events answer, trace' = trace ++ events ∧
      (∀ v ∈ events, P v) ∧ Exchanged (request (sentHeaders defaults s.headers)) events answer s' ∧
      res = finished action address convert s'.closed answer)
      (attemptWith action defaults request address convert) trace s := by
  rw [attemptWith, wp_bind, setDefaults, wp_bind, wp_getState, ends_ok, wp_bind, wp_modifyState,
    ends_ok, wp_pure, ends_ok, wp_bind, handled, wp_tryExcept]
  refine wp_mono (fun answer trace' s' hanswer => ?_) (wp_exchange _ J hJ h)
  obtain ⟨hJ', events, htrace, hP, hexchanged⟩ := hanswer
  rcases answer with exc | p
  · exact ⟨hJ', events, _, htrace, hP, hexchanged, rfl⟩
  · rw [ends_ok, ends_ok, wp_ofExcept]
    exact ⟨hJ', events, _, htrace, hP, hexchanged, rfl⟩

/-! ### The retries -/

/-- The method of `AsyncTransportProtocolErrorHandler` around one of the transport. -/
def retried {β : Type} (func : Coro clientSession Exc SessionState β) :
    Coro clientSession Exc SessionState (Option β) :=
  AsyncTransportProtocolErrorHandler.retryOnDisconnect
    (fun seconds => call (I := clientSession) (.sleep seconds)) func

def isRequest : SessionCall → Bool
  | .request _ => true
  | _ => false

/-- The requests among the events. -/
def requestCount (events : List SessionEvent) : ℕ := events.countP fun v => isRequest v.call

/-- The exception means that the request did not reach the server. -/
def isDisconnect (exc : Exc) : Prop :=
  exc.oneOf AsyncTransportProtocolErrorHandler.disconnected = true

/-- The event is not the last one: a response whose body is read next, a disconnection after which
the request is sent again, or the pause before that. -/
def GoesOn (v : SessionEvent) : Prop :=
  (isRequest v.call ∧ ∃ response, v.answer = .ok response) ∨
    (v.call = .sleep 0) ∨ ∃ exc, v.answer = .error exc ∧ isDisconnect exc

/-- What an attempt to send `r` waits for. -/
def SendsOnly (r : HttpRequest) (v : SessionEvent) : Prop :=
  v.call = .request r ∨ v.call = .read ∨ v.call = .sleep 0

/-- All attempts of a run send `r`, at most two of them, the second after a disconnection; the
caller's headers become `caller`, and a result is converted from the last response. -/
structure AttemptsAlike {β : Type} (r : HttpRequest) (caller : Option (Dict String String))
    (convert : ClientResponse × List UInt8 → Except Exc β) (res : Except Exc (Option β))
    (trace : List SessionEvent) (s' : SessionState) : Prop where
  calls : ∀ v ∈ trace, SendsOnly r v
  requests : requestCount trace = 1 ∨ requestCount trace = 2
  goesOn : ∀ v ∈ trace.dropLast, GoesOn v
  headers : s'.headers = caller
  result : ∀ b, res = .ok b → ∃ front events p b', trace = front ++ events ∧
    Exchanged r events (.ok p) s' ∧ convert p = .ok b' ∧ b = some b'

namespace Exchanged

variable {r : HttpRequest} {events : List SessionEvent}
  {res : Except Exc (ClientResponse × List UInt8)} {s : SessionState}

theorem sendsOnly (h : Exchanged r events res s) : ∀ v ∈ events, SendsOnly r v := by
  intro v hv
  cases h with
  | refused s s' exc =>
    rw [List.mem_singleton.mp hv]
    exact Or.inl rfl
  | unread s s₁ s' response exc | answered s s₁ s' response content =>
    rcases List.mem_pair.mp hv with rfl | rfl
    · exact Or.inl rfl
    · exact Or.inr (Or.inl rfl)

theorem requestCount_eq (h : Exchanged r events res s) : requestCount events = 1 := by
  cases h <;> rfl

theorem dropLast_goesOn (h : Exchanged r events res s) : ∀ v ∈ events.dropLast, GoesOn v := by
  intro v hv
  cases h with
  | refused s s' exc => exact absurd hv List.not_mem_nil
  | unread s s₁ s' response exc | answered s s₁ s' response content =>
    rw [List.mem_singleton.mp hv]
    exact Or.inl ⟨rfl, response, rfl⟩

theorem ne_nil (h : Exchanged r events res s) : events ≠ [] := by
  cases h <;> exact List.cons_ne_nil _ _

/-- Before another attempt every event goes on. -/
theorem goesOn {exc : Exc} (h : Exchanged r events (.error exc) s) (hexc : isDisconnect exc) :
    ∀ v ∈ events, GoesOn v := by
  intro v hv
  cases h with
  | refused s s' =>
    rw [List.mem_singleton.mp hv]
    exact Or.inr (Or.inr ⟨exc, rfl, hexc⟩)
  | unread s s₁ s' response =>
    rcases List.mem_pair.mp hv with rfl | rfl
    · exact Or.inl ⟨rfl, response, rfl⟩
    · exact Or.inr (Or.inr ⟨exc, rfl, hexc⟩)

end Exchanged

/-- Of the exceptions of a request, the handlers leave the disconnections as they are and make
none. -/
theorem isDisconnect_reraised {action address : String} {closed : Bool} {exc : Exc}
    (h : isDisconnect (reraised action address closed exc)) : isDisconnect exc := by
  unfold reraised at h
  split at h
  · cases closed <;> exact absurd h Bool.false_ne_true
  · split at h
    · exact absurd h Bool.false_ne_true
    · exact h

theorem requestCount_append (front events : List SessionEvent) :
    requestCount (front ++ events) = requestCount front + requestCount events :=
  List.countP_append

/-- **A retried request**, as long as nobody else changes the caller's dictionary. -/
theorem wp_retried_attemptWith {β : Type} {action address : String}
    {defaults : List (String × String)} {request : Dict String String → HttpRequest}
    {convert : ClientResponse × List UInt8 → Except Exc β}
    (hconvert : ∀ p exc, convert p = .error exc → ¬isDisconnect exc) (s : SessionState) :
    wp (recording fun v => v.after.headers = v.before.headers)
      (AttemptsAlike (request (sentHeaders defaults s.headers)) (callerHeaders defaults s.headers)
        convert)
      (retried (attemptWith action defaults request address convert)) [] s := by
  -- before an attempt: the defaults have been filled in by an earlier one, or by none
  let J (attempt : ℕ) (trace : List SessionEvent) (s' : SessionState) : Prop :=
    callerHeaders defaults s'.headers = callerHeaders defaults s.headers ∧
    (∀ v ∈ trace, SendsOnly (request (sentHeaders defaults s.headers)) v ∧ GoesOn v) ∧
    requestCount trace = attempt
  refine wp_asyncWrapConnectionErrorRetry J (by decide) (fun attempt hattempt trace s₀ hJ => ?_)
    ⟨rfl, by simp, rfl⟩
  obtain ⟨hheaders, hevents, hcount⟩ := hJ
  have hsent : sentHeaders defaults s₀.headers = sentHeaders defaults s.headers := by
    rw [← sentHeaders_callerHeaders, hheaders, sentHeaders_callerHeaders]
  refine wp_mono (fun res trace' s' hres => ?_) (wp_attemptWith
    (fun s' => s'.headers = callerHeaders defaults s.headers)
    (fun v hv hbefore => hv.trans hbefore) (by exact hheaders))
  obtain ⟨hcaller, events, answer, rfl, -, hexchanged, rfl⟩ := hres
  rw [hsent] at hexchanged
  have hsends : ∀ v ∈ trace ++ events, SendsOnly (request (sentHeaders defaults s.headers)) v :=
    List.forall_mem_append.mpr ⟨fun v hv => (hevents v hv).1, hexchanged.sendsOnly⟩
  have hrequests : requestCount (trace ++ events) = attempt + 1 := by
    rw [requestCount_append, hcount, hexchanged.requestCount_eq]
  have hdrop : ∀ v ∈ (trace ++ events).dropLast, GoesOn v := by
    rw [List.dropLast_append_of_ne_nil hexchanged.ne_nil]
    exact List.forall_mem_append.mpr ⟨fun v hv => (hevents v hv).2, hexchanged.dropLast_goesOn⟩
  have htwo : requestCount (trace ++ events) = 1 ∨ requestCount (trace ++ events) = 2 := by
    omega
  have hlast : ∀ exc, AttemptsAlike (request (sentHeaders defaults s.headers))
      (callerHeaders defaults s.headers) convert (.error exc) (trace ++ events) s' :=
    fun exc => ⟨hsends, htwo, hdrop, hcaller, fun b hb => by cases hb⟩
  rcases answer with exc | p
  · show Ends _ _ (.error _) _ _
    rw [ends_error]
    split_ifs with hagain
    · -- the request did not reach the server: a pause, then the same again
      have hgoes : ∀ v ∈ trace ++ events, GoesOn v :=
        List.forall_mem_append.mpr ⟨fun v hv => (hevents v hv).2,
          hexchanged.goesOn (isDisconnect_reraised hagain.1)⟩
      refine wp_call_recording.mpr fun answer s'' hkept => ?_
      have hsleep : GoesOn ⟨.sleep 0, s', answer, s''⟩ := Or.inr (Or.inl rfl)
      have hsends' : ∀ v ∈ trace ++ events ++ [⟨.sleep 0, s', answer, s''⟩],
          SendsOnly (request (sentHeaders defaults s.headers)) v :=
        List.forall_mem_append.mpr ⟨hsends, fun v hv => by
          rw [List.mem_singleton.mp hv]
          exact Or.inr (Or.inr rfl)⟩
      have hrequests' : requestCount (trace ++ events ++ [⟨.sleep 0, s', answer, s''⟩])
          = attempt + 1 := by
        rw [requestCount_append, hrequests]
        rfl
      have hcaller' : s''.headers = callerHeaders defaults s.headers := hkept.trans hcaller
      rcases answer with exc' | _
      · refine ⟨hsends', by omega, ?_, hcaller', fun b hb => by cases hb⟩
        rw [List.dropLast_concat]
        exact hgoes
      · refine ⟨?_, fun v hv => ⟨hsends' v hv, ?_⟩, hrequests'⟩
        · rw [hcaller', callerHeaders_callerHeaders]
        · rcases List.mem_append.mp hv with hv | hv
          · exact hgoes v hv
          · rw [List.mem_singleton.mp hv]
            exact hsleep
    · exact hlast _
  · show Ends _ _ (convert p) _ _
    rcases hp : convert p with exc | b
    · rw [ends_error, if_neg fun h => hconvert p exc hp h.1]
      exact hlast exc
    · rw [ends_ok]
      refine ⟨hsends, htwo, hdrop, hcaller, fun b' hb' => ?_⟩
      exact ⟨trace, events, p, b, rfl, hexchanged, hp, (Except.ok.inj hb').symm⟩

/-! ### The three methods -/

section Methods

variable (self : SessionTransport) (zeep : ZeepUtils)

theorem post_eq (X : HttpxHeaders) (address message : String) :
    self.post zeep X address message =
      attemptWith "post to" (postDefaults zeep)
        (self.postRequest address (Message.str message).data) address
        fun p => aiohttpToHttpxResponse X p.1 p.2 := rfl

theorem postXml_eq {fold : String → String} (D : CaseInsensitiveDict fold) (address : String)
    (envelope : Element) :
    self.postXml zeep D address envelope =
      attemptWith "post to" (postDefaults zeep)
        (self.postRequest address (zeep.etreeToString envelope)) address
        fun p => .ok (aiohttpToRequestsResponse D p.1 p.2) := rfl

/-- Converting a response inside the handlers or after them is the same, as it cannot raise. -/
theorem handled_bind_pure {α β : Type} (action address : String)
    (x : Coro clientSession Exc SessionState α) (f : α → β) :
    handled action address (x >>= fun a => pure (f a))
      = handled action address x >>= fun a => pure (f a) := by
  show (x.bind fun a => .ret (f a)).attempt.bind _ = (x.attempt.bind _).bind _
  induction x with
  | ret a => rfl
  | raise e => rfl
  | read k ih => exact congrArg Coro.read (funext ih)
  | write s k ih => exact congrArg (Coro.write s) ih
  | await c k ih => exact congrArg (Coro.await c) (funext ih)

theorem get_eq {fold : String → String} (D : CaseInsensitiveDict fold) (address : String)
    (params : Option (List (String × String))) :
    self.get zeep D address params =
      attemptWith "get from" (getDefaults zeep) (self.getRequest address params) address
        fun p => .ok (aiohttpToRequestsResponse D p.1 p.2) := by
  rw [get, attemptWith]
  exact congrArg _ (funext fun headers => handled_bind_pure _ _ _ _)

variable (X : HttpxHeaders) {fold : String → String} (D : CaseInsensitiveDict fold)

/-- **Every attempt of a retried request sends the same**: the body, the headers of the caller with
the defaults for those it lacks, the proxy and the timeout; there are at most two, the second after
a disconnection, and a result comes from the last response. -/
theorem every_attempt_alike
    (hX : ∀ l exc, X.ofList l = .error exc → ¬isDisconnect exc)
    (address message : String) (envelope : Element) (params : Option (List (String × String)))
    (w : World clientSession Exc SessionState) (n : ℕ) (s : SessionState)
    (hw : ∀ n c s, (w n c s).2.headers = s.headers) :
    (let run := (retried (self.post zeep X address message)).exec w n s
    AttemptsAlike (self.postRequest address (Message.str message).data
        (sentHeaders (postDefaults zeep) s.headers)) (callerHeaders (postDefaults zeep) s.headers)
      (fun p => aiohttpToHttpxResponse X p.1 p.2) run.result run.trace run.state) ∧
    (let run := (retried (self.postXml zeep D address envelope)).exec w n s
    AttemptsAlike (self.postRequest address (zeep.etreeToString envelope)
        (sentHeaders (postDefaults zeep) s.headers)) (callerHeaders (postDefaults zeep) s.headers)
      (fun p => .ok (aiohttpToRequestsResponse D p.1 p.2)) run.result run.trace run.state) ∧
    (let run := (retried (self.get zeep D address params)).exec w n s
    AttemptsAlike (self.getRequest address params (sentHeaders (getDefaults zeep) s.headers))
      (callerHeaders (getDefaults zeep) s.headers)
      (fun p => .ok (aiohttpToRequestsResponse D p.1 p.2)) run.result run.trace run.state) ∧
    ∀ defaults name, (sentHeaders defaults s.headers).get? name =
      (s.headers.bind (·.get? name)).or (defaults.lookup name) := by
  have hkept : ∀ {β : Type} (x : Coro clientSession Exc SessionState β),
      ∀ v ∈ (x.exec w n s).trace, v.after.headers = v.before.headers := by
    intro β x v hv
    obtain ⟨i, hi⟩ := exec_answered hv
    rw [← hw i v.call v.before, hi]
  have hhttpx : ∀ (p : ClientResponse × List UInt8) exc,
      aiohttpToHttpxResponse X p.1 p.2 = .error exc → ¬isDisconnect exc := by
    intro p exc h
    unfold aiohttpToHttpxResponse at h
    cases hl : X.ofList (filterHeaders p.1.headers) with
    | error exc' =>
      rw [hl] at h
      cases h
      exact hX _ _ hl
    | ok l =>
      rw [hl] at h
      cases h
  refine ⟨?_, ?_, ?_, fun defaults name => ?_⟩
  · rw [post_eq]
    exact wp_exec_recording (wp_retried_attemptWith hhttpx s) (hkept _)
  · rw [postXml_eq]
    exact wp_exec_recording (wp_retried_attemptWith (fun _ _ h => by cases h) s) (hkept _)
  · rw [get_eq]
    exact wp_exec_recording (wp_retried_attemptWith (fun _ _ h => by cases h) s) (hkept _)
  · cases hs : s.headers with
    | none => exact Dict.get?_setDefaults _ _ _
    | some d => exact Dict.get?_setDefaults _ _ _

end Methods

/-! ### A session that loses its connection once -/

/-- An empty SOAP response. -/
def emptyResponse : ClientResponse where
  status := 200
  headers := [("Content-Type", "text/xml")]
  method := "POST"
  url := "http://192.168.1.64/onvif/device_service"
  charset := some "utf-8"
  cookies := []

/-- The first request finds the connection closed, and every other is answered. -/
def flakySession : World clientSession Exc SessionState := fun n c s =>
  match c with
  | .request _ =>
    (if n = 0 then .error (.client .serverDisconnectedError "Server disconnected")
      else .ok emptyResponse, s)
  | .read => (.ok [], s)
  | .sleep _ => (.ok (), s)

def sampleTransport : SessionTransport where
  proxy := none
  clientTimeout := { total := some 90, connect := some 30, sockRead := some 90 }

def sampleZeep : ZeepUtils where
  getVersion := "4.3.1"
  etreeToString _ := []

def sampleEnvelope : Element :=
  ⟨{ tag := ⟨some "http://www.w3.org/2003/05/soap-envelope", "Envelope"⟩
     nsPrefix := none
     nsmap := []
     attrib := []
     text := none
     tail := none }, []⟩

/-- The headers that zeep gives a SOAP 1.2 request. -/
def soapHeaders : Dict String String :=
  Dict.empty.insertAll [("Content-Type", "application/soap+xml; charset=utf-8; action=\"Renew\"")]

def sampleState : SessionState := { headers := some soapHeaders, closed := false, now := 0 }

theorem every_attempt_alike_flaky :
    let run := (retried (sampleTransport.postXml sampleZeep (foldedDict lower) "http://camera/"
      sampleEnvelope)).exec flakySession 0 sampleState
    requestCount run.trace = 2 ∧
    AttemptsAlike (sampleTransport.postRequest "http://camera/" []
        (sentHeaders (postDefaults sampleZeep) (some soapHeaders)))
      (callerHeaders (postDefaults sampleZeep) (some soapHeaders))
      (fun p => .ok (aiohttpToRequestsResponse (foldedDict lower) p.1 p.2))
      run.result run.trace run.state := by
  refine ⟨rfl, ?_⟩
  have hkept : ∀ n c s, (flakySession n c s).2.headers = s.headers := by
    intro n c s
    cases c <;> rfl
  have hascii : ∀ l exc, listHeaders.ofList l = .error exc → ¬isDisconnect exc := by
    intro l exc h
    simp only [listHeaders] at h
    split at h
    · cases h
    · cases h
      exact Bool.false_ne_true
  exact (every_attempt_alike sampleTransport sampleZeep listHeaders (foldedDict lower) hascii
    "http://camera/" "" sampleEnvelope none flakySession 0 sampleState hkept).2.1

end SessionTransport

end Onvif
