/-
`ONVIFCamera.get_snapshot`: fetching a snapshot, and what its errors show of the URI.

The URI of a profile is asked for once and kept.  A request that is answered with 401 is repeated
without the credentials in the URI.  `handle_snapshot_errors` turns timeouts and client errors
into errors of this package, which name the URI.

* **`getSnapshot_result`** — how a run ends, from the outcomes of its requests.
-/
import OnvifZeep.CoroutineRules
import OnvifZeep.Credentials

namespace Onvif

open Coro

/-! ### The calls -/

/-- How a request is authenticated. -/
inductive SnapshotAuth where
  | anonymous
  | basic (user passwd : String)
  | digest (user passwd : String)
deriving DecidableEq

/-- `aiohttp.ClientResponse`. -/
structure SnapshotResponse where
  status : ℕ
  id : ℕ
deriving DecidableEq

inductive SnapshotCall where
  | createMediaService
  | getSnapshotUri (profileToken : String)
  | get (uri : String) (auth : SnapshotAuth) (timeout : ℚ)
  | read (response : SnapshotResponse)

abbrev snapshotInterface : Interface where
  Call := SnapshotCall
  Answer
    | .createMediaService => Unit
    -- `result.Uri`, if the result has one
    | .getSnapshotUri _ => Option (Option String)
    | .get _ _ _ => SnapshotResponse
    | .read _ => List UInt8

/-- `_snapshot_uris`. -/
abbrev SnapshotUris : Type := Dict String (Option String)

abbrev SnapshotCoro (α : Type) : Type := Coro snapshotInterface Exc SnapshotUris α

abbrev SnapshotWorld : Type := World snapshotInterface Exc SnapshotUris

namespace Snapshot

abbrev await (c : SnapshotCall) : SnapshotCoro (snapshotInterface.Answer c) :=
  call (I := snapshotInterface) c

variable {α : Type}

/-! ### The methods -/

/-- The `except` clauses of `handle_snapshot_errors`. -/
def reportSnapshotError (Y : Yarl) (uri : String) (error : Exc) : SnapshotCoro α :=
  if error.oneOf [.timeoutError] then
    ofExcept (obscureUserPassUrl Y uri) >>= fun shown =>
      .raise (.onvif .onvifTimeoutError ("Timed out fetching " ++ shown ++ ": " ++ error.str))
  else if error.oneOf [.clientError] then
    ofExcept (obscureUserPassUrl Y uri) >>= fun shown =>
      .raise (.onvif .onvifError ("Error fetching " ++ shown ++ ": " ++ error.str))
  else .raise error

def handleSnapshotErrors (Y : Yarl) (uri : String) (func : SnapshotCoro α) : SnapshotCoro α :=
  tryExcept func (reportSnapshotError Y uri)

def trySnapshotUri (Y : Yarl) (uri : String) (auth : SnapshotAuth) (timeout : ℚ) :
    SnapshotCoro SnapshotResponse :=
  handleSnapshotErrors Y uri (await (.get uri auth timeout))

def tryReadSnapshotContent (Y : Yarl) (uri : String) (response : SnapshotResponse) :
    SnapshotCoro (List UInt8) :=
  handleSnapshotErrors Y uri (await (.read response))

def getSnapshotUri (C : CameraConfig) (profileToken : String) : SnapshotCoro (Option String) := do
  let uris ← getState
  match uris.get? profileToken with
  | some uri => return uri
  | none =>
    await .createMediaService
    let result ← tryExcept (await (.getSnapshotUri profileToken)) fun error =>
      if error.oneOf [.fault] then pure none else .raise error
    -- a fault and a result without a URI both leave None
    let uri ← match result with
      | some uri => ofExcept (discoveredUrl C uri)
      | none => pure none
    modifyState fun uris => uris.insert profileToken uri
    return uri

/-- The authentication of the requests. -/
def snapshotAuth (C : CameraConfig) (basicAuth : Bool) : SnapshotAuth :=
  match C.user, C.passwd with
  | some user, some passwd =>
    if user = "" ∨ passwd = "" then .anonymous
    else if basicAuth then .basic user passwd else .digest user passwd
  | _, _ => .anonymous

/-- The request and, after a 401, the retry without the credentials in the URI. -/
def fetchSnapshot (Y : Yarl) (auth : SnapshotAuth) (timeout : ℚ) (uri : String) :
    SnapshotCoro (SnapshotResponse × List UInt8) := do
  let response ← trySnapshotUri Y uri auth timeout
  let content ← tryReadSnapshotContent Y uri response
  if response.status = 401 then
    let strippedUri ← ofExcept (stripUserPassUrl Y uri)
    if strippedUri ≠ "" ∧ strippedUri ≠ uri then
      let response ← trySnapshotUri Y strippedUri auth timeout
      let content ← tryReadSnapshotContent Y uri response
      return (response, content)
    else return (response, content)
  else return (response, content)

def getSnapshot (C : CameraConfig) (Y : Yarl) (profileToken : String) (basicAuth : Bool)
    (timeout : ℚ) : SnapshotCoro (Option (List UInt8)) := do
  match ← getSnapshotUri C profileToken with
  | none => return none
  | some uri =>
    let (response, content) ← fetchSnapshot Y (snapshotAuth C basicAuth) timeout uri
    if response.status = 401 then
      .raise (.onvif .onvifAuthError ("Failed to authenticate to " ++ uri))
    else if response.status < 300 then return some content
    else return none

/-! ### How a run ends -/

/-- What the requests and the body reads of a run come to, in the order they are made. -/
structure Outcomes where
  request : Except Exc SnapshotResponse
  body : Except Exc (List UInt8)
  retry : Except Exc SnapshotResponse
  retryBody : Except Exc (List UInt8)

/-- From its `n`-th call on, the world answers with these outcomes. -/
structure Delivers (w : SnapshotWorld) (n : ℕ) (o : Outcomes) : Prop where
  request : ∀ uri auth timeout s, (w n (.get uri auth timeout) s).1 = o.request
  body : ∀ response s, (w (n + 1) (.read response) s).1 = o.body
  retry : ∀ uri auth timeout s, (w (n + 2) (.get uri auth timeout) s).1 = o.retry
  retryBody : ∀ response s, (w (n + 3) (.read response) s).1 = o.retryBody

/-- The error that is raised for an error of a request, when `shown` stands for the URI. -/
def reportedAs (shown : String) (error : Exc) : Exc :=
  if error.oneOf [.timeoutError] then
    .onvif .onvifTimeoutError ("Timed out fetching " ++ shown ++ ": " ++ error.str)
  else if error.oneOf [.clientError] then
    .onvif .onvifError ("Error fetching " ++ shown ++ ": " ++ error.str)
  else error

/-- What `get_snapshot` makes of the last response. -/
def finish (uri : String) (response : SnapshotResponse) (content : List UInt8) :
    Except Exc (Option (List UInt8)) :=
  if response.status = 401 then
    .error (.onvif .onvifAuthError ("Failed to authenticate to " ++ uri))
  else if response.status < 300 then .ok (some content)
  else .ok none

/-- What `fetchSnapshot` returns or raises, when `shown` and `shownStripped` stand for the URI and
the stripped URI. -/
def fetched (uri shown strippedUri shownStripped : String) (o : Outcomes) :
    Except Exc (SnapshotResponse × List UInt8) :=
  match o.request with
  | .error e => .error (reportedAs shown e)
  | .ok response =>
    match o.body with
    | .error e => .error (reportedAs shown e)
    | .ok content =>
      if response.status = 401 then
        if strippedUri ≠ "" ∧ strippedUri ≠ uri then
          match o.retry with
          | .error e => .error (reportedAs shownStripped e)
          | .ok response =>
            match o.retryBody with
            | .error e => .error (reportedAs shown e)
            | .ok content => .ok (response, content)
        else .ok (response, content)
      else .ok (response, content)

/-- How a run ends. -/
def ending (uri shown strippedUri shownStripped : String) (o : Outcomes) :
    Except Exc (Option (List UInt8)) :=
  (fetched uri shown strippedUri shownStripped o).bind fun r => finish uri r.1 r.2

variable {Y : Yarl} {w : SnapshotWorld} {n : ℕ} {s : SnapshotUris} {β : Type}

theorem result_reportSnapshotError {uri shown : String}
    (hshown : obscureUserPassUrl Y uri = .ok shown) (error : Exc) (f : α → SnapshotCoro β) :
    ((reportSnapshotError Y uri error >>= f).exec w n s).result
      = .error (reportedAs shown error) := by
  rw [reportSnapshotError, reportedAs, hshown]
  by_cases htimeout : error.oneOf [.timeoutError] = true
  · rw [if_pos htimeout, if_pos htimeout]
    rfl
  · rw [if_neg htimeout, if_neg htimeout]
    by_cases hclient : error.oneOf [.clientError] = true
    · rw [if_pos hclient, if_pos hclient]
      rfl
    · rw [if_neg hclient, if_neg hclient]
      rfl

/-- A call under `handle_snapshot_errors`, and what follows it. -/
theorem result_handleSnapshotErrors {uri shown : String}
    (hshown : obscureUserPassUrl Y uri = .ok shown) (c : SnapshotCall)
    (f : snapshotInterface.Answer c → SnapshotCoro β) :
    ((handleSnapshotErrors Y uri (await c) >>= f).exec w n s).result =
      match (w n c s).1 with
      | .ok a => ((f a).exec w (n + 1) (w n c s).2).result
      | .error e => .error (reportedAs shown e) := by
  show (((tryExcept (ofExcept (w n c s).1) (reportSnapshotError Y uri)) >>= f).exec w (n + 1)
    (w n c s).2).result = _
  cases (w n c s).1 with
  | ok a => rfl
  | error e => exact result_reportSnapshotError hshown e f

section Ending

variable {o : Outcomes} {uri shown strippedUri shownStripped : String}
  (hshown : obscureUserPassUrl Y uri = .ok shown)
  (hstripped : stripUserPassUrl Y uri = .ok strippedUri)
  (hshownStripped : obscureUserPassUrl Y strippedUri = .ok shownStripped)

include hshown hstripped hshownStripped

theorem fetchSnapshot_result (ho : Delivers w n o) (auth : SnapshotAuth) (timeout : ℚ) :
    ((fetchSnapshot Y auth timeout uri).exec w n s).result
      = fetched uri shown strippedUri shownStripped o := by
  rw [fetchSnapshot, fetched, trySnapshotUri, result_handleSnapshotErrors hshown, ho.request]
  cases o.request with
  | error e => rfl
  | ok response =>
    dsimp only
    rw [tryReadSnapshotContent, result_handleSnapshotErrors hshown, ho.body]
    cases o.body with
    | error e => rfl
    | ok content =>
      dsimp only
      by_cases hstatus : response.status = 401
      · rw [if_pos hstatus, if_pos hstatus, hstripped]
        show ((if strippedUri ≠ "" ∧ strippedUri ≠ uri then _ else _ : SnapshotCoro _).exec w _
          _).result = _
        by_cases hretry : strippedUri ≠ "" ∧ strippedUri ≠ uri
        · rw [if_pos hretry, if_pos hretry, trySnapshotUri,
            result_handleSnapshotErrors hshownStripped, ho.retry]
          cases o.retry with
          | error e => rfl
          | ok response =>
            dsimp only
            rw [tryReadSnapshotContent, result_handleSnapshotErrors hshown, ho.retryBody]
            cases o.retryBody with
            | error e => rfl
            | ok content => rfl
        · rw [if_neg hretry, if_neg hretry]
          rfl
      · rw [if_neg hstatus, if_neg hstatus]
        rfl

/-- **How a run ends** once the URI is known. -/
theorem getSnapshot_result {C : CameraConfig} {profileToken : String} {basicAuth : Bool}
    {timeout : ℚ}
    (huri : ((getSnapshotUri C profileToken).exec w n s).result = .ok (some uri))
    (ho : Delivers w (n + ((getSnapshotUri C profileToken).exec w n s).trace.length) o) :
    ((getSnapshot C Y profileToken basicAuth timeout).exec w n s).result
      = ending uri shown strippedUri shownStripped o := by
  rw [getSnapshot, result_exec_bind, huri]
  dsimp only
  rw [result_exec_bind, fetchSnapshot_result hshown hstripped hshownStripped ho, ending]
  cases fetched uri shown strippedUri shownStripped o with
  | error e => rfl
  | ok r =>
    obtain ⟨response, content⟩ := r
    show ((if response.status = 401 then _ else _ : SnapshotCoro _).exec w _ _).result
      = finish uri response content
    rw [finish]
    by_cases hstatus : response.status = 401
    · rw [if_pos hstatus, if_pos hstatus]
      rfl
    · rw [if_neg hstatus, if_neg hstatus]
      by_cases hok : response.status < 300
      · rw [if_pos hok, if_pos hok]
        rfl
      · rw [if_neg hok, if_neg hok]
        rfl

end Ending

end Snapshot

end Onvif
