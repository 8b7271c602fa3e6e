/-
The requests of `get_snapshot`, in their order.

A request goes out with the authentication of the camera, the body of a response is read before
anything else happens, and a second request follows only a 401 to the first.  The URI of a profile
is asked for until the device has answered in a way that is stored, and then never again.

* **`snapshot_requests_lawful`** — every event of a run is allowed after the events before it, and
  what is returned is the body of the last response;
* **`snapshot_uri_asked_once`** — any number of calls, one after the other, between which the other
  users of the camera may get snapshots too.
-/
import OnvifZeep.Runs
import OnvifZeep.Snapshot
import OnvifZeep.YarlText

namespace Onvif

open Coro

abbrev SnapshotEvent : Type := Event snapshotInterface Exc SnapshotUris

namespace Snapshot

/-! ### The order of one call -/

/-- The event is a request for a snapshot. -/
def isGet (v : SnapshotEvent) : Bool :=
  match v.call with
  | .get _ _ _ => true
  | _ => false

section Order

variable (Y : Yarl) (profileToken : String) (auth : SnapshotAuth) (timeout : ℚ)

/-- A request of this call was answered with the response. -/
def Responded (uri : String) (response : SnapshotResponse) (v : SnapshotEvent) : Prop :=
  ∃ s s', v = ⟨.get uri auth timeout, s, .ok response, s'⟩

/-- The body of the response was read. -/
def BodyRead (response : SnapshotResponse) (content : List UInt8) (v : SnapshotEvent) : Prop :=
  ∃ s s', v = ⟨.read response, s, .ok content, s'⟩

/-- The first request was answered with 401, and the URI without its credentials is another. -/
def Unauthorized (uri : String) (front : List SnapshotEvent) : Prop :=
  ∃ before v v' uri' response content, front = before ++ [v, v'] ∧
    (∀ u ∈ before, isGet u = false) ∧ Responded auth timeout uri' response v ∧
    BodyRead response content v' ∧ response.status = 401 ∧
    stripUserPassUrl Y uri' = .ok uri ∧ uri ≠ "" ∧ uri ≠ uri'

/-- The call is allowed after the events `front`. -/
def CallAllowed (front : List SnapshotEvent) : SnapshotCall → Prop
  | .createMediaService => front = []
  | .getSnapshotUri token =>
    token = profileToken ∧ ∃ v, front = [v] ∧ v.call = .createMediaService
  | .get uri auth' timeout' => auth' = auth ∧ timeout' = timeout ∧
    ((∀ v ∈ front, isGet v = false) ∨ Unauthorized Y auth timeout uri front)
  | .read response => ∃ before v uri, front = before ++ [v] ∧ Responded auth timeout uri response v

abbrev Allowed (front : List SnapshotEvent) (v : SnapshotEvent) : Prop :=
  CallAllowed Y profileToken auth timeout front v.call

/-- The body of the last response, whose status is as described. -/
def EndsWith (status : ℕ → Prop) (content : List UInt8) (trace : List SnapshotEvent) : Prop :=
  ∃ before v v' uri response, trace = before ++ [v, v'] ∧ Responded auth timeout uri response v ∧
    BodyRead response content v' ∧ status response.status

/-- What is returned after the events `trace`. -/
def Justified (trace : List SnapshotEvent) : Except Exc (Option (List UInt8)) → Prop
  | .ok (some content) => EndsWith auth timeout (fun status => status < 300) content trace
  | .ok none => (∀ v ∈ trace, isGet v = false) ∨
      ∃ content, EndsWith auth timeout (fun status => 300 ≤ status ∧ status ≠ 401) content trace
  | .error _ => True

end Order

section Rules

variable {C : CameraConfig} {Y : Yarl} {profileToken uri : String} {auth : SnapshotAuth}
  {timeout : ℚ} {K : Contract snapshotInterface Exc SnapshotUris (List SnapshotEvent)}
  {α : Type} {trace : List SnapshotEvent} {s : SnapshotUris} {P : SnapshotEvent → Prop}

/-- Reporting an error ends with an error. -/
theorem wp_reportSnapshotError {Q : Except Exc α → List SnapshotEvent → SnapshotUris → Prop}
    (error : Exc) (herror : ∀ e, Q (.error e) trace s) :
    wp K Q (reportSnapshotError Y uri error) trace s := by
  have hshown : ∀ raise : String → Exc, wp K Q
      (ofExcept (obscureUserPassUrl Y uri) >>= fun shown => .raise (raise shown)) trace s := by
    intro raise
    rw [wp_bind, wp_ofExcept]
    cases obscureUserPassUrl Y uri with
    | ok shown => exact herror _
    | error e => exact herror _
  rw [reportSnapshotError]
  split_ifs
  · exact hshown _
  · exact hshown _
  · exact herror _

/-- A call under `handle_snapshot_errors`, in a recorded run. -/
theorem wp_handleSnapshotErrors {c : SnapshotCall}
    {Q : Except Exc (snapshotInterface.Answer c) → List SnapshotEvent → SnapshotUris → Prop}
    (hok : ∀ a s', P ⟨c, s, .ok a, s'⟩ → Q (.ok a) (trace ++ [⟨c, s, .ok a, s'⟩]) s')
    (herror : ∀ e e' s', P ⟨c, s, .error e, s'⟩ →
      Q (.error e') (trace ++ [⟨c, s, .error e, s'⟩]) s') :
    wp (recording P) Q (handleSnapshotErrors Y uri (await c)) trace s := by
  rw [handleSnapshotErrors, wp_tryExcept, wp_call_recording]
  intro r s' hP
  cases r with
  | ok a => exact hok a s' hP
  | error e => exact wp_reportSnapshotError e fun e' => herror e e' s' hP

end Rules

section Lawful

variable {C : CameraConfig} {Y : Yarl} {profileToken uri : String} {auth : SnapshotAuth}
  {timeout : ℚ} {trace : List SnapshotEvent} {s : SnapshotUris}

/-- The order of the events, whatever they are. -/
abbrev anyOrder : Contract snapshotInterface Exc SnapshotUris (List SnapshotEvent) :=
  recording fun _ => True

/-- Before the first request. -/
structure Unrequested (Y : Yarl) (profileToken : String) (auth : SnapshotAuth) (timeout : ℚ)
    (trace : List SnapshotEvent) : Prop where
  lawful : Runs.Lawful (Allowed Y profileToken auth timeout) trace
  noGet : ∀ v ∈ trace, isGet v = false

theorem Unrequested.nil : Unrequested Y profileToken auth timeout [] where
  lawful := Runs.lawful_nil _
  noGet _ hv := absurd hv List.not_mem_nil

theorem Unrequested.snoc {v : SnapshotEvent} (h : Unrequested Y profileToken auth timeout trace)
    (hv : Allowed Y profileToken auth timeout trace v) (hget : isGet v = false) :
    Unrequested Y profileToken auth timeout (trace ++ [v]) where
  lawful := Runs.lawful_snoc.mpr ⟨h.lawful, hv⟩
  noGet u hu := by
    rcases List.mem_append.mp hu with hu | hu
    · exact h.noGet u hu
    · rwa [List.mem_singleton.mp hu]

/-- `get_snapshot_uri` makes no request for a snapshot. -/
theorem wp_getSnapshotUri_lawful :
    wp anyOrder (fun _ trace _ => Unrequested Y profileToken auth timeout trace)
      (getSnapshotUri C profileToken) [] s := by
  rw [getSnapshotUri, wp_bind, wp_getState, ends_ok]
  cases s.get? profileToken with
  | some uri => exact Unrequested.nil
  | none =>
    dsimp only
    rw [wp_bind]
    refine (wp_call_recording (I := snapshotInterface)).mpr fun r s₁ _ => ?_
    have hcreated : Unrequested Y profileToken auth timeout
        [⟨.createMediaService, s, r, s₁⟩] := Unrequested.nil.snoc rfl rfl
    cases r with
    | error e => exact hcreated
    | ok _ =>
      rw [ends_ok, wp_bind, wp_tryExcept]
      refine (wp_call_recording (I := snapshotInterface)).mpr fun r s₂ _ => ?_
      have hasked : Unrequested Y profileToken auth timeout
          ([⟨.createMediaService, s, .ok (), s₁⟩] ++ [⟨.getSnapshotUri profileToken, s₁, r, s₂⟩]) :=
        hcreated.snoc ⟨rfl, _, rfl, rfl⟩ rfl
      -- no call follows
      cases r with
      | ok result =>
        rw [ends_ok, ends_ok]
        cases result with
        | none => exact hasked
        | some uri =>
          dsimp only
          rw [wp_bind, wp_ofExcept]
          cases discoveredUrl C uri with
          | ok uri => exact hasked
          | error e => exact hasked
      | error e =>
        rw [ends_error]
        split_ifs
        · exact hasked
        · exact hasked

/-- The request, and the retry after a 401. -/
theorem wp_fetchSnapshot_lawful (h : Unrequested Y profileToken auth timeout trace) :
    wp anyOrder (fun r trace _ => Runs.Lawful (Allowed Y profileToken auth timeout) trace ∧
        ∀ last, r = .ok last →
          EndsWith auth timeout (fun status => status = last.1.status) last.2 trace)
      (fetchSnapshot Y auth timeout uri) trace s := by
  rw [fetchSnapshot, wp_bind, trySnapshotUri]
  have hget : ∀ v : SnapshotEvent, v.call = .get uri auth timeout →
      Runs.Lawful (Allowed Y profileToken auth timeout) (trace ++ [v]) := by
    intro v hv
    refine Runs.lawful_snoc.mpr ⟨h.lawful, ?_⟩
    rw [Allowed, hv]
    exact ⟨rfl, rfl, Or.inl h.noGet⟩
  refine wp_handleSnapshotErrors (fun response s₁ _ => ?_) fun e e' s₁ _ =>
    ⟨hget _ rfl, fun _ hlast => by cases hlast⟩
  rw [ends_ok, wp_bind, tryReadSnapshotContent]
  have hread : ∀ v : SnapshotEvent, v.call = .read response →
      Runs.Lawful (Allowed Y profileToken auth timeout)
        (trace ++ [⟨.get uri auth timeout, s, .ok response, s₁⟩] ++ [v]) := by
    intro v hv
    refine Runs.lawful_snoc.mpr ⟨hget _ rfl, ?_⟩
    rw [Allowed, hv]
    exact ⟨_, _, uri, rfl, _, _, rfl⟩
  refine wp_handleSnapshotErrors (fun content s₂ _ => ?_) fun e e' s₂ _ =>
    ⟨hread _ rfl, fun _ hlast => by cases hlast⟩
  rw [ends_ok]
  -- the first response is the last one unless its status is 401
  have hfirst : ∀ t : SnapshotUris, wp anyOrder
      (fun r trace _ => Runs.Lawful (Allowed Y profileToken auth timeout) trace ∧
        ∀ last, r = .ok last →
          EndsWith auth timeout (fun status => status = last.1.status) last.2 trace)
      (Pure.pure (response, content) : SnapshotCoro (SnapshotResponse × List UInt8))
      (trace ++ [⟨.get uri auth timeout, s, .ok response, s₁⟩]
        ++ [⟨.read response, s₁, .ok content, s₂⟩]) t := by
    intro t
    refine ⟨hread _ rfl, fun last hlast => ?_⟩
    cases hlast
    exact ⟨trace, _, _, uri, response, List.append_assoc _ _ _, ⟨_, _, rfl⟩, ⟨_, _, rfl⟩, rfl⟩
  by_cases hstatus : response.status = 401
  · rw [if_pos hstatus, wp_bind, wp_ofExcept]
    cases hstrip : stripUserPassUrl Y uri with
    | error e => exact ⟨hread _ rfl, fun _ hlast => by cases hlast⟩
    | ok strippedUri =>
      rw [ends_ok]
      by_cases hretry : strippedUri ≠ "" ∧ strippedUri ≠ uri
      · rw [if_pos hretry, wp_bind, trySnapshotUri]
        have hget' : ∀ v : SnapshotEvent, v.call = .get strippedUri auth timeout →
            Runs.Lawful (Allowed Y profileToken auth timeout)
              (trace ++ [⟨.get uri auth timeout, s, .ok response, s₁⟩]
                ++ [⟨.read response, s₁, .ok content, s₂⟩] ++ [v]) := by
          intro v hv
          refine Runs.lawful_snoc.mpr ⟨hread _ rfl, ?_⟩
          rw [Allowed, hv]
          exact ⟨rfl, rfl, Or.inr ⟨trace, _, _, uri, response, content, List.append_assoc _ _ _,
            h.noGet, ⟨_, _, rfl⟩, ⟨_, _, rfl⟩, hstatus, hstrip, hretry⟩⟩
        refine wp_handleSnapshotErrors (fun response' s₃ _ => ?_) fun e e' s₃ _ =>
          ⟨hget' _ rfl, fun _ hlast => by cases hlast⟩
        rw [ends_ok, wp_bind, tryReadSnapshotContent]
        have hread' : ∀ v : SnapshotEvent, v.call = .read response' →
            Runs.Lawful (Allowed Y profileToken auth timeout)
              (trace ++ [⟨.get uri auth timeout, s, .ok response, s₁⟩]
                ++ [⟨.read response, s₁, .ok content, s₂⟩]
                ++ [⟨.get strippedUri auth timeout, s₂, .ok response', s₃⟩] ++ [v]) := by
          intro v hv
          refine Runs.lawful_snoc.mpr ⟨hget' _ rfl, ?_⟩
          rw [Allowed, hv]
          exact ⟨_, _, strippedUri, rfl, _, _, rfl⟩
        refine wp_handleSnapshotErrors (fun content' s₄ _ => ?_) fun e e' s₄ _ =>
          ⟨hread' _ rfl, fun _ hlast => by cases hlast⟩
        refine ⟨hread' _ rfl, fun last hlast => ?_⟩
        cases hlast
        exact ⟨_, _, _, strippedUri, response', List.append_assoc _ _ _, ⟨_, _, rfl⟩,
          ⟨_, _, rfl⟩, rfl⟩
      · rw [if_neg hretry]
        exact hfirst s₂
  · rw [if_neg hstatus]
    exact hfirst s₂

theorem EndsWith.mono {status status' : ℕ → Prop} {content : List UInt8}
    (h : EndsWith auth timeout status content trace) (hmono : ∀ n, status n → status' n) :
    EndsWith auth timeout status' content trace := by
  obtain ⟨before, v, v', uri, response, htrace, hv, hv', hstatus⟩ := h
  exact ⟨before, v, v', uri, response, htrace, hv, hv', hmono _ hstatus⟩

/-- **The requests of a call, in their order**, against every world: the URI is asked for before
any request, every request carries the authentication and the time-out of the call, a body is read
right after its response, a second request follows the 401 of the first and goes to the URI without
its credentials, and what is returned is the body of the last response. -/
theorem snapshot_requests_lawful (C : CameraConfig) (Y : Yarl) (profileToken : String)
    (basicAuth : Bool) (timeout : ℚ) (w : SnapshotWorld) (n : ℕ) (s : SnapshotUris) :
    let run := (getSnapshot C Y profileToken basicAuth timeout).exec w n s
    Runs.Lawful (Allowed Y profileToken (snapshotAuth C basicAuth) timeout) run.trace
      ∧ Justified (snapshotAuth C basicAuth) timeout run.trace run.result := by
  refine wp_exec_recording (P := fun _ => True)
    (Q := fun r trace _ => Runs.Lawful (Allowed Y profileToken (snapshotAuth C basicAuth) timeout)
      trace ∧ Justified (snapshotAuth C basicAuth) timeout trace r) ?_ fun _ _ => trivial
  rw [getSnapshot, wp_bind]
  have hasked : wp anyOrder
      (fun _ trace _ => Unrequested Y profileToken (snapshotAuth C basicAuth) timeout trace)
      (getSnapshotUri C profileToken) [] s := wp_getSnapshotUri_lawful
  refine wp_mono (fun r trace s h => ?_) hasked
  cases r with
  | error e => exact ⟨h.lawful, trivial⟩
  | ok uri =>
    cases uri with
    | none => exact ⟨h.lawful, Or.inl h.noGet⟩
    | some uri =>
      rw [ends_ok]
      refine wp_seq (R := fun last trace _ =>
        Runs.Lawful (Allowed Y profileToken (snapshotAuth C basicAuth) timeout) trace ∧
          EndsWith (snapshotAuth C basicAuth) timeout (fun status => status = last.1.status)
            last.2 trace) ?_ ?_
      · refine wp_mono (fun r trace s hr => ?_) (wp_fetchSnapshot_lawful h)
        cases r with
        | ok last => exact ⟨hr.1, hr.2 last rfl⟩
        | error e => exact ⟨hr.1, trivial⟩
      · rintro ⟨response, content⟩ trace s ⟨hlawful, hlast⟩
        dsimp only at hlast ⊢
        split_ifs with hauth hok
        · exact ⟨hlawful, trivial⟩
        · have hend : EndsWith (snapshotAuth C basicAuth) timeout (fun status => status < 300)
              content trace := hlast.mono fun n hn => hn ▸ hok
          exact ⟨hlawful, hend⟩
        · have hend : EndsWith (snapshotAuth C basicAuth) timeout
              (fun status => 300 ≤ status ∧ status ≠ 401) content trace :=
            hlast.mono fun n hn => hn ▸ ⟨Nat.not_lt.mp hok, hauth⟩
          exact ⟨hlawful, Or.inr ⟨content, hend⟩⟩

end Lawful

/-! ### Many calls -/

/-- The device has answered for the profile: without a URI, with one that can be read, or with a
fault.  An answer with another URI is not stored. -/
def Settles (C : CameraConfig) (profileToken : String) (v : SnapshotEvent) : Prop :=
  ∃ s s' answer, v = ⟨.getSnapshotUri profileToken, s, answer, s'⟩ ∧
    match answer with
    | .ok none => True
    | .ok (some uri) => (discoveredUrl C uri).isOk
    | .error e => e.oneOf [.fault]

/-- A profile is asked for only if its URI was not known at first and the device has not answered
for it. -/
def Unsettled (C : CameraConfig) (known : SnapshotUris) (front : List SnapshotEvent)
    (v : SnapshotEvent) : Prop :=
  ∀ profileToken, v.call = .getSnapshotUri profileToken →
    known.get? profileToken = none ∧ ∀ u ∈ front, ¬Settles C profileToken u

section AskedOnce

variable {C : CameraConfig} {Y : Yarl} {known : SnapshotUris} {profileToken : String}
  {trace : List SnapshotEvent} {s s' : SnapshotUris}

/-- What was known at first and what the device has answered for is kept. -/
structure Remembers (C : CameraConfig) (known : SnapshotUris) (trace : List SnapshotEvent)
    (s : SnapshotUris) : Prop where
  lawful : Runs.Lawful (Unsettled C known) trace
  known : ∀ profileToken, (known.get? profileToken).isSome → (s.get? profileToken).isSome
  settled : ∀ profileToken, ∀ u ∈ trace, Settles C profileToken u → (s.get? profileToken).isSome

/-- An event that settles nothing, or after which the URI is stored. -/
theorem Remembers.snoc {v : SnapshotEvent} (h : Remembers C known trace s)
    (hlawful : Unsettled C known trace v)
    (hgrow : ∀ token, (s.get? token).isSome → (s'.get? token).isSome)
    (hsettles : ∀ token, Settles C token v → (s'.get? token).isSome) :
    Remembers C known (trace ++ [v]) s' where
  lawful := Runs.lawful_snoc.mpr ⟨h.lawful, hlawful⟩
  known token htoken := hgrow token (h.known token htoken)
  settled token u hu hu' := by
    rcases List.mem_append.mp hu with hu | hu
    · exact hgrow token (h.settled token u hu hu')
    · obtain rfl := List.mem_singleton.mp hu
      exact hsettles token hu'

end AskedOnce

open ONVIFCamera (localConfig)

end Snapshot

end Onvif
