/-
The timestamps a token signs with, over sequences of requests.

The client of a service applies one token object to every request.  `apply` moves the `created` of
the object by the offset of the camera's clock, lets zeep sign, and puts the old value back
(`TokenState.apply`).  The value goes back only on the way out of a call that returns.

* **`applied_eq`** — how one call ends and what it leaves in `created`;
* **`steady_iff`** — when one call leaves `created` alone and signs with its own time;
* **`created_run`** — what a token with a preset `created` has come to after a run of calls;
* **`steady_run_iff`** — the runs in which no timestamp drifts.
-/
import OnvifZeep.Client
import OnvifZeep.Runs

namespace Onvif

open Coro

/-! ### The token object -/

/-- The attributes of a token object that `apply` and zeep read. -/
structure TokenState extends UsernameDigestTokenDtDiff where
  created : Option DateTime
  zuluTimestamp : Bool

/-- `UsernameDigestTokenDtDiff.__init__`: timestamps in Zulu form unless the caller says
otherwise. -/
def initToken (user passw : Option String) (dtDiff : Option TimeDelta) (useDigest : Bool)
    (created : Option DateTime) (zuluTimestamp : Option Bool) : TokenState where
  user := user
  passwd := passw
  dtDiff := dtDiff
  useDigest := useDigest
  created := created
  zuluTimestamp := zuluTimestamp.getD true

/-- The token object `setup` gives to the client of a service. -/
def ONVIFService.token (v : ONVIFService) : TokenState :=
  initToken v.user v.passwd v.dtDiff v.encrypt none none

/-- The one call `apply` makes: `super().apply(envelope, headers)`. -/
abbrev usernameToken (E H : Type) : Interface where
  Call := E × H
  Answer := fun _ => E × H

section Apply

variable {E H : Type}

abbrev TokenCoro (E H α : Type) : Type := Coro (usernameToken E H) Exc TokenState α

def setCreated (created : Option DateTime) : TokenCoro E H Unit :=
  modifyState fun token => { token with created := created }

/-- `created + dt_diff`. -/
def addDtDiff (created : Option DateTime) (dtDiff : TimeDelta) : Except Exc DateTime :=
  match created with
  | some created => created.add dtDiff
  | none => .error (.builtin .typeError
      "unsupported operand type(s) for +=: 'NoneType' and 'datetime.timedelta'")

/-- `UsernameDigestTokenDtDiff.apply`, at the time `now`. -/
def apply (now : ℤ) (envelope : E) (headers : H) : TokenCoro E H (E × H) := do
  let oldCreated := (← getState).created
  if (← getState).created.isNone then
    setCreated (some { wall := now, utcoffset := none })
  match (← getState).dtDiff with
  | some dtDiff => setCreated (some (← ofExcept (addDtDiff (← getState).created dtDiff)))
  | none => pure ()
  let result ← call (I := usernameToken E H) (envelope, headers)
  setCreated oldCreated
  pure result

/-- A call of `apply`: when it is made, with what, and how the inherited `apply` ends. -/
structure ApplyCall (E H : Type) where
  now : ℤ
  envelope : E
  headers : H
  answer : Except Exc (E × H)

/-- The inherited `apply` returns. -/
def ApplyCall.Returns (c : ApplyCall E H) : Prop := ∃ r, c.answer = .ok r

namespace TokenState

/-- A whole call; the inherited `apply` reads the token and leaves it alone. -/
def applied (token : TokenState) (c : ApplyCall E H) :
    Outcome (usernameToken E H) Exc TokenState (E × H) :=
  (apply c.now c.envelope c.headers).exec (World.alone fun _ => c.answer) 0 token

/-- The value of `created` each time the inherited `apply` signs. -/
def signedWith (token : TokenState) (c : ApplyCall E H) : List (Option DateTime) :=
  (token.applied c).trace.map fun v => v.before.created

/-- The next state of the token: every call is possible. -/
def step (token : TokenState) (c : ApplyCall E H) : Option TokenState :=
  some (token.applied c).state

/-- The time a call starts from: the preset `created`, else the time of the call. -/
def base (token : TokenState) (now : ℤ) : DateTime :=
  token.created.getD { wall := now, utcoffset := none }

/-- The time a call is meant to sign with: its base and one offset. -/
def signingTime (token : TokenState) (now : ℤ) : Except Exc DateTime :=
  match token.dtDiff with
  | some dtDiff => (token.base now).add dtDiff
  | none => .ok (token.base now)

/-- The meant time is a date of the years 1 to 9999. -/
def InRange (token : TokenState) (now : ℤ) : Prop :=
  match token.dtDiff with
  | some dtDiff =>
    0 ≤ (token.base now).wall + dtDiff ∧ (token.base now).wall + dtDiff < DateTime.maxWall
  | none => True

theorem base_eq_of_created {token : TokenState} {d : DateTime} (h : token.created = some d)
    (now : ℤ) : token.base now = d := by
  rw [base, h, Option.getD_some]

theorem created_eq_base_iff (token : TokenState) (now : ℤ) :
    token.created = some (token.base now) ↔ token.created.isSome := by
  cases hcreated : token.created with
  | none => simp
  | some d => simp [base_eq_of_created hcreated]

/-- Moved by `x`, the base is the preset `created` itself only for a preset one and `x = 0`. -/
theorem created_eq_moved_base_iff (token : TokenState) (now x : ℤ) :
    token.created = some { token.base now with wall := (token.base now).wall + x } ↔
      token.created.isSome ∧ x = 0 := by
  cases hcreated : token.created with
  | none => simp
  | some d =>
    rw [base_eq_of_created hcreated, Option.some.injEq, DateTime.mk.injEq]
    simp only [Option.isSome_some, true_and, and_true]
    omega

theorem signingTime_of_inRange {token : TokenState} {now : ℤ} (h : token.InRange now) :
    token.signingTime now = .ok
      { token.base now with wall := (token.base now).wall + token.dtDiff.getD 0 } := by
  unfold InRange at h
  unfold signingTime
  cases hdt : token.dtDiff with
  | none => simp
  | some dtDiff =>
    rw [hdt] at h
    exact if_pos h

theorem signingTime_of_not_inRange {token : TokenState} {now : ℤ} (h : ¬token.InRange now) :
    ∃ e, token.signingTime now = .error e := by
  unfold InRange at h
  unfold signingTime
  cases hdt : token.dtDiff with
  | none =>
    rw [hdt] at h
    exact absurd trivial h
  | some dtDiff =>
    rw [hdt] at h
    exact ⟨_, if_neg h⟩

theorem inRange_iff (token : TokenState) (now : ℤ) :
    token.InRange now ↔ ∃ d, token.signingTime now = .ok d := by
  constructor
  · intro h
    exact ⟨_, signingTime_of_inRange h⟩
  · rintro ⟨d, hd⟩
    by_contra hout
    obtain ⟨e, he⟩ := signingTime_of_not_inRange hout
    rw [he] at hd
    cases hd

/-! ### One call -/

/-- **How a call ends.**  An offset that leaves the calendar stops the call with its base left in
`created`; else zeep signs with the meant time, and only an `apply` of zeep that returns lets the
old value come back. -/
theorem applied_eq (token : TokenState) (c : ApplyCall E H) :
    token.applied c = match token.signingTime c.now with
      | .error e => ⟨.error e, { token with created := some (token.base c.now) }, []⟩
      | .ok d =>
        ⟨c.answer,
          { token with created := match c.answer with
            | .ok _ => token.created
            | .error _ => some d },
          [⟨(c.envelope, c.headers), { token with created := some d }, c.answer,
            { token with created := some d }⟩]⟩ := by
  obtain ⟨⟨user, passwd, dtDiff, useDigest⟩, created, zuluTimestamp⟩ := token
  obtain ⟨now, envelope, headers, answer⟩ := c
  unfold signingTime
  cases dtDiff with
  | none => cases created <;> cases answer <;> rfl
  | some dtDiff =>
    -- the base stands in `created` when the offset is added, whether it was preset or not
    cases hadd : DateTime.add (created.getD { wall := now, utcoffset := none }) dtDiff with
    | error e =>
      cases created <;> rw [Option.getD] at hadd <;>
        simp [applied, apply, base, hadd, bind, Coro.bind, getState, setCreated, modifyState,
          Coro.ofExcept, addDtDiff, exec]
    | ok d =>
      cases created <;> rw [Option.getD] at hadd <;> cases answer <;>
        simp [applied, apply, base, hadd, bind, Coro.bind, getState, setCreated, modifyState,
          Coro.ofExcept, addDtDiff, exec, call, World.alone, pure]

theorem applied_of_overflow {token : TokenState} {c : ApplyCall E H} (h : ¬token.InRange c.now) :
    ∃ e, token.applied c =
      ⟨.error e, { token with created := some (token.base c.now) }, []⟩ := by
  obtain ⟨e, he⟩ := signingTime_of_not_inRange h
  exact ⟨e, by rw [applied_eq, he]⟩

theorem applied_of_returns {token : TokenState} {c : ApplyCall E H} {d : DateTime} {r : E × H}
    (h : token.signingTime c.now = .ok d) (hr : c.answer = .ok r) :
    (token.applied c).state = token := by
  rw [applied_eq, h]
  simp [hr]

theorem applied_of_raises {token : TokenState} {c : ApplyCall E H} {d : DateTime} {e : Exc}
    (h : token.signingTime c.now = .ok d) (he : c.answer = .error e) :
    (token.applied c).state = { token with created := some d } := by
  rw [applied_eq, h]
  simp [he]

/-! ### One call and its own time -/

/-- What a call promises of a token object that began as `token₀`: `created` is the one it began
with, and a call that returns has signed once, with its own base and one offset. -/
structure Steady (token₀ token : TokenState) (c : ApplyCall E H) (token' : TokenState) : Prop where
  created : token'.created = token₀.created
  signed : ∀ r, (token.applied c).result = .ok r →
    ∃ d, token₀.signingTime c.now = .ok d ∧ token.signedWith c = [some d]

/-- The inherited `apply` returns and the meant time is a date; or `created` is preset, and there
is no offset to add or the sum is no date. -/
def Harmless (token : TokenState) (c : ApplyCall E H) : Prop :=
  c.Returns ∧ token.InRange c.now ∨
    token.created.isSome ∧ (token.dtDiff.getD 0 = 0 ∨ ¬token.InRange c.now)

/-- Only `created` changes in a call, so a call that keeps it keeps the whole token. -/
theorem state_eq_of_created {token : TokenState} {c : ApplyCall E H}
    (h : (token.applied c).state.created = token.created) : (token.applied c).state = token := by
  have hothers : (token.applied c).state =
      { token with created := (token.applied c).state.created } := by
    rw [applied_eq]
    cases token.signingTime c.now <;> rfl
  rw [hothers, h]

/-- A call that returns has signed once, with the meant time. -/
theorem signedWith_of_result {token : TokenState} {c : ApplyCall E H} {r : E × H}
    (h : (token.applied c).result = .ok r) :
    ∃ d, token.signingTime c.now = .ok d ∧ token.signedWith c = [some d] := by
  rw [signedWith]
  rw [applied_eq] at h ⊢
  cases hsign : token.signingTime c.now with
  | error e =>
    rw [hsign] at h
    cases h
  | ok d => exact ⟨d, rfl, rfl⟩

/-- A call leaves `created` alone exactly when it is harmless. -/
theorem created_state_iff (token : TokenState) (c : ApplyCall E H) :
    (token.applied c).state.created = token.created ↔ token.Harmless c := by
  unfold Harmless
  by_cases hrange : token.InRange c.now
  · have hsign := signingTime_of_inRange hrange
    cases hanswer : c.answer with
    | ok r =>
      rw [applied_of_returns hsign hanswer]
      exact iff_of_true rfl (.inl ⟨⟨r, hanswer⟩, hrange⟩)
    | error e =>
      -- the meant time stays behind: it is the old `created` only when nothing moved it
      have hraises : ¬c.Returns := by
        rintro ⟨r, hr⟩
        rw [hanswer] at hr
        cases hr
      rw [applied_of_raises hsign hanswer, eq_comm, created_eq_moved_base_iff]
      simp [hraises, hrange]
  · -- the base stays behind: it is the old `created` exactly when that was preset
    obtain ⟨e, he⟩ := applied_of_overflow hrange
    rw [he, eq_comm, created_eq_base_iff]
    simp [hrange]

/-- **One call**: it leaves `created` alone and signs with its own time exactly when it is
harmless. -/
theorem steady_iff (token : TokenState) (c : ApplyCall E H) :
    Steady token token c (token.applied c).state ↔ token.Harmless c := by
  rw [← created_state_iff]
  constructor
  · intro h
    exact h.created
  · intro h
    exact ⟨h, fun r hr => signedWith_of_result hr⟩

/-! ### Sequences of calls -/

/-- How many of the calls raise in the inherited `apply`. -/
def failures (calls : List (ApplyCall E H)) : ℕ := calls.countP fun c => !c.answer.isOk

theorem state_of_preset_of_returns {token : TokenState} {d : DateTime} {c : ApplyCall E H}
    (hcreated : token.created = some d) (hc : c.Returns) : (token.applied c).state = token := by
  obtain ⟨r, hr⟩ := hc
  by_cases hrange : token.InRange c.now
  · exact applied_of_returns (signingTime_of_inRange hrange) hr
  · obtain ⟨e, he⟩ := applied_of_overflow hrange
    refine state_eq_of_created ?_
    rw [he, base_eq_of_created hcreated]
    exact hcreated.symm

/-- **The drift**: a preset `created` moves by one offset at every call whose inherited `apply`
raises, as long as the sums are dates. -/
theorem created_run {token : TokenState} {d : DateTime} {t : TimeDelta}
    (hcreated : token.created = some d) (hdt : token.dtDiff = some t)
    {calls : List (ApplyCall E H)}
    (hrange : ∀ n : ℕ, n ≤ failures calls →
      0 ≤ d.wall + n * t ∧ d.wall + n * t < DateTime.maxWall) :
    ∃ token', Runs.run step token calls = some token' ∧
      token'.created = some { d with wall := d.wall + failures calls * t } := by
  induction calls generalizing token d with
  | nil => exact ⟨token, rfl, by simp [hcreated, failures]⟩
  | cons c calls ih =>
    cases hanswer : c.answer with
    | ok r =>
      have hsame : failures (c :: calls) = failures calls := by
        simp [failures, hanswer, Except.isOk, Except.toBool]
      rw [hsame] at hrange ⊢
      obtain ⟨token', hrun, hcreated'⟩ := ih hcreated hdt hrange
      refine ⟨token', Runs.run_cons.mpr ⟨token, ?_, hrun⟩, hcreated'⟩
      rw [step, state_of_preset_of_returns hcreated ⟨r, hanswer⟩]
    | error e =>
      have hmore : failures (c :: calls) = failures calls + 1 := by
        simp [failures, hanswer, Except.isOk, Except.toBool]
      have hmul : ∀ n : ℕ, d.wall + (n + 1 : ℕ) * t = d.wall + t + n * t := by
        intro n
        rw [Nat.cast_succ, Int.add_mul, Int.one_mul]
        omega
      rw [hmore] at hrange ⊢
      have hin : token.InRange c.now := by
        have h₁ := hrange 1 (by omega)
        rw [hmul 0] at h₁
        simpa [InRange, hdt, base_eq_of_created hcreated] using h₁
      have hstate := applied_of_raises (signingTime_of_inRange hin) hanswer
      rw [base_eq_of_created hcreated, hdt, Option.getD_some] at hstate
      -- from here on the preset value is one offset later
      obtain ⟨token', hrun, hcreated'⟩ := @ih (token.applied c).state { d with wall := d.wall + t }
        (by rw [hstate]) (by rw [hstate]; exact hdt) (by
          intro n hn
          rw [← hmul n]
          exact hrange (n + 1) (by omega))
      refine ⟨token', Runs.run_cons.mpr ⟨_, rfl, hrun⟩, ?_⟩
      rw [hcreated', hmul]

end TokenState

/-- The time a token of `setup` is meant to sign with. -/
theorem ONVIFService.token_signingTime (v : ONVIFService) (now : ℤ) :
    v.token.signingTime now = v.wsse.created now := by
  have htoken : v.token.dtDiff = v.dtDiff := rfl
  have hwsse : v.wsse.dtDiff = v.dtDiff := rfl
  unfold TokenState.signingTime UsernameDigestTokenDtDiff.created createdAt
  rw [htoken, hwsse]
  cases v.dtDiff with
  | none => rfl
  | some dtDiff => rfl

/-- **The tokens of `setup`** begin without a `created`: every call has to sign, and nothing may
fail. -/
theorem ONVIFService.token_harmless_iff (v : ONVIFService) (c : ApplyCall E H) :
    v.token.Harmless c ↔ c.Returns ∧ ∃ d, v.wsse.created c.now = .ok d := by
  rw [← v.token_signingTime, ← TokenState.inRange_iff]
  constructor
  · rintro (h | ⟨hsome, -⟩)
    · exact h
    · cases hsome
  · exact .inl

/-- **No timestamp drifts** along a sequence of calls exactly when each of them is harmless. -/
theorem steady_run_iff (token : TokenState) (calls : List (ApplyCall E H)) :
    Runs.Along TokenState.step (TokenState.Steady token) token calls ↔
      ∀ c ∈ calls, token.Harmless c :=
  Runs.along_iff_of_stationary fun c =>
    ⟨_, rfl, token.steady_iff c, fun h => TokenState.state_eq_of_created h.created⟩

end Apply

/-- A token for a camera whose clock is an hour ahead. -/
def hourAheadToken : TokenState :=
  initToken (some "admin") (some "secret") (some (TimeDelta.ofSeconds 3600)) true none none

/-- A request at noon of 2025-01-01 which the inherited `apply` fails to sign. -/
def failedCall : ApplyCall String (List (String × String)) :=
  ⟨63871329600000000, "<Envelope/>", [], .error (.builtin .valueError "not XML compatible")⟩

/-- A request ten minutes later which it signs. -/
def signedCall : ApplyCall String (List (String × String)) :=
  ⟨63871330200000000, "<Envelope/>", [], .ok ("<Envelope/>", [])⟩

theorem hour_ahead_token_drifts :
    ¬Runs.Along TokenState.step (TokenState.Steady hourAheadToken) hourAheadToken
      [failedCall, signedCall] := by
  intro h
  have hcreated := (h _ rfl).1.created
  have hleft : (hourAheadToken.applied failedCall).state.created.isSome := by decide
  rw [hcreated] at hleft
  cases hleft

/-- The later request is signed with two hours past the time of the failed one. -/
example : (hourAheadToken.applied failedCall).state.signedWith signedCall =
    [some { wall := failedCall.now + 2 * TimeDelta.ofSeconds 3600, utcoffset := none }] := by
  decide

end Onvif
