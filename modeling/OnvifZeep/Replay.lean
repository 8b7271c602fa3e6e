/-
Coroutines driven by the answers they were resumed with.

A `Wakeup` is what a suspended coroutine goes on with: the answer to its call and the shared
state by then.  What a coroutine did is a function of the state it was started in and of its
wakeups, whoever else was at work in between.

* **`replay`** — how far the coroutine gets with a list of wakeups;
* **`replay_bind`**, **`replay_tryFinally`** — of a combination, from the replay of its first
  part;
* **`keeps_replay`** — what a precondition says about a replay;
* **`wp_tracked`** — what a replay says in a postcondition, where the ghost records the wakeups.
-/
import OnvifZeep.CoroutineRules
import OnvifZeep.Runs

namespace Coro

variable {I : Interface} {ε σ α β γ : Type}

/-- The answer a suspended coroutine is resumed with and the state it is resumed in. -/
structure Wakeup (I : Interface) (ε σ : Type) where
  call : I.Call
  answer : Except ε (I.Answer call)
  state : σ

/-- Run one more segment; `none` if the coroutine does not wait for this call. -/
def Status.wake [DecidableEq I.Call] (st : Status I ε σ α) (w : Wakeup I ε σ) :
    Option (σ × Status I ε σ α) :=
  st.resume w.call w.answer w.state

/-- Where `x`, started in `s`, stops after these wakeups. -/
def replay [DecidableEq I.Call] (x : Coro I ε σ α) (s : σ) (wakeups : List (Wakeup I ε σ)) :
    Option (σ × Status I ε σ α) :=
  Runs.run (fun p w => p.2.wake w) (x.run s) wakeups

/-- The combination of a stopped coroutine with `f`, run on if the coroutine is done. -/
def advance (f : α → Coro I ε σ β) : σ × Status I ε σ α → σ × Status I ε σ β
  | (s, .done (.ok a)) => (f a).run s
  | (s, .done (.error e)) => (s, .done (.error e))
  | (s, .waiting c k) => (s, .waiting c fun r => (k r).bind f)

theorem run_bind (x : Coro I ε σ α) (f : α → Coro I ε σ β) (s : σ) :
    (x >>= f).run s = advance f (x.run s) := by
  show (x.bind f).run s = _
  induction x generalizing s with
  | ret a => rfl
  | raise e => rfl
  | read k ih => exact ih s s
  | write s' k ih => exact ih s'
  | await c k ih => rfl

/-- A stopped attempt, from the coroutine attempted. -/
def attempted : σ × Status I ε σ α → σ × Status I ε σ (Except ε α)
  | (s, .done r) => (s, .done (.ok r))
  | (s, .waiting c k) => (s, .waiting c fun r => (k r).attempt)

theorem run_attempt (x : Coro I ε σ α) (s : σ) : x.attempt.run s = attempted (x.run s) := by
  induction x generalizing s with
  | ret a => rfl
  | raise e => rfl
  | read k ih => exact ih s s
  | write s' k ih => exact ih s'
  | await c k ih => rfl

/-! ### The first segment of a combination -/

section Segment

variable {x : Coro I ε σ α} {s s' : σ} {c : I.Call} {k : Except ε (I.Answer c) → Coro I ε σ α}

theorem run_bind_of_waiting {f : α → Coro I ε σ β} (h : x.run s = (s', .waiting c k)) :
    (x >>= f).run s = (s', .waiting c fun r => k r >>= f) := by
  rw [run_bind, h]
  rfl

theorem run_bind_of_done {f : α → Coro I ε σ β} {a : α} (h : x.run s = (s', .done (.ok a))) :
    (x >>= f).run s = (f a).run s' := by
  rw [run_bind, h]
  rfl

theorem run_tryExcept_of_waiting {f : ε → Coro I ε σ α} (h : x.run s = (s', .waiting c k)) :
    (tryExcept x f).run s = (s', .waiting c fun r => tryExcept (k r) f) := by
  rw [tryExcept, run_bind, run_attempt, h]
  rfl

theorem run_tryExcept_of_ok {f : ε → Coro I ε σ α} {a : α} (h : x.run s = (s', .done (.ok a))) :
    (tryExcept x f).run s = (s', .done (.ok a)) := by
  rw [tryExcept, run_bind, run_attempt, h]
  rfl

theorem run_tryExcept_of_error {f : ε → Coro I ε σ α} {e : ε}
    (h : x.run s = (s', .done (.error e))) : (tryExcept x f).run s = (f e).run s' := by
  rw [tryExcept, run_bind, run_attempt, h]
  rfl

theorem run_tryFinally_of_waiting {f : Except ε α → Coro I ε σ Unit}
    (h : x.run s = (s', .waiting c k)) :
    (tryFinally x f).run s = (s', .waiting c fun r => tryFinally (k r) f) := by
  rw [tryFinally, run_bind, run_attempt, h]
  rfl

theorem run_tryFinally_of_done {f : Except ε α → Coro I ε σ Unit} {r : Except ε α}
    (h : x.run s = (s', .done r)) :
    (tryFinally x f).run s = (f r >>= fun _ => ofExcept r).run s' := by
  rw [tryFinally, run_bind, run_attempt, h]
  rfl

end Segment

section Replay

variable [DecidableEq I.Call] {s s' : σ} {w : Wakeup I ε σ} {ws : List (Wakeup I ε σ)}
  {p p' : σ × Status I ε σ α}

theorem Status.wake_eq_some {st : Status I ε σ α} :
    st.wake w = some p ↔ ∃ k, st = .waiting w.call k ∧ p = (k w.answer).run w.state :=
  Status.resume_eq_some

theorem replay_append {x : Coro I ε σ α} {ws' : List (Wakeup I ε σ)} :
    x.replay s (ws ++ ws') = some p' ↔
      ∃ p, x.replay s ws = some p ∧ Runs.run (fun p w => p.2.wake w) p ws' = some p' :=
  Runs.run_append

theorem replay_snoc {x : Coro I ε σ α} :
    x.replay s (ws ++ [w]) = some p' ↔ ∃ p, x.replay s ws = some p ∧ p.2.wake w = some p' := by
  rw [replay_append]
  refine exists_congr fun p => and_congr_right fun _ => ?_
  rw [Runs.run_cons]
  constructor
  · rintro ⟨q, hq, h⟩
    rw [hq]
    exact h
  · exact fun h => ⟨p', h, rfl⟩

/-! ### Combinations -/

theorem replay_advance {x : Coro I ε σ α} (f : α → Coro I ε σ β) (h : x.replay s ws = some p) :
    (x >>= f).replay s ws = some (advance f p) := by
  rw [replay, run_bind]
  refine Runs.run_map (advance f) (fun p w p' hp => ?_) h
  obtain ⟨k, hk, rfl⟩ := Status.wake_eq_some.mp hp
  obtain ⟨s, st⟩ := p
  cases hk
  exact Status.wake_eq_some.mpr ⟨_, rfl, (run_bind (k w.answer) f w.state).symm⟩

/-- **A sequence**, when its first part is done. -/
theorem replay_bind {x : Coro I ε σ α} {f : α → Coro I ε σ β} {a : α}
    (h : x.replay s ws = some (s', .done (.ok a))) :
    (x >>= f).replay s ws = some ((f a).run s') := replay_advance f h

/-- **A sequence**, on into its second part. -/
theorem replay_bind_append {x : Coro I ε σ α} {f : α → Coro I ε σ β} {a : α}
    {ws' : List (Wakeup I ε σ)} (h : x.replay s ws = some (s', .done (.ok a))) :
    (x >>= f).replay s (ws ++ ws') = (f a).replay s' ws' := by
  ext p
  rw [replay_append, replay_bind h]
  constructor
  · rintro ⟨q, hq, hp⟩
    rw [← Option.some.inj hq] at hp
    exact hp
  · exact fun hp => ⟨_, rfl, hp⟩

theorem replay_attempt {x : Coro I ε σ α} {r : Except ε α}
    (h : x.replay s ws = some (s', .done r)) :
    x.attempt.replay s ws = some (s', .done (.ok r)) := by
  rw [replay, run_attempt]
  refine Runs.run_map attempted (fun p w p' hp => ?_) h
  obtain ⟨k, hk, rfl⟩ := Status.wake_eq_some.mp hp
  obtain ⟨s, st⟩ := p
  cases hk
  exact Status.wake_eq_some.mpr ⟨_, rfl, (run_attempt (k w.answer) w.state).symm⟩

/-- **A `finally` block**, when its body is done. -/
theorem replay_tryFinally {x : Coro I ε σ α} {f : Except ε α → Coro I ε σ Unit}
    {r : Except ε α} (h : x.replay s ws = some (s', .done r)) :
    (tryFinally x f).replay s ws = some ((f r >>= fun _ => ofExcept r).run s') :=
  replay_bind (replay_attempt h)

/-! ### Preconditions -/

variable {K : Contract I ε σ γ} {Q : Except ε α → γ → σ → Prop} {note : γ → Wakeup I ε σ → γ}
  {R : σ → σ → Prop}

theorem keeps_wake
    (hK : ∀ g c s r s', K.suspend g c s → R s s' → K.resume g c s r (note g ⟨c, r, s'⟩) s')
    {g : γ} (hkeeps : p.2.Keeps K Q g p.1) (hR : R p.1 w.state) (h : p.2.wake w = some p') :
    p'.2.Keeps K Q (note g w) p'.1 := by
  obtain ⟨k, hk, rfl⟩ := Status.wake_eq_some.mp h
  rw [hk] at hkeeps
  exact wp_run (hkeeps.2 _ _ _ (hK g w.call p.1 w.answer w.state hkeeps.1 hR))

/-- **A replay keeps the contract**, when `R` between each suspension and the wakeup after it is
what the contract assumes; the ghost is noted along the wakeups. -/
theorem keeps_replay
    (hK : ∀ g c s r s', K.suspend g c s → R s s' → K.resume g c s r (note g ⟨c, r, s'⟩) s')
    {x : Coro I ε σ α} {g : γ} (h : wp K Q x g s)
    (hR : Runs.Along (fun p w => Status.wake p.2 w) (fun p w _ => R p.1 w.state) (x.run s) ws)
    (hreplay : x.replay s ws = some p) : p.2.Keeps K Q (ws.foldl note g) p.1 := by
  have hrun : ∀ (q : σ × Status I ε σ α) (g : γ), q.2.Keeps K Q g q.1 →
      Runs.Along (fun p w => Status.wake p.2 w) (fun p w _ => R p.1 w.state) q ws →
      Runs.run (fun p w => Status.wake p.2 w) q ws = some p →
      p.2.Keeps K Q (ws.foldl note g) p.1 := by
    clear hR hreplay
    induction ws with
    | nil =>
      intro q g hkeeps _ hq
      rw [← Option.some.inj hq]
      exact hkeeps
    | cons w ws ih =>
      intro q g hkeeps hR hq
      obtain ⟨q', hq', hq⟩ := Runs.run_cons.mp hq
      obtain ⟨hlink, hR⟩ := hR q' hq'
      exact ih q' _ (keeps_wake hK hkeeps hlink hq') hR hq
  exact hrun _ g (wp_run h) hR hreplay

/-- **What happened is the replay** of the wakeups, when the ghost records them. -/
theorem wp_tracked {hist : γ → List (Wakeup I ε σ)}
    (hK : ∀ g c s r g' s', K.resume g c s r g' s' → hist g' = hist g ++ [⟨c, r, s'⟩])
    {x : Coro I ε σ α} {g : γ} (h : wp K Q x g s) :
    wp K (fun r g' s' => Q r g' s' ∧ ∃ ws, hist g' = hist g ++ ws ∧
      x.replay s ws = some (s', .done r)) x g s := by
  induction x generalizing g s with
  | ret a => exact ⟨h, [], (List.append_nil _).symm, rfl⟩
  | raise e => exact ⟨h, [], (List.append_nil _).symm, rfl⟩
  | read k ih => exact ih s h
  | write s' k ih => exact ih h
  | await c k ih =>
    refine ⟨h.1, fun r g' s' hr => wp_mono ?_ (ih r (h.2 r g' s' hr))⟩
    rintro r' g'' s'' ⟨hQ, ws, hws, hreplay⟩
    refine ⟨hQ, ⟨c, r, s'⟩ :: ws, ?_, Runs.run_cons.mpr ⟨_, ?_, hreplay⟩⟩
    · rw [hws, hK g c s r g' s' hr, List.append_assoc]
      rfl
    · exact Status.wake_eq_some.mpr ⟨k, rfl, rfl⟩

end Replay

/-! ### Segments -/

/-- Every segment stays within `R`; the ghost is the state it began in. -/
def within (R : σ → σ → Prop) : Contract I ε σ σ where
  suspend s₀ _ s := R s₀ s
  resume _ _ _ _ s₀ s := s₀ = s

theorem preserves_call_within {R : σ → σ → Prop} (hrefl : ∀ s, R s s) (c : I.Call) :
    Preserves (within R) R (call c : Coro I ε σ (I.Answer c)) :=
  .call (fun _ _ h => h) fun _ _ _ _ s _ hr => by
    rw [show _ = s from hr]
    exact hrefl s

/-- **The last segment** of a replay. -/
theorem within_replay [DecidableEq I.Call] {R : σ → σ → Prop} {x : Coro I ε σ α} {s s' : σ}
    {st : Status I ε σ α} {ws : List (Wakeup I ε σ)} {w : Wakeup I ε σ}
    (h : wp (within R) (fun _ => R) x s s) (hreplay : x.replay s (ws ++ [w]) = some (s', st)) :
    R w.state s' := by
  have hkeeps : st.Keeps (within R) (fun _ => R) ((ws ++ [w]).foldl (fun _ w => w.state) s) s' :=
    keeps_replay (R := fun _ _ => True) (fun _ _ _ _ _ _ _ => rfl) h
      (Runs.along_of_forall fun _ _ _ _ => trivial) hreplay
  rw [List.foldl_append] at hkeeps
  cases st with
  | done r => exact hkeeps
  | waiting c k => exact hkeeps.1

end Coro
