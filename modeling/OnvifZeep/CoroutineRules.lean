/-
Preconditions and postconditions for coroutines under interference.

Between two segments of a coroutine anything may happen to the shared state.  A `Contract`
says what: `suspend` is what a segment owes when it stops in a call, `resume` is what it
may assume when it goes on.  Both see a ghost `γ`, what a proof remembers of the run so far
(the call resumed from, the state a segment began in, a count).

`wp K Q x g s` says that `x`, started in `s`, keeps its side of `K` at every suspension and
ends in `Q` as long as the rest of the world keeps the other side:

* **`wp_bind`**, **`wp_attempt`**, **`wp_tryExcept`**, **`wp_tryFinally`** — one rule for
  each way of combining coroutines;
* **`wp_zoom`**, **`wp_zoom_frame`** — a coroutine over a part of the state, under the
  contract seen from there, or as far as the rest of the state goes;
* **`Preserves`** — coroutines that keep an assertion, again with one rule for each construct;
* **`Yields`** — coroutines that keep an assertion and whose result is as described;
* **`Raises`**, **`wp_and_raises`** — the exceptions a coroutine can end with;
* **`Transparent`** — coroutines that catch none of their calls' exceptions;
* **`wp_run`** — what one segment establishes;
* **`wp_exec`**, **`wp_traced`** — what a whole run establishes;
* **`wp_exec_recording`** — the same for the runs whose events are as described.
-/
import OnvifZeep.Coroutine

namespace Coro

variable {I I' : Interface} {ε σ σ' α β γ : Type}

/-- What a coroutine owes at a suspension and what it may assume at the resumption. -/
structure Contract (I : Interface) (ε σ γ : Type) where
  -- owed when the segment stops in a call
  suspend : γ → I.Call → σ → Prop
  -- assumed of the answer, the ghost and the state to go on from
  resume : γ → (c : I.Call) → σ → Except ε (I.Answer c) → γ → σ → Prop

/-- `x` keeps `K` and ends in `Q`. -/
def wp (K : Contract I ε σ γ) (Q : Except ε α → γ → σ → Prop) :
    Coro I ε σ α → γ → σ → Prop
  | .ret a, g, s => Q (.ok a) g s
  | .raise e, g, s => Q (.error e) g s
  | .read k, g, s => (k s).wp K Q g s
  | .write s k, g, _ => k.wp K Q g s
  | .await c k, g, s =>
    K.suspend g c s ∧ ∀ r g' s', K.resume g c s r g' s' → (k r).wp K Q g' s'

/-- A postcondition by cases: `ok` of a result, `err` of an exception. -/
def Ends (ok : α → γ → σ → Prop) (err : ε → γ → σ → Prop) : Except ε α → γ → σ → Prop
  | .ok a => ok a
  | .error e => err e

@[simp] theorem ends_ok (ok : α → γ → σ → Prop) (err : ε → γ → σ → Prop) (a : α) :
    Ends ok err (.ok a) = ok a := rfl

@[simp] theorem ends_error (ok : α → γ → σ → Prop) (err : ε → γ → σ → Prop) (e : ε) :
    Ends ok err (.error e) = err e := rfl

variable {K : Contract I ε σ γ} {Q : Except ε α → γ → σ → Prop} {g : γ} {s : σ}

/-! ### Consequence -/

theorem wp_mono {x : Coro I ε σ α} {Q Q' : Except ε α → γ → σ → Prop}
    (hQ : ∀ r g s, Q r g s → Q' r g s) (h : wp K Q x g s) : wp K Q' x g s := by
  induction x generalizing g s with
  | ret a => exact hQ _ _ _ h
  | raise e => exact hQ _ _ _ h
  | read k ih => exact ih s h
  | write s' k ih => exact ih h
  | await c k ih => exact ⟨h.1, fun r g' s' hr => ih r (h.2 r g' s' hr)⟩

theorem wp_congr {x : Coro I ε σ α} {Q Q' : Except ε α → γ → σ → Prop}
    (hQ : ∀ r g s, Q r g s ↔ Q' r g s) : wp K Q x g s ↔ wp K Q' x g s :=
  ⟨wp_mono fun r g s => (hQ r g s).mp, wp_mono fun r g s => (hQ r g s).mpr⟩

/-- Two postconditions at once. -/
theorem wp_and {x : Coro I ε σ α} {Q Q' : Except ε α → γ → σ → Prop} (h : wp K Q x g s)
    (h' : wp K Q' x g s) : wp K (fun r g s => Q r g s ∧ Q' r g s) x g s := by
  induction x generalizing g s with
  | ret a => exact ⟨h, h'⟩
  | raise e => exact ⟨h, h'⟩
  | read k ih => exact ih s h h'
  | write s' k ih => exact ih h h'
  | await c k ih =>
    exact ⟨h.1, fun r g' s' hr => ih r (h.2 r g' s' hr) (h'.2 r g' s' hr)⟩

/-- **A contract that assumes more**, seen through a map of the ghosts. -/
theorem wp_comap {γ' : Type} {K' : Contract I ε σ γ'} (f : γ' → γ)
    (hsuspend : ∀ g c s, K.suspend (f g) c s → K'.suspend g c s)
    (hresume : ∀ g c s r g' s', K'.resume g c s r g' s' → K.resume (f g) c s r (f g') s')
    {x : Coro I ε σ α} {g : γ'} (h : wp K Q x (f g) s) : wp K' (fun r g => Q r (f g)) x g s := by
  induction x generalizing g s with
  | ret a => exact h
  | raise e => exact h
  | read k ih => exact ih s h
  | write s' k ih => exact ih h
  | await c k ih =>
    exact ⟨hsuspend g c s h.1, fun r g' s' hr => ih r (h.2 r (f g') s' (hresume g c s r g' s' hr))⟩

/-! ### One rule for each construct -/

@[simp] theorem wp_pure (a : α) : wp K Q (pure a) g s ↔ Q (.ok a) g s := Iff.rfl

@[simp] theorem wp_raise (e : ε) : wp K Q (.raise e) g s ↔ Q (.error e) g s := Iff.rfl

@[simp] theorem wp_getState {Q : Except ε σ → γ → σ → Prop} :
    wp K Q getState g s ↔ Q (.ok s) g s := Iff.rfl

@[simp] theorem wp_modifyState {Q : Except ε Unit → γ → σ → Prop} (f : σ → σ) :
    wp K Q (modifyState f) g s ↔ Q (.ok ()) g (f s) := Iff.rfl

@[simp] theorem wp_ofExcept (r : Except ε α) : wp K Q (ofExcept r) g s ↔ Q r g s := by
  cases r <;> rfl

@[simp] theorem wp_call (c : I.Call) {Q : Except ε (I.Answer c) → γ → σ → Prop} :
    wp K Q (call c) g s ↔
      K.suspend g c s ∧ ∀ r g' s', K.resume g c s r g' s' → Q r g' s' := by
  simp only [call, wp, wp_ofExcept]

theorem wp_bind (x : Coro I ε σ α) (f : α → Coro I ε σ β) {Q : Except ε β → γ → σ → Prop} :
    wp K Q (x >>= f) g s ↔
      wp K (Ends (fun a => wp K Q (f a)) fun e => Q (.error e)) x g s := by
  show wp K Q (x.bind f) g s ↔ _
  induction x generalizing g s with
  | ret a => rfl
  | raise e => rfl
  | read k ih => exact ih s
  | write s' k ih => exact ih
  | await c k ih =>
    simp only [Coro.bind, wp]
    exact and_congr_right fun _ => forall_congr' fun r => forall_congr' fun g' =>
      forall_congr' fun s' => imp_congr_right fun _ => ih r

/-- The sequence rule with an assertion in the middle. -/
theorem wp_seq {R : α → γ → σ → Prop} {x : Coro I ε σ α} {f : α → Coro I ε σ β}
    {Q : Except ε β → γ → σ → Prop} (hx : wp K (Ends R fun e => Q (.error e)) x g s)
    (hf : ∀ a g s, R a g s → wp K Q (f a) g s) : wp K Q (x >>= f) g s := by
  rw [wp_bind]
  refine wp_mono (fun r g s hr => ?_) hx
  cases r with
  | ok a => exact hf a g s hr
  | error e => exact hr

theorem wp_attempt (x : Coro I ε σ α) {Q : Except ε (Except ε α) → γ → σ → Prop} :
    wp K Q x.attempt g s ↔ wp K (fun r => Q (.ok r)) x g s := by
  induction x generalizing g s with
  | ret a => rfl
  | raise e => rfl
  | read k ih => exact ih s
  | write s' k ih => exact ih
  | await c k ih =>
    simp only [attempt, wp]
    exact and_congr_right fun _ => forall_congr' fun r => forall_congr' fun g' =>
      forall_congr' fun s' => imp_congr_right fun _ => ih r

theorem wp_tryExcept (x : Coro I ε σ α) (h : ε → Coro I ε σ α) :
    wp K Q (tryExcept x h) g s ↔
      wp K (Ends (fun a => Q (.ok a)) fun e => wp K Q (h e)) x g s := by
  rw [tryExcept, wp_bind, wp_attempt]
  exact wp_congr fun r g s => by cases r <;> rfl

theorem wp_tryFinally (x : Coro I ε σ α) (f : Except ε α → Coro I ε σ Unit) :
    wp K Q (tryFinally x f) g s ↔
      wp K (fun r => wp K (Ends (fun _ => Q r) fun e => Q (.error e)) (f r)) x g s := by
  rw [tryFinally, wp_bind, wp_attempt]
  refine wp_congr fun r g s => ?_
  rw [ends_ok, wp_bind]
  exact wp_congr fun r' g s => by cases r' <;> simp

/-- The loop rule: an invariant every iteration keeps, and an ending every exception
allows. -/
theorem wp_forEach {ι : Type} {f : ι → Coro I ε σ Unit} {Q : Except ε Unit → γ → σ → Prop}
    (J : List ι → γ → σ → Prop) (hend : ∀ g s, J [] g s → Q (.ok ()) g s)
    (hstep : ∀ x xs g s, J (x :: xs) g s →
      wp K (Ends (fun _ => J xs) fun e => Q (.error e)) (f x) g s) :
    ∀ {xs : List ι} {g : γ} {s : σ}, J xs g s → wp K Q (forEach f xs) g s := by
  intro xs
  induction xs with
  | nil => exact fun hJ => hend _ _ hJ
  | cons x xs ih =>
    intro g s hJ
    rw [forEach, wp_bind]
    refine wp_mono (fun r g s hr => ?_) (hstep x xs g s hJ)
    cases r with
    | ok _ => exact ih hr
    | error e => exact hr

/-! ### Working on a part of the state -/

/-- The contract `K` as a coroutine over the part `l` of the state sees it: the rest of the
state becomes part of the ghost. -/
def Contract.zoom (φ : Embedding I I') (l : Lens σ' σ) (K : Contract I' ε σ' γ) :
    Contract I ε σ (γ × σ') where
  suspend g c s := K.suspend g.1 (φ.call c) (l.set s g.2)
  resume g c s r g' s' := ∃ r', r = r'.map (φ.answer c) ∧
    K.resume g.1 (φ.call c) (l.set s g.2) r' g'.1 g'.2 ∧ s' = l.get g'.2

theorem wp_zoom {K : Contract I' ε σ' γ} {φ : Embedding I I'} {l : Lens σ' σ}
    {Q : Except ε α → γ → σ' → Prop} (x : Coro I ε σ α) (t : σ') :
    wp K Q (zoom φ l x) g t ↔
      wp (K.zoom φ l) (fun r g s => Q r g.1 (l.set s g.2)) x (g, t) (l.get t) := by
  suffices H : ∀ (x : Coro I ε σ α) (g : γ) (s : σ) (t : σ'),
      wp K Q (zoom φ l x) g (l.set s t) ↔
        wp (K.zoom φ l) (fun r g s => Q r g.1 (l.set s g.2)) x (g, t) s by
    simpa using H x g (l.get t) t
  intro x
  induction x with
  | ret a => exact fun g s t => Iff.rfl
  | raise e => exact fun g s t => Iff.rfl
  | read k ih => exact fun g s t => by simpa only [Coro.zoom, wp, l.get_set] using ih s g s t
  | write s' k ih => exact fun g s t => by simpa only [Coro.zoom, wp, l.set_set] using ih g s' t
  | await c k ih =>
    intro g s t
    simp only [Coro.zoom, wp, Contract.zoom]
    refine and_congr_right fun _ => ⟨?_, ?_⟩
    · rintro h _ ⟨g', t'⟩ _ ⟨r', rfl, hr, rfl⟩
      have := h r' g' t' hr
      rwa [← l.set_get t', ih] at this
    · intro h r' g' t' hr
      rw [← l.set_get t', ih]
      exact h _ (g', t') _ ⟨r', rfl, hr, rfl⟩

/-- **The frame rule**: an assertion that does not depend on the part `l`, and that the world
keeps, survives any coroutine over that part. -/
theorem wp_zoom_frame {K : Contract I' ε σ' γ} {φ : Embedding I I'} {l : Lens σ' σ}
    {Q : Except ε α → γ → σ' → Prop} (P : γ → σ' → Prop)
    (hset : ∀ g t s, P g t → P g (l.set s t))
    (hsuspend : ∀ g c t, P g t → K.suspend g (φ.call c) t)
    (hresume : ∀ g c t r g' t', P g t → K.resume g (φ.call c) t r g' t' → P g' t')
    (hend : ∀ r g t, P g t → Q r g t) (x : Coro I ε σ α) {g : γ} {t : σ'} (h : P g t) :
    wp K Q (zoom φ l x) g t := by
  induction x generalizing g t with
  | ret a => exact hend _ _ _ h
  | raise e => exact hend _ _ _ h
  | read k ih => exact ih _ h
  | write s k ih => exact ih (hset g t s h)
  | await c k ih =>
    exact ⟨hsuspend g c t h, fun r g' t' hr => ih _ (hresume g c t r g' t' h hr)⟩

/-! ### Assertions that a coroutine preserves -/

/-- `x`, started where `P` holds, keeps `K` and ends where `P` holds, with a result or an
exception. -/
def Preserves (K : Contract I ε σ γ) (P : γ → σ → Prop) (x : Coro I ε σ α) : Prop :=
  ∀ g s, P g s → wp K (fun _ => P) x g s

namespace Preserves

variable {P : γ → σ → Prop}

theorem pure (a : α) : Preserves K P (pure a : Coro I ε σ α) := fun _ _ h => h

theorem raise (e : ε) : Preserves K P (.raise e : Coro I ε σ α) := fun _ _ h => h

theorem getState : Preserves K P (getState : Coro I ε σ σ) := fun _ _ h => h

theorem ofExcept (r : Except ε α) : Preserves K P (ofExcept r : Coro I ε σ α) :=
  fun _ _ h => (wp_ofExcept r).mpr h

theorem modifyState {f : σ → σ} (hf : ∀ g s, P g s → P g (f s)) :
    Preserves K P (modifyState f : Coro I ε σ Unit) := fun g s h => hf g s h

theorem call {c : I.Call} (hsuspend : ∀ g s, P g s → K.suspend g c s)
    (hresume : ∀ g s r g' s', P g s → K.resume g c s r g' s' → P g' s') :
    Preserves K P (call c : Coro I ε σ (I.Answer c)) :=
  fun g s h => (wp_call c).mpr ⟨hsuspend g s h, fun r g' s' => hresume g s r g' s' h⟩

theorem bind {x : Coro I ε σ α} {f : α → Coro I ε σ β} (hx : Preserves K P x)
    (hf : ∀ a, Preserves K P (f a)) : Preserves K P (x >>= f) := by
  intro g s h
  rw [wp_bind]
  refine wp_mono (fun r g s hr => ?_) (hx g s h)
  cases r with
  | ok a => exact hf a g s hr
  | error e => exact hr

theorem attempt {x : Coro I ε σ α} (hx : Preserves K P x) : Preserves K P x.attempt :=
  fun g s h => (wp_attempt x).mpr (hx g s h)

theorem forEach {ι : Type} {f : ι → Coro I ε σ Unit} (hf : ∀ i, Preserves K P (f i))
    (xs : List ι) : Preserves K P (forEach f xs) := by
  intro g s h
  refine wp_forEach (fun _ => P) (fun g s h => h) (fun x _ g s h => ?_) h
  refine wp_mono (fun r g s hr => ?_) (hf x g s h)
  cases r with
  | ok _ => exact hr
  | error e => exact hr

theorem tryExcept {x : Coro I ε σ α} {f : ε → Coro I ε σ α} (hx : Preserves K P x)
    (hf : ∀ e, Preserves K P (f e)) : Preserves K P (tryExcept x f) := by
  intro g s h
  rw [wp_tryExcept]
  refine wp_mono (fun r g s hr => ?_) (hx g s h)
  cases r with
  | ok a => exact hr
  | error e => exact hf e g s hr

end Preserves

/-- `x` preserves `P`, and its result, if it has one, meets `R` in the state it ends in. -/
def Yields (K : Contract I ε σ γ) (P : γ → σ → Prop) (R : α → γ → σ → Prop)
    (x : Coro I ε σ α) : Prop :=
  ∀ g s, P g s → wp K (fun r g s => P g s ∧ ∀ a, r = .ok a → R a g s) x g s

namespace Yields

variable {P : γ → σ → Prop} {R : α → γ → σ → Prop} {R' : β → γ → σ → Prop}

theorem pure {a : α} (ha : ∀ g s, P g s → R a g s) : Yields K P R (pure a : Coro I ε σ α) := by
  refine fun g s h => ⟨h, fun a' ha' => ?_⟩
  rw [← Except.ok.inj ha']
  exact ha g s h

theorem raise (e : ε) : Yields K P R (.raise e : Coro I ε σ α) :=
  fun _ _ h => ⟨h, fun _ ha => by cases ha⟩

theorem ofExcept {r : Except ε α} (hr : ∀ a g s, r = .ok a → P g s → R a g s) :
    Yields K P R (ofExcept r : Coro I ε σ α) :=
  fun g s h => (wp_ofExcept r).mpr ⟨h, fun a ha => hr a g s ha h⟩

/-- After a result as described the rest begins. -/
theorem bind {x : Coro I ε σ α} {f : α → Coro I ε σ β} (hx : Yields K P R x)
    (hf : ∀ a g s, P g s → R a g s →
      wp K (fun r g s => P g s ∧ ∀ b, r = .ok b → R' b g s) (f a) g s) :
    Yields K P R' (x >>= f) := by
  intro g s h
  rw [wp_bind]
  refine wp_mono (fun r g s hr => ?_) (hx g s h)
  cases r with
  | ok a => exact hf a g s hr.1 (hr.2 a rfl)
  | error e => exact ⟨hr.1, fun b hb => by cases hb⟩

theorem of_preserves {x : Coro I ε σ α} (hx : Preserves K P x) :
    Yields K P (fun _ _ _ => True) x :=
  fun g s h => wp_mono (fun _ _ _ hr => ⟨hr, fun _ _ => trivial⟩) (hx g s h)

theorem bind_of_preserves {x : Coro I ε σ α} {f : α → Coro I ε σ β} (hx : Preserves K P x)
    (hf : ∀ a, Yields K P R' (f a)) : Yields K P R' (x >>= f) :=
  bind (of_preserves hx) fun a g s h _ => hf a g s h

theorem tryExcept {x : Coro I ε σ α} {f : ε → Coro I ε σ α} (hx : Yields K P R x)
    (hf : ∀ e, Yields K P R (f e)) : Yields K P R (tryExcept x f) := by
  intro g s h
  rw [wp_tryExcept]
  refine wp_mono (fun r g s hr => ?_) (hx g s h)
  cases r with
  | ok a => exact hr
  | error e => exact hf e g s hr.1

end Yields

/-! ### Exceptions -/

/-- The contract of a world that answers as `A` allows. -/
def answering (A : (c : I.Call) → Except ε (I.Answer c) → Prop) : Contract I ε σ Unit where
  suspend _ _ _ := True
  resume _ c _ r _ _ := A c r

/-- As long as the answers are as `A` allows, `x` raises only exceptions in `E`. -/
def Raises (A : (c : I.Call) → Except ε (I.Answer c) → Prop) (E : ε → Prop)
    (x : Coro I ε σ α) : Prop :=
  ∀ s, wp (answering A) (fun r _ _ => ∀ e, r = .error e → E e) x () s

namespace Raises

variable {A : (c : I.Call) → Except ε (I.Answer c) → Prop} {E E' : ε → Prop}

/-- Every coroutine raises only exceptions. -/
theorem any (x : Coro I ε σ α) : Raises A (fun _ => True) x := by
  intro s
  induction x generalizing s with
  | ret a => exact fun _ _ => trivial
  | raise e => exact fun _ _ => trivial
  | read k ih => exact ih s s
  | write s' k ih => exact ih s'
  | await c k ih => exact ⟨trivial, fun r _ s' _ => ih r s'⟩

theorem pure (a : α) : Raises A E (pure a : Coro I ε σ α) := by
  intro s e h
  cases h

theorem raise {e : ε} (he : E e) : Raises A E (.raise e : Coro I ε σ α) := by
  intro s e' h
  cases h
  exact he

theorem modifyState (f : σ → σ) : Raises A E (modifyState f : Coro I ε σ Unit) := by
  intro s e h
  cases h

theorem ofExcept {r : Except ε α} (hr : ∀ e, r = .error e → E e) :
    Raises A E (ofExcept r : Coro I ε σ α) := fun _ => (wp_ofExcept r).mpr hr

theorem call {c : I.Call} (hc : ∀ e, A c (.error e) → E e) :
    Raises A E (call c : Coro I ε σ (I.Answer c)) := by
  intro s
  refine (wp_call c).mpr ⟨trivial, fun r _ s' hr e he => ?_⟩
  rw [he] at hr
  exact hc e hr

theorem bind {x : Coro I ε σ α} {f : α → Coro I ε σ β} (hx : Raises A E x)
    (hf : ∀ a, Raises A E (f a)) : Raises A E (x >>= f) := by
  intro s
  rw [wp_bind]
  refine wp_mono (fun r _ s hr => ?_) (hx s)
  cases r with
  | ok a => exact hf a s
  | error e =>
    intro e' he'
    cases he'
    exact hr e rfl

theorem tryExcept {x : Coro I ε σ α} {h : ε → Coro I ε σ α} (hx : Raises A E' x)
    (hh : ∀ e, E' e → Raises A E (h e)) : Raises A E (tryExcept x h) := by
  intro s
  rw [wp_tryExcept]
  refine wp_mono (fun r _ s hr => ?_) (hx s)
  cases r with
  | ok a =>
    intro e he
    cases he
  | error e => exact hh e (hr e rfl) s

/-- After an attempt the exception is a value. -/
theorem attempt_bind {x : Coro I ε σ α} {f : Except ε α → Coro I ε σ β} (hx : Raises A E' x)
    (hok : ∀ a, Raises A E (f (.ok a))) (herror : ∀ e, E' e → Raises A E (f (.error e))) :
    Raises A E (x.attempt >>= f) := by
  intro s
  rw [wp_bind, wp_attempt]
  refine wp_mono (fun r _ s hr => ?_) (hx s)
  cases r with
  | ok a => exact hok a s
  | error e => exact herror e (hr e rfl) s

theorem forEach {ι : Type} {f : ι → Coro I ε σ Unit} (hf : ∀ i, Raises A E (f i)) :
    ∀ xs : List ι, Raises A E (forEach f xs)
  | [] => .pure ()
  | x :: xs => .bind (hf x) fun _ => forEach hf xs

end Raises

/-- What `x` establishes and what it raises, together. -/
theorem wp_and_raises {A : (c : I.Call) → Except ε (I.Answer c) → Prop} {E : ε → Prop}
    {x : Coro I ε σ α} (hK : ∀ g c s r g' s', K.resume g c s r g' s' → A c r)
    (h : wp K Q x g s) (hx : Raises A E x) :
    wp K (fun r g s => Q r g s ∧ ∀ e, r = .error e → E e) x g s := by
  have hxs := hx s
  clear hx
  induction x generalizing g s with
  | ret a => exact ⟨h, hxs⟩
  | raise e => exact ⟨h, hxs⟩
  | read k ih => exact ih s h hxs
  | write s' k ih => exact ih h hxs
  | await c k ih =>
    refine ⟨h.1, fun r g' s' hr => ?_⟩
    exact ih r (h.2 r g' s' hr) (hxs.2 r () s' (hK g c s r g' s' hr))

/-- The exception of a call is never caught: `x` ends with it. -/
def Transparent : Coro I ε σ α → Prop
  | .ret _ => True
  | .raise _ => True
  | .read k => ∀ s, (k s).Transparent
  | .write _ k => k.Transparent
  | .await _ k => (∀ e, k (.error e) = .raise e) ∧ ∀ a, (k (.ok a)).Transparent

namespace Transparent

theorem pure (a : α) : (pure a : Coro I ε σ α).Transparent := trivial

theorem raise (e : ε) : (Coro.raise e : Coro I ε σ α).Transparent := trivial

theorem getState : (getState : Coro I ε σ σ).Transparent := fun _ => trivial

theorem modifyState (f : σ → σ) : (modifyState f : Coro I ε σ Unit).Transparent := fun _ => trivial

theorem ofExcept (r : Except ε α) : (ofExcept r : Coro I ε σ α).Transparent := by
  cases r with
  | ok a => exact trivial
  | error e => exact trivial

theorem call (c : I.Call) : (call c : Coro I ε σ (I.Answer c)).Transparent :=
  ⟨fun _ => rfl, fun _ => trivial⟩

theorem bind {x : Coro I ε σ α} {f : α → Coro I ε σ β} (hx : x.Transparent)
    (hf : ∀ a, (f a).Transparent) : (x >>= f).Transparent := by
  show (x.bind f).Transparent
  induction x with
  | ret a => exact hf a
  | raise e => exact trivial
  | read k ih => exact fun s => ih s (hx s)
  | write s' k ih => exact ih hx
  | await c k ih =>
    refine ⟨fun e => ?_, fun a => ih (.ok a) (hx.2 a)⟩
    show (k (.error e)).bind f = .raise e
    rw [hx.1 e]
    rfl

theorem zoom (φ : Embedding I I') (l : Lens σ' σ) {x : Coro I ε σ α} (hx : x.Transparent) :
    (zoom φ l x).Transparent := by
  induction x with
  | ret a => exact trivial
  | raise e => exact trivial
  | read k ih => exact fun t => ih (l.get t) (hx _)
  | write s k ih => exact fun _ => ih hx
  | await c k ih =>
    refine ⟨fun e => ?_, fun a => ih (.ok (φ.answer c a)) (hx.2 _)⟩
    show Coro.zoom φ l (k (.error e)) = .raise e
    rw [hx.1 e]
    rfl

/-- **The first error** a call is answered with is how the run ends. -/
theorem exec {x : Coro I ε σ α} (hx : x.Transparent) (w : World I ε σ) {n : ℕ} {s : σ}
    {v : Event I ε σ} (hv : v ∈ (x.exec w n s).trace) {e : ε} (he : v.answer = .error e) :
    (x.exec w n s).result = .error e := by
  induction x generalizing n s with
  | ret a => exact absurd hv List.not_mem_nil
  | raise e => exact absurd hv List.not_mem_nil
  | read k ih => exact ih s (hx s) hv
  | write s' k ih => exact ih hx hv
  | await c k ih =>
    show ((k (w n c s).1).exec w (n + 1) (w n c s).2).result = .error e
    rcases List.mem_cons.mp hv with hfirst | hrest
    · have hanswer : (w n c s).1 = .error e := by
        subst hfirst
        exact he
      rw [hanswer, hx.1 e]
      rfl
    · cases hanswer : (w n c s).1 with
      | ok a =>
        rw [hanswer] at hrest
        exact ih (.ok a) (hx.2 a) hrest
      | error e' =>
        rw [hanswer, hx.1 e'] at hrest
        exact absurd hrest List.not_mem_nil

end Transparent

/-! ### One segment -/

def Status.Keeps (K : Contract I ε σ γ) (Q : Except ε α → γ → σ → Prop) :
    Status I ε σ α → γ → σ → Prop
  | .done r, g, s => Q r g s
  | .waiting c k, g, s =>
    K.suspend g c s ∧ ∀ r g' s', K.resume g c s r g' s' → (k r).wp K Q g' s'

/-- **One segment** keeps the contract up to where it stops. -/
theorem wp_run {x : Coro I ε σ α} (h : wp K Q x g s) :
    (x.run s).2.Keeps K Q g (x.run s).1 := by
  induction x generalizing s with
  | ret a => exact h
  | raise e => exact h
  | read k ih => exact ih s h
  | write s' k ih => exact ih h
  | await c k ih => exact h

/-! ### A whole run -/

/-- The world `w` keeps its side of `K` when the ghost is updated by `note`. -/
def World.Obeys (w : World I ε σ) (K : Contract I ε σ γ) (note : γ → Event I ε σ → γ) : Prop :=
  ∀ n g c s, K.suspend g c s →
    K.resume g c s (w n c s).1 (note g ⟨c, s, (w n c s).1, (w n c s).2⟩) (w n c s).2

/-- **A whole run** against an obedient world ends in the postcondition, with the ghost
noted along its trace. -/
theorem wp_exec {w : World I ε σ} {note : γ → Event I ε σ → γ} (hw : w.Obeys K note)
    {x : Coro I ε σ α} {n : ℕ} (h : wp K Q x g s) :
    Q (x.exec w n s).result ((x.exec w n s).trace.foldl note g) (x.exec w n s).state := by
  induction x generalizing g s n with
  | ret a => exact h
  | raise e => exact h
  | read k ih => exact ih s h
  | write s' k ih => exact ih h
  | await c k ih => exact ih _ (h.2 _ _ _ (hw n g c s h.1))

/-- The same with the trace itself as the ghost. -/
theorem wp_exec_trace {w : World I ε σ} {K : Contract I ε σ (List (Event I ε σ))}
    {Q : Except ε α → List (Event I ε σ) → σ → Prop}
    (hw : w.Obeys K fun trace v => trace ++ [v]) {x : Coro I ε σ α} {n : ℕ}
    (h : wp K Q x [] s) :
    Q (x.exec w n s).result (x.exec w n s).trace (x.exec w n s).state := by
  have hfold : (x.exec w n s).trace.foldl (fun trace v => trace ++ [v]) []
      = (x.exec w n s).trace := by
    rw [List.foldl_append_eq_append, List.nil_append, ← List.flatMap_def, List.flatMap_singleton']
  have hpost := wp_exec hw (n := n) h
  rwa [hfold] at hpost

/-- **A run whose events are as `P` says** ends in the postcondition of a contract that the
world obeys at such events. -/
theorem wp_exec_of_trace {w : World I ε σ} (note : γ → Event I ε σ → γ) {P : Event I ε σ → Prop}
    (hw : ∀ n g c s, P ⟨c, s, (w n c s).1, (w n c s).2⟩ →
      K.resume g c s (w n c s).1 (note g ⟨c, s, (w n c s).1, (w n c s).2⟩) (w n c s).2)
    {x : Coro I ε σ α} {n : ℕ} (h : wp K Q x g s) (htrace : ∀ v ∈ (x.exec w n s).trace, P v) :
    Q (x.exec w n s).result ((x.exec w n s).trace.foldl note g) (x.exec w n s).state := by
  induction x generalizing g s n with
  | ret a => exact h
  | raise e => exact h
  | read k ih => exact ih s h htrace
  | write s' k ih => exact ih h htrace
  | await c k ih =>
    refine ih _ (h.2 _ _ _ (hw n g c s ?_)) fun v hv => ?_
    · exact htrace _ List.mem_cons_self
    · exact htrace v (List.mem_cons_of_mem _ hv)

/-- The contract under which exactly the runs against `w` are possible; the ghost is the trace so
far. -/
def World.traced (w : World I ε σ) : Contract I ε σ (List (Event I ε σ)) where
  suspend _ _ _ := True
  resume trace c s r trace' s' := trace' = trace ++ [⟨c, s, r, s'⟩] ∧
    r = (w trace.length c s).1 ∧ s' = (w trace.length c s).2

/-- **A single run** and its preconditions say the same. -/
theorem wp_traced {w : World I ε σ} {Q : Except ε α → List (Event I ε σ) → σ → Prop}
    {x : Coro I ε σ α} {trace : List (Event I ε σ)} :
    wp w.traced Q x trace s ↔ Q (x.exec w trace.length s).result
      (trace ++ (x.exec w trace.length s).trace) (x.exec w trace.length s).state := by
  induction x generalizing trace s with
  | ret a =>
    show Q _ _ _ ↔ Q _ (trace ++ []) _
    rw [List.append_nil]
    rfl
  | raise e =>
    show Q _ _ _ ↔ Q _ (trace ++ []) _
    rw [List.append_nil]
    rfl
  | read k ih => exact ih s
  | write s' k ih => exact ih
  | await c k ih =>
    have hnext : wp w.traced Q (k (w trace.length c s).1)
        (trace ++ [⟨c, s, (w trace.length c s).1, (w trace.length c s).2⟩])
        (w trace.length c s).2 ↔ _ := ih (w trace.length c s).1
    rw [List.length_append, List.length_singleton, List.append_assoc] at hnext
    constructor
    · rintro ⟨-, h⟩
      exact hnext.mp (h _ _ _ ⟨rfl, rfl, rfl⟩)
    · intro h
      refine ⟨trivial, ?_⟩
      rintro r trace' s' ⟨rfl, rfl, rfl⟩
      exact hnext.mpr h

theorem wp_call_traced {w : World I ε σ} {c : I.Call}
    {Q : Except ε (I.Answer c) → List (Event I ε σ) → σ → Prop} {trace : List (Event I ε σ)} :
    wp w.traced Q (call c) trace s ↔ Q (w trace.length c s).1
      (trace ++ [⟨c, s, (w trace.length c s).1, (w trace.length c s).2⟩])
      (w trace.length c s).2 := by
  rw [wp_call]
  constructor
  · rintro ⟨-, h⟩
    exact h _ _ _ ⟨rfl, rfl, rfl⟩
  · intro h
    refine ⟨trivial, ?_⟩
    rintro r trace' s' ⟨rfl, rfl, rfl⟩
    exact h

/-- The contract of the runs whose events are as `P` says; the ghost is the trace so far. -/
def recording (P : Event I ε σ → Prop) : Contract I ε σ (List (Event I ε σ)) where
  suspend _ _ _ := True
  resume trace c s r trace' s' := trace' = trace ++ [⟨c, s, r, s'⟩] ∧ P ⟨c, s, r, s'⟩

section Recording

variable {P : Event I ε σ → Prop} {trace : List (Event I ε σ)}

theorem wp_call_recording {c : I.Call}
    {Q : Except ε (I.Answer c) → List (Event I ε σ) → σ → Prop} :
    wp (recording P) Q (call c) trace s ↔
      ∀ r s', P ⟨c, s, r, s'⟩ → Q r (trace ++ [⟨c, s, r, s'⟩]) s' := by
  rw [wp_call]
  constructor
  · rintro ⟨-, h⟩ r s' hP
    exact h r _ s' ⟨rfl, hP⟩
  · intro h
    refine ⟨trivial, ?_⟩
    rintro r trace' s' ⟨rfl, hP⟩
    exact h r s' hP

/-- **A run whose events are as `P` says** ends in the postcondition, with its trace. -/
theorem wp_exec_recording {w : World I ε σ} {Q : Except ε α → List (Event I ε σ) → σ → Prop}
    {x : Coro I ε σ α} {n : ℕ} (h : wp (recording P) Q x [] s)
    (htrace : ∀ v ∈ (x.exec w n s).trace, P v) :
    Q (x.exec w n s).result (x.exec w n s).trace (x.exec w n s).state := by
  have hfold : ∀ l front : List (Event I ε σ),
      l.foldl (fun trace v => trace ++ [v]) front = front ++ l := by
    intro l front
    rw [List.foldl_append_eq_append, ← List.flatMap_def, List.flatMap_singleton']
  have hpost := wp_exec_of_trace (K := recording P) (w := w) (fun trace v => trace ++ [v])
    (fun _ _ _ _ hv => And.intro rfl hv) h htrace
  rwa [hfold, List.nil_append] at hpost

end Recording

/-- How a run in two parts ends. -/
theorem result_exec_bind (w : World I ε σ) (x : Coro I ε σ α) (f : α → Coro I ε σ β) (n : ℕ)
    (s : σ) :
    ((x >>= f).exec w n s).result =
      match (x.exec w n s).result with
      | .ok a => ((f a).exec w (n + (x.exec w n s).trace.length) (x.exec w n s).state).result
      | .error e => .error e := by
  show ((x.bind f).exec w n s).result = _
  induction x generalizing n s with
  | ret a => rfl
  | raise e => rfl
  | read k ih => exact ih s n s
  | write s' k ih => exact ih n s'
  | await c k ih =>
    show (((k (w n c s).1).bind f).exec w (n + 1) (w n c s).2).result = _
    rw [ih, show n + 1 + _ = n + (_ + 1) from Nat.add_right_comm _ _ _]
    rfl

/-- Every event of a run is an answer of its world. -/
theorem exec_answered {w : World I ε σ} {x : Coro I ε σ α} {n : ℕ} {v : Event I ε σ}
    (hv : v ∈ (x.exec w n s).trace) : ∃ i, w i v.call v.before = (v.answer, v.after) := by
  induction x generalizing n s with
  | ret a => exact absurd hv List.not_mem_nil
  | raise e => exact absurd hv List.not_mem_nil
  | read k ih => exact ih s hv
  | write s' k ih => exact ih hv
  | await c k ih =>
    rcases List.mem_cons.mp hv with rfl | hv
    · exact ⟨n, rfl⟩
    · exact ih _ hv

/-- At every suspension of a whole run, what the coroutine owes there holds. -/
theorem wp_exec_suspend {w : World I ε σ} {note : γ → Event I ε σ → γ} (hw : w.Obeys K note)
    {x : Coro I ε σ α} {n : ℕ} (h : wp K Q x g s) :
    ∀ v ∈ (x.exec w n s).trace, ∃ g, K.suspend g v.call v.before := by
  induction x generalizing g s n with
  | ret a => exact fun v hv => absurd hv (List.not_mem_nil)
  | raise e => exact fun v hv => absurd hv (List.not_mem_nil)
  | read k ih => exact ih s h
  | write s' k ih => exact ih h
  | await c k ih =>
    intro v hv
    rcases List.mem_cons.mp hv with rfl | hv
    · exact ⟨g, h.1⟩
    · exact ih _ (h.2 _ _ _ (hw n g c s h.1)) v hv

end Coro
