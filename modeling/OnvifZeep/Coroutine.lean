/-
Coroutines over a shared state, as cooperative tasks of a single-threaded event loop.

A value of `Coro I ε σ α` runs without interruption between two suspension points: it may
read and replace the shared state (`σ`), raise an exception (`ε`), and suspend in an
`await` of one of the calls of its interface `I`, to be resumed with the call's answer or
with an exception.  The tree is inductive, so every coroutine terminates once each of its
calls is answered.

* **`run`**, **`Status.resume`** — one segment: from the start or a resumption to the next
  suspension or the end;
* **`exec`** — a whole run against a `World` that answers every call and may change the
  shared state meanwhile;
* **`attempt`** — turns an exception into a value, from which `tryExcept` and `tryFinally`
  are derived;
* **`zoom`** — a coroutine over a part of the state, used inside one over the whole state.
-/
import Mathlib.Data.Nat.Notation

/-- The calls a coroutine can wait for, each with the type of its answer. -/
structure Interface where
  Call : Type
  Answer : Call → Type

/-- A coroutine with calls from `I`, exceptions `ε`, shared state `σ` and result `α`. -/
inductive Coro (I : Interface) (ε σ α : Type) : Type where
  | ret (a : α)
  | raise (e : ε)
  | read (k : σ → Coro I ε σ α)
  | write (s : σ) (k : Coro I ε σ α)
  | await (c : I.Call) (k : Except ε (I.Answer c) → Coro I ε σ α)

namespace Coro

variable {I I' : Interface} {ε σ σ' α β : Type}

/-! ### Sequencing -/

/-- Run `x`, then `f` on its result; an exception of `x` skips `f`. -/
protected def bind : Coro I ε σ α → (α → Coro I ε σ β) → Coro I ε σ β
  | .ret a, f => f a
  | .raise e, _ => .raise e
  | .read k, f => .read fun s => (k s).bind f
  | .write s k, f => .write s (k.bind f)
  | .await c k, f => .await c fun r => (k r).bind f

instance : Monad (Coro I ε σ) where
  pure := Coro.ret
  bind := Coro.bind

def getState : Coro I ε σ σ := .read .ret

def modifyState (f : σ → σ) : Coro I ε σ Unit := .read fun s => .write (f s) (.ret ())

def ofExcept : Except ε α → Coro I ε σ α
  | .ok a => .ret a
  | .error e => .raise e

/-- Wait for the call `c`: its answer is the result, its exception is raised here. -/
def call (c : I.Call) : Coro I ε σ (I.Answer c) := .await c ofExcept

/-- Run `x` and return how it ended; never raises. -/
def attempt : Coro I ε σ α → Coro I ε σ (Except ε α)
  | .ret a => .ret (.ok a)
  | .raise e => .ret (.error e)
  | .read k => .read fun s => (k s).attempt
  | .write s k => .write s k.attempt
  | .await c k => .await c fun r => (k r).attempt

/-- `try: x except: h`, where `h` sees the exception and may raise it again. -/
def tryExcept (x : Coro I ε σ α) (h : ε → Coro I ε σ α) : Coro I ε σ α :=
  x.attempt >>= fun r =>
    match r with
    | .ok a => pure a
    | .error e => h e

/-- `try: x finally: f`, where `f` sees how `x` ended. -/
def tryFinally (x : Coro I ε σ α) (f : Except ε α → Coro I ε σ Unit) : Coro I ε σ α :=
  x.attempt >>= fun r => f r >>= fun _ => ofExcept r

def forEach {ι : Type} (f : ι → Coro I ε σ Unit) : List ι → Coro I ε σ Unit
  | [] => pure ()
  | x :: xs => f x >>= fun _ => forEach f xs

/-! ### One segment -/

inductive Status (I : Interface) (ε σ α : Type) : Type where
  | done (r : Except ε α)
  | waiting (c : I.Call) (k : Except ε (I.Answer c) → Coro I ε σ α)

/-- Run until the next suspension or the end. -/
def run : Coro I ε σ α → σ → σ × Status I ε σ α
  | .ret a, s => (s, .done (.ok a))
  | .raise e, s => (s, .done (.error e))
  | .read k, s => (k s).run s
  | .write s k, _ => k.run s
  | .await c k, s => (s, .waiting c k)

/-- One more segment, in state `s`, where the call `c` is answered; `none` if the coroutine does
not wait for it. -/
def Status.resume [DecidableEq I.Call] (st : Status I ε σ α) (c : I.Call)
    (r : Except ε (I.Answer c)) (s : σ) : Option (σ × Status I ε σ α) :=
  match st with
  | .done _ => none
  | .waiting c' k => if h : c = c' then some ((k (h ▸ r)).run s) else none

theorem Status.resume_eq_some [DecidableEq I.Call] {st : Status I ε σ α} {c : I.Call}
    {r : Except ε (I.Answer c)} {s : σ} {p : σ × Status I ε σ α} :
    st.resume c r s = some p ↔ ∃ k, st = .waiting c k ∧ p = (k r).run s := by
  cases st with
  | done _ =>
    constructor
    · intro h
      cases h
    · rintro ⟨k, hk, -⟩
      cases hk
  | waiting c' k =>
    by_cases hc : c = c'
    · subst hc
      rw [resume, dif_pos rfl]
      constructor
      · intro h
        exact ⟨k, rfl, (Option.some.inj h).symm⟩
      · rintro ⟨k', hk, rfl⟩
        cases hk
        rfl
    · rw [resume, dif_neg hc]
      constructor
      · intro h
        cases h
      · rintro ⟨k', hk, -⟩
        cases hk
        exact (hc rfl).elim

/-! ### A whole run -/

/-- One suspension of a run: the call, the state it left, the answer it got and the state
it resumed in. -/
structure Event (I : Interface) (ε σ : Type) where
  call : I.Call
  before : σ
  answer : Except ε (I.Answer call)
  after : σ

/-- Everything outside one coroutine: it answers the `n`-th call and says in which state
the coroutine resumes. -/
abbrev World (I : Interface) (ε σ : Type) : Type :=
  ℕ → (c : I.Call) → σ → Except ε (I.Answer c) × σ

/-- A world that answers the calls and leaves the shared state alone. -/
def World.alone (answers : (c : I.Call) → Except ε (I.Answer c)) : World I ε σ :=
  fun _ c s => (answers c, s)

structure Outcome (I : Interface) (ε σ α : Type) where
  result : Except ε α
  state : σ
  trace : List (Event I ε σ)

/-- Run to the end against the world `w`, whose next answer is the `n`-th. -/
def exec (w : World I ε σ) : Coro I ε σ α → ℕ → σ → Outcome I ε σ α
  | .ret a, _, s => ⟨.ok a, s, []⟩
  | .raise e, _, s => ⟨.error e, s, []⟩
  | .read k, n, s => (k s).exec w n s
  | .write s k, n, _ => k.exec w n s
  | .await c k, n, s =>
    let o := (k (w n c s).1).exec w (n + 1) (w n c s).2
    ⟨o.result, o.state, ⟨c, s, (w n c s).1, (w n c s).2⟩ :: o.trace⟩

/-! ### Working on a part of the state -/

/-- A part `σ` of a state `σ'`: how to read it and how to replace it. -/
structure Lens (σ' σ : Type) where
  get : σ' → σ
  set : σ → σ' → σ'
  get_set : ∀ s t, get (set s t) = s
  set_get : ∀ t, set (get t) t = t
  set_set : ∀ s s' t, set s (set s' t) = set s t

attribute [simp] Lens.get_set Lens.set_get Lens.set_set

/-- How the calls of one interface are made through another. -/
structure Embedding (I I' : Interface) where
  call : I.Call → I'.Call
  -- the answer of the call made, as the answer of the call meant
  answer : (c : I.Call) → I'.Answer (call c) → I.Answer c

def Embedding.id (I : Interface) : Embedding I I := ⟨fun c => c, fun _ a => a⟩

/-- Run a coroutine over the part `l` of a larger state, making its calls through `φ`. -/
def zoom (φ : Embedding I I') (l : Lens σ' σ) : Coro I ε σ α → Coro I' ε σ' α
  | .ret a => .ret a
  | .raise e => .raise e
  | .read k => .read fun t => zoom φ l (k (l.get t))
  | .write s k => .read fun t => .write (l.set s t) (zoom φ l k)
  | .await c k => .await (φ.call c) fun r => zoom φ l (k (r.map (φ.answer c)))

end Coro
