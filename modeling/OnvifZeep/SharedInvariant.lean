/-
Invariants of the state that tasks share.

Every segment of a task begins where an invariant holds, whatever ran in between, and has to stop
where it holds again.  Then it holds at every suspension of every interleaving.

* **`Maintains`** — coroutines of such segments, also those that work on a part of the state;
* **`Preserves.getState_bind`**, **`Preserves.ofExcept_bind`** — what is known of a value that was read
  or calculated;
* **`Pool.Keeping`** — the invariant of a pool: it is kept by starting a task, by resuming one and by
  changes from outside.
-/
import OnvifZeep.TaskPool

namespace Coro

variable {κ : Type} {I : Interface} {ε σ : Type} {Inv : σ → Prop}

/-- Every segment begins and stops where the invariant holds. -/
def keeping (Inv : σ → Prop) : Contract I ε σ Unit where
  suspend _ _ s := Inv s
  resume _ _ _ _ _ s' := Inv s'

section Results

variable {γ α β : Type} {K : Contract I ε σ γ} {P : γ → σ → Prop}

/-- The invariant holds of the state that is read. -/
theorem Preserves.getState_bind {f : σ → Coro I ε σ α}
    (hf : ∀ s, Inv s → Preserves K (fun _ => Inv) (f s)) :
    Preserves K (fun _ => Inv) (Coro.getState >>= f) := fun g s h => hf s h g s h

/-- After a result the rest begins, and after an exception nothing more happens. -/
theorem Preserves.ofExcept_bind {r : Except ε α} {f : α → Coro I ε σ β}
    (hf : ∀ a, r = .ok a → Preserves K P (f a)) : Preserves K P (Coro.ofExcept r >>= f) := by
  intro g s h
  rw [wp_bind, wp_ofExcept]
  cases r with
  | ok a => exact hf a rfl g s h
  | error e => exact h

end Results

/-- The coroutine keeps the invariant, whatever else keeps it meanwhile. -/
abbrev Maintains {α : Type} (Inv : σ → Prop) (x : Coro I ε σ α) : Prop :=
  Preserves (keeping Inv) (fun _ => Inv) x

namespace Maintains

variable {α : Type}

theorem call (c : I.Call) : Maintains Inv (call c : Coro I ε σ (I.Answer c)) :=
  Preserves.call (fun _ _ h => h) fun _ _ _ _ _ _ hr => hr

variable (Inv) in
/-- **A coroutine over a part of the state** keeps an invariant of that part. -/
theorem zoom {I' : Interface} {σ' : Type} {φ : Embedding I I'} (l : Lens σ' σ)
    {x : Coro I ε σ α} (hx : Maintains Inv x) :
    Maintains (fun t => Inv (l.get t)) (Coro.zoom φ l x) := by
  intro g t ht
  rw [wp_zoom]
  have hpart : wp ((keeping fun t => Inv (l.get t)).zoom φ l) (fun _ _ => Inv) x (g, t) (l.get t) :=
    wp_comap (fun _ => ()) (fun g c s hs => show Inv (l.get (l.set s g.2)) by rwa [l.get_set])
      (fun g c s r g' s' hr => by
        obtain ⟨r', -, hinv, rfl⟩ := hr
        exact hinv) (hx () (l.get t) ht)
  refine wp_mono (fun r g s hs => ?_) hpart
  rwa [l.get_set]

end Maintains

/-- What is left of a coroutine keeps the invariant, from wherever it is resumed. -/
def Status.Guarded (Inv : σ → Prop) : Status I ε σ Unit → Prop
  | .done _ => True
  | .waiting _ k => ∀ r, Maintains Inv (k r)

theorem Status.Keeps.guarded {st : Status I ε σ Unit} {s : σ}
    (h : st.Keeps (keeping Inv) (fun _ _ => Inv) () s) : Inv s ∧ st.Guarded Inv := by
  cases st with
  | done r => exact ⟨h, trivial⟩
  | waiting c k => exact ⟨h.1, fun r _ s' hs' => h.2 r () s' hs'⟩

namespace Pool

/-- The invariant holds, and what is left of every task keeps it. -/
structure Keeping (Inv : σ → Prop) (p : Pool κ I ε σ) : Prop where
  shared : Inv p.shared
  tasks : ∀ t ∈ p.tasks, t.status.Guarded Inv

variable {p p' : Pool κ I ε σ}

/-- **Starting a task** that keeps the invariant. -/
theorem Keeping.start (h : p.Keeping Inv) (kind : κ) {x : Coro I ε σ Unit}
    (hx : Maintains Inv x) : (p.start kind x).Keeping Inv := by
  obtain ⟨hinv, hguarded⟩ := (wp_run (hx () p.shared h.shared)).guarded
  refine ⟨hinv, fun t ht => ?_⟩
  rcases List.mem_append.mp ht with ht | ht
  · exact h.tasks t ht
  · rw [List.mem_singleton.mp ht]
    exact hguarded

/-- **Resuming a task**, with any answer. -/
theorem Keeping.resume [DecidableEq I.Call] (h : p.Keeping Inv) {i : ℕ} {c : I.Call}
    {r : Except ε (I.Answer c)} (hresume : p.resume i c r = some p') : p'.Keeping Inv := by
  obtain ⟨kind, k, ht, rfl⟩ := resume_eq_some.mp hresume
  have hrest : ∀ r, Maintains Inv (k r) :=
    h.tasks _ (List.mem_of_getElem? ht)
  obtain ⟨hinv, hguarded⟩ := (wp_run (hrest r () p.shared h.shared)).guarded
  refine ⟨hinv, fun t ht' => ?_⟩
  rcases List.mem_or_eq_of_mem_set ht' with ht' | rfl
  · exact h.tasks t ht'
  · exact hguarded

/-- **A change from outside** that keeps the invariant. -/
theorem Keeping.update (h : p.Keeping Inv) {f : σ → σ} (hf : Inv (f p.shared)) :
    (p.update f).Keeping Inv := ⟨hf, h.tasks⟩

end Pool

end Coro
