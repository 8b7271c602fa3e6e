/-
A cell that is filled once.

Callers that find it empty queue for a lock.  The one that gets the lock looks again and, if the
cell is still empty, builds a value with the lock held.  Building may fail; the lock is released
and the next caller tries.

* **`Step`** — what can happen, with any number of callers and in any order;
* **`Inv`** — one caller at most builds, and only while the cell is empty;
* **`Steps.built`** — at most one build succeeds, and it fills the cell;
* **`Steps.raised`** — a caller raises only what its own build failed with.
-/
import OnvifZeep.TaskPool

namespace Once

open Coro.Pool (getElem?_concat_eq_some getElem?_set_eq_some)

variable {α ε : Type}

/-- How far a caller got. -/
inductive Phase (α ε : Type) where
  -- it found the cell empty and waits for the lock
  | queued
  -- it has the lock and builds
  | building
  | returned (a : α)
  | raised (e : ε)

structure Cell (α ε : Type) where
  value : Option α
  locked : Bool
  callers : List (Phase α ε)

inductive Action (α ε : Type) where
  | arrive
  | acquire (i : ℕ)
  | built (i : ℕ) (a : α)
  | failed (i : ℕ) (e : ε)

/-- What can happen. -/
inductive Step : Cell α ε → Action α ε → Cell α ε → Prop where
  | found {c : Cell α ε} {a : α} (hvalue : c.value = some a) :
      Step c .arrive { c with callers := c.callers ++ [.returned a] }
  | queue {c : Cell α ε} (hvalue : c.value = none) :
      Step c .arrive { c with callers := c.callers ++ [.queued] }
  -- another caller filled the cell meanwhile
  | foundLater {c : Cell α ε} {i : ℕ} {a : α} (hi : c.callers[i]? = some .queued)
      (hfree : c.locked = false) (hvalue : c.value = some a) :
      Step c (.acquire i) { c with callers := c.callers.set i (.returned a) }
  | build {c : Cell α ε} {i : ℕ} (hi : c.callers[i]? = some .queued)
      (hfree : c.locked = false) (hvalue : c.value = none) :
      Step c (.acquire i) { c with locked := true, callers := c.callers.set i .building }
  | built {c : Cell α ε} {i : ℕ} {a : α} (hi : c.callers[i]? = some .building) :
      Step c (.built i a) ⟨some a, false, c.callers.set i (.returned a)⟩
  | failed {c : Cell α ε} {i : ℕ} {e : ε} (hi : c.callers[i]? = some .building) :
      Step c (.failed i e) ⟨c.value, false, c.callers.set i (.raised e)⟩

/-- What can happen one after the other. -/
inductive Steps : Cell α ε → List (Action α ε) → Cell α ε → Prop where
  | nil {c : Cell α ε} : Steps c [] c
  | cons {c c' c'' : Cell α ε} {a : Action α ε} {as : List (Action α ε)} (h : Step c a c')
      (hs : Steps c' as c'') : Steps c (a :: as) c''

/-- The cell, before anybody came. -/
def empty : Cell α ε := ⟨none, false, []⟩

/-! ### The invariant -/

structure Inv (c : Cell α ε) : Prop where
  -- a caller that builds has the lock, and there is no other
  locked : ∀ i : ℕ, c.callers[i]? = some .building → c.locked = true
  unique : ∀ i j : ℕ, c.callers[i]? = some .building → c.callers[j]? = some .building → i = j
  vacant : ∀ i : ℕ, c.callers[i]? = some .building → c.value = none
  returned : ∀ (i : ℕ) (a : α), c.callers[i]? = some (.returned a) → c.value = some a

theorem inv_empty : Inv (empty : Cell α ε) where
  locked _ h := nomatch h
  unique _ _ h := nomatch h
  vacant _ h := nomatch h
  returned _ _ h := nomatch h

variable {c c' : Cell α ε} {a : Action α ε} {as : List (Action α ε)}

/-- A caller that builds after a caller came was building before. -/
theorem building_of_concat {l : List (Phase α ε)} {p : Phase α ε} {i : ℕ} (hp : p ≠ .building)
    (h : (l ++ [p])[i]? = some .building) : l[i]? = some .building := by
  rcases getElem?_concat_eq_some.mp h with h | ⟨-, rfl⟩
  · exact h
  · exact (hp rfl).elim

theorem building_of_set {l : List (Phase α ε)} {p : Phase α ε} {i j : ℕ} (hp : p ≠ .building)
    (h : (l.set j p)[i]? = some .building) : i ≠ j ∧ l[i]? = some .building := by
  rcases getElem?_set_eq_some h with ⟨-, rfl⟩ | h
  · exact (hp rfl).elim
  · exact h

/-- Nobody builds while the lock is free. -/
theorem Inv.not_building (h : Inv c) (hfree : c.locked = false) (i : ℕ) :
    c.callers[i]? ≠ some .building := by
  intro hi
  rw [h.locked i hi] at hfree
  cases hfree

/-- When the caller that builds is done, nobody builds. -/
theorem Inv.not_building_of_set (h : Inv c) {i j : ℕ} {p : Phase α ε} (hp : p ≠ .building)
    (hj : c.callers[j]? = some .building) : (c.callers.set j p)[i]? ≠ some .building := by
  intro hi
  obtain ⟨hne, hi⟩ := building_of_set hp hi
  exact hne (h.unique i j hi hj)

/-- A caller came that does not build. -/
theorem Inv.concat (h : Inv c) {p : Phase α ε} (hp : p ≠ .building)
    (hreturned : ∀ a, p = .returned a → c.value = some a) :
    Inv { c with callers := c.callers ++ [p] } where
  locked i hi := h.locked i (building_of_concat hp hi)
  unique i j hi hj := h.unique i j (building_of_concat hp hi) (building_of_concat hp hj)
  vacant i hi := h.vacant i (building_of_concat hp hi)
  returned i a hi := by
    rcases getElem?_concat_eq_some.mp hi with hi | ⟨-, hi⟩
    · exact h.returned i a hi
    · exact hreturned a hi.symm

/-- **The step lemma**: the invariant is kept. -/
theorem Step.inv (hstep : Step c a c') (h : Inv c) : Inv c' := by
  cases hstep with
  | found hvalue =>
    refine h.concat (by simp) fun a ha => ?_
    cases ha
    exact hvalue
  | queue hvalue => exact h.concat (by simp) (by simp)
  | foundLater hi hfree hvalue =>
    have hnone : ∀ (j k : ℕ) a, (c.callers.set j (.returned a))[k]? ≠ some .building :=
      fun j k a hk => h.not_building hfree k (building_of_set (by simp) hk).2
    refine ⟨fun j hj => (hnone _ j _ hj).elim, fun j _ hj => (hnone _ j _ hj).elim,
      fun j hj => (hnone _ j _ hj).elim, fun j b hj => ?_⟩
    rcases getElem?_set_eq_some hj with ⟨-, hb⟩ | ⟨-, hj⟩
    · cases hb
      exact hvalue
    · exact h.returned j b hj
  | build hi hfree hvalue =>
    -- the lock was free, so the only caller that builds is the one that took it
    have honly : ∀ {i j : ℕ}, (c.callers.set i .building)[j]? = some .building → j = i := by
      intro i j hj
      rcases getElem?_set_eq_some hj with ⟨rfl, -⟩ | ⟨-, hj⟩
      · rfl
      · exact (h.not_building hfree j hj).elim
    refine ⟨fun _ _ => rfl, fun j k hj hk => (honly hj).trans (honly hk).symm, fun _ _ => hvalue,
      fun j b hj => ?_⟩
    rcases getElem?_set_eq_some hj with ⟨-, hb⟩ | ⟨-, hj⟩
    · cases hb
    · exact h.returned j b hj
  | built hi =>
    have hnone : ∀ (j : ℕ) a, (c.callers.set _ (.returned a))[j]? ≠ some .building :=
      fun j a => h.not_building_of_set (by simp) hi
    refine ⟨fun j hj => (hnone j _ hj).elim, fun j _ hj => (hnone j _ hj).elim,
      fun j hj => (hnone j _ hj).elim, fun j b hj => ?_⟩
    rcases getElem?_set_eq_some hj with ⟨-, hb⟩ | ⟨-, hj⟩
    · cases hb
      rfl
    · -- nobody had returned, as the cell was empty
      have hvalue := h.returned j b hj
      rw [h.vacant _ hi] at hvalue
      cases hvalue
  | failed hi =>
    have hnone : ∀ (j : ℕ) e, (c.callers.set _ (.raised e))[j]? ≠ some .building :=
      fun j e => h.not_building_of_set (by simp) hi
    refine ⟨fun j hj => (hnone j _ hj).elim, fun j _ hj => (hnone j _ hj).elim,
      fun j hj => (hnone j _ hj).elim, fun j b hj => ?_⟩
    rcases getElem?_set_eq_some hj with ⟨-, hb⟩ | ⟨-, hj⟩
    · cases hb
    · exact h.returned j b hj

/-- **The run lemma.** -/
theorem Steps.inv (hsteps : Steps c as c') (h : Inv c) : Inv c' := by
  induction hsteps with
  | nil => exact h
  | cons hstep _ ih => exact ih (hstep.inv h)

/-! ### Histories -/

/-- The value that was built, if one was. -/
def Action.value : Action α ε → Option α
  | .built _ a => some a
  | _ => none

/-- A build fills the cell, which was empty. -/
theorem Step.built_value (hstep : Step c a c') (h : Inv c) :
    c'.value.toList = c.value.toList ++ a.value.toList := by
  cases hstep with
  | built hi =>
    rw [h.vacant _ hi]
    rfl
  | _ => exact (List.append_nil _).symm

/-- **The values that were built** are the value of the cell: none, or one. -/
theorem Steps.built (hsteps : Steps c as c') (h : Inv c) :
    c'.value.toList = c.value.toList ++ as.filterMap Action.value := by
  induction hsteps with
  | nil => exact (List.append_nil _).symm
  | cons hstep _ ih =>
    rw [ih (hstep.inv h), hstep.built_value h, List.append_assoc, List.filterMap_cons]
    split
    · rename_i hnone
      rw [hnone]
      rfl
    · rename_i hsome
      rw [hsome]
      rfl

/-- **A caller raises** only what its own build failed with. -/
theorem Steps.raised (hsteps : Steps c as c') {i : ℕ} {e : ε}
    (h : c'.callers[i]? = some (.raised e)) :
    c.callers[i]? = some (.raised e) ∨ .failed i e ∈ as := by
  induction hsteps with
  | nil => exact Or.inl h
  | cons hstep _ ih =>
    rcases ih h with h | h
    · cases hstep with
      | found | queue =>
        rcases getElem?_concat_eq_some.mp h with h | ⟨-, h⟩
        · exact Or.inl h
        · cases h
      | foundLater | build | built =>
        rcases getElem?_set_eq_some h with ⟨-, h⟩ | ⟨-, h⟩
        · cases h
        · exact Or.inl h
      | failed hi =>
        rcases getElem?_set_eq_some h with ⟨hj, hp⟩ | ⟨-, h⟩
        · cases hp
          rw [hj]
          exact Or.inr List.mem_cons_self
        · exact Or.inl h
    · exact Or.inr (List.mem_cons_of_mem _ h)

end Once
