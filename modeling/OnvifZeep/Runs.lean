/-
Runs of a transition system given by an executable step.

`step s a` is the state after action `a`, or `none` if the action is not possible in `s`.

* **`run`** — the state after a list of actions;
* **`collect`** — what the steps of a run yield;
* **`Along`** — a condition on every step of a run;
* **`run_invariant`** — what every step under the condition preserves holds at the end;
* **`along_iff`** — two conditions that agree at every step, given what the steps preserve;
* **`along_iff_of_stationary`** — a condition under which no step leaves the state;
* **`exists_first_violation`** — the first step of a run that does not meet a condition;
* **`count_collect_le_one`** — what a step yields only where `P` does not hold yet, and from where
  `P` holds, is yielded once at most;
* **`Lawful`** — a list in which what goes before allows what comes next.
-/
import Mathlib.Data.Nat.Notation

namespace Runs

variable {S A B : Type} (step : S → A → Option S)

/-- The state after the actions, if all of them are possible. -/
def run : S → List A → Option S
  | s, [] => some s
  | s, a :: as => (step s a).bind fun s' => run s' as

/-- What the steps of the run yield, in their order. -/
def collect (f : S → A → Option B) : S → List A → List B
  | _, [] => []
  | s, a :: as =>
    match step s a with
    | some s' => (f s a).toList ++ collect f s' as
    | none => []

/-- Every step of the run meets the condition `R`. -/
def Along (R : S → A → S → Prop) : S → List A → Prop
  | _, [] => True
  | s, a :: as => ∀ s', step s a = some s' → R s a s' ∧ Along R s' as

variable {step}

theorem run_cons {s s'' : S} {a : A} {as : List A} :
    run step s (a :: as) = some s'' ↔ ∃ s', step s a = some s' ∧ run step s' as = some s'' :=
  Option.bind_eq_some_iff

theorem run_append {s s'' : S} {as bs : List A} :
    run step s (as ++ bs) = some s'' ↔ ∃ s', run step s as = some s' ∧ run step s' bs = some s'' := by
  induction as generalizing s with
  | nil => simp [run]
  | cons a as ih =>
    rw [List.cons_append, run_cons]
    constructor
    · rintro ⟨s₁, h₁, h⟩
      obtain ⟨s', h', h⟩ := ih.mp h
      exact ⟨s', run_cons.mpr ⟨s₁, h₁, h'⟩, h⟩
    · rintro ⟨s', h', h⟩
      obtain ⟨s₁, h₁, h'⟩ := run_cons.mp h'
      exact ⟨s₁, h₁, ih.mpr ⟨s', h', h⟩⟩

/-- A map that commutes with every step takes runs to runs. -/
theorem run_map {S' : Type} {step' : S' → A → Option S'} (f : S → S')
    (hstep : ∀ s a s', step s a = some s' → step' (f s) a = some (f s')) {as : List A} {s s' : S}
    (h : run step s as = some s') : run step' (f s) as = some (f s') := by
  induction as generalizing s with
  | nil => exact congrArg (fun o => o.map f) h
  | cons a as ih =>
    obtain ⟨s₁, h₁, h⟩ := run_cons.mp h
    exact run_cons.mpr ⟨f s₁, hstep s a s₁ h₁, ih h⟩

theorem collect_cons {f : S → A → Option B} {s s' : S} {a : A} (h : step s a = some s')
    (as : List A) : collect step f s (a :: as) = (f s a).toList ++ collect step f s' as := by
  rw [collect, h]

theorem collect_append {f : S → A → Option B} {s s' : S} {as : List A}
    (h : run step s as = some s') (bs : List A) :
    collect step f s (as ++ bs) = collect step f s as ++ collect step f s' bs := by
  induction as generalizing s with
  | nil =>
    obtain rfl : s = s' := Option.some.inj h
    rfl
  | cons a as ih =>
    obtain ⟨s₁, h₁, h⟩ := run_cons.mp h
    rw [List.cons_append, collect_cons h₁, collect_cons h₁, ih h, List.append_assoc]

/-- What the steps yield, where it depends on the actions alone. -/
theorem collect_eq_filterMap {g : A → Option B} {s s' : S} {as : List A}
    (h : run step s as = some s') : collect step (fun _ => g) s as = as.filterMap g := by
  induction as generalizing s with
  | nil => rfl
  | cons a as ih =>
    obtain ⟨s₁, h₁, h⟩ := run_cons.mp h
    rw [collect_cons h₁, ih h]
    cases hg : g a with
    | none => rw [List.filterMap_cons_none hg]; rfl
    | some b => rw [List.filterMap_cons_some hg]; rfl

/-- A step that meets the condition before others that do. -/
theorem Along.cons {R : S → A → S → Prop} {as : List A} {s s' : S} {a : A}
    (hstep : step s a = some s') (hR : R s a s') (h : Along step R s' as) :
    Along step R s (a :: as) := by
  intro t ht
  obtain rfl : s' = t := Option.some.inj (hstep.symm.trans ht)
  exact ⟨hR, h⟩

/-- A condition on the actions alone. -/
theorem along_of_forall {R : S → A → S → Prop} {as : List A} {s : S}
    (h : ∀ a ∈ as, ∀ s s', R s a s') : Along step R s as := by
  induction as generalizing s with
  | nil => exact trivial
  | cons a as ih =>
    intro s' _
    exact ⟨h a List.mem_cons_self s s', ih fun b hb => h b (List.mem_cons_of_mem a hb)⟩

theorem Along.and {R R' : S → A → S → Prop} {as : List A} {s : S} (h : Along step R s as)
    (h' : Along step R' s as) : Along step (fun s a s' => R s a s' ∧ R' s a s') s as := by
  induction as generalizing s with
  | nil => exact trivial
  | cons a as ih =>
    intro s' hs
    exact ⟨⟨(h s' hs).1, (h' s' hs).1⟩, ih (h s' hs).2 (h' s' hs).2⟩

/-- A condition that can be evaluated at every step can be evaluated along a run. -/
instance decidableAlong {R : S → A → S → Prop} [∀ s a s', Decidable (R s a s')] :
    ∀ (s : S) (as : List A), Decidable (Along step R s as)
  | _, [] => isTrue trivial
  | s, a :: as =>
    match h : step s a with
    | none => isTrue fun s' hs => by
      rw [h] at hs
      cases hs
    | some s' =>
      have : Decidable (Along step R s' as) := decidableAlong s' as
      decidable_of_iff (R s a s' ∧ Along step R s' as) (by
        constructor
        · intro hR t ht
          obtain rfl : s' = t := Option.some.inj (h.symm.trans ht)
          exact hR
        · exact fun hR => hR s' h)

/-- **The run rule**: what every step under the condition preserves holds after the run. -/
theorem run_invariant {R : S → A → S → Prop} {P : S → Prop}
    (hstep : ∀ s a s', P s → step s a = some s' → R s a s' → P s') {as : List A} {s s' : S}
    (hP : P s) (hR : Along step R s as) (h : run step s as = some s') : P s' := by
  induction as generalizing s with
  | nil =>
    obtain rfl : s = s' := Option.some.inj h
    exact hP
  | cons a as ih =>
    obtain ⟨s₁, h₁, h⟩ := run_cons.mp h
    obtain ⟨hR₁, hR⟩ := hR s₁ h₁
    exact ih (hstep s a s₁ hP h₁ hR₁) hR h

/-- Conditions that agree on every step of a run agree along it. -/
theorem along_iff {R R' G : S → A → S → Prop} {P : S → Prop}
    (hstep : ∀ s a s', P s → step s a = some s' → G s a s' → P s' ∧ (R s a s' ↔ R' s a s'))
    {as : List A} {s : S} (hP : P s) (hG : Along step G s as) :
    Along step R s as ↔ Along step R' s as := by
  induction as generalizing s with
  | nil => exact Iff.rfl
  | cons a as ih =>
    refine forall_congr' fun s' => forall_congr' fun hs => ?_
    obtain ⟨hG₁, hG⟩ := hG s' hs
    obtain ⟨hP', hiff⟩ := hstep s a s' hP hs hG₁
    exact and_congr hiff (ih hP' hG)

/-- What every step under a condition gives, besides what it preserves. -/
theorem Along.of_invariant {R G : S → A → S → Prop} {P : S → Prop}
    (hstep : ∀ s a s', P s → step s a = some s' → G s a s' → P s' ∧ R s a s') {as : List A} {s : S}
    (hP : P s) (hG : Along step G s as) : Along step R s as := by
  induction as generalizing s with
  | nil => exact trivial
  | cons a as ih =>
    intro s' hs
    obtain ⟨hP', hR⟩ := hstep s a s' hP hs (hG s' hs).1
    exact ⟨hR, ih hP' (hG s' hs).2⟩

/-- A condition that keeps the system in the state `s` holds along a run from `s` exactly when
each action of the run meets it in `s`. -/
theorem along_iff_of_stationary {R : S → A → S → Prop} {C : A → Prop} {s : S}
    (h : ∀ a, ∃ s', step s a = some s' ∧ (R s a s' ↔ C a) ∧ (R s a s' → s' = s)) {as : List A} :
    Along step R s as ↔ ∀ a ∈ as, C a := by
  induction as with
  | nil => exact ⟨fun _ a ha => absurd ha List.not_mem_nil, fun _ => trivial⟩
  | cons a as ih =>
    obtain ⟨s', hs', hiff, hstay⟩ := h a
    rw [List.forall_mem_cons]
    constructor
    · intro hR
      obtain ⟨hR₁, hR⟩ := hR s' hs'
      rw [hstay hR₁] at hR
      exact ⟨hiff.mp hR₁, ih.mp hR⟩
    · rintro ⟨hC₁, hC⟩
      have hR₁ := hiff.mpr hC₁
      refine Along.cons hs' hR₁ ?_
      rw [hstay hR₁]
      exact ih.mpr hC

theorem Along.of_append {R : S → A → S → Prop} {as bs : List A} {s : S}
    (h : Along step R s (as ++ bs)) : Along step R s as := by
  induction as generalizing s with
  | nil => exact trivial
  | cons a as ih =>
    intro s' hs
    exact ⟨(h s' hs).1, ih (h s' hs).2⟩

/-- What holds along a run holds at each of its steps. -/
theorem Along.at_end {R : S → A → S → Prop} {as : List A} {a : A} {s s₁ s₂ : S}
    (h : Along step R s (as ++ [a])) (hrun : run step s as = some s₁)
    (hlast : step s₁ a = some s₂) : R s₁ a s₂ := by
  induction as generalizing s with
  | nil =>
    obtain rfl : s = s₁ := Option.some.inj hrun
    exact (h s₂ hlast).1
  | cons b as ih =>
    obtain ⟨s', hs', hrun⟩ := run_cons.mp hrun
    exact ih (h s' hs').2 hrun

/-- The first step that does not meet the condition. -/
theorem exists_first_violation {R : S → A → S → Prop} {as : List A} {s : S}
    (h : ¬Along step R s as) : ∃ as₁ a as₂ s₁ s₂, as = as₁ ++ a :: as₂ ∧ Along step R s as₁ ∧
      run step s as₁ = some s₁ ∧ step s₁ a = some s₂ ∧ ¬R s₁ a s₂ := by
  induction as generalizing s with
  | nil => exact (h trivial).elim
  | cons a as ih =>
    obtain ⟨s', hnot⟩ := Classical.not_forall.mp h
    obtain ⟨hs', hnot⟩ := Classical.not_imp.mp hnot
    by_cases hR : R s a s'
    · obtain ⟨as₁, b, as₂, s₁, s₂, rfl, hR₁, h₁, h₂⟩ := ih fun htail => hnot ⟨hR, htail⟩
      exact ⟨a :: as₁, b, as₂, s₁, s₂, rfl, hR₁.cons hs' hR, run_cons.mpr ⟨s', hs', h₁⟩, h₂⟩
    · exact ⟨[], a, as, s, s', rfl, trivial, rfl, hs', hR⟩

section Count

variable [BEq B] [LawfulBEq B] {f : S → A → Option B} {b : B} {R : S → A → S → Prop}
  {Inv P : S → Prop}
  (hinv : ∀ s a s', Inv s → step s a = some s' → R s a s' → Inv s')
  (hkeep : ∀ s a s', Inv s → step s a = some s' → R s a s' → P s → P s')
  (hyield : ∀ s a s', Inv s → step s a = some s' → R s a s' → f s a = some b → ¬P s ∧ P s')

include hinv hkeep hyield

/-- Nothing is yielded once `P` holds. -/
theorem count_collect_eq_zero {as : List A} {s : S} (hs : Inv s) (hP : P s)
    (hR : Along step R s as) : (collect step f s as).count b = 0 := by
  induction as generalizing s with
  | nil => rfl
  | cons a as ih =>
    rw [collect]
    cases hstep : step s a with
    | none => rfl
    | some s' =>
      obtain ⟨hRa, hR'⟩ := hR s' hstep
      have hne : f s a ≠ some b := fun hf => (hyield s a s' hs hstep hRa hf).1 hP
      rw [List.count_append, ih (hinv s a s' hs hstep hRa) (hkeep s a s' hs hstep hRa hP) hR']
      simpa [List.count_eq_zero] using hne

theorem count_collect_le_one {as : List A} {s : S} (hs : Inv s) (hR : Along step R s as) :
    (collect step f s as).count b ≤ 1 := by
  induction as generalizing s with
  | nil => exact Nat.zero_le 1
  | cons a as ih =>
    rw [collect]
    cases hstep : step s a with
    | none => exact Nat.zero_le 1
    | some s' =>
      obtain ⟨hRa, hR'⟩ := hR s' hstep
      have hs' := hinv s a s' hs hstep hRa
      rw [List.count_append]
      by_cases hf : f s a = some b
      · have hafter := (hyield s a s' hs hstep hRa hf).2
        have hone : (f s a).toList.count b = 1 := by
          rw [hf, Option.toList_some, List.count_singleton_self]
        have hnone := count_collect_eq_zero hinv hkeep hyield hs' hafter hR'
        omega
      · have hzero : (f s a).toList.count b = 0 := by simpa [List.count_eq_zero] using hf
        have hrest := ih hs' hR'
        omega

end Count

/-- What every step preserves holds after every run. -/
theorem run_invariant_of_step {P : S → Prop}
    (hstep : ∀ s a s', P s → step s a = some s' → P s') {as : List A} {s s' : S} (hP : P s)
    (h : run step s as = some s') : P s' :=
  run_invariant (R := fun _ _ _ => True) (fun s a s' hs ha _ => hstep s a s' hs ha) hP
    (along_of_forall fun _ _ _ _ => trivial) h

/-! ### Lists of events -/

/-- Every event is allowed after the events before it. -/
def Lawful (allowed : List B → B → Prop) (trace : List B) : Prop :=
  ∀ front v rest, trace = front ++ v :: rest → allowed front v

theorem lawful_nil (allowed : List B → B → Prop) : Lawful allowed [] := by
  intro front v rest h
  exact absurd h.symm (List.append_ne_nil_of_right_ne_nil _ (List.cons_ne_nil _ _))

/-- **One event more.** -/
theorem lawful_snoc {allowed : List B → B → Prop} {trace : List B} {v : B} :
    Lawful allowed (trace ++ [v]) ↔ Lawful allowed trace ∧ allowed trace v := by
  constructor
  · intro h
    refine ⟨fun front u rest hu => h front u (rest ++ [v]) ?_, h trace v [] rfl⟩
    rw [hu, List.append_assoc, List.cons_append]
  · rintro ⟨htrace, hv⟩ front u rest hu
    rcases List.eq_nil_or_concat rest with rfl | ⟨rest, u', rfl⟩
    · obtain ⟨rfl, hlast⟩ := List.append_inj' hu rfl
      rwa [← List.singleton_inj.mp hlast]
    · rw [List.concat_eq_append, ← List.cons_append, ← List.append_assoc] at hu
      exact htrace front u rest (List.append_inj' hu rfl).1

end Runs
