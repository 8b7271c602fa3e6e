/-
Concurrent callers of an asynchronous function, and what they get.

Callers come at any time, and each runs the same coroutine over the shared state, one segment
after the other.  Unlike the tasks of a `Pool` they get a result.

* **`Callers.step`** — a caller comes, or the call a caller waits for is answered;
* **`Callers.step_call`**, **`Callers.step_resume`** — what these steps do;
* **`Callers.begins`**, **`Callers.pending_begun`** — the calls that steps begin, and that every
  pending call was begun by one.
-/
import OnvifZeep.CoroutineRules
import OnvifZeep.TaskPool
import OnvifZeep.Runs

namespace Coro

variable {κ : Type} {I : Interface} {ε σ α : Type}

/-- The call that is waited for. -/
def Status.pending : Status I ε σ α → Option I.Call
  | .done _ => none
  | .waiting c _ => some c

/-- A caller: what it passed and how far it got. -/
structure Caller (κ : Type) (I : Interface) (ε σ α : Type) where
  arg : κ
  status : Status I ε σ α

/-- The state the callers share, and the callers in the order in which they came. -/
structure Callers (κ : Type) (I : Interface) (ε σ α : Type) where
  shared : σ
  callers : List (Caller κ I ε σ α)

namespace Callers

/-- What happens next. -/
inductive Action (κ : Type) (I : Interface) (ε : Type) where
  | call (arg : κ)
  -- the call `c` that caller `i` waits for is answered
  | resume (i : ℕ) (c : I.Call) (r : Except ε (I.Answer c))

/-- Answer the call `c` that caller `i` waits for. -/
def resume [DecidableEq I.Call] (S : Callers κ I ε σ α) (i : ℕ) (c : I.Call)
    (r : Except ε (I.Answer c)) : Option (Callers κ I ε σ α) :=
  (S.callers[i]?).bind fun u => (u.status.resume c r S.shared).map fun stopped =>
    ⟨stopped.1, S.callers.set i ⟨u.arg, stopped.2⟩⟩

/-- One step of callers of `f`, whose calls are answered as `answers` allows. -/
def step [DecidableEq I.Call] (f : κ → Coro I ε σ α)
    (answers : σ → (c : I.Call) → Except ε (I.Answer c) → Bool) (S : Callers κ I ε σ α) :
    Action κ I ε → Option (Callers κ I ε σ α)
  | .call arg =>
    some ⟨((f arg).run S.shared).1, S.callers ++ [⟨arg, ((f arg).run S.shared).2⟩]⟩
  | .resume i c r => if answers S.shared c r then S.resume i c r else none

/-- The caller that runs in a step. -/
def Action.caller (S : Callers κ I ε σ α) : Action κ I ε → ℕ
  | .call _ => S.callers.length
  | .resume i _ _ => i

/-- The call in which a step stops, if it does not end its caller. -/
def begins [DecidableEq I.Call] (f : κ → Coro I ε σ α)
    (answers : σ → (c : I.Call) → Except ε (I.Answer c) → Bool) (S : Callers κ I ε σ α)
    (a : Action κ I ε) : Option I.Call :=
  (step f answers S a).bind fun S' =>
    (S'.callers[a.caller S]?).bind fun u => u.status.pending

/-- Caller `i` waits for `c`. -/
def Pending (S : Callers κ I ε σ α) (i : ℕ) (c : I.Call) : Prop :=
  ∃ arg k, S.callers[i]? = some ⟨arg, .waiting c k⟩

/-- Caller `i`, which passed `arg`, has got `r`. -/
def Got (S : Callers κ I ε σ α) (i : ℕ) (arg : κ) (r : Except ε α) : Prop :=
  S.callers[i]? = some ⟨arg, .done r⟩

section Step

variable [DecidableEq I.Call] {f : κ → Coro I ε σ α}
  {answers : σ → (c : I.Call) → Except ε (I.Answer c) → Bool} {S S' : Callers κ I ε σ α}

theorem resume_eq_some {i : ℕ} {c : I.Call} {r : Except ε (I.Answer c)} :
    S.resume i c r = some S' ↔
      ∃ arg k, S.callers[i]? = some ⟨arg, .waiting c k⟩ ∧
        S' = ⟨((k r).run S.shared).1, S.callers.set i ⟨arg, ((k r).run S.shared).2⟩⟩ := by
  simp only [resume, Option.bind_eq_some_iff, Option.map_eq_some_iff, Status.resume_eq_some]
  constructor
  · rintro ⟨⟨arg, status⟩, hi, stopped, ⟨k, rfl, rfl⟩, rfl⟩
    exact ⟨arg, k, hi, rfl⟩
  · rintro ⟨arg, k, hi, rfl⟩
    exact ⟨_, hi, _, ⟨k, rfl, rfl⟩, rfl⟩

/-- **A caller comes**: it runs at once, up to its first suspension. -/
theorem step_call {arg : κ} :
    step f answers S (.call arg) = some S' ↔
      S' = ⟨((f arg).run S.shared).1, S.callers ++ [⟨arg, ((f arg).run S.shared).2⟩]⟩ := by
  rw [step, Option.some_inj]
  exact eq_comm

/-- **A caller goes on** when its call is answered. -/
theorem step_resume {i : ℕ} {c : I.Call} {r : Except ε (I.Answer c)} :
    step f answers S (.resume i c r) = some S' ↔
      answers S.shared c r = true ∧ ∃ arg k, S.callers[i]? = some ⟨arg, .waiting c k⟩ ∧
        S' = ⟨((k r).run S.shared).1, S.callers.set i ⟨arg, ((k r).run S.shared).2⟩⟩ := by
  rw [step, ← resume_eq_some]
  by_cases h : answers S.shared c r = true
  · rw [if_pos h]
    exact (and_iff_right h).symm
  · rw [if_neg h]
    exact iff_of_false (fun heq => nomatch heq) fun hboth => h hboth.1

theorem begins_call {arg : κ} :
    begins f answers S (.call arg) = ((f arg).run S.shared).2.pending := by
  show ((S.callers ++ [_])[S.callers.length]?).bind _ = _
  rw [List.getElem?_concat_length]
  rfl

theorem begins_resume {i : ℕ} {c : I.Call} {r : Except ε (I.Answer c)} {arg : κ}
    {k : Except ε (I.Answer c) → Coro I ε σ α} (hanswer : answers S.shared c r = true)
    (hi : S.callers[i]? = some ⟨arg, .waiting c k⟩) :
    begins f answers S (.resume i c r) = ((k r).run S.shared).2.pending := by
  have hstep := (step_resume (f := f)).mpr ⟨hanswer, arg, k, hi, rfl⟩
  rw [begins, hstep]
  show ((S.callers.set i _)[i]?).bind _ = _
  rw [List.getElem?_set_self (List.getElem?_eq_some_iff.mp hi).1]
  rfl

/-- A call that is pending after a step was pending before, or the step began it. -/
theorem pending_of_step {a : Action κ I ε} (h : step f answers S a = some S') {i : ℕ} {c : I.Call}
    (hpending : S'.Pending i c) : S.Pending i c ∨ begins f answers S a = some c := by
  obtain ⟨arg', k', hi⟩ := hpending
  cases a with
  | call arg =>
    rw [begins_call]
    obtain rfl := step_call.mp h
    rcases Pool.getElem?_concat_eq_some.mp hi with hi | ⟨-, hu⟩
    · exact Or.inl ⟨arg', k', hi⟩
    · right
      rw [← (Caller.mk.inj hu).2]
      rfl
  | resume j d r =>
    obtain ⟨hanswer, arg, k, hj, rfl⟩ := step_resume.mp h
    rw [begins_resume hanswer hj]
    rcases Pool.getElem?_set_eq_some hi with ⟨-, hu⟩ | ⟨-, hi⟩
    · right
      rw [← (Caller.mk.inj hu).2]
      rfl
    · exact Or.inl ⟨arg', k', hi⟩

/-- **Every call that is pending** was begun by a step. -/
theorem pending_begun {as : List (Action κ I ε)} (h : Runs.run (step f answers) S as = some S')
    {i : ℕ} {c : I.Call} (hpending : S'.Pending i c) :
    S.Pending i c ∨ c ∈ Runs.collect (step f answers) (begins f answers) S as := by
  induction as generalizing S with
  | nil =>
    obtain rfl : S = S' := Option.some.inj h
    exact Or.inl hpending
  | cons a as ih =>
    obtain ⟨S₁, h₁, h⟩ := Runs.run_cons.mp h
    rw [Runs.collect_cons h₁, List.mem_append, Option.mem_toList]
    rcases ih h with hpending | hmem
    · rcases pending_of_step h₁ hpending with hbefore | hbegun
      · exact Or.inl hbefore
      · exact Or.inr (Or.inl hbegun)
    · exact Or.inr (Or.inr hmem)

end Step

end Callers

end Coro
