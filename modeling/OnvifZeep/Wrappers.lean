/-
`onvif/wrappers.py`: retrying after a connection error.

`asyncWrapConnectionErrorRetry` makes up to `attempts` attempts, sleeps between them, and raises
the last exception.  The loop falls off its end only when there are no attempts at all; the
result is then `none`, as Python returns `None`.

* **`wp_asyncWrapConnectionErrorRetry`** — the rule for it: an invariant for each attempt, which a
  failed attempt and the sleep after it hand on to the next.
-/
import OnvifZeep.CoroutineRules
import OnvifZeep.Exceptions
import Mathlib.Data.Rat.Defs

namespace Onvif

open Coro

def DEFAULT_ATTEMPTS : ℕ := 2

def BACKOFF_TIME : ℚ := 4 + 1 / 2

variable {I : Interface} {ε σ α γ : Type}

/-- The `for attempt in range(attempts)` loop, from the attempts left; `exception` says what is
caught. -/
def retryLoop (attempts : ℕ) (exception : ε → Bool) (sleep : Coro I ε σ Unit)
    (func : Coro I ε σ α) : List ℕ → Coro I ε σ (Option α)
  | [] => pure none
  | attempt :: rest =>
    tryExcept (func >>= fun a => pure (some a)) fun ex =>
      if exception ex then
        if attempt + 1 = attempts then .raise ex
        else sleep >>= fun _ => retryLoop attempts exception sleep func rest
      else .raise ex

/-- The wrapper around a function, for any set of exceptions. -/
def asyncWrapConnectionErrorRetry (attempts : ℕ) (exception : ε → Bool) (sleep : Coro I ε σ Unit)
    (func : Coro I ε σ α) : Coro I ε σ (Option α) :=
  retryLoop attempts exception sleep func (List.range attempts)

/-- The wrapper for the exceptions of some classes. -/
def retryConnectionError (attempts : ℕ) (exception : List ExcClass) (sleep : Coro I Exc σ Unit)
    (func : Coro I Exc σ α) : Coro I Exc σ (Option α) :=
  asyncWrapConnectionErrorRetry attempts (·.oneOf exception) sleep func

section Rules

variable {K : Contract I ε σ γ} {attempts : ℕ} {exception : ε → Bool} {sleep : Coro I ε σ Unit}
  {func : Coro I ε σ α}

/-- Retrying preserves what an attempt and the sleep preserve. -/
theorem preserves_asyncWrapConnectionErrorRetry {P : γ → σ → Prop} (hfunc : Preserves K P func)
    (hsleep : Preserves K P sleep) :
    Preserves K P (asyncWrapConnectionErrorRetry attempts exception sleep func) := by
  suffices H : ∀ l, Preserves K P (retryLoop attempts exception sleep func l) from H _
  intro l
  induction l with
  | nil => exact .pure none
  | cons attempt rest ih =>
    refine .tryExcept (.bind hfunc fun a => .pure (some a)) fun ex => ?_
    by_cases hex : exception ex
    · rw [if_pos hex]
      by_cases hlast : attempt + 1 = attempts
      · rw [if_pos hlast]
        exact .raise ex
      · rw [if_neg hlast]
        exact .bind hsleep fun _ => ih
    · rw [if_neg hex]
      exact .raise ex

/-- The result of a retried call is the result of an attempt. -/
theorem yields_asyncWrapConnectionErrorRetry {P : γ → σ → Prop} {R : α → γ → σ → Prop}
    (hfunc : Yields K P R func) (hsleep : Preserves K P sleep) :
    Yields K P (fun o g s => ∀ a ∈ o, R a g s)
      (asyncWrapConnectionErrorRetry attempts exception sleep func) := by
  suffices H : ∀ l, Yields K P (fun o g s => ∀ a ∈ o, R a g s)
      (retryLoop attempts exception sleep func l) from H _
  intro l
  induction l with
  | nil => exact .pure fun _ _ _ a ha => by cases ha
  | cons attempt rest ih =>
    refine .tryExcept (.bind hfunc fun a g s h ha => ⟨h, fun o ho a' ha' => ?_⟩) fun ex => ?_
    · rw [← Except.ok.inj ho] at ha'
      rw [← Option.some.inj ha']
      exact ha
    · by_cases hex : exception ex
      · rw [if_pos hex]
        by_cases hlast : attempt + 1 = attempts
        · rw [if_pos hlast]
          exact .raise ex
        · rw [if_neg hlast]
          exact .bind_of_preserves hsleep fun _ => ih
      · rw [if_neg hex]
        exact .raise ex

/-- How an attempt can end: it returns, it raises what is not caught or is the last one, or it is
made again after the sleep. -/
def AttemptEnds (K : Contract I ε σ γ) (attempts : ℕ) (exception : ε → Bool)
    (sleep : Coro I ε σ Unit) (J : ℕ → γ → σ → Prop) (Q : Except ε (Option α) → γ → σ → Prop)
    (attempt : ℕ) : Except ε α → γ → σ → Prop :=
  Ends (fun a => Q (.ok (some a))) fun ex g s =>
    if exception ex = true ∧ attempt + 1 ≠ attempts then
      wp K (Ends (fun _ => J (attempt + 1)) fun e => Q (.error e)) sleep g s
    else Q (.error ex) g s

/-- **The rule for the wrapper**: `J attempt` holds before each attempt. -/
theorem wp_asyncWrapConnectionErrorRetry {Q : Except ε (Option α) → γ → σ → Prop}
    (J : ℕ → γ → σ → Prop) (hattempts : 0 < attempts)
    (hfunc : ∀ attempt < attempts, ∀ g s, J attempt g s →
      wp K (AttemptEnds K attempts exception sleep J Q attempt) func g s)
    {g : γ} {s : σ} (hJ : J 0 g s) :
    wp K Q (asyncWrapConnectionErrorRetry attempts exception sleep func) g s := by
  -- from the attempt `a` on, with `d` attempts after it
  have hloop : ∀ d a, a + d + 1 = attempts → ∀ g s, J a g s →
      wp K Q (retryLoop attempts exception sleep func (List.range' a (d + 1))) g s := by
    intro d
    induction d with
    | zero =>
      intro a ha g s h
      rw [List.range'_succ, retryLoop, wp_tryExcept, wp_bind]
      refine wp_mono (fun r g s hr => ?_) (hfunc a (by omega) g s h)
      rcases r with ex | a'
      · have hlast : a + 1 = attempts := by omega
        rw [AttemptEnds, ends_error, if_neg (by simp [hlast])] at hr
        rw [ends_error, ends_error, if_pos hlast, ite_self]
        exact hr
      · exact hr
    | succ d ih =>
      intro a ha g s h
      rw [List.range'_succ, retryLoop, wp_tryExcept, wp_bind]
      refine wp_mono (fun r g s hr => ?_) (hfunc a (by omega) g s h)
      rcases r with ex | a'
      · have hnext : a + 1 ≠ attempts := by omega
        rw [AttemptEnds, ends_error] at hr
        rw [ends_error, ends_error]
        by_cases hex : exception ex
        · rw [if_pos ⟨hex, hnext⟩] at hr
          rw [if_pos hex, if_neg hnext, wp_bind]
          refine wp_mono (fun r g s hr => ?_) hr
          rcases r with e | _
          · exact hr
          · exact ih (a + 1) (by omega) g s hr
        · rw [if_neg fun h => hex h.1] at hr
          rw [if_neg hex]
          exact hr
      · exact hr
  have hrange : List.range attempts = List.range' 0 (attempts - 1 + 1) := by
    rw [List.range_eq_range', Nat.sub_add_cancel hattempts]
  rw [asyncWrapConnectionErrorRetry, hrange]
  exact hloop (attempts - 1) 0 (by omega) g s hJ

end Rules

section Classes

variable {K : Contract I Exc σ γ} {attempts : ℕ} {exception : List ExcClass}
  {sleep : Coro I Exc σ Unit} {func : Coro I Exc σ α}

theorem preserves_retryConnectionError {P : γ → σ → Prop} (hfunc : Preserves K P func)
    (hsleep : Preserves K P sleep) :
    Preserves K P (retryConnectionError attempts exception sleep func) :=
  preserves_asyncWrapConnectionErrorRetry hfunc hsleep

theorem yields_retryConnectionError {P : γ → σ → Prop} {R : α → γ → σ → Prop}
    (hfunc : Yields K P R func) (hsleep : Preserves K P sleep) :
    Yields K P (fun o g s => ∀ a ∈ o, R a g s)
      (retryConnectionError attempts exception sleep func) :=
  yields_asyncWrapConnectionErrorRetry hfunc hsleep

/-- The rule where one invariant holds before every attempt. -/
theorem wp_retryConnectionError (hattempts : 0 < attempts)
    {Q : Except Exc (Option α) → γ → σ → Prop} (J : γ → σ → Prop)
    (hfunc : ∀ g s, J g s →
      wp K (Ends (fun a => Q (.ok (some a)))
        fun ex g s => Q (.error ex) g s ∧
          (ex.oneOf exception → wp K (Ends (fun _ => J) fun e => Q (.error e)) sleep g s))
        func g s)
    {g : γ} {s : σ} (hJ : J g s) :
    wp K Q (retryConnectionError attempts exception sleep func) g s := by
  refine wp_asyncWrapConnectionErrorRetry (fun _ => J) hattempts (fun attempt _ g s h => ?_) hJ
  refine wp_mono (fun r g s hr => ?_) (hfunc g s h)
  rcases r with ex | a
  · rw [AttemptEnds, ends_error]
    split_ifs with hagain
    · exact hr.2 hagain.1
    · exact hr.1
  · exact hr

end Classes

end Onvif
