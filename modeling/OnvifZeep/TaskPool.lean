/-
Pools of cooperative tasks, and proof outlines for them.

A `Pool` is what an event loop runs: a shared state and a list of tasks, each finished or
suspended in a call.  `start` adds a task and runs its first segment, `resume` answers the
call a task is suspended in and runs its next one; nothing else runs meanwhile.

A proof `Outline` annotates every call with an assertion (`holds`), says what others may do to
the shared state meanwhile (`rely`), bounds what a segment may do to it (`moves`), and says
how tasks may end (`returns`).  A pool in which every task keeps its outline stays so
(`Pool.resume_sound`, `Pool.start_sound`), provided that segments keep to what the others rely
on and do not falsify the assertions of the tasks that are suspended meanwhile; that is the
only thing left to show about a particular pool.
-/
import OnvifZeep.CoroutineRules

namespace Coro

variable {κ : Type} {I : Interface} {ε σ : Type}

/-- A task: what it was created for and how far it got. -/
structure Task (κ : Type) (I : Interface) (ε σ : Type) where
  kind : κ
  status : Status I ε σ Unit

/-- The shared state and the tasks, in the order of their creation. -/
structure Pool (κ : Type) (I : Interface) (ε σ : Type) where
  shared : σ
  tasks : List (Task κ I ε σ)

/-- Where a segment of a task stops: at the end of the task or in a call. -/
inductive Stop (I : Interface) (ε : Type) where
  | finished (r : Except ε Unit)
  | waiting (c : I.Call)

def Status.stop : Status I ε σ Unit → Stop I ε
  | .done r => .finished r
  | .waiting c _ => .waiting c

def Stop.pending : Stop I ε → Option I.Call
  | .finished _ => none
  | .waiting c => some c

def Task.stop (t : Task κ I ε σ) : Stop I ε := t.status.stop

/-- The call a task waits for, if it is not finished. -/
def Task.pending (t : Task κ I ε σ) : Option I.Call := t.stop.pending

namespace Pool

/-- Start a task: it runs at once, up to its first suspension. -/
def start (p : Pool κ I ε σ) (kind : κ) (x : Coro I ε σ Unit) : Pool κ I ε σ :=
  ⟨(x.run p.shared).1, p.tasks ++ [⟨kind, (x.run p.shared).2⟩]⟩

/-- Answer the call `c` that task `i` waits for; `none` if it does not wait for it. -/
def resume [DecidableEq I.Call] (p : Pool κ I ε σ) (i : ℕ) (c : I.Call)
    (r : Except ε (I.Answer c)) : Option (Pool κ I ε σ) :=
  (p.tasks[i]?).bind fun t => (t.status.resume c r p.shared).map fun stopped =>
    ⟨stopped.1, p.tasks.set i ⟨t.kind, stopped.2⟩⟩

/-- A change of the shared state from outside the tasks. -/
def update (p : Pool κ I ε σ) (f : σ → σ) : Pool κ I ε σ := { p with shared := f p.shared }

/-- Task `i` was created for `kind` and is not finished. -/
def Unfinished (p : Pool κ I ε σ) (kind : κ) (i : ℕ) : Prop :=
  ∃ t, p.tasks[i]? = some t ∧ t.kind = kind ∧ t.pending.isSome

/-- The unfinished tasks of a kind. -/
def unfinished [DecidableEq κ] (p : Pool κ I ε σ) (kind : κ) : List ℕ :=
  (List.range p.tasks.length).filter fun i =>
    (p.tasks[i]?).any fun t => t.kind = kind && t.pending.isSome

/-- The calls the tasks wait for. -/
def pendingCalls (p : Pool κ I ε σ) : List I.Call := p.tasks.filterMap Task.pending

theorem mem_unfinished [DecidableEq κ] {p : Pool κ I ε σ} {kind : κ} {i : ℕ} :
    i ∈ p.unfinished kind ↔ p.Unfinished kind i := by
  rw [unfinished, List.mem_filter, List.mem_range, Unfinished]
  constructor
  · rintro ⟨-, h⟩
    obtain ⟨t, ht, hk⟩ := (Option.any_eq_true _ _).mp h
    rw [Bool.and_eq_true, decide_eq_true_iff] at hk
    exact ⟨t, ht, hk⟩
  · rintro ⟨t, ht, hk⟩
    refine ⟨(List.getElem?_eq_some_iff.mp ht).1, ?_⟩
    rw [ht, Option.any_some, Bool.and_eq_true, decide_eq_true_iff]
    exact hk

theorem unfinished_eq_nil [DecidableEq κ] {p : Pool κ I ε σ} {kind : κ} :
    p.unfinished kind = [] ↔ ∀ i, ¬p.Unfinished kind i := by
  rw [List.eq_nil_iff_forall_not_mem]
  exact forall_congr' fun i => not_congr mem_unfinished

theorem getElem?_append_of_some {α : Type} {l l' : List α} {i : ℕ} {a : α} (h : l[i]? = some a) :
    (l ++ l')[i]? = some a := by
  rw [List.getElem?_append_left (List.getElem?_eq_some_iff.mp h).1]
  exact h

/-- An entry of a list with one more at the end. -/
theorem getElem?_concat_eq_some {α : Type} {l : List α} {a b : α} {i : ℕ} :
    (l ++ [a])[i]? = some b ↔ l[i]? = some b ∨ i = l.length ∧ b = a := by
  constructor
  · intro h
    rcases Nat.lt_trichotomy i l.length with hlt | rfl | hgt
    · exact Or.inl ((List.getElem?_append_left hlt).symm.trans h)
    · exact Or.inr ⟨rfl, (Option.some.inj (List.getElem?_concat_length.symm.trans h)).symm⟩
    · have hlt := (List.getElem?_eq_some_iff.mp h).1
      rw [List.length_append, List.length_singleton] at hlt
      omega
  · rintro (h | ⟨rfl, rfl⟩)
    · exact getElem?_append_of_some h
    · exact List.getElem?_concat_length

/-- An entry of a list after one was replaced. -/
theorem getElem?_set_eq_some {α : Type} {l : List α} {a b : α} {i j : ℕ}
    (h : (l.set j a)[i]? = some b) : i = j ∧ b = a ∨ i ≠ j ∧ l[i]? = some b := by
  by_cases hij : i = j
  · subst hij
    have hlt := (List.getElem?_eq_some_iff.mp h).1
    rw [List.getElem?_set_self (by simpa using hlt)] at h
    exact Or.inl ⟨rfl, (Option.some.inj h).symm⟩
  · rw [List.getElem?_set_ne (Ne.symm hij)] at h
    exact Or.inr ⟨hij, h⟩

/-- Starting a task leaves the others unfinished as they were. -/
theorem unfinished_append {p : Pool κ I ε σ} {s : σ} {u : Task κ I ε σ} {kind : κ} {i : ℕ} :
    Unfinished ⟨s, p.tasks ++ [u]⟩ kind i ↔
      p.Unfinished kind i ∨ i = p.tasks.length ∧ u.kind = kind ∧ u.pending.isSome := by
  constructor
  · rintro ⟨t, ht, hkind⟩
    rcases getElem?_concat_eq_some.mp ht with ht | ⟨rfl, rfl⟩
    · exact Or.inl ⟨t, ht, hkind⟩
    · exact Or.inr ⟨rfl, hkind⟩
  · rintro (⟨t, ht, hkind⟩ | ⟨rfl, hkind⟩)
    · exact ⟨t, getElem?_append_of_some ht, hkind⟩
    · exact ⟨u, List.getElem?_concat_length, hkind⟩

theorem unfinished_of_start {p : Pool κ I ε σ} {kind kind' : κ} {x : Coro I ε σ Unit} {i : ℕ}
    (hkind : kind' ≠ kind) (h : (p.start kind x).Unfinished kind' i) : p.Unfinished kind' i := by
  rcases unfinished_append.mp h with h | ⟨-, hk, -⟩
  · exact h
  · exact (hkind hk.symm).elim

/-- Replacing an unfinished task by one of its kind leaves no new task unfinished. -/
theorem unfinished_set {p : Pool κ I ε σ} {s : σ} {t u : Task κ I ε σ} {j : ℕ}
    (hj : p.tasks[j]? = some t) (ht : t.pending.isSome) (hu : u.kind = t.kind) {kind : κ} {i : ℕ}
    (h : Unfinished ⟨s, p.tasks.set j u⟩ kind i) : p.Unfinished kind i := by
  obtain ⟨v, hv, hkind, hpending⟩ := h
  by_cases hij : i = j
  · subst hij
    rw [List.getElem?_set_self (List.getElem?_eq_some_iff.mp hj).1] at hv
    rw [← Option.some.inj hv, hu] at hkind
    exact ⟨t, hj, hkind, ht⟩
  · rw [List.getElem?_set_ne (Ne.symm hij)] at hv
    exact ⟨v, hv, hkind, hpending⟩

/-- Replacing a task by one of its kind changes no kind. -/
theorem getElem?_set_kind {l : List (Task κ I ε σ)} {i j : ℕ} {u u' v : Task κ I ε σ}
    (hu : l[j]? = some u) (hkind : u'.kind = u.kind) (hv : l[i]? = some v) :
    ∃ v', (l.set j u')[i]? = some v' ∧ v'.kind = v.kind := by
  by_cases hij : i = j
  · subst hij
    obtain rfl : u = v := Option.some.inj (hu.symm.trans hv)
    exact ⟨u', List.getElem?_set_self (List.getElem?_eq_some_iff.mp hu).1, hkind⟩
  · exact ⟨v, (List.getElem?_set_ne (Ne.symm hij)).trans hv, rfl⟩

/-- Every task after the replacement stands for one of its kind before. -/
theorem getElem?_of_set {l : List (Task κ I ε σ)} {i j : ℕ} {u u' v : Task κ I ε σ}
    (hu : l[j]? = some u) (hkind : u'.kind = u.kind) (hv : (l.set j u')[i]? = some v) :
    ∃ v', l[i]? = some v' ∧ v.kind = v'.kind := by
  by_cases hij : i = j
  · subst hij
    rw [List.getElem?_set_self (List.getElem?_eq_some_iff.mp hu).1] at hv
    rw [← Option.some.inj hv]
    exact ⟨u, hu, hkind⟩
  · rw [List.getElem?_set_ne (Ne.symm hij)] at hv
    exact ⟨v, hv, rfl⟩

theorem resume_eq_some [DecidableEq I.Call] {p p' : Pool κ I ε σ} {i : ℕ} {c : I.Call}
    {r : Except ε (I.Answer c)} :
    p.resume i c r = some p' ↔
      ∃ kind k, p.tasks[i]? = some ⟨kind, .waiting c k⟩ ∧
        p' = ⟨((k r).run p.shared).1, p.tasks.set i ⟨kind, ((k r).run p.shared).2⟩⟩ := by
  simp only [resume, Option.bind_eq_some_iff, Option.map_eq_some_iff, Status.resume_eq_some]
  constructor
  · rintro ⟨⟨kind, status⟩, ht, stopped, ⟨k, rfl, rfl⟩, rfl⟩
    exact ⟨kind, k, ht, rfl⟩
  · rintro ⟨kind, k, ht, rfl⟩
    exact ⟨_, ht, _, ⟨k, rfl, rfl⟩, rfl⟩

end Pool

/-! ### Outlines -/

/-- The answer a segment of a task begins with. -/
structure Resumption (I : Interface) (ε : Type) where
  call : I.Call
  answer : Except ε (I.Answer call)

/-- A proof outline for the tasks of a pool. -/
structure Outline (κ : Type) (I : Interface) (ε σ : Type) where
  -- the assertion at a call, which holds as long as a task is suspended there
  holds : κ → I.Call → σ → Prop
  -- what the others may do to the state while a task is suspended
  rely : σ → σ → Prop
  rely_refl : ∀ s, rely s s
  rely_trans : ∀ {s s' s''}, rely s s' → rely s' s'' → rely s s''
  answers : κ → (c : I.Call) → Except ε (I.Answer c) → Prop
  -- from the answer resumed with (`none` for a first segment) and the state then, to where the
  -- segment stops and the state there
  moves : κ → Option (Resumption I ε) → σ → Stop I ε → σ → Prop
  returns : κ → Except ε Unit → Prop

namespace Outline

/-- The contract of a task: its ghost is the answer it last resumed with and the state then. -/
def contract (O : Outline κ I ε σ) (kind : κ) :
    Contract I ε σ (Option (Resumption I ε) × σ) where
  suspend g c s := O.moves kind g.1 g.2 (.waiting c) s ∧ O.holds kind c s
  resume _ c s r g' s' :=
    O.rely s s' ∧ O.holds kind c s' ∧ O.answers kind c r ∧ g' = (some ⟨c, r⟩, s')

def post (O : Outline κ I ε σ) (kind : κ) (r : Except ε Unit)
    (g : Option (Resumption I ε) × σ) (s : σ) : Prop :=
  O.moves kind g.1 g.2 (.finished r) s ∧ O.returns kind r

/-- `x`, run as a task of this kind from `s`, follows the outline. -/
def Follows (O : Outline κ I ε σ) (kind : κ) (x : Coro I ε σ Unit)
    (o : Option (Resumption I ε)) (s : σ) : Prop :=
  x.wp (O.contract kind) (O.post kind) (o, s) s

end Outline

/-- The assertion at the task's call holds, and whatever it is answered the rest of the task
follows the outline. -/
def Task.Sound (O : Outline κ I ε σ) (t : Task κ I ε σ) (s : σ) : Prop :=
  match t.status with
  | .done r => O.returns t.kind r
  | .waiting c k => O.holds t.kind c s ∧
      ∀ r s', O.rely s s' → O.holds t.kind c s' → O.answers t.kind c r →
        O.Follows t.kind (k r) (some ⟨c, r⟩) s'

def Pool.Sound (O : Outline κ I ε σ) (p : Pool κ I ε σ) : Prop :=
  ∀ t ∈ p.tasks, t.Sound O p.shared

variable {O : Outline κ I ε σ}

theorem Task.Sound.holds {t : Task κ I ε σ} {s : σ} {c : I.Call} (h : t.Sound O s)
    (hc : t.pending = some c) : O.holds t.kind c s := by
  obtain ⟨kind, st⟩ := t
  cases st with
  | done r => exact absurd hc (by simp [Task.pending, Task.stop, Status.stop, Stop.pending])
  | waiting c' k =>
    obtain rfl : c' = c := Option.some.inj hc
    exact h.1

/-- A suspended task survives a change of the state that keeps its assertion. -/
theorem Task.Sound.frame {t : Task κ I ε σ} {s s' : σ} (h : t.Sound O s) (hrely : O.rely s s')
    (hs : ∀ c, t.pending = some c → O.holds t.kind c s → O.holds t.kind c s') :
    t.Sound O s' := by
  obtain ⟨kind, st⟩ := t
  cases st with
  | done r => exact h
  | waiting c k =>
    exact ⟨hs c rfl h.1, fun r s'' hrely' => h.2 r s'' (O.rely_trans hrely hrely')⟩

/-- A segment that follows the outline keeps its bound and leaves a sound task. -/
theorem Outline.Follows.segment {kind : κ} {x : Coro I ε σ Unit}
    {o : Option (Resumption I ε)} {s : σ} (h : O.Follows kind x o s) :
    O.moves kind o s (x.run s).2.stop (x.run s).1 ∧
      Task.Sound O ⟨kind, (x.run s).2⟩ (x.run s).1 := by
  have hk := wp_run h
  revert hk
  cases (x.run s).2 with
  | done r => exact fun hk => ⟨hk.1, hk.2⟩
  | waiting c k =>
    exact fun hk => ⟨hk.1.1, hk.1.2, fun r s' hrely hs hr => hk.2 r _ s' ⟨hrely, hs, hr, rfl⟩⟩

namespace Pool

/-- **Starting a task** that follows the outline keeps the pool sound. -/
theorem start_sound {p : Pool κ I ε σ} {kind : κ} {x : Coro I ε σ Unit} (hp : p.Sound O)
    (hx : O.Follows kind x none p.shared) (hrely : O.rely p.shared (p.start kind x).shared)
    (hs : ∀ t ∈ p.tasks, ∀ c, t.pending = some c →
      O.holds t.kind c p.shared → O.holds t.kind c (p.start kind x).shared) :
    (p.start kind x).Sound O := by
  intro t ht
  rcases List.mem_append.mp ht with ht | ht
  · exact (hp t ht).frame hrely (hs t ht)
  · rw [List.mem_singleton.mp ht]
    exact hx.segment.2

/-- What **resuming a task** of a sound pool does: the segment keeps its bound and leaves a
sound task in the place of the old one. -/
theorem resume_segment [DecidableEq I.Call] {p p' : Pool κ I ε σ} {i : ℕ} {c : I.Call}
    {r : Except ε (I.Answer c)} (hp : p.Sound O) (h : p.resume i c r = some p')
    (hr : ∀ t, p.tasks[i]? = some t → O.answers t.kind c r) :
    ∃ t t' : Task κ I ε σ, p.tasks[i]? = some t ∧ t.pending = some c ∧
      p'.tasks = p.tasks.set i t' ∧ t'.kind = t.kind ∧ t'.Sound O p'.shared ∧
      O.moves t.kind (some ⟨c, r⟩) p.shared t'.stop p'.shared := by
  obtain ⟨kind, k, ht, rfl⟩ := resume_eq_some.mp h
  have hsound := hp _ (List.mem_of_getElem? ht)
  have hseg := (hsound.2 r p.shared (O.rely_refl _) hsound.1 (hr _ ht)).segment
  exact ⟨_, ⟨kind, ((k r).run p.shared).2⟩, ht, rfl, rfl, rfl, hseg.2, hseg.1⟩

/-- **Resuming a task** keeps a pool sound if the segment does not falsify the assertions of
the other suspended tasks. -/
theorem resume_sound [DecidableEq I.Call] {p p' : Pool κ I ε σ} {i : ℕ} {c : I.Call}
    {r : Except ε (I.Answer c)} (hp : p.Sound O) (h : p.resume i c r = some p')
    (hr : ∀ t, p.tasks[i]? = some t → O.answers t.kind c r) (hrely : O.rely p.shared p'.shared)
    (hs : ∀ j t, j ≠ i → p.tasks[j]? = some t → ∀ c', t.pending = some c' →
      O.holds t.kind c' p.shared → O.holds t.kind c' p'.shared) :
    p'.Sound O := by
  obtain ⟨t, t', -, -, htasks, -, hsound, -⟩ := resume_segment hp h hr
  intro u hu
  rw [htasks] at hu
  obtain ⟨j, hj⟩ := List.mem_iff_getElem?.mp hu
  by_cases hij : j = i
  · subst hij
    have hlt := (List.getElem?_eq_some_iff.mp hj).1
    rw [List.getElem?_set_self (by simpa using hlt)] at hj
    rw [← Option.some.inj hj]
    exact hsound
  · rw [List.getElem?_set_ne (Ne.symm hij)] at hj
    exact (hp u (List.mem_of_getElem? hj)).frame hrely (hs j u hij hj)

end Pool

end Coro
