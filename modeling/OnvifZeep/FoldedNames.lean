/-
Lists of named fields whose names are compared through a folding.

A field is a pair of a name and a value, and two names are the same when `fold` takes them to the
same key, as names compared without regard to case are.  The list keeps every field, in its order
and spelling; a dictionary keyed by the folded name keeps the last field of each name.

* **`filter_ne_eq_others_iff`** — dropping a name by its spelling drops the fields of the name;
* **`lastNamed_eq_none_iff`**, **`lastNamed_mem`** — the last value of a name;
* **`get?_foldDict`**, **`mem_foldDict`** — the dictionary of a list.
-/
import OnvifZeep.OrderedDict

namespace FoldedNames

variable {κ ι ν : Type} [DecidableEq ι] (fold : κ → ι)

/-- The fields with another name. -/
def others (name : κ) (l : List (κ × ν)) : List (κ × ν) :=
  l.filter fun p => fold p.1 ≠ fold name

/-- The value of the last field with the name. -/
def lastNamed (name : κ) (l : List (κ × ν)) : Option ν :=
  Dict.lastValue (fold name) (l.map fun p => (fold p.1, p.2))

/-- The dictionary that keeps, under each folded name, the last field as it was spelled. -/
def foldDict (l : List (κ × ν)) : Dict ι (κ × ν) :=
  Dict.empty.insertAll (l.map fun p => (fold p.1, p))

variable {fold}

theorem mem_others {name : κ} {l : List (κ × ν)} {p : κ × ν} :
    p ∈ others fold name l ↔ p ∈ l ∧ fold p.1 ≠ fold name := by
  rw [others, List.mem_filter, decide_eq_true_iff]

/-- **Dropping by spelling** leaves the fields with another name exactly when the name occurs in
that spelling only. -/
theorem filter_ne_eq_others_iff [DecidableEq κ] {name : κ} {l : List (κ × ν)} :
    (l.filter fun p => p.1 ≠ name) = others fold name l ↔
      ∀ p ∈ l, fold p.1 = fold name → p.1 = name := by
  constructor
  · intro h p hp hfold
    by_contra hne
    have hkept : p ∈ l.filter fun p => p.1 ≠ name :=
      List.mem_filter.mpr ⟨hp, decide_eq_true hne⟩
    rw [h] at hkept
    exact (mem_others.mp hkept).2 hfold
  · intro h
    refine List.filter_congr fun p hp => decide_eq_decide.mpr ?_
    constructor
    · intro hne hfold
      exact hne (h p hp hfold)
    · intro hne heq
      exact hne (congrArg fold heq)

/-- A name has a last value unless no field has it. -/
theorem lastNamed_eq_none_iff {name : κ} {l : List (κ × ν)} :
    lastNamed fold name l = none ↔ ∀ p ∈ l, fold p.1 ≠ fold name := by
  unfold lastNamed
  induction l with
  | nil => simp [Dict.lastValue]
  | cons p l ih =>
    rw [List.map_cons, Dict.lastValue, Option.or_eq_none_iff, ih, List.forall_mem_cons, and_comm]
    by_cases hp : fold p.1 = fold name <;> simp [hp]

theorem lastNamed_mem {name : κ} {l : List (κ × ν)} {v : ν} (h : lastNamed fold name l = some v) :
    ∃ name', (name', v) ∈ l ∧ fold name' = fold name := by
  obtain ⟨p, hp, heq⟩ := List.mem_map.mp (Dict.lastValue_mem h)
  obtain ⟨hfold, hv⟩ := Prod.mk.inj heq
  exact ⟨p.1, hv ▸ hp, hfold⟩

/-- A name that occurs has a last value, which is one of its values. -/
theorem exists_lastNamed_of_mem (fold : κ → ι) {l : List (κ × ν)} {p : κ × ν} (hp : p ∈ l) :
    ∃ v, lastNamed fold p.1 l = some v ∧ ∃ name, (name, v) ∈ l ∧ fold name = fold p.1 := by
  cases hlast : lastNamed fold p.1 l with
  | none => exact absurd rfl (lastNamed_eq_none_iff.mp hlast p hp)
  | some v => exact ⟨v, rfl, lastNamed_mem hlast⟩

/-! ### The dictionary of a list -/

/-- **Reading the dictionary** gives the last field of the name. -/
theorem get?_foldDict (name : κ) (l : List (κ × ν)) :
    ((foldDict fold l).get? (fold name)).map Prod.snd = lastNamed fold name l := by
  rw [foldDict, Dict.get?_insertAll, Dict.get?_empty, Option.or_none, lastNamed,
    ← Dict.lastValue_map, List.map_map]
  rfl

/-- **The fields of the dictionary** are fields of the list, in their spelling. -/
theorem mem_foldDict {l : List (κ × ν)} {e : ι × (κ × ν)} (h : e ∈ (foldDict fold l).entries) :
    e.2 ∈ l := by
  have hget := Dict.get?_of_mem_entries h
  rw [foldDict, Dict.get?_insertAll, Dict.get?_empty, Option.or_none] at hget
  obtain ⟨p, hp, heq⟩ := List.mem_map.mp (Dict.lastValue_mem hget)
  rw [← congrArg Prod.snd heq]
  exact hp

end FoldedNames
