/-
Insertion-ordered dictionaries.

A `Dict κ ν` is a list of entries with distinct keys; that the keys are distinct is part of
the structure, so no operation can build a dictionary with two entries for one key.
Replacing the value of a key keeps its place, a new key goes to the end.

* **`get?_insert`**, **`get?_erase`** — reading after writing;
* **`get?_insertAll`** — after writing a list of entries, the last one for a key counts;
* **`get?_setDefaults`** — defaults fill in the keys that are missing, the first one for a key
  counts, and filling them in again changes nothing (`setDefaults_setDefaults`).
-/
import Mathlib.Data.List.Nodup

/-- A dictionary in insertion order. -/
structure Dict (κ ν : Type) where
  entries : List (κ × ν)
  nodup : (entries.map Prod.fst).Nodup

namespace Dict

variable {κ ν : Type} [DecidableEq κ]

def empty : Dict κ ν := ⟨[], List.nodup_nil⟩

def get? (d : Dict κ ν) (k : κ) : Option ν := d.entries.lookup k

/-- The entries with `k` set to `v`. -/
def insertEntry (k : κ) (v : ν) : List (κ × ν) → List (κ × ν)
  | [] => [(k, v)]
  | (k', v') :: rest => if k' = k then (k, v) :: rest else (k', v') :: insertEntry k v rest

theorem mem_keys_insertEntry {k x : κ} {v : ν} {l : List (κ × ν)} :
    x ∈ (insertEntry k v l).map Prod.fst ↔ x = k ∨ x ∈ l.map Prod.fst := by
  induction l with
  | nil => simp [insertEntry]
  | cons hd rest ih =>
    obtain ⟨k', v'⟩ := hd
    rw [insertEntry]
    by_cases hk : k' = k
    · subst hk
      rw [if_pos rfl]
      simp
    · rw [if_neg hk]
      simp only [List.map_cons, List.mem_cons, ih]
      tauto

theorem nodup_insertEntry {k : κ} {v : ν} {l : List (κ × ν)} (h : (l.map Prod.fst).Nodup) :
    ((insertEntry k v l).map Prod.fst).Nodup := by
  induction l with
  | nil => simp [insertEntry]
  | cons hd rest ih =>
    obtain ⟨k', v'⟩ := hd
    rw [List.map_cons, List.nodup_cons] at h
    rw [insertEntry]
    by_cases hk : k' = k
    · subst hk
      rw [if_pos rfl, List.map_cons, List.nodup_cons]
      exact h
    · rw [if_neg hk, List.map_cons, List.nodup_cons]
      refine ⟨fun hm => ?_, ih h.2⟩
      rcases mem_keys_insertEntry.mp hm with hm | hm
      · exact hk hm
      · exact h.1 hm

def insert (d : Dict κ ν) (k : κ) (v : ν) : Dict κ ν :=
  ⟨insertEntry k v d.entries, nodup_insertEntry d.nodup⟩

def erase (d : Dict κ ν) (k : κ) : Dict κ ν :=
  ⟨d.entries.filter fun e => !decide (e.1 = k), (d.nodup.sublist (List.filter_sublist.map _))⟩

@[simp] theorem get?_empty (k : κ) : (empty : Dict κ ν).get? k = none := rfl

theorem lookup_cons (k k' : κ) (v : ν) (l : List (κ × ν)) :
    ((k', v) :: l).lookup k = if k = k' then some v else l.lookup k := by
  rw [List.lookup_cons]
  by_cases hk : k = k'
  · rw [beq_iff_eq.mpr hk, if_pos hk]
  · rw [beq_eq_false_iff_ne.mpr hk, if_neg hk]

theorem lookup_insertEntry {k k' : κ} {v : ν} {l : List (κ × ν)} :
    (insertEntry k v l).lookup k' = if k' = k then some v else l.lookup k' := by
  induction l with
  | nil => rw [insertEntry, lookup_cons]
  | cons hd rest ih =>
    obtain ⟨a, b⟩ := hd
    rw [insertEntry]
    by_cases ha : a = k
    · subst ha
      rw [if_pos rfl, lookup_cons, lookup_cons]
      by_cases hk : k' = a
      · rw [if_pos hk, if_pos hk]
      · rw [if_neg hk, if_neg hk, if_neg hk]
    · rw [if_neg ha, lookup_cons, lookup_cons, ih]
      by_cases hk : k' = a
      · rw [if_pos hk, if_neg (fun h => ha (hk.symm.trans h)), if_pos hk]
      · rw [if_neg hk, if_neg hk]

/-- **Reading after inserting.** -/
theorem get?_insert (d : Dict κ ν) (k k' : κ) (v : ν) :
    (d.insert k v).get? k' = if k' = k then some v else d.get? k' := lookup_insertEntry

@[simp] theorem get?_insert_self (d : Dict κ ν) (k : κ) (v : ν) :
    (d.insert k v).get? k = some v := by
  rw [get?_insert, if_pos rfl]

theorem get?_insert_of_ne (d : Dict κ ν) {k k' : κ} (v : ν) (h : k' ≠ k) :
    (d.insert k v).get? k' = d.get? k' := by
  rw [get?_insert, if_neg h]

/-- **Reading after erasing.** -/
theorem get?_erase (d : Dict κ ν) (k k' : κ) :
    (d.erase k).get? k' = if k' = k then none else d.get? k' := by
  obtain ⟨l, hl⟩ := d
  show (l.filter fun e => !decide (e.1 = k)).lookup k' = if k' = k then none else l.lookup k'
  clear hl
  induction l with
  | nil => simp
  | cons hd rest ih =>
    obtain ⟨a, b⟩ := hd
    rw [List.filter_cons]
    by_cases ha : a = k
    · -- the entry goes: only `k` could have found it
      subst ha
      rw [if_neg (by simp), ih, lookup_cons]
      by_cases hk : k' = a
      · rw [if_pos hk, if_pos hk]
      · rw [if_neg hk, if_neg hk, if_neg hk]
    · rw [if_pos (by simpa using ha), lookup_cons, lookup_cons, ih]
      by_cases hk : k' = a
      · rw [if_pos hk, if_neg (fun h => ha (hk.symm.trans h)), if_pos hk]
      · rw [if_neg hk, if_neg hk]

@[simp] theorem get?_erase_self (d : Dict κ ν) (k : κ) : (d.erase k).get? k = none := by
  rw [get?_erase, if_pos rfl]

theorem get?_erase_of_ne (d : Dict κ ν) {k k' : κ} (h : k' ≠ k) :
    (d.erase k).get? k' = d.get? k' := by
  rw [get?_erase, if_neg h]

theorem mem_entries_of_get? {d : Dict κ ν} {k : κ} {v : ν} (h : d.get? k = some v) :
    (k, v) ∈ d.entries := by
  obtain ⟨before, after, hentries, -⟩ := List.lookup_eq_some_iff.mp h
  rw [hentries]
  exact List.mem_append_right _ List.mem_cons_self

/-- An entry is what its key is looked up to. -/
theorem get?_of_mem_entries {d : Dict κ ν} {k : κ} {v : ν} (h : (k, v) ∈ d.entries) :
    d.get? k = some v := by
  obtain ⟨l, hl⟩ := d
  show l.lookup k = some v
  induction l with
  | nil => exact absurd h List.not_mem_nil
  | cons entry rest ih =>
    obtain ⟨k', v'⟩ := entry
    rw [List.map_cons, List.nodup_cons] at hl
    rw [lookup_cons]
    rcases List.mem_cons.mp h with heq | hmem
    · obtain ⟨rfl, rfl⟩ := Prod.mk.inj heq
      rw [if_pos rfl]
    · -- a later entry has another key
      have hk : k ≠ k' := by
        rintro rfl
        exact hl.1 (List.mem_map.mpr ⟨(k, v), hmem, rfl⟩)
      rw [if_neg hk]
      exact ih hl.2 hmem

/-! ### Writing many entries -/

def insertAll (d : Dict κ ν) (l : List (κ × ν)) : Dict κ ν :=
  l.foldl (fun d e => d.insert e.1 e.2) d

/-- The value the list last gives to `k`. -/
def lastValue (k : κ) : List (κ × ν) → Option ν
  | [] => none
  | e :: l => (lastValue k l).or (if e.1 = k then some e.2 else none)

/-- **Reading after writing many entries.** -/
theorem get?_insertAll (d : Dict κ ν) (l : List (κ × ν)) (k : κ) :
    (d.insertAll l).get? k = (lastValue k l).or (d.get? k) := by
  induction l generalizing d with
  | nil => rfl
  | cons e l ih =>
    show ((d.insert e.1 e.2).insertAll l).get? k = _
    rw [ih, get?_insert, lastValue, Option.or_assoc]
    by_cases hk : k = e.1
    · rw [if_pos hk, if_pos hk.symm]
      rfl
    · rw [if_neg hk, if_neg (Ne.symm hk)]
      rfl

theorem lastValue_map {μ : Type} (f : ν → μ) (k : κ) (l : List (κ × ν)) :
    lastValue k (l.map fun e => (e.1, f e.2)) = (lastValue k l).map f := by
  induction l with
  | nil => rfl
  | cons e l ih =>
    rw [List.map_cons, lastValue, lastValue, ih]
    cases lastValue k l with
    | some v => rfl
    | none =>
      by_cases hk : e.1 = k
      · rw [if_pos hk, if_pos hk]
        rfl
      · rw [if_neg hk, if_neg hk]
        rfl

theorem lastValue_mem {k : κ} {v : ν} {l : List (κ × ν)} (h : lastValue k l = some v) :
    (k, v) ∈ l := by
  induction l with
  | nil => exact absurd h (by simp [lastValue])
  | cons e l ih =>
    rw [lastValue] at h
    cases hl : lastValue k l with
    | some u =>
      rw [hl] at h
      exact List.mem_cons_of_mem e (ih (hl.trans h))
    | none =>
      rw [hl, Option.none_or] at h
      by_cases hk : e.1 = k
      · rw [if_pos hk] at h
        obtain rfl := hk
        rw [← Option.some.inj h]
        exact List.mem_cons_self
      · rw [if_neg hk] at h
        exact absurd h (by simp)

/-- Leaving entries out does not change a last value that stays in. -/
theorem lastValue_filter {p : ν → Bool} {k : κ} {l : List (κ × ν)}
    (h : ∀ v, lastValue k l = some v → p v) :
    lastValue k (l.filter fun e => p e.2) = lastValue k l := by
  induction l with
  | nil => rfl
  | cons e l ih =>
    rw [lastValue] at h ⊢
    cases hl : lastValue k l with
    | some v =>
      have hv : p v := h v (by rw [hl]; rfl)
      have ih' := ih fun u hu => by rwa [← Option.some.inj (hl.symm.trans hu)]
      rw [List.filter_cons]
      by_cases he : p e.2
      · rw [if_pos he, lastValue, ih', hl]
      · rw [if_neg he, ih', hl]
        rfl
    | none =>
      have ih' := ih fun u hu => absurd (hl.symm.trans hu) (by simp)
      rw [List.filter_cons]
      by_cases he : p e.2
      · rw [if_pos he, lastValue, ih', hl]
      · rw [if_neg he, ih', hl]
        by_cases hk : e.1 = k
        · exact (he (h e.2 (by rw [hl, if_pos hk]; rfl))).elim
        · rw [if_neg hk]
          rfl

/-! ### Defaults -/

/-- `d.setdefault(k, v)`. -/
def setDefault (d : Dict κ ν) (k : κ) (v : ν) : Dict κ ν :=
  if (d.get? k).isSome then d else d.insert k v

def setDefaults (d : Dict κ ν) (l : List (κ × ν)) : Dict κ ν :=
  l.foldl (fun d e => d.setDefault e.1 e.2) d

theorem get?_setDefault (d : Dict κ ν) (k k' : κ) (v : ν) :
    (d.setDefault k v).get? k' = (d.get? k').or (if k' = k then some v else none) := by
  rw [setDefault]
  by_cases hk : k' = k
  · subst hk
    rw [if_pos rfl]
    cases hd : d.get? k' with
    | some u =>
      rw [if_pos (Option.isSome_some), hd]
      rfl
    | none =>
      rw [if_neg (by simp), get?_insert_self]
      rfl
  · rw [if_neg hk, Option.or_none]
    split
    · rfl
    · exact get?_insert_of_ne d v hk

/-- **Reading after filling in defaults.** -/
theorem get?_setDefaults (d : Dict κ ν) (l : List (κ × ν)) (k : κ) :
    (d.setDefaults l).get? k = (d.get? k).or (l.lookup k) := by
  induction l generalizing d with
  | nil => exact (Option.or_none).symm
  | cons e l ih =>
    show ((d.setDefault e.1 e.2).setDefaults l).get? k = _
    rw [ih, get?_setDefault, lookup_cons, Option.or_assoc]
    by_cases hk : k = e.1
    · rw [if_pos hk, if_pos hk, Option.some_or]
    · rw [if_neg hk, if_neg hk, Option.none_or]

theorem setDefault_of_isSome {d : Dict κ ν} {k : κ} (v : ν) (h : (d.get? k).isSome) :
    d.setDefault k v = d := if_pos h

/-- Where every key has a value there is nothing to fill in. -/
theorem setDefaults_of_isSome {d : Dict κ ν} {l : List (κ × ν)}
    (h : ∀ e ∈ l, (d.get? e.1).isSome) : d.setDefaults l = d := by
  induction l with
  | nil => rfl
  | cons e l ih =>
    show (d.setDefault e.1 e.2).setDefaults l = d
    rw [setDefault_of_isSome e.2 (h e List.mem_cons_self)]
    exact ih fun e' he' => h e' (List.mem_cons_of_mem e he')

/-- **Defaults are filled in once.** -/
theorem setDefaults_setDefaults (d : Dict κ ν) (l : List (κ × ν)) :
    (d.setDefaults l).setDefaults l = d.setDefaults l := by
  refine setDefaults_of_isSome fun e he => ?_
  have hfound : (l.lookup e.1).isSome := List.lookup_isSome_iff.mpr ⟨e, he, beq_self_eq_true _⟩
  rw [get?_setDefaults, Option.isSome_or, hfound, Bool.or_true]

end Dict
