/-
A cache of bounded size that forgets the least recently used key.

The cached function may change from one lookup to the next, as it does when it reads the outside
world.  A lookup carries the function as it is at that time.

* **`LruCache`** — the entries, the most recently used first, of distinct keys and no more than fit;
* **`keys_after`** — after any lookups the keys are those used last, as many as fit;
* **`get?_after_eq_none_iff`** — a lookup computes the value exactly if the key is new or as many
  other keys as fit have been used since;
* **`computedLast_answer`** — a lookup is answered with the value computed last;
* **`answer_of_constant`** — where the function does not change, the cache is not noticed.
-/
import Mathlib.Data.List.Induction
import Mathlib.Data.List.Nodup
import Mathlib.Data.List.TakeWhile

/-- The entries of a cache, the most recently used first. -/
structure LruCache (κ ν : Type) (maxsize : ℕ) where
  entries : List (κ × ν)
  nodup : (entries.map Prod.fst).Nodup
  bounded : entries.length ≤ maxsize

namespace LruCache

variable {κ ν : Type} {maxsize : ℕ} [DecidableEq κ]

def empty : LruCache κ ν maxsize := ⟨[], List.nodup_nil, Nat.zero_le _⟩

def keys (c : LruCache κ ν maxsize) : List κ := c.entries.map Prod.fst

def get? (c : LruCache κ ν maxsize) (k : κ) : Option ν :=
  (c.entries.find? fun e => e.1 = k).map Prod.snd

/-- Put the entry in front; the last one goes if there is no room. -/
def use (c : LruCache κ ν maxsize) (k : κ) (v : ν) : LruCache κ ν maxsize where
  entries := ((k, v) :: c.entries.filter fun e => e.1 ≠ k).take maxsize
  nodup := by
    have hrest : ((c.entries.filter fun e => e.1 ≠ k).map Prod.fst).Nodup :=
      c.nodup.sublist (List.filter_sublist.map Prod.fst)
    rw [List.map_take]
    refine (List.nodup_cons.mpr ⟨?_, hrest⟩).sublist (List.take_sublist _ _)
    intro hk
    obtain ⟨e, he, hek⟩ := List.mem_map.mp hk
    simpa [hek] using (List.mem_filter.mp he).2
  bounded := List.length_take_le _ _

/-- The value of `f` at `k`, from the cache if it is there. -/
def call (c : LruCache κ ν maxsize) (f : κ → ν) (k : κ) : ν × LruCache κ ν maxsize :=
  match c.get? k with
  | some v => (v, c.use k v)
  | none => (f k, c.use k (f k))

/-- The key of a lookup, and the function at that time. -/
structure Lookup (κ ν : Type) where
  key : κ
  value : κ → ν

/-- The cache after the lookups, in their order. -/
def after (maxsize : ℕ) (lookups : List (Lookup κ ν)) : LruCache κ ν maxsize :=
  lookups.foldl (fun c l => (c.call l.value l.key).2) empty

/-- What the last lookup is answered with. -/
def answer (maxsize : ℕ) (lookups : List (Lookup κ ν)) (last : Lookup κ ν) : ν :=
  ((after maxsize lookups).call last.value last.key).1

/-! ### One lookup -/

theorem call_snd (c : LruCache κ ν maxsize) (f : κ → ν) (k : κ) :
    (c.call f k).2 = c.use k (c.call f k).1 := by
  rw [call]
  cases c.get? k <;> rfl

theorem keys_use (c : LruCache κ ν maxsize) (k : κ) (v : ν) :
    (c.use k v).keys = (k :: c.keys.filter (· ≠ k)).take maxsize := by
  rw [keys, use, List.map_take, List.map_cons, keys, List.filter_map]
  rfl

theorem get?_eq_none_iff (c : LruCache κ ν maxsize) (k : κ) : c.get? k = none ↔ k ∉ c.keys := by
  rw [get?, Option.map_eq_none_iff, List.find?_eq_none, keys, List.mem_map]
  constructor
  · rintro h ⟨e, he, hek⟩
    exact h e he (decide_eq_true hek)
  · rintro h e he hek
    exact h ⟨e, he, of_decide_eq_true hek⟩

theorem get?_use_self {c : LruCache κ ν maxsize} {k : κ} {v : ν} (h : 0 < maxsize) :
    (c.use k v).get? k = some v := by
  obtain ⟨n, rfl⟩ := Nat.exists_eq_succ_of_ne_zero (Nat.pos_iff_ne_zero.mp h)
  show (List.find? (fun e => decide (e.1 = k))
    ((k, v) :: (c.entries.filter fun e => e.1 ≠ k).take n)).map Prod.snd = some v
  rw [List.find?_cons_of_pos (by simp)]
  rfl

/-- Another key keeps its value or is forgotten. -/
theorem get?_use_of_ne {c : LruCache κ ν maxsize} {k k' : κ} {v v' : ν} (hne : k' ≠ k)
    (h : (c.use k v).get? k' = some v') : c.get? k' = some v' := by
  obtain ⟨e, he, rfl⟩ := Option.map_eq_some_iff.mp h
  have hkey : e.1 = k' := by simpa using List.find?_some he
  have hmem : e ∈ c.entries := by
    rcases List.mem_cons.mp (List.mem_of_mem_take (List.mem_of_find?_eq_some he)) with rfl | hmem
    · exact absurd hkey.symm hne
    · exact (List.mem_filter.mp hmem).1
  -- the keys are distinct, so this is the entry that is found
  cases hfind : c.entries.find? fun e => e.1 = k' with
  | none => exact absurd (decide_eq_true hkey) (List.find?_eq_none.mp hfind e hmem)
  | some e' =>
    have hkey' : e'.1 = k' := by simpa using List.find?_some hfind
    have heq : e' = e := List.inj_on_of_nodup_map c.nodup (List.mem_of_find?_eq_some hfind) hmem
      (hkey'.trans hkey.symm)
    rw [get?, hfind, heq]
    rfl

/-! ### The keys used last -/

theorem eraseDups_filter (p : κ → Bool) (l : List κ) :
    (l.filter p).eraseDups = l.eraseDups.filter p := by
  induction hn : l.length using Nat.strongRecOn generalizing l with
  | ind n ih =>
    cases l with
    | nil => rfl
    | cons a l =>
      have hlt : (l.filter fun b => !b == a).length < n :=
        hn ▸ Nat.lt_succ_of_le (List.length_filter_le _ _)
      have hrest := ih _ hlt (l.filter fun b => !b == a) rfl
      rw [List.eraseDups_cons]
      by_cases ha : p a = true
      · rw [List.filter_cons_of_pos ha, List.eraseDups_cons, List.filter_cons_of_pos ha, ← hrest,
          List.filter_filter, List.filter_filter]
        exact congrArg (fun q => a :: (l.filter q).eraseDups) (funext fun b => Bool.and_comm _ _)
      · rw [List.filter_cons_of_neg ha, List.filter_cons_of_neg ha, ← hrest, List.filter_filter]
        refine congrArg List.eraseDups (List.filter_congr fun b _ => ?_)
        by_cases hb : b = a
        · subst hb
          simp [ha]
        · simp [hb]

theorem eraseDups_cons_filter (k : κ) (l : List κ) :
    (k :: l).eraseDups = k :: l.eraseDups.filter (· ≠ k) := by
  rw [List.eraseDups_cons, eraseDups_filter]
  refine congrArg (List.cons k) (List.filter_congr fun b _ => ?_)
  by_cases hb : b = k
  · simp [hb]
  · simp [hb]

theorem nodup_eraseDups (l : List κ) : l.eraseDups.Nodup := by
  induction l with
  | nil => exact List.nodup_nil
  | cons a l ih =>
    rw [eraseDups_cons_filter]
    refine List.nodup_cons.mpr ⟨fun ha => ?_, ih.filter _⟩
    simpa using (List.mem_filter.mp ha).2

/-- Putting a key in front and cutting off, of a list that has been cut off before. -/
theorem take_cons_filter {l : List κ} (hl : l.Nodup) (n : ℕ) (k : κ) :
    (k :: (l.take n).filter (· ≠ k)).take n = (k :: l.filter (· ≠ k)).take n := by
  cases n with
  | zero => rfl
  | succ n =>
    rw [List.take_succ_cons, List.take_succ_cons]
    refine congrArg (List.cons k) ?_
    induction l generalizing n with
    | nil => rfl
    | cons a l ih =>
      obtain ⟨ha, hl⟩ := List.nodup_cons.mp hl
      rw [List.take_succ_cons]
      by_cases hak : a = k
      · have hfilter : l.filter (· ≠ k) = l := by
          refine List.filter_eq_self.mpr fun b hb => ?_
          exact decide_eq_true fun hbk => ha (by rwa [hak, ← hbk])
        have htake : (l.take n).filter (· ≠ k) = l.take n := by
          refine List.filter_eq_self.mpr fun b hb => ?_
          exact decide_eq_true fun hbk => ha (by rw [hak, ← hbk]; exact List.mem_of_mem_take hb)
        have hcons : ∀ l', (a :: l').filter (· ≠ k) = l'.filter (· ≠ k) :=
          fun _ => List.filter_cons_of_neg (by simpa using hak)
        rw [hcons, hcons, hfilter, htake, List.take_take, Nat.min_self]
      · have hcons : ∀ l', (a :: l').filter (· ≠ k) = a :: l'.filter (· ≠ k) :=
          fun _ => List.filter_cons_of_pos (by simpa using hak)
        rw [hcons, hcons]
        cases n with
        | zero => rfl
        | succ n => rw [List.take_succ_cons, List.take_succ_cons, ih hl n]

theorem after_snoc (lookups : List (Lookup κ ν)) (last : Lookup κ ν) :
    after maxsize (lookups ++ [last])
      = (after maxsize lookups).use last.key (answer maxsize lookups last) := by
  rw [after, List.foldl_append]
  exact call_snd _ _ _

/-- The keys of the lookups, the last one first. -/
def recent (lookups : List (Lookup κ ν)) : List κ := (lookups.map Lookup.key).reverse

omit [DecidableEq κ] in
theorem recent_snoc (lookups : List (Lookup κ ν)) (last : Lookup κ ν) :
    recent (lookups ++ [last]) = last.key :: recent lookups := by
  rw [recent, List.map_append, List.reverse_append]
  rfl

/-- **The keys used last**, as many as fit. -/
theorem keys_after (lookups : List (Lookup κ ν)) :
    (after maxsize lookups).keys = (recent lookups).eraseDups.take maxsize := by
  induction lookups using List.reverseRecOn with
  | nil =>
    rw [show recent ([] : List (Lookup κ ν)) = [] from rfl, List.eraseDups_nil, List.take_nil]
    rfl
  | append_singleton lookups last ih =>
    rw [after_snoc, keys_use, ih, take_cons_filter (nodup_eraseDups _), recent_snoc,
      eraseDups_cons_filter]

/-- The keys that have been used since `k` was, each once. -/
def since (lookups : List (Lookup κ ν)) (k : κ) : List κ :=
  ((recent lookups).takeWhile (· ≠ k)).eraseDups

theorem mem_take_eraseDups {l : List κ} {k : κ} (hk : k ∈ l) (n : ℕ) :
    k ∈ l.eraseDups.take n ↔ (l.takeWhile (· ≠ k)).eraseDups.length < n := by
  obtain ⟨rest, hrest⟩ : ∃ rest, l.dropWhile (· ≠ k) = k :: rest := by
    cases hdrop : l.dropWhile (· ≠ k) with
    | nil => simpa using List.dropWhile_eq_nil_iff.mp hdrop k hk
    | cons a rest =>
      have hne : l.dropWhile (· ≠ k) ≠ [] := hdrop ▸ List.cons_ne_nil _ _
      have ha := List.head_dropWhile_not (p := (· ≠ k)) (l := l) hne
      simp only [hdrop, List.head_cons] at ha
      exact ⟨rest, by simpa using ha⟩
  have hsplit : l = l.takeWhile (· ≠ k) ++ k :: rest := by
    rw [← hrest, List.takeWhile_append_dropWhile]
  have hfront : k ∉ l.takeWhile (· ≠ k) := fun h => by simpa using List.mem_takeWhile_imp h
  have hdups : l.eraseDups = (l.takeWhile (· ≠ k)).eraseDups
      ++ k :: ((rest.removeAll (l.takeWhile (· ≠ k))).filter fun b => !b == k).eraseDups := by
    conv_lhs => rw [hsplit, List.eraseDups_append]
    rw [List.removeAll, List.filter_cons_of_pos (by simpa using hfront), List.eraseDups_cons]
    rfl
  have hnot : k ∉ (l.takeWhile (· ≠ k)).eraseDups := fun h => hfront (List.mem_eraseDups.mp h)
  rw [hdups, List.take_append, List.mem_append]
  constructor
  · rintro (h | h)
    · exact absurd (List.mem_of_mem_take h) hnot
    · by_contra hle
      rw [Nat.sub_eq_zero_of_le (Nat.not_lt.mp hle), List.take_zero] at h
      cases h
  · intro h
    obtain ⟨m, hm⟩ := Nat.exists_eq_succ_of_ne_zero (Nat.sub_ne_zero_of_lt h)
    rw [hm, List.take_succ_cons]
    exact Or.inr List.mem_cons_self

/-- **When the value is computed**: the key is new, or as many other keys as fit have been used
since. -/
theorem get?_after_eq_none_iff (lookups : List (Lookup κ ν)) (k : κ) :
    (after maxsize lookups).get? k = none ↔
      k ∉ recent lookups ∨ maxsize ≤ (since lookups k).length := by
  rw [get?_eq_none_iff, keys_after]
  by_cases hk : k ∈ recent lookups
  · rw [mem_take_eraseDups hk, Nat.not_lt]
    exact ⟨Or.inr, fun h => h.resolve_left fun h => h hk⟩
  · refine ⟨fun _ => Or.inl hk, fun _ hmem => hk ?_⟩
    exact List.mem_eraseDups.mp (List.mem_of_mem_take hmem)

/-! ### The values -/

/-- The lookup computes the value. -/
def Computes (maxsize : ℕ) (lookups : List (Lookup κ ν)) (last : Lookup κ ν) : Prop :=
  last.key ∉ recent lookups ∨ maxsize ≤ (since lookups last.key).length

theorem answer_of_computes {lookups : List (Lookup κ ν)} {last : Lookup κ ν}
    (h : Computes maxsize lookups last) : answer maxsize lookups last = last.value last.key := by
  rw [answer, call, (get?_after_eq_none_iff lookups last.key).mpr h]

/-- The value of `k` is the one computed by a lookup since which none has been computed. -/
def ComputedLast (maxsize : ℕ) (lookups : List (Lookup κ ν)) (k : κ) (v : ν) : Prop :=
  ∃ front l back, lookups = front ++ l :: back ∧ l.key = k ∧ Computes maxsize front l ∧
    v = l.value k ∧ ∀ between l' rest, back = between ++ l' :: rest → l'.key = k →
      ¬Computes maxsize (front ++ l :: between) l'

theorem ComputedLast.of_computes {lookups : List (Lookup κ ν)} {last : Lookup κ ν}
    (h : Computes maxsize lookups last) :
    ComputedLast maxsize (lookups ++ [last]) last.key (answer maxsize lookups last) := by
  refine ⟨lookups, last, [], rfl, rfl, h, answer_of_computes h, ?_⟩
  intro between l' rest hback
  exact absurd hback.symm (List.append_ne_nil_of_right_ne_nil _ (List.cons_ne_nil _ _))

/-- A lookup that computes nothing for `k`. -/
theorem ComputedLast.snoc {lookups : List (Lookup κ ν)} {last : Lookup κ ν} {k : κ} {v : ν}
    (h : ComputedLast maxsize lookups k v)
    (hlast : last.key = k → ¬Computes maxsize lookups last) :
    ComputedLast maxsize (lookups ++ [last]) k v := by
  obtain ⟨front, l, back, rfl, hl, hfront, hval, hback⟩ := h
  refine ⟨front, l, back ++ [last], by rw [List.append_assoc]; rfl, hl, hfront, hval, ?_⟩
  intro between l' rest hsplit hl'
  rcases List.eq_nil_or_concat rest with rfl | ⟨rest, u, rfl⟩
  · obtain ⟨rfl, heq⟩ := List.append_inj' hsplit rfl
    rw [← List.singleton_inj.mp heq] at hl' ⊢
    exact hlast hl'
  · rw [List.concat_eq_append, ← List.cons_append, ← List.append_assoc] at hsplit
    exact hback between l' rest (List.append_inj' hsplit rfl).1 hl'

/-- **The value that is kept** is the one that was computed last. -/
theorem computedLast_of_get? {lookups : List (Lookup κ ν)} {k : κ} {v : ν}
    (h : (after maxsize lookups).get? k = some v) : ComputedLast maxsize lookups k v := by
  induction lookups using List.reverseRecOn generalizing v with
  | nil => cases h
  | append_singleton lookups last ih =>
    rw [after_snoc] at h
    by_cases hkey : last.key = k
    · subst hkey
      have hpos : 0 < maxsize := by
        obtain ⟨e, he, -⟩ := Option.map_eq_some_iff.mp h
        have hlen := List.length_pos_of_mem (List.mem_of_find?_eq_some he)
        exact lt_of_lt_of_le hlen (LruCache.bounded _)
      rw [get?_use_self hpos] at h
      by_cases hcomputes : Computes maxsize lookups last
      · exact Option.some.inj h ▸ .of_computes hcomputes
      · cases hget : (after maxsize lookups).get? last.key with
        | none => exact absurd ((get?_after_eq_none_iff lookups last.key).mp hget) hcomputes
        | some v' =>
          rw [answer, call, hget] at h
          exact Option.some.inj h ▸ (ih hget).snoc fun _ => hcomputes
    · exact (ih (get?_use_of_ne (Ne.symm hkey) h)).snoc fun h => absurd h hkey

/-- **What a lookup is answered with**: the value computed by it or by an earlier lookup, since
which none has been computed. -/
theorem computedLast_answer (maxsize : ℕ) (lookups : List (Lookup κ ν)) (last : Lookup κ ν) :
    ComputedLast maxsize (lookups ++ [last]) last.key (answer maxsize lookups last) := by
  by_cases hcomputes : Computes maxsize lookups last
  · exact .of_computes hcomputes
  · refine computedLast_of_get? ?_
    rw [after_snoc, get?_use_self (Nat.pos_of_ne_zero fun hzero => hcomputes (Or.inr ?_))]
    exact hzero ▸ Nat.zero_le _

/-- **A function that does not change** at the key is not noticed to be cached. -/
theorem answer_of_constant {lookups : List (Lookup κ ν)} {last : Lookup κ ν}
    (h : ∀ l ∈ lookups, l.key = last.key → l.value last.key = last.value last.key) :
    answer maxsize lookups last = last.value last.key := by
  obtain ⟨front, l, back, hsplit, hl, -, hanswer, -⟩ := computedLast_answer maxsize lookups last
  rw [hanswer]
  have hmem : l ∈ lookups ++ [last] := hsplit ▸ List.mem_append_right _ List.mem_cons_self
  rcases List.mem_append.mp hmem with hmem | hmem
  · exact h l hmem hl
  · rw [List.mem_singleton.mp hmem]

end LruCache
