/-
Iterating over a dictionary that others may change meanwhile.

The body of a loop may suspend, and what runs then may add entries to the dictionary and remove
them.  A `Versioned` state counts these changes.  As long as there is none, the iterator goes on
with the next entry; a value that was replaced is yielded as it is now.  After a change it raises
if the dictionary has another size than when the loop began.  If it has the same, what comes next
depends on where the entries lie in the table (`layout`), and the iterator raises only after it
yielded as many values as there were.

* **`versioned`** — a coroutine as one that counts its changes of the keys;
* **`wp_versioned`** — what each of its segments does;
* **`forValues`**, **`wp_forValues`** — the loop, and its rule when nothing is added or removed.
-/
import OnvifZeep.CoroutineRules
import OnvifZeep.OrderedDict

namespace Coro

variable {I I' : Interface} {ε σ α κ ν γ : Type}

/-! ### Versions -/

/-- A state with a dictionary, and how often entries were added to it or removed from it. -/
structure Versioned (σ : Type) where
  value : σ
  version : ℕ

section Versions

variable (keys : σ → List κ)

/-- The keys are the same as long as the version is. -/
structure SameKeys (t t' : Versioned σ) : Prop where
  le : t.version ≤ t'.version
  keys : t'.version = t.version → keys t'.value = keys t.value

variable {keys} {t t' t'' : Versioned σ}

theorem SameKeys.refl (t : Versioned σ) : SameKeys keys t t := ⟨Nat.le_refl _, fun _ => rfl⟩

theorem SameKeys.trans (h : SameKeys keys t t') (h' : SameKeys keys t' t'') :
    SameKeys keys t t'' := by
  refine ⟨Nat.le_trans h.le h'.le, fun heq => ?_⟩
  have hle := h.le
  have hle' := h'.le
  have hfirst : t'.version = t.version := by omega
  have hsecond : t''.version = t'.version := by omega
  exact (h'.keys hsecond).trans (h.keys hfirst)

variable [DecidableEq κ] (keys)

def Versioned.replace (t : Versioned σ) (s : σ) : Versioned σ where
  value := s
  version := if keys s = keys t.value then t.version else t.version + 1

/-- Run a coroutine over the state without versions, making its calls through `φ`. -/
def versioned (φ : Embedding I I') : Coro I ε σ α → Coro I' ε (Versioned σ) α
  | .ret a => .ret a
  | .raise e => .raise e
  | .read k => .read fun t => versioned φ (k t.value)
  | .write s k => .read fun t => .write (t.replace keys s) (versioned φ k)
  | .await c k => .await (φ.call c) fun r => versioned φ (k (r.map (φ.answer c)))

variable {keys}

theorem SameKeys.replace (t : Versioned σ) (s : σ) : SameKeys keys t (t.replace keys s) := by
  rw [Versioned.replace]
  by_cases hkeys : keys s = keys t.value
  · rw [if_pos hkeys]
    exact ⟨Nat.le_refl _, fun _ => hkeys⟩
  · rw [if_neg hkeys]
    exact ⟨Nat.le_succ _, fun heq => absurd heq (Nat.succ_ne_self _)⟩

/-- Segments change the state as `R` allows; the ghost is the state they begin in. -/
def segments (R : σ → σ → Prop) : Contract I ε σ σ where
  suspend g _ s := R g s
  resume _ _ _ _ g' s' := g' = s'

/-- What a segment does to a state with versions. -/
def VersionedSegment (keys : σ → List κ) (R : σ → σ → Prop) (t t' : Versioned σ) : Prop :=
  R t.value t'.value ∧ SameKeys keys t t'

/-- **The segments** of a coroutine do to the value what they did, and a change of the keys shows
in the version. -/
theorem wp_versioned {φ : Embedding I I'} {R : σ → σ → Prop} {x : Coro I ε σ α} {g s : σ}
    (h : wp (segments R) (fun _ => R) x g s) {t u : Versioned σ} (ht : t.value = g)
    (hu : u.value = s) (hkeys : SameKeys keys t u) :
    wp (segments (VersionedSegment keys R)) (fun _ => VersionedSegment keys R)
      (versioned keys φ x) t u := by
  subst ht hu
  induction x generalizing t u with
  | ret a => exact ⟨h, hkeys⟩
  | raise e => exact ⟨h, hkeys⟩
  | read k ih => exact ih _ hkeys h
  | write s k ih => exact ih (hkeys.trans (.replace u s)) h
  | await c k ih =>
    refine ⟨⟨h.1, hkeys⟩, ?_⟩
    rintro r t' _ rfl
    exact ih (r.map (φ.answer c)) (.refl t') (h.2 _ _ _ rfl)

end Versions

/-! ### The loop -/

section Loop

variable (dict : σ → Dict κ ν) (error : String → ε) (layout : ℕ → Option ℕ)
  (body : ν → Coro I ε (Versioned σ) Unit)

/-- The entry an iterator comes to that was made at `version` and has yielded `i` values. -/
def nextEntry (version i : ℕ) (t : Versioned σ) : Option (κ × ν) :=
  (if t.version = version then some i else layout i).bind fun j => (dict t.value).entries[j]?

/-- `next` of an iterator that was made at `version` over `size` entries. -/
def nextItem (version size i : ℕ) : Coro I ε (Versioned σ) (Option (κ × ν)) := do
  let t ← getState
  if (dict t.value).entries.length ≠ size then
    .raise (error "dictionary changed size during iteration")
  else return nextEntry dict layout version i t

/-- The loop when `rest` values are still to be yielded. -/
def iterate (version size : ℕ) : ℕ → Coro I ε (Versioned σ) Unit
  | 0 => do
    match ← nextItem dict error layout version size size with
    | none => pure ()
    | some _ => .raise (error "dictionary keys changed during iteration")
  | rest + 1 => do
    match ← nextItem dict error layout version size (size - (rest + 1)) with
    | none => pure ()
    | some entry => body entry.2 >>= fun _ => iterate version size rest

/-- `for value in dict.values(): body`. -/
def forValues : Coro I ε (Versioned σ) Unit := do
  let t ← getState
  iterate dict error layout body t.version (dict t.value).entries.length
    (dict t.value).entries.length

variable {dict error layout body} {K : Contract I ε (Versioned σ) γ}
  {Q : Except ε Unit → γ → Versioned σ → Prop} {g : γ} {t₀ : Versioned σ}

/-- An undisturbed iterator yields the next entry. -/
theorem wp_nextItem {t : Versioned σ} {size i : ℕ}
    {Q : Except ε (Option (κ × ν)) → γ → Versioned σ → Prop}
    (hsize : (dict t.value).entries.length = size) :
    wp K Q (nextItem dict error layout t.version size i) g t ↔
      Q (.ok (dict t.value).entries[i]?) g t := by
  rw [nextItem, wp_bind, wp_getState, ends_ok, if_neg (not_not_intro hsize), wp_pure, nextEntry,
    if_pos rfl, Option.bind_some]

/-- **The loop rule**: `J i` holds before the entry `i` is yielded, and implies that no entry was
added or removed since the loop began. -/
theorem wp_forValues (J : ℕ → γ → Versioned σ → Prop)
    (hversion : ∀ i g t, J i g t → t.version = t₀.version ∧
      (dict t.value).entries.length = (dict t₀.value).entries.length)
    (hstep : ∀ i entry g t, J i g t → (dict t.value).entries[i]? = some entry →
      wp K (Ends (fun _ => J (i + 1)) fun e => Q (.error e)) (body entry.2) g t)
    (hend : ∀ g t, J (dict t₀.value).entries.length g t → Q (.ok ()) g t) (hstart : J 0 g t₀) :
    wp K Q (forValues dict error layout body) g t₀ := by
  -- by induction on the number of values still to be yielded
  have hrest : ∀ rest, rest ≤ (dict t₀.value).entries.length → ∀ g t,
      J ((dict t₀.value).entries.length - rest) g t →
      wp K Q (iterate dict error layout body t₀.version (dict t₀.value).entries.length rest) g t := by
    intro rest
    induction rest with
    | zero =>
      -- the iterator looks once more and finds nothing
      intro _ g t hJ
      obtain ⟨hversion, hsize⟩ := hversion _ g t hJ
      rw [iterate, ← hversion, wp_bind, wp_nextItem hsize, ends_ok,
        List.getElem?_eq_none (Nat.le_of_eq hsize)]
      exact hend g t hJ
    | succ rest ih =>
      intro hle g t hJ
      obtain ⟨hversion, hsize⟩ := hversion _ g t hJ
      have hlt : (dict t₀.value).entries.length - (rest + 1) < (dict t.value).entries.length := by
        omega
      have hentry := List.getElem?_eq_getElem hlt
      rw [iterate, ← hversion, wp_bind, wp_nextItem hsize, ends_ok, hentry]
      refine wp_seq (R := fun _ => J ((dict t₀.value).entries.length - (rest + 1) + 1))
        (hstep _ _ g t hJ hentry) fun _ g t hJ => ?_
      rw [hversion]
      refine ih (by omega) g t ?_
      rwa [show (dict t₀.value).entries.length - (rest + 1) + 1
        = (dict t₀.value).entries.length - rest by omega] at hJ
  rw [forValues, wp_bind, wp_getState, ends_ok]
  refine hrest _ (Nat.le_refl _) g t₀ ?_
  rw [Nat.sub_self]
  exact hstart

end Loop

end Coro
