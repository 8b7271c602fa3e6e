/-
`path_isfile`, the cached existence check, and `AsyncSafeTransport.load` on top of it.

The check is a `stat`, which blocks, so its result is cached for 128 paths while the file system
goes on changing.  Loading a document opens the file the check has found; nothing else is opened,
and nothing is fetched from elsewhere.

* **`stat_iff`** — when the file system is asked again;
* **`load_serves_seen_files`** — what loading comes to, from the last time the file system was
  asked about the path.
-/
import OnvifZeep.Exceptions
import OnvifZeep.LruCache
import Mathlib.Data.List.Perm.Subperm

namespace Onvif

/-- The file system at a moment. -/
structure FileSystem where
  -- `os.path.isfile`
  isfile : String → Bool
  -- `Path(url).expanduser().open("rb")` and `read()`
  read : String → Except Exc (List UInt8)

/-- The argument of `lru_cache`. -/
def PATH_CACHE_SIZE : ℕ := 128

/-- The cache of `path_isfile`, which the whole process shares. -/
abbrev PathCache : Type := LruCache String Bool PATH_CACHE_SIZE

def pathIsfile (cache : PathCache) (files : FileSystem) (path : String) : Bool × PathCache :=
  cache.call files.isfile path

namespace AsyncSafeTransport

def load (cache : PathCache) (files : FileSystem) (url : String) :
    Except Exc (List UInt8) × PathCache :=
  let found := pathIsfile cache files url
  if !found.1 then
    (.error (.builtin .runtimeError ("Loading " ++ url ++ " is not supported in async mode")),
      found.2)
  else (files.read url, found.2)

end AsyncSafeTransport

namespace PathIsfile

/-- A path that is looked up, by a check or by loading it, and the file system at that time. -/
structure PathLookup where
  path : String
  files : FileSystem

def PathLookup.toLookup (l : PathLookup) : LruCache.Lookup String Bool := ⟨l.path, l.files.isfile⟩

/-- The cache after the lookups. -/
def cacheAfter : List PathLookup → PathCache :=
  List.foldl (fun cache l => (pathIsfile cache l.files l.path).2) LruCache.empty

/-- The paths that were looked up since `path` was, each once. -/
def pathsSince (lookups : List PathLookup) (path : String) : List String :=
  (((lookups.map PathLookup.path).reverse).takeWhile (· ≠ path)).eraseDups

/-- The file system is asked about the path: for the first time, or after too many other paths. -/
def Stats (lookups : List PathLookup) (path : String) : Prop :=
  path ∉ lookups.map PathLookup.path ∨ PATH_CACHE_SIZE ≤ (pathsSince lookups path).length

/-! ### The library's terms -/

theorem cacheAfter_eq (lookups : List PathLookup) :
    cacheAfter lookups = LruCache.after PATH_CACHE_SIZE (lookups.map PathLookup.toLookup) := by
  rw [LruCache.after, List.foldl_map]
  rfl

theorem recent_toLookup (lookups : List PathLookup) :
    LruCache.recent (lookups.map PathLookup.toLookup)
      = (lookups.map PathLookup.path).reverse := by
  rw [LruCache.recent, List.map_map]
  rfl

theorem stats_iff_computes (lookups : List PathLookup) (l : PathLookup) :
    LruCache.Computes PATH_CACHE_SIZE (lookups.map PathLookup.toLookup) l.toLookup ↔
      Stats lookups l.path := by
  rw [LruCache.Computes, LruCache.since, recent_toLookup, List.mem_reverse]
  rfl

/-- **When the file system is asked.** -/
theorem stat_iff (lookups : List PathLookup) (path : String) :
    (cacheAfter lookups).get? path = none ↔ Stats lookups path := by
  rw [cacheAfter_eq, LruCache.get?_after_eq_none_iff, LruCache.since, recent_toLookup,
    List.mem_reverse]
  rfl

/-- The paths that were looked up, each once. -/
def paths (lookups : List PathLookup) : List String :=
  ((lookups.map PathLookup.path).reverse).eraseDups

theorem mem_paths {lookups : List PathLookup} {path : String} :
    path ∈ paths lookups ↔ path ∈ lookups.map PathLookup.path := by
  rw [paths, List.mem_eraseDups, List.mem_reverse]

theorem length_paths_le {lookups lookups' : List PathLookup}
    (h : ∀ l ∈ lookups, l ∈ lookups') : (paths lookups).length ≤ (paths lookups').length := by
  refine (List.subperm_of_subset (LruCache.nodup_eraseDups _) fun path hpath => ?_).length_le
  obtain ⟨l, hl, rfl⟩ := List.mem_map.mp (mem_paths.mp hpath)
  exact mem_paths.mpr (List.mem_map_of_mem (h l hl))

/-- While no more paths are looked up than fit, the file system is asked once about each. -/
theorem not_mem_of_stats {lookups : List PathLookup} {path : String}
    (hfew : (paths lookups).length ≤ PATH_CACHE_SIZE) (h : Stats lookups path) :
    path ∉ lookups.map PathLookup.path := by
  rcases h with h | h
  · exact h
  · intro hmem
    have htake : path ∈ (paths lookups).take PATH_CACHE_SIZE := by
      rw [List.take_of_length_le hfew]
      exact mem_paths.mpr hmem
    have hlt := (LruCache.mem_take_eraseDups (List.mem_reverse.mpr hmem) PATH_CACHE_SIZE).mp htake
    exact absurd h (Nat.not_le.mpr hlt)

/-! ### Loading -/

/-- What loading comes to, when the path was found to be a file or not. -/
def loaded (files : FileSystem) (url : String) (found : Bool) : Except Exc (List UInt8) :=
  if found then files.read url
  else .error (.builtin .runtimeError ("Loading " ++ url ++ " is not supported in async mode"))

theorem load_fst (cache : PathCache) (files : FileSystem) (url : String) :
    (AsyncSafeTransport.load cache files url).1
      = loaded files url (pathIsfile cache files url).1 := by
  rw [AsyncSafeTransport.load, loaded]
  cases (pathIsfile cache files url).1 <;> rfl

/-- **Loading opens the files that the check has seen**: whatever was looked up before, in whatever
states of the file system, what loading comes to is decided by the last time the file system was
asked about the path, which is this time unless it was looked up before and fewer than 128 other
paths since; with no more than 128 paths in all that is the first time. -/
theorem load_serves_seen_files (lookups : List PathLookup) (last : PathLookup) :
    (∃ front l back, lookups ++ [last] = front ++ l :: back ∧ l.path = last.path ∧
      Stats front last.path ∧
      (AsyncSafeTransport.load (cacheAfter lookups) last.files last.path).1
        = loaded last.files last.path (l.files.isfile last.path) ∧
      (∀ between l' rest, back = between ++ l' :: rest → l'.path = last.path →
        ¬Stats (front ++ l :: between) last.path) ∧
      ((paths lookups).length ≤ PATH_CACHE_SIZE → last.path ∉ front.map PathLookup.path))
    ∧ ((∀ l ∈ lookups, l.files.isfile last.path = last.files.isfile last.path) →
      (AsyncSafeTransport.load (cacheAfter lookups) last.files last.path).1
        = loaded last.files last.path (last.files.isfile last.path)) := by
  have hanswer : (pathIsfile (cacheAfter lookups) last.files last.path).1
      = LruCache.answer PATH_CACHE_SIZE (lookups.map PathLookup.toLookup) last.toLookup := by
    rw [cacheAfter_eq]
    rfl
  rw [load_fst, hanswer]
  constructor
  · obtain ⟨front', l', back', hsplit, hpath, hstat, hval, hback⟩ :=
      LruCache.computedLast_answer PATH_CACHE_SIZE (lookups.map PathLookup.toLookup) last.toLookup
    rw [show lookups.map PathLookup.toLookup ++ [last.toLookup]
      = (lookups ++ [last]).map PathLookup.toLookup by rw [List.map_append]; rfl] at hsplit
    obtain ⟨front, rest, hlookups, rfl, hrest⟩ := List.map_eq_append_iff.mp hsplit
    obtain ⟨l, back, rfl, rfl, rfl⟩ := List.map_eq_cons_iff.mp hrest
    have hl : l.path = last.path := hpath
    have hstats : Stats front last.path := hl ▸ (stats_iff_computes front l).mp hstat
    refine ⟨front, l, back, hlookups, hl, hstats, congrArg _ hval, ?_, fun hfew => ?_⟩
    · rintro between l' rest rfl hl' hstats'
      refine hback (between.map PathLookup.toLookup) l'.toLookup (rest.map PathLookup.toLookup)
        (by rw [List.map_append]; rfl) hl' ?_
      have hcomputes := (stats_iff_computes (front ++ l :: between) l').mpr (hl' ▸ hstats')
      rwa [List.map_append] at hcomputes
    · refine not_mem_of_stats ((length_paths_le fun u hu => ?_).trans hfew) hstats
      -- the lookups before `l` are not the last
      rcases List.eq_nil_or_concat back with rfl | ⟨back, u', rfl⟩
      · rwa [(List.append_inj' hlookups rfl).1]
      · rw [List.concat_eq_append, ← List.cons_append, ← List.append_assoc] at hlookups
        rw [(List.append_inj' hlookups rfl).1]
        exact List.mem_append_left _ hu
  · intro hconst
    refine congrArg _ (LruCache.answer_of_constant fun l' hl' _ => ?_)
    obtain ⟨l, hl, rfl⟩ := List.mem_map.mp hl'
    exact hconst l hl

end PathIsfile

end Onvif
