/-
`_get_shared_sqlite_cache` of `onvif/client.py`: the sqlite cache all services share.

The cache is built on first use, in another thread, under an `asyncio.Lock` that is itself made on
first use.  Callers may come and go on in any order: the lock is acquired when it is free, and the
constructor ends when it likes, with a cache or an exception.

* **`getSharedSqliteCache`** — the code;
* **`Refines`**, **`step_refines`** — what callers do is what the callers of a cell that is filled
  once do: there is never a second lock;
* **`sqlite_cache_built_once`** — one constructor call at most succeeds, no two overlap, and what
  callers get.
-/
import OnvifZeep.Exceptions
import OnvifZeep.Callers
import OnvifZeep.Once

namespace Onvif

open Coro

/-- A `SqliteCache` object. -/
structure SqliteCache where
  id : ℕ
deriving DecidableEq

/-- An `asyncio.Lock` object, by its place among those that were made. -/
abbrev LockId : Type := ℕ

/-- The globals of the module, and for each `asyncio.Lock` whether it is held. -/
structure CacheGlobals where
  sharedSqliteCache : Option SqliteCache
  sharedSqliteCacheLock : Option LockId
  locks : List Bool

inductive CacheCall where
  -- `Lock.acquire`, which waits until the lock is free
  | acquire (lock : LockId)
  -- `asyncio.to_thread(SqliteCache)`
  | toThread
deriving DecidableEq

abbrev cacheInterface : Interface where
  Call := CacheCall
  Answer
    | .acquire _ => Unit
    | .toThread => SqliteCache

abbrev CacheCoro (α : Type) : Type := Coro cacheInterface Exc CacheGlobals α

namespace SqliteCache

/-- `asyncio.Lock()`, stored in the module. -/
def createLock : CacheCoro Unit :=
  modifyState fun s =>
    { s with sharedSqliteCacheLock := some s.locks.length, locks := s.locks ++ [false] }

def acquire (lock : LockId) : CacheCoro Unit := do
  call (I := cacheInterface) (.acquire lock)
  modifyState fun s => { s with locks := s.locks.set lock true }

def release (lock : LockId) : CacheCoro Unit := do
  let s ← getState
  if s.locks[lock]? = some true then
    modifyState fun s => { s with locks := s.locks.set lock false }
  else .raise (.builtin .runtimeError "Lock is not acquired.")

/-- `async with lock: body`. -/
def asyncWith (lock : LockId) (body : CacheCoro Unit) : CacheCoro Unit := do
  acquire lock
  tryFinally body fun _ => release lock

/-- The body of the `async with`: the second check, and the constructor. -/
def fillCache : CacheCoro Unit := do
  let s ← getState
  if s.sharedSqliteCache = none then
    let cache ← call (I := cacheInterface) .toThread
    modifyState fun s => { s with sharedSqliteCache := some cache }

def getSharedSqliteCache : CacheCoro (Option SqliteCache) := do
  let s ← getState
  if s.sharedSqliteCache = none then
    if s.sharedSqliteCacheLock = none then createLock
    let s ← getState
    match s.sharedSqliteCacheLock with
    | some lock => asyncWith lock fillCache
    | none => .raise (.builtin .typeError
        "'NoneType' object does not support the asynchronous context manager protocol")
  return (← getState).sharedSqliteCache

/-- How a call is answered: a lock when it is free, and no caller is cancelled. -/
def answers (s : CacheGlobals) : (c : cacheInterface.Call) →
    Except Exc (cacheInterface.Answer c) → Bool
  | .acquire lock, .ok _ => s.locks[lock]? = some false
  | .acquire _, .error _ => false
  | .toThread, _ => true

abbrev CacheCallers : Type := Callers Unit cacheInterface Exc CacheGlobals (Option SqliteCache)

abbrev CacheAction : Type := Callers.Action Unit cacheInterface Exc

def step : CacheCallers → CacheAction → Option CacheCallers :=
  Callers.step (fun _ => getSharedSqliteCache) answers

/-- The module as it is imported, and nobody has called. -/
def initial : CacheCallers := ⟨⟨none, none, []⟩, []⟩

/-! ### The callers of a cell -/

/-- What a caller does once its `acquire` is answered. -/
def afterAcquire (r : Except Exc Unit) : CacheCoro (Option SqliteCache) :=
  ((ofExcept r >>= fun _ => modifyState fun s => { s with locks := s.locks.set 0 true }) >>=
    fun _ => tryFinally fillCache fun _ => release 0) >>= fun _ =>
      getState >>= fun s => pure s.sharedSqliteCache

abbrev CacheStatus : Type := Status cacheInterface Exc CacheGlobals (Option SqliteCache)

def queued : CacheStatus := .waiting (.acquire 0) afterAcquire

def building : CacheStatus := ((afterAcquire (.ok ())).run ⟨none, some 0, [false]⟩).2

/-- Where a caller is, when it got that far. -/
def status : Once.Phase SqliteCache Exc → CacheStatus
  | .queued => queued
  | .building => building
  | .returned cache => .done (.ok (some cache))
  | .raised e => .done (.error e)

/-- What happens to the cell. -/
def seen : CacheAction → Once.Action SqliteCache Exc
  | .call _ => .arrive
  | .resume i (.acquire _) _ => .acquire i
  | .resume i .toThread (.ok cache) => .built i cache
  | .resume i .toThread (.error e) => .failed i e

/-- The callers are those of the cell, and there is one lock, once somebody has called. -/
inductive Refines : Once.Cell SqliteCache Exc → CacheCallers → Prop where
  | initial : Refines Once.empty initial
  | locked (c : Once.Cell SqliteCache Exc) :
      Refines c ⟨⟨c.value, some 0, [c.locked]⟩, c.callers.map fun p => ⟨(), status p⟩⟩

variable {c c' : Once.Cell SqliteCache Exc} {S S' : CacheCallers} {a : CacheAction}
  {as : List CacheAction}

theorem run_getSharedSqliteCache (cache : Option SqliteCache) (held : Bool) :
    getSharedSqliteCache.run ⟨cache, some 0, [held]⟩ = (⟨cache, some 0, [held]⟩,
      match cache with
      | some cache => .done (.ok (some cache))
      | none => queued) := by
  cases cache with
  | none => rfl
  | some cache => rfl

theorem run_afterAcquire (cache : Option SqliteCache) :
    (afterAcquire (.ok ())).run ⟨cache, some 0, [false]⟩ =
      match cache with
      | some cache => (⟨some cache, some 0, [false]⟩, .done (.ok (some cache)))
      | none => (⟨none, some 0, [true]⟩, building) := by
  cases cache with
  | none => rfl
  | some cache => rfl

/-- What the callers come to when a caller of the cell gets from one phase to the next. -/
theorem refines_of_eq {globals : CacheGlobals} {callers : List (Once.Phase SqliteCache Exc)}
    {l : List (Caller Unit cacheInterface Exc CacheGlobals (Option SqliteCache))}
    {value : Option SqliteCache} {held : Bool} (hglobals : globals = ⟨value, some 0, [held]⟩)
    (hl : l = callers.map fun p => ⟨(), status p⟩) :
    Refines ⟨value, held, callers⟩ ⟨globals, l⟩ := by
  rw [hglobals, hl]
  exact Refines.locked ⟨value, held, callers⟩

/-- **The step lemma**: a step of the callers is a step of the cell. -/
theorem step_refines (hR : Refines c S) (hc : Once.Inv c) (h : step S a = some S') :
    ∃ c', Once.Step c (seen a) c' ∧ Refines c' S' := by
  cases a with
  | call arg =>
    obtain rfl := (Callers.step_call (I := cacheInterface)).mp h
    cases hR with
    | initial => exact ⟨_, .queue rfl, Refines.locked ⟨none, false, [.queued]⟩⟩
    | locked =>
      dsimp only
      rw [run_getSharedSqliteCache]
      cases hvalue : c.value with
      | none =>
        refine ⟨_, .queue hvalue, refines_of_eq (by rw [hvalue]) ?_⟩
        rw [List.map_append]
        rfl
      | some cache =>
        refine ⟨_, .found hvalue, refines_of_eq (by rw [hvalue]) ?_⟩
        rw [List.map_append]
        rfl
  | resume i call r =>
    obtain ⟨hanswer, arg, k, hi, rfl⟩ := (Callers.step_resume (I := cacheInterface)).mp h
    cases hR with
    | initial => cases hi
    | locked =>
      rw [List.getElem?_map, Option.map_eq_some_iff] at hi
      obtain ⟨p, hp, hstatus⟩ := hi
      cases p with
      | queued =>
        cases hstatus
        cases r with
        | error e => cases hanswer
        | ok u =>
          obtain rfl : u = () := rfl
          -- the lock was free, so the caller takes it and looks again
          have hfree : c.locked = false := Option.some.inj (of_decide_eq_true hanswer)
          dsimp only
          rw [hfree, run_afterAcquire]
          cases hvalue : c.value with
          | none =>
            refine ⟨_, .build hp hfree hvalue, refines_of_eq (by rw [hvalue]) ?_⟩
            rw [List.map_set]
            rfl
          | some cache =>
            refine ⟨_, .foundLater hp hfree hvalue, refines_of_eq (by rw [hvalue, hfree]) ?_⟩
            rw [List.map_set]
            rfl
      | building =>
        cases hstatus
        have hheld := hc.locked i hp
        have hvalue := hc.vacant i hp
        cases r with
        | ok cache =>
          refine ⟨_, .built hp, refines_of_eq (by rw [hheld, hvalue]; rfl) ?_⟩
          rw [List.map_set, hheld, hvalue]
          rfl
        | error e =>
          refine ⟨_, .failed hp, refines_of_eq (by rw [hheld, hvalue]; rfl) ?_⟩
          rw [List.map_set, hheld, hvalue]
          rfl
      | returned cache => cases hstatus
      | raised e => cases hstatus

/-- **The run lemma**: a run of the callers is a run of the cell. -/
theorem run_refines (hR : Refines c S) (hc : Once.Inv c) (h : Runs.run step S as = some S') :
    ∃ c', Once.Steps c (as.map seen) c' ∧ Refines c' S' := by
  induction as generalizing c S with
  | nil =>
    obtain rfl : S = S' := Option.some.inj h
    exact ⟨c, .nil, hR⟩
  | cons a as ih =>
    obtain ⟨S₁, hstep, h⟩ := Runs.run_cons.mp h
    obtain ⟨c₁, hc₁, hR₁⟩ := step_refines hR hc hstep
    obtain ⟨c', hsteps, hR'⟩ := ih hR₁ (hc₁.inv hc) h
    exact ⟨c', .cons hc₁ hsteps, hR'⟩

theorem Refines.callers_eq (hR : Refines c S) :
    S.callers = c.callers.map fun p => ⟨(), status p⟩ := by
  cases hR with
  | initial => rfl
  | locked => rfl

/-- Where a caller is, seen from the cell. -/
theorem Refines.getElem? (hR : Refines c S) {i : ℕ} {u : Unit} {st : CacheStatus}
    (h : S.callers[i]? = some ⟨u, st⟩) : ∃ p, c.callers[i]? = some p ∧ status p = st := by
  rw [hR.callers_eq, List.getElem?_map, Option.map_eq_some_iff] at h
  obtain ⟨p, hp, hstatus⟩ := h
  exact ⟨p, hp, (Caller.mk.inj hstatus).2⟩

theorem building_of_pending (hR : Refines c S) {i : ℕ} (h : S.Pending i CacheCall.toThread) :
    c.callers[i]? = some .building := by
  obtain ⟨u, k, hi⟩ := h
  obtain ⟨p, hp, hstatus⟩ := hR.getElem? hi
  cases p with
  | building => exact hp
  | queued => cases hstatus
  | returned cache => cases hstatus
  | raised e => cases hstatus

/-! ### The shared cache -/

/-- The constructor calls that succeeded, and what they made. -/
def constructed (as : List CacheAction) : List SqliteCache :=
  as.filterMap fun a =>
    match a with
    | .resume _ .toThread (.ok cache) => some cache
    | _ => none

theorem constructed_eq (as : List CacheAction) :
    (as.map seen).filterMap Once.Action.value = constructed as := by
  rw [List.filterMap_map, constructed]
  congr 1
  funext a
  match a with
  | .call _ => rfl
  | .resume _ (.acquire _) _ => rfl
  | .resume _ .toThread (.ok _) => rfl
  | .resume _ .toThread (.error _) => rfl

theorem mem_of_seen_failed {i : ℕ} {e : Exc} (h : .failed i e ∈ as.map seen) :
    .resume i CacheCall.toThread (.error e) ∈ as := by
  obtain ⟨a, ha, hseen⟩ := List.mem_map.mp h
  match a with
  | .call _ => cases hseen
  | .resume _ (.acquire _) _ => cases hseen
  | .resume _ .toThread (.ok _) => cases hseen
  | .resume _ .toThread (.error _) =>
    cases hseen
    exact ha

/-- **The shared cache is built once**, whatever callers there are and however they interleave:
one constructor call at most succeeds, no two run at a time, every caller that returns gets what
that one made, and a caller raises only what its own constructor call raised. -/
theorem sqlite_cache_built_once (h : Runs.run step initial as = some S) :
    (constructed as).length ≤ 1 ∧
      (∀ i j, S.Pending i CacheCall.toThread → S.Pending j CacheCall.toThread → i = j) ∧
      (∀ i cache, S.Got i () (.ok cache) → ∃ built, cache = some built ∧ constructed as = [built]) ∧
      ∀ i e, S.Got i () (.error e) → .resume i CacheCall.toThread (.error e) ∈ as := by
  obtain ⟨c, hsteps, hR⟩ := run_refines .initial Once.inv_empty h
  have hc := hsteps.inv Once.inv_empty
  have hbuilt : c.value.toList = constructed as := by
    rw [hsteps.built Once.inv_empty, constructed_eq]
    rfl
  refine ⟨?_, fun i j hi hj => ?_, fun i cache hi => ?_, fun i e hi => ?_⟩
  · rw [← hbuilt]
    cases c.value with
    | none => exact Nat.zero_le 1
    | some cache => exact Nat.le_refl 1
  · exact hc.unique i j (building_of_pending hR hi) (building_of_pending hR hj)
  · obtain ⟨p, hp, hstatus⟩ := hR.getElem? hi
    cases p with
    | returned built =>
      cases hstatus
      rw [← hbuilt, hc.returned i built hp]
      exact ⟨built, rfl, rfl⟩
    | queued | building | raised => cases hstatus
  · obtain ⟨p, hp, hstatus⟩ := hR.getElem? hi
    cases p with
    | raised e' =>
      cases hstatus
      rcases hsteps.raised hp with hp | hp
      · cases hp
      · exact mem_of_seen_failed hp
    | queued | building | returned => cases hstatus

/-- Three callers: the constructor fails for the first and succeeds for the second, which the
third has waited for. -/
def threeCalls : List CacheAction :=
  [.call (), .call (), .resume 0 (.acquire 0) (.ok ()), .call (),
    .resume 0 .toThread (.error (.builtin .exception "unable to open database file")),
    .resume 1 (.acquire 0) (.ok ()), .resume 1 .toThread (.ok ⟨7⟩),
    .resume 2 (.acquire 0) (.ok ())]

def threeCallers : CacheCallers where
  shared := ⟨some ⟨7⟩, some 0, [false]⟩
  callers :=
    [⟨(), .done (.error (.builtin .exception "unable to open database file"))⟩,
      ⟨(), .done (.ok (some ⟨7⟩))⟩, ⟨(), .done (.ok (some ⟨7⟩))⟩]

theorem sqlite_cache_built_once_three :
    (constructed threeCalls).length ≤ 1 ∧
      (∀ i j, threeCallers.Pending i CacheCall.toThread →
        threeCallers.Pending j CacheCall.toThread → i = j) ∧
      (∀ i cache, threeCallers.Got i () (.ok cache) →
        ∃ built, cache = some built ∧ constructed threeCalls = [built]) ∧
      ∀ i e, threeCallers.Got i () (.error e) →
        .resume i CacheCall.toThread (.error e) ∈ threeCalls :=
  sqlite_cache_built_once (show Runs.run step initial threeCalls = some threeCallers from rfl)

end SqliteCache

end Onvif
