/-
`_cached_document` of `onvif/client.py`: the WSDL documents all services share.

The cache is looked up before a document is loaded in an executor thread, and filled after.  There
is no lock, so a caller that comes while the document is being loaded loads it again.

* **`cachedDocument`** — the code;
* **`Inv`** — what holds while no caller comes for a document that is being loaded;
* **`document_loaded_once_iff`** — in which runs every document is loaded once.
-/
import OnvifZeep.Exceptions
import OnvifZeep.OrderedDict
import OnvifZeep.Callers

namespace Onvif

open Coro

/-- A `Document` object. -/
structure Document where
  id : ℕ
deriving DecidableEq

inductive DocumentCall where
  -- `loop.run_in_executor(None, _load_document)`
  | loadDocument (url : String)
deriving DecidableEq

abbrev documentInterface : Interface where
  Call := DocumentCall
  Answer _ := Document

/-- `_DOCUMENT_CACHE`. -/
abbrev Documents : Type := Dict String Document

abbrev DocumentCoro (α : Type) : Type := Coro documentInterface Exc Documents α

def cachedDocument (url : String) : DocumentCoro Document := do
  let documents ← getState
  match documents.get? url with
  | some document => return document
  | none =>
    let document ← call (I := documentInterface) (.loadDocument url)
    modifyState fun documents => documents.insert url document
    return document

namespace DocumentCache

/-- All loads succeed. -/
def answers (_ : Documents) : (c : documentInterface.Call) →
    Except Exc (documentInterface.Answer c) → Bool
  | _, .ok _ => true
  | _, .error _ => false

abbrev DocumentCallers : Type := Callers String documentInterface Exc Documents Document

abbrev DocumentAction : Type := Callers.Action String documentInterface Exc

def step : DocumentCallers → DocumentAction → Option DocumentCallers :=
  Callers.step cachedDocument answers

/-- The module as it is imported, and nobody has called. -/
def initial : DocumentCallers := ⟨Dict.empty, []⟩

/-- The document is being loaded for some caller. -/
def Loading (S : DocumentCallers) (url : String) : Prop :=
  ∃ i, S.Pending i (DocumentCall.loadDocument url)

/-- No caller comes for a document that is being loaded. -/
def NoOverlap (S : DocumentCallers) (a : DocumentAction) (_ : DocumentCallers) : Prop :=
  ∀ url, a = .call url → ¬Loading S url

/-- The loads of a run, in the order in which they began. -/
def loads (as : List DocumentAction) : List DocumentCall :=
  Runs.collect step (Callers.begins cachedDocument answers) initial as

variable {S S' : DocumentCallers} {a : DocumentAction} {as : List DocumentAction} {url : String}

/-! ### Segments -/

/-- What a caller does with the document it has loaded. -/
def afterLoad (url : String) (r : Except Exc Document) : DocumentCoro Document :=
  ofExcept r >>= fun document =>
    modifyState (fun documents => documents.insert url document) >>= fun _ => pure document

theorem run_cachedDocument (url : String) (documents : Documents) :
    (cachedDocument url).run documents = (documents,
      match documents.get? url with
      | some document => .done (.ok document)
      | none => .waiting (.loadDocument url) (afterLoad url)) := by
  have hrun : ∀ found : Option Document, Coro.run (match found with
      | some document => (.ret document : DocumentCoro Document)
      | none => call (I := documentInterface) (.loadDocument url) >>= fun document =>
          modifyState (fun documents => documents.insert url document) >>= fun _ =>
            pure document) documents
      = (documents, match found with
        | some document => .done (.ok document)
        | none => .waiting (.loadDocument url) (afterLoad url)) := by
    intro found
    cases found with
    | none => rfl
    | some document => rfl
  exact hrun (documents.get? url)

/-- Where a caller can be. -/
def AtStage (u : Caller String documentInterface Exc Documents Document) : Prop :=
  u.status = .waiting (.loadDocument u.arg) (afterLoad u.arg) ∨
    ∃ document, u.status = .done (.ok document)

/-- **What a step can do**: find the document, begin to load it, or enter it. -/
theorem step_cases (hstages : ∀ u ∈ S.callers, AtStage u) (h : step S a = some S') :
    (∃ url document, a = .call url ∧ S.shared.get? url = some document ∧
      S' = ⟨S.shared, S.callers ++ [⟨url, .done (.ok document)⟩]⟩) ∨
    (∃ url, a = .call url ∧ S.shared.get? url = none ∧
      S' = ⟨S.shared, S.callers ++ [⟨url, .waiting (.loadDocument url) (afterLoad url)⟩]⟩) ∨
    ∃ i url document, a = .resume i (.loadDocument url) (.ok document) ∧
      S.callers[i]? = some ⟨url, .waiting (.loadDocument url) (afterLoad url)⟩ ∧
      S' = ⟨S.shared.insert url document, S.callers.set i ⟨url, .done (.ok document)⟩⟩ := by
  cases a with
  | call url =>
    obtain rfl := (Callers.step_call (I := documentInterface)).mp h
    rw [run_cachedDocument]
    cases hfound : S.shared.get? url with
    | some document => exact Or.inl ⟨url, document, rfl, hfound, rfl⟩
    | none => exact Or.inr (Or.inl ⟨url, rfl, hfound, rfl⟩)
  | resume i c r =>
    obtain ⟨hanswer, url, k, hi, rfl⟩ := (Callers.step_resume (I := documentInterface)).mp h
    rcases hstages _ (List.mem_of_getElem? hi) with hwaiting | ⟨document, hdone⟩
    · dsimp only at hwaiting
      cases hwaiting
      cases r with
      | error e => cases hanswer
      | ok document => exact Or.inr (Or.inr ⟨i, url, document, rfl, hi, rfl⟩)
    · cases hdone

theorem begins_call (S : DocumentCallers) (url : String) :
    Callers.begins cachedDocument answers S (.call url)
      = if S.shared.get? url = none then some (.loadDocument url) else none := by
  rw [Callers.begins_call (I := documentInterface), run_cachedDocument]
  cases S.shared.get? url with
  | none => rfl
  | some document => rfl

/-- A caller whose document was loaded gets it, and waits for nothing more. -/
theorem begins_resume {i : ℕ} {document : Document}
    (hi : S.callers[i]? = some ⟨url, .waiting (.loadDocument url) (afterLoad url)⟩) :
    Callers.begins cachedDocument answers S (.resume i (.loadDocument url) (.ok document)) = none :=
  Callers.begins_resume (I := documentInterface) rfl hi

/-! ### The invariant -/

/-- What holds while no caller comes for a document that is being loaded. -/
structure Inv (S : DocumentCallers) : Prop where
  stages : ∀ u ∈ S.callers, AtStage u
  absent : ∀ url, Loading S url → S.shared.get? url = none
  unique : ∀ i j url, S.Pending i (DocumentCall.loadDocument url) →
    S.Pending j (DocumentCall.loadDocument url) → i = j
  got : ∀ i url document, S.Got i url (.ok document) → S.shared.get? url = some document

theorem inv_initial : Inv initial where
  stages _ h := by cases h
  absent _ h := by
    obtain ⟨i, arg, k, hi⟩ := h
    cases hi
  unique _ _ _ h := by
    obtain ⟨arg, k, hi⟩ := h
    cases hi
  got _ _ _ h := by cases h

/-- A caller waits after a caller came: it waited before, or it came. -/
theorem pending_concat {u : Caller String documentInterface Exc Documents Document} {i : ℕ}
    {c : DocumentCall} {documents : Documents}
    (h : Callers.Pending ⟨documents, S.callers ++ [u]⟩ i c) :
    S.Pending i c ∨ i = S.callers.length ∧ u.status.pending = some c := by
  obtain ⟨arg, k, hi⟩ := h
  rcases Pool.getElem?_concat_eq_some.mp hi with hi | ⟨rfl, rfl⟩
  · exact Or.inl ⟨arg, k, hi⟩
  · exact Or.inr ⟨rfl, rfl⟩

/-- A caller waits after another was done: it waited before. -/
theorem pending_set {arg : String} {r : Except Exc Document} {i j : ℕ} {c : DocumentCall}
    {documents : Documents}
    (h : Callers.Pending ⟨documents, S.callers.set j ⟨arg, .done r⟩⟩ i c) :
    i ≠ j ∧ S.Pending i c := by
  obtain ⟨arg', k, hi⟩ := h
  rcases Pool.getElem?_set_eq_some hi with ⟨-, hu⟩ | ⟨hij, hi⟩
  · cases hu
  · exact ⟨hij, arg', k, hi⟩

theorem got_concat {u : Caller String documentInterface Exc Documents Document} {i : ℕ}
    {r : Except Exc Document} {documents : Documents}
    (h : Callers.Got ⟨documents, S.callers ++ [u]⟩ i url r) :
    S.Got i url r ∨ u = ⟨url, .done r⟩ := by
  rcases Pool.getElem?_concat_eq_some.mp h with h | ⟨-, hu⟩
  · exact Or.inl h
  · exact Or.inr hu.symm

/-- A caller finds its document. -/
theorem Inv.found (hS : Inv S) {document : Document} (hfound : S.shared.get? url = some document) :
    Inv ⟨S.shared, S.callers ++ [⟨url, .done (.ok document)⟩]⟩ := by
  have hbefore : ∀ {j : ℕ} {c : DocumentCall}, Callers.Pending ⟨S.shared,
      S.callers ++ [⟨url, .done (.ok document)⟩]⟩ j c → S.Pending j c := by
    intro j c hj
    rcases pending_concat hj with hj | ⟨-, hc⟩
    · exact hj
    · cases hc
  refine ⟨fun u hu => ?_, fun url' ⟨j, hj⟩ => hS.absent url' ⟨j, hbefore hj⟩,
    fun j k url' hj hk => hS.unique j k url' (hbefore hj) (hbefore hk), fun j url' document' hj => ?_⟩
  · rcases List.mem_append.mp hu with hu | hu
    · exact hS.stages u hu
    · rw [List.mem_singleton.mp hu]
      exact Or.inr ⟨document, rfl⟩
  · rcases got_concat hj with hj | hj
    · exact hS.got j url' document' hj
    · cases hj
      exact hfound

/-- A caller begins to load a document that nobody is loading: it is the only one that does. -/
theorem Inv.begin (hS : Inv S) (hnone : S.shared.get? url = none) (hidle : ¬Loading S url) :
    Inv ⟨S.shared, S.callers ++ [⟨url, .waiting (.loadDocument url) (afterLoad url)⟩]⟩ := by
  have hnew : ∀ {j : ℕ} {url' : String}, Callers.Pending ⟨S.shared, S.callers ++
      [⟨url, .waiting (.loadDocument url) (afterLoad url)⟩]⟩ j (DocumentCall.loadDocument url') →
      S.Pending j (DocumentCall.loadDocument url') ∧ url' ≠ url ∨
        j = S.callers.length ∧ url' = url := by
    intro j url' hj
    rcases pending_concat hj with hbefore | ⟨hlast, hc⟩
    · left
      refine ⟨hbefore, ?_⟩
      rintro rfl
      exact hidle ⟨j, hbefore⟩
    · cases hc
      exact Or.inr ⟨hlast, rfl⟩
  refine ⟨fun u hu => ?_, fun url' ⟨j, hj⟩ => ?_, fun j k url' hj hk => ?_,
    fun j url' document' hj => ?_⟩
  · rcases List.mem_append.mp hu with hu | hu
    · exact hS.stages u hu
    · rw [List.mem_singleton.mp hu]
      exact Or.inl rfl
  · rcases hnew hj with ⟨hj, -⟩ | ⟨-, rfl⟩
    · exact hS.absent url' ⟨j, hj⟩
    · exact hnone
  · -- two callers that load one document: both waited before, or both are the new one
    rcases hnew hj with ⟨hj, hne⟩ | ⟨hj, heq⟩
    · rcases hnew hk with ⟨hk, -⟩ | ⟨-, heq⟩
      · exact hS.unique j k url' hj hk
      · exact (hne heq).elim
    · rcases hnew hk with ⟨-, hne⟩ | ⟨hk, -⟩
      · exact (hne heq).elim
      · exact hj.trans hk.symm
  · rcases got_concat hj with hj | hj
    · exact hS.got j url' document' hj
    · cases hj

/-- The caller that loads a document fills the cache. -/
theorem Inv.loaded (hS : Inv S) {i : ℕ} (document : Document)
    (hi : S.callers[i]? = some ⟨url, .waiting (.loadDocument url) (afterLoad url)⟩) :
    Inv ⟨S.shared.insert url document, S.callers.set i ⟨url, .done (.ok document)⟩⟩ := by
  have hloading : Loading S url := ⟨i, url, afterLoad url, hi⟩
  refine ⟨fun u hu => ?_, fun url' ⟨j, hj⟩ => ?_,
    fun j k url' hj hk => hS.unique j k url' (pending_set hj).2 (pending_set hk).2,
    fun j url' document' hj => ?_⟩
  · rcases List.mem_or_eq_of_mem_set hu with hu | rfl
    · exact hS.stages u hu
    · exact Or.inr ⟨document, rfl⟩
  · -- the caller that is done was the only one that loaded its document
    obtain ⟨hji, hbefore⟩ := pending_set hj
    have hne : url' ≠ url := by
      rintro rfl
      exact hji (hS.unique j i url' hbefore ⟨url', afterLoad url', hi⟩)
    exact (Dict.get?_insert_of_ne S.shared document hne).trans (hS.absent url' ⟨j, hbefore⟩)
  · rcases Pool.getElem?_set_eq_some hj with ⟨-, hu⟩ | ⟨-, hj⟩
    · cases hu
      exact Dict.get?_insert_self S.shared url document
    · have hgot := hS.got j url' document' hj
      have hne : url' ≠ url := by
        rintro rfl
        rw [hS.absent url' hloading] at hgot
        cases hgot
      exact (Dict.get?_insert_of_ne S.shared document hne).trans hgot

/-- **The step lemma**: the invariant is kept, as long as no caller comes for a document that is
being loaded. -/
theorem Inv.step (hS : Inv S) (h : step S a = some S') (hR : NoOverlap S a S') : Inv S' := by
  rcases step_cases hS.stages h with ⟨url, document, rfl, hfound, rfl⟩ | ⟨url, rfl, hnone, rfl⟩ |
    ⟨i, url, document, rfl, hi, rfl⟩
  · exact hS.found hfound
  · exact hS.begin hnone fun hloading => hR url rfl hloading
  · exact hS.loaded document hi

/-! ### Loads -/

/-- The document is being loaded or is in the cache. -/
def Begun (S : DocumentCallers) (url : String) : Prop :=
  Loading S url ∨ ∃ document, S.shared.get? url = some document

/-- A document whose load has begun stays so. -/
theorem begun_of_step (hS : Inv S) (h : step S a = some S') (hbegun : Begun S url) :
    Begun S' url := by
  have hlater : ∀ {u : Caller String documentInterface Exc Documents Document} {i : ℕ},
      S.Pending i (DocumentCall.loadDocument url) →
      Callers.Pending ⟨S.shared, S.callers ++ [u]⟩ i (DocumentCall.loadDocument url) := by
    rintro u i ⟨arg, k, hi⟩
    exact ⟨arg, k, Pool.getElem?_append_of_some hi⟩
  rcases step_cases hS.stages h with ⟨url', document, rfl, hfound, rfl⟩ | ⟨url', rfl, hnone, rfl⟩ |
    ⟨i, url', document, rfl, hi, rfl⟩
  · rcases hbegun with ⟨j, hj⟩ | hcached
    · exact Or.inl ⟨j, hlater hj⟩
    · exact Or.inr hcached
  · rcases hbegun with ⟨j, hj⟩ | hcached
    · exact Or.inl ⟨j, hlater hj⟩
    · exact Or.inr hcached
  · by_cases hurl : url = url'
    · subst hurl
      exact Or.inr ⟨document, Dict.get?_insert_self S.shared url document⟩
    · rcases hbegun with ⟨j, arg, k, hj⟩ | ⟨document', hcached⟩
      · have hij : j ≠ i := by
          rintro rfl
          cases hi.symm.trans hj
          exact hurl rfl
        exact Or.inl ⟨j, arg, k, (List.getElem?_set_ne (Ne.symm hij)).trans hj⟩
      · exact Or.inr ⟨document', (Dict.get?_insert_of_ne S.shared document hurl).trans hcached⟩

/-- A load begins for a document that nobody has begun to load. -/
theorem begun_of_begins (hS : Inv S) (h : step S a = some S') (hR : NoOverlap S a S')
    (hbegins : Callers.begins cachedDocument answers S a = some (.loadDocument url)) :
    ¬Begun S url ∧ Begun S' url := by
  rcases step_cases hS.stages h with ⟨url', document, rfl, hfound, rfl⟩ | ⟨url', rfl, hnone, rfl⟩ |
    ⟨i, url', document, rfl, hi, rfl⟩
  · rw [begins_call, hfound] at hbegins
    cases hbegins
  · rw [begins_call, if_pos hnone] at hbegins
    cases hbegins
    refine ⟨?_, Or.inl ⟨S.callers.length, url, afterLoad url, List.getElem?_concat_length⟩⟩
    rintro (hloading | ⟨document, hcached⟩)
    · exact hR url rfl hloading
    · rw [hnone] at hcached
      cases hcached
  · rw [begins_resume hi] at hbegins
    cases hbegins

/-- A caller that comes for a document that is being loaded loads it again. -/
theorem loads_twice {as₁ : List DocumentAction} {S₁ S₂ : DocumentCallers} (hS : Inv S₁)
    (hrun : Runs.run step initial as₁ = some S₁) (hstep : step S₁ (.call url) = some S₂)
    (hloading : Loading S₁ url) (as₂ : List DocumentAction) :
    2 ≤ (loads (as₁ ++ .call url :: as₂)).count (.loadDocument url) := by
  obtain ⟨i, hi⟩ := hloading
  have hmem : DocumentCall.loadDocument url ∈ loads as₁ := by
    rcases Callers.pending_begun hrun hi with ⟨arg, k, hnobody⟩ | hmem
    · cases hnobody
    · exact hmem
  have hbegins := begins_call S₁ url
  rw [if_pos (hS.absent url ⟨i, hi⟩)] at hbegins
  rw [loads, Runs.collect_append hrun, Runs.collect_cons hstep, hbegins, List.count_append,
    List.count_append, Option.toList_some, List.count_singleton_self]
  have hone : 0 < (loads as₁).count (.loadDocument url) := List.count_pos_iff.mpr hmem
  rw [loads] at hone
  omega

/-- **Every document is loaded once**, and all callers get the same, in exactly the runs in which
no caller comes for a document that is being loaded. -/
theorem document_loaded_once_iff (h : Runs.run step initial as = some S) :
    (∀ url, (loads as).count (.loadDocument url) ≤ 1 ∧ ∀ i j document document',
      S.Got i url (.ok document) → S.Got j url (.ok document') → document = document') ↔
      Runs.Along step NoOverlap initial as := by
  constructor
  · intro honce
    by_contra hdisturbed
    -- until the first caller that comes too early the invariant holds
    obtain ⟨as₁, a, as₂, S₁, S₂, rfl, halong, hrun, hstep, hnot⟩ :=
      Runs.exists_first_violation hdisturbed
    have hS := Runs.run_invariant (fun _ _ _ => Inv.step) inv_initial halong hrun
    rw [NoOverlap] at hnot
    push Not at hnot
    obtain ⟨url, rfl, hloading⟩ := hnot
    have htwice := loads_twice hS hrun hstep hloading as₂
    have hurl := (honce url).1
    omega
  · intro halong url
    have hS := Runs.run_invariant (fun _ _ _ => Inv.step) inv_initial halong h
    refine ⟨?_, fun i j document document' hi hj => ?_⟩
    · exact Runs.count_collect_le_one (P := fun S => Begun S url) (fun _ _ _ => Inv.step)
        (fun _ _ _ hS hstep _ => begun_of_step hS hstep) (fun _ _ _ => begun_of_begins)
        inv_initial halong
    · have hdocument := hS.got i url document hi
      rw [hS.got j url document' hj] at hdocument
      exact (Option.some.inj hdocument).symm

/-- Two callers one after the other, and one for another document meanwhile. -/
def calls : List DocumentAction :=
  [.call "wsdl/ptz.wsdl", .call "wsdl/media.wsdl",
    .resume 0 (.loadDocument "wsdl/ptz.wsdl") (.ok ⟨0⟩), .call "wsdl/ptz.wsdl",
    .resume 1 (.loadDocument "wsdl/media.wsdl") (.ok ⟨1⟩)]

def callers : DocumentCallers where
  shared := (Dict.empty.insert "wsdl/ptz.wsdl" ⟨0⟩).insert "wsdl/media.wsdl" ⟨1⟩
  callers :=
    [⟨"wsdl/ptz.wsdl", .done (.ok ⟨0⟩)⟩, ⟨"wsdl/media.wsdl", .done (.ok ⟨1⟩)⟩,
      ⟨"wsdl/ptz.wsdl", .done (.ok ⟨0⟩)⟩]

/-- Two callers at a time for one document. -/
def overlapping : List DocumentAction :=
  [.call "wsdl/ptz.wsdl", .call "wsdl/ptz.wsdl",
    .resume 0 (.loadDocument "wsdl/ptz.wsdl") (.ok ⟨0⟩),
    .resume 1 (.loadDocument "wsdl/ptz.wsdl") (.ok ⟨1⟩)]

def overlappingCallers : DocumentCallers where
  shared := (Dict.empty.insert "wsdl/ptz.wsdl" ⟨0⟩).insert "wsdl/ptz.wsdl" ⟨1⟩
  callers := [⟨"wsdl/ptz.wsdl", .done (.ok ⟨0⟩)⟩, ⟨"wsdl/ptz.wsdl", .done (.ok ⟨1⟩)⟩]

theorem noOverlap_call (h : ∀ u ∈ S.callers, u.status.pending ≠ some (.loadDocument url)) :
    NoOverlap S (.call url) S' := by
  rintro _ ⟨⟩ ⟨i, arg, k, hi⟩
  exact h _ (List.mem_of_getElem? hi) rfl

theorem noOverlap_resume {i : ℕ} {c : DocumentCall} {r : Except Exc (documentInterface.Answer c)} :
    NoOverlap S (.resume i c r) S' := by
  rintro _ ⟨⟩

theorem noOverlap_calls : Runs.Along step NoOverlap initial calls := by
  refine Runs.Along.cons rfl (noOverlap_call ?_) (Runs.Along.cons rfl (noOverlap_call ?_)
    (Runs.Along.cons rfl noOverlap_resume (Runs.Along.cons rfl (noOverlap_call ?_)
      (Runs.Along.cons rfl noOverlap_resume trivial))))
  · decide
  · decide
  · decide

/-- The callers of `calls` get each document from one load, the overlapping ones do not. -/
theorem document_loaded_once_iff_calls :
    (∀ url, (loads calls).count (.loadDocument url) ≤ 1 ∧ ∀ i j document document',
      callers.Got i url (.ok document) → callers.Got j url (.ok document') →
        document = document') ∧
    ¬∀ url, (loads overlapping).count (.loadDocument url) ≤ 1 ∧ ∀ i j document document',
      overlappingCallers.Got i url (.ok document) → overlappingCallers.Got j url (.ok document') →
        document = document' := by
  have hcalls : Runs.run step initial calls = some callers := rfl
  have hoverlapping : Runs.run step initial overlapping = some overlappingCallers := rfl
  refine ⟨(document_loaded_once_iff hcalls).mpr noOverlap_calls, ?_⟩
  rw [document_loaded_once_iff hoverlapping]
  intro halong
  have hsecond := ((halong _ rfl).2 _ rfl).1
  exact hsecond "wsdl/ptz.wsdl" rfl ⟨0, _, _, rfl⟩

/-- Two callers at a time load a document twice, and get one each. -/
theorem document_loaded_twice :
    ¬∀ (as : List DocumentAction) (S : DocumentCallers), Runs.run step initial as = some S →
      ∀ url, (loads as).count (.loadDocument url) ≤ 1 ∧ ∀ i j document document',
        S.Got i url (.ok document) → S.Got j url (.ok document') → document = document' := by
  intro h
  have hrun : Runs.run step initial overlapping = some overlappingCallers := rfl
  have hsame := (h _ _ hrun "wsdl/ptz.wsdl").2 0 1 ⟨0⟩ ⟨1⟩ rfl rfl
  cases hsame

end DocumentCache

end Onvif
