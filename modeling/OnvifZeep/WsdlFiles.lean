/-
Where the WSDL files are, and that the two checks for them agree.

`get_definition` looks for the file in the cached listing of the camera's WSDL directory;
`ONVIFService.__init__` splits the path it is given and looks in the listing of that directory,
whose name is not always spelled like the camera's.  Without a listing both ask the file system.

* **`splitPath_joinPath`** — a path that was put together comes apart into the file and a directory;
* **`joinPath_normalized`** — which is the same one, spelled as `Path` does;
* **`Faithful.wsdlExists_splitPath`** — the constructor finds what is on disk;
* **`creation_errors_explained`** — everything `create_onvif_service` can fail with, and when.
-/
import OnvifZeep.Registry

namespace Onvif

open Coro

namespace WsdlPath

/-! ### Joining -/

/-- The slashes a path begins with, as `Path` keeps them. -/
def root (chars : List Char) : List Char :=
  let slashes := (chars.takeWhile (· = '/')).length
  if slashes = 2 then ['/', '/'] else if slashes = 0 then [] else ['/']

/-- The components `Path` keeps. -/
def parts (chars : List Char) : List (List Char) :=
  (chars.splitOn '/').filter fun p => p ≠ [] && p ≠ ['.']

/-- The path of a file, by its characters. -/
def joined (root : List Char) (parts : List (List Char)) (file : List Char) : List Char :=
  root ++ ['/'].intercalate (parts ++ [file])

theorem toList_joinPath (dir file : String) :
    (joinPath dir file).toList = joined (root dir.toList) (parts dir.toList) file.toList := by
  have hroot : (if ((dir.toList.takeWhile (· = '/')).length = 2) then "//"
      else if ((dir.toList.takeWhile (· = '/')).length = 0) then "" else "/" : String).toList
      = root dir.toList := by
    rw [root]
    split_ifs <;> rfl
  rw [joinPath, String.toList_append, hroot, String.toList_intercalate, joined, List.map_append,
    List.map_map]
  have hid : (parts dir.toList).map (String.toList ∘ String.ofList) = parts dir.toList :=
    (List.map_congr_left fun p _ => String.toList_ofList).trans (List.map_id _)
  rw [show (dir.toList.splitOn '/').filter (fun p => p ≠ [] && p ≠ ['.']) = parts dir.toList
    from rfl, hid]
  rfl

/-- What a directory's components are like. -/
structure Component (p : List Char) : Prop where
  ne_nil : p ≠ []
  ne_dot : p ≠ ['.']
  no_slash : '/' ∉ p

theorem no_slash_of_mem_splitOn {l p : List Char} (h : p ∈ l.splitOn '/') : '/' ∉ p := by
  induction l generalizing p with
  | nil =>
    rw [List.splitOn_nil, List.mem_singleton] at h
    rw [h]
    exact List.not_mem_nil
  | cons c l ih =>
    rw [List.splitOn_cons_eq_if_modifyHead] at h
    split_ifs at h with hc
    · rcases List.mem_cons.mp h with rfl | h
      · exact List.not_mem_nil
      · exact ih h
    · cases hsplit : l.splitOn '/' with
      | nil => exact absurd hsplit (List.splitOn_ne_nil _ _)
      | cons q qs =>
        rw [hsplit, List.modifyHead_cons] at h
        rcases List.mem_cons.mp h with rfl | h
        · refine List.not_mem_cons_of_ne_of_not_mem (fun hslash => hc (by simp [← hslash])) ?_
          exact ih (hsplit ▸ List.mem_cons_self)
        · exact ih (hsplit ▸ List.mem_cons_of_mem _ h)

theorem component_of_mem_parts {chars p : List Char} (h : p ∈ parts chars) : Component p := by
  obtain ⟨hp, hkeep⟩ := List.mem_filter.mp h
  simp only [ne_eq, decide_not, Bool.and_eq_true, Bool.not_eq_eq_eq_not, Bool.not_true,
    decide_eq_false_iff_not] at hkeep
  exact ⟨hkeep.1, hkeep.2, no_slash_of_mem_splitOn hp⟩

theorem root_cases (chars : List Char) :
    root chars = [] ∨ root chars = ['/'] ∨ root chars = ['/', '/'] := by
  rw [root]
  split_ifs
  · exact Or.inr (Or.inr rfl)
  · exact Or.inl rfl
  · exact Or.inr (Or.inl rfl)

theorem intercalate_snoc (ps : List (List Char)) (file : List Char) :
    ['/'].intercalate (ps ++ [file]) = ps.flatMap (· ++ ['/']) ++ file := by
  induction ps with
  | nil => exact List.intercalate_singleton
  | cons p ps ih =>
    rw [List.cons_append, List.intercalate_cons_of_ne_nil (by simp), ih, List.flatMap_cons]
    simp only [List.append_assoc]

/-! ### Splitting -/

/-- Splitting off what follows the last slash. -/
theorem takeWhile_reverse_append {front file : List Char} (hfile : '/' ∉ file)
    (hfront : front = [] ∨ ∃ front', front = front' ++ ['/']) :
    ((front ++ file).reverse.takeWhile (· ≠ '/')).reverse = file := by
  have hall : ∀ c ∈ file.reverse, decide (c ≠ '/') = true := fun c hc =>
    decide_eq_true fun hslash => hfile (hslash ▸ List.mem_reverse.mp hc)
  have hnone : front.reverse.takeWhile (· ≠ '/') = [] := by
    rcases hfront with rfl | ⟨front', rfl⟩
    · rfl
    · rw [List.reverse_append, List.reverse_singleton, List.singleton_append,
        List.takeWhile_cons_of_neg (by simp)]
  rw [List.reverse_append, List.takeWhile_append_of_pos hall, hnone, List.append_nil,
    List.reverse_reverse]

/-- Dropping the slashes at the end. -/
def rstrip (chars : List Char) : List Char := (chars.reverse.dropWhile (· = '/')).reverse

/-- The directory part of a path, as `os.path.split` gives it. -/
def head (chars : List Char) : List Char := if (rstrip chars).isEmpty then chars else rstrip chars

theorem splitPath_eq {path file : String} {front : List Char}
    (hpath : path.toList = front ++ file.toList) (hfile : '/' ∉ file.toList)
    (hfront : front = [] ∨ ∃ front', front = front' ++ ['/']) :
    splitPath path = (String.ofList (head front), file) := by
  have htail := takeWhile_reverse_append hfile hfront
  rw [← hpath] at htail
  have htake : path.toList.take (path.toList.length - file.toList.length) = front := by
    rw [hpath, List.length_append, Nat.add_sub_cancel, List.take_left]
  rw [splitPath, htail, htake, String.ofList_toList]
  rfl

/-- The directory with these components. -/
def directory (root : List Char) (ps : List (List Char)) : List Char :=
  root ++ ['/'].intercalate ps

theorem getLast_directory {root : List Char} {ps : List (List Char)} (hne : ps ≠ [])
    (hps : ∀ p ∈ ps, Component p) : ∃ front c, directory root ps = front ++ [c] ∧ c ≠ '/' := by
  rcases List.eq_nil_or_concat ps with rfl | ⟨ps, p, rfl⟩
  · exact absurd rfl hne
  · rw [List.concat_eq_append] at hps ⊢
    have hp := hps p (List.mem_append_right _ (List.mem_singleton_self p))
    rcases List.eq_nil_or_concat p with rfl | ⟨front, c, rfl⟩
    · exact absurd rfl hp.ne_nil
    · rw [List.concat_eq_append] at hp ⊢
      refine ⟨root ++ (ps.flatMap (· ++ ['/']) ++ front), c, ?_, fun hc => hp.no_slash ?_⟩
      · rw [directory, intercalate_snoc, List.append_assoc, List.append_assoc]
      · exact List.mem_append_right _ (List.mem_singleton.mpr hc.symm)

theorem rstrip_append_slash {chars : List Char} (h : ∃ front c, chars = front ++ [c] ∧ c ≠ '/') :
    rstrip (chars ++ ['/']) = chars := by
  obtain ⟨front, c, rfl, hc⟩ := h
  rw [rstrip, List.reverse_append, List.reverse_singleton, List.singleton_append,
    List.dropWhile_cons_of_pos (by simp), List.reverse_append, List.reverse_singleton,
    List.singleton_append, List.dropWhile_cons_of_neg (by simpa using hc), List.reverse_cons,
    List.reverse_reverse]

/-- What goes before the file. -/
theorem head_front {root : List Char} (hroot : root = [] ∨ root = ['/'] ∨ root = ['/', '/'])
    {ps : List (List Char)} (hps : ∀ p ∈ ps, Component p) :
    head (root ++ ps.flatMap (· ++ ['/'])) = directory root ps := by
  by_cases hne : ps = []
  · subst hne
    rcases hroot with rfl | rfl | rfl
    all_goals rfl
  · have hfront : root ++ ps.flatMap (· ++ ['/']) = directory root ps ++ ['/'] := by
      obtain ⟨qs, p, rfl⟩ := (List.eq_nil_or_concat ps).resolve_left hne
      rw [List.concat_eq_append, directory, intercalate_snoc, List.flatMap_append,
        List.flatMap_singleton, List.append_assoc, List.append_assoc]
    obtain ⟨front, c, hlast, hc⟩ : ∃ front c, directory root ps = front ++ [c] ∧ c ≠ '/' :=
      getLast_directory hne hps
    rw [head, hfront, rstrip_append_slash ⟨front, c, hlast, hc⟩, if_neg]
    rw [hlast]
    simp

theorem front_cases {root : List Char} (hroot : root = [] ∨ root = ['/'] ∨ root = ['/', '/'])
    (ps : List (List Char)) : root ++ ps.flatMap (· ++ ['/']) = [] ∨
      ∃ front, root ++ ps.flatMap (· ++ ['/']) = front ++ ['/'] := by
  rcases List.eq_nil_or_concat ps with rfl | ⟨ps, p, rfl⟩
  · rw [List.flatMap_nil, List.append_nil]
    rcases hroot with rfl | rfl | rfl
    · exact Or.inl rfl
    · exact Or.inr ⟨[], rfl⟩
    · exact Or.inr ⟨['/'], rfl⟩
  · refine Or.inr ⟨root ++ (ps.flatMap (· ++ ['/']) ++ p), ?_⟩
    rw [List.concat_eq_append, List.flatMap_append, List.flatMap_singleton, List.append_assoc,
      List.append_assoc]

/-- The directory of a camera, spelled as `Path` does. -/
def normalized (dir : String) : String :=
  String.ofList (directory (root dir.toList) (parts dir.toList))

/-- **A path that was put together comes apart** into the directory, spelled as `Path` does, and the
file. -/
theorem splitPath_joinPath (dir : String) {file : String} (hfile : '/' ∉ file.toList) :
    splitPath (joinPath dir file) = (normalized dir, file) := by
  have hps : ∀ p ∈ parts dir.toList, Component p := fun p => component_of_mem_parts
  have hpath : (joinPath dir file).toList
      = (root dir.toList ++ (parts dir.toList).flatMap (· ++ ['/'])) ++ file.toList := by
    rw [toList_joinPath, joined, intercalate_snoc, List.append_assoc]
  rw [splitPath_eq hpath hfile (front_cases (root_cases _) _), head_front (root_cases _) hps]
  rfl

/-! ### The directory again -/

theorem parts_directory {r : List Char} (hr : r = [] ∨ r = ['/'] ∨ r = ['/', '/'])
    {ps : List (List Char)} (hps : ∀ p ∈ ps, Component p) : parts (directory r ps) = ps := by
  have hkeep : ps.filter (fun p => p ≠ [] && p ≠ ['.']) = ps := by
    refine List.filter_eq_self.mpr fun p hp => ?_
    simp [(hps p hp).ne_nil, (hps p hp).ne_dot]
  have hbare : ((['/'].intercalate ps).splitOn '/').filter (fun p => p ≠ [] && p ≠ ['.']) = ps := by
    by_cases hne : ps = []
    · subst hne
      rfl
    · rw [List.splitOn_intercalate '/' (fun p hp => (hps p hp).no_slash) hne, hkeep]
  have hslash : ∀ chars : List Char, (('/' :: chars).splitOn '/').filter
      (fun p => p ≠ [] && p ≠ ['.'])
        = (chars.splitOn '/').filter (fun p => p ≠ [] && p ≠ ['.']) := by
    intro chars
    rw [List.splitOn_cons_eq_if_modifyHead, if_pos (by simp), List.filter_cons_of_neg (by simp)]
  rw [parts, directory]
  rcases hr with rfl | rfl | rfl
  · exact hbare
  · exact (hslash _).trans hbare
  · exact ((hslash _).trans (hslash _)).trans hbare

theorem root_directory {r : List Char} (hr : r = [] ∨ r = ['/'] ∨ r = ['/', '/'])
    {ps : List (List Char)} (hps : ∀ p ∈ ps, Component p) : root (directory r ps) = r := by
  have hstart : (['/'].intercalate ps).takeWhile (· = '/') = [] := by
    cases ps with
    | nil => rfl
    | cons p ps =>
      have hp := hps p List.mem_cons_self
      cases p with
      | nil => exact absurd rfl hp.ne_nil
      | cons c p =>
        have hc : ¬c = '/' := fun hc => hp.no_slash (hc ▸ List.mem_cons_self)
        rw [List.intercalate_cons_cons_left, List.takeWhile_cons_of_neg (by simpa using hc)]
  have hall : ∀ c ∈ r, decide (c = '/') = true := by
    rcases hr with rfl | rfl | rfl
    all_goals simp
  have htake : (directory r ps).takeWhile (· = '/') = r := by
    rw [directory, List.takeWhile_append_of_pos hall, hstart, List.append_nil]
  rw [root, htake]
  rcases hr with rfl | rfl | rfl
  all_goals rfl

/-- **It is the same directory.** -/
theorem joinPath_normalized (dir file : String) :
    joinPath (normalized dir) file = joinPath dir file := by
  have hps : ∀ p ∈ parts dir.toList, Component p := fun p => component_of_mem_parts
  rw [← String.toList_inj, toList_joinPath, toList_joinPath, normalized, String.toList_ofList,
    root_directory (root_cases _) hps, parts_directory (root_cases _) hps]

end WsdlPath

/-! ### The listings -/

/-- What `os.scandir` comes to: the names, and which of them are files. -/
inductive Scan where
  | entries (l : List (String × Bool))
  | fileNotFound
  | osError

/-- `_list_wsdl_dir`. -/
def Scan.listWsdlDir : Scan → Option (List String)
  | .entries l => some ((l.filter fun entry => entry.2).map Prod.fst)
  | .fileNotFound => some []
  | .osError => none

/-- The files on disk: a listing has the files that `os.path.isfile` finds.  (There is no directory
without a name, though the paths of the files in it would be those of the files here.) -/
structure Disk where
  scandir : String → Scan
  isfile : String → Bool
  coherent : ∀ dir files file, dir ≠ "" → '/' ∉ file.toList →
    (scandir dir).listWsdlDir = some files → (file ∈ files ↔ isfile (joinPath dir file))

namespace ONVIFCamera

/-- What is cached of the files is what they are. -/
structure Faithful (D : Disk) (s : ONVIFCamera) : Prop where
  pathIsfile : s.pathIsfile = D.isfile
  listed : ∀ dir files, s.wsdlDirFiles.get? dir = some (some files) →
    ∀ file, '/' ∉ file.toList → (file ∈ files ↔ D.isfile (joinPath dir file))

section Checks

variable {D : Disk} {s s' : ONVIFCamera} {C : CameraConfig}

theorem Faithful.of_eq (h : Faithful D s) (hpath : s'.pathIsfile = s.pathIsfile)
    (hfiles : s'.wsdlDirFiles = s.wsdlDirFiles) : Faithful D s' where
  pathIsfile := hpath.trans h.pathIsfile
  listed := hfiles ▸ h.listed

theorem Faithful.cacheWsdlDir (h : Faithful D s) {dir : String} (hdir : dir ≠ "") :
    Faithful D (s.cacheWsdlDir dir (D.scandir dir).listWsdlDir) where
  pathIsfile := h.pathIsfile
  listed dir' files hfiles file hfile := by
    rw [ONVIFCamera.cacheWsdlDir, Dict.get?_insert] at hfiles
    split_ifs at hfiles with heq
    · subst heq
      exact D.coherent _ files file hdir hfile (Option.some.inj hfiles)
    · exact h.listed dir' files hfiles file hfile

/-- **Every check finds what is on disk.** -/
theorem Faithful.wsdlExists (h : Faithful D s) (dir : String) {file : String}
    (hfile : '/' ∉ file.toList) :
    s.wsdlExists dir file (joinPath dir file) = D.isfile (joinPath dir file) := by
  rw [ONVIFCamera.wsdlExists]
  cases hget : s.wsdlDirFiles.get? dir with
  | none => exact congrFun h.pathIsfile _
  | some files =>
    cases files with
    | none => exact congrFun h.pathIsfile _
    | some files =>
      have hiff := h.listed dir files hget file hfile
      dsimp only
      rw [Bool.eq_iff_iff, decide_eq_true_iff]
      exact hiff

/-- **The check of the constructor** finds the same, under the directory as `Path` spells it. -/
theorem Faithful.wsdlExists_splitPath (h : Faithful D s) (dir : String) {file : String}
    (hfile : '/' ∉ file.toList) :
    s.wsdlExists (splitPath (joinPath dir file)).1 (splitPath (joinPath dir file)).2
      (joinPath dir file) = D.isfile (joinPath dir file) := by
  have hexists := h.wsdlExists (WsdlPath.normalized dir) hfile
  rw [WsdlPath.joinPath_normalized] at hexists
  rw [WsdlPath.splitPath_joinPath dir hfile]
  exact hexists

theorem no_slash_of_lookupService {name : String} {d : ServiceDefinition}
    (h : lookupService name = some d) : '/' ∉ d.wsdl.toList := by
  have hall : ∀ entry ∈ SERVICES, '/' ∉ entry.2.wsdl.toList := by decide
  obtain ⟨front, back, hsplit, -⟩ := List.lookup_eq_some_iff.mp h
  exact hall (name, d) (hsplit ▸ List.mem_append_right _ List.mem_cons_self)

end Checks

/-! ### What creating a service can fail with -/

/-- A listing is of the files on disk. -/
def Honest (D : Disk) : (c : CameraCall) → Except Exc (cameraInterface.Answer c) → Prop
  | .listWsdlDir dir, .ok files => files = (D.scandir dir).listWsdlDir
  | _, _ => True

/-- Nothing but the listing has been done. -/
def OnlyListed (C : CameraConfig) (trace : List CameraEvent) : Prop :=
  ∀ v ∈ trace, v.call = .listWsdlDir C.wsdlDir

theorem OnlyListed.snoc {C : CameraConfig} {trace : List CameraEvent} {v : CameraEvent}
    (h : OnlyListed C trace) (hv : v.call = .listWsdlDir C.wsdlDir) :
    OnlyListed C (trace ++ [v]) := by
  intro u hu
  rcases List.mem_append.mp hu with hu | hu
  · exact h u hu
  · rw [List.mem_singleton.mp hu, hv]

/-- Why creating the service `name` raised, after the events `trace` and in the state `s`. -/
inductive CreationError (C : CameraConfig) (D : Disk) (name : String) (portType : Option String)
    (trace : List CameraEvent) (s : ONVIFCamera) : Exc → Prop where
  | unknownService (hname : lookupService name = none) (hbefore : OnlyListed C trace) :
      CreationError C D name portType trace s (.onvif .onvifError ("Unknown service " ++ name))
  | noSuchFile {d : ServiceDefinition} (hname : lookupService name = some d)
      (hfile : D.isfile (joinPath C.wsdlDir d.wsdl) = false) (hbefore : OnlyListed C trace) :
      CreationError C D name portType trace s
        (.onvif .onvifError ("No such file: " ++ joinPath C.wsdlDir d.wsdl))
  | unsupported {d : ServiceDefinition} (hname : lookupService name = some d)
      (hfile : D.isfile (joinPath C.wsdlDir d.wsdl)) (hne : name ≠ "devicemgmt")
      (haddress : ((s.xaddrs.get? (definitionNamespace d portType)).join.getD "") = "")
      (hbefore : OnlyListed C trace) :
      CreationError C D name portType trace s (.onvif .onvifError
        ("Device doesn`t support service: " ++ name ++ " with namespace "
          ++ definitionNamespace d portType))
  | raised {v : CameraEvent} {e : Exc} (hv : v ∈ trace) (he : v.answer = .error e) :
      CreationError C D name portType trace s e
  -- another call has removed the service while this one was closing it
  | unregistered (hnone : s.services.get? (name, portType) = none) :
      CreationError C D name portType trace s (.builtin .keyError (bindingKeyStr (name, portType)))
  | session {e e' : Exc} (hraises : s.sessionRaises = some e')
      (he : safeFunc (.error e' : Except Exc Unit) = .error e) :
      CreationError C D name portType trace s e

section Creation

variable {D : Disk} {s s' : ONVIFCamera} {C : CameraConfig} {name : String}
  {portType : Option String} {trace : List CameraEvent} {d : ServiceDefinition}

/-- The other users of the camera and of the listings leave them faithful. -/
def KeepsFaithful (D : Disk) (v : CameraEvent) : Prop :=
  (Faithful D v.before → Faithful D v.after) ∧ Honest D v.call v.answer

/-- `get_definition` fails for one of the first three reasons. -/
theorem creationError_of_getDefinition (hs : Faithful D s) (hbefore : OnlyListed C trace) {e : Exc}
    (h : s.getDefinition C name portType = .error e) :
    CreationError C D name portType trace s e := by
  rw [getDefinition] at h
  cases hname : lookupService name with
  | none =>
    rw [hname] at h
    cases h
    exact .unknownService hname hbefore
  | some d =>
    have hexists := hs.wsdlExists C.wsdlDir (no_slash_of_lookupService hname)
    rw [hname] at h
    dsimp only at h
    rw [hexists] at h
    cases hfile : D.isfile (joinPath C.wsdlDir d.wsdl) with
    | false =>
      rw [hfile] at h
      cases h
      exact .noSuchFile hname hfile hbefore
    | true =>
      rw [hfile, if_neg (by simp)] at h
      by_cases hdevice : name = "devicemgmt"
      · rw [if_pos hdevice] at h
        cases h
      · rw [if_neg hdevice] at h
        split at h
        · rename_i xaddr hxaddr
          split_ifs at h with hempty
          cases h
          exact .unsupported hname hfile hdevice (by rw [hxaddr, hempty]; rfl) hbefore
        · rename_i hxaddr
          cases h
          refine .unsupported hname hfile hdevice ?_ hbefore
          rcases hget : s.xaddrs.get? (definitionNamespace d portType) with _ | _ | xaddr
          · rfl
          · rfl
          · exact absurd hget (hxaddr xaddr)

/-- The constructor fails only when no session can be opened. -/
theorem session_of_newService (hs : Faithful D s) {xaddr bindingName : String} {key : BindingKey}
    {readTimeout : Option ℕ} {e : Exc} (hname : lookupService name = some d)
    (hfile : D.isfile (joinPath C.wsdlDir d.wsdl))
    (h : s.newService C xaddr (joinPath C.wsdlDir d.wsdl) bindingName key readTimeout = .error e) :
    ∃ e', s.sessionRaises = some e' ∧ safeFunc (.error e' : Except Exc Unit) = .error e := by
  rw [newService, hs.wsdlExists_splitPath C.wsdlDir (no_slash_of_lookupService hname), hfile,
    if_neg (by simp)] at h
  cases hraises : s.sessionRaises with
  | none =>
    rw [hraises] at h
    cases h
  | some e' =>
    rw [hraises] at h
    refine ⟨e', rfl, ?_⟩
    cases e' <;> cases h <;> rfl

/-- Before anything but the listing. -/
structure Listing (C : CameraConfig) (D : Disk) (trace : List CameraEvent) (s : ONVIFCamera) :
    Prop where
  faithful : Faithful D s
  onlyListed : OnlyListed C trace

/-- How the call may fail. -/
structure CreationFailed (C : CameraConfig) (D : Disk) (name : String) (portType : Option String)
    (e : Exc) (trace : List CameraEvent) (s : ONVIFCamera) : Prop where
  faithful : Faithful D s
  explained : CreationError C D name portType trace s e

theorem CreationFailed.raised {v : CameraEvent} {e : Exc} (hs : Faithful D s)
    (he : v.answer = .error e) :
    CreationFailed C D name portType e (trace ++ [v]) s :=
  ⟨hs, .raised (List.mem_append_right _ (List.mem_singleton_self v)) he⟩

theorem wp_listWsdlDir_listing (hdir : C.wsdlDir ≠ "") (h : Listing C D trace s) :
    wp (recording (KeepsFaithful D)) (Ends (fun _ => Listing C D)
      fun e trace s => CreationFailed C D name portType e trace s ∧ OnlyListed C trace)
      (listWsdlDir C) trace s := by
  rw [ONVIFCamera.listWsdlDir, wp_bind, wp_getState, ends_ok]
  cases s.wsdlDirFiles.get? C.wsdlDir with
  | some files => exact h
  | none =>
    dsimp only
    rw [wp_bind]
    refine (wp_call_recording (I := cameraInterface)).mpr fun r s' hP => ?_
    have hs' := hP.1 h.faithful
    cases r with
    | error e => exact ⟨.raised hs' rfl, h.onlyListed.snoc rfl⟩
    | ok files =>
      obtain rfl : files = (D.scandir C.wsdlDir).listWsdlDir := hP.2
      exact ⟨hs'.cacheWsdlDir hdir, h.onlyListed.snoc rfl⟩

/-- **Every way to fail**, when the service is known and its file is there. -/
def errorOutline (C : CameraConfig) (D : Disk) (name : String) (portType : Option String)
    (hdir : C.wsdlDir ≠ "") (hname : lookupService (lower name) = some d)
    (hfile : D.isfile (joinPath C.wsdlDir d.wsdl)) :
    CreationOutline (recording (KeepsFaithful D)) C name portType where
  idle := Listing C D
  closed _ s := Faithful D s
  vacant _ s := Faithful D s
  returned _ _ s := Faithful D s
  failed := CreationFailed C D (lower name) portType
  listed h := by
    refine ⟨trivial, ?_⟩
    rintro r _ s' ⟨rfl, hkeeps, hhonest⟩
    have hs' := hkeeps h.faithful
    cases r with
    | error e => exact .raised hs' rfl
    | ok files =>
      obtain rfl : files = (D.scandir C.wsdlDir).listWsdlDir := hhonest
      exact ⟨hs'.cacheWsdlDir hdir, h.onlyListed.snoc rfl⟩
  undefined h he := ⟨h.faithful, creationError_of_getDefinition h.faithful h.onlyListed he⟩
  reused h _ := h.faithful
  absent h _ := h.faithful
  closing h _ := by
    refine ⟨trivial, ?_⟩
    rintro r _ s' ⟨rfl, hkeeps, -⟩
    have hs' := hkeeps (h.faithful.of_eq rfl rfl)
    cases r with
    | ok _ => exact hs'
    | error e => exact .raised hs' rfl
  popped h _ := h.of_eq rfl rfl
  notFound h hnone := ⟨h, .unregistered hnone⟩
  built h _ _ := by
    refine ⟨trivial, ?_⟩
    rintro r _ s' ⟨rfl, hkeeps, -⟩
    have hs' := hkeeps (h.of_eq rfl rfl)
    cases r with
    | ok _ => exact hs'.of_eq rfl rfl
    | error e => exact .raised hs' rfl
  notBuilt h hdefined he := by
    obtain ⟨s₀, hdefined⟩ := hdefined
    obtain ⟨d', hd', hpath⟩ := getDefinition_wsdl hdefined
    obtain rfl := Option.some.inj (hname.symm.trans hd')
    rw [hpath] at he
    obtain ⟨e', hraises, he'⟩ := session_of_newService h hname hfile he
    exact ⟨h, .session hraises he'⟩

/-- The service is known and its file is there. -/
def Available (C : CameraConfig) (D : Disk) (name : String) : Prop :=
  ∃ d, lookupService name = some d ∧ D.isfile (joinPath C.wsdlDir d.wsdl)

theorem not_getDefinition_ok (h : ¬Available C D name) (hs : Faithful D s) :
    ∃ e, s.getDefinition C name portType = .error e := by
  rw [getDefinition]
  cases hname : lookupService name with
  | none => exact ⟨_, rfl⟩
  | some d =>
    have hfile : D.isfile (joinPath C.wsdlDir d.wsdl) = false :=
      Bool.eq_false_iff.mpr fun hfile => h ⟨d, hname, hfile⟩
    dsimp only
    rw [hs.wsdlExists C.wsdlDir (no_slash_of_lookupService hname), hfile]
    exact ⟨_, rfl⟩

/-- How the call ends, and that nothing is done for a service that is not available. -/
def Explained (C : CameraConfig) (D : Disk) (name : String) (portType : Option String)
    (r : Except Exc ServiceId) (trace : List CameraEvent) (s : ONVIFCamera) : Prop :=
  Faithful D s ∧ (¬Available C D name → OnlyListed C trace) ∧ match r with
    | .ok _ => Available C D name
    | .error e => CreationError C D name portType trace s e

theorem wp_createOnvifService_explained (hdir : C.wsdlDir ≠ "") (hs : Faithful D s)
    (readTimeout : Option ℕ) :
    wp (recording (KeepsFaithful D)) (Explained C D (lower name) portType)
      (createOnvifService C name portType readTimeout) [] s := by
  have hlisting : Listing C D [] s := ⟨hs, fun _ hv => absurd hv List.not_mem_nil⟩
  by_cases havailable : Available C D (lower name)
  · have hvacuous : ∀ trace, ¬Available C D (lower name) → OnlyListed C trace :=
      fun _ h => absurd havailable h
    obtain ⟨d, hname, hfile⟩ := havailable
    refine wp_mono (fun r trace s hr => ?_) ((errorOutline C D name portType hdir hname
      hfile).wp_createOnvifService hlisting readTimeout)
    cases r with
    | ok _ => exact ⟨hr, hvacuous _, d, hname, hfile⟩
    | error e => exact ⟨hr.faithful, hvacuous _, hr.explained⟩
  · rw [createOnvifService]
    have hlisted : wp (recording (KeepsFaithful D)) (Ends (fun _ => Listing C D)
        fun e trace s => CreationFailed C D (lower name) portType e trace s ∧ OnlyListed C trace)
        (listWsdlDir C) [] s :=
      wp_listWsdlDir_listing hdir hlisting
    refine wp_seq (R := fun _ => Listing C D) (wp_mono (fun r trace s hr => ?_) hlisted) ?_
    · cases r with
      | ok _ => exact hr
      | error e => exact ⟨hr.1.faithful, fun _ => hr.2, hr.1.explained⟩
    · intro _ trace s h
      rw [wp_bind, wp_getState, ends_ok, wp_bind, wp_ofExcept]
      obtain ⟨e, he⟩ : ∃ e, s.getDefinition C (lower name) portType = .error e :=
        not_getDefinition_ok havailable h.faithful
      rw [he]
      exact ⟨h.faithful, fun _ => h.onlyListed,
        creationError_of_getDefinition h.faithful h.onlyListed he⟩

/-- **The two checks for the WSDL file agree**, whatever else uses the camera and the listings: a
service is created only if its file is there, and otherwise nothing but the listing is done; where
it is there, the constructor fails only if no session can be opened.  The listings stay faithful. -/
theorem creation_errors_explained (C : CameraConfig) (D : Disk) (name : String)
    (portType : Option String) (readTimeout : Option ℕ) (w : CameraWorld) (n : ℕ) (s : ONVIFCamera)
    (hdir : C.wsdlDir ≠ "") (hs : Faithful D s)
    (hw : ∀ i c s, (Faithful D s → Faithful D (w i c s).2) ∧ Honest D c (w i c s).1) :
    let run := (createOnvifService C name portType readTimeout).exec w n s
    Explained C D (lower name) portType run.result run.trace run.state := by
  refine wp_exec_recording (wp_createOnvifService_explained hdir hs readTimeout) fun v hv => ?_
  obtain ⟨i, hi⟩ := exec_answered hv
  have hwi := hw i v.call v.before
  rw [hi] at hwi
  exact hwi

/-- A disk with the files of the package. -/
def packageDisk : Disk where
  scandir _ := .entries (SERVICES.map fun entry => (entry.2.wsdl, true))
  isfile path := (splitPath path).2 ∈ SERVICES.map fun entry => entry.2.wsdl
  coherent dir files file _ hfile hfiles := by
    rw [← Option.some.inj hfiles, WsdlPath.splitPath_joinPath dir hfile]
    simp

/-- A camera whose WSDL directory has not been listed yet. -/
def unlistedCamera : ONVIFCamera :=
  { localCamera with
    wsdlDirFiles := Dict.empty
    pathIsfile := packageDisk.isfile }

/-- The directory is listed; the device does not answer. -/
def listingAlone : CameraWorld :=
  deviceAlone fun
    | .listWsdlDir dir => .ok (packageDisk.scandir dir).listWsdlDir
    | _ => .error (.timeoutError "")

/-- **The two checks for the WSDL file agree**, when the media service is not known to be at any
address. -/
theorem creation_errors_explained_media :
    let run := (createOnvifService localConfig "Media" none none).exec listingAlone 0 unlistedCamera
    Explained localConfig packageDisk (lower "Media") none run.result run.trace run.state := by
  refine creation_errors_explained localConfig packageDisk "Media" none none listingAlone 0
    unlistedCamera (by decide) ⟨rfl, fun _ _ h => by cases h⟩ fun i c s => ⟨id, ?_⟩
  cases c with
  | listWsdlDir dir => exact rfl
  | _ => exact trivial

end Creation

end ONVIFCamera

end Onvif
