/-
`onvif/util.py`: credentials in URLs.

A URL has them before its host and in its query.  `strip_user_pass_url` removes them, and
`obscure_user_pass_url` puts asterisks for them.  Both take the URL apart with yarl, which is a
parameter here (`Yarl`): it splits a URL into its components and puts it together again.  The
query is a list of names and values; names are compared as they are written in a query, and
without regard to case in a `CIMultiDict`.

* **`stripUserPassUrl_eq`**, **`obscureUserPassUrl_eq`** — what both functions make of the
  components; neither raises.
-/
import OnvifZeep.Client

namespace Onvif

/-! ### URLs by component -/

/-- What stands between `//` and the path. -/
structure Authority where
  user : Option String
  password : Option String
  host : String
  port : Option ℕ
deriving DecidableEq

/-- The names and values of a query, in order. -/
abbrev Query : Type := List (String × String)

/-- `yarl.URL`. -/
structure YarlUrl where
  scheme : String
  authority : Option Authority
  path : String
  query : Query
  fragment : String
deriving DecidableEq

namespace YarlUrl

def user (p : YarlUrl) : Option String := p.authority.bind fun a => a.user

def password (p : YarlUrl) : Option String := p.authority.bind fun a => a.password

/-- `with_user(None)`, which takes the password too. -/
def withoutUser (p : YarlUrl) : YarlUrl :=
  { p with authority := p.authority.map fun a => { a with user := none, password := none } }

def withUser (p : YarlUrl) (user : String) : YarlUrl :=
  { p with authority := p.authority.map fun a => { a with user := some user } }

def withPassword (p : YarlUrl) (password : String) : YarlUrl :=
  { p with authority := p.authority.map fun a => { a with password := some password } }

def withQuery (p : YarlUrl) (query : Query) : YarlUrl := { p with query := query }

/-- The URL with its user name and password blanked, and the values of all parameters. -/
def frame (p : YarlUrl) : YarlUrl :=
  { p with
    authority := p.authority.map fun a =>
      { a with user := a.user.map fun _ => "", password := a.password.map fun _ => "" }
    query := p.query.map fun kv => (kv.1, "") }

end YarlUrl

/-- What the module uses of yarl. -/
structure Yarl where
  -- `URL(url)`
  parse : String → Except Exc YarlUrl
  -- `str(url)`
  str : YarlUrl → String

/-- Putting a URL together shows its user name, its password and the values of its query. -/
def Yarl.Rebuilds (Y : Yarl) : Prop := ∀ p q : YarlUrl, p.frame = q.frame → Y.str p = Y.str q → p = q

/-- `_CREDENTIAL_KEYS`. -/
def CREDENTIAL_KEYS : List String := ["username", "password", "user", "pass"]

/-- What stands for a credential. -/
def OBSCURED : String := "********"

/-- Neither absent nor empty. -/
def truthy (s : Option String) : Bool := s.any (· ≠ "")

/-- `key in query`. -/
def hasKey (query : Query) (key : String) : Bool := query.any fun kv => kv.1 = key

namespace CIMultiDict

/-- The names are one without regard to case. -/
def sameKey (key : String) (kv : String × String) : Bool := lower kv.1 = lower key

def popall (key : String) (items : Query) : Except Exc Query :=
  if items.any (sameKey key) then .ok (items.filter (!sameKey key ·))
  else .error (.builtin .keyError s!"'{key}'")

/-- `items[key] = value`: the first entry is replaced and the others go. -/
def setitem (key value : String) (items : Query) : Query :=
  match items.findIdx? (sameKey key) with
  | some i => items.take i ++ (key, value) :: (items.drop (i + 1)).filter (!sameKey key ·)
  | none => items ++ [(key, value)]

end CIMultiDict

/-- The loop over the keys of credentials: those in the query are edited in a copy, which is made
when the first is found. -/
def editCredentials (edit : String → Query → Except Exc Query) (query : Query) :
    Except Exc (Option Query) :=
  CREDENTIAL_KEYS.foldlM (fun newQuery key =>
    if hasKey query key then (edit key (newQuery.getD query)).map some else .ok newQuery) none

def stripUserPassUrl (Y : Yarl) (url : String) : Except Exc String := do
  let parsed ← Y.parse url
  let parsed := if truthy parsed.user || truthy parsed.password then parsed.withoutUser else parsed
  match ← editCredentials CIMultiDict.popall parsed.query with
  | some newQuery => return Y.str (parsed.withQuery newQuery)
  | none => return Y.str parsed

def obscureUserPassUrl (Y : Yarl) (url : String) : Except Exc String := do
  let parsed ← Y.parse url
  let parsed :=
    if truthy parsed.user then
      if truthy parsed.password then parsed.withPassword OBSCURED else parsed.withUser OBSCURED
    else parsed
  match ← editCredentials (fun key items => (CIMultiDict.popall key items).map
    (CIMultiDict.setitem key OBSCURED)) parsed.query with
  | some newQuery => return Y.str (parsed.withQuery newQuery)
  | none => return Y.str parsed

/-! ### What is left of a query -/

/-- The keys of credentials among the names of the query, as they are written. -/
def presentKeys (query : Query) : List String := CREDENTIAL_KEYS.filter (hasKey query)

/-- The entries with none of the names, whatever their case. -/
def without (keys : List String) (query : Query) : Query :=
  query.filter fun kv => lower kv.1 ∉ keys

/-- The query with its credentials removed. -/
def strippedQuery (query : Query) : Query := without (presentKeys query) query

/-- The entries that stand for keys. -/
def obscuredEntries (keys : List String) : Query := keys.map fun key => (key, OBSCURED)

/-- The query with its credentials obscured. -/
def obscuredQuery (query : Query) : Query :=
  strippedQuery query ++ obscuredEntries (presentKeys query)

theorem lower_of_mem_keys {key : String} (h : key ∈ CREDENTIAL_KEYS) : lower key = key := by
  have hall : ∀ key ∈ CREDENTIAL_KEYS, lower key = key := by decide +kernel
  exact hall key h

theorem without_nil (query : Query) : without [] query = query :=
  List.filter_eq_self.mpr fun _ _ => decide_eq_true List.not_mem_nil

/-- What the loop has made after it found some keys. -/
def edited (value : List String → Query) (found : List String) : Option Query :=
  if found = [] then none else some (value found)

theorem edited_concat (value : List String → Query) (found : List String) (key : String) :
    edited value (found ++ [key]) = some (value (found ++ [key])) :=
  if_neg (List.append_ne_nil_of_right_ne_nil _ (List.cons_ne_nil _ _))

section Loop

variable {edit : String → Query → Except Exc Query} {query : Query} {value : List String → Query}
  (hnil : value [] = query)
  (hstep : ∀ found key, (∀ k ∈ found, k ∈ CREDENTIAL_KEYS) → key ∈ CREDENTIAL_KEYS → key ∉ found →
    hasKey query key = true → edit key (value found) = .ok (value (found ++ [key])))

include hnil hstep

/-- The loop from a key on, when it has found some keys before. -/
theorem foldlM_edit (keys found : List String) (hkeys : ∀ k ∈ found ++ keys, k ∈ CREDENTIAL_KEYS)
    (hnodup : (found ++ keys).Nodup) :
    keys.foldlM (fun newQuery key =>
      if hasKey query key then (edit key (newQuery.getD query)).map some else .ok newQuery)
        (edited value found) = .ok (edited value (found ++ keys.filter (hasKey query))) := by
  induction keys generalizing found with
  | nil => rw [List.filter_nil, List.append_nil]; rfl
  | cons key keys ih =>
    rw [List.foldlM_cons]
    by_cases hkey : hasKey query key = true
    · have hnew : found ++ key :: keys = found ++ [key] ++ keys := by simp
      have hget : (edited value found).getD query = value found := by
        rw [edited]
        by_cases hfound : found = []
        · rw [if_pos hfound, hfound, hnil]
          rfl
        · rw [if_neg hfound]
          rfl
      have hmem : key ∉ found := fun hmem =>
        (List.nodup_append.mp hnodup).2.2 key hmem key List.mem_cons_self rfl
      have hedit := hstep found key (fun k hk => hkeys k (List.mem_append_left _ hk))
        (hkeys key (List.mem_append_right _ List.mem_cons_self)) hmem hkey
      rw [hnew] at hkeys hnodup
      rw [if_pos hkey, hget, hedit, List.filter_cons_of_pos hkey]
      show List.foldlM _ (some (value (found ++ [key]))) keys = _
      rw [← edited_concat, ih _ hkeys hnodup, List.append_assoc]
      rfl
    · have hkeys' : ∀ k ∈ found ++ keys, k ∈ CREDENTIAL_KEYS := fun k hk => hkeys k (by
        rcases List.mem_append.mp hk with hk | hk
        · exact List.mem_append_left _ hk
        · exact List.mem_append_right _ (List.mem_cons_of_mem _ hk))
      have hnodup' : (found ++ keys).Nodup :=
        hnodup.sublist (List.Sublist.append_left (List.sublist_cons_self _ _) _)
      rw [if_neg hkey, List.filter_cons_of_neg hkey]
      exact ih _ hkeys' hnodup'

/-- **The loop** edits the keys that are there, one after the other. -/
theorem editCredentials_eq :
    editCredentials edit query = .ok (edited value (presentKeys query)) :=
  foldlM_edit hnil hstep CREDENTIAL_KEYS [] (fun _ hk => hk) (by decide)

end Loop

theorem sameKey_iff {key : String} (hkey : key ∈ CREDENTIAL_KEYS) (kv : String × String) :
    CIMultiDict.sameKey key kv = true ↔ lower kv.1 = key := by
  rw [CIMultiDict.sameKey, lower_of_mem_keys hkey, decide_eq_true_iff]

theorem without_concat (keys : List String) {key : String} (hkey : key ∈ CREDENTIAL_KEYS)
    (query : Query) :
    (without keys query).filter (!CIMultiDict.sameKey key ·) = without (keys ++ [key]) query := by
  rw [without, without, List.filter_filter]
  refine List.filter_congr fun kv _ => ?_
  rw [Bool.eq_iff_iff, Bool.and_eq_true, Bool.not_eq_true', Bool.eq_false_iff, Ne,
    sameKey_iff hkey, decide_eq_true_iff, decide_eq_true_iff, List.mem_append, List.mem_singleton,
    not_or, and_comm]

/-- A key of the query that was not found yet is still in the copy. -/
theorem any_sameKey_without {found : List String} {key : String} {query : Query}
    (hkey : key ∈ CREDENTIAL_KEYS) (hfound : key ∉ found) (h : hasKey query key = true) :
    (without found query).any (CIMultiDict.sameKey key) = true := by
  obtain ⟨kv, hmem, hkv⟩ := List.any_eq_true.mp h
  have hname : lower kv.1 = key := by rw [of_decide_eq_true hkv, lower_of_mem_keys hkey]
  refine List.any_eq_true.mpr ⟨kv, List.mem_filter.mpr ⟨hmem, ?_⟩, (sameKey_iff hkey kv).mpr hname⟩
  rw [hname]
  exact decide_eq_true hfound

theorem popall_without {found : List String} {key : String} {query : Query}
    (hkey : key ∈ CREDENTIAL_KEYS) (hfound : key ∉ found) (h : hasKey query key = true) :
    CIMultiDict.popall key (without found query) = .ok (without (found ++ [key]) query) := by
  rw [CIMultiDict.popall, if_pos (any_sameKey_without hkey hfound h), without_concat found hkey]

/-- **Stripping a query** removes the keys that are there, in every case. -/
theorem editCredentials_popall (query : Query) :
    editCredentials CIMultiDict.popall query
      = .ok (edited (fun found => without found query) (presentKeys query)) :=
  editCredentials_eq (without_nil query) fun _ _ _ hkey hfound h => popall_without hkey hfound h

theorem not_sameKey_obscuredEntries {found : List String} {key : String}
    (hfound : ∀ k ∈ found, k ∈ CREDENTIAL_KEYS) (hkey : key ∈ CREDENTIAL_KEYS) (hmem : key ∉ found) :
    ∀ kv ∈ obscuredEntries found, CIMultiDict.sameKey key kv = false := by
  intro kv hkv
  obtain ⟨k, hk, rfl⟩ := List.mem_map.mp hkv
  rw [Bool.eq_false_iff, Ne, sameKey_iff hkey, lower_of_mem_keys (hfound k hk)]
  exact fun heq => hmem (heq ▸ hk)

/-- A key that was popped is set at the end. -/
theorem setitem_of_popped {key value : String} {items : Query}
    (h : ∀ kv ∈ items, CIMultiDict.sameKey key kv = false) :
    CIMultiDict.setitem key value items = items ++ [(key, value)] := by
  rw [CIMultiDict.setitem, List.findIdx?_eq_none_iff.mpr h]

theorem editCredentials_obscure (query : Query) :
    editCredentials (fun key items => (CIMultiDict.popall key items).map
      (CIMultiDict.setitem key OBSCURED)) query
      = .ok (edited (fun found => without found query ++ obscuredEntries found)
        (presentKeys query)) := by
  refine editCredentials_eq (by simp [without_nil, obscuredEntries])
    fun found key hfound hkey hmem h => ?_
  have hentries := not_sameKey_obscuredEntries hfound hkey hmem
  have hkept : (obscuredEntries found).filter (!CIMultiDict.sameKey key ·) = obscuredEntries found :=
    List.filter_eq_self.mpr fun kv hkv => by rw [hentries kv hkv]; rfl
  have hpopall : CIMultiDict.popall key (without found query ++ obscuredEntries found)
      = .ok (without (found ++ [key]) query ++ obscuredEntries found) := by
    have hany : (without found query ++ obscuredEntries found).any (CIMultiDict.sameKey key)
        = true := by
      rw [List.any_append, any_sameKey_without hkey hmem h, Bool.true_or]
    rw [CIMultiDict.popall, if_pos hany, List.filter_append, without_concat found hkey, hkept]
  have hpopped : ∀ kv ∈ without (found ++ [key]) query ++ obscuredEntries found,
      CIMultiDict.sameKey key kv = false := by
    intro kv hkv
    rcases List.mem_append.mp hkv with hkv | hkv
    · rw [Bool.eq_false_iff, Ne, sameKey_iff hkey]
      intro hname
      have hnot := of_decide_eq_true (List.mem_filter.mp hkv).2
      exact hnot (List.mem_append_right _ (List.mem_singleton.mpr hname))
    · exact hentries kv hkv
  rw [hpopall]
  show Except.ok (CIMultiDict.setitem key OBSCURED _) = _
  rw [setitem_of_popped hpopped, List.append_assoc, obscuredEntries, obscuredEntries,
    List.map_append]
  rfl

/-! ### Both functions in one step -/

/-- The URL without its user name and password. -/
def strippedUser (p : YarlUrl) : YarlUrl :=
  if truthy p.user || truthy p.password then p.withoutUser else p

/-- The URL without its credentials. -/
def stripped (p : YarlUrl) : YarlUrl := (strippedUser p).withQuery (strippedQuery p.query)

/-- The URL with its user name and password obscured. -/
def obscuredUser (p : YarlUrl) : YarlUrl :=
  if truthy p.user then
    if truthy p.password then p.withPassword OBSCURED else p.withUser OBSCURED
  else p

/-- The URL with its credentials obscured. -/
def obscured (p : YarlUrl) : YarlUrl := (obscuredUser p).withQuery (obscuredQuery p.query)

theorem obscuredUser_query (p : YarlUrl) : (obscuredUser p).query = p.query := by
  rw [obscuredUser]
  split
  · split
    · rfl
    · rfl
  · rfl

theorem strippedUser_query (p : YarlUrl) : (strippedUser p).query = p.query := by
  rw [strippedUser]
  split
  · rfl
  · rfl

/-- An edited query is put into the URL, and without an edit the URL stays. -/
theorem str_edited (Y : Yarl) (p : YarlUrl) (value : List String → Query) (found : List String)
    (hnil : value [] = p.query) :
    (match edited value found with
      | some newQuery => (Except.ok (Y.str (p.withQuery newQuery)) : Except Exc String)
      | none => .ok (Y.str p)) = .ok (Y.str (p.withQuery (value found))) := by
  by_cases hfound : found = []
  · rw [edited, if_pos hfound, hfound, hnil]
    rfl
  · rw [edited, if_neg hfound]

/-- None of the keys that were found is left. -/
theorem presentKeys_strippedQuery (query : Query) : presentKeys (strippedQuery query) = [] := by
  refine List.filter_eq_nil_iff.mpr fun key hkey hhas => ?_
  obtain ⟨kv, hkv, hname⟩ := List.any_eq_true.mp hhas
  obtain ⟨hmem, habsent⟩ := List.mem_filter.mp hkv
  have hname : kv.1 = key := of_decide_eq_true hname
  refine of_decide_eq_true habsent ?_
  rw [hname, lower_of_mem_keys hkey, presentKeys, List.mem_filter]
  exact ⟨hkey, List.any_eq_true.mpr ⟨kv, hmem, decide_eq_true hname⟩⟩

/-- **Stripping a URL** does not raise where the URL can be taken apart. -/
theorem stripUserPassUrl_eq {Y : Yarl} {url : String} {p : YarlUrl} (h : Y.parse url = .ok p) :
    stripUserPassUrl Y url = .ok (Y.str (stripped p)) := by
  rw [stripUserPassUrl, h]
  show (editCredentials CIMultiDict.popall (strippedUser p).query >>= fun newQuery =>
    match newQuery with
    | some newQuery => .ok (Y.str ((strippedUser p).withQuery newQuery))
    | none => .ok (Y.str (strippedUser p))) = _
  rw [strippedUser_query, editCredentials_popall]
  exact str_edited Y (strippedUser p) _ _ ((without_nil _).trans (strippedUser_query p).symm)

/-- **Obscuring a URL** does not raise where the URL can be taken apart. -/
theorem obscureUserPassUrl_eq {Y : Yarl} {url : String} {p : YarlUrl} (h : Y.parse url = .ok p) :
    obscureUserPassUrl Y url = .ok (Y.str (obscured p)) := by
  have hnil : without [] p.query ++ obscuredEntries [] = (obscuredUser p).query := by
    rw [without_nil, obscuredUser_query]
    exact List.append_nil _
  rw [obscureUserPassUrl, h]
  show (editCredentials _ (obscuredUser p).query >>= fun newQuery =>
    match newQuery with
    | some newQuery => .ok (Y.str ((obscuredUser p).withQuery newQuery))
    | none => .ok (Y.str (obscuredUser p))) = _
  rw [obscuredUser_query, editCredentials_obscure]
  exact str_edited Y (obscuredUser p) _ _ hnil

end Onvif
