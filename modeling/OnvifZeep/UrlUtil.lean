/-
`onvif/util.py`: repairing and rewriting the addresses a device reports.

An address is an optional string.  Parsing it may raise, so the functions that parse return
`Except`; an absent address, and for `replace_host_port` an empty one, is not parsed.

* **`normalizeUrlChars_ne_nil`**, **`replaceHostPortChars_ne_nil`** — a non-empty address
  stays non-empty.
-/
import OnvifZeep.UrlParse

namespace Onvif

/-- `hostport.split(":")` without its last part. -/
def dropLastPort (hostport : List Char) : List Char :=
  (hostport.reverse.dropWhile (· ≠ ':')).tail.reverse

/-- `userinfo` with the `@` after it, if there is one. -/
def userinfoSep (netloc : List Char) : List Char :=
  netloc.take (netloc.length - (afterUserinfo netloc).length)

/-- `normalize_url` of a string. -/
def normalizeUrlChars (nfkc : Normalization) (url : List Char) : Except Exc (List Char) := do
  let parsed ← urlparse nfkc url
  let hostport := afterUserinfo parsed.netloc
  if '[' ∉ hostport ∧ 1 < hostport.count ':' then
    return urlunparse { parsed with netloc := userinfoSep parsed.netloc ++ dropLastPort hostport }
  else
    return url

/-- An absent address stays absent. -/
def normalizeUrl (nfkc : Normalization) (url : Option String) : Except Exc (Option String) :=
  match url with
  | none => .ok none
  | some url => (normalizeUrlChars nfkc url.toList).map fun l => some (String.ofList l)

def bracketHost (host : List Char) : List Char :=
  if host.head? = some '[' ∨ host.count ':' < 2 then host else '[' :: host ++ [']']

/-- `replace_host_port` of a string that is not empty. -/
def replaceHostPortChars (nfkc : Normalization) (url host : List Char) (port : ℕ) :
    Except Exc (List Char) := do
  let parsed ← urlparse nfkc url
  return urlunparse { parsed with netloc := bracketHost host ++ ':' :: (toString port).toList }

/-- An absent or empty address is returned as it is. -/
def replaceHostPort (nfkc : Normalization) (url : Option String) (host : String) (port : ℕ) :
    Except Exc (Option String) :=
  match url with
  | none => .ok none
  | some url =>
    if url = "" then .ok (some url)
    else (replaceHostPortChars nfkc url.toList host.toList port).map fun l => some (String.ofList l)

example : (normalizeUrl id
    (some "http://192.168.1.106:8106:8106/onvif/Subscription?Idx=43")).toOption
    = some (some "http://192.168.1.106:8106/onvif/Subscription?Idx=43") := by decide +kernel

example : (replaceHostPort id (some "http://10.0.0.5/onvif/media?x=1") "2001:db8::1" 8080).toOption
    = some (some "http://[2001:db8::1]:8080/onvif/media?x=1") := by decide +kernel

/-! ### Addresses stay non-empty -/

theorem count_dropWhile_ne (c : Char) (l : List Char) :
    (l.dropWhile (· ≠ c)).count c = l.count c := by
  induction l with
  | nil => rfl
  | cons a l ih =>
    by_cases h : a = c
    · subst h
      rw [List.dropWhile_cons_of_neg (by simp)]
    · rw [List.dropWhile_cons_of_pos (by simpa using h), ih, List.count_cons_of_ne h]

theorem dropLastPort_ne_nil {hostport : List Char} (h : 1 < hostport.count ':') :
    dropLastPort hostport ≠ [] := by
  rw [dropLastPort, Ne, List.reverse_eq_nil_iff]
  intro hnil
  have hcount := count_dropWhile_ne ':' hostport.reverse
  rw [List.count_reverse] at hcount
  have hlen := List.count_le_length (a := ':') (l := hostport.reverse.dropWhile (· ≠ ':'))
  have htail := List.length_tail (l := hostport.reverse.dropWhile (· ≠ ':'))
  rw [hnil, List.length_nil] at htail
  omega

theorem normalizeUrlChars_ne_nil {nfkc : Normalization} {url l : List Char} (hurl : url ≠ [])
    (h : normalizeUrlChars nfkc url = .ok l) : l ≠ [] := by
  rw [normalizeUrlChars] at h
  cases hparsed : urlparse nfkc url with
  | error e =>
    rw [hparsed] at h
    cases h
  | ok parsed =>
    rw [hparsed] at h
    change (if _ then _ else _) = _ at h
    by_cases hports : '[' ∉ afterUserinfo parsed.netloc ∧ 1 < (afterUserinfo parsed.netloc).count ':'
    · rw [if_pos hports] at h
      cases h
      refine urlunparse_ne_nil fun hnil => dropLastPort_ne_nil hports.2 ?_
      exact (List.append_eq_nil_iff.mp hnil).2
    · rw [if_neg hports] at h
      cases h
      exact hurl

theorem replaceHostPortChars_ne_nil {nfkc : Normalization} {url host l : List Char} {port : ℕ}
    (h : replaceHostPortChars nfkc url host port = .ok l) : l ≠ [] := by
  rw [replaceHostPortChars] at h
  cases hparsed : urlparse nfkc url with
  | error e =>
    rw [hparsed] at h
    cases h
  | ok parsed =>
    rw [hparsed] at h
    cases h
    exact urlunparse_ne_nil (by simp)

end Onvif
