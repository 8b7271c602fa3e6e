/-
Rewriting addresses for a camera behind a NAT.

`rewrite_url` puts the host and port of the camera into an address, and `get_definition` makes the
address of the device service of them.  A host with a scheme before it is one form `get_definition`
knows and `rewrite_url` does not.

* **`netlocOf_of_parts`** — the network location of a URL put together from its parts;
* **`nat_rewrite_agrees_iff`** — both lead to the same network location exactly for hosts without
  a scheme.
-/
import Mathlib.Data.List.TakeWhile
import OnvifZeep.Client

namespace Onvif

namespace NatRewrite

variable {nfkc : Normalization} {scheme netloc rest s a : List Char} {c : Char}

/-! ### Characters -/

/-- The characters of a host and its port. -/
def isHostChar (c : Char) : Bool := c.isAlphanum || c ∈ ['-', '.', '_', '~', '%', ':']

/-- A property of all characters of a kind that lies within ASCII. -/
theorem forall_of_ascii {p q : Char → Prop} (hascii : ∀ c, p c → c.toNat < 128)
    (h : ∀ n : Fin 128, p (Char.ofNat n) → q (Char.ofNat n)) (hc : p c) : q c := by
  have hofNat := h ⟨c.toNat, hascii c hc⟩
  rw [Char.ofNat_toNat] at hofNat
  exact hofNat hc

theorem toNat_lt_of_isAlphanum (h : c.isAlphanum = true) : c.toNat < 128 := by
  delta Char.isAlphanum Char.isAlpha Char.isUpper Char.isLower Char.isDigit at h
  simp only [Bool.or_eq_true, Bool.and_eq_true, decide_eq_true_eq, UInt32.le_iff_toNat_le] at h
  change ((65 ≤ c.toNat ∧ c.toNat ≤ 90) ∨ 97 ≤ c.toNat ∧ c.toNat ≤ 122) ∨
    48 ≤ c.toNat ∧ c.toNat ≤ 57 at h
  omega

theorem forall_mem_of_all {p : Char → Prop} [DecidablePred p] {l : List Char}
    (h : l.all (fun c => decide (p c)) = true) : ∀ c ∈ l, p c :=
  fun c hc => of_decide_eq_true (List.all_eq_true.mp h c hc)

theorem toNat_lt_of_isHostChar (h : isHostChar c = true) : c.toNat < 128 := by
  have hall : ∀ c ∈ ['-', '.', '_', '~', '%', ':'], c.toNat < 128 := forall_mem_of_all (by decide)
  rcases Bool.or_eq_true_iff.mp h with h | h
  · exact toNat_lt_of_isAlphanum h
  · exact hall c (of_decide_eq_true h)

theorem toNat_lt_of_isSchemeChar (h : isSchemeChar c = true) : c.toNat < 128 := by
  have hall : ∀ c ∈ ['+', '-', '.'], c.toNat < 128 := forall_mem_of_all (by decide)
  rcases Bool.or_eq_true_iff.mp h with h | h
  · exact toNat_lt_of_isAlphanum h
  · exact hall c (of_decide_eq_true h)

/-- The character neither ends a network location nor is it removed by `cleanUrl`. -/
def Plain (c : Char) : Prop := isDelim c = false ∧ c ∉ ['\t', '\r', '\n']

instance (c : Char) : Decidable (Plain c) := inferInstanceAs (Decidable (_ ∧ _))

theorem plain_of_isHostChar (h : isHostChar c = true) :
    Plain c ∧ c ≠ '@' ∧ c ≠ '[' ∧ c ≠ ']' :=
  forall_of_ascii (p := fun c => isHostChar c = true)
    (q := fun c => Plain c ∧ c ≠ '@' ∧ c ≠ '[' ∧ c ≠ ']')
    (fun _ => toNat_lt_of_isHostChar) (by decide +kernel) h

theorem plain_of_isSchemeChar (h : isSchemeChar c = true) :
    32 < c.toNat ∧ c ∉ ['\t', '\r', '\n'] ∧ c ≠ ':' :=
  forall_of_ascii (p := fun c => isSchemeChar c = true)
    (q := fun c => 32 < c.toNat ∧ c ∉ ['\t', '\r', '\n'] ∧ c ≠ ':')
    (fun _ => toNat_lt_of_isSchemeChar) (by decide +kernel) h

theorem isSchemeChar_toLower (h : isSchemeChar c = true) : isSchemeChar c.toLower = true :=
  forall_of_ascii (p := fun c => isSchemeChar c = true)
    (q := fun c => isSchemeChar c.toLower = true)
    (fun _ => toNat_lt_of_isSchemeChar) (by decide +kernel) h

theorem isAlpha_toLower (h : c.isAlpha = true) : c.toLower.isAlpha = true :=
  forall_of_ascii (p := fun c => c.isAlpha = true) (q := fun c => c.toLower.isAlpha = true)
    (fun _ h => toNat_lt_of_isAlphanum (Bool.or_eq_true_iff.mpr (Or.inl h))) (by decide +kernel) h

/-! ### Putting a URL together -/

structure IsScheme (scheme : List Char) : Prop where
  head : scheme.head?.any Char.isAlpha = true
  chars : ∀ c ∈ scheme, isSchemeChar c = true

theorem isScheme_splitScheme {url : List Char} (h : (splitScheme url).1 ≠ []) :
    IsScheme (splitScheme url).1 := by
  rw [splitScheme] at h ⊢
  split at h
  · rename_i hscheme
    rw [if_pos hscheme]
    rw [Bool.and_eq_true, Bool.and_eq_true] at hscheme
    obtain ⟨⟨-, hhead⟩, hall⟩ := hscheme
    constructor
    · rw [List.head?_map]
      cases hc : (url.takeWhile (· ≠ ':')).head? with
      | none =>
        rw [hc] at hhead
        cases hhead
      | some c =>
        rw [hc] at hhead
        exact isAlpha_toLower hhead
    · intro c hc
      obtain ⟨c', hc', rfl⟩ := List.mem_map.mp hc
      exact isSchemeChar_toLower (List.all_eq_true.mp hall c' hc')
  · exact absurd rfl h

theorem filter_eq_self_of {l : List Char} (h : ∀ c ∈ l, c ∉ ['\t', '\r', '\n']) :
    l.filter (fun c => c ∉ ['\t', '\r', '\n']) = l :=
  List.filter_eq_self.mpr fun c hc => decide_eq_true (h c hc)

/-- A scheme and a network location are clean already. -/
theorem cleanUrl_of_parts (hscheme : IsScheme scheme) (hnetloc : ∀ c ∈ netloc, Plain c) :
    cleanUrl (scheme ++ ':' :: '/' :: '/' :: (netloc ++ rest))
      = scheme ++ ':' :: '/' :: '/' :: (netloc ++ rest.filter fun c => c ∉ ['\t', '\r', '\n']) := by
  have hplain := fun c hc => plain_of_isSchemeChar (hscheme.chars c hc)
  cases scheme with
  | nil => cases hscheme.head
  | cons c scheme =>
    -- the first character is no blank, so nothing goes at the front
    have hc := (hplain c List.mem_cons_self).1
    rw [cleanUrl, List.cons_append, List.dropWhile_cons_of_neg (by
      rw [decide_eq_true_iff]
      omega), ← List.cons_append, List.filter_append,
      filter_eq_self_of fun c hc => (hplain c hc).2.1]
    show _ ++ ':' :: '/' :: '/' :: (netloc ++ rest).filter _ = _
    rw [List.filter_append, filter_eq_self_of fun c hc => (hnetloc c hc).2]

theorem splitScheme_of_isScheme (hscheme : IsScheme scheme) (tail : List Char) :
    splitScheme (scheme ++ ':' :: tail) = (scheme.map Char.toLower, tail) := by
  have hcolon : ∀ c ∈ scheme, c ≠ ':' := fun c hc =>
    (plain_of_isSchemeChar (hscheme.chars c hc)).2.2
  have hmem : ':' ∈ scheme ++ ':' :: tail := List.mem_append_right _ List.mem_cons_self
  rw [splitScheme, takeWhile_ne_append hcolon, dropWhile_ne_append hcolon, decide_eq_true hmem,
    hscheme.head, List.all_eq_true.mpr hscheme.chars]
  rfl

/-- Cleaning leaves the delimiter where the rest begins. -/
theorem head?_filter_delim (hrest : ∀ c ∈ rest.head?, isDelim c = true) :
    ∀ c ∈ (rest.filter fun c => c ∉ ['\t', '\r', '\n']).head?, isDelim c = true := by
  cases rest with
  | nil => exact hrest
  | cons c rest =>
    have hc : isDelim c = true := hrest c rfl
    have hall : ∀ c ∈ ['\t', '\r', '\n'], isDelim c = false := forall_mem_of_all (by decide)
    have hkept : decide (c ∉ ['\t', '\r', '\n']) = true := decide_eq_true fun hmem => by
      rw [hall c hmem] at hc
      cases hc
    have hfilter : (c :: rest).filter (fun c => c ∉ ['\t', '\r', '\n'])
        = c :: rest.filter fun c => c ∉ ['\t', '\r', '\n'] := List.filter_cons_of_pos hkept
    rw [hfilter]
    exact hrest

theorem takeWhile_netloc (hnetloc : ∀ c ∈ netloc, isDelim c = false)
    (hrest : ∀ c ∈ rest.head?, isDelim c = true) :
    (netloc ++ rest).takeWhile (!isDelim ·) = netloc := by
  have hplain : ∀ c ∈ netloc, (!isDelim c) = true := fun c hc => by
    rw [hnetloc c hc]
    rfl
  rw [List.takeWhile_append_of_pos hplain]
  cases rest with
  | nil => exact List.append_nil netloc
  | cons c rest =>
    rw [List.takeWhile_cons_of_neg (by
      rw [hrest c rfl]
      decide), List.append_nil]

/-- **The network location of a URL** put together from a scheme, an authority and the rest. -/
theorem netlocOf_of_parts (hscheme : IsScheme scheme)
    (hnetloc : ∀ c ∈ netloc, Plain c)
    (hrest : ∀ c ∈ rest.head?, isDelim c = true) :
    netlocOf (scheme ++ ':' :: '/' :: '/' :: (netloc ++ rest)) = netloc := by
  rw [netlocOf, cleanUrl_of_parts hscheme hnetloc, splitScheme_of_isScheme hscheme]
  exact takeWhile_netloc (fun c hc => (hnetloc c hc).1) (head?_filter_delim hrest)

/-- What `urlparse` takes from the URL. -/
theorem urlparse_eq_ok {url : List Char} {r : ParseResult} (h : urlparse nfkc url = .ok r) :
    r.scheme = (splitScheme (cleanUrl url)).1 ∧ r.netloc = netlocOf url := by
  rw [urlparse] at h
  cases hb : checkBrackets (splitNetloc (splitScheme (cleanUrl url)).2).1 with
  | error e =>
    simp [hb, bind, Except.bind] at h
  | ok _ =>
    cases hn : checkNetloc nfkc (splitNetloc (splitScheme (cleanUrl url)).2).1 with
    | error e => simp [hb, hn, bind, Except.bind] at h
    | ok _ =>
      simp only [hb, hn, bind, Except.bind, pure, Except.pure] at h
      cases h
      exact ⟨rfl, rfl⟩

theorem head?_append_delim {l l' : List Char} (h : ∀ c ∈ l.head?, isDelim c = true)
    (h' : ∀ c ∈ l'.head?, isDelim c = true) : ∀ c ∈ (l ++ l').head?, isDelim c = true := by
  cases l with
  | nil => exact h'
  | cons c l => exact h

/-- A part that is left out where it is empty. -/
theorem head?_part_delim (hc : isDelim c = true) (part : List Char) :
    ∀ c' ∈ (if part.isEmpty then [] else c :: part).head?, isDelim c' = true := by
  intro c' hc'
  by_cases hempty : part.isEmpty = true
  · rw [if_pos hempty] at hc'
    cases hc'
  · rw [if_neg hempty] at hc'
    rwa [← Option.some.inj hc']

/-- A URL with a scheme and a network location begins with them. -/
theorem urlunparse_eq {r : ParseResult} (hscheme : r.scheme ≠ []) (hnetloc : r.netloc ≠ []) :
    ∃ rest, urlunparse r = r.scheme ++ ':' :: '/' :: '/' :: (r.netloc ++ rest) ∧
      ∀ c ∈ rest.head?, isDelim c = true := by
  have hscheme' : ¬r.scheme.isEmpty = true := fun h => hscheme (List.isEmpty_iff.mp h)
  have hnetloc' : (!r.netloc.isEmpty) = true := by
    rw [Bool.not_eq_true']
    exact Bool.eq_false_iff.mpr fun h => hnetloc (List.isEmpty_iff.mp h)
  rw [urlunparse, if_pos hnetloc', if_neg hscheme']
  generalize (if r.params.isEmpty then r.path else r.path ++ ';' :: r.params) = path
  -- the path is empty or begins with a slash
  have hpath : ∀ c ∈ (if !path.isEmpty && path.head? ≠ some '/' then '/' :: path
      else path).head?, isDelim c = true := by
    intro c hc
    cases path with
    | nil => cases hc
    | cons c' path =>
      by_cases hslash : c' = '/'
      · subst hslash
        obtain rfl := Option.some.inj hc
        rfl
      · rw [if_pos (by simpa using hslash)] at hc
        obtain rfl := Option.some.inj hc
        rfl
  generalize (if !path.isEmpty && path.head? ≠ some '/' then '/' :: path else path) = path' at hpath
  have hquery := head?_part_delim (c := '?') rfl r.query
  have hfragment := head?_part_delim (c := '#') rfl r.fragment
  refine ⟨path' ++ ((if r.query.isEmpty then [] else '?' :: r.query) ++
    if r.fragment.isEmpty then [] else '#' :: r.fragment), ?_,
    head?_append_delim hpath (head?_append_delim hquery hfragment)⟩
  by_cases hq : r.query.isEmpty = true
  · by_cases hf : r.fragment.isEmpty = true
    · simp [hq, hf]
    · simp [hq, hf]
  · by_cases hf : r.fragment.isEmpty = true
    · simp [hq, hf]
    · simp [hq, hf]

/-- **Replacing the network location** replaces it up to the first delimiter in the new one. -/
theorem netlocOf_urlunparse {url : List Char} (front back : List Char) {r : ParseResult}
    (hurl : urlparse nfkc url = .ok r) (hscheme : r.scheme ≠ []) (hfront : front ≠ [])
    (hplain : ∀ c ∈ front, Plain c)
    (hback : ∀ c ∈ back.head?, isDelim c = true) :
    netlocOf (urlunparse { r with netloc := front ++ back }) = front := by
  have hne : front ++ back ≠ [] := fun h => hfront (List.append_eq_nil_iff.mp h).1
  obtain ⟨rest, hrest, hdelim⟩ := urlunparse_eq (r := { r with netloc := front ++ back }) hscheme hne
  have hvalid : IsScheme r.scheme := by
    rw [(urlparse_eq_ok hurl).1] at hscheme ⊢
    exact isScheme_splitScheme hscheme
  rw [hrest, List.append_assoc]
  exact netlocOf_of_parts hvalid hplain (head?_append_delim hback hdelim)

/-! ### Hosts -/

/-- A hostname or an IPv4 address. -/
structure IsHostname (s : List Char) : Prop where
  ne_nil : s ≠ []
  chars : ∀ c ∈ s, c.isAlphanum = true ∨ c ∈ ['-', '.', '_']

/-- An IPv6 address, with a zone of unreserved characters if it has one. -/
structure IsIPv6Literal (s : List Char) : Prop where
  valid : isIPv6 s = true
  address : ∀ c ∈ s.takeWhile (· ≠ '%'), isHexDigit c = true ∨ c ∈ [':', '.']
  zone : ∀ c ∈ (s.dropWhile (· ≠ '%')).drop 1, c.isAlphanum = true ∨ c ∈ ['-', '.', '_', '~']

/-- A host as it stands in a network location. -/
inductive IsAuthority : List Char → Prop
  | hostname {s : List Char} (h : IsHostname s) : IsAuthority s
  | bracketed {s : List Char} (h : IsIPv6Literal s) : IsAuthority ('[' :: s ++ [']'])

/-- The hosts a camera is constructed with. -/
inductive IsHost : List Char → Prop
  | authority {s : List Char} (h : IsAuthority s) : IsHost s
  | ipv6 {s : List Char} (h : IsIPv6Literal s) : IsHost s
  | url {scheme s : List Char} (hscheme : scheme ∈ ["http".toList, "https".toList])
    (h : IsAuthority s) : IsHost (scheme ++ ':' :: '/' :: '/' :: s)

/-- The host begins with a scheme. -/
def HasScheme (host : String) : Prop :=
  ("http://".toList.isPrefixOf host.toList || "https://".toList.isPrefixOf host.toList) = true

instance (host : String) : Decidable (HasScheme host) := inferInstanceAs (Decidable (_ = true))

theorem isHostChar_of_isAlphanum (h : c.isAlphanum = true) : isHostChar c = true :=
  Bool.or_eq_true_iff.mpr (Or.inl h)

theorem isHostChar_of_isHexDigit (h : isHexDigit c = true) : isHostChar c = true := by
  refine isHostChar_of_isAlphanum ?_
  delta isHexDigit Char.isDigit at h
  delta Char.isAlphanum Char.isAlpha Char.isUpper Char.isLower Char.isDigit
  simp only [Bool.or_eq_true, Bool.and_eq_true, decide_eq_true_eq, UInt32.le_iff_toNat_le,
    Char.le_def] at h ⊢
  change (_ ∨ 97 ≤ c.toNat ∧ c.toNat ≤ 102) ∨ 65 ≤ c.toNat ∧ c.toNat ≤ 70 at h
  change ((65 ≤ c.toNat ∧ c.toNat ≤ 90) ∨ 97 ≤ c.toNat ∧ c.toNat ≤ 122) ∨ _
  omega

theorem IsHostname.isHostChar (h : IsHostname s) : ∀ c ∈ s, isHostChar c = true := by
  have hall : ∀ c ∈ ['-', '.', '_'], NatRewrite.isHostChar c = true :=
    List.all_eq_true.mp (by decide)
  intro c hc
  rcases h.chars c hc with halnum | hmem
  · exact isHostChar_of_isAlphanum halnum
  · exact hall c hmem

theorem IsIPv6Literal.isHostChar (h : IsIPv6Literal s) : ∀ c ∈ s, isHostChar c = true := by
  intro c hc
  rw [← List.takeWhile_append_dropWhile (p := (· ≠ '%')) (l := s)] at hc
  rcases List.mem_append.mp hc with hc | hc
  · have hall : ∀ c ∈ [':', '.'], NatRewrite.isHostChar c = true :=
      List.all_eq_true.mp (by decide)
    rcases h.address c hc with hhex | hmem
    · exact isHostChar_of_isHexDigit hhex
    · exact hall c hmem
  · have hzone := h.zone
    cases hdrop : s.dropWhile (· ≠ '%') with
    | nil =>
      rw [hdrop] at hc
      cases hc
    | cons c' zone =>
      have hpercent := List.head?_dropWhile_not (fun c => decide (c ≠ '%')) s
      rw [hdrop] at hc hzone hpercent
      rcases List.mem_cons.mp hc with rfl | hc
      · have hc' : c = '%' := by simpa using hpercent
        rw [hc']
        decide
      · have hall : ∀ c ∈ ['-', '.', '_', '~'], NatRewrite.isHostChar c = true :=
          List.all_eq_true.mp (by decide)
        rcases hzone c hc with halnum | hmem
        · exact isHostChar_of_isAlphanum halnum
        · exact hall c hmem

theorem length_splitOn (c : Char) (l : List Char) : (l.splitOn c).length = l.count c + 1 := by
  induction l with
  | nil => rfl
  | cons c' l ih =>
    rw [List.splitOn] at ih ⊢
    rw [List.splitOnP_cons_eq_if_modifyHead]
    by_cases hc : c' = c
    · subst hc
      rw [if_pos (beq_self_eq_true c'), List.length_cons, ih, List.count_cons_self]
    · rw [if_neg (by simpa using hc), List.length_modifyHead, ih, List.count_cons_of_ne hc]

/-- An IPv6 address has two colons or more. -/
theorem IsIPv6Literal.two_le_count (h : IsIPv6Literal s) : 2 ≤ s.count ':' := by
  have hvalid := h.valid
  rw [isIPv6] at hvalid
  have hhextets := (Bool.and_eq_true_iff.mp hvalid).2
  have hlength : 3 ≤ ((s.takeWhile (· ≠ '%')).splitOn ':').length := by
    by_contra hlt
    rw [hextets, if_pos (by omega)] at hhextets
    cases hhextets
  rw [length_splitOn] at hlength
  have hsub := (List.takeWhile_sublist (p := (· ≠ '%')) (l := s)).count_le ':'
  omega

theorem bracketHost_of_isAuthority (h : IsAuthority a) : bracketHost a = a := by
  cases h with
  | hostname h =>
    have hcolon : a.count ':' = 0 := by
      refine List.count_eq_zero.mpr fun hmem => ?_
      rcases h.chars ':' hmem with hc | hc
      · exact absurd hc (by decide)
      · exact absurd hc (by decide)
    rw [bracketHost, if_pos (Or.inr (by omega))]
  | bracketed h => exact if_pos (Or.inl rfl)

theorem bracketHost_of_isIPv6Literal (h : IsIPv6Literal s) :
    bracketHost s = '[' :: s ++ [']'] := by
  refine if_neg ?_
  rintro (hhead | hcount)
  · have hmem := List.mem_of_head? hhead
    exact (plain_of_isHostChar (h.isHostChar _ hmem)).2.2.1 rfl
  · have htwo := h.two_le_count
    omega

/-! ### Network locations -/

/-- A host and a port. -/
def hostPort (host : List Char) (port : ℕ) : List Char := host ++ ':' :: (toString port).toList

theorem isDigit_of_mem_port {port : ℕ} (h : c ∈ (toString port).toList) : c.isDigit = true := by
  rw [show toString port = port.repr from rfl, Nat.toList_repr] at h
  exact Nat.isDigit_of_mem_toDigits (by decide) (by decide) h

theorem isHostChar_of_mem_port {port : ℕ} (h : c ∈ ':' :: (toString port).toList) :
    isHostChar c = true := by
  rcases List.mem_cons.mp h with rfl | h
  · decide
  · exact isHostChar_of_isAlphanum
      (Bool.or_eq_true_iff.mpr (Or.inr (isDigit_of_mem_port h)))

/-- The characters of a network location: those of a host, and brackets. -/
theorem chars_hostPort (h : IsAuthority a) (port : ℕ) :
    ∀ c ∈ hostPort a port, isHostChar c = true ∨ c = '[' ∨ c = ']' := by
  intro c hc
  rcases List.mem_append.mp hc with hc | hc
  · cases h with
    | hostname h => exact Or.inl (h.isHostChar c hc)
    | bracketed h =>
      rcases List.mem_append.mp hc with hc | hc
      · rcases List.mem_cons.mp hc with rfl | hc
        · exact Or.inr (Or.inl rfl)
        · exact Or.inl (h.isHostChar c hc)
      · exact Or.inr (Or.inr (List.mem_singleton.mp hc))
  · exact Or.inl (isHostChar_of_mem_port hc)

theorem plain_hostPort (h : IsAuthority a) (port : ℕ) : ∀ c ∈ hostPort a port, Plain c := by
  intro c hc
  rcases chars_hostPort h port c hc with hhost | rfl | rfl
  · exact (plain_of_isHostChar hhost).1
  · decide
  · decide

theorem checkNetloc_hostPort (nfkc : Normalization) (h : IsAuthority a) (port : ℕ) :
    checkNetloc nfkc (hostPort a port) = .ok () := by
  refine if_pos (List.all_eq_true.mpr fun c hc => decide_eq_true ?_)
  rcases chars_hostPort h port c hc with hhost | rfl | rfl
  · exact toNat_lt_of_isHostChar hhost
  · decide
  · decide

theorem afterUserinfo_hostPort (h : IsAuthority a) (port : ℕ) :
    afterUserinfo (hostPort a port) = hostPort a port := by
  have hat : ∀ c ∈ (hostPort a port).reverse, decide (c ≠ '@') = true := by
    intro c hc
    rcases chars_hostPort h port c (List.mem_reverse.mp hc) with hhost | rfl | rfl
    · exact decide_eq_true (plain_of_isHostChar hhost).2.1
    · decide
    · decide
  rw [afterUserinfo, List.takeWhile_eq_self_iff.mpr hat, List.reverse_reverse]

theorem checkBracketedHost_of_isIPv6Literal (h : IsIPv6Literal s) :
    checkBracketedHost s = .ok () := by
  have hhead : s.head? ≠ some 'v' := by
    intro hv
    cases s with
    | nil => cases hv
    | cons c s =>
      obtain rfl := Option.some.inj hv
      have hmem : 'v' ∈ ('v' :: s).takeWhile (· ≠ '%') := List.mem_cons_self
      rcases h.address 'v' hmem with hhex | hmem
      · exact absurd hhex (by decide)
      · exact absurd hmem (by decide)
  rw [checkBracketedHost, if_neg hhead, if_pos h.valid]

theorem checkBrackets_hostPort (h : IsAuthority a) (port : ℕ) :
    checkBrackets (hostPort a port) = .ok () := by
  have hplain : ∀ c ∈ ':' :: (toString port).toList, c ≠ '[' ∧ c ≠ ']' := fun c hc =>
    (plain_of_isHostChar (isHostChar_of_mem_port hc)).2.2
  have hself := afterUserinfo_hostPort h port
  cases h with
  | hostname h =>
    have hnone : ∀ c ∈ hostPort a port, c ≠ '[' ∧ c ≠ ']' := by
      intro c hc
      rcases List.mem_append.mp hc with hc | hc
      · exact (plain_of_isHostChar (h.isHostChar c hc)).2.2
      · exact hplain c hc
    have hopen : '[' ∉ hostPort a port := fun hmem => (hnone _ hmem).1 rfl
    have hclose : ']' ∉ hostPort a port := fun hmem => (hnone _ hmem).2 rfl
    rw [checkBrackets, decide_eq_false hopen, decide_eq_false hclose, if_neg (by decide),
      if_neg hopen]
  | bracketed h =>
    rename_i s
    have hopen : '[' ∈ hostPort ('[' :: s ++ [']']) port := List.mem_cons_self
    have hclose : ']' ∈ hostPort ('[' :: s ++ [']']) port :=
      List.mem_append_left _ (List.mem_append_right _ List.mem_cons_self)
    have htext : hostPort ('[' :: s ++ [']']) port
        = '[' :: (s ++ ']' :: ':' :: (toString port).toList) := by
      rw [hostPort, List.append_assoc, List.cons_append]
      rfl
    have hbracket : ∀ c ∈ s, c ≠ ']' := fun c hc =>
      (plain_of_isHostChar (h.isHostChar c hc)).2.2.2
    rw [checkBrackets, decide_eq_true hopen, decide_eq_true hclose, if_neg (by decide),
      if_pos hopen, checkBracketedNetloc, hself, if_pos hopen, htext]
    show (if _ then _ else if (!(((s ++ ']' :: ':' :: (toString port).toList).dropWhile
      (· ≠ ']')).drop 1).isEmpty && decide ((((s ++ ']' :: ':' :: (toString port).toList).dropWhile
        (· ≠ ']')).drop 1).head? ≠ some ':')) = true then _ else checkBracketedHost
          ((s ++ ']' :: ':' :: (toString port).toList).takeWhile (· ≠ ']'))) = _
    rw [takeWhile_ne_append hbracket, dropWhile_ne_append hbracket]
    exact checkBracketedHost_of_isIPv6Literal h

/-- **A URL at a host and port** is accepted. -/
theorem urlparse_of_hostPort (nfkc : Normalization) {url : List Char} {port : ℕ} (h : IsAuthority a)
    (hnetloc : netlocOf url = hostPort a port) :
    ∃ r, urlparse nfkc url = .ok r ∧ r.netloc = hostPort a port := by
  obtain ⟨r, hr⟩ := (urlparse_isOk_iff nfkc url).mpr (by
    rw [hnetloc]
    exact ⟨checkBrackets_hostPort h port, checkNetloc_hostPort nfkc h port⟩)
  exact ⟨r, hr, (urlparse_eq_ok hr).2.trans hnetloc⟩

/-! ### The two paths -/

/-- The rewritten address is accepted and has the network location of the device service. -/
def SameNetloc (C : CameraConfig) (url xaddr : String) : Prop :=
  ∃ rewritten r r', rewriteUrl C (some url) = .ok (some rewritten) ∧
    urlparse C.nfkc rewritten.toList = .ok r ∧ urlparse C.nfkc xaddr.toList = .ok r' ∧
    r.netloc = r'.netloc

variable {C : CameraConfig} {url : String} {r : ParseResult}

/-- What `rewrite_url` makes of an address that is accepted. -/
theorem rewriteUrl_of_urlparse (hnat : C.natOverride = true)
    (hurl : urlparse C.nfkc url.toList = .ok r) (hscheme : r.scheme ≠ []) :
    rewriteUrl C (some url) = .ok (some (String.ofList (urlunparse
      { r with netloc := hostPort (bracketHost C.host.toList) C.port }))) := by
  have hne : url ≠ "" := by
    rintro rfl
    cases hurl
    exact hscheme rfl
  rw [rewriteUrl, if_pos hnat, replaceHostPort, if_neg hne, replaceHostPortChars, hurl]
  rfl

theorem getDefinition_devicemgmt {s : ONVIFCamera} {portType : Option String}
    {definition : String × String × String}
    (h : s.getDefinition C "devicemgmt" portType = .ok definition) :
    definition.1 = ONVIFCamera.devicemgmtXaddr C := by
  rw [ONVIFCamera.getDefinition] at h
  cases hservice : lookupService "devicemgmt" with
  | none =>
    rw [hservice] at h
    cases h
  | some d =>
    rw [hservice] at h
    dsimp only at h
    split at h
    · cases h
    · rw [if_pos rfl] at h
      cases h
      rfl

theorem isScheme_http : IsScheme "http".toList :=
  ⟨rfl, List.all_eq_true.mp (by decide)⟩

theorem isScheme_https : IsScheme "https".toList :=
  ⟨rfl, List.all_eq_true.mp (by decide)⟩

theorem toList_devicemgmtXaddr (C : CameraConfig) :
    (ONVIFCamera.devicemgmtXaddr C).toList
      = hostPort (if HasScheme C.host then C.host.toList
        else "http://".toList ++ bracketHost C.host.toList) C.port ++
          "/onvif/device_service".toList := by
  rw [ONVIFCamera.devicemgmtXaddr, hostPort]
  by_cases hscheme : HasScheme C.host
  · rw [if_pos hscheme, if_pos (show _ = true from hscheme)]
    simp only [String.toList_append, List.append_assoc]
    rfl
  · rw [if_neg hscheme, if_neg (show ¬_ = true from hscheme)]
    simp only [String.toList_append, String.toList_ofList, List.append_assoc]
    rfl

theorem not_hasScheme_of_slash {host : String} (h : '/' ∉ host.toList) : ¬HasScheme host := by
  intro hscheme
  rcases Bool.or_eq_true_iff.mp hscheme with hstart | hstart
  · exact h ((List.isPrefixOf_iff_prefix.mp hstart).subset (by decide))
  · exact h ((List.isPrefixOf_iff_prefix.mp hstart).subset (by decide))

/-- A host without a scheme before it stands in both addresses as it stands in a URL. -/
theorem netlocOf_devicemgmtXaddr (h : IsAuthority (bracketHost C.host.toList))
    (hscheme : ¬HasScheme C.host) :
    netlocOf (ONVIFCamera.devicemgmtXaddr C).toList
      = hostPort (bracketHost C.host.toList) C.port := by
  have htext : (ONVIFCamera.devicemgmtXaddr C).toList = "http".toList ++ ':' :: '/' :: '/' ::
      (hostPort (bracketHost C.host.toList) C.port ++ "/onvif/device_service".toList) := by
    rw [toList_devicemgmtXaddr, if_neg hscheme, hostPort, hostPort]
    simp only [List.append_assoc]
    rfl
  rw [htext]
  exact netlocOf_of_parts isScheme_http (plain_hostPort h C.port) fun c hc => by
    obtain rfl := Option.some.inj hc
    rfl

section Url

variable {scheme : List Char} (hscheme : scheme ∈ ["http".toList, "https".toList])
  (h : IsAuthority a) (hhost : C.host.toList = scheme ++ ':' :: '/' :: '/' :: a)

include hscheme hhost

theorem hasScheme_of_url : HasScheme C.host := by
  rw [HasScheme, hhost]
  rw [List.mem_cons, List.mem_singleton] at hscheme
  rcases hscheme with rfl | rfl
  · rfl
  · rfl

include h

/-- `get_definition` knows the scheme. -/
theorem netlocOf_devicemgmtXaddr_url :
    netlocOf (ONVIFCamera.devicemgmtXaddr C).toList = hostPort a C.port := by
  have hvalid : IsScheme scheme := by
    rw [List.mem_cons, List.mem_singleton] at hscheme
    rcases hscheme with rfl | rfl
    · exact isScheme_http
    · exact isScheme_https
  have htext : (ONVIFCamera.devicemgmtXaddr C).toList = scheme ++ ':' :: '/' :: '/' ::
      (hostPort a C.port ++ "/onvif/device_service".toList) := by
    rw [toList_devicemgmtXaddr, if_pos (hasScheme_of_url hscheme hhost), hhost, hostPort, hostPort]
    simp only [List.append_assoc, List.cons_append]
  rw [htext]
  exact netlocOf_of_parts hvalid (plain_hostPort h C.port) fun c hc => by
    obtain rfl := Option.some.inj hc
    rfl

omit h

/-- `rewrite_url` does not: the network location ends with the colon of the scheme. -/
theorem exists_front_of_url :
    ∃ front back, hostPort (bracketHost C.host.toList) C.port = (front ++ [':']) ++ '/' :: back ∧
      ∀ c ∈ front ++ [':'], Plain c := by
  have hplain : ∀ c ∈ scheme ++ [':'], Plain c := by
    rw [List.mem_cons, List.mem_singleton] at hscheme
    rcases hscheme with rfl | rfl
    · exact forall_mem_of_all (by decide)
    · exact forall_mem_of_all (by decide)
  rw [hhost, bracketHost]
  split
  · refine ⟨scheme, '/' :: a ++ ':' :: (toString C.port).toList, ?_, hplain⟩
    simp only [hostPort, List.append_assoc, List.cons_append, List.nil_append]
  · refine ⟨'[' :: scheme, '/' :: a ++ ']' :: ':' :: (toString C.port).toList, ?_, ?_⟩
    · simp only [hostPort, List.append_assoc, List.cons_append, List.nil_append]
    · intro c hc
      rcases List.mem_cons.mp hc with rfl | hc
      · decide
      · exact hplain c hc

end Url

/-- A port ends with a digit. -/
theorem hostPort_ne_colon (host front : List Char) (port : ℕ) :
    hostPort host port ≠ front ++ [':'] := by
  intro heq
  have hne : (toString port).toList ≠ [] := by
    rw [show toString port = port.repr from rfl, Nat.toList_repr]
    exact Nat.toDigits_ne_nil
  have hlast : (hostPort host port).getLast? = some ((toString port).toList.getLast hne) := by
    rw [hostPort, List.getLast?_append_of_ne_nil _ (List.cons_ne_nil _ _), List.getLast?_cons,
      List.getLast?_eq_some_getLast hne]
    rfl
  rw [heq, List.getLast?_concat] at hlast
  have hdigit := isDigit_of_mem_port (List.getLast_mem hne)
  rw [← Option.some.inj hlast] at hdigit
  exact absurd hdigit (by decide)

theorem sameNetloc_of_isAuthority (h : IsAuthority (bracketHost C.host.toList))
    (hplain : ¬HasScheme C.host) (hnat : C.natOverride = true)
    (hurl : urlparse C.nfkc url.toList = .ok r) (hscheme : r.scheme ≠ []) :
    SameNetloc C url (ONVIFCamera.devicemgmtXaddr C) := by
  have hrewritten : netlocOf (urlunparse
      { r with netloc := hostPort (bracketHost C.host.toList) C.port })
      = hostPort (bracketHost C.host.toList) C.port := by
    have hsame := netlocOf_urlunparse (hostPort (bracketHost C.host.toList) C.port) [] hurl hscheme
      (show hostPort (bracketHost C.host.toList) C.port ≠ [] by
        rw [hostPort]
        exact fun hnil => absurd (List.append_eq_nil_iff.mp hnil).2 (List.cons_ne_nil _ _))
      (plain_hostPort h C.port) fun c hc => by cases hc
    rwa [List.append_nil] at hsame
  rw [← String.toList_ofList (l := urlunparse _)] at hrewritten
  obtain ⟨r₁, hr₁, hnetloc₁⟩ := urlparse_of_hostPort C.nfkc h hrewritten
  obtain ⟨r₂, hr₂, hnetloc₂⟩ := urlparse_of_hostPort C.nfkc h
    (netlocOf_devicemgmtXaddr h hplain)
  exact ⟨_, r₁, r₂, rewriteUrl_of_urlparse hnat hurl hscheme, hr₁, hr₂,
    hnetloc₁.trans hnetloc₂.symm⟩

theorem not_sameNetloc_of_url {scheme : List Char}
    (hstart : scheme ∈ ["http".toList, "https".toList]) (h : IsAuthority a)
    (hhost : C.host.toList = scheme ++ ':' :: '/' :: '/' :: a) (hnat : C.natOverride = true)
    (hurl : urlparse C.nfkc url.toList = .ok r) (hscheme : r.scheme ≠ []) :
    ¬SameNetloc C url (ONVIFCamera.devicemgmtXaddr C) := by
  rintro ⟨rewritten, r₁, r₂, hrewrite, hr₁, hr₂, hsame⟩
  obtain ⟨front, back, hnetloc, hplain⟩ := exists_front_of_url (C := C) hstart hhost
  rw [rewriteUrl_of_urlparse hnat hurl hscheme] at hrewrite
  obtain rfl := Option.some.inj (Except.ok.inj hrewrite)
  rw [String.toList_ofList, hnetloc] at hr₁
  have hne : front ++ [':'] ≠ [] := fun hnil =>
    absurd (List.append_eq_nil_iff.mp hnil).2 (List.cons_ne_nil _ _)
  have hfirst := netlocOf_urlunparse (front ++ [':']) ('/' :: back) hurl hscheme hne hplain
    fun c hc => by
      obtain rfl := Option.some.inj hc
      rfl
  rw [(urlparse_eq_ok hr₁).2, hfirst, (urlparse_eq_ok hr₂).2,
    netlocOf_devicemgmtXaddr_url hstart h hhost] at hsame
  exact hostPort_ne_colon a front C.port hsame.symm

theorem slash_notMem_of_isAuthority (h : IsAuthority a) : '/' ∉ a := by
  intro hmem
  have hplain := plain_hostPort h 0 '/' (List.mem_append_left _ hmem)
  exact absurd hplain (by decide)

/-- **NAT rewriting agrees with the address of the device service**, for every absolute URL,
exactly if the host is given without a scheme. -/
theorem nat_rewrite_agrees_iff (C : CameraConfig) (hnat : C.natOverride = true)
    (hhost : IsHost C.host.toList) (s : ONVIFCamera) {definition : String × String × String}
    (hdefinition : s.getDefinition C "devicemgmt" none = .ok definition) (url : String)
    {r : ParseResult} (hurl : urlparse C.nfkc url.toList = .ok r) (hscheme : r.scheme ≠ []) :
    SameNetloc C url definition.1 ↔ ¬HasScheme C.host := by
  rw [getDefinition_devicemgmt hdefinition]
  generalize hform : C.host.toList = host at hhost
  cases hhost with
  | authority h =>
    have hplain : ¬HasScheme C.host :=
      not_hasScheme_of_slash (hform ▸ slash_notMem_of_isAuthority h)
    have hbracket : bracketHost C.host.toList = host := by rw [hform, bracketHost_of_isAuthority h]
    exact iff_of_true (sameNetloc_of_isAuthority (hbracket ▸ h) hplain hnat hurl hscheme) hplain
  | ipv6 h =>
    have hauthority : IsAuthority ('[' :: host ++ [']']) := .bracketed h
    have hplain : ¬HasScheme C.host := by
      refine not_hasScheme_of_slash fun hmem => slash_notMem_of_isAuthority hauthority ?_
      exact List.mem_append_left _ (List.mem_cons_of_mem _ (hform ▸ hmem))
    have hbracket : bracketHost C.host.toList = '[' :: host ++ [']'] := by
      rw [hform, bracketHost_of_isIPv6Literal h]
    exact iff_of_true (sameNetloc_of_isAuthority (hbracket ▸ hauthority) hplain hnat hurl hscheme)
      hplain
  | url hstart h =>
    exact iff_of_false (not_sameNetloc_of_url hstart h hform hnat hurl hscheme)
      (not_not_intro (hasScheme_of_url hstart hform))

/-- A camera behind a NAT. -/
def natConfig (host : String) : CameraConfig :=
  { ONVIFCamera.localConfig with host := host, natOverride := true }

theorem isIPv6Literal_natHost : IsIPv6Literal "2001:db8::1".toList where
  valid := by decide +kernel
  address := forall_mem_of_all (by decide)
  zone := forall_mem_of_all (by decide)

theorem nat_rewrite_agrees_ipv6 :
    SameNetloc (natConfig "2001:db8::1") "http://10.0.0.5/onvif/media?x=1"
      "http://[2001:db8::1]:80/onvif/device_service" :=
  (nat_rewrite_agrees_iff (natConfig "2001:db8::1") rfl
    (.ipv6 isIPv6Literal_natHost) ONVIFCamera.localCamera rfl
    "http://10.0.0.5/onvif/media?x=1" rfl (by decide)).mpr (by decide)

/-- The scheme of the host ends up within the network location. -/
theorem nat_rewrite_disagrees_scheme :
    ¬∀ (C : CameraConfig), C.natOverride = true → IsHost C.host.toList →
      ∀ (s : ONVIFCamera) (definition : String × String × String),
      s.getDefinition C "devicemgmt" none = .ok definition →
      ∀ (url : String) (r : ParseResult), urlparse C.nfkc url.toList = .ok r → r.scheme ≠ [] →
      SameNetloc C url definition.1 := by
  intro h
  have hhostname : IsHostname "camera.local".toList := ⟨by decide, forall_mem_of_all (by decide)⟩
  have hstart : "http".toList ∈ ["http".toList, "https".toList] := List.mem_cons_self
  have hsame := h (natConfig "http://camera.local") rfl (.url hstart (.hostname hhostname))
    ONVIFCamera.localCamera _ rfl "http://10.0.0.5/onvif/media" _ rfl (by decide)
  exact not_sameNetloc_of_url hstart (.hostname hhostname) rfl rfl rfl (by decide) hsame

end NatRewrite

end Onvif
