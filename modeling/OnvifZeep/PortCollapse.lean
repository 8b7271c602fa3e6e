/-
`normalize_url` on URLs whose port is repeated.

Some devices write the port of an address several times over.  `normalize_url` takes the last port
away once, and leaves a host in brackets alone, so the repeated ports collapse if there are two and
the host is a name.

* **`normalizeUrlChars_name`**, **`normalizeUrlChars_single`** — what is made of such a URL;
* **`collapses_iff`** — when it reads as the URL with one port.
-/
import OnvifZeep.UrlRoundTrip
import OnvifZeep.UrlAuthority

namespace Onvif

namespace PortCollapse

open NatRewrite UrlRoundTrip UrlAuthority

/-! ### Repeated ports -/

/-- A URL with a scheme, perhaps userinfo, a host and a port, and the path, query and fragment. -/
structure PortUrl where
  scheme : List Char
  userinfo : Option (List Char)
  host : List Char
  port : List Char
  rest : List Char
  isScheme : IsScheme scheme
  -- userinfo without brackets, which may have colons and an `@` in it
  plain_userinfo : ∀ u ∈ userinfo, ∀ c ∈ u, Plain c ∧ c ∉ ['[', ']']
  isUrlHost : IsUrlHost host
  port_ne_nil : port ≠ []
  port_digits : ∀ c ∈ port, c.isDigit = true
  -- empty, or an absolute path, a query or a fragment
  head_rest : ∀ c ∈ rest.head?, isDelim c = true

namespace PortUrl

/-- The port, `k` times over. -/
def ports (U : PortUrl) (k : ℕ) : List Char := (List.replicate k (':' :: U.port)).flatten

/-- The userinfo with its `@`. -/
def userinfoPart (U : PortUrl) : List Char := (U.userinfo.map (· ++ ['@'])).getD []

def netlocOf (U : PortUrl) (k : ℕ) : List Char := netloc U.userinfoPart U.host (U.ports k)

/-- The URL with the port `k` times over. -/
def text (U : PortUrl) (k : ℕ) : List Char :=
  U.scheme ++ ':' :: '/' :: '/' :: (U.netlocOf k ++ U.rest)

variable (U : PortUrl) {k : ℕ} {nfkc : Normalization} {r : ParseResult}

theorem ports_succ (k : ℕ) : U.ports (k + 1) = U.ports k ++ ':' :: U.port := by
  simp [ports, List.replicate_succ']

theorem length_ports (k : ℕ) : (U.ports k).length = k * (U.port.length + 1) := by
  simp [ports]

theorem isPorts (k : ℕ) : IsPorts (U.ports k) := by
  constructor
  · intro c hc
    rcases k with _ | k
    · exact nomatch hc
    · rw [ports, List.replicate_succ] at hc
      exact (Option.some.inj hc).symm
  · intro c hc
    rw [ports, List.mem_flatten] at hc
    obtain ⟨l, hl, hc⟩ := hc
    obtain rfl := List.eq_of_mem_replicate hl
    rcases List.mem_cons.mp hc with rfl | hc
    · exact Or.inl rfl
    · exact Or.inr (U.port_digits c hc)

theorem colon_not_mem_port : ':' ∉ U.port := fun h => absurd (U.port_digits _ h) (by decide)

/-- There are as many colons as ports. -/
theorem count_ports (k : ℕ) : (U.ports k).count ':' = k := by
  induction k with
  | zero => rfl
  | succ k ih =>
    rw [ports_succ, List.count_append, ih, List.count_cons_self,
      List.count_eq_zero.mpr U.colon_not_mem_port]

theorem isUserinfo : IsUserinfo U.userinfoPart := by
  rw [userinfoPart]
  rcases hu : U.userinfo with _ | u
  · exact isUserinfo_nil
  · constructor
    · simp
    · intro c hc
      simp only [Option.map_some, Option.getD_some, List.mem_append, List.mem_singleton] at hc
      rcases hc with hc | rfl
      · exact U.plain_userinfo u (by simp [hu]) c hc
      · decide

theorem plain_netlocOf (k : ℕ) : ∀ c ∈ U.netlocOf k, Plain c :=
  plain_netloc U.isUserinfo U.isUrlHost (U.isPorts k)

theorem netlocOf_ne_nil (k : ℕ) : U.netlocOf k ≠ [] := netloc_ne_nil U.isUrlHost

theorem afterUserinfo_netlocOf (k : ℕ) : afterUserinfo (U.netlocOf k) = U.host ++ U.ports k :=
  afterUserinfo_netloc U.isUserinfo U.isUrlHost (U.isPorts k)

theorem userinfoSep_netlocOf (k : ℕ) : userinfoSep (U.netlocOf k) = U.userinfoPart := by
  rw [userinfoSep, afterUserinfo_netlocOf, netlocOf, netloc, List.length_append,
    Nat.add_sub_cancel, List.take_left']
  rfl

/-- **Different numbers of ports** are different network locations. -/
theorem netlocOf_inj {k k' : ℕ} (h : U.netlocOf k = U.netlocOf k') : k = k' := by
  have hlength := congrArg List.length h
  simp only [netlocOf, netloc, List.length_append, length_ports] at hlength
  have hmul : k * (U.port.length + 1) = k' * (U.port.length + 1) := by omega
  exact Nat.eq_of_mul_eq_mul_right (Nat.succ_pos _) hmul

/-! ### Parsing -/

/-- The URL with one port is one that `urlparse` accepts. -/
def Accepted (U : PortUrl) (nfkc : Normalization) (r : ParseResult) : Prop :=
  urlparse nfkc (U.text 1) = .ok r

/-- **The number of ports** makes no difference to the other components. -/
theorem urlparse_text (hnfkc : AsciiInert nfkc) (h : U.Accepted nfkc r) (k : ℕ) :
    urlparse nfkc (U.text k) = .ok { r with netloc := U.netlocOf k } := by
  have hclean : ∀ k, splitScheme (cleanUrl (U.text k)) = (U.scheme.map Char.toLower,
      '/' :: '/' :: (U.netlocOf k ++ U.rest.filter fun c => c ∉ ['\t', '\r', '\n'])) := by
    intro k
    rw [text, cleanUrl_of_parts U.isScheme (U.plain_netlocOf k),
      splitScheme_of_isScheme U.isScheme]
  have hone : checkNetloc nfkc (U.netlocOf 1) = .ok () := by
    have hok := ((urlparse_isOk_iff nfkc _).mp ⟨r, h⟩).2
    rwa [text, netlocOf_of_parts U.isScheme (U.plain_netlocOf 1) U.head_rest] at hok
  have hparse := fun k => urlparse_of_text (hclean k) (fun c hc => (U.plain_netlocOf k c hc).1)
    (head?_filter_delim U.head_rest)
    (checkBrackets_netloc U.isUserinfo U.isUrlHost (U.isPorts k))
    (checkNetloc_netloc hnfkc U.isUrlHost (U.isPorts 1) (U.isPorts k) hone)
  have hr := (hparse 1).symm.trans h
  rw [hparse k]
  obtain rfl := Except.ok.inj hr
  rfl

theorem netloc_of_accepted (hnfkc : AsciiInert nfkc) (h : U.Accepted nfkc r) :
    r.netloc = U.netlocOf 1 := by
  have hone := U.urlparse_text hnfkc h 1
  rw [Accepted] at h
  rw [h] at hone
  exact congrArg ParseResult.netloc (Except.ok.inj hone)

end PortUrl

/-! ### Normalizing -/

variable {U : PortUrl} {k : ℕ} {nfkc : Normalization} {r : ParseResult}

/-- Taking the last port away. -/
theorem dropLastPort_ports (U : PortUrl) (k : ℕ) :
    dropLastPort (U.host ++ U.ports (k + 1)) = U.host ++ U.ports k := by
  have hall : ∀ x ∈ U.port.reverse, x ≠ ':' := fun x hx heq =>
    U.colon_not_mem_port (heq ▸ List.mem_reverse.mp hx)
  have htext : (U.host ++ U.ports (k + 1)).reverse
      = U.port.reverse ++ ':' :: (U.host ++ U.ports k).reverse := by
    simp [U.ports_succ k]
  rw [dropLastPort, htext, dropWhile_ne_append hall, List.tail_cons, List.reverse_reverse]

/-- **A name with two ports or more** loses the last port. -/
theorem normalizeUrlChars_name (hnfkc : AsciiInert nfkc) (h : U.Accepted nfkc r)
    (hname : IsName U.host) (k : ℕ) :
    normalizeUrlChars nfkc (U.text (k + 2))
      = .ok (urlunparse { r with netloc := U.netlocOf (k + 1) }) := by
  have hcount : (U.host ++ U.ports (k + 2)).count ':' = k + 2 := by
    have hnone : U.host.count ':' = 0 :=
      List.count_eq_zero.mpr fun hmem => (hname.chars _ hmem).2.2 (by decide)
    rw [List.count_append, U.count_ports, hnone, Nat.zero_add]
  have hports : '[' ∉ U.host ++ U.ports (k + 2) ∧ 1 < (U.host ++ U.ports (k + 2)).count ':' :=
    ⟨(hname.bracket_not_mem (U.isPorts _)).1, by omega⟩
  rw [normalizeUrlChars, U.urlparse_text hnfkc h]
  show (if '[' ∉ afterUserinfo (U.netlocOf (k + 2)) ∧ _ then _ else _) = _
  rw [U.afterUserinfo_netlocOf, if_pos hports, dropLastPort_ports, U.userinfoSep_netlocOf]
  rfl

/-- **A single port, or a host in brackets**: a URL that reads so is returned as it is. -/
theorem normalizeUrlChars_single {url : List Char}
    (hread : urlparse nfkc url = .ok { r with netloc := U.netlocOf k })
    (hsingle : k ≤ 1 ∨ InBrackets U.host) : normalizeUrlChars nfkc url = .ok url := by
  have hports : ¬('[' ∉ U.host ++ U.ports k ∧ 1 < (U.host ++ U.ports k).count ':') := by
    rintro ⟨hopen, hcount⟩
    by_cases hbrackets : InBrackets U.host
    · exact hopen (List.mem_append_left _ (List.mem_of_head? hbrackets))
    · have hnone : U.host.count ':' = 0 := List.count_eq_zero.mpr fun hmem =>
        ((U.isUrlHost.isName hbrackets).chars _ hmem).2.2 (by decide)
      rw [List.count_append, U.count_ports, hnone] at hcount
      rcases hsingle with hk | hin
      · omega
      · exact hbrackets hin
  rw [normalizeUrlChars, hread]
  show (if '[' ∉ afterUserinfo (U.netlocOf k) ∧ _ then _ else _) = _
  rw [U.afterUserinfo_netlocOf, if_neg hports]
  rfl

/-- The number of ports after normalizing. -/
def portsLeft (U : PortUrl) (k : ℕ) : ℕ := if 2 ≤ k ∧ ¬InBrackets U.host then k - 1 else k

/-- **What is normalized** reads as the URL with one port fewer, or as the URL itself. -/
theorem exists_normalized (hnfkc : AsciiInert nfkc) (h : U.Accepted nfkc r) (k : ℕ) :
    ∃ normalized, normalizeUrlChars nfkc (U.text k) = .ok normalized ∧
      urlparse nfkc normalized = .ok { r with netloc := U.netlocOf (portsLeft U k) } := by
  by_cases hpopped : 2 ≤ k ∧ ¬InBrackets U.host
  · obtain ⟨k, rfl⟩ : ∃ j, k = j + 2 := ⟨k - 2, by omega⟩
    have hne : r.netloc ≠ [] := by
      rw [U.netloc_of_accepted hnfkc h]
      exact U.netlocOf_ne_nil 1
    have hok := ((urlparse_isOk_iff nfkc _).mp ⟨_, U.urlparse_text hnfkc h (k + 1)⟩).2
    rw [PortUrl.text, netlocOf_of_parts U.isScheme (U.plain_netlocOf _) U.head_rest] at hok
    refine ⟨_, normalizeUrlChars_name hnfkc h (U.isUrlHost.isName hpopped.2) k, ?_⟩
    rw [portsLeft, if_pos hpopped]
    exact urlparse_with_netloc h hne (U.netlocOf_ne_nil (k + 1)) (U.plain_netlocOf (k + 1))
      (checkBrackets_netloc U.isUserinfo U.isUrlHost (U.isPorts (k + 1))) hok
  · have hread := U.urlparse_text hnfkc h k
    refine ⟨_, normalizeUrlChars_single hread ?_, ?_⟩
    · by_cases hk : k ≤ 1
      · exact Or.inl hk
      · exact Or.inr (by_contra fun hin => hpopped ⟨by omega, hin⟩)
    · rw [portsLeft, if_neg hpopped]
      exact hread

theorem portsLeft_eq_one_iff (U : PortUrl) (k : ℕ) (hk : 1 ≤ k) :
    portsLeft U k = 1 ↔ k = 1 ∨ k = 2 ∧ ¬InBrackets U.host := by
  rw [portsLeft]
  by_cases hpopped : 2 ≤ k ∧ ¬InBrackets U.host
  · rw [if_pos hpopped]
    constructor
    · intro hone
      exact Or.inr ⟨by omega, hpopped.2⟩
    · rintro (rfl | ⟨rfl, -⟩)
      · omega
      · rfl
  · rw [if_neg hpopped]
    constructor
    · exact Or.inl
    · rintro (rfl | ⟨rfl, hin⟩)
      · rfl
      · exact absurd ⟨le_refl 2, hin⟩ hpopped

/-! ### Collapsing -/

/-- Normalizing the URL with `k` ports gives a URL that reads as the one with a single port, that
is normalized itself, and whose userinfo, host, path, query and fragment are those of the URL. -/
def Collapses (nfkc : Normalization) (U : PortUrl) (k : ℕ) : Prop :=
  ∃ normalized r, normalizeUrl nfkc (some (String.ofList (U.text k))) = .ok (some normalized) ∧
    urlparse nfkc normalized.toList = .ok r ∧ urlparse nfkc (U.text 1) = .ok r ∧
    normalizeUrl nfkc (some normalized) = .ok (some normalized) ∧
    ∃ r', urlparse nfkc (U.text k) = .ok r' ∧ userinfoSep r.netloc = userinfoSep r'.netloc ∧
      r.hostname = r'.hostname ∧ r.scheme = r'.scheme ∧ r.path = r'.path ∧ r.params = r'.params ∧
      r.query = r'.query ∧ r.fragment = r'.fragment

theorem normalizeUrl_ofList {url normalized : List Char}
    (h : normalizeUrlChars nfkc url = .ok normalized) :
    normalizeUrl nfkc (some (String.ofList url)) = .ok (some (String.ofList normalized)) := by
  rw [normalizeUrl, String.toList_ofList, h]
  rfl

theorem hostname_netlocOf (k : ℕ) :
    ParseResult.hostname { r with netloc := U.netlocOf k }
      = if (unbracketed U.host).isEmpty then none else some (lowerHost (unbracketed U.host)) := by
  have hinfo := hostinfo_netloc U.isUserinfo U.isUrlHost (U.isPorts k)
  rw [ParseResult.hostname, PortUrl.netlocOf, hinfo]

/-- With one port left everything is as with a single port. -/
theorem collapses_of_portsLeft (hnfkc : AsciiInert nfkc) (h : U.Accepted nfkc r)
    (hone : portsLeft U k = 1) : Collapses nfkc U k := by
  obtain ⟨normalized, hnormalized, hread⟩ := exists_normalized hnfkc h k
  have hr : ({ r with netloc := U.netlocOf 1 } : ParseResult) = r := by
    rw [← U.netloc_of_accepted hnfkc h]
  rw [hone] at hread
  refine ⟨String.ofList normalized, { r with netloc := U.netlocOf 1 },
    normalizeUrl_ofList hnormalized, by rwa [String.toList_ofList], by rw [hr]; exact h,
    normalizeUrl_ofList (normalizeUrlChars_single hread (Or.inl (le_refl 1))),
    { r with netloc := U.netlocOf k }, U.urlparse_text hnfkc h k, ?_, ?_, rfl, rfl, rfl, rfl, rfl⟩
  · rw [U.userinfoSep_netlocOf, U.userinfoSep_netlocOf]
  · rw [hostname_netlocOf, hostname_netlocOf]

/-- Reading as the URL with one port takes the ports down to one. -/
theorem portsLeft_of_collapses (hnfkc : AsciiInert nfkc) (h : U.Accepted nfkc r)
    (hcollapses : Collapses nfkc U k) : portsLeft U k = 1 := by
  obtain ⟨normalized, r₁, hnormalized, hread, hone, -⟩ := hcollapses
  obtain ⟨normalized', hnormalized', hread'⟩ := exists_normalized hnfkc h k
  rw [normalizeUrl_ofList hnormalized'] at hnormalized
  obtain rfl := Option.some.inj (Except.ok.inj hnormalized)
  rw [String.toList_ofList, hread', ← hone, U.urlparse_text hnfkc h 1] at hread
  exact U.netlocOf_inj (congrArg ParseResult.netloc (Except.ok.inj hread))

/-- **Repeated ports collapse** exactly if there is one, or two after a name. -/
theorem collapses_iff (nfkc : Normalization) (hnfkc : AsciiInert nfkc) (U : PortUrl)
    (haccepted : ∃ r, U.Accepted nfkc r) (k : ℕ) (hk : 1 ≤ k) :
    Collapses nfkc U k ↔ k = 1 ∨ k = 2 ∧ ¬InBrackets U.host := by
  obtain ⟨r, h⟩ := haccepted
  rw [← portsLeft_eq_one_iff U k hk]
  exact ⟨portsLeft_of_collapses hnfkc h, collapses_of_portsLeft hnfkc h⟩

/-- The address of an issue the function was written for. -/
def subscriptionUrl : PortUrl where
  scheme := "http".toList
  userinfo := some "user:p@ss".toList
  host := "192.168.1.106".toList
  port := "8106".toList
  rest := "/onvif/Subscription?Idx=43".toList
  isScheme := isScheme_http
  plain_userinfo := by
    rintro u hu c hc
    obtain rfl := Option.some.inj hu
    exact forall_mem_of_all (p := fun c => Plain c ∧ c ∉ ['[', ']']) (by decide) c hc
  isUrlHost := .name ⟨by decide, forall_mem_of_all (by decide)⟩
  port_ne_nil := by decide
  port_digits := List.all_eq_true.mp (by decide)
  head_rest c hc := by
    obtain rfl := Option.some.inj hc
    rfl

theorem asciiInert_id : AsciiInert id := fun _ _ _ => rfl

theorem collapses_iff_two : Collapses id subscriptionUrl 2 :=
  (collapses_iff id asciiInert_id subscriptionUrl ⟨_, rfl⟩ 2 (by decide)).mpr
    (Or.inr ⟨rfl, by decide⟩)

/-- With three ports two are left. -/
theorem not_collapses_three :
    ¬∀ (nfkc : Normalization), AsciiInert nfkc → ∀ (U : PortUrl), (∃ r, U.Accepted nfkc r) →
      ∀ k, 1 ≤ k → Collapses nfkc U k := by
  intro hall
  have hthree := portsLeft_of_collapses asciiInert_id (U := subscriptionUrl) rfl
    (hall id asciiInert_id subscriptionUrl ⟨_, rfl⟩ 3 (by decide))
  exact absurd hthree (by decide)

end PortCollapse

end Onvif
