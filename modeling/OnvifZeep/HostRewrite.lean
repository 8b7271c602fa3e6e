/-
`replace_host_port` replaces the authority of a URL and nothing else.

The host is a name, an IPv4 address or an IPv6 literal with or without its brackets.  The rewritten
URL is read back with every other component as it was, so a later rewrite finds the same components
and wins.

* **`urlparse_rewritten`** — what is read of a rewritten URL;
* **`replaceHostPort_authority`** — the same for `replace_host_port` itself, twice over.
-/
import OnvifZeep.UrlRoundTrip
import OnvifZeep.UrlAuthority

namespace Onvif

namespace HostRewrite

open NatRewrite UrlRoundTrip UrlAuthority

variable {nfkc : Normalization} {url host s : List Char} {r : ParseResult}

/-- The hosts that can be given: those that can stand in a URL, and a bare IPv6 literal. -/
inductive IsGivenHost : List Char → Prop
  | urlHost {host : List Char} (h : IsUrlHost host) : IsGivenHost host
  | ipv6 {s : List Char} (h : IsIPv6Literal s) : IsGivenHost s

theorem head?_ne_bracket (h : IsIPv6Literal s) : s.head? ≠ some '[' := by
  intro hhead
  have hmem := List.mem_of_head? hhead
  exact (plain_of_isHostChar (h.isHostChar _ hmem)).2.2.1 rfl

/-- **Brackets are put around a bare literal**, and around nothing else. -/
theorem bracketHost_of_isGivenHost (h : IsGivenHost host) :
    IsUrlHost (bracketHost host) ∧ unbracketed (bracketHost host) = unbracketed host := by
  rcases h with h | h
  · have hself : bracketHost host = host := by
      rcases h with h | h
      · have hcolon : host.count ':' = 0 :=
          List.count_eq_zero.mpr fun hmem => (h.chars _ hmem).2.2 (by decide)
        exact if_pos (Or.inr (by omega))
      · exact if_pos (Or.inl rfl)
    rw [hself]
    exact ⟨h, rfl⟩
  · rw [bracketHost_of_isIPv6Literal h]
    refine ⟨.bracketed h, ?_⟩
    rw [unbracketed_bracketed, unbracketed, if_neg (head?_ne_bracket h)]

theorem isPorts_port (port : ℕ) : IsPorts (':' :: (toString port).toList) where
  head c hc := (Option.some.inj hc).symm
  chars c hc := by
    rcases List.mem_cons.mp hc with rfl | hc
    · exact Or.inl rfl
    · exact Or.inr (isDigit_of_mem_port hc)

/-- The network location that is put into a URL. -/
def newNetloc (host : List Char) (port : ℕ) : List Char :=
  netloc [] (bracketHost host) (':' :: (toString port).toList)

theorem replaceHostPortChars_eq (hurl : urlparse nfkc url = .ok r) (host : List Char) (port : ℕ) :
    replaceHostPortChars nfkc url host port
      = .ok (urlunparse { r with netloc := newNetloc host port }) := by
  rw [replaceHostPortChars, hurl]
  rfl

/-- **A rewritten URL** is read back with the new network location. -/
theorem urlparse_rewritten (hurl : urlparse nfkc url = .ok r) (hnetloc : r.netloc ≠ [])
    (hhost : IsGivenHost host) (port : ℕ) :
    urlparse nfkc (urlunparse { r with netloc := newNetloc host port })
      = .ok { r with netloc := newNetloc host port } := by
  have hauthority := (bracketHost_of_isGivenHost hhost).1
  exact urlparse_with_netloc hurl hnetloc (netloc_ne_nil hauthority)
    (plain_netloc isUserinfo_nil hauthority (isPorts_port port))
    (checkBrackets_netloc isUserinfo_nil hauthority (isPorts_port port))
    (checkNetloc_ascii hauthority (isPorts_port port))

/-! ### The host and the port -/

theorem unbracketed_ne_nil (h : IsUrlHost host) : unbracketed host ≠ [] := by
  rcases h with h | h
  · have hhead : host.head? ≠ some '[' := fun hmem =>
      (h.chars _ (List.mem_of_head? hmem)).2.2 (by decide)
    rw [unbracketed, if_neg hhead]
    exact h.ne_nil
  · have htwo := h.two_le_count
    rw [unbracketed_bracketed]
    rintro rfl
    simp at htwo

theorem hostname_newNetloc (hhost : IsGivenHost host) (port : ℕ) :
    ParseResult.hostname { r with netloc := newNetloc host port }
      = some (lowerHost (unbracketed host)) := by
  obtain ⟨hauthority, hsame⟩ := bracketHost_of_isGivenHost hhost
  have hne := unbracketed_ne_nil hauthority
  have hinfo := hostinfo_netloc isUserinfo_nil hauthority (isPorts_port port)
  rw [hsame] at hne hinfo
  rw [ParseResult.hostname, newNetloc, hinfo]
  simp [hne]

theorem port_newNetloc (hhost : IsGivenHost host) {port : ℕ} (hport : port ≤ 65535) :
    ParseResult.port { r with netloc := newNetloc host port } = .ok (some port) := by
  obtain ⟨hauthority, -⟩ := bracketHost_of_isGivenHost hhost
  have hdigits : (toString port).toList = Nat.toDigits 10 port := Nat.toList_repr
  have hinfo := hostinfo_netloc isUserinfo_nil hauthority (isPorts_port port)
  have hne : (Nat.toDigits 10 port).isEmpty = false := by simp
  have hall : (Nat.toDigits 10 port).all Char.isDigit = true := List.all_eq_true.mpr fun c hc =>
    Nat.isDigit_of_mem_toDigits (by decide) (by decide) hc
  rw [ParseResult.port, newNetloc, hinfo, List.drop_succ_cons, List.drop_zero, hdigits]
  simp only [hne, hall, Nat.ofDigitChars_ten_toDigits, hport, if_true]
  rfl

/-- An address without a zone is lower-cased as a whole. -/
theorem lowerHost_of_no_zone (h : '%' ∉ s) : lowerHost s = s.map Char.toLower := by
  have hall : ∀ c ∈ s, decide (c ≠ '%') = true := fun c hc =>
    decide_eq_true fun heq => h (heq ▸ hc)
  rw [lowerHost, List.takeWhile_eq_self_iff.mpr hall, List.dropWhile_eq_nil_iff.mpr hall,
    List.append_nil]

/-! ### The function -/

theorem replaceHostPort_of_ne {url host : String} {port : ℕ} (hurl : url ≠ "") :
    replaceHostPort nfkc (some url) host port
      = (replaceHostPortChars nfkc url.toList host.toList port).map fun l =>
          some (String.ofList l) := by
  rw [replaceHostPort, if_neg hurl]

/-- **`replace_host_port` changes only the authority**, and a later rewrite wins. -/
theorem replaceHostPort_authority (nfkc : Normalization) (url : String) {r : ParseResult}
    (hurl : urlparse nfkc url.toList = .ok r) (hnetloc : r.netloc ≠ []) (host : String)
    (hhost : IsGivenHost host.toList) (port : ℕ) :
    ∃ rewritten, replaceHostPort nfkc (some url) host port = .ok (some rewritten) ∧
      (∃ r', urlparse nfkc rewritten.toList = .ok r' ∧ r'.scheme = r.scheme ∧ r'.path = r.path ∧
        r'.params = r.params ∧ r'.query = r.query ∧ r'.fragment = r.fragment ∧
        r'.hostname = some (lowerHost (unbracketed host.toList)) ∧
        ('%' ∉ host.toList → r'.hostname = some ((unbracketed host.toList).map Char.toLower)) ∧
        (port ≤ 65535 → r'.port = .ok (some port))) ∧
      ∀ (host' : String) (port' : ℕ), IsGivenHost host'.toList →
        replaceHostPort nfkc (some rewritten) host' port'
          = replaceHostPort nfkc (some url) host' port' := by
  have hne : url ≠ "" := by
    rintro rfl
    obtain rfl := Except.ok.inj hurl
    exact hnetloc rfl
  have hread := urlparse_rewritten hurl hnetloc hhost port
  have hrewritten : urlunparse { r with netloc := newNetloc host.toList port } ≠ [] :=
    urlunparse_ne_nil (netloc_ne_nil (bracketHost_of_isGivenHost hhost).1)
  refine ⟨String.ofList (urlunparse { r with netloc := newNetloc host.toList port }), ?_,
    ⟨{ r with netloc := newNetloc host.toList port }, ?_, rfl, rfl, rfl, rfl, rfl,
      hostname_newNetloc hhost port, fun hzone => ?_, port_newNetloc hhost⟩,
    fun host' port' _ => ?_⟩
  · rw [replaceHostPort_of_ne hne, replaceHostPortChars_eq hurl]
    rfl
  · rwa [String.toList_ofList]
  · -- taking the brackets away leaves no zone either
    have hunbracketed : '%' ∉ unbracketed host.toList := by
      intro hmem
      rw [unbracketed] at hmem
      split at hmem
      · exact hzone (List.mem_of_mem_drop (List.dropLast_subset _ hmem))
      · exact hzone hmem
    rw [hostname_newNetloc hhost, lowerHost_of_no_zone hunbracketed]
  · -- the second rewrite reads the components of the first URL
    have hne' : String.ofList (urlunparse { r with netloc := newNetloc host.toList port }) ≠ "" := by
      intro heq
      have hlist := congrArg String.toList heq
      rw [String.toList_ofList] at hlist
      exact hrewritten hlist
    rw [replaceHostPort_of_ne hne', replaceHostPort_of_ne hne, String.toList_ofList,
      replaceHostPortChars_eq hread, replaceHostPortChars_eq hurl]

theorem replaceHostPort_authority_ipv6 :
    ∃ rewritten, replaceHostPort id (some "http://10.0.0.5/onvif/media;v=1?x=1") "2001:DB8::1" 8080
        = .ok (some rewritten) ∧
      ∃ r', urlparse id rewritten.toList = .ok r' ∧ r'.path = "/onvif/media".toList ∧
        r'.params = "v=1".toList ∧ r'.hostname = some "2001:db8::1".toList ∧
        r'.port = .ok (some 8080) := by
  have hliteral : IsIPv6Literal "2001:DB8::1".toList :=
    ⟨by decide +kernel, forall_mem_of_all (by decide), forall_mem_of_all (by decide)⟩
  obtain ⟨rewritten, hok, ⟨r', hr', -, hpath, hparams, -, -, -, hhostname, hport⟩, -⟩ :=
    replaceHostPort_authority id "http://10.0.0.5/onvif/media;v=1?x=1" rfl (by decide) "2001:DB8::1"
      (.ipv6 hliteral) 8080
  exact ⟨rewritten, hok, r', hr', hpath, hparams, hhostname (by decide), hport (by decide)⟩

end HostRewrite

end Onvif
