/-
The network location of a URL: userinfo, host and port.

The host is a name or a bracketed IPv6 literal.  Userinfo ends with the last `@`, and what follows
the host is a colon and a port, possibly several times over.

* **`checkBrackets_netloc`**, **`checkNetloc_netloc`** — such network locations are accepted;
* **`hostinfo_netloc`** — what is read as their host and port.
-/
import OnvifZeep.NatRewrite

namespace Onvif

/-- Lower case, but for the zone of an address. -/
def lowerHost (host : List Char) : List Char :=
  (host.takeWhile (· ≠ '%')).map Char.toLower ++ host.dropWhile (· ≠ '%')

/-- `_hostinfo`: the text of the host, and that of the port. -/
def hostinfo (netloc : List Char) : List Char × List Char :=
  let hostinfo := afterUserinfo netloc
  if '[' ∈ hostinfo then
    let (hostname, rest) := cutAt ']' (cutAt '[' hostinfo).2
    (hostname, (cutAt ':' rest).2)
  else cutAt ':' hostinfo

/-- `ParseResult.hostname`, of an ASCII network location. -/
def ParseResult.hostname (r : ParseResult) : Option (List Char) :=
  let hostname := (hostinfo r.netloc).1
  if hostname.isEmpty then none else some (lowerHost hostname)

/-- `ParseResult.port`. -/
def ParseResult.port (r : ParseResult) : Except Exc (Option ℕ) :=
  let port := (hostinfo r.netloc).2
  if port.isEmpty then .ok none
  else if port.all Char.isDigit then
    if Nat.ofDigitChars 10 port 0 ≤ 65535 then .ok (some (Nat.ofDigitChars 10 port 0))
    else valueError "Port out of range 0-65535"
  else valueError s!"Port could not be cast to integer value as '{String.ofList port}'"

namespace UrlAuthority

open NatRewrite

variable {nfkc : Normalization} {c : Char} {s userinfo host ports : List Char}

/-! ### Hosts, ports and userinfo -/

/-- A hostname or an IPv4 address: ASCII without the delimiters of a URL. -/
structure IsName (s : List Char) : Prop where
  ne_nil : s ≠ []
  chars : ∀ c ∈ s, c.toNat < 128 ∧ Plain c ∧ c ∉ ['@', ':', '[', ']']

/-- A host as it stands in a URL. -/
inductive IsUrlHost : List Char → Prop
  | name {s : List Char} (h : IsName s) : IsUrlHost s
  | bracketed {s : List Char} (h : IsIPv6Literal s) : IsUrlHost ('[' :: s ++ [']'])

/-- What follows the host: nothing, or colons and digits. -/
structure IsPorts (ports : List Char) : Prop where
  head : ∀ c ∈ ports.head?, c = ':'
  chars : ∀ c ∈ ports, c = ':' ∨ c.isDigit = true

/-- What is before the host: nothing, or text that ends with an `@`. -/
structure IsUserinfo (userinfo : List Char) : Prop where
  last : userinfo ≠ [] → userinfo.getLast? = some '@'
  chars : ∀ c ∈ userinfo, Plain c ∧ c ∉ ['[', ']']

theorem isUserinfo_nil : IsUserinfo [] := ⟨fun h => absurd rfl h, fun _ hc => nomatch hc⟩

theorem IsPorts.plain (h : IsPorts ports) :
    ∀ c ∈ ports, c.toNat < 128 ∧ Plain c ∧ c ∉ ['@', '[', ']'] := by
  intro c hc
  rcases h.chars c hc with rfl | hdigit
  · decide
  · have halnum : c.isAlphanum = true := Bool.or_eq_true_iff.mpr (Or.inr hdigit)
    have hhost := isHostChar_of_isAlphanum halnum
    obtain ⟨hplain, hat, hopen, hclose⟩ := plain_of_isHostChar hhost
    exact ⟨toNat_lt_of_isHostChar hhost, hplain, by simp [hat, hopen, hclose]⟩

theorem IsUrlHost.plain (h : IsUrlHost host) : ∀ c ∈ host, c.toNat < 128 ∧ Plain c ∧ c ≠ '@' := by
  intro c hc
  rcases h with h | h
  · obtain ⟨hascii, hplain, hnot⟩ := h.chars c hc
    exact ⟨hascii, hplain, fun heq => hnot (by simp [heq])⟩
  · simp only [List.cons_append, List.mem_cons, List.mem_append, List.mem_nil_iff, or_false] at hc
    rcases hc with rfl | hc | rfl
    · decide
    · obtain ⟨hplain, hat, -⟩ := plain_of_isHostChar (h.isHostChar c hc)
      exact ⟨toNat_lt_of_isHostChar (h.isHostChar c hc), hplain, hat⟩
    · decide

/-- The host is an IPv6 literal in brackets. -/
def InBrackets (host : List Char) : Prop := host.head? = some '['

instance (host : List Char) : Decidable (InBrackets host) := inferInstanceAs (Decidable (_ = _))

theorem IsUrlHost.isName (h : IsUrlHost host) (hbrackets : ¬InBrackets host) : IsName host := by
  rcases h with h | h
  · exact h
  · exact absurd rfl hbrackets

/-- A name has no bracket in it. -/
theorem IsName.bracket_not_mem (h : IsName host) (hports : IsPorts ports) :
    '[' ∉ host ++ ports ∧ ']' ∉ host ++ ports := by
  constructor
  · intro hmem
    rcases List.mem_append.mp hmem with hc | hc
    · exact (h.chars _ hc).2.2 (by decide)
    · exact (hports.plain _ hc).2.2 (by decide)
  · intro hmem
    rcases List.mem_append.mp hmem with hc | hc
    · exact (h.chars _ hc).2.2 (by decide)
    · exact (hports.plain _ hc).2.2 (by decide)

/-! ### The network location -/

/-- A network location from its three parts. -/
def netloc (userinfo host ports : List Char) : List Char := userinfo ++ (host ++ ports)

theorem plain_netloc (hu : IsUserinfo userinfo) (hh : IsUrlHost host) (hp : IsPorts ports) :
    ∀ c ∈ netloc userinfo host ports, Plain c := by
  intro c hc
  rcases List.mem_append.mp hc with hc | hc
  · exact (hu.chars c hc).1
  · rcases List.mem_append.mp hc with hc | hc
    · exact (hh.plain c hc).2.1
    · exact (hp.plain c hc).2.1

theorem netloc_ne_nil (hh : IsUrlHost host) : netloc userinfo host ports ≠ [] := by
  rw [netloc, Ne, List.append_eq_nil_iff, List.append_eq_nil_iff]
  rintro ⟨-, hnil, -⟩
  rcases hh with h | h
  · exact h.ne_nil hnil
  · exact absurd hnil (by simp)

theorem afterUserinfo_netloc (hu : IsUserinfo userinfo) (hh : IsUrlHost host) (hp : IsPorts ports) :
    afterUserinfo (netloc userinfo host ports) = host ++ ports := by
  have hat : ∀ c ∈ (host ++ ports).reverse, decide (c ≠ '@') = true := by
    intro c hc
    rcases List.mem_append.mp (List.mem_reverse.mp hc) with hc | hc
    · exact decide_eq_true (hh.plain c hc).2.2
    · refine decide_eq_true fun heq => (hp.plain c hc).2.2 ?_
      simp [heq]
  rw [afterUserinfo, netloc, List.reverse_append, List.takeWhile_append_of_pos hat]
  rcases hrev : userinfo.reverse with _ | ⟨c, rest⟩
  · simp
  · have hlast := hu.last fun hnil => by simp [hnil] at hrev
    rw [← List.head?_reverse, hrev] at hlast
    obtain rfl := Option.some.inj hlast
    rw [List.takeWhile_cons_of_neg (by simp), List.append_nil, List.reverse_reverse]

/-- **The brackets** of such a network location are accepted. -/
theorem checkBrackets_netloc (hu : IsUserinfo userinfo) (hh : IsUrlHost host) (hp : IsPorts ports) :
    checkBrackets (netloc userinfo host ports) = .ok () := by
  have hself := afterUserinfo_netloc hu hh hp
  have huserinfo : '[' ∉ userinfo ∧ ']' ∉ userinfo :=
    ⟨fun h => (hu.chars _ h).2 (by decide), fun h => (hu.chars _ h).2 (by decide)⟩
  rcases hh with h | h
  · obtain ⟨hopen, hclose⟩ := h.bracket_not_mem hp
    have hopen' : '[' ∉ netloc userinfo host ports := by simp [netloc, huserinfo, hopen]
    have hclose' : ']' ∉ netloc userinfo host ports := by simp [netloc, huserinfo, hclose]
    rw [checkBrackets, decide_eq_false hopen', decide_eq_false hclose', if_neg (by decide),
      if_neg hopen']
  · rename_i s
    have hopen : '[' ∈ netloc userinfo ('[' :: s ++ [']']) ports := by simp [netloc]
    have hclose : ']' ∈ netloc userinfo ('[' :: s ++ [']']) ports := by simp [netloc]
    have htext : '[' :: s ++ [']'] ++ ports = '[' :: (s ++ ']' :: ports) := by simp
    have hbracket : ∀ c ∈ s, c ≠ ']' := fun c hc =>
      (plain_of_isHostChar (h.isHostChar c hc)).2.2.2
    have hports : (!ports.isEmpty && decide (ports.head? ≠ some ':')) = false := by
      rcases ports with _ | ⟨c, ports⟩
      · rfl
      · have hc := hp.head c rfl
        simp [hc]
    have hmem : '[' ∈ '[' :: (s ++ ']' :: ports) := List.mem_cons_self
    rw [checkBrackets, decide_eq_true hopen, decide_eq_true hclose, if_neg (by decide),
      if_pos hopen, checkBracketedNetloc, hself, htext, if_pos hmem,
      List.takeWhile_cons_of_neg (by simp), List.dropWhile_cons_of_neg (by simp)]
    simp only [List.drop_succ_cons, List.drop_zero]
    rw [takeWhile_ne_append hbracket, dropWhile_ne_append hbracket]
    simp only [List.drop_succ_cons, List.drop_zero]
    rw [hports]
    exact checkBracketedHost_of_isIPv6Literal h

/-- What is assumed of NFKC: text that ASCII follows is normalized by itself, and the ASCII is kept
as it is. -/
def AsciiInert (nfkc : Normalization) : Prop :=
  ∀ s t : List Char, (∀ c ∈ t, c.toNat < 128) → nfkc (s ++ t) = nfkc s ++ t

/-- The characters that NFKC is not asked about. -/
def withoutDelims (s : List Char) : List Char := s.filter fun c => c ∉ ['@', ':', '#', '?']

/-- What NFKC turns into a delimiter is refused. -/
theorem checkNetloc_eq (nfkc : Normalization) (s : List Char) :
    checkNetloc nfkc s =
      if s.all fun c => c.toNat < 128 then .ok ()
      else if nfkc (withoutDelims s) = withoutDelims s then .ok ()
      else if (nfkc (withoutDelims s)).any fun c => c ∈ ['/', '?', '#', '@', ':'] then
        valueError s!"netloc '{String.ofList s}' contains invalid characters under NFKC normalization"
      else .ok () := rfl

/-- **NFKC is asked about the userinfo** alone: the host and the ports are inert. -/
theorem checkNetloc_netloc (hnfkc : AsciiInert nfkc) (hh : IsUrlHost host) {ports' : List Char}
    (hp : IsPorts ports) (hp' : IsPorts ports')
    (hok : checkNetloc nfkc (netloc userinfo host ports) = .ok ()) :
    checkNetloc nfkc (netloc userinfo host ports') = .ok () := by
  have hascii : ∀ {ports}, IsPorts ports → ∀ c ∈ host ++ ports, c.toNat < 128 := by
    intro ports hp c hc
    rcases List.mem_append.mp hc with hc | hc
    · exact (hh.plain c hc).1
    · exact (hp.plain c hc).1
  have hinert : ∀ {ports}, IsPorts ports → nfkc (withoutDelims (netloc userinfo host ports))
      = nfkc (withoutDelims userinfo) ++ withoutDelims (host ++ ports) := by
    intro ports hp
    rw [withoutDelims, netloc, List.filter_append]
    exact hnfkc _ _ fun c hc => hascii hp c (List.mem_of_mem_filter hc)
  -- none of the delimiters is in what follows the userinfo
  have hdelims : ∀ {ports}, IsPorts ports → (withoutDelims (host ++ ports)).any
      (fun c => c ∈ ['/', '?', '#', '@', ':']) = false := by
    intro ports hp
    rw [List.any_eq_false]
    intro c hc
    obtain ⟨hmem, hkept⟩ := List.mem_filter.mp hc
    have hslash : c ≠ '/' := by
      rintro rfl
      rcases List.mem_append.mp hmem with hmem | hmem
      · exact absurd (hh.plain _ hmem).2.1.1 (by decide)
      · exact absurd (hp.plain _ hmem).2.1.1 (by decide)
    simp at hkept ⊢
    exact ⟨hslash, hkept.2.2.2, hkept.2.2.1, hkept.1, hkept.2.1⟩
  have hall : ∀ {ports}, IsPorts ports →
      (netloc userinfo host ports).all (fun c => c.toNat < 128)
        = userinfo.all fun c => c.toNat < 128 := by
    intro ports hp
    have htail : (host ++ ports).all (fun c => decide (c.toNat < 128)) = true :=
      List.all_eq_true.mpr fun c hc => decide_eq_true (hascii hp c hc)
    rw [netloc, List.all_append, htail, Bool.and_true]
  rw [checkNetloc_eq, hall hp, hinert hp] at hok
  rw [checkNetloc_eq, hall hp', hinert hp']
  simp only [List.any_append, hdelims hp, Bool.or_false] at hok
  simp only [List.any_append, hdelims hp', Bool.or_false]
  by_cases hascii' : userinfo.all (fun c => c.toNat < 128)
  · rw [if_pos hascii']
  · rw [if_neg hascii'] at hok ⊢
    by_cases hsame : nfkc (withoutDelims userinfo) = withoutDelims userinfo
    · have hfixed : nfkc (withoutDelims userinfo) ++ withoutDelims (host ++ ports')
          = withoutDelims (netloc userinfo host ports') := by
        rw [hsame, netloc, withoutDelims, withoutDelims, withoutDelims, ← List.filter_append]
      rw [if_pos hfixed]
    · have hmoved : nfkc (withoutDelims userinfo) ++ withoutDelims (host ++ ports)
          ≠ withoutDelims (netloc userinfo host ports) := by
        rw [netloc, withoutDelims, withoutDelims, withoutDelims, List.filter_append userinfo]
        exact fun heq => hsame (List.append_cancel_right heq)
      rw [if_neg hmoved] at hok
      split
      · rfl
      · split at hok
        · exact nomatch hok
        · rename_i hclean
          rw [if_neg hclean]

/-- An ASCII network location is accepted. -/
theorem checkNetloc_ascii (hh : IsUrlHost host) (hp : IsPorts ports) :
    checkNetloc nfkc (netloc [] host ports) = .ok () := by
  refine if_pos (List.all_eq_true.mpr fun c hc => decide_eq_true ?_)
  rw [netloc, List.nil_append] at hc
  rcases List.mem_append.mp hc with hc | hc
  · exact (hh.plain c hc).1
  · exact (hp.plain c hc).1

/-! ### What is read -/

/-- A host without its brackets. -/
def unbracketed (host : List Char) : List Char :=
  if host.head? = some '[' then (host.drop 1).dropLast else host

@[simp] theorem unbracketed_bracketed (s : List Char) : unbracketed ('[' :: s ++ [']']) = s := by
  simp [unbracketed]

/-- **The host and the port** that are read: the port is the text after the first colon. -/
theorem hostinfo_netloc (hu : IsUserinfo userinfo) (hh : IsUrlHost host) (hp : IsPorts ports) :
    hostinfo (netloc userinfo host ports) = (unbracketed host, ports.drop 1) := by
  have hcut : cutAt ':' ports = ([], ports.drop 1) := by
    rcases ports with _ | ⟨c, ports⟩
    · rfl
    · obtain rfl := hp.head c rfl
      simp [cutAt]
  rw [hostinfo, afterUserinfo_netloc hu hh hp]
  rcases hh with h | h
  · have hopen := (h.bracket_not_mem hp).1
    have hcolon : ∀ x ∈ host, x ≠ ':' := fun x hx heq => (h.chars x hx).2.2 (by simp [heq])
    have hhead : host.head? ≠ some '[' := fun hmem =>
      hopen (List.mem_append_left _ (List.mem_of_head? hmem))
    rw [if_neg hopen, unbracketed, if_neg hhead]
    rcases ports with _ | ⟨c, ports⟩
    · have hall : ∀ x ∈ host, decide (x ≠ ':') = true := fun x hx => decide_eq_true (hcolon x hx)
      rw [List.append_nil, cutAt, List.takeWhile_eq_self_iff.mpr hall,
        List.dropWhile_eq_nil_iff.mpr hall]
    · obtain rfl := hp.head c rfl
      exact cutAt_append hcolon ports
  · rename_i s
    have hclose : ∀ x ∈ s, x ≠ ']' := fun x hx => (plain_of_isHostChar (h.isHostChar x hx)).2.2.2
    have hopen : '[' ∈ '[' :: s ++ [']'] ++ ports := by simp
    have hfirst : cutAt '[' ('[' :: s ++ [']'] ++ ports) = ([], s ++ ']' :: ports) := by
      simp [cutAt]
    have hsecond : cutAt ']' (s ++ ']' :: ports) = (s, ports) := cutAt_append hclose ports
    rw [if_pos hopen, hfirst, hsecond]
    dsimp only
    rw [hcut, unbracketed_bracketed]

end UrlAuthority

end Onvif
