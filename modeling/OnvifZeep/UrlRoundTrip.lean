/-
Round trips through `urlunparse` and `urlparse`.

The components that `urlparse` takes a URL apart into are well-formed (`Components`): the
delimiters between them are in none of them.  Put together again with any network location that is
accepted, they are read back as they are.

* **`components_of_urlparse`** — what is read is well-formed;
* **`urlparse_urlunparse`** — what is well-formed is read back;
* **`urlparse_with_netloc`** — replacing the network location changes nothing else.
-/
import OnvifZeep.NatRewrite

namespace Onvif

namespace UrlRoundTrip

open NatRewrite

variable {nfkc : Normalization} {c : Char} {s : List Char}

/-! ### Splitting at a character -/

/-- A component with its delimiter, left out where it is empty. -/
def part (c : Char) (s : List Char) : List Char := if s.isEmpty then [] else c :: s

theorem mem_part {x : Char} (h : x ∈ part c s) : x = c ∨ x ∈ s := by
  rw [part] at h
  split at h
  · simp at h
  · simpa using h

/-- **A component is read back** after what has no delimiter in it. -/
theorem cutAt_part {front : List Char} (hfront : ∀ x ∈ front, x ≠ c) (s : List Char) :
    cutAt c (front ++ part c s) = (front, s) := by
  rcases s with _ | ⟨x, s⟩
  · have hall : ∀ x ∈ front, decide (x ≠ c) = true := fun x hx => decide_eq_true (hfront x hx)
    have hnil : part c [] = [] := rfl
    rw [hnil, List.append_nil, cutAt, List.takeWhile_eq_self_iff.mpr hall,
      List.dropWhile_eq_nil_iff.mpr hall]
    rfl
  · exact cutAt_append hfront (x :: s)

theorem cutAt_fst_ne (c : Char) (s : List Char) : ∀ x ∈ (cutAt c s).1, x ≠ c := by
  intro x hx
  simpa using List.mem_takeWhile_imp hx

theorem cutAt_fst_subset (c : Char) (s : List Char) : (cutAt c s).1 ⊆ s :=
  (List.takeWhile_sublist _).subset

theorem cutAt_snd_subset (c : Char) (s : List Char) : (cutAt c s).2 ⊆ s :=
  ((List.drop_sublist _ _).trans (List.dropWhile_sublist _)).subset

/-! ### Parameters -/

/-- The text after the last slash. -/
def lastSegment (path : List Char) : List Char := (path.reverse.takeWhile (· ≠ '/')).reverse

/-- A path up to its last slash, and the segment after it. -/
theorem exists_lastSegment (path : List Char) :
    ∃ front, path = front ++ lastSegment path ∧ (front ≠ [] → front.getLast? = some '/') := by
  refine ⟨(path.reverse.dropWhile (· ≠ '/')).reverse, ?_, ?_⟩
  · rw [lastSegment, ← List.reverse_append, List.takeWhile_append_dropWhile, List.reverse_reverse]
  · intro hne
    rw [List.getLast?_reverse]
    rcases hdrop : path.reverse.dropWhile (· ≠ '/') with _ | ⟨c, rest⟩
    · rw [hdrop] at hne
      exact absurd rfl hne
    · have hhead := List.head?_dropWhile_not (fun c => decide (c ≠ '/')) path.reverse
      rw [hdrop] at hhead
      simpa using hhead

theorem slash_not_mem_lastSegment (path : List Char) : '/' ∉ lastSegment path := by
  intro h
  have hne := List.mem_takeWhile_imp (List.mem_reverse.mp h)
  simp at hne

/-- A front that ends in a slash leaves the last segment alone. -/
theorem lastSegment_append {front last : List Char}
    (hfront : front ≠ [] → front.getLast? = some '/') (hlast : '/' ∉ last) :
    lastSegment (front ++ last) = last := by
  have hall : ∀ x ∈ last.reverse, decide (x ≠ '/') = true := fun x hx =>
    decide_eq_true fun heq => hlast (heq ▸ List.mem_reverse.mp hx)
  rw [lastSegment, List.reverse_append, List.takeWhile_append_of_pos hall]
  rcases hrev : front.reverse with _ | ⟨c, rest⟩
  · simp
  · have hslash := hfront fun hnil => by simp [hnil] at hrev
    rw [← List.head?_reverse, hrev] at hslash
    obtain rfl := Option.some.inj hslash
    rw [List.takeWhile_cons_of_neg (by simp), List.append_nil, List.reverse_reverse]

/-- `_splitparams` of a front and a last segment. -/
theorem splitParams_append {front last : List Char}
    (hfront : front ≠ [] → front.getLast? = some '/') (hlast : '/' ∉ last) :
    splitParams (front ++ last) = (front ++ (cutAt ';' last).1, (cutAt ';' last).2) := by
  have hsegment : ((front ++ last).reverse.takeWhile (· ≠ '/')).reverse = last :=
    lastSegment_append hfront hlast
  rw [splitParams, hsegment, List.length_append, Nat.add_sub_cancel, List.take_left']
  rfl

/-- **Parameters are read back** after a path whose last segment has no semicolon. -/
theorem splitParams_part {path params : List Char} (hpath : ';' ∉ lastSegment path)
    (hparams : '/' ∉ params) : splitParams (path ++ part ';' params) = (path, params) := by
  obtain ⟨front, hsplit, hfront⟩ := exists_lastSegment path
  have hlast : '/' ∉ lastSegment path ++ part ';' params := by
    intro h
    rcases List.mem_append.mp h with h | h
    · exact slash_not_mem_lastSegment path h
    · rcases mem_part h with heq | h
      · exact absurd heq (by decide)
      · exact hparams h
  have hnone : ∀ x ∈ lastSegment path, x ≠ ';' := fun x hx heq => hpath (heq ▸ hx)
  have htext : path ++ part ';' params = front ++ (lastSegment path ++ part ';' params) := by
    rw [← List.append_assoc, ← hsplit]
  rw [htext, splitParams_append hfront hlast, cutAt_part hnone, ← hsplit]

/-- What `_splitparams` makes of a path, by its last segment. -/
theorem exists_splitParams (path : List Char) :
    ∃ front last, path = front ++ last ∧ (front ≠ [] → front.getLast? = some '/') ∧ '/' ∉ last ∧
      splitParams path = (front ++ (cutAt ';' last).1, (cutAt ';' last).2) := by
  obtain ⟨front, hsplit, hfront⟩ := exists_lastSegment path
  refine ⟨front, lastSegment path, hsplit, hfront, slash_not_mem_lastSegment path, ?_⟩
  conv_lhs => rw [hsplit]
  exact splitParams_append hfront (slash_not_mem_lastSegment path)

theorem splitParams_subset (path : List Char) :
    (splitParams path).1 ⊆ path ∧ (splitParams path).2 ⊆ path := by
  obtain ⟨front, last, rfl, -, -, hsplit⟩ := exists_splitParams path
  rw [hsplit]
  constructor
  · exact List.append_subset.mpr ⟨List.subset_append_left _ _,
      List.Subset.trans (cutAt_fst_subset ';' last) (List.subset_append_right _ _)⟩
  · exact List.Subset.trans (cutAt_snd_subset ';' last) (List.subset_append_right _ _)

theorem semicolon_not_mem_splitParams (path : List Char) :
    ';' ∉ lastSegment (splitParams path).1 := by
  obtain ⟨front, last, -, hfront, hlast, hsplit⟩ := exists_splitParams path
  rw [hsplit, lastSegment_append hfront fun h => hlast (cutAt_fst_subset ';' last h)]
  exact fun h => cutAt_fst_ne ';' last ';' h rfl

theorem slash_not_mem_splitParams (path : List Char) : '/' ∉ (splitParams path).2 := by
  obtain ⟨front, last, -, -, hlast, hsplit⟩ := exists_splitParams path
  rw [hsplit]
  exact fun h => hlast (cutAt_snd_subset ';' last h)

/-- A path that begins with a slash keeps it, and one that is empty has no parameters. -/
theorem splitParams_absolute {path : List Char} (h : ∀ c ∈ path.head?, c = '/') :
    (∀ c ∈ (splitParams path).1.head?, c = '/') ∧
      ((splitParams path).1 = [] → (splitParams path).2 = []) := by
  obtain ⟨front, last, rfl, -, hlast, hsplit⟩ := exists_splitParams path
  rw [hsplit]
  rcases front with _ | ⟨c, front⟩
  · -- the last segment has no slash to begin with, so the path is empty
    have hnil : last = [] := by
      rcases last with _ | ⟨x, last⟩
      · rfl
      · obtain rfl : x = '/' := h x rfl
        exact absurd List.mem_cons_self hlast
    subst hnil
    exact ⟨by simp [cutAt], fun _ => rfl⟩
  · exact ⟨h, by simp⟩

/-! ### Components -/

/-- The components of a URL with a network location: no delimiter is in a component before it. -/
structure Components (r : ParseResult) : Prop where
  scheme : r.scheme = [] ∨ IsScheme r.scheme ∧ r.scheme.map Char.toLower = r.scheme
  clean : ∀ c ∈ r.path ++ r.params ++ r.query ++ r.fragment, c ∉ ['\t', '\r', '\n']
  path : ∀ c ∈ r.path, c ≠ '?' ∧ c ≠ '#'
  params : ∀ c ∈ r.params, c ≠ '?' ∧ c ≠ '#' ∧ c ≠ '/'
  query : ∀ c ∈ r.query, c ≠ '#'
  absolute : ∀ c ∈ r.path.head?, c = '/'
  params_nil : r.path = [] → r.params = []
  used : String.ofList r.scheme ∈ usesParams → ';' ∉ lastSegment r.path
  unused : String.ofList r.scheme ∉ usesParams → r.params = []

/-- The components do not depend on the network location. -/
theorem Components.with_netloc {r : ParseResult} (h : Components r) (netloc : List Char) :
    Components { r with netloc := netloc } :=
  ⟨h.scheme, h.clean, h.path, h.params, h.query, h.absolute, h.params_nil, h.used, h.unused⟩

/-- What is before a URL's network location. -/
def schemePart (scheme : List Char) : List Char := if scheme.isEmpty then [] else scheme ++ [':']

/-- What is after it. -/
def afterNetloc (r : ParseResult) : List Char :=
  r.path ++ part ';' r.params ++ part '?' r.query ++ part '#' r.fragment

theorem urlunparse_of_components {r : ParseResult} (h : Components r) (hnetloc : r.netloc ≠ []) :
    urlunparse r = schemePart r.scheme ++ '/' :: '/' :: (r.netloc ++ afterNetloc r) := by
  have hempty : r.netloc.isEmpty = false := by
    rw [Bool.eq_false_iff, Ne, List.isEmpty_iff]
    exact hnetloc
  -- the path is empty or begins with a slash, so none is put before it
  have hpath : (if r.params.isEmpty then r.path else r.path ++ ';' :: r.params)
      = r.path ++ part ';' r.params := by
    rw [part]
    split <;> simp
  have hslash : (!(r.path ++ part ';' r.params).isEmpty &&
      decide ((r.path ++ part ';' r.params).head? ≠ some '/')) = false := by
    rcases hp : r.path with _ | ⟨c, path⟩
    · simp [h.params_nil hp, part]
    · have hc := h.absolute c (by rw [hp]; rfl)
      simp [hc]
  rw [urlunparse, hpath, hempty]
  simp only [Bool.not_false, if_true, hslash]
  rw [afterNetloc, schemePart]
  generalize r.path ++ part ';' r.params = path
  -- each of the other components is there or not
  by_cases hs : r.scheme.isEmpty <;> by_cases hq : r.query.isEmpty <;>
    by_cases hf : r.fragment.isEmpty <;> simp [part, hs, hq, hf]

/-- The cleaned URL, split as far as its network location. -/
theorem urlparse_of_text {scheme netloc rest : List Char} {url : List Char}
    (hclean : splitScheme (cleanUrl url) = (scheme, '/' :: '/' :: (netloc ++ rest)))
    (hnetloc : ∀ c ∈ netloc, isDelim c = false) (hrest : ∀ c ∈ rest.head?, isDelim c = true)
    (hbrackets : checkBrackets netloc = .ok ()) (hnfkc : checkNetloc nfkc netloc = .ok ()) :
    urlparse nfkc url =
      let (front, fragment) := cutAt '#' rest
      let (path, query) := cutAt '?' front
      let (path, params) :=
        if String.ofList scheme ∈ usesParams then splitParams path else (path, [])
      .ok { scheme, netloc, path, params, query, fragment } := by
  have htake := takeWhile_netloc hnetloc hrest
  have hsplit : splitNetloc ('/' :: '/' :: (netloc ++ rest)) = (netloc, rest) := by
    have hdrop : (netloc ++ rest).dropWhile (!isDelim ·) = rest := by
      have hboth := List.takeWhile_append_dropWhile (p := (!isDelim ·)) (l := netloc ++ rest)
      rw [htake] at hboth
      exact List.append_cancel_left hboth
    rw [splitNetloc, htake, hdrop]
  rw [urlparse, hclean]
  simp only [hsplit, hbrackets, hnfkc]
  rfl

/-! ### Reading back -/

theorem splitScheme_slash (rest : List Char) :
    splitScheme ('/' :: '/' :: rest) = ([], '/' :: '/' :: rest) := by
  have hhead : (('/' :: '/' :: rest).takeWhile (· ≠ ':')).head? = some '/' := by simp
  rw [splitScheme, hhead]
  simp

/-- A scheme that is lower-case already, or none, is read back from clean text. -/
theorem splitScheme_cleanUrl {scheme netloc rest : List Char}
    (hscheme : scheme = [] ∨ IsScheme scheme ∧ scheme.map Char.toLower = scheme)
    (hnetloc : ∀ c ∈ netloc, Plain c) (hrest : ∀ c ∈ rest, c ∉ ['\t', '\r', '\n']) :
    splitScheme (cleanUrl (schemePart scheme ++ '/' :: '/' :: (netloc ++ rest)))
      = (scheme, '/' :: '/' :: (netloc ++ rest)) := by
  rcases hscheme with rfl | ⟨hscheme, hlower⟩
  · have hclean : cleanUrl ('/' :: '/' :: (netloc ++ rest)) = '/' :: '/' :: (netloc ++ rest) := by
      rw [cleanUrl, List.dropWhile_cons_of_neg (by decide)]
      refine filter_eq_self_of fun c hc => ?_
      rcases List.mem_cons.mp hc with rfl | hc
      · decide
      · rcases List.mem_cons.mp hc with rfl | hc
        · decide
        · rcases List.mem_append.mp hc with hc | hc
          · exact (hnetloc c hc).2
          · exact hrest c hc
    show splitScheme (cleanUrl ('/' :: '/' :: (netloc ++ rest))) = _
    rw [hclean, splitScheme_slash]
  · have hne : scheme.isEmpty = false := by
      rw [Bool.eq_false_iff, Ne, List.isEmpty_iff]
      rintro rfl
      cases hscheme.head
    have htext : schemePart scheme ++ '/' :: '/' :: (netloc ++ rest)
        = scheme ++ ':' :: '/' :: '/' :: (netloc ++ rest) := by
      simp [schemePart, hne]
    rw [htext, cleanUrl_of_parts hscheme hnetloc, filter_eq_self_of hrest,
      splitScheme_of_isScheme hscheme, hlower]

theorem clean_of_mem_part {x : Char} (hc : c ∉ ['\t', '\r', '\n'])
    (hs : ∀ x ∈ s, x ∉ ['\t', '\r', '\n']) (hx : x ∈ part c s) : x ∉ ['\t', '\r', '\n'] := by
  rcases mem_part hx with rfl | hx
  · exact hc
  · exact hs x hx

theorem clean_afterNetloc {r : ParseResult} (h : Components r) :
    ∀ c ∈ afterNetloc r, c ∉ ['\t', '\r', '\n'] := by
  have hclean := h.clean
  simp only [List.mem_append] at hclean
  intro c hc
  rcases List.mem_append.mp hc with hc | hc
  · rcases List.mem_append.mp hc with hc | hc
    · rcases List.mem_append.mp hc with hc | hc
      · exact hclean c (Or.inl (Or.inl (Or.inl hc)))
      · exact clean_of_mem_part (by decide)
          (fun x hx => hclean x (Or.inl (Or.inl (Or.inr hx)))) hc
    · exact clean_of_mem_part (by decide) (fun x hx => hclean x (Or.inl (Or.inr hx))) hc
  · exact clean_of_mem_part (by decide) (fun x hx => hclean x (Or.inr hx)) hc

theorem head?_afterNetloc {r : ParseResult} (h : Components r) :
    ∀ c ∈ (afterNetloc r).head?, isDelim c = true := by
  have hpath : ∀ c ∈ (r.path ++ part ';' r.params).head?, isDelim c = true := by
    rcases hp : r.path with _ | ⟨x, path⟩
    · simp [h.params_nil hp, part]
    · intro c hc
      have hx := h.absolute x (by rw [hp]; rfl)
      obtain rfl : x = c := Option.some.inj hc
      rw [hx]
      rfl
  exact head?_append_delim (head?_append_delim hpath (head?_part_delim rfl r.query))
    (head?_part_delim rfl r.fragment)

/-- **Well-formed components are read back**, with any network location that is accepted. -/
theorem urlparse_urlunparse {r : ParseResult} (h : Components r) (hne : r.netloc ≠ [])
    (hplain : ∀ c ∈ r.netloc, Plain c) (hbrackets : checkBrackets r.netloc = .ok ())
    (hnfkc : checkNetloc nfkc r.netloc = .ok ()) : urlparse nfkc (urlunparse r) = .ok r := by
  have hquestion : ∀ x ∈ r.path ++ part ';' r.params, x ≠ '?' ∧ x ≠ '#' := by
    intro x hx
    rcases List.mem_append.mp hx with hx | hx
    · exact h.path x hx
    · rcases mem_part hx with rfl | hx
      · decide
      · exact ⟨(h.params x hx).1, (h.params x hx).2.1⟩
  have hhash : ∀ x ∈ r.path ++ part ';' r.params ++ part '?' r.query, x ≠ '#' := by
    intro x hx
    rcases List.mem_append.mp hx with hx | hx
    · exact (hquestion x hx).2
    · rcases mem_part hx with rfl | hx
      · decide
      · exact h.query x hx
  rw [urlunparse_of_components h hne, urlparse_of_text
    (splitScheme_cleanUrl h.scheme hplain (clean_afterNetloc h)) (fun c hc => (hplain c hc).1)
    (head?_afterNetloc h) hbrackets hnfkc, afterNetloc, cutAt_part hhash]
  dsimp only
  rw [cutAt_part fun x hx => (hquestion x hx).1]
  dsimp only
  by_cases hused : String.ofList r.scheme ∈ usesParams
  · rw [if_pos hused, splitParams_part (h.used hused) fun hx => (h.params '/' hx).2.2 rfl]
  · have hnil := h.unused hused
    rw [if_neg hused, hnil]
    simp only [part, List.isEmpty_nil, if_true, List.append_nil]
    rw [← hnil]

/-! ### What is read -/

/-- A URL with a network location, as the text it is split into. -/
theorem exists_text_of_urlparse {url : List Char} {r : ParseResult}
    (h : urlparse nfkc url = .ok r) (hne : r.netloc ≠ []) :
    ∃ rest, splitScheme (cleanUrl url) = (r.scheme, '/' :: '/' :: (r.netloc ++ rest)) ∧
      (∀ c ∈ r.netloc, isDelim c = false) ∧ (∀ c ∈ rest.head?, isDelim c = true) ∧
      checkBrackets r.netloc = .ok () ∧ checkNetloc nfkc r.netloc = .ok () := by
  obtain ⟨hscheme, hnetloc⟩ := urlparse_eq_ok h
  obtain ⟨hbrackets, hnfkc⟩ := (urlparse_isOk_iff nfkc url).mp ⟨r, h⟩
  rw [← hnetloc] at hbrackets hnfkc
  rcases hsplit : splitScheme (cleanUrl url) with ⟨scheme, text⟩
  rw [hsplit] at hscheme
  rw [netlocOf, hsplit] at hnetloc
  have hslashes : ∃ rest, text = '/' :: '/' :: rest := by
    by_contra hnone
    refine hne (hnetloc.trans ?_)
    rw [splitNetloc.eq_2 _ fun rest heq => hnone ⟨rest, heq⟩]
  obtain ⟨rest, rfl⟩ := hslashes
  rw [splitNetloc] at hnetloc
  refine ⟨rest.dropWhile (!isDelim ·), ?_, ?_, ?_, hbrackets, hnfkc⟩
  · rw [hnetloc, List.takeWhile_append_dropWhile, hscheme]
  · intro c hc
    rw [hnetloc] at hc
    simpa using List.mem_takeWhile_imp hc
  · intro c hc
    have hhead := List.head?_dropWhile_not (fun c => !isDelim c) rest
    rw [Option.mem_def] at hc
    rw [hc] at hhead
    simpa using hhead

theorem splitScheme_snd_subset (url : List Char) : (splitScheme url).2 ⊆ url := by
  rw [splitScheme]
  split
  · exact ((List.drop_sublist _ _).trans (List.dropWhile_sublist _)).subset
  · exact List.Subset.refl url

/-- A scheme that is read is lower-case. -/
theorem scheme_of_splitScheme (url : List Char) :
    (splitScheme url).1 = [] ∨
      IsScheme (splitScheme url).1 ∧ (splitScheme url).1.map Char.toLower = (splitScheme url).1 := by
  by_cases hnil : (splitScheme url).1 = []
  · exact Or.inl hnil
  · refine Or.inr ⟨isScheme_splitScheme hnil, ?_⟩
    rw [splitScheme] at hnil ⊢
    split
    · rename_i hscheme
      rw [Bool.and_eq_true, Bool.and_eq_true, List.all_eq_true] at hscheme
      rw [List.map_map]
      refine List.map_congr_left fun c hc => ?_
      exact forall_of_ascii (p := fun c => isSchemeChar c = true)
        (q := fun c => c.toLower.toLower = c.toLower) (fun _ => toNat_lt_of_isSchemeChar)
        (by decide +kernel) (hscheme.2 c hc)
    · rename_i hscheme
      rw [if_neg hscheme] at hnil
      exact absurd rfl hnil

/-- The path is empty or begins with the slash that ended the network location. -/
theorem head?_cutAt {rest : List Char} (hrest : ∀ c ∈ rest.head?, isDelim c = true) :
    ∀ c ∈ (cutAt '?' (cutAt '#' rest).1).1.head?, c = '/' := by
  rcases rest with _ | ⟨x, rest⟩
  · simp [cutAt]
  · intro c hc
    have hdelim : isDelim x = true := hrest x rfl
    simp only [cutAt, List.takeWhile_cons] at hc
    by_cases hx : x = '#'
    · simp [hx] at hc
    · by_cases hx' : x = '?'
      · simp [hx'] at hc
      · have hslash : x = '/' := by simpa [isDelim, hx, hx'] using hdelim
        simp [hslash] at hc
        exact hc.symm

/-- **What is read is well-formed.** -/
theorem components_of_urlparse {url : List Char} {r : ParseResult} (h : urlparse nfkc url = .ok r)
    (hne : r.netloc ≠ []) : Components r := by
  obtain ⟨rest, htext, hnetloc, hrest, hbrackets, hnfkc⟩ := exists_text_of_urlparse h hne
  have hparsed := urlparse_of_text htext hnetloc hrest hbrackets hnfkc
  rw [h] at hparsed
  have hscheme : r.scheme = [] ∨ IsScheme r.scheme ∧ r.scheme.map Char.toLower = r.scheme := by
    rw [(urlparse_eq_ok h).1]
    exact scheme_of_splitScheme _
  -- every component is made of characters that cleaning left
  have hclean : ∀ c ∈ rest, c ∉ ['\t', '\r', '\n'] := by
    intro c hc
    have hmem : c ∈ (splitScheme (cleanUrl url)).2 := by
      rw [htext]
      simp [hc]
    have hfiltered := List.of_mem_filter (splitScheme_snd_subset _ hmem)
    simpa using hfiltered
  rcases hcut : cutAt '#' rest with ⟨front, fragment⟩
  rcases hcut' : cutAt '?' front with ⟨path, query⟩
  have hfragment : fragment ⊆ rest := by
    simpa [hcut] using cutAt_snd_subset '#' rest
  have hfront : front ⊆ rest := by
    simpa [hcut] using cutAt_fst_subset '#' rest
  have hquery : query ⊆ front := by
    simpa [hcut'] using cutAt_snd_subset '?' front
  have hpath : path ⊆ front := by
    simpa [hcut'] using cutAt_fst_subset '?' front
  have hhash : ∀ x ∈ front, x ≠ '#' := by
    simpa [hcut] using cutAt_fst_ne '#' rest
  have hquestion : ∀ x ∈ path, x ≠ '?' := by
    simpa [hcut'] using cutAt_fst_ne '?' front
  have habsolute : ∀ c ∈ path.head?, c = '/' := by
    have hpath' : path = (cutAt '?' (cutAt '#' rest).1).1 := by rw [hcut, hcut']
    rw [hpath']
    exact head?_cutAt hrest
  rw [hcut] at hparsed
  dsimp only at hparsed
  rw [hcut'] at hparsed
  dsimp only at hparsed
  obtain ⟨scheme, netloc, path', params', query', fragment'⟩ := r
  by_cases hused : String.ofList scheme ∈ usesParams
  · rw [if_pos hused] at hparsed
    obtain ⟨hsub, hsub'⟩ := splitParams_subset path
    obtain ⟨habsolute', hnil⟩ := splitParams_absolute habsolute
    simp only [Except.ok.injEq, ParseResult.mk.injEq, true_and] at hparsed
    obtain ⟨rfl, rfl, rfl, rfl⟩ := hparsed
    refine ⟨hscheme, fun c hc => hclean c ?_, fun c hc => ?_, fun c hc => ?_,
      fun c hc => hhash c (hquery hc), habsolute', hnil,
      fun _ => semicolon_not_mem_splitParams path, fun hunused => absurd hused hunused⟩
    · simp only [List.mem_append] at hc
      rcases hc with ((hc | hc) | hc) | hc
      · exact hfront (hpath (hsub hc))
      · exact hfront (hpath (hsub' hc))
      · exact hfront (hquery hc)
      · exact hfragment hc
    · exact ⟨hquestion c (hsub hc), hhash c (hpath (hsub hc))⟩
    · refine ⟨hquestion c (hsub' hc), hhash c (hpath (hsub' hc)), ?_⟩
      rintro rfl
      exact slash_not_mem_splitParams path hc
  · rw [if_neg hused] at hparsed
    simp only [Except.ok.injEq, ParseResult.mk.injEq, true_and] at hparsed
    obtain ⟨rfl, rfl, rfl, rfl⟩ := hparsed
    refine ⟨hscheme, fun c hc => hclean c ?_, fun c hc => ?_, fun c hc => (nomatch hc),
      fun c hc => hhash c (hquery hc), habsolute, fun _ => rfl,
      fun hused' => absurd hused' hused, fun _ => rfl⟩
    · simp only [List.mem_append] at hc
      rcases hc with ((hc | hc) | hc) | hc
      · exact hfront (hpath hc)
      · exact nomatch hc
      · exact hfront (hquery hc)
      · exact hfragment hc
    · exact ⟨hquestion c hc, hhash c (hpath hc)⟩

/-- **Another network location** takes the place of the one that was read, and nothing else
changes. -/
theorem urlparse_with_netloc {url netloc : List Char} {r : ParseResult}
    (h : urlparse nfkc url = .ok r) (hr : r.netloc ≠ []) (hne : netloc ≠ [])
    (hplain : ∀ c ∈ netloc, Plain c) (hbrackets : checkBrackets netloc = .ok ())
    (hnfkc : checkNetloc nfkc netloc = .ok ()) :
    urlparse nfkc (urlunparse { r with netloc := netloc }) = .ok { r with netloc := netloc } :=
  urlparse_urlunparse ((components_of_urlparse h hr).with_netloc netloc) hne hplain hbrackets hnfkc

end UrlRoundTrip

end Onvif
