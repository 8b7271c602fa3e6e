/-
`urllib.parse`: splitting a URL into its components and putting it together again.

Strings are lists of characters here.  `urlparse` and `urlunparse` follow the standard
library, with the errors it raises: unbalanced brackets, a bracketed host that is no IPv6
literal, and a network location with characters that NFKC turns into delimiters.  The
normalization itself is a parameter `nfkc`; it is only consulted outside ASCII.

* **`urlparse_isOk_iff`** — the URLs that are accepted, by their network location alone;
* **`only_valueError_urlparse`** — what parsing raises on the others.
-/
import OnvifZeep.Exceptions

namespace Onvif

/-- A Unicode normalization of strings. -/
abbrev Normalization : Type := List Char → List Char

/-! ### `ipaddress` -/

def isHexDigit (c : Char) : Bool :=
  c.isDigit || ('a' ≤ c && c ≤ 'f') || ('A' ≤ c && c ≤ 'F')

/-- One number of a dotted IPv4 address. -/
def isOctet (s : List Char) : Bool :=
  !s.isEmpty && s.all Char.isDigit && s.length ≤ 3 && (s.head? != some '0' || s.length = 1) &&
    s.foldl (fun n c => n * 10 + (c.toNat - 48)) 0 ≤ 255

def isIPv4 (s : List Char) : Bool :=
  (s.splitOn '.').length = 4 && (s.splitOn '.').all isOctet

def isHextet (s : List Char) : Bool := !s.isEmpty && s.all isHexDigit && s.length ≤ 4

/-- The parts of an address, a dotted IPv4 suffix counting as two hextets. -/
def hextets (s : List Char) : Option (List (List Char)) :=
  let parts := s.splitOn ':'
  if parts.length < 3 then none
  else
    match parts.getLast? with
    | some last =>
      if '.' ∈ last then
        if isIPv4 last then some (parts.dropLast ++ [['0'], ['0']]) else none
      else some parts
    | none => none

/-- The positions of the empty parts that are not an end, where a `::` stands. -/
def skipIndices (parts : List (List Char)) : List ℕ :=
  (List.range (parts.length - 1)).filter fun i => i ≠ 0 && (parts.getD i []).isEmpty

/-- The parts are eight hextets, or fewer around one `::`. -/
def validHextets (parts : List (List Char)) : Bool :=
  match skipIndices parts with
  | [] => parts.length = 8 && parts.all isHextet
  | [i] =>
    let hi := parts.take i
    let lo := parts.drop (i + 1)
    -- a part that is empty at an end has to belong to the `::`
    let hi := if hi = [[]] then [] else hi
    let lo := if lo = [[]] then [] else lo
    hi.all isHextet && lo.all isHextet && hi.length + lo.length < 8
  | _ => false

/-- `ipaddress.ip_address` returns an `IPv6Address`. -/
def isIPv6 (s : List Char) : Bool :=
  let address := s.takeWhile (· ≠ '%')
  let scope := s.dropWhile (· ≠ '%')
  let scopeOk := scope.isEmpty || (1 < scope.length && '%' ∉ scope.drop 1)
  '/' ∉ s && scopeOk && (hextets address).any validHextets

/-! ### Checks on the network location -/

def valueError {α : Type} (message : String) : Except Exc α := .error (.builtin .valueError message)

/-- An address of the form `v<hex>.<anything>`. -/
def isIPvFuture (hostname : List Char) : Bool :=
  let rest := hostname.drop 1
  let version := rest.takeWhile (· ≠ '.')
  !version.isEmpty && version.all isHexDigit && 1 < (rest.dropWhile (· ≠ '.')).length

def checkBracketedHost (hostname : List Char) : Except Exc Unit :=
  if hostname.head? = some 'v' then
    if isIPvFuture hostname then .ok () else valueError "IPvFuture address is invalid"
  else if isIPv6 hostname then .ok ()
  else if isIPv4 hostname then valueError "An IPv4 address cannot be in brackets"
  else valueError s!"'{String.ofList hostname}' does not appear to be an IPv4 or IPv6 address"

/-- What follows the last `@`. -/
def afterUserinfo (netloc : List Char) : List Char :=
  (netloc.reverse.takeWhile (· ≠ '@')).reverse

/-- Nothing but a port may stand around the brackets. -/
def checkBracketedNetloc (netloc : List Char) : Except Exc Unit :=
  let hostnameAndPort := afterUserinfo netloc
  let before := hostnameAndPort.takeWhile (· ≠ '[')
  if '[' ∈ hostnameAndPort then
    let bracketed := (hostnameAndPort.dropWhile (· ≠ '[')).drop 1
    let port := (bracketed.dropWhile (· ≠ ']')).drop 1
    if !before.isEmpty then valueError "Invalid IPv6 URL"
    else if !port.isEmpty && port.head? ≠ some ':' then valueError "Invalid IPv6 URL"
    else checkBracketedHost (bracketed.takeWhile (· ≠ ']'))
  else checkBracketedHost (hostnameAndPort.takeWhile (· ≠ ':'))

def checkBrackets (netloc : List Char) : Except Exc Unit :=
  if decide ('[' ∈ netloc) != decide (']' ∈ netloc) then valueError "Invalid IPv6 URL"
  else if '[' ∈ netloc then checkBracketedNetloc netloc
  else .ok ()

/-- Characters that NFKC turns into delimiters are refused. -/
def checkNetloc (nfkc : Normalization) (netloc : List Char) : Except Exc Unit :=
  if netloc.all fun c => c.toNat < 128 then .ok ()
  else
    let n := netloc.filter fun c => c ∉ ['@', ':', '#', '?']
    if nfkc n = n then .ok ()
    else if (nfkc n).any fun c => c ∈ ['/', '?', '#', '@', ':'] then
      valueError s!"netloc '{String.ofList netloc}' contains invalid characters under NFKC normalization"
    else .ok ()

/-! ### Parsing -/

/-- `ParseResult`. -/
structure ParseResult where
  scheme : List Char
  netloc : List Char
  path : List Char
  params : List Char
  query : List Char
  fragment : List Char
deriving DecidableEq

def usesParams : List String :=
  ["", "ftp", "hdl", "prospero", "http", "imap", "https", "shttp", "rtsp", "rtsps", "rtspu",
    "sip", "sips", "mms", "sftp", "tel"]

def usesNetloc : List String :=
  ["", "ftp", "http", "gopher", "nntp", "telnet", "imap", "wais", "file", "mms", "https",
    "shttp", "snews", "prospero", "rtsp", "rtsps", "rtspu", "rsync", "svn", "svn+ssh", "sftp",
    "nfs", "git", "git+ssh", "ws", "wss", "itms-services"]

/-- Leading control characters and blanks go, and so does every tab and line break. -/
def cleanUrl (url : List Char) : List Char :=
  (url.dropWhile fun c => c.toNat ≤ 32).filter fun c => c ∉ ['\t', '\r', '\n']

def isSchemeChar (c : Char) : Bool := c.isAlphanum || c ∈ ['+', '-', '.']

def splitScheme (url : List Char) : List Char × List Char :=
  let scheme := url.takeWhile (· ≠ ':')
  if ':' ∈ url && scheme.head?.any Char.isAlpha && scheme.all isSchemeChar then
    (scheme.map Char.toLower, (url.dropWhile (· ≠ ':')).drop 1)
  else ([], url)

def isDelim (c : Char) : Bool := c = '/' || c = '?' || c = '#'

def splitNetloc : List Char → List Char × List Char
  | '/' :: '/' :: rest => (rest.takeWhile (!isDelim ·), rest.dropWhile (!isDelim ·))
  | url => ([], url)

/-- What stands before the first `c`, and what after it. -/
def cutAt (c : Char) (s : List Char) : List Char × List Char :=
  (s.takeWhile (· ≠ c), (s.dropWhile (· ≠ c)).drop 1)

/-- The text before the first `c`. -/
theorem takeWhile_ne_append {c : Char} {s : List Char} (hs : ∀ x ∈ s, x ≠ c) (tail : List Char) :
    (s ++ c :: tail).takeWhile (· ≠ c) = s := by
  rw [List.takeWhile_append_of_pos fun x hx => decide_eq_true (hs x hx),
    List.takeWhile_cons_of_neg (by simp), List.append_nil]

theorem dropWhile_ne_append {c : Char} {s : List Char} (hs : ∀ x ∈ s, x ≠ c) (tail : List Char) :
    (s ++ c :: tail).dropWhile (· ≠ c) = c :: tail := by
  rw [List.dropWhile_append_of_pos fun x hx => decide_eq_true (hs x hx),
    List.dropWhile_cons_of_neg (by simp)]

theorem cutAt_append {c : Char} {s : List Char} (hs : ∀ x ∈ s, x ≠ c) (tail : List Char) :
    cutAt c (s ++ c :: tail) = (s, tail) := by
  rw [cutAt, takeWhile_ne_append hs, dropWhile_ne_append hs]
  rfl

/-- `_splitparams`: the parameters belong to the last segment of the path. -/
def splitParams (path : List Char) : List Char × List Char :=
  let last := (path.reverse.takeWhile (· ≠ '/')).reverse
  let front := path.take (path.length - last.length)
  (front ++ (cutAt ';' last).1, (cutAt ';' last).2)

def urlparse (nfkc : Normalization) (url : List Char) : Except Exc ParseResult := do
  let (scheme, rest) := splitScheme (cleanUrl url)
  let (netloc, rest) := splitNetloc rest
  checkBrackets netloc
  let (rest, fragment) := cutAt '#' rest
  let (path, query) := cutAt '?' rest
  checkNetloc nfkc netloc
  let (path, params) := if String.ofList scheme ∈ usesParams then splitParams path else (path, [])
  return { scheme, netloc, path, params, query, fragment }

/-! ### Unparsing -/

def urlunparse (r : ParseResult) : List Char :=
  let url := if r.params.isEmpty then r.path else r.path ++ ';' :: r.params
  let url :=
    if !r.netloc.isEmpty then
      let path := if !url.isEmpty && url.head? ≠ some '/' then '/' :: url else url
      '/' :: '/' :: r.netloc ++ path
    else if url.take 2 = ['/', '/'] then '/' :: '/' :: url
    else if !r.scheme.isEmpty && decide (String.ofList r.scheme ∈ usesNetloc) &&
        (url.isEmpty || url.head? = some '/') then
      '/' :: '/' :: url
    else url
  let url := if r.scheme.isEmpty then url else r.scheme ++ ':' :: url
  let url := if r.query.isEmpty then url else url ++ '?' :: r.query
  if r.fragment.isEmpty then url else url ++ '#' :: r.fragment

/-- The network location of a URL. -/
def netlocOf (url : List Char) : List Char := (splitNetloc (splitScheme (cleanUrl url)).2).1

/-- **A URL is accepted** exactly when its network location passes both checks. -/
theorem urlparse_isOk_iff (nfkc : Normalization) (url : List Char) :
    (∃ r, urlparse nfkc url = .ok r) ↔
      checkBrackets (netlocOf url) = .ok () ∧ checkNetloc nfkc (netlocOf url) = .ok () := by
  rw [urlparse, netlocOf]
  rcases hb : checkBrackets (splitNetloc (splitScheme (cleanUrl url)).2).1 with e | _
  · simp [hb, bind, Except.bind]
  · rcases hn : checkNetloc nfkc (splitNetloc (splitScheme (cleanUrl url)).2).1 with e | _
    · simp [hb, hn, bind, Except.bind]
    · simp [hb, hn, bind, Except.bind, pure, Except.pure]

theorem urlunparse_ne_nil {r : ParseResult} (h : r.netloc ≠ []) : urlunparse r ≠ [] := by
  have hnetloc : r.netloc.isEmpty = false := by
    rw [Bool.eq_false_iff, Ne, List.isEmpty_iff]
    exact h
  simp only [urlunparse, hnetloc, Bool.not_false, if_true]
  repeat' split
  all_goals simp

/-! ### Errors -/

def IsValueError (e : Exc) : Prop := ∃ message, e = .builtin .valueError message

theorem only_valueError {α : Type} (message : String) :
    Only IsValueError (valueError message : Except Exc α) := only_error ⟨message, rfl⟩

theorem only_valueError_checkBracketedHost (hostname : List Char) :
    Only IsValueError (checkBracketedHost hostname) :=
  .ite (.ite (only_ok _) (only_valueError _))
    (.ite (only_ok _)
      (.ite (only_valueError _) (only_valueError _)))

theorem only_valueError_checkBrackets (netloc : List Char) :
    Only IsValueError (checkBrackets netloc) := by
  have hnetloc : Only IsValueError (checkBracketedNetloc netloc) :=
    .ite (.ite (only_valueError _)
      (.ite (only_valueError _) (only_valueError_checkBracketedHost _)))
      (only_valueError_checkBracketedHost _)
  exact .ite (only_valueError _) (.ite hnetloc (only_ok _))

theorem only_valueError_checkNetloc (nfkc : Normalization) (netloc : List Char) :
    Only IsValueError (checkNetloc nfkc netloc) :=
  .ite (only_ok _) (.ite (only_ok _)
    (.ite (only_valueError _) (only_ok _)))

/-- **Parsing a URL** raises nothing but `ValueError`. -/
theorem only_valueError_urlparse (nfkc : Normalization) (url : List Char) :
    Only IsValueError (urlparse nfkc url) :=
  .bind (only_valueError_checkBrackets _) fun _ =>
    .bind (only_valueError_checkNetloc nfkc _) fun _ => only_ok _

end Onvif
