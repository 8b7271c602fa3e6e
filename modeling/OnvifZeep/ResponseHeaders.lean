/-
The headers of a response of aiohttp, as the transport passes them on.

aiohttp has decompressed the body by the time the transport sees a response, so the transport
leaves `Content-Encoding` out of the headers (`filterHeaders`) before it builds a response of
httpx or of requests from them.  The filter compares names as they were received.

* **`httpx_passes_iff`** — when the headers for httpx are all the others;
* **`requests_passes_iff`** — when the headers for requests have no `Content-Encoding`;
* **`conversions_agree`** — both conversions show the same last value of every name;
* **`never_marked_compressed_iff`** — both conversions, for every list of headers.
-/
import OnvifZeep.Client
import OnvifZeep.FoldedNames

namespace Onvif

open FoldedNames

/-! ### The response of aiohttp -/

/-- A cookie of a response, with two of its attributes. -/
structure Morsel where
  value : String
  domain : Option String
  path : Option String

/-- What the conversions read of an `aiohttp.ClientResponse`; the headers are the pairs of the
multi-dictionary in order, each name spelled as it was received. -/
structure ClientResponse where
  status : ℕ
  headers : List (String × String)
  method : String
  url : String
  charset : Option String
  cookies : List (String × Morsel)

/-- `hdrs.CONTENT_ENCODING`. -/
def contentEncoding : String := "Content-Encoding"

/-- `_filter_headers`. -/
def filterHeaders (headers : List (String × String)) : List (String × String) :=
  headers.filter fun p => p.1 ≠ contentEncoding

/-! ### The containers of httpx and requests -/

def isAscii (s : String) : Bool := s.toList.all fun c => c.toNat < 128

/-- `httpx.Headers`: the pairs it is given, in order and as spelled, if they can be encoded as
ASCII. -/
structure HttpxHeaders where
  Headers : Type
  ofList : List (String × String) → Except Exc Headers
  raw : Headers → List (String × String)
  ofList_isOk_iff : ∀ l, (∃ h, ofList l = .ok h) ↔ ∀ p ∈ l, isAscii p.1 ∧ isAscii p.2
  raw_ofList : ∀ l h, ofList l = .ok h → raw h = l

/-- `requests.structures.CaseInsensitiveDict`, names being compared by `fold`: a lookup finds the
last value given to the name, and the items are pairs it was given. -/
structure CaseInsensitiveDict (fold : String → String) where
  Headers : Type
  ofList : List (String × String) → Headers
  items : Headers → List (String × String)
  get? : Headers → String → Option String
  get?_ofList : ∀ l name, get? (ofList l) name = lastNamed fold name l
  mem_items_ofList : ∀ l p, p ∈ items (ofList l) → p ∈ l

/-- Headers kept as the list of their pairs. -/
def listHeaders : HttpxHeaders where
  Headers := List (String × String)
  ofList l :=
    if ∀ p ∈ l, isAscii p.1 ∧ isAscii p.2 then .ok l
    else .error (.builtin .valueError "'ascii' codec can't encode characters")
  raw l := l
  ofList_isOk_iff l := by
    by_cases h : ∀ p ∈ l, isAscii p.1 ∧ isAscii p.2
    · rw [if_pos h]
      exact ⟨fun _ => h, fun _ => ⟨l, rfl⟩⟩
    · rw [if_neg h]
      refine ⟨?_, fun h' => absurd h' h⟩
      rintro ⟨l', hl'⟩
      cases hl'
  raw_ofList l l' h := by
    split at h
    · exact (Except.ok.inj h).symm
    · cases h

/-- A dictionary keyed by the folded name, with the pair last given to each. -/
def foldedDict (fold : String → String) : CaseInsensitiveDict fold where
  Headers := Dict String (String × String)
  ofList := foldDict fold
  items d := d.entries.map Prod.snd
  get? d name := (d.get? (fold name)).map Prod.snd
  get?_ofList l name := get?_foldDict name l
  mem_items_ofList l p h := by
    obtain ⟨e, he, rfl⟩ := List.mem_map.mp h
    exact mem_foldDict he

/-! ### The conversions -/

/-- A cookie set on a response of httpx. -/
structure HttpxCookie where
  name : String
  value : String
  domain : String
  path : String

/-- What a response of httpx is built from. -/
structure HttpxResponse (H : Type) where
  statusCode : ℕ
  headers : H
  content : List UInt8
  method : String
  url : String
  encoding : Option String
  cookies : List HttpxCookie

/-- What a response of requests is built from. -/
structure RequestsResponse (H : Type) where
  content : List UInt8
  statusCode : ℕ
  headers : H
  cookies : List (String × Morsel)
  encoding : Option String

/-- `value or default`. -/
def orDefault (value : Option String) (default : String) : String :=
  (value.filter (· ≠ "")).getD default

/-- `_aiohttp_to_httpx_response`. -/
def aiohttpToHttpxResponse (X : HttpxHeaders) (response : ClientResponse) (content : List UInt8) :
    Except Exc (HttpxResponse X.Headers) := do
  let headers ← X.ofList (filterHeaders response.headers)
  return {
    statusCode := response.status
    headers := headers
    content := content
    method := response.method
    url := response.url
    encoding := response.charset.filter (· ≠ "")
    cookies := response.cookies.map fun c => {
      name := c.1
      value := c.2.value
      domain := orDefault c.2.domain ""
      path := orDefault c.2.path "/" } }

/-- `_aiohttp_to_requests_response`. -/
def aiohttpToRequestsResponse {fold : String → String} (D : CaseInsensitiveDict fold)
    (response : ClientResponse) (content : List UInt8) : RequestsResponse D.Headers where
  content := content
  statusCode := response.status
  headers := D.ofList (filterHeaders response.headers)
  cookies := response.cookies
  encoding := response.charset

/-! ### What is passed on -/

section Passing

variable {fold : String → String} (X : HttpxHeaders) (D : CaseInsensitiveDict fold)
  (response : ClientResponse) (content : List UInt8)

theorem raw_of_httpx {r : HttpxResponse X.Headers}
    (h : aiohttpToHttpxResponse X response content = .ok r) :
    X.raw r.headers = filterHeaders response.headers := by
  unfold aiohttpToHttpxResponse at h
  cases hheaders : X.ofList (filterHeaders response.headers) with
  | error e =>
    rw [hheaders] at h
    cases h
  | ok headers =>
    rw [hheaders] at h
    cases h
    exact X.raw_ofList _ _ hheaders

/-- A response of httpx comes out when the headers left can be encoded, and has those. -/
theorem exists_httpx_iff {P : List (String × String) → Prop} :
    (∃ r, aiohttpToHttpxResponse X response content = .ok r ∧ P (X.raw r.headers)) ↔
      (∀ p ∈ filterHeaders response.headers, isAscii p.1 ∧ isAscii p.2) ∧
        P (filterHeaders response.headers) := by
  rw [← X.ofList_isOk_iff]
  constructor
  · rintro ⟨r, hr, hP⟩
    rw [raw_of_httpx X response content hr] at hP
    refine ⟨?_, hP⟩
    cases hheaders : X.ofList (filterHeaders response.headers) with
    | error e =>
      rw [aiohttpToHttpxResponse, hheaders] at hr
      cases hr
    | ok headers => exact ⟨headers, rfl⟩
  · rintro ⟨⟨headers, hheaders⟩, hP⟩
    have hraw := X.raw_ofList _ _ hheaders
    rw [aiohttpToHttpxResponse, hheaders]
    refine ⟨_, rfl, ?_⟩
    rwa [hraw]

/-- **The two conversions agree**: the headers for requests have the last value of every name
among the headers for httpx. -/
theorem conversions_agree {r : HttpxResponse X.Headers}
    (h : aiohttpToHttpxResponse X response content = .ok r) (name : String) :
    D.get? (aiohttpToRequestsResponse D response content).headers name =
      lastNamed fold name (X.raw r.headers) := by
  rw [raw_of_httpx X response content h]
  exact D.get?_ofList _ _

/-- The name occurs in its own spelling only. -/
def OneSpelling (fold : String → String) (headers : List (String × String)) : Prop :=
  ∀ p ∈ headers, fold p.1 = fold contentEncoding → p.1 = contentEncoding

theorem filterHeaders_eq_others_iff {headers : List (String × String)} :
    filterHeaders headers = others fold contentEncoding headers ↔ OneSpelling fold headers :=
  filter_ne_eq_others_iff

/-- **The headers for httpx** are all the others, in their order, exactly when `Content-Encoding`
is spelled so throughout and the others can be encoded. -/
theorem httpx_passes_iff :
    (∃ r, aiohttpToHttpxResponse X response content = .ok r ∧
      X.raw r.headers = others fold contentEncoding response.headers) ↔
      OneSpelling fold response.headers ∧
        ∀ p ∈ others fold contentEncoding response.headers, isAscii p.1 ∧ isAscii p.2 := by
  rw [exists_httpx_iff X response content (P := fun l => l = _), ← filterHeaders_eq_others_iff]
  constructor
  · rintro ⟨hascii, heq⟩
    exact ⟨heq, heq ▸ hascii⟩
  · rintro ⟨heq, hascii⟩
    exact ⟨heq.symm ▸ hascii, heq⟩

/-- What is promised of headers for requests that come from `headers`. -/
structure RequestsPasses (passed : D.Headers) (headers : List (String × String)) : Prop where
  items : ∀ p ∈ D.items passed, fold p.1 ≠ fold contentEncoding
  get? : ∀ name, fold name = fold contentEncoding → D.get? passed name = none
  others : ∀ p ∈ headers, fold p.1 ≠ fold contentEncoding →
    ∃ v, D.get? passed p.1 = some v ∧ ∃ name, (name, v) ∈ headers ∧ fold name = fold p.1

/-- **The headers for requests** have no `Content-Encoding` and a value of every other name exactly
when `Content-Encoding` is spelled so throughout. -/
theorem requests_passes_iff :
    RequestsPasses D (aiohttpToRequestsResponse D response content).headers response.headers ↔
      OneSpelling fold response.headers := by
  constructor
  · intro h p hp hfold
    by_contra hne
    -- a header in another spelling is kept, and looked up under its name
    have hkept : p ∈ filterHeaders response.headers :=
      List.mem_filter.mpr ⟨hp, decide_eq_true hne⟩
    have hnone := h.get? p.1 hfold
    rw [aiohttpToRequestsResponse, D.get?_ofList, lastNamed_eq_none_iff] at hnone
    exact hnone p hkept rfl
  · intro h
    have heq := filterHeaders_eq_others_iff.mpr h
    refine ⟨fun p hp => ?_, fun name hname => ?_, fun p hp hother => ?_⟩
    · have hmem := D.mem_items_ofList _ p hp
      rw [heq] at hmem
      exact (mem_others.mp hmem).2
    · rw [aiohttpToRequestsResponse, D.get?_ofList, lastNamed_eq_none_iff, heq]
      intro p hp
      rw [hname]
      exact (mem_others.mp hp).2
    · rw [aiohttpToRequestsResponse, D.get?_ofList, heq]
      obtain ⟨v, hv, name, hmem, hname⟩ := exists_lastNamed_of_mem fold (mem_others.mpr ⟨hp, hother⟩)
      exact ⟨v, hv, name, (mem_others.mp hmem).1, hname⟩

/-- What is promised of a response: both conversions leave out `Content-Encoding` however it is
spelled, and pass on the rest. -/
structure NeverMarkedCompressed : Prop where
  httpx : ∃ r, aiohttpToHttpxResponse X response content = .ok r ∧
    X.raw r.headers = others fold contentEncoding response.headers
  requests :
    RequestsPasses D (aiohttpToRequestsResponse D response content).headers response.headers

/-- **Decompressed responses are never marked compressed** exactly when `Content-Encoding` is
spelled so throughout and every other header can be encoded as ASCII. -/
theorem never_marked_compressed_iff :
    NeverMarkedCompressed X D response content ↔
      OneSpelling fold response.headers ∧
        ∀ p ∈ others fold contentEncoding response.headers, isAscii p.1 ∧ isAscii p.2 := by
  constructor
  · intro h
    exact (httpx_passes_iff X response content).mp h.httpx
  · intro h
    exact ⟨(httpx_passes_iff X response content).mpr h,
      (requests_passes_iff D response content).mpr h.1⟩

end Passing

/-- A response with a repeated header and a compressed body. -/
def compressedResponse (encodingName : String) : ClientResponse where
  status := 200
  headers := [("Set-Cookie", "session=abc123; Path=/"), ("Set-Cookie", "token=xyz789; Secure"),
    ("Content-Type", "text/xml"), (encodingName, "gzip")]
  method := "POST"
  url := "http://192.168.1.64/onvif/device_service"
  charset := some "utf-8"
  cookies := []

theorem compressed_response_passes :
    NeverMarkedCompressed listHeaders (foldedDict lower) (compressedResponse "Content-Encoding")
      [] := by
  refine (never_marked_compressed_iff listHeaders (foldedDict lower)
    (compressedResponse "Content-Encoding") []).mpr ⟨?_, by decide⟩
  unfold OneSpelling
  decide

theorem lower_case_encoding_passes_on :
    ¬NeverMarkedCompressed listHeaders (foldedDict lower) (compressedResponse "content-encoding")
      [] := by
  intro h
  have hnone := h.requests.get? "content-encoding" (by decide)
  have hsome : (foldedDict lower).get? (aiohttpToRequestsResponse (foldedDict lower)
      (compressedResponse "content-encoding") []).headers "content-encoding" = some "gzip" := by
    decide
  rw [hnone] at hsome
  cases hsome

end Onvif
