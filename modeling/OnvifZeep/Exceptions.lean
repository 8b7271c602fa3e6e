/-
The exceptions of the package and of the libraries under it, and how they are reported.

`Exc` lists what can be raised: the errors of this package (`onvif/exceptions.py`), the
errors of zeep (with a `Fault` carrying the five optional fields a SOAP fault has), the
client errors of aiohttp, timeouts, the built-in errors and the cancellation of a task.
An `except` clause is a list of classes (`Exc.isInstance`, `Exc.oneOf`).

`stringifyOnvifError` is `util.stringify_onvif_error`, which runs inside the handlers: it
raises on a fault whose message is absent while another part is present
(`stringifyOnvifError_ok_iff`).
-/
import Mathlib.Algebra.Group.Nat.Defs
import Mathlib.Data.Nat.Notation

namespace Onvif

/-! ### What can be raised -/

/-- The detail of a SOAP fault: raw bytes, or an object with its `str`. -/
inductive Detail where
  | bytes (b : List UInt8)
  | object (str : String)

/-- One subcode: an object with a `text`, or any other object with its `str`. -/
inductive Subcode where
  | withText (text : String)
  | object (str : String)

/-- The subcodes of a fault: a list, or any other object with its `str`. -/
inductive Subcodes where
  | list (l : List Subcode)
  | object (str : String)

/-- `zeep.exceptions.Fault`. -/
structure Fault where
  message : Option String
  code : Option String
  actor : Option String
  detail : Option Detail
  subcodes : Option Subcodes

inductive OnvifErrorClass where
  | onvifError | onvifTimeoutError | onvifAuthError
deriving DecidableEq

/-- The subclasses of `zeep.exceptions.Error` other than `Fault`. -/
inductive ZeepErrorClass where
  | transportError | xmlSyntaxError | xmlParseError | error
deriving DecidableEq

/-- The subclasses of `aiohttp.ClientError`; `serverTimeoutError` is a `TimeoutError` too. -/
inductive ClientErrorClass where
  | serverDisconnectedError | clientConnectionResetError | serverTimeoutError | clientError
deriving DecidableEq

inductive BuiltinErrorClass where
  | keyError | typeError | valueError | attributeError | assertionError | overflowError
  | runtimeError | exception
deriving DecidableEq

/-- An exception. -/
inductive Exc where
  | cancelledError
  | onvif (cls : OnvifErrorClass) (err : String)
  | fault (f : Fault)
  | zeep (cls : ZeepErrorClass) (message : String)
  | client (cls : ClientErrorClass) (message : String)
  | timeoutError (message : String)
  | builtin (cls : BuiltinErrorClass) (message : String)

/-- The classes the `except` clauses of the package name. -/
inductive ExcClass where
  | onvifError | fault | xmlParseError | clientError | timeoutError
  | serverDisconnectedError | clientConnectionResetError
  | keyError | typeError | valueError | attributeError
deriving DecidableEq

namespace Exc

def isInstance : Exc → ExcClass → Bool
  | .onvif _ _, .onvifError => true
  | .fault _, .fault => true
  | .zeep .xmlParseError _, .xmlParseError => true
  | .client _ _, .clientError => true
  | .client .serverTimeoutError _, .timeoutError => true
  | .client .serverDisconnectedError _, .serverDisconnectedError => true
  | .client .clientConnectionResetError _, .clientConnectionResetError => true
  | .timeoutError _, .timeoutError => true
  | .builtin .keyError _, .keyError => true
  | .builtin .typeError _, .typeError => true
  | .builtin .valueError _, .valueError => true
  | .builtin .attributeError _, .attributeError => true
  | _, _ => false

/-- The exception is caught by `except classes`. -/
def oneOf (e : Exc) (classes : List ExcClass) : Bool := classes.any e.isInstance

/-- An error of zeep: a fault, a transport error, an XML error or any other. -/
def isZeepError : Exc → Bool
  | .fault _ => true
  | .zeep _ _ => true
  | _ => false

def isCancelledError : Exc → Bool
  | .cancelledError => true
  | _ => false

def isKeyError : Exc → Bool
  | .builtin .keyError _ => true
  | _ => false

def isBuiltin : Exc → Bool
  | .builtin _ _ => true
  | _ => false

/-- `str(error)`. -/
def str : Exc → String
  | .cancelledError => ""
  | .onvif _ err => "Unknown error: " ++ err
  | .fault f => f.message.getD "None"
  | .zeep _ message => message
  | .client _ message => message
  | .timeoutError message => message
  | .builtin _ message => message

/-- `str(type(error))`. -/
def typeStr : Exc → String
  | .cancelledError => "<class 'asyncio.exceptions.CancelledError'>"
  | .onvif .onvifError _ => "<class 'onvif.exceptions.ONVIFError'>"
  | .onvif .onvifTimeoutError _ => "<class 'onvif.exceptions.ONVIFTimeoutError'>"
  | .onvif .onvifAuthError _ => "<class 'onvif.exceptions.ONVIFAuthError'>"
  | .fault _ => "<class 'zeep.exceptions.Fault'>"
  | .zeep .transportError _ => "<class 'zeep.exceptions.TransportError'>"
  | .zeep .xmlSyntaxError _ => "<class 'zeep.exceptions.XMLSyntaxError'>"
  | .zeep .xmlParseError _ => "<class 'zeep.exceptions.XMLParseError'>"
  | .zeep .error _ => "<class 'zeep.exceptions.Error'>"
  | .client .serverDisconnectedError _ =>
    "<class 'aiohttp.client_exceptions.ServerDisconnectedError'>"
  | .client .clientConnectionResetError _ =>
    "<class 'aiohttp.client_exceptions.ClientConnectionResetError'>"
  | .client .serverTimeoutError _ => "<class 'aiohttp.client_exceptions.ServerTimeoutError'>"
  | .client .clientError _ => "<class 'aiohttp.client_exceptions.ClientError'>"
  | .timeoutError _ => "<class 'TimeoutError'>"
  | .builtin .keyError _ => "<class 'KeyError'>"
  | .builtin .typeError _ => "<class 'TypeError'>"
  | .builtin .valueError _ => "<class 'ValueError'>"
  | .builtin .attributeError _ => "<class 'AttributeError'>"
  | .builtin .assertionError _ => "<class 'AssertionError'>"
  | .builtin .overflowError _ => "<class 'OverflowError'>"
  | .builtin .runtimeError _ => "<class 'RuntimeError'>"
  | .builtin .exception _ => "<class 'Exception'>"

end Exc

/-! ### Computations that may raise -/

/-- Every exception the computation raises satisfies `E`. -/
def Only (E : Exc → Prop) {α : Type} (x : Except Exc α) : Prop := ∀ e, x = .error e → E e

section Only

variable {E : Exc → Prop} {α β : Type}

theorem only_ok (a : α) : Only E (.ok a : Except Exc α) := by
  intro e h
  cases h

theorem only_error {e : Exc} (he : E e) : Only E (.error e : Except Exc α) := by
  intro e' h
  cases h
  exact he

theorem Only.bind {x : Except Exc α} {f : α → Except Exc β} (hx : Only E x)
    (hf : ∀ a, Only E (f a)) : Only E (x >>= f) := by
  intro e h
  cases x with
  | error e' =>
    cases h
    exact hx e rfl
  | ok a => exact hf a e h

theorem Only.map {x : Except Exc α} (f : α → β) (hx : Only E x) : Only E (x.map f) := by
  intro e h
  cases x with
  | error e' =>
    cases h
    exact hx e rfl
  | ok a => cases h

theorem Only.ite {p : Prop} [Decidable p] {x y : Except Exc α} (hx : Only E x) (hy : Only E y) :
    Only E (if p then x else y) := by
  by_cases hp : p
  · rwa [if_pos hp]
  · rwa [if_neg hp]

theorem Only.mono {E' : Exc → Prop} {x : Except Exc α} (hx : Only E x) (h : ∀ e, E e → E' e) :
    Only E' x := fun e he => h e (hx e he)

end Only

/-! ### Decoding a detail -/

/-- How many continuation bytes a lead byte asks for, and the range of the first of them. -/
def utf8Lead (b : ℕ) : Option (ℕ × ℕ × ℕ) :=
  if 0xC2 ≤ b ∧ b ≤ 0xDF then some (1, 0x80, 0xBF)
  else if b = 0xE0 then some (2, 0xA0, 0xBF)
  else if b = 0xED then some (2, 0x80, 0x9F)
  else if 0xE1 ≤ b ∧ b ≤ 0xEF then some (2, 0x80, 0xBF)
  else if b = 0xF0 then some (3, 0x90, 0xBF)
  else if 0xF1 ≤ b ∧ b ≤ 0xF3 then some (3, 0x80, 0xBF)
  else if b = 0xF4 then some (3, 0x80, 0x8F)
  else none

/-- Read `n` continuation bytes, the first between `lo` and `hi`, onto the value `acc`; the
bytes left over come back either way. -/
def utf8Continue : ℕ → ℕ → ℕ → ℕ → List ℕ → Option ℕ × List ℕ
  | 0, _, _, acc, bs => (some acc, bs)
  | _ + 1, _, _, _, [] => (none, [])
  | n + 1, lo, hi, acc, b :: bs =>
    if lo ≤ b ∧ b ≤ hi then utf8Continue n 0x80 0xBF (acc * 64 + b % 64) bs
    else (none, b :: bs)

/-- `bytes.decode("utf-8", "replace")`: every maximal ill-formed part becomes U+FFFD.  The
first argument bounds the length of the input. -/
def utf8DecodeReplace : ℕ → List ℕ → List Char
  | 0, _ => []
  | _, [] => []
  | n + 1, b :: bs =>
    if b < 0x80 then Char.ofNat b :: utf8DecodeReplace n bs
    else
      match utf8Lead b with
      | none => Char.ofNat 0xFFFD :: utf8DecodeReplace n bs
      | some (k, lo, hi) =>
        match utf8Continue k lo hi (b % 2 ^ (6 - k)) bs with
        | (some v, rest) => Char.ofNat v :: utf8DecodeReplace n rest
        | (none, rest) => Char.ofNat 0xFFFD :: utf8DecodeReplace n rest

def Detail.decode : Detail → String
  | .bytes b => String.ofList (utf8DecodeReplace b.length (b.map UInt8.toNat))
  | .object str => str

/-! ### `stringify_onvif_error` -/

def extractSubcodesAsStrings : Subcodes → List String
  | .list l => l.map fun
    | .withText text => text
    | .object str => str
  | .object str => [str]

/-- `message += part`: adding to an absent message is a `TypeError`. -/
def addTo (message : Option String) (part : String) : Except Exc (Option String) :=
  match message with
  | some m => .ok (some (m ++ part))
  | none => .error (.builtin .typeError
      "unsupported operand type(s) for +=: 'NoneType' and 'str'")

def addWhen {α : Type} (message : Option String) (part : Option α) (text : α → String) :
    Except Exc (Option String) :=
  match part with
  | some a => addTo message (text a)
  | none => .ok message

/-- `if error.actor`: an empty actor counts as absent. -/
def Fault.actorPart (f : Fault) : Option String := f.actor.filter (· ≠ "")

/-- The message of a fault with the parts it has. -/
def Fault.message' (f : Fault) : Except Exc (Option String) := do
  let m ← addWhen f.message f.detail fun d => ": " ++ d.decode
  let m ← addWhen m f.code fun c => " (code:" ++ c ++ ")"
  let m ← addWhen m f.subcodes fun s =>
    " (subcodes:" ++ ",".intercalate (extractSubcodesAsStrings s) ++ ")"
  addWhen m f.actorPart fun a => " (actor:" ++ a ++ ")"

/-- The message put together before the final `or`. -/
def Exc.report : Exc → Except Exc (Option String)
  | .fault f => f.message'
  | e => .ok (some e.str)

/-- `message or f"Device sent empty error with type {type(error)}"`. -/
def Exc.orEmpty (e : Exc) : Option String → String
  | some m => if m = "" then "Device sent empty error with type " ++ e.typeStr else m
  | none => "Device sent empty error with type " ++ e.typeStr

def stringifyOnvifError (error : Exc) : Except Exc String := error.report.map error.orEmpty

/-- A fault with a message, or with nothing to append to it. -/
def Fault.Reportable (f : Fault) : Prop :=
  f.message.isSome ∨ f.detail.isNone ∧ f.code.isNone ∧ f.subcodes.isNone ∧ f.actorPart.isNone

instance (f : Fault) : Decidable f.Reportable := by unfold Fault.Reportable; infer_instance

/-- An exception whose report does not raise. -/
def Exc.Reportable : Exc → Prop
  | .fault f => f.Reportable
  | _ => True

instance : (e : Exc) → Decidable e.Reportable
  | .fault f => inferInstanceAs (Decidable f.Reportable)
  | .cancelledError | .onvif _ _ | .zeep _ _ | .client _ _ | .timeoutError _ | .builtin _ _ =>
    isTrue trivial

theorem addWhen_some {α : Type} (m : String) (part : Option α) (text : α → String) :
    ∃ m', addWhen (some m) part text = .ok (some m') := by
  cases part with
  | none => exact ⟨m, rfl⟩
  | some a => exact ⟨m ++ text a, rfl⟩

theorem Fault.message'_isOk_iff (f : Fault) : (∃ m, f.message' = .ok m) ↔ f.Reportable := by
  unfold Fault.Reportable Fault.message'
  cases hm : f.message with
  | some m =>
    obtain ⟨m₁, h₁⟩ := addWhen_some m f.detail fun d => ": " ++ d.decode
    obtain ⟨m₂, h₂⟩ := addWhen_some m₁ f.code fun c => " (code:" ++ c ++ ")"
    obtain ⟨m₃, h₃⟩ := addWhen_some m₂ f.subcodes fun s =>
      " (subcodes:" ++ ",".intercalate (extractSubcodesAsStrings s) ++ ")"
    obtain ⟨m₄, h₄⟩ := addWhen_some m₃ f.actorPart fun a => " (actor:" ++ a ++ ")"
    simp [bind, Except.bind, h₁, h₂, h₃, h₄]
  | none =>
    -- nothing may be appended to an absent message, so each part in turn must be absent
    cases f.detail <;> cases f.code <;> cases f.subcodes <;> cases f.actorPart <;>
      simp [bind, Except.bind, addWhen, addTo]

/-- **Reporting an error** raises exactly on a fault without a message that has another
part. -/
theorem stringifyOnvifError_ok_iff (e : Exc) :
    (∃ m, stringifyOnvifError e = .ok m) ↔ e.Reportable := by
  have hmap : (∃ m, stringifyOnvifError e = .ok m) ↔ ∃ m, e.report = .ok m := by
    unfold stringifyOnvifError
    cases e.report with
    | error e' => simp [Except.map]
    | ok m => simp [Except.map]
  rw [hmap]
  cases e with
  | fault f => exact f.message'_isOk_iff
  | _ => exact ⟨fun _ => trivial, fun _ => ⟨_, rfl⟩⟩

/-- What a report raises is none of the errors it reports. -/
theorem only_builtin_stringifyOnvifError (e : Exc) :
    Only (fun e => e.isBuiltin) (stringifyOnvifError e) := by
  have hadd : ∀ {α : Type} (message : Option String) (part : Option α) (text : α → String),
      Only (fun e => e.isBuiltin) (addWhen message part text) := by
    intro α message part text
    cases part with
    | none => exact only_ok _
    | some a =>
      cases message with
      | some m => exact only_ok _
      | none => exact only_error rfl
  refine .map _ ?_
  cases e with
  | fault f =>
    exact .bind (hadd _ _ _) fun _ => .bind (hadd _ _ _) fun _ => .bind (hadd _ _ _) fun _ =>
      hadd _ _ _
  | _ => exact only_ok _

end Onvif
