/-
`NotificationManager.process`: what a webhook delivers, as bytes.

Cameras send bytes that are not UTF-8.  A message that is not well-formed is parsed a second time
with its ill-formed bytes replaced, and dropped when that does not parse either.

* **`process_of_syntaxError`** — the second attempt;
* **`process_of_valid`** — UTF-8 has no second chance;
* **`broken_notification_repaired`** — a broken message is processed as the repaired one is.
-/
import OnvifZeep.Utf8

namespace Onvif

namespace Exc

/-- `except XMLSyntaxError`. -/
def isXmlSyntaxError : Exc → Bool
  | .zeep .xmlSyntaxError _ => true
  | _ => false

end Exc

namespace NotificationManager

open Utf8

section Process

variable {Envelope Reply : Type} (parseXml : List UInt8 → Except Exc Envelope)

/-- `process(content)`; `operation` is `_operation`, by its `process_reply`. -/
def process (operation : Option (Envelope → Except Exc Reply)) (content : List UInt8) :
    Except Exc (Option Reply) :=
  match operation with
  | none => .ok none
  | some processReply =>
    match parseXml content with
    | .ok envelope => (processReply envelope).map some
    | .error exc =>
      if exc.isXmlSyntaxError then
        match parseXml (repair content) with
        | .ok envelope => (processReply envelope).map some
        | .error exc => if exc.isXmlSyntaxError then .ok none else .error exc
      else .error exc

/-- One attempt at parsing, a message that is not well-formed being dropped. -/
def processOnce (processReply : Envelope → Except Exc Reply) (content : List UInt8) :
    Except Exc (Option Reply) :=
  match parseXml content with
  | .ok envelope => (processReply envelope).map some
  | .error exc => if exc.isXmlSyntaxError then .ok none else .error exc

variable {parseXml} {processReply : Envelope → Except Exc Reply} {content : List UInt8} {exc : Exc}

/-- **The second attempt** decides on a message that is not well-formed. -/
theorem process_of_syntaxError (hfail : parseXml content = .error exc)
    (hsyn : exc.isXmlSyntaxError) :
    process parseXml (some processReply) content
      = processOnce parseXml processReply (repair content) := by
  simp only [process, hfail, hsyn, if_true]
  rfl

/-- **UTF-8 has no second chance**: the second attempt sees the same bytes. -/
theorem process_of_valid (hvalid : Valid content) :
    process parseXml (some processReply) content = processOnce parseXml processReply content := by
  cases hparse : parseXml content with
  | ok envelope => simp only [process, processOnce, hparse]
  | error exc =>
    by_cases hsyn : exc.isXmlSyntaxError
    · rw [process_of_syntaxError hparse hsyn, repair_eq_self_iff.mpr hvalid]
    · simp only [process, processOnce, hparse, if_neg hsyn]

/-- What an attempt raises is raised by the operation, or is no syntax error. -/
theorem processOnce_raises (hraise : processOnce parseXml processReply content = .error exc)
    (hsyn : exc.isXmlSyntaxError) :
    ∃ envelope, parseXml content = .ok envelope ∧ processReply envelope = .error exc := by
  unfold processOnce at hraise
  split at hraise
  · rename_i envelope hparse
    refine ⟨envelope, hparse, ?_⟩
    cases hreply : processReply envelope with
    | ok reply =>
      rw [hreply] at hraise
      cases hraise
    | error exc' =>
      rw [hreply] at hraise
      exact congrArg _ (Except.error.inj hraise)
  · rename_i exc' hparse
    split_ifs at hraise with hsyn'
    exact absurd (Except.error.inj hraise ▸ hsyn) hsyn'

/-- **A broken message is processed as the repaired one is**: the text before the first ill-formed
byte stays, the rest is at most three times as long, a message that is UTF-8 as it stands is
dropped, and a syntax error leaves only where the operation raised it on the repaired message. -/
theorem broken_notification_repaired (cs : List Char) (tail : List UInt8)
    (hfail : parseXml (encode cs ++ tail) = .error exc) (hsyn : exc.isXmlSyntaxError) :
    process parseXml (some processReply) (encode cs ++ tail)
        = process parseXml (some processReply) (encode cs ++ repair tail)
      ∧ (repair tail).length ≤ 3 * tail.length
      ∧ (Valid tail → process parseXml (some processReply) (encode cs ++ tail) = .ok none)
      ∧ ∀ exc', exc'.isXmlSyntaxError →
          process parseXml (some processReply) (encode cs ++ tail) = .error exc' →
          ∃ envelope, parseXml (encode cs ++ repair tail) = .ok envelope
            ∧ processReply envelope = .error exc' := by
  have hsecond : process parseXml (some processReply) (encode cs ++ tail)
      = processOnce parseXml processReply (encode cs ++ repair tail) := by
    rw [process_of_syntaxError hfail hsyn, repair_encode_append]
  have hvalid : Valid (encode cs ++ repair tail) := by
    rw [← repair_encode_append]
    exact valid_repair _
  refine ⟨?_, length_repair_le tail, ?_, ?_⟩
  · rw [hsecond, process_of_valid hvalid]
  · intro htail
    rw [hsecond, repair_eq_self_iff.mpr htail]
    simp only [processOnce, hfail, hsyn, if_true]
  · intro exc' hsyn' hraise
    exact processOnce_raises (hsecond ▸ hraise) hsyn'

end Process

/-- A parser that takes bytes it can decode. -/
def sampleParseXml (content : List UInt8) : Except Exc (List Char) :=
  if repair content = content then .ok (decode content)
  else .error (.zeep .xmlSyntaxError "Invalid XML content received (Input is not proper UTF-8)")

/-- **A broken message is processed as the repaired one is**, at `<a>` and a lone continuation
byte. -/
theorem broken_notification_repaired_lone :
    process sampleParseXml (some (fun cs => .ok cs.length)) ([0x3C, 0x61, 0x3E] ++ [0x80])
      = .ok (some 4) := by
  have hfail : sampleParseXml (encode ['<', 'a', '>'] ++ [0x80]) = .error (.zeep .xmlSyntaxError
      "Invalid XML content received (Input is not proper UTF-8)") := if_neg (by decide)
  exact (broken_notification_repaired ['<', 'a', '>'] [0x80] hfail rfl).1.trans rfl

end NotificationManager

end Onvif
