/-
UTF-8: encoding, and decoding that replaces what is ill-formed.

`utf8DecodeReplace` is the decoder of `bytes.decode("utf-8", "replace")`; the encoder is Lean's own
`String.utf8EncodeChar`, one character after the other.

* **`decode_encode_append`** — decoding undoes encoding, whatever bytes follow;
* **`repair_eq_self_iff`** — decoding and encoding again changes exactly what is not UTF-8, and
  gives UTF-8 (`valid_repair`);
* **`repair_encode_append`** — it leaves UTF-8 before the first ill-formed part alone;
* **`length_repair_le`** — the result is at most three times as long.
-/
import OnvifZeep.Exceptions
import Mathlib.Tactic.Linarith

namespace Onvif

namespace Utf8

/-- `str.encode("utf-8")`. -/
def encode (cs : List Char) : List UInt8 := cs.flatMap String.utf8EncodeChar

/-- `bytes.decode("utf-8", "replace")`. -/
def decode (bs : List UInt8) : List Char := utf8DecodeReplace bs.length (bs.map UInt8.toNat)

/-- `content.decode("utf-8", "replace").encode("utf-8")`. -/
def repair (bs : List UInt8) : List UInt8 := encode (decode bs)

/-- The bytes are the encoding of some characters. -/
def Valid (bs : List UInt8) : Prop := ∃ cs, bs = encode cs

theorem encode_append (cs cs' : List Char) : encode (cs ++ cs') = encode cs ++ encode cs' :=
  List.flatMap_append

/-! ### The decoder and its bound -/

theorem length_utf8Continue_le (n lo hi acc : ℕ) (bs : List ℕ) :
    (utf8Continue n lo hi acc bs).2.length ≤ bs.length := by
  induction n generalizing lo hi acc bs with
  | zero => exact le_rfl
  | succ n ih =>
    cases bs with
    | nil => exact le_rfl
    | cons b bs =>
      rw [utf8Continue]
      split_ifs
      · exact (ih _ _ _ bs).trans (Nat.le_succ _)
      · exact le_rfl

/-- The bound on the length of the input does not matter once it is large enough. -/
theorem utf8DecodeReplace_eq {n m : ℕ} {bs : List ℕ} (hn : bs.length ≤ n) (hm : bs.length ≤ m) :
    utf8DecodeReplace n bs = utf8DecodeReplace m bs := by
  induction n generalizing m bs with
  | zero =>
    obtain rfl := List.eq_nil_of_length_eq_zero (Nat.le_zero.mp hn)
    cases m <;> rfl
  | succ n ih =>
    cases bs with
    | nil => cases m <;> rfl
    | cons b bs =>
      cases m with
      | zero => exact absurd hm (Nat.not_succ_le_zero _)
      | succ m =>
        have hn' : bs.length ≤ n := Nat.le_of_succ_le_succ hn
        have hm' : bs.length ≤ m := Nat.le_of_succ_le_succ hm
        rw [utf8DecodeReplace, utf8DecodeReplace]
        split_ifs
        · rw [ih hn' hm']
        · cases utf8Lead b with
          | none => exact congrArg _ (ih hn' hm')
          | some p =>
            obtain ⟨k, lo, hi⟩ := p
            have hle := length_utf8Continue_le k lo hi (b % 2 ^ (6 - k)) bs
            dsimp only
            revert hle
            rcases utf8Continue k lo hi (b % 2 ^ (6 - k)) bs with ⟨v, rest⟩
            intro hle
            have hrest := ih (m := m) (hle.trans hn') (hle.trans hm')
            cases v with
            | some v => exact congrArg _ hrest
            | none => exact congrArg _ hrest

/-- The decoder without its bound. -/
def decodeNat (bs : List ℕ) : List Char := utf8DecodeReplace bs.length bs

theorem decodeNat_ascii {b : ℕ} (hb : b < 0x80) (bs : List ℕ) :
    decodeNat (b :: bs) = Char.ofNat b :: decodeNat bs := by
  show utf8DecodeReplace (bs.length + 1) (b :: bs) = _
  rw [utf8DecodeReplace, if_pos hb]
  rfl

/-- A character of several bytes. -/
theorem decodeNat_lead {b k lo hi v : ℕ} {bs rest : List ℕ} (hb : ¬b < 0x80)
    (hlead : utf8Lead b = some (k, lo, hi))
    (hcontinue : utf8Continue k lo hi (b % 2 ^ (6 - k)) bs = (some v, rest)) :
    decodeNat (b :: bs) = Char.ofNat v :: decodeNat rest := by
  have hle := length_utf8Continue_le k lo hi (b % 2 ^ (6 - k)) bs
  show utf8DecodeReplace (bs.length + 1) (b :: bs) = _
  rw [utf8DecodeReplace, if_neg hb, hlead]
  dsimp only
  rw [hcontinue] at hle ⊢
  exact congrArg _ (utf8DecodeReplace_eq hle le_rfl)

section Continuation

variable {lo hi acc b₁ b₂ b₃ : ℕ} (bs : List ℕ)

theorem utf8Continue_one (h₁ : lo ≤ b₁ ∧ b₁ ≤ hi) :
    utf8Continue 1 lo hi acc (b₁ :: bs) = (some (acc * 64 + b₁ % 64), bs) := by
  rw [utf8Continue, if_pos h₁, utf8Continue]

theorem utf8Continue_two (h₁ : lo ≤ b₁ ∧ b₁ ≤ hi) (h₂ : 0x80 ≤ b₂ ∧ b₂ ≤ 0xBF) :
    utf8Continue 2 lo hi acc (b₁ :: b₂ :: bs)
      = (some ((acc * 64 + b₁ % 64) * 64 + b₂ % 64), bs) := by
  rw [utf8Continue, if_pos h₁, utf8Continue_one bs h₂]

theorem utf8Continue_three (h₁ : lo ≤ b₁ ∧ b₁ ≤ hi) (h₂ : 0x80 ≤ b₂ ∧ b₂ ≤ 0xBF)
    (h₃ : 0x80 ≤ b₃ ∧ b₃ ≤ 0xBF) :
    utf8Continue 3 lo hi acc (b₁ :: b₂ :: b₃ :: bs)
      = (some (((acc * 64 + b₁ % 64) * 64 + b₂ % 64) * 64 + b₃ % 64), bs) := by
  rw [utf8Continue, if_pos h₁, utf8Continue_two bs h₂ h₃]

end Continuation

/-! ### Decoding what was encoded -/

/-- A character is not a surrogate. -/
theorem scalarValue (c : Char) : c.toNat < 0xD800 ∨ 0xDFFF < c.toNat ∧ c.toNat < 0x110000 :=
  c.valid

/-- The bytes of a character. -/
theorem map_toNat_encodeChar (c : Char) :
    (String.utf8EncodeChar c).map UInt8.toNat =
      if c.toNat ≤ 0x7F then [c.toNat]
      else if c.toNat ≤ 0x7FF then [0xC0 + c.toNat / 64, 0x80 + c.toNat % 64]
      else if c.toNat ≤ 0xFFFF then
        [0xE0 + c.toNat / 4096, 0x80 + c.toNat / 64 % 64, 0x80 + c.toNat % 64]
      else [0xF0 + c.toNat / 262144, 0x80 + c.toNat / 4096 % 64, 0x80 + c.toNat / 64 % 64,
        0x80 + c.toNat % 64] := by
  have hmax : c.toNat < 0x110000 := by
    rcases scalarValue c with h | h <;> omega
  have hval : c.val.toNat = c.toNat := rfl
  unfold String.utf8EncodeChar
  simp only [hval]
  split_ifs
  all_goals simp only [List.map_cons, List.map_nil, UInt8.toNat_ofNat', List.cons.injEq, and_true]
  all_goals omega

theorem utf8Lead_two {b : ℕ} (hlo : 0xC2 ≤ b) (hhi : b ≤ 0xDF) :
    utf8Lead b = some (1, 0x80, 0xBF) := if_pos ⟨hlo, hhi⟩

/-- The lead byte of three bytes, and the range of the second, which leaves out the surrogates. -/
theorem utf8Lead_three {b : ℕ} (hlo : 0xE0 ≤ b) (hhi : b ≤ 0xEF) :
    utf8Lead b = some (2, if b = 0xE0 then 0xA0 else 0x80, if b = 0xED then 0x9F else 0xBF) := by
  rw [utf8Lead]
  split_ifs
  all_goals first | rfl | omega

theorem utf8Lead_four {b : ℕ} (hlo : 0xF0 ≤ b) (hhi : b ≤ 0xF4) :
    utf8Lead b = some (3, if b = 0xF0 then 0x90 else 0x80, if b = 0xF4 then 0x8F else 0xBF) := by
  rw [utf8Lead]
  split_ifs
  all_goals first | rfl | omega

/-- **Decoding undoes encoding**, one character. -/
theorem decodeNat_encodeChar (c : Char) (bs : List ℕ) :
    decodeNat ((String.utf8EncodeChar c).map UInt8.toNat ++ bs) = c :: decodeNat bs := by
  have hvalid := scalarValue c
  have hvalue : ∀ v l, v = c.toNat → decodeNat l = Char.ofNat v :: decodeNat bs →
      decodeNat l = c :: decodeNat bs := by
    intro v l hv hl
    rw [hl, hv, Char.ofNat_toNat]
  rw [map_toNat_encodeChar]
  split_ifs with h₁ h₂ h₃
  · exact hvalue _ _ rfl (decodeNat_ascii (by omega) bs)
  · refine hvalue _ _ ?_ (decodeNat_lead (by omega) (utf8Lead_two (by omega) (by omega))
      (utf8Continue_one bs ⟨by omega, by omega⟩))
    omega
  · -- the second byte is in the range that the lead byte leaves to it
    refine hvalue _ _ ?_ (decodeNat_lead (by omega) (utf8Lead_three (by omega) (by omega))
      (utf8Continue_two bs ⟨?_, ?_⟩ ⟨by omega, by omega⟩))
    · omega
    · split_ifs <;> omega
    · split_ifs <;> omega
  · refine hvalue _ _ ?_ (decodeNat_lead (by omega) (utf8Lead_four (by omega) (by omega))
      (utf8Continue_three bs ⟨?_, ?_⟩ ⟨by omega, by omega⟩ ⟨by omega, by omega⟩))
    · omega
    · split_ifs <;> omega
    · split_ifs <;> omega

theorem decode_eq_decodeNat (bs : List UInt8) : decode bs = decodeNat (bs.map UInt8.toNat) := by
  rw [decode, decodeNat, List.length_map]

theorem decode_encodeChar_append (c : Char) (bs : List UInt8) :
    decode (String.utf8EncodeChar c ++ bs) = c :: decode bs := by
  rw [decode_eq_decodeNat, List.map_append, decodeNat_encodeChar, decode_eq_decodeNat]

/-- **Decoding undoes encoding**, whatever bytes follow. -/
theorem decode_encode_append (cs : List Char) (bs : List UInt8) :
    decode (encode cs ++ bs) = cs ++ decode bs := by
  induction cs with
  | nil => rfl
  | cons c cs ih =>
    rw [encode, List.flatMap_cons, List.append_assoc, decode_encodeChar_append]
    exact congrArg (List.cons c) ih

theorem decode_encode (cs : List Char) : decode (encode cs) = cs := by
  have h := decode_encode_append cs []
  rwa [List.append_nil, show decode [] = [] from rfl, List.append_nil] at h

/-! ### Repairing -/

theorem valid_repair (bs : List UInt8) : Valid (repair bs) := ⟨decode bs, rfl⟩

/-- **UTF-8 before the first ill-formed part** is left alone. -/
theorem repair_encode_append (cs : List Char) (bs : List UInt8) :
    repair (encode cs ++ bs) = encode cs ++ repair bs := by
  rw [repair, decode_encode_append, encode_append]
  rfl

/-- **Repairing changes exactly what is not UTF-8.** -/
theorem repair_eq_self_iff {bs : List UInt8} : repair bs = bs ↔ Valid bs := by
  constructor
  · intro h
    exact h ▸ valid_repair bs
  · rintro ⟨cs, rfl⟩
    rw [repair, decode_encode]

/-- The bytes read into a character. -/
theorem length_of_utf8Continue {n lo hi acc v : ℕ} {bs rest : List ℕ}
    (h : utf8Continue n lo hi acc bs = (some v, rest)) : bs.length = n + rest.length := by
  induction n generalizing lo hi acc bs with
  | zero =>
    cases h
    exact (Nat.zero_add _).symm
  | succ n ih =>
    cases bs with
    | nil => cases h
    | cons b bs =>
      rw [utf8Continue] at h
      split_ifs at h
      · rw [List.length_cons, ih h]
        omega
      · cases h

theorem utf8Lead_pos {b k lo hi : ℕ} (h : utf8Lead b = some (k, lo, hi)) : 1 ≤ k := by
  unfold utf8Lead at h
  split_ifs at h
  all_goals
    cases h
    decide

theorem length_encode_cons_le (c : Char) (cs : List Char) :
    (encode (c :: cs)).length ≤ 4 + (encode cs).length := by
  rw [encode, List.flatMap_cons, List.length_append, String.length_utf8EncodeChar]
  exact Nat.add_le_add_right c.utf8Size_le_four _

/-- A byte that is not read into a character becomes the three bytes of U+FFFD. -/
theorem length_encode_replacement (cs : List Char) :
    (encode (Char.ofNat 0xFFFD :: cs)).length = 3 + (encode cs).length := by
  rw [encode, List.flatMap_cons, List.length_append]
  rfl

theorem length_encode_ascii {b : ℕ} (hb : b < 0x80) (cs : List Char) :
    (encode (Char.ofNat b :: cs)).length = 1 + (encode cs).length := by
  have hsize : ∀ b < 0x80, (String.utf8EncodeChar (Char.ofNat b)).length = 1 := by decide
  rw [encode, List.flatMap_cons, List.length_append, hsize b hb]
  rfl

theorem length_encode_decode_le (n : ℕ) (bs : List ℕ) :
    (encode (utf8DecodeReplace n bs)).length ≤ 3 * bs.length := by
  induction n generalizing bs with
  | zero => exact Nat.zero_le _
  | succ n ih =>
    cases bs with
    | nil => exact Nat.zero_le _
    | cons b bs =>
      rw [utf8DecodeReplace, List.length_cons]
      split_ifs with hb
      · rw [length_encode_ascii hb]
        have := ih bs
        omega
      · cases hlead : utf8Lead b with
        | none =>
          dsimp only
          rw [length_encode_replacement]
          have := ih bs
          omega
        | some p =>
          obtain ⟨k, lo, hi⟩ := p
          dsimp only
          have hk := utf8Lead_pos hlead
          have hle := length_utf8Continue_le k lo hi (b % 2 ^ (6 - k)) bs
          rcases hread : utf8Continue k lo hi (b % 2 ^ (6 - k)) bs with ⟨v, rest⟩
          rw [hread] at hle
          have hrest := ih rest
          cases v with
          | some v =>
            have hcount := length_of_utf8Continue hread
            have hchar := length_encode_cons_le (Char.ofNat v) (utf8DecodeReplace n rest)
            show (encode (Char.ofNat v :: utf8DecodeReplace n rest)).length ≤ _
            omega
          | none =>
            show (encode (Char.ofNat 0xFFFD :: utf8DecodeReplace n rest)).length ≤ _
            rw [length_encode_replacement]
            dsimp only at hle
            omega

/-- **Repairing at most triples the length.** -/
theorem length_repair_le (bs : List UInt8) : (repair bs).length ≤ 3 * bs.length := by
  have h := length_encode_decode_le bs.length (bs.map UInt8.toNat)
  rwa [List.length_map] at h

end Utf8

end Onvif
