/-
Rounding to a double.

The doubles around a rational number `q` are the multiples of `unit q`, `2 ^ 52` times smaller
than the power of two below `|q|`.  `nearest q` is the multiple closest to `q`, the even one of
two that are as close.  This is binary64 on its normal range; what overflows or is subnormal is
left out.

* **`le_roundEven_iff`** — when an even number is reached by rounding;
* **`floor_nearest`** — the integer part of a rounded value: it is one more than that of the
  value where the value lies within half a unit below the next integer.
-/
import Mathlib.Algebra.Order.Field.Rat
import Mathlib.Data.Int.Log
import Mathlib.Data.Rat.Floor
import Mathlib.Tactic.FieldSimp
import Mathlib.Tactic.Linarith

namespace Binary64

/-- The closest integer, the even one of two. -/
def roundEven (q : ℚ) : ℤ :=
  if q - ⌊q⌋ < 1 / 2 then ⌊q⌋
  else if 1 / 2 < q - ⌊q⌋ then ⌊q⌋ + 1
  else if ⌊q⌋ % 2 = 0 then ⌊q⌋ else ⌊q⌋ + 1

/-- The distance of the doubles around a value. -/
def unit (q : ℚ) : ℚ := 2 ^ (Int.log 2 |q| - 52)

/-- The double closest to a value. -/
def nearest (q : ℚ) : ℚ := roundEven (q / unit q) * unit q

/-- The value without its fraction. -/
def truncate (q : ℚ) : ℤ := if 0 ≤ q then ⌊q⌋ else ⌈q⌉

example : truncate (nearest (1 / 3)) = 0 ∧ truncate (nearest (-7 / 2)) = -3 := by decide +kernel

/-! ### Rounding to an integer -/

theorem floor_le_roundEven (q : ℚ) : ⌊q⌋ ≤ roundEven q := by
  unfold roundEven
  split_ifs <;> omega

theorem roundEven_le_floor_add_one (q : ℚ) : roundEven q ≤ ⌊q⌋ + 1 := by
  unfold roundEven
  split_ifs <;> omega

theorem le_roundEven {n : ℤ} {q : ℚ} (h : n ≤ q) : n ≤ roundEven q :=
  (Int.le_floor.mpr h).trans (floor_le_roundEven q)

theorem roundEven_le_of_lt {n : ℤ} {q : ℚ} (h : q < n) : roundEven q ≤ n :=
  (roundEven_le_floor_add_one q).trans (Int.floor_lt.mpr h)

/-- **An even number is reached** from half below it on. -/
theorem le_roundEven_iff {n : ℤ} (hn : n % 2 = 0) {q : ℚ} :
    n ≤ roundEven q ↔ (n : ℚ) - 1 / 2 ≤ q := by
  have hlow := Int.floor_le q
  have hhigh := Int.lt_floor_add_one q
  rcases lt_trichotomy n (⌊q⌋ + 1) with hlt | rfl | hgt
  · -- `n` is at most the floor
    have hle : n ≤ ⌊q⌋ := by omega
    have hcast : (n : ℚ) ≤ ⌊q⌋ := by exact_mod_cast hle
    exact iff_of_true (hle.trans (floor_le_roundEven q)) (by linarith)
  · -- `n` is the integer above; at the midpoint it is the even one of the two
    have hodd : ⌊q⌋ % 2 ≠ 0 := by omega
    unfold roundEven
    push_cast
    split_ifs with hbelow habove
    · exact iff_of_false (by omega) (by linarith)
    · exact iff_of_true le_rfl (by linarith)
    · exact iff_of_true le_rfl (by linarith)
  · have hfar : ⌊q⌋ + 2 ≤ n := by omega
    have hcast : (⌊q⌋ : ℚ) + 2 ≤ n := by exact_mod_cast hfar
    have := roundEven_le_floor_add_one q
    exact iff_of_false (by omega) (by linarith)

/-! ### Rounding to a double -/

theorem unit_pos (q : ℚ) : 0 < unit q := zpow_pos two_pos _

theorem log_abs_lt {q : ℚ} {k : ℕ} (hk : 0 < k) (h : |q| < 2 ^ k) : Int.log 2 |q| < k := by
  rcases eq_or_ne q 0 with rfl | hne
  · rw [abs_zero, Int.log_zero_right]
    exact_mod_cast hk
  · exact (Int.lt_zpow_iff_log_lt one_lt_two (abs_pos.mpr hne)).mp (by exact_mod_cast h)

/-- The doubles below a power of two are no further apart than just below it. -/
theorem unit_le {q : ℚ} {k : ℕ} (h : |q| < 2 ^ (k + 1)) : unit q ≤ 2 ^ k / 2 ^ 52 := by
  have hlog := log_abs_lt k.succ_pos h
  calc unit q ≤ 2 ^ ((k : ℤ) - 52) := zpow_le_zpow_right₀ one_le_two (by omega)
    _ = 2 ^ k / 2 ^ 52 := by rw [zpow_sub₀ two_ne_zero, zpow_natCast]; rfl

/-- Below `2 ^ 52` an integer is an even number of units. -/
theorem exists_units {q : ℚ} (hnonneg : 0 ≤ q) (hlt : q < 2 ^ 52) :
    ∃ count : ℕ, 0 < count ∧ count % 2 = 0 ∧ unit q * count = 1 := by
  have hlog : Int.log 2 |q| < (52 : ℕ) := log_abs_lt (by decide) (by rwa [abs_of_nonneg hnonneg])
  obtain ⟨k, hk⟩ : ∃ k : ℕ, (k : ℤ) + 1 = 52 - Int.log 2 |q| :=
    ⟨(51 - Int.log 2 |q|).toNat, by omega⟩
  refine ⟨2 ^ (k + 1), pow_pos two_pos _, by omega, ?_⟩
  have hexponent : Int.log 2 |q| - 52 = -((k + 1 : ℕ) : ℤ) := by omega
  rw [unit, hexponent, Nat.cast_pow, Nat.cast_ofNat, zpow_neg, zpow_natCast]
  exact inv_mul_cancel₀ (pow_ne_zero _ two_ne_zero)

/-- **The integer part of a rounded value.** -/
theorem floor_nearest {q : ℚ} (hnonneg : 0 ≤ q) (hlt : q < 2 ^ 52) :
    ⌊nearest q⌋ = if (⌊q⌋ : ℚ) + 1 - unit q / 2 ≤ q then ⌊q⌋ + 1 else ⌊q⌋ := by
  obtain ⟨count, hcount, heven, hunit⟩ := exists_units hnonneg hlt
  have hcount' : (0 : ℚ) < count := by exact_mod_cast hcount
  have hunit' : unit q = (count : ℚ)⁻¹ := eq_inv_of_mul_eq_one_left hunit
  have hfloor : ⌊nearest q⌋ = roundEven (q * count) / (count : ℤ) := by
    rw [nearest, hunit', div_inv_eq_mul, ← div_eq_mul_inv]
    exact Rat.floor_intCast_div_natCast _ _
  have hbelow : ⌊q⌋ * (count : ℤ) ≤ roundEven (q * count) := by
    apply le_roundEven
    push_cast
    exact mul_le_mul_of_nonneg_right (Int.floor_le q) hcount'.le
  have habove : roundEven (q * count) ≤ (⌊q⌋ + 1) * (count : ℤ) := by
    apply roundEven_le_of_lt
    push_cast
    exact mul_lt_mul_of_pos_right (Int.lt_floor_add_one q) hcount'
  have hreached : (⌊q⌋ + 1) * (count : ℤ) ≤ roundEven (q * count)
      ↔ (⌊q⌋ : ℚ) + 1 - unit q / 2 ≤ q := by
    have hevenInt : (⌊q⌋ + 1) * (count : ℤ) % 2 = 0 :=
      Int.emod_eq_zero_of_dvd (dvd_mul_of_dvd_right (by omega) _)
    rw [le_roundEven_iff hevenInt, hunit',
      ← mul_le_mul_iff_of_pos_right (b := (⌊q⌋ : ℚ) + 1 - (count : ℚ)⁻¹ / 2) hcount', sub_mul]
    push_cast
    rw [div_mul_eq_mul_div, inv_mul_cancel₀ hcount'.ne']
  have hcountInt : (0 : ℤ) < count := by exact_mod_cast hcount
  rw [hfloor]
  split_ifs with h
  · have hsame := le_antisymm habove (hreached.mpr h)
    rw [hsame, Int.mul_ediv_cancel _ hcountInt.ne']
  · have hless := not_le.mp (hreached.not.mpr h)
    refine le_antisymm ?_ ((Int.le_ediv_iff_mul_le hcountInt).mpr hbelow)
    exact Int.lt_add_one_iff.mp ((Int.ediv_lt_iff_lt_mul hcountInt).mpr hless)

theorem nearest_nonneg {q : ℚ} (h : 0 ≤ q) : 0 ≤ nearest q := by
  have hunits : (0 : ℤ) ≤ roundEven (q / unit q) := by
    apply le_roundEven
    exact_mod_cast div_nonneg h (unit_pos q).le
  exact mul_nonneg (by exact_mod_cast hunits) (unit_pos q).le

end Binary64
