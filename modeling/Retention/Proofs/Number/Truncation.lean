import Mathlib.Data.Rat.Floor
import Mathlib.Tactic.Linarith
import Retention.Number.Binary64
import Retention.Number.Decimal

/-! # Numbers without their fractions

A finite double or decimal number is worth a rational number, a coefficient times a power of its base.
To cut off the digits behind the point is to round that number toward zero.
-/

namespace Retention

/-- A rational number without its fraction, toward zero. -/
def truncated (q : ℚ) : ℤ :=
  if q < 0 then ⌈q⌉ else ⌊q⌋

def signed (negative : Bool) (q : ℚ) : ℚ :=
  if negative then -q else q

theorem truncated_of_nonneg {q : ℚ} (h : 0 ≤ q) : truncated q = ⌊q⌋ :=
  if_neg (not_lt.mpr h)

theorem truncated_neg (q : ℚ) : truncated (-q) = -truncated q := by
  rcases lt_trichotomy q 0 with h | rfl | h
  · rw [truncated_of_nonneg (by linarith), truncated, if_pos h, Int.floor_neg]
  · simp [truncated]
  · rw [truncated_of_nonneg h.le, truncated, if_pos (by linarith), Int.ceil_neg]

theorem truncated_signed (negative : Bool) {q : ℚ} (h : 0 ≤ q) :
    truncated (signed negative q) = if negative then -⌊q⌋ else ⌊q⌋ := by
  cases negative with
  | false => exact truncated_of_nonneg h
  | true => rw [signed, if_pos rfl, truncated_neg, truncated_of_nonneg h, if_pos rfl]

theorem zpow_eq_div (base : Nat) (exponent : Int) :
    (base : ℚ) ^ exponent = (base : ℚ) ^ exponent.toNat / (base : ℚ) ^ (-exponent).toNat := by
  rcases Int.eq_nat_or_neg exponent with ⟨k, rfl | rfl⟩
  · simp
  · simp

theorem floor_mul_zpow (base coefficient : Nat) (exponent : Int) :
    ⌊(coefficient : ℚ) * (base : ℚ) ^ exponent⌋ =
      (coefficient * base ^ exponent.toNat / base ^ (-exponent).toNat : Nat) := by
  rw [zpow_eq_div, ← mul_div_assoc]
  exact_mod_cast Rat.floor_natCast_div_natCast (coefficient * base ^ exponent.toNat) (base ^ (-exponent).toNat)

theorem mul_zpow_nonneg (base coefficient : Nat) (exponent : Int) :
    0 ≤ (coefficient : ℚ) * (base : ℚ) ^ exponent :=
  mul_nonneg (Nat.cast_nonneg _) (zpow_nonneg (Nat.cast_nonneg _) _)

namespace Binary64

/-- The number that a double stands for, if it is finite. -/
def worth? : Binary64 → Option ℚ
  | .finite negative mantissa exponent => some (signed negative (mantissa * 2 ^ exponent))
  | _ => none

theorem truncate?_eq (x : Binary64) : x.truncate? = x.worth?.map truncated := by
  cases x with
  | finite negative mantissa exponent =>
    have hfloor := floor_mul_zpow 2 mantissa exponent
    have hnonneg := mul_zpow_nonneg 2 mantissa exponent
    rw [Nat.cast_ofNat] at hfloor hnonneg
    simp only [truncate?, worth?, Option.map_some, truncated_signed negative hnonneg, hfloor, applySign, wholePart,
      Nat.pow_eq]
  | _ => rfl

end Binary64

namespace Decimal

def worth? : Decimal → Option ℚ
  | .finite negative coefficient exponent => some (signed negative (coefficient * 10 ^ exponent))
  | _ => none

/-- If more digits are cut off than there are, nothing is left. -/
theorem wholePart_eq (coefficient : Nat) (exponent : Int) :
    wholePart coefficient exponent = coefficient * 10 ^ exponent.toNat / 10 ^ (-exponent).toNat := by
  unfold wholePart
  split
  · rename_i h
    have hlt : coefficient < 10 ^ (-exponent).toNat :=
      (Nat.length_toDigits_le_iff (by decide) (by omega)).mp (by omega)
    rw [Int.toNat_of_nonpos (by omega), pow_zero, mul_one, Nat.div_eq_of_lt hlt]
  · rfl

theorem truncate?_eq (d : Decimal) : d.truncate? = d.worth?.map truncated := by
  cases d with
  | finite negative coefficient exponent =>
    have hfloor := floor_mul_zpow 10 coefficient exponent
    have hnonneg := mul_zpow_nonneg 10 coefficient exponent
    rw [Nat.cast_ofNat] at hfloor hnonneg
    simp only [truncate?, worth?, Option.map_some, truncated_signed negative hnonneg, hfloor, applySign, wholePart_eq]
  | _ => rfl

end Decimal
end Retention
