import Formwork.Number.Binary
import Mathlib.Algebra.Order.Field.Basic
import Mathlib.Algebra.Order.Field.Power
import Mathlib.Data.Nat.Cast.Field
import Mathlib.Data.Rat.Cast.Order

/-!
The order of finite quantities is that of the numbers they stand for, whatever the mantissa and the
exponent with which these are written.
-/
namespace Formwork

namespace Quantity

/-- The number that a mantissa and an exponent stand for. -/
def worth (mantissa exponent : Int) : ℚ := mantissa * 2 ^ exponent

variable {a b e f : Int}

theorem mantissa_shift {low : Int} (h : low ≤ e) :
    ((a * Nat.pow 2 (e - low).toNat : Int) : ℚ) * 2 ^ low = worth a e := by
  have hpow : ((Nat.pow 2 (e - low).toNat : Nat) : ℚ) = 2 ^ (e - low) := by
    rw [Nat.pow_eq, Nat.cast_pow, Nat.cast_ofNat, ← zpow_natCast, Int.toNat_of_nonneg (by omega)]
  rw [worth, Int.cast_mul, Int.cast_natCast, hpow, mul_assoc, ← zpow_add₀ two_ne_zero,
    Int.sub_add_cancel]

/-- Finite quantities are ordered as their worths. -/
theorem lt_finite_iff : Quantity.lt (.finite a e) (.finite b f) = true ↔ worth a e < worth b f := by
  -- Both sides are compared at the lower of the two exponents.
  have hpos : (0 : ℚ) < 2 ^ min e f := zpow_pos two_pos _
  rw [← mantissa_shift (min_le_left e f), ← mantissa_shift (min_le_right e f),
    mul_lt_mul_iff_left₀ hpos, Int.cast_lt, Quantity.lt, compare?]
  simp [Int.compare_eq_lt]

/-- Quantities that none tells apart from the left or from the right. -/
def Alike (p q : Quantity) : Prop := ∀ r, Quantity.lt r p = Quantity.lt r q ∧
  Quantity.lt p r = Quantity.lt q r

theorem alike_of_worth_eq (h : worth a e = worth b f) : Alike (.finite a e) (.finite b f) := by
  intro r
  cases r with
  | finite c g =>
    constructor
    · rw [Bool.eq_iff_iff, lt_finite_iff, lt_finite_iff, h]
    · rw [Bool.eq_iff_iff, lt_finite_iff, lt_finite_iff, h]
  | infinite => exact ⟨rfl, rfl⟩
  | none => exact ⟨rfl, rfl⟩

theorem eq_finite_iff : Quantity.eq (.finite a e) (.finite b f) = true ↔ worth a e = worth b f := by
  have hpos : (2 : ℚ) ^ min e f ≠ 0 := zpow_ne_zero _ two_ne_zero
  rw [← mantissa_shift (min_le_left e f), ← mantissa_shift (min_le_right e f), mul_left_inj' hpos,
    Int.cast_inj, Quantity.eq, compare?]
  simp

theorem Alike.refl (p : Quantity) : Alike p p := fun _ => ⟨rfl, rfl⟩

/-- Equal quantities are alike. -/
theorem alike_of_eq {p q : Quantity} (h : Quantity.eq p q = true) : Alike p q := by
  cases p with
  | finite a e =>
    cases q with
    | finite b f => exact alike_of_worth_eq (eq_finite_iff.1 h)
    | infinite n => cases n <;> cases h
    | none => cases h
  | infinite m =>
    cases q with
    | finite b f => cases m <;> cases h
    | infinite n =>
      cases m <;> cases n
      · exact .refl _
      · cases h
      · cases h
      · exact .refl _
    | none => cases h
  | none => cases h

end Quantity

open Quantity

theorem Binary64.cast_whole {m k : Nat} {e : Int}
    (h : (if 0 ≤ e then some (m * Nat.pow 2 e.toNat)
      else if m % Nat.pow 2 (-e).toNat = 0 then some (m / Nat.pow 2 (-e).toNat) else none) = some k) :
    (k : ℚ) = m * 2 ^ e := by
  split at h
  · next he =>
    obtain rfl := Option.some.inj h
    have hpow : (2 : ℚ) ^ e = 2 ^ e.toNat := by
      rw [← zpow_natCast, Int.toNat_of_nonneg he]
    rw [hpow, Nat.pow_eq, Nat.cast_mul, Nat.cast_pow, Nat.cast_ofNat]
  · next he =>
    split at h
    · next hm =>
      obtain rfl := Option.some.inj h
      have hpow : (2 : ℚ) ^ e = (2 ^ (-e).toNat)⁻¹ := by
        rw [← zpow_natCast, Int.toNat_of_nonneg (by omega), zpow_neg, inv_inv]
      rw [Nat.cast_div (Nat.dvd_of_mod_eq_zero hm) (by simp), hpow, Nat.pow_eq, Nat.cast_pow,
        Nat.cast_ofNat, div_eq_mul_inv]
    · cases h

/-- The whole number that a number is has the same worth. -/
theorem Binary64.worth_of_toInt? {negative : Bool} {m : Nat} {e n : Int}
    (h : Binary64.toInt? (.finite negative m e) = some n) :
    worth n 0 = worth (if negative then -m else m) e := by
  obtain ⟨_, hwhole, rfl⟩ := Option.map_eq_some_iff.1 h
  obtain ⟨k, hk, hcoe⟩ := Option.bind_eq_some_iff.1 hwhole
  obtain rfl := Option.some.inj hcoe
  have hcast := cast_whole hk
  rw [worth, worth, zpow_zero, mul_one]
  cases negative <;> simp [hcast]

end Formwork
