import Formwork.Number.Decimal

/-!
The decimal digits of a whole number spell that number.
-/
namespace Formwork.Decimal

theorem valueOf_eq_ofDigitChars (ds : List Char) :
    valueOf (ds.map fun c => c.toNat - 48) = Nat.ofDigitChars 10 ds 0 := by
  have hfold (n : Nat) : (ds.map fun c => c.toNat - 48).foldl (fun n d => n * 10 + d) n =
      Nat.ofDigitChars 10 ds n := by
    induction ds generalizing n with
    | nil => rfl
    | cons c ds ih =>
      rw [List.map_cons, List.foldl_cons, ih, Nat.ofDigitChars_cons, Nat.mul_comm]
      rfl
  exact hfold 0

theorem spanDigits_of_digits {ds : List Char} (h : ∀ c ∈ ds, c.isDigit = true) :
    spanDigits ds = (ds.map fun c => c.toNat - 48, []) := by
  induction ds with
  | nil => rfl
  | cons c ds ih =>
    obtain ⟨hc, hds⟩ := List.forall_mem_cons.1 h
    simp only [spanDigits, hc, if_true, ih hds, List.map_cons]

theorem isDigit_toDigits (n : Nat) : ∀ c ∈ Nat.toDigits 10 n, c.isDigit = true :=
  fun _ hc => Nat.isDigit_of_mem_toDigits (by decide) (by decide) hc

theorem valueOf_toDigits (n : Nat) : valueOf (spanDigits (Nat.toDigits 10 n)).1 = n := by
  rw [spanDigits_of_digits (isDigit_toDigits n), valueOf_eq_ofDigitChars,
    Nat.ofDigitChars_ten_toDigits]

end Formwork.Decimal
