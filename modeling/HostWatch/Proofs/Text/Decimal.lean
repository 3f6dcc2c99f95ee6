import HostWatch.Text.Ascii
import HostWatch.Text.Decimal

/-!
# Digits of numerals

A decimal digit is a hexadecimal one of the same value, and only the numeral of zero begins with a
zero.
-/

namespace HostWatch.Decimal

/-- Only the numeral of zero begins with the digit zero. -/
theorem head?_digits {n : Nat} (h : 0 < n) : (digits n).head? ≠ some '0' := by
  fun_induction digits n with
  | case1 n hn =>
    exact (by decide : ∀ n : Fin 10, 0 < n.val → [digit n.val].head? ≠ some '0') ⟨n, hn⟩ h
  | case2 n hn ih =>
    obtain ⟨c, cs, hcs, -⟩ := digits_head (n / 10)
    rw [hcs] at ih ⊢
    exact ih (by omega)

theorem digits_zero : digits 0 = ['0'] := by
  rw [digits]
  rfl

theorem toNat_of_isDigit {c : Char} (h : isDigit c) : 0x30 ≤ c.toNat ∧ c.toNat ≤ 0x39 := by
  rw [isDigit, Bool.and_eq_true, decide_eq_true_eq, decide_eq_true_eq, Char.le_def, Char.le_def,
    UInt32.le_iff_toNat_le, UInt32.le_iff_toNat_le] at h
  exact h

theorem digitValue_lt {c : Char} (h : isDigit c) : digitValue c < 10 := by
  have hc := toNat_of_isDigit h
  unfold digitValue
  omega

theorem hexValue?_of_isDigit {c : Char} (h : isDigit c) :
    Ascii.hexValue? c = some (digitValue c) := by
  rw [isDigit, Bool.and_eq_true, decide_eq_true_eq, decide_eq_true_eq] at h
  rw [Ascii.hexValue?, if_pos h]
  rfl

end HostWatch.Decimal
