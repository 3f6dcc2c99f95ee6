import HostWatch.Proofs.Unicode.Normal
import HostWatch.Text.Blank

/-!
# Blanks

Of the blank characters beyond ASCII some are not allowed in a domain name, and the mapping replaces
the others by the blank of ASCII (`mapped_of_isBlank`). At the end of a text that one stays there in
the composed form (`toNFC_concat_space`).
-/

namespace HostWatch.Unicode

variable {c : Char} {cs : List Char}

theorem mem_blankNumbers (hblank : Text.isBlank c) (hc : 0x80 ≤ c.toNat) : c.toNat ∈ blankNumbers := by
  simp only [Text.isBlank, Bool.or_eq_true, Bool.and_eq_true, decide_eq_true_eq, beq_iff_eq] at hblank
  simp only [blankNumbers, List.mem_append, List.mem_cons, List.not_mem_nil, List.mem_range'_1]
  omega

theorem mapped_of_isBlank (hblank : Text.isBlank c) (hc : 0x80 ≤ c.toNat) :
    mapped c = .refused ∨ mapped c = .replaced [' '] := by
  rw [mapped]
  cases hrow : mappingTable.find? c.toNat with
  | none => exact .inl rfl
  | some row =>
    obtain ⟨hmem, hlow, hhigh⟩ := Table.mem_of_find? hrow
    have hnumber := mem_blankNumbers hblank hc
    have hnarrows := List.all_eq_true.mp mappingTable_narrows row hmem
    simp only [narrows, Bool.or_eq_true, decide_eq_true_eq, List.all_eq_true] at hnarrows
    obtain hclear | hall := hnarrows
    · have hbit := testBit_of_clear hclear hlow hhigh
      rw [testBit_bits, decide_eq_false_iff_not] at hbit
      exact absurd hnumber hbit
    obtain (hbefore | hbehind) | hreplaced := hall c.toNat hnumber
    · omega
    · omega
    · rw [Char.ofNat_toNat] at hreplaced
      exact .inr hreplaced

/-! ### The composed form of a text with a blank at its end -/

theorem orderMarks_concat (h : combiningClass c = 0) (cs : List Char) :
    orderMarks (cs ++ [c]) = orderMarks cs ++ [c] := by
  rw [orderMarks, List.foldl_append, List.foldl_cons, List.foldl_nil, if_pos h, List.reverse_cons]
  rfl

/-- A character that starts anew and does not compose with what stands before it stays at the end. -/
theorem composeFrom_concat (hclass : combiningClass c = 0) (halone : ∀ a, compose? a c = none)
    (starter : Option Char) (skipped cs : List Char) :
    ∃ front, composeFrom starter skipped (cs ++ [c]) = front ++ [c] := by
  fun_induction composeFrom starter skipped cs with
  | case1 starter skipped =>
    refine ⟨starter.toList ++ skipped, ?_⟩
    have hnone : starter.bind (compose? · c) = none := by
      cases starter with
      | none => rfl
      | some s => exact halone s
    rw [List.nil_append, composeFrom, hnone, ite_self]
    simp [hclass, composeFrom]
  | case2 starter skipped d cs k blocked composite hcomposite ih =>
    obtain ⟨front, hfront⟩ := ih
    refine ⟨front, ?_⟩
    rw [List.cons_append, composeFrom]
    simp only [k, blocked] at hcomposite
    simp only [hcomposite, hfront]
  | case3 starter skipped d cs k blocked hnone hzero ih =>
    obtain ⟨front, hfront⟩ := ih
    refine ⟨starter.toList ++ skipped ++ front, ?_⟩
    rw [List.cons_append, composeFrom]
    simp only [k, blocked] at hnone hzero
    simp only [hnone]
    rw [if_pos hzero, hfront, List.append_assoc _ front]
  | case4 starter skipped d cs k blocked hnone hne ih =>
    obtain ⟨front, hfront⟩ := ih
    refine ⟨front, ?_⟩
    rw [List.cons_append, composeFrom]
    simp only [k, blocked] at hnone hne
    simp only [hnone, if_neg hne, hfront]

theorem toNFC_concat_space (cs : List Char) : ∃ front, toNFC (cs ++ [' ']) = front ++ [' '] := by
  have hdecompose : decompose ' ' = [' '] := decompose_of_ascii (by decide)
  have hclass : combiningClass ' ' = 0 := combiningClass_of_ascii (by decide)
  rw [toNFC, List.flatMap_append, List.flatMap_singleton, hdecompose, orderMarks_concat hclass]
  exact composeFrom_concat hclass (fun _ => compose?_of_ascii (by decide)) none [] _

end HostWatch.Unicode
