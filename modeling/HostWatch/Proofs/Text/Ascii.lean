import HostWatch.Text.Decimal
import HostWatch.Text.Ascii

/-!
# ASCII case

Folding case changes the twenty-six letters `A` to `Z` and nothing else, so whatever does not tell
those letters from `a` to `z` does not see it (`apply_toLower`).
-/

namespace HostWatch.Ascii

variable {c : Char} {cs : List Char}

/-- What holds of the first 128 characters holds of all of ASCII. -/
theorem forall_ascii {p : Char → Prop} (h : ∀ i : Fin 128, p (Char.ofNat i)) (hc : c.toNat < 0x80) :
    p c := by
  have := h ⟨c.toNat, hc⟩
  rwa [Char.ofNat_toNat] at this

theorem isUpper_iff : c.isUpper = true ↔ 0x41 ≤ c.toNat ∧ c.toNat ≤ 0x5A := by
  have hval : c.isUpper = true ↔ 'A'.val ≤ c.val ∧ c.val ≤ 'Z'.val := decide_eq_true_iff
  rw [hval, UInt32.le_iff_toNat_le, UInt32.le_iff_toNat_le]
  rfl

theorem isUpper_eq_false : c.isUpper = false ↔ c.toNat < 0x41 ∨ 0x5A < c.toNat := by
  rw [← Bool.not_eq_true, isUpper_iff]
  omega

theorem toLower_of_not_isUpper (h : c.isUpper = false) : c.toLower = c :=
  dif_neg (of_decide_eq_false h)

/-- The letter from `A` to `Z` that a capital letter is. -/
theorem exists_of_isUpper (h : c.isUpper) : ∃ i : Fin 26, c = Char.ofNat (0x41 + i) := by
  rw [isUpper_iff] at h
  refine ⟨⟨c.toNat - 0x41, by omega⟩, ?_⟩
  rw [Nat.add_sub_cancel' h.1, Char.ofNat_toNat]

/-- What takes each letter from `A` to `Z` as it takes the small one does not see case. -/
theorem apply_toLower {α : Type} (f : Char → α)
    (h : ∀ i : Fin 26, f (Char.ofNat (0x41 + i)).toLower = f (Char.ofNat (0x41 + i))) (c : Char) :
    f c.toLower = f c := by
  cases hc : c.isUpper with
  | false => rw [toLower_of_not_isUpper hc]
  | true =>
    obtain ⟨i, rfl⟩ := exists_of_isUpper hc
    exact h i

/-- A character that is no letter is told from all others by what is folded, too. -/
theorem toLower_eq_iff {d : Char}
    (h : ∀ i : Fin 26, (Char.ofNat (0x41 + i)).toLower ≠ d ∧ Char.ofNat (0x41 + i) ≠ d) :
    c.toLower = d ↔ c = d := by
  have hfold := apply_toLower (fun c => decide (c = d))
    (fun i => (decide_eq_false (h i).1).trans (decide_eq_false (h i).2).symm) c
  exact decide_eq_decide.mp hfold

theorem toNat_toLower_of_isUpper (h : c.isUpper) : c.toLower.toNat = c.toNat + 0x20 := by
  obtain ⟨i, rfl⟩ := exists_of_isUpper h
  exact (by decide : ∀ i : Fin 26,
    (Char.ofNat (0x41 + i)).toLower.toNat = (Char.ofNat (0x41 + i)).toNat + 0x20) i

theorem not_isUpper_toLower (c : Char) : c.toLower.isUpper = false := by
  cases hc : c.isUpper with
  | false => rw [toLower_of_not_isUpper hc, hc]
  | true =>
    have := toNat_toLower_of_isUpper hc
    rw [isUpper_iff] at hc
    rw [isUpper_eq_false]
    omega

theorem toLower_toLower (c : Char) : c.toLower.toLower = c.toLower :=
  toLower_of_not_isUpper (not_isUpper_toLower c)

@[simp]
theorem lower_nil : lower [] = [] := rfl

@[simp]
theorem lower_cons (c : Char) (cs : List Char) : lower (c :: cs) = c.toLower :: lower cs := rfl

theorem lower_append (s t : List Char) : lower (s ++ t) = lower s ++ lower t := List.map_append

@[simp]
theorem length_lower (cs : List Char) : (lower cs).length = cs.length := List.length_map _

@[simp]
theorem lower_eq_nil : lower cs = [] ↔ cs = [] := List.map_eq_nil_iff

/-- A text without capital letters is folded already. -/
theorem lower_eq_self (h : ∀ c ∈ cs, c.isUpper = false) : lower cs = cs :=
  (List.map_congr_left fun c hc => toLower_of_not_isUpper (h c hc)).trans (List.map_id cs)

theorem lower_lower (cs : List Char) : lower (lower cs) = lower cs :=
  lower_eq_self fun c hc => by
    obtain ⟨c, -, rfl⟩ := List.mem_map.mp hc
    exact not_isUpper_toLower c

theorem hexValue?_toLower (c : Char) : hexValue? c.toLower = hexValue? c :=
  apply_toLower hexValue? (by decide) c

theorem isHexDigit_toLower (c : Char) : isHexDigit c.toLower = isHexDigit c :=
  apply_toLower isHexDigit (by decide) c

theorem isDigit_toLower (c : Char) : Decimal.isDigit c.toLower = Decimal.isDigit c :=
  apply_toLower Decimal.isDigit (by decide) c

end HostWatch.Ascii
