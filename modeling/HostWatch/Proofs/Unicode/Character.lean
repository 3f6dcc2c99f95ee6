import Mathlib.Tactic.SplitIfs
import HostWatch.Proofs.Text.Ascii
import HostWatch.Proofs.Unicode.Rows

/-!
# Single characters

What the tables say of capital letters and of ASCII. No character that the mapping leaves in a
name is a capital letter or has one in its decomposition (`not_isUpper_of_mem_decompose`), and
no two characters compose to one. A character of ASCII other than a capital letter is left as it
is: it is mapped to itself, has no decomposition, no combining class and no direction from right
to left, and does not compose with what stands in front of it.
-/

namespace HostWatch.Unicode

variable {a b c d : Char}

/-! ### Numbers and characters -/

theorem isUpper_eq (c : Char) : c.isUpper = isCapital c.toNat := by
  rw [Bool.eq_iff_iff, Ascii.isUpper_iff, isCapital, Bool.and_eq_true, decide_eq_true_eq,
    decide_eq_true_eq]

theorem toNat_ofNat (n : Nat) : (Char.ofNat n).toNat = n ∨ (Char.ofNat n).toNat = 0 := by
  by_cases h : n.isValidChar
  · exact .inl (congrArg Char.toNat (dif_pos h))
  · exact .inr (congrArg Char.toNat (dif_neg h))

theorem not_isUpper_ofNat {n : Nat} (h : isCapital n = false) : (Char.ofNat n).isUpper = false := by
  rw [isUpper_eq]
  obtain hn | hn := toNat_ofNat n
  · rw [hn, h]
  · rw [hn]
    rfl

theorem not_isUpper_ofNat_of_le {n : Nat} (h : 0x80 ≤ n) : (Char.ofNat n).isUpper = false :=
  not_isUpper_ofNat (by rw [isCapital, Bool.and_eq_false_iff]; right; exact decide_eq_false (by omega))

/-! ### Mapping -/

/-- A row that avoids a set puts none of its characters into a name. -/
theorem Row.testBit_standIns {m : Nat} {r : Row} {out : List Char} (hr : avoids m r)
    (hzero : m.testBit 0 = false) (hlow : r.low ≤ c.toNat) (hhigh : c.toNat ≤ r.high)
    (hout : (r.mapped c).standIns? c = some out) (hd : d ∈ out) : m.testBit d.toNat = false := by
  have number {n : Nat} (hn : m.testBit n = false) : m.testBit (Char.ofNat n).toNat = false := by
    obtain h | h := toNat_ofNat n <;> rw [h] <;> assumption
  have odd {n : Nat} (hr : (List.range ((r.high - r.low) / 2 + 1)).all fun i =>
      !m.testBit (r.low + 2 * i + 1)) (hn : (n - r.low) % 2 = 0) (hlow : r.low ≤ n)
      (hhigh : n ≤ r.high) : m.testBit (n + 1) = false := by
    have := List.all_eq_true.mp hr ((n - r.low) / 2) (List.mem_range.mpr (by omega))
    rw [show r.low + 2 * ((n - r.low) / 2) + 1 = n + 1 by omega] at this
    simpa using this
  rw [avoids] at hr
  rw [Row.mapped] at hout
  split_ifs at hout hr <;> obtain rfl := Option.some.inj hout
  · exact absurd hd List.not_mem_nil
  · obtain rfl := List.mem_singleton.mp hd
    exact number (testBit_of_clear hr (by omega) (by omega))
  · obtain rfl := List.mem_singleton.mp hd
    exact number (testBit_of_clear hr (by omega) (by omega))
  · next heven =>
    obtain rfl := List.mem_singleton.mp hd
    exact number (odd hr heven hlow hhigh)
  · next hodd =>
    obtain rfl := List.mem_singleton.mp hd
    have := odd (n := d.toNat - 1) hr (by omega) (by omega) (by omega)
    rwa [Nat.sub_add_cancel (by omega)] at this
  · obtain ⟨n, hn, rfl⟩ := List.mem_map.mp hd
    exact number (by simpa using List.all_eq_true.mp hr n hn)
  · obtain rfl := List.mem_singleton.mp hd
    exact testBit_of_clear hr hlow hhigh

/-- A set that the mapping avoids has none of the characters that come to stand in a name. -/
theorem testBit_standIns {m : Nat} {out : List Char} (hm : mappingTable.rows.toList.all (avoids m))
    (hzero : m.testBit 0 = false) (hout : (mapped c).standIns? c = some out) (hd : d ∈ out) :
    m.testBit d.toNat = false := by
  rw [mapped] at hout
  cases hrow : mappingTable.find? c.toNat with
  | none =>
    rw [hrow] at hout
    nomatch hout
  | some row =>
    rw [hrow] at hout
    obtain ⟨hmem, hlow, hhigh⟩ := Table.mem_of_find? hrow
    exact Row.testBit_standIns (List.all_eq_true.mp hm row hmem) hzero hlow hhigh hout hd

theorem fits_cases {rows decompositions : List Row} (h : mappingFits rows decompositions) :
    rising rows ∧ rows.take 3 = asciiRows ∧ rows.all (avoids (bits (capitals decompositions))) ∧
      ∀ r ∈ decompositions, 0x80 ≤ r.low ∧ (r.data.any isCapital → r.low = r.high) := by
  simpa only [mappingFits, Bool.and_eq_true, decide_eq_true_eq, List.all_eq_true (p := fun r : Row =>
    decide (0x80 ≤ r.low) && decide (r.data.any isCapital → r.low = r.high)), and_assoc] using h

theorem find?_of_mem_asciiRows {r : Row} {n : Nat} (hr : r ∈ asciiRows) (hlow : r.low ≤ n)
    (hhigh : n ≤ r.high) : mappingTable.find? n = some r := by
  obtain ⟨hrising, htake, -⟩ := fits_cases mappingTable_fits
  exact Table.find?_of_mem hrising (List.mem_of_mem_take (htake ▸ hr)) hlow hhigh

/-- A character of ASCII is kept, unless it is a capital letter. -/
theorem mapped_of_ascii (hc : c.toNat < 0x80) (hu : c.isUpper = false) : mapped c = .kept := by
  rw [Ascii.isUpper_eq_false] at hu
  obtain h | h := hu
  · rw [mapped, find?_of_mem_asciiRows (r := ⟨0, 0x40, ' ', []⟩) (by decide) (Nat.zero_le _)
      (Nat.le_of_lt_succ h)]
    rfl
  · rw [mapped, find?_of_mem_asciiRows (r := ⟨0x5B, 0x7F, ' ', []⟩) (by decide) h
      (Nat.le_of_lt_succ hc)]
    rfl

/-- A capital letter is replaced by the small one. -/
theorem mapped_of_isUpper (h : c.isUpper) : mapped c = .replaced [c.toLower] := by
  have hrange := Ascii.isUpper_iff.mp h
  rw [mapped, find?_of_mem_asciiRows (r := ⟨0x41, 0x5A, '+', [0x20]⟩) (by decide) hrange.1 hrange.2,
    ← Char.ofNat_toNat c.toLower, Ascii.toNat_toLower_of_isUpper h]
  rfl

/-! ### Decomposition -/

theorem decompositionTable_low {r : Row} (hr : r ∈ decompositionTable.rows.toList) : 0x80 ≤ r.low :=
  ((fits_cases mappingTable_fits).2.2.2 r hr).1

theorem decompose_of_ascii (h : c.toNat < 0x80) : decompose c = [c] := by
  rw [decompose, if_neg (by omega), Table.find?_of_lt fun r hr =>
    Nat.lt_of_lt_of_le h (decompositionTable_low hr), Option.elim_none]

/-- The characters that are capital letters or are taken apart into one, by their numbers. -/
def capitalNumbers : Nat :=
  bits (capitals decompositionTable.rows.toList)

theorem capitalNumbers_zero : capitalNumbers.testBit 0 = false := by
  rw [capitalNumbers, testBit_bits, decide_eq_false_iff_not, capitals, List.mem_append, not_or]
  refine ⟨by decide, fun h => ?_⟩
  obtain ⟨r, hr, hzero⟩ := List.mem_map.mp h
  have := decompositionTable_low (List.mem_filter.mp hr).1
  omega

theorem not_isUpper_of_mem_hangul {n lead vowel tail : Nat}
    (hd : d ∈ if n = 0 then [Char.ofNat (0x1100 + lead), Char.ofNat (0x1161 + vowel)]
      else [Char.ofNat (0x1100 + lead), Char.ofNat (0x1161 + vowel), Char.ofNat (0x11A7 + tail)]) :
    d.isUpper = false := by
  split at hd <;> simp only [List.mem_cons, List.not_mem_nil, or_false] at hd
  · obtain rfl | rfl := hd <;> exact not_isUpper_ofNat_of_le (by omega)
  · obtain rfl | rfl | rfl := hd <;> exact not_isUpper_ofNat_of_le (by omega)

theorem not_isUpper_of_mem_decompose (hc : capitalNumbers.testBit c.toNat = false)
    (hd : d ∈ decompose c) : d.isUpper = false := by
  rw [capitalNumbers, testBit_bits, decide_eq_false_iff_not, capitals, List.mem_append, not_or,
    List.mem_range'_1] at hc
  rw [decompose] at hd
  split at hd
  · exact not_isUpper_of_mem_hangul hd
  · cases hrow : decompositionTable.find? c.toNat with
    | none =>
      rw [hrow] at hd
      obtain rfl := List.mem_singleton.mp hd
      exact Ascii.isUpper_eq_false.mpr (by omega)
    | some row =>
      rw [hrow] at hd
      obtain ⟨hmem, hlow, hhigh⟩ := Table.mem_of_find? hrow
      obtain ⟨n, hn, rfl⟩ := List.mem_map.mp hd
      refine not_isUpper_ofNat (Bool.eq_false_iff.mpr fun hcap => hc.2 ?_)
      have hany := List.any_eq_true.mpr ⟨n, hn, hcap⟩
      have hsingle := ((fits_cases mappingTable_fits).2.2.2 row hmem).2 hany
      exact List.mem_map.mpr ⟨row, List.mem_filter.mpr ⟨hmem, hany⟩, by omega⟩

/-- What comes to stand in a name is no capital letter, and is not taken apart into one. -/
theorem not_isUpper_of_standIn {out : List Char} (hout : (mapped a).standIns? a = some out)
    (hb : b ∈ out) (hd : d ∈ decompose b) : d.isUpper = false :=
  not_isUpper_of_mem_decompose
    (testBit_standIns (fits_cases mappingTable_fits).2.2.1 capitalNumbers_zero hout hb) hd

/-! ### Composition -/

theorem mem_of_pairIn {n k : Nat} {data : List Nat} (h : pairIn n data = some k) :
    n ∈ data ∧ k ∈ data := by
  fun_induction pairIn n data with
  | case1 k' rest =>
    cases h
    exact ⟨List.mem_cons_self, List.mem_cons_of_mem _ List.mem_cons_self⟩
  | case2 m k' rest hne ih =>
    obtain ⟨hn, hk⟩ := ih h
    exact ⟨List.mem_cons_of_mem _ (List.mem_cons_of_mem _ hn),
      List.mem_cons_of_mem _ (List.mem_cons_of_mem _ hk)⟩
  | case3 => nomatch h

/-- What composes stands beyond ASCII in second place, and gives no capital letter. -/
theorem of_compose? (h : compose? a b = some c) : 0x80 ≤ b.toNat ∧ c.isUpper = false := by
  simp only [compose?] at h
  split at h
  · obtain rfl := Option.some.inj h
    exact ⟨by omega, not_isUpper_ofNat_of_le (by omega)⟩
  split at h
  · obtain rfl := Option.some.inj h
    exact ⟨by omega, not_isUpper_ofNat_of_le (by omega)⟩
  · simp only [Option.bind_eq_bind, Option.bind_eq_some_iff] at h
    obtain ⟨row, hrow, k, hk, h⟩ := h
    obtain rfl := Option.some.inj h
    have hall := List.all_eq_true.mp compositionTable_beyond row (Table.mem_of_find? hrow).1
    simp only [List.all_eq_true, decide_eq_true_eq] at hall
    obtain ⟨hb, hc⟩ := mem_of_pairIn hk
    exact ⟨hall _ hb, not_isUpper_ofNat_of_le (hall _ hc)⟩

theorem compose?_of_ascii (h : b.toNat < 0x80) : compose? a b = none :=
  Option.eq_none_iff_forall_not_mem.mpr fun _ hc => absurd (of_compose? hc).1 (Nat.not_le.mpr h)

theorem combiningClass_of_ascii (h : c.toNat < 0x80) : combiningClass c = 0 := by
  rw [combiningClass, Table.find?_of_lt, Option.elim_none]
  intro row hrow
  have := List.all_eq_true.mp combiningClassTable_beyond row hrow
  exact Nat.lt_of_lt_of_le h (of_decide_eq_true this)

/-! ### Direction -/

theorem ofKind_cases {kind : Char} (h : BidiClass.ofKind kind = .rightToLeft ∨
    BidiClass.ofKind kind = .arabicLetter ∨ BidiClass.ofKind kind = .arabicNumber) :
    kind ∈ ['r', 'k', 'n'] := by
  unfold BidiClass.ofKind at h
  split at h <;> simp_all

/-- A character that is read from right to left stands beyond ASCII. -/
theorem le_of_bidiClass (h : bidiClass c = .rightToLeft ∨ bidiClass c = .arabicLetter ∨
    bidiClass c = .arabicNumber) : 0x80 ≤ c.toNat := by
  rw [bidiClass] at h
  cases hrow : bidiClassTable.find? c.toNat with
  | none =>
    rw [hrow] at h
    simp at h
  | some row =>
    rw [hrow] at h
    obtain ⟨hmem, hlow, -⟩ := Table.mem_of_find? hrow
    have := List.all_eq_true.mp bidiClassTable_beyond row hmem
    exact Nat.le_trans (of_decide_eq_true this (ofKind_cases h)) hlow

end HostWatch.Unicode
