import HostWatch.Unicode.Normal
import HostWatch.Unicode.Mapping
import HostWatch.Unicode.BidiClass

/-!
# Looking characters up

A table whose rows stand in rising order is looked up right: halving finds the row of a character
wherever there is one (`Table.find?_of_mem`), and never a row that does not cover it
(`Table.mem_of_find?`).

What holds of all rows of a table is checked over the rows that its lines spell (`Table.check`),
once for each table.
-/

namespace HostWatch.Unicode

/-! ### Halving -/

/-- Every range is one, and ends before the next one begins. -/
def rising : List Row → Bool
  | [] => true
  | [r] => r.low ≤ r.high
  | r :: s :: rows => r.low ≤ r.high && r.high < s.low && rising (s :: rows)

theorem low_le_high {r : Row} {rows : List Row} (h : rising rows) (hr : r ∈ rows) :
    r.low ≤ r.high := by
  fun_induction rising rows with
  | case1 => exact absurd hr List.not_mem_nil
  | case2 s =>
    obtain rfl := List.mem_singleton.mp hr
    exact of_decide_eq_true h
  | case3 s s' rows ih =>
    simp only [Bool.and_eq_true, decide_eq_true_eq] at h
    obtain rfl | hr := List.mem_cons.mp hr
    · exact h.1.1
    · exact ih h.2 hr

/-- A row ends before every later one begins. -/
theorem pairwise_of_rising {rows : List Row} (h : rising rows) :
    rows.Pairwise fun r s => r.high < s.low := by
  fun_induction rising rows with
  | case1 => exact List.Pairwise.nil
  | case2 s => exact List.pairwise_singleton _ s
  | case3 r s rows ih =>
    simp only [Bool.and_eq_true, decide_eq_true_eq] at h
    obtain ⟨⟨_, hrs⟩, h⟩ := h
    refine List.pairwise_cons.mpr ⟨fun t ht => ?_, ih h⟩
    have hs := low_le_high h List.mem_cons_self
    obtain rfl | ht := List.mem_cons.mp ht
    · exact hrs
    · exact Nat.lt_trans hrs (Nat.lt_of_le_of_lt hs (List.rel_of_pairwise_cons (ih h) ht))

namespace Table

variable {t : Table} {row : Row} {n i low high : Nat}

theorem high_lt_low {s : Row} {j : Nat} (ht : rising t.rows.toList) (hij : i < j)
    (hi : t.rows[i]? = some row) (hj : t.rows[j]? = some s) : row.high < s.low := by
  obtain ⟨hi', rfl⟩ := Array.getElem?_eq_some_iff.mp hi
  obtain ⟨hj', rfl⟩ := Array.getElem?_eq_some_iff.mp hj
  simpa using List.pairwise_iff_getElem.mp (pairwise_of_rising ht) i j hi' hj' hij

/-- The place of the row that covers a number stays between the two places. -/
theorem search_eq (ht : rising t.rows.toList) (hi : t.rows[i]? = some row) (hlow : row.low ≤ n)
    (hhigh : n ≤ row.high) (hl : low ≤ i) (hh : i < high) (hsize : high ≤ t.rows.size) :
    t.search n low high = some row := by
  fun_induction Table.search t n low high with
  | case1 low high hlt middle hnone =>
    rw [Array.getElem?_eq_none_iff] at hnone
    omega
  | case2 low high hlt middle mid hmid hle ih =>
    refine ih (Nat.le_of_not_lt fun him => ?_) hh hsize
    have := high_lt_low ht him hi hmid
    omega
  | case3 low high hlt middle mid hmid hle ih =>
    refine ih hl (Nat.lt_of_not_le fun him => ?_) (by omega)
    obtain him | rfl := Nat.lt_or_eq_of_le him
    · have := high_lt_low ht him hmid hi
      have := low_le_high ht (Array.mem_toList_iff.mpr (Array.mem_of_getElem? hmid))
      omega
    · rw [hmid, Option.some.injEq] at hi
      exact hle (hi ▸ hlow)
  | case4 low high hlt =>
    obtain rfl : low = i := by omega
    exact hi

theorem mem_of_search (h : t.search n low high = some row) : row ∈ t.rows.toList := by
  fun_induction Table.search t n low high with
  | case1 => nomatch h
  | case2 _ _ _ _ _ _ _ ih => exact ih h
  | case3 _ _ _ _ _ _ _ ih => exact ih h
  | case4 => exact Array.mem_toList_iff.mpr (Array.mem_of_getElem? h)

/-- What is found is a row of the table, and covers the number. -/
theorem mem_of_find? (h : t.find? n = some row) :
    row ∈ t.rows.toList ∧ row.low ≤ n ∧ n ≤ row.high := by
  rw [find?, Option.filter_eq_some_iff] at h
  simp only [Bool.and_eq_true, decide_eq_true_eq] at h
  exact ⟨mem_of_search h.1, h.2⟩

/-- The row that covers a number is found. -/
theorem find?_of_mem (ht : rising t.rows.toList) (hrow : row ∈ t.rows.toList) (hlow : row.low ≤ n)
    (hhigh : n ≤ row.high) : t.find? n = some row := by
  obtain ⟨i, hi, rfl⟩ := Array.getElem_of_mem (Array.mem_toList_iff.mp hrow)
  rw [find?, search_eq ht (Array.getElem?_eq_getElem hi) hlow hhigh (Nat.zero_le i) hi (Nat.le_refl _)]
  simpa using ⟨hlow, hhigh⟩

/-- Before the first row, no row is found. -/
theorem find?_of_lt (h : ∀ row ∈ t.rows.toList, n < row.low) : t.find? n = none :=
  Option.eq_none_iff_forall_not_mem.mpr fun row hrow =>
    absurd (mem_of_find? hrow).2.1 (Nat.not_le.mpr (h row (mem_of_find? hrow).1))

end Table

/-! ### Lines spelt out -/

/-- Lines of text and their characters. -/
inductive Spelt : List String → List (List Char) → Prop where
  /-- No line. -/
  | nil : Spelt [] []
  /-- One line more. -/
  | cons (cs : List Char) {lines : List String} {css : List (List Char)} :
    Spelt lines css → Spelt (String.ofList cs :: lines) (cs :: css)

theorem Spelt.rows_read {lines : List String} {css : List (List Char)} (h : Spelt lines css) :
    (Table.read lines).rows.toList = css.flatMap Table.readLine := by
  induction h with
  | nil => rfl
  | cons cs h ih =>
    rw [Table.read, List.flatMap_cons, String.toList_ofList, List.flatMap_cons, ← ih, Table.read]

/-- What holds of the rows that the lines of a table spell holds of the rows of the table. -/
theorem Table.check {t : Table} {lines : List String} {css : List (List Char)}
    (p : List Row → Bool) (ht : t = Table.read lines) (h : Spelt lines css)
    (hp : p (css.flatMap Table.readLine)) : p t.rows.toList := by
  rwa [ht, h.rows_read]

end HostWatch.Unicode
