import HostWatch.Metrics
import Mathlib

/-!
# What metrics hold

A series is read after a recording as it was before, but for the series that was recorded
(`Metrics.lookup_update`). Counters that tell some things apart by their kind add up to the
number of those things that have a kind (`sum_countP`).
-/

namespace HostWatch

namespace Metrics

theorem lookup_cons (s t : Series) (n : Nat) (m : Metrics) :
    List.lookup t ((s, n) :: m) = if t = s then some n else m.lookup t := by
  by_cases hts : t = s
  · simp [hts]
  · simp [List.lookup_cons, beq_eq_false_iff_ne.mpr hts, hts]

/-- A recording changes the series that is recorded and no other. -/
theorem lookup_update (s t : Series) (f : Nat → Nat) (m : Metrics) :
    (m.update s f).lookup t = if t = s then some (f (m.value s)) else m.lookup t := by
  induction m with
  | nil => exact lookup_cons s t (f 0) []
  | cons e rest ih =>
    obtain ⟨u, n⟩ := e
    rw [update, value, lookup_cons, lookup_cons]
    by_cases hsu : s = u
    · subst hsu
      rw [if_pos rfl, if_pos rfl, lookup_cons]
      split <;> rfl
    · rw [if_neg hsu, if_neg hsu, lookup_cons, ih, value]
      by_cases htu : t = u
      · rw [if_pos htu, if_pos htu, if_neg fun hts => hsu (hts.symm.trans htu)]
      · rw [if_neg htu, if_neg htu]

theorem value_count (m : Metrics) (s t : Series) :
    (m.count s).value t = m.value t + if t = s then 1 else 0 := by
  rw [value, count, lookup_update]
  split
  · next hts => rw [hts, Option.getD_some]
  · rfl

/-- A series is as often counted as it occurs. -/
theorem value_foldl_count (ss : List Series) (m : Metrics) (t : Series) :
    (ss.foldl count m).value t = m.value t + ss.count t := by
  induction ss generalizing m with
  | nil => rfl
  | cons s ss ih =>
    rw [List.foldl_cons, ih, value_count, List.count_cons]
    by_cases hts : t = s
    · simp [hts]; omega
    · have hst : ¬ s = t := fun h => hts h.symm
      simp [hts, hst]

/-- A promotion is counted, and the length of the list is kept. -/
theorem lookup_promote (m : Metrics) (length : Nat) (t : Series) :
    (m.promote length).lookup t =
      if t = .forbidden then some length
      else if t = .promotions then some (m.value .promotions + 1) else m.lookup t := by
  rw [promote, lookup_update, count, lookup_update]

theorem value_promote (m : Metrics) (length : Nat) {t : Series} (ht : t ≠ .forbidden) :
    (m.promote length).value t = (m.count .promotions).value t := by
  rw [value, promote, lookup_update, if_neg ht, value]

end Metrics

/-! ### Counting by kind -/

/-- Things of which some have a kind are counted kind by kind. -/
theorem sum_countP {α β : Type} [DecidableEq β] {kinds : List β} (hkinds : kinds.Nodup)
    (kind? : α → Option β) {xs : List α} (h : ∀ x ∈ xs, ∀ b, kind? x = some b → b ∈ kinds) :
    (kinds.map fun b => xs.countP fun x => kind? x = some b).sum =
      xs.countP fun x => (kind? x).isSome := by
  induction xs with
  | nil => simp
  | cons x xs ih =>
    have hone : (kinds.map fun b => if kind? x = some b then 1 else 0).sum =
        if (kind? x).isSome then 1 else 0 := by
      cases hx : kind? x with
      | none => simp
      | some b =>
        rw [List.sum_map_eq_nsmul_single b _ fun b' hne _ => by simp [hne.symm]]
        rw [List.count_eq_one_of_mem hkinds (h x List.mem_cons_self b hx)]
        simp
    simp only [List.countP_cons, decide_eq_true_eq, List.sum_map_add, hone,
      ih fun y hy => h y (List.mem_cons_of_mem x hy)]

/-- Where one member has a property or none, some member has it if one has. -/
theorem any_eq_of_countP {α : Type} {p : α → Bool} {xs : List α} {b : Bool}
    (h : xs.countP p = b.toNat) : xs.any p = b := by
  cases b with
  | true =>
    obtain ⟨x, hx, hp⟩ := List.countP_pos_iff.mp (Nat.lt_of_lt_of_eq Nat.one_pos h.symm)
    exact List.any_eq_true.mpr ⟨x, hx, hp⟩
  | false =>
    refine List.any_eq_false.mpr fun x hx => ?_
    exact List.countP_eq_zero.mp h x hx

/-- Members with a property are counted place by place. -/
theorem countP_range {α : Type} (p : α → Bool) (xs : List α) :
    (List.range xs.length).countP (fun k => xs[k]?.any p) = xs.countP p := by
  induction xs with
  | nil => rfl
  | cons x xs ih =>
    rw [List.length_cons, List.range_succ_eq_map, List.countP_cons, List.countP_map,
      List.countP_cons, ← ih]
    rfl

/-- How many members of a list have a property is the sum over them. -/
theorem sum_map_toNat {α : Type} (p : α → Bool) (xs : List α) :
    (xs.map fun x => (p x).toNat).sum = xs.countP p := by
  induction xs with
  | nil => rfl
  | cons x xs ih =>
    rw [List.map_cons, List.sum_cons, ih, List.countP_cons, Nat.add_comm]
    cases p x <;> rfl

end HostWatch
