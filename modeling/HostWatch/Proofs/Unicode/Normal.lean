import HostWatch.Proofs.Unicode.Character

/-!
# Texts in composed form

Putting marks in order moves characters and composing replaces pairs of them, so the composed form
of a text holds no capital letter unless the decomposition of the text does
(`not_isUpper_of_mem_toNFC`). A text of ASCII is its own composed form (`toNFC_of_ascii`).
-/

namespace HostWatch.Unicode

variable {c d : Char} {cs acc : List Char}

/-! ### Marks in order -/

theorem mem_insertMark (h : d ∈ insertMark c cs) : d = c ∨ d ∈ cs := by
  fun_induction insertMark c cs with
  | case1 => exact .inl (List.mem_singleton.mp h)
  | case2 e ds hlt ih =>
    obtain rfl | h := List.mem_cons.mp h
    · exact .inr List.mem_cons_self
    · exact (ih h).imp_right (List.mem_cons_of_mem _)
  | case3 e ds hle => exact List.mem_cons.mp h

theorem mem_orderMarks (h : d ∈ orderMarks cs) : d ∈ cs := by
  refine List.foldlRecOn (motive := fun acc => d ∈ acc → d ∈ cs) cs _
    (fun h => absurd h List.not_mem_nil) (fun acc ih c hc h => ?_) (List.mem_reverse.mp h)
  have hd : d = c ∨ d ∈ acc := by
    split at h
    · exact List.mem_cons.mp h
    · exact mem_insertMark h
  exact hd.elim (fun hd => hd ▸ hc) ih

theorem orderMarks_of_ascii (h : ∀ c ∈ cs, c.toNat < 0x80) : orderMarks cs = cs := by
  have step : ∀ (cs acc : List Char), (∀ c ∈ cs, c.toNat < 0x80) → cs.foldl (fun acc c =>
      if combiningClass c = 0 then c :: acc else insertMark c acc) acc = cs.reverse ++ acc := by
    intro cs
    induction cs with
    | nil => exact fun acc h => rfl
    | cons c cs ih =>
      intro acc h
      have ⟨hc, hcs⟩ := List.forall_mem_cons.mp h
      rw [List.foldl_cons, if_pos (combiningClass_of_ascii hc), ih _ hcs, List.reverse_cons,
        List.append_assoc, List.singleton_append]
  rw [orderMarks, step cs [] h, List.append_nil, List.reverse_reverse]

/-! ### Composing -/

/-- No capital letter is put together out of characters that are none. -/
theorem not_isUpper_of_mem_composeFrom {starter : Option Char} {skipped : List Char}
    (hstarter : ∀ c ∈ starter, c.isUpper = false) (hskipped : ∀ c ∈ skipped, c.isUpper = false)
    (hcs : ∀ c ∈ cs, c.isUpper = false) (h : d ∈ composeFrom starter skipped cs) :
    d.isUpper = false := by
  have written {starter : Option Char} {skipped : List Char}
      (hstarter : ∀ c ∈ starter, c.isUpper = false) (hskipped : ∀ c ∈ skipped, c.isUpper = false)
      (h : d ∈ starter.toList ++ skipped) : d.isUpper = false :=
    (List.mem_append.mp h).elim (fun h => hstarter d (Option.mem_toList.mp h)) (hskipped d)
  fun_induction composeFrom starter skipped cs with
  | case1 starter skipped => exact written hstarter hskipped h
  | case2 starter skipped c cs k blocked composite hcomposite ih =>
    have ⟨hc, hcs⟩ := List.forall_mem_cons.mp hcs
    refine ih (fun e he => ?_) hskipped hcs h
    obtain rfl := Option.some.inj he
    split at hcomposite
    · nomatch hcomposite
    · obtain ⟨s, -, hs⟩ := Option.bind_eq_some_iff.mp hcomposite
      exact (of_compose? hs).2
  | case3 starter skipped c cs k blocked hnone hzero ih =>
    have ⟨hc, hcs⟩ := List.forall_mem_cons.mp hcs
    obtain h | h := List.mem_append.mp h
    · exact written hstarter hskipped h
    · exact ih (fun e he => Option.some.inj he ▸ hc) (fun e he => nomatch he) hcs h
  | case4 starter skipped c cs k blocked hnone hne ih =>
    have ⟨hc, hcs⟩ := List.forall_mem_cons.mp hcs
    exact ih hstarter (List.forall_mem_append.mpr ⟨hskipped, by simpa using hc⟩) hcs h

theorem composeFrom_of_ascii {starter : Option Char} (h : ∀ c ∈ cs, c.toNat < 0x80) :
    composeFrom starter [] cs = starter.toList ++ cs := by
  induction cs generalizing starter with
  | nil => rw [composeFrom]
  | cons c cs ih =>
    have ⟨hc, hcs⟩ := List.forall_mem_cons.mp h
    have hnone : starter.bind (compose? · c) = none := by
      cases starter with
      | none => rfl
      | some s => exact compose?_of_ascii hc
    rw [composeFrom]
    simp only [List.getLast?_nil, Bool.false_eq_true, if_false, hnone, combiningClass_of_ascii hc,
      if_true, ih hcs]
    simp

/-! ### Both -/

theorem not_isUpper_of_mem_toNFC (h : ∀ c ∈ cs, ∀ d ∈ decompose c, d.isUpper = false)
    (hd : d ∈ toNFC cs) : d.isUpper = false := by
  have noStarter : ∀ c ∈ (none : Option Char), c.isUpper = false := fun _ h => nomatch h
  refine not_isUpper_of_mem_composeFrom noStarter (fun _ h => absurd h List.not_mem_nil)
    (fun e he => ?_) hd
  obtain ⟨c, hc, he⟩ := List.mem_flatMap.mp (mem_orderMarks he)
  exact h c hc e he

theorem toNFC_of_ascii (h : ∀ c ∈ cs, c.toNat < 0x80) : toNFC cs = cs := by
  have hcs : cs.flatMap decompose = cs := by
    rw [List.flatMap_def, List.map_congr_left fun c hc => decompose_of_ascii (h c hc),
      ← List.flatMap_def, List.flatMap_singleton']
  rw [toNFC, hcs, orderMarks_of_ascii h, composeFrom_of_ascii h]
  rfl

end HostWatch.Unicode
