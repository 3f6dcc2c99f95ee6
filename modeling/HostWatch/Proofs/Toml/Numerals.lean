import HostWatch.Proofs.Text.Decimal
import HostWatch.Toml.Reader

/-!
# Written numbers read back

A whole number that is written in decimal, with a line end behind it, is read neither as a date nor
as a floating-point number, because a digit or the line end stands where the first mark of one of
those would have to (`dateTime_ofInt`, `float_ofInt`). So it is read as the whole number that it is
(`value_ofInt`).
-/

namespace HostWatch.Toml

variable {c : Char} {cs ds left : List Char} {n m : Nat} {z : Int}

/-! ### Digits -/

theorem isDigitIn_ten (h : Decimal.isDigit c) : isDigitIn 10 c = true := by
  rw [isDigitIn, Decimal.hexValue?_of_isDigit h]
  simpa using Decimal.digitValue_lt h

theorem digitsIn_append (hds : ds.all Decimal.isDigit) (hne : ds ≠ []) (rest : List Char) :
    digitsIn 10 (ds ++ '\n' :: rest) = some (ds, '\n' :: rest) := by
  induction ds with
  | nil => exact absurd rfl hne
  | cons c ds ih =>
    rw [List.all_cons, Bool.and_eq_true] at hds
    have hc := isDigitIn_ten hds.1
    cases ds with
    | nil =>
      rw [List.cons_append, List.nil_append, digitsIn, if_pos hc]
      · rfl
      · decide
    | cons d ds =>
      have hd : Decimal.isDigit d := by
        rw [List.all_cons, Bool.and_eq_true] at hds
        exact hds.2.1
      rw [List.cons_append, List.cons_append, digitsIn, if_pos hc]
      · simp only [isDigitIn_ten hd, if_true]
        rw [← List.cons_append, ih hds.2 (by simp)]
        rfl
      · rintro rfl
        exact absurd hd (by decide)

theorem valueIn_ten (hds : ds.all Decimal.isDigit) : valueIn 10 ds = Decimal.valueFrom 0 ds := by
  have hfrom : ∀ acc, ds.foldl (fun n c => n * 10 + (Ascii.hexValue? c).getD 0) acc =
      Decimal.valueFrom acc ds := by
    induction ds with
    | nil => exact fun _ => rfl
    | cons c ds ih =>
      intro acc
      rw [List.all_cons, Bool.and_eq_true] at hds
      rw [List.foldl_cons, ih hds.2, Decimal.hexValue?_of_isDigit hds.1, Nat.mul_comm]
      rfl
  exact hfrom 0

/-! ### Lines of digits -/

/-- The text begins with digits, perhaps none, and a line end behind them. -/
def DigitLine (cs : List Char) : Prop :=
  ∃ ds rest, ds.all Decimal.isDigit = true ∧ cs = ds ++ '\n' :: rest

namespace DigitLine

theorem fixedDigits (h : DigitLine cs) (hread : fixedDigits n cs = some (m, left)) :
    DigitLine left := by
  obtain ⟨ds, rest, hds, rfl⟩ := h
  rw [Toml.fixedDigits] at hread
  split at hread
  · next hall =>
    cases hread
    -- the line end is not among the digits that are taken
    have hle : n ≤ ds.length := by
      refine Nat.le_of_not_lt fun hlt => ?_
      have hmem : '\n' ∈ (ds ++ '\n' :: rest).take n := by
        rw [List.take_append, List.mem_append]
        right
        rw [show n - ds.length = (n - ds.length - 1) + 1 by omega, List.take_succ_cons]
        exact List.mem_cons_self
      exact absurd (List.all_eq_true.mp hall.2 _ hmem) (by decide)
    refine ⟨ds.drop n, rest, ?_, List.drop_append_of_le_length hle⟩
    exact List.all_eq_true.mpr fun c hc => List.all_eq_true.mp hds c (List.mem_of_mem_drop hc)
  · cases hread

theorem expectChar (h : DigitLine cs) (hc : Decimal.isDigit c = false) (hfeed : c ≠ '\n') :
    expectChar c cs = none := by
  obtain ⟨ds, rest, hds, rfl⟩ := h
  rw [Toml.expectChar, if_neg]
  cases ds with
  | nil => simpa using hfeed.symm
  | cons d ds =>
    rw [List.all_cons, Bool.and_eq_true] at hds
    rw [List.cons_append, List.head?_cons, Option.some.injEq]
    rintro rfl
    rw [hds.1] at hc
    cases hc

/-- A year has a dash behind it. -/
theorem date (h : DigitLine cs) : date cs = none := by
  rw [Toml.date]
  cases hyear : Toml.fixedDigits 4 cs with
  | none => rfl
  | some year =>
    have hdash := (h.fixedDigits hyear).expectChar (c := '-') (by decide) (by decide)
    simp [hdash]

/-- An hour has a colon behind it. -/
theorem time (h : DigitLine cs) : time cs = none := by
  rw [Toml.time]
  cases hhour : Toml.fixedDigits 2 cs with
  | none => rfl
  | some hour =>
    have hcolon := (h.fixedDigits hhour).expectChar (c := ':') (by decide) (by decide)
    simp [hcolon]

theorem dateTime (h : DigitLine cs) : dateTime cs = none := by
  simp [Toml.dateTime, h.date, h.time]

end DigitLine

/-- A sign is no digit. -/
theorem fixedDigits_minus (n : Nat) (cs : List Char) : fixedDigits (n + 1) ('-' :: cs) = none := by
  rw [fixedDigits, List.take_succ_cons, if_neg]
  rintro ⟨-, hall⟩
  rw [List.all_cons, Bool.and_eq_true] at hall
  exact absurd hall.1 (by decide)

theorem dateTime_minus (cs : List Char) : dateTime ('-' :: cs) = none := by
  simp [dateTime, date, time, fixedDigits_minus]

/-! ### Whole numbers -/

theorem digitLine_digits (n : Nat) (rest : List Char) : DigitLine (Decimal.digits n ++ '\n' :: rest) :=
  ⟨Decimal.digits n, rest, Decimal.all_isDigit_digits n, rfl⟩

theorem dateTime_ofInt (z : Int) (rest : List Char) :
    dateTime (Decimal.ofInt z ++ '\n' :: rest) = none := by
  rw [Decimal.ofInt]
  split
  · exact dateTime_minus _
  · exact (digitLine_digits _ rest).dateTime

theorem no_sign (hc : Decimal.isDigit c) : c ≠ '-' ∧ c ≠ '+' := by
  constructor <;> rintro rfl <;> exact absurd hc (by decide)

/-- The digits of a number are read up to the line end. -/
theorem decimal_digits (n : Nat) (rest : List Char) :
    decimal (Decimal.digits n ++ '\n' :: rest) = some (false, Decimal.digits n, '\n' :: rest) := by
  obtain rfl | hn := Nat.eq_zero_or_pos n
  · rw [Decimal.digits_zero]
    rfl
  · have hread := digitsIn_append (Decimal.all_isDigit_digits n) (Decimal.digits_ne_nil n) rest
    have hhead := Decimal.head?_digits hn
    obtain ⟨c, ds, hcons, hc⟩ := Decimal.digits_head n
    obtain ⟨hminus, hplus⟩ := no_sign hc
    rw [hcons] at hread hhead ⊢
    have hzero : c ≠ '0' := fun h => hhead (congrArg some h)
    rw [List.cons_append] at hread ⊢
    simp [decimal, hminus, hplus, hzero, hread]

theorem decimal_minus (hc : Decimal.isDigit c) (cs : List Char) :
    decimal ('-' :: c :: cs) = (decimal (c :: cs)).map fun r => (true, r.2) := by
  obtain ⟨hminus, hplus⟩ := no_sign hc
  by_cases hzero : c = '0'
  · subst hzero
    rfl
  · simp [decimal, hminus, hplus, hzero, Function.comp_def]

theorem decimal_ofInt (z : Int) (rest : List Char) :
    decimal (Decimal.ofInt z ++ '\n' :: rest) =
      some (decide (z < 0), Decimal.digits z.natAbs, '\n' :: rest) := by
  have hread := decimal_digits z.natAbs rest
  rw [Decimal.ofInt]
  split
  · next hneg =>
    obtain ⟨c, ds, hcons, hc⟩ := Decimal.digits_head z.natAbs
    rw [hcons] at hread ⊢
    rw [List.cons_append, List.cons_append, decimal_minus hc, ← List.cons_append, hread]
    simp [hneg]
  · next hneg =>
    rw [hread]
    simp [hneg]

/-- A number is written as a digit, perhaps behind a minus, and whatever follows. -/
theorem ofInt_cons (z : Int) : ∃ c cs, Decimal.isDigit c ∧
    (Decimal.ofInt z = c :: cs ∨ Decimal.ofInt z = '-' :: c :: cs) := by
  obtain ⟨c, cs, hcons, hc⟩ := Decimal.digits_head z.natAbs
  refine ⟨c, cs, hc, ?_⟩
  rw [Decimal.ofInt, hcons]
  split
  · exact .inr rfl
  · exact .inl rfl

/-- Neither a fraction nor an exponent follows. -/
theorem float_ofInt (z : Int) (rest : List Char) : float (Decimal.ofInt z ++ '\n' :: rest) = none := by
  have hread := decimal_ofInt z rest
  obtain ⟨c, cs, hc, hcons | hcons⟩ := ofInt_cons z
  · rw [hcons, List.cons_append] at hread ⊢
    obtain ⟨hminus, hplus⟩ := no_sign hc
    have hinf : c ≠ 'i' := by rintro rfl; exact absurd hc (by decide)
    have hnan : c ≠ 'n' := by rintro rfl; exact absurd hc (by decide)
    simp [float, hminus, hplus, hinf, hnan, hread, exponent]
  · rw [hcons, List.cons_append, List.cons_append] at hread ⊢
    have hinf : c ≠ 'i' := by rintro rfl; exact absurd hc (by decide)
    have hnan : c ≠ 'n' := by rintro rfl; exact absurd hc (by decide)
    simp [float, hinf, hnan, hread, exponent]

/-- A zero in front has the line end behind it, and no letter for another base. -/
theorem ofInt_ne_based {letter : Char} (h : letter ≠ '\n') (z : Int) (rest more : List Char) :
    Decimal.ofInt z ++ '\n' :: rest ≠ '0' :: letter :: more := by
  intro heq
  have hread := decimal_ofInt z rest
  have hzero : decimal ('0' :: letter :: more) = some (false, ['0'], letter :: more) := rfl
  rw [heq, hzero] at hread
  simp only [Option.some.injEq, Prod.mk.injEq, List.cons.injEq] at hread
  exact h hread.2.2.1

theorem integer_ofInt (hlow : Int64.minValue.toInt ≤ z) (hhigh : z ≤ Int64.maxValue.toInt)
    (rest : List Char) :
    integer (Decimal.ofInt z ++ '\n' :: rest) = some (.integer z, '\n' :: rest) := by
  unfold integer
  split
  · next heq => exact absurd heq (ofInt_ne_based (by decide) z rest _)
  · next heq => exact absurd heq (ofInt_ne_based (by decide) z rest _)
  · next heq => exact absurd heq (ofInt_ne_based (by decide) z rest _)
  · have hvalue := valueIn_ten (Decimal.all_isDigit_digits z.natAbs)
    rw [Decimal.valueFrom_digits] at hvalue
    have hsign : (if decide (z < 0) = true then -(z.natAbs : Int) else z.natAbs) = z := by
      by_cases hneg : z < 0
      · rw [if_pos (decide_eq_true hneg)]
        omega
      · rw [if_neg (by simpa using hneg)]
        omega
    simp only [decimal_ofInt, Option.bind_eq_bind, Option.bind_some, hvalue]
    rw [hsign, fits?, if_pos ⟨hlow, hhigh⟩]
    rfl

/-- The characters with which a value other than a number or a date begins. -/
def openings : List Char := ['[', '\x7b', 't', 'f', '"', '\'']

/-- A value that begins with a digit or a minus is a number or a date. -/
theorem value_eq_numeral (hc : c = '-' ∨ Decimal.isDigit c) (depth : Nat) (cs : List Char) :
    value depth (c :: cs) = numeral (c :: cs) := by
  have hall : openings.all fun d => decide (d ≠ '-' ∧ Decimal.isDigit d = false) := by decide
  have hopenings : ∀ d ∈ openings, d ≠ '-' ∧ Decimal.isDigit d = false := fun d hd =>
    of_decide_eq_true (List.all_eq_true.mp hall d hd)
  have hne : ∀ d ∈ openings, c ≠ d := by
    rintro d hd rfl
    obtain hminus | hdigit := hc
    · exact (hopenings c hd).1 hminus
    · simp [(hopenings c hd).2] at hdigit
  simp only [openings, List.forall_mem_cons] at hne
  obtain ⟨hbracket, hbrace, htrue, hfalse, hquote, hapostrophe, -⟩ := hne
  rw [value]
  · rw [if_neg (by simp [hquote, hapostrophe])]
  · exact hbracket
  · exact hbrace
  · exact htrue
  · exact hfalse

/-- A signed number of 64 bits reads back. -/
theorem value_ofInt (hlow : Int64.minValue.toInt ≤ z) (hhigh : z ≤ Int64.maxValue.toInt) (depth : Nat)
    (rest : List Char) :
    value depth (Decimal.ofInt z ++ '\n' :: rest) = some (.integer z, '\n' :: rest) := by
  have hnumeral : value depth (Decimal.ofInt z ++ '\n' :: rest) =
      numeral (Decimal.ofInt z ++ '\n' :: rest) := by
    obtain ⟨c, cs, hc, hcons | hcons⟩ := ofInt_cons z <;> rw [hcons]
    · exact value_eq_numeral (.inr hc) depth _
    · exact value_eq_numeral (.inl rfl) depth _
  rw [hnumeral, numeral]
  simp only [dateTime_ofInt, float_ofInt]
  exact integer_ofInt hlow hhigh rest

end HostWatch.Toml
