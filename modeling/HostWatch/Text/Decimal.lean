/-!
# Decimal numerals

Natural numbers and integers written in decimal, and reading them back. A
numeral is written without leading zeros; reading takes any digits, and for
integers one sign in front. `value?_digits` says that what is written reads back.
-/

namespace HostWatch.Decimal

/-- The digit of a number below 10. -/
def digit (d : Nat) : Char :=
  Char.ofNat (48 + d)

/-- An ASCII digit. -/
def isDigit (c : Char) : Bool :=
  '0' ≤ c && c ≤ '9'

/-- The number of an ASCII digit. -/
def digitValue (c : Char) : Nat :=
  c.toNat - 48

/-- The numeral of a natural number, without leading zeros. -/
def digits (n : Nat) : List Char :=
  if n < 10 then [digit n] else digits (n / 10) ++ [digit (n % 10)]

/-- The numeral of an integer: a minus sign in front of a negative one. -/
def ofInt (z : Int) : List Char :=
  if z < 0 then '-' :: digits z.natAbs else digits z.natAbs

/-- The number that digits stand for, read after the number `acc`. -/
def valueFrom (acc : Nat) (cs : List Char) : Nat :=
  cs.foldl (fun a c => 10 * a + digitValue c) acc

/-- The number that one or more digits stand for; nothing else is read. -/
def value? (cs : List Char) : Option Nat :=
  if cs ≠ [] ∧ cs.all isDigit then some (valueFrom 0 cs) else none

/-- The integer that digits stand for, with at most one sign in front of them. -/
def int? : List Char → Option Int
  | '-' :: cs => (value? cs).map fun n => -Int.ofNat n
  | '+' :: cs => (value? cs).map Int.ofNat
  | cs => (value? cs).map Int.ofNat

/-- The digit of a number below 10 is a digit. -/
theorem isDigit_digit {d : Nat} (h : d < 10) : isDigit (digit d) := by
  have all : ∀ d : Fin 10, isDigit (digit d) := by decide
  exact all ⟨d, h⟩

/-- The digit of a number below 10 stands for that number. -/
theorem digitValue_digit {d : Nat} (h : d < 10) : digitValue (digit d) = d := by
  have all : ∀ d : Fin 10, digitValue (digit d) = d.val := by decide
  exact all ⟨d, h⟩

/-- A numeral consists of digits. -/
theorem all_isDigit_digits (n : Nat) : (digits n).all isDigit := by
  fun_induction digits n with
  | case1 n h => simp [isDigit_digit h]
  | case2 n h ih => simp [ih, isDigit_digit (Nat.mod_lt n (by omega : 10 > 0))]

/-- A numeral is not empty. -/
theorem digits_ne_nil (n : Nat) : digits n ≠ [] := by
  fun_induction digits n <;> simp

/-- A numeral stands for its number. -/
theorem valueFrom_digits (n : Nat) : valueFrom 0 (digits n) = n := by
  fun_induction digits n with
  | case1 n h => simp [valueFrom, digitValue_digit h]
  | case2 n h ih =>
    simp only [valueFrom] at ih
    simp only [valueFrom, List.foldl_append, ih, List.foldl_cons, List.foldl_nil]
    rw [digitValue_digit (Nat.mod_lt n (by omega : 10 > 0))]
    omega

/-- A numeral reads back as its number. -/
theorem value?_digits (n : Nat) : value? (digits n) = some n := by
  simp [value?, digits_ne_nil, all_isDigit_digits, valueFrom_digits]

/-- A numeral begins with a digit, so with no sign. -/
theorem digits_head (n : Nat) : ∃ c cs, digits n = c :: cs ∧ isDigit c := by
  have all := all_isDigit_digits n
  match h : digits n with
  | [] => exact absurd h (digits_ne_nil n)
  | c :: cs =>
    rw [h] at all
    simp only [List.all_cons, Bool.and_eq_true] at all
    exact ⟨c, cs, rfl, all.1⟩

/-- Digits without a sign are read as a natural number. -/
theorem int?_of_isDigit {c : Char} {cs : List Char} (h : isDigit c) :
    int? (c :: cs) = (value? (c :: cs)).map Int.ofNat := by
  unfold int?
  split
  · rename_i heq; injection heq with hc; subst hc; exact absurd h (by decide)
  · rename_i heq; injection heq with hc; subst hc; exact absurd h (by decide)
  · rfl

/-- The numeral of an integer reads back as the integer. -/
theorem int?_ofInt (z : Int) : int? (ofInt z) = some z := by
  unfold ofInt
  split
  · rename_i h
    have abs : -Int.ofNat z.natAbs = z := by simp only [Int.ofNat_eq_natCast]; omega
    simp only [int?, value?_digits, Option.map_some]
    exact congrArg some abs
  · rename_i h
    have abs : Int.ofNat z.natAbs = z := by simp only [Int.ofNat_eq_natCast]; omega
    obtain ⟨c, cs, hcs, hc⟩ := digits_head z.natAbs
    rw [hcs, int?_of_isDigit hc, ← hcs, value?_digits]
    exact congrArg some abs

end HostWatch.Decimal
