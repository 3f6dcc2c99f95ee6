/-!
# ASCII letters and digits

Case folding that changes the letters `A` to `Z` only, equality ignoring ASCII
case, and hexadecimal digits.
-/

namespace HostWatch.Ascii

/-- A text with `A` to `Z` replaced by `a` to `z`. -/
def lower (cs : List Char) : List Char :=
  cs.map Char.toLower

/-- Two texts are equal ignoring ASCII case. -/
def EqFold (s t : String) : Prop :=
  lower s.toList = lower t.toList

/-- Equality ignoring ASCII case is decided by folding both sides. -/
instance (s t : String) : Decidable (EqFold s t) :=
  inferInstanceAs (Decidable (lower s.toList = lower t.toList))

/-- A text equals itself. -/
theorem EqFold.rfl {s : String} : EqFold s s := Eq.refl _

/-- Equality ignoring case goes both ways. -/
theorem EqFold.symm {s t : String} (h : EqFold s t) : EqFold t s := Eq.symm h

/-- Equality ignoring case is transitive. -/
theorem EqFold.trans {s t u : String} (h : EqFold s t) (k : EqFold t u) : EqFold s u :=
  Eq.trans h k

/-- The value of a hexadecimal digit, in either case. -/
def hexValue? (c : Char) : Option Nat :=
  if '0' ≤ c ∧ c ≤ '9' then some (c.toNat - 48)
  else if 'a' ≤ c ∧ c ≤ 'f' then some (c.toNat - 87)
  else if 'A' ≤ c ∧ c ≤ 'F' then some (c.toNat - 55)
  else none

/-- The lower-case hexadecimal digit of a value below 16. -/
def hexLower (d : Nat) : Char :=
  if d < 10 then Char.ofNat (48 + d) else Char.ofNat (87 + d)

/-- The upper-case hexadecimal digit of a value below 16. -/
def hexUpper (d : Nat) : Char :=
  if d < 10 then Char.ofNat (48 + d) else Char.ofNat (55 + d)

/-- A hexadecimal digit, in either case. -/
def isHexDigit (c : Char) : Bool :=
  (hexValue? c).isSome

/-- The value of a lower-case digit is the number written. -/
theorem hexValue?_hexLower {d : Nat} (h : d < 16) : hexValue? (hexLower d) = some d := by
  have all : ∀ d : Fin 16, hexValue? (hexLower d) = some d.val := by decide
  exact all ⟨d, h⟩

/-- The value of an upper-case digit is the number written. -/
theorem hexValue?_hexUpper {d : Nat} (h : d < 16) : hexValue? (hexUpper d) = some d := by
  have all : ∀ d : Fin 16, hexValue? (hexUpper d) = some d.val := by decide
  exact all ⟨d, h⟩

end HostWatch.Ascii
