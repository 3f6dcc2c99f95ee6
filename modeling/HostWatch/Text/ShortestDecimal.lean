import HostWatch.Text.Decimal

/-!
# The shortest decimal of a floating-point number

A binary floating-point number stands for every real number that rounds to it.
`shortest` finds the decimal with the fewest digits among them, and of those with
equally few digits the nearest. The search is exact: the number is a fraction of
natural numbers, and each grid of decimals with one to seventeen digits is tested
at the two points next to it.
-/

namespace HostWatch.Decimal

/-- A positive fraction with the bounds of the interval that rounds to it, over one denominator. -/
structure Rounding where
  /-- The numerator of the number. -/
  value : Nat
  /-- The numerator of the lower end. -/
  low : Nat
  /-- The numerator of the upper end. -/
  high : Nat
  /-- The denominator. -/
  den : Nat
  /-- Whether the ends themselves round to the number. -/
  closed : Bool

/-- The interval of a positive finite number: half a unit up and down, a quarter down at a power of two. -/
def Rounding.ofFloat (x : Float) : Rounding :=
  let bits := x.toBits.toNat
  let fraction := bits % Nat.pow 2 52
  let biased := bits / Nat.pow 2 52 % Nat.pow 2 11
  let m := if biased = 0 then fraction else fraction + Nat.pow 2 52
  let e := if biased = 0 then 1 else biased
  let down := if fraction = 0 ∧ 1 < biased then 1 else 2
  -- the number is `m · 2^(e - 1075)`, written over `4 · 2^1075`
  let up := Nat.pow 2 e
  { value := 4 * m * up, low := (4 * m - down) * up, high := (4 * m + 2) * up,
    den := 4 * Nat.pow 2 1075, closed := m % 2 = 0 }

/-- Whether the fraction `num / den` rounds to the number. -/
def Rounding.contains (r : Rounding) (num den : Nat) : Bool :=
  let at' := num * r.den
  if r.closed then r.low * den ≤ at' && at' ≤ r.high * den
  else r.low * den < at' && at' < r.high * den

/-- How many places the first digit stands before the point, at most `fuel` zeros behind it. -/
def Rounding.point (r : Rounding) (fuel : Nat) : Int :=
  if r.den ≤ r.value then (digits (r.value / r.den)).length
  else go fuel r.value 0
where
  /-- Count the zeros behind the point. -/
  go : Nat → Nat → Int → Int
    | 0, _, p => p
    | fuel + 1, v, p => if r.den ≤ v * 10 then p else go fuel (v * 10) (p - 1)

/-- The nearest decimal with `n` digits that rounds to the number, as a whole number of units `10^k`. -/
def Rounding.onGrid? (r : Rounding) (k : Int) : Option Nat :=
  let (num, den) := if 0 ≤ k then (r.value, r.den * Nat.pow 10 k.natAbs) else (r.value * Nat.pow 10 k.natAbs, r.den)
  let (up, down) := if 0 ≤ k then (Nat.pow 10 k.natAbs, 1) else (1, Nat.pow 10 k.natAbs)
  let below := num / den
  let rest := num % den
  let belowFits := r.contains (below * up) down
  let aboveFits := r.contains ((below + 1) * up) down
  if belowFits && aboveFits then
    if 2 * rest < den ∨ (2 * rest = den ∧ below % 2 = 0) then some below else some (below + 1)
  else if belowFits then some below
  else if aboveFits then some (below + 1)
  else none

/-- The digits of a non-negative finite number, without zeros at the end, and the place of the point. -/
def shortest (x : Float) : List Char × Int :=
  if x == 0 then (['0'], 1)
  else
    let r := Rounding.ofFloat x
    let p := r.point 400
    let found := (List.range 17).findSome? fun (n : Nat) =>
      let k := p - (n + 1 : Int)
      (r.onGrid? k).map (·, k)
    match found with
    | none => (['0'], 1)
    | some (units, k) =>
      let ds := digits units
      let trimmed := (ds.reverse.dropWhile (· == '0')).reverse
      (trimmed, k + ds.length)

end HostWatch.Decimal
