import HostWatch.Text.Decimal

/-!
# Punycode

Texts written with ASCII letters and digits: first the ASCII characters, then, after
a hyphen, where each other character is put in, in rising order, as differences in a
variable-length notation of base 36. Numbers are words of 32 bits, and a text whose
numbers do not fit is refused.
-/

namespace HostWatch.Punycode

/-- The digit of a number below 36: letters first. -/
def digitChar (d : Nat) : Char :=
  if d < 26 then Char.ofNat (0x61 + d) else Char.ofNat (0x30 + (d - 26))

/-- The number of a digit, in either case. -/
def digitValue? (c : Char) : Option Nat :=
  let n := c.toNat
  if 0x61 ≤ n ∧ n ≤ 0x7A then some (n - 0x61)
  else if 0x41 ≤ n ∧ n ≤ 0x5A then some (n - 0x41)
  else if 0x30 ≤ n ∧ n ≤ 0x39 then some (n - 0x30 + 26)
  else none

/-- The least number that is not the last digit at a position. -/
def threshold (k bias : Nat) : Nat :=
  if k ≤ bias then 1 else if bias + 26 ≤ k then 26 else k - bias

/-- A threshold is positive. -/
theorem threshold_pos (k bias : Nat) : 1 ≤ threshold k bias := by
  unfold threshold
  split
  · omega
  · split <;> omega

/-- A threshold is at most 26. -/
theorem threshold_le (k bias : Nat) : threshold k bias ≤ 26 := by
  unfold threshold
  split
  · omega
  · split <;> omega

/-- Divide by 35 until the difference is small; counts 36 for each division. -/
def scaleDown (delta k : Nat) : Nat × Nat :=
  if 455 < delta then scaleDown (delta / 35) (k + 36) else (delta, k)
termination_by delta
decreasing_by omega

/-- The bias after a difference, for a text that now has `length` characters. -/
def adapt (delta length : Nat) (first : Bool) : Nat :=
  let delta := if first then delta / 700 else delta / 2
  let (delta, k) := scaleDown (delta + delta / length) 0
  k + 36 * delta / (delta + 38)

/-- The largest number that is computed with. -/
def maxWord : Nat := UInt32.size - 1

/-! ### Writing -/

/-- The digits of a difference, from position `k`. -/
def writeNumber (bias k q : Nat) : List Char :=
  let t := threshold k bias
  if q < t then [digitChar q]
  else digitChar (t + (q - t) % (36 - t)) :: writeNumber bias (k + 36) ((q - t) / (36 - t))
termination_by q
decreasing_by
  have low := threshold_pos k bias
  have high := threshold_le k bias
  have := Nat.div_le_self (q - threshold k bias) (36 - threshold k bias)
  omega

/-- Where the writing of a text stands. -/
structure Writing where
  /-- The digits written so far. -/
  out : List Char
  /-- The places passed since the last digit. -/
  delta : Nat
  /-- The bias of the next number. -/
  bias : Nat
  /-- The characters put in so far. -/
  placed : Nat

/-- Pass one character of the text while the characters numbered `m` are put in. -/
def Writing.pass (w : Writing) (basic m : Nat) (c : Char) : Writing :=
  if c.toNat < m then { w with delta := w.delta + 1 }
  else if c.toNat = m then
    { out := w.out ++ writeNumber w.bias 36 w.delta, delta := 0,
      bias := adapt w.delta (w.placed + 1) (w.placed = basic), placed := w.placed + 1 }
  else w

/-- Put in the characters with the given numbers, in order; `n` is the next number to come. -/
def Writing.run (text : List Char) (basic : Nat) : List Nat → Nat → Writing → Writing
  | [], _, w => w
  | m :: ms, n, w =>
    let w := { w with delta := w.delta + (m - n) * (w.placed + 1) }
    let w := text.foldl (fun w c => w.pass basic m c) w
    Writing.run text basic ms (m + 1) { w with delta := w.delta + 1 }

/-- Put a number into a rising list, once. -/
def insertOnce (x : Nat) : List Nat → List Nat
  | [] => [x]
  | y :: ys => if x < y then x :: y :: ys else if x = y then y :: ys else y :: insertOnce x ys

/-- The written form of a text. -/
def encode (text : List Char) : List Char :=
  let basic := text.filter (·.toNat < 0x80)
  let others := (text.filter (0x80 ≤ ·.toNat)).foldr (fun c ns => insertOnce c.toNat ns) []
  let w := Writing.run text basic.length others 128 ⟨[], 0, 72, basic.length⟩
  basic ++ (if basic = [] then [] else ['-']) ++ w.out

/-! ### Reading -/

/-- Read a number from position `k` with weight `w`, on top of `i`; words that overflow are refused. -/
def readNumber? (bias : Nat) : List Char → Nat → Nat → Nat → Option (Nat × List Char)
  | [], _, _, _ => none
  | c :: rest, k, w, i =>
    match digitValue? c with
    | none => none
    | some d =>
      let t := threshold k bias
      if maxWord < i + d * w then none
      else if d < t then some (i + d * w, rest)
      else if maxWord < w * (36 - t) then none
      else readNumber? bias rest (k + 36) (w * (36 - t)) (i + d * w)

/-- What follows a number is shorter. -/
theorem length_of_readNumber? {bias k w i n : Nat} {cs rest : List Char}
    (h : readNumber? bias cs k w i = some (n, rest)) : rest.length < cs.length := by
  fun_induction readNumber? bias cs k w i with
  | case1 => simp at h
  | case2 => simp at h
  | case3 => simp at h
  | case4 => simp_all
  | case5 => simp at h
  | case6 _ _ _ _ _ _ _ _ _ _ _ ih =>
    have := ih h
    simp only [List.length_cons]
    omega

/-- Put the characters that the numbers give into a text. -/
def place? (bias n i : Nat) (text : List Char) (digits : List Char) : Option (List Char) :=
  if digits = [] then some text
  else
    match _h : readNumber? bias digits 36 1 i with
    | none => none
    | some (j, rest) =>
      let length := text.length + 1
      let m := n + j / length
      if m.isValidChar then
        let at' := j % length
        place? (adapt (j - i) length (i = 0)) m (at' + 1)
          (text.take at' ++ Char.ofNat m :: text.drop at') rest
      else none
termination_by digits.length
decreasing_by exact length_of_readNumber? ‹_›

/-- The characters before the last hyphen, if there is one behind the first place, and those after it. -/
def splitBasic (cs : List Char) : List Char × List Char :=
  let tail := (cs.reverse.takeWhile (· ≠ '-')).reverse
  if tail.length + 1 < cs.length then (cs.take (cs.length - tail.length - 1), tail) else ([], cs)

/-- The text with the given written form. -/
def decode? (cs : List Char) : Option (List Char) :=
  let (basic, digits) := splitBasic cs
  if basic.all (·.toNat < 0x80) then place? 72 128 0 basic digits else none

end HostWatch.Punycode
