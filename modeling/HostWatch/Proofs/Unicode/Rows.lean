import HostWatch.Proofs.Unicode.Table

/-!
# The rows of the tables

What all rows of a table have in common, checked once for each table: the mapping and the
decompositions leave no capital letter in a name (`mappingTable_fits`), and the mapping leaves no
blank beyond ASCII there (`mappingTable_narrows`). The tables of compositions, of combining classes
and of letters read from right to left begin beyond ASCII.
-/

namespace HostWatch.Unicode

/-! ### Sets of numbers -/

/-- A set of numbers as the bits of a number. -/
def bits (ns : List Nat) : Nat :=
  ns.foldr (fun n m => m ||| 1 <<< n) 0

theorem testBit_bits (ns : List Nat) (n : Nat) : (bits ns).testBit n = decide (n ∈ ns) := by
  induction ns with
  | nil => simp [bits]
  | cons k ns ih =>
    rw [bits, List.foldr_cons, ← bits, Nat.testBit_or, ih, Nat.one_shiftLeft,
      Nat.testBit_two_pow, Bool.eq_iff_iff, Bool.or_eq_true, decide_eq_true_eq, decide_eq_true_eq,
      decide_eq_true_eq, List.mem_cons, or_comm, eq_comm]

/-- A set has no number of a range. -/
def clear (m low high : Nat) : Bool :=
  (m >>> low) % (1 <<< (high + 1 - low)) = 0

theorem testBit_of_clear {m low high n : Nat} (h : clear m low high) (hlow : low ≤ n)
    (hhigh : n ≤ high) : m.testBit n = false := by
  have bit : ((m >>> low) % (1 <<< (high + 1 - low))).testBit (n - low) = m.testBit n := by
    rw [Nat.one_shiftLeft, Nat.testBit_mod_two_pow, Nat.testBit_shiftRight, Nat.add_sub_cancel' hlow,
      decide_eq_true (by omega), Bool.true_and]
  rw [← bit, of_decide_eq_true h, Nat.zero_testBit]

/-! ### Rows that leave numbers out -/

/-- The number of a letter from `A` to `Z`. -/
def isCapital (n : Nat) : Bool :=
  0x41 ≤ n && n ≤ 0x5A

/-- The numbers of the capital letters and of the characters that a table of decompositions takes
apart into a capital letter and marks. -/
def capitals (rows : List Row) : List Nat :=
  List.range' 0x41 26 ++ (rows.filter fun r => r.data.any isCapital).map Row.low

/-- Whether a row of the mapping leaves no character in a name that is in a set. -/
def avoids (m : Nat) (r : Row) : Bool :=
  if r.kind = '!' then true
  else if r.kind = '+' then clear m (r.low + r.data.headD 0) (r.high + r.data.headD 0)
  else if r.kind = '~' then clear m (r.low - r.data.headD 0) (r.high - r.data.headD 0)
  else if r.kind = '/' then
    (List.range ((r.high - r.low) / 2 + 1)).all fun i => !m.testBit (r.low + 2 * i + 1)
  else if r.kind = '=' then r.data.all fun n => !m.testBit n
  else clear m r.low r.high

/-! ### Rows that cover blanks -/

/-- The numbers of the blank characters beyond ASCII. -/
def blankNumbers : List Nat :=
  [0x85, 0xA0, 0x1680] ++ List.range' 0x2000 11 ++ [0x2028, 0x2029, 0x202F, 0x205F, 0x3000]

/-- Whether a row of the mapping replaces every blank beyond ASCII that it covers by the one of ASCII. -/
def narrows (r : Row) : Bool :=
  clear (bits blankNumbers) r.low r.high || blankNumbers.all fun n =>
    r.high < n || n < r.low || r.mapped (Char.ofNat n) = .replaced [' ']

/-! ### The rows of the tables -/

/-- The first rows of the mapping. -/
def asciiRows : List Row :=
  [⟨0, 0x40, ' ', []⟩, ⟨0x41, 0x5A, '+', [0x20]⟩, ⟨0x5B, 0x7F, ' ', []⟩]

/-- What is asked of the rows of the mapping, given those of the decompositions. -/
def mappingFits (rows decompositions : List Row) : Bool :=
  rising rows && rows.take 3 = asciiRows && rows.all (avoids (bits (capitals decompositions))) &&
    decompositions.all fun r => 0x80 ≤ r.low && (r.data.any isCapital → r.low = r.high)

set_option maxRecDepth 100000

/-- What holds of the rows on the first lines and of those on the other lines holds of all rows. -/
theorem all_of_take_drop {q : Row → Bool} {css : List (List Char)} (n : Nat)
    (htake : ((css.take n).flatMap Table.readLine).all q)
    (hdrop : ((css.drop n).flatMap Table.readLine).all q) : (css.flatMap Table.readLine).all q := by
  have hall : ((css.take n ++ css.drop n).flatMap Table.readLine).all q := by
    rw [List.flatMap_append, List.all_append, htake, hdrop, Bool.and_self]
  rwa [List.take_append_drop] at hall

theorem mappingTable_rising :
    rising mappingTable.rows.toList && mappingTable.rows.toList.take 3 = asciiRows := by
  apply Table.check (fun rows => rising rows && rows.take 3 = asciiRows) rfl
  · repeat (first | exact Spelt.nil | apply Spelt.cons)
  · decide +kernel

theorem mappingTable_avoids :
    mappingTable.rows.toList.all (avoids (bits (capitals decompositionTable.rows.toList))) := by
  apply Table.check (fun ds => mappingTable.rows.toList.all (avoids (bits (capitals ds)))) rfl
  · repeat (first | exact Spelt.nil | apply Spelt.cons)
  · apply Table.check (·.all (avoids _)) rfl
    · repeat (first | exact Spelt.nil | apply Spelt.cons)
    · -- in two parts, each of which is checked in less memory than the whole
      apply all_of_take_drop 290
      · decide +kernel
      · decide +kernel

theorem decompositionTable_beyond : decompositionTable.rows.toList.all fun r =>
    0x80 ≤ r.low && (r.data.any isCapital → r.low = r.high) := by
  apply Table.check (·.all fun r => 0x80 ≤ r.low && (r.data.any isCapital → r.low = r.high)) rfl
  · repeat (first | exact Spelt.nil | apply Spelt.cons)
  · decide +kernel

theorem mappingTable_fits :
    mappingFits mappingTable.rows.toList decompositionTable.rows.toList := by
  rw [mappingFits, mappingTable_rising, mappingTable_avoids, decompositionTable_beyond]
  rfl

theorem mappingTable_narrows : mappingTable.rows.toList.all narrows := by
  apply Table.check (·.all narrows) rfl
  · repeat (first | exact Spelt.nil | apply Spelt.cons)
  · decide +kernel

theorem compositionTable_beyond :
    compositionTable.rows.toList.all fun r => r.data.all (0x80 ≤ ·) := by
  apply Table.check (·.all fun r => r.data.all (0x80 ≤ ·)) rfl
  · repeat (first | exact Spelt.nil | apply Spelt.cons)
  · decide +kernel

theorem combiningClassTable_beyond :
    combiningClassTable.rows.toList.all fun r => 0x80 ≤ r.low := by
  apply Table.check (·.all fun r => 0x80 ≤ r.low) rfl
  · repeat (first | exact Spelt.nil | apply Spelt.cons)
  · decide +kernel

theorem bidiClassTable_beyond :
    bidiClassTable.rows.toList.all fun r => r.kind ∈ ['r', 'k', 'n'] → 0x80 ≤ r.low := by
  apply Table.check (·.all fun r => r.kind ∈ ['r', 'k', 'n'] → 0x80 ≤ r.low) rfl
  · repeat (first | exact Spelt.nil | apply Spelt.cons)
  · decide +kernel

end HostWatch.Unicode
