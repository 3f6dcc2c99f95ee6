import HostWatch.Text.Ascii

/-!
# Tables of character properties

A property of characters is kept as rows, each for a range of character numbers,
in rising order. A table is written on lines of text: a row is a range in hexadecimal, such
as `41-5A`, then one letter or sign for its kind, then numbers with points between
them. `Table.find?` looks a character up by halving.
-/

namespace HostWatch.Unicode

/-- What a table says of a range of characters. -/
structure Row where
  /-- The first character of the range. -/
  low : Nat
  /-- The last character of the range. -/
  high : Nat
  /-- The kind of the entry; a blank stands for none. -/
  kind : Char
  /-- The numbers of the entry. -/
  data : List Nat
  deriving DecidableEq, Repr

/-- Rows in rising order. -/
structure Table where
  /-- The rows. -/
  rows : Array Row

namespace Table

/-- The number of upper-case hexadecimal digits in front, and what follows them. -/
def readHex (acc : Nat) : List Char → Nat × List Char
  | [] => (acc, [])
  | c :: cs =>
    if '0' ≤ c ∧ c ≤ '9' then readHex (acc * 16 + (c.toNat - 48)) cs
    else if 'A' ≤ c ∧ c ≤ 'F' then readHex (acc * 16 + (c.toNat - 55)) cs
    else (acc, c :: cs)

/-- Numbers with points between them. -/
def readNumbers (cs : List Char) : List Nat :=
  if cs = [] then []
  else (cs.splitOn '.').map fun digits => (readHex 0 digits).1

/-- One row. -/
def readRow (cs : List Char) : Row :=
  let (low, rest) := readHex 0 cs
  let (high, rest) := match rest with
    | '-' :: rest => readHex 0 rest
    | rest => (low, rest)
  match rest with
  | [] => ⟨low, high, ' ', []⟩
  | kind :: rest => ⟨low, high, kind, readNumbers rest⟩

/-- The rows on a line, with blanks between them. -/
def readLine (cs : List Char) : List Row :=
  ((cs.splitOn ' ').filter (· ≠ [])).map readRow

/-- The table written on lines of text. -/
def read (lines : List String) : Table :=
  ⟨(lines.flatMap fun line => readLine line.toList).toArray⟩

/-- The last row between two places whose range begins at or before `n`. -/
def search (t : Table) (n low high : Nat) : Option Row :=
  if low + 1 < high then
    let middle := (low + high) / 2
    match t.rows[middle]? with
    | none => none
    | some row => if row.low ≤ n then t.search n middle high else t.search n low middle
  else t.rows[low]?
termination_by high - low

/-- The row for the character numbered `n`, if it has one. -/
def find? (t : Table) (n : Nat) : Option Row :=
  (t.search n 0 t.rows.size).filter fun row => row.low ≤ n && n ≤ row.high

end Table

end HostWatch.Unicode
