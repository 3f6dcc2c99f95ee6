/-!
# Blank characters

The characters with the Unicode property `White_Space`, and trimming by them. A
list of characters is trimmed by dropping what satisfies a test at its ends;
`trim_eq_self` says when nothing is dropped.
-/

namespace HostWatch.Text

/-- The characters with the property `White_Space`. -/
def isBlank (c : Char) : Bool :=
  let n := c.toNat
  (0x09 ≤ n && n ≤ 0x0D) || n == 0x20 || n == 0x85 || n == 0xA0 || n == 0x1680 ||
    (0x2000 ≤ n && n ≤ 0x200A) || n == 0x2028 || n == 0x2029 || n == 0x202F || n == 0x205F ||
    n == 0x3000

/-- Drop the characters that satisfy `p` from the end. -/
def dropEndWhile (p : Char → Bool) (cs : List Char) : List Char :=
  (cs.reverse.dropWhile p).reverse

/-- Drop the characters that satisfy `p` from both ends. -/
def trimBy (p : Char → Bool) (cs : List Char) : List Char :=
  dropEndWhile p (cs.dropWhile p)

/-- Drop blank characters from both ends. -/
def trim (cs : List Char) : List Char :=
  trimBy isBlank cs

/-- Trimming leaves nothing of the empty text. -/
@[simp]
theorem trimBy_nil (p : Char → Bool) : trimBy p [] = [] := rfl

/-- A text that neither begins nor ends with a dropped character is kept whole. -/
theorem trimBy_eq_self {p : Char → Bool} {cs : List Char} (hd : cs.head?.all (!p ·))
    (tl : cs.getLast?.all (!p ·)) : trimBy p cs = cs := by
  have keep : ∀ {ds : List Char}, ds.head?.all (!p ·) → ds.dropWhile p = ds := by
    intro ds h
    cases ds with
    | nil => rfl
    | cons d ds => simp_all
  rw [trimBy, dropEndWhile, keep hd, keep (by simpa [List.head?_reverse] using tl),
    List.reverse_reverse]

end HostWatch.Text
