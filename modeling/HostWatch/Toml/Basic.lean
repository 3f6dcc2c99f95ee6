import HostWatch.Text.Ascii
import HostWatch.Text.Decimal

/-!
# TOML values

The values of TOML. Floating-point numbers and date-times are kept as they are
written: no setting is of those types, so only their form matters. A table keeps its
entries in the order in which they were given, one per key.
-/

namespace HostWatch.Toml

/-- A value of TOML. -/
inductive Value where
  /-- A string. -/
  | string (s : String)
  /-- A whole number of 64 bits. -/
  | integer (z : Int)
  /-- A floating-point number, as it is written. -/
  | float (literal : List Char)
  /-- A truth value. -/
  | boolean (b : Bool)
  /-- A date, a time, or both, as it is written. -/
  | dateTime (literal : List Char)
  /-- An array. -/
  | array (items : List Value)
  /-- A table. -/
  | table (entries : List (String × Value))

/-- Take something from the front of a text. -/
abbrev Scanner (α : Type) := List Char → Option (α × List Char)

/-- A blank or a tab. -/
def isSpace (c : Char) : Bool :=
  c = ' ' || c = '\t'

/-- Drop blanks and tabs in front. -/
def skipSpace (cs : List Char) : List Char :=
  cs.dropWhile isSpace

/-- A character of a comment. -/
def inComment (c : Char) : Bool :=
  c = '\t' || (0x20 ≤ c.toNat && c.toNat ≠ 0x7F)

/-- What follows a line end, if one is in front. -/
def lineEnd? : List Char → Option (List Char)
  | '\n' :: rest => some rest
  | '\r' :: '\n' :: rest => some rest
  | _ => none

/-- What follows the rest of a line on which nothing but a comment may stand. -/
def endOfLine? (cs : List Char) : Option (List Char) :=
  let rest := match skipSpace cs with
    | '#' :: rest => rest.dropWhile inComment
    | rest => rest
  if rest = [] then some [] else lineEnd? rest

/-- Pass over blanks, line ends and comments between the elements of an array. -/
def skipFiller : List Char → List Char
  | ' ' :: rest => skipFiller rest
  | '\t' :: rest => skipFiller rest
  | '\n' :: rest => skipFiller rest
  | '\r' :: '\n' :: rest => skipFiller rest
  | '#' :: rest => skipFiller (rest.dropWhile inComment)
  | cs => cs
termination_by cs => cs.length
decreasing_by
  all_goals simp only [List.length_cons]
  all_goals try omega
  have := (List.dropWhile_sublist (l := rest) inComment).length_le
  omega

end HostWatch.Toml
