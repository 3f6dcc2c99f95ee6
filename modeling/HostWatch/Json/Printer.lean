import HostWatch.Json.Basic
import HostWatch.Text.Ascii
import HostWatch.Text.Decimal
import HostWatch.Text.ShortestDecimal

/-!
# Writing JSON

Values as text: `compact` without any blanks, `pretty` with one element or member
to a line and two blanks for each level. In strings, quotes, backslashes and
control characters are escaped and everything else stands for itself.
-/

namespace HostWatch.Json

/-- A character inside a string. -/
def escapeChar (c : Char) : List Char :=
  if c = '"' then ['\\', '"']
  else if c = '\\' then ['\\', '\\']
  else if c = '\x08' then ['\\', 'b']
  else if c = '\x0c' then ['\\', 'f']
  else if c = '\n' then ['\\', 'n']
  else if c = '\r' then ['\\', 'r']
  else if c = '\t' then ['\\', 't']
  else if c.toNat < 0x20 then
    ['\\', 'u', '0', '0', Ascii.hexLower (c.toNat / 16), Ascii.hexLower (c.toNat % 16)]
  else [c]

/-- A string in quotes. -/
def quote (s : String) : List Char :=
  '"' :: (s.toList.flatMap escapeChar ++ ['"'])

/-- The text of floating-point numbers: the fewest digits, with an exponent below `1e-5` and from `1e16`. -/
def floatText (x : Float) : List Char :=
  if x.isFinite then
    let (digits, point) := Decimal.shortest x.abs
    let sign := if x.toBits ≥ 0x8000000000000000 then ['-'] else []
    let count : Int := digits.length
    let body : List Char :=
      if digits = ['0'] then ['0', '.', '0']
      else if count ≤ point ∧ point ≤ 16 then
        digits ++ List.replicate (point - count).toNat '0' ++ ['.', '0']
      else if 0 < point ∧ point ≤ 16 then
        digits.take point.toNat ++ '.' :: digits.drop point.toNat
      else if -5 < point ∧ point ≤ 0 then
        ['0', '.'] ++ List.replicate (-point).toNat '0' ++ digits
      else
        let mantissa := match digits with
          | [] => []
          | [d] => [d]
          | d :: ds => d :: '.' :: ds
        mantissa ++ 'e' :: Decimal.ofInt (point - 1)
    sign ++ body
  else ['n', 'u', 'l', 'l']

/-- The text of a number. -/
def Number.text : Number → List Char
  | .integer z => Decimal.ofInt z
  | .real x => floatText x

/-- Texts with commas between them. -/
def commaSeparated : List (List Char) → List Char
  | [] => []
  | [t] => t
  | t :: ts => t ++ ',' :: commaSeparated ts

mutual

/-- The text of a value without any blanks. -/
def Value.compact : Value → List Char
  | .null => ['n', 'u', 'l', 'l']
  | .bool true => ['t', 'r', 'u', 'e']
  | .bool false => ['f', 'a', 'l', 's', 'e']
  | .number n => n.text
  | .string s => quote s
  | .array items => '[' :: (commaSeparated (compactItems items) ++ [']'])
  | .object ms => '\x7b' :: (commaSeparated (compactMembers ms) ++ ['\x7d'])

/-- The texts of elements. -/
def compactItems : List Value → List (List Char)
  | [] => []
  | v :: vs => v.compact :: compactItems vs

/-- The texts of members. -/
def compactMembers : List (String × Value) → List (List Char)
  | [] => []
  | (k, v) :: ms => (quote k ++ ':' :: v.compact) :: compactMembers ms

end

/-- The octets of a value without any blanks. -/
def Value.encode (v : Value) : Bytes :=
  Utf8.encode v.compact

/-- Lines at a level, with commas between them, inside brackets. -/
def block (opening closing : Char) (level : Nat) (lines : List (List Char)) : List Char :=
  match lines with
  | [] => [opening, closing]
  | _ =>
    let indent (n : Nat) := '\n' :: List.replicate (2 * n) ' '
    opening :: (commaSeparated (lines.map (indent (level + 1) ++ ·)) ++ indent level ++ [closing])

mutual

/-- The text of a value that stands at a level, one element or member to a line. -/
def Value.prettyAt (level : Nat) : Value → List Char
  | .null => ['n', 'u', 'l', 'l']
  | .bool true => ['t', 'r', 'u', 'e']
  | .bool false => ['f', 'a', 'l', 's', 'e']
  | .number n => n.text
  | .string s => quote s
  | .array items => block '[' ']' level (prettyItems (level + 1) items)
  | .object ms => block '\x7b' '\x7d' level (prettyMembers (level + 1) ms)

/-- The texts of elements at a level. -/
def prettyItems (level : Nat) : List Value → List (List Char)
  | [] => []
  | v :: vs => v.prettyAt level :: prettyItems level vs

/-- The texts of members at a level. -/
def prettyMembers (level : Nat) : List (String × Value) → List (List Char)
  | [] => []
  | (k, v) :: ms => (quote k ++ ':' :: ' ' :: v.prettyAt level) :: prettyMembers level ms

end

/-- The text of a value, one element or member to a line. -/
def Value.pretty (v : Value) : List Char :=
  v.prettyAt 0

end HostWatch.Json
