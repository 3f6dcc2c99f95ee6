import HostWatch.Punycode
import HostWatch.Unicode.Mapping
import HostWatch.Unicode.Normal
import HostWatch.Unicode.BidiClass
import HostWatch.Unicode.JoiningType
import HostWatch.Unicode.Mark

/-!
# Domain names in ASCII

A domain name is mapped character by character and normalised; each of its labels
must then be valid, and a label that is not ASCII is written in Punycode behind
`xn--`. A label that begins with `xn--` already must be the written form of a valid
label that the mapping leaves alone. If a label reads from right to left, every label
must obey the rule for bidirectional labels.
-/

namespace HostWatch.Idna

/-- A character of ASCII. -/
def isAscii (c : Char) : Bool := c.toNat < 0x80

/-- The characters that no domain name of a URL may hold. -/
def isForbidden (c : Char) : Bool :=
  c.toNat ≤ 0x20 || c.toNat = 0x7F || "%#/:<>?@[\\]^|".toList.contains c

/-- The characters of a name after mapping; a character that is not allowed refuses the name. -/
def mapAll (name : List Char) : Option (List Char) :=
  (name.mapM fun c => (Unicode.mapped c).standIns? c).map List.flatten

/-! ### Joiners -/

/-- Whether the characters before a non-joiner, nearest first, join it. -/
def joinsBefore : List Char → Bool
  | [] => false
  | c :: cs =>
    match Unicode.joiningType c with
    | .transparent => joinsBefore cs
    | .left => true
    | .dual => true
    | _ => false

/-- Whether the characters after a non-joiner join it. -/
def joinsAfter : List Char → Bool
  | [] => false
  | c :: cs =>
    match Unicode.joiningType c with
    | .transparent => joinsAfter cs
    | .right => true
    | .dual => true
    | _ => false

/-- Whether the joiners and non-joiners of a label stand where they may; `before` holds the characters
passed, nearest first. -/
def joinersFit (before : List Char) : List Char → Bool
  | [] => true
  | c :: cs =>
    let afterVirama := before.head?.any (Unicode.combiningClass · = 9)
    let fits :=
      if c = '\u200d' then afterVirama
      else if c = '\u200c' then afterVirama || (joinsBefore before && joinsAfter cs)
      else true
    fits && joinersFit (c :: before) cs

/-! ### Bidirectional labels -/

/-- The classes of characters that are read from right to left. -/
def fromRight : Unicode.BidiClass → Bool
  | .rightToLeft => true
  | .arabicLetter => true
  | .arabicNumber => true
  | _ => false

/-- Whether a label has a character that is read from right to left. -/
def isRightToLeft (label : List Char) : Bool :=
  label.any fun c => fromRight (Unicode.bidiClass c)

/-- The classes that may stand in a label of either direction. -/
def inEither : Unicode.BidiClass → Bool
  | .europeanNumber => true
  | .europeanSeparator => true
  | .commonSeparator => true
  | .europeanTerminator => true
  | .otherNeutral => true
  | .boundaryNeutral => true
  | .nonspacingMark => true
  | _ => false

/-- The class of the last character that is not a nonspacing mark. -/
def lastClass (classes : List Unicode.BidiClass) : Option Unicode.BidiClass :=
  (classes.reverse.dropWhile (· = .nonspacingMark)).head?

/-- The rule for bidirectional labels. -/
def bidiRule (label : List Char) : Bool :=
  let classes := label.map Unicode.bidiClass
  let last := lastClass classes
  match classes with
  | [] => true
  | .leftToRight :: _ =>
    classes.all (fun k => k = .leftToRight || inEither k) &&
      (last = some .leftToRight || last = some .europeanNumber)
  | first :: _ =>
    (first = .rightToLeft || first = .arabicLetter) &&
      classes.all (fun k =>
        k = .rightToLeft || k = .arabicLetter || k = .arabicNumber || inEither k) &&
      (last = some .rightToLeft || last = some .arabicLetter || last = some .europeanNumber ||
        last = some .arabicNumber) &&
      !(classes.contains .europeanNumber && classes.contains .arabicNumber)

/-! ### Labels -/

/-- What every label must satisfy, whatever its written form. -/
def labelFits (label : List Char) : Bool :=
  !(label.head?.any Unicode.isMark) && joinersFit [] label

/-- The most characters that a label in Punycode may have. -/
def maxEncoded : Nat := 2000

/-- The most characters that a label to be written in Punycode may have. -/
def maxDecoded : Nat := 1000

/-- A label in both forms: as it is read and as it is written. -/
structure Label where
  /-- The label as it is read. -/
  text : List Char
  /-- The label in ASCII. -/
  ascii : List Char

/-- The label whose written form begins with `xn--` and goes on as given. -/
def decodeLabel? (rest : List Char) : Option Label :=
  if maxEncoded < rest.length then none
  else do
    let text ← Punycode.decode? rest
    if text.all isAscii then none
    else if text.all (fun c => Unicode.mapped c = .kept) ∧ Unicode.toNFC text = text ∧
        labelFits text then
      return ⟨text, 'x' :: 'n' :: '-' :: '-' :: rest⟩
    else none

/-- The label of a mapped and normalised name. -/
def label? (text : List Char) : Option Label :=
  match text with
  | 'x' :: 'n' :: '-' :: '-' :: rest => if rest.all isAscii then decodeLabel? rest else none
  | _ =>
    if text.all isAscii then some ⟨text, text⟩
    else if labelFits text ∧ text.length ≤ maxDecoded then
      some ⟨text, 'x' :: 'n' :: '-' :: '-' :: Punycode.encode text⟩
    else none

/-- The ASCII form of a domain name, if it is a valid name of a URL. -/
def toAscii? (name : List Char) : Option (List Char) := do
  let mapped ← mapAll name
  let labels ← ((Unicode.toNFC mapped).splitOn '.').mapM label?
  let ascii := List.intercalate ['.'] (labels.map Label.ascii)
  if labels.any (fun l => isRightToLeft l.text) ∧ !labels.all (fun l => bidiRule l.text) then none
  else if ascii.any isForbidden then none
  else return ascii

end HostWatch.Idna
