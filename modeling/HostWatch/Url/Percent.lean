import HostWatch.Text.Ascii
import HostWatch.Text.Utf8

/-!
# Percent-encoding

An octet written as a percent sign and two hexadecimal digits. Each part of a URL
has its own set of characters that are written so; characters that are not ASCII
always are, octet by octet.
-/

namespace HostWatch.Url

/-- The upper-case percent-encoding of an octet. -/
def encodeOctet (b : UInt8) : List Char :=
  ['%', Ascii.hexUpper (b.toNat / 16), Ascii.hexUpper (b.toNat % 16)]

/-- A control character, or one that is not ASCII. -/
def inControlSet (c : Char) : Bool :=
  c.toNat < 0x20 || 0x7E < c.toNat

/-- The characters that are encoded in a query. -/
def inQuerySet (c : Char) : Bool :=
  inControlSet c || c = ' ' || c = '"' || c = '#' || c = '<' || c = '>'

/-- The characters that are encoded in the query of a special URL. -/
def inSpecialQuerySet (c : Char) : Bool :=
  inQuerySet c || c = '\''

/-- The characters that are encoded in a fragment. -/
def inFragmentSet (c : Char) : Bool :=
  inControlSet c || c = ' ' || c = '"' || c = '<' || c = '>' || c.toNat = 0x60

/-- The characters that are encoded in a path. -/
def inPathSet (c : Char) : Bool :=
  inQuerySet c || c.toNat = 0x60 || c = '?' || c = '^' || c = '\x7b' || c = '\x7d'

/-- The characters that are encoded in a path segment that is set on its own. -/
def inSegmentSet (c : Char) : Bool :=
  inPathSet c || c = '/' || c = '%'

/-- The characters that are encoded in such a segment where a backslash ends one, too. -/
def inSpecialSegmentSet (c : Char) : Bool :=
  inSegmentSet c || c = '\\'

/-- The characters that are encoded in a user name or password. -/
def inUserinfoSet (c : Char) : Bool :=
  inPathSet c || c = '/' || c = ':' || c = ';' || c = '=' || c = '@' || c = '[' || c = '\\' ||
    c = ']' || c = '|'

/-- The text with the characters of a set encoded. -/
def percentEncode (inSet : Char → Bool) (cs : List Char) : List Char :=
  cs.flatMap fun c => if inSet c then (Utf8.encodeChar c).flatMap encodeOctet else [c]

/-- The value of an octet that is a hexadecimal digit. -/
def hexOctet? (b : UInt8) : Option Nat :=
  Ascii.hexValue? (Char.ofNat b.toNat)

/-- The octets with every encoded one decoded; a percent sign that encodes nothing stays. -/
def percentDecode : Bytes → Bytes
  | [] => []
  | 0x25 :: h :: l :: rest =>
    match hexOctet? h, hexOctet? l with
    | some a, some b => UInt8.ofNat (a * 16 + b) :: percentDecode rest
    | _, _ => 0x25 :: percentDecode (h :: l :: rest)
  | b :: rest => b :: percentDecode rest
termination_by bs => bs.length

/-- What a text stands for, its encoded octets decoded. -/
def decoded? (cs : List Char) : Option (List Char) :=
  Utf8.decode? (percentDecode (Utf8.encode cs))

end HostWatch.Url
