import HostWatch.Http.Message

/-!
# Request targets

What stands between method and version in a request line: a path with a query, an
absolute URI, the authority of a server, or an asterisk. Only the path matters to a
service. A fragment is cut off. Blanks, control characters and a few others have to
be percent-encoded and are refused as they are; quotes and braces pass in a path,
since some clients put bare JSON there.
-/

namespace HostWatch.Http

/-- The target of a request. -/
structure RequestTarget where
  /-- The path; empty if the target names an authority only. -/
  path : Bytes
  /-- The query, without its question mark. -/
  query : Option Bytes := none
  deriving DecidableEq, Repr

namespace RequestTarget

/-- The octet of an ASCII character. -/
def octet (c : Char) : UInt8 :=
  UInt8.ofNat c.toNat

/-- Whether an octet is that of one of some ASCII characters. -/
def isOneOf (cs : String) (b : UInt8) : Bool :=
  cs.toList.any fun c => b = octet c

/-- An octet of an ASCII letter or digit. -/
def isAlphanumeric (b : UInt8) : Bool :=
  (octet '0' ≤ b && b ≤ octet '9') || (octet 'A' ≤ b && b ≤ octet 'Z') ||
    (octet 'a' ≤ b && b ≤ octet 'z')

/-- The octets in front of the first mark, and those behind it if there is one. -/
def cut (mark : Char) (bs : Bytes) : Bytes × Option Bytes :=
  match bs.dropWhile (· ≠ octet mark) with
  | [] => (bs, none)
  | _ :: rest => (bs.takeWhile (· ≠ octet mark), some rest)

/-- An octet that a path may have. -/
def inPath (b : UInt8) : Bool :=
  0x21 ≤ b && b ≠ 0x60 && !isOneOf "<>" b

/-- An octet that a query may have. -/
def inQuery (b : UInt8) : Bool :=
  0x21 ≤ b && !isOneOf "\"<>" b

/-- Read a path with a query. -/
def pathAndQuery? (bs : Bytes) : Option RequestTarget :=
  let bs := (cut '#' bs).1
  let (path, query) := cut '?' bs
  if path.all inPath && (query.getD []).all inQuery && (Utf8.decode? bs).isSome then
    some ⟨if path = [] then [octet '/'] else path, query⟩
  else none

/-! ### Authorities -/

/-- An octet that an authority may have anywhere. -/
def inAuthority (b : UInt8) : Bool :=
  isAlphanumeric b || isOneOf "!$&'()*+,-.;=_~" b

/-- What has been seen of an authority. -/
structure AuthorityScan where
  /-- Colons since the user's name or the address in brackets. -/
  colons : Nat := 0
  /-- Whether a bracket has been opened. -/
  opened : Bool := false
  /-- Whether a bracket has been closed. -/
  closed : Bool := false
  /-- Whether there was a percent sign since the user's name or the address in brackets. -/
  percent : Bool := false
  deriving DecidableEq, Repr

/-- See one more octet of an authority. -/
def AuthorityScan.see (s : AuthorityScan) (b : UInt8) : Option AuthorityScan :=
  if b = octet ':' then if s.colons < 8 then some { s with colons := s.colons + 1 } else none
  else if b = octet '[' then if s.percent || s.opened then none else some { s with opened := true }
  else if b = octet ']' then
    if !s.opened || s.closed then none
    else some { s with closed := true, colons := 0, percent := false }
  else if b = octet '@' then some { s with colons := 0, percent := false }
  else if b = octet '%' then some { s with percent := true }
  else if inAuthority b then some s
  else none

/-- Whether octets are an authority. -/
def isAuthority (bs : Bytes) : Bool :=
  (bs.foldlM AuthorityScan.see {}).any fun s =>
    s.opened = s.closed && s.colons ≤ 1 && !s.percent && bs.getLast? ≠ some (octet '@')

/-- Split an authority, not empty, from what follows it. -/
def splitAuthority? (bs : Bytes) : Option (Bytes × Bytes) :=
  let authority := bs.takeWhile (!isOneOf "/?#" ·)
  if authority ≠ [] ∧ isAuthority authority then
    some (authority, bs.dropWhile (!isOneOf "/?#" ·))
  else none

/-! ### Schemes -/

/-- An octet that a scheme may have. -/
def inScheme (b : UInt8) : Bool :=
  isAlphanumeric b || isOneOf "+-.~" b

/-- The scheme in front of a colon and two slashes, and what follows them. -/
def splitScheme? (bs : Bytes) : Option (Bytes × Bytes) :=
  match bs.dropWhile inScheme with
  | c :: d :: e :: rest =>
    if c = octet ':' ∧ d = octet '/' ∧ e = octet '/' then some (bs.takeWhile inScheme, rest)
    else none
  | _ => none

/-- The greatest length of a target. -/
def maxLength : Nat := 65534

/-- The greatest length of a scheme. -/
def maxSchemeLength : Nat := 64

/-- Read the target of a request. -/
def parse? (bs : Bytes) : Option RequestTarget :=
  if maxLength < bs.length then none
  else if bs = [octet '*'] then some { path := bs }
  else if bs.head? = some (octet '/') then pathAndQuery? bs
  else
    match splitScheme? bs with
    | some (scheme, rest) =>
      if maxSchemeLength < scheme.length then none
      else (splitAuthority? rest).bind fun (_, rest) => pathAndQuery? rest
    | none =>
      match splitAuthority? bs with
      | some (_, []) => some { path := [] }
      | _ => none

end RequestTarget

end HostWatch.Http
