import HostWatch.Url.Path

/-!
# Parsing URLs

`Url.parse` reads a text as an absolute URL. Blanks and control characters around it
are dropped, tabs and line breaks inside it are passed over. What follows the scheme
depends on its kind: user, host and port for special schemes, however many slashes
stand in front of them; a host or a path for files; either of them, or a text, for
any other scheme. How a domain name is brought into ASCII is given from outside.
-/

namespace HostWatch.Url

/-- Bring a domain name into the ASCII form in which it is compared, if it is valid. -/
abbrev DomainToAscii := List Char → Option (List Char)

/-- A control character or a blank. -/
def isControlOrSpace (c : Char) : Bool :=
  c.toNat ≤ 0x20

/-- A character that is passed over inside a URL. -/
def isPassedOver (c : Char) : Bool :=
  c = '\t' || c = '\n' || c = '\r'

/-- The text of a URL without what is dropped and passed over. -/
def clean (cs : List Char) : List Char :=
  let front := cs.dropWhile isControlOrSpace
  let trimmed := (front.reverse.dropWhile isControlOrSpace).reverse
  trimmed.filter fun c => !isPassedOver c

/-! ### Schemes -/

/-- A character of a scheme behind the first one. -/
def inScheme (c : Char) : Bool :=
  isLetter c || Decimal.isDigit c || c = '+' || c = '-' || c = '.'

/-- The scheme in lower case and what follows its colon. -/
def splitScheme? (cs : List Char) : Option (List Char × List Char) :=
  match cs with
  | [] => none
  | c :: _ =>
    if isLetter c then
      match cs.dropWhile inScheme with
      | ':' :: rest => some (Ascii.lower (cs.takeWhile inScheme), rest)
      | _ => none
    else none

/-! ### Hosts -/

/-- A character that ends the user, host and port. -/
def endsAuthority (kind : Kind) (c : Char) : Bool :=
  c = '/' || c = '?' || c = '#' || (c = '\\' && kind ≠ .plain)

/-- The address between brackets. -/
def bracketed (cs : List Char) : Except ParseError Host :=
  match cs.getLast?, Ipv6.read? cs.dropLast with
  | some ']', some address => .ok (.ipv6 address)
  | _, _ => .error .invalidIpv6

/-- The host that a domain name in ASCII stands for. -/
def nameHost (name : List Char) : Except ParseError Host :=
  if name = [] then .error .emptyHost
  else if Ipv4.endsInNumber name then
    match Ipv4.ofHost? name with
    | some address => .ok (.ipv4 address)
    | none => .error .invalidIpv4
  else .ok (.domain name)

/-- The host of a special URL or of a file. -/
def domainHost (toAscii : DomainToAscii) (cs : List Char) : Except ParseError Host :=
  match cs with
  | '[' :: rest => bracketed rest
  | cs =>
    match (decoded? cs).bind toAscii with
    | none => .error .invalidDomainName
    | some name => nameHost name

/-- A character that no host may have. -/
def isForbiddenInHost (c : Char) : Bool :=
  c = '\x00' || c = '\t' || c = '\n' || c = '\r' || "\x20#/:<>?@[\\]^|".toList.contains c

/-- The host of any other URL; an empty text is none. -/
def plainHost (cs : List Char) : Except ParseError (Option Host) :=
  match cs with
  | [] => .ok none
  | '[' :: rest => (bracketed rest).map some
  | cs =>
    if cs.any isForbiddenInHost then .error .invalidDomainCharacter
    else .ok (some (.domain (percentEncode inControlSet cs)))

/-- The host of a URL that is not a file. -/
def readHost (toAscii : DomainToAscii) (kind : Kind) (cs : List Char) :
    Except ParseError (Option Host) :=
  if kind = .plain then plainHost cs
  else if cs = [] then .error .emptyHost
  else (domainHost toAscii cs).map some

/-- The text of a host, up to a colon outside brackets, and what follows it. -/
def splitHost (inside : Bool) : List Char → List Char × List Char
  | [] => ([], [])
  | c :: cs =>
    if c = ':' ∧ !inside then ([], c :: cs)
    else
      let (host, rest) := splitHost (if c = '[' then true else if c = ']' then false else inside) cs
      (c :: host, rest)

/-! ### User, host and port -/

/-- The text before the last sign `@`, if there is one, and the text after it. -/
def splitUserinfo (cs : List Char) : Option (List Char) × List Char :=
  let after := (cs.reverse.takeWhile (· ≠ '@')).reverse
  if after.length < cs.length then (some (cs.take (cs.length - after.length - 1)), after)
  else (none, cs)

/-- The port that digits stand for; the default one of the scheme is left out. -/
def readPort (scheme digits : List Char) : Except ParseError (Option Nat) :=
  match digits with
  | [] => .ok none
  | digits =>
    let n := Decimal.valueFrom 0 digits
    if 65535 < n then .error .invalidPort
    else if defaultPort? scheme = some n then .ok none
    else .ok (some n)

/-- The user, host and port of a URL and the text of its path, query and fragment. -/
structure Authority where
  /-- The user name, encoded. -/
  username : List Char
  /-- The password, encoded. -/
  password : List Char
  /-- The host, if there is one. -/
  host : Option Host
  /-- The port, if it is given and not the default one. -/
  port : Option Nat
  /-- What follows. -/
  rest : List Char

/-- Fail where something holds. -/
def failIf (p : Prop) [Decidable p] (e : ParseError) : Except ParseError Unit :=
  if p then .error e else .ok ()

/-- Read the host and port of a URL; `given` says that a user stands in front of them. -/
def readHostPort (toAscii : DomainToAscii) (kind : Kind) (scheme : List Char) (given : Bool)
    (cs : List Char) : Except ParseError (Option Host × Option Nat × List Char) := do
  let (hostText, portText) := splitHost false cs
  let host ← readHost toAscii kind hostText
  failIf (host.isNone ∧ portText ≠ []) .emptyHost
  let afterColon := portText.drop 1
  let port ← readPort scheme (afterColon.takeWhile Decimal.isDigit)
  let left := afterColon.dropWhile Decimal.isDigit
  failIf (left ≠ [] ∧ left.head? ≠ some '\\') .invalidPort
  failIf (host.isNone ∧ given) .emptyHost
  return (host, port, left)

/-- Read the user, host and port of a URL from behind the two slashes. -/
def readAuthority (toAscii : DomainToAscii) (kind : Kind) (scheme cs : List Char) :
    Except ParseError Authority := do
  let here := cs.takeWhile fun c => !endsAuthority kind c
  let rest := cs.dropWhile fun c => !endsAuthority kind c
  let (userinfo, hostPort) := splitUserinfo here
  failIf (userinfo = some [] ∧ hostPort = [] ∧ rest ≠ []) .emptyHost
  let user := (userinfo.getD []).takeWhile (· ≠ ':')
  let pass := ((userinfo.getD []).dropWhile (· ≠ ':')).drop 1
  let given := user ≠ [] || pass ≠ []
  let (host, port, left) ← readHostPort toAscii kind scheme given hostPort
  return ⟨percentEncode inUserinfoSet user, percentEncode inUserinfoSet pass, host, port, left ++ rest⟩

/-! ### Path, query and fragment -/

/-- A character that ends a path. -/
def endsPath (c : Char) : Bool :=
  c = '?' || c = '#'

/-- The query and the fragment of a URL. -/
def readQueryFragment (kind : Kind) (cs : List Char) : Option (List Char) × Option (List Char) :=
  let inSet := if kind = .plain then inQuerySet else inSpecialQuerySet
  let fragment (cs : List Char) : Option (List Char) := match cs with
    | '#' :: rest => some (percentEncode inFragmentSet rest)
    | _ => none
  match cs with
  | '?' :: rest =>
    (some (percentEncode inSet (rest.takeWhile (· ≠ '#'))), fragment (rest.dropWhile (· ≠ '#')))
  | cs => (none, fragment cs)

/-- The segments that follow a host. -/
def readPathAfterHost (kind : Kind) (cs : List Char) : List (List Char) :=
  match kind, cs with
  | .plain, [] => []
  | _, [] => [[]]
  | kind, c :: rest => if endsSegment kind c then readPath kind rest else readPath kind (c :: rest)

/-- The URL of a special or any other scheme, from behind the two slashes. -/
def parseAfterSlashes (toAscii : DomainToAscii) (kind : Kind) (scheme cs : List Char) :
    Except ParseError Url := do
  let a ← readAuthority toAscii kind scheme cs
  let (query, fragment) := readQueryFragment kind (a.rest.dropWhile fun c => !endsPath c)
  let path := readPathAfterHost kind (a.rest.takeWhile fun c => !endsPath c)
  return ⟨scheme, a.username, a.password, a.host, a.port, .segments path, query, fragment⟩

/-! ### Files -/

/-- The host of a file, if it has one; the name of this machine counts as none. -/
def fileHost (toAscii : DomainToAscii) (cs : List Char) : Except ParseError (Option Host) :=
  if cs = [] then .ok none
  else (domainHost toAscii cs).map fun h => if h = .domain "localhost".toList then none else some h

/-- A slash in a file path. -/
def isSlash (c : Char) : Bool :=
  c = '/' || c = '\\'

/-- The host of a file and the text of its path, from behind the scheme. -/
def splitFile (toAscii : DomainToAscii) (here : List Char) :
    Except ParseError (Option Host × List Char) :=
  match here with
  | a :: b :: rest =>
    if isSlash a && isSlash b then
      let hostText := rest.takeWhile fun c => !isSlash c
      if isDriveLetter hostText then .ok (none, rest)
      else
        (fileHost toAscii hostText).map fun host =>
          (host, (rest.dropWhile fun c => !isSlash c).drop 1)
    else if isSlash a then .ok (none, b :: rest)
    else .ok (none, here)
  | [a] => .ok (none, if isSlash a then [] else here)
  | [] => .ok (none, [])

/-- The URL of a file, from behind its scheme. -/
def parseFile (toAscii : DomainToAscii) (cs : List Char) : Except ParseError Url := do
  let (query, fragment) := readQueryFragment .file (cs.dropWhile fun c => !endsPath c)
  let (host, path) ← splitFile toAscii (cs.takeWhile fun c => !endsPath c)
  let onDrive := entersDrive [] (splitSegments .file path)
  return ⟨"file".toList, [], [], if onDrive then none else host, none,
    .segments (readPath .file path), query, fragment⟩

/-! ### Whole URLs -/

/-- The URL of a scheme that is not special, from behind its colon. -/
def parsePlain (toAscii : DomainToAscii) (scheme cs : List Char) : Except ParseError Url :=
  match cs with
  | '/' :: '/' :: rest => parseAfterSlashes toAscii .plain scheme rest
  | cs =>
    let here := cs.takeWhile fun c => !endsPath c
    let (query, fragment) := readQueryFragment .plain (cs.dropWhile fun c => !endsPath c)
    let path : Path := match here with
      | '/' :: rest => .segments (readPath .plain rest)
      | here => .verbatim (percentEncode inControlSet here)
    .ok ⟨scheme, [], [], none, none, path, query, fragment⟩

/-- The URL that a text stands for. -/
def parse (toAscii : DomainToAscii) (cs : List Char) : Except ParseError Url :=
  match splitScheme? (clean cs) with
  | none => .error .noScheme
  | some (scheme, rest) =>
    match Kind.ofScheme scheme with
    | .file => parseFile toAscii rest
    | .special =>
      parseAfterSlashes toAscii .special scheme (rest.dropWhile isSlash)
    | .plain => parsePlain toAscii scheme rest

end HostWatch.Url
