import HostWatch.Url.Address

/-!
# Socket addresses

An internet address with a port, as it is given in settings: four decimal octets and
a port, or an address of 128 bits between brackets, perhaps with the number of a
scope, and a port. Octets have no leading zeros; ports and scopes may.
-/

namespace HostWatch

/-- An internet address with a port. -/
inductive SocketAddress where
  /-- An address of 32 bits. -/
  | v4 (address : Url.Ipv4) (port : UInt16)
  /-- An address of 128 bits. -/
  | v6 (address : Url.Ipv6) (scope : UInt32) (port : UInt16)
  deriving DecidableEq

namespace SocketAddress

/-- What follows a character that must be in front. -/
def expect (c : Char) : List Char → Option (List Char)
  | d :: rest => if d = c then some rest else none
  | [] => none

/-- An octet of at most three digits without a leading zero. -/
def octet (cs : List Char) : Option (UInt8 × List Char) :=
  let ds := cs.takeWhile Decimal.isDigit
  let n := Decimal.valueFrom 0 ds
  if ds = [] ∨ 3 < ds.length ∨ (ds.head? = some '0' ∧ 1 < ds.length) ∨ 255 < n then none
  else some (UInt8.ofNat n, cs.dropWhile Decimal.isDigit)

/-- Four octets with points between them. -/
def ipv4 (cs : List Char) : Option (Url.Ipv4 × List Char) := do
  let (a, rest) ← octet cs
  let (b, rest) ← octet (← expect '.' rest)
  let (c, rest) ← octet (← expect '.' rest)
  let (d, rest) ← octet (← expect '.' rest)
  return (⟨a, b, c, d⟩, rest)

/-- A group of at most four hexadecimal digits. -/
def group (cs : List Char) : Option (UInt16 × List Char) :=
  let ds := cs.takeWhile Ascii.isHexDigit
  if ds = [] ∨ 4 < ds.length then none
  else
    let n := ds.foldl (fun n c => n * 16 + (Ascii.hexValue? c).getD 0) 0
    some (UInt16.ofNat n, cs.dropWhile Ascii.isHexDigit)

/-- Up to `limit` groups with colons between them, the last two perhaps as four octets; says whether they
are. -/
def groups (first : Bool) : Nat → List Char → List UInt16 × Bool × List Char
  | 0, cs => ([], false, cs)
  | limit + 1, cs =>
    match if first then some cs else expect ':' cs with
    | none => ([], false, cs)
    | some rest =>
      match if limit = 0 then none else ipv4 rest with
      | some (x, rest) =>
        ([UInt16.ofNat (x.a.toNat * 256 + x.b.toNat), UInt16.ofNat (x.c.toNat * 256 + x.d.toNat)],
          true, rest)
      | none =>
        match group rest with
        | none => ([], false, cs)
        | some (g, rest) =>
          let (gs, embedded, rest) := groups false limit rest
          (g :: gs, embedded, rest)

/-- An address of 128 bits. -/
def ipv6 (cs : List Char) : Option (Url.Ipv6 × List Char) := do
  let (head, embedded, rest) := groups true 8 cs
  if h : head.length = 8 then some (⟨head, h⟩, rest)
  else if embedded then none
  else
    let rest ← expect ':' (← expect ':' rest)
    let (tail, _, rest) := groups true (7 - head.length) rest
    let pieces := head ++ List.replicate (8 - head.length - tail.length) 0 ++ tail
    if h : pieces.length = 8 then some (⟨pieces, h⟩, rest) else none

/-- A number of one or more digits up to `most`. -/
def bounded (most : Nat) (cs : List Char) : Option (Nat × List Char) :=
  let ds := cs.takeWhile Decimal.isDigit
  let n := Decimal.valueFrom 0 ds
  if ds = [] ∨ most < n then none else some (n, cs.dropWhile Decimal.isDigit)

/-- The number of a scope behind a percent sign, 0 if there is none. -/
def scope (cs : List Char) : Nat × List Char :=
  match (expect '%' cs).bind (bounded 4294967295) with
  | some result => result
  | none => (0, cs)

/-- The port behind a colon, up to the end. -/
def port? (cs : List Char) : Option UInt16 := do
  let (n, rest) ← bounded 65535 (← expect ':' cs)
  if rest = [] then some (UInt16.ofNat n) else none

/-- The socket address that a text stands for. -/
def read? (cs : List Char) : Option SocketAddress :=
  match cs with
  | '[' :: rest => do
    let (address, rest) ← ipv6 rest
    let (scope, rest) := scope rest
    return .v6 address (UInt32.ofNat scope) (← port? (← expect ']' rest))
  | cs => do
    let (address, rest) ← ipv4 cs
    return .v4 address (← port? rest)

/-- Whether every machine has the address: it stands for the machine itself or for all its addresses. -/
def isOwn : SocketAddress → Bool
  | .v4 a _ => a.text.take 4 = "127.".toList || a.text = "0.0.0.0".toList
  | .v6 a _ _ => a.text = "::".toList || a.text = "::1".toList

/-- The port behind the name that every machine has for itself. -/
def ownNamePort? (cs : List Char) : Option Nat :=
  let name := "localhost:".toList
  if name.isPrefixOf cs then
    match Decimal.int? (cs.drop name.length) with
    | some (.ofNat n) => if n ≤ 65535 then some n else none
    | _ => none
  else none

/-- Whether a text names an address that every machine has. -/
def namesOwn (s : String) : Bool :=
  (read? s.toList).any isOwn || (ownNamePort? s.toList).isSome

end SocketAddress

end HostWatch
