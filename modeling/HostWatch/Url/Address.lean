import HostWatch.Text.Ascii
import HostWatch.Text.Decimal

/-!
# Internet addresses

Addresses of 32 and of 128 bits: their texts, and the notations in which a URL may
give them. A URL may write the four parts of a 32-bit address in octal or
hexadecimal, or put several parts into the last one.
-/

namespace HostWatch.Url

/-- An address of 32 bits. -/
structure Ipv4 where
  /-- The first octet. -/
  a : UInt8
  /-- The second octet. -/
  b : UInt8
  /-- The third octet. -/
  c : UInt8
  /-- The fourth octet. -/
  d : UInt8
  deriving DecidableEq, Repr

namespace Ipv4

/-- The address numbered `n`. -/
def ofNat (n : Nat) : Ipv4 :=
  ⟨UInt8.ofNat (n / 16777216), UInt8.ofNat (n / 65536), UInt8.ofNat (n / 256), UInt8.ofNat n⟩

/-- The four octets in decimal, with points between them. -/
def text (x : Ipv4) : List Char :=
  Decimal.digits x.a.toNat ++ '.' :: (Decimal.digits x.b.toNat ++ '.' ::
    (Decimal.digits x.c.toNat ++ '.' :: Decimal.digits x.d.toNat))

/-- A part of an address: its base and its digits. -/
def splitBase (cs : List Char) : Nat × List Char :=
  match cs with
  | '0' :: 'x' :: rest => (16, rest)
  | '0' :: 'X' :: rest => (16, rest)
  | '0' :: d :: rest => (8, d :: rest)
  | cs => (10, cs)

/-- The value of a digit in a base. -/
def digitIn? (base : Nat) (c : Char) : Option Nat :=
  (Ascii.hexValue? c).filter (· < base)

/-- The number that a part of an address stands for. -/
def number? (cs : List Char) : Option Nat :=
  if cs = [] then none
  else
    let (base, digits) := splitBase cs
    digits.foldlM (fun n c => (digitIn? base c).map (n * base + ·)) 0

/-- The parts of a host, an empty one at the end left out. -/
def parts (cs : List Char) : List (List Char) :=
  let all := cs.splitOn '.'
  if all.getLast? = some [] then all.dropLast else all

/-- Whether a host ends in a number, and so must be an address. -/
def endsInNumber (cs : List Char) : Bool :=
  match (cs.splitOn '.').reverse with
  | [] => false
  | [] :: [] => false
  | [] :: last :: _ => isNumber last
  | last :: _ => isNumber last
where
  /-- Whether a part is a number. -/
  isNumber (last : List Char) : Bool :=
    (last ≠ [] && last.all Decimal.isDigit) || (number? last).isSome

/-- The address that a host ending in a number stands for. -/
def ofHost? (cs : List Char) : Option Ipv4 := do
  let ps := parts cs
  if 4 < ps.length then none
  else
    let numbers ← ps.mapM number?
    let last ← numbers.getLast?
    let first := numbers.dropLast
    if first.any (255 < ·) || Nat.pow 256 (4 - first.length) ≤ last then none
    else
      let weighted := first.mapIdx fun i n => n * Nat.pow 256 (3 - i)
      return ofNat (weighted.foldl (· + ·) last)

end Ipv4

/-- An address of 128 bits: eight pieces of sixteen. -/
structure Ipv6 where
  /-- The pieces. -/
  pieces : List UInt16
  /-- There are eight of them. -/
  length_pieces : pieces.length = 8
  deriving DecidableEq

namespace Ipv6

/-- A number in lower-case hexadecimal, without leading zeros. -/
def hexDigits (n : Nat) : List Char :=
  if n < 16 then [Ascii.hexLower n] else hexDigits (n / 16) ++ [Ascii.hexLower (n % 16)]

/-- Pieces in hexadecimal, with colons between them. -/
def joinPieces (ps : List UInt16) : List Char :=
  List.intercalate [':'] (ps.map fun p => hexDigits p.toNat)

/-- How many pieces in front are zero. -/
def zerosInFront (ps : List UInt16) : Nat :=
  (ps.takeWhile (· = 0)).length

/-- The start and length of the first of the longest runs of zeros, counted from `i`. -/
def longestRun (i : Nat) : List UInt16 → Nat × Nat
  | [] => (i, 0)
  | p :: ps =>
    let here := zerosInFront (p :: ps)
    let (start, length) := longestRun (i + 1) ps
    if here ≠ 0 ∧ length ≤ here then (i, here) else (start, length)

/-- The pieces, the first of the longest runs of two or more zeros left out. -/
def compressed (ps : List UInt16) : List Char :=
  let (start, length) := longestRun 0 ps
  if 2 ≤ length then
    joinPieces (ps.take start) ++ ':' :: ':' :: joinPieces (ps.drop (start + length))
  else joinPieces ps

/-- The text of an address in a URL, without its brackets. -/
def text (x : Ipv6) : List Char :=
  compressed x.pieces

/-- The text of an address on its own: one that stands for a 32-bit address ends in that. -/
def plainText (x : Ipv6) : List Char :=
  match x.pieces with
  | [0, 0, 0, 0, 0, 0xFFFF, g, h] =>
    "::ffff:".toList ++ (Ipv4.ofNat (g.toNat * 65536 + h.toNat)).text
  | ps => compressed ps

/-- A decimal number of the 32-bit address at the end: below 256, without leading zeros. -/
def tailPart? : List Char → Option Nat
  | ['0'] => some 0
  | '0' :: _ => none
  | p => (Decimal.value? p).filter (· < 256)

/-- The four decimal numbers of the 32-bit address at the end. -/
def tailParts? (cs : List Char) : Option (List Nat) :=
  let ps := cs.splitOn '.'
  if ps.length ≠ 4 then none else ps.mapM tailPart?

/-- Read the pieces after those read already; `run` is where a run of zeros was left out. -/
def readPieces (done : List UInt16) (run : Option Nat) (cs : List Char) :
    Option (List UInt16 × Option Nat) :=
  match cs with
  | [] => some (done, run)
  | ':' :: rest =>
    if done.length = 8 ∨ run.isSome then none
    else readPieces (done ++ [0]) (some (done.length + 1)) rest
  | c :: rest =>
    let digits := ((c :: rest).take 4).takeWhile Ascii.isHexDigit
    let value := digits.foldl (fun n d => n * 16 + (Ascii.hexValue? d).getD 0) 0
    if done.length = 8 ∨ digits = [] then none
    else
      match _h : (c :: rest).drop digits.length with
      | [] => some (done ++ [UInt16.ofNat value], run)
      | '.' :: _ =>
        if 6 < done.length then none
        else
          match tailParts? (c :: rest) with
          | some [p, q, r, s] =>
            some (done ++ [UInt16.ofNat (p * 256 + q), UInt16.ofNat (r * 256 + s)], run)
          | _ => none
      | ':' :: after =>
        if after = [] then none else readPieces (done ++ [UInt16.ofNat value]) run after
      | _ => none
termination_by cs.length
decreasing_by
  · simp
  · have := congrArg List.length ‹_ = ':' :: after›
    simp only [List.length_drop, List.length_cons] at this ⊢
    omega

/-- The pieces with the run of zeros put back. -/
def expand (ps : List UInt16) : Option Nat → List UInt16
  | none => ps
  | some k => ps.take k ++ List.replicate (8 - ps.length) 0 ++ ps.drop k

/-- Read a text; one colon may stand in front only with a second one. -/
def readAll? : List Char → Option (List UInt16 × Option Nat)
  | ':' :: ':' :: rest => readPieces [0] (some 1) rest
  | ':' :: _ => none
  | [] => none
  | cs => readPieces [] none cs

/-- The address that a text between brackets stands for. -/
def read? (cs : List Char) : Option Ipv6 := do
  let (ps, run) ← readAll? cs
  let ps := expand ps run
  if h : ps.length = 8 then some ⟨ps, h⟩ else none

end Ipv6

end HostWatch.Url
