import HostWatch.Json.Scan
import HostWatch.Keyed

/-!
# Reading JSON

A `Reader` takes a value of one type from the front of the octets. Readers of
strings, integers, lists, maps and records are built here from the pieces of
`Json/Scan`, and `decode` runs one over a whole text. Reading goes from left to
right and stops at the first fault.

A record is read from an object, whose members may come in any order and among
others that are passed over, or from an array that holds its fields in order.
A field that comes twice is a mismatch as soon as its second key is read.
-/

namespace HostWatch.Json

/-- Take a value from the front of the octets. -/
abbrev Reader (α : Type) := Bytes → Except Fault (α × Bytes)

/-- The fault of a value of another type than the one due, which is read as far as its first piece. -/
def wrongType (bs : Bytes) : Fault :=
  let scanned : Except Fault Unit := match bs with
    | 0x6E :: _ => (expect wordNull bs).map fun _ => ()
    | 0x74 :: _ => (expect wordTrue bs).map fun _ => ()
    | 0x66 :: _ => (expect wordFalse bs).map fun _ => ()
    | 0x22 :: rest => (stringBody rest).map fun _ => ()
    | 0x5B :: _ => .ok ()
    | 0x7B :: _ => .ok ()
    | 0x2D :: _ => (number bs).map fun _ => ()
    | d :: _ => if isDigit d then (number bs).map fun _ => () else .error .malformed
    | [] => .error .truncated
  match scanned with
  | .ok () => .mismatched
  | .error fault => fault

/-- Read a string. -/
def string : Reader String := fun bs =>
  match skipBlank bs with
  | [] => .error .truncated
  | 0x22 :: rest => stringBody rest
  | bs => .error (wrongType bs)

/-- Read a whole number between `low` and `high`. -/
def integer (low high : Int) : Reader Int := fun bs =>
  let bs := skipBlank bs
  match bs with
  | [] => .error .truncated
  | b :: _ =>
    if b = 0x2D ∨ isDigit b then do
      match ← number bs with
      | (.integer z, rest) => if low ≤ z ∧ z ≤ high then return (z, rest) else throw .mismatched
      | (.real _, _) => throw .mismatched
    else .error (wrongType bs)

/-- Read a signed number of 64 bits. -/
def int64 : Reader Int64 := fun bs =>
  (integer Int64.minValue.toInt Int64.maxValue.toInt bs).map fun (z, rest) => (Int64.ofInt z, rest)

/-- Read an octet. -/
def octet : Reader UInt8 := fun bs =>
  (integer 0 255 bs).map fun (z, rest) => (UInt8.ofNat z.toNat, rest)

/-- Read what `item` reads, or `null`. -/
def nullable {α : Type} (item : Reader α) : Reader (Option α) := fun bs =>
  match skipBlank bs with
  | 0x6E :: rest => (expect wordNull (0x6E :: rest)).map (none, ·)
  | bs => (item bs).map fun (a, rest) => (some a, rest)

/-! ### Arrays -/

/-- Come to the next element of an array, or say that the array ends and pass over its end. -/
def nextElement (first : Bool) (bs : Bytes) : Except Fault (Option Bytes × Bytes) :=
  match skipBlank bs with
  | [] => .error .truncated
  | 0x5D :: rest => .ok (none, rest)
  | b :: rest =>
    if first then .ok (some (b :: rest), [])
    else if b = 0x2C then
      match skipBlank rest with
      | [] => .error .truncated
      | 0x5D :: _ => .error .malformed
      | rest => .ok (some rest, [])
    else .error .malformed

/-- Read the elements of an array up to its end, at most `fuel` of them. -/
def elements {α : Type} (item : Reader α) : Nat → Bool → Reader (List α)
  | 0, _, _ => .error .truncated
  | fuel + 1, first, bs => do
    match ← nextElement first bs with
    | (none, rest) => return ([], rest)
    | (some bs, _) =>
      let (a, rest) ← item bs
      let (more, rest) ← elements item fuel false rest
      return (a :: more, rest)

/-- Read a list. -/
def list {α : Type} (item : Reader α) : Reader (List α) := fun bs =>
  match skipBlank bs with
  | [] => .error .truncated
  | 0x5B :: rest => elements item (rest.length + 1) true rest
  | bs => .error (wrongType bs)

/-! ### Objects -/

/-- Pass over the colon after a key. -/
def colon (bs : Bytes) : Except Fault Bytes :=
  match skipBlank bs with
  | [] => .error .truncated
  | 0x3A :: rest => .ok rest
  | _ => .error .malformed

/-- Come to the key of the next member of an object, or say that the object ends and pass over its end. -/
def nextKey (first : Bool) (bs : Bytes) : Except Fault (Option String × Bytes) :=
  match skipBlank bs with
  | [] => .error .truncated
  | 0x7D :: rest => .ok (none, rest)
  | b :: rest => do
    let bs ← if first then pure (b :: rest)
      else if b = 0x2C then
        match skipBlank rest with
        | [] => throw .truncated
        | bs => pure bs
      else throw .malformed
    match bs with
    | 0x22 :: rest => return (← stringBody rest).map some id
    | _ => throw .malformed

/-- Read the members of an object up to its end; `member` goes on after a key. -/
def members {σ : Type} (member : String → σ → Reader σ) : Nat → Bool → σ → Reader σ
  | 0, _, _, _ => .error .truncated
  | fuel + 1, first, acc, bs => do
    match ← nextKey first bs with
    | (none, rest) => return (acc, rest)
    | (some key, rest) =>
      let (acc, rest) ← member key acc rest
      members member fuel false acc rest

/-- Read an object whose members are all of one type. -/
def map {α : Type} (item : Reader α) : Reader (List (String × α)) := fun bs =>
  match skipBlank bs with
  | [] => .error .truncated
  | 0x7B :: rest =>
    members (fun key acc bs => do
      let (a, rest) ← item (← colon bs)
      return (Keyed.insert key a acc, rest)) (rest.length + 1) true [] rest
  | bs => .error (wrongType bs)

/-! ### Records -/

/-- Pass over a member that no field is named for. -/
def skipMember {σ : Type} (acc : σ) : Reader σ := fun bs => do
  return (acc, ← skipValue (← colon bs))

/-- Read a field that has not been read before. -/
def field {α : Type} (seen : Option α) (item : Reader α) : Reader (Option α) := fun bs => do
  if seen.isSome then throw .mismatched
  let (a, rest) ← item (← colon bs)
  return (some a, rest)

/-- Pass over the end of an array that holds the fields of a record. -/
def closeFields (bs : Bytes) : Except Fault Bytes :=
  match skipBlank bs with
  | [] => .error .truncated
  | 0x5D :: rest => .ok rest
  | _ => .error .malformed

/-- Read a record with one field. -/
def record {α : Type} (name : String) (item : Reader α) : Reader α := fun bs =>
  match skipBlank bs with
  | [] => .error .truncated
  | 0x7B :: rest => do
    let (seen, rest) ← members
      (fun key seen bs => if key = name then field seen item bs else skipMember seen bs)
      (rest.length + 1) true none rest
    match seen with
    | some a => return (a, rest)
    | none => throw .mismatched
  | 0x5B :: rest => do
    match ← nextElement true rest with
    | (none, _) => throw .mismatched
    | (some bs, _) =>
      let (a, rest) ← item bs
      return (a, ← closeFields rest)
  | bs => .error (wrongType bs)

/-- Read a record with two fields, the second of which may be missing or `null`. -/
def recordWithOption {α β : Type} (name : String) (item : Reader α) (name' : String)
    (item' : Reader β) : Reader (α × Option β) := fun bs =>
  match skipBlank bs with
  | [] => .error .truncated
  | 0x7B :: rest => do
    let ((seen, seen'), rest) ← members
      (fun key (seen : Option α × Option (Option β)) bs =>
        if key = name then
          (field seen.1 item bs).map fun (a, rest) => ((a, seen.2), rest)
        else if key = name' then
          (field seen.2 (nullable item') bs).map fun (b, rest) => ((seen.1, b), rest)
        else skipMember seen bs)
      (rest.length + 1) true (none, none) rest
    match seen with
    | some a => return ((a, seen'.join), rest)
    | none => throw .mismatched
  | 0x5B :: rest => do
    match ← nextElement true rest with
    | (none, _) => throw .mismatched
    | (some bs, _) =>
      let (a, rest) ← item bs
      match ← nextElement false rest with
      | (none, rest) => return ((a, none), rest)
      | (some bs, _) =>
        let (b, rest) ← nullable item' bs
        return ((a, b), ← closeFields rest)
  | bs => .error (wrongType bs)

/-! ### Values -/

/-- Read any value whose arrays and objects are nested at most `depth` deep. -/
def value : Nat → Reader Value
  | depth, bs =>
    match skipBlank bs with
    | [] => .error .truncated
    | 0x6E :: rest => (expect wordNull (0x6E :: rest)).map (.null, ·)
    | 0x74 :: rest => (expect wordTrue (0x74 :: rest)).map (.bool true, ·)
    | 0x66 :: rest => (expect wordFalse (0x66 :: rest)).map (.bool false, ·)
    | 0x22 :: rest => (stringBody rest).map fun (s, rest) => (.string s, rest)
    | 0x5B :: rest =>
      match depth with
      | 0 => .error .malformed
      | depth + 1 =>
        (elements (value depth) (rest.length + 1) true rest).map fun (items, rest) =>
          (.array items, rest)
    | 0x7B :: rest =>
      match depth with
      | 0 => .error .malformed
      | depth + 1 =>
        (members (fun key acc bs => do
          let (a, rest) ← value depth (← colon bs)
          return (Keyed.insert key a acc, rest)) (rest.length + 1) true [] rest).map
            fun (ms, rest) => (.object ms, rest)
    | b :: rest =>
      if b = 0x2D ∨ isDigit b then
        (number (b :: rest)).map fun (n, rest) => (.number n, rest)
      else .error .malformed

/-- How deep arrays and objects may be nested in a value. -/
def maxDepth : Nat := 127

/-- Read any value. -/
def anyValue : Reader Value := value maxDepth

/-- The value of a whole text, blanks around it allowed. -/
def decode {α : Type} (item : Reader α) (bs : Bytes) : Except Fault α := do
  let (a, rest) ← item bs
  if skipBlank rest = [] then return a else throw .malformed

end HostWatch.Json
