import HostWatch.Toml.Basic

/-!
# Numbers and dates of TOML

Whole numbers in four bases, floating-point numbers, dates and times. Digits may be
parted by single underscores. A whole number must fit into 64 bits, a floating-point
number must not be larger than every finite one, and a date must be one of the
calendar.
-/

namespace HostWatch.Toml

/-- A digit of a base. -/
def isDigitIn (base : Nat) (c : Char) : Bool :=
  (Ascii.hexValue? c).any (· < base)

/-- One or more digits parted by single underscores, which are dropped. -/
def digitsIn (base : Nat) : List Char → Option (List Char × List Char)
  | [] => none
  | c :: rest =>
    if isDigitIn base c then
      match rest with
      | '_' :: more => (digitsIn base more).map fun (ds, r) => (c :: ds, r)
      | d :: more =>
        if isDigitIn base d then (digitsIn base (d :: more)).map fun (ds, r) => (c :: ds, r)
        else some ([c], d :: more)
      | [] => some ([c], [])
    else none

/-- The number that digits of a base stand for. -/
def valueIn (base : Nat) (ds : List Char) : Nat :=
  ds.foldl (fun n c => n * base + (Ascii.hexValue? c).getD 0) 0

/-- A whole number, if it fits into 64 bits. -/
def fits? (z : Int) : Option Int :=
  if Int64.minValue.toInt ≤ z ∧ z ≤ Int64.maxValue.toInt then some z else none

/-- Decimal digits without a leading zero, behind at most one sign; says whether it is a minus. -/
def decimal (cs : List Char) : Option (Bool × List Char × List Char) :=
  let (negative, rest) := match cs with
    | '-' :: rest => (true, rest)
    | '+' :: rest => (false, rest)
    | rest => (false, rest)
  match rest with
  | '0' :: after => some (negative, ['0'], after)
  | rest => (digitsIn 10 rest).map fun (ds, r) => (negative, ds, r)

/-- Read a whole number. -/
def integer : Scanner Value
  | '0' :: 'x' :: rest => based 16 rest
  | '0' :: 'o' :: rest => based 8 rest
  | '0' :: 'b' :: rest => based 2 rest
  | cs => do
    let (negative, ds, rest) ← decimal cs
    let n : Int := valueIn 10 ds
    return (.integer (← fits? (if negative then -n else n)), rest)
where
  /-- Read the digits of a base other than ten. -/
  based (base : Nat) (cs : List Char) : Option (Value × List Char) := do
    let (ds, rest) ← digitsIn base cs
    return (.integer (← fits? (valueIn base ds)), rest)

/-- The exponent of a floating-point number and its sign. -/
def exponent (cs : List Char) : Option (Int × List Char) :=
  match cs with
  | e :: rest =>
    if e = 'e' ∨ e = 'E' then do
      let (negative, rest) := match rest with
        | '-' :: rest => (true, rest)
        | '+' :: rest => (false, rest)
        | rest => (false, rest)
      let (ds, rest) ← digitsIn 10 rest
      let n : Int := valueIn 10 ds
      return (if negative then -n else n, rest)
    else none
  | [] => none

/-- Whether `ds · 10^e` rounds to infinity. -/
def overflows (ds : List Char) (e : Int) : Bool :=
  let n := valueIn 10 ds
  let size : Int := (Decimal.digits n).length + e
  if n = 0 ∨ size < 300 then false
  else if 400 < size then true
  else
    let limit := Nat.pow 2 1024 - Nat.pow 2 970
    if 0 ≤ e then decide (limit ≤ n * Nat.pow 10 e.natAbs) else decide (limit * Nat.pow 10 e.natAbs ≤ n)

/-- Read a floating-point number. -/
def float : Scanner Value := fun cs =>
  let unsigned := match cs with
    | '-' :: rest => rest
    | '+' :: rest => rest
    | rest => rest
  match unsigned with
  | 'i' :: 'n' :: 'f' :: rest => some (.float (cs.take (cs.length - rest.length)), rest)
  | 'n' :: 'a' :: 'n' :: rest => some (.float (cs.take (cs.length - rest.length)), rest)
  | _ => do
    let (negative, whole, rest) ← decimal cs
    let (fraction, e, rest) ← match rest with
      | '.' :: rest => do
        let (fraction, rest) ← digitsIn 10 rest
        match exponent rest with
        | some (e, rest) => some (fraction, e, rest)
        | none => some (fraction, 0, rest)
      | rest => (exponent rest).map fun (e, rest) => ([], e, rest)
    if !negative && overflows (whole ++ fraction) (e - fraction.length) then none
    else some (.float (cs.take (cs.length - rest.length)), rest)

/-! ### Dates and times -/

/-- The number that `n` decimal digits in front stand for. -/
def fixedDigits (n : Nat) (cs : List Char) : Option (Nat × List Char) :=
  let ds := cs.take n
  if ds.length = n ∧ ds.all Decimal.isDigit then some (valueIn 10 ds, cs.drop n) else none

/-- What follows a character that must be in front. -/
def expectChar (c : Char) (cs : List Char) : Option (List Char) :=
  if cs.head? = some c then some (cs.drop 1) else none

/-- How many days a month has. -/
def daysIn (year month : Nat) : Nat :=
  if month = 2 then
    if (year % 4 = 0 ∧ year % 100 ≠ 0) ∨ year % 400 = 0 then 29 else 28
  else if month = 4 ∨ month = 6 ∨ month = 9 ∨ month = 11 then 30
  else 31

/-- Pass over a date of the calendar. -/
def date (cs : List Char) : Option (List Char) := do
  let (year, rest) ← fixedDigits 4 cs
  let (month, rest) ← fixedDigits 2 (← expectChar '-' rest)
  let (day, rest) ← fixedDigits 2 (← expectChar '-' rest)
  if 1 ≤ month ∧ month ≤ 12 ∧ 1 ≤ day ∧ day ≤ daysIn year month then some rest else none

/-- Pass over a time of day; a leap second counts. -/
def time (cs : List Char) : Option (List Char) := do
  let (hour, rest) ← fixedDigits 2 cs
  let (minute, rest) ← fixedDigits 2 (← expectChar ':' rest)
  let (second, rest) ← fixedDigits 2 (← expectChar ':' rest)
  if 23 < hour ∨ 59 < minute ∨ 60 < second then none
  else
    match rest with
    | '.' :: d :: more =>
      if Decimal.isDigit d then some (more.dropWhile Decimal.isDigit) else some rest
    | rest => some rest

/-- Pass over the distance from universal time, if one follows. -/
def offset (cs : List Char) : Option (List Char) :=
  match cs with
  | 'Z' :: rest => some rest
  | 'z' :: rest => some rest
  | s :: rest =>
    if s = '+' ∨ s = '-' then do
      let (hour, rest) ← fixedDigits 2 rest
      let (minute, rest) ← fixedDigits 2 (← expectChar ':' rest)
      if 23 < hour ∨ 59 < minute then none else some rest
    else some cs
  | [] => some []

/-- Read a date, a time, or both. -/
def dateTime : Scanner Value := fun cs => do
  let rest ← match date cs with
    | some rest =>
      match rest with
      | d :: more =>
        if d = 'T' ∨ d = 't' ∨ d = ' ' then
          match time more with
          | some rest => offset rest
          | none => some rest
        else some rest
      | [] => some []
    | none => time cs
  return (.dateTime (cs.take (cs.length - rest.length)), rest)

/-- Read a date, a time or a number. -/
def numeral : Scanner Value := fun cs =>
  match dateTime cs with
  | some result => some result
  | none =>
    match float cs with
    | some result => some result
    | none => integer cs

end HostWatch.Toml
