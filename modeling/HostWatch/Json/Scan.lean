import HostWatch.Json.Basic

/-!
# Scanning JSON

The smallest pieces of a JSON text, each a function from the octets at hand to
what was read and the octets after it: blanks, the words `null`, `true` and
`false`, strings and numbers. Strings are gathered octet by octet and checked to
be UTF-8 once their closing quote has been seen.

`skipString`, `skipNumber` and `skipValue` pass over a value that nobody asked for.
They look at its shape only, so a lone surrogate or an octet that is not UTF-8
passes, values may be nested to any depth, and a number that breaks off is
malformed.
-/

namespace HostWatch.Json

/-- An octet that may stand between the pieces of a text. -/
def isBlank (b : UInt8) : Bool :=
  b = 0x20 || b = 0x0A || b = 0x09 || b = 0x0D

/-- Drop the blanks in front. -/
def skipBlank (bs : Bytes) : Bytes :=
  bs.dropWhile isBlank

/-- A decimal digit. -/
def isDigit (b : UInt8) : Bool :=
  0x30 ≤ b && b ≤ 0x39

/-- The number of a decimal digit. -/
def digitValue (b : UInt8) : Nat :=
  b.toNat - 0x30

/-- Pass over the given octets. -/
def expect : Bytes → Bytes → Except Fault Bytes
  | [], bs => .ok bs
  | _ :: _, [] => .error .truncated
  | w :: ws, b :: bs => if w = b then expect ws bs else .error .malformed

/-- The word `null`. -/
def wordNull : Bytes := [0x6E, 0x75, 0x6C, 0x6C]

/-- The word `true`. -/
def wordTrue : Bytes := [0x74, 0x72, 0x75, 0x65]

/-- The word `false`. -/
def wordFalse : Bytes := [0x66, 0x61, 0x6C, 0x73, 0x65]

/-! ### Strings -/

/-- The value of a hexadecimal digit, in either case. -/
def hexValue? (b : UInt8) : Option Nat :=
  if 0x30 ≤ b ∧ b ≤ 0x39 then some (b.toNat - 0x30)
  else if 0x61 ≤ b ∧ b ≤ 0x66 then some (b.toNat - 0x57)
  else if 0x41 ≤ b ∧ b ≤ 0x46 then some (b.toNat - 0x37)
  else none

/-- The number that four hexadecimal digits stand for. -/
def hex4 : Bytes → Except Fault (Nat × Bytes)
  | a :: b :: c :: d :: rest =>
    match hexValue? a, hexValue? b, hexValue? c, hexValue? d with
    | some a, some b, some c, some d => .ok (((a * 16 + b) * 16 + c) * 16 + d, rest)
    | _, _, _, _ => .error .malformed
  | _ => .error .truncated

/-- What follows four digits is shorter. -/
theorem length_of_hex4 {bs rest : Bytes} {n : Nat} (h : hex4 bs = .ok (n, rest)) :
    rest.length < bs.length := by
  unfold hex4 at h
  split at h
  · split at h
    · simp only [Except.ok.injEq, Prod.mk.injEq] at h
      simp only [← h.2, List.length_cons]
      omega
    · cases h
  · cases h

/-- The octet that a one-letter escape stands for. -/
def shortEscape? (b : UInt8) : Option UInt8 :=
  if b = 0x22 then some 0x22
  else if b = 0x5C then some 0x5C
  else if b = 0x2F then some 0x2F
  else if b = 0x62 then some 0x08
  else if b = 0x66 then some 0x0C
  else if b = 0x6E then some 0x0A
  else if b = 0x72 then some 0x0D
  else if b = 0x74 then some 0x09
  else none

/-- The character of an escaped number; the first half of a pair must be followed by the second. -/
def unicodeEscape (bs : Bytes) : Except Fault (Char × Bytes) := do
  let (n, rest) ← hex4 bs
  if n < 0xD800 ∨ 0xDFFF < n then return (Char.ofNat n, rest)
  else if 0xDC00 ≤ n then throw .malformed
  else match rest with
    | [] => throw .truncated
    | b :: rest =>
      if b ≠ 0x5C then throw .malformed
      else match rest with
        | [] => throw .truncated
        | u :: rest =>
          if u ≠ 0x75 then throw .malformed
          else
            let (m, rest) ← hex4 rest
            if m < 0xDC00 ∨ 0xDFFF < m then throw .malformed
            else return (Char.ofNat ((n - 0xD800) * 0x400 + (m - 0xDC00) + 0x10000), rest)

/-- The octets that the escape after a backslash stands for. -/
def escape : Bytes → Except Fault (Bytes × Bytes)
  | [] => .error .truncated
  | b :: rest =>
    if b = 0x75 then (unicodeEscape rest).map fun (c, rest) => (Utf8.encodeChar c, rest)
    else
      match shortEscape? b with
      | some c => .ok ([c], rest)
      | none => .error .malformed

/-- What follows an escaped number is shorter. -/
theorem length_of_unicodeEscape {bs rest : Bytes} {c : Char}
    (h : unicodeEscape bs = .ok (c, rest)) : rest.length < bs.length := by
  unfold unicodeEscape at h
  cases hx : hex4 bs with
  | error e => simp [hx, bind, Except.bind] at h
  | ok p =>
    obtain ⟨n, r⟩ := p
    have hr := length_of_hex4 hx
    simp only [hx, bind, Except.bind, pure, Except.pure, throw, throwThe, MonadExceptOf.throw] at h
    split at h
    · simp only [Except.ok.injEq, Prod.mk.injEq] at h
      rw [← h.2]; exact hr
    · split at h
      · cases h
      · split at h
        · cases h
        · split at h
          · cases h
          · split at h
            · cases h
            · split at h
              · cases h
              · rename_i u rest' _
                cases hy : hex4 rest' with
                | error e => simp [hy] at h
                | ok q =>
                  have hq := length_of_hex4 (show hex4 rest' = .ok (q.1, q.2) from hy)
                  simp only [hy] at h
                  split at h
                  · cases h
                  · simp only [Except.ok.injEq, Prod.mk.injEq] at h
                    simp only [List.length_cons] at hr
                    rw [← h.2]
                    omega

/-- What follows an escape is shorter. -/
theorem length_of_escape {bs rest out : Bytes} (h : escape bs = .ok (out, rest)) :
    rest.length < bs.length := by
  cases bs with
  | nil => cases h
  | cons b bs =>
    simp only [escape] at h
    split at h
    · cases hu : unicodeEscape bs with
      | error e => simp [hu, Except.map] at h
      | ok p =>
        have hp := length_of_unicodeEscape (show unicodeEscape bs = .ok (p.1, p.2) from hu)
        simp only [hu, Except.map, Except.ok.injEq, Prod.mk.injEq] at h
        simp only [← h.2, List.length_cons]
        omega
    · split at h
      · simp only [Except.ok.injEq, Prod.mk.injEq] at h
        simp [← h.2]
      · cases h

/-- The octets of a string up to its closing quote, escapes resolved. -/
def stringOctets (bs : Bytes) : Except Fault (Bytes × Bytes) :=
  match bs with
  | [] => .error .truncated
  | b :: rest =>
    if b = 0x22 then .ok ([], rest)
    else if b = 0x5C then
      match _h : escape rest with
      | .error e => .error e
      | .ok (out, after) => (stringOctets after).map fun (more, r) => (out ++ more, r)
    else if b < 0x20 then .error .malformed
    else (stringOctets rest).map fun (more, r) => (b :: more, r)
termination_by bs.length
decreasing_by
  · have := length_of_escape ‹_›
    simp only [List.length_cons]
    omega
  · simp

/-- The string up to its closing quote. -/
def stringBody (bs : Bytes) : Except Fault (String × Bytes) := do
  let (octets, rest) ← stringOctets bs
  match Utf8.toString? octets with
  | some s => return (s, rest)
  | none => throw .malformed

/-- Pass over an escape without asking what it stands for. -/
def skipEscape : Bytes → Except Fault Bytes
  | [] => .error .truncated
  | b :: rest =>
    if b = 0x75 then (hex4 rest).map Prod.snd
    else if (shortEscape? b).isSome then .ok rest
    else .error .malformed

/-- What follows an escape that was passed over is shorter. -/
theorem length_of_skipEscape {bs rest : Bytes} (h : skipEscape bs = .ok rest) :
    rest.length < bs.length := by
  cases bs with
  | nil => cases h
  | cons b bs =>
    simp only [skipEscape] at h
    split at h
    · cases hu : hex4 bs with
      | error e => simp [hu, Except.map] at h
      | ok p =>
        have hp := length_of_hex4 (show hex4 bs = .ok (p.1, p.2) from hu)
        simp only [hu, Except.map, Except.ok.injEq] at h
        simp only [← h, List.length_cons]
        omega
    · split at h
      · simp only [Except.ok.injEq] at h
        simp [← h]
      · cases h

/-- Pass over a string up to its closing quote. -/
def skipString (bs : Bytes) : Except Fault Bytes :=
  match bs with
  | [] => .error .truncated
  | b :: rest =>
    if b = 0x22 then .ok rest
    else if b = 0x5C then
      match _h : skipEscape rest with
      | .error e => .error e
      | .ok after => skipString after
    else if b < 0x20 then .error .malformed
    else skipString rest
termination_by bs.length
decreasing_by
  · have := length_of_skipEscape ‹_›
    simp only [List.length_cons]
    omega
  · simp

/-! ### Numbers -/

/-- The largest whole number kept exactly. -/
def maxSignificand : Nat := UInt64.size - 1

/-- Take digits into a significand as long as it stays within 64 bits; also says how many are left. -/
def absorb (significand : Nat) : List UInt8 → Nat × Nat
  | [] => (significand, 0)
  | d :: ds =>
    let next := significand * 10 + digitValue d
    if maxSignificand < next then (significand, ds.length + 1) else absorb next ds

/-- The floating-point number `x · 10^e`, scaled by one exact power of ten where there is one. -/
def scale (x : Float) (e : Int) : Except Fault Float :=
  if -308 ≤ e ∧ e < 0 then .ok (x / Float.ofScientific 1 false e.natAbs)
  else if 0 ≤ e ∧ e ≤ 308 then
    let y := x * Float.ofScientific 1 false e.natAbs
    if y.isInf then .error .malformed else .ok y
  else if x == 0 then .ok x
  else if 0 ≤ e then .error .malformed
  else scale (x / Float.ofScientific 1 false 308) (e + 308)
termination_by (-e).toNat
decreasing_by omega

/-- The number `significand · 10^e` under its sign; one too large is malformed. -/
def real (negative : Bool) (significand : Nat) (e : Int) : Except Fault Number := do
  let x ← scale significand.toUInt64.toFloat e
  return .real (if negative then -x else x)

/-- The exponent, if one follows, and the number it belongs to. -/
def exponent (negative : Bool) (significand : Nat) (e : Int) (bs : Bytes) :
    Except Fault (Number × Bytes) :=
  match bs with
  | b :: rest =>
    if b = 0x65 ∨ b = 0x45 then
      let (down, rest) := match rest with
        | 0x2B :: rest => (false, rest)
        | 0x2D :: rest => (true, rest)
        | rest => (false, rest)
      match rest with
      | [] => .error .truncated
      | d :: _ =>
        if isDigit d then
          let x := ((rest.takeWhile isDigit).foldl (fun a d => 10 * a + digitValue d) 0 : Nat)
          (real negative significand (if down then e - x else e + x)).map (·, rest.dropWhile isDigit)
        else .error .malformed
    else (real negative significand e).map (·, bs)
  | [] => (real negative significand e).map (·, [])

/-- The digits before the point: one or more, without a leading zero. -/
def wholeDigits (bs : Bytes) : Except Fault (List UInt8 × Bytes) :=
  match bs with
  | [] => .error .truncated
  | d :: rest =>
    if d = 0x30 then
      match rest with
      | e :: _ => if isDigit e then .error .malformed else .ok ([d], rest)
      | [] => .ok ([d], [])
    else if isDigit d then .ok (bs.takeWhile isDigit, bs.dropWhile isDigit)
    else .error .malformed

/-- A whole number under its sign: exact within 64 bits, and minus zero is not whole. -/
def whole (negative : Bool) (significand : Nat) : Number :=
  if negative then
    if 0 < significand ∧ significand ≤ Int64.minValue.toInt.natAbs then .integer (-significand)
    else .real (-significand.toUInt64.toFloat)
  else .integer significand

/-- The number that begins here, its sign already read. -/
def unsignedNumber (negative : Bool) (bs : Bytes) : Except Fault (Number × Bytes) := do
  let (digits, rest) ← wholeDigits bs
  let (significand, dropped) := absorb 0 digits
  match rest with
  | 0x2E :: after =>
    let fraction := after.takeWhile isDigit
    let rest := after.dropWhile isDigit
    if fraction = [] then throw (if rest = [] then .truncated else .malformed)
    else
      let (significand, left) := absorb significand fraction
      exponent negative significand (dropped - (fraction.length - left : Nat)) rest
  | b :: _ =>
    if b = 0x65 ∨ b = 0x45 then exponent negative significand dropped rest
    else if dropped = 0 then return (whole negative significand, rest)
    else (real negative significand dropped).map (·, rest)
  | [] =>
    if dropped = 0 then return (whole negative significand, [])
    else (real negative significand dropped).map (·, [])

/-- The number that begins here. -/
def number : Bytes → Except Fault (Number × Bytes)
  | 0x2D :: rest => unsignedNumber true rest
  | bs => unsignedNumber false bs

/-- Pass over the exponent of a number, if one follows. -/
def skipExponent (bs : Bytes) : Except Fault Bytes :=
  match bs with
  | b :: rest =>
    if b = 0x65 ∨ b = 0x45 then
      let rest := match rest with
        | 0x2B :: rest => rest
        | 0x2D :: rest => rest
        | rest => rest
      match rest with
      | d :: _ => if isDigit d then .ok (rest.dropWhile isDigit) else .error .malformed
      | [] => .error .malformed
    else .ok bs
  | [] => .ok []

/-- Pass over a number, its sign already read; one that breaks off is malformed. -/
def skipNumber (bs : Bytes) : Except Fault Bytes := do
  let (_, rest) ← (wholeDigits bs).mapError fun _ => Fault.malformed
  match rest with
  | 0x2E :: after =>
    if after.takeWhile isDigit = [] then throw .malformed
    else skipExponent (after.dropWhile isDigit)
  | _ => skipExponent rest

/-! ### Values that nobody asked for -/

/-- An array or an object that is still open. -/
inductive Frame where
  /-- An open array. -/
  | array
  /-- An open object. -/
  | object
  deriving DecidableEq, Repr

/-- Pass over a value of one piece. -/
def skipScalar (bs : Bytes) : Except Fault Bytes :=
  match bs with
  | 0x6E :: _ => expect wordNull bs
  | 0x74 :: _ => expect wordTrue bs
  | 0x66 :: _ => expect wordFalse bs
  | 0x22 :: rest => skipString rest
  | 0x2D :: rest => skipNumber rest
  | d :: _ => if isDigit d then skipNumber bs else .error .malformed
  | [] => .error .truncated

/-- Pass over the key of a member and its colon. -/
def skipKey (bs : Bytes) : Except Fault Bytes :=
  match skipBlank bs with
  | [] => .error .truncated
  | 0x22 :: rest => do
    match skipBlank (← skipString rest) with
    | 0x3A :: rest => return rest
    | [] => throw .truncated
    | _ => throw .malformed
  | _ => .error .malformed

/-- Where a value that is passed over stands. -/
inductive Skipping where
  /-- A value is due. -/
  | value
  /-- A key or the end of an object that was just opened is due. -/
  | opened
  /-- A comma or the end of what is open is due. -/
  | after
  deriving DecidableEq, Repr

/-- Pass over what is left of a value inside the open arrays and objects, in at most `fuel` moves. -/
def skipOpen : Nat → Skipping → List Frame → Bytes → Except Fault Bytes
  | 0, _, _, _ => .error .truncated
  | fuel + 1, .value, frames, bs =>
    match skipBlank bs with
    | 0x5B :: rest => skipOpen fuel .opened (.array :: frames) rest
    | 0x7B :: rest => skipOpen fuel .opened (.object :: frames) rest
    | bs => do skipOpen fuel .after frames (← skipScalar bs)
  | _ + 1, .after, [], bs => .ok bs
  | _ + 1, .opened, [], bs => .ok bs
  | fuel + 1, place, frame :: frames, bs =>
    match frame, skipBlank bs with
    | _, [] => .error .truncated
    | .array, 0x5D :: rest => skipOpen fuel .after frames rest
    | .object, 0x7D :: rest => skipOpen fuel .after frames rest
    | .array, b :: rest =>
      if place = .opened then skipOpen fuel .value (.array :: frames) (b :: rest)
      else if b = 0x2C then skipOpen fuel .value (.array :: frames) rest
      else .error .malformed
    | .object, b :: rest =>
      if place = .opened then do
        skipOpen fuel .value (.object :: frames) (← skipKey (b :: rest))
      else if b = 0x2C then do
        skipOpen fuel .value (.object :: frames) (← skipKey rest)
      else .error .malformed

/-- Pass over a value. -/
def skipValue (bs : Bytes) : Except Fault Bytes :=
  skipOpen (2 * bs.length + 2) .value [] bs

end HostWatch.Json
