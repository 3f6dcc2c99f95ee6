import HostWatch.Toml.Basic

/-!
# Strings of TOML

A string is written in one of four forms: between quotes, where a backslash escapes,
or between apostrophes, where it does not; and each of them on one line or, between
three marks, over several. `Quoted.read` reads all four forms. `Quoted.write` chooses
the first of them that needs no escapes, in the order quotes, apostrophes, three
quotes, three apostrophes, and quotes with escapes if all of them do.
-/

namespace HostWatch.Toml.Quoted

/-! ### Reading -/

/-- A character that may stand for itself between quotes. -/
def inBasic (c : Char) : Bool :=
  c = '\t' || (0x20 ≤ c.toNat && c.toNat ≠ 0x7F && c ≠ '"' && c ≠ '\\')

/-- A character that may stand for itself between apostrophes. -/
def inLiteral (c : Char) : Bool :=
  c = '\t' || (0x20 ≤ c.toNat && c.toNat ≠ 0x7F && c ≠ '\'')

/-- The character whose number the first `n` characters give in hexadecimal. -/
def hexEscape (n : Nat) (cs : List Char) : Option (Char × List Char) := do
  let digits := cs.take n
  if digits.length ≠ n then none
  else
    let value ← digits.foldlM (fun acc c => (Ascii.hexValue? c).map (acc * 16 + ·)) 0
    if value.isValidChar then some (Char.ofNat value, cs.drop n) else none

/-- The character that an escape stands for, from behind the backslash. -/
def escape : List Char → Option (Char × List Char)
  | 'b' :: rest => some ('\x08', rest)
  | 't' :: rest => some ('\t', rest)
  | 'n' :: rest => some ('\n', rest)
  | 'f' :: rest => some ('\x0c', rest)
  | 'r' :: rest => some ('\r', rest)
  | '"' :: rest => some ('"', rest)
  | '\\' :: rest => some ('\\', rest)
  | 'u' :: rest => hexEscape 4 rest
  | 'U' :: rest => hexEscape 8 rest
  | _ => none

/-- What follows an escaped number is not longer. -/
theorem length_of_hexEscape {n : Nat} {cs rest : List Char} {c : Char}
    (h : hexEscape n cs = some (c, rest)) : rest.length ≤ cs.length := by
  simp only [hexEscape, Option.bind_eq_bind] at h
  split at h
  · simp at h
  · simp only [Option.bind_eq_some_iff] at h
    obtain ⟨v, -, h⟩ := h
    split at h
    · cases h
      simp
    · cases h

/-- What follows an escape is shorter. -/
theorem length_of_escape {cs rest : List Char} {c : Char} (h : escape cs = some (c, rest)) :
    rest.length < cs.length := by
  unfold escape at h
  split at h
  case h_8 => have := length_of_hexEscape h; simp only [List.length_cons]; omega
  case h_9 => have := length_of_hexEscape h; simp only [List.length_cons]; omega
  all_goals simp_all

/-- What is left of a text after its blanks and line ends. -/
def skipBlankLines : List Char → List Char
  | ' ' :: rest => skipBlankLines rest
  | '\t' :: rest => skipBlankLines rest
  | '\n' :: rest => skipBlankLines rest
  | '\r' :: '\n' :: rest => skipBlankLines rest
  | cs => cs

/-- What is left is not longer. -/
theorem length_skipBlankLines (cs : List Char) : (skipBlankLines cs).length ≤ cs.length := by
  fun_induction skipBlankLines cs <;> simp_all <;> omega

/-- What follows a line end with the blanks around it, from behind the backslash that hides them. -/
def hiddenLineEnd? (cs : List Char) : Option (List Char) :=
  (lineEnd? (skipSpace cs)).map skipBlankLines

/-- What follows a line end is shorter. -/
theorem length_of_lineEnd? {cs rest : List Char} (h : lineEnd? cs = some rest) :
    rest.length < cs.length := by
  unfold lineEnd? at h
  split at h
  · cases h
    exact Nat.lt_succ_self _
  · cases h
    exact Nat.lt_succ_of_lt (Nat.lt_succ_self _)
  · cases h

/-- What follows a hidden line end is shorter. -/
theorem length_of_hiddenLineEnd? {cs rest : List Char} (h : hiddenLineEnd? cs = some rest) :
    rest.length < cs.length := by
  simp only [hiddenLineEnd?, Option.map_eq_some_iff] at h
  obtain ⟨a, ha, rfl⟩ := h
  have := length_of_lineEnd? ha
  have := length_skipBlankLines a
  have : (skipSpace cs).length ≤ cs.length :=
    (List.dropWhile_sublist (l := cs) isSpace).length_le
  omega

/-- The string up to the closing quote. -/
def basic (cs : List Char) : Option (List Char × List Char) :=
  match cs with
  | [] => none
  | '"' :: rest => some ([], rest)
  | '\\' :: rest =>
    match _h : escape rest with
    | none => none
    | some (c, after) => (basic after).map fun (s, r) => (c :: s, r)
  | c :: rest => if inBasic c then (basic rest).map fun (s, r) => (c :: s, r) else none
termination_by cs.length
decreasing_by
  · have := length_of_escape ‹_›
    simp only [List.length_cons]
    omega
  · simp

/-- The string up to the closing apostrophe. -/
def literal : List Char → Option (List Char × List Char)
  | [] => none
  | c :: rest =>
    if c = '\'' then some ([], rest)
    else if inLiteral c then (literal rest).map fun (s, r) => (c :: s, r)
    else none

/-- The marks before the closing three, at most two of them, and what follows. -/
def closing (mark : Char) (rest : List Char) : Option (List Char × List Char) :=
  let extra := rest.takeWhile (· = mark)
  if extra.length ≤ 2 then some (extra, rest.dropWhile (· = mark)) else none

/-- The string up to the closing three quotes. -/
def basicLines (cs : List Char) : Option (List Char × List Char) :=
  match cs with
  | [] => none
  | '"' :: '"' :: '"' :: rest => closing '"' rest
  | '"' :: rest => (basicLines rest).map fun (s, r) => ('"' :: s, r)
  | '\\' :: rest =>
    match _h : hiddenLineEnd? rest with
    | some after => basicLines after
    | none =>
      match _k : escape rest with
      | none => none
      | some (c, after) => (basicLines after).map fun (s, r) => (c :: s, r)
  | '\n' :: rest => (basicLines rest).map fun (s, r) => ('\n' :: s, r)
  | '\r' :: '\n' :: rest => (basicLines rest).map fun (s, r) => ('\n' :: s, r)
  | c :: rest => if inBasic c then (basicLines rest).map fun (s, r) => (c :: s, r) else none
termination_by cs.length
decreasing_by
  · simp
  · have := length_of_hiddenLineEnd? ‹_›
    simp only [List.length_cons]
    omega
  · have := length_of_escape ‹_›
    simp only [List.length_cons]
    omega
  all_goals
    simp only [List.length_cons]
    omega

/-- The string up to the closing three apostrophes. -/
def literalLines : List Char → Option (List Char × List Char)
  | [] => none
  | '\'' :: '\'' :: '\'' :: rest => closing '\'' rest
  | '\'' :: rest => (literalLines rest).map fun (s, r) => ('\'' :: s, r)
  | '\n' :: rest => (literalLines rest).map fun (s, r) => ('\n' :: s, r)
  | '\r' :: '\n' :: rest => (literalLines rest).map fun (s, r) => ('\n' :: s, r)
  | c :: rest => if inLiteral c then (literalLines rest).map fun (s, r) => (c :: s, r) else none

/-- A text without the line end in front, if there is one. -/
def dropLineEnd (cs : List Char) : List Char :=
  (lineEnd? cs).getD cs

/-- Read a string on one line. -/
def readLine : List Char → Option (List Char × List Char)
  | '"' :: rest => basic rest
  | '\'' :: rest => literal rest
  | _ => none

/-- Read a string in any form. -/
def read : List Char → Option (List Char × List Char)
  | '"' :: '"' :: '"' :: rest => basicLines (dropLineEnd rest)
  | '\'' :: '\'' :: '\'' :: rest => literalLines (dropLineEnd rest)
  | cs => readLine cs

/-! ### Writing -/

/-- A control character that is neither a tab nor a line feed. -/
def needsEscape (c : Char) : Bool :=
  (c.toNat < 0x20 && c ≠ '\t' && c ≠ '\n') || c.toNat = 0x7F

/-- The length of the longest run of a mark; `now` is the length of the run read last. -/
def longestRun (mark : Char) (now : Nat) : List Char → Nat
  | [] => now
  | c :: cs => if c = mark then longestRun mark (now + 1) cs else max now (longestRun mark 0 cs)

/-- A control character in escaped form. -/
def escaped (c : Char) : List Char :=
  if c = '\x08' then ['\\', 'b']
  else if c = '\t' then ['\\', 't']
  else if c = '\n' then ['\\', 'n']
  else if c = '\x0c' then ['\\', 'f']
  else if c = '\r' then ['\\', 'r']
  else ['\\', 'u', '0', '0', Ascii.hexUpper (c.toNat / 16), Ascii.hexUpper (c.toNat % 16)]

/-- The text between quotes: `most` quotes in a row stand for themselves, `run` of them just passed. -/
def writeBasic (lines : Bool) (run : Nat) : List Char → List Char
  | [] => []
  | c :: cs =>
    let most := if lines then 2 else 0
    if c = '"' then
      if most ≤ run then '\\' :: '"' :: writeBasic lines 0 cs else '"' :: writeBasic lines (run + 1) cs
    else if c = '\\' then '\\' :: '\\' :: writeBasic lines 0 cs
    else if c = '\n' ∧ lines then '\n' :: writeBasic lines 0 cs
    else if c.toNat < 0x20 ∨ c.toNat = 0x7F then escaped c ++ writeBasic lines 0 cs
    else c :: writeBasic lines 0 cs

/-- Write a string in the first form that needs no escapes. -/
def write (s : List Char) : List Char :=
  let controls := s.any needsEscape
  let backslash := s.contains '\\'
  let newline := s.contains '\n'
  let quotes := longestRun '"' 0 s
  let apostrophes := longestRun '\'' 0 s
  let first := if newline then ['\n'] else []
  if !controls && !backslash && quotes = 0 && !newline then '"' :: (writeBasic false 0 s ++ ['"'])
  else if !controls && apostrophes = 0 && !newline then '\'' :: (s ++ ['\''])
  else if !controls && !backslash && quotes ≤ 2 then
    ['"', '"', '"'] ++ first ++ writeBasic true 0 s ++ ['"', '"', '"']
  else if !controls && apostrophes ≤ 2 then
    ['\'', '\'', '\''] ++ first ++ s ++ ['\'', '\'', '\'']
  else if newline then ['"', '"', '"', '\n'] ++ writeBasic true 0 s ++ ['"', '"', '"']
  else '"' :: (writeBasic false 0 s ++ ['"'])

end HostWatch.Toml.Quoted
