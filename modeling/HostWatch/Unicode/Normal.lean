import HostWatch.Unicode.Decomposition
import HostWatch.Unicode.Composition
import HostWatch.Unicode.CombiningClass

/-!
# Canonical composition of a text

`toNFC` decomposes every character, puts the marks of each run in the order of their
combining classes, and composes what composes. Hangul syllables are taken apart and
put together by arithmetic.
-/

namespace HostWatch.Unicode

/-- The full canonical decomposition of a character. -/
def decompose (c : Char) : List Char :=
  let n := c.toNat
  if 0xAC00 ≤ n ∧ n ≤ 0xD7A3 then
    let s := n - 0xAC00
    let lead := Char.ofNat (0x1100 + s / 588)
    let vowel := Char.ofNat (0x1161 + s % 588 / 28)
    if s % 28 = 0 then [lead, vowel] else [lead, vowel, Char.ofNat (0x11A7 + s % 28)]
  else (decompositionTable.find? n).elim [c] fun row => row.data.map Char.ofNat

/-- What a second character gives in an entry of the composition table. -/
def pairIn (second : Nat) : List Nat → Option Nat
  | b :: c :: rest => if b = second then some c else pairIn second rest
  | _ => none

/-- The character that two characters compose to. -/
def compose? (a b : Char) : Option Char :=
  let m := a.toNat
  let n := b.toNat
  if 0x1100 ≤ m ∧ m ≤ 0x1112 ∧ 0x1161 ≤ n ∧ n ≤ 0x1175 then
    some (Char.ofNat (0xAC00 + ((m - 0x1100) * 21 + (n - 0x1161)) * 28))
  else if 0xAC00 ≤ m ∧ m ≤ 0xD7A3 ∧ (m - 0xAC00) % 28 = 0 ∧ 0x11A8 ≤ n ∧ n ≤ 0x11C2 then
    some (Char.ofNat (m + (n - 0x11A7)))
  else do
    let row ← compositionTable.find? m
    let c ← pairIn n row.data
    return Char.ofNat c

/-- Put a mark into a reversed text, before the marks of a higher class at its end. -/
def insertMark (c : Char) : List Char → List Char
  | [] => [c]
  | d :: ds =>
    if combiningClass c < combiningClass d then d :: insertMark c ds else c :: d :: ds

/-- The text with the marks of each run in the order of their classes. -/
def orderMarks (cs : List Char) : List Char :=
  (cs.foldl (fun acc c => if combiningClass c = 0 then c :: acc else insertMark c acc) []).reverse

/-- Compose a decomposed text: `starter` is the last character of class 0 and `skipped` are the marks
after it that did not compose, both still to be written. -/
def composeFrom (starter : Option Char) (skipped : List Char) : List Char → List Char
  | [] => starter.toList ++ skipped
  | c :: cs =>
    let k := combiningClass c
    let blocked := match skipped.getLast? with
      | none => false
      | some d => k ≤ combiningClass d
    match if blocked then none else starter.bind (compose? · c) with
    | some composite => composeFrom (some composite) skipped cs
    | none =>
      if k = 0 then starter.toList ++ skipped ++ composeFrom (some c) [] cs
      else composeFrom starter (skipped ++ [c]) cs

/-- The text in composed canonical form. -/
def toNFC (cs : List Char) : List Char :=
  composeFrom none [] (orderMarks (cs.flatMap decompose))

end HostWatch.Unicode
