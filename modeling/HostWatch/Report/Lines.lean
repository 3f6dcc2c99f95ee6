import HostWatch.Report
import HostWatch.Text.Blank

/-!
# Reports read line by line

An input holds one report to a line: a line that begins with an opening brace is
the written form of a report, any other line is a bare URL, and empty lines,
comments and lines that do not decode hold none. Lines end at line feeds, a
carriage return before one belongs to the line end, and the first line that is not
UTF-8 ends the input.
-/

namespace HostWatch.Report

/-- The report that a line holds, if it holds one. -/
def ofLine? (line : String) : Option Report :=
  match Text.trim line.toList with
  | [] => none
  | '#' :: _ => none
  | '\x7b' :: cs => (decode (Utf8.encode ('\x7b' :: cs))).toOption
  | cs => some ⟨String.ofList cs⟩

/-- The octets up to the first line feed, and those after it if there is one. -/
def breakLine : Bytes → Bytes × Option Bytes
  | [] => ([], none)
  | b :: bs =>
    if b = 0x0A then ([], some bs)
    else
      let (line, rest) := breakLine bs
      (b :: line, rest)

/-- What follows a line feed is shorter. -/
theorem length_of_breakLine {bs line rest : Bytes} (h : breakLine bs = (line, some rest)) :
    rest.length < bs.length := by
  induction bs generalizing line with
  | nil => simp [breakLine] at h
  | cons b bs ih =>
    simp only [breakLine] at h
    split at h
    · simp only [Prod.mk.injEq, Option.some.injEq] at h
      simp [← h.2]
    · simp only [Prod.mk.injEq] at h
      have := ih (show breakLine bs = ((breakLine bs).1, some rest) from Prod.ext rfl h.2)
      simp only [List.length_cons]
      omega

/-- A line without the carriage return at its end. -/
def dropReturn (line : Bytes) : Bytes :=
  if line.getLast? = some 0x0D then line.dropLast else line

/-- The lines of an input: those before a line feed, and what is left after the last one. -/
def splitLines (bs : Bytes) : List Bytes :=
  match _h : breakLine bs with
  | (line, none) => if line = [] then [] else [line]
  | (line, some rest) => dropReturn line :: splitLines rest
termination_by bs.length
decreasing_by exact length_of_breakLine ‹_›

/-- The lines of an input as text, up to the first that is not UTF-8. -/
def textLines (bs : Bytes) : List String :=
  (((splitLines bs).map Utf8.toString?).takeWhile Option.isSome).filterMap id

/-- The reports of an input, in order. -/
def ofInput (bs : Bytes) : List Report :=
  (textLines bs).filterMap ofLine?

/-- Hand reports on one after another until one is refused; counts those that were taken. -/
def publishAll {σ ε : Type} (publish : Report → σ → Except ε Unit × σ) :
    List Report → σ → Except ε Nat × σ
  | [], s => (.ok 0, s)
  | r :: rs, s =>
    match publish r s with
    | (.error e, s) => (.error e, s)
    | (.ok (), s) =>
      let (result, s) := publishAll publish rs s
      (result.map (· + 1), s)

/-- Hand on the reports of an input; when a signal stops it, only the first `read` lines were read. -/
def ingest {σ ε : Type} (publish : Report → σ → Except ε Unit × σ) (read : Option Nat)
    (input : Bytes) (s : σ) : Except ε Nat × σ :=
  let lines := match read with
    | none => textLines input
    | some n => (textLines input).take n
  publishAll publish (lines.filterMap ofLine?) s

end HostWatch.Report
