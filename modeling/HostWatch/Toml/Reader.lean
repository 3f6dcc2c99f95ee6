import HostWatch.Toml.Numeral
import HostWatch.Toml.Quoted
import HostWatch.Toml.Node

/-!
# Reading TOML

A document is a list of statements, one to a line: headers that open a table, and
keys with values. `statements` reads them, and `Node` puts them together. Keys may be
dotted; arrays and inline tables may be nested, though not without limit.
-/

namespace HostWatch.Toml

/-- How deep arrays and inline tables may be nested, and how many parts a key may have. -/
def maxDepth : Nat := 79

/-! ### Keys -/

/-- A character of a key without quotes. -/
def inBareKey (c : Char) : Bool :=
  ('a' ≤ c && c ≤ 'z') || ('A' ≤ c && c ≤ 'Z') || Decimal.isDigit c || c = '_' || c = '-'

/-- Read one part of a key. -/
def keyPart (cs : List Char) : Option (String × List Char) :=
  match cs with
  | [] => none
  | c :: _ =>
    if c = '"' ∨ c = '\'' then (Quoted.readLine cs).map fun (s, r) => (String.ofList s, r)
    else if inBareKey c then
      some (String.ofList (cs.takeWhile inBareKey), cs.dropWhile inBareKey)
    else none

/-- Read a key of at most `fuel` parts, blanks around the points allowed. -/
def keyParts : Nat → List Char → Option (List String × List Char)
  | 0, _ => none
  | fuel + 1, cs => do
    let (part, rest) ← keyPart (skipSpace cs)
    match skipSpace rest with
    | '.' :: more =>
      let (parts, rest) ← keyParts fuel more
      return (part :: parts, rest)
    | rest => return ([part], rest)

/-- Read a key. -/
def key (cs : List Char) : Option (List String × List Char) :=
  keyParts maxDepth cs

/-! ### Values -/

/-- Read the elements of an array up to its end, at most `fuel` of them. -/
def elements (item : Scanner Value) : Nat → List Char → Option (List Value × List Char)
  | 0, _ => none
  | fuel + 1, cs =>
    match skipFiller cs with
    | ']' :: rest => some ([], rest)
    | cs => do
      let (v, rest) ← item cs
      match skipFiller rest with
      | ',' :: rest =>
        let (vs, rest) ← elements item fuel rest
        return (v :: vs, rest)
      | ']' :: rest => return ([v], rest)
      | _ => none

/-- Read a key and its value. -/
def keyValue (item : Scanner Value) (cs : List Char) : Option ((List String × Value) × List Char) := do
  let (path, rest) ← key cs
  match rest with
  | '=' :: rest =>
    let (v, rest) ← item (skipSpace rest)
    return ((path, v), rest)
  | _ => none

/-- Read the entries of an inline table up to its end, at most `fuel` of them. -/
def inlineEntries (item : Scanner Value) :
    Nat → List Char → Option (List (List String × Value) × List Char)
  | 0, _ => none
  | fuel + 1, cs => do
    let (entry, rest) ← keyValue item cs
    match skipSpace rest with
    | ',' :: rest =>
      let (entries, rest) ← inlineEntries item fuel rest
      return (entry :: entries, rest)
    | '\x7d' :: rest => return ([entry], rest)
    | _ => none

/-- Pass over a word. -/
def word (w : String) (v : Value) (cs : List Char) : Option (Value × List Char) :=
  if w.toList.isPrefixOf cs then some (v, cs.drop w.length) else none

/-- Read a value whose arrays and inline tables are nested at most `depth` deep. -/
def value : Nat → Scanner Value
  | depth, cs =>
    match cs with
    | [] => none
    | '[' :: rest =>
      match depth with
      | 0 => none
      | depth + 1 =>
        (elements (value depth) (rest.length + 1) rest).map fun (vs, r) => (.array vs, r)
    | '\x7b' :: rest =>
      match depth with
      | 0 => none
      | depth + 1 =>
        match skipSpace rest with
        | '\x7d' :: rest => some (.table [], rest)
        | rest => do
          let (entries, rest) ← inlineEntries (value depth) (rest.length + 1) rest
          let node ← Table.ofInline? entries
          return (.table node.toEntries, rest)
    | 't' :: _ => word "true" (.boolean true) cs
    | 'f' :: _ => word "false" (.boolean false) cs
    | c :: _ =>
      if c = '"' ∨ c = '\'' then
        (Quoted.read cs).map fun (s, r) => (.string (String.ofList s), r)
      else numeral cs

/-! ### Documents -/

/-- A line of a document that says something. -/
inductive Statement where
  /-- A header that opens a table. -/
  | table (path : List String)
  /-- A header that opens a new element of an array of tables. -/
  | element (path : List String)
  /-- A key with its value. -/
  | entry (path : List String) (v : Value)

/-- Read a statement. -/
def statement : Scanner Statement
  | '[' :: '[' :: rest => do
    let (path, rest) ← key rest
    match rest with
    | ']' :: ']' :: rest => return (.element path, rest)
    | _ => none
  | '[' :: rest => do
    let (path, rest) ← key rest
    match rest with
    | ']' :: rest => return (.table path, rest)
    | _ => none
  | cs => (keyValue (value maxDepth) cs).map fun ((path, v), rest) => (.entry path v, rest)

/-- Read the statements of a text, of at most `fuel` lines. -/
def lines : Nat → List Char → Option (List Statement)
  | 0, _ => none
  | fuel + 1, cs =>
    match skipSpace cs with
    | [] => some []
    | c :: rest =>
      if c = '#' ∨ c = '\n' ∨ c = '\r' then
        match endOfLine? (c :: rest) with
        | none => none
        | some rest => lines fuel rest
      else do
        let (s, rest) ← statement (c :: rest)
        let more ← lines fuel (← endOfLine? rest)
        return s :: more

/-- Read the statements of a text; a byte-order mark in front is dropped. -/
def statements (cs : List Char) : Option (List Statement) :=
  let cs := match cs with
    | '\ufeff' :: rest => rest
    | cs => cs
  lines (cs.length + 1) cs

/-- Carry out the statements of a document. -/
def assemble : List Statement → Document → Option Document
  | [], d => some d
  | .table path :: rest, d => (d.openTable path).bind (assemble rest)
  | .element path :: rest, d => (d.openElement path).bind (assemble rest)
  | .entry path v :: rest, d => (d.addEntry path v).bind (assemble rest)

/-- The entries of the table that a text stands for. -/
def read (cs : List Char) : Option (List (String × Value)) := do
  let d ← assemble (← statements cs) .empty
  return d.root.toEntries

end HostWatch.Toml
