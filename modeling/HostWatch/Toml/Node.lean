import HostWatch.Toml.Basic

/-!
# Tables of TOML as they are put together

While a document is read, its tables are trees that remember how each table came to
be: written out under a header or as an inline table, named on the way to a deeper
header, or named by a dotted key. A table may be opened by a header once, and only
dotted keys may add to a table that dotted keys made.
-/

namespace HostWatch.Toml

/-- How a table came to be. -/
inductive Origin where
  /-- Under a header of its own. -/
  | explicit
  /-- On the way to a deeper header. -/
  | implicit
  /-- By a dotted key. -/
  | dotted
  deriving DecidableEq, Repr

mutual

/-- What stands under a key. -/
inductive Node where
  /-- A value. -/
  | value (v : Value)
  /-- A table. -/
  | table (t : Table)
  /-- An array of tables, the last of which is being filled. -/
  | tables (ts : List Table)

/-- A table that is being put together. -/
inductive Table where
  /-- The entries of a table and how it came to be. -/
  | mk (origin : Origin) (entries : List (String × Node))

end

namespace Table

/-- How a table came to be. -/
def origin : Table → Origin
  | .mk o _ => o

/-- The entries of a table. -/
def entries : Table → List (String × Node)
  | .mk _ es => es

/-- The node under a key. -/
def get? (t : Table) (key : String) : Option Node :=
  t.entries.lookup key

/-- Put a node under a key, in place of the one there or behind all others. -/
def set (t : Table) (key : String) (node : Node) : Table :=
  .mk t.origin (put t.entries)
where
  /-- Put a node under the key among entries. -/
  put : List (String × Node) → List (String × Node)
    | [] => [(key, node)]
    | (k, n) :: rest => if k = key then (key, node) :: rest else (k, n) :: put rest

/-- Change the last of some tables. -/
def updateLast (f : Table → Option Table) : List Table → Option (List Table)
  | [] => none
  | [t] => (f t).map fun t => [t]
  | t :: ts => (updateLast f ts).map (t :: ·)

/-- Change the table at the end of a path; tables missing on the way are made. A dotted path may not pass
through a table with a header of its own. -/
def updateAt (dotted : Bool) (f : Table → Option Table) : List String → Table → Option Table
  | [], t => f t
  | key :: path, t =>
    match t.get? key with
    | none =>
      (updateAt dotted f path (.mk (if dotted then .dotted else .implicit) [])).map fun child =>
        t.set key (.table child)
    | some (.value _) => none
    | some (.table child) =>
      if dotted ∧ child.origin = .explicit then none
      else (updateAt dotted f path child).map fun child => t.set key (.table child)
    | some (.tables ts) =>
      (updateLast (updateAt dotted f path) ts).map fun ts => t.set key (.tables ts)

/-- Add a value under a key that has none; behind a dotted key, only to a table that such keys made. -/
def addValue (path : List String) (v : Value) (t : Table) : Option Table :=
  match path.getLast? with
  | none => none
  | some key =>
    let way := path.dropLast
    updateAt true (fun child =>
      if way ≠ [] ∧ child.origin ≠ .dotted then none
      else if (child.get? key).isSome then none
      else some (child.set key (.value v))) way t

/-- The table of the entries of an inline table. -/
def ofInline? (es : List (List String × Value)) : Option Table :=
  es.foldlM (fun t e => t.addValue e.1 e.2) (.mk .explicit [])

mutual

/-- The value of a node. -/
def nodeValue : Node → Value
  | .value v => v
  | .table t => .table (tableEntries t)
  | .tables ts => .array (tableValues ts)

/-- The entries of a table as values. -/
def tableEntries : Table → List (String × Value)
  | .mk _ es => entryValues es

/-- The values of entries. -/
def entryValues : List (String × Node) → List (String × Value)
  | [] => []
  | (k, n) :: rest => (k, nodeValue n) :: entryValues rest

/-- The values of tables. -/
def tableValues : List Table → List Value
  | [] => []
  | t :: ts => .table (tableEntries t) :: tableValues ts

end

/-- The entries of a table as values. -/
def toEntries (t : Table) : List (String × Value) :=
  tableEntries t

end Table

/-- A document that is being put together. -/
structure Document where
  /-- The table of the whole document. -/
  root : Table
  /-- The path of the table that is being filled. -/
  here : List String

namespace Document

/-- The document without any statement. -/
def empty : Document :=
  ⟨.mk .explicit [], []⟩

/-- Open a table by its header. -/
def openTable (d : Document) (path : List String) : Option Document := do
  let key ← path.getLast?
  let root ← Table.updateAt false (fun parent =>
    match parent.get? key with
    | none => some (parent.set key (.table (.mk .explicit [])))
    | some (.table child) =>
      if child.origin = .implicit then
        some (parent.set key (.table (.mk .explicit child.entries)))
      else none
    | some _ => none) path.dropLast d.root
  return ⟨root, path⟩

/-- Open a new element of an array of tables by its header. -/
def openElement (d : Document) (path : List String) : Option Document := do
  let key ← path.getLast?
  let root ← Table.updateAt false (fun parent =>
    match parent.get? key with
    | none => some (parent.set key (.tables [.mk .explicit []]))
    | some (.tables ts) => some (parent.set key (.tables (ts ++ [.mk .explicit []])))
    | some _ => none) path.dropLast d.root
  return ⟨root, path⟩

/-- Add a key with its value to the table that is being filled. -/
def addEntry (d : Document) (path : List String) (v : Value) : Option Document := do
  let root ← Table.updateAt false (Table.addValue path v) d.here d.root
  return ⟨root, d.here⟩

end Document

end HostWatch.Toml
