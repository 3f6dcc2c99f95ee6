import HostWatch.Proofs.Toml.Numerals
import HostWatch.Proofs.Toml.Strings

/-!
# Documents of sections

A document may consist of sections, each with a header and with settings line by line, every one a
key without quotes, an equals sign and a value. Line by line it says what the sections hold (`Says`),
and carried out in order, these statements make a table of the sections (`assemble_statements`). So
the document reads as that table (`read_of_says`).
-/

namespace HostWatch.Toml

variable {c : Char} {name k : String} {text text' rest : List Char} {v : Value}

/-! ### Values -/

/-- The text is the value as it is written: it does not begin with a blank, and up to the line end
behind it the value is read from it. -/
structure Writes (text : List Char) (v : Value) : Prop where
  /-- There is no blank in front. -/
  dense : ∃ c cs, text = c :: cs ∧ isSpace c = false
  /-- The value is read. -/
  reads : ∀ rest, value maxDepth (text ++ '\n' :: rest) = some (v, '\n' :: rest)

theorem Writes.string (s : String) : Writes (Quoted.write s.toList) (.string s) where
  dense := by
    obtain ⟨mark, cs, hcons, rfl | rfl⟩ := Quoted.write_cons s.toList
    · exact ⟨_, cs, hcons, by decide⟩
    · exact ⟨_, cs, hcons, by decide⟩
  reads rest := by
    have hread : Quoted.read (Quoted.write s.toList ++ '\n' :: rest) = some (s.toList, '\n' :: rest) :=
      Quoted.read_write s.toList (by simp) (by simp)
    obtain ⟨mark, cs, hcons, rfl | rfl⟩ := Quoted.write_cons s.toList
    · rw [hcons, List.cons_append] at hread ⊢
      simp [value, hread]
    · rw [hcons, List.cons_append] at hread ⊢
      simp [value, hread]

theorem Writes.integer {z : Int} (hlow : Int64.minValue.toInt ≤ z) (hhigh : z ≤ Int64.maxValue.toInt) :
    Writes (Decimal.ofInt z) (.integer z) where
  dense := by
    obtain ⟨c, cs, hc, hcons | hcons⟩ := ofInt_cons z
    · refine ⟨c, cs, hcons, ?_⟩
      simp only [isSpace, Bool.or_eq_false_iff, decide_eq_false_iff_not]
      constructor <;> rintro rfl <;> exact absurd hc (by decide)
    · exact ⟨_, _, hcons, by decide⟩
  reads := value_ofInt hlow hhigh maxDepth

theorem Writes.boolean (b : Bool) :
    Writes (if b then "true".toList else "false".toList) (.boolean b) where
  dense := by
    cases b
    · exact ⟨_, _, rfl, by decide⟩
    · exact ⟨_, _, rfl, by decide⟩
  reads rest := by
    cases b <;> rfl

/-! ### Lines -/

/-- A key that needs no quotes. -/
def Bare (name : String) : Prop :=
  name.toList ≠ [] ∧ ∀ c ∈ name.toList, inBareKey c = true

instance (name : String) : Decidable (Bare name) :=
  @instDecidableAnd _ _ inferInstance (List.decidableBAll _ name.toList)

theorem Bare.cons (h : Bare name) : ∃ c cs, name.toList = c :: cs ∧ inBareKey c = true := by
  obtain ⟨hne, hall⟩ := h
  cases hcons : name.toList with
  | nil => exact absurd hcons hne
  | cons c cs => exact ⟨c, cs, rfl, hall c (by simp [hcons])⟩

/-- A character of a key without quotes is none with a meaning of its own. -/
theorem ne_of_inBareKey (h : inBareKey c = true) (hd : inBareKey d = false) : c ≠ d := by
  rintro rfl
  rw [h] at hd
  cases hd

theorem isSpace_of_inBareKey (h : inBareKey c = true) : isSpace c = false := by
  simp only [isSpace, Bool.or_eq_false_iff, decide_eq_false_iff_not]
  exact ⟨ne_of_inBareKey h (by decide), ne_of_inBareKey h (by decide)⟩

theorem skipSpace_cons (h : isSpace c = false) (cs : List Char) : skipSpace (c :: cs) = c :: cs := by
  simp [skipSpace, h]

/-- A key without quotes ends at a character that may not stand in one. -/
theorem key_append (h : Bare name) (hrest : ∀ c ∈ rest.head?, inBareKey c = false)
    (hdot : (skipSpace rest).head? ≠ some '.') :
    key (name.toList ++ rest) = some ([name], skipSpace rest) := by
  have hstop : rest.takeWhile inBareKey = [] ∧ rest.dropWhile inBareKey = rest := by
    cases rest with
    | nil => exact ⟨rfl, rfl⟩
    | cons c rest => simp [hrest c rfl]
  have htake : (name.toList ++ rest).takeWhile inBareKey = name.toList := by
    rw [List.takeWhile_append_of_pos h.2, hstop.1, List.append_nil]
  have hdrop : (name.toList ++ rest).dropWhile inBareKey = rest := by
    rw [List.dropWhile_append_of_pos h.2, hstop.2]
  have hpart : keyPart (name.toList ++ rest) = some (name, rest) := by
    obtain ⟨c, cs, hcons, hc⟩ := h.cons
    rw [hcons, List.cons_append] at htake hdrop ⊢
    have hquotes : ¬ (c = '"' ∨ c = '\'') := by
      rintro (rfl | rfl) <;> exact absurd hc (by decide)
    rw [keyPart, if_neg hquotes, if_pos hc, htake, hdrop, ← hcons, String.ofList_toList]
  have hskip : skipSpace (name.toList ++ rest) = name.toList ++ rest := by
    obtain ⟨c, cs, hcons, hc⟩ := h.cons
    rw [hcons, List.cons_append, skipSpace_cons (isSpace_of_inBareKey hc)]
  rw [key, maxDepth, keyParts, hskip, hpart]
  simp only [Option.bind_eq_bind, Option.bind_some]
  split
  · next heq =>
    rw [heq] at hdot
    exact absurd rfl hdot
  · rfl

/-- A line that says something. -/
theorem lines_statement {cs : List Char} {s : Statement} (hspace : isSpace c = false)
    (hmark : ¬ (c = '#' ∨ c = '\n' ∨ c = '\r'))
    (hs : statement (c :: cs) = some (s, '\n' :: rest)) (fuel : Nat) :
    lines (fuel + 1) (c :: cs) = (lines fuel rest).map (s :: ·) := by
  have hend : endOfLine? ('\n' :: rest) = some rest := rfl
  rw [lines, skipSpace_cons hspace]
  simp only [if_neg hmark, hs, hend, Option.bind_eq_bind, Option.bind_some]
  cases lines fuel rest <;> rfl

/-- The text consists of lines that say the statements, and whatever stands behind it is read next. -/
def Says (text : List Char) (ss : List Statement) : Prop :=
  ∃ n ≤ text.length, ∀ fuel rest, lines (fuel + n) (text ++ rest) = (lines fuel rest).map (ss ++ ·)

namespace Says

variable {ss ss' : List Statement}

theorem nil : Says [] [] :=
  ⟨0, Nat.le_refl 0, fun fuel rest => by simp⟩

theorem append (h : Says text ss) (h' : Says text' ss') : Says (text ++ text') (ss ++ ss') := by
  obtain ⟨n, hn, hread⟩ := h
  obtain ⟨n', hn', hread'⟩ := h'
  refine ⟨n' + n, ?_, fun fuel rest => ?_⟩
  · rw [List.length_append]
    omega
  · rw [← Nat.add_assoc, List.append_assoc, hread, hread', Option.map_map]
    congr 1
    funext more
    exact (List.append_assoc ss ss' more).symm

/-- A line is read at once. -/
theorem line {s : Statement} (hne : text ≠ [])
    (h : ∀ fuel rest, lines (fuel + 1) (text ++ rest) = (lines fuel rest).map (s :: ·)) :
    Says text [s] :=
  ⟨1, List.length_pos_iff.mpr hne, h⟩

/-- An empty line says nothing. -/
theorem blank : Says ['\n'] [] := by
  refine ⟨1, Nat.le_refl 1, fun fuel rest => ?_⟩
  have hread : lines (fuel + 1) (['\n'] ++ rest) = lines fuel rest := rfl
  rw [hread]
  simp

/-- The header of a section opens its table. -/
theorem header (h : Bare name) : Says ('[' :: (name.toList ++ [']', '\n'])) [.table [name]] := by
  refine line (by simp) fun fuel rest => ?_
  have hkey : key (name.toList ++ ']' :: '\n' :: rest) = some ([name], ']' :: '\n' :: rest) :=
    key_append h (by simp; decide) (by simp [skipSpace, isSpace])
  obtain ⟨c, cs, hcons, hc⟩ := h.cons
  have hbracket : c ≠ '[' := ne_of_inBareKey hc (by decide)
  rw [List.cons_append, List.append_assoc]
  apply lines_statement (by decide) (by decide)
  rw [hcons, List.cons_append] at hkey ⊢
  simp [statement, hbracket, hkey]

/-- A line with a key and a written value says that the key has the value. -/
theorem entry (h : Bare k) (hv : Writes text v) :
    Says (k.toList ++ [' ', '=', ' '] ++ text ++ ['\n']) [.entry [k] v] := by
  refine line (by simp) fun fuel rest => ?_
  have hkey : key (k.toList ++ ' ' :: '=' :: ' ' :: (text ++ '\n' :: rest)) =
      some ([k], '=' :: ' ' :: (text ++ '\n' :: rest)) :=
    key_append h (by simp; decide) (by simp [skipSpace, isSpace])
  have hskip : skipSpace (' ' :: (text ++ '\n' :: rest)) = text ++ '\n' :: rest := by
    obtain ⟨d, ds, hdense, hd⟩ := hv.dense
    rw [hdense, List.cons_append]
    exact skipSpace_cons hd _
  have hitem : keyValue (value maxDepth) (k.toList ++ ' ' :: '=' :: ' ' :: (text ++ '\n' :: rest)) =
      some (([k], v), '\n' :: rest) := by
    simp [keyValue, hkey, hskip, hv.reads]
  obtain ⟨c, cs, hcons, hc⟩ := h.cons
  have hbracket : c ≠ '[' := ne_of_inBareKey hc (by decide)
  rw [hcons] at hitem ⊢
  simp only [List.cons_append, List.nil_append, List.append_assoc] at hitem ⊢
  apply lines_statement
  · exact isSpace_of_inBareKey hc
  · rintro (rfl | rfl | rfl) <;> exact absurd hc (by decide)
  · simp [statement, hbracket, hitem]

/-- A document is read to its end. -/
theorem statements (h : Says text ss) (hmark : text.head? ≠ some '\ufeff') :
    statements text = some ss := by
  obtain ⟨n, hn, hread⟩ := h
  have hlines : lines (text.length + 1) text = some ss := by
    have hfuel := hread (text.length - n + 1) []
    rw [List.append_nil, show text.length - n + 1 + n = text.length + 1 by omega] at hfuel
    rw [hfuel]
    simp [lines, skipSpace]
  unfold Toml.statements
  split
  · exact absurd rfl hmark
  · exact hlines

end Says

/-! ### Tables -/

/-- The entries of a table put together under keys that are new, one after the other. -/
theorem put_of_new {node : Node} {es : List (String × Node)} (h : k ∉ es.map (·.1)) :
    Table.set.put k node es = es ++ [(k, node)] := by
  induction es with
  | nil => rfl
  | cons e es ih =>
    rw [List.map_cons, List.mem_cons, not_or] at h
    rw [Table.set.put, if_neg (Ne.symm h.1), ih h.2, List.cons_append]

theorem put_last {node node' : Node} {es : List (String × Node)} (h : k ∉ es.map (·.1)) :
    Table.set.put k node' (es ++ [(k, node)]) = es ++ [(k, node')] := by
  induction es with
  | nil => simp [Table.set.put]
  | cons e es ih =>
    rw [List.map_cons, List.mem_cons, not_or] at h
    rw [List.cons_append, Table.set.put, if_neg (Ne.symm h.1), ih h.2, List.cons_append]

theorem lookup_of_new {es : List (String × Node)} (h : k ∉ es.map (·.1)) : es.lookup k = none := by
  rw [List.lookup_eq_none_iff]
  intro e he
  simp only [bne_iff_ne, ne_eq]
  rintro rfl
  exact h (List.mem_map_of_mem he)

theorem lookup_last {node : Node} {es : List (String × Node)} (h : k ∉ es.map (·.1)) :
    (es ++ [(k, node)]).lookup k = some node := by
  rw [List.lookup_append, lookup_of_new h]
  simp

/-- Sections by their names, and in each one values by their keys. -/
abbrev Sections := List (String × List (String × Value))

namespace Sections

variable {done todo secs : Sections} {given es : List (String × Value)} {here : List String}

/-- What a document of the sections says. -/
def statements (secs : Sections) : List Statement :=
  secs.flatMap fun s => .table [s.1] :: s.2.map fun e => .entry [e.1] e.2

/-- The table under a header with some entries. -/
def sectionTable (es : List (String × Value)) : Table :=
  .mk .explicit (es.map fun e => (e.1, .value e.2))

/-- What stands under the name of a section. -/
def sectionNode (es : List (String × Value)) : Node :=
  .table (sectionTable es)

/-- The table of the sections. -/
def table (secs : Sections) : Table :=
  .mk .explicit (secs.map fun s => (s.1, sectionNode s.2))

/-- No two sections have the same name, and no two values of a section the same key. -/
structure Distinct (secs : Sections) : Prop where
  /-- The names. -/
  names : (secs.map (·.1)).Nodup
  /-- The keys of every section. -/
  keys : ∀ s ∈ secs, (s.2.map (·.1)).Nodup

theorem not_mem_nodes {α : Type} (f : α → Node) {l : List (String × α)} (h : k ∉ l.map (·.1)) :
    k ∉ (l.map fun x => (x.1, f x.2)).map (·.1) := by
  rwa [List.map_map]

theorem get?_new (h : name ∉ done.map (·.1)) : (table done).get? name = none :=
  lookup_of_new (not_mem_nodes sectionNode h)

theorem get?_last (h : name ∉ done.map (·.1)) :
    (table (done ++ [(name, es)])).get? name = some (.table (sectionTable es)) := by
  rw [table, List.map_append]
  exact lookup_last (not_mem_nodes sectionNode h)

theorem set_new (h : name ∉ done.map (·.1)) (es : List (String × Value)) :
    (table done).set name (.table (sectionTable es)) = table (done ++ [(name, es)]) := by
  rw [table, Table.set, Table.entries, put_of_new (not_mem_nodes sectionNode h), table,
    List.map_append]
  rfl

theorem set_last (h : name ∉ done.map (·.1)) (es : List (String × Value)) :
    (table (done ++ [(name, given)])).set name (.table (sectionTable es)) =
      table (done ++ [(name, es)]) := by
  rw [table, List.map_append, List.map_cons, List.map_nil, Table.set, Table.entries,
    put_last (not_mem_nodes sectionNode h), table, List.map_append]
  rfl

theorem openTable_new (h : name ∉ done.map (·.1)) :
    Document.openTable ⟨table done, here⟩ [name] = some ⟨table (done ++ [(name, [])]), [name]⟩ := by
  have hset : (table done).set name (.table (.mk .explicit [])) = table (done ++ [(name, [])]) :=
    set_new h []
  simp [Document.openTable, Table.updateAt, get?_new h, hset]

/-- To a section that is there, a value is added behind all others. -/
theorem addValue_new (h : k ∉ given.map (·.1)) :
    Table.addValue [k] v (sectionTable given) = some (sectionTable (given ++ [(k, v)])) := by
  have hget : (sectionTable given).get? k = none := lookup_of_new (not_mem_nodes Node.value h)
  have hset : (sectionTable given).set k (.value v) = sectionTable (given ++ [(k, v)]) := by
    rw [sectionTable, Table.set, Table.entries, put_of_new (not_mem_nodes Node.value h), sectionTable,
      List.map_append]
    rfl
  simp [Table.addValue, Table.updateAt, hget, hset]

theorem addEntry_new (hname : name ∉ done.map (·.1)) (hk : k ∉ given.map (·.1)) :
    Document.addEntry ⟨table (done ++ [(name, given)]), [name]⟩ [k] v =
      some ⟨table (done ++ [(name, given ++ [(k, v)])]), [name]⟩ := by
  simp [Document.addEntry, Table.updateAt, get?_last hname, addValue_new hk, set_last hname]

/-- Carried out line by line, the values of a section are added to its table. -/
theorem assemble_entries (more : List Statement) (hname : name ∉ done.map (·.1))
    (hkeys : ((given ++ es).map (·.1)).Nodup) :
    assemble ((es.map fun e => .entry [e.1] e.2) ++ more) ⟨table (done ++ [(name, given)]), [name]⟩ =
      assemble more ⟨table (done ++ [(name, given ++ es)]), [name]⟩ := by
  induction es generalizing given with
  | nil => simp
  | cons e es ih =>
    have hnew : e.1 ∉ given.map (·.1) := by
      rw [List.map_append, List.nodup_append] at hkeys
      exact fun hmem => hkeys.2.2 e.1 hmem e.1 (by simp) rfl
    rw [List.map_cons, List.cons_append, assemble, addEntry_new hname hnew, Option.bind_some,
      ih (by simpa using hkeys)]
    simp

/-- Carried out section by section, the statements make the table of the sections. -/
theorem assemble_sections (h : Distinct (done ++ todo)) (here : List String) :
    ∃ here', assemble todo.statements ⟨table done, here⟩ = some ⟨table (done ++ todo), here'⟩ := by
  induction todo generalizing done here with
  | nil => exact ⟨here, by simp [statements, assemble]⟩
  | cons s todo ih =>
    have hname : s.1 ∉ done.map (·.1) := by
      have hnames := h.names
      rw [List.map_append, List.nodup_append] at hnames
      exact fun hmem => hnames.2.2 s.1 hmem s.1 (by simp) rfl
    have hkeys := h.keys s (by simp)
    have hmoved : Distinct ((done ++ [s]) ++ todo) := by simpa using h
    obtain ⟨here', hrest⟩ := ih hmoved [s.1]
    refine ⟨here', ?_⟩
    rw [statements, List.flatMap_cons, List.cons_append, assemble, openTable_new hname,
      Option.bind_some, assemble_entries _ hname (by simpa using hkeys)]
    simpa [statements] using hrest

theorem entryValues_values (es : List (String × Value)) :
    Table.entryValues (es.map fun e => (e.1, .value e.2)) = es := by
  induction es with
  | nil => rfl
  | cons e es ih => simp [Table.entryValues, Table.nodeValue, ih]

theorem toEntries_table (secs : Sections) :
    (table secs).toEntries = secs.map fun s => (s.1, .table s.2) := by
  rw [Table.toEntries, table, Table.tableEntries]
  induction secs with
  | nil => rfl
  | cons s secs ih =>
    rw [List.map_cons, Table.entryValues, sectionNode, Table.nodeValue, sectionTable, Table.tableEntries,
      entryValues_values, ih, List.map_cons]

/-- A document of sections with names and keys of their own reads as their table. -/
theorem read_of_says (h : Says text secs.statements) (hdistinct : Distinct secs)
    (hmark : text.head? ≠ some '\ufeff') :
    read text = some (secs.map fun s => (s.1, .table s.2)) := by
  have hdistinct : Distinct ([] ++ secs) := hdistinct
  obtain ⟨here, hassemble⟩ := assemble_sections hdistinct []
  have hempty : Document.empty = ⟨table [], []⟩ := rfl
  rw [read, h.statements hmark, hempty]
  simp [hassemble, toEntries_table]

end Sections

end HostWatch.Toml
