import HostWatch.Toml.Reader

/-!
# Whole numbers of a document

A whole number is read only if it fits into 64 bits, wherever in a document it stands: alone, in an
array, or in a table that is put together from headers, dotted keys and inline tables. `inRange_read`
says so of all values of a document.
-/

namespace HostWatch.Toml

variable {cs rest : List Char} {v : Value} {key : String} {path : List String}

/-- Every whole number in a value fits into 64 bits. -/
inductive Value.InRange : Value → Prop where
  /-- A string. -/
  | string (s : String) : InRange (.string s)
  /-- A whole number that fits. -/
  | integer {z : Int} : Int64.minValue.toInt ≤ z → z ≤ Int64.maxValue.toInt → InRange (.integer z)
  /-- A floating-point number. -/
  | float (literal : List Char) : InRange (.float literal)
  /-- A truth value. -/
  | boolean (b : Bool) : InRange (.boolean b)
  /-- A date or a time. -/
  | dateTime (literal : List Char) : InRange (.dateTime literal)
  /-- An array of such values. -/
  | array {items : List Value} : (∀ v ∈ items, InRange v) → InRange (.array items)
  /-- A table of such values. -/
  | table {entries : List (String × Value)} : (∀ e ∈ entries, InRange e.2) →
    InRange (.table entries)

/-! ### Single values -/

theorem inRange_of_fits? {z z' : Int} (h : fits? z = some z') : (Value.integer z').InRange := by
  unfold fits? at h
  split at h
  · next hz =>
    cases h
    exact .integer hz.1 hz.2
  · cases h

theorem inRange_of_integer (h : integer cs = some (v, rest)) : v.InRange := by
  have based {base : Nat} {cs : List Char} (h : integer.based base cs = some (v, rest)) :
      v.InRange := by
    simp only [integer.based, Option.bind_eq_bind, Option.bind_eq_some_iff, Option.pure_def,
      Option.some.injEq, Prod.mk.injEq] at h
    obtain ⟨_, -, z, hz, rfl, -⟩ := h
    exact inRange_of_fits? hz
  unfold integer at h
  split at h
  · exact based h
  · exact based h
  · exact based h
  · simp only [Option.bind_eq_bind, Option.bind_eq_some_iff, Option.pure_def, Option.some.injEq,
      Prod.mk.injEq] at h
    obtain ⟨_, -, z, hz, rfl, -⟩ := h
    exact inRange_of_fits? hz

theorem inRange_of_float (h : float cs = some (v, rest)) : v.InRange := by
  have literal {p : Prop} [Decidable p] {l after : List Char}
      (h : (if p then none else some (Value.float l, after)) = some (v, rest)) : v.InRange := by
    split at h
    · cases h
    · cases h
      exact .float l
  simp only [float] at h
  split at h
  · cases h
    exact .float _
  · cases h
    exact .float _
  · obtain ⟨⟨negative, whole, after⟩, -, h⟩ := Option.bind_eq_some_iff.mp h
    dsimp only at h
    split at h
    · obtain ⟨⟨fraction, after⟩, -, h⟩ := Option.bind_eq_some_iff.mp h
      dsimp only at h
      split at h
      · exact literal h
      · exact literal h
    · obtain ⟨⟨fraction, e, after⟩, -, h⟩ := Option.bind_eq_some_iff.mp h
      exact literal h

theorem inRange_of_dateTime (h : dateTime cs = some (v, rest)) : v.InRange := by
  have literal {x : Option (List Char)} (h : (x.bind fun rest =>
      some (Value.dateTime (cs.take (cs.length - rest.length)), rest)) = some (v, rest)) :
      v.InRange := by
    obtain ⟨after, -, h⟩ := Option.bind_eq_some_iff.mp h
    cases h
    exact .dateTime _
  unfold dateTime at h
  split at h
  · split at h
    · split at h
      · split at h
        · exact literal h
        · exact literal h
      · exact literal h
    · exact literal h
  · exact literal h

theorem inRange_of_numeral (h : numeral cs = some (v, rest)) : v.InRange := by
  unfold numeral at h
  split at h
  · next hdate =>
    cases h
    exact inRange_of_dateTime hdate
  · split at h
    · next hfloat =>
      cases h
      exact inRange_of_float hfloat
    · exact inRange_of_integer h

/-! ### Tables that are put together -/

/-- What every step of a fold keeps, the fold keeps. -/
theorem foldlM_keeps {α σ : Type} {P : σ → Prop} {g : σ → α → Option σ} {xs : List α} {s s' : σ}
    (hg : ∀ x ∈ xs, ∀ s s', P s → g s x = some s' → P s') (hs : P s)
    (h : xs.foldlM g s = some s') : P s' := by
  induction xs generalizing s with
  | nil =>
    cases h
    exact hs
  | cons x xs ih =>
    obtain ⟨hx, hxs⟩ := List.forall_mem_cons.mp hg
    rw [List.foldlM_cons] at h
    obtain ⟨s₁, hs₁, h⟩ := Option.bind_eq_some_iff.mp h
    exact ih hxs (hx s s₁ hs hs₁) h

mutual

/-- Every whole number in a node fits into 64 bits. -/
inductive Node.InRange : Node → Prop where
  /-- A value. -/
  | value {v : Value} : v.InRange → Node.InRange (.value v)
  /-- A table. -/
  | table {t : Table} : Table.InRange t → Node.InRange (.table t)
  /-- An array of tables. -/
  | tables {ts : List Table} : (∀ t ∈ ts, Table.InRange t) → Node.InRange (.tables ts)

/-- Every whole number in a table fits into 64 bits. -/
inductive Table.InRange : Table → Prop where
  /-- The entries are such nodes. -/
  | mk {o : Origin} {es : List (String × Node)} : (∀ e ∈ es, Node.InRange e.2) →
    Table.InRange (.mk o es)

end

namespace Table

variable {t t' : Table} {ts ts' : List Table} {n : Node} {f : Table → Option Table}

/-- Whatever a change of tables makes of one whose numbers fit has numbers that fit. -/
def Keeps (f : Table → Option Table) : Prop :=
  ∀ {t t' : Table}, t.InRange → f t = some t' → t'.InRange

theorem inRange_empty (o : Origin) : InRange (.mk o []) :=
  .mk (List.forall_mem_nil _)

theorem inRange_entries (h : t.InRange) : ∀ e ∈ t.entries, e.2.InRange := by
  cases h with
  | mk h => exact h

theorem inRange_get? (h : t.InRange) (hget : t.get? key = some n) : n.InRange := by
  obtain ⟨l₁, l₂, heq, -⟩ := List.lookup_eq_some_iff.mp hget
  exact inRange_entries h (key, n) (by simp [heq])

theorem inRange_set (h : t.InRange) (hn : n.InRange) : (t.set key n).InRange := by
  have put (es : List (String × Node)) (hes : ∀ e ∈ es, e.2.InRange) :
      ∀ e ∈ set.put key n es, e.2.InRange := by
    induction es with
    | nil => simpa [set.put] using hn
    | cons e es ih =>
      obtain ⟨he, hes⟩ := List.forall_mem_cons.mp hes
      unfold set.put
      split
      · exact List.forall_mem_cons.mpr ⟨hn, hes⟩
      · exact List.forall_mem_cons.mpr ⟨he, ih hes⟩
  exact .mk (put _ (inRange_entries h))

theorem inRange_updateLast (hf : Keeps f) (h : ∀ t ∈ ts, InRange t)
    (hts : updateLast f ts = some ts') : ∀ t ∈ ts', InRange t := by
  fun_induction updateLast f ts generalizing ts' with
  | case1 => cases hts
  | case2 t =>
    obtain ⟨t', ht', rfl⟩ := Option.map_eq_some_iff.mp hts
    simpa using hf (h t (by simp)) ht'
  | case3 t ts hne ih =>
    obtain ⟨us, hus, rfl⟩ := Option.map_eq_some_iff.mp hts
    obtain ⟨ht, hts'⟩ := List.forall_mem_cons.mp h
    exact List.forall_mem_cons.mpr ⟨ht, ih hts' hus⟩

theorem keeps_updateAt (dotted : Bool) (hf : Keeps f) (path : List String) :
    Keeps (updateAt dotted f path) := by
  induction path with
  | nil => exact hf
  | cons key path ih =>
    intro t t' ht h
    unfold updateAt at h
    split at h
    · obtain ⟨child, hchild, rfl⟩ := Option.map_eq_some_iff.mp h
      exact inRange_set ht (.table (ih (inRange_empty _) hchild))
    · cases h
    · next child hget =>
      split at h
      · cases h
      · obtain ⟨child', hchild, rfl⟩ := Option.map_eq_some_iff.mp h
        cases inRange_get? ht hget with
        | table hin => exact inRange_set ht (.table (ih hin hchild))
    · next ts hget =>
      obtain ⟨ts', hts, rfl⟩ := Option.map_eq_some_iff.mp h
      cases inRange_get? ht hget with
      | tables hin => exact inRange_set ht (.tables (inRange_updateLast ih hin hts))

theorem keeps_addValue (path : List String) (hv : v.InRange) : Keeps (addValue path v) := by
  intro t t' ht h
  unfold addValue at h
  split at h
  · cases h
  · refine keeps_updateAt true ?_ _ ht h
    intro u u' hu hu'
    dsimp only at hu'
    split at hu'
    · cases hu'
    · split at hu'
      · cases hu'
      · cases hu'
        exact inRange_set hu (.value hv)

theorem inRange_ofInline? {es : List (List String × Value)} (hes : ∀ e ∈ es, e.2.InRange)
    (h : ofInline? es = some t) : t.InRange :=
  foldlM_keeps (fun e he _ _ ht => keeps_addValue e.1 (hes e he) ht) (inRange_empty _) h

mutual

theorem inRange_nodeValue : ∀ {n : Node}, n.InRange → (nodeValue n).InRange
  | .value _, .value h => h
  | .table _, .table h => .table (inRange_tableEntries h)
  | .tables _, .tables h => .array (inRange_tableValues h)

theorem inRange_tableEntries : ∀ {t : Table}, t.InRange → ∀ e ∈ tableEntries t, e.2.InRange
  | .mk _ _, .mk h => inRange_entryValues h

theorem inRange_entryValues : ∀ {es : List (String × Node)}, (∀ e ∈ es, e.2.InRange) →
    ∀ e ∈ entryValues es, e.2.InRange
  | [], _ => List.forall_mem_nil _
  | (_, _) :: _, h =>
    have ⟨he, hes⟩ := List.forall_mem_cons.mp h
    List.forall_mem_cons.mpr ⟨inRange_nodeValue he, inRange_entryValues hes⟩

theorem inRange_tableValues : ∀ {ts : List Table}, (∀ t ∈ ts, t.InRange) →
    ∀ v ∈ tableValues ts, v.InRange
  | [], _ => List.forall_mem_nil _
  | _ :: _, h =>
    have ⟨ht, hts⟩ := List.forall_mem_cons.mp h
    List.forall_mem_cons.mpr ⟨.table (inRange_tableEntries ht), inRange_tableValues hts⟩

end

end Table

/-! ### Arrays, inline tables and values -/

/-- An item reader reads values whose numbers fit. -/
def ReadsInRange (item : Scanner Value) : Prop :=
  ∀ {cs rest : List Char} {v : Value}, item cs = some (v, rest) → v.InRange

variable {item : Scanner Value}

theorem inRange_of_elements (hitem : ReadsInRange item) {fuel : Nat} {vs : List Value}
    (h : elements item fuel cs = some (vs, rest)) : ∀ v ∈ vs, v.InRange := by
  induction fuel generalizing cs vs rest with
  | zero => cases h
  | succ fuel ih =>
    unfold elements at h
    split at h
    · cases h
      exact List.forall_mem_nil _
    · simp only [Option.bind_eq_bind, Option.bind_eq_some_iff] at h
      obtain ⟨⟨v, after⟩, hv, h⟩ := h
      split at h
      · simp only [Option.bind_eq_some_iff] at h
        obtain ⟨⟨vs', rest'⟩, hvs, h⟩ := h
        cases h
        exact List.forall_mem_cons.mpr ⟨hitem hv, ih hvs⟩
      · cases h
        simpa using hitem hv
      · cases h

theorem inRange_of_keyValue (hitem : ReadsInRange item)
    (h : keyValue item cs = some ((path, v), rest)) : v.InRange := by
  simp only [keyValue, Option.bind_eq_bind, Option.bind_eq_some_iff] at h
  obtain ⟨⟨path', after⟩, -, h⟩ := h
  split at h
  · simp only [Option.bind_eq_some_iff] at h
    obtain ⟨⟨v', rest'⟩, hv, h⟩ := h
    cases h
    exact hitem hv
  · cases h

theorem inRange_of_inlineEntries (hitem : ReadsInRange item) {fuel : Nat}
    {es : List (List String × Value)} (h : inlineEntries item fuel cs = some (es, rest)) :
    ∀ e ∈ es, e.2.InRange := by
  induction fuel generalizing cs es rest with
  | zero => cases h
  | succ fuel ih =>
    simp only [inlineEntries, Option.bind_eq_bind, Option.bind_eq_some_iff] at h
    obtain ⟨⟨⟨path, v⟩, after⟩, hentry, h⟩ := h
    have hv := inRange_of_keyValue hitem hentry
    split at h
    · simp only [Option.bind_eq_some_iff] at h
      obtain ⟨⟨es', rest'⟩, hes, h⟩ := h
      cases h
      exact List.forall_mem_cons.mpr ⟨hv, ih hes⟩
    · cases h
      simpa using hv
    · cases h

theorem inRange_of_word {w : String} {u : Value} (hu : u.InRange)
    (h : word w u cs = some (v, rest)) : v.InRange := by
  unfold word at h
  split at h
  · cases h
    exact hu
  · cases h

theorem readsInRange_value (depth : Nat) : ReadsInRange (value depth) := by
  induction depth using Nat.strongRecOn with
  | ind depth ih =>
    intro cs rest v h
    unfold value at h
    split at h
    · cases h
    · cases depth with
      | zero => cases h
      | succ depth =>
        obtain ⟨⟨vs, rest'⟩, hvs, h⟩ := Option.map_eq_some_iff.mp h
        cases h
        exact .array (inRange_of_elements (ih depth (Nat.lt_succ_self depth)) hvs)
    · cases depth with
      | zero => cases h
      | succ depth =>
        dsimp only at h
        split at h
        · cases h
          exact .table (List.forall_mem_nil _)
        · simp only [Option.bind_eq_bind, Option.bind_eq_some_iff] at h
          obtain ⟨⟨es, rest'⟩, hes, t, ht, h⟩ := h
          cases h
          have hin := inRange_of_inlineEntries (ih depth (Nat.lt_succ_self depth)) hes
          exact .table (Table.inRange_tableEntries (Table.inRange_ofInline? hin ht))
    · exact inRange_of_word (.boolean true) h
    · exact inRange_of_word (.boolean false) h
    · split at h
      · obtain ⟨⟨s, rest'⟩, -, h⟩ := Option.map_eq_some_iff.mp h
        cases h
        exact .string _
      · exact inRange_of_numeral h

/-! ### Documents -/

/-- The value of a statement has numbers that fit, if it has one. -/
def Statement.InRange : Statement → Prop
  | .entry _ v => v.InRange
  | _ => True

theorem inRange_of_statement {s : Statement} (h : statement cs = some (s, rest)) : s.InRange := by
  unfold statement at h
  split at h
  · simp only [Option.bind_eq_bind, Option.bind_eq_some_iff] at h
    obtain ⟨_, -, h⟩ := h
    split at h <;> cases h
    trivial
  · simp only [Option.bind_eq_bind, Option.bind_eq_some_iff] at h
    obtain ⟨_, -, h⟩ := h
    split at h <;> cases h
    trivial
  · obtain ⟨⟨⟨path, v⟩, rest'⟩, hentry, h⟩ := Option.map_eq_some_iff.mp h
    cases h
    exact inRange_of_keyValue (readsInRange_value maxDepth) hentry

theorem inRange_of_lines {fuel : Nat} {ss : List Statement} (h : lines fuel cs = some ss) :
    ∀ s ∈ ss, s.InRange := by
  induction fuel generalizing cs ss with
  | zero => cases h
  | succ fuel ih =>
    unfold lines at h
    split at h
    · cases h
      exact List.forall_mem_nil _
    · split at h
      · split at h
        · cases h
        · exact ih h
      · simp only [Option.bind_eq_bind, Option.bind_eq_some_iff] at h
        obtain ⟨⟨s, after⟩, hs, rest', -, more, hmore, h⟩ := h
        cases h
        exact List.forall_mem_cons.mpr ⟨inRange_of_statement hs, ih hmore⟩

theorem keeps_openTable {d d' : Document} (hd : d.root.InRange) (h : d.openTable path = some d') :
    d'.root.InRange := by
  simp only [Document.openTable, Option.bind_eq_bind, Option.bind_eq_some_iff] at h
  obtain ⟨key, -, root, hroot, h⟩ := h
  cases h
  refine Table.keeps_updateAt false ?_ _ hd hroot
  intro t t' ht ht'
  dsimp only at ht'
  split at ht'
  · cases ht'
    exact Table.inRange_set ht (.table (Table.inRange_empty _))
  · next child hget =>
    split at ht'
    · cases ht'
      cases Table.inRange_get? ht hget with
      | table hchild => exact Table.inRange_set ht (.table (.mk (Table.inRange_entries hchild)))
    · cases ht'
  · cases ht'

theorem keeps_openElement {d d' : Document} (hd : d.root.InRange)
    (h : d.openElement path = some d') : d'.root.InRange := by
  simp only [Document.openElement, Option.bind_eq_bind, Option.bind_eq_some_iff] at h
  obtain ⟨key, -, root, hroot, h⟩ := h
  cases h
  have hempty := Table.inRange_empty .explicit
  refine Table.keeps_updateAt false ?_ _ hd hroot
  intro t t' ht ht'
  dsimp only at ht'
  split at ht'
  · cases ht'
    exact Table.inRange_set ht (.tables (by simpa using hempty))
  · next ts hget =>
    cases ht'
    cases Table.inRange_get? ht hget with
    | tables hts =>
      exact Table.inRange_set ht (.tables (List.forall_mem_append.mpr ⟨hts, by simpa using hempty⟩))
  · cases ht'

theorem keeps_addEntry {d d' : Document} (hd : d.root.InRange) (hv : v.InRange)
    (h : d.addEntry path v = some d') : d'.root.InRange := by
  simp only [Document.addEntry, Option.bind_eq_bind, Option.bind_eq_some_iff] at h
  obtain ⟨root, hroot, h⟩ := h
  cases h
  exact Table.keeps_updateAt false (Table.keeps_addValue path hv) _ hd hroot

theorem inRange_of_assemble {ss : List Statement} {d d' : Document} (hss : ∀ s ∈ ss, s.InRange)
    (hd : d.root.InRange) (h : assemble ss d = some d') : d'.root.InRange := by
  induction ss generalizing d with
  | nil =>
    cases h
    exact hd
  | cons s ss ih =>
    obtain ⟨hs, hrest⟩ := List.forall_mem_cons.mp hss
    cases s with
    | table path =>
      obtain ⟨d₁, hd₁, h⟩ := Option.bind_eq_some_iff.mp h
      exact ih hrest (keeps_openTable hd hd₁) h
    | element path =>
      obtain ⟨d₁, hd₁, h⟩ := Option.bind_eq_some_iff.mp h
      exact ih hrest (keeps_openElement hd hd₁) h
    | entry path v =>
      obtain ⟨d₁, hd₁, h⟩ := Option.bind_eq_some_iff.mp h
      exact ih hrest (keeps_addEntry hd hs hd₁) h

/-- Every whole number of a document fits into 64 bits. -/
theorem inRange_read {es : List (String × Value)} (h : read cs = some es) :
    (Value.table es).InRange := by
  simp only [read, Option.bind_eq_bind, Option.bind_eq_some_iff] at h
  obtain ⟨ss, hss, d, hd, h⟩ := h
  cases h
  have hroot := inRange_of_assemble (inRange_of_lines hss) (Table.inRange_empty _) hd
  exact .table (Table.inRange_tableEntries hroot)

end HostWatch.Toml
