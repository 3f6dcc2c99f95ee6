import HostWatch.Proofs.Report.Lines

/-!
# What an ingestion publishes

An input is any octets, and its reports are those on its lines, up to the first line that is not
text (`ofInput_eq`). It makes no difference to them whether a line ends with a carriage return
before its line feed or without one, nor whether the last line has an end, and they are told part
by part where an input is split at a line feed.

Whatever takes the reports may refuse one at any time, and a signal may end the reading between any
two lines. What has been taken by then is always a beginning of the reports, and the answer says how
many they are, or why the next one was refused (`ingestion`).
-/

namespace HostWatch

/-! ### Blank ends -/

namespace Text

variable {p : Char → Bool}

theorem dropEndWhile_append {c : Char} (hc : p c) (cs : List Char) :
    dropEndWhile p (cs ++ [c]) = dropEndWhile p cs := by
  rw [dropEndWhile, dropEndWhile, List.reverse_append, List.reverse_singleton,
    List.singleton_append, List.dropWhile_cons_of_pos hc]

/-- What is dropped at the end may as well not be there. -/
theorem trimBy_append {c : Char} (hc : p c) (cs : List Char) :
    trimBy p (cs ++ [c]) = trimBy p cs := by
  rw [trimBy, trimBy, List.dropWhile_append]
  split
  · next hall =>
    rw [List.isEmpty_iff.mp hall, List.dropWhile_cons_of_pos hc, List.dropWhile_nil]
  · exact dropEndWhile_append hc _

end Text

namespace Report

/-! ### Reports on lines -/

/-- The reports on lines of octets, up to the first line that is not text. -/
def onLines : List Bytes → List Report
  | [] => []
  | line :: lines =>
    match Utf8.toString? line with
    | none => []
    | some text => (ofLine? text).toList ++ onLines lines

variable {a b line : Bytes} {lines lines' : List Bytes}

/-- A carriage return at the end of a line holds nothing. -/
theorem ofLine?_return (cs : List Char) :
    ofLine? (String.ofList (cs ++ ['\r'])) = ofLine? (String.ofList cs) := by
  rw [ofLine?, ofLine?, String.toList_ofList, String.toList_ofList, Text.trim, Text.trim,
    Text.trimBy_append (by decide)]

/-- What a line holds, if it is text. -/
theorem map_toString?_return (line : Bytes) :
    (Utf8.toString? (line ++ [0x0D])).map ofLine? = (Utf8.toString? line).map ofLine? := by
  rw [Utf8.toString?, Utf8.toString?, Utf8.decode?_append_ascii (by decide), Utf8.decode?_nil]
  cases Utf8.decode? line with
  | none => rfl
  | some cs => exact congrArg some (ofLine?_return cs)

/-- What a line holds decides what it contributes. -/
theorem onLines_cons_congr {line' : Bytes} (h : (Utf8.toString? line).map ofLine? =
    (Utf8.toString? line').map ofLine?) (hlines : onLines lines = onLines lines') :
    onLines (line :: lines) = onLines (line' :: lines') := by
  rw [onLines, onLines, hlines]
  cases hline : Utf8.toString? line <;> cases hline' : Utf8.toString? line' <;>
    simp_all only [Option.map_none, Option.map_some, Option.some.injEq, reduceCtorEq]

theorem onLines_return (line : Bytes) (lines : List Bytes) :
    onLines ((line ++ [0x0D]) :: lines) = onLines (line :: lines) :=
  onLines_cons_congr (map_toString?_return line) rfl

theorem onLines_dropReturn (line : Bytes) (lines : List Bytes) :
    onLines (dropReturn line :: lines) = onLines (line :: lines) := by
  unfold dropReturn
  split
  · next hlast =>
    obtain ⟨ds, hds⟩ := List.getLast?_eq_some_iff.mp hlast
    rw [hds, List.dropLast_concat, onLines_return]
  · rfl

/-- An empty line holds nothing. -/
theorem onLines_empty (lines : List Bytes) : onLines ([] :: lines) = onLines lines := by
  rw [onLines, Utf8.toString?, Utf8.decode?_nil]
  rfl

theorem onLines_concat_empty (lines : List Bytes) : onLines (lines ++ [[]]) = onLines lines := by
  induction lines with
  | nil => exact onLines_empty []
  | cons line lines ih => exact onLines_cons_congr rfl ih

/-- Behind lines that are text, the lines go on. -/
theorem onLines_append (h : ∀ line ∈ lines, (Utf8.decode? line).isSome) (lines' : List Bytes) :
    onLines (lines ++ lines') = onLines lines ++ onLines lines' := by
  induction lines with
  | nil => rfl
  | cons line lines ih =>
    obtain ⟨hline, hlines⟩ := List.forall_mem_cons.mp h
    obtain ⟨cs, hcs⟩ := Option.isSome_iff_exists.mp hline
    rw [List.cons_append, onLines, onLines, Utf8.toString?, hcs, Option.map_some]
    simp only
    rw [ih hlines, List.append_assoc]

/-- The reports on lines are those that the lines of text in front hold. -/
theorem onLines_eq (lines : List Bytes) : onLines lines =
    (((lines.map Utf8.toString?).takeWhile Option.isSome).filterMap id).filterMap ofLine? := by
  induction lines with
  | nil => rfl
  | cons line lines ih =>
    rw [onLines, List.map_cons]
    cases Utf8.toString? line with
    | none => rfl
    | some text =>
      rw [List.takeWhile_cons_of_pos rfl, List.filterMap_cons_some (f := id) rfl,
        List.filterMap_cons, ← ih]
      simp only
      cases ofLine? text <;> rfl

/-! ### The reports of an input -/

theorem ofInput_eq_onLines (input : Bytes) : ofInput input = onLines (splitLines input) :=
  (onLines_eq _).symm

/-- An input is a line without an end, or begins with one that has an end. -/
theorem lines_induction {P : Bytes → Prop} (last : ∀ line, 0x0A ∉ line → P line)
    (line : ∀ line rest, 0x0A ∉ line → P rest → P (line ++ 0x0A :: rest)) (input : Bytes) :
    P input := by
  induction hn : input.length using Nat.strongRecOn generalizing input with
  | _ n ih =>
    by_cases hfeed : 0x0A ∈ input
    · obtain ⟨first, rest, rfl, hfirst⟩ := List.eq_append_cons_of_mem hfeed
      have hlt : rest.length < n := by
        rw [← hn, List.length_append, List.length_cons]
        omega
      exact line first rest hfirst (ih _ hlt rest rfl)
    · exact last input hfeed

/-- The reports of an input are those on what stands between its line feeds. -/
theorem ofInput_eq (input : Bytes) : ofInput input = onLines (input.splitOn 0x0A) := by
  rw [ofInput_eq_onLines]
  induction input using lines_induction with
  | last line hline =>
    rw [List.splitOn_eq_singleton hline]
    by_cases hempty : line = []
    · rw [hempty, splitLines_nil, onLines_empty]
    · rw [splitLines_of_not_mem hline hempty]
  | line line rest hline ih =>
    rw [splitLines_append hline, onLines_dropReturn,
      List.splitOn_append_cons_self_of_not_mem hline]
    exact onLines_cons_congr rfl ih

/-- A carriage return before a line feed belongs to the line end. -/
theorem ofInput_return (a b : Bytes) :
    ofInput (a ++ 0x0D :: 0x0A :: b) = ofInput (a ++ 0x0A :: b) := by
  rw [ofInput_eq, ofInput_eq]
  induction a using lines_induction with
  | last line hline =>
    have hreturn : 0x0A ∉ line ++ [0x0D] := fun h => (List.mem_append.mp h).elim hline (by decide)
    have hsplit := List.splitOn_append_cons_self_of_not_mem hreturn b
    rw [List.append_assoc, List.singleton_append] at hsplit
    rw [hsplit, List.splitOn_append_cons_self_of_not_mem hline, onLines_return]
  | line line rest hline ih =>
    rw [List.append_assoc, List.append_assoc, List.cons_append, List.cons_append,
      List.splitOn_append_cons_self_of_not_mem hline,
      List.splitOn_append_cons_self_of_not_mem hline]
    exact onLines_cons_congr rfl ih

/-- A line feed at the end of an input ends its last line. -/
theorem ofInput_concat (a : Bytes) : ofInput (a ++ [0x0A]) = ofInput a := by
  rw [ofInput_eq, ofInput_eq, List.splitOn_append_cons_self, List.splitOn_nil,
    onLines_concat_empty]

/-- Every line of a text is text. -/
theorem isSome_decode?_of_mem_splitOn (h : (Utf8.decode? a).isSome) :
    ∀ line ∈ a.splitOn 0x0A, (Utf8.decode? line).isSome := by
  induction a using lines_induction with
  | last line hline =>
    rw [List.splitOn_eq_singleton hline]
    exact List.forall_mem_singleton.mpr h
  | line line rest hline ih =>
    rw [Utf8.isSome_decode?_append_ascii (by decide), Bool.and_eq_true] at h
    rw [List.splitOn_append_cons_self_of_not_mem hline]
    exact List.forall_mem_cons.mpr ⟨h.1, ih h.2⟩

/-- Behind a text the reports go on at the next line. -/
theorem ofInput_append (h : (Utf8.decode? a).isSome) (b : Bytes) :
    ofInput (a ++ 0x0A :: b) = ofInput a ++ ofInput b := by
  rw [ofInput_eq, ofInput_eq, ofInput_eq, List.splitOn_append_cons_self,
    onLines_append (isSome_decode?_of_mem_splitOn h)]

/-! ### How an ingestion ends -/

section Taking

variable {σ ε : Type} {publish : Report → σ → Except ε Unit × σ} {r : Report} {rs : List Report}
  {s s₁ s' : σ} {n : Nat} {e : ε}

/-- Reports are taken, one after another and no other. -/
inductive Taken (publish : Report → σ → Except ε Unit × σ) : List Report → σ → σ → Prop where
  /-- None is. -/
  | nil (s : σ) : Taken publish [] s s
  /-- The first one is, and then the others. -/
  | cons {r : Report} {rs : List Report} {s s₁ s' : σ} : publish r s = (.ok (), s₁) →
    Taken publish rs s₁ s' → Taken publish (r :: rs) s s'

theorem taken_nil : Taken publish [] s s' ↔ s = s' :=
  ⟨fun h => by cases h; rfl, fun h => h ▸ .nil s⟩

theorem taken_cons : Taken publish (r :: rs) s s' ↔
    ∃ s₁, publish r s = (.ok (), s₁) ∧ Taken publish rs s₁ s' :=
  ⟨fun h => by cases h with | cons hr hrs => exact ⟨_, hr, hrs⟩, fun ⟨_, hr, hrs⟩ => .cons hr hrs⟩

/-- Some report is refused, the first one at the given place; those before it are taken. -/
def RefusedAt (publish : Report → σ → Except ε Unit × σ) (rs : List Report) (i : Nat) (s : σ)
    (e : ε) (s' : σ) : Prop :=
  ∃ r s₁, rs[i]? = some r ∧ Taken publish (rs.take i) s s₁ ∧ publish r s₁ = (.error e, s')

theorem refusedAt_zero : RefusedAt publish (r :: rs) 0 s e s' ↔ publish r s = (.error e, s') := by
  constructor
  · rintro ⟨r', s₁, hr, htaken, hrefused⟩
    cases hr
    cases taken_nil.mp htaken
    exact hrefused
  · exact fun h => ⟨r, s, rfl, .nil s, h⟩

theorem refusedAt_succ {i : Nat} : RefusedAt publish (r :: rs) (i + 1) s e s' ↔
    ∃ s₁, publish r s = (.ok (), s₁) ∧ RefusedAt publish rs i s₁ e s' := by
  constructor
  · rintro ⟨r', s₂, hr, htaken, hrefused⟩
    obtain ⟨s₁, hfirst, hrest⟩ := taken_cons.mp htaken
    exact ⟨s₁, hfirst, r', s₂, hr, hrest, hrefused⟩
  · rintro ⟨s₁, hfirst, r', s₂, hr, hrest, hrefused⟩
    exact ⟨r', s₂, hr, .cons hfirst hrest, hrefused⟩

theorem publishAll_cons_error (h : publish r s = (.error e, s₁)) :
    publishAll publish (r :: rs) s = (.error e, s₁) := by
  rw [publishAll, h]

theorem publishAll_cons_ok (h : publish r s = (.ok (), s₁)) : publishAll publish (r :: rs) s =
    ((publishAll publish rs s₁).1.map (· + 1), (publishAll publish rs s₁).2) := by
  rw [publishAll, h]

theorem publishAll_cons_eq_ok (h : publish r s = (.ok (), s₁)) :
    publishAll publish (r :: rs) s = (.ok n, s') ↔
      ∃ m, n = m + 1 ∧ publishAll publish rs s₁ = (.ok m, s') := by
  rw [publishAll_cons_ok h]
  obtain ⟨result, s₂⟩ := publishAll publish rs s₁
  cases result <;> simp [Except.map, eq_comm]

theorem publishAll_cons_eq_error (h : publish r s = (.ok (), s₁)) :
    publishAll publish (r :: rs) s = (.error e, s') ↔
      publishAll publish rs s₁ = (.error e, s') := by
  rw [publishAll_cons_ok h]
  obtain ⟨result, s₂⟩ := publishAll publish rs s₁
  cases result <;> simp [Except.map]

/-- The answer is a number if all reports are taken, and then it is their number. -/
theorem publishAll_eq_ok : publishAll publish rs s = (.ok n, s') ↔
    n = rs.length ∧ Taken publish rs s s' := by
  induction rs generalizing s n with
  | nil =>
    rw [publishAll, taken_nil]
    simp only [Prod.mk.injEq, Except.ok.injEq, List.length_nil, eq_comm]
  | cons r rs ih =>
    rw [taken_cons]
    rcases hr : publish r s with ⟨_ | _, s₁⟩
    · simp [publishAll_cons_error hr]
    · simp [publishAll_cons_eq_ok hr, ih]

/-- Otherwise the answer is why the first report was refused that was not taken. -/
theorem publishAll_eq_error : publishAll publish rs s = (.error e, s') ↔
    ∃ i, RefusedAt publish rs i s e s' := by
  induction rs generalizing s with
  | nil => simp [publishAll, RefusedAt]
  | cons r rs ih =>
    rw [← Nat.or_exists_add_one, refusedAt_zero]
    simp only [refusedAt_succ]
    rcases hr : publish r s with ⟨_ | _, s₁⟩
    · simp [publishAll_cons_error hr]
    · simp [publishAll_cons_eq_error hr, ih]

end Taking

/-- The reports on the first lines of an input are a beginning of its reports. -/
theorem filterMap_take_textLines (input : Bytes) (read : Nat) : ∃ k ≤ (ofInput input).length,
    ((textLines input).take read).filterMap ofLine? = (ofInput input).take k := by
  have hprefix : ((textLines input).take read).filterMap ofLine? <+: ofInput input :=
    (List.take_prefix read _).filterMap ofLine?
  exact ⟨_, hprefix.length_le, List.prefix_iff_eq_take.mp hprefix⟩

/-- What an ingestion of an input publishes, and what it answers. -/
structure Ingests (input : Bytes) : Prop where
  /-- The reports of the input are those on what stands between its line feeds. -/
  reports : ofInput input = onLines (input.splitOn 0x0A)
  /-- Without a signal, the answer is a number if and only if all reports are published, and it is
  their number. -/
  complete : ∀ {σ ε : Type} (publish : Report → σ → Except ε Unit × σ) (s s' : σ) (n : Nat),
    ingest publish none input s = (.ok n, s') ↔
      n = (ofInput input).length ∧ Taken publish (ofInput input) s s'
  /-- It is an error if and only if some report is refused with it, and then those before it are
  published and nothing else. -/
  refused : ∀ {σ ε : Type} (publish : Report → σ → Except ε Unit × σ) (s s' : σ) (e : ε),
    ingest publish none input s = (.error e, s') ↔
      ∃ i, RefusedAt publish (ofInput input) i s e s'
  /-- Whenever a signal ends the reading, it leaves a beginning of the reports, which are then
  published in the same way. -/
  stopped : ∀ read, ∃ k ≤ (ofInput input).length,
    ∀ {σ ε : Type} (publish : Report → σ → Except ε Unit × σ) (s s' : σ),
      (∀ n, ingest publish (some read) input s = (.ok n, s') ↔
        n = k ∧ Taken publish ((ofInput input).take k) s s') ∧
      (∀ e, ingest publish (some read) input s = (.error e, s') ↔
        ∃ i, RefusedAt publish ((ofInput input).take k) i s e s')
  /-- A carriage return before a line feed changes no report. -/
  returns : ∀ a b, input = a ++ 0x0A :: b → ofInput (a ++ 0x0D :: 0x0A :: b) = ofInput input
  /-- Neither does a line feed at the end. -/
  unterminated : ofInput (input ++ [0x0A]) = ofInput input
  /-- If the input is text, its reports come before those of what follows on the next line. -/
  joined : (Utf8.decode? input).isSome → ∀ b, ofInput (input ++ 0x0A :: b) = ofInput input ++ ofInput b

/-- Every input is ingested report by report, however the ingestion ends. -/
theorem ingests (input : Bytes) : Ingests input where
  reports := ofInput_eq input
  complete _ _ _ _ := publishAll_eq_ok
  refused _ _ _ _ := publishAll_eq_error
  stopped read := by
    obtain ⟨k, hk, htake⟩ := filterMap_take_textLines input read
    refine ⟨k, hk, fun publish s s' => ?_⟩
    rw [ingest, htake]
    refine ⟨fun n => ?_, fun e => publishAll_eq_error⟩
    rw [publishAll_eq_ok, List.length_take_of_le hk]
  returns a b h := h ▸ ofInput_return a b
  unterminated := ofInput_concat input
  joined := ofInput_append

end Report

end HostWatch
