import HostWatch.Toml.Quoted

/-!
# Written strings read back

`Quoted.write` has six ways to write a string. Whichever it takes, the string reads back from it, up
to the line end behind it (`read_write`).

Between quotes a string is written character by character (`writeBasic_cons`). A string of several
lines may hold one or two marks in a row, which stand for themselves; three of them close it. So what
is read is followed together with the run of marks in front of it (`ReadsMarks.kept`,
`ReadsMarks.closed`).
-/

namespace HostWatch.Toml.Quoted

variable {c d : Char} {s text left : List Char}

/-! ### Escapes -/

theorem hiddenLineEnd?_cons (hspace : isSpace c = false) (hfeed : c ≠ '\n') (hreturn : c ≠ '\r')
    (rest : List Char) : hiddenLineEnd? (c :: rest) = none := by
  have hskip : skipSpace (c :: rest) = c :: rest := by simp [skipSpace, hspace]
  rw [hiddenLineEnd?, hskip, Option.map_eq_none_iff]
  unfold lineEnd?
  split
  · next heq => exact absurd (List.cons.inj heq).1 hfeed
  · next heq => exact absurd (List.cons.inj heq).1 hreturn
  · rfl

/-- The text is an escape of the character: a backslash, and behind it neither a line end that it
hides nor anything else than the character. -/
structure Escapes (c : Char) (text : List Char) : Prop where
  /-- What follows the backslash. -/
  reads : ∃ letter more, text = '\\' :: letter :: more ∧
    ∀ rest, escape (letter :: (more ++ rest)) = some (c, rest) ∧
      hiddenLineEnd? (letter :: (more ++ rest)) = none

/-- A letter behind the backslash stands for a character. -/
theorem Escapes.letter {letter : Char} (h : ∀ rest, escape (letter :: rest) = some (c, rest))
    (hspace : isSpace letter = false ∧ letter ≠ '\n' ∧ letter ≠ '\r') :
    Escapes c ['\\', letter] where
  reads := by
    refine ⟨letter, [], rfl, fun rest => ⟨h rest, ?_⟩⟩
    exact hiddenLineEnd?_cons hspace.1 hspace.2.1 hspace.2.2 rest

theorem Escapes.quote : Escapes '"' ['\\', '"'] :=
  .letter (fun _ => rfl) (by decide)

theorem Escapes.backslash : Escapes '\\' ['\\', '\\'] :=
  .letter (fun _ => rfl) (by decide)

/-- A number of four digits stands for an octet. -/
theorem hexEscape_octet (h : c.toNat < 0x100) (rest : List Char) :
    hexEscape 4 ('0' :: '0' :: Ascii.hexUpper (c.toNat / 16) :: Ascii.hexUpper (c.toNat % 16) :: rest) =
      some (c, rest) := by
  have hzero : Ascii.hexValue? '0' = some 0 := by decide
  have hhigh := Ascii.hexValue?_hexUpper (show c.toNat / 16 < 16 by omega)
  have hlow := Ascii.hexValue?_hexUpper (show c.toNat % 16 < 16 by omega)
  have hvalue : ((0 * 16 + 0) * 16 + c.toNat / 16) * 16 + c.toNat % 16 = c.toNat := by omega
  have hvalid : c.toNat.isValidChar := c.valid
  simp only [hexEscape, List.take_succ_cons, List.take_zero, List.foldlM_cons, List.foldlM_nil,
    hzero, hhigh, hlow]
  rw [if_neg (by simp)]
  simp only [Option.map_some, Option.pure_def, Option.bind_eq_bind, Option.bind_some, hvalue]
  rw [if_pos hvalid, Char.ofNat_toNat]
  rfl

theorem Escapes.escaped (h : c.toNat < 0x20 ∨ c.toNat = 0x7F) : Escapes c (escaped c) := by
  unfold Quoted.escaped
  split
  · next heq => exact heq ▸ .letter (fun _ => rfl) (by decide)
  split
  · next heq => exact heq ▸ .letter (fun _ => rfl) (by decide)
  split
  · next heq => exact heq ▸ .letter (fun _ => rfl) (by decide)
  split
  · next heq => exact heq ▸ .letter (fun _ => rfl) (by decide)
  split
  · next heq => exact heq ▸ .letter (fun _ => rfl) (by decide)
  · refine ⟨'u', _, rfl, fun rest => ⟨?_, ?_⟩⟩
    · exact hexEscape_octet (by omega) rest
    · exact hiddenLineEnd?_cons (by decide) (by decide) (by decide) _

theorem Escapes.head?_append (h : Escapes c text) (rest : List Char) :
    (text ++ rest).head? = some '\\' := by
  obtain ⟨letter, more, rfl, -⟩ := h.reads
  rfl

/-- What is written between quotes for a character behind a run of quotes, and the run behind that. -/
inductive CharText (lines : Bool) : Nat → Char → List Char → Nat → Prop where
  /-- On several lines, a quote stands for itself up to the second one in a row. -/
  | quote {run : Nat} : lines = true → run < 2 → CharText lines run '"' ['"'] (run + 1)
  /-- On several lines, a line feed stands for itself. -/
  | feed {run : Nat} : lines = true → CharText lines run '\n' ['\n'] 0
  /-- A character may be escaped. -/
  | escape {run : Nat} {c : Char} {text : List Char} : Escapes c text → CharText lines run c text 0
  /-- A character that needs no escape stands for itself. -/
  | plain {run : Nat} {c : Char} : c ≠ '"' → c ≠ '\\' → ¬ (c.toNat < 0x20 ∨ c.toNat = 0x7F) →
    CharText lines run c [c] 0

/-- What is written between quotes is written character by character. -/
theorem writeBasic_cons (lines : Bool) (run : Nat) (c : Char) (s : List Char) : ∃ text run',
    writeBasic lines run (c :: s) = text ++ writeBasic lines run' s ∧
      CharText lines run c text run' := by
  rw [writeBasic]
  by_cases hquote : c = '"'
  · subst hquote
    rw [if_pos rfl]
    by_cases hmost : (if lines then 2 else 0) ≤ run
    · rw [if_pos hmost]
      exact ⟨_, 0, rfl, .escape .quote⟩
    · rw [if_neg hmost]
      cases lines with
      | false => exact absurd (Nat.zero_le run) hmost
      | true => exact ⟨_, run + 1, rfl, .quote rfl (Nat.lt_of_not_le hmost)⟩
  rw [if_neg hquote]
  by_cases hbackslash : c = '\\'
  · subst hbackslash
    exact ⟨_, 0, rfl, .escape .backslash⟩
  rw [if_neg hbackslash]
  by_cases hfeed : c = '\n' ∧ lines = true
  · obtain ⟨rfl, hlines⟩ := hfeed
    rw [if_pos ⟨rfl, hlines⟩]
    exact ⟨_, 0, rfl, .feed hlines⟩
  rw [if_neg hfeed]
  by_cases hcontrol : c.toNat < 0x20 ∨ c.toNat = 0x7F
  · rw [if_pos hcontrol]
    exact ⟨_, 0, rfl, .escape (.escaped hcontrol)⟩
  · rw [if_neg hcontrol]
    exact ⟨_, 0, rfl, .plain hquote hbackslash hcontrol⟩

/-! ### One line -/

theorem basic_of_escapes (h : Escapes c text) {rest : List Char} (hr : basic rest = some (s, left)) :
    basic (text ++ rest) = some (c :: s, left) := by
  obtain ⟨letter, more, rfl, hreads⟩ := h.reads
  simp only [List.cons_append]
  rw [basic]
  split
  · next hnone => simp [(hreads rest).1] at hnone
  · next c' after hsome =>
    rw [(hreads rest).1] at hsome
    cases hsome
    rw [hr]
    rfl

/-- A character that needs no escape between quotes stands for itself. -/
theorem inBasic_of_plain (hquote : c ≠ '"') (hbackslash : c ≠ '\\')
    (hcontrol : ¬ (c.toNat < 0x20 ∨ c.toNat = 0x7F)) : inBasic c = true := by
  simp only [inBasic, Bool.or_eq_true, Bool.and_eq_true, decide_eq_true_eq]
  refine .inr ⟨⟨⟨?_, ?_⟩, hquote⟩, hbackslash⟩ <;> omega

theorem basic_cons (hquote : c ≠ '"') (hbackslash : c ≠ '\\')
    (hcontrol : ¬ (c.toNat < 0x20 ∨ c.toNat = 0x7F)) {rest : List Char}
    (hr : basic rest = some (s, left)) : basic (c :: rest) = some (c :: s, left) := by
  rw [basic, if_pos (inBasic_of_plain hquote hbackslash hcontrol), hr]
  · rfl
  · exact hquote
  · exact hbackslash

/-- Quotes, backslashes and control characters are escaped on one line. -/
theorem basic_writeBasic (s rest : List Char) :
    basic (writeBasic false 0 s ++ '"' :: rest) = some (s, rest) := by
  induction s with
  | nil =>
    rw [writeBasic, List.nil_append, basic]
  | cons c s ih =>
    obtain ⟨text, run, hwritten, htext⟩ := writeBasic_cons false 0 c s
    rw [hwritten, List.append_assoc]
    cases htext with
    | quote hlines => cases hlines
    | feed hlines => cases hlines
    | escape hescapes => exact basic_of_escapes hescapes ih
    | plain hquote hbackslash hcontrol => exact basic_cons hquote hbackslash hcontrol ih

/-- What stands for itself between apostrophes. -/
theorem literal_append (h : ∀ c ∈ s, inLiteral c = true) (rest : List Char) :
    literal (s ++ '\'' :: rest) = some (s, rest) := by
  induction s with
  | nil =>
    rw [List.nil_append, literal, if_pos rfl]
  | cons c s ih =>
    have hc := h c (by simp)
    have hmark : c ≠ '\'' := by
      rintro rfl
      simp [inLiteral] at hc
    rw [List.cons_append, literal, if_neg hmark, if_pos hc, ih fun d hd => h d (by simp [hd])]
    rfl

/-! ### Several lines -/

/-- A string of several lines is read with a mark that closes it three times in a row, and stands for
itself before anything else. -/
structure ReadsMarks (mark : Char) (f : List Char → Option (List Char × List Char)) : Prop where
  /-- Three marks close the string. -/
  close : ∀ rest, f (mark :: mark :: mark :: rest) = closing mark rest
  /-- A mark before no two others stands for itself. -/
  keep : ∀ rest s left, ¬ [mark, mark] <+: rest → f rest = some (s, left) →
    f (mark :: rest) = some (mark :: s, left)

namespace ReadsMarks

variable {mark : Char} {f : List Char → Option (List Char × List Char)} {n : Nat} {rest : List Char}

/-- Up to two marks before anything else stand for themselves. -/
theorem kept (hf : ReadsMarks mark f) (hn : n ≤ 2) (hrest : rest.head? ≠ some mark)
    (hr : f rest = some (s, left)) :
    f (List.replicate n mark ++ rest) = some (List.replicate n mark ++ s, left) := by
  have hnone : ¬ [mark, mark] <+: rest := by
    rintro ⟨more, rfl⟩
    exact hrest rfl
  have htwo : ¬ [mark, mark] <+: mark :: rest := by
    rintro ⟨more, heq⟩
    exact hrest (by rw [← List.tail_eq_of_cons_eq heq]; rfl)
  have hone := hf.keep rest s left hnone hr
  match n, hn with
  | 0, _ => exact hr
  | 1, _ => exact hone
  | 2, _ => exact hf.keep _ _ _ htwo hone

/-- Up to two marks before the closing three belong to the string. -/
theorem closed (hf : ReadsMarks mark f) (hn : n ≤ 2) (hrest : rest.head? ≠ some mark) :
    f (List.replicate n mark ++ mark :: mark :: mark :: rest) =
      some (List.replicate n mark, rest) := by
  have hmarks : List.replicate n mark ++ mark :: mark :: mark :: rest =
      mark :: mark :: mark :: (List.replicate n mark ++ rest) := by
    match n, hn with
    | 0, _ => rfl
    | 1, _ => rfl
    | 2, _ => rfl
  have hstop : rest.takeWhile (· = mark) = [] ∧ rest.dropWhile (· = mark) = rest := by
    cases rest with
    | nil => exact ⟨rfl, rfl⟩
    | cons d rest =>
      have hd : d ≠ mark := fun h => hrest (congrArg some h)
      exact ⟨List.takeWhile_cons_of_neg (by simpa using hd),
        List.dropWhile_cons_of_neg (by simpa using hd)⟩
  have htake : (List.replicate n mark ++ rest).takeWhile (· = mark) = List.replicate n mark := by
    rw [List.takeWhile_append_of_pos (by simp), hstop.1, List.append_nil]
  have hdrop : (List.replicate n mark ++ rest).dropWhile (· = mark) = rest := by
    rw [List.dropWhile_append_of_pos (by simp), hstop.2]
  rw [hmarks, hf.close, closing, htake, hdrop, if_pos (by simpa using hn)]

end ReadsMarks

theorem readsMarks_basicLines : ReadsMarks '"' basicLines where
  close rest := by rw [basicLines]
  keep rest s left hmarks hr := by
    rw [basicLines, hr]
    · rfl
    · rintro more rfl
      exact hmarks ⟨more, rfl⟩

theorem readsMarks_literalLines : ReadsMarks '\'' literalLines where
  close rest := by rw [literalLines]
  keep rest s left hmarks hr := by
    rw [literalLines, hr]
    · rfl
    · rintro more rfl
      exact hmarks ⟨more, rfl⟩

theorem basicLines_of_escapes (h : Escapes c text) {rest : List Char}
    (hr : basicLines rest = some (s, left)) : basicLines (text ++ rest) = some (c :: s, left) := by
  obtain ⟨letter, more, rfl, hreads⟩ := h.reads
  obtain ⟨hescape, hhidden⟩ := hreads rest
  simp only [List.cons_append]
  rw [basicLines]
  split
  · next hsome =>
    rw [hhidden] at hsome
    cases hsome
  split
  · next hnone =>
    rw [hescape] at hnone
    cases hnone
  · next hsome =>
    rw [hescape] at hsome
    cases hsome
    rw [hr]
    rfl

theorem basicLines_feed {rest : List Char} (hr : basicLines rest = some (s, left)) :
    basicLines ('\n' :: rest) = some ('\n' :: s, left) := by
  rw [basicLines, hr]
  rfl

theorem basicLines_cons (hquote : c ≠ '"') (hbackslash : c ≠ '\\')
    (hcontrol : ¬ (c.toNat < 0x20 ∨ c.toNat = 0x7F)) {rest : List Char}
    (hr : basicLines rest = some (s, left)) : basicLines (c :: rest) = some (c :: s, left) := by
  rw [basicLines, if_pos (inBasic_of_plain hquote hbackslash hcontrol), hr]
  · rfl
  · intro more hc
    exact absurd hc hquote
  · exact hquote
  · exact hbackslash
  · rintro rfl
    exact hcontrol (by decide)
  · rintro more rfl -
    exact hcontrol (by decide)

/-- A third quote in a row is escaped on several lines, and so are backslashes and control characters
other than line feeds. -/
theorem basicLines_writeBasic {rest : List Char} (hrest : rest.head? ≠ some '"') (s : List Char)
    (n : Nat) (hn : n ≤ 2) :
    basicLines (List.replicate n '"' ++ (writeBasic true n s ++ '"' :: '"' :: '"' :: rest)) =
      some (List.replicate n '"' ++ s, rest) := by
  induction s generalizing n with
  | nil =>
    rw [writeBasic, List.nil_append, List.append_nil]
    exact readsMarks_basicLines.closed hn hrest
  | cons c s ih =>
    have hnow := ih 0 (by decide)
    rw [List.replicate_zero, List.nil_append, List.nil_append] at hnow
    obtain ⟨text, run, hwritten, htext⟩ := writeBasic_cons true n c s
    rw [hwritten, List.append_assoc]
    -- anything but a quote ends the run of quotes
    cases htext with
    | quote _ hrun =>
      have hmore := ih (n + 1) hrun
      simpa [List.replicate_succ'] using hmore
    | feed => exact readsMarks_basicLines.kept hn (by simp) (basicLines_feed hnow)
    | escape hescapes =>
      refine readsMarks_basicLines.kept hn ?_ (basicLines_of_escapes hescapes hnow)
      simp [hescapes.head?_append]
    | plain hquote hbackslash hcontrol =>
      refine readsMarks_basicLines.kept hn ?_ (basicLines_cons hquote hbackslash hcontrol hnow)
      simpa using hquote

theorem inLiteral_of_plain (hescape : needsEscape c = false) (hmark : c ≠ '\'') (hfeed : c ≠ '\n') :
    inLiteral c = true := by
  by_cases htab : c = '\t'
  · simp [inLiteral, htab]
  · simp [needsEscape, htab, hfeed] at hescape
    simp [inLiteral, hmark, hescape]

theorem literalLines_cons (hescape : needsEscape c = false) (hmark : c ≠ '\'') {rest : List Char}
    (hr : literalLines rest = some (s, left)) : literalLines (c :: rest) = some (c :: s, left) := by
  by_cases hfeed : c = '\n'
  · subst hfeed
    rw [literalLines, hr]
    rfl
  · rw [literalLines, if_pos (inLiteral_of_plain hescape hmark hfeed), hr]
    · rfl
    · intro more hc
      exact absurd hc hmark
    · exact hmark
    · exact hfeed
    · rintro more rfl
      simp [needsEscape] at hescape

theorem le_longestRun (mark : Char) (n : Nat) (s : List Char) : n ≤ longestRun mark n s := by
  induction s generalizing n with
  | nil => exact Nat.le_refl n
  | cons c s ih =>
    rw [longestRun]
    split
    · exact Nat.le_of_succ_le (ih (n + 1))
    · exact Nat.le_max_left n _

/-- A text without a third apostrophe in a row stands for itself between three of them. -/
theorem literalLines_append {rest : List Char} (hrest : rest.head? ≠ some '\'') (s : List Char)
    (hs : ∀ c ∈ s, needsEscape c = false) (n : Nat) (hn : longestRun '\'' n s ≤ 2) :
    literalLines (List.replicate n '\'' ++ (s ++ '\'' :: '\'' :: '\'' :: rest)) =
      some (List.replicate n '\'' ++ s, rest) := by
  induction s generalizing n with
  | nil =>
    rw [List.nil_append, List.append_nil]
    exact readsMarks_literalLines.closed hn hrest
  | cons c s ih =>
    have hle := Nat.le_trans (le_longestRun '\'' n (c :: s)) hn
    have hc := hs c (by simp)
    have ih := ih fun d hd => hs d (by simp [hd])
    rw [longestRun] at hn
    by_cases hmark : c = '\''
    · subst hmark
      rw [if_pos rfl] at hn
      simpa [List.replicate_succ'] using ih (n + 1) hn
    · rw [if_neg hmark] at hn
      have hnow := ih 0 (Nat.le_trans (Nat.le_max_right n _) hn)
      rw [List.replicate_zero, List.nil_append, List.nil_append] at hnow
      refine readsMarks_literalLines.kept hle ?_ (literalLines_cons hc hmark hnow)
      simpa using hmark

/-! ### Every form -/

theorem read_quote {cs : List Char} (h : ¬ ['"', '"'] <+: cs) : read ('"' :: cs) = basic cs := by
  unfold read
  split
  · next more heq =>
    cases heq
    exact absurd ⟨more, rfl⟩ h
  · next heq => cases heq
  · rfl

theorem read_apostrophe {cs : List Char} (h : ¬ ['\'', '\''] <+: cs) :
    read ('\'' :: cs) = literal cs := by
  unfold read
  split
  · next heq => cases heq
  · next more heq =>
    cases heq
    exact absurd ⟨more, rfl⟩ h
  · rfl

/-- What is written between quotes begins with an escape or with a character that stands for
itself; a quote does so on several lines only, and a carriage return never does. -/
theorem of_head?_writeBasic {lines : Bool} {n : Nat} (h : (writeBasic lines n s).head? = some d) :
    d = '\\' ∨ (lines = true ∧ d = '"') ∨ (d ∈ s ∧ d ≠ '"' ∧ d ≠ '\r') := by
  cases s with
  | nil => cases h
  | cons c s =>
    obtain ⟨text, run, hwritten, htext⟩ := writeBasic_cons lines n c s
    rw [hwritten] at h
    cases htext with
    | quote hlines =>
      cases h
      exact .inr (.inl ⟨hlines, rfl⟩)
    | feed =>
      cases h
      exact .inr (.inr (by simp))
    | escape hescapes =>
      rw [hescapes.head?_append] at h
      cases h
      exact .inl rfl
    | plain hquote _ hcontrol =>
      cases h
      refine .inr (.inr ⟨by simp, hquote, ?_⟩)
      rintro rfl
      exact hcontrol (by decide)

/-- A string between quotes on one line reads back. -/
theorem read_basic (s : List Char) {rest : List Char} (hrest : rest.head? ≠ some '"') :
    read ('"' :: (writeBasic false 0 s ++ '"' :: rest)) = some (s, rest) := by
  rw [read_quote, basic_writeBasic]
  rintro ⟨more, heq⟩
  cases hwritten : writeBasic false 0 s with
  | nil =>
    rw [hwritten] at heq
    exact hrest (by rw [← (List.cons.inj heq).2]; rfl)
  | cons c cs =>
    rw [hwritten] at heq
    obtain rfl := (List.cons.inj heq).1
    obtain h | ⟨h, -⟩ | ⟨-, h, -⟩ := of_head?_writeBasic (congrArg List.head? hwritten)
    · exact absurd h (by decide)
    · cases h
    · exact h rfl

theorem not_mem_of_longestRun {mark : Char} (h : longestRun mark 0 s = 0) : mark ∉ s := by
  induction s with
  | nil => exact List.not_mem_nil
  | cons c s ih =>
    rw [longestRun] at h
    by_cases hmark : c = mark
    · have hle := le_longestRun mark (0 + 1) s
      rw [if_pos hmark] at h
      omega
    · rw [if_neg hmark] at h
      exact List.not_mem_cons_of_ne_of_not_mem (Ne.symm hmark) (ih (by omega))

/-- A string between apostrophes on one line reads back. -/
theorem read_literal (h : ∀ c ∈ s, inLiteral c = true) {rest : List Char}
    (hrest : rest.head? ≠ some '\'') : read ('\'' :: (s ++ '\'' :: rest)) = some (s, rest) := by
  rw [read_apostrophe, literal_append h]
  rintro ⟨more, heq⟩
  cases s with
  | nil => exact hrest (by rw [← (List.cons.inj heq).2]; rfl)
  | cons c s =>
    obtain rfl := (List.cons.inj heq).1
    exact absurd (h '\'' (by simp)) (by decide)

/-- The line end that stands in front of a string with line feeds is dropped, and nothing is dropped from
any other string. -/
theorem dropLineEnd_first (h : ∀ c ∈ text.head?, c ≠ '\r' ∧ (c = '\n' → s.contains '\n' = true)) :
    dropLineEnd ((if s.contains '\n' then ['\n'] else []) ++ text) = text := by
  by_cases hfeed : s.contains '\n' = true
  · rw [if_pos hfeed]
    rfl
  · rw [if_neg hfeed, List.nil_append, dropLineEnd]
    unfold lineEnd?
    split
    · exact absurd ((h '\n' rfl).2 rfl) hfeed
    · exact absurd rfl (h '\r' rfl).1
    · rfl

/-- A string between three quotes reads back. -/
theorem read_basicLines (s : List Char) {rest : List Char} (hrest : rest.head? ≠ some '"') :
    read ('"' :: '"' :: '"' :: ((if s.contains '\n' then ['\n'] else []) ++
      (writeBasic true 0 s ++ '"' :: '"' :: '"' :: rest))) = some (s, rest) := by
  have hread := basicLines_writeBasic hrest s 0 (by decide)
  rw [List.replicate_zero, List.nil_append, List.nil_append] at hread
  rw [read, dropLineEnd_first, hread]
  intro c hc
  cases hwritten : writeBasic true 0 s with
  | nil =>
    rw [hwritten] at hc
    cases hc
    simp
  | cons d ds =>
    rw [hwritten] at hc
    cases hc
    obtain rfl | ⟨-, rfl⟩ | ⟨hmem, -, hreturn⟩ := of_head?_writeBasic (congrArg List.head? hwritten)
    · simp
    · simp
    · refine ⟨hreturn, ?_⟩
      rintro rfl
      simpa using hmem

/-- A string between three apostrophes reads back. -/
theorem read_literalLines (hs : ∀ c ∈ s, needsEscape c = false) (hrun : longestRun '\'' 0 s ≤ 2)
    {rest : List Char} (hrest : rest.head? ≠ some '\'') :
    read ('\'' :: '\'' :: '\'' :: ((if s.contains '\n' then ['\n'] else []) ++
      (s ++ '\'' :: '\'' :: '\'' :: rest))) = some (s, rest) := by
  have hread := literalLines_append hrest s hs 0 hrun
  rw [List.replicate_zero, List.nil_append, List.nil_append] at hread
  rw [read, dropLineEnd_first, hread]
  intro c hc
  cases s with
  | nil =>
    cases hc
    simp
  | cons d ds =>
    cases hc
    refine ⟨?_, ?_⟩
    · rintro rfl
      exact absurd (hs '\r' (by simp)) (by decide)
    · rintro rfl
      simp

/-- A string reads back, up to anything but a further mark, from whichever form it is written in. -/
theorem read_write (s : List Char) {rest : List Char} (hquote : rest.head? ≠ some '"')
    (happostrophe : rest.head? ≠ some '\'') : read (write s ++ rest) = some (s, rest) := by
  simp only [write, Bool.not_eq_true', Bool.and_eq_true, decide_eq_true_eq]
  split
  · simpa using read_basic s hquote
  split
  · next h =>
    obtain ⟨⟨hcontrols, hnone⟩, hfeed⟩ := h
    have hliteral : ∀ c ∈ s, inLiteral c = true := by
      intro c hc
      apply inLiteral_of_plain
      · simp only [List.any_eq_false, Bool.not_eq_true] at hcontrols
        exact hcontrols c hc
      · rintro rfl
        exact not_mem_of_longestRun hnone hc
      · rintro rfl
        simp [hc] at hfeed
    simpa using read_literal hliteral happostrophe
  split
  · simpa using read_basicLines s hquote
  split
  · next h =>
    obtain ⟨hcontrols, hrun⟩ := h
    simpa using read_literalLines (by simpa using hcontrols) hrun happostrophe
  split
  · next hfeed =>
    have hread := read_basicLines s hquote
    rw [if_pos hfeed] at hread
    simpa using hread
  · simpa using read_basic s hquote

/-- A written string begins with one of the two marks. -/
theorem write_cons (s : List Char) : ∃ mark cs, write s = mark :: cs ∧ (mark = '"' ∨ mark = '\'') := by
  simp only [write]
  split
  · exact ⟨_, _, rfl, .inl rfl⟩
  split
  · exact ⟨_, _, rfl, .inr rfl⟩
  split
  · exact ⟨_, _, rfl, .inl rfl⟩
  split
  · exact ⟨_, _, rfl, .inr rfl⟩
  split
  · exact ⟨_, _, rfl, .inl rfl⟩
  · exact ⟨_, _, rfl, .inl rfl⟩

end HostWatch.Toml.Quoted
