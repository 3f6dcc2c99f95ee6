import HostWatch.Proofs.Url.Decoded

/-!
# Encoded segments

A segment of a path is written with every character encoded that would end it or the path
(`isSegment_percentEncode`), and with none that a request may not have in its path
(`inPath_percentEncode`). Where the percent sign is encoded, too, only the texts of one and of two
dots are written as the segments that stand for dots (`isSingleDot_segment`,
`isDoubleDot_segment`).
-/

namespace HostWatch.Url

/-- A text that stands in a path as one segment: nothing in it ends the segment or the path. -/
def IsSegment (cs : List Char) : Prop :=
  ∀ c ∈ cs, c ≠ '/' ∧ c ≠ '?' ∧ c ≠ '#'

instance (cs : List Char) : Decidable (IsSegment cs) :=
  List.decidableBAll _ cs

/-- A character that may stand in the path of a request. -/
def InPath (c : Char) : Prop :=
  0x20 < c.toNat ∧ c.toNat ≠ 0x60 ∧ c ≠ '<' ∧ c ≠ '>'

instance : DecidablePred InPath := fun _ =>
  inferInstanceAs (Decidable (_ ∧ _))

variable {inSet : Char → Bool} {cs : List Char} {kind : Kind}

/-- A set has the characters that are encoded in a path. -/
def CoversPath (inSet : Char → Bool) : Prop :=
  ∀ c, inPathSet c = true → inSet c = true

theorem coversPath_segmentSet (kind : Kind) : CoversPath (segmentSet kind) := by
  intro c hc
  cases kind <;> simp [segmentSet, inSpecialSegmentSet, inSegmentSet, hc]

theorem segmentSet_slash (kind : Kind) : segmentSet kind '/' = true := by
  cases kind <;> decide

/-- What is not encoded in a path may stand in one and does not end it. -/
theorem of_not_inPathSet {c : Char} (h : inPathSet c = false) :
    InPath c ∧ c ≠ '?' ∧ c ≠ '#' := by
  simp only [inPathSet, inQuerySet, inControlSet, Bool.or_eq_false_iff, decide_eq_false_iff_not]
    at h
  obtain ⟨⟨⟨⟨⟨⟨⟨⟨⟨⟨⟨hlow, -⟩, hblank⟩, -⟩, hmark⟩, hless⟩, hgreater⟩, htick⟩, hquery⟩, -⟩, -⟩, -⟩ := h
  have hspace : c.toNat ≠ 0x20 := fun h => hblank (Char.toNat_inj.mp h)
  exact ⟨⟨by omega, htick, hless, hgreater⟩, hquery, hmark⟩

/-- The percent sign and the digits behind it may stand in a path and end nothing. -/
theorem of_encoded {c : Char} (h : c = '%' ∨ ∃ n < 16, c = Ascii.hexUpper n) :
    InPath c ∧ c ≠ '/' ∧ c ≠ '?' ∧ c ≠ '#' := by
  obtain rfl | ⟨n, hn, rfl⟩ := h
  · exact (by decide : (0x20 < '%'.toNat ∧ '%'.toNat ≠ 0x60 ∧ '%' ≠ '<' ∧ '%' ≠ '>') ∧
      '%' ≠ '/' ∧ '%' ≠ '?' ∧ '%' ≠ '#')
  · exact (by decide : ∀ n : Fin 16, (0x20 < (Ascii.hexUpper n).toNat ∧
      (Ascii.hexUpper n).toNat ≠ 0x60 ∧ Ascii.hexUpper n ≠ '<' ∧ Ascii.hexUpper n ≠ '>') ∧
        Ascii.hexUpper n ≠ '/' ∧ Ascii.hexUpper n ≠ '?' ∧ Ascii.hexUpper n ≠ '#') ⟨n, hn⟩

theorem inPath_percentEncode (hset : CoversPath inSet) :
    ∀ c ∈ percentEncode inSet cs, InPath c := by
  intro c hc
  rcases mem_percentEncode hc with ⟨-, hnot⟩ | hencoded
  · have hpath : inPathSet c = false :=
      Bool.eq_false_iff.mpr fun h => Bool.false_ne_true (hnot.symm.trans (hset c h))
    exact (of_not_inPathSet hpath).1
  · exact (of_encoded hencoded).1

theorem isSegment_percentEncode (hset : CoversPath inSet) (hslash : '/' ∈ cs → inSet '/' = true) :
    IsSegment (percentEncode inSet cs) := by
  intro c hc
  rcases mem_percentEncode hc with ⟨hmem, hnot⟩ | hencoded
  · have hpath : inPathSet c = false :=
      Bool.eq_false_iff.mpr fun h => Bool.false_ne_true (hnot.symm.trans (hset c h))
    refine ⟨?_, (of_not_inPathSet hpath).2⟩
    rintro rfl
    exact Bool.false_ne_true (hnot.symm.trans (hslash hmem))
  · exact (of_encoded hencoded).2

/-! ### Dots -/

/-- Letter case makes no difference to a text of dots. -/
theorem lower_eq_dots {n : Nat} :
    Ascii.lower cs = List.replicate n '.' ↔ cs = List.replicate n '.' := by
  induction n generalizing cs with
  | zero => exact Ascii.lower_eq_nil
  | succ n ih =>
    cases cs with
    | nil => exact ⟨nofun, nofun⟩
    | cons c cs =>
      rw [List.replicate_succ, Ascii.lower_cons, List.cons.injEq, List.cons.injEq, ih,
        Ascii.toLower_eq_iff (by decide)]

/-- What stands for dots, up to case, is encoded from dots. -/
theorem eq_dots_of_lower {n : Nat} {e : List Char} (hdecoded : decoded? e = some cs)
    (hdots : decoded? (Ascii.lower e) = some (List.replicate n '.')) : cs = List.replicate n '.' := by
  have hfold := map_lower_decoded? e
  rw [hdecoded, hdots, Option.map_some, Option.map_some, Option.some.injEq] at hfold
  exact lower_eq_dots.mp (hfold.symm.trans (lower_eq_dots.mpr rfl))

/-- The segment of two dots is that of the text of two dots. -/
theorem isDoubleDot_segment :
    isDoubleDot (percentEncode (segmentSet kind) cs) = true ↔ cs = ['.', '.'] := by
  constructor
  · intro h
    obtain ⟨d, hd, heq⟩ := List.any_eq_true.mp h
    have hdots : ∀ d ∈ ["..", "%2e.", ".%2e", "%2e%2e"],
        decoded? d.toList = some (List.replicate 2 '.') := by decide +kernel
    refine eq_dots_of_lower (n := 2) (decoded?_segment kind cs) ?_
    rw [of_decide_eq_true heq]
    exact hdots d hd
  · rintro rfl
    cases kind <;> decide

/-- The segment of one dot is that of the text of one dot. -/
theorem isSingleDot_segment :
    isSingleDot (percentEncode (segmentSet kind) cs) = true ↔ cs = ['.'] := by
  constructor
  · intro h
    obtain ⟨d, hd, heq⟩ := List.any_eq_true.mp h
    have hdots : ∀ d ∈ [".", "%2e"], decoded? d.toList = some (List.replicate 1 '.') := by
      decide +kernel
    refine eq_dots_of_lower (n := 1) (decoded?_segment kind cs) ?_
    rw [of_decide_eq_true heq]
    exact hdots d hd
  · rintro rfl
    cases kind <;> decide

end HostWatch.Url
