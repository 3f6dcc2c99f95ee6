import HostWatch.Proofs.Url.BlankEnd

/-!
# Trimmed URLs

A line is trimmed of blanks, also of those beyond ASCII, and a URL is cleaned of the blanks and the
control characters of ASCII. If an accepted URL is trimmed before, it loses at most a blank end
(`clean_trim`). So it is still accepted then, with the same scheme, host and port
(`exists_of_parse_trim`).
-/

namespace HostWatch

variable {c : Char} {cs rest xs ys : List Char}

namespace Text

/-- What is dropped at the end are characters to drop. -/
theorem exists_of_dropEndWhile (p : Char → Bool) (cs : List Char) :
    ∃ back, cs = dropEndWhile p cs ++ back ∧ ∀ c ∈ back, p c := by
  refine ⟨(cs.reverse.takeWhile p).reverse, ?_, fun c hc => ?_⟩
  · rw [dropEndWhile, ← List.reverse_append, List.takeWhile_append_dropWhile, List.reverse_reverse]
  · exact List.mem_takeWhile_imp (List.mem_reverse.mp hc)

/-- What is trimmed off a text are blanks. -/
theorem exists_of_trim (cs : List Char) : ∃ front back, cs = front ++ (trim cs ++ back) ∧
    (∀ c ∈ front, isBlank c) ∧ ∀ c ∈ back, isBlank c := by
  obtain ⟨back, hback, hblank⟩ := exists_of_dropEndWhile isBlank (cs.dropWhile isBlank)
  refine ⟨cs.takeWhile isBlank, back, ?_, fun c hc => List.mem_takeWhile_imp hc, hblank⟩
  have hparts := List.takeWhile_append_dropWhile (p := isBlank) (l := cs)
  rw [hback] at hparts
  exact hparts.symm

theorem dropEndWhile_append_of_nil {p : Char → Bool} (h : dropEndWhile p ys = []) (xs : List Char) :
    dropEndWhile p (xs ++ ys) = dropEndWhile p xs := by
  have hall := List.reverse_eq_nil_iff.mp h
  rw [dropEndWhile, List.reverse_append, List.dropWhile_append, hall]
  rfl

theorem dropEndWhile_append_of_ne_nil {p : Char → Bool} (h : dropEndWhile p ys ≠ [])
    (xs : List Char) : dropEndWhile p (xs ++ ys) = xs ++ dropEndWhile p ys := by
  have hne : ys.reverse.dropWhile p ≠ [] := fun hnil => h (List.reverse_eq_nil_iff.mpr hnil)
  rw [dropEndWhile, List.reverse_append, Url.dropWhile_append_of_ne_nil hne, List.reverse_append,
    List.reverse_reverse]
  rfl

theorem getLast?_dropEndWhile {p : Char → Bool} (h : (dropEndWhile p cs).getLast? = some c) :
    p c = false := by
  rw [dropEndWhile, List.getLast?_reverse] at h
  have hhead := List.head?_dropWhile_not p cs.reverse
  rw [h] at hhead
  exact hhead

end Text

namespace Url

open Text

theorem not_inAscii_of_isBlank (h : isBlank c) : ¬ InAscii c := by
  simp only [isBlank, Bool.or_eq_true, Bool.and_eq_true, decide_eq_true_eq, beq_iff_eq] at h
  unfold InAscii
  omega

/-! ### The end -/

theorem tidied_eq (cs : List Char) : tidied cs =
    (dropEndWhile isControlOrSpace cs).filter fun c => !isPassedOver c := rfl

/-- Blanks behind a text are dropped, unless there is one beyond ASCII among them: then the last such
is the end of the text. -/
theorem exists_of_tidied_append (hblank : ∀ c ∈ ys, isBlank c) (xs : List Char) :
    ∃ w, tidied (xs ++ ys) = tidied xs ++ w ∧ (w = [] ∨ BlankEnd w) := by
  by_cases hys : dropEndWhile isControlOrSpace ys = []
  · refine ⟨[], ?_, .inl rfl⟩
    rw [tidied_eq, dropEndWhile_append_of_nil hys, List.append_nil, tidied_eq]
  · obtain ⟨dropped, hxs, hdropped⟩ := exists_of_dropEndWhile isControlOrSpace xs
    obtain ⟨more, hmore, -⟩ := exists_of_dropEndWhile isControlOrSpace ys
    obtain ⟨front, c, hconcat⟩ := (List.eq_nil_or_concat' _).resolve_left hys
    have hkept : ∀ d ∈ front ++ [c], isBlank d := fun d hd => by
      refine hblank d ?_
      rw [hmore, hconcat]
      exact List.mem_append_left _ hd
    have hc : 0x20 < c.toNat := by
      have hlast : (dropEndWhile isControlOrSpace ys).getLast? = some c := by
        rw [hconcat, List.getLast?_concat]
      exact Nat.not_le.mp (of_decide_eq_false (getLast?_dropEndWhile hlast))
    have hbeyond : 0x80 ≤ c.toNat := by
      have hascii := not_inAscii_of_isBlank (hkept c (by simp))
      unfold InAscii at hascii
      omega
    have hend : ((dropped ++ (front ++ [c])).filter fun c => !isPassedOver c) =
        ((dropped ++ front).filter fun c => !isPassedOver c) ++ [c] := by
      rw [← List.append_assoc, List.filter_append, List.filter_singleton, not_isPassedOver hc]
      rfl
    refine ⟨(dropped ++ (front ++ [c])).filter fun c => !isPassedOver c, ?_, .inr ⟨?_, _, c, hend,
      hkept c (by simp), hbeyond⟩⟩
    · rw [tidied_eq, dropEndWhile_append_of_ne_nil hys, hconcat, tidied_eq, ← List.filter_append,
        ← List.append_assoc (dropEndWhile isControlOrSpace xs), ← hxs]
    · intro d hd
      obtain hd | hd := List.mem_append.mp (List.mem_filter.mp hd).1
      · have hcontrol : d.toNat ≤ 0x20 := of_decide_eq_true (hdropped d hd)
        unfold InAscii
        omega
      · exact not_inAscii_of_isBlank (hkept d hd)

/-! ### The front -/

/-- A character that is not among those in front is found behind them. -/
theorem dropWhile_eq_cons_of_not_mem {p : Char → Bool} (hc : c ∉ xs)
    (h : (xs ++ ys).dropWhile p = c :: rest) : ys.dropWhile p = c :: rest := by
  by_cases hxs : xs.dropWhile p = []
  · rwa [List.dropWhile_append, hxs, List.isEmpty_nil, if_pos rfl] at h
  · rw [dropWhile_append_of_ne_nil hxs] at h
    obtain ⟨d, more, hmore⟩ := List.exists_cons_of_ne_nil hxs
    rw [hmore] at h
    obtain ⟨rfl, -⟩ := List.cons.inj h
    refine absurd ((List.dropWhile_sublist p).subset ?_) hc
    rw [hmore]
    exact List.mem_cons_self

/-- A character that is not among those behind is found in front of them. -/
theorem exists_of_dropWhile_append {p : Char → Bool} (hc : c ∉ ys)
    (h : (xs ++ ys).dropWhile p = c :: rest) :
    ∃ more, xs.dropWhile p = c :: more ∧ rest = more ++ ys := by
  by_cases hxs : xs.dropWhile p = []
  · rw [List.dropWhile_append, hxs, List.isEmpty_nil, if_pos rfl] at h
    refine absurd ((List.dropWhile_sublist p).subset ?_) hc
    rw [h]
    exact List.mem_cons_self
  · rw [dropWhile_append_of_ne_nil hxs] at h
    obtain ⟨d, more, hmore⟩ := List.exists_cons_of_ne_nil hxs
    rw [hmore, List.cons_append] at h
    obtain ⟨rfl, rfl⟩ := List.cons.inj h
    exact ⟨more, hmore, rfl⟩

theorem clean_eq (cs : List Char) : clean cs = tidied (cs.dropWhile isControlOrSpace) := rfl

theorem tidied_cons (hc : 0x20 < c.toNat) (cs : List Char) : tidied (c :: cs) = c :: tidied cs :=
  tidied_append (List.forall_mem_singleton.mpr hc : Printed [c]) cs

/-- What a cleaned text begins with is the first character that is not dropped. -/
theorem exists_of_head?_clean (h : (clean cs).head? = some c) :
    ∃ rest, cs.dropWhile isControlOrSpace = c :: rest := by
  rw [clean_eq] at h
  cases hdrop : cs.dropWhile isControlOrSpace with
  | nil =>
    rw [hdrop] at h
    nomatch h
  | cons d rest =>
    have hd : 0x20 < d.toNat := by
      have hhead := List.head?_dropWhile_not isControlOrSpace cs
      rw [hdrop] at hhead
      exact Nat.not_le.mp (of_decide_eq_false hhead)
    rw [hdrop, tidied_cons hd] at h
    obtain rfl := Option.some.inj h
    exact ⟨rest, rfl⟩

/-- Nothing is dropped in front of a character that is neither a blank nor a control character. -/
theorem head?_clean_cons (hc : 0x20 < c.toNat) (cs : List Char) :
    (clean (c :: cs)).head? = some c := by
  have hkept : isControlOrSpace c = false := not_isControlOrSpace hc
  rw [clean_eq, List.dropWhile_cons_of_neg (by simp [hkept]), tidied_cons hc]
  rfl

/-- A text that begins with a character of ASCII when it is cleaned begins with it, too, when it is
trimmed before, and what it loses is a blank end. -/
theorem clean_trim (hc : InAscii c) (h : (clean cs).head? = some c) :
    (clean (trim cs)).head? = some c ∧
      ∃ w, clean cs = clean (trim cs) ++ w ∧ (w = [] ∨ BlankEnd w) := by
  obtain ⟨front, back, hcs, hfront, hback⟩ := exists_of_trim cs
  obtain ⟨rest, hrest⟩ := exists_of_head?_clean h
  have hnot {ds : List Char} (hds : ∀ d ∈ ds, isBlank d) : c ∉ ds := fun hmem =>
    not_inAscii_of_isBlank (hds c hmem) hc
  have hbehind : (trim cs ++ back).dropWhile isControlOrSpace = c :: rest := by
    rw [hcs] at hrest
    exact dropWhile_eq_cons_of_not_mem (hnot hfront) hrest
  obtain ⟨more, hmore, rfl⟩ := exists_of_dropWhile_append (hnot hback) hbehind
  obtain ⟨w, hw, hend⟩ := exists_of_tidied_append hback (c :: more)
  rw [clean_eq, clean_eq, hmore, hrest, tidied_cons hc.1]
  refine ⟨rfl, w, ?_, hend⟩
  rw [← tidied_cons hc.1, ← hw]
  rfl

/-! ### Accepted URLs -/

variable {toAscii : DomainToAscii} {u : Url} {host : Host}

/-- Only the cleaned text is read. -/
theorem parse_congr {text : List Char} (h : clean text = clean cs) :
    parse toAscii text = parse toAscii cs := by
  rw [parse, parse, h]

/-- The cleaned text of an accepted URL begins with a letter. -/
theorem exists_isLetter_of_parse (h : parse toAscii cs = .ok u) :
    ∃ c, isLetter c ∧ (clean cs).head? = some c := by
  cases hclean : clean cs with
  | nil =>
    rw [parse, hclean] at h
    cases h
  | cons c rest =>
    by_cases hc : isLetter c
    · exact ⟨c, hc, rfl⟩
    · rw [parse, hclean, splitScheme?, if_neg hc] at h
      cases h

/-- A special URL that is accepted is accepted with the same scheme, host and port when it is trimmed
before. -/
theorem exists_of_parse_trim (h : parse Idna.toAscii? cs = .ok u) (hhost : u.host = some host)
    (hkind : Kind.ofScheme u.scheme = .special) :
    ∃ v, parse Idna.toAscii? (trim cs) = .ok v ∧ v.scheme = u.scheme ∧ v.host = u.host ∧
      v.port = u.port := by
  obtain ⟨c, hletter, hhead⟩ := exists_isLetter_of_parse h
  obtain ⟨-, w, hclean, rfl | hw⟩ := clean_trim (inAscii_of_isLetter hletter) hhead
  · rw [List.append_nil] at hclean
    exact ⟨u, (parse_congr hclean).symm.trans h, rfl, rfl, rfl⟩
  · exact exists_of_parse_append hw hclean h hhost hkind

end Url

end HostWatch
