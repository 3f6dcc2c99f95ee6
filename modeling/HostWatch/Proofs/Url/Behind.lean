import HostWatch.Proofs.Url.Origin
import HostWatch.Proofs.Url.Segment

/-!
# A text behind a server

The text of a URL that names a server and nothing behind it can be gone on with a slash and any
text, and what is read is that server with a path of its own (`path_of_parse`). What is dropped and
passed over in such a text is settled by the text alone (`tidied`), and of its path the last segment is
the text behind the last slash, if that does not stand for dots (`getLast?_readPath`).
-/

namespace HostWatch.Url

variable {toAscii : DomainToAscii} {kind : Kind} {scheme base front cs rest : List Char} {u : Url}
  {host : Option Host} {port : Option Nat}

/-! ### What is dropped and passed over -/

/-- A text at the end of a URL without what is dropped and passed over. -/
def tidied (cs : List Char) : List Char :=
  (cs.reverse.dropWhile isControlOrSpace).reverse.filter fun c => !isPassedOver c

/-- A text without blanks and control characters. -/
def Printed (cs : List Char) : Prop :=
  ∀ c ∈ cs, 0x20 < c.toNat

instance (cs : List Char) : Decidable (Printed cs) :=
  List.decidableBAll _ cs

theorem Printed.append (h : Printed cs) (h' : Printed rest) : Printed (cs ++ rest) := fun c hc =>
  (List.mem_append.mp hc).elim (h c) (h' c)

theorem not_isControlOrSpace {c : Char} (h : 0x20 < c.toNat) : isControlOrSpace c = false :=
  decide_eq_false (Nat.not_le.mpr h)

theorem not_isPassedOver {c : Char} (h : 0x20 < c.toNat) : isPassedOver c = false := by
  unfold isPassedOver
  have htab : c ≠ '\t' := by rintro rfl; exact absurd h (by decide)
  have hfeed : c ≠ '\n' := by rintro rfl; exact absurd h (by decide)
  have hreturn : c ≠ '\r' := by rintro rfl; exact absurd h (by decide)
  simp [htab, hfeed, hreturn]

/-- Nothing is dropped from what is printed, and nothing in it is passed over. -/
theorem tidied_append (h : Printed front) (cs : List Char) : tidied (front ++ cs) = front ++ tidied cs := by
  have hkeep : front.reverse.dropWhile isControlOrSpace = front.reverse :=
    dropWhile_eq_self fun c hc => not_isControlOrSpace (h c (List.mem_reverse.mp hc))
  have hpass : front.filter (fun c => !isPassedOver c) = front :=
    List.filter_eq_self.mpr fun c hc => by rw [not_isPassedOver (h c hc)]; rfl
  have hdrop : (front ++ cs).reverse.dropWhile isControlOrSpace =
      cs.reverse.dropWhile isControlOrSpace ++ front.reverse := by
    rw [List.reverse_append, List.dropWhile_append]
    split
    · next hempty => rw [List.isEmpty_iff.mp hempty, hkeep, List.nil_append]
    · rfl
  rw [tidied, hdrop, List.reverse_append, List.reverse_reverse, List.filter_append, hpass, tidied]

/-- A text behind what is printed is tidied when the whole is cleaned. -/
theorem clean_append (h : Printed front) (hne : front ≠ []) (cs : List Char) :
    clean (front ++ cs) = front ++ tidied cs := by
  have hfront : (front ++ cs).dropWhile isControlOrSpace = front ++ cs := by
    obtain ⟨c, front, rfl⟩ := List.exists_cons_of_ne_nil hne
    have hc := not_isControlOrSpace (h c List.mem_cons_self)
    exact List.dropWhile_cons_of_neg (by simp [hc])
  rw [← tidied_append h, clean, hfront, tidied]

theorem tidied_sublist (cs : List Char) : (tidied cs).Sublist cs := by
  refine List.filter_sublist.trans ?_
  have hsuffix := (List.dropWhile_suffix (l := cs.reverse) isControlOrSpace).sublist
  simpa using hsuffix.reverse

/-! ### The server -/

/-- The text of a URL of a special scheme with user, host and port and nothing behind them. -/
structure IsServer (base : List Char) : Prop where
  /-- It is printed. -/
  printed : Printed base
  /-- Behind the scheme and any slashes there is some text, and nothing that ends user, host and
  port. -/
  authority : ∃ scheme rest, splitScheme? base = some (scheme, rest) ∧
    Kind.ofScheme scheme = .special ∧ rest.dropWhile isSlash ≠ [] ∧
    ∀ c ∈ rest.dropWhile isSlash, endsAuthority .special c = false

theorem dropWhile_append_of_ne_nil {p : Char → Bool} (h : cs.dropWhile p ≠ [])
    (rest : List Char) : (cs ++ rest).dropWhile p = cs.dropWhile p ++ rest := by
  rw [List.dropWhile_append, if_neg (by simpa [List.isEmpty_iff] using h)]

theorem takeWhile_append_of_ne_nil {p : Char → Bool} (h : cs.dropWhile p ≠ [])
    (rest : List Char) : (cs ++ rest).takeWhile p = cs.takeWhile p := by
  have hwhole := List.takeWhile_append_dropWhile (p := p) (l := cs ++ rest)
  have hpart := List.takeWhile_append_dropWhile (p := p) (l := cs)
  rw [dropWhile_append_of_ne_nil h, ← List.append_assoc] at hwhole
  exact List.append_cancel_right ((List.append_cancel_right hwhole).trans hpart.symm)

/-- The scheme is not changed by what goes on behind it. -/
theorem splitScheme?_append (h : splitScheme? base = some (scheme, rest)) (cs : List Char) :
    splitScheme? (base ++ cs) = some (scheme, rest ++ cs) := by
  unfold splitScheme? at h ⊢
  cases base with
  | nil => cases h
  | cons c base =>
    simp only [List.cons_append] at h ⊢
    rw [← List.cons_append]
    split_ifs at h with hletter
    rw [if_pos hletter]
    split at h
    · next after hafter =>
      cases h
      have hne : (c :: base).dropWhile inScheme ≠ [] := by
        rw [hafter]
        exact List.cons_ne_nil _ _
      rw [dropWhile_append_of_ne_nil hne, takeWhile_append_of_ne_nil hne, hafter]
      rfl
    · cases h

/-- The host and what is behind it are the text. -/
theorem splitHost_append (inside : Bool) (cs : List Char) :
    (splitHost inside cs).1 ++ (splitHost inside cs).2 = cs := by
  induction cs generalizing inside with
  | nil => rfl
  | cons c cs ih =>
    rw [splitHost]
    split_ifs
    · rfl
    all_goals exact congrArg (c :: ·) (ih _)

/-- What is left behind the port is out of the text. -/
theorem mem_of_readHostPort {given : Bool} {left : List Char}
    (h : readHostPort toAscii kind scheme given cs = .ok (host, port, left)) :
    (∀ c ∈ left, c ∈ cs) ∧ ∀ c ∈ left.head?, c = '\\' := by
  obtain ⟨host', -, h⟩ := exists_of_bind h
  obtain ⟨-, -, h⟩ := exists_of_bind h
  obtain ⟨port', -, h⟩ := exists_of_bind h
  obtain ⟨_, hleft, h⟩ := exists_of_bind h
  obtain ⟨-, -, h⟩ := exists_of_bind h
  obtain ⟨-, h⟩ := Prod.mk.inj (Except.ok.inj h)
  obtain ⟨-, rfl⟩ := Prod.mk.inj h
  refine ⟨fun c hc => ?_, fun c hc => ?_⟩
  · have hport := List.mem_of_mem_drop ((List.dropWhile_sublist _).subset hc)
    rw [← splitHost_append false cs]
    exact List.mem_append_right _ hport
  · by_contra hne
    refine not_of_failIf hleft ⟨?_, ?_⟩
    · intro hnil
      rw [hnil] at hc
      cases hc
    · rw [show _ = some c from hc]
      exact fun heq => hne (Option.some.inj heq)

theorem mem_of_splitUserinfo {c : Char} (h : c ∈ (splitUserinfo cs).2) : c ∈ cs := by
  unfold splitUserinfo at h
  simp only at h
  split at h
  · have hsub := (List.takeWhile_sublist (l := cs.reverse) (· ≠ '@')).subset (List.mem_reverse.mp h)
    exact List.mem_reverse.mp hsub
  · exact h

/-- What follows user, host and port is what stands behind them. -/
theorem rest_of_readAuthority {a : Authority} (hcs : ∀ c ∈ cs, endsAuthority .special c = false)
    (h : readAuthority toAscii .special scheme (cs ++ '/' :: rest) = .ok a) :
    a.rest = '/' :: rest := by
  have hall : ∀ c ∈ cs, (!endsAuthority .special c) = true := fun c hc => by
    rw [hcs c hc]
    rfl
  have htake : (cs ++ '/' :: rest).takeWhile (fun c => !endsAuthority .special c) = cs := by
    rw [List.takeWhile_append_of_pos hall, List.takeWhile_cons_of_neg (by decide), List.append_nil]
  have hdrop : (cs ++ '/' :: rest).dropWhile (fun c => !endsAuthority .special c) =
      '/' :: rest := by
    rw [List.dropWhile_append_of_pos hall, List.dropWhile_cons_of_neg (by decide)]
  rw [readAuthority, htake, hdrop] at h
  obtain ⟨-, -, h⟩ := exists_of_bind h
  obtain ⟨⟨host', port', left⟩, hread, h⟩ := exists_of_bind h
  obtain rfl := Except.ok.inj h
  obtain ⟨hmem, hhead⟩ := mem_of_readHostPort hread
  -- a backslash would have ended user, host and port
  have hleft : left = [] := by
    cases left with
    | nil => rfl
    | cons c left =>
      obtain rfl := hhead c rfl
      have hend := hcs _ (mem_of_splitUserinfo (hmem _ List.mem_cons_self))
      exact absurd hend (by decide)
  rw [hleft]
  rfl

/-- The path behind a server is that of the text behind its slash. -/
theorem path_of_parse (hbase : IsServer base) (h : parse toAscii (base ++ '/' :: cs) = .ok u) :
    u.path = .segments (readPath .special ((tidied cs).takeWhile fun c => !endsPath c)) := by
  obtain ⟨scheme, rest, hscheme, hkind, hne, hrest⟩ := hbase.authority
  have hslash : Printed ['/'] := by decide
  have hclean : clean (base ++ '/' :: cs) = base ++ '/' :: tidied cs := by
    rw [List.append_cons, clean_append (hbase.printed.append hslash)
      (List.append_ne_nil_of_right_ne_nil _ (List.cons_ne_nil _ _)), ← List.append_cons]
  rw [parse, hclean, splitScheme?_append hscheme] at h
  simp only [hkind] at h
  rw [dropWhile_append_of_ne_nil hne] at h
  obtain ⟨a, ha, h⟩ := exists_of_bind h
  obtain rfl := Except.ok.inj h
  rw [rest_of_readAuthority hrest ha, List.takeWhile_cons_of_pos (by decide)]
  rfl

/-! ### The last segment -/

/-- The text behind the last slash, or the whole text if it has none. -/
def lastSegment (kind : Kind) (cs : List Char) : List Char :=
  (cs.reverse.takeWhile fun c => !endsSegment kind c).reverse

theorem lastSegment_sublist (kind : Kind) (cs : List Char) : (lastSegment kind cs).Sublist cs := by
  have hprefix := (List.takeWhile_sublist (l := cs.reverse) fun c => !endsSegment kind c)
  simpa [lastSegment] using hprefix.reverse

/-- What stands in front of a slash makes no difference. -/
theorem lastSegment_append {c : Char} (hc : endsSegment kind c = true) (front cs : List Char) :
    lastSegment kind (front ++ c :: cs) = lastSegment kind cs := by
  have hstop : (c :: front.reverse).takeWhile (fun c => !endsSegment kind c) = [] :=
    List.takeWhile_cons_of_neg (by simp [hc])
  rw [lastSegment, List.reverse_append, List.reverse_cons, List.append_assoc,
    List.singleton_append, List.takeWhile_append, hstop, List.append_nil, lastSegment]
  split
  · next hlength =>
    rw [(List.takeWhile_sublist _).eq_of_length hlength]
  · rfl

/-- The last of the segments of a text is the text behind its last slash. -/
theorem getLast?_splitSegments (kind : Kind) (cs : List Char) :
    (splitSegments kind cs).getLast? = some (lastSegment kind cs) := by
  have hplain (ds : List Char) (h : ∀ c ∈ ds, endsSegment kind c = false) :
      splitSegments kind ds = [ds] := List.splitOnP_eq_singleton h
  have hlast : ∀ c ∈ lastSegment kind cs, endsSegment kind c = false := fun c hc => by
    have := List.mem_takeWhile_imp (List.mem_reverse.mp hc)
    simpa using this
  have hsplit := List.takeWhile_append_dropWhile (p := fun c => !endsSegment kind c)
    (l := cs.reverse)
  cases hdrop : cs.reverse.dropWhile fun c => !endsSegment kind c with
  | nil =>
    rw [hdrop, List.append_nil] at hsplit
    have hwhole : lastSegment kind cs = cs := by
      rw [lastSegment, hsplit, List.reverse_reverse]
    rw [hwhole] at hlast ⊢
    rw [hplain cs hlast]
    rfl
  | cons c front =>
    have hc : endsSegment kind c = true := by
      have := List.head_dropWhile_not (fun c => !endsSegment kind c) (l := cs.reverse)
        (by rw [hdrop]; exact List.cons_ne_nil _ _)
      simpa [hdrop] using this
    rw [hdrop] at hsplit
    have hcs : cs = front.reverse ++ c :: lastSegment kind cs := by
      rw [lastSegment, ← List.reverse_inj, List.reverse_append, List.reverse_cons,
        List.reverse_reverse, List.reverse_reverse, List.append_assoc, List.singleton_append,
        hsplit]
    generalize lastSegment kind cs = last at hcs hlast ⊢
    rw [hcs, splitSegments, List.splitOnP_append_cons _ _ hc, ← splitSegments, ← splitSegments,
      hplain last hlast, List.getLast?_concat]

/-- Segments that are appended one after another end with the last of them, unless that stands for
dots and they end with a slash. -/
theorem getLast?_pushAll (hkind : kind ≠ .file) {path segs : List (List Char)} (hne : segs ≠ [])
    {s : List Char} (hs : s ≠ []) (h : (pushAll kind path segs).getLast? = some s) :
    segs.getLast? = some s ∧ isDoubleDot s = false ∧ isSingleDot s = false := by
  induction segs generalizing path with
  | nil => exact absurd rfl hne
  | cons t segs ih =>
    cases segs with
    | nil =>
      have hdrive : ¬ (kind = .file ∧ path = [] ∧ isDriveLetter t = true) := fun h => hkind h.1
      rw [pushAll, pushSegment, if_neg hdrive] at h
      cases hdouble : isDoubleDot t with
      | true =>
        rw [if_pos hdouble, if_neg Bool.false_ne_true, List.getLast?_concat] at h
        exact absurd (Option.some.inj h).symm hs
      | false =>
        cases hsingle : isSingleDot t with
        | true =>
          rw [if_neg (by simp [hdouble]), if_pos hsingle, if_neg Bool.false_ne_true,
            List.getLast?_concat] at h
          exact absurd (Option.some.inj h).symm hs
        | false =>
          rw [if_neg (by simp [hdouble]), if_neg (by simp [hsingle]), List.getLast?_concat] at h
          cases h
          exact ⟨rfl, hdouble, hsingle⟩
    | cons t' segs =>
      rw [pushAll] at h
      · exact ih (List.cons_ne_nil _ _) h
      · exact List.cons_ne_nil _ _

/-- A path that ends with a segment ends with the text behind its last slash, encoded. -/
theorem getLast?_readPath (hkind : kind ≠ .file) {s : List Char} (hs : s ≠ [])
    (h : (readPath kind cs).getLast? = some s) :
    s = percentEncode inPathSet (lastSegment kind cs) ∧ isDoubleDot s = false ∧
      isSingleDot s = false := by
  rw [readPath] at h
  simp only [if_neg hkind] at h
  have hne : (splitSegments kind cs).map (percentEncode inPathSet) ≠ [] := by
    rw [Ne, List.map_eq_nil_iff]
    exact List.splitOnP_ne_nil _ _
  obtain ⟨hlast, hdots⟩ := getLast?_pushAll hkind hne hs h
  rw [List.getLast?_map, getLast?_splitSegments, Option.map_some, Option.some.injEq] at hlast
  exact ⟨hlast.symm, hdots⟩

/-! ### The segments of a path -/

/-- A segment of a text has no slash in it. -/
theorem not_endsSegment_of_mem {s : List Char} (h : s ∈ splitSegments kind cs) :
    ∀ c ∈ s, endsSegment kind c = false := by
  induction cs generalizing s with
  | nil =>
    obtain rfl := List.mem_singleton.mp h
    exact fun _ hc => nomatch hc
  | cons c cs ih =>
    rw [splitSegments, List.splitOnP_cons_eq_if_modifyHead] at h
    cases hc : endsSegment kind c with
    | true =>
      rw [if_pos hc] at h
      rcases List.mem_cons.mp h with rfl | h
      · exact fun _ hc => nomatch hc
      · exact ih h
    | false =>
      rw [if_neg (by simp [hc])] at h
      obtain ⟨t, segs, hsegs⟩ := List.exists_cons_of_ne_nil (List.splitOnP_ne_nil (endsSegment kind) cs)
      rw [hsegs, List.modifyHead_cons] at h
      rw [splitSegments, hsegs] at ih
      rcases List.mem_cons.mp h with rfl | h
      · exact List.forall_mem_cons.mpr ⟨hc, ih List.mem_cons_self⟩
      · exact ih (List.mem_cons_of_mem _ h)

theorem mem_pushSegment (hkind : kind ≠ .file) {more : Bool} {path : List (List Char)}
    {s t : List Char} (h : t ∈ pushSegment kind more path s) : t ∈ path ∨ t = [] ∨ t = s := by
  have hshort : shorten kind path = path.dropLast := by
    cases kind with
    | file => exact absurd rfl hkind
    | special | plain => rfl
  have hempty {segs : List (List Char)} (h : t ∈ segs ++ if more then [] else [[]]) :
      t ∈ segs ∨ t = [] := by
    rcases List.mem_append.mp h with h | h
    · exact .inl h
    · cases more
      · exact .inr (List.mem_singleton.mp h)
      · nomatch h
  have hdrive : ¬ (kind = .file ∧ path = [] ∧ isDriveLetter s = true) := fun h => hkind h.1
  rw [pushSegment, if_neg hdrive] at h
  split at h
  · rw [hshort] at h
    exact (hempty h).imp (fun h => List.dropLast_sublist path |>.subset h) .inl
  · split at h
    · exact (hempty h).imp id .inl
    · exact (List.mem_append.mp h).imp id fun h => .inr (List.mem_singleton.mp h)

theorem mem_pushAll (hkind : kind ≠ .file) {path segs : List (List Char)} {t : List Char}
    (h : t ∈ pushAll kind path segs) : t ∈ path ∨ t = [] ∨ t ∈ segs := by
  fun_induction pushAll kind path segs with
  | case1 path => exact .inl h
  | case2 path s =>
    exact (mem_pushSegment hkind h).imp id (Or.imp id fun h => List.mem_singleton.mpr h)
  | case3 path s rest hrest ih =>
    rcases ih h with h | h | h
    · refine (mem_pushSegment hkind h).imp id (Or.imp id ?_)
      rintro rfl
      exact List.mem_cons_self
    · exact .inr (.inl h)
    · exact .inr (.inr (List.mem_cons_of_mem _ h))

theorem pushAll_ne_nil {path segs : List (List Char)} (hne : segs ≠ []) :
    pushAll kind path segs ≠ [] := by
  fun_induction pushAll kind path segs with
  | case1 path => exact absurd rfl hne
  | case2 path s =>
    unfold pushSegment
    split
    · exact List.append_ne_nil_of_right_ne_nil _ (List.cons_ne_nil _ _)
    · split
      · exact List.append_ne_nil_of_right_ne_nil _ (List.cons_ne_nil _ _)
      · split
        · exact List.cons_ne_nil _ _
        · exact List.concat_ne_nil _ _
  | case3 path s rest hrest ih => exact ih hrest

/-- The segments that are read of a path can stand in one. -/
theorem isSegment_of_mem_readPath (hkind : kind ≠ .file) {s : List Char}
    (h : s ∈ readPath kind cs) : IsSegment s := by
  rw [readPath] at h
  simp only [if_neg hkind] at h
  rcases mem_pushAll hkind h with h | rfl | h
  · nomatch h
  · exact fun _ hc => nomatch hc
  · obtain ⟨t, ht, rfl⟩ := List.mem_map.mp h
    refine isSegment_percentEncode (fun _ hc => hc) fun hslash => ?_
    exact absurd (not_endsSegment_of_mem ht _ hslash) (by simp [endsSegment])

theorem readPath_ne_nil (hkind : kind ≠ .file) (cs : List Char) : readPath kind cs ≠ [] := by
  rw [readPath]
  simp only [if_neg hkind]
  refine pushAll_ne_nil ?_
  rw [Ne, List.map_eq_nil_iff]
  exact List.splitOnP_ne_nil _ _

end HostWatch.Url
