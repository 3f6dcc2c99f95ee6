import HostWatch.Idna
import HostWatch.Proofs.Unicode.Normal

/-!
# The ASCII form of a domain name

The ASCII form of a name holds no capital letter (`Idna.mem_toAscii?`) and no character
that is forbidden in a name, and case in the name makes no difference to it
(`Idna.toAscii?_lower`). A name of ASCII without capital letters, forbidden characters and labels
that begin with `xn--` is its own ASCII form (`Idna.toAscii?_of_ascii`).
-/

namespace HostWatch

variable {c d : Char} {cs : List Char}

/-! ### Labels and points -/

section Lists

variable {α β : Type}

theorem mem_of_mem_splitOn {a x : α} [BEq α] {xs ys : List α} (hx : x ∈ ys)
    (hys : ys ∈ xs.splitOn a) : x ∈ xs := by
  induction xs generalizing ys with
  | nil =>
    obtain rfl := List.mem_singleton.mp (List.splitOn_nil a ▸ hys)
    exact hx
  | cons b xs ih =>
    rw [List.splitOn_cons_eq_if_modifyHead] at hys
    split at hys
    · obtain rfl | hys := List.mem_cons.mp hys
      · exact absurd hx List.not_mem_nil
      · exact List.mem_cons_of_mem _ (ih hx hys)
    · obtain ⟨zs, rest, hsplit⟩ := List.exists_cons_of_ne_nil (List.splitOn_ne_nil a xs)
      rw [hsplit, List.modifyHead_cons] at hys
      rw [hsplit] at ih
      obtain rfl | hys := List.mem_cons.mp hys
      · obtain rfl | hx := List.mem_cons.mp hx
        · exact List.mem_cons_self
        · exact List.mem_cons_of_mem _ (ih hx List.mem_cons_self)
      · exact List.mem_cons_of_mem _ (ih hx (List.mem_cons_of_mem _ hys))

theorem mem_intercalate {a x : α} {xss : List (List α)} (h : x ∈ List.intercalate [a] xss) :
    x = a ∨ ∃ xs ∈ xss, x ∈ xs := by
  induction xss with
  | nil => exact absurd h List.not_mem_nil
  | cons xs xss ih =>
    cases xss with
    | nil => exact .inr ⟨xs, List.mem_cons_self, by simpa using h⟩
    | cons ys xss =>
      rw [List.intercalate_cons_cons, List.append_assoc, List.singleton_append, List.mem_append,
        List.mem_cons] at h
      obtain h | rfl | h := h
      · exact .inr ⟨xs, List.mem_cons_self, h⟩
      · exact .inl rfl
      · exact (ih h).imp_right fun ⟨zs, hzs, hx⟩ => ⟨zs, List.mem_cons_of_mem _ hzs, hx⟩

theorem mem_intercalate_of_mem {a x : α} {xs : List α} {xss : List (List α)}
    (hxs : xs ∈ xss) (hx : x ∈ xs) : x ∈ List.intercalate [a] xss := by
  induction xss with
  | nil => exact absurd hxs List.not_mem_nil
  | cons ys xss ih =>
    obtain rfl | hxs := List.mem_cons.mp hxs
    · cases xss with
      | nil => simpa using hx
      | cons zs xss => simp [List.intercalate_cons_cons, hx]
    · cases xss with
      | nil => exact absurd hxs List.not_mem_nil
      | cons zs xss =>
        rw [List.intercalate_cons_cons]
        exact List.mem_append_right _ (ih hxs)

theorem exists_of_mem_mapM {f : α → Option β} {xs : List α} {ys : List β} {y : β}
    (h : xs.mapM f = some ys) (hy : y ∈ ys) : ∃ x ∈ xs, f x = some y := by
  induction xs generalizing ys with
  | nil =>
    obtain rfl : [] = ys := Option.some.inj h
    exact absurd hy List.not_mem_nil
  | cons x xs ih =>
    simp only [List.mapM_cons, Option.bind_eq_bind, Option.bind_eq_some_iff, Option.pure_def,
      Option.some.injEq] at h
    obtain ⟨z, hz, zs, hzs, rfl⟩ := h
    obtain rfl | hy := List.mem_cons.mp hy
    · exact ⟨x, List.mem_cons_self, hz⟩
    · obtain ⟨x', hx', h⟩ := ih hzs hy
      exact ⟨x', List.mem_cons_of_mem _ hx', h⟩

theorem exists_of_mapM_of_mem {f : α → Option β} {xs : List α} {ys : List β} {x : α}
    (h : xs.mapM f = some ys) (hx : x ∈ xs) : ∃ y ∈ ys, f x = some y := by
  induction xs generalizing ys with
  | nil => exact absurd hx List.not_mem_nil
  | cons b xs ih =>
    simp only [List.mapM_cons, Option.bind_eq_bind, Option.bind_eq_some_iff, Option.pure_def,
      Option.some.injEq] at h
    obtain ⟨z, hz, zs, hzs, rfl⟩ := h
    obtain rfl | hx := List.mem_cons.mp hx
    · exact ⟨z, List.mem_cons_self, hz⟩
    · obtain ⟨y, hy, h⟩ := ih hzs hx
      exact ⟨y, List.mem_cons_of_mem _ hy, h⟩

theorem mapM_eq_map {f : α → Option β} {g : α → β} {xs : List α} (h : ∀ x ∈ xs, f x = some (g x)) :
    xs.mapM f = some (xs.map g) := by
  induction xs with
  | nil => rfl
  | cons x xs ih =>
    have ⟨hx, hxs⟩ := List.forall_mem_cons.mp h
    rw [List.mapM_cons, hx, ih hxs]
    rfl

theorem mapM_map_eq {f : α → Option β} {g : α → α} (h : ∀ x, f (g x) = f x) (xs : List α) :
    (xs.map g).mapM f = xs.mapM f := by
  rw [List.mapM_map]
  exact congrArg (List.mapM · xs) (funext h)

end Lists

/-! ### Punycode -/

namespace Punycode

/-- A digit of a number in Punycode. -/
def isDigit (d : Char) : Prop :=
  ∃ n < 36, d = digitChar n

theorem isDigit_of_mem_writeNumber {bias k q : Nat} (h : d ∈ writeNumber bias k q) : isDigit d := by
  fun_induction writeNumber bias k q with
  | case1 k q t hq =>
    have := threshold_le k bias
    exact ⟨q, by omega, List.mem_singleton.mp h⟩
  | case2 k q t hq ih =>
    have := threshold_le k bias
    obtain rfl | h := List.mem_cons.mp h
    · have := Nat.mod_lt (q - t) (show 36 - t > 0 by omega)
      exact ⟨_, by omega, rfl⟩
    · exact ih h

theorem isDigit_of_mem_pass {w : Writing} {basic m : Nat} (hw : ∀ d ∈ w.out, isDigit d)
    (h : d ∈ (w.pass basic m c).out) : isDigit d := by
  unfold Writing.pass at h
  split at h
  · exact hw d h
  split at h
  · exact (List.mem_append.mp h).elim (hw d) isDigit_of_mem_writeNumber
  · exact hw d h

theorem isDigit_of_mem_run {text : List Char} {basic : Nat} {ms : List Nat} {n : Nat} {w : Writing}
    (hw : ∀ d ∈ w.out, isDigit d) (h : d ∈ (w.run text basic ms n).out) : isDigit d := by
  induction ms generalizing n w with
  | nil => exact hw d h
  | cons m ms ih =>
    refine ih ?_ h
    exact List.foldlRecOn (motive := fun w : Writing => ∀ d ∈ w.out, isDigit d) text _ hw
      fun w hw c _ d hd => isDigit_of_mem_pass hw hd

/-- A text is written with its characters of ASCII, a hyphen and digits. -/
theorem mem_encode {text : List Char} (h : d ∈ encode text) :
    (d ∈ text ∧ d.toNat < 0x80) ∨ d = '-' ∨ isDigit d := by
  rw [encode] at h
  simp only [List.mem_append] at h
  obtain (h | h) | h := h
  · obtain ⟨hmem, hd⟩ := List.mem_filter.mp h
    exact .inl ⟨hmem, of_decide_eq_true hd⟩
  · split at h
    · exact absurd h List.not_mem_nil
    · exact .inr (.inl (List.mem_singleton.mp h))
  · exact .inr (.inr (isDigit_of_mem_run (fun _ hd => absurd hd List.not_mem_nil) h))

theorem of_isDigit (h : isDigit d) : d.toNat < 0x80 ∧ d.isUpper = false := by
  obtain ⟨n, hn, rfl⟩ := h
  exact (by decide : ∀ n : Fin 36, (digitChar n).toNat < 0x80 ∧ (digitChar n).isUpper = false) ⟨n, hn⟩

end Punycode

namespace Idna

/-! ### Mapping -/

theorem exists_of_mem_mapAll {out : List Char} (h : mapAll cs = some out) (hd : d ∈ out) :
    ∃ c ∈ cs, ∃ out, (Unicode.mapped c).standIns? c = some out ∧ d ∈ out := by
  obtain ⟨outs, houts, rfl⟩ := Option.map_eq_some_iff.mp h
  obtain ⟨out, hout, hd⟩ := List.mem_flatten.mp hd
  obtain ⟨c, hc, h⟩ := exists_of_mem_mapM houts hout
  exact ⟨c, hc, out, h, hd⟩

theorem standIns?_of_ascii (hc : c.toNat < 0x80) (hu : c.isUpper = false) :
    (Unicode.mapped c).standIns? c = some [c] := by
  rw [Unicode.mapped_of_ascii hc hu]
  rfl

/-- A capital letter is mapped as the small one is. -/
theorem standIns?_toLower (c : Char) : (Unicode.mapped c.toLower).standIns? c.toLower =
    (Unicode.mapped c).standIns? c := by
  cases hc : c.isUpper with
  | false => rw [Ascii.toLower_of_not_isUpper hc]
  | true =>
    have := Ascii.toNat_toLower_of_isUpper hc
    have hrange := Ascii.isUpper_iff.mp hc
    rw [standIns?_of_ascii (by omega) (Ascii.not_isUpper_toLower c), Unicode.mapped_of_isUpper hc]
    rfl

theorem mapAll_lower (cs : List Char) : mapAll (Ascii.lower cs) = mapAll cs := by
  rw [mapAll, mapAll, Ascii.lower, mapM_map_eq standIns?_toLower]

theorem mapAll_of_ascii (h : ∀ c ∈ cs, c.toNat < 0x80) (hu : ∀ c ∈ cs, c.isUpper = false) :
    mapAll cs = some cs := by
  rw [mapAll, mapM_eq_map (g := fun c => [c]) fun c hc => standIns?_of_ascii (h c hc) (hu c hc),
    Option.map_some, ← List.flatMap_def, List.flatMap_singleton']

/-! ### Labels -/

theorem ascii_of_decodeLabel? {rest : List Char} {l : Label} (h : decodeLabel? rest = some l) :
    l.ascii = 'x' :: 'n' :: '-' :: '-' :: rest := by
  rw [decodeLabel?] at h
  split at h
  · nomatch h
  · obtain ⟨text, -, h⟩ := Option.bind_eq_some_iff.mp h
    split at h
    · nomatch h
    split at h
    · obtain rfl := Option.some.inj h
      rfl
    · nomatch h

/-- A label is written as it is, if it is in ASCII, or in Punycode. -/
theorem ascii_of_label? {text : List Char} {l : Label} (h : label? text = some l) :
    (l.ascii = text ∧ ∀ c ∈ text, c.toNat < 0x80) ∨
      l.ascii = 'x' :: 'n' :: '-' :: '-' :: Punycode.encode text := by
  have ascii {text : List Char} (h : text.all isAscii) : ∀ c ∈ text, c.toNat < 0x80 :=
    fun c hc => of_decide_eq_true (List.all_eq_true.mp h c hc)
  unfold label? at h
  split at h
  · split at h
    · next rest hrest =>
      refine .inl ⟨ascii_of_decodeLabel? h, ?_⟩
      simpa using ascii hrest
    · nomatch h
  · split at h
    · next htext =>
      obtain rfl := Option.some.inj h
      exact .inl ⟨rfl, ascii htext⟩
    split at h
    · obtain rfl := Option.some.inj h
      exact .inr rfl
    · nomatch h

/-- A written label holds characters of its text that are in ASCII, and some that are no capital
letters. -/
theorem mem_label? {text : List Char} {l : Label} (h : label? text = some l) (hd : d ∈ l.ascii) :
    d.toNat < 0x80 ∧ (d ∈ text ∨ d.isUpper = false) := by
  obtain ⟨hl, htext⟩ | hl := ascii_of_label? h <;> rw [hl] at hd
  · exact ⟨htext d hd, .inl hd⟩
  · have front : d ∈ "xn--".toList ∨ d ∈ Punycode.encode text := by
      simpa [or_assoc] using hd
    obtain hd | hd := front
    · obtain ⟨hascii, hsmall⟩ :=
        (by simp : ∀ d ∈ "xn--".toList, d.toNat < 0x80 ∧ d.isUpper = false) d hd
      exact ⟨hascii, .inr hsmall⟩
    · obtain ⟨hmem, hascii⟩ | rfl | hdigit := Punycode.mem_encode hd
      · exact ⟨hascii, .inl hmem⟩
      · exact ⟨by decide, .inr rfl⟩
      · exact ⟨(Punycode.of_isDigit hdigit).1, .inr (Punycode.of_isDigit hdigit).2⟩

/-- A label in ASCII that does not begin with `xn--` is written as it is. -/
theorem label?_of_ascii {text : List Char} (h : ∀ c ∈ text, c.toNat < 0x80)
    (hx : ¬ "xn--".toList <+: text) : label? text = some ⟨text, text⟩ := by
  unfold label?
  split
  · next rest => exact absurd ⟨rest, rfl⟩ hx
  · have hall : text.all isAscii := List.all_eq_true.mpr fun c hc => decide_eq_true (h c hc)
    rw [if_pos hall]

theorem fromRight_cases {k : Unicode.BidiClass} (h : fromRight k) :
    k = .rightToLeft ∨ k = .arabicLetter ∨ k = .arabicNumber := by
  cases k <;> simp_all [fromRight]

theorem isRightToLeft_of_ascii {text : List Char} (h : ∀ c ∈ text, c.toNat < 0x80) :
    isRightToLeft text = false := by
  refine List.any_eq_false.mpr fun c hc hright => ?_
  have := Unicode.le_of_bidiClass (fromRight_cases hright)
  exact absurd (h c hc) (by omega)

/-! ### Names -/

theorem toAscii?_cases {name ascii : List Char} (h : toAscii? name = some ascii) :
    ∃ mapped labels, mapAll name = some mapped ∧
      ((Unicode.toNFC mapped).splitOn '.').mapM label? = some labels ∧
      ascii = List.intercalate ['.'] (labels.map Label.ascii) ∧
      ascii.any isForbidden = false := by
  simp only [toAscii?, Option.bind_eq_bind, Option.bind_eq_some_iff] at h
  obtain ⟨mapped, hmapped, labels, hlabels, h⟩ := h
  split at h
  · nomatch h
  split at h
  · nomatch h
  · next hforbidden =>
    obtain rfl := Option.some.inj h
    exact ⟨mapped, labels, hmapped, hlabels, rfl, Bool.eq_false_iff.mpr hforbidden⟩

/-- The ASCII form of a name is in ASCII, and holds no capital letter. -/
theorem mem_toAscii? {name ascii : List Char} (h : toAscii? name = some ascii) (hd : d ∈ ascii) :
    d.toNat < 0x80 ∧ d.isUpper = false := by
  obtain ⟨mapped, labels, hmapped, hlabels, rfl, -⟩ := toAscii?_cases h
  have htext {c : Char} (hc : c ∈ Unicode.toNFC mapped) : c.isUpper = false := by
    refine Unicode.not_isUpper_of_mem_toNFC (fun b hb d hd => ?_) hc
    obtain ⟨a, -, out, hout, hb⟩ := exists_of_mem_mapAll hmapped hb
    exact Unicode.not_isUpper_of_standIn hout hb hd
  obtain rfl | ⟨ascii, hascii, hd⟩ := mem_intercalate hd
  · decide
  · obtain ⟨l, hl, rfl⟩ := List.mem_map.mp hascii
    obtain ⟨text, hmem, hlabel⟩ := exists_of_mem_mapM hlabels hl
    obtain ⟨hlt, hd⟩ := mem_label? hlabel hd
    exact ⟨hlt, hd.elim (fun hd => htext (mem_of_mem_splitOn hd hmem)) id⟩

/-- The ASCII form of a name holds no character that is forbidden in one. -/
theorem not_isForbidden_of_toAscii? {name ascii : List Char} (h : toAscii? name = some ascii)
    (hd : d ∈ ascii) : isForbidden d = false := by
  obtain ⟨mapped, labels, -, -, -, hforbidden⟩ := toAscii?_cases h
  exact Bool.eq_false_iff.mpr (List.any_eq_false.mp hforbidden d hd)

/-- Case in a name makes no difference to its ASCII form. -/
theorem toAscii?_lower (name : List Char) : toAscii? (Ascii.lower name) = toAscii? name := by
  rw [toAscii?, toAscii?, mapAll_lower]

/-- A plain name in small letters is its own ASCII form. -/
theorem toAscii?_of_ascii {name : List Char} (h : ∀ c ∈ name, c.toNat < 0x80)
    (hu : ∀ c ∈ name, c.isUpper = false) (hf : ∀ c ∈ name, isForbidden c = false)
    (hx : ∀ label ∈ name.splitOn '.', ¬ "xn--".toList <+: label) :
    toAscii? name = some name := by
  have hlabels : (name.splitOn '.').mapM label? = some ((name.splitOn '.').map fun t => ⟨t, t⟩) :=
    mapM_eq_map fun text ht =>
      label?_of_ascii (fun c hc => h c (mem_of_mem_splitOn hc ht)) (hx text ht)
  have hright : ((name.splitOn '.').map fun t => (⟨t, t⟩ : Label)).any
      (fun l => isRightToLeft l.text) = false := by
    refine List.any_eq_false.mpr fun l hl => ?_
    obtain ⟨text, ht, rfl⟩ := List.mem_map.mp hl
    exact Bool.eq_false_iff.mp
      (isRightToLeft_of_ascii fun c hc => h c (mem_of_mem_splitOn hc ht))
  have hascii : List.intercalate ['.'] (((name.splitOn '.').map fun t => (⟨t, t⟩ : Label)).map
      Label.ascii) = name := by
    rw [List.map_map, show Label.ascii ∘ (fun t => (⟨t, t⟩ : Label)) = id from rfl, List.map_id,
      List.intercalate_splitOn]
  have hforbidden : name.any isForbidden = false :=
    List.any_eq_false.mpr fun c hc => Bool.eq_false_iff.mp (hf c hc)
  simp only [toAscii?, mapAll_of_ascii h hu, Unicode.toNFC_of_ascii h, Option.bind_eq_bind,
    Option.bind_some, hlabels, hright, hascii, hforbidden, Bool.false_eq_true, false_and, if_false]
  rfl

/-- Brought into ASCII again, a name that is in its ASCII form stays as it is. -/
def Settled (ascii : List Char) : Prop :=
  ∀ name, toAscii? name = some ascii → toAscii? ascii = some ascii

/-- A name is settled if none of its labels is written in Punycode. -/
theorem settled_of_labels {ascii : List Char}
    (h : ∀ label ∈ ascii.splitOn '.', ¬ "xn--".toList <+: label) : Settled ascii := fun _ hname =>
  toAscii?_of_ascii (fun _ hc => (mem_toAscii? hname hc).1) (fun _ hc => (mem_toAscii? hname hc).2)
    (fun _ hc => not_isForbidden_of_toAscii? hname hc) h

end Idna

end HostWatch
