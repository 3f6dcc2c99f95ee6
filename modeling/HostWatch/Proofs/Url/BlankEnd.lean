import HostWatch.Proofs.Unicode.Blank
import HostWatch.Proofs.Url.Behind
import HostWatch.Proofs.Url.Decoded

/-!
# Blanks at the end of a URL

Blanks of ASCII at the end of a URL are dropped, and so are control characters, but not the blanks
beyond ASCII. These stay, and no host ends in one (`domainHost_concat_blank`): its name is refused,
since such a blank is not allowed in a domain name or stands for a blank of ASCII. Neither does a
port. So the blanks at the end of an accepted URL stand behind user, host and port, and without them
it has the same scheme, host and port (`exists_of_parse_append`).
-/

namespace HostWatch

open Text

variable {c d : Char} {cs name rest w : List Char}

/-! ### Names -/

namespace Idna

/-- A blank of ASCII stays in the written form of a label. -/
theorem space_mem_ascii {text : List Char} {l : Label} (h : label? text = some l) (hmem : ' ' ∈ text) :
    ' ' ∈ l.ascii := by
  obtain ⟨hascii, -⟩ | hascii := ascii_of_label? h
  · rw [hascii]
    exact hmem
  · have hbasic : ' ' ∈ text.filter (·.toNat < 0x80) := List.mem_filter.mpr ⟨hmem, by decide⟩
    have hencode : ' ' ∈ Punycode.encode text := by
      rw [Punycode.encode]
      exact List.mem_append_left _ (List.mem_append_left _ hbasic)
    rw [hascii]
    simp [hencode]

/-- No name has a blank of ASCII in its composed form. -/
theorem space_not_mem_of_toAscii? {ascii mapped : List Char} (h : toAscii? name = some ascii)
    (hmapped : mapAll name = some mapped) : ' ' ∉ Unicode.toNFC mapped := by
  intro hmem
  obtain ⟨mapped', labels, hmapped', hlabels, rfl, hforbidden⟩ := toAscii?_cases h
  obtain rfl := Option.some.inj (hmapped.symm.trans hmapped')
  have hsplit : List.intercalate ['.'] ((Unicode.toNFC mapped).splitOn '.') = Unicode.toNFC mapped :=
    List.intercalate_splitOn '.'
  rw [← hsplit] at hmem
  obtain hpoint | ⟨text, htext, hmem⟩ := mem_intercalate hmem
  · exact absurd hpoint (by decide)
  · obtain ⟨l, hl, hlabel⟩ := exists_of_mapM_of_mem hlabels htext
    have hspace := mem_intercalate_of_mem (a := '.') (List.mem_map_of_mem (f := Label.ascii) hl)
      (space_mem_ascii hlabel hmem)
    exact List.any_eq_false.mp hforbidden ' ' hspace (by decide)

/-- What stands in for the last character of a name stands at the end of the mapped name. -/
theorem exists_of_mapAll_concat {mapped : List Char} (h : mapAll (name ++ [c]) = some mapped) :
    ∃ front out, (Unicode.mapped c).standIns? c = some out ∧ mapped = front ++ out := by
  obtain ⟨outs, houts, rfl⟩ := Option.map_eq_some_iff.mp h
  simp only [List.mapM_append, List.mapM_cons, List.mapM_nil, Option.bind_eq_bind,
    Option.bind_eq_some_iff, Option.pure_def, Option.some.injEq] at houts
  obtain ⟨before, -, _, ⟨out, hout, _, rfl, rfl⟩, rfl⟩ := houts
  exact ⟨before.flatten, out, hout, by simp⟩

/-- No name ends in a blank beyond ASCII. -/
theorem toAscii?_concat_blank (hblank : isBlank c) (hc : 0x80 ≤ c.toNat) (name : List Char) :
    toAscii? (name ++ [c]) = none := by
  refine Option.eq_none_iff_forall_not_mem.mpr fun ascii hascii => ?_
  obtain ⟨mapped, -, hmapped, -⟩ := toAscii?_cases hascii
  obtain ⟨front, out, hout, rfl⟩ := exists_of_mapAll_concat hmapped
  have hspace : out = [' '] := by
    obtain hrefused | hreplaced := Unicode.mapped_of_isBlank hblank hc
    · rw [hrefused] at hout
      nomatch hout
    · rw [hreplaced] at hout
      exact (Option.some.inj hout).symm
  subst hspace
  obtain ⟨composed, hcomposed⟩ := Unicode.toNFC_concat_space front
  have hnone := space_not_mem_of_toAscii? hascii hmapped
  rw [hcomposed] at hnone
  exact hnone (by simp)

end Idna

namespace Url

/-! ### Hosts -/

theorem hexOctet?_of_beyond {b : UInt8} (h : 0x80 ≤ b.toNat) : hexOctet? b = none := by
  have all : ∀ n : Fin 256, 0x80 ≤ (UInt8.ofNat n).toNat → hexOctet? (UInt8.ofNat n) = none := by
    decide +kernel
  simpa [h] using all ⟨b.toNat, b.toNat_lt⟩

/-- Digits stand in front of octets beyond ASCII only if they stand before these. -/
theorem beginsWithHex_of_append {bs beyond : Bytes} (h : ∀ b ∈ beyond, 0x80 ≤ b.toNat)
    (hhex : BeginsWithHex (bs ++ beyond)) : BeginsWithHex bs := by
  have hno : ∀ b ∈ beyond, (hexOctet? b).isSome = false := fun b hb => by
    rw [hexOctet?_of_beyond (h b hb), Option.isSome_none]
  match bs, beyond, hhex with
  | [], hi :: lo :: _, hhex => exact absurd hhex.1 (by simp [hno hi])
  | [_], lo :: _, hhex => exact absurd hhex.2 (by simp [hno lo])
  | _ :: _ :: _, _, hhex => exact hhex

/-- Octets beyond ASCII neither encode an octet nor belong to one that is encoded. -/
theorem percentDecode_append {beyond : Bytes} (h : ∀ b ∈ beyond, 0x80 ≤ b.toNat) (bs : Bytes) :
    percentDecode (bs ++ beyond) = percentDecode bs ++ beyond := by
  fun_induction percentDecode bs with
  | case1 =>
    apply percentDecode_eq_self
    rintro b hb rfl
    exact absurd (h _ hb) (by decide)
  | case2 hi lo rest a b ha hb ih =>
    simp only [List.cons_append] at ih ⊢
    rw [percentDecode]
    simp only [ha, hb, ih]
  | case3 hi lo rest hnone ih =>
    have hplain : ¬ BeginsWithHex (hi :: lo :: (rest ++ beyond)) := by
      rintro ⟨hhi, hlo⟩
      obtain ⟨a, ha⟩ := Option.isSome_iff_exists.mp hhi
      obtain ⟨b, hb⟩ := Option.isSome_iff_exists.mp hlo
      exact hnone a b ha hb
    simp only [List.cons_append] at ih ⊢
    rw [percentDecode_percent hplain, ih]
  | case4 b rest hne ih =>
    rw [List.cons_append, List.cons_append, ← ih]
    by_cases hb : b = 0x25
    · -- a percent sign with at most one octet before those beyond ASCII
      subst hb
      apply percentDecode_percent
      intro hhex
      obtain ⟨hi, lo, more, rfl⟩ := exists_of_beginsWithHex (beginsWithHex_of_append h hhex)
      exact hne hi lo more rfl rfl
    · exact percentDecode_cons_of_ne hb

/-- What a text with a character beyond ASCII at its end stands for has that at its end, too. -/
theorem exists_of_decoded?_concat (hc : 0x80 ≤ c.toNat) (h : decoded? (cs ++ [c]) = some name) :
    ∃ front, name = front ++ [c] := by
  have hbeyond : ∀ b ∈ Utf8.encodeChar c, 0x80 ≤ b.toNat := by
    intro b hb
    have hoctet := Utf8.toNat_of_mem_encodeChar hb
    omega
  have hencode := Utf8.encode_of_decode? h
  rw [Utf8.encode_append, Utf8.encode_cons, Utf8.encode_nil, List.append_nil,
    percentDecode_append hbeyond] at hencode
  exact Utf8.exists_of_encode_eq_concat hencode

/-- No host of a special URL ends in a blank beyond ASCII. -/
theorem domainHost_concat_blank (hblank : isBlank c) (hc : 0x80 ≤ c.toNat) (cs : List Char)
    (host : Host) : domainHost Idna.toAscii? (cs ++ [c]) ≠ .ok host := by
  intro h
  by_cases hhead : (cs ++ [c]).head? = some '['
  · -- an address between brackets would end in one
    cases cs with
    | nil =>
      obtain rfl := Option.some.inj hhead
      exact absurd hc (by decide)
    | cons d cs =>
      obtain rfl := Option.some.inj hhead
      rw [List.cons_append, domainHost, bracketed, List.getLast?_concat] at h
      split at h
      · next hlast _ =>
        obtain rfl := Option.some.inj hlast
        exact absurd hc (by decide)
      · cases h
  · rw [domainHost_of_head? hhead] at h
    cases hdecoded : decoded? (cs ++ [c]) with
    | none =>
      rw [hdecoded] at h
      cases h
    | some name =>
      obtain ⟨front, rfl⟩ := exists_of_decoded?_concat hc hdecoded
      rw [hdecoded, Option.bind_some, Idna.toAscii?_concat_blank hblank hc] at h
      cases h

/-! ### What ends in a blank -/

/-- A character of ASCII that is no blank and no control character but perhaps the last one. -/
def InAscii (c : Char) : Prop :=
  0x20 < c.toNat ∧ c.toNat < 0x80

instance (c : Char) : Decidable (InAscii c) :=
  inferInstanceAs (Decidable (_ ∧ _))

theorem inAscii_of_isLetter (h : isLetter c) : InAscii c := by
  rw [isLetter, Bool.or_eq_true, Bool.and_eq_true, Bool.and_eq_true, decide_eq_true_eq,
    decide_eq_true_eq, decide_eq_true_eq, decide_eq_true_eq] at h
  simp only [Char.le_def, UInt32.le_iff_toNat_le] at h
  have hsmall : 'a'.val.toNat = 0x61 ∧ 'z'.val.toNat = 0x7A := by decide
  have hcapital : 'A'.val.toNat = 0x41 ∧ 'Z'.val.toNat = 0x5A := by decide
  show 0x20 < c.val.toNat ∧ c.val.toNat < 0x80
  omega

theorem inAscii_of_isDigit (h : Decimal.isDigit c) : InAscii c := by
  have hrange := Decimal.toNat_of_isDigit h
  unfold InAscii
  omega

theorem inAscii_of_inScheme (h : inScheme c) : InAscii c := by
  simp only [inScheme, Bool.or_eq_true, decide_eq_true_eq] at h
  obtain (((h | h) | rfl) | rfl) | rfl := h
  · exact inAscii_of_isLetter h
  · exact inAscii_of_isDigit h
  all_goals decide

theorem inAscii_of_isSlash (h : isSlash c) : InAscii c := by
  simp only [isSlash, Bool.or_eq_true, decide_eq_true_eq] at h
  obtain rfl | rfl := h <;> decide

theorem inAscii_of_endsAuthority {kind : Kind} (h : endsAuthority kind c) : InAscii c := by
  simp only [endsAuthority, Bool.or_eq_true, Bool.and_eq_true, decide_eq_true_eq] at h
  obtain ((rfl | rfl) | rfl) | ⟨rfl, -⟩ := h <;> decide

/-- A text of blanks and control characters whose last one is a blank beyond ASCII. -/
structure BlankEnd (w : List Char) : Prop where
  /-- No sign, letter or digit of ASCII is in it. -/
  all : ∀ c ∈ w, ¬ InAscii c
  /-- It ends in a blank beyond ASCII. -/
  last : ∃ front c, w = front ++ [c] ∧ isBlank c ∧ 0x80 ≤ c.toNat

/-- What only signs, letters and digits of ASCII satisfy holds nowhere in such a text. -/
theorem BlankEnd.eq_false {p : Char → Bool} (hw : BlankEnd w) (hp : ∀ c, p c → InAscii c) :
    ∀ c ∈ w, p c = false := fun c hc =>
  Bool.eq_false_iff.mpr fun hpc => hw.all c hc (hp c hpc)

theorem BlankEnd.not_mem (hw : BlankEnd w) (hd : InAscii d) : d ∉ w := fun hmem =>
  hw.all d hmem hd

theorem takeWhile_append_of_false {p : Char → Bool} (h : ∀ c ∈ w, p c = false) (cs : List Char) :
    (cs ++ w).takeWhile p = cs.takeWhile p := by
  have hstop : w.takeWhile p = [] := by
    cases w with
    | nil => rfl
    | cons c w => exact List.takeWhile_cons_of_neg (by simp [h c List.mem_cons_self])
  rw [List.takeWhile_append, hstop, List.append_nil]
  split
  · next hlength => exact ((List.takeWhile_sublist p).eq_of_length hlength).symm
  · rfl

theorem dropWhile_append_of_false {p : Char → Bool} (h : ∀ c ∈ w, p c = false) (cs : List Char) :
    (cs ++ w).dropWhile p = cs.dropWhile p ++ w := by
  rw [List.dropWhile_append, dropWhile_eq_self h]
  split
  · next hempty => rw [List.isEmpty_iff.mp hempty, List.nil_append]
  · rfl

/-! ### Behind user, host and port -/

variable {scheme more : List Char} {host : Host} {u : Url}

/-- The scheme and its colon stand before a blank end. -/
theorem exists_of_splitScheme?_append (hw : BlankEnd w)
    (h : splitScheme? (cs ++ w) = some (scheme, more)) :
    ∃ rest, splitScheme? cs = some (scheme, rest) ∧ more = rest ++ w := by
  have hscheme : ∀ c ∈ w, inScheme c = false := hw.eq_false fun _ => inAscii_of_inScheme
  have hcolon : ':' ∉ w := hw.not_mem (by decide)
  unfold splitScheme? at h ⊢
  cases cs with
  | nil =>
    rw [List.nil_append] at h
    split at h
    · nomatch h
    · next c w =>
      split at h
      · next hletter => exact absurd (inAscii_of_isLetter hletter) (hw.all c List.mem_cons_self)
      · nomatch h
  | cons c cs =>
    simp only [List.cons_append] at h ⊢
    rw [← List.cons_append, dropWhile_append_of_false hscheme, takeWhile_append_of_false hscheme] at h
    split at h
    · next hletter =>
      rw [if_pos hletter]
      cases hbehind : (c :: cs).dropWhile inScheme with
      | nil =>
        -- the colon would be among the blanks
        rw [hbehind, List.nil_append] at h
        split at h
        · exact absurd List.mem_cons_self hcolon
        · nomatch h
      | cons e rest =>
        rw [hbehind, List.cons_append] at h
        split at h
        · next heq =>
          obtain ⟨rfl, rfl⟩ := List.cons.inj heq
          obtain ⟨rfl, rfl⟩ := Prod.mk.inj (Option.some.inj h)
          exact ⟨rest, rfl, rfl⟩
        · nomatch h
    · nomatch h

/-- What stands behind a host begins with a colon. -/
theorem head?_splitHost (inside : Bool) (cs : List Char) :
    ∀ c ∈ (splitHost inside cs).2.head?, c = ':' := by
  induction cs generalizing inside with
  | nil => exact fun _ hc => nomatch hc
  | cons c cs ih =>
    rw [splitHost]
    split
    · next hcolon =>
      intro e he
      rw [← Option.some.inj he]
      exact hcolon.1
    · exact ih _

theorem splitUserinfo_append (hw : '@' ∉ w) (cs : List Char) :
    (splitUserinfo (cs ++ w)).2 = (splitUserinfo cs).2 ++ w := by
  have hall : ∀ c ∈ w.reverse, (decide (c ≠ '@')) = true := fun c hc =>
    decide_eq_true fun heq => hw (heq ▸ List.mem_reverse.mp hc)
  have hafter : ((cs ++ w).reverse.takeWhile (· ≠ '@')).reverse =
      (cs.reverse.takeWhile (· ≠ '@')).reverse ++ w := by
    rw [List.reverse_append, List.takeWhile_append_of_pos hall, List.reverse_append,
      List.reverse_reverse]
  unfold splitUserinfo
  rw [hafter]
  simp only [List.length_append, Nat.add_lt_add_iff_right]
  split <;> rfl

/-- No host and port are read from a text with a blank end. -/
theorem readHostPort_append_ne_ok {given : Bool} (hw : BlankEnd w) (hcs : '\\' ∉ cs)
    (read : Option Host × Option Nat × List Char) :
    readHostPort Idna.toAscii? .special scheme given (cs ++ w) ≠ .ok read := by
  intro h
  obtain ⟨front, c, rfl, hblank, hc⟩ := hw.last
  have hslash : '\\' ∉ front ++ [c] := hw.not_mem (by decide)
  obtain ⟨host?, hhost, h⟩ := exists_of_bind h
  obtain ⟨-, -, h⟩ := exists_of_bind h
  obtain ⟨port, -, h⟩ := exists_of_bind h
  obtain ⟨_, hleft, -⟩ := exists_of_bind h
  have hleft := not_of_failIf hleft
  have hparts := splitHost_append false (cs ++ (front ++ [c]))
  cases hport : (splitHost false (cs ++ (front ++ [c]))).2 with
  | nil =>
    -- the host would have the blank end
    rw [hport, List.append_nil] at hparts
    rw [hparts, ← List.append_assoc, readHost, if_neg (by decide), if_neg (by simp)] at hhost
    obtain ⟨host, hhost, -⟩ := exists_of_map hhost
    exact domainHost_concat_blank hblank hc _ host hhost
  | cons e digits =>
    -- the port would have it
    obtain rfl : e = ':' := head?_splitHost false _ e (by rw [hport]; rfl)
    rw [hport] at hparts hleft
    have hlast : (':' :: digits).getLast? = some c := by
      have hwhole := congrArg List.getLast? hparts
      rwa [List.getLast?_append_of_ne_nil _ (List.cons_ne_nil _ _), ← List.append_assoc,
        List.getLast?_concat] at hwhole
    have hmem : c ∈ digits := by
      obtain rfl | hmem := List.mem_cons.mp (List.mem_of_getLast? hlast)
      · exact absurd hc (by decide)
      · exact hmem
    have hne : digits.dropWhile Decimal.isDigit ≠ [] := fun hnil =>
      hw.all c (by simp) (inAscii_of_isDigit (List.dropWhile_eq_nil_iff.mp hnil c hmem))
    obtain hnil | hhead := not_and_or.mp hleft
    · exact hnil hne
    · have hback : '\\' ∈ digits :=
        (List.dropWhile_sublist _).subset (List.mem_of_head? (not_not.mp hhead))
      have hin : '\\' ∈ cs ++ (front ++ [c]) := by
        rw [← hparts]
        exact List.mem_append_right _ (List.mem_cons_of_mem _ hback)
      exact (List.mem_append.mp hin).elim hcs hslash

/-- A blank end stands behind user, host and port. -/
theorem exists_of_readAuthority_append {a : Authority} (hw : BlankEnd w)
    (h : readAuthority Idna.toAscii? .special scheme (cs ++ w) = .ok a) :
    ∃ rest, readAuthority Idna.toAscii? .special scheme cs = .ok { a with rest := rest } := by
  have hinside : ∀ c ∈ w, (!endsAuthority .special c) = true := fun c hc => by
    rw [hw.eq_false (fun _ => inAscii_of_endsAuthority) c hc]
    rfl
  by_cases hrest : cs.dropWhile (fun c => !endsAuthority .special c) = []
  · -- user, host and port would go on up to the end
    have hall := List.dropWhile_eq_nil_iff.mp hrest
    have hslash : '\\' ∉ (splitUserinfo cs).2 := fun hmem =>
      absurd (hall _ (mem_of_splitUserinfo hmem)) (by decide)
    have hwhole : ∀ c ∈ cs ++ w, (!endsAuthority .special c) = true := fun c hc =>
      (List.mem_append.mp hc).elim (hall c) (hinside c)
    have hinfo := splitUserinfo_append (hw.not_mem (by decide)) cs
    rw [readAuthority, List.takeWhile_eq_self_iff.mpr hwhole] at h
    generalize splitUserinfo (cs ++ w) = split at h hinfo
    obtain ⟨userinfo, hostPort⟩ := split
    obtain rfl : hostPort = (splitUserinfo cs).2 ++ w := hinfo
    obtain ⟨-, -, h⟩ := exists_of_bind h
    obtain ⟨read, hread, -⟩ := exists_of_bind h
    exact absurd hread (readHostPort_append_ne_ok hw hslash read)
  · rw [readAuthority, takeWhile_append_of_ne_nil hrest, dropWhile_append_of_ne_nil hrest] at h
    rw [readAuthority]
    generalize splitUserinfo (cs.takeWhile fun c => !endsAuthority .special c) = split at h ⊢
    obtain ⟨userinfo, hostPort⟩ := split
    obtain ⟨_, hgiven, h⟩ := exists_of_bind h
    obtain ⟨⟨host', port', left⟩, hread, h⟩ := exists_of_bind h
    obtain rfl := Except.ok.inj h
    refine ⟨left ++ cs.dropWhile fun c => !endsAuthority .special c, ?_⟩
    have hgiven := not_of_failIf hgiven
    have hpass : ¬ (userinfo = some [] ∧ hostPort = [] ∧
        (cs.dropWhile fun c => !endsAuthority .special c) ≠ []) := fun hnone =>
      hgiven ⟨hnone.1, hnone.2.1, List.append_ne_nil_of_left_ne_nil hrest w⟩
    simp only [failIf_of_not hpass, hread]
    rfl

/-- Scheme, host and port are told once user, host and port are read. -/
theorem parseAfterSlashes_eq_ok {a : Authority}
    (h : readAuthority Idna.toAscii? .special scheme cs = .ok a) :
    ∃ v, parseAfterSlashes Idna.toAscii? .special scheme cs = .ok v ∧ v.scheme = scheme ∧
      v.host = a.host ∧ v.port = a.port := by
  rw [parseAfterSlashes, h]
  exact ⟨_, rfl, rfl, rfl, rfl⟩

theorem exists_of_parseAfterSlashes_append (hw : BlankEnd w)
    (h : parseAfterSlashes Idna.toAscii? .special scheme (cs ++ w) = .ok u) :
    ∃ v, parseAfterSlashes Idna.toAscii? .special scheme cs = .ok v ∧ v.scheme = u.scheme ∧
      v.host = u.host ∧ v.port = u.port := by
  obtain ⟨a, ha, -⟩ := exists_of_bind h
  obtain ⟨u', hu', hscheme, hhost, hport⟩ := parseAfterSlashes_eq_ok ha
  obtain rfl := Except.ok.inj (hu'.symm.trans h)
  obtain ⟨rest, hfront⟩ := exists_of_readAuthority_append hw ha
  obtain ⟨v, hv, hscheme', hhost', hport'⟩ := parseAfterSlashes_eq_ok hfront
  exact ⟨v, hv, hscheme'.trans hscheme.symm, hhost'.trans hhost.symm, hport'.trans hport.symm⟩

/-- A blank end is no part of scheme, host or port. -/
theorem exists_of_parse_append {text : List Char} (hw : BlankEnd w)
    (htext : clean text = clean cs ++ w) (h : parse Idna.toAscii? text = .ok u)
    (hhost : u.host = some host) (hkind : Kind.ofScheme u.scheme = .special) :
    ∃ v, parse Idna.toAscii? cs = .ok v ∧ v.scheme = u.scheme ∧ v.host = u.host ∧
      v.port = u.port := by
  obtain ⟨_, hwritten, -⟩ := (reading_of_parse h hhost).written
  rw [parse] at h
  cases hsplit : splitScheme? (clean text) with
  | none =>
    rw [hsplit] at h
    cases h
  | some split =>
    obtain ⟨scheme, more⟩ := split
    rw [writtenHost?, hsplit, Option.map_some, Option.some.injEq, Prod.mk.injEq, hkind] at hwritten
    rw [hsplit] at h
    simp only [hwritten.1] at h
    rw [htext] at hsplit
    obtain ⟨rest, hfront, rfl⟩ := exists_of_splitScheme?_append hw hsplit
    rw [dropWhile_append_of_false (hw.eq_false fun _ => inAscii_of_isSlash)] at h
    rw [parse, hfront]
    simp only [hwritten.1]
    exact exists_of_parseAfterSlashes_append hw h

end Url

end HostWatch
