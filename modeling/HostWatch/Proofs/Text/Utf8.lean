import HostWatch.Text.Utf8
import Mathlib.Tactic.SplitIfs

/-!
# UTF-8 reads back what it writes

A character stands in front of any octets: `decodeChar?` takes its octets and leaves
the others, whichever of the four forms it is written in. By induction on the text,
`decode?` reads a whole text back. Octets with one of ASCII among them are text if and only if those
before it and those behind it are (`decode?_append_ascii`). A text whose octets end in those of a
character ends in the character (`exists_of_encode_eq_concat`).
-/

namespace HostWatch.Utf8

/-- The number of a character is that of one. -/
theorem isValidChar_toNat (c : Char) : c.toNat.isValidChar := c.valid

theorem scalar?_toNat {low : Nat} {c : Char} (h : low ≤ c.toNat) :
    scalar? low c.toNat = some c := by
  unfold scalar?
  rw [dif_pos ⟨h, isValidChar_toNat c⟩]
  exact congrArg some (Char.ext rfl)

/-- No character has a number beyond `0x10FFFF`. -/
theorem toNat_lt (c : Char) : c.toNat < 0x110000 := by
  have h := isValidChar_toNat c
  unfold Nat.isValidChar at h
  omega

theorem toNat_ofNat {k : Nat} (h : k < 256) : (UInt8.ofNat k).toNat = k := by
  rw [UInt8.toNat_ofNat']
  exact Nat.mod_eq_of_lt h

/-- A continuation octet gives back its six bits. -/
theorem tail?_cons {k : Nat} (h : k < 64) (rest : Bytes) :
    tail? (UInt8.ofNat (0x80 + k) :: rest) = some (k, rest) := by
  have hk : (UInt8.ofNat (0x80 + k)).toNat = 0x80 + k := toNat_ofNat (by omega)
  simp only [tail?, hk]
  rw [if_pos (by omega)]
  simp

/-- The first character is read from its octets, whatever follows them. -/
theorem decodeChar?_encodeChar (c : Char) (rest : Bytes) :
    decodeChar? (encodeChar c ++ rest) = some (c, rest) := by
  have hlt := toNat_lt c
  unfold encodeChar
  simp only
  split
  · next h =>
    have ha : (UInt8.ofNat c.toNat).toNat = c.toNat := toNat_ofNat (by omega)
    simp only [List.cons_append, List.nil_append, decodeChar?, ha]
    rw [if_pos h, scalar?_toNat (Nat.zero_le _)]
    rfl
  · split
    · next h1 h2 =>
      have ha : (UInt8.ofNat (0xC0 + c.toNat / 64)).toNat = 0xC0 + c.toNat / 64 :=
        toNat_ofNat (by omega)
      have hn : (0xC0 + c.toNat / 64 - 0xC0) * 64 + c.toNat % 64 = c.toNat := by omega
      simp only [List.cons_append, List.nil_append, decodeChar?, ha]
      rw [if_neg (by omega), if_neg (by omega), if_pos (by omega)]
      simp only [tail?_cons (Nat.mod_lt _ (by omega : 64 > 0)), Option.bind_eq_bind,
        Option.bind_some, hn, scalar?_toNat (show 0x80 ≤ c.toNat by omega), Option.map_some]
    · split
      · next h1 h2 h3 =>
        have ha : (UInt8.ofNat (0xE0 + c.toNat / 4096)).toNat = 0xE0 + c.toNat / 4096 :=
          toNat_ofNat (by omega)
        have hn : ((0xE0 + c.toNat / 4096 - 0xE0) * 64 + c.toNat / 64 % 64) * 64 + c.toNat % 64 =
            c.toNat := by omega
        simp only [List.cons_append, List.nil_append, decodeChar?, ha]
        rw [if_neg (by omega), if_neg (by omega), if_neg (by omega), if_pos (by omega)]
        simp only [tail?_cons (Nat.mod_lt _ (by omega : 64 > 0)), Option.bind_eq_bind,
          Option.bind_some, hn, scalar?_toNat (show 0x800 ≤ c.toNat by omega), Option.map_some]
      · next h1 h2 h3 =>
        have ha : (UInt8.ofNat (0xF0 + c.toNat / 262144)).toNat = 0xF0 + c.toNat / 262144 :=
          toNat_ofNat (by omega)
        have hn : (((0xF0 + c.toNat / 262144 - 0xF0) * 64 + c.toNat / 4096 % 64) * 64 +
            c.toNat / 64 % 64) * 64 + c.toNat % 64 = c.toNat := by omega
        simp only [List.cons_append, List.nil_append, decodeChar?, ha]
        rw [if_neg (by omega), if_neg (by omega), if_neg (by omega), if_neg (by omega),
          if_pos (by omega)]
        simp only [tail?_cons (Nat.mod_lt _ (by omega : 64 > 0)), Option.bind_eq_bind,
          Option.bind_some, hn, scalar?_toNat (show 0x10000 ≤ c.toNat by omega), Option.map_some]

/-- An octet of a character is the character's number, or beyond ASCII. -/
theorem toNat_of_mem_encodeChar {b : UInt8} {c : Char} (h : b ∈ encodeChar c) :
    b.toNat = c.toNat ∨ 0x80 ≤ b.toNat := by
  have hlt := toNat_lt c
  unfold encodeChar at h
  simp only at h
  split_ifs at h <;> simp only [List.mem_cons, List.not_mem_nil, or_false] at h
  · subst h
    exact .inl (toNat_ofNat (by omega))
  · rcases h with rfl | rfl <;> rw [toNat_ofNat (by omega)] <;> omega
  · rcases h with rfl | rfl | rfl <;> rw [toNat_ofNat (by omega)] <;> omega
  · rcases h with rfl | rfl | rfl | rfl <;> rw [toNat_ofNat (by omega)] <;> omega

theorem encodeChar_ne_nil (c : Char) : encodeChar c ≠ [] := by
  unfold encodeChar
  simp only
  split_ifs <;> simp

/-- A text reads back from its octets. -/
theorem decode?_encode (cs : List Char) : decode? (encode cs) = some cs := by
  induction cs with
  | nil => rw [encode_nil, decode?]; rfl
  | cons c cs ih =>
    rw [encode_cons, decode?, if_neg (by simp [encodeChar_ne_nil])]
    split
    · next h => rw [decodeChar?_encodeChar] at h; cases h
    · next h =>
      rw [decodeChar?_encodeChar] at h
      cases h
      rw [ih]
      rfl

theorem decode?_nil : decode? [] = some [] := decode?_encode []

/-- A string reads back from its octets. -/
theorem toString?_encode (s : String) : toString? (encode s.toList) = some s := by
  rw [toString?, decode?_encode, Option.map_some, String.ofList_toList]

/-- Octets in front of a text are those of a text in front of it, if that text is known. -/
theorem exists_of_encode_eq_append {cs ds : List Char} {bs : Bytes}
    (h : encode cs = encode ds ++ bs) : ∃ es, cs = ds ++ es ∧ encode es = bs := by
  induction ds generalizing cs with
  | nil => exact ⟨cs, rfl, h⟩
  | cons d ds ih =>
    rw [encode_cons, List.append_assoc] at h
    cases cs with
    | nil => exact absurd (List.append_eq_nil_iff.mp h.symm).1 (encodeChar_ne_nil d)
    | cons c cs =>
      -- the first character is read from the octets, and so is what follows it
      have hfirst := congrArg decodeChar? h
      rw [encode_cons, decodeChar?_encodeChar, decodeChar?_encodeChar] at hfirst
      obtain ⟨rfl, hrest⟩ := Prod.mk.inj (Option.some.inj hfirst)
      obtain ⟨es, rfl, hes⟩ := ih hrest
      exact ⟨es, rfl, hes⟩

/-- An octet of ASCII is among those of a text where its character is in the text. -/
theorem mem_encode_ascii {b : UInt8} {cs : List Char} (hb : b.toNat < 0x80) :
    b ∈ encode cs ↔ ∃ c ∈ cs, c.toNat = b.toNat := by
  constructor
  · intro h
    obtain ⟨c, hc, hmem⟩ := List.mem_flatMap.mp h
    have := toNat_of_mem_encodeChar hmem
    exact ⟨c, hc, by omega⟩
  · rintro ⟨c, hc, hnat⟩
    have hoctet : encodeChar c = [b] := by
      rw [encodeChar, if_pos (by omega), hnat, UInt8.ofNat_toNat]
    exact List.mem_flatMap.mpr ⟨c, hc, by rw [hoctet]; exact List.mem_singleton.mpr rfl⟩

/-! ### What is read is what is written -/

theorem eq_of_scalar? {low n : Nat} {c : Char} (h : scalar? low n = some c) :
    c.toNat = n ∧ low ≤ n := by
  unfold scalar? at h
  by_cases hvalid : low ≤ n ∧ n.isValidChar
  · rw [dif_pos hvalid] at h
    cases h
    exact ⟨rfl, hvalid.1⟩
  · rw [dif_neg hvalid] at h
    cases h

theorem cons_of_tail? {bs rest : Bytes} {k : Nat} (h : tail? bs = some (k, rest)) :
    bs = UInt8.ofNat (0x80 + k) :: rest ∧ k < 64 := by
  cases bs with
  | nil => cases h
  | cons b bs =>
    simp only [tail?] at h
    split_ifs at h with hb
    obtain ⟨rfl, rfl⟩ := Prod.mk.inj (Option.some.inj h)
    have hsum : 0x80 + (b.toNat - 0x80) = b.toNat := by omega
    exact ⟨by rw [hsum, UInt8.ofNat_toNat], by omega⟩

/-- What is read as a character is what the character is written as. -/
theorem encodeChar_of_decodeChar? {bs rest : Bytes} {c : Char}
    (h : decodeChar? bs = some (c, rest)) : bs = encodeChar c ++ rest := by
  cases bs with
  | nil => cases h
  | cons a bs =>
    have ha := a.toNat_lt
    have hlead (n : Nat) (h : n = a.toNat) : UInt8.ofNat n = a := by rw [h, UInt8.ofNat_toNat]
    unfold decodeChar? at h
    simp only [Option.bind_eq_bind] at h
    split_ifs at h with h1 h2 h3 h4 h5
    · obtain ⟨d, hd, hp⟩ := Option.map_eq_some_iff.mp h
      cases hp
      obtain ⟨hnat, -⟩ := eq_of_scalar? hd
      simp only [encodeChar]
      rw [if_pos (by omega), hlead _ hnat]
      rfl
    · obtain ⟨⟨k, rest₁⟩, hk, h⟩ := Option.bind_eq_some_iff.mp h
      obtain ⟨d, hd, hp⟩ := Option.map_eq_some_iff.mp h
      cases hp
      obtain ⟨rfl, hlt⟩ := cons_of_tail? hk
      obtain ⟨hnat, hlow⟩ := eq_of_scalar? hd
      have hmod : c.toNat % 64 = k := by omega
      simp only [encodeChar]
      rw [if_neg (by omega), if_pos (by omega), hmod, hlead (0xC0 + c.toNat / 64) (by omega)]
      rfl
    · obtain ⟨⟨k, rest₁⟩, hk, h⟩ := Option.bind_eq_some_iff.mp h
      obtain ⟨⟨l, rest₂⟩, hl, h⟩ := Option.bind_eq_some_iff.mp h
      obtain ⟨d, hd, hp⟩ := Option.map_eq_some_iff.mp h
      cases hp
      obtain ⟨rfl, hlt⟩ := cons_of_tail? hk
      obtain ⟨rfl, hlt'⟩ := cons_of_tail? hl
      obtain ⟨hnat, hlow⟩ := eq_of_scalar? hd
      have hmod : c.toNat % 64 = l := by omega
      have hmid : c.toNat / 64 % 64 = k := by omega
      simp only [encodeChar]
      rw [if_neg (by omega), if_neg (by omega), if_pos (by omega), hmod, hmid,
        hlead (0xE0 + c.toNat / 4096) (by omega)]
      rfl
    · obtain ⟨⟨k, rest₁⟩, hk, h⟩ := Option.bind_eq_some_iff.mp h
      obtain ⟨⟨l, rest₂⟩, hl, h⟩ := Option.bind_eq_some_iff.mp h
      obtain ⟨⟨m, rest₃⟩, hm, h⟩ := Option.bind_eq_some_iff.mp h
      obtain ⟨d, hd, hp⟩ := Option.map_eq_some_iff.mp h
      cases hp
      obtain ⟨rfl, hlt⟩ := cons_of_tail? hk
      obtain ⟨rfl, hlt'⟩ := cons_of_tail? hl
      obtain ⟨rfl, hlt''⟩ := cons_of_tail? hm
      obtain ⟨hnat, hlow⟩ := eq_of_scalar? hd
      have hmod : c.toNat % 64 = m := by omega
      have hmid : c.toNat / 64 % 64 = l := by omega
      have hhigh : c.toNat / 4096 % 64 = k := by omega
      simp only [encodeChar]
      rw [if_neg (by omega), if_neg (by omega), if_neg (by omega), hmod, hmid, hhigh,
        hlead (0xF0 + c.toNat / 262144) (by omega)]
      rfl

/-- What is read as a text is what the text is written as. -/
theorem encode_of_decode? {bs : Bytes} {cs : List Char} (h : decode? bs = some cs) :
    encode cs = bs := by
  fun_induction decode? bs generalizing cs with
  | case1 =>
    cases h
    rfl
  | case2 bs hne hnone => cases h
  | case3 bs hne c rest hsome ih =>
    obtain ⟨ds, hds, rfl⟩ := Option.map_eq_some_iff.mp h
    rw [encode_cons, ih hds, encodeChar_of_decodeChar? hsome]

/-! ### Octets around an octet of ASCII -/

variable {b : UInt8}

/-- The character that an octet of ASCII stands for. -/
theorem scalar?_ascii (hb : b.toNat < 0x80) : scalar? 0 b.toNat = some (Char.ofNat b.toNat) := by
  have hvalid : b.toNat.isValidChar := Or.inl (by omega)
  rw [scalar?, dif_pos ⟨Nat.zero_le _, hvalid⟩, Char.ofNat, dif_pos hvalid]

theorem tail?_append_ascii (hb : b.toNat < 0x80) (bs rest : Bytes) :
    tail? (bs ++ b :: rest) = (tail? bs).map fun r => (r.1, r.2 ++ b :: rest) := by
  cases bs with
  | nil => exact if_neg (by omega)
  | cons a bs =>
    rw [List.cons_append, tail?, tail?]
    split <;> rfl

/-- An octet of ASCII belongs to no other character, so it can be told which character stands first
without looking beyond it. -/
theorem decodeChar?_append_ascii (hb : b.toNat < 0x80) {bs : Bytes} (hne : bs ≠ []) (rest : Bytes) :
    decodeChar? (bs ++ b :: rest) = (decodeChar? bs).map fun r => (r.1, r.2 ++ b :: rest) := by
  cases bs with
  | nil => exact absurd rfl hne
  | cons a bs =>
    rw [List.cons_append, decodeChar?, decodeChar?]
    simp only [tail?_append_ascii hb, Option.bind_eq_bind, Option.bind_map, Function.comp_def]
    split_ifs <;> simp only [Option.map_map, Option.map_bind, Option.map_none, Function.comp_def]

/-- A text with an octet of ASCII in it is read in two parts, before it and behind it. -/
theorem decode?_append_ascii (hb : b.toNat < 0x80) (bs rest : Bytes) :
    decode? (bs ++ b :: rest) = (decode? bs).bind fun cs =>
      (decode? rest).map fun ds => cs ++ Char.ofNat b.toNat :: ds := by
  fun_induction decode? bs with
  | case1 =>
    have hb' : decodeChar? (b :: rest) = some (Char.ofNat b.toNat, rest) := by
      rw [decodeChar?, if_pos hb, scalar?_ascii hb, Option.map_some]
    rw [List.nil_append, decode?, if_neg (List.cons_ne_nil b rest)]
    split
    · next h => rw [hb'] at h; cases h
    · next h =>
      rw [hb'] at h
      cases h
      rfl
  | case2 bs hne hnone =>
    have hstep := decodeChar?_append_ascii hb hne rest
    rw [hnone, Option.map_none] at hstep
    rw [decode?, if_neg (List.append_ne_nil_of_left_ne_nil hne _)]
    split
    · rfl
    · next h => rw [hstep] at h; cases h
  | case3 bs hne c after hsome ih =>
    have hstep := decodeChar?_append_ascii hb hne rest
    rw [hsome, Option.map_some] at hstep
    rw [decode?, if_neg (List.append_ne_nil_of_left_ne_nil hne _)]
    split
    · next h => rw [hstep] at h; cases h
    · next h =>
      rw [hstep] at h
      cases h
      rw [ih, Option.map_bind, Option.bind_map]
      simp only [Function.comp_def, Option.map_map, List.cons_append]

/-- Octets are text if and only if they are text before an octet of ASCII and behind it. -/
theorem isSome_decode?_append_ascii (hb : b.toNat < 0x80) (bs rest : Bytes) :
    (decode? (bs ++ b :: rest)).isSome = ((decode? bs).isSome && (decode? rest).isSome) := by
  rw [decode?_append_ascii hb]
  cases decode? bs <;> cases decode? rest <;> rfl

/-! ### Octets of a last character -/

theorem toNat_continuation {k : Nat} (h : k < 64) :
    0x80 ≤ (UInt8.ofNat (0x80 + k)).toNat ∧ (UInt8.ofNat (0x80 + k)).toNat < 0xC0 := by
  rw [toNat_ofNat (by omega)]
  omega

/-- A character is written as an octet that leads and octets that continue it. -/
theorem exists_lead (c : Char) : ∃ lead more, encodeChar c = lead :: more ∧
    (lead.toNat < 0x80 ∨ 0xC0 ≤ lead.toNat) ∧ ∀ b ∈ more, 0x80 ≤ b.toNat ∧ b.toNat < 0xC0 := by
  have hlt := toNat_lt c
  have hmore (n : Nat) := toNat_continuation (Nat.mod_lt n (show 64 > 0 by omega))
  unfold encodeChar
  simp only
  split_ifs with h1 h2 h3
  · refine ⟨_, _, rfl, .inl ?_, by simp⟩
    rw [toNat_ofNat (by omega)]
    exact h1
  · refine ⟨_, _, rfl, .inr ?_, by simpa using hmore _⟩
    rw [toNat_ofNat (by omega)]
    omega
  · refine ⟨_, _, rfl, .inr ?_, by simpa using ⟨hmore _, hmore _⟩⟩
    rw [toNat_ofNat (by omega)]
    omega
  · refine ⟨_, _, rfl, .inr ?_, by simpa using ⟨hmore _, hmore _, hmore _⟩⟩
    rw [toNat_ofNat (by omega)]
    omega

/-- No character is written inside of another one, at its end. -/
theorem eq_nil_of_encodeChar_append {c d : Char} {bs : Bytes} (h : encodeChar d = bs ++ encodeChar c) :
    bs = [] := by
  obtain ⟨lead, more, hc, hlead, -⟩ := exists_lead c
  obtain ⟨lead', more', hd, -, hmore'⟩ := exists_lead d
  cases bs with
  | nil => rfl
  | cons b bs =>
    rw [hc, hd, List.cons_append, List.cons.injEq] at h
    have hmem : lead ∈ more' := by simp [h.2]
    have hrange := hmore' lead hmem
    omega

/-- The octets of a character at the end of those of a text are those of its last character. -/
theorem exists_of_encode_eq_concat {cs : List Char} {c : Char} {bs : Bytes}
    (h : encode cs = bs ++ encodeChar c) : ∃ ds, cs = ds ++ [c] := by
  obtain rfl | ⟨ds, d, rfl⟩ := List.eq_nil_or_concat cs
  · exact absurd (List.append_eq_nil_iff.mp h.symm).2 (encodeChar_ne_nil c)
  · have hsame : encodeChar d = encodeChar c := by
      rw [List.concat_eq_append, encode_append, encode_cons, encode_nil, List.append_nil,
        List.append_eq_append_iff] at h
      obtain ⟨es, -, heq⟩ | ⟨es, -, heq⟩ := h
      · rw [heq, eq_nil_of_encodeChar_append heq, List.nil_append]
      · rw [heq, eq_nil_of_encodeChar_append heq, List.nil_append]
    have hread := decodeChar?_encodeChar d []
    rw [hsame, decodeChar?_encodeChar] at hread
    obtain rfl := (Prod.mk.inj (Option.some.inj hread)).1
    exact ⟨ds, List.concat_eq_append⟩

end HostWatch.Utf8
