import HostWatch.Proofs.Text.Ascii
import HostWatch.Proofs.Text.Utf8
import HostWatch.Url.Percent

/-!
# Percent-encoding and case

Octets in which the capital letters of ASCII are folded read back as the folded text
(`Utf8.decode?_lowerOctets`), and an octet may be written with hexadecimal digits in either case, so
what a percent-encoded text stands for is the same, up to case, as what the folded text stands for
(`map_lower_decoded?`). Octets without a percent sign stand for themselves.
-/

namespace HostWatch

variable {b : UInt8} {bs rest : Bytes} {c d : Char} {cs : List Char}

/-! ### Folded octets -/

/-- An octet with the capital letters of ASCII folded. -/
def lowerOctet (b : UInt8) : UInt8 :=
  if 0x41 ≤ b.toNat ∧ b.toNat ≤ 0x5A then b + 0x20 else b

/-- Octets with the capital letters of ASCII folded. -/
def lowerOctets (bs : Bytes) : Bytes :=
  bs.map lowerOctet

@[simp]
theorem lowerOctets_nil : lowerOctets [] = [] := rfl

@[simp]
theorem lowerOctets_cons (b : UInt8) (bs : Bytes) :
    lowerOctets (b :: bs) = lowerOctet b :: lowerOctets bs := rfl

theorem lowerOctets_append (bs rest : Bytes) :
    lowerOctets (bs ++ rest) = lowerOctets bs ++ lowerOctets rest :=
  List.map_append

theorem lowerOctet_of_not_letter (h : b.toNat < 0x41 ∨ 0x5A < b.toNat) : lowerOctet b = b :=
  if_neg (by omega)

theorem toNat_lowerOctet_of_letter (h : 0x41 ≤ b.toNat) (h' : b.toNat ≤ 0x5A) :
    (lowerOctet b).toNat = b.toNat + 0x20 := by
  rw [lowerOctet, if_pos ⟨h, h'⟩, UInt8.toNat_add]
  exact Nat.mod_eq_of_lt (by simp; omega)

/-- What takes the octet of each capital letter as it takes that of the small one does not see
case. -/
theorem apply_lowerOctet {α : Type} (f : UInt8 → α)
    (h : ∀ i : Fin 26, f (lowerOctet (UInt8.ofNat (0x41 + i))) = f (UInt8.ofNat (0x41 + i)))
    (b : UInt8) : f (lowerOctet b) = f b := by
  by_cases hb : 0x41 ≤ b.toNat ∧ b.toNat ≤ 0x5A
  · have := h ⟨b.toNat - 0x41, by omega⟩
    rwa [Nat.add_sub_cancel' hb.1, UInt8.ofNat_toNat] at this
  · rw [lowerOctet, if_neg hb]

theorem lowerOctet_lowerOctet (b : UInt8) : lowerOctet (lowerOctet b) = lowerOctet b :=
  apply_lowerOctet lowerOctet (by decide) b

namespace Utf8

theorem encodeChar_toLower (c : Char) : encodeChar c.toLower = lowerOctets (encodeChar c) := by
  cases hc : c.isUpper with
  | true =>
    obtain ⟨i, rfl⟩ := Ascii.exists_of_isUpper hc
    exact (by decide : ∀ i : Fin 26, encodeChar (Char.ofNat (0x41 + i)).toLower =
      lowerOctets (encodeChar (Char.ofNat (0x41 + i)))) i
  | false =>
    rw [Ascii.toLower_of_not_isUpper hc]
    rw [Ascii.isUpper_eq_false] at hc
    have fixed : ∀ b ∈ encodeChar c, lowerOctet b = b := fun b hb => by
      have := toNat_of_mem_encodeChar hb
      exact lowerOctet_of_not_letter (by omega)
    exact ((List.map_congr_left fixed).trans (List.map_id _)).symm

/-- The octets of a folded text. -/
theorem encode_lower (cs : List Char) : encode (Ascii.lower cs) = lowerOctets (encode cs) := by
  induction cs with
  | nil => rfl
  | cons c cs ih => rw [Ascii.lower_cons, encode_cons, encode_cons, lowerOctets_append, ih,
      encodeChar_toLower]

theorem tail?_lowerOctets (bs : Bytes) :
    tail? (lowerOctets bs) = (tail? bs).map fun (n, rest) => (n, lowerOctets rest) := by
  cases bs with
  | nil => rfl
  | cons b bs =>
    rw [lowerOctets_cons, tail?, tail?]
    by_cases hb : 0x41 ≤ b.toNat ∧ b.toNat ≤ 0x5A
    · have := toNat_lowerOctet_of_letter hb.1 hb.2
      rw [if_neg (by omega), if_neg (by omega)]
      rfl
    · rw [lowerOctet_of_not_letter (by omega)]
      split <;> rfl

/-- A character written with more than one octet is no letter of ASCII. -/
theorem map_scalar? {low n : Nat} (h : 0x80 ≤ low) (rest : Bytes) :
    ((scalar? low n).map (·, rest)).map (fun (c, rest) => (c.toLower, lowerOctets rest)) =
      (scalar? low n).map (·, lowerOctets rest) := by
  by_cases hn : low ≤ n ∧ n.isValidChar
  · have hc : (Char.ofNatAux n hn.2).isUpper = false := Ascii.isUpper_eq_false.mpr
      (.inr (Nat.lt_of_lt_of_le (by decide) (Nat.le_trans h hn.1)))
    rw [scalar?, dif_pos hn]
    exact congrArg (fun c => some (c, lowerOctets rest)) (Ascii.toLower_of_not_isUpper hc)
  · rw [scalar?, dif_neg hn]
    rfl

theorem decodeChar?_lowerOctets (bs : Bytes) : decodeChar? (lowerOctets bs) =
    (decodeChar? bs).map fun (c, rest) => (c.toLower, lowerOctets rest) := by
  cases bs with
  | nil => rfl
  | cons b bs =>
    rw [lowerOctets_cons, decodeChar?, decodeChar?]
    by_cases hb : b.toNat < 0x80
    · have hfold : (lowerOctet b).toNat < 0x80 ∧
          Char.ofNat (lowerOctet b).toNat = (Char.ofNat b.toNat).toLower := by
        have all : ∀ i : Fin 128, (lowerOctet (UInt8.ofNat i)).toNat < 0x80 ∧
            Char.ofNat (lowerOctet (UInt8.ofNat i)).toNat =
              (Char.ofNat (UInt8.ofNat i).toNat).toLower := by decide
        simpa using all ⟨b.toNat, hb⟩
      simp only [hb, hfold.1, if_true, scalar?_ascii, hfold.2, Option.map_some]
    · rw [lowerOctet_of_not_letter (by omega)]
      simp only [hb, if_false, tail?_lowerOctets, Option.bind_eq_bind]
      split_ifs
      · rfl
      · cases tail? bs with
        | none => rfl
        | some t =>
          exact (map_scalar? (by decide) _).symm
      · cases tail? bs with
        | none => rfl
        | some t =>
          simp only [Option.map_some, Option.bind_some, tail?_lowerOctets]
          cases tail? t.2 with
          | none => rfl
          | some u => exact (map_scalar? (by decide) _).symm
      · cases tail? bs with
        | none => rfl
        | some t =>
          simp only [Option.map_some, Option.bind_some, tail?_lowerOctets]
          cases tail? t.2 with
          | none => rfl
          | some u =>
            simp only [Option.map_some, Option.bind_some, tail?_lowerOctets]
            cases tail? u.2 with
            | none => rfl
            | some v => exact (map_scalar? (by decide) _).symm
      · rfl

theorem decode?_of_ne_nil (hne : bs ≠ []) : decode? bs =
    (decodeChar? bs).bind fun (c, rest) => (decode? rest).map (c :: ·) := by
  rw [decode?, if_neg hne]
  split
  · next h => rw [h, Option.bind_none]
  · next h => rw [h, Option.bind_some]

/-- Folded octets stand for the folded text. -/
theorem decode?_lowerOctets (bs : Bytes) :
    decode? (lowerOctets bs) = (decode? bs).map Ascii.lower := by
  fun_induction decode? bs with
  | case1 => exact decode?_nil
  | case2 bs hne hnone =>
    rw [decode?_of_ne_nil (by simpa [lowerOctets] using hne), decodeChar?_lowerOctets, hnone]
    rfl
  | case3 bs hne c rest hsome ih =>
    rw [decode?_of_ne_nil (by simpa [lowerOctets] using hne), decodeChar?_lowerOctets, hsome]
    simp only [Option.map_some, Option.bind_some, ih, Option.map_map]
    rfl

end Utf8

namespace Url

theorem hexOctet?_lowerOctet (b : UInt8) : hexOctet? (lowerOctet b) = hexOctet? b :=
  apply_lowerOctet hexOctet? (by decide) b

theorem lowerOctet_eq_percent : lowerOctet b = 0x25 ↔ b = 0x25 := by
  simpa using apply_lowerOctet (fun b => decide (b = 0x25)) (by decide) b

/-- An octet that is no percent sign with two more behind it stands for itself. -/
theorem percentDecode_cons (hb : ∀ h l rest, b = 0x25 → bs = h :: l :: rest → False) :
    percentDecode (b :: bs) = b :: percentDecode bs := by
  rw [percentDecode]
  exact hb

/-- Case in percent-encoded octets makes no difference, up to case, to what they stand for. -/
theorem lowerOctets_percentDecode (bs : Bytes) :
    lowerOctets (percentDecode (lowerOctets bs)) = lowerOctets (percentDecode bs) := by
  fun_induction percentDecode bs with
  | case1 => rw [lowerOctets_nil, percentDecode, lowerOctets_nil]
  | case2 h l rest a b ha hb ih =>
    simp only [lowerOctets_cons]
    rw [show lowerOctet 0x25 = 0x25 from rfl, percentDecode, hexOctet?_lowerOctet,
      hexOctet?_lowerOctet, ha, hb]
    simp only [lowerOctets_cons, ih]
  | case3 h l rest hnone ih =>
    simp only [lowerOctets_cons] at ih ⊢
    rw [show lowerOctet 0x25 = 0x25 from rfl, percentDecode, hexOctet?_lowerOctet,
      hexOctet?_lowerOctet]
    split
    · next ha hb => exact absurd hb (hnone _ _ ha)
    · rw [lowerOctets_cons, ih]
      rfl
  | case4 b rest hne ih =>
    rw [lowerOctets_cons, percentDecode_cons, lowerOctets_cons, lowerOctets_cons,
      lowerOctet_lowerOctet, ih]
    intro h l rest' hb hrest
    match rest with
    | [] => nomatch hrest
    | [_] => nomatch hrest
    | h' :: l' :: rest'' => exact hne h' l' rest'' (lowerOctet_eq_percent.mp hb) rfl

/-- Up to case, a folded text stands for what the text stands for. -/
theorem map_lower_decoded? (cs : List Char) :
    (decoded? (Ascii.lower cs)).map Ascii.lower = (decoded? cs).map Ascii.lower := by
  rw [decoded?, decoded?, Utf8.encode_lower, ← Utf8.decode?_lowerOctets, ← Utf8.decode?_lowerOctets,
    lowerOctets_percentDecode]

theorem percentDecode_eq_self (h : ∀ b ∈ bs, b ≠ 0x25) : percentDecode bs = bs := by
  induction bs with
  | nil => rw [percentDecode]
  | cons b bs ih =>
    obtain ⟨hb, hbs⟩ := List.forall_mem_cons.mp h
    rw [percentDecode_cons (fun _ _ _ heq _ => hb heq), ih hbs]

/-- A text without a percent sign stands for itself. -/
theorem decoded?_eq_self (h : '%' ∉ cs) : decoded? cs = some cs := by
  rw [decoded?, percentDecode_eq_self, Utf8.decode?_encode]
  rintro b hb rfl
  obtain ⟨c, hc, hb⟩ := List.mem_flatMap.mp hb
  obtain hb | hb := Utf8.toNat_of_mem_encodeChar hb
  · exact h (by rwa [← Char.toNat_inj.mp (show '%'.toNat = c.toNat from hb)] at hc)
  · exact absurd hb (by decide)

/-! ### Encoding -/

variable {inSet : Char → Bool}

theorem percentEncode_eq_self (h : ∀ c ∈ cs, inSet c = false) : percentEncode inSet cs = cs := by
  induction cs with
  | nil => rfl
  | cons c cs ih =>
    obtain ⟨hc, hcs⟩ := List.forall_mem_cons.mp h
    rw [percentEncode, List.flatMap_cons, ← percentEncode, ih hcs, hc]
    rfl

/-- An encoded text holds characters of the text that are not in the set, percent signs and
hexadecimal digits. -/
theorem mem_percentEncode (h : d ∈ percentEncode inSet cs) :
    d ∈ cs ∧ inSet d = false ∨ d = '%' ∨ ∃ n < 16, d = Ascii.hexUpper n := by
  obtain ⟨c, hc, hd⟩ := List.mem_flatMap.mp h
  split at hd
  · obtain ⟨b, -, hd⟩ := List.mem_flatMap.mp hd
    have := b.toNat_lt
    simp only [encodeOctet, List.mem_cons, List.not_mem_nil, or_false] at hd
    obtain rfl | rfl | rfl := hd
    · exact .inr (.inl rfl)
    · exact .inr (.inr ⟨_, by omega, rfl⟩)
    · exact .inr (.inr ⟨_, by omega, rfl⟩)
  · next hset =>
    obtain rfl := List.mem_singleton.mp hd
    exact .inl ⟨hc, by simpa using hset⟩

theorem percentEncode_ne_nil (h : cs ≠ []) : percentEncode inSet cs ≠ [] := by
  obtain ⟨c, cs, rfl⟩ := List.exists_cons_of_ne_nil h
  rw [percentEncode, List.flatMap_cons]
  split
  · obtain ⟨b, bs, hb⟩ := List.exists_cons_of_ne_nil (Utf8.encodeChar_ne_nil c)
    rw [hb, List.flatMap_cons]
    exact List.append_ne_nil_of_left_ne_nil (List.append_ne_nil_of_left_ne_nil
      (List.cons_ne_nil _ _) _) _
  · exact List.cons_ne_nil _ _

/-- Up to case, a folded text is encoded as the text is. -/
theorem lower_percentEncode (cs : List Char) :
    Ascii.lower (percentEncode inControlSet (Ascii.lower cs)) =
      Ascii.lower (percentEncode inControlSet cs) := by
  induction cs with
  | nil => rfl
  | cons c cs ih =>
    rw [Ascii.lower_cons, percentEncode, percentEncode, List.flatMap_cons, List.flatMap_cons,
      ← percentEncode, ← percentEncode, Ascii.lower_append, Ascii.lower_append, ih]
    cases hc : c.isUpper with
    | false => rw [Ascii.toLower_of_not_isUpper hc]
    | true =>
      have hset : inControlSet c = false ∧ inControlSet c.toLower = false := by
        obtain ⟨i, rfl⟩ := Ascii.exists_of_isUpper hc
        exact (by decide : ∀ i : Fin 26, inControlSet (Char.ofNat (0x41 + i)) = false ∧
          inControlSet (Char.ofNat (0x41 + i)).toLower = false) i
      simp only [hset, Bool.false_eq_true, if_false, Ascii.lower_cons, Ascii.lower_nil,
        Ascii.toLower_toLower]

end Url

end HostWatch
