import HostWatch.Proofs.Url.Percent
import HostWatch.Url.Path
import Mathlib.Data.List.Basic

/-!
# Percent-encoding is undone

A text is percent-encoded octet by octet (`encode_percentEncode`). Where the percent sign itself is
encoded, decoding brings back the octets of the text, whatever they are (`percentDecode_written`);
where it is not, decoding also decodes what looked encoded in the text already, and that alone
(`percentDecode_kept`).
-/

namespace HostWatch.Url

variable {inSet : Char → Bool} {b : UInt8} {bs rest : Bytes} {c : Char} {cs ds : List Char}

/-! ### Octets of encoded texts -/

/-- An octet as it stands in a text in which the characters of a set are encoded. -/
def writeOctet (inSet : Char → Bool) (b : UInt8) : Bytes :=
  if inSet (Char.ofNat b.toNat) then Utf8.encode (encodeOctet b) else [b]

/-- A set has every character that is not ASCII. -/
def HasAllBeyond (inSet : Char → Bool) : Prop :=
  ∀ c : Char, 0x7E < c.toNat → inSet c = true

theorem hasAllBeyond_pathSet : HasAllBeyond inPathSet := by
  intro c hc
  simp [inPathSet, inQuerySet, inControlSet, hc]

theorem hasAllBeyond_segmentSet (kind : Kind) : HasAllBeyond (segmentSet kind) := by
  intro c hc
  have hpath := hasAllBeyond_pathSet c hc
  cases kind <;> simp [segmentSet, inSpecialSegmentSet, inSegmentSet, hpath]

theorem toNat_ofNat_octet (b : UInt8) : (Char.ofNat b.toNat).toNat = b.toNat := by
  have hb := b.toNat_lt
  have hvalid : b.toNat.isValidChar := Or.inl (by omega)
  rw [Char.ofNat, dif_pos hvalid]
  rfl

theorem encode_encodeOctets (bs : Bytes) :
    Utf8.encode (bs.flatMap encodeOctet) = bs.flatMap fun b => Utf8.encode (encodeOctet b) :=
  List.flatMap_assoc

theorem encode_encoded (hset : HasAllBeyond inSet) (c : Char) :
    Utf8.encode (if inSet c then (Utf8.encodeChar c).flatMap encodeOctet else [c]) =
      (Utf8.encodeChar c).flatMap (writeOctet inSet) := by
  by_cases hc : c.toNat < 0x80
  · -- a character of ASCII is one octet
    have hoctet : Utf8.encodeChar c = [UInt8.ofNat c.toNat] := if_pos hc
    have hchar : Char.ofNat (UInt8.ofNat c.toNat).toNat = c := by
      rw [Utf8.toNat_ofNat (by omega), Char.ofNat_toNat]
    rw [hoctet, List.flatMap_singleton, List.flatMap_singleton, writeOctet, hchar]
    split
    · rfl
    · rw [Utf8.encode_cons, hoctet]
      rfl
  · -- any other one is encoded, and so are all its octets
    rw [if_pos (hset c (by omega)), encode_encodeOctets]
    refine List.flatMap_congr fun b hb => ?_
    have hbeyond : 0x7E < (Char.ofNat b.toNat).toNat := by
      rw [toNat_ofNat_octet]
      have := Utf8.toNat_of_mem_encodeChar hb
      omega
    rw [writeOctet, if_pos (hset _ hbeyond)]

/-- The octets of an encoded text are those of the text, each encoded or not. -/
theorem encode_percentEncode (hset : HasAllBeyond inSet) (cs : List Char) :
    Utf8.encode (percentEncode inSet cs) = (Utf8.encode cs).flatMap (writeOctet inSet) := by
  rw [percentEncode, Utf8.encode, List.flatMap_assoc, Utf8.encode, List.flatMap_assoc]
  exact List.flatMap_congr fun c _ => encode_encoded hset c

/-! ### Decoding octets -/

/-- Two octets in front are hexadecimal digits. -/
def BeginsWithHex : Bytes → Prop
  | h :: l :: _ => (hexOctet? h).isSome ∧ (hexOctet? l).isSome
  | _ => False

theorem exists_of_beginsWithHex (h : BeginsWithHex bs) : ∃ a b rest, bs = a :: b :: rest :=
  match bs, h with
  | a :: b :: rest, _ => ⟨a, b, rest, rfl⟩

theorem exists_hexOctet {d : Nat} (h : d < 16) :
    ∃ b, Utf8.encodeChar (Ascii.hexUpper d) = [b] ∧ hexOctet? b = some d := by
  have all : ∀ d : Fin 16, Utf8.encodeChar (Ascii.hexUpper d) =
      [UInt8.ofNat (Ascii.hexUpper d).toNat] ∧
        hexOctet? (UInt8.ofNat (Ascii.hexUpper d).toNat) = some d.val := by decide
  exact ⟨_, all ⟨d, h⟩⟩

/-- An encoded octet is a percent sign and two hexadecimal digits. -/
theorem exists_encodeOctet (b : UInt8) : ∃ h l, Utf8.encode (encodeOctet b) = [0x25, h, l] ∧
    hexOctet? h = some (b.toNat / 16) ∧ hexOctet? l = some (b.toNat % 16) := by
  have hb := b.toNat_lt
  obtain ⟨h, hhigh, hh⟩ := exists_hexOctet (d := b.toNat / 16) (by omega)
  obtain ⟨l, hlow, hl⟩ := exists_hexOctet (d := b.toNat % 16) (by omega)
  have hsign : Utf8.encodeChar '%' = [0x25] := by decide
  refine ⟨h, l, ?_, hh, hl⟩
  rw [encodeOctet, Utf8.encode_cons, Utf8.encode_cons, Utf8.encode_cons, hsign, hhigh, hlow]
  rfl

theorem percentDecode_encodeOctet (b : UInt8) (rest : Bytes) :
    percentDecode (Utf8.encode (encodeOctet b) ++ rest) = b :: percentDecode rest := by
  obtain ⟨h, l, heq, hh, hl⟩ := exists_encodeOctet b
  have hsum : b.toNat / 16 * 16 + b.toNat % 16 = b.toNat := by omega
  rw [heq, List.cons_append, List.cons_append, List.cons_append, List.nil_append, percentDecode]
  simp only [hh, hl, hsum, UInt8.ofNat_toNat]

/-- A percent sign without two digits behind it stays. -/
theorem percentDecode_percent (h : ¬ BeginsWithHex bs) :
    percentDecode (0x25 :: bs) = 0x25 :: percentDecode bs := by
  match bs with
  | [] => exact percentDecode_cons fun _ _ _ _ heq => nomatch heq
  | [_] => exact percentDecode_cons fun _ _ _ _ heq => nomatch heq
  | a :: b :: rest =>
    rw [percentDecode]
    split
    · next ha hb => exact absurd ⟨by simp [ha], by simp [hb]⟩ h
    · rfl

theorem percentDecode_cons_of_ne (hb : b ≠ 0x25) :
    percentDecode (b :: bs) = b :: percentDecode bs :=
  percentDecode_cons fun _ _ _ heq _ => hb heq

/-- Where the percent sign is encoded, too, decoding brings back the octets that were written. -/
theorem percentDecode_written (hsign : inSet '%' = true) (bs : Bytes) :
    percentDecode (bs.flatMap (writeOctet inSet)) = bs := by
  induction bs with
  | nil => rw [List.flatMap_nil, percentDecode]
  | cons b bs ih =>
    rw [List.flatMap_cons, writeOctet]
    split
    · rw [percentDecode_encodeOctet, ih]
    · next hb =>
      have hne : b ≠ 0x25 := by
        rintro rfl
        exact hb hsign
      rw [List.singleton_append, percentDecode_cons_of_ne hne, ih]

/-- A set has no hexadecimal digit. -/
def HasNoDigit (inSet : Char → Bool) : Prop :=
  ∀ b : UInt8, (hexOctet? b).isSome → inSet (Char.ofNat b.toNat) = false

/-- Digits stand in front of an encoded text only if they stand in front of the text. -/
theorem beginsWithHex_of_written (h : BeginsWithHex (bs.flatMap (writeOctet inSet))) :
    BeginsWithHex bs := by
  -- an octet is written as itself, or as a percent sign and more
  have cases_write (b : UInt8) (rest : Bytes) : writeOctet inSet b ++ rest = b :: rest ∨
      ∃ more, writeOctet inSet b ++ rest = 0x25 :: more := by
    rw [writeOctet]
    split
    · obtain ⟨h, l, heq, -, -⟩ := exists_encodeOctet b
      exact .inr ⟨h :: l :: rest, by rw [heq]; rfl⟩
    · exact .inl rfl
  have hno : (hexOctet? 0x25).isSome = false := by decide
  match bs with
  | [] => exact h
  | [a] =>
    rw [List.flatMap_cons, List.flatMap_nil] at h
    rcases cases_write a [] with ha | ⟨more, ha⟩
    · rw [ha] at h
      exact h
    · rw [ha] at h
      cases more with
      | nil => exact h
      | cons b more => exact absurd h.1 (by simp [hno])
  | a :: b :: rest =>
    rw [List.flatMap_cons, List.flatMap_cons] at h
    rcases cases_write a (writeOctet inSet b ++ rest.flatMap (writeOctet inSet)) with
      ha | ⟨more, ha⟩
    · rw [ha] at h
      rcases cases_write b (rest.flatMap (writeOctet inSet)) with hb | ⟨more, hb⟩
      · rw [hb] at h
        exact h
      · rw [hb] at h
        exact absurd h.2 (by simp [hno])
    · rw [ha] at h
      cases more with
      | nil => exact h.elim
      | cons c more => exact absurd h.1 (by simp [hno])

/-- Where the percent sign is not encoded, decoding an encoded text comes to decoding the text. -/
theorem percentDecode_kept (hsign : inSet '%' = false) (hdigit : HasNoDigit inSet) (bs : Bytes) :
    percentDecode (bs.flatMap (writeOctet inSet)) = percentDecode bs := by
  have write_sign : writeOctet inSet 0x25 = [0x25] := if_neg (by simpa using hsign)
  fun_induction percentDecode bs with
  | case1 => rw [List.flatMap_nil, percentDecode]
  | case2 h l rest a b ha hb ih =>
    have write_digit {d : UInt8} {n : Nat} (hd : hexOctet? d = some n) : writeOctet inSet d = [d] :=
      if_neg (by simp [hdigit d (by simp [hd])])
    simp only [List.flatMap_cons, write_sign, write_digit ha, write_digit hb,
      List.singleton_append]
    rw [percentDecode]
    simp only [ha, hb, ih]
  | case3 h l rest hnone ih =>
    have hplain : ¬ BeginsWithHex (h :: l :: rest) := by
      rintro ⟨hh, hl⟩
      obtain ⟨a, ha⟩ := Option.isSome_iff_exists.mp hh
      obtain ⟨b, hb⟩ := Option.isSome_iff_exists.mp hl
      exact hnone a b ha hb
    rw [List.flatMap_cons, write_sign, List.singleton_append,
      percentDecode_percent (mt beginsWithHex_of_written hplain), ih]
  | case4 b rest hne ih =>
    rw [List.flatMap_cons]
    by_cases hb : b = 0x25
    · -- a percent sign with at most one octet behind it
      subst hb
      have hplain : ¬ BeginsWithHex rest := fun h => by
        obtain ⟨a, b, more, rfl⟩ := exists_of_beginsWithHex h
        exact hne a b more rfl rfl
      rw [write_sign, List.singleton_append,
        percentDecode_percent (mt beginsWithHex_of_written hplain), ih]
    · rw [writeOctet]
      split
      · rw [percentDecode_encodeOctet, ih]
      · rw [List.singleton_append, percentDecode_cons_of_ne hb, ih]

theorem length_percentDecode_le (bs : Bytes) : (percentDecode bs).length ≤ bs.length := by
  fun_induction percentDecode bs with
  | case1 => exact Nat.le_refl 0
  | case2 h l rest a b ha hb ih =>
    simp only [List.length_cons]
    omega
  | case3 h l rest hnone ih => exact Nat.succ_le_succ ih
  | case4 b rest hne ih => exact Nat.succ_le_succ ih

/-! ### What encoded texts stand for -/

theorem segmentSet_sign (kind : Kind) : segmentSet kind '%' = true := by
  cases kind <;> decide

theorem pathSet_sign : inPathSet '%' = false := by
  decide

theorem hasNoDigit_pathSet : HasNoDigit inPathSet := by
  intro b hb
  have all : ∀ n : Fin 256, (hexOctet? (UInt8.ofNat n)).isSome →
      inPathSet (Char.ofNat (UInt8.ofNat n).toNat) = false := by decide +kernel
  simpa using all ⟨b.toNat, b.toNat_lt⟩ (by simpa using hb)

/-- A segment that is encoded as a whole stands for what it was encoded from. -/
theorem percentDecode_segment (kind : Kind) (cs : List Char) :
    percentDecode (Utf8.encode (percentEncode (segmentSet kind) cs)) = Utf8.encode cs := by
  rw [encode_percentEncode (hasAllBeyond_segmentSet kind),
    percentDecode_written (segmentSet_sign kind)]

/-- A segment of a path stands for what it stands for as it is written. -/
theorem percentDecode_path (cs : List Char) :
    percentDecode (Utf8.encode (percentEncode inPathSet cs)) = percentDecode (Utf8.encode cs) := by
  rw [encode_percentEncode hasAllBeyond_pathSet, percentDecode_kept pathSet_sign hasNoDigit_pathSet]

theorem decoded?_segment (kind : Kind) (cs : List Char) :
    decoded? (percentEncode (segmentSet kind) cs) = some cs := by
  rw [decoded?, percentDecode_segment, Utf8.decode?_encode]

theorem decoded?_path (cs : List Char) : decoded? (percentEncode inPathSet cs) = decoded? cs := by
  rw [decoded?, percentDecode_path, decoded?]

/-- Different texts are encoded differently as whole segments. -/
theorem percentEncode_segment_inj {kind : Kind} :
    percentEncode (segmentSet kind) cs = percentEncode (segmentSet kind) ds ↔ cs = ds := by
  constructor
  · intro h
    have hdecoded := congrArg decoded? h
    rw [decoded?_segment, decoded?_segment] at hdecoded
    exact Option.some.inj hdecoded
  · rintro rfl
    rfl

end HostWatch.Url
