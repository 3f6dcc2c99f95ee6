import HostWatch.Proofs.Json.RoundTrip

/-!
# Whole numbers of JSON read back

A whole number is written as its decimal numeral, with a minus sign in front of a negative one.
Reading gathers digits into a significand until the next one would take it beyond 64 bits
(`absorb`), so every number that fits is read back as it was written (`Reads.integer`).
-/

namespace HostWatch.Json

/-! ### The octets of a numeral -/

/-- The octet of a decimal digit. -/
def digitOctet (d : Nat) : UInt8 := UInt8.ofNat (48 + d)

/-- The octets of a numeral. -/
def numeral (n : Nat) : Bytes := Utf8.encode (Decimal.digits n)

theorem encodeChar_digit {d : Nat} (h : d < 10) :
    Utf8.encodeChar (Decimal.digit d) = [digitOctet d] := by
  have all : ∀ d : Fin 10, Utf8.encodeChar (Decimal.digit d) = [digitOctet d] := by decide
  exact all ⟨d, h⟩

theorem isDigit_digitOctet {d : Nat} (h : d < 10) : isDigit (digitOctet d) = true := by
  have all : ∀ d : Fin 10, isDigit (digitOctet d) = true := by decide
  exact all ⟨d, h⟩

theorem digitValue_digitOctet {d : Nat} (h : d < 10) : digitValue (digitOctet d) = d := by
  have all : ∀ d : Fin 10, digitValue (digitOctet d) = d.val := by decide
  exact all ⟨d, h⟩

theorem numeral_of_lt {n : Nat} (h : n < 10) : numeral n = [digitOctet n] := by
  rw [numeral, Decimal.digits, if_pos h, Utf8.encode_cons, Utf8.encode_nil, List.append_nil,
    encodeChar_digit h]

theorem numeral_of_le {n : Nat} (h : 10 ≤ n) :
    numeral n = numeral (n / 10) ++ [digitOctet (n % 10)] := by
  rw [numeral, Decimal.digits, if_neg (Nat.not_lt.mpr h), Utf8.encode_append, Utf8.encode_cons,
    Utf8.encode_nil, List.append_nil, encodeChar_digit (Nat.mod_lt n (by omega)), ← numeral]

theorem eq_zero_of_digitOctet {d : Nat} (h : d < 10) (hd : digitOctet d = 0x30) : d = 0 := by
  have all : ∀ d : Fin 10, digitOctet d = 0x30 → d.val = 0 := by decide
  exact all ⟨d, h⟩ hd

/-- A numeral has digits only, at least one, and begins with a zero only if it is that of zero. -/
theorem numeral_cons (n : Nat) : ∃ b bs, numeral n = b :: bs ∧ (∀ d ∈ b :: bs, isDigit d = true) ∧
    (b = 0x30 → n = 0) := by
  induction n using Nat.strongRecOn with
  | ind n ih =>
    rcases Nat.lt_or_ge n 10 with hlt | hle
    · refine ⟨digitOctet n, [], numeral_of_lt hlt, fun d hd => ?_, eq_zero_of_digitOctet hlt⟩
      rw [List.mem_singleton.mp hd]
      exact isDigit_digitOctet hlt
    · obtain ⟨b, bs, hbs, hdigits, hzero⟩ := ih (n / 10) (by omega)
      refine ⟨b, bs ++ [digitOctet (n % 10)], ?_, fun d hd => ?_, fun hb => ?_⟩
      · rw [numeral_of_le hle, hbs, List.cons_append]
      · rw [← List.cons_append, List.mem_append, List.mem_singleton] at hd
        rcases hd with hd | rfl
        · exact hdigits d hd
        · exact isDigit_digitOctet (Nat.mod_lt n (by omega))
      · have hsmall := hzero hb
        omega

theorem all_isDigit_numeral (n : Nat) : ∀ d ∈ numeral n, isDigit d = true := by
  obtain ⟨b, bs, hbs, hdigits, -⟩ := numeral_cons n
  rw [hbs]
  exact hdigits

/-! ### Reading a numeral -/

/-- What may stand behind a value is no digit. -/
theorem Stops.isDigit_eq_false {b : UInt8} {bs : Bytes} (h : Stops (b :: bs)) :
    isDigit b = false := by
  rcases h b rfl with rfl | rfl | rfl <;> decide

theorem Stops.takeWhile_isDigit {rest : Bytes} (h : Stops rest) : rest.takeWhile isDigit = [] := by
  cases rest with
  | nil => rfl
  | cons b bs =>
    rw [List.takeWhile_cons, h.isDigit_eq_false]
    rfl

theorem takeWhile_numeral (n : Nat) {rest : Bytes} (h : Stops rest) :
    (numeral n ++ rest).takeWhile isDigit = numeral n := by
  rw [List.takeWhile_append_of_pos (all_isDigit_numeral n), h.takeWhile_isDigit, List.append_nil]

theorem dropWhile_numeral (n : Nat) {rest : Bytes} (h : Stops rest) :
    (numeral n ++ rest).dropWhile isDigit = rest := by
  have hsplit := List.takeWhile_append_dropWhile (p := isDigit) (l := numeral n ++ rest)
  rw [takeWhile_numeral n h] at hsplit
  exact List.append_cancel_left hsplit

theorem wholeDigits_numeral (n : Nat) {rest : Bytes} (h : Stops rest) :
    wholeDigits (numeral n ++ rest) = .ok (numeral n, rest) := by
  have htake := takeWhile_numeral n h
  have hdrop := dropWhile_numeral n h
  obtain ⟨b, bs, hbs, hdigits, hzero⟩ := numeral_cons n
  rw [hbs, List.cons_append] at htake hdrop ⊢
  unfold wholeDigits
  by_cases hb : b = 0x30
  · obtain rfl := hzero hb
    obtain ⟨rfl, rfl⟩ := List.cons.inj ((numeral_of_lt (by decide)).symm.trans hbs)
    cases rest with
    | nil => rfl
    | cons e es =>
      simp only [List.nil_append, h.isDigit_eq_false]
      rfl
  · simp only [if_neg hb, hdigits b List.mem_cons_self, if_true, htake, hdrop]

/-- A number within 64 bits is gathered from its digits. -/
theorem absorb_numeral {n : Nat} (h : n ≤ maxSignificand) (ds : Bytes) :
    absorb 0 (numeral n ++ ds) = absorb n ds := by
  induction n using Nat.strongRecOn generalizing ds with
  | ind n ih =>
    rcases Nat.lt_or_ge n 10 with hlt | hle
    · rw [numeral_of_lt hlt, List.singleton_append, absorb, digitValue_digitOctet hlt]
      simp only [Nat.zero_mul, Nat.zero_add, if_neg (Nat.not_lt.mpr h)]
    · have hsum : n / 10 * 10 + n % 10 = n := by omega
      rw [numeral_of_le hle, List.append_assoc, ih (n / 10) (by omega) (by omega),
        List.singleton_append, absorb, digitValue_digitOctet (Nat.mod_lt n (by omega))]
      simp only [hsum, if_neg (Nat.not_lt.mpr h)]

/-- A numeral is read under its sign. -/
theorem unsignedNumber_numeral (negative : Bool) {n : Nat} (h : n ≤ maxSignificand) {rest : Bytes}
    (hrest : Stops rest) :
    unsignedNumber negative (numeral n ++ rest) = .ok (whole negative n, rest) := by
  have habsorb := absorb_numeral h []
  rw [List.append_nil] at habsorb
  unfold unsignedNumber
  simp only [wholeDigits_numeral n hrest, bind, Except.bind, habsorb, absorb]
  cases rest with
  | nil => rfl
  | cons b bs =>
    rcases hrest b rfl with rfl | rfl | rfl <;> rfl

theorem number_numeral {n : Nat} (h : n ≤ maxSignificand) {rest : Bytes} (hrest : Stops rest) :
    number (numeral n ++ rest) = .ok (.integer n, rest) := by
  have hread := unsignedNumber_numeral false h hrest
  obtain ⟨b, bs, hbs, hdigits, -⟩ := numeral_cons n
  rw [hbs, List.cons_append] at hread ⊢
  unfold number
  split
  · next heq =>
    cases heq
    cases hdigits 0x2D List.mem_cons_self
  · exact hread

theorem number_minus {n : Nat} (hpos : 0 < n) (hlow : n ≤ Int64.minValue.toInt.natAbs)
    {rest : Bytes} (hrest : Stops rest) :
    number (0x2D :: (numeral n ++ rest)) = .ok (.integer (-n), rest) := by
  have hmax : n ≤ maxSignificand := Nat.le_trans hlow (by decide)
  have hwhole : whole true n = .integer (-n) := by
    rw [whole, if_pos rfl, if_pos ⟨hpos, hlow⟩]
  rw [← hwhole]
  exact unsignedNumber_numeral true hmax hrest

/-- A number below a power of ten has no more digits than that power has zeros. -/
theorem length_numeral_le {n k : Nat} (h : n < Nat.pow 10 (k + 1)) :
    (numeral n).length ≤ k + 1 := by
  induction k generalizing n with
  | zero =>
    rw [numeral_of_lt h]
    exact Nat.le_refl 1
  | succ k ih =>
    rcases Nat.lt_or_ge n 10 with hlt | hle
    · rw [numeral_of_lt hlt, List.length_singleton]
      omega
    · have hpow : Nat.pow 10 (k + 1 + 1) = Nat.pow 10 (k + 1) * 10 := rfl
      have hrest := ih (n := n / 10) (by omega)
      rw [numeral_of_le hle, List.length_append, List.length_singleton]
      omega

/-- A signed number of 64 bits takes a sign and nineteen digits at most. -/
theorem length_encode_ofInt_le (n : Int64) :
    (Utf8.encode (Decimal.ofInt n.toInt)).length ≤ 20 := by
  have hlow := Int64.le_toInt n
  have hhigh := Int64.toInt_lt n
  have hpow : Nat.pow 10 (18 + 1) = 10000000000000000000 := rfl
  have hdigits := length_numeral_le (n := n.toInt.natAbs) (k := 18) (by omega)
  rw [Decimal.ofInt]
  split_ifs
  · exact Nat.succ_le_succ hdigits
  · exact Nat.le_succ_of_le hdigits

/-- The octets of a whole number begin with a minus sign or a digit. -/
theorem encode_ofInt_cons (z : Int) : ∃ b bs, Utf8.encode (Decimal.ofInt z) = b :: bs ∧
    (b = 0x2D ∨ isDigit b = true) := by
  rw [Decimal.ofInt]
  split_ifs with hneg
  · exact ⟨0x2D, numeral z.natAbs, rfl, .inl rfl⟩
  · obtain ⟨b, bs, hbs, hdigits, -⟩ := numeral_cons z.natAbs
    exact ⟨b, bs, hbs, .inr (hdigits b List.mem_cons_self)⟩

theorem number_ofInt {z : Int} (hlow : Int64.minValue.toInt ≤ z) (hhigh : z ≤ maxSignificand)
    {rest : Bytes} (hrest : Stops rest) :
    number (Utf8.encode (Decimal.ofInt z) ++ rest) = .ok (.integer z, rest) := by
  rw [Decimal.ofInt]
  split_ifs with hneg
  · have hz : -(z.natAbs : Int) = z := by omega
    have hread := number_minus (n := z.natAbs) (by omega) (by omega) hrest
    rw [hz] at hread
    exact hread
  · have hz : (z.natAbs : Int) = z := by omega
    have hread := number_numeral (n := z.natAbs) (by omega) hrest
    rw [hz] at hread
    exact hread

theorem isBlank_eq_false_of_isDigit {b : UInt8} (h : isDigit b = true) : isBlank b = false := by
  by_contra hblank
  simp only [Bool.not_eq_false, isBlank, Bool.or_eq_true, decide_eq_true_eq] at hblank
  rcases hblank with ((rfl | rfl) | rfl) | rfl <;> cases h

/-- A whole number between two bounds reads back if it fits in 64 bits. -/
theorem Reads.integer {low high z : Int} (hmin : low ≤ z) (hmax : z ≤ high)
    (hlow : Int64.minValue.toInt ≤ z) (hhigh : z ≤ maxSignificand) :
    Reads (integer low high) (Decimal.ofInt z) z := by
  obtain ⟨b, bs, hbs, hb⟩ := encode_ofInt_cons z
  have hblank : isBlank b = false := by
    rcases hb with rfl | hb
    · decide
    · exact isBlank_eq_false_of_isDigit hb
  have hbracket : b ≠ 0x5D := by
    rintro rfl
    rcases hb with hb | hb <;> cases hb
  refine ⟨⟨b, bs, hbs, hblank, hbracket⟩, fun rest hrest => ?_⟩
  have hread := number_ofInt hlow hhigh hrest
  rw [hbs, List.cons_append] at hread ⊢
  unfold Json.integer
  simp only [skipBlank_cons hblank, if_pos hb, hread, bind, Except.bind,
    if_pos (And.intro hmin hmax)]
  rfl

/-- A signed number of 64 bits reads back. -/
theorem Reads.int64 (n : Int64) : Reads int64 (Decimal.ofInt n.toInt) n := by
  have hlow := Int64.minValue_le_toInt n
  have hhigh := Int64.toInt_le n
  have hfits : Int64.maxValue.toInt ≤ maxSignificand := by decide
  have hreads := Reads.integer hlow hhigh hlow (Int.le_trans hhigh hfits)
  refine ⟨hreads.starts, fun rest hrest => ?_⟩
  rw [Json.int64, hreads.reads rest hrest]
  simp only [Except.map, Int64.ofInt_toInt]

/-- An octet reads back. -/
theorem Reads.octet (b : UInt8) : Reads octet (Decimal.ofInt b.toNat) b := by
  have hb := b.toNat_lt
  have hlow : Int64.minValue.toInt ≤ 0 := by decide
  have hfits : (255 : Int) ≤ maxSignificand := by decide
  have hreads : Reads (Json.integer 0 255) (Decimal.ofInt b.toNat) b.toNat :=
    Reads.integer (by omega) (by omega) (by omega) (by omega)
  refine ⟨hreads.starts, fun rest hrest => ?_⟩
  rw [Json.octet, hreads.reads rest hrest]
  simp only [Except.map, Int.toNat_natCast, UInt8.ofNat_toNat]

end HostWatch.Json
