import HostWatch.Proofs.Text.Decimal
import HostWatch.Proofs.Url.DomainName
import HostWatch.Url.Address

/-!
# Addresses of 32 bits

The text of an address is four numerals with points between them. It is its own ASCII form as a
domain name, it ends in a number, and read as a host it is the address
(`Ipv4.ofHost?_text`).
-/

namespace HostWatch

namespace Url.Ipv4

variable {c : Char} {cs : List Char}

theorem splitBase_digits (n : Nat) : splitBase (Decimal.digits n) = (10, Decimal.digits n) := by
  obtain rfl | hn := Nat.eq_zero_or_pos n
  · rw [Decimal.digits_zero]
    rfl
  · have hhead := Decimal.head?_digits hn
    unfold splitBase
    split <;> simp_all

theorem digitIn?_of_isDigit (h : Decimal.isDigit c) : digitIn? 10 c = some (Decimal.digitValue c) := by
  have hlt := Decimal.digitValue_lt h
  rw [digitIn?, Decimal.hexValue?_of_isDigit h, Option.filter_some, if_pos (by simpa using hlt)]

theorem foldlM_digits (h : cs.all Decimal.isDigit) (acc : Nat) :
    cs.foldlM (fun n c => (digitIn? 10 c).map (n * 10 + ·)) acc =
      some (Decimal.valueFrom acc cs) := by
  induction cs generalizing acc with
  | nil => rfl
  | cons c cs ih =>
    rw [List.all_cons, Bool.and_eq_true] at h
    rw [List.foldlM_cons, digitIn?_of_isDigit h.1, Option.map_some, Option.bind_eq_bind,
      Option.bind_some, ih h.2, Nat.mul_comm]
    rfl

/-- A numeral is read as its number. -/
theorem number?_digits (n : Nat) : number? (Decimal.digits n) = some n := by
  rw [number?, if_neg (Decimal.digits_ne_nil n), splitBase_digits]
  exact (foldlM_digits (Decimal.all_isDigit_digits n) 0).trans
    (congrArg some (Decimal.valueFrom_digits n))

/-! ### Texts -/

variable (x : Ipv4)

theorem not_mem_digits {n : Nat} : '.' ∉ Decimal.digits n := fun h =>
  absurd (List.all_eq_true.mp (Decimal.all_isDigit_digits n) '.' h) (by decide)

theorem splitOn_text : x.text.splitOn '.' = [Decimal.digits x.a.toNat, Decimal.digits x.b.toNat,
    Decimal.digits x.c.toNat, Decimal.digits x.d.toNat] := by
  rw [text, List.splitOn_append_cons_self_of_not_mem not_mem_digits,
    List.splitOn_append_cons_self_of_not_mem not_mem_digits,
    List.splitOn_append_cons_self_of_not_mem not_mem_digits,
    List.splitOn_eq_singleton not_mem_digits]

theorem mem_text (h : c ∈ x.text) : Decimal.isDigit c ∨ c = '.' := by
  have digit {n : Nat} (h : c ∈ Decimal.digits n) : Decimal.isDigit c :=
    List.all_eq_true.mp (Decimal.all_isDigit_digits n) c h
  simp only [text, List.mem_append, List.mem_cons] at h
  obtain h | h | h | h | h | h | h := h
  all_goals first | exact .inl (digit h) | exact .inr h

theorem text_ne_nil : x.text ≠ [] := by
  simp [text]

/-- The text of an address ends in a number. -/
theorem endsInNumber_text : endsInNumber x.text := by
  rw [endsInNumber, splitOn_text]
  obtain ⟨c, cs, hcs, -⟩ := Decimal.digits_head x.d.toNat
  have hnumber : endsInNumber.isNumber (Decimal.digits x.d.toNat) := by
    rw [endsInNumber.isNumber, number?_digits]
    exact Bool.or_true _
  simp only [List.reverse_cons, List.reverse_nil, List.nil_append, List.cons_append]
  rw [hcs] at hnumber ⊢
  exact hnumber

theorem ofNat_weighted : ofNat (x.d.toNat + x.a.toNat * 16777216 + x.b.toNat * 65536 +
    x.c.toNat * 256) = x := by
  have ha := x.a.toNat_lt
  have hb := x.b.toNat_lt
  have hc := x.c.toNat_lt
  have hd := x.d.toNat_lt
  have octet {n : Nat} {o : UInt8} (h : n % 256 = o.toNat) : UInt8.ofNat n = o :=
    UInt8.toNat_inj.mp (by rw [UInt8.toNat_ofNat', ← h])
  rw [ofNat, octet (o := x.a) (by omega), octet (o := x.b) (by omega), octet (o := x.c) (by omega),
    octet (o := x.d) (by omega)]

/-- The text of an address reads back as the address. -/
theorem ofHost?_text : ofHost? x.text = some x := by
  have hparts : parts x.text = x.text.splitOn '.' := by
    rw [parts, splitOn_text]
    simp [Decimal.digits_ne_nil]
  have hnumbers : (x.text.splitOn '.').mapM number? =
      some [x.a.toNat, x.b.toNat, x.c.toNat, x.d.toNat] := by
    rw [splitOn_text]
    simp [number?_digits]
  have ha := x.a.toNat_lt
  have hb := x.b.toNat_lt
  have hc := x.c.toNat_lt
  have hd := x.d.toNat_lt
  have hlength : (x.text.splitOn '.').length = 4 := by
    rw [splitOn_text]
    rfl
  have hfirst : [x.a.toNat, x.b.toNat, x.c.toNat].any (255 < ·) = false := by
    simp
    omega
  have hlast : ¬ Nat.pow 256 1 ≤ x.d.toNat := by
    simp
    omega
  simp only [ofHost?, hparts, hnumbers, hlength, Nat.lt_irrefl, if_false, Option.bind_eq_bind,
    Option.bind_some, List.getLast?_cons_cons, List.getLast?_singleton, List.dropLast_cons_cons,
    List.dropLast_singleton, hfirst, List.length_cons, List.length_nil, hlast]
  exact congrArg some (ofNat_weighted x)

/-! ### As domain names -/

/-- A digit or a point may stand in a name, and is no capital letter. -/
theorem allowed_of_digit (h : Decimal.isDigit c ∨ c = '.') :
    c.toNat < 0x80 ∧ c.isUpper = false ∧ Idna.isForbidden c = false := by
  have hc : c.toNat < 0x80 := by
    obtain h | rfl := h
    · exact Nat.lt_of_le_of_lt (Decimal.toNat_of_isDigit h).2 (by decide)
    · decide
  exact ⟨hc, Ascii.forall_ascii (p := fun c => Decimal.isDigit c ∨ c = '.' →
    c.isUpper = false ∧ Idna.isForbidden c = false) (by decide) hc h⟩

/-- The text of an address is its own ASCII form. -/
theorem toAscii?_text : Idna.toAscii? x.text = some x.text := by
  refine Idna.toAscii?_of_ascii (fun c hc => (allowed_of_digit (mem_text x hc)).1)
    (fun c hc => (allowed_of_digit (mem_text x hc)).2.1)
    (fun c hc => (allowed_of_digit (mem_text x hc)).2.2) (fun label hlabel hx => ?_)
  obtain ⟨rest, rfl⟩ := hx
  have hmem := mem_of_mem_splitOn (List.mem_append_left rest List.mem_cons_self) hlabel
  exact absurd (mem_text x hmem) (by decide)

end Url.Ipv4

end HostWatch
