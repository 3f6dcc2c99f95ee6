import HostWatch.Proofs.Json.Numerals
import HostWatch.Proofs.Json.Objects

/-!
# Values read back

A value that was read from a text is written in another way, without blanks and with the members of
its objects in order; what is written reads back as the value, if none of its numbers is a
floating-point number (`decode_encode_of_decode`). `Fits` collects what the reader sees to: whole
numbers are of 64 bits, members are in order, and nothing is nested too deep.
-/

namespace HostWatch.Json

/-- No number in a value is a floating-point number. -/
inductive Value.Whole : Value → Prop
  /-- `null` has no numbers. -/
  | null : Whole .null
  /-- A truth value has no numbers. -/
  | bool (b : Bool) : Whole (.bool b)
  /-- A whole number. -/
  | integer (z : Int) : Whole (.number (.integer z))
  /-- A string has no numbers. -/
  | string (s : String) : Whole (.string s)
  /-- An array of such values. -/
  | array {items : List Value} : (∀ v ∈ items, Whole v) → Whole (.array items)
  /-- An object of such values. -/
  | object {ms : List (String × Value)} : (∀ e ∈ ms, Whole e.2) → Whole (.object ms)

/-- A value without floating-point numbers as it is read: its arrays and objects are nested at most
so deep, whole numbers are of 64 bits, and members are in order of their keys. -/
inductive Fits : Nat → Value → Prop
  /-- The value `null`. -/
  | null {depth} : Fits depth .null
  /-- A truth value. -/
  | bool {depth} (b : Bool) : Fits depth (.bool b)
  /-- A whole number of 64 bits. -/
  | integer {depth} {z : Int} : Int64.minValue.toInt ≤ z → z ≤ maxSignificand →
    Fits depth (.number (.integer z))
  /-- A string. -/
  | string {depth} (s : String) : Fits depth (.string s)
  /-- An array of such values, nested less deep. -/
  | array {depth} {items : List Value} : (∀ v ∈ items, Fits depth v) → Fits (depth + 1) (.array items)
  /-- An object of such values, nested less deep. -/
  | object {depth} {ms : Keyed Value} : (∀ e ∈ ms, Fits depth e.2) → ms.Ordered →
    Fits (depth + 1) (.object ms)

variable {depth : Nat} {bs rest : Bytes} {v : Value}

/-! ### What is written is read -/

theorem value_array (bs : Bytes) : value (depth + 1) (0x5B :: bs) =
    (list (value depth) (0x5B :: bs)).map fun (items, rest) => (.array items, rest) := by
  rw [value, list, skipBlank_cons (by decide)]
  rfl

theorem value_object (bs : Bytes) : value (depth + 1) (0x7B :: bs) =
    (map (value depth) (0x7B :: bs)).map fun (ms, rest) => (.object ms, rest) := by
  rw [value, map, skipBlank_cons (by decide)]
  rfl

theorem value_number {b : UInt8} (hb : b = 0x2D ∨ isDigit b = true) (bs : Bytes) :
    value depth (b :: bs) = (number (b :: bs)).map fun (n, rest) => (.number n, rest) := by
  have hblank : isBlank b = false := by
    rcases hb with rfl | hb
    · decide
    · exact isBlank_eq_false_of_isDigit hb
  have hne (c : UInt8) (hminus : c ≠ 0x2D) (hdigit : isDigit c = false) : b ≠ c := by
    rintro rfl
    exact hb.elim hminus fun hb => Bool.false_ne_true (hdigit.symm.trans hb)
  unfold value
  rw [skipBlank_cons hblank]
  split
  case h_1 heq => cases heq
  case h_8 heq =>
    cases heq
    exact if_pos hb
  all_goals
    next heq => exact absurd (List.cons.inj heq).1 (hne _ (by decide) (by decide))

theorem Reads.number {z : Int} (hlow : Int64.minValue.toInt ≤ z) (hhigh : z ≤ maxSignificand) :
    Reads (value depth) (Decimal.ofInt z) (.number (.integer z)) := by
  obtain ⟨b, bs, hbs, hb⟩ := encode_ofInt_cons z
  refine ⟨(Reads.integer hlow hhigh hlow hhigh).starts, fun rest hrest => ?_⟩
  have hread := number_ofInt hlow hhigh hrest
  rw [hbs, List.cons_append] at hread ⊢
  rw [value_number hb, hread]
  rfl

/-- An array reads back if its elements do. -/
theorem Reads.items {items : List Value}
    (h : ∀ v ∈ items, Reads (value depth) v.compact v) :
    Reads (value (depth + 1)) (Value.array items).compact (.array items) := by
  have hitems : List.Forall₂ (Reads (value depth)) (compactItems items) items := by
    induction items with
    | nil => exact .nil
    | cons v items ih =>
      exact .cons (h v List.mem_cons_self) (ih fun w hw => h w (List.mem_cons_of_mem _ hw))
  have hlist := Reads.list hitems
  rw [← Value.compact] at hlist
  refine ⟨hlist.starts, fun rest hrest => ?_⟩
  have hread := hlist.reads rest hrest
  obtain ⟨bs, hbs⟩ : ∃ bs, Utf8.encode (Value.array items).compact = 0x5B :: bs :=
    ⟨_, by rw [Value.compact, Utf8.encode_cons]; rfl⟩
  rw [hbs, List.cons_append] at hread ⊢
  rw [value_array, hread]
  rfl

/-- An object whose members are in order reads back if their values do. -/
theorem Reads.members {ms : Keyed Value} (h : ∀ e ∈ ms, Reads (value depth) e.2.compact e.2)
    (hordered : ms.Ordered) :
    Reads (value (depth + 1)) (Value.object ms).compact (.object ms) := by
  have hsame : (ms.map fun e => (e.1, id e.2)) = ms := List.map_id ms
  have hmap : Reads (Json.map (value depth))
      (Value.object (ms.map fun e => (e.1, id e.2))).compact ms :=
    Reads.map h hordered
  rw [hsame] at hmap
  refine ⟨hmap.starts, fun rest hrest => ?_⟩
  have hread := hmap.reads rest hrest
  obtain ⟨bs, hbs⟩ : ∃ bs, Utf8.encode (Value.object ms).compact = 0x7B :: bs :=
    ⟨_, by rw [Value.compact, Utf8.encode_cons]; rfl⟩
  rw [hbs, List.cons_append] at hread ⊢
  rw [value_object, hread]
  rfl

/-- A value as it is read is read back from its text. -/
theorem Fits.reads (h : Fits depth v) : Reads (value depth) v.compact v := by
  induction h with
  | null => exact ⟨⟨0x6E, _, rfl, by decide, by decide⟩, fun _ _ => by rw [value]; rfl⟩
  | bool b =>
    cases b with
    | true => exact ⟨⟨0x74, _, rfl, by decide, by decide⟩, fun _ _ => by rw [value]; rfl⟩
    | false => exact ⟨⟨0x66, _, rfl, by decide, by decide⟩, fun _ _ => by rw [value]; rfl⟩
  | integer hlow hhigh => exact .number hlow hhigh
  | string s =>
    refine ⟨(Reads.string s).starts, fun rest _ => ?_⟩
    have hbody := stringBody_escaped s rest
    rw [Value.compact, encode_quote, value, skipBlank_cons (by decide)]
    simp only [hbody]
    rfl
  | array _ ih => exact .items ih
  | object _ hordered ih => exact .members ih hordered

/-! ### What is read fits -/

theorem absorb_le {significand : Nat} (h : significand ≤ maxSignificand) (ds : Bytes) :
    (absorb significand ds).1 ≤ maxSignificand := by
  induction ds generalizing significand with
  | nil => exact h
  | cons d ds ih =>
    simp only [absorb]
    split_ifs with hnext
    · exact h
    · exact ih (Nat.le_of_not_lt hnext)

/-- A number with a fraction, an exponent or too many digits is a floating-point number. -/
theorem isReal_of_real {negative : Bool} {significand : Nat} {e : Int} {n : Number}
    {after : Bytes} (h : (real negative significand e).map (·, after) = .ok (n, rest)) :
    ∃ x, n = .real x := by
  unfold real at h
  cases hscale : scale significand.toUInt64.toFloat e with
  | error fault => simp [hscale, bind, Except.bind, Except.map] at h
  | ok x =>
    simp only [hscale, bind, Except.bind, pure, Except.pure, Except.map, Except.ok.injEq,
      Prod.mk.injEq] at h
    exact ⟨_, h.1.symm⟩

theorem isReal_of_exponent {negative : Bool} {significand : Nat} {e : Int} {n : Number}
    (h : exponent negative significand e bs = .ok (n, rest)) : ∃ x, n = .real x := by
  unfold exponent at h
  split at h
  · split_ifs at h
    · -- behind the sign of the exponent there is a digit
      split at h
      split at h
      · cases h
      · split at h
        · exact isReal_of_real h
        · cases h
    · exact isReal_of_real h
  · exact isReal_of_real h

theorem bounds_of_whole {negative : Bool} {significand : Nat} {z : Int}
    (hmax : significand ≤ maxSignificand) (h : whole negative significand = .integer z) :
    Int64.minValue.toInt ≤ z ∧ z ≤ maxSignificand := by
  have hmin : Int64.minValue.toInt = -9223372036854775808 := by decide
  unfold whole at h
  split_ifs at h with hnegative hlow <;> cases h <;> omega

theorem bounds_of_unsignedNumber {negative : Bool} {z : Int}
    (h : unsignedNumber negative bs = .ok (.integer z, rest)) :
    Int64.minValue.toInt ≤ z ∧ z ≤ maxSignificand := by
  unfold unsignedNumber at h
  cases hdigits : wholeDigits bs with
  | error fault => simp [hdigits, bind, Except.bind] at h
  | ok p =>
    obtain ⟨digits, after⟩ := p
    have hmax := absorb_le (Nat.zero_le maxSignificand) digits
    have not_real {n : Number} (hn : n = .integer z) : ¬ ∃ x, n = .real x := by
      rintro ⟨x, rfl⟩
      cases hn
    simp only [hdigits, bind, Except.bind, pure, Except.pure] at h
    split at h
    · split at h
      · cases h
      · exact absurd (isReal_of_exponent h) (not_real rfl)
    · split_ifs at h
      · exact absurd (isReal_of_exponent h) (not_real rfl)
      · exact bounds_of_whole hmax (Prod.mk.inj (Except.ok.inj h)).1
      · exact absurd (isReal_of_real h) (not_real rfl)
    · split_ifs at h
      · exact bounds_of_whole hmax (Prod.mk.inj (Except.ok.inj h)).1
      · exact absurd (isReal_of_real h) (not_real rfl)

/-- A whole number that is read is of 64 bits. -/
theorem bounds_of_number {z : Int} (h : number bs = .ok (.integer z, rest)) :
    Int64.minValue.toInt ≤ z ∧ z ≤ maxSignificand := by
  unfold number at h
  split at h <;> exact bounds_of_unsignedNumber h

/-- What holds of every element that is read holds of the elements of an array. -/
theorem forall_of_elements {α : Type} {item : Reader α} {P : α → Prop}
    (hitem : ∀ {bs a rest}, item bs = .ok (a, rest) → P a) {fuel : Nat} {first : Bool}
    {as : List α} (h : elements item fuel first bs = .ok (as, rest)) : ∀ a ∈ as, P a := by
  induction fuel generalizing first bs as rest with
  | zero => cases h
  | succ fuel ih =>
    rw [elements] at h
    cases hnext : nextElement first bs with
    | error fault => simp [hnext, bind, Except.bind] at h
    | ok p =>
      obtain ⟨more, after⟩ := p
      cases more with
      | none =>
        simp only [hnext, bind, Except.bind, pure, Except.pure, Except.ok.injEq,
          Prod.mk.injEq] at h
        rw [← h.1]
        exact List.forall_mem_nil _
      | some bs' =>
        cases ha : item bs' with
        | error fault => simp [hnext, ha, bind, Except.bind] at h
        | ok q =>
          cases has : elements item fuel false q.2 with
          | error fault => simp [hnext, ha, has, bind, Except.bind] at h
          | ok r =>
            simp only [hnext, ha, has, bind, Except.bind, pure, Except.pure, Except.ok.injEq,
              Prod.mk.injEq] at h
            rw [← h.1]
            exact List.forall_mem_cons.mpr ⟨hitem ha, ih has⟩

/-- What holds of every value that is read holds of the members of an object. -/
theorem forall_of_mapMember {α : Type} {item : Reader α} {P : α → Prop}
    (hitem : ∀ {bs a rest}, item bs = .ok (a, rest) → P a) {key : String} {acc acc' : Keyed α}
    (hacc : acc.Ordered ∧ ∀ e ∈ acc, P e.2)
    (h : mapMember item key acc bs = .ok (acc', rest)) : acc'.Ordered ∧ ∀ e ∈ acc', P e.2 := by
  refine ⟨ordered_of_mapMember hacc.1 h, ?_⟩
  unfold mapMember at h
  cases hcolon : colon bs with
  | error fault => simp [hcolon, bind, Except.bind] at h
  | ok after =>
    cases ha : item after with
    | error fault => simp [hcolon, ha, bind, Except.bind] at h
    | ok p =>
      simp only [hcolon, ha, bind, Except.bind, pure, Except.pure, Except.ok.injEq,
        Prod.mk.injEq] at h
      rw [← h.1]
      intro e he
      rcases Keyed.mem_insert he with rfl | he
      · exact hitem ha
      · exact hacc.2 e he

/-- What goes through a reader is what another one has read. -/
theorem exists_of_map {α β : Type} {x : Except Fault (α × Bytes)} {f : α → β} {b : β}
    (h : (x.map fun (a, rest) => (f a, rest)) = .ok (b, rest)) : ∃ a, x = .ok (a, rest) ∧ b = f a := by
  cases x with
  | error fault => cases h
  | ok p =>
    obtain ⟨a, rest'⟩ := p
    cases h
    exact ⟨a, rfl, rfl⟩

theorem exists_of_word {x : Except Fault Bytes} {w : Value}
    (h : x.map (w, ·) = .ok (v, rest)) : v = w := by
  cases x with
  | error fault => cases h
  | ok p =>
    cases h
    rfl

/-- What a value can be that is read. -/
theorem value_cases (h : value depth bs = .ok (v, rest)) :
    v = .null ∨ (∃ b, v = .bool b) ∨ (∃ s, v = .string s) ∨
      (∃ bs n, number bs = .ok (n, rest) ∧ v = .number n) ∨
      (∃ d fuel bs items, depth = d + 1 ∧
        elements (value d) fuel true bs = .ok (items, rest) ∧ v = .array items) ∨
      (∃ d fuel bs ms, depth = d + 1 ∧
        members (mapMember (value d)) fuel true [] bs = .ok (ms, rest) ∧ v = .object ms) := by
  unfold value at h
  split at h
  · cases h
  · exact .inl (exists_of_word h)
  · exact .inr (.inl ⟨true, exists_of_word h⟩)
  · exact .inr (.inl ⟨false, exists_of_word h⟩)
  · obtain ⟨s, -, hv⟩ := exists_of_map h
    exact .inr (.inr (.inl ⟨s, hv⟩))
  · cases depth with
    | zero => cases h
    | succ d =>
      obtain ⟨items, hitems, hv⟩ := exists_of_map h
      exact .inr (.inr (.inr (.inr (.inl ⟨d, _, _, items, rfl, hitems, hv⟩))))
  · cases depth with
    | zero => cases h
    | succ d =>
      obtain ⟨ms, hms, hv⟩ := exists_of_map h
      exact .inr (.inr (.inr (.inr (.inr ⟨d, _, _, ms, rfl, hms, hv⟩))))
  · split at h
    · obtain ⟨n, hn, hv⟩ := exists_of_map h
      exact .inr (.inr (.inr (.inl ⟨_, n, hn, hv⟩)))
    · cases h

/-- A value that is read fits, if none of its numbers is a floating-point number. -/
theorem fits_of_value (h : value depth bs = .ok (v, rest)) (hwhole : v.Whole) : Fits depth v := by
  induction depth using Nat.strongRecOn generalizing bs v rest with
  | ind depth ih =>
    rcases value_cases h with rfl | ⟨b, rfl⟩ | ⟨s, rfl⟩ | ⟨bs, n, hn, rfl⟩ |
      ⟨d, fuel, bs, items, rfl, hitems, rfl⟩ | ⟨d, fuel, bs, ms, rfl, hms, rfl⟩
    · exact .null
    · exact .bool b
    · exact .string s
    · cases hwhole with
      | integer z =>
        obtain ⟨hlow, hhigh⟩ := bounds_of_number hn
        exact .integer hlow hhigh
    · cases hwhole with
      | array hwhole =>
        have hall := forall_of_elements (P := fun v => v.Whole → Fits d v)
          (fun h hwhole => ih d (Nat.lt_succ_self d) h hwhole) hitems
        exact .array fun v hv => hall v hv (hwhole v hv)
    · cases hwhole with
      | object hwhole =>
        have hall := members_induction (P := fun ms => ms.Ordered ∧
            ∀ e ∈ ms, e.2.Whole → Fits d e.2)
          (forall_of_mapMember fun h hwhole => ih d (Nat.lt_succ_self d) h hwhole)
          ⟨Keyed.Ordered.nil, fun _ he => absurd he List.not_mem_nil⟩ hms
        exact .object (fun e he => hall.2 e he (hwhole e he)) hall.1

/-- A value without floating-point numbers that was read from any text is read back from its own. -/
theorem decode_encode_of_decode (h : decode anyValue bs = .ok v) (hwhole : v.Whole) :
    decode anyValue v.encode = .ok v := by
  rw [decode] at h
  cases hvalue : anyValue bs with
  | error fault => simp [hvalue, bind, Except.bind] at h
  | ok p =>
    obtain ⟨w, rest⟩ := p
    simp only [hvalue, bind, Except.bind] at h
    split at h
    · cases h
      exact (fits_of_value hvalue hwhole).reads.decode
    · cases h

/-- Blanks and line breaks between the elements are not kept. -/
example : (decode anyValue (Utf8.ofString "[ 1,\n2 ]")).map Value.compact =
    .ok "[1,2]".toList := by
  decide +kernel

end HostWatch.Json
