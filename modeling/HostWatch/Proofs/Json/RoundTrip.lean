import HostWatch.Json.Reader
import HostWatch.Json.Printer
import HostWatch.Proofs.Text.Utf8
import Mathlib.Data.List.Forall2

/-!
# JSON reads back what it writes

`Reads item text a` says that the reader `item` takes the value `a` from the octets of
`text` and stops there, whatever piece of JSON goes on behind it. A quoted string reads
back as the string; lists and records read back whenever their elements and fields do.
So a reader that is put together from these is proved by putting the lemmas together
in the same way.
-/

namespace HostWatch.Json

/-! ### Strings -/

/-- An octet that stands for itself inside a string. -/
def IsPlain (b : UInt8) : Prop := b ≠ 0x22 ∧ b ≠ 0x5C ∧ ¬ b < 0x20

theorem stringOctets_quote (rest : Bytes) : stringOctets (0x22 :: rest) = .ok ([], rest) := by
  rw [stringOctets]
  rfl

theorem stringOctets_append_of_isPlain {bs rest more left : Bytes} (h : ∀ b ∈ bs, IsPlain b)
    (hr : stringOctets rest = .ok (more, left)) :
    stringOctets (bs ++ rest) = .ok (bs ++ more, left) := by
  induction bs with
  | nil => exact hr
  | cons b bs ih =>
    obtain ⟨hq, hs, hc⟩ := h b List.mem_cons_self
    rw [List.cons_append, stringOctets, if_neg hq, if_neg hs, if_neg hc,
      ih fun x hx => h x (List.mem_cons_of_mem _ hx)]
    rfl

theorem stringOctets_escape {bs out rest more left : Bytes} (h : escape bs = .ok (out, rest))
    (hr : stringOctets rest = .ok (more, left)) :
    stringOctets (0x5C :: bs) = .ok (out ++ more, left) := by
  rw [stringOctets, if_neg (by decide), if_pos rfl]
  split
  · next he => rw [h] at he; cases he
  · next he =>
    rw [h] at he
    cases he
    rw [hr]
    rfl

theorem escape_short {b c : UInt8} (hb : b ≠ 0x75) (h : shortEscape? b = some c) (rest : Bytes) :
    escape (b :: rest) = .ok ([c], rest) := by
  rw [escape, if_neg hb, h]

/-- The octet of a lower-case hexadecimal digit. -/
def hexOctet (d : Nat) : UInt8 := UInt8.ofNat (if d < 10 then 48 + d else 87 + d)

theorem encodeChar_hexLower {d : Nat} (h : d < 16) :
    Utf8.encodeChar (Ascii.hexLower d) = [hexOctet d] := by
  have all : ∀ d : Fin 16, Utf8.encodeChar (Ascii.hexLower d) = [hexOctet d] := by decide
  exact all ⟨d, h⟩

theorem hexValue?_hexOctet {d : Nat} (h : d < 16) : hexValue? (hexOctet d) = some d := by
  have all : ∀ d : Fin 16, hexValue? (hexOctet d) = some d.val := by decide
  exact all ⟨d, h⟩

/-- A control character reads back from its number in four digits. -/
theorem escape_control {c : Char} (h : c.toNat < 0x20) (rest : Bytes) :
    escape (0x75 :: 0x30 :: 0x30 :: hexOctet (c.toNat / 16) :: hexOctet (c.toNat % 16) :: rest) =
      .ok (Utf8.encodeChar c, rest) := by
  have hz : hexValue? 0x30 = some 0 := by decide
  have hn : ((0 * 16 + 0) * 16 + c.toNat / 16) * 16 + c.toNat % 16 = c.toNat := by omega
  rw [escape, if_pos rfl, unicodeEscape, hex4]
  simp only [hz, hexValue?_hexOctet (show c.toNat / 16 < 16 by omega),
    hexValue?_hexOctet (show c.toNat % 16 < 16 by omega), hn, bind, Except.bind]
  rw [if_pos (by omega), Char.ofNat_toNat]
  rfl

/-- The octets of a character that needs no escape are plain. -/
theorem isPlain_of_mem_encodeChar {c : Char} (hq : c ≠ '"') (hs : c ≠ '\\')
    (hc : ¬ c.toNat < 0x20) :
    ∀ b ∈ Utf8.encodeChar c, IsPlain b := by
  intro b hb
  have hq' : c.toNat ≠ 0x22 := fun e => hq (Char.toNat_inj.mp e)
  have hs' : c.toNat ≠ 0x5C := fun e => hs (Char.toNat_inj.mp e)
  have key : 0x20 ≤ b.toNat ∧ b.toNat ≠ 0x22 ∧ b.toNat ≠ 0x5C := by
    have hb' := Utf8.toNat_of_mem_encodeChar hb
    omega
  obtain ⟨h1, h2, h3⟩ := key
  refine ⟨fun e => h2 (by rw [e]; rfl), fun e => h3 (by rw [e]; rfl), fun hlt => ?_⟩
  rw [UInt8.lt_iff_toNat_lt] at hlt
  exact absurd hlt (by simpa using h1)

/-- A character inside a string reads back, escaped or not. -/
theorem stringOctets_escapeChar (c : Char) {rest more left : Bytes}
    (hr : stringOctets rest = .ok (more, left)) :
    stringOctets (Utf8.encode (escapeChar c) ++ rest) = .ok (Utf8.encodeChar c ++ more, left) := by
  by_cases h1 : c = '"'
  · subst h1
    exact stringOctets_escape (escape_short (b := 0x22) (by decide) rfl rest) hr
  by_cases h2 : c = '\\'
  · subst h2
    exact stringOctets_escape (escape_short (b := 0x5C) (by decide) rfl rest) hr
  by_cases h3 : c = '\x08'
  · subst h3
    exact stringOctets_escape (escape_short (b := 0x62) (by decide) rfl rest) hr
  by_cases h4 : c = '\x0c'
  · subst h4
    exact stringOctets_escape (escape_short (b := 0x66) (by decide) rfl rest) hr
  by_cases h5 : c = '\n'
  · subst h5
    exact stringOctets_escape (escape_short (b := 0x6E) (by decide) rfl rest) hr
  by_cases h6 : c = '\r'
  · subst h6
    exact stringOctets_escape (escape_short (b := 0x72) (by decide) rfl rest) hr
  by_cases h7 : c = '\t'
  · subst h7
    exact stringOctets_escape (escape_short (b := 0x74) (by decide) rfl rest) hr
  rw [escapeChar, if_neg h1, if_neg h2, if_neg h3, if_neg h4, if_neg h5, if_neg h6, if_neg h7]
  by_cases h8 : c.toNat < 0x20
  · rw [if_pos h8]
    simp only [Utf8.encode_cons, Utf8.encode_nil, List.append_nil,
      encodeChar_hexLower (show c.toNat / 16 < 16 by omega),
      encodeChar_hexLower (show c.toNat % 16 < 16 by omega)]
    exact stringOctets_escape (escape_control h8 rest) hr
  · rw [if_neg h8, Utf8.encode_cons, Utf8.encode_nil, List.append_nil]
    exact stringOctets_append_of_isPlain (isPlain_of_mem_encodeChar h1 h2 h8) hr

theorem stringOctets_escaped (cs : List Char) (rest : Bytes) :
    stringOctets (Utf8.encode (cs.flatMap escapeChar) ++ 0x22 :: rest) =
      .ok (Utf8.encode cs, rest) := by
  induction cs with
  | nil => exact stringOctets_quote rest
  | cons c cs ih =>
    rw [List.flatMap_cons, Utf8.encode_append, List.append_assoc, Utf8.encode_cons]
    exact stringOctets_escapeChar c ih

/-- A string in quotes reads back up to its closing quote. -/
theorem stringBody_escaped (s : String) (rest : Bytes) :
    stringBody (Utf8.encode (s.toList.flatMap escapeChar) ++ 0x22 :: rest) = .ok (s, rest) := by
  rw [stringBody, stringOctets_escaped]
  simp only [bind, Except.bind, Utf8.toString?_encode]
  rfl

theorem encode_quote (s : String) (rest : Bytes) :
    Utf8.encode (quote s) ++ rest =
      0x22 :: (Utf8.encode (s.toList.flatMap escapeChar) ++ 0x22 :: rest) := by
  have hq : Utf8.encodeChar '"' = [0x22] := by decide
  simp only [quote, Utf8.encode_cons, Utf8.encode_append, Utf8.encode_nil, hq]
  simp

/-! ### Readers -/

/-- What may stand behind a value inside an array or an object. -/
def Stops (rest : Bytes) : Prop := ∀ b ∈ rest.head?, b = 0x2C ∨ b = 0x5D ∨ b = 0x7D

theorem Stops.nil : Stops [] := fun _ h => absurd h (by simp)

theorem Stops.comma (rest : Bytes) : Stops (0x2C :: rest) := fun b h => by
  simp only [List.head?_cons, Option.mem_def, Option.some.injEq] at h
  exact .inl h.symm

theorem Stops.bracket (rest : Bytes) : Stops (0x5D :: rest) := fun b h => by
  simp only [List.head?_cons, Option.mem_def, Option.some.injEq] at h
  exact .inr (.inl h.symm)

theorem Stops.brace (rest : Bytes) : Stops (0x7D :: rest) := fun b h => by
  simp only [List.head?_cons, Option.mem_def, Option.some.injEq] at h
  exact .inr (.inr h.symm)

/-- The reader takes the value from the text and leaves what goes on behind it. -/
structure Reads {α : Type} (item : Reader α) (text : List Char) (a : α) : Prop where
  /-- The text begins with neither a blank nor the end of an array. -/
  starts : ∃ b bs, Utf8.encode text = b :: bs ∧ isBlank b = false ∧ b ≠ 0x5D
  /-- The value is read. -/
  reads : ∀ rest, Stops rest → item (Utf8.encode text ++ rest) = .ok (a, rest)

variable {α : Type} {item : Reader α}

theorem skipBlank_cons {b : UInt8} (h : isBlank b = false) (bs : Bytes) :
    skipBlank (b :: bs) = b :: bs := by
  rw [skipBlank, List.dropWhile_cons, h]
  rfl

/-- A quoted string reads back. -/
theorem Reads.string (s : String) : Reads string (quote s) s where
  starts := ⟨0x22, _, by simpa using encode_quote s [], by decide, by decide⟩
  reads rest _ := by
    rw [encode_quote]
    exact stringBody_escaped s rest

/-! ### Arrays -/

theorem nextElement_first {b : UInt8} (hb : isBlank b = false) (h : b ≠ 0x5D) (bs : Bytes) :
    nextElement true (b :: bs) = .ok (some (b :: bs), []) := by
  unfold nextElement
  rw [skipBlank_cons hb]
  split
  · next heq => cases heq
  · next heq => cases heq; exact absurd rfl h
  · next heq => cases heq; rfl

theorem nextElement_comma {b : UInt8} (hb : isBlank b = false) (h : b ≠ 0x5D) (bs : Bytes) :
    nextElement false (0x2C :: b :: bs) = .ok (some (b :: bs), []) := by
  unfold nextElement
  rw [skipBlank_cons (by decide)]
  split
  · next heq => cases heq
  · next heq => cases heq
  · next heq =>
    cases heq
    rw [if_neg Bool.false_ne_true, if_pos rfl, skipBlank_cons hb]
    split
    · next heq => cases heq
    · next heq => cases heq; exact absurd rfl h
    · rfl

theorem commaSeparated_cons (t : List Char) (ts : List (List Char)) :
    commaSeparated (t :: ts) = t ++ ts.flatMap (',' :: ·) := by
  induction ts generalizing t with
  | nil => simp [commaSeparated]
  | cons u us ih =>
    rw [commaSeparated, ih u, List.flatMap_cons]
    · simp
    · exact List.cons_ne_nil u us

/-- The elements behind the first one read back, each behind its comma. -/
theorem elements_more {ts : List (List Char)} {as : List α} (h : List.Forall₂ (Reads item) ts as)
    (rest : Bytes) {fuel : Nat} (hf : ts.length < fuel) :
    elements item fuel false (Utf8.encode (ts.flatMap (',' :: ·)) ++ 0x5D :: rest) =
      .ok (as, rest) := by
  induction h generalizing fuel with
  | nil =>
    obtain ⟨fuel, rfl⟩ : ∃ n, fuel = n + 1 := ⟨fuel - 1, by simp at hf; omega⟩
    rfl
  | @cons t a ts as ht _ ih =>
    obtain ⟨fuel, rfl⟩ : ∃ n, fuel = n + 1 := ⟨fuel - 1, by simp at hf; omega⟩
    obtain ⟨b, bs, hbs, hb, hne⟩ := ht.starts
    have hstop : Stops (Utf8.encode (ts.flatMap (',' :: ·)) ++ 0x5D :: rest) := by
      cases ts with
      | nil => exact Stops.bracket rest
      | cons u us => exact Stops.comma _
    have hread := ht.reads _ hstop
    have hcomma : Utf8.encodeChar ',' = [0x2C] := by decide
    rw [List.flatMap_cons, Utf8.encode_append, Utf8.encode_cons, hcomma, List.append_assoc,
      List.singleton_append, List.cons_append, elements]
    rw [hbs, List.cons_append, nextElement_comma hb hne]
    rw [hbs, List.cons_append] at hread
    simp only [bind, Except.bind, hread, ih (by simpa using hf)]
    rfl

/-- Every text behind the first one comes with the octet of its comma. -/
theorem length_le_encode_more (ts : List (List Char)) :
    ts.length ≤ (Utf8.encode (ts.flatMap (',' :: ·))).length := by
  have hcomma : Utf8.encodeChar ',' = [0x2C] := by decide
  induction ts with
  | nil => simp
  | cons u us ih =>
    rw [List.flatMap_cons, Utf8.encode_append, Utf8.encode_cons, hcomma]
    simp only [List.length_append, List.length_cons, List.length_nil]
    omega

theorem length_le_encode {ts : List (List Char)} {as : List α}
    (h : List.Forall₂ (Reads item) ts as) :
    ts.length ≤ (Utf8.encode (commaSeparated ts)).length := by
  cases h with
  | nil => simp
  | @cons t a ts as ht h =>
    obtain ⟨b, bs, hbs, -, -⟩ := ht.starts
    have hmore := length_le_encode_more ts
    rw [commaSeparated_cons, Utf8.encode_append, hbs]
    simp only [List.length_append, List.length_cons]
    omega

theorem elements_all {ts : List (List Char)} {as : List α} (h : List.Forall₂ (Reads item) ts as)
    (rest : Bytes) {fuel : Nat} (hf : ts.length < fuel) :
    elements item fuel true (Utf8.encode (commaSeparated ts) ++ 0x5D :: rest) = .ok (as, rest) := by
  obtain ⟨fuel, rfl⟩ : ∃ n, fuel = n + 1 := ⟨fuel - 1, by omega⟩
  cases h with
  | nil => rfl
  | @cons t a ts as ht h =>
    obtain ⟨b, bs, hbs, hb, hne⟩ := ht.starts
    have hstop : Stops (Utf8.encode (ts.flatMap (',' :: ·)) ++ 0x5D :: rest) := by
      cases ts with
      | nil => exact Stops.bracket rest
      | cons u us => exact Stops.comma _
    have hread := ht.reads _ hstop
    rw [commaSeparated_cons, Utf8.encode_append, List.append_assoc, elements]
    rw [hbs, List.cons_append] at hread ⊢
    rw [nextElement_first hb hne]
    simp only [bind, Except.bind, hread,
      elements_more h rest (show ts.length < fuel by simpa using hf)]
    rfl

/-- A list reads back if its elements do. -/
theorem Reads.list {ts : List (List Char)} {as : List α} (h : List.Forall₂ (Reads item) ts as) :
    Reads (list item) ('[' :: (commaSeparated ts ++ [']'])) as where
  starts := ⟨0x5B, Utf8.encode (commaSeparated ts ++ [']']), rfl, by decide, by decide⟩
  reads rest _ := by
    have hopen : Utf8.encodeChar '[' = [0x5B] := by decide
    have hclose : Utf8.encode [']'] = [0x5D] := by decide
    have hlen := length_le_encode h
    rw [Utf8.encode_cons, Utf8.encode_append, hopen, hclose]
    simp only [List.cons_append, List.append_assoc, List.nil_append]
    rw [Json.list, skipBlank_cons (by decide)]
    refine elements_all h rest ?_
    simp only [List.length_append, List.length_cons]
    omega

theorem compactItems_map (write : α → Value) (as : List α) :
    compactItems (as.map write) = as.map fun a => (write a).compact := by
  induction as with
  | nil => rfl
  | cons a as ih => rw [List.map_cons, compactItems, ih, List.map_cons]

/-- An array reads back if all values of its elements do. -/
theorem Reads.array {write : α → Value} (h : ∀ a, Reads item (write a).compact a) (as : List α) :
    Reads (Json.list item) (Value.array (as.map write)).compact as := by
  have hitems : List.Forall₂ (Reads item) (as.map fun a => (write a).compact) as := by
    induction as with
    | nil => exact .nil
    | cons a as ih => exact .cons (h a) ih
  rw [Value.compact, compactItems_map]
  exact .list hitems

/-! ### Records -/

theorem nextKey_quote (s : String) (rest : Bytes) :
    nextKey true (Utf8.encode (quote s) ++ rest) = .ok (some s, rest) := by
  rw [encode_quote]
  show (stringBody _ >>= fun p => pure (p.map some id)) = _
  rw [stringBody_escaped]
  rfl

theorem nextKey_comma (s : String) (rest : Bytes) :
    nextKey false (0x2C :: (Utf8.encode (quote s) ++ rest)) = .ok (some s, rest) := by
  rw [encode_quote]
  show (stringBody _ >>= fun p => pure (p.map some id)) = _
  rw [stringBody_escaped]
  rfl

theorem colon_cons (rest : Bytes) : colon (0x3A :: rest) = .ok rest := rfl

section Members

variable {σ : Type} {member : String → σ → Reader σ} {acc : σ} {key : String} {bs : Bytes}

/-- A member behind the opening of an object is read, and the reading goes on behind it. -/
theorem members_first (acc' : σ) (rest : Bytes) (h : member key acc bs = .ok (acc', rest))
    (fuel : Nat) :
    members member (fuel + 1) true acc (Utf8.encode (quote key) ++ bs) =
      members member fuel false acc' rest := by
  rw [members, nextKey_quote]
  simp only [bind, Except.bind, h]

/-- A member behind a comma is read, and the reading goes on behind it. -/
theorem members_comma (acc' : σ) (rest : Bytes) (h : member key acc bs = .ok (acc', rest))
    (fuel : Nat) :
    members member (fuel + 1) false acc (0x2C :: (Utf8.encode (quote key) ++ bs)) =
      members member fuel false acc' rest := by
  rw [members, nextKey_comma]
  simp only [bind, Except.bind, h]

theorem members_close (member : String → σ → Reader σ) (fuel : Nat) (first : Bool) (acc : σ)
    (rest : Bytes) : members member (fuel + 1) first acc (0x7D :: rest) = .ok (acc, rest) := rfl

end Members

/-- A field that comes for the first time is read behind its colon. -/
theorem field_colon {a : α} {bs rest : Bytes} (h : item bs = .ok (a, rest)) :
    field none item (0x3A :: bs) = .ok (some a, rest) := by
  simp only [field, Option.isSome_none, Bool.false_eq_true, if_false, bind, Except.bind, colon_cons,
    h, pure, Except.pure]

theorem encode_object (text : List Char) (rest : Bytes) :
    Utf8.encode ('\x7b' :: (text ++ ['\x7d'])) ++ rest =
      0x7B :: (Utf8.encode text ++ 0x7D :: rest) := by
  have hopen : Utf8.encodeChar '\x7b' = [0x7B] := by decide
  have hclose : Utf8.encode ['\x7d'] = [0x7D] := by decide
  rw [Utf8.encode_cons, Utf8.encode_append, hopen, hclose]
  simp only [List.append_assoc, List.cons_append, List.nil_append]

theorem encode_member (key : String) (text : List Char) (rest : Bytes) :
    Utf8.encode (quote key ++ ':' :: text) ++ rest =
      Utf8.encode (quote key) ++ 0x3A :: (Utf8.encode text ++ rest) := by
  have hcolon : Utf8.encodeChar ':' = [0x3A] := by decide
  rw [Utf8.encode_append, Utf8.encode_cons, hcolon]
  simp only [List.append_assoc, List.cons_append, List.nil_append]

/-- A record with one field reads back if the field does. -/
theorem Reads.record {text : List Char} {a : α} (name : String) (h : Reads item text a) :
    Reads (record name item)
      ('\x7b' :: (commaSeparated [quote name ++ ':' :: text] ++ ['\x7d'])) a where
  starts := ⟨0x7B, _, rfl, by decide, by decide⟩
  reads rest _ := by
    rw [encode_object, commaSeparated, encode_member, Json.record, skipBlank_cons (by decide)]
    -- the octets behind the first one leave fuel for the end of the object
    obtain ⟨fuel, hfuel⟩ : ∃ n, (Utf8.encode (quote name) ++
        0x3A :: (Utf8.encode text ++ 0x7D :: rest)).length = n + 1 :=
      ⟨_, by rw [encode_quote, List.length_cons]⟩
    simp only [hfuel]
    rw [members_first (some a) (0x7D :: rest), members_close]
    · rfl
    · rw [if_pos rfl]
      exact field_colon (h.reads _ (Stops.brace rest))

/-- What may be `null` reads back if it is there. -/
theorem Reads.nullable {text : List Char} {a : α} (h : Reads item text a)
    (hnull : ∀ bs, Utf8.encode text ≠ 0x6E :: bs) : Reads (nullable item) text (some a) := by
  obtain ⟨b, bs, hbs, hblank, hbracket⟩ := h.starts
  refine ⟨⟨b, bs, hbs, hblank, hbracket⟩, fun rest hrest => ?_⟩
  have hb : b ≠ 0x6E := by
    rintro rfl
    exact hnull bs hbs
  have hread := h.reads rest hrest
  rw [hbs, List.cons_append] at hread ⊢
  rw [Json.nullable, skipBlank_cons hblank]
  split
  · next heq =>
    cases heq
    exact absurd rfl hb
  · rw [hread]
    rfl

/-! A record with an optional field is written with that field in front, or without it. -/

section Optional

variable {β : Type} {item' : Reader β} {name name' : String} {text text' : List Char} {a : α}
  {b : β}

theorem Reads.withoutOption (h : Reads item text a) :
    Reads (recordWithOption name item name' item')
      ('\x7b' :: (commaSeparated [quote name ++ ':' :: text] ++ ['\x7d'])) (a, none) where
  starts := ⟨0x7B, _, rfl, by decide, by decide⟩
  reads rest _ := by
    rw [encode_object, commaSeparated, encode_member, recordWithOption, skipBlank_cons (by decide)]
    obtain ⟨fuel, hfuel⟩ : ∃ n, (Utf8.encode (quote name) ++
        0x3A :: (Utf8.encode text ++ 0x7D :: rest)).length = n + 1 :=
      ⟨_, by rw [encode_quote, List.length_cons]⟩
    simp only [hfuel]
    rw [members_first (some a, none) (0x7D :: rest), members_close]
    · rfl
    · rw [if_pos rfl, field_colon (h.reads _ (Stops.brace rest))]
      rfl

theorem Reads.withOption (hne : name' ≠ name) (h : Reads item text a)
    (h' : Reads (Json.nullable item') text' (some b)) :
    Reads (recordWithOption name item name' item')
      ('\x7b' :: (commaSeparated [quote name' ++ ':' :: text', quote name ++ ':' :: text] ++
        ['\x7d'])) (a, some b) where
  starts := ⟨0x7B, _, rfl, by decide, by decide⟩
  reads rest _ := by
    have hcomma : Utf8.encodeChar ',' = [0x2C] := by decide
    rw [encode_object, commaSeparated, commaSeparated, Utf8.encode_append, Utf8.encode_cons, hcomma,
      List.append_assoc, encode_member, List.append_assoc, List.singleton_append,
      encode_member, recordWithOption, skipBlank_cons (by decide)]
    · -- both keys and the end of the object take a step
      obtain ⟨fuel, hfuel⟩ : ∃ n, (Utf8.encode (quote name') ++ 0x3A :: (Utf8.encode text' ++
          0x2C :: (Utf8.encode (quote name) ++
            0x3A :: (Utf8.encode text ++ 0x7D :: rest)))).length = n + 1 + 1 :=
        ⟨_, by rw [encode_quote, List.length_cons, List.length_append, List.length_cons,
          ← Nat.add_assoc]⟩
      simp only [hfuel]
      rw [members_first (none, some (some b)), members_comma (some a, some (some b)) (0x7D :: rest),
        members_close]
      · rfl
      · rw [if_pos rfl, field_colon (h.reads _ (Stops.brace rest))]
        rfl
      · rw [if_neg hne, if_pos rfl, field_colon (h'.reads _ (Stops.comma _))]
        rfl
    · exact List.cons_ne_nil _ _

end Optional

/-- What a reader takes from a whole text is the value of the text. -/
theorem Reads.decode {text : List Char} {a : α} (h : Reads item text a) :
    decode item (Utf8.encode text) = .ok a := by
  have hread := h.reads [] Stops.nil
  rw [List.append_nil] at hread
  rw [Json.decode, hread]
  rfl

end HostWatch.Json
