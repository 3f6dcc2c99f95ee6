import HostWatch.Proofs.Json.RoundTrip

/-!
# Objects read back

An object whose members are all of one type is read member by member, and each member is put
under its key among those that have been read (`Keyed.insert`). So what is read is in order of
the keys (`ordered_of_map`), and members that are written in that order are read back as they were
written (`Reads.map`).
-/

namespace HostWatch

namespace Keyed

variable {α : Type} {m : Keyed α} {key : String} {value : α}

/-- The keys are in strictly ascending order. -/
def Ordered (m : Keyed α) : Prop :=
  m.Pairwise fun a b => a.1 < b.1

theorem Ordered.nil : Ordered ([] : Keyed α) := List.Pairwise.nil

/-- What is there after a value was put under a key was there before, or is that value. -/
theorem mem_insert {e : String × α} (h : e ∈ insert key value m) : e = (key, value) ∨ e ∈ m := by
  induction m with
  | nil => exact .inl (List.mem_singleton.mp h)
  | cons f rest ih =>
    obtain ⟨k, v⟩ := f
    rw [insert] at h
    split_ifs at h
    · rcases List.mem_cons.mp h with rfl | h
      · exact .inl rfl
      · exact .inr (List.mem_cons_of_mem _ h)
    · rcases List.mem_cons.mp h with rfl | h
      · exact .inl rfl
      · exact .inr h
    · rcases List.mem_cons.mp h with rfl | h
      · exact .inr List.mem_cons_self
      · exact (ih h).imp id (List.mem_cons_of_mem _)

/-- Keys stay in order when a value is put under one. -/
theorem Ordered.insert (h : Ordered m) (key : String) (value : α) :
    Ordered (Keyed.insert key value m) := by
  induction m with
  | nil => exact List.pairwise_singleton _ _
  | cons f rest ih =>
    obtain ⟨k, v⟩ := f
    obtain ⟨hhead, hrest⟩ := List.pairwise_cons.mp h
    rw [Keyed.insert]
    split_ifs with heq hlt
    · subst heq
      exact List.pairwise_cons.mpr ⟨hhead, hrest⟩
    · refine List.pairwise_cons.mpr ⟨fun e he => ?_, h⟩
      rcases List.mem_cons.mp he with rfl | he
      · exact hlt
      · exact String.lt_trans hlt (hhead e he)
    · refine List.pairwise_cons.mpr ⟨fun e he => ?_, ih hrest⟩
      rcases mem_insert he with rfl | he
      · exact Std.lt_of_le_of_ne (String.not_lt.mp hlt) (Ne.symm heq)
      · exact hhead e he

/-- A value under a key behind all others is put at the end. -/
theorem insert_of_forall_lt (h : ∀ e ∈ m, e.1 < key) :
    Keyed.insert key value m = m ++ [(key, value)] := by
  induction m with
  | nil => rfl
  | cons f rest ih =>
    obtain ⟨k, v⟩ := f
    have hlt : k < key := h (k, v) List.mem_cons_self
    have hne : key ≠ k := by
      rintro rfl
      exact String.lt_irrefl _ hlt
    rw [Keyed.insert, if_neg hne, if_neg (String.lt_asymm hlt),
      ih fun e he => h e (List.mem_cons_of_mem _ he)]
    rfl

/-- Entries that are in order are put at the end, one after another. -/
theorem foldl_insert_of_ordered {before : Keyed α} (h : Ordered (before ++ m)) :
    m.foldl (fun m e => Keyed.insert e.1 e.2 m) before = before ++ m := by
  induction m generalizing before with
  | nil => exact (List.append_nil before).symm
  | cons e rest ih =>
    have hlast : ∀ f ∈ before, f.1 < e.1 := fun f hf =>
      (List.pairwise_append.mp h).2.2 f hf e List.mem_cons_self
    rw [List.append_cons] at h
    rw [List.foldl_cons, insert_of_forall_lt hlast, ih h, ← List.append_cons]

/-- Entries that are in order are the entries of the list that they are. -/
theorem ofEntries_of_ordered (h : Ordered m) : ofEntries m = m :=
  foldl_insert_of_ordered h

/-! ### Values dropped and changed -/

theorem Ordered.filter (h : Ordered m) (p : String × α → Bool) : Ordered (m.filter p) :=
  List.Pairwise.filter p h

theorem Ordered.map {β : Type} (h : Ordered m) (f : α → β) :
    Ordered (m.map fun e => (e.1, f e.2)) :=
  List.pairwise_map.mpr h

theorem get?_eq_none (h : ∀ e ∈ m, e.1 ≠ key) : get? m key = none := by
  induction m with
  | nil => rfl
  | cons e m ih =>
    rw [get?_cons, if_neg fun heq => h e List.mem_cons_self heq.symm,
      ih fun f hf => h f (List.mem_cons_of_mem _ hf)]

/-- Where the keys are in order, dropping values drops them under their keys and nothing else. -/
theorem get?_filter (hm : Ordered m) (p : α → Bool) (key : String) :
    get? (m.filter fun e => p e.2) key = (get? m key).filter p := by
  induction m with
  | nil => rfl
  | cons e m ih =>
    obtain ⟨k, v⟩ := e
    obtain ⟨hhead, hrest⟩ := List.pairwise_cons.mp hm
    rw [List.filter_cons, get?_cons]
    by_cases hp : p v = true
    · rw [if_pos hp, get?_cons, ih hrest]
      split_ifs
      · rw [Option.filter_some_pos hp]
      · rfl
    · rw [if_neg hp, ih hrest]
      split_ifs with hk
      · -- the keys behind are larger, so nothing else is there under this one
        have hlater : get? m key = none :=
          get?_eq_none fun f hf heq => String.lt_irrefl k (by
            have hlt := hhead f hf
            rwa [heq, hk] at hlt)
        rw [hlater, Option.filter_some_neg (Bool.eq_false_iff.mpr hp)]
        rfl
      · rfl

theorem get?_map {β : Type} (m : Keyed α) (f : α → β) (key : String) :
    get? (m.map fun e => (e.1, f e.2)) key = (get? m key).map f := by
  induction m with
  | nil => rfl
  | cons e m ih =>
    rw [List.map_cons, get?_cons, get?_cons, ih]
    split_ifs <;> rfl

end Keyed

namespace Json

variable {α : Type} {item : Reader α} {write : α → Value}

/-- Read a member and put its value under its key. -/
def mapMember (item : Reader α) (key : String) (acc : Keyed α) : Reader (Keyed α) := fun bs => do
  let (a, rest) ← item (← colon bs)
  return (Keyed.insert key a acc, rest)

/-- The text of a member. -/
def memberText (write : α → Value) (e : String × α) : List Char :=
  quote e.1 ++ ':' :: (write e.2).compact

theorem compactMembers_map (m : Keyed α) :
    compactMembers (m.map fun e => (e.1, write e.2)) = m.map (memberText write) := by
  induction m with
  | nil => rfl
  | cons e m ih =>
    rw [List.map_cons, compactMembers, ih, List.map_cons]
    rfl

/-! ### Keys -/

theorem mapMember_colon {a : α} {text : List Char} (h : Reads item text a) (key : String)
    (acc : Keyed α) {rest : Bytes} (hrest : Stops rest) :
    mapMember item key acc (0x3A :: (Utf8.encode text ++ rest)) =
      .ok (Keyed.insert key a acc, rest) := by
  simp only [mapMember, colon_cons, bind, Except.bind, h.reads rest hrest]
  rfl

/-! ### Members -/

/-- What goes on behind a member stops its value. -/
theorem stops_members (m : Keyed α) (rest : Bytes) :
    Stops (Utf8.encode (m.flatMap fun e => ',' :: memberText write e) ++ 0x7D :: rest) := by
  cases m with
  | nil => exact Stops.brace rest
  | cons e m => exact Stops.comma _

/-- The members behind the first one are read, each behind its comma. -/
theorem members_more {m : Keyed α} (h : ∀ e ∈ m, Reads item (write e.2).compact e.2)
    (acc : Keyed α) (rest : Bytes) {fuel : Nat} (hf : m.length < fuel) :
    members (mapMember item) fuel false acc
      (Utf8.encode (m.flatMap fun e => ',' :: memberText write e) ++ 0x7D :: rest) =
      .ok (m.foldl (fun m e => Keyed.insert e.1 e.2 m) acc, rest) := by
  induction m generalizing acc fuel with
  | nil =>
    obtain ⟨fuel, rfl⟩ : ∃ n, fuel = n + 1 := ⟨fuel - 1, by simp at hf; omega⟩
    rfl
  | cons e m ih =>
    obtain ⟨fuel, rfl⟩ : ∃ n, fuel = n + 1 := ⟨fuel - 1, by simp at hf; omega⟩
    have hcomma : Utf8.encodeChar ',' = [0x2C] := by decide
    rw [List.flatMap_cons, Utf8.encode_append, Utf8.encode_cons, hcomma, List.append_assoc,
      List.singleton_append, List.cons_append, memberText, encode_member,
      members_comma _ _ (mapMember_colon (h e List.mem_cons_self) e.1 acc (stops_members m rest))]
    exact ih (fun f hm => h f (List.mem_cons_of_mem _ hm)) (Keyed.insert e.1 e.2 acc)
      (by simpa using hf)

theorem members_all {m : Keyed α} (h : ∀ e ∈ m, Reads item (write e.2).compact e.2) (rest : Bytes)
    {fuel : Nat} (hf : m.length < fuel) :
    members (mapMember item) fuel true []
      (Utf8.encode (commaSeparated (m.map (memberText write))) ++ 0x7D :: rest) =
      .ok (Keyed.ofEntries m, rest) := by
  obtain ⟨fuel, rfl⟩ : ∃ n, fuel = n + 1 := ⟨fuel - 1, by omega⟩
  cases m with
  | nil => rfl
  | cons e m =>
    have hflat : (m.map (memberText write)).flatMap (',' :: ·) =
        m.flatMap fun e => ',' :: memberText write e := List.flatMap_map _ _ _
    rw [List.map_cons, commaSeparated_cons, hflat, Utf8.encode_append, List.append_assoc,
      memberText, encode_member,
      members_first _ _ (mapMember_colon (h e List.mem_cons_self) e.1 [] (stops_members m rest))]
    exact members_more (fun f hm => h f (List.mem_cons_of_mem _ hm)) _ rest (by simpa using hf)

/-- An object has at least as many octets as members. -/
theorem length_le_encode_members (write : α → Value) (m : Keyed α) :
    m.length ≤ (Utf8.encode (commaSeparated (m.map (memberText write)))).length := by
  cases m with
  | nil => exact Nat.zero_le _
  | cons e m =>
    have hmore := length_le_encode_more (m.map (memberText write))
    rw [List.map_cons, commaSeparated_cons, Utf8.encode_append, memberText, encode_member,
      encode_quote]
    rw [List.length_map] at hmore
    simp only [List.length_append, List.length_cons]
    omega

/-- An object whose members are in order of their keys reads back if their values do. -/
theorem Reads.map {m : Keyed α} (h : ∀ e ∈ m, Reads item (write e.2).compact e.2)
    (hm : m.Ordered) :
    Reads (map item) (Value.object (m.map fun e => (e.1, write e.2))).compact m := by
  have hopen : Utf8.encodeChar '{' = [0x7B] := by decide
  rw [Value.compact, compactMembers_map]
  refine ⟨⟨0x7B, _, by rw [Utf8.encode_cons, hopen]; rfl, by decide, by decide⟩, fun rest _ => ?_⟩
  have hlen := length_le_encode_members write m
  have hall : ∀ {fuel}, m.length < fuel → members (mapMember item) fuel true []
      (Utf8.encode (commaSeparated (m.map (memberText write))) ++ 0x7D :: rest) =
      .ok (m, rest) := by
    intro fuel hfuel
    rw [members_all h rest hfuel, Keyed.ofEntries_of_ordered hm]
  rw [encode_object, Json.map, skipBlank_cons (by decide)]
  refine hall ?_
  simp only [List.length_append, List.length_cons]
  omega

/-! ### What is read is in order -/

/-- What every member that is read preserves holds of what is read. -/
theorem members_induction {σ : Type} {member : String → σ → Reader σ} {P : σ → Prop}
    (step : ∀ {key acc bs acc' rest}, P acc → member key acc bs = .ok (acc', rest) → P acc')
    {fuel : Nat} {first : Bool} {acc acc' : σ} {bs rest : Bytes} (hacc : P acc)
    (h : members member fuel first acc bs = .ok (acc', rest)) : P acc' := by
  induction fuel generalizing first acc bs with
  | zero => cases h
  | succ fuel ih =>
    rw [members] at h
    cases hkey : nextKey first bs with
    | error fault => simp [hkey, bind, Except.bind] at h
    | ok p =>
      obtain ⟨key, after⟩ := p
      cases key with
      | none =>
        simp only [hkey, bind, Except.bind, pure, Except.pure, Except.ok.injEq,
          Prod.mk.injEq] at h
        exact h.1 ▸ hacc
      | some key =>
        cases hmember : member key acc after with
        | error fault => simp [hkey, hmember, bind, Except.bind] at h
        | ok q =>
          obtain ⟨acc₁, after₁⟩ := q
          simp only [hkey, hmember, bind, Except.bind] at h
          exact ih (step hacc hmember) h

theorem ordered_of_mapMember {key : String} {acc acc' : Keyed α} {bs rest : Bytes}
    (hacc : acc.Ordered) (h : mapMember item key acc bs = .ok (acc', rest)) : acc'.Ordered := by
  unfold mapMember at h
  cases hcolon : colon bs with
  | error fault => simp [hcolon, bind, Except.bind] at h
  | ok after =>
    cases hitem : item after with
    | error fault => simp [hcolon, hitem, bind, Except.bind] at h
    | ok p =>
      simp only [hcolon, hitem, bind, Except.bind, pure, Except.pure, Except.ok.injEq,
        Prod.mk.injEq] at h
      exact h.1 ▸ hacc.insert key p.1

/-- An object is read in order of its keys. -/
theorem ordered_of_map {m : Keyed α} {bs rest : Bytes} (h : map item bs = .ok (m, rest)) :
    m.Ordered := by
  unfold Json.map at h
  split at h
  · cases h
  · exact members_induction ordered_of_mapMember Keyed.Ordered.nil h
  · cases h

theorem ordered_of_decode {m : Keyed α} {bs : Bytes} (h : decode (map item) bs = .ok m) :
    m.Ordered := by
  rw [decode] at h
  cases hmap : map item bs with
  | error fault => simp [hmap, bind, Except.bind] at h
  | ok p =>
    obtain ⟨m', rest⟩ := p
    simp only [hmap, bind, Except.bind] at h
    split at h
    · simp only [pure, Except.pure, Except.ok.injEq] at h
      exact h ▸ ordered_of_map hmap
    · cases h

end Json

end HostWatch
