import HostWatch.Proofs.Counter.Saved

/-!
# Names in front of counters

Caches with different names can stand over the same entries, in one memory or one after the other
over one file. What keeps them apart is the full key: the name, a colon and the key. Nothing keeps
colons out of names, and the hostname of an IPv6 address has some, so the full key does not tell
where the name ends: two names and two keys come to one full key if one name goes on behind the
other one and a colon, with what is then missing from its key (`fullKey_eq_iff`).

In this case and in no other is a counter that is written through one cache seen through the other
(`unseen_iff`). So caches are kept apart if no name has a colon, whatever the hostnames are
(`unseen_of_names`), and if no hostname has one, whatever the names are (`unseen_of_keys`).
-/

namespace HostWatch.CounterStore

variable {a b k l : String}

/-! ### Full keys -/

/-- The name `b` goes on behind the name `a` and a colon, and the key `k` begins with what `b` goes on
with and another colon, behind which it is the key `l`. -/
def Continues (a k b l : String) : Prop :=
  ∃ m, b = a ++ ":" ++ m ∧ k = m ++ ":" ++ l

theorem Continues.fullKey_eq (h : Continues a k b l) : fullKey a k = fullKey b l := by
  obtain ⟨m, rfl, rfl⟩ := h
  simp only [fullKey, String.append_assoc]

theorem toList_fullKey (name key : String) :
    (fullKey name key).toList = name.toList ++ ':' :: key.toList := by
  simp [fullKey]

/-- Where a text in front is longer, it goes on with the sign and a part of what follows the other
one. -/
theorem continues_of_append {as : List Char} (hb : b.toList = a.toList ++ as)
    (hk : ':' :: k.toList = as ++ ':' :: l.toList) : (a = b ∧ k = l) ∨ Continues a k b l := by
  cases as with
  | nil =>
    left
    simp only [List.append_nil, List.nil_append, List.cons.injEq, true_and] at hb hk
    exact ⟨String.toList_inj.mp hb.symm, String.toList_inj.mp hk⟩
  | cons c m =>
    right
    simp only [List.cons_append, List.cons.injEq] at hk
    obtain ⟨rfl, hk⟩ := hk
    refine ⟨String.ofList m, String.toList_inj.mp ?_, String.toList_inj.mp ?_⟩
    · simp [hb]
    · simp [hk]

/-- Two names and keys come to one full key only if they are the same, or one name goes on behind the
other. -/
theorem fullKey_eq_iff : fullKey a k = fullKey b l ↔
    (a = b ∧ k = l) ∨ Continues a k b l ∨ Continues b l a k := by
  constructor
  · intro h
    have hlist := congrArg String.toList h
    rw [toList_fullKey, toList_fullKey, List.append_eq_append_iff] at hlist
    rcases hlist with ⟨as, hb, hk⟩ | ⟨as, ha, hl⟩
    · exact (continues_of_append hb hk).imp_right .inl
    · exact (continues_of_append ha hl).imp (fun ⟨h, h'⟩ => ⟨h.symm, h'.symm⟩) .inr
  · rintro (⟨rfl, rfl⟩ | h | h)
    · rfl
    · exact h.fullKey_eq
    · exact h.fullKey_eq.symm

/-- No name goes on behind itself. -/
theorem not_continues_self (a k l : String) : ¬ Continues a k a l := by
  rintro ⟨m, hm, -⟩
  have hlength := congrArg String.length hm
  have hcolon : ":".length = 1 := rfl
  simp only [String.length_append, hcolon] at hlength
  omega

/-! ### Several names over the same entries -/

/-- The entries and the file of a store under another name. -/
def named (name : String) (s : CounterStore) : CounterStore :=
  { s with name }

theorem get_named (s : CounterStore) (name : String) (t : Nat) (key : String) :
    (s.named name).get t key = answer key (textAt t s.entries (fullKey name key)) :=
  get_eq _ t key

/-- A write puts an entry under its full key, or fails and leaves the store as it was. -/
theorem access_set_cases (now : Nat) (key : String) (n : Int64) (life : Lifetime)
    (s : CounterStore) : ((access now).set key n life s).2 = s ∨
      s.setText now key (format n) life = .ok ((access now).set key n life s).2 := by
  simp only [access, CounterStore.set]
  cases hset : s.setText now key (format n) life with
  | ok t => exact .inr rfl
  | error e => exact .inl rfl

/-- Under another full key the same is read after a write as before. -/
theorem textAt_access_set (hne : fullKey a k ≠ fullKey b l) (s : CounterStore) (hname : s.name = a)
    (now : Nat) (n : Int64) (life : Lifetime) (t : Nat) :
    textAt t ((access now).set k n life s).2.entries (fullKey b l) =
      textAt t s.entries (fullKey b l) := by
  rcases access_set_cases now k n life s with hsame | hset
  · rw [hsame]
  · obtain ⟨-, hentries⟩ := setText_eq hset
    rw [hentries, hname, textAt_insert, if_neg hne.symm]

/-! ### One name after the other over a file -/

/-- The file of a store that is opened under any name reads what the memory does. -/
theorem Saved.reopen {now reopened : Nat} {s : CounterStore} {f : SnapshotFile}
    {m : Keyed CounterEntry} (h : Saved now s f m) (hle : now ≤ reopened) (name : String) :
    ∃ r, CounterStore.openFile reopened name f = .ok r ∧ ∀ t, reopened ≤ t → t < lastInstant → ∀ key,
      r.get t key = answer key (textAt t s.entries (fullKey name key)) := by
  have hordered : m.Ordered := SnapshotFile.ordered_of_contents h.contents
  refine ⟨_, openFile_eq_ok.mpr ⟨m, h.contents, rfl⟩, ?_⟩
  intro t ht hlast key
  rw [get_eq, sameFrom_stillValid hordered t ht hlast,
    ← h.same t (Nat.le_trans hle ht) hlast]

/-- A write through a store that is backed by a file leaves it backed by a file. -/
theorem Saved.access_set {now : Nat} {s : CounterStore} {f : SnapshotFile}
    {m : Keyed CounterEntry} (h : Saved now s f m) (key : String) (n : Int64) (life : Lifetime) :
    ∃ f' m', Saved now ((access now).set key n life s).2 f' m' := by
  rcases access_set_cases now key n life s with hsame | hset
  · rw [hsame]
    exact ⟨f, m, h⟩
  · exact h.setText hset

/-! ### What is seen of a write -/

/-- No write of a counter under the key `k` through the cache named `a`, whether it succeeds or
fails, changes what is read under the key `l` through the cache named `b`. -/
structure Unseen (a k b l : String) : Prop where
  /-- Both caches stand over the same entries, whatever they are. -/
  memory : ∀ (s : CounterStore) (now : Nat) (n : Int64) (life : Lifetime) (later : Nat),
    (((access now).set k n life (s.named a)).2.named b).get later l = (s.named b).get later l
  /-- The one cache was opened from a file, whatever it holds, and then the other one is. The file
  that the first one leaves can be opened. -/
  file : ∀ (f : SnapshotFile) (s : CounterStore) (opened now reopened later : Nat) (n : Int64)
    (life : Lifetime), openFile opened a f = .ok s → opened ≤ now → now ≤ reopened →
    reopened ≤ later → later < lastInstant →
    ∃ f' r r', ((access now).set k n life s).2.file = some f' ∧
      openFile reopened b f = .ok r ∧ openFile reopened b f' = .ok r' ∧
      r'.get later l = r.get later l

theorem unseen_of_fullKey_ne (hne : fullKey a k ≠ fullKey b l) : Unseen a k b l where
  memory s now n life later := by
    rw [get_named, get_named, textAt_access_set hne _ rfl]
    rfl
  file f s opened now reopened later n life hopen hnow hreopened hlater hlast := by
    have hname : s.name = a := by
      obtain ⟨m, -, rfl⟩ := openFile_eq_ok.mp hopen
      rfl
    obtain ⟨m, hsaved⟩ := Saved.openFile hopen
    obtain ⟨f', m', hwritten⟩ := (hsaved.mono hnow).access_set k n life
    obtain ⟨r, hr, hreads⟩ := hsaved.reopen (Nat.le_trans hnow hreopened) b
    obtain ⟨r', hr', hreads'⟩ := hwritten.reopen hreopened b
    refine ⟨f', r, r', hwritten.file, hr, hr', ?_⟩
    rw [hreads later hlater hlast, hreads' later hlater hlast, textAt_access_set hne s hname]

/-- What is written under a full key is read under it, also through another name. -/
theorem Unseen.fullKey_ne (h : Unseen a k b l) : fullKey a k ≠ fullKey b l := by
  intro heq
  have hmemory := h.memory ⟨a, [], none⟩ 0 1 .unlimited 0
  have hwritten : ((access 0).set k 1 .unlimited ((⟨a, [], none⟩ : CounterStore).named a)).2 =
      ⟨a, [(fullKey a k, ⟨format 1, none⟩)], none⟩ := rfl
  have hentry : textAt 0 [(fullKey b l, ⟨format 1, none⟩)] (fullKey b l) = some (format 1) := by
    rw [textAt, Keyed.get?_cons, if_pos rfl]
    rfl
  have hread : (CounterStore.named b ⟨a, [(fullKey a k, ⟨format 1, none⟩)], none⟩).get 0 l =
      .ok 1 := by
    rw [get_named, heq, hentry, answer, parse?_format]
    rfl
  have hempty : (CounterStore.named b ⟨a, [], none⟩).get 0 l = .ok 0 := rfl
  rw [hwritten, hread, hempty] at hmemory
  exact absurd hmemory (by decide)

/-- What is written under one of two names and keys is unseen under the other, unless they are the
same, or one name goes on behind the other. -/
theorem unseen_of_not_continues (hdiff : ¬ (a = b ∧ k = l)) (hab : ¬ Continues a k b l)
    (hba : ¬ Continues b l a k) : Unseen a k b l := by
  refine unseen_of_fullKey_ne fun heq => ?_
  rcases fullKey_eq_iff.mp heq with h | h | h
  · exact hdiff h
  · exact hab h
  · exact hba h

/-- What is written through one cache is unseen through another one, or under another key, unless
one name goes on behind the other one with a part of its key. -/
theorem unseen_iff (a k b l : String) : Unseen a k b l ↔
    ¬ (a = b ∧ k = l) ∧ ¬ Continues a k b l ∧ ¬ Continues b l a k := by
  constructor
  · intro h
    have hne := h.fullKey_ne
    rw [Ne, fullKey_eq_iff, not_or, not_or] at hne
    exact hne
  · rintro ⟨hdiff, hab, hba⟩
    exact unseen_of_not_continues hdiff hab hba

/-! ### Names and hostnames without colons -/

/-- A name or a key without a colon goes on behind nothing. -/
theorem not_continues (h : ':' ∉ b.toList ∨ ':' ∉ k.toList) : ¬ Continues a k b l := by
  rintro ⟨m, rfl, rfl⟩
  simp at h

/-- Different names without colons keep their counters apart, whatever the keys are. -/
theorem unseen_of_names (ha : ':' ∉ a.toList) (hb : ':' ∉ b.toList) (hne : a ≠ b) (k l : String) :
    Unseen a k b l :=
  unseen_of_not_continues (fun h => hne h.1) (not_continues (.inl hb)) (not_continues (.inl ha))

/-- Different names keep the counters of hostnames without colons apart. -/
theorem unseen_of_keys (hk : ':' ∉ k.toList) (hl : ':' ∉ l.toList) (hne : a ≠ b) :
    Unseen a k b l :=
  unseen_of_not_continues (fun h => hne h.1) (not_continues (.inr hk)) (not_continues (.inr hl))

/-- Through one cache a write changes what is read under its own key only. -/
theorem unseen_of_key (name : String) (hne : k ≠ l) : Unseen name k name l :=
  unseen_of_not_continues (fun h => hne h.2) (not_continues_self name k l)
    (not_continues_self name l k)

/-- Five timeouts of the host `[1:2::3]`, counted in the cache `down`, are read as those of the host
`[2::3]` in the cache `down:1`, which is opened from the same file. -/
theorem seen_across_names :
    (openAt 0 "down:1" (some {})).toOption.map (·.get 0 "2::3") = some (.ok 0) ∧
      (openAt 0 "down:1" ((access 0).set "1:2::3" 5 .unlimited
        ⟨"down", [], some {}⟩).2.file).toOption.map (·.get 0 "2::3") = some (.ok 5) := by
  decide +kernel

end HostWatch.CounterStore
