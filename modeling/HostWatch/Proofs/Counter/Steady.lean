import HostWatch.Counter.Store
import Mathlib.Tactic.SplitIfs

/-!
# Counters that do not expire

A counter is steady if it is read as the same number at every instant: it is absent,
which reads as 0, or it was written without an expiry. A counter that is written
without an expiry is steady from then on, and all other counters read as before.
-/

namespace HostWatch

/-! ### Counting up -/

/-- The next count is one more, and is not beyond the largest number. -/
theorem toInt_of_nextCount? {n count : Int64} (h : nextCount? n = some count) :
    count.toInt = n.toInt + 1 := by
  unfold nextCount? at h
  split_ifs at h with hmax
  have hne : n.toInt ≠ Int64.maxValue.toInt := fun e => hmax (Int64.toInt_inj.mp e)
  have hle := Int64.toInt_le n
  have hge := Int64.le_toInt n
  rw [Int64.toInt_maxValue] at hne hle
  have hone : (1 : Int64).toInt = 1 := by decide
  rw [Option.some.injEq] at h
  rw [← h, Int64.toInt_add, hone]
  exact Int.bmod_eq_of_le (by omega) (by omega)

namespace CounterStore

/-! ### Keys and texts -/

theorem parse?_format (n : Int64) : parse? (format n) = some n := by
  have hint : Decimal.int? (format n).toList = some n.toInt := by
    rw [format, String.toList_ofList, Decimal.int?_ofInt]
  rw [parse?, hint]
  simp only [Option.bind_eq_bind, Option.bind_some]
  rw [if_pos ⟨Int64.minValue_le_toInt n, Int64.toInt_le n⟩, Int64.ofInt_toInt]

theorem fullKey_inj {name key key' : String} :
    fullKey name key = fullKey name key' ↔ key = key' := by
  rw [fullKey, fullKey, String.append_right_inj]

/-- What is in memory after a text was written. -/
theorem setText_eq {now : Nat} {key text : String} {life : Lifetime} {s t : CounterStore}
    (h : s.setText now key text life = .ok t) : t.name = s.name ∧
      t.entries = s.entries.insert (fullKey s.name key) ⟨text, expiry now life⟩ := by
  unfold setText at h
  simp only at h
  split at h
  · cases h
    exact ⟨rfl, rfl⟩
  · split at h
    · cases h
      exact ⟨rfl, rfl⟩
    · cases h

/-! ### What entries read -/

/-- The text that entries read at an instant under a full key. -/
def textAt (t : Nat) (m : Keyed CounterEntry) (full : String) : Option String :=
  ((m.get? full).filter (·.isLive t)).map (·.value)

/-- What a counter is read as, given the text under its key. -/
def answer (key : String) : Option String → Except CounterError Int64
  | none => .ok 0
  | some text => (parse? text).elim (.error (.notAnInteger key)) .ok

theorem get_eq (s : CounterStore) (t : Nat) (key : String) :
    s.get t key = answer key (textAt t s.entries (fullKey s.name key)) := by
  unfold get getText? answer textAt
  cases ((s.entries.get? (fullKey s.name key)).filter (·.isLive t)).map (·.value) with
  | none => rfl
  | some text => cases hparse : parse? text <;> simp only [hparse] <;> rfl

/-- What is put under a key is read there until it expires, and all else as before. -/
theorem textAt_insert (t : Nat) (m : Keyed CounterEntry) (full : String) (e : CounterEntry)
    (full' : String) : textAt t (Keyed.insert full e m) full' =
      if full' = full then (if e.isLive t then some e.value else none) else textAt t m full' := by
  rw [textAt, Keyed.get?_insert]
  split_ifs with hkey hlive
  · rw [Option.filter_some_pos hlive]
    rfl
  · rw [Option.filter_some_neg (Bool.eq_false_iff.mpr hlive)]
    rfl
  · rfl

/-- A counter under a key at which a number is put is read as the number until it expires, and every
other counter as before. -/
theorem answer_insert (t : Nat) (m : Keyed CounterEntry) (name key : String) (n : Int64)
    (deadline : Option Nat) (key' : String) :
    answer key' (textAt t (Keyed.insert (fullKey name key) ⟨format n, deadline⟩ m)
        (fullKey name key')) =
      if key' = key then .ok (if deadline.all (t < ·) then n else 0)
      else answer key' (textAt t m (fullKey name key')) := by
  rw [textAt_insert]
  simp only [fullKey_inj]
  by_cases hkey : key' = key
  · rw [if_pos hkey, if_pos hkey, CounterEntry.isLive]
    split_ifs
    · rw [answer, parse?_format]
      rfl
    · rfl
  · rw [if_neg hkey, if_neg hkey]

/-- A text that is written without an expiry is read at any instant, and all else as before. -/
theorem getText?_set {now : Nat} {key : String} {n : Int64} {s t : CounterStore}
    (h : s.set now key n .unlimited = .ok t) (now' : Nat) (key' : String) :
    t.getText? now' key' = if key' = key then some (format n) else s.getText? now' key' := by
  obtain ⟨hname, hentries⟩ := setText_eq h
  show textAt now' t.entries (fullKey t.name key') = _
  rw [hname, hentries, textAt_insert]
  simp only [fullKey_inj]
  rfl

/-- A counter that is written without an expiry is read at any instant, and all else as before. -/
theorem get_set {now : Nat} {key : String} {n : Int64} {s t : CounterStore}
    (h : s.set now key n .unlimited = .ok t) (now' : Nat) (key' : String) :
    t.get now' key' = if key' = key then .ok n else s.get now' key' := by
  obtain ⟨hname, hentries⟩ := setText_eq h
  rw [get_eq, hname, hentries, answer_insert, get_eq]
  rfl

/-- The counter under a key is read as the same number at every instant. -/
def Steady (s : CounterStore) (key : String) (n : Int64) : Prop :=
  ∀ now, s.get now key = .ok n

theorem Steady.eq {s : CounterStore} {key : String} {n m : Int64} {now : Nat}
    (h : s.Steady key n) (hm : s.get now key = .ok m) : m = n := by
  rw [h now] at hm
  cases hm
  rfl

theorem Steady.set {s t : CounterStore} {now : Nat} {key : String} {n : Int64}
    (h : s.set now key n .unlimited = .ok t) : t.Steady key n := fun now' => by
  rw [get_set h, if_pos rfl]

theorem Steady.set_of_ne {s t : CounterStore} {now : Nat} {key key' : String} {n m : Int64}
    (hm : s.Steady key' m) (h : s.set now key n .unlimited = .ok t) (hk : key' ≠ key) :
    t.Steady key' m := fun now' => by
  rw [get_set h, if_neg hk, hm now']

end CounterStore

end HostWatch
