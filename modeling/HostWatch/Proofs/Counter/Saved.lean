import HostWatch.Proofs.Counter.Steady
import HostWatch.Proofs.Counter.StoreFile
import HostWatch.Proofs.Storage.Replaceable

/-!
# Counters in memory and in the file

What the memory and the file hold differs: an entry that has expired stays in the one until it is
purged, and in the other until the next write. What counts is what they read from an instant on
(`SameFrom`). Entries that have expired by then can be dropped without a difference, and so the file
reads the same as the memory after each operation (`Saved`): a write replaces both
(`Saved.setText`), a purge drops from the one what does not read (`Saved.purge`), and opening the
file again brings back what reads (`Saved.reload`).
-/

namespace HostWatch

namespace CounterStore

/-! ### Entries that do not read -/

/-- Entries that do not read can be dropped. -/
theorem textAt_filter {t : Nat} {m : Keyed CounterEntry} (hm : m.Ordered) {p : CounterEntry → Bool}
    (hp : ∀ e : CounterEntry, e.isLive t = true → p e = true) (full : String) :
    textAt t (m.filter fun e => p e.2) full = textAt t m full := by
  have hboth : (fun e => p e && e.isLive t) = fun e : CounterEntry => e.isLive t :=
    funext fun e => by
      cases hlive : e.isLive t with
      | false => rw [Bool.and_false]
      | true => rw [hp e hlive, Bool.and_true]
  rw [textAt, Keyed.get?_filter hm, Option.filter_filter, hboth, textAt]

theorem textAt_capped {t : Nat} (ht : t < lastInstant) (m : Keyed CounterEntry) (full : String) :
    textAt t (m.map fun e => (e.1, e.2.capped)) full = textAt t m full := by
  rw [textAt, Keyed.get?_map, textAt]
  cases m.get? full with
  | none => rfl
  | some e =>
    simp only [Option.map_some, Option.filter_some, CounterEntry.isLive_capped ht]
    split <;> rfl

/-- What has not expired had not expired before. -/
theorem isLive_of_le {now t : Nat} (h : now ≤ t) {e : CounterEntry} (he : e.isLive t = true) :
    e.isLive now = true := by
  obtain ⟨value, deadline⟩ := e
  cases deadline with
  | none => rfl
  | some d =>
    simp only [CounterEntry.isLive, Option.all_some, decide_eq_true_eq] at he ⊢
    omega

/-! ### Entries that read the same -/

/-- Entries read the same from an instant on, as long as files can hold the instants. -/
def SameFrom (now : Nat) (m m' : Keyed CounterEntry) : Prop :=
  ∀ t, now ≤ t → t < lastInstant → ∀ full, textAt t m full = textAt t m' full

section SameFrom

variable {now later : Nat} {m m' m'' : Keyed CounterEntry}

theorem SameFrom.refl (now : Nat) (m : Keyed CounterEntry) : SameFrom now m m :=
  fun _ _ _ _ => rfl

theorem SameFrom.symm (h : SameFrom now m m') : SameFrom now m' m :=
  fun t ht hlast full => (h t ht hlast full).symm

theorem SameFrom.trans (h : SameFrom now m m') (h' : SameFrom now m' m'') : SameFrom now m m'' :=
  fun t ht hlast full => (h t ht hlast full).trans (h' t ht hlast full)

theorem SameFrom.mono (h : SameFrom now m m') (hle : now ≤ later) : SameFrom later m m' :=
  fun t ht => h t (Nat.le_trans hle ht)

theorem SameFrom.insert (h : SameFrom now m m') (full : String) (e : CounterEntry) :
    SameFrom now (Keyed.insert full e m) (Keyed.insert full e m') := by
  intro t ht hlast full'
  rw [textAt_insert, textAt_insert, h t ht hlast full']

/-- Entries without those that have expired. -/
theorem sameFrom_live (hm : m.Ordered) :
    SameFrom now (m.filter fun (_, e) => e.isLive now) m :=
  fun _ ht _ => textAt_filter hm fun _ => isLive_of_le ht

/-- Entries without those that are dropped when a file is opened. -/
theorem sameFrom_stillValid (hm : m.Ordered) : SameFrom now (stillValid now m) m := by
  intro t ht _
  refine textAt_filter hm (p := fun e => e.expiresAt.all (now ≤ ·)) fun e he => ?_
  obtain ⟨value, deadline⟩ := e
  cases deadline with
  | none => rfl
  | some d =>
    simp only [CounterEntry.isLive, Option.all_some, decide_eq_true_eq] at he ⊢
    omega

theorem sameFrom_capped : SameFrom now (m.map fun e => (e.1, e.2.capped)) m :=
  fun _ _ hlast => textAt_capped hlast m

end SameFrom

/-! ### The file -/

/-- A store is opened over a file that holds entries, with those that are still valid. -/
theorem openFile_eq_ok {now : Nat} {name : String} {f : SnapshotFile} {s : CounterStore} :
    openFile now name f = .ok s ↔
      ∃ m, f.contents reader = .ok m ∧ s = ⟨name, stillValid now m, some f⟩ := by
  unfold openFile SnapshotFile.contents
  cases f.decode reader with
  | error fault => simp [Except.map]
  | ok m => simp [Except.map, eq_comm]

/-- The file of a store reads from an instant on what the memory does. -/
structure Saved (now : Nat) (s : CounterStore) (f : SnapshotFile) (m : Keyed CounterEntry) :
    Prop where
  /-- This is the file of the store. -/
  file : s.file = some f
  /-- These are the entries of the file. -/
  contents : f.contents reader = .ok m
  /-- The entries in memory are in order of their keys. -/
  ordered : s.entries.Ordered
  /-- Memory and file read the same. -/
  same : SameFrom now s.entries m

namespace Saved

variable {now later : Nat} {name : String} {s t : CounterStore} {f : SnapshotFile}
  {m : Keyed CounterEntry}

theorem mono (h : Saved now s f m) (hle : now ≤ later) : Saved later s f m :=
  { h with same := h.same.mono hle }

/-- A file can be obstructed without a difference to what is read. -/
theorem obstruct (h : Saved now s f m) (reason : Option FileFault) :
    Saved now (s.obstruct reason) (f.obstruct reason) m where
  file := by rw [CounterStore.obstruct, h.file]; rfl
  contents := h.contents
  ordered := h.ordered
  same := h.same

/-- A store that has just been opened reads what its file does. -/
theorem openFile (h : CounterStore.openFile now name f = .ok s) : ∃ m, Saved now s f m := by
  obtain ⟨m, hm, rfl⟩ := openFile_eq_ok.mp h
  have hordered : m.Ordered := SnapshotFile.ordered_of_contents hm
  exact ⟨m, rfl, hm, hordered.filter _, sameFrom_stillValid hordered⟩

/-- The file is opened again, and reads as before. -/
theorem reload (h : Saved now s f m) : ∃ r, openAt now s.name s.file = .ok r ∧ r.name = s.name ∧
    Saved now r f m ∧ SameFrom now r.entries s.entries := by
  have hordered : m.Ordered := SnapshotFile.ordered_of_contents h.contents
  have hsame : SameFrom now (stillValid now m) m := sameFrom_stillValid hordered
  refine ⟨⟨s.name, stillValid now m, some f⟩, ?_, rfl,
    ⟨rfl, h.contents, hordered.filter _, hsame⟩, hsame.trans h.same.symm⟩
  rw [h.file]
  exact openFile_eq_ok.mpr ⟨m, h.contents, rfl⟩

/-- A purge changes the file in nothing, and the memory in nothing that is read. -/
theorem purge (h : Saved now s f m) : Saved now (s.purge now) f m ∧
    SameFrom now (s.purge now).entries s.entries :=
  have hlive := sameFrom_live h.ordered
  ⟨⟨h.file, h.contents, h.ordered.filter _, hlive.trans h.same⟩, hlive⟩

/-- A write replaces the file by what is read in memory afterwards. -/
theorem setText {key text : String} {life : Lifetime} (h : Saved now s f m)
    (hset : s.setText now key text life = .ok t) : ∃ f' m', Saved now t f' m' := by
  obtain ⟨-, hentries⟩ := setText_eq hset
  unfold CounterStore.setText at hset
  simp only [h.file] at hset
  split at hset
  · next f' hreplace =>
    have hsnapshot :
        (snapshot now (fullKey s.name key) ⟨text, expiry now life⟩ s.entries).Ordered :=
      Keyed.Ordered.insert (h.ordered.filter _) _ _
    cases hset
    refine ⟨f', _, rfl, SnapshotFile.contents_replace h.contents (decode_encode hsnapshot) hreplace,
      h.ordered.insert _ _, ?_⟩
    exact ((sameFrom_live h.ordered).symm.insert _ _).trans sameFrom_capped.symm
  · cases hset

end Saved

end CounterStore

end HostWatch
