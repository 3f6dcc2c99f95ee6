import HostWatch.Config.Store
import HostWatch.Proofs.Json.Numerals
import HostWatch.Proofs.Storage.Contents

/-!
# The file of a store

The entries of a store read back from their written form, whatever keys and octets they have, if
they are in order of the keys (`ConfigStore.decode_encode`). Entries that were read from a file
are in that order, and they stay so when one is put among them. So a file that has been replaced
holds the entries that it was to hold (`SnapshotFile.entries_replace`).
-/

namespace HostWatch

/-- Octets as a JSON value. -/
def ConfigStore.octets (bs : Bytes) : Json.Value :=
  .array (bs.map fun b => .ofInt b.toNat)

/-- Entries read back from their written form. -/
theorem ConfigStore.decode_encode {m : Keyed Bytes} (hm : m.Ordered) :
    Json.decode reader (encode m) = .ok m := by
  have hvalue : ∀ bs : Bytes, Json.Reads (Json.list Json.octet) (octets bs).compact bs :=
    Json.Reads.array Json.Reads.octet
  exact (Json.Reads.map (fun e _ => hvalue e.2) hm).decode

/-- What is read is among the entries in memory. -/
theorem ConfigStore.get?_of_get {s : ConfigStore} {key : String} {value : Bytes}
    (h : s.get key = .ok value) : s.entries.get? key = some value := by
  rw [get] at h
  split at h
  · next hget =>
    cases h
    exact hget
  · cases h

namespace SnapshotFile

variable {f g : SnapshotFile} {m m' : Keyed Bytes}

/-- The entries that a file holds; there are none if there is no file. -/
def entries (f : SnapshotFile) : Except FileFault (Keyed Bytes) :=
  (f.decode ConfigStore.reader).map (·.getD [])

/-- A file holds a value under a key. -/
def Holds (f : SnapshotFile) (key : String) (value : Bytes) : Prop :=
  ∃ m, f.entries = .ok m ∧ m.get? key = some value

/-- The entries that a file holds are in order of their keys. -/
theorem ordered_of_entries (h : f.entries = .ok m) : m.Ordered :=
  ordered_of_contents h

/-- A file that has been replaced holds what it was replaced by. -/
theorem entries_replace (h : f.entries = .ok m) (hm' : m'.Ordered)
    (hreplace : f.replace (ConfigStore.encode m') = .ok g) : g.entries = .ok m' := by
  have hcontents : f.contents ConfigStore.reader = .ok m := h
  exact contents_replace hcontents (ConfigStore.decode_encode hm') hreplace

/-- A store that is opened over a file is that file with the entries that it holds. -/
theorem openFile_eq_ok {s : ConfigStore} :
    ConfigStore.openFile f = .ok s ↔ f.entries = .ok s.entries ∧ s.file = some f := by
  obtain ⟨entries', file⟩ := s
  unfold ConfigStore.openFile entries
  cases f.decode ConfigStore.reader with
  | error fault => constructor <;> intro h <;> simp [Except.map] at h
  | ok m => simp [Except.map, eq_comm]

end SnapshotFile

end HostWatch
