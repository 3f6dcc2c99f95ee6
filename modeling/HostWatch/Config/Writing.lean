import HostWatch.Config.Store

/-!
# Writing at the same time

Several writes to one store may be under way at once, through any of the handles on
it. Those of a store with a file take turns: a write waits until no other has its
turn, gathers the entries in memory with its own among them, replaces the file by
these, and only then changes the memory and ends its turn. Whoever reads the memory
between the last two steps still finds the old value, and whoever reads the file finds
the new one.

`ConfigStore.set` is a write that has its turn without anything in between
(`alone_eq_set`, `alone_eq_set_error`).
-/

namespace HostWatch

/-- Where a write stands. -/
inductive WriteStage where
  /-- It waits for its turn. -/
  | waiting
  /-- It has its turn, and has done nothing yet. -/
  | holding
  /-- It has its turn, and the entries that the file shall hold; the file is as it was. -/
  | gathered (snapshot : Keyed Bytes)
  /-- It has its turn; the file has been replaced, the memory is as it was. -/
  | saved
  /-- It has ended. -/
  | ended (result : Except ConfigError Unit)
  deriving Repr

/-- Whether a write has its turn. -/
def WriteStage.hasTurn : WriteStage → Bool
  | .holding => true
  | .gathered _ => true
  | .saved => true
  | _ => false

/-- A write to a store. -/
structure StoreWrite where
  /-- The key. -/
  key : String
  /-- The value. -/
  value : Bytes
  /-- Where the write stands. -/
  stage : WriteStage := .waiting
  deriving Repr

/-- A store with the writes to it, each at the place of its number. -/
structure SharedStore where
  /-- The store. -/
  store : ConfigStore
  /-- The writes. -/
  writes : List StoreWrite := []
  deriving Repr

/-- A step of a write. -/
inductive WriteAction where
  /-- Take the turn; without a file, write. -/
  | begin
  /-- Gather the entries in memory, with the own one among them. -/
  | gather
  /-- Replace the file, if that can be done. -/
  | save
  /-- Fail to replace the file. -/
  | fail (fault : FileFault)
  /-- Change the memory. -/
  | commit
  deriving DecidableEq, Repr

namespace SharedStore

/-- Whether some write has its turn. -/
def isBusy (s : SharedStore) : Bool :=
  s.writes.any (·.stage.hasTurn)

/-- Let a write stand elsewhere. -/
def moveTo (write : Nat) (stage : WriteStage) (s : SharedStore) : SharedStore :=
  { s with writes := s.writes.modify write fun w => { w with stage } }

/-- Begin a new write. -/
def add (key : String) (value : Bytes) (s : SharedStore) : SharedStore :=
  { s with writes := s.writes ++ [{ key, value }] }

/-- What a step of a write does, if it can be taken. -/
def act (write : Nat) (a : WriteAction) (s : SharedStore) : Option SharedStore := do
  let w ← s.writes[write]?
  match a, w.stage, s.store.file with
  | .begin, .waiting, none =>
    some ({ s with store.entries := s.store.entries.insert w.key w.value }.moveTo write
      (.ended (.ok ())))
  | .begin, .waiting, some _ => if s.isBusy then none else some (s.moveTo write .holding)
  | .gather, .holding, _ =>
    some (s.moveTo write (.gathered (s.store.entries.insert w.key w.value)))
  | .save, .gathered snapshot, some file =>
    match file.replace (ConfigStore.encode snapshot) with
    | .ok file => some ({ s with store.file := some file }.moveTo write .saved)
    | .error fault => some (s.moveTo write (.ended (.error (.storage fault))))
  | .fail fault, .gathered _, some _ => some (s.moveTo write (.ended (.error (.storage fault))))
  | .commit, .saved, _ =>
    some ({ s with store.entries := s.store.entries.insert w.key w.value }.moveTo write
      (.ended (.ok ())))
  | _, _, _ => none

/-- Take steps of one write after another. -/
def actAll (write : Nat) (as : List WriteAction) (s : SharedStore) : Option SharedStore :=
  as.foldlM (fun s a => s.act write a) s

/-- A write that has its turn without anything in between does what `ConfigStore.set` does. -/
theorem alone_eq_set {s t : ConfigStore} {file : SnapshotFile} (hf : s.file = some file)
    {key : String} {value : Bytes} (h : s.set key value = .ok t) :
    actAll 0 [.begin, .gather, .save, .commit] (({ store := s } : SharedStore).add key value) =
      some { store := t, writes := [⟨key, value, .ended (.ok ())⟩] } := by
  obtain ⟨entries, _⟩ := s
  cases hf
  simp only [ConfigStore.set, ConfigStore.save] at h
  cases hreplace : file.replace (ConfigStore.encode (entries.insert key value)) with
  | error fault =>
    rw [hreplace] at h
    cases h
  | ok file' =>
    rw [hreplace] at h
    cases h
    simp [actAll, act, add, moveTo, isBusy, WriteStage.hasTurn, hreplace]

/-- A write that has its turn alone and fails ends as `ConfigStore.set` does. -/
theorem alone_eq_set_error {s : ConfigStore} {file : SnapshotFile} (hf : s.file = some file)
    {key : String} {value : Bytes} {e : ConfigError} (h : s.set key value = .error e) :
    actAll 0 [.begin, .gather, .save] (({ store := s } : SharedStore).add key value) =
      some { store := s, writes := [⟨key, value, .ended (.error e)⟩] } := by
  obtain ⟨entries, _⟩ := s
  cases hf
  simp only [ConfigStore.set, ConfigStore.save] at h
  cases hreplace : file.replace (ConfigStore.encode (entries.insert key value)) with
  | error fault =>
    rw [hreplace] at h
    cases h
    simp [actAll, act, add, moveTo, isBusy, WriteStage.hasTurn, hreplace]
  | ok file' =>
    rw [hreplace] at h
    cases h

end SharedStore

end HostWatch
