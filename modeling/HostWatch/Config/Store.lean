import HostWatch.Config.Access
import HostWatch.Storage.SnapshotFile

/-!
# The store of the shared configuration

Octets under keys, in memory, and also in a file if one is given. With a file
a write first replaces the file and changes the memory only when that succeeded, so
memory and file agree after every write, and a write that fails changes neither.
-/

namespace HostWatch

/-- The store of the shared configuration. -/
structure ConfigStore where
  /-- What is stored under each key. -/
  entries : Keyed Bytes := []
  /-- The file that also holds the entries, if there is one. -/
  file : Option SnapshotFile := none
  deriving DecidableEq, Repr

namespace ConfigStore

/-- The entries as a JSON value: an object of arrays of octets. -/
def toValue (entries : Keyed Bytes) : Json.Value :=
  .object (entries.map fun (key, bs) => (key, .array (bs.map fun b => .ofInt b.toNat)))

/-- The written form of the entries. -/
def encode (entries : Keyed Bytes) : Bytes :=
  (toValue entries).encode

/-- Read the written form of entries. -/
def reader : Json.Reader (Keyed Bytes) :=
  Json.map (Json.list Json.octet)

/-- Open a store that is backed by a file, with what the file holds. -/
def openFile (file : SnapshotFile) : Except ConfigError ConfigStore :=
  match file.decode reader with
  | .ok entries => .ok ⟨entries.getD [], some file⟩
  | .error fault => .error (.storage fault)

/-- Open a store, backed by a file if one is given. -/
def openAt (file : Option SnapshotFile) : Except ConfigError ConfigStore :=
  match file with
  | some file => openFile file
  | none => .ok {}

/-- What is stored under a key. -/
def get (key : String) (s : ConfigStore) : Except ConfigError Bytes :=
  match s.entries.get? key with
  | some bs => .ok bs
  | none => .error (.notFound key)

/-- The file with a new entry among the others, if that can be saved. -/
def save (key : String) (value : Bytes) (s : ConfigStore) :
    Except FileFault (Option SnapshotFile) :=
  match s.file with
  | none => .ok none
  | some file => (file.replace (encode (s.entries.insert key value))).map some

/-- Write under a key, in the file first. -/
def set (key : String) (value : Bytes) (s : ConfigStore) : Except ConfigError ConfigStore :=
  match s.save key value with
  | .ok file => .ok ⟨s.entries.insert key value, file⟩
  | .error fault => .error (.storage fault)

/-- Access to a store in the same process. -/
def access : ConfigAccess ConfigStore where
  get key s := (s.get key, s)
  set key value s :=
    match s.set key value with
    | .ok s => (.ok (), s)
    | .error e => (.error e, s)

/-- Reading brings what was written last under the key. -/
theorem get_set {s t : ConfigStore} {k : String} {v : Bytes} (h : s.set k v = .ok t) (key : String) :
    t.get key = if key = k then .ok v else s.get key := by
  unfold set at h
  split at h
  · cases h
    by_cases hk : key = k <;> simp [get, Keyed.get?_insert, hk]
  · cases h

end ConfigStore

end HostWatch
