import HostWatch.Json.Reader
import HostWatch.Storage.FileFault

/-!
# Snapshot files

A store may be backed by a file that holds the whole of it as JSON. The file is
always replaced as a whole: whoever reads it finds the content before a replacement
or the content after it (`Storage/Replacement` says how that is done), and a
replacement that fails leaves it as it was.
-/

namespace HostWatch

/-- The place of a snapshot. -/
structure SnapshotFile where
  /-- What the file holds, if there is one. -/
  content : Option Bytes := none
  /-- Why the file cannot be read, if it cannot. -/
  unreadable : Option FileFault := none
  /-- Why the file cannot be replaced, if it cannot. -/
  unwritable : Option FileFault := none
  deriving DecidableEq, Repr

namespace SnapshotFile

/-- What the file holds, if there is one. -/
def read (f : SnapshotFile) : Except FileFault (Option Bytes) :=
  match f.unreadable with
  | some fault => .error fault
  | none => .ok f.content

/-- The value of the file's JSON, if there is a file. -/
def decode {α : Type} (item : Json.Reader α) (f : SnapshotFile) : Except FileFault (Option α) :=
  match f.read with
  | .error fault => .error fault
  | .ok none => .ok none
  | .ok (some bs) =>
    match Json.decode item bs with
    | .ok a => .ok (some a)
    | .error fault => .error (.ofJson fault)

/-- Put new content in place of the old. -/
def replace (content : Bytes) (f : SnapshotFile) : Except FileFault SnapshotFile :=
  match f.unwritable with
  | some fault => .error fault
  | none => .ok { f with content := some content }

end SnapshotFile

end HostWatch
