import HostWatch.Json.Basic

/-!
# Faults of files

What can be wrong with a snapshot file when it is read or replaced, as far as a
caller can tell the cases apart.
-/

namespace HostWatch

/-- Why a snapshot could not be read or replaced. -/
inductive FileFault where
  /-- The file's content does not decode. -/
  | invalidData
  /-- The file's content breaks off. -/
  | unexpectedEnd
  /-- A directory on the way is missing. -/
  | notFound
  /-- The path names a directory. -/
  | isDirectory
  deriving DecidableEq, Repr

/-- The fault of a file whose content does not decode. -/
def FileFault.ofJson : Json.Fault → FileFault
  | .truncated => .unexpectedEnd
  | .malformed => .invalidData
  | .mismatched => .invalidData

end HostWatch
