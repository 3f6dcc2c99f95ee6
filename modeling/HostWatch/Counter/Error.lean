import HostWatch.Storage.FileFault

/-!
# Failures of the failure counters

Why a counter could not be read or written, the text of each failure, and whether
the same operation can succeed later.
-/

namespace HostWatch

/-- Why a counter could not be read or written. -/
inductive CounterError where
  /-- The value under the key is not an integer. -/
  | notAnInteger (key : String)
  /-- The counter under the key is as large as it can be. -/
  | overflow (key : String)
  /-- The counters could not be reached. -/
  | unavailable (reason : String)
  /-- The counters could not be saved in their file. -/
  | storage (fault : FileFault)
  deriving DecidableEq, Repr

/-- Whether the same operation can succeed later. -/
def CounterError.isTransient : CounterError → Bool
  | .unavailable _ => true
  | .storage _ => true
  | .notAnInteger _ => false
  | .overflow _ => false

/-- The text of a failure, where it is this program's own. -/
def CounterError.message? : CounterError → Option String
  | .notAnInteger key => some ("value for '" ++ key ++ "' is not an integer")
  | .overflow key => some ("counter for '" ++ key ++ "' overflowed")
  | .unavailable reason => some ("cache backend unavailable: " ++ reason)
  | .storage _ => none

end HostWatch
