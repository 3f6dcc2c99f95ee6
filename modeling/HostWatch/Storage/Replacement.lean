import HostWatch.Keyed
import HostWatch.Text.Utf8

/-!
# Replacing a file as a whole

New content is written to a temporary file beside the target, which is then renamed
over the target. A replacement can fail at any step, and then the temporary file is
removed if that is possible; or the process can stop at any step, and then whatever
is there stays. Content may reach the temporary file in pieces of any size, so a
process that stops in the middle of a write has stopped behind a shorter piece; and
what had been held back when a step failed may still reach the file before it is
closed.

What is taken for granted: creating a file empties one that is there, and renaming
puts the whole temporary file in the target's place in one go.
-/

namespace HostWatch.Storage

/-- The files of a folder, by name. -/
abbrev Folder := Keyed Bytes

/-- The name of the temporary file beside a target. -/
def temporaryName (target : String) : String :=
  target ++ ".tmp"

/-- A folder with more octets at the end of one of its files. -/
def Folder.append (d : Folder) (name : String) (piece : Bytes) : Folder :=
  match d.get? name with
  | some bs => d.insert name (bs ++ piece)
  | none => d

/-- A folder with a file in the place of another. -/
def Folder.rename (d : Folder) (name target : String) : Folder :=
  match d.get? name with
  | some bs => (d.erase name).insert target bs
  | none => d

/-- A step of a replacement. -/
inductive Step where
  /-- Create the temporary file, or empty it. -/
  | create
  /-- Add a piece to the temporary file. -/
  | write (piece : Bytes)
  /-- Hand everything held back to the system. -/
  | flush
  /-- Wait until the temporary file is on the disk. -/
  | sync
  /-- Rename the temporary file over the target. -/
  | rename
  deriving DecidableEq, Repr

/-- What a step does to the folder of a target. -/
def Step.apply (target : String) : Step → Folder → Folder
  | .create, d => d.insert (temporaryName target) []
  | .write piece, d => d.append (temporaryName target) piece
  | .flush, d => d
  | .sync, d => d
  | .rename, d => d.rename (temporaryName target) target

/-- The steps of a replacement whose content is written in the given pieces. -/
def steps (pieces : List Bytes) : List Step :=
  .create :: (pieces.map .write ++ [.flush, .sync, .rename])

/-- The folder of a target after some steps. -/
def applyAll (target : String) (ss : List Step) (d : Folder) : Folder :=
  ss.foldl (fun d s => s.apply target d) d

/-- How a replacement ends. -/
inductive Ending where
  /-- All steps were done. -/
  | completed
  /-- A step failed after so many; what had been held back still reached the temporary file, if there
  was one, which was then removed or could not be. -/
  | failed (done : Nat) (heldBack : Bytes) (removed : Bool)
  /-- The process stopped after so many steps. -/
  | stopped (done : Nat)
  deriving DecidableEq, Repr

/-- A replacement of a target by new content. -/
structure Replacement where
  /-- The pieces in which the content reaches the temporary file. -/
  pieces : List Bytes
  /-- How it ends. -/
  ending : Ending
  /-- Where a step fails, there is one that was not done. -/
  lt_of_failed : ∀ done heldBack removed, ending = .failed done heldBack removed →
    done < (steps pieces).length := by simp [steps]

namespace Replacement

/-- The new content. -/
def content (r : Replacement) : Bytes :=
  r.pieces.flatten

/-- The folder of a target after a replacement. -/
def run (target : String) (r : Replacement) (d : Folder) : Folder :=
  match r.ending with
  | .completed => applyAll target (steps r.pieces) d
  | .failed done heldBack removed =>
    let left := applyAll target ((steps r.pieces).take done) d
    -- without its first step the replacement has no file open
    let closed := if done = 0 then left else left.append (temporaryName target) heldBack
    if removed then closed.erase (temporaryName target) else closed
  | .stopped done => applyAll target ((steps r.pieces).take done) d

end Replacement

end HostWatch.Storage
