import HostWatch.CommandLine.Manage
import HostWatch.CommandLine.Watch
import Std.Time.DateTime.Timestamp

/-!
# The program

One program serves both commands: under a name that ends in `-cli` it manages the
shared configuration, under any other name it runs the process. It has no network of
its own, so whatever needs one fails, and serving ends when the threshold is seeded.
-/

namespace HostWatch

/-- What can be read of a file. -/
def readSnapshot (path : String) : IO SnapshotFile := do
  try
    return { content := some (← IO.FS.readBinFile path).toList }
  catch _ =>
    return {}

/-- The files that the process needs, read in advance. -/
def readFiles (args : List String) : IO (String → SnapshotFile) := do
  match WatchCommand.Invocation.parse args with
  | .error _ => return fun _ => {}
  | .ok i =>
    let files ← i.settingsPath.toList.mapM fun p => return (p, ← readSnapshot p)
    match i.settings fun path => (files.lookup path).bind SnapshotFile.content with
    | .error _ => return fun path => (files.lookup path).getD {}
    | .ok s =>
      let paths := s.configApi.persistencePath.toList ++ s.cache.persistencePath.toList
      let more ← paths.mapM fun p => return (p, ← readSnapshot p)
      return fun path => ((files ++ more).lookup path).getD {}

/-- Everything up to the end of a stream. -/
partial def readAll (stream : IO.FS.Stream) (sofar : ByteArray) : IO ByteArray := do
  let chunk ← stream.read 65536
  if chunk.isEmpty then return sofar else readAll stream (sofar ++ chunk)

/-- What is outside of the process, with some files, without a network, and with the machine's own clock. -/
def surroundings (files : String → SnapshotFile) : IO Surroundings := do
  return {
    files
    canListen := SocketAddress.namesOwn
    network := .isolated
    now := (← Std.Time.Timestamp.now).toMillisecondsSinceUnixEpoch.toInt.toNat }

/-- Report an outcome. -/
def report (o : CommandOutcome) : IO UInt32 := do
  IO.print o.output
  IO.eprint o.errors
  return o.exitCode

end HostWatch

open HostWatch in
/-- Run the command that the program's name and its arguments ask for. -/
def main (args : List String) : IO UInt32 := do
  let name := (← IO.appPath).fileName.getD ""
  if name.endsWith "-cli" then
    report (ManageCommand.execute .isolated args ()).1
  else
    let e ← surroundings (← readFiles args)
    let serves := match WatchCommand.Invocation.parse args with
      | .ok ⟨_, .serve⟩ => true
      | _ => false
    let input ← if serves then readAll (← IO.getStdin) .empty else pure .empty
    report (WatchCommand.execute e input.toList 0 args)
