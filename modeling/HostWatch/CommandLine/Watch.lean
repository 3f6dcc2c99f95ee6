import HostWatch.CommandLine.Outcome
import HostWatch.Settings.Check
import HostWatch.Settings.Printer
import HostWatch.Startup

/-!
# The command that runs the process

`serve` runs the process on its standard input; `check-config` writes the settings
down as they are understood. Settings come from the file that an option names, and
are the defaults without it.
-/

namespace HostWatch.WatchCommand

open Arguments

/-- What can be asked for. -/
inductive Task where
  /-- Run the process. -/
  | serve
  /-- Check the settings and write them down. -/
  | checkConfig
  deriving DecidableEq, Repr

/-- What a command line asks for. -/
structure Invocation where
  /-- The file with the settings. -/
  settingsPath : Option String
  /-- What is to be done. -/
  task : Task
  deriving DecidableEq, Repr

/-- How the command is called. -/
def usage : String :=
  "Usage: hostwatch [--config <CONFIG>] <serve|check-config>\n"

/-- The option that names the file with the settings. -/
def settingsOption : ValueOption := ⟨"config", 'c', false⟩

/-- Read a command line. -/
def Invocation.parse (args : List String) : Except Stop Invocation :=
  match readCommand settingsOption none args with
  | .error stop => .error stop
  | .ok (settingsPath, command, rest) =>
    let bare (task : Task) :=
      match readOperands (fun _ _ => false) false [] rest with
      | .error stop => .error stop
      | .ok _ => .ok ⟨settingsPath, task⟩
    match command with
    | "serve" => bare .serve
    | "check-config" => bare .checkConfig
    | "help" => .error (helpOn ["serve", "check-config"] rest)
    | _ => .error .usage

/-- The settings that a command line gives. -/
def Invocation.settings (read : String → Option Bytes) (i : Invocation) :
    Except Settings.Refusal Settings :=
  match i.settingsPath with
  | none => .ok {}
  | some path => Settings.load (read path)

/-- Write settings down. -/
def printed (s : Settings) : CommandOutcome :=
  { output := String.ofList s.print ++ "\n" }

/-- What is said about refused settings. -/
def refused (r : Settings.Refusal) : CommandOutcome :=
  .failure (r.message?.getD "the settings cannot be read")

/-- What is said at the end of the process. -/
def ended : Except StartupError Unit → CommandOutcome
  | .ok () => {}
  | .error e => .failure (e.message?.getD "the process cannot start")

/-- Do what a command line asks for; the process is told to stop after some time. -/
def execute (e : Surroundings) (input : Bytes) (ms : Nat) (args : List String) : CommandOutcome :=
  match Invocation.parse args with
  | .error stop => .ofStop usage stop
  | .ok i =>
    match i.settings fun path => (e.files path).content with
    | .error r => refused r
    | .ok s =>
      match i.task with
      | .checkConfig => printed s
      | .serve => ended (run e s input ms).result

end HostWatch.WatchCommand
