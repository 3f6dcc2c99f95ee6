import HostWatch.CommandLine.Outcome
import HostWatch.Config.Forbidden
import HostWatch.Counter.Store
import HostWatch.Http.Network
import HostWatch.Http.Status
import HostWatch.Idna
import HostWatch.Url.Parser

/-!
# The command that manages the shared configuration

The command reads and writes values through the config service. A key is put into
the URL as it is given, without encoding, so a key with a slash or a question mark
names something else. Values are checked to be JSON before they are sent, and shown
with one element or member to a line.
-/

namespace HostWatch.ManageCommand

open Arguments Http

/-- What can be asked for. -/
inductive Task where
  /-- Show the value under a key. -/
  | get (key : String)
  /-- Write the value under a key. -/
  | set (key json : String)
  /-- Show the forbidden hostnames. -/
  | forbidden
  /-- Show the threshold, or write it. -/
  | threshold (value : Option Int64)
  deriving DecidableEq, Repr

/-- What a command line asks for. -/
structure Invocation where
  /-- The URL of the service. -/
  url : String
  /-- What is to be done. -/
  task : Task
  deriving DecidableEq, Repr

/-- How the command is called. -/
def usage : String :=
  "Usage: hostwatch-cli [--url <URL>] <get|set|forbidden|threshold>\n"

/-- The URL of the service if none is given. -/
def defaultUrl : String := "http://127.0.0.1:8085"

/-- The option that names the URL of the service. -/
def urlOption : ValueOption := ⟨"url", 'u', true⟩

/-- Read the operands of a subcommand. -/
def Task.parse (command : String) (args : List String) : Except Stop Task :=
  match command with
  | "get" =>
    match readOperands (fun n _ => n < 1) false [] args with
    | .ok [key] => .ok (.get key)
    | .ok _ => .error .usage
    | .error stop => .error stop
  | "set" =>
    match readOperands (fun n _ => n < 2) false [] args with
    | .ok [key, json] => .ok (.set key json)
    | .ok _ => .error .usage
    | .error stop => .error stop
  | "forbidden" =>
    match readOperands (fun _ _ => false) false [] args with
    | .ok _ => .ok .forbidden
    | .error stop => .error stop
  | "threshold" =>
    match readOperands (fun n s => n < 1 && (CounterStore.parse? s).isSome) false [] args with
    | .ok values => .ok (.threshold (values.head?.bind CounterStore.parse?))
    | .error stop => .error stop
  | "help" => .error (helpOn ["get", "set", "forbidden", "threshold"] args)
  | _ => .error .usage

/-- Read a command line. -/
def Invocation.parse (args : List String) : Except Stop Invocation :=
  match readCommand urlOption none args with
  | .error stop => .error stop
  | .ok (url, command, rest) =>
    match Task.parse command rest with
    | .error stop => .error stop
    | .ok task => .ok ⟨url.getD defaultUrl, task⟩

/-! ### Requests -/

/-- A text without the slashes at its end. -/
def withoutSlashes (s : String) : String :=
  String.ofList ((s.toList.reverse.dropWhile (· = '/')).reverse)

/-- The URL of the value under a key, as a text. -/
def address (url key : String) : String :=
  withoutSlashes url ++ "/config/" ++ key

/-- The key that a task is about. -/
def Task.key : Task → String
  | .get key => key
  | .set key _ => key
  | .forbidden => forbiddenKey
  | .threshold _ => thresholdKey

/-- The value that a task writes, if it writes one that can be read. -/
def Task.value? : Task → Except Json.Fault (Option Json.Value)
  | .get _ => .ok none
  | .set _ json => (Json.decode Json.anyValue (Utf8.ofString json)).map some
  | .forbidden => .ok none
  | .threshold value => .ok (value.map Threshold.toValue)

/-- The request that reads, or writes, what a URL names. -/
def request (u : Url) : Option Json.Value → Request
  | none => { method := .get, target := targetOf u }
  | some v =>
    { method := .put, target := targetOf u, contentType := some "application/json"
      body := v.encode }

/-! ### Outcomes -/

/-- What is said about a response. -/
def shown (r : Response) : CommandOutcome :=
  if r.isSuccess then
    match Json.decode Json.anyValue r.body with
    | .ok v => { output := String.ofList v.pretty ++ "\n" }
    | .error _ => .failure "the response is not JSON"
  else
    let reason := "Error: config store returned status " ++ Status.text r.status ++ "\n"
    let body := String.ofList ((Utf8.decode? r.body).getD [])
    { errors := if body = "" then reason else reason ++ "Response: " ++ body ++ "\n" }

/-- What is said at the end of an exchange. -/
def ended : Exchange → CommandOutcome
  | .response r => shown r
  | _ => .failure "the config service cannot be reached"

/-- Do what an invocation asks for. -/
def Invocation.execute {σ : Type} (network : Network σ) (i : Invocation) (s : σ) :
    CommandOutcome × σ :=
  match i.task.value? with
  | .error _ => (.failure "the value is not JSON", s)
  | .ok value =>
    match Url.parse Idna.toAscii? (address i.url i.task.key).toList with
    | .error e => (.failure e.message, s)
    | .ok u =>
      let (exchange, s) := network u none (request u value) s
      (ended exchange, s)

/-- Do what a command line asks for. -/
def execute {σ : Type} (network : Network σ) (args : List String) (s : σ) : CommandOutcome × σ :=
  match Invocation.parse args with
  | .error stop => (.ofStop usage stop, s)
  | .ok i => i.execute network s

end HostWatch.ManageCommand
