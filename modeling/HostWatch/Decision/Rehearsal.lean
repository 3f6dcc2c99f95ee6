import HostWatch.Config.Store
import HostWatch.Counter.Store
import HostWatch.Decision.Engine

/-!
# Rehearsals

A rehearsal runs decisions on stores in memory and a prober that follows a script.
Every call is noted down, calls that the script names fail without any effect, and
while a probe is under way others may write to the shared configuration.
-/

namespace HostWatch

/-- A call as it is noted down. -/
inductive Note where
  /-- The list was read. -/
  | readList
  /-- The threshold was read. -/
  | readThreshold
  /-- Something was written under a key of the shared configuration. -/
  | writeConfig (key : String)
  /-- A counter was read. -/
  | readCounter (host : String)
  /-- A counter was written. -/
  | writeCounter (host : String) (count : Int64) (life : Lifetime)
  /-- An origin was probed. -/
  | probe (origin : String)
  deriving DecidableEq, Repr

/-- The kind of a call. -/
def Note.call : Note → Call
  | .readList => .readList
  | .readThreshold => .readThreshold
  | .writeConfig _ => .writeConfig
  | .readCounter _ => .readCounter
  | .writeCounter _ _ _ => .writeCounter
  | .probe _ => .probe

/-- A failure that the script asks for. -/
structure Failure where
  /-- The calls that fail. -/
  call : Call
  /-- Which of a task's calls of that kind fails, counted from 1; all of them if 0. -/
  nth : Nat
  /-- The status with which the shared configuration fails. -/
  status : Nat
  /-- The reason with which the counters fail. -/
  reason : String
  deriving DecidableEq, Repr

/-- What happens beside the decisions. -/
structure Script where
  /-- The calls that fail. -/
  failures : List Failure := []
  /-- What others write to the shared configuration while a probe is under way. -/
  during : List (String × Bytes) := []
  deriving DecidableEq, Repr

/-- The state of a rehearsal. -/
structure Rehearsal where
  /-- The shared configuration. -/
  config : ConfigStore := {}
  /-- The counters. -/
  counters : CounterStore
  /-- The calls so far, each with its task, the newest first. -/
  notes : List (Nat × Note) := []
  deriving DecidableEq, Repr

namespace Rehearsal

/-- Note a call down; if it fails, say how. -/
def note (script : Script) (task : Nat) (n : Note) (r : Rehearsal) : Option Failure × Rehearsal :=
  let r := { r with notes := (task, n) :: r.notes }
  let nth := (r.notes.filter fun e => e.1 = task ∧ e.2.call = n.call).length
  (script.failures.find? fun f => f.call = n.call ∧ (f.nth = 0 ∨ f.nth = nth), r)

/-- Write to the shared configuration as somebody else; a write that fails is lost. -/
def writeBeside (key : String) (value : Bytes) (r : Rehearsal) : Rehearsal :=
  match r.config.set key value with
  | .ok config => { r with config }
  | .error _ => r

/-- The shared configuration as a task sees it. -/
def configAccess (script : Script) (task : Nat) : ConfigAccess Rehearsal where
  get key r :=
    match r.note script task (if key = thresholdKey then .readThreshold else .readList) with
    | (some f, r) => (.error (.status key f.status), r)
    | (none, r) => (r.config.get key, r)
  set key value r :=
    match r.note script task (.writeConfig key) with
    | (some f, r) => (.error (.status key f.status), r)
    | (none, r) =>
      let (answer, config) := ConfigStore.access.set key value r.config
      (answer, { r with config })

/-- The counters as a task sees them. -/
def counterAccess (now : Nat) (script : Script) (task : Nat) : CounterAccess Rehearsal where
  get host r :=
    match r.note script task (.readCounter host) with
    | (some f, r) => (.error (.unavailable f.reason), r)
    | (none, r) => (r.counters.get now host, r)
  set host count life r :=
    match r.note script task (.writeCounter host count life) with
    | (some f, r) => (.error (.unavailable f.reason), r)
    | (none, r) =>
      let (answer, counters) := (CounterStore.access now).set host count life r.counters
      (answer, { r with counters })

/-- The collaborators of a task whose probes bring the given results. -/
def collaborators (now : Nat) (script : Script) (probe : String → ProbeResult) (task : Nat) :
    Collaborators Rehearsal where
  config := configAccess script task
  counters := counterAccess now script task
  probe origin r :=
    let (_, r) := r.note script task (.probe origin)
    (probe origin, script.during.foldl (fun r e => r.writeBeside e.1 e.2) r)

end Rehearsal

end HostWatch
