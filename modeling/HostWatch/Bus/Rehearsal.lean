import HostWatch.Bus.Timeline
import HostWatch.Keyed

/-!
# Scripted handlers

A scripted handler answers the calls with a URL with the outcomes that its script
gives for it, one after another, the last one again and again. A handler with a gate
counts a call when it begins and then waits for a permit of the gate, which the call
uses up.
-/

namespace HostWatch

/-- A call that has begun and not ended. -/
structure OpenCall where
  /-- The task that called. -/
  task : TaskRef
  /-- How the call will end. -/
  outcome : HandlerOutcome
  /-- Whether it has got a permit of the gate. -/
  admitted : Bool := false
  deriving DecidableEq, Repr

/-- A scripted handler. -/
structure ScriptedHandler where
  /-- The outcomes of successive calls for each URL; those under `*` serve all other URLs. -/
  script : List (String × List HandlerOutcome) := []
  /-- Whether calls wait at a gate. -/
  gated : Bool := false
  /-- Permits of the gate that nobody has used. -/
  permits : Nat := 0
  /-- The calls that wait at the gate or have just got a permit, in the order of their coming. -/
  openCalls : List OpenCall := []
  /-- How often it has been called with each URL. -/
  calls : Keyed Nat := []
  /-- The most calls that were under way at once. -/
  mostAtOnce : Nat := 0
  deriving DecidableEq, Repr

namespace ScriptedHandler

/-- The outcome of a call with a URL, counted from 0. -/
def outcomeOf (h : ScriptedHandler) (url : String) (n : Nat) : HandlerOutcome :=
  match (h.script.lookup url).orElse (fun _ => h.script.lookup "*") with
  | none => .taken
  | some outcomes => (outcomes[n]?).getD (outcomes.getLast?.getD .taken)

/-- Begin a call. -/
def call (task : TaskRef) (url : String) (h : ScriptedHandler) :
    Option HandlerOutcome × ScriptedHandler :=
  let n := (h.calls.get? url).getD 0
  let outcome := h.outcomeOf url n
  let h := { h with
    calls := h.calls.insert url (n + 1)
    mostAtOnce := max h.mostAtOnce (h.openCalls.length + 1) }
  if !h.gated then (some outcome, h)
  else if 0 < h.permits then (some outcome, { h with permits := h.permits - 1 })
  else (none, { h with openCalls := h.openCalls ++ [{ task, outcome }] })

/-- Ask whether a call that waited can end. -/
def resume (task : TaskRef) (h : ScriptedHandler) : Option HandlerOutcome × ScriptedHandler :=
  match h.openCalls.find? fun c => c.task = task ∧ c.admitted with
  | none => (none, h)
  | some c => (some c.outcome, { h with openCalls := h.openCalls.filter (·.task ≠ task) })

/-- Let in calls that wait, at most `n` of them; says how many permits are left, and who was admitted. -/
def letIn : Nat → List OpenCall → Nat × List OpenCall × List TaskRef
  | 0, cs => (0, cs, [])
  | n + 1, [] => (n + 1, [], [])
  | n + 1, c :: cs =>
    if c.admitted then
      let (left, cs, tasks) := letIn (n + 1) cs
      (left, c :: cs, tasks)
    else
      let (left, cs, tasks) := letIn n cs
      (left, { c with admitted := true } :: cs, c.task :: tasks)

/-- Add permits to the gate; says whose calls can end by that. -/
def openGate (n : Nat) (h : ScriptedHandler) : List TaskRef × ScriptedHandler :=
  let (permits, openCalls, tasks) := letIn (h.permits + n) h.openCalls
  (tasks, { h with permits, openCalls })

end ScriptedHandler

/-- Handlers that follow scripts, each under its name. -/
abbrev ScriptedHandlers := Keyed ScriptedHandler

namespace ScriptedHandlers

/-- Ask one of the handlers for something. -/
def asked {α : Type} (name : String) (ask : ScriptedHandler → Option α × ScriptedHandler)
    (hs : ScriptedHandlers) : Option α × ScriptedHandlers :=
  match Keyed.get? hs name with
  | none => (none, hs)
  | some h =>
    let (a, h) := ask h
    (a, Keyed.insert name h hs)

/-- Handlers that follow scripts, as the bus uses them. -/
def handlers : Handlers ScriptedHandlers where
  call name task r hs := asked name (·.call task r.url) hs
  resume name task hs := asked name (·.resume task) hs

end ScriptedHandlers

/-- Add permits to the gate of a handler; the calls that get them can go on. -/
def Timeline.openGate (name : String) (n : Nat) (l : Timeline ScriptedHandlers) :
    Timeline ScriptedHandlers :=
  let (tasks, state) := ScriptedHandlers.asked name
    (fun h => let (tasks, h) := h.openGate n; (some tasks, h)) l.state
  (tasks.getD []).foldl (fun l t => l.wake t) { l with state }

end HostWatch
