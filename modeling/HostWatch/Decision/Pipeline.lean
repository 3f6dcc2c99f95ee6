import HostWatch.Bus.Basic
import HostWatch.Decision.Handler

/-!
# Deliveries that decide

The engine is subscribed to a queue of the bus, and each delivery of that queue runs a
decision of its own. `Pipeline.act` lets a delivery, a decision or the dispatcher take
one step, so a history of the pipeline is any sequence of steps of all of them. The
collaborators may be others at every step, and so may answer whatever they like.

`Engine.handlers` is the same engine where no other step comes between the steps of a
decision.
-/

namespace HostWatch

/-- The engine behind a queue of the bus. -/
structure Pipeline (σ : Type) where
  /-- The bus. -/
  bus : Bus
  /-- The place of the engine's queue on the bus. -/
  queue : Nat
  /-- The engine. -/
  engine : Engine
  /-- The state of the collaborators, and what has been measured. -/
  world : World σ
  /-- The deliveries whose decision has not been answered yet, each with its task. -/
  running : List (Nat × Nat) := []

/-- A step of a pipeline. -/
inductive PipelineAction where
  /-- The dispatcher takes a permit. -/
  | takePermit
  /-- The dispatcher takes a message and begins a delivery. -/
  | receive
  /-- The dispatcher stops. -/
  | stop
  /-- A delivery decodes its message, and begins a decision if that succeeds. -/
  | decode (number : Nat)
  /-- A decision takes a step. -/
  | decide (task : Nat)
  /-- A delivery whose decision is at its end goes on. -/
  | finish (number : Nat)
  /-- A delivery has waited long enough and puts its message back. -/
  | putBack (number : Nat)
  deriving DecidableEq, Repr

namespace Pipeline

variable {σ : Type}

/-- Let something happen to the engine's queue, if it can. -/
def onQueue (a : QueueAction) (p : Pipeline σ) : Option (Pipeline σ) :=
  (p.bus.act p.queue a).map fun bus => { p with bus }

/-- The report with which the handler was called in a delivery. -/
def report? (number : Nat) (p : Pipeline σ) : Option Report := do
  let d ← (← p.bus.queues[p.queue]?).delivery? number
  match d.phase with
  | .handling r => some r
  | _ => none

/-- Begin the decision about a report. -/
def begin (number : Nat) (r : Report) (p : Pipeline σ) : Pipeline σ :=
  { p with
    engine.tasks := p.engine.tasks ++ [.received r.url]
    running := p.running ++ [(number, p.engine.tasks.length)] }

/-- The verdict of a delivery's decision, if it is at its end. -/
def verdict? (number : Nat) (p : Pipeline σ) : Option Verdict := do
  (← p.engine.tasks[← p.running.lookup number]?).verdict?

/-- What a step does, if it can be taken. -/
def act (c : Collaborators σ) (a : PipelineAction) (p : Pipeline σ) : Option (Pipeline σ) :=
  match a with
  | .takePermit => p.onQueue .takePermit
  | .receive => p.onQueue .receive
  | .stop => p.onQueue .stop
  | .putBack number => p.onQueue (.putBack number)
  | .decode number =>
    (p.onQueue (.decode number)).map fun p =>
      match p.report? number with
      | some r => p.begin number r
      | none => p
  | .decide task =>
    if task < p.engine.tasks.length then
      let (engine, world) := p.engine.step c task p.world
      some { p with engine, world }
    else none
  | .finish number =>
    (p.verdict? number).bind fun v =>
      (p.onQueue (.finish number v.handlerOutcome)).map fun p =>
        { p with running := p.running.filter (·.1 ≠ number) }

end Pipeline

end HostWatch
