import HostWatch.Bus.Timeline
import HostWatch.Decision.Engine

/-!
# The engine as a handler

Subscribed to the bus, the engine takes the reports of its topic. A report whose
decision is reached is taken, whatever the decision; after a failure the message is
handed out again if that can help, and dropped if it cannot.
-/

namespace HostWatch

/-- What a decision's verdict means for its message. -/
def Verdict.handlerOutcome : Verdict → HandlerOutcome
  | .ok _ => .taken
  | .error e => .failed e.disposition

/-- An engine as the one handler of a bus, with collaborators that answer at once. -/
def Engine.handlers {σ : Type} (guard : Settings.Guard) (c : Collaborators σ) :
    Handlers (World σ) where
  call _ _ r w :=
    let (verdict, w) := Engine.decide guard c r.url w
    (verdict.map Verdict.handlerOutcome, w)
  resume _ _ w := (none, w)

/-- All that was measured on a bus whose handler is an engine. -/
def Timeline.allMetrics {σ : Type} (l : Timeline (World σ)) : Metrics :=
  l.state.metrics ++ l.metrics

end HostWatch
