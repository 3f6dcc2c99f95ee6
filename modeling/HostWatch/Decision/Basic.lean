import HostWatch.Config.Access
import HostWatch.Counter.Access
import HostWatch.Decision.Error

/-!
# Decisions

What a handled report can lead to, and the collaborators that a decision asks on the
way: the shared configuration, the counters, and the prober. The collaborators are
an interface over a state of any type, so the same decision runs on stores in memory,
on scripts, and on collaborators that answer whatever they like.
-/

namespace HostWatch

/-- What a handled report led to. -/
inductive Decision where
  /-- The probe did not confirm the timeout; nothing changed. -/
  | notConfirmed (outcome : ProbeOutcome)
  /-- The counter was stored below the threshold. -/
  | watched (count threshold : Int64)
  /-- The hostname was appended to the forbidden list. -/
  | blacklisted (count : Int64)
  /-- The threshold was reached, but the hostname had been listed meanwhile. -/
  | alreadyListed (count : Int64)
  deriving DecidableEq, Repr

/-- How the handling of a report with this decision ended. -/
def Decision.outcome : Decision → ReportOutcome
  | .notConfirmed _ => .notConfirmed
  | .watched _ _ => .watched
  | .blacklisted _ => .blacklisted
  | .alreadyListed _ => .alreadyListed

/-- What the handling of a report brings. -/
abbrev Verdict := Except DecisionError Decision

/-- How the handling of a report ended. -/
def Verdict.outcome : Verdict → ReportOutcome
  | .ok d => d.outcome
  | .error e => e.outcome

/-- The collaborators of a decision. They are asked for octets and texts: the list that a decision
reads is typed from the answer, so it is empty where the answer is that it was never written. -/
structure Collaborators (σ : Type) where
  /-- The shared configuration. -/
  config : ConfigAccess σ
  /-- The counters. -/
  counters : CounterAccess σ
  /-- Probe an origin. -/
  probe : String → σ → ProbeResult × σ

/-- The state of the collaborators, and what has been measured. -/
structure World (σ : Type) where
  /-- The state of the collaborators. -/
  state : σ
  /-- What has been measured. -/
  metrics : Metrics := []

/-- Count one more in a series. -/
def World.count {σ : Type} (s : Series) (w : World σ) : World σ :=
  { w with metrics := w.metrics.count s }

end HostWatch
