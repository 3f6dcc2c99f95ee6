/-!
# Probes

What one request to an origin brought: an answer with any status, silence until the
deadline, or another failure. Only silence confirms a reported timeout.
-/

namespace HostWatch

/-- What a probe brought. -/
inductive ProbeResult where
  /-- The host answered with a status. -/
  | response (status : Nat)
  /-- The host did not answer before the deadline. -/
  | timeout
  /-- The request failed for another reason. -/
  | failure
  deriving DecidableEq, Repr

/-- A probe's result as far as a decision depends on it. -/
inductive ProbeOutcome where
  /-- Any answer proves that the host is up. -/
  | responded
  /-- The timeout is confirmed. -/
  | timedOut
  /-- Nothing is known of the host. -/
  | otherError
  deriving DecidableEq, Repr

/-- The outcome of a result. -/
def ProbeResult.outcome : ProbeResult → ProbeOutcome
  | .response _ => .responded
  | .timeout => .timedOut
  | .failure => .otherError

/-- The name of an outcome. -/
def ProbeOutcome.label : ProbeOutcome → String
  | .responded => "responded"
  | .timedOut => "timed_out"
  | .otherError => "other_error"

end HostWatch
