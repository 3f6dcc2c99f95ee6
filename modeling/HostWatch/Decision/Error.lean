import HostWatch.Config.Error
import HostWatch.Counter.Error
import HostWatch.Metrics
import HostWatch.Bus.Disposition

/-!
# Failures of a decision

A decision about a report ends in a failure when the report's URL names no host,
when the host is listed already, or when the shared configuration or the counters
fail. Only the last two can go away when the same report is handled again.
-/

namespace HostWatch

/-- Why a decision about a report was not reached. -/
inductive DecisionError where
  /-- The reported URL could not be parsed or has no host. -/
  | malformedUrl (url reason : String)
  /-- The hostname is in the forbidden list already. -/
  | alreadyListed (hostname : String)
  /-- The shared configuration failed. -/
  | config (cause : ConfigError)
  /-- The counters failed. -/
  | counters (cause : CounterError)
  deriving DecidableEq, Repr

namespace DecisionError

/-- Whether the failure is part of normal operation. -/
def isExpected : DecisionError → Bool
  | .alreadyListed _ => true
  | _ => false

/-- Whether handling the same report again can succeed. -/
def isRetryable : DecisionError → Bool
  | .config _ => true
  | .counters cause => cause.isTransient
  | .malformedUrl _ _ => false
  | .alreadyListed _ => false

/-- What becomes of a message whose handling failed like this. -/
def disposition (e : DecisionError) : Disposition :=
  if e.isRetryable then .redeliver else .reject

/-- How the handling of a report with this failure ended. -/
def outcome : DecisionError → ReportOutcome
  | .malformedUrl _ _ => .malformedUrl
  | .alreadyListed _ => .alreadyBlacklisted
  | .config _ => .configUnavailable
  | .counters _ => .cacheUnavailable

/-- The text of a failure, where it is this program's own. -/
def message? : DecisionError → Option String
  | .malformedUrl url reason => some ("malformed URL '" ++ url ++ "': " ++ reason)
  | .alreadyListed hostname => some (hostname ++ " hostname is already blacklisted")
  | .config cause => cause.message?.map ("config unavailable: " ++ ·)
  | .counters cause => cause.message?.map ("cache unavailable: " ++ ·)

end DecisionError

end HostWatch
