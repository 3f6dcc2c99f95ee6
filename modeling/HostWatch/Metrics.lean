import HostWatch.Probe

/-!
# Metrics

What is counted while reports are handled. `Metrics` holds the series recorded so
far; a series that was never recorded is absent and counts as 0.
-/

namespace HostWatch

/-- How the handling of a report ended. -/
inductive ReportOutcome where
  /-- The probe did not confirm the timeout. -/
  | notConfirmed
  /-- The counter stayed below the threshold. -/
  | watched
  /-- The hostname was listed. -/
  | blacklisted
  /-- The threshold was reached, but the hostname had been listed meanwhile. -/
  | alreadyListed
  /-- The URL names no host. -/
  | malformedUrl
  /-- The hostname was listed before. -/
  | alreadyBlacklisted
  /-- The shared configuration failed. -/
  | configUnavailable
  /-- The counters failed. -/
  | cacheUnavailable
  deriving DecidableEq, Repr

/-- The name of an outcome. -/
def ReportOutcome.label : ReportOutcome → String
  | .notConfirmed => "not_confirmed"
  | .watched => "watched"
  | .blacklisted => "blacklisted"
  | .alreadyListed => "already_listed"
  | .malformedUrl => "malformed_url"
  | .alreadyBlacklisted => "already_blacklisted"
  | .configUnavailable => "config_unavailable"
  | .cacheUnavailable => "cache_unavailable"

/-- What became of a message that was handed to its handler. -/
inductive DeliveryResult where
  /-- The handler took it. -/
  | ack
  /-- The handler failed for good. -/
  | rejected
  /-- The handler failed, and the message will be handed out again. -/
  | redelivered
  /-- The handler failed, and no redelivery is left. -/
  | dropped
  /-- The body is no event, and the handler was not called. -/
  | undecodable
  deriving DecidableEq, Repr

/-- The name of a delivery's result. -/
def DeliveryResult.label : DeliveryResult → String
  | .ack => "ack"
  | .rejected => "rejected"
  | .redelivered => "redelivered"
  | .dropped => "dropped"
  | .undecodable => "undecodable"

/-- A series of measurements. -/
inductive Series where
  /-- Handled reports by outcome. -/
  | reports (outcome : ReportOutcome)
  /-- Probes by outcome. -/
  | probes (outcome : ProbeOutcome)
  /-- Hostnames appended to the list. -/
  | promotions
  /-- The length of the list after the last promotion. -/
  | forbidden
  /-- Deliveries by topic and result. -/
  | deliveries (topic : String) (result : DeliveryResult)
  deriving DecidableEq, Repr

namespace Series

/-- The name of a series without its labels. -/
def name : Series → String
  | .reports _ => "blacklister_reports_total"
  | .probes _ => "blacklister_probes_total"
  | .promotions => "blacklister_promotions_total"
  | .forbidden => "blacklister_forbidden_hostnames"
  | .deliveries _ _ => "event_deliveries_total"

/-- The labels of a series in order of their names. -/
def labels : Series → List (String × String)
  | .reports outcome => [("outcome", outcome.label)]
  | .probes outcome => [("outcome", outcome.label)]
  | .promotions => []
  | .forbidden => []
  | .deliveries topic result => [("result", result.label), ("topic", topic)]

end Series

/-- The series recorded so far with their values. -/
abbrev Metrics := List (Series × Nat)

namespace Metrics

/-- The value of a series, 0 if it was never recorded. -/
def value (m : Metrics) (s : Series) : Nat :=
  (m.lookup s).getD 0

/-- Change the value of a series, which becomes recorded. -/
def update (s : Series) (f : Nat → Nat) : Metrics → Metrics
  | [] => [(s, f 0)]
  | (t, n) :: rest => if s = t then (t, f n) :: rest else (t, n) :: update s f rest

/-- Count one more. -/
def count (m : Metrics) (s : Series) : Metrics :=
  update s (· + 1) m

/-- Record a promotion and the length of the list it gave. -/
def promote (m : Metrics) (length : Nat) : Metrics :=
  update .forbidden (fun _ => length) (m.count .promotions)

end Metrics

end HostWatch
