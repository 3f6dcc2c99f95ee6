/-!
# Settings

What can be set, section by section, and the defaults. `Settings` is the whole of it.
-/

namespace HostWatch

namespace Settings

/-- The service of the shared configuration and its client. -/
structure ConfigApi where
  /-- The address at which the service listens. -/
  bindAddress : String := "127.0.0.1:8085"
  /-- The URL at which the client reaches the service. -/
  url : String := "http://127.0.0.1:8085"
  /-- How long a request may take, in seconds. -/
  requestTimeoutSecs : UInt64 := 5
  /-- The file that backs the store. -/
  persistencePath : Option String := none
  deriving DecidableEq, Repr

/-- The failure counters. -/
structure Cache where
  /-- The name in front of every key. -/
  name : String := "down-hostname"
  /-- The file that backs the counters. -/
  persistencePath : Option String := none
  deriving DecidableEq, Repr

/-- The probes. -/
structure Prober where
  /-- How long a probe may take, in seconds; silence beyond it confirms a timeout. -/
  timeoutSecs : UInt64 := 30
  /-- How probes name themselves. -/
  userAgent : String := "hostname-blacklister"
  /-- The proxy through which all probes go. -/
  proxyUrl : Option String := none
  deriving DecidableEq, Repr

/-- The events and their redelivery. -/
structure Events where
  /-- The topic on which reports are published. -/
  topic : String := "timeout-url"
  /-- The queue of the subscription. -/
  queue : String := "blacklistingQueue"
  /-- How many messages are handled at once. -/
  concurrency : UInt64 := 16
  /-- How often a failed message is handed out again. -/
  maxRedeliveries : UInt32 := 3
  /-- The delay before the first redelivery, in milliseconds. -/
  baseDelayMs : UInt64 := 500
  /-- The cap of that delay, in milliseconds. -/
  maxDelayMs : UInt64 := 10000
  deriving DecidableEq, Repr

/-- How the updates for one hostname are guarded against each other. -/
inductive Guard where
  /-- Not at all. -/
  | bestEffort
  /-- By a lock for each hostname. -/
  | perHostname
  deriving DecidableEq, Repr

/-- The decisions. -/
structure Engine where
  /-- How updates are guarded. -/
  promotionGuard : Guard := .bestEffort
  deriving DecidableEq, Repr

/-- What is written into the shared configuration where nothing is. -/
structure Defaults where
  /-- The threshold of confirmed timeouts. -/
  blacklistThreshold : Int64 := 5
  deriving DecidableEq, Repr

/-- The form of log lines. -/
inductive LogFormat where
  /-- For people. -/
  | pretty
  /-- For machines. -/
  | json
  deriving DecidableEq, Repr

/-- The logs and metrics. -/
structure Observability where
  /-- The level of the logs. -/
  logLevel : String := "info"
  /-- The form of the logs. -/
  logFormat : LogFormat := .pretty
  /-- Whether metrics are served. -/
  metricsEnabled : Bool := false
  /-- The address at which metrics are served. -/
  metricsAddress : String := "0.0.0.0:9090"
  deriving DecidableEq, Repr

/-- The name of a guard. -/
def Guard.name : Guard → String
  | .bestEffort => "best_effort"
  | .perHostname => "per_hostname"

/-- The name of a form of log lines. -/
def LogFormat.name : LogFormat → String
  | .pretty => "pretty"
  | .json => "json"

/-- The filter of log lines at a level. -/
def logDirective (level : String) : String :=
  "hostname_blacklister=" ++ level ++ ",blacklister=" ++ level ++ ",tower_http=info"

end Settings

/-- Everything that can be set. -/
structure Settings where
  /-- The service of the shared configuration and its client. -/
  configApi : Settings.ConfigApi := {}
  /-- The failure counters. -/
  cache : Settings.Cache := {}
  /-- The probes. -/
  prober : Settings.Prober := {}
  /-- The events and their redelivery. -/
  events : Settings.Events := {}
  /-- The decisions. -/
  engine : Settings.Engine := {}
  /-- What is written into the shared configuration where nothing is. -/
  defaults : Settings.Defaults := {}
  /-- The logs and metrics. -/
  observability : Settings.Observability := {}
  deriving DecidableEq, Repr

end HostWatch
