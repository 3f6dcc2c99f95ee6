import HostWatch.Settings.Basic
import HostWatch.Toml.Quoted

/-!
# Settings as TOML

Settings are printed section by section in a fixed order, every setting on a line of
its own and an empty line between sections; settings that are absent are left out.
-/

namespace HostWatch.Settings

open Toml

/-- A line with a key and a written value. -/
def line (key : String) (written : List Char) : List Char :=
  key.toList ++ [' ', '=', ' '] ++ written ++ ['\n']

/-- A line with a text. -/
def textLine (key : String) (s : String) : List Char :=
  line key (Quoted.write s.toList)

/-- A line with a text that may be absent. -/
def optionalLine (key : String) : Option String → List Char
  | none => []
  | some s => textLine key s

/-- A line with a whole number. -/
def wholeLine (key : String) (z : Int) : List Char :=
  line key (Decimal.ofInt z)

/-- A line with a truth value. -/
def truthLine (key : String) (b : Bool) : List Char :=
  line key (if b then "true".toList else "false".toList)

/-- The header of a section. -/
def header (name : String) : List Char :=
  '[' :: (name.toList ++ [']', '\n'])

/-- The text of the settings. -/
def print (s : Settings) : List Char :=
  header "config_api" ++
    textLine "bind_address" s.configApi.bindAddress ++
    textLine "url" s.configApi.url ++
    wholeLine "request_timeout_secs" s.configApi.requestTimeoutSecs.toNat ++
    optionalLine "persistence_path" s.configApi.persistencePath ++
  '\n' :: header "cache" ++
    textLine "name" s.cache.name ++
    optionalLine "persistence_path" s.cache.persistencePath ++
  '\n' :: header "prober" ++
    wholeLine "timeout_secs" s.prober.timeoutSecs.toNat ++
    textLine "user_agent" s.prober.userAgent ++
    optionalLine "proxy_url" s.prober.proxyUrl ++
  '\n' :: header "events" ++
    textLine "topic" s.events.topic ++
    textLine "queue" s.events.queue ++
    wholeLine "concurrency" s.events.concurrency.toNat ++
    wholeLine "max_redeliveries" s.events.maxRedeliveries.toNat ++
    wholeLine "base_delay_ms" s.events.baseDelayMs.toNat ++
    wholeLine "max_delay_ms" s.events.maxDelayMs.toNat ++
  '\n' :: header "engine" ++
    textLine "promotion_guard" s.engine.promotionGuard.name ++
  '\n' :: header "defaults" ++
    wholeLine "blacklist_threshold" s.defaults.blacklistThreshold.toInt ++
  '\n' :: header "observability" ++
    textLine "log_level" s.observability.logLevel ++
    textLine "log_format" s.observability.logFormat.name ++
    truthLine "metrics_enabled" s.observability.metricsEnabled ++
    textLine "metrics_address" s.observability.metricsAddress

end HostWatch.Settings
