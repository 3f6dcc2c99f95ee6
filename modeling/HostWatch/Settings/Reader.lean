import HostWatch.Settings.Basic
import HostWatch.Toml.Reader

/-!
# Settings from TOML

Each section of the settings is a table of a TOML document; what is missing keeps its
default, and keys that name no setting are passed over. A section may also be given
as an array of its fields in order, and one given as a date stands for its defaults.
A setting of the wrong type makes the whole document unreadable.
-/

namespace HostWatch.Settings

open Toml

/-- Read a setting from a value of TOML. -/
abbrev Field (α : Type) := Value → Option α

/-- Read a text. -/
def text : Field String
  | .string s => some s
  | _ => none

/-- Read a text that may be missing. -/
def optionalText : Field (Option String)
  | .string s => some (some s)
  | _ => none

/-- Read a truth value. -/
def truth : Field Bool
  | .boolean b => some b
  | _ => none

/-- Read a whole number between `low` and `high`. -/
def whole (low high : Int) : Field Int
  | .integer z => if low ≤ z ∧ z ≤ high then some z else none
  | _ => none

/-- Read a word of 64 bits. -/
def word64 : Field UInt64 := fun v => (whole 0 (Int.ofNat (UInt64.size - 1)) v).map fun z => UInt64.ofNat z.toNat

/-- Read a word of 32 bits. -/
def word32 : Field UInt32 := fun v => (whole 0 (Int.ofNat (UInt32.size - 1)) v).map fun z => UInt32.ofNat z.toNat

/-- Read a signed number of 64 bits. -/
def signed64 : Field Int64 := fun v => (whole Int64.minValue.toInt Int64.maxValue.toInt v).map Int64.ofInt

/-- A value that stands for nothing. -/
def isUnit : Value → Bool
  | .array [] => true
  | .table [] => true
  | _ => false

/-- Read one of some names; a name may also be the one key of a table, its value standing for nothing. -/
def oneOf {α : Type} (choices : List (String × α)) : Field α
  | .string s => choices.lookup s
  | .table [(s, v)] => if isUnit v then choices.lookup s else none
  | _ => none

/-- Read a section field by field, each field by its name or its place. -/
def ofFields {σ : Type} (fields : List (String × (σ → Value → Option σ))) (s : σ) : Value → Option σ
  | .table entries =>
    entries.foldlM (fun s e => match fields.lookup e.1 with
      | some set => set s e.2
      | none => some s) s
  | .array items => (fields.zip items).foldlM (fun s f => f.1.2 s f.2) s
  | .dateTime _ => some s
  | _ => none

/-- Read the section of the service and its client. -/
def ConfigApi.read : Field ConfigApi :=
  ofFields [
    ("bind_address", fun s v => (text v).map fun a => { s with bindAddress := a }),
    ("url", fun s v => (text v).map fun a => { s with url := a }),
    ("request_timeout_secs", fun s v => (word64 v).map fun a => { s with requestTimeoutSecs := a }),
    ("persistence_path", fun s v => (optionalText v).map fun a => { s with persistencePath := a })] {}

/-- Read the section of the counters. -/
def Cache.read : Field Cache :=
  ofFields [
    ("name", fun s v => (text v).map fun a => { s with name := a }),
    ("persistence_path", fun s v => (optionalText v).map fun a => { s with persistencePath := a })] {}

/-- Read the section of the probes. -/
def Prober.read : Field Prober :=
  ofFields [
    ("timeout_secs", fun s v => (word64 v).map fun a => { s with timeoutSecs := a }),
    ("user_agent", fun s v => (text v).map fun a => { s with userAgent := a }),
    ("proxy_url", fun s v => (optionalText v).map fun a => { s with proxyUrl := a })] {}

/-- Read the section of the events. -/
def Events.read : Field Events :=
  ofFields [
    ("topic", fun s v => (text v).map fun a => { s with topic := a }),
    ("queue", fun s v => (text v).map fun a => { s with queue := a }),
    ("concurrency", fun s v => (word64 v).map fun a => { s with concurrency := a }),
    ("max_redeliveries", fun s v => (word32 v).map fun a => { s with maxRedeliveries := a }),
    ("base_delay_ms", fun s v => (word64 v).map fun a => { s with baseDelayMs := a }),
    ("max_delay_ms", fun s v => (word64 v).map fun a => { s with maxDelayMs := a })] {}

/-- Read a guard. -/
def Guard.read : Field Guard :=
  oneOf [(Guard.bestEffort.name, .bestEffort), (Guard.perHostname.name, .perHostname)]

/-- Read the section of the decisions. -/
def Engine.read : Field Engine :=
  ofFields [
    ("promotion_guard", fun s v => (Guard.read v).map fun a => { s with promotionGuard := a })] {}

/-- Read the section of the defaults. -/
def Defaults.read : Field Defaults :=
  ofFields [
    ("blacklist_threshold", fun s v => (signed64 v).map fun a => { s with blacklistThreshold := a })]
    {}

/-- Read a form of log lines. -/
def LogFormat.read : Field LogFormat :=
  oneOf [(LogFormat.pretty.name, .pretty), (LogFormat.json.name, .json)]

/-- Read the section of the logs and metrics. -/
def Observability.read : Field Observability :=
  ofFields [
    ("log_level", fun s v => (text v).map fun a => { s with logLevel := a }),
    ("log_format", fun s v => (LogFormat.read v).map fun a => { s with logFormat := a }),
    ("metrics_enabled", fun s v => (truth v).map fun a => { s with metricsEnabled := a }),
    ("metrics_address", fun s v => (text v).map fun a => { s with metricsAddress := a })] {}

/-- Read all settings. -/
def everything : Field Settings :=
  ofFields [
    ("config_api", fun s v => (ConfigApi.read v).map fun a => { s with configApi := a }),
    ("cache", fun s v => (Cache.read v).map fun a => { s with cache := a }),
    ("prober", fun s v => (Prober.read v).map fun a => { s with prober := a }),
    ("events", fun s v => (Events.read v).map fun a => { s with events := a }),
    ("engine", fun s v => (Engine.read v).map fun a => { s with engine := a }),
    ("defaults", fun s v => (Defaults.read v).map fun a => { s with defaults := a }),
    ("observability", fun s v => (Observability.read v).map fun a => { s with observability := a })] {}

/-- The settings that a document gives, whether they make sense or not. -/
def read? (document : String) : Option Settings := do
  everything (.table (← Toml.read document.toList))

end HostWatch.Settings
