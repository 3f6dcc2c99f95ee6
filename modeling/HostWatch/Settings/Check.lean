import HostWatch.Settings.Reader
import HostWatch.Net.SocketAddress
import HostWatch.Text.Blank
import HostWatch.Idna
import HostWatch.Url.Parser

/-!
# Settings that make sense

`problems` lists everything in the settings that cannot be worked with, in a fixed
order; settings are accepted when there is nothing to list.
-/

namespace HostWatch.Settings

/-- Something in the settings that cannot be worked with. -/
structure Problem where
  /-- The setting, with its section. -/
  field : String
  /-- What is wrong with it. -/
  text : String
  deriving DecidableEq, Repr

/-- A problem in one line. -/
def Problem.message (p : Problem) : String :=
  p.field ++ ": " ++ p.text

/-- The problem of a setting, if a condition does not hold. -/
def expect (fits : Bool) (field text : String) : List Problem :=
  if fits then [] else [⟨field, text⟩]

/-- Whether a text is a socket address. -/
def isSocketAddress (s : String) : Bool :=
  (SocketAddress.read? s.toList).isSome

/-- Whether a text is a URL. -/
def isUrl (s : String) : Bool :=
  match Url.parse Idna.toAscii? s.toList with
  | .ok _ => true
  | .error _ => false

/-- Whether a text has more than blanks. -/
def isFilled (s : String) : Bool :=
  Text.trim s.toList ≠ []

/-- Everything in the settings that cannot be worked with. -/
def problems (s : Settings) : List Problem :=
  expect (isSocketAddress s.configApi.bindAddress) "config_api.bind_address"
      ("'" ++ s.configApi.bindAddress ++ "' is not a socket address") ++
    expect (isUrl s.configApi.url) "config_api.url"
      ("'" ++ s.configApi.url ++ "' is not a valid URL") ++
    expect (s.configApi.requestTimeoutSecs ≠ 0) "config_api.request_timeout_secs" "must be > 0" ++
    expect (isFilled s.cache.name) "cache.name" "must not be empty" ++
    expect (s.prober.timeoutSecs ≠ 0) "prober.timeout_secs" "must be > 0" ++
    (match s.prober.proxyUrl with
      | none => []
      | some proxy =>
        expect (isUrl proxy) "prober.proxy_url" ("'" ++ proxy ++ "' is not a valid URL")) ++
    expect (isFilled s.events.topic) "events.topic" "must not be empty" ++
    expect (isFilled s.events.queue) "events.queue" "must not be empty" ++
    expect (s.events.concurrency ≠ 0) "events.concurrency" "must be > 0" ++
    expect (s.events.baseDelayMs ≤ s.events.maxDelayMs) "events.base_delay_ms"
      "must not exceed events.max_delay_ms" ++
    expect (1 ≤ s.defaults.blacklistThreshold) "defaults.blacklist_threshold" "must be >= 1" ++
    expect (!s.observability.metricsEnabled || isSocketAddress s.observability.metricsAddress)
      "observability.metrics_address"
      ("'" ++ s.observability.metricsAddress ++ "' is not a socket address")

/-- Why settings were not accepted. -/
inductive Refusal where
  /-- There is no such file, or it is not UTF-8. -/
  | unreadable
  /-- The document is not TOML, or a setting is of the wrong type. -/
  | unparsable
  /-- Some settings cannot be worked with. -/
  | invalid (problems : List Problem)
  deriving DecidableEq, Repr

/-- The text of a refusal, where it is this program's own. -/
def Refusal.message? : Refusal → Option String
  | .unreadable => none
  | .unparsable => none
  | .invalid ps => some ("Validation failed: " ++ String.intercalate ", " (ps.map Problem.message))

/-- The settings that a document gives, if they make sense. -/
def parse (document : String) : Except Refusal Settings :=
  match read? document with
  | none => .error .unparsable
  | some s =>
    match problems s with
    | [] => .ok s
    | ps => .error (.invalid ps)

/-- The settings in a file with the given octets, if there is one. -/
def load (file : Option Bytes) : Except Refusal Settings :=
  match file.bind Utf8.toString? with
  | none => .error .unreadable
  | some document => parse document

end HostWatch.Settings
