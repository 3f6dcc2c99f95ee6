import HostWatch.Http.Network
import HostWatch.Idna
import HostWatch.Probe
import HostWatch.Settings.Basic
import HostWatch.Url.Parser

/-!
# The prober

A probe is one request for an origin, perhaps through a proxy. Any response proves
that the host is up; only silence until the deadline confirms that it is not.
-/

namespace HostWatch

open Http

/-- Whether octets can stand as the value of a header field. -/
def isFieldValue (bs : Bytes) : Bool :=
  bs.all fun b => b = 0x09 || (0x20 ≤ b && b ≠ 0x7F)

/-- Whoever sends probes. -/
structure Prober where
  /-- How probes name themselves. -/
  userAgent : String
  /-- The proxy through which they go. -/
  proxy : Option Url
  deriving DecidableEq

namespace Prober

/-- The URL that a text stands for, if it names a host. -/
def hostUrl? (s : String) : Option Url :=
  match Url.parse Idna.toAscii? s.toList with
  | .ok u => if u.host.isSome then some u else none
  | .error _ => none

/-- The proxy that a text stands for; where it names no scheme or no host, `http` is meant. -/
def proxyUrl? (s : String) : Option Url :=
  match Url.parse Idna.toAscii? s.toList with
  | .ok u => if u.host.isSome then some u else hostUrl? ("http://" ++ s)
  | .error .noScheme => hostUrl? ("http://" ++ s)
  | .error _ => none

/-- The prober that is set, unless its name or its proxy makes no sense. -/
def ofSettings? (s : Settings.Prober) : Option Prober :=
  if isFieldValue (Utf8.ofString s.userAgent) then
    match s.proxyUrl with
    | none => some ⟨s.userAgent, none⟩
    | some proxy => (proxyUrl? proxy).map fun u => ⟨s.userAgent, some u⟩
  else none

/-- The result of a probe whose exchange is over. -/
def resultOf : Exchange → ProbeResult
  | .response r => .response r.status
  | .timedOut => .timeout
  | .failed => .failure

/-- Whether requests can be made to the server of a URL. -/
def speaksTo (u : Url) : Bool :=
  u.host.isSome && (u.scheme = "http".toList || u.scheme = "https".toList)

/-- Probe an origin. -/
def probe {σ : Type} (network : Network σ) (p : Prober) (origin : String) (s : σ) :
    ProbeResult × σ :=
  match hostUrl? origin with
  | none => (.failure, s)
  | some u =>
    if speaksTo u then
      let (exchange, s) := network u p.proxy
        { method := .get, target := targetOf u, userAgent := some p.userAgent } s
      (resultOf exchange, s)
    else (.failure, s)

end Prober

end HostWatch
