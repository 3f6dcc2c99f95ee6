import HostWatch.Decision.Error
import HostWatch.Idna
import HostWatch.Url.Parser

/-!
# Targets

The host that a report is about: the hostname under which it is counted and listed,
and the origin to which a probe is sent.
-/

namespace HostWatch

/-- The host that a report is about. -/
structure Target where
  /-- The host without port or brackets. -/
  hostname : String
  /-- The scheme, host and port. -/
  origin : String
  deriving DecidableEq, Repr

namespace Target

/-- The reason given for a URL without a host. -/
def noHost : String := "URL has no host"

/-- The target of a URL, with a given way to bring domain names into ASCII. -/
def ofUrl (toAscii : Url.DomainToAscii) (url : String) : Except DecisionError Target :=
  match Url.parse toAscii url.toList with
  | .error e => .error (.malformedUrl url e.message)
  | .ok u =>
    match u.host with
    | none => .error (.malformedUrl url noHost)
    | some h => .ok ⟨String.ofList h.plainText, String.ofList (u.originText h)⟩

/-- The target of a URL. -/
def parse (url : String) : Except DecisionError Target :=
  ofUrl Idna.toAscii? url

end Target

end HostWatch
