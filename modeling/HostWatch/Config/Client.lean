import HostWatch.Config.Access
import HostWatch.Config.Service
import HostWatch.Http.Network
import HostWatch.Idna
import HostWatch.Url.Parser

/-!
# The config client

A client reads and writes the shared configuration through a service somewhere on
the network. It knows the URL of the service; the URL of a value is that URL with the
segments `config` and the key put behind its path.
-/

namespace HostWatch

open Http

/-- A client of the config service. -/
structure ConfigClient where
  /-- The URL of the service. -/
  base : Url
  deriving DecidableEq

namespace ConfigClient

/-- A client of the service at a URL, unless no path can be put behind it. What makes the requests is
outside (`Network`), and that it may not come up at all is not in this model: of the failures of a
connection, this has those that are due to the URL. -/
def connect (url : String) : Except ConfigError ConfigClient :=
  match Url.parse Idna.toAscii? url.toList with
  | .error e => .error (.invalidUrl (url ++ ": " ++ e.message))
  | .ok u =>
    if u.cannotBeABase then .error (.invalidUrl (String.ofList u.text))
    else .ok ⟨u⟩

/-- The URL of the value under a key. -/
def keyUrl (c : ConfigClient) (key : String) : Except ConfigError Url :=
  match c.base.pushSegments? ["config".toList, key.toList] with
  | some u => .ok u
  | none => .error (.invalidUrl (String.ofList c.base.text))

/-- The value that an exchange brings. -/
def valueOf (key : String) : Exchange → Except ConfigError Bytes
  | .response r =>
    if r.status = 404 then .error (.notFound key)
    else if r.isSuccess then .ok r.body
    else .error (.status key r.status)
  | _ => .error .transport

/-- Whether an exchange confirms a write. -/
def confirmationOf (key : String) : Exchange → Except ConfigError Unit
  | .response r => if r.isSuccess then .ok () else .error (.status key r.status)
  | _ => .error .transport

/-- The request for the value at a URL. -/
def readRequest (u : Url) : Request :=
  { method := .get, target := targetOf u }

/-- The request that writes a value at a URL. -/
def writeRequest (u : Url) (value : Bytes) : Request :=
  { method := .put, target := targetOf u, contentType := some "application/json", body := value }

/-- Access to the shared configuration through the service. -/
def access {σ : Type} (network : Network σ) (c : ConfigClient) : ConfigAccess σ where
  get key s :=
    match c.keyUrl key with
    | .error e => (.error e, s)
    | .ok u =>
      let (exchange, s) := network u none (readRequest u) s
      (valueOf key exchange, s)
  set key value s :=
    match c.keyUrl key with
    | .error e => (.error e, s)
    | .ok u =>
      let (exchange, s) := network u none (writeRequest u value) s
      (confirmationOf key exchange, s)

end ConfigClient

/-- A network on which every server is the config service of one store. -/
def ConfigService.network : Network ConfigStore := fun _ _ r s =>
  match ConfigService.handle? r s with
  | (some response, s) => (.response response, s)
  | (none, s) => (.failed, s)

end HostWatch
