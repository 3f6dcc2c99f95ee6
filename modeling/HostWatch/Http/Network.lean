import HostWatch.Http.Message
import HostWatch.Url.Basic

/-!
# Networks

A network brings requests to servers and their responses back. It is an interface
over a state of any type, that of the servers behind it; it follows redirections, so
the response is the last one. An exchange can also end in silence until the deadline
or fail in any other way.
-/

namespace HostWatch.Http

/-- What an exchange of a request for a response came to. -/
inductive Exchange where
  /-- A response came back. -/
  | response (r : Response)
  /-- Nothing came back before the deadline. -/
  | timedOut
  /-- The exchange failed. -/
  | failed
  deriving DecidableEq, Repr

/-- Bring a request to the server of a URL, through a proxy if one is given. -/
abbrev Network (σ : Type) :=
  (server : Url) → (proxy : Option Url) → Request → σ → Exchange × σ

/-- A network that brings nothing anywhere. -/
def Network.isolated {σ : Type} : Network σ :=
  fun _ _ _ s => (.failed, s)

/-- The target of a request for what a URL names. -/
def targetOf (u : Url) : Bytes :=
  Utf8.encode u.requestTarget

end HostWatch.Http
