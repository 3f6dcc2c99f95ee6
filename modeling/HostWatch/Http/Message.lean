import HostWatch.Text.Utf8

/-!
# Messages of HTTP

Requests and responses as far as the services and clients here look at them. A
method is a token, and its case counts. The target of a request is kept as it is
written in the request line; `Http/RequestTarget` reads it.
-/

namespace HostWatch.Http

/-- The method of a request. -/
inductive Method where
  /-- `GET`. -/
  | get
  /-- `HEAD`. -/
  | head
  /-- `PUT`. -/
  | put
  /-- Any other token. -/
  | other (token : String)
  deriving DecidableEq, Repr

/-- A request. -/
structure Request where
  /-- The method. -/
  method : Method
  /-- The target as it is written in the request line. -/
  target : Bytes
  /-- How the client names itself. -/
  userAgent : Option String := none
  /-- The content type of the body. -/
  contentType : Option String := none
  /-- The body. -/
  body : Bytes := []
  deriving DecidableEq, Repr

/-- A response. -/
structure Response where
  /-- The status code. -/
  status : Nat
  /-- The content type of the body. -/
  contentType : Option String := none
  /-- The methods that are allowed, where the response names them. -/
  allow : Option String := none
  /-- The body. -/
  body : Bytes := []
  deriving DecidableEq, Repr

/-- Whether a response reports success. -/
def Response.isSuccess (r : Response) : Bool :=
  200 ≤ r.status && r.status < 300

end HostWatch.Http
