import HostWatch.Config.Store
import HostWatch.Http.RequestTarget
import HostWatch.Url.Percent

/-!
# The config service

The service gives access to a store of the shared configuration over HTTP. The value
under a key is read with `GET` and written with `PUT` at `/config/` followed by the
key, percent-encoded, as the one further segment of the path. A value travels as it
is stored, octet by octet, and a write is answered with the value written.
-/

namespace HostWatch.ConfigService

open Http

/-- The greatest length of a value that can be written. -/
def maxValueLength : Nat := 1048576

/-- The path in front of a key. -/
def root : Bytes :=
  Utf8.ofString "/config/"

/-- The segment of a path that stands for a key, if the path has the service's form. -/
def segment? (path : Bytes) : Option Bytes :=
  if root.isPrefixOf path then
    let segment := path.drop root.length
    if segment ≠ [] ∧ 0x2F ∉ segment then some segment else none
  else none

/-- The key that a segment stands for, if it is text. -/
def key? (segment : Bytes) : Option String :=
  Utf8.toString? (Url.percentDecode segment)

/-! ### Responses -/

/-- A response without a body. -/
def plain (status : Nat) : Response :=
  { status }

/-- A response that says in words why a request is refused. -/
def refusal (status : Nat) (reason : String) : Response :=
  { status, contentType := some "text/plain; charset=utf-8", body := Utf8.ofString reason }

/-- A response with a value. -/
def value (bs : Bytes) : Response :=
  { status := 200, contentType := some "application/json", body := bs }

/-- The response to a method that the service does not serve. -/
def methodNotAllowed : Response :=
  { status := 405, allow := some "GET,HEAD,PUT" }

/-- The response to a segment that is no text. -/
def undecodable : Response :=
  refusal 400 "Invalid URL: Invalid UTF-8 in `key`"

/-- The response to a value that is too long. -/
def tooLong : Response :=
  refusal 413 "Failed to buffer the request body: length limit exceeded"

/-- A response without its body. -/
def headOf (r : Response) : Response :=
  { r with body := [] }

/-! ### Requests -/

/-- Read the value under a key. -/
def read (key : String) (s : ConfigStore) : Response :=
  match s.get key with
  | .ok bs => value bs
  | .error (.notFound _) => plain 404
  | .error _ => plain 500

/-- Write a value under a key. -/
def write (key : String) (body : Bytes) (s : ConfigStore) : Response × ConfigStore :=
  if maxValueLength < body.length then (tooLong, s)
  else
    match s.set key body with
    | .ok s => (value body, s)
    | .error _ => (plain 500, s)

/-- Answer a request at a segment. -/
def serve (method : Method) (segment body : Bytes) (s : ConfigStore) : Response × ConfigStore :=
  match method with
  | .other _ => (methodNotAllowed, s)
  | .get => (((key? segment).map (read · s)).getD undecodable, s)
  | .head => (headOf (((key? segment).map (read · s)).getD undecodable), s)
  | .put =>
    match key? segment with
    | some key => write key body s
    | none => (undecodable, s)

/-- Answer a request whose target could be read. -/
def route (method : Method) (path body : Bytes) (s : ConfigStore) : Response × ConfigStore :=
  match segment? path with
  | some segment => serve method segment body s
  | none => (plain 404, s)

/-- Answer a request; nothing is answered if its target is not one. -/
def handle? (r : Request) (s : ConfigStore) : Option Response × ConfigStore :=
  match RequestTarget.parse? r.target with
  | some target =>
    let (response, s) := route r.method target.path r.body s
    (some response, s)
  | none => (none, s)

end HostWatch.ConfigService
