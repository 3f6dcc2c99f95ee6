import HostWatch.Json.Reader
import HostWatch.Json.Printer

/-!
# Timeout reports

A report claims that a request to a URL did not complete in time. Its written form
is the JSON object with the one member `url`.
-/

namespace HostWatch

/-- A claim that a request to `url` did not complete in time. -/
structure Report where
  /-- The URL as it was reported. -/
  url : String
  deriving DecidableEq, Repr

namespace Report

/-- Read a report. -/
def reader : Json.Reader Report := fun bs =>
  (Json.record "url" Json.string bs).map fun (url, rest) => (⟨url⟩, rest)

/-- A report as a JSON value. -/
def toValue (r : Report) : Json.Value :=
  .object [("url", .string r.url)]

/-- The written form of a report. -/
def encode (r : Report) : Bytes :=
  r.toValue.encode

/-- The report with the given written form. -/
def decode (bs : Bytes) : Except Json.Fault Report :=
  Json.decode reader bs

end Report

end HostWatch
