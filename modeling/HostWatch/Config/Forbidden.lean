import HostWatch.Json.Reader
import HostWatch.Json.Printer
import HostWatch.Text.Ascii

/-!
# The values of the shared configuration

Two values are shared: the list of forbidden hostnames and the threshold of
confirmed timeouts. Their written forms are JSON. A hostname counts as listed when
an entry equals it ignoring ASCII case.
-/

namespace HostWatch

/-- The key that holds the list of forbidden hostnames. -/
def forbiddenKey : String := "forbidden-hostnames"

/-- The key that holds the threshold. -/
def thresholdKey : String := "blacklist-threshold"

/-- The forbidden hostnames, in the order of their listing. -/
abbrev ForbiddenList := List String

namespace ForbiddenList

/-- Whether an entry equals the hostname ignoring ASCII case. -/
def Listed (l : ForbiddenList) (hostname : String) : Prop :=
  ∃ entry ∈ l, Ascii.EqFold entry hostname

/-- Whether a hostname is listed is decided by going through the list. -/
instance (l : ForbiddenList) (hostname : String) : Decidable (Listed l hostname) :=
  inferInstanceAs (Decidable (∃ entry ∈ l, Ascii.EqFold entry hostname))

/-- Read the list: an array of records with the one field `hostname`. -/
def reader : Json.Reader ForbiddenList :=
  Json.list (Json.record "hostname" Json.string)

/-- The list as a JSON value. -/
def toValue (l : ForbiddenList) : Json.Value :=
  .array (l.map fun h => .object [("hostname", .string h)])

/-- The written form of the list. -/
def encode (l : ForbiddenList) : Bytes :=
  (toValue l).encode

/-- The list with the given written form. -/
def decode (bs : Bytes) : Except Json.Fault ForbiddenList :=
  Json.decode reader bs

end ForbiddenList

namespace Threshold

/-- Read the threshold: a record with the one field `threshold`. -/
def reader : Json.Reader Int64 :=
  Json.record "threshold" Json.int64

/-- The threshold as a JSON value. -/
def toValue (t : Int64) : Json.Value :=
  .object [("threshold", .ofInt t.toInt)]

/-- The written form of the threshold. -/
def encode (t : Int64) : Bytes :=
  (toValue t).encode

/-- The threshold with the given written form. -/
def decode (bs : Bytes) : Except Json.Fault Int64 :=
  Json.decode reader bs

end Threshold

end HostWatch
