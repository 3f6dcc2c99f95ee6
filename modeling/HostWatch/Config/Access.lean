import HostWatch.Config.Error
import HostWatch.Config.Forbidden

/-!
# Access to the shared configuration

Whoever uses the shared configuration reads and writes octets under keys, be it in
the same process or over the network: `ConfigAccess` is that interface, for a state
of any type. On top of it stand the two typed values and the seeding of the
threshold.

The typed values are always read through these octets. That a key was never written is an
answer about octets, and it brings the empty list, but no threshold; so reading the list
never fails with `notFound`, and reading the threshold may.
-/

namespace HostWatch

/-- The list that an answer under its key brings; a list that was never written is empty. -/
def ForbiddenList.ofAnswer : Except ConfigError Bytes → Except ConfigError ForbiddenList
  | .ok bs =>
    match ForbiddenList.decode bs with
    | .ok l => .ok l
    | .error fault => .error (.undecodable fault)
  | .error (.notFound _) => .ok []
  | .error e => .error e

/-- The threshold that an answer under its key brings. -/
def Threshold.ofAnswer : Except ConfigError Bytes → Except ConfigError Int64
  | .ok bs =>
    match Threshold.decode bs with
    | .ok t => .ok t
    | .error fault => .error (.undecodable fault)
  | .error e => .error e

/-- Reading and writing octets under keys, below the typed values: what is read is typed by
`ForbiddenList.ofAnswer` and `Threshold.ofAnswer`, whoever answers. -/
structure ConfigAccess (σ : Type) where
  /-- Read what is stored under a key. -/
  get : String → σ → Except ConfigError Bytes × σ
  /-- Write under a key, in place of what is there. -/
  set : String → Bytes → σ → Except ConfigError Unit × σ

namespace ConfigAccess

variable {σ : Type}

/-- Read the forbidden hostnames. -/
def readList (c : ConfigAccess σ) (s : σ) : Except ConfigError ForbiddenList × σ :=
  let (answer, s) := c.get forbiddenKey s
  (ForbiddenList.ofAnswer answer, s)

/-- Read the threshold. -/
def readThreshold (c : ConfigAccess σ) (s : σ) : Except ConfigError Int64 × σ :=
  let (answer, s) := c.get thresholdKey s
  (Threshold.ofAnswer answer, s)

/-- Write a value of JSON under a key. -/
def setValue (c : ConfigAccess σ) (key : String) (v : Json.Value) (s : σ) :
    Except ConfigError Unit × σ :=
  c.set key v.encode s

/-- Write the forbidden hostnames. -/
def writeList (c : ConfigAccess σ) (l : ForbiddenList) (s : σ) : Except ConfigError Unit × σ :=
  c.setValue forbiddenKey l.toValue s

/-- Write the default threshold if a reading has found none; says whether it was written. The store
may have changed since the reading, and nothing asks for it again. -/
def writeDefault (c : ConfigAccess σ) (default : Int64) (read : Except ConfigError Int64) (s : σ) :
    Except ConfigError Bool × σ :=
  match read with
  | .ok _ => (.ok false, s)
  | .error (.notFound _) =>
    let (written, s) := c.setValue thresholdKey (Threshold.toValue default) s
    (written.map fun _ => true, s)
  | .error e => (.error e, s)

/-- Write the default threshold where none is set; says whether it was written. -/
def seed (c : ConfigAccess σ) (default : Int64) (s : σ) : Except ConfigError Bool × σ :=
  let (read, s) := c.readThreshold s
  c.writeDefault default read s

end ConfigAccess

end HostWatch
