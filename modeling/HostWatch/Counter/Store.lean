import HostWatch.Counter.Access
import HostWatch.Storage.SnapshotFile
import HostWatch.Json.Printer
import HostWatch.Text.Decimal

/-!
# The store of the failure counters

Counters are texts under keys with a common name in front, in memory, and also in
a file if one is given. An entry may expire: from then on it is read as if it were
absent, though it stays until it is overwritten or purged. Instants are milliseconds
of one clock, and every operation that depends on the time is told the present. So are
the deadlines, in memory as in the file: a file keeps whole milliseconds only, and the
part of one that a finer clock would lose with each saving is not in this model.

As with the shared configuration, a write replaces the file first and changes the
memory only when that succeeded. A file never holds an entry that had expired before
it was written, the one just written apart.
-/

namespace HostWatch

/-- A stored counter. -/
structure CounterEntry where
  /-- The counter as text. -/
  value : String
  /-- When the entry expires, if it does. -/
  expiresAt : Option Nat
  deriving DecidableEq, Repr

/-- Whether an entry has not expired yet. -/
def CounterEntry.isLive (now : Nat) (e : CounterEntry) : Bool :=
  e.expiresAt.all (now < ·)

/-- The store of the failure counters. -/
structure CounterStore where
  /-- What stands in front of every key. -/
  name : String
  /-- The entries under their full keys, those that have expired included. -/
  entries : Keyed CounterEntry := []
  /-- The file that also holds the entries, if there is one. -/
  file : Option SnapshotFile := none
  deriving DecidableEq, Repr

namespace CounterStore

/-- The key of a counter with the name in front. -/
def fullKey (name key : String) : String :=
  name ++ ":" ++ key

/-! ### The file -/

/-- The largest instant that a file can hold. -/
def lastInstant : Nat := UInt64.size - 1

/-- An entry as a JSON value. -/
def entryValue (e : CounterEntry) : Json.Value :=
  match e.expiresAt with
  | none => .object [("value", .string e.value)]
  | some deadline => .object [("expires_at_ms", .ofInt (min deadline lastInstant)), ("value", .string e.value)]

/-- The written form of entries. -/
def encode (entries : Keyed CounterEntry) : Bytes :=
  (Json.Value.object (entries.map fun (key, e) => (key, entryValue e))).encode

/-- Read an entry. -/
def entryReader : Json.Reader CounterEntry := fun bs =>
  (Json.recordWithOption "value" Json.string "expires_at_ms" (Json.integer 0 lastInstant) bs).map
    fun ((value, deadline), rest) => (⟨value, deadline.map Int.toNat⟩, rest)

/-- Read the written form of entries. -/
def reader : Json.Reader (Keyed CounterEntry) :=
  Json.map entryReader

/-- The entries of a file that are kept when it is read. -/
def stillValid (now : Nat) (entries : Keyed CounterEntry) : Keyed CounterEntry :=
  entries.filter fun (_, e) => e.expiresAt.all (now ≤ ·)

/-- Open a store that is backed by a file, with what the file holds. -/
def openFile (now : Nat) (name : String) (file : SnapshotFile) :
    Except CounterError CounterStore :=
  match file.decode reader with
  | .ok entries => .ok ⟨name, stillValid now (entries.getD []), some file⟩
  | .error fault => .error (.storage fault)

/-- Open a store, backed by a file if one is given. -/
def openAt (now : Nat) (name : String) (file : Option SnapshotFile) :
    Except CounterError CounterStore :=
  match file with
  | some file => openFile now name file
  | none => .ok ⟨name, [], none⟩

/-! ### Reading and writing -/

/-- The text under a key, if there is an entry that has not expired. -/
def getText? (now : Nat) (key : String) (s : CounterStore) : Option String :=
  ((s.entries.get? (fullKey s.name key)).filter (·.isLive now)).map (·.value)

/-- The counter that a text stands for. -/
def parse? (text : String) : Option Int64 := do
  let z ← Decimal.int? text.toList
  if Int64.minValue.toInt ≤ z ∧ z ≤ Int64.maxValue.toInt then some (Int64.ofInt z) else none

/-- A counter as text. -/
def format (n : Int64) : String :=
  String.ofList (Decimal.ofInt n.toInt)

/-- The counter under a key; one that is absent is 0. -/
def get (now : Nat) (key : String) (s : CounterStore) : Except CounterError Int64 :=
  match s.getText? now key with
  | none => .ok 0
  | some text =>
    match parse? text with
    | some n => .ok n
    | none => .error (.notAnInteger key)

/-- The instant at which what is written now expires. -/
def expiry (now : Nat) : Lifetime → Option Nat
  | .unlimited => none
  | .millis n => some (now + n)

/-- The entries that a save writes: those that have not expired, and the new one. -/
def snapshot (now : Nat) (key : String) (e : CounterEntry) (entries : Keyed CounterEntry) :
    Keyed CounterEntry :=
  Keyed.insert key e (entries.filter fun (_, e) => e.isLive now)

/-- Write a text under a key, in the file first. -/
def setText (now : Nat) (key text : String) (life : Lifetime) (s : CounterStore) :
    Except CounterError CounterStore :=
  let key := fullKey s.name key
  let e : CounterEntry := ⟨text, expiry now life⟩
  match s.file with
  | none => .ok { s with entries := s.entries.insert key e }
  | some file =>
    match file.replace (encode (snapshot now key e s.entries)) with
    | .ok file => .ok ⟨s.name, s.entries.insert key e, some file⟩
    | .error fault => .error (.storage fault)

/-- Write a counter, in the file first. -/
def set (now : Nat) (key : String) (n : Int64) (life : Lifetime) (s : CounterStore) :
    Except CounterError CounterStore :=
  s.setText now key (format n) life

/-- Drop the entries that have expired; the file stays as it is. -/
def purge (now : Nat) (s : CounterStore) : CounterStore :=
  { s with entries := s.entries.filter fun (_, e) => e.isLive now }

/-- Access to a store in the same process, at an instant. -/
def access (now : Nat) : CounterAccess CounterStore where
  get key s := (s.get now key, s)
  set key n life s :=
    match s.set now key n life with
    | .ok s => (.ok (), s)
    | .error e => (.error e, s)

end CounterStore

end HostWatch
