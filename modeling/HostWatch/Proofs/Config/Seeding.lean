import HostWatch.Proofs.Config.OverHttp
import HostWatch.Proofs.Config.StoreFile
import HostWatch.Proofs.Decision.Undisturbed
import HostWatch.Startup

/-!
# A default never replaces a threshold

A process that starts opens the store and writes the default of its settings where no threshold is
stored. Any number of processes do so one after another over one file, and others write to the store
before, while and after each of them does. The threshold that is read after a start is what others
have written last, and the default of the first start that succeeded only as long as they have
written none (`threshold_kept`). What they have written stays even if it is no threshold: then the
start fails, as it does if the file cannot be read.

A start first reads the threshold and then writes, and the store knows no conditional write. So there
is one exception: if a start has found none, and somebody writes one before the start does, the
default is written over it (`threshold_written_over`).

What one start does depends on what is stored under the key when it reads, and on the store at its
write (`Seeds`). From one process to the next nothing is left but the file, and the file holds what
the memory did (`Backed`), so what is stored is told by the writes that were not written over and by
the starts that succeeded (`entries_fileAfter`).
-/

namespace HostWatch

/-! ### One start -/

/-- What seeding a threshold brings and does where the store is `s` when the threshold is read and
`u` when it would be written, by what is stored under its key in `s`. -/
inductive Seeds (default : Int64) (s u : ConfigStore) :
    Except ConfigError Bool → ConfigStore → Prop where
  /-- A threshold is stored. -/
  | kept {bs n} : s.entries.get? thresholdKey = some bs → Threshold.decode bs = .ok n →
    Seeds default s u (.ok false) u
  /-- Something else is stored. -/
  | corrupt {bs fault} : s.entries.get? thresholdKey = some bs →
    Threshold.decode bs = .error fault → Seeds default s u (.error (.undecodable fault)) u
  /-- Nothing is stored, and the default is written. -/
  | wrote {t} : s.entries.get? thresholdKey = none →
    u.set thresholdKey (Threshold.encode default) = .ok t → Seeds default s u (.ok true) t
  /-- Nothing is stored, and the default cannot be written. -/
  | failed {e e'} : s.entries.get? thresholdKey = none →
    u.set thresholdKey (Threshold.encode default) = .error e → Seeds default s u (.error e') u

namespace Seeds

variable {default n : Int64} {s t u : ConfigStore} {result : Except ConfigError Bool} {bs : Bytes}
  {fault : Json.Fault} {key : String}

theorem of_valid (h : Seeds default s u result t) (hget : s.entries.get? thresholdKey = some bs)
    (hdecode : Threshold.decode bs = .ok n) : result = .ok false ∧ t = u := by
  cases h with
  | kept _ _ => exact ⟨rfl, rfl⟩
  | corrupt hget' hdecode' =>
    cases hget.symm.trans hget'
    cases hdecode.symm.trans hdecode'
  | wrote hget' _ | failed hget' _ => cases hget.symm.trans hget'

theorem of_corrupt (h : Seeds default s u result t) (hget : s.entries.get? thresholdKey = some bs)
    (hdecode : Threshold.decode bs = .error fault) :
    result = .error (.undecodable fault) ∧ t = u := by
  cases h with
  | kept hget' hdecode' =>
    cases hget.symm.trans hget'
    cases hdecode.symm.trans hdecode'
  | corrupt hget' hdecode' =>
    cases hget.symm.trans hget'
    cases hdecode.symm.trans hdecode'
    exact ⟨rfl, rfl⟩
  | wrote hget' _ | failed hget' _ => cases hget.symm.trans hget'

theorem of_absent (h : Seeds default s u result t) (hget : s.entries.get? thresholdKey = none) :
    (result = .ok true ∧ u.set thresholdKey (Threshold.encode default) = .ok t) ∨
      ∃ e e', u.set thresholdKey (Threshold.encode default) = .error e ∧ result = .error e' ∧
        t = u := by
  cases h with
  | kept hget' _ | corrupt hget' _ => cases hget.symm.trans hget'
  | wrote _ hset => exact .inl ⟨rfl, hset⟩
  | failed _ hset => exact .inr ⟨_, _, hset, rfl, rfl⟩

/-- Nothing but the threshold changes. -/
theorem get_of_ne (h : Seeds default s u result t) (hkey : key ≠ thresholdKey) :
    t.get key = u.get key := by
  cases h with
  | wrote _ hset => rw [ConfigStore.get_set hset, if_neg hkey]
  | kept _ _ | corrupt _ _ | failed _ _ => rfl

/-- The start brings true if it has written the default, and only then. -/
theorem wrote_or (h : Seeds default s u result t) :
    (result = .ok true ∧ u.set thresholdKey (Threshold.encode default) = .ok t) ∨
      result ≠ .ok true ∧ t = u := by
  cases h with
  | kept _ _ | corrupt _ _ | failed _ _ => exact .inr ⟨(nomatch ·), rfl⟩
  | wrote _ hset => exact .inl ⟨rfl, hset⟩

end Seeds

namespace ConfigAccess

/-- An access reads and writes the threshold as it is in the store. A write that fails may be
answered with another reason than the store's own, since a service does not pass that on. -/
structure Follows (a : ConfigAccess ConfigStore) : Prop where
  /-- What is read is what is stored. -/
  read : ∀ s, a.get thresholdKey s = (s.get thresholdKey, s)
  /-- A threshold that the store takes is written. -/
  written : ∀ {s t n}, s.set thresholdKey (Threshold.encode n) = .ok t →
    a.set thresholdKey (Threshold.encode n) s = (.ok (), t)
  /-- A threshold that the store does not take changes nothing. -/
  refused : ∀ {s n e}, s.set thresholdKey (Threshold.encode n) = .error e →
    ∃ e', a.set thresholdKey (Threshold.encode n) s = (.error e', s)

variable {a : ConfigAccess ConfigStore}

theorem Follows.readThreshold (h : a.Follows) (s : ConfigStore) :
    a.readThreshold s = (s.threshold, s) := by
  simp only [ConfigAccess.readThreshold, h.read, ConfigStore.threshold_eq]

theorem Follows.seeds (h : a.Follows) (default : Int64) (s u : ConfigStore) :
    Seeds default s u (a.writeDefault default s.threshold u).1
      (a.writeDefault default s.threshold u).2 := by
  unfold writeDefault
  rw [ConfigStore.threshold_eq, ConfigStore.get]
  cases hget : s.entries.get? thresholdKey with
  | some bs =>
    simp only [Threshold.ofAnswer]
    cases hdecode : Threshold.decode bs with
    | ok n => exact .kept hget hdecode
    | error fault => exact .corrupt hget hdecode
  | none =>
    simp only [Threshold.ofAnswer, setValue]
    cases hset : u.set thresholdKey (Threshold.encode default) with
    | ok t =>
      have hwritten := h.written hset
      rw [Threshold.encode] at hwritten
      rw [hwritten]
      exact .wrote hget hset
    | error e =>
      obtain ⟨e', hrefused⟩ := h.refused hset
      rw [Threshold.encode] at hrefused
      rw [hrefused]
      exact .failed hget hset

end ConfigAccess

/-- A store in the same process is followed. -/
theorem ConfigStore.follows_access : access.Follows where
  read _ := rfl
  written h := by simp only [access, h]
  refused {s n e} h := ⟨e, by simp only [access, h]⟩

/-- The octets of a threshold are not too many for the service. -/
theorem Threshold.length_encode_le (n : Int64) :
    (encode n).length ≤ ConfigService.maxValueLength := by
  have hnumeral := Json.length_encode_ofInt_le n
  have hencode : encode n = Utf8.encode "\x7b\"threshold\":".toList ++
      (Utf8.encode (Decimal.ofInt n.toInt) ++ Utf8.encode ['\x7d']) := by
    rw [← Utf8.encode_append, ← Utf8.encode_append]
    rfl
  have hopening : (Utf8.encode "\x7b\"threshold\":".toList).length = 13 := by decide
  have hclosing : (Utf8.encode ['\x7d']).length = 1 := by decide
  rw [hencode, List.length_append, List.length_append, hopening, hclosing,
    ConfigService.maxValueLength]
  omega

/-- A store that is reached through its service is followed. -/
theorem ConfigClient.follows_access {c : ConfigClient} (hc : c.base.IsRoot) :
    (c.access ConfigService.network).Follows where
  read s := get_access hc .threshold s
  written {s t n} h := by
    have hwrite := set_eq_write hc .threshold (Threshold.encode n) s
    simp only [SharedValue.key, ConfigService.write,
      if_neg (Nat.not_lt.mpr (Threshold.length_encode_le n)), h] at hwrite
    exact hwrite
  refused {s n e} h := by
    have hwrite := set_eq_write hc .threshold (Threshold.encode n) s
    simp only [SharedValue.key, ConfigService.write,
      if_neg (Nat.not_lt.mpr (Threshold.length_encode_le n)), h] at hwrite
    exact ⟨_, hwrite⟩

/-! ### Stores that go with their files -/

/-- A write by somebody, and the reason why the file of the store cannot be replaced then, if there
is one. -/
structure ConfigWrite where
  /-- The key. -/
  key : String
  /-- What is written under it. -/
  value : Bytes
  /-- Why the file cannot be replaced. -/
  fault : Option FileFault := none
  deriving DecidableEq, Repr

/-- What a write leaves under a key at which there was `v`. -/
def ConfigWrite.over (key : String) (v : Option Bytes) (w : ConfigWrite) : Option Bytes :=
  if w.key = key ∧ w.fault = none then some w.value else v

/-- What was written last under a key; the initial value if nothing was. -/
def lastWritten (key : String) (initial : Option Bytes) (ws : List ConfigWrite) : Option Bytes :=
  ws.foldl (ConfigWrite.over key) initial

theorem lastWritten_append (key : String) (initial : Option Bytes) (ws ws' : List ConfigWrite) :
    lastWritten key initial (ws ++ ws') = lastWritten key (lastWritten key initial ws) ws' :=
  List.foldl_append

/-- What is not written over stays. -/
theorem lastWritten_or (key : String) (v w : Option Bytes) (ws : List ConfigWrite) :
    lastWritten key (v.or w) ws = (lastWritten key v ws).or w := by
  induction ws generalizing v with
  | nil => rfl
  | cons e ws ih =>
    have hone : ConfigWrite.over key (v.or w) e = (ConfigWrite.over key v e).or w := by
      unfold ConfigWrite.over
      split_ifs <;> rfl
    rw [lastWritten, List.foldl_cons, hone]
    exact ih _

/-- Writes under other keys leave a key alone. -/
theorem lastWritten_filter (key : String) (v : Option Bytes) (ws : List ConfigWrite) :
    lastWritten key v (ws.filter (·.key ≠ key)) = v := by
  induction ws with
  | nil => rfl
  | cons w ws ih =>
    by_cases hkey : w.key = key
    · rw [List.filter_cons_of_neg (by simpa using hkey)]
      exact ih
    · rw [List.filter_cons_of_pos (by simpa using hkey), lastWritten, List.foldl_cons,
        ConfigWrite.over, if_neg fun h => hkey h.1]
      exact ih

namespace ConfigStore

/-- Make a write, or leave the store alone if it fails. -/
def write (w : ConfigWrite) (s : ConfigStore) : ConfigStore :=
  (access.set w.key w.value (s.obstruct w.fault)).2

/-- Make writes one after another. -/
def writeAll (ws : List ConfigWrite) (s : ConfigStore) : ConfigStore :=
  ws.foldl (fun s w => s.write w) s

/-- A store has a file, and the file holds its entries. -/
def Backed (s : ConfigStore) : Prop :=
  ∃ f, s.file = some f ∧ f.entries = .ok s.entries

variable {s t : ConfigStore} {key : String} {value : Bytes}

theorem Backed.openFile {f : SnapshotFile} (h : ConfigStore.openFile f = .ok s) : s.Backed := by
  obtain ⟨hentries, hfile⟩ := SnapshotFile.openFile_eq_ok.mp h
  exact ⟨f, hfile, hentries⟩

/-- Opened again, a store that goes with its file is the same. -/
theorem Backed.openFile_eq (h : s.Backed) :
    ∃ f, s.file = some f ∧ ConfigStore.openFile f = .ok s := by
  obtain ⟨f, hfile, hentries⟩ := h
  exact ⟨f, hfile, SnapshotFile.openFile_eq_ok.mpr ⟨hentries, hfile⟩⟩

theorem Backed.obstruct (h : s.Backed) (reason : Option FileFault) :
    (s.obstruct reason).Backed := by
  obtain ⟨f, hfile, hentries⟩ := h
  exact ⟨f.obstruct reason, by rw [ConfigStore.obstruct, hfile]; rfl, hentries⟩

theorem Backed.set (h : s.Backed) (hset : s.set key value = .ok t) : t.Backed := by
  obtain ⟨f, hfile, hentries⟩ := h
  have hordered := (SnapshotFile.ordered_of_entries hentries).insert key value
  unfold ConfigStore.set save at hset
  simp only [hfile] at hset
  cases hreplace : f.replace (encode (s.entries.insert key value)) with
  | error fault =>
    rw [hreplace] at hset
    cases hset
  | ok g =>
    rw [hreplace] at hset
    cases hset
    exact ⟨g, rfl, SnapshotFile.entries_replace hentries hordered hreplace⟩

/-- A write to a store that goes with its file succeeds if the file can be replaced, and changes
nothing otherwise. -/
theorem Backed.set_obstruct (h : s.Backed) (reason : Option FileFault) (key : String)
    (value : Bytes) :
    (reason = none ∧ ∃ t, (s.obstruct reason).set key value = .ok t) ∨
      reason ≠ none ∧ ∃ e, (s.obstruct reason).set key value = .error e := by
  obtain ⟨f, hfile, -⟩ := h
  cases reason with
  | none =>
    obtain ⟨t, hset, -⟩ := set_of_replaceable s.replaceable_obstruct key value
    exact .inl ⟨rfl, t, hset⟩
  | some fault =>
    exact .inr ⟨Option.some_ne_none fault, .storage fault, set_obstruct_some hfile fault key value⟩

/-- A write puts its value under its key, or changes nothing if the file cannot be replaced. -/
theorem Backed.write (h : s.Backed) (w : ConfigWrite) : (s.write w).Backed ∧
    ∀ key, (s.write w).entries.get? key = w.over key (s.entries.get? key) := by
  rcases h.set_obstruct w.fault w.key w.value with ⟨hfault, t, hset⟩ | ⟨hfault, e, hset⟩
  · have hwrite : s.write w = t := by simp only [ConfigStore.write, access, hset]
    rw [hwrite]
    refine ⟨(h.obstruct w.fault).set hset, fun key => ?_⟩
    rw [entries_set hset, Keyed.get?_insert, ConfigWrite.over]
    simp only [hfault, and_true, eq_comm, entries_obstruct]
  · have hwrite : s.write w = s.obstruct w.fault := by simp only [ConfigStore.write, access, hset]
    rw [hwrite]
    exact ⟨h.obstruct w.fault, fun key => (if_neg fun hover => hfault hover.2).symm⟩

theorem Backed.writeAll (h : s.Backed) (ws : List ConfigWrite) : (s.writeAll ws).Backed ∧
    ∀ key, (s.writeAll ws).entries.get? key = lastWritten key (s.entries.get? key) ws := by
  induction ws generalizing s with
  | nil => exact ⟨h, fun _ => rfl⟩
  | cons w ws ih =>
    obtain ⟨hone, hget⟩ := h.write w
    obtain ⟨hall, hgets⟩ := ih hone
    refine ⟨hall, fun key => (hgets key).trans ?_⟩
    rw [hget key]
    rfl

end ConfigStore

theorem Seeds.backed {default : Int64} {s t u : ConfigStore} {result : Except ConfigError Bool}
    (h : Seeds default s u result t) (hu : u.Backed) : t.Backed := by
  cases h with
  | wrote _ hset => exact hu.set hset
  | kept _ _ | corrupt _ _ | failed _ _ => exact hu

/-! ### Processes over one file -/

/-- A file that cannot be read for a reason, or can if there is none. -/
def SnapshotFile.seen (reason : Option FileFault) (f : SnapshotFile) : SnapshotFile :=
  { f with unreadable := reason }

theorem SnapshotFile.entries_seen_none {f : SnapshotFile} {m : Keyed Bytes}
    (h : f.entries = .ok m) : (f.seen none).entries = .ok m := by
  have hreadable : f.unreadable = none := (contents_eq_ok h).1
  have hsame : f.seen none = f := by rw [seen, ← hreadable]
  rw [hsame]
  exact h

/-- What one process and others do with the store that the process opens. -/
structure Session where
  /-- The settings of the process. -/
  settings : Settings
  /-- The store is kept in a file. -/
  persists : ∃ path, settings.configApi.persistencePath = some path
  /-- How the threshold is seeded. -/
  client : ConfigAccess ConfigStore
  /-- The store is reached in this way. -/
  follows : client.Follows
  /-- Why the file cannot be read when the process starts, if it cannot. -/
  unreadable : Option FileFault := none
  /-- What others write before the process reads the threshold. -/
  early : List ConfigWrite := []
  /-- What others write between that reading and the write of the default. -/
  between : List ConfigWrite := []
  /-- Why the file cannot be replaced when the default is written, if it cannot. -/
  unwritable : Option FileFault := none
  /-- What others write afterwards. -/
  late : List ConfigWrite := []

namespace Session

/-- The threshold of the process where none is stored. -/
def default (l : Session) : Int64 := l.settings.defaults.blacklistThreshold

/-- The store when the threshold is read. -/
def store (l : Session) (f : SnapshotFile) : Except ConfigError ConfigStore :=
  (openConfigStore (fun _ => f.seen l.unreadable) l.settings).map (·.writeAll l.early)

/-- What others have made of a store when the default would be written. -/
def meanwhile (l : Session) (s : ConfigStore) : ConfigStore :=
  (s.writeAll l.between).obstruct l.unwritable

/-- Read the threshold, let others write, and write the default if there was none. -/
def seed (l : Session) (s : ConfigStore) : Except ConfigError Bool × ConfigStore :=
  let (read, s) := l.client.readThreshold s
  l.client.writeDefault l.default read (l.meanwhile s)

/-- What the start brings, and the file when the process has ended. -/
def run (l : Session) (f : SnapshotFile) : Except ConfigError Bool × SnapshotFile :=
  match l.store f with
  | .error e => (.error e, f)
  | .ok s =>
    let (result, t) := l.seed s
    (result, (t.writeAll l.late).file.getD f)

/-- The default of a start that has succeeded. -/
def started? (l : Session) (result : Except ConfigError Bool) : Option Int64 :=
  result.toOption.map fun _ => l.default

/-- What others have written between the reading and the write of a start, without the thresholds
over which the start has written its default. -/
def spared (l : Session) (result : Except ConfigError Bool) : List ConfigWrite :=
  if result = .ok true then l.between.filter (·.key ≠ thresholdKey) else l.between

/-- What others have written, without what the start has written over. -/
def writes (l : Session) (f : SnapshotFile) : List ConfigWrite :=
  if l.unreadable = none then l.early ++ l.spared (l.run f).1 ++ l.late else []

/-- The file when some processes have run, one after another. -/
def fileAfter (ls : List Session) (f : SnapshotFile) : SnapshotFile :=
  ls.foldl (fun f l => (l.run f).2) f

/-- What others have written while some processes have run, without what these have written over. -/
def writesAfter : List Session → SnapshotFile → List ConfigWrite
  | [], _ => []
  | l :: ls, f => l.writes f ++ writesAfter ls (l.run f).2

/-- The default of the first start that succeeds. -/
def firstDefault : List Session → SnapshotFile → Option Int64
  | [], _ => none
  | l :: ls, f => (l.started? (l.run f).1).or (firstDefault ls (l.run f).2)

/-- The threshold that is to be read when others have written a value last, or else some default was
the first one. -/
def told (written : Option Bytes) (first : Option Int64) : Except ConfigError Int64 :=
  match written, first with
  | some bs, _ => Threshold.ofAnswer (.ok bs)
  | none, some n => .ok n
  | none, none => .error (.notFound thresholdKey)

variable {l : Session} {f : SnapshotFile} {m : Keyed Bytes} {s t u : ConfigStore}
  {result : Except ConfigError Bool}

/-- Where nobody writes in between the threshold is seeded in one go. -/
theorem seed_eq (h : l.between = []) (s : ConfigStore) :
    l.client.seed l.default (l.meanwhile s) = l.seed s := by
  have hsame : (l.meanwhile s).threshold = s.threshold := by
    rw [meanwhile, h]
    rfl
  simp only [seed, ConfigAccess.seed, l.follows.readThreshold, hsame]

/-- Seeding goes by what is stored when the threshold is read. -/
theorem seeds (l : Session) (s : ConfigStore) :
    Seeds l.default s (l.meanwhile s) (l.seed s).1 (l.seed s).2 := by
  simp only [seed, l.follows.readThreshold]
  exact l.follows.seeds l.default s (l.meanwhile s)

theorem store_eq_error {fault : FileFault} (h : (f.seen l.unreadable).entries = .error fault) :
    l.store f = .error (.storage fault) := by
  obtain ⟨path, hpath⟩ := l.persists
  simp only [store, openConfigStore, hpath, Option.map_some, ConfigStore.openAt,
    ConfigStore.openFile]
  unfold SnapshotFile.entries at h
  cases hdecode : (f.seen l.unreadable).decode ConfigStore.reader with
  | error fault' =>
    rw [hdecode] at h
    cases h
    rfl
  | ok entries? =>
    rw [hdecode] at h
    cases h

/-- The store when the threshold is read goes with its file, and holds what others have written
last. -/
theorem store_eq_ok (h : (f.seen l.unreadable).entries = .ok m) : ∃ s, l.store f = .ok s ∧
    s.Backed ∧ ∀ key, s.entries.get? key = lastWritten key (m.get? key) l.early := by
  obtain ⟨path, hpath⟩ := l.persists
  have hopen : ConfigStore.openFile (f.seen l.unreadable) = .ok ⟨m, some (f.seen l.unreadable)⟩ :=
    SnapshotFile.openFile_eq_ok.mpr ⟨h, rfl⟩
  obtain ⟨hbacked, hget⟩ := (ConfigStore.Backed.openFile hopen).writeAll l.early
  refine ⟨_, ?_, hbacked, hget⟩
  simp only [store, openConfigStore, hpath, Option.map_some, ConfigStore.openAt, hopen, Except.map]

/-- So does the store when the default would be written, which can be done if the file can be
replaced. -/
theorem backed_meanwhile (l : Session) (hs : s.Backed) : (l.meanwhile s).Backed ∧
    (∀ key, (l.meanwhile s).entries.get? key =
      lastWritten key (s.entries.get? key) l.between) ∧
    ∀ key value, (l.unwritable = none ∧ ∃ t, (l.meanwhile s).set key value = .ok t) ∨
      l.unwritable ≠ none ∧ ∃ e, (l.meanwhile s).set key value = .error e := by
  obtain ⟨hbacked, hget⟩ := hs.writeAll l.between
  exact ⟨hbacked.obstruct l.unwritable, hget, hbacked.set_obstruct l.unwritable⟩

/-- After the seeding there is under the key what was there when it was read, with what others have
written since and the start has not written over, or else the default. -/
theorem get?_of_seeds (h : Seeds l.default s u result t)
    (hu : u.entries.get? thresholdKey =
      lastWritten thresholdKey (s.entries.get? thresholdKey) l.between) :
    t.entries.get? thresholdKey =
      (lastWritten thresholdKey (s.entries.get? thresholdKey) (l.spared result)).or
        ((l.started? result).map Threshold.encode) := by
  cases h with
  | kept hget _ =>
    rw [spared, if_neg (by simp), hu, hget, ← lastWritten_or]
    rfl
  | corrupt hget _ =>
    rw [spared, if_neg (by simp), hu]
    exact Option.or_none.symm
  | wrote hget hset =>
    rw [spared, if_pos rfl, lastWritten_filter, hget, ConfigStore.entries_set hset,
      Keyed.get?_insert, if_pos rfl]
    rfl
  | failed hget _ =>
    rw [spared, if_neg (by simp), hu]
    exact Option.or_none.symm

/-- A start that cannot read the file changes nothing. -/
theorem run_of_error {fault : FileFault} (h : (f.seen l.unreadable).entries = .error fault) :
    l.run f = (.error (.storage fault), f) := by
  rw [run, store_eq_error h]

/-- After a process the file holds under the key of the threshold what others have written last and
the start has not written over, or what was there before, or the default if there was nothing and
the start succeeded. -/
theorem entries_run (l : Session) (h : (f.seen none).entries = .ok m) :
    ∃ m', ((l.run f).2.seen none).entries = .ok m' ∧ m'.get? thresholdKey =
      (lastWritten thresholdKey (m.get? thresholdKey) (l.writes f)).or
        ((l.started? (l.run f).1).map Threshold.encode) := by
  cases hreadable : l.unreadable with
  | some fault =>
    have hrun : l.run f = (.error (.storage fault), f) := run_of_error (by rw [hreadable]; rfl)
    have hwrites : l.writes f = [] := by
      rw [writes, hreadable, if_neg (Option.some_ne_none fault)]
    refine ⟨m, by rw [hrun]; exact h, ?_⟩
    rw [hrun, hwrites]
    exact Option.or_none.symm
  | none =>
    obtain ⟨s, hstore, hbacked, hget⟩ := store_eq_ok (l := l) (by rw [hreadable]; exact h)
    obtain ⟨hmeanwhile, hbetween, -⟩ := l.backed_meanwhile hbacked
    have hseeds := l.seeds s
    obtain ⟨hlate, hgets⟩ := (hseeds.backed hmeanwhile).writeAll l.late
    obtain ⟨g, hfile, hentries⟩ := hlate
    have hrun : l.run f = ((l.seed s).1, g) := by
      simp only [run, hstore, hfile, Option.getD_some]
    refine ⟨_, by rw [hrun]; exact SnapshotFile.entries_seen_none hentries, ?_⟩
    rw [hgets, get?_of_seeds hseeds (hbetween thresholdKey), lastWritten_or, hget, writes,
      if_pos hreadable, lastWritten_append, lastWritten_append, hrun]

/-- After any processes the file holds under the key of the threshold what others have written last
and no start has written over, or what was there at first, or the default of the first start that
has succeeded. -/
theorem entries_fileAfter (ls : List Session) (h : (f.seen none).entries = .ok m) :
    ∃ m', ((fileAfter ls f).seen none).entries = .ok m' ∧ m'.get? thresholdKey =
      (lastWritten thresholdKey (m.get? thresholdKey) (writesAfter ls f)).or
        ((firstDefault ls f).map Threshold.encode) := by
  induction ls generalizing f m with
  | nil => exact ⟨m, h, Option.or_none.symm⟩
  | cons l ls ih =>
    obtain ⟨m₁, hone, hget⟩ := l.entries_run h
    obtain ⟨m₂, hall, hgets⟩ := ih hone
    refine ⟨m₂, hall, ?_⟩
    rw [hgets, hget, lastWritten_or, writesAfter, lastWritten_append, Option.or_assoc,
      ← Option.map_or]
    rfl

/-- Where the file is no store at all, nobody ever writes. -/
theorem fileAfter_of_error {fault : FileFault} (ls : List Session)
    (h : (f.seen none).entries = .error fault) : fileAfter ls f = f := by
  induction ls with
  | nil => rfl
  | cons l ls ih =>
    have hrun : (l.run f).2 = f := by
      cases hreadable : l.unreadable with
      | some fault' => rw [run_of_error (by rw [hreadable]; rfl)]
      | none => rw [run_of_error (by rw [hreadable]; exact h)]
    rw [fileAfter, List.foldl_cons, hrun]
    exact ih

/-! ### What is kept -/

/-- A threshold under whose key there is what others have written, or else a default, is told by
these. -/
theorem told_eq {written : Option Bytes} {first : Option Int64}
    (h : s.entries.get? thresholdKey = written.or (first.map Threshold.encode)) :
    s.threshold = told written first := by
  rw [ConfigStore.threshold_eq, ConfigStore.get, h]
  cases written with
  | some bs => rfl
  | none =>
    cases first with
    | none => rfl
    | some n =>
      simp only [Option.map_some, Option.none_or, Threshold.ofAnswer, Threshold.decode_encode]
      rfl

/-- What a start brings that reads the threshold in the store `s`, and the store `t` afterwards, where
others have written `written` last when it is read, and `first` is the default of the first start
before this one that has succeeded. -/
structure Keeps (l : Session) (written : Option Bytes) (first : Option Int64) (s : ConfigStore)
    (result : Except ConfigError Bool) (t : ConfigStore) : Prop where
  /-- The threshold that is read is what others have written last and the start has not written
  over, and if there is nothing, the default of the first start that has succeeded. -/
  read : l.client.readThreshold t =
    (told (lastWritten thresholdKey written (l.spared result)) (first.or (l.started? result)), t)
  /-- Where nobody writes in between the threshold is seeded in one go. -/
  alone : l.between = [] → l.client.seed l.default (l.meanwhile s) = (result, t)
  /-- A threshold that others have written stays. -/
  valid : ∀ bs n, written = some bs → Threshold.decode bs = .ok n →
    result = .ok false ∧ t = l.meanwhile s
  /-- If what they have written is no threshold, the start fails and changes nothing. -/
  corrupt : ∀ bs fault, written = some bs → Threshold.decode bs = .error fault →
    result = .error (.undecodable fault) ∧ t = l.meanwhile s
  /-- The default of an earlier start stays. -/
  later : ∀ n, written = none → first = some n → result = .ok false ∧ t = l.meanwhile s
  /-- Where there is nothing the default is written, whatever others have written since. -/
  seeded : written = none → first = none → l.unwritable = none → result = .ok true ∧
    (l.meanwhile s).set thresholdKey (Threshold.encode l.default) = .ok t
  /-- If it cannot be written, the start fails and changes nothing. -/
  failed : written = none → first = none → l.unwritable ≠ none →
    (∃ e, result = .error e) ∧ t = l.meanwhile s
  /-- The start brings true if it has written its default, and only then; else it changes
  nothing. -/
  wrote : result = .ok true ∧
      (l.meanwhile s).set thresholdKey (Threshold.encode l.default) = .ok t ∨
    result ≠ .ok true ∧ t = l.meanwhile s
  /-- No other key changes. -/
  others : ∀ key, key ≠ thresholdKey → t.get key = (l.meanwhile s).get key
  /-- Opened again from its file, the store is the same. -/
  saved : ∃ g, t.file = some g ∧ ConfigStore.openFile g = .ok t

theorem keeps_of_stored {written : Option Bytes} {first : Option Int64} (l : Session)
    (hs : s.Backed)
    (hstored : s.entries.get? thresholdKey = written.or (first.map Threshold.encode)) :
    l.Keeps written first s (l.seed s).1 (l.seed s).2 := by
  have h := l.seeds s
  obtain ⟨hbacked, hbetween, hset⟩ := l.backed_meanwhile hs
  have habsent : written = none → first = none → s.entries.get? thresholdKey = none := by
    rintro rfl rfl
    exact hstored
  refine ⟨?_, fun hnone => seed_eq hnone s, ?_, ?_, ?_, ?_, ?_, h.wrote_or,
    fun _ hkey => h.get_of_ne hkey, (h.backed hbacked).openFile_eq⟩
  · rw [l.follows.readThreshold]
    refine congrArg (·, (l.seed s).2) (told_eq ?_)
    rw [get?_of_seeds h (hbetween thresholdKey), hstored, lastWritten_or, Option.or_assoc,
      Option.map_or]
  · intro bs n hwritten hdecode
    exact h.of_valid (by rw [hstored, hwritten]; rfl) hdecode
  · intro bs fault hwritten hdecode
    exact h.of_corrupt (by rw [hstored, hwritten]; rfl) hdecode
  · intro n hwritten hfirst
    exact h.of_valid (by rw [hstored, hwritten, hfirst]; rfl) (Threshold.decode_encode n)
  · intro hwritten hfirst hfault
    rcases h.of_absent (habsent hwritten hfirst) with hwrote | ⟨e, -, hrefused, -⟩
    · exact hwrote
    · rcases hset thresholdKey (Threshold.encode l.default) with ⟨-, t', htaken⟩ | ⟨hne, -⟩
      · cases htaken.symm.trans hrefused
      · exact absurd hfault hne
  · intro hwritten hfirst hfault
    rcases h.of_absent (habsent hwritten hfirst) with ⟨-, htaken⟩ | ⟨-, e, -, hresult, hsame⟩
    · rcases hset thresholdKey (Threshold.encode l.default) with ⟨hnone, -⟩ | ⟨-, e, hrefused⟩
      · exact absurd hnone hfault
      · cases htaken.symm.trans hrefused
    · exact ⟨⟨e, hresult⟩, hsame⟩

/-- After any processes over one file, the next one finds the threshold that others have written
last, and the default of the first start that succeeded only if they have written none; it writes
its own default only if it finds neither. What others write under the key before it does is then
written over, and counts as not written. If the file cannot be read it changes nothing. -/
theorem threshold_kept (f : SnapshotFile) (ls : List Session) (l : Session) :
    (∀ fault, (f.seen l.unreadable).entries = .error fault →
      l.run (fileAfter ls f) = (.error (.storage fault), fileAfter ls f)) ∧
    ∀ m, (f.seen l.unreadable).entries = .ok m → ∃ s result t,
      l.store (fileAfter ls f) = .ok s ∧ l.seed s = (result, t) ∧
      l.Keeps (lastWritten thresholdKey (m.get? thresholdKey) (writesAfter ls f ++ l.early))
        (firstDefault ls f) s result t := by
  cases hreadable : l.unreadable with
  | some reason =>
    refine ⟨fun fault h => ?_, fun m h => by cases h⟩
    cases h
    exact run_of_error (by rw [hreadable]; rfl)
  | none =>
    refine ⟨fun fault h => ?_, fun m h => ?_⟩
    · rw [fileAfter_of_error ls h]
      exact run_of_error (by rw [hreadable]; exact h)
    · obtain ⟨m', hentries, hget⟩ := entries_fileAfter ls h
      obtain ⟨s, hstore, hbacked, hgets⟩ :=
        store_eq_ok (l := l) (by rw [hreadable]; exact hentries)
      refine ⟨s, _, _, hstore, rfl, l.keeps_of_stored hbacked ?_⟩
      rw [hgets, hget, lastWritten_or, lastWritten_append]

/-- A process with a default that keeps its store in a file. -/
def withDefault (n : Int64) : Session where
  settings :=
    { configApi := { persistencePath := some "store.json" }
      defaults := { blacklistThreshold := n } }
  persists := ⟨_, rfl⟩
  client := ConfigStore.access
  follows := ConfigStore.follows_access

/-- Three processes: the first one cannot write its default, the second one writes it through the
service while somebody sets a threshold, and the third one cannot read the file. -/
def threeStarts : List Session :=
  [{ withDefault 4 with
      unwritable := some .notFound
      late := [⟨forbiddenKey, ForbiddenList.encode [], none⟩] },
    { withDefault 5 with
      client := ConfigClient.onThisMachine.access ConfigService.network
      follows := ConfigClient.follows_access ⟨.inr rfl, rfl⟩
      between := [⟨thresholdKey, Threshold.encode 9, none⟩] },
    { withDefault 6 with unreadable := some .isDirectory }]

/-- A process before whose seeding somebody writes what is no threshold. -/
def corrupted : Session :=
  { withDefault 7 with early := [⟨thresholdKey, Utf8.ofString "five", none⟩] }

theorem threshold_kept_threeStarts :
    (∃ s, (withDefault 7).store (fileAfter threeStarts {}) = .ok s ∧
      (withDefault 7).seed s = (.ok false, (withDefault 7).meanwhile s) ∧
      ConfigStore.access.readThreshold ((withDefault 7).meanwhile s) =
        (.ok 5, (withDefault 7).meanwhile s)) ∧
    ∃ s, corrupted.store (fileAfter threeStarts {}) = .ok s ∧
      corrupted.seed s = (.error (.undecodable .malformed), corrupted.meanwhile s) := by
  have hfirst : firstDefault threeStarts {} = some 5 := by decide +kernel
  have hwrites : lastWritten thresholdKey none (writesAfter threeStarts {}) = none := by
    decide +kernel
  constructor
  · obtain ⟨s, result, t, hstore, hseed, hkeeps⟩ :=
      (threshold_kept {} threeStarts (withDefault 7)).2 [] rfl
    have hnone : lastWritten thresholdKey none
        (writesAfter threeStarts {} ++ (withDefault 7).early) = none := by
      rw [lastWritten_append, hwrites]
      rfl
    obtain ⟨rfl, rfl⟩ := hkeeps.later 5 hnone hfirst
    have hread := hkeeps.read
    rw [hfirst, Keyed.get?_nil, hnone] at hread
    exact ⟨s, hstore, hseed, hread⟩
  · obtain ⟨s, result, t, hstore, hseed, hkeeps⟩ :=
      (threshold_kept {} threeStarts corrupted).2 [] rfl
    have hfive : lastWritten thresholdKey none (writesAfter threeStarts {} ++ corrupted.early) =
        some (Utf8.ofString "five") := by
      rw [lastWritten_append, hwrites]
      rfl
    obtain ⟨rfl, rfl⟩ := hkeeps.corrupt (Utf8.ofString "five") .malformed hfive (by decide +kernel)
    exact ⟨s, hstore, hseed⟩

/-- A process that writes its default when somebody has just set a threshold. -/
def hasty : Session :=
  { withDefault 5 with between := [⟨thresholdKey, Threshold.encode 9, none⟩] }

/-- Where the threshold was never written a process reads that, somebody sets it to 9, and the process
writes its default. The next one reads the default, though others have written 9 last. -/
theorem threshold_written_over :
    (hasty.run {}).1 = .ok true ∧
      lastWritten thresholdKey none (hasty.early ++ hasty.between ++ hasty.late) =
        some (Threshold.encode 9) ∧
      (((withDefault 6).store (hasty.run {}).2).bind ConfigStore.threshold).toOption = some 5 := by
  refine ⟨?_, ?_, ?_⟩ <;> decide +kernel

end Session

end HostWatch
