import HostWatch.Config.Client
import HostWatch.Proofs.Config.ForbiddenList
import HostWatch.Proofs.Config.RequestHistory

/-!
# The same configuration over the network

The two values of the shared configuration are read and written through the service of a store, or
directly in a store of the same process. A request for one of them addresses its key
(`addresses_valueTarget`), and the service hands the octets through as they are. So each single read and
write comes to the same (`get_access`, `set_access`), and by induction so does every sequence of
calls, answer by answer.
-/

namespace HostWatch

open Http

/-! ### Calls -/

/-- A value of the shared configuration. -/
inductive SharedValue where
  /-- The forbidden hostnames. -/
  | forbidden
  /-- The threshold. -/
  | threshold
  deriving DecidableEq, Repr

/-- The key of a value. -/
def SharedValue.key : SharedValue → String
  | .forbidden => forbiddenKey
  | .threshold => thresholdKey

/-- A call of a client. -/
inductive ConfigCall where
  /-- Read the forbidden hostnames. -/
  | readList
  /-- Read the threshold. -/
  | readThreshold
  /-- Write a value of JSON under the key of a shared value. -/
  | setValue (under : SharedValue) (v : Json.Value)

/-- What a call is answered. -/
inductive ConfigAnswer where
  /-- The forbidden hostnames, or why they could not be read. -/
  | list (answer : Except ConfigError ForbiddenList)
  /-- The threshold, or why it could not be read. -/
  | threshold (answer : Except ConfigError Int64)
  /-- Nothing, or why the value could not be written. -/
  | written (answer : Except ConfigError Unit)

/-- The octets that a call writes are not too many for the service. -/
def ConfigCall.Fits : ConfigCall → Prop
  | .setValue _ v => v.encode.length ≤ ConfigService.maxValueLength
  | _ => True

namespace ConfigAccess

variable {σ : Type}

/-- Do what a call asks for. -/
def perform (c : ConfigAccess σ) (call : ConfigCall) (s : σ) : ConfigAnswer × σ :=
  match call with
  | .readList => (c.readList s).map .list id
  | .readThreshold => (c.readThreshold s).map .threshold id
  | .setValue under v => (c.setValue under.key v s).map .written id

/-- Do what calls ask for, one after another. -/
def performAll (c : ConfigAccess σ) : List ConfigCall → σ → List ConfigAnswer × σ
  | [], s => ([], s)
  | call :: calls, s =>
    let (answer, s) := c.perform call s
    let (answers, s) := c.performAll calls s
    (answer :: answers, s)

end ConfigAccess

/-! ### The request for a value -/

/-- A URL names a server and nothing behind it: its path is empty or a slash, and it has no
query. -/
structure Url.IsRoot (u : Url) : Prop where
  /-- The path has nothing in it. -/
  path : u.path = .segments [] ∨ u.path = .segments [[]]
  /-- There is no query. -/
  query : u.query = none

namespace ConfigClient

variable {c : ConfigClient}

/-- The text behind the server in the URL of a shared value. -/
def valueTarget (under : SharedValue) : List Char :=
  "/config/".toList ++ under.key.toList

/-- The segments of a shared value are put behind a root as they are. -/
theorem segments_key (kind : Url.Kind) (under : SharedValue) {path : List (List Char)}
    (hpath : path = [] ∨ path = [[]]) :
    ["config".toList, under.key.toList].foldl (Url.appendSegment kind) (Url.popIfEmpty path) =
      ["config".toList, under.key.toList] := by
  rcases hpath with rfl | rfl <;> cases kind <;> cases under <;> decide +kernel

/-- The URL of a shared value is that of its target. -/
theorem keyUrl_eq (hc : c.base.IsRoot) (under : SharedValue) :
    ∃ u, c.keyUrl under.key = .ok u ∧ targetOf u = Utf8.encode (valueTarget under) := by
  obtain ⟨path, hpath, hroot⟩ : ∃ path, c.base.path = .segments path ∧ (path = [] ∨ path = [[]]) :=
    hc.path.elim (fun h => ⟨_, h, .inl rfl⟩) fun h => ⟨_, h, .inr rfl⟩
  refine ⟨{ c.base with path := .segments ["config".toList, under.key.toList] }, ?_, ?_⟩
  · simp only [keyUrl, Url.pushSegments?, hpath, segments_key _ under hroot]
  · simp only [targetOf, Url.requestTarget, Url.Path.text, hc.query, List.append_nil]
    cases under <;> rfl

/-- A request for the target of a shared value addresses its key. -/
theorem addresses_valueTarget (under : SharedValue) {r : Request}
    (hr : r.target = Utf8.encode (valueTarget under)) : ConfigService.Addresses r under.key := by
  rw [← ConfigService.keyOf?_eq_some, ConfigService.keyOf?, hr]
  cases under <;> decide +kernel

/-! ### Single calls -/

variable {s : ConfigStore}

/-- A value is read over the network as it is in the store. -/
theorem get_access (hc : c.base.IsRoot) (under : SharedValue) (s : ConfigStore) :
    (c.access ConfigService.network).get under.key s = ConfigStore.access.get under.key s := by
  obtain ⟨u, hu, htarget⟩ := keyUrl_eq hc under
  have haddresses : ConfigService.Addresses (readRequest u) under.key :=
    addresses_valueTarget under htarget
  simp only [access, hu, ConfigService.network, ConfigService.handle?_get rfl haddresses,
    ConfigService.read_eq, ConfigStore.access, ConfigStore.get]
  cases s.entries.get? under.key <;> rfl

/-- A value is written over the network as the service writes it. -/
theorem set_eq_write (hc : c.base.IsRoot) (under : SharedValue) (value : Bytes) (s : ConfigStore) :
    (c.access ConfigService.network).set under.key value s =
      (confirmationOf under.key (.response (ConfigService.write under.key value s).1),
        (ConfigService.write under.key value s).2) := by
  obtain ⟨u, hu, htarget⟩ := keyUrl_eq hc under
  have haddresses : ConfigService.Addresses (writeRequest u value) under.key :=
    addresses_valueTarget under htarget
  have hbody : (writeRequest u value).body = value := rfl
  simp only [access, hu, ConfigService.network, ConfigService.handle?_put rfl haddresses, hbody]

/-- A value that is not too long is written over the network as it is in a store that can be
saved. -/
theorem set_access (hc : c.base.IsRoot) (hs : SnapshotFile.Replaceable s.file)
    (under : SharedValue) {value : Bytes} (hlength : value.length ≤ ConfigService.maxValueLength) :
    (c.access ConfigService.network).set under.key value s =
      ConfigStore.access.set under.key value s := by
  obtain ⟨t, hset, hwrite⟩ := ConfigService.write_of_replaceable hs hlength under.key
  simp only [set_eq_write hc, hwrite, ConfigStore.access, hset]
  rfl

/-- The list is read over the network as it is in the store. -/
theorem readList_access (hc : c.base.IsRoot) (s : ConfigStore) :
    (c.access ConfigService.network).readList s = ConfigStore.access.readList s := by
  have hget := get_access hc .forbidden s
  simp only [SharedValue.key] at hget
  simp only [ConfigAccess.readList, hget]

/-- The threshold is read over the network as it is in the store. -/
theorem readThreshold_access (hc : c.base.IsRoot) (s : ConfigStore) :
    (c.access ConfigService.network).readThreshold s = ConfigStore.access.readThreshold s := by
  have hget := get_access hc .threshold s
  simp only [SharedValue.key] at hget
  simp only [ConfigAccess.readThreshold, hget]

/-- Every call comes to the same over the network. -/
theorem perform_access (hc : c.base.IsRoot) (hs : SnapshotFile.Replaceable s.file)
    {call : ConfigCall} (hfits : call.Fits) :
    (c.access ConfigService.network).perform call s = ConfigStore.access.perform call s := by
  cases call with
  | readList => simp only [ConfigAccess.perform, readList_access hc]
  | readThreshold => simp only [ConfigAccess.perform, readThreshold_access hc]
  | setValue under v =>
    simp only [ConfigAccess.perform, ConfigAccess.setValue, set_access hc hs under hfits]

end ConfigClient

/-! ### Any calls -/

/-- A store that can be saved can be saved after every call. -/
theorem ConfigStore.replaceable_perform {s : ConfigStore} (hs : SnapshotFile.Replaceable s.file)
    (call : ConfigCall) : SnapshotFile.Replaceable (access.perform call s).2.file := by
  cases call with
  | readList | readThreshold => exact hs
  | setValue under v =>
    obtain ⟨t, hset, ht⟩ := set_of_replaceable hs under.key v.encode
    have hperform : (access.perform (.setValue under v) s).2 = t := by
      simp only [ConfigAccess.perform, ConfigAccess.setValue, access, hset]
      rfl
    rwa [hperform]

/-- What is read of a store through an access, and that what is written is read back. -/
structure ConfigAccess.Serves (a : ConfigAccess ConfigStore) (s : ConfigStore) : Prop where
  /-- A list that was never written is empty. -/
  unset : s.entries.get? forbiddenKey = none → a.readList s = (.ok [], s)
  /-- A threshold that was never written is not found. -/
  absent : s.entries.get? thresholdKey = none →
    a.readThreshold s = (.error (.notFound thresholdKey), s)
  /-- What is no list is a failure that says why. -/
  corruptList : ∀ bs fault, s.entries.get? forbiddenKey = some bs →
    ForbiddenList.decode bs = .error fault → a.readList s = (.error (.undecodable fault), s)
  /-- What is no threshold is a failure that says why. -/
  corruptThreshold : ∀ bs fault, s.entries.get? thresholdKey = some bs →
    Threshold.decode bs = .error fault → a.readThreshold s = (.error (.undecodable fault), s)
  /-- A list that is written is read back, whatever its hostnames are. -/
  readBack : ∀ l : ForbiddenList, l.encode.length ≤ ConfigService.maxValueLength →
    ∃ t, a.writeList l s = (.ok (), t) ∧ a.readList t = (.ok l, t)

theorem ConfigStore.serves {s : ConfigStore} (hs : SnapshotFile.Replaceable s.file) :
    access.Serves s where
  unset h := by simp only [ConfigAccess.readList, access, get, h, ForbiddenList.ofAnswer]
  absent h := by simp only [ConfigAccess.readThreshold, access, get, h, Threshold.ofAnswer]
  corruptList bs fault h hfault := by
    simp only [ConfigAccess.readList, access, get, h, ForbiddenList.ofAnswer, hfault]
  corruptThreshold bs fault h hfault := by
    simp only [ConfigAccess.readThreshold, access, get, h, Threshold.ofAnswer, hfault]
  readBack l _ := by
    obtain ⟨t, hset, -⟩ := set_of_replaceable hs forbiddenKey l.encode
    refine ⟨t, ?_, Prod.ext (forbidden_set hset) rfl⟩
    rw [ConfigAccess.writeList, ConfigAccess.setValue, ← ForbiddenList.encode, access]
    simp only [hset]

namespace ConfigClient

variable {c : ConfigClient} {s : ConfigStore}

/-- Over the network a store serves as it does directly. -/
theorem serves (hc : c.base.IsRoot) (hs : SnapshotFile.Replaceable s.file) :
    (c.access ConfigService.network).Serves s := by
  have hstore := ConfigStore.serves hs
  refine ⟨fun h => ?_, fun h => ?_, fun bs fault h hfault => ?_, fun bs fault h hfault => ?_,
    fun l hlength => ?_⟩
  · rw [readList_access hc, hstore.unset h]
  · rw [readThreshold_access hc, hstore.absent h]
  · rw [readList_access hc, hstore.corruptList bs fault h hfault]
  · rw [readThreshold_access hc, hstore.corruptThreshold bs fault h hfault]
  · obtain ⟨t, hwrite, hread⟩ := hstore.readBack l hlength
    refine ⟨t, ?_, by rw [readList_access hc, hread]⟩
    rw [← hwrite]
    exact set_access hc hs .forbidden hlength

/-- A client of the service at a root and a client of the store in the same process are answered
the same, call by call, and leave the same behind in the store and its file, if no save fails and no
value is too long. After any calls both of them read what is stored, and read back what they
write. -/
theorem performAll_access (hc : c.base.IsRoot) (hs : SnapshotFile.Replaceable s.file)
    {calls : List ConfigCall} (hfits : ∀ call ∈ calls, call.Fits) :
    (c.access ConfigService.network).performAll calls s = ConfigStore.access.performAll calls s ∧
      (c.access ConfigService.network).Serves (ConfigStore.access.performAll calls s).2 ∧
      ConfigStore.access.Serves (ConfigStore.access.performAll calls s).2 := by
  induction calls generalizing s with
  | nil => exact ⟨rfl, serves hc hs, ConfigStore.serves hs⟩
  | cons call calls ih =>
    obtain ⟨hsame, hserves⟩ := ih (ConfigStore.replaceable_perform hs call) fun call' h =>
      hfits call' (List.mem_cons_of_mem _ h)
    refine ⟨?_, hserves⟩
    simp only [ConfigAccess.performAll, perform_access hc hs (hfits call List.mem_cons_self), hsame]

/-! ### A threshold that is none -/

/-- The client of a service on the same machine. -/
def onThisMachine : ConfigClient where
  base :=
    { scheme := "http".toList, username := [], password := [], host := some (.ipv4 ⟨127, 0, 0, 1⟩)
      port := some 8085, path := .segments [[]], query := none, fragment := none }

/-- Two hostnames are listed, and `null` is written in place of the threshold. -/
def nullThreshold : List ConfigCall :=
  [.setValue .forbidden (ForbiddenList.toValue ["a.onion", "\u00e9\n"]), .readList,
    .setValue .threshold .null, .readThreshold]

theorem performAll_access_nullThreshold :
    onThisMachine.base.IsRoot ∧ (∀ call ∈ nullThreshold, call.Fits) ∧
      (onThisMachine.access ConfigService.network).performAll nullThreshold {} =
        ConfigStore.access.performAll nullThreshold {} ∧
      ((onThisMachine.access ConfigService.network).readThreshold
        (ConfigStore.access.performAll nullThreshold {}).2).1 =
          .error (.undecodable .mismatched) := by
  have hroot : onThisMachine.base.IsRoot := ⟨.inr rfl, rfl⟩
  have hsaves : SnapshotFile.Replaceable ({} : ConfigStore).file := fun f hf => by cases hf
  have hlist : (ForbiddenList.toValue ["a.onion", "\u00e9\n"]).encode.length ≤
      ConfigService.maxValueLength := by decide +kernel
  have hfits : ∀ call ∈ nullThreshold, call.Fits := by
    intro call hcall
    simp only [nullThreshold, List.mem_cons, List.not_mem_nil, or_false] at hcall
    rcases hcall with rfl | rfl | rfl | rfl
    · exact hlist
    · trivial
    · exact Nat.le_of_lt (by decide +kernel)
    · trivial
  obtain ⟨hsame, hserves, -⟩ := performAll_access hroot hsaves hfits
  refine ⟨hroot, hfits, hsame, ?_⟩
  rw [hserves.corruptThreshold (Json.Value.encode .null) .mismatched (by decide +kernel)
    (by decide +kernel)]

end ConfigClient

end HostWatch
