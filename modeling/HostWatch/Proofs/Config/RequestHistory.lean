import HostWatch.Config.Service
import HostWatch.Proofs.Storage.Replaceable
import Mathlib.Tactic.SplitIfs

/-!
# The config service is a map

Requests of any kind come to the service one after another, and at each of them the file of the
store may be obstructed. Which key a request is about is said by the path of its target alone
(`Addresses`); many paths address one key, since an octet may be percent-encoded or not.

Only a `PUT` that is answered with 200 changes anything, and it changes the value under its own key
only (`get?_serveOne`). So, by induction on the requests, the store holds under each key what was
written there last (`get?_serveAll`), and that is what a `GET` is answered after any history.
-/

namespace HostWatch.ConfigService

open Http

/-! ### What a request is about -/

/-- A request addresses a key: its path is the root with one segment behind it, not empty, that is
the key when it is percent-decoded. -/
def Addresses (r : Request) (key : String) : Prop :=
  ∃ target segment, RequestTarget.parse? r.target = some target ∧
    target.path = root ++ segment ∧ segment ≠ [] ∧ 0x2F ∉ segment ∧
    Utf8.toString? (Url.percentDecode segment) = some key

/-- The key that a request addresses. -/
def keyOf? (r : Request) : Option String :=
  (RequestTarget.parse? r.target).bind fun target => (segment? target.path).bind key?

theorem segment?_eq_some {path segment : Bytes} :
    segment? path = some segment ↔ path = root ++ segment ∧ segment ≠ [] ∧ 0x2F ∉ segment := by
  unfold segment?
  by_cases hroot : root.isPrefixOf path = true
  · obtain ⟨rest, rfl⟩ := List.isPrefixOf_iff_prefix.mp hroot
    simp only [hroot, if_true, List.drop_left, Option.ite_none_right_eq_some, Option.some.injEq,
      List.append_cancel_left_eq]
    constructor
    · rintro ⟨hsegment, rfl⟩
      exact ⟨rfl, hsegment⟩
    · rintro ⟨rfl, hsegment⟩
      exact ⟨hsegment, rfl⟩
  · rw [if_neg hroot]
    constructor
    · intro h
      cases h
    · rintro ⟨rfl, -⟩
      exact absurd (List.isPrefixOf_iff_prefix.mpr (List.prefix_append root segment)) hroot

theorem keyOf?_eq_some {r : Request} {key : String} :
    keyOf? r = some key ↔ Addresses r key := by
  simp only [keyOf?, Addresses, key?, Option.bind_eq_some_iff, segment?_eq_some]
  constructor
  · rintro ⟨target, htarget, segment, ⟨hpath, hne, hslash⟩, hkey⟩
    exact ⟨target, segment, htarget, hpath, hne, hslash, hkey⟩
  · rintro ⟨target, segment, htarget, hpath, hne, hslash, hkey⟩
    exact ⟨target, htarget, segment, ⟨hpath, hne, hslash⟩, hkey⟩

/-- Whether a request addresses a key is decided by finding the key that it addresses. -/
instance (r : Request) (key : String) : Decidable (Addresses r key) :=
  decidable_of_iff _ keyOf?_eq_some

/-- A request addresses one key at most. -/
theorem Addresses.unique {r : Request} {key key' : String} (h : Addresses r key)
    (h' : Addresses r key') : key = key' :=
  Option.some.inj ((keyOf?_eq_some.mpr h).symm.trans (keyOf?_eq_some.mpr h'))

/-! ### What a request does -/

variable {r : Request} {s : ConfigStore} {key : String}

/-- A key that is addressed is read. -/
theorem handle?_get (hm : r.method = .get) (h : Addresses r key) (s : ConfigStore) :
    handle? r s = (some (read key s), s) := by
  obtain ⟨target, segment, htarget, hpath, hne, hslash, hkey⟩ := h
  simp only [handle?, htarget, route, segment?_eq_some.mpr ⟨hpath, hne, hslash⟩, hm, serve, key?,
    hkey, Option.map_some, Option.getD_some]

/-- A key that is addressed is written. -/
theorem handle?_put (hm : r.method = .put) (h : Addresses r key) (s : ConfigStore) :
    handle? r s = (some (write key r.body s).1, (write key r.body s).2) := by
  obtain ⟨target, segment, htarget, hpath, hne, hslash, hkey⟩ := h
  simp only [handle?, htarget, route, segment?_eq_some.mpr ⟨hpath, hne, hslash⟩, hm, serve, key?,
    hkey]

/-- A request that is no write to a key leaves the store alone. -/
theorem handle?_of_not_write (h : r.method = .put → keyOf? r = none) (s : ConfigStore) :
    (handle? r s).2 = s := by
  cases htarget : RequestTarget.parse? r.target with
  | none => simp only [handle?, htarget]
  | some target =>
    simp only [handle?, htarget, route]
    cases hsegment : segment? target.path with
    | none => rfl
    | some segment =>
      cases hm : r.method with
      | get | head | other _ => rfl
      | put =>
        have hkey : key? segment = none := by
          simpa only [keyOf?, htarget, Option.bind_some, hsegment] using h hm
        simp only [serve, hkey]

/-- A write that addresses no key is refused. -/
theorem handle?_put_of_not_addressed (hm : r.method = .put) (h : keyOf? r = none)
    (s : ConfigStore) : ∀ response ∈ (handle? r s).1, response.status ≠ 200 := by
  intro response hresponse
  cases htarget : RequestTarget.parse? r.target with
  | none =>
    simp only [handle?, htarget] at hresponse
    cases hresponse
  | some target =>
    simp only [keyOf?, htarget, Option.bind_some] at h
    simp only [handle?, htarget, route] at hresponse
    cases hsegment : segment? target.path with
    | none =>
      simp only [hsegment] at hresponse
      cases hresponse
      decide
    | some segment =>
      have hkey : key? segment = none := by simpa only [hsegment, Option.bind_some] using h
      simp only [hsegment, serve, hm, hkey] at hresponse
      cases hresponse
      decide

/-- A write changes the value under its key and is answered with it, or is refused and changes
nothing. -/
theorem write_cases (key : String) (body : Bytes) (s : ConfigStore) :
    (∃ t, s.set key body = .ok t ∧ write key body s = (value body, t)) ∨
      ∃ response, response.status ≠ 200 ∧ write key body s = (response, s) := by
  unfold write
  split_ifs with hlength
  · exact .inr ⟨tooLong, by decide, rfl⟩
  · cases hset : s.set key body with
    | ok t => exact .inl ⟨t, rfl, rfl⟩
    | error e => exact .inr ⟨plain 500, by decide, rfl⟩

/-- What is read is the value under the key, with 404 where there is none. -/
theorem read_eq (key : String) (s : ConfigStore) :
    read key s = ((s.entries.get? key).map value).getD (plain 404) := by
  rw [read, ConfigStore.get]
  cases s.entries.get? key <;> rfl

/-! ### One request after another -/

/-- A request as it comes to the service, and the reason why the file of the store cannot be
replaced then, if there is one. -/
structure Visit where
  /-- The request. -/
  request : Request
  /-- Why the file cannot be replaced. -/
  fault : Option FileFault := none
  deriving DecidableEq, Repr

/-- A request with its response, if it got one. -/
structure Served where
  /-- The request. -/
  request : Request
  /-- The response. -/
  response : Option Response
  deriving DecidableEq, Repr

/-- Answer one request. -/
def serveOne (v : Visit) (s : ConfigStore) : Served × ConfigStore :=
  let (response, s) := handle? v.request (s.obstruct v.fault)
  (⟨v.request, response⟩, s)

/-- Answer requests one after another. -/
def serveAll : List Visit → ConfigStore → List Served × ConfigStore
  | [], s => ([], s)
  | v :: vs, s =>
    let (e, s) := serveOne v s
    let (es, s) := serveAll vs s
    (e :: es, s)

/-- The status of the response, if there is one. -/
def Served.status? (e : Served) : Option Nat :=
  e.response.map (·.status)

/-- A value was written under a key: a `PUT` that addresses the key was answered with 200. -/
def Served.Wrote (key : String) (e : Served) : Prop :=
  e.request.method = .put ∧ Addresses e.request key ∧ e.status? = some 200

/-- Whether a value was written is decided by looking at request and response. -/
instance (key : String) (e : Served) : Decidable (e.Wrote key) :=
  inferInstanceAs (Decidable (_ ∧ _ ∧ _))

/-- The value that was written last under a key; the initial one if none was. -/
def latest (key : String) (initial : Option Bytes) (history : List Served) : Option Bytes :=
  ((history.filter (·.Wrote key)).getLast?.map (·.request.body)).or initial

theorem latest_cons (key : String) (initial : Option Bytes) (e : Served) (history : List Served) :
    latest key initial (e :: history) =
      latest key (if e.Wrote key then some e.request.body else initial) history := by
  unfold latest
  by_cases hwrote : e.Wrote key
  · have hfilter : (e :: history).filter (·.Wrote key) = e :: history.filter (·.Wrote key) :=
      List.filter_cons_of_pos (decide_eq_true hwrote)
    rw [hfilter, if_pos hwrote, List.getLast?_cons]
    cases (history.filter (·.Wrote key)).getLast? <;> rfl
  · have hfilter : (e :: history).filter (·.Wrote key) = history.filter (·.Wrote key) :=
      List.filter_cons_of_neg (by simpa using hwrote)
    rw [hfilter, if_neg hwrote]

variable (v : Visit)

/-- A request writes a value and is answered with it, or leaves the store alone and is no `PUT`
that was answered with 200. -/
theorem serveOne_cases (s : ConfigStore) :
    (∃ k t, v.request.method = .put ∧ Addresses v.request k ∧
      (s.obstruct v.fault).set k v.request.body = .ok t ∧
      serveOne v s = (⟨v.request, some (value v.request.body)⟩, t)) ∨
    (serveOne v s).2 = s.obstruct v.fault ∧
      ¬ (v.request.method = .put ∧ (serveOne v s).1.status? = some 200) := by
  by_cases hm : v.request.method = .put
  · cases hkey : keyOf? v.request with
    | none =>
      refine .inr ⟨handle?_of_not_write (fun _ => hkey) _, fun ⟨_, hok⟩ => ?_⟩
      obtain ⟨response, hresponse, hstatus⟩ := Option.map_eq_some_iff.mp hok
      exact handle?_put_of_not_addressed hm hkey _ response hresponse hstatus
    | some k =>
      have haddresses := keyOf?_eq_some.mp hkey
      have hhandle := handle?_put hm haddresses (s.obstruct v.fault)
      rcases write_cases k v.request.body (s.obstruct v.fault) with
        ⟨t, hset, hwrite⟩ | ⟨response, hstatus, hwrite⟩
      · refine .inl ⟨k, t, hm, haddresses, hset, ?_⟩
        rw [serveOne, hhandle, hwrite]
      · refine .inr ⟨by rw [serveOne, hhandle, hwrite], fun ⟨_, hok⟩ => hstatus ?_⟩
        simp only [serveOne, hhandle, hwrite] at hok
        exact Option.some.inj hok
  · exact .inr ⟨handle?_of_not_write (fun h => absurd h hm) _, fun h => hm h.1⟩

/-- A request leaves under each key what it has written there, or what was there before. -/
theorem get?_serveOne (s : ConfigStore) (key : String) :
    (serveOne v s).2.entries.get? key =
      if (serveOne v s).1.Wrote key then some v.request.body else s.entries.get? key := by
  rcases serveOne_cases v s with ⟨k, t, hm, haddresses, hset, hserve⟩ | ⟨hstore, hrefused⟩
  · have hiff : (⟨v.request, some (value v.request.body)⟩ : Served).Wrote key ↔ key = k :=
      ⟨fun hwrote => hwrote.2.1.unique haddresses, fun h => ⟨hm, h ▸ haddresses, rfl⟩⟩
    rw [hserve, ConfigStore.entries_set hset, Keyed.get?_insert]
    simp only [hiff]
    rfl
  · rw [hstore, if_neg fun hwrote => hrefused ⟨hwrote.1, hwrote.2.2⟩]
    rfl

/-- After any requests the store holds under each key what was written there last. -/
theorem get?_serveAll (vs : List Visit) (s : ConfigStore) (key : String) :
    (serveAll vs s).2.entries.get? key =
      latest key (s.entries.get? key) (serveAll vs s).1 := by
  induction vs generalizing s with
  | nil => rfl
  | cons v vs ih =>
    simp only [serveAll]
    rw [ih, latest_cons, get?_serveOne]
    rfl

/-! ### What is answered -/

/-- What a request is answered and what it does, where the store is `s` before it and `t` after it,
and `stored` is what was stored under each key so far. -/
structure Answers (stored : String → Option Bytes) (v : Visit) (s : ConfigStore) (e : Served)
    (t : ConfigStore) : Prop where
  /-- A `GET` is answered with what is stored under the key. -/
  get : v.request.method = .get → ∀ key, Addresses v.request key → ∀ bs, stored key = some bs →
    e.response = some { status := 200, contentType := some "application/json", body := bs }
  /-- Where nothing is stored it is answered with 404. -/
  absent : v.request.method = .get → ∀ key, Addresses v.request key → stored key = none →
    e.status? = some 404
  /-- A `PUT` that is answered with 200 is answered with its own body, and changes the value under
  its key and no other. -/
  put : v.request.method = .put → e.status? = some 200 → ∃ key, Addresses v.request key ∧
    e.response =
      some { status := 200, contentType := some "application/json", body := v.request.body } ∧
    ∀ k, t.entries.get? k = if k = key then some v.request.body else s.entries.get? k
  /-- It is answered with 200 if the value is not too long and can be saved. -/
  taken : v.request.method = .put → ∀ key, Addresses v.request key →
    v.request.body.length ≤ maxValueLength → v.fault = none ∨ s.file = none →
    e.status? = some 200
  /-- It is answered with 500 if the value cannot be saved. -/
  unsaved : v.request.method = .put → ∀ key, Addresses v.request key →
    v.request.body.length ≤ maxValueLength → v.fault ≠ none → s.file ≠ none →
    e.status? = some 500
  /-- It is answered with 413 if the value is too long. -/
  tooLong : v.request.method = .put → ∀ key, Addresses v.request key →
    maxValueLength < v.request.body.length → e.status? = some 413
  /-- No other request changes any value. -/
  other : ¬ (v.request.method = .put ∧ e.status? = some 200) →
    ∀ k, t.entries.get? k = s.entries.get? k

/-- A value that can be saved is taken. -/
theorem write_of_replaceable (h : SnapshotFile.Replaceable s.file) {body : Bytes}
    (hlength : body.length ≤ maxValueLength) (key : String) :
    ∃ t, s.set key body = .ok t ∧ write key body s = (value body, t) := by
  obtain ⟨t, hset, -⟩ := ConfigStore.set_of_replaceable h key body
  refine ⟨t, hset, ?_⟩
  rw [write, if_neg (Nat.not_lt.mpr hlength), hset]

/-- After any requests a `GET` of a key is answered with what was written there last, a `PUT` with
200 is one that has written its body under its key, and nothing else changes what is stored. -/
theorem serveAll_answers (vs : List Visit) (v : Visit) (s : ConfigStore) :
    Answers (fun key => latest key (s.entries.get? key) (serveAll vs s).1) v (serveAll vs s).2
      (serveOne v (serveAll vs s).2).1 (serveOne v (serveAll vs s).2).2 := by
  have hstored := fun key => get?_serveAll vs s key
  generalize (serveAll vs s).2 = t at hstored ⊢
  simp only [← hstored]
  have hread : v.request.method = .get → ∀ key, Addresses v.request key →
      (serveOne v t).1.response = some (((t.entries.get? key).map value).getD (plain 404)) := by
    intro hm key h
    rw [serveOne, handle?_get hm h, read_eq]
    rfl
  have hwrite : v.request.method = .put → ∀ key, Addresses v.request key →
      (serveOne v t).1.status? =
        some (write key v.request.body (t.obstruct v.fault)).1.status := by
    intro hm key h
    rw [serveOne, handle?_put hm h]
    rfl
  refine ⟨fun hm key h bs hbs => ?_, fun hm key h hnone => ?_, fun hm hok => ?_,
    fun hm key h hlength hfault => ?_, fun hm key h hlength hfault hfile => ?_,
    fun hm key h hlength => ?_, fun hother => ?_⟩
  · rw [hread hm key h, hbs]
    rfl
  · rw [Served.status?, hread hm key h, hnone]
    rfl
  · rcases serveOne_cases v t with ⟨k, u, -, haddresses, hset, hserve⟩ | ⟨-, hrefused⟩
    · refine ⟨k, haddresses, by rw [hserve]; rfl, fun k' => ?_⟩
      rw [hserve, ConfigStore.entries_set hset, Keyed.get?_insert]
      rfl
    · exact absurd ⟨hm, hok⟩ hrefused
  · have hsaves : SnapshotFile.Replaceable (t.obstruct v.fault).file := by
      rcases hfault with hfault | hfile
      · rw [hfault]
        exact t.replaceable_obstruct
      · exact ConfigStore.replaceable_obstruct_of_none hfile v.fault
    obtain ⟨u, -, hput⟩ := write_of_replaceable hsaves hlength key
    rw [hwrite hm key h, hput]
    rfl
  · obtain ⟨fault, hfault⟩ := Option.ne_none_iff_exists'.mp hfault
    obtain ⟨f, hfile⟩ := Option.ne_none_iff_exists'.mp hfile
    rw [hwrite hm key h, write, if_neg (Nat.not_lt.mpr hlength), hfault,
      ConfigStore.set_obstruct_some hfile]
    rfl
  · rw [hwrite hm key h, write, if_pos hlength]
    rfl
  · intro k
    rcases serveOne_cases v t with ⟨k', u, hm, -, -, hserve⟩ | ⟨hstore, -⟩
    · exact absurd ⟨hm, by rw [hserve]; rfl⟩ hother
    · rw [hstore]
      rfl

/-- What was written at one spelling of a key is read at another one. -/
example :
    (serveOne { request := { method := .get, target := Utf8.ofString "/config/a" } }
      (serveAll
        [{ request := { method := .put, target := Utf8.ofString "/config/%61", body := [7] } },
          { request := { method := .put, target := Utf8.ofString "/config/A", body := [8] } }]
        {}).2).1.response = some (value [7]) := by
  decide +kernel

end HostWatch.ConfigService
