import HostWatch.Proofs.Config.Addressed
import HostWatch.Proofs.Config.OverHttp

/-!
# The URLs of keys

A key is put behind the URL of a service as a segment of its own, with everything encoded in it that
would end the segment. Two things happen to it besides: `.` and `..` are left out, and so are tabs
and line breaks inside a key, after which it may still be one of the two. So a URL tells keys
apart by what is kept of them (`placeOf`): it names a value, or the values as a whole, or what stands
in front of them (`foldl_key`, `Place.segments_inj`). At the root of a service a write is taken only
where a value is named, and is read at whatever key has the same URL.
-/

namespace HostWatch

open Http

/-! ### What the URL of a key names -/

namespace ConfigClient

/-- What the URL of a key names. -/
inductive Place where
  /-- The value under a key. -/
  | value (key : List Char)
  /-- The values as a whole. -/
  | values
  /-- What stands in front of the values. -/
  | service
  deriving DecidableEq, Repr

/-- What is kept of a key: all but tabs and line breaks. -/
def kept (key : String) : List Char :=
  key.toList.filter fun c => c ≠ '\t' && c ≠ '\n' && c ≠ '\r'

/-- What the URL of a key names. -/
def placeOf (key : String) : Place :=
  if key.toList = ['.'] ∨ key.toList = ['.', '.'] then .values
  else if kept key = ['.', '.'] then .service
  else if kept key = ['.'] then .value []
  else .value (kept key)

/-- A key of which all is kept. -/
structure Plain (key : String) : Prop where
  /-- It has no tab and no line break. -/
  unbroken : ∀ c ∈ key.toList, c ≠ '\t' ∧ c ≠ '\n' ∧ c ≠ '\r'
  /-- It is not one or two dots. -/
  undotted : key.toList ≠ ['.'] ∧ key.toList ≠ ['.', '.']

variable {key l : String} {p q : Place} {kind : Url.Kind} {path front : List (List Char)}
  {c : ConfigClient} {u : Url}

/-- A key of which all is kept names the value under itself. -/
theorem Plain.placeOf_eq (h : Plain key) : placeOf key = .value key.toList := by
  have hkept : kept key = key.toList := List.filter_eq_self.mpr fun c hc => by
    obtain ⟨htab, hfeed, hreturn⟩ := h.unbroken c hc
    simp [htab, hfeed, hreturn]
  rw [placeOf, hkept, if_neg (not_or.mpr h.undotted), if_neg h.undotted.2, if_neg h.undotted.1]

/-- The value that is named is that under what is kept, or that under the empty key. -/
theorem kept_of_placeOf {name : List Char} (h : placeOf key = .value name) (hne : name ≠ []) :
    name = kept key := by
  unfold placeOf at h
  split at h
  · cases h
  · split at h
    · cases h
    · split at h
      · cases h
        exact absurd rfl hne
      · cases h
        rfl

/-- The segments of a place behind those of the service. -/
def Place.segments (kind : Url.Kind) (front : List (List Char)) : Place → List (List Char)
  | .value key => front ++ ["config".toList, Url.percentEncode (Url.segmentSet kind) key]
  | .values => front ++ ["config".toList]
  | .service => front ++ [[]]

/-- Different places have different segments. -/
theorem Place.segments_inj (kind : Url.Kind) (front : List (List Char)) :
    p.segments kind front = q.segments kind front ↔ p = q := by
  constructor
  · intro h
    cases p <;> cases q <;> simp only [segments, List.append_cancel_left_eq] at h
    case value.value key key' =>
      rw [List.cons.injEq, List.cons.injEq] at h
      rw [Url.percentEncode_segment_inj.mp h.2.1]
    case values.values | service.service => rfl
    all_goals exact absurd h (by simp)
  · rintro rfl
    rfl

/-- The segments in front of what is appended to a path. -/
def frontOf (path : List (List Char)) : List (List Char) :=
  if Url.popIfEmpty path = [[]] then [] else Url.popIfEmpty path

theorem appendSegment_config (kind : Url.Kind) (path : List (List Char)) :
    Url.appendSegment kind path "config".toList =
      (if path = [[]] then [] else path) ++ ["config".toList] := by
  have hdots : ¬ ("config".toList = ['.'] ∨ "config".toList = ['.', '.']) := by decide
  have hencode : Url.percentEncode (Url.segmentSet kind)
      ("config".toList.filter fun c => c ≠ '\t' && c ≠ '\n' && c ≠ '\r') = "config".toList := by
    cases kind <;> decide
  have hdouble : Url.isDoubleDot "config".toList = false := by decide
  have hsingle : Url.isSingleDot "config".toList = false := by decide
  have hdrive : Url.isDriveLetter "config".toList = false := by decide
  rw [Url.appendSegment, if_neg hdots]
  simp only [hencode, Url.pushSegment, hdouble, hsingle, hdrive, Bool.false_eq_true, and_false,
    if_false]

/-- A key is put behind `config` as the segment of its place. -/
theorem appendSegment_key (kind : Url.Kind) (front : List (List Char)) (key : String) :
    Url.appendSegment kind (front ++ ["config".toList]) key.toList =
      (placeOf key).segments kind front := by
  have hpath : front ++ ["config".toList] ≠ [[]] := by
    intro h
    have hlast := congrArg List.getLast? h
    rw [List.getLast?_concat] at hlast
    exact absurd hlast (by decide)
  have hempty : front ++ ["config".toList] ≠ [] := List.concat_ne_nil _ _
  have hshorten : Url.shorten kind (front ++ ["config".toList]) = front := by
    unfold Url.shorten
    split
    · next s heq =>
      -- `config` is no drive, so it is taken off, too
      obtain ⟨rfl, hs⟩ := List.append_eq_singleton_iff.mp heq |>.resolve_right fun h =>
        absurd h.2 (List.cons_ne_nil _ _)
      obtain rfl := (List.cons.inj hs).1
      rfl
    · exact List.dropLast_concat
  rw [Url.appendSegment, placeOf]
  by_cases hleft : key.toList = ['.'] ∨ key.toList = ['.', '.']
  · rw [if_pos hleft, if_pos hleft, Place.segments]
  · rw [if_neg hleft, if_neg hleft, if_neg hpath]
    change Url.pushSegment kind false _ (Url.percentEncode (Url.segmentSet kind) (kept key)) = _
    unfold Url.pushSegment
    by_cases hdouble : kept key = ['.', '.']
    · rw [if_pos (Url.isDoubleDot_segment.mpr hdouble), if_pos hdouble, hshorten]
      rfl
    · rw [if_neg (mt Url.isDoubleDot_segment.mp hdouble), if_neg hdouble]
      by_cases hsingle : kept key = ['.']
      · rw [if_pos (Url.isSingleDot_segment.mpr hsingle), if_pos hsingle, Place.segments,
          List.append_assoc]
        rfl
      · rw [if_neg (mt Url.isSingleDot_segment.mp hsingle), if_neg hsingle,
          if_neg fun h => hempty h.2.1, Place.segments, List.append_assoc]
        rfl

/-- What is put behind the path of a service for a key. -/
theorem foldl_key (kind : Url.Kind) (path : List (List Char)) (key : String) :
    ["config".toList, key.toList].foldl (Url.appendSegment kind) (Url.popIfEmpty path) =
      (placeOf key).segments kind (frontOf path) := by
  rw [List.foldl_cons, List.foldl_cons, List.foldl_nil, appendSegment_config, appendSegment_key,
    frontOf]

/-- The URL of a key, where a path can be put behind that of the service. -/
theorem keyUrl_of_segments (h : c.base.path = .segments path) (key : String) :
    c.keyUrl key = .ok { c.base with
      path := .segments ((placeOf key).segments (Url.Kind.ofScheme c.base.scheme)
        (frontOf path)) } := by
  simp only [keyUrl, Url.pushSegments?, h, foldl_key]

/-- A path can be put behind the URL of every client that is connected. -/
theorem segments_of_connect {url : String} (h : connect url = .ok c) :
    ∃ path, c.base.path = .segments path := by
  unfold connect at h
  split at h
  · cases h
  · next u hu =>
    split at h
    · cases h
    · next hbase =>
      cases h
      cases hpath : u.path with
      | verbatim text => simp [Url.cannotBeABase, hpath] at hbase
      | segments path => exact ⟨path, rfl⟩

/-! ### At the root of a service -/

/-- A client of a service whose path is empty or a slash; the URL may have a query. -/
def AtRoot (c : ConfigClient) : Prop :=
  c.base.path = .segments [] ∨ c.base.path = .segments [[]]

theorem isSegment_place (p : Place) (kind : Url.Kind) :
    ∀ s ∈ p.segments kind [], Url.IsSegment s := by
  intro s hs
  cases p with
  | value key =>
    simp only [Place.segments, List.nil_append, List.mem_cons, List.not_mem_nil, or_false] at hs
    rcases hs with rfl | rfl
    · exact ConfigService.isSegment_config
    · exact Url.isSegment_percentEncode (Url.coversPath_segmentSet kind) fun _ =>
        Url.segmentSet_slash kind
  | values =>
    obtain rfl := List.mem_singleton.mp hs
    exact ConfigService.isSegment_config
  | service =>
    obtain rfl := List.mem_singleton.mp hs
    exact fun _ hc => nomatch hc

/-- At the root nothing stands in front of the values. -/
theorem AtRoot.frontOf_eq (h : c.AtRoot) : ∃ path, c.base.path = .segments path ∧ frontOf path = [] :=
  h.elim (fun h => ⟨_, h, rfl⟩) fun h => ⟨_, h, rfl⟩

/-- A request for the URL of a key addresses the value that is named, if it addresses any. -/
theorem placeOf_of_addresses (hroot : c.AtRoot) (hu : c.keyUrl key = .ok u) {r : Request}
    (htarget : r.target = targetOf u) (h : ConfigService.Addresses r l) :
    placeOf key = .value l.toList ∧ l.toList ≠ [] := by
  obtain ⟨path, hpath, hfront⟩ := hroot.frontOf_eq
  rw [keyUrl_of_segments hpath, hfront] at hu
  cases hu
  have hne : (placeOf key).segments (Url.Kind.ofScheme c.base.scheme) [] ≠ [] := by
    cases placeOf key <;> exact List.cons_ne_nil _ _
  obtain ⟨e, hsegments, he, hdecoded⟩ :=
    ConfigService.segments_of_addresses rfl (isSegment_place _ _) hne htarget h
  cases hplace : placeOf key with
  | value name =>
    rw [hplace, Place.segments, List.nil_append, List.cons.injEq, List.cons.injEq] at hsegments
    obtain rfl := hsegments.2.1
    rw [Url.decoded?_segment, Option.some.injEq] at hdecoded
    subst hdecoded
    refine ⟨rfl, ?_⟩
    intro hempty
    rw [hempty] at he
    exact he rfl
  | values =>
    rw [hplace] at hsegments
    exact nomatch (List.cons.inj hsegments).2
  | service =>
    rw [hplace] at hsegments
    exact nomatch (List.cons.inj hsegments).2

/-- A write that is confirmed has written under what is kept of the key. -/
theorem set_of_confirmed (hroot : c.AtRoot) {value : Bytes} {s t : ConfigStore}
    (h : (c.access ConfigService.network).set key value s = (.ok (), t)) :
    placeOf key = .value (kept key) ∧ s.set (String.ofList (kept key)) value = .ok t ∧
      ∃ u, c.keyUrl key = .ok u ∧
        ConfigService.Addresses (writeRequest u value) (String.ofList (kept key)) := by
  cases hu : c.keyUrl key with
  | error e => simp [access, hu] at h
  | ok u =>
    simp only [access, hu, ConfigService.network] at h
    cases hhandle : ConfigService.handle? (writeRequest u value) s with
    | mk answer t' =>
      rw [hhandle] at h
      cases answer with
      | none => cases h
      | some response =>
        simp only [confirmationOf, Prod.mk.injEq] at h
        obtain ⟨hconfirmed, rfl⟩ := h
        split at hconfirmed
        · next hsuccess =>
          obtain ⟨name, haddresses, hset, -⟩ :=
            ConfigService.set_of_confirmed rfl hhandle hsuccess
          obtain ⟨hplace, hne⟩ := placeOf_of_addresses hroot hu rfl haddresses
          have hname : name = String.ofList (kept key) := by
            rw [← kept_of_placeOf hplace hne, String.ofList_toList]
          subst hname
          rw [String.toList_ofList] at hplace
          exact ⟨hplace, hset, u, rfl, haddresses⟩
        · cases hconfirmed

/-- What is read at the URL of a key is the value that a request for it addresses. -/
theorem get_of_addressed (hu : c.keyUrl key = .ok u)
    (h : ConfigService.Addresses (readRequest u) l) (s : ConfigStore) :
    ((c.access ConfigService.network).get key s).1 =
      ((s.entries.get? l).map .ok).getD (.error (.notFound key)) := by
  simp only [access, hu, ConfigService.network, ConfigService.handle?_get rfl h,
    ConfigService.read_eq]
  cases s.entries.get? l <;> rfl

/-- Where no value is addressed what is read does not depend on the store. -/
theorem get_of_not_addressed (hu : c.keyUrl key = .ok u)
    (h : ConfigService.keyOf? (readRequest u) = none) (s t : ConfigStore) :
    ((c.access ConfigService.network).get key s).1 =
      ((c.access ConfigService.network).get key t).1 := by
  have hsame := ConfigService.handle?_get_of_not_addressed rfl h s t
  simp only [access, hu, ConfigService.network]
  cases hs : ConfigService.handle? (readRequest u) s with
  | mk answer s' =>
    cases ht : ConfigService.handle? (readRequest u) t with
    | mk answer' t' =>
      rw [hs, ht] at hsame
      obtain rfl : answer = answer' := hsame
      cases answer <;> rfl

/-- Every key has a URL, and two keys have the same one if these name the same place; a key of which
all is kept names the value under itself. At the root of a service a write that is confirmed has
written the value under what is kept of the key, where it is read back, and what is read under any
key that names another place is as before. -/
theorem keys_told_apart {url : String} (h : connect url = .ok c) (k l : String) :
    (∃ u v, c.keyUrl k = .ok u ∧ c.keyUrl l = .ok v ∧ (u = v ↔ placeOf k = placeOf l)) ∧
      (Plain k → placeOf k = .value k.toList) ∧
      (c.AtRoot → ∀ value s t, (c.access ConfigService.network).set k value s = (.ok (), t) →
        placeOf k = .value (kept k) ∧ s.set (String.ofList (kept k)) value = .ok t ∧
          ((c.access ConfigService.network).get k t).1 = .ok value ∧
          (placeOf l ≠ placeOf k →
            ((c.access ConfigService.network).get l t).1 =
              ((c.access ConfigService.network).get l s).1)) := by
  obtain ⟨path, hpath⟩ := segments_of_connect h
  have hk := keyUrl_of_segments hpath k
  have hl := keyUrl_of_segments hpath l
  refine ⟨⟨_, _, hk, hl, ?_⟩, Plain.placeOf_eq, ?_⟩
  · simp only [Url.mk.injEq, Url.Path.segments.injEq, true_and, and_true]
    exact Place.segments_inj _ _
  intro hroot value s t hset
  obtain ⟨hplace, hstored, u, hu, haddresses⟩ := set_of_confirmed hroot hset
  refine ⟨hplace, hstored, ?_, fun hother => ?_⟩
  · -- the request that reads has the target of the one that wrote
    have hread : ConfigService.Addresses (readRequest u) (String.ofList (kept k)) := haddresses
    rw [get_of_addressed hu hread, ConfigStore.entries_set hstored, Keyed.get?_insert, if_pos rfl]
    rfl
  · obtain ⟨v, hv⟩ : ∃ v, c.keyUrl l = .ok v := ⟨_, hl⟩
    cases hkey : ConfigService.keyOf? (readRequest v) with
    | none => exact get_of_not_addressed hv hkey t s
    | some name =>
      have hname := ConfigService.keyOf?_eq_some.mp hkey
      have hne : name ≠ String.ofList (kept k) := by
        rintro rfl
        have hsame := (placeOf_of_addresses hroot hv rfl hname).1
        rw [String.toList_ofList] at hsame
        exact hother (hsame.trans hplace.symm)
      rw [get_of_addressed hv hname, get_of_addressed hv hname, ConfigStore.entries_set hstored,
        Keyed.get?_insert, if_neg hne]

/-! ### A service on the same machine -/

/-- The client of a service at the loopback address. -/
def loopback : ConfigClient where
  base :=
    { scheme := "http".toList, username := [], password := []
      host := some (.ipv6 ⟨[0, 0, 0, 0, 0, 0, 0, 1], rfl⟩), port := some 8085
      path := .segments [[]], query := none, fragment := none }

theorem connect_loopback : connect "http://[::1]:8085" = .ok loopback := by
  decide +kernel

/-- A slash in a key is no slash in a path. -/
theorem told_apart_by_slash :
    connect "http://[::1]:8085" = .ok loopback ∧
      (loopback.access ConfigService.network).set "a/b" [7] {} =
        (.ok (), ⟨[("a/b", [7])], none⟩) ∧
      ((loopback.access ConfigService.network).get "a/b" ⟨[("a/b", [7])], none⟩).1 = .ok [7] ∧
      ((loopback.access ConfigService.network).get "a" ⟨[("a/b", [7])], none⟩).1 =
        ((loopback.access ConfigService.network).get "a" {}).1 := by
  have hset : (loopback.access ConfigService.network).set "a/b" [7] {} =
      (.ok (), ⟨[("a/b", [7])], none⟩) := by decide +kernel
  obtain ⟨-, -, hwritten⟩ := keys_told_apart connect_loopback "a/b" "a"
  obtain ⟨-, -, hread, hother⟩ := hwritten (.inr rfl) [7] {} _ hset
  exact ⟨connect_loopback, hset, hread, hother (by decide +kernel)⟩

/-- A write under a key with a tab in it changes the value under the key without the tab. -/
theorem tab_passed_over :
    connect "http://[::1]:8085" = .ok loopback ∧ "a\tb" ≠ "ab" ∧
      loopback.keyUrl "a\tb" = loopback.keyUrl "ab" ∧
      ((loopback.access ConfigService.network).get "ab" ⟨[("ab", [1])], none⟩).1 = .ok [1] ∧
      (loopback.access ConfigService.network).set "a\tb" [7] ⟨[("ab", [1])], none⟩ =
        (.ok (), ⟨[("ab", [7])], none⟩) ∧
      ((loopback.access ConfigService.network).get "ab" ⟨[("ab", [7])], none⟩).1 = .ok [7] :=
  ⟨connect_loopback, by decide, by decide +kernel, by decide +kernel, by decide +kernel,
    by decide +kernel⟩

end ConfigClient

end HostWatch
