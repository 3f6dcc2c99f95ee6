import HostWatch.CommandLine.Manage
import HostWatch.Proofs.Config.KeyUrl
import HostWatch.Proofs.Json.Values
import HostWatch.Proofs.Url.Behind
import Mathlib.Data.List.Flatten

/-!
# What the command writes

The command puts a key behind the URL of the service as it is. What the service is asked for is
then the text behind the last slash of the key, without a query or fragment and without what URLs
drop and pass over, percent-decoded (`segmentOf`). That is the key itself for clear keys and for no
others (`decoded?_segmentOf`). So a `set` that is confirmed writes the value under the key that was
given exactly if that key is clear, and the value is then read back by the library client, too.
-/

namespace HostWatch.ManageCommand

open Http

/-! ### The key that is asked for -/

/-- The part of a key that is sent as the segment behind `config`. -/
def segmentOf (key : List Char) : List Char :=
  Url.lastSegment .special ((Url.tidied key).takeWhile fun c => !Url.endsPath c)

/-- A key that stands for itself in a URL. -/
structure Clear (key : String) : Prop where
  /-- No character in it means something else in a URL, or is passed over. -/
  signs : ∀ c ∈ key.toList, c ≠ '/' ∧ c ≠ '\\' ∧ c ≠ '?' ∧ c ≠ '#' ∧
    c ≠ '\t' ∧ c ≠ '\n' ∧ c ≠ '\r'
  /-- It does not end with a blank or a control character. -/
  ending : ∀ c ∈ key.toList.getLast?, 0x20 < c.toNat
  /-- Nothing in it looks percent-encoded. -/
  undecoded : Url.percentDecode (Utf8.ofString key) = Utf8.ofString key

variable {key : String} {cs ds : List Char}

theorem segmentOf_sublist (cs : List Char) : (segmentOf cs).Sublist cs :=
  (Url.lastSegment_sublist _ _).trans ((List.takeWhile_sublist _).trans (Url.tidied_sublist cs))

/-- Nothing is taken from a clear key. -/
theorem Clear.segmentOf_eq (h : Clear key) : segmentOf key.toList = key.toList := by
  have hend : key.toList.reverse.dropWhile Url.isControlOrSpace = key.toList.reverse := by
    cases hrev : key.toList.reverse with
    | nil => rfl
    | cons c cs =>
      have hlast : key.toList.getLast? = some c := by
        rw [← List.head?_reverse, hrev]
        rfl
      exact List.dropWhile_cons_of_neg (by simp [Url.not_isControlOrSpace (h.ending c hlast)])
  have hpass : key.toList.filter (fun c => !Url.isPassedOver c) = key.toList :=
    List.filter_eq_self.mpr fun c hc => by
      obtain ⟨-, -, -, -, htab, hfeed, hreturn⟩ := h.signs c hc
      simp [Url.isPassedOver, htab, hfeed, hreturn]
  have hpath : key.toList.takeWhile (fun c => !Url.endsPath c) = key.toList :=
    List.takeWhile_eq_self_iff.mpr fun c hc => by
      obtain ⟨-, -, hquery, hmark, -⟩ := h.signs c hc
      simp [Url.endsPath, hquery, hmark]
  have hslash : key.toList.reverse.takeWhile (fun c => !Url.endsSegment .special c) =
      key.toList.reverse :=
    List.takeWhile_eq_self_iff.mpr fun c hc => by
      obtain ⟨hslash, hback, -⟩ := h.signs c (List.mem_reverse.mp hc)
      simp [Url.endsSegment, hslash, hback]
  rw [segmentOf, Url.tidied, hend, List.reverse_reverse, hpass, hpath, Url.lastSegment, hslash,
    List.reverse_reverse]

/-- What takes something from a text at most, and nothing in the end, takes nothing. -/
theorem eq_of_sublists {es : List Char} (h : ds.Sublist es) (h' : es.Sublist cs) (heq : ds = cs) :
    es = cs := by
  rw [heq] at h
  exact h'.antisymm h

/-- A key from which nothing is taken has no sign of a URL in it. -/
theorem of_segmentOf_eq (h : segmentOf cs = cs) :
    (∀ c ∈ cs, c ≠ '/' ∧ c ≠ '\\' ∧ c ≠ '?' ∧ c ≠ '#' ∧ c ≠ '\t' ∧ c ≠ '\n' ∧ c ≠ '\r') ∧
      ∀ c ∈ cs.getLast?, 0x20 < c.toNat := by
  -- each step takes something away at most, so none of them takes anything
  have htidied : Url.tidied cs = cs :=
    eq_of_sublists ((Url.lastSegment_sublist _ _).trans (List.takeWhile_sublist _))
      (Url.tidied_sublist cs) h
  rw [segmentOf, htidied] at h
  have hpath : cs.takeWhile (fun c => !Url.endsPath c) = cs :=
    eq_of_sublists (Url.lastSegment_sublist _ _) (List.takeWhile_sublist _) h
  rw [hpath, Url.lastSegment] at h
  have hslash : cs.reverse.takeWhile (fun c => !Url.endsSegment .special c) = cs.reverse := by
    rw [← List.reverse_inj, h, List.reverse_reverse]
  have hend : (cs.reverse.dropWhile Url.isControlOrSpace).reverse = cs := by
    have hsuffix := (List.dropWhile_suffix (l := cs.reverse) Url.isControlOrSpace).sublist
    exact eq_of_sublists List.filter_sublist (by simpa using hsuffix.reverse) htidied
  rw [Url.tidied, hend, List.filter_eq_self] at htidied
  rw [List.takeWhile_eq_self_iff] at hpath hslash
  refine ⟨fun c hc => ?_, fun c hc => ?_⟩
  · have hpassed := htidied c hc
    have hends := hpath c hc
    have hsegment := hslash c (List.mem_reverse.mpr hc)
    simp only [Url.isPassedOver, Url.endsPath, Url.endsSegment, Bool.not_eq_true',
      Bool.or_eq_false_iff, Bool.and_eq_false_iff, decide_eq_false_iff_not, ne_eq, reduceCtorEq,
      not_false_eq_true, decide_true, Bool.true_eq_false, or_false] at hpassed hends hsegment
    exact ⟨hsegment.1, hsegment.2, hends.1, hends.2, hpassed.1.1, hpassed.1.2, hpassed.2⟩
  · by_contra hblank
    have hhead : cs.reverse.head? = some c := by rw [List.head?_reverse]; exact hc
    obtain ⟨rest, hrest⟩ := List.head?_eq_some_iff.mp hhead
    have hc : Url.isControlOrSpace c = true := decide_eq_true (Nat.le_of_not_lt hblank)
    have hlength := congrArg List.length hend
    have hle := (List.dropWhile_sublist (l := rest) Url.isControlOrSpace).length_le
    rw [List.length_reverse, hrest, List.dropWhile_cons_of_pos hc, ← cs.length_reverse, hrest,
      List.length_cons] at hlength
    omega

/-- A key is what is asked for exactly if it is clear. -/
theorem decoded?_segmentOf :
    Url.decoded? (segmentOf key.toList) = some key.toList ↔ Clear key := by
  constructor
  · intro h
    have hoctets : Utf8.encode key.toList = Url.percentDecode (Utf8.encode (segmentOf key.toList)) :=
      Utf8.encode_of_decode? h
    -- decoding makes octets fewer, and so does taking from a text: neither has happened
    have hsub : (Utf8.encode (segmentOf key.toList)).Sublist (Utf8.encode key.toList) :=
      List.Sublist.flatMap (segmentOf_sublist key.toList) _
    have hdecoded := Url.length_percentDecode_le (Utf8.encode (segmentOf key.toList))
    have hle := hsub.length_le
    have hlength := congrArg List.length hoctets
    have hsame : segmentOf key.toList = key.toList := by
      have heq := hsub.eq_of_length (by omega)
      have htexts := congrArg Utf8.decode? heq
      rw [Utf8.decode?_encode, Utf8.decode?_encode] at htexts
      exact Option.some.inj htexts
    obtain ⟨hsigns, hending⟩ := of_segmentOf_eq hsame
    rw [hsame] at hoctets
    exact ⟨hsigns, hending, hoctets.symm⟩
  · intro h
    have hoctets : Url.percentDecode (Utf8.encode key.toList) = Utf8.encode key.toList :=
      h.undecoded
    rw [h.segmentOf_eq, Url.decoded?, hoctets, Utf8.decode?_encode]

/-! ### The URL that is asked for -/

variable {url json : String} {u : Url} {v : Json.Value} {s t : ConfigStore} {args : List String}

theorem toList_address (url key : String) : (address url key).toList =
    (withoutSlashes url).toList ++ '/' :: ("config".toList ++ '/' :: key.toList) := by
  simp only [address, String.toList_append, List.append_assoc]
  rfl

/-- The path of the URL of a key ends with what is asked for, if not with a slash. -/
theorem path_of_address (hurl : Url.IsServer (withoutSlashes url).toList)
    (hu : Url.parse Idna.toAscii? (address url key).toList = .ok u) :
    ∃ path, u.path = .segments path ∧ path ≠ [] ∧ (∀ s ∈ path, Url.IsSegment s) ∧
      ∀ e, e ≠ [] → path.getLast? = some e →
        e = Url.percentEncode Url.inPathSet (segmentOf key.toList) ∧
          Url.isDoubleDot e = false ∧ Url.isSingleDot e = false := by
  have hkind : Url.Kind.special ≠ .file := nofun
  rw [toList_address] at hu
  refine ⟨_, Url.path_of_parse hurl hu, Url.readPath_ne_nil hkind _,
    fun s hs => Url.isSegment_of_mem_readPath hkind hs, fun e he hlast => ?_⟩
  obtain ⟨heq, hdots⟩ := Url.getLast?_readPath hkind he hlast
  have hconfig : Url.Printed "config/".toList := by decide
  have hplain : ∀ c ∈ "config/".toList, (!Url.endsPath c) = true := List.all_eq_true.mp (by decide)
  have hsplit (cs : List Char) : "config".toList ++ '/' :: cs = "config/".toList ++ cs := rfl
  rw [hsplit, Url.tidied_append hconfig, List.takeWhile_append_of_pos hplain, ← hsplit,
    Url.lastSegment_append (by decide)] at heq
  exact ⟨heq, hdots⟩

/-! ### Confirmed writes -/

/-- A write of a value under a key is answered with success, and leaves a store behind. -/
def Confirmed (url key : String) (v : Json.Value) (s t : ConfigStore) : Prop :=
  ∃ u response, Url.parse Idna.toAscii? (address url key).toList = .ok u ∧
    ConfigService.handle? (request u (some v)) s = (some response, t) ∧ response.isSuccess

/-- A confirmed write has written the value under what is asked for, and is answered with it. -/
theorem Confirmed.cases (hurl : Url.IsServer (withoutSlashes url).toList)
    (h : Confirmed url key v s t) :
    ∃ u k, Url.parse Idna.toAscii? (address url key).toList = .ok u ∧
      ConfigService.handle? (request u (some v)) s =
        (some (ConfigService.value v.encode), t) ∧
      ConfigService.Addresses (request u (some v)) k ∧ s.set k v.encode = .ok t ∧
      Url.decoded? (segmentOf key.toList) = some k.toList ∧
      key.toList ≠ [] ∧ key.toList ≠ ['.'] ∧ key.toList ≠ ['.', '.'] := by
  obtain ⟨u, response, hu, hhandle, hsuccess⟩ := h
  obtain ⟨k, haddresses, hset, rfl⟩ := ConfigService.set_of_confirmed rfl hhandle hsuccess
  obtain ⟨path, hpath, hne, hsegments, hlast⟩ := path_of_address hurl hu
  obtain ⟨e, rfl, he, hdecoded⟩ :=
    ConfigService.segments_of_addresses hpath hsegments hne rfl haddresses
  obtain ⟨rfl, hdouble, hsingle⟩ := hlast e he rfl
  rw [Url.decoded?_path] at hdecoded
  refine ⟨u, k, hu, hhandle, haddresses, hset, hdecoded, ?_, ?_, ?_⟩ <;> intro hdots
  · rw [hdots] at he
    exact he rfl
  · rw [hdots] at hsingle
    exact absurd hsingle (by decide)
  · rw [hdots] at hdouble
    exact absurd hdouble (by decide)

/-- What is shown of a value that the service answers with. -/
theorem shown_value (h : Json.decode Json.anyValue v.encode = .ok v) :
    shown (ConfigService.value v.encode) = { output := String.ofList v.pretty ++ "\n" } := by
  have hsuccess : (ConfigService.value v.encode).isSuccess = true := rfl
  have hbody : (ConfigService.value v.encode).body = v.encode := rfl
  rw [shown, if_pos hsuccess, hbody, h]

/-- What a key that is clear names at the root of a service, the library client reads under it. -/
theorem Clear.get_eq {c : ConfigClient} (hclear : Clear key) (hc : c.base.IsRoot)
    (hfits : ∀ u, c.keyUrl key = .ok u → (targetOf u).length ≤ RequestTarget.maxLength)
    (hne : key.toList ≠ []) (hdot : key.toList ≠ ['.']) (hdots : key.toList ≠ ['.', '.'])
    (s : ConfigStore) :
    ((c.access ConfigService.network).get key s).1 =
      ((s.entries.get? key).map .ok).getD (.error (.notFound key)) := by
  have hplain : ConfigClient.Plain key := by
    refine ⟨fun d hd => ?_, hdot, hdots⟩
    obtain ⟨-, -, -, -, hpassed⟩ := hclear.signs d hd
    exact hpassed
  have hroot : c.AtRoot := hc.path
  obtain ⟨path, hpath, hfront⟩ := hroot.frontOf_eq
  have hu := ConfigClient.keyUrl_of_segments hpath key
  rw [hplain.placeOf_eq, hfront] at hu
  refine ConfigClient.get_of_addressed hu ?_ s
  refine ConfigService.addresses_of_segment
    (Url.isSegment_percentEncode (Url.coversPath_segmentSet _) fun _ => Url.segmentSet_slash _)
    (Url.inPath_percentEncode (Url.coversPath_segmentSet (Url.Kind.ofScheme c.base.scheme)))
    (Url.percentEncode_ne_nil hne) (Url.decoded?_segment _ _) ?_ (hfits _ hu)
  simp only [ConfigClient.readRequest, targetOf, Url.requestTarget, Url.Path.text, hc.query,
    ConfigClient.Place.segments, List.nil_append, List.flatMap_cons, List.flatMap_nil,
    List.append_nil]
  rfl

/-- A `set` that is confirmed writes the compact text of the value under the key that is asked for
and under no other, and shows the value, as a `get` of the same key does then. The key that is asked
for is the one that is given exactly if that is clear, and then the library client reads the value under
it, if the request for it fits. -/
theorem set_confirmed (hargs : Invocation.parse args = .ok ⟨url, .set key json⟩)
    (hurl : Url.IsServer (withoutSlashes url).toList)
    (hv : Json.decode Json.anyValue (Utf8.ofString json) = .ok v) (hwhole : v.Whole)
    (h : Confirmed url key v s t) :
    ∃ k, Url.decoded? (segmentOf key.toList) = some k.toList ∧ s.set k v.encode = .ok t ∧
      execute ConfigService.network args s = ({ output := String.ofList v.pretty ++ "\n" }, t) ∧
      (∀ args', Invocation.parse args' = .ok ⟨url, .get key⟩ →
        execute ConfigService.network args' t =
          ({ output := String.ofList v.pretty ++ "\n" }, t)) ∧
      (k = key ↔ Clear key) ∧
      (Clear key → ∀ c : ConfigClient, c.base.IsRoot →
        (∀ u, c.keyUrl key = .ok u → (targetOf u).length ≤ RequestTarget.maxLength) →
          ((c.access ConfigService.network).get key t).1 = .ok v.encode) := by
  obtain ⟨u, k, hu, hhandle, haddresses, hset, hdecoded, hne, hdot, hdots⟩ := h.cases hurl
  have hread := Json.decode_encode_of_decode hv hwhole
  have hkey : k = key ↔ Clear key := by
    rw [← decoded?_segmentOf, hdecoded, Option.some.injEq, String.toList_inj]
  have hstored : t.entries.get? k = some v.encode := by
    rw [ConfigStore.entries_set hset, Keyed.get?_insert, if_pos rfl]
  refine ⟨k, hdecoded, hset, ?_, fun args' hargs' => ?_, hkey, fun hclear c hc hfits => ?_⟩
  · have htask : (Task.set key json).value? = .ok (some v) := by
      rw [Task.value?, hv]
      rfl
    have hurl' : Url.parse Idna.toAscii? (address url (Task.set key json).key).toList = .ok u := hu
    simp only [execute, hargs, Invocation.execute, htask, hurl', ConfigService.network, hhandle,
      ended, shown_value hread]
  · have htask : (Task.get key).value? = .ok none := rfl
    have hurl' : Url.parse Idna.toAscii? (address url (Task.get key).key).toList = .ok u := hu
    -- the request that reads has the target of the one that wrote
    have haddresses' : ConfigService.Addresses (request u none) k := haddresses
    have hanswer := ConfigService.handle?_get rfl haddresses' t
    rw [ConfigService.read_eq, hstored] at hanswer
    simp only [execute, hargs', Invocation.execute, htask, hurl', ConfigService.network, hanswer,
      Option.map_some, Option.getD_some, ended, shown_value hread]
  · obtain rfl := hkey.mpr hclear
    rw [hclear.get_eq hc hfits hne hdot hdots, hstored]
    rfl

/-! ### Two keys -/

theorem isServer_loopback : Url.IsServer (withoutSlashes "http://[::1]:8085/").toList := by
  have hinside : ("//[::1]:8085".toList.dropWhile Url.isSlash).all
      (!Url.endsAuthority .special ·) = true := by decide
  refine ⟨by decide, "http".toList, "//[::1]:8085".toList, by decide, by decide, by decide, ?_⟩
  intro c hc
  simpa using List.all_eq_true.mp hinside c hc

theorem clear_blank : Clear "a b" :=
  decoded?_segmentOf.mp (by decide +kernel)

/-- A value that is written under a key with a blank in it is shown with one element to a line, and
read by the library client as it is stored. -/
theorem set_confirmed_blank :
    execute ConfigService.network ["--url", "http://[::1]:8085/", "set", "a b", "[ 1 ]"] {} =
        ({ output := "[\n  1\n]\n" }, ⟨[("a b", [0x5B, 0x31, 0x5D])], none⟩) ∧
      execute ConfigService.network ["--url", "http://[::1]:8085/", "get", "a b"]
          ⟨[("a b", [0x5B, 0x31, 0x5D])], none⟩ =
        ({ output := "[\n  1\n]\n" }, ⟨[("a b", [0x5B, 0x31, 0x5D])], none⟩) ∧
      ((ConfigClient.loopback.access ConfigService.network).get "a b"
        ⟨[("a b", [0x5B, 0x31, 0x5D])], none⟩).1 = .ok [0x5B, 0x31, 0x5D] := by
  have hargs : Invocation.parse ["--url", "http://[::1]:8085/", "set", "a b", "[ 1 ]"] =
      .ok ⟨"http://[::1]:8085/", .set "a b" "[ 1 ]"⟩ := by decide +kernel
  have hconfirmed : Confirmed "http://[::1]:8085/" "a b" (.array [.ofInt 1]) {}
      ⟨[("a b", [0x5B, 0x31, 0x5D])], none⟩ :=
    ⟨{ ConfigClient.loopback.base with path := .segments ["config".toList, "a%20b".toList] },
      ConfigService.value [0x5B, 0x31, 0x5D], by decide +kernel, by decide +kernel, rfl⟩
  have hv : Json.decode Json.anyValue (Utf8.ofString "[ 1 ]") = .ok (.array [.ofInt 1]) := rfl
  have hwhole : (Json.Value.array [.ofInt 1]).Whole :=
    .array fun v hv => by
      obtain rfl := List.mem_singleton.mp hv
      exact .integer 1
  have hpretty : String.ofList (Json.Value.array [.ofInt 1]).pretty ++ "\n" = "[\n  1\n]\n" := by
    decide +kernel
  have hencode : (Json.Value.array [.ofInt 1]).encode = [0x5B, 0x31, 0x5D] := by decide +kernel
  have hfits (u : Url) (hu : ConfigClient.loopback.keyUrl "a b" = .ok u) :
      (targetOf u).length ≤ RequestTarget.maxLength := by
    have htarget : ((ConfigClient.loopback.keyUrl "a b").map fun u => (targetOf u).length) =
        .ok 13 := by decide +kernel
    rw [hu] at htarget
    have hlength : (targetOf u).length = 13 := Except.ok.inj htarget
    rw [hlength]
    decide
  obtain ⟨k, -, -, hshown, hgot, -, hlibrary⟩ :=
    set_confirmed hargs isServer_loopback hv hwhole hconfirmed
  rw [hpretty] at hshown hgot
  rw [hencode] at hlibrary
  exact ⟨hshown, hgot _ (by decide +kernel), hlibrary clear_blank _ ⟨.inr rfl, rfl⟩ hfits⟩

/-- A question mark in a key ends it: the value is written under the key without it. -/
theorem cut_at_question_mark :
    execute ConfigService.network ["--url", "http://[::1]:8085", "set", "a?b", "1"] {} =
        ({ output := "1\n" }, ⟨[("a", [0x31])], none⟩) ∧
      ((ConfigClient.loopback.access ConfigService.network).get "a?b" ⟨[("a", [0x31])], none⟩).1 =
        .error (.notFound "a?b") := by
  decide +kernel

end HostWatch.ManageCommand
