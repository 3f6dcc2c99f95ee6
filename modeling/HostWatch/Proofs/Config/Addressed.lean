import HostWatch.Config.Client
import HostWatch.Proofs.Config.RequestHistory
import HostWatch.Proofs.Http.RequestTarget
import HostWatch.Proofs.Url.Segment

/-!
# The key that the segments of a path address

A request for a path of segments addresses a key in the service only if it has two of them: `config`,
and one that is not empty and stands for the key (`segments_of_addresses`); and if it fits it does
address that key (`addresses_of_segment`). The segments can be told from the text of the path, since
none of them has a slash (`flatMap_slash_inj`). A write that is confirmed has written its body under
the key that it addresses (`set_of_confirmed`).
-/

namespace HostWatch

namespace ConfigService

open Http

variable {cs rest : List Char} {segs segs' : List (List Char)} {u : Url} {r : Request} {key : String}

/-! ### Segments in a path -/

theorem takeWhile_segment (h : '/' ∉ cs) (hrest : ∀ c ∈ rest.head?, c = '/') :
    (cs ++ rest).takeWhile (· ≠ '/') = cs := by
  have hpos : ∀ c ∈ cs, decide (c ≠ '/') = true := fun c hc => by
    rw [decide_eq_true_iff]
    rintro rfl
    exact h hc
  have hstop : rest.takeWhile (· ≠ '/') = [] := by
    cases rest with
    | nil => rfl
    | cons c rest =>
      obtain rfl := hrest c rfl
      rfl
  rw [List.takeWhile_append_of_pos hpos, hstop, List.append_nil]

theorem head?_flatMap_slash : ∀ c ∈ (segs.flatMap ('/' :: ·)).head?, c = '/' := by
  cases segs with
  | nil => exact fun _ h => nomatch h
  | cons s segs => exact fun c h => (Option.some.inj h).symm

/-- Paths with the same text have the same segments. -/
theorem flatMap_slash_inj (h : ∀ s ∈ segs, '/' ∉ s) (h' : ∀ s ∈ segs', '/' ∉ s)
    (heq : segs.flatMap ('/' :: ·) = segs'.flatMap ('/' :: ·)) : segs = segs' := by
  induction segs generalizing segs' with
  | nil =>
    cases segs' with
    | nil => rfl
    | cons s' segs' => exact nomatch heq
  | cons s segs ih =>
    cases segs' with
    | nil => exact nomatch heq
    | cons s' segs' =>
      obtain ⟨hs, hsegs⟩ := List.forall_mem_cons.mp h
      obtain ⟨hs', hsegs'⟩ := List.forall_mem_cons.mp h'
      have hbehind : s ++ segs.flatMap ('/' :: ·) = s' ++ segs'.flatMap ('/' :: ·) :=
        List.tail_eq_of_cons_eq heq
      -- both first segments are the text up to the next slash
      have hfirst : s = s' := by
        rw [← takeWhile_segment hs head?_flatMap_slash, hbehind,
          takeWhile_segment hs' head?_flatMap_slash]
      subst hfirst
      rw [ih hsegs hsegs' (List.append_cancel_left hbehind)]

/-- A sign that ends a segment or a path is no octet of it. -/
theorem octet_not_mem (hsegs : ∀ s ∈ segs, Url.IsSegment s) {mark : Char} (hmark : mark ≠ '/')
    (hends : ∀ c, c ≠ '/' ∧ c ≠ '?' ∧ c ≠ '#' → c ≠ mark) (hascii : mark.toNat < 0x80) :
    RequestTarget.octet mark ∉ Utf8.encode (segs.flatMap ('/' :: ·)) := by
  have hoctet : (RequestTarget.octet mark).toNat = mark.toNat := Utf8.toNat_ofNat (by omega)
  rw [Utf8.mem_encode_ascii (by omega), hoctet]
  rintro ⟨c, hc, hnat⟩
  obtain rfl := Char.toNat_inj.mp hnat
  obtain ⟨s, hs, hmem⟩ := List.mem_flatMap.mp hc
  rcases List.mem_cons.mp hmem with h | h
  · exact hmark h
  · exact hends c (hsegs s hs c h) rfl

theorem query_not_mem (hsegs : ∀ s ∈ segs, Url.IsSegment s) :
    RequestTarget.octet '?' ∉ Utf8.encode (segs.flatMap ('/' :: ·)) :=
  octet_not_mem hsegs (by decide) (fun _ h => h.2.1) (by decide)

theorem fragment_not_mem (hsegs : ∀ s ∈ segs, Url.IsSegment s) :
    RequestTarget.octet '#' ∉ Utf8.encode (segs.flatMap ('/' :: ·)) :=
  octet_not_mem hsegs (by decide) (fun _ h => h.2.2) (by decide)

theorem head?_encode_path (hne : segs ≠ []) :
    (Utf8.encode (segs.flatMap ('/' :: ·))).head? = some (RequestTarget.octet '/') := by
  obtain ⟨s, segs, rfl⟩ := List.exists_cons_of_ne_nil hne
  rfl

/-! ### The segment of a key -/

theorem isSegment_config : Url.IsSegment "config".toList := by
  decide

/-- The target of a request for a URL is the text of its segments, and a query behind it. -/
theorem targetOf_eq (h : u.path = .segments segs) : ∃ query, (∀ c ∈ query.head?, c = '?') ∧
    targetOf u = Utf8.encode (segs.flatMap ('/' :: ·) ++ query) := by
  refine ⟨_, ?_, by rw [targetOf, Url.requestTarget, h, Url.Path.text]⟩
  cases u.query with
  | none => exact fun _ hc => nomatch hc
  | some q => exact fun c hc => (Option.some.inj hc).symm

/-- What a request for a path of segments addresses stands in the second one, behind `config`. -/
theorem segments_of_addresses (hu : u.path = .segments segs) (hsegs : ∀ s ∈ segs, Url.IsSegment s)
    (hne : segs ≠ []) (htarget : r.target = targetOf u) (h : Addresses r key) :
    ∃ e, segs = ["config".toList, e] ∧ e ≠ [] ∧ Url.decoded? e = some key.toList := by
  obtain ⟨query, hquery, htext⟩ := targetOf_eq hu
  obtain ⟨target, segment, hparse, hpath, hsegment, hslash, hkey⟩ := h
  have hrest : ∀ b ∈ (Utf8.encode query).head?, b = RequestTarget.octet '?' := by
    cases query with
    | nil => exact fun _ hb => nomatch hb
    | cons c query =>
      obtain rfl := hquery c rfl
      exact fun b hb => (Option.some.inj hb).symm
  rw [htarget, htext, Utf8.encode_append] at hparse
  have hwhole := RequestTarget.path_of_parse? (head?_encode_path hne) (query_not_mem hsegs)
    (fragment_not_mem hsegs) hrest hparse
  -- the octets behind the root are those of a text without slashes
  obtain ⟨e, hbehind, rfl⟩ := Utf8.exists_of_encode_eq_append (hwhole.symm.trans hpath)
  have hplain : '/' ∉ e := fun hmem =>
    hslash ((Utf8.mem_encode_ascii (by decide)).mpr ⟨'/', hmem, rfl⟩)
  have hpair : ["config".toList, e].flatMap ('/' :: ·) = "/config/".toList ++ e := by
    simp only [List.flatMap_cons, List.flatMap_nil, List.append_nil]
    rfl
  refine ⟨e, flatMap_slash_inj (fun s hs hmem => (hsegs s hs _ hmem).1 rfl) ?_
    (hbehind.trans hpair.symm), ?_, ?_⟩
  · intro s hs
    simp only [List.mem_cons, List.not_mem_nil, or_false] at hs
    rcases hs with rfl | rfl
    · decide
    · exact hplain
  · rintro rfl
    exact hsegment rfl
  · obtain ⟨cs, hcs, rfl⟩ := Option.map_eq_some_iff.mp hkey
    rw [Url.decoded?, hcs, String.toList_ofList]

theorem inPath_of_mem_encode {b : UInt8} (h : ∀ c ∈ cs, Url.InPath c) (hb : b ∈ Utf8.encode cs) :
    RequestTarget.inPath b := by
  obtain ⟨c, hc, hmem⟩ := List.mem_flatMap.mp hb
  obtain ⟨hblank, htick, hless, hgreater⟩ := h c hc
  have hnat : b.toNat = c.toNat ∨ 0x80 ≤ b.toNat := Utf8.toNat_of_mem_encodeChar hmem
  have hless' : c.toNat ≠ 0x3C := fun h => hless (Char.toNat_inj.mp h)
  have hgreater' : c.toNat ≠ 0x3E := fun h => hgreater (Char.toNat_inj.mp h)
  have all : ∀ n : Fin 256, n.val ≠ 0x3C → n.val ≠ 0x3E → n.val ≠ 0x60 → 0x20 < n.val →
      RequestTarget.inPath (UInt8.ofNat n.val) = true := by decide +kernel
  simpa using all ⟨b.toNat, b.toNat_lt⟩ (by dsimp; omega) (by dsimp; omega) (by dsimp; omega)
    (by dsimp; omega)

/-- A request for `config` and one more segment, if it fits, addresses what that segment stands
for. -/
theorem addresses_of_segment (hsegment : Url.IsSegment cs) (hpath : ∀ c ∈ cs, Url.InPath c)
    (hne : cs ≠ []) (hkey : Url.decoded? cs = some key.toList)
    (htarget : r.target = Utf8.encode ("/config/".toList ++ cs))
    (hlength : r.target.length ≤ RequestTarget.maxLength) : Addresses r key := by
  have hsegs : ∀ s ∈ ["config".toList, cs], Url.IsSegment s := by
    intro s hs
    simp only [List.mem_cons, List.not_mem_nil, or_false] at hs
    rcases hs with rfl | rfl
    · exact isSegment_config
    · exact hsegment
  have hpair : "/config/".toList ++ cs = ["config".toList, cs].flatMap ('/' :: ·) := by
    simp only [List.flatMap_cons, List.flatMap_nil, List.append_nil]
    rfl
  have hall : ∀ c ∈ "/config/".toList ++ cs, Url.InPath c := by
    intro c hc
    rcases List.mem_append.mp hc with hc | hc
    · have hroot : "/config/".toList.all (Url.InPath ·) = true := by decide
      exact of_decide_eq_true (List.all_eq_true.mp hroot c hc)
    · exact hpath c hc
  refine ⟨⟨r.target, none⟩, Utf8.encode cs, ?_, ?_, ?_, ?_, ?_⟩
  · rw [htarget, hpair] at hlength ⊢
    refine RequestTarget.parse?_path (head?_encode_path (List.cons_ne_nil _ _)) hlength
      (query_not_mem hsegs) (fragment_not_mem hsegs) (fun b hb => ?_) ?_
    · exact inPath_of_mem_encode hall (by rwa [hpair])
    · rw [Utf8.decode?_encode]
      rfl
  · rw [htarget, Utf8.encode_append]
    rfl
  · obtain ⟨c, cs, rfl⟩ := List.exists_cons_of_ne_nil hne
    rw [Utf8.encode_cons]
    exact List.append_ne_nil_of_left_ne_nil (Utf8.encodeChar_ne_nil c) _
  · rw [Utf8.mem_encode_ascii (by decide)]
    rintro ⟨c, hc, hnat⟩
    exact (hsegment c hc).1 (Char.toNat_inj.mp hnat)
  · have hdecode : Utf8.decode? (Url.percentDecode (Utf8.encode cs)) = some key.toList := hkey
    rw [Utf8.toString?, hdecode, Option.map_some, String.ofList_toList]

/-! ### Reading and writing -/

/-- A read that addresses no key is answered alike whatever is stored. -/
theorem handle?_get_of_not_addressed (hm : r.method = .get) (h : keyOf? r = none)
    (s t : ConfigStore) : (handle? r s).1 = (handle? r t).1 := by
  cases htarget : RequestTarget.parse? r.target with
  | none => simp only [handle?, htarget]
  | some target =>
    simp only [keyOf?, htarget, Option.bind_some] at h
    cases hsegment : segment? target.path with
    | none => simp only [handle?, htarget, route, hsegment]
    | some segment =>
      have hkey : key? segment = none := by simpa only [hsegment, Option.bind_some] using h
      simp only [handle?, htarget, route, hsegment, serve, hm, hkey, Option.map_none]

/-- A value that is read brings 200, 404 or 500. -/
theorem status_read (key : String) (s : ConfigStore) :
    (read key s).status = 200 ∨ (read key s).isSuccess = false := by
  unfold read
  split
  · exact .inl rfl
  · exact .inr rfl
  · exact .inr rfl

theorem status_answer (segment : Bytes) (s : ConfigStore) :
    (((key? segment).map (read · s)).getD undecodable).status = 200 ∨
      (((key? segment).map (read · s)).getD undecodable).isSuccess = false := by
  cases key? segment with
  | none => exact .inr rfl
  | some key => exact status_read key s

theorem status_write (key : String) (body : Bytes) (s : ConfigStore) :
    (write key body s).1.status = 200 ∨ (write key body s).1.isSuccess = false := by
  unfold write
  split
  · exact .inr rfl
  · split
    · exact .inl rfl
    · exact .inr rfl

/-- Success is reported with 200 and in no other way. -/
theorem status_handle? (r : Request) (s : ConfigStore) :
    ∀ response ∈ (handle? r s).1, response.isSuccess → response.status = 200 := by
  intro response hresponse hsuccess
  suffices response.status = 200 ∨ response.isSuccess = false from
    this.resolve_right (by rw [hsuccess]; exact Bool.noConfusion)
  cases htarget : RequestTarget.parse? r.target with
  | none =>
    simp only [handle?, htarget] at hresponse
    cases hresponse
  | some target =>
    simp only [handle?, htarget, route] at hresponse
    cases hsegment : segment? target.path with
    | none =>
      simp only [hsegment] at hresponse
      cases hresponse
      exact .inr rfl
    | some segment =>
      simp only [hsegment, serve] at hresponse
      cases hm : r.method with
      | get | head =>
        simp only [hm] at hresponse
        cases hresponse
        exact status_answer segment s
      | put =>
        simp only [hm] at hresponse
        cases hkey : key? segment with
        | none =>
          simp only [hkey] at hresponse
          cases hresponse
          exact .inr rfl
        | some key =>
          simp only [hkey] at hresponse
          cases hresponse
          exact status_write key r.body s
      | other token =>
        simp only [hm] at hresponse
        cases hresponse
        exact .inr rfl

/-- A write that is confirmed has written its body under the key that it addresses. -/
theorem set_of_confirmed {s t : ConfigStore} {response : Response} (hm : r.method = .put)
    (h : handle? r s = (some response, t)) (hsuccess : response.isSuccess) :
    ∃ key, Addresses r key ∧ s.set key r.body = .ok t ∧ response = value r.body := by
  have hresponse : response ∈ (handle? r s).1 := by rw [h]; rfl
  have hok := status_handle? r s response hresponse hsuccess
  cases hkey : keyOf? r with
  | none => exact absurd hok (handle?_put_of_not_addressed hm hkey s response hresponse)
  | some key =>
    have haddresses := keyOf?_eq_some.mp hkey
    rw [handle?_put hm haddresses] at h
    rcases write_cases key r.body s with ⟨t', hset, hwrite⟩ | ⟨response', hstatus, hwrite⟩
    · rw [hwrite] at h
      cases h
      exact ⟨key, haddresses, hset, rfl⟩
    · rw [hwrite] at h
      cases h
      exact absurd hok hstatus

end ConfigService

end HostWatch
