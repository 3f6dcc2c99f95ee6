import Mathlib.Data.List.TakeWhile
import HostWatch.Proofs.Url.Written

/-!
# Origins are URLs of their own

A scheme, a host and a port, written with nothing but the signs between them, are a URL with that
scheme, host and port (`parse_originText`): none of their characters is dropped, ends the host and
port early or is taken for the end of a user, and the host is found between the slashes and the
port.
-/

namespace HostWatch.Url

variable {c : Char} {cs rest scheme : List Char} {kind : Kind} {host : Host} {port : Option Nat}

/-! ### Characters of hosts and ports -/

/-- A character that may stand in the host and port of an origin. -/
def inAuthority (c : Char) : Bool :=
  0x20 < c.toNat && !(['/', '\\', '?', '#', '@'].contains c)

theorem inAuthority_iff : inAuthority c ↔
    0x20 < c.toNat ∧ c ≠ '/' ∧ c ≠ '\\' ∧ c ≠ '?' ∧ c ≠ '#' ∧ c ≠ '@' := by
  simp only [inAuthority, Bool.and_eq_true, decide_eq_true_eq, Bool.not_eq_true',
    List.contains_eq_mem, decide_eq_false_iff_not, List.mem_cons, List.not_mem_nil, or_false,
    not_or, ne_eq]

theorem inAuthority_of_beyond (h : 0x80 ≤ c.toNat) : inAuthority c := by
  have ne {d : Char} (hd : d.toNat < 0x80) : c ≠ d := fun heq => by
    subst heq
    omega
  exact inAuthority_iff.mpr ⟨by omega, ne (by decide), ne (by decide), ne (by decide),
    ne (by decide), ne (by decide)⟩

theorem inAuthority_of_ascii (h : Idna.isForbidden c = false) : inAuthority c := by
  by_cases hc : c.toNat < 0x80
  · exact Ascii.forall_ascii (p := fun c => Idna.isForbidden c = false → inAuthority c) (by decide)
      hc h
  · exact inAuthority_of_beyond (by omega)

theorem inAuthority_of_verbatim (h : isForbiddenInHost c = false) (hset : inControlSet c = false) :
    inAuthority c := by
  have hc : c.toNat < 0x80 := by
    rw [inControlSet, Bool.or_eq_false_iff, decide_eq_false_iff_not, decide_eq_false_iff_not] at hset
    omega
  exact Ascii.forall_ascii (p := fun c => isForbiddenInHost c = false → inControlSet c = false →
    inAuthority c) (by decide) hc h hset

theorem inAuthority_of_hex (h : Ipv6.isSmallHex c) : inAuthority c := by
  by_cases hc : c.toNat < 0x80
  · exact Ascii.forall_ascii (p := fun c => Ipv6.isSmallHex c → inAuthority c) (by decide) hc h
  · exact inAuthority_of_beyond (by omega)

theorem inAuthority_of_digit (h : Decimal.isDigit c ∨ c = '.') : inAuthority c :=
  Ascii.forall_ascii (p := fun c => Decimal.isDigit c ∨ c = '.' → inAuthority c) (by decide)
    (Ipv4.allowed_of_digit h).1 h

theorem inAuthority_of_mem_text (h : host.Given kind) (hc : c ∈ host.text) : inAuthority c := by
  cases h with
  | ascii raw name _ hraw => exact inAuthority_of_ascii (Idna.not_isForbidden_of_toAscii? hraw hc)
  | verbatim name _ _ hname => exact inAuthority_of_verbatim (hname c hc).1 (hname c hc).2
  | ipv4 x => exact inAuthority_of_digit (Ipv4.mem_text x hc)
  | ipv6 x =>
    simp only [Host.text, List.mem_cons, List.mem_append, List.not_mem_nil, or_false] at hc
    obtain rfl | hc | rfl := hc
    · decide
    · obtain hc | rfl := Ipv6.mem_compressed hc
      · exact inAuthority_of_hex hc
      · decide
    · decide

theorem inAuthority_of_mem_portText {u : Url} (hc : c ∈ u.portText) : inAuthority c := by
  unfold portText at hc
  split at hc
  · exact absurd hc List.not_mem_nil
  · next p _ =>
    obtain rfl | hc := List.mem_cons.mp hc
    · decide
    · exact inAuthority_of_digit (.inl (List.all_eq_true.mp (Decimal.all_isDigit_digits p) c hc))

/-! ### Finding the host -/

theorem splitHost_of_not_mem (h : ∀ c ∈ cs, c ≠ ':' ∧ c ≠ '[')
    (hrest : ∀ c ∈ rest.head?, c = ':') : splitHost false (cs ++ rest) = (cs, rest) := by
  induction cs with
  | nil =>
    cases rest with
    | nil => rfl
    | cons c rest =>
      obtain rfl := hrest c rfl
      rfl
  | cons c cs ih =>
    obtain ⟨hc, hcs⟩ := List.forall_mem_cons.mp h
    rw [List.cons_append, splitHost, if_neg (fun h => hc.1 h.1), if_neg hc.2]
    simp only [ite_self, ih hcs]

theorem splitHost_inside (h : ']' ∉ cs) (hrest : ∀ c ∈ rest.head?, c = ':') :
    splitHost true (cs ++ ']' :: rest) = (cs ++ [']'], rest) := by
  induction cs with
  | nil =>
    have hempty : splitHost false rest = ([], rest) :=
      splitHost_of_not_mem (fun c hc => absurd hc List.not_mem_nil) hrest
    simp [splitHost, hempty]
  | cons c cs ih =>
    have hne : c ≠ ']' := fun heq => h (heq ▸ List.mem_cons_self)
    rw [List.cons_append, splitHost, if_neg (by simp)]
    simp only [hne, if_false, ite_self, ih fun hmem => h (List.mem_cons_of_mem _ hmem),
      List.cons_append]

/-- The host is split from the port behind it. -/
theorem splitHost_text (h : host.Given kind) (hrest : ∀ c ∈ rest.head?, c = ':') :
    splitHost false (host.text ++ rest) = (host.text, rest) := by
  cases h with
  | ascii raw name _ hraw =>
    have allowed {c : Char} (hc : c ∈ name) : Idna.isForbidden c = false :=
      Idna.not_isForbidden_of_toAscii? hraw hc
    refine splitHost_of_not_mem (fun c hc => ⟨?_, ?_⟩) hrest <;> rintro rfl <;>
      exact absurd (allowed hc) (by decide)
  | verbatim name _ _ hname =>
    refine splitHost_of_not_mem (fun c hc => ⟨?_, ?_⟩) hrest <;> rintro rfl <;>
      exact absurd (hname _ hc).1 (by decide)
  | ipv4 x =>
    refine splitHost_of_not_mem (fun c hc => ⟨?_, ?_⟩) hrest <;> rintro rfl <;>
      exact absurd (Ipv4.mem_text x hc) (by decide)
  | ipv6 x =>
    have hbracket : ']' ∉ x.text := fun hc => absurd (Ipv6.mem_compressed hc) (by decide)
    rw [Host.text, List.cons_append, List.append_assoc, List.singleton_append, splitHost,
      if_neg (by decide), if_pos rfl, splitHost_inside hbracket hrest]

/-! ### Reading the host and port -/

theorem splitUserinfo_of_not_mem (h : '@' ∉ cs) : splitUserinfo cs = (none, cs) := by
  have hall : cs.reverse.takeWhile (· ≠ '@') = cs.reverse :=
    List.takeWhile_eq_self_iff.mpr fun c hc =>
      decide_eq_true fun heq => h (List.mem_reverse.mp (heq ▸ hc))
  rw [splitUserinfo, hall, List.reverse_reverse, if_neg (Nat.lt_irrefl _)]

theorem readPort_digits {p : Nat} (h : p ≤ 65535) (hne : defaultPort? scheme ≠ some p) :
    readPort scheme (Decimal.digits p) = .ok (some p) := by
  unfold readPort
  split
  · next hnil => exact absurd hnil (Decimal.digits_ne_nil p)
  · rw [Decimal.valueFrom_digits, if_neg (by omega), if_neg hne]

theorem text_ne_nil (h : host.Given kind) : host.text ≠ [] := by
  cases h with
  | ascii raw name _ _ hne => exact hne
  | verbatim name _ hne => exact hne
  | ipv4 x => exact Ipv4.text_ne_nil x
  | ipv6 x => exact List.cons_ne_nil _ _

/-- A host whose name is its own ASCII form is read from its text. -/
theorem isRead_text (h : host.Given kind) (hascii : kind ≠ .plain → ∀ name, host = .domain name →
    Idna.toAscii? name = some name) : host.IsRead kind host.text := by
  rw [Host.IsRead]
  split
  · next hkind =>
    subst hkind
    exact plainHost_text h
  · next hkind => exact domainHost_text hkind h (hascii hkind)

theorem readHost_text (h : host.Given kind) (hread : host.IsRead kind host.text) :
    readHost Idna.toAscii? kind host.text = .ok (some host) := by
  rw [Host.IsRead] at hread
  rw [readHost]
  split
  · next hkind => rwa [if_pos hkind] at hread
  · next hkind =>
    rw [if_neg hkind] at hread
    rw [if_neg (text_ne_nil h), hread]
    rfl

variable {u : Url}

theorem readHostPort_text (h : host.Given kind) (hread : host.IsRead kind host.text)
    (hport : PortFits u.scheme u.port) :
    readHostPort Idna.toAscii? kind u.scheme false (host.text ++ u.portText) =
      .ok (some host, u.port, []) := by
  unfold portText
  cases hp : u.port with
  | none =>
    rw [readHostPort, splitHost_text h (by simp)]
    simp only [readHost_text h hread]
    rfl
  | some p =>
    obtain ⟨hle, hne⟩ := hport p hp
    have hall := List.all_eq_true.mp (Decimal.all_isDigit_digits p)
    have hdigits := List.takeWhile_eq_self_iff.mpr hall
    have hleft := List.dropWhile_eq_nil_iff.mpr hall
    rw [readHostPort, splitHost_text h (by simp)]
    simp only [readHost_text h hread, List.drop_succ_cons, List.drop_zero, hdigits, hleft,
      readPort_digits hle hne]
    rfl

theorem endsAuthority_of_inAuthority (h : inAuthority c) : endsAuthority kind c = false := by
  simp [endsAuthority, inAuthority_iff.mp h]

theorem inAuthority_of_mem_authority (h : host.Given kind) (hc : c ∈ host.text ++ u.portText) :
    inAuthority c :=
  (List.mem_append.mp hc).elim (inAuthority_of_mem_text h) inAuthority_of_mem_portText

/-- From behind the slashes, the host and port are read. -/
theorem parseAfterSlashes_text (h : host.Given kind) (hread : host.IsRead kind host.text)
    (hport : PortFits u.scheme u.port) :
    ∃ v, parseAfterSlashes Idna.toAscii? kind u.scheme (host.text ++ u.portText) = .ok v ∧
      v.scheme = u.scheme ∧ v.host = some host ∧ v.port = u.port := by
  have hall : ∀ c ∈ host.text ++ u.portText, (!endsAuthority kind c) = true := fun c hc => by
    rw [endsAuthority_of_inAuthority (inAuthority_of_mem_authority h hc)]
    rfl
  have hat : '@' ∉ host.text ++ u.portText := fun hc =>
    absurd (inAuthority_of_mem_authority h hc) (by decide)
  have hauthority : readAuthority Idna.toAscii? kind u.scheme (host.text ++ u.portText) =
      .ok ⟨[], [], some host, u.port, []⟩ := by
    rw [readAuthority, List.takeWhile_eq_self_iff.mpr hall, List.dropWhile_eq_nil_iff.mpr hall,
      splitUserinfo_of_not_mem hat]
    simp only [Option.getD_none, List.takeWhile_nil, List.dropWhile_nil, List.drop_nil, ne_eq,
      not_true_eq_false, decide_false, Bool.or_false, readHostPort_text h hread hport]
    rfl
  rw [parseAfterSlashes, hauthority]
  exact ⟨_, rfl, rfl, rfl, rfl⟩

/-! ### Reading the scheme -/

theorem dropWhile_eq_self {p : Char → Bool} (h : ∀ c ∈ cs, p c = false) : cs.dropWhile p = cs := by
  cases cs with
  | nil => rfl
  | cons c cs => exact List.dropWhile_cons_of_neg (by simp [h c List.mem_cons_self])

/-- Nothing is dropped from a text without blanks and control characters. -/
theorem clean_eq_self (h : ∀ c ∈ cs, 0x20 < c.toNat) : clean cs = cs := by
  have keep : ∀ c ∈ cs, isControlOrSpace c = false := fun c hc =>
    decide_eq_false (Nat.not_le.mpr (h c hc))
  have ne {c d : Char} (hc : c ∈ cs) (hd : d.toNat ≤ 0x20) : c ≠ d := fun heq => by
    subst heq
    exact absurd (h c hc) (by omega)
  have pass : ∀ c ∈ cs, (!isPassedOver c) = true := fun c hc => by
    simp [isPassedOver, ne hc (d := '\t') (by decide), ne hc (d := '\n') (by decide),
      ne hc (d := '\r') (by decide)]
  rw [clean, dropWhile_eq_self keep, dropWhile_eq_self fun c hc => keep c (List.mem_reverse.mp hc),
    List.reverse_reverse, List.filter_eq_self.mpr pass]

theorem splitScheme?_of_fits (h : SchemeFits scheme) :
    splitScheme? (scheme ++ ':' :: rest) = some (scheme, rest) := by
  obtain ⟨c, cs, hcs, hc⟩ := h.letter
  have htake : (scheme ++ ':' :: rest).takeWhile inScheme = scheme := by
    rw [List.takeWhile_append_of_pos h.all, List.takeWhile_cons_of_neg (by decide), List.append_nil]
  have hdrop : (scheme ++ ':' :: rest).dropWhile inScheme = ':' :: rest := by
    rw [List.dropWhile_append_of_pos h.all, List.dropWhile_cons_of_neg (by decide)]
  have hlower := h.lower
  subst hcs
  rw [List.cons_append] at htake hdrop ⊢
  simp only [splitScheme?, hc, if_true, hdrop, htake, hlower]

theorem inScheme_toNat (h : inScheme c) : 0x20 < c.toNat := by
  by_cases hc : c.toNat < 0x80
  · exact Ascii.forall_ascii (p := fun c => inScheme c → 0x20 < c.toNat) (by decide) hc h
  · omega

theorem toNat_of_mem_originText (hscheme : SchemeFits u.scheme) (h : host.Given kind)
    (hc : c ∈ u.originText host) : 0x20 < c.toNat := by
  rw [originText, List.mem_append, List.mem_cons, List.mem_cons, List.mem_cons] at hc
  obtain hc | rfl | rfl | rfl | hc := hc
  · exact inScheme_toNat (hscheme.all c hc)
  · decide
  · decide
  · decide
  · exact (inAuthority_iff.mp (inAuthority_of_mem_authority h hc)).1

/-! ### Files -/

theorem isDriveLetter_text (h : host.Given .file) : isDriveLetter host.text = false := by
  unfold isDriveLetter
  split
  · next c d htext =>
    have hd : d ∈ host.text := htext ▸ List.mem_cons_of_mem _ List.mem_cons_self
    have sign (hallowed : d ≠ ':' ∧ d ≠ '|') : (decide (d = ':') || decide (d = '|')) = false := by
      rw [decide_eq_false hallowed.1, decide_eq_false hallowed.2, Bool.or_false]
    rw [Bool.and_eq_false_iff]
    cases h with
    | ascii raw name _ hraw =>
      have hname := Idna.not_isForbidden_of_toAscii? hraw hd
      refine .inr (sign ⟨?_, ?_⟩) <;> rintro rfl <;> exact absurd hname (by decide)
    | verbatim name hplain => nomatch hplain
    | ipv4 x =>
      have hdigit := Ipv4.mem_text x hd
      refine .inr (sign ⟨?_, ?_⟩) <;> rintro rfl <;> exact absurd hdigit (by decide)
    | ipv6 x =>
      obtain rfl : '[' = c := (List.cons.inj htext).1
      exact .inl (by decide)
  · rfl

theorem ne_of_inAuthority (h : inAuthority c) : isSlash c = false ∧ endsPath c = false := by
  simp [isSlash, endsPath, inAuthority_iff.mp h]

/-- The host of a file is read from behind two slashes. -/
theorem parseFile_text (h : host.Given .file) (hread : host.IsRead .file host.text)
    (hne : host ≠ .domain "localhost".toList) :
    ∃ v, parseFile Idna.toAscii? ('/' :: '/' :: host.text) = .ok v ∧ v.scheme = "file".toList ∧
      v.host = some host ∧ v.port = none := by
  have hpath : ∀ c ∈ '/' :: '/' :: host.text, (!endsPath c) = true := fun c hc => by
    rw [List.mem_cons, List.mem_cons] at hc
    obtain rfl | rfl | hc := hc
    · rfl
    · rfl
    · rw [(ne_of_inAuthority (inAuthority_of_mem_text h hc)).2]
      rfl
  have hslash : ∀ c ∈ host.text, (!isSlash c) = true := fun c hc => by
    rw [(ne_of_inAuthority (inAuthority_of_mem_text h hc)).1]
    rfl
  have hhost : fileHost Idna.toAscii? host.text = .ok (some host) := by
    rw [fileHost, if_neg (text_ne_nil h), show domainHost Idna.toAscii? host.text = .ok host from hread,
      Except.map, if_neg hne]
  have hsplit : splitFile Idna.toAscii? ('/' :: '/' :: host.text) = .ok (some host, []) := by
    rw [splitFile, if_pos (by decide), List.takeWhile_eq_self_iff.mpr hslash,
      List.dropWhile_eq_nil_iff.mpr hslash]
    dsimp only
    rw [isDriveLetter_text h, hhost]
    rfl
  rw [parseFile, List.takeWhile_eq_self_iff.mpr hpath, List.dropWhile_eq_nil_iff.mpr hpath, hsplit]
  exact ⟨_, rfl, rfl, rfl, rfl⟩

theorem scheme_of_file (h : Kind.ofScheme scheme = .file) : scheme = "file".toList := by
  unfold Kind.ofScheme at h
  split at h
  · assumption
  · split at h <;> nomatch h

/-! ### Reading an origin -/

/-- A scheme, a host and a port are a URL of their own. -/
theorem parse_originText (hscheme : SchemeFits u.scheme) (hport : PortFits u.scheme u.port)
    (h : host.Given (Kind.ofScheme u.scheme))
    (hascii : Kind.ofScheme u.scheme ≠ .plain → ∀ name, host = .domain name →
      Idna.toAscii? name = some name)
    (hfile : Kind.ofScheme u.scheme = .file → u.port = none ∧ host ≠ .domain "localhost".toList) :
    ∃ v, parse Idna.toAscii? (u.originText host) = .ok v ∧ v.scheme = u.scheme ∧
      v.host = some host ∧ v.port = u.port := by
  have hread := isRead_text h hascii
  have hsplit : splitScheme? (clean (u.originText host)) =
      some (u.scheme, '/' :: '/' :: (host.text ++ u.portText)) := by
    rw [clean_eq_self fun c => toNat_of_mem_originText hscheme h, originText,
      splitScheme?_of_fits hscheme]
  rw [parse, hsplit]
  dsimp only
  cases hkind : Kind.ofScheme u.scheme with
  | file =>
    rw [hkind] at h hread
    obtain ⟨hnone, hne⟩ := hfile hkind
    rw [portText, hnone, List.append_nil, scheme_of_file hkind]
    exact parseFile_text h hread hne
  | special =>
    rw [hkind] at h hread
    obtain ⟨c, cs, hcs⟩ := List.exists_cons_of_ne_nil (text_ne_nil h)
    have hc : isSlash c = false :=
      (ne_of_inAuthority (inAuthority_of_mem_text h (hcs ▸ List.mem_cons_self))).1
    have hdrop : ('/' :: '/' :: (host.text ++ u.portText)).dropWhile isSlash =
        host.text ++ u.portText := by
      rw [List.dropWhile_cons_of_pos (by decide), List.dropWhile_cons_of_pos (by decide), hcs,
        List.cons_append, List.dropWhile_cons_of_neg (by simp [hc])]
    dsimp only
    rw [hdrop]
    exact parseAfterSlashes_text h hread hport
  | plain =>
    rw [hkind] at h hread
    exact parseAfterSlashes_text h hread hport

end HostWatch.Url
