import HostWatch.Proofs.Url.Host

/-!
# What is read from an accepted URL

Whatever else stands in a URL, its scheme, its port and its host are read from texts of their own,
and `writtenHost?` is the one that the host is read from. `reading_of_parse` collects what holds of
the three parts of every accepted URL with a host.
-/

namespace HostWatch.Url

variable {kind : Kind} {scheme cs : List Char} {u : Url} {host : Host} {port : Option Nat}

/-! ### The text of a host -/

/-- The text of the host, from behind the slashes of a URL that is not a file. -/
def hostText (kind : Kind) (cs : List Char) : List Char :=
  (splitHost false (splitUserinfo (cs.takeWhile fun c => !endsAuthority kind c)).2).1

/-- The text of the host of a file, out of its host and path. -/
def fileHostText : List Char → List Char
  | a :: b :: rest => if isSlash a && isSlash b then rest.takeWhile fun c => !isSlash c else []
  | _ => []

/-- The text of the host of a URL by the kind of its scheme, from behind the colon. -/
def writtenHost (kind : Kind) (cs : List Char) : List Char :=
  match kind, cs with
  | .file, cs => fileHostText (cs.takeWhile fun c => !endsPath c)
  | .special, cs => hostText .special (cs.dropWhile isSlash)
  | .plain, '/' :: '/' :: cs => hostText .plain cs
  | .plain, _ => []

/-- The kind of the scheme of a URL and the text of its host as it is written. -/
def writtenHost? (cs : List Char) : Option (Kind × List Char) :=
  (splitScheme? (clean cs)).map fun (scheme, rest) =>
    (Kind.ofScheme scheme, writtenHost (Kind.ofScheme scheme) rest)

/-- A text is read as a host, in a URL whose scheme is of a kind. -/
def Host.IsRead (kind : Kind) (text : List Char) (host : Host) : Prop :=
  if kind = .plain then plainHost text = .ok (some host)
  else domainHost Idna.toAscii? text = .ok host

/-- A scheme as it is read: a letter, then letters, digits and a few signs, in lower case. -/
structure SchemeFits (scheme : List Char) : Prop where
  /-- It begins with a letter. -/
  letter : ∃ c rest, scheme = c :: rest ∧ isLetter c
  /-- Its characters are those of a scheme. -/
  all : ∀ c ∈ scheme, inScheme c
  /-- It is in lower case. -/
  lower : Ascii.lower scheme = scheme

/-- A port as it is read: a number of sixteen bits that is not the default one. -/
def PortFits (scheme : List Char) (port : Option Nat) : Prop :=
  ∀ p ∈ port, p ≤ 65535 ∧ defaultPort? scheme ≠ some p

/-- The scheme, host and port of an accepted URL. -/
structure Reading (cs : List Char) (u : Url) (host : Host) : Prop where
  /-- The scheme is one. -/
  scheme : SchemeFits u.scheme
  /-- The host is the one that is written. -/
  written : ∃ text, writtenHost? cs = some (Kind.ofScheme u.scheme, text) ∧
    host.IsRead (Kind.ofScheme u.scheme) text
  /-- The port is one. -/
  port : PortFits u.scheme u.port
  /-- A file has no port, and its host is not this machine. -/
  file : Kind.ofScheme u.scheme = .file → u.port = none ∧ host ≠ .domain "localhost".toList

/-! ### Parts -/

theorem exists_of_bind {ε α β : Type} {x : Except ε α} {f : α → Except ε β} {b : β}
    (h : x >>= f = .ok b) : ∃ a, x = .ok a ∧ f a = .ok b := by
  cases x with
  | error e => nomatch h
  | ok a => exact ⟨a, rfl, h⟩

theorem exists_of_map {ε α β : Type} {x : Except ε α} {f : α → β} {b : β}
    (h : x.map f = .ok b) : ∃ a, x = .ok a ∧ f a = b := by
  cases x with
  | error e => nomatch h
  | ok a => exact ⟨a, rfl, Except.ok.inj h⟩

theorem failIf_of_not {p : Prop} [Decidable p] (h : ¬ p) (e : ParseError) : failIf p e = .ok () :=
  if_neg h

theorem not_of_failIf {p : Prop} [Decidable p] {e : ParseError} {x : Unit} (h : failIf p e = .ok x) :
    ¬ p := by
  intro hp
  rw [failIf, if_pos hp] at h
  nomatch h

theorem isLetter_toLower (c : Char) : isLetter c.toLower = isLetter c :=
  Ascii.apply_toLower isLetter (by decide) c

theorem inScheme_toLower (c : Char) : inScheme c.toLower = inScheme c :=
  Ascii.apply_toLower inScheme (by decide) c

theorem inScheme_of_isLetter {c : Char} (h : isLetter c) : inScheme c := by
  simp [inScheme, h]

theorem schemeFits_of_splitScheme? {rest : List Char} (h : splitScheme? cs = some (scheme, rest)) :
    SchemeFits scheme := by
  unfold splitScheme? at h
  split at h
  · nomatch h
  · next c cs =>
    split at h
    · next hc =>
      split at h
      · obtain ⟨rfl, -⟩ := Prod.mk.inj (Option.some.inj h)
        refine ⟨⟨c.toLower, Ascii.lower (cs.takeWhile inScheme), ?_, ?_⟩, fun d hd => ?_, ?_⟩
        · rw [List.takeWhile_cons_of_pos (inScheme_of_isLetter hc), Ascii.lower_cons]
        · rwa [isLetter_toLower]
        · obtain ⟨e, he, rfl⟩ := List.mem_map.mp hd
          rw [inScheme_toLower]
          exact List.all_eq_true.mp List.all_takeWhile e he
        · exact Ascii.lower_lower _
      · nomatch h
    · nomatch h

theorem portFits_of_readPort {digits : List Char} (h : readPort scheme digits = .ok port) :
    PortFits scheme port := by
  unfold readPort at h
  split at h
  · obtain rfl := Except.ok.inj h
    exact fun p hp => nomatch hp
  · dsimp only at h
    split at h
    · nomatch h
    split at h
    · obtain rfl := Except.ok.inj h
      exact fun p hp => nomatch hp
    · next hle hne =>
      obtain rfl := Except.ok.inj h
      intro p hp
      obtain rfl := Option.some.inj hp
      exact ⟨Nat.le_of_not_lt hle, hne⟩

theorem isRead_of_readHost {text : List Char}
    (h : readHost Idna.toAscii? kind text = .ok (some host)) : host.IsRead kind text := by
  unfold readHost at h
  rw [Host.IsRead]
  split at h
  · next hkind => rwa [if_pos hkind]
  · next hkind =>
    rw [if_neg hkind]
    split at h
    · nomatch h
    · obtain ⟨a, ha, hsome⟩ := exists_of_map h
      rw [ha, Option.some.inj hsome]

theorem readHostPort_cases {given : Bool} {left : List Char}
    (h : readHostPort Idna.toAscii? kind scheme given cs = .ok (some host, port, left)) :
    host.IsRead kind (splitHost false cs).1 ∧ PortFits scheme port := by
  obtain ⟨host', hhost, h⟩ := exists_of_bind h
  obtain ⟨-, -, h⟩ := exists_of_bind h
  obtain ⟨port', hport, h⟩ := exists_of_bind h
  obtain ⟨-, -, h⟩ := exists_of_bind h
  obtain ⟨-, -, h⟩ := exists_of_bind h
  obtain ⟨rfl, rfl, -⟩ : host' = some host ∧ port' = port ∧ _ = left := by
    simpa using Except.ok.inj h
  exact ⟨isRead_of_readHost hhost, portFits_of_readPort hport⟩

theorem readAuthority_cases {a : Authority} (h : readAuthority Idna.toAscii? kind scheme cs = .ok a)
    (hhost : a.host = some host) : host.IsRead kind (hostText kind cs) ∧ PortFits scheme a.port := by
  obtain ⟨-, -, h⟩ := exists_of_bind h
  obtain ⟨⟨host', port', left⟩, hread, h⟩ := exists_of_bind h
  obtain rfl := Except.ok.inj h
  obtain rfl : host' = some host := hhost
  exact readHostPort_cases hread

theorem parseAfterSlashes_cases (h : parseAfterSlashes Idna.toAscii? kind scheme cs = .ok u)
    (hhost : u.host = some host) :
    u.scheme = scheme ∧ host.IsRead kind (hostText kind cs) ∧ PortFits scheme u.port := by
  obtain ⟨a, ha, h⟩ := exists_of_bind h
  obtain rfl := Except.ok.inj h
  exact ⟨rfl, readAuthority_cases ha hhost⟩

theorem fileHost_cases (h : fileHost Idna.toAscii? cs = .ok (some host)) :
    domainHost Idna.toAscii? cs = .ok host ∧ host ≠ .domain "localhost".toList := by
  unfold fileHost at h
  split at h
  · nomatch h
  · obtain ⟨host', hhost, h⟩ := exists_of_map h
    split at h
    · nomatch h
    · next hne =>
      obtain rfl := Option.some.inj h
      exact ⟨hhost, hne⟩

theorem splitFile_cases {path : List Char}
    (h : splitFile Idna.toAscii? cs = .ok (some host, path)) :
    domainHost Idna.toAscii? (fileHostText cs) = .ok host ∧ host ≠ .domain "localhost".toList := by
  unfold splitFile at h
  split at h
  · split at h
    · next hslashes =>
      dsimp only at h
      split at h
      · nomatch h
      · obtain ⟨host', hhost, h⟩ := exists_of_map h
        obtain ⟨rfl, -⟩ := Prod.mk.inj h
        rw [fileHostText, if_pos hslashes]
        exact fileHost_cases hhost
    · split at h <;> nomatch h
  · split at h <;> nomatch h
  · nomatch h

theorem parseFile_cases (h : parseFile Idna.toAscii? cs = .ok u) (hhost : u.host = some host) :
    u.scheme = "file".toList ∧ domainHost Idna.toAscii?
      (fileHostText (cs.takeWhile fun c => !endsPath c)) = .ok host ∧
      u.port = none ∧ host ≠ .domain "localhost".toList := by
  obtain ⟨⟨host', path⟩, hsplit, h⟩ := exists_of_bind h
  obtain rfl := Except.ok.inj h
  obtain rfl : host' = some host := by
    dsimp only at hhost
    split at hhost
    · nomatch hhost
    · exact hhost
  obtain ⟨hread, hne⟩ := splitFile_cases hsplit
  exact ⟨rfl, hread, rfl, hne⟩

/-- The scheme, host and port of an accepted URL are read from texts of their own. -/
theorem reading_of_parse (h : parse Idna.toAscii? cs = .ok u) (hhost : u.host = some host) :
    Reading cs u host := by
  unfold parse at h
  split at h
  · nomatch h
  · next scheme rest hsplit =>
    have hscheme := schemeFits_of_splitScheme? hsplit
    have hwritten : writtenHost? cs = some (Kind.ofScheme scheme,
        writtenHost (Kind.ofScheme scheme) rest) := by
      rw [writtenHost?, hsplit, Option.map_some]
    split at h
    · next hkind =>
      obtain ⟨hfile, hread, hport, hne⟩ := parseFile_cases h hhost
      have hfits : SchemeFits u.scheme := by
        rw [hfile]
        exact ⟨⟨'f', "ile".toList, rfl, rfl⟩, List.all_eq_true.mp (by decide), by decide⟩
      rw [hkind] at hwritten
      refine ⟨hfits, ⟨writtenHost .file rest, ?_, ?_⟩, ?_, fun _ => ⟨hport, hne⟩⟩
      · rw [hfile]
        exact hwritten
      · rw [hfile]
        exact hread
      · rw [hport]
        exact fun p hp => nomatch hp
    · next hkind =>
      obtain ⟨rfl, hread, hport⟩ := parseAfterSlashes_cases h hhost
      refine ⟨hscheme, ⟨_, hwritten, ?_⟩, hport, fun hfile => absurd (hkind.symm.trans hfile) nofun⟩
      rw [hkind]
      exact hread
    · next hkind =>
      unfold parsePlain at h
      split at h
      · obtain ⟨rfl, hread, hport⟩ := parseAfterSlashes_cases h hhost
        refine ⟨hscheme, ⟨_, hwritten, ?_⟩, hport,
          fun hfile => absurd (hkind.symm.trans hfile) nofun⟩
        rw [hkind]
        exact hread
      · obtain rfl := Except.ok.inj h
        nomatch hhost

end HostWatch.Url
