import HostWatch.Proofs.Bus.FanOut
import HostWatch.Proofs.Report.Published
import HostWatch.Proofs.Target.Origin
import HostWatch.Proofs.Url.Trimmed

/-!
# A bare URL on a line

A line with a bare URL reports the same host as the line with the written form of a report of that
URL (`Report.bare_line_meaning`), for every URL of the web that has a target. The bare URL is
trimmed when the line is read, and this takes away what parsing does not: blanks beyond ASCII. None
of them belongs to user, host or port, since neither a host nor a port ends in one. Nor is such a
line taken for a comment or a written form, since the first character that parsing finds is a letter.

In a URL of another scheme the blanks may belong to the host, and then a bare line reports another
host (`Report.bare_line_plain`).
-/

namespace HostWatch.Report

variable {line e : Bytes} {r : Report} {url : String} {u : Url} {t : Target}

/-! ### Lines with one report -/

/-- What may stand behind a line: nothing, a line feed, or a carriage return and a line feed. -/
def lineEnds : List Bytes := [[], [0x0A], [0x0D, 0x0A]]

/-- How a line ends makes no difference. -/
theorem ofInput_lineEnd (he : e ∈ lineEnds) (line : Bytes) : ofInput (line ++ e) = ofInput line := by
  simp only [lineEnds, List.mem_cons, List.not_mem_nil, or_false] at he
  obtain rfl | rfl | rfl := he
  · rw [List.append_nil]
  · exact ofInput_concat line
  · rw [ofInput_return, ofInput_concat]

/-- A line holds one report, which an ingestion of the line publishes, and nothing else. -/
structure Holds (line : Bytes) (r : Report) : Prop where
  /-- It is the only report on the line. -/
  alone : ∀ e ∈ lineEnds, ofInput (line ++ e) = [r]
  /-- Whatever takes it has taken one report. -/
  taken : ∀ {σ ε : Type} {publish : Report → σ → Except ε Unit × σ} {s s' : σ},
    publish r s = (.ok (), s') → ∀ e ∈ lineEnds, ingest publish none (line ++ e) s = (.ok 1, s')
  /-- Why it is refused, if it is, is why the ingestion fails. -/
  refused : ∀ {σ ε : Type} {publish : Report → σ → Except ε Unit × σ} {s s' : σ} {why : ε},
    publish r s = (.error why, s') →
      ∀ e ∈ lineEnds, ingest publish none (line ++ e) s = (.error why, s')
  /-- A bus whose dispatchers of the topic run takes it, and each queue of the topic has one more
  message then, with the report in it. -/
  published : ∀ {topic : String} {b : Bus}, Bus.Runs topic b.queues → ∀ e ∈ lineEnds,
    ingest (fun r => Bus.publish topic r.encode) none (line ++ e) b =
      (.ok 1, { b with
        queues := b.queues.map (·.give topic { id := b.published, body := r.encode })
        published := b.published + 1 })

theorem holds_of_ofInput (h : ofInput line = [r]) : Holds line r := by
  have halone : ∀ e ∈ lineEnds, ofInput (line ++ e) = [r] := fun e he => by
    rw [ofInput_lineEnd he, h]
  have hhanded : ∀ {σ ε : Type} (publish : Report → σ → Except ε Unit × σ) (s : σ),
      ∀ e ∈ lineEnds, ingest publish none (line ++ e) s = publishAll publish [r] s := by
    intro σ ε publish s e he
    exact congrArg (publishAll publish · s) (halone e he)
  have htaken : ∀ {σ ε : Type} {publish : Report → σ → Except ε Unit × σ} {s s' : σ},
      publish r s = (.ok (), s') →
        ∀ e ∈ lineEnds, ingest publish none (line ++ e) s = (.ok 1, s') := by
    intro σ ε publish s s' hpublish e he
    rw [hhanded publish s e he, publishAll_cons_ok hpublish]
    rfl
  refine ⟨halone, htaken, fun hpublish e he => ?_, fun hruns => htaken ?_⟩
  · rw [hhanded _ _ e he, publishAll_cons_error hpublish]
  · exact Bus.publish_of_runs hruns _

/-- The written form of a report holds it. -/
theorem holds_encode (r : Report) : Holds r.encode r :=
  holds_of_ofInput (Written.last r).filterMap_textLines

/-! ### Bare lines -/

/-- The report that a bare line holds: its URL is the trimmed line. -/
def bare (line : String) : Report :=
  ⟨String.ofList (Text.trim line.toList)⟩

/-- A line on which an accepted URL stands is neither empty nor a comment nor a written form. -/
theorem ofLine?_of_parse {toAscii : Url.DomainToAscii} (h : Url.parse toAscii url.toList = .ok u) :
    ofLine? url = some (bare url) := by
  obtain ⟨c, hletter, hhead⟩ := Url.exists_isLetter_of_parse h
  have hascii := Url.inAscii_of_isLetter hletter
  obtain ⟨hfront, -⟩ := Url.clean_trim hascii hhead
  have hne {d : Char} {cs : List Char} (hd : 0x20 < d.toNat) (hnot : ¬ Url.isLetter d) :
      Text.trim url.toList ≠ d :: cs := by
    intro htrim
    rw [htrim, Url.head?_clean_cons hd] at hfront
    exact hnot (Option.some.inj hfront ▸ hletter)
  rw [ofLine?]
  split
  · next htrim =>
    rw [htrim] at hfront
    cases hfront
  · next htrim => exact absurd htrim (hne (by decide) (by decide))
  · next htrim => exact absurd htrim (hne (by decide) (by decide))
  · rfl

theorem holds_bare {toAscii : Url.DomainToAscii} (hfeed : '\n' ∉ url.toList)
    (h : Url.parse toAscii url.toList = .ok u) : Holds (Utf8.encode url.toList) (bare url) := by
  have hline : (0x0A : UInt8) ∉ Utf8.encode url.toList := by
    rw [Utf8.mem_encode_ascii (by decide)]
    rintro ⟨c, hc, hfeed'⟩
    obtain rfl : c = '\n' := Char.toNat_inj.mp hfeed'
    exact hfeed hc
  apply holds_of_ofInput
  rw [ofInput_eq, List.splitOn_eq_singleton hline, onLines, Utf8.toString?_encode]
  simp only [ofLine?_of_parse h, onLines]
  rfl

/-- Trimming a URL of the web leaves its target as it is. -/
theorem parse_bare (hurl : Url.parse Idna.toAscii? url.toList = .ok u)
    (hkind : Url.Kind.ofScheme u.scheme = .special) (ht : Target.parse url = .ok t) :
    Target.parse (bare url).url = .ok t := by
  obtain ⟨u', host, hu', hhost, rfl⟩ := Target.cases_of_parse ht
  obtain rfl := Except.ok.inj (hu'.symm.trans hurl)
  obtain ⟨v, hv, hscheme, hhost', hport⟩ := Url.exists_of_parse_trim hurl hhost hkind
  have horigin : v.originText host = u'.originText host := by
    rw [Url.originText, Url.originText, Url.portText, Url.portText, hscheme, hport]
  rw [Target.parse, Target.ofUrl, bare, String.toList_ofList, hv]
  simp only [hhost', hhost, horigin]

/-- A bare line and the written form of a report are two ways to report one host. -/
structure OneMeaning (url : String) (t : Target) : Prop where
  /-- The bare line holds one report. -/
  bare : Holds (Utf8.encode url.toList) (bare url)
  /-- It has the target of the URL. -/
  bare_target : Target.parse (Report.bare url).url = .ok t
  /-- The written form holds one report. -/
  written : Holds (encode ⟨url⟩) ⟨url⟩
  /-- It has the target of the URL, too. -/
  written_target : Target.parse (Report.mk url).url = .ok t

/-- On a line of its own, a URL of the web means the same as the written form of its report. -/
theorem bare_line_meaning (hfeed : '\n' ∉ url.toList)
    (hurl : Url.parse Idna.toAscii? url.toList = .ok u)
    (hscheme : u.scheme = "http".toList ∨ u.scheme = "https".toList)
    (ht : Target.parse url = .ok t) : OneMeaning url t := by
  have hkind : Url.Kind.ofScheme u.scheme = .special := by
    obtain hscheme | hscheme := hscheme
    · rw [hscheme]
      decide
    · rw [hscheme]
      decide
  exact ⟨holds_bare hfeed hurl, parse_bare hurl hkind ht, holds_encode ⟨url⟩, ht⟩

/-- A URL with a control character and blanks around it, one beyond ASCII, and a tab inside it. -/
def blankUrl : String :=
  "\x00 \thttps://u@[::1]:8443/a\tb\u00a0 \r"

/-- The URL reads as one of the web, and its blank beyond ASCII belongs to the path. -/
theorem bare_line_meaning_blanks : '\n' ∉ blankUrl.toList ∧
    Url.parse Idna.toAscii? blankUrl.toList =
      .ok ⟨"https".toList, "u".toList, [], some (.ipv6 ⟨[0, 0, 0, 0, 0, 0, 0, 1], rfl⟩), some 8443,
        .segments ["ab%C2%A0".toList], none, none⟩ ∧
    Target.parse blankUrl = .ok ⟨"::1", "https://[::1]:8443"⟩ ∧
    (bare blankUrl).url = "\x00 \thttps://u@[::1]:8443/a\tb" ∧
    OneMeaning blankUrl ⟨"::1", "https://[::1]:8443"⟩ := by
  have hfeed : '\n' ∉ blankUrl.toList := by decide
  have hurl : Url.parse Idna.toAscii? blankUrl.toList =
      .ok ⟨"https".toList, "u".toList, [], some (.ipv6 ⟨[0, 0, 0, 0, 0, 0, 0, 1], rfl⟩), some 8443,
        .segments ["ab%C2%A0".toList], none, none⟩ := by decide +kernel
  have ht : Target.parse blankUrl = .ok ⟨"::1", "https://[::1]:8443"⟩ := by decide +kernel
  exact ⟨hfeed, hurl, ht, by decide +kernel, bare_line_meaning hfeed hurl (.inr rfl) ht⟩

/-- In a URL of another scheme, a blank beyond ASCII belongs to the host, and the bare line reports
another host. -/
theorem bare_line_plain :
    Target.parse "foo://host\u00a0" = .ok ⟨"host%C2%A0", "foo://host%C2%A0"⟩ ∧
    Target.parse (bare "foo://host\u00a0").url = .ok ⟨"host", "foo://host"⟩ := by
  constructor
  · decide +kernel
  · decide +kernel

end HostWatch.Report
