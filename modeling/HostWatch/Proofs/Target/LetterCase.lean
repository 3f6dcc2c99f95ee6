import HostWatch.Proofs.Target.Origin

/-!
# Hostnames and case

How a host is written, in capital or in small letters, makes no difference to the hostname under
which a report is counted, and a hostname holds no capital letter — in URLs whose hosts are domain
names, which are those of special schemes and of files. The host of any other URL is no domain name
and keeps its letters as they are written, so there two hosts that are written alike up to case
give hostnames that are alike up to case, and two counters (`Target.hostname_case`,
`Target.capitals_kept`).
-/

namespace HostWatch

namespace Target

open Url

variable {kind : Kind} {host : Host} {text : List Char}

theorem not_isUpper_of_given (hkind : kind ≠ .plain) (h : host.Given kind) {c : Char}
    (hc : c ∈ host.plainText) : c.isUpper = false := by
  cases h with
  | ascii raw name _ hraw => exact (Idna.mem_toAscii? hraw hc).2
  | verbatim _ hplain => exact absurd hplain hkind
  | ipv4 x => exact (Ipv4.allowed_of_digit (Ipv4.mem_text x hc)).2.1
  | ipv6 x =>
    obtain hc | rfl | rfl := Ipv6.mem_plainText hc
    · rw [Ipv6.isSmallHex, Bool.and_eq_true, Bool.not_eq_true'] at hc
      exact hc.2
    · rfl
    · rfl

/-- Written alike up to case, two domain names or addresses are one host. -/
theorem eq_of_lower {kind' : Kind} {host' : Host} {text' : List Char}
    (hkind : kind ≠ .plain) (hkind' : kind' ≠ .plain) (h : host.IsRead kind text)
    (h' : host'.IsRead kind' text') (htext : Ascii.lower text' = Ascii.lower text) :
    host' = host := by
  rw [Host.IsRead, if_neg hkind, ← domainHost_lower] at h
  rw [Host.IsRead, if_neg hkind', ← domainHost_lower, htext, h] at h'
  exact (Except.ok.inj h').symm

/-- Written alike up to case, two other hosts are alike up to case. -/
theorem lower_eq_of_lower {host' : Host} {text' : List Char} (h : host.IsRead .plain text)
    (h' : host'.IsRead .plain text') (htext : Ascii.lower text' = Ascii.lower text) :
    Ascii.lower host'.plainText = Ascii.lower host.plainText := by
  obtain ⟨folded, hfolded, hlower⟩ := plainHost_lower h
  obtain ⟨folded', hfolded', hlower'⟩ := plainHost_lower h'
  rw [htext, hfolded] at hfolded'
  obtain rfl := Option.some.inj (Except.ok.inj hfolded')
  rw [← hlower', hlower]

/-- What the case of a written host is to the hostname of an accepted URL. -/
structure CaseFolded (kind : Kind) (text : List Char) (t : Target) : Prop where
  /-- Of a domain name or an address, no capital letter is left. -/
  small : kind ≠ .plain → ∀ c ∈ t.hostname.toList, c.isUpper = false
  /-- Written alike up to case, two domain names or addresses give one hostname. -/
  one : kind ≠ .plain → ∀ {url' t' kind' text'}, parse url' = .ok t' →
    writtenHost? url'.toList = some (kind', text') → kind' ≠ .plain →
    Ascii.lower text' = Ascii.lower text → t'.hostname = t.hostname
  /-- Any other host is kept as it is written, in brackets or with characters that are not plain
  ASCII encoded. -/
  kept : kind = .plain → (∃ x : Ipv6, t.hostname = String.ofList x.plainText) ∨
    t.hostname = String.ofList (percentEncode inControlSet text)
  /-- Written alike up to case, two other hosts give hostnames that are alike up to case. -/
  alike : kind = .plain → ∀ {url' t' text'}, parse url' = .ok t' →
    writtenHost? url'.toList = some (.plain, text') →
    Ascii.lower text' = Ascii.lower text → Ascii.EqFold t'.hostname t.hostname

theorem isRead_of_parse {url : String} {t : Target} (h : parse url = .ok t) :
    ∃ kind text, ∃ host : Host, writtenHost? url.toList = some (kind, text) ∧
      host.IsRead kind text ∧ host.Given kind ∧ t.hostname = String.ofList host.plainText := by
  obtain ⟨u, host, hu, hhost, rfl⟩ := cases_of_parse h
  have hreading := reading_of_parse hu hhost
  obtain ⟨text, hwritten, hread⟩ := hreading.written
  exact ⟨_, text, host, hwritten, hread, given_of_reading hreading, rfl⟩

/-- Case in a written host makes no difference to the hostname where hosts are domain names, and
only case elsewhere. -/
theorem hostname_case {url : String} {t : Target} (h : parse url = .ok t) :
    ∃ kind text, writtenHost? url.toList = some (kind, text) ∧ CaseFolded kind text t := by
  obtain ⟨kind, text, host, hwritten, hread, hgiven, hname⟩ := isRead_of_parse h
  refine ⟨kind, text, hwritten, ?_, ?_, ?_, ?_⟩
  · intro hkind c hc
    rw [hname, String.toList_ofList] at hc
    exact not_isUpper_of_given hkind hgiven hc
  · intro hkind url' t' kind' text' h' hwritten' hkind' htext
    obtain ⟨_, _, host', hwritten'', hread', -, hname'⟩ := isRead_of_parse h'
    obtain ⟨rfl, rfl⟩ := Prod.mk.inj (Option.some.inj (hwritten'.symm.trans hwritten''))
    rw [hname, hname', eq_of_lower hkind hkind' hread hread' htext]
  · rintro rfl
    obtain ⟨x, rfl⟩ | ⟨-, -, rfl⟩ := cases_of_plainHost hread
    · exact .inl ⟨x, hname⟩
    · exact .inr hname
  · rintro rfl url' t' text' h' hwritten' htext
    obtain ⟨_, _, host', hwritten'', hread', -, hname'⟩ := isRead_of_parse h'
    obtain ⟨rfl, rfl⟩ := Prod.mk.inj (Option.some.inj (hwritten'.symm.trans hwritten''))
    rw [Ascii.EqFold, hname, hname', String.toList_ofList, String.toList_ofList,
      lower_eq_of_lower hread hread' htext]

/-- In a URL of a special scheme, a host written in capital letters gives the hostname of the host
in small letters. -/
theorem hostname_case_capitals :
    parse "HTTP://user@EXAMPLE.onion:8080/x" =
      .ok ⟨"example.onion", "http://example.onion:8080"⟩ ∧
    ∃ kind text, writtenHost? "HTTP://user@EXAMPLE.onion:8080/x".toList = some (kind, text) ∧
      CaseFolded kind text ⟨"example.onion", "http://example.onion:8080"⟩ :=
  ⟨parse_capitals, hostname_case parse_capitals⟩

/-- In a URL of any other scheme, capital letters are kept: two hosts written alike up to case give
two hostnames. -/
theorem capitals_kept :
    parse "foo://EXAMPLE.onion/" = .ok ⟨"EXAMPLE.onion", "foo://EXAMPLE.onion"⟩ ∧
    parse "foo://example.onion/" = .ok ⟨"example.onion", "foo://example.onion"⟩ ∧
    ¬ ∀ url t, parse url = .ok t → ∀ c ∈ t.hostname.toList, c.isUpper = false := by
  have hcapital : parse "foo://EXAMPLE.onion/" = .ok ⟨"EXAMPLE.onion", "foo://EXAMPLE.onion"⟩ := by
    decide +kernel
  refine ⟨hcapital, by decide +kernel, fun h => ?_⟩
  exact absurd (h _ _ hcapital 'E' (by decide)) (by decide)

end Target

end HostWatch
