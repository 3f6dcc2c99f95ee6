import HostWatch.Proofs.Url.Origin
import HostWatch.Target

/-!
# The probe goes to the host that is counted

The origin of a target is a URL with the scheme, host and port of the URL that the target was read
from, so the target read from the origin is the target itself (`Target.parse_origin`): the host
that answers a probe is the one whose hostname is counted. What is asked of bringing names into
ASCII is that a second time changes nothing.
-/

namespace HostWatch

namespace Target

open Url

variable {url : String} {t : Target}

/-- The URL and the host that a target is read from. -/
theorem cases_of_parse (h : parse url = .ok t) : ∃ u host,
    Url.parse Idna.toAscii? url.toList = .ok u ∧ u.host = some host ∧
      t = ⟨String.ofList host.plainText, String.ofList (u.originText host)⟩ := by
  rw [parse, ofUrl] at h
  split at h
  · nomatch h
  · next u hu =>
    split at h
    · nomatch h
    · next host hhost => exact ⟨u, host, hu, hhost, (Except.ok.inj h).symm⟩

theorem given_of_reading {cs : List Char} {u : Url} {host : Host} (h : Reading cs u host) :
    host.Given (Kind.ofScheme u.scheme) := by
  obtain ⟨text, -, hread⟩ := h.written
  rw [Host.IsRead] at hread
  split at hread
  · next hkind =>
    rw [hkind]
    exact given_of_plainHost hread
  · next hkind => exact given_of_domainHost hkind hread

/-- The target of the origin of a target is the target itself. -/
theorem parse_origin (h : parse url = .ok t) (hsettled : Idna.Settled t.hostname.toList) :
    parse t.origin = .ok t := by
  obtain ⟨u, host, hu, hhost, rfl⟩ := cases_of_parse h
  have hreading := reading_of_parse hu hhost
  have hgiven := given_of_reading hreading
  rw [String.toList_ofList] at hsettled
  have hascii : Kind.ofScheme u.scheme ≠ .plain → ∀ name, host = .domain name →
      Idna.toAscii? name = some name := by
    rintro hkind name rfl
    cases hgiven with
    | ascii raw _ _ hraw => exact hsettled raw hraw
    | verbatim _ hplain => exact absurd hplain hkind
  obtain ⟨v, hv, hscheme, hhost', hport⟩ :=
    parse_originText hreading.scheme hreading.port hgiven hascii hreading.file
  have horigin : v.originText host = u.originText host := by
    rw [originText, originText, portText, portText, hscheme, hport]
  rw [parse, ofUrl, String.toList_ofList, hv]
  simp only [hhost', horigin]

/-! ### A URL with a user, a host in capital letters, a port and a path -/

theorem toAscii?_capitals :
    Idna.toAscii? "EXAMPLE.onion".toList = some "example.onion".toList := by
  have plain (c : Char) (hc : c ∈ "example.onion".toList) :
      c.toNat < 0x80 ∧ c.isUpper = false ∧ Idna.isForbidden c = false := by
    have hall : "example.onion".toList.all fun c =>
        decide (c.toNat < 0x80 ∧ c.isUpper = false ∧ Idna.isForbidden c = false) := by decide
    exact of_decide_eq_true (List.all_eq_true.mp hall c hc)
  rw [← Idna.toAscii?_lower]
  exact Idna.toAscii?_of_ascii (fun c hc => (plain c hc).1) (fun c hc => (plain c hc).2.1)
    (fun c hc => (plain c hc).2.2) (by decide)

theorem readHostPort_capitals : readHostPort Idna.toAscii? .special "http".toList true
    "EXAMPLE.onion:8080".toList = .ok (some (.domain "example.onion".toList), some 8080, []) := by
  have hsplit : splitHost false "EXAMPLE.onion:8080".toList =
      ("EXAMPLE.onion".toList, ":8080".toList) := by decide
  have hhost : domainHost Idna.toAscii? "EXAMPLE.onion".toList =
      .ok (.domain "example.onion".toList) := by
    rw [domainHost_of_head? (by decide), decoded?_eq_self (by decide), Option.bind_some,
      toAscii?_capitals]
    decide +kernel
  rw [readHostPort, hsplit]
  dsimp only
  rw [readHost, if_neg (by decide), if_neg (by decide), hhost]
  decide +kernel

theorem parseAfterSlashes_capitals : parseAfterSlashes Idna.toAscii? .special "http".toList
    "user@EXAMPLE.onion:8080/x".toList = .ok ⟨"http".toList, "user".toList, [],
      some (.domain "example.onion".toList), some 8080, .segments ["x".toList], none, none⟩ := by
  have huser : splitUserinfo ("user@EXAMPLE.onion:8080/x".toList.takeWhile
      fun c => !endsAuthority .special c) = (some "user".toList, "EXAMPLE.onion:8080".toList) := by
    decide
  have hgiven : (("user".toList.takeWhile (· ≠ ':') ≠ []) ||
      (("user".toList.dropWhile (· ≠ ':')).drop 1 ≠ []) : Bool) = true := by
    decide
  have hauthority : readAuthority Idna.toAscii? .special "http".toList
      "user@EXAMPLE.onion:8080/x".toList =
        .ok ⟨"user".toList, [], some (.domain "example.onion".toList), some 8080, "/x".toList⟩ := by
    rw [readAuthority, huser]
    dsimp only [Option.getD_some]
    rw [hgiven, readHostPort_capitals]
    rfl
  rw [parseAfterSlashes, hauthority]
  decide +kernel

theorem parse_capitals : parse "HTTP://user@EXAMPLE.onion:8080/x" =
    .ok ⟨"example.onion", "http://example.onion:8080"⟩ := by
  have hscheme : splitScheme? (clean "HTTP://user@EXAMPLE.onion:8080/x".toList) =
      some ("http".toList, "//user@EXAMPLE.onion:8080/x".toList) := by decide
  have hkind : Kind.ofScheme "http".toList = .special := by decide
  have hslashes : "//user@EXAMPLE.onion:8080/x".toList.dropWhile isSlash =
      "user@EXAMPLE.onion:8080/x".toList := by decide
  have hurl : Url.parse Idna.toAscii? "HTTP://user@EXAMPLE.onion:8080/x".toList = .ok ⟨"http".toList,
      "user".toList, [], some (.domain "example.onion".toList), some 8080, .segments ["x".toList],
      none, none⟩ := by
    rw [Url.parse, hscheme]
    dsimp only
    rw [hkind]
    dsimp only
    rw [hslashes, parseAfterSlashes_capitals]
  rw [parse, ofUrl, hurl]
  decide +kernel

/-- The target of a URL written in capital letters is that of its origin. -/
theorem parse_origin_capitals : parse "HTTP://user@EXAMPLE.onion:8080/x" =
      .ok ⟨"example.onion", "http://example.onion:8080"⟩ ∧
    Idna.Settled "example.onion".toList ∧
    parse "http://example.onion:8080" = .ok ⟨"example.onion", "http://example.onion:8080"⟩ := by
  have hsettled : Idna.Settled "example.onion".toList := Idna.settled_of_labels (by decide)
  exact ⟨parse_capitals, hsettled, parse_origin parse_capitals hsettled⟩

end Target

end HostWatch
