import HostWatch.Proofs.Url.Ipv6
import HostWatch.Proofs.Url.Percent
import HostWatch.Url.Parser

/-!
# Hosts

What the host of a URL can be, by the kind of its scheme (`Host.Given`), and how it depends on the
way it is written. Written again as its text stands in a URL, the host is the same
(`domainHost_text`, `plainHost_text`), as far as bringing its name into ASCII changes nothing.
Case in a written host makes no difference to the host of a special URL or of a file
(`domainHost_lower`), and only case to that of any other URL.
-/

namespace HostWatch.Url

variable {c : Char} {cs name rest : List Char} {host : Host} {kind : Kind}

/-- The hosts of the URLs whose scheme is of a kind. -/
inductive Host.Given (kind : Kind) : Host → Prop where
  /-- A domain name in its ASCII form. -/
  | ascii (raw name : List Char) : kind ≠ .plain → Idna.toAscii? raw = some name → name ≠ [] →
    Ipv4.endsInNumber name = false → Given kind (.domain name)
  /-- Any other name, written as it stands, but for control characters and those beyond ASCII. -/
  | verbatim (name : List Char) : kind = .plain → name ≠ [] →
    (∀ c ∈ name, isForbiddenInHost c = false ∧ inControlSet c = false) → Given kind (.domain name)
  /-- An address of 32 bits. -/
  | ipv4 (x : Ipv4) : kind ≠ .plain → Given kind (.ipv4 x)
  /-- An address of 128 bits. -/
  | ipv6 (x : Ipv6) : Given kind (.ipv6 x)

/-! ### Reading a host -/

theorem bracketed_cases (h : bracketed cs = .ok host) : ∃ x, host = .ipv6 x := by
  unfold bracketed at h
  split at h
  · next x _ _ => exact ⟨x, (Except.ok.inj h).symm⟩
  · nomatch h

theorem domainHost_of_head? {toAscii : DomainToAscii} (h : cs.head? ≠ some '[') :
    domainHost toAscii cs = match (decoded? cs).bind toAscii with
      | none => .error .invalidDomainName
      | some name => nameHost name := by
  unfold domainHost
  split
  · exact absurd rfl h
  · rfl

theorem nameHost_cases (h : nameHost name = .ok host) : name ≠ [] ∧ ((∃ x, host = .ipv4 x) ∨
    (host = .domain name ∧ Ipv4.endsInNumber name = false)) := by
  unfold nameHost at h
  split at h
  · nomatch h
  · next hne =>
    refine ⟨hne, ?_⟩
    split at h
    · split at h
      · next x _ => exact .inl ⟨x, (Except.ok.inj h).symm⟩
      · nomatch h
    · next hnumber => exact .inr ⟨(Except.ok.inj h).symm, Bool.eq_false_iff.mpr hnumber⟩

/-- The host of a special URL or of a file is one of its kind. -/
theorem given_of_domainHost (hkind : kind ≠ .plain) (h : domainHost Idna.toAscii? cs = .ok host) :
    host.Given kind := by
  by_cases hhead : cs.head? = some '['
  · obtain ⟨rest, rfl⟩ := List.head?_eq_some_iff.mp hhead
    obtain ⟨x, rfl⟩ := bracketed_cases h
    exact .ipv6 x
  · rw [domainHost_of_head? hhead] at h
    split at h
    · nomatch h
    · next name hname =>
      obtain ⟨raw, -, hname⟩ := Option.bind_eq_some_iff.mp hname
      obtain ⟨hne, ⟨x, rfl⟩ | ⟨rfl, hnumber⟩⟩ := nameHost_cases h
      · exact .ipv4 x hkind
      · exact .ascii raw name hkind hname hne hnumber

theorem isForbiddenInHost_of_encoded (h : c = '%' ∨ ∃ n < 16, c = Ascii.hexUpper n) :
    isForbiddenInHost c = false ∧ inControlSet c = false := by
  obtain rfl | ⟨n, hn, rfl⟩ := h
  · decide
  · exact (by decide : ∀ n : Fin 16, isForbiddenInHost (Ascii.hexUpper n) = false ∧
      inControlSet (Ascii.hexUpper n) = false) ⟨n, hn⟩

theorem plainHost_of_head? (hne : cs ≠ []) (h : cs.head? ≠ some '[') : plainHost cs =
    if cs.any isForbiddenInHost then .error .invalidDomainCharacter
    else .ok (some (.domain (percentEncode inControlSet cs))) := by
  unfold plainHost
  split
  · exact absurd rfl hne
  · exact absurd rfl h
  · rfl

/-- The host of any other URL is an address or the text as it stands, encoded. -/
theorem cases_of_plainHost (h : plainHost cs = .ok (some host)) :
    (∃ x, host = .ipv6 x) ∨ (cs ≠ [] ∧ cs.any isForbiddenInHost = false ∧
      host = .domain (percentEncode inControlSet cs)) := by
  by_cases hhead : cs.head? = some '['
  · obtain ⟨rest, rfl⟩ := List.head?_eq_some_iff.mp hhead
    cases hhost : bracketed rest with
    | error e =>
      rw [plainHost, hhost] at h
      nomatch h
    | ok host' =>
      rw [plainHost, hhost] at h
      obtain rfl := Option.some.inj (Except.ok.inj h)
      exact .inl (bracketed_cases hhost)
  · have hne : cs ≠ [] := by
      rintro rfl
      nomatch h
    rw [plainHost_of_head? hne hhead] at h
    split at h
    · nomatch h
    · next hforbidden =>
      exact .inr ⟨hne, Bool.eq_false_iff.mpr hforbidden, (Option.some.inj (Except.ok.inj h)).symm⟩

/-- The host of any other URL is one of its kind. -/
theorem given_of_plainHost (h : plainHost cs = .ok (some host)) : host.Given .plain := by
  obtain ⟨x, rfl⟩ | ⟨hne, hforbidden, rfl⟩ := cases_of_plainHost h
  · exact .ipv6 x
  · refine .verbatim _ rfl (percentEncode_ne_nil hne) fun c hc => ?_
    obtain ⟨hmem, hset⟩ | hencoded := mem_percentEncode hc
    · exact ⟨Bool.eq_false_iff.mpr (List.any_eq_false.mp hforbidden c hmem), hset⟩
    · exact isForbiddenInHost_of_encoded hencoded

/-! ### Writing a host again -/

theorem bracketed_text (x : Ipv6) : bracketed (x.text ++ [']']) = .ok (.ipv6 x) := by
  rw [bracketed, List.getLast?_concat, List.dropLast_concat, Ipv6.read?_text]
  rfl

theorem head?_ne_of_not_mem (h : '[' ∉ cs) : cs.head? ≠ some '[' := fun hhead =>
  h (List.mem_of_mem_head? hhead)

theorem domainHost_name (hbracket : '[' ∉ name) (hpercent : '%' ∉ name)
    (hascii : Idna.toAscii? name = some name) : domainHost Idna.toAscii? name = nameHost name := by
  rw [domainHost_of_head? (head?_ne_of_not_mem hbracket), decoded?_eq_self hpercent,
    Option.bind_some, hascii]

theorem nameHost_text (x : Ipv4) : nameHost x.text = .ok (.ipv4 x) := by
  rw [nameHost, if_neg (Ipv4.text_ne_nil x), if_pos (Ipv4.endsInNumber_text x), Ipv4.ofHost?_text]

/-- The text of a host of a special URL or of a file stands for the host. -/
theorem domainHost_text (hkind : kind ≠ .plain) (h : host.Given kind)
    (hascii : ∀ name, host = .domain name → Idna.toAscii? name = some name) :
    domainHost Idna.toAscii? host.text = .ok host := by
  cases h with
  | ascii raw name _ hraw hne hnumber =>
    have allowed {c : Char} (hc : c ∈ name) : Idna.isForbidden c = false :=
      Idna.not_isForbidden_of_toAscii? hraw hc
    rw [Host.text, domainHost_name (fun hc => absurd (allowed hc) (by decide))
      (fun hc => absurd (allowed hc) (by decide)) (hascii name rfl), nameHost, if_neg hne,
      if_neg (Bool.eq_false_iff.mp hnumber)]
  | verbatim name hplain => exact absurd hplain hkind
  | ipv4 x =>
    rw [Host.text, domainHost_name (fun hc => absurd (Ipv4.mem_text x hc) (by decide))
      (fun hc => absurd (Ipv4.mem_text x hc) (by decide)) (Ipv4.toAscii?_text x), nameHost_text]
  | ipv6 x => exact bracketed_text x

/-- The text of a host of any other URL stands for the host. -/
theorem plainHost_text (h : host.Given .plain) : plainHost host.text = .ok (some host) := by
  cases h with
  | ascii _ _ hkind => exact absurd rfl hkind
  | verbatim name _ hne hname =>
    have hforbidden : name.any isForbiddenInHost = false :=
      List.any_eq_false.mpr fun c hc => Bool.eq_false_iff.mp (hname c hc).1
    have hset : percentEncode inControlSet name = name :=
      percentEncode_eq_self fun c hc => (hname c hc).2
    have hbracket : '[' ∉ name := fun hc => absurd (hname '[' hc).1 (by decide)
    rw [Host.text, plainHost_of_head? hne (head?_ne_of_not_mem hbracket), hforbidden, hset]
    rfl
  | ipv4 _ hkind => exact absurd rfl hkind
  | ipv6 x =>
    rw [Host.text, plainHost, bracketed_text]
    rfl

/-! ### Case -/

theorem toLower_eq_open : c.toLower = '[' ↔ c = '[' := Ascii.toLower_eq_iff (by decide)

theorem toLower_eq_close : c.toLower = ']' ↔ c = ']' := Ascii.toLower_eq_iff (by decide)

theorem bracketed_eq (cs : List Char) : bracketed cs =
    if cs.getLast? = some ']' then
      ((Ipv6.read? cs.dropLast).elim (.error .invalidIpv6) fun x => .ok (.ipv6 x))
    else .error .invalidIpv6 := by
  unfold bracketed
  split
  · next hlast hread => rw [if_pos hlast, hread, Option.elim_some]
  · next hnone =>
    split
    · next hlast =>
      cases hread : Ipv6.read? cs.dropLast with
      | none => rfl
      | some x => exact absurd hread (hnone x hlast)
    · rfl

theorem bracketed_lower (cs : List Char) : bracketed (Ascii.lower cs) = bracketed cs := by
  have hlast : (Ascii.lower cs).getLast? = some ']' ↔ cs.getLast? = some ']' := by
    rw [Ascii.lower, List.getLast?_map]
    cases cs.getLast? with
    | none => simp
    | some c => simp [toLower_eq_close]
  have hread : Ipv6.read? (Ascii.lower cs).dropLast = Ipv6.read? cs.dropLast := by
    rw [Ascii.lower, ← List.map_dropLast, ← Ascii.lower, Ipv6.read?_lower]
  simp only [bracketed_eq, hlast, hread]

theorem bind_toAscii?_lower (name? : Option (List Char)) :
    name?.bind Idna.toAscii? = (name?.map Ascii.lower).bind Idna.toAscii? := by
  cases name? with
  | none => rfl
  | some name => rw [Option.map_some, Option.bind_some, Option.bind_some, Idna.toAscii?_lower]

/-- Case in a written host makes no difference to the host of a special URL or of a file. -/
theorem domainHost_lower (cs : List Char) :
    domainHost Idna.toAscii? (Ascii.lower cs) = domainHost Idna.toAscii? cs := by
  by_cases hhead : cs.head? = some '['
  · obtain ⟨rest, rfl⟩ := List.head?_eq_some_iff.mp hhead
    exact bracketed_lower rest
  · have hfold : (Ascii.lower cs).head? ≠ some '[' := by
      cases cs <;> simp_all [toLower_eq_open]
    rw [domainHost_of_head? hhead, domainHost_of_head? hfold, bind_toAscii?_lower,
      map_lower_decoded?, ← bind_toAscii?_lower]

theorem isForbiddenInHost_toLower (c : Char) : isForbiddenInHost c.toLower = isForbiddenInHost c :=
  Ascii.apply_toLower isForbiddenInHost (by decide) c

/-- Case in a written host makes no difference but case to the host of any other URL. -/
theorem plainHost_lower (h : plainHost cs = .ok (some host)) :
    ∃ folded, plainHost (Ascii.lower cs) = .ok (some folded) ∧
      Ascii.lower folded.plainText = Ascii.lower host.plainText := by
  by_cases hhead : cs.head? = some '['
  · obtain ⟨rest, rfl⟩ := List.head?_eq_some_iff.mp hhead
    refine ⟨host, ?_, rfl⟩
    rw [← h, Ascii.lower_cons, show '['.toLower = '[' from rfl, plainHost, plainHost,
      bracketed_lower]
  · have hne : cs ≠ [] := by
      rintro rfl
      simp [plainHost] at h
    have hfold : (Ascii.lower cs).head? ≠ some '[' := by
      cases cs <;> simp_all [toLower_eq_open]
    have hany : (Ascii.lower cs).any isForbiddenInHost = cs.any isForbiddenInHost := by
      rw [Ascii.lower, List.any_map]
      exact congrArg cs.any (funext isForbiddenInHost_toLower)
    rw [plainHost_of_head? hne hhead] at h
    rw [plainHost_of_head? (mt Ascii.lower_eq_nil.mp hne) hfold, hany]
    split at h
    · cases h
    · next hforbidden =>
      obtain rfl := Option.some.inj (Except.ok.inj h)
      exact ⟨_, if_neg hforbidden, lower_percentEncode cs⟩

end HostWatch.Url
