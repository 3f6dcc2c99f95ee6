import HostWatch.Proofs.Config.KeyUrl
import HostWatch.Proofs.Settings.Range
import HostWatch.Proofs.Url.Written
import HostWatch.Startup

/-!
# Accepted settings and the client of the service

Settings are accepted if the URL of the service is any URL, and some URLs are texts without segments,
to which no path can be added (`cannotBeABase_of_parse` says which ones). So the client of the
service is connected at every accepted URL that has a path, and the URL of every key can then be
made; at any other accepted URL it fails, and the start with it. All this is about the URL: what else
may keep a client from being set up is not in the model (`ConfigClient.connect`).
-/

namespace HostWatch

/-! ### URLs with a path -/

namespace Url

variable {toAscii : DomainToAscii} {cs : List Char} {u : Url}

/-- A URL has a path of segments: its scheme is one that always has a host or that of files, or a slash
follows the colon. -/
def hasPath (cs : List Char) : Bool :=
  match splitScheme? (clean cs) with
  | some (scheme, rest) => Kind.ofScheme scheme ≠ .plain || rest.head? = some '/'
  | none => false

/-- Nothing can be put behind an accepted URL exactly if it has no path of segments. -/
theorem cannotBeABase_of_parse (h : parse toAscii cs = .ok u) : u.cannotBeABase = !hasPath cs := by
  unfold parse at h
  unfold hasPath
  split at h
  · cases h
  · next scheme rest hscheme =>
    rw [hscheme]
    dsimp only
    split at h
    · next hkind =>
      obtain ⟨p, -, h⟩ := exists_of_bind h
      obtain rfl := Except.ok.inj h
      rw [hkind]
      rfl
    · next hkind =>
      obtain ⟨a, -, h⟩ := exists_of_bind h
      obtain rfl := Except.ok.inj h
      rw [hkind]
      rfl
    · next hkind =>
      rw [hkind]
      unfold parsePlain at h
      split at h
      · next rest =>
        obtain ⟨a, -, h⟩ := exists_of_bind h
        obtain rfl := Except.ok.inj h
        rfl
      · obtain rfl := Except.ok.inj h
        cases rest with
        | nil => rfl
        | cons c rest =>
          by_cases hc : c = '/'
          · subst hc
            rfl
          · have hhead (tail : List Char) :
                (c :: rest).takeWhile (fun c => !endsPath c) ≠ '/' :: tail := by
              intro heq
              rw [List.takeWhile_cons] at heq
              split at heq
              · exact hc (List.cons.inj heq).1
              · cases heq
            -- by that the text of the path is none of segments
            simp only [cannotBeABase]
            simp [hc]

end Url

/-! ### Accepted settings -/

variable {s : Settings}

/-- The URL of the service in accepted settings is one. -/
theorem Settings.url_of_accepted (h : problems s = []) :
    ∃ u, Url.parse Idna.toAscii? s.configApi.url.toList = .ok u := by
  simp only [problems, List.append_eq_nil_iff, expect_eq_nil] at h
  obtain ⟨⟨⟨⟨⟨⟨⟨⟨⟨⟨⟨-, hurl⟩, -⟩, -⟩, -⟩, -⟩, -⟩, -⟩, -⟩, -⟩, -⟩, -⟩ := h
  unfold isUrl at hurl
  split at hurl
  · next u hu => exact ⟨u, hu⟩
  · cases hurl

/-- A client is connected at an accepted URL with a path, and not at any other one. -/
theorem ConfigClient.connect_of_parse {url : String} {u : Url}
    (h : Url.parse Idna.toAscii? url.toList = .ok u) :
    connect url = if Url.hasPath url.toList then .ok ⟨u⟩
      else .error (.invalidUrl (String.ofList u.text)) := by
  rw [connect, h]
  simp only [Url.cannotBeABase_of_parse h]
  cases Url.hasPath url.toList <;> rfl

/-- The start fails on the client of the service if and only if this cannot be connected. -/
theorem Capabilities.build_eq_config {files : String → SnapshotFile} {now : Nat} {e : ConfigError} :
    build files now s = .error (.config e) ↔ ConfigClient.connect s.configApi.url = .error e := by
  unfold build
  split
  · next hconnect =>
    rw [hconnect]
    constructor <;> intro h <;> cases h <;> rfl
  · next hconnect =>
    rw [hconnect]
    constructor
    · intro h
      split at h
      · cases h
      · split at h <;> cases h
    · intro h
      cases h

/-- At the URL of accepted settings a client is connected if the URL has a path, every key then has a
URL, and the start does not fail on the client. If it has none, the client refuses it by name, and so
does the start. -/
theorem accepted_url (h : s.problems = []) :
    (Url.hasPath s.configApi.url.toList = true →
      (∃ c, ConfigClient.connect s.configApi.url = .ok c ∧ ∀ key, ∃ u, c.keyUrl key = .ok u) ∧
        ∀ files now e, Capabilities.build files now s ≠ .error (.config e)) ∧
      (Url.hasPath s.configApi.url.toList = false →
        ∃ u, Url.parse Idna.toAscii? s.configApi.url.toList = .ok u ∧
          ConfigClient.connect s.configApi.url = .error (.invalidUrl (String.ofList u.text)) ∧
          ∀ files now, Capabilities.build files now s =
            .error (.config (.invalidUrl (String.ofList u.text)))) := by
  obtain ⟨u, hu⟩ := Settings.url_of_accepted h
  have hconnect := ConfigClient.connect_of_parse hu
  refine ⟨fun hpath => ?_, fun hpath => ?_⟩
  · rw [if_pos hpath] at hconnect
    obtain ⟨path, hsegments⟩ := ConfigClient.segments_of_connect hconnect
    refine ⟨⟨⟨u⟩, hconnect, fun key => ⟨_, ConfigClient.keyUrl_of_segments hsegments key⟩⟩, ?_⟩
    intro files now e hbuild
    rw [Capabilities.build_eq_config, hconnect] at hbuild
    cases hbuild
  · rw [if_neg (by simp [hpath])] at hconnect
    exact ⟨u, hu, hconnect, fun files now => Capabilities.build_eq_config.mpr hconnect⟩

/-- The client of the service on the same machine is connected. -/
theorem accepted_url_loopback :
    Settings.problems { configApi := { url := "http://[::1]:8085" } } = [] ∧
      ∃ c, ConfigClient.connect "http://[::1]:8085" = .ok c ∧
        ∃ u v, c.keyUrl forbiddenKey = .ok u ∧ c.keyUrl thresholdKey = .ok v := by
  have haccepted : Settings.problems { configApi := { url := "http://[::1]:8085" } } = [] := by
    decide +kernel
  obtain ⟨⟨c, hconnect, hkey⟩, -⟩ := (accepted_url haccepted).1 (by decide)
  obtain ⟨u, hu⟩ := hkey forbiddenKey
  obtain ⟨v, hv⟩ := hkey thresholdKey
  exact ⟨haccepted, c, hconnect, u, v, hu, hv⟩

/-- An address to which mail is sent is accepted as the URL of the service, and no process starts
with it. -/
theorem mail_refused :
    Settings.problems { configApi := { url := "mailto:ops@example.com" } } = [] ∧
      ConfigClient.connect "mailto:ops@example.com" =
        .error (.invalidUrl "mailto:ops@example.com") ∧
      ∀ files now, Capabilities.build files now
        { configApi := { url := "mailto:ops@example.com" } } =
          .error (.config (.invalidUrl "mailto:ops@example.com")) := by
  have hconnect : ConfigClient.connect "mailto:ops@example.com" =
      .error (.invalidUrl "mailto:ops@example.com") := by decide +kernel
  exact ⟨by decide +kernel, hconnect, fun files now => Capabilities.build_eq_config.mpr hconnect⟩

end HostWatch
