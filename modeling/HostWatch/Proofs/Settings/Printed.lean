import HostWatch.CommandLine.Watch
import HostWatch.Proofs.Settings.Range
import HostWatch.Proofs.Text.Utf8
import HostWatch.Proofs.Toml.Sections

/-!
# Printed settings read back

What is printed of settings is a document of sections: `sections` says which values stand in it, under
which keys. Absent settings have no value there, and every value is written as it reads back. So the
printed document reads as the settings, and it is accepted if the settings are (`parse_printed`).
-/

namespace HostWatch.Settings

open Toml

/-! ### Settings as values -/

/-- The value of a text that may be absent. -/
def optionalEntry (key : String) : Option String → List (String × Value)
  | none => []
  | some s => [(key, .string s)]

/-- The values of the section of the service and its client. -/
def ConfigApi.entries (s : ConfigApi) : List (String × Value) :=
  [("bind_address", .string s.bindAddress), ("url", .string s.url),
    ("request_timeout_secs", .integer s.requestTimeoutSecs.toNat)] ++
    optionalEntry "persistence_path" s.persistencePath

/-- The values of the section of the counters. -/
def Cache.entries (s : Cache) : List (String × Value) :=
  ("name", .string s.name) :: optionalEntry "persistence_path" s.persistencePath

/-- The values of the section of the probes. -/
def Prober.entries (s : Prober) : List (String × Value) :=
  [("timeout_secs", .integer s.timeoutSecs.toNat), ("user_agent", .string s.userAgent)] ++
    optionalEntry "proxy_url" s.proxyUrl

/-- The values of the section of the events. -/
def Events.entries (s : Events) : List (String × Value) :=
  [("topic", .string s.topic), ("queue", .string s.queue),
    ("concurrency", .integer s.concurrency.toNat),
    ("max_redeliveries", .integer s.maxRedeliveries.toNat),
    ("base_delay_ms", .integer s.baseDelayMs.toNat), ("max_delay_ms", .integer s.maxDelayMs.toNat)]

/-- The values of the section of the decisions. -/
def Engine.entries (s : Engine) : List (String × Value) :=
  [("promotion_guard", .string s.promotionGuard.name)]

/-- The values of the section of the defaults. -/
def Defaults.entries (s : Defaults) : List (String × Value) :=
  [("blacklist_threshold", .integer s.blacklistThreshold.toInt)]

/-- The values of the section of the logs and metrics. -/
def Observability.entries (s : Observability) : List (String × Value) :=
  [("log_level", .string s.logLevel), ("log_format", .string s.logFormat.name),
    ("metrics_enabled", .boolean s.metricsEnabled), ("metrics_address", .string s.metricsAddress)]

/-- The sections of all settings. -/
def sections (s : Settings) : Sections :=
  [("config_api", s.configApi.entries), ("cache", s.cache.entries), ("prober", s.prober.entries),
    ("events", s.events.entries), ("engine", s.engine.entries), ("defaults", s.defaults.entries),
    ("observability", s.observability.entries)]

theorem nodup_keys {s : Settings} {sec : String × List (String × Value)} (h : sec ∈ s.sections) :
    (sec.2.map (·.1)).Nodup := by
  simp only [sections, List.mem_cons, List.not_mem_nil, or_false] at h
  rcases h with rfl | rfl | rfl | rfl | rfl | rfl | rfl
  · cases hpath : s.configApi.persistencePath <;> simp [ConfigApi.entries, optionalEntry, hpath]
  · cases hpath : s.cache.persistencePath <;> simp [Cache.entries, optionalEntry, hpath]
  · cases hproxy : s.prober.proxyUrl <;> simp [Prober.entries, optionalEntry, hproxy]
  · simp [Events.entries]
  · simp [Engine.entries]
  · simp [Defaults.entries]
  · simp [Observability.entries]

theorem distinct_sections (s : Settings) : s.sections.Distinct where
  names := by simp [sections]
  keys _ := nodup_keys

/-! ### Values read back -/

theorem word64_toNat (n : UInt64) : word64 (.integer n.toNat) = some n := by
  have hlt := n.toNat_lt_size
  have hle : (n.toNat : Int) ≤ Int.ofNat (UInt64.size - 1) := Int.ofNat_le.mpr (by omega)
  rw [word64, whole, if_pos ⟨Int.natCast_nonneg _, hle⟩]
  simp

theorem word32_toNat (n : UInt32) : word32 (.integer n.toNat) = some n := by
  have hlt := n.toNat_lt_size
  have hle : (n.toNat : Int) ≤ Int.ofNat (UInt32.size - 1) := Int.ofNat_le.mpr (by omega)
  rw [word32, whole, if_pos ⟨Int.natCast_nonneg _, hle⟩]
  simp

theorem signed64_toInt (n : Int64) : signed64 (.integer n.toInt) = some n := by
  rw [signed64, whole, if_pos ⟨n.minValue_le_toInt, n.toInt_le⟩]
  simp

theorem Guard.read_name (g : Guard) : Guard.read (.string g.name) = some g := by
  cases g <;> decide

theorem LogFormat.read_name (f : LogFormat) : LogFormat.read (.string f.name) = some f := by
  cases f <;> decide

theorem ConfigApi.read_entries (s : ConfigApi) : ConfigApi.read (.table s.entries) = some s := by
  obtain ⟨bindAddress, url, requestTimeoutSecs, persistencePath⟩ := s
  cases persistencePath <;>
    simp [ConfigApi.read, ConfigApi.entries, optionalEntry, ofFields, List.lookup_cons, text,
      optionalText, word64_toNat]

theorem Cache.read_entries (s : Cache) : Cache.read (.table s.entries) = some s := by
  obtain ⟨name, persistencePath⟩ := s
  cases persistencePath <;>
    simp [Cache.read, Cache.entries, optionalEntry, ofFields, List.lookup_cons, text, optionalText]

theorem Prober.read_entries (s : Prober) : Prober.read (.table s.entries) = some s := by
  obtain ⟨timeoutSecs, userAgent, proxyUrl⟩ := s
  cases proxyUrl <;>
    simp [Prober.read, Prober.entries, optionalEntry, ofFields, List.lookup_cons, text,
      optionalText, word64_toNat]

theorem Events.read_entries (s : Events) : Events.read (.table s.entries) = some s := by
  simp [Events.read, Events.entries, ofFields, List.lookup_cons, text, word64_toNat, word32_toNat]

theorem Engine.read_entries (s : Engine) : Engine.read (.table s.entries) = some s := by
  simp [Engine.read, Engine.entries, ofFields, List.lookup_cons, Guard.read_name]

theorem Defaults.read_entries (s : Defaults) : Defaults.read (.table s.entries) = some s := by
  simp [Defaults.read, Defaults.entries, ofFields, List.lookup_cons, signed64_toInt]

theorem Observability.read_entries (s : Observability) :
    Observability.read (.table s.entries) = some s := by
  simp [Observability.read, Observability.entries, ofFields, List.lookup_cons, text, truth,
    LogFormat.read_name]

/-- Whatever the settings are, their values read as them. -/
theorem everything_sections (s : Settings) :
    everything (.table (s.sections.map fun sec => (sec.1, .table sec.2))) = some s := by
  simp [everything, sections, ofFields, List.lookup_cons, ConfigApi.read_entries, Cache.read_entries,
    Prober.read_entries, Events.read_entries, Engine.read_entries, Defaults.read_entries,
    Observability.read_entries]

/-! ### Values written down -/

/-- The text of a value, if it is not an array, a table, a date or a floating-point number. -/
def written : Value → List Char
  | .string s => Quoted.write s.toList
  | .integer z => Decimal.ofInt z
  | .boolean b => if b then "true".toList else "false".toList
  | _ => []

/-- The line of a value under its key. -/
def entryLine (e : String × Value) : List Char :=
  line e.1 (written e.2)

/-- The lines of a section with an empty line behind them. -/
def sectionText (sec : String × List (String × Value)) : List Char :=
  header sec.1 ++ sec.2.flatMap entryLine ++ ['\n']

theorem flatMap_optionalEntry (key : String) (s : Option String) :
    (optionalEntry key s).flatMap entryLine = optionalLine key s := by
  cases s with
  | none => rfl
  | some s => simp [optionalEntry, entryLine, optionalLine, textLine, written]

/-- Settings are printed section by section. -/
theorem print_append (s : Settings) : s.print ++ ['\n'] = s.sections.flatMap sectionText := by
  delta print
  simp only [sections, sectionText, ConfigApi.entries, Cache.entries, Prober.entries,
    Events.entries, Engine.entries, Defaults.entries, Observability.entries, List.flatMap_cons,
    List.flatMap_nil, List.flatMap_append, flatMap_optionalEntry]
  simp only [entryLine, written, textLine, wholeLine, truthLine, List.append_assoc, List.cons_append,
    List.nil_append, List.append_nil]

/-! ### Documents read back -/

/-- The line of a value reads back: its key needs no quotes, and the value is read from its text. -/
structure Readable (e : String × Value) : Prop where
  /-- The key. -/
  bare : Bare e.1
  /-- The value. -/
  writes : Writes (written e.2) e.2

namespace Readable

variable {key : String}

theorem string (h : Bare key) (s : String) : Readable (key, .string s) :=
  ⟨h, .string s⟩

theorem boolean (h : Bare key) (b : Bool) : Readable (key, .boolean b) :=
  ⟨h, .boolean b⟩

theorem word64 (h : Bare key) {n : UInt64} (hn : Signed n) : Readable (key, .integer n.toNat) :=
  ⟨h, .integer (Int.le_trans (by decide) (Int.natCast_nonneg n.toNat)) hn⟩

theorem word32 (h : Bare key) (n : UInt32) : Readable (key, .integer n.toNat) := by
  have hlt := n.toNat_lt
  have hmax : Int64.maxValue.toInt = 2 ^ 63 - 1 := by decide
  exact ⟨h, .integer (Int.le_trans (by decide) (Int.natCast_nonneg n.toNat)) (by omega)⟩

theorem signed64 (h : Bare key) (n : Int64) : Readable (key, .integer n.toInt) :=
  ⟨h, .integer n.minValue_le_toInt n.toInt_le⟩

theorem optional (h : Bare key) (s : Option String) : ∀ e ∈ optionalEntry key s, Readable e := by
  cases s with
  | none => simp [optionalEntry]
  | some s =>
    intro e he
    rw [List.mem_singleton.mp he]
    exact string h s

end Readable

/-- Every value of settings whose words fit reads back from its line. -/
theorem readable_of_mem {s : Settings} (h : WordsFit s) {sec : String × List (String × Value)}
    (hsec : sec ∈ s.sections) : ∀ e ∈ sec.2, Readable e := by
  simp only [sections, List.mem_cons, List.not_mem_nil, or_false] at hsec
  rcases hsec with rfl | rfl | rfl | rfl | rfl | rfl | rfl
  · simp only [ConfigApi.entries, List.forall_mem_append, List.forall_mem_cons]
    exact ⟨⟨.string (by decide) _, .string (by decide) _, .word64 (by decide) h.requestTimeoutSecs,
      List.forall_mem_nil _⟩, .optional (by decide) _⟩
  · simp only [Cache.entries, List.forall_mem_cons]
    exact ⟨.string (by decide) _, .optional (by decide) _⟩
  · simp only [Prober.entries, List.forall_mem_append, List.forall_mem_cons]
    exact ⟨⟨.word64 (by decide) h.timeoutSecs, .string (by decide) _, List.forall_mem_nil _⟩,
      .optional (by decide) _⟩
  · simp only [Events.entries, List.forall_mem_cons]
    exact ⟨.string (by decide) _, .string (by decide) _, .word64 (by decide) h.concurrency,
      .word32 (by decide) _, .word64 (by decide) h.baseDelayMs, .word64 (by decide) h.maxDelayMs,
      List.forall_mem_nil _⟩
  · simp only [Engine.entries, List.forall_mem_cons]
    exact ⟨.string (by decide) _, List.forall_mem_nil _⟩
  · simp only [Defaults.entries, List.forall_mem_cons]
    exact ⟨.signed64 (by decide) _, List.forall_mem_nil _⟩
  · simp only [Observability.entries, List.forall_mem_cons]
    exact ⟨.string (by decide) _, .string (by decide) _, .boolean (by decide) _,
      .string (by decide) _, List.forall_mem_nil _⟩

theorem bare_of_mem {s : Settings} {sec : String × List (String × Value)} (hsec : sec ∈ s.sections) :
    Bare sec.1 := by
  have hnames : ∀ name ∈ s.sections.map (·.1), Bare name := by
    simp only [sections, List.map_cons, List.map_nil]
    decide
  exact hnames sec.1 (List.mem_map_of_mem hsec)

theorem says_entries {es : List (String × Value)} (h : ∀ e ∈ es, Readable e) :
    Says (es.flatMap entryLine) (es.map fun e => .entry [e.1] e.2) := by
  induction es with
  | nil => exact .nil
  | cons e es ih =>
    obtain ⟨he, hes⟩ := List.forall_mem_cons.mp h
    exact (Says.entry he.bare he.writes).append (ih hes)

theorem says_section {sec : String × List (String × Value)} (hname : Bare sec.1)
    (hes : ∀ e ∈ sec.2, Readable e) :
    Says (sectionText sec) (.table [sec.1] :: sec.2.map fun e => .entry [e.1] e.2) := by
  have hsays := ((Says.header hname).append (says_entries hes)).append .blank
  simpa [sectionText, header] using hsays

theorem says_sections {secs : Sections} (hnames : ∀ sec ∈ secs, Bare sec.1)
    (hes : ∀ sec ∈ secs, ∀ e ∈ sec.2, Readable e) :
    Says (secs.flatMap sectionText) secs.statements := by
  induction secs with
  | nil => exact .nil
  | cons sec secs ih =>
    obtain ⟨hname, hnames⟩ := List.forall_mem_cons.mp hnames
    obtain ⟨hsec, hes⟩ := List.forall_mem_cons.mp hes
    exact (says_section hname hsec).append (ih hnames hes)

/-- What is printed of settings whose words fit reads as the settings. -/
theorem read?_printed {s : Settings} (h : WordsFit s) :
    read? (WatchCommand.printed s).output = some s := by
  have htext : (WatchCommand.printed s).output.toList = s.sections.flatMap sectionText := by
    rw [← print_append, WatchCommand.printed, String.toList_append, String.toList_ofList]
    rfl
  have hsays := says_sections (fun _ => bare_of_mem (s := s)) fun _ => readable_of_mem h
  have hread := Sections.read_of_says hsays s.distinct_sections (by simp [sections, sectionText, header])
  rw [read?, htext, hread]
  exact everything_sections s

/-- If the settings of a document are accepted, what is printed of them is accepted and gives the same
settings. -/
theorem parse_printed {document : String} {s : Settings} (h : parse document = .ok s) :
    parse (WatchCommand.printed s).output = .ok s :=
  parse_eq_ok.mpr ⟨read?_printed (wordsFit_of_parse h), (parse_eq_ok.mp h).2⟩

theorem load_encode (document : String) : load (some (Utf8.encode document.toList)) = parse document := by
  rw [load, Option.bind_some, Utf8.toString?_encode]

end HostWatch.Settings

namespace HostWatch.WatchCommand

variable {args : List String} {path : String} {s : Settings}

/-- Settings that are accepted are printed. -/
theorem execute_checkConfig (hargs : Invocation.parse args = .ok ⟨some path, .checkConfig⟩)
    {e : Surroundings} (hload : Settings.load (e.files path).content = .ok s) (input : Bytes) (ms : Nat) :
    execute e input ms args = printed s := by
  simp only [execute, hargs, Invocation.settings, hload]

/-- Whatever document is accepted, its settings are printed; what is printed is accepted in turn and
gives the same settings; and checking a file with it prints the same once more. -/
theorem checkConfig_settles {document : String} (h : Settings.parse document = .ok s)
    (hargs : Invocation.parse args = .ok ⟨some path, .checkConfig⟩) {e e' : Surroundings}
    {input input' : Bytes} {ms ms' : Nat}
    (hfile : (e.files path).content = some (Utf8.encode document.toList))
    (hfile' : (e'.files path).content =
      some (Utf8.encode (execute e input ms args).output.toList)) :
    execute e input ms args = printed s ∧
      Settings.parse (execute e input ms args).output = .ok s ∧
      execute e' input' ms' args = execute e input ms args := by
  have hparse := Settings.parse_printed h
  have hexecute : execute e input ms args = printed s := by
    apply execute_checkConfig hargs
    rw [hfile, Settings.load_encode, h]
  rw [hexecute] at hfile' ⊢
  refine ⟨rfl, hparse, ?_⟩
  apply execute_checkConfig hargs
  rw [hfile', Settings.load_encode, hparse]

/-- What is outside of a process that finds the same content in every file. -/
def alone (content : Bytes) : Surroundings where
  files _ := { content := some content }
  canListen _ := false
  network := .isolated
  now := 0

/-- A document with a key that names no setting, and with a text in which all marks, a line end and a
control character stand. -/
def marksDocument : String :=
  "[prober]\nuser_agent = \"\"\"\\u0000'''\\\"\\\"\\\"\n\\\\\"\"\"\n" ++
    "[config_api]\nurl = 'http://[::1]:8085'\nretries = 1\n"

/-- Its settings are printed, and printed again as they were. -/
theorem checkConfig_settles_marks :
    ∃ s e', s.prober.userAgent = "\x00'''\"\"\"\n\\" ∧
      execute (alone (Utf8.encode marksDocument.toList)) [] 0 ["--config", "x", "check-config"] =
        printed s ∧
      Settings.parse (printed s).output = .ok s ∧
      execute e' [] 0 ["--config", "x", "check-config"] = printed s := by
  have hparse : Settings.parse marksDocument = .ok
      { configApi := { url := "http://[::1]:8085" },
        prober := { userAgent := "\x00'''\"\"\"\n\\" } } :=
    Settings.parse_eq_ok.mpr (by decide +kernel)
  have hargs : Invocation.parse ["--config", "x", "check-config"] = .ok ⟨some "x", .checkConfig⟩ := by
    rfl
  obtain ⟨hprinted, haccepted, hagain⟩ := @checkConfig_settles _ _ _ _ hparse hargs
    (alone (Utf8.encode marksDocument.toList)) (alone _) [] [] 0 0 rfl rfl
  rw [hprinted] at haccepted hagain
  exact ⟨_, _, rfl, hprinted, haccepted, hagain⟩

end HostWatch.WatchCommand
