import HostWatch.Config.Store
import HostWatch.Counter.Store

/-!
# Files that can be replaced, and files that cannot

A store without a file, or with one that can be replaced, takes every write
(`ConfigStore.set_of_replaceable`, `CounterStore.setText_of_replaceable`). From outside a file can
be obstructed: from then on it cannot be replaced, for the reason that was given, or it can again if
none was. This changes nothing that is read, in memory or from the file.
-/

namespace HostWatch

namespace SnapshotFile

/-- A file, if there is one, can be replaced. -/
def Replaceable (file : Option SnapshotFile) : Prop :=
  ∀ f, file = some f → f.unwritable = none

/-- Where a file can be replaced it is replaced, and can be replaced again. -/
theorem Replaceable.replace {f : SnapshotFile} (h : Replaceable (some f))
    (content : Bytes) : ∃ f', f.replace content = .ok f' ∧ Replaceable (some f') := by
  have hf : f.unwritable = none := h f rfl
  refine ⟨{ f with content := some content }, ?_, ?_⟩
  · rw [SnapshotFile.replace, hf]
  · intro f' hf'
    cases hf'
    exact hf

/-- A file that from now on cannot be replaced for a reason, or can if there is none. -/
def obstruct (reason : Option FileFault) (f : SnapshotFile) : SnapshotFile :=
  { f with unwritable := reason }

/-- A file that is obstructed is not replaced. -/
@[simp]
theorem replace_obstruct_some (fault : FileFault) (f : SnapshotFile) (content : Bytes) :
    (f.obstruct (some fault)).replace content = .error fault := rfl

theorem replaceable_map_obstruct (file : Option SnapshotFile) :
    Replaceable (file.map (·.obstruct none)) := by
  intro f hf
  obtain ⟨g, -, rfl⟩ := Option.map_eq_some_iff.mp hf
  rfl

end SnapshotFile

/-! ### The shared configuration -/

namespace ConfigStore

/-- What is in memory after a write. -/
theorem entries_set {s t : ConfigStore} {key : String} {value : Bytes}
    (h : s.set key value = .ok t) : t.entries = s.entries.insert key value := by
  unfold set at h
  split at h <;> cases h
  rfl

/-- A write to a configuration that can be saved succeeds, and the next one can be saved too. -/
theorem set_of_replaceable {s : ConfigStore} (h : SnapshotFile.Replaceable s.file)
    (key : String) (value : Bytes) :
    ∃ t, s.set key value = .ok t ∧ SnapshotFile.Replaceable t.file := by
  obtain ⟨entries, file⟩ := s
  cases file with
  | none => exact ⟨_, rfl, h⟩
  | some f =>
    obtain ⟨f', hf', hnext⟩ := h.replace (encode (Keyed.insert key value entries))
    refine ⟨⟨Keyed.insert key value entries, some f'⟩, ?_, hnext⟩
    simp only [set, save, hf', Except.map]

/-- The store with its file obstructed, if it has one. -/
def obstruct (reason : Option FileFault) (s : ConfigStore) : ConfigStore :=
  { s with file := s.file.map (·.obstruct reason) }

@[simp]
theorem entries_obstruct (reason : Option FileFault) (s : ConfigStore) :
    (s.obstruct reason).entries = s.entries := rfl

theorem replaceable_obstruct (s : ConfigStore) :
    SnapshotFile.Replaceable (s.obstruct none).file :=
  SnapshotFile.replaceable_map_obstruct s.file

/-- Without a file there is nothing to obstruct. -/
theorem replaceable_obstruct_of_none {s : ConfigStore} (h : s.file = none)
    (reason : Option FileFault) : SnapshotFile.Replaceable (s.obstruct reason).file := by
  intro f hf
  rw [obstruct, h] at hf
  cases hf

/-- A write to a store whose file is obstructed fails. -/
theorem set_obstruct_some {s : ConfigStore} {f : SnapshotFile} (hf : s.file = some f)
    (fault : FileFault) (key : String) (value : Bytes) :
    (s.obstruct (some fault)).set key value = .error (.storage fault) := by
  simp only [set, save, obstruct, hf, Option.map_some, SnapshotFile.replace_obstruct_some,
    Except.map]

end ConfigStore

/-! ### The counters -/

namespace CounterStore

/-- A text that can be saved is written, and the next one can be saved too. -/
theorem setText_of_replaceable {s : CounterStore} (h : SnapshotFile.Replaceable s.file)
    (now : Nat) (key text : String) (life : Lifetime) :
    ∃ t, s.setText now key text life = .ok t ∧ SnapshotFile.Replaceable t.file := by
  obtain ⟨name, entries, file⟩ := s
  cases file with
  | none => exact ⟨_, rfl, h⟩
  | some f =>
    obtain ⟨f', hf', hnext⟩ := h.replace
      (encode (snapshot now (fullKey name key) ⟨text, expiry now life⟩ entries))
    refine ⟨⟨name, Keyed.insert (fullKey name key) ⟨text, expiry now life⟩ entries, some f'⟩,
      ?_, hnext⟩
    simp only [setText, hf']

/-- A write to counters that can be saved succeeds, and the next one can be saved too. -/
theorem set_of_replaceable {s : CounterStore} (h : SnapshotFile.Replaceable s.file)
    (now : Nat) (key : String) (n : Int64) (life : Lifetime) :
    ∃ t, s.set now key n life = .ok t ∧ SnapshotFile.Replaceable t.file :=
  setText_of_replaceable h now key (format n) life

/-- The store with its file obstructed, if it has one. -/
def obstruct (reason : Option FileFault) (s : CounterStore) : CounterStore :=
  { s with file := s.file.map (·.obstruct reason) }

@[simp]
theorem entries_obstruct (reason : Option FileFault) (s : CounterStore) :
    (s.obstruct reason).entries = s.entries := rfl

theorem replaceable_obstruct (s : CounterStore) :
    SnapshotFile.Replaceable (s.obstruct none).file :=
  SnapshotFile.replaceable_map_obstruct s.file

/-- A write to a store whose file is obstructed fails. -/
theorem setText_obstruct_some {s : CounterStore} {f : SnapshotFile} (hf : s.file = some f)
    (fault : FileFault) (now : Nat) (key text : String) (life : Lifetime) :
    (s.obstruct (some fault)).setText now key text life = .error (.storage fault) := by
  simp only [setText, obstruct, hf, Option.map_some, SnapshotFile.replace_obstruct_some]

end CounterStore

end HostWatch
