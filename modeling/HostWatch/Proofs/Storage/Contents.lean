import HostWatch.Proofs.Json.Objects
import HostWatch.Storage.SnapshotFile

/-!
# What a snapshot file holds

A store keeps values under keys in its file, and reads them back with the reader of its own values.
What a file holds is what such a reader finds in it; a file that is absent holds nothing. A file
that has been replaced holds what its new content decodes to (`contents_replace`).
-/

namespace HostWatch.SnapshotFile

variable {α : Type} {item : Json.Reader (Keyed α)} {f g : SnapshotFile} {m m' : Keyed α}
  {bs : Bytes}

/-- The values under keys that a file holds; there are none if there is no file. -/
def contents (item : Json.Reader (Keyed α)) (f : SnapshotFile) : Except FileFault (Keyed α) :=
  (f.decode item).map (·.getD [])

/-- A file that holds values can be read; it is absent, or its content decodes to them. -/
theorem contents_eq_ok (h : f.contents item = .ok m) : f.unreadable = none ∧
    (f.content = none ∧ m = [] ∨ ∃ bs, f.content = some bs ∧ Json.decode item bs = .ok m) := by
  obtain ⟨content, unreadable, unwritable⟩ := f
  cases unreadable with
  | some fault => cases h
  | none =>
    refine ⟨rfl, ?_⟩
    cases content with
    | none =>
      cases h
      exact .inl ⟨rfl, rfl⟩
    | some bs =>
      simp only [contents, SnapshotFile.decode, SnapshotFile.read] at h
      cases hbs : Json.decode item bs with
      | error fault =>
        rw [hbs] at h
        cases h
      | ok m' =>
        rw [hbs] at h
        cases h
        exact .inr ⟨bs, rfl, hbs⟩

/-- What a file holds is in order of its keys. -/
theorem ordered_of_contents {item : Json.Reader α} (h : f.contents (Json.map item) = .ok m) :
    m.Ordered := by
  rcases (contents_eq_ok h).2 with ⟨-, rfl⟩ | ⟨bs, -, hbs⟩
  · exact Keyed.Ordered.nil
  · exact Json.ordered_of_decode hbs

/-- A file that has been replaced holds what the new content decodes to. -/
theorem contents_replace (h : f.contents item = .ok m) (hbs : Json.decode item bs = .ok m')
    (hreplace : f.replace bs = .ok g) : g.contents item = .ok m' := by
  have hreadable := (contents_eq_ok h).1
  obtain ⟨content, unreadable, unwritable⟩ := f
  cases hreadable
  cases unwritable with
  | some fault => cases hreplace
  | none =>
    cases hreplace
    simp only [contents, SnapshotFile.decode, SnapshotFile.read, hbs]
    rfl

end HostWatch.SnapshotFile
