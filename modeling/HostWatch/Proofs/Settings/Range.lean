import HostWatch.Proofs.Toml.Range
import HostWatch.Settings.Check

/-!
# Words of settings

Every setting that is a word of 64 bits is read from a whole number of a document, and those are
signed numbers of 64 bits. So no such setting of a document that is accepted exceeds the largest
signed number (`wordsFit_of_parse`).
-/

namespace HostWatch.Settings

open Toml

/-- A word is not larger than the largest signed number. -/
def Signed (n : UInt64) : Prop :=
  (n.toNat : Int) ≤ Int64.maxValue.toInt

instance (n : UInt64) : Decidable (Signed n) :=
  inferInstanceAs (Decidable ((n.toNat : Int) ≤ Int64.maxValue.toInt))

/-- No word among the settings is larger than the largest signed number. -/
structure WordsFit (s : Settings) : Prop where
  /-- The time that a request may take. -/
  requestTimeoutSecs : Signed s.configApi.requestTimeoutSecs
  /-- The time that a probe may take. -/
  timeoutSecs : Signed s.prober.timeoutSecs
  /-- How many messages are handled at once. -/
  concurrency : Signed s.events.concurrency
  /-- The delay before the first redelivery. -/
  baseDelayMs : Signed s.events.baseDelayMs
  /-- The cap of that delay. -/
  maxDelayMs : Signed s.events.maxDelayMs

theorem signed_of_word64 {v : Value} {n : UInt64} (hv : v.InRange) (h : word64 v = some n) :
    Signed n := by
  obtain ⟨z, hz, rfl⟩ := Option.map_eq_some_iff.mp h
  cases hv with
  | integer hlow hhigh =>
    simp only [whole] at hz
    split at hz
    · next hrange =>
      cases hz
      have hmax : Int64.maxValue.toInt < UInt64.size := by decide
      rw [Signed, UInt64.toNat_ofNat_of_lt' (by omega)]
      omega
    · cases hz
  | _ => cases hz

/-- What every field of a section keeps, reading the section keeps. -/
theorem ofFields_keeps {σ : Type} {P : σ → Prop} {fields : List (String × (σ → Value → Option σ))}
    {s s' : σ} {v : Value}
    (hfields : ∀ f ∈ fields, ∀ s s' v, P s → v.InRange → f.2 s v = some s' → P s') (hs : P s)
    (hv : v.InRange) (h : ofFields fields s v = some s') : P s' := by
  cases hv with
  | table hentries =>
    refine foldlM_keeps (fun e he s s' hs hset => ?_) hs h
    split at hset
    · next set hlookup =>
      obtain ⟨l₁, l₂, heq, -⟩ := List.lookup_eq_some_iff.mp hlookup
      exact hfields (e.1, set) (by simp [heq]) s s' e.2 hs (hentries e he) hset
    · cases hset
      exact hs
  | array hitems =>
    refine foldlM_keeps (fun f hf s s' hs hset => ?_) hs h
    obtain ⟨hfield, hitem⟩ := List.of_mem_zip hf
    exact hfields f.1 hfield s s' f.2 hs (hitems f.2 hitem) hset
  | dateTime =>
    cases h
    exact hs
  | _ => cases h

variable {v : Value}

theorem ConfigApi.signed_of_read {s : ConfigApi} (hv : v.InRange) (h : ConfigApi.read v = some s) :
    Signed s.requestTimeoutSecs := by
  refine ofFields_keeps (P := fun s : ConfigApi => Signed s.requestTimeoutSecs) ?_ (by decide) hv h
  intro f hf s s' v hs hv hset
  simp only [List.mem_cons, List.not_mem_nil, or_false] at hf
  rcases hf with rfl | rfl | rfl | rfl <;> obtain ⟨a, ha, rfl⟩ := Option.map_eq_some_iff.mp hset
  · exact hs
  · exact hs
  · exact signed_of_word64 hv ha
  · exact hs

theorem Prober.signed_of_read {s : Prober} (hv : v.InRange) (h : Prober.read v = some s) :
    Signed s.timeoutSecs := by
  refine ofFields_keeps (P := fun s : Prober => Signed s.timeoutSecs) ?_ (by decide) hv h
  intro f hf s s' v hs hv hset
  simp only [List.mem_cons, List.not_mem_nil, or_false] at hf
  rcases hf with rfl | rfl | rfl <;> obtain ⟨a, ha, rfl⟩ := Option.map_eq_some_iff.mp hset
  · exact signed_of_word64 hv ha
  · exact hs
  · exact hs

theorem Events.signed_of_read {s : Events} (hv : v.InRange) (h : Events.read v = some s) :
    Signed s.concurrency ∧ Signed s.baseDelayMs ∧ Signed s.maxDelayMs := by
  refine ofFields_keeps
    (P := fun s : Events => Signed s.concurrency ∧ Signed s.baseDelayMs ∧ Signed s.maxDelayMs)
    ?_ (by decide) hv h
  intro f hf s s' v ⟨hconcurrency, hbase, hmax⟩ hv hset
  simp only [List.mem_cons, List.not_mem_nil, or_false] at hf
  rcases hf with rfl | rfl | rfl | rfl | rfl | rfl <;>
    obtain ⟨a, ha, rfl⟩ := Option.map_eq_some_iff.mp hset
  · exact ⟨hconcurrency, hbase, hmax⟩
  · exact ⟨hconcurrency, hbase, hmax⟩
  · exact ⟨signed_of_word64 hv ha, hbase, hmax⟩
  · exact ⟨hconcurrency, hbase, hmax⟩
  · exact ⟨hconcurrency, signed_of_word64 hv ha, hmax⟩
  · exact ⟨hconcurrency, hbase, signed_of_word64 hv ha⟩

theorem wordsFit_of_everything {s : Settings} (hv : v.InRange) (h : everything v = some s) :
    WordsFit s := by
  refine ofFields_keeps (P := WordsFit) ?_ ?_ hv h
  · intro f hf s s' v hs hv hset
    simp only [List.mem_cons, List.not_mem_nil, or_false] at hf
    rcases hf with rfl | rfl | rfl | rfl | rfl | rfl | rfl <;>
      obtain ⟨a, ha, rfl⟩ := Option.map_eq_some_iff.mp hset
    · exact { hs with requestTimeoutSecs := ConfigApi.signed_of_read hv ha }
    · exact { hs with }
    · exact { hs with timeoutSecs := Prober.signed_of_read hv ha }
    · obtain ⟨hconcurrency, hbase, hmax⟩ := Events.signed_of_read hv ha
      exact { hs with concurrency := hconcurrency, baseDelayMs := hbase, maxDelayMs := hmax }
    · exact { hs with }
    · exact { hs with }
    · exact { hs with }
  · constructor <;> decide

/-! ### Accepted documents -/

theorem expect_eq_nil {fits : Bool} {field text : String} :
    expect fits field text = [] ↔ fits = true := by
  cases fits <;> simp [expect]

/-- An accepted document has been read, and there is nothing wrong with its settings. -/
theorem parse_eq_ok {document : String} {s : Settings} :
    parse document = .ok s ↔ read? document = some s ∧ problems s = [] := by
  unfold parse
  constructor
  · intro h
    split at h
    · cases h
    · next t hread =>
      split at h
      · next hproblems =>
        cases h
        exact ⟨hread, hproblems⟩
      · cases h
  · rintro ⟨hread, hproblems⟩
    simp only [hread, hproblems]

/-- No word in accepted settings is larger than the largest signed number. -/
theorem wordsFit_of_parse {document : String} {s : Settings} (h : parse document = .ok s) :
    WordsFit s := by
  obtain ⟨hread, -⟩ := parse_eq_ok.mp h
  obtain ⟨es, hes, hs⟩ := Option.bind_eq_some_iff.mp hread
  exact wordsFit_of_everything (inRange_read hes) hs

/-- In accepted settings the delay before the first redelivery is not larger than its cap. -/
theorem baseDelayMs_le_of_problems {s : Settings} (h : problems s = []) :
    s.events.baseDelayMs ≤ s.events.maxDelayMs := by
  simp only [problems, List.append_eq_nil_iff, expect_eq_nil, decide_eq_true_eq] at h
  exact h.1.1.2

end HostWatch.Settings
