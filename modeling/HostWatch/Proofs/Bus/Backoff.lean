import HostWatch.Bus.Redelivery
import HostWatch.Proofs.Settings.Range
import Mathlib.Algebra.Group.Nat.Defs

/-!
# The delay before a redelivery

The delay is computed in saturating 64-bit arithmetic. Capped, it is the doubled base delay of
unbounded arithmetic: a product or a power that saturates is beyond every cap
(`toNat_capped`). In accepted settings the cap is a signed number, so that the jitter can be added
without overflow (`RedeliveryPolicy.exact_of_parse`).
-/

namespace HostWatch

/-! ### Saturating arithmetic -/

theorem toNat_topWord : topWord.toNat = 2 ^ 64 - 1 := rfl

theorem toNat_satPow2 (n : Nat) : (satPow2 n).toNat = min (2 ^ n) (2 ^ 64 - 1) := by
  unfold satPow2
  split
  · next h =>
    have hlt : 2 ^ n < 2 ^ 64 := Nat.pow_lt_pow_right (by decide) h
    rw [Nat.pow_eq, UInt64.toNat_ofNat_of_lt' hlt]
    omega
  · next h =>
    have hle : 2 ^ 64 ≤ 2 ^ n := Nat.pow_le_pow_right (by decide) (Nat.le_of_not_lt h)
    rw [toNat_topWord]
    omega

theorem toNat_satMul (a b : UInt64) :
    (satMul a b).toNat = min (a.toNat * b.toNat) (2 ^ 64 - 1) := by
  have hsize : UInt64.size = 2 ^ 64 := rfl
  unfold satMul
  split
  · next h =>
    rw [UInt64.toNat_mul, Nat.mod_eq_of_lt (hsize ▸ h)]
    omega
  · next h =>
    rw [toNat_topWord]
    omega

theorem toNat_min (a b : UInt64) : (min a b).toNat = min a.toNat b.toNat := by
  rw [show min a b = if a ≤ b then a else b from rfl, Nat.min_def]
  simp only [UInt64.le_iff_toNat_le]
  split <;> rfl

namespace RedeliveryPolicy

variable (p : RedeliveryPolicy)

/-- The delay before redelivery number `n`, counted from 1, in unbounded arithmetic: the base delay,
doubled with every redelivery after the first, up to the cap. -/
def doubled (n : UInt32) : Nat :=
  min (p.baseMs.toNat * 2 ^ (n.toNat - 1)) p.maxMs.toNat

theorem doubled_le (n : UInt32) : p.doubled n ≤ p.maxMs.toNat :=
  Nat.min_le_right _ _

theorem doubled_mono {m n : UInt32} (h : m ≤ n) : p.doubled m ≤ p.doubled n := by
  have hpow : 2 ^ (m.toNat - 1) ≤ 2 ^ (n.toNat - 1) :=
    Nat.pow_le_pow_right (by decide) (Nat.sub_le_sub_right (UInt32.le_iff_toNat_le.mp h) 1)
  have hmul := Nat.mul_le_mul_left p.baseMs.toNat hpow
  unfold doubled
  omega

/-- What saturates is beyond the cap, so that saturation is never seen. -/
theorem toNat_capped {n : UInt32} (h : n ≠ 0) : (p.capped n).toNat = p.doubled n := by
  have hcap := p.maxMs.toNat_lt
  rw [capped, if_neg h, toNat_min, toNat_satMul, toNat_satPow2, doubled]
  generalize 2 ^ (n.toNat - 1) = k
  by_cases hk : k ≤ 2 ^ 64 - 1
  · rw [Nat.min_eq_left hk]
    omega
  · rw [Nat.min_eq_right (Nat.le_of_not_le hk)]
    -- the power saturates: unless the base delay is 0, so does the product
    by_cases hbase : p.baseMs.toNat = 0
    · simp [hbase]
    · have hsat := Nat.le_mul_of_pos_left (2 ^ 64 - 1) (Nat.pos_of_ne_zero hbase)
      have hexact := Nat.le_mul_of_pos_left k (Nat.pos_of_ne_zero hbase)
      omega

theorem toNat_jitterRange {n : UInt32} (h : n ≠ 0) :
    (p.jitterRange n).toNat = p.doubled n / 10 := by
  rw [jitterRange, UInt64.toNat_div, p.toNat_capped h]
  rfl

/-- If the cap is a signed number, a jitter of less than a tenth is added without overflow. -/
theorem toNat_delay {n : UInt32} (h : n ≠ 0) (hmax : p.maxMs.toNat < 2 ^ 63) (draw : UInt64) :
    0 < p.doubled n / 10 ∧
        (p.delay n draw).toNat = p.doubled n + draw.toNat % (p.doubled n / 10) ∨
      p.doubled n / 10 = 0 ∧ (p.delay n draw).toNat = p.doubled n := by
  have hle := p.doubled_le n
  have hrange := p.toNat_jitterRange h
  unfold delay
  by_cases hzero : p.jitterRange n = 0
  · rw [if_pos hzero]
    rw [hzero] at hrange
    exact .inr ⟨hrange.symm, p.toNat_capped h⟩
  · have hpos : 0 < p.doubled n / 10 := by
      rw [← hrange]
      exact Nat.pos_of_ne_zero fun h => hzero (UInt64.toNat_inj.mp h)
    have hlt := Nat.mod_lt draw.toNat hpos
    rw [if_neg hzero, UInt64.toNat_add, UInt64.toNat_mod, hrange, p.toNat_capped h,
      Nat.mod_eq_of_lt (by omega)]
    exact .inl ⟨hpos, rfl⟩

/-- The delay that a policy gives is the one of unbounded arithmetic, with a jitter. -/
structure Exact : Prop where
  /-- The base delay is not larger than the cap, and the cap is a signed number. -/
  ordered : p.baseMs.toNat ≤ p.maxMs.toNat ∧ p.maxMs.toNat < 2 ^ 63
  /-- The power and the product are those of unbounded arithmetic, or saturate at the largest word. -/
  saturates : ∀ n : UInt32, (satPow2 (n.toNat - 1)).toNat = min (2 ^ (n.toNat - 1)) (2 ^ 64 - 1) ∧
    (satMul p.baseMs (satPow2 (n.toNat - 1))).toNat =
      min (p.baseMs.toNat * (satPow2 (n.toNat - 1)).toNat) (2 ^ 64 - 1)
  /-- Capped, this is the doubled base delay, whether something saturates or not. -/
  capped : ∀ n, n ≠ 0 → (p.capped n).toNat = p.doubled n
  /-- Whatever is drawn, a jitter of less than a tenth is added to it, and none if a tenth is less than
  one; the sum does not overflow. -/
  delay : ∀ n, n ≠ 0 → ∀ draw, ∃ jitter, (p.delay n draw).toNat = p.doubled n + jitter ∧
    (jitter < p.doubled n / 10 ∨ p.doubled n / 10 = 0 ∧ jitter = 0) ∧
    p.doubled n + jitter < 2 ^ 64
  /-- Every such jitter is that of some number that is drawn. -/
  drawn : ∀ n, n ≠ 0 → ∀ jitter < p.doubled n / 10, ∃ draw,
    (p.delay n draw).toNat = p.doubled n + jitter
  /-- The doubled base delay never decreases. -/
  mono : ∀ m n, m ≤ n → p.doubled m ≤ p.doubled n
  /-- It is not larger than the cap. -/
  le_max : ∀ n, p.doubled n ≤ p.maxMs.toNat
  /-- The first attempt is not delayed. -/
  immediate : ∀ draw, p.delay 0 draw = 0

theorem exact_of_ordered {p : RedeliveryPolicy} (hordered : p.baseMs.toNat ≤ p.maxMs.toNat)
    (hmax : p.maxMs.toNat < 2 ^ 63) : p.Exact where
  ordered := ⟨hordered, hmax⟩
  saturates n := ⟨toNat_satPow2 _, toNat_satMul _ _⟩
  capped n h := p.toNat_capped h
  delay := by
    intro n h draw
    have hle := p.doubled_le n
    obtain ⟨hpos, hdelay⟩ | ⟨hzero, hdelay⟩ := p.toNat_delay h hmax draw
    · have hlt := Nat.mod_lt draw.toNat hpos
      exact ⟨_, hdelay, .inl hlt, by omega⟩
    · exact ⟨0, hdelay, .inr ⟨hzero, rfl⟩, by omega⟩
  drawn := by
    intro n h jitter hjitter
    have hle := p.doubled_le n
    have hword : (UInt64.ofNat jitter).toNat = jitter :=
      UInt64.toNat_ofNat_of_lt' (show jitter < 2 ^ 64 by omega)
    obtain ⟨-, hdelay⟩ | ⟨hzero, -⟩ := p.toNat_delay h hmax (UInt64.ofNat jitter)
    · rw [hword, Nat.mod_eq_of_lt hjitter] at hdelay
      exact ⟨_, hdelay⟩
    · omega
  mono _ _ := p.doubled_mono
  le_max := p.doubled_le
  immediate draw := by simp [RedeliveryPolicy.delay, jitterRange, RedeliveryPolicy.capped]

/-- Whatever document is accepted, the delays of its policy are exact: nothing overflows, and nothing
that saturates is seen. -/
theorem exact_of_parse {document : String} {s : Settings} (h : Settings.parse document = .ok s) :
    (ofSettings s.events).Exact := by
  have hsigned := (Settings.wordsFit_of_parse h).maxDelayMs
  have hmax : Int64.maxValue.toInt = 2 ^ 63 - 1 := by decide
  have hle := Settings.baseDelayMs_le_of_problems (Settings.parse_eq_ok.mp h).2
  apply exact_of_ordered (UInt64.le_iff_toNat_le.mp hle)
  simp only [Settings.Signed, hmax] at hsigned
  simp only [ofSettings]
  omega

/-- A base delay of nearly half the largest cap is doubled once; then the delay stays at the cap, up to
the last redelivery that can be counted. -/
theorem exact_at_largest_cap :
    ∃ s, Settings.parse ("[events]\nbase_delay_ms = 4611686018427387903\n" ++
        "max_delay_ms = 9223372036854775807\n[config_api]\nurl = 'http://[::1]:8085'\n") = .ok s ∧
      (ofSettings s.events).Exact ∧
      (ofSettings s.events).doubled 2 = 9223372036854775806 ∧
      (ofSettings s.events).doubled 3 = 9223372036854775807 ∧
      (ofSettings s.events).capped 4294967295 = 9223372036854775807 := by
  have hparse : Settings.parse ("[events]\nbase_delay_ms = 4611686018427387903\n" ++
      "max_delay_ms = 9223372036854775807\n[config_api]\nurl = 'http://[::1]:8085'\n") = .ok
        { configApi := { url := "http://[::1]:8085" },
          events := { baseDelayMs := 4611686018427387903, maxDelayMs := 9223372036854775807 } } :=
    Settings.parse_eq_ok.mpr (by decide +kernel)
  exact ⟨_, hparse, exact_of_parse hparse, by decide, by decide, by decide +kernel⟩

end RedeliveryPolicy

end HostWatch
