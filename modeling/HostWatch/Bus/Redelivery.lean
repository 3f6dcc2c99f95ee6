import HostWatch.Settings.Basic

/-!
# Redelivery

How often, and how late, a message whose handling failed is handed out again. The
delay doubles with every redelivery up to a cap, in saturating 64-bit arithmetic,
and a jitter of less than a tenth of it is added.
-/

namespace HostWatch

/-- The largest word. -/
def topWord : UInt64 := UInt64.ofNat (UInt64.size - 1)

/-- Two to the power `n`, or the largest word where that is too large. -/
def satPow2 (n : Nat) : UInt64 :=
  if n < 64 then UInt64.ofNat (Nat.pow 2 n) else topWord

/-- A product, or the largest word where that is too large. -/
def satMul (a b : UInt64) : UInt64 :=
  if a.toNat * b.toNat < UInt64.size then a * b else topWord

/-- How often, and how late, a message is handed out again. -/
structure RedeliveryPolicy where
  /-- Redeliveries after the first attempt. -/
  maxRedeliveries : UInt32
  /-- The delay before the first redelivery, in milliseconds. -/
  baseMs : UInt64
  /-- The cap of the delay, in milliseconds. -/
  maxMs : UInt64
  deriving DecidableEq, Repr

namespace RedeliveryPolicy

/-- The policy that the settings of the events give. -/
def ofSettings (s : Settings.Events) : RedeliveryPolicy :=
  ⟨s.maxRedeliveries, s.baseDelayMs, s.maxDelayMs⟩

/-- The policy that holds where nothing is set. -/
def standard : RedeliveryPolicy :=
  ofSettings {}

/-- Whether a message that failed on an attempt, counted from 0, is handed out again. -/
def allows (p : RedeliveryPolicy) (attempt : UInt32) : Bool :=
  attempt < p.maxRedeliveries

/-- The delay before redelivery number `n`, counted from 1, without jitter. -/
def capped (p : RedeliveryPolicy) (n : UInt32) : UInt64 :=
  if n = 0 then 0 else min (satMul p.baseMs (satPow2 (n.toNat - 1))) p.maxMs

/-- How many values the jitter before redelivery number `n` can take; none is drawn if 0. -/
def jitterRange (p : RedeliveryPolicy) (n : UInt32) : UInt64 :=
  p.capped n / 10

/-- The delay before redelivery number `n` when the number drawn for the jitter is `draw`. -/
def delay (p : RedeliveryPolicy) (n : UInt32) (draw : UInt64) : UInt64 :=
  if p.jitterRange n = 0 then p.capped n else p.capped n + draw % p.jitterRange n

end RedeliveryPolicy

end HostWatch
