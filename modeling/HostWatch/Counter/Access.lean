import HostWatch.Counter.Error

/-!
# Access to the failure counters

A counter is a signed number of 64 bits under a key, kept until it is overwritten or
for some time. Reading and writing are separate calls; there is no way to count up
in one go.
-/

namespace HostWatch

/-- How long a counter is kept. -/
inductive Lifetime where
  /-- Until it is overwritten. -/
  | unlimited
  /-- For so many milliseconds. -/
  | millis (n : Nat)
  deriving DecidableEq, Repr

/-- The next count, if there is one. -/
def nextCount? (n : Int64) : Option Int64 :=
  if n = Int64.maxValue then none else some (n + 1)

/-- Reading and writing counters. -/
structure CounterAccess (σ : Type) where
  /-- Read a counter; one that is absent is 0. -/
  get : String → σ → Except CounterError Int64 × σ
  /-- Write a counter, in place of what is there. -/
  set : String → Int64 → Lifetime → σ → Except CounterError Unit × σ

end HostWatch
