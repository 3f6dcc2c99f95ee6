import HostWatch.Proofs.Config.ForbiddenList
import HostWatch.Proofs.Counter.Steady
import HostWatch.Proofs.Decision.Moves

/-!
# Decisions over shared stores

The collaborators of this file are the two stores and a prober, and every call may
fail. `Conditions` say what befalls the next call: it is answered, it is refused and
has no effect, or it has its effect and the answer is lost. They also set the instant
and what probes bring, so whoever lets a decision take a step under any conditions
covers every pattern of failures, every course of time and every host.

The lemmas on `Conditions.collaborators` say, call by call, what an answer tells of the
stores.
-/

namespace HostWatch

/-- The stores that decisions share. -/
structure Shared where
  /-- The shared configuration. -/
  config : ConfigStore
  /-- The counters. -/
  counters : CounterStore

/-- Stores in which only a threshold is stored. -/
def Shared.withThreshold (t : Int64) : Shared :=
  ⟨{ entries := [(thresholdKey, Threshold.encode t)] }, { name := "failures" }⟩

/-- Where only a threshold is stored the list is empty. -/
theorem Shared.forbidden_withThreshold (t : Int64) :
    (withThreshold t).config.forbidden = .ok [] := rfl

/-- Where only a threshold is stored all counters are absent. -/
theorem Shared.steady_withThreshold (t : Int64) (host : String) :
    (withThreshold t).counters.Steady host 0 := fun _ => rfl

/-- What befalls a call. -/
inductive Fate (ε : Type) where
  /-- It is answered. -/
  | answered
  /-- It fails without effect. -/
  | refused (e : ε)
  /-- It has its effect, but fails for its caller. -/
  | lost (e : ε)

namespace Fate

variable {ε α σ : Type}

/-- What a caller sees of an answer. -/
def seen (f : Fate ε) (answer : Except ε α) : Except ε α :=
  match f with
  | .answered => answer
  | .refused e => .error e
  | .lost e => .error e

/-- The state after a write from `s` that would lead to `s'`. -/
def after (f : Fate ε) (s s' : σ) : σ :=
  match f with
  | .refused _ => s
  | _ => s'

/-- The call does not have an effect that its caller cannot see. -/
def IsPlain (f : Fate ε) : Prop := ∀ e, f ≠ .lost e

theorem isPlain_answered : (answered : Fate ε).IsPlain := fun _ h => by cases h

theorem isPlain_refused (e : ε) : (refused e).IsPlain := fun _ h => by cases h

theorem seen_eq_ok {f : Fate ε} {answer : Except ε α} {a : α} (h : f.seen answer = .ok a) :
    answer = .ok a := by
  cases f with
  | answered => exact h
  | refused e => cases h
  | lost e => cases h

theorem after_of_seen_eq_ok {f : Fate ε} {answer : Except ε α} {a : α} (h : f.seen answer = .ok a)
    (s s' : σ) : f.after s s' = s' := by
  cases f with
  | answered => rfl
  | refused e => cases h
  | lost e => cases h

theorem after_eq (f : Fate ε) (s s' : σ) : f.after s s' = s ∨ f.after s s' = s' := by
  cases f with
  | answered => exact .inr rfl
  | refused e => exact .inl rfl
  | lost e => exact .inr rfl

end Fate

/-- The conditions under which the next call is made. -/
structure Conditions where
  /-- The instant. -/
  now : Nat := 0
  /-- What befalls a reading of the shared configuration under a key. -/
  reads : String → Fate ConfigError := fun _ => .answered
  /-- What befalls a write to the shared configuration. -/
  writes : Fate ConfigError := .answered
  /-- What befalls a call to the counters. -/
  counters : Fate CounterError := .answered
  /-- What a probe of an origin brings. -/
  probe : String → ProbeResult := fun _ => .timeout

namespace Conditions

/-- No reading of the list fails by saying that it was never written; that is an answer, and
brings the empty list. -/
def Truthful (x : Conditions) : Prop :=
  ∀ key, x.reads forbiddenKey ≠ .refused (.notFound key) ∧
    x.reads forbiddenKey ≠ .lost (.notFound key)

theorem truthful_of_answered {x : Conditions} (h : x.reads forbiddenKey = .answered) :
    x.Truthful := by
  intro key
  rw [h]
  constructor <;> intro heq <;> cases heq

/-- The collaborators under some conditions. -/
def collaborators (x : Conditions) : Collaborators Shared where
  config :=
    { get := fun key s => ((x.reads key).seen (s.config.get key), s)
      set := fun key value s =>
        let (answer, config) := ConfigStore.access.set key value s.config
        (x.writes.seen answer, { s with config := x.writes.after s.config config }) }
  counters :=
    { get := fun host s => (x.counters.seen (s.counters.get x.now host), s)
      set := fun host count life s =>
        let (answer, counters) := (CounterStore.access x.now).set host count life s.counters
        (x.counters.seen answer, { s with counters := x.counters.after s.counters counters }) }
  probe origin s := (x.probe origin, s)

variable {x : Conditions} {s s' : Shared}

/-- Reading changes nothing, and brings what the store holds or fails. -/
theorem configRead {key : String} {a : Except ConfigError Bytes}
    (h : x.collaborators.Gives s (.configRead key a) s') :
    s' = s ∧ (a = s.config.get key ∨
      ∃ e, a = .error e ∧ (x.reads key = .refused e ∨ x.reads key = .lost e)) := by
  obtain ⟨ha, hs⟩ := Prod.mk.inj h
  refine ⟨hs.symm, ?_⟩
  rw [← ha]
  cases hx : x.reads key with
  | answered => exact .inl rfl
  | refused e => exact .inr ⟨e, rfl, .inl rfl⟩
  | lost e => exact .inr ⟨e, rfl, .inr rfl⟩

/-- A list that is read is the one that the store holds, or the empty one. -/
theorem forbidden_of_configRead {a : Except ConfigError Bytes} {l : ForbiddenList}
    (h : x.collaborators.Gives s (.configRead forbiddenKey a) s')
    (hl : ForbiddenList.ofAnswer a = .ok l) :
    s.config.forbidden = .ok l ∨ l = [] ∧ ¬ x.Truthful := by
  rcases (configRead h).2 with rfl | ⟨e, rfl, hfate⟩
  · exact .inl hl
  · cases e with
    | notFound key =>
      cases hl
      exact .inr ⟨rfl, fun ht => hfate.elim (ht key).1 (ht key).2⟩
    | _ => cases hl

/-- A write to the configuration leaves the counters alone; one that succeeds has its effect, and
one that fails has it or not. -/
theorem configWritten {key : String} {value : Bytes} {a : Except ConfigError Unit}
    (h : x.collaborators.Gives s (.configWritten key value a) s') :
    s'.counters = s.counters ∧
      (s'.config = s.config ∨ s.config.set key value = .ok s'.config) ∧
      (a = .ok () → s.config.set key value = .ok s'.config) := by
  obtain ⟨ha, rfl⟩ := Prod.mk.inj h
  refine ⟨rfl, ?_⟩
  simp only at ha ⊢
  cases hset : s.config.set key value with
  | ok t =>
    rw [hset] at ha
    simp only at ha ⊢
    refine ⟨?_, fun hok => ?_⟩
    · rcases x.writes.after_eq s.config t with ht | ht
      · exact .inl ht
      · rw [ht]; exact .inr rfl
    · rw [hok] at ha
      rw [Fate.after_of_seen_eq_ok ha]
  | error e =>
    rw [hset] at ha
    simp only at ha ⊢
    refine ⟨.inl ?_, fun hok => ?_⟩
    · rcases x.writes.after_eq s.config s.config with ht | ht <;> exact ht
    · rw [hok] at ha
      cases Fate.seen_eq_ok ha

/-- Reading a counter changes nothing, and a number that is read is the one that is stored. -/
theorem counterRead {host : String} {a : Except CounterError Int64}
    (h : x.collaborators.Gives s (.counterRead host a) s') :
    s' = s ∧ ∀ n, a = .ok n → s.counters.get x.now host = .ok n := by
  obtain ⟨ha, hs⟩ := Prod.mk.inj h
  refine ⟨hs.symm, fun n hn => ?_⟩
  rw [hn] at ha
  exact Fate.seen_eq_ok ha

/-- A write to the counters leaves the configuration alone; one that succeeds has its effect, and
one that fails has it only if its answer is lost. -/
theorem counterWritten {host : String} {n : Int64} {life : Lifetime} {a : Except CounterError Unit}
    (h : x.collaborators.Gives s (.counterWritten host n life a) s') :
    s'.config = s.config ∧
      (s'.counters = s.counters ∨ s.counters.set x.now host n life = .ok s'.counters) ∧
      (a = .ok () → s.counters.set x.now host n life = .ok s'.counters) ∧
      (x.counters.IsPlain → a ≠ .ok () → s'.counters = s.counters) := by
  obtain ⟨ha, rfl⟩ := Prod.mk.inj h
  refine ⟨rfl, ?_⟩
  simp only at ha ⊢
  cases hset : s.counters.set x.now host n life with
  | ok t =>
    rw [hset] at ha
    simp only at ha ⊢
    refine ⟨?_, fun hok => ?_, fun hplain hne => ?_⟩
    · rcases x.counters.after_eq s.counters t with ht | ht
      · exact .inl ht
      · rw [ht]; exact .inr rfl
    · rw [hok] at ha
      rw [Fate.after_of_seen_eq_ok ha]
    · cases hx : x.counters with
      | answered => rw [hx] at ha; exact absurd ha.symm hne
      | refused e => rfl
      | lost e => exact absurd hx (hplain e)
  | error e =>
    rw [hset] at ha
    simp only at ha ⊢
    have hsame : x.counters.after s.counters s.counters = s.counters := by
      rcases x.counters.after_eq s.counters s.counters with ht | ht <;> exact ht
    refine ⟨.inl hsame, fun hok => ?_, fun _ _ => hsame⟩
    rw [hok] at ha
    cases Fate.seen_eq_ok ha

/-- A probe changes nothing. -/
theorem probed {origin : String} {result : ProbeResult}
    (h : x.collaborators.Gives s (.probed origin result) s') : s' = s :=
  (Prod.mk.inj h).2.symm

end Conditions

end HostWatch
