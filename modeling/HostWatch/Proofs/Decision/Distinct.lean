import HostWatch.Proofs.Decision.Scene

/-!
# The forbidden list stays distinct

Several engines, guarded or not, decide over the same stores, and others write to the
stores in between, but never a list with two equal entries. Then the stored list never
has two entries that are equal ignoring ASCII case (`Fleet.Reaches.holdsDistinct`).

A decision that writes the list has read it before, and others may have replaced it
meanwhile, so the stored list says nothing about the list that is written. What does is
the list that was read: it was distinct, and the hostname was not on it. A decision
carries this with it up to its write (`Stage.Careful`).
-/

namespace HostWatch

/-! ### Several engines -/

/-- Engines at work over shared stores. -/
structure Fleet where
  /-- The engines. -/
  engines : List Engine
  /-- The stores with the record of calls, and what has been measured. -/
  world : World (Recorded Shared)

namespace Fleet

/-- The stores. -/
def shared (f : Fleet) : Shared := f.world.state.state

/-- Engines to which reports have come in, each with its guard. -/
def start (reports : List (Settings.Guard × List String)) (s : Shared) : Fleet :=
  ⟨reports.map fun r => Engine.receive r.1 r.2, { state := { state := s } }⟩

/-- A decision of one of the engines takes a step. -/
def step (x : Conditions) (engine task : Nat) (f : Fleet) : Fleet :=
  match f.engines[engine]? with
  | none => f
  | some e =>
    let z := Scene.step x task ⟨e, f.world⟩
    ⟨f.engines.set engine z.engine, z.world⟩

/-- Somebody else changes the stores. -/
def put (s : Shared) (f : Fleet) : Fleet :=
  { f with world.state.state := s }

/-- One step of a run. -/
inductive Step (r : Rules) : Fleet → Fleet → Prop where
  /-- A decision takes a step. -/
  | task {f : Fleet} {x : Conditions} (engine task : Nat) :
      r.may x → Step r f (f.step x engine task)
  /-- Somebody else changes the stores. -/
  | others {f : Fleet} {s : Shared} : r.others f.shared s → Step r f (f.put s)

/-- A run leads from one state of the engines and stores to another. -/
abbrev Reaches (r : Rules) : Fleet → Fleet → Prop := Relation.ReflTransGen (Step r)

/-- A run along a schedule, each step under its conditions. -/
def play (moves : List (Conditions × Nat × Nat)) (f : Fleet) : Fleet :=
  moves.foldl (fun f m => f.step m.1 m.2.1 m.2.2) f

theorem reaches_play {rules : Rules} (moves : List (Conditions × Nat × Nat))
    (h : ∀ m ∈ moves, rules.may m.1) (f : Fleet) : Reaches rules f (f.play moves) := by
  induction moves generalizing f with
  | nil => exact .refl
  | cons m moves ih =>
    refine .head (.task m.2.1 m.2.2 (h m List.mem_cons_self)) ?_
    exact ih (fun m hm => h m (List.mem_cons_of_mem _ hm)) _

/-- A step of a fleet is a move of one of its engines, or nothing. -/
theorem step_eq_or_moves (x : Conditions) (engine task : Nat) (f : Fleet) :
    f.step x engine task = f ∨ ∃ e g r g' z', f.engines[engine]? = some e ∧
      Scene.Moves x task g r g' ⟨e, f.world⟩ z' ∧
      f.step x engine task = ⟨f.engines.set engine z'.engine, z'.world⟩ := by
  unfold step
  cases he : f.engines[engine]? with
  | none => exact .inl rfl
  | some e =>
    obtain ⟨hlt, rfl⟩ := List.getElem?_eq_some_iff.mp he
    rcases Scene.step_eq_or_moves x task ⟨f.engines[engine], f.world⟩ with h | ⟨g, r, g', m⟩
    · refine .inl ?_
      simp only [h, List.set_getElem_self]
    · exact .inr ⟨_, g, r, g', _, rfl, m, rfl⟩

end Fleet

/-! ### Careful decisions -/

/-- A decision that is about to append its hostname does so to a distinct list that does not have
it. -/
def Stage.Careful : Stage → Prop
  | .updating host _ (.writeList _ l) => ForbiddenList.Distinct l ∧ ¬ ForbiddenList.Listed l host
  | _ => True

/-- Over a distinct list a careful decision stays careful, and the list stays distinct. -/
theorem Scene.Moves.careful {x : Conditions} {task : Nat} {g g' : Stage} {r : Option Reply}
    {z z' : Scene} (m : Moves x task g r g' z z') (hs : z.shared.config.HoldsDistinct)
    (hg : g.Careful) : z'.shared.config.HoldsDistinct ∧ g'.Careful := by
  rcases m.updates_or with ⟨host, lock, u, u', reply, rfl, rfl, rfl, hu⟩ | ⟨hsame, hread⟩
  · have hgive := m.gives_some
    cases hu with
    | threshold _ | noThreshold _ | listed _ _ | noList _ =>
      rw [(Conditions.configRead hgive).1]
      exact ⟨hs, trivial⟩
    | below _ _ | reached _ _ | overflow _ | noCounter =>
      rw [(Conditions.counterRead hgive).1]
      exact ⟨hs, trivial⟩
    | unlisted hl hhost =>
      -- the list that is carried on is the one stored now, or the empty one
      rw [(Conditions.configRead hgive).1]
      refine ⟨hs, ?_, hhost⟩
      obtain ⟨l, hstored, hdist⟩ := hs
      rcases Conditions.forbidden_of_configRead hgive hl with hread | ⟨rfl, -⟩
      · rw [hread, Except.ok.injEq] at hstored
        exact hstored ▸ hdist
      · exact .nil
    | @appended n l =>
      refine ⟨?_, trivial⟩
      exact ⟨l ++ [host], ConfigStore.forbidden_set ((Conditions.configWritten hgive).2.2 rfl),
        hg.1.append hg.2⟩
    | @notAppended n l e =>
      refine ⟨?_, trivial⟩
      rcases (Conditions.configWritten hgive).2.1 with hkept | hset
      · rw [hkept]; exact hs
      · exact ⟨l ++ [host], ConfigStore.forbidden_set hset, hg.1.append hg.2⟩
    | counted | notCounted =>
      rw [(Conditions.counterWritten hgive).1]
      exact ⟨hs, trivial⟩
  · refine ⟨hsame ▸ hs, ?_⟩
    unfold Stage.Careful
    split
    · cases hread rfl
    · trivial

namespace Fleet

/-- The stored list is distinct, and all decisions are careful. -/
structure Sound (f : Fleet) : Prop where
  /-- The stored list is distinct. -/
  stored : f.shared.config.HoldsDistinct
  /-- All decisions are careful. -/
  careful : ∀ e ∈ f.engines, ∀ g ∈ e.tasks, g.Careful

theorem sound_start (reports : List (Settings.Guard × List String)) {s : Shared}
    (hs : s.config.HoldsDistinct) : (start reports s).Sound where
  stored := hs
  careful e he g hg := by
    obtain ⟨r, -, rfl⟩ := List.mem_map.mp he
    obtain ⟨url, -, rfl⟩ := List.mem_map.mp hg
    trivial

theorem Sound.step {f : Fleet} (h : f.Sound) (x : Conditions) (engine task : Nat) :
    (f.step x engine task).Sound := by
  rcases f.step_eq_or_moves x engine task with heq | ⟨e, g, r, g', z', he, m, heq⟩
  · rw [heq]; exact h
  · have hmem : e ∈ f.engines := List.mem_of_getElem? he
    obtain ⟨hs, hg'⟩ := m.careful h.stored (h.careful e hmem g (List.mem_of_getElem? m.before))
    rw [heq]
    refine ⟨hs, fun e₁ he₁ g₁ hg₁ => ?_⟩
    rcases List.mem_or_eq_of_mem_set he₁ with he₁ | rfl
    · exact h.careful e₁ he₁ g₁ hg₁
    · obtain ⟨k, hk⟩ := List.getElem?_of_mem hg₁
      rcases m.cases_tasks hk with ⟨-, rfl⟩ | ⟨-, hk⟩
      · exact hg'
      · exact h.careful e hmem g₁ (List.mem_of_getElem? hk)

/-- Any calls may fail, and others may do anything that leaves the list distinct. -/
def distinctRules : Rules where
  may _ := True
  others _ s := s.config.HoldsDistinct

/-- The stored list decodes and has no two entries that are equal ignoring ASCII case, in every
state that engines reach, however they are guarded and whichever calls fail. -/
theorem Reaches.holdsDistinct {reports : List (Settings.Guard × List String)} {s : Shared}
    {f : Fleet} (hs : s.config.HoldsDistinct) (h : Reaches distinctRules (start reports s) f) :
    f.shared.config.HoldsDistinct := by
  suffices f.Sound from this.stored
  induction h with
  | refl => exact sound_start reports hs
  | tail _ step ih =>
    cases step with
    | task engine task _ => exact ih.step _ engine task
    | others ho => exact ⟨ho, ih.careful⟩

/-- Two engines find the same hostname not listed, and both append it. -/
def race : List (Conditions × Nat × Nat) :=
  [0, 0, 0, 0, 0, 0, 1, 1, 1, 1, 1, 1, 1, 1, 0, 1, 0, 1].map fun engine => ({}, engine, 0)

/-- After the race the hostname is on the list, and once only. -/
theorem holdsDistinct_race :
    (Shared.withThreshold 1).config.HoldsDistinct ∧
      ((start [(.bestEffort, ["http://[::1]/"]), (.perHostname, ["http://[::1]/"])]
        (.withThreshold 1)).play race).shared.config.HoldsDistinct ∧
      ((start [(.bestEffort, ["http://[::1]/"]), (.perHostname, ["http://[::1]/"])]
        (.withThreshold 1)).play race).shared.config.forbidden.toOption = some ["::1"] := by
  have hs : (Shared.withThreshold 1).config.HoldsDistinct :=
    ⟨[], Shared.forbidden_withThreshold 1, .nil⟩
  refine ⟨hs, ?_, by decide +kernel⟩
  exact Reaches.holdsDistinct hs (reaches_play race (fun _ _ => trivial) _)

end Fleet

end HostWatch
