import HostWatch.Proofs.Decision.Shared
import Mathlib.Logic.Relation

/-!
# Runs of an engine over shared stores

A scene is an engine with its decisions under way, the stores that they share, and the
record of all calls so far. In a step of a scene one decision goes on under any
conditions, or somebody else changes the stores; `Rules` say which conditions may occur
and what others may do. `Scene.Reaches` is any number of steps, so it covers every
interleaving of any number of decisions.

`Scene.Moves` is all that a step of a decision does, and `Reaches.invariant` is the
induction that all properties of runs are proved by: what every move and every change
by others preserves holds in every scene that is reached.
-/

namespace HostWatch

/-! ### The record of calls -/

/-- A state of collaborators with a record of the calls so far, each with its task. -/
structure Recorded (σ : Type) where
  /-- The state. -/
  state : σ
  /-- The calls and their answers, in their order. -/
  replies : List (Nat × Reply) := []

/-- Collaborators whose calls for a task are recorded. -/
def Collaborators.recorded {σ : Type} (c : Collaborators σ) (task : Nat) :
    Collaborators (Recorded σ) where
  config :=
    { get := fun key s =>
        let (a, t) := c.config.get key s.state
        (a, ⟨t, s.replies ++ [(task, .configRead key a)]⟩)
      set := fun key value s =>
        let (a, t) := c.config.set key value s.state
        (a, ⟨t, s.replies ++ [(task, .configWritten key value a)]⟩) }
  counters :=
    { get := fun host s =>
        let (a, t) := c.counters.get host s.state
        (a, ⟨t, s.replies ++ [(task, .counterRead host a)]⟩)
      set := fun host count life s =>
        let (a, t) := c.counters.set host count life s.state
        (a, ⟨t, s.replies ++ [(task, .counterWritten host count life a)]⟩) }
  probe origin s :=
    let (a, t) := c.probe origin s.state
    (a, ⟨t, s.replies ++ [(task, .probed origin a)]⟩)

/-- Recorded collaborators answer as they do otherwise, and the call is put on record. -/
theorem Collaborators.recorded_gives {σ : Type} {c : Collaborators σ} {task : Nat}
    {s s' : Recorded σ} {r : Reply} (h : (c.recorded task).Gives s r s') :
    c.Gives s.state r s'.state ∧ s'.replies = s.replies ++ [(task, r)] := by
  cases r with
  | _ =>
    obtain ⟨rfl, rfl⟩ := Prod.mk.inj h
    exact ⟨rfl, rfl⟩

theorem Collaborators.recorded_givesAny {σ : Type} {c : Collaborators σ} {task : Nat}
    {s s' : Recorded σ} {r : Option Reply} (h : (c.recorded task).GivesAny s r s') :
    c.GivesAny s.state r s'.state ∧ s'.replies = s.replies ++ r.toList.map (task, ·) := by
  cases r with
  | none =>
    rw [GivesAny] at h
    subst h
    exact ⟨rfl, (List.append_nil _).symm⟩
  | some r => exact recorded_gives h

/-! ### Scenes -/

/-- An engine at work over shared stores. -/
structure Scene where
  /-- The engine. -/
  engine : Engine
  /-- The stores with the record of calls, and what has been measured. -/
  world : World (Recorded Shared)

/-- What can happen in a run. -/
structure Rules where
  /-- The conditions that may occur. -/
  may : Conditions → Prop
  /-- What others may make of the stores. -/
  others : Shared → Shared → Prop

namespace Scene

/-- The stores. -/
def shared (z : Scene) : Shared := z.world.state.state

/-- The calls and their answers, in their order. -/
def replies (z : Scene) : List (Nat × Reply) := z.world.state.replies

/-- What has been decided on the report of a task, unless that ended in an error. -/
def decision? (k : Nat) (z : Scene) : Option Decision :=
  (z.engine.tasks[k]?.bind Stage.verdict?).bind Except.toOption

/-- The scene when reports have come in and nothing has happened yet. -/
def start (guard : Settings.Guard) (urls : List String) (s : Shared) : Scene :=
  ⟨Engine.receive guard urls, { state := { state := s } }⟩

/-- At the start no report has been looked at. -/
theorem of_tasks_start {guard : Settings.Guard} {urls : List String} {s : Shared} {k : Nat}
    {g : Stage} (h : (start guard urls s).engine.tasks[k]? = some g) :
    ∃ url, urls[k]? = some url ∧ g = .received url := by
  simp only [start, Engine.receive, List.getElem?_map, Option.map_eq_some_iff] at h
  obtain ⟨url, hurl, rfl⟩ := h
  exact ⟨url, hurl, rfl⟩

/-- When all decisions are at their ends, so is each of them. -/
theorem eq_done_of_isDone {z : Scene} (hdone : z.engine.isDone) {k : Nat} {g : Stage}
    (hk : z.engine.tasks[k]? = some g) : ∃ v, g = .done v := by
  have hend : g.verdict?.isSome := List.all_eq_true.mp hdone g (List.mem_of_getElem? hk)
  cases g with
  | done v => exact ⟨v, rfl⟩
  | _ => cases hend

/-- A decision takes a step. -/
def step (x : Conditions) (task : Nat) (z : Scene) : Scene :=
  let (e, w) := z.engine.step (x.collaborators.recorded task) task z.world
  ⟨e, w⟩

/-- Somebody else changes the stores. -/
def put (s : Shared) (z : Scene) : Scene :=
  { z with world.state.state := s }

/-- One step of a run. -/
inductive Step (r : Rules) : Scene → Scene → Prop where
  /-- A decision takes a step. -/
  | task {z : Scene} {x : Conditions} (task : Nat) : r.may x → Step r z (z.step x task)
  /-- Somebody else changes the stores. -/
  | others {z : Scene} {s : Shared} : r.others z.shared s → Step r z (z.put s)

/-- A run leads from one scene to another. -/
abbrev Reaches (r : Rules) : Scene → Scene → Prop := Relation.ReflTransGen (Step r)

/-- In the step from `z` to `z'` the decision of a task goes from stage `g` to `g'`, with the answer
`r` if it makes a call. -/
structure Moves (x : Conditions) (task : Nat) (g : Stage) (r : Option Reply) (g' : Stage)
    (z z' : Scene) : Prop where
  /-- The task stood at `g`. -/
  before : z.engine.tasks[task]? = some g
  /-- It goes to `g'`. -/
  goes : g.Goes z.engine.guard task z.engine.locks r g' z'.engine.locks
  /-- The collaborators give the answer. -/
  gives : x.collaborators.GivesAny z.shared r z'.shared
  /-- The guard stays. -/
  guard : z'.engine.guard = z.engine.guard
  /-- No other task moves. -/
  tasks : z'.engine.tasks = z.engine.tasks.set task g'
  /-- The call is put on record. -/
  replies : z'.replies = z.replies ++ r.toList.map (task, ·)

/-- A step of a decision is a move, unless there is no such decision. -/
theorem step_eq_or_moves (x : Conditions) (task : Nat) (z : Scene) :
    z.step x task = z ∨ ∃ g r g', Moves x task g r g' z (z.step x task) := by
  cases hg : z.engine.tasks[task]? with
  | none =>
    refine .inl ?_
    simp only [step, Engine.step, hg]
  | some g =>
    obtain ⟨r, hgo, hgive⟩ := Stage.step_goes z.engine.guard (x.collaborators.recorded task) task g
      z.engine.locks z.world
    obtain ⟨hgive, hrec⟩ := Collaborators.recorded_givesAny hgive
    have hstep : z.step x task =
        ⟨{ z.engine with
            locks := (g.step z.engine.guard (x.collaborators.recorded task) task z.engine.locks
              z.world).2.1
            tasks := z.engine.tasks.set task (g.step z.engine.guard (x.collaborators.recorded task)
              task z.engine.locks z.world).1 },
          (g.step z.engine.guard (x.collaborators.recorded task) task z.engine.locks
            z.world).2.2⟩ := by
      simp only [step, Engine.step, hg]
    rw [hstep]
    exact .inr ⟨g, r, _, hg, hgo, hgive, rfl, rfl, hrec⟩

namespace Moves

variable {x : Conditions} {task : Nat} {g g' : Stage} {r : Option Reply} {z z' : Scene}

/-- The task that moved stands at its new stage. -/
theorem after (m : Moves x task g r g' z z') : z'.engine.tasks[task]? = some g' := by
  rw [m.tasks]
  exact List.getElem?_set_self (List.getElem?_eq_some_iff.mp m.before).1

/-- Whoever stands somewhere after a move has moved there or stood there before. -/
theorem cases_tasks (m : Moves x task g r g' z z') {k : Nat} {f : Stage}
    (h : z'.engine.tasks[k]? = some f) :
    k = task ∧ f = g' ∨ k ≠ task ∧ z.engine.tasks[k]? = some f := by
  rw [m.tasks] at h
  exact cases_getElem?_set m.before h

/-- The other tasks stand where they stood. -/
theorem getElem?_tasks_of_ne (m : Moves x task g r g' z z') {k : Nat} (hk : k ≠ task) :
    z'.engine.tasks[k]? = z.engine.tasks[k]? := by
  rw [m.tasks, List.getElem?_set_ne hk.symm]

/-- How many tasks are counted changes with the one that moves. -/
theorem countP_tasks (m : Moves x task g r g' z z') (p : Stage → Bool) :
    z'.engine.tasks.countP p + (p g).toNat = z.engine.tasks.countP p + (p g').toNat := by
  rw [m.tasks]
  exact countP_set_add m.before g' p

/-- What the decision of a task does, whatever the locks are. -/
theorem goes_any (m : Moves x task g r g' z z') :
    ∃ ls ls', g.Goes z.engine.guard task ls r g' ls' := ⟨_, _, m.goes⟩

/-- The call of a move, its answer, and the stores afterwards. -/
theorem gives_some {reply : Reply} (m : Moves x task g (some reply) g' z z') :
    x.collaborators.Gives z.shared reply z'.shared := m.gives

theorem shared_of_none (m : Moves x task g none g' z z') : z'.shared = z.shared := m.gives

/-- A move is one of the counting, or it stores nothing and at most begins to count. -/
theorem updates_or (m : Moves x task g r g' z z') :
    (∃ host lock u u' reply, g = .updating host lock u ∧ r = some reply ∧
      g' = .updating host lock u' ∧ u.Goes host reply u') ∨
    (z'.shared = z.shared ∧ ∀ {host lock u}, g' = .updating host lock u → u = .readThreshold) := by
  obtain ⟨ls, ls', hgo⟩ := m.goes_any
  cases hgo with
  | updates hu => exact .inl ⟨_, _, _, _, _, rfl, rfl, rfl, hu⟩
  | unlisted _ _ | listed _ _ | noList _ =>
    exact .inr ⟨(Conditions.configRead m.gives_some).1, fun h => by cases h⟩
  | guarded _ _ | notConfirmed _ =>
    exact .inr ⟨Conditions.probed m.gives_some, fun h => by cases h⟩
  | unguarded _ _ => exact .inr ⟨Conditions.probed m.gives_some, fun h => by cases h; rfl⟩
  | acquired _ => exact .inr ⟨m.shared_of_none, fun h => by cases h; rfl⟩
  | _ => exact .inr ⟨m.shared_of_none, fun h => by cases h⟩

/-- The counters change only when a decision writes its count. -/
theorem counters_eq_or (m : Moves x task g r g' z z') :
    z'.shared.counters = z.shared.counters ∨
    ∃ host lock n d a, g = .updating host lock (.writeCounter n d) ∧
      r = some (.counterWritten host n .unlimited a) ∧
      z.shared.counters.set x.now host n .unlimited = .ok z'.shared.counters := by
  rcases m.updates_or with ⟨host, lock, u, u', reply, rfl, rfl, rfl, hu⟩ | ⟨hsame, -⟩
  · have hgive := m.gives_some
    cases hu with
    | threshold _ | noThreshold _ | listed _ _ | unlisted _ _ | noList _ =>
      exact .inl (by rw [(Conditions.configRead hgive).1])
    | below _ _ | reached _ _ | overflow _ | noCounter =>
      exact .inl (by rw [(Conditions.counterRead hgive).1])
    | appended | notAppended => exact .inl (Conditions.configWritten hgive).1
    | counted | notCounted =>
      rcases (Conditions.counterWritten hgive).2.1 with hkept | hset
      · exact .inl hkept
      · exact .inr ⟨host, lock, _, _, _, rfl, rfl, hset⟩
  · exact .inl (by rw [hsame])

end Moves

/-- What every move and every change by others preserves holds in every scene that is reached. -/
theorem Reaches.invariant {rules : Rules} {z z' : Scene} (h : Reaches rules z z')
    (Inv : Scene → Prop) (hz : Inv z)
    (move : ∀ {x task g r g' y y'}, Reaches rules z y → Inv y → rules.may x →
      Moves x task g r g' y y' → Inv y')
    (others : ∀ {y s}, Inv y → rules.others y.shared s → Inv (y.put s)) : Inv z' := by
  induction h with
  | refl => exact hz
  | @tail y _ hy step ih =>
    cases step with
    | @task x task hx =>
      rcases y.step_eq_or_moves x task with heq | ⟨g, r, g', m⟩
      · rw [heq]; exact ih
      · exact move hy ih hx m
    | others hs => exact others ih hs

/-- What can happen under some rules can happen under rules that allow more. -/
theorem Reaches.mono {rules rules' : Rules} {z z' : Scene} (h : Reaches rules z z')
    (hmay : ∀ {x}, rules.may x → rules'.may x)
    (hothers : ∀ {s t}, rules.others s t → rules'.others s t) : Reaches rules' z z' := by
  refine Relation.ReflTransGen.mono (fun y y' step => ?_) _ _ h
  cases step with
  | task k hx => exact .task k (hmay hx)
  | others hs => exact .others (hothers hs)

/-- A run along a schedule, each step under its conditions. -/
def play (moves : List (Conditions × Nat)) (z : Scene) : Scene :=
  moves.foldl (fun z m => z.step m.1 m.2) z

/-- Steps of some tasks when all calls are answered and all probes time out. -/
def turns (tasks : List Nat) : List (Conditions × Nat) :=
  tasks.map fun task => ({}, task)

/-- Steps under which all is answered may be taken if that may occur. -/
theorem may_turns {rules : Rules} (h : rules.may {}) (tasks : List Nat) :
    ∀ m ∈ turns tasks, rules.may m.1 := by
  intro m hm
  obtain ⟨task, -, rfl⟩ := List.mem_map.mp hm
  exact h

theorem reaches_play {rules : Rules} (moves : List (Conditions × Nat))
    (h : ∀ m ∈ moves, rules.may m.1) (z : Scene) : Reaches rules z (z.play moves) := by
  induction moves generalizing z with
  | nil => exact .refl
  | cons m moves ih =>
    refine .head (.task m.2 (h m List.mem_cons_self)) ?_
    exact ih (fun m hm => h m (List.mem_cons_of_mem _ hm)) _

end Scene

end HostWatch
