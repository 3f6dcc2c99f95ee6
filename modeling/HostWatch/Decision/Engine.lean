import HostWatch.Decision.Stage

/-!
# The engine

An engine keeps the locks of its hostnames and the decisions that are under way, each
a task with a number. `Engine.step` lets one task take one step; a run is any
sequence of such steps, whichever tasks take them, and engines that share their
collaborators take turns in the same way.

Two ways of running are given: `Engine.decide` takes one report from beginning to
end, and `Engine.runRounds` gives the tasks their turns in rounds. In its turn a task
goes on until it is done, waits for a lock, or has made a call after which it pauses.
-/

namespace HostWatch

/-- An engine with the decisions that are under way. -/
structure Engine where
  /-- How decisions are guarded against each other. -/
  guard : Settings.Guard
  /-- The locks of the hostnames. -/
  locks : Locks := {}
  /-- The decisions, each at the place of its task's number. -/
  tasks : List Stage := []
  deriving Repr

namespace Engine

variable {σ : Type}

/-- An engine to which some reports have come in. -/
def receive (guard : Settings.Guard) (urls : List String) : Engine :=
  { guard, tasks := urls.map .received }

/-- Let a task take a step. -/
def step (c : Collaborators σ) (task : Nat) (e : Engine) (w : World σ) : Engine × World σ :=
  match e.tasks[task]? with
  | none => (e, w)
  | some stage =>
    let (stage, locks, w) := stage.step e.guard c task e.locks w
    ({ e with locks, tasks := e.tasks.set task stage }, w)

/-- Let a task take steps until it is done, waits, or has made a call that `pauses` names. -/
def turn (c : Collaborators σ) (pauses : Call → Bool) (task : Nat) :
    Nat → Engine → World σ → Engine × World σ
  | 0, e, w => (e, w)
  | fuel + 1, e, w =>
    match e.tasks[task]? with
    | none => (e, w)
    | some (.done _) => (e, w)
    | some stage =>
      let (e, w) := e.step c task w
      let waits := stage.isAcquiring && (e.tasks[task]?).any Stage.isAcquiring
      if waits || stage.call?.any pauses then (e, w)
      else turn c pauses task fuel e w

/-- Give each of some tasks its turn, each with collaborators of its own. -/
def round (c : Nat → Collaborators σ) (pauses : Call → Bool) (tasks : List Nat) (e : Engine)
    (w : World σ) : Engine × World σ :=
  tasks.foldl (fun (e, w) task => e.turn (c task) pauses task (Stage.rank (.received "") + 1) w)
    (e, w)

/-- Whether all decisions are at their end. -/
def isDone (e : Engine) : Bool :=
  e.tasks.all fun stage => stage.verdict?.isSome

/-- Go from round to round until all decisions are at their end. -/
def rounds (c : Nat → Collaborators σ) (pauses : Call → Bool) :
    Nat → Engine → World σ → Engine × World σ
  | 0, e, w => (e, w)
  | fuel + 1, e, w =>
    if e.isDone then (e, w)
    else
      let (e, w) := e.round c pauses (List.range e.tasks.length) w
      rounds c pauses fuel e w

/-- How many steps are left at most, not counting those spent waiting. -/
def rank (e : Engine) : Nat :=
  e.tasks.foldl (fun n stage => n + stage.rank) 0

/-- Run all tasks in rounds to their ends. -/
def runRounds (c : Nat → Collaborators σ) (pauses : Call → Bool) (e : Engine) (w : World σ) :
    Engine × World σ :=
  e.rounds c pauses (e.rank + 1) w

/-- Handle one report from beginning to end. -/
def decide (guard : Settings.Guard) (c : Collaborators σ) (url : String) (w : World σ) :
    Option Verdict × World σ :=
  let (e, w) := (receive guard [url]).runRounds (fun _ => c) (fun _ => false) w
  ((e.tasks[0]?).bind Stage.verdict?, w)

end Engine

end HostWatch
