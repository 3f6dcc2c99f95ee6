import HostWatch.Decision.Locks
import HostWatch.Decision.Update
import HostWatch.Settings.Basic
import HostWatch.Target

/-!
# The stages of a decision

A report is decided step by step: its URL is parsed, the list is looked up, the
origin is probed, and a confirmed timeout is counted, under the hostname's lock if
decisions are guarded per hostname. `Stage` names the points between two steps, and
`Stage.step` takes the next step, which makes at most one call to a collaborator or
one access to the lock table. Decisions that run at the same time take their steps
in any order.
-/

namespace HostWatch

/-- Where a decision stands. -/
inductive Stage where
  /-- The report has come in. -/
  | received (url : String)
  /-- About to look up the hostname. -/
  | readList (target : Target)
  /-- About to probe the origin. -/
  | probe (target : Target)
  /-- About to get a handle to the hostname's lock. -/
  | enter (host : String)
  /-- About to acquire the lock, or waiting for it. -/
  | acquire (host : String) (lock : Nat)
  /-- Counting the timeout, under a lock or without. -/
  | updating (host : String) (lock : Option Nat) (update : Update)
  /-- The lock has been released; about to give the handle back. -/
  | released (host : String) (lock : Nat) (verdict : Verdict)
  /-- About to take the lock out of the table if nobody else uses it. -/
  | dropped (host : String) (verdict : Verdict)
  /-- At the end. -/
  | done (verdict : Verdict)
  deriving Repr

/-- The kinds of calls that a decision makes. -/
inductive Call where
  /-- Read the list. -/
  | readList
  /-- Probe an origin. -/
  | probe
  /-- Read the threshold. -/
  | readThreshold
  /-- Read a counter. -/
  | readCounter
  /-- Write to the shared configuration. -/
  | writeConfig
  /-- Write a counter. -/
  | writeCounter
  deriving DecidableEq, Repr

namespace Stage

/-- The call that the next step makes, if it makes one. -/
def call? : Stage → Option Call
  | .readList _ => some .readList
  | .probe _ => some .probe
  | .updating _ _ .readThreshold => some .readThreshold
  | .updating _ _ (.readCounter _) => some .readCounter
  | .updating _ _ (.rereadList _) => some .readList
  | .updating _ _ (.writeList _ _) => some .writeConfig
  | .updating _ _ (.writeCounter _ _) => some .writeCounter
  | _ => none

/-- Whether the decision is about to acquire a lock or waiting for it. -/
def isAcquiring : Stage → Bool
  | .acquire _ _ => true
  | _ => false

/-- What the decision brought, if it is at its end. -/
def verdict? : Stage → Option Verdict
  | .done v => some v
  | _ => none

/-- Come to the end, where the outcome is counted. -/
def finish {σ : Type} (v : Verdict) (w : World σ) : Stage × World σ :=
  (.done v, w.count (.reports v.outcome))

/-- Parse the reported URL. -/
def parse {σ : Type} (url : String) (w : World σ) : Stage × World σ :=
  match Target.parse url with
  | .ok t => (.readList t, w)
  | .error e => finish (.error e) w

/-- Look up the hostname. -/
def lookUp {σ : Type} (c : Collaborators σ) (t : Target) (w : World σ) : Stage × World σ :=
  let (answer, s) := c.config.readList w.state
  let w := { w with state := s }
  match answer with
  | .error e => finish (.error (.config e)) w
  | .ok list =>
    if ForbiddenList.Listed list t.hostname then finish (.error (.alreadyListed t.hostname)) w
    else (.probe t, w)

/-- Probe the origin. -/
def confirm {σ : Type} (guard : Settings.Guard) (c : Collaborators σ) (t : Target) (w : World σ) :
    Stage × World σ :=
  let (result, s) := c.probe t.origin w.state
  let w := { w with state := s }.count (.probes result.outcome)
  match result.outcome with
  | .timedOut =>
    match guard with
    | .bestEffort => (.updating t.hostname none .readThreshold, w)
    | .perHostname => (.enter t.hostname, w)
  | outcome => finish (.ok (.notConfirmed outcome)) w

/-- Take the next step of a task's decision. -/
def step {σ : Type} (guard : Settings.Guard) (c : Collaborators σ) (task : Nat) (stage : Stage)
    (ls : Locks) (w : World σ) : Stage × Locks × World σ :=
  match stage with
  | .received url => let (g, w) := parse url w; (g, ls, w)
  | .readList t => let (g, w) := lookUp c t w; (g, ls, w)
  | .probe t => let (g, w) := confirm guard c t w; (g, ls, w)
  | .enter host => let (lock, ls) := ls.enter host; (.acquire host lock, ls, w)
  | .acquire host lock =>
    let (held, ls) := ls.acquire lock task
    (if held then .updating host (some lock) .readThreshold else .acquire host lock, ls, w)
  | .updating host lock (.done v) =>
    match lock with
    | none => let (g, w) := finish v w; (g, ls, w)
    | some lock => (.released host lock v, ls.release lock, w)
  | .updating host lock u => let (u, w) := u.step c host w; (.updating host lock u, ls, w)
  | .released host lock v => (.dropped host v, ls.dropHandle lock, w)
  | .dropped host v => let (g, w) := finish v w; (g, ls.removeUnused host, w)
  | .done v => (.done v, ls, w)

/-- How many steps are left at most, not counting those spent waiting. -/
def rank : Stage → Nat
  | .received _ => 14
  | .readList _ => 13
  | .probe _ => 12
  | .enter _ => 11
  | .acquire _ _ => 10
  | .updating _ _ u => 3 + u.rank
  | .released _ _ _ => 2
  | .dropped _ _ => 1
  | .done _ => 0

end Stage

end HostWatch
