import HostWatch.Keyed

/-!
# Locks for hostnames

A task that works on a hostname gets the hostname's lock from a table, which makes it
if it is not there, and keeps a handle to it. It acquires the lock, which goes to
those who wait in the order of their coming, releases it, gives its handle back, and
last takes the lock out of the table if no handle to it is left.

Locks are told apart by number, so that a lock that was taken out of the table is
another one than the lock made for the same hostname later.
-/

namespace HostWatch

/-- A lock. -/
structure Lock where
  /-- The task that holds it. -/
  holder : Option Nat := none
  /-- The tasks that wait for it, the next one first. -/
  waiters : List Nat := []
  /-- How many tasks keep a handle to it. -/
  handles : Nat := 0
  deriving DecidableEq, Repr

/-- Hostnames with their locks. -/
structure Locks where
  /-- The number of the lock of each hostname that has one. -/
  table : Keyed Nat := []
  /-- All locks ever made, each at the place of its number. -/
  locks : List Lock := []
  deriving DecidableEq, Repr

namespace Lock

/-- Give the lock to a task, or let it wait. -/
def acquire (task : Nat) (l : Lock) : Lock :=
  if l.holder = some task ∨ task ∈ l.waiters then l
  else if l.holder = none then { l with holder := some task }
  else { l with waiters := l.waiters ++ [task] }

/-- Take the lock from its holder and give it to the one who has waited longest. -/
def release (l : Lock) : Lock :=
  { l with holder := l.waiters.head?, waiters := l.waiters.tail }

end Lock

namespace Locks

/-- Change a lock. -/
def modify (lock : Nat) (f : Lock → Lock) (ls : Locks) : Locks :=
  { ls with locks := ls.locks.modify lock f }

/-- Get a handle to the lock of a hostname, which is made if it is not there. -/
def enter (host : String) (ls : Locks) : Nat × Locks :=
  match ls.table.get? host with
  | some lock => (lock, ls.modify lock fun l => { l with handles := l.handles + 1 })
  | none =>
    let lock := ls.locks.length
    (lock, ⟨ls.table.insert host lock, ls.locks ++ [{ handles := 1 }]⟩)

/-- Let a task acquire a lock; says whether the task holds it then. -/
def acquire (lock task : Nat) (ls : Locks) : Bool × Locks :=
  let ls := ls.modify lock (·.acquire task)
  ((ls.locks[lock]?).any (·.holder = some task), ls)

/-- Release a lock. -/
def release (lock : Nat) (ls : Locks) : Locks :=
  ls.modify lock Lock.release

/-- Give a handle back. -/
def dropHandle (lock : Nat) (ls : Locks) : Locks :=
  ls.modify lock fun l => { l with handles := l.handles - 1 }

/-- Take the lock of a hostname out of the table if no handle to it is left. -/
def removeUnused (host : String) (ls : Locks) : Locks :=
  match ls.table.get? host with
  | none => ls
  | some lock =>
    if (ls.locks[lock]?).all (·.handles = 0) then { ls with table := ls.table.erase host } else ls

end Locks

end HostWatch
