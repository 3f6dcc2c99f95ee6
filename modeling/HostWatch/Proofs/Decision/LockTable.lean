import HostWatch.Proofs.Decision.Exclusion

/-!
# The lock table

`Locks.Fits` says why the locks that are in use are those in the table. It leaves open whether
the table may keep a lock that nobody uses: a decision gives its handle back in one step and
tries to take the lock out of the table in another, and whoever comes in between makes it fail.

Nothing is left behind because each lock in the table is tended (`Locks.Tended`): some decision
on its hostname has a handle to it or is still to try to take it out. A decision whose try fails
has met somebody else with a handle, and it is a handle of the same hostname, for no lock is in
the table under two of them. `Reaches.tidyLocks` puts both together: the section of a hostname has
one decision at most, all handles to its lock are to the lock in the table, and the table has no
lock for a hostname with which no decision is engaged.
-/

namespace HostWatch

/-- The hostname whose lock a decision is engaged with, from getting a handle to the lock to having
tried to take the lock out of the table. -/
def Stage.engaged? : Stage → Option String
  | .acquire host _ => some host
  | .updating host (some _) _ => some host
  | .released host _ _ => some host
  | .dropped host _ => some host
  | _ => none

/-- A decision with a handle is engaged with the lock of its hostname. -/
theorem Stage.engaged?_of_handle? {g : Stage} {host : String} {j : Nat}
    (hhost : g.host? = some host) (hj : g.handle? = some j) : g.engaged? = some host := by
  cases g with
  | acquire _ _ | released _ _ _ => exact hhost
  | updating _ lock _ =>
    cases hj
    exact hhost
  | _ => cases hj

/-- Nothing is stored where nothing is read under any key. -/
theorem Keyed.eq_nil_of_get? {α : Type} {m : Keyed α} (h : ∀ key, m.get? key = none) : m = [] := by
  cases m with
  | nil => rfl
  | cons e m =>
    obtain ⟨k, v⟩ := e
    have hk := h k
    rw [get?_cons, if_pos rfl] at hk
    cases hk

namespace Locks

/-- Each lock in the table is tended by a decision on its hostname. -/
structure Tended (ls : Locks) (tasks : List Stage) : Prop where
  /-- No lock is in the table under two hostnames. -/
  inj : ∀ {host host' j}, ls.table.get? host = some j → ls.table.get? host' = some j →
    host = host'
  /-- For each lock in the table a decision is engaged with it. -/
  engaged : ∀ {host j}, ls.table.get? host = some j →
    ∃ (k : Nat) (g : Stage), tasks[k]? = some g ∧ g.engaged? = some host

namespace Tended

variable {ls ls' : Locks} {tasks : List Stage} {task : Nat} {g g' : Stage}

/-- Who is engaged stays so when a decision moves that does not cease to be. -/
theorem engaged_set (hg : tasks[task]? = some g) {host : String}
    (hkeeps : g.engaged? = some host → g'.engaged? = some host)
    (h : ∃ (k : Nat) (f : Stage), tasks[k]? = some f ∧ f.engaged? = some host) :
    ∃ (k : Nat) (f : Stage), (tasks.set task g')[k]? = some f ∧ f.engaged? = some host := by
  obtain ⟨k, f, hk, hf⟩ := h
  by_cases heq : task = k
  · subst heq
    obtain rfl : f = g := Option.some.inj (hk.symm.trans hg)
    exact ⟨task, g', List.getElem?_set_self (List.getElem?_eq_some_iff.mp hg).1, hkeeps hf⟩
  · exact ⟨k, f, (List.getElem?_set_ne heq).trans hk, hf⟩

/-- A decision that is engaged stays so, and the table stays as it is. -/
theorem set (h : ls.Tended tasks) (hg : tasks[task]? = some g) (htable : ls'.table = ls.table)
    (hkeeps : ∀ host, g.engaged? = some host → g'.engaged? = some host) :
    ls'.Tended (tasks.set task g') where
  inj hj hj' := by
    rw [htable] at hj hj'
    exact h.inj hj hj'
  engaged hj := by
    rw [htable] at hj
    exact engaged_set hg (hkeeps _) (h.engaged hj)

/-- A decision becomes engaged with the lock in the table, or with a new one. -/
theorem enter {host : String} (h : ls.Tended tasks) (hfits : ls.Fits tasks)
    (hg : tasks[task]? = some (.enter host)) :
    (ls.enter host).2.Tended (tasks.set task (.acquire host (ls.enter host).1)) := by
  unfold Locks.enter
  cases hget : ls.table.get? host with
  | some j => exact h.set hg rfl (fun _ heq => by cases heq)
  | none =>
    -- the number of the new lock is above those of all locks in the table
    have hfresh : ∀ {key}, ls.table.get? key ≠ some ls.locks.length := fun hkey =>
      Nat.lt_irrefl _ (hfits.bound hkey)
    refine ⟨fun {key key' j} hj hj' => ?_, fun {key j} hj => ?_⟩
    · rw [Keyed.get?_insert] at hj hj'
      split_ifs at hj hj' with hkey hkey'
      · exact hkey.trans hkey'.symm
      · cases hj
        exact absurd hj' hfresh
      · cases hj'
        exact absurd hj hfresh
      · exact h.inj hj hj'
    · rw [Keyed.get?_insert] at hj
      split_ifs at hj with hkey
      · subst hkey
        exact ⟨task, _, List.getElem?_set_self (List.getElem?_eq_some_iff.mp hg).1, rfl⟩
      · exact engaged_set hg (fun heq => by cases heq) (h.engaged hj)

/-- As long as a lock in the table has a handle left, whoever has the handle is engaged with it. -/
theorem exists_handle {host : String} {j : Nat} {l : Lock} (h : ls.Tended tasks)
    (hfits : ls.Fits tasks) (hget : ls.table.get? host = some j) (hl : ls.locks[j]? = some l)
    (hleft : l.handles ≠ 0) :
    ∃ (k : Nat) (f : Stage), tasks[k]? = some f ∧ f.handle? = some j ∧ f.engaged? = some host := by
  rw [hfits.handles hl] at hleft
  obtain ⟨f, hf, hkeeps⟩ := List.countP_pos_iff.mp (Nat.pos_of_ne_zero hleft)
  have hhandle : f.handle? = some j := of_decide_eq_true hkeeps
  obtain ⟨k, hk⟩ := List.getElem?_of_mem hf
  -- the handle may be meant for another hostname, but the lock is in the table under one only
  obtain ⟨key, hhost, hkey⟩ := hfits.known hk hhandle
  obtain rfl := h.inj hget hkey
  exact ⟨k, f, hk, hhandle, Stage.engaged?_of_handle? hhost hhandle⟩

/-- A decision takes a lock out of the table, or leaves it to others that are engaged with it. -/
theorem removeUnused {host : String} {v : Verdict} (h : ls.Tended tasks) (hfits : ls.Fits tasks)
    (hg : tasks[task]? = some (.dropped host v)) :
    (ls.removeUnused host).Tended (tasks.set task (.done v)) := by
  have hothers : ∀ {key j}, ls.table.get? key = some j → key ≠ host →
      ∃ (k : Nat) (f : Stage), (tasks.set task (.done v))[k]? = some f ∧
        f.engaged? = some key := by
    intro key j hj hne
    refine engaged_set hg (fun heq => ?_) (h.engaged hj)
    exact absurd (Option.some.inj heq).symm hne
  unfold Locks.removeUnused
  cases hget : ls.table.get? host with
  | none =>
    refine ⟨h.inj, fun {key j} hj => hothers hj ?_⟩
    rintro rfl
    rw [hget] at hj
    cases hj
  | some j =>
    simp only
    split_ifs with hunused
    · refine ⟨fun {key key' i} hi hi' => ?_, fun {key i} hi => ?_⟩
      · rw [Keyed.get?_erase] at hi hi'
        split_ifs at hi hi'
        exact h.inj hi hi'
      · rw [Keyed.get?_erase] at hi
        split_ifs at hi with hkey
        exact hothers hi hkey
    · refine ⟨h.inj, fun {key i} hi => ?_⟩
      by_cases hkey : key = host
      · subst hkey
        have hl := List.getElem?_eq_getElem (hfits.bound hget)
        rw [hl, Option.all_some, decide_eq_true_eq] at hunused
        obtain ⟨k, f, hk, hhandle, hf⟩ := h.exists_handle hfits hget hl hunused
        have hne : task ≠ k := by
          rintro rfl
          rw [hg] at hk
          cases hk
          cases hhandle
        exact ⟨k, f, (List.getElem?_set_ne hne).trans hk, hf⟩
      · exact hothers hi hkey

/-- A move keeps the locks in the table tended. -/
theorem goes {guard : Settings.Guard} {r : Option Reply} (h : ls.Tended tasks)
    (hfits : ls.Fits tasks) (hg : tasks[task]? = some g) (hgo : g.Goes guard task ls r g' ls') :
    ls'.Tended (tasks.set task g') := by
  cases hgo with
  | entered => exact h.enter hfits hg
  | removed => exact h.removeUnused hfits hg
  | @updates _ lock _ _ _ _ _ => cases lock <;> exact h.set hg rfl (fun _ heq => heq)
  | acquired _ | waits _ | released | dropped => exact h.set hg rfl (fun _ heq => heq)
  | _ => exact h.set hg rfl (fun _ heq => by cases heq)

end Tended

end Locks

namespace Scene

variable {urls : List String} {z : Scene}

theorem tended_start (guard : Settings.Guard) (urls : List String) (s : Shared) :
    (start guard urls s).engine.locks.Tended (start guard urls s).engine.tasks where
  inj hj := by cases hj
  engaged hj := by cases hj

/-- In every run of a guarded engine the locks in the table are tended. -/
theorem Reaches.tended {rules : Rules} {s : Shared}
    (h : Reaches rules (start .perHostname urls s) z) :
    z.engine.locks.Tended z.engine.tasks := by
  refine h.invariant (fun y => y.engine.locks.Tended y.engine.tasks)
    (tended_start .perHostname urls s) ?_ (fun hy _ => hy)
  intro x task g r g' y y' hy htended _ m
  rw [m.tasks]
  exact htended.goes hy.guarded.fits m.before m.goes

/-- The lock table is safe to use, and has what is used only. -/
structure TidyLocks (z : Scene) : Prop where
  /-- One decision at most is in the section of a hostname. -/
  exclusive : ∀ {k k' : Nat} {host : String} {lock lock' : Option Nat} {u u' : Update},
    z.engine.tasks[k]? = some (.updating host lock u) →
    z.engine.tasks[k']? = some (.updating host lock' u') → k = k'
  /-- A decision in the section of a hostname holds the lock that the table has for it. -/
  holds : ∀ {k : Nat} {host : String} {lock : Option Nat} {u : Update},
    z.engine.tasks[k]? = some (.updating host lock u) →
    ∃ j l, lock = some j ∧ z.engine.locks.table.get? host = some j ∧
      z.engine.locks.locks[j]? = some l ∧ l.holder = some k
  /-- A handle that a decision on a hostname has is to the lock that the table has for it. -/
  shared : ∀ {k : Nat} {g : Stage} {host : String} {j : Nat}, z.engine.tasks[k]? = some g →
    g.host? = some host → g.handle? = some j → z.engine.locks.table.get? host = some j
  /-- The table has no lock for a hostname with whose lock no decision is engaged. -/
  cleared : ∀ {host : String}, (∀ g ∈ z.engine.tasks, g.engaged? ≠ some host) →
    z.engine.locks.table.get? host = none
  /-- When all decisions are at their ends the table is empty. -/
  empty : z.engine.isDone → z.engine.locks.table = []

/-- In every run of a guarded engine, over any number of reports and hostnames, under any
interleaving, and whichever calls fail, the section of a hostname has one decision at most, all
decisions with a handle to the lock of a hostname have it to the lock in the table, and the table
has no lock that no decision is engaged with. -/
theorem Reaches.tidyLocks {rules : Rules} {s : Shared}
    (h : Reaches rules (start .perHostname urls s) z) : z.TidyLocks := by
  have hguarded := h.guarded
  have hshared : ∀ {k : Nat} {g : Stage} {host : String} {j : Nat}, z.engine.tasks[k]? = some g →
      g.host? = some host → g.handle? = some j → z.engine.locks.table.get? host = some j := by
    intro k g host j hk hhost hj
    obtain ⟨key, hkey, hget⟩ := hguarded.fits.known hk hj
    rw [hhost, Option.some.injEq] at hkey
    rw [hkey]
    exact hget
  have hcleared : ∀ {host : String}, (∀ g ∈ z.engine.tasks, g.engaged? ≠ some host) →
      z.engine.locks.table.get? host = none := by
    intro host hnone
    rw [Option.eq_none_iff_forall_ne_some]
    intro j hj
    obtain ⟨k, g, hk, hg⟩ := h.tended.engaged hj
    exact hnone g (List.mem_of_getElem? hk) hg
  refine ⟨hguarded.exclusive, fun {k host lock u} hk => ?_, hshared, hcleared, fun hdone => ?_⟩
  · cases lock with
    | none => exact absurd hk hguarded.locked
    | some j =>
      have hget := hshared hk rfl rfl
      have hl := List.getElem?_eq_getElem (hguarded.fits.bound hget)
      exact ⟨j, _, rfl, hget, hl, hguarded.fits.holds hk hl⟩
  · refine Keyed.eq_nil_of_get? fun host => hcleared fun g hg => ?_
    obtain ⟨k, hk⟩ := List.getElem?_of_mem hg
    obtain ⟨v, rfl⟩ := eq_done_of_isDone hdone hk
    rintro ⟨⟩

/-- Reports of two hostnames. The first decision on the one leaves the lock to a second, which
waits for it and fails; a third gets its handle before the second has tried to take the lock out of
the table, and takes it out itself. Then a fourth comes and finds none. -/
def newcomers : Scene :=
  (start .perHostname ["http://[::1]/", "http://[::2]/", "http://[::1]/", "http://[::1]/",
    "http://[::1]/"] (.withThreshold 9)).play
    (turns [0, 0, 0, 0, 0, 2, 2, 2, 2, 2, 0, 0, 0, 0, 0, 0, 2] ++
      ({ reads := fun _ => .refused .transport }, 2) ::
        turns ([2, 2, 3, 3, 3, 3, 2] ++ List.replicate 7 3 ++ List.replicate 5 4 ++
          List.replicate 4 1))

theorem tidyLocks_newcomers :
    Reaches ⟨fun _ => True, fun _ _ => True⟩ (start .perHostname ["http://[::1]/",
      "http://[::2]/", "http://[::1]/", "http://[::1]/", "http://[::1]/"] (.withThreshold 9))
      newcomers ∧
    newcomers.TidyLocks ∧ newcomers.engine.locks.table = [("::1", 1), ("::2", 2)] ∧
    newcomers.engine.tasks.map (·.handle?) = [none, some 2, none, none, some 1] ∧
    newcomers.engine.tasks.map (·.verdict?.isSome) = [true, false, true, true, false] := by
  have hreach : Reaches ⟨fun _ => True, fun _ _ => True⟩ (start .perHostname ["http://[::1]/",
      "http://[::2]/", "http://[::1]/", "http://[::1]/", "http://[::1]/"] (.withThreshold 9))
      newcomers := reaches_play _ (fun _ _ => trivial) _
  exact ⟨hreach, hreach.tidyLocks, by decide +kernel⟩

end Scene

end HostWatch
