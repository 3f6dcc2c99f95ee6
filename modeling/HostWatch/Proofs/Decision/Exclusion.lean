import HostWatch.Proofs.Decision.History

/-!
# Mutual exclusion by hostname

Where decisions are guarded per hostname, no two of them count timeouts of the same
hostname at the same time (`Reaches.exclusive`). Locks come and go with the tasks that
use them, so the invariant has to say why a lock that is in use is the one in the table
(`Locks.Fits`): a lock's handles are the tasks that keep one, a task with a handle has
the lock that the table gives for its hostname, and a task that counts under a lock
holds it. A lock is taken out of the table only when no handle to it is left, so whoever
comes later and finds none cannot meet anybody in the section that the old one guarded.
-/

namespace HostWatch

/-- The lock to which a decision has a handle. -/
def Stage.handle? : Stage → Option Nat
  | .acquire _ lock => some lock
  | .updating _ lock _ => lock
  | .released _ lock _ => some lock
  | _ => none

/-- Whether a decision has a handle to a lock. -/
def Stage.keeps (lock : Nat) (g : Stage) : Bool := g.handle? = some lock

theorem Stage.keeps_eq {g : Stage} {j : Nat} (h : g.handle? = some j) (i : Nat) :
    g.keeps i = decide (j = i) := by
  rw [keeps, h]
  simp only [Option.some.injEq]


namespace Lock

variable {l : Lock} {task k : Nat}

@[simp] theorem acquire_handles : (l.acquire task).handles = l.handles := by
  unfold acquire
  split_ifs <;> rfl

/-- Who holds a lock keeps it when another one comes. -/
theorem acquire_holder (h : l.holder = some k) : (l.acquire task).holder = some k := by
  unfold acquire
  split_ifs with h₁ h₂
  · exact h
  · rw [h] at h₂
    cases h₂
  · exact h

end Lock

namespace Locks

/-- The locks fit to the decisions that use them. -/
structure Fits (ls : Locks) (tasks : List Stage) : Prop where
  /-- A lock has as many handles as decisions keep. -/
  handles : ∀ {j : Nat} {l}, ls.locks[j]? = some l → l.handles = tasks.countP (Stage.keeps j)
  /-- A decision with a handle has it to the lock of its hostname. -/
  known : ∀ {k : Nat} {g j}, tasks[k]? = some g → g.handle? = some j →
    ∃ host, g.host? = some host ∧ ls.table.get? host = some j
  /-- The table gives locks that exist. -/
  bound : ∀ {host j}, ls.table.get? host = some j → j < ls.locks.length
  /-- A decision that counts under a lock holds it. -/
  holds : ∀ {k : Nat} {host j u l}, tasks[k]? = some (.updating host (some j) u) →
    ls.locks[j]? = some l → l.holder = some k

variable {ls : Locks} {tasks : List Stage} {task : Nat} {g g' : Stage}

theorem of_getElem?_modify {i j : Nat} {f : Lock → Lock} {l' : Lock}
    (h : (ls.modify j f).locks[i]? = some l') :
    ∃ l, ls.locks[i]? = some l ∧ l' = if i = j then f l else l := by
  simp only [modify, List.getElem?_modify, Option.map_eq_map, Option.map_eq_some_iff] at h
  obtain ⟨l, hl, rfl⟩ := h
  refine ⟨l, hl, ?_⟩
  by_cases hi : i = j
  · rw [if_pos hi, if_pos hi.symm]
  · rw [if_neg hi, if_neg (Ne.symm hi)]

namespace Fits

/-- A lock with a handle is in the table under the hostname of whoever keeps the handle, and it
exists. -/
theorem lt_of_handle (h : ls.Fits tasks) {k j : Nat} (hk : tasks[k]? = some g)
    (hj : g.handle? = some j) : j < ls.locks.length := by
  obtain ⟨host, -, hget⟩ := h.known hk hj
  exact h.bound hget

/-- A lock to which a decision has a handle counts that handle. -/
theorem handles_pos (h : ls.Fits tasks) {k j : Nat} {l : Lock} (hk : tasks[k]? = some g)
    (hj : g.handle? = some j) (hl : ls.locks[j]? = some l) : 0 < l.handles := by
  rw [h.handles hl, List.countP_pos_iff]
  exact ⟨g, List.mem_of_getElem? hk, decide_eq_true hj⟩

/-- A decision moves from `g` to `g'` while one lock changes. -/
theorem modify (h : ls.Fits tasks) (hg : tasks[task]? = some g) {j : Nat} {f : Lock → Lock}
    (hcount : ∀ l, ls.locks[j]? = some l →
      (f l).handles + (g.keeps j).toNat = l.handles + (g'.keeps j).toNat)
    (hothers : ∀ i, i ≠ j → g'.keeps i = g.keeps i)
    (hknown : ∀ i, g'.handle? = some i → ∃ host, g'.host? = some host ∧ ls.table.get? host = some i)
    (hstays : ∀ k l, k ≠ task → ls.locks[j]? = some l → l.holder = some k → (f l).holder = some k)
    (hholds : ∀ host i u l, g' = .updating host (some i) u →
      (ls.modify j f).locks[i]? = some l → l.holder = some task) :
    (ls.modify j f).Fits (tasks.set task g') where
  handles {i l'} hl' := by
    obtain ⟨l, hl, rfl⟩ := of_getElem?_modify hl'
    have hset := countP_set_add hg g' (Stage.keeps i)
    have hbefore := h.handles hl
    by_cases hi : i = j
    · subst hi
      have := hcount l hl
      rw [if_pos rfl]
      omega
    · rw [hothers i hi] at hset
      rw [if_neg hi]
      omega
  known hk hj := by
    rcases cases_getElem?_set hg hk with ⟨rfl, rfl⟩ | ⟨-, hk⟩
    · exact hknown _ hj
    · exact h.known hk hj
  bound hget := by
    rw [Locks.modify, List.length_modify]
    exact h.bound hget
  holds {k host i u l'} hk hl' := by
    rcases cases_getElem?_set hg hk with ⟨rfl, heq⟩ | ⟨hne, hk⟩
    · exact hholds host i u l' heq.symm hl'
    · obtain ⟨l, hl, rfl⟩ := of_getElem?_modify hl'
      by_cases hi : i = j
      · subst hi
        rw [if_pos rfl]
        exact hstays k l hne hl (h.holds hk hl)
      · rw [if_neg hi]
        exact h.holds hk hl

/-- A decision moves from `g` to `g'` while no lock changes. -/
theorem set (h : ls.Fits tasks) (hg : tasks[task]? = some g) (hhandle : g'.handle? = g.handle?)
    (hhost : g'.handle? = none ∨ g'.host? = g.host?)
    (hholds : ∀ host i u, g' = .updating host (some i) u → ∃ u', g = .updating host (some i) u') :
    ls.Fits (tasks.set task g') := by
  have hsame : ls.modify 0 id = ls := by simp [Locks.modify, List.modify_id]
  rw [← hsame]
  refine h.modify hg ?_ ?_ ?_ ?_ ?_
  · intro l _
    simp only [Stage.keeps, hhandle, id_eq]
  · intro i _
    simp only [Stage.keeps, hhandle]
  · intro i hi
    rcases hhost with hnone | hhost
    · rw [hnone] at hi
      cases hi
    · rw [hhost]
      exact h.known hg (hhandle.symm.trans hi)
  · exact fun k l _ _ hk => hk
  · intro host i u l heq hl
    obtain ⟨u', rfl⟩ := hholds host i u heq
    rw [hsame] at hl
    exact h.holds hg hl

/-- A decision gets a handle. -/
theorem enter {host : String} (h : ls.Fits tasks) (hg : tasks[task]? = some (.enter host)) :
    (ls.enter host).2.Fits (tasks.set task (.acquire host (ls.enter host).1)) := by
  unfold Locks.enter
  cases hget : ls.table.get? host with
  | some j =>
    simp only
    refine h.modify hg ?_ ?_ ?_ ?_ ?_
    · intro l _
      simp [Stage.keeps, Stage.handle?]
    · intro i hi
      simp [Stage.keeps, Stage.handle?, hi.symm]
    · intro i hi
      cases hi
      exact ⟨host, rfl, hget⟩
    · exact fun k l _ _ hk => hk
    · intro _ _ _ _ heq
      cases heq
  | none =>
    simp only
    refine ⟨?_, ?_, ?_, ?_⟩
    · intro i l hl
      have hset := countP_set_add hg (.acquire host ls.locks.length) (Stage.keeps i)
      have hzero : (Stage.enter host).keeps i = false := rfl
      rw [hzero, Stage.keeps_eq rfl] at hset
      rcases Nat.lt_or_ge i ls.locks.length with hi | hi
      · rw [List.getElem?_append_left hi] at hl
        rw [decide_eq_false (Nat.ne_of_gt hi)] at hset
        have hbefore := h.handles hl
        omega
      · obtain ⟨hlt, -⟩ := List.getElem?_eq_some_iff.mp hl
        rw [List.length_append, List.length_singleton] at hlt
        obtain rfl : i = ls.locks.length := by omega
        rw [List.getElem?_append_right hi, Nat.sub_self, List.getElem?_cons_zero,
          Option.some.injEq] at hl
        subst hl
        -- nobody has had a handle to a lock that did not exist
        have hnone : tasks.countP (Stage.keeps ls.locks.length) = 0 := by
          rw [List.countP_eq_zero]
          intro f hf hkeeps
          obtain ⟨k, hk⟩ := List.getElem?_of_mem hf
          exact absurd (h.lt_of_handle hk (of_decide_eq_true hkeeps)) (Nat.lt_irrefl _)
        rw [decide_eq_true rfl] at hset
        simp only [Bool.toNat_true, Bool.toNat_false] at hset ⊢
        omega
    · intro k f j hk hj
      rcases cases_getElem?_set hg hk with ⟨rfl, rfl⟩ | ⟨-, hk⟩
      · cases hj
        exact ⟨host, rfl, by rw [Keyed.get?_insert, if_pos rfl]⟩
      · obtain ⟨key, hkey, hfind⟩ := h.known hk hj
        have hne : key ≠ host := by
          rintro rfl
          rw [hget] at hfind
          cases hfind
        exact ⟨key, hkey, by rw [Keyed.get?_insert, if_neg hne, hfind]⟩
    · intro key j hj
      rw [List.length_append, List.length_singleton]
      rw [Keyed.get?_insert] at hj
      split_ifs at hj
      · cases hj
        exact Nat.lt_succ_self _
      · exact Nat.lt_succ_of_lt (h.bound hj)
    · intro k key j u l hk hl
      rcases cases_getElem?_set hg hk with ⟨-, heq⟩ | ⟨-, hk⟩
      · cases heq
      · rw [List.getElem?_append_left (h.lt_of_handle hk rfl)] at hl
        exact h.holds hk hl

/-- A decision acquires the lock to which it has a handle, or waits for it. -/
theorem acquire {host : String} {j : Nat} (h : ls.Fits tasks)
    (hg : tasks[task]? = some (.acquire host j)) (hhandle : g'.handle? = some j)
    (hhost : g'.host? = some host)
    (hholds : ∀ key i u, g' = .updating key (some i) u → (ls.acquire j task).1 = true) :
    (ls.acquire j task).2.Fits (tasks.set task g') := by
  refine h.modify hg ?_ ?_ ?_ ?_ ?_
  · intro l _
    rw [Lock.acquire_handles, Stage.keeps_eq hhandle, Stage.keeps_eq (g := .acquire host j) rfl]
  · intro i _
    rw [Stage.keeps_eq hhandle, Stage.keeps_eq (g := .acquire host j) rfl]
  · intro i hi
    rw [hhandle] at hi
    cases hi
    obtain ⟨key, hkey, hfind⟩ := h.known hg rfl
    exact ⟨key, hhost.trans hkey, hfind⟩
  · intro k l _ _ hk
    exact Lock.acquire_holder hk
  · intro key i u l heq hl
    have hheld := hholds key i u heq
    rw [heq] at hhandle
    cases hhandle
    simp only [Locks.acquire, hl, Option.any_some, decide_eq_true_eq] at hheld
    exact hheld

/-- A decision releases the lock that it holds. -/
theorem release {host : String} {j : Nat} {v : Verdict} (h : ls.Fits tasks)
    (hg : tasks[task]? = some (.updating host (some j) (.done v))) :
    (ls.release j).Fits (tasks.set task (.released host j v)) := by
  refine h.modify hg ?_ ?_ ?_ ?_ ?_
  · intro l _
    rfl
  · intro i _
    rfl
  · intro i hi
    obtain ⟨key, hkey, hfind⟩ := h.known hg (j := i) hi
    exact ⟨key, hkey, hfind⟩
  · intro k l hne hl hk
    rw [h.holds hg hl, Option.some.injEq] at hk
    exact absurd hk.symm hne
  · intro _ _ _ _ heq
    cases heq

/-- A decision gives its handle back. -/
theorem dropHandle {host : String} {j : Nat} {v : Verdict} (h : ls.Fits tasks)
    (hg : tasks[task]? = some (.released host j v)) :
    (ls.dropHandle j).Fits (tasks.set task (.dropped host v)) := by
  refine h.modify hg ?_ ?_ ?_ ?_ ?_
  · intro l hl
    have hpos := h.handles_pos hg rfl hl
    simp only [Stage.keeps, Stage.handle?, decide_true, Bool.toNat_true]
    simp only [reduceCtorEq, decide_false, Bool.toNat_false]
    omega
  · intro i hi
    simp [Stage.keeps, Stage.handle?, hi.symm]
  · intro i hi
    cases hi
  · exact fun k l _ _ hk => hk
  · intro _ _ _ _ heq
    cases heq

/-- A lock without handles is taken out of the table. -/
theorem removeUnused (h : ls.Fits tasks) (host : String) : (ls.removeUnused host).Fits tasks := by
  unfold Locks.removeUnused
  cases hget : ls.table.get? host with
  | none => exact h
  | some j =>
    simp only
    split_ifs with hunused
    · refine ⟨h.handles, ?_, ?_, h.holds⟩
      · intro k f i hk hi
        obtain ⟨key, hkey, hfind⟩ := h.known hk hi
        refine ⟨key, hkey, ?_⟩
        rw [Keyed.get?_erase, if_neg, hfind]
        -- whoever is left with a handle to the lock counts as one
        rintro rfl
        rw [hget, Option.some.injEq] at hfind
        subst hfind
        have hl := List.getElem?_eq_getElem (h.bound hget)
        have hpos := h.handles_pos hk hi hl
        rw [hl, Option.all_some, decide_eq_true_eq] at hunused
        omega
      · intro key i hi
        rw [Keyed.get?_erase] at hi
        split_ifs at hi
        exact h.bound hi
    · exact h

/-- A move keeps the locks fitting. -/
theorem goes {guard : Settings.Guard} {ls' : Locks} {r : Option Reply} (h : ls.Fits tasks)
    (hg : tasks[task]? = some g) (hgo : g.Goes guard task ls r g' ls') :
    ls'.Fits (tasks.set task g') := by
  cases hgo with
  | entered => exact h.enter hg
  | acquired hheld => exact h.acquire hg rfl rfl (fun _ _ _ _ => hheld)
  | waits _ => exact h.acquire hg rfl rfl (fun _ _ _ heq => by cases heq)
  | updates _ => exact h.set hg rfl (.inr rfl) (fun _ _ _ heq => by cases heq; exact ⟨_, rfl⟩)
  | released => exact h.release hg
  | dropped => exact h.dropHandle hg
  | removed =>
    refine Fits.removeUnused ?_ _
    exact h.set hg rfl (.inl rfl) (fun _ _ _ heq => by cases heq)
  | _ => exact h.set hg rfl (.inl rfl) (fun _ _ _ heq => by cases heq)

/-- No two decisions count timeouts of one hostname under a lock. -/
theorem exclusive (h : ls.Fits tasks) {k k' j j' : Nat} {host : String} {u u' : Update}
    (hk : tasks[k]? = some (.updating host (some j) u))
    (hk' : tasks[k']? = some (.updating host (some j') u')) : k = k' := by
  obtain ⟨_, ⟨⟩, hget⟩ := h.known hk rfl
  obtain ⟨_, ⟨⟩, hget'⟩ := h.known hk' rfl
  obtain rfl : j = j' := Option.some.inj (hget.symm.trans hget')
  have hl := List.getElem?_eq_getElem (h.bound hget)
  exact Option.some.inj ((h.holds hk hl).symm.trans (h.holds hk' hl))

end Fits

end Locks

/-! ### Runs -/

namespace Scene

/-- The locks fit to the decisions, and every decision that counts has a lock. -/
structure Guarded (z : Scene) : Prop where
  /-- The locks fit to the decisions. -/
  fits : z.engine.locks.Fits z.engine.tasks
  /-- Every decision that counts has a lock. -/
  locked : ∀ {k : Nat} {host u}, z.engine.tasks[k]? ≠ some (.updating host none u)

variable {guard : Settings.Guard} {urls : List String} {z z' : Scene}

theorem guarded_start (guard : Settings.Guard) (urls : List String) (s : Shared) :
    (start guard urls s).Guarded where
  fits :=
    { handles := fun hl => by cases hl
      known := fun hk hj => by
        obtain ⟨url, -, rfl⟩ := of_tasks_start hk
        cases hj
      bound := fun hget => by cases hget
      holds := fun hk _ => by
        obtain ⟨url, -, heq⟩ := of_tasks_start hk
        cases heq }
  locked h := by
    obtain ⟨url, -, heq⟩ := of_tasks_start h
    cases heq

theorem Guarded.moves {x : Conditions} {task : Nat} {g g' : Stage} {r : Option Reply}
    (h : z.Guarded) (hguard : z.engine.guard = .perHostname) (m : Moves x task g r g' z z') :
    z'.Guarded where
  fits := by
    rw [m.tasks]
    exact h.fits.goes m.before m.goes
  locked {k host u} hk := by
    rcases m.cases_tasks hk with ⟨rfl, heq⟩ | ⟨-, hk⟩
    · obtain ⟨ls, ls', hgo⟩ := m.goes_any
      have hbefore := m.before
      cases hgo with
      | unguarded hbest _ =>
        rw [hguard] at hbest
        cases hbest
      | updates _ => cases heq; exact h.locked hbefore
      | _ => cases heq
    · exact h.locked hk

/-- The locks serve all decisions of a guarded engine. -/
theorem Reaches.guarded {rules : Rules} {s : Shared}
    (h : Reaches rules (start .perHostname urls s) z) : z.Guarded :=
  h.invariant Guarded (guarded_start .perHostname urls s)
    (fun hy hg _ m => hg.moves hy.traced.guard m) (fun hg _ => ⟨hg.fits, hg.locked⟩)

/-- No two decisions count timeouts of one hostname at the same time. -/
theorem Guarded.exclusive (h : z.Guarded) {k k' : Nat} {host : String} {lock lock' : Option Nat}
    {u u' : Update} (hk : z.engine.tasks[k]? = some (.updating host lock u))
    (hk' : z.engine.tasks[k']? = some (.updating host lock' u')) : k = k' := by
  cases lock with
  | none => exact absurd hk h.locked
  | some j =>
    cases lock' with
    | none => exact absurd hk' h.locked
    | some j' => exact h.fits.exclusive hk hk'

end Scene

end HostWatch
