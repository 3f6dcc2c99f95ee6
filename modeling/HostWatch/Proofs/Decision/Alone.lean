import HostWatch.Proofs.Decision.Moves

/-!
# A decision that nothing comes between

An engine takes one decision from beginning to end when no other is under way. The
decision then never waits: it makes the lock of its hostname, acquires it at once, and
takes it out of the table again (`Locks.Alone` says what the locks are at each stage), so
every step comes nearer to the end. `Engine.turn_alone` concludes that such a turn ends
with a verdict, and that whatever its moves preserve holds at the end.
-/

namespace HostWatch

/-- The locks are as a task at a stage leaves them if no other decision is under way. -/
def Locks.Alone (task : Nat) (ls : Locks) : Stage → Prop
  | .acquire host lock => ls.table = [(host, lock)] ∧ ls.locks[lock]? = some { handles := 1 }
  | .updating host (some lock) _ =>
    ls.table = [(host, lock)] ∧ ls.locks[lock]? = some { holder := some task, handles := 1 }
  | .released host lock _ => ls.table = [(host, lock)] ∧ ls.locks[lock]? = some { handles := 1 }
  | .dropped host _ => ∃ lock, ls.table = [(host, lock)] ∧ ls.locks[lock]? = some {}
  | _ => ls.table = []

namespace Locks

variable {guard : Settings.Guard} {task : Nat} {ls ls' : Locks} {g g' : Stage} {r : Option Reply}

theorem getElem?_modify_self {lock : Nat} {l : Lock} (f : Lock → Lock)
    (h : ls.locks[lock]? = some l) : (ls.modify lock f).locks[lock]? = some (f l) := by
  rw [modify, List.getElem?_modify, h]
  simp

/-- A lock that nobody holds or waits for is acquired. -/
theorem acquire_of_alone {host : String} {lock : Nat} (h : ls.Alone task (.acquire host lock)) :
    (ls.acquire lock task).1 = true ∧
      (ls.acquire lock task).2.Alone task (.updating host (some lock) .readThreshold) := by
  have hl := getElem?_modify_self (·.acquire task) h.2
  refine ⟨?_, h.1, hl⟩
  rw [acquire, hl]
  simp [Lock.acquire]

/-- A decision that is alone moves to where it is alone again. -/
theorem Alone.goes (h : ls.Alone task g) (hgo : g.Goes guard task ls r g' ls') :
    ls'.Alone task g' := by
  cases hgo with
  | @entered host ls =>
    have htable : ls.table = [] := h
    simp [enter, htable, Alone, Keyed.insert]
  | acquired _ => exact (acquire_of_alone h).2
  | waits hwait =>
    rw [(acquire_of_alone h).1] at hwait
    cases hwait
  | @updates host lock u u' r ls _ =>
    cases lock with
    | none => exact h
    | some lock => exact h
  | released => exact ⟨h.1, getElem?_modify_self Lock.release h.2⟩
  | dropped => exact ⟨_, h.1, getElem?_modify_self _ h.2⟩
  | removed =>
    obtain ⟨lock, htable, hl⟩ := h
    simp [removeUnused, htable, Keyed.get?_cons, hl, Keyed.erase, Alone]
  | _ => exact h

/-- A decision that is alone comes nearer to its end with every move. -/
theorem Alone.rank_lt (h : ls.Alone task g) (hgo : g.Goes guard task ls r g' ls')
    (hg : g.verdict? = none) : g'.rank < g.rank := by
  cases hgo with
  | waits hwait =>
    rw [(acquire_of_alone h).1] at hwait
    cases hwait
  | updates hu => cases hu <;> simp [Stage.rank, Update.rank]
  | rests => cases hg
  | _ => simp [Stage.rank, Update.rank]

end Locks

namespace Engine

variable {σ : Type} {c : Collaborators σ} {guard : Settings.Guard} {task : Nat}

/-- In a step of a task that stands at `g` its decision moves, with an answer of the
collaborators. -/
theorem step_eq {e : Engine} {g : Stage} (hg : e.tasks[task]? = some g) (w : World σ) :
    ∃ r g' ls w', e.step c task w = ({ e with locks := ls, tasks := e.tasks.set task g' }, w') ∧
      g.Goes e.guard task e.locks r g' ls ∧ c.GivesAny w.state r w'.state := by
  obtain ⟨r, hgo, hgive⟩ := Stage.step_goes e.guard c task g e.locks w
  refine ⟨r, _, _, _, ?_, hgo, hgive⟩
  simp only [step, hg]

/-- The turn of a task that is alone ends with a verdict, and what its moves preserve holds then. -/
theorem turn_alone {P : Stage → World σ → Prop}
    (goes : ∀ {g ls r g' ls'} {w w' : World σ}, P g w → g.Goes guard task ls r g' ls' →
      c.GivesAny w.state r w'.state → P g' w')
    {fuel : Nat} {e : Engine} {w : World σ} {g : Stage} (hguard : e.guard = guard)
    (hg : e.tasks[task]? = some g) (hl : e.locks.Alone task g) (hfuel : g.rank < fuel)
    (hP : P g w) :
    ∃ v e' w', e.turn c (fun _ => false) task fuel w = (e', w') ∧ e'.guard = guard ∧
      e'.tasks = e.tasks.set task (.done v) ∧ e'.locks.table = [] ∧ P (.done v) w' := by
  induction fuel generalizing e w g with
  | zero => exact absurd hfuel (Nat.not_lt_zero _)
  | succ fuel ih =>
    obtain ⟨r, g', ls, w', hstep, hgo, hgive⟩ := step_eq (c := c) hg w
    have hlt : task < e.tasks.length := (List.getElem?_eq_some_iff.mp hg).1
    have hself : (e.tasks.set task g')[task]? = some g' := List.getElem?_set_self hlt
    by_cases hdone : g.verdict? = none
    · have hl' := hl.goes hgo
      have hrank := hl.rank_lt hgo hdone
      have hwait : (g.isAcquiring && g'.isAcquiring) = false := by
        cases hgo with
        | waits hwait =>
          rw [(Locks.acquire_of_alone hl).1] at hwait
          cases hwait
        | _ => rfl
      have hgo' := hguard ▸ hgo
      obtain ⟨v, e', w'', hturn, hguard', htasks, htable, hend⟩ :=
        ih (e := { e with locks := ls, tasks := e.tasks.set task g' }) hguard hself hl'
          (by omega) (goes hP hgo' hgive)
      refine ⟨v, e', w'', ?_, hguard', ?_, htable, hend⟩
      · rw [turn]
        have hnone : g.call?.any (fun _ => false) = false := by cases g.call? <;> rfl
        cases g with
        | done v => cases hdone
        | _ => simp only [hg, hstep, hself, Option.any_some, hwait, hnone, Bool.or_self,
            Bool.false_eq_true, if_false, hturn]
      · rw [htasks, List.set_set]
    · cases g with
      | done v =>
        refine ⟨v, e, w, ?_, hguard, ?_, hl, hP⟩
        · simp only [turn, hg]
        · obtain ⟨_, heq⟩ := List.getElem?_eq_some_iff.mp hg
          rw [← heq, List.set_getElem_self]
      | _ => exact absurd rfl hdone

end Engine

end HostWatch
