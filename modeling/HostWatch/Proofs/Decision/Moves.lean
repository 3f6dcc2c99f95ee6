import HostWatch.Decision.Engine
import Mathlib.Tactic.SplitIfs

/-!
# The moves of a decision

A step of a decision makes at most one call, and where the decision stands afterwards
depends on the answer alone. `Stage.Goes` says so as a relation: from each stage, which
call is made, and for each answer which stage follows. `Stage.step_goes` proves that a
step of the engine is such a move with an answer that the collaborators give at that
moment (`Collaborators.Gives`); from there on no proof looks into the steps again.
-/

namespace HostWatch

/-! ### Lists of tasks -/

section Tasks

variable {α : Type} {tasks : List α} {task : Nat} {g g' : α}

/-- Whoever stands somewhere after a task was set is that task, or stood there before. -/
theorem cases_getElem?_set (hg : tasks[task]? = some g) {k : Nat} {f : α}
    (h : (tasks.set task g')[k]? = some f) :
    k = task ∧ f = g' ∨ k ≠ task ∧ tasks[k]? = some f := by
  have hlt : task < tasks.length := (List.getElem?_eq_some_iff.mp hg).1
  rw [List.getElem?_set] at h
  by_cases hk : task = k
  · rw [if_pos hk, if_pos hlt, Option.some.injEq] at h
    exact .inl ⟨hk.symm, h.symm⟩
  · rw [if_neg hk] at h
    exact .inr ⟨Ne.symm hk, h⟩

/-- Where no task is to be counted none is. -/
theorem countP_eq_zero {p : α → Bool} (h : ∀ {k : Nat} {f : α}, tasks[k]? = some f → p f = false) :
    tasks.countP p = 0 := by
  rw [List.countP_eq_zero]
  intro f hf
  obtain ⟨k, hk⟩ := List.getElem?_of_mem hf
  rw [h hk]
  exact Bool.false_ne_true

/-- How many tasks are counted changes with the one that is set. -/
theorem countP_set_add (hg : tasks[task]? = some g) (g' : α) (p : α → Bool) :
    (tasks.set task g').countP p + (p g).toNat = tasks.countP p + (p g').toNat := by
  obtain ⟨hlt, heq⟩ := List.getElem?_eq_some_iff.mp hg
  have hle : (if p g then 1 else 0) ≤ tasks.countP p := by
    rw [← heq]
    exact List.boole_getElem_le_countP hlt
  rw [List.countP_set hlt, heq]
  generalize p g = before, p g' = after at hle ⊢
  cases before <;> cases after <;>
    simp only [Bool.toNat_true, Bool.toNat_false, if_true, if_false, Bool.false_eq_true]
      at hle ⊢ <;>
    omega

end Tasks

/-! ### Lists that grow at their end -/

/-- A place in a list that has grown by one is its end, or a place in the list before. -/
theorem eq_concat_cases {α : Type} {xs before after : List α} {x y : α}
    (h : xs ++ [x] = before ++ y :: after) :
    (xs = before ∧ x = y ∧ after = []) ∨
      ∃ after', after = after' ++ [x] ∧ xs = before ++ y :: after' := by
  rcases List.eq_nil_or_concat after with rfl | ⟨after', z, rfl⟩
  · obtain ⟨hbefore, hlast⟩ := List.append_inj' h rfl
    cases hlast
    exact .inl ⟨hbefore, rfl, rfl⟩
  · rw [List.concat_eq_append, ← List.cons_append, ← List.append_assoc] at h
    obtain ⟨hbefore, hlast⟩ := List.append_inj' h rfl
    cases hlast
    exact .inr ⟨after', List.concat_eq_append, hbefore⟩

/-! ### Calls -/

/-- A call to a collaborator and its answer. -/
inductive Reply where
  /-- Octets of the shared configuration were read. -/
  | configRead (key : String) (answer : Except ConfigError Bytes)
  /-- Octets were written to the shared configuration. -/
  | configWritten (key : String) (value : Bytes) (answer : Except ConfigError Unit)
  /-- A counter was read. -/
  | counterRead (host : String) (answer : Except CounterError Int64)
  /-- A counter was written. -/
  | counterWritten (host : String) (count : Int64) (life : Lifetime)
      (answer : Except CounterError Unit)
  /-- An origin was probed. -/
  | probed (origin : String) (result : ProbeResult)

namespace Collaborators

variable {σ : Type}

/-- In state `s` the call has the answer, and `s'` is the state afterwards. -/
def Gives (c : Collaborators σ) (s : σ) : Reply → σ → Prop
  | .configRead key answer, s' => c.config.get key s = (answer, s')
  | .configWritten key value answer, s' => c.config.set key value s = (answer, s')
  | .counterRead host answer, s' => c.counters.get host s = (answer, s')
  | .counterWritten host count life answer, s' => c.counters.set host count life s = (answer, s')
  | .probed origin result, s' => c.probe origin s = (result, s')

/-- The call, if one is made, has the answer; without a call the state stays as it is. -/
def GivesAny (c : Collaborators σ) (s : σ) : Option Reply → σ → Prop
  | some r, s' => c.Gives s r s'
  | none, s' => s' = s

end Collaborators

/-! ### Counting a confirmed timeout -/

/-- `Goes host u r u'`: from `u`, a call with answer `r` leads to `u'`. -/
inductive Update.Goes (host : String) : Update → Reply → Update → Prop where
  /-- The threshold is known. -/
  | threshold {a t} : Threshold.ofAnswer a = .ok t →
      Goes host .readThreshold (.configRead thresholdKey a) (.readCounter t)
  /-- The threshold cannot be read. -/
  | noThreshold {a e} : Threshold.ofAnswer a = .error e →
      Goes host .readThreshold (.configRead thresholdKey a) (.done (.error (.config e)))
  /-- The count is below the threshold. -/
  | below {t n count} : nextCount? n = some count → count < t →
      Goes host (.readCounter t) (.counterRead host (.ok n))
        (.writeCounter count (.watched count t))
  /-- The count reaches the threshold. -/
  | reached {t n count} : nextCount? n = some count → ¬ count < t →
      Goes host (.readCounter t) (.counterRead host (.ok n)) (.rereadList count)
  /-- The counter is as large as it can be. -/
  | overflow {t n} : nextCount? n = none →
      Goes host (.readCounter t) (.counterRead host (.ok n))
        (.done (.error (.counters (.overflow host))))
  /-- The counter cannot be read. -/
  | noCounter {t e} :
      Goes host (.readCounter t) (.counterRead host (.error e)) (.done (.error (.counters e)))
  /-- The hostname has been listed meanwhile. -/
  | listed {n a l} : ForbiddenList.ofAnswer a = .ok l → ForbiddenList.Listed l host →
      Goes host (.rereadList n) (.configRead forbiddenKey a) (.writeCounter n (.alreadyListed n))
  /-- The hostname is still not listed. -/
  | unlisted {n a l} : ForbiddenList.ofAnswer a = .ok l → ¬ ForbiddenList.Listed l host →
      Goes host (.rereadList n) (.configRead forbiddenKey a) (.writeList n l)
  /-- The list cannot be read again. -/
  | noList {n a e} : ForbiddenList.ofAnswer a = .error e →
      Goes host (.rereadList n) (.configRead forbiddenKey a) (.done (.error (.config e)))
  /-- The longer list is written. -/
  | appended {n l} :
      Goes host (.writeList n l)
        (.configWritten forbiddenKey (ForbiddenList.encode (l ++ [host])) (.ok ()))
        (.writeCounter n (.blacklisted n))
  /-- The longer list cannot be written. -/
  | notAppended {n l e} :
      Goes host (.writeList n l)
        (.configWritten forbiddenKey (ForbiddenList.encode (l ++ [host])) (.error e))
        (.done (.error (.config e)))
  /-- The counter is written. -/
  | counted {n d} :
      Goes host (.writeCounter n d) (.counterWritten host n .unlimited (.ok ())) (.done (.ok d))
  /-- The counter cannot be written. -/
  | notCounted {n d e} :
      Goes host (.writeCounter n d) (.counterWritten host n .unlimited (.error e))
        (.done (.error (.counters e)))

variable {σ : Type}

/-- Unless it is at its end, a step of the counting is a move. -/
theorem Update.step_goes (c : Collaborators σ) (host : String) (u : Update) (w : World σ)
    (hu : ∀ v, u ≠ .done v) :
    ∃ r, Goes host u r (u.step c host w).1 ∧ c.Gives w.state r (u.step c host w).2.state := by
  cases u with
  | readThreshold =>
    refine ⟨.configRead thresholdKey (c.config.get thresholdKey w.state).1, ?_, rfl⟩
    simp only [step, ConfigAccess.readThreshold]
    split
    · next h => exact .threshold h
    · next h => exact .noThreshold h
  | readCounter t =>
    refine ⟨.counterRead host (c.counters.get host w.state).1, ?_, rfl⟩
    simp only [step, weigh]
    split
    · next h => rw [h]; exact .noCounter
    · next h =>
      rw [h]
      split
      · next hn => exact .overflow hn
      · next hn =>
        split_ifs with hlt
        · exact .below hn hlt
        · exact .reached hn hlt
  | rereadList n =>
    refine ⟨.configRead forbiddenKey (c.config.get forbiddenKey w.state).1, ?_, rfl⟩
    simp only [step, ConfigAccess.readList, checkList]
    split
    · next h => exact .noList h
    · next h =>
      split_ifs with hl
      · exact .listed h hl
      · exact .unlisted h hl
  | writeList n l =>
    have hw : c.config.writeList (l ++ [host]) w.state =
        c.config.set forbiddenKey (ForbiddenList.encode (l ++ [host])) w.state := rfl
    refine ⟨.configWritten forbiddenKey (ForbiddenList.encode (l ++ [host]))
      (c.config.set forbiddenKey (ForbiddenList.encode (l ++ [host])) w.state).1, ?_, ?_⟩
    · simp only [step, hw]
      split
      · next h => rw [h]; exact .appended
      · next h => rw [h]; exact .notAppended
    · simp only [step, hw]
      split
      · next h => rw [h]; exact h
      · next h => rw [h]; exact h
  | writeCounter n d =>
    refine ⟨.counterWritten host n .unlimited (c.counters.set host n .unlimited w.state).1, ?_, rfl⟩
    simp only [step]
    split
    · next h => rw [h]; exact .counted
    · next h => rw [h]; exact .notCounted
  | done v => exact absurd rfl (hu v)

/-! ### Stages -/

/-- `Goes guard task g ls r g' ls'`: the decision of a task goes from stage `g` to `g'`, with the
answer `r` if it makes a call, and the locks change from `ls` to `ls'`. -/
inductive Stage.Goes (guard : Settings.Guard) (task : Nat) :
    Stage → Locks → Option Reply → Stage → Locks → Prop where
  /-- The URL names a host. -/
  | parsed {url t ls} : Target.parse url = .ok t →
      Goes guard task (.received url) ls none (.readList t) ls
  /-- The URL names no host. -/
  | malformed {url e ls} : Target.parse url = .error e →
      Goes guard task (.received url) ls none (.done (.error e)) ls
  /-- The hostname is not listed. -/
  | unlisted {t a l ls} : ForbiddenList.ofAnswer a = .ok l → ¬ ForbiddenList.Listed l t.hostname →
      Goes guard task (.readList t) ls (some (.configRead forbiddenKey a)) (.probe t) ls
  /-- The hostname is listed already. -/
  | listed {t a l ls} : ForbiddenList.ofAnswer a = .ok l → ForbiddenList.Listed l t.hostname →
      Goes guard task (.readList t) ls (some (.configRead forbiddenKey a))
        (.done (.error (.alreadyListed t.hostname))) ls
  /-- The list cannot be read. -/
  | noList {t a e ls} : ForbiddenList.ofAnswer a = .error e →
      Goes guard task (.readList t) ls (some (.configRead forbiddenKey a))
        (.done (.error (.config e))) ls
  /-- The timeout is confirmed, and decisions are not guarded. -/
  | unguarded {t r ls} : guard = .bestEffort → r.outcome = .timedOut →
      Goes guard task (.probe t) ls (some (.probed t.origin r))
        (.updating t.hostname none .readThreshold) ls
  /-- The timeout is confirmed, and decisions are guarded by hostname. -/
  | guarded {t r ls} : guard = .perHostname → r.outcome = .timedOut →
      Goes guard task (.probe t) ls (some (.probed t.origin r)) (.enter t.hostname) ls
  /-- The timeout is not confirmed. -/
  | notConfirmed {t r ls} : r.outcome ≠ .timedOut →
      Goes guard task (.probe t) ls (some (.probed t.origin r))
        (.done (.ok (.notConfirmed r.outcome))) ls
  /-- The task has a handle to its hostname's lock. -/
  | entered {host ls} :
      Goes guard task (.enter host) ls none (.acquire host (ls.enter host).1) (ls.enter host).2
  /-- The task holds the lock. -/
  | acquired {host lock ls} : (ls.acquire lock task).1 = true →
      Goes guard task (.acquire host lock) ls none (.updating host (some lock) .readThreshold)
        (ls.acquire lock task).2
  /-- The task waits for the lock. -/
  | waits {host lock ls} : (ls.acquire lock task).1 = false →
      Goes guard task (.acquire host lock) ls none (.acquire host lock) (ls.acquire lock task).2
  /-- The counting goes on. -/
  | updates {host lock u u' r ls} : u.Goes host r u' →
      Goes guard task (.updating host lock u) ls (some r) (.updating host lock u') ls
  /-- The counting is at its end, and no lock is held. -/
  | ended {host v ls} :
      Goes guard task (.updating host none (.done v)) ls none (.done v) ls
  /-- The counting is at its end, and the lock is released. -/
  | released {host lock v ls} :
      Goes guard task (.updating host (some lock) (.done v)) ls none (.released host lock v)
        (ls.release lock)
  /-- The handle is given back. -/
  | dropped {host lock v ls} :
      Goes guard task (.released host lock v) ls none (.dropped host v) (ls.dropHandle lock)
  /-- The lock is taken out of the table if nobody uses it. -/
  | removed {host v ls} :
      Goes guard task (.dropped host v) ls none (.done v) (ls.removeUnused host)
  /-- Nothing is left to do. -/
  | rests {v ls} : Goes guard task (.done v) ls none (.done v) ls

/-- A step of a decision is a move, with an answer that the collaborators give. -/
theorem Stage.step_goes (guard : Settings.Guard) (c : Collaborators σ) (task : Nat) (g : Stage)
    (ls : Locks) (w : World σ) :
    ∃ r, Goes guard task g ls r (g.step guard c task ls w).1 (g.step guard c task ls w).2.1 ∧
      c.GivesAny w.state r (g.step guard c task ls w).2.2.state := by
  cases g with
  | received url =>
    refine ⟨none, ?_⟩
    simp only [step, parse]
    split
    · next h => exact ⟨.parsed h, rfl⟩
    · next h => exact ⟨.malformed h, rfl⟩
  | readList t =>
    refine ⟨some (.configRead forbiddenKey (c.config.get forbiddenKey w.state).1), ?_⟩
    simp only [step, lookUp, ConfigAccess.readList]
    split
    · next h => exact ⟨.noList h, rfl⟩
    · next h =>
      split_ifs with hl
      · exact ⟨.listed h hl, rfl⟩
      · exact ⟨.unlisted h hl, rfl⟩
  | probe t =>
    refine ⟨some (.probed t.origin (c.probe t.origin w.state).1), ?_⟩
    simp only [step, confirm]
    split
    · next h =>
      split
      · exact ⟨.unguarded rfl h, rfl⟩
      · exact ⟨.guarded rfl h, rfl⟩
    · next h => exact ⟨.notConfirmed h, rfl⟩
  | enter host => exact ⟨none, .entered, rfl⟩
  | acquire host lock =>
    refine ⟨none, ?_, rfl⟩
    simp only [step]
    split_ifs with h
    · exact .acquired h
    · exact .waits (by simpa using h)
  | updating host lock u =>
    have hgo := Update.step_goes c host u w
    cases u with
    | done v =>
      cases lock with
      | none => exact ⟨none, .ended, rfl⟩
      | some lock => exact ⟨none, .released, rfl⟩
    | _ =>
      obtain ⟨r, hr, hs⟩ := hgo (by intro v hv; cases hv)
      exact ⟨some r, .updates hr, hs⟩
  | released host lock v => exact ⟨none, .dropped, rfl⟩
  | dropped host v => exact ⟨none, .removed, rfl⟩
  | done v => exact ⟨none, .rests, rfl⟩

end HostWatch
