import HostWatch.Proofs.Decision.Exclusion

/-!
# No increment is lost or doubled

Where decisions are guarded per hostname and calls that fail have no effect, the counts
of one hostname's decisions are consecutive numbers in the order in which they are
written, and the last one is what is stored at the end (`Reaches.counts_in_order`).

The invariant speaks of the writes on record (`stores`): they are as many as the counter
has grown, and they are those of exactly the decisions that have stored their count
(`Counted`). A count that waits to be written is the next number. It stays so because
nobody else can write meanwhile: that is the mutual exclusion of `Guarded.exclusive`.
-/

namespace HostWatch

/-- The numbers that were stored in the counter of a hostname, each with its task, in the order of
the writes. -/
def stores (host : String) (replies : List (Nat × Reply)) : List (Nat × Int64) :=
  replies.filterMap fun e => (e.2.stored? host).map (e.1, ·)

theorem stores_append (host : String) (rs rs' : List (Nat × Reply)) :
    stores host (rs ++ rs') = stores host rs ++ stores host rs' := List.filterMap_append

/-- The count that the verdict on a report reports. -/
def Verdict.count? (v : Verdict) : Option Int64 := v.toOption.bind Decision.count?

/-- The count that a decision has stored. -/
def Stage.stored? : Stage → Option Int64
  | .updating _ _ (.done v) => Verdict.count? v
  | .released _ _ v => Verdict.count? v
  | .dropped _ v => Verdict.count? v
  | .done v => Verdict.count? v
  | _ => none

namespace Scene

/-- Where calls that fail have no effect, a move stores its decision's count, or no count at all. -/
theorem Moves.stores_or {x : Conditions} {task : Nat} {g g' : Stage} {r : Option Reply}
    {z z' : Scene} (m : Moves x task g r g' z z') (hx : x.counters.IsPlain) :
    (∃ key lock n d, g = .updating key lock (.writeCounter n d) ∧
      r = some (.counterWritten key n .unlimited (.ok ())) ∧
      g' = .updating key lock (.done (.ok d)) ∧
      z.shared.counters.set x.now key n .unlimited = .ok z'.shared.counters) ∨
    z'.shared.counters = z.shared.counters ∧
      (∀ key, stores key (r.toList.map (task, ·)) = []) ∧ g'.stored? = g.stored? := by
  obtain ⟨ls, ls', hgo⟩ := m.goes_any
  cases hgo with
  | unlisted _ _ | listed _ _ | noList _ =>
    exact .inr ⟨by rw [(Conditions.configRead m.gives_some).1], fun _ => rfl, rfl⟩
  | unguarded _ _ | guarded _ _ | notConfirmed _ =>
    exact .inr ⟨by rw [Conditions.probed m.gives_some], fun _ => rfl, rfl⟩
  | updates hu =>
    have hgive := m.gives_some
    cases hu with
    | threshold _ | noThreshold _ | listed _ _ | unlisted _ _ | noList _ =>
      exact .inr ⟨by rw [(Conditions.configRead hgive).1], fun _ => rfl, rfl⟩
    | below _ _ | reached _ _ | overflow _ | noCounter =>
      exact .inr ⟨by rw [(Conditions.counterRead hgive).1], fun _ => rfl, rfl⟩
    | appended | notAppended => exact .inr ⟨(Conditions.configWritten hgive).1, fun _ => rfl, rfl⟩
    | counted =>
      exact .inl ⟨_, _, _, _, rfl, rfl, rfl, (Conditions.counterWritten hgive).2.2.1 rfl⟩
    | notCounted =>
      refine .inr ⟨?_, fun _ => rfl, rfl⟩
      exact (Conditions.counterWritten hgive).2.2.2 hx (fun h => by cases h)
  | _ => exact .inr ⟨by rw [m.shared_of_none], fun _ => rfl, rfl⟩

/-- For a counter that was `c` at first: the counts stored are consecutive, and are those of the
decisions that have stored their count. -/
structure Counted (urls : List String) (host : String) (c : Int64) (z : Scene) : Prop where
  /-- The counter has grown by one with each write. -/
  grown : ∃ v, z.shared.counters.Steady host v ∧
    v.toInt = c.toInt + (stores host z.replies).length
  /-- The counts are consecutive. -/
  order : (stores host z.replies).map (·.2.toInt) =
    (List.range (stores host z.replies).length).map fun i : Nat => c.toInt + (i + 1)
  /-- No decision has stored two counts. -/
  nodup : ((stores host z.replies).map Prod.fst).Nodup
  /-- The counts on record are those of the decisions that have stored theirs. -/
  tasks : ∀ {k n}, (k, n) ∈ stores host z.replies ↔
    hostOf urls k = some host ∧ z.engine.tasks[k]?.bind Stage.stored? = some n
  /-- A count that is to be written is the next one. -/
  next : ∀ {k : Nat} {lock u n}, z.engine.tasks[k]? = some (.updating host lock u) →
    u.pending? = some n → n.toInt = c.toInt + (stores host z.replies).length + 1

variable {guard : Settings.Guard} {urls : List String} {host : String} {c : Int64}
  {x : Conditions} {task : Nat} {g g' : Stage} {r : Option Reply} {z z' : Scene}

theorem counted_start (guard : Settings.Guard) (urls : List String) {s : Shared}
    (hc : s.counters.Steady host c) : (start guard urls s).Counted urls host c where
  grown := ⟨c, hc, (Int.add_zero _).symm⟩
  order := rfl
  nodup := List.nodup_nil
  tasks {k n} := by
    refine ⟨fun h => absurd h List.not_mem_nil, fun h => ?_⟩
    obtain ⟨g, hg, hn⟩ := Option.bind_eq_some_iff.mp h.2
    obtain ⟨url, -, rfl⟩ := of_tasks_start hg
    cases hn
  next h := by
    obtain ⟨url, -, heq⟩ := of_tasks_start h
    cases heq

/-- A move that stores no count for the hostname. -/
theorem Counted.keeps (h : z.Counted urls host c) (m : Moves x task g r g' z z')
    (hcounters : ∀ v, z.shared.counters.Steady host v → z'.shared.counters.Steady host v)
    (hstores : stores host (r.toList.map (task, ·)) = [])
    (htask : hostOf urls task = some host → g'.stored? = g.stored?) : z'.Counted urls host c := by
  have hsame : stores host z'.replies = stores host z.replies := by
    rw [m.replies, stores_append, hstores, List.append_nil]
  refine ⟨?_, ?_, ?_, ?_, ?_⟩
  · obtain ⟨v, hv, hgrown⟩ := h.grown
    exact ⟨v, hcounters v hv, by rw [hsame]; exact hgrown⟩
  · rw [hsame]; exact h.order
  · rw [hsame]; exact h.nodup
  · intro k n
    rw [hsame, h.tasks]
    refine and_congr_right fun hk => ?_
    by_cases heq : k = task
    · subst heq
      rw [m.before, m.after, Option.bind_some, Option.bind_some, htask hk]
    · rw [m.getElem?_tasks_of_ne heq]
  · intro k lock u n hk hn
    rw [hsame]
    rcases m.cases_tasks hk with ⟨rfl, rfl⟩ | ⟨-, hk⟩
    · rcases m.updates_or with ⟨key, lock, u, u', reply, rfl, rfl, heq, hu⟩ | ⟨-, hread⟩
      · cases heq
        rcases hu.pending hn with hbefore | ⟨v, rfl, hv⟩
        · exact h.next m.before hbefore
        · -- the number that was read is the one that is stored
          obtain ⟨w, hw, hgrown⟩ := h.grown
          have hvw := hw.eq ((Conditions.counterRead m.gives_some).2 v rfl)
          rw [toInt_of_nextCount? hv, hvw, hgrown]
      · cases hread rfl
        cases hn
    · exact h.next hk hn

/-- A move that stores the count of a decision on the hostname. -/
theorem Counted.stores_next {lock : Option Nat} {n : Int64} {d : Decision}
    (h : z.Counted urls host c) (ht : z.Traced guard urls) (hg : z.Guarded)
    (m : Moves x task (.updating host lock (.writeCounter n d))
      (some (.counterWritten host n .unlimited (.ok ())))
      (.updating host lock (.done (.ok d))) z z')
    (hset : z.shared.counters.set x.now host n .unlimited = .ok z'.shared.counters) :
    z'.Counted urls host c := by
  have hstores : stores host z'.replies = stores host z.replies ++ [(task, n)] := by
    rw [m.replies, stores_append]
    simp [stores, Reply.stored?]
  have hn := h.next m.before rfl
  have hhost : hostOf urls task = some host := ht.hostOf m.before rfl
  have hcount : d.count? = some n := by
    obtain ⟨url, -, before, us, -, hus, -⟩ := ht.past m.before
    exact hus.count?_eq
  have hfresh : ∀ n', (task, n') ∉ stores host z.replies := by
    intro n' hmem
    obtain ⟨-, hstored⟩ := h.tasks.mp hmem
    rw [m.before] at hstored
    cases hstored
  refine ⟨⟨n, .set hset, ?_⟩, ?_, ?_, ?_, ?_⟩
  · rw [hstores, List.length_append, List.length_singleton, hn]
    omega
  · rw [hstores, List.length_append, List.length_singleton, List.range_succ, List.map_append,
      List.map_append, h.order, List.map_singleton, List.map_singleton, hn]
    rw [Int.add_assoc]
  · rw [hstores, List.map_append, List.map_singleton]
    rw [List.nodup_append]
    refine ⟨h.nodup, List.pairwise_singleton _ _, fun k hk k' hk' heq => ?_⟩
    obtain ⟨⟨k, n'⟩, hmem, rfl⟩ := List.mem_map.mp hk
    rw [List.mem_singleton] at hk'
    subst hk'
    exact hfresh n' (heq ▸ hmem)
  · intro k n'
    rw [hstores, List.mem_append, List.mem_singleton, Prod.mk.injEq]
    by_cases heq : k = task
    · subst heq
      rw [m.after, Option.bind_some]
      have hdone : Stage.stored? (.updating host lock (.done (.ok d))) = some n := hcount
      rw [hdone, Option.some.injEq]
      constructor
      · rintro (hmem | ⟨-, rfl⟩)
        · exact absurd hmem (hfresh n')
        · exact ⟨hhost, rfl⟩
      · rintro ⟨-, rfl⟩
        exact .inr ⟨rfl, rfl⟩
    · rw [m.getElem?_tasks_of_ne heq, ← h.tasks]
      exact ⟨fun h => h.resolve_right fun h => heq h.1, .inl⟩
  · intro k lock' u n' hk hn'
    -- no other decision on the hostname is counting
    rcases m.cases_tasks hk with ⟨-, heq⟩ | ⟨hne, hk⟩
    · cases heq
      cases hn'
    · exact absurd (hg.exclusive hk m.before) hne

theorem Counted.moves (h : z.Counted urls host c) (ht : z.Traced guard urls) (hg : z.Guarded)
    (hx : x.counters.IsPlain) (m : Moves x task g r g' z z') : z'.Counted urls host c := by
  rcases m.stores_or hx with ⟨key, lock, n, d, rfl, rfl, rfl, hset⟩ | ⟨hcounters, hstores, hsame⟩
  · by_cases hkey : key = host
    · subst hkey
      exact h.stores_next ht hg m hset
    · refine h.keeps m (fun v hv => hv.set_of_ne hset (Ne.symm hkey)) ?_ (fun hhost => ?_)
      · simp [stores, Reply.stored?, hkey]
      · exact absurd (ht.host_eq m.before rfl hhost).symm hkey
  · exact h.keeps m (fun v hv => hcounters.symm ▸ hv) (hstores host) (fun _ => hsame)

theorem Counted.others {t : Shared} (h : z.Counted urls host c)
    (ht : t.counters = z.shared.counters) : (z.put t).Counted urls host c where
  grown := by
    obtain ⟨v, hv, hgrown⟩ := h.grown
    exact ⟨v, ht.symm ▸ hv, hgrown⟩
  order := h.order
  nodup := h.nodup
  tasks := h.tasks
  next := h.next

/-- Calls to the counters that fail have no effect, and nobody else writes the counters. -/
def plainCounters : Rules where
  may x := x.counters.IsPlain
  others s t := t.counters = s.counters

theorem Reaches.counted {s : Shared} (hc : s.counters.Steady host c)
    (h : Reaches plainCounters (start .perHostname urls s) z) : z.Counted urls host c :=
  h.invariant (Counted urls host c) (counted_start .perHostname urls hc)
    (fun hy hcounted hx m => hcounted.moves hy.traced hy.guarded hx m)
    (fun hcounted ht => hcounted.others ht)

/-- When all reports are decided, the counts that were written for a hostname are those of the
decisions on it that report one, each written once. In the order of the writes they are the
numbers that follow the first value of the counter, and what is stored is the last of them. -/
theorem Reaches.counts_in_order {s : Shared} (hc : s.counters.Steady host c)
    (h : Reaches plainCounters (start .perHostname urls s) z) (hdone : z.engine.isDone) :
    ((stores host z.replies).map Prod.fst).Nodup ∧
    (∀ k n, (k, n) ∈ stores host z.replies ↔
      hostOf urls k = some host ∧ (z.decision? k).bind Decision.count? = some n) ∧
    (stores host z.replies).map (·.2.toInt) =
      ((List.range (stores host z.replies).length).map fun i : Nat => c.toInt + (i + 1)) ∧
    ∃ v, z.shared.counters.Steady host v ∧
      v.toInt = c.toInt + (stores host z.replies).length := by
  have hcounted := h.counted hc
  refine ⟨hcounted.nodup, fun k n => ?_, hcounted.order, hcounted.grown⟩
  rw [hcounted.tasks, decision?]
  cases hk : z.engine.tasks[k]? with
  | none => rfl
  | some g =>
    have hend : g.verdict?.isSome := List.all_eq_true.mp hdone g (List.mem_of_getElem? hk)
    cases g with
    | done v => rfl
    | _ => cases hend

/-- Three reports of one hostname and one of another, in turns, when the first write of a count
fails. -/
def failedWrite : Scene :=
  (start .perHostname ["http://[::1]/", "http://[::2]/", "http://[::1]/", "http://[::1]/"]
    (.withThreshold 2)).play
    (turns [0, 2, 0, 2, 0, 2, 0, 2, 0, 2, 0, 0] ++
      ({ counters := .refused (.unavailable "down") }, 0) ::
        turns ((List.range 60).map (· % 4)))

theorem counts_in_order_failedWrite :
    (Shared.withThreshold 2).counters.Steady "::1" 0 ∧ failedWrite.engine.isDone ∧
      stores "::1" failedWrite.replies = [(2, 1), (3, 2)] ∧
      ∃ v, failedWrite.shared.counters.Steady "::1" v ∧ v.toInt = 2 := by
  have hc := Shared.steady_withThreshold 2 "::1"
  have hz : Reaches plainCounters (start .perHostname
      ["http://[::1]/", "http://[::2]/", "http://[::1]/", "http://[::1]/"] (.withThreshold 2))
      failedWrite := by
    refine reaches_play _ (fun m hm => ?_) _
    rcases List.mem_append.mp hm with hm | hm
    · obtain ⟨task, -, rfl⟩ := List.mem_map.mp hm
      exact Fate.isPlain_answered
    · rcases List.mem_cons.mp hm with rfl | hm
      · exact Fate.isPlain_refused _
      · obtain ⟨task, -, rfl⟩ := List.mem_map.mp hm
        exact Fate.isPlain_answered
  have hdone : failedWrite.engine.isDone = true := by decide +kernel
  have hstores : stores "::1" failedWrite.replies = [(2, 1), (3, 2)] := by decide +kernel
  obtain ⟨-, -, -, v, hv, hlast⟩ := Reaches.counts_in_order hc hz hdone
  rw [hstores] at hlast
  exact ⟨hc, hdone, hstores, v, hv, hlast⟩

end Scene

end HostWatch
