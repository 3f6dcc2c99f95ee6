import HostWatch.Proofs.Decision.Discipline
import HostWatch.Proofs.Decision.Threshold
import Mathlib.Data.List.Nodup
import Mathlib.Data.List.Perm.Subperm

/-!
# When a counter goes down

A decision writes one more than it has read, whatever has been written since: the counters
know no conditional write. So a counter grows by one with each write, unless another decision
on the same hostname has written it between the reading and the write. A decision that was
overtaken by two others takes the counter down again (`counter_falls`), and no less will do:
decisions that are guarded per hostname do not overtake each other, and of two decisions
the one that was overtaken has still counted on what the other one found
(`Reaches.falls_if_overtaken`).

A record tells who has written a counter (`writers`). Each decision writes once, because it
is settled from then on (`Writing`), and the invariant on a count that waits to be written
says where in the record its number was read and that the counter still has that number if
nobody has written it since (`Since`).
-/

namespace HostWatch

/-! ### Writers of a counter -/

/-- The tasks that have written the counter of a hostname, with success or without, in the order of
the writes. -/
def writers (host : String) (replies : List (Nat × Reply)) : List Nat :=
  (replies.filter fun e => e.2.isWriteOf host).map Prod.fst

theorem writers_append (host : String) (rs rs' : List (Nat × Reply)) :
    writers host (rs ++ rs') = writers host rs ++ writers host rs' := by
  rw [writers, List.filter_append, List.map_append, ← writers, ← writers]

theorem length_writers (host : String) (replies : List (Nat × Reply)) :
    (writers host replies).length = writes host replies := by
  rw [writers, List.length_map, writes, List.countP_eq_length_filter]

/-- Different decisions on a hostname are no more than the reports that name it. -/
theorem length_le_countP {urls : List String} {host : String} {tasks : List Nat}
    (hnodup : tasks.Nodup) (h : ∀ k ∈ tasks, hostOf urls k = some host) :
    tasks.length ≤ urls.countP (hostname? · = some host) := by
  have hsub : tasks ⊆ urls.findIdxs (hostname? · = some host) := by
    intro k hk
    obtain ⟨url, hurl, hhost⟩ := Option.bind_eq_some_iff.mp (h k hk)
    obtain ⟨hlt, rfl⟩ := List.getElem?_eq_some_iff.mp hurl
    exact List.mem_findIdxs_iff_exists_getElem_pos.mpr ⟨hlt, decide_eq_true hhost⟩
  rw [← List.length_findIdxs (s := 0)]
  exact (hnodup.subperm hsub).length_le

/-- Only a decision that is about to write its count writes a counter, and then it is settled. -/
theorem Stage.Goes.writesCounter {guard : Settings.Guard} {task : Nat} {g g' : Stage}
    {ls ls' : Locks} {r : Reply} {host : String} (h : g.Goes guard task ls (some r) g' ls')
    (hr : r.isWriteOf host = true) :
    ∃ lock n d v a, g = .updating host lock (.writeCounter n d) ∧
      g' = .updating host lock (.done v) ∧ r = .counterWritten host n .unlimited a := by
  cases h with
  | updates hu =>
    cases hu with
    | counted | notCounted =>
      obtain rfl := of_decide_eq_true hr
      exact ⟨_, _, _, _, _, rfl, rfl, rfl⟩
    | _ => cases hr
  | _ => cases hr

namespace Scene

variable {guard : Settings.Guard} {urls : List String} {host : String} {c : Int64} {s : Shared}
  {x : Conditions} {task : Nat} {g g' : Stage} {r : Option Reply} {z z' : Scene}

/-- A move writes the counter of a hostname, or the counter stays as it is. -/
theorem Moves.writes_counter_or (m : Moves x task g r g' z z') (host : String) :
    (∃ lock n d v a, g = .updating host lock (.writeCounter n d) ∧
      g' = .updating host lock (.done v) ∧ r = some (.counterWritten host n .unlimited a) ∧
      writers host (r.toList.map (task, ·)) = [task] ∧
      (z'.shared.counters = z.shared.counters ∨ z'.shared.counters.Steady host n)) ∨
    writers host (r.toList.map (task, ·)) = [] ∧
      ∀ v, z.shared.counters.Steady host v → z'.shared.counters.Steady host v := by
  have hkeeps : (∀ reply ∈ r, reply.isWriteOf host = false) →
      ∀ v, z.shared.counters.Steady host v → z'.shared.counters.Steady host v := by
    intro hquiet v hv
    rcases m.counters_eq_or with hsame | ⟨key, lock, n, d, a, -, rfl, hset⟩
    · rw [hsame]
      exact hv
    · exact hv.set_of_ne hset fun hkey => of_decide_eq_false (hquiet _ rfl) hkey.symm
  cases r with
  | none => exact .inr ⟨rfl, hkeeps fun _ h => by cases h⟩
  | some reply =>
    cases hr : reply.isWriteOf host with
    | false =>
      refine .inr ⟨?_, hkeeps fun q hq => by cases hq; exact hr⟩
      rw [writers, Option.toList_some, List.map_singleton, List.filter_singleton, hr]
      rfl
    | true =>
      obtain ⟨ls, ls', hgo⟩ := m.goes_any
      obtain ⟨lock, n, d, v, a, rfl, rfl, rfl⟩ := hgo.writesCounter hr
      refine .inl ⟨lock, n, d, v, a, rfl, rfl, rfl, ?_, ?_⟩
      · rw [writers, Option.toList_some, List.map_singleton, List.filter_singleton, hr]
        rfl
      · rcases (Conditions.counterWritten m.gives_some).2.1 with hkept | hset
        · exact .inl hkept
        · exact .inr (.set hset)

/-! ### Whoever has written a counter -/

/-- What is known of the decisions that have written the counter of a hostname. -/
structure Writing (urls : List String) (host : String) (z : Scene) : Prop where
  /-- They are decisions on the hostname. -/
  about : ∀ k ∈ writers host z.replies, hostOf urls k = some host
  /-- They are settled. -/
  settled : ∀ k ∈ writers host z.replies, ∃ f v, z.engine.tasks[k]? = some f ∧ f.settled? = some v
  /-- None has written twice. -/
  nodup : (writers host z.replies).Nodup

theorem writing_start (guard : Settings.Guard) (urls : List String) (s : Shared) (host : String) :
    (start guard urls s).Writing urls host where
  about _ hk := absurd hk List.not_mem_nil
  settled _ hk := absurd hk List.not_mem_nil
  nodup := List.nodup_nil

/-- A decision that is not settled has not written. -/
theorem Writing.not_mem (h : z.Writing urls host) (hg : z.engine.tasks[task]? = some g)
    (hsettled : g.settled? = none) : task ∉ writers host z.replies := by
  intro hmem
  obtain ⟨f, v, hf, hv⟩ := h.settled task hmem
  rw [hg, Option.some.injEq] at hf
  rw [← hf, hsettled] at hv
  cases hv

/-- Who has written for the first time is one more. -/
theorem Writing.nodup_append (h : z.Writing urls host) (hfresh : task ∉ writers host z.replies) :
    (writers host z.replies ++ [task]).Nodup := by
  rw [← List.concat_eq_append]
  exact h.nodup.concat hfresh

/-- Who is settled remains so. -/
theorem Moves.settled (m : Moves x task g r g' z z') {k : Nat}
    (h : ∃ f v, z.engine.tasks[k]? = some f ∧ f.settled? = some v) :
    ∃ f v, z'.engine.tasks[k]? = some f ∧ f.settled? = some v := by
  obtain ⟨f, v, hf, hv⟩ := h
  by_cases hk : k = task
  · subst hk
    rw [m.before, Option.some.injEq] at hf
    subst hf
    obtain ⟨ls, ls', hgo⟩ := m.goes_any
    exact ⟨g', v, m.after, (hgo.of_settled hv).2⟩
  · exact ⟨f, v, (m.getElem?_tasks_of_ne hk).trans hf, hv⟩

theorem Writing.moves (h : z.Writing urls host) (ht : z.Traced guard urls)
    (m : Moves x task g r g' z z') : z'.Writing urls host := by
  have hrec : writers host z'.replies =
      writers host z.replies ++ writers host (r.toList.map (task, ·)) := by
    rw [m.replies, writers_append]
  rcases m.writes_counter_or host with ⟨lock, n, d, v, a, rfl, rfl, -, hone, -⟩ | ⟨hnone, -⟩
  · rw [hone] at hrec
    refine ⟨fun k hk => ?_, fun k hk => ?_, ?_⟩
    · rw [hrec, List.mem_append, List.mem_singleton] at hk
      rcases hk with hk | rfl
      · exact h.about k hk
      · exact ht.hostOf m.before rfl
    · rw [hrec, List.mem_append, List.mem_singleton] at hk
      rcases hk with hk | rfl
      · exact m.settled (h.settled k hk)
      · exact ⟨_, v, m.after, rfl⟩
    · rw [hrec]
      exact h.nodup_append (h.not_mem m.before rfl)
  · rw [hnone, List.append_nil] at hrec
    refine ⟨fun k hk => ?_, fun k hk => ?_, ?_⟩
    · exact h.about k (hrec ▸ hk)
    · exact m.settled (h.settled k (hrec ▸ hk))
    · rw [hrec]
      exact h.nodup

theorem Reaches.writing {rules : Rules} (h : Reaches rules (start guard urls s) z)
    (host : String) : z.Writing urls host :=
  h.invariant (Writing urls host) (writing_start guard urls s host)
    (fun hy hw _ m => hw.moves hy.traced m) (fun hw _ => ⟨hw.about, hw.settled, hw.nodup⟩)

/-! ### From the reading of a counter on -/

/-- A decision that has read the number `m` is to write `n`, and `after` are the calls that were
made since. -/
structure Since (guard : Settings.Guard) (host : String) (c : Int64) (z : Scene) (task : Nat)
    (n m : Int64) (after : List (Nat × Reply)) : Prop where
  /-- The reading is on record. -/
  read : ∃ before, z.replies = before ++ (task, .counterRead host (.ok m)) :: after
  /-- The count is one more. -/
  next : n.toInt = m.toInt + 1
  /-- The number is not below the first one. -/
  first : c ≤ m
  /-- If nobody has written the counter since, it has the number that was read. -/
  fresh : writers host after = [] → z.shared.counters.Steady host m
  /-- Guarded decisions are not overtaken. -/
  alone : guard = .perHostname → writers host after = []

/-- The counter of a hostname is not below its first value, and every count that is to be written
was made from it. -/
structure Counting (guard : Settings.Guard) (host : String) (c : Int64) (z : Scene) : Prop where
  /-- The counter is not below its first value. -/
  stored : ∃ v, z.shared.counters.Steady host v ∧ c ≤ v
  /-- A count that is to be written was made from a reading of the counter. -/
  pending : ∀ {k : Nat} {lock u n}, z.engine.tasks[k]? = some (.updating host lock u) →
    u.pending? = some n → ∃ m after, z.Since guard host c k n m after

theorem counting_start (guard : Settings.Guard) (urls : List String)
    (hc : s.counters.Steady host c) : (start guard urls s).Counting guard host c where
  stored := ⟨c, hc, Int64.le_refl c⟩
  pending h := by
    obtain ⟨url, -, heq⟩ := of_tasks_start h
    cases heq

theorem Since.next_le {n m : Int64} {after : List (Nat × Reply)}
    (h : z.Since guard host c task n m after) : c ≤ n := by
  have hfirst := Int64.le_iff_toInt_le.mp h.first
  have hnext := h.next
  rw [Int64.le_iff_toInt_le]
  omega

/-- While a decision is at its count, no guarded decision writes the counter. -/
theorem Since.moves {n m : Int64} {after : List (Nat × Reply)} {k : Nat} {lock : Option Nat}
    {u u' : Update} (h : z.Since guard host c k n m after)
    (hg : guard = .perHostname → z.Guarded) (hm : Moves x task g r g' z z')
    (hk : z.engine.tasks[k]? = some (.updating host lock u))
    (hk' : z'.engine.tasks[k]? = some (.updating host lock u')) (hn : u'.pending? = some n) :
    z'.Since guard host c k n m (after ++ r.toList.map (task, ·)) := by
  obtain ⟨before, hread⟩ := h.read
  refine ⟨⟨before, ?_⟩, h.next, h.first, fun hnone => ?_, fun hguard => ?_⟩
  · rw [hm.replies, hread, List.append_assoc, List.cons_append]
  · rw [writers_append, List.append_eq_nil_iff] at hnone
    rcases hm.writes_counter_or host with ⟨_, _, _, _, _, -, -, -, hone, -⟩ | ⟨-, hkeeps⟩
    · rw [hone] at hnone
      cases hnone.2
    · exact hkeeps m (h.fresh hnone.1)
  · rw [writers_append, h.alone hguard, List.nil_append]
    rcases hm.writes_counter_or host with ⟨_, _, _, v, _, rfl, rfl, -⟩ | ⟨hnone, -⟩
    · -- whoever writes is in the section, so it is this decision, which has not come to its end
      obtain rfl := (hg hguard).exclusive hk hm.before
      rw [hm.after] at hk'
      cases hk'
      cases hn
    · exact hnone

theorem Counting.moves (h : z.Counting guard host c) (hg : guard = .perHostname → z.Guarded)
    (m : Moves x task g r g' z z') : z'.Counting guard host c where
  stored := by
    obtain ⟨v, hv, hle⟩ := h.stored
    rcases m.writes_counter_or host with
      ⟨lock, n, d, w, a, rfl, -, -, -, hkept | hset⟩ | ⟨-, hkeeps⟩
    · rw [hkept]
      exact ⟨v, hv, hle⟩
    · obtain ⟨k, after, hsince⟩ := h.pending m.before rfl
      exact ⟨n, hset, hsince.next_le⟩
    · exact ⟨v, hkeeps v hv, hle⟩
  pending {k lock u n} hk hn := by
    rcases m.cases_tasks hk with ⟨rfl, rfl⟩ | ⟨-, hbefore⟩
    · rcases m.updates_or with ⟨key, lock, u, u', reply, rfl, rfl, heq, hu⟩ | ⟨-, hread⟩
      · cases heq
        rcases hu.pending hn with hbefore | ⟨v, rfl, hv⟩
        · obtain ⟨v, after, hsince⟩ := h.pending m.before hbefore
          exact ⟨v, _, hsince.moves hg m m.before hk hn⟩
        · -- the number that was read is the one that is stored
          obtain ⟨w, hw, hle⟩ := h.stored
          obtain ⟨hsame, hread⟩ := Conditions.counterRead m.gives_some
          obtain rfl := hw.eq (hread v rfl)
          refine ⟨v, [], ⟨z.replies, m.replies⟩, toInt_of_nextCount? hv, hle, fun _ => ?_,
            fun _ => rfl⟩
          rw [hsame]
          exact hw
      · cases hread rfl
        cases hn
    · obtain ⟨v, after, hsince⟩ := h.pending hbefore hn
      exact ⟨v, _, hsince.moves hg m hbefore hk hn⟩

theorem Counting.others {t : Shared} (h : z.Counting guard host c)
    (ht : t.counters = z.shared.counters) : (z.put t).Counting guard host c where
  stored := by
    obtain ⟨v, hv, hle⟩ := h.stored
    exact ⟨v, ht.symm ▸ hv, hle⟩
  pending hk hn := by
    obtain ⟨m, after, hsince⟩ := h.pending hk hn
    exact ⟨m, after, hsince.read, hsince.next, hsince.first,
      fun hnone => ht.symm ▸ hsince.fresh hnone, hsince.alone⟩

theorem Reaches.counting (hc : s.counters.Steady host c)
    (h : Reaches ownCounters (start guard urls s) z) : z.Counting guard host c :=
  h.invariant (Counting guard host c) (counting_start guard urls hc)
    (fun hy hcounting _ m => hcounting.moves (fun hguard => by subst hguard; exact hy.guarded) m)
    (fun hcounting ht => hcounting.others ht)

/-! ### Steps that change a counter -/

/-- In the step from `z` to `z'` a decision on a hostname takes its counter from `v` to `v'`, and
`after` are the calls that were made since the decision has read the counter. -/
structure Counts (urls : List String) (host : String) (z z' : Scene) (v v' : Int64) (task : Nat)
    (after : List (Nat × Reply)) : Prop where
  /-- The decision is about the hostname. -/
  about : hostOf urls task = some host
  /-- The step is its write of the counter. -/
  writes : ∃ a, z'.replies = z.replies ++ [(task, .counterWritten host v' .unlimited a)]
  /-- It writes one more than it has read. -/
  next : ∃ before m, z.replies = before ++ (task, .counterRead host (.ok m)) :: after ∧
    v'.toInt = m.toInt + 1
  /-- If it was not overtaken, the counter grows by one. -/
  grows : writers host after = [] → v'.toInt = v.toInt + 1
  /-- It is overtaken by other decisions on the hostname only. -/
  others : ∀ k ∈ writers host after, k ≠ task ∧ hostOf urls k = some host

/-- A move takes the counter of a hostname from one number to the one after the reading, or leaves
it as it is. -/
theorem Moves.counts (m : Moves x task g r g' z z') (h : z.Counting guard host c)
    (hw : z.Writing urls host) (ht : z.Traced guard urls) {v : Int64}
    (hv : z.shared.counters.Steady host v) :
    z'.shared.counters.Steady host v ∨
      ∃ v' after, z'.shared.counters.Steady host v' ∧ c.toInt < v'.toInt ∧
        Counts urls host z z' v v' task after ∧ task ∉ writers host z.replies ∧
        (guard = .perHostname → writers host after = []) := by
  rcases m.writes_counter_or host with
    ⟨lock, n, d, w, a, rfl, -, rfl, -, hkept | hset⟩ | ⟨-, hkeeps⟩
  · exact .inl (hkept ▸ hv)
  · obtain ⟨k, after, hsince⟩ := h.pending m.before rfl
    obtain ⟨before, hread⟩ := hsince.read
    have hfirst := Int64.le_iff_toInt_le.mp hsince.first
    have hnext := hsince.next
    have hfresh := hw.not_mem m.before rfl
    refine .inr ⟨n, after, hset, by omega, ⟨ht.hostOf m.before rfl, ⟨a, m.replies⟩,
      ⟨before, k, hread, hnext⟩, fun hnone => ?_, fun j hj => ?_⟩, hfresh, hsince.alone⟩
    · rw [hnext, hv.eq (hsince.fresh hnone 0)]
    · have hmem : j ∈ writers host z.replies := by
        rw [hread, List.append_cons, writers_append]
        exact List.mem_append_right _ hj
      exact ⟨fun heq => hfresh (heq ▸ hmem), hw.about j hmem⟩
  · exact .inl (hkeeps v hv)

/-- A decision has listed its hostname and waits to write the count that it has made of 0. Two
others have counted meanwhile, one after the other. -/
def overtaken : Scene :=
  (start .bestEffort (List.replicate 3 "http://[::1]/") (.withThreshold 1)).play
    (turns ([0, 1, 2, 0, 1, 2, 0, 1, 2] ++ List.replicate 4 0 ++ List.replicate 5 1 ++
      List.replicate 5 2))

theorem reaches_overtaken : Reaches ownCounters
    (start .bestEffort (List.replicate 3 "http://[::1]/") (.withThreshold 1)) overtaken :=
  reaches_play _ (fun _ _ => trivial) _

end Scene

end HostWatch
