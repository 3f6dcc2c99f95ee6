import HostWatch.Proofs.Decision.History

/-!
# No hostname is listed early

The decisions of an engine read and write counters in any order, so a stored counter
may be written back from a stale reading. It is never too large, though: whatever the
interleaving, a stored counter is at most its initial value and the number of confirmed
timeouts of its hostname together, and a decision that appends a hostname has computed
a count that reaches the threshold it read and is covered by as many timeouts
(`Reaches.never_early`).

The invariant counts each confirmed timeout once: it is still owed by a decision that has
not come to the write of its counter, or it has been spent on such a write, whether that
succeeded or not (`Bounded`). A stored counter is bounded by what has been spent, and a
count that waits to be written by one more.
-/

namespace HostWatch

/-! ### Counting calls -/

/-- Whether a probe for a hostname brought a timeout. -/
def isTimeout (urls : List String) (host : String) : Nat × Reply → Bool
  | (task, .probed _ r) => r.outcome = .timedOut ∧ hostOf urls task = some host
  | _ => false

/-- How many probes for a hostname have brought a timeout. -/
def timeouts (urls : List String) (host : String) (replies : List (Nat × Reply)) : Nat :=
  replies.countP (isTimeout urls host)

/-- Whether a call writes the counter of a hostname, with success or without. -/
def Reply.isWriteOf (host : String) : Reply → Bool
  | .counterWritten key _ _ _ => key = host
  | _ => false

/-- How often the counter of a hostname has been written, with success or without. -/
def writes (host : String) (replies : List (Nat × Reply)) : Nat :=
  replies.countP fun e => e.2.isWriteOf host

/-- Whether a decision on a hostname has a confirmed timeout that it has not yet written. -/
def Stage.isOwing (host : String) : Stage → Bool
  | .enter h => h = host
  | .acquire h _ => h = host
  | .updating _ _ (.done _) => false
  | .updating h _ _ => h = host
  | _ => false

namespace Scene

/-- Each timeout is spent once: a decision that owes a write after a move owed it before or has
just confirmed the timeout, and with its write it owes no more. -/
theorem Moves.spends {x : Conditions} {task : Nat} {g g' : Stage} {r : Option Reply} {z z' : Scene}
    {guard : Settings.Guard} {urls : List String} (ht : z.Traced guard urls)
    (m : Moves x task g r g' z z') (host : String) :
    writes host (r.toList.map (task, ·)) + (g'.isOwing host).toNat ≤
      timeouts urls host (r.toList.map (task, ·)) + (g.isOwing host).toNat := by
  have hhost : ∀ {h}, g.host? = some h → hostOf urls task = some h := ht.hostOf m.before
  obtain ⟨ls, ls', hgo⟩ := m.goes_any
  cases hgo with
  | @unguarded t r _ _ hr | @guarded t r _ _ hr =>
    have ht : hostOf urls task = some t.hostname := hhost rfl
    by_cases h : t.hostname = host <;>
      simp [writes, timeouts, isTimeout, Reply.isWriteOf, Stage.isOwing, ht, hr, h]
  | @updates h _ _ _ _ _ hu =>
    cases hu with
    | counted | notCounted =>
      by_cases h : h = host <;> simp [writes, Reply.isWriteOf, Stage.isOwing, h]
    | threshold _ | below _ _ | reached _ _ | listed _ _ | unlisted _ _ | appended =>
      exact Nat.le_refl _
    | _ => exact Nat.zero_le _
  | entered | acquired _ | waits _ => exact Nat.le_refl _
  | _ => exact Nat.zero_le _

/-- For a counter that was `c` at first: the writes and the decisions that owe one are covered by
timeouts, and the stored counter and the pending counts are covered by writes. -/
structure Bounded (urls : List String) (host : String) (c : Int64) (z : Scene) : Prop where
  /-- Every write is covered by a timeout. -/
  owed : writes host z.replies + z.engine.tasks.countP (Stage.isOwing host) ≤
    timeouts urls host z.replies
  /-- The stored counter is covered by writes. -/
  stored : ∃ v, z.shared.counters.Steady host v ∧ v.toInt ≤ c.toInt + writes host z.replies
  /-- A count that is to be written is covered by writes and one more. -/
  pending : ∀ {k : Nat} {lock u n}, z.engine.tasks[k]? = some (.updating host lock u) →
    u.pending? = some n → n.toInt ≤ c.toInt + writes host z.replies + 1

variable {guard : Settings.Guard} {urls : List String} {host : String} {c : Int64}
  {x : Conditions} {task : Nat} {g g' : Stage} {r : Option Reply} {z z' : Scene}

theorem bounded_start (guard : Settings.Guard) (urls : List String) {s : Shared}
    (hc : s.counters.Steady host c) : (start guard urls s).Bounded urls host c where
  owed := by
    have hzero : (start guard urls s).engine.tasks.countP (Stage.isOwing host) = 0 := by
      rw [List.countP_eq_zero]
      intro g hg
      obtain ⟨url, -, rfl⟩ := List.mem_map.mp hg
      exact Bool.false_ne_true
    rw [hzero]
    exact Nat.zero_le _
  stored := ⟨c, hc, by simp only [start, replies, writes, List.countP_nil]; omega⟩
  pending h := by
    obtain ⟨url, -, heq⟩ := of_tasks_start h
    cases heq

theorem writes_append (host : String) (rs rs' : List (Nat × Reply)) :
    writes host (rs ++ rs') = writes host rs + writes host rs' := List.countP_append

theorem timeouts_append (urls : List String) (host : String) (rs rs' : List (Nat × Reply)) :
    timeouts urls host (rs ++ rs') = timeouts urls host rs + timeouts urls host rs' :=
  List.countP_append

theorem Bounded.moves_owed (h : z.Bounded urls host c) (ht : z.Traced guard urls)
    (m : Moves x task g r g' z z') :
    writes host z'.replies + z'.engine.tasks.countP (Stage.isOwing host) ≤
      timeouts urls host z'.replies := by
  have hspent := m.spends ht host
  have hcount := m.countP_tasks (Stage.isOwing host)
  have howed := h.owed
  rw [m.replies, writes_append, timeouts_append]
  omega

theorem Bounded.moves_stored (h : z.Bounded urls host c) (m : Moves x task g r g' z z') :
    ∃ v, z'.shared.counters.Steady host v ∧ v.toInt ≤ c.toInt + writes host z'.replies := by
  obtain ⟨v, hv, hle⟩ := h.stored
  rw [m.replies, writes_append]
  rcases m.counters_eq_or with hsame | ⟨key, lock, n, d, a, rfl, rfl, hset⟩
  · rw [hsame]
    exact ⟨v, hv, by omega⟩
  · by_cases hkey : host = key
    · subst hkey
      have hn := h.pending m.before rfl
      have hone : writes host (([(task, .counterWritten host n .unlimited a)])) = 1 := by
        simp [writes, Reply.isWriteOf]
      refine ⟨n, .set hset, ?_⟩
      rw [Option.toList_some, List.map_singleton, hone]
      omega
    · exact ⟨v, hv.set_of_ne hset hkey, by omega⟩

theorem Bounded.moves_pending (h : z.Bounded urls host c) (m : Moves x task g r g' z z') {k : Nat}
    {lock : Option Nat} {u : Update} {n : Int64}
    (hk : z'.engine.tasks[k]? = some (.updating host lock u)) (hn : u.pending? = some n) :
    n.toInt ≤ c.toInt + writes host z'.replies + 1 := by
  have hmore : writes host z.replies ≤ writes host z'.replies := by
    rw [m.replies, writes_append]
    omega
  rcases m.cases_tasks hk with ⟨rfl, rfl⟩ | ⟨-, hk⟩
  · rcases m.updates_or with ⟨host, lock, u, u', reply, rfl, rfl, heq, hu⟩ | ⟨-, hread⟩
    · cases heq
      rcases hu.pending hn with hbefore | ⟨v, rfl, hv⟩
      · have := h.pending m.before hbefore
        omega
      · -- the number that was read is the one that is stored
        obtain ⟨w, hw, hle⟩ := h.stored
        have hvw := hw.eq ((Conditions.counterRead m.gives_some).2 v rfl)
        have hnext := toInt_of_nextCount? hv
        subst hvw
        omega
    · cases hread rfl
      cases hn
  · have := h.pending hk hn
    omega

theorem Bounded.moves (h : z.Bounded urls host c) (ht : z.Traced guard urls)
    (m : Moves x task g r g' z z') : z'.Bounded urls host c where
  owed := h.moves_owed ht m
  stored := h.moves_stored m
  pending := h.moves_pending m

/-- Any calls may fail, and nobody else writes the counters. -/
def ownCounters : Rules where
  may _ := True
  others s t := t.counters = s.counters

theorem Bounded.others {t : Shared} (h : z.Bounded urls host c)
    (ht : t.counters = z.shared.counters) : (z.put t).Bounded urls host c where
  owed := h.owed
  stored := by
    obtain ⟨v, hv, hle⟩ := h.stored
    exact ⟨v, ht.symm ▸ hv, hle⟩
  pending := h.pending

theorem Reaches.bounded {s : Shared} (hc : s.counters.Steady host c)
    (h : Reaches ownCounters (start guard urls s) z) : z.Bounded urls host c :=
  h.invariant (Bounded urls host c) (bounded_start guard urls hc)
    (fun hy hb _ m => hb.moves hy.traced m) (fun hb ht => hb.others ht)

/-- A count that is to be written is covered by timeouts. -/
theorem Bounded.pending_le (h : z.Bounded urls host c) {k : Nat} {lock : Option Nat} {u : Update}
    {n : Int64} (hk : z.engine.tasks[k]? = some (.updating host lock u))
    (hn : u.pending? = some n) :
    n.toInt ≤ c.toInt + timeouts urls host z.replies := by
  have howing : Stage.isOwing host (.updating host lock u) = true := by
    cases u with
    | done v => cases hn
    | _ => exact decide_eq_true rfl
  have hone : 0 < z.engine.tasks.countP (Stage.isOwing host) :=
    List.countP_pos_iff.mpr ⟨_, List.mem_of_getElem? hk, howing⟩
  have howed := h.owed
  have hle := h.pending hk hn
  omega

/-! ### No early listing -/

/-- If a call writes the list for a hostname, it appends the hostname, and not early: its task has
read one threshold and one count, its own count is one more, reaches the threshold, and is
covered by the timeouts so far. -/
def Timely (urls : List String) (host : String) (c : Int64) (before : List (Nat × Reply))
    (task : Nat) (r : Reply) : Prop :=
  ∀ value a, r = .configWritten forbiddenKey value a → hostOf urls task = some host →
    ∃ l t m n, value = ForbiddenList.encode (l ++ [host]) ∧
      (calls task before).filterMap Reply.threshold? = [t] ∧
      (calls task before).filterMap Reply.counter? = [m] ∧
      n.toInt = m.toInt + 1 ∧ t ≤ n ∧ n.toInt ≤ c.toInt + timeouts urls host before

theorem Moves.timely {reply : Reply} (m : Moves x task g (some reply) g' z z')
    (ht : z.Traced guard urls) (hb : z.Bounded urls host c) :
    Timely urls host c z.replies task reply := by
  rintro value a rfl hhost
  obtain ⟨ls, ls', hgo⟩ := m.goes_any
  cases hgo with
  | @updates key lock u _ _ _ hu =>
    obtain rfl := ht.host_eq m.before rfl hhost
    cases hu with
    | @appended n l | @notAppended n l =>
      obtain ⟨url, -, hpast⟩ := ht.past m.before
      obtain ⟨looked, origin, p, a, t, v, b, ha, hn, hreach, -, -, hcalls⟩ :=
        Stage.Counting.writeList hpast
      have hother : forbiddenKey ≠ thresholdKey := by decide
      refine ⟨l, t, v, n, rfl, ?_, ?_, toInt_of_nextCount? hn, Int64.not_lt.mp hreach,
        hb.pending_le m.before rfl⟩
      · rw [hcalls]
        simp [List.filterMap_cons, Reply.threshold?, ha, hother, Except.toOption]
      · rw [hcalls]
        simp [List.filterMap_cons, Reply.counter?, Except.toOption]

/-- A stored counter never exceeds its first value by more than the timeouts so far, and no hostname
is listed early. If the counter was absent and the threshold is always read as `T`, a hostname is
listed only after `T` of its probes have brought a timeout. -/
theorem Reaches.never_early {s : Shared} (hc : s.counters.Steady host c)
    (h : Reaches ownCounters (start guard urls s) z) :
    (∃ v, z.shared.counters.Steady host v ∧
      v.toInt ≤ c.toInt + timeouts urls host z.replies) ∧
    Each (Timely urls host c) z.replies ∧
    ∀ T, c = 0 → (∀ e ∈ z.replies, ∀ t ∈ e.2.threshold?, t = T) →
      Each (fun before task r => ∀ value a, r = .configWritten forbiddenKey value a →
        hostOf urls task = some host → T.toInt ≤ timeouts urls host before) z.replies := by
  have htimely : Each (Timely urls host c) z.replies :=
    h.each fun hy m => m.timely hy.traced (hy.bounded hc)
  refine ⟨?_, htimely, ?_⟩
  · have hb := h.bounded hc
    obtain ⟨v, hv, hle⟩ := hb.stored
    have howed := hb.owed
    exact ⟨v, hv, by omega⟩
  · rintro T rfl hT before task r after heq value a hr hhost
    obtain ⟨l, t, m, n, -, hread, -, -, htn, hn⟩ := htimely before task r after heq value a hr hhost
    have hmem : t ∈ (calls task before).filterMap Reply.threshold? := by
      rw [hread]
      exact List.mem_singleton_self t
    obtain ⟨reply, hreply, ht⟩ := List.mem_filterMap.mp hmem
    have htT := hT (task, reply) (by rw [heq]; exact List.mem_append_left _ (mem_calls.mp hreply))
      t ht
    have hzero : (0 : Int64).toInt = 0 := rfl
    rw [htT, Int64.le_iff_toInt_le] at htn
    omega

/-- Two reports of a hostname in turns: both are counted, and the second finds the threshold
reached. -/
def twoReports : Scene :=
  (start .bestEffort ["http://[::1]/", "http://[::1]/"] (.withThreshold 2)).play
    (turns [0, 1, 0, 1, 0, 1, 0, 1, 0, 0, 1, 0, 1, 1, 1, 1])

theorem never_early_twoReports :
    (Shared.withThreshold 2).counters.Steady "::1" 0 ∧
      (∃ v, twoReports.shared.counters.Steady "::1" v ∧
        v.toInt ≤ timeouts ["http://[::1]/", "http://[::1]/"] "::1" twoReports.replies) ∧
      Each (fun before task r => ∀ value a, r = .configWritten forbiddenKey value a →
        hostOf ["http://[::1]/", "http://[::1]/"] task = some "::1" →
          (2 : Int64).toInt ≤ timeouts ["http://[::1]/", "http://[::1]/"] "::1" before)
        twoReports.replies ∧
      twoReports.shared.config.forbidden.toOption = some ["::1"] := by
  have hc := Shared.steady_withThreshold 2 "::1"
  have hz : Reaches ownCounters
      (start .bestEffort ["http://[::1]/", "http://[::1]/"] (.withThreshold 2)) twoReports :=
    reaches_play _ (fun _ _ => trivial) _
  obtain ⟨⟨v, hv, hle⟩, -, hlisted⟩ := Reaches.never_early hc hz
  have hall : twoReports.replies.all (fun e => e.2.threshold?.all (· = 2)) = true := by
    decide +kernel
  have hread : ∀ e ∈ twoReports.replies, ∀ t ∈ e.2.threshold?, t = 2 := by
    intro e he t ht
    have hone := List.all_eq_true.mp hall e he
    rw [ht, Option.all_some, decide_eq_true_eq] at hone
    exact hone
  have hzero : (0 : Int64).toInt = 0 := rfl
  exact ⟨hc, ⟨v, hv, by omega⟩, hlisted 2 rfl hread, by decide +kernel⟩

end Scene

end HostWatch
