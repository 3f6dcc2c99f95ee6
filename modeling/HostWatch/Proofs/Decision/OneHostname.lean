import HostWatch.Proofs.Decision.Together

/-!
# Reports of one hostname that come in together

All reports are about one hostname that is not on the list at first, and decisions are guarded
per hostname. However their steps interleave, the outcome is that of reports that come one after
another (`Scene.reports_of_one_hostname`): those that come to count their timeout get the numbers
that follow the first value of the counter, the one that completes the quota brings the hostname
on the list, and later ones find it there.
-/

namespace HostWatch

namespace Ledger

/-- Reports of one hostname have come in together. Those of some tasks have come to count their
timeout, in this order, and all have come to their ends. -/
structure SettlesTogether (b : Ledger) (host : String) (order : List Nat) (z : Scene) : Prop where
  /-- No timeout is counted twice. -/
  nodup : order.Nodup
  /-- Up to the quota the hostname is watched. -/
  watched : ∀ {i k : Nat}, order[i]? = some k → i + 1 < b.quota host →
    ∃ n : Int64, n.toInt = (b.counter host).toInt + (i + 1) ∧
      z.decision? k = some (.watched n b.threshold)
  /-- The count that completes the quota brings it on the list. -/
  blacklisted : ∀ {i k : Nat}, order[i]? = some k → i + 1 = b.quota host →
    ∃ n : Int64, n.toInt = (b.counter host).toInt + (i + 1) ∧
      z.decision? k = some (.blacklisted n)
  /-- From then on it is found on the list. -/
  alreadyListed : ∀ {i k : Nat}, order[i]? = some k → b.quota host < i + 1 →
    ∃ n : Int64, n.toInt = (b.counter host).toInt + (i + 1) ∧
      z.decision? k = some (.alreadyListed n)
  /-- All others were not confirmed, or found the hostname on the list before they probed it. -/
  others : ∀ {k : Nat} {v}, z.engine.tasks[k]? = some (.done v) → k ∉ order →
    (∃ o, v = .ok (.notConfirmed o)) ∨ v = .error (.alreadyListed host)
  /-- The list is written once if the quota is complete, and not at all otherwise. -/
  written : tally Reply.writesList z.replies = if b.quota host ≤ order.length then 1 else 0
  /-- The hostname is at the end of the list if the quota is complete. -/
  list : z.shared.config.forbidden =
    .ok (b.list ++ if b.quota host ≤ order.length then [host] else [])

end Ledger

/-! ### Runs -/

namespace Scene

/-- No call fails, and nobody else writes. -/
def undisturbed : Rules where
  may := Conditions.Answered
  others _ _ := False

variable {b : Ledger} {urls : List String} {host : String} {s : Shared} {z : Scene}

theorem together_start (hurls : ∀ url ∈ urls, hostname? url = some host)
    (hlist : s.config.forbidden = .ok b.list) (hnot : ¬ ForbiddenList.Listed b.list host)
    (hc : s.counters.Steady host (b.counter host)) :
    b.Together urls host (start .perHostname urls s) where
  reports := hurls
  unlisted := hnot
  traced := traced_start .perHostname urls s
  guarded := guarded_start .perHostname urls s
  counted := counted_start .perHostname urls hc
  once := appendsOnce_start .perHostname urls hlist

/-- The stores, the record and the decisions agree, as long as the counter can be counted up. -/
theorem Reaches.agrees (h : Reaches undisturbed (start .perHostname urls s) z)
    (hurls : ∀ url ∈ urls, hostname? url = some host)
    (hlist : s.config.forbidden = .ok b.list) (hnot : ¬ ForbiddenList.Listed b.list host)
    (hsaves : s.Saves) (hthreshold : s.config.threshold = .ok b.threshold)
    (hc : s.counters.Steady host (b.counter host)) :
    b.Together urls host z ∧
      ((b.counter host).toInt + tally Reply.readsThreshold z.replies ≤ Int64.maxValue.toInt →
        b.Agrees host z) := by
  refine h.invariant (fun y => b.Together urls host y ∧
    ((b.counter host).toInt + tally Reply.readsThreshold y.replies ≤ Int64.maxValue.toInt →
      b.Agrees host y)) ⟨together_start hurls hlist hnot hc, fun _ => ?_⟩ ?_ (fun _ hs => hs.elim)
  · exact Ledger.agrees_start .perHostname urls hsaves hlist hthreshold
  · rintro x task g r g' y y' - ⟨hy, ih⟩ hx m
    have hy' := hy.moves hx m
    refine ⟨hy', fun hroom => ?_⟩
    rw [m.replies, tally_append] at hroom
    have hbefore : (b.counter host).toInt + tally Reply.readsThreshold y.replies ≤
        Int64.maxValue.toInt := by
      omega
    exact (ih hbefore).moves hy hy' hbefore hx m

/-- When all decisions are at their ends, each count has led to the decision that is due. -/
theorem due_of_getElem? (h : b.Agrees host z) (hy : b.Together urls host z)
    (hdone : z.engine.isDone) {i k : Nat}
    (hk : ((stores host z.replies).map Prod.fst)[i]? = some k) :
    ∃ n : Int64, n.toInt = (b.counter host).toInt + (i + 1) ∧
      z.decision? k = some (b.due host n) := by
  rw [List.getElem?_map, Option.map_eq_some_iff] at hk
  obtain ⟨⟨k, n⟩, hi, rfl⟩ := hk
  have hcount : ((stores host z.replies).map (·.2.toInt))[i]? = some n.toInt := by
    rw [List.getElem?_map, hi]
    rfl
  rw [hy.counted.order, List.getElem?_map, Option.map_eq_some_iff] at hcount
  obtain ⟨j, hj, hn⟩ := hcount
  obtain rfl : i = j := by
    obtain ⟨hlt, hij⟩ := List.getElem?_eq_some_iff.mp hj
    rwa [List.getElem_range] at hij
  refine ⟨n, hn.symm, ?_⟩
  obtain ⟨-, hstored⟩ := hy.counted.tasks.mp (List.mem_of_getElem? hi)
  obtain ⟨g, hg, hgn⟩ := Option.bind_eq_some_iff.mp hstored
  obtain ⟨v, rfl⟩ := eq_done_of_isDone hdone hg
  rw [decision?, hg]
  cases h.knows hg with
  | notConfirmed | listed => cases hgn
  | @counted m =>
    obtain rfl : m = n := Option.some.inj ((b.count?_due host m).symm.trans hgn)
    rfl

/-- Whoever has not stored a count was not confirmed, or found the hostname listed. -/
theorem uncounted_of_not_mem (h : b.Agrees host z) (hy : b.Together urls host z) {k : Nat}
    {v : Verdict} (hk : z.engine.tasks[k]? = some (.done v))
    (hnot : k ∉ (stores host z.replies).map Prod.fst) :
    (∃ o, v = .ok (.notConfirmed o)) ∨ v = .error (.alreadyListed host) := by
  cases h.knows hk with
  | notConfirmed => exact .inl ⟨_, rfl⟩
  | listed => exact .inr rfl
  | @counted n =>
    obtain ⟨url, hurl, -⟩ := hy.traced.past hk
    have hhost : hostOf urls k = some host := by
      rw [hostOf, hurl]
      exact hy.reports url (List.mem_of_getElem? hurl)
    have hstored : z.engine.tasks[k]?.bind Stage.stored? = some n := by
      rw [hk]
      exact b.count?_due host n
    have hmem := hy.counted.tasks.mpr ⟨hhost, hstored⟩
    exact absurd (List.mem_map_of_mem hmem) hnot

/-- When all decisions are at their ends, those that came to count their timeout have settled as the
quota says. -/
theorem settlesTogether (h : b.Agrees host z) (hy : b.Together urls host z)
    (hdone : z.engine.isDone) :
    (stores host z.replies).length = tally Reply.readsThreshold z.replies ∧
      b.SettlesTogether host ((stores host z.replies).map Prod.fst) z := by
  have hnone : ∀ p : Stage → Bool, (∀ v, p (.done v) = false) →
      z.engine.tasks.countP p = 0 := by
    intro p hp
    refine countP_eq_zero fun hk => ?_
    obtain ⟨v, rfl⟩ := eq_done_of_isDone hdone hk
    exact hp v
  have hcounting := h.counting
  rw [hnone (Stage.isCounting host) fun _ => rfl, Nat.add_zero] at hcounting
  have hreached : Ledger.reached host z = ((stores host z.replies).map Prod.fst).length := by
    rw [Ledger.reached, hnone (Stage.isWriting host) fun _ => rfl, List.length_map, Nat.add_zero]
  refine ⟨hcounting.symm, hy.counted.nodup, ?_, ?_, ?_, uncounted_of_not_mem h hy, ?_, ?_⟩
  · intro i k hk hi
    obtain ⟨n, hn, hdue⟩ := due_of_getElem? h hy hdone hk
    have hlt := (b.lt_quota_iff hn).mpr hi
    exact ⟨n, hn, hdue.trans (congrArg some (if_pos hlt))⟩
  · intro i k hk hi
    obtain ⟨n, hn, hdue⟩ := due_of_getElem? h hy hdone hk
    have hnlt := mt (b.lt_quota_iff hn).mp (Nat.not_lt.mpr (Nat.le_of_eq hi.symm))
    have heq : n.toInt = (b.counter host).toInt + b.quota host := by omega
    exact ⟨n, hn, hdue.trans (congrArg some ((if_neg hnlt).trans (if_pos heq)))⟩
  · intro i k hk hi
    obtain ⟨n, hn, hdue⟩ := due_of_getElem? h hy hdone hk
    have hnlt := mt (b.lt_quota_iff hn).mp (Nat.not_lt.mpr (Nat.le_of_lt hi))
    have hne : n.toInt ≠ (b.counter host).toInt + b.quota host := by omega
    exact ⟨n, hn, hdue.trans (congrArg some ((if_neg hnlt).trans (if_neg hne)))⟩
  · rw [h.written, Ledger.entry, hreached]
    split_ifs <;> rfl
  · rw [h.list, Ledger.entry, hreached]

/-- Reports of one hostname that is not on the list at first, in any order of their steps. If no
call fails and the counter does not overflow, the timeouts of those that come under the lock are
counted one after another: up to the quota the hostname is watched, then it is brought on the list
by the one write there is, and from then on it is found there. If calls fail, the hostname is still
appended by one successful write at most. -/
theorem reports_of_one_hostname (b : Ledger) (hurls : ∀ url ∈ urls, hostname? url = some host)
    (hlist : s.config.forbidden = .ok b.list) (hnot : ¬ ForbiddenList.Listed b.list host) :
    (∀ z, s.Saves → s.config.threshold = .ok b.threshold →
      s.counters.Steady host (b.counter host) →
      Reaches undisturbed (start .perHostname urls s) z → z.engine.isDone →
      (b.counter host).toInt + tally Reply.readsThreshold z.replies ≤ Int64.maxValue.toInt →
      ∃ order : List Nat, order.length = tally Reply.readsThreshold z.replies ∧
        b.SettlesTogether host order z) ∧
    ∀ z, Reaches ownList (start .perHostname urls s) z →
      tally Reply.storesList z.replies ≤ 1 ∧
        (z.shared.config.forbidden = .ok b.list ∨
          z.shared.config.forbidden = .ok (b.list ++ [host])) := by
  refine ⟨fun z hsaves hthreshold hc hz hdone hroom => ?_, fun z hz => ?_⟩
  · obtain ⟨hy, hagrees⟩ := hz.agrees hurls hlist hnot hsaves hthreshold hc
    obtain ⟨hlength, hsettles⟩ := settlesTogether (hagrees hroom) hy hdone
    exact ⟨_, (List.length_map _).trans hlength, hsettles⟩
  · rcases (hz.appendsOnce hurls hlist).list with ⟨hl, hnone⟩ | ⟨hl, hone⟩
    · exact ⟨Nat.le_trans (Nat.le_of_eq hnone) (Nat.zero_le 1), .inl hl⟩
    · exact ⟨hone, .inr hl⟩

/-- Five reports of one hostname. -/
def fiveReports : Scene :=
  start .perHostname (List.replicate 5 "http://[::1]/") (.withThreshold 2)

/-- All of them have looked up the hostname before any of them counts, and one is not confirmed. -/
def crowded : Scene :=
  fiveReports.play
    (turns [0, 1, 2, 3, 4, 0, 1, 2, 3, 4] ++ ({ probe := fun _ => .response 200 }, 4) ::
      turns ((List.range 160).map (· % 4)))

/-- The hostname has been appended, but whoever wrote it was told otherwise. -/
def unanswered : Scene :=
  fiveReports.play
    (turns (List.replicate 15 0 ++ List.replicate 8 1) ++
      ({ writes := .lost .transport }, 1) :: turns ((List.range 160).map (· % 5)))

theorem reports_of_one_hostname_five :
    (∃ order : List Nat, order.length = 4 ∧
      Ledger.SettlesTogether ⟨[], 2, fun _ => 0⟩ "::1" order crowded) ∧
    crowded.shared.config.forbidden.toOption = some ["::1"] ∧
    (tally Reply.storesList unanswered.replies ≤ 1 ∧
      (unanswered.shared.config.forbidden = .ok [] ∨
        unanswered.shared.config.forbidden = .ok ["::1"])) ∧
    tally Reply.storesList unanswered.replies = 0 ∧
    unanswered.shared.config.forbidden.toOption = some ["::1"] := by
  have hurls : ∀ url ∈ List.replicate 5 "http://[::1]/", hostname? url = some "::1" := by
    decide +kernel
  have hsaves : (Shared.withThreshold 2).Saves :=
    { config := fun _ h => (by cases h), counters := fun _ h => (by cases h) }
  have hanswered : undisturbed.may {} := ⟨fun _ => rfl, rfl, rfl⟩
  have hresponds : undisturbed.may { probe := fun _ => .response 200 } := ⟨fun _ => rfl, rfl, rfl⟩
  have hlost : ownList.may { writes := .lost .transport } :=
    Conditions.truthful_of_answered rfl
  have hcrowded : Reaches undisturbed fiveReports crowded :=
    reaches_play _ (List.forall_mem_append.mpr ⟨may_turns hanswered _,
      List.forall_mem_cons.mpr ⟨hresponds, may_turns hanswered _⟩⟩) _
  have hunanswered : Reaches ownList fiveReports unanswered :=
    reaches_play _ (List.forall_mem_append.mpr ⟨truthful_turns _,
      List.forall_mem_cons.mpr ⟨hlost, truthful_turns _⟩⟩) _
  have hfour : tally Reply.readsThreshold crowded.replies = 4 := by decide +kernel
  obtain ⟨hall, hany⟩ := reports_of_one_hostname ⟨[], 2, fun _ => 0⟩ hurls
    (Shared.forbidden_withThreshold 2) (by decide)
  obtain ⟨order, hlength, hsettles⟩ := hall crowded hsaves
    (Shared.threshold_withThreshold 2) (Shared.steady_withThreshold 2 "::1") hcrowded
    (by decide +kernel) (by rw [hfour]; decide)
  exact ⟨⟨order, hlength.trans hfour, hsettles⟩, by decide +kernel, hany unanswered hunanswered,
    by decide +kernel, by decide +kernel⟩

end Scene

end HostWatch
