import HostWatch.Proofs.Decision.AppendsOnce
import HostWatch.Proofs.Decision.Counts
import HostWatch.Proofs.Decision.Discipline
import HostWatch.Proofs.Decision.Sequential

/-!
# Reports of one hostname while they are handled together

Reports of one hostname that is not on the list at first are handled at the same time, and no call
fails. At each point of the run as many timeouts have been counted as the record of calls says, and
the hostname is on the list from the moment at which the count that completes the quota waits to be
written (`Ledger.Agrees`). The number of a count tells which decision it leads to (`Ledger.due`).

`Ledger.Together` is what is known apart from that: the counts are consecutive, and whoever counts
is alone in the section. The counter must not be as large as it can be, so `Agrees.moves` asks for
as much room as there are decisions that have come to count.
-/

namespace HostWatch

/-! ### The decisions that are counted -/

/-- Whether a call reads the threshold, which is the first call under the lock. -/
def Reply.readsThreshold : Reply → Bool
  | .configRead key _ => key = thresholdKey
  | _ => false

/-- Whether a decision on a hostname has come to count and has not yet written its count. -/
def Stage.isCounting (host : String) : Stage → Bool
  | .updating _ _ .readThreshold => false
  | .updating _ _ (.done _) => false
  | .updating key _ _ => key = host
  | _ => false

/-- Whether a decision on a hostname is about to write its count. -/
def Stage.isWriting (host : String) : Stage → Bool
  | .updating key _ (.writeCounter _ _) => key = host
  | _ => false

theorem Stage.isCounting_of_isWriting {host : String} {g : Stage} (h : g.isWriting host = true) :
    g.isCounting host = true := by
  cases g with
  | updating key lock u =>
    cases u with
    | writeCounter n d => exact h
    | _ => cases h
  | _ => cases h

theorem Stage.eq_of_isCounting {host : String} {g : Stage} (h : g.isCounting host = true) :
    ∃ lock u, g = .updating host lock u := by
  cases g with
  | updating key lock u =>
    cases u with
    | readThreshold | done v => cases h
    | _ =>
      obtain rfl : key = host := of_decide_eq_true h
      exact ⟨lock, _, rfl⟩
  | _ => cases h

namespace Scene

/-- When a decision on a hostname is in the section, no other one counts among those there. -/
theorem Guarded.countP_tasks {z : Scene} (h : z.Guarded) {host : String} {p : Stage → Bool}
    (hp : ∀ {g}, p g = true → g.isCounting host = true) {k : Nat} {lock : Option Nat} {u : Update}
    (hk : z.engine.tasks[k]? = some (.updating host lock u)) :
    z.engine.tasks.countP p = (p (.updating host lock u)).toNat := by
  have hset := countP_set_add hk (.enter host) p
  have hleft : p (.enter host) = false := by
    rw [Bool.eq_false_iff]
    intro henter
    cases hp henter
  have hnone : (z.engine.tasks.set k (.enter host)).countP p = 0 := by
    refine countP_eq_zero fun {j g} hj => Bool.eq_false_iff.mpr fun hpg => ?_
    rcases cases_getElem?_set hk hj with ⟨-, rfl⟩ | ⟨hne, hj⟩
    · cases hleft.symm.trans hpg
    · obtain ⟨lock', u', rfl⟩ := Stage.eq_of_isCounting (hp hpg)
      exact hne (h.exclusive hj hk)
  rw [hnone, hleft] at hset
  simpa using hset.symm

end Scene

namespace Ledger

/-- The decision to which a count of a hostname leads. -/
def due (b : Ledger) (host : String) (n : Int64) : Decision :=
  if n < b.threshold then .watched n b.threshold
  else if n.toInt = (b.counter host).toInt + b.quota host then .blacklisted n
  else .alreadyListed n

theorem count?_due (b : Ledger) (host : String) (n : Int64) : (b.due host n).count? = some n := by
  rw [due]
  split_ifs <;> rfl

/-- How a decision on a hostname can end if no call fails. -/
inductive Ends (b : Ledger) (host : String) : Verdict → Prop where
  /-- The timeout was not confirmed. -/
  | notConfirmed {o} : Ends b host (.ok (.notConfirmed o))
  /-- The hostname was listed before the probe. -/
  | listed : Ends b host (.error (.alreadyListed host))
  /-- The timeout was counted. -/
  | counted {n} : Ends b host (.ok (b.due host n))

/-- What is known of a decision on a hostname from where it stands, if no call fails. -/
def Knows (b : Ledger) (host : String) : Stage → Prop
  | .updating _ _ (.readCounter t) => t = b.threshold
  | .updating _ _ (.rereadList n) => ¬ n < b.threshold
  | .updating _ _ (.writeList n _) => ¬ n < b.threshold
  | .updating _ _ (.writeCounter n d) => d = b.due host n
  | .updating _ _ (.done v) => b.Ends host v
  | .released _ _ v => b.Ends host v
  | .dropped _ v => b.Ends host v
  | .done v => b.Ends host v
  | _ => True

/-- What is on the list for a hostname when some of its timeouts have been counted. -/
def entry (b : Ledger) (host : String) (n : Nat) : ForbiddenList :=
  if b.quota host ≤ n then [host] else []

/-- The timeouts of a hostname that have been counted, or wait to be written. -/
def reached (host : String) (z : Scene) : Nat :=
  (stores host z.replies).length + z.engine.tasks.countP (Stage.isWriting host)

/-- What is known of a run on reports of one hostname apart from how its decisions end. -/
structure Together (b : Ledger) (urls : List String) (host : String) (z : Scene) : Prop where
  /-- All reports are about the hostname. -/
  reports : ∀ url ∈ urls, hostname? url = some host
  /-- The hostname was not listed at first. -/
  unlisted : ¬ ForbiddenList.Listed b.list host
  /-- Every decision has made the calls that lead to where it stands. -/
  traced : z.Traced .perHostname urls
  /-- No two decisions are in the section. -/
  guarded : z.Guarded
  /-- The counts are consecutive. -/
  counted : z.Counted urls host (b.counter host)
  /-- The hostname is appended once at most. -/
  once : z.AppendsOnce b.list host

/-- The stores, the record and the decisions agree on how many timeouts have been counted. -/
structure Agrees (b : Ledger) (host : String) (z : Scene) : Prop where
  /-- No write fails. -/
  saves : z.shared.Saves
  /-- The threshold is as it was. -/
  threshold : z.shared.config.threshold = .ok b.threshold
  /-- Each decision is as its stage says. -/
  knows : ∀ {k : Nat} {g}, z.engine.tasks[k]? = some g → b.Knows host g
  /-- Whoever has read the threshold has written a count, or is going to. -/
  counting : tally Reply.readsThreshold z.replies =
    (stores host z.replies).length + z.engine.tasks.countP (Stage.isCounting host)
  /-- The hostname is on the list if the quota is complete. -/
  list : z.shared.config.forbidden = .ok (b.list ++ b.entry host (reached host z))
  /-- The list has been written if the hostname is on it. -/
  written : tally Reply.writesList z.replies = (b.entry host (reached host z)).length

theorem entry_of_le {b : Ledger} {host : String} {n : Nat} (h : b.quota host ≤ n) :
    b.entry host n = [host] := if_pos h

theorem entry_of_lt {b : Ledger} {host : String} {n : Nat} (h : n < b.quota host) :
    b.entry host n = [] := if_neg (Nat.not_le.mpr h)

section Agrees

variable {b : Ledger} {urls : List String} {host : String} {x : Conditions} {task : Nat}
  {g g' : Stage} {r : Option Reply} {z z' : Scene}

theorem agrees_start {s : Shared} (guard : Settings.Guard) (urls : List String) (hsaves : s.Saves)
    (hlist : s.config.forbidden = .ok b.list) (hthreshold : s.config.threshold = .ok b.threshold) :
    b.Agrees host (.start guard urls s) := by
  have hnone : ∀ p : Stage → Bool, (∀ url, p (.received url) = false) →
      (Scene.start guard urls s).engine.tasks.countP p = 0 := by
    intro p hp
    refine countP_eq_zero fun hk => ?_
    obtain ⟨url, -, rfl⟩ := Scene.of_tasks_start hk
    exact hp url
  have hreached : reached host (.start guard urls s) = 0 := by
    rw [reached, hnone (Stage.isWriting host) fun _ => rfl]
    rfl
  have hentry : b.entry host 0 = [] := entry_of_lt (b.quota_pos host)
  refine ⟨hsaves, hthreshold, fun hk => ?_, ?_, ?_, ?_⟩
  · obtain ⟨url, -, rfl⟩ := Scene.of_tasks_start hk
    trivial
  · rw [hnone (Stage.isCounting host) fun _ => rfl]
    rfl
  · rw [hreached, hentry, List.append_nil]
    exact hlist
  · rw [hreached, hentry]
    rfl

/-- The hostname is listed if the quota is complete. -/
theorem Agrees.listed_iff (h : b.Agrees host z) (hnot : ¬ ForbiddenList.Listed b.list host)
    {l : ForbiddenList} (hl : z.shared.config.forbidden = .ok l) :
    ForbiddenList.Listed l host ↔ b.quota host ≤ reached host z := by
  cases h.list.symm.trans hl
  rcases Nat.lt_or_ge (reached host z) (b.quota host) with hlt | hle
  · rw [entry_of_lt hlt, List.append_nil]
    exact ⟨fun hlisted => absurd hlisted hnot, fun hle => absurd hle (Nat.not_le.mpr hlt)⟩
  · rw [entry_of_le hle]
    exact ⟨fun _ => hle, fun _ => ForbiddenList.listed_append b.list host⟩

/-- A count that is to be written is one more than the counts so far. -/
theorem count_eq (hc : z.Counted urls host (b.counter host)) {k : Nat} {lock : Option Nat}
    {u : Update} {n : Int64} (hk : z.engine.tasks[k]? = some (.updating host lock u))
    (hn : u.pending? = some n) :
    n.toInt = (b.counter host).toInt + ((stores host z.replies).length + 1) := by
  rw [hc.next hk hn, Int.add_assoc]

/-- The timeouts that have been counted are those of the counts on record, as long as the decision
in the section is not about to write. -/
theorem reached_eq (hg : z.Guarded) {k : Nat} {lock : Option Nat} {u : Update}
    (hk : z.engine.tasks[k]? = some (.updating host lock u))
    (hu : Stage.isWriting host (.updating host lock u) = false) :
    reached host z = (stores host z.replies).length := by
  rw [reached, hg.countP_tasks Stage.isCounting_of_isWriting hk, hu]
  rfl

/-- When the hostname is about to be appended, one more count completes the quota. -/
theorem Agrees.quota_eq (h : b.Agrees host z) (hy : b.Together urls host z) {lock : Option Nat}
    {n : Int64} {l : ForbiddenList}
    (hk : z.engine.tasks[task]? = some (.updating host lock (.writeList n l))) :
    l = b.list ∧ n.toInt = (b.counter host).toInt + b.quota host ∧
      b.quota host = reached host z + 1 := by
  obtain ⟨url, -, hpast⟩ := hy.traced.past hk
  obtain ⟨_, _, _, _, _, _, _, -, -, -, -, hunlisted, -⟩ := Stage.Counting.writeList hpast
  have hread := hy.once.fresh hk
  rw [h.listed_iff hy.unlisted hread] at hunlisted
  have hlist := h.list
  rw [entry_of_lt (Nat.not_le.mp hunlisted), List.append_nil] at hlist
  have hn := count_eq hy.counted hk rfl
  have hquota := mt (b.lt_quota_iff hn).mpr (h.knows hk)
  have hreached := reached_eq hy.guarded hk rfl
  refine ⟨Except.ok.inj (hread.symm.trans hlist), ?_, ?_⟩ <;> omega

/-- A call of the counting does not fail, and leads to the decision that is due. -/
theorem Agrees.knows_update {lock : Option Nat} {u u' : Update} {reply : Reply}
    (h : b.Agrees host z) (hy : b.Together urls host z)
    (hroom : (b.counter host).toInt + tally Reply.readsThreshold z.replies ≤
      Int64.maxValue.toInt)
    (hx : x.Answered) (hk : z.engine.tasks[task]? = some (.updating host lock u))
    (hu : u.Goes host reply u') (hgive : x.collaborators.Gives z.shared reply z'.shared) :
    b.Knows host (.updating host lock u') := by
  have hknows := h.knows hk
  cases hu with
  | threshold hthreshold =>
    obtain ⟨rfl, -⟩ := hx.configRead hgive
    cases hthreshold.symm.trans h.threshold
    rfl
  | noThreshold hthreshold =>
    obtain ⟨rfl, -⟩ := hx.configRead hgive
    cases hthreshold.symm.trans h.threshold
  | below hn hlt =>
    obtain rfl : _ = b.threshold := hknows
    exact (if_pos hlt).symm
  | reached hn hnlt =>
    obtain rfl : _ = b.threshold := hknows
    exact hnlt
  | @overflow t n hn =>
    obtain ⟨hread, -⟩ := hx.counterRead hgive
    obtain ⟨v, hv, hgrown⟩ := hy.counted.grown
    have hcounting := h.counting
    rw [hy.guarded.countP_tasks id hk] at hcounting
    simp only [Stage.isCounting, decide_true, Bool.toNat_true] at hcounting
    rw [← hv.eq hread.symm, eq_max_of_nextCount? hn] at hgrown
    omega
  | noCounter =>
    obtain ⟨hread, -⟩ := hx.counterRead hgive
    obtain ⟨v, hv, -⟩ := hy.counted.grown
    cases hread.trans (hv x.now)
  | listed hl hlisted =>
    obtain ⟨rfl, -⟩ := hx.configRead hgive
    have hquota := (h.listed_iff hy.unlisted hl).mp hlisted
    rw [reached_eq hy.guarded hk rfl] at hquota
    have hn := count_eq hy.counted hk rfl
    refine Eq.symm ((if_neg hknows).trans (if_neg ?_))
    omega
  | unlisted hl _ => exact hknows
  | noList hl =>
    obtain ⟨rfl, -⟩ := hx.configRead hgive
    cases hl.symm.trans h.list
  | appended =>
    obtain ⟨-, hn, -⟩ := h.quota_eq hy hk
    exact Eq.symm ((if_neg hknows).trans (if_pos hn))
  | notAppended =>
    obtain ⟨hok, -⟩ := hx.configWritten h.saves hgive
    cases hok
  | counted =>
    obtain rfl : _ = b.due host _ := hknows
    exact .counted
  | notCounted =>
    obtain ⟨hok, -⟩ := hx.counterWritten h.saves hgive
    cases hok

/-- A decision of the run works with the hostname. -/
theorem Together.host_eq (hy : b.Together urls host z) {k : Nat} {key : String}
    (hk : z.engine.tasks[k]? = some g) (hg : g.host? = some key) : key = host :=
  host_eq_of_hostOf hy.reports (hy.traced.hostOf hk hg)

theorem Together.moves (hy : b.Together urls host z) (hx : x.Answered)
    (m : Scene.Moves x task g r g' z z') : b.Together urls host z' where
  reports := hy.reports
  unlisted := hy.unlisted
  traced := hy.traced.moves m
  guarded := hy.guarded.moves hy.traced.guard m
  counted := by
    have hplain : x.counters.IsPlain := by
      rw [hx.counters]
      exact Fate.isPlain_answered
    exact hy.counted.moves hy.traced hy.guarded hplain m
  once := by
    have htruthful := Conditions.truthful_of_answered (hx.reads forbiddenKey)
    exact hy.once.moves hy.traced hy.guarded hy.reports htruthful m

/-- Each decision is as its stage says when one of them has moved. -/
theorem Agrees.moves_knows (h : b.Agrees host z) (hy : b.Together urls host z)
    (hroom : (b.counter host).toInt + tally Reply.readsThreshold z.replies ≤
      Int64.maxValue.toInt)
    (hx : x.Answered) (m : Scene.Moves x task g r g' z z') : b.Knows host g' := by
  have hknows := h.knows m.before
  obtain ⟨ls, ls', hgo⟩ := m.goes_any
  cases hgo with
  | malformed he =>
    obtain ⟨url, hurl, rfl, -⟩ := hy.traced.past m.before
    have hhost := hy.reports _ (List.mem_of_getElem? hurl)
    rw [hostname?, he] at hhost
    cases hhost
  | listed _ _ =>
    rw [hy.host_eq m.before rfl]
    exact .listed
  | noList hl =>
    obtain ⟨rfl, -⟩ := hx.configRead m.gives_some
    cases hl.symm.trans h.list
  | notConfirmed _ => exact .notConfirmed
  | @updates key lock u u' reply ls hu =>
    obtain rfl := hy.host_eq m.before rfl
    exact h.knows_update hy hroom hx m.before hu m.gives_some
  | ended | released | dropped | removed | rests => exact hknows
  | _ => trivial

/-- Whoever reads the threshold comes to count, and ceases to when the count is stored. -/
theorem Together.balance (hy : b.Together urls host z) (m : Scene.Moves x task g r g' z z')
    (hknows : b.Knows host g') :
    (r.any Reply.readsThreshold).toNat + (g.isCounting host).toNat =
      (stores host (r.toList.map (task, ·))).length + (g'.isCounting host).toNat := by
  have hother : decide (forbiddenKey = thresholdKey) = false := by decide
  obtain ⟨ls, ls', hgo⟩ := m.goes_any
  cases hgo with
  | unlisted _ _ | listed _ _ | noList _ =>
    simp [Reply.readsThreshold, stores, Reply.stored?, Stage.isCounting, hother]
  | @updates key lock u u' reply ls hu =>
    obtain rfl := hy.host_eq m.before rfl
    cases hu with
    | noThreshold _ | overflow _ | noCounter | noList _ | notAppended | notCounted => cases hknows
    | threshold _ | below _ _ | reached _ _ | listed _ _ | unlisted _ _ | appended | counted =>
      simp [Reply.readsThreshold, stores, Reply.stored?, Stage.isCounting, hother]
  | _ => rfl

/-- A move after which as many timeouts have been counted as before, and that writes no list. -/
theorem Agrees.keeps (h : b.Agrees host z) (m : Scene.Moves x task g r g' z z')
    (hquiet : r.any Reply.writesList = false)
    (hentry : b.entry host (reached host z') = b.entry host (reached host z)) :
    z'.shared.config.forbidden = .ok (b.list ++ b.entry host (reached host z')) ∧
      tally Reply.writesList z'.replies = (b.entry host (reached host z')).length := by
  have hsame : z'.shared.config.forbidden = z.shared.config.forbidden := by
    rcases m.writes_or with ⟨_, _, _, _, _, -, rfl, -⟩ | ⟨hsame, -⟩
    · cases hquiet
    · exact hsame
  rw [hentry, hsame, m.replies, tally_append, hquiet]
  exact ⟨h.list, h.written⟩

/-- The timeouts that have been counted become one more when a count is to be written. -/
theorem reached_add (m : Scene.Moves x task g r g' z z') (host : String) :
    reached host z' + (g.isWriting host).toNat = reached host z +
      (stores host (r.toList.map (task, ·))).length + (g'.isWriting host).toNat := by
  have hcount := m.countP_tasks (Stage.isWriting host)
  rw [reached, reached, m.replies, stores_append, List.length_append]
  omega

/-- The list has the hostname as soon as the count that completes the quota is to be written. -/
theorem Agrees.moves_list (h : b.Agrees host z) (hy : b.Together urls host z)
    (hy' : b.Together urls host z') (hknows : b.Knows host g')
    (m : Scene.Moves x task g r g' z z') (hx : x.Answered) :
    z'.shared.config.forbidden = .ok (b.list ++ b.entry host (reached host z')) ∧
      tally Reply.writesList z'.replies = (b.entry host (reached host z')).length := by
  have hreached := reached_add m host
  obtain ⟨ls, ls', hgo⟩ := m.goes_any
  cases hgo with
  | @updates key lock u u' reply ls hu =>
    obtain rfl := hy.host_eq m.before rfl
    have hbefore := h.knows m.before
    cases hu with
    | noThreshold _ | overflow _ | noCounter | noList _ | notAppended | notCounted => cases hknows
    | threshold _ | reached _ _ | unlisted _ _ => exact h.keeps m rfl (congrArg _ hreached)
    | counted =>
      have hsame : reached key z' = reached key z := by
        simpa [Stage.isWriting, stores, Reply.stored?] using hreached
      exact h.keeps m rfl (congrArg _ hsame)
    | below hn hlt =>
      obtain rfl : _ = b.threshold := hbefore
      have hone : reached key z' = reached key z + 1 := by
        simpa [Stage.isWriting, stores, Reply.stored?] using hreached
      have hsame : stores key z'.replies = stores key z.replies := by
        rw [m.replies, stores_append]
        exact List.append_nil _
      have hquota := (b.lt_quota_iff (count_eq hy'.counted m.after rfl)).mp hlt
      rw [hsame, ← reached_eq hy.guarded m.before rfl] at hquota
      refine h.keeps m rfl ?_
      rw [entry_of_lt (by omega), entry_of_lt (by omega)]
    | listed hl hlisted =>
      obtain ⟨rfl, -⟩ := hx.configRead m.gives_some
      have hone : reached key z' = reached key z + 1 := by
        simpa [Stage.isWriting, stores, Reply.stored?] using hreached
      have hquota := (h.listed_iff hy.unlisted hl).mp hlisted
      refine h.keeps m rfl ?_
      rw [entry_of_le (by omega), entry_of_le (by omega)]
    | appended =>
      obtain ⟨rfl, -, hquota⟩ := h.quota_eq hy m.before
      obtain ⟨-, hset, -⟩ := hx.configWritten h.saves m.gives_some
      have hone : reached key z' = reached key z + 1 := by
        simpa [Stage.isWriting, stores, Reply.stored?] using hreached
      have hwritten := h.written
      rw [entry_of_lt (by omega), List.length_nil] at hwritten
      rw [entry_of_le (by omega), m.replies, tally_append, hwritten]
      exact ⟨ConfigStore.forbidden_set hset, rfl⟩
  | _ => exact h.keeps m rfl (congrArg _ hreached)

/-- A move that does not fail leaves the threshold as it is, and the next write does not fail. -/
theorem Agrees.moves_saves (h : b.Agrees host z) (hx : x.Answered)
    (m : Scene.Moves x task g r g' z z') :
    z'.shared.Saves ∧ z'.shared.config.threshold = .ok b.threshold := by
  obtain ⟨ls, ls', hgo⟩ := m.goes_any
  have hsame : z'.shared = z.shared →
      z'.shared.Saves ∧ z'.shared.config.threshold = .ok b.threshold := by
    intro hsame
    rw [hsame]
    exact ⟨h.saves, h.threshold⟩
  cases hgo with
  | unlisted _ _ | listed _ _ | noList _ => exact hsame (hx.configRead m.gives_some).2
  | unguarded _ _ | guarded _ _ | notConfirmed _ =>
    exact hsame (Conditions.Answered.probed m.gives_some).2
  | updates hu =>
    cases hu with
    | threshold _ | noThreshold _ | listed _ _ | unlisted _ _ | noList _ =>
      exact hsame (hx.configRead m.gives_some).2
    | below _ _ | reached _ _ | overflow _ | noCounter =>
      exact hsame (hx.counterRead m.gives_some).2
    | appended | notAppended =>
      obtain ⟨-, hset, -, hsaves⟩ := hx.configWritten h.saves m.gives_some
      exact ⟨hsaves, (ConfigStore.threshold_set_of_ne hset (by decide)).trans h.threshold⟩
    | counted | notCounted =>
      obtain ⟨-, -, hconfig, hsaves⟩ := hx.counterWritten h.saves m.gives_some
      exact ⟨hsaves, by rw [hconfig]; exact h.threshold⟩
  | _ => exact hsame m.shared_of_none

/-- A move keeps the stores, the record and the decisions in agreement. -/
theorem Agrees.moves (h : b.Agrees host z) (hy : b.Together urls host z)
    (hy' : b.Together urls host z')
    (hroom : (b.counter host).toInt + tally Reply.readsThreshold z.replies ≤
      Int64.maxValue.toInt)
    (hx : x.Answered) (m : Scene.Moves x task g r g' z z') : b.Agrees host z' := by
  have hknows := h.moves_knows hy hroom hx m
  obtain ⟨hsaves, hthreshold⟩ := h.moves_saves hx m
  obtain ⟨hlist, hwritten⟩ := h.moves_list hy hy' hknows m hx
  refine ⟨hsaves, hthreshold, fun hk => ?_, ?_, hlist, hwritten⟩
  · rcases m.cases_tasks hk with ⟨-, rfl⟩ | ⟨-, hk⟩
    · exact hknows
    · exact h.knows hk
  · have hbalance := hy.balance m hknows
    have hcount := m.countP_tasks (Stage.isCounting host)
    have hcounting := h.counting
    rw [m.replies, tally_append, stores_append, List.length_append]
    omega

end Agrees

end Ledger

end HostWatch
