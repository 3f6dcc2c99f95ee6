import HostWatch.Proofs.Decision.AppendsOnce
import HostWatch.Proofs.Decision.Discipline
import HostWatch.Proofs.Metrics

/-!
# What an engine measures adds up

A decision records at three places, on different sides of calls that may fail: a probe when it
has come back, a promotion when the list is written but the counter is not yet, and the outcome at
the end. `Reaches.balanced` says what this comes to when all decisions are at their ends,
whichever calls failed and however the decisions took turns.

What a step records depends on where it leads (`Stage.measure`), so the counters follow the stages
and the record of calls at any time (`Scene.Measured`). The history of a decision then tells
which of its calls were counted (`Stage.Past.countP_timedOut`, `Stage.Past.countP_storesList`), and
the record is the histories of all tasks together (`Scene.tally_eq_add`).
-/

namespace HostWatch

/-! ### Kinds of outcomes -/

/-- All outcomes of a report. -/
def ReportOutcome.all : List ReportOutcome :=
  [.notConfirmed, .watched, .blacklisted, .alreadyListed, .malformedUrl, .alreadyBlacklisted,
    .configUnavailable, .cacheUnavailable]

/-- All outcomes of a probe. -/
def ProbeOutcome.all : List ProbeOutcome := [.responded, .timedOut, .otherError]

theorem ReportOutcome.mem_all (o : ReportOutcome) : o ∈ all := by cases o <;> decide

theorem ProbeOutcome.mem_all (o : ProbeOutcome) : o ∈ all := by cases o <;> decide

/-- The outcome of a call, if it is a probe. -/
def Reply.outcome? : Reply → Option ProbeOutcome
  | .probed _ result => some result.outcome
  | _ => none

theorem Reply.isSome_outcome? (r : Reply) : r.outcome?.isSome = r.isProbe := by
  cases r <;> rfl

/-- How the handling of a report ended, if it has. -/
def Stage.outcome? (g : Stage) : Option ReportOutcome := g.verdict?.map Verdict.outcome

/-- Whether a confirmed timeout was counted: the hostname is watched, or was listed by this report
or meanwhile. -/
def Verdict.counts : Verdict → Bool
  | .ok (.watched _ _) => true
  | .ok (.blacklisted _) => true
  | .ok (.alreadyListed _) => true
  | _ => false

/-- Whether no decision was reached. -/
def Verdict.failed : Verdict → Bool
  | .ok _ => false
  | .error _ => true

/-- Whether a counter could not be written. -/
def Reply.failsToCount : Reply → Bool
  | .counterWritten _ _ _ (.error _) => true
  | _ => false

/-- Whether the last of some calls failed to write a counter after one of them had stored a list. -/
def failsAfterListing (rs : List Reply) : Bool :=
  rs.getLast?.any Reply.failsToCount && rs.any Reply.storesList

/-! ### What a step records -/

/-- What a step of a decision from one stage to another makes of the metrics. -/
def Stage.measure (g g' : Stage) (m : Metrics) : Metrics :=
  match g, g' with
  | .probe _, .done (.ok (.notConfirmed o)) => (m.count (.probes o)).count (.reports .notConfirmed)
  | .probe _, _ => m.count (.probes .timedOut)
  | .updating host _ (.writeList _ l), .updating _ _ (.writeCounter _ _) =>
    m.promote (l ++ [host]).length
  | .done _, _ => m
  | _, .done v => m.count (.reports v.outcome)
  | _, _ => m

/-- A step records what its stages say. -/
theorem Stage.metrics_step {σ : Type} (guard : Settings.Guard) (c : Collaborators σ) (task : Nat)
    (g : Stage) (ls : Locks) (w : World σ) :
    (g.step guard c task ls w).2.2.metrics =
      g.measure (g.step guard c task ls w).1 w.metrics := by
  cases g with
  | received url =>
    simp only [step, parse]
    split <;> rfl
  | readList t =>
    simp only [step, lookUp]
    split
    · rfl
    · split_ifs <;> rfl
  | probe t =>
    simp only [step, confirm]
    split
    · next h =>
      rw [h]
      split <;> rfl
    · rfl
  | acquire host lock =>
    simp only [step]
    split_ifs <;> rfl
  | updating host lock u =>
    cases u with
    | readThreshold =>
      simp only [step, Update.step]
      split <;> rfl
    | readCounter t =>
      simp only [step, Update.step, Update.weigh]
      split
      · rfl
      · split
        · rfl
        · split_ifs <;> rfl
    | rereadList n =>
      simp only [step, Update.step, Update.checkList]
      split
      · rfl
      · split_ifs <;> rfl
    | writeList n l =>
      simp only [step, Update.step]
      split <;> rfl
    | writeCounter n d =>
      simp only [step, Update.step]
      split <;> rfl
    | done v => cases lock <;> rfl
  | enter _ | released _ _ _ | dropped _ _ | done _ => rfl

/-- A move from `g` to `g'` with the answer `r` takes the metrics from `m` to `m'`. -/
structure Stage.Records (g : Stage) (r : Option Reply) (g' : Stage) (m m' : Metrics) : Prop where
  /-- The outcome is counted when the decision comes to its end. -/
  reports : ∀ o, m'.value (.reports o) + (decide (g.outcome? = some o)).toNat =
    m.value (.reports o) + (decide (g'.outcome? = some o)).toNat
  /-- A probe is counted when it is made. -/
  probes : ∀ o, m'.value (.probes o) =
    m.value (.probes o) + (r.any fun q => q.outcome? = some o).toNat
  /-- A promotion is counted when the list is stored. -/
  promotions : m'.value .promotions = m.value .promotions + (r.any Reply.storesList).toNat
  /-- The length of a list is kept when the list is stored. -/
  forbidden : (∃ l, r = some (.configWritten forbiddenKey (ForbiddenList.encode l) (.ok ())) ∧
      m'.lookup .forbidden = some l.length) ∨
    r.any Reply.storesList = false ∧ m'.lookup .forbidden = m.lookup .forbidden

namespace Stage.Records

variable {g g' : Stage} {r : Option Reply} {m : Metrics} {v : Verdict}

/-- A call that is neither a probe nor stores a list is not measured. -/
def Unmeasured (r : Option Reply) : Prop := ∀ q ∈ r, q.outcome? = none ∧ q.storesList = false

theorem Unmeasured.any_outcome? (h : Unmeasured r) (o : ProbeOutcome) :
    (r.any fun q => q.outcome? = some o) = false := by
  cases r with
  | none => rfl
  | some q => simp [(h q rfl).1]

theorem Unmeasured.any_storesList (h : Unmeasured r) : r.any Reply.storesList = false := by
  cases r with
  | none => rfl
  | some q => exact (h q rfl).2

/-- Nothing is recorded. -/
theorem same (hr : Unmeasured r) (ho : g'.outcome? = g.outcome?) : g.Records r g' m m where
  reports o := by rw [ho]
  probes o := by rw [hr.any_outcome?]; rfl
  promotions := by rw [hr.any_storesList]; rfl
  forbidden := .inr ⟨hr.any_storesList, rfl⟩

/-- A decision comes to its end. -/
theorem ends (hr : Unmeasured r) (ho : g.outcome? = none) :
    g.Records r (.done v) m (m.count (.reports v.outcome)) where
  reports o := by
    rw [Metrics.value_count, ho]
    by_cases h : o = v.outcome <;> simp [outcome?, verdict?, h, eq_comm]
  probes o := by rw [Metrics.value_count, hr.any_outcome?]; rfl
  promotions := by rw [Metrics.value_count, hr.any_storesList]; rfl
  forbidden := .inr ⟨hr.any_storesList, Metrics.lookup_update _ _ _ _⟩

variable {origin : String} {result : ProbeResult} {outcome : ProbeOutcome} {l : ForbiddenList}

/-- A probe is made, and the decision goes on. -/
theorem probed (ho : result.outcome = outcome) (hg : g.outcome? = none) (hg' : g'.outcome? = none) :
    g.Records (some (.probed origin result)) g' m (m.count (.probes outcome)) where
  reports o := by rw [Metrics.value_count, hg, hg']; rfl
  probes o := by
    rw [Metrics.value_count, ← ho]
    by_cases h : o = result.outcome <;> simp [Reply.outcome?, h, eq_comm]
  promotions := by rw [Metrics.value_count]; rfl
  forbidden := .inr ⟨rfl, Metrics.lookup_update _ _ _ _⟩

/-- A probe is made, and the decision comes to its end. -/
theorem probed_ends (hg : g.outcome? = none) :
    g.Records (some (.probed origin result)) (.done v) m
      ((m.count (.probes result.outcome)).count (.reports v.outcome)) := by
  have hprobed : g.Records (some (.probed origin result)) g m (m.count (.probes result.outcome)) :=
    probed rfl hg hg
  have hends : g.Records none (.done v) (m.count (.probes result.outcome))
      ((m.count (.probes result.outcome)).count (.reports v.outcome)) :=
    ends (fun _ hq => by cases hq) hg
  refine ⟨fun o => ?_, fun o => ?_, ?_, .inr ⟨rfl, ?_⟩⟩
  · have := hprobed.reports o
    have := hends.reports o
    omega
  · exact (hends.probes o).trans (hprobed.probes o)
  · exact hends.promotions.trans hprobed.promotions
  · exact (Metrics.lookup_update _ _ _ _).trans (Metrics.lookup_update _ _ _ _)

/-- A list is stored. -/
theorem stored (hg : g.outcome? = none) (hg' : g'.outcome? = none) :
    g.Records (some (.configWritten forbiddenKey (ForbiddenList.encode l) (.ok ()))) g' m
      (m.promote l.length) where
  reports o := by
    rw [Metrics.value_promote _ _ (by simp), Metrics.value_count, hg, hg']
    rfl
  probes o := by
    rw [Metrics.value_promote _ _ (by simp), Metrics.value_count]
    rfl
  promotions := by
    rw [Metrics.value_promote _ _ (by simp), Metrics.value_count]
    rfl
  forbidden := .inl ⟨l, rfl, Metrics.lookup_promote _ _ _⟩

end Stage.Records

/-- What a step records is what its move makes of the metrics. -/
theorem Stage.Goes.records {guard : Settings.Guard} {task : Nat} {g g' : Stage} {ls ls' : Locks}
    {r : Option Reply} (h : g.Goes guard task ls r g' ls') (m : Metrics) :
    g.Records r g' m (g.measure g' m) := by
  have hnone : Records.Unmeasured none := fun _ hq => by cases hq
  have hsome : ∀ {q : Reply}, q.outcome? = none → q.storesList = false →
      Records.Unmeasured (some q) := by
    rintro q ho hs _ ⟨⟩
    exact ⟨ho, hs⟩
  cases h with
  | malformed _ => exact .ends hnone rfl
  | listed _ _ | noList _ => exact .ends (hsome rfl rfl) rfl
  | unlisted _ _ => exact .same (hsome rfl rfl) rfl
  | unguarded _ hr | guarded _ hr => exact .probed hr rfl rfl
  | notConfirmed _ => exact .probed_ends rfl
  | updates hu =>
    cases hu with
    | appended => exact .stored rfl rfl
    | _ => exact .same (hsome rfl rfl) rfl
  | ended | removed => exact .ends hnone rfl
  | _ => exact .same hnone rfl

/-! ### What a decision has recorded -/

/-- In a counting nothing is probed. -/
theorem Update.After.unprobed {host : String} {rs : List Reply} {u : Update} (h : After host rs u) :
    ∀ q ∈ rs, q.outcome? = none := by
  induction h with
  | start => exact fun q hq => absurd hq List.not_mem_nil
  | goes _ hgo ih =>
    intro q hq
    rcases List.mem_append.mp hq with hq | hq
    · exact ih q hq
    · obtain rfl := List.mem_singleton.mp hq
      cases hgo <;> rfl

/-- A counting that comes to a decision has counted the timeout. -/
theorem Update.After.counts {host : String} {rs : List Reply} {d : Decision}
    (h : After host rs (.done (.ok d))) : Verdict.counts (.ok d) = true := by
  obtain _ | ⟨h, hgo⟩ := h
  cases hgo with
  | counted =>
    have hcount := h.count?_eq
    cases d with
    | notConfirmed _ => cases hcount
    | _ => rfl

/-- Whichever call is made last decides, with the lists that were stored before it. -/
theorem failsAfterListing_concat (rs : List Reply) (q : Reply) :
    failsAfterListing (rs ++ [q]) = (q.failsToCount && rs.any Reply.storesList) := by
  rw [failsAfterListing, List.getLast?_concat, Option.any_some, List.any_append]
  cases q with
  | counterWritten _ _ _ _ => simp [Reply.storesList]
  | _ => rfl

/-- Whether a counting has stored a list: the hostname is blacklisted, or the counter could not be
written after the list. -/
def Update.hasListed (rs : List Reply) : Update → Bool
  | .writeCounter _ d => d.outcome = .blacklisted
  | .done v => v.outcome = .blacklisted || v.failed && failsAfterListing rs
  | _ => false

theorem Update.hasListed_ok (rs : List Reply) (d : Decision) :
    hasListed rs (.done (.ok d)) = decide (d.outcome = .blacklisted) := Bool.or_false _

theorem Update.hasListed_error (rs : List Reply) (e : DecisionError) :
    hasListed rs (.done (.error e)) = failsAfterListing rs := by
  cases e <;> rfl

/-- A counting has stored one list or none. -/
theorem Update.After.countP_storesList {host : String} {rs : List Reply} {u : Update}
    (h : After host rs u) : rs.countP Reply.storesList = (u.hasListed rs).toNat := by
  induction h with
  | start => rfl
  | @goes rs u r u' h hgo ih =>
    rw [List.countP_append, ih]
    cases hgo with
    | counted => rw [hasListed_ok]; rfl
    | notCounted =>
      rw [hasListed_error, failsAfterListing_concat, any_eq_of_countP ih]
      rfl
    | noThreshold _ | overflow _ | noCounter | noList _ | notAppended =>
      rw [hasListed_error, failsAfterListing_concat]
      rfl
    | _ => rfl

/-- Where a counting has come to its end, only its own calls tell whether it failed after it had
stored a list. -/
theorem Update.After.failsAfterListing_append {host : String} {before us : List Reply} {v : Verdict}
    (h : After host us (.done v)) (hbefore : before.any Reply.storesList = false) :
    failsAfterListing (before ++ us) = failsAfterListing us := by
  obtain _ | @⟨us, u, q, _, h, -⟩ := h
  rw [← List.append_assoc, failsAfterListing_concat, failsAfterListing_concat, List.any_append,
    hbefore, Bool.false_or]

namespace Stage

variable {url : String} {rs : List Reply} {v : Verdict}

/-- A decision at its end has seen one confirmed timeout if the timeout was counted, or if it failed
after its probe. -/
theorem Past.countP_timedOut (h : (Stage.done v).Past url rs) :
    rs.countP (fun q => q.outcome? = some .timedOut) =
      v.counts.toNat + (v.failed && rs.any Reply.isProbe).toNat := by
  rcases h with hearly | ⟨host, before, us, hconf, hus, rfl⟩
  · cases hearly with
    | notConfirmed _ _ _ hr => simp [Reply.outcome?, Verdict.counts, Verdict.failed, hr]
    | _ => rfl
  · obtain ⟨t, _, r, ⟨-, a, l, -, -, rfl⟩, -, hr, rfl⟩ := hconf
    have hnone : us.countP (fun q => q.outcome? = some .timedOut) = 0 := by
      rw [List.countP_eq_zero]
      intro q hq
      simp [hus.unprobed q hq]
    rw [List.countP_append, hnone]
    cases v with
    | ok d =>
      rw [hus.counts]
      simp [Reply.outcome?, Verdict.failed, hr]
    | error e => simp [Reply.outcome?, Verdict.counts, Verdict.failed, Reply.isProbe, hr]

/-- A decision at its end has stored one list if its hostname is blacklisted, or if it failed to
write the counter after it. -/
theorem Past.countP_storesList (h : (Stage.done v).Past url rs) :
    rs.countP Reply.storesList =
      (decide (v.outcome = .blacklisted)).toNat + (v.failed && failsAfterListing rs).toNat := by
  rcases h with hearly | ⟨host, before, us, hconf, hus, rfl⟩
  · cases hearly with
    | @malformed e _ => cases e <;> rfl
    | _ => rfl
  · obtain ⟨t, _, r, ⟨-, a, l, -, -, rfl⟩, -, -, rfl⟩ := hconf
    rw [List.countP_append, hus.countP_storesList, hus.failsAfterListing_append rfl]
    cases v with
    | ok d =>
      rw [Update.hasListed_ok]
      exact Nat.zero_add _
    | error e =>
      rw [Update.hasListed_error]
      cases e <;> rfl

end Stage

/-! ### What is measured in a run -/

namespace Scene

variable {rules : Rules} {guard : Settings.Guard} {urls : List String} {s : Shared} {x : Conditions}
  {task : Nat} {g g' : Stage} {r : Option Reply} {z z' : Scene}

/-- What has been measured. -/
def metrics (z : Scene) : Metrics := z.world.metrics

/-- What has been measured follows the stages of the decisions and the record of calls. -/
structure Measured (z : Scene) : Prop where
  /-- Decisions that are at their ends are counted by outcome. -/
  reports : ∀ o, z.metrics.value (.reports o) = z.engine.tasks.countP fun g => g.outcome? = some o
  /-- Probes are counted by outcome. -/
  probes : ∀ o, z.metrics.value (.probes o) = tally (fun q => q.outcome? = some o) z.replies
  /-- Lists that were stored are counted. -/
  promotions : z.metrics.value .promotions = tally Reply.storesList z.replies
  /-- The length that is kept is that of a list that was stored. -/
  forbidden : ∀ n, z.metrics.lookup .forbidden = some n → ∃ k l,
    (k, .configWritten forbiddenKey (ForbiddenList.encode l) (.ok ())) ∈ z.replies ∧ l.length = n
  /-- No length is kept as long as no list was stored. -/
  unset : z.metrics.lookup .forbidden = none ↔ tally Reply.storesList z.replies = 0

theorem measured_start (guard : Settings.Guard) (urls : List String) (s : Shared) :
    (start guard urls s).Measured where
  reports o := by
    refine (countP_eq_zero fun hk => ?_).symm
    obtain ⟨url, -, rfl⟩ := of_tasks_start hk
    rfl
  probes _ := rfl
  promotions := rfl
  forbidden _ h := by cases h
  unset := ⟨fun _ => rfl, fun _ => rfl⟩

/-- A step of a scene records what the stages of its move say. -/
theorem Moves.metrics_step (m : Moves x task g r g' z (z.step x task)) :
    (z.step x task).metrics = g.measure g' z.metrics := by
  have hafter := m.after
  simp only [metrics, step, Engine.step, m.before] at hafter ⊢
  rw [List.getElem?_set_self (List.getElem?_eq_some_iff.mp m.before).1, Option.some.injEq] at hafter
  rw [Stage.metrics_step, hafter]

theorem Measured.moves (h : z.Measured) (m : Moves x task g r g' z z')
    (hrecords : g.Records r g' z.metrics z'.metrics) : z'.Measured where
  reports o := by
    have hcount := m.countP_tasks fun g => g.outcome? = some o
    have hreports := hrecords.reports o
    rw [h.reports] at hreports
    omega
  probes o := by rw [hrecords.probes, h.probes, m.replies, tally_append]
  promotions := by rw [hrecords.promotions, h.promotions, m.replies, tally_append]
  forbidden n hn := by
    rw [m.replies]
    rcases hrecords.forbidden with ⟨l, rfl, hl⟩ | ⟨-, hsame⟩
    · rw [hl, Option.some.injEq] at hn
      exact ⟨task, l, List.mem_append_right _ (List.mem_singleton_self _), hn⟩
    · rw [hsame] at hn
      obtain ⟨k, l, hmem, hlen⟩ := h.forbidden n hn
      exact ⟨k, l, List.mem_append_left _ hmem, hlen⟩
  unset := by
    rw [m.replies, tally_append]
    rcases hrecords.forbidden with ⟨l, rfl, hl⟩ | ⟨hnone, hsame⟩
    · have hone : Option.any Reply.storesList
          (some (.configWritten forbiddenKey (ForbiddenList.encode l) (.ok ()))) = true := rfl
      rw [hl, hone]
      exact ⟨fun hn => (by cases hn), fun hn => (by cases hn)⟩
    · rw [hsame, hnone]
      exact h.unset

/-- In every run what has been measured follows the stages and the record. -/
theorem Reaches.measured (h : Reaches rules (start guard urls s) z) : z.Measured := by
  induction h with
  | refl => exact measured_start guard urls s
  | @tail y _ _ step ih =>
    cases step with
    | @task x task _ =>
      rcases y.step_eq_or_moves x task with heq | ⟨g, r, g', m⟩
      · rw [heq]
        exact ih
      · obtain ⟨ls, ls', hgo⟩ := m.goes_any
        exact ih.moves m (m.metrics_step ▸ hgo.records y.metrics)
    | others _ => exact ⟨ih.reports, ih.probes, ih.promotions, ih.forbidden, ih.unset⟩

/-! ### The balance -/

/-- How many decisions are at their ends with a property of their verdicts and calls. -/
def decisions (p : Verdict → List Reply → Bool) (z : Scene) : Nat :=
  (List.range z.engine.tasks.length).countP fun k =>
    (z.engine.tasks[k]?.bind Stage.verdict?).any fun v => p v (calls k z.replies)

/-- Each report has its task, and all calls are those of tasks. -/
theorem Reaches.made_by_tasks (h : Reaches rules (start guard urls s) z) :
    z.engine.tasks.length = urls.length ∧ ∀ e ∈ z.replies, e.1 < urls.length := by
  refine h.invariant
    (fun y => y.engine.tasks.length = urls.length ∧ ∀ e ∈ y.replies, e.1 < urls.length)
    ⟨List.length_map _, fun e he => absurd he List.not_mem_nil⟩ ?_ (fun hy _ => hy)
  rintro x task g r g' y y' - ⟨hlength, hmade⟩ - m
  refine ⟨by rw [m.tasks, List.length_set, hlength], fun e he => ?_⟩
  rw [m.replies, List.mem_append] at he
  rcases he with he | he
  · exact hmade e he
  · obtain ⟨reply, -, rfl⟩ := List.mem_map.mp he
    exact hlength ▸ (List.getElem?_eq_some_iff.mp m.before).1

/-- The record is the histories of all tasks together. -/
theorem tally_eq_sum {n : Nat} {replies : List (Nat × Reply)} (hmade : ∀ e ∈ replies, e.1 < n)
    (f : Reply → Bool) :
    tally f replies = ((List.range n).map fun k => (calls k replies).countP f).sum := by
  have hkinds : ∀ e ∈ replies, ∀ k, (if f e.2 then some e.1 else none) = some k →
      k ∈ List.range n := by
    intro e he k hk
    split_ifs at hk
    cases hk
    exact List.mem_range.mpr (hmade e he)
  have hsum := sum_countP List.nodup_range (fun e : Nat × Reply => if f e.2 then some e.1 else none)
    hkinds
  have hcalls : ∀ k, (calls k replies).countP f =
      replies.countP fun e => (if f e.2 then some e.1 else none) = some k := by
    intro k
    rw [countP_calls]
    refine List.countP_congr fun e _ => ?_
    cases f e.2 <;> simp
  simp only [hcalls, hsum, tally]
  refine List.countP_congr fun e _ => ?_
  cases f e.2 <;> simp

/-- Where each decision has made one call of a kind if it has one of two properties, these calls are
as many as the decisions with the one and those with the other. -/
theorem tally_eq_add (hmade : ∀ e ∈ z.replies, e.1 < z.engine.tasks.length)
    (hdone : z.engine.isDone) {f : Reply → Bool} {p q : Verdict → List Reply → Bool}
    (h : ∀ {k : Nat} {v}, z.engine.tasks[k]? = some (.done v) →
      (calls k z.replies).countP f =
        (p v (calls k z.replies)).toNat + (q v (calls k z.replies)).toNat) :
    tally f z.replies = z.decisions p + z.decisions q := by
  rw [tally_eq_sum hmade, decisions, decisions, ← sum_map_toNat, ← sum_map_toNat,
    ← List.sum_map_add]
  refine congrArg List.sum (List.map_congr_left fun k hk => ?_)
  have htask := List.getElem?_eq_getElem (List.mem_range.mp hk)
  obtain ⟨v, hv⟩ := eq_done_of_isDone hdone htask
  rw [hv] at htask
  rw [h htask, htask]
  rfl

/-- What an engine has measured when all decisions on some reports are at their ends. -/
structure Balanced (urls : List String) (z : Scene) : Prop where
  /-- Each outcome is counted as often as decisions ended with it. -/
  outcomes : ∀ o, z.metrics.value (.reports o) = z.decisions fun v _ => v.outcome = o
  /-- The outcomes add up to the reports. -/
  reports : (ReportOutcome.all.map fun o => z.metrics.value (.reports o)).sum = urls.length
  /-- The outcomes of probes add up to the probes. -/
  probes : (ProbeOutcome.all.map fun o => z.metrics.value (.probes o)).sum =
    tally Reply.isProbe z.replies
  /-- Timeouts that were confirmed are those of the decisions that counted one, and of those that
  failed after their probe. -/
  timedOut : z.metrics.value (.probes .timedOut) =
    z.decisions (fun v _ => v.counts) + z.decisions (fun v rs => v.failed && rs.any Reply.isProbe)
  /-- Promotions are the writes that stored a list. -/
  promotions : z.metrics.value .promotions = tally Reply.storesList z.replies
  /-- These are the writes of the decisions that blacklisted a hostname, and of those that could not
  write their counter afterwards. -/
  promoted : z.metrics.value .promotions =
    z.decisions (fun v _ => v.outcome = .blacklisted) +
      z.decisions (fun v rs => v.failed && failsAfterListing rs)
  /-- The length that is kept is that of a list that was stored. -/
  forbidden : ∀ n, z.metrics.lookup .forbidden = some n → ∃ k l,
    (k, .configWritten forbiddenKey (ForbiddenList.encode l) (.ok ())) ∈ z.replies ∧ l.length = n
  /-- A length is kept if there was a promotion. -/
  kept : z.metrics.lookup .forbidden = none ↔ z.metrics.value .promotions = 0

/-- What has been measured of reports is what their decisions came to. -/
theorem Measured.outcomes (h : z.Measured) (o : ReportOutcome) :
    z.metrics.value (.reports o) = z.decisions fun v _ => v.outcome = o := by
  rw [h.reports, ← countP_range, decisions]
  refine List.countP_congr fun k _ => ?_
  cases z.engine.tasks[k]? with
  | none => rfl
  | some g => cases hv : g.verdict? <;> simp [Stage.outcome?, hv]

/-- When all decisions are at their ends each of them is counted under one outcome. -/
theorem Measured.sum_reports (h : z.Measured) (hdone : z.engine.isDone) :
    (ReportOutcome.all.map fun o => z.metrics.value (.reports o)).sum = z.engine.tasks.length := by
  simp only [h.reports]
  rw [sum_countP (by decide) Stage.outcome? fun _ _ o _ => o.mem_all, List.countP_eq_length]
  intro g hg
  rw [Stage.outcome?, Option.isSome_map]
  exact List.all_eq_true.mp hdone g hg

/-- Each probe is counted under one outcome. -/
theorem Measured.sum_probes (h : z.Measured) :
    (ProbeOutcome.all.map fun o => z.metrics.value (.probes o)).sum =
      tally Reply.isProbe z.replies := by
  simp only [h.probes, tally]
  rw [sum_countP (by decide) (fun e : Nat × Reply => e.2.outcome?) fun _ _ o _ => o.mem_all]
  simp only [Reply.isSome_outcome?]

/-- In every run, under either guard and any interleaving, and whichever calls fail, the metrics
balance when all decisions are at their ends. -/
theorem Reaches.balanced (h : Reaches rules (start guard urls s) z) (hdone : z.engine.isDone) :
    z.Balanced urls := by
  have hmeasured := h.measured
  obtain ⟨hlength, hmade⟩ := h.made_by_tasks
  rw [← hlength] at hmade
  have hpast : ∀ {k : Nat} {v}, z.engine.tasks[k]? = some (.done v) →
      ∃ url, (Stage.done v).Past url (calls k z.replies) := by
    intro k v hk
    obtain ⟨url, -, hpast⟩ := h.traced.past hk
    exact ⟨url, hpast⟩
  refine ⟨hmeasured.outcomes, ?_, hmeasured.sum_probes, ?_, hmeasured.promotions, ?_,
    hmeasured.forbidden, ?_⟩
  · rw [hmeasured.sum_reports hdone, hlength]
  · rw [hmeasured.probes]
    refine tally_eq_add hmade hdone fun hk => ?_
    obtain ⟨url, hpast⟩ := hpast hk
    exact hpast.countP_timedOut
  · rw [hmeasured.promotions]
    refine tally_eq_add hmade hdone fun hk => ?_
    obtain ⟨url, hpast⟩ := hpast hk
    exact hpast.countP_storesList
  · rw [hmeasured.promotions]
    exact hmeasured.unset

/-- Reports of four hostnames and one of none. Two decisions on the first one come to the threshold
before either looks at the list again; the second of them finds the hostname listed. The counter
of another hostname cannot be written after the list, the threshold for a third cannot be read, and
the fourth answers. -/
def mixedEnds : Scene :=
  (start .bestEffort ["http://[::1]/", "http://[::2]/", "http://[::3]/", "http://[::4]/",
    "http://[::1]/", "no host"] (.withThreshold 1)).play
    (turns [0, 0, 0, 4, 4, 4, 0, 4, 0, 4, 0, 0, 0, 4, 4, 0, 4, 1, 1, 1, 1, 1, 1, 1] ++
      ({ counters := .refused (.unavailable "down") }, 1) :: turns [1, 2, 2, 2] ++
      ({ reads := fun _ => .lost .transport }, 2) :: turns [2, 3, 3] ++
      ({ probe := fun _ => .response 200 }, 3) :: turns [5])

theorem balanced_mixedEnds :
    Reaches ⟨fun _ => True, fun _ _ => True⟩ (start .bestEffort ["http://[::1]/", "http://[::2]/",
      "http://[::3]/", "http://[::4]/", "http://[::1]/", "no host"] (.withThreshold 1))
      mixedEnds ∧
    mixedEnds.engine.isDone ∧
    mixedEnds.Balanced ["http://[::1]/", "http://[::2]/", "http://[::3]/", "http://[::4]/",
      "http://[::1]/", "no host"] ∧
    mixedEnds.engine.tasks.map (·.outcome?) = [some .blacklisted, some .cacheUnavailable,
      some .configUnavailable, some .notConfirmed, some .alreadyListed, some .malformedUrl] ∧
    mixedEnds.metrics.value (.probes .timedOut) = 4 ∧
    mixedEnds.metrics.value .promotions = 2 ∧ mixedEnds.metrics.lookup .forbidden = some 2 := by
  have hreach : Reaches ⟨fun _ => True, fun _ _ => True⟩ (start .bestEffort ["http://[::1]/",
      "http://[::2]/", "http://[::3]/", "http://[::4]/", "http://[::1]/", "no host"]
      (.withThreshold 1)) mixedEnds := reaches_play _ (fun _ _ => trivial) _
  have hdone : mixedEnds.engine.isDone = true := by decide +kernel
  exact ⟨hreach, hdone, hreach.balanced hdone, by decide +kernel⟩

end Scene

end HostWatch
