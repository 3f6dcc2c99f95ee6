import HostWatch.Proofs.Decision.Threshold
import HostWatch.Proofs.Decision.Undisturbed
import Mathlib.Data.List.Induction

/-!
# Reports that come one after another

When an engine handles its reports one after another and no call fails, all that happens
follows from how many timeouts of each hostname have been confirmed. A hostname that is not
on the list at first is on the list exactly when its timeouts have used up its quota
(`Ledger.quota`), and they never go beyond it: below the quota each one is counted, the one
that completes the quota brings the hostname on the list, and from then on no report of it
gets as far as a probe.

`Ledger.Holds` states this for a run under way; `Holds.handle` shows that one more report
keeps it, and `Scene.handleAll_settles` is the closed form of a whole run.
-/

namespace HostWatch

/-! ### What a run starts from -/

/-- What a run of reports starts from. -/
structure Ledger where
  /-- The list. -/
  list : ForbiddenList
  /-- The threshold. -/
  threshold : Int64
  /-- The counter of each hostname. -/
  counter : String → Int64

namespace Ledger

/-- How many confirmed timeouts bring a hostname on the list. -/
def quota (b : Ledger) (host : String) : Nat :=
  (max 1 (b.threshold.toInt - (b.counter host).toInt)).toNat

/-- The stores hold what the ledger says, for reports of some URLs. -/
structure Opens (b : Ledger) (urls : List String) (s : Shared) : Prop where
  /-- No write fails. -/
  saves : s.Saves
  /-- The list is as the ledger says. -/
  list : s.config.forbidden = .ok b.list
  /-- The threshold is as the ledger says. -/
  threshold : s.config.threshold = .ok b.threshold
  /-- The counters of the reported hostnames are as the ledger says, and can be counted up. -/
  counter : ∀ k host, hostOf urls k = some host →
    s.counters.Steady host (b.counter host) ∧ b.counter host < Int64.maxValue
  /-- Different hostnames that are reported also differ ignoring ASCII case. -/
  distinct : ∀ j k host host', hostOf urls j = some host → hostOf urls k = some host' →
    Ascii.EqFold host host' → host = host'

/-- When `n` timeouts of each hostname have been confirmed before, a report ends with a verdict
after some probes. -/
inductive Settles (b : Ledger) (x : Conditions) (url : String) (n : String → Nat) :
    Verdict → List (String × ProbeResult) → Prop where
  /-- The URL names no host. -/
  | malformed {e} : Target.parse url = .error e → Settles b x url n (.error e) []
  /-- The hostname was on the list at first. -/
  | listed {t} : Target.parse url = .ok t → ForbiddenList.Listed b.list t.hostname →
      Settles b x url n (.error (.alreadyListed t.hostname)) []
  /-- The quota of the hostname is used up. -/
  | exhausted {t} : Target.parse url = .ok t → ¬ ForbiddenList.Listed b.list t.hostname →
      b.quota t.hostname ≤ n t.hostname →
      Settles b x url n (.error (.alreadyListed t.hostname)) []
  /-- The timeout is not confirmed. -/
  | notConfirmed {t} : Target.parse url = .ok t → ¬ ForbiddenList.Listed b.list t.hostname →
      n t.hostname < b.quota t.hostname → (x.probe t.origin).outcome ≠ .timedOut →
      Settles b x url n (.ok (.notConfirmed (x.probe t.origin).outcome))
        [(t.origin, x.probe t.origin)]
  /-- The timeout is confirmed, and the quota is not complete. -/
  | watched {t count} : Target.parse url = .ok t → ¬ ForbiddenList.Listed b.list t.hostname →
      n t.hostname + 1 < b.quota t.hostname → (x.probe t.origin).outcome = .timedOut →
      count.toInt = (b.counter t.hostname).toInt + (n t.hostname + 1) →
      Settles b x url n (.ok (.watched count b.threshold)) [(t.origin, x.probe t.origin)]
  /-- The timeout is confirmed, and completes the quota. -/
  | blacklisted {t count} : Target.parse url = .ok t → ¬ ForbiddenList.Listed b.list t.hostname →
      n t.hostname + 1 = b.quota t.hostname → (x.probe t.origin).outcome = .timedOut →
      count.toInt = (b.counter t.hostname).toInt + (n t.hostname + 1) →
      Settles b x url n (.ok (.blacklisted count)) [(t.origin, x.probe t.origin)]

end Ledger

/-! ### The hostnames that a run brings on the list -/

/-- Whether a verdict says that the hostname was appended to the list. -/
def Verdict.isPromotion : Verdict → Bool
  | .ok (.blacklisted _) => true
  | _ => false

/-- The hostnames that decisions have appended to the list, in the order of the reports. -/
def promoted (urls : List String) (tasks : List Stage) : List String :=
  tasks.zipIdx.filterMap fun e =>
    if e.1.verdict?.any Verdict.isPromotion then hostOf urls e.2 else none

theorem promoted_append (urls : List String) (tasks : List Stage) (v : Verdict) :
    promoted urls (tasks ++ [.done v]) =
      promoted urls tasks ++ if v.isPromotion then (hostOf urls tasks.length).toList else [] := by
  rw [promoted, List.zipIdx_append, List.filterMap_append, Nat.zero_add]
  refine congrArg (promoted urls tasks ++ ·) ?_
  by_cases hv : v.isPromotion
  · cases h : hostOf urls tasks.length <;> simp [Stage.verdict?, hv, h]
  · simp [Stage.verdict?, hv]

/-- A hostname that was appended is that of a report. -/
theorem exists_of_mem_promoted {urls : List String} {tasks : List Stage} {host : String}
    (h : host ∈ promoted urls tasks) : ∃ k, hostOf urls k = some host := by
  obtain ⟨⟨g, k⟩, -, hk⟩ := List.mem_filterMap.mp h
  split at hk
  · exact ⟨k, hk⟩
  · cases hk

/-! ### The calls of one report -/

theorem calls_map (task : Nat) (rs : List Reply) : calls task (rs.map (task, ·)) = rs := by
  rw [calls, List.filterMap_map]
  simp

/-- Only a report of a hostname confirms timeouts of it. -/
theorem timeouts_map (urls : List String) (host : String) (task : Nat) (rs : List Reply) :
    timeouts urls host (rs.map (task, ·)) =
      if hostOf urls task = some host then (probes rs).countP (·.2.outcome = .timedOut) else 0 := by
  induction rs with
  | nil => simp [timeouts, probes]
  | cons r rs ih =>
    rw [List.map_cons, timeouts, List.countP_cons, ← timeouts, ih]
    cases r with
    | probed origin result =>
      by_cases hhost : hostOf urls task = some host <;>
        simp [probes, Reply.probe?, isTimeout, hhost, List.countP_cons]
    | _ => simp [probes, List.filterMap_cons, Reply.probe?, isTimeout]

/-! ### A run under way -/

namespace Ledger

theorem quota_pos (b : Ledger) (host : String) : 0 < b.quota host := by
  rw [quota]
  omega

/-- A count is below the threshold as long as the quota is not complete. -/
theorem lt_quota_iff (b : Ledger) {host : String} {n : Nat} {count : Int64}
    (h : count.toInt = (b.counter host).toInt + (n + 1)) :
    count < b.threshold ↔ n + 1 < b.quota host := by
  rw [Int64.lt_iff_toInt_lt, h, quota]
  omega

/-- In a run on the reports of some URLs, from the stores `s`, the reports so far have led to
`z`. -/
structure Holds (b : Ledger) (urls : List String) (s : Shared) (z : Scene) : Prop where
  /-- No hostname has a lock. -/
  table : z.engine.locks.table = []
  /-- Only decisions that are there have made calls. -/
  made : ∀ e ∈ z.replies, e.1 < z.engine.tasks.length
  /-- No write fails. -/
  saves : z.shared.Saves
  /-- The threshold is as it was. -/
  threshold : z.shared.config.threshold = .ok b.threshold
  /-- The list has grown by the hostnames that were appended. -/
  list : z.shared.config.forbidden = .ok (b.list ++ promoted urls z.engine.tasks)
  /-- Each counter has grown by the timeouts. -/
  counter : ∀ host, s.counters.Steady host (b.counter host) →
    ∃ n, z.shared.counters.Steady host n ∧
      n.toInt = (b.counter host).toInt + timeouts urls host z.replies
  /-- The timeouts do not go beyond the quota. -/
  le : ∀ host, timeouts urls host z.replies ≤ b.quota host
  /-- No timeout of a hostname was confirmed that was on the list at first. -/
  listed : ∀ host, ForbiddenList.Listed b.list host → timeouts urls host z.replies = 0
  /-- Any other hostname was appended if its quota is complete. -/
  mem : ∀ host, ¬ ForbiddenList.Listed b.list host →
    (host ∈ promoted urls z.engine.tasks ↔ timeouts urls host z.replies = b.quota host)

section Holds

variable {b : Ledger} {urls : List String} {s : Shared} {guard : Settings.Guard} {z z' : Scene}
  {x : Conditions} {url : String} {t : Target} {v : Verdict} {rs : List Reply}

theorem Opens.holds (h : b.Opens urls s) (guard : Settings.Guard) :
    b.Holds urls s (.start guard [] s) where
  table := rfl
  made _ he := absurd he List.not_mem_nil
  saves := h.saves
  threshold := h.threshold
  list := by
    rw [show promoted urls (Scene.start guard [] s).engine.tasks = [] from rfl, List.append_nil]
    exact h.list
  counter host hc := ⟨_, hc, (Int.add_zero _).symm⟩
  le _ := Nat.zero_le _
  listed _ _ := rfl
  mem host _ := by
    have hpos := b.quota_pos host
    refine ⟨fun hmem => absurd hmem List.not_mem_nil, fun heq => ?_⟩
    rw [← heq] at hpos
    exact absurd hpos (Nat.lt_irrefl 0)

/-- Whether a reported hostname is on the list is a matter of the list at first and the quota. -/
theorem Holds.listed_iff (h : b.Holds urls s z) (ho : b.Opens urls s) {k : Nat} {host : String}
    (hk : hostOf urls k = some host) :
    ForbiddenList.Listed (b.list ++ promoted urls z.engine.tasks) host ↔
      ForbiddenList.Listed b.list host ∨ b.quota host ≤ timeouts urls host z.replies := by
  have hle := h.le host
  constructor
  · rintro ⟨entry, hentry, hfold⟩
    rcases List.mem_append.mp hentry with hentry | hentry
    · exact .inl ⟨entry, hentry, hfold⟩
    · by_cases hfirst : ForbiddenList.Listed b.list host
      · exact .inl hfirst
      · obtain ⟨j, hj⟩ := exists_of_mem_promoted hentry
        obtain rfl := ho.distinct j k entry host hj hk hfold
        exact .inr (Nat.le_of_eq ((h.mem entry hfirst).mp hentry).symm)
  · intro hor
    by_cases hfirst : ForbiddenList.Listed b.list host
    · obtain ⟨entry, hentry, hfold⟩ := hfirst
      exact ⟨entry, List.mem_append_left _ hentry, hfold⟩
    · have hquota := hor.resolve_left hfirst
      have hmem := (h.mem host hfirst).mpr (Nat.le_antisymm hle hquota)
      exact ForbiddenList.listed_of_mem (List.mem_append_right _ hmem)

/-- The counter of a reported hostname that is not on the list can be counted up, to one more than
its timeouts so far. -/
theorem Holds.counter_next (h : b.Holds urls s z) (ho : b.Opens urls s) {k : Nat} {host : String}
    (hk : hostOf urls k = some host)
    (hhost : timeouts urls host z.replies < b.quota host) :
    ∃ m n, z.shared.counters.Steady host m ∧ nextCount? m = some n ∧
      n.toInt = (b.counter host).toInt + (timeouts urls host z.replies + 1) := by
  obtain ⟨hsteady, hlt⟩ := ho.counter k host hk
  obtain ⟨m, hm, hsum⟩ := h.counter host hsteady
  have hT := Int64.toInt_le b.threshold
  rw [Int64.lt_iff_toInt_lt] at hlt
  rw [quota] at hhost
  have hne : m ≠ Int64.maxValue := by
    rintro rfl
    rw [Int64.toInt_maxValue] at hT hlt hsum
    omega
  have hnext : nextCount? m = some (m + 1) := if_neg hne
  exact ⟨m, m + 1, hm, hnext, by rw [toInt_of_nextCount? hnext, hsum]; omega⟩

/-- One more than the counter is one more than the timeouts so far. -/
theorem Holds.count_eq (h : b.Holds urls s z) (ho : b.Opens urls s) {k : Nat} {host : String}
    (hk : hostOf urls k = some host) (hhost : timeouts urls host z.replies < b.quota host)
    {now : Nat} {n : Int64}
    (hn : ∃ m, z.shared.counters.get now host = .ok m ∧ nextCount? m = some n) :
    n.toInt = (b.counter host).toInt + (timeouts urls host z.replies + 1) := by
  obtain ⟨m, hm, hn⟩ := hn
  obtain ⟨m', n', hm', hn', hcount⟩ := h.counter_next ho hk hhost
  rw [hm'.eq hm, hn', Option.some.injEq] at hn
  rw [← hn, hcount]

/-- What the next report finds. -/
theorem Holds.finds (h : b.Holds urls s z) (ho : b.Opens urls s) (hx : x.Answered)
    (hurl : urls[z.engine.tasks.length]? = some url) :
    x.Finds url (b.list ++ promoted urls z.engine.tasks) b.threshold z.shared where
  answered := hx
  saves := h.saves
  list := h.list
  threshold := h.threshold
  counter host hhost hnot := by
    have hk : hostOf urls z.engine.tasks.length = some host := by rw [hostOf, hurl]; exact hhost
    rw [h.listed_iff ho hk, not_or, Nat.not_le] at hnot
    obtain ⟨m, n, hm, hn, -⟩ := h.counter_next ho hk hnot.2
    exact ⟨m, n, hm x.now, hn⟩

/-- Only a report that is there has made calls. -/
theorem Holds.made_append (h : b.Holds urls s z) (hh : Scene.Handles v rs z z') :
    ∀ e ∈ z'.replies, e.1 < z'.engine.tasks.length := by
  intro e he
  rw [hh.tasks, List.length_append, List.length_singleton]
  rw [hh.replies, List.mem_append] at he
  rcases he with he | he
  · exact Nat.lt_succ_of_lt (h.made e he)
  · obtain ⟨r, -, rfl⟩ := List.mem_map.mp he
    exact Nat.lt_succ_self _

/-- A report whose timeout is not confirmed. -/
theorem Holds.unconfirmed (h : b.Holds urls s z) (hh : Scene.Handles v rs z z')
    (hsame : z'.shared = z.shared) (hv : v.isPromotion = false)
    (hquiet : (probes rs).countP (·.2.outcome = .timedOut) = 0) : b.Holds urls s z' := by
  have hpromoted : promoted urls z'.engine.tasks = promoted urls z.engine.tasks := by
    rw [hh.tasks, promoted_append, hv]
    exact List.append_nil _
  have htimeouts : ∀ host, timeouts urls host z'.replies = timeouts urls host z.replies := by
    intro host
    rw [hh.replies, Scene.timeouts_append, timeouts_map, hquiet, ite_self, Nat.add_zero]
  refine ⟨hh.table, h.made_append hh, hsame ▸ h.saves, hsame ▸ h.threshold, ?_, ?_, ?_, ?_, ?_⟩
  · rw [hsame, hpromoted]; exact h.list
  · intro host hc; rw [hsame, htimeouts]; exact h.counter host hc
  · intro host; rw [htimeouts]; exact h.le host
  · intro host; rw [htimeouts]; exact h.listed host
  · intro host; rw [htimeouts, hpromoted]; exact h.mem host

/-- A report whose timeout is confirmed and counted. -/
theorem Holds.confirmed {host : String} {n : Int64} (h : b.Holds urls s z)
    (hh : Scene.Handles v rs z z') (hsaves : z'.shared.Saves)
    (hk : hostOf urls z.engine.tasks.length = some host)
    (hnot : ¬ ForbiddenList.Listed b.list host)
    (hlt : timeouts urls host z.replies < b.quota host)
    (hone : (probes rs).countP (·.2.outcome = .timedOut) = 1)
    (hthreshold : z'.shared.config.threshold = z.shared.config.threshold)
    (hlist : z'.shared.config.forbidden = .ok (b.list ++ promoted urls z'.engine.tasks))
    (hv : v.isPromotion = true ↔ timeouts urls host z.replies + 1 = b.quota host)
    (hn : n.toInt = (b.counter host).toInt + (timeouts urls host z.replies + 1))
    (hset : z.shared.counters.set x.now host n .unlimited = .ok z'.shared.counters) :
    b.Holds urls s z' := by
  have hself : timeouts urls host z'.replies = timeouts urls host z.replies + 1 := by
    rw [hh.replies, Scene.timeouts_append, timeouts_map, hone, if_pos hk]
  have hother : ∀ key, key ≠ host →
      timeouts urls key z'.replies = timeouts urls key z.replies := by
    intro key hne
    have hkey : ¬ hostOf urls z.engine.tasks.length = some key := by
      rw [hk, Option.some.injEq]
      exact hne.symm
    rw [hh.replies, Scene.timeouts_append, timeouts_map, if_neg hkey, Nat.add_zero]
  have hpromoted : ∀ key, key ∈ promoted urls z'.engine.tasks ↔
      key ∈ promoted urls z.engine.tasks ∨
        key = host ∧ timeouts urls host z.replies + 1 = b.quota host := by
    intro key
    rw [hh.tasks, promoted_append, hk, List.mem_append, ← hv]
    by_cases hp : v.isPromotion <;> simp [hp]
  refine ⟨hh.table, h.made_append hh, hsaves, hthreshold.trans h.threshold, hlist, ?_, ?_, ?_, ?_⟩
  · intro key hc
    by_cases hkey : key = host
    · subst hkey
      exact ⟨n, .set hset, by rw [hself, hn]; omega⟩
    · obtain ⟨m, hm, hsum⟩ := h.counter key hc
      exact ⟨m, hm.set_of_ne hset hkey, by rw [hother key hkey]; exact hsum⟩
  · intro key
    by_cases hkey : key = host
    · subst hkey
      rw [hself]
      exact hlt
    · rw [hother key hkey]
      exact h.le key
  · intro key hlisted
    have hkey : key ≠ host := by rintro rfl; exact hnot hlisted
    rw [hother key hkey]
    exact h.listed key hlisted
  · intro key hkeynot
    rw [hpromoted]
    by_cases hkey : key = host
    · subst hkey
      have hold := h.mem key hkeynot
      rw [hself]
      constructor
      · rintro (hmem | ⟨-, heq⟩)
        · exact absurd (hold.mp hmem) (Nat.ne_of_lt hlt)
        · exact heq
      · intro heq
        exact .inr ⟨rfl, heq⟩
    · rw [hother key hkey, ← h.mem key hkeynot]
      constructor
      · rintro (hmem | ⟨heq, -⟩)
        · exact hmem
        · exact absurd heq hkey
      · exact .inl

/-- One more report ends as the timeouts so far say, and keeps what holds of the run. -/
theorem Holds.handle (h : b.Holds urls s z) (ho : b.Opens urls s) (hx : x.Answered)
    (hurl : urls[z.engine.tasks.length]? = some url) :
    ∃ v rs, Scene.Handles v rs z (z.handle x url) ∧
      b.Settles x url (fun host => timeouts urls host z.replies) v (probes rs) ∧
      b.Holds urls s (z.handle x url) := by
  obtain ⟨v, rs, hh, hend, hsaves⟩ := Scene.handle_handles h.table (h.finds ho hx hurl)
  refine ⟨v, rs, hh, ?_⟩
  have hostOf_eq : ∀ {t}, Target.parse url = .ok t →
      hostOf urls z.engine.tasks.length = some t.hostname := by
    intro t ht
    rw [hostOf, hurl]
    exact hostname?_of_parse ht
  generalize hps : probes rs = ps at hend ⊢
  generalize hs' : (z.handle x url).shared = s' at hend
  cases hend with
  | malformed he => exact ⟨.malformed he, h.unconfirmed hh hs' rfl (by rw [hps]; rfl)⟩
  | @listed t ht hlisted =>
    refine ⟨?_, h.unconfirmed hh hs' rfl (by rw [hps]; rfl)⟩
    rw [h.listed_iff ho (hostOf_eq ht)] at hlisted
    by_cases hfirst : ForbiddenList.Listed b.list t.hostname
    · exact .listed ht hfirst
    · exact .exhausted ht hfirst (hlisted.resolve_left hfirst)
  | @notConfirmed t ht hnot hout =>
    rw [h.listed_iff ho (hostOf_eq ht), not_or, Nat.not_le] at hnot
    refine ⟨.notConfirmed ht hnot.1 hnot.2 hout, h.unconfirmed hh hs' rfl ?_⟩
    rw [hps]
    simp [hout]
  | @watched t n _ ht hnot hout hw =>
    have hk := hostOf_eq ht
    rw [h.listed_iff ho hk, not_or, Nat.not_le] at hnot
    have hcount := h.count_eq ho hk hnot.2 hw.next
    have hquota := (b.lt_quota_iff hcount).mp hw.below
    refine ⟨.watched ht hnot.1 hquota hout hcount, ?_⟩
    refine h.confirmed hh hsaves hk hnot.1 hnot.2 ?_ ?_ ?_ ?_ hcount (hs' ▸ hw.counters)
    · rw [hps]; simp [hout]
    · rw [hs', hw.config]
    · rw [hs', hw.config, hh.tasks, promoted_append]
      simpa [Verdict.isPromotion] using h.list
    · simp [Verdict.isPromotion]; omega
  | @blacklisted t n _ ht hnot hout hp =>
    have hk := hostOf_eq ht
    rw [h.listed_iff ho hk, not_or, Nat.not_le] at hnot
    have hcount := h.count_eq ho hk hnot.2 hp.next
    have hquota : timeouts urls t.hostname z.replies + 1 = b.quota t.hostname := by
      have hge := mt (b.lt_quota_iff hcount).mpr hp.reached
      omega
    refine ⟨.blacklisted ht hnot.1 hquota hout hcount, ?_⟩
    refine h.confirmed hh hsaves hk hnot.1 hnot.2 ?_ ?_ ?_ ?_ hcount (hs' ▸ hp.counters)
    · rw [hps]; simp [hout]
    · rw [hs']; exact ConfigStore.threshold_set_of_ne hp.config (by decide)
    · rw [hs', ConfigStore.forbidden_set hp.config, hh.tasks, promoted_append, hk,
        List.append_assoc]
      rfl
    · exact ⟨fun _ => hquota, fun _ => rfl⟩

end Holds

end Ledger

/-! ### Whole runs -/

namespace Scene

/-- Reports come in and are handled one after another. -/
def handleAll (reports : List (Conditions × String)) (z : Scene) : Scene :=
  reports.foldl (fun z r => z.handle r.1 r.2) z

theorem handleAll_concat (reports : List (Conditions × String)) (x : Conditions) (url : String)
    (z : Scene) : z.handleAll (reports ++ [(x, url)]) = (z.handleAll reports).handle x url := by
  rw [handleAll, List.foldl_append]
  rfl

/-- Handling one more report leaves the others as they are. -/
theorem Handles.getElem?_tasks {v : Verdict} {rs : List Reply} {z z' : Scene}
    (hh : Handles v rs z z') {k : Nat} (hk : k < z.engine.tasks.length) :
    z'.engine.tasks[k]? = z.engine.tasks[k]? := by
  rw [hh.tasks, List.getElem?_append_left hk]

theorem Handles.calls_of_ne {v : Verdict} {rs : List Reply} {z z' : Scene}
    (hh : Handles v rs z z') {k : Nat} (hk : k ≠ z.engine.tasks.length) :
    calls k z'.replies = calls k z.replies := by
  have hnone : calls k (rs.map (z.engine.tasks.length, ·)) = [] := by
    rw [calls, List.filterMap_eq_nil_iff]
    intro e he
    obtain ⟨r, -, rfl⟩ := List.mem_map.mp he
    exact if_neg hk.symm
  rw [hh.replies, calls_append, hnone, List.append_nil]

variable {b : Ledger} {urls : List String} {s : Shared} {reports : List (Conditions × String)}

/-- After some of the reports, each of them has ended as the timeouts before it say. -/
theorem handleAll_holds (guard : Settings.Guard) (ho : b.Opens urls s)
    (hx : ∀ r ∈ reports, r.1.Answered) (hurls : reports.map Prod.snd <+: urls) :
    ((start guard [] s).handleAll reports).engine.tasks.length = reports.length ∧
    b.Holds urls s ((start guard [] s).handleAll reports) ∧
    ∀ before x url after, reports = before ++ (x, url) :: after →
      ∃ v, ((start guard [] s).handleAll reports).engine.tasks[before.length]? = some (.done v) ∧
        b.Settles x url
          (fun host => timeouts urls host ((start guard [] s).handleAll before).replies) v
          (probes (calls before.length ((start guard [] s).handleAll reports).replies)) := by
  induction reports using List.reverseRecOn with
  | nil =>
    refine ⟨rfl, ho.holds guard, fun before x url after heq => ?_⟩
    exact absurd heq.symm (List.append_ne_nil_of_right_ne_nil _ (List.cons_ne_nil _ _))
  | append_singleton reports r ih =>
    obtain ⟨x, url⟩ := r
    obtain ⟨hlen, hholds, hall⟩ := ih (fun r hr => hx r (List.mem_append_left _ hr))
      ((List.prefix_append _ _).trans (List.map_append ▸ hurls))
    have hurl : urls[((start guard [] s).handleAll reports).engine.tasks.length]? = some url := by
      obtain ⟨rest, rfl⟩ := hurls
      rw [hlen]
      simp
    obtain ⟨v, rs, hh, hsettles, hholds'⟩ :=
      hholds.handle ho (hx (x, url) (List.mem_append_right _ List.mem_cons_self)) hurl
    rw [handleAll_concat]
    refine ⟨?_, hholds', fun before x' url' after heq => ?_⟩
    · rw [hh.tasks, List.length_append, hlen, List.length_append]
      rfl
    · rcases eq_concat_cases heq with ⟨rfl, hlast, rfl⟩ | ⟨after', rfl, rfl⟩
      · -- it is the last report
        cases hlast
        have hcalls : calls reports.length
            (((start guard [] s).handleAll reports).handle x url).replies = rs := by
          have hbefore : calls reports.length ((start guard [] s).handleAll reports).replies =
              [] := by
            rw [calls, List.filterMap_eq_nil_iff]
            intro e he
            exact if_neg (Nat.ne_of_lt (hlen ▸ hholds.made e he))
          rw [hh.replies, calls_append, hbefore, hlen, calls_map, List.nil_append]
        refine ⟨v, ?_, hcalls.symm ▸ hsettles⟩
        rw [hh.tasks, ← hlen, List.getElem?_concat_length]
      · obtain ⟨v, hv, hsettles'⟩ := hall before x' url' after' rfl
        have hlt : before.length < ((start guard [] s).handleAll
            (before ++ (x', url') :: after')).engine.tasks.length := by
          rw [hlen, List.length_append, List.length_cons]
          omega
        refine ⟨v, ?_, ?_⟩
        · rw [hh.getElem?_tasks hlt, hv]
        · rw [hh.calls_of_ne (Nat.ne_of_lt hlt)]
          exact hsettles'

/-- Reports that are handled one after another. With `n` for the confirmed timeouts of a hostname:
each report ends as the timeouts before it say; a hostname that was not on the list at first is on
it at the end if its quota is complete; the list has grown by the hostnames that were appended, in
the order of the reports; and each counter has grown by `n`, which is not beyond the quota and is 0
for a hostname that was on the list at first. -/
theorem handleAll_settles (guard : Settings.Guard) (ho : b.Opens (reports.map Prod.snd) s)
    (hx : ∀ r ∈ reports, r.1.Answered) :
    (∀ before x url after, reports = before ++ (x, url) :: after →
      ∃ v, ((start guard [] s).handleAll reports).engine.tasks[before.length]? = some (.done v) ∧
        b.Settles x url
          (fun host => timeouts (reports.map Prod.snd) host
            ((start guard [] s).handleAll before).replies) v
          (probes (calls before.length ((start guard [] s).handleAll reports).replies))) ∧
    (∃ l, ((start guard [] s).handleAll reports).shared.config.forbidden = .ok l ∧
      l = b.list ++ promoted (reports.map Prod.snd)
        ((start guard [] s).handleAll reports).engine.tasks ∧
      ∀ host, ¬ ForbiddenList.Listed b.list host →
        (host ∈ l ↔ timeouts (reports.map Prod.snd) host
          ((start guard [] s).handleAll reports).replies = b.quota host)) ∧
    ∀ host, s.counters.Steady host (b.counter host) →
      ∃ count n, ((start guard [] s).handleAll reports).shared.counters.Steady host count ∧
        n = timeouts (reports.map Prod.snd) host
          ((start guard [] s).handleAll reports).replies ∧
        count.toInt = (b.counter host).toInt + n ∧ n ≤ b.quota host ∧
        (ForbiddenList.Listed b.list host → n = 0) := by
  obtain ⟨-, hholds, hall⟩ := handleAll_holds guard ho hx List.prefix_rfl
  refine ⟨hall, ⟨_, hholds.list, rfl, fun host hnot => ?_⟩, fun host hc => ?_⟩
  · rw [← hholds.mem host hnot, List.mem_append]
    exact or_iff_right fun hmem => hnot (ForbiddenList.listed_of_mem hmem)
  · obtain ⟨count, hcount, hsum⟩ := hholds.counter host hc
    exact ⟨count, _, hcount, rfl, hsum, hholds.le host, hholds.listed host⟩

/-- Four reports of one hostname: a timeout below the threshold, one that is not confirmed, a
timeout that reaches the threshold, and a report that comes after that. -/
def fourReports : List (Conditions × String) :=
  [({}, "http://[::1]/"), ({ probe := fun _ => .response 200 }, "http://[::1]/"),
    ({}, "http://[::1]/"), ({}, "http://[::1]/")]

/-- The scene after these reports, where the threshold is 2. -/
def fourHandled : Scene :=
  (start .perHostname [] (.withThreshold 2)).handleAll fourReports

theorem handleAll_settles_fourReports :
    ∃ b : Ledger, b.Opens (fourReports.map Prod.snd) (.withThreshold 2) ∧ b.quota "::1" = 2 ∧
      (∀ r ∈ fourReports, r.1.Answered) ∧
      (∃ l, fourHandled.shared.config.forbidden = .ok l ∧ "::1" ∈ l) ∧
      (∃ count, fourHandled.shared.counters.Steady "::1" count ∧ count.toInt = 2) ∧
      [0, 1, 2, 3].map (fourHandled.decision? ·) =
        [some (.watched 1 2), some (.notConfirmed .responded), some (.blacklisted 2), none] := by
  have hurl : ∀ url ∈ fourReports.map Prod.snd, hostname? url = some "::1" := by decide +kernel
  have hhost : ∀ k host, hostOf (fourReports.map Prod.snd) k = some host → host = "::1" := by
    intro k host hk
    obtain ⟨url, hmem, hname⟩ := Option.bind_eq_some_iff.mp hk
    rw [hurl url (List.mem_of_getElem? hmem), Option.some.injEq] at hname
    exact hname.symm
  have hthreshold : (Shared.withThreshold 2).config.threshold = .ok 2 := by
    have hread : (Shared.withThreshold 2).config.threshold.toOption = some 2 := by decide +kernel
    cases h : (Shared.withThreshold 2).config.threshold with
    | ok t => rw [h, Except.toOption, Option.some.injEq] at hread; rw [hread]
    | error e => rw [h] at hread; cases hread
  have hzero : (0 : Int64) < Int64.maxValue := by decide
  have hb : Ledger.Opens ⟨[], 2, fun _ => 0⟩ (fourReports.map Prod.snd) (.withThreshold 2) :=
    { saves := { config := fun _ h => (by cases h), counters := fun _ h => (by cases h) }
      list := Shared.forbidden_withThreshold 2
      threshold := hthreshold
      counter := fun _ host _ => ⟨Shared.steady_withThreshold 2 host, hzero⟩
      distinct := fun j k host host' hj hk _ => (hhost j host hj).trans (hhost k host' hk).symm }
  have hx : ∀ r ∈ fourReports, r.1.Answered := by
    intro r hr
    simp only [fourReports, List.mem_cons, List.not_mem_nil, or_false] at hr
    rcases hr with rfl | rfl | rfl | rfl <;> exact ⟨fun _ => rfl, rfl, rfl⟩
  have htwo : timeouts (fourReports.map Prod.snd) "::1"
      ((start .perHostname [] (.withThreshold 2)).handleAll fourReports).replies = 2 := by
    decide +kernel
  obtain ⟨-, ⟨l, hl, -, hmem⟩, hcounter⟩ := handleAll_settles .perHostname hb hx
  obtain ⟨count, n, hcount, rfl, hsum, -⟩ := hcounter "::1" (Shared.steady_withThreshold 2 "::1")
  refine ⟨_, hb, by decide, hx, ⟨l, hl, ?_⟩, ⟨count, hcount, ?_⟩, by decide +kernel⟩
  · rw [hmem "::1" (by decide), htwo]
    decide
  · rw [hsum, htwo]
    decide

end Scene

end HostWatch
