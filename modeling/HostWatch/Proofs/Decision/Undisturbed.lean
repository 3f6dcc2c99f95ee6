import HostWatch.Proofs.Decision.Alone
import HostWatch.Proofs.Decision.History
import HostWatch.Proofs.Json.Numerals
import HostWatch.Proofs.Storage.Replaceable

/-!
# A decision that nothing disturbs

An engine that has no decision under way handles one more report from beginning to end
(`Scene.handle`). If all calls are answered, no store fails to save, and the counter is
not as large as it can be, the decision can end in five ways only: `Conditions.Concludes`
says for each of them what was probed, what the verdict is, and what the stores hold
afterwards.

`Stage.Stands` says the same of a decision that is still under way. One case for each
move shows that it is kept (`Stands.goes`); as every call brings what the stores hold,
the moves after a failure do not occur.
-/

namespace HostWatch

/-! ### Stores that do not fail -/

/-- The threshold that a store holds. -/
def ConfigStore.threshold (s : ConfigStore) : Except ConfigError Int64 :=
  (access.readThreshold s).1

theorem ConfigStore.threshold_eq (s : ConfigStore) :
    s.threshold = Threshold.ofAnswer (s.get thresholdKey) := rfl

/-- A write under another key leaves the threshold alone. -/
theorem ConfigStore.threshold_set_of_ne {s t : ConfigStore} {key : String} {value : Bytes}
    (h : s.set key value = .ok t) (hk : key ≠ thresholdKey) : t.threshold = s.threshold := by
  rw [threshold_eq, get_set h, if_neg hk.symm, threshold_eq]

/-- The threshold reads back from its written form. -/
theorem Threshold.decode_encode (t : Int64) : decode (encode t) = .ok t :=
  (Json.Reads.record "threshold" (.int64 t)).decode

/-- Where a threshold is stored it is read. -/
theorem Shared.threshold_withThreshold (t : Int64) : (withThreshold t).config.threshold = .ok t := by
  have hget : (withThreshold t).config.get thresholdKey = .ok (Threshold.encode t) := rfl
  rw [ConfigStore.threshold_eq, hget]
  simp only [Threshold.ofAnswer, Threshold.decode_encode]

/-- No write to the stores fails. -/
structure Shared.Saves (s : Shared) : Prop where
  /-- The file of the configuration can be replaced. -/
  config : SnapshotFile.Replaceable s.config.file
  /-- The file of the counters can be replaced. -/
  counters : SnapshotFile.Replaceable s.counters.file

/-! ### Calls that are answered -/

/-- All calls are answered. -/
structure Conditions.Answered (x : Conditions) : Prop where
  /-- Readings of the shared configuration are answered. -/
  reads : ∀ key, x.reads key = .answered
  /-- Writes to the shared configuration are answered. -/
  writes : x.writes = .answered
  /-- Calls to the counters are answered. -/
  counters : x.counters = .answered

namespace Conditions.Answered

variable {x : Conditions} {s s' : Shared}

theorem configRead (hx : x.Answered) {key : String} {a : Except ConfigError Bytes}
    (h : x.collaborators.Gives s (.configRead key a) s') : a = s.config.get key ∧ s' = s := by
  obtain ⟨ha, hs⟩ := Prod.mk.inj h
  rw [hx.reads] at ha
  exact ⟨ha.symm, hs.symm⟩

theorem counterRead (hx : x.Answered) {host : String} {a : Except CounterError Int64}
    (h : x.collaborators.Gives s (.counterRead host a) s') :
    a = s.counters.get x.now host ∧ s' = s := by
  obtain ⟨ha, hs⟩ := Prod.mk.inj h
  rw [hx.counters] at ha
  exact ⟨ha.symm, hs.symm⟩

theorem probed {origin : String} {result : ProbeResult}
    (h : x.collaborators.Gives s (.probed origin result) s') :
    result = x.probe origin ∧ s' = s := by
  obtain ⟨hr, hs⟩ := Prod.mk.inj h
  exact ⟨hr.symm, hs.symm⟩

theorem configWritten (hx : x.Answered) (hs : s.Saves) {key : String} {value : Bytes}
    {a : Except ConfigError Unit} (h : x.collaborators.Gives s (.configWritten key value a) s') :
    a = .ok () ∧ s.config.set key value = .ok s'.config ∧ s'.counters = s.counters ∧ s'.Saves := by
  obtain ⟨t, hset, hnext⟩ := ConfigStore.set_of_replaceable hs.config key value
  obtain ⟨ha, rfl⟩ := Prod.mk.inj h
  simp only [hset, hx.writes] at ha ⊢
  exact ⟨ha.symm, rfl, trivial, hnext, hs.counters⟩

theorem counterWritten (hx : x.Answered) (hs : s.Saves) {host : String} {n : Int64}
    {life : Lifetime} {a : Except CounterError Unit}
    (h : x.collaborators.Gives s (.counterWritten host n life a) s') :
    a = .ok () ∧ s.counters.set x.now host n life = .ok s'.counters ∧ s'.config = s.config ∧
      s'.Saves := by
  obtain ⟨t, hset, hnext⟩ := CounterStore.set_of_replaceable hs.counters x.now host n life
  obtain ⟨ha, rfl⟩ := Prod.mk.inj h
  simp only [hset, hx.counters] at ha ⊢
  exact ⟨ha.symm, rfl, trivial, hs.config, hnext⟩

end Conditions.Answered

/-! ### How a decision can end -/

/-- The origin that a call probes, and what that brings. -/
def Reply.probe? : Reply → Option (String × ProbeResult)
  | .probed origin result => some (origin, result)
  | _ => none

/-- The probes among some calls, and what each brought. -/
def probes (rs : List Reply) : List (String × ProbeResult) :=
  rs.filterMap Reply.probe?

/-- What a decision on the report of a URL finds: calls are answered, the list is `l`, the threshold
is `T`, and the counter of a hostname that is not listed can be counted up. -/
structure Conditions.Finds (x : Conditions) (url : String) (l : ForbiddenList) (T : Int64)
    (s : Shared) : Prop where
  /-- All calls are answered. -/
  answered : x.Answered
  /-- No write fails. -/
  saves : s.Saves
  /-- The list decodes. -/
  list : s.config.forbidden = .ok l
  /-- The threshold is set. -/
  threshold : s.config.threshold = .ok T
  /-- If the hostname is not listed, there is a next count. -/
  counter : ∀ host, hostname? url = some host → ¬ ForbiddenList.Listed l host →
    ∃ m n, s.counters.get x.now host = .ok m ∧ nextCount? m = some n

/-- The count of a confirmed timeout is stored below the threshold. -/
structure Conditions.Watches (x : Conditions) (host : String) (T n : Int64) (s s' : Shared) :
    Prop where
  /-- The count is one more than the counter. -/
  next : ∃ m, s.counters.get x.now host = .ok m ∧ nextCount? m = some n
  /-- It is below the threshold. -/
  below : n < T
  /-- The configuration stays. -/
  config : s'.config = s.config
  /-- The count is written. -/
  counters : s.counters.set x.now host n .unlimited = .ok s'.counters

/-- The count of a confirmed timeout reaches the threshold, and the hostname is appended. -/
structure Conditions.Promotes (x : Conditions) (host : String) (l : ForbiddenList) (T n : Int64)
    (s s' : Shared) : Prop where
  /-- The count is one more than the counter. -/
  next : ∃ m, s.counters.get x.now host = .ok m ∧ nextCount? m = some n
  /-- It reaches the threshold. -/
  reached : ¬ n < T
  /-- The list is written with the hostname at its end. -/
  config : s.config.set forbiddenKey (ForbiddenList.encode (l ++ [host])) = .ok s'.config
  /-- The count is written. -/
  counters : s.counters.set x.now host n .unlimited = .ok s'.counters

/-- A decision on the report of a URL, when the stores are `s`, the list is `l` and the threshold is
`T`, ends with a verdict after some probes, and leaves the stores as they are then. -/
inductive Conditions.Concludes (x : Conditions) (url : String) (l : ForbiddenList) (T : Int64)
    (s : Shared) : Verdict → List (String × ProbeResult) → Shared → Prop where
  /-- The URL names no host. -/
  | malformed {e} : Target.parse url = .error e → Concludes x url l T s (.error e) [] s
  /-- The hostname is listed. -/
  | listed {t} : Target.parse url = .ok t → ForbiddenList.Listed l t.hostname →
      Concludes x url l T s (.error (.alreadyListed t.hostname)) [] s
  /-- The timeout is not confirmed. -/
  | notConfirmed {t} : Target.parse url = .ok t → ¬ ForbiddenList.Listed l t.hostname →
      (x.probe t.origin).outcome ≠ .timedOut →
      Concludes x url l T s (.ok (.notConfirmed (x.probe t.origin).outcome))
        [(t.origin, x.probe t.origin)] s
  /-- The timeout is counted below the threshold. -/
  | watched {t n s'} : Target.parse url = .ok t → ¬ ForbiddenList.Listed l t.hostname →
      (x.probe t.origin).outcome = .timedOut → x.Watches t.hostname T n s s' →
      Concludes x url l T s (.ok (.watched n T)) [(t.origin, x.probe t.origin)] s'
  /-- The timeout is counted and reaches the threshold. -/
  | blacklisted {t n s'} : Target.parse url = .ok t → ¬ ForbiddenList.Listed l t.hostname →
      (x.probe t.origin).outcome = .timedOut → x.Promotes t.hostname l T n s s' →
      Concludes x url l T s (.ok (.blacklisted n)) [(t.origin, x.probe t.origin)] s'

/-- Where the counting of a confirmed timeout stands when nothing has disturbed it. -/
def Update.Stands (x : Conditions) (host : String) (l : ForbiddenList) (T : Int64) (s : Shared) :
    Update → Shared → Prop
  | .readThreshold, s' => s' = s
  | .readCounter t, s' => t = T ∧ s' = s
  | .rereadList n, s' =>
    (∃ m, s.counters.get x.now host = .ok m ∧ nextCount? m = some n) ∧ ¬ n < T ∧ s' = s
  | .writeList n l', s' =>
    (∃ m, s.counters.get x.now host = .ok m ∧ nextCount? m = some n) ∧ ¬ n < T ∧ l' = l ∧ s' = s
  | .writeCounter n d, s' =>
    (∃ m, s.counters.get x.now host = .ok m ∧ nextCount? m = some n) ∧
      (d = .watched n T ∧ n < T ∧ s' = s ∨
        d = .blacklisted n ∧ ¬ n < T ∧ s'.counters = s.counters ∧
          s.config.set forbiddenKey (ForbiddenList.encode (l ++ [host])) = .ok s'.config)
  | .done v, s' =>
    ∃ n, v = .ok (.watched n T) ∧ x.Watches host T n s s' ∨
      v = .ok (.blacklisted n) ∧ x.Promotes host l T n s s'

/-- The timeout of a URL's host is confirmed by a probe. -/
def Conditions.Confirms (x : Conditions) (url host : String) (l : ForbiddenList)
    (ps : List (String × ProbeResult)) : Prop :=
  ∃ t, Target.parse url = .ok t ∧ t.hostname = host ∧ ¬ ForbiddenList.Listed l t.hostname ∧
    (x.probe t.origin).outcome = .timedOut ∧ ps = [(t.origin, x.probe t.origin)]

/-- Where a decision stands that nothing has disturbed, after some probes. -/
def Stage.Stands (x : Conditions) (url : String) (l : ForbiddenList) (T : Int64) (s : Shared) :
    Stage → List (String × ProbeResult) → Shared → Prop
  | .received u, ps, s' => u = url ∧ ps = [] ∧ s' = s
  | .readList t, ps, s' => Target.parse url = .ok t ∧ ps = [] ∧ s' = s
  | .probe t, ps, s' =>
    Target.parse url = .ok t ∧ ¬ ForbiddenList.Listed l t.hostname ∧ ps = [] ∧ s' = s
  | .enter host, ps, s' => x.Confirms url host l ps ∧ s' = s
  | .acquire host _, ps, s' => x.Confirms url host l ps ∧ s' = s
  | .updating host _ u, ps, s' => x.Confirms url host l ps ∧ u.Stands x host l T s s'
  | .released _ _ v, ps, s' => x.Concludes url l T s v ps s'
  | .dropped _ v, ps, s' => x.Concludes url l T s v ps s'
  | .done v, ps, s' => x.Concludes url l T s v ps s'

section Stands

variable {x : Conditions} {url host : String} {l : ForbiddenList} {T : Int64} {s s₁ s₂ : Shared}
  {ps : List (String × ProbeResult)}

/-- A call of the counting. -/
theorem Update.Stands.goes {u u' : Update} {r : Reply} (h : u.Stands x host l T s s₁)
    (hx : x.Finds url l T s) (hhost : hostname? url = some host)
    (hunlisted : ¬ ForbiddenList.Listed l host) (hsaves : s₁.Saves) (hgo : u.Goes host r u')
    (hgive : x.collaborators.Gives s₁ r s₂) : u'.Stands x host l T s s₂ ∧ s₂.Saves := by
  have hcounter := hx.counter host hhost hunlisted
  cases hgo with
  | threshold ha =>
    cases h
    obtain ⟨rfl, rfl⟩ := hx.answered.configRead hgive
    cases ha.symm.trans hx.threshold
    exact ⟨⟨rfl, rfl⟩, hsaves⟩
  | noThreshold ha =>
    cases h
    obtain ⟨rfl, rfl⟩ := hx.answered.configRead hgive
    cases ha.symm.trans hx.threshold
  | below hn hlt =>
    obtain ⟨rfl, rfl⟩ := h
    obtain ⟨hm, rfl⟩ := hx.answered.counterRead hgive
    exact ⟨⟨⟨_, hm.symm, hn⟩, .inl ⟨rfl, hlt, rfl⟩⟩, hsaves⟩
  | reached hn hnot =>
    obtain ⟨rfl, rfl⟩ := h
    obtain ⟨hm, rfl⟩ := hx.answered.counterRead hgive
    exact ⟨⟨⟨_, hm.symm, hn⟩, hnot, rfl⟩, hsaves⟩
  | overflow hnone =>
    obtain ⟨rfl, rfl⟩ := h
    obtain ⟨hm, rfl⟩ := hx.answered.counterRead hgive
    obtain ⟨m, n, hm', hn⟩ := hcounter
    rw [← hm, Except.ok.injEq] at hm'
    rw [hm', hn] at hnone
    cases hnone
  | noCounter =>
    obtain ⟨rfl, rfl⟩ := h
    obtain ⟨hm, rfl⟩ := hx.answered.counterRead hgive
    obtain ⟨m, n, hm', hn⟩ := hcounter
    rw [← hm] at hm'
    cases hm'
  | listed hl hlisted =>
    obtain ⟨hnext, hnot, rfl⟩ := h
    obtain ⟨rfl, rfl⟩ := hx.answered.configRead hgive
    cases hl.symm.trans hx.list
    exact absurd hlisted hunlisted
  | unlisted hl _ =>
    obtain ⟨hnext, hnot, rfl⟩ := h
    obtain ⟨rfl, rfl⟩ := hx.answered.configRead hgive
    cases hl.symm.trans hx.list
    exact ⟨⟨hnext, hnot, rfl, rfl⟩, hsaves⟩
  | noList hl =>
    obtain ⟨hnext, hnot, rfl⟩ := h
    obtain ⟨rfl, rfl⟩ := hx.answered.configRead hgive
    cases hl.symm.trans hx.list
  | appended =>
    obtain ⟨hnext, hnot, rfl, rfl⟩ := h
    obtain ⟨-, hset, hcounters, hsaves'⟩ := hx.answered.configWritten hsaves hgive
    exact ⟨⟨hnext, .inr ⟨rfl, hnot, hcounters, hset⟩⟩, hsaves'⟩
  | notAppended =>
    obtain ⟨ha, -⟩ := hx.answered.configWritten hsaves hgive
    cases ha
  | counted =>
    obtain ⟨hnext, ⟨rfl, hlt, rfl⟩ | ⟨rfl, hnot, hcounters, hset⟩⟩ := h
    · obtain ⟨-, hset, hconfig, hsaves'⟩ := hx.answered.counterWritten hsaves hgive
      exact ⟨⟨_, .inl ⟨rfl, hnext, hlt, hconfig, hset⟩⟩, hsaves'⟩
    · obtain ⟨-, hset', hconfig, hsaves'⟩ := hx.answered.counterWritten hsaves hgive
      rw [hcounters] at hset'
      rw [← hconfig] at hset
      exact ⟨⟨_, .inr ⟨rfl, hnext, hnot, hset, hset'⟩⟩, hsaves'⟩
  | notCounted =>
    obtain ⟨ha, -⟩ := hx.answered.counterWritten hsaves hgive
    cases ha

/-- When the counting is at its end, so is the decision. -/
theorem Update.Stands.concludes {v : Verdict} (h : (Update.done v).Stands x host l T s s₁)
    (hconf : x.Confirms url host l ps) : x.Concludes url l T s v ps s₁ := by
  obtain ⟨t, ht, rfl, hunlisted, hout, rfl⟩ := hconf
  obtain ⟨n, ⟨rfl, hwatch⟩ | ⟨rfl, hpromote⟩⟩ := h
  · exact .watched ht hunlisted hout hwatch
  · exact .blacklisted ht hunlisted hout hpromote

/-- A move. -/
theorem Stage.Stands.goes {guard : Settings.Guard} {task : Nat} {g g' : Stage} {ls ls' : Locks}
    {r : Option Reply} (h : g.Stands x url l T s ps s₁) (hx : x.Finds url l T s)
    (hsaves : s₁.Saves) (hgo : g.Goes guard task ls r g' ls')
    (hgive : x.collaborators.GivesAny s₁ r s₂) :
    g'.Stands x url l T s (ps ++ probes r.toList) s₂ ∧ s₂.Saves := by
  have hnone : ps ++ probes [] = ps := List.append_nil ps
  cases hgo with
  | parsed ht =>
    obtain ⟨rfl, rfl, rfl⟩ := h
    cases hgive
    exact ⟨⟨ht, rfl, rfl⟩, hsaves⟩
  | malformed he =>
    obtain ⟨rfl, rfl, rfl⟩ := h
    cases hgive
    exact ⟨.malformed he, hsaves⟩
  | unlisted hl hnot =>
    obtain ⟨ht, rfl, rfl⟩ := h
    obtain ⟨rfl, rfl⟩ := hx.answered.configRead hgive
    cases hl.symm.trans hx.list
    exact ⟨⟨ht, hnot, rfl, rfl⟩, hsaves⟩
  | listed hl hlisted =>
    obtain ⟨ht, rfl, rfl⟩ := h
    obtain ⟨rfl, rfl⟩ := hx.answered.configRead hgive
    cases hl.symm.trans hx.list
    exact ⟨.listed ht hlisted, hsaves⟩
  | noList hl =>
    obtain ⟨ht, rfl, rfl⟩ := h
    obtain ⟨rfl, rfl⟩ := hx.answered.configRead hgive
    cases hl.symm.trans hx.list
  | unguarded _ hout | guarded _ hout =>
    obtain ⟨ht, hnot, rfl, rfl⟩ := h
    obtain ⟨rfl, rfl⟩ := Conditions.Answered.probed hgive
    exact ⟨⟨⟨_, ht, rfl, hnot, hout, rfl⟩, rfl⟩, hsaves⟩
  | notConfirmed hout =>
    obtain ⟨ht, hnot, rfl, rfl⟩ := h
    obtain ⟨rfl, rfl⟩ := Conditions.Answered.probed hgive
    exact ⟨.notConfirmed ht hnot hout, hsaves⟩
  | entered | acquired _ | waits _ =>
    obtain ⟨hconf, rfl⟩ := h
    cases hgive
    rw [Option.toList_none, hnone]
    exact ⟨⟨hconf, rfl⟩, hsaves⟩
  | @updates host lock u u' r _ hu =>
    obtain ⟨hconf, hstands⟩ := h
    have hquiet : probes [r] = [] := by cases hu <;> rfl
    rw [Option.toList_some, hquiet, List.append_nil]
    obtain ⟨t, ht, rfl, hnot, -⟩ := id hconf
    obtain ⟨hstands', hsaves'⟩ := hstands.goes hx (hostname?_of_parse ht) hnot hsaves hu hgive
    exact ⟨⟨hconf, hstands'⟩, hsaves'⟩
  | ended | released =>
    obtain ⟨hconf, hstands⟩ := h
    cases hgive
    rw [Option.toList_none, hnone]
    exact ⟨hstands.concludes hconf, hsaves⟩
  | dropped | removed | rests =>
    cases hgive
    rw [Option.toList_none, hnone]
    exact ⟨h, hsaves⟩

end Stands

/-! ### One more report -/

namespace Scene

/-- One more report comes in and is handled from beginning to end. -/
def handle (x : Conditions) (url : String) (z : Scene) : Scene :=
  let task := z.engine.tasks.length
  let e := { z.engine with tasks := z.engine.tasks ++ [Stage.received url] }
  let (e, w) := e.turn (x.collaborators.recorded task) (fun _ => false) task
    (Stage.rank (.received url) + 1) z.world
  ⟨e, w⟩

/-- In going from `z` to `z'` one more report was handled, with a verdict and some calls. -/
structure Handles (v : Verdict) (rs : List Reply) (z z' : Scene) : Prop where
  /-- Its task is at its end. -/
  tasks : z'.engine.tasks = z.engine.tasks ++ [.done v]
  /-- No hostname has a lock. -/
  table : z'.engine.locks.table = []
  /-- The calls are put on record. -/
  replies : z'.replies = z.replies ++ rs.map (z.engine.tasks.length, ·)

/-- A decision about one more report stands at `g` in world `w`, and nothing has disturbed it. -/
def Stays (x : Conditions) (url : String) (l : ForbiddenList) (T : Int64) (z : Scene) (g : Stage)
    (w : World (Recorded Shared)) : Prop :=
  ∃ rs : List Reply, w.state.replies = z.replies ++ rs.map (z.engine.tasks.length, ·) ∧
    g.Stands x url l T z.shared (probes rs) w.state.state ∧ w.state.state.Saves

theorem Stays.goes {guard : Settings.Guard} {x : Conditions} {url : String} {l : ForbiddenList}
    {T : Int64} {z : Scene} {g g' : Stage} {ls ls' : Locks} {r : Option Reply}
    {w w' : World (Recorded Shared)} (h : Stays x url l T z g w) (hx : x.Finds url l T z.shared)
    (hgo : g.Goes guard z.engine.tasks.length ls r g' ls')
    (hgive : (x.collaborators.recorded z.engine.tasks.length).GivesAny w.state r w'.state) :
    Stays x url l T z g' w' := by
  obtain ⟨rs, hreplies, hstands, hsaves⟩ := h
  obtain ⟨hgive, hrec⟩ := Collaborators.recorded_givesAny hgive
  obtain ⟨hstands', hsaves'⟩ := hstands.goes hx hsaves hgo hgive
  refine ⟨rs ++ r.toList, ?_, ?_, hsaves'⟩
  · rw [hrec, hreplies, List.append_assoc, List.map_append]
  · rw [probes, List.filterMap_append]
    exact hstands'

/-- A report that is handled alone comes to an end, in one of the ways there are. -/
theorem handle_handles {x : Conditions} {url : String} {l : ForbiddenList} {T : Int64} {z : Scene}
    (htable : z.engine.locks.table = []) (hx : x.Finds url l T z.shared) :
    ∃ v rs, Handles v rs z (z.handle x url) ∧
      x.Concludes url l T z.shared v (probes rs) (z.handle x url).shared ∧
      (z.handle x url).shared.Saves := by
  have hself : (z.engine.tasks ++ [Stage.received url])[z.engine.tasks.length]? =
      some (.received url) := by simp
  obtain ⟨v, e', w', hturn, -, htasks, htable', rs, hreplies, hend, hsaves⟩ :=
    Engine.turn_alone (c := x.collaborators.recorded z.engine.tasks.length)
      (e := { z.engine with tasks := z.engine.tasks ++ [Stage.received url] })
      (P := Stays x url l T z) (fun h hgo hgive => h.goes hx hgo hgive) rfl hself htable
      (Nat.lt_succ_self _) ⟨[], (List.append_nil _).symm, ⟨rfl, rfl, rfl⟩, hx.saves⟩
  have heq : z.handle x url = ⟨e', w'⟩ := by
    simp only [handle, hturn]
  rw [heq]
  refine ⟨v, rs, ⟨?_, htable', hreplies⟩, hend, hsaves⟩
  rw [htasks, List.set_append_right _ _ (Nat.le_refl _), Nat.sub_self]
  rfl

end Scene

end HostWatch
