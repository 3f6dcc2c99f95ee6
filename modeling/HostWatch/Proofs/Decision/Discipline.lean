import HostWatch.Proofs.Decision.Alone
import HostWatch.Proofs.Decision.Promotion

/-!
# The discipline of a decision

What calls a decision makes, in which order, and what it concludes, when each call may be
answered in any way, whatever was answered before: `Disciplined`. No assumption is made on
the collaborators, so nothing here says what is stored afterwards; it says what is asked,
what is written, and that the first call that fails is the last one.

`Stage.Behaves` is the discipline of a decision that is still under way. A move adds at most
one call to those that it has made, so one case for each call shows that it is kept
(`Behaves.goes`), and `Engine.decide_disciplined` follows the turn of a decision to its end.
-/

namespace HostWatch

/-! ### Kinds of calls -/

namespace Reply

/-- The error of an answer, if it is one. -/
def error? {ε α : Type} : Except ε α → Option ε
  | .ok _ => none
  | .error e => some e

/-- The failure that a call means for its decision; a probe cannot fail in this way. -/
def failure? : Reply → Option DecisionError
  | .configRead key a =>
    if key = thresholdKey then (error? (Threshold.ofAnswer a)).map .config
    else (error? (ForbiddenList.ofAnswer a)).map .config
  | .configWritten _ _ a => (error? a).map .config
  | .counterRead _ a => (error? a).map .counters
  | .counterWritten _ _ _ a => (error? a).map .counters
  | .probed _ _ => none

/-- Whether a call probes an origin. -/
def isProbe : Reply → Bool
  | .probed _ _ => true
  | _ => false

/-- Whether a call writes to the shared configuration. -/
def writesConfig : Reply → Bool
  | .configWritten _ _ _ => true
  | _ => false

/-- Whether a call writes a counter. -/
def writesCounter : Reply → Bool
  | .counterWritten _ _ _ _ => true
  | _ => false

/-- Whether a call reads the threshold, touches a counter or writes anything. -/
def isCounting : Reply → Bool
  | .configRead key _ => key = thresholdKey
  | .probed _ _ => false
  | _ => true

end Reply

/-! ### The discipline -/

/-- A call about a target is in order after the calls made before. -/
structure Orderly (t : Target) (before : List Reply) (r : Reply) : Prop where
  /-- No call has failed before. -/
  unfailed : ∀ q ∈ before, q.failure? = none
  /-- No counter has been written before. -/
  uncounted : ∀ q ∈ before, q.writesCounter = false
  /-- Of the shared configuration the list is read, or the threshold. -/
  configRead : ∀ key a, r = .configRead key a → key = forbiddenKey ∨ key = thresholdKey
  /-- A probe is the first one, and goes to the origin. -/
  probed : ∀ origin result, r = .probed origin result →
    origin = t.origin ∧ ∀ q ∈ before, q.isProbe = false
  /-- The threshold, the counters and all writes come after a probe that brought a timeout. -/
  confirmed : r.isCounting → ∃ result, .probed t.origin result ∈ before ∧ result.outcome = .timedOut
  /-- A write to the shared configuration is the first one. It replaces the list by the one that was
  read last and the hostname, which is not on it, and the count reaches the threshold. -/
  configWritten : ∀ key value a, r = .configWritten key value a →
    key = forbiddenKey ∧ (∀ q ∈ before, q.writesConfig = false) ∧
      ∃ l threshold n, value = ForbiddenList.encode (l ++ [t.hostname]) ∧
        (before.filterMap Reply.list?).getLast? = some l ∧ ¬ ForbiddenList.Listed l t.hostname ∧
        before.filterMap Reply.threshold? = [threshold] ∧
        before.filterMap Reply.counter? = [n] ∧ threshold.toInt ≤ n.toInt + 1
  /-- The counter of the hostname is read. -/
  counterRead : ∀ key a, r = .counterRead key a → key = t.hostname
  /-- The counter of the hostname is written, one more than was read, and without an expiry. -/
  counterWritten : ∀ key n life a, r = .counterWritten key n life a →
    key = t.hostname ∧ life = .unlimited ∧
      ∃ m, before.filterMap Reply.counter? = [m] ∧ n.toInt = m.toInt + 1

/-- The calls and the verdict of a decision about a URL are as they should be. -/
structure Disciplined (url : String) (rs : List Reply) (v : Verdict) : Prop where
  /-- If the URL names no host, no call is made. -/
  malformed : ∀ e, Target.parse url = .error e → rs = [] ∧ v = .error e
  /-- The first call reads the list. -/
  looked : ∀ t, Target.parse url = .ok t → ∃ a, rs.head? = some (.configRead forbiddenKey a)
  /-- If that list has the hostname, no other call is made. -/
  listed : ∀ t a l after, Target.parse url = .ok t → rs = .configRead forbiddenKey a :: after →
    ForbiddenList.ofAnswer a = .ok l → ForbiddenList.Listed l t.hostname →
      after = [] ∧ v = .error (.alreadyListed t.hostname)
  /-- Every call is in order. -/
  orderly : ∀ t before r after, Target.parse url = .ok t → rs = before ++ r :: after →
    Orderly t before r
  /-- If a call fails, it is the last one, and its failure is the verdict. -/
  failed : ∀ before r after e, rs = before ++ r :: after → r.failure? = some e →
    after = [] ∧ v = .error e
  /-- If the counter is as large as it can be, nothing is written. -/
  overflow : ∀ t n, Target.parse url = .ok t → n ∈ rs.filterMap Reply.counter? →
    n = Int64.maxValue → (∀ r ∈ rs, r.writesConfig = false ∧ r.writesCounter = false) ∧
      v = .error (.counters (.overflow t.hostname))
  /-- A verdict that is a failure has one of these causes. -/
  cause : ∀ e, v = .error e → Target.parse url = .error e ∨
    (∃ t a l, Target.parse url = .ok t ∧ rs = [.configRead forbiddenKey a] ∧
      ForbiddenList.ofAnswer a = .ok l ∧ ForbiddenList.Listed l t.hostname ∧
      e = .alreadyListed t.hostname) ∨
    (∃ t, Target.parse url = .ok t ∧ Int64.maxValue ∈ rs.filterMap Reply.counter? ∧
      e = .counters (.overflow t.hostname)) ∨
    ∃ r ∈ rs, r.failure? = some e

/-! ### What the moves of a decision do -/

/-- What the decision will bring, once that is certain. -/
def Stage.settled? : Stage → Option Verdict
  | .updating _ _ (.done v) => some v
  | .released _ _ v => some v
  | .dropped _ v => some v
  | .done v => some v
  | _ => none

section Moves

variable {guard : Settings.Guard} {task : Nat} {g g' : Stage} {ls ls' : Locks} {url host : String}
  {rs : List Reply} {r : Reply} {t : Target}

/-- Once the verdict is certain no call is made, and it stays. -/
theorem Stage.Goes.of_settled {reply : Option Reply} {v : Verdict}
    (h : g.Goes guard task ls reply g' ls') (hv : g.settled? = some v) :
    reply = none ∧ g'.settled? = some v := by
  cases h with
  | ended | released | dropped | removed | rests => exact ⟨rfl, hv⟩
  | updates hu => cases hu <;> cases hv
  | _ => cases hv

/-- A call that fails makes its failure the verdict. -/
theorem Stage.Goes.failed {e : DecisionError} (h : g.Goes guard task ls (some r) g' ls')
    (he : r.failure? = some e) : g'.settled? = some (.error e) := by
  have hkey : forbiddenKey ≠ thresholdKey := by decide
  cases h with
  | unlisted hl _ | listed hl _ => simp [Reply.failure?, hkey, hl, Reply.error?] at he
  | noList hl =>
    simp only [Reply.failure?, hkey, if_false, hl, Reply.error?, Option.map_some] at he
    cases he
    rfl
  | unguarded _ _ | guarded _ _ | notConfirmed _ => cases he
  | updates hu =>
    cases hu with
    | threshold ha => simp [Reply.failure?, ha, Reply.error?] at he
    | noThreshold ha =>
      simp only [Reply.failure?, if_true, ha, Reply.error?, Option.map_some] at he
      cases he
      rfl
    | listed hl _ | unlisted hl _ => simp [Reply.failure?, hkey, hl, Reply.error?] at he
    | noList hl =>
      simp only [Reply.failure?, hkey, if_false, hl, Reply.error?, Option.map_some] at he
      cases he
      rfl
    | noCounter | notAppended | notCounted => cases he; rfl
    | below _ _ | reached _ _ | overflow _ | appended | counted => cases he

/-- A write of a counter makes the verdict certain. -/
theorem Stage.Goes.counted (h : g.Goes guard task ls (some r) g' ls')
    (hr : r.writesCounter = true) : g'.settled?.isSome = true := by
  cases h with
  | updates hu =>
    cases hu with
    | counted | notCounted => rfl
    | _ => cases hr
  | _ => cases hr

/-- Only a decision that counts its timeout reads the threshold, touches a counter or writes. -/
theorem Stage.Goes.counting (h : g.Goes guard task ls (some r) g' ls') (hr : r.isCounting = true) :
    ∃ host lock u u', g = .updating host lock u ∧ g' = .updating host lock u' ∧
      u.Goes host r u' := by
  cases h with
  | updates hu => exact ⟨_, _, _, _, rfl, rfl, hu⟩
  | _ => cases hr

end Moves

/-! ### What a decision has called -/

section Calls

variable {guard : Settings.Guard} {task : Nat} {g g' : Stage} {ls ls' : Locks} {url host : String}
  {rs : List Reply} {r : Reply} {t : Target}

/-- A decision that counts its timeout has read the list and probed the origin of its target before
anything else. -/
theorem Stage.Counting.eq_append {u : Update} (h : Counting url host u rs)
    (ht : Target.parse url = .ok t) :
    host = t.hostname ∧ ∃ a result us, result.outcome = .timedOut ∧ u.After host us ∧
      rs = [.configRead forbiddenKey a, .probed t.origin result] ++ us := by
  obtain ⟨before, us, ⟨t', _, result, ⟨ht', a, l, -, -, rfl⟩, rfl, hout, rfl⟩, hus, rfl⟩ := h
  rw [ht, Except.ok.injEq] at ht'
  subst ht'
  exact ⟨rfl, a, result, us, hout, hus, rfl⟩

/-- A hostname is that of the target of its URL. -/
theorem parse_of_hostname? (h : hostname? url = some host) :
    ∃ t, Target.parse url = .ok t ∧ t.hostname = host := by
  cases ht : Target.parse url with
  | ok t =>
    rw [hostname?_of_parse ht, Option.some.injEq] at h
    exact ⟨t, rfl, h⟩
  | error e =>
    rw [hostname?, ht] at h
    cases h

/-- Only the largest number has no next one. -/
theorem eq_max_of_nextCount? {n : Int64} (h : nextCount? n = none) : n = Int64.maxValue := by
  unfold nextCount? at h
  split_ifs at h with hmax
  exact hmax

/-- When the counter is to be written, one number has been read from it, and the count is the next
one. -/
theorem Update.After.writeCounter {n : Int64} {d : Decision}
    (h : After host rs (.writeCounter n d)) :
    ∃ m, rs.filterMap Reply.counter? = [m] ∧ nextCount? m = some n := by
  obtain _ | ⟨h, hgo⟩ := h
  cases hgo with
  | below hn _ =>
    obtain ⟨a, -, rfl⟩ := h.readCounter
    exact ⟨_, rfl, hn⟩
  | listed _ _ =>
    obtain ⟨a, t, m, -, hn, -, rfl⟩ := h.rereadList
    exact ⟨m, rfl, hn⟩
  | appended =>
    obtain ⟨a, t, m, b, -, hn, -, -, -, rfl⟩ := h.writeList
    exact ⟨m, rfl, hn⟩

/-- The next call of a decision is in order. -/
theorem Stage.Past.orderly (hp : g.Past url rs) (ht : Target.parse url = .ok t)
    (hgo : g.Goes guard task ls (some r) g' ls') (hunfailed : ∀ q ∈ rs, q.failure? = none)
    (huncounted : ∀ q ∈ rs, q.writesCounter = false) : Orderly t rs r where
  unfailed := hunfailed
  uncounted := huncounted
  configRead := by
    rintro key a rfl
    cases hgo with
    | unlisted _ _ | listed _ _ | noList _ => exact .inl rfl
    | updates hu =>
      cases hu with
      | threshold _ | noThreshold _ => exact .inr rfl
      | listed _ _ | unlisted _ _ | noList _ => exact .inl rfl
  probed := by
    rintro origin result rfl
    cases hgo with
    | unguarded _ _ | guarded _ _ | notConfirmed _ =>
      obtain ⟨ht', a, l, -, -, rfl⟩ := hp
      rw [ht, Except.ok.injEq] at ht'
      subst ht'
      exact ⟨rfl, fun q hq => by rw [List.mem_singleton.mp hq]; rfl⟩
    | updates hu => cases hu
  confirmed hr := by
    obtain ⟨host, lock, u, u', rfl, -, -⟩ := hgo.counting hr
    obtain ⟨-, a, result, us, hout, -, rfl⟩ := Counting.eq_append hp ht
    exact ⟨result, List.mem_append_left _ (by simp), hout⟩
  configWritten := by
    rintro key value a rfl
    obtain ⟨host, lock, u, u', rfl, -, hu⟩ := hgo.counting rfl
    obtain ⟨rfl, -⟩ := Counting.eq_append hp ht
    cases hu with
    | @appended n l | @notAppended n l =>
      obtain ⟨looked, origin, p, b, T, m, d, hT, hn, hreach, hl, hhost, rfl⟩ :=
        Counting.writeList hp
      have hkey : forbiddenKey ≠ thresholdKey := by decide
      refine ⟨rfl, by simp [Reply.writesConfig], l, T, m, rfl, ?_, hhost, ?_, ?_, ?_⟩
      · cases h : ForbiddenList.ofAnswer looked <;>
          simp [List.filterMap_cons, Reply.list?, h, hl, hkey.symm, Except.toOption]
      · simp [List.filterMap_cons, Reply.threshold?, hkey, hT, Except.toOption]
      · simp [List.filterMap_cons, Reply.counter?, Except.toOption]
      · rw [← toInt_of_nextCount? hn]
        exact Int64.le_iff_toInt_le.mp (Int64.not_lt.mp hreach)
  counterRead := by
    rintro key a rfl
    obtain ⟨host, lock, u, u', rfl, -, hu⟩ := hgo.counting rfl
    obtain ⟨rfl, -⟩ := Counting.eq_append hp ht
    cases hu <;> rfl
  counterWritten := by
    rintro key n life a rfl
    obtain ⟨host, lock, u, u', rfl, -, hu⟩ := hgo.counting rfl
    obtain ⟨rfl, b, result, us, -, hus, rfl⟩ := Counting.eq_append hp ht
    cases hu with
    | counted | notCounted =>
      obtain ⟨m, hm, hn⟩ := hus.writeCounter
      refine ⟨rfl, rfl, m, ?_, toInt_of_nextCount? hn⟩
      rw [List.filterMap_append, hm]
      rfl

end Calls

/-! ### Decisions under way -/

/-- A decision about a URL that stands at `g` has kept its discipline in its calls `rs`. -/
structure Stage.Behaves (url : String) (g : Stage) (rs : List Reply) : Prop where
  /-- The calls lead to where the decision stands. -/
  past : g.Past url rs
  /-- If the first list has the hostname, no other call is made. -/
  listed : ∀ t a l after, Target.parse url = .ok t → rs = .configRead forbiddenKey a :: after →
    ForbiddenList.ofAnswer a = .ok l → ForbiddenList.Listed l t.hostname →
      after = [] ∧ g.settled? = some (.error (.alreadyListed t.hostname))
  /-- Every call is in order. -/
  orderly : ∀ t before r after, Target.parse url = .ok t → rs = before ++ r :: after →
    Orderly t before r
  /-- If a call has failed, it is the last one, and its failure is the verdict. -/
  failed : ∀ before r after e, rs = before ++ r :: after → r.failure? = some e →
    after = [] ∧ g.settled? = some (.error e)
  /-- If a counter has been written, the verdict is certain. -/
  counted : ∀ r ∈ rs, r.writesCounter = true → g.settled?.isSome
  /-- If the counter is as large as it can be, nothing is written. -/
  overflow : ∀ t n, Target.parse url = .ok t → n ∈ rs.filterMap Reply.counter? →
    n = Int64.maxValue → (∀ r ∈ rs, r.writesConfig = false ∧ r.writesCounter = false) ∧
      g.settled? = some (.error (.counters (.overflow t.hostname)))
  /-- A verdict that is a failure has one of these causes. -/
  cause : ∀ e, g.settled? = some (.error e) → Target.parse url = .error e ∨
    (∃ t a l, Target.parse url = .ok t ∧ rs = [.configRead forbiddenKey a] ∧
      ForbiddenList.ofAnswer a = .ok l ∧ ForbiddenList.Listed l t.hostname ∧
      e = .alreadyListed t.hostname) ∨
    (∃ t, Target.parse url = .ok t ∧ Int64.maxValue ∈ rs.filterMap Reply.counter? ∧
      e = .counters (.overflow t.hostname)) ∨
    ∃ r ∈ rs, r.failure? = some e

namespace Stage.Behaves

variable {guard : Settings.Guard} {task : Nat} {g g' : Stage} {ls ls' : Locks} {url : String}
  {rs : List Reply} {r : Reply}

theorem start (url : String) : (Stage.received url).Behaves url [] where
  past := ⟨rfl, rfl⟩
  listed _ _ _ _ _ h := by cases h
  orderly _ _ _ _ _ h := absurd h.symm (List.append_ne_nil_of_right_ne_nil _ (List.cons_ne_nil _ _))
  failed _ _ _ _ h := absurd h.symm (List.append_ne_nil_of_right_ne_nil _ (List.cons_ne_nil _ _))
  counted _ h := absurd h List.not_mem_nil
  overflow _ _ _ h := absurd h List.not_mem_nil
  cause _ h := by cases h

/-- As long as the verdict is not certain, no call has failed. -/
theorem unfailed (h : g.Behaves url rs) (hg : g.settled? = none) : ∀ q ∈ rs, q.failure? = none := by
  intro q hq
  obtain ⟨before, after, heq⟩ := List.append_of_mem hq
  cases he : q.failure? with
  | none => rfl
  | some e =>
    obtain ⟨-, hsettled⟩ := h.failed before q after e heq he
    rw [hg] at hsettled
    cases hsettled

/-- If the largest number is read from the counter, nothing is written. -/
theorem overflow_of_counter? {t : Target} (hp : g.Past url rs) (ht : Target.parse url = .ok t)
    (hgo : g.Goes guard task ls (some r) g' ls') (hr : r.counter? = some Int64.maxValue) :
    (∀ q ∈ rs ++ [r], q.writesConfig = false ∧ q.writesCounter = false) ∧
      g'.settled? = some (.error (.counters (.overflow t.hostname))) := by
  have hnone : nextCount? Int64.maxValue = none := if_pos rfl
  cases hgo with
  | updates hu =>
    cases hu with
    | below hn _ | reached hn _ =>
      cases hr
      rw [hnone] at hn
      cases hn
    | overflow _ =>
      obtain ⟨rfl, a, result, us, -, hus, rfl⟩ := Counting.eq_append hp ht
      obtain ⟨b, -, rfl⟩ := hus.readCounter
      exact ⟨by simp [Reply.writesConfig, Reply.writesCounter], rfl⟩
    | _ => cases hr
  | _ => cases hr

/-- A call that does not fail ends a decision with a failure only if the hostname is listed or the
counter is as large as it can be. -/
theorem cause_of_unfailed {e : DecisionError} (hp : g.Past url rs)
    (hgo : g.Goes guard task ls (some r) g' ls') (hr : r.failure? = none)
    (he : g'.settled? = some (.error e)) :
    (∃ t a l, Target.parse url = .ok t ∧ rs = [] ∧ r = .configRead forbiddenKey a ∧
      ForbiddenList.ofAnswer a = .ok l ∧ ForbiddenList.Listed l t.hostname ∧
      e = .alreadyListed t.hostname) ∨
    ∃ t, Target.parse url = .ok t ∧ r.counter? = some Int64.maxValue ∧
      e = .counters (.overflow t.hostname) := by
  have hkey : forbiddenKey ≠ thresholdKey := by decide
  cases hgo with
  | listed hl hhost =>
    obtain ⟨ht, rfl⟩ := hp
    cases he
    exact .inl ⟨_, _, _, ht, rfl, rfl, hl, hhost, rfl⟩
  | noList hl => simp [Reply.failure?, hkey, hl, Reply.error?] at hr
  | updates hu =>
    cases hu with
    | overflow hn =>
      cases he
      have hhost := Counting.hostname hp
      obtain ⟨t, ht, rfl⟩ := parse_of_hostname? hhost
      exact .inr ⟨t, ht, congrArg some (eq_max_of_nextCount? hn), rfl⟩
    | noThreshold ha => simp [Reply.failure?, ha, Reply.error?] at hr
    | noList hl => simp [Reply.failure?, hkey, hl, Reply.error?] at hr
    | noCounter | notAppended | notCounted => cases hr
    | _ => cases he
  | _ => cases he

/-- A move without a call. -/
theorem goes_none (h : g.Behaves url rs) (hgo : g.Goes guard task ls none g' ls') :
    g'.Behaves url rs := by
  have hstays : ∀ {v}, g.settled? = some v → g'.settled? = some v :=
    fun hv => (hgo.of_settled hv).2
  have hpast : g'.Past url rs := by
    have hp := h.past.goes hgo
    rwa [Option.toList_none, List.append_nil] at hp
  refine ⟨hpast, ?_, h.orderly, ?_, ?_, ?_, ?_⟩
  · intro t a l after ht heq hl hhost
    obtain ⟨hafter, hv⟩ := h.listed t a l after ht heq hl hhost
    exact ⟨hafter, hstays hv⟩
  · intro before r after e heq he
    obtain ⟨hafter, hv⟩ := h.failed before r after e heq he
    exact ⟨hafter, hstays hv⟩
  · intro r hr hcounter
    obtain ⟨v, hv⟩ := Option.isSome_iff_exists.mp (h.counted r hr hcounter)
    rw [hstays hv, Option.isSome_some]
  · intro t n ht hn hmax
    obtain ⟨hquiet, hv⟩ := h.overflow t n ht hn hmax
    exact ⟨hquiet, hstays hv⟩
  · intro e he
    cases hg : g.settled? with
    | some v =>
      rw [hstays hg, Option.some.injEq] at he
      exact h.cause e (he ▸ hg)
    | none =>
      cases hgo with
      | malformed ht =>
        obtain ⟨rfl, -⟩ := h.past
        cases he
        exact .inl ht
      | ended | released | dropped | removed | rests => cases hg
      | _ => cases he

/-- A move with a call. -/
theorem goes_some (h : g.Behaves url rs) (hgo : g.Goes guard task ls (some r) g' ls') :
    g'.Behaves url (rs ++ [r]) := by
  have hg : g.settled? = none := by
    cases hv : g.settled? with
    | none => rfl
    | some v => cases (hgo.of_settled hv).1
  have hunfailed := h.unfailed hg
  have huncounted : ∀ q ∈ rs, q.writesCounter = false := by
    intro q hq
    by_contra hne
    have hsettled := h.counted q hq (Bool.not_eq_false _ ▸ hne)
    rw [hg] at hsettled
    cases hsettled
  refine ⟨h.past.goes hgo, ?_, ?_, ?_, ?_, ?_, ?_⟩
  · intro t a l after ht heq hl hhost
    cases rs with
    | nil =>
      -- the list that is read is the first one
      cases heq
      have hp := h.past
      cases hgo with
      | listed _ _ =>
        obtain ⟨ht', -⟩ := hp
        rw [ht, Except.ok.injEq] at ht'
        rw [ht']
        exact ⟨rfl, rfl⟩
      | unlisted hl' hnot =>
        rw [hl, Except.ok.injEq] at hl'
        have ht' := hp.1
        rw [ht, Except.ok.injEq] at ht'
        rw [hl', ht'] at hhost
        exact absurd hhost hnot
      | noList hl' =>
        rw [hl] at hl'
        cases hl'
      | updates hu =>
        obtain ⟨-, b, result, us, -, -, hnil⟩ := Counting.eq_append hp ht
        cases hnil
    | cons q rs =>
      obtain ⟨rfl, rfl⟩ := List.cons.inj heq
      obtain ⟨-, hsettled⟩ := h.listed t a l rs ht rfl hl hhost
      rw [hg] at hsettled
      cases hsettled
  · intro t before q after ht heq
    rcases eq_concat_cases heq with ⟨rfl, rfl, rfl⟩ | ⟨after', rfl, hrs⟩
    · exact h.past.orderly ht hgo hunfailed huncounted
    · exact h.orderly t before q after' ht hrs
  · intro before q after e heq he
    rcases eq_concat_cases heq with ⟨rfl, rfl, rfl⟩ | ⟨after', rfl, hrs⟩
    · exact ⟨rfl, hgo.failed he⟩
    · rw [hunfailed q (hrs ▸ List.mem_append_right _ List.mem_cons_self)] at he
      cases he
  · intro q hq hcounter
    rcases List.mem_append.mp hq with hq | hq
    · rw [huncounted q hq] at hcounter
      cases hcounter
    · rw [List.mem_singleton.mp hq] at hcounter
      exact hgo.counted hcounter
  · intro t n ht hn hmax
    rw [List.filterMap_append, List.mem_append] at hn
    rcases hn with hn | hn
    · obtain ⟨-, hsettled⟩ := h.overflow t n ht hn hmax
      rw [hg] at hsettled
      cases hsettled
    · obtain ⟨q, hq, hcount⟩ := List.mem_filterMap.mp hn
      rw [List.mem_singleton.mp hq] at hcount
      exact overflow_of_counter? h.past ht hgo (hmax ▸ hcount)
  · intro e he
    cases hr : r.failure? with
    | some e' =>
      rw [hgo.failed hr] at he
      cases he
      exact .inr (.inr (.inr ⟨r, List.mem_append_right _ List.mem_cons_self, hr⟩))
    | none =>
      rcases cause_of_unfailed h.past hgo hr he with
        ⟨t, a, l, ht, rfl, rfl, hl, hhost, rfl⟩ | ⟨t, ht, hcount, rfl⟩
      · exact .inr (.inl ⟨t, a, l, ht, rfl, hl, hhost, rfl⟩)
      · refine .inr (.inr (.inl ⟨t, ht, List.mem_filterMap.mpr ⟨r, ?_, hcount⟩, rfl⟩))
        exact List.mem_append_right _ List.mem_cons_self

/-- A move keeps the discipline. -/
theorem goes {r : Option Reply} (h : g.Behaves url rs) (hgo : g.Goes guard task ls r g' ls') :
    g'.Behaves url (rs ++ r.toList) := by
  cases r with
  | none => rw [Option.toList_none, List.append_nil]; exact h.goes_none hgo
  | some r => exact h.goes_some hgo

/-- At the end of a decision its calls and its verdict are as they should be. -/
theorem disciplined {v : Verdict} (h : (Stage.done v).Behaves url rs) : Disciplined url rs v where
  malformed e he := by
    rcases h.past with hearly | ⟨host, hcounting⟩
    · cases hearly with
      | malformed he' =>
        rw [he, Except.error.injEq] at he'
        exact ⟨rfl, congrArg Except.error he'.symm⟩
      | noList ht _ | listed ht _ _ | notConfirmed ht _ _ _ =>
        rw [he] at ht
        cases ht
    · obtain ⟨t, ht, -⟩ := parse_of_hostname? hcounting.hostname
      rw [he] at ht
      cases ht
  looked t ht := by
    rcases h.past with hearly | ⟨host, hcounting⟩
    · cases hearly with
      | malformed he =>
        rw [ht] at he
        cases he
      | noList _ _ | listed _ _ _ | notConfirmed _ _ _ _ => exact ⟨_, rfl⟩
    · obtain ⟨-, a, result, us, -, -, rfl⟩ := hcounting.eq_append ht
      exact ⟨a, rfl⟩
  listed t a l after ht heq hl hhost := by
    obtain ⟨hafter, hv⟩ := h.listed t a l after ht heq hl hhost
    exact ⟨hafter, Option.some.inj hv⟩
  orderly := h.orderly
  failed before r after e heq he := by
    obtain ⟨hafter, hv⟩ := h.failed before r after e heq he
    exact ⟨hafter, Option.some.inj hv⟩
  overflow t n ht hn hmax := by
    obtain ⟨hquiet, hv⟩ := h.overflow t n ht hn hmax
    exact ⟨hquiet, Option.some.inj hv⟩
  cause e he := h.cause e (congrArg some he)

end Stage.Behaves

/-! ### Decisions from beginning to end -/

namespace Engine

variable {σ : Type}

/-- A decision about one report is the turn of its task. -/
theorem decide_eq {guard : Settings.Guard} {c : Collaborators σ} {url : String} {w : World σ}
    {e : Engine} {w' : World σ} {v : Verdict}
    (h : (receive guard [url]).turn c (fun _ => false) 0 (Stage.rank (.received "") + 1) w =
      (e, w'))
    (hv : e.tasks = [.done v]) : decide guard c url w = (some v, w') := by
  have hround : (receive guard [url]).round (fun _ => c) (fun _ => false) [0] w = (e, w') := by
    simp only [round, List.foldl_cons, List.foldl_nil, h]
  have hstart : (receive guard [url]).isDone = false := rfl
  have hdone : e.isDone = true := by simp [isDone, hv, Stage.verdict?]
  have hrun : (receive guard [url]).runRounds (fun _ => c) (fun _ => false) w = (e, w') := by
    have hrange : List.range (receive guard [url]).tasks.length = [0] := rfl
    have hfuel : (receive guard [url]).rank + 1 = 13 + 1 + 1 := rfl
    rw [runRounds, hfuel, rounds, hstart, if_neg Bool.false_ne_true, hrange]
    simp only [hround]
    rw [rounds, hdone, if_pos rfl]
  simp only [decide, hrun, hv]
  rfl

/-- A decision stands at `g`, and its calls since `w`, which are on record, have kept their
discipline. -/
def Deciding (url : String) (w : World (Recorded σ)) (g : Stage) (w' : World (Recorded σ)) : Prop :=
  ∃ rs : List Reply, w'.state.replies = w.state.replies ++ rs.map (0, ·) ∧ g.Behaves url rs

theorem Deciding.start (url : String) (w : World (Recorded σ)) :
    Deciding url w (.received url) w :=
  ⟨[], (List.append_nil _).symm, .start url⟩

/-- The next call is put on record too. -/
theorem Deciding.goes {guard : Settings.Guard} {c : Collaborators σ} {url : String} {g g' : Stage}
    {ls ls' : Locks} {r : Option Reply} {w w₁ w₂ : World (Recorded σ)} (h : Deciding url w g w₁)
    (hgo : g.Goes guard 0 ls r g' ls') (hgive : (c.recorded 0).GivesAny w₁.state r w₂.state) :
    Deciding url w g' w₂ := by
  obtain ⟨rs, hreplies, hbehaves⟩ := h
  obtain ⟨-, hrec⟩ := Collaborators.recorded_givesAny hgive
  refine ⟨rs ++ r.toList, ?_, hbehaves.goes hgo⟩
  rw [hrec, hreplies, List.append_assoc, List.map_append]

/-- A decision about a report comes to its end, and whatever its collaborators answer to each of its
calls, its calls and its verdict are as they should be. -/
theorem decide_disciplined (guard : Settings.Guard) (c : Collaborators σ) (url : String)
    (w : World (Recorded σ)) :
    ∃ v w', ∃ rs : List Reply, decide guard (c.recorded 0) url w = (some v, w') ∧
      w'.state.replies = w.state.replies ++ rs.map (0, ·) ∧ Disciplined url rs v := by
  obtain ⟨v, e', w', hturn, -, htasks, -, rs, hreplies, hbehaves⟩ :=
    turn_alone (e := receive guard [url]) Deciding.goes rfl rfl rfl
      (Nat.lt_succ_self (Stage.rank (.received ""))) (Deciding.start url w)
  exact ⟨v, w', rs, decide_eq hturn htasks, hreplies, hbehaves.disciplined⟩

end Engine

end HostWatch
