import HostWatch.Proofs.Decision.Counts
import HostWatch.Proofs.Decision.Service

/-!
# A report that is handed out again is counted once

A decision that fails asks for its message again if that can help, so one message may lead
to several decisions. None but the last of them has written a counter: the count is the last
thing that a decision writes, and once it is written the decision is reached
(`Stage.Past.countP_isStored`), so the message is taken and not handed out again.

`Tallies.attempt` says it of single decisions: the decision of a message is that of the last
attempt, and the place of the message tells whether its call is under way or what it came to;
or it has failed and asked for a redelivery. `CountedOnce` adds up the writes, and says that a
message with which nothing can be done is not handed out again.
-/

namespace HostWatch

/-! ### Writes of a decision -/

/-- Whether a counter was written. -/
def Reply.isStored : Reply → Bool
  | .counterWritten _ _ _ (.ok ()) => true
  | _ => false

/-- A counting has written the counter if it has brought a count. -/
theorem Update.After.countP_isStored {host : String} {rs : List Reply} {u : Update}
    (h : After host rs u) (lock : Option Nat) :
    rs.countP Reply.isStored = (Stage.stored? (.updating host lock u)).isSome.toNat := by
  induction h with
  | start => rfl
  | @goes rs u r u' h hgo ih =>
    rw [List.countP_append, ih]
    cases hgo with
    | counted =>
      rw [Stage.stored?, Verdict.count?, Except.toOption, Option.bind_some, h.count?_eq]
      rfl
    | _ => rfl

/-- A decision has written one counter if it has stored its count, and none otherwise. -/
theorem Stage.Past.countP_isStored {url : String} {g : Stage} {rs : List Reply}
    (h : g.Past url rs) : rs.countP Reply.isStored = g.stored?.isSome.toNat := by
  have hconf : ∀ {host rs}, Confirmed url host rs → rs.countP Reply.isStored = 0 := by
    rintro host rs ⟨t, before, r, ⟨-, a, l, -, -, rfl⟩, -, -, rfl⟩
    rfl
  have hcounting : ∀ {host u rs} lock, Counting url host u rs →
      rs.countP Reply.isStored = (stored? (.updating host lock u)).isSome.toNat := by
    rintro host u rs lock ⟨before, us, hbefore, hus, rfl⟩
    rw [List.countP_append, hconf hbefore, hus.countP_isStored lock, Nat.zero_add]
  cases g with
  | received _ | readList _ =>
    obtain ⟨-, rfl⟩ := h
    rfl
  | probe t =>
    obtain ⟨-, a, l, -, -, rfl⟩ := h
    rfl
  | enter host => exact hconf h
  | acquire host lock => exact hconf h
  | updating host lock u => exact hcounting lock h
  | released host lock v => exact hcounting lock h
  | dropped host v => exact hcounting none h
  | done v =>
    rcases h with hearly | ⟨host, h⟩
    · cases hearly <;> rfl
    · exact hcounting none h

/-- Whoever has asked for a redelivery has stored no count. -/
theorem Verdict.count?_of_redeliver {v : Verdict} (h : v.handlerOutcome = .failed .redeliver) :
    Verdict.count? v = none := by
  cases v with
  | ok d => cases h
  | error e => rfl

/-- Whether handling the same report again is of no use: its URL names no host, its hostname is
listed, or its counter is full or holds no number. -/
def DecisionError.isHopeless : DecisionError → Bool
  | .malformedUrl _ _ | .alreadyListed _ => true
  | .counters (.overflow _) | .counters (.notAnInteger _) => true
  | .counters (.unavailable _) | .counters (.storage _) | .config _ => false

theorem DecisionError.disposition_of_isHopeless {e : DecisionError} (h : e.isHopeless = true) :
    e.disposition = .reject := by
  cases e with
  | malformedUrl url reason => rfl
  | alreadyListed hostname => rfl
  | config cause => cases h
  | counters cause =>
    cases cause with
    | overflow key => rfl
    | notAnInteger key => rfl
    | unavailable reason => cases h
    | storage fault => cases h

/-- Whether nothing more is to be done for a message: its report was decided, or is hopeless. -/
def Verdict.isFinal : Verdict → Bool
  | .ok _ => true
  | .error e => e.isHopeless

theorem Verdict.handlerOutcome_of_isFinal {v : Verdict} (h : v.isFinal = true) :
    v.handlerOutcome ≠ .failed .redeliver := by
  cases v with
  | ok d => exact fun h => by cases h
  | error e =>
    rw [handlerOutcome, DecisionError.disposition_of_isHopeless h]
    exact fun h => by cases h

/-! ### Attempts -/

/-- If the handler is at work on a message or has answered, it has been called in the last
attempt. -/
theorem Place.isCalled_of_last {p : Place} {o : HandlerOutcome}
    (h : (∃ r, p = .handling r) ∨ p.answer? = some o) : p.isCalled = true := by
  rcases h with ⟨r, rfl⟩ | h
  · rfl
  · cases p <;> first | rfl | cases h

/-- Where the handler has been called in the same last attempt, it has been called with the same
messages. -/
theorem Queue.Has.callsOf_eq {q q' : Queue} {l l' : QueueLog} {m : Message} {p p' : Place} {k : Nat}
    (h : q.Has l m p k) (h' : q'.Has l' m p' k) (hp : p.isCalled = true)
    (hp' : p'.isCalled = true) : q'.callsOf m.id = q.callsOf m.id := by
  have hcalls := h.lives.calls
  have hcalls' := h'.lives.calls
  rw [hp] at hcalls
  rw [hp'] at hcalls'
  exact List.reverse_injective (hcalls'.trans hcalls.symm)

namespace Service

variable {σ : Type} {policy : RedeliveryPolicy} {concurrency : Nat} {s s' : Service σ}
  {q q' : Queue} {l l' : QueueLog} {m c : Message} {p : Place} {k task : Nat}

/-- A decision about a message is that of the last attempt, whose call is under way or came to its
verdict, or it has asked for a redelivery. -/
theorem Tallies.attempt (h : s.Tallies q l) (hhas : q.Has l m p k) (hc : q.call? task = some c)
    (hid : c.id = m.id) :
    (c = m.retry k ∧ ((∃ r, p = .handling r) ∨
      ∃ v, s.tasks[task]? = some (.done v) ∧ p.answer? = some v.handlerOutcome)) ∨
    ∃ v, s.tasks[task]? = some (.done v) ∧ v.handlerOutcome = .failed .redeliver := by
  rcases h.answered hc with ⟨n, hn⟩ | ⟨v, hv, hanswer⟩
  · obtain ⟨r, c', hhandles, hc'⟩ := h.running hn
    obtain rfl : c = c' := Option.some.inj (hc.symm.trans hc')
    have hmem : (Place.handling r, c) ∈ q.entriesOf m.id :=
      List.mem_filter.mpr ⟨hhandles.mem_entries, decide_eq_true hid⟩
    rw [hhas.place, List.mem_singleton, Prod.mk.injEq] at hmem
    exact .inl ⟨hmem.2, .inl ⟨r, hmem.1.symm⟩⟩
  · have hmem : (c, v.handlerOutcome) ∈ l.answersOf m.id :=
      List.mem_filter.mpr ⟨hanswer, decide_eq_true hid⟩
    rw [hhas.lives.answers, List.mem_append] at hmem
    rcases hmem with hmem | hmem
    · obtain ⟨j, -, heq⟩ := List.mem_map.mp hmem
      exact .inr ⟨v, hv, (Prod.mk.inj heq).2.symm⟩
    · obtain ⟨o, ho, heq⟩ := List.mem_map.mp hmem
      obtain ⟨rfl, rfl⟩ := Prod.mk.inj heq
      exact .inl ⟨rfl, .inr ⟨v, hv, Option.mem_toList.mp ho⟩⟩

/-- A decision with which nothing more is to be done is that of the last attempt. -/
theorem Tallies.last_of_isFinal (h : s.Tallies q l) (hhas : q.Has l m p k) {v : Verdict}
    (hc : q.call? task = some c) (hid : c.id = m.id) (hv : s.tasks[task]? = some (.done v))
    (hfinal : v.isFinal = true) :
    c = m.retry k ∧ ((∃ r, p = .handling r) ∨ p.answer? = some v.handlerOutcome) := by
  rcases h.attempt hhas hc hid with ⟨rfl, hend⟩ | ⟨v', hv', houtcome⟩
  · refine ⟨rfl, hend.imp_right fun ⟨v', hv', hanswer⟩ => ?_⟩
    obtain rfl : v = v' := Stage.done.inj (Option.some.inj (hv.symm.trans hv'))
    exact hanswer
  · obtain rfl : v = v' := Stage.done.inj (Option.some.inj (hv.symm.trans hv'))
    exact absurd houtcome (v.handlerOutcome_of_isFinal hfinal)

/-- Each call of the handler with a message has a decision of its own. -/
theorem Tallies.exists_decision (h : s.Tallies q l) (hhas : q.Has l m p k)
    (hc : q.call? task = some c) (hid : c.id = m.id) :
    ∃ r g, m.decode = .ok r ∧ s.tasks[task]? = some g ∧ g.Past r.url (calls task s.replies) := by
  obtain ⟨hlt, hmem⟩ := List.getElem?_eq_some_iff.mp hc
  rw [List.length_reverse, ← h.length] at hlt
  obtain ⟨c', r, hc', hdecode, hpast⟩ := h.past (List.getElem?_eq_getElem hlt)
  obtain rfl : c = c' := Option.some.inj (hc.symm.trans hc')
  have hcall : c ∈ (q.callsOf m.id).reverse :=
    List.mem_reverse.mpr (List.mem_filter.mpr
      ⟨List.mem_reverse.mp (hmem ▸ List.getElem_mem _), decide_eq_true hid⟩)
  rw [hhas.lives.calls] at hcall
  obtain ⟨j, -, rfl⟩ := List.mem_map.mp hcall
  exact ⟨r, _, m.decode_retry j ▸ hdecode, List.getElem?_eq_getElem hlt, hpast⟩

/-! ### Writes in the deliveries of a message -/

/-- How many writes of a counter have succeeded in the deliveries of one publication. -/
def storesOf (id : Nat) (s : Service σ) : Nat :=
  s.replies.countP fun e =>
    e.2.isStored && (s.queue?.bind (·.call? e.1)).any (·.id = id)

theorem storesOf_eq (hq : s.queue? = some q) (id : Nat) :
    s.storesOf id = s.replies.countP fun e => e.2.isStored && (q.call? e.1).any (·.id = id) := by
  simp only [storesOf, hq, Option.bind_some]

/-- A decision has written one counter if it has stored its count, and none otherwise. -/
theorem Tallies.countP_replies (h : s.Tallies q l) {g : Stage} (hg : s.tasks[task]? = some g) :
    (s.replies.countP fun e => decide (e.1 = task) && e.2.isStored) = g.stored?.isSome.toNat := by
  obtain ⟨-, r, -, -, hpast⟩ := h.past hg
  rw [← countP_calls, hpast.countP_isStored]

/-- A decision that has written a counter is that of the last attempt, and the message has been
acked if its call has ended. -/
theorem Tallies.of_stored (h : s.Tallies q l) (hhas : q.Has l m p k) {e : Nat × Reply}
    (he : e ∈ s.replies) (hstored : e.2.isStored = true) (hc : q.call? e.1 = some c)
    (hid : c.id = m.id) :
    c = m.retry k ∧ ∃ g, s.tasks[e.1]? = some g ∧ g.stored?.isSome = true ∧
      ((∃ r, p = .handling r) ∨ p = .acked ∧ ∃ d, g = .done (.ok d)) := by
  obtain ⟨g, hg⟩ : ∃ g, s.tasks[e.1]? = some g := ⟨_, List.getElem?_eq_getElem (h.made e he)⟩
  have hcount : g.stored?.isSome = true := by
    have hpos : 0 < s.replies.countP fun e' => decide (e'.1 = e.1) && e'.2.isStored :=
      List.countP_pos_iff.mpr ⟨e, he, by simp [hstored]⟩
    rw [h.countP_replies hg] at hpos
    cases hsome : g.stored?.isSome with
    | true => rfl
    | false =>
      rw [hsome] at hpos
      cases hpos
  rcases h.attempt hhas hc hid with ⟨rfl, hhandling | ⟨v, hv, hanswer⟩⟩ | ⟨v, hv, houtcome⟩
  · exact ⟨rfl, g, hg, hcount, .inl hhandling⟩
  · obtain rfl : g = .done v := Option.some.inj (hg.symm.trans hv)
    cases v with
    | error e => cases hcount
    | ok d =>
      refine ⟨rfl, _, hg, hcount, .inr ⟨?_, d, rfl⟩⟩
      cases p <;> cases hanswer
      rfl
  · -- who has asked for a redelivery has stored no count
    obtain rfl : g = .done v := Option.some.inj (hg.symm.trans hv)
    rw [Stage.stored?, Verdict.count?_of_redeliver houtcome] at hcount
    cases hcount

namespace Serves

/-- The writes in the deliveries of a message are those of the last attempt's decision. -/
theorem storesOf_eq_of_last (h : s.Serves policy concurrency q l) (hhas : q.Has l m p k)
    (hc : q.call? task = some (m.retry k)) {g : Stage} (hg : s.tasks[task]? = some g) :
    s.storesOf m.id = g.stored?.isSome.toNat := by
  rw [storesOf_eq h.queue, ← h.tallies.countP_replies hg]
  refine List.countP_congr fun e he => ?_
  rw [Bool.and_eq_true, Bool.and_eq_true, decide_eq_true_eq, Option.any_eq_true]
  constructor
  · rintro ⟨hstored, c, hc', hid⟩
    obtain ⟨rfl, -⟩ := h.tallies.of_stored hhas he hstored hc' (of_decide_eq_true hid)
    exact ⟨Queue.call?_inj h.keeps.tracks.nodup_handed hc' hc, hstored⟩
  · rintro ⟨rfl, hstored⟩
    exact ⟨hstored, _, hc, decide_eq_true (m.id_retry k)⟩

/-- A write in the deliveries of a message is on record. -/
theorem exists_of_storesOf_pos (h : s.Serves policy concurrency q l) {id : Nat}
    (hpos : 0 < s.storesOf id) :
    ∃ e ∈ s.replies, e.2.isStored = true ∧ ∃ c, q.call? e.1 = some c ∧ c.id = id := by
  rw [storesOf_eq h.queue, List.countP_pos_iff] at hpos
  obtain ⟨e, he, hstored⟩ := hpos
  rw [Bool.and_eq_true, Option.any_eq_true] at hstored
  obtain ⟨hstored, c, hc, hid⟩ := hstored
  exact ⟨e, he, hstored, c, hc, of_decide_eq_true hid⟩

theorem storesOf_le_one (h : s.Serves policy concurrency q l) (hhas : q.Has l m p k) :
    s.storesOf m.id ≤ 1 := by
  rcases Nat.eq_zero_or_pos (s.storesOf m.id) with hzero | hpos
  · rw [hzero]
    exact Nat.zero_le 1
  · obtain ⟨e, he, hstored, c, hc, hid⟩ := h.exists_of_storesOf_pos hpos
    obtain ⟨rfl, g, hg, -⟩ := h.tallies.of_stored hhas he hstored hc hid
    rw [h.storesOf_eq_of_last hhas hc hg]
    exact Bool.toNat_le _

theorem storesOf_eq_one_iff (h : s.Serves policy concurrency q l) (hhas : q.Has l m p k)
    (hsettled : ∀ r, p ≠ .handling r) :
    s.storesOf m.id = 1 ↔ p = .acked ∧ ∃ task d, q.call? task = some (m.retry k) ∧
      s.tasks[task]? = some (.done (.ok d)) ∧ d.count?.isSome = true := by
  constructor
  · intro hone
    obtain ⟨e, he, hstored, c, hc, hid⟩ := h.exists_of_storesOf_pos (hone ▸ Nat.one_pos)
    obtain ⟨rfl, g, hg, hcount, ⟨r, hr⟩ | ⟨hacked, d, rfl⟩⟩ :=
      h.tallies.of_stored hhas he hstored hc hid
    · exact absurd hr (hsettled r)
    · exact ⟨hacked, e.1, d, hc, hg, hcount⟩
  · rintro ⟨-, task, d, hc, hg, hcount⟩
    rw [h.storesOf_eq_of_last hhas hc hg]
    exact congrArg Bool.toNat hcount

/-- What was written stays written. -/
theorem storesOf_le (h : s.Serves policy concurrency q l) (h' : s'.Serves policy concurrency q' l')
    (hgrows : s.Grows q l s' q' l') (id : Nat) : s.storesOf id ≤ s'.storesOf id := by
  obtain ⟨rest, hrest⟩ := hgrows.replies
  rw [storesOf_eq h.queue, storesOf_eq h'.queue, ← hrest, List.countP_append]
  refine Nat.le_trans (Nat.le_of_eq (List.countP_congr fun e he => ?_)) (Nat.le_add_right _ _)
  obtain ⟨m, r, hm, -⟩ := h.tallies.past (List.getElem?_eq_getElem (h.tallies.made e he))
  rw [hm, hgrows.call hm]

end Serves

/-! ### The deliveries of a message -/

/-- What the deliveries of a message `m` do to the counters, when it is at the place `p` after `k`
redeliveries. -/
structure CountedOnce (s : Service σ) (q : Queue) (m : Message) (p : Place) (k : Nat) : Prop where
  /-- It is in one place. -/
  place : q.entriesOf m.id = [(p, m.retry k)]
  /-- Each call of the handler with it has a decision of its own about the report in it. -/
  attempts : ∀ task c, q.call? task = some c → c.id = m.id → ∃ r g, m.decode = .ok r ∧
    s.tasks[task]? = some g ∧ g.Past r.url (calls task s.replies)
  /-- At most one write of a counter has succeeded in all its deliveries. -/
  le_one : s.storesOf m.id ≤ 1
  /-- If no call with it is under way, one write has succeeded exactly if it was acked by a delivery
  whose decision reports a count: that the hostname is watched, blacklisted or listed already. -/
  eq_one_iff : (∀ r, p ≠ .handling r) → (s.storesOf m.id = 1 ↔
    p = .acked ∧ ∃ task d, q.call? task = some (m.retry k) ∧
      s.tasks[task]? = some (.done (.ok d)) ∧ d.count?.isSome = true)
  /-- From the write on it is not handed out again in any run that follows, and can only be
  acked. -/
  written : s.storesOf m.id = 1 → ∀ s', Reaches s s' → ∃ q' p', s'.queue? = some q' ∧
    q'.entriesOf m.id = [(p', m.retry k)] ∧ ((∃ r, p' = .handling r) ∨ p' = .acked) ∧
    q'.callsOf m.id = q.callsOf m.id ∧ s'.storesOf m.id = 1
  /-- Once its report has been decided, or the decision has failed for a reason that stays, it is
  not handed out again in any run that follows, and no other counter is written. -/
  final : ∀ task c v, q.call? task = some c → c.id = m.id → s.tasks[task]? = some (.done v) →
    v.isFinal = true → ∀ s', Reaches s s' → ∃ q' p', s'.queue? = some q' ∧
      q'.entriesOf m.id = [(p', m.retry k)] ∧
      ((∃ r, p' = .handling r) ∨ p'.answer? = some v.handlerOutcome) ∧
      q'.callsOf m.id = q.callsOf m.id ∧ s'.storesOf m.id = s.storesOf m.id

theorem Serves.written (h : s.Serves policy concurrency q l) (hhas : q.Has l m p k)
    (hm : m ∈ l.accepted) (hone : s.storesOf m.id = 1) (hr : Reaches s s') :
    ∃ q' p', s'.queue? = some q' ∧ q'.entriesOf m.id = [(p', m.retry k)] ∧
      ((∃ r, p' = .handling r) ∨ p' = .acked) ∧ q'.callsOf m.id = q.callsOf m.id ∧
      s'.storesOf m.id = 1 := by
  obtain ⟨q', l', h', hgrows⟩ := h.reaches hr
  obtain ⟨p', k', hhas'⟩ := h'.keeps.tracks.has (hgrows.accepted.subset hm)
  -- the write is on record in the later state too, so it is that of the last attempt there
  obtain ⟨e, he, hstored, c, hc, hid⟩ := h.exists_of_storesOf_pos (hone ▸ Nat.one_pos)
  obtain ⟨rfl, _, -, -, hend⟩ := h.tallies.of_stored hhas he hstored hc hid
  obtain ⟨hretry, _, -, -, hend'⟩ :=
    h'.tallies.of_stored hhas' (hgrows.replies.subset he) hstored (hgrows.call hc) hid
  obtain rfl : k = k' := Message.retry_inj hhas.lives.lt_size hhas'.lives.lt_size hretry
  have hcalled : ∀ {p : Place} {P : Prop}, (∃ r, p = .handling r) ∨ p = .acked ∧ P →
      p.isCalled = true := by
    rintro p P (⟨r, rfl⟩ | ⟨rfl, -⟩) <;> rfl
  refine ⟨q', p', h'.queue, hhas'.place, hend'.imp_right And.left, ?_, ?_⟩
  · exact hhas.callsOf_eq hhas' (hcalled hend) (hcalled hend')
  · exact Nat.le_antisymm (h'.storesOf_le_one hhas') (hone ▸ h.storesOf_le h' hgrows m.id)

theorem Serves.final (h : s.Serves policy concurrency q l) (hhas : q.Has l m p k)
    (hm : m ∈ l.accepted) {v : Verdict} (hc : q.call? task = some c) (hid : c.id = m.id)
    (hv : s.tasks[task]? = some (.done v)) (hfinal : v.isFinal = true) (hr : Reaches s s') :
    ∃ q' p', s'.queue? = some q' ∧ q'.entriesOf m.id = [(p', m.retry k)] ∧
      ((∃ r, p' = .handling r) ∨ p'.answer? = some v.handlerOutcome) ∧
      q'.callsOf m.id = q.callsOf m.id ∧ s'.storesOf m.id = s.storesOf m.id := by
  obtain ⟨q', l', h', hgrows⟩ := h.reaches hr
  obtain ⟨p', k', hhas'⟩ := h'.keeps.tracks.has (hgrows.accepted.subset hm)
  -- the decision is at its end in the later state too, so it is that of the last attempt there
  obtain ⟨rfl, hend⟩ := h.tallies.last_of_isFinal hhas hc hid hv hfinal
  obtain ⟨hretry, hend'⟩ :=
    h'.tallies.last_of_isFinal hhas' (hgrows.call hc) hid (hgrows.done hv) hfinal
  obtain rfl : k = k' := Message.retry_inj hhas.lives.lt_size hhas'.lives.lt_size hretry
  refine ⟨q', p', h'.queue, hhas'.place, hend', ?_, ?_⟩
  · exact hhas.callsOf_eq hhas' (Place.isCalled_of_last hend) (Place.isCalled_of_last hend')
  · rw [h.storesOf_eq_of_last hhas hc hv,
      h'.storesOf_eq_of_last hhas' (hgrows.call hc) (hgrows.done hv)]

theorem Serves.exists_countedOnce (h : s.Serves policy concurrency q l) (hm : m ∈ l.accepted) :
    ∃ p k, s.CountedOnce q m p k := by
  obtain ⟨p, k, hhas⟩ := h.keeps.tracks.has hm
  exact ⟨p, k, hhas.place, fun _ _ => h.tallies.exists_decision hhas, h.storesOf_le_one hhas,
    h.storesOf_eq_one_iff hhas, fun hone _ => h.written hhas hm hone,
    fun _ _ _ hc hid hv hfinal _ => h.final hhas hm hc hid hv hfinal⟩

/-- In every run of an engine behind a queue, whatever the policy, the concurrency and the guard
are, whoever takes the steps and however the calls to the collaborators fail: the deliveries of a
message write at most one counter, as `CountedOnce` says. -/
theorem Reaches.countedOnce {s₀ : Service σ} (h₀ : Starts policy concurrency s₀)
    (h : Reaches s₀ s) :
    ∃ q l, s.queue? = some q ∧ s.log? = some l ∧
      ∀ m ∈ l.accepted, ∃ p k, s.CountedOnce q m p k := by
  obtain ⟨q₀, l₀, hserves₀⟩ := h₀.serves
  obtain ⟨q, l, hserves, -⟩ := hserves₀.reaches h
  exact ⟨q, l, hserves.queue, hserves.log, fun m hm => hserves.exists_countedOnce hm⟩

/-! ### A report that is counted in the second attempt -/

/-- Steps of the pipeline, each under its conditions. -/
def play (moves : List (Conditions × PipelineAction)) (s : Service Shared) :
    Option (Service Shared) :=
  moves.foldlM (fun s e => s.act e.1.collaborators e.2) s

theorem reaches_play {moves : List (Conditions × PipelineAction)} {s s' : Service Shared}
    (h : s.play moves = some s') : Reaches s s' := by
  induction moves generalizing s with
  | nil =>
    cases h
    exact .refl
  | cons e moves ih =>
    rw [play, List.foldlM_cons, Option.bind_eq_bind, Option.bind_eq_some_iff] at h
    obtain ⟨t, ht, hrest⟩ := h
    exact .head (.act ht) (ih hrest)

/-- An engine that is subscribed on a new bus, where the threshold is 2. -/
def subscribed : Service Shared where
  pipeline :=
    { bus := { policy := ⟨1, 10, 20⟩, queues := [.subscribed "t" "q" "h" ⟨1, 10, 20⟩ 1] }
      queue := 0
      engine := { guard := .perHostname }
      world := { state := { state := .withThreshold 2 } } }
  logs := [{}]

/-- A report has been published. -/
def published : Service Shared :=
  let c := subscribed.course.publish "t" (Report.encode ⟨"http://[::1]/"⟩)
  { pipeline := { subscribed.pipeline with bus := c.bus }, logs := c.logs }

/-- Steps of the pipeline while all calls are answered. -/
def answered (actions : List PipelineAction) : List (Conditions × PipelineAction) :=
  actions.map fun a => ({}, a)

/-- In the first attempt the shared configuration cannot be reached, in the second one it
answers. -/
def twoAttempts : List (Conditions × PipelineAction) :=
  answered [.takePermit, .receive, .decode 0, .decide 0] ++
    [({ reads := fun _ => .refused .transport }, .decide 0)] ++
    answered ([.finish 0, .putBack 0, .takePermit, .receive, .decode 1] ++
      List.replicate 11 (.decide 1) ++ [.finish 1])

/-- Both attempts have been made. -/
def attempted : Service Shared := (published.play twoAttempts).getD published

theorem countedOnce_attempted :
    Starts ⟨1, 10, 20⟩ 1 subscribed ∧ Reaches subscribed attempted ∧
      ∃ q l m p k, attempted.queue? = some q ∧ attempted.log? = some l ∧ m ∈ l.accepted ∧
        attempted.CountedOnce q m p k ∧ p = .acked ∧ (q.callsOf m.id).length = 2 ∧
        attempted.storesOf m.id = 1 := by
  have hstarts : Starts ⟨1, 10, 20⟩ 1 subscribed :=
    .subscribe .perHostname (Shared.withThreshold 2) [] .refl rfl
  obtain ⟨s, hs⟩ : ∃ s, published.play twoAttempts = some s :=
    Option.isSome_iff_exists.mp (by decide +kernel)
  have hattempted : attempted = s := by rw [attempted, hs, Option.getD_some]
  have hreach : Reaches subscribed attempted :=
    .head (.elsewhere (.publish "t" _)) (hattempted ▸ reaches_play hs)
  have hfacts : (attempted.queue?.map fun q => ((q.entriesOf 0).map Prod.fst,
      (q.callsOf 0).length)) = some ([.acked], 2) ∧
      (attempted.log?.map fun l => l.accepted.map (·.id)) = some [0] ∧
      attempted.storesOf 0 = 1 := by decide +kernel
  obtain ⟨q, l, hq, hl, hall⟩ := Reaches.countedOnce hstarts hreach
  obtain ⟨hplaces, haccepted, hstores⟩ := hfacts
  rw [hq, Option.map_some, Option.some.injEq, Prod.mk.injEq] at hplaces
  rw [hl, Option.map_some, Option.some.injEq] at haccepted
  have hmem : 0 ∈ l.accepted.map (·.id) := haccepted ▸ List.mem_cons_self
  obtain ⟨m, hm, hid⟩ := List.mem_map.mp hmem
  obtain ⟨p, k, hcounted⟩ := hall m hm
  have hplace := hcounted.place
  rw [hid] at hplace
  rw [hplace] at hplaces
  exact ⟨hstarts, hreach, q, l, m, p, k, hq, hl, hm, hcounted, (List.cons.inj hplaces.1).1,
    hid.symm ▸ hplaces.2, hid.symm ▸ hstores⟩

end Service

end HostWatch
