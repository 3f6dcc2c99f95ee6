import HostWatch.Proofs.Bus.Concurrency
import HostWatch.Report.Lines

/-!
# After the shutdown

The shutdown signal reaches the queues that there are. When none of their dispatchers can take a
step any more they have all stopped, and then no message leaves a queue again
(`Queue.Drains`): it is given up where it waits, or when it comes back from a backoff, and what is
published on the topic is refused. The handler is called once more at most with each message that
had been handed out and was not decoded yet, and when there is none of these, never
(`Course.Reaches.silent`).

This holds of the queues that the signal has reached. A handler that is subscribed later has a queue
that the signal does not reach: its dispatcher runs, and hands out what is published from then on
(`Course.calls_after_shutdown`).
-/

namespace HostWatch

/-- The message of a delivery that has not decoded it. -/
def Delivery.undecoded? (d : Delivery) : Option Message :=
  if d.phase = .fresh then some d.message else none

namespace Queue

/-- The messages that have been handed out and are not decoded yet. -/
def undecoded (q : Queue) : List Message :=
  q.deliveries.filterMap Delivery.undecoded?

/-- From one state of a queue to a later one the dispatcher hands out nothing. -/
structure Drains (q q' : Queue) : Prop where
  /-- The dispatcher has stopped. -/
  stopped : q'.dispatcher = .stopped
  /-- The handler was called with messages that were not decoded yet, once at most with each. -/
  handed : ∃ ms, q'.handed = ms ++ q.handed ∧ (ms ++ q'.undecoded).Subperm q.undecoded

variable {q q' q'' : Queue} {n : Nat} {d : Delivery}

theorem Drains.refl (h : q.dispatcher = .stopped) : q.Drains q :=
  ⟨h, [], rfl, List.Subperm.refl _⟩

theorem Drains.trans (h : q.Drains q') (h' : q'.Drains q'') : q.Drains q'' := by
  obtain ⟨ms, hms, hleft⟩ := h.handed
  obtain ⟨ms', hms', hleft'⟩ := h'.handed
  refine ⟨h'.stopped, ms' ++ ms, by rw [hms', hms, List.append_assoc], ?_⟩
  have hmoved : (ms' ++ ms ++ q''.undecoded).Perm (ms ++ (ms' ++ q''.undecoded)) := by
    rw [← List.append_assoc]
    exact List.perm_append_comm.append_right _
  exact hmoved.subperm.trans (((List.subperm_append_left ms).mpr hleft').trans hleft)

/-- Where all messages that were handed out are decoded, the handler is not called. -/
theorem Drains.handed_eq (h : q.Drains q') (hnone : q.undecoded = []) : q'.handed = q.handed := by
  obtain ⟨ms, hms, hleft⟩ := h.handed
  rw [hnone, List.subperm_nil, List.append_eq_nil_iff] at hleft
  rw [hms, hleft.1, List.nil_append]

/-- A delivery that is decoded or gone leaves the others to be decoded. -/
theorem Numbered.undecoded (h : q.Numbered) (hd : q.delivery? n = some d) :
    q.undecoded.Perm (d.undecoded?.toList ++ (q.without n).filterMap Delivery.undecoded?) ∧
      ∀ phase, phase ≠ .fresh → (q.inPhase n phase).filterMap Delivery.undecoded? =
        (q.without n).filterMap Delivery.undecoded? := by
  obtain ⟨before, after, -, heq, hwithout, hphase⟩ := h.split hd
  refine ⟨?_, fun phase hne => ?_⟩
  · rw [Queue.undecoded, heq, hwithout, List.filterMap_append, List.filterMap_append,
      List.filterMap_cons]
    cases d.undecoded? with
    | none => exact .refl _
    | some m => exact List.perm_middle
  · have hnone : ({ d with phase } : Delivery).undecoded? = none := if_neg hne
    rw [hphase, hwithout, List.filterMap_append, List.filterMap_append, List.filterMap_cons, hnone]

/-- Nothing that happens to a queue whose dispatcher has stopped hands out a message. -/
theorem drains_act {a : QueueAction} (h : q.Numbered) (hstop : q.dispatcher = .stopped)
    (ha : q.act a = some q') : q.Drains q' := by
  -- a delivery that ends, or waits, is not decoded any more
  have hgone : ∀ {n d}, q.delivery? n = some d →
      ((q.without n).filterMap Delivery.undecoded?).Subperm q.undecoded := fun hd =>
    (List.sublist_append_right _ _).subperm.trans (h.undecoded hd).1.symm.subperm
  have hsettle : ∀ {n d} result, q.delivery? n = some d → q.Drains (q.settle d result) := by
    intro n d result hd
    obtain ⟨_, _, hnumber, -⟩ := h.split hd
    exact ⟨hstop, [], rfl, hgone (hnumber ▸ hd)⟩
  cases acts_of_act ha with
  | takePermit hacquiring _ => cases hstop.symm.trans hacquiring
  | receive hreceiving _ => cases hstop.symm.trans hreceiving
  | stop _ hrunning => exact absurd hstop hrunning
  | putBack _ _ hrunning => exact absurd hstop hrunning
  | undecodable hd _ _ => exact hsettle .undecodable hd
  | acked hd _ => exact hsettle .ack hd
  | rejected hd _ => exact hsettle .rejected hd
  | dropped hd _ _ => exact hsettle .dropped hd
  | @called n d r hd hphase _ =>
    obtain ⟨hperm, hrest⟩ := h.undecoded hd
    have hmessage : d.undecoded? = some d.message := if_pos hphase
    rw [hmessage] at hperm
    refine ⟨hstop, [d.message], rfl, ?_⟩
    change ([d.message] ++ (q.inPhase n (.handling r)).filterMap _).Subperm q.undecoded
    rw [hrest _ (by simp)]
    exact hperm.symm.subperm
  | redelivered hd _ _ =>
    obtain ⟨_, _, hnumber, -⟩ := h.split hd
    refine ⟨hstop, [], rfl, ?_⟩
    change ((q.inPhase _ .backoff).filterMap _).Subperm q.undecoded
    rw [(h.undecoded (hnumber ▸ hd)).2 _ (by simp)]
    exact hgone (hnumber ▸ hd)
  | lost hd _ _ => exact ⟨hstop, [], rfl, hgone hd⟩

end Queue

namespace Course

variable {c c' : Course} {i : Nat} {q : Queue}

/-! ### One queue in a run -/

/-- A queue that was signalled stays so. -/
theorem Reaches.signalled (h : Reaches c c') (hq : c.bus.queues[i]? = some q)
    (hsignal : q.signalled = true) :
    ∃ q', c'.bus.queues[i]? = some q' ∧ q'.topic = q.topic ∧ q'.signalled = true := by
  induction h with
  | refl => exact ⟨q, hq, rfl, hsignal⟩
  | tail _ step ih =>
    obtain ⟨q', hq', htopic, hsignal'⟩ := ih
    obtain ⟨q'', hq'', hcases⟩ := step.queue_cases hq'
    refine ⟨q'', hq'', ?_⟩
    rcases hcases with rfl | ⟨m, hm⟩ | rfl | ⟨a, ha⟩
    · exact ⟨htopic, hsignal'⟩
    · have halike := Queue.alike_accept hm
      exact ⟨halike.topic.trans htopic, halike.signalled.trans hsignal'⟩
    · exact ⟨htopic, rfl⟩
    · have halike := Queue.alike_act ha
      exact ⟨halike.topic.trans htopic, halike.signalled.trans hsignal'⟩

/-- A queue whose dispatcher has stopped hands out nothing in any run. -/
theorem Sound.drains (h : c.Sound) (hr : Reaches c c') (hq : c.bus.queues[i]? = some q)
    (hstop : q.dispatcher = .stopped) :
    ∃ q', c'.bus.queues[i]? = some q' ∧ q.Drains q' := by
  have hall : c'.Sound ∧ ∃ q', c'.bus.queues[i]? = some q' ∧ q.Drains q' := by
    induction hr with
    | refl => exact ⟨h, q, hq, .refl hstop⟩
    | tail _ step ih =>
      obtain ⟨hsound, q', hq', hdrains⟩ := ih
      obtain ⟨l, -, hkeeps⟩ := hsound.exists_log hq'
      obtain ⟨q'', hq'', hcases⟩ := step.queue_cases hq'
      refine ⟨hsound.step step, q'', hq'', hdrains.trans ?_⟩
      rcases hcases with rfl | ⟨m, hm⟩ | rfl | ⟨a, ha⟩
      · exact .refl hdrains.stopped
      · exact absurd hdrains.stopped (Queue.accept?_eq_some.mp hm).1
      · exact ⟨hdrains.stopped, [], rfl, List.Subperm.refl _⟩
      · exact Queue.drains_act hkeeps.sound.toNumbered hdrains.stopped ha
  exact hall.2

/-- What is published on the topic of a queue whose dispatcher has stopped is refused. -/
theorem publish_of_stopped {b : Bus} (hq : q ∈ b.queues) (hstop : q.dispatcher = .stopped)
    (body : Bytes) : (b.publish q.topic body).1 = .error .closed := by
  have hno : (Bus.enqueue q.topic { id := b.published, body } b.queues).1 = false :=
    Bool.eq_false_iff.mpr fun hall => (Bus.enqueue_fst _ _ _).mp hall q hq rfl hstop
  rw [Bus.publish]
  simp only [hno, Bool.false_eq_true, if_false]

/-- The reports of an input are published on a topic, one after another until one is refused. -/
def ingest (topic : String) (read : Option Nat) (input : Bytes) (c : Course) :
    Except EventError Nat × Course :=
  Report.ingest (fun r c => ((c.bus.publish topic r.encode).1, c.publish topic r.encode)) read
    input c

/-- An ingestion is a run, of publications alone. -/
theorem reaches_ingest (topic : String) (read : Option Nat) (input : Bytes) (c : Course) :
    Reaches c (c.ingest topic read input).2 := by
  have hall : ∀ (rs : List Report) (c : Course), Reaches c (Report.publishAll
      (fun r c => ((c.bus.publish topic r.encode).1, c.publish topic r.encode)) rs c).2 := by
    intro rs
    induction rs with
    | nil => exact fun _ => .refl
    | cons r rs ih =>
      intro c
      rw [Report.publishAll]
      cases (c.bus.publish topic r.encode).1 with
      | error e => exact .single (.publish topic r.encode)
      | ok u => exact .head (.publish topic r.encode) (ih _)
  exact hall _ c

/-! ### Silence -/

/-- The shutdown signal is fired. -/
def shutdown (c : Course) : Course :=
  { c with bus := c.bus.shutdown }

/-- No dispatcher can take a step. -/
def Rests (c : Course) : Prop :=
  ∀ i, c.bus.act i .takePermit = none ∧ c.bus.act i .receive = none ∧ c.bus.act i .stop = none

/-- No delivery can decode its message. -/
def Decoded (c : Course) : Prop :=
  ∀ i n, c.bus.act i (.decode n) = none

/-- How often the handlers have been called. -/
def calls (c : Course) : Nat :=
  (c.bus.queues.map (·.handed.length)).sum

theorem Reaches.length_le (h : Reaches c c') : c.bus.queues.length ≤ c'.bus.queues.length := by
  induction h with
  | refl => exact Nat.le_refl _
  | @tail c₁ c₂ _ step ih =>
    refine ih.trans (Nat.le_of_not_lt fun hlt => ?_)
    obtain ⟨q', hq', -⟩ := step.queue_cases (List.getElem?_eq_getElem hlt)
    exact absurd (List.getElem?_eq_some_iff.mp hq').1 (Nat.lt_irrefl _)

/-- Where no dispatcher can take a step, those that were signalled have stopped. -/
theorem Rests.stopped (h : c.Rests) (hq : c.bus.queues[i]? = some q)
    (hsignal : q.signalled = true) : q.dispatcher = .stopped := by
  refine Decidable.byContradiction fun hrunning => ?_
  have hact := Queue.act_eq_some_iff.mpr (.stop hsignal hrunning)
  have hnone := (h i).2.2
  rw [Bus.act, hq] at hnone
  simp only [Option.bind_eq_bind, Option.bind_some, hact] at hnone
  cases hnone

/-- Where no delivery can decode its message, all messages that were handed out are decoded. -/
theorem Decoded.undecoded (h : c.Decoded) (hs : c.Sound) (hq : c.bus.queues[i]? = some q) :
    q.undecoded = [] := by
  obtain ⟨l, -, hkeeps⟩ := hs.exists_log hq
  refine List.eq_nil_iff_forall_not_mem.mpr fun m hm => ?_
  obtain ⟨d, hd, hmessage⟩ := List.mem_filterMap.mp hm
  have hphase : d.phase = .fresh := by
    rw [Delivery.undecoded?] at hmessage
    split at hmessage
    · assumption
    · cases hmessage
  have hfound := hkeeps.sound.toNumbered.delivery?_of_mem hd
  have hnone := h i d.number
  rw [Bus.act, hq] at hnone
  cases hdecode : d.message.decode with
  | error fault =>
    have hact := Queue.act_eq_some_iff.mpr (.undecodable hfound hphase hdecode)
    simp only [Option.bind_eq_bind, Option.bind_some, hact] at hnone
    cases hnone
  | ok r =>
    have hact := Queue.act_eq_some_iff.mpr (.called hfound hphase hdecode)
    simp only [Option.bind_eq_bind, Option.bind_some, hact] at hnone
    cases hnone

theorem act_eq_none {a : QueueAction} (h : ∀ q ∈ c.bus.queues, q.act a = none) (i : Nat) :
    c.bus.act i a = none := by
  rw [Bus.act]
  cases hq : c.bus.queues[i]? with
  | none => rfl
  | some q =>
    simp only [Option.bind_eq_bind, Option.bind_some, h q (List.mem_of_getElem? hq)]
    rfl

theorem rests_of_stopped (h : ∀ q ∈ c.bus.queues, q.dispatcher = .stopped) : c.Rests := by
  have hnone : ∀ q ∈ c.bus.queues,
      q.act .takePermit = none ∧ q.act .receive = none ∧ q.act .stop = none := by
    intro q hq
    simp [Queue.act, h q hq]
  exact fun i => ⟨act_eq_none (fun q hq => (hnone q hq).1) i,
    act_eq_none (fun q hq => (hnone q hq).2.1) i, act_eq_none (fun q hq => (hnone q hq).2.2) i⟩

theorem decoded_of_undecoded (h : ∀ q ∈ c.bus.queues, q.undecoded = []) : c.Decoded := by
  intro i n
  refine act_eq_none (fun q hq => Option.eq_none_iff_forall_ne_some.mpr fun q' ha => ?_) i
  have hno : ∀ {d : Delivery}, q.delivery? n = some d → d.phase = .fresh → False := by
    intro d hd hphase
    have hmem : d.message ∈ q.undecoded :=
      List.mem_filterMap.mpr ⟨d, List.mem_of_find?_eq_some hd, if_pos hphase⟩
    rw [h q hq] at hmem
    cases hmem
  cases Queue.acts_of_act ha with
  | undecodable hd hphase _ => exact hno hd hphase
  | called hd hphase _ => exact hno hd hphase

/-- What is known of a later course if the dispatchers rest in a course after the shutdown signal
was fired in another one. -/
structure Silent (fired rested later : Course) : Prop where
  /-- The dispatcher of a queue that was there when the signal was fired has stopped, and hands out
  nothing. -/
  drains : ∀ (i : Nat) (q₀ : Queue), fired.bus.queues[i]? = some q₀ →
    ∃ q q' : Queue, rested.bus.queues[i]? = some q ∧ later.bus.queues[i]? = some q' ∧
      q.dispatcher = .stopped ∧ q.Drains q'
  /-- If all that was handed out is decoded, its handler is not called again. -/
  handed : rested.Decoded → ∀ (i : Nat) (q₀ : Queue), fired.bus.queues[i]? = some q₀ →
    ∃ q q' : Queue, rested.bus.queues[i]? = some q ∧ later.bus.queues[i]? = some q' ∧
      q'.handed = q.handed
  /-- So no handler is called, unless one was subscribed since the signal was fired. -/
  calls : rested.Decoded → later.bus.queues.length = fired.bus.queues.length →
    later.calls = rested.calls
  /-- What is published on the topic of such a queue is refused. -/
  refused : ∀ q₀ ∈ fired.bus.queues, ∀ body,
    (later.bus.publish q₀.topic body).1 = .error .closed

/-- When the dispatchers rest after the shutdown signal was fired, no message leaves a queue that
the signal has reached, whatever happens then: publications, subscriptions, messages that come back
from their backoff, calls of handlers that end, further signals. -/
theorem Reaches.silent {policy : RedeliveryPolicy} {concurrency : Nat} {fired rested later : Course}
    (h : Reaches (start policy concurrency) fired)
    (hfired : Reaches fired.shutdown rested) (hrests : rested.Rests)
    (hlater : Reaches rested later) : Silent fired rested later := by
  have hreach : Reaches (start policy concurrency) rested := h.trans (.head .shutdown hfired)
  have hsound : rested.Sound := hreach.sound
  have hqueue : ∀ {i : Nat} {q₀ : Queue}, fired.bus.queues[i]? = some q₀ →
      ∃ q q' : Queue, rested.bus.queues[i]? = some q ∧ later.bus.queues[i]? = some q' ∧
        q'.topic = q₀.topic ∧ q.dispatcher = .stopped ∧ q.Drains q' := by
    intro i q₀ hq₀
    have hsignalled : fired.shutdown.bus.queues[i]? =
        some { q₀ with signalled := true } := by
      simp only [shutdown, Bus.shutdown, List.getElem?_map, hq₀, Option.map_some]
    obtain ⟨q, hq, htopic, hsignal⟩ := hfired.signalled hsignalled rfl
    have hstop := hrests.stopped hq hsignal
    obtain ⟨q', hq', hdrains⟩ := hsound.drains hlater hq hstop
    obtain ⟨q'', hq'', htopic', -⟩ := hlater.signalled hq hsignal
    obtain rfl := Option.some.inj (hq'.symm.trans hq'')
    exact ⟨q, q', hq, hq', htopic'.trans htopic, hstop, hdrains⟩
  have hhanded : rested.Decoded → ∀ (i : Nat) (q₀ : Queue), fired.bus.queues[i]? = some q₀ →
      ∃ q q' : Queue, rested.bus.queues[i]? = some q ∧ later.bus.queues[i]? = some q' ∧
        q'.handed = q.handed := by
    intro hdecoded i q₀ hq₀
    obtain ⟨q, q', hq, hq', -, -, hdrains⟩ := hqueue hq₀
    exact ⟨q, q', hq, hq', hdrains.handed_eq (hdecoded.undecoded hsound hq)⟩
  refine ⟨fun i q₀ hq₀ => ?_, hhanded, fun hdecoded hlength => ?_, fun q₀ hmem body => ?_⟩
  · obtain ⟨q, q', hq, hq', -, hstop, hdrains⟩ := hqueue hq₀
    exact ⟨q, q', hq, hq', hstop, hdrains⟩
  · -- there are no other queues than those that the signal has reached
    have hle : later.bus.queues.length ≤ fired.bus.queues.length := hlength.le
    have hle' : rested.bus.queues.length ≤ fired.bus.queues.length :=
      hlater.length_le.trans hle
    refine congrArg List.sum (List.ext_getElem? fun i => ?_)
    rw [List.getElem?_map, List.getElem?_map]
    by_cases hi : i < fired.bus.queues.length
    · obtain ⟨q, q', hq, hq', heq⟩ := hhanded hdecoded i _ (List.getElem?_eq_getElem hi)
      rw [hq, hq', Option.map_some, Option.map_some, heq]
    · rw [List.getElem?_eq_none (by omega), List.getElem?_eq_none (by omega)]
  · obtain ⟨i, hi⟩ := List.mem_iff_getElem?.mp hmem
    obtain ⟨q, q', -, hq', htopic, -, hdrains⟩ := hqueue hi
    rw [← htopic]
    exact publish_of_stopped (List.mem_of_getElem? hq') hdrains.stopped body

/-! ### A message that comes back too late -/

/-- An event waits to be put back and another body is not handed out, and the signal is fired. -/
def backedOff : Course :=
  (twoPublished.play ([.takePermit, .receive, .decode 0, .finish 0 (.failed .redeliver)].map
    (0, ·))).getD twoPublished

/-- The dispatcher has stopped. -/
def backedOffStopped : Course :=
  (backedOff.shutdown.play [(0, .stop)]).getD backedOff

/-- Reports are read, the first of which is refused, and the event comes back. -/
def cameBack : Course :=
  ((backedOffStopped.ingest "t" none (Utf8.ofString "http://[::1]/\nhttp://[::2]/")).2.play
    [(0, .putBack 0)]).getD backedOffStopped

/-- The handler was called once before the signal, and is not called again. -/
theorem silent_cameBack :
    Reaches (start ⟨1, 10, 20⟩ 1) backedOff ∧
      Reaches backedOff.shutdown backedOffStopped ∧
      backedOffStopped.Rests ∧ backedOffStopped.Decoded ∧ Reaches backedOffStopped cameBack ∧
      cameBack.calls = backedOffStopped.calls ∧ backedOffStopped.calls = 1 := by
  have hfired : Reaches (start ⟨1, 10, 20⟩ 1) backedOff := by
    have hplay : twoPublished.play ([.takePermit, .receive, .decode 0,
        .finish 0 (.failed .redeliver)].map (0, ·)) = some backedOff := by decide +kernel
    exact .trans (.tail (.tail (.single (.subscribe rfl)) (.publish _ _)) (.publish _ _))
      (reaches_play hplay)
  have hstopped : Reaches backedOff.shutdown backedOffStopped := by
    have hplay : backedOff.shutdown.play [(0, .stop)] = some backedOffStopped := by decide +kernel
    exact reaches_play hplay
  have hrests : backedOffStopped.Rests := rests_of_stopped (by decide +kernel)
  have hdecoded : backedOffStopped.Decoded := decoded_of_undecoded (by decide +kernel)
  have hlater : Reaches backedOffStopped cameBack := by
    have hplay : (backedOffStopped.ingest "t" none
        (Utf8.ofString "http://[::1]/\nhttp://[::2]/")).2.play [(0, .putBack 0)] =
        some cameBack := by
      decide +kernel
    exact .trans (reaches_ingest _ _ _ _) (reaches_play hplay)
  have hsilent : Silent backedOff backedOffStopped cameBack :=
    Reaches.silent hfired hstopped hrests hlater
  exact ⟨hfired, hstopped, hrests, hdecoded, hlater, hsilent.calls hdecoded (by decide +kernel),
    by decide +kernel⟩

/-! ### A handler that is subscribed too late -/

/-- A queue, to which nothing has been published. -/
def oneQueue : Course :=
  ⟨{ policy := ⟨1, 10, 20⟩, queues := [.subscribed "t" "q" "h" ⟨1, 10, 20⟩ 1] }, [{}]⟩

/-- The signal was fired, and the dispatcher has stopped. -/
def oneQueueStopped : Course :=
  (oneQueue.shutdown.play [(0, .stop)]).getD oneQueue

/-- Then another handler is subscribed. -/
def subscribedLate : Course :=
  ⟨{ oneQueueStopped.bus with
      queues := oneQueueStopped.bus.queues ++ [.subscribed "u" "r" "k" ⟨1, 10, 20⟩ 1] },
    oneQueueStopped.logs ++ [({} : QueueLog)]⟩

/-- An event is published on its topic, and its dispatcher hands it out. -/
def calledLate : Course :=
  ((subscribedLate.publish "u" (Report.encode ⟨"http://[::1]/"⟩)).play
    [(1, .takePermit), (1, .receive), (1, .decode 0)]).getD subscribedLate

/-- After the shutdown signal was fired, and when nothing can be dispatched any more, a handler that
is subscribed then is still called. -/
theorem calls_after_shutdown :
    ¬ ∀ (policy : RedeliveryPolicy) (concurrency : Nat) (fired rested later : Course),
      Reaches (start policy concurrency) fired →
      Reaches fired.shutdown rested → rested.Rests → rested.Decoded →
      Reaches rested later → later.calls = rested.calls := by
  intro h
  have hfired : Reaches (start ⟨1, 10, 20⟩ 1) oneQueue := .single (.subscribe rfl)
  have hstopped : Reaches oneQueue.shutdown oneQueueStopped := by
    have hplay : oneQueue.shutdown.play [(0, .stop)] = some oneQueueStopped := by decide +kernel
    exact reaches_play hplay
  have hrests : oneQueueStopped.Rests := rests_of_stopped (by decide +kernel)
  have hdecoded : oneQueueStopped.Decoded := decoded_of_undecoded (by decide +kernel)
  have hlater : Reaches oneQueueStopped calledLate := by
    have hplay : (subscribedLate.publish "u" (Report.encode ⟨"http://[::1]/"⟩)).play
        [(1, .takePermit), (1, .receive), (1, .decode 0)] = some calledLate := by decide +kernel
    have hsubscribe : oneQueueStopped.bus.subscribe "u" "r" "k" = .ok subscribedLate.bus := by
      decide +kernel
    exact .head (.subscribe hsubscribe) (.head (.publish _ _) (reaches_play hplay))
  have hcalls := h ⟨1, 10, 20⟩ 1 oneQueue oneQueueStopped calledLate hfired hstopped hrests hdecoded
    hlater
  exact absurd hcalls (by decide +kernel)

end Course

end HostWatch
