import HostWatch.Bus.Timeline
import HostWatch.Proofs.Bus.Course
import HostWatch.Proofs.Metrics
import Mathlib

/-!
# Nothing is lost or doubled on the bus

The main result on the bus, `Course.Reaches.custody`: in every run each queue has what it
accepted, each message in one place, and from the place follows how often the handler was
called with it. Where no queue of a topic can do anything more and none was told to stop,
the deliveries that the bus has measured as ended add up to the messages that were accepted
(`Course.Sound.balance`).
-/

namespace HostWatch

/-! ### What is measured -/

/-- The results of a delivery that is at its end. -/
def DeliveryResult.ends : List DeliveryResult := [.ack, .rejected, .dropped, .undecodable]

theorem DeliveryResult.isSome_place? (r : DeliveryResult) :
    r.place?.isSome = decide (r ≠ .redelivered) := by
  cases r <;> rfl

namespace Queue

/-- How many deliveries of a queue are at their end. -/
def ended (q : Queue) : Nat :=
  q.results.countP (·.2 ≠ .redelivered)

/-- The deliveries that are at their end are those with one of the four results. -/
theorem sum_ends (q : Queue) :
    (DeliveryResult.ends.map fun result => q.results.countP (·.2 = result)).sum = q.ended := by
  rw [ended]
  induction q.results with
  | nil => rfl
  | cons r rs ih =>
    obtain ⟨m, result⟩ := r
    simp only [DeliveryResult.ends, List.map_cons, List.map_nil, List.sum_cons, List.sum_nil,
      List.countP_cons] at ih ⊢
    cases result <;> simp at ih ⊢ <;> omega

theorem count_series (topic : String) (result : DeliveryResult) (q : Queue) :
    q.series.count (.deliveries topic result) =
      if q.topic = topic then q.results.countP (·.2 = result) else 0 := by
  rw [series, List.count, List.countP_map]
  by_cases ht : q.topic = topic
  · rw [if_pos ht]
    exact List.countP_congr fun r _ => by simp [ht]
  · rw [if_neg ht, List.countP_eq_zero]
    intro r _
    simp [ht]

/-- Where no message waits, no delivery is under way and nothing was discarded, as many deliveries
have ended as messages were accepted. -/
theorem Tracks.ended {q : Queue} {l : QueueLog} (h : q.Tracks l)
    (hidle : q.waiting = [] ∧ q.deliveries = [] ∧ q.discarded = []) :
    q.ended = l.accepted.length := by
  obtain ⟨hwaiting, hdeliveries, hdiscarded⟩ := hidle
  have hlen := h.ids.length_eq
  rw [List.length_map, List.length_map] at hlen
  rw [← hlen, entries, hwaiting, hdeliveries, hdiscarded, Queue.ended]
  simp [List.length_filterMap_eq_countP, DeliveryResult.isSome_place?]

end Queue

namespace Bus

/-- How many deliveries of a topic have ended, as they were measured. -/
def ended (topic : String) (b : Bus) : Nat :=
  (DeliveryResult.ends.map fun result => b.metrics.value (.deliveries topic result)).sum

/-- The deliveries of a topic that have ended are those of its queues. -/
theorem ended_eq (topic : String) (b : Bus) :
    b.ended topic = (b.queues.map fun q => if q.topic = topic then q.ended else 0).sum := by
  have hcount : b.ended topic = (DeliveryResult.ends.map fun result =>
      (b.queues.flatMap Queue.series).count (.deliveries topic result)).sum := by
    refine congrArg List.sum (List.map_congr_left fun result _ => ?_)
    rw [metrics, Metrics.value_foldl_count]
    exact Nat.zero_add _
  rw [hcount]
  induction b.queues with
  | nil => rfl
  | cons q qs ih =>
    have hq := q.sum_ends
    simp only [DeliveryResult.ends, List.map_cons, List.map_nil, List.sum_cons, List.sum_nil,
      List.flatMap_cons, List.count_append, Queue.count_series] at ih hq ⊢
    split <;> omega

end Bus

/-! ### Courses at rest -/

/-- Where no message waits, no delivery is under way and nothing was discarded, every message has
come to an end. -/
theorem Queue.isEnd_of_idle {q : Queue} {e : Place × Message}
    (hidle : q.waiting = [] ∧ q.deliveries = [] ∧ q.discarded = []) (he : e ∈ q.entries) :
    e.1.isEnd = true ∧ e.1 ≠ .discarded := by
  obtain ⟨hwaiting, hdeliveries, hdiscarded⟩ := hidle
  rw [entries, hwaiting, hdeliveries, hdiscarded, List.map_nil, List.map_nil, List.map_nil,
    List.nil_append, List.nil_append, List.append_nil] at he
  obtain ⟨⟨m, result⟩, -, hr⟩ := List.mem_filterMap.mp he
  cases result <;> cases hr <;> exact ⟨rfl, by simp⟩

/-- Nothing can happen to a queue any more, and it was not told to stop. -/
def Queue.AtRest (q : Queue) : Prop :=
  (∀ a, q.act a = none) ∧ q.signalled = false

/-- A queue whose dispatcher waits for a message is at rest if there is none and no delivery is
under way. -/
theorem Queue.atRest_of_idle {q : Queue} (hreceiving : q.dispatcher = .receiving)
    (hwaiting : q.waiting = []) (hdeliveries : q.deliveries = []) (hsignal : q.signalled = false) :
    q.AtRest := by
  refine ⟨fun a => ?_, hsignal⟩
  have hnone : ∀ n, q.delivery? n = none := fun n => by rw [delivery?, hdeliveries]; rfl
  cases a with
  | takePermit => simp [act, hreceiving]
  | receive => simp [act, hwaiting]
  | stop => simp [act, hsignal]
  | decode n | finish n outcome | putBack n => simp [act, hnone]

namespace Course

/-- How many messages the queues of a topic have accepted. -/
def accepted (topic : String) (c : Course) : Nat :=
  ((c.bus.queues.zip c.logs).map fun e =>
    if e.1.topic = topic then e.2.accepted.length else 0).sum

variable {c : Course} {i : Nat} {q : Queue} {l : QueueLog}

theorem Keeps.idle {b : Bus} (h : Keeps b q l) (hrest : q.AtRest) :
    q.waiting = [] ∧ q.deliveries = [] ∧ q.discarded = [] :=
  h.sound.idle (Nat.lt_of_lt_of_le Nat.one_pos (Nat.le_max_right _ _)) hrest.1 hrest.2

/-- When the queues of a topic are at rest, the deliveries that have ended add up to the messages
that were accepted. -/
theorem Sound.balance (h : c.Sound) (topic : String)
    (hrest : ∀ q ∈ c.bus.queues, q.topic = topic → q.AtRest) :
    c.bus.ended topic = c.accepted topic := by
  have hqueues : c.bus.queues = (c.bus.queues.zip c.logs).map Prod.fst :=
    (List.map_fst_zip (Nat.le_of_eq h.length.symm)).symm
  rw [Bus.ended_eq, accepted]
  conv_lhs => rw [hqueues]
  rw [List.map_map]
  refine congrArg List.sum (List.map_congr_left fun e he => ?_)
  obtain ⟨k, hk⟩ := List.mem_iff_getElem?.mp he
  rw [List.getElem?_zip_eq_some] at hk
  have hkeeps := h.keeps hk.1 hk.2
  rw [Function.comp_apply]
  split
  · next ht =>
    exact hkeeps.tracks.ended (hkeeps.idle (hrest e.1 (List.mem_of_getElem? hk.1) ht))
  · rfl

/-- What becomes of a message that a queue has accepted, in every run. It is in one place, and it is
the message that was accepted but for the number of the attempt, which is at most the greatest
number of redeliveries. The handler has been called with it once for each attempt so far, and not
at all if the body is no event. When it has come to an end it stays there in every run that
follows, and the handler is not called with it again. -/
structure Custody (policy : RedeliveryPolicy) (i : Nat) (c : Course) (q : Queue) (l : QueueLog)
    (m : Message) (p : Place) (k : Nat) : Prop where
  /-- It is in one place. -/
  place : q.entriesOf m.id = [(p, m.retry k)]
  /-- There are not too many redeliveries. -/
  le : k ≤ policy.maxRedeliveries.toNat
  /-- The handler was called once for each attempt. -/
  calls : (q.callsOf m.id).reverse = (List.range (k + p.isCalled.toNat)).map m.retry
  /-- It was not called too often. -/
  length_le : (q.callsOf m.id).length ≤ policy.maxRedeliveries.toNat + 1
  /-- What was answered are these calls, in their order. -/
  answers : (l.answersOf m.id).map Prod.fst <+: (q.callsOf m.id).reverse
  /-- With a body that is no event the handler is not called. -/
  undecodable : ∀ fault, m.decode = .error fault → q.callsOf m.id = []
  /-- From an end no step leads on. -/
  stays : p.isEnd = true → ∀ c', Reaches c c' → ∃ q', c'.bus.queues[i]? = some q' ∧
    q'.entriesOf m.id = [(p, m.retry k)] ∧ q'.callsOf m.id = q.callsOf m.id
  /-- In a queue at rest the handler has been called until it did not ask for a redelivery, or until
  none was left. -/
  rest : q.AtRest → ∀ r, m.decode = .ok r →
    (q.callsOf m.id).length = min ((l.answersOf m.id).findIdx (·.2 ≠ .failed .redeliver) + 1)
      (policy.maxRedeliveries.toNat + 1)

theorem Sound.exists_custody {m : Message} (h : c.Sound) (hq : c.bus.queues[i]? = some q)
    (hl : c.logs[i]? = some l) (hm : m ∈ l.accepted) :
    ∃ p k, Custody c.bus.policy i c q l m p k := by
  have hkeeps := h.keeps hq hl
  obtain ⟨p, k, hplace, hlives⟩ := hkeeps.tracks.has hm
  rw [hkeeps.policy] at hlives
  have he : (p, m.retry k) ∈ q.entries :=
    List.mem_of_mem_filter (hplace ▸ List.mem_singleton_self _)
  refine ⟨p, k, hplace, hlives.le, hlives.calls, hlives.length_calls_le, hlives.answers_prefix,
    fun fault hf => hlives.calls_eq_nil hf, fun hend c' hr => ?_, fun hrest r hr => ?_⟩
  · exact h.stays_reaches hr hq he hend
  · obtain ⟨hend, hkept⟩ := Queue.isEnd_of_idle (hkeeps.idle hrest) he
    exact hlives.length_calls hr hend hkept

/-- In every run each queue has the messages that it accepted and no others, each of them in one
place, as `Custody` says; and when the queues of a topic are at rest, the deliveries of the topic
that have ended add up to the messages that were accepted. -/
theorem Reaches.custody {policy : RedeliveryPolicy} {concurrency : Nat}
    (h : Reaches (start policy concurrency) c) :
    (∀ i q l, c.bus.queues[i]? = some q → c.logs[i]? = some l →
      (q.entries.map (·.2.id)).Perm (l.accepted.map (·.id)) ∧
      ∀ m ∈ l.accepted, ∃ p k, Custody policy i c q l m p k) ∧
    ∀ topic, (∀ q ∈ c.bus.queues, q.topic = topic → q.AtRest) →
      c.bus.ended topic = c.accepted topic := by
  have hpolicy : c.bus.policy = policy := h.policy
  refine ⟨fun i q l hq hl => ⟨(h.sound.keeps hq hl).tracks.ids, fun m hm => ?_⟩,
    h.sound.balance⟩
  rw [← hpolicy]
  exact h.sound.exists_custody hq hl hm

/-! ### A course in which a message is handed out twice -/

/-- Actions happen to queues, one after another, if all of them can. -/
def play (actions : List (Nat × QueueAction)) (c : Course) : Option Course :=
  actions.foldlM (fun c e => c.act e.1 e.2) c

theorem reaches_play {actions : List (Nat × QueueAction)} {c c' : Course}
    (h : c.play actions = some c') : Reaches c c' := by
  induction actions generalizing c with
  | nil =>
    cases h
    exact .refl
  | cons e actions ih =>
    rw [play, List.foldlM_cons, Option.bind_eq_bind, Option.bind_eq_some_iff] at h
    obtain ⟨d, hd, hrest⟩ := h
    exact .head (.act hd) (ih hrest)

/-- A queue to which an event and a body that is none have been published. -/
def twoPublished : Course :=
  ((⟨{ policy := ⟨1, 10, 20⟩, queues := [.subscribed "t" "q" "h" ⟨1, 10, 20⟩ 1] }, [{}]⟩ :
    Course).publish "t" (Report.encode ⟨"http://[::1]/"⟩)).publish "t" []

/-- The handler asks for a redelivery of the event, and takes it when it comes again. -/
def redelivered : Course :=
  (twoPublished.play ([.takePermit, .receive, .decode 0, .finish 0 (.failed .redeliver),
    .takePermit, .receive, .putBack 0, .decode 1, .takePermit, .receive, .decode 2, .finish 2 .taken,
    .takePermit].map (0, ·))).getD twoPublished

theorem custody_redelivered :
    Reaches (start ⟨1, 10, 20⟩ 1) redelivered ∧
      (∃ q l m p k, redelivered.bus.queues[0]? = some q ∧ m ∈ l.accepted ∧
        Custody ⟨1, 10, 20⟩ 0 redelivered q l m p k ∧ p = .acked ∧ (q.callsOf m.id).length = 2) ∧
      (∀ q ∈ redelivered.bus.queues, q.topic = "t" → q.AtRest) ∧
      redelivered.bus.ended "t" = redelivered.accepted "t" ∧ redelivered.accepted "t" = 2 := by
  have hplay : twoPublished.play ([.takePermit, .receive, .decode 0,
      .finish 0 (.failed .redeliver), .takePermit, .receive, .putBack 0, .decode 1, .takePermit,
      .receive, .decode 2, .finish 2 .taken, .takePermit].map (0, ·)) = some redelivered := by
    decide +kernel
  have hreach : Reaches (start ⟨1, 10, 20⟩ 1) redelivered :=
    .trans (.tail (.tail (.single (.subscribe rfl)) (.publish _ _)) (.publish _ _))
      (reaches_play hplay)
  have hrest : ∀ q ∈ redelivered.bus.queues, q.topic = "t" → q.AtRest := by
    have hidle : ∀ q ∈ redelivered.bus.queues, q.dispatcher = .receiving ∧ q.waiting = [] ∧
        q.deliveries = [] ∧ q.signalled = false := by decide +kernel
    intro q hq _
    obtain ⟨hreceiving, hwaiting, hdeliveries, hsignal⟩ := hidle q hq
    exact Queue.atRest_of_idle hreceiving hwaiting hdeliveries hsignal
  obtain ⟨hqueues, hbalance⟩ := Reaches.custody hreach
  obtain ⟨l, hl⟩ : ∃ l, redelivered.logs[0]? = some l :=
    Option.isSome_iff_exists.mp (by decide +kernel)
  obtain ⟨q, hq⟩ : ∃ q, redelivered.bus.queues[0]? = some q :=
    Option.isSome_iff_exists.mp (by decide +kernel)
  have haccepted : (redelivered.logs[0]?).map (·.accepted.map (·.id)) = some [0, 1] := by
    decide +kernel
  have hplace : (redelivered.bus.queues[0]?).map (fun q =>
      ((q.entriesOf 0).map Prod.fst, (q.callsOf 0).length)) = some ([.acked], 2) := by
    decide +kernel
  rw [hl, Option.map_some, Option.some.injEq] at haccepted
  rw [hq, Option.map_some, Option.some.injEq, Prod.mk.injEq] at hplace
  have hmem : 0 ∈ l.accepted.map (·.id) := haccepted ▸ List.mem_cons_self
  obtain ⟨m, hm, hid⟩ := List.mem_map.mp hmem
  obtain ⟨p, k, hcustody⟩ := (hqueues 0 q l hq hl).2 m hm
  have hp := hcustody.place
  rw [hid] at hp
  rw [hp] at hplace
  refine ⟨hreach, ⟨q, l, m, p, k, hq, hm, hcustody, ?_, ?_⟩, hrest, hbalance "t" hrest, ?_⟩
  · exact (List.cons.inj hplace.1).1
  · rw [hid]
    exact hplace.2
  · decide +kernel

end Course

end HostWatch
