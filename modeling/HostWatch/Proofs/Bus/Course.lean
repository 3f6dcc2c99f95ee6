import HostWatch.Bus.Basic
import HostWatch.Proofs.Bus.Custody
import HostWatch.Proofs.Decision.Moves
import Mathlib.Logic.Relation

/-!
# Courses of the bus

A course is a bus with the logs of its queues. In a step of a course a handler is
subscribed, an event is published, the shutdown signal is fired, or an action happens to one
queue; any number of steps in any order is a run (`Course.Reaches`). Which queues take a
published message is said without regard to how the bus goes about it (`Bus.takes`).

In every run all queues have what they accepted (`Reaches.sound`): that is the invariant of
`Queue.Tracks` for each of them. A message that has come to an end stays there
(`Sound.stays_reaches`).
-/

namespace HostWatch

/-! ### Subscribing and publishing -/

namespace Bus

/-- A handler that is subscribed has a new queue, the last one. -/
theorem eq_of_subscribe {b bus : Bus} {topic name handler : String}
    (h : b.subscribe topic name handler = .ok bus) :
    bus = { b with
      queues := b.queues ++ [.subscribed topic name handler b.policy b.concurrency] } := by
  simp only [subscribe] at h
  split_ifs at h
  cases h
  rfl

/-- Whether a queue takes a message that is published on a topic: it is bound to the topic, and
neither its dispatcher nor that of an earlier queue of the topic has stopped. -/
def takes (topic : String) (queues : List Queue) (i : Nat) : Bool :=
  (queues[i]?).any (·.topic = topic) &&
    (queues.take (i + 1)).all fun q => q.topic = topic → q.dispatcher ≠ .stopped

theorem takes_zero (topic : String) (q : Queue) (qs : List Queue) :
    takes topic (q :: qs) 0 = decide (q.topic = topic ∧ q.dispatcher ≠ .stopped) := by
  by_cases ht : q.topic = topic <;> simp [takes, ht]

theorem takes_succ (topic : String) (q : Queue) (qs : List Queue) (i : Nat) :
    takes topic (q :: qs) (i + 1) =
      (decide (q.topic = topic → q.dispatcher ≠ .stopped) && takes topic qs i) := by
  rw [takes, takes, List.getElem?_cons_succ, List.take_succ_cons, List.all_cons, Bool.and_left_comm]

theorem accept?_of_running {q : Queue} (m : Message) (h : q.dispatcher ≠ .stopped) :
    q.accept? m = some { q with waiting := q.waiting ++ [m] } := if_neg h

/-- A queue that takes a message is bound to the topic, and runs. -/
theorem of_takes {topic : String} {qs : List Queue} {i : Nat} {q : Queue}
    (h : takes topic qs i = true) (hq : qs[i]? = some q) :
    q.topic = topic ∧ q.dispatcher ≠ .stopped := by
  rw [takes, Bool.and_eq_true, hq, Option.any_some, decide_eq_true_eq, List.all_eq_true] at h
  refine ⟨h.1, of_decide_eq_true (h.2 q ?_) h.1⟩
  obtain ⟨hlt, rfl⟩ := List.getElem?_eq_some_iff.mp hq
  exact List.mem_take_iff_getElem.mpr ⟨i, by omega, rfl⟩

/-- A queue that takes a message has it then, and no other queue changes. -/
theorem enqueue_getElem? (topic : String) (m : Message) (qs : List Queue) (i : Nat) :
    (enqueue topic m qs).2[i]? =
      if takes topic qs i then (qs[i]?).bind (·.accept? m) else qs[i]? := by
  induction qs generalizing i with
  | nil => simp [enqueue, takes]
  | cons q qs ih =>
    by_cases ht : q.topic = topic
    · by_cases hstop : q.dispatcher = .stopped
      · have hno : takes topic (q :: qs) i = false := by
          cases i with
          | zero => simp [takes_zero, hstop]
          | succ i => simp [takes_succ, ht, hstop]
        simp [enqueue, ht, Queue.accept?, hstop, hno]
      · cases i with
        | zero => simp [enqueue, ht, accept?_of_running m hstop, takes_zero, hstop]
        | succ i => simp [enqueue, ht, accept?_of_running m hstop, takes_succ, hstop, ih]
    · cases i with
      | zero => simp [enqueue, ht, takes_zero]
      | succ i => simp [enqueue, ht, takes_succ, ih]

theorem enqueue_fst (topic : String) (m : Message) (qs : List Queue) :
    (enqueue topic m qs).1 = true ↔ ∀ q ∈ qs, q.topic = topic → q.dispatcher ≠ .stopped := by
  induction qs with
  | nil => simp [enqueue]
  | cons q qs ih =>
    rw [List.forall_mem_cons, ← ih]
    by_cases ht : q.topic = topic
    · by_cases hstop : q.dispatcher = .stopped
      · simp [enqueue, ht, Queue.accept?, hstop]
      · simp [enqueue, ht, accept?_of_running m hstop, hstop]
    · simp [enqueue, ht]

theorem enqueue_length (topic : String) (m : Message) (qs : List Queue) :
    (enqueue topic m qs).2.length = qs.length := by
  induction qs with
  | nil => rfl
  | cons q qs ih =>
    by_cases ht : q.topic = topic
    · by_cases hstop : q.dispatcher = .stopped
      · simp [enqueue, ht, Queue.accept?, hstop]
      · simp [enqueue, ht, accept?_of_running m hstop, ih]
    · simp [enqueue, ht, ih]

end Bus

/-! ### Courses -/

/-- A bus with what happened to its queues from outside. -/
structure Course where
  /-- The bus. -/
  bus : Bus
  /-- The logs of the queues, each at the place of its queue. -/
  logs : List QueueLog := []
  deriving DecidableEq

namespace Course

/-- A bus to which nobody is subscribed. -/
def start (policy : RedeliveryPolicy) (concurrency : Nat) : Course :=
  { bus := { policy, concurrency } }

/-- An event is published on a topic. -/
def publish (topic : String) (body : Bytes) (c : Course) : Course where
  bus := (c.bus.publish topic body).2
  logs := c.logs.mapIdx fun i l =>
    if Bus.takes topic c.bus.queues i then
      { l with accepted := l.accepted ++ [{ id := c.bus.published, body }] }
    else l

/-- What a call of the handler of a queue comes to in an action, with its message. -/
def answer? (i : Nat) (a : QueueAction) (c : Course) : Option (Message × HandlerOutcome) :=
  (c.bus.queues[i]?).bind (·.answer? a)

/-- An action happens to a queue, if it can. -/
def act (i : Nat) (a : QueueAction) (c : Course) : Option Course :=
  (c.bus.act i a).map fun bus =>
    { bus
      logs := c.logs.modify i fun l =>
        { l with answers := l.answers ++ (c.answer? i a).toList } }

/-- One step of a course. -/
inductive Step : Course → Course → Prop where
  /-- A handler is subscribed. -/
  | subscribe {c bus} {topic name handler : String} :
      c.bus.subscribe topic name handler = .ok bus → Step c ⟨bus, c.logs ++ [({} : QueueLog)]⟩
  /-- An event is published. -/
  | publish {c} (topic : String) (body : Bytes) : Step c (c.publish topic body)
  /-- The shutdown signal is fired. -/
  | shutdown {c} : Step c { c with bus := c.bus.shutdown }
  /-- An action happens to a queue. -/
  | act {c c' i a} : c.act i a = some c' → Step c c'

/-- A run leads from one course to another. -/
abbrev Reaches : Course → Course → Prop := Relation.ReflTransGen Step

/-- A queue of a bus has what its log says it accepted. -/
structure Keeps (b : Bus) (q : Queue) (l : QueueLog) : Prop where
  /-- The queue is as its actions leave it. -/
  sound : q.Sound (max b.concurrency 1)
  /-- Each message has one place. -/
  tracks : q.Tracks l
  /-- The policy is that of the bus. -/
  policy : q.policy = b.policy
  /-- The messages that were accepted have been published. -/
  published : ∀ m ∈ l.accepted, m.id < b.published

/-- Every queue has what its log says it accepted. -/
structure Sound (c : Course) : Prop where
  /-- Every queue has its log. -/
  length : c.logs.length = c.bus.queues.length
  /-- Every queue has what it accepted. -/
  keeps : ∀ {i : Nat} {q l}, c.bus.queues[i]? = some q → c.logs[i]? = some l → Keeps c.bus q l

theorem sound_start (policy : RedeliveryPolicy) (concurrency : Nat) :
    (start policy concurrency).Sound where
  length := rfl
  keeps h := by cases h

variable {c c' : Course} {i : Nat} {q q' : Queue} {l : QueueLog}

theorem Sound.subscribe {bus : Bus} {topic name handler : String} (h : c.Sound)
    (hs : c.bus.subscribe topic name handler = .ok bus) :
    (⟨bus, c.logs ++ [({} : QueueLog)]⟩ : Course).Sound := by
  obtain rfl := Bus.eq_of_subscribe hs
  refine ⟨by simp [h.length], fun {i q l} hq hl => ?_⟩
  by_cases hi : i < c.bus.queues.length
  · rw [List.getElem?_append_left hi] at hq
    rw [List.getElem?_append_left (h.length.symm ▸ hi)] at hl
    have hkeeps := h.keeps hq hl
    exact ⟨hkeeps.sound, hkeeps.tracks, hkeeps.policy, hkeeps.published⟩
  · obtain rfl : i = c.bus.queues.length := by
      obtain ⟨hlt, -⟩ := List.getElem?_eq_some_iff.mp hq
      rw [List.length_append, List.length_singleton] at hlt
      omega
    rw [List.getElem?_concat_length, Option.some.injEq] at hq
    rw [← h.length, List.getElem?_concat_length, Option.some.injEq] at hl
    subst hq hl
    exact ⟨Queue.sound_subscribed .., Queue.tracks_subscribed .., rfl,
      fun _ hm => absurd hm List.not_mem_nil⟩

theorem Sound.publish (h : c.Sound) (topic : String) (body : Bytes) :
    (c.publish topic body).Sound := by
  refine ⟨?_, fun {i q l} hq hl => ?_⟩
  · simp only [Course.publish, Bus.publish, List.length_mapIdx, Bus.enqueue_length, h.length]
  · simp only [Course.publish, Bus.publish, Bus.enqueue_getElem?] at hq
    simp only [Course.publish, List.getElem?_mapIdx, Option.map_eq_some_iff] at hl
    obtain ⟨l, hl, rfl⟩ := hl
    split at hq
    · next htakes =>
      obtain ⟨q, hq, haccept⟩ := Option.bind_eq_some_iff.mp hq
      have hkeeps := h.keeps hq hl
      rw [if_pos htakes]
      have hnew : c.bus.published ∉ l.accepted.map (·.id) := by
        intro hmem
        obtain ⟨m, hm, hid⟩ := List.mem_map.mp hmem
        exact Nat.lt_irrefl _ (hid ▸ hkeeps.published m hm)
      refine ⟨hkeeps.sound.accept haccept, hkeeps.tracks.accept haccept rfl hnew,
        (Queue.alike_accept haccept).policy.trans hkeeps.policy, fun m hm => ?_⟩
      rcases List.mem_append.mp hm with hm | hm
      · exact Nat.lt_succ_of_lt (hkeeps.published m hm)
      · rw [List.mem_singleton.mp hm]
        exact Nat.lt_succ_self _
    · next htakes =>
      have hkeeps := h.keeps hq hl
      rw [if_neg htakes]
      exact ⟨hkeeps.sound, hkeeps.tracks, hkeeps.policy,
        fun m hm => Nat.lt_succ_of_lt (hkeeps.published m hm)⟩

theorem Sound.shutdown (h : c.Sound) : ({ c with bus := c.bus.shutdown } : Course).Sound := by
  refine ⟨by simp [Bus.shutdown, h.length], fun {i q l} hq hl => ?_⟩
  simp only [Bus.shutdown, List.getElem?_map, Option.map_eq_some_iff] at hq
  obtain ⟨q, hq, rfl⟩ := hq
  have hkeeps := h.keeps hq hl
  have htracks := hkeeps.tracks
  exact ⟨hkeeps.sound.signal,
    ⟨htracks.ids, htracks.nodup, htracks.lives, htracks.handed, htracks.answered⟩,
    hkeeps.policy, hkeeps.published⟩

/-- What an action that happens to a queue does to the queues and their logs. -/
theorem act_eq {a : QueueAction} (ha : c.act i a = some c') :
    ∃ q q', c.bus.queues[i]? = some q ∧ q.act a = some q' ∧
      c' = { bus := { c.bus with queues := c.bus.queues.set i q' }
             logs := c.logs.modify i fun l =>
              { l with answers := l.answers ++ (q.answer? a).toList } } := by
  simp only [Course.act, Bus.act, Option.bind_eq_bind, Option.map_eq_some_iff,
    Option.bind_eq_some_iff] at ha
  obtain ⟨bus, ⟨q, hq, q', hact, heq⟩, rfl⟩ := ha
  cases heq
  have hanswer : c.answer? i a = q.answer? a := by rw [answer?, hq, Option.bind_some]
  rw [hanswer]
  exact ⟨q, q', hq, hact, rfl⟩

theorem Sound.act {a : QueueAction} (h : c.Sound) (ha : c.act i a = some c') : c'.Sound := by
  obtain ⟨q₀, q₁, hq₀, hact, rfl⟩ := act_eq ha
  refine ⟨by simp [h.length], fun {k q l} hq hl => ?_⟩
  rw [List.getElem?_modify, Option.map_eq_map, Option.map_eq_some_iff] at hl
  obtain ⟨l, hl, rfl⟩ := hl
  rcases cases_getElem?_set hq₀ hq with ⟨rfl, rfl⟩ | ⟨hne, hq⟩
  · have hkeeps := h.keeps hq₀ hl
    have hpolicy := (Queue.alike_act hact).policy
    rw [if_pos rfl]
    exact ⟨hkeeps.sound.act hact,
      hkeeps.tracks.turns hpolicy (Queue.act_turns hkeeps.sound.toNumbered hact),
      hpolicy.trans hkeeps.policy, hkeeps.published⟩
  · rw [if_neg hne.symm]
    have hkeeps := h.keeps hq hl
    exact ⟨hkeeps.sound, hkeeps.tracks, hkeeps.policy, hkeeps.published⟩

theorem Sound.step (h : c.Sound) (step : Step c c') : c'.Sound := by
  cases step with
  | subscribe hs => exact h.subscribe hs
  | publish topic body => exact h.publish topic body
  | shutdown => exact h.shutdown
  | act ha => exact h.act ha

/-- In every run every queue has what it accepted. -/
theorem Reaches.sound {policy : RedeliveryPolicy} {concurrency : Nat}
    (h : Reaches (start policy concurrency) c) : c.Sound := by
  induction h with
  | refl => exact sound_start policy concurrency
  | tail _ step ih => exact ih.step step

theorem Sound.exists_log (h : c.Sound) (hq : c.bus.queues[i]? = some q) :
    ∃ l, c.logs[i]? = some l ∧ Keeps c.bus q l := by
  obtain ⟨hlt, -⟩ := List.getElem?_eq_some_iff.mp hq
  have hl := List.getElem?_eq_getElem (h.length.symm ▸ hlt)
  exact ⟨_, hl, h.keeps hq hl⟩

/-- The policy is that of the bus from the start. -/
theorem Step.policy (step : Step c c') : c'.bus.policy = c.bus.policy := by
  cases step with
  | subscribe hs =>
    obtain rfl := Bus.eq_of_subscribe hs
    rfl
  | publish topic body => rfl
  | shutdown => rfl
  | act ha =>
    obtain ⟨q, q', -, -, rfl⟩ := act_eq ha
    rfl

theorem Reaches.policy (h : Reaches c c') : c'.bus.policy = c.bus.policy := by
  induction h with
  | refl => rfl
  | tail _ step ih => exact step.policy.trans ih

/-- A step leaves a queue alone, puts a message into it, signals it, or is an action of it. -/
theorem Step.queue_cases (step : Step c c') (hq : c.bus.queues[i]? = some q) :
    ∃ q', c'.bus.queues[i]? = some q' ∧ (q' = q ∨ (∃ m, q.accept? m = some q') ∨
      q' = { q with signalled := true } ∨ ∃ a, q.act a = some q') := by
  have hlt := (List.getElem?_eq_some_iff.mp hq).1
  cases step with
  | subscribe hs =>
    obtain rfl := Bus.eq_of_subscribe hs
    exact ⟨q, (List.getElem?_append_left hlt).trans hq, .inl rfl⟩
  | publish topic body =>
    simp only [Course.publish, Bus.publish, Bus.enqueue_getElem?]
    split
    · next htakes =>
      have haccept := Bus.accept?_of_running { id := c.bus.published, body }
        (Bus.of_takes htakes hq).2
      rw [hq, Option.bind_some, haccept]
      exact ⟨_, rfl, .inr (.inl ⟨_, haccept⟩)⟩
    · exact ⟨q, hq, .inl rfl⟩
  | shutdown =>
    simp only [Bus.shutdown, List.getElem?_map, hq, Option.map_some]
    exact ⟨_, rfl, .inr (.inr (.inl rfl))⟩
  | @act _ k a ha =>
    obtain ⟨q₀, q₁, hq₀, hact, rfl⟩ := act_eq ha
    by_cases hk : k = i
    · subst hk
      rw [hq, Option.some.injEq] at hq₀
      subst hq₀
      exact ⟨q₁, List.getElem?_set_self hlt, .inr (.inr (.inr ⟨a, hact⟩))⟩
    · exact ⟨q, (List.getElem?_set_ne hk).trans hq, .inl rfl⟩

/-! ### Messages that have come to an end -/

/-- A message that has come to an end stays there in the next step. -/
theorem Sound.stays {e : Place × Message} (h : c.Sound) (step : Step c c')
    (hq : c.bus.queues[i]? = some q) (he : e ∈ q.entries) (hend : e.1.isEnd = true) :
    ∃ q', c'.bus.queues[i]? = some q' ∧ e ∈ q'.entries ∧
      q'.callsOf e.2.id = q.callsOf e.2.id := by
  obtain ⟨q', hq', hcases⟩ := step.queue_cases hq
  refine ⟨q', hq', ?_⟩
  rcases hcases with rfl | ⟨m, hm⟩ | rfl | ⟨a, ha⟩
  · exact ⟨he, rfl⟩
  · obtain ⟨-, rfl⟩ := Queue.accept?_eq_some.mp hm
    exact ⟨(Queue.entries_accept hm).mem_iff.mpr (List.mem_cons_of_mem _ he), rfl⟩
  · exact ⟨he, rfl⟩
  · obtain ⟨l, -, hkeeps⟩ := h.exists_log hq
    exact (Queue.act_turns hkeeps.sound.toNumbered ha).stays hkeeps.tracks.nodup_entries he hend

/-- A message that has come to an end stays there in every run that follows. -/
theorem Sound.stays_reaches {e : Place × Message} (h : c.Sound) (hr : Reaches c c')
    (hq : c.bus.queues[i]? = some q) (he : e ∈ q.entries) (hend : e.1.isEnd = true) :
    ∃ q', c'.bus.queues[i]? = some q' ∧ q'.entriesOf e.2.id = [e] ∧
      q'.callsOf e.2.id = q.callsOf e.2.id := by
  have hall : c'.Sound ∧ ∃ q', c'.bus.queues[i]? = some q' ∧ e ∈ q'.entries ∧
      q'.callsOf e.2.id = q.callsOf e.2.id := by
    induction hr with
    | refl => exact ⟨h, q, hq, he, rfl⟩
    | tail _ step ih =>
      obtain ⟨hsound, q', hq', he', hcalls⟩ := ih
      obtain ⟨q'', hq'', he'', hcalls'⟩ := hsound.stays step hq' he' hend
      exact ⟨hsound.step step, q'', hq'', he'', hcalls'.trans hcalls⟩
  obtain ⟨hsound, q', hq', he', hcalls⟩ := hall
  obtain ⟨l', -, hkeeps⟩ := hsound.exists_log hq'
  exact ⟨q', hq', filter_eq_singleton hkeeps.tracks.nodup_entries he', hcalls⟩

end Course

end HostWatch
