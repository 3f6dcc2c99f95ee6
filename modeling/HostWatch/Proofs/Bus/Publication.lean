import HostWatch.Proofs.Bus.FanOut
import HostWatch.Proofs.Bus.Silence

/-!
# Publications while the dispatchers stop

Once the shutdown signal is fired, the dispatchers stop one after another, in any order. A message
that is published meanwhile goes to the queues of its topic in the order of their subscription, up
to the first one that has stopped (`Bus.publish_cases`); it has been accepted once by each of them
and by no other queue (`Course.Reaches.publishes`). So it is on every queue of the topic if it is
published, but a publication that is refused is without effect only if the first queue of the topic
has stopped (`Bus.queues_publish_eq_iff`), as when all of them have. Nothing makes that queue stop
first: of two queues the second one may, and then the first one has the message that was refused
(`Course.refused_halfway`).
-/

namespace HostWatch

namespace Bus

variable {topic : String} {body : Bytes} {b : Bus} {q : Queue} {qs rest : List Queue}

/-! ### The first queue that has stopped -/

/-- A queue whose dispatcher has stopped, and which is bound to a topic. -/
def Refuses (topic : String) (q : Queue) : Prop :=
  q.topic = topic ∧ q.dispatcher = .stopped

instance (topic : String) (q : Queue) : Decidable (Refuses topic q) :=
  inferInstanceAs (Decidable (_ ∧ _))

theorem runs_iff : Runs topic qs ↔ ∀ q ∈ qs, ¬ Refuses topic q := by
  simp only [Runs, Refuses, not_and, ne_eq]

/-- The queues of a topic run, or one of them is the first that has stopped. -/
theorem runs_or_exists_first (topic : String) (qs : List Queue) :
    Runs topic qs ∨ ∃ before q after,
      qs = before ++ q :: after ∧ Runs topic before ∧ Refuses topic q := by
  cases hfind : qs.find? (Refuses topic ·) with
  | none =>
    refine .inl (runs_iff.mpr fun q hq => ?_)
    simpa using List.find?_eq_none.mp hfind q hq
  | some q =>
    obtain ⟨hq, before, after, rfl, hbefore⟩ := List.find?_eq_some_iff_append.mp hfind
    refine .inr ⟨before, q, after, rfl, runs_iff.mpr fun p hp => ?_, of_decide_eq_true hq⟩
    simpa using hbefore p hp

/-- A queue that has stopped refuses, and the queues after it are not asked. -/
theorem enqueue_of_refuses (h : Refuses topic q) (m : Message) :
    enqueue topic m (q :: rest) = (false, q :: rest) := by
  rw [enqueue, if_pos h.1, Queue.accept?, if_pos h.2]

/-! ### What a publication does -/

/-- A message is published to all queues of its topic, or refused by the first one that has stopped,
and then it is in the queues before that one. -/
theorem publish_cases (topic : String) (body : Bytes) (b : Bus) :
    let m : Message := { id := b.published, body }
    (Runs topic b.queues ∧ (b.publish topic body).1 = .ok () ∧
      (b.publish topic body).2.queues = b.queues.map (·.give topic m)) ∨
    ∃ before q after, b.queues = before ++ q :: after ∧ Runs topic before ∧ Refuses topic q ∧
      (b.publish topic body).1 = .error .closed ∧
      (b.publish topic body).2.queues = before.map (·.give topic m) ++ q :: after := by
  intro m
  obtain hruns | ⟨before, q, after, hqueues, hbefore, hq⟩ := runs_or_exists_first topic b.queues
  · refine .inl ⟨hruns, ?_⟩
    rw [publish_of_runs hruns]
    exact ⟨rfl, rfl⟩
  · refine .inr ⟨before, q, after, hqueues, hbefore, hq, ?_⟩
    rw [publish, hqueues, enqueue_append_of_runs hbefore, enqueue_of_refuses hq]
    exact ⟨rfl, rfl⟩

/-- What a message is given to changes. -/
theorem give_eq_self_iff {m : Message} : q.give topic m = q ↔ q.topic ≠ topic := by
  unfold Queue.give
  split
  · next ht =>
    refine ⟨fun h => ?_, fun h => absurd ht h⟩
    exact absurd (List.append_right_eq_self.mp (congrArg Queue.waiting h)) (List.cons_ne_nil m [])
  · next ht => exact ⟨fun _ => ht, fun _ => rfl⟩

/-- A refused publication leaves all queues as they are just if the first queue of the topic has
stopped. -/
theorem queues_publish_eq_iff (h : (b.publish topic body).1 = .error .closed) :
    (b.publish topic body).2.queues = b.queues ↔
      ∀ q ∈ (b.bound topic).head?, q.dispatcher = .stopped := by
  obtain ⟨-, hok, -⟩ | ⟨before, q, after, hqueues, hbefore, hq, -, hgiven⟩ :=
    publish_cases topic body b
  · rw [hok] at h
    cases h
  have hmap : before.map (·.give topic { id := b.published, body }) = before ↔
      before.filter (·.topic = topic) = [] :=
    calc
      _ ↔ before.map (·.give topic { id := b.published, body }) = before.map id := by rw [List.map_id]
      _ ↔ ∀ p ∈ before, p.topic ≠ topic := by
        simp only [List.map_inj_left, id_eq, give_eq_self_iff]
      _ ↔ _ := by simp only [List.filter_eq_nil_iff, decide_eq_true_eq]
  have hbound : b.bound topic = before.filter (·.topic = topic) ++
      q :: after.filter (·.topic = topic) := by
    rw [bound, hqueues, List.filter_append, List.filter_cons, if_pos (decide_eq_true hq.1)]
  rw [hgiven, hqueues, List.append_left_inj, hmap, hbound]
  cases hfilter : before.filter (·.topic = topic) with
  | nil => simpa using hq.2
  | cons p ps =>
    obtain ⟨hp, htopic⟩ := List.mem_filter.mp (hfilter ▸ List.mem_cons_self (a := p))
    simpa using hbefore p hp (of_decide_eq_true htopic)

end Bus

/-! ### Publications in a run -/

/-- Of a message that a queue takes for the first time it has one copy, which waits. -/
theorem Queue.entriesOf_accept {q q' : Queue} {m : Message} (h : q.accept? m = some q')
    (hnew : q.entriesOf m.id = []) : q'.entriesOf m.id = [(.waiting, m)] := by
  refine List.perm_singleton.mp (((entries_accept h).filter _).trans ?_)
  rw [List.filter_cons, if_pos (decide_eq_true rfl), ← entriesOf, hnew]

namespace Course

variable {c : Course} {q : Queue} {topic : String} {body : Bytes} {policy : RedeliveryPolicy}
  {concurrency : Nat}

/-- No queue has anything of the next publication. -/
theorem Sound.entriesOf_published (h : c.Sound) (hq : q ∈ c.bus.queues) :
    q.entriesOf c.bus.published = [] := by
  obtain ⟨i, hi⟩ := List.mem_iff_getElem?.mp hq
  obtain ⟨l, -, hkeeps⟩ := h.exists_log hi
  refine List.filter_eq_nil_iff.mpr fun e he hid => ?_
  have hmem := hkeeps.tracks.ids.mem_iff.mp (List.mem_map_of_mem he)
  obtain ⟨m, hm, heq⟩ := List.mem_map.mp hmem
  have hlt := hkeeps.published m hm
  rw [heq, of_decide_eq_true hid] at hlt
  exact Nat.lt_irrefl _ hlt

/-- In every run, a message that is published is on each queue that takes it once, and on no other
queue. -/
theorem Reaches.publishes (h : Reaches (start policy concurrency) c) (topic : String)
    (body : Bytes) :
    ((c.bus.publish topic body).1 = .ok () ∧ Bus.Runs topic c.bus.queues ∨
      (c.bus.publish topic body).1 = .error .closed ∧ ¬ Bus.Runs topic c.bus.queues) ∧
    ∀ i q, c.bus.queues[i]? = some q → ∃ q', (c.publish topic body).bus.queues[i]? = some q' ∧
      q'.entriesOf c.bus.published =
        if Bus.takes topic c.bus.queues i then [(.waiting, { id := c.bus.published, body })]
        else [] := by
  constructor
  · obtain ⟨hruns, hok, -⟩ | ⟨before, q, after, hqueues, -, hq, hclosed, -⟩ :=
      Bus.publish_cases topic body c.bus
    · exact .inl ⟨hok, hruns⟩
    · refine .inr ⟨hclosed, fun hruns => ?_⟩
      exact Bus.runs_iff.mp hruns q (hqueues ▸ List.mem_append_right _ List.mem_cons_self) hq
  · intro i q hq
    have hnew := h.sound.entriesOf_published (List.mem_of_getElem? hq)
    simp only [publish, Bus.publish, Bus.enqueue_getElem?]
    split
    · next htakes =>
      have haccept := Bus.accept?_of_running { id := c.bus.published, body }
        (Bus.of_takes htakes hq).2
      rw [hq, Option.bind_some, haccept]
      exact ⟨_, rfl, Queue.entriesOf_accept haccept hnew⟩
    · exact ⟨q, hq, hnew⟩

/-! ### A message that was refused and waits -/

/-- Two queues of a topic, to which nothing has been published. -/
def twoQueues : Course :=
  ⟨{ oneQueue.bus with
      queues := oneQueue.bus.queues ++ [.subscribed "t" "r" "k" ⟨1, 10, 20⟩ 1] }, [{}, {}]⟩

/-- The shutdown signal is fired, and the second one has stopped. -/
def secondStopped : Course :=
  (twoQueues.shutdown.play [(1, .stop)]).getD twoQueues

theorem reaches_secondStopped : Reaches (start ⟨1, 10, 20⟩ 1) secondStopped := by
  have hfirst : Reaches (start ⟨1, 10, 20⟩ 1) oneQueue := .single (.subscribe rfl)
  have hsubscribe : oneQueue.bus.subscribe "t" "r" "k" = .ok twoQueues.bus := by decide +kernel
  have hplay : twoQueues.shutdown.play [(1, .stop)] = some secondStopped := by decide +kernel
  exact .trans (.tail (.tail hfirst (.subscribe hsubscribe)) .shutdown) (reaches_play hplay)

/-- A message that was refused waits in the queue that was subscribed first. -/
theorem refused_halfway :
    ¬ ∀ (policy : RedeliveryPolicy) (concurrency : Nat) (c : Course) (topic : String)
      (body : Bytes), Reaches (start policy concurrency) c →
      (c.bus.publish topic body).1 = .error .closed →
      ∀ q ∈ (c.publish topic body).bus.queues, q.entriesOf c.bus.published = [] := by
  intro h
  have hclosed : (secondStopped.bus.publish "t" []).1 = .error .closed := by decide +kernel
  have hempty := h _ _ _ "t" [] reaches_secondStopped hclosed
  exact absurd hempty (by decide +kernel)

end Course

end HostWatch
