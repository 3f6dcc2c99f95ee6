import HostWatch.Proofs.Bus.Course
import Mathlib.Data.List.Induction

/-!
# What each queue of the bus is given

A history of the bus before its shutdown is any sequence of subscriptions, publications and actions
of queues, in any order. A subscription under a name that its topic has already is refused and
leaves the bus as it was; every other one adds a queue. From then on that queue is given the messages
that are published on its topic and no others (`Bus.follow_given`): a publication puts one copy into
each queue of the topic (`Bus.Open.publish`), and an action moves messages within one queue only, so
what a queue has accepted grows in each step by what is published on its topic
(`Course.Sound.hears`).
-/

namespace HostWatch

/-- An entry is replaced by another one of the same value. -/
theorem map_set_eq {α β : Type} {xs : List α} {i : Nat} {x y : α} (f : α → β) (hx : xs[i]? = some x)
    (h : f y = f x) : (xs.set i y).map f = xs.map f := by
  obtain ⟨hlt, rfl⟩ := List.getElem?_eq_some_iff.mp hx
  have hself := List.set_getElem_self (show i < (xs.map f).length by rwa [List.length_map])
  rw [List.getElem_map] at hself
  rwa [List.map_set, h]

/-! ### Histories -/

/-- Something that happens on the bus before its shutdown. -/
inductive Happening where
  /-- A handler is subscribed to a topic under the name of a queue, or refused. -/
  | subscribe (topic name handler : String)
  /-- An event is published on a topic. -/
  | publish (topic : String) (body : Bytes)
  /-- An action happens to a queue. -/
  | act (queue : Nat) (a : QueueAction)
  deriving DecidableEq, Repr

namespace Happening

/-- How many publications it is. -/
def publications : Happening → Nat
  | publish .. => 1
  | _ => 0

/-- The message that is published with it on a topic, after so many publications. -/
def announces (topic : String) (published : Nat) : Happening → List Message
  | publish t body => if t = topic then [{ id := published, body }] else []
  | _ => []

end Happening

/-- The messages that a history publishes on a topic, after so many publications. -/
def announced (topic : String) : Nat → List Happening → List Message
  | _, [] => []
  | published, h :: hs =>
    h.announces topic published ++ announced topic (published + h.publications) hs

namespace Queue

/-- What a queue was subscribed with. -/
def outline (q : Queue) : String × String × String :=
  (q.topic, q.name, q.handler)

/-- A queue with a message at the end, if it is bound to the topic. -/
def give (topic : String) (m : Message) (q : Queue) : Queue :=
  if q.topic = topic then { q with waiting := q.waiting ++ [m] } else q

theorem outline_give (topic : String) (m : Message) (q : Queue) :
    (q.give topic m).outline = q.outline := by
  unfold give
  split <;> rfl

theorem outline_act {q q' : Queue} {a : QueueAction} (h : q.act a = some q') :
    q'.outline = q.outline := by
  cases acts_of_act h <;> rfl

/-- A dispatcher that was not told to stop does not. -/
theorem running_act {q q' : Queue} {a : QueueAction} (h : q.act a = some q')
    (hsignal : q.signalled = false) (hrunning : q.dispatcher ≠ .stopped) :
    q'.dispatcher ≠ .stopped := by
  cases acts_of_act h with
  | takePermit => exact fun heq => by cases heq
  | receive => exact fun heq => by cases heq
  | stop hsignalled => rw [hsignal] at hsignalled; cases hsignalled
  | _ => exact hrunning

end Queue

namespace Bus

/-- What happens to the bus, if it can. -/
def apply (b : Bus) : Happening → Option Bus
  | .subscribe topic name handler => some ((b.subscribe topic name handler).toOption.getD b)
  | .publish topic body => some (b.publish topic body).2
  | .act i a => b.act i a

/-- The bus after a history, if all of it can happen. -/
def follow (hs : List Happening) (b : Bus) : Option Bus :=
  hs.foldlM apply b

variable {b b' : Bus} {e : Happening} {hs : List Happening} {i : Nat} {q q' : Queue}
  {topic name handler : String}

theorem follow_append {es : List Happening} : b.follow (hs ++ es) = some b' ↔
    ∃ b₀, b.follow hs = some b₀ ∧ b₀.follow es = some b' := by
  rw [follow, List.foldlM_append, Option.bind_eq_bind, Option.bind_eq_some_iff]
  rfl

theorem follow_cons : b.follow (e :: hs) = some b' ↔
    ∃ b₀, b.apply e = some b₀ ∧ b₀.follow hs = some b' := by
  rw [follow, List.foldlM_cons, Option.bind_eq_bind, Option.bind_eq_some_iff]
  rfl

theorem follow_singleton : b.follow [e] = b.apply e := by
  rw [follow, List.foldlM_cons, Option.bind_eq_bind]
  cases b.apply e <;> rfl

/-! ### Subscriptions -/

/-- A topic has a queue of that name. -/
def Taken (topic name : String) (b : Bus) : Prop :=
  ∃ q ∈ b.queues, q.topic = topic ∧ q.name = name

/-- A name that is taken is refused. -/
theorem subscribe_of_taken (h : b.Taken topic name) (handler : String) :
    b.subscribe topic name handler = .error (.duplicateQueue topic name) := by
  obtain ⟨q, hq, htopic, hname⟩ := h
  have hany : (b.bound topic).any (·.name = name) = true :=
    List.any_eq_true.mpr ⟨q, List.mem_filter.mpr ⟨hq, decide_eq_true htopic⟩, decide_eq_true hname⟩
  rw [subscribe, if_pos hany]

/-- Under a name that is not taken there is a new queue, the last one. -/
theorem subscribe_of_not_taken (h : ¬ b.Taken topic name) (handler : String) :
    b.subscribe topic name handler = .ok { b with
      queues := b.queues ++ [.subscribed topic name handler b.policy b.concurrency] } := by
  have hany : ¬ (b.bound topic).any (·.name = name) = true := by
    intro hany
    obtain ⟨q, hq, hname⟩ := List.any_eq_true.mp hany
    obtain ⟨hmem, htopic⟩ := List.mem_filter.mp hq
    exact h ⟨q, hmem, of_decide_eq_true htopic, of_decide_eq_true hname⟩
  rw [subscribe, if_neg hany]

/-! ### Publications -/

/-- No queue was told to stop, and none has stopped. -/
def Open (b : Bus) : Prop :=
  ∀ q ∈ b.queues, q.signalled = false ∧ q.dispatcher ≠ .stopped

/-- The dispatchers of a topic run. -/
def Runs (topic : String) (qs : List Queue) : Prop :=
  ∀ q ∈ qs, q.topic = topic → q.dispatcher ≠ .stopped

/-- The queues that run take a message, and the others are asked after them. -/
theorem enqueue_append_of_runs {qs : List Queue} (h : Runs topic qs) (m : Message)
    (rest : List Queue) : enqueue topic m (qs ++ rest) =
      ((enqueue topic m rest).1, qs.map (·.give topic m) ++ (enqueue topic m rest).2) := by
  induction qs with
  | nil => rfl
  | cons q qs ih =>
    obtain ⟨hq, hqs⟩ := List.forall_mem_cons.mp h
    rw [List.cons_append, enqueue, ih hqs]
    split_ifs with ht
    · rw [accept?_of_running m (hq ht)]
      simp only [List.map_cons, List.cons_append, Queue.give, if_pos ht]
    · simp only [List.map_cons, List.cons_append, Queue.give, if_neg ht]

theorem enqueue_of_runs {qs : List Queue} (h : Runs topic qs) (m : Message) :
    enqueue topic m qs = (true, qs.map (·.give topic m)) := by
  have happend := enqueue_append_of_runs h m []
  simpa only [List.append_nil, enqueue] using happend

/-- A publication is accepted, and puts the message into each queue of the topic. -/
theorem publish_of_runs (h : Runs topic b.queues) (body : Bytes) :
    b.publish topic body = (.ok (), { b with
      queues := b.queues.map (·.give topic { id := b.published, body })
      published := b.published + 1 }) := by
  rw [Bus.publish, enqueue_of_runs h]
  rfl

theorem Open.publish (h : b.Open) (topic : String) (body : Bytes) :
    b.publish topic body = (.ok (), { b with
      queues := b.queues.map (·.give topic { id := b.published, body })
      published := b.published + 1 }) :=
  publish_of_runs (fun q hq _ => (h q hq).2) body

theorem Open.takes (h : b.Open) (hq : b.queues[i]? = some q) :
    takes topic b.queues i = decide (q.topic = topic) := by
  have hall : (b.queues.take (i + 1)).all
      (fun q => q.topic = topic → q.dispatcher ≠ .stopped) = true :=
    List.all_eq_true.mpr fun p hp => decide_eq_true fun _ => (h p (List.mem_of_mem_take hp)).2
  rw [Bus.takes, hall, Bool.and_true, hq, Option.any_some]

/-! ### All that can happen -/

/-- `b.Happens e b'`: `e` can happen on a bus whose dispatchers run, and leaves it as `b'`. -/
inductive Happens (b : Bus) : Happening → Bus → Prop where
  /-- The name is taken. -/
  | refused {topic name handler : String} : b.Taken topic name →
      Happens b (.subscribe topic name handler) b
  /-- There is a new queue. -/
  | subscribed {topic name handler : String} : ¬ b.Taken topic name →
      Happens b (.subscribe topic name handler) { b with
        queues := b.queues ++ [.subscribed topic name handler b.policy b.concurrency] }
  /-- Each queue of the topic has a copy. -/
  | published (topic : String) (body : Bytes) :
      Happens b (.publish topic body) { b with
        queues := b.queues.map (·.give topic { id := b.published, body })
        published := b.published + 1 }
  /-- One queue changes. -/
  | acted {i : Nat} {a : QueueAction} {q q' : Queue} : b.queues[i]? = some q → q.act a = some q' →
      Happens b (.act i a) { b with queues := b.queues.set i q' }

/-- The list is complete, and each entry can happen. -/
theorem Open.apply_eq_some_iff (h : b.Open) : b.apply e = some b' ↔ b.Happens e b' := by
  constructor
  · intro ha
    cases e with
    | subscribe topic name handler =>
      by_cases ht : b.Taken topic name
      · rw [apply, subscribe_of_taken ht] at ha
        cases ha
        exact .refused ht
      · rw [apply, subscribe_of_not_taken ht] at ha
        cases ha
        exact .subscribed ht
    | publish topic body =>
      rw [apply, h.publish] at ha
      cases ha
      exact .published topic body
    | act i a =>
      simp only [apply, act, Option.bind_eq_bind, Option.bind_eq_some_iff] at ha
      obtain ⟨q, hq, q', hact, ha⟩ := ha
      cases ha
      exact .acted hq hact
  · intro hb
    cases hb with
    | refused ht => rw [apply, subscribe_of_taken ht]; rfl
    | subscribed ht => rw [apply, subscribe_of_not_taken ht]; rfl
    | published topic body => rw [apply, h.publish]
    | acted hq hact => simp only [apply, act, hq, hact, Option.bind_eq_bind, Option.bind_some]

/-- Nothing that happens stops a dispatcher. -/
theorem Open.happens (h : b.Open) (hb : b.Happens e b') : b'.Open := by
  cases hb with
  | refused => exact h
  | subscribed =>
    intro q hq
    rcases List.mem_append.mp hq with hq | hq
    · exact h q hq
    · rw [List.mem_singleton.mp hq]
      exact ⟨rfl, fun heq => by cases heq⟩
  | published =>
    intro q hq
    obtain ⟨p, hp, rfl⟩ := List.mem_map.mp hq
    unfold Queue.give
    split <;> exact h p hp
  | acted hq hact =>
    obtain ⟨hsignal, hrunning⟩ := h _ (List.mem_of_getElem? hq)
    intro p hp
    rcases List.mem_or_eq_of_mem_set hp with hp | rfl
    · exact h p hp
    · exact ⟨(Queue.alike_act hact).signalled.trans hsignal,
        Queue.running_act hact hsignal hrunning⟩

theorem Happens.published_eq (hb : b.Happens e b') :
    b'.published = b.published + e.publications := by
  cases hb <;> rfl

/-- A queue is there after whatever happens, subscribed as it was. -/
theorem Happens.getElem? (hb : b.Happens e b') (hq : b.queues[i]? = some q) :
    ∃ q', b'.queues[i]? = some q' ∧ q'.outline = q.outline := by
  have hlt := (List.getElem?_eq_some_iff.mp hq).1
  cases hb with
  | refused => exact ⟨q, hq, rfl⟩
  | subscribed => exact ⟨q, by rw [List.getElem?_append_left hlt, hq], rfl⟩
  | published => exact ⟨_, by rw [List.getElem?_map, hq]; rfl, Queue.outline_give ..⟩
  | @acted j a p p' hp hact =>
    by_cases hj : j = i
    · subst hj
      rw [hp, Option.some.injEq] at hq
      subst hq
      exact ⟨p', List.getElem?_set_self hlt, Queue.outline_act hact⟩
    · exact ⟨q, by rw [List.getElem?_set_ne hj, hq], rfl⟩

/-! ### Names -/

/-- Two queues of one topic have different names. -/
def Distinct (b : Bus) : Prop :=
  (b.queues.map fun q => (q.topic, q.name)).Nodup

theorem Distinct.happens (h : b.Distinct) (hb : b.Happens e b') : b'.Distinct := by
  have hkey : ∀ {p p' : Queue}, p'.outline = p.outline →
      (p'.topic, p'.name) = (p.topic, p.name) := fun heq =>
    congrArg (fun o : String × String × String => (o.1, o.2.1)) heq
  cases hb with
  | refused => exact h
  | @subscribed topic name handler hfree =>
    rw [Distinct, List.map_append, List.map_singleton]
    refine List.nodup_append_comm.mp (List.nodup_cons.mpr ⟨fun hmem => hfree ?_, h⟩)
    obtain ⟨q, hq, hkeys⟩ := List.mem_map.mp hmem
    exact ⟨q, hq, congrArg Prod.fst hkeys, congrArg Prod.snd hkeys⟩
  | published topic body =>
    rw [Distinct, List.map_map]
    have hsame : b.queues.map ((fun q => (q.topic, q.name)) ∘
        (·.give topic { id := b.published, body })) = b.queues.map fun q => (q.topic, q.name) :=
      List.map_congr_left fun q _ => hkey (q.outline_give topic _)
    exact hsame ▸ h
  | @acted i a q q' hq hact =>
    rw [Distinct, map_set_eq _ hq (hkey (Queue.outline_act hact))]
    exact h

/-- Where names are different, a queue is told by its topic and its name. -/
theorem Distinct.eq_index {j : Nat} (h : b.Distinct) (hq : b.queues[i]? = some q)
    (hq' : b.queues[j]? = some q') (htopic : q.topic = q'.topic) (hname : q.name = q'.name) :
    i = j := by
  have hlt := (List.getElem?_eq_some_iff.mp hq).1
  refine (List.getElem?_inj (by rwa [List.length_map]) h).mp ?_
  rw [List.getElem?_map, List.getElem?_map, hq, hq', Option.map_some, Option.map_some, htopic,
    hname]

/-! ### Whole histories -/

/-- What each step keeps, a history keeps. -/
theorem Open.follow_induction {P : Bus → Prop} (hopen : b.Open)
    (step : ∀ {c e c'}, c.Open → c.Happens e c' → P c → P c') (h : P b)
    (hf : b.follow hs = some b') : P b' := by
  induction hs generalizing b with
  | nil =>
    cases hf
    exact h
  | cons e hs ih =>
    obtain ⟨b₁, he, hrest⟩ := follow_cons.mp hf
    have hb := hopen.apply_eq_some_iff.mp he
    exact ih (hopen.happens hb) (step hopen hb h) hrest

theorem Open.follow (h : b.Open) (hf : b.follow hs = some b') : b'.Open :=
  h.follow_induction (fun hc hb _ => hc.happens hb) h hf

theorem Distinct.follow (h : b.Distinct) (hopen : b.Open) (hf : b.follow hs = some b') :
    b'.Distinct :=
  hopen.follow_induction (fun _ hb hc => hc.happens hb) h hf

theorem open_start (policy : RedeliveryPolicy) (concurrency : Nat) :
    ({ policy, concurrency } : Bus).Open :=
  fun _ hq => absurd hq List.not_mem_nil

end Bus

/-! ### What a queue has accepted -/

/-- A queue was given messages, one copy of each and nothing else. -/
structure Queue.Given (q : Queue) (ms : List Message) : Prop where
  /-- Each of them is in one place, as it was published but for the number of the attempt, and
  nothing else is anywhere. -/
  copies : (q.entries.map (·.2.retry 0)).Perm ms
  /-- They were published apart. -/
  different : (ms.map (·.id)).Nodup
  /-- The handler was called with each of them, if at all, for one attempt after another. -/
  calls : ∀ m ∈ ms, ∃ n, (q.callsOf m.id).reverse = (List.range n).map m.retry
  /-- It was called with nothing else. -/
  handed : ∀ c ∈ q.handed, c.retry 0 ∈ ms

/-- What was accepted was given. -/
theorem Queue.Tracks.given {q : Queue} {l : QueueLog} (h : q.Tracks l)
    (hfirst : ∀ m ∈ l.accepted, m.attempt = 0) : q.Given l.accepted := by
  have horigin : ∀ m ∈ l.accepted, ∀ k, (m.retry k).retry 0 = m := fun m hm k =>
    Message.retry_zero (hfirst m hm)
  have hids : (q.entries.map (·.2.retry 0)).map (·.id) = q.entries.map (·.2.id) := by
    rw [List.map_map]
    rfl
  have hdifferent : (q.entries.map (·.2.retry 0)).Nodup :=
    List.Nodup.of_map _ (hids ▸ h.nodup_entries)
  have hnodup : l.accepted.Nodup := List.Nodup.of_map _ h.nodup
  refine ⟨(List.perm_ext_iff_of_nodup hdifferent hnodup).mpr fun m => ⟨?_, ?_⟩, h.nodup,
    fun m hm => ?_, fun c hc => ?_⟩
  · intro hm
    obtain ⟨e, he, rfl⟩ := List.mem_map.mp hm
    obtain ⟨m, hm, hid⟩ := List.mem_map.mp (h.ids.mem_iff.mp (List.mem_map_of_mem he))
    obtain ⟨k, hlives⟩ := h.lives m hm e he hid.symm
    rwa [hlives.message, horigin m hm]
  · intro hm
    obtain ⟨p, k, hhas⟩ := h.has hm
    refine List.mem_map.mpr ⟨(p, m.retry k), ?_, horigin m hm k⟩
    exact List.mem_of_mem_filter (hhas.place ▸ List.mem_singleton_self _)
  · obtain ⟨p, k, hhas⟩ := h.has hm
    exact ⟨_, hhas.lives.calls⟩
  · obtain ⟨m, hm, hid⟩ := List.mem_map.mp (h.handed c hc)
    obtain ⟨p, k, hhas⟩ := h.has hm
    have hcall : c ∈ (q.callsOf m.id).reverse :=
      List.mem_reverse.mpr (List.mem_filter.mpr ⟨hc, decide_eq_true hid.symm⟩)
    rw [hhas.lives.calls] at hcall
    obtain ⟨j, -, rfl⟩ := List.mem_map.mp hcall
    rwa [horigin m hm]

theorem attempt_announced {topic : String} {published : Nat} {hs : List Happening} {m : Message}
    (hm : m ∈ announced topic published hs) : m.attempt = 0 := by
  induction hs generalizing published with
  | nil => cases hm
  | cons h hs ih =>
    rcases List.mem_append.mp hm with hm | hm
    · cases h with
      | publish t body =>
        rw [Happening.announces] at hm
        split_ifs at hm
        · rw [List.mem_singleton.mp hm]
        · cases hm
      | _ => cases hm
    · exact ih hm

namespace Course

variable {b b' : Bus} {logs : List QueueLog} {e : Happening} {hs : List Happening}

/-- In one step a queue accepts what is published on its topic. -/
theorem Sound.hears (h : (⟨b, logs⟩ : Course).Sound) (hopen : b.Open) (hb : b.Happens e b') :
    ∃ logs', (⟨b', logs'⟩ : Course).Sound ∧ ∀ {i : Nat} {q : Queue} {l : QueueLog},
      b.queues[i]? = some q → logs[i]? = some l → ∃ l', logs'[i]? = some l' ∧
        l'.accepted = l.accepted ++ e.announces q.topic b.published := by
  cases hb with
  | refused => exact ⟨logs, h, fun _ hl => ⟨_, hl, (List.append_nil _).symm⟩⟩
  | @subscribed topic name handler hfree =>
    refine ⟨_, h.subscribe (Bus.subscribe_of_not_taken hfree handler), fun {i q l} _ hl => ?_⟩
    exact ⟨l, by rw [List.getElem?_append_left (List.getElem?_eq_some_iff.mp hl).1, hl],
      (List.append_nil _).symm⟩
  | published topic body =>
    have hsound := h.publish topic body
    rw [Course.publish, hopen.publish] at hsound
    refine ⟨_, hsound, fun {i q l} hq hl => ?_⟩
    rw [List.getElem?_mapIdx, hl, Option.map_some, hopen.takes hq]
    refine ⟨_, rfl, ?_⟩
    by_cases ht : q.topic = topic
    · rw [if_pos (decide_eq_true ht), Happening.announces, if_pos ht.symm]
    · rw [if_neg (by simpa using ht), Happening.announces, if_neg (Ne.symm ht), List.append_nil]
  | @acted j a p p' hp hact =>
    have ha : (⟨b, logs⟩ : Course).act j a = some ⟨{ b with queues := b.queues.set j p' },
        logs.modify j fun l => { l with answers := l.answers ++ (p.answer? a).toList }⟩ := by
      simp only [Course.act, Bus.act, answer?, hp, hact, Option.bind_eq_bind, Option.bind_some,
        Option.map_some]
    refine ⟨_, h.act ha, fun {i q l} _ hl => ?_⟩
    rw [List.getElem?_modify, hl]
    refine ⟨_, rfl, ?_⟩
    split <;> exact (List.append_nil _).symm

/-- Over a history a queue accepts what is published on its topic, one message after another. -/
theorem Sound.follow (h : (⟨b, logs⟩ : Course).Sound) (hopen : b.Open)
    (hf : b.follow hs = some b') : ∃ logs', (⟨b', logs'⟩ : Course).Sound ∧
      ∀ {i : Nat} {q : Queue} {l : QueueLog}, b.queues[i]? = some q → logs[i]? = some l →
        ∃ q' l', b'.queues[i]? = some q' ∧ q'.outline = q.outline ∧ logs'[i]? = some l' ∧
          l'.accepted = l.accepted ++ announced q.topic b.published hs := by
  induction hs generalizing b logs with
  | nil =>
    cases hf
    exact ⟨logs, h, fun {i q l} hq hl => ⟨q, l, hq, rfl, hl, (List.append_nil _).symm⟩⟩
  | cons e hs ih =>
    obtain ⟨b₁, he, hrest⟩ := Bus.follow_cons.mp hf
    have hb := hopen.apply_eq_some_iff.mp he
    obtain ⟨logs₁, hsound, hstep⟩ := h.hears hopen hb
    obtain ⟨logs', hsound', hrun⟩ := ih hsound (hopen.happens hb) hrest
    refine ⟨logs', hsound', fun {i q l} hq hl => ?_⟩
    obtain ⟨q₁, hq₁, houtline₁⟩ := hb.getElem? hq
    obtain ⟨l₁, hl₁, haccepted₁⟩ := hstep hq hl
    obtain ⟨q', l', hq', houtline, hl', haccepted⟩ := hrun hq₁ hl₁
    have htopic : q₁.topic = q.topic := congrArg Prod.fst houtline₁
    rw [haccepted₁, htopic, hb.published_eq, List.append_assoc] at haccepted
    exact ⟨q', l', hq', houtline.trans houtline₁, hl', haccepted⟩

end Course

namespace Bus

variable {policy : RedeliveryPolicy} {concurrency : Nat} {b b₀ b' : Bus} {e : Happening}
  {hs before after : List Happening} {topic name handler : String} {i : Nat} {q : Queue}

/-- From its subscription on, a queue is given what is published on its topic. -/
theorem follow_given (h₀ : ({ policy, concurrency } : Bus).follow before = some b₀)
    (hfree : ¬ b₀.Taken topic name)
    (h : b₀.follow (.subscribe topic name handler :: after) = some b) :
    ∃ q, b.queues[b₀.queues.length]? = some q ∧ q.outline = (topic, name, handler) ∧
      q.Given (announced topic b₀.published after) := by
  have hopen := (open_start policy concurrency).follow h₀
  obtain ⟨logs, hsound, -⟩ :=
    (Course.sound_start policy concurrency).follow (open_start policy concurrency) h₀
  obtain ⟨b₁, he, hrest⟩ := follow_cons.mp h
  have hb := hopen.apply_eq_some_iff.mp he
  have hopen₁ := hopen.happens hb
  cases hb with
  | refused htaken => exact absurd htaken hfree
  | subscribed =>
    have hsound₁ := hsound.subscribe (subscribe_of_not_taken hfree handler)
    obtain ⟨logs', hsound', hrun⟩ := hsound₁.follow hopen₁ hrest
    have hlog : (logs ++ [({} : QueueLog)])[b₀.queues.length]? = some {} := by
      rw [← hsound.length, List.getElem?_concat_length]
    obtain ⟨q, l, hq, houtline, hl, haccepted⟩ := hrun List.getElem?_concat_length hlog
    refine ⟨q, hq, houtline, ?_⟩
    rw [List.nil_append] at haccepted
    have hgiven := (hsound'.keeps hq hl).tracks.given fun m hm =>
      attempt_announced (haccepted ▸ hm)
    rw [haccepted] at hgiven
    exact hgiven

/-- Each queue comes from a subscription that was not refused. -/
theorem follow_arises (h : ({ policy, concurrency } : Bus).follow hs = some b)
    (hq : b.queues[i]? = some q) : ∃ before after b₀,
      hs = before ++ .subscribe q.topic q.name q.handler :: after ∧
      ({ policy, concurrency } : Bus).follow before = some b₀ ∧ ¬ b₀.Taken q.topic q.name ∧
      b₀.queues.length = i := by
  induction hs using List.reverseRecOn generalizing b q with
  | nil =>
    cases h
    cases hq
  | append_singleton hs e ih =>
    obtain ⟨b₁, hb₁, he⟩ := follow_append.mp h
    rw [follow_singleton] at he
    have hopen := (open_start policy concurrency).follow hb₁
    have hb := hopen.apply_eq_some_iff.mp he
    by_cases hi : i < b₁.queues.length
    · -- the queue was there before
      obtain ⟨q', hq', houtline⟩ := hb.getElem? (List.getElem?_eq_getElem hi)
      rw [hq, Option.some.injEq] at hq'
      subst hq'
      obtain ⟨before, after, b₀, heq, hb₀, hfree, hlength⟩ := ih hb₁ (List.getElem?_eq_getElem hi)
      simp only [Queue.outline, Prod.mk.injEq] at houtline
      obtain ⟨htopic, hname, hhandler⟩ := houtline
      rw [← htopic, ← hname] at hfree
      rw [← htopic, ← hname, ← hhandler] at heq
      exact ⟨before, after ++ [e], b₀, by rw [heq, List.append_assoc]; rfl, hb₀, hfree, hlength⟩
    · have hlt := (List.getElem?_eq_some_iff.mp hq).1
      cases hb with
      | refused => exact absurd hlt hi
      | subscribed hfree =>
        rw [List.length_append, List.length_singleton] at hlt
        obtain rfl : i = b₁.queues.length := by omega
        rw [List.getElem?_concat_length, Option.some.injEq] at hq
        subst hq
        exact ⟨hs, [], b₁, rfl, hb₁, hfree, rfl⟩
      | published => exact absurd (by rwa [List.length_map] at hlt) hi
      | acted => exact absurd (by rwa [List.length_set] at hlt) hi

end Bus

end HostWatch
