import HostWatch.Decision.Pipeline
import HostWatch.Proofs.Bus.Handling
import HostWatch.Proofs.Decision.Alone
import HostWatch.Proofs.Decision.History

/-!
# The engine in service

An engine is subscribed to a queue of the bus, and each call of the queue's handler is a
decision of its own. `Service` is the pipeline of both with the logs of the queues and a
record of all calls of the decisions. A step of it is one of the pipeline, with any
collaborators, or something that happens elsewhere on the bus.

The decisions are the calls of the handler in their order, so the message of a decision is
found by the number of its task (`Queue.call?`). `Service.Turns` is all that a step can do to
them: nothing, a call that begins, a decision that moves, or a call that ends with the
verdict of its decision. `Service.Tallies` is what every turn keeps: as long as the queue
shows that the handler is at work on a message its decision runs, and afterwards the verdict
is among the answers of the queue's log.
-/

namespace HostWatch

/-! ### Services -/

/-- The task whose decision takes the step. -/
def PipelineAction.task : PipelineAction → Nat
  | .decide task => task
  | _ => 0

namespace Pipeline

variable {σ : Type}

/-- What a step does to the engine's queue, if it does something to it. -/
def queueAction? (a : PipelineAction) (p : Pipeline σ) : Option QueueAction :=
  match a with
  | .takePermit => some .takePermit
  | .receive => some .receive
  | .stop => some .stop
  | .decode number => some (.decode number)
  | .decide _ => none
  | .finish number => (p.verdict? number).map fun v => .finish number v.handlerOutcome
  | .putBack number => some (.putBack number)

end Pipeline

/-- An engine behind a queue of the bus, with the logs of all queues and a record of the calls that
its decisions make. -/
structure Service (σ : Type) where
  /-- The bus and the engine. -/
  pipeline : Pipeline (Recorded σ)
  /-- The logs of the queues, each at the place of its queue. -/
  logs : List QueueLog

namespace Service

variable {σ : Type}

/-- The bus with the logs of its queues. -/
def course (s : Service σ) : Course := ⟨s.pipeline.bus, s.logs⟩

/-- The engine's queue. -/
def queue? (s : Service σ) : Option Queue := s.pipeline.bus.queues[s.pipeline.queue]?

/-- The log of the engine's queue. -/
def log? (s : Service σ) : Option QueueLog := s.logs[s.pipeline.queue]?

/-- Where the decisions stand. -/
def tasks (s : Service σ) : List Stage := s.pipeline.engine.tasks

/-- The calls of the decisions and their answers, in their order. -/
def replies (s : Service σ) : List (Nat × Reply) := s.pipeline.world.state.replies

/-- What a call of the handler comes to in a step, with its message. -/
def answer? (a : PipelineAction) (s : Service σ) : Option (Message × HandlerOutcome) :=
  (s.pipeline.queueAction? a).bind (s.course.answer? s.pipeline.queue)

/-- The pipeline takes a step, if it can, and the log of the engine's queue has the answer of a call
that ends. -/
def act (c : Collaborators σ) (a : PipelineAction) (s : Service σ) : Option (Service σ) :=
  (s.pipeline.act (c.recorded a.task) a).map fun pipeline =>
    { pipeline
      logs := s.logs.modify s.pipeline.queue fun l =>
        { l with answers := l.answers ++ (s.answer? a).toList } }

/-- One step of a service. -/
inductive Step : Service σ → Service σ → Prop where
  /-- The pipeline takes a step, with any collaborators. -/
  | act {s s' a} {c : Collaborators σ} : s.act c a = some s' → Step s s'
  /-- Something happens elsewhere on the bus. -/
  | elsewhere {s d} : Course.Elsewhere s.pipeline.queue s.course d →
      Step s { pipeline := { s.pipeline with bus := d.bus }, logs := d.logs }
  /-- Somebody else changes the state of the collaborators. -/
  | others {s} (t : σ) :
      Step s { s with pipeline := { s.pipeline with world.state.state := t } }

/-- A run leads from one service to another. -/
abbrev Reaches : Service σ → Service σ → Prop := Relation.ReflTransGen Step

/-- An engine has just been subscribed on a bus that may have run before. -/
inductive Starts (policy : RedeliveryPolicy) (concurrency : Nat) : Service σ → Prop where
  /-- The queue is the last one, and no decision has begun. -/
  | subscribe {c : Course} {bus : Bus} {topic name handler : String} (guard : Settings.Guard)
      (state : σ) (metrics : Metrics) : Course.Reaches (.start policy concurrency) c →
      c.bus.subscribe topic name handler = .ok bus →
      Starts policy concurrency
        { pipeline :=
            { bus, queue := c.bus.queues.length, engine := { guard }
              world := { state := { state }, metrics } }
          logs := c.logs ++ [{}] }

/-! ### Turns -/

section Turns

variable (s : Service σ) (q : Queue) (l : QueueLog) (s' : Service σ) (q' : Queue) (l' : QueueLog)

/-- No call of the handler begins or ends, and no decision moves. -/
structure Rests : Prop where
  /-- The handler is not called. -/
  handed : q'.handed = q.handed
  /-- The calls under way go on. -/
  handles : ∀ {n r m}, q.Handles n r m → q'.Handles n r m
  /-- The decisions stay. -/
  tasks : s'.tasks = s.tasks
  /-- They are those of the same deliveries. -/
  running : s'.pipeline.running = s.pipeline.running
  /-- No call to a collaborator is made. -/
  replies : s'.replies = s.replies
  /-- No call of the handler is answered. -/
  answers : l'.answers = l.answers

/-- The handler is called with a message in the delivery `n`, and a decision begins. -/
structure CallBegins (n : Nat) (r : Report) (m : Message) : Prop where
  /-- The message carries a report. -/
  decode : m.decode = .ok r
  /-- The handler is called with it. -/
  handed : q'.handed = m :: q.handed
  /-- From then on the handler is at work on it. -/
  begun : q'.Handles n r m
  /-- The other calls go on. -/
  handles : ∀ {k r m}, q.Handles k r m → q'.Handles k r m
  /-- A decision about the report begins. -/
  tasks : s'.tasks = s.tasks ++ [.received r.url]
  /-- It is that of the delivery. -/
  running : s'.pipeline.running = s.pipeline.running ++ [(n, s.tasks.length)]
  /-- No call to a collaborator is made. -/
  replies : s'.replies = s.replies
  /-- No call of the handler is answered. -/
  answers : l'.answers = l.answers

/-- The decision of a task goes from stage `g` to `g'`, with the answer `reply` if it makes a
call. -/
structure Decides (task : Nat) (g : Stage) (reply : Option Reply) (g' : Stage) : Prop where
  /-- The task stood at `g`. -/
  before : s.tasks[task]? = some g
  /-- It goes to `g'`. -/
  goes : ∃ guard ls ls', g.Goes guard task ls reply g' ls'
  /-- No other task moves. -/
  tasks : s'.tasks = s.tasks.set task g'
  /-- The call is put on record. -/
  replies : s'.replies = s.replies ++ reply.toList.map (task, ·)
  /-- The decisions are those of the same deliveries. -/
  running : s'.pipeline.running = s.pipeline.running

/-- The call of the handler in the delivery `n` ends with the verdict of its decision. -/
structure CallEnds (n task : Nat) (m : Message) (v : Verdict) : Prop where
  /-- The decision was that of the delivery. -/
  mem : (n, task) ∈ s.pipeline.running
  /-- It is at its end. -/
  verdict : s.tasks[task]? = some (.done v)
  /-- The handler was at work on the message. -/
  handled : ∃ r, q.Handles n r m
  /-- The handler is not called. -/
  handed : q'.handed = q.handed
  /-- The other calls go on. -/
  handles : ∀ {k r m}, k ≠ n → q.Handles k r m → q'.Handles k r m
  /-- The decisions stay. -/
  tasks : s'.tasks = s.tasks
  /-- The delivery has none any more. -/
  running : s'.pipeline.running = s.pipeline.running.filter (·.1 ≠ n)
  /-- No call to a collaborator is made. -/
  replies : s'.replies = s.replies
  /-- The verdict says what the call came to. -/
  answers : l'.answers = l.answers ++ [(m, v.handlerOutcome)]

/-- All that a step can do to the calls of the handler and to the decisions. -/
inductive Turns : Prop where
  /-- Nothing. -/
  | rests : Rests s q l s' q' l' → Turns
  /-- A call begins. -/
  | begins {n r m} : CallBegins s q l s' q' l' n r m → Turns
  /-- A decision moves, and the queue stays as it is. -/
  | decides {task g reply g'} : Decides s s' task g reply g' → q' = q → l' = l → Turns
  /-- A call ends. -/
  | ends {n task m v} : CallEnds s q l s' q' l' n task m v → Turns

end Turns

/-- A step leads to `s'` by a turn, in which the queue may accept more. -/
def Leads (s : Service σ) (q : Queue) (l : QueueLog) (s' : Service σ) : Prop :=
  ∃ q' l', s'.queue? = some q' ∧ s'.log? = some l' ∧ l.accepted <+: l'.accepted ∧
    Turns s q l s' q' l'

/-! ### What a step does -/

variable {s s' : Service σ} {q q' : Queue} {l l' : QueueLog}

theorem onQueue_eq {p p' : Pipeline σ} {a : QueueAction} (hq : p.bus.queues[p.queue]? = some q)
    (h : p.onQueue a = some p') :
    ∃ q', q.act a = some q' ∧
      p' = { p with bus := { p.bus with queues := p.bus.queues.set p.queue q' } } := by
  simp only [Pipeline.onQueue, Bus.act, hq, Option.bind_eq_bind, Option.bind_some,
    Option.map_eq_some_iff, Option.bind_eq_some_iff] at h
  obtain ⟨bus, ⟨q', hact, heq⟩, rfl⟩ := h
  cases heq
  exact ⟨q', hact, rfl⟩

/-- A step that does something to the engine's queue leaves the bus as that leaves it. -/
theorem onQueue_of_act {p p' : Pipeline σ} {c : Collaborators σ} {a : PipelineAction}
    {b : QueueAction} (hb : p.queueAction? a = some b) (h : p.act c a = some p') :
    ∃ p'', p.onQueue b = some p'' ∧ p'.bus = p''.bus ∧ p'.queue = p''.queue := by
  cases a with
  | takePermit | receive | stop | putBack number =>
    cases hb
    exact ⟨p', h, rfl, rfl⟩
  | decide task => cases hb
  | decode number =>
    cases hb
    obtain ⟨p'', hp, rfl⟩ := Option.map_eq_some_iff.mp h
    refine ⟨p'', hp, ?_⟩
    split <;> exact ⟨rfl, rfl⟩
  | finish number =>
    obtain ⟨v, hv, rfl⟩ := Option.map_eq_some_iff.mp hb
    simp only [Pipeline.act, hv, Option.bind_some, Option.map_eq_some_iff] at h
    obtain ⟨p'', hp, rfl⟩ := h
    exact ⟨p'', hp, rfl, rfl⟩

/-- A step that does something to the engine's queue does so to the course of the bus. -/
theorem act_eq {c : Collaborators σ} {a : PipelineAction} {b : QueueAction}
    (hq : s.queue? = some q) (hl : s.log? = some l) (hb : s.pipeline.queueAction? a = some b)
    (h : s.act c a = some s') :
    s.course.act s.pipeline.queue b = some s'.course ∧
      ∃ q', q.act b = some q' ∧ s'.queue? = some q' ∧
        s'.log? = some { l with answers := l.answers ++ (q.answer? b).toList } := by
  obtain ⟨p, hp, rfl⟩ := Option.map_eq_some_iff.mp h
  obtain ⟨p'', hon, hbus, hqueue⟩ := onQueue_of_act hb hp
  obtain ⟨q', hact, rfl⟩ := onQueue_eq hq hon
  have hq₀ : s.course.bus.queues[s.pipeline.queue]? = some q := hq
  have hl₀ : s.logs[s.pipeline.queue]? = some l := hl
  have hanswer : s.answer? a = s.course.answer? s.pipeline.queue b := by
    rw [answer?, hb, Option.bind_some]
  have hcalled : s.course.answer? s.pipeline.queue b = q.answer? b := by
    rw [Course.answer?, hq₀, Option.bind_some]
  have hcourse : s.course.bus.act s.pipeline.queue b = some p.bus := by
    rw [hbus, Bus.act, hq₀, Option.bind_eq_bind, Option.bind_some, hact]
    rfl
  refine ⟨?_, q', hact, ?_, ?_⟩
  · rw [Course.act, hcourse, Option.map_some, hanswer]
    rfl
  · rw [queue?, hbus, hqueue]
    exact List.getElem?_set_self (List.getElem?_eq_some_iff.mp hq).1
  · rw [log?, hqueue, hanswer, hcalled, List.getElem?_modify, hl₀]
    simp

/-- The step of a decision is a move, and leaves the bus alone. -/
theorem act_decide {c : Collaborators σ} {task : Nat} (h : s.act c (.decide task) = some s') :
    s'.course = s.course ∧ s'.pipeline.queue = s.pipeline.queue ∧
      ∃ g reply g', Decides s s' task g reply g' := by
  obtain ⟨p, hp, rfl⟩ := Option.map_eq_some_iff.mp h
  simp only [Pipeline.act, Option.ite_none_right_eq_some, Option.some.injEq] at hp
  obtain ⟨hlt, rfl⟩ := hp
  obtain ⟨g, hg⟩ : ∃ g, s.pipeline.engine.tasks[task]? = some g :=
    ⟨_, List.getElem?_eq_getElem hlt⟩
  obtain ⟨reply, g', ls', w', hstep, hgo, hgive⟩ :=
    Engine.step_eq (c := c.recorded task) hg s.pipeline.world
  have hlogs : s.logs.modify s.pipeline.queue
      (fun l => { l with answers := l.answers ++ (s.answer? (.decide task)).toList }) = s.logs := by
    simp only [answer?, Pipeline.queueAction?, Option.bind_none, Option.toList_none,
      List.append_nil]
    exact List.modify_id _ _
  rw [PipelineAction.task, hstep]
  refine ⟨by rw [course, hlogs]; rfl, rfl, g, reply, g', ?_⟩
  exact ⟨hg, ⟨_, _, _, hgo⟩, rfl, (Collaborators.recorded_givesAny hgive).2, rfl⟩

/-- A step in which no message is decoded and no call ends. -/
theorem leads_of_quiet {c : Collaborators σ} {a : PipelineAction} {b : QueueAction}
    (hq : s.queue? = some q) (hl : s.log? = some l) (hb : s.pipeline.queueAction? a = some b)
    (hact : s.pipeline.act (c.recorded a.task) a = s.pipeline.onQueue b)
    (hdecode : ∀ n, b ≠ .decode n) (hfinish : ∀ n outcome, b ≠ .finish n outcome)
    (h : s.act c a = some s') : Leads s q l s' := by
  obtain ⟨-, q', hq', hqueue, hlog⟩ := act_eq hq hl hb h
  obtain ⟨p, hp, rfl⟩ := Option.map_eq_some_iff.mp h
  obtain ⟨_, _, rfl⟩ := onQueue_eq hq (hact ▸ hp)
  have hnone : q.answer? b = none := by
    cases b with
    | finish n outcome => exact absurd rfl (hfinish n outcome)
    | _ => rfl
  refine ⟨q', _, hqueue, hlog, List.prefix_rfl, .rests ⟨Queue.handed_act hq' hdecode,
    fun hh => hh.act hq' (hfinish _), rfl, rfl, rfl, ?_⟩⟩
  rw [hnone, Option.toList_none, List.append_nil]

theorem report?_eq_none {p : Pipeline σ} {n : Nat} (hq : p.bus.queues[p.queue]? = some q)
    (hd : q.delivery? n = none) : p.report? n = none := by
  simp [Pipeline.report?, hq, hd]

theorem report?_of_handles {p : Pipeline σ} {n : Nat} {r : Report} {m : Message}
    (hq : p.bus.queues[p.queue]? = some q) (h : q.Handles n r m) : p.report? n = some r := by
  have hd : q.delivery? n = _ := h
  simp [Pipeline.report?, hq, hd]

/-- A step in which a message is decoded. -/
theorem leads_of_decode {c : Collaborators σ} {n : Nat} (hq : s.queue? = some q)
    (hl : s.log? = some l) (h : s.act c (.decode n) = some s') : Leads s q l s' := by
  obtain ⟨-, q', hq', hqueue, hlog⟩ := act_eq hq hl rfl h
  obtain ⟨p, hp, rfl⟩ := Option.map_eq_some_iff.mp h
  obtain ⟨p₀, hon, rfl⟩ := Option.map_eq_some_iff.mp hp
  obtain ⟨q₀, hq₀, hp₀⟩ := onQueue_eq hq hon
  obtain rfl : q₀ = q' := Option.some.inj (hq₀.symm.trans hq')
  have hself : p₀.bus.queues[p₀.queue]? = some q₀ := by
    rw [hp₀]
    exact List.getElem?_set_self (List.getElem?_eq_some_iff.mp hq).1
  have hkeep : ∀ {k r m}, q.Handles k r m → q₀.Handles k r m :=
    fun hh => hh.act hq' (fun _ h => by cases h)
  have hanswers : l.answers ++ (q.answer? (.decode n)).toList = l.answers := List.append_nil _
  refine ⟨q₀, _, hqueue, hlog, List.prefix_rfl, ?_⟩
  rcases Queue.act_decode hq' with ⟨hhanded, hdelivery⟩ | ⟨m, r, hdecode, hhanded, hhandles⟩
  · rw [report?_eq_none hself hdelivery, hp₀]
    exact .rests ⟨hhanded, hkeep, rfl, rfl, rfl, hanswers⟩
  · rw [report?_of_handles hself hhandles, hp₀]
    exact .begins ⟨hdecode, hhanded, hhandles, hkeep, rfl, rfl, rfl, hanswers⟩

/-- A verdict of a delivery is that of a decision at its end. -/
theorem of_verdict? {p : Pipeline σ} {n : Nat} {v : Verdict} (h : p.verdict? n = some v) :
    ∃ task, (n, task) ∈ p.running ∧ p.engine.tasks[task]? = some (.done v) := by
  simp only [Pipeline.verdict?, Option.bind_eq_bind, Option.bind_eq_some_iff] at h
  obtain ⟨task, hlookup, g, hg, hv⟩ := h
  obtain ⟨before, after, hrunning, -⟩ := List.lookup_eq_some_iff.mp hlookup
  refine ⟨task, hrunning ▸ List.mem_append_right _ List.mem_cons_self, ?_⟩
  cases g with
  | done v' =>
    cases hv
    exact hg
  | _ => cases hv

/-- A step in which a call ends. -/
theorem leads_of_finish {c : Collaborators σ} {n : Nat} (hq : s.queue? = some q)
    (hl : s.log? = some l) (h : s.act c (.finish n) = some s') : Leads s q l s' := by
  obtain ⟨p, hp, rfl⟩ := Option.map_eq_some_iff.mp h
  obtain ⟨v, hv, hp⟩ := Option.bind_eq_some_iff.mp hp
  obtain ⟨p₀, hon, rfl⟩ := Option.map_eq_some_iff.mp hp
  have hb : s.pipeline.queueAction? (.finish n) = some (.finish n v.handlerOutcome) := by
    rw [Pipeline.queueAction?, hv, Option.map_some]
  obtain ⟨-, q', hq', hqueue, hlog⟩ := act_eq hq hl hb h
  obtain ⟨_, _, rfl⟩ := onQueue_eq hq hon
  obtain ⟨task, hrunning, htask⟩ := of_verdict? hv
  obtain ⟨r, m, hhandles, hanswer⟩ := Queue.act_finish hq'
  refine ⟨q', _, hqueue, hlog, List.prefix_rfl, .ends ⟨hrunning, htask, ⟨r, hhandles⟩,
    Queue.handed_act hq' (fun _ h => by cases h), fun hk hh => ?_, rfl, rfl, rfl, ?_⟩⟩
  · exact hh.act hq' (fun _ h => hk (by cases h; rfl))
  · rw [hanswer, Option.toList_some]

/-- Every step is one of the turns. -/
theorem Step.leads (step : Step s s') (hq : s.queue? = some q) (hl : s.log? = some l) :
    Leads s q l s' := by
  cases step with
  | @act _ a c h =>
    cases a with
    | takePermit | receive | stop | putBack n =>
      exact leads_of_quiet hq hl rfl rfl (fun _ h => by cases h) (fun _ _ h => by cases h) h
    | decode n => exact leads_of_decode hq hl h
    | decide task =>
      obtain ⟨hcourse, hqueue, g, reply, g', hdecides⟩ := act_decide h
      refine ⟨q, l, ?_, ?_, List.prefix_rfl, .decides hdecides rfl rfl⟩
      · rw [← hq, queue?, hqueue]
        exact congrArg (fun c => c.bus.queues[s.pipeline.queue]?) hcourse
      · rw [← hl, log?, hqueue]
        exact congrArg (fun c => c.logs[s.pipeline.queue]?) hcourse
    | finish n => exact leads_of_finish hq hl h
  | elsewhere h =>
    obtain ⟨q', l', hq', hl', haccepted, hdeliveries, hhanded, hanswers⟩ := h.quiet hq hl
    refine ⟨q', l', hq', hl', haccepted, .rests ⟨hhanded, fun hh => ?_, rfl, rfl, rfl, hanswers⟩⟩
    rw [Queue.Handles, Queue.delivery?, hdeliveries]
    exact hh
  | others t =>
    exact ⟨q, l, hq, hl, List.prefix_rfl, .rests ⟨rfl, id, rfl, rfl, rfl, rfl⟩⟩

/-! ### What every turn keeps -/

/-- The decisions are those of the calls of the handler. -/
structure Tallies (s : Service σ) (q : Queue) (l : QueueLog) : Prop where
  /-- With each call a decision has begun. -/
  length : s.tasks.length = q.handed.length
  /-- A decision is about the report in its message, and has made the calls that lead to where it
  stands. -/
  past : ∀ {k : Nat} {g}, s.tasks[k]? = some g →
    ∃ m r, q.call? k = some m ∧ m.decode = .ok r ∧ g.Past r.url (calls k s.replies)
  /-- The calls on record are those of decisions that have begun. -/
  made : ∀ e ∈ s.replies, e.1 < s.tasks.length
  /-- A delivery that runs a decision is the one in which the handler is at work on its message. -/
  running : ∀ {n k}, (n, k) ∈ s.pipeline.running → ∃ r m, q.Handles n r m ∧ q.call? k = some m
  /-- A call is under way, or its answer is the verdict of its decision. -/
  answered : ∀ {k m}, q.call? k = some m → (∃ n, (n, k) ∈ s.pipeline.running) ∨
    ∃ v, s.tasks[k]? = some (.done v) ∧ (m, v.handlerOutcome) ∈ l.answers

theorem Tallies.rests (h : s.Tallies q l) (t : Rests s q l s' q' l') : s'.Tallies q' l' := by
  have hcall : ∀ k, q'.call? k = q.call? k := fun k => Queue.call?_of_handed t.handed k
  refine ⟨?_, ?_, ?_, ?_, ?_⟩
  · rw [t.tasks, t.handed]
    exact h.length
  · intro k g hg
    rw [hcall, t.replies]
    exact h.past (t.tasks ▸ hg)
  · rw [t.tasks, t.replies]
    exact h.made
  · intro n k hmem
    obtain ⟨r, m, hhandles, hm⟩ := h.running (t.running ▸ hmem)
    exact ⟨r, m, t.handles hhandles, (hcall k).trans hm⟩
  · intro k m hm
    rw [t.tasks, t.running, t.answers]
    exact h.answered ((hcall k).symm.trans hm)

/-- A decision that has not begun has made no calls. -/
theorem Tallies.calls_eq_nil (h : s.Tallies q l) : calls s.tasks.length s.replies = [] := by
  rw [calls, List.filterMap_eq_nil_iff]
  intro e he
  exact if_neg (Nat.ne_of_lt (h.made e he))

theorem Tallies.begins {n : Nat} {r : Report} {m : Message} (h : s.Tallies q l)
    (t : CallBegins s q l s' q' l' n r m) : s'.Tallies q' l' := by
  have hold : ∀ {k m'}, q.call? k = some m' → q'.call? k = some m' := fun hk =>
    Queue.call?_of_suffix (t.handed ▸ List.suffix_cons m q.handed) hk
  have hnew : q'.call? s.tasks.length = some m := by
    rw [Queue.call?, t.handed, List.reverse_cons, h.length, ← List.length_reverse]
    exact List.getElem?_concat_length
  refine ⟨?_, ?_, ?_, ?_, ?_⟩
  · rw [t.tasks, t.handed, List.length_append, List.length_cons, h.length]
    rfl
  · intro k g hg
    rw [t.tasks, List.getElem?_append] at hg
    split at hg
    · obtain ⟨m', r', hm', hdecode', hpast⟩ := h.past hg
      exact ⟨m', r', hold hm', hdecode', t.replies ▸ hpast⟩
    · obtain ⟨hk, hg⟩ := List.getElem?_eq_some_iff.mp hg
      rw [List.length_singleton] at hk
      obtain rfl : k = s.tasks.length := by omega
      refine ⟨m, r, hnew, t.decode, ?_⟩
      rw [t.replies, h.calls_eq_nil, ← hg]
      simp [Stage.Past]
  · intro e he
    rw [t.tasks, List.length_append]
    exact Nat.lt_add_right _ (h.made e (t.replies ▸ he))
  · intro n' k hmem
    rw [t.running, List.mem_append, List.mem_singleton] at hmem
    rcases hmem with hmem | heq
    · obtain ⟨r', m', hhandles, hm'⟩ := h.running hmem
      exact ⟨r', m', t.handles hhandles, hold hm'⟩
    · cases heq
      exact ⟨r, m, t.begun, hnew⟩
  · intro k m' hm'
    rw [t.tasks, t.running, t.answers]
    by_cases hk : k < s.tasks.length
    · have hm : q.call? k = some m' := by
        rw [Queue.call?, t.handed, List.reverse_cons, List.getElem?_append_left] at hm'
        · exact hm'
        · rwa [List.length_reverse, ← h.length]
      rw [List.getElem?_append_left hk]
      rcases h.answered hm with ⟨n', hn'⟩ | hdone
      · exact .inl ⟨n', List.mem_append_left _ hn'⟩
      · exact .inr hdone
    · -- it is the call that has just begun
      have hlt := (List.getElem?_eq_some_iff.mp hm').1
      rw [List.length_reverse, t.handed, List.length_cons, ← h.length] at hlt
      obtain rfl : k = s.tasks.length := by omega
      exact .inl ⟨n, List.mem_append_right _ (List.mem_singleton_self _)⟩

/-- A decision at its end stays there. -/
theorem Decides.done {task k : Nat} {g g' : Stage} {reply : Option Reply} {v : Verdict}
    (t : Decides s s' task g reply g') (hv : s.tasks[k]? = some (.done v)) :
    s'.tasks[k]? = some (.done v) := by
  rw [t.tasks]
  by_cases hk : task = k
  · subst hk
    obtain rfl : g = .done v := Option.some.inj (t.before.symm.trans hv)
    obtain ⟨_, _, _, hgo⟩ := t.goes
    cases hgo
    exact List.getElem?_set_self (List.getElem?_eq_some_iff.mp hv).1
  · rw [List.getElem?_set_ne hk, hv]

theorem Tallies.decides {task : Nat} {g g' : Stage} {reply : Option Reply} (h : s.Tallies q l)
    (t : Decides s s' task g reply g') : s'.Tallies q l := by
  refine ⟨?_, ?_, ?_, ?_, ?_⟩
  · rw [t.tasks, List.length_set]
    exact h.length
  · intro k f hf
    rw [t.tasks] at hf
    rw [t.replies, calls_append]
    rcases cases_getElem?_set t.before hf with ⟨rfl, rfl⟩ | ⟨hne, hf⟩
    · obtain ⟨m, r, hm, hdecode, hpast⟩ := h.past t.before
      obtain ⟨_, _, _, hgo⟩ := t.goes
      rw [calls_map_self]
      exact ⟨m, r, hm, hdecode, hpast.goes hgo⟩
    · rw [calls_map_of_ne hne, List.append_nil]
      exact h.past hf
  · intro e he
    rw [t.tasks, List.length_set]
    rw [t.replies, List.mem_append] at he
    rcases he with he | he
    · exact h.made e he
    · obtain ⟨_, -, rfl⟩ := List.mem_map.mp he
      exact (List.getElem?_eq_some_iff.mp t.before).1
  · intro n k hmem
    exact h.running (t.running ▸ hmem)
  · intro k m hm
    rw [t.running]
    exact (h.answered hm).imp_right fun ⟨v, hv, hanswer⟩ => ⟨v, t.done hv, hanswer⟩

theorem Tallies.ends {n task : Nat} {m : Message} {v : Verdict} (h : s.Tallies q l)
    (hnodup : q.handed.Nodup) (t : CallEnds s q l s' q' l' n task m v) : s'.Tallies q' l' := by
  have hcall : ∀ k, q'.call? k = q.call? k := fun k => Queue.call?_of_handed t.handed k
  refine ⟨?_, ?_, ?_, ?_, ?_⟩
  · rw [t.tasks, t.handed]
    exact h.length
  · intro k g hg
    rw [hcall, t.replies]
    exact h.past (t.tasks ▸ hg)
  · rw [t.tasks, t.replies]
    exact h.made
  · intro n' k hmem
    rw [t.running, List.mem_filter, decide_eq_true_eq] at hmem
    obtain ⟨r', m', hhandles, hm'⟩ := h.running hmem.1
    exact ⟨r', m', t.handles hmem.2 hhandles, (hcall k).trans hm'⟩
  · intro k m' hm'
    rw [hcall] at hm'
    rw [t.tasks, t.running, t.answers]
    -- what the delivery was handling is the message of one decision only
    have hsame : ∀ {k'}, (n, k') ∈ s.pipeline.running → q.call? k' = some m := by
      intro k' hk'
      obtain ⟨r, hhandled⟩ := t.handled
      obtain ⟨r', m', hhandles, hm'⟩ := h.running hk'
      rwa [hhandles.unique hhandled] at hm'
    rcases h.answered hm' with ⟨n', hn'⟩ | ⟨v', hv', hanswer⟩
    · by_cases hne : n' = n
      · subst hne
        obtain rfl : m' = m := Option.some.inj (hm'.symm.trans (hsame hn'))
        obtain rfl : k = task := Queue.call?_inj hnodup hm' (hsame t.mem)
        exact .inr ⟨v, t.verdict, List.mem_append_right _ (List.mem_singleton_self _)⟩
      · refine .inl ⟨n', List.mem_filter.mpr ⟨hn', ?_⟩⟩
        simpa using hne
    · exact .inr ⟨v', hv', List.mem_append_left _ hanswer⟩

/-- Every turn keeps the decisions those of the calls. -/
theorem Tallies.turns (h : s.Tallies q l) (hnodup : q.handed.Nodup) (ht : Turns s q l s' q' l') :
    s'.Tallies q' l' := by
  cases ht with
  | rests t => exact h.rests t
  | begins t => exact h.begins t
  | decides t hq hl =>
    subst hq hl
    exact h.decides t
  | ends t => exact h.ends hnodup t

/-- What stays once it is there: messages that were accepted, calls that were made, those on record,
and decisions at their ends. -/
structure Grows (s : Service σ) (q : Queue) (l : QueueLog) (s' : Service σ) (q' : Queue)
    (l' : QueueLog) : Prop where
  /-- What was accepted has been accepted. -/
  accepted : l.accepted <+: l'.accepted
  /-- The calls of the handler keep their places. -/
  call : ∀ {k m}, q.call? k = some m → q'.call? k = some m
  /-- The record is continued. -/
  replies : s.replies <+: s'.replies
  /-- A decision at its end stays there. -/
  done : ∀ {k : Nat} {v}, s.tasks[k]? = some (.done v) → s'.tasks[k]? = some (.done v)

theorem Grows.refl (s : Service σ) (q : Queue) (l : QueueLog) : s.Grows q l s q l :=
  ⟨List.prefix_rfl, id, List.prefix_rfl, id⟩

theorem Grows.trans {s'' : Service σ} {q'' : Queue} {l'' : QueueLog} (h : s.Grows q l s' q' l')
    (h' : s'.Grows q' l' s'' q'' l'') : s.Grows q l s'' q'' l'' :=
  ⟨h.accepted.trans h'.accepted, fun hk => h'.call (h.call hk), h.replies.trans h'.replies,
    fun hk => h'.done (h.done hk)⟩

theorem Turns.grows (h : Turns s q l s' q' l') (haccepted : l.accepted <+: l'.accepted) :
    s.Grows q l s' q' l' := by
  cases h with
  | rests t =>
    exact ⟨haccepted, fun hk => (Queue.call?_of_handed t.handed _).trans hk,
      t.replies ▸ List.prefix_rfl, fun hk => t.tasks ▸ hk⟩
  | @begins _ _ m t =>
    refine ⟨haccepted, Queue.call?_of_suffix (t.handed ▸ List.suffix_cons m q.handed),
      t.replies ▸ List.prefix_rfl, fun hk => ?_⟩
    rw [t.tasks, List.getElem?_append_left (List.getElem?_eq_some_iff.mp hk).1, hk]
  | decides t hq _ =>
    exact ⟨haccepted, fun hk => hq ▸ hk, t.replies ▸ List.prefix_append _ _, t.done⟩
  | ends t =>
    exact ⟨haccepted, fun hk => (Queue.call?_of_handed t.handed _).trans hk,
      t.replies ▸ List.prefix_rfl, fun hk => t.tasks ▸ hk⟩

/-! ### Runs -/

/-- The bus of a service runs as it does without the engine. -/
theorem Step.course (step : Step s s') (hq : s.queue? = some q) (hl : s.log? = some l) :
    s.course.Reaches s'.course := by
  cases step with
  | @act _ a c h =>
    cases hb : s.pipeline.queueAction? a with
    | some b => exact .single (.act (act_eq hq hl hb h).1)
    | none =>
      cases a with
      | decide task => rw [(act_decide h).1]
      | finish n =>
        -- without a verdict the call cannot end
        obtain ⟨p, hp, -⟩ := Option.map_eq_some_iff.mp h
        obtain ⟨v, hv, -⟩ := Option.bind_eq_some_iff.mp hp
        rw [Pipeline.queueAction?, hv] at hb
        cases hb
      | _ => cases hb
  | elsewhere h => exact .single h.step
  | others t => exact .refl

/-- An engine that is in service at its queue, on a bus that is in order. -/
structure Serves (policy : RedeliveryPolicy) (concurrency : Nat) (s : Service σ) (q : Queue)
    (l : QueueLog) : Prop where
  /-- The bus is one that has run. -/
  course : Course.Reaches (.start policy concurrency) s.course
  /-- The engine has its queue. -/
  queue : s.queue? = some q
  /-- The queue has its log. -/
  log : s.log? = some l
  /-- The decisions are those of the calls. -/
  tallies : s.Tallies q l

variable {policy : RedeliveryPolicy} {concurrency : Nat}

theorem Serves.keeps (h : s.Serves policy concurrency q l) : Course.Keeps s.course.bus q l :=
  h.course.sound.keeps h.queue h.log

/-- An engine that has just been subscribed is in service. -/
theorem Starts.serves (h : Starts policy concurrency s) :
    ∃ q l, s.Serves policy concurrency q l := by
  obtain ⟨guard, state, metrics, hcourse, hs⟩ := h
  have hstep := Course.Step.subscribe hs
  obtain rfl := Bus.eq_of_subscribe hs
  refine ⟨_, {}, hcourse.tail hstep, List.getElem?_concat_length, ?_, rfl, ?_, ?_, ?_, ?_⟩
  · rw [log?, ← hcourse.sound.length]
    exact List.getElem?_concat_length
  · intro k g hg
    cases hg
  · intro e he
    cases he
  · intro n k hmem
    cases hmem
  · intro k m hm
    cases hm

/-- An engine in service remains so, and what was there stays. -/
theorem Serves.step (h : s.Serves policy concurrency q l) (step : Step s s') :
    ∃ q' l', s'.Serves policy concurrency q' l' ∧ s.Grows q l s' q' l' := by
  obtain ⟨q', l', hq', hl', haccepted, ht⟩ := step.leads h.queue h.log
  exact ⟨q', l', ⟨h.course.trans (step.course h.queue h.log), hq', hl',
    h.tallies.turns h.keeps.tracks.nodup_handed ht⟩, ht.grows haccepted⟩

theorem Serves.reaches (h : s.Serves policy concurrency q l) (hr : Reaches s s') :
    ∃ q' l', s'.Serves policy concurrency q' l' ∧ s.Grows q l s' q' l' := by
  induction hr with
  | refl => exact ⟨q, l, h, .refl s q l⟩
  | tail _ step ih =>
    obtain ⟨q', l', h', hgrows⟩ := ih
    obtain ⟨q'', l'', h'', hgrows'⟩ := h'.step step
    exact ⟨q'', l'', h'', hgrows.trans hgrows'⟩

end Service

end HostWatch
