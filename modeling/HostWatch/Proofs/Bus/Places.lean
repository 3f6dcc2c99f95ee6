import HostWatch.Proofs.Bus.Actions
import Mathlib.Data.List.Nodup

/-!
# Where the messages of a queue are

Whatever has become of a message that a queue accepted, the queue shows it in one place
(`Queue.entries`): it waits, a delivery has it, or it has come to one of its ends.
`RedeliveryPolicy.Moves` lists all ways from one place to another, and `Queue.act_turns`
proves that an action of the queue takes one message along one of them, changes no place at
all, or discards all messages that wait. Places are compared up to their order, so nothing
that is said of single messages later depends on where a queue keeps them.
-/

namespace HostWatch

/-! ### Places -/

/-- A place of a message. -/
inductive Place where
  /-- It waits to be handed out. -/
  | waiting
  /-- A delivery has it, and has not decoded it yet. -/
  | fresh
  /-- The handler has been called with it. -/
  | handling (report : Report)
  /-- A delivery has it, and will put it back. -/
  | backoff
  /-- The handler took it. -/
  | acked
  /-- The handler failed for good. -/
  | rejected
  /-- The handler failed, and no redelivery is left. -/
  | dropped
  /-- The body is no event. -/
  | undecodable
  /-- It was given up because the dispatcher had stopped. -/
  | discarded
  deriving DecidableEq, Repr

/-- The place of a message that a delivery has. -/
def Phase.place : Phase → Place
  | .fresh => .fresh
  | .handling r => .handling r
  | .backoff => .backoff

/-- The place to which the result of a delivery brings its message, if the delivery is at its
end. -/
def DeliveryResult.place? : DeliveryResult → Option Place
  | .ack => some .acked
  | .rejected => some .rejected
  | .redelivered => none
  | .dropped => some .dropped
  | .undecodable => some .undecodable

/-- The messages of a queue, each with its place. -/
def Queue.entries (q : Queue) : List (Place × Message) :=
  q.waiting.map (.waiting, ·) ++ q.deliveries.map (fun d => (d.phase.place, d.message)) ++
    q.results.filterMap (fun r => r.2.place?.map (·, r.1)) ++ q.discarded.map (.discarded, ·)

/-! ### From place to place -/

/-- `policy.Moves e call answer e'`: a message goes from its place in `e` to its place in `e'`;
`call` is the message with which the handler is called then, if it is, and `answer` what a call of
the handler came to, if one ends. -/
inductive RedeliveryPolicy.Moves (policy : RedeliveryPolicy) :
    Place × Message → Option Message → Option HandlerOutcome → Place × Message → Prop where
  /-- A delivery begins. -/
  | begun {m} : Moves policy (.waiting, m) none none (.fresh, m)
  /-- The handler is called. -/
  | called {m r} : m.decode = .ok r → Moves policy (.fresh, m) (some m) none (.handling r, m)
  /-- The body is no event. -/
  | undecodable {m fault} : m.decode = .error fault →
      Moves policy (.fresh, m) none none (.undecodable, m)
  /-- The handler takes the message. -/
  | acked {m r} : Moves policy (.handling r, m) none (some .taken) (.acked, m)
  /-- The handler fails for good. -/
  | rejected {m r} :
      Moves policy (.handling r, m) none (some (.failed .reject)) (.rejected, m)
  /-- The handler fails, and the message will be put back. -/
  | redelivered {m r} : policy.allows m.attempt = true →
      Moves policy (.handling r, m) none (some (.failed .redeliver)) (.backoff, m)
  /-- The handler fails, and no redelivery is left. -/
  | dropped {m r} : policy.allows m.attempt = false →
      Moves policy (.handling r, m) none (some (.failed .redeliver)) (.dropped, m)
  /-- The message is put back. -/
  | putBack {m} : Moves policy (.backoff, m) none none (.waiting, m.again)
  /-- The message comes back too late. -/
  | lost {m} : Moves policy (.backoff, m) none none (.discarded, m.again)
  /-- The dispatcher stops while the message waits. -/
  | discarded {m} : Moves policy (.waiting, m) none none (.discarded, m)

namespace Queue

/-- What a call of the handler comes to in an action, with its message. -/
def answer? (q : Queue) : QueueAction → Option (Message × HandlerOutcome)
  | .finish number outcome => (q.delivery? number).map (·.message, outcome)
  | _ => none

/-- In going from `q` to `q'` at most one message moves, or all that wait are discarded. -/
inductive Turns (q q' : Queue) : Option (Message × HandlerOutcome) → Prop where
  /-- No message moves. -/
  | keeps : q'.entries = q.entries → q'.handed = q.handed → Turns q q' none
  /-- One message moves. -/
  | moves {e call answer e' rest} : q.policy.Moves e call answer e' →
      q.entries.Perm (e :: rest) → q'.entries.Perm (e' :: rest) →
      q'.handed = call.toList ++ q.handed → Turns q q' (answer.map (e.2, ·))
  /-- All messages that wait are discarded. -/
  | discards {rest} : q.entries.Perm (q.waiting.map (.waiting, ·) ++ rest) →
      q'.entries.Perm (q.waiting.map (.discarded, ·) ++ rest) → q'.handed = q.handed →
      Turns q q' none

/-! ### Deliveries by their numbers -/

/-- The deliveries have different numbers, below the number of the next one. -/
structure Numbered (q : Queue) : Prop where
  /-- The numbers are different. -/
  nodup : (q.deliveries.map Delivery.number).Nodup
  /-- The next one is larger. -/
  lt : ∀ d ∈ q.deliveries, d.number < q.begun

variable {q q' : Queue} {n : Nat} {d : Delivery}

/-- A delivery has its place among the others: taking it out or changing its phase leaves them as
they are. -/
theorem Numbered.split (h : q.Numbered) (hd : q.delivery? n = some d) :
    ∃ before after, d.number = n ∧ q.deliveries = before ++ d :: after ∧
      q.without n = before ++ after ∧
      ∀ phase, q.inPhase n phase = before ++ { d with phase } :: after := by
  have hnumber : d.number = n := by simpa using List.find?_some hd
  obtain ⟨before, after, heq⟩ := List.append_of_mem (List.mem_of_find?_eq_some hd)
  have hnodup := h.nodup
  rw [heq, List.map_append, List.map_cons, List.nodup_middle, List.nodup_cons,
    List.mem_append, not_or, hnumber] at hnodup
  have hne : ∀ f ∈ before ++ after, f.number ≠ n := by
    intro f hf hfn
    rcases List.mem_append.mp hf with hf | hf
    · exact hnodup.1.1 (hfn ▸ List.mem_map_of_mem hf)
    · exact hnodup.1.2 (hfn ▸ List.mem_map_of_mem hf)
  have hkeep : ∀ phase, ∀ f ∈ before ++ after,
      (if f.number = n then { f with phase } else f) = f := fun phase f hf => if_neg (hne f hf)
  refine ⟨before, after, hnumber, heq, ?_, fun phase => ?_⟩
  · rw [without, heq, List.filter_append, List.filter_cons_of_neg (by simp [hnumber]),
      ← List.filter_append]
    exact List.filter_eq_self.mpr fun f hf => by simpa using hne f hf
  · rw [inPhase, heq, List.map_append, List.map_cons, if_pos hnumber]
    have hbefore := List.map_congr_left fun f hf => hkeep phase f (List.mem_append_left after hf)
    have hafter := List.map_congr_left fun f hf => hkeep phase f (List.mem_append_right before hf)
    rw [hbefore, hafter, List.map_id', List.map_id']

/-! ### The places after a change -/

/-- Places are compared by counting them. -/
theorem perm_of_count {es es' : List (Place × Message)} (h : ∀ e, es.count e = es'.count e) :
    es.Perm es' := List.perm_iff_count.mpr h

theorem entries_waiting (q : Queue) (m : Message) (before after : List Message)
    (h : q.waiting = before ++ m :: after) :
    q.entries.Perm ((.waiting, m) :: { q with waiting := before ++ after }.entries) := by
  refine perm_of_count fun e => ?_
  simp only [entries, h, List.map_append, List.map_cons, List.count_append, List.count_cons]
  omega

theorem entries_result {r : DeliveryResult} {p : Place} (q : Queue) (m : Message)
    (h : r.place? = some p) :
    { q with results := (m, r) :: q.results }.entries.Perm ((p, m) :: q.entries) := by
  refine perm_of_count fun e => ?_
  simp only [entries, List.filterMap_cons, h, Option.map_some, List.count_append, List.count_cons]
  omega

theorem entries_discarded (q : Queue) (m : Message) :
    { q with discarded := q.discarded ++ [m] }.entries.Perm ((.discarded, m) :: q.entries) := by
  refine perm_of_count fun e => ?_
  simp only [entries, List.map_append, List.map_cons, List.map_nil, List.count_append,
    List.count_cons, List.count_nil]
  omega

theorem entries_deliveries (q : Queue) (d : Delivery) (before after : List Delivery) :
    { q with deliveries := before ++ d :: after }.entries.Perm
      ((d.phase.place, d.message) :: { q with deliveries := before ++ after }.entries) := by
  refine perm_of_count fun e => ?_
  simp only [entries, List.map_append, List.map_cons, List.count_append, List.count_cons]
  omega

/-- The places of all messages but the one that a delivery has. -/
def others (q : Queue) (n : Nat) : List (Place × Message) :=
  { q with deliveries := q.without n }.entries

/-- The message of a delivery has its place among the others. -/
theorem Numbered.entries (h : q.Numbered) (hd : q.delivery? n = some d) :
    q.entries.Perm ((d.phase.place, d.message) :: q.others n) := by
  obtain ⟨before, after, -, heq, hwithout, -⟩ := h.split hd
  have hq : { q with deliveries := before ++ d :: after } = q := by rw [← heq]
  rw [others, hwithout, ← hq]
  exact entries_deliveries q _ _ _

/-- A delivery in another phase has its message in another place. -/
theorem Numbered.entries_inPhase (h : q.Numbered) (hd : q.delivery? n = some d) (phase : Phase) :
    { q with deliveries := q.inPhase n phase }.entries.Perm
      ((phase.place, d.message) :: q.others n) := by
  obtain ⟨before, after, -, -, hwithout, hphase⟩ := h.split hd
  rw [others, hwithout, hphase]
  exact entries_deliveries q _ _ _

/-! ### Actions -/

/-- A message that is accepted waits. -/
theorem entries_accept {m : Message} (h : q.accept? m = some q') :
    q'.entries.Perm ((.waiting, m) :: q.entries) := by
  obtain ⟨-, rfl⟩ := accept?_eq_some.mp h
  have hperm := entries_waiting { q with waiting := q.waiting ++ [m] } m q.waiting [] rfl
  rwa [List.append_nil] at hperm

/-- A delivery that is settled brings its message to an end. -/
theorem Numbered.settle {result : DeliveryResult} {p : Place} (h : q.Numbered)
    (hd : q.delivery? n = some d) (hp : result.place? = some p) :
    (q.settle d result).entries.Perm ((p, d.message) :: q.others n) := by
  obtain ⟨before, after, rfl, -⟩ := h.split hd
  exact entries_result { q with deliveries := q.without d.number } d.message hp

/-- An action takes one message from its place to another, changes no place, or discards all that
wait. -/
theorem act_turns {a : QueueAction} (hq : q.Numbered) (h : q.act a = some q') :
    q.Turns q' (q.answer? a) := by
  have hplace : ∀ {n d phase}, q.delivery? n = some d → d.phase = phase →
      q.entries.Perm ((phase.place, d.message) :: q.others n) := by
    rintro n d _ hd rfl
    exact hq.entries hd
  have hanswer : ∀ {n d} o, q.delivery? n = some d →
      q.answer? (.finish n o) = (some o).map (d.message, ·) := by
    intro n d o hd
    rw [answer?, hd]
    rfl
  cases acts_of_act h with
  | takePermit _ _ => exact .keeps rfl rfl
  | @receive m rest _ hwaiting =>
    refine .moves .begun (entries_waiting q m [] rest hwaiting) ?_ rfl
    have hperm := entries_deliveries { q with waiting := rest } ⟨q.begun, m, .fresh⟩
      q.deliveries []
    rwa [List.append_nil] at hperm
  | stop _ _ =>
    have hbefore : q.entries.Perm
        (q.waiting.map (.waiting, ·) ++ { q with waiting := [] }.entries) := by
      simp only [entries, List.map_nil, List.nil_append, List.append_assoc]
      exact .rfl
    refine .discards hbefore (perm_of_count fun e => ?_) rfl
    simp only [entries, List.map_nil, List.nil_append, List.map_append, List.count_append]
    omega
  | undecodable hd hphase hdecode =>
    exact .moves (.undecodable hdecode) (hplace hd hphase) (hq.settle hd rfl) rfl
  | @called n d r hd hphase hdecode =>
    exact .moves (.called hdecode) (hplace hd hphase) (hq.entries_inPhase hd (.handling r)) rfl
  | acked hd hphase =>
    rw [hanswer _ hd]
    exact .moves .acked (hplace hd hphase) (hq.settle hd rfl) rfl
  | rejected hd hphase =>
    rw [hanswer _ hd]
    exact .moves .rejected (hplace hd hphase) (hq.settle hd rfl) rfl
  | dropped hd hphase hallows =>
    rw [hanswer _ hd]
    exact .moves (.dropped hallows) (hplace hd hphase) (hq.settle hd rfl) rfl
  | redelivered hd hphase hallows =>
    rw [hanswer _ hd]
    obtain ⟨before, after, rfl, -⟩ := hq.split hd
    exact .moves (.redelivered hallows) (hplace hd hphase) (hq.entries_inPhase hd .backoff) rfl
  | @putBack n d hd hphase hrunning =>
    refine .moves .putBack (hplace hd hphase) ?_ rfl
    exact entries_accept (q := { q with deliveries := q.without n })
      (accept?_eq_some.mpr ⟨hrunning, rfl⟩)
  | @lost n d hd hphase _ =>
    exact .moves .lost (hplace hd hphase)
      (entries_discarded { q with deliveries := q.without n } d.message.again) rfl

end Queue

end HostWatch
