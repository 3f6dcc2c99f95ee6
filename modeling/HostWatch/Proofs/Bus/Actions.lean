import HostWatch.Bus.Queue
import Mathlib.Tactic.SplitIfs

/-!
# What an action of a queue does

`Queue.Acts` lists all that can happen to a queue, each with what must hold before and how the
queue is left. `Queue.act_eq_some_iff` proves that these are the actions that can be taken, so
that later proofs go through the list and do not look into the actions themselves.
-/

namespace HostWatch

namespace Queue

/-- `q.Acts a q'`: the action `a` can be taken, and leaves the queue as `q'`. -/
inductive Acts (q : Queue) : QueueAction → Queue → Prop where
  /-- The dispatcher takes a permit. -/
  | takePermit : q.dispatcher = .acquiring → 0 < q.free →
      Acts q .takePermit { q with dispatcher := .receiving, free := q.free - 1 }
  /-- The dispatcher hands out the next message. -/
  | receive {m rest} : q.dispatcher = .receiving → q.waiting = m :: rest →
      Acts q .receive { q with
        dispatcher := .acquiring
        waiting := rest
        deliveries := q.deliveries ++ [{ number := q.begun, message := m }]
        begun := q.begun + 1 }
  /-- The dispatcher stops, and the messages that wait are given up. -/
  | stop : q.signalled = true → q.dispatcher ≠ .stopped →
      Acts q .stop { q with
        dispatcher := .stopped
        free := if q.dispatcher = .receiving then q.free + 1 else q.free
        waiting := []
        discarded := q.discarded ++ q.waiting }
  /-- The body is no event. -/
  | undecodable {n d fault} : q.delivery? n = some d → d.phase = .fresh →
      d.message.decode = .error fault → Acts q (.decode n) (q.settle d .undecodable)
  /-- The handler is called. -/
  | called {n d r} : q.delivery? n = some d → d.phase = .fresh → d.message.decode = .ok r →
      Acts q (.decode n) { q with
        deliveries := q.inPhase n (.handling r)
        handed := d.message :: q.handed }
  /-- The handler takes the message. -/
  | acked {n d r} : q.delivery? n = some d → d.phase = .handling r →
      Acts q (.finish n .taken) (q.settle d .ack)
  /-- The handler fails for good. -/
  | rejected {n d r} : q.delivery? n = some d → d.phase = .handling r →
      Acts q (.finish n (.failed .reject)) (q.settle d .rejected)
  /-- The handler fails, and no redelivery is left. -/
  | dropped {n d r} : q.delivery? n = some d → d.phase = .handling r →
      q.policy.allows d.message.attempt = false →
      Acts q (.finish n (.failed .redeliver)) (q.settle d .dropped)
  /-- The handler fails, and the message will be put back. -/
  | redelivered {n d r} : q.delivery? n = some d → d.phase = .handling r →
      q.policy.allows d.message.attempt = true →
      Acts q (.finish n (.failed .redeliver)) { q with
        free := q.free + 1
        deliveries := q.inPhase d.number .backoff
        results := (d.message, .redelivered) :: q.results }
  /-- The message is put back. -/
  | putBack {n d} : q.delivery? n = some d → d.phase = .backoff → q.dispatcher ≠ .stopped →
      Acts q (.putBack n) { q with
        deliveries := q.without n
        waiting := q.waiting ++ [d.message.again] }
  /-- The message comes back too late. -/
  | lost {n d} : q.delivery? n = some d → d.phase = .backoff → q.dispatcher = .stopped →
      Acts q (.putBack n) { q with
        deliveries := q.without n
        discarded := q.discarded ++ [d.message.again] }

variable {q q' : Queue} {a : QueueAction}

theorem accept?_eq_some {m : Message} : q.accept? m = some q' ↔
    q.dispatcher ≠ .stopped ∧ q' = { q with waiting := q.waiting ++ [m] } := by
  simp only [accept?, Option.ite_none_left_eq_some, Option.some.injEq, eq_comm (a := q')]

/-- The end of a call is one of four. -/
theorem acts_finish {n : Nat} {d : Delivery} {r : Report} (hd : q.delivery? n = some d)
    (hphase : d.phase = .handling r) (outcome : HandlerOutcome) :
    q.Acts (.finish n outcome) (q.finish d outcome) := by
  cases outcome with
  | taken => exact .acked hd hphase
  | failed disposition =>
    cases disposition with
    | reject => exact .rejected hd hphase
    | redeliver =>
      unfold finish
      dsimp only
      split
      · next hallows => exact .redelivered hd hphase hallows
      · next hallows => exact .dropped hd hphase (by simpa using hallows)

theorem acts_of_act (h : q.act a = some q') : q.Acts a q' := by
  cases a with
  | takePermit =>
    simp only [act, Option.ite_none_right_eq_some, Option.some.injEq] at h
    obtain ⟨⟨hacquiring, hfree⟩, rfl⟩ := h
    exact .takePermit hacquiring hfree
  | receive =>
    simp only [act] at h
    split at h <;> cases h
    next hreceiving hwaiting => exact .receive hreceiving hwaiting
  | stop =>
    simp only [act, Option.ite_none_right_eq_some, Option.some.injEq] at h
    obtain ⟨⟨hsignal, hrunning⟩, rfl⟩ := h
    exact .stop hsignal hrunning
  | decode n =>
    simp only [act] at h
    split at h
    · next d hd =>
      split_ifs at h with hphase
      split at h
      · next hdecode =>
        cases h
        exact .undecodable hd hphase hdecode
      · next hdecode =>
        cases h
        exact .called hd hphase hdecode
    · cases h
  | finish n outcome =>
    simp only [act] at h
    split at h
    · next d hd =>
      split at h
      · next hphase =>
        cases h
        exact acts_finish hd hphase outcome
      · cases h
    · cases h
  | putBack n =>
    simp only [act] at h
    split at h
    · next d hd =>
      split_ifs at h with hphase
      split at h
      · next haccept =>
        cases h
        obtain ⟨hrunning, rfl⟩ := accept?_eq_some.mp haccept
        exact .putBack hd hphase hrunning
      · next haccept =>
        cases h
        refine .lost hd hphase (Decidable.byContradiction fun hrunning => ?_)
        rw [accept?, if_neg hrunning] at haccept
        cases haccept
    · cases h

/-- The list is complete, and each entry can be taken. -/
theorem act_eq_some_iff : q.act a = some q' ↔ q.Acts a q' := by
  refine ⟨acts_of_act, fun h => ?_⟩
  cases h with
  | takePermit hacquiring hfree => simp only [act, hacquiring, hfree, and_self, if_true]
  | receive hreceiving hwaiting => simp only [act, hreceiving, hwaiting]
  | stop hsignal hrunning => simp [act, hsignal, hrunning]
  | undecodable hd hphase hdecode => simp only [act, hd, hphase, hdecode, if_true]
  | called hd hphase hdecode => simp only [act, hd, hphase, hdecode, if_true]
  | acked hd hphase => simp only [act, hd, hphase, finish]
  | rejected hd hphase => simp only [act, hd, hphase, finish]
  | dropped hd hphase hallows =>
    simp only [act, hd, hphase, finish, hallows, Bool.false_eq_true, if_false]
  | redelivered hd hphase hallows => simp only [act, hd, hphase, finish, hallows, if_true]
  | putBack hd hphase hrunning => simp [act, hd, hphase, accept?, hrunning]
  | lost hd hphase hstopped => simp [act, hd, hphase, accept?, hstopped]

end Queue

end HostWatch
