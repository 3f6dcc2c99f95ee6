import HostWatch.Proofs.Bus.Course

/-!
# Calls of the handler that are under way

The handler is called when a message is decoded, and from then on until its answer comes the
queue shows the delivery as one in which the handler is at work (`Queue.Handles`). Nothing
else in the queue or on the bus ends a call (`Queue.Handles.act`, `Course.Elsewhere.quiet`).
The calls have numbers: the message of each is found by its number (`Queue.call?`), for good.
-/

namespace HostWatch

namespace Queue

/-- In the delivery with the number `n` the handler is at work on the report `r` of a message. -/
def Handles (q : Queue) (n : Nat) (r : Report) (m : Message) : Prop :=
  q.delivery? n = some { number := n, message := m, phase := .handling r }

/-- The message with which the handler was called as the first one, the second one, and so on. -/
def call? (q : Queue) (k : Nat) : Option Message := q.handed.reverse[k]?

variable {q q' : Queue} {n k : Nat} {r : Report} {m : Message} {d : Delivery}

theorem number_of_delivery? (h : q.delivery? n = some d) : d.number = n := by
  simpa using List.find?_some h

theorem Handles.of_phase (h : q.delivery? n = some d) (hphase : d.phase = .handling r) :
    q.Handles n r d.message := by
  rw [Handles, h, ← number_of_delivery? h, ← hphase]

theorem Handles.unique {r' : Report} {m' : Message} (h : q.Handles n r m)
    (h' : q.Handles n r' m') : m = m' := by
  have heq := Option.some.inj (h.symm.trans h')
  exact congrArg Delivery.message heq

/-- The message on which the handler is at work is at that place. -/
theorem Handles.mem_entries (h : q.Handles n r m) : (Place.handling r, m) ∈ q.entries := by
  have hmem := List.mem_of_find?_eq_some h
  simp only [entries, List.mem_append]
  exact .inl (.inl (.inr (List.mem_map_of_mem hmem)))

/-- Taking one delivery out leaves the others. -/
theorem delivery?_without (hn : n ≠ k) :
    { q with deliveries := q.without k }.delivery? n = q.delivery? n := by
  rw [delivery?, without, List.find?_filter, delivery?]
  refine congrArg (List.find? · q.deliveries) (funext fun d => ?_)
  by_cases hd : d.number = n <;> simp [hd, hn]

theorem delivery?_without_self : { q with deliveries := q.without n }.delivery? n = none := by
  rw [delivery?, without, List.find?_filter, List.find?_eq_none]
  intro d _
  simp

/-- A delivery is in the phase in which it was put, and the others are as they were. -/
theorem delivery?_inPhase (phase : Phase) :
    { q with deliveries := q.inPhase k phase }.delivery? n =
      (q.delivery? n).map fun d => if d.number = k then { d with phase } else d := by
  rw [delivery?, inPhase, List.find?_map, delivery?]
  refine congrArg (Option.map _) (congrArg (List.find? · q.deliveries) (funext fun d => ?_))
  rw [Function.comp_apply]
  split <;> rfl

theorem Handles.inPhase (h : q.Handles n r m) (hn : n ≠ k) (phase : Phase) :
    { q with deliveries := q.inPhase k phase }.Handles n r m := by
  rw [Handles, delivery?_inPhase, h, Option.map_some, if_neg hn]

theorem Handles.without (h : q.Handles n r m) (hn : n ≠ k) :
    { q with deliveries := q.without k }.Handles n r m := by
  rw [Handles, delivery?_without hn, h]

/-- The handler is at work on a message until its call ends. -/
theorem Handles.act {a : QueueAction} (h : q.Handles n r m) (ha : q.act a = some q')
    (hend : ∀ outcome, a ≠ .finish n outcome) : q'.Handles n r m := by
  have hfound : ∀ {d k phase}, q.delivery? k = some d → d.phase = phase → phase ≠ .handling r →
      n ≠ k := by
    rintro d k phase hd hphase hne rfl
    rw [Handles, hd, Option.some.injEq] at h
    exact hne (hphase.symm.trans (congrArg Delivery.phase h))
  have hother : ∀ {k outcome}, a = .finish k outcome → n ≠ k := by
    rintro k outcome rfl rfl
    exact hend outcome rfl
  have hsettle : ∀ {d k} result, q.delivery? k = some d → n ≠ k →
      (q.settle d result).Handles n r m :=
    fun _ hd hn => h.without (number_of_delivery? hd ▸ hn)
  cases acts_of_act ha with
  | takePermit _ _ | stop _ _ => exact h
  | receive _ _ =>
    rw [Handles, delivery?, List.find?_append, ← delivery?, h]
    rfl
  | undecodable hd hphase _ => exact hsettle _ hd (hfound hd hphase (by simp))
  | called hd hphase _ => exact h.inPhase (hfound hd hphase (by simp)) _
  | acked hd _ => exact hsettle _ hd (hother rfl)
  | rejected hd _ => exact hsettle _ hd (hother rfl)
  | dropped hd _ _ => exact hsettle _ hd (hother rfl)
  | redelivered hd _ _ => exact h.inPhase (number_of_delivery? hd ▸ hother rfl) _
  | putBack hd hphase _ => exact h.without (hfound hd hphase (by simp))
  | lost hd hphase _ => exact h.without (hfound hd hphase (by simp))

/-- The handler is called only when a message is decoded. -/
theorem handed_act {a : QueueAction} (ha : q.act a = some q') (hdecode : ∀ n, a ≠ .decode n) :
    q'.handed = q.handed := by
  cases acts_of_act ha with
  | undecodable _ _ _ | called _ _ _ => exact absurd rfl (hdecode _)
  | _ => rfl

/-- A message that is decoded is given to the handler, or its delivery ends. -/
theorem act_decode (ha : q.act (.decode n) = some q') :
    (q'.handed = q.handed ∧ q'.delivery? n = none) ∨
      ∃ m r, m.decode = .ok r ∧ q'.handed = m :: q.handed ∧ q'.Handles n r m := by
  cases acts_of_act ha with
  | undecodable hd _ _ =>
    refine .inl ⟨rfl, ?_⟩
    rw [settle, number_of_delivery? hd]
    exact delivery?_without_self
  | @called _ d r hd _ hdecode =>
    refine .inr ⟨d.message, r, hdecode, rfl, ?_⟩
    rw [Handles]
    refine (delivery?_inPhase (q := q) (.handling r)).trans ?_
    rw [hd, Option.map_some, if_pos (number_of_delivery? hd), number_of_delivery? hd]

/-- A call of the handler that ends was under way. -/
theorem act_finish {outcome : HandlerOutcome} (ha : q.act (.finish n outcome) = some q') :
    ∃ r m, q.Handles n r m ∧ q.answer? (.finish n outcome) = some (m, outcome) := by
  have hcall : ∀ {d r}, q.delivery? n = some d → d.phase = .handling r →
      ∃ r m, q.Handles n r m ∧ q.answer? (.finish n outcome) = some (m, outcome) := by
    intro d r hd hphase
    refine ⟨r, d.message, .of_phase hd hphase, ?_⟩
    rw [answer?, hd, Option.map_some]
  cases acts_of_act ha with
  | acked hd hphase => exact hcall hd hphase
  | rejected hd hphase => exact hcall hd hphase
  | dropped hd hphase _ => exact hcall hd hphase
  | redelivered hd hphase _ => exact hcall hd hphase

theorem call?_of_handed (h : q'.handed = q.handed) (k : Nat) : q'.call? k = q.call? k := by
  rw [call?, h, call?]

/-- Where the handler is not called twice with the same message, a call is found by its message. -/
theorem call?_inj (h : q.handed.Nodup) {j : Nat} (hj : q.call? j = some m)
    (hk : q.call? k = some m) : j = k :=
  (List.getElem?_inj (List.getElem?_eq_some_iff.mp hj).1 (List.nodup_reverse.mpr h)).mp
    (hj.trans hk.symm)

/-- A call that was made is found at its place when more have been made. -/
theorem call?_of_suffix (h : q.handed <:+ q'.handed) (hk : q.call? k = some m) :
    q'.call? k = some m := by
  obtain ⟨calls, hcalls⟩ := h
  rw [call?] at hk
  rw [call?, ← hcalls, List.reverse_append,
    List.getElem?_append_left (List.getElem?_eq_some_iff.mp hk).1, hk]

end Queue

/-! ### Elsewhere on the bus -/

namespace Course

/-- One step of a course that is no action of the queue at a place. -/
inductive Elsewhere (i : Nat) : Course → Course → Prop where
  /-- A handler is subscribed. -/
  | subscribe {c bus} {topic name handler : String} :
      c.bus.subscribe topic name handler = .ok bus →
      Elsewhere i c ⟨bus, c.logs ++ [({} : QueueLog)]⟩
  /-- An event is published. -/
  | publish {c} (topic : String) (body : Bytes) : Elsewhere i c (c.publish topic body)
  /-- The shutdown signal is fired. -/
  | shutdown {c} : Elsewhere i c { c with bus := c.bus.shutdown }
  /-- An action happens to another queue. -/
  | act {c c' k a} : k ≠ i → c.act k a = some c' → Elsewhere i c c'

variable {c c' : Course} {i : Nat} {q : Queue} {l : QueueLog}

theorem Elsewhere.step (h : Elsewhere i c c') : Step c c' := by
  cases h with
  | subscribe hs => exact .subscribe hs
  | publish topic body => exact .publish topic body
  | shutdown => exact .shutdown
  | act _ ha => exact .act ha

/-- What happens elsewhere leaves the deliveries of a queue alone. -/
theorem Elsewhere.quiet (h : Elsewhere i c c') (hq : c.bus.queues[i]? = some q)
    (hl : c.logs[i]? = some l) :
    ∃ q' l', c'.bus.queues[i]? = some q' ∧ c'.logs[i]? = some l' ∧
      l.accepted <+: l'.accepted ∧ q'.deliveries = q.deliveries ∧ q'.handed = q.handed ∧
      l'.answers = l.answers := by
  have hlt := (List.getElem?_eq_some_iff.mp hq).1
  have hltl := (List.getElem?_eq_some_iff.mp hl).1
  cases h with
  | subscribe hs =>
    obtain rfl := Bus.eq_of_subscribe hs
    refine ⟨q, l, ?_, ?_, List.prefix_rfl, rfl, rfl, rfl⟩
    · rw [← hq]
      exact List.getElem?_append_left hlt
    · rw [← hl]
      exact List.getElem?_append_left hltl
  | publish topic body =>
    simp only [Course.publish, Bus.publish, Bus.enqueue_getElem?, List.getElem?_mapIdx, hl,
      Option.map_some]
    split
    · next htakes =>
      rw [hq, Option.bind_some, Bus.accept?_of_running _ (Bus.of_takes htakes hq).2]
      exact ⟨_, _, rfl, rfl, List.prefix_append _ _, rfl, rfl, rfl⟩
    · exact ⟨q, l, hq, rfl, List.prefix_rfl, rfl, rfl, rfl⟩
  | shutdown =>
    simp only [Bus.shutdown, List.getElem?_map, hq, Option.map_some]
    exact ⟨_, l, rfl, hl, List.prefix_rfl, rfl, rfl, rfl⟩
  | act hne ha =>
    obtain ⟨_, _, -, -, rfl⟩ := act_eq ha
    refine ⟨q, l, (List.getElem?_set_ne hne).trans hq, ?_, List.prefix_rfl, rfl, rfl, rfl⟩
    rw [List.getElem?_modify, hl]
    simp [hne]

end Course

end HostWatch
