import HostWatch.Proofs.Bus.Life
import HostWatch.Proofs.Bus.Permits

/-!
# Nothing is lost or doubled in a queue

`QueueLog` is what happens to a queue from outside: the messages that it accepted, and what
the calls of its handler came to. `Queue.Tracks` says that the queue has each of them in one
place and nothing else, and that what the handler was called with follows from that place.
It is kept when a message is accepted (`Tracks.accept`) and by every action (`Tracks.turns`);
a message that has come to an end stays there (`Turns.stays`).
-/

namespace HostWatch

/-- Where the values of a function are different, one entry alone has its value. -/
theorem filter_eq_singleton {α : Type} {xs : List α} {f : α → Nat} (h : (xs.map f).Nodup) {x : α}
    (hx : x ∈ xs) : xs.filter (f · = f x) = [x] := by
  induction xs with
  | nil => cases hx
  | cons y ys ih =>
    rw [List.map_cons, List.nodup_cons] at h
    rcases List.mem_cons.mp hx with rfl | hx
    · have hnone : ys.filter (f · = f x) = [] := by
        refine List.filter_eq_nil_iff.mpr fun z hz hfz => h.1 ?_
        exact List.mem_map.mpr ⟨z, hz, of_decide_eq_true hfz⟩
      rw [List.filter_cons_of_pos (by simp), hnone]
    · have hne : f y ≠ f x := fun heq => h.1 (heq ▸ List.mem_map_of_mem hx)
      rw [List.filter_cons_of_neg (by simpa using hne), ih h.2 hx]

/-- What happened to a queue from outside. -/
structure QueueLog where
  /-- The messages that it accepted, in their order. -/
  accepted : List Message := []
  /-- What the calls of its handler came to, in their order. -/
  answers : List (Message × HandlerOutcome) := []
  deriving DecidableEq, Repr

namespace Queue

/-- The messages of one publication with which the handler was called, the last one first. -/
def callsOf (id : Nat) (q : Queue) : List Message :=
  q.handed.filter (·.id = id)

/-- The places of the messages of one publication. -/
def entriesOf (id : Nat) (q : Queue) : List (Place × Message) :=
  q.entries.filter (·.2.id = id)

end Queue

/-- What the calls with the messages of one publication came to. -/
def QueueLog.answersOf (id : Nat) (l : QueueLog) : List (Message × HandlerOutcome) :=
  l.answers.filter (·.1.id = id)

namespace Queue

/-- A queue has what it has accepted, each message in one place. -/
structure Tracks (q : Queue) (l : QueueLog) : Prop where
  /-- The places are those of the messages that were accepted. -/
  ids : (q.entries.map (·.2.id)).Perm (l.accepted.map (·.id))
  /-- No publication was accepted twice. -/
  nodup : (l.accepted.map (·.id)).Nodup
  /-- Each message lives. -/
  lives : ∀ m ∈ l.accepted, ∀ e ∈ q.entries, e.2.id = m.id →
    ∃ k, q.policy.Lives m k e (q.callsOf m.id) (l.answersOf m.id)
  /-- The handler was called with messages that were accepted. -/
  handed : ∀ c ∈ q.handed, c.id ∈ l.accepted.map (·.id)
  /-- What was answered were messages that were accepted. -/
  answered : ∀ a ∈ l.answers, a.1.id ∈ l.accepted.map (·.id)

variable {q q' : Queue} {l : QueueLog} {m : Message} {a : QueueAction}

theorem tracks_subscribed (topic name handler : String) (policy : RedeliveryPolicy)
    (concurrency : Nat) : (subscribed topic name handler policy concurrency).Tracks {} where
  ids := .rfl
  nodup := List.nodup_nil
  lives _ h := absurd h List.not_mem_nil
  handed _ h := absurd h List.not_mem_nil
  answered _ h := absurd h List.not_mem_nil

theorem Tracks.nodup_entries (h : q.Tracks l) : (q.entries.map (·.2.id)).Nodup :=
  h.ids.nodup_iff.mpr h.nodup

/-- A queue has a message at the place `p` after `k` redeliveries. -/
structure Has (q : Queue) (l : QueueLog) (m : Message) (p : Place) (k : Nat) : Prop where
  /-- It is nowhere else. -/
  place : q.entriesOf m.id = [(p, m.retry k)]
  /-- It has come there as messages do. -/
  lives : q.policy.Lives m k (p, m.retry k) (q.callsOf m.id) (l.answersOf m.id)

/-- A message that was accepted has one place. -/
theorem Tracks.has (h : q.Tracks l) (hm : m ∈ l.accepted) : ∃ p k, q.Has l m p k := by
  have hmem : m.id ∈ q.entries.map (·.2.id) := h.ids.mem_iff.mpr (List.mem_map_of_mem hm)
  obtain ⟨⟨p, m'⟩, he, hid⟩ := List.mem_map.mp hmem
  have hone := filter_eq_singleton h.nodup_entries he
  obtain ⟨k, hlives⟩ := h.lives m hm _ he hid
  obtain rfl : m' = m.retry k := hlives.message
  exact ⟨p, k, hone, hlives⟩

/-- The handler is not called twice with the message of one attempt. -/
theorem Tracks.nodup_handed (h : q.Tracks l) : q.handed.Nodup := by
  refine List.nodup_iff_count_le_one.mpr fun c => ?_
  by_cases hc : c ∈ q.handed
  · obtain ⟨m, hm, hid⟩ := List.mem_map.mp (h.handed c hc)
    obtain ⟨p, k, hhas⟩ := h.has hm
    have hcount := List.nodup_iff_count_le_one.mp hhas.lives.nodup_calls c
    rwa [callsOf, List.count_filter (by simpa using hid.symm)] at hcount
  · rw [List.count_eq_zero_of_not_mem hc]
    exact Nat.zero_le 1

/-- With messages that were not accepted the handler was not called. -/
theorem Tracks.callsOf_eq_nil (h : q.Tracks l) {id : Nat} (hid : id ∉ l.accepted.map (·.id)) :
    q.callsOf id = [] := by
  refine List.filter_eq_nil_iff.mpr fun c hc hcid => hid ?_
  exact of_decide_eq_true hcid ▸ h.handed c hc

theorem Tracks.answersOf_eq_nil (h : q.Tracks l) {id : Nat}
    (hid : id ∉ l.accepted.map (·.id)) : l.answersOf id = [] := by
  refine List.filter_eq_nil_iff.mpr fun a ha haid => hid ?_
  exact of_decide_eq_true haid ▸ h.answered a ha

/-- Another message is accepted. -/
theorem Tracks.accept (h : q.Tracks l) (hm : q.accept? m = some q') (hfirst : m.attempt = 0)
    (hnew : m.id ∉ l.accepted.map (·.id)) :
    q'.Tracks { l with accepted := l.accepted ++ [m] } := by
  have hperm := entries_accept hm
  obtain ⟨-, rfl⟩ := accept?_eq_some.mp hm
  have hids : (l.accepted ++ [m]).map (·.id) = l.accepted.map (·.id) ++ [m.id] := List.map_append
  refine ⟨?_, ?_, ?_, ?_, ?_⟩
  · rw [hids]
    refine (hperm.map _).trans ?_
    exact (h.ids.cons m.id).trans (List.perm_append_singleton _ _).symm
  · rw [hids]
    exact List.nodup_append_comm.mp (List.nodup_cons.mpr ⟨hnew, h.nodup⟩)
  · intro f hf e he hid
    rcases List.mem_append.mp hf with hf | hf
    · rcases List.mem_cons.mp (hperm.mem_iff.mp he) with rfl | he
      · exact absurd (List.mem_map.mpr ⟨f, hf, hid.symm⟩) hnew
      · exact h.lives f hf e he hid
    · rw [List.mem_singleton.mp hf] at hid ⊢
      rcases List.mem_cons.mp (hperm.mem_iff.mp he) with rfl | he
      · -- the handler was never called with it
        have hlives := RedeliveryPolicy.Lives.accepted q.policy hfirst
        rw [← h.callsOf_eq_nil hnew, ← h.answersOf_eq_nil hnew] at hlives
        exact ⟨0, hlives⟩
      · exact absurd (h.ids.mem_iff.mp (List.mem_map.mpr ⟨e, he, hid⟩)) hnew
  · intro c hc
    rw [hids]
    exact List.mem_append_left _ (h.handed c hc)
  · intro a ha
    rw [hids]
    exact List.mem_append_left _ (h.answered a ha)

/-- One message moves. -/
theorem Tracks.moves {e e' : Place × Message} {rest : List (Place × Message)}
    {call : Option Message} {answer : Option HandlerOutcome} (h : q.Tracks l)
    (hpolicy : q'.policy = q.policy) (hm : q.policy.Moves e call answer e')
    (hbefore : q.entries.Perm (e :: rest)) (hafter : q'.entries.Perm (e' :: rest))
    (hhanded : q'.handed = call.toList ++ q.handed) :
    q'.Tracks { l with answers := l.answers ++ answer.toList.map (e.2, ·) } := by
  have hids : (q'.entries.map (·.2.id)).Perm (q.entries.map (·.2.id)) := by
    refine ((hafter.map _).trans ?_).trans (hbefore.map _).symm
    rw [List.map_cons, List.map_cons, hm.id_eq]
  have he : e.2.id ∈ l.accepted.map (·.id) :=
    h.ids.mem_iff.mp (List.mem_map_of_mem (hbefore.mem_iff.mpr List.mem_cons_self))
  have hcall : ∀ c ∈ call.toList, c.id = e.2.id :=
    fun c hc => hm.id_call (Option.mem_toList.mp hc)
  have hanswer : ∀ a ∈ answer.toList.map (e.2, ·), a.1.id = e.2.id := by
    intro a ha
    obtain ⟨o, -, rfl⟩ := List.mem_map.mp ha
    rfl
  refine ⟨hids.trans h.ids, h.nodup, ?_, ?_, ?_⟩
  · intro m hm' f hf hid
    rw [hpolicy, callsOf, hhanded, List.filter_append, QueueLog.answersOf, List.filter_append]
    rcases List.mem_cons.mp (hafter.mem_iff.mp hf) with rfl | hf
    · -- it is the message that moves
      have hmid : e.2.id = m.id := hm.id_eq.symm.trans hid
      obtain ⟨k, hlives⟩ :=
        h.lives m hm' e (hbefore.mem_iff.mpr List.mem_cons_self) hmid
      rw [List.filter_eq_self.mpr fun c hc => decide_eq_true ((hcall c hc).trans hmid),
        List.filter_eq_self.mpr fun a ha => decide_eq_true ((hanswer a ha).trans hmid)]
      exact hlives.moves hm
    · have hnodup := (hbefore.map (·.2.id)).nodup_iff.mp h.nodup_entries
      rw [List.map_cons, List.nodup_cons] at hnodup
      have hne : e.2.id ≠ m.id := by
        intro heq
        exact hnodup.1 (heq ▸ hid ▸ List.mem_map_of_mem hf)
      have hnocall : call.toList.filter (·.id = m.id) = [] :=
        List.filter_eq_nil_iff.mpr fun c hc => by simp [hcall c hc, hne]
      have hnoanswer : (answer.toList.map (e.2, ·)).filter (·.1.id = m.id) = [] :=
        List.filter_eq_nil_iff.mpr fun a ha => by simp [hanswer a ha, hne]
      rw [hnocall, hnoanswer, List.nil_append, List.append_nil]
      exact h.lives m hm' f (hbefore.mem_iff.mpr (List.mem_cons_of_mem _ hf)) hid
  · intro c hc
    rw [hhanded, List.mem_append] at hc
    rcases hc with hc | hc
    · rw [hcall c hc]; exact he
    · exact h.handed c hc
  · intro a ha
    rcases List.mem_append.mp ha with ha | ha
    · exact h.answered a ha
    · rw [hanswer a ha]; exact he

/-- All messages that wait are discarded. -/
theorem Tracks.discards {rest : List (Place × Message)} (h : q.Tracks l)
    (hpolicy : q'.policy = q.policy)
    (hbefore : q.entries.Perm (q.waiting.map (.waiting, ·) ++ rest))
    (hafter : q'.entries.Perm (q.waiting.map (.discarded, ·) ++ rest))
    (hhanded : q'.handed = q.handed) : q'.Tracks l := by
  have hids : (q'.entries.map (·.2.id)).Perm (q.entries.map (·.2.id)) := by
    refine ((hafter.map _).trans ?_).trans (hbefore.map _).symm
    rw [List.map_append, List.map_append, List.map_map, List.map_map]
    exact .rfl
  refine ⟨hids.trans h.ids, h.nodup, ?_, hhanded ▸ h.handed, h.answered⟩
  intro m hm e he hid
  rw [hpolicy, callsOf, hhanded, ← callsOf]
  rcases List.mem_append.mp (hafter.mem_iff.mp he) with he | he
  · obtain ⟨w, hw, rfl⟩ := List.mem_map.mp he
    obtain ⟨k, hlives⟩ := h.lives m hm (.waiting, w)
      (hbefore.mem_iff.mpr (List.mem_append_left _ (List.mem_map_of_mem hw))) hid
    obtain ⟨k', hlives'⟩ := hlives.moves .discarded
    exact ⟨k', by simpa using hlives'⟩
  · exact h.lives m hm e (hbefore.mem_iff.mpr (List.mem_append_right _ he)) hid

/-- An action takes a message along its life, or leaves it alone. -/
theorem Tracks.turns {answer : Option (Message × HandlerOutcome)} (h : q.Tracks l)
    (hpolicy : q'.policy = q.policy) (ht : q.Turns q' answer) :
    q'.Tracks { l with answers := l.answers ++ answer.toList } := by
  cases ht with
  | keeps hentries hhanded =>
    rw [Option.toList_none, List.append_nil]
    refine ⟨hentries ▸ h.ids, h.nodup, ?_, hhanded ▸ h.handed, h.answered⟩
    rw [hentries, hpolicy]
    intro m hm e he hid
    rw [callsOf, hhanded]
    exact h.lives m hm e he hid
  | @moves e call answer e' rest hm hbefore hafter hhanded =>
    rw [Option.toList_map]
    exact h.moves hpolicy hm hbefore hafter hhanded
  | discards hbefore hafter hhanded =>
    rw [Option.toList_none, List.append_nil]
    exact h.discards hpolicy hbefore hafter hhanded

/-- A message that has come to an end stays there, and the handler is not called with it again. -/
theorem Turns.stays {answer : Option (Message × HandlerOutcome)} {e : Place × Message}
    (ht : q.Turns q' answer) (hnodup : (q.entries.map (·.2.id)).Nodup) (he : e ∈ q.entries)
    (hend : e.1.isEnd = true) : e ∈ q'.entries ∧ q'.callsOf e.2.id = q.callsOf e.2.id := by
  cases ht with
  | keeps hentries hhanded =>
    rw [hentries, callsOf, hhanded]
    exact ⟨he, rfl⟩
  | @moves f call answer f' rest hm hbefore hafter hhanded =>
    rcases List.mem_cons.mp (hbefore.mem_iff.mp he) with rfl | hrest
    · rw [hm.not_isEnd] at hend
      cases hend
    · refine ⟨hafter.mem_iff.mpr (List.mem_cons_of_mem _ hrest), ?_⟩
      have hnodup' := (hbefore.map (·.2.id)).nodup_iff.mp hnodup
      rw [List.map_cons, List.nodup_cons] at hnodup'
      have hne : f.2.id ≠ e.2.id := fun heq => hnodup'.1 (heq ▸ List.mem_map_of_mem hrest)
      have hnocall : call.toList.filter (·.id = e.2.id) = [] :=
        List.filter_eq_nil_iff.mpr fun c hc => by
          simp [hm.id_call (Option.mem_toList.mp hc), hne]
      rw [callsOf, hhanded, List.filter_append, hnocall, List.nil_append, callsOf]
  | discards hbefore hafter hhanded =>
    rw [callsOf, hhanded]
    refine ⟨?_, rfl⟩
    rcases List.mem_append.mp (hbefore.mem_iff.mp he) with hwaiting | hrest
    · obtain ⟨w, -, rfl⟩ := List.mem_map.mp hwaiting
      cases hend
    · exact hafter.mem_iff.mpr (List.mem_append_right _ hrest)

/-! ### What no action changes -/

/-- Two queues of the same topic with the same policy, of which both or none got the signal. -/
structure Alike (q q' : Queue) : Prop where
  /-- The topic is the same. -/
  topic : q'.topic = q.topic
  /-- The policy is the same. -/
  policy : q'.policy = q.policy
  /-- Both got the signal, or none. -/
  signalled : q'.signalled = q.signalled

theorem alike_accept (h : q.accept? m = some q') : q.Alike q' := by
  obtain ⟨-, rfl⟩ := accept?_eq_some.mp h
  exact ⟨rfl, rfl, rfl⟩

/-- An action does not change what a queue was subscribed with, nor send a signal. -/
theorem alike_act (h : q.act a = some q') : q.Alike q' := by
  cases acts_of_act h <;> exact ⟨rfl, rfl, rfl⟩

end Queue

end HostWatch
