import HostWatch.Proofs.Bus.FanOut

/-!
# The queues of the bus do not depend on each other

What a queue does depends on the calls of the bus and on its own actions, and on nothing that
another queue does. So the history of the bus, restricted to the calls and the actions of one queue,
can happen and leaves that queue the same (`Bus.follow_own`), and whenever these restrictions can
happen for all queues, the whole can (`Bus.follow_of_own`). From two histories with the same calls
one can therefore take the actions of one queue from the first and those of all others from the
second (`Bus.exists_mixed`). Whether the handlers of the others succeed, fail or block makes no
difference to the messages that a queue can hand to its own handler (`CanHand.of_conduct`). All that
separates the queues of the bus is summed up at the end.
-/

namespace HostWatch

/-! ### The part of one queue -/

namespace Happening

/-- It is a call of the bus. -/
def isCall : Happening → Bool
  | act .. => false
  | _ => true

/-- It is an action of a queue. -/
def isOf (i : Nat) : Happening → Bool
  | act j _ => j = i
  | _ => false

/-- It is a call of the bus, or an action of a queue. -/
def concerns (i : Nat) (e : Happening) : Bool :=
  e.isCall || e.isOf i

theorem isOf_of_isCall {e : Happening} (h : e.isCall = true) (i : Nat) : e.isOf i = false := by
  cases e with
  | act => cases h
  | _ => rfl

theorem concerns_of_isCall {e : Happening} (h : e.isCall = true) (i : Nat) :
    e.concerns i = true := by
  rw [concerns, h, Bool.true_or]

theorem concerns_act (i j : Nat) (a : QueueAction) : (act j a).concerns i = decide (j = i) := rfl

/-- What concerns one queue is no action of another. -/
theorem isOf_of_concerns {i j : Nat} {e : Happening} (h : e.concerns j = true) (hne : j ≠ i) :
    e.isOf i = false := by
  cases e with
  | act k a =>
    have hk : k = j := of_decide_eq_true h
    exact decide_eq_false (hk ▸ hne)
  | _ => rfl

end Happening

/-- The calls of the bus in a history. -/
def busCalls (hs : List Happening) : List Happening :=
  hs.filter (·.isCall)

/-- The calls of the bus and the actions of one queue. -/
def own (i : Nat) (hs : List Happening) : List Happening :=
  hs.filter (·.concerns i)

/-- All but the actions of one queue. -/
def others (i : Nat) (hs : List Happening) : List Happening :=
  hs.filter (!·.isOf i)

section Parts

variable {i j : Nat} {hs xs ys : List Happening} {e : Happening}

theorem own_cons_of_concerns (h : e.concerns i = true) (hs : List Happening) :
    own i (e :: hs) = e :: own i hs := List.filter_cons_of_pos h

theorem own_cons_of_not (h : e.concerns i = false) (hs : List Happening) :
    own i (e :: hs) = own i hs := List.filter_cons_of_neg (by rw [h]; exact Bool.false_ne_true)

theorem busCalls_own (i : Nat) (hs : List Happening) : busCalls (own i hs) = busCalls hs := by
  rw [busCalls, own, List.filter_filter, busCalls]
  refine List.filter_congr fun e _ => ?_
  cases hcall : e.isCall with
  | false => exact Bool.false_and _
  | true => rw [Happening.concerns_of_isCall hcall i]; rfl

theorem busCalls_others (i : Nat) (hs : List Happening) : busCalls (others i hs) = busCalls hs := by
  rw [busCalls, others, List.filter_filter, busCalls]
  refine List.filter_congr fun e _ => ?_
  cases hcall : e.isCall with
  | false => exact Bool.false_and _
  | true => rw [Happening.isOf_of_isCall hcall i]; rfl

theorem busCalls_busCalls (hs : List Happening) : busCalls (busCalls hs) = busCalls hs :=
  List.filter_eq_self.mpr fun _ he => (List.mem_filter.mp he).2

theorem own_busCalls (i : Nat) (hs : List Happening) : own i (busCalls hs) = busCalls hs :=
  List.filter_eq_self.mpr fun _ he => Happening.concerns_of_isCall (List.mem_filter.mp he).2 i

/-- The part of one queue stays the same when the actions of another one are left out. -/
theorem own_others (h : j ≠ i) (hs : List Happening) : own j (others i hs) = own j hs := by
  rw [own, others, List.filter_filter, own]
  refine List.filter_congr fun e _ => ?_
  cases hown : e.concerns j with
  | false => exact Bool.false_and _
  | true => rw [Happening.isOf_of_concerns hown h]; rfl

/-- The part of one queue and the parts of all others belong to one history, if they have the same
calls. -/
theorem exists_woven (hx : ∀ e ∈ xs, e.concerns i = true) (hy : ∀ e ∈ ys, e.isOf i = false)
    (h : busCalls xs = busCalls ys) : ∃ zs, own i zs = xs ∧ others i zs = ys := by
  induction xs generalizing ys with
  | nil =>
    -- the others do nothing that concerns the queue
    refine ⟨ys, List.filter_eq_nil_iff.mpr fun e he hown => ?_,
      List.filter_eq_self.mpr fun e he => ?_⟩
    · rw [Happening.concerns, hy e he, Bool.or_false] at hown
      have hmem : e ∈ busCalls ys := List.mem_filter.mpr ⟨he, hown⟩
      rw [← h] at hmem
      cases hmem
    · rw [hy e he]
      rfl
  | cons x xs ih =>
    obtain ⟨hx₀, hxs⟩ := List.forall_mem_cons.mp hx
    cases hcall : x.isCall with
    | false =>
      -- an action of the queue comes first
      have hof : x.isOf i = true := by rwa [Happening.concerns, hcall, Bool.false_or] at hx₀
      have hcalls : busCalls (x :: xs) = busCalls xs :=
        List.filter_cons_of_neg (by rw [hcall]; exact Bool.false_ne_true)
      obtain ⟨zs, hown, hothers⟩ := ih hxs hy (hcalls.symm.trans h)
      refine ⟨x :: zs, by rw [own_cons_of_concerns hx₀, hown], ?_⟩
      rwa [others, List.filter_cons_of_neg (by rw [hof]; exact Bool.false_ne_true)]
    | true =>
      -- the actions of the others come before the next call
      induction ys with
      | nil =>
        rw [busCalls, List.filter_cons_of_pos hcall] at h
        cases h
      | cons y ys ihy =>
        obtain ⟨hy₀, hys⟩ := List.forall_mem_cons.mp hy
        have hkeep : ∀ zs, others i (y :: zs) = y :: others i zs := fun zs =>
          List.filter_cons_of_pos (by rw [hy₀]; rfl)
        cases hycall : y.isCall with
        | true =>
          rw [busCalls, busCalls, List.filter_cons_of_pos hcall,
            List.filter_cons_of_pos hycall] at h
          obtain ⟨rfl, htail⟩ := List.cons.inj h
          obtain ⟨zs, hown, hothers⟩ := ih hxs hys htail
          exact ⟨x :: zs, by rw [own_cons_of_concerns hx₀, hown], by rw [hkeep, hothers]⟩
        | false =>
          have hcalls : busCalls (y :: ys) = busCalls ys :=
            List.filter_cons_of_neg (by rw [hycall]; exact Bool.false_ne_true)
          obtain ⟨zs, hown, hothers⟩ := ihy hys (h.trans hcalls)
          have hnot : y.concerns i = false := by rw [Happening.concerns, hycall, hy₀]; rfl
          exact ⟨y :: zs, by rw [own_cons_of_not hnot, hown], by rw [hkeep, hothers]⟩

end Parts

/-! ### Handlers -/

/-- How the handler of one queue behaves: in which ways the call of a delivery may end after what
has happened to its queue. A call that may not end is blocked. -/
abbrev Conduct := List Happening → Nat → HandlerOutcome → Prop

/-- In the part of one queue, calls of its handler end as they may. -/
def Conduct.Allows (H : Conduct) (i : Nat) (hs : List Happening) : Prop :=
  ∀ before n outcome after, hs = before ++ .act i (.finish n outcome) :: after → H before n outcome

/-- In a history, the calls of all handlers end as they may. Handlers share no state: each goes by
what has happened to its own queue. -/
def Obeys (H : Nat → Conduct) (hs : List Happening) : Prop :=
  ∀ i, (H i).Allows i (own i hs)

/-- Where nothing but calls of the bus happens, no call of a handler ends. -/
theorem obeys_busCalls (H : Nat → Conduct) (hs : List Happening) : Obeys H (busCalls hs) := by
  intro i before n outcome after heq
  rw [own_busCalls] at heq
  have hmem : Happening.act i (.finish n outcome) ∈ busCalls hs := by
    rw [heq]
    exact List.mem_append_right _ List.mem_cons_self
  cases (List.mem_filter.mp hmem).2

namespace Bus

/-! ### Two buses that have a queue in common -/

/-- Two buses with the same subscriptions, of which one queue is the same. -/
structure Mirrors (i : Nat) (b d : Bus) : Prop where
  /-- The policy is the same. -/
  policy : d.policy = b.policy
  /-- Handlers may be called as often at once. -/
  concurrency : d.concurrency = b.concurrency
  /-- As many messages have been published. -/
  published : d.published = b.published
  /-- The same queues have been subscribed. -/
  outlines : d.queues.map Queue.outline = b.queues.map Queue.outline
  /-- One queue is the same. -/
  queue : d.queues[i]? = b.queues[i]?

variable {b b' d d' start : Bus} {e : Happening} {hs hs' : List Happening} {i j : Nat}
  {a : QueueAction}

namespace Mirrors

theorem refl (i : Nat) (b : Bus) : Mirrors i b b := ⟨rfl, rfl, rfl, rfl, rfl⟩

theorem symm (h : Mirrors i b d) : Mirrors i d b :=
  ⟨h.policy.symm, h.concurrency.symm, h.published.symm, h.outlines.symm, h.queue.symm⟩

theorem length (h : Mirrors i b d) : d.queues.length = b.queues.length := by
  rw [← List.length_map Queue.outline, h.outlines, List.length_map]

theorem taken {topic name : String} (h : Mirrors i b d) (ht : b.Taken topic name) :
    d.Taken topic name := by
  obtain ⟨q, hq, htopic, hname⟩ := ht
  have hmem : q.outline ∈ d.queues.map Queue.outline := h.outlines ▸ List.mem_map_of_mem hq
  obtain ⟨p, hp, heq⟩ := List.mem_map.mp hmem
  simp only [Queue.outline, Prod.mk.injEq] at heq
  exact ⟨p, hp, heq.1.trans htopic, heq.2.1.trans hname⟩

/-- A call of the bus does the same to both. -/
theorem call (h : Mirrors i b d) (he : e.isCall = true) (hb : b.Happens e b') :
    ∃ d', d.Happens e d' ∧ Mirrors i b' d' := by
  cases hb with
  | refused ht => exact ⟨d, .refused (h.taken ht), h⟩
  | @subscribed topic name handler hfree =>
    refine ⟨_, .subscribed fun ht => hfree (h.symm.taken ht), h.policy, h.concurrency, h.published,
      ?_, ?_⟩
    · rw [List.map_append, List.map_append, h.outlines]
      rfl
    · rw [h.policy, h.concurrency, List.getElem?_append, List.getElem?_append, h.length, h.queue]
  | published topic body =>
    have hgive : ∀ c : Bus, (c.queues.map (·.give topic { id := c.published, body })).map
        Queue.outline = c.queues.map Queue.outline := by
      intro c
      rw [List.map_map]
      exact List.map_congr_left fun q _ => q.outline_give topic _
    refine ⟨_, .published topic body, h.policy, h.concurrency, congrArg (· + 1) h.published, ?_, ?_⟩
    · rw [hgive, hgive, h.outlines]
    · rw [List.getElem?_map, List.getElem?_map, h.queue, h.published]
  | acted => cases he

/-- An action of the queue that they have in common does the same to both. -/
theorem act (h : Mirrors i b d) (hb : b.Happens (.act i a) b') :
    ∃ d', d.Happens (.act i a) d' ∧ Mirrors i b' d' := by
  cases hb with
  | @acted _ _ q q' hq hact =>
    have hq' : d.queues[i]? = some q := h.queue.trans hq
    have houtline := Queue.outline_act hact
    refine ⟨_, .acted hq' hact, h.policy, h.concurrency, h.published, ?_, ?_⟩
    · rw [map_set_eq _ hq' houtline, map_set_eq _ hq houtline, h.outlines]
    · rw [List.getElem?_set_self (List.getElem?_eq_some_iff.mp hq').1,
        List.getElem?_set_self (List.getElem?_eq_some_iff.mp hq).1]

/-- An action of another queue of the one leaves the other as it is. -/
theorem other (h : Mirrors i b d) (hj : j ≠ i) (hb : b.Happens (.act j a) b') : Mirrors i b' d := by
  cases hb with
  | @acted _ _ q q' hq hact =>
    refine ⟨h.policy, h.concurrency, h.published, ?_, ?_⟩
    · rw [map_set_eq _ hq (Queue.outline_act hact), h.outlines]
    · rw [List.getElem?_set_ne hj, h.queue]

end Mirrors

/-! ### Taking a history apart and putting it together -/

/-- The part of one queue can happen on its own, and leaves that queue the same. -/
theorem follow_own (hb : b.Open) (hd : d.Open) (h : Mirrors i b d) (hf : b.follow hs = some b') :
    ∃ d', d.follow (own i hs) = some d' ∧ Mirrors i b' d' := by
  induction hs generalizing b d with
  | nil =>
    cases hf
    exact ⟨d, rfl, h⟩
  | cons e hs ih =>
    obtain ⟨b₁, he, hrest⟩ := follow_cons.mp hf
    have hhappens := hb.apply_eq_some_iff.mp he
    have hb₁ := hb.happens hhappens
    -- a step that both take
    have hboth : ∀ {d₁}, e.concerns i = true → d.Happens e d₁ → Mirrors i b₁ d₁ →
        ∃ d', d.follow (own i (e :: hs)) = some d' ∧ Mirrors i b' d' := by
      intro d₁ hown hd₁ hmirrors
      obtain ⟨d', hd', hmirrors'⟩ := ih hb₁ (hd.happens hd₁) hmirrors hrest
      refine ⟨d', ?_, hmirrors'⟩
      rw [own_cons_of_concerns hown, follow_cons]
      exact ⟨d₁, hd.apply_eq_some_iff.mpr hd₁, hd'⟩
    cases hcall : e.isCall with
    | true =>
      obtain ⟨d₁, hd₁, hmirrors⟩ := h.call hcall hhappens
      exact hboth (Happening.concerns_of_isCall hcall i) hd₁ hmirrors
    | false =>
      cases e with
      | act j a =>
        by_cases hj : j = i
        · subst hj
          obtain ⟨d₁, hd₁, hmirrors⟩ := h.act hhappens
          exact hboth (decide_eq_true rfl) hd₁ hmirrors
        · rw [own_cons_of_not ((Happening.concerns_act i j a).trans (decide_eq_false hj))]
          exact ih hb₁ hd (h.other hj hhappens) hrest
      | _ => cases hcall

theorem apply_of_isCall (b : Bus) (h : e.isCall = true) : ∃ b', b.apply e = some b' := by
  cases e with
  | act => cases h
  | subscribe => exact ⟨_, rfl⟩
  | publish => exact ⟨_, rfl⟩

/-- Calls of the bus can always be made. -/
theorem follow_busCalls (b : Bus) (hs : List Happening) :
    ∃ b', b.follow (busCalls hs) = some b' := by
  induction hs generalizing b with
  | nil => exact ⟨b, rfl⟩
  | cons e hs ih =>
    rw [busCalls, List.filter_cons]
    split
    · next hcall =>
      obtain ⟨b₁, hb₁⟩ := b.apply_of_isCall hcall
      obtain ⟨b', hb'⟩ := ih b₁
      exact ⟨b', follow_cons.mpr ⟨b₁, hb₁, hb'⟩⟩
    · exact ih b

/-- A history of which the part of each queue can happen can happen itself. -/
theorem follow_of_own (hb : b.Open) (h : ∀ i, ∃ d, b.follow (own i hs) = some d) :
    ∃ b', b.follow hs = some b' := by
  induction hs using List.reverseRecOn with
  | nil => exact ⟨b, rfl⟩
  | append_singleton hs e ih =>
    have hparts : ∀ i, ∃ d, b.follow (own i hs) = some d ∧
        ∃ d', d.follow (own i [e]) = some d' := by
      intro i
      obtain ⟨d', hd'⟩ := h i
      rw [own, List.filter_append] at hd'
      obtain ⟨d, hd, hlast⟩ := follow_append.mp hd'
      exact ⟨d, hd, d', hlast⟩
    obtain ⟨b₁, hb₁⟩ := ih fun i => (hparts i).imp fun _ hd => hd.1
    have hlast : ∃ b', b₁.apply e = some b' := by
      cases e with
      | act i a =>
        obtain ⟨d, hd, d', hd'⟩ := hparts i
        obtain ⟨d₁, hd₁, hmirrors⟩ := follow_own hb hb (Mirrors.refl i b) hb₁
        rw [hd, Option.some.injEq] at hd₁
        subst hd₁
        have hsingle : own i [Happening.act i a] = [.act i a] :=
          own_cons_of_concerns ((Happening.concerns_act i i a).trans (decide_eq_true rfl)) []
        rw [hsingle, follow_singleton] at hd'
        -- the queue is the same in the whole as in its part
        obtain ⟨b', hb', -⟩ := hmirrors.symm.act ((hb.follow hd).apply_eq_some_iff.mp hd')
        exact ⟨b', (hb.follow hb₁).apply_eq_some_iff.mpr hb'⟩
      | subscribe => exact ⟨_, rfl⟩
      | publish => exact ⟨_, rfl⟩
    obtain ⟨b', hb'⟩ := hlast
    exact ⟨b', follow_append.mpr ⟨b₁, hb₁, follow_singleton.trans hb'⟩⟩

/-- Where the part of a queue is the same in two histories, the queue is the same afterwards. -/
theorem getElem?_of_own (hb : start.Open) (h : start.follow hs = some b)
    (h' : start.follow hs' = some b') (hown : own i hs = own i hs') :
    b.queues[i]? = b'.queues[i]? := by
  obtain ⟨d, hd, hmirrors⟩ := follow_own hb hb (Mirrors.refl i start) h
  obtain ⟨d', hd', hmirrors'⟩ := follow_own hb hb (Mirrors.refl i start) h'
  rw [hown, hd', Option.some.injEq] at hd
  subst hd
  exact hmirrors.queue.symm.trans hmirrors'.queue

/-- Of two histories with the same calls, one queue can act as in the first and all others as in the
second. -/
theorem exists_mixed (hb : start.Open) (h : start.follow hs = some b)
    (h' : start.follow hs' = some b') (hcalls : busCalls hs = busCalls hs') (i : Nat) :
    ∃ zs c, start.follow zs = some c ∧ own i zs = own i hs ∧ (∀ j, j ≠ i → own j zs = own j hs') ∧
      c.queues[i]? = b.queues[i]? ∧ ∀ j, j ≠ i → c.queues[j]? = b'.queues[j]? := by
  have hrest : ∀ e ∈ others i hs', e.isOf i = false := fun e he => by
    simpa using (List.mem_filter.mp he).2
  obtain ⟨zs, hzs, hzs'⟩ := exists_woven (fun e he => (List.mem_filter.mp he).2) hrest
    ((busCalls_own i hs).trans (hcalls.trans (busCalls_others i hs').symm))
  have hothers : ∀ j, j ≠ i → own j zs = own j hs' := fun j hj => by
    rw [← own_others hj zs, hzs', own_others hj]
  have hparts : ∀ j, ∃ d, start.follow (own j zs) = some d := by
    intro j
    by_cases hj : j = i
    · subst hj
      obtain ⟨d, hd, -⟩ := follow_own hb hb (Mirrors.refl j start) h
      exact ⟨d, hzs ▸ hd⟩
    · obtain ⟨d, hd, -⟩ := follow_own hb hb (Mirrors.refl j start) h'
      exact ⟨d, hothers j hj ▸ hd⟩
  obtain ⟨c, hc⟩ := follow_of_own hb hparts
  exact ⟨zs, c, hc, hzs, hothers, getElem?_of_own hb hc h hzs, fun j hj =>
    getElem?_of_own hb hc h' (hothers j hj)⟩

end Bus

/-! ### What separates the queues -/

/-- A queue can hand these messages to its handler, the first one first, when these calls of the bus
are made and the handlers behave so. -/
def CanHand (start : Bus) (H : Nat → Conduct) (cs : List Happening) (i : Nat) (ms : List Message) :
    Prop :=
  ∃ hs b q, start.follow hs = some b ∧ Obeys H hs ∧ busCalls hs = cs ∧ b.queues[i]? = some q ∧
    q.handed.reverse = ms

theorem Obeys.mixed {H H' : Nat → Conduct} {i : Nat} {hs hs' zs : List Happening} (hH : H i = H' i)
    (h : Obeys H hs) (h' : Obeys H' hs') (hown : own i zs = own i hs)
    (hothers : ∀ j, j ≠ i → own j zs = own j hs') : Obeys H' zs := by
  intro j
  by_cases hj : j = i
  · subst hj
    rw [hown, ← hH]
    exact h j
  · rw [hothers j hj]
    exact h' j

/-- What a queue can hand to its handler does not depend on the handlers of the others. -/
theorem CanHand.of_conduct {start : Bus} {H H' : Nat → Conduct} {cs : List Happening} {i : Nat}
    {ms : List Message} (hstart : start.Open) (hH : H i = H' i) (h : CanHand start H cs i ms) :
    CanHand start H' cs i ms := by
  obtain ⟨hs, b, q, hf, hobeys, rfl, hq, hhanded⟩ := h
  -- the others need not do anything
  obtain ⟨b', hb'⟩ := start.follow_busCalls hs
  obtain ⟨zs, c, hc, hown, hothers, hqueue, -⟩ :=
    Bus.exists_mixed hstart hf hb' (busCalls_busCalls hs).symm i
  have hobeys' := hobeys.mixed hH (obeys_busCalls H' hs) hown hothers
  refine ⟨zs, c, q, hc, hobeys', ?_, hqueue.trans hq, hhanded⟩
  rw [← busCalls_own i zs, hown, busCalls_own]

/-- What separates the queues of a bus that has come from `start` to `b` by a history before its
shutdown. -/
structure Bus.Separate (start : Bus) (hs : List Happening) (b : Bus) : Prop where
  /-- Queues of one topic have different names. -/
  names : ∀ (i j : Nat) (q q' : Queue), b.queues[i]? = some q → b.queues[j]? = some q' →
    q.topic = q'.topic → q.name = q'.name → i = j
  /-- A subscription under a name that is taken is refused, and all goes on as without it. -/
  refused : ∀ before topic name handler after b₀,
    hs = before ++ .subscribe topic name handler :: after → start.follow before = some b₀ →
    b₀.Taken topic name →
    b₀.subscribe topic name handler = .error (.duplicateQueue topic name) ∧
      start.follow (before ++ after) = some b
  /-- Every other subscription adds a queue, which from then on is given one copy of each message
  that is published on its topic, and nothing else. -/
  given : ∀ before topic name handler after b₀,
    hs = before ++ .subscribe topic name handler :: after → start.follow before = some b₀ →
    ¬ b₀.Taken topic name →
    ∃ q, b.queues[b₀.queues.length]? = some q ∧ q.outline = (topic, name, handler) ∧
      q.Given (announced topic b₀.published after)
  /-- There are no other queues. -/
  arises : ∀ (i : Nat) (q : Queue), b.queues[i]? = some q → ∃ before after b₀,
    hs = before ++ .subscribe q.topic q.name q.handler :: after ∧
    start.follow before = some b₀ ∧ ¬ b₀.Taken q.topic q.name ∧ b₀.queues.length = i
  /-- Every publication is accepted. -/
  published : ∀ before topic body after b₀, hs = before ++ .publish topic body :: after →
    start.follow before = some b₀ → (b₀.publish topic body).1 = .ok ()
  /-- Let the handlers of all queues but one behave otherwise, in any history with the same calls.
  The one queue can act there as it does here, with the others as they are there. -/
  isolated : ∀ (H H' : Nat → Conduct) (i : Nat) (hs' : List Happening) (b' : Bus), H i = H' i →
    Obeys H hs → start.follow hs' = some b' → Obeys H' hs' → busCalls hs = busCalls hs' →
    ∃ zs c, start.follow zs = some c ∧ Obeys H' zs ∧ busCalls zs = busCalls hs ∧
      own i zs = own i hs ∧ c.queues[i]? = b.queues[i]? ∧
      ∀ j, j ≠ i → own j zs = own j hs' ∧ c.queues[j]? = b'.queues[j]?
  /-- So the messages that a queue can hand to its handler are the same, whatever the handlers of
  the others do. -/
  independent : ∀ (H H' : Nat → Conduct) (i : Nat) (ms : List Message), H i = H' i →
    (CanHand start H (busCalls hs) i ms ↔ CanHand start H' (busCalls hs) i ms)

/-- In every history of the bus before its shutdown, subscriptions, publications and actions of
queues in any order, the queues are separate. -/
theorem Bus.follow_separate {policy : RedeliveryPolicy} {concurrency : Nat} {hs : List Happening}
    {b : Bus} (h : ({ policy, concurrency } : Bus).follow hs = some b) :
    Separate { policy, concurrency } hs b where
  names i j q q' hq hq' htopic hname := by
    have hdistinct : ({ policy, concurrency } : Bus).Distinct := List.nodup_nil
    exact (hdistinct.follow (open_start policy concurrency) h).eq_index hq hq' htopic hname
  refused before topic name handler after b₀ heq hb₀ ht := by
    subst heq
    refine ⟨subscribe_of_taken ht handler, ?_⟩
    obtain ⟨b₀', hb₀', hrest⟩ := follow_append.mp h
    rw [hb₀, Option.some.injEq] at hb₀'
    subst hb₀'
    obtain ⟨b₁, hb₁, hafter⟩ := follow_cons.mp hrest
    rw [apply, subscribe_of_taken ht] at hb₁
    cases hb₁
    exact follow_append.mpr ⟨b₀, hb₀, hafter⟩
  given before topic name handler after b₀ heq hb₀ hfree := by
    subst heq
    obtain ⟨b₀', hb₀', hrest⟩ := follow_append.mp h
    rw [hb₀, Option.some.injEq] at hb₀'
    subst hb₀'
    exact follow_given hb₀ hfree hrest
  arises i q hq := follow_arises h hq
  published before topic body after b₀ _ hb₀ := by
    rw [((open_start policy concurrency).follow hb₀).publish]
  isolated H H' i hs' b' hH hobeys hb' hobeys' hcalls := by
    obtain ⟨zs, c, hc, hown, hothers, hqueue, hqueues⟩ :=
      exists_mixed (open_start policy concurrency) h hb' hcalls i
    refine ⟨zs, c, hc, hobeys.mixed hH hobeys' hown hothers, ?_, hown, hqueue, fun j hj =>
      ⟨hothers j hj, hqueues j hj⟩⟩
    rw [← busCalls_own i zs, hown, busCalls_own]
  independent H H' i ms hH :=
    ⟨.of_conduct (open_start policy concurrency) hH,
      .of_conduct (open_start policy concurrency) hH.symm⟩

/-- Two queues of a topic, the second of which asks for a redelivery, while the first hands out two
messages and blocks. A third handler is refused. -/
def neighbours : List Happening :=
  [.subscribe "t" "a" "first", .publish "t" (Report.encode ⟨"http://[::1]/"⟩),
    .subscribe "t" "b" "second", .subscribe "t" "a" "third",
    .publish "t" (Report.encode ⟨"http://[::2]/"⟩), .publish "u" [],
    .act 0 .takePermit, .act 1 .takePermit, .act 0 .receive, .act 1 .receive, .act 1 (.decode 0),
    .act 0 (.decode 0), .act 1 (.finish 0 (.failed .redeliver)), .act 0 .takePermit,
    .act 1 (.putBack 0), .act 0 .receive, .act 0 (.decode 1)]

theorem Bus.follow_separate_neighbours :
    ∃ b, ({ policy := ⟨1, 10, 20⟩, concurrency := 2 } : Bus).follow neighbours = some b ∧
      Separate { policy := ⟨1, 10, 20⟩, concurrency := 2 } neighbours b ∧
      b.queues.map (·.outline) = [("t", "a", "first"), ("t", "b", "second")] ∧
      b.queues.map (fun q => (q.handed.map (·.id), q.waiting.map (·.id))) =
        [([1, 0], []), ([1], [1])] := by
  have hfollow : ((({ policy := ⟨1, 10, 20⟩, concurrency := 2 } : Bus).follow neighbours).map
      fun b => (b.queues.map (·.outline),
        b.queues.map fun q => (q.handed.map (·.id), q.waiting.map (·.id)))) =
      some ([("t", "a", "first"), ("t", "b", "second")], [([1, 0], []), ([1], [1])]) := by
    decide +kernel
  obtain ⟨b, hb, heq⟩ := Option.map_eq_some_iff.mp hfollow
  rw [Prod.mk.injEq] at heq
  exact ⟨b, hb, follow_separate hb, heq.1, heq.2⟩

end HostWatch
