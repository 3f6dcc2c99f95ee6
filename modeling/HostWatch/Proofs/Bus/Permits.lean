import HostWatch.Proofs.Bus.Places

/-!
# Permits

The permits of a queue are in three hands: nobody's, the dispatcher's, and those of the
deliveries that decode or whose handler is at work (`Queue.Sound`). There are never more or
fewer of them than the queue began with, so a dispatcher that waits for one can take it as
soon as no delivery is under way. A queue in which nothing can happen any more has therefore
handed out and settled everything it accepted (`Sound.idle`), unless it was told to stop.
-/

namespace HostWatch

namespace Queue

/-- How many permits the dispatcher holds. -/
def received (q : Queue) : Nat :=
  if q.dispatcher = .receiving then 1 else 0

/-- A queue is as its actions leave it, if it began with so many permits. -/
structure Sound (permits : Nat) (q : Queue) : Prop extends q.Numbered where
  /-- All permits are accounted for. -/
  permits : q.free + q.received + q.deliveries.countP (·.phase.holdsPermit) = permits
  /-- A dispatcher stops only after the shutdown signal. -/
  signalled : q.dispatcher = .stopped → q.signalled = true
  /-- When the dispatcher has stopped, no message waits. -/
  waiting : q.dispatcher = .stopped → q.waiting = []
  /-- Messages are discarded only when the dispatcher has stopped. -/
  discarded : q.dispatcher ≠ .stopped → q.discarded = []

variable {permits : Nat} {q q' : Queue}

theorem sound_subscribed (topic name handler : String) (policy : RedeliveryPolicy)
    (concurrency : Nat) :
    (subscribed topic name handler policy concurrency).Sound (max concurrency 1) where
  nodup := List.nodup_nil
  lt _ h := absurd h List.not_mem_nil
  permits := rfl
  signalled h := by cases h
  waiting _ := rfl
  discarded _ := rfl

theorem Sound.accept {m : Message} (h : q.Sound permits) (hm : q.accept? m = some q') :
    q'.Sound permits := by
  obtain ⟨hrunning, rfl⟩ := accept?_eq_some.mp hm
  exact ⟨⟨h.nodup, h.lt⟩, h.permits, h.signalled, fun hstop => absurd hstop hrunning, h.discarded⟩

theorem Sound.signal (h : q.Sound permits) : { q with signalled := true }.Sound permits :=
  ⟨⟨h.nodup, h.lt⟩, h.permits, fun _ => rfl, h.waiting, h.discarded⟩

/-- How many deliveries hold a permit when one of them is gone or in another phase. -/
theorem Numbered.countP {n : Nat} {d : Delivery} (h : q.Numbered) (hd : q.delivery? n = some d) :
    q.deliveries.countP (·.phase.holdsPermit) =
        (q.without n).countP (·.phase.holdsPermit) + d.phase.holdsPermit.toNat ∧
      ∀ phase, (q.inPhase n phase).countP (·.phase.holdsPermit) =
        (q.without n).countP (·.phase.holdsPermit) + phase.holdsPermit.toNat := by
  obtain ⟨before, after, -, heq, hwithout, hphase⟩ := h.split hd
  have hmiddle : ∀ f : Delivery, (before ++ f :: after).countP (·.phase.holdsPermit) =
      (before ++ after).countP (·.phase.holdsPermit) + f.phase.holdsPermit.toNat := by
    intro f
    rw [List.countP_append, List.countP_append, List.countP_cons, Nat.add_assoc]
    cases f.phase.holdsPermit <;> rfl
  rw [heq, hwithout]
  exact ⟨hmiddle d, fun phase => by rw [hphase]; exact hmiddle _⟩

/-- Taking a delivery out leaves the numbers of the others as they are. -/
theorem Numbered.without (h : q.Numbered) (n : Nat) :
    { q with deliveries := q.without n }.Numbered where
  nodup := (List.filter_sublist.map _).nodup h.nodup
  lt d hd := h.lt d (List.mem_of_mem_filter hd)

theorem Numbered.inPhase (h : q.Numbered) (n : Nat) (phase : Phase) :
    { q with deliveries := q.inPhase n phase }.Numbered where
  nodup := by
    have hsame : (q.inPhase n phase).map Delivery.number = q.deliveries.map Delivery.number := by
      rw [Queue.inPhase, List.map_map]
      refine List.map_congr_left fun d _ => ?_
      simp only [Function.comp_apply]
      split <;> rfl
    exact hsame ▸ h.nodup
  lt d hd := by
    obtain ⟨f, hf, rfl⟩ := List.mem_map.mp hd
    split <;> exact h.lt f hf

/-- A delivery that holds a permit gives it back when it is settled. -/
theorem Sound.settle {n : Nat} {d : Delivery} (h : q.Sound permits) (hd : q.delivery? n = some d)
    (hholds : d.phase.holdsPermit = true) (result : DeliveryResult) :
    (q.settle d result).Sound permits := by
  obtain ⟨before, after, rfl, -⟩ := h.split hd
  have hnumbered := h.without d.number
  have hcount := (h.countP hd).1
  have hpermits := h.permits
  rw [hcount, hholds] at hpermits
  refine ⟨⟨hnumbered.nodup, hnumbered.lt⟩, ?_, h.signalled, h.waiting, h.discarded⟩
  change q.free + 1 + q.received + (q.without d.number).countP _ = permits
  rw [← hpermits, Bool.toNat_true]
  omega

/-- A delivery that will put its message back gives its permit back before. -/
theorem Sound.redelivered {n : Nat} {d : Delivery} (h : q.Sound permits)
    (hd : q.delivery? n = some d) (hholds : d.phase.holdsPermit = true)
    (results : List (Message × DeliveryResult)) :
    { q with
      free := q.free + 1
      deliveries := q.inPhase n .backoff
      results }.Sound permits := by
  have hnumbered := h.inPhase n .backoff
  have hpermits := h.permits
  rw [(h.countP hd).1, hholds] at hpermits
  refine ⟨⟨hnumbered.nodup, hnumbered.lt⟩, ?_, h.signalled, h.waiting, h.discarded⟩
  change q.free + 1 + q.received + (q.inPhase n .backoff).countP _ = permits
  rw [(h.countP hd).2, ← hpermits, Bool.toNat_true]
  simp only [Phase.holdsPermit, Bool.toNat_false]
  omega

/-- A delivery that puts its message back holds no permit. -/
theorem Sound.backoff {n : Nat} {d : Delivery} (h : q.Sound permits) (hd : q.delivery? n = some d)
    (hphase : d.phase = .backoff) : { q with deliveries := q.without n }.Sound permits := by
  have hnumbered := h.without n
  have hpermits := h.permits
  rw [(h.countP hd).1, hphase] at hpermits
  exact ⟨⟨hnumbered.nodup, hnumbered.lt⟩, hpermits, h.signalled, h.waiting, h.discarded⟩

/-- Every action leaves the queue as its actions leave it. -/
theorem Sound.act {a : QueueAction} (h : q.Sound permits) (ha : q.act a = some q') :
    q'.Sound permits := by
  have hpermits := h.permits
  have hholds : ∀ {d : Delivery} {phase}, d.phase = phase → phase.holdsPermit = true →
      d.phase.holdsPermit = true := fun hphase hp => hphase ▸ hp
  cases acts_of_act ha with
  | takePermit hacquiring hfree =>
    refine ⟨⟨h.nodup, h.lt⟩, ?_, fun hs => by (cases hs), fun hs => by (cases hs), fun _ => ?_⟩
    · simp only [received, hacquiring] at hpermits ⊢
      simp at hpermits ⊢
      omega
    · exact h.discarded (by rw [hacquiring]; simp)
  | receive hreceiving hwaiting =>
    refine ⟨⟨?_, ?_⟩, ?_, fun hs => by (cases hs), fun hs => by (cases hs), fun _ => ?_⟩
    · rw [List.map_append, List.nodup_append_comm]
      refine List.nodup_cons.mpr ⟨fun hmem => ?_, h.nodup⟩
      obtain ⟨d, hd, hnumber⟩ := List.mem_map.mp hmem
      exact absurd hnumber (Nat.ne_of_lt (h.lt d hd))
    · intro d hd
      rcases List.mem_append.mp hd with hd | hd
      · exact Nat.lt_succ_of_lt (h.lt d hd)
      · rw [List.mem_singleton.mp hd]
        exact Nat.lt_succ_self _
    · simp only [received, hreceiving, List.countP_append] at hpermits ⊢
      simp [Phase.holdsPermit] at hpermits ⊢
      omega
    · exact h.discarded (by rw [hreceiving]; simp)
  | stop hsignal hrunning =>
    refine ⟨⟨h.nodup, h.lt⟩, ?_, fun _ => hsignal, fun _ => rfl, fun hne => absurd rfl hne⟩
    simp only [received] at hpermits ⊢
    by_cases hreceiving : q.dispatcher = .receiving <;> simp [hreceiving] at hpermits ⊢ <;> omega
  | undecodable hd hphase _ => exact h.settle hd (hholds hphase rfl) .undecodable
  | @called n d r hd hphase _ =>
    have hnumbered := h.inPhase n (.handling r)
    refine ⟨⟨hnumbered.nodup, hnumbered.lt⟩, ?_, h.signalled, h.waiting, h.discarded⟩
    change q.free + q.received + (q.inPhase n (.handling r)).countP _ = permits
    rw [(h.countP hd).2, ← hpermits, (h.countP hd).1, hphase]
    rfl
  | acked hd hphase => exact h.settle hd (hholds hphase rfl) .ack
  | rejected hd hphase => exact h.settle hd (hholds hphase rfl) .rejected
  | dropped hd hphase _ => exact h.settle hd (hholds hphase rfl) .dropped
  | redelivered hd hphase _ =>
    obtain ⟨before, after, rfl, -⟩ := h.split hd
    exact h.redelivered hd (hholds hphase rfl) _
  | putBack hd hphase hrunning =>
    exact (h.backoff hd hphase).accept (accept?_eq_some.mpr ⟨hrunning, rfl⟩)
  | lost hd hphase hstopped =>
    have hbefore := h.backoff hd hphase
    exact ⟨⟨hbefore.nodup, hbefore.lt⟩, hbefore.permits, hbefore.signalled, hbefore.waiting,
      fun hne => absurd hstopped hne⟩

/-- Where nothing can happen any more and no shutdown was signalled, no message waits, no delivery
is under way, and nothing was discarded. -/
theorem Sound.idle (h : q.Sound permits) (hpos : 0 < permits) (hidle : ∀ a, q.act a = none)
    (hsignal : q.signalled = false) :
    q.waiting = [] ∧ q.deliveries = [] ∧ q.discarded = [] := by
  have hrunning : q.dispatcher ≠ .stopped := by
    intro hstop
    rw [h.signalled hstop] at hsignal
    cases hsignal
  have hno : ∀ {a q'}, ¬ q.Acts a q' := fun {a q'} hacts => by
    have hact := act_eq_some_iff.mpr hacts
    rw [hidle a] at hact
    cases hact
  have hdeliveries : q.deliveries = [] := by
    refine List.eq_nil_iff_forall_not_mem.mpr fun f hf => ?_
    have hsome : (q.delivery? f.number).isSome = true :=
      List.find?_isSome.mpr ⟨f, hf, decide_eq_true rfl⟩
    obtain ⟨d, hd⟩ := Option.isSome_iff_exists.mp hsome
    cases hphase : d.phase with
    | fresh =>
      cases hdecode : d.message.decode with
      | error fault => exact hno (.undecodable hd hphase hdecode)
      | ok r => exact hno (.called hd hphase hdecode)
    | handling r => exact hno (.acked hd hphase)
    | backoff => exact hno (.putBack hd hphase hrunning)
  refine ⟨?_, hdeliveries, h.discarded hrunning⟩
  cases hdispatcher : q.dispatcher with
  | stopped => exact absurd hdispatcher hrunning
  | acquiring =>
    -- all permits are free, so the dispatcher can take one
    have hfree : q.free = permits := by
      have hpermits := h.permits
      simpa [received, hdispatcher, hdeliveries] using hpermits
    exact absurd (.takePermit hdispatcher (hfree ▸ hpos)) hno
  | receiving =>
    cases hwaiting : q.waiting with
    | nil => rfl
    | cons m rest => exact absurd (.receive hdispatcher hwaiting) hno

end Queue

end HostWatch
