import HostWatch.Proofs.Bus.Balance

/-!
# How many deliveries are at work

A queue lets only so many deliveries decode their messages or call the handler at the same
time, whatever has happened to it (`Course.Reaches.allotted`). The permits that nobody holds, the
one of the dispatcher, and those of the deliveries at work always add up to the number that was
set; a delivery that waits to put its message back is not among them, so it keeps nobody waiting.

The sum is the invariant `Queue.Sound`. What is added here is what it means for a dispatcher
that cannot go on although a message waits (`Queue.Blocked`): then all permits are with
deliveries at work. Each of these can go on by itself, and as soon as one of them is at its end,
whatever came of it, the dispatcher can go on too.
-/

namespace HostWatch

namespace Queue

/-- How many deliveries have not decoded their message yet. -/
def decoding (q : Queue) : Nat :=
  q.deliveries.countP (·.phase = .fresh)

/-- How many calls of the handler are running. -/
def running (q : Queue) : Nat :=
  q.deliveries.countP fun d => d.phase matches .handling _

/-- The dispatcher can take no step although a message waits. -/
structure Blocked (q : Queue) : Prop where
  /-- A message waits. -/
  waiting : q.waiting ≠ []
  /-- The dispatcher cannot take a permit. -/
  takePermit : q.act .takePermit = none
  /-- It cannot hand out a message. -/
  receive : q.act .receive = none
  /-- It cannot stop. -/
  stop : q.act .stop = none

/-- The permits of a queue are accounted for, and keep no message waiting for good. -/
structure Allots (permits : Nat) (q : Queue) : Prop where
  /-- Permits are free, with the dispatcher, or with deliveries at work. -/
  sum : q.free + q.received + (q.decoding + q.running) = permits
  /-- The handler does not run more often than there are permits. -/
  running_le : q.running ≤ permits
  /-- If the dispatcher is blocked, all permits are with deliveries at work, and there are some. -/
  blocked : q.Blocked → q.decoding + q.running = permits ∧ 0 < permits
  /-- A delivery at work can go on by itself, whatever its call of the handler comes to. -/
  goesOn : ∀ d ∈ q.deliveries, d.phase ≠ .backoff →
    (∃ q', q.act (.decode d.number) = some q') ∨
      ∀ outcome, ∃ q', q.act (.finish d.number outcome) = some q'
  /-- Whatever a call of the handler comes to, one delivery less is at work then. -/
  finish : ∀ n outcome q', q.act (.finish n outcome) = some q' →
    q'.decoding + q'.running + 1 = q.decoding + q.running
  /-- When a delivery less is at work, a dispatcher that was blocked can take a permit. -/
  unblocked : q.Blocked → ∀ a q', q.act a = some q' →
    q'.decoding + q'.running < q.decoding + q.running → ∃ q'', q'.act .takePermit = some q''

variable {permits : Nat} {q q' : Queue}

/-- The deliveries that hold a permit are those at work. -/
theorem countP_holdsPermit (q : Queue) :
    q.deliveries.countP (·.phase.holdsPermit) = q.decoding + q.running := by
  rw [decoding, running]
  induction q.deliveries with
  | nil => rfl
  | cons d ds ih =>
    simp only [List.countP_cons, ih]
    cases d.phase <;> simp [Phase.holdsPermit] <;> omega

theorem Sound.sum (h : q.Sound permits) :
    q.free + q.received + (q.decoding + q.running) = permits := by
  rw [← q.countP_holdsPermit]
  exact h.permits

/-- A dispatcher that is blocked waits for a permit, and none is free. -/
theorem Blocked.acquiring (hb : q.Blocked) (h : q.Sound permits) :
    q.dispatcher = .acquiring ∧ q.free = 0 := by
  have hno : ∀ {a q'}, q.act a = none → ¬ q.Acts a q' := fun {a q'} hnone hacts => by
    rw [act_eq_some_iff.mpr hacts] at hnone
    cases hnone
  cases hdispatcher : q.dispatcher with
  | stopped => exact absurd (h.waiting hdispatcher) hb.waiting
  | receiving =>
    cases hwaiting : q.waiting with
    | nil => exact absurd hwaiting hb.waiting
    | cons m rest => exact absurd (.receive hdispatcher hwaiting) (hno hb.receive)
  | acquiring =>
    refine ⟨rfl, Nat.eq_zero_of_not_pos fun hfree => ?_⟩
    exact hno hb.takePermit (.takePermit hdispatcher hfree)

/-- Only the dispatcher's own steps move a dispatcher that waits for a permit. -/
theorem Blocked.stays {a : QueueAction} (hb : q.Blocked) (h : q.Sound permits)
    (ha : q.act a = some q') : q'.dispatcher = .acquiring := by
  have hacquiring := (hb.acquiring h).1
  cases acts_of_act ha with
  | takePermit _ _ => cases hb.takePermit.symm.trans ha
  | receive _ _ => cases hb.receive.symm.trans ha
  | stop _ _ => cases hb.stop.symm.trans ha
  | _ => exact hacquiring

/-- A delivery is found by its number. -/
theorem Numbered.delivery?_of_mem {d : Delivery} (h : q.Numbered) (hd : d ∈ q.deliveries) :
    q.delivery? d.number = some d := by
  have hsome : (q.delivery? d.number).isSome = true :=
    List.find?_isSome.mpr ⟨d, hd, decide_eq_true rfl⟩
  obtain ⟨f, hf⟩ := Option.isSome_iff_exists.mp hsome
  have hnumber : f.number = d.number := by simpa using List.find?_some hf
  rw [hf, List.inj_on_of_nodup_map h.nodup (List.mem_of_find?_eq_some hf) hd hnumber]

/-- A delivery that is at work can decode its message, or its call of the handler can end. -/
theorem Sound.goesOn {d : Delivery} (h : q.Sound permits) (hd : d ∈ q.deliveries)
    (hphase : d.phase ≠ .backoff) :
    (∃ q', q.act (.decode d.number) = some q') ∨
      ∀ outcome, ∃ q', q.act (.finish d.number outcome) = some q' := by
  have hfound : q.delivery? d.number = some d := h.delivery?_of_mem hd
  cases hp : d.phase with
  | fresh =>
    left
    cases hdecode : d.message.decode with
    | error fault => exact ⟨_, act_eq_some_iff.mpr (.undecodable hfound hp hdecode)⟩
    | ok r => exact ⟨_, act_eq_some_iff.mpr (.called hfound hp hdecode)⟩
  | handling r => exact .inr fun outcome => ⟨_, act_eq_some_iff.mpr (acts_finish hfound hp outcome)⟩
  | backoff => exact absurd hp hphase

/-- When a call of the handler ends a permit is given back, and the dispatcher stays where it is. -/
theorem finish_eq {n : Nat} {outcome : HandlerOutcome} (ha : q.act (.finish n outcome) = some q') :
    q'.free = q.free + 1 ∧ q'.received = q.received := by
  cases acts_of_act ha with
  | _ => exact ⟨rfl, rfl⟩

/-- What the sum of the permits means for the dispatcher and the deliveries. -/
theorem Sound.allots (h : q.Sound permits) (hpos : 0 < permits) : q.Allots permits where
  sum := h.sum
  running_le := by
    have hsum := h.sum
    omega
  blocked hb := by
    obtain ⟨hacquiring, hfree⟩ := hb.acquiring h
    have hsum := h.sum
    simp only [received, hacquiring, hfree] at hsum
    simp at hsum
    exact ⟨hsum, hpos⟩
  goesOn _ hd hphase := h.goesOn hd hphase
  finish n outcome q' ha := by
    obtain ⟨hfree, hreceived⟩ := finish_eq ha
    have hsum := h.sum
    have hsum' := (h.act ha).sum
    omega
  unblocked hb a q' ha hless := by
    have hacquiring := hb.stays h ha
    have hsum := h.sum
    have hsum' := (h.act ha).sum
    have hreceived : q'.received = 0 := by
      rw [received, hacquiring]
      rfl
    have hfree : 0 < q'.free := by omega
    exact ⟨_, act_eq_some_iff.mpr (.takePermit hacquiring hfree)⟩

end Queue

namespace Course

variable {c c' : Course} {i : Nat} {q : Queue}

/-- The number of permits is that of the bus from the start. -/
theorem Step.concurrency (step : Step c c') : c'.bus.concurrency = c.bus.concurrency := by
  cases step with
  | subscribe hs =>
    obtain rfl := Bus.eq_of_subscribe hs
    rfl
  | publish topic body => rfl
  | shutdown => rfl
  | act ha =>
    obtain ⟨q, q', -, -, rfl⟩ := act_eq ha
    rfl

theorem Reaches.concurrency (h : Reaches c c') : c'.bus.concurrency = c.bus.concurrency := by
  induction h with
  | refl => rfl
  | tail _ step ih => exact step.concurrency.trans ih

/-- In every run the permits of each queue are accounted for: as many as were set are free, with the
dispatcher, or with deliveries that decode their message or are in their call of the handler. When
the dispatcher is blocked they are all with such deliveries, and it can go on as soon as one of
these is at its end. -/
theorem Reaches.allotted {policy : RedeliveryPolicy} {concurrency : Nat}
    (h : Reaches (start policy concurrency) c) (hq : c.bus.queues[i]? = some q) :
    q.Allots (max concurrency 1) := by
  obtain ⟨l, -, hkeeps⟩ := h.sound.exists_log hq
  have hconcurrency : c.bus.concurrency = concurrency := h.concurrency
  have hsound := hkeeps.sound
  rw [hconcurrency] at hsound
  exact hsound.allots (Nat.lt_of_lt_of_le Nat.one_pos (Nat.le_max_right _ _))

/-! ### A delivery that waits beside one that is at work -/

/-- A queue with one permit, to which three events have been published. -/
def threePublished : Course :=
  let queue := Queue.subscribed "t" "q" "h" ⟨1, 10, 20⟩ 1
  let empty : Course := ⟨{ policy := ⟨1, 10, 20⟩, concurrency := 0, queues := [queue] }, [{}]⟩
  ((empty.publish "t" (Report.encode ⟨"http://[::1]/"⟩)).publish "t"
    (Report.encode ⟨"http://[::2]/"⟩)).publish "t" (Report.encode ⟨"http://[::3]/"⟩)

/-- The first event waits to be put back, and the handler has been called with the second one. -/
def backoffBeside : Course :=
  (threePublished.play ([.takePermit, .receive, .decode 0, .finish 0 (.failed .redeliver),
    .takePermit, .receive, .decode 1].map (0, ·))).getD threePublished

/-- The third event waits for the handler alone, and not for the first event to be put back. -/
theorem allotted_backoffBeside :
    Reaches (start ⟨1, 10, 20⟩ 0) backoffBeside ∧
      ∃ q, backoffBeside.bus.queues[0]? = some q ∧ q.deliveries.length = 2 ∧ q.Blocked ∧
        q.decoding + q.running = 1 ∧ q.Allots (max 0 1) := by
  have hplay : threePublished.play ([.takePermit, .receive, .decode 0,
      .finish 0 (.failed .redeliver), .takePermit, .receive, .decode 1].map (0, ·)) =
      some backoffBeside := by
    decide +kernel
  have hreach : Reaches (start ⟨1, 10, 20⟩ 0) backoffBeside :=
    .trans (.tail (.tail (.tail (.single (.subscribe rfl)) (.publish _ _)) (.publish _ _))
      (.publish _ _)) (reaches_play hplay)
  obtain ⟨q, hq⟩ : ∃ q, backoffBeside.bus.queues[0]? = some q :=
    Option.isSome_iff_exists.mp (by decide +kernel)
  have hallots : q.Allots (max 0 1) := Reaches.allotted hreach hq
  have hstate : (backoffBeside.bus.queues[0]?).map (fun q => (q.deliveries.length,
      q.waiting.length, [.takePermit, .receive, .stop].map fun a => (q.act a).isSome)) =
      some (2, 1, [false, false, false]) := by
    decide +kernel
  rw [hq, Option.map_some, Option.some.injEq] at hstate
  simp only [List.map_cons, List.map_nil, Prod.mk.injEq, List.cons.injEq, and_true,
    Option.isSome_eq_false_iff, Option.isNone_iff_eq_none] at hstate
  obtain ⟨hdeliveries, hwaiting, htake, hreceive, hstop⟩ := hstate
  have hblocked : q.Blocked := by
    refine ⟨fun hnil => ?_, htake, hreceive, hstop⟩
    rw [hnil] at hwaiting
    cases hwaiting
  exact ⟨hreach, q, hq, hdeliveries, hblocked, (hallots.blocked hblocked).1, hallots⟩

end Course

end HostWatch
