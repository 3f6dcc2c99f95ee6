import HostWatch.Proofs.Bus.Places

/-!
# The life of a message

A message that a queue has accepted is handed out again and again until it comes to an end.
`RedeliveryPolicy.Lives` says, for the place where it is and the number of times it has been
handed out again, with what the handler has been called and what the calls came to. Every
way from place to place keeps this (`Lives.moves`), so the number of calls follows from the
place alone, and from an end no way leads on.
-/

namespace HostWatch

namespace Message

/-- The message as it is when it has been handed out again `k` times. -/
def retry (m : Message) (k : Nat) : Message :=
  { m with attempt := UInt32.ofNat k }

theorem retry_zero {m : Message} (h : m.attempt = 0) : m.retry 0 = m := by
  rw [retry, show UInt32.ofNat 0 = m.attempt from h.symm]

@[simp] theorem id_retry (m : Message) (k : Nat) : (m.retry k).id = m.id := rfl

@[simp] theorem decode_retry (m : Message) (k : Nat) : (m.retry k).decode = m.decode := rfl

theorem again_retry (m : Message) (k : Nat) : (m.retry k).again = m.retry (k + 1) := by
  rw [again, retry, retry, UInt32.ofNat_add]
  rfl

/-- Attempts are told from each other by their numbers, as long as these fit. -/
theorem retry_inj {m : Message} {j k : Nat} (hj : j < UInt32.size) (hk : k < UInt32.size)
    (h : m.retry j = m.retry k) : j = k := by
  have hattempt := congrArg (fun m => m.attempt.toNat) h
  simp only [retry, UInt32.toNat_ofNat_of_lt' hj, UInt32.toNat_ofNat_of_lt' hk] at hattempt
  exact hattempt

end Message

namespace Place

/-- Whether the handler has been called with the message since it was handed out last. -/
def isCalled : Place → Bool
  | .handling _ | .backoff | .acked | .rejected | .dropped => true
  | .waiting | .fresh | .undecodable | .discarded => false

/-- What that call came to, if it has ended. -/
def answer? : Place → Option HandlerOutcome
  | .acked => some .taken
  | .rejected => some (.failed .reject)
  | .backoff | .dropped => some (.failed .redeliver)
  | .waiting | .fresh | .handling _ | .undecodable | .discarded => none

/-- Whether the place is one of the ends. -/
def isEnd : Place → Bool
  | .acked | .rejected | .dropped | .undecodable | .discarded => true
  | .waiting | .fresh | .handling _ | .backoff => false

end Place

namespace RedeliveryPolicy

variable {policy : RedeliveryPolicy} {m : Message} {e e' : Place × Message} {k : Nat}
  {calls : List Message} {answers : List (Message × HandlerOutcome)} {call : Option Message}
  {answer : Option HandlerOutcome}

/-- From an end no way leads on. -/
theorem Moves.not_isEnd (h : policy.Moves e call answer e') : e.1.isEnd = false := by
  cases h <;> rfl

/-- A way from place to place does not change which message it is. -/
theorem Moves.id_eq (h : policy.Moves e call answer e') : e'.2.id = e.2.id := by
  cases h <;> rfl

/-- The handler is called with the message that is on its way. -/
theorem Moves.id_call (h : policy.Moves e call answer e') {c : Message} (hc : call = some c) :
    c.id = e.2.id := by
  cases h with
  | called _ => cases hc; rfl
  | _ => cases hc

/-- An attempt is followed by another one as long as it is below the greatest number of
redeliveries. -/
theorem allows_retry (hk : k ≤ policy.maxRedeliveries.toNat) :
    policy.allows (m.retry k).attempt = true ↔ k < policy.maxRedeliveries.toNat := by
  have hattempt : (m.retry k).attempt.toNat = k := UInt32.toNat_ofNat_of_lt'
    (Nat.lt_of_le_of_lt hk policy.maxRedeliveries.toNat_lt)
  rw [allows, decide_eq_true_eq, UInt32.lt_iff_toNat_lt, hattempt]

/-- What is known of a message that is at a place after `k` redeliveries. -/
def Fits (policy : RedeliveryPolicy) (m : Message) (k : Nat) : Place → Prop
  | .waiting | .fresh | .discarded => 0 < k → ∃ r, m.decode = .ok r
  | .handling r => m.decode = .ok r
  | .backoff => (∃ r, m.decode = .ok r) ∧ k < policy.maxRedeliveries.toNat
  | .acked | .rejected => ∃ r, m.decode = .ok r
  | .dropped => (∃ r, m.decode = .ok r) ∧ k = policy.maxRedeliveries.toNat
  | .undecodable => k = 0 ∧ ∃ fault, m.decode = .error fault

/-- A message that was accepted as `m` is at `e` after `k` redeliveries; `calls` are the messages
with which the handler was called, the last one first, and `answers` what the calls came to. -/
structure Lives (policy : RedeliveryPolicy) (m : Message) (k : Nat) (e : Place × Message)
    (calls : List Message) (answers : List (Message × HandlerOutcome)) : Prop where
  /-- It is what was accepted, but for the number of the attempt. -/
  message : e.2 = m.retry k
  /-- There are not too many redeliveries. -/
  le : k ≤ policy.maxRedeliveries.toNat
  /-- The handler was called once for each attempt. -/
  calls : calls.reverse = (List.range (k + e.1.isCalled.toNat)).map m.retry
  /-- All calls before the last attempt asked for a redelivery. -/
  answers : answers = (List.range k).map (fun j => (m.retry j, .failed .redeliver)) ++
    e.1.answer?.toList.map (m.retry k, ·)
  /-- The place is one that the message can have come to. -/
  fits : policy.Fits m k e.1

namespace Lives

/-- A message that has just been accepted waits. -/
theorem accepted (policy : RedeliveryPolicy) (h : m.attempt = 0) :
    policy.Lives m 0 (.waiting, m) [] [] where
  message := (m.retry_zero h).symm
  le := Nat.zero_le _
  calls := rfl
  answers := rfl
  fits h := absurd h (Nat.lt_irrefl 0)

/-- The life of a message goes on along every way from its place. -/
theorem moves (h : policy.Lives m k e calls answers) (hm : policy.Moves e call answer e') :
    ∃ k', policy.Lives m k' e' (call.toList ++ calls)
      (answers ++ answer.toList.map (e.2, ·)) := by
  obtain ⟨p, m'⟩ := e
  obtain ⟨hmessage, hle, hcalls, hanswers, hfits⟩ := h
  obtain rfl : m' = m.retry k := hmessage
  have hnone : answers ++ [] = answers := List.append_nil answers
  cases hm with
  | begun => exact ⟨k, rfl, hle, hcalls, hnone.trans hanswers, hfits⟩
  | discarded => exact ⟨k, rfl, hle, hcalls, hnone.trans hanswers, hfits⟩
  | undecodable hdecode =>
    refine ⟨k, rfl, hle, hcalls, hnone.trans hanswers, ?_, _, hdecode⟩
    -- what was handed out again has been decoded before
    refine Nat.eq_zero_of_not_pos fun hk => ?_
    obtain ⟨r, hr⟩ := hfits hk
    rw [Message.decode_retry, hr] at hdecode
    cases hdecode
  | called hdecode =>
    refine ⟨k, rfl, hle, ?_, hnone.trans hanswers, hdecode⟩
    rw [Option.toList_some, List.singleton_append, List.reverse_cons, hcalls]
    exact (List.map_append.symm.trans (congrArg (List.map m.retry) List.range_succ.symm))
  | acked | rejected =>
    refine ⟨k, rfl, hle, hcalls, ?_, ⟨_, hfits⟩⟩
    rw [hanswers, List.append_assoc]
    rfl
  | redelivered hallows =>
    refine ⟨k, rfl, hle, hcalls, ?_, ⟨_, hfits⟩, (allows_retry hle).mp hallows⟩
    rw [hanswers, List.append_assoc]
    rfl
  | dropped hallows =>
    have hnot : ¬ k < policy.maxRedeliveries.toNat := by
      rw [← allows_retry (m := m) hle, hallows]
      exact Bool.false_ne_true
    refine ⟨k, rfl, hle, hcalls, ?_, ⟨_, hfits⟩, Nat.le_antisymm hle (Nat.not_lt.mp hnot)⟩
    rw [hanswers, List.append_assoc]
    rfl
  | putBack | lost =>
    obtain ⟨hdecodes, hlt⟩ := hfits
    refine ⟨k + 1, m.again_retry k, hlt, hcalls, ?_, fun _ => hdecodes⟩
    rw [hanswers, List.range_succ, List.map_append]
    rfl

/-- The handler has not been called more than once for each attempt that there can be. -/
theorem length_calls_le (h : policy.Lives m k e calls answers) :
    calls.length ≤ policy.maxRedeliveries.toNat + 1 := by
  have hlen := congrArg List.length h.calls
  rw [List.length_reverse, List.length_map, List.length_range] at hlen
  have hle := h.le
  have hone := Bool.toNat_le e.1.isCalled
  omega

/-- The number of an attempt fits. -/
theorem lt_size (h : policy.Lives m k e calls answers) : k < UInt32.size :=
  Nat.lt_of_le_of_lt h.le policy.maxRedeliveries.toNat_lt

/-- The handler is not called twice with the message of one attempt. -/
theorem nodup_calls (h : policy.Lives m k e calls answers) : calls.Nodup := by
  have hlt : ∀ j ∈ List.range (k + e.1.isCalled.toNat), j < UInt32.size := by
    intro j hj
    have hone := Bool.toNat_le e.1.isCalled
    have hk := h.lt_size
    rw [List.mem_range] at hj
    omega
  rw [← List.nodup_reverse, h.calls]
  exact List.Nodup.map_on (fun i hi j hj hij => Message.retry_inj (hlt i hi) (hlt j hj) hij)
    List.nodup_range

/-- What was answered are the calls in their order, from the first one on. -/
theorem answers_prefix (h : policy.Lives m k e calls answers) :
    answers.map Prod.fst <+: calls.reverse := by
  obtain ⟨p, m'⟩ := e
  have hcalls := h.calls
  rw [h.answers, hcalls, List.map_append, List.map_map, List.range_add, List.map_append]
  refine (List.prefix_append_right_inj _).mpr ?_
  cases p <;> simp [Place.answer?, Place.isCalled]

/-- With a body that is no event the handler is not called. -/
theorem calls_eq_nil {fault : Json.Fault} (h : policy.Lives m k e calls answers)
    (hdecode : m.decode = .error fault) : calls = [] := by
  have hno : ¬ ∃ r, m.decode = .ok r := by
    rintro ⟨r, hr⟩
    rw [hdecode] at hr
    cases hr
  obtain ⟨p, m'⟩ := e
  have hfits := h.fits
  have hcalls := h.calls
  have hzero : k + p.isCalled.toNat = 0 := by
    cases p with
    | waiting | fresh | discarded =>
      exact Nat.eq_zero_of_not_pos fun hk => hno (hfits hk)
    | handling r => exact absurd ⟨r, hfits⟩ hno
    | backoff | dropped => exact absurd hfits.1 hno
    | acked | rejected => exact absurd hfits hno
    | undecodable => exact hfits.1
  rw [hzero] at hcalls
  exact List.reverse_eq_nil_iff.mp hcalls

/-- At the end the handler has been called until it did not ask for a redelivery, or until none was
left. -/
theorem length_calls {r : Report} (h : policy.Lives m k e calls answers)
    (hdecode : m.decode = .ok r) (hend : e.1.isEnd = true) (hkept : e.1 ≠ .discarded) :
    calls.length = min (answers.findIdx (·.2 ≠ .failed .redeliver) + 1)
      (policy.maxRedeliveries.toNat + 1) := by
  obtain ⟨p, m'⟩ := e
  have hle := h.le
  have hfits := h.fits
  have hlen := congrArg List.length h.calls
  rw [List.length_reverse, List.length_map, List.length_range] at hlen
  have hbefore : ((List.range k).map fun j => (m.retry j, HandlerOutcome.failed .redeliver)).findIdx
      (·.2 ≠ .failed .redeliver) = k := by
    rw [List.findIdx_eq_length_of_false] <;> simp
  rw [hlen, h.answers, List.findIdx_append, hbefore]
  cases p with
  | waiting | fresh | handling _ | backoff => cases hend
  | discarded => exact absurd rfl hkept
  | undecodable =>
    obtain ⟨-, fault, hfault⟩ := hfits
    rw [hdecode] at hfault
    cases hfault
  | acked | rejected =>
    simp [Place.isCalled, Place.answer?, List.findIdx_cons]
    omega
  | dropped =>
    obtain ⟨-, rfl⟩ := hfits
    simp [Place.isCalled, Place.answer?, List.findIdx_cons]

end Lives

end RedeliveryPolicy

end HostWatch
