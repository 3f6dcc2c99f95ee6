import HostWatch.Proofs.Decision.History

/-!
# The calls that took effect

The record of a scene has the calls as the decisions saw them. It does not tell whether a write
that failed has changed the stores: it may have been refused, or it had its effect and the answer
was lost. What befalls a call is said by its conditions, so a run knows what the record does not:
`Scene.Run` is a run together with those of its calls that took effect. Every run has such a list of
calls (`reaches_iff_run`), and a write that was answered is always among them (`Run.mem_of_answered`).
-/

namespace HostWatch

/-- Whether a call comes to the store at all. -/
def Fate.arrives {ε : Type} : Fate ε → Bool
  | .refused _ => false
  | _ => true

namespace Conditions

/-- Whether a call takes effect: a write does if it is not refused and the store can be written. -/
def takesEffect (x : Conditions) (s : Shared) : Reply → Bool
  | .configWritten key value _ => x.writes.arrives && (s.config.set key value).isOk
  | .counterWritten host count life _ =>
    x.counters.arrives && (s.counters.set x.now host count life).isOk
  | _ => true

/-- The call of a step, if one is made and takes effect. -/
def effect? (x : Conditions) (s : Shared) (r : Option Reply) : Option Reply :=
  r.filter (x.takesEffect s)

variable {x : Conditions} {s s' : Shared} {key : String} {value : Bytes}
  {a : Except ConfigError Unit}

theorem eq_some_of_effect? {r : Option Reply} {q : Reply} (h : x.effect? s r = some q) :
    r = some q :=
  (Option.mem_filter_iff.mp h).1

/-- A write to the configuration that takes effect is what changes it. -/
theorem set_of_takesEffect (h : x.collaborators.Gives s (.configWritten key value a) s')
    (heffect : x.takesEffect s (.configWritten key value a) = true) :
    s.config.set key value = .ok s'.config := by
  obtain ⟨-, rfl⟩ := Prod.mk.inj h
  obtain ⟨harrives, hstored⟩ := Bool.and_eq_true_iff.mp heffect
  simp only
  cases hset : s.config.set key value with
  | error e =>
    rw [hset] at hstored
    cases hstored
  | ok t =>
    cases hfate : x.writes with
    | refused e =>
      rw [hfate] at harrives
      cases harrives
    | answered | lost _ => rfl

/-- A write to the configuration without effect fails and leaves it as it was. -/
theorem config_of_not_takesEffect (h : x.collaborators.Gives s (.configWritten key value a) s')
    (heffect : x.takesEffect s (.configWritten key value a) = false) :
    s'.config = s.config ∧ a ≠ .ok () := by
  obtain ⟨rfl, rfl⟩ := Prod.mk.inj h
  rw [takesEffect, Bool.and_eq_false_iff] at heffect
  simp only
  cases hset : s.config.set key value with
  | error e =>
    refine ⟨(x.writes.after_eq s.config s.config).elim id id, fun hok => ?_⟩
    cases Fate.seen_eq_ok hok
  | ok t =>
    cases hfate : x.writes with
    | refused e => exact ⟨rfl, fun hok => by cases hok⟩
    | answered | lost _ =>
      rw [hset, hfate] at heffect
      rcases heffect with harrives | hstored
      · cases harrives
      · cases hstored

/-- A write to the configuration that is answered takes effect. -/
theorem takesEffect_of_answered (h : x.collaborators.Gives s (.configWritten key value (.ok ())) s') :
    x.takesEffect s (.configWritten key value (.ok ())) = true := by
  by_contra hvain
  exact (config_of_not_takesEffect h (Bool.eq_false_iff.mpr hvain)).2 rfl

end Conditions

namespace Scene

/-- The call that a step puts on record, if it takes effect. -/
def effects (x : Conditions) (task : Nat) (z : Scene) : List (Nat × Reply) :=
  ((z.step x task).replies.drop z.replies.length).filter fun e => x.takesEffect z.shared e.2

/-- `Run rules z log z'`: a run leads from `z` to `z'`, and `log` are its calls that took effect, in
their order. -/
inductive Run (rules : Rules) (z : Scene) : List (Nat × Reply) → Scene → Prop where
  /-- Nothing has happened. -/
  | refl : Run rules z [] z
  /-- A decision takes a step. -/
  | task {log y x} (task : Nat) : Run rules z log y → rules.may x →
      Run rules z (log ++ y.effects x task) (y.step x task)
  /-- Somebody else changes the stores. -/
  | others {log y s} : Run rules z log y → rules.others y.shared s → Run rules z log (y.put s)

variable {rules : Rules} {x : Conditions} {task : Nat} {g g' : Stage} {r : Option Reply}
  {log : List (Nat × Reply)} {z z' : Scene}

/-- What can be reached is reached by a run with its calls that took effect. -/
theorem reaches_iff_run : Reaches rules z z' ↔ ∃ log, Run rules z log z' := by
  constructor
  · intro h
    induction h with
    | refl => exact ⟨[], .refl⟩
    | tail _ step ih =>
      obtain ⟨log, hrun⟩ := ih
      cases step with
      | task k hx => exact ⟨_, hrun.task k hx⟩
      | others hs => exact ⟨log, hrun.others hs⟩
  · rintro ⟨log, h⟩
    induction h with
    | refl => exact .refl
    | task k _ hx ih => exact ih.tail (.task k hx)
    | others _ hs ih => exact ih.tail (.others hs)

theorem Run.reaches (h : Run rules z log z') : Reaches rules z z' := reaches_iff_run.mpr ⟨log, h⟩

/-- The call of a move is logged if it takes effect. -/
theorem Moves.effects (m : Moves x task g r g' z (z.step x task)) :
    z.effects x task = (x.effect? z.shared r).toList.map (task, ·) := by
  rw [Scene.effects, m.replies, List.drop_left, List.filter_map, Conditions.effect?,
    Option.toList_filter]
  rfl

/-- What every move with its effect and every change by others preserves holds at the end of a
run. -/
theorem Run.invariant (h : Run rules z log z') (Inv : List (Nat × Reply) → Scene → Prop)
    (hz : Inv [] z)
    (move : ∀ {x task g r g' log y y'}, Run rules z log y → Inv log y → rules.may x →
      Moves x task g r g' y y' →
      Inv (log ++ (x.effect? y.shared r).toList.map (task, ·)) y')
    (others : ∀ {log y s}, Inv log y → rules.others y.shared s → Inv log (y.put s)) :
    Inv log z' := by
  induction h with
  | refl => exact hz
  | @task log y x k hy hx ih =>
    rcases y.step_eq_or_moves x k with heq | ⟨g, r, g', m⟩
    · have hnone : y.effects x k = [] := by rw [Scene.effects, heq, List.drop_length]; rfl
      rw [hnone, heq, List.append_nil]
      exact ih
    · rw [m.effects]
      exact move hy ih hx m
  | others _ hs ih => exact others ih hs

/-- A write to the configuration that was answered took effect. -/
theorem Run.mem_of_answered {guard : Settings.Guard} {urls : List String} {s : Shared} {k : Nat}
    {key : String} {value : Bytes} (h : Run rules (start guard urls s) log z)
    (hmem : (k, Reply.configWritten key value (.ok ())) ∈ z.replies) :
    (k, Reply.configWritten key value (.ok ())) ∈ log := by
  refine h.invariant (fun log y => (k, Reply.configWritten key value (.ok ())) ∈ y.replies →
    (k, Reply.configWritten key value (.ok ())) ∈ log) (fun hnone => ?_) ?_ (fun hy _ => hy) hmem
  · cases hnone
  · intro x task g r g' log y y' _ hy _ m hnew
    rw [m.replies, List.mem_append] at hnew
    rcases hnew with hold | hnew
    · exact List.mem_append_left _ (hy hold)
    · refine List.mem_append_right _ ?_
      obtain ⟨reply, hreply, heq⟩ := List.mem_map.mp hnew
      obtain ⟨rfl, rfl⟩ := Prod.mk.inj heq
      obtain rfl := Option.mem_toList.mp hreply
      have heffect := Conditions.takesEffect_of_answered m.gives_some
      exact List.mem_map.mpr
        ⟨_, Option.mem_toList.mpr (Option.mem_filter_iff.mpr ⟨rfl, heffect⟩), rfl⟩

/-- The calls of a run along a schedule that take effect. -/
def playEffects : List (Conditions × Nat) → Scene → List (Nat × Reply)
  | [], _ => []
  | m :: moves, z => z.effects m.1 m.2 ++ playEffects moves (z.step m.1 m.2)

theorem Run.play {z₀ : Scene} (h : Run rules z₀ log z) (moves : List (Conditions × Nat))
    (hmay : ∀ m ∈ moves, rules.may m.1) : Run rules z₀ (log ++ playEffects moves z) (z.play moves) := by
  induction moves generalizing log z with
  | nil =>
    rw [playEffects, List.append_nil]
    exact h
  | cons m moves ih =>
    have hnext := ih (h.task m.2 (hmay m List.mem_cons_self))
      fun m hm => hmay m (List.mem_cons_of_mem _ hm)
    rw [List.append_assoc] at hnext
    exact hnext

end Scene

end HostWatch
