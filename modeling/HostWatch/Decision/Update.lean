import HostWatch.Decision.Basic

/-!
# Counting a confirmed timeout

After a probe has confirmed a timeout, the threshold is read, the counter is read and
counted up, and below the threshold it is written back. From the threshold on, the
list is read once more, the hostname is appended unless it is listed by now, and only
then the counter is written: a stored counter never reaches the threshold ahead of
the list. The first call that fails is the last one.

`Update` names the points between two calls, and `Update.step` makes the next call.
-/

namespace HostWatch

/-- Where the counting of a confirmed timeout stands. -/
inductive Update where
  /-- About to read the threshold. -/
  | readThreshold
  /-- About to read the counter. -/
  | readCounter (threshold : Int64)
  /-- About to read the list for the second time. -/
  | rereadList (count : Int64)
  /-- About to append the hostname to the list just read. -/
  | writeList (count : Int64) (list : ForbiddenList)
  /-- About to write the counter, with the decision that then stands. -/
  | writeCounter (count : Int64) (decision : Decision)
  /-- At the end. -/
  | done (verdict : Verdict)
  deriving Repr

namespace Update

/-- What follows when the counter and the threshold are known. -/
def weigh (host : String) (threshold : Int64) : Except CounterError Int64 → Update
  | .error e => .done (.error (.counters e))
  | .ok n =>
    match nextCount? n with
    | none => .done (.error (.counters (.overflow host)))
    | some count =>
      if count < threshold then .writeCounter count (.watched count threshold)
      else .rereadList count

/-- What follows when the list is known again. -/
def checkList (host : String) (count : Int64) : Except ConfigError ForbiddenList → Update
  | .error e => .done (.error (.config e))
  | .ok list =>
    if ForbiddenList.Listed list host then .writeCounter count (.alreadyListed count)
    else .writeList count list

/-- Make the next call and go on with its answer. -/
def step {σ : Type} (c : Collaborators σ) (host : String) (u : Update) (w : World σ) :
    Update × World σ :=
  match u with
  | .readThreshold =>
    let (answer, s) := c.config.readThreshold w.state
    (match answer with
      | .ok t => .readCounter t
      | .error e => .done (.error (.config e)), { w with state := s })
  | .readCounter threshold =>
    let (answer, s) := c.counters.get host w.state
    (weigh host threshold answer, { w with state := s })
  | .rereadList count =>
    let (answer, s) := c.config.readList w.state
    (checkList host count answer, { w with state := s })
  | .writeList count list =>
    let longer := list ++ [host]
    match c.config.writeList longer w.state with
    | (.ok (), s) =>
      (.writeCounter count (.blacklisted count), ⟨s, w.metrics.promote longer.length⟩)
    | (.error e, s) => (.done (.error (.config e)), { w with state := s })
  | .writeCounter count decision =>
    let (answer, s) := c.counters.set host count .unlimited w.state
    (match answer with
      | .ok () => .done (.ok decision)
      | .error e => .done (.error (.counters e)), { w with state := s })
  | .done verdict => (.done verdict, w)

/-- How many steps are left at most. -/
def rank : Update → Nat
  | .readThreshold => 5
  | .readCounter _ => 4
  | .rereadList _ => 3
  | .writeList _ _ => 2
  | .writeCounter _ _ => 1
  | .done _ => 0

/-- Every step comes nearer to the end. -/
theorem rank_step_lt {σ : Type} (c : Collaborators σ) (host : String) (u : Update) (w : World σ)
    (h : 0 < u.rank) : (u.step c host w).1.rank < u.rank := by
  cases u with
  | readThreshold => simp only [step]; split <;> simp [rank]
  | readCounter t =>
    simp only [step, weigh]
    split
    · simp [rank]
    · split
      · simp [rank]
      · split <;> simp [rank]
  | rereadList n =>
    simp only [step, checkList]
    split
    · simp [rank]
    · split <;> simp [rank]
  | writeList n l => simp only [step]; split <;> simp [rank]
  | writeCounter n d => simp only [step]; split <;> simp [rank]
  | done v => simp [rank] at h

end Update

end HostWatch
