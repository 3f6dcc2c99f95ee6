import HostWatch.Proofs.Decision.Scene

/-!
# What a decision has done

The record of a run, cut down to one task, is the history of that task's decision:
`calls`. `Stage.Past` says for each stage which calls a decision has made when it
stands there, and with which answers; `Reaches.past` proves it for all decisions of
all runs. So where a decision stands tells what it has read and written, whatever the
other decisions did in between.
-/

namespace HostWatch

/-- The hostname of a URL, if it names a host. -/
def hostname? (url : String) : Option String :=
  (Target.parse url).toOption.map Target.hostname

theorem hostname?_of_parse {url : String} {t : Target} (h : Target.parse url = .ok t) :
    hostname? url = some t.hostname := by
  rw [hostname?, h]
  rfl

/-- The hostname that the decision of a task is about. -/
def hostOf (urls : List String) (task : Nat) : Option String :=
  urls[task]?.bind hostname?

/-! ### The calls of a task -/

/-- The calls of a task and their answers, in their order. -/
def calls (task : Nat) (replies : List (Nat × Reply)) : List Reply :=
  replies.filterMap fun e => if e.1 = task then some e.2 else none

theorem calls_append (task : Nat) (rs rs' : List (Nat × Reply)) :
    calls task (rs ++ rs') = calls task rs ++ calls task rs' := List.filterMap_append

@[simp] theorem calls_map_self (task : Nat) (r : Option Reply) :
    calls task (r.toList.map (task, ·)) = r.toList := by
  cases r with
  | none => rfl
  | some r => exact List.filterMap_cons_some (if_pos rfl)

theorem calls_map_of_ne {task k : Nat} (h : k ≠ task) (r : Option Reply) :
    calls k (r.toList.map (task, ·)) = [] := by
  cases r with
  | none => rfl
  | some r => exact List.filterMap_cons_none (if_neg h.symm)

theorem mem_calls {task : Nat} {r : Reply} {replies : List (Nat × Reply)} :
    r ∈ calls task replies ↔ (task, r) ∈ replies := by
  rw [calls, List.mem_filterMap]
  constructor
  · rintro ⟨⟨k, r'⟩, hmem, h⟩
    split at h
    · next hk =>
      cases h
      cases hk
      exact hmem
    · cases h
  · intro h
    exact ⟨_, h, if_pos rfl⟩

/-- The calls of one decision are counted in the record. -/
theorem countP_calls (task : Nat) (replies : List (Nat × Reply)) (f : Reply → Bool) :
    (calls task replies).countP f = replies.countP fun e => decide (e.1 = task) && f e.2 := by
  rw [calls, List.countP_filterMap]
  refine List.countP_congr fun e _ => ?_
  by_cases he : e.1 = task <;> simp [he]

/-! ### The history of a counting -/

/-- The threshold that a call brings. -/
def Reply.threshold? : Reply → Option Int64
  | .configRead key a => if key = thresholdKey then (Threshold.ofAnswer a).toOption else none
  | _ => none

/-- The number that a call brings from a counter. -/
def Reply.counter? : Reply → Option Int64
  | .counterRead _ a => a.toOption
  | _ => none

/-- The number that a call stores in the counter of a hostname. -/
def Reply.stored? (host : String) : Reply → Option Int64
  | .counterWritten key n _ (.ok ()) => if key = host then some n else none
  | _ => none

/-- The count that a decision reports. -/
def Decision.count? : Decision → Option Int64
  | .notConfirmed _ => none
  | .watched n _ => some n
  | .blacklisted n => some n
  | .alreadyListed n => some n

/-- The count that a decision is to write. -/
def Update.pending? : Update → Option Int64
  | .rereadList n => some n
  | .writeList n _ => some n
  | .writeCounter n _ => some n
  | _ => none

/-- A count that is to be written was to be written before, or is one more than the number just
read. -/
theorem Update.Goes.pending {host : String} {u u' : Update} {r : Reply} {n : Int64}
    (h : u.Goes host r u') (hn : u'.pending? = some n) :
    u.pending? = some n ∨ ∃ m, r = .counterRead host (.ok m) ∧ nextCount? m = some n := by
  cases h with
  | below hm _ | reached hm _ => cases hn; exact .inr ⟨_, rfl, hm⟩
  | listed _ _ | unlisted _ _ | appended => cases hn; exact .inl rfl
  | _ => cases hn

/-- `After host rs u`: the counting has made calls with the answers `rs`, and stands at `u`. -/
inductive Update.After (host : String) : List Reply → Update → Prop where
  /-- No call has been made. -/
  | start : After host [] .readThreshold
  /-- One more call has been made. -/
  | goes {rs u r u'} : After host rs u → u.Goes host r u' → After host (rs ++ [r]) u'

namespace Update.After

variable {host : String} {rs : List Reply} {n : Int64}

theorem readCounter {t : Int64} (h : After host rs (.readCounter t)) :
    ∃ a, Threshold.ofAnswer a = .ok t ∧ rs = [.configRead thresholdKey a] := by
  obtain _ | ⟨h, hgo⟩ := h
  cases hgo with
  | threshold ha =>
    obtain _ | ⟨h, hgo⟩ := h
    · exact ⟨_, ha, rfl⟩
    · cases hgo

/-- What was read before the threshold was found reached. -/
theorem rereadList (h : After host rs (.rereadList n)) :
    ∃ a t m, Threshold.ofAnswer a = .ok t ∧ nextCount? m = some n ∧ ¬ n < t ∧
      rs = [.configRead thresholdKey a, .counterRead host (.ok m)] := by
  obtain _ | ⟨h, hgo⟩ := h
  cases hgo with
  | reached hn ht =>
    obtain ⟨a, ha, rfl⟩ := h.readCounter
    exact ⟨a, _, _, ha, hn, ht, rfl⟩

/-- What was read before the hostname is appended. -/
theorem writeList {l : ForbiddenList} (h : After host rs (.writeList n l)) :
    ∃ a t m b, Threshold.ofAnswer a = .ok t ∧ nextCount? m = some n ∧ ¬ n < t ∧
      ForbiddenList.ofAnswer b = .ok l ∧ ¬ ForbiddenList.Listed l host ∧
      rs = [.configRead thresholdKey a, .counterRead host (.ok m), .configRead forbiddenKey b] := by
  obtain _ | ⟨h, hgo⟩ := h
  cases hgo with
  | unlisted hl hhost =>
    obtain ⟨a, t, m, ha, hn, ht, rfl⟩ := h.rereadList
    exact ⟨a, t, m, _, ha, hn, ht, hl, hhost, rfl⟩

/-- A hostname is listed by a decision that has appended it. -/
theorem blacklisted (h : After host rs (.done (.ok (.blacklisted n)))) :
    ∃ l, .configWritten forbiddenKey (ForbiddenList.encode (l ++ [host])) (.ok ()) ∈ rs := by
  obtain _ | ⟨h, hgo⟩ := h
  cases hgo with
  | counted =>
    obtain _ | ⟨h, hgo⟩ := h
    cases hgo with
    | @appended _ l =>
      refine ⟨l, List.mem_append_left _ ?_⟩
      exact List.mem_append_right _ (List.mem_singleton_self _)

/-- The decision that stands when the counter is written reports the number that is written. -/
theorem count?_eq {d : Decision} (h : After host rs (.writeCounter n d)) : d.count? = some n := by
  obtain _ | ⟨-, hgo⟩ := h
  cases hgo with
  | _ => rfl

end Update.After

/-! ### The history of a decision -/

namespace Stage

/-- The report of a URL was decided without counting. -/
inductive Early (url : String) : Verdict → List Reply → Prop where
  /-- The URL names no host. -/
  | malformed {e} : Target.parse url = .error e → Early url (.error e) []
  /-- The list could not be read. -/
  | noList {t a e} : Target.parse url = .ok t → ForbiddenList.ofAnswer a = .error e →
      Early url (.error (.config e)) [.configRead forbiddenKey a]
  /-- The hostname was listed. -/
  | listed {t a l} : Target.parse url = .ok t → ForbiddenList.ofAnswer a = .ok l →
      ForbiddenList.Listed l t.hostname →
      Early url (.error (.alreadyListed t.hostname)) [.configRead forbiddenKey a]
  /-- The timeout was not confirmed. -/
  | notConfirmed {t a l r} : Target.parse url = .ok t → ForbiddenList.ofAnswer a = .ok l →
      ¬ ForbiddenList.Listed l t.hostname → r.outcome ≠ .timedOut →
      Early url (.ok (.notConfirmed r.outcome)) [.configRead forbiddenKey a, .probed t.origin r]

/-- The hostname of a URL was looked up and not listed. -/
def LookedUp (url : String) (t : Target) (rs : List Reply) : Prop :=
  Target.parse url = .ok t ∧ ∃ a l, ForbiddenList.ofAnswer a = .ok l ∧
    ¬ ForbiddenList.Listed l t.hostname ∧ rs = [.configRead forbiddenKey a]

/-- After the look-up the origin of a URL was probed, and the timeout was confirmed. -/
def Confirmed (url host : String) (rs : List Reply) : Prop :=
  ∃ t before r, LookedUp url t before ∧ t.hostname = host ∧ r.outcome = .timedOut ∧
    rs = before ++ [.probed t.origin r]

/-- The timeout was confirmed, and its counting stands at `u`. -/
def Counting (url host : String) (u : Update) (rs : List Reply) : Prop :=
  ∃ before us, Confirmed url host before ∧ u.After host us ∧ rs = before ++ us

/-- `g.Past url rs`: a decision on the report of a URL that stands at `g` has made calls with the
answers `rs`. -/
def Past (url : String) : Stage → List Reply → Prop
  | .received u, rs => u = url ∧ rs = []
  | .readList t, rs => Target.parse url = .ok t ∧ rs = []
  | .probe t, rs => LookedUp url t rs
  | .enter host, rs => Confirmed url host rs
  | .acquire host _, rs => Confirmed url host rs
  | .updating host _ u, rs => Counting url host u rs
  | .released host _ v, rs => Counting url host (.done v) rs
  | .dropped host v, rs => Counting url host (.done v) rs
  | .done v, rs => Early url v rs ∨ ∃ host, Counting url host (.done v) rs

/-- The hostname with which a decision works. -/
def host? : Stage → Option String
  | .received _ => none
  | .readList t => some t.hostname
  | .probe t => some t.hostname
  | .enter host => some host
  | .acquire host _ => some host
  | .updating host _ _ => some host
  | .released host _ _ => some host
  | .dropped host _ => some host
  | .done _ => none

variable {url host : String} {rs : List Reply} {g : Stage}

theorem LookedUp.hostname {t : Target} (h : LookedUp url t rs) :
    hostname? url = some t.hostname := hostname?_of_parse h.1

theorem Confirmed.hostname (h : Confirmed url host rs) : hostname? url = some host := by
  obtain ⟨t, before, r, hlook, rfl, -, -⟩ := h
  exact hlook.hostname

theorem Counting.hostname {u : Update} (h : Counting url host u rs) :
    hostname? url = some host := by
  obtain ⟨before, us, hconf, -, -⟩ := h
  exact hconf.hostname

/-- All calls of a decision that is about to append its hostname. -/
theorem Counting.writeList {n : Int64} {l : ForbiddenList}
    (h : Counting url host (.writeList n l) rs) :
    ∃ looked origin r a t m b, Threshold.ofAnswer a = .ok t ∧ nextCount? m = some n ∧ ¬ n < t ∧
      ForbiddenList.ofAnswer b = .ok l ∧ ¬ ForbiddenList.Listed l host ∧
      rs = [.configRead forbiddenKey looked, .probed origin r, .configRead thresholdKey a,
        .counterRead host (.ok m), .configRead forbiddenKey b] := by
  obtain ⟨before, us, hconf, hus, rfl⟩ := h
  obtain ⟨target, _, r, ⟨-, looked, _, -, -, rfl⟩, -, -, rfl⟩ := hconf
  obtain ⟨a, t, m, b, ha, hn, hreach, hl, hhost, rfl⟩ := hus.writeList
  exact ⟨looked, target.origin, r, a, t, m, b, ha, hn, hreach, hl, hhost, rfl⟩

/-- A decision works with the hostname of its report. -/
theorem Past.hostname (h : g.Past url rs) (hg : g.host? = some host) :
    hostname? url = some host := by
  cases g with
  | received u => cases hg
  | readList t => cases hg; exact hostname?_of_parse h.1
  | probe t => cases hg; exact h.hostname
  | enter host => cases hg; exact Confirmed.hostname h
  | acquire host lock => cases hg; exact Confirmed.hostname h
  | updating host lock u => cases hg; exact Counting.hostname h
  | released host lock v => cases hg; exact Counting.hostname h
  | dropped host v => cases hg; exact Counting.hostname h
  | done v => cases hg

/-- A move makes one more call, or none. -/
theorem Past.goes {guard : Settings.Guard} {task : Nat} {g' : Stage} {ls ls' : Locks}
    {r : Option Reply} (h : g.Past url rs) (hgo : g.Goes guard task ls r g' ls') :
    g'.Past url (rs ++ r.toList) := by
  cases hgo with
  | parsed ht =>
    obtain ⟨rfl, rfl⟩ := h
    exact ⟨ht, rfl⟩
  | malformed ht =>
    obtain ⟨rfl, rfl⟩ := h
    exact .inl (.malformed ht)
  | unlisted hl hhost =>
    obtain ⟨ht, rfl⟩ := h
    exact ⟨ht, _, _, hl, hhost, rfl⟩
  | listed hl hhost =>
    obtain ⟨ht, rfl⟩ := h
    exact .inl (.listed ht hl hhost)
  | noList hl =>
    obtain ⟨ht, rfl⟩ := h
    exact .inl (.noList ht hl)
  | unguarded _ hr =>
    exact ⟨_, [], ⟨_, rs, _, h, rfl, hr, rfl⟩, .start, (List.append_nil _).symm⟩
  | guarded _ hr => exact ⟨_, rs, _, h, rfl, hr, rfl⟩
  | notConfirmed hr =>
    obtain ⟨ht, a, l, hl, hhost, rfl⟩ := h
    exact .inl (.notConfirmed ht hl hhost hr)
  | entered | waits _ => rw [Option.toList_none, List.append_nil]; exact h
  | acquired _ => exact ⟨rs, [], h, .start, rfl⟩
  | updates hu =>
    obtain ⟨before, us, hconf, hpast, rfl⟩ := h
    exact ⟨before, us ++ [_], hconf, hpast.goes hu, List.append_assoc _ _ _⟩
  | ended | removed =>
    rw [Option.toList_none, List.append_nil]
    exact .inr ⟨_, h⟩
  | released | dropped | rests => rw [Option.toList_none, List.append_nil]; exact h

end Stage

/-! ### Runs -/

namespace Scene

/-- Every decision has made the calls that lead to where it stands. -/
structure Traced (guard : Settings.Guard) (urls : List String) (z : Scene) : Prop where
  /-- The guard is as it was set. -/
  guard : z.engine.guard = guard
  /-- Each task has its report and its past. -/
  past : ∀ {k : Nat} {g}, z.engine.tasks[k]? = some g →
    ∃ url, urls[k]? = some url ∧ g.Past url (calls k z.replies)

variable {guard : Settings.Guard} {urls : List String} {z z' : Scene}

theorem traced_start (guard : Settings.Guard) (urls : List String) (s : Shared) :
    (start guard urls s).Traced guard urls where
  guard := rfl
  past h := by
    obtain ⟨url, hurl, rfl⟩ := of_tasks_start h
    exact ⟨url, hurl, rfl, rfl⟩

theorem Traced.moves {x : Conditions} {task : Nat} {g g' : Stage} {r : Option Reply}
    (h : z.Traced guard urls) (m : Moves x task g r g' z z') : z'.Traced guard urls where
  guard := m.guard.trans h.guard
  past {k f} hk := by
    rw [m.replies, calls_append]
    rcases m.cases_tasks hk with ⟨rfl, rfl⟩ | ⟨hne, hk⟩
    · obtain ⟨url, hurl, hpast⟩ := h.past m.before
      rw [calls_map_self]
      exact ⟨url, hurl, hpast.goes m.goes⟩
    · rw [calls_map_of_ne hne, List.append_nil]
      exact h.past hk

theorem Traced.others {t : Shared} (h : z.Traced guard urls) : (z.put t).Traced guard urls :=
  ⟨h.guard, h.past⟩

/-- A decision that has listed its hostname has appended it to some list. -/
theorem Traced.blacklisted {k : Nat} {host : String} {n : Int64} (h : z.Traced guard urls)
    (hk : z.decision? k = some (.blacklisted n)) (hhost : HostWatch.hostOf urls k = some host) :
    ∃ l, (k, .configWritten forbiddenKey (ForbiddenList.encode (l ++ [host])) (.ok ())) ∈
      z.replies := by
  obtain ⟨v, hv, hd⟩ := Option.bind_eq_some_iff.mp hk
  obtain ⟨g, hg, hgv⟩ := Option.bind_eq_some_iff.mp hv
  obtain ⟨url, hurl, hpast⟩ := h.past hg
  cases g with
  | done v =>
    cases hgv
    cases v with
    | error e => cases hd
    | ok d =>
      cases hd
      rcases hpast with hearly | ⟨key, hcounting⟩
      · cases hearly
      · have hkey := hcounting.hostname
        rw [HostWatch.hostOf, hurl, Option.bind_some, hkey, Option.some.injEq] at hhost
        subst hhost
        obtain ⟨before, us, -, hus, hcalls⟩ := hcounting
        obtain ⟨l, hl⟩ := hus.blacklisted
        exact ⟨l, mem_calls.mp (hcalls ▸ List.mem_append_right _ hl)⟩
  | _ => cases hgv

/-- In every run every decision has made the calls that lead to where it stands. -/
theorem Reaches.traced {rules : Rules} {s : Shared} (h : Reaches rules (start guard urls s) z) :
    z.Traced guard urls :=
  h.invariant (Traced guard urls) (traced_start guard urls s) (fun _ hy _ m => hy.moves m)
    (fun hy _ => hy.others)

/-- A decision works with the hostname that its task is about. -/
theorem Traced.hostOf {k : Nat} {g : Stage} {host : String} (h : z.Traced guard urls)
    (hk : z.engine.tasks[k]? = some g) (hg : g.host? = some host) :
    hostOf urls k = some host := by
  obtain ⟨url, hurl, hpast⟩ := h.past hk
  rw [HostWatch.hostOf, hurl]
  exact hpast.hostname hg

/-- The hostname with which a decision works is the one that its task is about. -/
theorem Traced.host_eq {k : Nat} {g : Stage} {host key : String} (h : z.Traced guard urls)
    (hk : z.engine.tasks[k]? = some g) (hg : g.host? = some key)
    (hhost : HostWatch.hostOf urls k = some host) : host = key :=
  Option.some.inj (hhost.symm.trans (h.hostOf hk hg))

end Scene

/-! ### Calls on record -/

/-- Every call in a record has a property together with the record up to it. -/
def Each (Q : List (Nat × Reply) → Nat → Reply → Prop) (replies : List (Nat × Reply)) : Prop :=
  ∀ before task r after, replies = before ++ (task, r) :: after → Q before task r

/-- The record up to a call is found by its place. -/
theorem each_iff {Q : List (Nat × Reply) → Nat → Reply → Prop} {replies : List (Nat × Reply)} :
    Each Q replies ↔
      ∀ i, ∀ hi : i < replies.length, Q (replies.take i) replies[i].1 replies[i].2 := by
  constructor
  · intro h i hi
    refine h _ _ _ (replies.drop (i + 1)) ?_
    change replies = replies.take i ++ replies[i] :: replies.drop (i + 1)
    rw [← List.drop_eq_getElem_cons hi, List.take_append_drop]
  · rintro h before task r after rfl
    have hi := h before.length (by rw [List.length_append, List.length_cons]; omega)
    rw [List.take_left' rfl, List.getElem_append_right (Nat.le_refl _)] at hi
    simpa using hi

/-- Whether every call has a property is decided if that is so for one call. -/
instance {Q : List (Nat × Reply) → Nat → Reply → Prop}
    [∀ before task r, Decidable (Q before task r)] (replies : List (Nat × Reply)) :
    Decidable (Each Q replies) :=
  decidable_of_iff _ each_iff.symm

namespace Scene

variable {rules : Rules} {z z' : Scene}

/-- A call that a run puts on record was made in one of its steps. -/
theorem Reaches.made (h : Reaches rules z z') {before after : List (Nat × Reply)} {task : Nat}
    {r : Reply} (heq : z'.replies = before ++ (task, r) :: after)
    (hlen : z.replies.length ≤ before.length) :
    ∃ x g g' y, Reaches rules z y ∧ y.replies = before ∧ rules.may x ∧
      Moves x task g (some r) g' y (y.step x task) ∧ Reaches rules (y.step x task) z' := by
  induction h generalizing after with
  | refl =>
    rw [heq, List.length_append, List.length_cons] at hlen
    omega
  | @tail w v hw step ih =>
    have later : ∀ {after'}, w.replies = before ++ (task, r) :: after' →
        ∃ x g g' y, Reaches rules z y ∧ y.replies = before ∧ rules.may x ∧
          Moves x task g (some r) g' y (y.step x task) ∧ Reaches rules (y.step x task) v := by
      intro after' hw'
      obtain ⟨x, g, g', y, hy, hbefore, hx, m, hy'⟩ := ih hw'
      exact ⟨x, g, g', y, hy, hbefore, hx, m, hy'.tail step⟩
    cases step with
    | @task x k hx =>
      rcases w.step_eq_or_moves x k with hsame | ⟨g, r', g', m⟩
      · rw [hsame] at heq
        exact later heq
      · have hrec := m.replies
        rw [heq] at hrec
        cases r' with
        | none =>
          rw [Option.toList_none, List.map_nil, List.append_nil] at hrec
          exact later hrec.symm
        | some r' =>
          rcases List.eq_nil_or_concat after with rfl | ⟨after, e, rfl⟩
          · -- it is the call of the last step
            obtain ⟨hbefore, hlast⟩ := List.append_inj' hrec rfl
            cases hlast
            exact ⟨x, g, g', w, hw, hbefore.symm, hx, m, .refl⟩
          · rw [List.concat_eq_append, ← List.cons_append, ← List.append_assoc] at hrec
            exact later (List.append_inj' hrec rfl).1.symm
    | others _ => exact later heq

/-- What holds of every call when it is made holds of all calls of a run. -/
theorem Reaches.each {guard : Settings.Guard} {urls : List String} {s : Shared}
    {Q : List (Nat × Reply) → Nat → Reply → Prop} (h : Reaches rules (start guard urls s) z)
    (hQ : ∀ {x task g r g' y y'}, Reaches rules (start guard urls s) y →
      Moves x task g (some r) g' y y' → Q y.replies task r) : Each Q z.replies := by
  intro before task r after heq
  obtain ⟨x, g, g', y, hy, rfl, -, m, -⟩ := h.made heq (Nat.zero_le _)
  exact hQ hy m

end Scene

end HostWatch
