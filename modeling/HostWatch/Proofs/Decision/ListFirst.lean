import HostWatch.Proofs.Decision.Promotion
import HostWatch.Proofs.Decision.Undisturbed

/-!
# The list is written ahead of the counter

Reports are handled one after another, and calls may fail without effect. The process may also stop
between any two steps, and a later one goes on over the same stores (`Scene.Serial`).

A decision writes its count only when it is below the threshold or the hostname is on the list. So
a counter that is stored with the threshold or more is that of a listed hostname, in the middle of
a decision as well (`Shared.Covered`). A decision that ends in an error leaves both stores as they
were, with one exception: if its last call was the write of the counter and it had appended its
hostname, the hostname stays on the list (`Leaves`). `Scene.Serially.list_first` has both.
-/

namespace HostWatch

/-! ### Counters that have reached the threshold -/

theorem Shared.eq_of_config_of_counters {s t : Shared} (hconfig : s.config = t.config)
    (hcounters : s.counters = t.counters) : s = t := by
  obtain ⟨config, counters⟩ := s
  cases hconfig
  cases hcounters
  rfl

/-- A hostname is on the list that is stored. -/
def Shared.Lists (s : Shared) (host : String) : Prop :=
  ∃ l, s.config.forbidden = .ok l ∧ ForbiddenList.Listed l host

/-- From an instant on, every counter that is stored with the threshold or more is that of a
hostname on the list. -/
def Shared.Covered (since : Nat) (T : Int64) (s : Shared) : Prop :=
  ∀ now host text n, since ≤ now → s.counters.getText? now host = some text →
    CounterStore.parse? text = some n → T ≤ n → s.Lists host

/-- A write to the configuration that fails without effect changes nothing. -/
theorem Conditions.configWritten_error {x : Conditions} {s s' : Shared} {key : String}
    {value : Bytes} {e : ConfigError}
    (h : x.collaborators.Gives s (.configWritten key value (.error e)) s')
    (hx : x.writes.IsPlain) : s' = s := by
  obtain ⟨ha, rfl⟩ := Prod.mk.inj h
  cases hfate : x.writes with
  | lost e' => exact absurd hfate (hx e')
  | refused e' => rfl
  | answered =>
    rw [hfate] at ha
    cases hset : s.config.set key value with
    | ok t =>
      rw [hset] at ha
      cases ha
    | error e' => rfl

/-- Calls are made from an instant on, those that fail have no effect, and no reading of the list
fails by saying that it was never written. -/
structure Conditions.Plain (since : Nat) (x : Conditions) : Prop where
  /-- The instant is not before the first one. -/
  now : since ≤ x.now
  /-- No reading of the list fails by saying that it was never written. -/
  truthful : x.Truthful
  /-- A write to the shared configuration that fails has no effect. -/
  writes : x.writes.IsPlain
  /-- A call to the counters that fails has no effect. -/
  counters : x.counters.IsPlain

/-- What a decision knows of the stores from where it stands. -/
def Stage.Heeds (T : Int64) (s : Shared) : Stage → Prop
  | .updating _ _ (.readCounter t) => t = T
  | .updating _ _ (.writeList _ l) => s.config.forbidden = .ok l
  | .updating host _ (.writeCounter n _) => T ≤ n → s.Lists host
  | _ => True

namespace Scene

variable {since : Nat} {T : Int64} {x : Conditions} {task : Nat} {g g' : Stage} {r : Option Reply}
  {z z' : Scene}

/-- The configuration changes only when a decision appends its hostname. -/
theorem Moves.config_eq_or (m : Moves x task g r g' z z') :
    z'.shared.config = z.shared.config ∨
    ∃ host lock n l, g = .updating host lock (.writeList n l) ∧
      z.shared.config.set forbiddenKey (ForbiddenList.encode (l ++ [host])) =
        .ok z'.shared.config := by
  rcases m.updates_or with ⟨host, lock, u, u', reply, rfl, rfl, rfl, hu⟩ | ⟨hsame, -⟩
  · have hgive := m.gives_some
    cases hu with
    | threshold _ | noThreshold _ | listed _ _ | unlisted _ _ | noList _ =>
      exact .inl (by rw [(Conditions.configRead hgive).1])
    | below _ _ | reached _ _ | overflow _ | noCounter =>
      exact .inl (by rw [(Conditions.counterRead hgive).1])
    | counted | notCounted => exact .inl (Conditions.counterWritten hgive).1
    | appended | notAppended =>
      rcases (Conditions.configWritten hgive).2.1 with hkept | hset
      · exact .inl hkept
      · exact .inr ⟨host, lock, _, _, rfl, hset⟩
  · exact .inl (by rw [hsame])

/-- A decision that is at its end stays there, and changes nothing. -/
theorem Moves.of_done {v : Verdict} (m : Moves x task (.done v) r g' z z') :
    g' = .done v ∧ r = none ∧ z'.shared = z.shared := by
  obtain ⟨ls, ls', hgo⟩ := m.goes_any
  cases hgo with
  | rests => exact ⟨rfl, rfl, m.shared_of_none⟩

/-- What holds at each point of a run in which reports are handled one after another. -/
structure Ordered (since : Nat) (T : Int64) (z : Scene) : Prop where
  /-- The threshold is always the same. -/
  threshold : z.shared.config.threshold = .ok T
  /-- Counters that have reached the threshold are those of listed hostnames. -/
  covered : z.shared.Covered since T
  /-- What a decision knows of the stores is still true. -/
  heeds : ∀ {k : Nat} {g}, z.engine.tasks[k]? = some g → g.Heeds T z.shared
  /-- At most one decision is under way. -/
  alone : ∀ {j k : Nat} {f g}, z.engine.tasks[j]? = some f → z.engine.tasks[k]? = some g →
    f.verdict? = none → g.verdict? = none → j = k

theorem Ordered.moves_threshold (h : z.Ordered since T) (m : Moves x task g r g' z z') :
    z'.shared.config.threshold = .ok T := by
  rcases m.config_eq_or with hsame | ⟨host, lock, n, l, -, hset⟩
  · rw [hsame]
    exact h.threshold
  · exact (ConfigStore.threshold_set_of_ne hset (by decide)).trans h.threshold

/-- No hostname is taken off the list. -/
theorem Ordered.lists (h : z.Ordered since T) (m : Moves x task g r g' z z') {host : String}
    (hlists : z.shared.Lists host) : z'.shared.Lists host := by
  obtain ⟨l, hl, hlisted⟩ := hlists
  rcases m.config_eq_or with hsame | ⟨key, lock, n, read, rfl, hset⟩
  · exact ⟨l, by rw [hsame]; exact hl, hlisted⟩
  · cases (h.heeds m.before).symm.trans hl
    exact ⟨l ++ [key], ConfigStore.forbidden_set hset, hlisted.append key⟩

theorem Ordered.moves_covered (h : z.Ordered since T) (m : Moves x task g r g' z z') :
    z'.shared.Covered since T := by
  intro now host text n hnow htext hn hreach
  rcases m.counters_eq_or with hsame | ⟨key, lock, count, d, a, rfl, rfl, hset⟩
  · rw [hsame] at htext
    exact h.lists m (h.covered now host text n hnow htext hn hreach)
  · rw [CounterStore.getText?_set hset] at htext
    by_cases hkey : host = key
    · subst hkey
      rw [if_pos rfl, Option.some.injEq] at htext
      rw [← htext, CounterStore.parse?_format, Option.some.injEq] at hn
      subst hn
      exact h.lists m (h.heeds m.before hreach)
    · rw [if_neg hkey] at htext
      exact h.lists m (h.covered now host text n hnow htext hn hreach)

/-- The decision that has moved knows what it has just read or written. -/
theorem Ordered.moves_self (h : z.Ordered since T) (hx : x.Plain since)
    (m : Moves x task g r g' z z') : g'.Heeds T z'.shared := by
  have hheeds := h.heeds m.before
  obtain ⟨ls, ls', hgo⟩ := m.goes_any
  cases hgo with
  | updates hu =>
    cases hu with
    | threshold ht =>
      rcases (Conditions.configRead m.gives_some).2 with rfl | ⟨e, rfl, -⟩
      · cases ht.symm.trans h.threshold
        rfl
      · cases ht
    | below _ hlt =>
      obtain rfl : _ = T := hheeds
      exact fun hreach => absurd hreach (Int64.not_le.mpr hlt)
    | listed hl hlisted =>
      have hread := Conditions.forbidden_of_configRead m.gives_some hl
      have hl' := hread.resolve_right fun hnot => hnot.2 hx.truthful
      rw [(Conditions.configRead m.gives_some).1]
      exact fun _ => ⟨_, hl', hlisted⟩
    | unlisted hl _ =>
      have hread := Conditions.forbidden_of_configRead m.gives_some hl
      rw [(Conditions.configRead m.gives_some).1]
      exact hread.resolve_right fun hnot => hnot.2 hx.truthful
    | appended =>
      have hset := (Conditions.configWritten m.gives_some).2.2 rfl
      exact fun _ => ⟨_, ConfigStore.forbidden_set hset, ForbiddenList.listed_append _ _⟩
    | _ => trivial
  | _ => trivial

theorem Ordered.moves (h : z.Ordered since T) (hx : x.Plain since)
    (m : Moves x task g r g' z z') : z'.Ordered since T where
  threshold := h.moves_threshold m
  covered := h.moves_covered m
  heeds {k f} hk := by
    rcases m.cases_tasks hk with ⟨-, rfl⟩ | ⟨hne, hk⟩
    · exact h.moves_self hx m
    · cases hg : g.verdict? with
      | none =>
        -- whoever else is there is at the end
        cases hf : f.verdict? with
        | none => exact absurd (h.alone hk m.before hf hg) hne
        | some v =>
          cases f with
          | done v => trivial
          | _ => cases hf
      | some v =>
        cases g with
        | done v =>
          rw [m.of_done.2.2]
          exact h.heeds hk
        | _ => cases hg
  alone {j k f f'} hj hk hf hf' := by
    have hstays : ∀ {i : Nat} {e}, z'.engine.tasks[i]? = some e → e.verdict? = none →
        ∃ e', z.engine.tasks[i]? = some e' ∧ e'.verdict? = none := by
      intro i e hi he
      rcases m.cases_tasks hi with ⟨rfl, rfl⟩ | ⟨-, hi⟩
      · refine ⟨g, m.before, ?_⟩
        cases g with
        | done v =>
          rw [m.of_done.1] at he
          cases he
        | _ => rfl
      · exact ⟨e, hi, he⟩
    obtain ⟨e, hj, he⟩ := hstays hj hf
    obtain ⟨e', hk, he'⟩ := hstays hk hf'
    exact h.alone hj hk he he'

end Scene

/-! ### What a decision that fails leaves behind -/

/-- The calls of a decision that ended in an error, and what it has made of the stores. -/
inductive Leaves (url : String) (s : Shared) (rs : List Reply) (s' : Shared) : DecisionError → Prop
    where
  /-- It has stored nothing. -/
  | nothing {e} : (∀ r ∈ rs, r.storesList = false) → s' = s → Leaves url s rs s' e
  /-- It has appended its hostname to the list, and then could not write the counter. -/
  | listed {host l n before e} : hostname? url = some host → s.config.forbidden = .ok l →
      rs = before ++ [.configWritten forbiddenKey (ForbiddenList.encode (l ++ [host])) (.ok ()),
        .counterWritten host n .unlimited (.error e)] →
      s.config.set forbiddenKey (ForbiddenList.encode (l ++ [host])) = .ok s'.config →
      s'.config.forbidden = .ok (l ++ [host]) → s'.counters = s.counters →
      Leaves url s rs s' (.counters e)

/-- A decision has stored nothing so far. -/
def Untouched (s : Shared) (rs : List Reply) (s' : Shared) : Prop :=
  (∀ r ∈ rs, r.storesList = false) ∧ s' = s

/-- A decision has appended its hostname with its last call. -/
def Appended (host : String) (s : Shared) (rs : List Reply) (s' : Shared) : Prop :=
  ∃ l before, s.config.forbidden = .ok l ∧
    rs = before ++ [.configWritten forbiddenKey (ForbiddenList.encode (l ++ [host])) (.ok ())] ∧
    s.config.set forbiddenKey (ForbiddenList.encode (l ++ [host])) = .ok s'.config ∧
    s'.counters = s.counters

/-- What a decision has made of the stores when it is at its end. -/
def Verdict.Leaves (url : String) (s : Shared) (rs : List Reply) (s' : Shared) : Verdict → Prop
  | .ok _ => True
  | .error e => HostWatch.Leaves url s rs s' e

/-- What a decision has made of the stores up to where it stands. -/
def Stage.Leaves (url : String) (s : Shared) (rs : List Reply) (s' : Shared) : Stage → Prop
  | .received u => u = url ∧ Untouched s rs s'
  | .readList t => Target.parse url = .ok t ∧ Untouched s rs s'
  | .probe t => Target.parse url = .ok t ∧ Untouched s rs s'
  | .enter host => hostname? url = some host ∧ Untouched s rs s'
  | .acquire host _ => hostname? url = some host ∧ Untouched s rs s'
  | .updating host _ (.writeList _ l) =>
    hostname? url = some host ∧ s.config.forbidden = .ok l ∧ Untouched s rs s'
  | .updating host _ (.writeCounter _ _) =>
    hostname? url = some host ∧ (Untouched s rs s' ∨ Appended host s rs s')
  | .updating _ _ (.done v) => v.Leaves url s rs s'
  | .updating host _ _ => hostname? url = some host ∧ Untouched s rs s'
  | .released _ _ v => v.Leaves url s rs s'
  | .dropped _ v => v.Leaves url s rs s'
  | .done v => v.Leaves url s rs s'

section Leaves

variable {url : String} {s s₁ s₂ : Shared} {rs : List Reply}

theorem Untouched.append {r : Reply} (h : Untouched s rs s₁) (hr : r.storesList = false)
    (hsame : s₂ = s₁) : Untouched s (rs ++ [r]) s₂ := by
  refine ⟨fun r' hr' => ?_, hsame.trans h.2⟩
  rcases List.mem_append.mp hr' with hr' | hr'
  · exact h.1 r' hr'
  · rw [List.mem_singleton.mp hr']
    exact hr

theorem Untouched.leaves {r : Reply} {e : DecisionError} (h : Untouched s rs s₁)
    (hr : r.storesList = false) (hsame : s₂ = s₁) : Leaves url s (rs ++ [r]) s₂ e :=
  .nothing (h.append hr hsame).1 (h.append hr hsame).2

/-- A call of the counting. -/
theorem Stage.Leaves.updates {since : Nat} {x : Conditions} {host : String} {lock : Option Nat}
    {u u' : Update} {r : Reply} (h : (Stage.updating host lock u).Leaves url s rs s₁)
    (hx : x.Plain since) (hu : u.Goes host r u') (hgive : x.collaborators.Gives s₁ r s₂) :
    (Stage.updating host lock u').Leaves url s (rs ++ [r]) s₂ := by
  cases hu with
  | threshold _ =>
    obtain ⟨hhost, hnone⟩ := h
    exact ⟨hhost, hnone.append rfl (Conditions.configRead hgive).1⟩
  | noThreshold _ => exact h.2.leaves rfl (Conditions.configRead hgive).1
  | below _ _ =>
    obtain ⟨hhost, hnone⟩ := h
    exact ⟨hhost, .inl (hnone.append rfl (Conditions.counterRead hgive).1)⟩
  | reached _ _ =>
    obtain ⟨hhost, hnone⟩ := h
    exact ⟨hhost, hnone.append rfl (Conditions.counterRead hgive).1⟩
  | overflow _ | noCounter => exact h.2.leaves rfl (Conditions.counterRead hgive).1
  | listed _ _ =>
    obtain ⟨hhost, hnone⟩ := h
    exact ⟨hhost, .inl (hnone.append rfl (Conditions.configRead hgive).1)⟩
  | unlisted hl _ =>
    obtain ⟨hhost, hnone⟩ := h
    have hread := Conditions.forbidden_of_configRead hgive hl
    have hlist := hread.resolve_right fun hnot => hnot.2 hx.truthful
    rw [hnone.2] at hlist
    exact ⟨hhost, hlist, hnone.append rfl (Conditions.configRead hgive).1⟩
  | noList _ => exact h.2.leaves rfl (Conditions.configRead hgive).1
  | appended =>
    obtain ⟨hhost, hlist, -, rfl⟩ := h
    obtain ⟨hcounters, -, hset⟩ := Conditions.configWritten hgive
    exact ⟨hhost, .inr ⟨_, rs, hlist, rfl, hset rfl, hcounters⟩⟩
  | notAppended =>
    obtain ⟨-, -, hnone⟩ := h
    exact hnone.leaves rfl (Conditions.configWritten_error hgive hx.writes)
  | counted => trivial
  | notCounted =>
    obtain ⟨hconfig, -, -, hcounters⟩ := Conditions.counterWritten hgive
    have hkept := hcounters hx.counters fun hok => by cases hok
    obtain ⟨hhost, hnone | ⟨l, before, hlist, rfl, hset, hsame⟩⟩ := h
    · exact hnone.leaves rfl (Shared.eq_of_config_of_counters hconfig hkept)
    · rw [← hconfig] at hset
      rw [List.append_assoc]
      exact .listed hhost hlist rfl hset (ConfigStore.forbidden_set hset) (hkept.trans hsame)

theorem Stage.Leaves.goes {since : Nat} {x : Conditions} {guard : Settings.Guard} {task : Nat}
    {g g' : Stage} {ls ls' : Locks} {r : Option Reply} (h : g.Leaves url s rs s₁)
    (hx : x.Plain since) (hgo : g.Goes guard task ls r g' ls')
    (hgive : x.collaborators.GivesAny s₁ r s₂) : g'.Leaves url s (rs ++ r.toList) s₂ := by
  cases hgo with
  | parsed ht =>
    obtain ⟨rfl, hnone⟩ := h
    cases hgive
    rw [Option.toList_none, List.append_nil]
    exact ⟨ht, hnone⟩
  | malformed he =>
    obtain ⟨rfl, hnone⟩ := h
    cases hgive
    rw [Option.toList_none, List.append_nil]
    exact .nothing hnone.1 hnone.2
  | unlisted _ _ =>
    obtain ⟨ht, hnone⟩ := h
    exact ⟨ht, hnone.append rfl (Conditions.configRead hgive).1⟩
  | listed _ _ | noList _ => exact h.2.leaves rfl (Conditions.configRead hgive).1
  | unguarded _ _ | guarded _ _ =>
    obtain ⟨ht, hnone⟩ := h
    exact ⟨hostname?_of_parse ht, hnone.append rfl (Conditions.probed hgive)⟩
  | notConfirmed _ => trivial
  | updates hu => exact h.updates hx hu hgive
  | entered | acquired _ | waits _ | ended | released | dropped | removed | rests =>
    cases hgive
    rw [Option.toList_none, List.append_nil]
    exact h

end Leaves

/-! ### Reports one after another -/

namespace Scene

/-- One more report comes in. -/
def receive (url : String) (z : Scene) : Scene :=
  { z with engine.tasks := z.engine.tasks ++ [.received url] }

/-- Calls that fail have no effect, no reading of the list fails by saying that it was never
written, and nobody else writes. -/
def plainCalls (since : Nat) : Rules where
  may := Conditions.Plain since
  others _ _ := False

/-- One step of a process that handles reports one after another, or of the one that follows it. -/
inductive Serial (since : Nat) : Scene → Scene → Prop where
  /-- The next report comes in when all others have been decided. -/
  | report {z url} : z.engine.isDone → Serial since z (z.receive url)
  /-- A decision takes a step. -/
  | goes {z z'} : Step (plainCalls since) z z' → Serial since z z'
  /-- The process stops, wherever it is, and another one starts over the same stores. -/
  | restart {z} (guard : Settings.Guard) : Serial since z (start guard [] z.shared)

/-- A run of processes that handle reports one after another. -/
abbrev Serially (since : Nat) : Scene → Scene → Prop := Relation.ReflTransGen (Serial since)

variable {since : Nat} {T : Int64} {x : Conditions} {y z z' : Scene} {url : String}

theorem ordered_start (guard : Settings.Guard) {s : Shared} (hT : s.config.threshold = .ok T)
    (hs : s.Covered since T) : (start guard [] s).Ordered since T where
  threshold := hT
  covered := hs
  heeds hk := by
    obtain ⟨url, hurl, -⟩ := of_tasks_start hk
    cases hurl
  alone hj := by
    obtain ⟨url, hurl, -⟩ := of_tasks_start hj
    cases hurl

/-- The tasks after a report has come in. -/
theorem cases_receive {k : Nat} {g : Stage} (hk : (z.receive url).engine.tasks[k]? = some g) :
    z.engine.tasks[k]? = some g ∨ k = z.engine.tasks.length ∧ g = .received url := by
  rw [receive, List.getElem?_append] at hk
  split_ifs at hk with hlt
  · exact .inl hk
  · rw [List.getElem?_singleton] at hk
    split_ifs at hk with hzero
    cases hk
    exact .inr ⟨by omega, rfl⟩

theorem Ordered.receive (h : z.Ordered since T) (hdone : z.engine.isDone) :
    (z.receive url).Ordered since T where
  threshold := h.threshold
  covered := h.covered
  heeds hk := by
    rcases cases_receive hk with hk | ⟨-, rfl⟩
    · exact h.heeds hk
    · trivial
  alone hj hk hf hg := by
    have hlast : ∀ {i : Nat} {e}, (z.receive url).engine.tasks[i]? = some e →
        e.verdict? = none → i = z.engine.tasks.length := by
      intro i e hi he
      rcases cases_receive hi with hi | ⟨hi, -⟩
      · obtain ⟨v, rfl⟩ := eq_done_of_isDone hdone hi
        cases he
      · exact hi
    rw [hlast hj hf, hlast hk hg]

theorem Ordered.step (h : z.Ordered since T) (step : Serial since z z') : z'.Ordered since T := by
  cases step with
  | report hdone => exact h.receive hdone
  | goes step =>
    refine Reaches.invariant (.single step) (Ordered since T) h ?_ (fun _ hs => hs.elim)
    intro x task g r g' y y' _ hy hx m
    exact hy.moves hx m
  | restart guard => exact ordered_start guard h.threshold h.covered

/-- Since a report has come in nothing but its decision has happened, and that has made of the
stores what its stage says. -/
def Handling (url : String) (z y : Scene) : Prop :=
  ∃ g rs, y.engine.tasks = z.engine.tasks ++ [g] ∧
    y.replies = z.replies ++ rs.map (z.engine.tasks.length, ·) ∧
    g.Leaves url z.shared rs y.shared

theorem handling_receive (url : String) (z : Scene) : Handling url z (z.receive url) :=
  ⟨.received url, [], rfl, (List.append_nil _).symm, rfl, fun _ hr => absurd hr List.not_mem_nil,
    rfl⟩

theorem Handling.moves {task : Nat} {g g' : Stage} {r : Option Reply} (h : Handling url z y)
    (hdone : z.engine.isDone) (hx : x.Plain since) (m : Moves x task g r g' y z') :
    Handling url z z' := by
  obtain ⟨f, rs, htasks, hreplies, hleaves⟩ := h
  have hbefore := m.before
  rw [htasks, List.getElem?_append] at hbefore
  split_ifs at hbefore with hlt
  · -- a decision that was there before is at its end
    obtain ⟨v, rfl⟩ := eq_done_of_isDone hdone hbefore
    obtain ⟨rfl, rfl, hsame⟩ := m.of_done
    refine ⟨f, rs, ?_, ?_, hsame ▸ hleaves⟩
    · obtain ⟨hlt', heq⟩ := List.getElem?_eq_some_iff.mp m.before
      rw [m.tasks, ← heq, List.set_getElem_self, htasks]
    · rw [m.replies, hreplies]
      exact List.append_nil _
  · rw [List.getElem?_singleton] at hbefore
    split_ifs at hbefore with hzero
    cases hbefore
    obtain rfl : task = z.engine.tasks.length := by omega
    refine ⟨g', rs ++ r.toList, ?_, ?_, hleaves.goes hx m.goes m.gives⟩
    · rw [m.tasks, htasks, List.set_append_right _ _ (Nat.le_refl _), Nat.sub_self]
      rfl
    · rw [m.replies, hreplies, List.append_assoc, List.map_append]

/-- When a report has come in, its decision is all that happens. -/
theorem Reaches.handling (h : Reaches (plainCalls since) (z.receive url) y)
    (hdone : z.engine.isDone) : Handling url z y :=
  h.invariant (Handling url z) (handling_receive url z)
    (fun _ hy hx m => hy.moves hdone hx m) (fun _ hs => hs.elim)

/-- Reports are handled one after another, and processes may stop and start between any two steps.
At every point each counter that is stored with the threshold or more is that of a hostname on the
list; and a decision that ends in an error leaves the stores as they were, except that the hostname
it has appended stays on the list when the counter cannot be written. -/
theorem Serially.list_first {guard : Settings.Guard} {s : Shared}
    (hT : s.config.threshold = .ok T) (hs : s.Covered since T)
    (h : Serially since (start guard [] s) z) :
    z.shared.Covered since T ∧
    ∀ url y e, z.engine.isDone → Reaches (plainCalls since) (z.receive url) y →
      y.engine.tasks[z.engine.tasks.length]? = some (.done (.error e)) →
      ∃ rs, y.replies = z.replies ++ rs.map (z.engine.tasks.length, ·) ∧
        Leaves url z.shared rs y.shared e := by
  refine ⟨?_, fun url y e hdone hy hend => ?_⟩
  · suffices hordered : z.Ordered since T from hordered.covered
    induction h with
    | refl => exact ordered_start guard hT hs
    | tail _ step ih => exact ih.step step
  · obtain ⟨g, rs, htasks, hreplies, hleaves⟩ := hy.handling hdone
    rw [htasks, List.getElem?_concat_length, Option.some.injEq] at hend
    subst hend
    exact ⟨rs, hreplies, hleaves⟩

/-! ### A count that is lost between the two writes -/

/-- A report has been counted, where the threshold is 2. -/
def counted : Scene :=
  ((start .perHostname [] (.withThreshold 2)).receive "http://[::1]/").play
    (turns (List.replicate 14 0))

/-- The next one has appended the hostname and could not write the counter. -/
def uncounted : Scene :=
  (counted.receive "http://[::1]/").play (turns (List.replicate 9 1) ++
    ({ counters := .refused (.unavailable "down") }, 1) :: turns (List.replicate 4 1))

theorem list_first_uncounted :
    (start .bestEffort [] uncounted.shared).shared.Covered 0 2 ∧
    (∃ rs, uncounted.replies = counted.replies ++ rs.map (counted.engine.tasks.length, ·) ∧
      Leaves "http://[::1]/" counted.shared rs uncounted.shared (.counters (.unavailable "down"))) ∧
    uncounted.shared.config.forbidden.toOption = some ["::1"] ∧
    uncounted.shared.counters.getText? 0 "::1" = some "1" := by
  have hcovered : (Shared.withThreshold 2).Covered 0 2 :=
    fun _ _ _ _ _ htext => by cases htext
  have hplain : Conditions.Plain 0 {} :=
    ⟨Nat.le_refl 0, Conditions.truthful_of_answered rfl, Fate.isPlain_answered,
      Fate.isPlain_answered⟩
  have hrefused : Conditions.Plain 0 { counters := .refused (.unavailable "down") } :=
    ⟨Nat.le_refl 0, Conditions.truthful_of_answered rfl, Fate.isPlain_answered,
      Fate.isPlain_refused _⟩
  have hserial : ∀ {z z'}, Reaches (plainCalls 0) z z' → Serially 0 z z' :=
    fun h => Relation.ReflTransGen.mono (fun _ _ => .goes) _ _ h
  have hcounted : Serially 0 (start .perHostname [] (.withThreshold 2)) counted :=
    .head (.report rfl) (hserial (reaches_play _ (may_turns hplain _) _))
  have hdone : counted.engine.isDone := by decide +kernel
  have hfails : Reaches (plainCalls 0) (counted.receive "http://[::1]/") uncounted :=
    reaches_play _ (List.forall_mem_append.mpr ⟨may_turns hplain _,
      List.forall_mem_cons.mpr ⟨hrefused, may_turns hplain _⟩⟩) _
  have hrestarted : Serially 0 (start .perHostname [] (.withThreshold 2))
      (start .bestEffort [] uncounted.shared) :=
    ((hcounted.tail (.report hdone)).trans (hserial hfails)).tail (.restart .bestEffort)
  have hfirst := Serially.list_first (Shared.threshold_withThreshold 2) hcovered hcounted
  have hagain := Serially.list_first (Shared.threshold_withThreshold 2) hcovered hrestarted
  have huncounted : uncounted.engine.isDone := by decide +kernel
  have hverdict : (uncounted.engine.tasks[counted.engine.tasks.length]?).bind Stage.verdict? =
      some (.error (.counters (.unavailable "down"))) := by decide +kernel
  obtain ⟨g, hend, hv⟩ := Option.bind_eq_some_iff.mp hverdict
  obtain ⟨v, rfl⟩ := eq_done_of_isDone huncounted hend
  cases hv
  exact ⟨hagain.1, hfirst.2 _ _ _ hdone hfails hend, by decide +kernel, by decide +kernel⟩

end Scene

end HostWatch
