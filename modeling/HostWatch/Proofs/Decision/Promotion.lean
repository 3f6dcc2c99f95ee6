import HostWatch.Proofs.Decision.Effects
import HostWatch.Proofs.Decision.Exclusion

/-!
# What becomes of a listed hostname

A decision appends its hostname to the list that it has read last, and stores the whole.
Where decisions are guarded per hostname, only decisions on other hostnames can have
written the list in between (`meanwhile`), and they can: each hostname has a lock of its
own, and the list is shared. Then what they appended is lost (`promotion_undone`).

A hostname that a decision has listed stays listed and is not listed again, unless a
decision on another hostname stores a list that it had read before (`NotOverwritten`,
`Run.promotion_kept`). A write that is refused stores nothing and takes nothing off the list,
so what counts are the calls of a run that took effect (`Run`). The invariant follows a run
from the write that appended the hostname: all lists that have been read since have the
hostname, so all lists that may be stored have it too (`Holds`).
-/

namespace HostWatch

/-! ### Readings and writes of the list -/

/-- Whether a call reads the list. -/
def Reply.readsList : Reply → Bool
  | .configRead key _ => key = forbiddenKey
  | _ => false

/-- Whether a call writes the list. -/
def Reply.writesList : Reply → Bool
  | .configWritten key _ _ => key = forbiddenKey
  | _ => false

/-- The list that a call brings. -/
def Reply.list? : Reply → Option ForbiddenList
  | .configRead key a => if key = forbiddenKey then (ForbiddenList.ofAnswer a).toOption else none
  | _ => none

/-- The list that a task has read last. -/
def lastList? (task : Nat) (replies : List (Nat × Reply)) : Option ForbiddenList :=
  ((calls task replies).filterMap Reply.list?).getLast?

/-- The tasks that have written the list since a task read it last, in the order of the writes. -/
def meanwhile (task : Nat) (calls : List (Nat × Reply)) : List Nat :=
  calls.foldl (fun writers e =>
    if e.1 = task ∧ e.2.readsList then []
    else if e.2.writesList then writers ++ [e.1] else writers) []

/-- Whether a call stores a list and is answered. -/
def Reply.storesList : Reply → Bool
  | .configWritten key _ (.ok ()) => key = forbiddenKey
  | _ => false

theorem Reply.writesList_of_storesList {r : Reply} (h : r.storesList = true) :
    r.writesList = true := by
  cases r with
  | configWritten key value a =>
    cases a with
    | ok _ => exact h
    | error e => cases h
  | _ => cases h

/-- Whether a task has read the list among some calls. -/
def hasRead (task : Nat) (calls : List (Nat × Reply)) : Bool :=
  calls.any fun e => e.1 = task ∧ e.2.readsList

/-- From a place among some calls on, whoever writes the list for another hostname has read it from
there on. -/
def ReadSince (urls : List String) (host : String) (start : Nat) (calls : List (Nat × Reply)) :
    Prop :=
  Each (fun before task r => start ≤ before.length → r.writesList → hostOf urls task ≠ some host →
    hasRead task (before.drop start)) calls

/-- Among some calls no decision on another hostname writes a list that it had read before the
hostname was appended. -/
def NotOverwritten (urls : List String) (host : String) (calls : List (Nat × Reply)) : Prop :=
  Each (fun before task r => r.storesList → hostOf urls task = some host →
    ReadSince urls host (before.length + 1) calls) calls

/-- Whether whoever writes has read since is decided write by write. -/
instance (urls : List String) (host : String) (start : Nat) (calls : List (Nat × Reply)) :
    Decidable (ReadSince urls host start calls) :=
  inferInstanceAs (Decidable (Each _ calls))

/-- Whether a hostname is not written over is decided write by write. -/
instance (urls : List String) (host : String) (calls : List (Nat × Reply)) :
    Decidable (NotOverwritten urls host calls) :=
  inferInstanceAs (Decidable (Each _ calls))

theorem ReadSince.of_append {urls : List String} {host : String} {start : Nat}
    {rs rs' : List (Nat × Reply)} (h : ReadSince urls host start (rs ++ rs')) :
    ReadSince urls host start rs := by
  intro before task r after heq
  refine h before task r (after ++ rs') ?_
  rw [heq, List.append_assoc, List.cons_append]

theorem meanwhile_append_one (task k : Nat) (r : Reply) (calls : List (Nat × Reply)) :
    meanwhile task (calls ++ [(k, r)]) =
      if k = task ∧ r.readsList then []
      else if r.writesList then meanwhile task calls ++ [k] else meanwhile task calls := by
  rw [meanwhile, List.foldl_concat, ← meanwhile]

/-- A call of another task counts if it writes the list. -/
theorem meanwhile_append_of_ne {task k : Nat} (hk : k ≠ task) (r : Option Reply)
    (calls : List (Nat × Reply)) : meanwhile k (calls ++ r.toList.map (task, ·)) =
      meanwhile k calls ++ if r.any Reply.writesList then [task] else [] := by
  cases r with
  | none => simp
  | some reply =>
    rw [Option.toList_some, List.map_singleton, meanwhile_append_one,
      if_neg fun h => hk h.1.symm, Option.any_some]
    split_ifs
    · rfl
    · rw [List.append_nil]

theorem meanwhile_append {task k : Nat} {rs rs' : List (Nat × Reply)} (h : k ∈ meanwhile task rs)
    (hread : hasRead task rs' = false) : k ∈ meanwhile task (rs ++ rs') := by
  induction rs' generalizing rs with
  | nil =>
    rw [List.append_nil]
    exact h
  | cons e rs' ih =>
    obtain ⟨j, r⟩ := e
    rw [hasRead, List.any_cons, Bool.or_eq_false_iff, decide_eq_false_iff_not] at hread
    rw [List.append_cons]
    refine ih ?_ hread.2
    rw [meanwhile_append_one, if_neg hread.1]
    split_ifs
    · exact List.mem_append_left _ h
    · exact h

/-- Who has written the list while a task has not read it is among those that `meanwhile` names. -/
theorem mem_meanwhile {task k : Nat} {r : Reply} (hr : r.writesList)
    {before after : List (Nat × Reply)} (hread : hasRead task after = false) :
    k ∈ meanwhile task (before ++ (k, r) :: after) := by
  rw [List.append_cons]
  refine meanwhile_append ?_ hread
  have hnot : r.readsList = false := by
    cases r with
    | configWritten key value a => rfl
    | _ => cases hr
  rw [meanwhile_append_one, hnot, if_neg fun h => Bool.false_ne_true h.2, if_pos hr]
  exact List.mem_append_right _ (List.mem_singleton_self k)

/-- A call that does not write the list leaves it alone. -/
theorem Conditions.forbidden_of_gives {x : Conditions} {s s' : Shared} {r : Reply}
    (h : x.collaborators.Gives s r s') (hr : r.writesList = false) :
    s'.config.forbidden = s.config.forbidden := by
  cases r with
  | configRead key a => rw [(configRead h).1]
  | configWritten key value a =>
    have hkey : key ≠ forbiddenKey := of_decide_eq_false hr
    rcases (configWritten h).2.1 with hkept | hset
    · rw [hkept]
    · exact ConfigStore.forbidden_set_of_ne hset hkey
  | counterRead host a => rw [(counterRead h).1]
  | counterWritten host n life a => rw [(counterWritten h).1]
  | probed origin result => rw [probed h]

/-- Only a decision that is about to append its hostname writes the list. -/
theorem Stage.Goes.writesList {guard : Settings.Guard} {task : Nat} {g g' : Stage} {ls ls' : Locks}
    {r : Reply} (h : g.Goes guard task ls (some r) g' ls') (hr : r.writesList = true) :
    ∃ host lock n l a, g = .updating host lock (.writeList n l) ∧
      r = .configWritten forbiddenKey (ForbiddenList.encode (l ++ [host])) a := by
  cases h with
  | updates hu =>
    cases hu with
    | appended | notAppended => exact ⟨_, _, _, _, _, rfl, rfl⟩
    | _ => cases hr
  | _ => cases hr

namespace Scene

variable {urls : List String} {s : Shared} {x : Conditions} {task : Nat} {g g' : Stage}
  {r : Option Reply} {log : List (Nat × Reply)} {z z' : Scene}

/-- A move writes the list, or the list stays as it is. -/
theorem Moves.writes_or (m : Moves x task g r g' z z') :
    (∃ host lock n l a, g = .updating host lock (.writeList n l) ∧
      r = some (.configWritten forbiddenKey (ForbiddenList.encode (l ++ [host])) a) ∧
      (z'.shared.config.forbidden = z.shared.config.forbidden ∨
        z'.shared.config.forbidden = .ok (l ++ [host])) ∧
      (a = .ok () → z'.shared.config.forbidden = .ok (l ++ [host]))) ∨
    (z'.shared.config.forbidden = z.shared.config.forbidden ∧
      ∀ reply ∈ r, reply.writesList = false) := by
  cases r with
  | none => exact .inr ⟨by rw [m.shared_of_none], fun _ h => by cases h⟩
  | some reply =>
    cases hr : reply.writesList with
    | false =>
      refine .inr ⟨Conditions.forbidden_of_gives m.gives_some hr, ?_⟩
      rintro _ ⟨⟩
      exact hr
    | true =>
      obtain ⟨ls, ls', hgo⟩ := m.goes_any
      obtain ⟨host, lock, n, l, a, rfl, rfl⟩ := hgo.writesList hr
      obtain ⟨-, hmaybe, hok⟩ := Conditions.configWritten m.gives_some
      refine .inl ⟨_, _, _, _, _, rfl, rfl, ?_, fun h => ConfigStore.forbidden_set (hok h)⟩
      rcases hmaybe with hkept | hset
      · exact .inl (by rw [hkept])
      · exact .inr (ConfigStore.forbidden_set hset)

/-- A move stores a list with its call, or the list stays as it is. -/
theorem Moves.appends_or (m : Moves x task g r g' z z') :
    (∃ host lock n l a, g = .updating host lock (.writeList n l) ∧
      r = some (.configWritten forbiddenKey (ForbiddenList.encode (l ++ [host])) a) ∧
      x.effect? z.shared r = r ∧ z'.shared.config.forbidden = .ok (l ++ [host])) ∨
    (z'.shared.config.forbidden = z.shared.config.forbidden ∧
      (x.effect? z.shared r).any Reply.writesList = false) := by
  rcases m.writes_or with ⟨host, lock, n, l, a, hg, rfl, -, -⟩ | ⟨hsame, hquiet⟩
  · cases heffect : x.takesEffect z.shared
      (.configWritten forbiddenKey (ForbiddenList.encode (l ++ [host])) a) with
    | true =>
      exact .inl ⟨host, lock, n, l, a, hg, rfl, Option.filter_some_pos heffect,
        ConfigStore.forbidden_set (Conditions.set_of_takesEffect m.gives_some heffect)⟩
    | false =>
      obtain ⟨hkept, -⟩ := Conditions.config_of_not_takesEffect m.gives_some heffect
      refine .inr ⟨by rw [hkept], ?_⟩
      rw [Conditions.effect?, Option.filter_some_neg heffect, Option.any_none]
  · refine .inr ⟨hsame, ?_⟩
    cases hq : x.effect? z.shared r with
    | none => rfl
    | some reply => exact hquiet reply (Conditions.eq_some_of_effect? hq)

/-- What a decision that is about to append its hostname knows of the list, where `log` are the calls
that took effect. -/
structure Current (urls : List String) (log : List (Nat × Reply)) (z : Scene) : Prop where
  /-- If nobody has written the list since, the list that was read is the one that is stored. -/
  fresh : ∀ {k : Nat} {host lock n l},
    z.engine.tasks[k]? = some (.updating host lock (.writeList n l)) →
    meanwhile k log = [] → z.shared.config.forbidden = .ok l
  /-- Whoever has written the list since is about another hostname. -/
  foreign : ∀ {k : Nat} {host lock n l},
    z.engine.tasks[k]? = some (.updating host lock (.writeList n l)) →
    ∀ j ∈ meanwhile k log, hostOf urls j ≠ some host

theorem current_start (guard : Settings.Guard) (urls : List String) (s : Shared) :
    (start guard urls s).Current urls [] where
  fresh h := by
    obtain ⟨url, -, heq⟩ := of_tasks_start h
    cases heq
  foreign h := by
    obtain ⟨url, -, heq⟩ := of_tasks_start h
    cases heq

/-- A decision is about to append its hostname if it has just read the list, or was so before. -/
theorem Moves.reads_or (m : Moves x task g r g' z z') {k : Nat} {host : String} {lock : Option Nat}
    {n : Int64} {l : ForbiddenList}
    (hk : z'.engine.tasks[k]? = some (.updating host lock (.writeList n l))) :
    (k = task ∧ (∃ a, r = some (.configRead forbiddenKey a)) ∧
      (x.Truthful → z'.shared.config.forbidden = .ok l)) ∨
    k ≠ task ∧ z.engine.tasks[k]? = some (.updating host lock (.writeList n l)) := by
  rcases m.cases_tasks hk with ⟨rfl, rfl⟩ | hbefore
  · rcases m.updates_or with ⟨key, lock, u, u', reply, rfl, rfl, heq, hu⟩ | ⟨-, hread⟩
    · cases heq
      cases hu with
      | unlisted hl hhost =>
        refine .inl ⟨rfl, ⟨_, rfl⟩, fun hx => ?_⟩
        rw [(Conditions.configRead m.gives_some).1]
        exact (Conditions.forbidden_of_configRead m.gives_some hl).resolve_right fun h => h.2 hx
    · cases hread rfl
  · exact .inr hbefore

/-- Who reads the list has it from nobody else. -/
theorem meanwhile_of_reads (log : List (Nat × Reply)) (x : Conditions) (t : Shared) (task : Nat)
    (a : Except ConfigError Bytes) :
    meanwhile task
      (log ++ (x.effect? t (some (.configRead forbiddenKey a))).toList.map (task, ·)) = [] := by
  have heffect : x.effect? t (some (.configRead forbiddenKey a)) =
      some (.configRead forbiddenKey a) := rfl
  rw [heffect, Option.toList_some, List.map_singleton, meanwhile_append_one, if_pos ⟨rfl, rfl⟩]

theorem Current.moves (h : z.Current urls log) (ht : z.Traced .perHostname urls) (hg : z.Guarded)
    (hx : x.Truthful) (m : Moves x task g r g' z z') :
    z'.Current urls (log ++ (x.effect? z.shared r).toList.map (task, ·)) := by
  refine ⟨?_, ?_⟩
  · intro k host lock n l hk hnone
    rcases m.reads_or hk with ⟨-, -, hread⟩ | ⟨hne, hk⟩
    · exact hread hx
    · rw [meanwhile_append_of_ne hne, List.append_eq_nil_iff] at hnone
      rcases m.appends_or with ⟨key, lock', n', l', a, -, rfl, heffect, -⟩ | ⟨hsame, -⟩
      · rw [heffect] at hnone
        cases hnone.2
      · rw [hsame]
        exact h.fresh hk hnone.1
  · intro k host lock n l hk j hj
    rcases m.reads_or hk with ⟨rfl, ⟨a, rfl⟩, -⟩ | ⟨hne, hk⟩
    · rw [meanwhile_of_reads] at hj
      cases hj
    · rw [meanwhile_append_of_ne hne, List.mem_append] at hj
      rcases hj with hj | hj
      · exact h.foreign hk j hj
      · rcases m.appends_or with ⟨key, lock', n', l', a, rfl, -⟩ | ⟨-, hquiet⟩
        · -- whoever writes now counts as this decision does, so not for the same hostname
          split_ifs at hj
          · obtain rfl : j = task := List.mem_singleton.mp hj
            intro hhost
            obtain rfl := ht.host_eq m.before rfl hhost
            exact hne (hg.exclusive hk m.before)
          · cases hj
        · rw [hquiet] at hj
          cases hj

/-- Others who leave the key of the list alone leave the list alone. -/
theorem forbidden_put {t : Shared}
    (ht : t.config.get forbiddenKey = z.shared.config.get forbiddenKey) :
    (z.put t).shared.config.forbidden = z.shared.config.forbidden :=
  congrArg ForbiddenList.ofAnswer ht

theorem Current.others {t : Shared} (h : z.Current urls log)
    (ht : t.config.get forbiddenKey = z.shared.config.get forbiddenKey) :
    (z.put t).Current urls log where
  fresh hk hnone := (forbidden_put ht).trans (h.fresh hk hnone)
  foreign := h.foreign

/-- No reading of the list fails by saying that it was never written, and nobody else writes the
list. -/
def ownList : Rules where
  may := Conditions.Truthful
  others s t := t.config.get forbiddenKey = s.config.get forbiddenKey

theorem Run.current (h : Run ownList (start .perHostname urls s) log z) : z.Current urls log :=
  h.invariant (fun log z => z.Current urls log) (current_start .perHostname urls s)
    (fun hy hc hx m => hc.moves hy.reaches.traced hy.reaches.guarded hx m)
    (fun hc ht => hc.others ht)

/-! ### From the write of a hostname on -/

/-- From a place in the log on, a hostname is listed, whoever has read the list has read it with the
hostname, and no decision appends the hostname. -/
structure Holds (urls : List String) (host : String) (start : Nat) (log : List (Nat × Reply))
    (z : Scene) : Prop where
  /-- The hostname is listed. -/
  stored : ∃ l, z.shared.config.forbidden = .ok l ∧ host ∈ l
  /-- Lists that have been read since have the hostname. -/
  carried : ∀ {k : Nat} {key lock n l},
    z.engine.tasks[k]? = some (.updating key lock (.writeList n l)) →
    hasRead k (log.drop start) → host ∈ l
  /-- Nobody has appended the hostname since. -/
  alone : ∀ e ∈ log.drop start, e.2.writesList → hostOf urls e.1 ≠ some host

theorem drop_append_cons {before after : List (Nat × Reply)} {e : Nat × Reply} :
    (before ++ e :: after).drop (before.length + 1) = after := by
  rw [List.append_cons]
  exact List.drop_left' (by rw [List.length_append, List.length_singleton])

/-- What holds of a hostname that has just been appended. -/
theorem Moves.holds {guard : Settings.Guard} {reply : Reply} {host : String}
    (m : Moves x task g (some reply) g' z z') (ht : z.Traced guard urls)
    (hreply : reply.storesList) (heffect : x.effect? z.shared (some reply) = some reply)
    (hhost : hostOf urls task = some host) :
    z'.Holds urls host (log.length + 1) (log ++ [(task, reply)]) := by
  have hnone : (log ++ [(task, reply)]).drop (log.length + 1) = [] := drop_append_cons
  refine ⟨?_, fun _ hread => ?_, fun e he => ?_⟩
  · rcases m.appends_or with ⟨key, lock, n, l, a, rfl, -, -, hset⟩ | ⟨-, hquiet⟩
    · have hkey := ht.host_eq m.before rfl hhost
      exact ⟨l ++ [key], hset, List.mem_append_right _ (List.mem_singleton.mpr hkey)⟩
    · rw [heffect, Option.any_some, Reply.writesList_of_storesList hreply] at hquiet
      cases hquiet
  · rw [hnone] at hread
    cases hread
  · rw [hnone] at he
    cases he

/-- A decision that is about to append its hostname after another one has appended it has read the
list in between. -/
theorem Current.hasRead {k task : Nat} {host : String} {lock : Option Nat} {n : Int64}
    {l : ForbiddenList} {before after : List (Nat × Reply)} {r : Reply} (h : z.Current urls log)
    (htask : z.engine.tasks[task]? = some (.updating host lock (.writeList n l)))
    (heq : log = before ++ (k, r) :: after) (hr : r.writesList)
    (hhost : hostOf urls k = some host) : hasRead task after = true := by
  by_contra hread
  rw [Bool.not_eq_true] at hread
  refine h.foreign htask k ?_ hhost
  rw [heq]
  exact mem_meanwhile hr hread

/-- A decision that writes the list after a hostname was appended has read it with the hostname, and
is not about the hostname. -/
theorem Holds.writes {k : Nat} {host key : String} {lock : Option Nat} {n : Int64}
    {read : ForbiddenList} {before after : List (Nat × Reply)} {w reply : Reply}
    (hholds : z.Holds urls host (before.length + 1) log)
    (h : Run ownList (start .perHostname urls s) log z)
    (heq : log = before ++ (k, w) :: after) (hw : w.writesList)
    (hhost : hostOf urls k = some host)
    (m : Moves x task (.updating key lock (.writeList n read)) (some reply) g' z z')
    (hwrites : reply.writesList)
    (hsince : ReadSince urls host (before.length + 1) (log ++ [(task, reply)])) :
    host ∈ read ∧ hostOf urls task ≠ some host := by
  have hlen : before.length + 1 ≤ log.length := by
    rw [heq, List.length_append, List.length_cons]
    omega
  by_cases hsame : hostOf urls task = some host
  · -- the list was read after the other write, with the hostname, and yet without it
    have htraced := h.reaches.traced
    obtain rfl := htraced.host_eq m.before rfl hsame
    have hread := h.current.hasRead m.before heq hw hhost
    have hmem := hholds.carried m.before (by rw [heq, drop_append_cons]; exact hread)
    obtain ⟨url, -, hpast⟩ := htraced.past m.before
    obtain ⟨_, _, _, _, _, _, _, -, -, -, -, hunlisted, -⟩ := Stage.Counting.writeList hpast
    exact absurd (ForbiddenList.listed_of_mem hmem) hunlisted
  · have hread := hsince log task reply [] rfl hlen hwrites hsame
    exact ⟨hholds.carried m.before hread, hsame⟩

theorem Holds.moves {k : Nat} {host : String} {before after : List (Nat × Reply)} {w : Reply}
    (hholds : z.Holds urls host (before.length + 1) log)
    (h : Run ownList (start .perHostname urls s) log z)
    (heq : log = before ++ (k, w) :: after) (hw : w.writesList) (hhost : hostOf urls k = some host)
    (hx : x.Truthful) (m : Moves x task g r g' z z')
    (hsince : ReadSince urls host (before.length + 1)
      (log ++ (x.effect? z.shared r).toList.map (task, ·))) :
    z'.Holds urls host (before.length + 1)
      (log ++ (x.effect? z.shared r).toList.map (task, ·)) := by
  have hdrop : (log ++ (x.effect? z.shared r).toList.map (task, ·)).drop (before.length + 1) =
      log.drop (before.length + 1) ++ (x.effect? z.shared r).toList.map (task, ·) := by
    rw [List.drop_append_of_le_length]
    rw [heq, List.length_append, List.length_cons]
    omega
  have hwrites : (∃ l, z'.shared.config.forbidden = .ok l ∧ host ∈ l) ∧
      ∀ reply ∈ x.effect? z.shared r, reply.writesList → hostOf urls task ≠ some host := by
    rcases m.appends_or with ⟨key, lock, n, read, a, rfl, rfl, heffect, hset⟩ | ⟨hsame, hquiet⟩
    · rw [heffect] at hsince
      obtain ⟨hmem, hother⟩ := hholds.writes h heq hw hhost m rfl hsince
      exact ⟨⟨read ++ [key], hset, List.mem_append_left _ hmem⟩, fun _ _ _ => hother⟩
    · refine ⟨hsame ▸ hholds.stored, fun reply hreply hwritten => ?_⟩
      rw [hreply, Option.any_some, hwritten] at hquiet
      cases hquiet
  obtain ⟨hstored, hother⟩ := hwrites
  refine ⟨hstored, ?_, ?_⟩
  · intro j key lock n l hj hread
    rcases m.reads_or hj with ⟨-, -, hnow⟩ | ⟨hne, hj⟩
    · obtain ⟨l', hl', hmem⟩ := hstored
      rw [hnow hx, Except.ok.injEq] at hl'
      exact hl' ▸ hmem
    · refine hholds.carried hj ?_
      rw [hdrop, HostWatch.hasRead, List.any_append, Bool.or_eq_true] at hread
      refine hread.resolve_right fun hlast => ?_
      obtain ⟨e, he, hej⟩ := List.any_eq_true.mp hlast
      obtain ⟨reply, -, rfl⟩ := List.mem_map.mp he
      exact hne (of_decide_eq_true hej).1.symm
  · intro e he hwritten
    rw [hdrop, List.mem_append] at he
    rcases he with he | he
    · exact hholds.alone e he hwritten
    · obtain ⟨reply, hreply, rfl⟩ := List.mem_map.mp he
      exact hother reply (Option.mem_toList.mp hreply) hwritten

/-- What holds of a hostname when it has been appended holds as long as whoever writes the list has
read it since. -/
theorem Run.holds {k : Nat} {host : String} {before after : List (Nat × Reply)} {w : Reply}
    (h : Run ownList (start .perHostname urls s) log z) (heq : log = before ++ (k, w) :: after)
    (hw : w.storesList) (hhost : hostOf urls k = some host)
    (hsince : ReadSince urls host (before.length + 1) log) :
    z.Holds urls host (before.length + 1) log := by
  have hwrites := Reply.writesList_of_storesList hw
  refine h.invariant (fun log y => ∀ after, log = before ++ (k, w) :: after →
    ReadSince urls host (before.length + 1) log → y.Holds urls host (before.length + 1) log)
    ?_ ?_ ?_ after heq hsince
  · intro after hnil
    exact absurd hnil.symm (List.append_ne_nil_of_right_ne_nil _ (List.cons_ne_nil _ _))
  · intro x task g r g' log y y' hy ih hx m after heq hsince
    have old : ∀ after', log = before ++ (k, w) :: after' →
        y'.Holds urls host (before.length + 1)
          (log ++ (x.effect? y.shared r).toList.map (task, ·)) := fun after' hlog =>
      (ih after' hlog hsince.of_append).moves hy hlog hwrites hhost hx m hsince
    cases hq : x.effect? y.shared r with
    | none =>
      rw [hq] at old heq
      exact old after (by simpa using heq)
    | some reply =>
      obtain rfl := Conditions.eq_some_of_effect? hq
      rw [hq] at old heq
      rcases eq_concat_cases heq with ⟨rfl, hlast, -⟩ | ⟨after', -, hlog⟩
      · -- it is the call of the last move
        obtain ⟨rfl, rfl⟩ := Prod.mk.inj hlast
        exact m.holds hy.reaches.traced hw hq hhost
      · exact old after' hlog
  · intro log y t ih ht after heq hsince
    have hholds := ih after heq hsince
    obtain ⟨l, hl, hmem⟩ := hholds.stored
    exact ⟨⟨l, (forbidden_put ht).trans hl, hmem⟩, hholds.carried, hholds.alone⟩

/-- After a decision has appended its hostname and the hostname is not written over, it is listed,
and no other decision appends it. -/
theorem Run.listed_since (h : Run ownList (start .perHostname urls s) log z)
    {before after : List (Nat × Reply)} {k : Nat} {value : Bytes} {host : String}
    (heq : log = before ++ (k, .configWritten forbiddenKey value (.ok ())) :: after)
    (hhost : hostOf urls k = some host) (hkept : NotOverwritten urls host log) :
    (∃ l, z.shared.config.forbidden = .ok l ∧ host ∈ l) ∧
      ∀ e ∈ after, e.2.writesList → hostOf urls e.1 ≠ some host := by
  have hholds := h.holds heq rfl hhost (hkept _ _ _ _ heq rfl hhost)
  have hdrop : log.drop (before.length + 1) = after := by rw [heq, drop_append_cons]
  exact ⟨hholds.stored, hdrop ▸ hholds.alone⟩

/-! ### Promotions -/

/-- A step stores the list that its decision has read last with the hostname appended, or it stores
no list. -/
theorem Run.stores_appended (h : Run ownList (start .perHostname urls s) log z) (x : Conditions)
    (task : Nat) {l : ForbiddenList} (hl : z.shared.config.forbidden = .ok l) :
    (z.step x task).shared.config.forbidden = .ok l ∨
      ∃ host read, hostOf urls task = some host ∧ lastList? task z.replies = some read ∧
        (z.step x task).shared.config.forbidden = .ok (read ++ [host]) ∧
        (∀ j ∈ meanwhile task log, hostOf urls j ≠ some host) ∧
        (meanwhile task log = [] → read = l) := by
  have htraced := h.reaches.traced
  rcases z.step_eq_or_moves x task with heq | ⟨g, r, g', m⟩
  · rw [heq]
    exact .inl hl
  · rcases m.appends_or with ⟨host, lock, n, read, a, rfl, rfl, -, hset⟩ | ⟨hsame, -⟩
    · refine .inr ⟨host, read, htraced.hostOf m.before rfl, ?_, hset, h.current.foreign m.before,
        fun hfresh => ?_⟩
      · obtain ⟨url, -, hpast⟩ := htraced.past m.before
        obtain ⟨_, _, _, _, _, _, b, -, -, -, hb, -, hcalls⟩ := Stage.Counting.writeList hpast
        have hlast : Reply.list? (.configRead forbiddenKey b) = some read := by
          rw [Reply.list?, if_pos rfl, hb]
          rfl
        rw [lastList?, hcalls]
        change (List.filterMap Reply.list? ([_, _, _, _] ++ [_])).getLast? = _
        rw [List.filterMap_append, List.filterMap_cons_some hlast, List.filterMap_nil,
          List.getLast?_concat]
      · have hread := h.current.fresh m.before hfresh
        rw [hl, Except.ok.injEq] at hread
        exact hread.symm
    · exact .inl (hsame.trans hl)

/-- A decision that has listed its hostname has appended it with a call that took effect. -/
theorem Run.blacklisted (h : Run ownList (start .perHostname urls s) log z) {k : Nat} {n : Int64}
    {host : String} (hk : z.decision? k = some (.blacklisted n))
    (hhost : hostOf urls k = some host) :
    ∃ value, (k, Reply.configWritten forbiddenKey value (.ok ())) ∈ log := by
  obtain ⟨l, hl⟩ := h.reaches.traced.blacklisted hk hhost
  exact ⟨_, h.mem_of_answered hl⟩

/-- Two decisions that have both listed one hostname are the same, if it is not written over. -/
theorem Run.listed_once (h : Run ownList (start .perHostname urls s) log z) {k k' : Nat}
    {n n' : Int64} {host : String} (hkept : NotOverwritten urls host log)
    (hk : z.decision? k = some (.blacklisted n)) (hhost : hostOf urls k = some host)
    (hk' : z.decision? k' = some (.blacklisted n')) (hhost' : hostOf urls k' = some host) :
    k = k' := by
  by_contra hne
  obtain ⟨value, hv⟩ := h.blacklisted hk hhost
  obtain ⟨value', hv'⟩ := h.blacklisted hk' hhost'
  obtain ⟨before, after, heq⟩ := List.append_of_mem hv
  -- one of the two lists was written after the other one
  rw [heq, List.mem_append, List.mem_cons] at hv'
  rcases hv' with hv' | hv' | hv'
  · obtain ⟨before, mid, rfl⟩ := List.append_of_mem hv'
    rw [List.append_assoc, List.cons_append] at heq
    have hlater := (h.listed_since heq hhost' hkept).2
    exact hlater _ (List.mem_append_right _ List.mem_cons_self) rfl hhost
  · exact hne (congrArg Prod.fst hv').symm
  · exact (h.listed_since heq hhost hkept).2 _ hv' rfl hhost'

/-- Two reports of one hostname and one of another. -/
def threeReports : Scene :=
  start .perHostname ["http://[::1]/", "http://[::2]/", "http://[::1]/"] (.withThreshold 1)

theorem truthful_turns (tasks : List Nat) : ∀ m ∈ turns tasks, ownList.may m.1 := by
  intro m hm
  obtain ⟨task, -, rfl⟩ := List.mem_map.mp hm
  exact Conditions.truthful_of_answered rfl

/-- Two decisions on different hostnames read the empty list, and one appends its hostname. -/
def firstTurns : List (Conditions × Nat) :=
  turns [0, 1, 0, 1, 0, 1, 0, 1, 0, 1, 0, 1, 0, 1, 0, 1, 0]

/-- Both decisions have read the empty list, and one has appended its hostname. -/
def overlap : Scene := threeReports.play firstTurns

theorem run_overlap : Run ownList threeReports (playEffects firstTurns threeReports) overlap :=
  Run.refl.play firstTurns (truthful_turns _)

/-- The other decision may not write the list that it has read, and all come to their ends. -/
def refusal : List (Conditions × Nat) :=
  ({ writes := .refused .transport }, 1) ::
    turns ([0, 1, 0, 1, 0, 1, 0, 1, 0] ++ List.replicate 4 2)

/-- Both decisions have come to their ends. -/
def overlapped : Scene :=
  overlap.play (turns [1, 0, 1, 0, 1, 0, 1, 0, 1, 0, 1])

/-- The last report has been handled. -/
def relisted : Scene := overlapped.play (turns (List.replicate 14 2))

end Scene

end HostWatch
