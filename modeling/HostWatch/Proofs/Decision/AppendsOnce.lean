import HostWatch.Proofs.Decision.Promotion

/-!
# A hostname is appended once

All reports are about one hostname, and decisions are guarded per hostname. Calls may fail, with or
without effect. No two decisions are in the guarded section at the same time, so the list that one
of them has read there is still the one that is stored when it writes (`AppendsOnce`). A list that
has the hostname is never read in order to append it, so the hostname is appended by one successful
write at most (`Scene.Reaches.appendsOnce`).
-/

namespace HostWatch

theorem host_eq_of_hostOf {urls : List String} {host key : String} {k : Nat}
    (hurls : ∀ url ∈ urls, hostname? url = some host) (h : hostOf urls k = some key) :
    key = host := by
  obtain ⟨url, hurl, hkey⟩ := Option.bind_eq_some_iff.mp h
  rw [hurls url (List.mem_of_getElem? hurl), Option.some.injEq] at hkey
  exact hkey.symm

/-- How many calls of a kind are on record. -/
def tally (p : Reply → Bool) (replies : List (Nat × Reply)) : Nat :=
  replies.countP fun e => p e.2

/-- One more call, if one is made, counts if it is of the kind. -/
theorem tally_append (p : Reply → Bool) (replies : List (Nat × Reply)) (task : Nat)
    (r : Option Reply) :
    tally p (replies ++ r.toList.map (task, ·)) = tally p replies + (r.any p).toNat := by
  rw [tally, List.countP_append, ← tally]
  cases r with
  | none => rfl
  | some reply => cases h : p reply <;> simp [h]

namespace Scene

variable {urls : List String} {host : String} {l : ForbiddenList} {s : Shared} {x : Conditions}
  {task : Nat} {g g' : Stage} {r : Option Reply} {z z' : Scene}

/-- The list is the first one, or has the hostname appended to it. -/
structure AppendsOnce (l : ForbiddenList) (host : String) (z : Scene) : Prop where
  /-- A list that has been read in order to append the hostname is the one that is stored. -/
  fresh : ∀ {k : Nat} {key lock n read},
    z.engine.tasks[k]? = some (.updating key lock (.writeList n read)) →
    z.shared.config.forbidden = .ok read
  /-- Nothing was appended, or the hostname was, by one call at most. -/
  list : z.shared.config.forbidden = .ok l ∧ tally Reply.storesList z.replies = 0 ∨
    z.shared.config.forbidden = .ok (l ++ [host]) ∧ tally Reply.storesList z.replies ≤ 1

theorem appendsOnce_start (guard : Settings.Guard) (urls : List String)
    (hl : s.config.forbidden = .ok l) : (start guard urls s).AppendsOnce l host where
  fresh h := by
    obtain ⟨url, -, heq⟩ := of_tasks_start h
    cases heq
  list := .inl ⟨hl, rfl⟩

/-- The list that was read stays the one that is stored: whoever writes it is in the section. -/
theorem AppendsOnce.moves_fresh (h : z.AppendsOnce l host) (ht : z.Traced .perHostname urls)
    (hg : z.Guarded) (hurls : ∀ url ∈ urls, hostname? url = some host) (hx : x.Truthful)
    (m : Moves x task g r g' z z') {k : Nat} {key : String} {lock : Option Nat} {n : Int64}
    {read : ForbiddenList}
    (hk : z'.engine.tasks[k]? = some (.updating key lock (.writeList n read))) :
    z'.shared.config.forbidden = .ok read := by
  rcases m.reads_or hk with ⟨-, -, hread⟩ | ⟨hne, hk⟩
  · exact hread hx
  · rcases m.writes_or with ⟨key', lock', n', l', a, rfl, -⟩ | ⟨hsame, -⟩
    · obtain rfl := host_eq_of_hostOf hurls (ht.hostOf hk rfl)
      obtain rfl := host_eq_of_hostOf hurls (ht.hostOf m.before rfl)
      exact absurd (hg.exclusive hk m.before) hne
    · rw [hsame]
      exact h.fresh hk

theorem AppendsOnce.moves (h : z.AppendsOnce l host) (ht : z.Traced .perHostname urls)
    (hg : z.Guarded) (hurls : ∀ url ∈ urls, hostname? url = some host) (hx : x.Truthful)
    (m : Moves x task g r g' z z') : z'.AppendsOnce l host where
  fresh := h.moves_fresh ht hg hurls hx m
  list := by
    rw [m.replies, tally_append]
    rcases m.writes_or with ⟨key, lock, n, read, a, rfl, rfl, hmaybe, hok⟩ | ⟨hsame, hquiet⟩
    · obtain rfl := host_eq_of_hostOf hurls (ht.hostOf m.before rfl)
      have hread := h.fresh m.before
      obtain ⟨url, -, hpast⟩ := ht.past m.before
      obtain ⟨_, _, _, _, _, _, _, -, -, -, -, hunlisted, -⟩ := Stage.Counting.writeList hpast
      rcases h.list with ⟨hl, hnone⟩ | ⟨hl, -⟩
      · cases hread.symm.trans hl
        rw [hnone, Nat.zero_add]
        cases a with
        | ok _ => exact .inr ⟨hok rfl, Nat.le_refl 1⟩
        | error e =>
          rcases hmaybe with hkept | hset
          · exact .inl ⟨hkept.trans hl, rfl⟩
          · exact .inr ⟨hset, Nat.zero_le 1⟩
      · -- a list with the hostname is not read in order to append it
        cases hread.symm.trans hl
        exact absurd (ForbiddenList.listed_append l key) hunlisted
    · have hnone : r.any Reply.storesList = false := by
        cases r with
        | none => rfl
        | some reply =>
          refine Bool.eq_false_iff.mpr fun hstores => ?_
          exact Bool.false_ne_true
            ((hquiet reply rfl).symm.trans (Reply.writesList_of_storesList hstores))
      rw [hsame, hnone]
      exact h.list

theorem AppendsOnce.others {t : Shared} (h : z.AppendsOnce l host)
    (ht : t.config.get forbiddenKey = z.shared.config.get forbiddenKey) :
    (z.put t).AppendsOnce l host where
  fresh hk := (forbidden_put ht).trans (h.fresh hk)
  list := by
    rw [forbidden_put ht]
    exact h.list

/-- Where all reports are about one hostname, it is appended once at most, whatever calls fail. -/
theorem Reaches.appendsOnce (hurls : ∀ url ∈ urls, hostname? url = some host)
    (hl : s.config.forbidden = .ok l) (h : Reaches ownList (start .perHostname urls s) z) :
    z.AppendsOnce l host :=
  h.invariant (AppendsOnce l host) (appendsOnce_start .perHostname urls hl)
    (fun hy ha hx m => ha.moves hy.traced hy.guarded hurls hx m) (fun ha ht => ha.others ht)

end Scene

end HostWatch
