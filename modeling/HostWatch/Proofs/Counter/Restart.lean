import HostWatch.Proofs.Counter.Saved

/-!
# Counters survive a restart

A program that is started again opens its counters over the same file under the same name. Whatever
was done to them before, a number or any text written, for good or for some time, expired entries
purged, saves that failed: the counters read as if it had not been started again. One lemma says
what each action does to what is read and that the file goes along (`Saved.perform`); opening the
file again and purging do nothing to what is read, so two histories that differ in these alone stay
alike (`Alike.run`), and what holds of two alike stores is `Survives`.
-/

namespace HostWatch

/-- Something that is done to counters. -/
inductive CounterAction where
  /-- Write a number. The file cannot be replaced if a reason is given. -/
  | set (fault : Option FileFault) (key : String) (n : Int64) (life : Lifetime)
  /-- Write a text. The file cannot be replaced if a reason is given. -/
  | setText (fault : Option FileFault) (key text : String) (life : Lifetime)
  /-- Drop the entries that have expired. -/
  | purge
  /-- Open the store again, over the same file and under the same name. -/
  | reload
  deriving DecidableEq, Repr

namespace CounterAction

open CounterStore

/-- The action does not write. -/
def Idle : CounterAction → Prop
  | set .. => False
  | setText .. => False
  | purge => True
  | reload => True

/-- What an action is answered by a store that has a file. -/
def outcome : CounterAction → Except CounterError Unit
  | set (some fault) .. => .error (.storage fault)
  | setText (some fault) .. => .error (.storage fault)
  | _ => .ok ()

/-- What an action does to entries, as far as they are read. -/
def effect (now : Nat) (name : String) : CounterAction → Keyed CounterEntry → Keyed CounterEntry
  | set none key n life => Keyed.insert (fullKey name key) ⟨format n, expiry now life⟩
  | setText none key text life => Keyed.insert (fullKey name key) ⟨text, expiry now life⟩
  | _ => id

theorem Idle.effect {a : CounterAction} (h : a.Idle) (now : Nat) (name : String)
    (m : Keyed CounterEntry) : a.effect now name m = m := by
  cases a with
  | set => cases h
  | setText => cases h
  | purge => rfl
  | reload => rfl

/-- What reads the same before an action does so afterwards. -/
theorem sameFrom_effect {now : Nat} {m m' : Keyed CounterEntry} (h : SameFrom now m m')
    (a : CounterAction) (name : String) :
    SameFrom now (a.effect now name m) (a.effect now name m') := by
  cases a with
  | set fault =>
    cases fault with
    | none => exact h.insert _ _
    | some fault => exact h
  | setText fault =>
    cases fault with
    | none => exact h.insert _ _
    | some fault => exact h
  | purge => exact h
  | reload => exact h

end CounterAction

/-- Something that is done to counters at an instant. -/
structure CounterEvent where
  /-- When it is done. -/
  now : Nat
  /-- What is done. -/
  action : CounterAction
  deriving DecidableEq, Repr

namespace CounterStore

/-! ### Doing things one after another -/

/-- The store after an attempt, and whether it succeeded; after a failure it is as given. -/
def settle (s : CounterStore) : Except CounterError CounterStore →
    Except CounterError Unit × CounterStore
  | .ok t => (.ok (), t)
  | .error e => (.error e, s)

/-- Do something at an instant, and say whether it succeeded. -/
def perform (now : Nat) (a : CounterAction) (s : CounterStore) :
    Except CounterError Unit × CounterStore :=
  match a with
  | .set fault key n life => (access now).set key n life (s.obstruct fault)
  | .setText fault key text life =>
    settle (s.obstruct fault) ((s.obstruct fault).setText now key text life)
  | .purge => (.ok (), s.purge now)
  | .reload => settle s (openAt now s.name s.file)

/-- The store after a history. -/
def run (es : List CounterEvent) (s : CounterStore) : CounterStore :=
  es.foldl (fun s e => (perform e.now e.action s).2) s

/-- The second history is the first one with purges and reloads put in. -/
inductive Sprinkled : List CounterEvent → List CounterEvent → Prop
  /-- Nothing is done. -/
  | nil : Sprinkled [] []
  /-- The same is done next in both. -/
  | keep (e : CounterEvent) {es es' : List CounterEvent} :
    Sprinkled es es' → Sprinkled (e :: es) (e :: es')
  /-- Expired entries are purged or the store is opened again in the second. -/
  | extra {e : CounterEvent} {es es' : List CounterEvent} :
    e.action.Idle → Sprinkled es es' → Sprinkled es (e :: es')

/-! ### What an action does -/

/-- Writing a number is writing its text. -/
theorem perform_set (now : Nat) (fault : Option FileFault) (key : String) (n : Int64)
    (life : Lifetime) (s : CounterStore) :
    perform now (.set fault key n life) s = perform now (.setText fault key (format n) life) s := by
  simp only [perform, access, CounterStore.set]
  cases (s.obstruct fault).setText now key (format n) life <;> rfl

namespace Saved

variable {now : Nat} {s : CounterStore} {f : SnapshotFile} {m : Keyed CounterEntry}

theorem perform_setText (h : Saved now s f m) (fault : Option FileFault) (key text : String)
    (life : Lifetime) : ∃ t f' m',
      perform now (.setText fault key text life) s =
        ((CounterAction.setText fault key text life).outcome, t) ∧ t.name = s.name ∧
      Saved now t f' m' ∧ t.entries =
        (CounterAction.setText fault key text life).effect now s.name s.entries := by
  cases fault with
  | none =>
    obtain ⟨t, ht, -⟩ := setText_of_replaceable s.replaceable_obstruct now key text life
    obtain ⟨hname, hentries⟩ := setText_eq ht
    obtain ⟨f', m', hsaved⟩ := (h.obstruct none).setText ht
    exact ⟨t, f', m', by rw [perform, ht]; rfl, hname, hsaved, hentries⟩
  | some fault =>
    refine ⟨s.obstruct (some fault), f.obstruct (some fault), m, ?_, rfl, h.obstruct _, rfl⟩
    rw [perform, setText_obstruct_some h.file]
    rfl

/-- An action does to what is read what it is to do, and the file goes along. -/
theorem perform (h : Saved now s f m) (a : CounterAction) : ∃ t f' m',
    CounterStore.perform now a s = (a.outcome, t) ∧ t.name = s.name ∧ Saved now t f' m' ∧
      SameFrom now t.entries (a.effect now s.name s.entries) := by
  cases a with
  | set fault key n life =>
    obtain ⟨t, f', m', hperform, hname, hsaved, hentries⟩ :=
      h.perform_setText fault key (format n) life
    rw [perform_set, hperform]
    refine ⟨t, f', m', ?_, hname, hsaved, ?_⟩
    · cases fault <;> rfl
    · rw [hentries]
      cases fault <;> exact SameFrom.refl _ _
  | setText fault key text life =>
    obtain ⟨t, f', m', hperform, hname, hsaved, hentries⟩ := h.perform_setText fault key text life
    exact ⟨t, f', m', hperform, hname, hsaved, hentries ▸ SameFrom.refl _ _⟩
  | purge =>
    obtain ⟨hsaved, hsame⟩ := h.purge
    exact ⟨s.purge now, f, m, rfl, rfl, hsaved, hsame⟩
  | reload =>
    obtain ⟨r, hopen, hname, hsaved, hsame⟩ := h.reload
    exact ⟨r, f, m, by rw [CounterStore.perform, hopen]; rfl, hname, hsaved, hsame⟩

end Saved

/-! ### Two histories -/

/-- Two stores of one name read the same from an instant on, in memory and from their files. -/
structure Alike (now : Nat) (s s' : CounterStore) : Prop where
  /-- They have one name. -/
  name : s'.name = s.name
  /-- The file of the one reads what its memory does. -/
  saved : ∃ f m, Saved now s f m
  /-- The file of the other reads what its memory does. -/
  saved' : ∃ f m, Saved now s' f m
  /-- They read the same. -/
  same : SameFrom now s'.entries s.entries

namespace Alike

variable {now later : Nat} {s s' : CounterStore} {es es' : List CounterEvent}

theorem mono (h : Alike now s s') (hle : now ≤ later) : Alike later s s' where
  name := h.name
  saved := h.saved.imp fun _ => .imp fun _ hs => hs.mono hle
  saved' := h.saved'.imp fun _ => .imp fun _ hs => hs.mono hle
  same := h.same.mono hle

/-- Alike stores stay alike if the same is done to both. -/
theorem both (h : Alike now s s') (a : CounterAction) :
    Alike now (perform now a s).2 (perform now a s').2 := by
  obtain ⟨f, m, hs⟩ := h.saved
  obtain ⟨f', m', hs'⟩ := h.saved'
  obtain ⟨t, g, n, ht, hname, hsaved, hsame⟩ := hs.perform a
  obtain ⟨t', g', n', ht', hname', hsaved', hsame'⟩ := hs'.perform a
  rw [h.name] at hname' hsame'
  rw [ht, ht']
  exact ⟨hname'.trans hname.symm, ⟨g, n, hsaved⟩, ⟨g', n', hsaved'⟩,
    (hsame'.trans (a.sameFrom_effect h.same _)).trans hsame.symm⟩

/-- Alike stores stay alike if one of them is purged or opened again. -/
theorem idle (h : Alike now s s') {a : CounterAction} (ha : a.Idle) :
    Alike now s (perform now a s').2 := by
  obtain ⟨f', m', hs'⟩ := h.saved'
  obtain ⟨t', g', n', ht', hname', hsaved', hsame'⟩ := hs'.perform a
  rw [ha.effect] at hsame'
  rw [ht']
  exact ⟨hname'.trans h.name, h.saved, ⟨g', n', hsaved'⟩, hsame'.trans h.same⟩

/-- Alike stores stay alike over two histories that differ in purges and reloads alone. -/
theorem run (h : Alike now s s') (hes : Sprinkled es es')
    (hclock : (now :: (es'.map (·.now) ++ [later])).Pairwise (· ≤ ·)) :
    Alike later (run es s) (run es' s') := by
  induction hes generalizing now s s' with
  | nil => exact h.mono ((List.pairwise_cons.mp hclock).1 later (List.mem_singleton.mpr rfl))
  | keep e _ ih =>
    obtain ⟨hnow, hrest⟩ := List.pairwise_cons.mp hclock
    exact ih ((h.mono (hnow e.now List.mem_cons_self)).both e.action) hrest
  | @extra e es es' hidle _ ih =>
    obtain ⟨hnow, hrest⟩ := List.pairwise_cons.mp hclock
    exact ih ((h.mono (hnow e.now List.mem_cons_self)).idle hidle) hrest

end Alike

/-! ### What survives -/

/-- Every counter reads the same in two stores from an instant on, a number or the fault of a text
that is none. -/
def ReadsAs (now : Nat) (s s' : CounterStore) : Prop :=
  ∀ t, now ≤ t → t < lastInstant → ∀ key, s.get t key = s'.get t key

theorem ReadsAs.of_sameFrom {now : Nat} {s s' : CounterStore} (hname : s.name = s'.name)
    (h : SameFrom now s.entries s'.entries) : ReadsAs now s s' := by
  intro t ht hlast key
  rw [get_eq, get_eq, hname, h t ht hlast]

/-- What two histories of one store come to at an instant, the second of which has purges and
reloads put in. -/
structure Survives (now : Nat) (s s' : CounterStore) : Prop where
  /-- Every counter reads the same. -/
  reads : ReadsAs now s' s
  /-- The files hold entries that read the same. -/
  files : ∃ f m f' m', s.file = some f ∧ f.contents reader = .ok m ∧
    s'.file = some f' ∧ f'.contents reader = .ok m' ∧ SameFrom now m' m
  /-- Once more opened from its file, the store reads the same. -/
  reloads : ∃ r, perform now .reload s' = (.ok (), r) ∧ ReadsAs now r s'
  /-- A number that is written is read back until it expires, all else as before, and the same after
  a reload. -/
  written : ∀ key n life, ∃ r r', perform now (.set none key n life) s' = (.ok (), r) ∧
    perform now .reload r = (.ok (), r') ∧ ReadsAs now r' r ∧
    ∀ t, now ≤ t → t < lastInstant → ∀ key', r.get t key' =
      if key' = key then .ok (if (expiry now life).all (t < ·) then n else 0) else s'.get t key'
  /-- A write whose save fails changes nothing that is read, nor does it after a reload. -/
  failed : ∀ fault key text life, ∃ r r',
    perform now (.setText (some fault) key text life) s' = (.error (.storage fault), r) ∧
    perform now .reload r = (.ok (), r') ∧ ReadsAs now r s' ∧ ReadsAs now r' s'

namespace Saved

variable {now : Nat} {s : CounterStore} {f : SnapshotFile} {m : Keyed CounterEntry}

theorem reloads (h : Saved now s f m) : ∃ r, CounterStore.perform now .reload s = (.ok (), r) ∧
    ReadsAs now r s := by
  obtain ⟨r, -, -, hperform, hname, -, hsame⟩ := h.perform .reload
  exact ⟨r, hperform, .of_sameFrom hname hsame⟩

theorem get_set (h : Saved now s f m) (key : String) (n : Int64) (life : Lifetime) :
    ∃ r f' m', CounterStore.perform now (.set none key n life) s = (.ok (), r) ∧ Saved now r f' m' ∧
      ∀ t, now ≤ t → t < lastInstant → ∀ key', r.get t key' =
        if key' = key then .ok (if (expiry now life).all (t < ·) then n else 0)
        else s.get t key' := by
  obtain ⟨r, f', m', hperform, hname, hsaved, hsame⟩ := h.perform (.set none key n life)
  refine ⟨r, f', m', hperform, hsaved, fun t ht hlast key' => ?_⟩
  rw [get_eq, hname, hsame t ht hlast, CounterAction.effect, answer_insert, get_eq]

end Saved

theorem Alike.survives {now : Nat} {s s' : CounterStore} (h : Alike now s s') :
    Survives now s s' := by
  obtain ⟨f, m, hs⟩ := h.saved
  obtain ⟨f', m', hs'⟩ := h.saved'
  refine ⟨.of_sameFrom h.name h.same, ⟨f, m, f', m', hs.file, hs.contents, hs'.file, hs'.contents,
    (hs'.same.symm.trans h.same).trans hs.same⟩, hs'.reloads, fun key n life => ?_,
    fun fault key text life => ?_⟩
  · obtain ⟨r, g, n', hperform, hsaved, hget⟩ := hs'.get_set key n life
    obtain ⟨r', hreload, hreads⟩ := hsaved.reloads
    exact ⟨r, r', hperform, hreload, hreads, hget⟩
  · obtain ⟨r, g, n', hperform, hname, hsaved, hsame⟩ :=
      hs'.perform (.setText (some fault) key text life)
    obtain ⟨r', hreload, hreads⟩ := hsaved.reloads
    have hr : ReadsAs now r s' := .of_sameFrom hname hsame
    exact ⟨r, r', hperform, hreload, hr, fun t ht hlast key' =>
      (hreads t ht hlast key').trans (hr t ht hlast key')⟩

/-- A store that was opened from its file comes to the same after any history, whenever in it
expired entries are purged and the store is opened again. This holds at each moment of a longer
history too, since what has been done until then is a history. The clock does not run backwards. -/
theorem run_survives {opened now : Nat} {name : String} {f : SnapshotFile} {s : CounterStore}
    {es es' : List CounterEvent} (hopen : openFile opened name f = .ok s) (hes : Sprinkled es es')
    (hclock : (opened :: (es'.map (·.now) ++ [now])).Pairwise (· ≤ ·)) :
    Survives now (run es s) (run es' s) := by
  obtain ⟨m, hs⟩ := Saved.openFile hopen
  exact (Alike.run ⟨rfl, ⟨f, m, hs⟩, ⟨f, m, hs⟩, SameFrom.refl _ _⟩ hes hclock).survives

/-- A failed save, an expiry and a text that is no number, with a purge and two reloads put in. -/
theorem run_survives_reloaded :
    Survives 9
      (run [⟨1, .set none "a.onion" 3 .unlimited⟩,
        ⟨3, .setText (some .notFound) "a.onion" "4" .unlimited⟩,
        ⟨4, .setText none "b.onion" "lots" (.millis 5)⟩] ⟨"down", [], some {}⟩)
      (run [⟨1, .set none "a.onion" 3 .unlimited⟩, ⟨2, .reload⟩,
        ⟨3, .setText (some .notFound) "a.onion" "4" .unlimited⟩,
        ⟨4, .setText none "b.onion" "lots" (.millis 5)⟩, ⟨6, .reload⟩, ⟨9, .purge⟩]
        ⟨"down", [], some {}⟩) := by
  have hopen : openFile 0 "down" {} = .ok ⟨"down", [], some {}⟩ := rfl
  refine run_survives hopen (.keep _ (.extra trivial (.keep _ (.keep _ (.extra trivial
    (.extra trivial .nil)))))) ?_
  decide

end CounterStore

end HostWatch
