import HostWatch.Config.Writing
import HostWatch.Proofs.Config.StoreFile
import HostWatch.Proofs.Decision.Moves
import Mathlib.Logic.Relation

/-!
# A store mirrors its file

Any number of writes to a store that was opened over a file are under way at once, and any of them
may fail. `SharedStore.Goes` is all that a step of a write does. At each point nobody has its turn,
and the file holds the entries in memory, or one write has it, and what that write has done so far
says what the file holds (`Phase`). One case for each step shows that this is kept.

A write that has replaced the file will succeed, so one that ends in an error has changed nothing.
The entries in memory are those that the file held at the beginning with those of the successful
writes put among them, one after another (`Logged`); none of them is lost.

`Reaches.mirrored` says what this comes to for those who read the memory, for those who read the
file, and for those who open the file again. The file is replaced first, so whoever reads a key in
memory while it is written over may get the old value, which is no longer in the file
(`get_behind_file`). It never gets more than that behind: what is read is in the file, or the write
in progress has taken it out.
-/

namespace HostWatch

namespace SharedStore

/-! ### Steps -/

/-- What a step of a write with some key and value does: from one stage to another, while the store
goes from `s` to `t`. -/
inductive Goes (key : String) (value : Bytes) (s t : ConfigStore) :
    WriteAction → WriteStage → WriteStage → Prop where
  /-- It takes its turn. -/
  | begins : t = s → Goes key value s t .begin .waiting .holding
  /-- It gathers the entries in memory, with its own among them. -/
  | gathers : t = s → Goes key value s t .gather .holding (.gathered (s.entries.insert key value))
  /-- It replaces the file. -/
  | saves {f g snapshot} : s.file = some f → f.replace (ConfigStore.encode snapshot) = .ok g →
    t = { s with file := some g } → Goes key value s t .save (.gathered snapshot) .saved
  /-- It fails to replace the file. -/
  | fails {a snapshot fault} : t = s →
    Goes key value s t a (.gathered snapshot) (.ended (.error (.storage fault)))
  /-- It changes the memory. -/
  | commits : t = { s with entries := s.entries.insert key value } →
    Goes key value s t .commit .saved (.ended (.ok ()))

/-- In the step from `z` to `z'` the write of a number goes from stage `g` to `g'`. -/
structure Moves (i : Nat) (a : WriteAction) (key : String) (value : Bytes) (g g' : WriteStage)
    (z z' : SharedStore) : Prop where
  /-- The write stood at `g`. -/
  before : z.writes[i]? = some ⟨key, value, g⟩
  /-- It goes to `g'`. -/
  goes : Goes key value z.store z'.store a g g'
  /-- No other write moves. -/
  writes : z'.writes = z.writes.set i ⟨key, value, g'⟩
  /-- It takes its turn only when no other has it. -/
  idle : g = .waiting → z.isBusy = false

/-- One step: another write comes in, or one of those that are there goes on. -/
inductive Step : SharedStore → SharedStore → Prop where
  /-- Another write comes in. -/
  | add {z} (key : String) (value : Bytes) : Step z (z.add key value)
  /-- A write goes on. -/
  | act {z z'} (i : Nat) (a : WriteAction) : z.act i a = some z' → Step z z'

/-- Any number of steps. -/
abbrev Reaches : SharedStore → SharedStore → Prop := Relation.ReflTransGen Step

variable {z₀ z z' : SharedStore} {i j : Nat} {a : WriteAction} {v w : StoreWrite} {key : String}
  {value : Bytes} {g g' : WriteStage} {f : SnapshotFile} {m : Keyed Bytes}

theorem writes_moveTo (hw : z.writes[i]? = some ⟨key, value, g⟩) (g' : WriteStage) :
    (z.moveTo i g').writes = z.writes.set i ⟨key, value, g'⟩ := by
  simp only [moveTo, List.modify_eq_set_getElem?, hw]
  rfl

/-- A step of a write to a store with a file is a move. -/
theorem moves_of_act (hf : z.store.file = some f) (h : z.act i a = some z') :
    ∃ key value g g', Moves i a key value g g' z z' := by
  cases hw : z.writes[i]? with
  | none => simp [act, hw] at h
  | some w =>
    obtain ⟨key, value, g⟩ := w
    have hset := fun g' => writes_moveTo hw g'
    simp only [act, hw, hf, Option.bind_eq_bind, Option.bind_some] at h
    split at h
    · next hfile => cases hfile
    · split_ifs at h with hbusy
      cases h
      exact ⟨_, _, _, _, hw, .begins rfl, hset _, fun _ => Bool.eq_false_iff.mpr hbusy⟩
    · cases h
      exact ⟨_, _, _, _, hw, .gathers rfl, hset _, fun h => by cases h⟩
    · next snapshot file hfile =>
      cases hfile
      split at h
      · next f' hreplace =>
        cases h
        exact ⟨_, _, _, _, hw, .saves hf hreplace rfl, hset _, fun h => by cases h⟩
      · cases h
        exact ⟨_, _, _, _, hw, .fails rfl, hset _, fun h => by cases h⟩
    · cases h
      exact ⟨_, _, _, _, hw, .fails rfl, hset _, fun h => by cases h⟩
    · cases h
      exact ⟨_, _, _, _, hw, .commits (by rw [hf]; rfl), hset _, fun h => by cases h⟩
    · cases h

/-- The writes after another one has come in. -/
theorem cases_add (hv : (z.add key value).writes[j]? = some v) :
    z.writes[j]? = some v ∨ j = z.writes.length ∧ v = ⟨key, value, .waiting⟩ := by
  rw [add, List.getElem?_append] at hv
  split_ifs at hv with hlt
  · exact .inl hv
  · rw [List.getElem?_singleton] at hv
    split_ifs at hv with hzero
    cases hv
    exact .inr ⟨by omega, rfl⟩

theorem writes_add_of_some (hv : z.writes[j]? = some v) (key : String) (value : Bytes) :
    (z.add key value).writes[j]? = some v := by
  rw [add, List.getElem?_append_left (List.getElem?_eq_some_iff.mp hv).1]
  exact hv

namespace Moves

theorem cases_writes (h : Moves i a key value g g' z z') (hv : z'.writes[j]? = some v) :
    j = i ∧ v = ⟨key, value, g'⟩ ∨ j ≠ i ∧ z.writes[j]? = some v := by
  rw [h.writes] at hv
  exact cases_getElem?_set h.before hv

theorem after (h : Moves i a key value g g' z z') : z'.writes[i]? = some ⟨key, value, g'⟩ := by
  rw [h.writes]
  exact List.getElem?_set_self (List.getElem?_eq_some_iff.mp h.before).1

theorem writes_of_ne (h : Moves i a key value g g' z z') (hne : j ≠ i) :
    z'.writes[j]? = z.writes[j]? := by
  rw [h.writes, List.getElem?_set_ne hne.symm]

end Moves

/-! ### What the file holds -/

/-- What a write that has its turn has made of the file, where `m` are the entries in memory. -/
def Holding (key : String) (value : Bytes) (m : Keyed Bytes) (f : SnapshotFile) :
    WriteStage → Prop
  | .holding => f.entries = .ok m
  | .gathered snapshot => snapshot = m.insert key value ∧ f.entries = .ok m
  | .saved => f.entries = .ok (m.insert key value)
  | _ => False

theorem Holding.hasTurn (h : Holding key value m f g) : g.hasTurn = true := by
  cases g with
  | waiting | ended _ => exact h.elim
  | holding | gathered _ | saved => rfl

/-- No other write than that of a number has its turn. -/
def OnlyTurn (i : Nat) (z : SharedStore) : Prop :=
  ∀ {j : Nat} {v : StoreWrite}, z.writes[j]? = some v → v.stage.hasTurn = true → j = i

theorem isBusy_eq_false_iff : z.isBusy = false ↔
    ∀ {j : Nat} {v : StoreWrite}, z.writes[j]? = some v → v.stage.hasTurn = false := by
  simp only [isBusy, List.any_eq_false, Bool.not_eq_true]
  constructor
  · intro h j v hv
    exact h v (List.mem_of_getElem? hv)
  · intro h v hv
    obtain ⟨j, hj⟩ := List.mem_iff_getElem?.mp hv
    exact h hj

/-- Who has its turn, and what the file holds then. -/
inductive Phase (z : SharedStore) (f : SnapshotFile) : Prop where
  /-- Nobody has its turn, and the file holds the entries in memory. -/
  | free : z.isBusy = false → f.entries = .ok z.store.entries → Phase z f
  /-- One write has its turn. -/
  | held {i : Nat} {key : String} {value : Bytes} {g : WriteStage} :
    z.writes[i]? = some ⟨key, value, g⟩ → z.OnlyTurn i → Holding key value z.store.entries f g →
    Phase z f

namespace Phase

/-- Where nobody has its turn the file holds the entries in memory. -/
theorem of_isBusy (h : Phase z f) (hidle : z.isBusy = false) : f.entries = .ok z.store.entries := by
  cases h with
  | free _ hf => exact hf
  | held hw _ hholding =>
    have hfree := isBusy_eq_false_iff.mp hidle hw
    exact absurd (hfree.symm.trans hholding.hasTurn) Bool.false_ne_true

/-- What a write that has its turn has made of the file, and that it is the only one. -/
theorem of_hasTurn (h : Phase z f) (hw : z.writes[i]? = some ⟨key, value, g⟩)
    (hturn : g.hasTurn = true) : Holding key value z.store.entries f g ∧ z.OnlyTurn i := by
  cases h with
  | free hidle _ =>
    have hfree := isBusy_eq_false_iff.mp hidle hw
    exact absurd (hfree.symm.trans hturn) Bool.false_ne_true
  | held hv hone hholding =>
    obtain rfl := hone hw hturn
    cases hw.symm.trans hv
    exact ⟨hholding, hone⟩

/-- Another write comes in and waits. -/
theorem add (h : Phase z f) (key : String) (value : Bytes) : Phase (z.add key value) f := by
  cases h with
  | free hidle hf =>
    refine .free (isBusy_eq_false_iff.mpr fun hv => ?_) hf
    rcases cases_add hv with hv | ⟨-, rfl⟩
    · exact isBusy_eq_false_iff.mp hidle hv
    · rfl
  | held hw hone hholding =>
    refine .held (writes_add_of_some hw key value) (fun hv hturn => ?_) hholding
    rcases cases_add hv with hv | ⟨-, rfl⟩
    · exact hone hv hturn
    · cases hturn

end Phase

/-- Who has the turn keeps it while no other has it. -/
theorem Moves.held (h : Moves i a key value g g' z z') (hone : z.OnlyTurn i)
    (hholding : Holding key value z'.store.entries f g') : Phase z' f := by
  refine .held h.after (fun hv hturn => ?_) hholding
  rcases h.cases_writes hv with ⟨hj, -⟩ | ⟨-, hv⟩
  · exact hj
  · exact hone hv hturn

/-- Who ends its turn leaves it to nobody. -/
theorem Moves.free (h : Moves i a key value g g' z z') (hone : z.OnlyTurn i)
    (hturn : g'.hasTurn = false) (hf : f.entries = .ok z'.store.entries) : Phase z' f := by
  refine .free (isBusy_eq_false_iff.mpr fun hv => ?_) hf
  rcases h.cases_writes hv with ⟨-, rfl⟩ | ⟨hne, hv⟩
  · exact hturn
  · exact Bool.eq_false_iff.mpr fun hturn => hne (hone hv hturn)

/-- Every step of a write keeps the file in line with its turn. -/
theorem Phase.moves (h : Phase z f) (hf : z.store.file = some f)
    (m : Moves i a key value g g' z z') : ∃ f', z'.store.file = some f' ∧ Phase z' f' := by
  cases hgo : m.goes with
  | begins hstore =>
    have hidle := m.idle rfl
    have hone : z.OnlyTurn i := fun hv hturn =>
      absurd ((isBusy_eq_false_iff.mp hidle hv).symm.trans hturn) Bool.false_ne_true
    refine ⟨f, by rw [hstore, hf], m.held hone ?_⟩
    rw [hstore]
    exact h.of_isBusy hidle
  | gathers hstore =>
    obtain ⟨hentries, hone⟩ := h.of_hasTurn m.before rfl
    refine ⟨f, by rw [hstore, hf], m.held hone ?_⟩
    rw [hstore]
    exact ⟨rfl, hentries⟩
  | saves hfile hreplace hstore =>
    obtain ⟨⟨rfl, hentries⟩, hone⟩ := h.of_hasTurn m.before rfl
    cases hfile.symm.trans hf
    have hordered := (SnapshotFile.ordered_of_entries hentries).insert key value
    refine ⟨_, by rw [hstore], m.held hone ?_⟩
    rw [hstore]
    exact SnapshotFile.entries_replace hentries hordered hreplace
  | fails hstore =>
    obtain ⟨⟨-, hentries⟩, hone⟩ := h.of_hasTurn m.before rfl
    exact ⟨f, by rw [hstore, hf], m.free hone rfl (by rw [hstore]; exact hentries)⟩
  | commits hstore =>
    obtain ⟨hentries, hone⟩ := h.of_hasTurn m.before rfl
    exact ⟨f, by rw [hstore]; exact hf, m.free hone rfl (by rw [hstore]; exact hentries)⟩

/-- While a write has its turn no other goes on. So the entries that it gathers are the same
whenever it looks at each of them. -/
theorem Phase.eq_of_hasTurn (h : Phase z f) (m : Moves i a key value g g' z z')
    (hw : z.writes[j]? = some w) (hturn : w.stage.hasTurn = true) : j = i := by
  cases hgo : m.goes with
  | begins _ =>
    have hfree := isBusy_eq_false_iff.mp (m.idle rfl) hw
    exact absurd (hfree.symm.trans hturn) Bool.false_ne_true
  | gathers _ | saves _ _ _ | fails _ | commits _ => exact (h.of_hasTurn m.before rfl).2 hw hturn

/-- The file holds the entries in memory, or it is ahead of them by the entry of the one write that
has its turn. -/
theorem Phase.shown (h : Phase z f) : f.entries = .ok z.store.entries ∨ ∃ i key value,
    z.writes[i]? = some ⟨key, value, .saved⟩ ∧ z.OnlyTurn i ∧
      f.entries = .ok (z.store.entries.insert key value) := by
  cases h with
  | free _ hf => exact .inl hf
  | @held i key value g hw hone hholding =>
    cases g with
    | waiting | ended _ => exact hholding.elim
    | holding => exact .inl hholding
    | gathered snapshot => exact .inl hholding.2
    | saved => exact .inr ⟨i, key, value, hw, hone, hholding⟩

/-- The store has a file, and the file is in line with whose turn it is. -/
def InStep (z : SharedStore) : Prop :=
  ∃ f, z.store.file = some f ∧ Phase z f

namespace InStep

theorem opened {s : ConfigStore} (h : ConfigStore.openFile f = .ok s) : InStep { store := s } := by
  obtain ⟨hentries, hfile⟩ := SnapshotFile.openFile_eq_ok.mp h
  exact ⟨f, hfile, .free rfl hentries⟩

theorem add (h : z.InStep) (key : String) (value : Bytes) : (z.add key value).InStep := by
  obtain ⟨f, hf, hphase⟩ := h
  exact ⟨f, hf, hphase.add key value⟩

theorem moves (h : z.InStep) (m : Moves i a key value g g' z z') : z'.InStep := by
  obtain ⟨f, hf, hphase⟩ := h
  exact hphase.moves hf m

theorem moves_of_act (h : z.InStep) (hact : z.act i a = some z') :
    ∃ key value g g', Moves i a key value g g' z z' := by
  obtain ⟨f, hf, -⟩ := h
  exact SharedStore.moves_of_act hf hact

/-- What every write that comes in and every move preserves holds wherever a run leads. -/
theorem invariant (h : z₀.InStep) (hz : Reaches z₀ z) (Inv : SharedStore → Prop) (hinit : Inv z₀)
    (add : ∀ {y} key value, Reaches z₀ y → Inv y → Inv (y.add key value))
    (moves : ∀ {y y' i a key value g g'}, Reaches z₀ y → y.act i a = some y' → y.InStep → Inv y →
      Moves i a key value g g' y y' → Inv y') : z.InStep ∧ Inv z := by
  induction hz with
  | refl => exact ⟨h, hinit⟩
  | tail hy step ih =>
    cases step with
    | add key value => exact ⟨ih.1.add key value, add key value hy ih.2⟩
    | act i a hact =>
      obtain ⟨key, value, g, g', m⟩ := ih.1.moves_of_act hact
      exact ⟨ih.1.moves m, moves hy hact ih.1 ih.2 m⟩

theorem reaches (h : z₀.InStep) (hz : Reaches z₀ z) : z.InStep :=
  (h.invariant hz (fun _ => True) trivial (fun _ _ _ _ => trivial) fun _ _ _ _ _ => trivial).1

end InStep

/-! ### Writes that fail -/

/-- The write of a number has replaced the file. -/
def HasReplaced (i : Nat) (z : SharedStore) : Prop :=
  ∃ w, z.writes[i]? = some w ∧ (w.stage = .saved ∨ w.stage = .ended (.ok ()))

theorem HasReplaced.add (h : z.HasReplaced i) (key : String) (value : Bytes) :
    (z.add key value).HasReplaced i := by
  obtain ⟨w, hw, hstage⟩ := h
  exact ⟨w, writes_add_of_some hw key value, hstage⟩

theorem HasReplaced.moves (h : z.HasReplaced j) (m : Moves i a key value g g' z z') :
    z'.HasReplaced j := by
  obtain ⟨w, hw, hstage⟩ := h
  by_cases hij : j = i
  · subst hij
    cases hw.symm.trans m.before
    refine ⟨_, m.after, ?_⟩
    rcases hstage with rfl | rfl <;> cases m.goes
    exact .inr rfl
  · exact ⟨w, (m.writes_of_ne hij).trans hw, hstage⟩

/-- A write that has replaced the file has done so for good, and does not fail. -/
theorem InStep.hasReplaced (h : z.InStep) (hz : Reaches z z') (hi : z.HasReplaced i) :
    z'.HasReplaced i :=
  (h.invariant hz (HasReplaced i) hi (fun key value _ hy => hy.add key value)
    fun _ _ _ hy m => hy.moves m).2

/-- No step of a write that ends in an error changes the store. -/
theorem InStep.unchanged {y y' : SharedStore} {e : ConfigError} (h : y.InStep)
    (hact : y.act i a = some y') (hz : Reaches y' z)
    (hfailed : z.writes[i]? = some ⟨key, value, .ended (.error e)⟩) : y'.store = y.store := by
  obtain ⟨k, v, g, g', m⟩ := h.moves_of_act hact
  have hnot : ¬ y'.HasReplaced i := fun hi => by
    obtain ⟨w, hw, hstage⟩ := (h.moves m).hasReplaced hz hi
    cases hw.symm.trans hfailed
    rcases hstage with hstage | hstage <;> cases hstage
  cases m.goes with
  | begins hstore | gathers hstore | fails hstore => exact hstore
  | saves _ _ _ => exact absurd ⟨_, m.after, .inl rfl⟩ hnot
  | commits _ => exact absurd ⟨_, m.after, .inr rfl⟩ hnot

/-! ### Values that are being overwritten -/

/-- The file held some entries until the write of a number replaced it. -/
def HeldUntil (z₀ : SharedStore) (i : Nat) (m : Keyed Bytes) (z : SharedStore) : Prop :=
  ∃ y y' f, Reaches z₀ y ∧ y.act i .save = some y' ∧ Reaches y' z ∧ y.store.file = some f ∧
    f.entries = .ok m

theorem HeldUntil.add (h : HeldUntil z₀ i m z) (key : String) (value : Bytes) :
    HeldUntil z₀ i m (z.add key value) := by
  obtain ⟨y, y', f, hy, hact, hz, hf⟩ := h
  exact ⟨y, y', f, hy, hact, hz.tail (.add key value), hf⟩

/-- Until a write that has its turn replaced the file, it held the entries that are still in
memory. -/
def Overtaken (z₀ z : SharedStore) : Prop :=
  ∀ i key value, z.writes[i]? = some ⟨key, value, .saved⟩ → HeldUntil z₀ i z.store.entries z

theorem Overtaken.add (h : Overtaken z₀ z) (key : String) (value : Bytes) :
    Overtaken z₀ (z.add key value) := by
  intro i k v hw
  rcases cases_add hw with hw | ⟨-, hw⟩
  · exact (h i k v hw).add key value
  · cases hw

theorem overtaken_of_moves (hz : Reaches z₀ z) (hact : z.act i a = some z') (h : z.InStep)
    (m : Moves i a key value g g' z z') : Overtaken z₀ z' := by
  intro j k v hw
  obtain ⟨f, hf, hphase⟩ := h
  rcases m.cases_writes hw with ⟨rfl, heq⟩ | ⟨hne, hbefore⟩
  · cases heq
    cases m.goes with
    | saves _ _ hstore =>
      obtain ⟨⟨-, hentries⟩, -⟩ := hphase.of_hasTurn m.before rfl
      exact ⟨z, z', f, hz, hact, .refl, hf, by rw [hstore]; exact hentries⟩
  · exact absurd (hphase.eq_of_hasTurn m hbefore rfl) hne

theorem InStep.overtaken (h : z₀.InStep) (hidle : z₀.isBusy = false) (hz : Reaches z₀ z) :
    Overtaken z₀ z := by
  have hinit : Overtaken z₀ z₀ := fun _ _ _ hw =>
    absurd (isBusy_eq_false_iff.mp hidle hw) Bool.noConfusion
  exact (h.invariant hz (Overtaken z₀) hinit (fun key value _ hy => hy.add key value)
    fun hy hact hstep _ m => overtaken_of_moves hy hact hstep m).2

/-- What is read in memory is in the file, or was there until it was overwritten. -/
theorem Phase.read (h : Phase z f) (hover : Overtaken z₀ z) (hget : z.store.get key = .ok value) :
    f.Holds key value ∨ ∃ i new m, z.writes[i]? = some ⟨key, new, .saved⟩ ∧ HeldUntil z₀ i m z ∧
      m.get? key = some value := by
  have hmem := ConfigStore.get?_of_get hget
  rcases h.shown with hf | ⟨i, k, new, hw, -, hf⟩
  · exact .inl ⟨_, hf, hmem⟩
  · by_cases hkey : key = k
    · subst hkey
      exact .inr ⟨i, new, _, hw, hover i key new hw, hmem⟩
    · refine .inl ⟨_, hf, ?_⟩
      rw [Keyed.get?_insert, if_neg hkey]
      exact hmem

/-! ### The order of the writes -/

/-- The entry that the write of a number is to put into the store. -/
def entryOf (z : SharedStore) (i : Nat) : Option (String × Bytes) :=
  z.writes[i]?.map fun w => (w.key, w.value)

/-- The write of a number has ended well. -/
def Succeeded (i : Nat) (z : SharedStore) : Prop :=
  ∃ key value, z.writes[i]? = some ⟨key, value, .ended (.ok ())⟩

/-- The entries in memory are those that were there at the beginning with those of all writes that
have ended well put among them, in the order in which these are listed. -/
structure Logged (before : Keyed Bytes) (order : List Nat) (z : SharedStore) : Prop where
  /-- Every write is listed at most once. -/
  nodup : order.Nodup
  /-- The writes that have ended well are listed, and no others. -/
  succeeded : ∀ {i}, i ∈ order ↔ z.Succeeded i
  /-- The entries are put into memory one after another. -/
  entries : z.store.entries =
    (order.filterMap z.entryOf).foldl (fun m e => m.insert e.1 e.2) before

theorem entryOf_add (hi : i < z.writes.length) (key : String) (value : Bytes) :
    (z.add key value).entryOf i = z.entryOf i := by
  rw [entryOf, add, List.getElem?_append_left hi, entryOf]

theorem Moves.entryOf (m : Moves i a key value g g' z z') : z'.entryOf = z.entryOf := by
  funext j
  by_cases hij : j = i
  · subst hij
    rw [SharedStore.entryOf, SharedStore.entryOf, m.after, m.before]
    rfl
  · rw [SharedStore.entryOf, SharedStore.entryOf, m.writes_of_ne hij]

theorem Succeeded.lt_length (h : z.Succeeded i) : i < z.writes.length := by
  obtain ⟨key, value, hw⟩ := h
  exact (List.getElem?_eq_some_iff.mp hw).1

theorem succeeded_add : (z.add key value).Succeeded i ↔ z.Succeeded i := by
  refine ⟨fun ⟨k, v, hw⟩ => ?_, fun ⟨k, v, hw⟩ => ⟨k, v, writes_add_of_some hw key value⟩⟩
  rcases cases_add hw with hw | ⟨-, hw⟩
  · exact ⟨k, v, hw⟩
  · cases hw

/-- Only the write that moves can end, and it had not ended before. -/
theorem Moves.succeeded (m : Moves i a key value g g' z z') :
    z'.Succeeded j ↔ z.Succeeded j ∨ j = i ∧ g' = .ended (.ok ()) := by
  have hnot : ¬ z.Succeeded i := fun ⟨k, v, hw⟩ => by
    cases hw.symm.trans m.before
    cases m.goes
  by_cases hij : j = i
  · subst hij
    rw [Succeeded, m.after]
    simp [hnot]
  · rw [Succeeded, m.writes_of_ne hij]
    simp [hij, Succeeded]

namespace Logged

variable {before : Keyed Bytes} {order : List Nat}

theorem add (h : Logged before order z) (key : String) (value : Bytes) :
    Logged before order (z.add key value) where
  nodup := h.nodup
  succeeded := h.succeeded.trans succeeded_add.symm
  entries := by
    have hentry : order.filterMap (z.add key value).entryOf = order.filterMap z.entryOf :=
      List.filterMap_congr fun i hi => entryOf_add (h.succeeded.mp hi).lt_length key value
    rw [hentry]
    exact h.entries

theorem moves (h : Logged before order z) (m : Moves i a key value g g' z z') :
    ∃ order', Logged before order' z' := by
  have hkept : z'.store.entries = z.store.entries → g' ≠ .ended (.ok ()) →
      Logged before order z' := fun hentries hg' =>
    { nodup := h.nodup
      succeeded := by
        intro j
        rw [h.succeeded, m.succeeded]
        exact ⟨.inl, fun hi => hi.resolve_right fun hi => hg' hi.2⟩
      entries := by rw [m.entryOf, hentries, h.entries] }
  cases hgo : m.goes with
  | begins hstore | gathers hstore | saves _ _ hstore =>
    exact ⟨order, hkept (by rw [hstore]) (fun h => by cases h)⟩
  | fails hstore => exact ⟨order, hkept (by rw [hstore]) (fun h => by cases h)⟩
  | commits hstore =>
    have hnew : i ∉ order := fun hi => by
      obtain ⟨k, v, hw⟩ := h.succeeded.mp hi
      cases hw.symm.trans m.before
    have hentry : z.entryOf i = some (key, value) := by
      rw [SharedStore.entryOf, m.before]
      rfl
    refine ⟨order ++ [i], ?_, ?_, ?_⟩
    · refine List.nodup_append.mpr ⟨h.nodup, List.pairwise_singleton _ _, fun j hj k hk => ?_⟩
      rw [List.mem_singleton.mp hk]
      exact fun heq => hnew (heq ▸ hj)
    · intro j
      rw [m.succeeded, List.mem_append, List.mem_singleton, h.succeeded]
      simp
    · rw [m.entryOf, List.filterMap_append, List.foldl_append, ← h.entries, hstore]
      simp [hentry]

end Logged

theorem InStep.logged (h : z₀.InStep) (hnew : z₀.writes = []) (hz : Reaches z₀ z) :
    ∃ order, Logged z₀.store.entries order z := by
  have hinit : Logged z₀.store.entries [] z₀ :=
    { nodup := List.nodup_nil
      succeeded := by
        intro i
        refine ⟨fun hi => absurd hi List.not_mem_nil, fun ⟨k, v, hw⟩ => ?_⟩
        rw [hnew] at hw
        cases hw
      entries := rfl }
  refine (h.invariant hz (fun z => ∃ order, Logged z₀.store.entries order z) ⟨[], hinit⟩
    (fun key value _ ⟨order, hy⟩ => ⟨order, hy.add key value⟩)
    fun _ _ _ ⟨order, hy⟩ m => hy.moves m).2

/-! ### Memory and file -/

/-- What those who read the memory, read the file `f`, or open it again find when a run has led from
`z₀` to `z`. -/
structure Mirrors (z₀ z : SharedStore) (f : SnapshotFile) : Prop where
  /-- It is the file of the store. -/
  file : z.store.file = some f
  /-- The file holds the entries in memory, or it holds these with the entry of the one write that
  has its turn, has replaced the file, and has not yet changed the memory. -/
  shown : f.entries = .ok z.store.entries ∨ ∃ i key value,
    z.writes[i]? = some ⟨key, value, .saved⟩ ∧ z.OnlyTurn i ∧
      f.entries = .ok (z.store.entries.insert key value)
  /-- What is read in memory is in the file, or it was there until the write that has its turn
  replaced the file by one with its own value under this key. -/
  read : ∀ key value, z.store.get key = .ok value → f.Holds key value ∨ ∃ i new m,
    z.writes[i]? = some ⟨key, new, .saved⟩ ∧ HeldUntil z₀ i m z ∧ m.get? key = some value
  /-- A write that has ended in an error has changed neither the memory nor the file. -/
  failed : ∀ i key value e, z.writes[i]? = some ⟨key, value, .ended (.error e)⟩ →
    ∀ y a y', Reaches z₀ y → y.act i a = some y' → Reaches y' z → y'.store = y.store
  /-- Where no write has its turn the file opens to exactly this store. -/
  reopened : z.isBusy = false → ConfigStore.openFile f = .ok z.store
  /-- No write that has ended well is lost. -/
  logged : ∃ order, Logged z₀.store.entries order z

/-- A store that was opened over a file mirrors it, however many writes are under way and
whichever of them fail. -/
theorem Reaches.mirrored {s : ConfigStore} (hopen : ConfigStore.openFile f = .ok s)
    (h : Reaches { store := s } z) : ∃ f, Mirrors { store := s } z f := by
  have hstart := InStep.opened hopen
  obtain ⟨f, hf, hphase⟩ := hstart.reaches h
  have hover := hstart.overtaken rfl h
  refine ⟨f, hf, hphase.shown, fun _ _ hget => hphase.read hover hget, ?_, ?_,
    hstart.logged rfl h⟩
  · intro i key value e hfailed y a y' hy hact hz
    exact (hstart.reaches hy).unchanged hact hz hfailed
  · intro hidle
    exact SnapshotFile.openFile_eq_ok.mpr ⟨hphase.of_isBusy hidle, hf⟩

/-- Steps of one write that can be taken are a run. -/
theorem reaches_actAll {as : List WriteAction} (h : z.actAll i as = some z') : Reaches z z' := by
  induction as generalizing z with
  | nil =>
    cases h
    exact .refl
  | cons a as ih =>
    rw [actAll, List.foldlM_cons] at h
    obtain ⟨y, hact, hrest⟩ := Option.bind_eq_some_iff.mp h
    exact .head (.act i a hact) (ih hrest)

/-- A store that holds one octet under one key. -/
def oneOctet : ConfigStore :=
  ⟨[("a", [1])], some { content := some (ConfigStore.encode [("a", [1])]) }⟩

/-- Of two writes to it one has failed, and the other one has replaced the file. -/
def overwriting : SharedStore where
  store := ⟨[("a", [1])], some { content := some (ConfigStore.encode [("a", [2])]) }⟩
  writes := [⟨"a", [2], .saved⟩, ⟨"b", [3], .ended (.error (.storage .notFound))⟩]

theorem decode_oneEntry (bs : Bytes) :
    Json.decode ConfigStore.reader (ConfigStore.encode [("a", bs)]) = .ok [("a", bs)] :=
  ConfigStore.decode_encode (List.pairwise_singleton _ _)

theorem openFile_oneOctet :
    ConfigStore.openFile { content := some (ConfigStore.encode [("a", [1])]) } = .ok oneOctet := by
  simp only [ConfigStore.openFile, SnapshotFile.decode, SnapshotFile.read, decode_oneEntry]
  rfl

theorem reaches_overwriting : Reaches { store := oneOctet } overwriting := by
  obtain ⟨y, hfails, hsaves⟩ : ∃ y,
      ((({ store := oneOctet } : SharedStore).add "a" [2]).add "b" [3]).actAll 1
        [.begin, .gather, .fail .notFound] = some y ∧
      y.actAll 0 [.begin, .gather, .save] = some overwriting := ⟨_, rfl, rfl⟩
  exact .head (.add "a" [2]) (.head (.add "b" [3])
    ((reaches_actAll hfails).trans (reaches_actAll hsaves)))

/-- The file of that store holds what the write in progress has put there. -/
theorem entries_overwriting {f : SnapshotFile} (hf : overwriting.store.file = some f) :
    f.entries = .ok [("a", [2])] := by
  cases hf
  simp only [SnapshotFile.entries, SnapshotFile.decode, SnapshotFile.read, decode_oneEntry]
  rfl

theorem mirrored_overwriting : ∃ f, Mirrors { store := oneOctet } overwriting f ∧
    f.Holds "a" [2] ∧ overwriting.store.get "a" = .ok [1] ∧ overwriting.isBusy = true := by
  obtain ⟨f, hmirrors⟩ := Reaches.mirrored openFile_oneOctet reaches_overwriting
  exact ⟨f, hmirrors, ⟨_, entries_overwriting hmirrors.file, rfl⟩, rfl, rfl⟩

/-- What is read in memory there is not in the file: the write in progress has taken it out. -/
theorem get_behind_file :
    ConfigStore.openFile { content := some (ConfigStore.encode [("a", [1])]) } = .ok oneOctet ∧
      Reaches { store := oneOctet } overwriting ∧
      overwriting.store.get "a" = .ok [1] ∧
      ∃ f, overwriting.store.file = some f ∧ f.Holds "a" [2] ∧ ¬ f.Holds "a" [1] := by
  refine ⟨openFile_oneOctet, reaches_overwriting, rfl, _, rfl,
    ⟨_, entries_overwriting rfl, rfl⟩, ?_⟩
  rintro ⟨m, hm, hget⟩
  cases (entries_overwriting rfl).symm.trans hm
  cases hget

end SharedStore

end HostWatch
