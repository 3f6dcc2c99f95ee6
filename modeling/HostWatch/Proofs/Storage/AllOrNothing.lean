import HostWatch.Proofs.Config.StoreFile
import HostWatch.Proofs.Counter.StoreFile
import HostWatch.Storage.Replacement

/-!
# A file is replaced as a whole or not at all

A replacement changes its target in its last step only, and by then the temporary file holds the new
content and nothing else, whatever was left in it before (`get?_applyAll_take`). So wherever a
replacement fails or its process stops, whoever reads the target finds the old content or the whole
of the new one (`Replacement.get?_run`), and after any history of replacements the value of the last
one that reached its last step (`Written.all_or_nothing`).
-/

namespace HostWatch.Storage

variable {target : String} {pieces : List Bytes} {d : Folder}

/-! ### Two names -/

/-- The temporary file is another one than the target. -/
theorem temporaryName_ne (target : String) : temporaryName target ≠ target := by
  intro h
  have := congrArg String.length h
  simp [temporaryName] at this

namespace Folder

theorem get?_append (d : Folder) (name : String) (piece : Bytes) (other : String) :
    (d.append name piece).get? other =
      if other = name then (d.get? name).map (· ++ piece) else d.get? other := by
  unfold append
  cases h : d.get? name with
  | none =>
    by_cases ho : other = name
    · simp [ho, h]
    · simp [ho]
  | some bs => simp [Keyed.get?_insert]

theorem get?_rename (d : Folder) {name target : String} {bs : Bytes} (h : d.get? name = some bs)
    (other : String) : (d.rename name target).get? other =
      if other = target then some bs else if other = name then none else d.get? other := by
  simp [rename, h, Keyed.get?_insert, Keyed.get?_erase]

end Folder

/-! ### The steps of a replacement -/

/-- The pieces end up behind each other in the temporary file, and in no other. -/
theorem get?_writeAll (hd : ∃ bs, d.get? (temporaryName target) = some bs) (name : String) :
    (applyAll target (pieces.map .write) d).get? name =
      if name = temporaryName target then (d.get? name).map (· ++ pieces.flatten)
      else d.get? name := by
  induction pieces generalizing d with
  | nil =>
    obtain ⟨bs, hbs⟩ := hd
    by_cases hn : name = temporaryName target
    · simp [applyAll, hn, hbs]
    · simp [applyAll, hn]
  | cons piece pieces ih =>
    have hnext : ∃ bs, (d.append (temporaryName target) piece).get? (temporaryName target) =
        some bs := by
      obtain ⟨bs, hbs⟩ := hd
      exact ⟨bs ++ piece, by simp [Folder.get?_append, hbs]⟩
    have hstep := ih hnext
    rw [applyAll] at hstep ⊢
    rw [List.map_cons, List.foldl_cons, Step.apply, hstep, Folder.get?_append]
    by_cases hn : name = temporaryName target
    · simp [hn, Function.comp_def]
    · simp [hn]

/-- No step before the last touches any file but the temporary one. -/
theorem get?_apply {s : Step} (hs : s ≠ .rename) {name : String} (hn : name ≠ temporaryName target)
    (d : Folder) : (s.apply target d).get? name = d.get? name := by
  cases s with
  | create => simp [Step.apply, Keyed.get?_insert, hn]
  | write piece => simp [Step.apply, Folder.get?_append, hn]
  | flush => rfl
  | sync => rfl
  | rename => exact absurd rfl hs

theorem get?_applyAll {ss : List Step} (hss : Step.rename ∉ ss) {name : String}
    (hn : name ≠ temporaryName target) (d : Folder) :
    (applyAll target ss d).get? name = d.get? name := by
  induction ss generalizing d with
  | nil => rfl
  | cons s ss ih =>
    obtain ⟨hs, hss⟩ := not_or.mp (List.mem_cons.not.mp hss)
    rw [applyAll, List.foldl_cons, ← applyAll, ih hss, get?_apply (Ne.symm hs) hn]

/-- The steps of a replacement but the last. -/
theorem steps_eq (pieces : List Bytes) : ∃ ss, steps pieces = ss ++ [.rename] ∧ Step.rename ∉ ss :=
  ⟨.create :: (pieces.map .write ++ [.flush, .sync]), by simp [steps], by simp⟩

/-- As long as a step is missing, a replacement touches no file but the temporary one. -/
theorem get?_applyAll_take {n : Nat} (h : n < (steps pieces).length) {name : String}
    (hn : name ≠ temporaryName target) (d : Folder) :
    (applyAll target ((steps pieces).take n) d).get? name = d.get? name := by
  obtain ⟨ss, hss, hrename⟩ := steps_eq pieces
  rw [hss] at h ⊢
  rw [List.length_append, List.length_singleton] at h
  rw [List.take_append_of_le_length (by omega)]
  exact get?_applyAll (fun hmem => hrename (List.mem_of_mem_take hmem)) hn d

/-- With its last step a replacement has put the new content in the place of the target, whatever the
temporary file held before, and that file is gone. -/
theorem get?_applyAll_steps (pieces : List Bytes) (d : Folder) (name : String) :
    (applyAll target (steps pieces) d).get? name =
      if name = target then some pieces.flatten
      else if name = temporaryName target then none
      else d.get? name := by
  -- the folder before the renaming
  have hwritten : (applyAll target (pieces.map .write)
      (d.insert (temporaryName target) [])).get? (temporaryName target) = some pieces.flatten := by
    rw [get?_writeAll ⟨[], by simp [Keyed.get?_insert]⟩]
    simp [Keyed.get?_insert]
  have hsteps : applyAll target (steps pieces) d = (applyAll target (pieces.map .write)
      (d.insert (temporaryName target) [])).rename (temporaryName target) target := by
    simp [applyAll, steps, Step.apply]
  rw [hsteps, Folder.get?_rename _ hwritten, get?_writeAll ⟨[], by simp [Keyed.get?_insert]⟩]
  by_cases ht : name = target
  · simp [ht]
  by_cases hn : name = temporaryName target
  · simp [hn, temporaryName_ne]
  · simp [ht, hn, Keyed.get?_insert]

/-! ### Replacements -/

namespace Replacement

/-- Whether a replacement reached its last step. -/
def reached (r : Replacement) : Bool :=
  match r.ending with
  | .completed => true
  | .failed _ _ _ => false
  | .stopped done => (steps r.pieces).length ≤ done

/-- A replacement gives the target the whole of the new content or leaves it as it is, and it changes
no other file than the temporary one. -/
theorem get?_run (r : Replacement) (d : Folder) {name : String}
    (hn : name ≠ temporaryName target) : (r.run target d).get? name =
      if name = target ∧ r.reached then some r.content else d.get? name := by
  have hall : (applyAll target (steps r.pieces) d).get? name =
      if name = target then some r.content else d.get? name := by
    simp [get?_applyAll_steps, hn, content]
  unfold run reached
  cases hending : r.ending with
  | completed => simpa using hall
  | failed done heldBack removed =>
    have hleft := get?_applyAll_take (r.lt_of_failed _ _ _ hending) hn d
    have hclosed : (if done = 0 then applyAll target ((steps r.pieces).take done) d
        else (applyAll target ((steps r.pieces).take done) d).append (temporaryName target)
          heldBack).get? name = d.get? name := by
      split
      · exact hleft
      · rw [Folder.get?_append, if_neg hn, hleft]
    cases removed with
    | false => simpa using hclosed
    | true => simpa [Keyed.get?_erase, hn] using hclosed
  | stopped done =>
    by_cases hdone : (steps r.pieces).length ≤ done
    · simpa [hdone, List.take_of_length_le hdone] using hall
    · simpa [hdone] using get?_applyAll_take (Nat.lt_of_not_le hdone) hn d

end Replacement

/-! ### Values in files -/

/-- How values are written down in a file, and read back. -/
structure Format (α : Type) where
  /-- The written form of a value. -/
  encode : α → Bytes
  /-- Reads a value. -/
  reader : Json.Reader α
  /-- The values that are written. -/
  Fits : α → Prop
  /-- These read back. -/
  decode_encode : ∀ {a}, Fits a → Json.decode reader (encode a) = .ok a

/-- The format of the file of the shared configuration. -/
def configFormat : Format (Keyed Bytes) where
  encode := ConfigStore.encode
  reader := ConfigStore.reader
  Fits := Keyed.Ordered
  decode_encode := ConfigStore.decode_encode

/-- The format of the file of the counters, which holds instants up to the last one. -/
def counterFormat : Format (Keyed CounterEntry) where
  encode := CounterStore.encode
  reader := CounterStore.reader
  Fits m := m.Ordered ∧ ∀ e ∈ m, e.2.capped = e.2
  decode_encode := by
    intro m ⟨hordered, hcapped⟩
    have hm : m.map (fun e => (e.1, e.2.capped)) = m := by
      conv_rhs => rw [← List.map_id m]
      exact List.map_congr_left fun e he => Prod.ext rfl (hcapped e he)
    rw [CounterStore.decode_encode hordered, hm]

variable {α : Type} {f : Format α}

/-- A write of a value: a replacement whose content is the written form of the value. -/
structure Write (f : Format α) extends Replacement where
  /-- The value. -/
  value : α
  /-- It is one that is written. -/
  fits : f.Fits value
  /-- The pieces are those of its written form. -/
  content_eq : toReplacement.content = f.encode value

/-- The target as a snapshot file. -/
def Folder.snapshot (d : Folder) (target : String) : SnapshotFile :=
  { content := d.get? target }

/-- What whoever reads the target finds. -/
def Folder.read (f : Format α) (d : Folder) (target : String) : Except FileFault (Option α) :=
  (d.snapshot target).decode f.reader

theorem Folder.read_of_get? {d : Folder} {a : α} (h : d.get? target = some (f.encode a))
    (ha : f.Fits a) : d.read f target = .ok (some a) := by
  simp [read, snapshot, SnapshotFile.decode, SnapshotFile.read, h, f.decode_encode ha]

theorem Folder.read_congr {d d' : Folder} (h : d'.get? target = d.get? target) :
    d'.read f target = d.read f target := by
  rw [read, read, snapshot, snapshot, h]

namespace Write

theorem get?_run (w : Write f) (d : Folder) : (w.run target d).get? target =
    if w.reached then some (f.encode w.value) else d.get? target := by
  rw [w.toReplacement.get?_run d (temporaryName_ne target).symm, w.content_eq]
  simp

theorem read_run (w : Write f) (d : Folder) : (w.run target d).read f target =
    if w.reached then .ok (some w.value) else d.read f target := by
  have hget : (w.run target d).get? target = _ := w.get?_run d
  split
  · next hreached => exact Folder.read_of_get? (by rw [hget, if_pos hreached]) w.fits
  · next hreached => exact Folder.read_congr (by rw [hget, if_neg hreached])

/-- What a write does to its target and to the files beside it. -/
structure Whole (target : String) (d : Folder) (w : Write f) : Prop where
  /-- Whoever reads the target finds what was there, or the new value. -/
  old_or_new : (w.run target d).read f target = d.read f target ∨
    (w.run target d).read f target = .ok (some w.value)
  /-- A write that succeeds has put the new value there, as replacing a snapshot file does, and leaves no
  temporary file. -/
  succeeded : w.ending = .completed → (w.run target d).read f target = .ok (some w.value) ∧
    (d.snapshot target).replace (f.encode w.value) = .ok ((w.run target d).snapshot target) ∧
    (w.run target d).get? (temporaryName target) = none
  /-- A write that fails leaves the target as it was. -/
  failed : ∀ done heldBack removed, w.ending = .failed done heldBack removed →
    (w.run target d).snapshot target = d.snapshot target ∧
    (w.run target d).read f target = d.read f target
  /-- What the temporary file held before makes no difference to the target, and neither does any
  other file. -/
  leftovers : ∀ d' : Folder, d'.get? target = d.get? target →
    (w.run target d').get? target = (w.run target d).get? target
  /-- All other files stay as they are. -/
  others : ∀ name, name ≠ target → name ≠ temporaryName target →
    (w.run target d).get? name = d.get? name

theorem whole (w : Write f) (d : Folder) : w.Whole target d where
  old_or_new := by
    rw [w.read_run]
    cases w.reached
    · exact .inl rfl
    · exact .inr rfl
  succeeded := by
    intro hending
    have hreached : w.reached = true := by simp [Replacement.reached, hending]
    refine ⟨by rw [w.read_run, if_pos hreached], ?_, ?_⟩
    · simp [Folder.snapshot, SnapshotFile.replace, w.get?_run, hreached]
    · simp [Replacement.run, hending, get?_applyAll_steps, temporaryName_ne]
  failed := by
    intro done heldBack removed hending
    have hreached : ¬ w.reached = true := by simp [Replacement.reached, hending]
    have hget : (w.run target d).get? target = d.get? target := by
      rw [w.get?_run, if_neg hreached]
    exact ⟨by rw [Folder.snapshot, Folder.snapshot, hget], Folder.read_congr hget⟩
  leftovers := by
    intro d' hd'
    rw [w.get?_run, w.get?_run, hd']
  others := by
    intro name htarget htemporary
    rw [w.toReplacement.get?_run d htemporary, if_neg (by simp [htarget])]

/-! ### Histories -/

/-- The folder of a target after one write after another. -/
def runAll (target : String) (ws : List (Write f)) (d : Folder) : Folder :=
  ws.foldl (fun d w => w.run target d) d

/-- The value of the last write that reached its last step. -/
def latest : List (Write f) → Option α
  | [] => none
  | w :: ws => (latest ws).or (if w.reached then some w.value else none)

/-- Reading brings the value that was written last, or what was there before. -/
theorem read_runAll (ws : List (Write f)) (d : Folder) : (runAll target ws d).read f target =
    (latest ws).elim (d.read f target) fun a => .ok (some a) := by
  induction ws generalizing d with
  | nil => rfl
  | cons w ws ih =>
    rw [runAll, List.foldl_cons, ← runAll, ih, latest]
    cases latest ws with
    | some a => simp
    | none =>
      rw [w.read_run]
      by_cases h : w.reached <;> simp [h]

/-- After any history of writes that succeeded, failed or were cut off, over whatever was in the folder
before: the target reads as the last value that was put there, and the next write is all or nothing
again. -/
theorem all_or_nothing (target : String) (ws : List (Write f)) (d : Folder) :
    (runAll target ws d).read f target =
        (latest ws).elim (d.read f target) (fun a => .ok (some a)) ∧
      ∀ w : Write f, w.Whole target (runAll target ws d) :=
  ⟨read_runAll ws d, fun w => w.whole _⟩

/-- Writes of a shared configuration with one entry, over a temporary file that was left behind: one is
cut off in the middle of its content, one cannot rename the file it wrote nor remove it, and one
succeeds. -/
theorem all_or_nothing_leftovers :
    ∃ cutOff failed succeeded : Write configFormat,
      cutOff.ending = .stopped 2 ∧ failed.ending = .failed 5 [] false ∧
      succeeded.ending = .completed ∧
      (runAll "store.json" [cutOff, failed] [("store.json.tmp", [0x7B])]).read configFormat
        "store.json" = .ok none ∧
      (runAll "store.json" [cutOff, failed, succeeded] [("store.json.tmp", [0x7B])]).read
        configFormat "store.json" = .ok (some [("key", [3])]) := by
  have content (v : Keyed Bytes) (n : Nat) : [(configFormat.encode v).take n,
      (configFormat.encode v).drop n].flatten = configFormat.encode v := by
    simp
  let cutOff : Write configFormat :=
    { pieces := [_, _], ending := .stopped 2, value := [("key", [1])]
      fits := List.pairwise_singleton _ _, content_eq := content _ 4 }
  let failed : Write configFormat :=
    { pieces := [_, _], ending := .failed 5 [] false, value := [("key", [2])]
      fits := List.pairwise_singleton _ _, content_eq := content _ 5 }
  let succeeded : Write configFormat :=
    { pieces := [_, _], ending := .completed, value := [("key", [3])]
      fits := List.pairwise_singleton _ _, content_eq := content _ 6 }
  refine ⟨cutOff, failed, succeeded, rfl, rfl, rfl, ?_, ?_⟩
  · rw [(all_or_nothing "store.json" [cutOff, failed] _).1]
    have habsent : Keyed.get? [("store.json.tmp", ([0x7B] : Bytes))] "store.json" = none := by
      decide
    simp [latest, Replacement.reached, cutOff, failed, steps, Folder.read, Folder.snapshot,
      SnapshotFile.decode, SnapshotFile.read, habsent]
  · rw [(all_or_nothing "store.json" [cutOff, failed, succeeded] _).1]
    simp [latest, Replacement.reached, succeeded]

end Write

end HostWatch.Storage
