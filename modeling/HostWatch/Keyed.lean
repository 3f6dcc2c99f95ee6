/-!
# Values under keys

`Keyed α` holds one value of `α` under each of some texts, in order of the texts.
Writing under a key changes what is read there and nowhere else.
-/

namespace HostWatch

/-- Values under texts, in order of the texts. -/
abbrev Keyed (α : Type) := List (String × α)

namespace Keyed

variable {α : Type}

/-- The value under a key. -/
def get? (m : Keyed α) (key : String) : Option α :=
  m.lookup key

/-- Put a value under a key; it takes the place of one that is there. -/
def insert (key : String) (value : α) : Keyed α → Keyed α
  | [] => [(key, value)]
  | (k, v) :: rest =>
    if key = k then (key, value) :: rest
    else if key < k then (key, value) :: (k, v) :: rest
    else (k, v) :: insert key value rest

/-- Drop the value under a key. -/
def erase (key : String) (m : Keyed α) : Keyed α :=
  m.filter fun e => e.1 ≠ key

/-- The entries of a list, the last of two with one key winning. -/
def ofEntries (entries : List (String × α)) : Keyed α :=
  entries.foldl (fun m e => insert e.1 e.2 m) []

/-- Reading where nothing has been put brings nothing. -/
@[simp] theorem get?_nil (key : String) : get? ([] : Keyed α) key = none := rfl

/-- Reading looks at the entries one after another. -/
theorem get?_cons (k : String) (v : α) (m : Keyed α) (key : String) :
    get? ((k, v) :: m) key = if key = k then some v else get? m key := by
  by_cases h : key = k
  · simp [get?, h]
  · simp [get?, List.lookup_cons, beq_eq_false_iff_ne.mpr h, h]

/-- What is put under a key is read there, and all else as before. -/
theorem get?_insert (m : Keyed α) (k : String) (v : α) (key : String) :
    get? (insert k v m) key = if key = k then some v else get? m key := by
  induction m with
  | nil => simp [insert, get?_cons]
  | cons e m ih =>
    obtain ⟨j, w⟩ := e
    simp only [insert]
    split
    · next h => subst h; simp only [get?_cons]; split <;> rfl
    · split
      · simp only [get?_cons]
      · next h _ =>
        simp only [get?_cons, ih]
        by_cases hk : key = k
        · subst hk; simp [h]
        · simp [hk]

/-- What is dropped is no longer read, and all else as before. -/
theorem get?_erase (m : Keyed α) (k key : String) :
    get? (erase k m) key = if key = k then none else get? m key := by
  induction m with
  | nil => simp [erase]
  | cons e m ih =>
    obtain ⟨j, w⟩ := e
    by_cases h : j = k
    · subst h
      have : erase j ((j, w) :: m) = erase j m := by simp [erase]
      rw [this, ih, get?_cons]
      split <;> rfl
    · have : erase k ((j, w) :: m) = (j, w) :: erase k m := by simp [erase, h]
      rw [this, get?_cons, get?_cons, ih]
      by_cases hk : key = k
      · subst hk; simp [Ne.symm h]
      · simp [hk]

end Keyed

end HostWatch
