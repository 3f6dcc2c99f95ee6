import HostWatch.Config.Store
import HostWatch.Proofs.Json.RoundTrip

/-!
# The forbidden list as it is stored

The list reads back from its written form, whatever characters its hostnames have
(`decode_encode`). `ConfigStore.forbidden` is the list that a store holds under its
key, the empty one if none was ever written; a write under that key replaces it and a
write under any other key leaves it alone.

`Distinct` lists have no two entries that are equal ignoring ASCII case. Such a list
stays distinct when a hostname is appended that is not listed.
-/

namespace HostWatch

namespace ForbiddenList

/-! ### The written form -/

/-- The list reads back from its written form. -/
theorem decode_encode (l : ForbiddenList) : decode (encode l) = .ok l :=
  (Json.Reads.array (fun h => .record "hostname" (.string h)) l).decode

/-! ### Distinct entries -/

/-- No two entries are equal ignoring ASCII case. -/
def Distinct (l : ForbiddenList) : Prop :=
  l.Pairwise fun a b => ¬ Ascii.EqFold a b

/-- Whether the entries are distinct is decided pair by pair. -/
instance (l : ForbiddenList) : Decidable (Distinct l) :=
  inferInstanceAs (Decidable (l.Pairwise fun a b => ¬ Ascii.EqFold a b))

theorem Distinct.nil : Distinct [] := List.Pairwise.nil

/-- A hostname that is not listed can be appended. -/
theorem Distinct.append {l : ForbiddenList} {host : String} (hl : Distinct l)
    (h : ¬ Listed l host) : Distinct (l ++ [host]) := by
  rw [Distinct, List.pairwise_append]
  refine ⟨hl, List.pairwise_singleton _ _, fun a ha b hb heq => h ?_⟩
  rw [List.mem_singleton] at hb
  subst hb
  exact ⟨a, ha, heq⟩

theorem listed_of_mem {l : ForbiddenList} {host : String} (h : host ∈ l) : Listed l host :=
  ⟨host, h, Ascii.EqFold.rfl⟩

/-- A hostname that is appended is listed. -/
theorem listed_append (l : ForbiddenList) (host : String) : Listed (l ++ [host]) host :=
  listed_of_mem (List.mem_append_right _ (List.mem_singleton_self host))

/-- A hostname that is listed stays listed when another one is appended. -/
theorem Listed.append {l : ForbiddenList} {host : String} (h : Listed l host) (key : String) :
    Listed (l ++ [key]) host := by
  obtain ⟨entry, hentry, hfold⟩ := h
  exact ⟨entry, List.mem_append_left _ hentry, hfold⟩

end ForbiddenList

/-! ### The stored list -/

namespace ConfigStore

/-- The list that a store holds. -/
def forbidden (s : ConfigStore) : Except ConfigError ForbiddenList :=
  (access.readList s).1

theorem forbidden_eq (s : ConfigStore) :
    s.forbidden = ForbiddenList.ofAnswer (s.get forbiddenKey) := rfl

/-- A store holds the list that was written last. -/
theorem forbidden_set {s t : ConfigStore} {l : ForbiddenList}
    (h : s.set forbiddenKey l.encode = .ok t) : t.forbidden = .ok l := by
  rw [forbidden_eq, get_set h, if_pos rfl]
  simp only [ForbiddenList.ofAnswer, ForbiddenList.decode_encode]

/-- A write under another key leaves the list alone. -/
theorem forbidden_set_of_ne {s t : ConfigStore} {key : String} {value : Bytes}
    (h : s.set key value = .ok t) (hk : key ≠ forbiddenKey) : t.forbidden = s.forbidden := by
  rw [forbidden_eq, get_set h, if_neg hk.symm, forbidden_eq]

/-- The list that a store holds decodes, and its entries are distinct. -/
def HoldsDistinct (s : ConfigStore) : Prop :=
  ∃ l, s.forbidden = .ok l ∧ ForbiddenList.Distinct l

end ConfigStore

end HostWatch
