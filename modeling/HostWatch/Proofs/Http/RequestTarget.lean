import HostWatch.Http.RequestTarget
import HostWatch.Proofs.Text.Utf8
import Mathlib.Data.List.TakeWhile

/-!
# The path of a request target

A target that begins with a slash is its path up to the first question mark, whatever stands behind
that (`path_of_parse?`). A path of characters that a path may have, and that fits, is read
(`parse?_path`).
-/

namespace HostWatch.Http.RequestTarget

variable {mark : Char} {bs path rest : Bytes} {t : RequestTarget}

theorem cut_fst (mark : Char) (bs : Bytes) : (cut mark bs).1 = bs.takeWhile (· ≠ octet mark) := by
  have hsplit := List.takeWhile_append_dropWhile (p := (· ≠ octet mark)) (l := bs)
  unfold cut
  split
  · next hrest =>
    rw [hrest, List.append_nil] at hsplit
    exact hsplit.symm
  · rfl

theorem takeWhile_append_of_not_mem (h : octet mark ∉ bs) (rest : Bytes) :
    (bs ++ rest).takeWhile (· ≠ octet mark) = bs ++ rest.takeWhile (· ≠ octet mark) :=
  List.takeWhile_append_of_pos fun b hb => by
    rw [decide_eq_true_iff]
    rintro rfl
    exact h hb

/-- What begins with a slash is read as a path with a query. -/
theorem parse?_of_slash (hroot : bs.head? = some (octet '/')) (hlength : bs.length ≤ maxLength) :
    parse? bs = pathAndQuery? bs := by
  have hstar : bs ≠ [octet '*'] := by
    rintro rfl
    cases hroot
  rw [parse?, if_neg (Nat.not_lt.mpr hlength), if_neg hstar, if_pos hroot]

theorem length_of_parse? (h : parse? bs = some t) : bs.length ≤ maxLength :=
  Nat.le_of_not_lt fun hlong => by
    rw [parse?, if_pos hlong] at h
    cases h

/-- The path of a target is what stands in front of its query. -/
theorem path_of_parse? (hroot : path.head? = some (octet '/')) (hquery : octet '?' ∉ path)
    (hfragment : octet '#' ∉ path) (hrest : ∀ b ∈ rest.head?, b = octet '?')
    (h : parse? (path ++ rest) = some t) : t.path = path := by
  have hne : path ≠ [] := by
    rintro rfl
    cases hroot
  have htarget : (path ++ rest).head? = some (octet '/') := by
    rw [List.head?_append, hroot, Option.some_or]
  rw [parse?_of_slash htarget (length_of_parse? h), pathAndQuery?] at h
  -- neither cut is inside the path, and the second one is right behind it
  have hcut : (cut '?' (cut '#' (path ++ rest)).1).1 = path := by
    rw [cut_fst, cut_fst, takeWhile_append_of_not_mem hfragment, takeWhile_append_of_not_mem hquery]
    cases rest with
    | nil => exact List.append_nil path
    | cons b rest =>
      obtain rfl := hrest b rfl
      exact List.append_nil path
  simp only [hcut, if_neg hne] at h
  split at h
  · cases h
    rfl
  · cases h

/-- A target that is a path is read as that path. -/
theorem parse?_path (hroot : path.head? = some (octet '/')) (hlength : path.length ≤ maxLength)
    (hquery : octet '?' ∉ path) (hfragment : octet '#' ∉ path) (hpath : ∀ b ∈ path, inPath b)
    (htext : (Utf8.decode? path).isSome) : parse? path = some { path } := by
  have hne : path ≠ [] := by
    rintro rfl
    cases hroot
  have hcut {mark : Char} (h : octet mark ∉ path) : cut mark path = (path, none) := by
    have hdrop : path.dropWhile (· ≠ octet mark) = [] := by
      refine List.dropWhile_eq_nil_iff.mpr fun b hb => ?_
      rw [decide_eq_true_iff]
      rintro rfl
      exact h hb
    rw [cut, hdrop]
  have hall : path.all inPath = true := List.all_eq_true.mpr hpath
  rw [parse?_of_slash hroot hlength, pathAndQuery?]
  simp only [hcut hfragment, hcut hquery, hall, htext, if_neg hne]
  rfl

end HostWatch.Http.RequestTarget
