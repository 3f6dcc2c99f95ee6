import HostWatch.Proofs.Url.Ipv4

/-!
# Addresses of 128 bits

The text of an address is its pieces in hexadecimal with colons between them, the first of the
longest runs of zeros left out. Reading takes piece after piece (`readPieces_joinPieces`) and puts
the run back, so a text reads back as the address (`Ipv6.read?_text`). Case in a text makes no
difference to what it is read as (`Ipv6.read?_lower`).
-/

namespace HostWatch.Url.Ipv6

variable {c : Char} {cs ds rest : List Char} {done ps : List UInt16} {run : Option Nat}

/-! ### Pieces -/

/-- A small hexadecimal digit. -/
def isSmallHex (c : Char) : Bool :=
  Ascii.isHexDigit c && !c.isUpper

theorem isSmallHex_hexLower {d : Nat} (h : d < 16) : isSmallHex (Ascii.hexLower d) :=
  (by decide : ∀ d : Fin 16, isSmallHex (Ascii.hexLower d)) ⟨d, h⟩

theorem isSmallHex_of_mem_hexDigits {n : Nat} (h : c ∈ hexDigits n) : isSmallHex c := by
  fun_induction hexDigits n with
  | case1 n hn =>
    obtain rfl := List.mem_singleton.mp h
    exact isSmallHex_hexLower hn
  | case2 n hn ih =>
    obtain h | h := List.mem_append.mp h
    · exact ih h
    · obtain rfl := List.mem_singleton.mp h
      exact isSmallHex_hexLower (Nat.mod_lt n (by decide))

theorem isHexDigit_of_mem_hexDigits {n : Nat} (h : c ∈ hexDigits n) : Ascii.isHexDigit c :=
  (Bool.and_eq_true_iff.mp (isSmallHex_of_mem_hexDigits h)).1

theorem hexDigits_ne_nil (n : Nat) : hexDigits n ≠ [] := by
  fun_induction hexDigits n <;> simp

theorem length_hexDigits_le (n : Nat) : (hexDigits n).length ≤ (hexDigits (n / 16)).length + 1 := by
  rw [hexDigits]
  split
  · exact Nat.le_add_left 1 _
  · exact Nat.le_of_eq List.length_append

theorem length_hexDigits {n : Nat} (h : n < 0x10000) : (hexDigits n).length ≤ 4 := by
  have h₁ := length_hexDigits_le n
  have h₂ := length_hexDigits_le (n / 16)
  have h₃ := length_hexDigits_le (n / 16 / 16)
  have h₄ : (hexDigits (n / 16 / 16 / 16)).length = 1 := by
    rw [hexDigits, if_pos (by omega), List.length_singleton]
  omega

/-- The number that hexadecimal digits stand for. -/
def valueOf (cs : List Char) : Nat :=
  cs.foldl (fun n d => n * 16 + (Ascii.hexValue? d).getD 0) 0

theorem valueOf_hexDigits (n : Nat) : valueOf (hexDigits n) = n := by
  fun_induction hexDigits n with
  | case1 n hn => simp [valueOf, Ascii.hexValue?_hexLower hn]
  | case2 n hn ih =>
    rw [valueOf, List.foldl_append, ← valueOf, ih]
    simp only [List.foldl_cons, List.foldl_nil,
      Ascii.hexValue?_hexLower (Nat.mod_lt n (by decide : 16 > 0)), Option.getD_some]
    omega

/-- The digits in front of a text that goes on with something else. -/
theorem takeWhile_digits (hlength : ds.length ≤ 4) (hds : ∀ c ∈ ds, Ascii.isHexDigit c)
    (hrest : ∀ c ∈ rest.head?, Ascii.isHexDigit c = false) :
    ((ds ++ rest).take 4).takeWhile Ascii.isHexDigit = ds := by
  rw [List.take_append, List.take_of_length_le hlength, List.takeWhile_append_of_pos hds]
  cases hk : rest.take (4 - ds.length) with
  | nil => simp
  | cons c cs =>
    have hhead : c ∈ rest.head? := by
      cases rest with
      | nil => simp at hk
      | cons d rest =>
        cases hn : 4 - ds.length with
        | zero => simp [hn] at hk
        | succ n =>
          rw [hn, List.take_succ_cons] at hk
          simp only [List.cons.injEq] at hk
          simp [hk.1]
    rw [List.takeWhile_cons_of_neg (by simp [hrest c hhead]), List.append_nil]

/-- What is read behind the digits of a piece, which stands in front of `cs`. -/
def readAfter (done : List UInt16) (run : Option Nat) (value : Nat) (cs : List Char) :
    List Char → Option (List UInt16 × Option Nat)
  | [] => some (done ++ [UInt16.ofNat value], run)
  | '.' :: _ =>
    if 6 < done.length then none
    else
      match tailParts? cs with
      | some [p, q, r, s] =>
        some (done ++ [UInt16.ofNat (p * 256 + q), UInt16.ofNat (r * 256 + s)], run)
      | _ => none
  | ':' :: after => if after = [] then none else readPieces (done ++ [UInt16.ofNat value]) run after
  | _ => none

/-- Reading goes over the digits of a piece at once. -/
theorem readPieces_cons (hc : c ≠ ':') : readPieces done run (c :: cs) =
    let digits := ((c :: cs).take 4).takeWhile Ascii.isHexDigit
    if done.length = 8 ∨ digits = [] then none
    else readAfter done run (valueOf digits) (c :: cs) ((c :: cs).drop digits.length) := by
  rw [readPieces.eq_def]
  split
  · next h => cases h
  · next h => exact absurd (List.cons.inj h).1 hc
  · next h =>
    obtain ⟨rfl, rfl⟩ := List.cons.inj h
    dsimp only
    by_cases hstop : done.length = 8 ∨ ((c :: cs).take 4).takeWhile Ascii.isHexDigit = []
    · rw [if_pos hstop, if_pos hstop]
    · rw [if_neg hstop, if_neg hstop, ← valueOf]
      split
      · next hdrop => rw [hdrop, readAfter]
      · next hdrop =>
        rw [hdrop]
        rfl
      · next hdrop => rw [hdrop, readAfter]
      · next hdrop => rw [readAfter] <;> assumption

/-! ### Reading what was written -/

/-- Reading a piece and going on with what follows it. -/
theorem readPieces_piece (p : UInt16) (hrest : ∀ c ∈ rest.head?, Ascii.isHexDigit c = false)
    (hdone : done.length ≠ 8) : readPieces done run (hexDigits p.toNat ++ rest) =
      readAfter done run p.toNat (hexDigits p.toNat ++ rest) rest := by
  have hlength : (hexDigits p.toNat).length ≤ 4 := length_hexDigits p.toNat_lt
  have hdigits := takeWhile_digits hlength (fun c hc => isHexDigit_of_mem_hexDigits hc) hrest
  have hne := hexDigits_ne_nil p.toNat
  have hdrop : (hexDigits p.toNat ++ rest).drop (hexDigits p.toNat).length = rest :=
    List.drop_left
  have hvalue := valueOf_hexDigits p.toNat
  obtain ⟨c, cs, hcs⟩ := List.exists_cons_of_ne_nil hne
  have hc : c ≠ ':' := fun h =>
    absurd (isHexDigit_of_mem_hexDigits (hcs ▸ List.mem_cons_self)) (h ▸ by decide)
  generalize hexDigits p.toNat = ds at *
  subst hcs
  rw [List.cons_append, readPieces_cons hc]
  simp only [List.cons_append] at hdigits hdrop
  simp only [hdigits, hdrop, hvalue, hdone, hne, false_or, if_false]

theorem joinPieces_cons (p q : UInt16) (ps : List UInt16) :
    joinPieces (p :: q :: ps) = hexDigits p.toNat ++ ':' :: joinPieces (q :: ps) := by
  simp [joinPieces, List.intercalate_cons_cons]

theorem joinPieces_singleton (p : UInt16) : joinPieces [p] = hexDigits p.toNat := by
  simp [joinPieces]

theorem joinPieces_ne_nil (h : ps ≠ []) : joinPieces ps ≠ [] := by
  obtain ⟨p, ps, rfl⟩ := List.exists_cons_of_ne_nil h
  cases ps with
  | nil => exact joinPieces_singleton p ▸ hexDigits_ne_nil _
  | cons q ps => simp [joinPieces_cons]

/-- Reading takes the pieces that are written, one after another. -/
theorem readPieces_joinPieces (h : done.length + ps.length ≤ 8) :
    readPieces done run (joinPieces ps) = some (done ++ ps, run) := by
  induction ps generalizing done with
  | nil => rw [show joinPieces [] = [] from rfl, readPieces, List.append_nil]
  | cons p ps ih =>
    rw [List.length_cons] at h
    cases ps with
    | nil =>
      rw [joinPieces_singleton, ← List.append_nil (hexDigits p.toNat),
        readPieces_piece p (by simp) (by omega), readAfter, UInt16.ofNat_toNat]
    | cons q ps =>
      rw [joinPieces_cons, readPieces_piece p (by simp; decide) (by omega), readAfter,
        if_neg (joinPieces_ne_nil (List.cons_ne_nil q ps)), UInt16.ofNat_toNat,
        ih (by simp at h ⊢; omega), List.append_assoc, List.singleton_append]

/-- Where a run is left out, reading takes a zero for it and remembers the place. -/
theorem readPieces_run (hps : ps ≠ []) (h : done.length + ps.length < 8) :
    readPieces done none (joinPieces ps ++ ':' :: ':' :: rest) =
      readPieces (done ++ ps ++ [0]) (some (done.length + ps.length + 1)) rest := by
  induction ps generalizing done with
  | nil => exact absurd rfl hps
  | cons p ps ih =>
    rw [List.length_cons] at h
    cases ps with
    | nil =>
      rw [joinPieces_singleton, readPieces_piece p (by simp; decide) (by omega), readAfter,
        if_neg (List.cons_ne_nil _ _), UInt16.ofNat_toNat, readPieces, if_neg (by simp; omega)]
      simp
    | cons q ps =>
      rw [joinPieces_cons, List.append_assoc, List.cons_append,
        readPieces_piece p (by simp; decide) (by omega), readAfter, if_neg (by simp),
        UInt16.ofNat_toNat, ih (List.cons_ne_nil q ps) (by simp at h ⊢; omega)]
      simp [Nat.add_assoc, Nat.add_comm 1]

/-! ### Runs of zeros -/

theorem take_zerosInFront (ps : List UInt16) :
    ps.take (zerosInFront ps) = List.replicate (zerosInFront ps) 0 := by
  rw [zerosInFront, ← List.prefix_iff_eq_take.mp (List.takeWhile_prefix _), List.eq_replicate_iff]
  exact ⟨rfl, fun p hp => of_decide_eq_true
    (List.all_eq_true.mp List.all_takeWhile p hp)⟩

/-- The run that is found is one of zeros. -/
theorem longestRun_zeros {i start length : Nat} (h : longestRun i ps = (start, length)) :
    i ≤ start ∧ (ps.drop (start - i)).take length = List.replicate length 0 := by
  induction ps generalizing i start length with
  | nil =>
    obtain ⟨rfl, rfl⟩ := Prod.mk.inj h
    exact ⟨Nat.le_refl _, rfl⟩
  | cons p ps ih =>
    cases hrest : longestRun (i + 1) ps with
    | mk start' length' =>
      obtain ⟨hstart, hzeros⟩ := ih hrest
      simp only [longestRun, hrest] at h
      split at h
      · obtain ⟨rfl, rfl⟩ := Prod.mk.inj h
        rw [Nat.sub_self, List.drop_zero, take_zerosInFront]
        exact ⟨Nat.le_refl _, rfl⟩
      · obtain ⟨rfl, rfl⟩ := Prod.mk.inj h
        refine ⟨by omega, ?_⟩
        rw [show start' - i = start' - (i + 1) + 1 by omega, List.drop_succ_cons, hzeros]

theorem run_fits {start length : Nat}
    (hzeros : (ps.drop start).take length = List.replicate length 0) (hrun : 0 < length) :
    start + length ≤ ps.length := by
  have := congrArg List.length hzeros
  rw [List.length_take, List.length_drop, List.length_replicate] at this
  omega

/-- The pieces around a run of zeros and the run make up all pieces. -/
theorem expand_around {start length : Nat} (hlength : ps.length = 8)
    (hzeros : (ps.drop start).take length = List.replicate length 0) (hrun : 0 < length) :
    expand (ps.take start ++ [0] ++ ps.drop (start + length)) (some (start + 1)) = ps := by
  have hfits := run_fits hzeros hrun
  have htake : (ps.take start ++ [0]).length = start + 1 := by
    rw [List.length_append, List.length_take_of_le (by omega), List.length_singleton]
  have hmissing : 8 - (ps.take start ++ [0] ++ ps.drop (start + length)).length = length - 1 := by
    rw [List.length_append, htake, List.length_drop]
    omega
  rw [expand, hmissing, ← htake, List.take_left, List.drop_left, List.append_assoc, List.append_assoc]
  calc ps.take start ++ ([0] ++ (List.replicate (length - 1) 0 ++ ps.drop (start + length)))
      = ps.take start ++ (List.replicate length 0 ++ ps.drop (start + length)) := by
        cases length with
        | zero => exact absurd hrun (Nat.lt_irrefl 0)
        | succ k => simp [List.replicate_succ]
    _ = ps.take start ++ ps.drop start := by
        rw [← hzeros, ← List.drop_drop, List.take_append_drop]
    _ = ps := List.take_append_drop start ps

/-! ### Whole texts -/

variable {x : Ipv6}

theorem read?_of_readAll? (h : readAll? cs = some (ps, run)) (hx : expand ps run = x.pieces) :
    read? cs = some x := by
  simp only [read?, h, hx, Option.bind_eq_bind, Option.bind_some, dif_pos x.length_pieces]

theorem readAll?_of_head? (hne : cs ≠ []) (hcs : cs.head? ≠ some ':') :
    readAll? cs = readPieces [] none cs := by
  unfold readAll?
  split <;> simp_all

theorem head?_joinPieces (hps : ps ≠ []) (rest : List Char) :
    (joinPieces ps ++ rest).head? ≠ some ':' := by
  obtain ⟨p, ps, rfl⟩ := List.exists_cons_of_ne_nil hps
  obtain ⟨c, cs, hcs⟩ := List.exists_cons_of_ne_nil (hexDigits_ne_nil p.toNat)
  have hc : Ascii.isHexDigit c := isHexDigit_of_mem_hexDigits (hcs ▸ List.mem_cons_self)
  have hhead : (joinPieces (p :: ps) ++ rest).head? = some c := by
    cases ps with
    | nil => rw [joinPieces_singleton, hcs, List.cons_append, List.head?_cons]
    | cons q ps => rw [joinPieces_cons, hcs, List.cons_append, List.cons_append, List.head?_cons]
  rw [hhead]
  exact fun h => absurd (Option.some.inj h ▸ hc) (by decide)

/-- The text of an address reads back as the address. -/
theorem read?_text (x : Ipv6) : read? x.text = some x := by
  have hlength := x.length_pieces
  cases hrun : longestRun 0 x.pieces with
  | mk start length =>
    obtain ⟨-, hzeros⟩ := longestRun_zeros hrun
    rw [Nat.sub_zero] at hzeros
    simp only [text, compressed, hrun]
    split
    · next htwo =>
      have hfits := run_fits hzeros (by omega)
      have htake : (x.pieces.take start).length = start := List.length_take_of_le (by omega)
      have hdrop : (x.pieces.drop (start + length)).length = 8 - (start + length) := by
        rw [List.length_drop, hlength]
      refine read?_of_readAll? ?_ (expand_around hlength hzeros (by omega))
      obtain rfl | hstart := Nat.eq_zero_or_pos start
      · exact readPieces_joinPieces (by rw [hdrop, List.length_singleton]; omega)
      · have hfront : x.pieces.take start ≠ [] := List.ne_nil_of_length_pos (by omega)
        rw [readAll?_of_head? (by simp) (head?_joinPieces hfront _), readPieces_run hfront
          (by rw [htake, List.length_nil]; omega), readPieces_joinPieces
          (by rw [List.length_append, List.length_append, htake, hdrop]; simp; omega), htake,
          List.length_nil, Nat.zero_add, List.nil_append]
    · have hne : x.pieces ≠ [] := List.ne_nil_of_length_pos (by omega)
      have hhead := head?_joinPieces hne []
      rw [List.append_nil] at hhead
      have hall : readAll? (joinPieces x.pieces) = some (x.pieces, none) := by
        rw [readAll?_of_head? (joinPieces_ne_nil hne) hhead,
          readPieces_joinPieces (by simp [hlength]), List.nil_append]
      exact read?_of_readAll? hall rfl

/-! ### Characters -/

theorem mem_joinPieces (h : c ∈ joinPieces ps) : isSmallHex c ∨ c = ':' := by
  obtain rfl | ⟨digits, hdigits, hc⟩ := mem_intercalate h
  · exact .inr rfl
  · obtain ⟨p, -, rfl⟩ := List.mem_map.mp hdigits
    exact .inl (isSmallHex_of_mem_hexDigits hc)

theorem mem_compressed (h : c ∈ compressed ps) : isSmallHex c ∨ c = ':' := by
  unfold compressed at h
  dsimp only at h
  split at h
  · simp only [List.mem_append, List.mem_cons] at h
    obtain h | h | h | h := h
    · exact mem_joinPieces h
    · exact .inr h
    · exact .inr h
    · exact mem_joinPieces h
  · exact mem_joinPieces h

/-- The text of an address holds small hexadecimal digits and colons, and points if it ends in a
32-bit address. -/
theorem mem_plainText (h : c ∈ x.plainText) : isSmallHex c ∨ c = ':' ∨ c = '.' := by
  unfold plainText at h
  split at h
  · obtain h | h := List.mem_append.mp h
    · exact (by simp [show isSmallHex 'f' by decide] :
        ∀ c ∈ "::ffff:".toList, isSmallHex c ∨ c = ':' ∨ c = '.') c h
    · obtain h | h := Ipv4.mem_text _ h
      · exact .inl (Ascii.forall_ascii (p := fun c => Decimal.isDigit c → isSmallHex c) (by decide)
          (Ipv4.allowed_of_digit (.inl h)).1 h)
      · exact .inr (.inr h)
  · exact (mem_compressed h).imp_right .inl

/-! ### Case -/

theorem toLower_eq_point : c.toLower = '.' ↔ c = '.' := Ascii.toLower_eq_iff (by decide)

theorem toLower_eq_colon : c.toLower = ':' ↔ c = ':' := Ascii.toLower_eq_iff (by decide)

theorem splitOn_lower (cs : List Char) :
    (Ascii.lower cs).splitOn '.' = (cs.splitOn '.').map Ascii.lower := by
  induction cs with
  | nil => rfl
  | cons c cs ih =>
    obtain ⟨part, parts, hparts⟩ := List.exists_cons_of_ne_nil (List.splitOn_ne_nil '.' cs)
    rw [Ascii.lower_cons, List.splitOn_cons_eq_if_modifyHead,
      List.splitOn_cons_eq_if_modifyHead, ih, hparts]
    simp only [beq_iff_eq, toLower_eq_point]
    split
    · rfl
    · rfl

theorem all_isDigit_lower (cs : List Char) :
    (Ascii.lower cs).all Decimal.isDigit = cs.all Decimal.isDigit := by
  rw [Ascii.lower, List.all_map]
  exact congrArg cs.all (funext Ascii.isDigit_toLower)

theorem lower_of_all_isDigit (h : cs.all Decimal.isDigit) : Ascii.lower cs = cs := by
  refine Ascii.lower_eq_self fun c hc => Ascii.isUpper_eq_false.mpr ?_
  have := Decimal.toNat_of_isDigit (List.all_eq_true.mp h c hc)
  omega

theorem tailPart?_of_not_digits (h : cs.all Decimal.isDigit = false) : tailPart? cs = none := by
  unfold tailPart?
  split
  · nomatch h
  · rfl
  · rw [Decimal.value?, if_neg (by simp [h])]
    rfl

theorem tailPart?_lower (cs : List Char) : tailPart? (Ascii.lower cs) = tailPart? cs := by
  cases h : cs.all Decimal.isDigit with
  | true => rw [lower_of_all_isDigit h]
  | false => rw [tailPart?_of_not_digits h, tailPart?_of_not_digits ((all_isDigit_lower cs).trans h)]

theorem tailParts?_lower (cs : List Char) : tailParts? (Ascii.lower cs) = tailParts? cs := by
  simp only [tailParts?, splitOn_lower, List.length_map, mapM_map_eq tailPart?_lower]

theorem readAfter_lower {value : Nat} {tail : List Char}
    (htail : ∀ after, tail = ':' :: after → ∀ done,
      readPieces done run (Ascii.lower after) = readPieces done run after) :
    readAfter done run value (Ascii.lower cs) (Ascii.lower tail) =
      readAfter done run value cs tail := by
  cases tail with
  | nil => rfl
  | cons t after =>
    rw [Ascii.lower_cons]
    by_cases hpoint : t = '.'
    · subst hpoint
      rw [show '.'.toLower = '.' from rfl, readAfter, readAfter, tailParts?_lower]
    by_cases hcolon : t = ':'
    · subst hcolon
      rw [show ':'.toLower = ':' from rfl, readAfter, readAfter, htail after rfl]
      simp [Ascii.lower]
    · rw [readAfter, readAfter] <;> simp_all [toLower_eq_point, toLower_eq_colon]

theorem valueOf_lower (cs : List Char) : valueOf (Ascii.lower cs) = valueOf cs := by
  rw [valueOf, Ascii.lower, List.foldl_map]
  simp only [Ascii.hexValue?_toLower]
  rfl

theorem takeWhile_lower (cs : List Char) : ((Ascii.lower cs).take 4).takeWhile Ascii.isHexDigit =
    Ascii.lower ((cs.take 4).takeWhile Ascii.isHexDigit) := by
  rw [Ascii.lower, ← List.map_take, List.takeWhile_map]
  exact congrArg (List.map _) (congrArg (List.takeWhile · _) (funext Ascii.isHexDigit_toLower))

theorem drop_lower (n : Nat) (cs : List Char) :
    (Ascii.lower cs).drop n = Ascii.lower (cs.drop n) :=
  List.map_drop.symm

/-- Case makes no difference to the pieces that are read. -/
theorem readPieces_lower (done : List UInt16) (run : Option Nat) (cs : List Char) :
    readPieces done run (Ascii.lower cs) = readPieces done run cs := by
  match cs with
  | [] => rfl
  | c :: cs =>
    by_cases hc : c = ':'
    · subst hc
      rw [Ascii.lower_cons, show ':'.toLower = ':' from rfl, readPieces, readPieces,
        readPieces_lower _ _ cs]
    · have hread : readPieces done run (c.toLower :: Ascii.lower cs) = _ :=
        readPieces_cons fun h => hc (toLower_eq_colon.mp h)
      rw [← Ascii.lower_cons] at hread
      rw [hread, readPieces_cons hc]
      dsimp only
      simp only [takeWhile_lower, valueOf_lower, Ascii.lower_eq_nil, Ascii.length_lower, drop_lower]
      split
      · rfl
      · next hstop => exact readAfter_lower fun after hafter done => readPieces_lower done run after
termination_by cs.length
decreasing_by
  · simp
  · have := congrArg List.length hafter
    simp at this ⊢
    omega

theorem readAll?_lower (cs : List Char) : readAll? (Ascii.lower cs) = readAll? cs := by
  by_cases hne : cs = []
  · rw [hne, Ascii.lower_nil]
  by_cases hhead : cs.head? = some ':'
  · obtain ⟨rest, rfl⟩ := List.head?_eq_some_iff.mp hhead
    cases rest with
    | nil => rfl
    | cons d rest =>
      rw [Ascii.lower_cons, Ascii.lower_cons, show ':'.toLower = ':' from rfl]
      by_cases hd : d = ':'
      · subst hd
        exact readPieces_lower [0] (some 1) rest
      · rw [readAll?, readAll?] <;> simp_all [toLower_eq_colon]
  · have hfold : (Ascii.lower cs).head? ≠ some ':' := by
      cases cs <;> simp_all [toLower_eq_colon]
    rw [readAll?_of_head? hne hhead, readAll?_of_head? (mt Ascii.lower_eq_nil.mp hne) hfold,
      readPieces_lower]

/-- Case in a text makes no difference to the address that it stands for. -/
theorem read?_lower (cs : List Char) : read? (Ascii.lower cs) = read? cs := by
  rw [read?, read?, readAll?_lower]

end HostWatch.Url.Ipv6
