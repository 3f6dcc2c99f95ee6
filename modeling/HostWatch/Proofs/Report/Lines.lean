import HostWatch.Proofs.Json.RoundTrip
import HostWatch.Bus.Message
import HostWatch.Report.Lines
import Mathlib.Data.List.TakeWhile

/-!
# Reports on lines of their own

The written form of a report is one line, whatever its URL is: no octet of it is a control
character (`le_toNat_of_mem_encode`), so it holds no line end, and it begins and ends with a
brace, so nothing is trimmed off it and it is no comment. What is on such a line is the report
(`ofLine?_written`). An input in which reports were written, each on a line of its own, with a line
feed or a carriage return and a line feed at its end, brings back these reports
(`Written.filterMap_textLines`), and an ingestion hands on the same as if it had been given the
reports themselves.
-/

namespace HostWatch

/-! ### Text without control characters -/

namespace Json

theorem le_toNat_hexLower {d : Nat} (h : d < 16) : 0x20 ≤ (Ascii.hexLower d).toNat := by
  have all : ∀ d : Fin 16, 0x20 ≤ (Ascii.hexLower d).toNat := by decide
  exact all ⟨d, h⟩

/-- A character inside a string is written without control characters. -/
theorem le_toNat_of_mem_escapeChar {c d : Char} (h : d ∈ escapeChar c) : 0x20 ≤ d.toNat := by
  unfold escapeChar at h
  split at h
  iterate 7
    · simp only [List.mem_cons, List.not_mem_nil, or_false] at h
      rcases h with rfl | rfl <;> decide
    split at h
  · next hcontrol =>
    simp only [List.mem_cons, List.not_mem_nil, or_false] at h
    rcases h with rfl | rfl | rfl | rfl | rfl | rfl
    iterate 4 decide
    · exact le_toNat_hexLower (by omega)
    · exact le_toNat_hexLower (by omega)
  · next hplain =>
    obtain rfl := List.mem_singleton.mp h
    omega

theorem le_toNat_of_mem_quote {s : String} {d : Char} (h : d ∈ quote s) : 0x20 ≤ d.toNat := by
  rcases List.mem_cons.mp h with rfl | h
  · decide
  rcases List.mem_append.mp h with h | h
  · obtain ⟨c, -, hd⟩ := List.mem_flatMap.mp h
    exact le_toNat_of_mem_escapeChar hd
  · obtain rfl := List.mem_singleton.mp h
    decide

end Json

namespace Report

/-! ### The written form -/

/-- The written form of a report is an object with one member. -/
theorem compact_toValue (r : Report) : r.toValue.compact =
    '\x7b' :: (Json.quote "url" ++ ':' :: Json.quote r.url ++ ['\x7d']) := rfl

/-- A report reads back from its written form. -/
theorem decode_encode (r : Report) : decode r.encode = .ok r := by
  have hrecord : Json.Reads (Json.record "url" Json.string) r.toValue.compact r.url :=
    .record "url" (.string r.url)
  have hreads : Json.Reads reader r.toValue.compact r :=
    ⟨hrecord.starts, fun rest hrest => by rw [reader, hrecord.reads rest hrest]; rfl⟩
  exact hreads.decode

/-- A message that carries the written form of a report carries the report. -/
theorem decode_message (r : Report) {m : Message} (h : m.body = r.encode) : m.decode = .ok r := by
  rw [Message.decode, h, decode_encode]

/-- The written form of a report has no control characters. -/
theorem le_toNat_of_mem_compact {r : Report} {d : Char} (h : d ∈ r.toValue.compact) :
    0x20 ≤ d.toNat := by
  rw [compact_toValue] at h
  rcases List.mem_cons.mp h with rfl | h
  · decide
  rcases List.mem_append.mp h with h | h
  · rcases List.mem_append.mp h with h | h
    · exact Json.le_toNat_of_mem_quote h
    · rcases List.mem_cons.mp h with rfl | h
      · decide
      · exact Json.le_toNat_of_mem_quote h
  · obtain rfl := List.mem_singleton.mp h
    decide

theorem le_toNat_of_mem_encode {r : Report} {b : UInt8} (h : b ∈ r.encode) : 0x20 ≤ b.toNat := by
  obtain ⟨d, hd, hb⟩ := List.mem_flatMap.mp h
  have hchar := le_toNat_of_mem_compact hd
  rcases Utf8.toNat_of_mem_encodeChar hb with heq | hle <;> omega

/-- So no line ends inside of it. -/
theorem not_mem_encode (r : Report) {b : UInt8} (hb : b.toNat < 0x20) : b ∉ r.encode := fun h =>
  Nat.not_le_of_lt hb (le_toNat_of_mem_encode h)

theorem encode_ne_nil (r : Report) : r.encode ≠ [] := by
  rw [encode, Json.Value.encode, compact_toValue, Utf8.encode_cons]
  exact List.append_ne_nil_of_left_ne_nil (Utf8.encodeChar_ne_nil _) _

/-- Nothing is trimmed off the written form of a report, which stands between braces. -/
theorem trim_compact (r : Report) : Text.trim r.toValue.compact = r.toValue.compact := by
  refine Text.trimBy_eq_self ?_ ?_
  · rw [compact_toValue, List.head?_cons]
    decide
  · rw [compact_toValue, ← List.cons_append, List.getLast?_concat]
    decide

/-- The line on which a report was written holds the report. -/
theorem ofLine?_written (r : Report) : ofLine? (String.ofList r.toValue.compact) = some r := by
  rw [ofLine?, String.toList_ofList, trim_compact, compact_toValue]
  simp only
  rw [← compact_toValue]
  exact congrArg Except.toOption (decode_encode r)

/-! ### The lines of an input -/

variable {line rest input : Bytes}

theorem breakLine_append (h : 0x0A ∉ line) (rest : Bytes) :
    breakLine (line ++ 0x0A :: rest) = (line, some rest) := by
  induction line with
  | nil => rfl
  | cons b line ih =>
    obtain ⟨hb, hline⟩ := not_or.mp (List.mem_cons.not.mp h)
    rw [List.cons_append, breakLine, if_neg (Ne.symm hb), ih hline]

theorem breakLine_of_not_mem (h : 0x0A ∉ line) : breakLine line = (line, none) := by
  induction line with
  | nil => rfl
  | cons b line ih =>
    obtain ⟨hb, hline⟩ := not_or.mp (List.mem_cons.not.mp h)
    rw [breakLine, if_neg (Ne.symm hb), ih hline]

theorem splitLines_nil : splitLines [] = [] := by
  rw [splitLines]
  rfl

/-- Up to its line feed, the first line is a line. -/
theorem splitLines_append (h : 0x0A ∉ line) (rest : Bytes) :
    splitLines (line ++ 0x0A :: rest) = dropReturn line :: splitLines rest := by
  rw [splitLines]
  split
  · next heq => rw [breakLine_append h] at heq; cases heq
  · next heq => rw [breakLine_append h] at heq; cases heq; rfl

/-- What is left without a line feed is the last line. -/
theorem splitLines_of_not_mem (h : 0x0A ∉ line) (hne : line ≠ []) : splitLines line = [line] := by
  rw [splitLines]
  split
  · next heq => rw [breakLine_of_not_mem h] at heq; cases heq; rw [if_neg hne]
  · next heq => rw [breakLine_of_not_mem h] at heq; cases heq

theorem dropReturn_of_not_mem (h : 0x0D ∉ line) : dropReturn line = line :=
  if_neg fun hlast => h (List.mem_of_getLast? hlast)

theorem dropReturn_append (line : Bytes) : dropReturn (line ++ [0x0D]) = line := by
  rw [dropReturn, if_pos List.getLast?_concat, List.dropLast_concat]

/-! ### Inputs that reports were written in -/

/-- The reports were written in the input, each on a line of its own. -/
inductive Written : List Report → Bytes → Prop where
  /-- There are none. -/
  | nil : Written [] []
  /-- The last line needs no end. -/
  | last (r : Report) : Written [r] r.encode
  /-- A line ends at a line feed. -/
  | line (r : Report) {rs : List Report} {input : Bytes} :
    Written rs input → Written (r :: rs) (r.encode ++ 0x0A :: input)
  /-- A carriage return before the line feed belongs to the line end. -/
  | lineReturn (r : Report) {rs : List Report} {input : Bytes} :
    Written rs input → Written (r :: rs) (r.encode ++ 0x0D :: 0x0A :: input)

/-- Any reports can be written, with a line feed after each. -/
theorem written_flatMap (rs : List Report) : Written rs (rs.flatMap fun r => r.encode ++ [0x0A]) := by
  induction rs with
  | nil => exact .nil
  | cons r rs ih =>
    rw [List.flatMap_cons, List.append_assoc, List.singleton_append]
    exact .line r ih

variable {rs : List Report}

/-- The lines of the input are the written forms. -/
theorem Written.splitLines_eq (h : Written rs input) : splitLines input = rs.map encode := by
  have hfeed : ∀ r : Report, 0x0A ∉ r.encode := fun r => r.not_mem_encode (by decide)
  have hreturn : ∀ r : Report, 0x0D ∉ r.encode := fun r => r.not_mem_encode (by decide)
  induction h with
  | nil => exact splitLines_nil
  | last r => exact splitLines_of_not_mem (hfeed r) r.encode_ne_nil
  | line r _ ih =>
    rw [splitLines_append (hfeed r), dropReturn_of_not_mem (hreturn r), ih, List.map_cons]
  | @lineReturn r rs input _ ih =>
    have hline : 0x0A ∉ r.encode ++ [0x0D] := fun hmem =>
      (List.mem_append.mp hmem).elim (hfeed r) (by decide)
    have hsplit := splitLines_append hline input
    rw [List.append_assoc, List.singleton_append, dropReturn_append] at hsplit
    rw [hsplit, ih, List.map_cons]

/-- Every line is text. -/
theorem Written.textLines_eq (h : Written rs input) :
    textLines input = rs.map fun r => String.ofList r.toValue.compact := by
  have htext : (Utf8.toString? ∘ encode) = fun r => some (String.ofList r.toValue.compact) := by
    funext r
    rw [Function.comp_apply, Utf8.toString?, encode, Json.Value.encode, Utf8.decode?_encode,
      Option.map_some]
  have hall : ∀ line ∈ rs.map fun r => some (String.ofList r.toValue.compact),
      line.isSome = true := by
    intro line hline
    obtain ⟨r, -, rfl⟩ := List.mem_map.mp hline
    rfl
  rw [textLines, h.splitLines_eq, List.map_map, htext, List.takeWhile_eq_self_iff.mpr hall,
    List.filterMap_map, ← List.filterMap_eq_map]
  rfl

/-- The input holds the reports that were written in it. -/
theorem Written.filterMap_textLines (h : Written rs input) :
    (textLines input).filterMap ofLine? = rs := by
  rw [h.textLines_eq, List.filterMap_map]
  have hall : (ofLine? ∘ fun r : Report => String.ofList r.toValue.compact) = some := by
    funext r
    rw [Function.comp_apply, ofLine?_written]
  rw [hall, List.filterMap_some]

end Report

end HostWatch
