import HostWatch.Counter.Store
import HostWatch.Proofs.Json.Numerals
import HostWatch.Proofs.Storage.Contents

/-!
# The file of the counters

An entry is written with its instant of expiry, if it has one, and a file cannot hold an instant
behind `lastInstant`. So entries read back from their written form, whatever keys and texts they
have, except that an expiry behind the last instant is read as the last instant (`decode_encode`).
-/

namespace HostWatch

namespace CounterEntry

open CounterStore (lastInstant)

/-- The entry as a file holds it, with no expiry behind the last instant. -/
def capped (e : CounterEntry) : CounterEntry :=
  { e with expiresAt := e.expiresAt.map (min · lastInstant) }

/-- Before the last instant nothing expires earlier for being capped. -/
theorem isLive_capped {t : Nat} (ht : t < lastInstant) (e : CounterEntry) :
    e.capped.isLive t = e.isLive t := by
  obtain ⟨value, deadline⟩ := e
  cases deadline with
  | none => rfl
  | some d =>
    simp only [capped, isLive, Option.map_some, Option.all_some, decide_eq_decide]
    omega

end CounterEntry

namespace CounterStore

theorem entryValue_capped (e : CounterEntry) : entryValue e.capped = entryValue e := by
  obtain ⟨value, deadline⟩ := e
  cases deadline with
  | none => rfl
  | some d =>
    have hmin : min ((min d lastInstant : Nat) : Int) lastInstant = min (d : Int) lastInstant := by
      omega
    simp only [CounterEntry.capped, entryValue, Option.map_some, hmin]

/-- An instant that a file can hold reads back. -/
theorem reads_deadline {d : Nat} (h : d ≤ lastInstant) :
    Json.Reads (Json.nullable (Json.integer 0 lastInstant)) (Decimal.ofInt d) (some (d : Int)) := by
  have hmin : Int64.minValue.toInt ≤ 0 := by decide
  have hmax : (lastInstant : Int) ≤ Json.maxSignificand := by decide
  refine (Json.Reads.integer (by omega) (by omega) (by omega) (by omega)).nullable fun bs heq => ?_
  -- a number begins with a minus sign or a digit
  obtain ⟨b, bs', hbs, hb⟩ := Json.encode_ofInt_cons d
  rw [hbs] at heq
  cases heq
  rcases hb with hb | hb <;> cases hb

/-- An entry is read where the record of its text and its instant is. -/
theorem reads_entryReader {text : List Char} {value : String} {deadline : Option Int}
    (h : Json.Reads (Json.recordWithOption "value" Json.string "expires_at_ms"
      (Json.integer 0 lastInstant)) text (value, deadline)) :
    Json.Reads entryReader text ⟨value, deadline.map Int.toNat⟩ :=
  ⟨h.starts, fun rest hrest => by rw [entryReader, h.reads rest hrest]; rfl⟩

/-- An entry reads back as a file holds it. -/
theorem reads_entry (e : CounterEntry) :
    Json.Reads entryReader (entryValue e).compact e.capped := by
  obtain ⟨value, deadline⟩ := e
  have hvalue := Json.Reads.string value
  cases deadline with
  | none => exact reads_entryReader hvalue.withoutOption
  | some d =>
    have hcap : min (d : Int) lastInstant = (min d lastInstant : Nat) := by omega
    have hdeadline := reads_deadline (Nat.min_le_right d lastInstant)
    have hnames : "expires_at_ms" ≠ "value" := by decide
    simp only [entryValue, hcap]
    exact reads_entryReader (hvalue.withOption hnames hdeadline)

/-- Entries that are in order of their keys read back from their written form. -/
theorem decode_encode {m : Keyed CounterEntry} (hm : m.Ordered) :
    Json.decode reader (encode m) = .ok (m.map fun e => (e.1, e.2.capped)) := by
  have htext : encode m = encode (m.map fun e => (e.1, e.2.capped)) := by
    simp only [encode, List.map_map, Function.comp_def, entryValue_capped]
  have hreads : ∀ e ∈ m.map (fun e => (e.1, e.2.capped)),
      Json.Reads entryReader (entryValue e.2).compact e.2 := by
    intro e he
    obtain ⟨e, -, rfl⟩ := List.mem_map.mp he
    rw [entryValue_capped]
    exact reads_entry e.2
  rw [htext]
  exact (Json.Reads.map hreads (hm.map CounterEntry.capped)).decode

end CounterStore

end HostWatch
