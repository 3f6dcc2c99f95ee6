import HostWatch.Proofs.Bus.FanOut
import HostWatch.Proofs.Report.Lines

/-!
# What is ingested is published

Reports that were written on lines of their own all arrive: whatever takes them is handed these
reports, one after another and no others, and on the bus each of them becomes one message for every
queue of the topic, in the order of the lines (`Report.ingest_lossless`). The body of the message is
what was written on the line, so the message decodes to the report.
-/

namespace HostWatch

/-- A queue with messages at the end, if it is bound to the topic. -/
def Queue.giveAll (topic : String) (ms : List Message) (q : Queue) : Queue :=
  if q.topic = topic then { q with waiting := q.waiting ++ ms } else q

theorem Queue.giveAll_nil (topic : String) (q : Queue) : q.giveAll topic [] = q := by
  rw [giveAll, List.append_nil]
  exact ite_id q

theorem Queue.giveAll_give (topic : String) (m : Message) (ms : List Message) (q : Queue) :
    (q.give topic m).giveAll topic ms = q.giveAll topic (m :: ms) := by
  by_cases ht : q.topic = topic
  · simp only [giveAll, give, if_pos ht, List.append_assoc, List.singleton_append]
  · simp only [giveAll, give, if_neg ht]

/-- The dispatchers of a topic run on after a publication. -/
theorem Bus.Runs.give {topic : String} {qs : List Queue} (h : Runs topic qs) (m : Message) :
    Runs topic (qs.map (·.give topic m)) := by
  intro q hq
  obtain ⟨p, hp, rfl⟩ := List.mem_map.mp hq
  unfold Queue.give
  split
  · exact h p hp
  · exact h p hp

namespace Report

variable {rs : List Report} {input : Bytes}

/-- The messages in which reports travel that are published after so many others. -/
def messages (published : Nat) (rs : List Report) : List Message :=
  rs.mapIdx fun i r => { id := published + i, body := r.encode }

theorem messages_cons (published : Nat) (r : Report) (rs : List Report) :
    messages published (r :: rs) =
      { id := published, body := r.encode } :: messages (published + 1) rs := by
  have hnext : (fun i (r : Report) => ({ id := published + (i + 1), body := r.encode } : Message)) =
      fun i r => { id := published + 1 + i, body := r.encode } := by
    funext i r
    rw [Nat.add_assoc, Nat.add_comm 1 i]
  rw [messages, List.mapIdx_cons, hnext]
  rfl

/-- Each report travels in a message of its own, which decodes to it. -/
theorem exists_message {i : Nat} {r : Report} (h : rs[i]? = some r) (published : Nat) :
    ∃ m, (messages published rs)[i]? = some m ∧ m.id = published + i ∧ m.attempt = 0 ∧
      m.body = r.encode ∧ m.decode = .ok r := by
  refine ⟨{ id := published + i, body := r.encode }, ?_, rfl, rfl, rfl, decode_message r rfl⟩
  rw [messages, List.getElem?_mapIdx, h, Option.map_some]

/-- Reports that are published one after another are all taken, and each queue of the topic has
their messages at its end. -/
theorem publishAll_of_runs {topic : String} {b : Bus} (h : Bus.Runs topic b.queues)
    (rs : List Report) : publishAll (fun r => Bus.publish topic r.encode) rs b =
      (.ok rs.length, { b with
        queues := b.queues.map (·.giveAll topic (messages b.published rs))
        published := b.published + rs.length }) := by
  induction rs generalizing b with
  | nil =>
    have hsame : b.queues.map (·.giveAll topic (messages b.published [])) = b.queues :=
      List.map_id'' (fun q => q.giveAll_nil topic) b.queues
    rw [hsame]
    rfl
  | cons r rs ih =>
    have hgive : Queue.giveAll topic (messages (b.published + 1) rs) ∘
        Queue.give topic { id := b.published, body := r.encode } =
        Queue.giveAll topic (messages b.published (r :: rs)) := by
      funext q
      rw [Function.comp_apply, Queue.giveAll_give, messages_cons]
    rw [publishAll, Bus.publish_of_runs h]
    simp only
    rw [ih (h.give _), List.map_map, hgive, Nat.add_right_comm]
    rfl

/-- Nothing of what was written in an input is lost, added or changed on its way. -/
structure Lossless (rs : List Report) (input : Bytes) : Prop where
  /-- Whatever takes the reports is handed these, one after another, until it refuses one. -/
  handed : ∀ {σ ε : Type} (publish : Report → σ → Except ε Unit × σ) (s : σ),
    ingest publish none input s = publishAll publish rs s
  /-- A bus whose dispatchers of the topic run takes them all, and says how many they are. Each
  queue of the topic has their messages at its end then, and nothing else changes. -/
  published : ∀ {topic : String} {b : Bus}, Bus.Runs topic b.queues →
    ingest (fun r => Bus.publish topic r.encode) none input b =
      (.ok rs.length, { b with
        queues := b.queues.map (·.giveAll topic (messages b.published rs))
        published := b.published + rs.length })
  /-- There are as many messages as reports. -/
  length : ∀ published, (messages published rs).length = rs.length
  /-- The body of each message is the written form of its report, to which it decodes. -/
  message : ∀ {i : Nat} {r : Report}, rs[i]? = some r → ∀ published,
    ∃ m, (messages published rs)[i]? = some m ∧ m.id = published + i ∧ m.attempt = 0 ∧
      m.body = r.encode ∧ m.decode = .ok r

/-- Reports that were written in an input are ingested without loss, whatever their URLs are. -/
theorem ingest_lossless (h : Written rs input) : Lossless rs input := by
  have hhanded : ∀ {σ ε : Type} (publish : Report → σ → Except ε Unit × σ) (s : σ),
      ingest publish none input s = publishAll publish rs s := by
    intro σ ε publish s
    rw [ingest]
    exact congrArg (publishAll publish · s) h.filterMap_textLines
  refine ⟨hhanded, fun hruns => ?_, fun published => ?_, fun hr published =>
    exists_message hr published⟩
  · rw [hhanded, publishAll_of_runs hruns]
  · rw [messages, List.length_mapIdx]

/-- Two reports on lines with different ends, and one that the input breaks off after. Their URLs
look like a comment, the end of a line, and the end of a string. -/
theorem ingest_lossless_three :
    ∃ input, Written [⟨"# \u00e9"⟩, ⟨"\r\n\u2028 "⟩, ⟨"\"\\\x00\x7b"⟩] input ∧
      Lossless [⟨"# \u00e9"⟩, ⟨"\r\n\u2028 "⟩, ⟨"\"\\\x00\x7b"⟩] input ∧
      Utf8.toString? input = some
        "\x7b\"url\":\"# \u00e9\"\x7d\n\x7b\"url\":\"\\r\\n\u2028 \"\x7d\r\n\x7b\"url\":\"\\\"\\\\\\u0000\x7b\"\x7d" := by
  have hwritten : Written [⟨"# \u00e9"⟩, ⟨"\r\n\u2028 "⟩, ⟨"\"\\\x00\x7b"⟩] _ :=
    .line _ (.lineReturn _ (.last _))
  exact ⟨_, hwritten, ingest_lossless hwritten, by decide +kernel⟩

end Report

end HostWatch
