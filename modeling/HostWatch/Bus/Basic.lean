import HostWatch.Bus.Error
import HostWatch.Bus.Queue

/-!
# The event bus

A message that is published on a topic goes to every queue that is subscribed to the
topic at that time, each of which then hands it out on its own. Queues of one topic
have different names.
-/

namespace HostWatch

/-- The event bus. -/
structure Bus where
  /-- How messages are handed out again. -/
  policy : RedeliveryPolicy := .standard
  /-- How often the handler of a queue may be called at once; 0 counts as 1. -/
  concurrency : Nat := 1
  /-- The queues in the order of their subscription. -/
  queues : List Queue := []
  /-- How many messages have been published. -/
  published : Nat := 0
  deriving DecidableEq, Repr

namespace Bus

/-- The queues of a topic. -/
def bound (b : Bus) (topic : String) : List Queue :=
  b.queues.filter (·.topic = topic)

/-- How many queues a topic has. -/
def queueCount (b : Bus) (topic : String) : Nat :=
  (b.bound topic).length

/-- Subscribe a handler to a topic under the name of a queue. -/
def subscribe (topic name handler : String) (b : Bus) : Except EventError Bus :=
  if (b.bound topic).any (·.name = name) then .error (.duplicateQueue topic name)
  else .ok { b with
    queues := b.queues ++ [.subscribed topic name handler b.policy b.concurrency] }

/-- Put a message into one queue after another until one refuses; says whether all took it. -/
def enqueue (topic : String) (m : Message) : List Queue → Bool × List Queue
  | [] => (true, [])
  | q :: qs =>
    if q.topic = topic then
      match q.accept? m with
      | none => (false, q :: qs)
      | some q =>
        let (all, qs) := enqueue topic m qs
        (all, q :: qs)
    else
      let (all, qs) := enqueue topic m qs
      (all, q :: qs)

/-- Publish an event on a topic. -/
def publish (topic : String) (body : Bytes) (b : Bus) : Except EventError Unit × Bus :=
  let (all, queues) := enqueue topic { id := b.published, body } b.queues
  (if all then .ok () else .error .closed, { b with queues, published := b.published + 1 })

/-- Fire the shutdown signal, which reaches the queues there are. -/
def shutdown (b : Bus) : Bus :=
  { b with queues := b.queues.map fun q => { q with signalled := true } }

/-- Let an action happen to a queue. -/
def act (queue : Nat) (a : QueueAction) (b : Bus) : Option Bus := do
  let q ← b.queues[queue]?
  let q ← q.act a
  some { b with queues := b.queues.set queue q }

/-- What has been measured of the deliveries. -/
def metrics (b : Bus) : Metrics :=
  (b.queues.flatMap Queue.series).foldl Metrics.count []

end Bus

end HostWatch
