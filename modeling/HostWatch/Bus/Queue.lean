import HostWatch.Bus.Disposition
import HostWatch.Bus.Message
import HostWatch.Bus.Redelivery
import HostWatch.Metrics

/-!
# Queues

A queue holds the messages that were published for one subscription and are not yet
handed out. Its dispatcher first takes a permit and then waits for a message, which it
hands to a delivery of its own together with the permit. The delivery decodes the
message and calls the handler, gives the permit back when the call ends, and, if the
message is to be handed out again, waits for some time and puts it back.

`Queue.act` says what each action does and when it can be taken; a history of a queue
is any sequence of actions that can be taken one after another. Once the shutdown
signal has reached the dispatcher, the dispatcher can stop; messages that still wait
are then discarded, and so are those that come back later.
-/

namespace HostWatch

/-- What a call of the handler came to. -/
inductive HandlerOutcome where
  /-- The handler took the message. -/
  | taken
  /-- The handler failed and says what becomes of the message. -/
  | failed (disposition : Disposition)
  deriving DecidableEq, Repr

/-- Where a delivery stands. -/
inductive Phase where
  /-- The message is not decoded yet. -/
  | fresh
  /-- The handler has been called with a report. -/
  | handling (report : Report)
  /-- The message waits to be put back. -/
  | backoff
  deriving DecidableEq, Repr

/-- Whether a delivery holds a permit. -/
def Phase.holdsPermit : Phase → Bool
  | .backoff => false
  | _ => true

/-- A message that has been handed out. -/
structure Delivery where
  /-- The number of the delivery, new for each one of a queue. -/
  number : Nat
  /-- The message. -/
  message : Message
  /-- Where it stands. -/
  phase : Phase := .fresh
  deriving DecidableEq, Repr

/-- Where a dispatcher stands. -/
inductive Dispatcher where
  /-- It is about to take a permit. -/
  | acquiring
  /-- It holds a permit and is about to take a message. -/
  | receiving
  /-- It has stopped for good. -/
  | stopped
  deriving DecidableEq, Repr

/-- The queue of one subscription. -/
structure Queue where
  /-- The topic. -/
  topic : String
  /-- The name of the queue. -/
  name : String
  /-- The name of the handler. -/
  handler : String
  /-- How messages are handed out again. -/
  policy : RedeliveryPolicy
  /-- Permits that nobody holds. -/
  free : Nat
  /-- Where the dispatcher stands. -/
  dispatcher : Dispatcher := .acquiring
  /-- Whether the shutdown signal has reached the dispatcher. -/
  signalled : Bool := false
  /-- Messages that wait to be handed out, the next one first. -/
  waiting : List Message := []
  /-- The deliveries under way, in the order of their beginning. -/
  deliveries : List Delivery := []
  /-- How many deliveries have begun. -/
  begun : Nat := 0
  /-- Messages with which the handler was called, the last one first. -/
  handed : List Message := []
  /-- What became of deliveries, the last one first. -/
  results : List (Message × DeliveryResult) := []
  /-- Messages that were given up when the dispatcher stopped or after. -/
  discarded : List Message := []
  deriving DecidableEq, Repr

/-- Something that can happen to a queue. -/
inductive QueueAction where
  /-- The dispatcher takes a permit. -/
  | takePermit
  /-- The dispatcher takes a message and begins a delivery. -/
  | receive
  /-- The dispatcher stops. -/
  | stop
  /-- A delivery decodes its message, and calls the handler if that succeeds. -/
  | decode (number : Nat)
  /-- The handler's call of a delivery ends. -/
  | finish (number : Nat) (outcome : HandlerOutcome)
  /-- A delivery has waited long enough and puts its message back. -/
  | putBack (number : Nat)
  deriving DecidableEq, Repr

namespace Queue

/-- A queue of a new subscription, whose handler may be called so often at once. -/
def subscribed (topic name handler : String) (policy : RedeliveryPolicy) (concurrency : Nat) :
    Queue :=
  { topic, name, handler, policy, free := max concurrency 1 }

/-- Put a message at the end, unless the dispatcher has stopped. -/
def accept? (m : Message) (q : Queue) : Option Queue :=
  if q.dispatcher = .stopped then none else some { q with waiting := q.waiting ++ [m] }

/-- The delivery with a number. -/
def delivery? (q : Queue) (number : Nat) : Option Delivery :=
  q.deliveries.find? (·.number = number)

/-- The deliveries without one. -/
def without (q : Queue) (number : Nat) : List Delivery :=
  q.deliveries.filter (·.number ≠ number)

/-- The deliveries with one of them in another phase. -/
def inPhase (q : Queue) (number : Nat) (phase : Phase) : List Delivery :=
  q.deliveries.map fun d => if d.number = number then { d with phase } else d

/-- End a delivery that holds a permit. -/
def settle (d : Delivery) (result : DeliveryResult) (q : Queue) : Queue :=
  { q with
    free := q.free + 1
    deliveries := q.without d.number
    results := (d.message, result) :: q.results }

/-- End the handler's call of a delivery. -/
def finish (d : Delivery) (outcome : HandlerOutcome) (q : Queue) : Queue :=
  match outcome with
  | .taken => q.settle d .ack
  | .failed .reject => q.settle d .rejected
  | .failed .redeliver =>
    if q.policy.allows d.message.attempt then
      { q with
        free := q.free + 1
        deliveries := q.inPhase d.number .backoff
        results := (d.message, .redelivered) :: q.results }
    else q.settle d .dropped

/-- What an action does, if it can be taken. -/
def act (a : QueueAction) (q : Queue) : Option Queue :=
  match a with
  | .takePermit =>
    if q.dispatcher = .acquiring ∧ 0 < q.free then
      some { q with dispatcher := .receiving, free := q.free - 1 }
    else none
  | .receive =>
    match q.dispatcher, q.waiting with
    | .receiving, m :: rest =>
      some { q with
        dispatcher := .acquiring
        waiting := rest
        deliveries := q.deliveries ++ [{ number := q.begun, message := m }]
        begun := q.begun + 1 }
    | _, _ => none
  | .stop =>
    if q.signalled ∧ q.dispatcher ≠ .stopped then
      some { q with
        dispatcher := .stopped
        free := if q.dispatcher = .receiving then q.free + 1 else q.free
        waiting := []
        discarded := q.discarded ++ q.waiting }
    else none
  | .decode n =>
    match q.delivery? n with
    | some d =>
      if d.phase = .fresh then
        match d.message.decode with
        | .error _ => some (q.settle d .undecodable)
        | .ok r =>
          some { q with
            deliveries := q.inPhase n (.handling r)
            handed := d.message :: q.handed }
      else none
    | none => none
  | .finish n outcome =>
    match q.delivery? n with
    | some d =>
      match d.phase with
      | .handling _ => some (q.finish d outcome)
      | _ => none
    | none => none
  | .putBack n =>
    match q.delivery? n with
    | some d =>
      if d.phase = .backoff then
        let q := { q with deliveries := q.without n }
        match q.accept? d.message.again with
        | some q => some q
        | none => some { q with discarded := q.discarded ++ [d.message.again] }
      else none
    | none => none

/-- The series of a queue's results, the last one first. -/
def series (q : Queue) : List Series :=
  q.results.map fun r => .deliveries q.topic r.2

end Queue

end HostWatch
