import HostWatch.Bus.Basic

/-!
# The bus on virtual time

A timeline runs the tasks of a bus, its dispatchers and deliveries, one at a time. A
task that can go on stands in line, behind those that could go on before it, and when
its turn comes it goes on until it has to wait. When no task can go on, the time jumps
to the end of the next backoff. The handlers are an interface over a state of any
type; a call may end at once or leave its delivery waiting until it is woken.

The jitter of the delays is a free choice of the bus; on a timeline it is 0.
-/

namespace HostWatch

/-- A task of the bus. -/
inductive TaskRef where
  /-- The dispatcher of a queue. -/
  | dispatcher (queue : Nat)
  /-- A delivery of a queue. -/
  | delivery (queue number : Nat)
  deriving DecidableEq, Repr

/-- The handlers of a bus. -/
structure Handlers (σ : Type) where
  /-- Call a handler with a report; brings nothing if the call has to wait. -/
  call : (handler : String) → TaskRef → Report → σ → Option HandlerOutcome × σ
  /-- Ask whether a call that had to wait has come to its end. -/
  resume : (handler : String) → TaskRef → σ → Option HandlerOutcome × σ

/-- A bus on virtual time. -/
structure Timeline (σ : Type) where
  /-- The bus. -/
  bus : Bus
  /-- The state of the handlers. -/
  state : σ
  /-- The present, in milliseconds. -/
  now : Nat := 0
  /-- The tasks that can go on, the next one first. -/
  ready : List TaskRef := []
  /-- The tasks that wait for an instant, the earliest first. -/
  timers : List (Nat × TaskRef) := []

namespace Timeline

variable {σ : Type}

/-- Let a task stand in line, unless it does already. -/
def wake (t : TaskRef) (l : Timeline σ) : Timeline σ :=
  if t ∈ l.ready then l else { l with ready := l.ready ++ [t] }

/-- Let a task wait for an instant, behind those that wait for the same. -/
def wait (deadline : Nat) (t : TaskRef) (l : Timeline σ) : Timeline σ :=
  { l with timers :=
      l.timers.filter (·.1 ≤ deadline) ++ (deadline, t) :: l.timers.filter (deadline < ·.1) }

/-- Wake the dispatchers of the queues with a property. -/
def wakeDispatchers (p : Queue → Bool) (l : Timeline σ) : Timeline σ :=
  (l.bus.queues.zipIdx.filter (p ·.1)).foldl (fun l q => l.wake (.dispatcher q.2)) l

/-- Wake a queue's dispatcher if it stands at a given point. -/
def wakeAt (d : Dispatcher) (queue : Nat) (l : Timeline σ) : Timeline σ :=
  if (l.bus.queues[queue]?).any (·.dispatcher = d) then l.wake (.dispatcher queue) else l

/-- The delivery of a queue with a number. -/
def delivery? (queue number : Nat) (l : Timeline σ) : Option Delivery := do
  (← l.bus.queues[queue]?).delivery? number

/-- Let an action happen to a queue, if it can. -/
def act? (queue : Nat) (a : QueueAction) (l : Timeline σ) : Option (Timeline σ) :=
  (l.bus.act queue a).map fun bus => { l with bus }

/-! ### Tasks -/

/-- Let a dispatcher go on until it has to wait. -/
def runDispatcher (queue : Nat) : Nat → Timeline σ → Timeline σ
  | 0, l => l
  | fuel + 1, l =>
    match l.act? queue .stop with
    | some l => l
    | none =>
      match l.act? queue .takePermit with
      | some l => runDispatcher queue fuel l
      | none =>
        match l.act? queue .receive with
        | some l' =>
          let begun := ((l.bus.queues[queue]?).map (·.begun)).getD 0
          runDispatcher queue fuel (l'.wake (.delivery queue begun))
        | none => l

/-- Put the message of a delivery back. -/
def putBack (queue number : Nat) (l : Timeline σ) : Timeline σ :=
  match l.act? queue (.putBack number) with
  | some l => l.wakeAt .receiving queue
  | none => l

/-- Go on after the handler's call of a delivery has ended. -/
def ended (queue number : Nat) (outcome : HandlerOutcome) (l : Timeline σ) : Timeline σ :=
  match l.act? queue (.finish number outcome) with
  | none => l
  | some l =>
    let l := l.wakeAt .acquiring queue
    match l.delivery? queue number with
    | none => l
    | some d =>
      let delay := (l.bus.policy.delay (d.message.attempt + 1) 0).toNat
      if delay = 0 then l.putBack queue number
      else l.wait (l.now + delay) (.delivery queue number)

/-- Let a delivery go on until it has to wait. -/
def runDelivery (h : Handlers σ) (queue number : Nat) (l : Timeline σ) : Timeline σ :=
  match l.bus.queues[queue]? with
  | none => l
  | some q =>
    let self := TaskRef.delivery queue number
    let goOn (answer : Option HandlerOutcome × σ) (l : Timeline σ) :=
      let l := { l with state := answer.2 }
      match answer.1 with
      | none => l
      | some outcome => l.ended queue number outcome
    match (q.delivery? number).map Delivery.phase with
    | none => l
    | some .backoff => l.putBack queue number
    | some (.handling _) => goOn (h.resume q.handler self l.state) l
    | some .fresh =>
      match l.act? queue (.decode number) with
      | none => l
      | some l =>
        match (l.delivery? queue number).map Delivery.phase with
        | some (.handling r) => goOn (h.call q.handler self r l.state) l
        | _ => l.wakeAt .acquiring queue

/-- Let a task go on until it has to wait. -/
def run (h : Handlers σ) (t : TaskRef) (l : Timeline σ) : Timeline σ :=
  match t with
  | .dispatcher queue =>
    let fuel := ((l.bus.queues[queue]?).map fun q => 2 * q.waiting.length + 2).getD 0
    l.runDispatcher queue fuel
  | .delivery queue number => l.runDelivery h queue number

/-! ### Time -/

/-- A bound on how often tasks can go on, however long the time. -/
def turns (l : Timeline σ) : Nat :=
  let messages := l.bus.queues.foldl (fun n q => n + (q.waiting.length + q.deliveries.length)) 0
  4 * (messages * (l.bus.policy.maxRedeliveries.toNat + 2) + l.bus.queues.length + 1)
    + l.ready.length + l.timers.length

/-- Let the tasks go on and the time pass until an instant. -/
def runUntil (h : Handlers σ) (target : Nat) : Nat → Timeline σ → Timeline σ
  | 0, l => { l with now := target }
  | fuel + 1, l =>
    match l.ready with
    | t :: rest => runUntil h target fuel (run h t { l with ready := rest })
    | [] =>
      match l.timers with
      | (deadline, t) :: rest =>
        if deadline ≤ target then
          runUntil h target fuel
            { l with now := max l.now deadline, timers := rest, ready := [t] }
        else { l with now := target }
      | [] => { l with now := target }

/-- Let some time pass. -/
def advance (h : Handlers σ) (ms : Nat) (l : Timeline σ) : Timeline σ :=
  l.runUntil h (l.now + ms) (2 * l.turns)

/-! ### Operations of the bus -/

/-- Subscribe a handler; the dispatcher of the new queue can go on. -/
def subscribe (topic name handler : String) (l : Timeline σ) :
    Except EventError (Timeline σ) := do
  let bus ← l.bus.subscribe topic name handler
  return ({ l with bus } : Timeline σ).wake (.dispatcher l.bus.queues.length)

/-- Publish an event; the dispatchers that wait for a message can go on. -/
def publish (topic : String) (body : Bytes) (l : Timeline σ) :
    Except EventError Unit × Timeline σ :=
  let (answer, bus) := l.bus.publish topic body
  let l := { l with bus }
  (answer, l.wakeDispatchers fun q =>
    q.topic = topic ∧ q.dispatcher = .receiving ∧ q.waiting ≠ [])

/-- Fire the shutdown signal; all dispatchers can go on. -/
def shutdown (l : Timeline σ) : Timeline σ :=
  let l := { l with bus := l.bus.shutdown }
  l.wakeDispatchers fun q => q.dispatcher ≠ .stopped

/-- What the bus has measured. -/
def metrics (l : Timeline σ) : Metrics := l.bus.metrics

end Timeline

end HostWatch
