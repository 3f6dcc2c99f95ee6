import HostWatch.Json.Basic

/-!
# Failures of the event bus

Why an event could not be published, decoded or subscribed to.
-/

namespace HostWatch

/-- Why the event bus refused. -/
inductive EventError where
  /-- The body is not the written form of an event. -/
  | undecodable (fault : Json.Fault)
  /-- The topic has a queue of that name already. -/
  | duplicateQueue (topic queue : String)
  /-- The queue is no longer served. -/
  | closed
  deriving DecidableEq, Repr

/-- The text of a failure, where it is this program's own. -/
def EventError.message? : EventError → Option String
  | .undecodable _ => none
  | .duplicateQueue topic queue =>
    some ("queue '" ++ queue ++ "' is already subscribed to '" ++ topic ++ "'")
  | .closed => some "event bus is shut down"

end HostWatch
