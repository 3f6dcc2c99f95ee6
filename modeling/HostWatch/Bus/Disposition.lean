/-!
# Dispositions

A handler that fails says whether the message should be handed to it again.
-/

namespace HostWatch

/-- What becomes of a message whose handling failed. -/
inductive Disposition where
  /-- Hand it out again after a delay, while redeliveries are left. -/
  | redeliver
  /-- Drop it. -/
  | reject
  deriving DecidableEq, Repr

end HostWatch
