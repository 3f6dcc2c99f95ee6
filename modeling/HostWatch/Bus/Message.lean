import HostWatch.Report

/-!
# Messages

An event travels as a message: its written form, a number by which one publication is
told from another, and the count of attempts to handle it so far.
-/

namespace HostWatch

/-- A message as it travels through a queue. -/
structure Message where
  /-- The number of its publication. -/
  id : Nat
  /-- The written form of the event. -/
  body : Bytes
  /-- How often it has been handed out again, 0 at first. -/
  attempt : UInt32 := 0
  deriving DecidableEq, Repr

/-- The report in a message. -/
def Message.decode (m : Message) : Except Json.Fault Report :=
  Report.decode m.body

/-- The message as it is handed out again. -/
def Message.again (m : Message) : Message :=
  { m with attempt := m.attempt + 1 }

end HostWatch
