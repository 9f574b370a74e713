import FixedReply.Wire.Event

namespace FixedReply

structure Moment where
  time : Time
  since : Time
  deriving DecidableEq, Repr

/-- Of the moments at one time, the one that is waited for longest comes first. -/
def Moment.before (a b : Moment) : Bool :=
  a.time < b.time || (a.time == b.time && a.since < b.since)

/-- What is still done at the time at which all connections are closed: nothing, what takes neither a
wait nor a call, or that and the calls that are due. -/
inductive Grace
  | nothing
  | answers
  | calls
  deriving DecidableEq, Repr

structure Cutoff where
  moment : Moment
  grace : Grace
  deriving DecidableEq, Repr

end FixedReply
