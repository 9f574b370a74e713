import FixedReply.Server.Traffic

namespace FixedReply

open Http (Request)

/-- A client, which may be there before the one that is accepted ahead of it. -/
structure Client where
  time : Time := 0
  events : List Event := []
  sendFault : Option (Nat × Failures) := none

/-- After the last client has been accepted, accepting may fail; all may be cancelled at any time.
The clients that are there at the start are accepted before either can happen. A failure to accept
comes out of the tasks that accept inside the groups of these. -/
structure Network where
  bindFailure : Option Failures := none
  freePort : Int := 40000
  clients : List Client := []
  acceptFailure : Option (Time × Failures) := none
  cancelAt : Option Time := none
  enclose : Failures → Failures := fun what => .group [.group [what]]

structure Visit where
  sent : List (Time × Bytes)
  closed : Option Time
  deriving DecidableEq, Repr

inductive Ending
  | served
  | cancelled
  | failed (what : Failures)
  deriving Repr

structure Session where
  ending : Ending
  traffic : Traffic

namespace Client

def wire (client : Client) (accepted : Time) : Wire where
  since := accepted
  clock := accepted
  inbox := client.events.flatMap Event.receptions
  sendFault := client.sendFault

def accepted (now : Time) : List Client → List (Time × Client)
  | [] => []
  | client :: rest => (max now client.time, client) :: accepted (max now client.time) rest

end Client

namespace Network

def arrivals (network : Network) : List (Time × Client) := Client.accepted 0 network.clients

def lastArrival (network : Network) : Time := (network.arrivals.map Prod.fst).foldl max 0

/-- The failure to accept that ends serving, and when that is. It comes ahead of a cancellation if it
comes earlier; only at the start is it ahead of everything. -/
def breakdown? (network : Network) : Option (Time × Failures) :=
  (network.acceptFailure.map fun (t, what) => (max t network.lastArrival, what)).filter
    fun (t, _) => network.cancelAt.all fun c => t < c || t = 0

/-- When the wait begins that ends in a failure to accept. If accepting fails as soon as the last
clients are there, that is the wait for these. -/
def lastWait (network : Network) (failed : Time) : Time :=
  ((network.arrivals.map Prod.fst).filter (· < failed)).foldl max 0

/-- The moment at which all connections are closed, unless all go on until they are done. An interrupt
lets a call that is due be made, and a cancellation after the start leaves no time for anything. -/
def cutoff (network : Network) : Option Cutoff :=
  match network.breakdown?, network.cancelAt with
  | some (t, what), _ => some {
      moment := { time := t, since := network.lastWait t }
      grace := if what.isInterrupt then .calls else .answers }
  | none, some c => some {
      moment := { time := c, since := 0 }
      grace := if c = 0 then .answers else .nothing }
  | none, none => none

def admitted (network : Network) : List (Time × Client) :=
  network.arrivals.filter fun (t, _) => t = 0 || !network.cancelAt.any (· ≤ t)

def opening (network : Network) (workers : Nat) (terms : Terms) : Traffic where
  phases := network.admitted.map fun (t, client) =>
    .due (Connection.readTurn terms (client.wire t))
  limiter := { capacity := workers }

def visit (phase : Phase) : Visit where
  sent := phase.wire.sent
  closed := if phase.isClosed then some phase.wire.clock else none

/-- How serving ends, given where the connections stand when nothing happens any more. To be done
ahead of a cancellation takes an earlier time, and nothing left that may fail. -/
def ending (network : Network) (phases : List Phase) : Ending :=
  match network.breakdown?, network.cancelAt with
  | some (_, what), _ => .failed (network.enclose what)
  | none, none => .served
  | none, some c =>
    if 0 < c && network.acceptFailure.isNone && network.admitted.length = network.clients.length &&
        phases.all Phase.isClosed then
      .served
    else .cancelled

def serve (network : Network) (workers : Nat) (terms : Terms) (handler : Handler) : Session :=
  let traffic := (network.opening workers terms).run terms handler network.cutoff
  { ending := network.ending traffic.phases
    traffic := match network.cutoff with
      | none => traffic
      | some cutoff => traffic.close terms handler cutoff }

end Network

namespace Session

def visits (session : Session) : List Visit := session.traffic.phases.map Network.visit

def calls (session : Session) : List (Time × Request) := session.traffic.calls.reverse

def records (session : Session) : List Record := session.traffic.records.reverse

end Session

end FixedReply
