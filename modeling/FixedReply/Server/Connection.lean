import FixedReply.Log
import FixedReply.Server.Handler
import FixedReply.Wire.Message

namespace FixedReply

open Http (Request Response)

structure Terms where
  readTimeout : Time := 120 * ticksPerSecond
  idleTimeout : Time := 120 * ticksPerSecond
  limits : Limits := {}
  deriving DecidableEq, Repr

/-- What a connection does at the clock of its wire: it calls the handler, or it is closed and leaves
records. -/
inductive Turn
  | call (request : Request) (wire : Wire)
  | close (records : List Record) (wire : Wire)

namespace Turn

def wire : Turn → Wire
  | call _ wire => wire
  | close _ wire => wire

def time (turn : Turn) : Time := turn.wire.clock

end Turn

namespace Connection

def logSource : String := "hellobench.http.server"

/-- The record of a failure that ends a connection. That a peer has gone is expected. -/
def endRecord (what : Failures) : Record :=
  let unexpected : Record := {
    level := .error, source := logSource
    message := "unexpected error while serving connection", cause := some what }
  match what with
  | .one f =>
    if f.isLoss then
      { level := .debug, source := logSource, message := "connection dropped: " ++ f.literal }
    else unexpected
  | .group _ => unexpected

def fail (what : Failures) (wire : Wire) : Turn := .close [endRecord what] wire

def lose (loss : Loss) (wire : Wire) : Turn :=
  .close ((loss.failures?.map endRecord).toList) wire

def refuse (why : Http.Refusal) (wire : Wire) : Turn :=
  let record : Record := {
    level := .debug, source := logSource, message := "rejecting request: " ++ why.problem.text }
  match why.problem.response.encode false with
  | .error what => .close [record, endRecord (.one (.unencodable what))] wire
  | .ok bytes =>
    match wire.send bytes with
    | (.error what, wire) => .close [record, endRecord what] wire
    | (.ok (), wire) => .close [record] wire

def abandon (stop : Stop) (wire : Wire) : Turn :=
  match stop with
  | .fault (.refused why) => refuse why wire
  | .fault why => fail (.one why.failure) wire
  | .lost loss => lose loss wire

def readTurn (terms : Terms) (wire : Wire) : Turn :=
  match (wire.within terms.readTimeout).readRequest terms.limits with
  | (.ok request, wire) => .call request wire.unhurried
  | (.error stop, wire) => abandon stop wire.unhurried

/-- Goes on to the next request. When nothing of it has come yet, it must begin to within the time
that a connection may be idle. -/
def nextTurn (terms : Terms) (wire : Wire) : Turn :=
  if wire.buffer.isEmpty then
    match (wire.within terms.idleTimeout).fill with
    | (.ok true, wire) => readTurn terms wire.unhurried
    | (.ok false, wire) => .close [] wire.unhurried
    | (.error loss, wire) => lose loss wire.unhurried
  else readTurn terms wire

def internalError : Response := Response.text "500 Internal Server Error\n" 500

def responseTo : Except Mishap Response → Response
  | .ok response => response
  | .error _ => internalError

def outcomeRecords (request : Request) : Except Mishap Response → List Record
  | .ok _ => []
  | .error what => [{
      level := .error, source := logSource
      message := s!"handler error for {request.method} {request.path}"
      cause := some what.failures }]

def answer (request : Request) (response : Response) : Except Text.Unencodable Bytes :=
  response.encode request.keepAlive request.version (request.method == "HEAD")

def reply (terms : Terms) (request : Request) (response : Response) (wire : Wire) : Turn :=
  match answer request response with
  | .error what => fail (.one (.unencodable what)) wire
  | .ok bytes =>
    match wire.send bytes with
    | (.error what, wire) => fail what wire
    | (.ok (), wire) => if request.keepAlive then nextTurn terms wire else .close [] wire

theorem refuse_ne_call (why : Http.Refusal) (wire : Wire) (request : Request) (next : Wire) :
    refuse why wire ≠ .call request next := by
  unfold refuse
  simp only
  split
  · simp
  · split <;> simp

theorem abandon_ne_call (stop : Stop) (wire : Wire) (request : Request) (next : Wire) :
    abandon stop wire ≠ .call request next := by
  unfold abandon
  split
  · exact refuse_ne_call _ _ _ _
  · simp [fail]
  · simp [lose]

theorem unread_readTurn {terms : Terms} {wire next : Wire} {request : Request}
    (h : readTurn terms wire = .call request next) : 4 + next.unread ≤ wire.unread := by
  unfold readTurn at h
  split at h
  · next read =>
    have := Wire.unread_of_readRequest read
    cases h
    exact this
  · exact absurd h (abandon_ne_call _ _ _ _)

theorem unread_nextTurn {terms : Terms} {wire next : Wire} {request : Request}
    (h : nextTurn terms wire = .call request next) : 4 + next.unread ≤ wire.unread := by
  unfold nextTurn at h
  split at h
  · have filled := Wire.unread_fill (wire.within terms.idleTimeout)
    split at h
    · next wire₁ e =>
      rw [e] at filled
      have := unread_readTurn h
      simp only [Wire.unread_unhurried, Wire.unread_within] at *
      omega
    · simp at h
    · simp [lose] at h
  · exact unread_readTurn h

/-- The next request is read from what the last one has left. -/
theorem unread_reply {terms : Terms} {wire next : Wire} {request following : Request}
    {response : Response} (h : reply terms request response wire = .call following next) :
    4 + next.unread ≤ wire.unread := by
  unfold reply at h
  split at h
  · simp [fail] at h
  · next bytes _ =>
    have sent := Wire.unread_send wire bytes
    split at h
    · simp [fail] at h
    · next wire₁ e =>
      rw [e] at sent
      split at h
      · have := unread_nextTurn h
        simp only at sent
        omega
      · simp at h

end Connection

end FixedReply
