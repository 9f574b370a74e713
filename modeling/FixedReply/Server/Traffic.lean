import FixedReply.Server.Connection
import FixedReply.Server.Cutoff
import FixedReply.Server.Limiter

namespace FixedReply

open Http (Request Response)

inductive Phase
  | due (turn : Turn)
  | waiting (request : Request) (wire : Wire)
  | handling (ends : Time) (request : Request) (outcome : Except Mishap Response) (wire : Wire)
  | closed (wire : Wire)

namespace Phase

def wire : Phase → Wire
  | due turn => turn.wire
  | waiting _ wire => wire
  | handling _ _ _ wire => wire
  | closed wire => wire

def moment? : Phase → Option Moment
  | due turn => some { time := turn.time, since := turn.wire.since }
  | handling ends _ _ wire => some { time := ends, since := wire.clock }
  | waiting _ _ => none
  | closed _ => none

def isHandling : Phase → Bool
  | handling _ _ _ _ => true
  | _ => false

/-- Whether a handler is at work, which one that answers at once never is while others go on. -/
def isAtWork : Phase → Bool
  | handling ends _ _ wire => wire.clock < ends
  | _ => false

def isClosed : Phase → Bool
  | closed _ => true
  | _ => false

/-- Closes a connection that is still open, whatever it is at. -/
def shut (cut : Wire → Wire) : Phase → Phase
  | closed wire => .closed wire
  | phase => .closed (cut phase.wire)

def answer (terms : Terms) (now : Time) : Phase → Phase
  | handling ends request outcome wire =>
    if ends = now then
      .due (Connection.reply terms request (Connection.responseTo outcome) (wire.later now))
    else .handling ends request outcome wire
  | phase => phase

def answerRecords (now : Time) : Phase → List Record
  | handling ends request outcome _ =>
    if ends = now then Connection.outcomeRecords request outcome else []
  | _ => []

def closeRecords (now : Time) : Phase → List Record
  | due (.close records wire) => if wire.clock = now then records else []
  | _ => []

/-- The records that a connection leaves with all that it does now without a wait or a call. -/
def lastRecords (terms : Terms) (now : Time) (phase : Phase) : List Record :=
  phase.answerRecords now ++ (phase.answer terms now).closeRecords now

/-- What bounds the steps that a connection still has before it: every request takes some of the
bytes that are unread. -/
def weight : Phase → Nat
  | due (.call _ wire) => wire.unread + 4
  | waiting _ wire => wire.unread + 3
  | handling _ _ _ wire => wire.unread + 2
  | due (.close _ _) => 1
  | closed _ => 0

/-- The connection that goes on first, and when; of several at one moment, the one that came first. -/
def earliest? : List Phase → Option (Nat × Moment)
  | [] => none
  | phase :: rest =>
    match phase.moment?, earliest? rest with
    | none, none => none
    | none, some (i, m) => some (i + 1, m)
    | some m, none => some (0, m)
    | some m, some (i, n) => if n.before m then some (i + 1, n) else some (0, m)

end Phase

/-- All connections of a server at a moment. The newest call and the newest record come first. -/
structure Traffic where
  phases : List Phase
  limiter : Limiter
  calls : List (Time × Request) := []
  records : List Record := []
  peak : Nat := 0

namespace Traffic

def weight (traffic : Traffic) : Nat := traffic.phases.foldr (·.weight + ·) 0

def setPhase (traffic : Traffic) (i : Nat) (phase : Phase) : Traffic :=
  { traffic with phases := traffic.phases.set i phase }

def log (traffic : Traffic) (records : List Record) : Traffic :=
  { traffic with records := records.reverse ++ traffic.records }

def start (handler : Handler) (now : Time) (i : Nat) (request : Request) (wire : Wire)
    (traffic : Traffic) : Traffic :=
  let answer := handler request
  let wire := (wire.resume now).note (.called request)
  { traffic.setPhase i (.handling (now + answer.delay) request answer.outcome wire) with
    calls := (now, request) :: traffic.calls
    peak := max traffic.peak (traffic.phases.countP Phase.isAtWork + 1) }

def dispatch (handler : Handler) (now : Time) (i : Nat) (request : Request) (wire : Wire)
    (traffic : Traffic) : Traffic :=
  if traffic.limiter.hasFree then
    start handler now i request wire { traffic with limiter := traffic.limiter.take }
  else { traffic.setPhase i (.waiting request wire) with limiter := traffic.limiter.enqueue i }

def wake (handler : Handler) (now : Time) (i : Nat) (traffic : Traffic) : Traffic :=
  match traffic.phases[i]? with
  | some (.waiting request wire) => start handler now i request wire traffic
  | _ => traffic

def release (handler : Handler) (now : Time) (traffic : Traffic) : Traffic :=
  match traffic.limiter.release with
  | (none, limiter) => { traffic with limiter }
  | (some next, limiter) => wake handler now next { traffic with limiter }

def finish (terms : Terms) (handler : Handler) (now : Time) (i : Nat) (request : Request)
    (outcome : Except Mishap Response) (wire : Wire) (traffic : Traffic) : Traffic :=
  let turn := Connection.reply terms request (Connection.responseTo outcome) (wire.later now)
  release handler now
    ((traffic.log (Connection.outcomeRecords request outcome)).setPhase i (.due turn))

def step (terms : Terms) (handler : Handler) (cutoff : Option Cutoff) (traffic : Traffic) :
    Option Traffic :=
  match Phase.earliest? traffic.phases with
  | none => none
  | some (i, moment) =>
    if cutoff.any (!moment.before ·.moment) then none
    else match traffic.phases[i]? with
      | some (.due (.call request wire)) =>
        some (dispatch handler moment.time i request wire traffic)
      | some (.due (.close records wire)) => some ((traffic.log records).setPhase i (.closed wire))
      | some (.handling _ request outcome wire) =>
        some (finish terms handler moment.time i request outcome wire traffic)
      | _ => none

theorem weight_set {phases : List Phase} {i : Nat} {old : Phase} (h : phases[i]? = some old)
    (phase : Phase) :
    (phases.set i phase).foldr (·.weight + ·) 0 + old.weight =
      phases.foldr (·.weight + ·) 0 + phase.weight := by
  induction phases generalizing i with
  | nil => simp at h
  | cons p rest ih =>
    cases i with
    | zero =>
      simp only [List.getElem?_cons_zero, Option.some.injEq] at h
      subst h
      simp only [List.set_cons_zero, List.foldr_cons]
      omega
    | succ i =>
      simp only [List.getElem?_cons_succ] at h
      have := ih h
      simp only [List.set_cons_succ, List.foldr_cons]
      omega

theorem weight_setPhase {traffic : Traffic} {i : Nat} {old : Phase}
    (h : traffic.phases[i]? = some old) (phase : Phase) :
    (traffic.setPhase i phase).weight + old.weight = traffic.weight + phase.weight :=
  weight_set h phase

theorem weight_wake (handler : Handler) (now : Time) (i : Nat) (traffic : Traffic) :
    (wake handler now i traffic).weight ≤ traffic.weight := by
  unfold wake
  split
  · next request wire h =>
    have := weight_setPhase h (.handling (now + (handler request).delay) request
      (handler request).outcome ((wire.resume now).note (.called request)))
    simp only [Phase.weight, Wire.unread_note, Wire.unread_resume] at this
    simp only [start, weight] at *
    omega
  · exact Nat.le_refl _

theorem weight_release (handler : Handler) (now : Time) (traffic : Traffic) :
    (release handler now traffic).weight ≤ traffic.weight := by
  unfold release
  split
  · exact Nat.le_refl _
  · exact weight_wake handler now _ _

theorem weight_due_reply (terms : Terms) (request : Request) (response : Response) (wire : Wire) :
    (Phase.due (Connection.reply terms request response wire)).weight < wire.unread + 2 := by
  cases h : Connection.reply terms request response wire with
  | call following next =>
    have := Connection.unread_reply h
    simp only [Phase.weight]
    omega
  | close records next =>
    simp only [Phase.weight]
    omega

theorem weight_step {terms : Terms} {handler : Handler} {cutoff : Option Cutoff}
    {traffic next : Traffic} (h : step terms handler cutoff traffic = some next) :
    next.weight < traffic.weight := by
  unfold step at h
  split at h
  · simp at h
  · next i moment _ =>
    split at h
    · simp at h
    · split at h
      · next request wire e =>
        simp only [Option.some.injEq] at h
        subst h
        unfold dispatch
        split
        · have := weight_setPhase e (.handling (moment.time + (handler request).delay) request
            (handler request).outcome ((wire.resume moment.time).note (.called request)))
          simp only [Phase.weight, Wire.unread_note, Wire.unread_resume] at this
          simp only [start, setPhase, weight] at *
          omega
        · have := weight_setPhase e (.waiting request wire)
          simp only [Phase.weight] at this
          simp only [setPhase, weight] at *
          omega
      · next records wire e =>
        simp only [Option.some.injEq] at h
        subst h
        have := weight_setPhase e (.closed wire)
        simp only [Phase.weight] at this
        simp only [setPhase, log, weight] at *
        omega
      · next ends request outcome wire e =>
        simp only [Option.some.injEq] at h
        subst h
        refine Nat.lt_of_le_of_lt (weight_release handler moment.time _) ?_
        have := weight_setPhase e (.due (Connection.reply terms request
          (Connection.responseTo outcome) (wire.later moment.time)))
        have light := weight_due_reply terms request (Connection.responseTo outcome)
          (wire.later moment.time)
        have heavy : (Phase.handling ends request outcome wire).weight = wire.unread + 2 := rfl
        rw [Wire.unread_later] at light
        simp only [setPhase, log, weight] at *
        omega
      · simp at h

def run (terms : Terms) (handler : Handler) (cutoff : Option Cutoff) (traffic : Traffic) : Traffic :=
  match _next : step terms handler cutoff traffic with
  | none => traffic
  | some next => run terms handler cutoff next
termination_by traffic.weight
decreasing_by exact weight_step _next

def callIfDue (handler : Handler) (now : Time) (traffic : Traffic) (i : Nat) : Traffic :=
  match traffic.phases[i]? with
  | some (.due (.call request wire)) =>
    if wire.clock = now then dispatch handler now i request wire traffic else traffic
  | _ => traffic

def callDue (handler : Handler) (now : Time) (traffic : Traffic) : Traffic :=
  (List.range traffic.phases.length).foldl (callIfDue handler now) traffic

/-- Closes all connections in one way. Every call that is in progress gives its token back, and nobody
waits for one any more. -/
def shut (close : Phase → Phase) (traffic : Traffic) : Traffic :=
  { traffic with
    phases := traffic.phases.map close
    limiter := {
      traffic.limiter with
      held := traffic.limiter.held - traffic.phases.countP Phase.isHandling
      queue := [] } }

def windUp (terms : Terms) (now : Time) (traffic : Traffic) : Traffic :=
  (traffic.log (traffic.phases.flatMap (Phase.lastRecords terms now))).shut fun phase =>
    (phase.answer terms now).shut (·.cutAfter now)

def close (terms : Terms) (handler : Handler) (cutoff : Cutoff) (traffic : Traffic) : Traffic :=
  let now := cutoff.moment.time
  match cutoff.grace with
  | .nothing => traffic.shut (Phase.shut (·.cutFrom now))
  | .answers => traffic.windUp terms now
  | .calls => (traffic.callDue handler now).windUp terms now

end Traffic

end FixedReply
