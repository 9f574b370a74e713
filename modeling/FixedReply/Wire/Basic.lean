import FixedReply.Http.Request
import FixedReply.Wire.Event

namespace FixedReply

inductive Act
  | received (data : Bytes)
  | called (request : Http.Request)
  | sent (data : Bytes)
  | gaveUp
  deriving DecidableEq, Repr

structure Usage where
  buffered : Nat := 0
  gathered : Nat := 0
  deriving DecidableEq, Repr

/-- The newest act comes first in the history. The last wait ended at the clock or earlier, and began
at `since`. -/
structure Wire where
  since : Time := 0
  clock : Time := 0
  deadline : Option Time := none
  inbox : List Event := []
  buffer : Bytes := []
  history : List (Time × Act) := []
  usage : Usage := {}
  sendFault : Option (Nat × Failures) := none

inductive Loss
  | cutShort
  | broken (what : Failures)
  | expired
  deriving Repr

namespace Loss

def failures? : Loss → Option Failures
  | cutShort => some (.one .cutShort)
  | broken what => some what
  | expired => none

end Loss

namespace Wire

def unread (wire : Wire) : Nat := wire.buffer.length + wire.inbox.foldr (·.size + ·) 0

def sent (wire : Wire) : List (Time × Bytes) :=
  wire.history.reverse.filterMap fun
    | (t, .sent data) => some (t, data)
    | _ => none

def received (wire : Wire) : List (Time × Bytes) :=
  wire.history.reverse.filterMap fun
    | (t, .received data) => some (t, data)
    | _ => none

def called (wire : Wire) : List (Time × Http.Request) :=
  wire.history.reverse.filterMap fun
    | (t, .called request) => some (t, request)
    | _ => none

def note (wire : Wire) (act : Act) : Wire := { wire with history := (wire.clock, act) :: wire.history }

def within (wire : Wire) (time : Time) : Wire := { wire with deadline := some (wire.clock + time) }

def unhurried (wire : Wire) : Wire := { wire with deadline := none }

def later (wire : Wire) (now : Time) : Wire := { wire with since := wire.clock, clock := now }

def waitFor (wire : Wire) (moment : Time) : Wire :=
  if wire.clock < moment then wire.later moment else wire

def resume (wire : Wire) (now : Time) : Wire := { wire with since := now, clock := now }

def cutAfter (wire : Wire) (now : Time) : Wire :=
  { wire with clock := now, history := wire.history.filter (·.1 ≤ now) }

/-- The wire at a moment from which on nothing is done with it any more. -/
def cutFrom (wire : Wire) (now : Time) : Wire :=
  { wire with clock := now, history := wire.history.filter (·.1 < now) }

def keep (wire : Wire) (kept : Bytes) : Wire := { wire with buffer := kept }

def accept (wire : Wire) (data : Bytes) : Wire :=
  let buffer := wire.buffer ++ data
  { wire.note (.received data) with
    buffer
    usage := { wire.usage with buffered := max wire.usage.buffered buffer.length } }

/-- The deadline that a wait up to a moment meets. What is there already takes no wait, so that no
deadline holds it up. -/
def meetsDeadline (wire : Wire) (moment : Time) : Option Time :=
  if wire.clock < moment then wire.deadline.filter (· ≤ moment) else none

def giveUp (wire : Wire) (deadline : Time) : Wire := (wire.waitFor deadline).note .gaveUp

/-- Receives once. `false` says that the stream has ended, which an empty reception says too. Once
the peer has nothing more to come, a wait with a deadline lasts until then, and one without finds the
stream ended. -/
def fill (wire : Wire) : Except Loss Bool × Wire :=
  match wire.inbox with
  | [] =>
    match wire.deadline with
    | none => (.ok false, wire)
    | some deadline => (.error .expired, wire.giveUp deadline)
  | event :: rest =>
    match wire.meetsDeadline event.due with
    | some deadline => (.error .expired, wire.giveUp deadline)
    | none =>
      let wire := { wire.waitFor event.due with inbox := rest }
      match event.what with
      | .data [] => (.ok false, wire)
      | .data (b :: bytes) => (.ok true, wire.accept (b :: bytes))
      | .failure (.one .endOfStream) => (.ok false, wire)
      | .failure what => (.error (.broken what), wire)

def send (wire : Wire) (data : Bytes) : Except Failures Unit × Wire :=
  match wire.sendFault with
  | some (allowed, what) =>
    if allowed ≤ wire.sent.length then (.error what, wire)
    else (.ok (), wire.note (.sent data))
  | none => (.ok (), wire.note (.sent data))

@[simp] theorem unread_note (wire : Wire) (act : Act) : (wire.note act).unread = wire.unread := rfl

@[simp] theorem unread_within (wire : Wire) (time : Time) : (wire.within time).unread = wire.unread :=
  rfl

@[simp] theorem unread_later (wire : Wire) (now : Time) : (wire.later now).unread = wire.unread := rfl

@[simp] theorem unread_resume (wire : Wire) (now : Time) : (wire.resume now).unread = wire.unread :=
  rfl

@[simp] theorem buffer_waitFor (wire : Wire) (moment : Time) :
    (wire.waitFor moment).buffer = wire.buffer := by
  unfold waitFor
  split <;> rfl

@[simp] theorem inbox_waitFor (wire : Wire) (moment : Time) :
    (wire.waitFor moment).inbox = wire.inbox := by
  unfold waitFor
  split <;> rfl

@[simp] theorem unread_waitFor (wire : Wire) (moment : Time) :
    (wire.waitFor moment).unread = wire.unread := by
  simp [unread]

@[simp] theorem unread_giveUp (wire : Wire) (deadline : Time) :
    (wire.giveUp deadline).unread = wire.unread := by
  simp [giveUp]

@[simp] theorem unread_unhurried (wire : Wire) : wire.unhurried.unread = wire.unread := rfl

theorem unread_keep (wire : Wire) (kept : Bytes) :
    (wire.keep kept).unread + wire.buffer.length = wire.unread + kept.length := by
  simp only [keep, unread]
  omega

theorem unread_fill (wire : Wire) : (fill wire).2.unread = wire.unread := by
  unfold fill
  split
  · split <;> simp
  · next event rest inbox =>
    split
    · simp
    · split <;> simp_all [unread, Event.size, accept, note, Nat.add_assoc]

theorem inbox_fill {wire next : Wire} (h : fill wire = (.ok true, next)) :
    next.inbox.length < wire.inbox.length := by
  unfold fill at h
  split at h
  · split at h <;> simp at h
  · next event rest inbox =>
    split at h
    · simp at h
    · split at h <;> simp_all
      subst h
      simp [accept, note]

theorem unread_send (wire : Wire) (data : Bytes) : (send wire data).2.unread = wire.unread := by
  unfold send
  split
  · split <;> rfl
  · rfl

end Wire

end FixedReply
