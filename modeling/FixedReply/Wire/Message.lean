import FixedReply.Http.Framing
import FixedReply.Http.Head
import FixedReply.Wire.Chunked

namespace FixedReply

open Http (Request Framing)

/-- The most bytes that a head, a trailer line and a body may have. A negative limit is
exceeded by all that is held against it. -/
structure Limits where
  head : Int := 65536
  body : Int := 1048576
  deriving DecidableEq, Repr

namespace Wire

def blankLine : Bytes := Bytes.crlf ++ Bytes.crlf

def leave : Bytes := Bytes.ofString "HTTP/1.1 100 Continue\r\n\r\n"

/-- The request of a head, and how its body is framed. No body is never too large. -/
def understand (limits : Limits) (head : Bytes) : Except Http.Fault (Request × Framing) :=
  match Http.Head.read head with
  | .error why => .error why
  | .ok request =>
    match Framing.ofHeaders request.headers with
    | .error why => .error why
    | .ok .chunked => .ok (request, .chunked)
    | .ok (.sized length) =>
      if 0 < length ∧ limits.body < length then .error (.refused .bodyTooLarge)
      else .ok (request, .sized length)

def readHead (limits : Limits) (wire : Wire) : Except Stop (Request × Framing) × Wire :=
  match skipBlankLines wire with
  | (.error loss, wire) => (.error (.lost loss), wire)
  | (.ok (), wire) =>
    match upTo blankLine limits.head wire with
    | (.error loss, wire) => (.error (.lost loss), wire)
    | (.ok none, wire) => (.error (.refused .headTooLarge), wire)
    | (.ok (some head), wire) =>
      match understand limits head with
      | .error why => (.error (.fault why), wire)
      | .ok understood => (.ok understood, wire)

def readBody (limits : Limits) (framing : Framing) (wire : Wire) : Except Stop Bytes × Wire :=
  match framing with
  | .chunked => wire.readChunked limits.head limits.body
  | .sized length =>
    match exactly length wire with
    | (.error loss, wire) => (.error (.lost loss), wire)
    | (.ok body, wire) => (.ok body, wire)

def giveLeave (request : Request) (wire : Wire) : Except Stop Unit × Wire :=
  if Http.expectsLeave request then
    match wire.send leave with
    | (.error what, wire) => (.error (.lost (.broken what)), wire)
    | (.ok (), wire) => (.ok (), wire)
  else (.ok (), wire)

def readRequest (limits : Limits) (wire : Wire) : Except Stop Request × Wire :=
  match readHead limits wire with
  | (.error stop, wire) => (.error stop, wire)
  | (.ok (request, framing), wire) =>
    if framing = .sized 0 then (.ok request, wire)
    else match giveLeave request wire with
      | (.error stop, wire) => (.error stop, wire)
      | (.ok (), wire) =>
        match readBody limits framing wire with
        | (.error stop, wire) => (.error stop, wire)
        | (.ok body, wire) => (.ok { request with body }, wire)

theorem unread_giveLeave (request : Request) (wire : Wire) :
    (giveLeave request wire).2.unread = wire.unread := by
  unfold giveLeave
  grind [unread_send]

theorem unread_readBody (limits : Limits) (framing : Framing) (wire : Wire) :
    (readBody limits framing wire).2.unread ≤ wire.unread := by
  unfold readBody
  grind [unread_readChunked, unread_exactly]

/-- A head that is read takes at least the blank line after it. -/
theorem unread_of_readHead {limits : Limits} {wire next : Wire} {understood : Request × Framing}
    (h : readHead limits wire = (.ok understood, next)) : 4 + next.unread ≤ wire.unread := by
  unfold readHead at h
  have skipped := unread_skipBlankLines wire
  split at h
  · simp at h
  · next wire₁ skip =>
    rw [skip] at skipped
    split at h
    · simp at h
    · simp at h
    · next head wire₂ found =>
      have := unread_of_upTo found
      simp only [blankLine, Bytes.crlf, List.length_append, List.length_cons, List.length_nil] at this
      split at h
      · simp at h
      · simp only [Prod.mk.injEq, Except.ok.injEq] at h
        obtain ⟨-, rfl⟩ := h
        simp only at skipped
        omega

/-- A request takes at least the blank line after its head. -/
theorem unread_of_readRequest {limits : Limits} {wire next : Wire} {request : Request}
    (h : readRequest limits wire = (.ok request, next)) : 4 + next.unread ≤ wire.unread := by
  unfold readRequest at h
  split at h
  · simp at h
  · next request framing wire₁ head =>
    have := unread_of_readHead head
    have := unread_giveLeave request wire₁
    grind [unread_readBody]

end Wire

end FixedReply
