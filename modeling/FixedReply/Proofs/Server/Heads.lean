import FixedReply.Proofs.Http.Encodable
import FixedReply.Proofs.Http.HeadFaults
import FixedReply.Proofs.Server.Turns
import FixedReply.Proofs.Wire.Interim
import FixedReply.Server.Network
import FixedReply.Service

namespace FixedReply

open Http (Request Refusal Fault AuthorityFault Framing)
open Http.Head (MisaddressedHead)
open Wire (Did)

namespace Connection

def Brings (terms : Terms) (wire : Wire) (head : Bytes) (next : Wire) : Prop :=
  ∃ ready, (wire.within terms.readTimeout).skipBlankLines = (.ok (), ready) ∧
    ready.upTo Wire.blankLine terms.limits.head = (.ok (some head), next)

def Refuses (terms : Terms) (head : Bytes) (why : Refusal) : Prop :=
  ∃ data, why.AnsweredBy data ∧ ∀ wire next, Brings terms wire head next → next.sendFault = none →
    ∃ records final, readTurn terms wire = .close records final ∧ Did [.sent data] wire final

def Drops (terms : Terms) (head : Bytes) (message : String) : Prop :=
  ∀ wire next, Brings terms wire head next →
    ∃ record final, readTurn terms wire = .close [record] final ∧ Did [] wire final ∧
      record.message = "unexpected error while serving connection" ∧ record.level = .error ∧
      record.cause = some (.one (.value message))

/-- What a head is read as, and what becomes of a connection to which it comes. -/
inductive Received (terms : Terms) (head : Bytes) : Except Fault Request → Prop
  | understood {request : Request} {framing : Framing} (h : ¬ MisaddressedHead head)
      (hl : ∀ count, ¬ request.headers.Overlong count)
      (hu : Wire.understand terms.limits head = .ok (request, framing)) :
      Received terms head (.ok request)
  | unframed {request : Request} {why : Refusal} (h : ¬ MisaddressedHead head)
      (hl : ∀ count, ¬ request.headers.Overlong count) (ht : Refuses terms head why) :
      Received terms head (.ok request)
  | overlong {request : Request} {count : Nat} (h : ¬ MisaddressedHead head)
      (hl : request.headers.Overlong count) (ht : Drops terms head (Text.tooManyDigitsText count)) :
      Received terms head (.ok request)
  | refused {why : Refusal} (h : ¬ MisaddressedHead head)
      (hs : why.problem.status = 400 ∨ why.problem.status = 505) (ht : Refuses terms head why) :
      Received terms head (.error (.refused why))
  | dropped {why : AuthorityFault} (h : MisaddressedHead head) (ht : Drops terms head why.message) :
      Received terms head (.error (.badAuthority why))

variable {terms : Terms} {wire next : Wire} {head : Bytes} {why : Fault} {limits : Limits}

/-- It is a head that is taken off the wire. -/
theorem Brings.takesHead (h : Brings terms wire head next) :
    Wire.TakesHead terms.limits (wire.within terms.readTimeout) head next := h

theorem Brings.did (h : Brings terms wire head next) : Did [] wire next.unhurried := by
  have hw : Did [] wire (wire.within terms.readTimeout) := did_timed wire _ _ _
  exact (hw.then h.takesHead.onward.did).quiet (did_timed next _ _ none)

/-- A fault in a head is all that comes of the request. -/
theorem Brings.abandon (h : Brings terms wire head next)
    (hu : Wire.understand terms.limits head = .error why) :
    readTurn terms wire = Connection.abandon (.fault why) next.unhurried := by
  simp only [readTurn, Wire.readRequest, h.takesHead.readHead_error hu]

theorem drops {message : String} (hu : Wire.understand terms.limits head = .error why)
    (ha : ∀ wire, Connection.abandon (.fault why) wire =
      .close [endRecord (.one (.value message))] wire) : Drops terms head message := by
  intro wire next hb
  exact ⟨_, next.unhurried, by rw [hb.abandon hu, ha], hb.did, rfl, rfl, rfl⟩

theorem refuses {why : Refusal} (hu : Wire.understand terms.limits head = .error (.refused why)) :
    Refuses terms head why := by
  obtain ⟨data, ha⟩ := why.answered
  refine ⟨data, ha, fun wire next hb hf => ?_⟩
  have hreply : (Fault.refused why).reply = [.sent data] := by
    simp [Fault.reply, ha.encoded]
  obtain ⟨records, final, hr, hd | ⟨hm, did⟩⟩ := refuse_eq why next.unhurried
  · refine ⟨records, final, by rw [hb.abandon hu]; exact hr, ?_⟩
    rw [hreply] at hd
    exact hb.did.then hd
  · exact absurd (did.sendFault.trans hf) hm.faulty

/-- A request with a framing is understood, unless its body is too large. -/
theorem understand_of_framed {request : Request} {framing : Framing}
    (hr : Http.Head.read head = .ok request) (ho : Framing.ofHeaders request.headers = .ok framing) :
    Wire.understand limits head = .ok (request, framing) ∨
      Wire.understand limits head = .error (.refused .bodyTooLarge) := by
  simp only [Wire.understand, hr, ho]
  cases framing with
  | chunked => exact .inl rfl
  | sized length =>
    dsimp only
    split
    · exact .inr rfl
    · exact .inl rfl

/-- Every head is read or refused with a status, save that a request line with an authority that is not
let through is neither. On a connection a head that is overlong fares no better. -/
theorem head_received (terms : Terms) (head : Bytes) : Received terms head (Http.Head.read head) := by
  have hj := Http.Head.judged_read head
  cases hr : Http.Head.read head with
  | error why =>
    rw [hr] at hj
    have hu : Wire.understand terms.limits head = .error why := by
      simp only [Wire.understand, hr]
    cases hj with
    | refused h hs => exact .refused h hs (refuses hu)
    | unanswered h => exact .dropped h (drops hu fun wire => rfl)
  | ok request =>
    rw [hr] at hj
    cases hj with
    | read h =>
      have hf := Framing.measured_ofHeaders request.headers
      cases ho : Framing.ofHeaders request.headers with
      | error why =>
        rw [ho] at hf
        have hu : Wire.understand terms.limits head = .error why := by
          simp only [Wire.understand, hr, ho]
        cases hf with
        | refused hl => exact .unframed h hl (refuses hu)
        | overlong hl => exact .overlong h hl (drops hu fun wire => rfl)
      | ok framing =>
        rw [ho] at hf
        cases hf with
        | read hl =>
          rcases understand_of_framed hr ho with hu | hu
          · exact .understood h hl hu
          · exact .unframed h hl (refuses hu)

/-- An authority with a bracket that is not closed is not let through, and its client gets no answer. -/
theorem not_refused_unclosed :
    let head := Bytes.ofString "GET http://[::1 HTTP/1.1\r\nHost: a"
    let client : Client := { events := [
      { what := .data (head ++ Wire.blankLine) }, { what := .failure (.one .endOfStream) }] }
    Http.Head.read head = .error (.badAuthority .unbalancedBrackets) ∧
      (Network.serve { clients := [client] } 1 {} Service.fixedHandler).visits =
        [{ sent := [], closed := some 0 }] := by
  intro head client
  exact ⟨rfl, by decide +kernel⟩

end Connection

end FixedReply
