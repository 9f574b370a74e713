import FixedReply.Proofs.Http.Encodable
import FixedReply.Proofs.Server.Steps
import FixedReply.Proofs.Server.Turns
import FixedReply.Server.Network

namespace FixedReply

open Http (Request Response)
open Wire (Did)

/-- With a deadline, that the stream has ended is received. -/
theorem Wire.inbox_fill_ended {wire next : Wire} (hd : wire.deadline ≠ none)
    (h : wire.fill = (.ok false, next)) : next.inbox.length < wire.inbox.length := by
  unfold fill at h
  split at h
  · split at h
    · exact absurd ‹_› hd
    · cases h
  · rename_i event rest hi
    have hlt : rest.length < wire.inbox.length := by simp [hi]
    split at h
    · cases h
    · dsimp only at h
      split at h <;> cases h
      · exact hlt
      · exact hlt

namespace Connection

variable {terms : Terms} {request : Request} {response : Response} {wire next sent : Wire}
  {data : Bytes}

theorem refuse_ne_silent (why : Http.Refusal) (wire final : Wire) :
    refuse why wire ≠ .close [] final := by
  unfold refuse
  dsimp only
  split
  · simp
  · split <;> simp

/-- What is lost leaves a record, save that a deadline leaves a trace on the wire. -/
theorem lose_silent {loss : Loss} {final : Wire} (h : lose loss wire = .close [] final) :
    loss = .expired := by
  cases loss with
  | expired => rfl
  | cutShort => cases h
  | broken what => cases h

/-- A request that is not read leaves something behind. -/
theorem readTurn_ne_silent {final : Wire} (hd : final.dialogue = wire.dialogue) :
    readTurn terms wire ≠ .close [] final := by
  intro h
  unfold readTurn at h
  cases hr : (wire.within terms.readTimeout).readRequest terms.limits with
  | mk result next =>
    rw [hr] at h
    cases result with
    | ok request => cases h
    | error stop =>
      cases stop with
      | fault why =>
        cases why with
        | refused why => exact refuse_ne_silent why _ _ h
        | badAuthority => cases h
        | tooManyDigits => cases h
      | lost loss =>
        -- A deadline leaves no record, but the dialogue shows that it has passed.
        obtain rfl := lose_silent h
        cases h
        obtain ⟨lead, -, onward⟩ := Wire.onward_readRequest hr
        have hgone : Did (lead ++ [.gaveUp]) wire next.unhurried :=
          (did_timed wire _ _ _).then (onward.did.quiet (did_timed next _ _ none))
        have hnone : lead ++ [Act.gaveUp] = [] :=
          hgone.unique ⟨by rw [hd, List.append_nil], hgone.sendFault⟩
        simp at hnone

/-- To go on to the next request is more than to close the connection. -/
theorem nextTurn_ne_silent (terms : Terms) (wire : Wire) : nextTurn terms wire ≠ .close [] wire := by
  intro h
  unfold nextTurn at h
  split at h
  · cases hf : (wire.within terms.idleTimeout).fill with
    | mk result next =>
      have did : Did _ wire next.unhurried :=
        (did_timed wire _ _ _).then ((Wire.did_fill hf).quiet (did_timed next _ _ none))
      rw [hf] at h
      cases result with
      | ok more =>
        cases more with
        | true =>
          refine readTurn_ne_silent ?_ h
          simpa [Wire.lossTraces] using did.dialogue.symm
        | false =>
          -- Here the dialogue is as before; it is the inbox that has lost the end of the stream.
          have hlt := Wire.inbox_fill_ended (Option.some_ne_none _) hf
          have hsame : next.unhurried = wire := (Turn.close.inj h).2
          have hinbox : next.unhurried.inbox.length = wire.inbox.length := by rw [hsame]
          exact absurd hinbox (Nat.ne_of_lt hlt)
      | error loss =>
        obtain rfl := lose_silent h
        have hsame : next.unhurried = wire := (Turn.close.inj h).2
        have hd := did.dialogue
        rw [hsame] at hd
        simp [Wire.lossTraces, Loss.traces] at hd
  · exact readTurn_ne_silent rfl h

/-- A connection is closed at once after a response exactly if its request does not keep it alive. -/
theorem reply_eq_close_iff (he : answer request response = .ok data)
    (hs : wire.send data = (.ok (), sent)) :
    reply terms request response wire = .close [] sent ↔ request.keepAlive = false := by
  unfold reply
  rw [he]
  dsimp only
  rw [hs]
  cases request.keepAlive with
  | false => simp
  | true => simpa using nextTurn_ne_silent terms sent

def SaysClose (request : Request) (response : Response) : Prop :=
  (response.sentHeaders request.keepAlive request.version).find? "Connection" = some "close"

/-- The handler says that the connection is closed, and nothing else is said of it though it is kept. -/
structure Misleads (request : Request) (response : Response) : Prop where
  kept : request.keepAlive = true
  silent : request.version ≠ "HTTP/1.0"
  said : response.given? "Connection" = some "close"

theorem saysClose_iff : SaysClose request response ↔
    request.keepAlive = false ∨ Misleads request response := by
  have hm : Misleads request response ↔ request.keepAlive = true ∧ request.version ≠ "HTTP/1.0" ∧
      response.given? "Connection" = some "close" :=
    ⟨fun h => ⟨h.kept, h.silent, h.said⟩, fun h => ⟨h.1, h.2.1, h.2.2⟩⟩
  rw [hm, SaysClose, Response.find?_connection, Response.fate?]
  cases request.keepAlive <;> by_cases hv : request.version = "HTTP/1.0" <;> simp [hv]

end Connection

open Connection (answer responseTo SaysClose Misleads)

namespace Traffic

variable {terms : Terms} {handler : Handler} {cutoff : Option Cutoff} {traffic next : Traffic}
  {i : Nat} {ends : Time} {request : Request} {outcome : Except Mishap Response} {wire sent : Wire}
  {turn : Turn} {data : Bytes}

/-- When a call ends and its response is sent, the response says that the connection is closed exactly
if that is the turn which the connection takes, unless a handler says so of one that is kept. -/
theorem closes_as_said_iff (h : step terms handler cutoff traffic = some next)
    (hp : traffic.phases[i]? = some (.handling ends request outcome wire))
    (hn : next.phases[i]? = some (.due turn))
    (he : answer request (responseTo outcome) = .ok data)
    (hs : (wire.later ends).send data = (.ok (), sent)) :
    (SaysClose request (responseTo outcome) ↔ turn = .close [] sent) ↔
      ¬ Misleads request (responseTo outcome) := by
  obtain ⟨j, moment, -, -, hstep⟩ := stepped h
  obtain ⟨q, hq, hmove⟩ := hstep.advance.each i _ hp
  rw [hn] at hq
  cases hq
  rcases hmove with hsame | hmove
  · cases hsame
  · cases hmove
    rw [Connection.reply_eq_close_iff he hs, Connection.saysClose_iff]
    constructor
    · intro hiff hm
      exact absurd ((hiff.mp (.inr hm)).symm.trans hm.kept) Bool.false_ne_true
    · exact fun hm => ⟨fun hor => hor.resolve_right hm, .inl⟩

def keeping : Request where
  method := "GET"
  path := "/"
  version := "HTTP/1.0"
  headers := .ofPairs [("connection", "keep-alive")]

def parting : Response where
  headers := .ofPairs [("connection", "close")]
  body := some (Bytes.ofString "hi")
  written := Http.isWritten_ok

def atCall (request : Request) : Traffic where
  phases := [.handling 0 request (.ok parting) {}]
  limiter := { capacity := 1, held := 1 }

/-- Where the encoding speaks of the connection, it has the last word. -/
theorem closes_as_said_keeping :
    ∃ next turn data sent, step {} (Handler.always parting) none (atCall keeping) = some next ∧
      next.phases[0]? = some (.due turn) ∧
      answer keeping (responseTo (.ok parting)) = .ok data ∧
      (({} : Wire).later 0).send data = (.ok (), sent) ∧
      ((SaysClose keeping (responseTo (.ok parting)) ↔ turn = .close [] sent) ↔
        ¬ Misleads keeping (responseTo (.ok parting))) := by
  have hplain : parting.headers.Plain := by
    intro e he
    obtain rfl := List.mem_singleton.mp he
    decide
  obtain ⟨data, he⟩ := Response.encodes hplain keeping.keepAlive keeping.version false
  have h : step {} (Handler.always parting) none (atCall keeping) =
      some (finish {} (Handler.always parting) 0 0 keeping (.ok parting) {} (atCall keeping)) := rfl
  have hp : (atCall keeping).phases[0]? = some (.handling 0 keeping (.ok parting) {}) := rfl
  have hn : (finish {} (Handler.always parting) 0 0 keeping (.ok parting) {}
      (atCall keeping)).phases[0]? = some (.due (Connection.reply {} keeping parting {})) := rfl
  have hs : (({} : Wire).later 0).send data = (.ok (), ({} : Wire).note (.sent data)) := rfl
  exact ⟨_, _, data, _, h, hn, he, hs, closes_as_said_iff h hp hn he hs⟩

end Traffic

def twoRequests : Network where
  clients := [{
    events := [
      { what := .data (Bytes.ofString "GET / HTTP/1.1\r\nHost: a\r\n\r\nGET / HTTP/1.1\r\nHost: a\r\n\r\n") },
      { what := .failure (.one .endOfStream) }] }]

/-- A connection that is said to be closed after the first of two responses, and is not. -/
theorem not_closes_as_said :
    (twoRequests.serve 1 {} (Handler.always Traffic.parting)).visits = [{
      sent := [
        (0, Bytes.ofString "HTTP/1.1 200 OK\r\nConnection: close\r\nContent-Length: 2\r\n\r\nhi"),
        (0, Bytes.ofString "HTTP/1.1 200 OK\r\nConnection: close\r\nContent-Length: 2\r\n\r\nhi")]
      closed := some 0 }] := by
  decide +kernel

end FixedReply
