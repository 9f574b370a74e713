import FixedReply.Proofs.Server.Answers
import FixedReply.Proofs.Wire.Client

namespace FixedReply

open Http (Request Response Refusal)
open Connection (responseTo answer)

def Http.Request.asGet (request : Request) : Request := { request with method := "GET" }

def MeasuredAsGet (handler : Handler) (request : Request) : Prop :=
  ((responseTo (handler request).outcome).sentHeaders request.keepAlive request.version).find?
    "Content-Length" = some (toString (responseTo (handler request.asGet).outcome).payload.length)

/-- What is answered to HEAD ends with the blank line behind its fields, and states the length that the
handler declares, or else that of the body. The body is all that GET adds where the handler does not tell
the two apart. -/
structure HeadAnswer (handler : Handler) (request : Request) (data : Bytes) : Prop where
  bodiless : data = Bytes.ofText ((responseTo (handler request).outcome).lines request.keepAlive
    request.version) ++ Wire.blankLine
  stated : ((responseTo (handler request).outcome).sentHeaders request.keepAlive request.version).find?
    "Content-Length" = some (responseTo (handler request).outcome).statedLength
  asGet : (handler request.asGet).outcome = (handler request).outcome →
    answer request.asGet (responseTo (handler request.asGet).outcome) =
      .ok (data ++ (responseTo (handler request.asGet).outcome).payload)
  measured : (handler request.asGet).outcome = (handler request).outcome →
    (responseTo (handler request).outcome).Unsized → MeasuredAsGet handler request

/-- Why this is sent, between what is done before it and after: it answers the call just before it, or else
it gives leave to send a body, or it is the last thing that is done, for a request that is refused. -/
inductive Prompted (handler : Handler) : List Act → Bytes → List Act → Prop
  | call {before after : List Act} {request : Request} {data : Bytes}
      (ha : answer request (responseTo (handler request).outcome) = .ok data) :
      Prompted handler (before ++ [.called request]) data after
  | leave {before after : List Act} (hn : ∀ request, before.getLast? ≠ some (.called request)) :
      Prompted handler before Wire.leave after
  | refusal {before : List Act} {why : Refusal} {data : Bytes} (ha : why.AnsweredBy data)
      (hn : ∀ request, before.getLast? ≠ some (.called request)) : Prompted handler before data []

variable {limits : Limits} {handler : Handler} {fault : Option (Nat × Failures)} {bytes data : Bytes}
  {count : Nat} {lead tail before after more : List Act} {request : Request}

/-- The answer to HEAD is that to GET without its body. -/
theorem headAnswer_of_answer (hm : request.method = "HEAD")
    (ha : answer request (responseTo (handler request).outcome) = .ok data) :
    HeadAnswer handler request data := by
  generalize hr : responseTo (handler request).outcome = response at ha
  rw [answer, hm] at ha
  obtain ⟨hwritten, hd⟩ := Response.encode_eq_ok_iff.mp ha
  have hdata : data = Bytes.ofText (response.headText request.keepAlive request.version) :=
    hd.trans (List.append_nil _)
  refine ⟨?_, Response.find?_length _ _ _, fun hsame => ?_, fun hsame hu => ?_⟩
  · rw [hr, hdata, Response.headText_eq, Bytes.ofText, List.map_append]
    rfl
  · rw [hsame, hr, hdata]
    exact Response.encode_eq_ok_iff.mpr ⟨hwritten, rfl⟩
  · rw [MeasuredAsGet, hsame]
    exact hu.find?_length _ _

/-- What is sent for a call is its answer. -/
theorem Prompted.answers (h : Prompted handler before data after)
    (hl : before.getLast? = some (.called request)) :
    answer request (responseTo (handler request).outcome) = .ok data := by
  cases h with
  | call ha =>
    rw [List.getLast?_concat] at hl
    cases hl
    exact ha
  | leave hn | refusal _ hn => exact absurd hl (hn request)

/-- Whatever has been done up to another sending makes no difference. -/
theorem Prompted.later (h : Prompted handler before data after) (earlier : List Act) (other : Bytes) :
    Prompted handler (earlier ++ .sent other :: before) data after := by
  have hlast : (∀ request, before.getLast? ≠ some (.called request)) →
      ∀ request, (earlier ++ .sent other :: before).getLast? ≠ some (.called request) := by
    intro hn request
    rw [List.getLast?_append_cons, List.getLast?_cons]
    cases hl : before.getLast? with
    | none => simp
    | some act => simpa [hl] using hn request
  cases h with
  | @call before _ request _ ha =>
    rw [← List.cons_append, ← List.append_assoc]
    exact .call ha
  | leave hn => exact .leave (hlast hn)
  | refusal ha hn => exact .refusal ha (hlast hn)

/-- What is broken off has begun in the same way. -/
theorem Prompted.cut (h : Prompted handler before data (after ++ more)) :
    Prompted handler before data after := by
  generalize hall : after ++ more = all at h
  cases h with
  | call ha => exact .call ha
  | leave hn => exact .leave hn
  | refusal ha hn =>
    rw [(List.append_eq_nil_iff.mp hall).1]
    exact .refusal ha hn

/-- Ahead of a call or a refusal there is nothing but the leave to send a body. -/
theorem Lead.split_sent (hl : Lead lead) (he : lead ++ tail = before ++ .sent data :: after) :
    before = [] ∧ data = Wire.leave ∨ ∃ between, before = lead ++ between ∧
      tail = between ++ .sent data :: after := by
  rcases List.append_eq_append_iff.mp he with ⟨between, rfl, ht⟩ | ⟨between, hb, ht⟩
  · exact .inr ⟨between, rfl, ht⟩
  · cases between with
    | nil => exact .inr ⟨[], by simpa using hb.symm, by simpa using ht.symm⟩
    | cons e between =>
      cases ht
      rcases hl with rfl | rfl
      · simp at hb
      · cases before with
        | nil => exact .inl ⟨rfl, Act.sent.inj (List.cons.inj hb).1.symm⟩
        | cons => simp at hb

theorem Lead.prompted (hl : Lead lead) (he : lead = before ++ .sent data :: after) :
    Prompted handler before data after := by
  rcases hl.split_sent ((List.append_nil lead).trans he) with ⟨rfl, rfl⟩ | ⟨between, -, ht⟩
  · exact .leave nofun
  · simp at ht

theorem Lead.not_call (hl : Lead lead) (request : Request) : lead.getLast? ≠ some (.called request) := by
  rcases hl with rfl | rfl <;> simp

/-- On a connection that is quitted no call is answered any more. -/
theorem Quits.prompted {left : Bytes} {acts : List Act} (h : Quits limits left acts)
    (he : acts = before ++ .sent data :: after) : Prompted handler before data after := by
  cases h with
  | ends hl => exact hl.prompted he
  | gaveUp hl =>
    rcases hl.split_sent he with ⟨rfl, rfl⟩ | ⟨between, -, ht⟩
    · exact .leave nofun
    · cases between <;> simp at ht
  | @refused said why _ hl _ ha =>
    rcases hl.split_sent he with ⟨rfl, rfl⟩ | ⟨between, rfl, ht⟩
    · exact .leave nofun
    · cases between with
      | nil =>
        cases ht
        rw [List.append_nil]
        exact .refusal ha hl.not_call
      | cons => simp at ht

/-- Where requests are attended to, whatever is sent has its reason. -/
theorem Attended.prompted {dated : List (Time × Act)}
    (h : Attended limits handler fault bytes count dated)
    (he : dated.map Prod.snd = before ++ .sent data :: after) : Prompted handler before data after := by
  induction h generalizing before with
  | quits h => exact h.prompted he
  | unsent hl | unwritten hl =>
    rw [List.map_append] at he
    rcases hl.split_sent he with ⟨rfl, rfl⟩ | ⟨between, -, ht⟩
    · exact .leave nofun
    · cases between <;> simp at ht
  | @answered _ _ _ _ _ _ _ _ hl _ ha _ ih =>
    rw [List.map_append] at he
    rcases hl.split_sent he with ⟨rfl, rfl⟩ | ⟨between, rfl, ht⟩
    · exact .leave nofun
    · -- The call comes first, then its answer, and what is sent after that has its reason there.
      match between, ht with
      | [_], ht =>
        cases ht
        exact .call ha
      | _ :: _ :: between, ht =>
        simp only [List.map_cons, List.cons_append, List.cons.injEq] at ht
        obtain ⟨rfl, rfl, ht⟩ := ht
        rw [← List.singleton_append, ← List.append_assoc]
        exact (ih ht).later _ _

namespace Network

variable {network : Network} {workers : Nat} {accepted : Time} {client : Client} {i : Nat}

/-- Whatever clients send and whatever handlers come to, all that is sent to a client has its reason, and
what is sent for a call of HEAD is the head of the response alone. -/
theorem heads_serve (network : Network) (hw : 0 < workers) (terms : Terms) (handler : Handler)
    (hi : network.admitted[i]? = some (accepted, client)) :
    ∃ wire, (network.serve workers terms handler).traffic.phases[i]? = some (.closed wire) ∧
      ∀ {before : List Act} {data : Bytes} {after : List Act},
        wire.dialogue = before ++ .sent data :: after →
          Prompted handler before data after ∧
            ∀ request, before.getLast? = some (.called request) → request.method = "HEAD" →
              HeadAnswer handler request data := by
  obtain ⟨wire, more, hp, hattended, -⟩ := network.attended_serve hw terms handler hi
  refine ⟨wire, hp, fun {before data after} hd => ?_⟩
  have hall : (wire.chronicle ++ more).map Prod.snd =
      before ++ .sent data :: (after ++ more.map Prod.snd) := by
    rw [List.map_append, Wire.map_chronicle, hd, List.append_assoc, List.cons_append]
  have hprompted := (hattended.prompted hall).cut
  exact ⟨hprompted, fun request hl hm => headAnswer_of_answer hm (hprompted.answers hl)⟩

def frail : Handler := fun request =>
  { delay := 1
    outcome :=
      if request.path == "/x" then .error (.runtime "boom")
      else .ok Service.fixedResponse }

def asked (path : String) : Request where
  method := "HEAD"
  path := path
  version := "HTTP/1.1"
  headers := .ofPairs [("host", "a")]

def twice : Client where
  events := [
    { what := .data (Bytes.ofString ("HEAD / HTTP/1.1\r\nHost: a\r\n\r\n" ++
        "HEAD /x HTTP/1.1\r\nHost: a\r\n\r\n")) },
    { what := .failure (.one .endOfStream) }]

/-- Both answers are heads, with the lengths of the bodies that GET is answered with. -/
theorem heads_serve_frail :
    let network : Network := { clients := [twice] }
    let first := Bytes.ofString ("HTTP/1.1 200 OK\r\nServer: Python\r\nContent-Type: text/plain\r\n" ++
      "Content-Length: 12\r\n\r\n")
    let second := Bytes.ofString ("HTTP/1.1 500 Internal Server Error\r\n" ++
      "Content-Type: text/plain; charset=utf-8\r\nContent-Length: 26\r\n\r\n")
    0 < 1 ∧ network.admitted[0]? = some (0, twice) ∧
      ∃ wire, (network.serve 1 {} frail).traffic.phases[0]? = some (.closed wire) ∧
        wire.dialogue = [.called (asked "/"), .sent first, .called (asked "/x"), .sent second] ∧
        HeadAnswer frail (asked "/") first ∧ HeadAnswer frail (asked "/x") second := by
  intro network first second
  have hi : network.admitted[0]? = some (0, twice) := rfl
  obtain ⟨wire, hp, hall⟩ := network.heads_serve (by decide : 0 < 1) {} frail hi
  have hdialogues : (network.serve 1 {} frail).traffic.phases.map (·.wire.dialogue) =
      [[.called (asked "/"), .sent first, .called (asked "/x"), .sent second]] := by
    decide +kernel
  have hd : wire.dialogue = [.called (asked "/"), .sent first, .called (asked "/x"), .sent second] := by
    have hfirst := congrArg (·[0]?) hdialogues
    rw [List.getElem?_map, hp] at hfirst
    exact Option.some.inj hfirst
  exact ⟨by decide, hi, wire, hp, hd, (@hall [.called (asked "/")] _ _ hd).2 _ rfl rfl,
    (@hall [.called (asked "/"), .sent first, .called (asked "/x")] _ _ hd).2 _ rfl rfl⟩

end Network

def hostless : Network where
  clients := [{
    events := [
      { what := .data (Bytes.ofString "HEAD / HTTP/1.1\r\nHost: a\r\n\r\nHEAD / HTTP/1.1\r\n\r\n") },
      { what := .failure (.one .endOfStream) }] }]

def miscounted : Response where
  headers := .ofPairs [("content-length", "5")]
  body := some (Bytes.ofString "hi")
  written := Http.isWritten_ok

/-- The length that a handler declares stands, whatever GET is answered with; and an answer to HEAD may end
with something other than a blank line. -/
theorem not_measuredAsGet_miscounted :
    let handler := Handler.always miscounted
    ∃ first second, (hostless.serve 1 {} handler).traffic.phases.map (·.wire.dialogue) =
        [[.called (Network.asked "/"), .sent first, .sent second]] ∧
      ¬ MeasuredAsGet handler (Network.asked "/") ∧
      (Http.Head.readRequestLine "HEAD / HTTP/1.1".toList).toOption.map (·.method) = some "HEAD" ∧
      ¬ Wire.blankLine <:+ second := by
  intro handler
  refine ⟨Bytes.ofString "HTTP/1.1 200 OK\r\nContent-Length: 5\r\n\r\n",
    Bytes.ofString ("HTTP/1.1 400 Bad Request\r\nContent-Type: text/plain; charset=utf-8\r\n" ++
      "Content-Length: 45\r\nConnection: close\r\n\r\n400 Bad Request: missing required Host header"),
    by decide +kernel, ?_, by decide +kernel, by decide +kernel⟩
  rw [MeasuredAsGet]
  decide +kernel

end FixedReply
