import FixedReply.Proofs.Http.Paths
import FixedReply.Proofs.Server.Conversation

namespace FixedReply

open Http (Request Response Routes)
open Wire (Supply Did)
open Connection (answer responseTo)

def exchanges : List Act → List (Request × Bytes)
  | .called request :: .sent data :: rest => (request, data) :: exchanges rest
  | _ :: rest => exchanges rest
  | [] => []

theorem exchanges_lead {said : List Act} (h : Lead said) (acts : List Act) :
    exchanges (said ++ acts) = exchanges acts := by
  rcases h with rfl | rfl <;> rfl

section

variable {supply : Supply} {limits : Limits} {handler : Handler} {bytes : Bytes} {wire final : Wire}

/-- In the course of a connection every response is the answer to the call that it follows. -/
theorem Course.exchanges (course : Course supply limits handler bytes wire final)
    (hk : ¬ supply.lacks) :
    ∃ acts, Did acts wire final ∧ ∀ e ∈ FixedReply.exchanges acts,
      answer e.1 (responseTo (handler e.1).outcome) = .ok e.2 := by
  have hnone : ∀ {said rest : List Act}, Lead said → FixedReply.exchanges rest = [] →
      ∀ e ∈ FixedReply.exchanges (said ++ rest),
        answer e.1 (responseTo (handler e.1).outcome) = .ok e.2 := by
    intro said rest hl hr e he
    rw [exchanges_lead hl, hr] at he
    cases he
  have hsilent : ∀ {said : List Act}, Lead said → ∀ e ∈ FixedReply.exchanges said,
      answer e.1 (responseTo (handler e.1).outcome) = .ok e.2 := by
    intro said hl
    rw [← List.append_nil said]
    exact hnone hl rfl
  have hreply : ∀ fault : Http.Fault, FixedReply.exchanges fault.reply = [] := by
    intro fault
    rcases fault.reply_cases with h | ⟨data, h⟩ <;> rw [h] <;> rfl
  induction course with
  | closes how =>
    cases how with
    | lost _ hl did => exact ⟨_, did, hsilent hl⟩
    | stopped _ hl did => exact ⟨_, did, hnone hl (hreply _)⟩
    | strayed _ _ _ hl did => exact ⟨_, did, hnone hl (hreply _)⟩
    | unsent _ _ hl did => exact ⟨_, did, hsilent hl⟩
    | expired _ hl did => exact ⟨_, did, hnone hl rfl⟩
  | lacks h => exact absurd h hk
  | unanswered _ hl _ did => exact ⟨_, did, hnone hl rfl⟩
  | @last _ _ data _ _ _ request _ hl he _ did =>
    refine ⟨_, did, fun e hm => ?_⟩
    rw [exchanges_lead hl] at hm
    obtain rfl : e = (request, data) := List.mem_singleton.mp hm
    exact he
  | @on _ _ data _ _ _ _ request _ hl he _ did _ ih =>
    obtain ⟨acts, hd, hall⟩ := ih
    refine ⟨_, did.trans hd, fun e hm => ?_⟩
    rw [List.append_assoc, exchanges_lead hl] at hm
    rcases List.mem_cons.mp hm with rfl | hm
    · exact he
    · exact hall e hm

/-- What a server that is not stopped sends after a call is the answer of its handler. -/
theorem Network.Unstopped.exchanges {network : Network} (h : network.Unstopped) {workers : Nat}
    (hw : 0 < workers) (terms : Terms) (handler : Handler) {i : Nat} {client : Client}
    (hi : network.clients[i]? = some client) :
    ∃ final, (network.serve workers terms handler).traffic.phases[i]? = some (.closed final) ∧
      ∀ e ∈ FixedReply.exchanges final.dialogue,
        answer e.1 (responseTo (handler e.1).outcome) = .ok e.2 := by
  obtain ⟨accepted, final, hf, life⟩ := h.life hw terms handler hi
  have has : Wire.whole.Has (client.wire accepted) (client.wire accepted).ahead := rfl
  obtain ⟨acts, did, hall⟩ := (life.course_readTurn has).exchanges id
  have hnone : (client.wire accepted).dialogue = [] := rfl
  refine ⟨final, hf, ?_⟩
  rw [did.dialogue, hnone, List.nil_append]
  exact hall

end

namespace Service

variable {request : Request} {block : Bytes}

def fixedServer : Handler := Handler.ofRoutes fixedRoutes

def replyTo (request : Request) : Except Text.Unencodable Bytes :=
  answer request (responseTo (fixedServer request).outcome)

theorem find?_fixedRoutes (path : String) :
    fixedRoutes.find? path = if Routes.isRooted path then some fixedHandler else none := by
  unfold Routes.find? Routes.isRooted fixedRoutes
  simp only [List.lookup_nil, List.find?_cons, List.find?_nil]
  cases path.toList with
  | nil => rfl
  | cons c rest =>
    by_cases hc : c = '/'
    · simp [hc]
    · have hne : ('/' == c) = false := beq_false_of_ne (Ne.symm hc)
      simp [hc, hne, List.isPrefixOf]

/-- The fixed response goes to the paths from the root. -/
theorem replyTo_eq (request : Request) :
    replyTo request = answer request
      (if Routes.isRooted request.path then fixedResponse else Http.pageNotFound) := by
  unfold replyTo fixedServer Handler.ofRoutes
  rw [find?_fixedRoutes]
  split <;> rfl

/-- The start line of a response is what its bytes begin with. -/
theorem startLine_prefix {response : Response} (h : response.headers.Plain) (request : Request) :
    ∃ more, answer request response = .ok (Bytes.ofText
      s!"HTTP/1.1 {response.status} {Http.statusText response.status}\r\n".toList ++ more) := by
  unfold answer
  rw [Response.encode_eq h, Response.headText, List.append_assoc, Bytes.ofText, List.map_append,
    List.append_assoc]
  exact ⟨_, rfl⟩

/-- The start lines tell the fixed response from the one where there is none. -/
theorem fixed_ne_notFound (request other : Request) :
    answer request fixedResponse ≠ answer other Http.pageNotFound := by
  have hfixed : fixedResponse.headers.Plain :=
    (by decide : ∀ e ∈ fixedResponse.headers.entries, Below 128 e.1.toList ∧ Below 256 e.2.toList)
  have hlost : Http.pageNotFound.headers.Plain := Response.plain_text _ _ _
  obtain ⟨more, ho⟩ := startLine_prefix hfixed request
  obtain ⟨more', hn⟩ := startLine_prefix hlost other
  rw [ho, hn]
  intro he
  have hstatus := congrArg (·[9]?) (Except.ok.inj he)
  rw [List.getElem?_append_left (by decide), List.getElem?_append_left (by decide)] at hstatus
  exact absurd hstatus (by decide)

/-- Only what says how a response is to be sent tells the answers to two requests apart. -/
theorem answer_congr {request other : Request} (hk : other.keepAlive = request.keepAlive)
    (hv : other.version = request.version) (hm : other.method = "HEAD" ↔ request.method = "HEAD")
    (response : Response) : answer other response = answer request response := by
  have hhead : (other.method == "HEAD") = (request.method == "HEAD") := by
    rw [Bool.eq_iff_iff, beq_iff_eq, beq_iff_eq, hm]
  unfold answer
  rw [hk, hv, hhead]

/-- A request that is read takes the route unless it is for the star. -/
theorem replyTo_of_read (h : Http.Head.read block = .ok request) (body : Bytes) :
    replyTo { request with body } =
      answer request (if request.path = "*" then Http.pageNotFound else fixedResponse) := by
  rw [replyTo_eq]
  by_cases hs : request.path = "*"
  · have hr : Routes.isRooted request.path = false := by rw [hs]; rfl
    rw [if_pos hs, if_neg (by simp [hr])]
    rfl
  · rw [if_neg hs, if_pos ((Http.Head.path_of_read h).resolve_right hs)]
    rfl

/-- What a server of one route does with a request: it sends the fixed response unless the request is
for the star, and makes no difference but for the star among requests that are answered in one way. -/
structure RepliesFixed (asked : Request) : Prop where
  fixed : replyTo asked =
      fixedResponse.encode asked.keepAlive asked.version (asked.method == "HEAD") ↔ asked.path ≠ "*"
  alike : ∀ {block other} (body : Bytes), Http.Head.read block = .ok other →
    other.keepAlive = asked.keepAlive → other.version = asked.version →
    (other.method = "HEAD" ↔ asked.method = "HEAD") →
      (replyTo { other with body } = replyTo asked ↔ (other.path = "*" ↔ asked.path = "*"))
  served : ∀ {network : Network} {workers i : Nat} {client} (terms : Terms), network.Unstopped →
    0 < workers →
    network.clients[i]? = some client →
      ∃ final : Wire,
        (network.serve workers terms fixedServer).traffic.phases[i]? = some (Phase.closed final) ∧
        ∀ data, (asked, data) ∈ exchanges final.dialogue → replyTo asked = .ok data

/-- Whatever request is read and whatever body it has, the server of one route makes no difference but
for the star. -/
theorem replies_fixed (h : Http.Head.read block = .ok request) (body : Bytes) :
    RepliesFixed { request with body } where
  fixed := by
    rw [replyTo_of_read h]
    split
    · rename_i hs
      exact iff_of_false (fixed_ne_notFound _ _).symm (absurd hs)
    · rename_i hs
      exact iff_of_true rfl hs
  alike := by
    intro _ other _ ho hk hv hm
    rw [replyTo_of_read h, replyTo_of_read ho]
    have hcongr : ∀ response, answer other response = answer request response := answer_congr hk hv hm
    by_cases hp : request.path = "*" <;> by_cases hq : other.path = "*"
    · simp [hp, hq, hcongr]
    · simp [hp, hq, fixed_ne_notFound]
    · simp [hp, hq, (fixed_ne_notFound _ _).symm]
    · simp [hp, hq, hcongr]
  served := by
    intro network workers i client terms hu hw hi
    obtain ⟨final, hf, hall⟩ := hu.exchanges hw terms fixedServer hi
    exact ⟨final, hf, fun data => hall (_, data)⟩

/-- A target with a host in it, and none but a query after that. -/
theorem replies_fixed_absolute :
    Http.Head.read (Bytes.ofString "GET http://a?b HTTP/1.0\r\nHost: a") = .ok {
        method := "GET", path := "/", query := "b", version := "HTTP/1.0"
        headers := { entries := [("host", "a")] } } ∧
      RepliesFixed {
        method := "GET", path := "/", query := "b", version := "HTTP/1.0"
        headers := { entries := [("host", "a")] }, body := [0] } :=
  have h : Http.Head.read (Bytes.ofString "GET http://a?b HTTP/1.0\r\nHost: a") = .ok {
      method := "GET", path := "/", query := "b", version := "HTTP/1.0"
      headers := { entries := [("host", "a")] } } := rfl
  ⟨h, replies_fixed h [0]⟩

def forStar : Network where
  clients := [{
    events := [
      { what := .data (Bytes.ofString "OPTIONS * HTTP/1.1\r\nHost: a\r\n\r\n") },
      { what := .failure (.one .endOfStream) }] }]

/-- A request for the star is read, and not answered with the fixed response. -/
theorem not_replies_fixed :
    Http.Head.read (Bytes.ofString "OPTIONS * HTTP/1.1\r\nHost: a") = .ok {
        method := "OPTIONS", path := "*", version := "HTTP/1.1"
        headers := { entries := [("host", "a")] } } ∧
      fixedResponse.encode true = .ok (Bytes.ofString ("HTTP/1.1 200 OK\r\nServer: Python\r\n" ++
        "Content-Type: text/plain\r\nContent-Length: 12\r\n\r\nHello World!")) ∧
      (forStar.serve 1 {} fixedServer).visits = [{
        sent := [(0, Bytes.ofString ("HTTP/1.1 404 Not Found\r\n" ++
          "Content-Type: text/plain; charset=utf-8\r\nContent-Length: 19\r\n\r\n404 page not found\n"))]
        closed := some 0 }] :=
  ⟨rfl, rfl, by decide +kernel⟩

end Service

end FixedReply
