import FixedReply.Proofs.Server.Calm
import FixedReply.Proofs.Wire.Written

namespace FixedReply

open Http (Request)
open Wire (Written Clean gap upcoming outcome)
open Connection (responseTo answer)

def stream (requests : List (Nat × Written)) (trailing : Nat) : Bytes :=
  requests.flatMap (fun request => gap request.1 ++ request.2.bytes) ++ gap trailing

/-- The requests up to the first after which the client wants no other one. -/
def served : List Written → List Written
  | [] => []
  | written :: rest => written :: if written.request.keepAlive then served rest else []

variable {limits : Limits} {handler : Handler} {requests : List (Nat × Written)} {trailing : Nat}
  {data : Request → Bytes}

/-- Line ends alone are the beginning of no request. -/
theorem step_gap (limits : Limits) (n : Nat) : Wire.Stage.start.step limits (gap n) = none := by
  have hd : Wire.dropBlankLines (gap n) = [] := by
    have := Wire.dropBlankLines_gap n []
    rwa [List.append_nil] at this
  simp [Wire.Stage.step, Wire.scanBlankLines, hd, Wire.Scan.move?]

theorem stream_cons (n : Nat) (written : Written) (rest : List (Nat × Written)) (trailing : Nat) :
    stream ((n, written) :: rest) trailing = gap n ++ written.bytes ++ stream rest trailing := by
  simp [stream]

/-- Each of the requests is called for and answered as it was written. -/
theorem conversation_stream (hf : ∀ r ∈ requests, r.2.Fits limits)
    (ha : ∀ r ∈ requests, answer r.2.request (responseTo (handler r.2.request).outcome) =
      .ok (data r.2.request)) :
    conversation limits handler (stream requests trailing) =
      (served (requests.map Prod.snd)).flatMap fun written =>
        written.leave ++ [.called written.request, .sent (data written.request)] := by
  induction requests with
  | nil =>
    rw [stream, List.flatMap_nil, List.nil_append,
      conversation_lost (Wire.outcome_none (step_gap limits trailing))]
    rfl
  | cons r rest ih =>
    obtain ⟨n, written⟩ := r
    have hc := written.clean (hf _ List.mem_cons_self) n (stream rest trailing)
    rw [stream_cons, conversation_read hc.outcome, ha _ List.mem_cons_self, List.map_cons, served]
    dsimp only
    by_cases hk : written.request.keepAlive
    · rw [if_pos hk, if_pos hk, ih (fun r hr => hf r (List.mem_cons_of_mem _ hr))
        (fun r hr => ha r (List.mem_cons_of_mem _ hr))]
      simp
    · rw [if_neg hk, if_neg hk]
      simp

/-- No line of a request that is reached straddles its limit. -/
theorem settled_stream (hf : ∀ r ∈ requests, r.2.Fits limits) {acts : List Act}
    {left : Bytes} (hr : Reached limits handler (stream requests trailing) acts left) :
    Settled limits left := by
  induction requests generalizing acts with
  | nil =>
    have hgap : stream [] trailing = gap trailing := rfl
    have hnone := step_gap limits trailing
    rw [hgap] at hr
    cases hr with
    | here =>
      intro said stage left why walk hs
      cases walk with
      | here => cases hs
      | on step =>
        rw [hnone] at step
        cases step
    | after ho =>
      rw [Wire.outcome_none hnone] at ho
      cases ho
  | cons r rest ih =>
    obtain ⟨n, written⟩ := r
    have hc := written.clean (hf _ List.mem_cons_self) n (stream rest trailing)
    rw [stream_cons] at hr
    cases hr with
    | here =>
      intro said stage left why walk hs
      exact absurd hs (hc.not_strays walk why)
    | after ho he hk onward =>
      rw [hc.outcome] at ho
      cases ho
      exact ih (fun r hr => hf r (List.mem_cons_of_mem _ hr)) onward

/-- One call is made for each request. -/
theorem calls_of_blocks (writtens : List Written) (data : Request → Bytes) :
    (writtens.flatMap fun written =>
      written.leave ++ [.called written.request, .sent (data written.request)]).filterMap
        Act.request? = writtens.map Written.request := by
  induction writtens with
  | nil => rfl
  | cons written rest ih =>
    have hl : written.leave.filterMap Act.request? = [] := by
      unfold Written.leave
      split
      · rfl
      · rcases Wire.leaveTo_cases written.request with hl | hl <;> rw [hl] <;> rfl
    rw [List.flatMap_cons, List.filterMap_append, List.filterMap_append, hl, ih]
    rfl

/-- Whatever pieces a client's requests come in, a server that nobody stops calls its handler for
exactly the requests up to the first that asks for the end, and answers each before the next. -/
theorem serve_pipelined {network : Network} (h : network.Unstopped) {workers : Nat}
    (hw : 0 < workers) (terms : Terms) {i : Nat} {client : Client}
    (hi : network.clients[i]? = some client) (hs : client.sendFault = none)
    (hu : upcoming client.events = stream requests trailing)
    (hf : ∀ r ∈ requests, r.2.Fits terms.limits)
    (ha : ∀ r ∈ requests, answer r.2.request (responseTo (handler r.2.request).outcome) =
      .ok (data r.2.request)) :
    ∃ final, (network.serve workers terms handler).traffic.phases[i]? = some (.closed final) ∧
      (.gaveUp ∉ final.dialogue →
        final.called.map Prod.snd = (served (requests.map Prod.snd)).map Written.request ∧
          final.dialogue = (served (requests.map Prod.snd)).flatMap fun written =>
            written.leave ++ [.called written.request, .sent (data written.request)]) := by
  obtain ⟨accepted, final, hclosed, life⟩ := h.life hw terms handler hi
  refine ⟨final, hclosed, fun hg => ?_⟩
  have has : Wire.whole.Has (client.wire accepted) (stream requests trailing) :=
    (client.ahead_wire accepted).trans hu
  have hd := (life.course_readTurn has).dialogue hs (fun h => h.elim) (fun _ => hg)
    fun _ _ left hr => settled_stream hf hr
  have hnone : (client.wire accepted).dialogue = [] := rfl
  rw [hnone, List.nil_append, conversation_stream hf ha] at hd
  refine ⟨?_, hd⟩
  rw [Wire.called_eq, hd, calls_of_blocks]

def upload : Written where
  head := {
    method := ['P', 'O', 'S', 'T'], path := ['/', 'a'], query := some ['b'], minor := '1'
    fields := [
      ⟨"Host".toList, "a".toList, by decide, by decide, by decide, by decide⟩,
      ⟨"Transfer-Encoding".toList, "chunked".toList, by decide, by decide, by decide, by decide⟩]
    token := by decide, rooted := by decide, unasked := by decide, latin := by decide
    unspaced := by simp, digit := by decide, distinct := by decide +kernel
    hosted := by decide +kernel }
  body := .chunked
    [⟨Bytes.ofString "hello", .ofFind (Bytes.ofString "5") (by decide) (by decide) (by decide),
      by decide⟩]
    (.ofFind (Bytes.ofString "0") (by decide) (by decide) (by decide))
  framed := by constructor <;> decide +kernel

def farewell : Written where
  head := {
    method := ['G', 'E', 'T'], path := ['/', 'c'], query := none, minor := '0', fields := []
    token := by decide, rooted := by decide, unasked := by decide, latin := by decide
    unspaced := by simp, digit := by decide, distinct := by decide, hosted := by decide }
  body := .absent
  framed := by constructor <;> decide +kernel

/-- An upload and a farewell in three pieces, cut in a chunk and in a blank line. -/
theorem serve_pipelined_upload :
    let client : Client := { events := [
      { what := .data (Bytes.ofString "POST /a?b HTTP/1.1\r\nHost: a\r\nTransfer-Encoding: chunked\r\n\r\n5\r\nhe") },
      { what := .data (Bytes.ofString "llo\r\n0\r\n\r\n\r\nGET /c HTTP/1.0\r") },
      { what := .data (Bytes.ofString "\n\r\n") },
      { what := .failure (.one .endOfStream) }] }
    ∃ final, (Network.serve { clients := [client] } 1 {} Service.fixedHandler).traffic.phases[0]? =
        some (.closed final) ∧
      final.called.map Prod.snd = [upload.request, farewell.request] := by
  intro client
  have hi : ({ clients := [client] } : Network).clients[0]? = some client := rfl
  have hu : upcoming client.events = stream [(0, upload), (1, farewell)] 0 := by decide +kernel
  have hk : served [upload, farewell] = [upload, farewell] := by
    rw [served, if_pos (by decide +kernel), served, if_neg (by decide +kernel)]
  have hf : ∀ r ∈ [(0, upload), (1, farewell)], r.2.Fits {} := by
    intro r hr
    simp only [List.mem_cons, List.not_mem_nil, or_false] at hr
    rcases hr with rfl | rfl <;> exact ⟨by decide +kernel, by decide +kernel⟩
  have hp : Wire.Prompt client.events :=
    ⟨by simp [client], { what := .failure (.one .endOfStream) }, by simp [client], .inr ⟨_, rfl⟩⟩
  obtain ⟨data, ha⟩ := Classical.axiomOfChoice Service.plain_fixedHandler.answers
  obtain ⟨final, hc, hd⟩ := serve_pipelined ⟨rfl, rfl⟩ Nat.one_pos {} hi rfl hu hf
    fun r _ => ha r.2.request
  obtain ⟨final', hc', hg⟩ :=
    Network.Unstopped.not_gaveUp ⟨rfl, rfl⟩ Nat.one_pos {} Service.fixedHandler hi hp
  have hsame : final' = final := Phase.closed.inj (Option.some.inj (hc'.symm.trans hc))
  subst hsame
  have hcalls := (hd hg).1
  rw [List.map_cons, List.map_cons, List.map_nil, hk] at hcalls
  exact ⟨_, hc, hcalls⟩

end FixedReply
