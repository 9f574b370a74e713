import FixedReply.Proofs.Server.Accounts
import FixedReply.Proofs.Server.Calm
import FixedReply.Proofs.Wire.Shares

namespace FixedReply

open Http (Request Response)
open Connection (readTurn nextTurn reply responseTo)
open Wire (Grows Punctual Portioned)

variable {terms : Terms} {handler : Handler} {request : Request} {wire next final : Wire}

def Wire.Shared (wire : Wire) : Prop := Portioned (wire.called.map Prod.snd) wire.taken wire.buffer

def Turn.Shared : Turn → Prop
  | call request wire => Portioned (wire.called.map Prod.snd ++ [request]) wire.taken wire.buffer
  | close _ wire => ∃ left, Portioned (wire.called.map Prod.snd) wire.taken left

/-- What has been received stays so. -/
theorem Wire.Grows.taken (grows : Grows wire next) : ∃ got, next.taken = wire.taken ++ got := by
  obtain ⟨more, hm, -⟩ := grows.history
  simp only [Wire.taken, received, hm, List.reverse_append, List.filterMap_append, List.map_append,
    List.flatten_append]
  exact ⟨_, rfl⟩

namespace Connection

/-- A connection that is closed leaves what it has received shared out as it was. -/
theorem shared_close {records : List Record} (h : wire.Shared) (grows : Grows wire final)
    (hc : final.called = wire.called) : (Turn.close records final).Shared := by
  obtain ⟨got, hgot⟩ := grows.taken
  refine ⟨wire.buffer ++ got, ?_⟩
  rw [hc, hgot]
  exact Portioned.more h got

/-- The request that is read has the next share of what has been received. -/
theorem shared_readTurn (terms : Terms) (h : wire.Shared) : (readTurn terms wire).Shared := by
  have hcalled := called_readTurn terms wire
  have hgrows := grows_readTurn terms wire
  cases ht : readTurn terms wire with
  | close records final =>
    rw [ht] at hcalled hgrows
    exact shared_close h hgrows hcalled
  | call request final =>
    rw [ht] at hcalled
    unfold readTurn at ht
    split at ht
    · rename_i next hr
      cases ht
      obtain ⟨got, share, htaken, hbytes, hs⟩ := Wire.share_of_read hr
      have hmore : Portioned (wire.called.map Prod.snd) (wire.taken ++ got) (share ++ next.buffer) :=
        hbytes ▸ Portioned.more h got
      have hshared := hmore.snoc hs
      have hsame : next.unhurried.called = wire.called := hcalled
      have hall : next.unhurried.taken = wire.taken ++ got := htaken
      rw [← hall, ← hsame] at hshared
      exact hshared
    · exact absurd ht (abandon_ne_call _ _ _ _)

theorem shared_nextTurn (terms : Terms) (h : wire.Shared) : (nextTurn terms wire).Shared := by
  have hcalled := called_nextTurn terms wire
  have hgrows := grows_nextTurn terms wire
  unfold nextTurn at hcalled hgrows ⊢
  split
  · rename_i hb
    rw [if_pos hb] at hcalled hgrows
    cases hf : (wire.within terms.idleTimeout).fill with
    | mk result next =>
      rw [hf] at hcalled hgrows
      rcases result with loss | _ | _
      · exact shared_close h hgrows hcalled
      · exact shared_close h hgrows hcalled
      · obtain ⟨got, htaken, hbuffer⟩ := Wire.taken_fill hf
        have hsame : next.called = wire.called := (called_readTurn terms next.unhurried).symm.trans hcalled
        have hnext : next.unhurried.Shared := by
          change Portioned (next.called.map Prod.snd) next.taken next.buffer
          rw [hsame, htaken, hbuffer]
          exact Portioned.more h got
        exact shared_readTurn terms hnext
  · exact shared_readTurn terms h

theorem shared_reply (terms : Terms) (request : Request) (response : Response) (h : wire.Shared) :
    (reply terms request response wire).Shared := by
  rcases reply_cases terms request response wire with ⟨-, records, he⟩ | ⟨data, -, he⟩ <;> rw [he]
  · exact ⟨_, h⟩
  · have hsent : (wire.note (.sent data)).Shared := by
      simpa [Wire.Shared, Wire.called, Wire.taken, Wire.received, Wire.note] using h
    split
    · exact shared_nextTurn terms hsent
    · exact ⟨_, hsent⟩

end Connection

/-- When a call has ended its request is among those that what has been received is shared out to. -/
theorem Handler.shared_returned (handler : Handler) (start : Time) (h : (Turn.call request wire).Shared) :
    (handler.returned start request wire).Shared := by
  have hcalled : (handler.returned start request wire).called = wire.called ++ [(start, request)] :=
    Wire.called_note (wire.resume start) request
  have htaken : (handler.returned start request wire).taken = wire.taken := by
    simp [Handler.returned, Wire.taken, Wire.received, Wire.note, Wire.later, Wire.resume]
  rw [Wire.Shared, hcalled, htaken, List.map_append]
  exact h

/-- In the life of a connection each call has its share of what is received. -/
theorem Life.portioned {turn : Turn} (life : Life terms handler turn final) (h : turn.Shared) :
    ∃ left, Portioned (final.called.map Prod.snd) final.taken left := by
  have hreply : ∀ start request wire, (Turn.call request wire).Shared →
      (reply terms request (responseTo (handler request).outcome)
        (handler.returned start request wire)).Shared :=
    fun start request wire hcall =>
      Connection.shared_reply terms request _ (handler.shared_returned start hcall)
  obtain ⟨records, hshared⟩ := life.keeps hreply h
  exact hshared

namespace Network

/-- A server that nobody stops comes to the end of every connection, without a deadline if the client is
punctual. Each request that it calls a handler for is read from a share of its own in what is received,
which holds a blank line at least. -/
theorem finished {network : Network} (h : network.Unstopped) {workers : Nat} (hw : 0 < workers)
    (terms : Terms) (handler : Handler) {i : Nat} {client : Client}
    (hi : network.clients[i]? = some client) :
    ∃ final, (network.serve workers terms handler).traffic.phases[i]? = some (.closed final) ∧
      (Punctual (min terms.readTimeout terms.idleTimeout) client.events → .gaveUp ∉ final.dialogue) ∧
      (∃ left, Portioned (final.called.map Prod.snd) final.taken left) ∧
      final.called.length ≤ final.taken.length / 4 := by
  obtain ⟨accepted, final, hclosed, life⟩ := h.life hw terms handler hi
  have hstart : (client.wire accepted).Shared := ⟨[], rfl, .nil⟩
  obtain ⟨left, hleft⟩ := life.portioned (Connection.shared_readTurn terms hstart)
  refine ⟨final, hclosed, fun hp => ?_, ⟨left, hleft⟩, ?_⟩
  · obtain ⟨final', hclosed', hcalm⟩ :=
      h.calm hw (Nat.min_le_left _ _) (Nat.min_le_right _ _) handler hi hp
    obtain rfl : final' = final := Phase.closed.inj (Option.some.inj (hclosed'.symm.trans hclosed))
    exact hcalm
  · have hlen := hleft.length
    rw [List.length_map] at hlen
    omega

/-- Two requests, cut in a blank line, and the beginning of a third one, before the connection is reset. The
handler fails for one of them. -/
theorem finished_reset :
    let client : Client := { events := [
      { what := .data (Bytes.ofString "GET / HTTP/1.1\r\nHost: a\r\n\r") },
      { due := 5, what := .data (Bytes.ofString
        "\n\r\nPOST /b HTTP/1.1\r\nHost: a\r\nContent-Length: 2\r\n\r\nhiGET") },
      { due := 7, what := .failure (.one .brokenStream) }] }
    let network : Network := { clients := [client] }
    let terms : Terms := { readTimeout := 12, idleTimeout := 8 }
    let handler : Handler := fun request =>
      { delay := 20
        outcome :=
          if request.method == "GET" then .ok { written := Http.isWritten_ok } else .error (.runtime "boom") }
    network.Unstopped ∧ Punctual 8 client.events ∧
      (network.serve 1 terms handler).calls.map (·.2.method) = ["GET", "POST"] ∧
      ∃ final, (network.serve 1 terms handler).traffic.phases[0]? = some (.closed final) ∧
        .gaveUp ∉ final.dialogue ∧ (∃ left, Portioned (final.called.map Prod.snd) final.taken left) ∧
        final.called.length ≤ final.taken.length / 4 := by
  intro client network terms handler
  have hp : Punctual 8 client.events := by
    refine ⟨by simp [client], ⟨7, .failure (.one .brokenStream)⟩, by simp [client], .inr ⟨_, rfl⟩⟩
  have hi : network.clients[0]? = some client := rfl
  obtain ⟨final, hclosed, hcalm, hshares⟩ := finished ⟨rfl, rfl⟩ Nat.one_pos terms handler hi
  exact ⟨⟨rfl, rfl⟩, hp, by decide +kernel, final, hclosed, hcalm hp, hshares⟩

end Network

end FixedReply
