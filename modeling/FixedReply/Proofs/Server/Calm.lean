import FixedReply.Proofs.Server.Attended
import FixedReply.Proofs.Wire.Punctual

namespace FixedReply

open Http (Request Response)
open Connection (readTurn nextTurn reply abandon responseTo)
open Wire (Did Punctual)

variable {terms : Terms} {handler : Handler} {limit : Time} {wire next final : Wire}

def Turn.Calm (limit : Time) : Turn → Prop
  | call _ wire => Punctual limit wire.inbox ∧ .gaveUp ∉ wire.dialogue
  | close _ wire => .gaveUp ∉ wire.dialogue

theorem Wire.Did.not_gaveUp {acts : List Act} (did : Did acts wire next) (h : .gaveUp ∉ wire.dialogue)
    (ha : .gaveUp ∉ acts) : .gaveUp ∉ next.dialogue := by
  rw [did.dialogue, List.mem_append]
  exact not_or.mpr ⟨h, ha⟩

namespace Connection

theorem calm_abandon (h : .gaveUp ∉ wire.dialogue) (stop : Stop) : (abandon stop wire).Calm limit := by
  cases stop with
  | lost loss => exact h
  | fault why =>
    obtain ⟨records, final, ha, hd⟩ := abandon_fault why (.refl wire)
    rw [ha]
    rcases hd with did | ⟨-, -, did⟩
    · exact did.not_gaveUp h why.reply_not_gaveUp
    · exact did.not_gaveUp h List.not_mem_nil

theorem calm_readTurn (hr : limit ≤ terms.readTimeout) (hp : Punctual limit wire.inbox)
    (h : .gaveUp ∉ wire.dialogue) : (readTurn terms wire).Calm limit := by
  unfold readTurn
  cases he : (wire.within terms.readTimeout).readRequest terms.limits with
  | mk result next =>
    have hread : Wire.Stage.start.read terms.limits (wire.within terms.readTimeout) = (result, next) := he
    obtain ⟨hx, hleft⟩ := Wire.read_inTime (hp.within hr) hread
    obtain ⟨lead, hl, did⟩ := did_read he
    rw [Wire.stopTraces_of_ne hx, List.append_nil] at did
    have hnext : .gaveUp ∉ next.unhurried.dialogue := did.not_gaveUp h hl.not_gaveUp
    cases result with
    | ok request => exact ⟨(hleft request rfl).inbox, hnext⟩
    | error stop => exact calm_abandon hnext stop

theorem calm_nextTurn (hr : limit ≤ terms.readTimeout) (hi : limit ≤ terms.idleTimeout)
    (hp : Punctual limit wire.inbox) (h : .gaveUp ∉ wire.dialogue) :
    (nextTurn terms wire).Calm limit := by
  unfold nextTurn
  split
  · cases hf : (wire.within terms.idleTimeout).fill with
    | mk result next =>
      obtain ⟨hx, hleft⟩ := Wire.fill_inTime (hp.within hi) hf
      have did := Wire.did_fill hf
      rw [Wire.lossTraces_of_ne hx] at did
      have hnext : .gaveUp ∉ next.dialogue := did.not_gaveUp h List.not_mem_nil
      rcases result with loss | _ | _
      · exact hnext
      · exact hnext
      · exact calm_readTurn hr (hleft rfl).inbox hnext
  · exact calm_readTurn hr hp h

theorem calm_reply (hr : limit ≤ terms.readTimeout) (hi : limit ≤ terms.idleTimeout)
    (hp : Punctual limit wire.inbox) (h : .gaveUp ∉ wire.dialogue) (request : Request)
    (response : Response) : (reply terms request response wire).Calm limit := by
  rcases reply_cases terms request response wire with ⟨-, records, he⟩ | ⟨data, -, he⟩ <;> rw [he]
  · exact h
  · have hsent : .gaveUp ∉ (wire.note (.sent data)).dialogue := by
      simpa [Wire.dialogue_note, Act.isReception] using h
    split
    · exact calm_nextTurn hr hi hp hsent
    · exact hsent

end Connection

/-- In the life of a connection with a punctual peer no wait is given up. -/
theorem Life.not_gaveUp {turn : Turn} (life : Life terms handler turn final)
    (hr : limit ≤ terms.readTimeout) (hi : limit ≤ terms.idleTimeout) (h : turn.Calm limit) :
    .gaveUp ∉ final.dialogue := by
  have hreply : ∀ start request wire, (Turn.call request wire).Calm limit →
      (reply terms request (responseTo (handler request).outcome)
        (handler.returned start request wire)).Calm limit := by
    rintro start request wire ⟨hp, hn⟩
    have hreturned : .gaveUp ∉ (handler.returned start request wire).dialogue := by
      simpa [Handler.returned, Wire.later, Wire.dialogue, Wire.note, Wire.resume, Act.isReception] using hn
    have hinbox : Punctual limit (handler.returned start request wire).inbox := hp
    exact Connection.calm_reply hr hi hinbox hreturned request _
  obtain ⟨records, hcalm⟩ := life.keeps hreply h
  exact hcalm

/-- To receive no more than so many bytes at a time keeps a client waiting no longer. -/
theorem Client.punctual_wire {client : Client} {limit : Time} (h : Wire.Punctual limit client.events)
    (accepted : Time) : Wire.Punctual limit (client.wire accepted).inbox where
  due := by
    intro reception hr
    obtain ⟨event, hm, hr⟩ := List.mem_flatMap.mp hr
    have hdue : reception.due = event.due := by
      obtain ⟨due, what⟩ := event
      cases what with
      | failure what => rw [List.mem_singleton.mp hr]
      | data bytes =>
        obtain ⟨piece, -, rfl⟩ := List.mem_map.mp hr
        rfl
    rw [hdue]
    exact h.due event hm
  ends := by
    obtain ⟨ending, hm, he⟩ := h.ends
    refine ⟨ending, List.mem_flatMap.mpr ⟨ending, hm, ?_⟩, he⟩
    obtain ⟨due, what⟩ := ending
    rcases he with rfl | ⟨what, rfl⟩
    · simp [Event.receptions, Bytes.pieces]
    · simp [Event.receptions]

/-- A server that nobody stops gives up no wait for a punctual client, whatever that sends. -/
theorem Network.Unstopped.calm {network : Network} (h : network.Unstopped) {workers : Nat}
    (hw : 0 < workers) {terms : Terms} (hr : limit ≤ terms.readTimeout) (hi : limit ≤ terms.idleTimeout)
    (handler : Handler) {i : Nat} {client : Client} (hc : network.clients[i]? = some client)
    (hp : Punctual limit client.events) :
    ∃ final, (network.serve workers terms handler).traffic.phases[i]? = some (.closed final) ∧
      .gaveUp ∉ final.dialogue := by
  obtain ⟨accepted, final, hclosed, life⟩ := h.life hw terms handler hc
  have hcalm : (readTurn terms (client.wire accepted)).Calm limit :=
    Connection.calm_readTurn hr (Client.punctual_wire hp accepted) List.not_mem_nil
  exact ⟨final, hclosed, life.not_gaveUp hr hi hcalm⟩

theorem Network.Unstopped.not_gaveUp {network : Network} (h : network.Unstopped) {workers : Nat}
    (hw : 0 < workers) (terms : Terms) (handler : Handler) {i : Nat} {client : Client}
    (hi : network.clients[i]? = some client) (hp : Wire.Prompt client.events) :
    ∃ final, (network.serve workers terms handler).traffic.phases[i]? = some (.closed final) ∧
      .gaveUp ∉ final.dialogue :=
  h.calm hw (Nat.zero_le _) (Nat.zero_le _) handler hi hp.punctual

end FixedReply
