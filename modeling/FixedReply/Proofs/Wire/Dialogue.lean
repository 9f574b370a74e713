import FixedReply.Proofs.Wire.Onward

namespace FixedReply

def Act.isReception : Act → Bool
  | .received _ => true
  | _ => false

def Act.request? : Act → Option Http.Request
  | called request => some request
  | _ => none

def Act.data? : Act → Option Bytes
  | sent data => some data
  | _ => none

def sends (acts : List Act) : Nat := (acts.filterMap Act.data?).length

namespace Wire

def dialogue (wire : Wire) : List Act :=
  (wire.history.map Prod.snd).reverse.filter (!·.isReception)

/-- What is picked from the history without the receptions is picked from the dialogue. -/
theorem picked_eq {β : Type} {pick : Time × Act → Option (Time × β)} {pick' : Act → Option β}
    (hp : ∀ t act, (pick (t, act)).map Prod.snd = pick' act)
    (hr : ∀ data, pick' (.received data) = none) (wire : Wire) :
    (wire.history.reverse.filterMap pick).map Prod.snd = wire.dialogue.filterMap pick' := by
  rw [dialogue, ← List.map_reverse]
  induction wire.history.reverse with
  | nil => rfl
  | cons e rest ih =>
    obtain ⟨t, act⟩ := e
    have ht := hp t act
    have hkeep : act.isReception = false ∨ pick' act = none := by
      cases act with
      | received data => exact .inr (hr data)
      | _ => exact .inl rfl
    cases hc : pick (t, act) with
    | none =>
      rw [hc] at ht
      rw [List.filterMap_cons_none hc, ih, List.map_cons, List.filter_cons]
      split
      · rw [List.filterMap_cons_none ht.symm]
      · rfl
    | some e =>
      rw [hc] at ht
      rcases hkeep with hk | hk
      · rw [List.filterMap_cons_some hc, List.map_cons, ih, List.map_cons, List.filter_cons,
          if_pos (by simp [hk]), List.filterMap_cons_some ht.symm]
      · rw [hk] at ht
        cases ht

/-- The calls of a handler are those of the dialogue. -/
theorem called_eq (wire : Wire) :
    wire.called.map Prod.snd = wire.dialogue.filterMap Act.request? :=
  picked_eq (fun _ act => by cases act <;> rfl) (fun _ => rfl) wire

/-- The bytes that are sent are those of the dialogue. -/
theorem sent_eq (wire : Wire) : wire.sent.map Prod.snd = wire.dialogue.filterMap Act.data? :=
  picked_eq (fun _ act => by cases act <;> rfl) (fun _ => rfl) wire

theorem dialogue_note (wire : Wire) (act : Act) :
    (wire.note act).dialogue = wire.dialogue ++ if act.isReception then [] else [act] := by
  cases act <;> simp [dialogue, note, Act.isReception]

/-- From one state of a wire to another these acts are done, and what is still to be sent will fail
as it would have. -/
structure Did (acts : List Act) (before after : Wire) : Prop where
  dialogue : after.dialogue = before.dialogue ++ acts
  sendFault : after.sendFault = before.sendFault

theorem Did.refl (wire : Wire) : Did [] wire wire := ⟨by simp, rfl⟩

theorem Did.trans {a b : List Act} {w x y : Wire} (h : Did a w x) (h' : Did b x y) :
    Did (a ++ b) w y :=
  ⟨by rw [h'.dialogue, h.dialogue, List.append_assoc], h'.sendFault.trans h.sendFault⟩

theorem Did.then {a : List Act} {w x y : Wire} (h : Did [] w x) (h' : Did a x y) : Did a w y := by
  simpa using h.trans h'

theorem Did.quiet {a : List Act} {w x y : Wire} (h : Did a w x) (h' : Did [] x y) : Did a w y := by
  simpa using h.trans h'

theorem Did.unique {a b : List Act} {w x : Wire} (h : Did a w x) (h' : Did b w x) : a = b :=
  List.append_cancel_left (h.dialogue.symm.trans h'.dialogue)

variable {wire next : Wire}

theorem Did.length_sent {acts : List Act} (h : Did acts wire next) :
    next.sent.length = wire.sent.length + sends acts := by
  have hlen : ∀ wire : Wire, wire.sent.length = sends wire.dialogue := by
    intro wire
    rw [sends, ← sent_eq, List.length_map]
  rw [hlen, hlen, h.dialogue, sends, sends, sends, List.filterMap_append, List.length_append]

theorem did_keep (wire : Wire) (kept : Bytes) : Did [] wire (wire.keep kept) := ⟨by simp [keep, dialogue], rfl⟩

theorem did_waitFor (wire : Wire) (moment : Time) : Did [] wire (wire.waitFor moment) := by
  unfold waitFor
  split
  · exact ⟨by simp [later, dialogue], rfl⟩
  · exact .refl wire

theorem did_accept (wire : Wire) (data : Bytes) : Did [] wire (wire.accept data) :=
  ⟨by simp [accept, note, dialogue, Act.isReception], rfl⟩

theorem did_giveUp (wire : Wire) (deadline : Time) : Did [.gaveUp] wire (wire.giveUp deadline) := by
  refine (did_waitFor wire deadline).then ⟨?_, rfl⟩
  simp [giveUp, dialogue_note, Act.isReception]

theorem did_fill {result : Except Loss Bool} (h : wire.fill = (result, next)) :
    Did (lossTraces result) wire next := by
  unfold fill at h
  split at h
  · split at h <;> cases h
    · exact .refl wire
    · exact did_giveUp wire _
  · rename_i event rest _
    split at h
    · cases h
      exact did_giveUp wire _
    · have hw : Did [] wire { wire.waitFor event.due with inbox := rest } :=
        (did_waitFor wire event.due).then ⟨by simp [dialogue], rfl⟩
      dsimp only at h
      split at h <;> cases h
      · exact hw
      · exact hw.then (did_accept _ _)
      · exact hw
      · exact hw

theorem did_gather (wire : Wire) (count : Nat) : Did [] wire (wire.gather count) :=
  ⟨by simp [gather, dialogue], rfl⟩

/-- A sending that succeeds is an act, and one that fails is none. -/
theorem did_send {data : Bytes} {result : Except Failures Unit}
    (h : wire.send data = (result, next)) :
    Did (sendTraces data result) wire next := by
  have hn : Did [.sent data] wire (wire.note (.sent data)) :=
    ⟨by simp [dialogue_note, Act.isReception], rfl⟩
  unfold send at h
  split at h
  · split at h <;> cases h
    · exact .refl wire
    · exact hn
  · cases h
    exact hn

theorem Onward.did {acts : List Act} {before after : Wire} (h : Onward acts before after) :
    Did acts before after := by
  induction h with
  | refl wire => exact .refl wire
  | keep wire kept => exact did_keep wire kept
  | fill h => exact did_fill h
  | gather wire count => exact did_gather wire count
  | send h => exact did_send h
  | trans _ _ h h' => exact h.trans h'

end Wire

end FixedReply
