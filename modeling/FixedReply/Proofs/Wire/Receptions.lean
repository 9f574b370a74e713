import FixedReply.Proofs.Wire.Deadline
import FixedReply.Proofs.Wire.Front
import FixedReply.Proofs.Wire.Reading

namespace FixedReply

inductive Arrival.Ends : Arrival → Loss → Prop
  | empty : Ends (.data []) .cutShort
  | ended : Ends (.failure (.one .endOfStream)) .cutShort
  | failed (what : Failures) : Ends (.failure what) (.broken what)

namespace Wire

open Http (Request)

variable {σ α : Type} {wire next later : Wire} {limits : Limits} {stage : Stage}
  {got more : List (Time × Bytes)}

/-- From one wire to another this is received, of what comes next, and nothing else is changed that the
next reception depends on. -/
structure Fetched (got : List (Time × Bytes)) (wire next : Wire) : Prop where
  received : next.received = wire.received ++ got
  inbox : next.inbox <:+ wire.inbox
  upcoming : upcoming wire.inbox = (got.map Prod.snd).flatten ++ Wire.upcoming next.inbox
  deadline : next.deadline = wire.deadline
  sendFault : next.sendFault = wire.sendFault
  clock : wire.clock ≤ next.clock
  times : ∀ e ∈ got, wire.clock ≤ e.1 ∧ e.1 ≤ next.clock

theorem Fetched.nothing (hr : next.received = wire.received) (hi : next.inbox = wire.inbox)
    (hd : next.deadline = wire.deadline) (hs : next.sendFault = wire.sendFault)
    (hc : wire.clock ≤ next.clock) : Fetched [] wire next :=
  ⟨by rw [hr, List.append_nil], hi ▸ List.suffix_refl _, by rw [hi]; rfl, hd, hs, hc, nofun⟩

theorem Fetched.trans (h : Fetched got wire next) (h' : Fetched more next later) :
    Fetched (got ++ more) wire later where
  received := by rw [h'.received, h.received, List.append_assoc]
  inbox := h'.inbox.trans h.inbox
  upcoming := by rw [h.upcoming, h'.upcoming, List.map_append, List.flatten_append, List.append_assoc]
  deadline := h'.deadline.trans h.deadline
  sendFault := h'.sendFault.trans h.sendFault
  clock := Nat.le_trans h.clock h'.clock
  times := by
    intro e he
    rcases List.mem_append.mp he with he | he
    · obtain ⟨hl, hr⟩ := h.times e he
      exact ⟨hl, Nat.le_trans hr h'.clock⟩
    · obtain ⟨hl, hr⟩ := h'.times e he
      exact ⟨Nat.le_trans h.clock hl, hr⟩

theorem received_note (wire : Wire) (act : Act) :
    (wire.note act).received = wire.received ++
      (match act with | .received data => [(wire.clock, data)] | _ => []) := by
  cases act <;> simp [received, note]

theorem received_waitFor (wire : Wire) (moment : Time) :
    (wire.waitFor moment).received = wire.received := by
  unfold waitFor
  split <;> rfl

def lossOf : Except Loss Bool → Loss
  | .ok _ => .cutShort
  | .error loss => loss

/-- A reception takes some bytes, or comes upon what ends the stream. -/
theorem receive_eq (wire : Wire) (event : Event) (rest : List Event) :
    (∃ b bytes, event.what = .data (b :: bytes) ∧ wire.receive event rest =
        (.ok true, { wire.waitFor event.due with inbox := rest }.accept (b :: bytes))) ∨
      (wire.receive event rest).1 ≠ .ok true ∧
        event.what.Ends (lossOf (wire.receive event rest).1) ∧
        (wire.receive event rest).2 = { wire.waitFor event.due with inbox := rest } := by
  unfold receive
  dsimp only
  split
  · rename_i hw
    exact .inr ⟨nofun, hw ▸ .empty, rfl⟩
  · rename_i b bytes hw
    exact .inl ⟨b, bytes, hw, rfl⟩
  · rename_i hw
    exact .inr ⟨nofun, hw ▸ .ended, rfl⟩
  · rename_i what _ hw
    exact .inr ⟨nofun, hw ▸ .failed what, rfl⟩

theorem fetched_receive {event : Event} {rest : List Event} (hi : wire.inbox = event :: rest)
    (h : wire.receive event rest = (.ok true, next)) : ∃ got, Fetched got wire next := by
  have hclock := clock_receive wire event rest
  have hdeadline := deadline_receive wire event rest
  rcases receive_eq wire event rest with ⟨b, bytes, hw, he⟩ | ⟨hn, -⟩
  · rw [he] at h hclock hdeadline
    cases h
    have hle : wire.clock ≤ max wire.clock event.due := Nat.le_max_left _ _
    have hfault := (did_waitFor wire event.due).sendFault
    refine ⟨[((wire.waitFor event.due).clock, b :: bytes)], ?_, ?_, ?_, hdeadline, hfault,
      hclock ▸ hle, ?_⟩
    · have hnote := received_note { wire.waitFor event.due with inbox := rest } (.received (b :: bytes))
      rw [← received_waitFor wire event.due]
      exact hnote
    · exact hi ▸ List.suffix_cons event rest
    · simp [hi, Wire.upcoming, hw, accept, note]
    · intro e hm
      rw [List.mem_singleton.mp hm]
      exact ⟨hclock ▸ hle, Nat.le_refl _⟩
  · exact absurd (congrArg Prod.fst h) hn

/-- Where no deadline passes, what comes first is received. -/
theorem fill_receives {result : Except Loss Bool} (h : wire.fill = (result, next))
    (hx : result ≠ .error .expired) (hn : wire.deadline = none → result ≠ .ok false) :
    ∃ event rest, wire.inbox = event :: rest ∧ wire.receive event rest = (result, next) := by
  unfold fill at h
  split at h
  · split at h
    · rename_i hd
      cases h
      exact absurd rfl (hn hd)
    · cases h
      exact absurd rfl hx
  · rename_i event rest hi
    split at h
    · cases h
      exact absurd rfl hx
    · exact ⟨event, rest, hi, h⟩

theorem fetched_fill (h : wire.fill = (.ok true, next)) : ∃ got, Fetched got wire next := by
  obtain ⟨event, rest, hi, hr⟩ := fill_receives h nofun fun _ => nofun
  exact fetched_receive hi hr

theorem fetched_await {scan : σ → Bytes → Scan σ α} {state : σ} {a : α}
    (h : await scan state wire = (.ok a, next)) : ∃ got, Fetched got wire next := by
  fun_induction await scan state wire with
  | case1 =>
    cases h
    exact ⟨[], .nothing rfl rfl rfl rfl (Nat.le_refl _)⟩
  | case2 state wire later kept hw received hf ih =>
    obtain ⟨got, hgot⟩ := fetched_fill hf
    obtain ⟨more, hmore⟩ := ih h
    have hkeep : Fetched [] wire (wire.keep kept) := .nothing rfl rfl rfl rfl (Nat.le_refl _)
    exact ⟨_, (hkeep.trans hgot).trans hmore⟩
  | case3 | case4 => cases h

theorem fetched_take {move : Move} (h : stage.take limits wire = (.ok move, next)) :
    ∃ got, Fetched got wire next := by
  cases stage <;> obtain ⟨a, ht, -⟩ := Stage.take_ok h <;> exact fetched_await ht

theorem fetched_say {said : List Act} (h : say said wire = (.ok (), next)) : Fetched [] wire next := by
  obtain ⟨history, hnext, hr, -⟩ := say_eq said wire
  rw [h] at hnext hr
  cases hnext
  exact .nothing hr rfl rfl rfl (Nat.le_refl _)

theorem fetched_enter (stage : Stage) (wire : Wire) : Fetched [] wire (stage.enter wire) := by
  cases stage <;> exact .nothing rfl rfl rfl rfl (Nat.le_refl _)

/-- What is received while a request is read comes in its order, and none of it is passed over. -/
theorem fetched_read {request : Request} (h : stage.read limits wire = (.ok request, next)) :
    ∃ got, Fetched got wire next := by
  have hreading := reading limits stage wire
  rw [h] at hreading
  clear h
  generalize hr : ((.ok request, next) : Except Stop Request × Wire) = result at hreading
  induction hreading with
  | lost | stops | unsent => cases hr
  | ends ht =>
    cases hr
    exact fetched_take ht
  | goes ht hs _ ih =>
    obtain ⟨got, hgot⟩ := fetched_take ht
    obtain ⟨more, hmore⟩ := ih hr
    exact ⟨_, ((hgot.trans (fetched_say hs)).trans (fetched_enter _ _)).trans hmore⟩

/-- A request is made of what was buffered and what is received in the meantime, and the rest of that is
left in the buffer. -/
theorem outcome_of_read {request : Request} (h : Stage.start.read limits wire = (.ok request, next)) :
    ∃ got said, Fetched got wire next ∧ Did said wire next ∧
      outcome limits .start (wire.buffer ++ (got.map Prod.snd).flatten) =
        (said, .read request next.buffer) := by
  obtain ⟨got, hgot⟩ := fetched_read h
  have has : whole.Has wire wire.ahead := rfl
  have hc : whole.Concluded limits .start wire.ahead wire (.ok request, next)
      (outcome limits .start wire.ahead) := h ▸ whole.conclude has .start
  generalize ho : outcome limits .start wire.ahead = out at hc
  cases hc with
  | @read said _ rest _ did hrest he =>
    cases he
    have hahead : wire.ahead = wire.buffer ++ (got.map Prod.snd).flatten ++ Wire.upcoming next.inbox := by
      rw [ahead, hgot.upcoming, List.append_assoc]
    have hleft : rest = next.buffer ++ Wire.upcoming next.inbox := hrest.symm
    rw [hahead, hleft] at ho
    exact ⟨got, said, hgot, did, outcome_of_append ho⟩
  | lacking h => exact h.elim
  | stopped _ _ he => cases he
  | lost _ _ _ he => cases he
  | expired _ he => cases he
  | unsent _ _ _ _ he => cases he
  | strayed _ _ _ _ _ he => cases he

/-- A wait that brings nothing ahead of its deadline has come upon what ends the stream. -/
theorem ended_fill {result : Except Loss Bool} (hd : wire.deadline ≠ none)
    (h : wire.fill = (result, next)) (hx : result ≠ .error .expired) (hn : result ≠ .ok true) :
    ∃ event, event :: next.inbox <:+ wire.inbox ∧ event.what.Ends (lossOf result) := by
  obtain ⟨event, rest, hi, hr⟩ := fill_receives h hx fun hnone => absurd hnone hd
  rcases receive_eq wire event rest with ⟨b, bytes, _, he⟩ | ⟨_, hends, hnext⟩
  · rw [hr] at he
    cases he
    exact absurd rfl hn
  · rw [hr] at hends hnext
    have hinbox : next.inbox = rest := congrArg inbox hnext
    exact ⟨event, hinbox ▸ hi ▸ List.suffix_refl _, hends⟩

theorem ended_await {scan : σ → Bytes → Scan σ α} {state : σ} {loss : Loss}
    (hd : wire.deadline ≠ none) (h : await scan state wire = (.error loss, next))
    (hx : loss ≠ .expired) :
    ∃ event, event :: next.inbox <:+ wire.inbox ∧ event.what.Ends loss := by
  fun_induction await scan state wire with
  | case1 => cases h
  | case2 state wire later kept hw received hf ih =>
    obtain ⟨got, hgot⟩ := fetched_fill hf
    have hdeadline : received.deadline = wire.deadline := hgot.deadline
    obtain ⟨event, hi, he⟩ := ih (hdeadline ▸ hd) h
    exact ⟨event, hi.trans hgot.inbox, he⟩
  | case3 state wire later kept hw received hf =>
    have hkept : (wire.keep kept).deadline ≠ none := hd
    cases h
    exact ended_fill hkept hf (by simp) (by simp)
  | case4 state wire later kept hw lost received hf =>
    have hkept : (wire.keep kept).deadline ≠ none := hd
    cases h
    exact ended_fill hkept hf (fun he => hx (Except.error.inj he)) (by simp)

theorem ended_take {loss : Loss} (hd : wire.deadline ≠ none)
    (h : stage.take limits wire = (.error loss, next)) (hx : loss ≠ .expired) :
    ∃ event, event :: next.inbox <:+ wire.inbox ∧ event.what.Ends loss := by
  cases stage <;> exact ended_await hd (Stage.take_error h) hx

/-- What is lost while a request is read is lost with the stream, unless something cannot be sent. -/
theorem ended_read {loss : Loss} (hd : wire.deadline ≠ none)
    (h : stage.read limits wire = (.error (.lost loss), next)) (hx : loss ≠ .expired) :
    (∃ event, event :: next.inbox <:+ wire.inbox ∧ event.what.Ends loss) ∨
      next.Mute ∧ ∃ what, loss = .broken what := by
  have hreading := reading limits stage wire
  rw [h] at hreading
  clear h
  generalize hr : ((.error (.lost loss), next) : Except Stop Request × Wire) = result at hreading
  induction hreading with
  | ends | stops => cases hr
  | @lost stage wire _ _ ht =>
    cases hr
    exact .inl (ended_take hd ht hx)
  | @unsent _ _ _ taken _ said _ ht hs =>
    cases hr
    obtain ⟨_, _, _, hm⟩ := say_eq said taken
    rw [hs] at hm
    exact .inr ⟨hm _ rfl, _, rfl⟩
  | @goes _ later _ _ sent _ _ ht hs _ ih =>
    obtain ⟨got, hgot⟩ := fetched_take ht
    have hfetched := (hgot.trans (fetched_say hs)).trans (fetched_enter later sent)
    exact (ih (hfetched.deadline ▸ hd) hr).imp_left
      fun ⟨event, hi, he⟩ => ⟨event, hi.trans hfetched.inbox, he⟩

end Wire

end FixedReply
