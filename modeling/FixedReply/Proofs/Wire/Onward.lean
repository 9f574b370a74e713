import FixedReply.Wire.Message

namespace FixedReply

open Http (Request Framing)

def Loss.traces : Loss → List Act
  | expired => [.gaveUp]
  | _ => []

def Stop.traces : Stop → List Act
  | fault _ => []
  | lost loss => loss.traces

def Sends (fault : Option (Nat × Failures)) (count : Nat) : Prop :=
  ∀ allowed what, fault = some (allowed, what) → count < allowed

namespace Wire

def lossTraces {α : Type} : Except Loss α → List Act
  | .ok _ => []
  | .error loss => loss.traces

def stopTraces {α : Type} : Except Stop α → List Act
  | .ok _ => []
  | .error stop => stop.traces

def sendTraces (data : Bytes) : Except Failures Unit → List Act
  | .ok () => [.sent data]
  | .error _ => []

/-- A wire comes to be another one by bytes that are taken, received, gathered or sent, which leaves
these acts besides receptions. -/
inductive Onward : List Act → Wire → Wire → Prop
  | refl (wire : Wire) : Onward [] wire wire
  | keep (wire : Wire) (kept : Bytes) : Onward [] wire (wire.keep kept)
  | fill {wire next : Wire} {result : Except Loss Bool} (h : wire.fill = (result, next)) :
      Onward (lossTraces result) wire next
  | gather (wire : Wire) (count : Nat) : Onward [] wire (wire.gather count)
  | send {wire next : Wire} {data : Bytes} {result : Except Failures Unit}
      (h : wire.send data = (result, next)) : Onward (sendTraces data result) wire next
  | trans {acts more : List Act} {a b c : Wire} (h : Onward acts a b) (h' : Onward more b c) :
      Onward (acts ++ more) a c

theorem Onward.then {acts : List Act} {a b c : Wire} (h : Onward [] a b) (h' : Onward acts b c) :
    Onward acts a c := h.trans h'

variable {wire next : Wire}

def Mute (wire : Wire) : Prop := ¬ Sends wire.sendFault wire.sent.length

theorem Mute.faulty (h : wire.Mute) : wire.sendFault ≠ none := by
  intro hn
  apply h
  intro allowed what hf
  cases hn.symm.trans hf

theorem send_eq (wire : Wire) (data : Bytes) :
    wire.send data = (.ok (), wire.note (.sent data)) ∨
      wire.Mute ∧ ∃ what, wire.send data = (.error what, wire) := by
  unfold send
  cases hf : wire.sendFault with
  | none => exact .inl rfl
  | some fault =>
    obtain ⟨allowed, what⟩ := fault
    by_cases ha : allowed ≤ wire.sent.length
    · refine .inr ⟨fun hs => ?_, what, by simp [ha]⟩
      exact absurd (hs allowed what hf) (Nat.not_lt.mpr ha)
    · exact .inl (by simp [ha])

theorem clock_le_waitFor (wire : Wire) (moment : Time) : wire.clock ≤ (wire.waitFor moment).clock := by
  unfold waitFor
  split
  · exact Nat.le_of_lt ‹_›
  · exact Nat.le_refl _

def Newest (acts : List (Time × Act)) : Prop := acts.Pairwise fun later earlier => earlier.1 ≤ later.1

/-- More has been done with the second wire: none of it before the clock of the first, and none after its
own. -/
structure Grows (before after : Wire) : Prop where
  clock_le : before.clock ≤ after.clock
  history : ∃ acts, after.history = acts ++ before.history ∧ Newest acts ∧
    ∀ e ∈ acts, before.clock ≤ e.1 ∧ e.1 ≤ after.clock

/-- While nothing is done, time may go by. -/
theorem grows_idle {before after : Wire} (hc : before.clock ≤ after.clock)
    (hh : after.history = before.history) : Grows before after := ⟨hc, [], hh, .nil, nofun⟩

theorem Grows.refl (wire : Wire) : Grows wire wire := grows_idle (Nat.le_refl _) rfl

theorem Grows.trans {a b c : Wire} (h : Grows a b) (h' : Grows b c) : Grows a c := by
  obtain ⟨acts, ha, hnewest, hacts⟩ := h.history
  obtain ⟨more, hm, hnewest', hmore⟩ := h'.history
  refine ⟨Nat.le_trans h.clock_le h'.clock_le, more ++ acts, by rw [hm, ha, List.append_assoc], ?_, ?_⟩
  · refine List.pairwise_append.mpr ⟨hnewest', hnewest, fun later hl earlier he => ?_⟩
    exact Nat.le_trans (hacts earlier he).2 (hmore later hl).1
  · intro e he
    rcases List.mem_append.mp he with he | he
    · exact ⟨Nat.le_trans h.clock_le (hmore e he).1, (hmore e he).2⟩
    · exact ⟨(hacts e he).1, Nat.le_trans (hacts e he).2 h'.clock_le⟩

/-- A deadline that is set ahead is no act. -/
theorem Grows.within {time : Time} {before after : Wire} (h : Grows (before.within time) after) :
    Grows before after := by
  have hset : Grows before (before.within time) := grows_idle (Nat.le_refl _) rfl
  exact hset.trans h

theorem grows_note (wire : Wire) (act : Act) : Grows wire (wire.note act) := by
  refine ⟨Nat.le_refl _, [(wire.clock, act)], rfl, List.pairwise_singleton _ _, fun e he => ?_⟩
  rw [List.mem_singleton.mp he]
  exact ⟨Nat.le_refl _, Nat.le_refl _⟩

theorem grows_waitFor (wire : Wire) (moment : Time) : Grows wire (wire.waitFor moment) := by
  refine grows_idle (clock_le_waitFor wire moment) ?_
  unfold waitFor
  split <;> rfl

theorem grows_fill (wire : Wire) : Grows wire wire.fill.2 := by
  have hgiveUp : ∀ deadline, Grows wire (wire.giveUp deadline) :=
    fun deadline => (grows_waitFor wire deadline).trans (grows_note _ _)
  unfold Wire.fill
  split
  · split
    · exact .refl wire
    · exact hgiveUp _
  · rename_i event rest _
    split
    · exact hgiveUp _
    · have hwait : Grows wire { wire.waitFor event.due with inbox := rest } :=
        (grows_waitFor wire event.due).trans (grows_idle (Nat.le_refl _) rfl)
      dsimp only
      split
      · exact hwait
      · exact hwait.trans ((grows_note _ _).trans (grows_idle (Nat.le_refl _) rfl))
      · exact hwait
      · exact hwait

theorem Onward.grows {acts : List Act} {before after : Wire} (h : Onward acts before after) :
    Grows before after := by
  induction h with
  | refl wire => exact .refl wire
  | keep => exact grows_idle (Nat.le_refl _) rfl
  | @fill wire next result h =>
    have hgrows := grows_fill wire
    rwa [h] at hgrows
  | gather => exact grows_idle (Nat.le_refl _) rfl
  | send h =>
    rcases send_eq _ _ with hs | ⟨-, what, hs⟩
    all_goals
      rw [hs] at h
      cases h
    · exact grows_note _ _
    · exact .refl _
  | trans _ _ h h' => exact h.trans h'

theorem onward_await {σ α : Type} (scan : σ → Bytes → Scan σ α) (state : σ) (wire : Wire) :
    Onward (lossTraces (await scan state wire).1) wire (await scan state wire).2 := by
  fun_induction await scan state wire with
  | case1 state wire a rest => exact .keep wire rest
  | case2 state wire next kept _ wire' hf ih =>
    exact ((Onward.keep wire kept).then (.fill hf)).then ih
  | case3 state wire next kept _ wire' hf => exact (Onward.keep wire kept).then (.fill hf)
  | case4 state wire next kept _ loss wire' hf => exact (Onward.keep wire kept).then (.fill hf)

theorem onward_upTo {marker : Bytes} {limit : Int} {result : Except Loss (Option Bytes)}
    (h : upTo marker limit wire = (result, next)) : Onward (lossTraces result) wire next := by
  have := onward_await (scanUpTo marker limit) 0 wire
  rwa [← upTo, h] at this

theorem onward_exactly {n : Int} {result : Except Loss Bytes} (h : exactly n wire = (result, next)) :
    Onward (lossTraces result) wire next := by
  have := onward_await (scanExactly n) () wire
  rwa [← exactly, h] at this

theorem onward_skipBlankLines {result : Except Loss Unit} (h : skipBlankLines wire = (result, next)) :
    Onward (lossTraces result) wire next := by
  have := onward_await scanBlankLines () wire
  rwa [← skipBlankLines, h] at this

theorem onward_readChunks (bodyLimit : Int) (parts : List Bytes) (total : Nat) (wire : Wire) :
    Onward (stopTraces (readChunks bodyLimit parts total wire).1) wire
      (readChunks bodyLimit parts total wire).2 := by
  fun_induction readChunks bodyLimit parts total wire with
  | case1 parts total wire loss wire₁ hl => exact onward_upTo hl
  | case2 parts total wire wire₁ hl => exact onward_upTo hl
  | case3 parts total wire line wire₁ hl => exact onward_upTo hl
  | case4 parts total wire line wire₁ hl => exact onward_upTo hl
  | case5 parts total wire line wire₁ hl => exact onward_upTo hl
  | case6 parts total wire line wire₁ hl size _ _ _ loss wire₂ hc =>
    exact (onward_upTo hl).then (onward_exactly hc)
  | case7 parts total wire line wire₁ hl size _ _ _ chunk wire₂ hc =>
    exact (onward_upTo hl).then (onward_exactly hc)
  | case8 parts total wire line wire₁ hl size _ _ _ chunk wire₂ hc _ ih =>
    exact (((onward_upTo hl).then (onward_exactly hc)).then (.gather wire₂ _)).then ih

theorem onward_skipTrailers (lineLimit : Int) (wire : Wire) :
    Onward (stopTraces (skipTrailers lineLimit wire).1) wire (skipTrailers lineLimit wire).2 := by
  fun_induction skipTrailers lineLimit wire with
  | case1 wire loss wire₁ hl => exact onward_upTo hl
  | case2 wire wire₁ hl => exact onward_upTo hl
  | case3 wire line wire₁ hl => exact onward_upTo hl
  | case4 wire line wire₁ hl _ ih => exact (onward_upTo hl).then ih

theorem onward_readChunked {headLimit bodyLimit : Int} {result : Except Stop Bytes}
    (h : readChunked headLimit bodyLimit wire = (result, next)) :
    Onward (stopTraces result) wire next := by
  have hc := onward_readChunks bodyLimit [] 0 wire
  unfold readChunked at h
  split at h
  · rename_i he
    rw [he] at hc
    cases h
    exact hc
  · rename_i body wire₁ he
    have ht := onward_skipTrailers headLimit wire₁
    rw [he] at hc
    split at h
    all_goals
      rename_i hs
      rw [hs] at ht
      cases h
      exact hc.then ht

theorem onward_readHead {limits : Limits} {result : Except Stop (Request × Framing)}
    (h : readHead limits wire = (result, next)) : Onward (stopTraces result) wire next := by
  unfold readHead at h
  split at h
  · rename_i hs
    cases h
    exact onward_skipBlankLines hs
  · rename_i wire₁ hs
    have hw := onward_skipBlankLines hs
    split at h
    · rename_i hl
      cases h
      exact hw.then (onward_upTo hl)
    · rename_i hl
      cases h
      exact hw.then (onward_upTo hl)
    · rename_i hl
      split at h <;> cases h
      all_goals exact hw.then (onward_upTo hl)

theorem onward_readBody {limits : Limits} {framing : Framing} {result : Except Stop Bytes}
    (h : readBody limits framing wire = (result, next)) : Onward (stopTraces result) wire next := by
  unfold readBody at h
  split at h
  · exact onward_readChunked h
  · split at h <;> cases h
    all_goals
      rename_i he
      exact onward_exactly he

def leaveTo (request : Request) : List Act :=
  if Http.expectsLeave request then [.sent leave] else []

theorem leaveTo_cases (request : Request) :
    leaveTo request = [] ∨ leaveTo request = [.sent leave] := by
  unfold leaveTo
  split
  · exact .inr rfl
  · exact .inl rfl

theorem onward_giveLeave {request : Request} {result : Except Stop Unit}
    (h : giveLeave request wire = (result, next)) :
    Onward (match result with | .ok () => leaveTo request | .error stop => stop.traces) wire next := by
  unfold giveLeave at h
  split at h
  · rename_i he
    split at h <;> cases h
    all_goals
      rename_i hs
      simpa [leaveTo, he, sendTraces, Stop.traces, Loss.traces] using Onward.send hs
  · rename_i he
    cases h
    simpa [leaveTo, he] using Onward.refl wire

/-- Reading a request says at most the one thing that lets its client go on. -/
theorem onward_readRequest {limits : Limits} {result : Except Stop Request}
    (h : readRequest limits wire = (result, next)) :
    ∃ lead, (lead = [] ∨ lead = [.sent leave]) ∧ Onward (lead ++ stopTraces result) wire next := by
  unfold readRequest at h
  split at h
  · rename_i hh
    cases h
    exact ⟨[], .inl rfl, onward_readHead hh⟩
  · rename_i request framing wire₁ hh
    have hw := onward_readHead hh
    split at h
    · cases h
      exact ⟨[], .inl rfl, hw⟩
    · split at h
      · rename_i hl
        cases h
        exact ⟨[], .inl rfl, hw.then (onward_giveLeave hl)⟩
      · rename_i wire₂ hl
        have hd := hw.then (onward_giveLeave hl)
        split at h <;> cases h
        all_goals
          rename_i hb
          exact ⟨_, leaveTo_cases request, hd.trans (onward_readBody hb)⟩

end Wire

end FixedReply
