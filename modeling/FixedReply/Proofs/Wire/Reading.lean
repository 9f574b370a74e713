import FixedReply.Proofs.Wire.Outcome

namespace FixedReply.Wire

open Http (Request Fault Refusal)

namespace Supply

/-- How the reading on a wire ends when on its bytes it has this outcome. -/
inductive Concluded (supply : Supply) (limits : Limits) (stage : Stage) (bytes : Bytes) (wire : Wire)
    (result : Except Stop Request × Wire) : List Act × Verdict → Prop
  | read {acts : List Act} {request : Request} {rest : Bytes} (next : Wire)
      (did : Did acts wire next) (has : supply.Has next rest) (he : result = (.ok request, next)) :
      Concluded supply limits stage bytes wire result (acts, .read request rest)
  | stopped {acts : List Act} {why : Fault} (next : Wire) (did : Did acts wire next)
      (he : result = (.error (.fault why), next)) :
      Concluded supply limits stage bytes wire result (acts, .stopped why)
  | lost {acts : List Act} {loss : Loss} (next : Wire) (did : Did acts wire next)
      (hl : loss ≠ .expired) (he : result = (.error (.lost loss), next)) :
      Concluded supply limits stage bytes wire result (acts, .lost)
  | lacking {acts : List Act} (h : supply.lacks) :
      Concluded supply limits stage bytes wire result (acts, .lost)
  | expired {outcome : List Act × Verdict} (h : supply.expires)
      (he : result.1 = .error (.lost .expired)) :
      Concluded supply limits stage bytes wire result outcome
  | unsent {outcome : List Act × Verdict} {said : List Act} {later : Stage} {left : Bytes}
      {what : Failures} (walk : Walk limits stage bytes (said ++ [.sent leave]) later left)
      (next : Wire) (did : Did said wire next) (hm : next.Mute)
      (he : result = (.error (.lost (.broken what)), next)) :
      Concluded supply limits stage bytes wire result outcome
  | strayed {outcome : List Act × Verdict} {said : List Act} {last : Stage} {left : Bytes}
      {why : Refusal} (h : supply.strays) (walk : Walk limits stage bytes said last left)
      (hs : last.Strays limits left why) (next : Wire) (did : Did said wire next)
      (he : result = (.error (.refused why), next)) :
      Concluded supply limits stage bytes wire result outcome

variable (supply : Supply) {limits : Limits} {wire next : Wire} {stage later : Stage}
  {bytes rest : Bytes} {said : List Act} {result : Except Stop Request × Wire}

/-- What is concluded after a move is concluded before it. -/
theorem Concluded.goes {outcome : List Act × Verdict}
    (hc : supply.Concluded limits later rest next result outcome)
    (step : stage.step limits bytes = some (.goes said later, rest)) (did : Did said wire next) :
    supply.Concluded limits stage bytes wire result (said ++ outcome.1, outcome.2) := by
  cases hc with
  | read last did' has he => exact .read last (did.trans did') has he
  | stopped last did' he => exact .stopped last (did.trans did') he
  | lost last did' hl he => exact .lost last (did.trans did') hl he
  | lacking h => exact .lacking h
  | expired h he => exact .expired h he
  | unsent walk last did' hm he =>
    have hwalk := Walk.on step walk
    rw [← List.append_assoc] at hwalk
    exact .unsent hwalk last (did.trans did') hm he
  | strayed h walk hs last did' he => exact .strayed h (.on step walk) hs last (did.trans did') he

/-- A stage concludes as the stages after it do. -/
theorem Concluded.of_met (hm : supply.Met limits stage bytes wire result (stage.step limits bytes))
    (ih : ∀ {said later rest next}, stage.step limits bytes = some (.goes said later, rest) →
      supply.Has next rest →
        supply.Concluded limits later rest next (later.read limits next)
          (outcome limits later rest)) :
    supply.Concluded limits stage bytes wire result (outcome limits stage bytes) := by
  generalize hs : stage.step limits bytes = move at hm
  cases hm with
  | goes next did has he =>
    subst he
    rw [outcome_goes hs]
    exact Concluded.goes supply (ih hs has) hs did
  | ends next did has he =>
    rw [outcome_ends hs]
    exact .read next did has he
  | stops next did he =>
    rw [outcome_stops hs]
    exact .stopped next did he
  | lost next did hl he =>
    rw [outcome_none hs]
    exact .lost next did hl he
  | lacking hl =>
    rw [outcome_none hs]
    exact .lacking hl
  | expired hx he => exact .expired hx he
  | @unsent later rest what next did hm he =>
    have walk : Walk limits stage bytes ([] ++ [.sent leave]) later rest := by
      simpa using Walk.on hs (.here later rest)
    exact .unsent walk next did hm he
  | strayed hx hs next did he => exact .strayed hx (.here stage bytes) hs next did he

/-- Whatever a wire has, its reading comes to the outcome of these bytes, or falls short in a way
that the supply allows. -/
theorem conclude (h : supply.Has wire bytes) (stage : Stage) :
    supply.Concluded limits stage bytes wire (stage.read limits wire)
      (outcome limits stage bytes) := by
  induction hw : stage.weight bytes using Nat.strongRecOn generalizing stage bytes wire with
  | ind weight ih =>
    apply Concluded.of_met supply (supply.met h stage)
    intro said later rest next hs has
    exact ih _ (hw ▸ Stage.weight_of_step hs) has later rfl

end Supply

theorem comes_of_awaited {σ α : Type} {scan : Scan σ α} {taken : Except Loss α × Wire}
    (h : taken.1 = .error .expired ∨ Awaited scan taken) :
    Comes (fun wire bytes => wire.ahead = bytes) True False scan taken := by
  rcases h with h | h
  · obtain ⟨result, next⟩ := taken
    dsimp only at h
    subst h
    exact .expired trivial
  · cases h with
    | found hn => exact .found hn
    | lost hl => exact .lost hl

def whole : Supply where
  Has wire bytes := wire.ahead = bytes
  expires := True
  lacks := False
  strays := True
  note h _ := h
  gather h _ := h
  timed h _ _ _ := h
  fill := by
    intro wire bytes he hb
    subst he
    right
    have hnone : upcoming wire.inbox = [] → wire.ahead = [] := fun hu => by rw [ahead, hb, hu]; rfl
    cases he : wire.fill with
    | mk result next =>
      rcases result with loss | _ | _
      · rcases fill_loss he with rfl | hu
        · exact .expired trivial
        · by_cases hl : loss = .expired
          · exact hl ▸ .expired trivial
          · exact .lost (hnone hu) hl
      · exact .ended (hnone (fill_end he))
      · obtain ⟨piece, -, hn, hu⟩ := fill_more he
        exact .more (by rw [ahead, ahead, hn, hu, List.append_assoc])
  skip := by
    intro wire bytes he
    subst he
    exact comes_of_awaited (skipBlankLines_ahead wire)
  block := by
    intro wire bytes he n
    subst he
    exact comes_of_awaited (exactly_ahead n wire)
  line := by
    intro wire bytes marker he hm limit
    subst he
    rcases upTo_ahead hm limit wire with h | h | ⟨hs, hn⟩
    · exact .inl (comes_of_awaited (.inl h))
    · exact .inl (comes_of_awaited (.inr h))
    · exact .inr ⟨trivial, hs, hn⟩

end FixedReply.Wire
