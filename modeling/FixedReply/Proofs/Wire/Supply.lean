import FixedReply.Proofs.Wire.Stages

namespace FixedReply

open Http (Request Fault Refusal)

theorem Loss.traces_of_ne {loss : Loss} (h : loss ≠ .expired) : loss.traces = [] := by
  cases loss with
  | expired => exact absurd rfl h
  | _ => rfl

namespace Wire

variable {σ α : Type}

/-- What is not lost at a deadline leaves no trace. -/
theorem lossTraces_of_ne {result : Except Loss α} (h : result ≠ .error .expired) :
    lossTraces result = [] := by
  cases result with
  | ok => rfl
  | error loss => exact Loss.traces_of_ne fun he => h (congrArg _ he)

theorem stopTraces_of_ne {result : Except Stop α} (h : result ≠ .error (.lost .expired)) :
    stopTraces result = [] := by
  rcases result with (why | loss) | a
  · rfl
  · exact Loss.traces_of_ne fun he => h (congrArg (Except.error ∘ Stop.lost) he)
  · rfl

/-- A wire that has some bytes comes to what a scan of these bytes comes to, if it is one that may
expire or lack bytes only where the flags allow it. -/
inductive Comes (Has : Wire → Bytes → Prop) (expires lacks : Prop) :
    Scan σ α → Except Loss α × Wire → Prop
  | found {a : α} {rest : Bytes} {next : Wire} (has : Has next rest) :
      Comes Has expires lacks (.found a rest) (.ok a, next)
  | lost {state : σ} {kept : Bytes} {loss : Loss} {next : Wire} (hl : loss ≠ .expired) :
      Comes Has expires lacks (.wanting state kept) (.error loss, next)
  | expired {scan : Scan σ α} {next : Wire} (h : expires) :
      Comes Has expires lacks scan (.error .expired, next)
  | lacking {state : σ} {kept : Bytes} {result : Except Loss α × Wire} (h : lacks) :
      Comes Has expires lacks (.wanting state kept) result

inductive Filled (Has : Wire → Bytes → Prop) (expires : Prop) (bytes : Bytes) :
    Except Loss Bool × Wire → Prop
  | more {next : Wire} (has : Has next bytes) : Filled Has expires bytes (.ok true, next)
  | ended {next : Wire} (hb : bytes = []) : Filled Has expires bytes (.ok false, next)
  | lost {loss : Loss} {next : Wire} (hb : bytes = []) (hl : loss ≠ .expired) :
      Filled Has expires bytes (.error loss, next)
  | expired {next : Wire} (h : expires) : Filled Has expires bytes (.error .expired, next)

/-- What it means that a wire has some bytes, and how the readers fare then. -/
structure Supply where
  Has : Wire → Bytes → Prop
  expires : Prop
  lacks : Prop
  strays : Prop
  note {wire : Wire} {bytes : Bytes} (h : Has wire bytes) (act : Act) : Has (wire.note act) bytes
  gather {wire : Wire} {bytes : Bytes} (h : Has wire bytes) (count : Nat) :
    Has (wire.gather count) bytes
  timed {wire : Wire} {bytes : Bytes} (h : Has wire bytes) (since clock : Time)
    (deadline : Option Time) : Has { wire with since, clock, deadline } bytes
  fill {wire : Wire} {bytes : Bytes} (h : Has wire bytes) (hb : wire.buffer = []) :
    (lacks ∧ bytes = []) ∨ Filled Has expires bytes wire.fill
  skip {wire : Wire} {bytes : Bytes} (h : Has wire bytes) :
    Comes Has expires lacks (scanBlankLines () bytes) (skipBlankLines wire)
  block {wire : Wire} {bytes : Bytes} (h : Has wire bytes) (n : Nat) :
    Comes Has expires lacks (scanExactly n () bytes) (exactly n wire)
  line {wire : Wire} {bytes marker : Bytes} (h : Has wire bytes) (hm : marker ≠ []) (limit : Int) :
    Comes Has expires lacks (scanUpTo marker limit 0 bytes) (upTo marker limit wire) ∨
      strays ∧ Straddles marker limit bytes ∧ (upTo marker limit wire).1 = .ok none

namespace Supply

inductive Met (supply : Supply) (limits : Limits) (stage : Stage) (bytes : Bytes) (wire : Wire)
    (result : Except Stop Request × Wire) : Option (Move × Bytes) → Prop
  | goes {said : List Act} {later : Stage} {rest : Bytes} (next : Wire) (did : Did said wire next)
      (has : supply.Has next rest) (he : result = later.read limits next) :
      Met supply limits stage bytes wire result (some (.goes said later, rest))
  | ends {request : Request} {rest : Bytes} (next : Wire) (did : Did [] wire next)
      (has : supply.Has next rest) (he : result = (.ok request, next)) :
      Met supply limits stage bytes wire result (some (.ends request, rest))
  | stops {why : Fault} {rest : Bytes} (next : Wire) (did : Did [] wire next)
      (he : result = (.error (.fault why), next)) :
      Met supply limits stage bytes wire result (some (.stops why, rest))
  | lost {loss : Loss} (next : Wire) (did : Did [] wire next) (hl : loss ≠ .expired)
      (he : result = (.error (.lost loss), next)) :
      Met supply limits stage bytes wire result none
  | lacking (h : supply.lacks) : Met supply limits stage bytes wire result none
  | expired {move : Option (Move × Bytes)} (h : supply.expires)
      (he : result.1 = .error (.lost .expired)) :
      Met supply limits stage bytes wire result move
  | unsent {later : Stage} {rest : Bytes} {what : Failures} (next : Wire) (did : Did [] wire next)
      (hm : next.Mute) (he : result = (.error (.lost (.broken what)), next)) :
      Met supply limits stage bytes wire result (some (.goes [.sent leave] later, rest))
  | strayed {move : Option (Move × Bytes)} {why : Refusal} (h : supply.strays)
      (hs : stage.Strays limits bytes why) (next : Wire) (did : Did [] wire next)
      (he : result = (.error (.refused why), next)) :
      Met supply limits stage bytes wire result move

variable (supply : Supply) {limits : Limits} {wire next : Wire} {bytes rest : Bytes} {request : Request}

/-- A move that follows a scan is made as the scan comes out. -/
theorem Met.andThen {σ α : Type} {stage : Stage} {scan : Scan σ α} {taken : Except Loss α × Wire}
    {after : α → Move} {onward : α → Wire → Except Stop Request × Wire}
    (hc : Comes supply.Has supply.expires supply.lacks scan taken)
    (did : Did (lossTraces taken.1) wire taken.2)
    (hfound : ∀ a rest next, Did [] wire next → supply.Has next rest →
      supply.Met limits stage bytes wire (onward a next) (some (after a, rest))) :
    supply.Met limits stage bytes wire (Wire.andThen taken onward) (scan.move? after) := by
  cases hc with
  | found has => exact hfound _ _ _ did has
  | lost hl =>
    rw [lossTraces, Loss.traces_of_ne hl] at did
    exact .lost _ did hl rfl
  | expired h => exact .expired h rfl
  | lacking h => exact .lacking h

/-- A move that follows a line is made as the line comes out, or the line strays. -/
theorem Met.line {stage : Stage} (why : Refusal) {marker : Bytes} (hm : marker ≠ []) {limit : Int}
    (h : supply.Has wire bytes)
    (hs : Straddles marker limit bytes → stage.Strays limits bytes why)
    {after : Option Bytes → Move} {onward : Option Bytes → Wire → Except Stop Request × Wire}
    (ha : after none = .stops (.refused why))
    (ho : ∀ next, onward none next = (.error (.refused why), next))
    (hfound : ∀ line rest next, Did [] wire next → supply.Has next rest →
      supply.Met limits stage bytes wire (onward (some line) next)
        (some (after (some line), rest))) :
    supply.Met limits stage bytes wire (Wire.andThen (upTo marker limit wire) onward)
      ((scanUpTo marker limit 0 bytes).move? after) := by
  have did : Did (lossTraces (upTo marker limit wire).1) wire (upTo marker limit wire).2 :=
    (onward_upTo rfl).did
  rcases supply.line h hm limit with hc | ⟨hx, hst, hn⟩
  · apply Met.andThen supply hc did
    intro line rest next hd has
    cases line with
    | none =>
      rw [ha, ho]
      exact .stops next hd rfl
    | some line => exact hfound line rest next hd has
  · cases ht : upTo marker limit wire with
    | mk taken next =>
      rw [ht] at hn did
      dsimp only at hn
      subst hn
      exact .strayed hx (hs hst) next did (ho next)

theorem met_block (h : supply.Has wire bytes) (n : Nat) :
    supply.Met limits (.block request n) bytes wire ((Stage.block request n).read limits wire)
      ((Stage.block request n).step limits bytes) := by
  apply Met.andThen supply (supply.block h n) (onward_exactly rfl).did
  intro body rest next hd has
  exact .ends next hd has rfl

theorem met_trailers (h : supply.Has wire bytes) (body : Bytes) :
    supply.Met limits (.trailers request body) bytes wire
      ((Stage.trailers request body).read limits wire)
      ((Stage.trailers request body).step limits bytes) := by
  rw [Stage.read_trailers]
  refine Met.line supply .trailersTooLarge (by simp [Bytes.crlf]) h .trailer
    rfl (fun _ => rfl) ?_
  intro line rest next hd has
  dsimp only [Stage.afterTrailer]
  by_cases hl : line.isEmpty
  · simp only [hl, ↓reduceIte]
    exact .ends next hd has rfl
  · simp only [hl, ↓reduceIte, Bool.false_eq_true]
    exact .goes next hd has rfl

theorem met_sizes (h : supply.Has wire bytes) (parts : List Bytes) (total : Nat) :
    supply.Met limits (.sizes request parts total) bytes wire
      ((Stage.sizes request parts total).read limits wire)
      ((Stage.sizes request parts total).step limits bytes) := by
  rw [Stage.read_sizes]
  refine Met.line supply .sizeLineTooLong (by simp [Bytes.crlf]) h .size
    rfl (fun _ => rfl) ?_
  intro line rest next hd has
  dsimp only [Stage.afterSize]
  rcases chunkSize? line with _ | _ | size
  · exact .stops next hd rfl
  · exact .goes next hd has rfl
  · simp only [Stage.measure]
    by_cases hb : limits.body < total + (size + 1 : Nat)
    · rw [if_pos hb, if_pos hb]
      exact .stops next hd rfl
    · rw [if_neg hb, if_neg hb]
      exact .goes next hd has rfl

theorem met_chunk (h : supply.Has wire bytes) (parts : List Bytes) (total size : Nat) :
    supply.Met limits (.chunk request parts total size) bytes wire
      ((Stage.chunk request parts total size).read limits wire)
      ((Stage.chunk request parts total size).step limits bytes) := by
  apply Met.andThen supply (supply.block h _) (onward_exactly rfl).did
  intro chunk rest next hd has
  dsimp only [Stage.afterChunk]
  by_cases hc : chunk.drop size ≠ Bytes.crlf
  · rw [if_pos hc, if_pos hc]
    exact .stops next hd rfl
  · rw [if_neg hc, if_neg hc]
    exact .goes _ (hd.then (did_gather next _)) (supply.gather has _) rfl

theorem met_start (h : supply.Has wire bytes) :
    supply.Met limits .start bytes wire (Stage.start.read limits wire)
      (Stage.start.step limits bytes) := by
  rw [Stage.read_start]
  apply Met.andThen supply (supply.skip h) (onward_skipBlankLines rfl).did
  intro _ rest next hd has
  exact .goes next hd has rfl

/-- To give leave is to say so, if the sending does not fail. -/
theorem giveLeave_eq (request : Request) (wire : Wire) :
    (giveLeave request wire = (.ok (), wire) ∧ leaveTo request = []) ∨
      (giveLeave request wire = (.ok (), wire.note (.sent leave)) ∧
        leaveTo request = [.sent leave]) ∨
      (wire.Mute ∧ leaveTo request = [.sent leave] ∧
        ∃ what, giveLeave request wire = (.error (.lost (.broken what)), wire)) := by
  unfold giveLeave leaveTo
  split
  · rcases send_eq wire leave with hs | ⟨hf, what, hs⟩
    · exact .inr (.inl ⟨by rw [hs], rfl⟩)
    · exact .inr (.inr ⟨hf, rfl, what, by rw [hs]⟩)
  · exact .inl ⟨rfl, rfl⟩

theorem begin_goes (limits : Limits) (request : Request) {framing : Http.Framing} (hf : framing ≠ .sized 0) :
    ∃ later, Stage.begin request framing = .goes (leaveTo request) later ∧
      ∀ wire, Stage.readRest limits request framing wire = match giveLeave request wire with
        | (.error stop, wire) => (.error stop, wire)
        | (.ok (), wire) => later.read limits wire := by
  rcases framing with _ | _ | n
  · exact ⟨_, rfl, fun _ => rfl⟩
  · exact absurd rfl hf
  · exact ⟨_, rfl, fun _ => rfl⟩

/-- What follows a head begins with the leave that its client may wait for. -/
theorem met_rest (hd : Did [] wire next) (has : supply.Has next rest) (framing : Http.Framing) :
    supply.Met limits .head bytes wire (Stage.readRest limits request framing next)
      (some (Stage.begin request framing, rest)) := by
  by_cases hf : framing = .sized 0
  · subst hf
    exact .ends next hd has rfl
  · obtain ⟨later, hb, hr⟩ := begin_goes limits request hf
    rw [hb, hr]
    rcases giveLeave_eq request next with ⟨hg, hs⟩ | ⟨hg, hs⟩ | ⟨hm, hs, what, hg⟩ <;> rw [hg, hs]
    · exact .goes next hd has rfl
    · have hd' : Did [.sent leave] wire (next.note (.sent leave)) :=
        hd.then ⟨by simp [dialogue_note, Act.isReception], rfl⟩
      exact .goes _ hd' (supply.note has _) rfl
    · exact .unsent next hd hm rfl

theorem met_head (h : supply.Has wire bytes) :
    supply.Met limits .head bytes wire (Stage.head.read limits wire)
      (Stage.head.step limits bytes) := by
  refine Met.line supply .headTooLarge (by simp [blankLine, Bytes.crlf]) h .head
    rfl (fun _ => rfl) ?_
  intro text rest next hd has
  dsimp only [Stage.afterHead]
  rcases understand limits text with why | ⟨request, framing⟩
  · exact .stops next hd rfl
  · exact met_rest supply hd has framing

/-- Whatever a wire has, its reading goes on as the stage says, or falls short in a way that the
supply allows. -/
theorem met (h : supply.Has wire bytes) (stage : Stage) :
    supply.Met limits stage bytes wire (stage.read limits wire) (stage.step limits bytes) := by
  cases stage with
  | start => exact met_start supply h
  | head => exact met_head supply h
  | block request n => exact met_block supply h n
  | sizes request parts total => exact met_sizes supply h parts total
  | chunk request parts total size => exact met_chunk supply h parts total size
  | trailers request body => exact met_trailers supply h body

end Supply

end Wire

end FixedReply
