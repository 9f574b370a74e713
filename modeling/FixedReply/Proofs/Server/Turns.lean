import FixedReply.Proofs.Wire.Reading
import FixedReply.Server.Connection

namespace FixedReply

open Http (Request Response Fault Refusal)
open Wire (Supply Did Walk outcome leave)

def Lead (acts : List Act) : Prop := acts = [] ∨ acts = [.sent leave]

def Http.Fault.reply : Fault → List Act
  | refused why =>
    match why.problem.response.encode false with
    | .error _ => []
    | .ok bytes => [.sent bytes]
  | _ => []

theorem Lead.not_gaveUp {acts : List Act} (h : Lead acts) : .gaveUp ∉ acts := by
  rcases h with rfl | rfl <;> simp

theorem Http.Fault.reply_cases (fault : Fault) :
    fault.reply = [] ∨ ∃ data, fault.reply = [.sent data] := by
  unfold reply
  split
  · split
    · exact .inl rfl
    · exact .inr ⟨_, rfl⟩
  · exact .inl rfl

theorem Http.Fault.reply_not_gaveUp (fault : Fault) : .gaveUp ∉ fault.reply := by
  rcases fault.reply_cases with h | ⟨data, h⟩ <;> simp [h]

/-- After something is said, a request is refused for what it holds, or for a line in it that
straddles its limit. -/
def Refuses (limits : Limits) (bytes : Bytes) (said : List Act) (why : Refusal) : Prop :=
  outcome limits .start bytes = (said, .stopped (.refused why)) ∨
    ∃ stage left, Walk limits .start bytes said stage left ∧ stage.Strays limits left why

/-- After something is said, something else is to be sent before a handler is called: leave, or the
answer to a request that is refused. -/
inductive Owed (limits : Limits) (bytes : Bytes) (said : List Act) : Prop
  | lead {stage : Wire.Stage} {left : Bytes}
      (walk : Walk limits .start bytes (said ++ [.sent leave]) stage left) : Owed limits bytes said
  | refusal {why : Refusal} (hr : Refuses limits bytes said why) : Owed limits bytes said

namespace Connection

inductive Closing (supply : Supply) (limits : Limits) (bytes : Bytes) (wire final : Wire) : Prop
  | lost {said : List Act} (ho : outcome limits .start bytes = (said, .lost)) (hl : Lead said)
      (did : Did said wire final)
  | stopped {said : List Act} {why : Fault}
      (ho : outcome limits .start bytes = (said, .stopped why)) (hl : Lead said)
      (did : Did (said ++ why.reply) wire final)
  | strayed {said : List Act} {last : Wire.Stage} {left : Bytes} {why : Refusal} (h : supply.strays)
      (walk : Walk limits .start bytes said last left) (hs : last.Strays limits left why)
      (hl : Lead said) (did : Did (said ++ (Fault.refused why).reply) wire final)
  | unsent {said : List Act} (owed : Owed limits bytes said) (hm : final.Mute) (hl : Lead said)
      (did : Did said wire final)
  | expired {lead : List Act} (h : supply.expires) (hl : Lead lead)
      (did : Did (lead ++ [.gaveUp]) wire final)

inductive Turned (supply : Supply) (limits : Limits) (bytes : Bytes) (wire : Wire) : Turn → Prop
  | calls {said : List Act} {request : Request} {rest : Bytes} {next : Wire}
      (ho : outcome limits .start bytes = (said, .read request rest)) (hl : Lead said)
      (did : Did said wire next) (has : supply.Has next rest) :
      Turned supply limits bytes wire (.call request next)
  | closes {final : Wire} (records : List Record) (how : Closing supply limits bytes wire final) :
      Turned supply limits bytes wire (.close records final)
  | lacks {turn : Turn} {said : List Act} (h : supply.lacks)
      (ho : outcome limits .start bytes = (said, .lost)) : Turned supply limits bytes wire turn

variable {supply : Supply} {limits : Limits} {bytes : Bytes} {wire next : Wire}

theorem did_timed (wire : Wire) (since clock : Time) (deadline : Option Time) :
    Did [] wire { wire with since, clock, deadline } :=
  ⟨by simp [Wire.dialogue], rfl⟩

/-- A refusal is sent, unless sending fails. -/
theorem refuse_eq (why : Refusal) (wire : Wire) :
    ∃ records final, refuse why wire = .close records final ∧
      (Did (Fault.refused why).reply wire final ∨ final.Mute ∧ Did [] wire final) := by
  unfold refuse Fault.reply
  simp only
  cases why.problem.response.encode false with
  | error what => exact ⟨_, wire, rfl, .inl (.refl wire)⟩
  | ok reply =>
    dsimp only
    rcases Wire.send_eq wire reply with hs | ⟨hm, what, hs⟩ <;> rw [hs]
    · exact ⟨_, _, rfl, .inl (Wire.did_send hs)⟩
    · exact ⟨_, wire, rfl, .inr ⟨hm, .refl wire⟩⟩

/-- Only what is refused is answered. -/
theorem abandon_fault (why : Fault) {said : List Act} (did : Did said wire next) :
    ∃ records final, abandon (.fault why) next = .close records final ∧
      (Did (said ++ why.reply) wire final ∨
        (∃ refusal, why = .refused refusal) ∧ final.Mute ∧ Did said wire final) := by
  have hunanswered : Did (said ++ []) wire next := by rwa [List.append_nil]
  cases why with
  | refused why =>
    obtain ⟨records, final, ha, hd | ⟨hm, hd⟩⟩ := refuse_eq why next
    · exact ⟨records, final, ha, .inl (did.trans hd)⟩
    · exact ⟨records, final, ha, .inr ⟨⟨why, rfl⟩, hm, did.quiet hd⟩⟩
  | badAuthority why => exact ⟨_, next, rfl, .inl hunanswered⟩
  | tooManyDigits count => exact ⟨_, next, rfl, .inl hunanswered⟩

/-- What is not read to its end closes the connection. -/
theorem turned_abandon {stop : Stop} {lead : List Act} (hl : Lead lead)
    (hd : Did (lead ++ stop.traces) wire next)
    (hc : supply.Concluded limits .start bytes wire (.error stop, next)
      (outcome limits .start bytes)) :
    Turned supply limits bytes wire (abandon stop next.unhurried) := by
  have hu : Did [] next next.unhurried := did_timed next _ _ none
  have hsaid : ∀ {said : List Act}, stop.traces = [] → Did said wire next → said = lead := by
    intro said ht did
    rw [ht, List.append_nil] at hd
    exact did.unique hd
  generalize ho : outcome limits .start bytes = out at hc
  cases hc with
  | @stopped said why _ did he =>
    cases he
    obtain rfl := hsaid rfl did
    obtain ⟨records, final, ha, hf | ⟨⟨refusal, rfl⟩, hm, hf⟩⟩ := abandon_fault why (did.quiet hu)
    · exact ha ▸ .closes records (.stopped ho hl hf)
    · exact ha ▸ .closes records (.unsent (.refusal (.inl ho)) hm hl hf)
  | read _ did has he => cases he
  | lost _ did hne he =>
    cases he
    obtain rfl := hsaid (Loss.traces_of_ne hne) did
    exact .closes _ (.lost ho hl (did.quiet hu))
  | lacking h => exact .lacks h ho
  | expired h he =>
    cases he
    exact .closes _ (.expired h hl (hd.quiet hu))
  | unsent walk _ did hm he =>
    cases he
    obtain rfl := hsaid rfl did
    exact .closes _ (.unsent (.lead walk) hm hl (did.quiet hu))
  | @strayed _ said last left why h walk hs _ did he =>
    cases he
    obtain rfl := hsaid rfl did
    obtain ⟨records, final, ha, hf | ⟨-, hm, hf⟩⟩ := abandon_fault (.refused why) (did.quiet hu)
    · exact ha ▸ .closes records (.strayed h walk hs hl hf)
    · exact ha ▸ .closes records (.unsent (.refusal (.inr ⟨last, left, walk, hs⟩)) hm hl hf)

theorem Concluded.back {before : Wire} {outcome : List Act × Wire.Verdict}
    {result : Except Stop Request × Wire} (hw : Did [] before wire)
    (hc : supply.Concluded limits .start bytes wire result outcome) :
    supply.Concluded limits .start bytes before result outcome := by
  cases hc with
  | read last did has he => exact .read last (hw.then did) has he
  | stopped last did he => exact .stopped last (hw.then did) he
  | lost last did hl he => exact .lost last (hw.then did) hl he
  | lacking h => exact .lacking h
  | expired h he => exact .expired h he
  | unsent walk last did hm he => exact .unsent walk last (hw.then did) hm he
  | strayed h walk hs last did he => exact .strayed h walk hs last (hw.then did) he

/-- A turn goes as the reading of its request is concluded. -/
theorem turned_of_concluded (terms : Terms)
    (hc : supply.Concluded terms.limits .start bytes wire
      ((wire.within terms.readTimeout).readRequest terms.limits)
      (outcome terms.limits .start bytes)) :
    Turned supply terms.limits bytes wire (readTurn terms wire) := by
  have hw : Did [] wire (wire.within terms.readTimeout) := did_timed wire _ _ _
  unfold readTurn
  cases hr : (wire.within terms.readTimeout).readRequest terms.limits with
  | mk result next =>
    obtain ⟨lead, hl, onward⟩ := Wire.onward_readRequest hr
    have hd' := hw.then onward.did
    rw [hr] at hc
    cases result with
    | error stop => exact turned_abandon hl hd' hc
    | ok request =>
      generalize ho : outcome terms.limits .start bytes = out at hc
      cases hc with
      | read _ did has he =>
        cases he
        obtain rfl := did.unique (by simpa [Wire.stopTraces] using hd')
        exact .calls ho hl (did.quiet (did_timed next _ _ none)) (supply.timed has _ _ none)
      | lacking h => exact .lacks h ho
      | stopped _ _ he => cases he
      | lost _ _ _ he => cases he
      | expired _ he => cases he
      | unsent _ _ _ _ he => cases he
      | strayed _ _ _ _ _ he => cases he

theorem turned_readTurn (terms : Terms) (h : supply.Has wire bytes) :
    Turned supply terms.limits bytes wire (readTurn terms wire) :=
  turned_of_concluded terms (Concluded.back (did_timed wire _ _ _)
    (supply.conclude (supply.timed h _ _ _) .start))

theorem outcome_nil (limits : Limits) : outcome limits .start [] = ([], .lost) :=
  Wire.outcome_none rfl

theorem Turned.back {before : Wire} {turn : Turn} (hw : Did [] before wire)
    (ht : Turned supply limits bytes wire turn) : Turned supply limits bytes before turn := by
  cases ht with
  | calls ho hl did has => exact .calls ho hl (hw.then did) has
  | lacks h ho => exact .lacks h ho
  | closes records how =>
    refine .closes records ?_
    cases how with
    | lost ho hl did => exact .lost ho hl (hw.then did)
    | stopped ho hl did => exact .stopped ho hl (hw.then did)
    | strayed h walk hs hl did => exact .strayed h walk hs hl (hw.then did)
    | unsent owed hm hl did => exact .unsent owed hm hl (hw.then did)
    | expired h hl did => exact .expired h hl (hw.then did)

/-- To wait for the next request is to read it, save that there may be none. -/
theorem turned_nextTurn (terms : Terms) (h : supply.Has wire bytes) :
    Turned supply terms.limits bytes wire (nextTurn terms wire) := by
  unfold nextTurn
  split
  · rename_i hb
    have hw : Did [] wire (wire.within terms.idleTimeout) := did_timed wire _ _ _
    have hh : supply.Has (wire.within terms.idleTimeout) bytes := supply.timed h _ _ _
    rcases supply.fill hh (List.isEmpty_iff.mp hb) with ⟨hlk, hn⟩ | hf
    · subst hn
      exact .lacks hlk (outcome_nil _)
    · cases he : (wire.within terms.idleTimeout).fill with
      | mk result next =>
        have hd := hw.then (Wire.did_fill he)
        have hu : Did [] next next.unhurried := did_timed next _ _ none
        rw [he] at hf
        cases hf with
        | more has => exact Turned.back (hd.then hu) (turned_readTurn terms (supply.timed has _ _ none))
        | ended hn =>
          subst hn
          exact .closes [] (.lost (outcome_nil _) (.inl rfl) (hd.then hu))
        | lost hn hl =>
          subst hn
          rw [Wire.lossTraces, Loss.traces_of_ne hl] at hd
          exact .closes _ (.lost (outcome_nil _) (.inl rfl) (hd.then hu))
        | expired hx => exact .closes _ (.expired hx (.inl rfl) (hd.quiet hu))
  · exact turned_readTurn terms h

inductive Replied (supply : Supply) (limits : Limits) (request : Request) (response : Response)
    (bytes : Bytes) (wire : Wire) : Turn → Prop
  | unencodable {what : Text.Unencodable} (he : answer request response = .error what)
      (records : List Record) : Replied supply limits request response bytes wire (.close records wire)
  | unsent (hm : wire.Mute) (records : List Record) :
      Replied supply limits request response bytes wire (.close records wire)
  | last {data : Bytes} {final : Wire} (he : answer request response = .ok data)
      (hk : request.keepAlive = false) (did : Did [.sent data] wire final) (records : List Record) :
      Replied supply limits request response bytes wire (.close records final)
  | on {data : Bytes} {next : Wire} {turn : Turn} (he : answer request response = .ok data)
      (hk : request.keepAlive = true) (did : Did [.sent data] wire next)
      (turned : Turned supply limits bytes next turn) :
      Replied supply limits request response bytes wire turn

theorem replied (terms : Terms) (request : Request) (response : Response)
    (h : supply.Has wire bytes) :
    Replied supply terms.limits request response bytes wire (reply terms request response wire) := by
  unfold reply
  cases he : answer request response with
  | error what => exact .unencodable he _
  | ok data =>
    rcases Wire.send_eq wire data with hs | ⟨hf, what, hs⟩
    · dsimp only
      rw [hs]
      have did : Did [.sent data] wire (wire.note (.sent data)) := Wire.did_send hs
      by_cases hk : request.keepAlive
      · simp only [hk, ↓reduceIte]
        exact .on he hk did (turned_nextTurn terms (supply.note h _))
      · simp only [hk, ↓reduceIte, Bool.false_eq_true]
        exact .last he (by simpa using hk) did []
    · dsimp only
      rw [hs]
      exact .unsent hf _

end Connection

end FixedReply
