import FixedReply.Proofs.Http.Encodable
import FixedReply.Proofs.Server.Course
import FixedReply.Service

namespace FixedReply

open Http (Request Response Refusal)
open Wire (Supply Did Stage Walk outcome)
open Connection (responseTo answer)

/-- What is done with a connection on which these bytes come before its end. -/
def conversation (limits : Limits) (handler : Handler) (bytes : Bytes) : List Act :=
  match _outcome : outcome limits .start bytes with
  | (said, .lost) => said
  | (said, .stopped why) => said ++ why.reply
  | (said, .read request rest) =>
    said ++ .called request ::
      match answer request (responseTo (handler request).outcome) with
      | .error _ => []
      | .ok data =>
        .sent data :: if request.keepAlive then conversation limits handler rest else []
termination_by bytes.length
decreasing_by exact Wire.length_of_outcome (by rw [_outcome])

theorem reply_refused {why : Refusal} {data : Bytes} (h : why.AnsweredBy data) :
    (Http.Fault.refused why).reply = [.sent data] := by
  simp only [Http.Fault.reply, h.encoded]

def Handler.Plain (handler : Handler) : Prop :=
  ∀ request response, (handler request).outcome = .ok response → response.headers.Plain

/-- With plain fields every request can be answered, also where the handler fails. -/
theorem Handler.Plain.answers {handler : Handler} (h : handler.Plain) (request : Request) :
    ∃ data, answer request (responseTo (handler request).outcome) = .ok data := by
  refine Response.encodes ?_ _ _ _
  cases he : (handler request).outcome with
  | ok response => exact h request response he
  | error what => exact Response.plain_text _ _ _

theorem Service.plain_fixedHandler : Service.fixedHandler.Plain := by
  intro request response he
  cases he
  exact (by decide : ∀ e ∈ fixedResponse.headers.entries, Below 128 e.1.toList ∧ Below 256 e.2.toList)

variable {supply : Supply} {limits : Limits} {handler : Handler} {bytes rest data : Bytes}
  {wire final : Wire} {said : List Act} {request : Request}

theorem conversation_lost (ho : outcome limits .start bytes = (said, .lost)) :
    conversation limits handler bytes = said := by
  rw [conversation]
  split <;> simp_all

theorem conversation_stopped {why : Http.Fault}
    (ho : outcome limits .start bytes = (said, .stopped why)) :
    conversation limits handler bytes = said ++ why.reply := by
  rw [conversation]
  split <;> simp_all

theorem conversation_read (ho : outcome limits .start bytes = (said, .read request rest)) :
    conversation limits handler bytes =
      said ++ .called request ::
        match answer request (responseTo (handler request).outcome) with
        | .error _ => []
        | .ok data =>
          .sent data :: if request.keepAlive then conversation limits handler rest else [] := by
  rw [conversation]
  split <;> simp_all

inductive Reached (limits : Limits) (handler : Handler) : Bytes → List Act → Bytes → Prop
  | here (bytes : Bytes) : Reached limits handler bytes [] bytes
  | after {bytes rest left data : Bytes} {said acts : List Act} {request : Request}
      (ho : outcome limits .start bytes = (said, .read request rest))
      (he : answer request (responseTo (handler request).outcome) = .ok data)
      (hk : request.keepAlive = true) (onward : Reached limits handler rest acts left) :
      Reached limits handler bytes (said ++ .called request :: .sent data :: acts) left

theorem Reached.conversation {acts : List Act} {left : Bytes}
    (h : Reached limits handler bytes acts left) :
    FixedReply.conversation limits handler bytes =
      acts ++ FixedReply.conversation limits handler left := by
  induction h with
  | here => rfl
  | after ho he hk onward ih =>
    rw [conversation_read ho, he, hk, ih]
    simp

theorem Reached.suffix {acts : List Act} {left : Bytes}
    (h : Reached limits handler bytes acts left) : left <:+ bytes := by
  induction h with
  | here => exact List.suffix_refl _
  | after ho _ _ _ ih => exact ih.trans (Wire.suffix_of_outcome (congrArg Prod.snd ho))

/-- A conversation that comes to a refusal lacks nothing on the way to it. -/
theorem Reached.not_lost {acts : List Act} {left : Bytes} {why : Http.Fault}
    (h : Reached limits handler bytes acts left)
    (ho : outcome limits .start left = (said, .stopped why)) {acts' : List Act} {left' : Bytes}
    (h' : Reached limits handler bytes acts' left') :
    (outcome limits .start left').2 ≠ .lost := by
  induction h generalizing acts' left' with
  | here bytes =>
    cases h' with
    | here => simp [ho]
    | after ho' =>
      rw [ho] at ho'
      cases ho'
  | after hr he hk onward ih =>
    cases h' with
    | here => simp [hr]
    | after hr' he' hk' onward' =>
      rw [hr] at hr'
      cases hr'
      exact ih ho onward'

/-- In a conversation no wait is given up. -/
theorem gaveUp_conversation (limits : Limits) (handler : Handler) (bytes : Bytes) :
    .gaveUp ∉ conversation limits handler bytes := by
  have hsaid : ∀ {bytes : Bytes} {said : List Act} {verdict : Wire.Verdict},
      outcome limits .start bytes = (said, verdict) → .gaveUp ∉ said := by
    intro bytes said verdict ho hm
    have hout : Act.gaveUp ∈ (outcome limits .start bytes).1 := by rwa [ho]
    cases Wire.leave_of_outcome hout
  fun_induction conversation limits handler bytes with
  | case1 bytes said ho => exact hsaid ho
  | case2 bytes said why ho =>
    rw [List.mem_append, not_or]
    exact ⟨hsaid ho, why.reply_not_gaveUp⟩
  | case3 bytes said request rest ho ih =>
    rw [List.mem_append, not_or]
    refine ⟨hsaid ho, ?_⟩
    cases he : answer request (responseTo (handler request).outcome) with
    | error what => simp
    | ok data =>
      by_cases hk : request.keepAlive
      · simpa [hk] using ih
      · simp [hk]

/-- Where a line of a request may be refused because it straddles its limit, the request comes to the
same answer in any case. -/
def Settled (limits : Limits) (bytes : Bytes) : Prop :=
  ∀ said stage left why, Walk limits .start bytes said stage left → stage.Strays limits left why →
    ∃ fault, outcome limits stage left = ([], .stopped fault) ∧
      fault.reply = (Http.Fault.refused why).reply

/-- A connection on which nothing fails holds the conversation of its bytes. -/
theorem Course.dialogue (course : Course supply limits handler bytes wire final)
    (hf : wire.sendFault = none)
    (hlk : supply.lacks → ∀ acts left, Reached limits handler bytes acts left →
      (outcome limits .start left).2 ≠ .lost)
    (hx : supply.expires → .gaveUp ∉ final.dialogue)
    (hs : supply.strays → ∀ acts left, Reached limits handler bytes acts left →
      Settled limits left) :
    final.dialogue = wire.dialogue ++ conversation limits handler bytes := by
  induction course with
  | @closes bytes wire final how =>
    cases how with
    | lost ho hl did => rw [did.dialogue, conversation_lost ho]
    | stopped ho hl did => rw [did.dialogue, conversation_stopped ho]
    | strayed h walk hst hl did =>
      obtain ⟨fault, he, hr⟩ := hs h [] bytes (.here bytes) _ _ _ _ walk hst
      have ho := walk.outcome
      rw [he, List.append_nil] at ho
      rw [did.dialogue, conversation_stopped ho, hr]
    | unsent _ hm _ did => exact absurd (did.sendFault.trans hf) hm.faulty
    | expired h hl did => exact absurd (by simp [did.dialogue]) (hx h)
  | @lacks bytes _ _ _ h ho => exact absurd (by rw [ho]) (hlk h [] bytes (.here bytes))
  | unanswered ho hl he did =>
    rcases he with ⟨what, he⟩ | hm
    · rw [did.dialogue, conversation_read ho, he]
    · exact absurd (did.sendFault.trans hf) hm.faulty
  | last ho hl he hk did =>
    rw [did.dialogue, conversation_read ho, he, hk]
    rfl
  | on ho hl he hk did onward ih =>
    rw [ih (did.sendFault.trans hf) (fun h _ left hr => hlk h _ left (.after ho he hk hr)) hx
        fun h _ left hr => hs h _ left (.after ho he hk hr),
      did.dialogue, conversation_read ho, he, hk]
    simp

end FixedReply
