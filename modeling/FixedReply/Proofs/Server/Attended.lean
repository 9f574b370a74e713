import FixedReply.Proofs.Server.Discipline
import FixedReply.Proofs.Server.Paced

namespace FixedReply

open Http (Request Response Refusal)
open Wire (Did Grows outcome)
open Connection (Closing Turned reply nextTurn responseTo answer internalError)

def sendings (dated : List (Time × Act)) : Nat := (dated.filterMap (·.2.data?)).length

@[simp] theorem sendings_append (front back : List (Time × Act)) :
    sendings (front ++ back) = sendings front + sendings back := by
  simp [sendings]

@[simp] theorem sendings_called (time : Time) (request : Request) (rest : List (Time × Act)) :
    sendings ((time, .called request) :: rest) = sendings rest := rfl

@[simp] theorem sendings_sent (time : Time) (data : Bytes) (rest : List (Time × Act)) :
    sendings ((time, .sent data) :: rest) = sendings rest + 1 := rfl

@[simp] theorem sendings_nil : sendings [] = 0 := rfl

namespace Wire

variable {wire next : Wire} {acts : List Act}

def chronicle (wire : Wire) : List (Time × Act) := wire.history.reverse.filter (!·.2.isReception)

theorem map_chronicle (wire : Wire) : wire.chronicle.map Prod.snd = wire.dialogue := by
  rw [dialogue, ← List.map_reverse, List.filter_map]
  rfl

theorem chronicle_note (wire : Wire) {act : Act} (h : act.isReception = false) :
    (wire.note act).chronicle = wire.chronicle ++ [(wire.clock, act)] := by
  simp [chronicle, note, h]

/-- What is done meanwhile is added to the chronicle. -/
theorem Did.chronicle (did : Did acts wire next) (grows : Grows wire next) :
    ∃ dated, next.chronicle = wire.chronicle ++ dated ∧ dated.map Prod.snd = acts := by
  obtain ⟨more, hm, -⟩ := grows.history
  refine ⟨more.reverse.filter (!·.2.isReception), by simp [Wire.chronicle, hm], ?_⟩
  have hd := did.dialogue
  rw [← map_chronicle, ← map_chronicle, Wire.chronicle, hm, List.reverse_append, List.filter_append,
    List.map_append] at hd
  exact List.append_cancel_left hd

theorem length_sent (wire : Wire) : wire.sent.length = sendings wire.chronicle := by
  rw [← List.length_map Prod.snd, sent_eq, ← map_chronicle, List.filterMap_map]
  rfl

theorem mute_iff : wire.Mute ↔ ¬ Sends wire.sendFault (sendings wire.chronicle) := by
  rw [← length_sent, Mute]

end Wire

inductive Quits (limits : Limits) (left : Bytes) : List Act → Prop
  | ends {lead : List Act} (hl : Lead lead) : Quits limits left lead
  | gaveUp {lead : List Act} (hl : Lead lead) : Quits limits left (lead ++ [.gaveUp])
  | refused {said : List Act} {why : Refusal} {data : Bytes} (hl : Lead said)
      (hr : Refuses limits left said why) (ha : why.AnsweredBy data) :
      Quits limits left (said ++ [.sent data])

/-- What is done on a connection for the bytes that are left on it, up to the next call and beyond. -/
inductive Ensues (limits : Limits) (left : Bytes) : List Act → Prop
  | quits {acts : List Act} (h : Quits limits left acts) : Ensues limits left acts
  | calls {said acts : List Act} {request : Request} {rest : Bytes} (hl : Lead said)
      (ho : outcome limits .start left = (said, .read request rest)) :
      Ensues limits left (said ++ .called request :: acts)

variable {limits : Limits} {handler : Handler} {fault : Option (Nat × Failures)} {bytes left : Bytes}
  {count : Nat} {acts back front more : List (Time × Act)} {start : Time} {request : Request}

theorem Lead.not_called {said : List Act} (h : Lead said) (request : Request) : .called request ∉ said := by
  rcases h with rfl | rfl <;> simp

theorem Quits.not_called {acts : List Act} (h : Quits limits left acts) (request : Request) :
    .called request ∉ acts := by
  cases h with
  | ends hl => exact hl.not_called request
  | gaveUp hl | refused hl => simp [hl.not_called request]

theorem Lead.of_prefix {said acts : List Act} (h : Lead said) (hp : acts <+: said) : Lead acts := by
  rcases h with rfl | rfl
  · exact .inl (List.prefix_nil.mp hp)
  · rcases List.prefix_cons_iff.mp hp with rfl | ⟨tail, rfl, ht⟩
    · exact .inl rfl
    · rw [List.prefix_nil.mp ht]
      exact .inr rfl

/-- What is broken off has begun in the same way. -/
theorem Ensues.of_prefix {all acts : List Act} (h : Ensues limits left all) (hp : acts <+: all) :
    Ensues limits left acts := by
  have hlast : ∀ {said act}, Lead said → Ensues limits left (said ++ [act]) → acts <+: said ++ [act] →
      Ensues limits left acts := by
    intro said act hl hall hp
    rcases List.prefix_concat_iff.mp hp with rfl | hp
    · exact hall
    · exact .quits (.ends (hl.of_prefix hp))
  cases h with
  | quits h =>
    cases h with
    | ends hl => exact .quits (.ends (hl.of_prefix hp))
    | gaveUp hl => exact hlast hl (.quits (.gaveUp hl)) hp
    | refused hl hr ha => exact hlast hl (.quits (.refused hl hr ha)) hp
  | @calls said more request _ hl ho =>
    have hcall : said ++ [.called request] <+: said ++ .called request :: more :=
      ⟨more, List.append_assoc _ _ _⟩
    rcases List.prefix_or_prefix_of_prefix hp hcall with hp | ⟨rest, rfl⟩
    · exact hlast hl (.calls hl ho) hp
    · rw [List.append_assoc]
      exact .calls hl ho

/-- What is due to a client whose call comes to an outcome: the response of the handler if there is one
that can be written, or else that of a server at fault. -/
inductive Due (request : Request) (outcome : Except Mishap Response) (data : Bytes) : Prop
  | given {response : Response} (ho : outcome = .ok response) (ha : answer request response = .ok data)
  | instead (hn : ∀ response, outcome = .ok response → ∀ given, answer request response ≠ .ok given)
      (ha : answer request internalError = .ok data)

/-- A call that has begun at a time is answered once by what is done after it, given all bytes that come:
the response that is due is sent when the call ends, and all else is for the bytes that are left. -/
inductive Answered (limits : Limits) (handler : Handler) (stream : Bytes) (start : Time)
    (request : Request) : List (Time × Act) → Prop
  | once {bytes left data : Bytes} {said : List Act} {rest : List (Time × Act)} (hb : bytes <:+ stream)
      (ho : outcome limits .start bytes = (said, .read request left))
      (hd : Due request (handler request).outcome data) (he : Ensues limits left (rest.map Prod.snd)) :
      Answered limits handler stream start request
        ((start + (handler request).delay, .sent data) :: rest)

/-- How the requests on a connection are attended to, given the bytes that are still to be read and how
many sendings there have been: each is called for and answered before the next one is read. A call that
has no answer is the last thing that is done. -/
inductive Attended (limits : Limits) (handler : Handler) (fault : Option (Nat × Failures)) :
    Bytes → Nat → List (Time × Act) → Prop
  | quits {bytes : Bytes} {count : Nat} {acts : List (Time × Act)}
      (h : Quits limits bytes (acts.map Prod.snd)) : Attended limits handler fault bytes count acts
  | unsent {bytes left : Bytes} {count : Nat} {lead : List (Time × Act)} {start : Time} {request : Request}
      (hl : Lead (lead.map Prod.snd))
      (ho : outcome limits .start bytes = (lead.map Prod.snd, .read request left))
      (hs : ¬ Sends fault (count + sendings lead)) :
      Attended limits handler fault bytes count (lead ++ [(start, .called request)])
  | unwritten {bytes left : Bytes} {count : Nat} {lead : List (Time × Act)} {start : Time}
      {request : Request} (hl : Lead (lead.map Prod.snd))
      (ho : outcome limits .start bytes = (lead.map Prod.snd, .read request left))
      (hn : ∀ data, answer request (responseTo (handler request).outcome) ≠ .ok data) :
      Attended limits handler fault bytes count (lead ++ [(start, .called request)])
  | answered {bytes left data : Bytes} {count : Nat} {lead acts : List (Time × Act)} {start : Time}
      {request : Request} (hl : Lead (lead.map Prod.snd))
      (ho : outcome limits .start bytes = (lead.map Prod.snd, .read request left))
      (ha : answer request (responseTo (handler request).outcome) = .ok data)
      (onward : Attended limits handler fault left (count + sendings lead + 1) acts) :
      Attended limits handler fault bytes count
        (lead ++ (start, .called request) :: (start + (handler request).delay, .sent data) :: acts)

theorem Attended.ensues (h : Attended limits handler fault bytes count acts) :
    Ensues limits bytes (acts.map Prod.snd) := by
  cases h with
  | quits h => exact .quits h
  | unsent hl ho | unwritten hl ho | answered hl ho =>
    rw [List.map_append]
    exact .calls hl ho

theorem due_of_answer {outcome : Except Mishap Response} {data : Bytes}
    (ha : answer request (responseTo outcome) = .ok data) : Due request outcome data := by
  cases outcome with
  | ok response => exact .given rfl ha
  | error what => exact .instead (fun _ h => nomatch h) ha

/-- There is no call ahead of the first one. -/
theorem split_call {lead tail : List (Time × Act)} {time : Time} {first : Request}
    (hl : Lead (lead.map Prod.snd))
    (he : lead ++ (time, .called first) :: tail = front ++ (start, .called request) :: back) :
    front = lead ∧ time = start ∧ first = request ∧ tail = back ∨
      ∃ between, front = lead ++ (time, .called first) :: between ∧
        tail = between ++ (start, .called request) :: back := by
  rcases List.append_eq_append_iff.mp he with ⟨between, rfl, ht⟩ | ⟨between, rfl, hb⟩
  · cases between with
    | nil =>
      cases ht
      exact .inl ⟨List.append_nil _, rfl, rfl, rfl⟩
    | cons e between =>
      cases ht
      exact .inr ⟨between, rfl, rfl⟩
  · cases between with
    | nil =>
      cases hb
      exact .inl ⟨(List.append_nil _).symm, rfl, rfl, rfl⟩
    | cons e between =>
      cases hb
      exact absurd (by simp) (hl.not_called request)

theorem Answered.mono {stream : Bytes} (h : Answered limits handler bytes start request back)
    (hs : bytes <:+ stream) : Answered limits handler stream start request back := by
  cases h with
  | once hb ho hd he => exact .once (hb.trans hs) ho hd he

/-- If sending succeeds, a call is answered or its response cannot be written. -/
theorem Attended.call (h : Attended limits handler fault bytes count acts)
    (he : acts = front ++ (start, .called request) :: back) (hs : Sends fault (count + sendings front)) :
    (∀ data, answer request (responseTo (handler request).outcome) ≠ .ok data) ∧ back = [] ∨
      (∃ data, answer request (responseTo (handler request).outcome) = .ok data) ∧
        Answered limits handler bytes start request back := by
  induction h generalizing front with
  | quits h =>
    subst he
    exact absurd (by simp) (h.not_called request)
  | unsent hl ho hn =>
    rcases split_call hl he with ⟨rfl, rfl, rfl, rfl⟩ | ⟨between, rfl, ht⟩
    · exact absurd hs hn
    · simp at ht
  | unwritten hl ho hn =>
    rcases split_call hl he with ⟨rfl, rfl, rfl, rfl⟩ | ⟨between, rfl, ht⟩
    · exact .inl ⟨hn, rfl⟩
    · simp at ht
  | @answered _ _ data count lead _ _ _ hl ho ha onward ih =>
    rcases split_call hl he with ⟨rfl, rfl, rfl, rfl⟩ | ⟨between, rfl, ht⟩
    · exact .inr ⟨⟨data, ha⟩, .once (List.suffix_refl _) ho (due_of_answer ha) onward.ensues⟩
    · cases between with
      | nil => cases ht
      | cons e between =>
        -- The call is a later one, and what has been sent ahead of it includes this answer.
        cases ht
        have hcount : Sends fault (count + sendings lead + 1 + sendings between) := by
          simpa [Nat.add_assoc, Nat.add_comm 1] using hs
        exact (ih rfl hcount).imp_right fun h =>
          ⟨h.1, h.2.mono (Wire.suffix_of_outcome (congrArg Prod.snd ho))⟩

/-- If sending succeeds, a call is answered in the end exactly if its response can be written, also where
the connection is broken off later than the call ends. -/
theorem Attended.answered_iff
    (h : Attended limits handler fault bytes count (front ++ (start, .called request) :: (back ++ more)))
    (hs : Sends fault (count + sendings front))
    (hlate : ∀ e ∈ more, e.1 ≠ start + (handler request).delay) :
    Answered limits handler bytes start request back ↔
      ∃ data, answer request (responseTo (handler request).outcome) = .ok data := by
  rcases h.call rfl hs with ⟨hn, hnone⟩ | ⟨he, ha⟩
  · rw [(List.append_eq_nil_iff.mp hnone).1]
    exact ⟨nofun, fun ⟨data, he⟩ => absurd he (hn data)⟩
  · refine iff_of_true ?_ he
    generalize hall : back ++ more = all at ha
    cases ha with
    | @once _ _ _ _ rest hb ho hd hensues =>
      cases back with
      | nil =>
        obtain rfl : more = _ := hall
        exact absurd rfl (hlate _ List.mem_cons_self)
      | cons e back =>
        cases hall
        refine .once hb ho hd (hensues.of_prefix ?_)
        exact ⟨more.map Prod.snd, by simp⟩

/-- To close a connection by itself is to quit it. -/
theorem quits_of_closing {wire final : Wire} (h : Closing Wire.whole limits bytes wire final) :
    ∃ acts, Did acts wire final ∧ Quits limits bytes acts := by
  cases h with
  | lost _ hl did => exact ⟨_, did, .ends hl⟩
  | unsent _ _ hl did => exact ⟨_, did, .ends hl⟩
  | expired _ hl did => exact ⟨_, did, .gaveUp hl⟩
  | @stopped said why ho hl did =>
    cases why with
    | refused why =>
      obtain ⟨data, ha⟩ := why.answered
      rw [reply_refused ha] at did
      exact ⟨_, did, .refused hl (.inl ho) ha⟩
    | badAuthority | tooManyDigits => exact ⟨_, by simpa [Http.Fault.reply] using did, .ends hl⟩
  | @strayed said stage left why _ walk hs hl did =>
    obtain ⟨data, ha⟩ := why.answered
    rw [reply_refused ha] at did
    exact ⟨_, did, .refused hl (.inr ⟨stage, left, walk, hs⟩) ha⟩

/-- What comes of a response: it cannot be written or sent, and all ends there, or it is sent. -/
theorem reply_cases (terms : Terms) (request : Request) (response : Response) (wire : Wire) :
    (((∀ data, answer request response ≠ .ok data) ∨
        ¬ Sends wire.sendFault (sendings wire.chronicle)) ∧
      ∃ records, reply terms request response wire = .close records wire) ∨
      ∃ data, answer request response = .ok data ∧ reply terms request response wire =
        if request.keepAlive then nextTurn terms (wire.note (.sent data))
        else .close [] (wire.note (.sent data)) := by
  unfold reply
  cases answer request response with
  | error what => exact .inl ⟨.inl nofun, _, rfl⟩
  | ok data =>
    dsimp only
    rcases wire.send_eq data with hs | ⟨hm, what, hs⟩ <;> rw [hs]
    · exact .inr ⟨data, rfl, rfl⟩
    · exact .inl ⟨.inr (Wire.mute_iff.mp hm), _, rfl⟩

/-- The chronicle of a call that has begun, when it ends. -/
theorem chronicle_returned (handler : Handler) (start : Time) (request : Request) (wire : Wire) :
    (handler.returned start request wire).chronicle = wire.chronicle ++ [(start, .called request)] := by
  simp [Handler.returned, Wire.chronicle, Wire.later, Wire.note, Wire.resume, Act.isReception]

def Attends (limits : Limits) (handler : Handler) (bytes : Bytes) (wire final : Wire) : Prop :=
  ∃ dated, final.chronicle = wire.chronicle ++ dated ∧
    Attended limits handler wire.sendFault bytes (sendings wire.chronicle) dated

section

variable {wire next final : Wire} {lead : List (Time × Act)} (hl : Lead (lead.map Prod.snd))
  (ho : outcome limits .start bytes = (lead.map Prod.snd, .read request left))
  (hc : next.chronicle = wire.chronicle ++ lead) (hf : next.sendFault = wire.sendFault)

include hl ho hc hf

/-- A call without an answer is the last of them. -/
theorem attends_unanswered
    (hn : (∀ data, answer request (responseTo (handler request).outcome) ≠ .ok data) ∨
      ¬ Sends (handler.returned start request next).sendFault
        (sendings (handler.returned start request next).chronicle)) :
    Attends limits handler bytes wire (handler.returned start request next) := by
  refine ⟨lead ++ [(start, .called request)], by rw [chronicle_returned, hc, List.append_assoc], ?_⟩
  rcases hn with hn | hn
  · exact .unwritten hl ho hn
  · refine .unsent hl ho ?_
    rw [chronicle_returned, hc] at hn
    simpa [show (handler.returned start request next).sendFault = wire.sendFault from hf] using hn

/-- After an answer the requests in the bytes that are left are attended to. -/
theorem attends_answered {data : Bytes} (start : Time)
    (ha : answer request (responseTo (handler request).outcome) = .ok data)
    (h : Attends limits handler left ((handler.returned start request next).note (.sent data)) final) :
    Attends limits handler bytes wire final := by
  have hsent : ((handler.returned start request next).note (.sent data)).chronicle = wire.chronicle ++
      (lead ++ [(start, .called request), (start + (handler request).delay, .sent data)]) := by
    rw [Wire.chronicle_note _ rfl, chronicle_returned, hc]
    simp [Handler.returned, Wire.later]
  have hcount : sendings ((handler.returned start request next).note (.sent data)).chronicle =
      sendings wire.chronicle + sendings lead + 1 := by
    simp [hsent, Nat.add_assoc]
  obtain ⟨dated, hd, hattended⟩ := h
  rw [hcount, show ((handler.returned start request next).note (.sent data)).sendFault =
    wire.sendFault from hf] at hattended
  exact ⟨lead ++ (start, .called request) :: (start + (handler request).delay, .sent data) :: dated,
    by simp [hd, hsent], .answered hl ho ha hattended⟩

end

/-- In the life of a connection its requests are attended to. -/
theorem Life.attends {terms : Terms} {turn : Turn} {wire final : Wire}
    (life : Life terms handler turn final) (ht : Turned Wire.whole terms.limits bytes wire turn)
    (hg : Grows wire turn.wire) :
    Attends terms.limits handler bytes wire final := by
  induction life generalizing bytes wire with
  | close records final =>
    cases ht with
    | lacks h => exact h.elim
    | closes _ how =>
      obtain ⟨acts, did, hq⟩ := quits_of_closing how
      obtain ⟨dated, hc, rfl⟩ := did.chronicle hg
      exact ⟨dated, hc, .quits hq⟩
  | @call request next final start life ih =>
    cases ht with
    | lacks h => exact h.elim
    | @calls said _ left _ ho hl did has =>
      obtain ⟨lead, hc, rfl⟩ := did.chronicle hg
      have hreply := reply_cases terms request (responseTo (handler request).outcome)
        (handler.returned start request next)
      rw [Handler.returned] at hreply
      rcases hreply with ⟨hn, records, he⟩ | ⟨data, ha, he⟩
      · rw [he] at life
        cases life
        exact attends_unanswered hl ho hc did.sendFault hn
      · refine attends_answered hl ho hc did.sendFault start ha ?_
        rw [he] at life ih
        -- Without keep-alive the life ends with the answer; with it, it goes on from the bytes that are left.
        cases hk : request.keepAlive with
        | false =>
          rw [hk] at life
          cases life
          exact ⟨[], (List.append_nil _).symm, .quits (.ends (.inl rfl))⟩
        | true =>
          rw [hk] at ih
          have hhas : Wire.whole.Has ((handler.returned start request next).note (.sent data)) left := has
          exact ih (Connection.turned_nextTurn terms hhas) (Connection.grows_nextTurn terms _)

end FixedReply
