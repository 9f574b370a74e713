import FixedReply.Proofs.Server.Conversation
import FixedReply.Proofs.Wire.Buffered
import FixedReply.Proofs.Wire.Front

namespace FixedReply

open Http (Request Fault Refusal)
open Wire (Supply Did Stage Walk outcome upcoming buffered)
open Connection (Turned readTurn responseTo answer)

def brought (pieces : List (Time × Bytes)) : List Event :=
  pieces.map fun piece => { due := piece.1, what := .data piece.2 }

structure Delivers (wire : Wire) (bytes : Bytes) : Prop where
  unread : wire.buffer = []
  silent : wire.dialogue = []
  sends : wire.sendFault = none
  brings : ∃ pieces due, wire.inbox = brought pieces ++ [{ due, what := .failure (.one .endOfStream) }] ∧
    (∀ piece ∈ pieces, piece.2 ≠ []) ∧ (pieces.map Prod.snd).flatten = bytes

variable {terms : Terms} {limits : Limits} {handler : Handler} {bytes data : Bytes}
  {wire next final : Wire} {inbox : List Event} {stage : Stage} {left : Bytes} {said acts : List Act}
  {why : Refusal}

theorem Delivers.ahead (h : Delivers wire bytes) : wire.ahead = bytes := by
  obtain ⟨pieces, due, hi, hne, hb⟩ := h.brings
  rw [Wire.ahead, h.unread, List.nil_append, hi, brought, Wire.upcoming_append pieces hne, hb]
  exact List.append_nil bytes

/-- Where all requests settle, the conversation is held however the bytes are cut. -/
theorem Delivers.dialogue (h : Delivers wire bytes) (life : Life terms handler (readTurn terms wire) final)
    (hs : ∀ acts left, Reached terms.limits handler bytes acts left → Settled terms.limits left)
    (hg : .gaveUp ∉ final.dialogue) :
    final.dialogue = conversation terms.limits handler bytes := by
  have has : Wire.whole.Has wire bytes := h.ahead
  have hd := (life.course_readTurn has).dialogue h.sends (fun hl => hl.elim) (fun _ => hg)
    fun _ => hs
  rwa [h.silent, List.nil_append] at hd

/-- A line that may be refused for straddling its limit is refused with an answer, which is not the
leave to go on. -/
theorem Wire.Stage.Strays.answered (h : stage.Strays limits bytes why) :
    ∃ data, (Fault.refused why).reply = [.sent data] ∧ data ≠ Wire.leave := by
  obtain ⟨data, ha⟩ := why.answered
  refine ⟨data, reply_refused ha, ?_⟩
  intro he
  subst he
  have hhead : (Fault.refused why).reply.head? = some (.sent Wire.leave) := by
    rw [reply_refused ha]
    rfl
  have hno : (Fault.refused why).reply.head? ≠ some (.sent Wire.leave) := by
    cases h <;> decide +kernel
  exact hno hhead

/-- On a wire with nothing buffered the first turn is taken on what is received first. -/
theorem turned_readTurn_more {supply : Supply} (hb : wire.buffer = [])
    (hf : (wire.within terms.readTimeout).fill = (.ok true, next)) (has : supply.Has next bytes) :
    Turned supply terms.limits bytes wire (readTurn terms wire) := by
  have hb' : (wire.within terms.readTimeout).buffer = [] := hb
  apply Connection.turned_of_concluded terms
  rw [Wire.readRequest_more hb' hf]
  have hd : Did [] wire next := (Connection.did_timed wire _ _ _).then (Wire.did_fill hf)
  exact Connection.Concluded.back hd (supply.conclude has .start)

def first (data : Bytes) (inbox : List Event) : Wire where
  inbox := { what := .data data } :: inbox

theorem course_first (hd : data ≠ [])
    (life : Life terms handler (readTurn terms (first data inbox)) final) :
    Course (buffered inbox) terms.limits handler data (first data inbox) final := by
  obtain ⟨b, bytes, rfl⟩ := List.exists_cons_of_ne_nil hd
  exact life.course (turned_readTurn_more rfl rfl ⟨rfl, rfl⟩)

/-- If what comes first suffices, or the stream ends after it, its conversation is held. -/
theorem dialogue_first (hd : data ≠ [])
    (hlk : ¬ Wire.AtEnd inbox → ∀ acts left, Reached terms.limits handler data acts left →
      (outcome terms.limits .start left).2 ≠ .lost)
    (life : Life terms handler (readTurn terms (first data inbox)) final) :
    final.dialogue = conversation terms.limits handler data :=
  (course_first hd life).dialogue rfl hlk (fun hx => hx.elim) fun hs => hs.elim

/-- What leaves some of the front part is reached on the front part alone. -/
theorem Reached.of_append {front more : Bytes}
    (h : Reached limits handler (front ++ more) acts (left ++ more)) (hl : left ≠ []) :
    Reached limits handler front acts left := by
  generalize hb : front ++ more = bytes at h
  generalize hc : left ++ more = tail at h
  induction h generalizing front with
  | here bytes =>
    subst hc
    obtain rfl := List.append_cancel_right hb
    exact .here front
  | after ho he hk onward ih =>
    subst hb hc
    obtain ⟨taken, rfl⟩ := onward.suffix
    rw [← List.append_assoc] at ho ih
    exact .after (Wire.outcome_of_append ho) he hk (ih rfl rfl)

/-- Where the request after these acts seems to be answered by one sending, it is refused. -/
theorem refused_of_seen (walk : Walk limits .start bytes said stage left) (hne : data ≠ Wire.leave)
    (hc : (conversation limits handler bytes).filterMap Act.request? = said.filterMap Act.request?)
    (hd : (conversation limits handler bytes).filterMap Act.data? =
      said.filterMap Act.data? ++ [data]) :
    ∃ fault, outcome limits stage left = ([], .stopped fault) ∧ fault.reply = [.sent data] := by
  have ho := walk.outcome
  cases hout : outcome limits stage left with
  | mk more verdict =>
    rw [hout] at ho
    have hmore : ∀ tail, conversation limits handler bytes = said ++ more ++ tail → more = [] := by
      intro tail ht
      cases more with
      | nil => rfl
      | cons act more =>
        have hact : act = .sent Wire.leave := Wire.leave_of_outcome (by rw [hout]; exact .head _)
        rw [ht, hact] at hd
        rw [List.append_assoc, List.cons_append, List.filterMap_append, List.append_cancel_left_eq]
          at hd
        exact absurd (List.cons.inj hd).1.symm hne
    cases verdict with
    | lost =>
      have ht : conversation limits handler bytes = said ++ more := conversation_lost ho
      obtain rfl := hmore [] (by rw [ht, List.append_nil])
      simp [ht] at hd
    | stopped fault =>
      have ht : conversation limits handler bytes = said ++ more ++ fault.reply :=
        conversation_stopped ho
      obtain rfl := hmore _ ht
      rw [ht, List.append_nil, List.filterMap_append, List.append_cancel_left_eq] at hd
      refine ⟨fault, rfl, ?_⟩
      rcases fault.reply_cases with hr | ⟨sent, hr⟩
      · rw [hr] at hd
        cases hd
      · rw [hr] at hd ⊢
        cases hd
        rfl
    | read request rest =>
      obtain ⟨tail, ht⟩ : ∃ tail, conversation limits handler bytes =
          said ++ more ++ .called request :: tail := ⟨_, conversation_read ho⟩
      obtain rfl := hmore _ ht
      rw [ht, List.append_nil, List.filterMap_append, List.append_right_eq_self] at hc
      cases hc

/-- Whatever else a server does, in the end it closes its connection on this wire, and this is then
true of the wire. -/
def ServedTo (terms : Terms) (handler : Handler) (wire : Wire) (P : Wire → Prop) : Prop :=
  ∀ (workers : Nat) (wires : List Wire) (i : Nat), 0 < workers → wires[i]? = some wire →
    ∃ final, ((Traffic.opened terms workers wires).run terms handler none).phases[i]? =
      some (.closed final) ∧ P final

def SameSeen (a b : Wire) : Prop :=
  a.called.map Prod.snd = b.called.map Prod.snd ∧ a.sent.map Prod.snd = b.sent.map Prod.snd

/-- However these bytes are cut, the same is seen, unless a wait is given up. -/
def CutInvisible (terms : Terms) (handler : Handler) (bytes : Bytes) : Prop :=
  ∀ a b, Delivers a bytes → Delivers b bytes →
    ServedTo terms handler a fun final => ServedTo terms handler b fun final' =>
      .gaveUp ∉ final.dialogue → .gaveUp ∉ final'.dialogue → SameSeen final final'

theorem servedTo_of_life {P : Wire → Prop}
    (h : ∀ final, Life terms handler (readTurn terms wire) final → P final) :
    ServedTo terms handler wire P := by
  intro workers wires i hw hi
  obtain ⟨final, hc, life⟩ := Traffic.life_of_opened hw hi
  exact ⟨final, hc, h final life⟩

theorem ServedTo.life {P : Wire → Prop} (h : ServedTo terms handler wire P) :
    ∃ final, Life terms handler (readTurn terms wire) final ∧ P final := by
  obtain ⟨final, hc, hp⟩ := h 1 [wire] 0 Nat.one_pos rfl
  have hi : [wire][0]? = some wire := rfl
  obtain ⟨last, hc', life⟩ := Traffic.life_of_opened Nat.one_pos hi
  rw [hc] at hc'
  cases hc'
  exact ⟨final, life, hp⟩

def ending : Event := { what := .failure (.one .endOfStream) }

theorem delivers_first (hd : data ≠ []) (pieces : List (Time × Bytes))
    (hp : ∀ piece ∈ pieces, piece.2 ≠ []) :
    Delivers (first data (brought pieces ++ [ending])) (data ++ (pieces.map Prod.snd).flatten) := by
  refine ⟨rfl, rfl, rfl, (0, data) :: pieces, 0, rfl, ?_, rfl⟩
  intro piece hm
  rcases List.mem_cons.mp hm with rfl | hm
  · exact hd
  · exact hp piece hm

/-- Where no cut can be seen, a request with a line that straddles its limit comes to the refusal of
that line. The bytes are sent at once, where it may be read, and with a cut before its marker ends,
where it is refused. -/
theorem settled_of_invisible (h : CutInvisible terms handler bytes)
    (reached : Reached terms.limits handler bytes acts left) : Settled terms.limits left := by
  intro said stage line why walk hs
  obtain ⟨front, more, rfl, hm, hf, hh, ho⟩ := hs.cut walk.still
  obtain ⟨taken, rfl⟩ := walk.suffix
  obtain ⟨before, rfl⟩ := reached.suffix
  obtain ⟨data, hr, hne⟩ := hs.answered
  rw [← List.append_assoc taken] at walk
  rw [← List.append_assoc taken, ← List.append_assoc before] at reached h
  have hfront : before ++ (taken ++ front) ≠ [] := by simp [hf]
  have hreached : Reached terms.limits handler (before ++ (taken ++ front)) acts (taken ++ front) :=
    reached.of_append (by simp [hf])
  have hstop : outcome terms.limits .start (taken ++ front) =
      (said, .stopped (.refused why)) := by
    rw [(walk.of_append hf hh).outcome, ho, List.append_nil]
  have hwhole := delivers_first (List.append_ne_nil_of_left_ne_nil hfront more) []
    (fun _ hp => absurd hp List.not_mem_nil)
  have hcut := delivers_first hfront [(0, more)] (by simpa using hm)
  rw [List.map_nil, List.flatten_nil, List.append_nil] at hwhole
  rw [List.map_cons, List.map_nil, List.flatten_cons, List.flatten_nil, List.append_nil] at hcut
  obtain ⟨final, life, hserved⟩ := (h _ _ hwhole hcut).life
  obtain ⟨final', life', hseen⟩ := hserved.life
  have hd := dialogue_first (List.append_ne_nil_of_left_ne_nil hfront more)
    (fun hlk => absurd ⟨_, rfl, .inr rfl⟩ hlk) life
  have hd' := dialogue_first hfront (fun _ _ _ hr => hreached.not_lost hstop hr) life'
  obtain ⟨hcalls, hsent⟩ := hseen (hd ▸ gaveUp_conversation _ _ _) (hd' ▸ gaveUp_conversation _ _ _)
  rw [Wire.called_eq, Wire.called_eq, hd, hd', reached.conversation, hreached.conversation,
    conversation_stopped hstop, hr] at hcalls
  rw [Wire.sent_eq, Wire.sent_eq, hd, hd', reached.conversation, hreached.conversation,
    conversation_stopped hstop, hr] at hsent
  simp only [List.filterMap_append, List.append_cancel_left_eq] at hcalls hsent
  rw [hr]
  exact refused_of_seen walk hne (hcalls.trans (List.append_nil _)) hsent

/-- A byte string is served the same however the network cuts it, exactly if no request in it has a
line that straddles its limit and is not refused in any case. -/
theorem cutInvisible_iff (terms : Terms) (handler : Handler) (bytes : Bytes) :
    CutInvisible terms handler bytes ↔
      ∀ acts left, Reached terms.limits handler bytes acts left → Settled terms.limits left := by
  constructor
  · intro h acts left reached
    exact settled_of_invisible h reached
  · intro hs a b ha hb
    refine servedTo_of_life fun final life => servedTo_of_life fun final' life' hg hg' => ?_
    have hd := ha.dialogue life hs hg
    have hd' := hb.dialogue life' hs hg'
    constructor
    · rw [Wire.called_eq, Wire.called_eq, hd, hd']
    · rw [Wire.sent_eq, Wire.sent_eq, hd, hd']

def brief : Bytes := Bytes.ofString "GET / HTTP/1.1\r\nHost: a\r\n\r\n"

/-- A head of as many bytes as are allowed is read whole, and refused with a cut in its blank line. -/
theorem not_cutInvisible_at_limit :
    ¬ CutInvisible { limits := { head := 23 } } Service.fixedHandler brief := by
  intro h
  have hwalk : Walk { head := 23 } .start brief ([] ++ []) .head brief := .on rfl (.here .head brief)
  have hfirst : Bytes.IsFirst Wire.blankLine brief 0 23 :=
    (Bytes.find?_eq_some_iff (by decide)).mp (by decide)
  obtain ⟨fault, ho, -⟩ := settled_of_invisible h (.here brief) _ _ _ _ hwalk
    (.head ⟨23, hfirst, by decide, by decide⟩)
  rw [Wire.outcome_ends rfl] at ho
  cases ho

end FixedReply
