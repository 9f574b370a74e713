import FixedReply.Proofs.Server.Course
import FixedReply.Proofs.Server.Workers
import FixedReply.Proofs.Wire.Bounds

namespace FixedReply

open Http (Request Response)
open Wire (Bounded Did blankLine outcome upcoming)
open Connection (readTurn nextTurn reply refuse abandon lose responseTo Turned Replied)

/-- A request is read from some of these bytes, where a head that is allowed ends in the first blank
line, and its body is allowed. -/
inductive Drawn (limits : Limits) (stream : Bytes) (request : Request) : Prop
  | read {before head after rest : Bytes} {said : List Act}
      (hs : stream = before ++ (head ++ blankLine ++ after))
      (ho : outcome limits .head (head ++ blankLine ++ after) = (said, .read request rest))
      (hf : Bytes.IsFirst blankLine (head ++ blankLine ++ after) 0 head.length)
      (hh : (head.length : Int) ≤ limits.head) (hb : (request.body.length : Int) ≤ limits.body)

variable {limits : Limits} {stream bytes rest : Bytes} {request : Request} {wire next : Wire}

theorem drawn_of_outcome (hb : 0 ≤ limits.body)
    (ho : (outcome limits .start bytes).2 = .read request rest) (hs : bytes <:+ stream) :
    Drawn limits stream request := by
  rcases Wire.outcome_read ho with hstart | ⟨said, later, left, hstart, ho⟩
  · obtain ⟨_, _, ha⟩ := Wire.Scan.move?_eq_some.mp hstart
    cases ha
  · obtain ⟨_, hf, ha⟩ := Wire.Scan.move?_eq_some.mp hstart
    cases ha
    obtain ⟨before, rfl⟩ := (Wire.Stage.rest_of_step hstart fun _ => Wire.Move.noConfusion).1.trans hs
    have hhead : ∃ move rest, Wire.Stage.head.step limits left = some (move, rest) ∧
        ∀ why, move ≠ .stops why := by
      rcases Wire.outcome_read ho with h | ⟨_, _, _, h, _⟩
      · exact ⟨_, _, h, fun _ => Wire.Move.noConfusion⟩
      · exact ⟨_, _, h, fun _ => Wire.Move.noConfusion⟩
    obtain ⟨move, after, hstep, hgo⟩ := hhead
    obtain ⟨line, hf, ha⟩ := Wire.Scan.move?_eq_some.mp hstep
    cases line with
    | none => exact absurd ha.symm (hgo _)
    | some head =>
      obtain ⟨rfl, hl, hfirst⟩ := (Wire.scanUpTo_found (by decide)).mp hf
      exact .read rfl (Prod.ext rfl ho) hfirst hl (Wire.fits_of_outcome hb (Wire.Stage.fits_head _) ho)

namespace Wire

theorem Did.called {acts : List Act} (did : Did acts wire next) :
    next.called.map Prod.snd = wire.called.map Prod.snd ++ acts.filterMap Act.request? := by
  rw [called_eq, called_eq, did.dialogue, List.filterMap_append]

theorem mem_called {t : Time} : (t, request) ∈ wire.called ↔ (t, .called request) ∈ wire.history := by
  unfold called
  rw [List.mem_filterMap]
  constructor
  · intro h
    obtain ⟨⟨time, act⟩, hm, he⟩ := h
    cases act <;> cases he
    exact List.mem_reverse.mp hm
  · intro h
    exact ⟨_, List.mem_reverse.mpr h, rfl⟩

theorem called_note (wire : Wire) (request : Request) :
    (wire.note (.called request)).called = wire.called ++ [(wire.clock, request)] := by
  simp [called, note]

end Wire

namespace Connection

variable {terms : Terms}

theorem bounded_refuse (h : Bounded limits wire) (why : Http.Refusal) :
    Bounded limits (refuse why wire).wire := by
  unfold refuse
  dsimp only
  split
  · exact h
  · rename_i data _
    have hsend := h.send data
    split <;> rename_i hs <;> rw [hs] at hsend <;> exact hsend

theorem bounded_abandon (h : Bounded limits wire) (stop : Stop) :
    Bounded limits (abandon stop wire).wire := by
  unfold abandon
  split
  · exact bounded_refuse h _
  · exact h
  · exact h

theorem bounded_readTurn (hb : 0 ≤ terms.limits.body) (h : Bounded terms.limits wire) :
    Bounded terms.limits (readTurn terms wire).wire := by
  have hwithin : Bounded terms.limits (wire.within terms.readTimeout) := h.congr rfl rfl rfl
  have hread : Bounded terms.limits ((wire.within terms.readTimeout).readRequest terms.limits).2 :=
    Bounded.read hb (Wire.Stage.fits_start _) hwithin
  unfold readTurn
  split <;> rename_i hr <;> rw [hr] at hread
  · exact hread.congr rfl rfl rfl
  · rename_i stop next
    have hnext : Bounded terms.limits next.unhurried := hread.congr rfl rfl rfl
    exact bounded_abandon hnext stop

theorem bounded_nextTurn (hb : 0 ≤ terms.limits.body) (h : Bounded terms.limits wire) :
    Bounded terms.limits (nextTurn terms wire).wire := by
  unfold nextTurn
  split
  · rename_i he
    have hwithin : Bounded terms.limits (wire.within terms.idleTimeout) := h.congr rfl rfl rfl
    have hempty : wire.buffer = [] := List.isEmpty_iff.mp he
    have hfill := hwithin.fill (by
      have hroom := terms.limits.room_pos
      simp only [Wire.within, hempty, List.length_nil]
      omega)
    split <;> rename_i hf <;> rw [hf] at hfill
    · exact bounded_readTurn hb (hfill.congr rfl rfl rfl)
    · exact hfill.congr rfl rfl rfl
    · exact hfill.congr rfl rfl rfl
  · exact bounded_readTurn hb h

theorem bounded_reply (hb : 0 ≤ terms.limits.body) (h : Bounded terms.limits wire)
    (request : Request) (response : Response) :
    Bounded terms.limits (reply terms request response wire).wire := by
  unfold reply
  split
  · exact h
  · rename_i data _
    have hsend := h.send data
    split <;> rename_i hs <;> rw [hs] at hsend
    · exact hsend
    · split
      · exact bounded_nextTurn hb hsend
      · exact hsend

end Connection

namespace Phase

variable {terms : Terms} {handler : Handler} {now : Time} {p q : Phase}

def pending? : Phase → Option Request
  | due (.call request _) => some request
  | waiting request _ => some request
  | _ => none

def goesOn : Phase → Bool
  | due (.close _ _) => false
  | closed _ => false
  | _ => true

structure Keeps (limits : Limits) (stream : Bytes) (phase : Phase) : Prop where
  bounded : Bounded limits phase.wire
  called : ∀ e ∈ phase.wire.called, Drawn limits stream e.2
  pending : ∀ request ∈ phase.pending?, Drawn limits stream request
  ahead : phase.goesOn → phase.wire.ahead <:+ stream

theorem drawn_mono {acts : List Act} (h : ∀ e ∈ wire.called, Drawn limits stream e.2)
    (did : Did acts wire next) (hn : acts.filterMap Act.request? = []) :
    ∀ e ∈ next.called, Drawn limits stream e.2 := by
  intro e he
  have hsame := did.called
  rw [hn, List.append_nil] at hsame
  have hm : e.2 ∈ next.called.map Prod.snd := List.mem_map_of_mem he
  rw [hsame] at hm
  obtain ⟨before, hb, he⟩ := List.mem_map.mp hm
  rw [← he]
  exact h before hb

theorem request_of_lead {acts : List Act} (h : Lead acts) : acts.filterMap Act.request? = [] := by
  rcases h with rfl | rfl <;> rfl

theorem request_of_reply (fault : Http.Fault) : fault.reply.filterMap Act.request? = [] := by
  rcases fault.reply_cases with h | ⟨data, h⟩ <;> rw [h] <;> rfl

/-- A turn that is taken on a wire keeps to the limits. -/
theorem keeps_of_turned (hb : 0 ≤ limits.body) {turn : Turn}
    (ht : Turned Wire.whole limits bytes wire turn) (hbounded : Bounded limits turn.wire)
    (hcalled : ∀ e ∈ wire.called, Drawn limits stream e.2) (hs : bytes <:+ stream) :
    Keeps limits stream (.due turn) := by
  cases ht with
  | lacks h => exact h.elim
  | calls ho hl did has =>
    refine ⟨hbounded, drawn_mono hcalled did (request_of_lead hl), ?_, fun _ => ?_⟩
    · intro request hr
      obtain rfl := Option.some.inj hr
      exact drawn_of_outcome hb (congrArg Prod.snd ho) hs
    · rw [Phase.wire, Turn.wire, show _ = _ from has]
      exact (Wire.suffix_of_outcome (congrArg Prod.snd ho)).trans hs
  | @closes final records how =>
    have hclosed : ∀ {acts}, Did acts wire final → acts.filterMap Act.request? = [] →
        Keeps limits stream (.due (.close records final)) :=
      fun did hn => ⟨hbounded, drawn_mono hcalled did hn, nofun, nofun⟩
    cases how with
    | lost _ hl did => exact hclosed did (request_of_lead hl)
    | stopped _ hl did =>
      exact hclosed did (by rw [List.filterMap_append, request_of_lead hl, request_of_reply]; rfl)
    | strayed _ _ _ hl did =>
      exact hclosed did (by rw [List.filterMap_append, request_of_lead hl, request_of_reply]; rfl)
    | unsent _ _ hl did => exact hclosed did (request_of_lead hl)
    | expired _ hl did =>
      exact hclosed did (by rw [List.filterMap_append, request_of_lead hl]; rfl)

/-- What comes after a response keeps to the limits. -/
theorem keeps_of_replied (hb : 0 ≤ limits.body) {response : Response} {turn : Turn}
    (hr : Replied Wire.whole limits request response bytes wire turn)
    (hbounded : Bounded limits turn.wire) (hcalled : ∀ e ∈ wire.called, Drawn limits stream e.2)
    (hs : bytes <:+ stream) : Keeps limits stream (.due turn) := by
  cases hr with
  | unencodable | unsent => exact ⟨hbounded, hcalled, nofun, nofun⟩
  | last _ _ did => exact ⟨hbounded, drawn_mono hcalled did rfl, nofun, nofun⟩
  | on _ _ did turned => exact keeps_of_turned hb turned hbounded (drawn_mono hcalled did rfl) hs

/-- A connection that moves on keeps to its limits. -/
theorem Moves.keeps (hb : 0 ≤ terms.limits.body) (h : Moves terms handler now p q)
    (hp : Keeps terms.limits stream p) : Keeps terms.limits stream q := by
  have hcall : ∀ {request wire}, Keeps terms.limits stream (.waiting request wire) →
      Keeps terms.limits stream (calling handler now request wire) := by
    intro request wire hw
    refine ⟨hw.bounded.congr rfl rfl rfl, ?_, nofun, fun _ => hw.ahead rfl⟩
    intro e he
    have hnote : e ∈ ((wire.resume now).note (.called request)).called := he
    rw [Wire.called_note] at hnote
    rcases List.mem_append.mp hnote with he | he
    · exact hw.called e he
    · obtain rfl := List.mem_singleton.mp he
      exact hw.pending request rfl
  cases h with
  | queues => exact ⟨hp.bounded, hp.called, hp.pending, hp.ahead⟩
  | begins => exact hcall ⟨hp.bounded, hp.called, hp.pending, hp.ahead⟩
  | wakes => exact hcall hp
  | closes => exact ⟨hp.bounded, hp.called, nofun, nofun⟩
  | @ends request outcome wire =>
    have hbounded : Bounded terms.limits (wire.later now) := hp.bounded.congr rfl rfl rfl
    refine keeps_of_replied hb (Connection.replied terms request (responseTo outcome) rfl)
      (Connection.bounded_reply hb hbounded _ _) hp.called (hp.ahead rfl)

/-- What is cut off a history leaves the rest as it was. -/
theorem Keeps.shut (h : Keeps limits stream p) {cut : Wire → Wire}
    (hc : ∀ wire, ∃ clock history, cut wire = { wire with clock, history } ∧
      history ⊆ wire.history) : Keeps limits stream (p.shut cut) := by
  have hcut : Keeps limits stream (.closed (cut p.wire)) := by
    obtain ⟨clock, history, he, hsub⟩ := hc p.wire
    refine ⟨?_, fun e hm => ?_, nofun, nofun⟩
    · rw [Phase.wire, he]
      exact h.bounded.congr rfl rfl rfl
    · rw [Phase.wire, he] at hm
      exact h.called e (Wire.mem_called.mpr (hsub (Wire.mem_called.mp hm)))
  cases p with
  | closed wire => exact h
  | due | waiting | handling => exact hcut

theorem cutAfter_eq (now : Time) (wire : Wire) :
    ∃ clock history, wire.cutAfter now = { wire with clock, history } ∧ history ⊆ wire.history :=
  ⟨_, _, rfl, List.filter_sublist.subset⟩

theorem cutFrom_eq (now : Time) (wire : Wire) :
    ∃ clock history, wire.cutFrom now = { wire with clock, history } ∧ history ⊆ wire.history :=
  ⟨_, _, rfl, List.filter_sublist.subset⟩

theorem Keeps.answer (hb : 0 ≤ terms.limits.body) (h : Keeps terms.limits stream p) (now : Time) :
    Keeps terms.limits stream (p.answer terms now) :=
  keeps_answer (Handler.always { written := Http.isWritten_ok }) h fun hm => hm.keeps hb h

end Phase

/-- Whatever a server may come to from a start on: its connections take steps, or they are all closed,
with or without the answers that are due. -/
inductive Traffic.Reaches (terms : Terms) (handler : Handler) (start : Traffic) : Traffic → Prop
  | start : Reaches terms handler start start
  | steps {now : Time} {i : Nat} {traffic next : Traffic} (h : Reaches terms handler start traffic)
      (hs : Stepped terms handler traffic now i next) : Reaches terms handler start next
  | windsUp {traffic : Traffic} (h : Reaches terms handler start traffic) (now : Time) :
      Reaches terms handler start (windUp terms now traffic)
  | breaksOff {traffic : Traffic} (h : Reaches terms handler start traffic) (now : Time) :
      Reaches terms handler start (traffic.shut (Phase.shut (·.cutFrom now)))

namespace Traffic

variable {terms : Terms} {handler : Handler} {cutoff : Option Cutoff} {start traffic next : Traffic}
  {now : Time} {i workers : Nat} {network : Network}

theorem calls_release {phases : List Phase}
    (hw : ∀ (j : Nat) (request : Request) (wire : Wire),
      traffic.phases[j]? = some (.waiting request wire) → phases[j]? = some (.waiting request wire)) :
    ∀ e ∈ (release handler now traffic).calls,
      e ∈ traffic.calls ∨ ∃ phase ∈ phases, phase.pending? = some e.2 := by
  intro e he
  unfold release at he
  split at he
  · exact .inl he
  · unfold wake at he
    split at he
    · rename_i hwho
      rcases List.mem_cons.mp he with rfl | he
      · exact .inr ⟨_, List.mem_of_getElem? (hw _ _ _ hwho), rfl⟩
      · exact .inl he
    · exact .inl he

/-- The calls that a step makes are those that were pending. -/
theorem Stepped.calls_mem (h : Stepped terms handler traffic now i next) :
    ∀ e ∈ next.calls, e ∈ traffic.calls ∨ ∃ phase ∈ traffic.phases, phase.pending? = some e.2 := by
  cases h with
  | calls hp =>
    intro e he
    unfold dispatch at he
    split at he
    · rcases List.mem_cons.mp he with rfl | he
      · exact .inr ⟨_, List.mem_of_getElem? hp, rfl⟩
      · exact .inl he
    · exact .inl he
  | closes => exact fun e he => .inl he
  | ends hp => exact calls_release fun j request wire hj => waiting_of_setPhase hj

theorem reaches_run (h : Reaches terms handler start traffic) :
    Reaches terms handler start (run terms handler cutoff traffic) := by
  fun_induction run terms handler cutoff traffic with
  | case1 => exact h
  | case2 traffic next hs ih =>
    obtain ⟨i, moment, -, -, hstep⟩ := stepped hs
    exact ih (.steps h hstep)

theorem reaches_close (h : Reaches terms handler start traffic) (c : Cutoff) :
    Reaches terms handler start (close terms handler c traffic) := by
  unfold close
  cases c.grace with
  | nothing => exact .breaksOff h _
  | answers => exact .windsUp h _
  | calls => exact .windsUp (keeps_callDue terms h fun hs hr => .steps hr hs) _

/-- What a server does is one of the things that it may come to. -/
theorem reaches_serve (terms : Terms) (handler : Handler) (network : Network) (workers : Nat) :
    Reaches terms handler (network.opening workers terms)
      (network.serve workers terms handler).traffic := by
  cases hc : network.cutoff with
  | none =>
    rw [Network.serve_none hc]
    exact reaches_run .start
  | some c =>
    rw [Network.serve_some hc]
    exact reaches_close (reaches_run .start) c

structure Within (limits : Limits) (streams : List Bytes) (traffic : Traffic) : Prop where
  each : ∀ (i : Nat) (phase : Phase), traffic.phases[i]? = some phase →
    ∃ stream, streams[i]? = some stream ∧ phase.Keeps limits stream
  calls : ∀ e ∈ traffic.calls, ∃ stream ∈ streams, Drawn limits stream e.2

variable {streams : List Bytes}

theorem Within.stepped (hb : 0 ≤ terms.limits.body) (h : Within terms.limits streams traffic)
    (hs : Stepped terms handler traffic now i next) : Within terms.limits streams next := by
  refine ⟨fun j q hq => ?_, fun e he => ?_⟩
  · have hlt : j < traffic.phases.length := by
      rw [← hs.advance.length]
      exact (List.getElem?_eq_some_iff.mp hq).1
    have hp := List.getElem?_eq_getElem hlt
    obtain ⟨stream, hstream, hkeeps⟩ := h.each j _ hp
    obtain ⟨r, hr, hor⟩ := hs.advance.each j _ hp
    rw [hq] at hr
    cases hr
    rcases hor with rfl | hmove
    · exact ⟨stream, hstream, hkeeps⟩
    · exact ⟨stream, hstream, hmove.keeps hb hkeeps⟩
  · rcases hs.calls_mem e he with he | ⟨phase, hp, hpending⟩
    · exact h.calls e he
    · obtain ⟨j, hj⟩ := List.getElem?_of_mem hp
      obtain ⟨stream, hstream, hkeeps⟩ := h.each j phase hj
      exact ⟨stream, List.mem_of_getElem? hstream, hkeeps.pending e.2 hpending⟩

theorem Within.shut (h : Within limits streams traffic) {close : Phase → Phase}
    (hc : ∀ {stream phase}, Phase.Keeps limits stream phase → Phase.Keeps limits stream (close phase))
    (records : List Record) : Within limits streams ((traffic.log records).shut close) := by
  refine ⟨fun i q hq => ?_, h.calls⟩
  rw [Traffic.shut, List.getElem?_map] at hq
  obtain ⟨phase, hp, rfl⟩ := Option.map_eq_some_iff.mp hq
  obtain ⟨stream, hs, hkeeps⟩ := h.each i phase hp
  exact ⟨stream, hs, hc hkeeps⟩

/-- Whatever a server comes to keeps to the limits. -/
theorem Within.reaches (hb : 0 ≤ terms.limits.body) (h : Within terms.limits streams start)
    (hr : Reaches terms handler start traffic) : Within terms.limits streams traffic := by
  induction hr with
  | start => exact h
  | steps _ hs ih => exact ih.stepped hb hs
  | windsUp _ now ih =>
    exact ih.shut (fun hk => (hk.answer hb now).shut (Phase.cutAfter_eq now)) _
  | breaksOff _ now ih => exact ih.shut (fun hk => hk.shut (Phase.cutFrom_eq now)) []

end Traffic

theorem length_of_mem_pieces {n : Nat} {bytes piece : Bytes} (h : piece ∈ bytes.pieces n) :
    piece.length ≤ n + 1 := by
  fun_induction Bytes.pieces n bytes with
  | case1 bytes hle =>
    rw [List.mem_singleton.mp h]
    exact hle
  | case2 bytes hlt ih =>
    rcases List.mem_cons.mp h with rfl | h
    · exact List.length_take_le _ _
    · exact ih h

/-- A new wire brings no more at a time than is received at a time. -/
theorem Client.bounded_wire (hb : 0 ≤ limits.body) (client : Client) (accepted : Time) :
    Bounded limits (client.wire accepted) := by
  refine ⟨fun reception hr => ?_, Nat.le_refl _, ?_, hb⟩
  · obtain ⟨event, _, hr⟩ := List.mem_flatMap.mp hr
    obtain ⟨due, what⟩ := event
    cases what with
    | failure what =>
      rw [List.mem_singleton.mp hr]
      exact Nat.zero_le _
    | data bytes =>
      obtain ⟨piece, hp, rfl⟩ := List.mem_map.mp hr
      exact length_of_mem_pieces hp
  · have hroom := limits.room_pos
    simp only [Client.wire]
    omega

namespace Network

variable {network : Network} {terms : Terms} {handler : Handler} {workers : Nat} {traffic : Traffic}

theorem within_opening (hb : 0 ≤ terms.limits.body) (network : Network) (workers : Nat) :
    Traffic.Within terms.limits (network.admitted.map fun e => upcoming e.2.events)
      (network.opening workers terms) := by
  refine ⟨fun i q hq => ?_, nofun⟩
  rw [opening, List.getElem?_map] at hq
  obtain ⟨⟨accepted, client⟩, hi, rfl⟩ := Option.map_eq_some_iff.mp hq
  refine ⟨upcoming client.events, by rw [List.getElem?_map, hi]; rfl, ?_⟩
  have hbounded := Connection.bounded_readTurn hb (client.bounded_wire hb accepted)
  have has : Wire.whole.Has (client.wire accepted) (upcoming client.events) :=
    client.ahead_wire accepted
  have hnone : (client.wire accepted).called = [] := rfl
  exact Phase.keeps_of_turned hb (Connection.turned_readTurn terms has) hbounded (by simp [hnone])
    (List.suffix_refl _)

/-- What a server keeps to, in whatever it comes to: no connection holds or has held more bytes than its
limits allow, nor gathered more of a body, and every call is for a request with a head and a body that
are allowed, read from what its client sends. -/
structure LimitsKept (network : Network) (limits : Limits) (traffic : Traffic) : Prop where
  held : ∀ phase ∈ traffic.phases,
    phase.wire.buffer.length ≤ phase.wire.usage.buffered ∧
      (phase.wire.usage.buffered : Int) ≤ max limits.head (max 4096 (limits.body + 2)) + 65536 ∧
      (phase.wire.usage.gathered : Int) ≤ limits.body
  called : ∀ {i : Nat} {accepted : Time} {client : Client} {phase : Phase},
    network.admitted[i]? = some (accepted, client) → traffic.phases[i]? = some phase →
      ∀ e ∈ phase.wire.called, Drawn limits (upcoming client.events) e.2
  calls : ∀ e ∈ traffic.calls, ∃ client ∈ network.admitted.map Prod.snd,
    Drawn limits (upcoming client.events) e.2

/-- However many requests come, and whatever is in them and however it is cut, a server keeps to its
limits. -/
theorem limits_kept (hb : 0 ≤ terms.limits.body)
    (h : Traffic.Reaches terms handler (network.opening workers terms) traffic) :
    network.LimitsKept terms.limits traffic := by
  have hwithin := (within_opening hb network workers).reaches hb h
  refine ⟨fun phase hp => ?_, fun hi hp e he => ?_, fun e he => ?_⟩
  · obtain ⟨i, hi⟩ := List.getElem?_of_mem hp
    obtain ⟨_, _, hkeeps⟩ := hwithin.each i phase hi
    exact ⟨hkeeps.bounded.buffer, hkeeps.bounded.buffered, hkeeps.bounded.gathered⟩
  · obtain ⟨stream, hs, hkeeps⟩ := hwithin.each _ _ hp
    rw [List.getElem?_map, hi] at hs
    cases hs
    exact hkeeps.called e he
  · obtain ⟨stream, hm, hdrawn⟩ := hwithin.calls e he
    obtain ⟨admitted, ha, rfl⟩ := List.mem_map.mp hm
    exact ⟨admitted.2, List.mem_map_of_mem ha, hdrawn⟩

def filling : Network where
  clients := [{
    events := [
      { what := .data (Bytes.ofString
        "POST / HTTP/1.1\r\nHost: a\r\nTransfer-Encoding: chunked\r\n\r\n5\r\nhel") },
      { due := 7, what := .data (Bytes.ofString "lo\r\n0\r\n\r\nGET / HTTP/1.1\r\nHost: a\r\n\r\n") },
      { due := 7, what := .failure (.one .endOfStream) }] }]

/-- A body of five bytes under a limit of five, and no body after it. -/
theorem limits_kept_filling :
    let terms : Terms := { limits := { head := 60, body := 5 } }
    let served := (filling.serve 1 terms (Handler.always { written := Http.isWritten_ok })).traffic
    0 ≤ terms.limits.body ∧
      Traffic.Reaches terms (Handler.always { written := Http.isWritten_ok }) (filling.opening 1 terms) served ∧
      filling.LimitsKept terms.limits served ∧
      served.calls.map (fun call => call.2.body.length) = [0, 5] := by
  intro terms served
  have hreaches := Traffic.reaches_serve terms (Handler.always { written := Http.isWritten_ok }) filling 1
  exact ⟨by decide, hreaches, limits_kept (by decide) hreaches, by decide +kernel⟩

end Network

end FixedReply
