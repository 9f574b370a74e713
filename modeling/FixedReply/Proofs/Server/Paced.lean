import FixedReply.Proofs.Server.Deadlines
import FixedReply.Proofs.Server.Workers

namespace FixedReply

open Http (Request Response)
open Connection (readTurn reply responseTo answer)

def Handler.returned (handler : Handler) (start : Time) (request : Request) (wire : Wire) : Wire :=
  ((wire.resume start).note (.called request)).later (start + (handler request).delay)

variable {terms : Terms} {handler : Handler} {now : Time}

/-- What the answer to every call keeps is kept to the end. -/
theorem Life.keeps {Good : Turn → Prop} {turn : Turn} (life : Life terms handler turn final)
    (hreply : ∀ start request wire, Good (.call request wire) →
      Good (reply terms request (responseTo (handler request).outcome)
        (handler.returned start request wire)))
    (h : Good turn) : ∃ records, Good (.close records final) := by
  induction life with
  | close records => exact ⟨records, h⟩
  | call start _ ih => exact ih (hreply start _ _ h)

namespace Phase

inductive At (handler : Handler) : Turn → Phase → Prop
  | due (turn : Turn) : At handler turn (.due turn)
  | waiting (request : Request) (wire : Wire) : At handler (.call request wire) (.waiting request wire)
  | handling (start : Time) (request : Request) (wire : Wire) :
      At handler (.call request wire)
        (.handling (start + (handler request).delay) request (handler request).outcome
          ((wire.resume start).note (.called request)))
  | closed (records : List Record) (wire : Wire) : At handler (.close records wire) (.closed wire)

/-- Who moves on stays with a turn, or is answered and comes to the next one. -/
theorem Moves.at {turn : Turn} {p q : Phase} (h : Moves terms handler now p q) (hp : At handler turn p) :
    At handler turn q ∨ ∃ request wire start, turn = .call request wire ∧
      q = .due (reply terms request (responseTo (handler request).outcome)
        (handler.returned start request wire)) := by
  cases h with
  | queues =>
    cases hp
    exact .inl (.waiting _ _)
  | begins =>
    cases hp
    exact .inl (.handling _ _ _)
  | wakes =>
    cases hp
    exact .inl (.handling _ _ _)
  | closes =>
    cases hp
    exact .inl (.closed _ _)
  | ends =>
    cases hp
    exact .inr ⟨_, _, _, rfl, rfl⟩

end Phase

/-- How a connection keeps its times, from a wire on which the reading of a request starts to where it
stands: each request is read in its time, or the connection ends at the deadline; after the response the
connection ends, or the reading of the next request starts. -/
inductive Paced (terms : Terms) (handler : Handler) : Wire → Phase → Prop
  | reading {wire : Wire} {turn : Turn} {phase : Phase} (h : Timed terms wire turn)
      (hp : phase.At handler turn) : Paced terms handler wire phase
  | leaves {wire next : Wire} {request : Request} {turn : Turn} {phase : Phase} (start : Time)
      (h : Timed terms wire (.call request next))
      (hl : Leaves terms request (responseTo (handler request).outcome)
        (handler.returned start request next) turn)
      (hp : phase.At handler turn) : Paced terms handler wire phase
  | onward {wire next first : Wire} {request : Request} {data : Bytes} {phase : Phase} (start : Time)
      (h : Timed terms wire (.call request next))
      (ha : answer request (responseTo (handler request).outcome) = .ok data)
      (hk : request.keepAlive = true)
      (hs : Starts terms ((handler.returned start request next).note (.sent data)) first)
      (onward : Paced terms handler first phase) : Paced terms handler wire phase

namespace Paced

variable {wire next : Wire} {request : Request} {p q : Phase}

/-- What comes after the call is in its time too. -/
theorem of_reply (hr : 0 < terms.readTimeout) (hi : 0 < terms.idleTimeout)
    (h : Timed terms wire (.call request next)) (start : Time) :
    Paced terms handler wire (.due (reply terms request (responseTo (handler request).outcome)
      (handler.returned start request next))) := by
  rcases Connection.leaves_or_starts hi request (responseTo (handler request).outcome)
    (handler.returned start request next) with hleaves | ⟨data, first, ha, hk, hs, he⟩
  · exact .leaves start h hleaves (.due _)
  · rw [he]
    exact .onward start h ha hk hs (.reading (Connection.timed_readTurn hr first) (.due _))

/-- A connection that moves on keeps its times. -/
theorem moves (hr : 0 < terms.readTimeout) (hi : 0 < terms.idleTimeout)
    (hm : Phase.Moves terms handler now p q) (h : Paced terms handler wire p) :
    Paced terms handler wire q := by
  -- Only the last turn moves on: the requests ahead of it have been read and answered.
  induction h with
  | reading h hp =>
    rcases hm.at hp with hq | ⟨request, next, start, rfl, rfl⟩
    · exact .reading h hq
    · exact of_reply hr hi h start
  | leaves start h hl hp =>
    rcases hm.at hp with hq | ⟨request, next, again, rfl, -⟩
    · exact .leaves start h hl hq
    · cases hl with
      | idle _ _ _ hidled => cases hidled
  | onward start h ha hk hs _ ih => exact .onward start h ha hk hs (ih hm)

end Paced

namespace Traffic

variable {cutoff : Option Cutoff} {traffic next : Traffic} {i j : Nat} {wire : Wire}

def Paces (terms : Terms) (handler : Handler) (i : Nat) (wire : Wire) (traffic : Traffic) : Prop :=
  ∃ phase, traffic.phases[i]? = some phase ∧ Paced terms handler wire phase

theorem Paces.stepped (hr : 0 < terms.readTimeout) (hi : 0 < terms.idleTimeout)
    (h : Paces terms handler i wire traffic) (hs : Stepped terms handler traffic now j next) :
    Paces terms handler i wire next := by
  obtain ⟨p, hp, hpaced⟩ := h
  obtain ⟨q, hq, rfl | hm⟩ := hs.advance.each i p hp
  · exact ⟨q, hq, hpaced⟩
  · exact ⟨q, hq, hpaced.moves hr hi hm⟩

theorem Paces.run (hr : 0 < terms.readTimeout) (hi : 0 < terms.idleTimeout)
    (h : Paces terms handler i wire traffic) :
    Paces terms handler i wire (run terms handler cutoff traffic) := by
  fun_induction Traffic.run terms handler cutoff traffic with
  | case1 => exact h
  | case2 traffic next hs ih =>
    obtain ⟨j, moment, -, -, hstep⟩ := Traffic.stepped hs
    exact ih (h.stepped hr hi hstep)

end Traffic

namespace Phase

/-- Where a connection is found in the end that stands at a phase when a server is through. It has been
closed; or there are no workers, for which it waits; or it is closed at a cutoff, and what it would do by
itself does not come before that. -/
inductive Found (cutoff : Option Cutoff) (workers : Nat) : Phase → Phase → Prop
  | closed (wire : Wire) : Found cutoff workers (.closed wire) (.closed wire)
  | waiting {request : Request} {wire : Wire} (hc : cutoff = none) (hw : workers = 0) :
      Found cutoff workers (.waiting request wire) (.waiting request wire)
  | cut {c : Cutoff} {phase : Phase} {wire : Wire} (hc : cutoff = some c)
      (ho : phase.isClosed = false)
      (hm : ∀ m, phase.moment? = some m → c.moment.time ≤ m.time)
      (ht : wire.clock = c.moment.time) (hh : wire.history ⊆ phase.wire.history) :
      Found cutoff workers phase (.closed wire)

theorem found_shut {c : Cutoff} {workers : Nat} {phase : Phase} (h : phase.Timely c.moment.time)
    (cut : Wire → Wire)
    (hcut : ∀ wire, (cut wire).clock = c.moment.time ∧ (cut wire).history ⊆ wire.history) :
    phase.Found (some c) workers (phase.shut cut) := by
  have hopen : phase.isClosed = false → phase.shut cut = .closed (cut phase.wire) →
      phase.Found (some c) workers (phase.shut cut) := by
    intro ho he
    rw [he]
    exact .cut rfl ho (fun m hm => h.le hm) (hcut _).1 (hcut _).2
  cases phase with
  | closed wire => exact .closed wire
  | due | waiting | handling => exact hopen rfl rfl

end Phase

namespace Traffic

variable {traffic : Traffic} {i : Nat} {wire : Wire} {c : Cutoff} {workers : Nat}

/-- However all connections are closed at a cutoff, they have kept their times. -/
theorem Paces.close (hr : 0 < terms.readTimeout) (hi : 0 < terms.idleTimeout)
    (h : Paces terms handler i wire traffic) (ht : Timely c.moment.time traffic) :
    ∃ phase found, Paced terms handler wire phase ∧
      (close terms handler c traffic).phases[i]? = some found ∧
      phase.Found (some c) workers found := by
  have hwindUp : ∀ {traffic}, Paces terms handler i wire traffic ∧ Timely c.moment.time traffic →
      ∃ phase found, Paced terms handler wire phase ∧
        (windUp terms c.moment.time traffic).phases[i]? = some found ∧
        phase.Found (some c) workers found := by
    intro traffic h
    obtain ⟨⟨p, hp, hpaced⟩, ht⟩ := h
    have hanswered : Paced terms handler wire (p.answer terms c.moment.time) ∧
        (p.answer terms c.moment.time).Timely c.moment.time :=
      Phase.keeps_answer handler (p := fun phase => Paced terms handler wire phase ∧
        phase.Timely c.moment.time) ⟨hpaced, ht p (List.mem_of_getElem? hp)⟩
        fun hm => ⟨hpaced.moves hr hi hm, hm.timely⟩
    refine ⟨_, _, hanswered.1, ?_, Phase.found_shut hanswered.2 (·.cutAfter c.moment.time)
      fun wire => ⟨rfl, List.filter_sublist.subset⟩⟩
    simp only [windUp, shut, log, List.getElem?_map, hp, Option.map_some]
  unfold Traffic.close
  cases c.grace with
  | nothing =>
    obtain ⟨p, hp, hpaced⟩ := h
    refine ⟨p, _, hpaced, ?_, Phase.found_shut (ht p (List.mem_of_getElem? hp))
      (·.cutFrom c.moment.time) fun wire => ⟨rfl, List.filter_sublist.subset⟩⟩
    simp only [shut, List.getElem?_map, hp, Option.map_some]
  | answers => exact hwindUp ⟨h, ht⟩
  | calls =>
    exact hwindUp (keeps_callDue terms
      (p := fun traffic => Paces terms handler i wire traffic ∧ Timely c.moment.time traffic) ⟨h, ht⟩
      fun hs hk => ⟨hk.1.stepped hr hi hs, hk.2.stepped hs⟩)

end Traffic

namespace Network

variable {network : Network} {workers i : Nat} {accepted : Time} {client : Client}

theorem paces_opening (hr : 0 < terms.readTimeout)
    (ha : network.admitted[i]? = some (accepted, client)) :
    Traffic.Paces terms handler i (client.wire accepted) (network.opening workers terms) := by
  refine ⟨.due (readTurn terms (client.wire accepted)), ?_,
    .reading (Connection.timed_readTurn hr _) (.due _)⟩
  simp only [opening, List.getElem?_map, ha, Option.map_some]

/-- Whatever its clients send and when, and whatever keeps its handler busy or stops it, on each connection
a server keeps to the times for reading a request and for being idle. -/
theorem deadlines_kept (hr : 0 < terms.readTimeout) (hi : 0 < terms.idleTimeout)
    (ha : network.admitted[i]? = some (accepted, client)) :
    ∃ phase found, Paced terms handler (client.wire accepted) phase ∧
      (network.serve workers terms handler).traffic.phases[i]? = some found ∧
      phase.Found network.cutoff workers found := by
  have hpaces : Traffic.Paces terms handler i (client.wire accepted)
      (Traffic.run terms handler network.cutoff (network.opening workers terms)) :=
    (paces_opening hr ha).run hr hi
  cases hc : network.cutoff with
  | none =>
    have hserve : (network.serve workers terms handler).traffic = _ := serve_none hc
    rw [hc] at hpaces
    obtain ⟨phase, hp, hpaced⟩ := hpaces
    have hrest := Traffic.rest_of_step_none
      (Traffic.run_rests (network.opening workers terms)) phase (List.mem_of_getElem? hp)
    refine ⟨phase, phase, hpaced, hserve ▸ hp, ?_⟩
    -- At rest nobody is about to go on, and only without workers does anybody wait for one.
    cases phase with
    | closed wire => exact .closed wire
    | due turn => cases hrest
    | handling => cases hrest
    | waiting request wire =>
      refine .waiting rfl (Nat.eq_zero_of_not_pos fun hw => ?_)
      have hclosed := isClosed_serve network terms handler hw _ (List.mem_of_getElem? (hserve ▸ hp))
      cases hclosed
  | some c =>
    rw [hc] at hpaces
    obtain ⟨shifts, hruns⟩ := network.runs_to terms handler workers c
    rw [serve_some hc]
    exact hpaces.close hr hi (hruns.sound (network.sound_opening workers terms)).timely

def trickler : Client where
  time := 3
  events := [
    { due := 3, what := .data (Bytes.ofString "GET / HTTP/1.1\r\nHost: a\r\n\r\n") },
    { due := 10, what := .data (Bytes.ofString "GET") },
    { due := 15, what := .data (Bytes.ofString " / ") },
    { due := 20, what := .data (Bytes.ofString "HTTP/1.1") },
    { due := 25, what := .data (Bytes.ofString "\r\n") },
    { due := 30, what := .data (Bytes.ofString "Host: a\r\n\r\n") }]

/-- The second request starts to be read at 10, so that it is given up at 22. -/
theorem deadlines_kept_trickling :
    let terms : Terms := { readTimeout := 12, idleTimeout := 8 }
    let network : Network := { clients := [trickler] }
    let handler := Handler.always { written := Http.isWritten_ok }
    0 < terms.readTimeout ∧ 0 < terms.idleTimeout ∧ network.admitted[0]? = some (3, trickler) ∧
      (∃ phase found, Paced terms handler (trickler.wire 3) phase ∧
        (network.serve 1 terms handler).traffic.phases[0]? = some found ∧
        phase.Found network.cutoff 1 found) ∧
      (network.serve 1 terms handler).visits.map (fun visit => (visit.sent.map Prod.fst, visit.closed)) =
        [([3], some 22)] := by
  intro terms network handler
  exact ⟨by decide, by decide, rfl, deadlines_kept (by decide) (by decide) rfl, by decide +kernel⟩

end Network

end FixedReply
