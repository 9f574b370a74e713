import FixedReply.Proofs.Server.Accounts

namespace FixedReply

open Http (Request Response)
open Connection (readTurn responseTo answer outcomeRecords)
open Wire (Newest upcoming)

variable {terms : Terms} {handler : Handler} {cutoff : Option Cutoff} {turn : Turn} {p q : Phase}

def Halted (terms : Terms) (handler : Handler) (cutoff : Option Cutoff) (turn : Turn) (wire : Wire) :
    Prop :=
  ∃ final late, Life terms handler turn final ∧ final.history = late ++ wire.history ∧
    ∀ e ∈ late, ¬ InTime cutoff e.1

/-- What is done late is done last. -/
theorem Wire.Newest.split {acts : List (Time × Act)} (h : Newest acts) (bound : Time) :
    acts = acts.filter (bound ≤ ·.1) ++ acts.filter (·.1 < bound) := by
  induction acts with
  | nil => rfl
  | cons e rest ih =>
    obtain ⟨hfirst, hrest⟩ := List.pairwise_cons.mp h
    by_cases he : bound ≤ e.1
    · simpa [he] using ih hrest
    · have hnone : rest.filter (bound ≤ ·.1) = [] := by
        refine List.filter_eq_nil_iff.mpr fun old ho => ?_
        simpa using Nat.lt_of_le_of_lt (hfirst old ho) (Nat.lt_of_not_le he)
      have hsame := ih hrest
      rw [hnone, List.nil_append] at hsame
      simp [he, hnone, ← hsame, Nat.lt_of_not_le he]

/-- To be stopped at a cutoff is to be halted. -/
theorem Phase.Stands.halted {c : Cutoff} (h : p.Stands terms handler (some c) turn c.moment.time)
    (hl : p.Lasts c.bound) (ho : p.isClosed = false) :
    Halted terms handler (some c) turn (c.cut p.wire) := by
  have hend : ∃ final, p.EndsIn terms handler final ∧ Wire.Late c.bound p.wire final := exists_end hl
  obtain ⟨final, hends, acts, hf, hlate⟩ := hend
  refine ⟨final, acts ++ p.wire.history.filter (c.bound ≤ ·.1), h.goesOn ho final hends, ?_, fun e he => ?_⟩
  · rw [List.append_assoc, Cutoff.cut, ← h.dated.newest.split, hf]
  · intro hin
    refine Nat.not_le_of_lt (hin c rfl) ?_
    rcases List.mem_append.mp he with he | he
    · exact hlate e he
    · simpa using (List.mem_filter.mp he).2

namespace Traffic

variable {traffic next : Traffic} {turns : List Turn} {now : Time} {i : Nat} {c : Cutoff}

def Halts (terms : Terms) (handler : Handler) (cutoff : Option Cutoff) (turns : List Turn)
    (traffic : Traffic) : Prop :=
  ∀ (i : Nat) (turn : Turn) (wire : Wire), turns[i]? = some turn →
    traffic.phases[i]? = some (.closed wire) → Halted terms handler cutoff turn wire

theorem Halts.stepped (h : Halts terms handler cutoff turns traffic)
    (ho : Orderly terms handler cutoff turns now traffic) (hs : Stepped terms handler traffic now i next) :
    Halts terms handler cutoff turns next := by
  intro j turn wire hj hn
  obtain ⟨p, hp, hstands⟩ := ho.each j turn hj
  obtain ⟨q, hq, hor⟩ := hs.advance.each j p hp
  rw [hn] at hq
  cases hq
  rcases hor with rfl | hm
  · exact h j turn wire hj hp
  · cases hm with
    | closes => exact ⟨wire, [], hstands.goesOn rfl wire (.close _ _), rfl, nofun⟩

/-- To close all connections at the cutoff is to halt them, after what is settled then. -/
theorem Halts.shut (h : Halts terms handler (some c) turns traffic)
    (ho : Orderly terms handler (some c) turns c.moment.time traffic) (settle : Phase → Phase)
    (records : List Record) (hc : ∀ phase wire, settle phase = .closed wire → phase = .closed wire)
    (hs : ∀ {phase turn}, phase.Stands terms handler (some c) turn c.moment.time →
      (settle phase).Stands terms handler (some c) turn c.moment.time ∧ (settle phase).Lasts c.bound) :
    Halts terms handler (some c) turns
      ((traffic.log records).shut fun phase => (settle phase).shut c.cut) := by
  intro i turn wire hi hn
  obtain ⟨p, hp, hstands⟩ := ho.each i turn hi
  obtain ⟨hsettled, hlasts⟩ := hs hstands
  have hshut : (settle p).shut c.cut = .closed wire := by
    simpa [Traffic.shut, log, hp] using hn
  cases hopen : (settle p).isClosed with
  | false =>
    rw [Phase.shut_of_open _ hopen] at hshut
    cases hshut
    exact hsettled.halted hlasts hopen
  | true =>
    obtain ⟨before, he⟩ := Phase.eq_closed hopen
    rw [he] at hshut
    cases hshut
    exact h i turn wire hi (hp.trans (congrArg some (hc p wire he)))

theorem closed_of_answer {wire : Wire} (h : p.answer terms now = .closed wire) : p = .closed wire := by
  cases p with
  | closed | due | waiting => exact h
  | handling ends request outcome wire =>
    simp only [Phase.answer] at h
    split at h <;> cases h

/-- Whatever is passed, the connections that are closed have been halted. -/
theorem Passes.halts {start : Traffic} {closed : List (Nat × Wire)}
    (h : Passes terms handler cutoff start closed now traffic)
    (h₀ : Orderly terms handler cutoff turns 0 start)
    (hopen : ∀ phase ∈ start.phases, phase.isClosed = false) :
    Halts terms handler cutoff turns traffic := by
  refine h.keeps h₀ (p := Halts terms handler cutoff turns) ?_ (fun ho _ hs hh => hh.stepped ho hs)
    (fun hc hg ho hh => ?_) fun hc hg ho hh => ?_
  · intro i turn wire _ hi
    cases hopen _ (List.mem_of_getElem? hi)
  · subst hc
    exact hh.shut ho id [] (fun _ _ he => he)
      fun hs => ⟨hs, bound_of_nothing hg ▸ hs.timely.lasts⟩
  · subst hc
    exact hh.shut ho _ _ (fun _ _ => closed_of_answer) fun hs =>
      ⟨hs.answer (inTime_of_grace hg), bound_of_grace hg ▸ hs.timely.lasts_answer⟩

end Traffic

/-- What is lacking in a chronicle is late. -/
theorem Halted.chronicle {wire : Wire} (h : Halted terms handler cutoff turn wire) :
    ∃ final more, Life terms handler turn final ∧ final.chronicle = wire.chronicle ++ more ∧
      ∀ e ∈ more, ¬ InTime cutoff e.1 := by
  obtain ⟨final, late, life, hf, hlate⟩ := h
  refine ⟨final, late.reverse.filter (!·.2.isReception), life, by simp [Wire.chronicle, hf], fun e he => ?_⟩
  exact hlate e (List.mem_reverse.mp (List.mem_filter.mp he).1)

namespace Network

variable {network : Network} {workers : Nat} {session : Session}

/-- What becomes of the calls. On each connection, every call that ends in time and after which sending
succeeds is answered once exactly if the fields of its response can be written. What its handler fails with
is logged for each call that ends in time. -/
structure Answering (network : Network) (terms : Terms) (handler : Handler) (session : Session) : Prop where
  answered : ∀ {i : Nat} {accepted : Time} {client : Client},
    network.admitted[i]? = some (accepted, client) →
      ∃ wire, session.traffic.phases[i]? = some (.closed wire) ∧
        ∀ {front back : List (Time × Act)} {start : Time} {request : Request},
          wire.chronicle = front ++ (start, .called request) :: back →
          InTime network.cutoff (start + (handler request).delay) →
          Sends client.sendFault (sendings front) →
            (Answered terms.limits handler (upcoming client.events) start request back ↔
              (responseTo (handler request).outcome).Representable request.keepAlive request.version)
  logged : Logged handler network.cutoff session.traffic.phases session.records

theorem booked_opening (network : Network) (workers : Nat) (terms : Terms) (handler : Handler)
    (cutoff : Option Cutoff) : Traffic.Booked handler cutoff (network.opening workers terms) := by
  have hfirst : ∀ phase ∈ (network.opening workers terms).phases,
      phase.Calling handler ∧ phase.ended = [] := by
    intro phase hp
    obtain ⟨⟨accepted, client⟩, -, rfl⟩ := List.mem_map.mp hp
    exact ⟨trivial, Connection.called_readTurn terms (client.wire accepted)⟩
  refine ⟨fun phase hp => (hfirst phase hp).1, [], ?_, nofun⟩
  have hnone : (network.opening workers terms).phases.flatMap
      (fun phase => accounts handler cutoff phase.ended) = [] := by
    refine List.flatMap_eq_nil_iff.mpr fun phase hp => ?_
    rw [(hfirst phase hp).2]
    rfl
  rw [hnone]
  exact .refl _

/-- Whatever stops a server, what it has done by then on a connection is how its requests are attended to,
but for what is late. -/
theorem attended_serve (network : Network) (hw : 0 < workers) (terms : Terms) (handler : Handler) {i : Nat}
    {accepted : Time} {client : Client} (hi : network.admitted[i]? = some (accepted, client)) :
    ∃ wire more, (network.serve workers terms handler).traffic.phases[i]? = some (.closed wire) ∧
      Attended terms.limits handler client.sendFault (upcoming client.events) 0
        (wire.chronicle ++ more) ∧
      ∀ e ∈ more, ¬ InTime network.cutoff e.1 := by
  obtain ⟨closed, now, hpasses⟩ := network.passes_serve workers terms handler
  have h₀ := network.orderly_opening workers terms handler
  have hturn : (network.firstTurns terms)[i]? = some (readTurn terms (client.wire accepted)) := by
    simp [firstTurns, hi]
  obtain ⟨phase, hp, -⟩ := (hpasses.orderly h₀).each i _ hturn
  obtain ⟨wire, rfl⟩ := Phase.eq_closed (network.isClosed_serve terms handler hw phase
    (List.mem_of_getElem? hp))
  -- The connection lacks only what is late on the way to an end of its own.
  obtain ⟨final, more, life, hf, hlate⟩ :=
    (hpasses.halts h₀ (network.open_opening workers terms) i _ wire hturn hp).chronicle
  have has : Wire.whole.Has (client.wire accepted) (upcoming client.events) := client.ahead_wire accepted
  obtain ⟨dated, hd, hattended⟩ := life.attends (Connection.turned_readTurn terms has)
    (Connection.grows_readTurn terms _)
  obtain rfl : wire.chronicle ++ more = dated := hf.symm.trans hd
  exact ⟨wire, more, hp, hattended, hlate⟩

/-- Whatever its handler comes to, a server answers the calls whose responses can be written, and no
others. -/
theorem answering_serve (network : Network) (hw : 0 < workers) (terms : Terms) (handler : Handler) :
    network.Answering terms handler (network.serve workers terms handler) := by
  refine ⟨fun {i accepted client} hi => ?_, ?_⟩
  · obtain ⟨wire, more, hp, hattended, hlate⟩ := network.attended_serve hw terms handler hi
    refine ⟨wire, hp, fun {front back start request} hc hin hs => ?_⟩
    rw [hc, List.append_assoc, List.cons_append] at hattended
    rw [← Response.encodes_iff]
    refine hattended.answered_iff (by simpa using hs) fun e he hsame => ?_
    exact hlate e he (hsame ▸ hin)
  · obtain ⟨closed, now, hpasses⟩ := network.passes_serve workers terms handler
    have hbooked := hpasses.booked (network.orderly_opening workers terms handler)
      (network.booked_opening workers terms handler _)
    obtain ⟨others, hperm, hothers⟩ := hbooked.logged
    exact ⟨others, (List.reverse_perm _).trans hperm, hothers⟩

def failing : Handler := fun _ => { delay := 1, outcome := .error (.runtime "boom") }

def twoCalls : Network where
  clients := [{
    events := [
      { what := .data (Bytes.ofString "GET /x HTTP/1.1\r\nHost: a\r\n\r\n") },
      { due := 5, what := .data (Bytes.ofString "GET /y HTTP/1.1\r\nHost: a\r\n\r\n") }] }]
  cancelAt := some 6

/-- The first call fails, is answered and logged; the second one does not end in time. -/
theorem answering_serve_failing :
    0 < 1 ∧ twoCalls.Answering {} failing (twoCalls.serve 1 {} failing) ∧
      (twoCalls.serve 1 {} failing).calls.map Prod.fst = [0, 5] ∧
      (twoCalls.serve 1 {} failing).records.map Record.message = ["handler error for GET /x"] ∧
      (twoCalls.serve 1 {} failing).visits = [{
        sent := [(1, Bytes.ofString ("HTTP/1.1 500 Internal Server Error\r\n" ++
          "Content-Type: text/plain; charset=utf-8\r\nContent-Length: 26\r\n\r\n" ++
          "500 Internal Server Error\n"))]
        closed := some 6 }] :=
  ⟨by decide, twoCalls.answering_serve (by decide) {} failing, by decide +kernel⟩

end Network

def oneRequest : Network where
  clients := [{
    events := [
      { what := .data (Bytes.ofString "GET / HTTP/1.1\r\nHost: a\r\n\r\n") },
      { what := .failure (.one .endOfStream) }] }]

def priced : Response where
  headers := .ofPairs [("x", "€")]
  body := some (Bytes.ofString "hi")
  written := Http.isWritten_ok

/-- A call that ends at once, and after which nothing is sent. -/
theorem not_answered_priced :
    let get : Request := {
      method := "GET"
      path := "/"
      version := "HTTP/1.1"
      headers := .ofPairs [("host", "a")] }
    let session := oneRequest.serve 1 {} (Handler.always priced)
    session.traffic.phases.map (·.wire.chronicle) = [[(0, .called get)]] ∧
      session.visits = [{ sent := [], closed := some 0 }] ∧
      ∀ stream, ¬ Answered {} (Handler.always priced) stream 0 get [] := by
  intro get session
  refine ⟨?_, ?_, nofun⟩
  · decide +kernel
  · decide +kernel

end FixedReply
