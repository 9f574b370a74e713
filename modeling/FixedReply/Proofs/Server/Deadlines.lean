import FixedReply.Proofs.Server.Timing
import FixedReply.Proofs.Server.Turns
import FixedReply.Proofs.Wire.Receptions

namespace FixedReply

open Http (Request Response)
open Wire (Did Walk Stage outcome)
open Connection (readTurn nextTurn reply abandon lose responseTo answer)

def Terms.reading (terms : Terms) (time : Time) : Terms := { terms with readTimeout := time }

inductive Cause (limits : Limits) (wire next : Wire) : Stop → Prop
  | refused {said : List Act} {why : Http.Fault}
      (ho : outcome limits .start wire.ahead = (said, .stopped why)) : Cause limits wire next (.fault why)
  | strayed {said : List Act} {last : Stage} {left : Bytes} {why : Http.Refusal}
      (walk : Walk limits .start wire.ahead said last left) (hs : last.Strays limits left why) :
      Cause limits wire next (.fault (.refused why))
  | ended {event : Event} {loss : Loss} (hi : event :: next.inbox <:+ wire.inbox)
      (he : event.what.Ends loss) : Cause limits wire next (.lost loss)
  | unsent {what : Failures} (hm : next.Mute) :
      Cause limits wire next (.lost (.broken what))

/-- How the reading of a request ends that starts on a wire. Before the deadline it is read from what has
been received until then, or stopped, and either would happen in the same way with more time. Else it is
given up at the deadline, and with more time nothing would be known about it before. -/
inductive Timed (terms : Terms) (wire : Wire) : Turn → Prop
  | reads {request : Request} {next : Wire} {lead : List Act} {got : List (Time × Bytes)}
      (hc : next.clock < wire.clock + terms.readTimeout)
      (hr : next.received = wire.received ++ got)
      (ht : ∀ e ∈ got, wire.clock ≤ e.1 ∧ e.1 < wire.clock + terms.readTimeout)
      (ho : outcome terms.limits .start (wire.buffer ++ (got.map Prod.snd).flatten) =
        (lead, .read request next.buffer))
      (hl : Lead lead) (did : Did lead wire next)
      (hmore : ∀ time, terms.readTimeout ≤ time →
        readTurn (terms.reading time) wire = .call request next) :
      Timed terms wire (.call request next)
  | stops {stop : Stop} {next final : Wire} {lead : List Act} {records : List Record}
      (hc : final.clock < wire.clock + terms.readTimeout)
      (hs : Cause terms.limits wire next stop) (hl : Lead lead) (did : Did lead wire next)
      (ha : abandon stop next = .close records final)
      (hmore : ∀ time, terms.readTimeout ≤ time →
        readTurn (terms.reading time) wire = .close records final) :
      Timed terms wire (.close records final)
  | expires {final : Wire} {lead : List Act}
      (hc : final.clock = wire.clock + terms.readTimeout)
      (hl : Lead lead) (did : Did (lead ++ [.gaveUp]) wire final)
      (hmore : ∀ time, terms.readTimeout ≤ time →
        wire.clock + terms.readTimeout ≤ (readTurn (terms.reading time) wire).time) :
      Timed terms wire (.close [] final)

/-- When the reading of a request starts that comes after a response: at once if some of it is there
already, and else when some of it is received, if that is in time. -/
inductive Starts (terms : Terms) (sent : Wire) : Wire → Prop
  | buffered (hb : sent.buffer ≠ []) : Starts terms sent sent
  | received {event : Event} {rest : List Event} {b : UInt8} {bytes : Bytes} (hb : sent.buffer = [])
      (hi : sent.inbox = event :: rest) (hw : event.what = .data (b :: bytes))
      (hd : event.due < sent.clock + terms.idleTimeout) :
      Starts terms sent ({ sent.waitFor event.due with inbox := rest }.accept (b :: bytes)).unhurried

inductive Idled (terms : Terms) (sent : Wire) : Turn → Prop
  | expires {final : Wire}
      (hi : ∀ event ∈ sent.inbox.head?, sent.clock + terms.idleTimeout ≤ event.due)
      (hc : final.clock = sent.clock + terms.idleTimeout) (did : Did [.gaveUp] sent final) :
      Idled terms sent (.close [] final)
  | ends {event : Event} {rest : List Event} {loss : Loss} {final : Wire} {records : List Record}
      (hi : sent.inbox = event :: rest) (he : event.what.Ends loss)
      (hd : event.due < sent.clock + terms.idleTimeout)
      (hc : final.clock = max sent.clock event.due) (did : Did [] sent final) :
      Idled terms sent (.close records final)

inductive Leaves (terms : Terms) (request : Request) (response : Response) (wire : Wire) : Turn → Prop
  | unanswered {records : List Record}
      (he : (∃ what, answer request response = .error what) ∨ wire.Mute) :
      Leaves terms request response wire (.close records wire)
  | last {data : Bytes} (ha : answer request response = .ok data) (hk : request.keepAlive = false) :
      Leaves terms request response wire (.close [] (wire.note (.sent data)))
  | idle {data : Bytes} {turn : Turn} (ha : answer request response = .ok data)
      (hk : request.keepAlive = true) (hb : wire.buffer = [])
      (hi : Idled terms (wire.note (.sent data)) turn) : Leaves terms request response wire turn

namespace Connection

variable {terms : Terms} {wire next : Wire} {stop : Stop}

/-- What is not read for a reason of its own has a cause. -/
theorem cause_of_read {time : Time}
    (h : (wire.within time).readRequest terms.limits = (.error stop, next))
    (hx : stop ≠ .lost .expired) : Cause terms.limits wire next.unhurried stop := by
  have has : Wire.whole.Has (wire.within time) wire.ahead := rfl
  have hc : Wire.whole.Concluded terms.limits .start wire.ahead (wire.within time) _ _ :=
    Wire.whole.conclude has .start
  have hread : Stage.start.read terms.limits (wire.within time) = (.error stop, next) := h
  rw [hread] at hc
  cases stop with
  | lost loss =>
    have hd : (wire.within time).deadline ≠ none := nofun
    rcases Wire.ended_read hd hread (fun he => hx (congrArg Stop.lost he)) with
      ⟨event, hi, he⟩ | ⟨hm, what, rfl⟩
    · exact .ended hi he
    · exact .unsent hm
  | fault why =>
    generalize ho : outcome terms.limits .start wire.ahead = out at hc
    cases hc with
    | stopped _ _ he =>
      cases he
      exact .refused ho
    | strayed _ walk hs _ _ he =>
      cases he
      exact .strayed walk hs
    | read _ _ _ he => cases he
    | lost _ _ _ he => cases he
    | lacking h => exact h.elim
    | expired _ he => cases he
    | unsent _ _ _ _ he => cases he

/-- With more time a request is read in the same way before the deadline, or nothing is known there. -/
theorem sooner_readTurn (h : 0 < terms.readTimeout) (wire : Wire) {time : Time}
    (hle : terms.readTimeout ≤ time) :
    Wire.Sooner (.lost .expired) (wire.clock + terms.readTimeout) (wire.clock + time)
      ((wire.within terms.readTimeout).readRequest terms.limits)
      ((wire.within time).readRequest terms.limits) :=
  Wire.sooner_read .start (Nat.lt_add_of_pos_right h) rfl (Nat.add_le_add_left hle wire.clock)

/-- What is known before the deadline is known in the same way with more time. -/
theorem known_of_read {result : Except Stop Request} (h : 0 < terms.readTimeout)
    (hr : (wire.within terms.readTimeout).readRequest terms.limits = (result, next))
    (hx : result ≠ .error (.lost .expired)) :
    next.clock < wire.clock + terms.readTimeout ∧
      ∀ time, terms.readTimeout ≤ time → readTurn (terms.reading time) wire = readTurn terms wire := by
  have hsame : ∀ {time}, terms.readTimeout ≤ time → next.clock < wire.clock + terms.readTimeout ∧
      (wire.within time).readRequest terms.limits = (result, next.before (wire.clock + time)) := by
    intro time hle
    have hsooner := sooner_readTurn h wire hle
    rw [hr] at hsooner
    cases hsooner with
    | same _ hc _ he => exact ⟨hc, he⟩
    | late he => exact absurd he hx
  refine ⟨(hsame (Nat.le_refl _)).1, fun time hle => ?_⟩
  have hread := (hsame hle).2
  cases result with
  | ok request =>
    simp only [readTurn, Terms.reading, hr, hread]
    rfl
  | error stop =>
    simp only [readTurn, Terms.reading, hr, hread]
    rfl

theorem did_read {result : Except Stop Request} {time : Time}
    (hr : (wire.within time).readRequest terms.limits = (result, next)) :
    ∃ lead, Lead lead ∧ Did (lead ++ Wire.stopTraces result) wire next.unhurried := by
  obtain ⟨lead, hl, onward⟩ := Wire.onward_readRequest hr
  have hnext : Did [] next next.unhurried := did_timed next _ _ none
  exact ⟨lead, hl, (did_timed wire _ _ _).then (onward.did.quiet hnext)⟩

theorem timed_of_read {request : Request} (h : 0 < terms.readTimeout)
    (hr : (wire.within terms.readTimeout).readRequest terms.limits = (.ok request, next)) :
    Timed terms wire (.call request next.unhurried) := by
  have hturn : readTurn terms wire = .call request next.unhurried := by simp [readTurn, hr]
  obtain ⟨hclock, hmore⟩ := known_of_read h hr nofun
  rw [hturn] at hmore
  obtain ⟨lead, hl, did⟩ := did_read hr
  rw [Wire.stopTraces, List.append_nil] at did
  obtain ⟨got, said, hgot, hsaid, ho⟩ := Wire.outcome_of_read hr
  have hnext : Did [] next next.unhurried := did_timed next _ _ none
  obtain rfl : said = lead := ((did_timed wire _ _ _).then (hsaid.quiet hnext)).unique did
  refine .reads hclock hgot.received (fun e he => ?_) ho hl did hmore
  obtain ⟨hle, hlt⟩ := hgot.times e he
  exact ⟨hle, Nat.lt_of_le_of_lt hlt hclock⟩

theorem timed_of_stop (h : 0 < terms.readTimeout)
    (hr : (wire.within terms.readTimeout).readRequest terms.limits = (.error stop, next))
    (hx : stop ≠ .lost .expired) : Timed terms wire (abandon stop next.unhurried) := by
  have hturn : readTurn terms wire = abandon stop next.unhurried := by simp [readTurn, hr]
  obtain ⟨hclock, hmore⟩ := known_of_read h hr (fun he => hx (Except.error.inj he))
  obtain ⟨lead, hl, did⟩ := did_read hr
  rw [Wire.stopTraces_of_ne fun he => hx (Except.error.inj he), List.append_nil] at did
  rw [hturn] at hmore
  have htime := time_abandon stop next.unhurried
  cases ha : abandon stop next.unhurried with
  | call request later => exact absurd ha (abandon_ne_call _ _ _ _)
  | close records final =>
    rw [ha] at hmore htime
    have hfinal : final.clock = next.clock := htime
    exact .stops (hfinal ▸ hclock) (cause_of_read hr hx) hl did ha hmore

theorem timed_of_expired (h : 0 < terms.readTimeout)
    (hr : (wire.within terms.readTimeout).readRequest terms.limits = (.error (.lost .expired), next)) :
    Timed terms wire (.close [] next.unhurried) := by
  obtain ⟨lead, hl, did⟩ := did_read hr
  have hlate : ∀ time, terms.readTimeout ≤ time → next.clock = wire.clock + terms.readTimeout ∧
      wire.clock + terms.readTimeout ≤ ((wire.within time).readRequest terms.limits).2.clock := by
    intro time hle
    have hsooner := sooner_readTurn h wire hle
    rw [hr] at hsooner
    cases hsooner with
    | same he => exact absurd rfl he
    | late _ hc hl => exact ⟨hc, hl⟩
  refine .expires (hlate _ (Nat.le_refl _)).1 hl did fun time hle => ?_
  have hnext := (hlate time hle).2
  unfold readTurn
  simp only [Terms.reading]
  split
  · rename_i hread
    rw [hread] at hnext
    exact hnext
  · rename_i hread
    rw [hread] at hnext
    rw [time_abandon]
    exact hnext

/-- The reading of a request meets its deadline, or is given up there. -/
theorem timed_readTurn (h : 0 < terms.readTimeout) (wire : Wire) : Timed terms wire (readTurn terms wire) := by
  unfold readTurn
  split
  · exact timed_of_read h ‹_›
  · rename_i stop next hr
    by_cases hx : stop = .lost .expired
    · subst hx
      exact timed_of_expired h hr
    · exact timed_of_stop h hr hx

theorem idled_of_wait (h : 0 < terms.idleTimeout) {sent : Wire}
    (hi : ∀ event ∈ sent.inbox.head?, sent.clock + terms.idleTimeout ≤ event.due) :
    Idled terms sent (.close []
      ((sent.within terms.idleTimeout).giveUp (sent.clock + terms.idleTimeout)).unhurried) := by
  have hc : (sent.within terms.idleTimeout).clock < sent.clock + terms.idleTimeout :=
    Nat.lt_add_of_pos_right h
  have hwait := Wire.did_giveUp (sent.within terms.idleTimeout) (sent.clock + terms.idleTimeout)
  have did : Did [.gaveUp] sent _ := (did_timed sent _ _ _).then hwait
  exact .expires hi (Wire.clock_giveUp hc) ⟨did.dialogue, did.sendFault⟩

theorem idled_of_end {sent : Wire} {event : Event} {rest : List Event}
    (hi : sent.inbox = event :: rest) (hd : event.due < sent.clock + terms.idleTimeout)
    {received : Except Loss Bool × Wire}
    (hr : (sent.within terms.idleTimeout).receive event rest = received)
    (he : event.what.Ends (Wire.lossOf received.1))
    (hnext : received.2 = { (sent.within terms.idleTimeout).waitFor event.due with inbox := rest })
    (records : List Record) : Idled terms sent (.close records received.2.unhurried) := by
  have hclock := Wire.clock_receive (sent.within terms.idleTimeout) event rest
  rw [hr] at hclock
  refine .ends hi he hd hclock ?_
  rw [hnext]
  have hwait := Wire.did_waitFor (sent.within terms.idleTimeout) event.due
  exact (did_timed sent _ _ _).then ⟨hwait.dialogue, hwait.sendFault⟩

/-- After a response the next request starts to be read, or the connection is closed where it is idle. -/
theorem starts_or_idled (h : 0 < terms.idleTimeout) (sent : Wire) :
    (sent.buffer = [] ∧ Idled terms sent (nextTurn terms sent)) ∨
      ∃ first, Starts terms sent first ∧ nextTurn terms sent = readTurn terms first := by
  unfold nextTurn
  by_cases hb : sent.buffer = []
  · have hempty : sent.buffer.isEmpty = true := List.isEmpty_iff.mpr hb
    have hc : (sent.within terms.idleTimeout).clock < sent.clock + terms.idleTimeout :=
      Nat.lt_add_of_pos_right h
    have hinbox : (sent.within terms.idleTimeout).inbox = sent.inbox := rfl
    rw [if_pos hempty, Wire.fill_eq hc rfl, hinbox]
    cases hi : sent.inbox with
    | nil => exact .inl ⟨hb, idled_of_wait h (by simp [hi])⟩
    | cons event rest =>
      dsimp only
      by_cases hdue : sent.clock + terms.idleTimeout ≤ event.due
      · rw [if_pos hdue]
        exact .inl ⟨hb, idled_of_wait h (by simpa [hi] using hdue)⟩
      · have hlt : event.due < sent.clock + terms.idleTimeout := Nat.lt_of_not_le hdue
        rw [if_neg hdue]
        rcases Wire.receive_eq (sent.within terms.idleTimeout) event rest with
          ⟨b, bytes, hw, he⟩ | ⟨hn, he, hnext⟩
        · refine .inr ⟨_, .received hb hi hw hlt, ?_⟩
          rw [he, Wire.within_eq, Wire.waitFor_before]
          rfl
        · have hidled := idled_of_end hi hlt rfl he hnext
          refine .inl ⟨hb, ?_⟩
          generalize (sent.within terms.idleTimeout).receive event rest = received at hn hidled
          obtain ⟨loss | taken, next⟩ := received
          · exact hidled _
          · cases taken with
            | true => exact absurd rfl hn
            | false => exact hidled []
  · have hsome : ¬ sent.buffer.isEmpty = true := fun he => hb (List.isEmpty_iff.mp he)
    rw [if_neg hsome]
    exact .inr ⟨sent, .buffered hb, rfl⟩

/-- With the answer to a request its connection ends, or the next request starts to be read after it. -/
theorem leaves_or_starts (h : 0 < terms.idleTimeout) (request : Request) (response : Response)
    (wire : Wire) :
    Leaves terms request response wire (reply terms request response wire) ∨
      ∃ data first, answer request response = .ok data ∧ request.keepAlive = true ∧
        Starts terms (wire.note (.sent data)) first ∧
        reply terms request response wire = readTurn terms first := by
  unfold reply
  cases ha : answer request response with
  | error what => exact .inl (.unanswered (.inl ⟨what, ha⟩))
  | ok data =>
    rcases Wire.send_eq wire data with hs | ⟨hm, what, hs⟩
    · dsimp only
      rw [hs]
      dsimp only
      by_cases hk : request.keepAlive = true
      · rw [if_pos hk]
        rcases starts_or_idled h (wire.note (.sent data)) with ⟨hb, hi⟩ | ⟨first, hstarts, he⟩
        · exact .inl (.idle ha hk hb hi)
        · exact .inr ⟨data, first, rfl, hk, hstarts, he⟩
      · rw [if_neg hk]
        exact .inl (.last ha (Bool.eq_false_iff.mpr hk))
    · dsimp only
      rw [hs]
      exact .inl (.unanswered (.inr hm))

end Connection

end FixedReply
