import FixedReply.Proofs.Server.Limits
import FixedReply.Proofs.Server.Paced

namespace FixedReply

open Http (Request Response)
open Connection (readTurn reply responseTo endRecord outcomeRecords)
open Wire (Grows)

def Cutoff.bound (cutoff : Cutoff) : Time :=
  match cutoff.grace with
  | .nothing => cutoff.moment.time
  | .answers | .calls => cutoff.moment.time + 1

theorem Cutoff.bound_le (cutoff : Cutoff) : cutoff.bound ≤ cutoff.moment.time + 1 := by
  unfold bound
  split
  · exact Nat.le_succ _
  · exact Nat.le_refl _
  · exact Nat.le_refl _

def Cutoff.cut (cutoff : Cutoff) (wire : Wire) : Wire :=
  { wire with clock := cutoff.moment.time, history := wire.history.filter (·.1 < cutoff.bound) }

def InTime (cutoff : Option Cutoff) (time : Time) : Prop := ∀ c, cutoff = some c → time < c.bound

theorem InTime.mono {cutoff : Option Cutoff} {time later : Time} (h : InTime cutoff later)
    (hl : time ≤ later) : InTime cutoff time :=
  fun c hc => Nat.lt_of_le_of_lt hl (h c hc)

def Record.TellsOfHandler (record : Record) : Prop :=
  ∃ said, record.message = "handler error for " ++ said

def Record.TellsTruly (handler : Handler) (record : Record) (request : Request) : Prop :=
  ∃ what, (handler request).outcome = .error what ∧ record ∈ outcomeRecords request (.error what)

namespace Wire

structure Dated (wire : Wire) : Prop where
  newest : Newest wire.history
  done : ∀ e ∈ wire.history, e.1 ≤ wire.clock

theorem mem_called_note (wire : Wire) (request : Request) :
    (wire.clock, request) ∈ (wire.note (.called request)).called := by
  rw [called_note]
  exact List.mem_append_right _ (List.mem_singleton.mpr rfl)

/-- What has been done with the second wire but not with the first was done at a time or after. -/
def Late (bound : Time) (before after : Wire) : Prop :=
  ∃ acts, after.history = acts ++ before.history ∧ ∀ e ∈ acts, bound ≤ e.1

variable {bound : Time} {a b c : Wire}

theorem Grows.dated (h : Grows a b) (ha : a.Dated) : b.Dated := by
  obtain ⟨acts, hb, hnewest, hacts⟩ := h.history
  refine ⟨?_, fun e he => ?_⟩
  · rw [hb]
    refine List.pairwise_append.mpr ⟨hnewest, ha.newest, fun later hl earlier he => ?_⟩
    exact Nat.le_trans (ha.done earlier he) (hacts later hl).1
  · rw [hb] at he
    rcases List.mem_append.mp he with he | he
    · exact (hacts e he).2
    · exact Nat.le_trans (ha.done e he) h.clock_le

theorem Grows.called (h : Grows a b) : ∀ call ∈ a.called, call ∈ b.called := by
  obtain ⟨acts, hb, -, -⟩ := h.history
  intro call hc
  rw [mem_called, hb]
  exact List.mem_append_right _ (mem_called.mp hc)

theorem Grows.late (h : Grows a b) (hb : bound ≤ a.clock) : Late bound a b := by
  obtain ⟨acts, hb', -, hacts⟩ := h.history
  exact ⟨acts, hb', fun e he => Nat.le_trans hb (hacts e he).1⟩

theorem Late.refl (bound : Time) (wire : Wire) : Late bound wire wire := ⟨[], rfl, nofun⟩

theorem Late.trans (h : Late bound a b) (h' : Late bound b c) : Late bound a c := by
  obtain ⟨acts, ha, hacts⟩ := h
  obtain ⟨more, hm, hmore⟩ := h'
  refine ⟨more ++ acts, by rw [hm, ha, List.append_assoc], fun e he => ?_⟩
  rcases List.mem_append.mp he with he | he
  · exact hmore e he
  · exact hacts e he

/-- What is late does not count before. -/
theorem Late.filter (h : Late bound a b) :
    b.history.filter (·.1 < bound) = a.history.filter (·.1 < bound) := by
  obtain ⟨acts, hb, hacts⟩ := h
  have hnone : acts.filter (·.1 < bound) = [] := by
    refine List.filter_eq_nil_iff.mpr fun e he => ?_
    simpa using hacts e he
  rw [hb, List.filter_append, hnone, List.nil_append]

end Wire

open Wire (Late)

variable {terms : Terms} {handler : Handler} {cutoff : Option Cutoff} {now time : Time} {turn : Turn}
  {p q : Phase}

/-- Whoever waits long enough for a worker does nothing before a time. -/
theorem exists_life (terms : Terms) (handler : Handler) (bound : Time) (turn : Turn) :
    ∃ final, Life terms handler turn final ∧ Late bound turn.wire final := by
  -- Every request takes some of the bytes that are unread, so that the turn after it weighs less.
  induction hw : (Phase.due turn).weight using Nat.strongRecOn generalizing turn with
  | ind weight ih =>
    subst hw
    cases turn with
    | close records wire => exact ⟨wire, .close records wire, .refl bound wire⟩
    | call request wire =>
      let start := max bound wire.clock
      let returned := handler.returned start request wire
      have hlight : _ < wire.unread + 4 := Nat.lt_of_lt_of_le
        (Traffic.weight_due_reply terms request (responseTo (handler request).outcome) returned)
        (Nat.add_le_add_left (by decide) _)
      obtain ⟨final, life, hfinal⟩ := ih _ hlight _ rfl
      have hbound : bound ≤ returned.clock := Nat.le_trans (Nat.le_max_left _ _) (Nat.le_add_right _ _)
      have hcall : Late bound wire returned := by
        refine ⟨[(start, .called request)], rfl, fun e he => ?_⟩
        rw [List.mem_singleton.mp he]
        exact Nat.le_max_left _ _
      have hreply := (Connection.grows_reply terms request (responseTo (handler request).outcome)
        returned).late hbound
      exact ⟨final, .call start life, (hcall.trans hreply).trans hfinal⟩

namespace Phase

def Lasts (bound : Time) : Phase → Prop
  | handling ends _ _ _ => bound ≤ ends
  | _ => True

theorem Timely.lasts (h : p.Timely now) : p.Lasts now := by
  cases p with
  | handling => exact h.2
  | due | waiting | closed => trivial

/-- Once the calls have been answered that end now, the others last longer. -/
theorem Timely.lasts_answer (h : p.Timely now) : (p.answer terms now).Lasts (now + 1) := by
  cases p with
  | handling ends request outcome wire =>
    simp only [answer]
    by_cases he : ends = now
    · rw [if_pos he]
      trivial
    · rw [if_neg he]
      exact Nat.lt_of_le_of_ne h.2 (Ne.symm he)
  | due | waiting | closed => trivial

/-- However long a connection is kept waiting, it may come to an end after that. -/
theorem exists_end {bound : Time} (h : p.Lasts bound) :
    ∃ final, p.EndsIn terms handler final ∧ Late bound p.wire final := by
  cases p with
  | due turn => exact exists_life terms handler bound turn
  | waiting request wire => exact exists_life terms handler bound (.call request wire)
  | closed wire => exact ⟨wire, rfl, .refl bound wire⟩
  | handling ends request outcome wire =>
    obtain ⟨final, life, hfinal⟩ := exists_life terms handler bound
      (reply terms request (responseTo outcome) (wire.later ends))
    have hreply := (Connection.grows_reply terms request (responseTo outcome)
      (wire.later ends)).late h
    exact ⟨final, life, hreply.trans hfinal⟩

/-- Whoever moves on has done more. -/
theorem Moves.grows (h : Moves terms handler now p q) (ht : p.Timely now) : Grows p.wire q.wire := by
  have hcall : ∀ {request wire}, wire.clock ≤ now →
      Grows wire (calling handler now request wire).wire := by
    intro request wire hc
    have hresume : Grows wire (wire.resume now) := Wire.grows_idle hc rfl
    exact hresume.trans (Wire.grows_note _ _)
  cases h with
  | queues | closes => exact .refl _
  | begins hc => exact hcall (Nat.le_of_eq hc)
  | wakes => exact hcall ht
  | @ends request outcome wire =>
    have hlater : Grows wire (wire.later now) := Wire.grows_idle ht.1 rfl
    exact hlater.trans (Connection.grows_reply terms request (responseTo outcome) (wire.later now))

/-- What a connection may come to log is true: its call is in its history, comes to what the handler makes
of the request and ends when the handler has had its time, and its end tells of no handler. -/
def Truthful (handler : Handler) : Phase → Prop
  | handling ends request outcome wire =>
    outcome = (handler request).outcome ∧
      ∃ start, ends = start + (handler request).delay ∧ (start, request) ∈ wire.called
  | due (.close records _) => ∀ record ∈ records, ¬ record.TellsOfHandler
  | _ => True

end Phase

/-- A message that starts in another way tells of no handler. -/
theorem not_tellsOfHandler {record : Record} (c : Char) (h : record.message.toList.head? = some c)
    (hc : c ≠ 'h') : ¬ record.TellsOfHandler := by
  rintro ⟨said, hs⟩
  rw [hs, String.toList_append, List.head?_append] at h
  exact hc (Option.some.inj h).symm

namespace Connection

inductive Parting : Record → Prop
  | ended (what : Failures) : Parting (endRecord what)
  | refused (why : Http.Refusal) : Parting {
      level := .debug, source := logSource, message := "rejecting request: " ++ why.problem.text }

theorem Parting.initial {record : Record} (h : Parting record) :
    ∃ c ∈ ['u', 'c', 'r'], record.message.toList.head? = some c := by
  cases h with
  | ended what =>
    have hunexpected : "unexpected error while serving connection".toList.head? = some 'u' := by decide
    unfold endRecord
    dsimp only
    split
    · split
      · refine ⟨'c', by decide, ?_⟩
        rw [String.toList_append, List.head?_append]
        rfl
      · exact ⟨'u', by decide, hunexpected⟩
    · exact ⟨'u', by decide, hunexpected⟩
  | refused why =>
    refine ⟨'r', by decide, ?_⟩
    rw [String.toList_append, List.head?_append]
    rfl

theorem Parting.not_tellsOfHandler {record : Record} (h : Parting record) : ¬ record.TellsOfHandler := by
  obtain ⟨c, hc, hinitial⟩ := h.initial
  refine FixedReply.not_tellsOfHandler c hinitial ?_
  rintro rfl
  exact absurd hc (by decide)

end Connection

open Connection (Parting)

def Turn.Parts : Turn → Prop
  | call _ _ => True
  | close records _ => ∀ record ∈ records, Parting record

theorem Turn.Parts.truthful {turn : Turn} (h : turn.Parts) : (Phase.due turn).Truthful handler := by
  cases turn with
  | call => trivial
  | close records wire => exact fun record hr => (h record hr).not_tellsOfHandler

namespace Connection

theorem parts_nothing (wire : Wire) : (Turn.close [] wire).Parts := by
  intro record hr
  cases hr

theorem parts_lose (loss : Loss) (wire : Wire) : (lose loss wire).Parts := by
  intro record hr
  cases loss with
  | expired => cases hr
  | cutShort | broken =>
    rw [List.mem_singleton.mp hr]
    exact .ended _

theorem parts_fail (what : Failures) (wire : Wire) : (fail what wire).Parts := by
  intro record hr
  rw [List.mem_singleton.mp hr]
  exact .ended what

theorem parts_refuse (why : Http.Refusal) (wire : Wire) : (refuse why wire).Parts := by
  have hends : ∀ (what : Failures) (next : Wire), (Turn.close [{
      level := .debug, source := logSource, message := "rejecting request: " ++ why.problem.text },
      endRecord what] next).Parts := by
    intro what next record hr
    simp only [List.mem_cons, List.not_mem_nil, or_false] at hr
    rcases hr with rfl | rfl
    · exact .refused why
    · exact .ended what
  unfold refuse
  dsimp only
  split
  · exact hends _ _
  · split
    · exact hends _ _
    · intro record hr
      rw [List.mem_singleton.mp hr]
      exact .refused why

theorem parts_readTurn (terms : Terms) (wire : Wire) : (readTurn terms wire).Parts := by
  unfold readTurn
  split
  · trivial
  · unfold abandon
    split
    · exact parts_refuse _ _
    · exact parts_fail _ _
    · exact parts_lose _ _

theorem parts_nextTurn (terms : Terms) (wire : Wire) : (nextTurn terms wire).Parts := by
  unfold nextTurn
  split
  · split
    · exact parts_readTurn terms _
    · exact parts_nothing _
    · exact parts_lose _ _
  · exact parts_readTurn terms wire

theorem parts_reply (terms : Terms) (request : Request) (response : Response) (wire : Wire) :
    (reply terms request response wire).Parts := by
  unfold reply
  split
  · exact parts_fail _ _
  · split
    · exact parts_fail _ _
    · split
      · exact parts_nextTurn terms _
      · exact parts_nothing _

end Connection

/-- How a connection that has come to a turn is closed with a wire: by itself and in time, or at a cutoff
up to which it has done what it would have done in a life of its own. -/
inductive Ceased (terms : Terms) (handler : Handler) (cutoff : Option Cutoff) (turn : Turn) : Wire → Prop
  | ended {wire : Wire} (life : Life terms handler turn wire) (ht : InTime cutoff wire.clock) :
      Ceased terms handler cutoff turn wire
  | stopped {c : Cutoff} {wire final : Wire} (hc : cutoff = some c)
      (life : Life terms handler turn final) (ht : wire.clock = c.moment.time)
      (hh : wire.history = final.history.filter (·.1 < c.bound)) :
      Ceased terms handler cutoff turn wire

namespace Phase

structure Stands (terms : Terms) (handler : Handler) (cutoff : Option Cutoff) (turn : Turn)
    (now : Time) (phase : Phase) : Prop where
  goesOn : phase.isClosed = false → (Phase.due turn).Precedes terms handler phase
  ceased : ∀ wire, phase = .closed wire → Ceased terms handler cutoff turn wire
  dated : phase.wire.Dated
  timely : phase.Timely now
  truthful : phase.Truthful handler

theorem Stands.later (h : p.Stands terms handler cutoff turn now) (hl : now ≤ time)
    (hn : ∀ m, p.moment? = some m → time ≤ m.time) : p.Stands terms handler cutoff turn time :=
  { h with timely := h.timely.later hl hn }

theorem Moves.truthful (h : Moves terms handler now p q) : q.Truthful handler := by
  cases h with
  | queues | closes => trivial
  | begins | wakes => exact ⟨rfl, now, rfl, Wire.mem_called_note (Wire.resume _ now) _⟩
  | ends => exact (Connection.parts_reply terms _ _ _).truthful

/-- A connection that moves on in time is on its way to the same ends. -/
theorem Stands.moves (h : p.Stands terms handler cutoff turn now) (hm : Moves terms handler now p q)
    (hn : InTime cutoff now) : q.Stands terms handler cutoff turn now := by
  have hopen : p.isClosed = false := by cases hm <;> rfl
  have hprecedes : (Phase.due turn).Precedes terms handler q :=
    fun final he => h.goesOn hopen final (Traffic.precedes_of_moves hm final he)
  refine ⟨fun _ => hprecedes, ?_, (hm.grows h.timely).dated h.dated, hm.timely, hm.truthful⟩
  rintro wire rfl
  cases hm with
  | closes hc => exact .ended (hprecedes wire rfl) (hc ▸ hn)

theorem Stands.answer (h : p.Stands terms handler cutoff turn now) (hn : InTime cutoff now) :
    (p.answer terms now).Stands terms handler cutoff turn now :=
  keeps_answer handler h fun hm => h.moves hm hn

theorem shut_of_open (cut : Wire → Wire) (h : p.isClosed = false) : p.shut cut = .closed (cut p.wire) := by
  cases p with
  | closed => cases h
  | due | waiting | handling => rfl

/-- A connection that is stopped does not do what it would have done later. -/
theorem Stands.shut {c : Cutoff} (h : p.Stands terms handler (some c) turn c.moment.time)
    (hl : p.Lasts c.bound) : (p.shut c.cut).Stands terms handler (some c) turn c.moment.time := by
  cases ho : p.isClosed with
  | true =>
    obtain ⟨wire, rfl⟩ := eq_closed ho
    exact h
  | false =>
    rw [shut_of_open _ ho]
    refine ⟨nofun, ?_, ⟨h.dated.newest.filter _, fun e he => ?_⟩, trivial, trivial⟩
    · rintro wire hw
      cases hw
      -- Of all the ends that it might have come to, one begins only after the cutoff.
      obtain ⟨final, hends, hlate⟩ := exists_end hl
      exact .stopped rfl (h.goesOn ho final hends) rfl hlate.filter.symm
    · have hin : e.1 < c.bound := by simpa using (List.mem_filter.mp he).2
      exact Nat.le_of_lt_succ (Nat.lt_of_lt_of_le hin c.bound_le)

/-- To be stopped is to forget no call that has been made before. -/
theorem called_shut {c : Cutoff} {call : Time × Request} (h : call ∈ p.wire.called)
    (hb : call.1 < c.bound) : call ∈ (p.shut c.cut).wire.called := by
  cases ho : p.isClosed with
  | true =>
    obtain ⟨wire, rfl⟩ := eq_closed ho
    exact h
  | false =>
    rw [shut_of_open _ ho, wire, Wire.mem_called]
    exact List.mem_filter.mpr ⟨Wire.mem_called.mp h, by simpa using hb⟩

theorem called_answer (h : p.Timely now) :
    ∀ call ∈ p.wire.called, call ∈ (p.answer terms now).wire.called :=
  keeps_answer (Handler.always {}) (p := fun q => ∀ call ∈ p.wire.called, call ∈ q.wire.called)
    (fun _ hc => hc) fun hm => (hm.grows h).called

theorem Truthful.answer (h : p.Truthful handler) : (p.answer terms now).Truthful handler :=
  keeps_answer handler h fun hm => hm.truthful

/-- What a connection leaves when it is closed by itself tells of no handler. -/
theorem Truthful.closeRecords (h : p.Truthful handler) :
    ∀ record ∈ p.closeRecords now, ¬ record.TellsOfHandler := by
  intro record hr
  cases p with
  | waiting | handling | closed => cases hr
  | due turn =>
    cases turn with
    | call => cases hr
    | close records wire =>
      simp only [Phase.closeRecords] at hr
      split at hr
      · exact h record hr
      · cases hr

/-- If the last that a connection leaves tells of its handler, then its call ends now, and has failed. -/
theorem Truthful.lastRecords (h : p.Truthful handler) {record : Record}
    (hr : record ∈ p.lastRecords terms now) (ht : record.TellsOfHandler) :
    ∃ start request, (start, request) ∈ p.wire.called ∧ start + (handler request).delay = now ∧
      record.TellsTruly handler request := by
  rcases List.mem_append.mp hr with hr | hr
  · cases p with
    | due | waiting | closed => cases hr
    | handling ends request outcome wire =>
      obtain ⟨rfl, start, rfl, hc⟩ := h
      simp only [answerRecords] at hr
      split at hr
      · rename_i hnow
        refine ⟨start, request, hc, hnow, ?_⟩
        generalize ho : (handler request).outcome = outcome at hr
        cases outcome with
        | ok => cases hr
        | error what => exact ⟨what, ho, hr⟩
      · cases hr
  · exact absurd ht (h.answer.closeRecords record hr)

end Phase

end FixedReply
