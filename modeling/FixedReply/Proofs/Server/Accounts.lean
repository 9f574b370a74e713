import FixedReply.Proofs.Server.Attended
import FixedReply.Proofs.Server.Closing
import Mathlib.Data.List.Perm.Basic

namespace FixedReply

open Http (Request)
open Connection (readTurn reply nextTurn outcomeRecords)
open Wire (Did Grows)

instance InTime.decidable (cutoff : Option Cutoff) (time : Time) : Decidable (InTime cutoff time) :=
  match cutoff with
  | none => .isTrue nofun
  | some c => decidable_of_iff (time < c.bound) ⟨by rintro h _ ⟨⟩; exact h, fun h => h c rfl⟩

def accounts (handler : Handler) (cutoff : Option Cutoff) (calls : List (Time × Request)) : List Record :=
  (calls.filter fun call => InTime cutoff (call.1 + (handler call.2).delay)).flatMap fun call =>
    outcomeRecords call.2 (handler call.2).outcome

variable {handler : Handler} {cutoff : Option Cutoff}

theorem accounts_append (front back : List (Time × Request)) :
    accounts handler cutoff (front ++ back) =
      accounts handler cutoff front ++ accounts handler cutoff back := by
  simp [accounts]

theorem accounts_single {start : Time} {request : Request} : accounts handler cutoff [(start, request)] =
    if InTime cutoff (start + (handler request).delay) then
      outcomeRecords request (handler request).outcome
    else [] := by
  by_cases h : InTime cutoff (start + (handler request).delay) <;> simp [accounts, h]

/-- To forget the calls that begin too late is to forget none that ends in time. -/
theorem accounts_filter {c : Cutoff} (calls : List (Time × Request)) :
    accounts handler (some c) (calls.filter (·.1 < c.bound)) = accounts handler (some c) calls := by
  unfold accounts
  rw [List.filter_filter]
  congr 1
  refine List.filter_congr fun call _ => ?_
  by_cases h : InTime (some c) (call.1 + (handler call.2).delay)
  · have hlt : call.1 < c.bound := h.mono (Nat.le_add_right _ _) c rfl
    simp [h, hlt]
  · simp [h]

namespace Wire

def call? : Time × Act → Option (Time × Request)
  | (t, .called request) => some (t, request)
  | _ => none

theorem called_eq_chronicle (wire : Wire) : wire.called = wire.chronicle.filterMap call? := by
  rw [chronicle, List.filterMap_filter, called]
  congr 1
  funext e
  obtain ⟨t, act⟩ := e
  cases act <;> rfl

/-- Where no handler is called, the calls remain. -/
theorem Did.called_eq {wire next : Wire} {acts : List Act} (did : Did acts wire next)
    (grows : Grows wire next) (hn : ∀ request, .called request ∉ acts) : next.called = wire.called := by
  obtain ⟨dated, hd, rfl⟩ := did.chronicle grows
  have hnone : dated.filterMap call? = [] := by
    refine List.filterMap_eq_nil_iff.mpr fun e he => ?_
    obtain ⟨t, act⟩ := e
    cases act with
    | called request => exact absurd (List.mem_map_of_mem he) (hn request)
    | received | sent | gaveUp => rfl
  rw [called_eq_chronicle, called_eq_chronicle, hd, List.filterMap_append, hnone, List.append_nil]

/-- At a cutoff the calls are kept that have begun by then. -/
theorem called_cut (c : Cutoff) (wire : Wire) :
    (c.cut wire).called = wire.called.filter (·.1 < c.bound) := by
  rw [called, called, Cutoff.cut, ← List.filter_reverse, List.filterMap_filter, List.filter_filterMap]
  congr 1
  funext e
  obtain ⟨t, act⟩ := e
  cases act with
  | called request => by_cases h : t < c.bound <;> simp [Option.filter, h]
  | received | sent | gaveUp => simp

end Wire

namespace Connection

/-- A turn makes no call by itself. -/
theorem called_of_turned {limits : Limits} {bytes : Bytes} {wire : Wire} {turn : Turn}
    (h : Turned Wire.whole limits bytes wire turn) (grows : Grows wire turn.wire) :
    turn.wire.called = wire.called := by
  cases h with
  | lacks h => exact h.elim
  | calls ho hl did has => exact did.called_eq grows hl.not_called
  | closes records how =>
    obtain ⟨acts, did, hq⟩ := quits_of_closing how
    exact did.called_eq grows hq.not_called

theorem called_readTurn (terms : Terms) (wire : Wire) :
    (readTurn terms wire).wire.called = wire.called := by
  have has : Wire.whole.Has wire wire.ahead := rfl
  exact called_of_turned (turned_readTurn terms has) (grows_readTurn terms wire)

theorem called_nextTurn (terms : Terms) (wire : Wire) :
    (nextTurn terms wire).wire.called = wire.called := by
  have has : Wire.whole.Has wire wire.ahead := rfl
  exact called_of_turned (turned_nextTurn terms has) (grows_nextTurn terms wire)

/-- To answer a call is to make no other. -/
theorem called_reply (terms : Terms) (request : Request) (response : Http.Response) (wire : Wire) :
    (reply terms request response wire).wire.called = wire.called := by
  have hsent : ∀ data, (wire.note (.sent data)).called = wire.called := by
    intro data
    simp [Wire.called, Wire.note]
  rcases reply_cases terms request response wire with ⟨-, records, he⟩ | ⟨data, -, he⟩
  · rw [he]
    rfl
  · rw [he]
    split
    · rw [called_nextTurn, hsent]
    · exact hsent data

end Connection

namespace Phase

variable {terms : Terms} {now : Time} {p q : Phase}

def ended : Phase → List (Time × Request)
  | handling _ _ _ wire => wire.called.dropLast
  | phase => phase.wire.called

def Calling (handler : Handler) : Phase → Prop
  | handling ends request outcome wire =>
    outcome = (handler request).outcome ∧ ∃ before start, ends = start + (handler request).delay ∧
      wire.called = before ++ [(start, request)]
  | _ => True

theorem called_calling (handler : Handler) (now : Time) (request : Request) (wire : Wire) :
    (calling handler now request wire).wire.called = wire.called ++ [(now, request)] :=
  Wire.called_note (wire.resume now) request

theorem ended_calling (handler : Handler) (now : Time) (request : Request) (wire : Wire) :
    (calling handler now request wire).ended = wire.called := by
  change List.dropLast (calling handler now request wire).wire.called = _
  rw [called_calling, List.dropLast_concat]

theorem Moves.calling (h : Moves terms handler now p q) : q.Calling handler := by
  cases h with
  | queues | ends | closes => trivial
  | begins | wakes => exact ⟨rfl, _, now, rfl, called_calling handler now _ _⟩

/-- The call that ends now is accounted for when it is answered. -/
theorem accounts_reply {cutoff : Option Cutoff} (terms : Terms) {request : Request}
    {outcome : Except Mishap Http.Response} {wire : Wire}
    (h : (handling now request outcome wire).Calling handler) (hn : InTime cutoff now) :
    accounts handler cutoff
        (due (reply terms request (Connection.responseTo outcome) (wire.later now))).ended =
      accounts handler cutoff (handling now request outcome wire).ended ++
        outcomeRecords request outcome := by
  obtain ⟨rfl, before, start, hnow, hc⟩ := h
  change accounts handler cutoff (reply terms request _ (wire.later now)).wire.called =
    accounts handler cutoff wire.called.dropLast ++ _
  rw [Connection.called_reply, show (wire.later now).called = wire.called from rfl, hc,
    List.dropLast_concat, accounts_append, accounts_single, if_pos (hnow ▸ hn)]

theorem accounts_answer {cutoff : Option Cutoff} (terms : Terms) (h : p.Calling handler)
    (hn : InTime cutoff now) : accounts handler cutoff (p.answer terms now).ended =
      accounts handler cutoff p.ended ++ p.answerRecords now := by
  cases p with
  | due | waiting | closed => exact (List.append_nil _).symm
  | handling ends request outcome wire =>
    simp only [answer, answerRecords]
    by_cases he : ends = now
    · subst he
      rw [if_pos rfl, if_pos rfl]
      exact accounts_reply terms h hn
    · rw [if_neg he, if_neg he, List.append_nil]

/-- What is in progress at a cutoff does not end in time. -/
theorem accounts_shut {c : Cutoff} (h : p.Calling handler) (hl : p.Lasts c.bound) :
    accounts handler (some c) (p.shut c.cut).ended = accounts handler (some c) p.ended := by
  have hcut : ∀ wire : Wire, accounts handler (some c) (Phase.closed (c.cut wire)).ended =
      accounts handler (some c) wire.called := by
    intro wire
    change accounts handler (some c) (c.cut wire).called = _
    rw [Wire.called_cut, accounts_filter]
  cases p with
  | closed wire => rfl
  | due turn => exact hcut turn.wire
  | waiting request wire => exact hcut wire
  | handling ends request outcome wire =>
    -- The cut keeps the call that is broken off, which is not among those that have ended.
    obtain ⟨-, before, start, rfl, hc⟩ := h
    have hlate : ¬ InTime (some c) (start + (handler request).delay) :=
      fun hin => Nat.not_lt_of_le hl (hin c rfl)
    change accounts handler (some c) (Phase.closed (c.cut wire)).ended =
      accounts handler (some c) wire.called.dropLast
    rw [hcut, hc, List.dropLast_concat, accounts_append, accounts_single, if_neg hlate, List.append_nil]

end Phase

def Logged (handler : Handler) (cutoff : Option Cutoff) (phases : List Phase) (records : List Record) :
    Prop :=
  ∃ others, records.Perm (phases.flatMap (fun phase => accounts handler cutoff phase.ended) ++ others) ∧
    ∀ record ∈ others, ¬ record.TellsOfHandler

variable {terms : Terms} {phases : List Phase} {records told : List Record} {i : Nat} {p q : Phase}

/-- What one of them has more, all have more. -/
theorem perm_flatMap_set {α β : Type} {f : α → List β} {all : List α} {i : Nat} {a b : α} {more : List β}
    (hi : all[i]? = some a) (hb : f b = f a ++ more) :
    ((all.set i b).flatMap f).Perm (all.flatMap f ++ more) := by
  induction all generalizing i with
  | nil => cases hi
  | cons first rest ih =>
    cases i with
    | zero =>
      obtain rfl : first = a := by simpa using hi
      rw [List.set_cons_zero, List.flatMap_cons, List.flatMap_cons, hb, List.append_assoc,
        List.append_assoc]
      exact List.perm_append_comm.append_left _
    | succ i =>
      rw [List.set_cons_succ, List.flatMap_cons, List.flatMap_cons, List.append_assoc]
      exact (ih (by simpa using hi)).append_left _

/-- A connection moves on, and leaves the records of the call that it ends. -/
theorem Logged.set (h : Logged handler cutoff phases records) (hp : phases[i]? = some p)
    (hq : accounts handler cutoff q.ended = accounts handler cutoff p.ended ++ told) :
    Logged handler cutoff (phases.set i q) (told.reverse ++ records) := by
  obtain ⟨others, hperm, hothers⟩ := h
  refine ⟨others, ?_, hothers⟩
  have hset := perm_flatMap_set (f := fun phase => accounts handler cutoff phase.ended) hp hq
  refine ((List.reverse_perm told).append hperm).trans ?_
  rw [← List.append_assoc]
  exact (List.perm_append_comm.trans hset.symm).append_right others

theorem Logged.keep (h : Logged handler cutoff phases records) (hp : phases[i]? = some p)
    (hq : q.ended = p.ended) : Logged handler cutoff (phases.set i q) records := by
  have hsame : accounts handler cutoff q.ended = accounts handler cutoff p.ended ++ [] := by
    rw [hq, List.append_nil]
  exact h.set hp hsame

/-- Other records may come on top. -/
theorem Logged.log (h : Logged handler cutoff phases records)
    (ht : ∀ record ∈ told, ¬ record.TellsOfHandler) :
    Logged handler cutoff phases (told.reverse ++ records) := by
  obtain ⟨others, hperm, hothers⟩ := h
  refine ⟨told.reverse ++ others, ?_, fun record hr => ?_⟩
  · exact (hperm.append_left told.reverse).trans (List.perm_append_comm_assoc _ _ _)
  · rcases List.mem_append.mp hr with hr | hr
    · exact ht record (List.mem_reverse.mp hr)
    · exact hothers record hr

/-- All connections are closed, and leave the records of the calls that they end, and others. -/
theorem Logged.close (h : Logged handler cutoff phases records) (close : Phase → Phase)
    (told silent : Phase → List Record)
    (ht : ∀ p ∈ phases, accounts handler cutoff (close p).ended =
      accounts handler cutoff p.ended ++ told p)
    (hs : ∀ p ∈ phases, ∀ record ∈ silent p, ¬ record.TellsOfHandler) :
    Logged handler cutoff (phases.map close)
      ((phases.flatMap fun p => told p ++ silent p).reverse ++ records) := by
  obtain ⟨others, hperm, hothers⟩ := h
  refine ⟨phases.flatMap silent ++ others, ?_, fun record hr => ?_⟩
  · have hclosed : (phases.map close).flatMap (fun p => accounts handler cutoff p.ended) =
        phases.flatMap fun p => accounts handler cutoff p.ended ++ told p := by
      rw [List.flatMap_map]
      exact List.flatMap_congr ht
    rw [hclosed]
    refine (((List.reverse_perm _).trans (List.flatMap_append_perm phases told silent).symm).append
      hperm).trans ?_
    refine List.Perm.trans ?_ ((List.flatMap_append_perm phases _ told).append_right _)
    rw [List.append_assoc, List.append_assoc]
    refine ((List.perm_append_comm_assoc _ _ _).append_left _).trans ?_
    exact List.perm_append_comm_assoc _ _ _
  · rcases List.mem_append.mp hr with hr | hr
    · obtain ⟨p, hp, hr⟩ := List.mem_flatMap.mp hr
      exact hs p hp record hr
    · exact hothers record hr

namespace Traffic

open Phase (calling)

variable {now : Time} {traffic next : Traffic} {turns : List Turn} {c : Cutoff}

/-- The calls in progress are the last ones, and what has been logged is accounted for. -/
structure Booked (handler : Handler) (cutoff : Option Cutoff) (traffic : Traffic) : Prop where
  calling : ∀ phase ∈ traffic.phases, phase.Calling handler
  logged : Logged handler cutoff traffic.phases traffic.records

theorem calling_of_advance {after : List Phase} (h : ∀ phase ∈ phases, phase.Calling handler)
    (ha : Phase.Advance terms handler now phases after) : ∀ phase ∈ after, phase.Calling handler := by
  intro q hq
  obtain ⟨p, hp, rfl | hm⟩ := ha.mem hq
  · exact h q hp
  · exact hm.calling

/-- A connection that gets a worker ends no call by that. -/
theorem logged_release (h : Logged handler cutoff traffic.phases traffic.records) :
    Logged handler cutoff (release handler now traffic).phases (release handler now traffic).records := by
  unfold release
  split
  · exact h
  · unfold wake
    split
    · rename_i hwho
      exact h.keep hwho (Phase.ended_calling handler now _ _)
    · exact h

/-- A step leaves the records of the call that it ends, if it ends one. -/
theorem Booked.stepped (h : Booked handler cutoff traffic)
    (ho : Orderly terms handler cutoff turns now traffic) (hn : InTime cutoff now)
    (hs : Stepped terms handler traffic now i next) : Booked handler cutoff next := by
  refine ⟨calling_of_advance h.calling hs.advance, ?_⟩
  cases hs with
  | calls hp =>
    unfold dispatch
    split
    · exact h.logged.keep hp (Phase.ended_calling handler now _ _)
    · exact h.logged.keep hp rfl
  | closes hp =>
    obtain ⟨turn, hstands⟩ := ho.mem (List.mem_of_getElem? hp)
    exact Logged.log (h.logged.keep hp rfl) hstands.truthful
  | ends hp =>
    have hcalling := h.calling _ (List.mem_of_getElem? hp)
    exact logged_release (h.logged.set hp (Phase.accounts_reply terms hcalling hn))

theorem calling_closed {close : Phase → Phase} (hc : ∀ phase, (close phase).isClosed) :
    ∀ phase ∈ phases.map close, phase.Calling handler := by
  intro phase hp
  obtain ⟨before, -, rfl⟩ := List.mem_map.mp hp
  obtain ⟨wire, he⟩ := Phase.eq_closed (hc before)
  rw [he]
  trivial

/-- When all connections are closed as they are, nothing more is logged. -/
theorem Booked.cut (h : Booked handler (some c) traffic)
    (hl : ∀ phase ∈ traffic.phases, phase.Lasts c.bound) :
    Booked handler (some c) ((traffic.log []).shut (Phase.shut c.cut)) := by
  refine ⟨calling_closed (isClosed_shut c.cut), ?_⟩
  obtain ⟨others, hperm, hothers⟩ := h.logged
  have hclosed : (traffic.phases.map (Phase.shut c.cut)).flatMap
      (fun p => accounts handler (some c) p.ended) =
        traffic.phases.flatMap fun p => accounts handler (some c) p.ended := by
    rw [List.flatMap_map]
    exact List.flatMap_congr fun p hp => Phase.accounts_shut (h.calling p hp) (hl p hp)
  exact ⟨others, hclosed ▸ hperm, hothers⟩

/-- When they are closed with the answers that are due, the records of these calls are logged. -/
theorem Booked.windUp (h : Booked handler (some c) traffic)
    (ho : Orderly terms handler (some c) turns c.moment.time traffic) (hg : c.grace ≠ .nothing) :
    Booked handler (some c) ((traffic.log (traffic.phases.flatMap (Phase.lastRecords terms
      c.moment.time))).shut fun phase => (phase.answer terms c.moment.time).shut c.cut) := by
  refine ⟨calling_closed fun phase => isClosed_shut c.cut _, ?_⟩
  refine h.logged.close _ (Phase.answerRecords c.moment.time) (fun phase =>
    (phase.answer terms c.moment.time).closeRecords c.moment.time) (fun p hp => ?_) fun p hp => ?_
  all_goals obtain ⟨turn, hstands⟩ := ho.mem hp
  · have hcalling : (p.answer terms c.moment.time).Calling handler :=
      Phase.keeps_answer handler (h.calling p hp) Phase.Moves.calling
    have hlasts : (p.answer terms c.moment.time).Lasts (c.moment.time + 1) :=
      hstands.timely.lasts_answer
    rw [Phase.accounts_shut hcalling (bound_of_grace hg ▸ hlasts),
      Phase.accounts_answer terms (h.calling p hp) (inTime_of_grace hg)]
  · exact hstands.truthful.answer.closeRecords

/-- What is passed is booked. -/
theorem Passes.booked {start : Traffic} {closed : List (Nat × Wire)}
    (h : Passes terms handler cutoff start closed now traffic)
    (h₀ : Orderly terms handler cutoff turns 0 start) (hb : Booked handler cutoff start) :
    Booked handler cutoff traffic := by
  refine h.keeps h₀ hb (fun ho hn hs hb => hb.stepped ho hn hs) (fun hc hg ho hb => ?_)
    fun hc hg ho hb => ?_
  all_goals subst hc
  · exact hb.cut (ho.lasts hg)
  · exact hb.windUp ho hg

end Traffic

end FixedReply
