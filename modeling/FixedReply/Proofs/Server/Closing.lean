import FixedReply.Proofs.Server.Ceasing
import FixedReply.Proofs.Server.Operations
import Mathlib.Data.List.Nodup

namespace FixedReply

open Http (Request Response)
open Connection (readTurn)

namespace Traffic

open Phase (Advance)

variable {terms : Terms} {handler : Handler} {cutoff : Option Cutoff} {traffic next : Traffic}
  {now time : Time} {turns : List Turn} {i : Nat} {phases after : List Phase} {call : Time × Request}
  {record : Record} {c : Cutoff}

structure Made (cutoff : Option Cutoff) (phases : List Phase) (call : Time × Request) : Prop where
  inTime : InTime cutoff call.1
  noted : ∃ phase ∈ phases, call ∈ phase.wire.called

def Told (handler : Handler) (cutoff : Option Cutoff) (phases : List Phase) (record : Record) : Prop :=
  ∃ start request, Made cutoff phases (start, request) ∧
    InTime cutoff (start + (handler request).delay) ∧ record.TellsTruly handler request

/-- Whatever has been made stays so as long as no call is forgotten that was made in time. -/
theorem Made.keep (h : Made cutoff phases call)
    (hk : ∀ phase ∈ phases, call ∈ phase.wire.called → ∃ q ∈ after, call ∈ q.wire.called) :
    Made cutoff after call := by
  obtain ⟨phase, hp, hc⟩ := h.noted
  exact ⟨h.inTime, hk phase hp hc⟩

theorem Told.keep (h : Told handler cutoff phases record)
    (hk : ∀ call, Made cutoff phases call → Made cutoff after call) :
    Told handler cutoff after record := by
  obtain ⟨start, request, hmade, hrest⟩ := h
  exact ⟨start, request, hk _ hmade, hrest⟩

structure Orderly (terms : Terms) (handler : Handler) (cutoff : Option Cutoff) (turns : List Turn)
    (now : Time) (traffic : Traffic) : Prop where
  length : traffic.phases.length = turns.length
  each : ∀ (i : Nat) (turn : Turn), turns[i]? = some turn →
    ∃ phase, traffic.phases[i]? = some phase ∧ phase.Stands terms handler cutoff turn now
  calls : ∀ call ∈ traffic.calls, Made cutoff traffic.phases call
  told : ∀ record ∈ traffic.records, record.TellsOfHandler → Told handler cutoff traffic.phases record

theorem Orderly.stands (h : Orderly terms handler cutoff turns now traffic) {phase : Phase}
    (hp : traffic.phases[i]? = some phase) :
    ∃ turn, turns[i]? = some turn ∧ phase.Stands terms handler cutoff turn now := by
  have hlt : i < turns.length := h.length ▸ (List.getElem?_eq_some_iff.mp hp).1
  have hturn := List.getElem?_eq_getElem hlt
  obtain ⟨q, hq, hs⟩ := h.each i _ hturn
  rw [hp] at hq
  cases hq
  exact ⟨_, hturn, hs⟩

theorem Orderly.mem (h : Orderly terms handler cutoff turns now traffic) {phase : Phase}
    (hp : phase ∈ traffic.phases) : ∃ turn, phase.Stands terms handler cutoff turn now := by
  obtain ⟨i, hi⟩ := List.getElem?_of_mem hp
  obtain ⟨turn, -, hs⟩ := h.stands hi
  exact ⟨turn, hs⟩

theorem Orderly.timely (h : Orderly terms handler cutoff turns now traffic) : Timely now traffic := by
  intro phase hp
  obtain ⟨turn, hs⟩ := h.mem hp
  exact hs.timely

theorem Orderly.later (h : Orderly terms handler cutoff turns now traffic) (hl : now ≤ time)
    (hs : traffic.Still time) : Orderly terms handler cutoff turns time traffic := by
  refine { h with each := fun i turn hi => ?_ }
  obtain ⟨phase, hp, hstands⟩ := h.each i turn hi
  exact ⟨phase, hp, hstands.later hl (hs phase (List.mem_of_getElem? hp))⟩

/-- No call is forgotten when connections move on. -/
theorem Made.advance (h : Made cutoff phases call) (ht : ∀ phase ∈ phases, phase.Timely now)
    (ha : Advance terms handler now phases after) : Made cutoff after call := by
  refine h.keep fun p hp hc => ?_
  obtain ⟨i, hi⟩ := List.getElem?_of_mem hp
  obtain ⟨q, hq, rfl | hm⟩ := ha.each i p hi
  · exact ⟨q, List.mem_of_getElem? hq, hc⟩
  · exact ⟨q, List.mem_of_getElem? hq, (hm.grows (ht p hp)).called call hc⟩

/-- A call that is made now is noted where it is made. -/
theorem noted_start {request : Request} {wire : Wire} (traffic : Traffic) (hi : i < traffic.phases.length) :
    ∀ call ∈ (start handler now i request wire traffic).calls, call ∈ traffic.calls ∨
      call.1 = now ∧ ∃ phase ∈ (start handler now i request wire traffic).phases,
        call ∈ phase.wire.called := by
  intro call hc
  rcases List.mem_cons.mp hc with rfl | hc
  · refine .inr ⟨rfl, Phase.calling handler now request wire, List.mem_set hi _, ?_⟩
    exact Wire.mem_called_note (wire.resume now) request
  · exact .inl hc

theorem noted_release : ∀ call ∈ (release handler now traffic).calls, call ∈ traffic.calls ∨
    call.1 = now ∧ ∃ phase ∈ (release handler now traffic).phases, call ∈ phase.wire.called := by
  unfold release
  split
  · exact fun call hc => .inl hc
  · unfold wake
    split
    · rename_i hwho
      exact noted_start _ (List.getElem?_eq_some_iff.mp hwho).1
    · exact fun call hc => .inl hc

/-- The calls that a step makes are made now, and noted. -/
theorem Stepped.noted (h : Stepped terms handler traffic now i next) :
    ∀ call ∈ next.calls, call ∈ traffic.calls ∨
      call.1 = now ∧ ∃ phase ∈ next.phases, call ∈ phase.wire.called := by
  cases h with
  | calls hp =>
    unfold dispatch
    split
    · exact noted_start { traffic with limiter := traffic.limiter.take }
        (List.getElem?_eq_some_iff.mp hp).1
    · exact fun call hc => .inl hc
  | closes => exact fun call hc => .inl hc
  | ends => exact noted_release

theorem records_release (traffic : Traffic) :
    (release handler now traffic).records = traffic.records := by
  unfold release
  split
  · rfl
  · unfold wake
    split <;> rfl

/-- The records that a step leaves are the last ones of a connection. -/
theorem Stepped.records_mem (h : Stepped terms handler traffic now i next) :
    ∀ record ∈ next.records, record ∈ traffic.records ∨
      ∃ phase ∈ traffic.phases, record ∈ phase.lastRecords terms now := by
  intro record hr
  cases h with
  | calls hp =>
    unfold dispatch at hr
    split at hr <;> exact .inl hr
  | @closes records wire hp hc =>
    rcases List.mem_append.mp hr with hr | hr
    · refine .inr ⟨_, List.mem_of_getElem? hp, List.mem_append_right _ ?_⟩
      simpa [Phase.answer, Phase.closeRecords, hc] using hr
    · exact .inl hr
  | @ends request outcome wire hp =>
    rw [finish, records_release] at hr
    rcases List.mem_append.mp hr with hr | hr
    · refine .inr ⟨_, List.mem_of_getElem? hp, List.mem_append_left _ ?_⟩
      simpa [Phase.answerRecords] using hr
    · exact .inl hr

/-- The last records of the connections tell the truth about the handler. -/
theorem Orderly.told_last (h : Orderly terms handler cutoff turns now traffic)
    (hn : InTime cutoff now) {phase : Phase} (hp : phase ∈ traffic.phases)
    (hr : record ∈ phase.lastRecords terms now) (ht : record.TellsOfHandler) :
    Told handler cutoff traffic.phases record := by
  obtain ⟨turn, hs⟩ := h.mem hp
  obtain ⟨start, request, hc, hnow, htruly⟩ := hs.truthful.lastRecords hr ht
  rw [← hnow] at hn
  exact ⟨start, request, ⟨hn.mono (Nat.le_add_right _ _), phase, hp, hc⟩, hn, htruly⟩

/-- A step keeps everything in order. -/
theorem Orderly.stepped (h : Orderly terms handler cutoff turns now traffic) (hn : InTime cutoff now)
    (hs : Stepped terms handler traffic now i next) :
    Orderly terms handler cutoff turns now next := by
  have hkeep : ∀ call, Made cutoff traffic.phases call → Made cutoff next.phases call :=
    fun call hm => hm.advance h.timely hs.advance
  refine ⟨hs.advance.length.trans h.length, fun j turn hj => ?_, fun call hc => ?_, fun record hr ht => ?_⟩
  · obtain ⟨p, hp, hstands⟩ := h.each j turn hj
    obtain ⟨q, hq, rfl | hm⟩ := hs.advance.each j p hp
    · exact ⟨q, hq, hstands⟩
    · exact ⟨q, hq, hstands.moves hm hn⟩
  · rcases hs.noted call hc with hc | ⟨rfl, hnoted⟩
    · exact hkeep call (h.calls call hc)
    · exact ⟨hn, hnoted⟩
  · rcases hs.records_mem record hr with hr | ⟨phase, hp, hr⟩
    · exact (h.told record hr ht).keep hkeep
    · exact (h.told_last hn hp hr ht).keep hkeep

/-- Closing all connections keeps everything in order, if it does with each of them, forgets no call and
leaves true records. -/
theorem Orderly.shut (h : Orderly terms handler cutoff turns now traffic) {close : Phase → Phase}
    (hs : ∀ {phase turn}, phase.Stands terms handler cutoff turn now →
      (close phase).Stands terms handler cutoff turn now)
    (hc : ∀ {phase turn call}, phase.Stands terms handler cutoff turn now → call ∈ phase.wire.called →
      InTime cutoff call.1 → call ∈ (close phase).wire.called)
    {records : List Record}
    (hr : ∀ record ∈ records, record.TellsOfHandler → Told handler cutoff traffic.phases record) :
    Orderly terms handler cutoff turns now ((traffic.log records).shut close) := by
  have hkeep : ∀ call, Made cutoff traffic.phases call →
      Made cutoff ((traffic.log records).shut close).phases call := by
    intro call hm
    refine hm.keep fun phase hp hcall => ?_
    obtain ⟨turn, hstands⟩ := h.mem hp
    exact ⟨close phase, List.mem_map_of_mem hp, hc hstands hcall hm.inTime⟩
  refine ⟨(List.length_map _).trans h.length, fun i turn hi => ?_, fun call hm => ?_, fun record hm ht => ?_⟩
  · obtain ⟨phase, hp, hstands⟩ := h.each i turn hi
    exact ⟨close phase, by simp [Traffic.shut, log, hp], hs hstands⟩
  · exact hkeep call (h.calls call hm)
  · rcases List.mem_append.mp hm with hm | hm
    · exact (hr record (List.mem_reverse.mp hm) ht).keep hkeep
    · exact (h.told record hm ht).keep hkeep

theorem cut_from (hg : c.grace = .nothing) :
    (fun wire : Wire => wire.cutFrom c.moment.time) = c.cut := by
  funext wire
  simp [Wire.cutFrom, Cutoff.cut, Cutoff.bound, hg]

theorem bound_of_nothing (hg : c.grace = .nothing) : c.bound = c.moment.time := by simp [Cutoff.bound, hg]

theorem bound_of_grace (hg : c.grace ≠ .nothing) : c.bound = c.moment.time + 1 := by
  unfold Cutoff.bound
  split <;> simp_all

theorem inTime_of_grace (hg : c.grace ≠ .nothing) : InTime (some c) c.moment.time := by
  rintro _ ⟨⟩
  exact bound_of_grace hg ▸ Nat.lt_succ_self _

theorem cut_after (hg : c.grace ≠ .nothing) :
    (fun wire : Wire => wire.cutAfter c.moment.time) = c.cut := by
  have hsame : ∀ time, decide (time ≤ c.moment.time) = decide (time < c.bound) := fun time =>
    decide_eq_decide.mpr (bound_of_grace hg ▸ Nat.lt_succ_iff.symm)
  funext wire
  simp only [Wire.cutAfter, Cutoff.cut, hsame]

/-- At a cutoff that leaves no time no call has come to its end any more. -/
theorem Orderly.lasts (h : Orderly terms handler (some c) turns c.moment.time traffic)
    (hg : c.grace = .nothing) : ∀ phase ∈ traffic.phases, phase.Lasts c.bound := by
  intro phase hp
  obtain ⟨turn, hs⟩ := h.mem hp
  exact bound_of_nothing hg ▸ hs.timely.lasts

theorem Orderly.breakOff (hg : c.grace = .nothing)
    (h : Orderly terms handler (some c) turns c.moment.time traffic) :
    Orderly terms handler (some c) turns c.moment.time
      (traffic.shut (Phase.shut (·.cutFrom c.moment.time))) := by
  have hshut : Orderly terms handler (some c) turns c.moment.time
      ((traffic.log []).shut (Phase.shut c.cut)) :=
    h.shut (fun hs => hs.shut (bound_of_nothing hg ▸ hs.timely.lasts))
      (fun _ hcall hb => Phase.called_shut hcall (hb c rfl)) nofun
  rw [cut_from hg]
  exact hshut

theorem Orderly.windUp (hg : c.grace ≠ .nothing)
    (h : Orderly terms handler (some c) turns c.moment.time traffic) :
    Orderly terms handler (some c) turns c.moment.time (windUp terms c.moment.time traffic) := by
  unfold Traffic.windUp
  rw [cut_after hg]
  refine h.shut (fun hs => ?_) (fun hs hcall hb => ?_) fun record hr ht => ?_
  · exact (hs.answer (inTime_of_grace hg)).shut (bound_of_grace hg ▸ hs.timely.lasts_answer)
  · exact Phase.called_shut (Phase.called_answer hs.timely _ hcall) (hb c rfl)
  · obtain ⟨phase, hp, hr⟩ := List.mem_flatMap.mp hr
    exact h.told_last (inTime_of_grace hg) hp hr ht

/-- Stopping keeps everything in order. -/
theorem Orderly.close (h : Orderly terms handler (some c) turns c.moment.time traffic) :
    Orderly terms handler (some c) turns c.moment.time (close terms handler c traffic) := by
  unfold Traffic.close
  cases hg : c.grace with
  | nothing => exact h.breakOff hg
  | answers => exact h.windUp (by simp [hg])
  | calls =>
    have hgrace : c.grace ≠ .nothing := by simp [hg]
    exact (keeps_callDue terms h fun hs ho => ho.stepped (inTime_of_grace hgrace) hs).windUp hgrace

def closings (before after : Traffic) : List (Nat × Wire) :=
  (List.range before.phases.length).filterMap fun i =>
    match before.phases[i]?, after.phases[i]? with
    | some phase, some (Phase.closed wire) => if phase.isClosed then none else some (i, wire)
    | _, _ => none

theorem mem_closings {wire : Wire} : (i, wire) ∈ closings traffic next ↔
    (∃ phase, traffic.phases[i]? = some phase ∧ phase.isClosed = false) ∧
      next.phases[i]? = some (.closed wire) := by
  simp only [closings, List.mem_filterMap, List.mem_range]
  constructor
  · intro h
    obtain ⟨j, -, hj⟩ := h
    split at hj
    · rename_i phase found hp hq
      split at hj <;> cases hj
      exact ⟨⟨phase, hp, Bool.eq_false_iff.mpr ‹_›⟩, hq⟩
    · cases hj
  · intro h
    obtain ⟨⟨phase, hp, ho⟩, hq⟩ := h
    refine ⟨i, (List.getElem?_eq_some_iff.mp hp).1, ?_⟩
    rw [hp, hq]
    simp [ho]

theorem nodup_closings (traffic next : Traffic) : ((closings traffic next).map Prod.fst).Nodup := by
  rw [closings, List.map_filterMap]
  refine List.nodup_range.filterMap fun i j k hi hj => ?_
  have hself : ∀ {n : Nat}, k ∈ (match traffic.phases[n]?, next.phases[n]? with
      | some phase, some (.closed wire) => if phase.isClosed then none else some (n, wire)
      | _, _ => none).map Prod.fst → n = k := by
    intro n hn
    split at hn
    · split at hn <;> cases hn
      rfl
    · cases hn
  exact (hself hi).trans (hself hj).symm

structure Lasting (before after : Traffic) : Prop where
  length : after.phases.length = before.phases.length
  closed : ∀ (i : Nat) (wire : Wire), before.phases[i]? = some (.closed wire) →
    after.phases[i]? = some (.closed wire)

theorem Lasting.refl (traffic : Traffic) : Lasting traffic traffic := ⟨rfl, fun _ _ h => h⟩

theorem Lasting.trans {a b c : Traffic} (h : Lasting a b) (h' : Lasting b c) : Lasting a c :=
  ⟨h'.length.trans h.length, fun i wire hc => h'.closed i wire (h.closed i wire hc)⟩

structure Tally (closed : List (Nat × Wire)) (traffic : Traffic) : Prop where
  nodup : (closed.map Prod.fst).Nodup
  mem : ∀ (i : Nat) (wire : Wire), (i, wire) ∈ closed ↔ traffic.phases[i]? = some (.closed wire)

theorem Tally.add {closed : List (Nat × Wire)} (h : Tally closed traffic) (hl : Lasting traffic next) :
    Tally (closings traffic next ++ closed) next := by
  refine ⟨?_, fun i wire => ?_⟩
  · -- What is closed now was open before, and what had been closed was not.
    rw [List.map_append]
    refine (nodup_closings traffic next).append h.nodup fun i hnew hold => ?_
    obtain ⟨⟨_, wire⟩, hn, rfl⟩ := List.mem_map.mp hnew
    obtain ⟨⟨i, before⟩, ho, rfl⟩ := List.mem_map.mp hold
    obtain ⟨⟨phase, hp, hopen⟩, -⟩ := mem_closings.mp hn
    rw [(h.mem i before).mp ho] at hp
    cases hp
    cases hopen
  · rw [List.mem_append, mem_closings, h.mem]
    constructor
    · rintro (⟨-, hn⟩ | ho)
      · exact hn
      · exact hl.closed i wire ho
    · intro hn
      have hlt : i < traffic.phases.length := hl.length ▸ (List.getElem?_eq_some_iff.mp hn).1
      have hp := List.getElem?_eq_getElem hlt
      cases hc : traffic.phases[i].isClosed with
      | false => exact .inl ⟨⟨_, hp, hc⟩, hn⟩
      | true =>
        obtain ⟨before, he⟩ := Phase.eq_closed hc
        rw [he] at hp
        have hsame := hl.closed i before hp
        rw [hn] at hsame
        cases hsame
        exact .inr hp

section

variable {closed : List (Nat × Wire)} (h : Tally closed traffic)
  (hc : ∀ phase ∈ traffic.phases, phase.isClosed)

include h hc

theorem Tally.mem_of_phase {phase : Phase} (hp : traffic.phases[i]? = some phase) :
    ∃ wire, phase = .closed wire ∧ (i, wire) ∈ closed := by
  obtain ⟨wire, rfl⟩ := Phase.eq_closed (hc phase (List.mem_of_getElem? hp))
  exact ⟨wire, rfl, (h.mem i wire).mpr hp⟩

/-- When all connections are closed, each has been closed once. -/
theorem Tally.perm : (closed.map Prod.fst).Perm (List.range traffic.phases.length) := by
  refine (List.perm_ext_iff_of_nodup h.nodup List.nodup_range).mpr fun i => ?_
  rw [List.mem_range]
  constructor
  · intro hi
    obtain ⟨⟨_, wire⟩, hin, rfl⟩ := List.mem_map.mp hi
    exact (List.getElem?_eq_some_iff.mp ((h.mem _ wire).mp hin)).1
  · intro hi
    obtain ⟨wire, -, hin⟩ := h.mem_of_phase hc (List.getElem?_eq_getElem hi)
    exact List.mem_map_of_mem hin

theorem Tally.noted (hm : Made cutoff traffic.phases call) :
    ∃ i wire, (i, wire) ∈ closed ∧ call ∈ wire.called := by
  obtain ⟨phase, hp, hcall⟩ := hm.noted
  obtain ⟨i, hi⟩ := List.getElem?_of_mem hp
  obtain ⟨wire, rfl, hin⟩ := h.mem_of_phase hc hi
  exact ⟨i, wire, hin, hcall⟩

end

/-- What a server passes from a start on, with the connections that have been closed up to a time: nothing
happens for a while, one of the connections takes a step that is due, or all are stopped at the cutoff. -/
inductive Passes (terms : Terms) (handler : Handler) (cutoff : Option Cutoff) (start : Traffic) :
    List (Nat × Wire) → Time → Traffic → Prop
  | start : Passes terms handler cutoff start [] 0 start
  | waits {closed : List (Nat × Wire)} {now time : Time} {traffic : Traffic}
      (h : Passes terms handler cutoff start closed now traffic) (hl : now ≤ time)
      (hs : traffic.Still time) : Passes terms handler cutoff start closed time traffic
  | steps {closed : List (Nat × Wire)} {now : Time} {i : Nat} {traffic next : Traffic}
      (h : Passes terms handler cutoff start closed now traffic)
      (hn : InTime cutoff now) (hs : Stepped terms handler traffic now i next) :
      Passes terms handler cutoff start (closings traffic next ++ closed) now next
  | stops {closed : List (Nat × Wire)} {c : Cutoff} {traffic : Traffic}
      (h : Passes terms handler cutoff start closed c.moment.time traffic) (hc : cutoff = some c) :
      Passes terms handler cutoff start (closings traffic (traffic.close terms handler c) ++ closed)
        c.moment.time (traffic.close terms handler c)

section

variable {start : Traffic} {closed : List (Nat × Wire)}

theorem Passes.orderly (h : Passes terms handler cutoff start closed now traffic)
    (h₀ : Orderly terms handler cutoff turns 0 start) :
    Orderly terms handler cutoff turns now traffic := by
  induction h with
  | start => exact h₀
  | waits _ hl hs ih => exact ih.later hl hs
  | steps _ hn hs ih => exact ih.stepped hn hs
  | stops _ hc ih =>
    subst hc
    exact ih.close

/-- What a server keeps that keeps it at every step in time, and when all connections are closed at the
cutoff, with or without the answers that are due then. -/
theorem Passes.keeps (h : Passes terms handler cutoff start closed now traffic)
    (h₀ : Orderly terms handler cutoff turns 0 start) {p : Traffic → Prop} (hp : p start)
    (hsteps : ∀ {now i traffic next}, Orderly terms handler cutoff turns now traffic →
      InTime cutoff now → Stepped terms handler traffic now i next → p traffic → p next)
    (hcuts : ∀ {c traffic}, cutoff = some c → c.grace = .nothing →
      Orderly terms handler cutoff turns c.moment.time traffic → p traffic →
        p ((traffic.log []).shut (Phase.shut c.cut)))
    (hwinds : ∀ {c traffic}, cutoff = some c → c.grace ≠ .nothing →
      Orderly terms handler cutoff turns c.moment.time traffic → p traffic →
        p ((traffic.log (traffic.phases.flatMap (Phase.lastRecords terms c.moment.time))).shut
          fun phase => (phase.answer terms c.moment.time).shut c.cut)) :
    p traffic := by
  induction h with
  | start => exact hp
  | waits _ _ _ ih => exact ih
  | steps h hn hs ih => exact hsteps (h.orderly h₀) hn hs ih
  | @stops _ c traffic h hc ih =>
    have horder := h.orderly h₀
    unfold Traffic.close
    cases hg : c.grace with
    | nothing =>
      dsimp only
      rw [cut_from hg]
      exact hcuts hc hg horder ih
    | answers =>
      have hgrace : c.grace ≠ .nothing := by simp [hg]
      dsimp only
      rw [windUp, cut_after hgrace]
      exact hwinds hc hgrace horder ih
    | calls =>
      have hgrace : c.grace ≠ .nothing := by simp [hg]
      have hin : InTime cutoff c.moment.time := hc ▸ inTime_of_grace hgrace
      have hcalls := keeps_callDue terms
        (p := fun traffic => Orderly terms handler cutoff turns c.moment.time traffic ∧ p traffic)
        ⟨horder, ih⟩ fun hs hor => ⟨hor.1.stepped hin hs, hsteps hor.1 hin hs hor.2⟩
      dsimp only
      rw [windUp, cut_after hgrace]
      exact hwinds hc hgrace hcalls.1 hcalls.2

theorem Passes.run (h : Passes terms handler cutoff start closed now traffic)
    (h₀ : Orderly terms handler cutoff turns 0 start)
    (hb : ∀ c, cutoff = some c → ∀ m : Moment, m.before c.moment → m.time < c.bound)
    (hc : ∀ c, cutoff = some c → now ≤ c.moment.time) :
    ∃ closed' time, Passes terms handler cutoff start closed' time (run terms handler cutoff traffic) ∧
      ∀ c, cutoff = some c → time ≤ c.moment.time := by
  fun_induction Traffic.run terms handler cutoff traffic generalizing closed now with
  | case1 => exact ⟨closed, now, h, hc⟩
  | case2 traffic next hs ih =>
    -- Nothing happens until the first connection goes on, which is in time if it comes before the cutoff.
    obtain ⟨i, moment, he, hbefore, hstep⟩ := stepped hs
    have hwaits := h.waits ((h.orderly h₀).timely.le_earliest he) (still_earliest he)
    exact ih (.steps hwaits (fun c hcut => hb c hcut _ (hbefore c hcut)) hstep)
      fun c hcut => Moment.time_le_of_before (hbefore c hcut)

end

end Traffic

namespace Network

open Traffic (Orderly Passes)

variable {network : Network} {workers : Nat} {terms : Terms} {handler : Handler} {c : Cutoff}

/-- A cancellation after the start comes ahead of all that happens at its time. -/
theorem since_of_grace (h : network.cutoff = some c) (hg : c.grace = .nothing) : c.moment.since = 0 := by
  unfold cutoff at h
  split at h <;> cases h
  · simp only at hg
    split at hg <;> cases hg
  · rfl

/-- What comes before the cutoff is still done. -/
theorem time_lt_bound (h : network.cutoff = some c) {m : Moment} (hm : m.before c.moment) :
    m.time < c.bound := by
  cases hg : c.grace with
  | nothing =>
    have hbound : c.bound = c.moment.time := by simp [Cutoff.bound, hg]
    simpa [Moment.before, since_of_grace h hg, hbound] using hm
  | answers | calls =>
    rw [Traffic.bound_of_grace (by simp [hg])]
    exact Nat.lt_succ_of_le (Moment.time_le_of_before hm)

def firstTurns (network : Network) (terms : Terms) : List Turn :=
  network.admitted.map fun entry => readTurn terms (entry.2.wire entry.1)

theorem stands_first (handler : Handler) (cutoff : Option Cutoff) (client : Client) (accepted : Time) :
    (Phase.due (readTurn terms (client.wire accepted))).Stands terms handler cutoff
      (readTurn terms (client.wire accepted)) 0 where
  goesOn _ := fun _ he => he
  ceased := nofun
  dated := (Connection.grows_readTurn terms (client.wire accepted)).dated ⟨.nil, nofun⟩
  timely := Nat.zero_le _
  truthful := (Connection.parts_readTurn terms _).truthful

theorem orderly_opening (network : Network) (workers : Nat) (terms : Terms) (handler : Handler) :
    Orderly terms handler network.cutoff (network.firstTurns terms) 0
      (network.opening workers terms) := by
  refine ⟨by simp [opening, firstTurns], fun i turn hi => ?_, nofun, nofun⟩
  rw [firstTurns, List.getElem?_map] at hi
  obtain ⟨⟨accepted, client⟩, ha, rfl⟩ := Option.map_eq_some_iff.mp hi
  exact ⟨_, by simp [opening, ha], stands_first handler _ client accepted⟩

theorem open_opening (network : Network) (workers : Nat) (terms : Terms) :
    ∀ phase ∈ (network.opening workers terms).phases, phase.isClosed = false := by
  intro phase hp
  obtain ⟨entry, -, rfl⟩ := List.mem_map.mp hp
  rfl

/-- All that a server does up to its end is passed. -/
theorem passes_serve (network : Network) (workers : Nat) (terms : Terms) (handler : Handler) :
    ∃ closed now, Passes terms handler network.cutoff (network.opening workers terms) closed now
      (network.serve workers terms handler).traffic := by
  have h₀ := network.orderly_opening workers terms handler
  obtain ⟨closed, now, hrun, hle⟩ := Passes.start.run h₀ (fun c hc m => time_lt_bound hc)
    fun _ _ => Nat.zero_le _
  cases hc : network.cutoff with
  | none =>
    rw [serve_none hc]
    rw [hc] at hrun
    exact ⟨closed, now, hrun⟩
  | some c =>
    rw [serve_some hc]
    rw [hc] at hrun hle
    exact ⟨_, _, (hrun.waits (hle c rfl) (Traffic.still_of_rest (Traffic.run_rests _))).stops rfl⟩

end Network

namespace Server

variable {server : Server} {network : Network} {workers : Nat}

def cancelled : Network where
  clients := [
    { events := [{ what := .data (Bytes.ofString "GET /x HTTP/1.1\r\nHost: a\r\n\r\n") }] },
    { events := [{ what := .data (Bytes.ofString "GET / HTTP/1.1\r\nHost: a\r\n\r\n") }] },
    { events := [{ what := .data (Bytes.ofString "GET / HT") }] }]
  cancelAt := some 3

end Server

end FixedReply
