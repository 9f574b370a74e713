import FixedReply.Proofs.Server.Steps
import FixedReply.Proofs.Wire.Onward

namespace FixedReply

open Wire (Grows grows_idle)

namespace Connection

/-- To answer what is refused takes no time. -/
theorem time_refuse (why : Http.Refusal) (wire : Wire) : (refuse why wire).time = wire.clock := by
  unfold refuse
  dsimp only
  split
  · rfl
  · rename_i data _
    rcases Wire.send_eq wire data with hs | ⟨-, what, hs⟩ <;> rw [hs] <;> rfl

theorem time_abandon (stop : Stop) (wire : Wire) : (abandon stop wire).time = wire.clock := by
  unfold abandon
  split
  · exact time_refuse _ wire
  · rfl
  · rfl

theorem grows_send (wire : Wire) (data : Bytes) : Grows wire (wire.send data).2 :=
  (Wire.Onward.send rfl).grows

theorem grows_refuse (why : Http.Refusal) (wire : Wire) : Grows wire (refuse why wire).wire := by
  unfold refuse
  dsimp only
  split
  · exact .refl wire
  · rename_i data _
    have hsend := grows_send wire data
    split <;> rename_i hs <;> rw [hs] at hsend <;> exact hsend

theorem grows_abandon (stop : Stop) (wire : Wire) : Grows wire (abandon stop wire).wire := by
  unfold abandon
  split
  · exact grows_refuse _ wire
  · exact .refl wire
  · exact .refl wire

theorem grows_readTurn (terms : Terms) (wire : Wire) : Grows wire (readTurn terms wire).wire := by
  have hread : ∀ {result next},
      (wire.within terms.readTimeout).readRequest terms.limits = (result, next) →
        Grows wire next.unhurried := by
    intro result next hr
    obtain ⟨lead, -, onward⟩ := Wire.onward_readRequest hr
    exact Grows.trans onward.grows.within (grows_idle (Nat.le_refl _) rfl)
  unfold readTurn
  split
  · rename_i hr
    exact hread hr
  · rename_i hr
    exact (hread hr).trans (grows_abandon _ _)

theorem grows_nextTurn (terms : Terms) (wire : Wire) : Grows wire (nextTurn terms wire).wire := by
  have hfill : ∀ {result next}, (wire.within terms.idleTimeout).fill = (result, next) →
      Grows wire next.unhurried := by
    intro result next hf
    exact Grows.trans (Wire.Onward.fill hf).grows.within (grows_idle (Nat.le_refl _) rfl)
  unfold nextTurn
  split
  · split
    · rename_i hf
      exact (hfill hf).trans (grows_readTurn terms _)
    all_goals
      rename_i hf
      exact hfill hf
  · exact grows_readTurn terms wire

/-- What comes after a response comes later. -/
theorem grows_reply (terms : Terms) (request : Http.Request) (response : Http.Response) (wire : Wire) :
    Grows wire (reply terms request response wire).wire := by
  unfold reply
  split
  · exact .refl wire
  · rename_i data _
    have hsend := grows_send wire data
    split <;> rename_i hs <;> rw [hs] at hsend
    · exact hsend
    · split
      · exact hsend.trans (grows_nextTurn terms _)
      · exact hsend

end Connection

namespace Phase

/-- Where a connection may stand at a time: what it goes on with by itself does not lie behind, and what
it has begun does not lie ahead. -/
def Timely (now : Time) : Phase → Prop
  | due turn => now ≤ turn.time
  | waiting _ wire => wire.clock ≤ now
  | handling ends _ _ wire => wire.clock ≤ now ∧ now ≤ ends
  | closed _ => True

variable {terms : Terms} {handler : Handler} {now next : Time} {p q : Phase}

theorem Timely.le (h : p.Timely now) {m : Moment} (hm : p.moment? = some m) : now ≤ m.time := by
  cases p <;> cases hm
  · exact h
  · exact h.2

/-- Time may go by up to the moment at which the connection goes on. -/
theorem Timely.later (h : p.Timely now) (hl : now ≤ next)
    (hn : ∀ m, p.moment? = some m → next ≤ m.time) : p.Timely next := by
  cases p with
  | due turn => exact hn _ rfl
  | waiting request wire => exact Nat.le_trans h hl
  | handling ends request outcome wire => exact ⟨Nat.le_trans h.1 hl, hn _ rfl⟩
  | closed wire => trivial

/-- Whatever a connection does at a time, it is timely then. -/
theorem Moves.timely (h : Moves terms handler now p q) : q.Timely now := by
  cases h with
  | queues hc => exact Nat.le_of_eq hc
  | begins => exact ⟨Nat.le_refl _, Nat.le_add_right _ _⟩
  | wakes => exact ⟨Nat.le_refl _, Nat.le_add_right _ _⟩
  | @ends request outcome wire =>
    exact (Connection.grows_reply terms request (Connection.responseTo outcome) (wire.later now)).clock_le
  | closes => trivial

end Phase

namespace Traffic

open Phase (Advance)

variable {terms : Terms} {handler : Handler} {cutoff : Option Cutoff} {traffic next : Traffic}
  {now time : Time} {i : Nat} {moment : Moment}

def Still (traffic : Traffic) (time : Time) : Prop :=
  ∀ phase ∈ traffic.phases, ∀ m, phase.moment? = some m → time ≤ m.time

def Timely (now : Time) (traffic : Traffic) : Prop := ∀ phase ∈ traffic.phases, phase.Timely now

theorem Timely.later (h : Timely now traffic) (hl : now ≤ time) (hs : traffic.Still time) :
    Timely time traffic :=
  fun phase hp => (h phase hp).later hl (hs phase hp)

theorem Timely.stepped (h : Timely now traffic) (hs : Stepped terms handler traffic now i next) :
    Timely now next := by
  intro q hq
  obtain ⟨p, hp, rfl | hm⟩ := hs.advance.mem hq
  · exact h _ hp
  · exact hm.timely

/-- The first connection goes on when none has to before. -/
theorem still_earliest (h : Phase.earliest? traffic.phases = some (i, moment)) :
    traffic.Still moment.time :=
  fun phase hp m hm => Phase.earliest?_le h phase hp m hm

theorem Timely.le_earliest (h : Timely now traffic)
    (he : Phase.earliest? traffic.phases = some (i, moment)) : now ≤ moment.time := by
  obtain ⟨phase, hp, hm⟩ := Phase.earliest?_some he
  exact (h phase (List.mem_of_getElem? hp)).le hm

/-- Traffic that comes to rest at a cutoff has nothing to do before it. -/
theorem still_of_rest {c : Cutoff} (h : step terms handler (some c) traffic = none) :
    traffic.Still c.moment.time := by
  intro phase hp m hm
  unfold step at h
  split at h
  · rename_i he
    rw [Phase.earliest?_none he phase hp] at hm
    cases hm
  · rename_i i first he
    have hle := Phase.earliest?_le he phase hp m hm
    split at h
    · rename_i hcut
      have hnot : first.before c.moment = false := by simpa using hcut
      exact Nat.le_trans (Moment.time_le_of_not_before hnot) hle
    · obtain ⟨q, hq, hqm⟩ := Phase.earliest?_some he
      rw [hq] at h
      cases q with
      | due turn => cases turn <;> cases h
      | waiting => cases hqm
      | handling => cases h
      | closed => cases hqm

end Traffic

end FixedReply
