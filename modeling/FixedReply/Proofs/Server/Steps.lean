import FixedReply.Server.Traffic

namespace FixedReply

open Http (Request)
open Connection (reply responseTo)

theorem Moment.time_le_of_before {a b : Moment} (h : a.before b) : a.time ≤ b.time := by
  simp only [before, Bool.or_eq_true, Bool.and_eq_true, decide_eq_true_eq, beq_iff_eq] at h
  rcases h with h | ⟨h, -⟩
  · exact Nat.le_of_lt h
  · exact Nat.le_of_eq h

theorem Moment.time_le_of_not_before {a b : Moment} (h : a.before b = false) : b.time ≤ a.time := by
  simp only [before, Bool.or_eq_false_iff, decide_eq_false_iff_not] at h
  exact Nat.le_of_not_lt h.1

namespace Phase

def calling (handler : Handler) (now : Time) (request : Request) (wire : Wire) : Phase :=
  .handling (now + (handler request).delay) request (handler request).outcome
    ((wire.resume now).note (.called request))

theorem earliest?_some {phases : List Phase} {i : Nat} {m : Moment}
    (h : earliest? phases = some (i, m)) :
    ∃ phase, phases[i]? = some phase ∧ phase.moment? = some m := by
  induction phases generalizing i m with
  | nil => simp [earliest?] at h
  | cons phase rest ih =>
    simp only [earliest?] at h
    split at h
    · simp at h
    · rename_i hr
      cases h
      exact ih hr
    · rename_i hp _
      cases h
      exact ⟨phase, rfl, hp⟩
    · rename_i hp hr
      split at h <;> cases h
      · exact ih hr
      · exact ⟨phase, rfl, hp⟩

theorem earliest?_none {phases : List Phase} (h : earliest? phases = none) :
    ∀ phase ∈ phases, phase.moment? = none := by
  induction phases with
  | nil => simp
  | cons phase rest ih =>
    simp only [earliest?] at h
    split at h
    · rename_i hp hr
      intro q hq
      rcases List.mem_cons.mp hq with rfl | hq
      · exact hp
      · exact ih hr q hq
    · simp at h
    · simp at h
    · split at h <;> simp at h

/-- No connection goes on by itself before the first one does. -/
theorem earliest?_le {phases : List Phase} {i : Nat} {m : Moment} (h : earliest? phases = some (i, m)) :
    ∀ phase ∈ phases, ∀ n, phase.moment? = some n → m.time ≤ n.time := by
  induction phases generalizing i m with
  | nil => simp
  | cons phase rest ih =>
    intro q hq n hn
    simp only [earliest?] at h
    split at h
    · simp at h
    · rename_i hp hr
      cases h
      rcases List.mem_cons.mp hq with rfl | hq
      · rw [hp] at hn
        cases hn
      · exact ih hr q hq n hn
    · rename_i hp hr
      cases h
      rcases List.mem_cons.mp hq with rfl | hq
      · rw [hp] at hn
        cases hn
        exact Nat.le_refl _
      · rw [earliest?_none hr q hq] at hn
        cases hn
    · rename_i first j least hp hr
      rcases List.mem_cons.mp hq with rfl | hq
      · rw [hp] at hn
        cases hn
        split at h <;> cases h
        · exact Moment.time_le_of_before ‹_›
        · exact Nat.le_refl _
      · have hle := ih hr q hq n hn
        split at h <;> cases h
        · exact hle
        · exact Nat.le_trans (Moment.time_le_of_not_before (Bool.not_eq_true _ ▸ ‹_›)) hle

inductive Moves (terms : Terms) (handler : Handler) (now : Time) : Phase → Phase → Prop
  | queues {request : Request} {wire : Wire} (h : wire.clock = now) :
      Moves terms handler now (.due (.call request wire)) (.waiting request wire)
  | begins {request : Request} {wire : Wire} (h : wire.clock = now) :
      Moves terms handler now (.due (.call request wire)) (calling handler now request wire)
  | wakes {request : Request} {wire : Wire} :
      Moves terms handler now (.waiting request wire) (calling handler now request wire)
  | ends {request : Request} {outcome : Except Mishap Http.Response} {wire : Wire} :
      Moves terms handler now (.handling now request outcome wire)
        (.due (reply terms request (responseTo outcome) (wire.later now)))
  | closes {records : List Record} {wire : Wire} (h : wire.clock = now) :
      Moves terms handler now (.due (.close records wire)) (.closed wire)

/-- To answer a call that ends now is to move on. -/
theorem moves_answer (terms : Terms) (handler : Handler) (now : Time) (phase : Phase) :
    phase.answer terms now = phase ∨ Moves terms handler now phase (phase.answer terms now) := by
  cases phase with
  | handling ends request outcome wire =>
    simp only [answer]
    by_cases he : ends = now
    · subst he
      rw [if_pos rfl]
      exact .inr .ends
    · rw [if_neg he]
      exact .inl rfl
  | due | waiting | closed => exact .inl rfl

/-- What moving on keeps, the answer to a call that ends now keeps. -/
theorem keeps_answer (handler : Handler) {terms : Terms} {now : Time} {phase : Phase} {p : Phase → Prop}
    (h : p phase) (hp : ∀ {next}, Moves terms handler now phase next → p next) :
    p (phase.answer terms now) := by
  rcases moves_answer terms handler now phase with he | hm
  · rw [he]
    exact h
  · exact hp hm

structure Advance (terms : Terms) (handler : Handler) (now : Time) (before after : List Phase) : Prop where
  length : after.length = before.length
  each : ∀ (i : Nat) (p : Phase), before[i]? = some p →
    ∃ q, after[i]? = some q ∧ (q = p ∨ Moves terms handler now p q)

variable {terms : Terms} {handler : Handler} {now : Time} {before after : List Phase} {p q : Phase}
  {i : Nat}

theorem Advance.refl (phases : List Phase) : Advance terms handler now phases phases :=
  ⟨rfl, fun _ p hp => ⟨p, hp, .inl rfl⟩⟩

/-- One more connection moves on, which has not yet. -/
theorem Advance.set (h : Advance terms handler now before after) (hb : before[i]? = some p)
    (hm : Moves terms handler now p q) : Advance terms handler now before (after.set i q) := by
  refine ⟨by rw [List.length_set, h.length], fun j r hr => ?_⟩
  rw [List.getElem?_set]
  split
  · subst j
    obtain ⟨hi, -⟩ := List.getElem?_eq_some_iff.mp hb
    rw [hb] at hr
    cases hr
    exact ⟨q, by simp [h.length, hi], .inr hm⟩
  · exact h.each j r hr

theorem Advance.mem (h : Advance terms handler now before after) (hq : q ∈ after) :
    ∃ p ∈ before, q = p ∨ Moves terms handler now p q := by
  obtain ⟨i, hi, rfl⟩ := List.getElem_of_mem hq
  have hlt : i < before.length := h.length ▸ hi
  have hb : before[i]? = some before[i] := List.getElem?_eq_getElem hlt
  obtain ⟨r, hr, hor⟩ := h.each i _ hb
  rw [List.getElem?_eq_getElem hi] at hr
  cases hr
  exact ⟨_, List.getElem_mem _, hor⟩

end Phase

namespace Traffic

open Phase (Advance Moves calling)

variable {terms : Terms} {handler : Handler} {cutoff : Option Cutoff} {traffic next : Traffic}
  {now : Time} {i : Nat} {request : Request} {wire : Wire}

inductive Stepped (terms : Terms) (handler : Handler) (traffic : Traffic) (now : Time) (i : Nat) :
    Traffic → Prop
  | calls {request : Request} {wire : Wire}
      (hp : traffic.phases[i]? = some (.due (.call request wire))) (hc : wire.clock = now) :
      Stepped terms handler traffic now i (dispatch handler now i request wire traffic)
  | closes {records : List Record} {wire : Wire}
      (hp : traffic.phases[i]? = some (.due (.close records wire))) (hc : wire.clock = now) :
      Stepped terms handler traffic now i ((traffic.log records).setPhase i (.closed wire))
  | ends {request : Request} {outcome : Except Mishap Http.Response} {wire : Wire}
      (hp : traffic.phases[i]? = some (.handling now request outcome wire)) :
      Stepped terms handler traffic now i (finish terms handler now i request outcome wire traffic)

/-- A step is that of the connection which is first, and comes before the cutoff. -/
theorem stepped (h : step terms handler cutoff traffic = some next) :
    ∃ i moment, Phase.earliest? traffic.phases = some (i, moment) ∧
      (∀ c, cutoff = some c → moment.before c.moment) ∧
      Stepped terms handler traffic moment.time i next := by
  unfold step at h
  split at h
  · simp at h
  · rename_i i moment he
    obtain ⟨phase, hp, hm⟩ := Phase.earliest?_some he
    split at h
    · simp at h
    · rename_i hcut
      refine ⟨i, moment, he, ?_, ?_⟩
      · rintro c rfl
        simpa using hcut
      · rw [hp] at h
        cases phase with
        | due turn =>
          cases hm
          cases turn <;> cases h
          · exact .calls hp rfl
          · exact .closes hp rfl
        | waiting => cases hm
        | handling ends request outcome wire =>
          cases hm
          cases h
          exact .ends hp
        | closed => cases hm

theorem advance_dispatch (hp : traffic.phases[i]? = some (.due (.call request wire)))
    (hc : wire.clock = now) :
    Advance terms handler now traffic.phases (dispatch handler now i request wire traffic).phases := by
  unfold dispatch
  split
  · exact (Advance.refl _).set hp (.begins hc)
  · exact (Advance.refl _).set hp (.queues hc)

/-- A token that is given back lets a connection go on that waits for it. -/
theorem advance_release {phases : List Phase} (h : Advance terms handler now phases traffic.phases)
    (hw : ∀ (j : Nat) (request : Request) (wire : Wire),
      traffic.phases[j]? = some (.waiting request wire) → phases[j]? = some (.waiting request wire)) :
    Advance terms handler now phases (release handler now traffic).phases := by
  unfold release
  split
  · exact h
  · rename_i who limiter _
    unfold wake
    split
    · rename_i hwho
      exact h.set (hw who _ _ hwho) .wakes
    · exact h

/-- Whoever waits when a connection is about to go on was waiting before. -/
theorem waiting_of_setPhase {turn : Turn} {j : Nat}
    (h : (traffic.setPhase i (.due turn)).phases[j]? = some (.waiting request wire)) :
    traffic.phases[j]? = some (.waiting request wire) := by
  rw [Traffic.setPhase, List.getElem?_set] at h
  split at h
  · split at h <;> cases h
  · exact h

theorem Stepped.advance (h : Stepped terms handler traffic now i next) :
    Advance terms handler now traffic.phases next.phases := by
  cases h with
  | calls hp hc => exact advance_dispatch hp hc
  | closes hp hc => exact (Advance.refl _).set hp (.closes hc)
  | ends hp =>
    exact advance_release ((Advance.refl _).set hp .ends) fun j request wire hj =>
      waiting_of_setPhase hj

/-- What every step at a time keeps, the calls that are due then keep. -/
theorem keeps_callDue (terms : Terms) {p : Traffic → Prop} (h : p traffic)
    (hp : ∀ {i traffic next}, Stepped terms handler traffic now i next → p traffic → p next) :
    p (callDue handler now traffic) := by
  unfold callDue
  generalize List.range traffic.phases.length = order
  induction order generalizing traffic with
  | nil => exact h
  | cons i rest ih =>
    refine ih ?_
    unfold callIfDue
    split
    · rename_i hdue
      split
      · rename_i hc
        exact hp (.calls hdue hc) h
      · exact h
    · exact h

end Traffic

end FixedReply
