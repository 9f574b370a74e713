import FixedReply.Proofs.Server.Workers

namespace FixedReply

open Http (Request)
open Connection (readTurn reply responseTo)

def Handler.Instant (handler : Handler) : Prop := ∀ request, (handler request).delay = 0

/-- What becomes of a connection from a turn on if there is no other one: a call begins when it is due
and ends at once. -/
inductive Alone (terms : Terms) (handler : Handler) : Turn → Wire → Prop
  | close (records : List Record) (wire : Wire) : Alone terms handler (.close records wire) wire
  | call {request : Request} {wire final : Wire}
      (rest : Alone terms handler
        (reply terms request (responseTo (handler request).outcome)
          (((wire.resume wire.clock).note (.called request)).later wire.clock)) final) :
      Alone terms handler (.call request wire) final

variable {terms : Terms} {handler : Handler}

/-- Alone, a connection has one end. -/
theorem Alone.unique {turn : Turn} {a b : Wire} (ha : Alone terms handler turn a)
    (hb : Alone terms handler turn b) : a = b := by
  induction ha with
  | close records wire =>
    cases hb
    rfl
  | call rest ih =>
    cases hb with
    | call rest' => exact ih rest'

namespace Phase

def EndsAlone (terms : Terms) (handler : Handler) : Phase → Wire → Prop
  | due turn, final => Alone terms handler turn final
  | waiting request wire, final => Alone terms handler (.call request wire) final
  | handling ends request outcome wire, final =>
    Alone terms handler (reply terms request (responseTo outcome) (wire.later ends)) final
  | closed wire, final => final = wire

def Prompt (now : Time) : Phase → Prop
  | waiting _ wire => wire.clock = now
  | handling ends _ _ _ => ends = now
  | _ => True

variable {now : Time} {p q : Phase}

theorem Moves.prompt (hh : handler.Instant) (h : Moves terms handler now p q) : q.Prompt now := by
  cases h with
  | queues hc => exact hc
  | begins => exact (congrArg (now + ·) (hh _)).trans (Nat.add_zero now)
  | wakes => exact (congrArg (now + ·) (hh _)).trans (Nat.add_zero now)
  | ends => trivial
  | closes => trivial

/-- Nobody is led astray by moving on among others. -/
theorem Moves.endsAlone (hh : handler.Instant) (h : Moves terms handler now p q) (hp : p.Prompt now)
    {final : Wire} (he : q.EndsAlone terms handler final) : p.EndsAlone terms handler final := by
  have hcall : ∀ {request : Request} {wire : Wire}, wire.clock = now →
      (calling handler now request wire).EndsAlone terms handler final →
        Alone terms handler (.call request wire) final := by
    rintro request wire rfl he
    unfold calling EndsAlone at he
    rw [hh request, Nat.add_zero] at he
    exact .call he
  cases h with
  | queues => exact he
  | begins hc => exact hcall hc he
  | wakes => exact hcall hp he
  | ends => exact he
  | closes =>
    cases he
    exact .close _ _

end Phase

namespace Traffic

variable {cutoff : Option Cutoff} {traffic next : Traffic} {now : Time} {i : Nat} {moment : Moment}

structure Prompt (now : Time) (traffic : Traffic) : Prop where
  staffed : Staffed traffic
  workers : 0 < traffic.limiter.capacity
  timely : Timely now traffic
  prompt : ∀ phase ∈ traffic.phases, phase.Prompt now

/-- Time goes by only when nobody waits for anything. -/
theorem Prompt.later (h : Prompt now traffic) (he : Phase.earliest? traffic.phases = some (i, moment)) :
    Prompt moment.time traffic := by
  have hle : now ≤ moment.time := h.timely.le_earliest he
  have hstill := still_earliest he
  have hcall : ∀ phase ∈ traffic.phases, phase.isHandling → moment.time = now := by
    intro phase hp hc
    cases phase with
    | handling ends request outcome wire =>
      have hends : ends = now := h.prompt _ hp
      exact Nat.le_antisymm (hends ▸ hstill _ hp _ rfl) hle
    | _ => cases hc
  refine ⟨h.staffed, h.workers, h.timely.later hle hstill, fun phase hp => ?_⟩
  cases phase with
  | waiting request wire =>
    -- Whoever waits does so for a call that holds a token, and such a call ends at once.
    obtain ⟨j, hj⟩ := List.getElem?_of_mem hp
    have hqueue : j ∈ traffic.limiter.queue := (h.staffed.queued j).mpr ⟨_, hj, rfl⟩
    have hbusy := h.staffed.sound.busy (List.ne_nil_of_mem hqueue)
    have hheld := h.staffed.held
    have hworkers := h.workers
    obtain ⟨call, hin, hc⟩ := List.countP_pos_iff.mp (by omega : 0 < traffic.phases.countP Phase.isHandling)
    exact (h.prompt _ hp).trans (hcall call hin hc).symm
  | handling ends request outcome wire => exact (h.prompt _ hp).trans (hcall _ hp rfl).symm
  | due => trivial
  | closed => trivial

theorem Prompt.stepped (h : Prompt now traffic) (hh : handler.Instant)
    (hs : Stepped terms handler traffic now i next) : Prompt now next := by
  refine ⟨h.staffed.stepped hs, hs.capacity ▸ h.workers, h.timely.stepped hs, fun q hq => ?_⟩
  obtain ⟨p, hp, rfl | hm⟩ := hs.advance.mem hq
  · exact h.prompt _ hp
  · exact hm.prompt hh

/-- Every connection comes to the end that it has alone. -/
theorem Prompt.run (h : Prompt now traffic) (hh : handler.Instant) {p : Phase}
    (hp : traffic.phases[i]? = some p) :
    ∃ q, (run terms handler cutoff traffic).phases[i]? = some q ∧
      ∀ final, q.EndsAlone terms handler final → p.EndsAlone terms handler final := by
  fun_induction Traffic.run terms handler cutoff traffic generalizing now p with
  | case1 => exact ⟨p, hp, fun _ he => he⟩
  | case2 traffic next hs ih =>
    -- An end is carried backwards, from the phase after a step to the one before it.
    obtain ⟨j, moment, he, -, hstep⟩ := Traffic.stepped hs
    have hnow := h.later he
    obtain ⟨r, hr, hmove⟩ := hstep.advance.each i p hp
    obtain ⟨q, hq, hends⟩ := ih (hnow.stepped hh hstep) hr
    refine ⟨q, hq, fun final hfinal => ?_⟩
    rcases hmove with rfl | hmove
    · exact hends final hfinal
    · exact hmove.endsAlone hh (hnow.prompt p (List.mem_of_getElem? hp)) (hends final hfinal)

end Traffic

namespace Network

variable {network other : Network} {workers : Nat} {i j : Nat} {accepted : Time} {client client' : Client}

def guest (time : Time) : Client where
  time := time
  events := [
    { due := 4, what := .data (Bytes.ofString "GET / HTTP/1.1\r\nHost: a\r\n\r\n") },
    { due := 5, what := .failure (.one .endOfStream) }]

def quiet : Network where
  clients := [guest 3]

end Network

end FixedReply
