import FixedReply.Proofs.Server.Staffing
import FixedReply.Server.Network

namespace FixedReply

open Http (Request)
open Connection (readTurn reply responseTo)

/-- From a turn a connection comes to be closed with a wire. A call begins whenever a worker is free
and takes the time that its handler needs. -/
inductive Life (terms : Terms) (handler : Handler) : Turn → Wire → Prop
  | close (records : List Record) (wire : Wire) : Life terms handler (.close records wire) wire
  | call {request : Request} {wire final : Wire} (start : Time)
      (rest : Life terms handler
        (reply terms request (responseTo (handler request).outcome)
          (((wire.resume start).note (.called request)).later (start + (handler request).delay)))
        final) :
      Life terms handler (.call request wire) final

variable {terms : Terms} {handler : Handler}

def Phase.EndsIn (terms : Terms) (handler : Handler) : Phase → Wire → Prop
  | due turn, final => Life terms handler turn final
  | waiting request wire, final => Life terms handler (.call request wire) final
  | handling ends request outcome wire, final =>
    Life terms handler (reply terms request (responseTo outcome) (wire.later ends)) final
  | closed wire, final => final = wire

def Phase.Precedes (terms : Terms) (handler : Handler) (before after : Phase) : Prop :=
  ∀ final, after.EndsIn terms handler final → before.EndsIn terms handler final

namespace Traffic

variable {cutoff : Option Cutoff} {traffic next : Traffic} {now : Time} {i : Nat}
  {request : Request} {wire : Wire}

def GoOn (terms : Terms) (handler : Handler) (before after : List Phase) : Prop :=
  ∀ (i : Nat) (p : Phase), before[i]? = some p →
    ∃ q, after[i]? = some q ∧ p.Precedes terms handler q

theorem GoOn.refl (phases : List Phase) : GoOn terms handler phases phases :=
  fun _ p hp => ⟨p, hp, fun _ h => h⟩

theorem GoOn.trans {a b c : List Phase} (h : GoOn terms handler a b) (h' : GoOn terms handler b c) :
    GoOn terms handler a c := by
  intro i p hp
  obtain ⟨q, hq, hpq⟩ := h i p hp
  obtain ⟨r, hr, hqr⟩ := h' i q hq
  exact ⟨r, hr, fun final he => hpq final (hqr final he)⟩

/-- To move on is to keep to a course of life. -/
theorem precedes_of_moves {p q : Phase} (h : Phase.Moves terms handler now p q) :
    Phase.Precedes terms handler p q := by
  intro final he
  cases h with
  | queues => exact he
  | begins => exact .call now he
  | wakes => exact .call now he
  | ends => exact he
  | closes =>
    cases he
    exact .close _ _

theorem goOn_advance {before after : List Phase} (h : Phase.Advance terms handler now before after) :
    GoOn terms handler before after := by
  intro i p hp
  obtain ⟨q, hq, rfl | hm⟩ := h.each i p hp
  · exact ⟨q, hq, fun _ he => he⟩
  · exact ⟨q, hq, precedes_of_moves hm⟩

theorem goOn_step (h : step terms handler cutoff traffic = some next) :
    GoOn terms handler traffic.phases next.phases := by
  obtain ⟨i, moment, -, -, hs⟩ := stepped h
  exact goOn_advance hs.advance

theorem goOn_run (traffic : Traffic) :
    GoOn terms handler traffic.phases (run terms handler cutoff traffic).phases := by
  fun_induction run terms handler cutoff traffic with
  | case1 => exact .refl _
  | case2 traffic next h ih => exact (goOn_step h).trans ih

def opened (terms : Terms) (workers : Nat) (wires : List Wire) : Traffic where
  phases := wires.map fun wire => .due (readTurn terms wire)
  limiter := { capacity := workers }

theorem staffed_opened (terms : Terms) (workers : Nat) (wires : List Wire) :
    Staffed (opened terms workers wires) := by
  have hdue : ∀ (i : Nat) (q : Phase), (opened terms workers wires).phases[i]? = some q →
      ∃ turn, q = .due turn := by
    intro i q hq
    simp only [opened, List.getElem?_map, Option.map_eq_some_iff] at hq
    obtain ⟨wire, -, rfl⟩ := hq
    exact ⟨_, rfl⟩
  refine ⟨⟨Nat.zero_le _, fun h => absurd rfl h⟩, ?_, List.nodup_nil, ?_⟩
  · refine (List.countP_eq_zero.mpr fun q hq => ?_).symm
    obtain ⟨i, hi⟩ := List.getElem?_of_mem hq
    obtain ⟨turn, rfl⟩ := hdue i q hi
    simp [Phase.isHandling]
  · intro i
    constructor
    · intro h
      cases h
    · intro he
      obtain ⟨q, hq, hw⟩ := he
      obtain ⟨turn, rfl⟩ := hdue i q hq
      simp [Phase.isWaiting] at hw

theorem run_rests (traffic : Traffic) :
    step terms handler cutoff (run terms handler cutoff traffic) = none := by
  fun_induction run terms handler cutoff traffic with
  | case1 traffic h => exact h
  | case2 traffic next h ih => exact ih

theorem capacity_release (traffic : Traffic) :
    (release handler now traffic).limiter.capacity = traffic.limiter.capacity := by
  have hl := traffic.limiter.capacity_release
  unfold release
  split
  · rename_i h
    rw [h] at hl
    exact hl
  · rename_i h
    rw [h] at hl
    unfold wake
    split <;> exact hl

theorem Stepped.capacity (h : Stepped terms handler traffic now i next) :
    next.limiter.capacity = traffic.limiter.capacity := by
  cases h with
  | calls =>
    unfold dispatch
    split <;> rfl
  | closes => rfl
  | ends => exact capacity_release _

theorem capacity_step (h : step terms handler cutoff traffic = some next) :
    next.limiter.capacity = traffic.limiter.capacity := by
  obtain ⟨i, moment, -, -, hs⟩ := stepped h
  exact hs.capacity

theorem capacity_run (traffic : Traffic) :
    (run terms handler cutoff traffic).limiter.capacity = traffic.limiter.capacity := by
  fun_induction run terms handler cutoff traffic with
  | case1 => rfl
  | case2 traffic next h ih => rw [ih, capacity_step h]

/-- With a worker at hand every connection comes to an end of its own. -/
theorem life_of_opened {workers : Nat} (hw : 0 < workers) {wires : List Wire}
    (hi : wires[i]? = some wire) :
    ∃ final, (run terms handler none (opened terms workers wires)).phases[i]? =
      some (.closed final) ∧ Life terms handler (readTurn terms wire) final := by
  have hopen : (opened terms workers wires).phases[i]? = some (.due (readTurn terms wire)) := by
    simp [opened, hi]
  have hgo : GoOn terms handler (opened terms workers wires).phases
      (run terms handler none (opened terms workers wires)).phases := goOn_run _
  obtain ⟨q, hq, hlife⟩ := hgo i _ hopen
  have hstaffed : Staffed (run terms handler none (opened terms workers wires)) :=
    (staffed_opened terms workers wires).run
  have hclosed := hstaffed.closed_of_rest (by rw [capacity_run]; exact hw) (run_rests _) q
    (List.mem_of_getElem? hq)
  obtain ⟨final, rfl⟩ := Phase.eq_closed hclosed
  exact ⟨final, hq, hlife _ rfl⟩

end Traffic

namespace Network

variable {network : Network}

/-- Nothing from outside keeps the server from going on until all connections are done. -/
structure Unstopped (network : Network) : Prop where
  accepts : network.acceptFailure = none
  stays : network.cancelAt = none

theorem Unstopped.cutoff (h : Unstopped network) : network.cutoff = none := by
  simp [Network.cutoff, breakdown?, h.accepts, h.stays]

theorem accepted_getElem? {now : Time} {clients : List Client} {i : Nat} {client : Client}
    (hi : clients[i]? = some client) : ∃ t, (Client.accepted now clients)[i]? = some (t, client) := by
  induction clients generalizing now i with
  | nil => simp at hi
  | cons first rest ih =>
    cases i with
    | zero =>
      obtain rfl : first = client := by simpa using hi
      exact ⟨_, rfl⟩
    | succ i => exact ih (by simpa using hi)

theorem Unstopped.admitted (h : Unstopped network) : network.admitted = network.arrivals := by
  simp [Network.admitted, h.stays]

/-- Connections are opened by reading from those that are admitted. -/
theorem opening_eq (network : Network) (workers : Nat) (terms : Terms) :
    network.opening workers terms =
      Traffic.opened terms workers (network.admitted.map fun entry => entry.2.wire entry.1) := by
  simp [opening, Traffic.opened, Function.comp_def]

/-- Every client of a server that is not stopped is served to the end. -/
theorem Unstopped.life (h : Unstopped network) {workers : Nat} (hw : 0 < workers) (terms : Terms)
    (handler : Handler) {i : Nat} {client : Client} (hi : network.clients[i]? = some client) :
    ∃ accepted final,
      (network.serve workers terms handler).traffic.phases[i]? = some (.closed final) ∧
        Life terms handler (readTurn terms (client.wire accepted)) final := by
  obtain ⟨accepted, ha⟩ := accepted_getElem? hi
  have hwire : (network.admitted.map fun entry => entry.2.wire entry.1)[i]? =
      some (client.wire accepted) := by
    rw [List.getElem?_map, h.admitted, arrivals, ha]
    rfl
  obtain ⟨final, hf, hlife⟩ := Traffic.life_of_opened hw hwire
  refine ⟨accepted, final, ?_, hlife⟩
  simp only [serve, h.cutoff, opening_eq]
  exact hf

end Network

end FixedReply
