import FixedReply.Proofs.Server.Shifts

namespace FixedReply

open Shift (Kept)

namespace Traffic

variable {terms : Terms} {handler : Handler} {cutoff : Option Cutoff} {start traffic next : Traffic}
  {now : Time} {shifts : List Shift} {workers : Nat}

/-- A step of the traffic is one that may happen, at a time that does not lie behind. -/
theorem Runs.step (h : Runs terms handler start shifts now traffic) (h₀ : Sound workers [] 0 start)
    (hs : step terms handler cutoff traffic = some next) :
    ∃ shifts' time, Runs terms handler start shifts' time next ∧
      ∀ c, cutoff = some c → time ≤ c.moment.time := by
  obtain ⟨i, moment, he, hc, hstep⟩ := stepped hs
  have hle : now ≤ moment.time := (h.sound h₀).timely.le_earliest he
  exact ⟨_, moment.time, .steps (.waits h hle (still_earliest he)) hstep,
    fun c hcut => Moment.time_le_of_before (hc c hcut)⟩

theorem Runs.run (h : Runs terms handler start shifts now traffic) (h₀ : Sound workers [] 0 start)
    (hc : ∀ c, cutoff = some c → now ≤ c.moment.time) :
    ∃ shifts' time, Runs terms handler start shifts' time (run terms handler cutoff traffic) ∧
      ∀ c, cutoff = some c → time ≤ c.moment.time := by
  fun_induction Traffic.run terms handler cutoff traffic generalizing shifts now with
  | case1 => exact ⟨shifts, now, h, hc⟩
  | case2 traffic next hs ih =>
    obtain ⟨shifts', time, hr, ht⟩ := h.step h₀ hs
    exact ih hr ht

/-- The calls that are due at a time may be made in any order. -/
theorem Runs.callDue (h : Runs terms handler start shifts now traffic) :
    ∃ shifts', Runs terms handler start shifts' now (callDue handler now traffic) := by
  refine keeps_callDue terms (p := fun traffic => ∃ shifts', Runs terms handler start shifts' now traffic)
    ⟨shifts, h⟩ fun hs hr => ?_
  obtain ⟨shifts', hr⟩ := hr
  exact ⟨_, .steps hr hs⟩

theorem isClosed_shut (cut : Wire → Wire) (phase : Phase) : (phase.shut cut).isClosed := by
  cases phase <;> rfl

theorem Runs.windUp (h : Runs terms handler start shifts now traffic) :
    ∃ shifts', Runs terms handler start shifts' now (windUp terms now traffic) :=
  ⟨_, .stops h _ fun phase => isClosed_shut _ (phase.answer terms now)⟩

theorem Runs.close {c : Cutoff} (h : Runs terms handler start shifts c.moment.time traffic) :
    ∃ shifts', Runs terms handler start shifts' c.moment.time (close terms handler c traffic) := by
  unfold Traffic.close
  cases c.grace with
  | nothing => exact ⟨_, .stops h [] (isClosed_shut _)⟩
  | answers => exact h.windUp
  | calls =>
    obtain ⟨shifts', hr⟩ := h.callDue
    exact hr.windUp

theorem isClosed_close {c : Cutoff} :
    ∀ phase ∈ (close terms handler c traffic).phases, phase.isClosed := by
  have hshut : ∀ (t : Traffic) (f : Phase → Phase), (∀ p, (f p).isClosed) →
      ∀ phase ∈ (t.shut f).phases, phase.isClosed := by
    intro t f hf phase hp
    obtain ⟨before, -, rfl⟩ := List.mem_map.mp hp
    exact hf before
  unfold Traffic.close
  cases c.grace with
  | nothing => exact hshut _ _ (isClosed_shut _)
  | answers => exact hshut _ _ fun p => isClosed_shut _ _
  | calls => exact hshut _ _ fun p => isClosed_shut _ _

end Traffic

namespace Network

open Traffic (Runs Sound Accounted)

variable {workers : Nat} (network : Network) (terms : Terms) (handler : Handler)

theorem sound_opening (workers : Nat) (terms : Terms) : Sound workers [] 0 (network.opening workers terms) := by
  rw [opening_eq]
  exact Traffic.sound_opened terms workers _

variable {network terms handler}

theorem serve_none (h : network.cutoff = none) : (network.serve workers terms handler).traffic =
    Traffic.run terms handler none (network.opening workers terms) := by
  simp [serve, h]

theorem serve_some {c : Cutoff} (h : network.cutoff = some c) :
    (network.serve workers terms handler).traffic =
      Traffic.close terms handler c (Traffic.run terms handler (some c) (network.opening workers terms)) := by
  simp [serve, h]

variable (network terms handler)

theorem runs_run (workers : Nat) (cutoff : Option Cutoff) :
    ∃ shifts now, Runs terms handler (network.opening workers terms) shifts now
        (Traffic.run terms handler cutoff (network.opening workers terms)) ∧
      ∀ c, cutoff = some c → now ≤ c.moment.time :=
  Runs.run .start (network.sound_opening workers terms) fun _ _ => Nat.zero_le _

/-- A run goes on up to its cutoff. -/
theorem runs_to (workers : Nat) (c : Cutoff) :
    ∃ shifts, Runs terms handler (network.opening workers terms) shifts c.moment.time
      (Traffic.run terms handler (some c) (network.opening workers terms)) := by
  obtain ⟨shifts, now, hr, ht⟩ := network.runs_run terms handler workers (some c)
  -- The run rests at the cutoff, so that time may go by up to it before all are stopped.
  have hrest : (Traffic.run terms handler (some c) (network.opening workers terms)).Still
      c.moment.time := Traffic.still_of_rest (Traffic.run_rests _)
  exact ⟨shifts, .waits hr (ht c rfl) hrest⟩

/-- What a server does is one of the things that may happen. -/
theorem runs_serve (workers : Nat) :
    ∃ shifts now, Runs terms handler (network.opening workers terms) shifts now
      (network.serve workers terms handler).traffic := by
  cases hc : network.cutoff with
  | none =>
    rw [serve_none hc]
    obtain ⟨shifts, now, hr, -⟩ := network.runs_run terms handler workers none
    exact ⟨shifts, now, hr⟩
  | some c =>
    rw [serve_some hc]
    obtain ⟨shifts, hr⟩ := network.runs_to terms handler workers c
    obtain ⟨shifts', hclose⟩ := Runs.close hr
    exact ⟨shifts', _, hclose⟩

/-- With a worker at hand all connections are closed in the end. -/
theorem isClosed_serve (hw : 0 < workers) :
    ∀ phase ∈ (network.serve workers terms handler).traffic.phases, phase.isClosed := by
  cases hc : network.cutoff with
  | none =>
    rw [serve_none hc]
    have hstaffed : Traffic.Staffed (Traffic.run terms handler none (network.opening workers terms)) :=
      (network.sound_opening workers terms).staffed.run
    refine hstaffed.closed_of_rest ?_ (Traffic.run_rests _)
    rw [Traffic.capacity_run]
    exact hw
  | some c =>
    rw [serve_some hc]
    exact Traffic.isClosed_close

/-- What workers are to a server, whatever may happen in whatever order: a bound for the calls in
progress, each of which holds a token that is given back once, and nothing that is waited for over any
time while fewer calls are in progress. -/
structure WorkersKept (workers : Nat) : Prop where
  capped : ∀ {shifts now traffic},
    Runs terms handler (network.opening workers terms) shifts now traffic →
      traffic.phases.countP Phase.isHandling ≤ workers
  accounted : ∀ {shifts now traffic},
    Runs terms handler (network.opening workers terms) shifts now traffic →
      ∃ holders, Accounted shifts holders traffic
  busy : ∀ {shifts now traffic},
    Runs terms handler (network.opening workers terms) shifts now traffic →
      ∀ time, now < time → traffic.Still time → (∃ phase ∈ traffic.phases, phase.isWaiting) →
        traffic.phases.countP (Phase.isInProgress now) = workers
  settled : ∃ shifts now,
    Runs terms handler (network.opening workers terms) shifts now
        (network.serve workers terms handler).traffic ∧
      Kept shifts [] ∧ (∀ who, shifts.count (.granted who) = shifts.count (.returned who)) ∧
      (network.serve workers terms handler).traffic.limiter.held = 0
  peak : (network.serve workers terms handler).traffic.peak ≤ workers

/-- However long handlers take, whatever they come to and whenever a server is stopped, it keeps to its
workers. -/
theorem workers_kept (hw : 0 < workers) : network.WorkersKept terms handler workers := by
  have h₀ := network.sound_opening workers terms
  obtain ⟨shifts, now, hr⟩ := network.runs_serve terms handler workers
  have hsound := hr.sound h₀
  obtain ⟨holders, ha⟩ := hsound.accounted
  obtain rfl := ha.none_of_closed (network.isClosed_serve terms handler hw)
  exact {
    capped := fun hr => (hr.sound h₀).capped
    accounted := fun hr => (hr.sound h₀).accounted
    busy := fun hr _ => (hr.sound h₀).busy
    settled := ⟨shifts, now, hr, ha.kept, fun who => by simpa using ha.kept.count who, ha.held⟩
    peak := hsound.peak }

def crowd : Network where
  clients := [
    { events := [{ what := .data (Bytes.ofString "GET / HTTP/1.1\r\nHost: a\r\nConnection: close\r\n\r\n") }]
      sendFault := some (0, .one .brokenStream) },
    { events := [{ what := .data (Bytes.ofString "GET /x HTTP/1.1\r\nHost: a\r\nConnection: close\r\n\r\n") }] },
    { events := [{ what := .data (Bytes.ofString "GET / HTTP/1.1\r\nHost: a\r\nConnection: close\r\n\r\n") }] }]

def slow : Handler := fun request => {
  delay := 5
  outcome :=
    if request.path = "/" then .ok { written := Http.isWritten_ok } else .error (.runtime "no such page") }

/-- One worker answers three clients one after the other. -/
theorem workers_kept_crowd : 0 < 1 ∧ crowd.WorkersKept {} slow 1 ∧
    (crowd.serve 1 {} slow).calls.map Prod.fst = [0, 5, 10] :=
  ⟨by decide, workers_kept _ _ _ (by decide), by decide +kernel⟩

end Network

end FixedReply
