import FixedReply.Proofs.Server.Steps

namespace FixedReply

open Http (Request)

namespace Phase

def isWaiting : Phase → Bool
  | waiting _ _ => true
  | _ => false

theorem eq_closed {phase : Phase} (h : phase.isClosed) : ∃ wire, phase = .closed wire := by
  cases phase <;> simp_all [isClosed]

end Phase

namespace Traffic

variable {terms : Terms} {handler : Handler} {cutoff : Option Cutoff} {traffic next : Traffic}
  {now : Time} {i : Nat} {request : Request} {wire : Wire}

/-- The tokens that are held are those of the calls in progress, no more than there are; the queue
holds those who wait, once each, and only while no token is free. -/
structure Staffed (traffic : Traffic) : Prop where
  sound : traffic.limiter.Sound
  held : traffic.limiter.held = traffic.phases.countP Phase.isHandling
  distinct : traffic.limiter.queue.Nodup
  queued : ∀ i, i ∈ traffic.limiter.queue ↔ ∃ phase, traffic.phases[i]? = some phase ∧ phase.isWaiting

theorem handling_set {phases : List Phase} {old : Phase} (h : phases[i]? = some old)
    (phase : Phase) : (phases.set i phase).countP Phase.isHandling + old.isHandling.toNat =
      phases.countP Phase.isHandling + phase.isHandling.toNat := by
  induction phases generalizing i with
  | nil => simp at h
  | cons p rest ih =>
    cases i with
    | zero =>
      obtain rfl : p = old := by simpa using h
      simp only [List.set_cons_zero, List.countP_cons]
      cases p.isHandling <;> cases phase.isHandling <;> simp
    | succ i =>
      have := ih (by simpa using h)
      simp only [List.set_cons_succ, List.countP_cons]
      omega

/-- Which connections are such and such when one of them changes. -/
theorem exists_set {phases : List Phase} {old : Phase} (h : phases[i]? = some old) (phase : Phase)
    (such : Phase → Bool) (j : Nat) : (∃ q, (phases.set i phase)[j]? = some q ∧ such q) ↔
      if j = i then such phase = true else ∃ q, phases[j]? = some q ∧ such q := by
  obtain ⟨hi, -⟩ := List.getElem?_eq_some_iff.mp h
  by_cases hj : j = i
  · subst hj
    simp [hi]
  · simp [hj, Ne.symm hj]

/-- A phase change between two phases in which nobody waits and no token is held. -/
theorem Staffed.setPhase (h : Staffed traffic) {old : Phase} (ho : traffic.phases[i]? = some old)
    {phase : Phase} (hw : phase.isWaiting = old.isWaiting) (hh : phase.isHandling = old.isHandling) :
    Staffed (traffic.setPhase i phase) := by
  refine ⟨h.sound, ?_, h.distinct, ?_⟩
  · have := handling_set ho phase
    rw [hh] at this
    exact h.held.trans (Nat.add_right_cancel this).symm
  · intro j
    rw [Traffic.setPhase, exists_set ho, hw, h.queued j]
    split
    · subst j
      simp [ho]
    · rfl

theorem Staffed.dispatch (h : Staffed traffic)
    (ho : traffic.phases[i]? = some (.due (.call request wire))) :
    Staffed (dispatch handler now i request wire traffic) := by
  unfold Traffic.dispatch
  split
  · rename_i hf
    have hset := handling_set ho (.handling (now + (handler request).delay) request
      (handler request).outcome ((wire.resume now).note (.called request)))
    simp only [Phase.isHandling, Bool.toNat_false, Bool.toNat_true] at hset
    refine ⟨h.sound.take hf, ?_, h.distinct, ?_⟩
    · simp only [start, Traffic.setPhase, Limiter.take, h.held]
      omega
    · intro j
      simp only [start, Traffic.setPhase, Limiter.take]
      rw [exists_set ho, h.queued j]
      split
      · subst j
        simp [ho, Phase.isWaiting]
      · rfl
  · rename_i hf
    have hset := handling_set ho (.waiting request wire)
    simp only [Phase.isHandling, Bool.toNat_false, Nat.add_zero] at hset
    have hnew : i ∉ traffic.limiter.queue := by
      rw [h.queued]
      simp [ho, Phase.isWaiting]
    refine ⟨h.sound.enqueue hf i, h.held.trans hset.symm, ?_, ?_⟩
    · exact List.nodup_append.mpr ⟨h.distinct, by simp, by
        intro a ha b hb he
        rw [List.mem_singleton.mp hb] at he
        exact hnew (he ▸ ha)⟩
    · intro j
      simp only [Traffic.setPhase, Limiter.enqueue]
      rw [exists_set ho]
      split
      · subst j
        simp [Phase.isWaiting]
      · rename_i hj
        simp [h.queued j, hj]

theorem wake_eq (h : traffic.phases[i]? = some (.waiting request wire)) :
    wake handler now i traffic = start handler now i request wire traffic := by
  simp [wake, h]

theorem eq_waiting {phase : Phase} (h : phase.isWaiting = true) :
    ∃ request wire, phase = .waiting request wire := by
  cases phase <;> simp [Phase.isWaiting] at h
  exact ⟨_, _, rfl⟩

/-- Who is being handled waits no longer. -/
theorem Staffed.not_queued (h : Staffed traffic) {old : Phase} (ho : traffic.phases[i]? = some old)
    (hold : old.isHandling = true) : i ∉ traffic.limiter.queue := by
  have hnot : old.isWaiting = false := by
    cases old <;> simp_all [Phase.isHandling, Phase.isWaiting]
  rw [h.queued]
  simp [ho, hnot]

/-- A call that ends leaves one call less. -/
theorem ended_set {old : Phase} (ho : traffic.phases[i]? = some old) (hold : old.isHandling = true)
    {phase : Phase} (hp : phase.isHandling = false) :
    (traffic.phases.set i phase).countP Phase.isHandling + 1 =
      traffic.phases.countP Phase.isHandling := by
  have hset := handling_set ho phase
  rwa [hold, hp, Bool.toNat_true, Bool.toNat_false, Nat.add_zero] at hset

/-- Where nobody waits, a call that ends gives its token back. -/
theorem Staffed.release_free (h : Staffed traffic) {old : Phase}
    (ho : traffic.phases[i]? = some old) (hold : old.isHandling = true) {phase : Phase}
    (hp : phase.isHandling = false) (hw : phase.isWaiting = false)
    (hq : traffic.limiter.queue = []) :
    Staffed (Traffic.release handler now (traffic.setPhase i phase)) := by
  have hset := ended_set ho hold hp
  have hheld := h.held
  have hsound := h.sound.release
  rw [Limiter.release_none hq] at hsound
  unfold Traffic.release
  simp only [Traffic.setPhase, Limiter.release_none hq]
  refine ⟨hsound, ?_, h.distinct, ?_⟩
  · show traffic.limiter.held - 1 = (traffic.phases.set i phase).countP Phase.isHandling
    omega
  · intro j
    rw [exists_set ho, hw, ← h.queued j, hq]
    simp

/-- Where somebody waits, a call that ends hands its token to the first of them. -/
theorem Staffed.release_handed (h : Staffed traffic) {old : Phase}
    (ho : traffic.phases[i]? = some old) (hold : old.isHandling = true) {phase : Phase}
    (hp : phase.isHandling = false) (hw : phase.isWaiting = false) {who : Nat} {rest : List Nat}
    (hq : traffic.limiter.queue = who :: rest) :
    Staffed (Traffic.release handler now (traffic.setPhase i phase)) := by
  have hset := ended_set ho hold hp
  have hi := h.not_queued ho hold
  have hheld := h.held
  have hsound := h.sound.release
  rw [Limiter.release_first hq] at hsound
  unfold Traffic.release
  simp only [Traffic.setPhase, Limiter.release_first hq]
  obtain ⟨waiter, hwho, hwait⟩ := (h.queued who).mp (by simp [hq])
  obtain ⟨request, wire, rfl⟩ := eq_waiting hwait
  have hne : who ≠ i := by
    intro he
    subst he
    exact hi (by simp [hq])
  have hnow : (traffic.phases.set i phase)[who]? = some (.waiting request wire) := by
    simp [Ne.symm hne, hwho]
  have hnd := List.nodup_cons.mp (hq ▸ h.distinct)
  rw [wake_eq hnow]
  have hcall := handling_set hnow (.handling (now + (handler request).delay) request
    (handler request).outcome ((wire.resume now).note (.called request)))
  simp only [Phase.isHandling, Bool.toNat_true, Bool.toNat_false, Nat.add_zero] at hcall
  refine ⟨hsound, ?_, hnd.2, ?_⟩
  · simp only [start, Traffic.setPhase]
    omega
  · intro j
    simp only [start, Traffic.setPhase]
    rw [exists_set hnow, exists_set ho, hw, ← h.queued j, hq]
    by_cases hj : j = who
    · subst hj
      simp [Phase.isWaiting, hnd.1]
    · by_cases hji : j = i
      · subst hji
        have : j ∉ rest := fun hm => hi (by simp [hq, hm])
        simp [hj, this]
      · simp [hj, hji]

theorem Staffed.release (h : Staffed traffic) {old : Phase} (ho : traffic.phases[i]? = some old)
    (hold : old.isHandling = true) {phase : Phase} (hp : phase.isHandling = false)
    (hw : phase.isWaiting = false) : Staffed (release handler now (traffic.setPhase i phase)) := by
  cases hq : traffic.limiter.queue with
  | nil => exact h.release_free ho hold hp hw hq
  | cons who rest => exact h.release_handed ho hold hp hw hq

theorem Staffed.log (h : Staffed traffic) (records : List Record) : Staffed (traffic.log records) :=
  ⟨h.sound, h.held, h.distinct, h.queued⟩

theorem Staffed.stepped (h : Staffed traffic) (hs : Stepped terms handler traffic now i next) :
    Staffed next := by
  cases hs with
  | calls hp => exact h.dispatch hp
  | closes hp => exact (h.log _).setPhase hp rfl rfl
  | ends hp => exact (h.log _).release hp rfl rfl rfl

theorem Staffed.step (h : Staffed traffic) (hs : step terms handler cutoff traffic = some next) :
    Staffed next := by
  obtain ⟨i, moment, -, -, hs⟩ := Traffic.stepped hs
  exact h.stepped hs

theorem Staffed.run (h : Staffed traffic) : Staffed (run terms handler cutoff traffic) := by
  fun_induction Traffic.run terms handler cutoff traffic with
  | case1 => exact h
  | case2 traffic next hs ih => exact ih (h.step hs)

/-- Without a cutoff, traffic rests only when no connection is about to go on by itself. -/
theorem rest_of_step_none (h : step terms handler none traffic = none) :
    ∀ phase ∈ traffic.phases, phase.moment? = none := by
  unfold Traffic.step at h
  split at h
  · rename_i he
    exact Phase.earliest?_none he
  · rename_i i moment he
    obtain ⟨phase, hp, hm⟩ := Phase.earliest?_some he
    simp only [Option.any_none, Bool.false_eq_true, ↓reduceIte, hp] at h
    cases phase with
    | due turn => cases turn <;> simp at h
    | waiting => simp [Phase.moment?] at hm
    | handling => simp at h
    | closed => simp [Phase.moment?] at hm

/-- As long as there are workers, traffic does not rest before all connections are closed. -/
theorem Staffed.closed_of_rest (h : Staffed traffic) (hw : 0 < traffic.limiter.capacity)
    (hr : Traffic.step terms handler none traffic = none) :
    ∀ phase ∈ traffic.phases, phase.isClosed := by
  have hm := rest_of_step_none hr
  have hidle : traffic.phases.countP Phase.isHandling = 0 := by
    rw [List.countP_eq_zero]
    intro phase hp hh
    have := hm phase hp
    cases phase <;> simp_all [Phase.isHandling, Phase.moment?]
  have hq : traffic.limiter.queue = [] := by
    apply Decidable.byContradiction
    intro hne
    have := h.sound.busy hne
    have := h.held
    omega
  intro phase hp
  obtain ⟨i, hi, rfl⟩ := List.getElem_of_mem hp
  cases hph : traffic.phases[i] with
  | due turn => simpa [hph, Phase.moment?] using hm _ hp
  | waiting request wire =>
    have : i ∈ traffic.limiter.queue :=
      (h.queued i).mpr ⟨_, List.getElem?_eq_getElem hi, by simp [hph, Phase.isWaiting]⟩
    simp [hq] at this
  | handling => simpa [hph, Phase.moment?] using hm _ hp
  | closed => rfl

end Traffic

end FixedReply
