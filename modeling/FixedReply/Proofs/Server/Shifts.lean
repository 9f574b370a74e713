import FixedReply.Proofs.Server.Life
import FixedReply.Proofs.Server.Timing

namespace FixedReply

open Http (Request)

inductive Shift
  | granted (who : Nat)
  | returned (who : Nat)
  deriving DecidableEq

namespace Shift

/-- Who holds a token after some shifts, of which the newest comes first. No connection is granted a
second token, and none gives back a token that it does not hold. -/
inductive Kept : List Shift → List Nat → Prop
  | none : Kept [] []
  | grant {shifts : List Shift} {holders : List Nat} {who : Nat} (h : Kept shifts holders)
      (hw : who ∉ holders) : Kept (.granted who :: shifts) (who :: holders)
  | giveBack {shifts : List Shift} {holders : List Nat} {who : Nat} (h : Kept shifts holders)
      (hw : who ∈ holders) : Kept (.returned who :: shifts) (holders.erase who)

variable {shifts : List Shift} {holders : List Nat}

theorem Kept.nodup (h : Kept shifts holders) : holders.Nodup := by
  induction h with
  | none => exact List.nodup_nil
  | grant _ hw ih => exact List.nodup_cons.mpr ⟨hw, ih⟩
  | giveBack _ _ ih => exact ih.erase _

/-- Every token that was granted has been given back once, save those that are still held. -/
theorem Kept.count (h : Kept shifts holders) (who : Nat) :
    shifts.count (.granted who) = shifts.count (.returned who) + holders.count who := by
  induction h with
  | none => rfl
  | @grant shifts holders other _ _ ih =>
    by_cases ho : other = who
    · subst ho
      simp [ih, Nat.add_assoc]
    · simp [ih, ho]
  | @giveBack shifts holders other _ hw ih =>
    by_cases ho : other = who
    · subst ho
      have hpos : 0 < holders.count other := List.count_pos_iff.mpr hw
      simp only [List.count_cons_self, List.count_erase_self]
      simp [ih]
      omega
    · simp [ih, ho, List.count_erase_of_ne (Ne.symm ho)]

/-- All of some holders may give their tokens back. -/
theorem Kept.giveAll (h : Kept shifts holders) {leaving : List Nat} (hd : leaving.Nodup)
    (hl : ∀ who ∈ leaving, who ∈ holders) :
    ∃ left, Kept (leaving.map .returned ++ shifts) left ∧
      ∀ who, who ∈ left ↔ who ∈ holders ∧ who ∉ leaving := by
  induction leaving with
  | nil => exact ⟨holders, h, by simp⟩
  | cons first rest ih =>
    obtain ⟨hnew, hrest⟩ := List.nodup_cons.mp hd
    obtain ⟨left, hk, hm⟩ := ih hrest fun who hw => hl who (List.mem_cons_of_mem _ hw)
    have hfirst : first ∈ left := (hm first).mpr ⟨hl first List.mem_cons_self, hnew⟩
    refine ⟨left.erase first, .giveBack hk hfirst, fun who => ?_⟩
    rw [hk.nodup.mem_erase_iff, hm who, List.mem_cons, not_or]
    exact and_left_comm

end Shift

namespace Phase

def isInProgress (now : Time) : Phase → Bool
  | handling ends _ _ wire => wire.clock ≤ now && now < ends
  | _ => false

end Phase

namespace Traffic

open Shift (Kept)

def Calls (traffic : Traffic) (who : Nat) : Prop :=
  ∃ phase, traffic.phases[who]? = some phase ∧ phase.isHandling

def callers (traffic : Traffic) : List Nat :=
  (List.range traffic.phases.length).filter fun i => (traffic.phases[i]?.map Phase.isHandling).getD false

/-- The shifts of the step that a connection takes. A call that is due is granted a free token if there
is one; a call that ends gives its token back, and the first who waits for one has it next. -/
def shifts (traffic : Traffic) (i : Nat) : List Shift :=
  match traffic.phases[i]? with
  | some (.due (.call _ _)) => if traffic.limiter.hasFree then [.granted i] else []
  | some (.handling _ _ _ _) =>
    (traffic.limiter.release.1.map Shift.granted).toList ++ [.returned i]
  | _ => []

/-- Whatever may happen from a start on, with the shifts up to a time: nothing does for a while, one of
the connections takes a step that is due, or all are stopped and give back their tokens. -/
inductive Runs (terms : Terms) (handler : Handler) (start : Traffic) :
    List Shift → Time → Traffic → Prop
  | start : Runs terms handler start [] 0 start
  | waits {shifts : List Shift} {now time : Time} {traffic : Traffic}
      (h : Runs terms handler start shifts now traffic) (hl : now ≤ time) (hs : traffic.Still time) :
      Runs terms handler start shifts time traffic
  | steps {shifts : List Shift} {now : Time} {i : Nat} {traffic next : Traffic}
      (h : Runs terms handler start shifts now traffic) (hs : Stepped terms handler traffic now i next) :
      Runs terms handler start (traffic.shifts i ++ shifts) now next
  | stops {shifts : List Shift} {now : Time} {traffic : Traffic} {close : Phase → Phase}
      (h : Runs terms handler start shifts now traffic) (records : List Record)
      (hc : ∀ phase, (close phase).isClosed) :
      Runs terms handler start (traffic.callers.map .returned ++ shifts) now
        ((traffic.log records).shut close)

structure Accounted (shifts : List Shift) (holders : List Nat) (traffic : Traffic) : Prop where
  kept : Kept shifts holders
  held : traffic.limiter.held = holders.length
  calls : ∀ who, who ∈ holders ↔ traffic.Calls who

variable {terms : Terms} {handler : Handler} {cutoff : Option Cutoff} {traffic next : Traffic}
  {now : Time} {i : Nat} {shifts : List Shift} {holders : List Nat} {old phase : Phase}

theorem mem_callers {who : Nat} : who ∈ traffic.callers ↔ traffic.Calls who := by
  simp only [callers, Calls, List.mem_filter, List.mem_range]
  constructor
  · intro h
    obtain ⟨hlt, hh⟩ := h
    rw [List.getElem?_eq_getElem hlt] at hh ⊢
    exact ⟨_, rfl, hh⟩
  · intro h
    obtain ⟨phase, hp, hh⟩ := h
    obtain ⟨hlt, -⟩ := List.getElem?_eq_some_iff.mp hp
    exact ⟨hlt, by rw [hp]; exact hh⟩

theorem nodup_callers (traffic : Traffic) : traffic.callers.Nodup := List.nodup_range.filter _

theorem Accounted.stay (h : Accounted shifts holders traffic) (ho : traffic.phases[i]? = some old)
    (hn : next.phases = traffic.phases.set i phase) (hh : phase.isHandling = old.isHandling)
    (hl : next.limiter.held = traffic.limiter.held) : Accounted shifts holders next := by
  refine ⟨h.kept, hl.trans h.held, fun who => ?_⟩
  rw [h.calls who, Calls, Calls, hn, exists_set ho]
  split
  · subst who
    simp [ho, hh]
  · rfl

theorem Accounted.grant (h : Accounted shifts holders traffic) (ho : traffic.phases[i]? = some old)
    (hold : old.isHandling = false) (hp : phase.isHandling = true)
    (hn : next.phases = traffic.phases.set i phase)
    (hl : next.limiter.held = traffic.limiter.held + 1) :
    Accounted (.granted i :: shifts) (i :: holders) next := by
  have hfree : i ∉ holders := by
    rw [h.calls i, Calls]
    simp [ho, hold]
  refine ⟨.grant h.kept hfree, ?_, fun who => ?_⟩
  · rw [hl, h.held, List.length_cons]
  · rw [List.mem_cons, h.calls who, Calls, Calls, hn, exists_set ho]
    split
    · simp [*]
    · simp [*]

theorem Accounted.giveBack (h : Accounted shifts holders traffic) (ho : traffic.phases[i]? = some old)
    (hold : old.isHandling = true) (hp : phase.isHandling = false)
    (hn : next.phases = traffic.phases.set i phase)
    (hl : next.limiter.held = traffic.limiter.held - 1) :
    Accounted (.returned i :: shifts) (holders.erase i) next := by
  have hmine : i ∈ holders := (h.calls i).mpr ⟨old, ho, hold⟩
  refine ⟨.giveBack h.kept hmine, ?_, fun who => ?_⟩
  · rw [hl, h.held, List.length_erase_of_mem hmine]
  · rw [h.kept.nodup.mem_erase_iff, h.calls who, Calls, Calls, hn, exists_set ho]
    split
    · simp [*]
    · simp [*]

/-- A step keeps the account. -/
theorem Accounted.stepped (h : Accounted shifts holders traffic) (hf : Staffed traffic)
    (hs : Stepped terms handler traffic now i next) :
    ∃ holders', Accounted (traffic.shifts i ++ shifts) holders' next := by
  cases hs with
  | @calls request wire hp =>
    unfold Traffic.shifts dispatch
    rw [hp]
    dsimp only
    split
    · exact ⟨_, h.grant hp rfl rfl rfl rfl⟩
    · exact ⟨_, h.stay hp rfl rfl rfl⟩
  | closes hp =>
    unfold Traffic.shifts
    rw [hp]
    exact ⟨_, h.stay hp rfl rfl rfl⟩
  | @ends request outcome wire hp =>
    let turn := Connection.reply terms request (Connection.responseTo outcome) (wire.later now)
    have hmid : Accounted (.returned i :: shifts) (holders.erase i)
        { traffic.setPhase i (.due turn) with
          limiter := { traffic.limiter with held := traffic.limiter.held - 1 } } :=
      h.giveBack hp rfl rfl rfl rfl
    unfold Traffic.shifts finish release
    rw [hp]
    cases hq : traffic.limiter.queue with
    | nil =>
      refine ⟨holders.erase i, ?_⟩
      simp only [setPhase, log, Limiter.release_none hq]
      exact ⟨hmid.kept, hmid.held, hmid.calls⟩
    | cons who rest =>
      -- The token changes hands: it is given back first, and then granted to the one that waits longest.
      obtain ⟨waiter, hwho, hwait⟩ := (hf.queued who).mp (by simp [hq])
      obtain ⟨asked, waiting, rfl⟩ := eq_waiting hwait
      have hne : i ≠ who := by
        rintro rfl
        rw [hp] at hwho
        cases hwho
      have hnow : (traffic.phases.set i (.due turn))[who]? = some (.waiting asked waiting) := by
        rw [List.getElem?_set_ne hne, hwho]
      have hpos : 0 < traffic.limiter.held := by
        have hmine : i ∈ holders := (h.calls i).mpr ⟨_, hp, rfl⟩
        rw [h.held]
        exact List.length_pos_of_mem hmine
      refine ⟨who :: holders.erase i, ?_⟩
      simp only [setPhase, log, Limiter.release_first hq]
      rw [wake_eq hnow]
      exact hmid.grant hnow rfl rfl rfl (Nat.sub_add_cancel hpos).symm

/-- When all connections are stopped, every token comes back. -/
theorem Accounted.stopped (h : Accounted shifts holders traffic) (hf : Staffed traffic)
    {close : Phase → Phase} (hc : ∀ phase, (close phase).isClosed) :
    Accounted (traffic.callers.map .returned ++ shifts) [] (traffic.shut close) := by
  obtain ⟨left, hk, hm⟩ := h.kept.giveAll (nodup_callers traffic)
    fun who hw => (h.calls who).mpr (mem_callers.mp hw)
  have hnil : left = [] := by
    refine List.eq_nil_iff_forall_not_mem.mpr fun who hw => ?_
    obtain ⟨hin, hout⟩ := (hm who).mp hw
    exact hout (mem_callers.mpr ((h.calls who).mp hin))
  subst hnil
  refine ⟨hk, ?_, fun who => ?_⟩
  · show traffic.limiter.held - traffic.phases.countP Phase.isHandling = 0
    rw [hf.held, Nat.sub_self]
  · have hnone : ¬ (traffic.shut close).Calls who := by
      rintro ⟨phase, hp, hh⟩
      rw [shut, List.getElem?_map, Option.map_eq_some_iff] at hp
      obtain ⟨before, -, rfl⟩ := hp
      obtain ⟨wire, he⟩ := Phase.eq_closed (hc before)
      rw [he] at hh
      cases hh
    simp [hnone]

theorem Accounted.none_of_closed (h : Accounted shifts holders traffic)
    (hc : ∀ phase ∈ traffic.phases, phase.isClosed) : holders = [] := by
  refine List.eq_nil_iff_forall_not_mem.mpr fun who hw => ?_
  obtain ⟨phase, hp, hh⟩ := (h.calls who).mp hw
  obtain ⟨wire, rfl⟩ := Phase.eq_closed (hc phase (List.mem_of_getElem? hp))
  cases hh

theorem atWork_le_handling (phases : List Phase) :
    phases.countP Phase.isAtWork ≤ phases.countP Phase.isHandling := by
  apply List.countP_mono_left
  intro phase _ h
  cases phase <;> simp_all [Phase.isAtWork, Phase.isHandling]

/-- Handlers are never at work in greater number than there are workers. -/
theorem peak_stepped (hf : Staffed traffic) (hk : traffic.peak ≤ traffic.limiter.capacity)
    (hs : Stepped terms handler traffic now i next) : next.peak ≤ next.limiter.capacity := by
  have hwork := atWork_le_handling traffic.phases
  have hheld := hf.held
  cases hs with
  | @calls request wire hp =>
    unfold dispatch
    split
    · rename_i hfree
      have hlt : traffic.limiter.held < traffic.limiter.capacity := Limiter.hasFree_iff.mp hfree
      have hone : traffic.phases.countP Phase.isAtWork + 1 ≤ traffic.limiter.capacity := by omega
      exact Nat.max_le.mpr ⟨hk, hone⟩
    · exact hk
  | closes => exact hk
  | @ends request outcome wire hp =>
    let turn := Connection.reply terms request (Connection.responseTo outcome) (wire.later now)
    -- The call that ends does not count any more, which leaves room for the one that is woken.
    have hone : (traffic.phases.set i (.due turn)).countP Phase.isAtWork + 1 ≤
        traffic.limiter.capacity := by
      have hless := atWork_le_handling (traffic.phases.set i (.due turn))
      have hset : (traffic.phases.set i (.due turn)).countP Phase.isHandling + 1 =
          traffic.phases.countP Phase.isHandling := ended_set hp rfl rfl
      have hbound := hf.sound.bounded
      omega
    unfold finish release
    cases hq : traffic.limiter.queue with
    | nil => simpa only [setPhase, log, Limiter.release_none hq] using hk
    | cons who rest =>
      simp only [setPhase, log, Limiter.release_first hq]
      unfold wake
      split
      · exact Nat.max_le.mpr ⟨hk, hone⟩
      · exact hk

theorem staffed_shut (hf : Staffed traffic) {close : Phase → Phase}
    (hc : ∀ phase, (close phase).isClosed) : Staffed (traffic.shut close) := by
  have hhandling : ∀ phase, (close phase).isHandling = false := by
    intro phase
    obtain ⟨wire, he⟩ := Phase.eq_closed (hc phase)
    rw [he]
    rfl
  have hwaiting : ∀ phase, (close phase).isWaiting = false := by
    intro phase
    obtain ⟨wire, he⟩ := Phase.eq_closed (hc phase)
    rw [he]
    rfl
  have hheld : (traffic.shut close).limiter.held = 0 := by
    show traffic.limiter.held - traffic.phases.countP Phase.isHandling = 0
    rw [hf.held, Nat.sub_self]
  refine ⟨⟨hheld ▸ Nat.zero_le _, fun h => absurd rfl h⟩, ?_, List.nodup_nil, fun i => ?_⟩
  · rw [hheld, shut, List.countP_map]
    simp [Function.comp_def, hhandling]
  · simp [shut, hwaiting]

structure Sound (workers : Nat) (shifts : List Shift) (now : Time) (traffic : Traffic) : Prop where
  capacity : traffic.limiter.capacity = workers
  staffed : Staffed traffic
  timely : Timely now traffic
  peak : traffic.peak ≤ workers
  accounted : ∃ holders, Accounted shifts holders traffic

variable {start : Traffic} {workers : Nat} {time : Time}

theorem Sound.stepped (h : Sound workers shifts now traffic)
    (hs : Stepped terms handler traffic now i next) :
    Sound workers (traffic.shifts i ++ shifts) now next := by
  obtain ⟨holders, ha⟩ := h.accounted
  have hcap : next.limiter.capacity = workers := hs.capacity.trans h.capacity
  have hpeak := peak_stepped h.staffed (h.capacity ▸ h.peak) hs
  exact ⟨hcap, h.staffed.stepped hs, h.timely.stepped hs, hcap ▸ hpeak, ha.stepped h.staffed hs⟩

theorem Sound.stopped (h : Sound workers shifts now traffic) (records : List Record)
    {close : Phase → Phase} (hc : ∀ phase, (close phase).isClosed) :
    Sound workers (traffic.callers.map .returned ++ shifts) now
      ((traffic.log records).shut close) := by
  obtain ⟨holders, ha⟩ := h.accounted
  refine ⟨h.capacity, staffed_shut (h.staffed.log records) hc, ?_, h.peak, [], ?_⟩
  · intro phase hp
    obtain ⟨before, -, rfl⟩ := List.mem_map.mp hp
    obtain ⟨wire, he⟩ := Phase.eq_closed (hc before)
    rw [he]
    trivial
  · obtain ⟨hk, hh, hcalls⟩ := ha.stopped h.staffed hc
    exact ⟨hk, hh, hcalls⟩

theorem Runs.sound (h : Runs terms handler start shifts now traffic) (h₀ : Sound workers [] 0 start) :
    Sound workers shifts now traffic := by
  induction h with
  | start => exact h₀
  | waits _ hl hs ih => exact ⟨ih.capacity, ih.staffed, ih.timely.later hl hs, ih.peak, ih.accounted⟩
  | steps _ hs ih => exact ih.stepped hs
  | stops _ records hc ih => exact ih.stopped records hc

theorem sound_opened (terms : Terms) (workers : Nat) (wires : List Wire) :
    Sound workers [] 0 (opened terms workers wires) := by
  have hdue : ∀ phase ∈ (opened terms workers wires).phases, ∃ turn, phase = .due turn := by
    intro phase hp
    obtain ⟨wire, -, rfl⟩ := List.mem_map.mp hp
    exact ⟨_, rfl⟩
  refine ⟨rfl, staffed_opened terms workers wires, fun phase hp => ?_, Nat.zero_le _, [], .none, rfl,
    fun who => ?_⟩
  · obtain ⟨turn, rfl⟩ := hdue phase hp
    exact Nat.zero_le _
  · have hnone : ¬ (opened terms workers wires).Calls who := by
      rintro ⟨phase, hp, hh⟩
      obtain ⟨turn, rfl⟩ := hdue phase (List.mem_of_getElem? hp)
      cases hh
    simp [hnone]

theorem Sound.capped (h : Sound workers shifts now traffic) :
    traffic.phases.countP Phase.isHandling ≤ workers := by
  rw [← h.staffed.held, ← h.capacity]
  exact h.staffed.sound.bounded

/-- While time goes by and somebody waits, as many calls are in progress as there are workers. -/
theorem Sound.busy (h : Sound workers shifts now traffic) (hl : now < time) (hs : traffic.Still time)
    (hw : ∃ phase ∈ traffic.phases, phase.isWaiting) :
    traffic.phases.countP (Phase.isInProgress now) = workers := by
  obtain ⟨phase, hp, hwait⟩ := hw
  obtain ⟨i, hi⟩ := List.getElem?_of_mem hp
  have hqueue : i ∈ traffic.limiter.queue := (h.staffed.queued i).mpr ⟨phase, hi, hwait⟩
  have hall := h.staffed.sound.busy (List.ne_nil_of_mem hqueue)
  -- No call ends before `time`, so that whoever holds a token is in progress until then.
  have hsame : traffic.phases.countP (Phase.isInProgress now) =
      traffic.phases.countP Phase.isHandling := by
    apply List.countP_congr
    intro q hq
    cases q with
    | handling ends request outcome wire =>
      have hlast : now < ends := Nat.lt_of_lt_of_le hl (hs _ hq _ rfl)
      have hbegun := (h.timely _ hq).1
      simp [Phase.isInProgress, Phase.isHandling, hlast, hbegun]
    | _ => simp [Phase.isInProgress, Phase.isHandling]
  rw [hsame, ← h.staffed.held, ← h.capacity]
  exact Nat.le_antisymm h.staffed.sound.bounded hall

end Traffic

end FixedReply
