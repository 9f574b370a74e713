import FixedReply.Proofs.Wire.Buffered
import FixedReply.Proofs.Wire.Follow

namespace FixedReply.Wire

open Http (Request)

variable {ε α : Type} {wire next : Wire} {limits : Limits} {stage : Stage} {deadline longer : Time}

def before (wire : Wire) (deadline : Time) : Wire := { wire with deadline := some deadline }

theorem within_eq (wire : Wire) (time : Time) : wire.within time = wire.before (wire.clock + time) := rfl

/-- How the same is done under two deadlines of which the second is the longer one: both come to the same
before the first deadline, or there the first is late, and the second goes on for at least as long. -/
inductive Sooner (late : ε) (deadline longer : Time) (first second : Except ε α × Wire) : Prop
  | same (hr : first.1 ≠ .error late) (hc : first.2.clock < deadline)
      (hd : first.2.deadline = some deadline) (he : second = (first.1, first.2.before longer))
  | late (hr : first.1 = .error late) (hc : first.2.clock = deadline)
      (hl : deadline ≤ second.2.clock)

/-- What is done in the same way goes on in the same way, and who is late does nothing more. -/
theorem Sooner.then {δ β : Type} {early : ε} {late : δ} {first second : Except ε α × Wire}
    {go : Except ε α × Wire → Except δ β × Wire} (h : Sooner early deadline longer first second)
    (hlate : ∀ wire, go (.error early, wire) = (.error late, wire))
    (hclock : ∀ result, result.2.clock ≤ (go result).2.clock)
    (hgo : first.1 ≠ .error early → first.2.clock < deadline → first.2.deadline = some deadline →
      Sooner late deadline longer (go first) (go (first.1, first.2.before longer))) :
    Sooner late deadline longer (go first) (go second) := by
  cases h with
  | same hr hc hd he =>
    rw [he]
    exact hgo hr hc hd
  | late hr hc hl =>
    obtain ⟨result, next⟩ := first
    cases hr
    rw [hlate]
    exact .late rfl hc (Nat.le_trans hl (hclock second))

theorem clock_waitFor (wire : Wire) (moment : Time) :
    (wire.waitFor moment).clock = max wire.clock moment := by
  unfold waitFor
  split
  · exact (Nat.max_eq_right (Nat.le_of_lt ‹_›)).symm
  · exact (Nat.max_eq_left (Nat.le_of_not_lt ‹_›)).symm

theorem deadline_waitFor (wire : Wire) (moment : Time) :
    (wire.waitFor moment).deadline = wire.deadline := by
  unfold waitFor
  split <;> rfl

theorem clock_giveUp (hc : wire.clock < deadline) : (wire.giveUp deadline).clock = deadline :=
  (clock_waitFor wire deadline).trans (Nat.max_eq_right (Nat.le_of_lt hc))

def receive (wire : Wire) (event : Event) (rest : List Event) : Except Loss Bool × Wire :=
  let wire := { wire.waitFor event.due with inbox := rest }
  match event.what with
  | .data [] => (.ok false, wire)
  | .data (b :: bytes) => (.ok true, wire.accept (b :: bytes))
  | .failure (.one .endOfStream) => (.ok false, wire)
  | .failure what => (.error (.broken what), wire)

/-- What comes next is received, if no deadline passes before. -/
theorem fill_receive {event : Event} {rest : List Event} (hi : wire.inbox = event :: rest)
    (hd : wire.meetsDeadline event.due = none) : wire.fill = wire.receive event rest := by
  unfold fill
  rw [hi]
  simp only [hd]
  rfl

theorem meetsDeadline_eq (hc : wire.clock < deadline) (hd : wire.deadline = some deadline)
    (moment : Time) :
    wire.meetsDeadline moment = if deadline ≤ moment then some deadline else none := by
  unfold meetsDeadline
  rw [hd]
  by_cases hm : deadline ≤ moment
  · rw [if_pos (Nat.lt_of_lt_of_le hc hm), if_pos hm]
    simp [hm]
  · rw [if_neg hm]
    have hlt : moment < deadline := Nat.lt_of_not_le hm
    simp [hlt]

/-- Ahead of a deadline something is received if it is due by then, and else the wait is given up. -/
theorem fill_eq (hc : wire.clock < deadline) (hd : wire.deadline = some deadline) :
    wire.fill = match wire.inbox with
      | [] => (.error .expired, wire.giveUp deadline)
      | event :: rest =>
        if deadline ≤ event.due then (.error .expired, wire.giveUp deadline)
        else wire.receive event rest := by
  unfold fill
  cases wire.inbox with
  | nil => simp only [hd]
  | cons event rest =>
    simp only [meetsDeadline_eq hc hd]
    by_cases hdue : deadline ≤ event.due
    · simp only [if_pos hdue]
    · simp only [if_neg hdue]
      rfl

theorem waitFor_before (wire : Wire) (deadline moment : Time) :
    (wire.before deadline).waitFor moment = (wire.waitFor moment).before deadline := by
  unfold waitFor
  split <;> split
  · rfl
  · contradiction
  · contradiction
  · rfl

theorem receive_before (wire : Wire) (deadline : Time) (event : Event) (rest : List Event) :
    (wire.before deadline).receive event rest =
      ((wire.receive event rest).1, (wire.receive event rest).2.before deadline) := by
  unfold receive
  rw [waitFor_before]
  dsimp only
  split <;> rfl

theorem clock_receive (wire : Wire) (event : Event) (rest : List Event) :
    (wire.receive event rest).2.clock = max wire.clock event.due := by
  rw [← clock_waitFor]
  unfold receive
  dsimp only
  split <;> rfl

theorem deadline_receive (wire : Wire) (event : Event) (rest : List Event) :
    (wire.receive event rest).2.deadline = wire.deadline := by
  rw [← deadline_waitFor wire event.due]
  unfold receive
  dsimp only
  split <;> rfl

theorem receive_ne_expired (wire : Wire) (event : Event) (rest : List Event) :
    (wire.receive event rest).1 ≠ .error .expired := by
  unfold receive
  dsimp only
  split <;> simp

/-- A reception before the deadline does not depend on it, and without one the wait ends there. -/
theorem sooner_fill (hc : wire.clock < deadline) (hd : wire.deadline = some deadline)
    (hl : deadline ≤ longer) :
    Sooner .expired deadline longer wire.fill (wire.before longer).fill := by
  have hc' : (wire.before longer).clock < longer := Nat.lt_of_lt_of_le hc hl
  rw [fill_eq hc hd, fill_eq hc' rfl]
  have hinbox : (wire.before longer).inbox = wire.inbox := rfl
  rw [hinbox]
  cases wire.inbox with
  | nil =>
    refine .late rfl (clock_giveUp hc) ?_
    rw [clock_giveUp hc']
    exact hl
  | cons event rest =>
    dsimp only
    by_cases hdue : deadline ≤ event.due
    · rw [if_pos hdue]
      refine .late rfl (clock_giveUp hc) ?_
      by_cases hlong : longer ≤ event.due
      · rw [if_pos hlong, clock_giveUp hc']
        exact hl
      · rw [if_neg hlong, clock_receive]
        exact Nat.le_trans hdue (Nat.le_max_right _ _)
    · have hlt : event.due < deadline := Nat.lt_of_not_le hdue
      rw [if_neg hdue, if_neg (Nat.not_le_of_lt (Nat.lt_of_lt_of_le hlt hl))]
      refine .same (receive_ne_expired _ _ _) ?_ ?_ (receive_before _ _ _ _)
      · rw [clock_receive]
        exact Nat.max_lt.mpr ⟨hc, hlt⟩
      · rw [deadline_receive, hd]

variable {σ : Type} {scan : σ → Bytes → Scan σ α} {state later : σ} {kept : Bytes}

def afterFill (scan : σ → Bytes → Scan σ α) (state : σ) :
    Except Loss Bool × Wire → Except Loss α × Wire
  | (.ok true, wire) => await scan state wire
  | (.ok false, wire) => (.error .cutShort, wire)
  | (.error loss, wire) => (.error loss, wire)

theorem clock_le_afterFill (scan : σ → Bytes → Scan σ α) (state : σ)
    (received : Except Loss Bool × Wire) :
    received.2.clock ≤ (afterFill scan state received).2.clock := by
  obtain ⟨loss | taken, next⟩ := received
  · exact Nat.le_refl _
  · cases taken
    · exact Nat.le_refl _
    · exact (onward_await scan state next).grows.clock_le

/-- A wish for more is met by a reception. -/
theorem await_wanting (h : scan state wire.buffer = .wanting later kept) :
    await scan state wire = afterFill scan later (wire.keep kept).fill := by
  rw [await]
  split
  · rename_i hs
    rw [h] at hs
    cases hs
  · rename_i hs
    rw [h] at hs
    cases hs
    split <;> rename_i he <;> rw [he] <;> rfl

/-- What is awaited comes before the deadline, or is given up there. -/
theorem sooner_await (scan : σ → Bytes → Scan σ α) (state : σ) (hc : wire.clock < deadline)
    (hd : wire.deadline = some deadline) (hl : deadline ≤ longer) :
    Sooner .expired deadline longer (await scan state wire) (await scan state (wire.before longer)) := by
  -- The induction is on what the peer has still to send, of which each reception takes some.
  induction hn : wire.inbox.length using Nat.strongRecOn generalizing state wire with
  | ind bound ih =>
    cases hs : scan state wire.buffer with
    | found a rest =>
      have hs' : scan state (wire.before longer).buffer = .found a rest := hs
      rw [await_found hs, await_found hs']
      exact .same nofun hc hd rfl
    | wanting later kept =>
      have hs' : scan state (wire.before longer).buffer = .wanting later kept := hs
      have hfill : Sooner .expired deadline longer (wire.keep kept).fill
          ((wire.keep kept).before longer).fill := sooner_fill hc hd hl
      rw [await_wanting hs, await_wanting hs']
      refine hfill.then (fun _ => rfl) (clock_le_afterFill scan later) fun hr hcn hdn => ?_
      cases hf : (wire.keep kept).fill with
      | mk result next =>
        rw [hf] at hr hcn hdn
        rcases result with loss | _ | _
        · exact .same (fun he => hr (by cases he; rfl)) hcn hdn rfl
        · exact .same nofun hcn hdn rfl
        · have hlt : next.inbox.length < (wire.keep kept).inbox.length := inbox_fill hf
          exact ih _ (hn ▸ hlt) later hcn hdn rfl

theorem Sooner.chosen {move : α → Move} {first second : Except Loss α × Wire}
    (h : Sooner .expired deadline longer first second) :
    Sooner .expired deadline longer (Wire.chosen move first) (Wire.chosen move second) := by
  refine h.then (fun _ => rfl) (fun result => ?_) fun hr hc hd => ?_
  · exact Nat.le_of_eq (congrArg clock (chosen_snd move result)).symm
  · obtain ⟨loss | a, next⟩ := first
    · exact .same (fun he => hr (by cases he; rfl)) hc hd rfl
    · exact .same nofun hc hd rfl

theorem sooner_take (limits : Limits) (stage : Stage) (hc : wire.clock < deadline)
    (hd : wire.deadline = some deadline) (hl : deadline ≤ longer) :
    Sooner .expired deadline longer (stage.take limits wire) (stage.take limits (wire.before longer)) := by
  cases stage <;> exact (sooner_await _ _ hc hd hl).chosen

theorem send_before (wire : Wire) (deadline : Time) (data : Bytes) :
    (wire.before deadline).send data = ((wire.send data).1, (wire.send data).2.before deadline) := by
  have hsent : (wire.before deadline).sent = wire.sent := rfl
  have hfault : (wire.before deadline).sendFault = wire.sendFault := rfl
  unfold send
  rw [hfault, hsent]
  split
  · split <;> rfl
  · rfl

theorem say_before (said : List Act) (wire : Wire) (deadline : Time) :
    say said (wire.before deadline) = ((say said wire).1, (say said wire).2.before deadline) := by
  fun_induction say said wire with
  | case1 data rest wire what next hs =>
    rw [say, send_before, hs]
  | case2 data rest wire next hs ih =>
    rw [say, send_before, hs]
    exact ih
  | case3 act rest wire _ ih =>
    cases act with
    | sent data => rename_i hno; exact absurd rfl (hno data)
    | _ => exact ih
  | case4 => rfl

/-- Nothing that is said takes time. -/
theorem timed_say (said : List Act) (wire : Wire) :
    (say said wire).2.clock = wire.clock ∧ (say said wire).2.deadline = wire.deadline := by
  obtain ⟨history, hs, -⟩ := say_eq said wire
  rw [hs]
  exact ⟨rfl, rfl⟩

theorem clock_le_take (limits : Limits) (stage : Stage) (wire : Wire) :
    wire.clock ≤ (stage.take limits wire).2.clock := by
  cases stage <;> (rw [Stage.take, chosen_snd]; exact (onward_await _ _ wire).grows.clock_le)

theorem timed_enter (stage : Stage) (wire : Wire) :
    (stage.enter wire).clock = wire.clock ∧ (stage.enter wire).deadline = wire.deadline := by
  cases stage <;> exact ⟨rfl, rfl⟩

theorem enter_before (stage : Stage) (wire : Wire) (deadline : Time) :
    stage.enter (wire.before deadline) = (stage.enter wire).before deadline := by
  cases stage <;> rfl

theorem clock_le_read (limits : Limits) (stage : Stage) (wire : Wire) :
    wire.clock ≤ (stage.read limits wire).2.clock := by
  have hreading := reading limits stage wire
  generalize stage.read limits wire = result at hreading
  induction hreading with
  | @lost stage wire _ _ ht | @ends stage wire _ _ ht | @stops stage wire _ _ ht =>
    have htake := clock_le_take limits stage wire
    rwa [ht] at htake
  | @unsent stage later wire taken next said what ht hs =>
    have htake := clock_le_take limits stage wire
    rw [ht] at htake
    have hsay := (timed_say said taken).1
    rw [hs] at hsay
    exact Nat.le_trans htake (Nat.le_of_eq hsay.symm)
  | @goes stage later wire taken next said result ht hs _ ih =>
    have htake := clock_le_take limits stage wire
    rw [ht] at htake
    have hsay := (timed_say said taken).1
    rw [hs] at hsay
    rw [(timed_enter later next).1] at ih
    exact Nat.le_trans htake (Nat.le_trans (Nat.le_of_eq hsay.symm) ih)

/-- A move that is made before the deadline is made under every later one. -/
theorem take_before {move : Move} (ht : stage.take limits wire = (.ok move, next))
    (hc : wire.clock < deadline) (hd : wire.deadline = some deadline) (hl : deadline ≤ longer) :
    stage.take limits (wire.before longer) = (.ok move, next.before longer) ∧
      next.clock < deadline ∧ next.deadline = some deadline := by
  have htake := sooner_take limits stage hc hd hl
  rw [ht] at htake
  cases htake with
  | same _ hcn hdn he => exact ⟨he, hcn, hdn⟩
  | late hr => cases hr

theorem clock_le_andThen (taken : Except Loss Move × Wire) :
    taken.2.clock ≤ (andThen taken (Stage.follow limits)).2.clock := by
  obtain ⟨loss | said | request | why, taken⟩ := taken
  · exact Nat.le_refl _
  · rename_i later
    simp only [andThen, Stage.follow]
    have hsay := (timed_say said taken).1
    cases hs : say said taken with
    | mk result next =>
      rw [hs] at hsay
      cases result with
      | error what => exact Nat.le_of_eq hsay.symm
      | ok _ =>
        have hread := clock_le_read limits later (later.enter next)
        rw [(timed_enter later next).1] at hread
        exact Nat.le_trans (Nat.le_of_eq hsay.symm) hread
  · exact Nat.le_refl _
  · exact Nat.le_refl _

/-- A request that is read before the deadline is read under every later one, and else the deadline
passes, and nothing is known by then under a later one either. -/
theorem sooner_read (stage : Stage) (hc : wire.clock < deadline) (hd : wire.deadline = some deadline)
    (hl : deadline ≤ longer) :
    Sooner (.lost .expired) deadline longer (stage.read limits wire)
      (stage.read limits (wire.before longer)) := by
  -- The reading under the shorter deadline leads the way, of which only the last move can be late.
  have hreading := reading limits stage wire
  generalize stage.read limits wire = result at hreading
  induction hreading with
  | @lost stage wire next loss ht =>
    have htake := sooner_take limits stage hc hd hl
    rw [ht] at htake
    rw [Stage.read_eq]
    refine htake.then (fun _ => rfl) clock_le_andThen fun hr hcn hdn => ?_
    exact .same (fun he => hr (by cases he; rfl)) hcn hdn rfl
  | ends ht | stops ht =>
    obtain ⟨he, hcn, hdn⟩ := take_before ht hc hd hl
    rw [Stage.read_eq, he]
    exact .same nofun hcn hdn rfl
  | @unsent stage later wire taken next said what ht hs =>
    obtain ⟨he, hct, hdt⟩ := take_before ht hc hd hl
    have hsay := timed_say said taken
    rw [hs] at hsay
    refine .same nofun (hsay.1 ▸ hct) (hsay.2.trans hdt) ?_
    rw [Stage.read_eq, he]
    simp only [andThen, Stage.follow]
    rw [say_before, hs]
  | @goes stage later wire taken next said result ht hs _ ih =>
    obtain ⟨he, hct, hdt⟩ := take_before ht hc hd hl
    have hsay := timed_say said taken
    rw [hs] at hsay
    have henter := timed_enter later next
    have hgo := ih (by rw [henter.1, hsay.1]; exact hct) (by rw [henter.2, hsay.2]; exact hdt)
    rw [Stage.read_eq, he]
    simp only [andThen, Stage.follow]
    rw [say_before, hs]
    dsimp only
    rw [enter_before]
    exact hgo

end FixedReply.Wire
