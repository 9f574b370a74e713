import FixedReply.Proofs.Wire.Receptions

namespace FixedReply.Wire

variable {σ α : Type} {wire next : Wire} {limits : Limits} {stage : Stage} {limit : Time}
  {inbox : List Event}

/-- All events are due at once or before a limit, and one of them is the last that is received. -/
structure Punctual (limit : Time) (inbox : List Event) : Prop where
  due : ∀ event ∈ inbox, event.due = 0 ∨ event.due < limit
  ends : ∃ event ∈ inbox, event.what = .data [] ∨ ∃ what, event.what = .failure what

structure Prompt (inbox : List Event) : Prop where
  due : ∀ event ∈ inbox, event.due = 0
  ends : ∃ event ∈ inbox, event.what = .data [] ∨ ∃ what, event.what = .failure what

theorem Prompt.punctual (h : Prompt inbox) : Punctual limit inbox :=
  ⟨fun event he => .inl (h.due event he), h.ends⟩

structure InTime (limit : Time) (wire : Wire) : Prop where
  inbox : Punctual limit wire.inbox
  deadline : ∀ deadline ∈ wire.deadline, limit ≤ deadline

theorem Punctual.within (h : Punctual limit wire.inbox) {time : Time} (hl : limit ≤ time) :
    InTime limit (wire.within time) where
  inbox := h
  deadline := by
    rintro deadline ⟨⟩
    exact Nat.le_trans hl (Nat.le_add_left _ _)

theorem InTime.meetsDeadline (h : InTime limit wire) {event : Event} (he : event ∈ wire.inbox) :
    wire.meetsDeadline event.due = none := by
  unfold Wire.meetsDeadline
  split
  · rename_i hlt
    have hdue : event.due < limit :=
      (h.inbox.due event he).resolve_left (Nat.ne_of_gt (Nat.zero_lt_of_lt hlt))
    refine Option.filter_eq_none_iff.mpr fun deadline hd => ?_
    have hle := h.deadline deadline hd
    simpa using Nat.lt_of_lt_of_le hdue hle
  · rfl

/-- What brings some bytes is not the end. -/
theorem Punctual.tail {event : Event} {rest : List Event} (h : Punctual limit (event :: rest))
    {b : UInt8} {bytes : Bytes} (hw : event.what = .data (b :: bytes)) : Punctual limit rest where
  due other hm := h.due other (List.mem_cons_of_mem _ hm)
  ends := by
    obtain ⟨ending, hm, he⟩ := h.ends
    rcases List.mem_cons.mp hm with rfl | hm
    · simp [hw] at he
    · exact ⟨ending, hm, he⟩

theorem fill_inTime {result : Except Loss Bool} (h : InTime limit wire)
    (hf : wire.fill = (result, next)) :
    result ≠ .error .expired ∧ (result = .ok true → InTime limit next) := by
  have hreceive : ∃ event rest, wire.inbox = event :: rest ∧ wire.receive event rest = (result, next) := by
    cases hi : wire.inbox with
    | nil =>
      obtain ⟨ending, hm, -⟩ := h.inbox.ends
      exact absurd (hi ▸ hm) List.not_mem_nil
    | cons event rest =>
      refine ⟨event, rest, rfl, ?_⟩
      have hm : event ∈ wire.inbox := hi ▸ List.mem_cons_self
      have hnone := h.meetsDeadline hm
      exact (fill_receive hi hnone).symm.trans hf
  obtain ⟨event, rest, hi, hr⟩ := hreceive
  have hdeadline := deadline_receive wire event rest
  rw [hr] at hdeadline
  refine ⟨fun he => receive_ne_expired wire event rest (hr ▸ he), ?_⟩
  rintro rfl
  rcases receive_eq wire event rest with ⟨b, bytes, hw, he⟩ | ⟨hn, -⟩
  · have hinbox : next.inbox = rest := congrArg (inbox ∘ Prod.snd) (hr.symm.trans he)
    exact {
      inbox := hinbox ▸ (hi ▸ h.inbox).tail hw
      deadline := hdeadline ▸ h.deadline }
  · exact absurd (congrArg Prod.fst hr) hn

/-- Nothing that is awaited from a punctual peer expires, and what is left of it is punctual. -/
theorem await_inTime {scan : σ → Bytes → Scan σ α} {state : σ} {result : Except Loss α}
    (h : InTime limit wire) (ha : await scan state wire = (result, next)) :
    result ≠ .error .expired ∧ ∀ a, result = .ok a → InTime limit next := by
  fun_induction await scan state wire with
  | case1 =>
    cases ha
    exact ⟨by simp, fun _ _ => ⟨h.inbox, h.deadline⟩⟩
  | case2 state wire later kept hw received hf ih =>
    have hkept : InTime limit (wire.keep kept) := ⟨h.inbox, h.deadline⟩
    exact ih ((fill_inTime hkept hf).2 rfl) ha
  | case3 =>
    cases ha
    exact ⟨by simp, by simp⟩
  | case4 state wire later kept hw loss received hf =>
    have hkept : InTime limit (wire.keep kept) := ⟨h.inbox, h.deadline⟩
    have hne := (fill_inTime hkept hf).1
    cases ha
    exact ⟨by simpa using hne, by simp⟩

theorem take_inTime {result : Except Loss Move} (h : InTime limit wire)
    (ht : stage.take limits wire = (result, next)) :
    result ≠ .error .expired ∧ ∀ move, result = .ok move → InTime limit next := by
  constructor
  · rintro rfl
    cases stage <;> exact (await_inTime h (Stage.take_error ht)).1 rfl
  · rintro move rfl
    cases stage
    all_goals
      obtain ⟨a, htaken, -⟩ := Stage.take_ok ht
      exact (await_inTime h htaken).2 a rfl

/-- No reading from a punctual peer expires, and what is left of it is punctual. -/
theorem read_inTime {result : Except Stop Http.Request} (h : InTime limit wire)
    (hr : stage.read limits wire = (result, next)) :
    result ≠ .error (.lost .expired) ∧ ∀ request, result = .ok request → InTime limit next := by
  have hreading := reading limits stage wire
  generalize stage.read limits wire = taken at hr hreading
  induction hreading with
  | lost ht =>
    cases hr
    have hne := (take_inTime h ht).1
    exact ⟨by simpa using hne, nofun⟩
  | ends ht =>
    cases hr
    exact ⟨nofun, fun _ _ => (take_inTime h ht).2 _ rfl⟩
  | stops => cases hr; exact ⟨nofun, nofun⟩
  | unsent => cases hr; exact ⟨nofun, nofun⟩
  | @goes _ later _ taken sent said _ ht hs _ ih =>
    have htaken := (take_inTime h ht).2 _ rfl
    obtain ⟨history, hsent, -⟩ := say_eq said taken
    rw [hs] at hsent
    cases hsent
    refine ih ?_ hr
    cases later <;> exact ⟨htaken.inbox, htaken.deadline⟩

end FixedReply.Wire
