import FixedReply.Proofs.Wire.Follow
import FixedReply.Proofs.Wire.Outcome

namespace FixedReply

open Http (Request Framing)

def Limits.room (limits : Limits) : Int := max limits.head (max Wire.sizeLineLimit (limits.body + 2))

theorem Limits.sizeLineLimit_le_room (limits : Limits) : Wire.sizeLineLimit ≤ limits.room := by
  unfold room
  omega

theorem Limits.room_pos (limits : Limits) : 0 < limits.room := by
  have hline := limits.sizeLineLimit_le_room
  unfold Wire.sizeLineLimit at hline
  omega

namespace Wire

variable {σ α : Type} {limits : Limits} {wire next : Wire} {stage later : Stage} {move : Move}
  {bytes rest : Bytes} {said : List Act} {request : Request}

/-- The limits of what is held, now and at any time before, and of what is received at a time. -/
structure Bounded (limits : Limits) (wire : Wire) : Prop where
  inbox : ∀ event ∈ wire.inbox, event.size ≤ Event.receiveLimit
  buffer : wire.buffer.length ≤ wire.usage.buffered
  buffered : (wire.usage.buffered : Int) ≤ limits.room + Event.receiveLimit
  gathered : (wire.usage.gathered : Int) ≤ limits.body

/-- Only what is held, and what is still to come, matters. -/
theorem Bounded.congr (h : Bounded limits wire) (hi : next.inbox = wire.inbox)
    (hb : next.buffer = wire.buffer) (hu : next.usage = wire.usage) : Bounded limits next :=
  ⟨hi ▸ h.inbox, by rw [hb, hu]; exact h.buffer, hu ▸ h.buffered, hu ▸ h.gathered⟩

theorem Bounded.keep (h : Bounded limits wire) {kept : Bytes}
    (hk : kept.length ≤ wire.buffer.length) : Bounded limits (wire.keep kept) :=
  ⟨h.inbox, Nat.le_trans hk h.buffer, h.buffered, h.gathered⟩

theorem Bounded.gather (h : Bounded limits wire) {count : Nat} (hc : (count : Int) ≤ limits.body) :
    Bounded limits (wire.gather count) := by
  refine ⟨h.inbox, h.buffer, h.buffered, ?_⟩
  have hg := h.gathered
  simp only [Wire.gather]
  omega

theorem usage_waitFor (wire : Wire) (moment : Time) : (wire.waitFor moment).usage = wire.usage := by
  unfold waitFor
  split <;> rfl

theorem Bounded.waitFor (h : Bounded limits wire) (moment : Time) :
    Bounded limits (wire.waitFor moment) :=
  h.congr (inbox_waitFor _ _) (buffer_waitFor _ _) (usage_waitFor _ _)

theorem Bounded.accept (h : Bounded limits wire) {data : Bytes}
    (hr : (wire.buffer.length : Int) ≤ limits.room) (hd : data.length ≤ Event.receiveLimit) :
    Bounded limits (wire.accept data) := by
  refine ⟨h.inbox, ?_, ?_, h.gathered⟩
  · exact Nat.le_max_right _ _
  · have hb := h.buffered
    simp only [Wire.accept, List.length_append]
    omega

/-- What is received is held besides what was buffered. -/
theorem Bounded.fill (h : Bounded limits wire) (hr : (wire.buffer.length : Int) ≤ limits.room) :
    Bounded limits wire.fill.2 := by
  unfold Wire.fill
  split
  · split
    · exact h
    · exact (h.waitFor _).congr rfl rfl rfl
  · rename_i event rest hi
    split
    · exact (h.waitFor _).congr rfl rfl rfl
    · have hw := h.waitFor event.due
      have hrest : Bounded limits { wire.waitFor event.due with inbox := rest } :=
        ⟨fun e he => h.inbox e (hi ▸ List.mem_cons_of_mem _ he), hw.buffer, hw.buffered, hw.gathered⟩
      dsimp only
      split
      · exact hrest
      · rename_i b data hd
        have hsize : (b :: data).length ≤ Event.receiveLimit := by
          have hevent := h.inbox event (hi ▸ List.mem_cons_self)
          rwa [Event.size, hd] at hevent
        refine hrest.accept ?_ hsize
        rw [buffer_waitFor]
        exact hr
      · exact hrest
      · exact hrest

theorem Bounded.send (h : Bounded limits wire) (data : Bytes) : Bounded limits (wire.send data).2 := by
  rcases send_eq wire data with hs | ⟨_, _, hs⟩
  · rw [hs]
    exact h.congr rfl rfl rfl
  · rw [hs]
    exact h

theorem Bounded.say (h : Bounded limits wire) (said : List Act) : Bounded limits (say said wire).2 := by
  obtain ⟨history, hs, -⟩ := say_eq said wire
  rw [hs]
  exact h.congr rfl rfl rfl

def Scan.Spares (room : Int) (buffer : Bytes) : Scan σ α → Prop
  | found _ rest => rest.length ≤ buffer.length
  | wanting _ kept => kept.length ≤ buffer.length ∧ (kept.length : Int) ≤ room

theorem Bounded.await {scan : σ → Bytes → Scan σ α} (h : Bounded limits wire)
    (hs : ∀ state buffer, (scan state buffer).Spares limits.room buffer) (state : σ) :
    Bounded limits (await scan state wire).2 := by
  fun_induction Wire.await scan state wire with
  | case1 state wire a rest hf =>
    have hspares := hs state wire.buffer
    rw [hf] at hspares
    exact h.keep hspares
  | case2 state wire later kept hw next hf ih =>
    have hspares := hs state wire.buffer
    rw [hw] at hspares
    have hfill := (h.keep hspares.1).fill hspares.2
    rw [hf] at hfill
    exact ih hfill
  | case3 state wire later kept hw next hf | case4 state wire later kept hw loss next hf =>
    have hspares := hs state wire.buffer
    rw [hw] at hspares
    have hfill := (h.keep hspares.1).fill hspares.2
    rwa [hf] at hfill

theorem spares_scanUpTo {marker : Bytes} {limit room : Int} (hl : limit ≤ room) (offset : Nat)
    (buffer : Bytes) : (scanUpTo marker limit offset buffer).Spares room buffer := by
  unfold scanUpTo
  split
  · split
    · exact Nat.le_refl _
    · simp [Scan.Spares]
  · split
    · exact Nat.le_refl _
    · exact ⟨Nat.le_refl _, by omega⟩

theorem spares_scanExactly {n : Nat} {room : Int} (hn : (n : Int) ≤ room) (state : Unit)
    (buffer : Bytes) : (scanExactly n state buffer).Spares room buffer := by
  simp only [scanExactly, Bytes.splitAt?_eq]
  by_cases h : n ≤ buffer.length
  · simp [h, Scan.Spares]
  · simp only [h, ↓reduceIte, Scan.Spares, Nat.le_refl, true_and]
    omega

theorem spares_scanBlankLines {room : Int} (hr : 0 < room) (state : Unit) (buffer : Bytes) :
    (scanBlankLines state buffer).Spares room buffer := by
  have hle := length_dropBlankLines buffer
  simp only [scanBlankLines]
  split
  · rename_i hshort
    refine ⟨hle, ?_⟩
    simp only [Bool.or_eq_true, List.isEmpty_iff, beq_iff_eq] at hshort
    rcases hshort with h | h <;> simp [h] <;> omega
  · exact hle

/-- What is found is found in what has come by then. -/
theorem await_ok {scan : σ → Bytes → Scan σ α} {state : σ} {a : α}
    (h : Wire.await scan state wire = (.ok a, next)) :
    ∃ state buffer, scan state buffer = .found a next.buffer := by
  fun_induction Wire.await scan state wire with
  | case1 state wire a rest hf =>
    cases h
    exact ⟨state, wire.buffer, hf⟩
  | case2 state wire later kept hw received hf ih => exact ih h
  | case3 | case4 => cases h

theorem length_of_exactly {n : Nat} {block : Bytes} (h : exactly n wire = (.ok block, next)) :
    block.length = n := by
  obtain ⟨_, _, hf⟩ := await_ok h
  exact (scanExactly_found.mp hf).2

def Stage.Fits (limits : Limits) : Stage → Prop
  | start | head => True
  | block _ length => (length : Int) ≤ limits.body
  | sizes _ parts total => parts.flatten.length = total ∧ (total : Int) ≤ limits.body
  | chunk _ parts total size =>
    parts.flatten.length = total ∧ ((total + size : Nat) : Int) ≤ limits.body
  | trailers _ body => (body.length : Int) ≤ limits.body

@[simp] theorem Stage.fits_start (limits : Limits) : start.Fits limits := trivial

@[simp] theorem Stage.fits_head (limits : Limits) : head.Fits limits := trivial

def Move.Fits (limits : Limits) : Move → Prop
  | goes _ stage => stage.Fits limits
  | ends request => (request.body.length : Int) ≤ limits.body
  | stops _ => True

end Wire

namespace Http.Head

theorem body_of_readRequestLine {line : List Char} {request : Request}
    (h : readRequestLine line = .ok request) : request.body = [] := by
  unfold readRequestLine at h
  split at h
  · split at h
    · cases h
    · split at h
      · cases h
      · split at h
        · cases h
        · split at h
          · cases h
          · cases h
            rfl
  · cases h

theorem body_of_read {block : Bytes} {request : Request} (h : read block = .ok request) :
    request.body = [] := by
  unfold read at h
  split at h
  · cases h
  · cases h
  · split at h
    · cases h
    · rename_i hl
      split at h
      · cases h
      · split at h <;> cases h
        have hbody := body_of_readRequestLine hl
        exact hbody

end Http.Head

namespace Wire

variable {limits : Limits} {wire next : Wire} {stage : Stage} {move : Move} {bytes rest : Bytes}
  {request : Request} {parts : List Bytes} {total size : Nat}

namespace Stage

/-- A head that is understood announces no more of a body than is allowed. -/
theorem fits_afterHead (hb : 0 ≤ limits.body) (text : Option Bytes) :
    (afterHead limits text).Fits limits := by
  cases text with
  | none => trivial
  | some text =>
    simp only [afterHead, understand]
    cases hr : Http.Head.read text with
    | error why => trivial
    | ok request =>
      have hnone := Http.Head.body_of_read hr
      dsimp only
      rcases Framing.ofHeaders request.headers with why | _ | _ | n
      · trivial
      · exact ⟨rfl, hb⟩
      · simpa [begin, Move.Fits, hnone] using hb
      · dsimp only
        by_cases hn : 0 < n + 1 ∧ limits.body < (n + 1 : Nat)
        · rw [if_pos hn]
          trivial
        · rw [if_neg hn]
          simp only [begin, Move.Fits, Fits]
          omega

theorem fits_afterSize (h : (sizes request parts total).Fits limits) (line : Option Bytes) :
    (afterSize limits request parts total line).Fits limits := by
  obtain ⟨hlength, hb⟩ := h
  cases line with
  | none => trivial
  | some line =>
    simp only [afterSize]
    rcases chunkSize? line with _ | _ | size
    · trivial
    · have hbody : parts.reverse.flatten.length = total := by
        rw [← hlength]
        simp [List.length_flatten, List.sum_reverse]
      simp only [measure, Move.Fits, Fits]
      rw [hbody]
      exact hb
    · simp only [measure]
      split
      · trivial
      · refine ⟨hlength, ?_⟩
        omega

theorem fits_afterChunk (h : (chunk request parts total size).Fits limits) {block : Bytes}
    (hl : block.length = size + 2) : (afterChunk request parts total size block).Fits limits := by
  obtain ⟨hlength, hb⟩ := h
  unfold afterChunk
  split
  · trivial
  · refine ⟨?_, hb⟩
    rw [List.flatten_cons, List.length_append, hlength, List.length_take]
    omega

theorem fits_afterTrailer {body : Bytes} (h : (trailers request body).Fits limits)
    (line : Option Bytes) : (afterTrailer request body line).Fits limits := by
  cases line with
  | none => trivial
  | some line =>
    simp only [afterTrailer]
    split <;> exact h

theorem fits_afterBlock {length : Nat} (h : (block request length).Fits limits) {body : Bytes}
    (hl : body.length = length) : (Move.ends { request with body }).Fits limits := by
  subst hl
  exact h

/-- A stage that fits makes moves that fit, whatever it takes. -/
theorem fits_of_step (hb : 0 ≤ limits.body) (h : stage.Fits limits)
    (hs : stage.step limits bytes = some (move, rest)) : move.Fits limits := by
  cases stage <;> obtain ⟨a, hf, rfl⟩ := Scan.move?_eq_some.mp hs
  · trivial
  · exact fits_afterHead hb a
  · exact fits_afterBlock h (scanExactly_found.mp hf).2
  · exact fits_afterSize h a
  · exact fits_afterChunk h (scanExactly_found.mp hf).2
  · exact fits_afterTrailer h a

theorem fits_of_take (hb : 0 ≤ limits.body) (h : stage.Fits limits)
    (ht : stage.take limits wire = (.ok move, next)) : move.Fits limits := by
  cases stage <;> obtain ⟨a, hf, rfl⟩ := take_ok ht
  · trivial
  · exact fits_afterHead hb a
  · exact fits_afterBlock h (length_of_exactly hf)
  · exact fits_afterSize h a
  · exact fits_afterChunk h (length_of_exactly hf)
  · exact fits_afterTrailer h a

end Stage

/-- A request that is read from a stage that fits has a body that is allowed. -/
theorem fits_of_outcome (hb : 0 ≤ limits.body) (h : stage.Fits limits)
    (ho : (outcome limits stage bytes).2 = .read request rest) :
    (request.body.length : Int) ≤ limits.body := by
  induction hw : stage.weight bytes using Nat.strongRecOn generalizing stage bytes with
  | ind weight ih =>
    rcases outcome_read ho with hs | ⟨said, later, left, hs, ho⟩
    · exact Stage.fits_of_step hb h hs
    · exact ih _ (hw ▸ Stage.weight_of_step hs) (Stage.fits_of_step hb h hs) ho rfl

theorem Bounded.take (h : Bounded limits wire) (hf : stage.Fits limits) :
    Bounded limits (stage.take limits wire).2 := by
  cases stage with
  | start =>
    rw [Stage.take, chosen_snd]
    exact h.await (spares_scanBlankLines limits.room_pos) ()
  | head =>
    rw [Stage.take, chosen_snd]
    exact h.await (spares_scanUpTo (by unfold Limits.room; omega)) 0
  | block request length =>
    rw [Stage.take, chosen_snd]
    have hroom : (length : Int) ≤ limits.room := by
      unfold Stage.Fits at hf
      unfold Limits.room
      omega
    exact h.await (spares_scanExactly hroom) ()
  | sizes request parts total =>
    rw [Stage.take, chosen_snd]
    exact h.await (spares_scanUpTo limits.sizeLineLimit_le_room) 0
  | chunk request parts total size =>
    rw [Stage.take, chosen_snd]
    have hroom : ((size + 2 : Nat) : Int) ≤ limits.room := by
      have hsize := hf.2
      unfold Limits.room
      omega
    exact h.await (spares_scanExactly hroom) ()
  | trailers request body =>
    rw [Stage.take, chosen_snd]
    exact h.await (spares_scanUpTo (by unfold Limits.room; omega)) 0

theorem Bounded.enter (h : Bounded limits wire) (hf : stage.Fits limits) :
    Bounded limits (stage.enter wire) := by
  cases stage with
  | sizes request parts total => exact h.gather hf.2
  | _ => exact h

/-- The reading of a request keeps to the limits from any stage on. -/
theorem Bounded.read (hb : 0 ≤ limits.body) (hf : stage.Fits limits) (h : Bounded limits wire) :
    Bounded limits (stage.read limits wire).2 := by
  have hreading := reading limits stage wire
  generalize stage.read limits wire = result at hreading
  induction hreading with
  | lost ht | ends ht | stops ht =>
    have htake := h.take hf
    rwa [ht] at htake
  | @unsent _ _ _ _ _ said _ ht hs =>
    have htake := h.take hf
    rw [ht] at htake
    have hsay := htake.say said
    rwa [hs] at hsay
  | @goes _ _ _ _ _ said _ ht hs _ ih =>
    have htake := h.take hf
    rw [ht] at htake
    have hsay := htake.say said
    rw [hs] at hsay
    have hmove := Stage.fits_of_take hb hf ht
    exact ih hmove (hsay.enter hmove)

end Wire

end FixedReply
