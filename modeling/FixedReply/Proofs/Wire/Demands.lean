import FixedReply.Proofs.Wire.Bounds
import FixedReply.Proofs.Wire.Receptions
import FixedReply.Proofs.Wire.Written
import Mathlib.Data.List.Forall2

namespace FixedReply

def Event.bytes (event : Event) : Bytes :=
  match event.what with
  | .data bytes => bytes
  | .failure _ => []

theorem Event.bytes_of_ends {event : Event} {loss : Loss} (h : event.what.Ends loss) :
    event.bytes = [] := by
  obtain ⟨due, what⟩ := event
  cases h <;> rfl

namespace Wire

variable {σ α : Type} {wire next later : Wire} {events more : List Event} {drawn after : Bytes}

structure Draws (events : List Event) (drawn : Bytes) (wire next : Wire) : Prop where
  inbox : wire.inbox = events ++ next.inbox
  buffer : wire.buffer ++ events.flatMap Event.bytes = drawn ++ next.buffer

theorem Draws.nothing (hi : next.inbox = wire.inbox) (hb : wire.buffer = drawn ++ next.buffer) :
    Draws [] drawn wire next :=
  ⟨hi.symm, by rw [List.flatMap_nil, List.append_nil, hb]⟩

theorem Draws.trans (h : Draws events drawn wire next) (h' : Draws more after next later) :
    Draws (events ++ more) (drawn ++ after) wire later where
  inbox := by rw [h.inbox, h'.inbox, List.append_assoc]
  buffer := by
    rw [List.flatMap_append, ← List.append_assoc, h.buffer, List.append_assoc, h'.buffer,
      List.append_assoc]

/-- What is received is buffered, and nothing is taken. -/
theorem draws_fill {result : Except Loss Bool} (h : wire.fill = (result, next)) :
    ∃ events, Draws events [] wire next := by
  have hgiveUp : ∀ deadline, Draws [] [] wire (wire.giveUp deadline) :=
    fun deadline => .nothing (inbox_waitFor wire deadline) (buffer_waitFor wire deadline).symm
  unfold fill at h
  split at h
  · split at h <;> cases h
    · exact ⟨[], .nothing rfl rfl⟩
    · exact ⟨[], hgiveUp _⟩
  · rename_i event rest hi
    split at h
    · cases h
      exact ⟨[], hgiveUp _⟩
    · have hr : wire.receive event rest = (result, next) := h
      refine ⟨[event], ?_⟩
      rcases receive_eq wire event rest with ⟨b, bytes, hw, he⟩ | ⟨-, hends, he⟩
      · obtain rfl : _ = next := congrArg Prod.snd (he.symm.trans hr)
        exact ⟨hi, by simp [Event.bytes, hw, accept]⟩
      · rw [hr] at he
        obtain rfl : next = _ := he
        exact ⟨hi, by simp [Event.bytes_of_ends hends]⟩

/-- A scan takes bytes from the front only, and in keeping with what it finds, or wants more for: these may
be taken one after the other. -/
structure Parting (Takes : Option α → Bytes → Prop) (scan : σ → Bytes → Scan σ α) : Prop where
  none : Takes none []
  append : ∀ {a drawn after}, Takes .none drawn → Takes a after → Takes a (drawn ++ after)
  found : ∀ {state buffer a rest}, scan state buffer = .found a rest →
    ∃ drawn, buffer = drawn ++ rest ∧ Takes (some a) drawn
  wanting : ∀ {state buffer later kept}, scan state buffer = .wanting later kept →
    ∃ drawn, buffer = drawn ++ kept ∧ Takes .none drawn

/-- What a reader takes from the wire is what its looks take one after the other. -/
theorem draws_await {Takes : Option α → Bytes → Prop} {scan : σ → Bytes → Scan σ α}
    (hp : Parting Takes scan) (state : σ) (wire : Wire) :
    ∃ events drawn, Draws events drawn wire (await scan state wire).2 ∧
      Takes (await scan state wire).1.toOption drawn := by
  -- A look that wants more, with the reception after it.
  have hlook : ∀ {state later : σ} {wire received : Wire} {kept : Bytes} {result : Except Loss Bool},
      scan state wire.buffer = .wanting later kept → (wire.keep kept).fill = (result, received) →
        ∃ events drawn, Draws events drawn wire received ∧ Takes none drawn := by
    intro state later wire received kept result hw hf
    obtain ⟨drawn, hb, ht⟩ := hp.wanting hw
    obtain ⟨events, hfill⟩ := draws_fill hf
    have hkeep : Draws [] drawn wire (wire.keep kept) := .nothing rfl hb
    have hboth := hkeep.trans hfill
    rw [List.append_nil] at hboth
    exact ⟨_, _, hboth, ht⟩
  fun_induction await scan state wire with
  | case1 state wire a rest hf =>
    obtain ⟨drawn, hb, ht⟩ := hp.found hf
    exact ⟨[], drawn, .nothing rfl hb, ht⟩
  | case2 state wire later kept hw received hf ih =>
    obtain ⟨events, drawn, hdraws, ht⟩ := hlook hw hf
    obtain ⟨more, after, hmore, hta⟩ := ih
    exact ⟨_, _, hdraws.trans hmore, hp.append ht hta⟩
  | case3 state wire later kept hw received hf => exact hlook hw hf
  | case4 state wire later kept hw loss received hf => exact hlook hw hf

inductive Demand
  | fill
  | upTo (marker : Bytes) (limit : Int)
  | exactly (n : Int)
  | skipBlankLines

namespace Demand

abbrev Yield : Demand → Type
  | fill => Bool
  | upTo _ _ => Option Bytes
  | exactly _ => Bytes
  | skipBlankLines => Unit

/-- The bytes that a demand takes when it yields this, if it yields anything: a line with its marker, a block of
the size that is asked for, line ends, or nothing. A line that is not found, or is lost, leaves all as it is, and so
does a block that is lost; line ends are gone also where nothing comes after them. -/
inductive Takes : (demand : Demand) → Option demand.Yield → Bytes → Prop
  | fill (more : Option Bool) : Takes .fill more []
  | line (marker : Bytes) (limit : Int) (line : Bytes) :
      Takes (.upTo marker limit) (some (some line)) (line ++ marker)
  | noLine (marker : Bytes) (limit : Int) : Takes (.upTo marker limit) (some none) []
  | lineLost (marker : Bytes) (limit : Int) : Takes (.upTo marker limit) none []
  | block {n : Int} {block : Bytes} (size : 0 ≤ n → block.length = n) :
      Takes (.exactly n) (some block) block
  | blockLost (n : Int) : Takes (.exactly n) none []
  | lineEnds (skipped : Option Unit) (count : Nat) : Takes .skipBlankLines skipped (gap count)

end Demand

def serve (wire : Wire) : (demand : Demand) → Except Loss demand.Yield × Wire
  | .fill => wire.fill
  | .upTo marker limit => wire.upTo marker limit
  | .exactly n => wire.exactly n
  | .skipBlankLines => wire.skipBlankLines

theorem parting_scanUpTo (marker : Bytes) (limit : Int) :
    Parting (Demand.Takes (.upTo marker limit)) (scanUpTo marker limit) where
  none := .lineLost marker limit
  append := by
    intro a drawn after h h'
    cases h
    exact h'
  found := by
    intro offset buffer line rest h
    unfold scanUpTo at h
    split at h
    · rename_i i hi
      split at h <;> cases h
      · exact ⟨[], rfl, .noLine marker limit⟩
      · exact ⟨_, Bytes.eq_of_occurs (Bytes.occurs_of_find? hi), .line marker limit _⟩
    · split at h <;> cases h
      exact ⟨[], rfl, .noLine marker limit⟩
  wanting := by
    intro offset buffer later kept h
    obtain ⟨-, -, rfl⟩ := scanUpTo_wanting h
    exact ⟨[], rfl, .lineLost marker limit⟩

theorem parting_scanExactly (n : Int) : Parting (Demand.Takes (.exactly n)) (scanExactly n) where
  none := .blockLost n
  append := by
    intro a drawn after h h'
    cases h
    exact h'
  found := by
    intro state buffer block rest h
    cases n with
    | ofNat n =>
      obtain ⟨hb, hn⟩ := scanExactly_found.mp h
      exact ⟨block, hb, .block fun _ => congrArg Int.ofNat hn⟩
    | negSucc n =>
      cases h
      exact ⟨_, (List.take_append_drop _ _).symm, .block fun hn => absurd hn (by omega)⟩
  wanting := by
    intro state buffer later kept h
    cases n with
    | ofNat n =>
      simp only [scanExactly] at h
      split at h <;> cases h
      exact ⟨[], rfl, .blockLost _⟩
    | negSucc n => cases h

theorem gap_append (m n : Nat) : gap m ++ gap n = gap (m + n) := by
  rw [gap, gap, gap, ← List.flatten_append, List.replicate_append_replicate]

theorem parting_scanBlankLines : Parting (Demand.Takes .skipBlankLines) scanBlankLines where
  none := .lineEnds _ 0
  append := by
    intro a drawn after h h'
    cases h
    cases h'
    rw [gap_append]
    exact .lineEnds a _
  found := by
    intro state buffer a rest h
    obtain ⟨n, hn⟩ := dropBlankLines_eq_gap buffer
    obtain ⟨rfl, -⟩ := scanBlankLines_found.mp h
    exact ⟨gap n, hn, .lineEnds _ n⟩
  wanting := by
    intro state buffer later kept h
    obtain ⟨n, hn⟩ := dropBlankLines_eq_gap buffer
    simp only [scanBlankLines] at h
    split at h <;> cases h
    exact ⟨gap n, hn, .lineEnds _ n⟩

/-- A demand takes what it yields from the front, and leaves the rest. -/
theorem draws_serve (wire : Wire) (demand : Demand) :
    ∃ events drawn, Draws events drawn wire (wire.serve demand).2 ∧
      demand.Takes (wire.serve demand).1.toOption drawn := by
  cases demand with
  | fill =>
    have hf : wire.fill = (wire.fill.1, wire.fill.2) := rfl
    obtain ⟨events, h⟩ := draws_fill hf
    exact ⟨events, [], h, .fill _⟩
  | upTo marker limit => exact draws_await (parting_scanUpTo marker limit) 0 wire
  | exactly n => exact draws_await (parting_scanExactly n) () wire
  | skipBlankLines => exact draws_await parting_scanBlankLines () wire

structure Cleared (buffer : Bytes) : Prop where
  something : buffer ≠ []
  no_half : buffer ≠ [Bytes.cr]
  no_lineEnd : ¬ Bytes.crlf <+: buffer

theorem not_crlf_dropBlankLines (bytes : Bytes) : ¬ Bytes.crlf <+: dropBlankLines bytes := by
  fun_induction dropBlankLines bytes with
  | case1 rest ih => exact ih
  | case2 bytes hb =>
    intro h
    obtain ⟨rest, rfl⟩ := h
    exact hb rest rfl

theorem cleared_of_skipBlankLines {skipped : Unit} (h : wire.skipBlankLines = (.ok skipped, next)) :
    Cleared next.buffer := by
  obtain ⟨_, buffer, hf⟩ := await_ok h
  obtain ⟨hd, hne, hcr⟩ := scanBlankLines_found.mp hf
  exact ⟨hne, hcr, hd ▸ not_crlf_dropBlankLines buffer⟩

structure Serving where
  demand : Demand
  before : Wire
  result : Except Loss demand.Yield
  after : Wire

def serveAll (wire : Wire) : List Demand → List Serving × Wire
  | [] => ([], wire)
  | demand :: rest =>
    let (result, next) := wire.serve demand
    let (servings, last) := next.serveAll rest
    (⟨demand, wire, result, next⟩ :: servings, last)

/-- What a demand has taken is in keeping with what it yielded, and it has left all the other bytes. -/
structure Serving.Took (serving : Serving) (drawn : Bytes) : Prop where
  draws : ∃ events, Draws events drawn serving.before serving.after
  takes : serving.demand.Takes serving.result.toOption drawn
  cleared : serving.demand = .skipBlankLines → serving.result.toOption.isSome →
    Cleared serving.after.buffer

theorem took_serve (wire : Wire) (demand : Demand) :
    ∃ events drawn, Draws events drawn wire (wire.serve demand).2 ∧
      Serving.Took ⟨demand, wire, (wire.serve demand).1, (wire.serve demand).2⟩ drawn := by
  obtain ⟨events, drawn, hd, ht⟩ := draws_serve wire demand
  refine ⟨events, drawn, hd, ⟨events, hd⟩, ht, ?_⟩
  intro he hs
  dsimp only at he hs ⊢
  subst he
  cases hr : wire.skipBlankLines with
  | mk result next =>
    have hserve : wire.serve .skipBlankLines = (result, next) := hr
    rw [hserve] at hs ⊢
    cases result with
    | error loss => cases hs
    | ok skipped => exact cleared_of_skipBlankLines hr

/-- No byte is lost, and none is read twice: what the demands have taken, one after the other, and what is
buffered then is what was buffered at first and what has been received since. -/
theorem serveAll_conserves (wire : Wire) (demands : List Demand) :
    ∃ events taken, List.Forall₂ Serving.Took (wire.serveAll demands).1 taken ∧
      Draws events taken.flatten wire (wire.serveAll demands).2 := by
  induction demands generalizing wire with
  | nil => exact ⟨[], [], .nil, .nothing rfl rfl⟩
  | cons demand rest ih =>
    obtain ⟨events, drawn, hd, ht⟩ := took_serve wire demand
    obtain ⟨more, taken, htaken, hrest⟩ := ih (wire.serve demand).2
    exact ⟨events ++ more, drawn :: taken, .cons ht htaken, hd.trans hrest⟩

end Wire

end FixedReply
