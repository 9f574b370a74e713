import FixedReply.Proofs.Bytes.Search
import FixedReply.Wire.Reader

namespace FixedReply.Wire

variable {σ α : Type}

def upcoming : List Event → Bytes
  | [] => []
  | event :: rest =>
    match event.what with
    | .data [] => []
    | .data (b :: bytes) => b :: bytes ++ upcoming rest
    | .failure _ => []

def ahead (wire : Wire) : Bytes := wire.buffer ++ upcoming wire.inbox

/-- Pieces that are not empty are brought one after the other. -/
theorem upcoming_append (pieces : List (Time × Bytes)) (h : ∀ piece ∈ pieces, piece.2 ≠ [])
    (later : List Event) :
    upcoming (pieces.map (fun piece => { due := piece.1, what := .data piece.2 }) ++ later) =
      (pieces.map Prod.snd).flatten ++ upcoming later := by
  induction pieces with
  | nil => rfl
  | cons piece rest ih =>
    obtain ⟨hne, hrest⟩ := List.forall_mem_cons.mp h
    obtain ⟨due, data⟩ := piece
    obtain ⟨b, data, rfl⟩ := List.exists_cons_of_ne_nil hne
    simp only [List.map_cons, List.cons_append, upcoming, ih hrest, List.flatten_cons,
      List.append_assoc]

variable {wire next : Wire}

theorem fill_more (h : wire.fill = (.ok true, next)) :
    ∃ piece, piece ≠ [] ∧ next.buffer = wire.buffer ++ piece ∧
      upcoming wire.inbox = piece ++ upcoming next.inbox := by
  unfold fill at h
  split at h
  · split at h <;> simp at h
  · rename_i event rest hi
    split at h
    · simp at h
    · dsimp only at h
      split at h <;> cases h
      rename_i b bytes hw
      exact ⟨b :: bytes, by simp, by simp [accept], by simp [hi, upcoming, hw, accept, note]⟩

theorem fill_end (h : wire.fill = (.ok false, next)) : upcoming wire.inbox = [] := by
  unfold fill at h
  split at h
  · rename_i hi
    rw [hi, upcoming]
  · rename_i event rest hi
    split at h
    · simp at h
    · dsimp only at h
      split at h <;> simp at h
      all_goals
        rename_i hw
        simp [hi, upcoming, hw]

theorem fill_loss {loss : Loss} (h : wire.fill = (.error loss, next)) :
    loss = .expired ∨ upcoming wire.inbox = [] := by
  unfold fill at h
  split at h
  · rename_i hi
    exact .inr (by rw [hi, upcoming])
  · rename_i event rest hi
    split at h
    · cases h
      exact .inl rfl
    · dsimp only at h
      split at h <;> cases h
      rename_i hw
      exact .inr (by simp [hi, upcoming, hw])

/-- What a scan of all that lies ahead comes to is what the reader comes to: it finds the same and
leaves the same, or the stream ends too soon. -/
inductive Awaited : Scan σ α → Except Loss α × Wire → Prop
  | found {a : α} {rest : Bytes} {next : Wire} (h : next.ahead = rest) :
      Awaited (.found a rest) (.ok a, next)
  | lost {state : σ} {kept : Bytes} {loss : Loss} {next : Wire} (h : loss ≠ .expired) :
      Awaited (.wanting state kept) (.error loss, next)

/-- A scan that finds in the front part of some bytes what it finds in the whole, save for what is
`Astray`, and that loses nothing by going on when more has come. -/
structure Steady (scan : σ → Bytes → Scan σ α) (Apt : σ → Bytes → Bytes → Prop)
    (Astray : α → Prop) : Prop where
  found : ∀ {state buffer more a rest}, Apt state buffer more →
    scan state buffer = .found a rest →
      scan state (buffer ++ more) = .found a (rest ++ more) ∨ Astray a
  wanting : ∀ {state buffer piece more next kept}, Apt state buffer (piece ++ more) →
    scan state buffer = .wanting next kept →
      scan next (kept ++ piece ++ more) = scan state (buffer ++ (piece ++ more)) ∧
        Apt next (kept ++ piece) more

theorem await_ahead {scan : σ → Bytes → Scan σ α} {Apt : σ → Bytes → Bytes → Prop}
    {Astray : α → Prop} (hs : Steady scan Apt Astray) (state : σ) (wire : Wire)
    (ha : Apt state wire.buffer (upcoming wire.inbox)) :
    (await scan state wire).1 = .error .expired ∨
      Awaited (scan state wire.ahead) (await scan state wire) ∨
        ∃ a, (await scan state wire).1 = .ok a ∧ Astray a := by
  fun_induction await scan state wire with
  | case1 state wire a rest hf =>
    rcases hs.found ha hf with h | h
    · right; left
      rw [ahead, h]
      exact .found rfl
    · exact .inr (.inr ⟨a, rfl, h⟩)
  | case2 state wire later kept hw wire' hfill ih =>
    obtain ⟨piece, -, hb, hu⟩ := fill_more hfill
    have hu' : upcoming wire.inbox = piece ++ upcoming wire'.inbox := hu
    have hb' : wire'.buffer = kept ++ piece := hb
    rw [hu'] at ha
    obtain ⟨he, ha'⟩ := hs.wanting ha hw
    have hgo := ih (hb' ▸ ha')
    rwa [ahead, hb', he, ← hu'] at hgo
  | case3 state wire later kept hw wire' hfill =>
    have hu : upcoming (wire.keep kept).inbox = [] := fill_end hfill
    have hu' : upcoming wire.inbox = [] := hu
    right; left
    rw [ahead, hu', List.append_nil, hw]
    exact .lost (by simp)
  | case4 state wire later kept hw loss wire' hfill =>
    rcases fill_loss hfill with rfl | hu
    · exact .inl rfl
    · have hu' : upcoming wire.inbox = [] := hu
      by_cases hl : loss = .expired
      · exact .inl (hl ▸ rfl)
      · right; left
        rw [ahead, hu', List.append_nil, hw]
        exact .lost hl

/-- What comes before the marker fits within the limit, but the marker ends past it: whether that is
a line depends on how the bytes arrive. -/
def Straddles (marker : Bytes) (limit : Int) (bytes : Bytes) : Prop :=
  ∃ i : Nat, Bytes.IsFirst marker bytes 0 i ∧ i ≤ limit ∧ limit + 1 < i + marker.length

section

variable {marker buffer more rest : Bytes} {limit : Int} {offset i : Nat} {line : Option Bytes}

/-- Where the marker is found, more bytes change nothing. -/
theorem scanUpTo_append (hm : marker ≠ []) (hi : buffer.find? marker offset = some i)
    (hf : scanUpTo marker limit offset buffer = .found line rest) :
    scanUpTo marker limit offset (buffer ++ more) = .found line (rest ++ more) := by
  have hle := Bytes.le_of_find? hi
  have hw : (buffer ++ more).find? marker offset = some i := Bytes.find?_append hm hi
  unfold scanUpTo at hf ⊢
  rw [hi] at hf
  rw [hw]
  dsimp only at hf ⊢
  split at hf
  · rename_i hlt
    cases hf
    rw [if_pos hlt]
  · rename_i hlt
    cases hf
    rw [if_neg hlt, List.take_append_of_le_length (by omega), List.drop_append_of_le_length hle]

/-- A marker that is not found in more bytes than the limit allows, but within the limit when the rest
of it has come, straddles the limit. -/
theorem straddles_of_outgrown (hm : marker ≠ [])
    (hn : ∀ j < offset, ¬ marker <+: (buffer ++ more).drop j)
    (hnone : buffer.find? marker offset = none) (hlt : limit < buffer.length)
    (hw : (buffer ++ more).find? marker offset = some i) (hi : i ≤ limit) :
    Straddles marker limit (buffer ++ more) := by
  have hfirst := Bytes.find?_some hm hw
  have hlong : buffer.length < i + marker.length := by
    apply Nat.lt_of_not_le
    intro hle
    have := hfirst.of_append hle
    exact Bytes.find?_none hm hnone this.from_offset this.occurs
  refine ⟨i, ⟨Nat.zero_le i, hfirst.occurs, fun j _ hj => ?_⟩, hi, by omega⟩
  by_cases hjo : j < offset
  · exact hn j hjo
  · exact hfirst.none_before j (by omega) hj

theorem scanUpTo_wanting {next : Nat} {kept : Bytes}
    (h : scanUpTo marker limit offset buffer = .wanting next kept) :
    buffer.find? marker offset = none ∧ next = buffer.length + 1 - marker.length ∧ kept = buffer := by
  unfold scanUpTo at h
  split at h
  · split at h <;> cases h
  · rename_i hnone
    split at h <;> cases h
    exact ⟨hnone, rfl, rfl⟩

def Sought (marker bytes : Bytes) (offset : Nat) (buffer more : Bytes) : Prop :=
  buffer ++ more = bytes ∧ offset ≤ buffer.length + 1 - marker.length ∧
    ∀ j < offset, ¬ marker <+: bytes.drop j

end

theorem steady_scanUpTo {marker : Bytes} (hm : marker ≠ []) (limit : Int) (bytes : Bytes) :
    Steady (scanUpTo marker limit) (Sought marker bytes)
      (fun line => line = none ∧ Straddles marker limit bytes) where
  found := by
    intro offset buffer more line rest hs hf
    obtain ⟨rfl, -, hn⟩ := hs
    cases hnone : buffer.find? marker offset with
    | some i => exact .inl (scanUpTo_append hm hnone hf)
    | none =>
      unfold scanUpTo at hf ⊢
      rw [hnone] at hf
      dsimp only at hf
      split at hf <;> cases hf
      rename_i hlt
      cases hw : (buffer ++ more).find? marker offset with
      | none =>
        left
        dsimp only
        rw [if_pos (by simp only [List.length_append]; omega)]
      | some i =>
        by_cases hi : limit < i
        · left
          dsimp only
          rw [if_pos hi]
        · exact .inr ⟨rfl, straddles_of_outgrown hm hn hnone hlt hw (by omega)⟩
  wanting := by
    intro offset buffer piece more next kept hs hw
    obtain ⟨rfl, ho, hn⟩ := hs
    obtain ⟨hnone, rfl, rfl⟩ := scanUpTo_wanting hw
    have hres : (kept ++ (piece ++ more)).find? marker (kept.length + 1 - marker.length) =
        (kept ++ (piece ++ more)).find? marker offset := Bytes.find?_resume hm hnone ho
    refine ⟨?_, by rw [List.append_assoc], ?_, ?_⟩
    · unfold scanUpTo
      rw [List.append_assoc, hres]
    · simp only [List.length_append]
      omega
    · intro j hj
      by_cases hjo : j < offset
      · exact hn j hjo
      · intro hp
        have hpos := List.length_pos_iff.mpr hm
        exact Bytes.find?_none hm hnone (Nat.le_of_not_lt hjo)
          (Bytes.prefix_drop_of_append hp (by omega))

/-- A line is read as all that lies ahead has it, or it straddles its limit and is refused. -/
theorem upTo_ahead {marker : Bytes} (hm : marker ≠ []) (limit : Int) (wire : Wire) :
    (upTo marker limit wire).1 = .error .expired ∨
      Awaited (scanUpTo marker limit 0 wire.ahead) (upTo marker limit wire) ∨
        (Straddles marker limit wire.ahead ∧ (upTo marker limit wire).1 = .ok none) := by
  rcases await_ahead (steady_scanUpTo hm limit wire.ahead) 0 wire
    ⟨rfl, Nat.zero_le _, fun j hj => absurd hj (Nat.not_lt_zero j)⟩ with h | h | ⟨a, h, rfl, hs⟩
  · exact .inl h
  · exact .inr (.inl h)
  · exact .inr (.inr ⟨hs, h⟩)

theorem steady_scanExactly (n : Nat) :
    Steady (scanExactly n) (fun _ _ _ => True) (fun _ => False) where
  found := by
    intro state buffer more a rest _ hf
    left
    simp only [scanExactly, Bytes.splitAt?_eq] at hf ⊢
    split at hf
    · rename_i hs
      split at hs <;> cases hs
      cases hf
      rename_i hle
      rw [if_pos (by simp only [List.length_append]; omega),
        List.take_append_of_le_length hle, List.drop_append_of_le_length hle]
    · simp at hf
  wanting := by
    intro state buffer piece more next kept _ hw
    simp only [scanExactly] at hw
    split at hw <;> cases hw
    exact ⟨by rw [List.append_assoc], trivial⟩

theorem exactly_ahead (n : Nat) (wire : Wire) :
    (exactly n wire).1 = .error .expired ∨
      Awaited (scanExactly n () wire.ahead) (exactly n wire) := by
  rcases await_ahead (steady_scanExactly n) () wire trivial with
    h | h | ⟨_, _, h⟩
  · exact .inl h
  · exact .inr h
  · exact h.elim

def gap (n : Nat) : Bytes := (List.replicate n Bytes.crlf).flatten

theorem dropBlankLines_gap (n : Nat) (bytes : Bytes) :
    dropBlankLines (gap n ++ bytes) = dropBlankLines bytes := by
  induction n with
  | zero => rfl
  | succ n ih =>
    rw [gap, List.replicate_succ, List.flatten_cons, List.append_assoc]
    exact ih

theorem dropBlankLines_eq_gap (bytes : Bytes) : ∃ n, bytes = gap n ++ dropBlankLines bytes := by
  fun_induction dropBlankLines bytes with
  | case1 rest ih =>
    obtain ⟨n, hn⟩ := ih
    refine ⟨n + 1, ?_⟩
    rw [gap, List.replicate_succ, List.flatten_cons, List.append_assoc, ← gap, ← hn]
    rfl
  | case2 bytes => exact ⟨0, rfl⟩

theorem dropBlankLines_append (bytes more : Bytes) :
    dropBlankLines (dropBlankLines bytes ++ more) = dropBlankLines (bytes ++ more) := by
  fun_induction dropBlankLines bytes with
  | case1 rest ih => simpa [dropBlankLines] using ih
  | case2 => rfl

/-- Once something else than a lone carriage return is in front, no line end is dropped any more. -/
theorem dropBlankLines_front {bytes : Bytes} (hne : dropBlankLines bytes ≠ [])
    (hcr : dropBlankLines bytes ≠ [Bytes.cr]) (more : Bytes) :
    dropBlankLines (bytes ++ more) = dropBlankLines bytes ++ more := by
  fun_induction dropBlankLines bytes with
  | case1 rest ih => simpa [dropBlankLines] using ih hne hcr
  | case2 bytes hb =>
    match bytes, hne, hcr, hb with
    | [b], _, hcr, _ =>
      have hb : b ≠ 13 := by simpa [Bytes.cr] using hcr
      unfold dropBlankLines
      split
      · rename_i h
        simp_all
      · rfl
    | a :: b :: rest, _, _, hb =>
      unfold dropBlankLines
      split
      · rename_i h
        simp only [List.cons_append, List.cons.injEq] at h
        exact (hb rest (by rw [h.1, h.2.1])).elim
      · rfl

theorem steady_scanBlankLines : Steady scanBlankLines (fun _ _ _ => True) (fun _ => False) where
  found := by
    intro state buffer more a rest _ hf
    left
    simp only [scanBlankLines] at hf ⊢
    split at hf
    · simp at hf
    · rename_i hr
      cases hf
      simp only [Bool.or_eq_true, List.isEmpty_iff, beq_iff_eq, not_or] at hr
      rw [dropBlankLines_front hr.1 hr.2, if_neg]
      simp [List.append_eq_singleton_iff, hr.1, hr.2]
  wanting := by
    intro state buffer piece more next kept _ hw
    simp only [scanBlankLines] at hw ⊢
    split at hw <;> cases hw
    rw [List.append_assoc, dropBlankLines_append]
    exact ⟨rfl, trivial⟩

theorem skipBlankLines_ahead (wire : Wire) :
    (skipBlankLines wire).1 = .error .expired ∨
      Awaited (scanBlankLines () wire.ahead) (skipBlankLines wire) := by
  rcases await_ahead steady_scanBlankLines () wire trivial with
    h | h | ⟨_, _, h⟩
  · exact .inl h
  · exact .inr h
  · exact h.elim

end FixedReply.Wire
