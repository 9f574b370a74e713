import FixedReply.Proofs.Wire.Outcome

namespace FixedReply.Wire

open Http (Request Refusal Fault)

variable {limits : Limits} {stage later last : Stage} {bytes front left rest more : Bytes}
  {said acts : List Act} {request : Request} {move : Move}

theorem scanUpTo_of_append {marker line : Bytes} {limit : Int} (hm : marker ≠ [])
    (h : scanUpTo marker limit 0 (front ++ more) = .found (some line) (left ++ more)) :
    scanUpTo marker limit 0 front = .found (some line) left := by
  obtain ⟨he, hl, hf⟩ := (scanUpTo_found hm).mp h
  have hfront : front = line ++ marker ++ left := by
    rw [← List.append_assoc] at he
    exact List.append_cancel_right he
  refine (scanUpTo_found hm).mpr ⟨hfront, hl, hf.of_append ?_⟩
  rw [hfront]
  simp only [List.length_append]
  omega

theorem scanExactly_of_append {n : Nat} {block : Bytes}
    (h : scanExactly n () (front ++ more) = .found block (left ++ more)) :
    scanExactly n () front = .found block left := by
  obtain ⟨he, hn⟩ := scanExactly_found.mp h
  rw [← List.append_assoc] at he
  exact scanExactly_found.mpr ⟨List.append_cancel_right he, hn⟩

/-- The line ends that are dropped stand in front of something else than a line end. -/
theorem dropBlankLines_eq (bytes : Bytes) :
    ∃ ends, bytes = ends ++ dropBlankLines bytes ∧
      ∀ rest, dropBlankLines (ends ++ rest) = dropBlankLines rest := by
  fun_induction dropBlankLines bytes with
  | case1 rest ih =>
    obtain ⟨ends, he, hd⟩ := ih
    refine ⟨13 :: 10 :: ends, ?_, hd⟩
    rw [List.cons_append, List.cons_append, ← he]
  | case2 bytes => exact ⟨[], rfl, fun _ => rfl⟩

theorem dropBlankLines_still (h : dropBlankLines (left ++ more) = left ++ more)
    (hl : 2 ≤ left.length) : dropBlankLines left = left := by
  match left, hl with
  | a :: b :: left, _ =>
    unfold dropBlankLines
    split
    · rename_i he
      cases he
      have hle := (Stage.dropBlankLines_suffix (left ++ more)).length_le
      rw [List.cons_append, List.cons_append, dropBlankLines] at h
      rw [h] at hle
      simp only [List.length_cons] at hle
      omega
    · rfl

theorem dropBlankLines_of_append (h : dropBlankLines (front ++ more) = left ++ more)
    (hl : 2 ≤ left.length) : dropBlankLines front = left := by
  obtain ⟨ends, he, hd⟩ := dropBlankLines_eq (front ++ more)
  rw [h] at he
  have hstill : dropBlankLines (left ++ more) = left ++ more := by
    rw [← hd, ← he, h]
  rw [← List.append_assoc] at he
  rw [List.append_cancel_right he, hd, dropBlankLines_still hstill hl]

namespace Stage

theorem line_of_append {marker : Bytes} {limit : Int} (hm : marker ≠ []) {after : Option Bytes → Move}
    (h : (scanUpTo marker limit 0 (front ++ more)).move? after = some (move, left ++ more))
    (hs : after none ≠ move) :
    (scanUpTo marker limit 0 front).move? after = some (move, left) := by
  obtain ⟨line, hf, ha⟩ := Scan.move?_eq_some.mp h
  cases line with
  | none => exact absurd ha hs
  | some line => exact Scan.move?_eq_some.mpr ⟨some line, scanUpTo_of_append hm hf, ha⟩

/-- A stage that leaves some of the front part does so wherever the front part ends. Blank lines in
front of a request are over only with the second byte of it. -/
theorem step_of_append (h : stage.step limits (front ++ more) = some (move, left ++ more))
    (hs : ∀ why, move ≠ .stops why) (hl : stage = .start → 2 ≤ left.length) :
    stage.step limits front = some (move, left) := by
  cases stage with
  | start =>
    obtain ⟨_, hf, ha⟩ := Scan.move?_eq_some.mp h
    obtain ⟨hd, -, -⟩ := scanBlankLines_found.mp hf
    have h2 := hl rfl
    refine Scan.move?_eq_some.mpr ⟨(), scanBlankLines_found.mpr
      ⟨(dropBlankLines_of_append hd.symm h2).symm, ?_, ?_⟩, ha⟩ <;>
    · intro he
      subst he
      simp at h2
  | head => exact line_of_append (by simp [blankLine, Bytes.crlf]) h (hs _).symm
  | block request n =>
    obtain ⟨body, hf, ha⟩ := Scan.move?_eq_some.mp h
    exact Scan.move?_eq_some.mpr ⟨body, scanExactly_of_append hf, ha⟩
  | sizes request parts total => exact line_of_append (by simp [Bytes.crlf]) h (hs _).symm
  | chunk request parts total size =>
    obtain ⟨chunk, hf, ha⟩ := Scan.move?_eq_some.mp h
    exact Scan.move?_eq_some.mpr ⟨chunk, scanExactly_of_append hf, ha⟩
  | trailers request body => exact line_of_append (by simp [Bytes.crlf]) h (hs _).symm

end Stage

/-- A head is longer than nothing. -/
theorem Walk.lt_of_head (walk : Walk limits .head bytes acts last left) (hl : last ≠ .head) :
    left.length < bytes.length := by
  cases walk with
  | here => exact absurd rfl hl
  | on step onward =>
    obtain ⟨-, hs⟩ := Stage.rest_of_step step (fun _ => Move.noConfusion)
    simp only [reduceCtorEq, exists_false, false_or] at hs
    exact Nat.lt_of_le_of_lt onward.suffix.length_le hs

/-- A walk that ends within the front part is the same walk on the front part alone. -/
theorem Walk.of_append (walk : Walk limits stage (front ++ more) acts last (left ++ more))
    (hne : left ≠ []) (hh : last = .head → 2 ≤ left.length) :
    Walk limits stage front acts last left := by
  generalize hb : front ++ more = bytes at walk
  generalize hc : left ++ more = tail at walk
  induction walk generalizing front with
  | here stage bytes =>
    subst hc
    obtain rfl := List.append_cancel_right hb
    exact .here stage front
  | @on stage later last bytes rest tail said acts step onward ih =>
    subst hb hc
    obtain ⟨taken, rfl⟩ := onward.suffix
    rw [← List.append_assoc] at onward step ih
    refine .on (Stage.step_of_append step (fun _ => Move.noConfusion) ?_) (ih hh rfl rfl)
    intro he
    subst he
    have hpos := List.length_pos_iff.mpr hne
    rw [List.length_append]
    by_cases hl : last = .head
    · have := hh hl
      omega
    · obtain ⟨_, -, ha⟩ := Scan.move?_eq_some.mp step
      cases ha
      have := onward.lt_of_head hl
      simp only [List.length_append] at this
      omega

theorem Stage.pos_of_goes {length : Nat}
    (h : stage.step limits bytes = some (.goes said (.block request length), rest)) : 0 < length := by
  cases stage <;> obtain ⟨a, -, ha⟩ := Scan.move?_eq_some.mp h
  · cases ha
  · cases a with
    | none => cases ha
    | some text =>
      simp only [afterHead] at ha
      split at ha
      · cases ha
      · rename_i framing _
        rcases framing with _ | _ | n <;> cases ha
        exact Nat.succ_pos n
  · cases ha
  · rcases a with _ | line
    · cases ha
    · simp only [afterSize, measure] at ha
      split at ha
      · cases ha
      · cases ha
      · split at ha <;> cases ha
  · simp only [afterChunk] at ha
    split at ha <;> cases ha
  · rcases a with _ | line
    · cases ha
    · simp only [afterTrailer] at ha
      split at ha <;> cases ha

/-- A block that is come to has some bytes. -/
theorem Walk.pos_of_block {length : Nat} (walk : Walk limits stage bytes acts last left)
    (hl : last = .block request length) (hs : ∀ request length, stage = .block request length → 0 < length) :
    0 < length := by
  induction walk with
  | here => exact hs _ _ hl
  | on step onward ih =>
    refine ih hl fun request length he => ?_
    subst he
    exact Stage.pos_of_goes step

/-- The last stage of a request takes some bytes, those of a head at least two. -/
theorem Walk.taken (walk : Walk limits .start bytes acts last (front ++ rest))
    (ends : last.step limits (front ++ rest) = some (.ends request, rest)) :
    front ≠ [] ∧ (last = .head → 2 ≤ front.length) := by
  cases last with
  | start =>
    obtain ⟨_, -, ha⟩ := Scan.move?_eq_some.mp ends
    cases ha
  | head =>
    obtain ⟨line, hf, ha⟩ := Scan.move?_eq_some.mp ends
    cases line with
    | none => cases ha
    | some line =>
      obtain ⟨he, -, -⟩ := (scanUpTo_found (by decide)).mp hf
      have hfront : front = line ++ blankLine := List.append_cancel_right he
      have hlen : 4 ≤ front.length := by
        rw [hfront, List.length_append]
        exact Nat.le_add_left 4 _
      exact ⟨List.ne_nil_of_length_pos (by omega), fun _ => by omega⟩
  | block request length =>
    obtain ⟨block, hf, -⟩ := Scan.move?_eq_some.mp ends
    obtain ⟨he, hn⟩ := scanExactly_found.mp hf
    obtain rfl : front = block := List.append_cancel_right he
    have hpos := walk.pos_of_block rfl fun _ _ => Stage.noConfusion
    exact ⟨List.ne_nil_of_length_pos (by omega), Stage.noConfusion⟩
  | sizes request parts total | chunk request parts total size | trailers request body =>
    obtain ⟨-, hlt⟩ := Stage.rest_of_step ends (fun _ => Move.noConfusion)
    simp only [reduceCtorEq, exists_false, false_or, List.length_append] at hlt
    exact ⟨List.ne_nil_of_length_pos (by omega), Stage.noConfusion⟩

/-- A request that ends in the front part is read from the front part alone. -/
theorem outcome_of_append
    (h : outcome limits .start (front ++ more) = (acts, .read request (rest ++ more))) :
    outcome limits .start front = (acts, .read request rest) := by
  obtain ⟨last, left, walk, ends⟩ := walk_of_read h
  obtain ⟨taken, rfl⟩ := (Stage.rest_of_step ends (fun _ => Move.noConfusion)).1
  obtain ⟨hne, hh⟩ := walk.taken ends
  rw [← List.append_assoc] at walk ends
  have hstart : last ≠ .start := by
    intro he
    subst he
    obtain ⟨_, -, ha⟩ := Scan.move?_eq_some.mp ends
    cases ha
  have hw := (walk.of_append (by simp [hne]) fun hl => by
    have hlong := hh hl
    rw [List.length_append]
    omega).outcome
  rw [outcome_ends (Stage.step_of_append ends (fun _ => Move.noConfusion)
    fun h => absurd h hstart), List.append_nil] at hw
  exact hw

/-- What is read of a line before its marker ends is refused, once it has outgrown the limit. -/
theorem Straddles.cut {marker : Bytes} {limit : Int} (hm : marker ≠ [])
    (h : Straddles marker limit bytes) :
    ∃ front more, bytes = front ++ more ∧ more ≠ [] ∧ (front.length : Int) = limit + 1 ∧
      scanUpTo marker limit 0 front = .found none front := by
  obtain ⟨i, hf, hi, hl⟩ := h
  have hle := hf.le hm
  have hlen : ((bytes.take (limit + 1).toNat).length : Int) = limit + 1 := by
    rw [List.length_take]
    omega
  refine ⟨_, _, (List.take_append_drop (limit + 1).toNat bytes).symm, ?_, hlen, ?_⟩
  · rw [ne_eq, List.drop_eq_nil_iff]
    omega
  · have hnone : Bytes.find? (bytes.take (limit + 1).toNat) marker 0 = none := by
      cases hk : Bytes.find? (bytes.take (limit + 1).toNat) marker 0 with
      | none => rfl
      | some k =>
        have hfirst := Bytes.find?_some hm hk
        have hk' := hfirst.le hm
        have happ : Bytes.IsFirst marker
            (bytes.take (limit + 1).toNat ++ bytes.drop (limit + 1).toNat) 0 k := hfirst.append hm
        rw [List.take_append_drop] at happ
        rw [happ.unique hf] at hk'
        omega
    unfold scanUpTo
    rw [hnone]
    dsimp only
    rw [if_pos (by omega)]

/-- A head that blank lines do not precede straddles no limit below one. -/
theorem Straddles.one_le {limit : Int} (h : Straddles blankLine limit bytes)
    (hb : dropBlankLines bytes = bytes) : 1 ≤ limit := by
  obtain ⟨i, hf, hi, -⟩ := h
  have hpos : i ≠ 0 := by
    intro he
    subst he
    obtain ⟨tail, ht⟩ := hf.occurs
    rw [List.drop_zero] at ht
    have hdrop : dropBlankLines bytes = dropBlankLines (13 :: 10 :: tail) := by
      rw [← ht]
      rfl
    have hle := (Stage.dropBlankLines_suffix (13 :: 10 :: tail)).length_le
    rw [← hdrop, hb, ← ht] at hle
    simp only [blankLine, Bytes.crlf, List.length_append, List.length_cons] at hle
    omega
  omega

/-- No blank line precedes a head that is come to. -/
theorem Walk.still (walk : Walk limits .start bytes acts last left) (hl : last = .head) :
    dropBlankLines left = left := by
  cases walk with
  | here => cases hl
  | on step onward =>
    obtain ⟨_, hf, ha⟩ := Scan.move?_eq_some.mp step
    cases ha
    obtain ⟨-, rfl⟩ := onward.at_head hl Stage.noConfusion
    obtain ⟨rfl, -, -⟩ := scanBlankLines_found.mp hf
    have hd := dropBlankLines_append bytes []
    rwa [List.append_nil, List.append_nil] at hd

/-- Where the line that comes next straddles its limit, it is refused if the bytes end in its
marker. -/
theorem Stage.Strays.cut {why : Refusal} (h : stage.Strays limits bytes why)
    (hb : stage = .head → dropBlankLines bytes = bytes) :
    ∃ front more, bytes = front ++ more ∧ more ≠ [] ∧ front ≠ [] ∧
      (stage = .head → 2 ≤ front.length) ∧
      Wire.outcome limits stage front = ([], .stopped (.refused why)) := by
  cases h with
  | head h =>
    obtain ⟨front, more, he, hm, hl, hs⟩ := h.cut (by simp [blankLine, Bytes.crlf])
    have hone := h.one_le (hb rfl)
    refine ⟨front, more, he, hm, ?_, fun _ => by omega,
      outcome_stops (Scan.move?_eq_some.mpr ⟨none, hs, rfl⟩)⟩
    intro he
    subst he
    simp only [List.length_nil] at hl
    omega
  | size h =>
    obtain ⟨front, more, he, hm, hl, hs⟩ := h.cut (by simp [Bytes.crlf])
    refine ⟨front, more, he, hm, ?_, Stage.noConfusion,
      outcome_stops (Scan.move?_eq_some.mpr ⟨none, hs, rfl⟩)⟩
    intro he
    subst he
    cases hl
  | trailer h =>
    obtain ⟨front, more, he, hm, hl, hs⟩ := h.cut (by simp [Bytes.crlf])
    obtain ⟨i, -, hi, -⟩ := h
    refine ⟨front, more, he, hm, ?_, Stage.noConfusion,
      outcome_stops (Scan.move?_eq_some.mpr ⟨none, hs, rfl⟩)⟩
    intro he
    subst he
    simp only [List.length_nil] at hl
    omega

end FixedReply.Wire
