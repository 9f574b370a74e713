import FixedReply.Proofs.Wire.Supply

namespace FixedReply.Wire

open Http (Request Fault Refusal)

variable {σ α : Type} {limits : Limits} {stage later : Stage} {bytes rest more : Bytes}
  {said acts : List Act} {request : Request} {move : Move}

theorem Scan.move?_eq_some {scan : Scan σ α} {after : α → Move} :
    scan.move? after = some (move, rest) ↔ ∃ a, scan = .found a rest ∧ after a = move := by
  cases scan with
  | found a left =>
    simp only [Scan.move?, Option.some.injEq, Prod.mk.injEq, Scan.found.injEq]
    constructor
    · intro he
      obtain ⟨rfl, rfl⟩ := he
      exact ⟨a, ⟨rfl, rfl⟩, rfl⟩
    · intro he
      obtain ⟨_, ⟨rfl, rfl⟩, rfl⟩ := he
      exact ⟨rfl, rfl⟩
  | wanting => simp [Scan.move?]

/-- A line that is found stands in front of its marker, and the others after it. -/
theorem scanUpTo_found {marker line : Bytes} {limit : Int} (hm : marker ≠ []) :
    scanUpTo marker limit 0 bytes = .found (some line) rest ↔
      bytes = line ++ marker ++ rest ∧ (line.length : Int) ≤ limit ∧
        Bytes.IsFirst marker bytes 0 line.length := by
  unfold scanUpTo
  constructor
  · intro h
    split at h
    · rename_i i hf
      have hfirst := Bytes.find?_some hm hf
      have hle := hfirst.le hm
      split at h
      · simp at h
      · rename_i hl
        cases h
        have hlen : (bytes.take i).length = i := by
          rw [List.length_take]
          omega
        exact ⟨Bytes.eq_of_occurs hfirst.occurs, by omega, by rwa [hlen]⟩
    · split at h <;> simp at h
  · intro he
    obtain ⟨hb, hl, hf⟩ := he
    rw [← Bytes.find?_eq_some_iff hm] at hf
    simp only [hf]
    rw [if_neg (by omega), hb, List.append_assoc, List.take_left, ← List.drop_drop, List.drop_left,
      List.drop_left]

theorem scanExactly_found {n : Nat} {block : Bytes} :
    scanExactly n () bytes = .found block rest ↔ bytes = block ++ rest ∧ block.length = n := by
  simp only [scanExactly, Bytes.splitAt?_eq]
  by_cases hn : n ≤ bytes.length
  · simp only [hn, ↓reduceIte, Scan.found.injEq]
    constructor
    · intro he
      obtain ⟨rfl, rfl⟩ := he
      exact ⟨(List.take_append_drop n bytes).symm, by simp [hn]⟩
    · intro he
      obtain ⟨rfl, rfl⟩ := he
      simp
  · simp only [hn, ↓reduceIte, reduceCtorEq, false_iff, not_and]
    intro he hp
    subst he
    subst hp
    simp at hn

theorem scanBlankLines_found {a : Unit} :
    scanBlankLines () bytes = .found a rest ↔
      rest = dropBlankLines bytes ∧ rest ≠ [] ∧ rest ≠ [Bytes.cr] := by
  simp only [scanBlankLines]
  split
  · rename_i h
    simp only [Bool.or_eq_true, List.isEmpty_iff, beq_iff_eq] at h
    simp only [reduceCtorEq, false_iff, not_and]
    intro he hne hcr
    subst he
    exact h.elim hne hcr
  · rename_i h
    simp only [Bool.or_eq_true, List.isEmpty_iff, beq_iff_eq, not_or] at h
    simp only [Scan.found.injEq, true_and]
    constructor
    · intro he
      subst he
      exact ⟨rfl, h⟩
    · intro he
      obtain ⟨rfl, -⟩ := he
      rfl

namespace Stage

def weight (stage : Stage) (bytes : Bytes) : Nat :=
  match stage with
  | start => bytes.length + 1
  | _ => bytes.length

/-- What follows a head is neither a blank line nor a head. -/
theorem later_of_begin {framing : Http.Framing} (h : begin request framing = .goes said later) :
    later ≠ .start ∧ later ≠ .head ∧ (said = [] ∨ said = [.sent leave]) := by
  rcases framing with _ | _ | n <;> cases h <;>
    exact ⟨Stage.noConfusion, Stage.noConfusion, leaveTo_cases request⟩

/-- A move leads from the blank lines to the head, or on to what follows a head. Nothing is said on
the way but the leave that a client waits for. -/
theorem goes_cases (h : stage.step limits bytes = some (.goes said later, rest)) :
    (stage = .start ∧ later = .head ∧ said = []) ∨
      (stage ≠ .start ∧ later ≠ .start ∧ later ≠ .head ∧ (said = [] ∨ said = [.sent leave])) := by
  cases stage <;> obtain ⟨a, -, ha⟩ := Scan.move?_eq_some.mp h
  · cases ha
    exact .inl ⟨rfl, rfl, rfl⟩
  · rcases a with _ | text
    · cases ha
    · simp only [afterHead] at ha
      split at ha
      · cases ha
      · obtain ⟨hs, hh, hsaid⟩ := later_of_begin ha
        exact .inr ⟨Stage.noConfusion, hs, hh, hsaid⟩
  · cases ha
  · rcases a with _ | line
    · cases ha
    · simp only [afterSize, measure] at ha
      split at ha
      · cases ha
      · cases ha
        exact .inr ⟨Stage.noConfusion, Stage.noConfusion, Stage.noConfusion, .inl rfl⟩
      · split at ha <;> cases ha
        exact .inr ⟨Stage.noConfusion, Stage.noConfusion, Stage.noConfusion, .inl rfl⟩
  · simp only [afterChunk] at ha
    split at ha <;> cases ha
    exact .inr ⟨Stage.noConfusion, Stage.noConfusion, Stage.noConfusion, .inl rfl⟩
  · rcases a with _ | line
    · cases ha
    · simp only [afterTrailer] at ha
      split at ha <;> cases ha
      exact .inr ⟨Stage.noConfusion, Stage.noConfusion, Stage.noConfusion, .inl rfl⟩

theorem weight_of_goes (h : stage.step limits bytes = some (.goes said later, rest)) :
    later.weight rest = rest.length := by
  rcases goes_cases h with ⟨-, rfl, -⟩ | ⟨-, hne, -, -⟩
  · rfl
  · cases later <;> first | rfl | exact absurd rfl hne

theorem dropBlankLines_suffix (bytes : Bytes) : dropBlankLines bytes <:+ bytes := by
  fun_induction dropBlankLines bytes with
  | case1 rest ih => exact ih.trans ((List.suffix_cons _ _).trans (List.suffix_cons _ _))
  | case2 bytes => exact List.suffix_refl bytes

theorem rest_of_line {marker : Bytes} {limit : Int} (hm : marker ≠ []) {after : Option Bytes → Move}
    (h : (scanUpTo marker limit 0 bytes).move? after = some (move, rest))
    (hs : after none ≠ move) : rest <:+ bytes ∧ rest.length < bytes.length := by
  obtain ⟨line, hf, ha⟩ := Scan.move?_eq_some.mp h
  cases line with
  | none => exact absurd ha hs
  | some line =>
    obtain ⟨rfl, -, -⟩ := (scanUpTo_found hm).mp hf
    have := List.length_pos_iff.mpr hm
    refine ⟨List.suffix_append _ _, ?_⟩
    simp only [List.length_append]
    omega

/-- What a stage leaves are the last of its bytes, and a line or a chunk is always taken. -/
theorem rest_of_step (h : stage.step limits bytes = some (move, rest))
    (hs : ∀ why, move ≠ .stops why) :
    rest <:+ bytes ∧
      (stage = .start ∨ (∃ request n, stage = .block request n) ∨ rest.length < bytes.length) := by
  cases stage with
  | start =>
    obtain ⟨a, ha, -⟩ := Scan.move?_eq_some.mp h
    obtain ⟨rfl, -, -⟩ := scanBlankLines_found.mp ha
    exact ⟨dropBlankLines_suffix bytes, .inl rfl⟩
  | head =>
    obtain ⟨hr, hl⟩ := rest_of_line (by simp [blankLine, Bytes.crlf]) h (hs _).symm
    exact ⟨hr, .inr (.inr hl)⟩
  | block request n =>
    obtain ⟨a, ha, -⟩ := Scan.move?_eq_some.mp h
    obtain ⟨rfl, -⟩ := scanExactly_found.mp ha
    exact ⟨List.suffix_append _ _, .inr (.inl ⟨_, _, rfl⟩)⟩
  | sizes request parts total =>
    obtain ⟨hr, hl⟩ := rest_of_line (by simp [Bytes.crlf]) h (hs _).symm
    exact ⟨hr, .inr (.inr hl)⟩
  | chunk request parts total size =>
    obtain ⟨a, ha, -⟩ := Scan.move?_eq_some.mp h
    obtain ⟨rfl, hn⟩ := scanExactly_found.mp ha
    refine ⟨List.suffix_append _ _, .inr (.inr ?_)⟩
    simp only [List.length_append]
    omega
  | trailers request body =>
    obtain ⟨hr, hl⟩ := rest_of_line (by simp [Bytes.crlf]) h (hs _).symm
    exact ⟨hr, .inr (.inr hl)⟩

theorem weight_of_step (h : stage.step limits bytes = some (.goes said later, rest)) :
    later.weight rest < stage.weight bytes := by
  rw [weight_of_goes h]
  obtain ⟨hr, hl⟩ := rest_of_step h (fun _ => Move.noConfusion)
  have hle := hr.length_le
  rcases hl with rfl | ⟨request, n, rfl⟩ | hl
  · exact Nat.lt_succ_of_le hle
  · obtain ⟨a, -, ha⟩ := Scan.move?_eq_some.mp h
    cases ha
  · exact Nat.lt_of_lt_of_le hl (by cases stage <;> simp [weight])

end Stage

inductive Verdict
  | read (request : Request) (rest : Bytes)
  | stopped (why : Fault)
  | lost

/-- What is said while a request is read, and what the reading comes to. -/
def outcome (limits : Limits) (stage : Stage) (bytes : Bytes) : List Act × Verdict :=
  match _step : stage.step limits bytes with
  | none => ([], .lost)
  | some (.ends request, rest) => ([], .read request rest)
  | some (.stops why, _) => ([], .stopped why)
  | some (.goes said later, rest) =>
    let onward := outcome limits later rest
    (said ++ onward.1, onward.2)
termination_by stage.weight bytes
decreasing_by exact Stage.weight_of_step _step

theorem outcome_none (h : stage.step limits bytes = none) :
    outcome limits stage bytes = ([], .lost) := by
  rw [outcome]
  split <;> simp_all

theorem outcome_ends (h : stage.step limits bytes = some (.ends request, rest)) :
    outcome limits stage bytes = ([], .read request rest) := by
  rw [outcome]
  split <;> simp_all

theorem outcome_stops {why : Fault} (h : stage.step limits bytes = some (.stops why, rest)) :
    outcome limits stage bytes = ([], .stopped why) := by
  rw [outcome]
  split <;> simp_all

theorem outcome_goes (h : stage.step limits bytes = some (.goes said later, rest)) :
    outcome limits stage bytes =
      (said ++ (outcome limits later rest).1, (outcome limits later rest).2) := by
  rw [outcome]
  split <;> simp_all

/-- A request is read at once or after a move. -/
theorem outcome_read (h : (outcome limits stage bytes).2 = .read request rest) :
    stage.step limits bytes = some (.ends request, rest) ∨
      ∃ said later left, stage.step limits bytes = some (.goes said later, left) ∧
        (outcome limits later left).2 = .read request rest := by
  rcases hs : stage.step limits bytes with _ | ⟨said | ended | why, left⟩
  · rw [outcome_none hs] at h
    cases h
  · rw [outcome_goes hs] at h
    exact .inr ⟨_, _, left, rfl, h⟩
  · rw [outcome_ends hs] at h
    cases h
    exact .inl rfl
  · rw [outcome_stops hs] at h
    cases h

/-- While a request is read, nothing is said but the leave that its client waits for. -/
theorem leave_of_outcome {act : Act} (h : act ∈ (outcome limits stage bytes).1) :
    act = .sent leave := by
  induction hw : stage.weight bytes using Nat.strongRecOn generalizing stage bytes with
  | ind weight ih =>
    rcases hs : stage.step limits bytes with _ | ⟨said | ended | why, left⟩
    · simp [outcome_none hs] at h
    · rw [outcome_goes hs, List.mem_append] at h
      rcases h with h | h
      · rcases Stage.goes_cases hs with ⟨-, -, rfl⟩ | ⟨-, -, -, rfl | rfl⟩
        · cases h
        · cases h
        · exact List.mem_singleton.mp h
      · exact ih _ (hw ▸ Stage.weight_of_step hs) h rfl
    · simp [outcome_ends hs] at h
    · simp [outcome_stops hs] at h

/-- What is left after a request are the last of the bytes. -/
theorem suffix_of_outcome (h : (outcome limits stage bytes).2 = .read request rest) :
    rest <:+ bytes := by
  induction hw : stage.weight bytes using Nat.strongRecOn generalizing stage bytes with
  | ind weight ih =>
    rcases outcome_read h with hs | ⟨said, later, left, hs, ho⟩
    · exact (Stage.rest_of_step hs (fun _ => Move.noConfusion)).1
    · exact (ih _ (hw ▸ Stage.weight_of_step hs) ho rfl).trans
        (Stage.rest_of_step hs (fun _ => Move.noConfusion)).1

/-- A request takes at least its head. -/
theorem length_of_outcome (h : (outcome limits .start bytes).2 = .read request rest) :
    rest.length < bytes.length := by
  have hhead : ∀ {bytes : Bytes}, (outcome limits .head bytes).2 = .read request rest →
      rest.length < bytes.length := by
    intro bytes h
    rcases outcome_read h with hs | ⟨said, later, left, hs, ho⟩
    all_goals
      obtain ⟨-, hl⟩ := Stage.rest_of_step hs (fun _ => Move.noConfusion)
      simp only [reduceCtorEq, exists_false, false_or] at hl
    · exact hl
    · exact Nat.lt_of_le_of_lt (suffix_of_outcome ho).length_le hl
  rcases outcome_read h with hs | ⟨said, later, left, hs, ho⟩
  · obtain ⟨_, -, ha⟩ := Scan.move?_eq_some.mp hs
    cases ha
  · have hle := (Stage.rest_of_step hs (fun _ => Move.noConfusion)).1.length_le
    obtain ⟨_, -, ha⟩ := Scan.move?_eq_some.mp hs
    cases ha
    exact Nat.lt_of_lt_of_le (hhead ho) hle

inductive Walk (limits : Limits) : Stage → Bytes → List Act → Stage → Bytes → Prop
  | here (stage : Stage) (bytes : Bytes) : Walk limits stage bytes [] stage bytes
  | on {stage later last : Stage} {bytes rest left : Bytes} {said acts : List Act}
      (step : stage.step limits bytes = some (.goes said later, rest))
      (onward : Walk limits later rest acts last left) :
      Walk limits stage bytes (said ++ acts) last left

/-- The walk ahead of a stage decides what the reading from there on adds. -/
theorem Walk.outcome {last : Stage} {left : Bytes} (h : Walk limits stage bytes acts last left) :
    Wire.outcome limits stage bytes =
      (acts ++ (Wire.outcome limits last left).1, (Wire.outcome limits last left).2) := by
  induction h with
  | here => rfl
  | on step _ ih => rw [outcome_goes step, ih, List.append_assoc]

theorem Walk.suffix {last : Stage} {left : Bytes} (h : Walk limits stage bytes acts last left) :
    left <:+ bytes := by
  induction h with
  | here => exact List.suffix_refl _
  | on step _ ih => exact ih.trans (Stage.rest_of_step step (fun _ => Move.noConfusion)).1

/-- A head is come to only from the blank lines in front of it. -/
theorem Walk.at_head {last : Stage} {left : Bytes} (h : Walk limits stage bytes acts last left)
    (hl : last = .head) (hs : stage ≠ .start) : stage = .head ∧ left = bytes := by
  induction h with
  | here => exact ⟨hl, rfl⟩
  | on step onward ih =>
    rcases Stage.goes_cases step with ⟨rfl, -, -⟩ | ⟨-, hne, hh, -⟩
    · exact absurd rfl hs
    · exact absurd (ih hl hne).1 hh

/-- A request that is read ends at the stage to which some walk leads. -/
theorem walk_of_read (h : outcome limits stage bytes = (acts, .read request rest)) :
    ∃ last left, Walk limits stage bytes acts last left ∧
      last.step limits left = some (.ends request, rest) := by
  induction hw : stage.weight bytes using Nat.strongRecOn generalizing stage bytes acts with
  | ind weight ih =>
    rcases outcome_read (congrArg Prod.snd h) with hs | ⟨said, later, left, hs, ho⟩
    · rw [outcome_ends hs] at h
      cases h
      exact ⟨stage, bytes, .here stage bytes, hs⟩
    · rw [outcome_goes hs] at h
      obtain ⟨last, ending, walk, hends⟩ := ih _ (hw ▸ Stage.weight_of_step hs)
        (Prod.ext rfl ho) rfl
      obtain rfl : said ++ _ = acts := congrArg Prod.fst h
      exact ⟨last, ending, .on hs walk, hends⟩

end FixedReply.Wire
