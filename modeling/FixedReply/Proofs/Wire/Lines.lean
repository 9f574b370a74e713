import FixedReply.Proofs.Bytes.Search
import FixedReply.Proofs.Text.Case
import FixedReply.Proofs.Text.Parts
import FixedReply.Wire.Message

namespace FixedReply.Wire

/-- No line end begins within a line that a line end follows. -/
theorem not_crlf_within {first more : Bytes} (h : ¬ Bytes.crlf <:+: first) {j : Nat}
    (hj : j < first.length) : ¬ Bytes.crlf <+: (first ++ Bytes.crlf ++ more).drop j := by
  intro hp
  obtain ⟨tail, ht⟩ := hp
  obtain ⟨c, after, hafter⟩ := List.exists_cons_of_length_pos (List.length_drop ▸ Nat.sub_pos_of_lt hj)
  have hsuffix : c :: after <:+ first := hafter ▸ List.drop_suffix j first
  rw [List.append_assoc, List.drop_append_of_le_length (Nat.le_of_lt hj), hafter] at ht
  obtain ⟨rfl, hnext⟩ := List.cons.inj ht
  cases after with
  | nil => cases hnext
  | cons d after =>
    obtain ⟨rfl, -⟩ := List.cons.inj hnext
    exact h ((List.prefix_append Bytes.crlf after).isInfix.trans hsuffix.isInfix)

theorem crlf_prefix_blankLine : Bytes.crlf <+: blankLine := ⟨Bytes.crlf, rfl⟩

/-- Between lines that are not empty no blank line stands, also if they hold halves of line ends. -/
theorem blankLine_after {first : Bytes} {lines : List Bytes} (hf : ¬ Bytes.crlf <:+: first)
    (hl : ∀ line ∈ lines, line ≠ [] ∧ ¬ Bytes.crlf <:+: line) (rest : Bytes) {j : Nat}
    (hj : j < (first ++ lines.flatMap (Bytes.crlf ++ ·)).length) :
    ¬ blankLine <+: (first ++ lines.flatMap (Bytes.crlf ++ ·) ++ Bytes.crlf ++ rest).drop j := by
  induction lines generalizing first j with
  | nil =>
    rw [List.flatMap_nil, List.append_nil] at hj ⊢
    exact fun hp => not_crlf_within hf hj (crlf_prefix_blankLine.trans hp)
  | cons line lines ih =>
    obtain ⟨hne, hline⟩ := hl line List.mem_cons_self
    obtain ⟨more, hmore⟩ : ∃ more, lines.flatMap (Bytes.crlf ++ ·) ++ Bytes.crlf ++ rest =
        Bytes.crlf ++ more := by
      cases lines with
      | nil => exact ⟨rest, rfl⟩
      | cons next lines =>
        rw [List.flatMap_cons, List.append_assoc, List.append_assoc, List.append_assoc]
        exact ⟨_, rfl⟩
    have hnext : line ++ lines.flatMap (Bytes.crlf ++ ·) ++ Bytes.crlf ++ rest =
        line ++ Bytes.crlf ++ more := by
      rw [List.append_assoc, List.append_assoc, ← List.append_assoc (lines.flatMap _), hmore,
        List.append_assoc]
    have hwhole : first ++ (line :: lines).flatMap (Bytes.crlf ++ ·) ++ Bytes.crlf ++ rest =
        first ++ Bytes.crlf ++ (line ++ lines.flatMap (Bytes.crlf ++ ·) ++ Bytes.crlf ++ rest) := by
      simp only [List.flatMap_cons, List.append_assoc]
    rw [hwhole]
    -- A blank line would stand before the end of `first`, at it, or after it; at it the next line begins.
    by_cases hlt : j < first.length
    · exact fun hp => not_crlf_within hf hlt (crlf_prefix_blankLine.trans hp)
    · obtain ⟨k, rfl⟩ := Nat.exists_eq_add_of_le (Nat.le_of_not_lt hlt)
      rw [← List.drop_drop, List.append_assoc first, List.drop_left]
      intro hp
      rcases k with _ | _ | k
      · have hcrlf : Bytes.crlf <+: line ++ Bytes.crlf ++ more := by
          rw [← hnext]
          exact (List.prefix_append_right_inj Bytes.crlf).mp hp
        exact not_crlf_within hline (List.length_pos_iff.mpr hne) hcrlf
      · obtain ⟨tail, ht⟩ := hp
        cases ht
      · refine ih hline (fun l hm => hl l (List.mem_cons_of_mem _ hm)) (j := k) ?_ hp
        have hc : Bytes.crlf.length = 2 := rfl
        simp only [List.flatMap_cons, List.length_append, hc] at hj ⊢
        omega

theorem not_crlf_ofText {s : List Char} (hb : Below 256 s) (h : Text.IsLine s) :
    ¬ Bytes.crlf <:+: Bytes.ofText s := by
  intro hi
  have htext : Bytes.crlf.toText <:+: (Bytes.ofText s).toText := hi.map Char.ofUInt8
  rw [Bytes.toText_ofText hb] at htext
  exact h htext

/-- The first blank line behind some lines is the one that ends them. -/
theorem isFirst_lines {first : List Char} {lines : List (List Char)} (hb : Below 256 first)
    (hf : Text.IsLine first) (hl : ∀ line ∈ lines, line ≠ [] ∧ Below 256 line ∧ Text.IsLine line)
    (rest : Bytes) :
    Bytes.IsFirst blankLine
      (Bytes.ofText (first ++ lines.flatMap fun line => '\r' :: '\n' :: line) ++ blankLine ++ rest) 0
      (Bytes.ofText (first ++ lines.flatMap fun line => '\r' :: '\n' :: line)).length := by
  have hbytes : Bytes.ofText (first ++ lines.flatMap fun line => '\r' :: '\n' :: line) =
      Bytes.ofText first ++ (lines.map Bytes.ofText).flatMap (Bytes.crlf ++ ·) := by
    simp only [Bytes.ofText, List.map_append, List.map_flatMap, List.flatMap_map]
    rfl
  rw [hbytes]
  refine ⟨Nat.zero_le _, ?_, ?_⟩
  · rw [List.append_assoc, List.drop_left]
    exact List.prefix_append _ _
  · intro j _ hj
    have hblank : blankLine ++ rest = Bytes.crlf ++ (Bytes.crlf ++ rest) := rfl
    rw [List.append_assoc, hblank, ← List.append_assoc]
    refine blankLine_after (not_crlf_ofText hb hf) ?_ _ hj
    intro line hm
    obtain ⟨text, ht, rfl⟩ := List.mem_map.mp hm
    obtain ⟨hne, hlatin, hline⟩ := hl text ht
    exact ⟨by simpa [Bytes.ofText] using hne, not_crlf_ofText hlatin hline⟩

end FixedReply.Wire
