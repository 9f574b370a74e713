import FixedReply.Bytes

namespace FixedReply.Bytes

variable {bytes marker more line rest : Bytes} {offset offset' i j : Nat}

structure IsFirst (marker bytes : Bytes) (offset i : Nat) : Prop where
  from_offset : offset ≤ i
  occurs : marker <+: bytes.drop i
  none_before : ∀ j, offset ≤ j → j < i → ¬ marker <+: bytes.drop j

theorem IsFirst.unique (h : IsFirst marker bytes offset i) (h' : IsFirst marker bytes offset j) :
    i = j := by
  rcases Nat.lt_trichotomy i j with hl | he | hg
  · exact absurd h.occurs (h'.none_before i h.from_offset hl)
  · exact he
  · exact absurd h'.occurs (h.none_before j h'.from_offset hg)

theorem not_prefix_nil (hm : marker ≠ []) : ¬ marker <+: [] := by
  simpa using hm

theorem find?_go_some (hm : marker ≠ []) {pos n : Nat} (h : find?.go marker pos bytes = some n) :
    ∃ i, n = pos + i ∧ IsFirst marker bytes 0 i := by
  induction bytes generalizing pos with
  | nil => simp [find?.go, hm] at h
  | cons b rest ih =>
    simp only [find?.go] at h
    split at h
    · rename_i hp
      refine ⟨0, by simpa using h.symm, Nat.le_refl 0, List.isPrefixOf_iff_prefix.mp hp, ?_⟩
      intro j _ hj
      exact absurd hj (Nat.not_lt_zero j)
    · rename_i hp
      obtain ⟨i, hn, hi⟩ := ih h
      refine ⟨i + 1, by omega, Nat.zero_le _, hi.occurs, ?_⟩
      intro j _ hj
      cases j with
      | zero => exact fun ho => hp (List.isPrefixOf_iff_prefix.mpr ho)
      | succ j => exact hi.none_before j (Nat.zero_le j) (by omega)

theorem find?_go_none (hm : marker ≠ []) {pos : Nat} (h : find?.go marker pos bytes = none)
    (j : Nat) : ¬ marker <+: bytes.drop j := by
  induction bytes generalizing pos j with
  | nil => simpa using hm
  | cons b rest ih =>
    simp only [find?.go] at h
    split at h
    · simp at h
    · rename_i hp
      cases j with
      | zero => exact fun ho => hp (List.isPrefixOf_iff_prefix.mpr ho)
      | succ j => exact ih h j

theorem find?_seek (pos : Nat) : find?.seek marker pos offset bytes =
    if offset ≤ bytes.length then find?.go marker (pos + offset) (bytes.drop offset) else none := by
  induction offset generalizing pos bytes with
  | zero => simp [find?.seek]
  | succ offset ih =>
    cases bytes with
    | nil => simp [find?.seek]
    | cons b rest => simp [find?.seek, ih, Nat.add_comm, Nat.add_left_comm]

theorem find?_some (hm : marker ≠ []) (h : find? bytes marker offset = some i) :
    IsFirst marker bytes offset i := by
  simp only [find?, find?_seek, Nat.zero_add] at h
  split at h
  · obtain ⟨k, rfl, hk⟩ := find?_go_some hm h
    refine ⟨Nat.le_add_right _ _, by simpa [List.drop_drop] using hk.occurs, ?_⟩
    intro j hj hlt
    have := hk.none_before (j - offset) (Nat.zero_le _) (by omega)
    rwa [List.drop_drop, Nat.add_sub_cancel' hj] at this
  · simp at h

/-- Where something is found, the marker occurs. -/
theorem occurs_of_find? (h : find? bytes marker offset = some i) : marker <+: bytes.drop i := by
  by_cases hm : marker = []
  · exact hm ▸ List.nil_prefix
  · exact (find?_some hm h).occurs

/-- An occurrence has some bytes before it, and others after it. -/
theorem eq_of_occurs (h : marker <+: bytes.drop i) :
    bytes = bytes.take i ++ marker ++ bytes.drop (i + marker.length) := by
  obtain ⟨tail, ht⟩ := h
  have htail : bytes.drop (i + marker.length) = tail := by
    rw [← List.drop_drop, ← ht, List.drop_left]
  rw [htail, List.append_assoc, ht, List.take_append_drop]

theorem exists_occurs_of_infix (h : marker <:+: bytes) : ∃ i, marker <+: bytes.drop i := by
  obtain ⟨before, after, rfl⟩ := h
  refine ⟨before.length, ?_⟩
  rw [List.append_assoc, List.drop_left]
  exact List.prefix_append marker after

theorem infix_of_occurs (h : marker <+: bytes.drop i) : marker <:+: bytes :=
  h.isInfix.trans (List.drop_suffix i bytes).isInfix

theorem le_of_occurs (hm : marker ≠ []) (h : marker <+: bytes.drop i) : i ≤ bytes.length := by
  apply Nat.le_of_not_lt
  intro hlt
  rw [List.drop_eq_nil_of_le (Nat.le_of_lt hlt)] at h
  exact not_prefix_nil hm h

theorem find?_none (hm : marker ≠ []) (h : find? bytes marker offset = none) (hj : offset ≤ j) :
    ¬ marker <+: bytes.drop j := by
  simp only [find?, find?_seek, Nat.zero_add] at h
  split at h
  · have := find?_go_none hm h (j - offset)
    rwa [List.drop_drop, Nat.add_sub_cancel' hj] at this
  · rw [List.drop_eq_nil_of_le (by omega)]
    exact not_prefix_nil hm

/-- What is found is the first place, and it is found. -/
theorem find?_eq_some_iff (hm : marker ≠ []) :
    find? bytes marker offset = some i ↔ IsFirst marker bytes offset i := by
  refine ⟨find?_some hm, ?_⟩
  intro h
  cases hf : find? bytes marker offset with
  | none => exact absurd h.occurs (find?_none hm hf h.from_offset)
  | some k => rw [(find?_some hm hf).unique h]

theorem find?_eq_none_iff (hm : marker ≠ []) :
    find? bytes marker offset = none ↔ ∀ j, offset ≤ j → ¬ marker <+: bytes.drop j := by
  refine ⟨fun h _ hj => find?_none hm h hj, ?_⟩
  intro h
  cases hf : find? bytes marker offset with
  | none => rfl
  | some k =>
    have := find?_some hm hf
    exact absurd this.occurs (h k this.from_offset)

theorem prefix_drop_append (h : marker <+: bytes.drop i) (hi : i ≤ bytes.length) :
    marker <+: (bytes ++ more).drop i := by
  rw [List.drop_append_of_le_length hi]
  exact h.trans (List.prefix_append _ _)

/-- A marker in the whole that ends within the front part occurs there. -/
theorem prefix_drop_of_append (h : marker <+: (bytes ++ more).drop i)
    (hi : i + marker.length ≤ bytes.length) : marker <+: bytes.drop i := by
  rw [List.drop_append_of_le_length (by omega)] at h
  exact List.prefix_of_prefix_length_le h (List.prefix_append _ _) (by simp; omega)

theorem IsFirst.le (h : IsFirst marker bytes offset i) (hm : marker ≠ []) :
    i + marker.length ≤ bytes.length :=
  le_of_find? ((find?_eq_some_iff hm).mpr h)

/-- What is found in the front part is found in the whole. -/
theorem IsFirst.append (h : IsFirst marker bytes offset i) (hm : marker ≠ []) :
    IsFirst marker (bytes ++ more) offset i := by
  have hl := h.le hm
  refine ⟨h.from_offset, prefix_drop_append h.occurs (by omega), ?_⟩
  intro j hj hlt ho
  exact h.none_before j hj hlt (prefix_drop_of_append ho (by omega))

/-- What is found in the whole and ends within the front part is found there. -/
theorem IsFirst.of_append (h : IsFirst marker (bytes ++ more) offset i)
    (hi : i + marker.length ≤ bytes.length) : IsFirst marker bytes offset i := by
  refine ⟨h.from_offset, prefix_drop_of_append h.occurs hi, ?_⟩
  intro j hj hlt ho
  exact h.none_before j hj hlt (prefix_drop_append ho (by omega))

theorem find?_append (hm : marker ≠ []) (h : find? bytes marker offset = some i) :
    find? (bytes ++ more) marker offset = some i :=
  (find?_eq_some_iff hm).mpr ((find?_some hm h).append hm)

/-- After a search in vain, the search of more bytes may start where a marker could begin that the
first ones cut. -/
theorem find?_resume (hm : marker ≠ []) (h : find? bytes marker offset = none)
    (hle : offset ≤ bytes.length + 1 - marker.length) :
    find? (bytes ++ more) marker (bytes.length + 1 - marker.length) =
      find? (bytes ++ more) marker offset := by
  have hskip : ∀ j, offset ≤ j → j < bytes.length + 1 - marker.length →
      ¬ marker <+: (bytes ++ more).drop j :=
    fun j hj hlt ho => find?_none hm h hj (prefix_drop_of_append ho (by omega))
  cases hf : find? (bytes ++ more) marker offset with
  | none =>
    rw [find?_eq_none_iff hm] at hf ⊢
    exact fun j hj => hf j (Nat.le_trans hle hj)
  | some k =>
    rw [find?_eq_some_iff hm] at hf ⊢
    have hk : bytes.length + 1 - marker.length ≤ k :=
      Nat.le_of_not_lt fun hlt => hskip k hf.from_offset hlt hf.occurs
    exact ⟨hk, hf.occurs, fun j hj hlt => hf.none_before j (Nat.le_trans hle hj) hlt⟩

end FixedReply.Bytes
