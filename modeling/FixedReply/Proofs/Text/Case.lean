import FixedReply.Bytes
import FixedReply.Text.Case
import FixedReply.Text.Split

namespace FixedReply

def Below (limit : Nat) (s : List Char) : Prop := ∀ c ∈ s, c.toNat < limit

instance (limit : Nat) (s : List Char) : Decidable (Below limit s) :=
  List.decidableBAll _ s

theorem Below.mono {m n : Nat} {s : List Char} (h : Below m s) (hle : m ≤ n) : Below n s :=
  fun c hc => Nat.lt_of_lt_of_le (h c hc) hle

theorem below_append {n : Nat} {s t : List Char} : Below n (s ++ t) ↔ Below n s ∧ Below n t :=
  List.forall_mem_append

theorem Bytes.toText_ofText {s : List Char} (h : Below 256 s) : Bytes.toText (Bytes.ofText s) = s := by
  simp only [Bytes.toText, Bytes.ofText, List.map_map]
  conv => rhs; rw [← List.map_id s]
  apply List.map_congr_left
  intro c hc
  have hlt : c.toNat < 256 := h c hc
  apply Char.toNat_inj.mp
  calc (Char.ofUInt8 c.toNat.toUInt8).toNat
    _ = c.toNat.toUInt8.toNat := UInt8.toNat_toUInt32 _
    _ = c.toNat % 256 := UInt8.toNat_ofNat'
    _ = c.toNat := Nat.mod_eq_of_lt hlt

namespace Text

theorem below_joinWith {n : Nat} {sep : List Char} {parts : List (List Char)} (hs : Below n sep)
    (hp : ∀ part ∈ parts, Below n part) : Below n (joinWith sep parts) := by
  induction parts with
  | nil => exact fun _ hc => absurd hc List.not_mem_nil
  | cons part rest ih =>
    have hrest := ih fun q hq => hp q (List.mem_cons_of_mem _ hq)
    cases rest with
    | nil => exact hp part List.mem_cons_self
    | cons q rest =>
      rw [joinWith_cons _ _ (List.cons_ne_nil q rest)]
      exact below_append.mpr ⟨below_append.mpr ⟨hp part List.mem_cons_self, hs⟩, hrest⟩

theorem toNat_ofNat {n : Nat} (h : n < 0xd800) : (Char.ofNat n).toNat = n := by
  rw [Char.ofNat, dif_pos (.inl h)]
  rfl

/-- Runs that begin below a limit and have their images there lead nowhere else from there. -/
theorem runImage_lt {runs : List (Nat × Nat × Nat × Nat)} {limit n : Nat}
    (h : ∀ run ∈ runs, run.1 < limit → run.2.2.2 + (run.2.1 - run.1) < limit) (hn : n < limit) :
    runImage runs n < limit := by
  unfold runImage
  split
  · rename_i first last step image hf
    have hrun := h _ (List.mem_of_find?_eq_some hf)
    have hin := List.find?_some hf
    simp only [Bool.and_eq_true, decide_eq_true_eq] at hin hrun
    have := hrun (by omega)
    omega
  · exact hn

/-- The runs of the lower-case table that begin in Latin-1. -/
theorem lowerRuns_latin : ∀ run ∈ lowerRuns, run.1 < 256 →
    run = (65, 90, 1, 97) ∨ run = (192, 214, 1, 224) ∨ run = (216, 222, 1, 248) := by
  decide +kernel

theorem lowerRuns_ascii :
    ∀ run ∈ lowerRuns, run.1 < 128 → run.2.2.2 + (run.2.1 - run.1) < 128 := by
  intro run hm hr
  rcases lowerRuns_latin run hm (Nat.lt_trans hr (by decide)) with rfl | rfl | rfl
  · decide
  · exact absurd hr (by decide)
  · exact absurd hr (by decide)

/-- The one run of the title-case table that begins in ASCII. -/
theorem titleRuns_letters : titleRuns.filter (·.1 < 128) = [(97, 122, 1, 65)] := by
  decide +kernel

theorem mem_titleRuns {run : Nat × Nat × Nat × Nat} (h : run.1 < 128) :
    run ∈ titleRuns ↔ run = (97, 122, 1, 65) := by
  have hm : run ∈ titleRuns.filter (·.1 < 128) ↔ run ∈ titleRuns := by simp [h]
  rw [← hm, titleRuns_letters, List.mem_singleton]

theorem titleRuns_ascii :
    ∀ run ∈ titleRuns, run.1 < 128 → run.2.2.2 + (run.2.1 - run.1) < 128 := by
  intro run hm hr
  rw [(mem_titleRuns hr).mp hm]
  decide

/-- No character of ASCII has a title-case form of several letters. -/
theorem titleExpansions_beyond : ∀ e ∈ titleExpansions, 128 ≤ e.1 := by
  decide +kernel

theorem below_titleChar {c : Char} (h : c.toNat < 128) : Below 128 (titleChar c) := by
  unfold titleChar
  split
  · rename_i n image hf
    have hn := titleExpansions_beyond _ (List.mem_of_find?_eq_some hf)
    have he := List.find?_some hf
    simp only [beq_iff_eq] at he hn
    omega
  · intro d hd
    have hlt := runImage_lt titleRuns_ascii h
    rw [List.mem_singleton.mp hd, toNat_ofNat (by omega)]
    exact hlt

theorem below_lowerChar {c : Char} (h : c.toNat < 128) (before after : List Char) :
    Below 128 (lowerChar before c after) := by
  have hs : c ≠ capitalSigma := by
    intro he
    subst he
    exact absurd h (by decide)
  have hi : c.toNat ≠ 0x130 := by omega
  simp only [lowerChar, hs, hi, ↓reduceIte]
  intro d hd
  have hlt := runImage_lt lowerRuns_ascii h
  rw [List.mem_singleton.mp hd, toNat_ofNat (by omega)]
  exact hlt

theorem below_lowerAfter {s : List Char} (h : Below 128 s) (before : List Char) :
    Below 128 (lowerAfter before s) := by
  have hgo : ∀ (s before done : List Char), Below 128 s → Below 128 done →
      Below 128 (lowerAfter.go before done s) := by
    intro s
    induction s with
    | nil => exact fun _ done _ hd c hc => hd c (by simpa [lowerAfter.go] using hc)
    | cons c rest ih =>
      intro before done hs hd
      apply ih _ _ (fun d hm => hs d (List.mem_cons_of_mem _ hm))
      refine below_append.mpr ⟨fun d hm => ?_, hd⟩
      exact below_lowerChar (hs c List.mem_cons_self) before rest d (by simpa using hm)
  exact hgo s before [] h (fun _ hc => absurd hc List.not_mem_nil)

theorem below_capitalize {s : List Char} (h : Below 128 s) : Below 128 (capitalize s) := by
  cases s with
  | nil => exact h
  | cons c rest =>
    refine below_append.mpr ⟨?_, below_lowerAfter (fun d hd => h d (List.mem_cons_of_mem _ hd)) [c]⟩
    exact below_titleChar (h c List.mem_cons_self)

def lowered (c : Char) : Char := Char.ofNat (runImage lowerRuns c.toNat)

/-- What stands around a character of Latin-1 does not matter. -/
theorem lowerChar_latin {c : Char} (h : c.toNat < 256) (before after : List Char) :
    lowerChar before c after = [lowered c] := by
  have hs : c ≠ capitalSigma := by
    intro he
    subst he
    exact absurd h (by decide)
  have hi : c.toNat ≠ 0x130 := by omega
  simp only [lowerChar, hs, hi, ↓reduceIte, lowered]

theorem lowerAfter_latin {s : List Char} (h : Below 256 s) (before : List Char) :
    lowerAfter before s = s.map lowered := by
  have hgo : ∀ (s before done : List Char), Below 256 s →
      lowerAfter.go before done s = done.reverse ++ s.map lowered := by
    intro s
    induction s with
    | nil => simp [lowerAfter.go]
    | cons c rest ih =>
      intro before done hs
      have hrest : Below 256 rest := fun d hm => hs d (List.mem_cons_of_mem _ hm)
      rw [lowerAfter.go, lowerChar_latin (hs c List.mem_cons_self), ih _ _ hrest]
      simp
  exact hgo s before [] h

theorem lower_latin {s : List Char} (h : Below 256 s) : lower s = s.map lowered :=
  lowerAfter_latin h []

theorem toNat_toLower (c : Char) :
    c.toLower.toNat = if 65 ≤ c.toNat ∧ c.toNat ≤ 90 then c.toNat + 32 else c.toNat := by
  have hrange : (c.val ≥ 'A'.val ∧ c.val ≤ 'Z'.val) ↔ (65 ≤ c.toNat ∧ c.toNat ≤ 90) := by
    rw [ge_iff_le, UInt32.le_iff_toNat_le, UInt32.le_iff_toNat_le]
    exact Iff.rfl
  unfold Char.toLower
  by_cases h : 65 ≤ c.toNat ∧ c.toNat ≤ 90
  · rw [dif_pos (hrange.mpr h), if_pos h]
    have hadd : (c.val + ('a'.val - 'A'.val)).toNat = (c.toNat + 32) % 2 ^ 32 := UInt32.toNat_add _ _
    exact hadd.trans (Nat.mod_eq_of_lt (by omega))
  · rw [dif_neg (fun hc => h (hrange.mp hc)), if_neg h]

theorem toLower_lt {c : Char} (h : c.toNat < 128) : c.toLower.toNat < 128 := by
  rw [toNat_toLower]
  split <;> omega

/-- Below 256, lower-case forms are those of ASCII, or lie far beyond ASCII as what they are forms of. -/
theorem runImage_lowerRuns {n : Nat} (h : n < 256) :
    (runImage lowerRuns n = if 65 ≤ n ∧ n ≤ 90 then n + 32 else n) ∨
      192 ≤ n ∧ 192 ≤ runImage lowerRuns n ∧ runImage lowerRuns n < 256 := by
  unfold runImage
  split
  · rename_i first last step image hf
    have hin := List.find?_some hf
    simp only [Bool.and_eq_true, decide_eq_true_eq] at hin
    have hrun := lowerRuns_latin _ (List.mem_of_find?_eq_some hf) (by dsimp only; omega)
    rcases hrun with he | he | he <;> cases he
    · exact .inl (by rw [if_pos hin.1]; omega)
    · exact .inr (by omega)
    · exact .inr (by omega)
  · rename_i hf
    have hno := List.find?_eq_none.mp hf (65, 90, 1, 97) (List.mem_cons_self)
    simp only [Nat.mod_one, beq_self_eq_true, Bool.and_true, Bool.and_eq_true, decide_eq_true_eq]
      at hno
    exact .inl (if_neg hno).symm

theorem lowered_ascii {c : Char} (h : c.toNat < 128) : lowered c = c.toLower := by
  rcases runImage_lowerRuns (Nat.lt_trans h (by decide : 128 < 256)) with hr | ⟨hc, -⟩
  · rw [← Char.toNat_inj, toNat_toLower, lowered, hr, toNat_ofNat]
    split <;> omega
  · omega

/-- No character of Latin-1 has a lower-case form in ASCII but those of ASCII. -/
theorem lowered_beyond {c : Char} (h : c.toNat < 256) (hc : 128 ≤ c.toNat) :
    128 ≤ (lowered c).toNat ∧ 128 ≤ c.toLower.toNat := by
  have hascii : ¬ (65 ≤ c.toNat ∧ c.toNat ≤ 90) := by omega
  rw [toNat_toLower, if_neg hascii]
  refine ⟨?_, hc⟩
  rcases runImage_lowerRuns h with hr | ⟨-, hle, hlt⟩
  · rw [if_neg hascii] at hr
    rw [lowered, hr, Char.ofNat_toNat]
    exact hc
  · rw [lowered, toNat_ofNat (by omega)]
    exact Nat.le_trans (by decide) hle

theorem lower_ascii {s : List Char} (h : Below 128 s) : lower s = s.map Char.toLower := by
  rw [lower_latin (h.mono (by decide))]
  exact List.map_congr_left fun c hc => lowered_ascii (h c hc)

/-- Whether a text of Latin-1 is one of ASCII in another letter case is a matter of ASCII alone. -/
theorem lower_eq_iff {s t : List Char} (hs : Below 256 s) (ht : Below 128 t) :
    lower s = t ↔ s.map Char.toLower = t := by
  rw [lower_latin hs]
  have hsame : Below 128 s → s.map lowered = s.map Char.toLower :=
    fun h => List.map_congr_left fun c hc => lowered_ascii (h c hc)
  constructor
  · intro he
    subst he
    refine (hsame fun c hc => Nat.lt_of_not_le fun hle => ?_).symm
    exact absurd (ht _ (List.mem_map_of_mem hc)) (Nat.not_lt.mpr (lowered_beyond (hs c hc) hle).1)
  · intro he
    subst he
    refine hsame fun c hc => Nat.lt_of_not_le fun hle => ?_
    exact absurd (ht _ (List.mem_map_of_mem hc)) (Nat.not_lt.mpr (lowered_beyond (hs c hc) hle).2)

theorem toLower_toLower (c : Char) : c.toLower.toLower = c.toLower := by
  have hc := toNat_toLower c
  rw [← Char.toNat_inj, toNat_toLower c.toLower, if_neg]
  split at hc <;> omega

theorem runImage_titleRuns {n : Nat} (h : n < 128) :
    runImage titleRuns n = if 97 ≤ n ∧ n ≤ 122 then n - 32 else n := by
  unfold runImage
  split
  · rename_i first last step image hf
    have hin := List.find?_some hf
    simp only [Bool.and_eq_true, decide_eq_true_eq] at hin
    cases (mem_titleRuns (by dsimp only; omega)).mp (List.mem_of_find?_eq_some hf)
    rw [if_pos hin.1]
    omega
  · rename_i hf
    have hno := List.find?_eq_none.mp hf (97, 122, 1, 65) ((mem_titleRuns (by decide)).mpr rfl)
    simp only [Nat.mod_one, beq_self_eq_true, Bool.and_true, Bool.and_eq_true, decide_eq_true_eq]
      at hno
    rw [if_neg hno]

theorem titleChar_eq {c : Char} (h : c.toNat < 128) :
    titleChar c = [Char.ofNat (runImage titleRuns c.toNat)] := by
  have hnone : titleExpansions.find? (fun e => e.1 == c.toNat) = none := by
    refine List.find?_eq_none.mpr fun e he hc => ?_
    have := titleExpansions_beyond e he
    have := beq_iff_eq.mp hc
    omega
  rw [titleChar, hnone]

/-- In ASCII the title-case form of a letter is the same letter. -/
theorem titleChar_ascii {c : Char} (h : c.toNat < 128) :
    ∃ d, titleChar c = [d] ∧ d.toLower = c.toLower := by
  refine ⟨_, titleChar_eq h, ?_⟩
  have hlt := runImage_lt titleRuns_ascii h
  rw [← Char.toNat_inj, toNat_toLower, toNat_toLower c, toNat_ofNat (by omega), runImage_titleRuns h]
  by_cases hc : 97 ≤ c.toNat ∧ c.toNat ≤ 122
  · rw [if_pos hc, if_pos (by omega), if_neg (by omega)]
    omega
  · rw [if_neg hc]

theorem capitalize_ascii {s : List Char} (h : Below 128 s) :
    (capitalize s).map Char.toLower = s.map Char.toLower := by
  cases s with
  | nil => rfl
  | cons c rest =>
    obtain ⟨d, hd, hlow⟩ := titleChar_ascii (h c List.mem_cons_self)
    have hrest : Below 128 rest := fun d hm => h d (List.mem_cons_of_mem _ hm)
    have hafter : (lowerAfter [c] rest).map Char.toLower = rest.map Char.toLower := by
      rw [lowerAfter_latin (hrest.mono (by decide)), List.map_map]
      refine List.map_congr_left fun d hm => ?_
      rw [Function.comp_apply, lowered_ascii (hrest d hm), toLower_toLower]
    rw [capitalize, hd, List.map_append, hafter, List.map_singleton, hlow]
    rfl

end Text

end FixedReply
