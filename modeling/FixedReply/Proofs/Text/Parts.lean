import FixedReply.Text.Blank
import FixedReply.Text.Split

namespace FixedReply.Text

theorem joinWith_snoc {α : Type} (sep part : List α) {parts : List (List α)} (h : parts ≠ []) :
    joinWith sep (parts ++ [part]) = joinWith sep parts ++ sep ++ part := by
  induction parts with
  | nil => exact absurd rfl h
  | cons first rest ih =>
    rw [List.cons_append, joinWith_cons _ _ (by simp)]
    by_cases hr : rest = []
    · subst hr
      rfl
    · rw [ih hr, joinWith_cons _ _ hr]
      simp

theorem mem_joinWith {α : Type} {sep : List α} {parts : List (List α)} {c : α}
    (h : c ∈ joinWith sep parts) : c ∈ sep ∨ ∃ part ∈ parts, c ∈ part := by
  induction parts with
  | nil => cases h
  | cons part rest ih =>
    by_cases hr : rest = []
    · subst hr
      exact .inr ⟨part, List.mem_cons_self, h⟩
    · rw [joinWith_cons _ _ hr, List.mem_append, List.mem_append] at h
      rcases h with (hp | hs) | hrest
      · exact .inr ⟨part, List.mem_cons_self, hp⟩
      · exact .inl hs
      · rcases ih hrest with hs | ⟨other, ho, hc⟩
        · exact .inl hs
        · exact .inr ⟨other, List.mem_cons_of_mem _ ho, hc⟩

theorem mem_joinWith_of_mem {α : Type} {sep part : List α} {parts : List (List α)} {c : α}
    (hp : part ∈ parts) (hc : c ∈ part) : c ∈ joinWith sep parts := by
  induction parts with
  | nil => cases hp
  | cons first rest ih =>
    by_cases hr : rest = []
    · subst hr
      rwa [← List.mem_singleton.mp hp]
    · rw [joinWith_cons _ _ hr, List.mem_append, List.mem_append]
      rcases List.mem_cons.mp hp with rfl | hp
      · exact .inl (.inl hc)
      · exact .inr (ih hp)

/-- What ends a line may as well begin the next one. -/
theorem append_flatMap {α : Type} (first sep : List α) (parts : List (List α)) :
    first ++ sep ++ parts.flatMap (· ++ sep) = first ++ parts.flatMap (sep ++ ·) ++ sep := by
  induction parts generalizing first with
  | nil => simp
  | cons part rest ih =>
    have hrest := ih (first ++ sep ++ part)
    simpa using hrest

theorem map_joinWith {α β : Type} (f : α → β) (sep : List α) (parts : List (List α)) :
    (joinWith sep parts).map f = joinWith (sep.map f) (parts.map (List.map f)) := by
  induction parts with
  | nil => rfl
  | cons part rest ih =>
    by_cases hr : rest = []
    · subst hr
      rfl
    · rw [List.map_cons, joinWith_cons _ _ hr, joinWith_cons _ _ (by simpa using hr), ← ih]
      simp

section

variable {α : Type} [DecidableEq α] {sep c : α} {s part rest : List α}

theorem splitOn_go_append (h : sep ∉ part) (front : List α) :
    splitOn.go sep front (part ++ sep :: rest) = (front.reverse ++ part) :: splitOn sep rest := by
  induction part generalizing front with
  | nil => simp [splitOn.go, splitOn]
  | cons c part ih =>
    obtain ⟨hc, hp⟩ := not_or.mp (fun hm => h (List.mem_cons.mpr hm))
    rw [List.cons_append, splitOn.go, if_neg (fun he => hc he.symm), ih hp]
    simp

/-- The first part stands in front of the first separator. -/
theorem splitOn_append (h : sep ∉ part) :
    splitOn sep (part ++ sep :: rest) = part :: splitOn sep rest := by
  simp [splitOn, splitOn_go_append h]

theorem splitOn_go_self (h : sep ∉ s) (front : List α) :
    splitOn.go sep front s = [front.reverse ++ s] := by
  induction s generalizing front with
  | nil => simp [splitOn.go]
  | cons c s ih =>
    obtain ⟨hc, hs⟩ := not_or.mp (fun hm => h (List.mem_cons.mpr hm))
    rw [splitOn.go, if_neg (fun he => hc he.symm), ih hs]
    simp

theorem splitOn_self (h : sep ∉ s) : splitOn sep s = [s] := by
  simp [splitOn, splitOn_go_self h]

theorem mem_of_splitOn (hp : part ∈ splitOn sep s) (hc : c ∈ part) : c ∈ s := by
  have hgo : ∀ (s front : List α), part ∈ splitOn.go sep front s → c ∈ front ∨ c ∈ s := by
    intro s
    induction s with
    | nil =>
      intro front hp
      obtain rfl := List.mem_singleton.mp hp
      exact .inl (List.mem_reverse.mp hc)
    | cons d rest ih =>
      intro front hp
      simp only [splitOn.go] at hp
      split at hp
      · rcases List.mem_cons.mp hp with rfl | hp
        · exact .inl (List.mem_reverse.mp hc)
        · rcases ih [] hp with hf | hr
          · exact absurd hf List.not_mem_nil
          · exact .inr (List.mem_cons_of_mem _ hr)
      · rcases ih (d :: front) hp with hf | hr
        · rcases List.mem_cons.mp hf with rfl | hf
          · exact .inr List.mem_cons_self
          · exact .inl hf
        · exact .inr (List.mem_cons_of_mem _ hr)
  rcases hgo s [] hp with hf | hs
  · exact absurd hf List.not_mem_nil
  · exact hs

/-- No part holds the separator. -/
theorem not_mem_of_splitOn (hp : part ∈ splitOn sep s) : sep ∉ part := by
  have hgo : ∀ (s front : List α), sep ∉ front → part ∈ splitOn.go sep front s → sep ∉ part := by
    intro s
    induction s with
    | nil =>
      intro front hf hp
      obtain rfl := List.mem_singleton.mp hp
      exact fun hm => hf (List.mem_reverse.mp hm)
    | cons d rest ih =>
      intro front hf hp
      simp only [splitOn.go] at hp
      split at hp
      · rcases List.mem_cons.mp hp with rfl | hp
        · exact fun hm => hf (List.mem_reverse.mp hm)
        · exact ih [] List.not_mem_nil hp
      · rename_i hd
        refine ih (d :: front) (fun hm => ?_) hp
        rcases List.mem_cons.mp hm with rfl | hm
        · exact hd rfl
        · exact hf hm
  exact hgo s [] List.not_mem_nil hp

/-- The parts in front of a separator and those behind it are all parts. -/
theorem splitOn_sep (sep : α) (front back : List α) :
    splitOn sep (front ++ sep :: back) = splitOn sep front ++ splitOn sep back := by
  have hgo : ∀ front part : List α, splitOn.go sep part (front ++ sep :: back) =
      splitOn.go sep part front ++ splitOn sep back := by
    intro front
    induction front with
    | nil =>
      intro part
      simp [splitOn.go, splitOn]
    | cons c rest ih =>
      intro part
      rw [List.cons_append, splitOn.go, splitOn.go, ih, ih]
      split <;> rfl
  exact hgo front []

/-- A part holds no separator, and stands between two of them or at an end. -/
theorem mem_splitOn_iff : part ∈ splitOn sep s ↔ sep ∉ part ∧ ∃ before after,
    s = before ++ part ++ after ∧ (before = [] ∨ before.getLast? = some sep) ∧
      (after = [] ∨ after.head? = some sep) := by
  constructor
  · intro h
    refine ⟨not_mem_of_splitOn h, ?_⟩
    -- What stands behind the first separator is shorter.
    induction hn : s.length using Nat.strongRecOn generalizing s with
    | ind n ih =>
      subst hn
      by_cases hs : sep ∈ s
      · obtain ⟨first, rest, rfl, hf⟩ := List.eq_append_cons_of_mem hs
        rw [splitOn_append hf] at h
        rcases List.mem_cons.mp h with rfl | h
        · exact ⟨[], sep :: rest, rfl, .inl rfl, .inr rfl⟩
        · have hshort : rest.length < (first ++ sep :: rest).length := by
            rw [List.length_append, List.length_cons]
            omega
          obtain ⟨before, after, rfl, hb, ha⟩ := ih _ hshort h rfl
          refine ⟨first ++ sep :: before, after, by simp, .inr ?_, ha⟩
          rcases hb with rfl | hb
          · exact List.getLast?_concat
          · rw [List.getLast?_append, List.getLast?_cons, hb]
            rfl
      · rw [splitOn_self hs, List.mem_singleton] at h
        subst h
        exact ⟨[], [], by simp, .inl rfl, .inl rfl⟩
  · intro h
    obtain ⟨hp, before, after, rfl, hb, ha⟩ := h
    have hlast : part ∈ splitOn sep (part ++ after) := by
      rcases ha with rfl | ha
      · rw [List.append_nil, splitOn_self hp]
        exact List.mem_singleton.mpr rfl
      · obtain ⟨rest, rfl⟩ := List.head?_eq_some_iff.mp ha
        rw [splitOn_append hp]
        exact List.mem_cons_self
    rcases hb with rfl | hb
    · exact hlast
    · obtain ⟨front, rfl⟩ := List.getLast?_eq_some_iff.mp hb
      rw [List.append_assoc, List.append_assoc, List.singleton_append, splitOn_sep]
      exact List.mem_append_right _ hlast

/-- A change of characters that makes and unmakes no separator changes the parts. -/
theorem splitOn_map {f : α → α} (hf : ∀ c ∈ s, f c = sep ↔ c = sep) :
    splitOn sep (s.map f) = (splitOn sep s).map (List.map f) := by
  have hgo : ∀ s part : List α, (∀ c ∈ s, f c = sep ↔ c = sep) →
      splitOn.go sep (part.map f) (s.map f) = (splitOn.go sep part s).map (List.map f) := by
    intro s
    induction s with
    | nil => simp [splitOn.go]
    | cons c rest ih =>
      intro part hs
      have hrest : ∀ d ∈ rest, f d = sep ↔ d = sep := fun d hd => hs d (List.mem_cons_of_mem _ hd)
      have hc := hs c List.mem_cons_self
      rw [List.map_cons, splitOn.go, splitOn.go]
      by_cases he : c = sep
      · rw [if_pos (hc.mpr he), if_pos he, List.map_cons, List.map_reverse, ← ih [] hrest]
        rfl
      · rw [if_neg (he ∘ hc.mp), if_neg he, ← List.map_cons, ih (c :: part) hrest]
  exact hgo s [] hf

theorem dropWhile_ne (h : sep ∉ part) :
    (part ++ sep :: rest).dropWhile (fun c => decide (c ≠ sep)) = sep :: rest := by
  rw [List.dropWhile_append_of_pos]
  · simp
  · intro c hc
    simpa using fun he : c = sep => h (he ▸ hc)

theorem cut_append (h : sep ∉ part) : cut sep (part ++ sep :: rest) = (part, some rest) := by
  unfold cut
  rw [dropWhile_ne h]
  have ht : (part ++ sep :: rest).takeWhile (fun c => decide (c ≠ sep)) = part := by
    rw [List.takeWhile_append_of_pos]
    · simp
    · intro c hc
      simpa using fun he : c = sep => h (he ▸ hc)
  rw [ht]

theorem cut_eq_some {after : List α} : cut sep s = (part, some after) ↔
    s = part ++ sep :: after ∧ sep ∉ part := by
  constructor
  · intro h
    have hs := @List.takeWhile_append_dropWhile _ (fun c => decide (c ≠ sep)) s
    unfold cut at h
    cases hd : s.dropWhile (fun c => decide (c ≠ sep)) with
    | nil =>
      rw [hd] at h
      cases h
    | cons c rest =>
      have hc := List.head?_dropWhile_not (fun c => decide (c ≠ sep)) s
      rw [hd] at h hs hc
      cases h
      obtain rfl : c = sep := by simpa using hc
      refine ⟨hs.symm, fun hm => ?_⟩
      simpa using List.all_eq_true.mp List.all_takeWhile c hm
  · intro he
    obtain ⟨rfl, h⟩ := he
    exact cut_append h

theorem cut_self (h : sep ∉ s) : cut sep s = (s, none) := by
  unfold cut
  have hd : s.dropWhile (fun c => decide (c ≠ sep)) = [] := by
    rw [← List.append_nil s, List.dropWhile_append_of_pos]
    · rfl
    · intro c hc
      simpa using fun he : c = sep => h (he ▸ hc)
  rw [hd]

theorem cut_eq_none : cut sep s = (part, none) ↔ s = part ∧ sep ∉ part := by
  constructor
  · intro h
    unfold cut at h
    cases hd : s.dropWhile (fun c => decide (c ≠ sep)) with
    | nil =>
      rw [hd] at h
      cases h
      refine ⟨rfl, fun hm => ?_⟩
      have hs := @List.takeWhile_append_dropWhile _ (fun c => decide (c ≠ sep)) s
      rw [hd, List.append_nil] at hs
      rw [← hs] at hm
      simpa using List.all_eq_true.mp List.all_takeWhile sep hm
    | cons c rest =>
      rw [hd] at h
      cases h
  · intro he
    obtain ⟨rfl, h⟩ := he
    exact cut_self h

/-- The first part goes up to the separator, or to the end if there is none. -/
theorem cut_fst (sep : α) (s : List α) : (cut sep s).1 = s.takeWhile fun c => decide (c ≠ sep) := by
  have hs := @List.takeWhile_append_dropWhile _ (fun c => decide (c ≠ sep)) s
  unfold cut
  cases hd : s.dropWhile (fun c => decide (c ≠ sep)) with
  | nil =>
    rw [hd, List.append_nil] at hs
    exact hs.symm
  | cons c after => rfl

end

section

variable {α : Type} {p : α → Bool} {s : List α} {c : α}

theorem mem_of_trim (h : c ∈ trim p s) : c ∈ s := by
  rw [trim, List.mem_reverse] at h
  have hd := (List.dropWhile_sublist p).subset h
  rw [List.mem_reverse] at hd
  exact (List.dropWhile_sublist p).subset hd

theorem dropWhile_front {front : List α} (hf : ∀ c ∈ front, p c)
    (hs : ∀ c, s.head? = some c → p c = false) : (front ++ s).dropWhile p = s := by
  rw [List.dropWhile_append_of_pos hf]
  cases s with
  | nil => rfl
  | cons c rest => rw [List.dropWhile_cons, hs c rfl, if_neg Bool.false_ne_true]

/-- What is to be dropped is dropped up to what is not. -/
theorem trim_ends {before after : List α} (hb : ∀ c ∈ before, p c) (ha : ∀ c ∈ after, p c)
    (hh : ∀ c, s.head? = some c → p c = false) (hl : ∀ c, s.getLast? = some c → p c = false) :
    trim p (before ++ s ++ after) = s := by
  by_cases hs : s = []
  · subst hs
    have hall : ∀ c ∈ before ++ [] ++ after, p c := by
      simpa using List.forall_mem_append.mpr ⟨hb, ha⟩
    have hnone : (before ++ [] ++ after ++ []).dropWhile p = [] := dropWhile_front hall nofun
    rw [List.append_nil] at hnone
    rw [trim, hnone]
    rfl
  · have hfront : (before ++ s ++ after).dropWhile p = s ++ after := by
      rw [List.append_assoc]
      apply dropWhile_front hb
      intro c hc
      obtain ⟨d, rest, rfl⟩ := List.exists_cons_of_ne_nil hs
      exact hh c hc
    rw [trim, hfront, List.reverse_append, dropWhile_front, List.reverse_reverse]
    · exact fun c hc => ha c (List.mem_reverse.mp hc)
    · intro c hc
      rw [List.head?_reverse] at hc
      exact hl c hc

/-- What is to be dropped is dropped from both ends of what is not. -/
theorem trim_append {before after : List α} (hb : ∀ c ∈ before, p c) (ha : ∀ c ∈ after, p c)
    (h : ∀ c ∈ s, p c = false) : trim p (before ++ s ++ after) = s :=
  trim_ends hb ha (fun c hc => h c (List.mem_of_mem_head? hc))
    fun c hc => h c (List.mem_of_mem_getLast? hc)

theorem trim_self (h : ∀ c ∈ s, p c = false) : trim p s = s := by
  have hends : trim p ([] ++ s ++ []) = s := trim_append nofun nofun h
  rwa [List.nil_append, List.append_nil] at hends

/-- What is trimmed had something at its ends that was to be dropped. -/
theorem exists_trim (p : α → Bool) (s : List α) :
    ∃ before after, s = before ++ trim p s ++ after ∧ ∀ c ∈ before ++ after, p c := by
  refine ⟨s.takeWhile p, ((s.dropWhile p).reverse.takeWhile p).reverse, ?_, fun c hc => ?_⟩
  · rw [trim, List.append_assoc, ← List.reverse_append, List.takeWhile_append_dropWhile,
      List.reverse_reverse, List.takeWhile_append_dropWhile]
  · rw [List.mem_append, List.mem_reverse] at hc
    rcases hc with hc | hc <;> exact List.all_eq_true.mp List.all_takeWhile c hc

/-- What is trimmed begins and ends with nothing that is to be dropped. -/
theorem ends_trim (p : α → Bool) (s : List α) :
    (∀ c, (trim p s).head? = some c → p c = false) ∧
      ∀ c, (trim p s).getLast? = some c → p c = false := by
  have hdropped : ∀ {s : List α} {c : α}, (s.dropWhile p).head? = some c → p c = false := by
    intro s c hc
    have hnot := List.head?_dropWhile_not p s
    rw [hc] at hnot
    exact hnot
  constructor
  · intro c hc
    -- Nothing is dropped from the back before all is dropped but what comes first.
    have hfirst : trim p s <+: s.dropWhile p := by
      rw [trim, ← List.reverse_reverse (s.dropWhile p), List.reverse_prefix, List.reverse_reverse]
      exact List.dropWhile_suffix p
    obtain ⟨after, ha⟩ := hfirst
    obtain ⟨rest, hr⟩ := List.head?_eq_some_iff.mp hc
    refine hdropped (s := s) ?_
    rw [← ha, hr]
    rfl
  · intro c hc
    rw [trim, List.getLast?_reverse] at hc
    exact hdropped hc

theorem trim_map {f : α → α} (hf : ∀ c ∈ s, p (f c) = p c) : trim p (s.map f) = (trim p s).map f := by
  obtain ⟨before, after, hs, hdropped⟩ := exists_trim p s
  obtain ⟨hhead, hlast⟩ := ends_trim p s
  have hends : ∀ c ∈ before ++ after, p (f c) := by
    intro c hc
    have hm : c ∈ s := by
      rw [hs]
      rcases List.mem_append.mp hc with hc | hc <;> simp [hc]
    rw [hf c hm]
    exact hdropped c hc
  have hkept : ∀ c ∈ trim p s, p c = false → p (f c) = false :=
    fun c hc hp => (hf c (mem_of_trim hc)).trans hp
  have hmapped : s.map f = before.map f ++ (trim p s).map f ++ after.map f := by
    rw [← List.map_append, ← List.map_append, ← hs]
  rw [hmapped]
  refine trim_ends ?_ ?_ ?_ ?_
  · exact List.forall_mem_map.mpr fun c hc => hends c (List.mem_append_left _ hc)
  · exact List.forall_mem_map.mpr fun c hc => hends c (List.mem_append_right _ hc)
  · intro c hc
    rw [List.head?_map] at hc
    obtain ⟨d, hd, rfl⟩ := Option.map_eq_some_iff.mp hc
    exact hkept d (List.mem_of_mem_head? hd) (hhead d hd)
  · intro c hc
    rw [List.getLast?_map] at hc
    obtain ⟨d, hd, rfl⟩ := Option.map_eq_some_iff.mp hc
    exact hkept d (List.mem_of_mem_getLast? hd) (hlast d hd)

/-- What is not to be dropped stays. -/
theorem mem_trim (h : c ∈ s) (hp : p c = false) : c ∈ trim p s := by
  have hdrop : ∀ {s : List α}, c ∈ s → c ∈ s.dropWhile p := by
    intro s hm
    rw [← @List.takeWhile_append_dropWhile _ p s, List.mem_append] at hm
    apply hm.resolve_left
    intro ht
    rw [List.all_eq_true.mp List.all_takeWhile c ht] at hp
    cases hp
  rw [trim, List.mem_reverse]
  exact hdrop (List.mem_reverse.mpr (hdrop h))

end

section

variable {line rest : List Char}

theorem mem_of_lines {s : List Char} {c : Char} (h : line ∈ lines s) (hc : c ∈ line) : c ∈ s := by
  have hgo : ∀ (front s : List Char), line ∈ lines.go front s → c ∈ front ∨ c ∈ s := by
    intro front s
    fun_induction lines.go front s with
    | case1 front =>
      intro h
      obtain rfl := List.mem_singleton.mp h
      exact .inl (List.mem_reverse.mp hc)
    | case2 front rest ih =>
      intro h
      rcases List.mem_cons.mp h with rfl | h
      · exact .inl (List.mem_reverse.mp hc)
      · have hr : c ∈ rest := (ih h).resolve_left List.not_mem_nil
        exact .inr (List.mem_cons_of_mem _ (List.mem_cons_of_mem _ hr))
    | case3 front d rest _ ih =>
      intro h
      rcases ih h with hf | hr
      · rcases List.mem_cons.mp hf with rfl | hf
        · exact .inr List.mem_cons_self
        · exact .inl hf
      · exact .inr (List.mem_cons_of_mem _ hr)
  exact (hgo [] s h).resolve_left List.not_mem_nil

def IsLine (s : List Char) : Prop := ¬ ['\r', '\n'] <:+: s

theorem isLine_of_not_mem (h : '\r' ∉ line) : IsLine line :=
  fun hi => h (hi.subset List.mem_cons_self)

theorem IsLine.of_cons {c : Char} (h : IsLine (c :: line)) : IsLine line :=
  fun hi => h (hi.trans (List.suffix_cons c line).isInfix)

/-- A character in front of a line makes a line, unless the two begin with a line end. -/
theorem IsLine.cons {c : Char} (h : IsLine line) (hc : ¬ ['\r', '\n'] <+: c :: line) :
    IsLine (c :: line) := by
  intro hi
  rcases List.infix_cons_iff.mp hi with hp | hi
  · exact hc hp
  · exact h hi

theorem IsLine.of_infix {part : List Char} (h : IsLine line) (hp : part <:+: line) : IsLine part :=
  fun hi => h (hi.trans hp)

/-- A line may follow any text that does not end with half of a line end. -/
theorem IsLine.append {front : List Char} (h : IsLine line) (hf : '\r' ∉ front) :
    IsLine (front ++ line) := by
  induction front with
  | nil => exact h
  | cons c front ih =>
    obtain ⟨hc, hrest⟩ := not_or.mp (fun hm => hf (List.mem_cons.mpr hm))
    refine (ih hrest).cons fun hp => hc ?_
    exact (List.cons_prefix_cons.mp hp).1

/-- No line end arises where a character stands between two lines that is no part of one. -/
theorem IsLine.append_cons {c : Char} (hl : IsLine line) (hr : IsLine rest) (hcr : c ≠ '\r')
    (hlf : c ≠ '\n') : IsLine (line ++ c :: rest) := by
  induction line with
  | nil => exact hr.cons fun hp => hcr (List.cons_prefix_cons.mp hp).1.symm
  | cons d line ih =>
    refine (ih hl.of_cons).cons fun hp => ?_
    obtain ⟨rfl, hn⟩ := List.cons_prefix_cons.mp hp
    cases line with
    | nil => exact hlf (List.cons_prefix_cons.mp hn).1.symm
    | cons e line =>
      obtain ⟨rfl, -⟩ := List.cons_prefix_cons.mp hn
      exact hl (List.prefix_append ['\r', '\n'] line).isInfix

theorem lines_go_append (h : IsLine line) (front : List Char) :
    lines.go front (line ++ '\r' :: '\n' :: rest) = (front.reverse ++ line) :: lines rest := by
  induction line generalizing front with
  | nil => simp [lines.go, lines]
  | cons c line ih =>
    rw [List.cons_append, lines.go, ih h.of_cons]
    · simp
    · intro after hc he
      subst hc
      cases line with
      | nil => cases he
      | cons d line =>
        cases he
        exact h (List.prefix_append ['\r', '\n'] line).isInfix

/-- The first line stands in front of the first line end. -/
theorem lines_append (h : IsLine line) :
    lines (line ++ '\r' :: '\n' :: rest) = line :: lines rest := by
  simp [lines, lines_go_append h]

theorem lines_self (h : IsLine line) : lines line = [line] := by
  have hgo : ∀ (s front : List Char), IsLine s → lines.go front s = [front.reverse ++ s] := by
    intro s
    induction s with
    | nil => simp [lines.go]
    | cons c s ih =>
      intro front hs
      rw [lines.go, ih _ hs.of_cons]
      · simp
      · intro after hc he
        subst hc he
        exact hs (List.prefix_append ['\r', '\n'] after).isInfix
  simp [lines, hgo line [] h]

/-- A text is a line, or it begins with one that a line end follows. -/
theorem isLine_or_append (s : List Char) :
    IsLine s ∨ ∃ line rest, s = line ++ '\r' :: '\n' :: rest ∧ IsLine line := by
  induction s with
  | nil => exact .inl (isLine_of_not_mem List.not_mem_nil)
  | cons c s ih =>
    by_cases hp : ['\r', '\n'] <+: c :: s
    · obtain ⟨rest, he⟩ := hp
      exact .inr ⟨[], rest, he.symm, isLine_of_not_mem List.not_mem_nil⟩
    · rcases ih with hs | ⟨line, rest, rfl, hl⟩
      · exact .inl (hs.cons hp)
      · refine .inr ⟨c :: line, rest, rfl, hl.cons fun hc => hp ?_⟩
        exact hc.trans (List.prefix_append (c :: line) _)

/-- Lines are what a text is cut into if the text is the lines with line ends between them. -/
theorem lines_eq_iff {s : List Char} {parts : List (List Char)} : lines s = parts ↔
    parts ≠ [] ∧ joinWith ['\r', '\n'] parts = s ∧ ∀ part ∈ parts, IsLine part := by
  have hjoin : ∀ {parts : List (List Char)}, parts ≠ [] → (∀ part ∈ parts, IsLine part) →
      lines (joinWith ['\r', '\n'] parts) = parts := by
    intro parts hne hl
    induction parts with
    | nil => exact absurd rfl hne
    | cons part others ih =>
      have hpart := hl part List.mem_cons_self
      by_cases ho : others = []
      · subst ho
        exact lines_self hpart
      · rw [joinWith_cons _ _ ho, List.append_assoc]
        exact (lines_append hpart).trans
          (congrArg _ (ih ho fun other hm => hl other (List.mem_cons_of_mem _ hm)))
  have hcut : ∀ s : List Char, ∃ parts, parts ≠ [] ∧ joinWith ['\r', '\n'] parts = s ∧
      ∀ part ∈ parts, IsLine part := by
    intro s
    induction hn : s.length using Nat.strongRecOn generalizing s with
    | ind n ih =>
      rcases isLine_or_append s with hs | ⟨line, rest, rfl, hl⟩
      · exact ⟨[s], by simp, rfl, by simpa using hs⟩
      · obtain ⟨parts, hne, rfl, hp⟩ := ih rest.length (by simp [← hn]; omega) rest rfl
        refine ⟨line :: parts, by simp, ?_, List.forall_mem_cons.mpr ⟨hl, hp⟩⟩
        rw [joinWith_cons _ _ hne, List.append_assoc]
        rfl
  constructor
  · intro h
    obtain ⟨others, hne, hj, hl⟩ := hcut s
    obtain rfl : parts = others := by rw [← h, ← hj, hjoin hne hl]
    exact ⟨hne, hj, hl⟩
  · intro he
    obtain ⟨hne, rfl, hl⟩ := he
    exact hjoin hne hl

theorem isLine_of_mem_lines {s : List Char} (h : line ∈ lines s) : IsLine line :=
  (lines_eq_iff.mp rfl).2.2 line h

/-- Text that ends lines with a carriage return and a line feed is cut into these lines. -/
theorem lines_flatMap {first : List Char} {parts : List (List Char)} (hf : IsLine first)
    (hp : ∀ part ∈ parts, IsLine part) :
    lines (first ++ parts.flatMap fun part => '\r' :: '\n' :: part) = first :: parts := by
  induction parts generalizing first with
  | nil => simpa using lines_self hf
  | cons part rest ih =>
    rw [List.flatMap_cons, List.cons_append, List.cons_append, lines_append hf,
      ih (hp part List.mem_cons_self) fun q hq => hp q (List.mem_cons_of_mem _ hq)]

end

end FixedReply.Text
