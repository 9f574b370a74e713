import FixedReply.Http.Framing
import FixedReply.Proofs.Http.Authority
import FixedReply.Proofs.Http.HeadFields
import FixedReply.Proofs.Http.Paths

namespace FixedReply.Http

/-- What reading comes to: a fault without an answer exactly if the text is astray. -/
inductive Judged {α : Type} (astray : Prop) : Except Fault α → Prop
  | read {a : α} (h : ¬ astray) : Judged astray (.ok a)
  | refused {why : Refusal} (h : ¬ astray)
      (hs : why.problem.status = 400 ∨ why.problem.status = 505) : Judged astray (.error (.refused why))
  | unanswered {why : AuthorityFault} (h : astray) : Judged astray (.error (.badAuthority why))

namespace Target

def authority (s : List Char) : List Char :=
  (s.filter fun c => !(c == '\t' || c == '\r' || c == '\n')).takeWhile (!endsAuthority ·)

/-- An absolute target with an authority that is not let through. -/
inductive Astray : List Char → Prop
  | http {rest : List Char} (h : ¬ Admissible (authority rest)) : Astray ("http://".toList ++ rest)
  | https {rest : List Char} (h : ¬ Admissible (authority rest)) : Astray ("https://".toList ++ rest)

variable {s rest : List Char}

theorem astray_iff : Astray s ↔ ∃ rest, afterScheme? s = some rest ∧ ¬ Admissible (authority rest) := by
  constructor
  · intro h
    cases h with
    | http h => exact ⟨_, afterScheme?_eq_some.mpr (.inl rfl), h⟩
    | https h => exact ⟨_, afterScheme?_eq_some.mpr (.inr rfl), h⟩
  · intro he
    obtain ⟨rest, hs, h⟩ := he
    rcases afterScheme?_eq_some.mp hs with rfl | rfl
    · exact .http h
    · exact .https h

theorem judged_ofAbsolute (s : List Char) :
    Judged (¬ Admissible (authority s)) ((ofAbsolute s).mapError .badAuthority) := by
  have hc := @checkAuthority_eq_ok_iff (authority s)
  unfold ofAbsolute
  dsimp only
  rw [← authority]
  cases h : checkAuthority (authority s) with
  | error why => exact .unanswered fun ha => by cases (hc.mpr ha).symm.trans h
  | ok _ => exact .read (not_not_intro (hc.mp h))

/-- A target that is not absolute is no address, so that no authority is wrong in it. -/
theorem not_astray_of_rooted (h : s.head? = some '/' ∨ s = ['*']) : ¬ Astray s := by
  intro ha
  cases ha <;> simp at h

theorem judged_read (s : List Char) : Judged (Astray s) (read s) := by
  unfold read
  split
  · next hs => exact .read (not_astray_of_rooted (by simpa using hs))
  · split
    · next hn =>
      refine .refused (fun ha => ?_) (.inl rfl)
      obtain ⟨rest, hr, -⟩ := astray_iff.mp ha
      cases hn.symm.trans hr
    · next rest hr =>
      have hiff : Astray s ↔ ¬ Admissible (authority rest) := by
        simp [astray_iff, hr]
      rw [hiff]
      exact judged_ofAbsolute rest

end Target

namespace Head

inductive Misaddressed : List Char → Prop
  | intro {method target : List Char} {minor : Char} (hm : isToken method) (hs : ' ' ∉ target)
      (hd : minor.isDigit) (h : Target.Astray target) :
      Misaddressed (method ++ ' ' :: (target ++ ' ' :: ("HTTP/1.".toList ++ [minor])))

def MisaddressedHead (block : Bytes) : Prop :=
  ∃ line fields, linesOf block = line :: fields ∧ Misaddressed line

variable {s : List Char} {block : Bytes} {major minor : Char}

theorem versionDigits?_eq_some : versionDigits? s = some (major, minor) ↔
    s = ['H', 'T', 'T', 'P', '/', major, '.', minor] ∧ major.isDigit ∧ minor.isDigit := by
  unfold versionDigits?
  constructor
  · intro h
    split at h
    · split at h <;> cases h
      next hd => exact ⟨rfl, Bool.and_eq_true_iff.mp hd⟩
    · cases h
  · intro he
    obtain ⟨rfl, ha, hb⟩ := he
    simp [ha, hb]

/-- The three parts of a request line that is misaddressed. -/
theorem misaddressed_iff {line : List Char} : Misaddressed line ↔
    ∃ method target minor, Text.splitOn ' ' line = [method, target, "HTTP/1.".toList ++ [minor]] ∧
      isToken method ∧ minor.isDigit ∧ Target.Astray target := by
  constructor
  · intro h
    obtain ⟨hm, hs, hd, h⟩ := h
    rename_i method target minor
    have hmethod : ' ' ∉ method := by
      intro hmem
      simp only [isToken, Bool.and_eq_true, List.all_eq_true] at hm
      exact absurd (isTokenChar_range (hm.2 ' ' hmem)).1 (by decide)
    have hversion : ' ' ∉ "HTTP/1.".toList ++ [minor] := by
      intro hmem
      rcases List.mem_append.mp hmem with hmem | hmem
      · exact absurd hmem (by decide)
      · obtain rfl := List.mem_singleton.mp hmem
        exact absurd hd (by decide)
    refine ⟨method, target, minor, ?_, hm, hd, h⟩
    rw [Text.splitOn_append hmethod, Text.splitOn_append hs, Text.splitOn_self hversion]
  · intro he
    obtain ⟨method, target, minor, hs, hm, hd, h⟩ := he
    have hmem : target ∈ Text.splitOn ' ' line := by simp [hs]
    have hspace : ' ' ∉ target := Text.not_mem_of_splitOn hmem
    have hline := Text.joinWith_splitOn ' ' line
    rw [hs] at hline
    subst hline
    simpa [Text.joinWith] using Misaddressed.intro hm hspace hd h

theorem judged_readRequestLine (line : List Char) : Judged (Misaddressed line) (readRequestLine line) := by
  have hiff := @misaddressed_iff line
  unfold readRequestLine
  split
  · next method target version hs =>
    have hparts : Misaddressed line → isToken method ∧
        (∃ minor, versionDigits? version = some ('1', minor)) ∧ Target.Astray target := by
      intro h
      obtain ⟨_, _, minor, he, hm, hd, ha⟩ := hiff.mp h
      cases hs.symm.trans he
      exact ⟨hm, ⟨minor, versionDigits?_eq_some.mpr ⟨rfl, by decide, hd⟩⟩, ha⟩
    split
    · next hm =>
      refine .refused (fun h => ?_) (.inl rfl)
      simp [(hparts h).1] at hm
    · next hm =>
      split
      · next hv =>
        refine .refused (fun h => ?_) (.inl rfl)
        obtain ⟨-, ⟨minor, hd⟩, -⟩ := hparts h
        cases hv.symm.trans hd
      · next major minor hv =>
        split
        · next hmajor =>
          refine .refused (fun h => ?_) (.inr rfl)
          obtain ⟨-, ⟨minor, hd⟩, -⟩ := hparts h
          cases hv.symm.trans hd
          exact hmajor rfl
        · next hmajor =>
          obtain ⟨rfl, -, hd⟩ := versionDigits?_eq_some.mp hv
          have hone : major = '1' := Classical.byContradiction hmajor
          subst hone
          have htarget : Misaddressed line ↔ Target.Astray target :=
            ⟨fun h => (hparts h).2.2, fun h => hiff.mpr ⟨_, _, _, hs, by simpa using hm, hd, h⟩⟩
          rw [htarget]
          have hread := Target.judged_read target
          generalize Target.read target = result at hread
          cases hread with
          | read h => exact .read h
          | refused h hs => exact .refused h hs
          | unanswered h => exact .unanswered h
  · next hn =>
    refine .refused (fun h => ?_) (.inl rfl)
    obtain ⟨_, _, _, he, -⟩ := hiff.mp h
    exact hn _ _ _ he

theorem status_of_readField {line : List Char} {why : Refusal} (h : readField line = .error why) :
    why.problem.status = 400 := by
  unfold readField at h
  split at h
  · cases h
    rfl
  · split at h
    · split at h <;> cases h
      rfl
    · cases h
      rfl

theorem status_of_addField {headers : Fields} {name value : String} {why : Refusal}
    (h : addField headers name value = .error why) : why.problem.status = 400 := by
  unfold addField at h
  split at h
  · cases h
  · split at h
    · split at h <;> cases h
      rfl
    · cases h

theorem status_of_readFields {headers : Fields} {lines : List (List Char)} {why : Refusal}
    (h : readFields headers lines = .error why) : why.problem.status = 400 := by
  induction lines generalizing headers with
  | nil => cases h
  | cons line rest ih =>
    unfold readFields at h
    split at h
    · next hf =>
      cases h
      exact status_of_readField hf
    · split at h
      · next ha =>
        cases h
        exact status_of_addField ha
      · exact ih h

/-- A head is read or refused, unless its request line has a target that is astray. -/
theorem judged_read (block : Bytes) : Judged (MisaddressedHead block) (read block) := by
  unfold read
  split
  · next hl =>
    refine .refused (fun h => ?_) (.inl rfl)
    obtain ⟨_, _, he, -⟩ := h
    cases hl.symm.trans he
  · next hl =>
    refine .refused (fun h => ?_) (.inl rfl)
    obtain ⟨_, _, he, hm⟩ := h
    cases hl.symm.trans he
    obtain ⟨_, _, _, hs, -⟩ := misaddressed_iff.mp hm
    simp [Text.splitOn, Text.splitOn.go] at hs
  · next line fields hne hl =>
    have hiff : MisaddressedHead block ↔ Misaddressed line := by
      simp [MisaddressedHead, hl]
    rw [hiff]
    have hline := judged_readRequestLine line
    generalize readRequestLine line = result at hline
    cases hline with
    | refused h hs => exact .refused h hs
    | unanswered h => exact .unanswered h
    | @read request h =>
      dsimp only
      split
      · next hf => exact .refused h (.inl (status_of_readFields hf))
      · split
        · exact .refused h (.inl rfl)
        · exact .read h

end Head

def Fields.Overlong (headers : Fields) (count : Nat) : Prop :=
  headers.find? "transfer-encoding" = none ∧ ∃ length, headers.find? "content-length" = some length ∧
    (∀ c ∈ length.toList, c.isDigit) ∧ length.toList.length = count ∧ Text.digitLimit < count

namespace Framing

variable {headers : Fields} {length : String}

inductive Measured (headers : Fields) : Except Fault Framing → Prop
  | read {framing : Framing} (h : ∀ count, ¬ headers.Overlong count) : Measured headers (.ok framing)
  | refused {why : Refusal} (h : ∀ count, ¬ headers.Overlong count) :
      Measured headers (.error (.refused why))
  | overlong {count : Nat} (h : headers.Overlong count) : Measured headers (.error (.tooManyDigits count))

theorem measured_ofHeaders (headers : Fields) : Measured headers (ofHeaders headers) := by
  unfold ofHeaders
  split
  · next coding hc =>
    have hno : ∀ count, ¬ headers.Overlong count := fun count h => by cases hc.symm.trans h.1
    split
    · exact .refused hno
    · split
      · exact .refused hno
      · exact .read hno
  · next hc =>
    cases hl : headers.find? "content-length" with
    | none =>
      refine .read fun count h => ?_
      obtain ⟨-, length, he, -⟩ := h
      cases hl.symm.trans he
    | some length =>
      have hof : ∀ count, headers.Overlong count → (∀ c ∈ length.toList, c.isDigit) ∧
          Text.digitLimit < length.toList.length := by
        intro count h
        obtain ⟨-, _, he, hd, rfl, hn⟩ := h
        cases hl.symm.trans he
        exact ⟨hd, hn⟩
      simp only [Option.getD_some, readLength]
      by_cases hempty : length.toList.isEmpty
      · rw [if_pos hempty]
        refine .read fun count h => ?_
        have hn := (hof count h).2
        rw [List.isEmpty_iff.mp hempty] at hn
        exact absurd hn (Nat.not_lt_zero _)
      · by_cases hd : length.toList.all Char.isDigit
        · by_cases hn : Text.digitLimit < length.toList.length
          · rw [if_neg hempty, if_neg (by simp [hd]), if_pos hn]
            exact .overlong ⟨hc, length, hl, List.all_eq_true.mp hd, rfl, hn⟩
          · rw [if_neg hempty, if_neg (by simp [hd]), if_neg hn]
            exact .read fun count h => hn (hof count h).2
        · rw [if_neg hempty, if_pos (by simpa using hd)]
          exact .refused fun count h => hd (List.all_eq_true.mpr (hof count h).1)

end Framing

end FixedReply.Http
