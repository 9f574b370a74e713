import FixedReply.Proofs.Text.Parts
import FixedReply.Wire.Chunked
import Mathlib.Data.List.Forall2
import Mathlib.Data.Nat.Digits.Defs

namespace FixedReply.Wire

variable {pad : UInt8 → Bool} {size value : Nat} {b : UInt8} {digits : Bytes}

def isPadding (b : UInt8) : Bool := b == 32 || b == 9

def isBlank (b : UInt8) : Bool := Text.isAsciiBlank b.toNat

theorem isBlank_of_isPadding (h : isPadding b) : isBlank b := by
  rcases (Bool.or_eq_true _ _).mp h with h | h
  all_goals
    rw [beq_iff_eq] at h
    subst h
    rfl

def IsDigit (value : Nat) (b : UInt8) : Prop :=
  (Bytes.ofString "0123456789ABCDEF")[value]? = some b ∨
    (Bytes.ofString "0123456789abcdef")[value]? = some b

def Denotes (digits : Bytes) (n : Nat) : Prop :=
  ∃ values, List.Forall₂ IsDigit values digits ∧ n = Nat.ofDigits 16 values.reverse

theorem isDigit_iff : IsDigit value b ↔ isHexByte b ∧ hexValue b = value := by
  have hread : ∀ v < 16, ∀ digits ∈ [Bytes.ofString "0123456789ABCDEF",
      Bytes.ofString "0123456789abcdef"], ∀ b ∈ digits[v]?, isHexByte b ∧ hexValue b = v := by
    decide +kernel
  have hwrite : ∀ n < 256, isHexByte n.toUInt8 → IsDigit (hexValue n.toUInt8) n.toUInt8 := by
    unfold IsDigit
    decide +kernel
  constructor
  · intro h
    rcases h with h | h
    all_goals
      have hv : value < 16 := (List.getElem?_eq_some_iff.mp h).1
      exact hread value hv _ (by simp) b h
  · intro he
    obtain ⟨hb, rfl⟩ := he
    have hn := hwrite b.toNat b.toNat_lt_size
    simp at hn
    exact hn hb

theorem not_isBlank_of_isHexByte (h : isHexByte b) : isBlank b = false ∧ b ≠ 59 := by
  have hall : ∀ n < 256, isHexByte n.toUInt8 → isBlank n.toUInt8 = false ∧ n.toUInt8 ≠ 59 := by
    decide +kernel
  have hb := hall b.toNat b.toNat_lt_size
  simp at hb
  exact hb h

/-- The number that digits denote is the one that is read off them. -/
theorem denotes_iff {n : Nat} : Denotes digits n ↔
    (∀ b ∈ digits, isHexByte b) ∧ digits.foldl (fun n b => 16 * n + hexValue b) 0 = n := by
  have hvalues : ∀ values, List.Forall₂ IsDigit values digits ↔
      values = digits.map hexValue ∧ ∀ b ∈ digits, isHexByte b := by
    intro values
    induction digits generalizing values with
    | nil => simp [List.forall₂_nil_right_iff]
    | cons b digits ih =>
      cases values with
      | nil => simp [List.forall₂_nil_left_iff]
      | cons value values =>
        simp only [List.forall₂_cons, isDigit_iff, ih, List.map_cons, List.cons.injEq,
          List.forall_mem_cons]
        grind
  have hfold : Nat.ofDigits 16 (digits.map hexValue).reverse =
      digits.foldl (fun n b => 16 * n + hexValue b) 0 := by
    rw [Nat.ofDigits_eq_foldr, List.foldr_reverse, List.foldl_map]
    simp only [Nat.cast_id, Nat.add_comm]
  constructor
  · intro he
    obtain ⟨values, hv, rfl⟩ := he
    obtain ⟨rfl, hd⟩ := (hvalues values).mp hv
    exact ⟨hd, hfold.symm⟩
  · intro he
    obtain ⟨hd, rfl⟩ := he
    exact ⟨digits.map hexValue, (hvalues _).mpr ⟨rfl, hd⟩, hfold.symm⟩

/-- A line with a size: its digits with padding of this sort around them, and an extension if there is
one. -/
structure Spelling (pad : UInt8 → Bool) (size : Nat) where
  before : Bytes
  digits : Bytes
  after : Bytes
  extension : Option Bytes
  nonempty : digits ≠ []
  denotes : Denotes digits size
  padded : ∀ b ∈ before ++ after, pad b

namespace Spelling

def field (spelling : Spelling pad size) : Bytes :=
  spelling.before ++ spelling.digits ++ spelling.after

def line (spelling : Spelling pad size) : Bytes :=
  match spelling.extension with
  | none => spelling.field
  | some text => spelling.field ++ 59 :: text

def loosen {pad pad' : UInt8 → Bool} (h : ∀ b, pad b → pad' b) (spelling : Spelling pad size) :
    Spelling pad' size :=
  { spelling with padded := fun b hb => h b (spelling.padded b hb) }

def nought : Spelling pad 0 where
  before := []
  digits := Bytes.ofString "0"
  after := []
  extension := none
  nonempty := by decide
  denotes := denotes_iff.mpr ⟨by decide +kernel, by decide⟩
  padded := nofun

theorem mem_field (spelling : Spelling pad size) :
    b ∈ spelling.field ↔ b ∈ spelling.before ++ spelling.after ∨ b ∈ spelling.digits := by
  simp only [field, List.mem_append]
  exact or_right_comm

theorem not_blank (spelling : Spelling pad size) : ∀ b ∈ spelling.digits, isBlank b = false :=
  fun _ hb => (not_isBlank_of_isHexByte ((denotes_iff.mp spelling.denotes).1 _ hb)).1

variable (spelling : Spelling isBlank size)

theorem semicolon_not_mem : 59 ∉ spelling.field := by
  intro hm
  rcases spelling.mem_field.mp hm with hm | hm
  · exact absurd (spelling.padded 59 hm) (by decide)
  · exact (not_isBlank_of_isHexByte ((denotes_iff.mp spelling.denotes).1 _ hm)).2 rfl

theorem takeWhile_line : spelling.line.takeWhile (· ≠ 59) = spelling.field := by
  have hcut := Text.cut_fst 59 spelling.line
  rw [← hcut, line]
  split
  · rw [Text.cut_self spelling.semicolon_not_mem]
  · rw [Text.cut_append spelling.semicolon_not_mem]

theorem trim_field : Text.trim isBlank spelling.field = spelling.digits := by
  obtain ⟨hb, ha⟩ := List.forall_mem_append.mp spelling.padded
  exact Text.trim_append hb ha spelling.not_blank

end Spelling

/-- What is read as a size are the digits that are left without the white space around them. -/
theorem chunkSize?_eq_some {text : Bytes} : chunkSize? text = some size ↔
    Text.trim isBlank (text.takeWhile (· ≠ 59)) ≠ [] ∧
      Denotes (Text.trim isBlank (text.takeWhile (· ≠ 59))) size := by
  have hread : chunkSize? text =
      if !(Text.trim isBlank (text.takeWhile (· ≠ 59))).isEmpty &&
          (Text.trim isBlank (text.takeWhile (· ≠ 59))).all isHexByte then
        some ((Text.trim isBlank (text.takeWhile (· ≠ 59))).foldl (fun n b => 16 * n + hexValue b) 0)
      else none := rfl
  rw [hread, denotes_iff]
  generalize Text.trim isBlank (text.takeWhile (· ≠ 59)) = digits
  by_cases hd : digits.all isHexByte
  · by_cases hn : digits = []
    · simp [hn]
    · have hall : ∀ b ∈ digits, isHexByte b := List.all_eq_true.mp hd
      rw [if_pos (by simp [hn, hd]), Option.some.injEq]
      exact ⟨fun h => ⟨hn, hall, h⟩, fun h => h.2.2⟩
  · have hnone : ¬ ∀ b ∈ digits, isHexByte b := fun h => hd (List.all_eq_true.mpr h)
    simp [hd, hnone]

/-- A line is read as a size exactly if it is a spelling of it, with white space for its padding. -/
theorem chunkSize?_iff {text : Bytes} : chunkSize? text = some size ↔
    ∃ spelling : Spelling isBlank size, spelling.line = text := by
  rw [chunkSize?_eq_some]
  constructor
  · intro he
    obtain ⟨hn, hd⟩ := he
    obtain ⟨before, after, hf, hp⟩ := Text.exists_trim isBlank (text.takeWhile (· ≠ 59))
    rcases hc : Text.cut 59 text with ⟨front, extension⟩
    have hfront : text.takeWhile (· ≠ 59) = front := by rw [← Text.cut_fst, hc]
    refine ⟨⟨before, _, after, extension, hn, hd, hp⟩, ?_⟩
    cases extension with
    | none => exact hf.symm.trans (hfront.trans (Text.cut_eq_none.mp hc).1.symm)
    | some extension =>
      obtain ⟨he, -⟩ := Text.cut_eq_some.mp hc
      have hline : text = text.takeWhile (· ≠ 59) ++ 59 :: extension := by rw [hfront, ← he]
      exact (congrArg (· ++ 59 :: extension) hf.symm).trans hline.symm
  · intro he
    obtain ⟨spelling, rfl⟩ := he
    rw [spelling.takeWhile_line, spelling.trim_field]
    exact ⟨spelling.nonempty, spelling.denotes⟩

/-- A line that spells a size is read as it. -/
theorem Spelling.read (hp : ∀ b, pad b → isBlank b) (spelling : Spelling pad size) :
    chunkSize? spelling.line = some size :=
  chunkSize?_iff.mpr ⟨spelling.loosen hp, rfl⟩

/-- With spaces and tabs only, a size is spelled exactly if it is read as one and no other white space
stands in front of its extension. -/
theorem exists_padded_iff {text : Bytes} :
    (∃ spelling : Spelling isPadding size, spelling.line = text) ↔
      chunkSize? text = some size ∧ ∀ b ∈ text.takeWhile (· ≠ 59), isBlank b → isPadding b := by
  constructor
  · intro he
    obtain ⟨spelling, rfl⟩ := he
    have hline : spelling.line.takeWhile (· ≠ 59) = spelling.field :=
      (spelling.loosen fun _ => isBlank_of_isPadding).takeWhile_line
    refine ⟨chunkSize?_iff.mpr ⟨spelling.loosen fun _ => isBlank_of_isPadding, rfl⟩, ?_⟩
    intro b hb hblank
    rw [hline] at hb
    rcases spelling.mem_field.mp hb with hb | hb
    · exact spelling.padded b hb
    · rw [spelling.not_blank b hb] at hblank
      cases hblank
  · intro he
    obtain ⟨hs, hp⟩ := he
    obtain ⟨spelling, rfl⟩ := chunkSize?_iff.mp hs
    rw [spelling.takeWhile_line] at hp
    have hpad : ∀ b ∈ spelling.before ++ spelling.after, isPadding b :=
      fun b hb => hp b (spelling.mem_field.mpr (.inl hb)) (spelling.padded b hb)
    exact ⟨{ spelling with padded := hpad }, rfl⟩

end FixedReply.Wire
