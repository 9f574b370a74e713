import FixedReply.Text.Numeral
import Mathlib.Data.Nat.Digits.Defs

namespace FixedReply.Text

theorem forall_of_mapM {α β : Type} {f : α → Option β} {p : β → Prop} (hp : ∀ a b, f a = some b → p b)
    {xs : List α} {ys : List β} (h : xs.mapM f = some ys) : ∀ y ∈ ys, p y := by
  induction xs generalizing ys with
  | nil =>
    cases h
    exact nofun
  | cons x xs ih =>
    rw [List.mapM_cons] at h
    obtain ⟨y, hy, h⟩ := Option.bind_eq_some_iff.mp h
    obtain ⟨rest, hr, h⟩ := Option.bind_eq_some_iff.mp h
    cases h
    exact List.forall_mem_cons.mpr ⟨hp x y hy, ih hr⟩

theorem digit_lt {c : Char} {d : Nat} (h : digit? c = some d) : d < 10 := by
  obtain ⟨z, hz, rfl⟩ := Option.map_eq_some_iff.mp h
  have hrange := List.find?_some hz
  simp only [Bool.and_eq_true, decide_eq_true_eq] at hrange
  omega

theorem digits_lt {s : List Char} {digits : List Nat} (h : digits? s = some digits) :
    ∀ d ∈ digits, d < 10 := by
  obtain ⟨parts, hp, rfl⟩ := Option.map_eq_some_iff.mp h
  have hparts : ∀ part ∈ parts, ∀ d ∈ part, d < 10 := by
    refine forall_of_mapM (fun part digits hd => ?_) hp
    split at hd
    · cases hd
    · exact forall_of_mapM (fun _ _ => digit_lt) hd
  intro d hd
  obtain ⟨part, hpart, hd⟩ := List.mem_flatten.mp hd
  exact hparts part hpart d hd

theorem ofDigits_eq (digits : List Nat) : ofDigits digits = Nat.ofDigits 10 digits.reverse := by
  rw [Nat.ofDigits_eq_foldr, List.foldr_reverse, ofDigits]
  congr 1
  funext n d
  exact Nat.add_comm _ _

/-- A number that is read can be written. -/
theorem isWritten_of_readInt {s : String} {n : Int} (h : readInt s = .ok n) : IsWritten n := by
  unfold readInt at h
  dsimp only at h
  split at h
  · cases h
  · rename_i digits hd
    have hlt : ofDigits digits < 10 ^ digits.reverse.length := by
      rw [ofDigits_eq]
      apply Nat.ofDigits_lt_base_pow_length (by decide)
      exact fun d hm => digits_lt hd d (List.mem_reverse.mp hm)
    rw [List.length_reverse] at hlt
    split at h
    · cases h
    · rename_i hshort
      have hle : ∀ limit, digits.length ≤ limit → 10 ^ digits.length ≤ Nat.pow 10 limit :=
        fun _ => Nat.pow_le_pow_right (by decide)
      have habs : n.natAbs = ofDigits digits := by
        split at h <;> cases h <;> simp
      exact ⟨habs ▸ Nat.lt_of_lt_of_le hlt (hle _ (Nat.not_lt.mp hshort))⟩

theorem isWritten_of_int {s : String} {n : Int} (h : int? s = some n) : IsWritten n := by
  unfold int? at h
  cases hr : readInt s with
  | error fault =>
    rw [hr] at h
    cases h
  | ok m =>
    rw [hr] at h
    cases h
    exact isWritten_of_readInt hr

end FixedReply.Text
