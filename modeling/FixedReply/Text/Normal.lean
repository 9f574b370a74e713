import FixedReply.Bytes
import FixedReply.Text.NormalTable
import FixedReply.Text.Syllable
import Std.Data.HashMap

namespace FixedReply.Text

/-- The images of characters, from runs of them with an ellipsis between each two images. -/
def imagesOfRuns (runs : List (Nat × String)) : Std.HashMap Char (List Char) :=
  .ofList (runs.flatMap fun (first, images) =>
    ((images.splitOn "…").zipIdx first).map fun (image, n) => (Char.ofNat n, image.toList))

def decomposedChars : Std.HashMap Char (List Char) := imagesOfRuns decomposed

def decompose (c : Char) : List Char :=
  match Syllable.of? c with
  | some s => s.parts
  | none => (decomposedChars[c]?).getD [c]

def markClass (c : Char) : Nat :=
  match markClasses.find? fun (first, last, _) => first ≤ c.toNat && c.toNat ≤ last with
  | some (_, _, n) => n
  | none => 0

/-- A character put behind others, which are given backwards: a mark goes past the marks of higher classes. -/
def settle (c : Char) : List Char → List Char
  | [] => [c]
  | d :: before =>
    if markClass c ≠ 0 ∧ markClass c < markClass d then d :: settle c before else c :: d :: before

def sortMarks (s : List Char) : List Char := (s.foldl (fun done c => settle c done) []).reverse

def inPairs : List Char → List (Char × Char)
  | a :: b :: rest => (a, b) :: inPairs rest
  | _ => []

def compositeChars : Std.HashMap (Char × Char) Char :=
  .ofList (composites.flatMap fun (mark, pairs) =>
    (inPairs pairs.toList).map fun (letter, whole) => ((letter, mark), whole))

def joinedSyllable? (c d : Char) : Option Char :=
  if 0x1100 ≤ c.toNat ∧ c.toNat < 0x1113 ∧ 0x1161 ≤ d.toNat ∧ d.toNat < 0x1176 then
    some (Syllable.char ⟨c.toNat - 0x1100, d.toNat - 0x1161, 0⟩)
  else if 0x11a7 < d.toNat ∧ d.toNat < 0x11c3 then
    (Syllable.of? c).bind fun s =>
      if s.final = 0 then some { s with final := d.toNat - 0x11a7 }.char else none
  else none

def composite? (c d : Char) : Option Char := joinedSyllable? c d <|> compositeChars[(c, d)]?

/-- A character with all that it can be put together with from a text behind it, and what is left of the
text. A mark of the class `passed` stands between, and keeps back the marks of that class and of lower ones.
Nothing stands between if the class is zero. -/
def absorb (c : Char) (passed : Nat) : List Char → Char × List Char
  | [] => (c, [])
  | d :: rest =>
    let cls := markClass d
    if passed ≠ 0 ∧ cls = 0 then (c, d :: rest)
    else if passed ≠ 0 ∧ cls ≤ passed then
      let (whole, left) := absorb c passed rest
      (whole, d :: left)
    else
      match composite? c d with
      | some whole => absorb whole passed rest
      | none =>
        if cls = 0 then (c, d :: rest)
        else
          let (whole, left) := absorb c cls rest
          (whole, d :: left)

theorem length_absorb_le (c : Char) (passed : Nat) (s : List Char) :
    (absorb c passed s).2.length ≤ s.length := by
  fun_induction absorb c passed s with
  | case1 => exact Nat.le_refl _
  | case2 => exact Nat.le_refl _
  | case3 c passed d rest _ _ _ whole left h ih =>
    rw [h] at ih
    exact Nat.succ_le_succ ih
  | case4 c passed d rest _ _ _ whole _ ih => exact Nat.le_succ_of_le ih
  | case5 => exact Nat.le_refl _
  | case6 c passed d rest _ _ _ _ _ whole left h ih =>
    rw [h] at ih
    exact Nat.succ_le_succ ih

def compose : List Char → List Char
  | [] => []
  | c :: rest => (absorb c 0 rest).1 :: compose (absorb c 0 rest).2
termination_by s => s.length
decreasing_by exact Nat.lt_succ_of_le (length_absorb_le c 0 rest)

def normalForm (s : List Char) : List Char := compose (sortMarks (s.flatMap decompose))

end FixedReply.Text
