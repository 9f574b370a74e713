import FixedReply.Text.Chart
import FixedReply.Text.Unencodable

namespace FixedReply.Text

abbrev Pair := Char × Char × Place

structure Piece where
  char : Char
  /-- The place that the character shares with the mark after it. -/
  shared : Option Place
  deriving DecidableEq, Repr

namespace Piece

def length (p : Piece) : Nat := if p.shared.isSome then 2 else 1

/-- The place that two characters share. Of the number of a mark the low sixteen bits count. -/
def sharedPlace? (pairs : List Pair) (c mark : Char) : Option Place :=
  (pairs.find? fun (letter, m, _) => letter == c && m.toNat == mark.toNat % 0x10000).map
    fun (_, _, place) => place

/-- A text in pieces. A letter is taken with its mark where there is a pair of them. -/
def ofText (pairs : List Pair) (s : List Char) : List Piece := go [] s
where
  go (done : List Piece) : List Char → List Piece
  | [] => done.reverse
  | [c] => (⟨c, none⟩ :: done).reverse
  | c :: d :: rest =>
    match sharedPlace? pairs c d with
    | some place => go (⟨c, some place⟩ :: done) rest
    | none => go (⟨c, none⟩ :: done) (d :: rest)

end Piece

def encodePieces {α : Type} (codec : String) (code? : Piece → Option α) (pieces : List Piece) :
    Except Unencodable (List α) :=
  let fits := fun p => (code? p).isSome
  match pieces.dropWhile fits with
  | [] => .ok (pieces.filterMap code?)
  | p :: _ =>
    let position := (pieces.takeWhile fits).foldr (·.length + ·) 0
    .error { codec, gap := .uncoded, char := p.char, first := position, last := position }

theorem encodes_iff {α β : Type} {code? : α → Option β} {s : List α} {codes : List β} :
    (s.dropWhile fun c => (code? c).isSome) = [] ∧ s.filterMap code? = codes ↔
      s.map code? = codes.map some := by
  induction s generalizing codes with
  | nil => cases codes <;> simp
  | cons c rest ih =>
    cases h : code? c with
    | none => cases codes <;> simp [h]
    | some b =>
      cases codes with
      | nil => simp [h]
      | cons b' codes =>
        have := @ih codes
        simp only [List.dropWhile_cons, h, Option.isSome_some, ↓reduceIte,
          List.filterMap_cons_some h, List.cons.injEq, List.map_cons, Option.some.injEq]
        exact ⟨fun ⟨all, e, t⟩ => ⟨e, this.1 ⟨all, t⟩⟩, fun ⟨e, t⟩ => ⟨(this.2 t).1, e, (this.2 t).2⟩⟩

end FixedReply.Text
