import FixedReply.Text.CodePage
import Std.Data.HashMap

namespace FixedReply.Text

/-- Where a character stands in a chart. Rows and cells are counted from zero. -/
structure Place where
  row : Nat
  cell : Nat
  deriving DecidableEq, Repr

abbrev Chart := Std.HashMap Char Place

/-- Characters side by side in a row, from a cell on. A replacement character stands for an empty cell. -/
def runPlaces (row cell : Nat) (chars : String) : List (Char × Place) :=
  (chars.toList.zipIdx cell).filterMap fun (c, n) =>
    if c = replacement then none else some (c, ⟨row, n⟩)

def Chart.ofRuns (runs : List (Nat × Nat × String)) : Chart :=
  .ofList (runs.flatMap fun (row, cell, chars) => runPlaces row cell chars)

def byteIn (ranges : List (Nat × Nat)) (n : Nat) : UInt8 :=
  match ranges with
  | [] => 0
  | (low, high) :: rest =>
    if low + n ≤ high then (low + n).toUInt8 else byteIn rest (n - (high + 1 - low))

namespace Place

def square (first : Nat) (p : Place) : Bytes :=
  [(first + p.row).toUInt8, (first + p.cell).toUInt8]

def inAscii : Place → Bytes := square 0x21

def besideAscii : Place → Bytes := square 0xa1

def folded (p : Place) : Place := ⟨p.row / 2, p.row % 2 * 94 + p.cell⟩

def under (first : Nat) (seconds : List (Nat × Nat)) (p : Place) : Bytes :=
  [(first + p.row).toUInt8, byteIn seconds p.cell]

end Place

def rowPlaces (rows : List Nat) (cells : Nat) : List Place :=
  rows.flatMap fun row => (List.range cells).map fun cell => ⟨row, cell⟩

def Chart.absent (chart : Chart) (first count : Nat) : List Char :=
  ((List.range' first count).map Char.ofNat).filter (!chart.contains ·)

def Chart.inOrder (chars : List Char) (places : List Place) : Chart := .ofList (chars.zip places)

end FixedReply.Text
