import FixedReply.Bytes
import FixedReply.Text.Case
import FixedReply.Text.HostNameTable
import FixedReply.Text.Normal
import FixedReply.Text.Punycode
import FixedReply.Text.Split

namespace FixedReply.Text.HostName

inductive Fault
  | badLength
  | longLast
  | prohibited (c : Char)
  | twoDirections
  | turnedEnds
  | marked
  deriving DecidableEq, Repr

def Fault.message : Fault → String
  | badLength => "label empty or too long"
  | longLast => "label too long"
  | prohibited c => s!"Invalid character {String.ofList (quoted [c])}"
  | twoDirections => "Violation of BIDI requirement 2"
  | turnedEnds => "Violation of BIDI requirement 3"
  | marked => "Label starts with ACE prefix"

def isAscii (s : List Char) : Bool := s.all fun c => c.toNat < 128

def sized (label : List Char) : Except Fault (List Char) :=
  if 0 < label.length ∧ label.length < 64 then .ok label else .error .badLength

def foldedChars : Std.HashMap Char (List Char) := imagesOfRuns foldedForms

def foldChar (c : Char) : List Char := (foldedChars[c]?).getD (lower [c])

/-- The folded form of a character, or its normal form folded once more where that is another one. -/
def foldFully (c : Char) : List Char :=
  let normal := normalForm (foldChar c)
  let again := normalForm (normal.flatMap foldChar)
  if normal = again then foldChar c else again

def isDropped (c : Char) : Bool := inRanges droppedRanges c.toNat

def isProhibited (c : Char) : Bool := inRanges prohibitedRanges c.toNat

def isRightToLeft (c : Char) : Bool := inRanges rightToLeftRanges c.toNat

def isLeftToRight (c : Char) : Bool := inRanges leftToRightRanges c.toNat

/-- A label in a form in which no two labels differ by case, width or composition alone. One that is
written from right to left is so from end to end. -/
def prepare (label : List Char) : Except Fault (List Char) :=
  let form := normalForm ((label.filter (!isDropped ·)).flatMap foldFully)
  match form.find? isProhibited with
  | some c => .error (.prohibited c)
  | none =>
    if !form.any isRightToLeft then .ok form
    else if form.any isLeftToRight then .error .twoDirections
    else if form.head?.any isRightToLeft && form.getLast?.any isRightToLeft then .ok form
    else .error .turnedEnds

def digitMark : List Char := "xn\x2d\x2d".toList

def asciiLabel (label : List Char) : Except Fault (List Char) := do
  if isAscii label then sized label
  else
    let form ← prepare label
    if isAscii form then sized form
    else if digitMark.isPrefixOf form then throw .marked
    else sized (digitMark ++ Punycode.encode form)

def isDot (c : Char) : Bool := ['.', '\u3002', '\uff0e', '\uff61'].contains c

/-- A name in ASCII is left as it is. The last label may be empty. -/
def encode (s : List Char) : Except Fault (List Char) := do
  if isAscii s then
    let labels := splitOn '.' s
    discard (labels.dropLast.mapM sized)
    if (labels.getLast?.getD []).length < 64 then return s else throw .longLast
  else
    let labels := splitOn '.' (s.map fun c => if isDot c then '.' else c)
    let isOpen := labels.getLast? = some []
    let names ← (if isOpen then labels.dropLast else labels).mapM asciiLabel
    return joinWith ['.'] names ++ if isOpen then ['.'] else []

end FixedReply.Text.HostName
