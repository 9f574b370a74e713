import FixedReply.Text.CaseTable
import FixedReply.Text.Quoted

namespace FixedReply.Text

def runImage (runs : List (Nat × Nat × Nat × Nat)) (n : Nat) : Nat :=
  match runs.find? fun (first, last, step, _) => first ≤ n && n ≤ last && (n - first) % step == 0 with
  | some (first, _, _, image) => image + (n - first)
  | none => n

def isCaseIgnorable (c : Char) : Bool := inRanges caseIgnorableRanges c.toNat

def isCased (c : Char) : Bool := inRanges casedRanges c.toNat

def capitalSigma : Char := Char.ofNat 0x3a3

/-- Whether a sigma between these texts ends a word: a cased letter comes before it and none after
it, both times past the ignorable characters. The text before it is given backwards. -/
def endsWord (before after : List Char) : Bool :=
  let cased := fun s => match s.dropWhile isCaseIgnorable with
    | [] => false
    | c :: _ => isCased c
  cased before && !cased after

def lowerChar (before : List Char) (c : Char) (after : List Char) : List Char :=
  if c = capitalSigma then
    [if endsWord before after then Char.ofNat 0x3c2 else Char.ofNat 0x3c3]
  else if c.toNat = 0x130 then ['i', Char.ofNat 0x307]
  else [Char.ofNat (runImage lowerRuns c.toNat)]

/-- The lower-case form of a text that follows another one, which is given backwards. -/
def lowerAfter (before s : List Char) : List Char := go before [] s
where
  go (before done : List Char) : List Char → List Char
  | [] => done.reverse
  | c :: after => go (c :: before) ((lowerChar before c after).reverse ++ done) after

def lower (s : List Char) : List Char := lowerAfter [] s

def titleChar (c : Char) : List Char :=
  match titleExpansions.find? fun e => e.1 == c.toNat with
  | some (_, image) => image.map Char.ofNat
  | none => [Char.ofNat (runImage titleRuns c.toNat)]

def capitalize : List Char → List Char
  | [] => []
  | c :: rest => titleChar c ++ lowerAfter [c] rest

def lowerString (s : String) : String := String.ofList (lower s.toList)

end FixedReply.Text
