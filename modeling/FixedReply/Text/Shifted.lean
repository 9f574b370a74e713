import FixedReply.Text.Split

namespace FixedReply.Text

def units16 (c : Char) : List Nat :=
  let n := c.toNat
  if n < 0x10000 then [n] else [0xd800 + (n - 0x10000) / 0x400, 0xdc00 + (n - 0x10000) % 0x400]

namespace Shifted

def digits : List Char :=
  "ABCDEFGHIJKLMNOPQRSTUVWXYZabcdefghijklmnopqrstuvwxyz0123456789+/".toList

def isDirect (c : Char) : Bool :=
  c == '\t' || c == '\n' || c == '\r' ||
    (32 ≤ c.toNat && c.toNat < 126 && c != '+' && c != '\\')

def bits (unit : Nat) : List Bool := (List.range 16).reverse.map unit.testBit

/-- Bits as digits, six for each. The last digit is filled up with zeros. -/
def digitsOf : List Bool → List Char
  | [] => []
  | b :: rest =>
    let found := (b :: rest).take 6
    let six := found ++ List.replicate (6 - found.length) false
    (digits[six.foldl (fun n b => 2 * n + b.toNat) 0]?).getD 'A' :: digitsOf (rest.drop 5)
termination_by bits => bits.length
decreasing_by simp only [List.length_drop, List.length_cons]; omega

def shiftOut (run : List Char) : List Char :=
  '+' :: digitsOf ((run.flatMap units16).flatMap bits)

def endIsMarked : List Char → Bool
  | [] => true
  | c :: _ => digits.contains c || c == '-'

/-- The shifted form of a text. A plus sign that does not stand in a run has a form of its own. -/
def encode : List Char → List Char
  | [] => []
  | c :: rest =>
    if isDirect c then c :: encode rest
    else if c = '+' then '+' :: '-' :: encode rest
    else
      let after := rest.dropWhile (!isDirect ·)
      shiftOut (c :: rest.takeWhile (!isDirect ·)) ++
        (if endIsMarked after then ['-'] else []) ++ encode after
termination_by s => s.length
decreasing_by
  · simp
  · simp
  · exact Nat.lt_succ_of_le (List.dropWhile_suffix _).length_le

end Shifted

end FixedReply.Text
