import FixedReply.Text.CodePage
import FixedReply.Text.Multibyte
import FixedReply.Text.Piece
import FixedReply.Text.Punycode
import FixedReply.Text.Shifted
import FixedReply.Text.Switched
import FixedReply.Text.Unencodable

namespace FixedReply.Text

inductive ByteOrder
  | little
  | big
  deriving DecidableEq, Repr

/-- A marked codec writes the byte order mark ahead of the text. -/
inductive Codec
  | ascii
  | latin1
  | page (codes : CodePage)
  | multibyte (code : Multibyte)
  | switched (code : Switched)
  | utf7
  | utf8 (marked : Bool)
  | utf16 (order : ByteOrder) (marked : Bool)
  | utf32 (order : ByteOrder) (marked : Bool)
  | punycode
  | escaped
  | escapedBeyondLatin1
  deriving DecidableEq, Repr

def encodeEach (codec : String) (gap : Gap) (byte? : Char → Option UInt8) (s : List Char) :
    Except Unencodable Bytes :=
  let fits := fun c => (byte? c).isSome
  match s.dropWhile fits with
  | [] => .ok (s.filterMap byte?)
  | c :: rest =>
    let first := (s.takeWhile fits).length
    .error { codec, gap, char := c, first, last := first + (rest.takeWhile (!fits ·)).length }

/-- A text is encoded exactly when each of its characters has a byte, and then by these bytes. -/
theorem encodeEach_eq_ok_iff {codec : String} {gap : Gap} {byte? : Char → Option UInt8}
    {s : List Char} {bytes : Bytes} :
    encodeEach codec gap byte? s = .ok bytes ↔ s.map byte? = bytes.map some := by
  rw [← encodes_iff]
  simp only [encodeEach]
  split
  · next e => simp only [Except.ok.injEq, e, true_and]
  · next e => simp only [reduceCtorEq, e, false_and]

def byteBelow (limit : Nat) (c : Char) : Option UInt8 :=
  if c.toNat < limit then some c.toNat.toUInt8 else none

def encodeBelow (codec : String) (limit : Nat) (s : List Char) : Except Unencodable Bytes :=
  encodeEach codec (.beyond limit) (byteBelow limit) s

def unitBytes (order : ByteOrder) (width n : Nat) : Bytes :=
  let little := (List.range width).map fun place => (n / Nat.pow 256 place).toUInt8
  match order with
  | .little => little
  | .big => little.reverse

def mark : Char := Char.ofNat 0xfeff

def escapedChar (c : Char) : List Char :=
  if c = backslash then [backslash, backslash]
  else if c = '\t' then [backslash, 't']
  else if c = '\n' then [backslash, 'n']
  else if c = '\r' then [backslash, 'r']
  else if 32 ≤ c.toNat ∧ c.toNat < 127 then [c]
  else numbered c

def numberedBeyondLatin1 (c : Char) : List Char := if c.toNat < 256 then [c] else numbered c

def Codec.encode (codec : Codec) (s : List Char) : Except Unencodable Bytes :=
  let withMark := fun (marked : Bool) => if marked then mark :: s else s
  match codec with
  | ascii => encodeBelow "ascii" 128 s
  | latin1 => encodeBelow "latin-1" 256 s
  | page codes => encodeEach "charmap" .unmapped codes.byte? s
  | multibyte code => code.encode s
  | switched code => code.encode s
  | utf7 => .ok (Bytes.ofText (Shifted.encode s))
  | utf8 marked => .ok ((withMark marked).flatMap String.utf8EncodeChar)
  | utf16 order marked =>
    .ok ((withMark marked).flatMap fun c => (units16 c).flatMap (unitBytes order 2))
  | utf32 order marked => .ok ((withMark marked).flatMap fun c => unitBytes order 4 c.toNat)
  | punycode => .ok (Bytes.ofText (Punycode.encode s))
  | escaped => .ok (Bytes.ofText (s.flatMap escapedChar))
  | escapedBeyondLatin1 => .ok (Bytes.ofText (s.flatMap numberedBeyondLatin1))

end FixedReply.Text
