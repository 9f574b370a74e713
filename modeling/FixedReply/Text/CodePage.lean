import FixedReply.Bytes

namespace FixedReply.Text

/-- The bytes below `plain` are the characters with their numbers. The characters of the other bytes
stand in `rows`, in the order of the bytes, with a replacement character for a byte that has none. -/
structure CodePage where
  plain : Nat
  rows : List String
  deriving DecidableEq, Repr

def replacement : Char := Char.ofNat 0xfffd

namespace CodePage

def byte? (page : CodePage) (c : Char) : Option UInt8 :=
  if c.toNat < page.plain then some c.toNat.toUInt8
  else if c = replacement then none
  else ((page.rows.flatMap String.toList).idxOf? c).map fun i => (page.plain + i).toUInt8

end CodePage

end FixedReply.Text
