namespace FixedReply.Text

def trim {α : Type} (p : α → Bool) (s : List α) : List α :=
  ((s.dropWhile p).reverse.dropWhile p).reverse

/-- The numbers of the white-space characters: the six of ASCII, four separator controls, and the
spaces and line ends of other scripts. -/
def blanks : List Nat :=
  [0x09, 0x0a, 0x0b, 0x0c, 0x0d, 0x1c, 0x1d, 0x1e, 0x1f, 0x20, 0x85, 0xa0, 0x1680, 0x2000, 0x2001,
   0x2002, 0x2003, 0x2004, 0x2005, 0x2006, 0x2007, 0x2008, 0x2009, 0x200a, 0x2028, 0x2029, 0x202f,
   0x205f, 0x3000]

def isBlank (c : Char) : Bool := blanks.contains c.toNat

def isAsciiBlank (n : Nat) : Bool := n == 32 || (9 ≤ n && n ≤ 13)

/-- A space or a tab, the only padding that a header value may have. -/
def isPadding (c : Char) : Bool := c == ' ' || c == '\t'

end FixedReply.Text
