import FixedReply.Text.Chart.Cp932
import FixedReply.Text.Chart.JisX0208
import FixedReply.Text.Chart.JisX0212
import FixedReply.Text.Chart.JisX0213
import FixedReply.Text.Piece

namespace FixedReply.Text

def kanaNumber? (c : Char) : Option Nat :=
  if 0xff61 ≤ c.toNat ∧ c.toNat ≤ 0xff9f then some (c.toNat - 0xff61) else none

def kanaBesideAscii? (c : Char) : Option UInt8 := (kanaNumber? c).map fun n => (0xa1 + n).toUInt8

def roman? (c : Char) : Option UInt8 :=
  if c = '¥' then some 0x5c else if c = '‾' then some 0x7e else none

def Place.shifted (p : Place) : Bytes :=
  [byteIn [(0x81, 0x9f), (0xe0, 0xfc)] p.folded.row, byteIn [(0x40, 0x7e), (0x80, 0xfc)] p.folded.cell]

inductive Edition
  | of2000
  | of2004
  deriving DecidableEq, Repr

namespace Edition

/-- The character at the one place of the second plane that the editions do not fill alike. -/
def contested : Edition → Char
  | of2000 => '\u9b1d'
  | of2004 => '\u9b1c'

def lacks (edition : Edition) (c : Char) : Bool :=
  match edition with
  | of2000 => jisX0213Added.contains c || c == of2004.contested
  | of2004 => c == of2000.contested

def first? (edition : Edition) (c : Char) : Option Place :=
  if edition.lacks c then none else jisX0213First[c]? <|> jisX0213Added[c]?

def second? (edition : Edition) (c : Char) : Option Place :=
  if c = edition.contested then some ⟨92, 26⟩ else jisX0213Second[c]?

end Edition

/-- The pairs with marks, and with a null character, which leaves a letter that takes marks as it is. -/
def jisX0213Joined : List Pair :=
  jisX0213Pairs ++ ((jisX0213Pairs.map Prod.fst).eraseDups.filterMap fun letter =>
    (jisX0208[letter]? <|> jisX0213First[letter]?).map fun place => (letter, '\x00', place))

def wideTilde : Place := ⟨1, 17⟩

def wideBackslash : Place := ⟨0, 31⟩

/-- The rows of the second plane, in the order in which they follow the first one when both are shifted. -/
def secondRows : List Nat := [0, 7, 2, 3, 4, 11, 12, 13, 14] ++ List.range' 77 17

def Place.behindFirst? (p : Place) : Option Place := (secondRows.idxOf? p.row).map fun n => ⟨94 + n, p.cell⟩

def shiftJis? (c : Char) : Option Bytes :=
  (roman? c <|> kanaBesideAscii? c).map ([·]) <|> jisX0208[c]?.map Place.shifted

def privatePlace? (c : Char) : Option Place :=
  if 0xe000 ≤ c.toNat ∧ c.toNat ≤ 0xe757 then
    some ⟨94 + (c.toNat - 0xe000) / 94, (c.toNat - 0xe000) % 94⟩
  else none

def spareByte? (c : Char) : Option UInt8 :=
  ([('\u0080', 0x80), ('\uf8f0', 0xa0), ('\uf8f1', 0xfd), ('\uf8f2', 0xfe), ('\uf8f3', 0xff)]).lookup c

def cp932? (c : Char) : Option Bytes :=
  (spareByte? c <|> kanaBesideAscii? c).map ([·]) <|>
    (cp932Additions[c]? <|> jisX0208[c]? <|> privatePlace? c).map Place.shifted

def kanaInTwo? (c : Char) : Option Bytes := (kanaBesideAscii? c).map ([0x8e, ·])

def Place.supplementary (p : Place) : Bytes := 0x8f :: p.besideAscii

def eucJp? (c : Char) : Option Bytes :=
  (roman? c).map ([·]) <|> kanaInTwo? c <|> jisX0208[c]?.map Place.besideAscii <|>
    jisX0212[c]?.map Place.supplementary

def eucJisX0213? (edition : Edition) (c : Char) : Option Bytes :=
  if edition.lacks c then none
  else if c = '\uff5e' then some wideTilde.besideAscii
  else
    kanaInTwo? c <|> (jisX0208[c]? <|> edition.first? c).map Place.besideAscii <|>
      (edition.second? c <|> jisX0212[c]?).map Place.supplementary

/-- The backslash and the tilde of ASCII are written as the wide ones, which are not written themselves. -/
def shiftJisX0213? (edition : Edition) (c : Char) : Option Bytes :=
  if c = '\x5c' then some wideBackslash.shifted
  else if c = '~' then some wideTilde.shifted
  else if c = '\uff3c' then none
  else
    (roman? c <|> kanaBesideAscii? c).map ([·]) <|>
      (jisX0208[c]? <|> edition.first? c <|> (edition.second? c).bind Place.behindFirst?).map Place.shifted

end FixedReply.Text
