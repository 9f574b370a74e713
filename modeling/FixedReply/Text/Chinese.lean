import FixedReply.Text.Chart.Big5
import FixedReply.Text.Chart.Gb18030
import FixedReply.Text.Chart.Gb2312
import FixedReply.Text.Chart.HongKong

namespace FixedReply.Text.Chinese

def spread : Place → Bytes := Place.under 0x81 [(0x40, 0x7e), (0x80, 0xfe)]

def aroundGb2312 : Chart :=
  .inOrder (gb2312.absent 0x4e00 20902)
    (rowPlaces (List.range 32) 190 ++ rowPlaces (List.range' 41 85) 96)

/-- The middle dot of katakana has no bytes: the place that GB 2312 has for it is the middle dot's. -/
def gbk? (c : Char) : Option Bytes :=
  if c = '\u30fb' then none
  else
    (gbkSigns[c]? <|> aroundGb2312[c]?).map spread <|> gb2312[c]?.map Place.besideAscii

def privatePlace? (c : Char) : Option Place :=
  (gb18030Private.find? fun (first, last, _) => first ≤ c.toNat && c.toNat ≤ last).map
    fun (first, _, start) => { start with cell := start.cell + (c.toNat - first) }

def fourBytes (n : Nat) : Bytes :=
  [0x81 + n / 12600, 0x30 + n / 1260 % 10, 0x81 + n / 10 % 126, 0x30 + n % 10].map (·.toUInt8)

def restNumber? (c : Char) : Option Nat :=
  (gb18030Rest.find? fun (first, last, _) => first ≤ c.toNat && c.toNat ≤ last).map
    fun (first, _, start) => start + (c.toNat - first)

def gb18030? (c : Char) : Option Bytes :=
  gbk? c <|> (gb18030Signs[c]? <|> privatePlace? c).map spread <|> (restNumber? c).map fourBytes

def inBig5 : Place → Bytes := Place.under 0x81 [(0x40, 0x7e), (0xa1, 0xfe)]

def big5? (c : Char) : Option Bytes := big5[c]?.map inBig5

def cp950? (c : Char) : Option Bytes := (cp950Changes[c]? <|> big5[c]?).map inBig5

def big5HongKong? (c : Char) : Option Bytes := (hongKong[c]? <|> big5[c]?).map inBig5

end FixedReply.Text.Chinese
