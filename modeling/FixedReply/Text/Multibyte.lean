import FixedReply.Text.Chinese
import FixedReply.Text.Japanese
import FixedReply.Text.Korean
import FixedReply.Text.Piece

namespace FixedReply.Text

inductive Multibyte
  | big5
  | big5HongKong
  | cp932
  | cp949
  | cp950
  | eucJp
  | eucJisX0213 (edition : Edition)
  | eucKr
  | gb18030
  | gb2312
  | gbk
  | johab
  | shiftJis
  | shiftJisX0213 (edition : Edition)
  deriving DecidableEq, Repr

namespace Multibyte

def name : Multibyte → String
  | big5 => "big5"
  | big5HongKong => "big5hkscs"
  | cp932 => "cp932"
  | cp949 => "cp949"
  | cp950 => "cp950"
  | eucJp => "euc_jp"
  | eucJisX0213 .of2000 => "euc_jisx0213"
  | eucJisX0213 .of2004 => "euc_jis_2004"
  | eucKr => "euc_kr"
  | gb18030 => "gb18030"
  | gb2312 => "gb2312"
  | gbk => "gbk"
  | johab => "johab"
  | shiftJis => "shift_jis"
  | shiftJisX0213 .of2000 => "shift_jisx0213"
  | shiftJisX0213 .of2004 => "shift_jis_2004"

def charBytes? : Multibyte → Char → Option Bytes
  | big5 => Chinese.big5?
  | big5HongKong => Chinese.big5HongKong?
  | cp932 => cp932?
  | cp949 => Korean.cp949?
  | cp950 => Chinese.cp950?
  | eucJp => eucJp?
  | eucJisX0213 edition => eucJisX0213? edition
  | eucKr => Korean.eucKr?
  | gb18030 => Chinese.gb18030?
  | gb2312 => fun c => Text.gb2312[c]?.map Place.besideAscii
  | gbk => Chinese.gbk?
  | johab => Korean.johab?
  | shiftJis => shiftJis?
  | shiftJisX0213 edition => shiftJisX0213? edition

def pairs : Multibyte → List Pair
  | big5HongKong => hongKongPairs
  | eucJisX0213 _ | shiftJisX0213 _ => jisX0213Joined
  | _ => []

def sharedBytes : Multibyte → Place → Bytes
  | big5HongKong => Chinese.inBig5
  | shiftJisX0213 _ => Place.shifted
  | _ => Place.besideAscii

def bytes? (code : Multibyte) (p : Piece) : Option Bytes :=
  match p.shared with
  | some place => some (code.sharedBytes place)
  | none => code.charBytes? p.char <|> if p.char.toNat < 128 then some [p.char.toNat.toUInt8] else none

def encode (code : Multibyte) (s : List Char) : Except Unencodable Bytes :=
  (encodePieces code.name code.bytes? (Piece.ofText code.pairs s)).map List.flatten

end Multibyte

end FixedReply.Text
