import FixedReply.Text.Chart.Gb2312
import FixedReply.Text.Chart.KsX1001
import FixedReply.Text.Japanese
import FixedReply.Text.Piece

namespace FixedReply.Text

inductive CharSet
  | ascii
  | roman
  | kana
  | jisX0208
  | jisX0212
  | jisX0213First (edition : Edition)
  | jisX0213Second (edition : Edition)
  | ksX1001
  | gb2312
  deriving DecidableEq, Repr

namespace CharSet

/-- The bytes of a character in a set. -/
def bytes? : CharSet → Char → Option Bytes
  | ascii, c => if c.toNat < 128 then some [c.toNat.toUInt8] else none
  | roman, c => (roman? c).map ([·])
  | kana, c => (kanaNumber? c).map fun n => [(0x21 + n).toUInt8]
  | jisX0208, c => Text.jisX0208[c]?.map Place.inAscii
  | jisX0212, c => Text.jisX0212[c]?.map Place.inAscii
  | jisX0213First edition, c => (edition.first? c).map Place.inAscii
  | jisX0213Second edition, c => (edition.second? c).map Place.inAscii
  | ksX1001, c => Text.ksX1001[c]?.map Place.inAscii
  | gb2312, c => Text.gb2312[c]?.map Place.inAscii

def mark : CharSet → String
  | ascii => "(B"
  | roman => "(J"
  | kana => "(I"
  | jisX0208 => "$B"
  | jisX0212 => "$(D"
  | jisX0213First .of2000 => "$(O"
  | jisX0213First .of2004 => "$(Q"
  | jisX0213Second _ => "$(P"
  | ksX1001 => "$(C"
  | gb2312 => "$(A"

end CharSet

structure Coded where
  set : CharSet
  bytes : Bytes
  deriving DecidableEq, Repr

inductive Switched
  | hz
  | japanese
  | japanese1
  | japanese2
  | japanese3
  | japanese2004
  | japaneseExt
  | korean
  deriving DecidableEq, Repr

namespace Switched

def name : Switched → String
  | hz => "hz"
  | japanese => "iso2022_jp"
  | japanese1 => "iso2022_jp_1"
  | japanese2 => "iso2022_jp_2"
  | japanese3 => "iso2022_jp_3"
  | japanese2004 => "iso2022_jp_2004"
  | japaneseExt => "iso2022_jp_ext"
  | korean => "iso2022_kr"

def sets : Switched → List CharSet
  | hz => [.ascii, .gb2312]
  | japanese => [.ascii, .jisX0208, .roman]
  | japanese1 => [.ascii, .jisX0208, .jisX0212, .roman]
  | japanese2 => [.ascii, .jisX0208, .jisX0212, .ksX1001, .gb2312, .roman]
  | japanese3 => [.ascii, .jisX0208, .jisX0213First .of2000, .jisX0213Second .of2000]
  | japanese2004 => [.ascii, .jisX0208, .jisX0213First .of2004, .jisX0213Second .of2004]
  | japaneseExt => [.ascii, .jisX0208, .jisX0212, .roman, .kana]
  | korean => [.ascii, .ksX1001]

def sharedSet? (code : Switched) : Option CharSet :=
  code.sets.find? fun set => set matches .jisX0213First _

def pairs (code : Switched) : List Pair := if code.sharedSet?.isSome then jisX0213Joined else []

/-- The sets of Chinese and Korean are switched to in ways that leave out which set it is. -/
def switch (code : Switched) (set : CharSet) : Bytes :=
  match code with
  | hz => Bytes.ofString (if set = .ascii then "~\x7d" else "~\x7b")
  | korean => if set = .ascii then [0x0f] else [0x0e]
  | _ => 0x1b :: Bytes.ofString set.mark

/-- The bytes of a character in a set. A tilde is written twice where a tilde begins each switch. -/
def bytes? (code : Switched) (set : CharSet) (c : Char) : Option Bytes :=
  if code = hz ∧ c = '~' then some (Bytes.ofString "~~") else set.bytes? c

def coded? (code : Switched) (p : Piece) : Option Coded :=
  match p.shared with
  | some place => code.sharedSet?.map (⟨·, place.inAscii⟩)
  | none => code.sets.findSome? fun set => (code.bytes? set p.char).map (⟨set, ·⟩)

def next (code : Switched) (current : CharSet) (piece : Coded) : Bytes :=
  if piece.set = current then piece.bytes else code.switch piece.set ++ piece.bytes

def switching (code : Switched) (pieces : List Coded) : Bytes :=
  let sets := .ascii :: pieces.map Coded.set
  (sets.zipWith code.next pieces).flatten ++
    if sets.getLast? = some .ascii then [] else code.switch .ascii

/-- What says for the rest of a text which set its switches lead to. -/
def announcement (code : Switched) : Bytes :=
  if code = korean then 0x1b :: Bytes.ofString "$)C" else []

/-- The announcement stands ahead of the first switch. -/
def write (code : Switched) (pieces : List Coded) : Bytes :=
  let isPlain := fun (piece : Coded) => decide (piece.set = .ascii)
  match pieces.dropWhile isPlain with
  | [] => code.switching pieces
  | rest => code.switching (pieces.takeWhile isPlain) ++ code.announcement ++ code.switching rest

def encode (code : Switched) (s : List Char) : Except Unencodable Bytes :=
  (encodePieces code.name code.coded? (Piece.ofText code.pairs s)).map code.write

end Switched

end FixedReply.Text
