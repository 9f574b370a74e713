import FixedReply.Text.Chart.KsX1001
import FixedReply.Text.Syllable

namespace FixedReply.Text.Korean

def initials : List Char := "ㄱㄲㄴㄷㄸㄹㅁㅂㅃㅅㅆㅇㅈㅉㅊㅋㅌㅍㅎ".toList

def vowels : List Char := (List.range' 0x314f 21).map Char.ofNat

def filler : Char := '\u3164'

def finals : List Char := filler :: "ㄱㄲㄳㄴㄵㄶㄷㄹㄺㄻㄼㄽㄾㄿㅀㅁㅂㅄㅅㅆㅇㅈㅊㅋㅌㅍㅎ".toList

def charted? (c : Char) : Option Bytes := ksX1001[c]?.map Place.besideAscii

/-- The letters of a syllable, behind a filler that says that they are one. -/
def spelled (s : Syllable) : Bytes :=
  let letters := [initials[s.initial]?, vowels[s.vowel]?, finals[s.final]?].filterMap id
  (filler :: letters).flatMap fun c => (charted? c).getD []

def eucKr? (c : Char) : Option Bytes := charted? c <|> (Syllable.of? c).map spelled

def aroundChart : Chart :=
  .inOrder (ksX1001.absent Syllable.first Syllable.count)
    (rowPlaces (List.range 32) 178 ++ rowPlaces (List.range' 32 38) 84)

def cp949? (c : Char) : Option Bytes :=
  charted? c <|> aroundChart[c]?.map (Place.under 0x81 [(0x41, 0x5a), (0x61, 0x7a), (0x81, 0xfe)])

def initialCode (initial? : Option Nat) : Nat := (initial?.map (· + 2)).getD 1

def vowelCodes : List Nat :=
  List.range' 3 5 ++ List.range' 10 6 ++ List.range' 18 6 ++ List.range' 26 4

def finalCodes : List Nat := List.range' 1 17 ++ List.range' 19 11

def combined (initial? vowel? : Option Nat) (final : Nat) : Bytes :=
  let vowel := (vowel?.bind fun n => vowelCodes[n]?).getD 2
  let word := 0x8000 + initialCode initial? * 1024 + vowel * 32 + (finalCodes[final]?).getD 1
  [(word / 256).toUInt8, word.toUInt8]

/-- A letter alone. One that can begin a syllable is taken to do so. -/
def letter? (c : Char) : Option Bytes :=
  if c = filler then none
  else
    (initials.idxOf? c).map (fun n => combined (some n) none 0) <|>
      (vowels.idxOf? c).map (fun n => combined none (some n) 0) <|>
      (finals.idxOf? c).map (combined none none ·)

def besideSyllables (p : Place) : Bytes :=
  let seconds := [(0x31, 0x7e), (0x91, 0xfe)]
  if p.row < 41 then p.folded.under 0xd9 seconds
  else ({ p with row := p.row - 41 } : Place).folded.under 0xe0 seconds

def johab? (c : Char) : Option Bytes :=
  (Syllable.of? c).map (fun s => combined (some s.initial) (some s.vowel) s.final) <|>
    letter? c <|> ksX1001[c]?.map besideSyllables

end FixedReply.Text.Korean
