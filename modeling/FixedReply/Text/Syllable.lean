namespace FixedReply.Text

/-- The numbers of the letters of a syllable. The final letter has the number zero if there is none. -/
structure Syllable where
  initial : Nat
  vowel : Nat
  final : Nat
  deriving DecidableEq, Repr

namespace Syllable

def first : Nat := 0xac00

def count : Nat := 11172

def of? (c : Char) : Option Syllable :=
  if first ≤ c.toNat ∧ c.toNat < first + count then
    let n := c.toNat - first
    some ⟨n / 588, n % 588 / 28, n % 28⟩
  else none

def char (s : Syllable) : Char := Char.ofNat (first + s.initial * 588 + s.vowel * 28 + s.final)

def parts (s : Syllable) : List Char :=
  ([0x1100 + s.initial, 0x1161 + s.vowel] ++ if s.final = 0 then [] else [0x11a7 + s.final]).map Char.ofNat

end Syllable

end FixedReply.Text
