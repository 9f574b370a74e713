import FixedReply.Number.Binary64

namespace FixedReply.Binary64

structure Decimal where
  digits : Nat
  power : Int
  deriving DecidableEq, Repr

def Decimal.reads (d : Decimal) (x : Binary64) : Bool := ofDecimal false d.digits d.power == x

def Decimal.distance (d : Decimal) (num den : Nat) : Nat × Nat :=
  let (n, m) := scaled d.digits 10 d.power
  ((n * den - num * m) + (num * m - n * den), m * den)

/-- The neighbours of `num / den` among the numerals that end at the place `power`; the nearer one
that is read as `x`. Of two that are equally near it is the even one. -/
def onGrid? (x : Binary64) (num den : Nat) (power : Int) : Option Decimal :=
  let (p, q) := scaled 1 10 power
  let below := num * q / (den * p)
  let low : Decimal := ⟨below, power⟩
  let high : Decimal := ⟨below + 1, power⟩
  match low.reads x, high.reads x with
  | false, false => none
  | true, false => some low
  | false, true => some high
  | true, true =>
    let (a, b) := low.distance num den
    let (c, d) := high.distance num den
    if a * d < c * b then some low
    else if c * b < a * d then some high
    else if below % 2 = 0 then some low else some high

/-- The number of places before the point of a positive ratio; zero or less when it is below one. -/
def places (num den : Nat) : Int :=
  if den ≤ num then ((Nat.toDigits 10 (num / den)).length : Nat)
  else
    let zeros : Nat := (Nat.toDigits 10 (den / num)).length - 1
    if den ≤ num * Nat.pow 10 zeros then 1 - (zeros : Int) else -(zeros : Int)

def shortest (x : Binary64) (significand : Nat) (power : Int) : Decimal :=
  let (num, den) := scaled significand 2 power
  let top := places num den
  let tries := (List.range 17).findSome? fun (k : Nat) => onGrid? x num den (top - (k + 1 : Nat))
  tries.getD ⟨0, 0⟩

def withoutZeros (digits : List Char) : List Char := (digits.reverse.dropWhile (· == '0')).reverse

/-- Digits written with the point after the first `point` of them. From `10 ^ 16` on and below
`10 ^ -4` the point follows the first digit and the power of ten is written after `e`, with two
digits at least. -/
def layout (digits : List Char) (point : Int) : List Char :=
  let fill := fun (n : Nat) => List.replicate n '0'
  if -4 < point ∧ point ≤ 16 then
    if point ≤ 0 then '0' :: '.' :: fill (-point).toNat ++ digits
    else
      let whole := digits.take point.toNat
      let fraction := digits.drop point.toNat
      whole ++ fill (point.toNat - whole.length) ++
        '.' :: (if fraction.isEmpty then ['0'] else fraction)
  else
    let e := point - 1
    let magnitude := Nat.toDigits 10 e.natAbs
    let fraction := digits.drop 1
    digits.take 1 ++ (if fraction.isEmpty then [] else '.' :: fraction) ++
      ['e', if e < 0 then '-' else '+'] ++ fill (2 - magnitude.length) ++ magnitude

/-- The shortest text that is read back as the number. A whole number keeps a zero after its point. -/
def text (x : Binary64) : String :=
  let signed := fun (negative : Bool) (s : List Char) =>
    String.ofList (if negative then '-' :: s else s)
  match x with
  | nan => "nan"
  | infinite negative => signed negative "inf".toList
  | finite negative significand power =>
    if significand = 0 then signed negative "0.0".toList
    else
      let d := shortest (finite false significand power) significand power
      let digits := Nat.toDigits 10 d.digits
      signed negative (layout (withoutZeros digits) (digits.length + d.power))

end FixedReply.Binary64
