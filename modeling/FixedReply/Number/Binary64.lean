import FixedReply.Text.Split

namespace FixedReply

/-- A finite number is `significand * 2 ^ power`, with a significand below `2 ^ 53` and the least
power that the significand allows. -/
inductive Binary64
  | nan
  | infinite (negative : Bool)
  | finite (negative : Bool) (significand : Nat) (power : Int)
  deriving DecidableEq, Repr

namespace Binary64

def leastPower : Int := -1074

def greatestPower : Int := 971

def scaled (n b : Nat) (e : Int) : Nat × Nat :=
  if 0 ≤ e then (n * Nat.pow b e.toNat, 1) else (n, Nat.pow b (-e).toNat)

/-- The whole number nearest to a ratio; a half goes to the even neighbour. -/
def nearestEven (num den : Nat) : Nat :=
  let q := num / den
  let r := num % den
  if 2 * r > den || (2 * r == den && q % 2 == 1) then q + 1 else q

def powerOf (num den : Nat) : Int :=
  let guess : Int := (num.log2 : Int) - (den.log2 : Int) - 52
  let (scaledDen, scaledNum) := scaled den 2 guess
  if num * scaledNum < Nat.pow 2 52 * scaledDen then guess - 1 else guess

/-- The number nearest to a ratio. Past the greatest finite number lies infinity. -/
def ofRatio (negative : Bool) (num den : Nat) : Binary64 :=
  if num = 0 then finite negative 0 leastPower
  else
    let power := max leastPower (powerOf num den)
    let (scaledDen, scaledNum) := scaled den 2 power
    let significand := nearestEven (num * scaledNum) scaledDen
    let (significand, power) :=
      if significand = Nat.pow 2 53 then (Nat.pow 2 52, power + 1) else (significand, power)
    if greatestPower < power then infinite negative else finite negative significand power

/-- The number nearest to `n * 10 ^ e`. The far ends need no arithmetic. -/
def ofDecimal (negative : Bool) (n : Nat) (e : Int) : Binary64 :=
  let digits : Int := (Nat.toDigits 10 n).length
  if n = 0 || digits + e < -330 then finite negative 0 leastPower
  else if 310 < digits + e then infinite negative
  else
    let (num, den) := scaled n 10 e
    ofRatio negative num den

def ofNat (n : Nat) : Binary64 := ofDecimal false n 0

/-- Reads digits, with an optional point and an optional power of ten after `e`, or the names of the
numbers that are not finite. -/
def read? (s : List Char) : Option Binary64 :=
  let (negative, s) := match s with
    | '-' :: rest => (true, rest)
    | _ => (false, s)
  if s = "nan".toList then some nan
  else if s = "inf".toList then some (infinite negative)
  else do
    let (mantissa, power) := Text.cut 'e' s
    let (whole, fraction) := Text.cut '.' mantissa
    let digits := whole ++ fraction.getD []
    if digits.isEmpty || !digits.all Char.isDigit then none
    let (descending, powerDigits) := match power with
      | some ('-' :: rest) => (true, rest)
      | some ('+' :: rest) => (false, rest)
      | some rest => (false, rest)
      | none => (false, ['0'])
    if powerDigits.isEmpty || !powerDigits.all Char.isDigit then none
    let natOf := fun (ds : List Char) => ds.foldl (fun n d => 10 * n + (d.toNat - 48)) 0
    let e : Int := if descending then -(natOf powerDigits : Nat) else (natOf powerDigits : Nat)
    some (ofDecimal negative (natOf digits) (e - ((fraction.getD []).length : Nat)))

/-- The sign of `x - n`, if `x` is a number at all. -/
def compareInt (x : Binary64) (n : Int) : Option Ordering :=
  match x with
  | nan => none
  | infinite negative => some (if negative then .lt else .gt)
  | finite negative significand power =>
    let (num, den) := scaled significand 2 power
    some (compare (if negative then -(num : Int) else (num : Int)) (n * den))

/-- Equality of numbers: the two zeros are one number, and what is not a number equals nothing. -/
def sameNumber : Binary64 → Binary64 → Bool
  | nan, _ => false
  | _, nan => false
  | infinite n, infinite m => n == m
  | finite n s p, finite m t q => (s == t && p == q && n == m) || (s == 0 && t == 0)
  | _, _ => false

def floorMul (x : Binary64) (n : Nat) : Option Int :=
  match x with
  | finite negative significand power =>
    let (num, den) := scaled (significand * n) 2 power
    some ((if negative then -(num : Int) else (num : Int)) / den)
  | _ => none

end Binary64

end FixedReply
