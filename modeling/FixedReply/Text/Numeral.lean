import FixedReply.Text.Blank
import FixedReply.Text.Split

namespace FixedReply.Text

/-- The zeros of the decimal digits; the other nine digits of a script follow its zero. -/
def digitZeros : List Nat := [
  0x30, 0x660, 0x6f0, 0x7c0, 0x966, 0x9e6, 0xa66, 0xae6, 0xb66, 0xbe6,
  0xc66, 0xce6, 0xd66, 0xde6, 0xe50, 0xed0, 0xf20, 0x1040, 0x1090, 0x17e0,
  0x1810, 0x1946, 0x19d0, 0x1a80, 0x1a90, 0x1b50, 0x1bb0, 0x1c40, 0x1c50, 0xa620,
  0xa8d0, 0xa900, 0xa9d0, 0xa9f0, 0xaa50, 0xabf0, 0xff10, 0x104a0, 0x10d30, 0x11066,
  0x110f0, 0x11136, 0x111d0, 0x112f0, 0x11450, 0x114d0, 0x11650, 0x116c0, 0x11730, 0x118e0,
  0x11950, 0x11c50, 0x11d50, 0x11da0, 0x16a60, 0x16ac0, 0x16b50, 0x1d7ce, 0x1d7d8, 0x1d7e2,
  0x1d7ec, 0x1d7f6, 0x1e140, 0x1e2f0, 0x1e950, 0x1fbf0]

def digit? (c : Char) : Option Nat :=
  (digitZeros.find? fun z => z ≤ c.toNat && c.toNat < z + 10).map (c.toNat - ·)

/-- The most digits that a number is read from, and that it is written in. -/
def digitLimit : Nat := 4300

structure IsWritten (n : Int) : Prop where
  bound : n.natAbs < Nat.pow 10 digitLimit

instance (n : Int) : Decidable (IsWritten n) := decidable_of_iff _ ⟨IsWritten.mk, IsWritten.bound⟩

def writeInt? (n : Int) : Option String := if IsWritten n then some (toString n) else none

def unwrittenText : String :=
  s!"Exceeds the limit ({digitLimit} digits) for integer string conversion; " ++
    "use sys.set_int_max_str_digits() to increase the limit"

def ofDigits (digits : List Nat) : Nat := digits.foldl (fun n d => 10 * n + d) 0

/-- White space around a number. The separator controls of ASCII do not count here. -/
def isNumberBlank (c : Char) : Bool :=
  if c.toNat < 128 then isAsciiBlank c.toNat else isBlank c

/-- Digits, of which any two may have one underscore between them. -/
def digits? (s : List Char) : Option (List Nat) :=
  ((splitOn '_' s).mapM fun (part : List Char) =>
    if part.isEmpty then none else part.mapM digit?).map List.flatten

inductive NumeralFault
  | malformed
  | tooManyDigits (count : Nat)
  deriving DecidableEq, Repr

def tooManyDigitsText (count : Nat) : String :=
  s!"Exceeds the limit ({digitLimit} digits) for integer string conversion: value has {count} " ++
    "digits; use sys.set_int_max_str_digits() to increase the limit"

/-- A number with an optional sign, of at most `digitLimit` digits, and any white space around it. -/
def readInt (s : String) : Except NumeralFault Int :=
  let body := trim isNumberBlank s.toList
  let (negative, magnitude) := match body with
    | '-' :: rest => (true, rest)
    | '+' :: rest => (false, rest)
    | _ => (false, body)
  match digits? magnitude with
  | none => .error .malformed
  | some digits =>
    if digitLimit < digits.length then .error (.tooManyDigits digits.length)
    else if negative then .ok (-(ofDigits digits : Nat)) else .ok (ofDigits digits : Nat)

def int? (s : String) : Option Int := (readInt s).toOption

/-- Whether a text is a minus sign and a decimal numeral, with or without a fraction. A line feed at
its end is overlooked. -/
def isNegativeNumeral (s : String) : Bool :=
  let body := match s.toList.reverse with
    | '\n' :: rest => rest.reverse
    | _ => s.toList
  let isDigit := fun c => (digit? c).isSome
  match body with
  | '-' :: rest => match cut '.' rest with
    | (whole, none) => !whole.isEmpty && whole.all isDigit
    | (whole, some fraction) => whole.all isDigit && !fraction.isEmpty && fraction.all isDigit
  | _ => false

end FixedReply.Text
