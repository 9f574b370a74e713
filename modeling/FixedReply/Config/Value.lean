import FixedReply.Number.Shortest
import FixedReply.Text.Numeral
import FixedReply.Text.Quoted

namespace FixedReply

inductive Value
  | nothing
  | bool (b : Bool)
  | int (n : Int)
  | float (x : Binary64)
  | text (s : String)
  | emptyList
  deriving DecidableEq, Repr

namespace Value

def typeName : Value → String
  | nothing => "NoneType"
  | bool _ => "bool"
  | int _ => "int"
  | float _ => "float"
  | text _ => "str"
  | emptyList => "list"

/-- The value as it would be written in code, unless it has too many digits for that. -/
def literal? : Value → Option String
  | nothing => some "None"
  | bool true => some "True"
  | bool false => some "False"
  | int n => Text.writeInt? n
  | float x => some x.text
  | text s => some (Text.quote s)
  | emptyList => some "[]"

/-- How a value compares with a whole number, if they compare at all. What is not a number has no
place among the numbers, and a truth value counts as one or zero. -/
def compare? : Value → Int → Option (Option Ordering)
  | nothing, _ => none
  | text _, _ => none
  | emptyList, _ => none
  | bool b, n => some (some (compare (if b then 1 else 0) n))
  | int m, n => some (some (compare m n))
  | float x, n => some (x.compareInt n)

def isComparable (v : Value) : Bool := (v.compare? 0).isSome

def isAtMost (v : Value) (n : Int) : Bool :=
  v.compare? n == some (some .lt) || v.compare? n == some (some .eq)

def isAtLeast (v : Value) (n : Int) : Bool :=
  v.compare? n == some (some .gt) || v.compare? n == some (some .eq)

def isTruthy : Value → Bool
  | nothing => false
  | text s => !s.isEmpty
  | emptyList => false
  | v => v.compare? 0 != some (some .eq)

def isCount : Value → Bool
  | int n => 0 < n
  | _ => false

/-- Equality: numbers of all types are equal if they are the same number. -/
def same : Value → Value → Bool
  | nothing, nothing => true
  | text s, text t => s == t
  | emptyList, emptyList => true
  | float x, float y => x.sameNumber y
  | float x, v => (integer? v).any fun n => x.compareInt n == some .eq
  | v, float x => (integer? v).any fun n => x.compareInt n == some .eq
  | v, w => match integer? v, integer? w with
    | some m, some n => m == n
    | _, _ => false
where
  integer? : Value → Option Int
  | int n => some n
  | bool b => some (if b then 1 else 0)
  | _ => none

def floorMul (v : Value) (n : Nat) : Int :=
  match v with
  | int m => m * n
  | bool b => if b then n else 0
  | float x => (x.floorMul n).getD 0
  | _ => 0

def toText? : Value → Option String
  | text s => some s
  | v => v.literal?

end Value

end FixedReply
