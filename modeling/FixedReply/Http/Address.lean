import FixedReply.Text.Split

namespace FixedReply.Http.Address

def isHexDigit (c : Char) : Bool := c.isDigit || ('a' ≤ c && c ≤ 'f') || ('A' ≤ c && c ≤ 'F')

/-- A decimal numeral up to 255 that does not begin with a superfluous zero. -/
def isOctet (s : List Char) : Bool :=
  !s.isEmpty && s.all Char.isDigit && s.length ≤ 3 && (s.length == 1 || s.head? != some '0') &&
    s.foldl (fun n c => 10 * n + (c.toNat - 48)) 0 ≤ 255

def isIPv4 (s : List Char) : Bool :=
  let octets := Text.splitOn '.' s
  octets.length == 4 && octets.all isOctet

def isGroup (s : List Char) : Bool := !s.isEmpty && s.length ≤ 4 && s.all isHexDigit

/-- Drops the zone after a percent sign, which must not be empty and must not hold another one. -/
def withoutZone? (s : List Char) : Option (List Char) :=
  match Text.cut '%' s with
  | (address, none) => some address
  | (address, some zone) => if zone.isEmpty || zone.contains '%' then none else some address

def withoutIPv4? (parts : List (List Char)) : Option (List (List Char)) :=
  match parts.getLast? with
  | none => none
  | some final =>
    if final.contains '.' then
      if isIPv4 final then some (parts.dropLast ++ [['0'], ['0']]) else none
    else some parts

def innerGaps (parts : List (List Char)) : List Nat :=
  (List.range parts.length).filter fun i =>
    0 < i && i + 1 < parts.length && parts[i]? == some []

/-- Groups before and after one gap, of which each side may be empty. The gap stands for at least
one group of the eight. -/
def isGapped (front back : List (List Char)) : Bool :=
  let groups := fun (side : List (List Char)) => if side == [[]] then [] else side
  (groups front).all isGroup && (groups back).all isGroup &&
    (groups front).length + (groups back).length < 8

/-- Eight groups between colons, or fewer with one gap. -/
def isIPv6 (s : List Char) : Bool :=
  match withoutZone? s with
  | none => false
  | some address =>
    let written := Text.splitOn ':' address
    match withoutIPv4? written with
    | none => false
    | some parts =>
      3 ≤ written.length && parts.length ≤ 9 &&
        match innerGaps parts with
        | [] => parts.length == 8 && parts.all isGroup
        | [gap] => isGapped (parts.take gap) (parts.drop (gap + 1))
        | _ => false

/-- The letter `v`, a version in hexadecimal digits, a point and something after it on the same
line. -/
def isFuture (s : List Char) : Bool :=
  match s with
  | 'v' :: rest => match Text.cut '.' rest with
    | (version, some address) =>
      !version.isEmpty && version.all isHexDigit && !address.isEmpty && !address.contains '\n'
    | _ => false
  | _ => false

end FixedReply.Http.Address
