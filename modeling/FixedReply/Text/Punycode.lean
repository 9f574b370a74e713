namespace FixedReply.Text.Punycode

def digit (d : Nat) : Char := if d < 26 then Char.ofNat (97 + d) else Char.ofNat (22 + d)

def threshold (bias k : Nat) : Nat := max 1 (min 26 (k - bias))

def digitsFrom (bias k n : Nat) : List Char :=
  let t := threshold bias k
  if n < t then [digit n]
  else digit (t + (n - t) % (36 - t)) :: digitsFrom bias (k + 36) ((n - t) / (36 - t))
termination_by n
decreasing_by
  have : 1 ≤ threshold bias k := Nat.le_max_left _ _
  exact Nat.lt_of_le_of_lt (Nat.div_le_self _ _) (by omega)

def shrink (delta : Nat) : Nat × Nat :=
  if delta ≤ 455 then (delta, 0)
  else let (small, times) := shrink (delta / 35); (small, times + 1)
termination_by delta
decreasing_by omega

def adapt (delta placed : Nat) (isFirst : Bool) : Nat :=
  let damped := if isFirst then delta / 700 else delta / 2
  let (small, times) := shrink (damped + damped / placed)
  36 * times + 36 * small / (small + 38)

/-- The distances between the places of the characters `todo`, which come in ascending order, in a
text. What is counted are the steps through the text, with one more round for each number in between;
`n` is the number from which on characters have no places yet. -/
def distances (text : List Nat) (n delta : Nat) : List Nat → List Nat
  | [] => []
  | c :: todo =>
    let placed := text.countP (· < c)
    let start := delta + (c - n) * (placed + 1)
    let (found, rest) := text.foldl
      (fun (found, steps) d =>
        if d < c then (found, steps + 1) else if d = c then (steps :: found, 0) else (found, steps))
      ([], start)
    found.reverse ++ distances text (c + 1) (rest + 1) todo

def write (bias placed : Nat) (isFirst : Bool) : List Nat → List Char
  | [] => []
  | delta :: rest =>
    digitsFrom bias 36 delta ++
      write (adapt delta (placed + 1) isFirst) (placed + 1) false rest

/-- The ASCII characters and a hyphen, if there are any, and then the others. -/
def encode (s : List Char) : List Char :=
  let plain := s.filter fun c => c.toNat < 128
  let text := s.map Char.toNat
  let others := ((text.filter (128 ≤ ·)).mergeSort).eraseDups
  (if plain.isEmpty then [] else plain ++ ['-']) ++
    write 72 plain.length true (distances text 128 0 others)

end FixedReply.Text.Punycode
