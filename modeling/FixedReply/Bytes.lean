namespace FixedReply

instance charHash : Hashable Char where
  hash c := c.val.toUInt64

abbrev Bytes := List UInt8

namespace Bytes

def toText (bytes : Bytes) : List Char := bytes.map Char.ofUInt8

/-- The bytes of a text whose character numbers are all below 256; larger numbers wrap. -/
def ofText (text : List Char) : Bytes := text.map fun c => c.toNat.toUInt8

def ofString (s : String) : Bytes := ofText s.toList

def cr : UInt8 := 13
def lf : UInt8 := 10

def crlf : Bytes := [cr, lf]

def splitAt? (n : Nat) (bytes : Bytes) : Option (Bytes × Bytes) := go n [] bytes
where
  go : Nat → Bytes → Bytes → Option (Bytes × Bytes)
  | 0, front, rest => some (front.reverse, rest)
  | _ + 1, _, [] => none
  | n + 1, front, b :: rest => go n (b :: front) rest

/-- The position of the first occurrence of `marker` that starts at `offset` or later. -/
def find? (bytes marker : Bytes) (offset : Nat) : Option Nat := seek 0 offset bytes
where
  seek (pos : Nat) : Nat → Bytes → Option Nat
  | 0, rest => go pos rest
  | _ + 1, [] => none
  | n + 1, _ :: rest => seek (pos + 1) n rest
  go (pos : Nat) : Bytes → Option Nat
  | [] => if marker.isEmpty then some pos else none
  | b :: rest => if marker.isPrefixOf (b :: rest) then some pos else go (pos + 1) rest

theorem le_of_find?_go {marker bytes : Bytes} {pos i : Nat} (h : find?.go marker pos bytes = some i) :
    i + marker.length ≤ pos + bytes.length := by
  induction bytes generalizing pos with
  | nil =>
    simp only [find?.go] at h
    split at h
    · next e => simp_all
    · simp at h
  | cons b rest ih =>
    simp only [find?.go] at h
    split at h
    · next e =>
      have := (List.isPrefixOf_iff_prefix.1 e).length_le
      simp_all
    · have := ih h
      simp only [List.length_cons]
      omega

theorem le_of_find?_seek {marker bytes : Bytes} {pos offset i : Nat}
    (h : find?.seek marker pos offset bytes = some i) : i + marker.length ≤ pos + bytes.length := by
  induction offset generalizing pos bytes with
  | zero => exact le_of_find?_go h
  | succ n ih =>
    cases bytes with
    | nil => simp [find?.seek] at h
    | cons b rest =>
      have := ih h
      simp only [List.length_cons]
      omega

/-- A marker that is found lies within the bytes. -/
theorem le_of_find? {bytes marker : Bytes} {offset i : Nat} (h : find? bytes marker offset = some i) :
    i + marker.length ≤ bytes.length := by
  have := le_of_find?_seek h
  omega

theorem splitAt?_go (n : Nat) (front bytes : Bytes) :
    splitAt?.go n front bytes =
      if n ≤ bytes.length then some (front.reverse ++ bytes.take n, bytes.drop n) else none := by
  induction n generalizing front bytes with
  | zero => simp [splitAt?.go]
  | succ n ih =>
    cases bytes with
    | nil => simp [splitAt?.go]
    | cons b rest => simp [splitAt?.go, ih]

theorem splitAt?_eq (n : Nat) (bytes : Bytes) :
    splitAt? n bytes = if n ≤ bytes.length then some (bytes.take n, bytes.drop n) else none := by
  simp [splitAt?, splitAt?_go]

/-- Pieces of at most `n + 1` bytes that join to the whole; no bytes are one empty piece. -/
def pieces (n : Nat) (bytes : Bytes) : List Bytes :=
  if bytes.length ≤ n + 1 then [bytes]
  else bytes.take (n + 1) :: pieces n (bytes.drop (n + 1))
termination_by bytes.length
decreasing_by simp only [List.length_drop]; omega

theorem flatten_pieces (n : Nat) (bytes : Bytes) : (pieces n bytes).flatten = bytes := by
  fun_induction pieces n bytes with
  | case1 => simp
  | case2 bytes _ ih => simp [ih]

end Bytes

end FixedReply
