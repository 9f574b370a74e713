namespace FixedReply.Text

variable {α : Type} [DecidableEq α]

def splitOn (sep : α) (s : List α) : List (List α) := go [] s
where
  go (part : List α) : List α → List (List α)
  | [] => [part.reverse]
  | c :: rest => if c = sep then part.reverse :: go [] rest else go (c :: part) rest

def cut (sep : α) (s : List α) : List α × Option (List α) :=
  match s.dropWhile (· ≠ sep) with
  | [] => (s, none)
  | _ :: after => (s.takeWhile (· ≠ sep), some after)

def cutLast (sep : α) (s : List α) : Option (List α) × List α :=
  match cut sep s.reverse with
  | (after, none) => (none, after.reverse)
  | (after, some before) => (some before.reverse, after.reverse)

/-- The lines of a text in which a carriage return followed by a line feed ends a line. -/
def lines (s : List Char) : List (List Char) := go [] s
where
  go (line : List Char) : List Char → List (List Char)
  | [] => [line.reverse]
  | '\r' :: '\n' :: rest => line.reverse :: go [] rest
  | c :: rest => go (c :: line) rest

def joinWith (sep : List α) : List (List α) → List α
  | [] => []
  | [part] => part
  | part :: rest => part ++ sep ++ joinWith sep rest

omit [DecidableEq α] in
theorem joinWith_cons (sep part : List α) {rest : List (List α)} (h : rest ≠ []) :
    joinWith sep (part :: rest) = part ++ sep ++ joinWith sep rest := by
  cases rest with
  | nil => exact absurd rfl h
  | cons => rfl

theorem splitOn_go_ne_nil (sep : α) (part s : List α) : splitOn.go sep part s ≠ [] := by
  cases s with
  | nil => simp [splitOn.go]
  | cons c rest =>
    simp only [splitOn.go]
    split
    · simp
    · exact splitOn_go_ne_nil sep (c :: part) rest

theorem joinWith_splitOn_go (sep : α) (part s : List α) :
    joinWith [sep] (splitOn.go sep part s) = part.reverse ++ s := by
  induction s generalizing part with
  | nil => simp [splitOn.go, joinWith]
  | cons c rest ih =>
    simp only [splitOn.go]
    split
    · next h => simp [joinWith_cons _ _ (splitOn_go_ne_nil sep [] rest), ih, h]
    · simp [ih]

/-- Joined with the separator, the parts are the whole again. -/
theorem joinWith_splitOn (sep : α) (s : List α) : joinWith [sep] (splitOn sep s) = s := by
  simp [splitOn, joinWith_splitOn_go]

end FixedReply.Text
