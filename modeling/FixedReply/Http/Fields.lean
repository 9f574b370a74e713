namespace FixedReply.Http

namespace Entries

def put (name value : String) : List (String × String) → List (String × String)
  | [] => [(name, value)]
  | (n, v) :: rest => if n = name then (n, value) :: rest else (n, v) :: put name value rest

theorem names_put (name value : String) (entries : List (String × String)) :
    (put name value entries).map Prod.fst =
      if name ∈ entries.map Prod.fst then entries.map Prod.fst else entries.map Prod.fst ++ [name] := by
  induction entries with
  | nil => simp [put]
  | cons e rest ih =>
    obtain ⟨n, v⟩ := e
    by_cases h : n = name
    · simp [put, h]
    · have h' : ¬ name = n := fun e => h e.symm
      simp only [put, h, ↓reduceIte, List.map_cons, ih, List.mem_cons, h', false_or]
      split <;> simp

theorem distinct_put (name value : String) {entries : List (String × String)}
    (h : (entries.map Prod.fst).Nodup) : ((put name value entries).map Prod.fst).Nodup := by
  rw [names_put]
  split
  · exact h
  · next fresh => exact List.nodup_append.2 ⟨h, by simp, by
      intro a ha b hb
      rw [List.mem_singleton.1 hb]
      exact fun e => fresh (e ▸ ha)⟩

end Entries

structure Fields where
  entries : List (String × String) := []
  distinct : (entries.map Prod.fst).Nodup := by decide
  deriving DecidableEq, Repr

namespace Fields

def empty : Fields := {}

def names (fields : Fields) : List String := fields.entries.map Prod.fst

def find? (fields : Fields) (name : String) : Option String := fields.entries.lookup name

def has (fields : Fields) (name : String) : Bool := (fields.find? name).isSome

def put (fields : Fields) (name value : String) : Fields where
  entries := Entries.put name value fields.entries
  distinct := Entries.distinct_put name value fields.distinct

def putAll (fields : Fields) (pairs : List (String × String)) : Fields :=
  pairs.foldl (fun fields pair => fields.put pair.1 pair.2) fields

def ofPairs (pairs : List (String × String)) : Fields := putAll .empty pairs

end Fields

end FixedReply.Http
