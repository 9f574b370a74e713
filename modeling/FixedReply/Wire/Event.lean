import FixedReply.Bytes
import FixedReply.Failure

namespace FixedReply

abbrev Time := Nat

def ticksPerSecond : Nat := 32

inductive Arrival
  | data (bytes : Bytes)
  | failure (what : Failures)
  deriving Repr

/-- Something that a connection can receive from the moment `due` on. -/
structure Event where
  due : Time := 0
  what : Arrival
  deriving Repr

namespace Event

def receiveLimit : Nat := 65536

def size (event : Event) : Nat :=
  match event.what with
  | .data bytes => bytes.length
  | .failure _ => 0

def receptions (event : Event) : List Event :=
  match event.what with
  | .data bytes =>
    (bytes.pieces (receiveLimit - 1)).map fun piece => { event with what := .data piece }
  | .failure _ => [event]

end Event

end FixedReply
