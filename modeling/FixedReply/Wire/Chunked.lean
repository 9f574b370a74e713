import FixedReply.Http.Address
import FixedReply.Http.Refusal
import FixedReply.Text.Blank
import FixedReply.Wire.Reader

namespace FixedReply

open Http (Fault Refusal)

inductive Stop
  | fault (why : Fault)
  | lost (how : Loss)
  deriving Repr

namespace Stop

def refused (why : Refusal) : Stop := .fault (.refused why)

end Stop

namespace Wire

def sizeLineLimit : Int := 4096

def hexValue (b : UInt8) : Nat :=
  let n := b.toNat
  if n < 58 then n - 48 else if n < 71 then n - 55 else n - 87

def isHexByte (b : UInt8) : Bool := Http.Address.isHexDigit (Char.ofUInt8 b)

/-- The size in front of the first semicolon of a line, without the white space around it. -/
def chunkSize? (line : Bytes) : Option Nat :=
  let field := Text.trim (fun b => Text.isAsciiBlank b.toNat) (line.takeWhile (· ≠ 59))
  if !field.isEmpty && field.all isHexByte then
    some (field.foldl (fun n b => 16 * n + hexValue b) 0)
  else none

def gather (wire : Wire) (count : Nat) : Wire :=
  { wire with usage := { wire.usage with gathered := max wire.usage.gathered count } }

/-- Reads chunks up to the one of size zero. The parts of the body are gathered backwards. -/
def readChunks (bodyLimit : Int) (parts : List Bytes) (total : Nat) (wire : Wire) :
    Except Stop Bytes × Wire :=
  match _line : upTo Bytes.crlf sizeLineLimit wire with
  | (.error loss, wire₁) => (.error (.lost loss), wire₁)
  | (.ok none, wire₁) => (.error (.refused .sizeLineTooLong), wire₁)
  | (.ok (some line), wire₁) =>
    match chunkSize? line with
    | none => (.error (.refused .malformedSize), wire₁)
    | some 0 => (.ok parts.reverse.flatten, wire₁)
    | some size =>
      if bodyLimit < total + size then (.error (.refused .bodyTooLarge), wire₁)
      else match _chunk : exactly (size + 2) wire₁ with
        | (.error loss, wire₂) => (.error (.lost loss), wire₂)
        | (.ok chunk, wire₂) =>
          if chunk.drop size ≠ Bytes.crlf then (.error (.refused .malformedChunk), wire₂)
          else readChunks bodyLimit (chunk.take size :: parts) (total + size)
            (wire₂.gather (total + size))
termination_by wire.unread
decreasing_by
  have h := unread_of_upTo _line
  have g := unread_exactly (size + 2) wire₁
  rw [_chunk] at g
  simp only [Bytes.crlf, List.length_cons, List.length_nil] at h
  show wire₂.unread < wire.unread
  exact Nat.lt_of_le_of_lt g (by omega)

def skipTrailers (lineLimit : Int) (wire : Wire) : Except Stop Unit × Wire :=
  match _line : upTo Bytes.crlf lineLimit wire with
  | (.error loss, wire₁) => (.error (.lost loss), wire₁)
  | (.ok none, wire₁) => (.error (.refused .trailersTooLarge), wire₁)
  | (.ok (some line), wire₁) =>
    if line.isEmpty then (.ok (), wire₁) else skipTrailers lineLimit wire₁
termination_by wire.unread
decreasing_by
  have h := unread_of_upTo _line
  simp only [Bytes.crlf, List.length_cons, List.length_nil] at h
  show wire₁.unread < wire.unread
  omega

def readChunked (headLimit bodyLimit : Int) (wire : Wire) : Except Stop Bytes × Wire :=
  match readChunks bodyLimit [] 0 wire with
  | (.error stop, wire) => (.error stop, wire)
  | (.ok body, wire) =>
    match skipTrailers headLimit wire with
    | (.error stop, wire) => (.error stop, wire)
    | (.ok (), wire) => (.ok body, wire)

theorem unread_gather (wire : Wire) (count : Nat) : (wire.gather count).unread = wire.unread := rfl

theorem unread_readChunks (bodyLimit : Int) (parts : List Bytes) (total : Nat) (wire : Wire) :
    (readChunks bodyLimit parts total wire).2.unread ≤ wire.unread := by
  fun_induction readChunks bodyLimit parts total wire <;>
    grind [unread_upTo, unread_exactly, unread_gather]

theorem unread_skipTrailers (lineLimit : Int) (wire : Wire) :
    (skipTrailers lineLimit wire).2.unread ≤ wire.unread := by
  fun_induction skipTrailers lineLimit wire <;> grind [unread_upTo]

theorem unread_readChunked (headLimit bodyLimit : Int) (wire : Wire) :
    (readChunked headLimit bodyLimit wire).2.unread ≤ wire.unread := by
  unfold readChunked
  grind [unread_readChunks, unread_skipTrailers]

end Wire

end FixedReply
