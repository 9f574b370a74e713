import FixedReply.Proofs.Wire.Ahead
import FixedReply.Proofs.Wire.Dialogue

namespace FixedReply.Wire

open Http (Request Framing Fault Refusal)

/-- How far the reading of a request has come: blank lines are next, or the head, a block of so many
bytes, a line with the size of a chunk, a chunk of that size, or a line of the trailer. -/
inductive Stage
  | start
  | head
  | block (request : Request) (length : Nat)
  | sizes (request : Request) (parts : List Bytes) (total : Nat)
  | chunk (request : Request) (parts : List Bytes) (total size : Nat)
  | trailers (request : Request) (body : Bytes)

inductive Move
  | goes (said : List Act) (stage : Stage)
  | ends (request : Request)
  | stops (why : Fault)

def Scan.move? {σ α : Type} (scan : Scan σ α) (move : α → Move) : Option (Move × Bytes) :=
  match scan with
  | .found a rest => some (move a, rest)
  | .wanting _ _ => none

def andThen {α β : Type} (taken : Except Loss α × Wire)
    (next : α → Wire → Except Stop β × Wire) : Except Stop β × Wire :=
  match taken with
  | (.error loss, wire) => (.error (.lost loss), wire)
  | (.ok a, wire) => next a wire

def readSized (bodyLimit : Int) (parts : List Bytes) (total size : Nat) (wire : Wire) :
    Except Stop Bytes × Wire :=
  if bodyLimit < total + size then (.error (.refused .bodyTooLarge), wire)
  else andThen (exactly ((size + 2 : Nat) : Int) wire) fun chunk wire =>
    if chunk.drop size ≠ Bytes.crlf then (.error (.refused .malformedChunk), wire)
    else readChunks bodyLimit (chunk.take size :: parts) (total + size) (wire.gather (total + size))

theorem readChunks_eq (bodyLimit : Int) (parts : List Bytes) (total : Nat) (wire : Wire) :
    readChunks bodyLimit parts total wire =
      andThen (upTo Bytes.crlf sizeLineLimit wire) fun
        | none, wire => (.error (.refused .sizeLineTooLong), wire)
        | some line, wire =>
          match chunkSize? line with
          | none => (.error (.refused .malformedSize), wire)
          | some 0 => (.ok parts.reverse.flatten, wire)
          | some size => readSized bodyLimit parts total size wire := by
  rw [readChunks]
  unfold andThen
  rcases upTo Bytes.crlf sizeLineLimit wire with ⟨loss | line, wire₁⟩
  · rfl
  · cases line with
    | none => rfl
    | some line =>
      dsimp only
      rcases chunkSize? line with _ | _ | size
      · rfl
      · rfl
      · simp only [readSized]
        by_cases hb : bodyLimit < total + (size + 1 : Nat)
        · rw [if_pos hb, if_pos hb]
        · rw [if_neg hb, if_neg hb]
          have hn : ((size + 1 + 2 : Nat) : Int) = ((size + 1 : Nat) : Int) + 2 := by omega
          rw [hn]
          rcases exactly (((size + 1 : Nat) : Int) + 2) wire₁ with ⟨loss | chunk, wire₂⟩ <;> rfl

theorem skipTrailers_eq (lineLimit : Int) (wire : Wire) :
    skipTrailers lineLimit wire =
      andThen (upTo Bytes.crlf lineLimit wire) fun
        | none, wire => (.error (.refused .trailersTooLarge), wire)
        | some line, wire => if line.isEmpty then (.ok (), wire) else skipTrailers lineLimit wire := by
  rw [skipTrailers]
  unfold andThen
  rcases upTo Bytes.crlf lineLimit wire with ⟨loss | line, wire₁⟩
  · rfl
  · cases line <;> rfl

namespace Stage

def begin (request : Request) : Framing → Move
  | .sized 0 => .ends request
  | .sized (n + 1) => .goes (leaveTo request) (.block request (n + 1))
  | .chunked => .goes (leaveTo request) (.sizes request [] 0)

def afterHead (limits : Limits) : Option Bytes → Move
  | none => .stops (.refused .headTooLarge)
  | some text =>
    match understand limits text with
    | .error why => .stops why
    | .ok (request, framing) => begin request framing

def measure (limits : Limits) (request : Request) (parts : List Bytes) (total : Nat) :
    Option Nat → Move
  | none => .stops (.refused .malformedSize)
  | some 0 => .goes [] (.trailers request parts.reverse.flatten)
  | some size =>
    if limits.body < total + size then .stops (.refused .bodyTooLarge)
    else .goes [] (.chunk request parts total size)

def afterSize (limits : Limits) (request : Request) (parts : List Bytes) (total : Nat) :
    Option Bytes → Move
  | none => .stops (.refused .sizeLineTooLong)
  | some line => measure limits request parts total (chunkSize? line)

def afterChunk (request : Request) (parts : List Bytes) (total size : Nat) (chunk : Bytes) : Move :=
  if chunk.drop size ≠ Bytes.crlf then .stops (.refused .malformedChunk)
  else .goes [] (.sizes request (chunk.take size :: parts) (total + size))

def afterTrailer (request : Request) (body : Bytes) : Option Bytes → Move
  | none => .stops (.refused .trailersTooLarge)
  | some line =>
    if line.isEmpty then .ends { request with body } else .goes [] (.trailers request body)

def step (limits : Limits) (stage : Stage) (bytes : Bytes) : Option (Move × Bytes) :=
  match stage with
  | start => (scanBlankLines () bytes).move? fun _ => .goes [] .head
  | head => (scanUpTo blankLine limits.head 0 bytes).move? (afterHead limits)
  | block request length => (scanExactly length () bytes).move? fun body => .ends { request with body }
  | sizes request parts total =>
    (scanUpTo Bytes.crlf sizeLineLimit 0 bytes).move? (afterSize limits request parts total)
  | chunk request parts total size =>
    (scanExactly ((size + 2 : Nat) : Int) () bytes).move? (afterChunk request parts total size)
  | trailers request body =>
    (scanUpTo Bytes.crlf limits.head 0 bytes).move? (afterTrailer request body)

def readTrailers (limits : Limits) (request : Request) (body : Bytes) (wire : Wire) :
    Except Stop Request × Wire :=
  match skipTrailers limits.head wire with
  | (.error stop, wire) => (.error stop, wire)
  | (.ok (), wire) => (.ok { request with body }, wire)

def readSizes (limits : Limits) (request : Request) (parts : List Bytes) (total : Nat) (wire : Wire) :
    Except Stop Request × Wire :=
  match readChunks limits.body parts total wire with
  | (.error stop, wire) => (.error stop, wire)
  | (.ok body, wire) => readTrailers limits request body wire

def readBlock (request : Request) (length : Nat) (wire : Wire) : Except Stop Request × Wire :=
  andThen (exactly length wire) fun body wire => (.ok { request with body }, wire)

def readRest (limits : Limits) (request : Request) (framing : Framing) (wire : Wire) :
    Except Stop Request × Wire :=
  if framing = .sized 0 then (.ok request, wire)
  else match giveLeave request wire with
    | (.error stop, wire) => (.error stop, wire)
    | (.ok (), wire) =>
      match framing with
      | .sized length => readBlock request length wire
      | .chunked => readSizes limits request [] 0 wire

def read (limits : Limits) (stage : Stage) (wire : Wire) : Except Stop Request × Wire :=
  match stage with
  | start => readRequest limits wire
  | head =>
    andThen (upTo blankLine limits.head wire) fun
      | none, wire => (.error (.refused .headTooLarge), wire)
      | some text, wire =>
        match understand limits text with
        | .error why => (.error (.fault why), wire)
        | .ok (request, framing) => readRest limits request framing wire
  | block request length => readBlock request length wire
  | sizes request parts total => readSizes limits request parts total wire
  | chunk request parts total size =>
    andThen (exactly ((size + 2 : Nat) : Int) wire) fun chunk wire =>
      if chunk.drop size ≠ Bytes.crlf then (.error (.refused .malformedChunk), wire)
      else readSizes limits request (chunk.take size :: parts) (total + size)
        (wire.gather (total + size))
  | trailers request body => readTrailers limits request body wire

theorem read_trailers (limits : Limits) (request : Request) (body : Bytes) (wire : Wire) :
    read limits (.trailers request body) wire =
      andThen (upTo Bytes.crlf limits.head wire) fun
        | none, wire => (.error (.refused .trailersTooLarge), wire)
        | some line, wire =>
          if line.isEmpty then (.ok { request with body }, wire)
          else read limits (.trailers request body) wire := by
  rw [read, readTrailers, skipTrailers_eq]
  unfold andThen
  rcases upTo Bytes.crlf limits.head wire with ⟨loss | line, wire₁⟩
  · rfl
  · cases line with
    | none => rfl
    | some line => by_cases hl : line.isEmpty <;> simp [hl, read, readTrailers]

theorem read_sizes (limits : Limits) (request : Request) (parts : List Bytes) (total : Nat)
    (wire : Wire) :
    read limits (.sizes request parts total) wire =
      andThen (upTo Bytes.crlf sizeLineLimit wire) fun
        | none, wire => (.error (.refused .sizeLineTooLong), wire)
        | some line, wire =>
          match chunkSize? line with
          | none => (.error (.refused .malformedSize), wire)
          | some 0 => read limits (.trailers request parts.reverse.flatten) wire
          | some size =>
            if limits.body < total + size then (.error (.refused .bodyTooLarge), wire)
            else read limits (.chunk request parts total size) wire := by
  rw [read, readSizes, readChunks_eq]
  unfold andThen
  rcases upTo Bytes.crlf sizeLineLimit wire with ⟨loss | line, wire₁⟩
  · rfl
  · cases line with
    | none => rfl
    | some line =>
      dsimp only
      rcases chunkSize? line with _ | _ | size
      · rfl
      · rfl
      · simp only [readSized]
        by_cases hb : limits.body < total + (size + 1 : Nat)
        · rw [if_pos hb, if_pos hb]
        · rw [if_neg hb, if_neg hb, read]
          unfold andThen
          rcases exactly ((size + 1 + 2 : Nat) : Int) wire₁ with ⟨loss | chunk, wire₂⟩
          · rfl
          · dsimp only
            by_cases hc : chunk.drop (size + 1) ≠ Bytes.crlf
            · rw [if_pos hc, if_pos hc]
            · rw [if_neg hc, if_neg hc, readSizes]

theorem read_start (limits : Limits) (wire : Wire) :
    read limits .start wire = andThen (skipBlankLines wire) fun _ wire => read limits .head wire := by
  rw [read, readRequest, readHead]
  unfold andThen
  rcases skipBlankLines wire with ⟨loss | _, wire₁⟩
  · rfl
  · dsimp only
    rw [read]
    unfold andThen
    rcases upTo blankLine limits.head wire₁ with ⟨loss | head, wire₂⟩
    · rfl
    · cases head with
      | none => rfl
      | some head =>
        dsimp only
        rcases understand limits head with why | ⟨request, framing⟩
        · rfl
        · dsimp only
          rw [readRest]
          by_cases hf : framing = .sized 0
          · rw [if_pos hf, if_pos hf]
          · rw [if_neg hf, if_neg hf]
            rcases giveLeave request wire₂ with ⟨stop | _, wire₃⟩
            · rfl
            · cases framing with
              | sized length =>
                simp only [readBody, readBlock, andThen]
                rcases exactly length wire₃ with ⟨loss | body, wire₄⟩ <;> rfl
              | chunked =>
                simp only [readBody, readChunked, readSizes, readTrailers]
                rcases readChunks limits.body [] 0 wire₃ with ⟨stop | body, wire₄⟩
                · rfl
                · dsimp only
                  rcases skipTrailers limits.head wire₄ with ⟨stop | _, wire₅⟩ <;> rfl

/-- The line that comes next straddles its limit, so that it may be refused with this reason. -/
inductive Strays (limits : Limits) : Stage → Bytes → Refusal → Prop
  | head {bytes : Bytes} (h : Straddles blankLine limits.head bytes) :
      Strays limits .head bytes .headTooLarge
  | size {request : Request} {parts : List Bytes} {total : Nat} {bytes : Bytes}
      (h : Straddles Bytes.crlf sizeLineLimit bytes) :
      Strays limits (.sizes request parts total) bytes .sizeLineTooLong
  | trailer {request : Request} {body bytes : Bytes}
      (h : Straddles Bytes.crlf limits.head bytes) :
      Strays limits (.trailers request body) bytes .trailersTooLarge

end Stage

end FixedReply.Wire
