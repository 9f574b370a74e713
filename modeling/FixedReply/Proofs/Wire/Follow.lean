import FixedReply.Proofs.Wire.Stages

namespace FixedReply.Wire

open Http (Request Framing)

variable {α β : Type} {wire next : Wire} {limits : Limits} {stage later : Stage} {said : List Act}

def chosen (move : α → Move) : Except Loss α × Wire → Except Loss Move × Wire
  | (.error loss, wire) => (.error loss, wire)
  | (.ok a, wire) => (.ok (move a), wire)

theorem andThen_chosen (move : α → Move) (taken : Except Loss α × Wire)
    (onward : Move → Wire → Except Stop β × Wire) :
    andThen (chosen move taken) onward = andThen taken fun a wire => onward (move a) wire := by
  obtain ⟨loss | a, wire⟩ := taken <;> rfl

@[simp] theorem chosen_snd (move : α → Move) (taken : Except Loss α × Wire) :
    (chosen move taken).2 = taken.2 := by
  obtain ⟨loss | a, wire⟩ := taken <;> rfl

def say : List Act → Wire → Except Failures Unit × Wire
  | .sent data :: rest, wire =>
    match wire.send data with
    | (.error what, wire) => (.error what, wire)
    | (.ok (), wire) => say rest wire
  | _ :: rest, wire => say rest wire
  | [], wire => (.ok (), wire)

/-- To say something changes nothing of a wire but its history, and what fails is a sending. -/
theorem say_eq (said : List Act) (wire : Wire) :
    ∃ history, (say said wire).2 = { wire with history } ∧
      (say said wire).2.received = wire.received ∧
      ∀ what, (say said wire).1 = .error what → (say said wire).2.Mute := by
  fun_induction say said wire with
  | case1 data rest wire what next hs =>
    rcases send_eq wire data with he | ⟨hm, _, he⟩ <;> rw [he] at hs <;> cases hs
    exact ⟨_, rfl, rfl, fun _ _ => hm⟩
  | case2 data rest wire next hs ih =>
    rcases send_eq wire data with he | ⟨-, _, he⟩ <;> rw [he] at hs <;> cases hs
    obtain ⟨history, hnext, hr, hm⟩ := ih
    exact ⟨history, hnext, hr.trans (by simp [received, note]), hm⟩
  | case3 act rest wire _ ih => exact ih
  | case4 => exact ⟨_, rfl, rfl, by simp⟩

theorem unread_say (said : List Act) (wire : Wire) : (say said wire).2.unread = wire.unread := by
  obtain ⟨history, hs, -⟩ := say_eq said wire
  rw [hs]
  rfl

namespace Stage

def take (limits : Limits) (stage : Stage) (wire : Wire) : Except Loss Move × Wire :=
  match stage with
  | start => chosen (fun _ => .goes [] .head) (skipBlankLines wire)
  | head => chosen (afterHead limits) (upTo blankLine limits.head wire)
  | block request length => chosen (fun body => .ends { request with body }) (exactly length wire)
  | sizes request parts total =>
    chosen (afterSize limits request parts total) (upTo Bytes.crlf sizeLineLimit wire)
  | chunk request parts total size =>
    chosen (afterChunk request parts total size) (exactly ((size + 2 : Nat) : Int) wire)
  | trailers request body => chosen (afterTrailer request body) (upTo Bytes.crlf limits.head wire)

def enter (stage : Stage) (wire : Wire) : Wire :=
  match stage with
  | sizes _ _ total => wire.gather total
  | _ => wire

def follow (limits : Limits) (move : Move) (wire : Wire) : Except Stop Request × Wire :=
  match move with
  | .ends request => (.ok request, wire)
  | .stops why => (.error (.fault why), wire)
  | .goes said later =>
    match say said wire with
    | (.error what, wire) => (.error (.lost (.broken what)), wire)
    | (.ok (), wire) => later.read limits (later.enter wire)

end Stage

theorem gather_zero (wire : Wire) : wire.gather 0 = wire := by
  simp [gather]

/-- Leave is given by saying it. -/
theorem say_leaveTo (request : Request) (wire : Wire) :
    giveLeave request wire = match say (leaveTo request) wire with
      | (.error what, wire) => (.error (.lost (.broken what)), wire)
      | (.ok (), wire) => (.ok (), wire) := by
  unfold giveLeave leaveTo
  split
  · unfold say
    rcases wire.send leave with ⟨what | _, wire⟩ <;> rfl
  · rfl

namespace Stage

theorem follow_begin (limits : Limits) (request : Request) (framing : Framing) (wire : Wire) :
    follow limits (begin request framing) wire = readRest limits request framing wire := by
  unfold readRest
  rw [say_leaveTo]
  rcases framing with _ | _ | n
  · simp only [begin, follow, enter, gather_zero]
    rcases say (leaveTo request) wire with ⟨what | _, wire⟩ <;> rfl
  · rfl
  · simp only [begin, follow, enter]
    rcases say (leaveTo request) wire with ⟨what | _, wire⟩ <;> rfl

/-- To read is to take something and to follow the move that it leads to. -/
theorem read_eq (limits : Limits) (stage : Stage) (wire : Wire) :
    stage.read limits wire = andThen (stage.take limits wire) (follow limits) := by
  cases stage with
  | start =>
    rw [read_start, take, andThen_chosen]
    rfl
  | head =>
    rw [read, take, andThen_chosen]
    congr
    funext line next
    cases line with
    | none => rfl
    | some text =>
      dsimp only [afterHead]
      cases understand limits text with
      | error why => rfl
      | ok understood => exact (follow_begin limits _ _ next).symm
  | block request length =>
    rw [take, andThen_chosen]
    rfl
  | sizes request parts total =>
    rw [read_sizes, take, andThen_chosen]
    congr
    funext line next
    cases line with
    | none => rfl
    | some line =>
      dsimp only [afterSize]
      rcases chunkSize? line with _ | _ | size
      · rfl
      · rfl
      · simp only [measure]
        split <;> rfl
  | chunk request parts total size =>
    rw [read, take, andThen_chosen]
    congr
    funext chunk next
    dsimp only [afterChunk]
    split <;> rfl
  | trailers request body =>
    rw [read_trailers, take, andThen_chosen]
    congr
    funext line next
    cases line with
    | none => rfl
    | some line =>
      dsimp only [afterTrailer]
      split <;> rfl

theorem take_ok {taken : Except Loss α × Wire} {after : α → Move} {move : Move}
    (h : chosen after taken = (.ok move, next)) : ∃ a, taken = (.ok a, next) ∧ after a = move := by
  obtain ⟨loss | a, wire⟩ := taken
  · cases h
  · simp only [chosen, Prod.mk.injEq, Except.ok.injEq] at h
    obtain ⟨ha, rfl⟩ := h
    exact ⟨a, rfl, ha⟩

theorem take_error {taken : Except Loss α × Wire} {after : α → Move} {loss : Loss}
    (h : chosen after taken = (.error loss, next)) : taken = (.error loss, next) := by
  obtain ⟨lost | a, wire⟩ := taken
  · cases h
    rfl
  · cases h

/-- What bounds the moves that may still follow. The blank lines in front of a request may take
nothing, and neither may a chunk in the eyes of the line with its size. -/
def toGo (stage : Stage) (wire : Wire) : Nat :=
  match stage with
  | start | chunk _ _ _ _ => 2 * wire.unread + 1
  | _ => 2 * wire.unread

theorem toGo_enter (stage : Stage) (wire : Wire) : stage.toGo (stage.enter wire) = stage.toGo wire := by
  cases stage <;> rfl

theorem toGo_le (stage : Stage) (wire : Wire) : stage.toGo wire ≤ 2 * wire.unread + 1 := by
  cases stage <;> simp [toGo]

theorem toGo_of_line {marker line : Bytes} {limit : Int} (hm : 2 ≤ marker.length)
    (h : upTo marker limit wire = (.ok (some line), next)) (later : Stage) :
    later.toGo next < 2 * wire.unread := by
  have hunread := unread_of_upTo h
  have hle := later.toGo_le next
  omega

theorem toGo_of_take (h : stage.take limits wire = (.ok (.goes said later), next)) :
    later.toGo next < stage.toGo wire := by
  have hline : ∀ {marker : Bytes} {limit : Int} {move : Option Bytes → Move}, 2 ≤ marker.length →
      (∀ later, move none ≠ .goes said later) →
        chosen move (upTo marker limit wire) = (.ok (.goes said later), next) →
          later.toGo next < 2 * wire.unread := by
    intro marker limit move hm hn h
    obtain ⟨line, ht, ha⟩ := take_ok h
    cases line with
    | none => exact absurd ha (hn later)
    | some line => exact toGo_of_line hm ht later
  cases stage with
  | start =>
    obtain ⟨_, ht, ha⟩ := take_ok h
    have hunread := unread_skipBlankLines wire
    rw [ht] at hunread
    cases ha
    simp only [toGo] at hunread ⊢
    omega
  | head => exact hline (by decide) (fun _ => Move.noConfusion) h
  | block request length =>
    obtain ⟨_, _, ha⟩ := take_ok h
    cases ha
  | sizes request parts total => exact hline (by decide) (fun _ => Move.noConfusion) h
  | chunk request parts total size =>
    obtain ⟨chunk, ht, ha⟩ := take_ok h
    have hunread := unread_exactly ((size + 2 : Nat) : Int) wire
    rw [ht] at hunread
    unfold afterChunk at ha
    split at ha
    · cases ha
    · cases ha
      simp only [toGo] at hunread ⊢
      omega
  | trailers request body => exact hline (by decide) (fun _ => Move.noConfusion) h

end Stage

inductive Reading (limits : Limits) : Stage → Wire → Except Stop Request × Wire → Prop
  | lost {stage : Stage} {wire next : Wire} {loss : Loss}
      (ht : stage.take limits wire = (.error loss, next)) :
      Reading limits stage wire (.error (.lost loss), next)
  | ends {stage : Stage} {wire next : Wire} {request : Request}
      (ht : stage.take limits wire = (.ok (.ends request), next)) :
      Reading limits stage wire (.ok request, next)
  | stops {stage : Stage} {wire next : Wire} {why : Http.Fault}
      (ht : stage.take limits wire = (.ok (.stops why), next)) :
      Reading limits stage wire (.error (.fault why), next)
  | unsent {stage later : Stage} {wire taken next : Wire} {said : List Act} {what : Failures}
      (ht : stage.take limits wire = (.ok (.goes said later), taken))
      (hs : say said taken = (.error what, next)) :
      Reading limits stage wire (.error (.lost (.broken what)), next)
  | goes {stage later : Stage} {wire taken next : Wire} {said : List Act}
      {result : Except Stop Request × Wire}
      (ht : stage.take limits wire = (.ok (.goes said later), taken))
      (hs : say said taken = (.ok (), next))
      (onward : Reading limits later (later.enter next) result) : Reading limits stage wire result

/-- To read is to go on like this. -/
theorem reading (limits : Limits) (stage : Stage) (wire : Wire) :
    Reading limits stage wire (stage.read limits wire) := by
  induction hw : stage.toGo wire using Nat.strongRecOn generalizing stage wire with
  | ind bound ih =>
    rw [Stage.read_eq]
    cases ht : stage.take limits wire with
    | mk result taken =>
      rcases result with loss | said | request | why
      · exact .lost ht
      · rename_i later
        simp only [andThen, Stage.follow]
        have hunread := unread_say said taken
        cases hs : say said taken with
        | mk result next =>
          rw [hs] at hunread
          cases result with
          | error what => exact .unsent ht hs
          | ok _ =>
            refine .goes ht hs (ih _ ?_ later _ rfl)
            have hlt := Stage.toGo_of_take ht
            have hsame : later.toGo next = later.toGo taken := by
              cases later <;> simp only [Stage.toGo] <;> rw [hunread]
            rw [Stage.toGo_enter, ← hw]
            omega
      · exact .ends ht
      · exact .stops ht

end FixedReply.Wire
