import FixedReply.Proofs.Http.WrittenHead
import FixedReply.Proofs.Wire.Lines
import FixedReply.Proofs.Wire.Outcome

namespace FixedReply.Wire

open Http (Request WrittenHead FieldLine Framing)

/-- The first blank line behind a written head is the one that ends it. -/
theorem isFirst_head (head : WrittenHead) (rest : Bytes) :
    Bytes.IsFirst blankLine (head.bytes ++ blankLine ++ rest) 0 head.bytes.length := by
  have hlines : head.bytes = Bytes.ofText (head.requestLine ++
      (head.fields.map FieldLine.text).flatMap fun line => '\r' :: '\n' :: line) := by
    rw [WrittenHead.bytes, WrittenHead.text, List.flatMap_map]
  rw [hlines]
  apply isFirst_lines
  · exact fun c hc => (head.requestLine_plain hc).1
  · exact Text.isLine_of_not_mem fun hc => (head.requestLine_plain hc).2.1 rfl
  · intro line hm
    obtain ⟨field, -, rfl⟩ := List.mem_map.mp hm
    exact ⟨by simp [FieldLine.text], field.text_latin, Text.isLine_of_not_mem field.text_unbroken⟩

/-- No line end is in front of a written head. -/
theorem head_front (head : WrittenHead) : ∃ b tail, head.bytes = b :: tail ∧ b ≠ Bytes.cr := by
  obtain ⟨c, more, hm⟩ := List.exists_cons_of_ne_nil head.method_ne_nil
  have hc := head.method_plain (hm ▸ List.mem_cons_self : c ∈ head.method)
  have hbytes : ∃ tail, head.bytes = c.toNat.toUInt8 :: tail := by
    simp [WrittenHead.bytes, WrittenHead.text, WrittenHead.requestLine, hm, Bytes.ofText]
  obtain ⟨tail, hb⟩ := hbytes
  refine ⟨_, tail, hb, fun he => ?_⟩
  have hn := congrArg UInt8.toNat he
  simp [Bytes.cr] at hn
  omega

theorem dropBlankLines_cons {b : UInt8} (h : b ≠ Bytes.cr) (rest : Bytes) :
    dropBlankLines (b :: rest) = b :: rest := by
  unfold dropBlankLines
  split
  · rename_i he
    exact absurd (List.cons.inj he).1 h
  · rfl

structure SizeLine (size : Nat) where
  line : Bytes
  spelled : chunkSize? line = some size
  whole : Bytes.IsFirst Bytes.crlf (line ++ Bytes.crlf) 0 line.length
  short : (line.length : Int) < sizeLineLimit

structure Chunk where
  data : Bytes
  size : SizeLine data.length
  nonempty : data ≠ []

def Chunk.bytes (chunk : Chunk) : Bytes :=
  chunk.size.line ++ Bytes.crlf ++ (chunk.data ++ Bytes.crlf)

inductive WrittenBody
  | absent
  | sized (length : List Char) (content : Bytes)
  | chunked (chunks : List Chunk) (last : SizeLine 0)

namespace WrittenBody

def content : WrittenBody → Bytes
  | absent => []
  | sized _ content => content
  | chunked chunks _ => chunks.flatMap Chunk.data

def bytes : WrittenBody → Bytes
  | absent => []
  | sized _ content => content
  | chunked chunks last =>
    chunks.flatMap Chunk.bytes ++ (last.line ++ Bytes.crlf ++ Bytes.crlf)

def FramedBy (body : WrittenBody) (headers : Http.Fields) : Prop :=
  match body with
  | absent => headers.find? "transfer-encoding" = none ∧ headers.find? "content-length" = none
  | sized length content =>
    headers.find? "transfer-encoding" = none ∧
      headers.find? "content-length" = some (String.ofList length) ∧
      length ≠ [] ∧ length.all Char.isDigit ∧ length.length ≤ Text.digitLimit ∧
      Text.ofDigits (length.map fun d => d.toNat - 48) = content.length
  | chunked _ _ =>
    headers.find? "transfer-encoding" = some "chunked" ∧ headers.find? "content-length" = none

def framing : WrittenBody → Framing
  | absent => .sized 0
  | sized _ content => .sized content.length
  | chunked _ _ => .chunked

/-- The fields that frame a body are understood as its framing. -/
theorem FramedBy.ofHeaders {body : WrittenBody} {headers : Http.Fields}
    (h : body.FramedBy headers) : Framing.ofHeaders headers = .ok body.framing := by
  unfold Framing.ofHeaders
  cases body with
  | absent =>
    obtain ⟨ht, hl⟩ := h
    rw [ht, hl]
    rfl
  | sized length content =>
    obtain ⟨ht, hl, hne, hd, hlen, hv⟩ := h
    have hr : Framing.readLength (String.ofList length) = .ok content.length := by
      simp only [Framing.readLength, String.toList_ofList, List.isEmpty_iff, hne, hd, ↓reduceIte,
        Bool.not_true, Bool.false_eq_true, Nat.not_lt.mpr hlen, hv]
    rw [ht, hl]
    simp only [Option.getD_some, hr]
    rfl
  | chunked chunks last =>
    obtain ⟨ht, hl⟩ := h
    rw [ht]
    have hc : Text.lower (Text.trim Text.isBlank "chunked".toList) = "chunked".toList := by
      decide +kernel
    simp only [hc, ne_eq, not_true_eq_false, ↓reduceIte, Http.Fields.has, hl, Option.isSome_none,
      Bool.false_eq_true]
    rfl

end WrittenBody

structure Written where
  head : WrittenHead
  body : WrittenBody
  framed : body.FramedBy head.request.headers

namespace Written

def request (written : Written) : Request :=
  { written.head.request with body := written.body.content }

def bytes (written : Written) : Bytes :=
  written.head.bytes ++ blankLine ++ written.body.bytes

structure Fits (limits : Limits) (written : Written) : Prop where
  head : (written.head.bytes.length : Int) + 3 ≤ limits.head
  body : written.body.content ≠ [] → (written.body.content.length : Int) ≤ limits.body

def leave (written : Written) : List Act :=
  if written.body.framing = .sized 0 then [] else leaveTo written.request

end Written

/-- The reader comes from a stage to the end of a request, and no line on the way straddles its
limit. -/
inductive Clean (limits : Limits) : Stage → Bytes → List Act → Request → Bytes → Prop
  | ends {stage : Stage} {bytes rest : Bytes} {request : Request}
      (hs : ∀ why, ¬ stage.Strays limits bytes why)
      (step : stage.step limits bytes = some (.ends request, rest)) :
      Clean limits stage bytes [] request rest
  | goes {stage later : Stage} {bytes left rest : Bytes} {said acts : List Act} {request : Request}
      (hs : ∀ why, ¬ stage.Strays limits bytes why)
      (step : stage.step limits bytes = some (.goes said later, left))
      (onward : Clean limits later left acts request rest) :
      Clean limits stage bytes (said ++ acts) request rest

variable {limits : Limits} {stage later : Stage} {bytes left rest : Bytes} {acts : List Act}
  {request : Request}

theorem Clean.quietly (hs : ∀ why, ¬ stage.Strays limits bytes why)
    (step : stage.step limits bytes = some (.goes [] later, left))
    (onward : Clean limits later left acts request rest) :
    Clean limits stage bytes acts request rest :=
  .goes hs step onward

theorem Clean.outcome (h : Clean limits stage bytes acts request rest) :
    Wire.outcome limits stage bytes = (acts, .read request rest) := by
  induction h with
  | ends hs step => exact outcome_ends step
  | goes hs step _ ih => rw [outcome_goes step, ih]

theorem Clean.not_strays (h : Clean limits stage bytes acts request rest) {said : List Act}
    {last : Stage} {left : Bytes} (walk : Walk limits stage bytes said last left) (why : Http.Refusal) :
    ¬ last.Strays limits left why := by
  induction h generalizing said with
  | ends hs step =>
    cases walk with
    | here => exact hs why
    | on step' =>
      rw [step] at step'
      cases step'
  | goes hs step _ ih =>
    cases walk with
    | here => exact hs why
    | on step' onward =>
      rw [step] at step'
      cases step'
      exact ih onward

/-- A line with room for its marker is taken, and does not straddle its limit. -/
theorem line_clean {marker line : Bytes} {limit : Int} (hm : marker ≠ [])
    (hf : Bytes.IsFirst marker (line ++ marker ++ rest) 0 line.length)
    (hl : (line.length : Int) + marker.length ≤ limit + 1) :
    scanUpTo marker limit 0 (line ++ marker ++ rest) = .found (some line) rest ∧
      ¬ Straddles marker limit (line ++ marker ++ rest) := by
  have hpos := List.length_pos_iff.mpr hm
  refine ⟨(scanUpTo_found hm).mpr ⟨rfl, by omega, hf⟩, ?_⟩
  intro he
  obtain ⟨i, hi, -, hlong⟩ := he
  rw [hi.unique hf] at hlong
  omega

theorem crlf_ne_nil : Bytes.crlf ≠ [] := List.cons_ne_nil _ _

def SizeLine.ofFind {size : Nat} (line : Bytes) (spelled : chunkSize? line = some size)
    (whole : (line ++ Bytes.crlf).find? Bytes.crlf 0 = some line.length)
    (short : (line.length : Int) < sizeLineLimit) : SizeLine size :=
  ⟨line, spelled, (Bytes.find?_eq_some_iff crlf_ne_nil).mp whole, short⟩

theorem SizeLine.clean {size : Nat} (line : SizeLine size) (rest : Bytes) :
    scanUpTo Bytes.crlf sizeLineLimit 0 (line.line ++ Bytes.crlf ++ rest) =
        .found (some line.line) rest ∧
      ¬ Straddles Bytes.crlf sizeLineLimit (line.line ++ Bytes.crlf ++ rest) := by
  apply line_clean crlf_ne_nil (line.whole.append crlf_ne_nil)
  have := line.short
  have hc : Bytes.crlf.length = 2 := rfl
  omega

theorem clean_trailers (hh : 1 ≤ limits.head) (request : Request) (body rest : Bytes) :
    Clean limits (.trailers request body) (Bytes.crlf ++ rest) [] { request with body } rest := by
  have hfirst : Bytes.IsFirst Bytes.crlf ([] ++ Bytes.crlf ++ rest) 0 ([] : Bytes).length :=
    ⟨Nat.le_refl 0, List.prefix_append _ _, fun j _ hj => absurd hj (Nat.not_lt_zero j)⟩
  have hroom : (([] : Bytes).length : Int) + Bytes.crlf.length ≤ limits.head + 1 := by
    have hc : Bytes.crlf.length = 2 := rfl
    simp only [List.length_nil, hc]
    omega
  obtain ⟨hf, hs⟩ := line_clean crlf_ne_nil hfirst hroom
  rw [List.nil_append] at hf hs
  refine .ends ?_ (Scan.move?_eq_some.mpr ⟨_, hf, rfl⟩)
  intro why h
  cases h with
  | trailer h => exact hs h

section

variable {parts : List Bytes} {total : Nat} {given : Request}

/-- A size line leads on to what its size asks for. -/
theorem clean_size {size : Nat} (line : SizeLine size)
    (hm : Stage.measure limits given parts total (some size) = .goes [] later)
    (onward : Clean limits later left acts request rest) :
    Clean limits (.sizes given parts total) (line.line ++ Bytes.crlf ++ left) acts request rest := by
  obtain ⟨hf, hs⟩ := line.clean left
  have hafter : Stage.afterSize limits given parts total (some line.line) = .goes [] later := by
    rw [Stage.afterSize, line.spelled, hm]
  refine .quietly ?_ (Scan.move?_eq_some.mpr ⟨_, hf, hafter⟩) onward
  intro why h
  cases h with
  | size h => exact hs h

/-- A chunk with its line end is taken, and its data are gathered. -/
theorem clean_chunk (data : Bytes)
    (onward : Clean limits (.sizes given (data :: parts) (total + data.length)) left acts request
      rest) :
    Clean limits (.chunk given parts total data.length) (data ++ Bytes.crlf ++ left) acts request
      rest := by
  have hlen : (data ++ Bytes.crlf).length = data.length + 2 := by
    rw [List.length_append]
    rfl
  have hafter : Stage.afterChunk given parts total data.length (data ++ Bytes.crlf) =
      .goes [] (.sizes given (data :: parts) (total + data.length)) := by
    rw [Stage.afterChunk, List.drop_left, if_neg (not_not_intro rfl), List.take_left]
  refine .quietly ?_ (Scan.move?_eq_some.mpr ⟨_, scanExactly_found.mpr ⟨rfl, hlen⟩, hafter⟩) onward
  intro why h
  cases h

end

/-- The chunks that are left are gathered behind the parts that there are. -/
theorem clean_sizes (hh : 1 ≤ limits.head) {chunks : List Chunk} {total : Nat}
    (hb : chunks ≠ [] → (total : Int) + (chunks.flatMap Chunk.data).length ≤ limits.body)
    (last : SizeLine 0) (request : Request) (parts : List Bytes) (rest : Bytes) :
    Clean limits (.sizes request parts total)
      (chunks.flatMap Chunk.bytes ++ (last.line ++ Bytes.crlf ++ Bytes.crlf) ++ rest) []
      { request with body := parts.reverse.flatten ++ chunks.flatMap Chunk.data } rest := by
  induction chunks generalizing total parts with
  | nil =>
    have hend := clean_trailers hh request parts.reverse.flatten rest
    simpa using clean_size last rfl hend
  | cons chunk chunks ih =>
    have hbody := hb (List.cons_ne_nil _ _)
    simp only [List.flatMap_cons, List.length_append, Int.natCast_add] at hbody
    have hroom : chunks ≠ [] →
        ((total + chunk.data.length : Nat) : Int) + (chunks.flatMap Chunk.data).length ≤
          limits.body := fun _ => by omega
    have hm : Stage.measure limits request parts total (some chunk.data.length) =
        .goes [] (.chunk request parts total chunk.data.length) := by
      obtain ⟨size, hsize⟩ := Nat.exists_eq_add_of_lt (List.length_pos_iff.mpr chunk.nonempty)
      rw [Nat.zero_add] at hsize
      rw [hsize, Stage.measure, if_neg (by omega)]
      simp
    have honward := ih hroom (chunk.data :: parts)
    simpa [Chunk.bytes] using clean_size chunk.size hm (clean_chunk chunk.data honward)

namespace Written

variable (written : Written)

theorem understood (h : written.Fits limits) :
    understand limits written.head.bytes = .ok (written.head.request, written.body.framing) := by
  have hb := h.body
  rw [understand, written.head.read_bytes]
  simp only [written.framed.ofHeaders]
  cases hbody : written.body with
  | absent => simp [WrittenBody.framing]
  | sized length content =>
    rw [hbody] at hb
    have hle : ¬ (0 < content.length ∧ limits.body < content.length) := by
      intro he
      obtain ⟨hpos, hlt⟩ := he
      have := hb (List.length_pos_iff.mp hpos)
      simp only [WrittenBody.content] at this
      omega
    simp only [WrittenBody.framing, if_neg hle]
  | chunked chunks last => rfl

/-- What comes after the head is taken as the body that was written. -/
theorem clean_body (h : written.Fits limits) (rest : Bytes) :
    (∃ said later, Stage.begin written.head.request written.body.framing = .goes said later ∧
        said = written.leave ∧
        Clean limits later (written.body.bytes ++ rest) [] written.request rest) ∨
      (Stage.begin written.head.request written.body.framing = .ends written.request ∧
        written.leave = [] ∧ written.body.bytes = []) := by
  have hb := h.body
  have hh := h.head
  unfold leave
  cases hbody : written.body with
  | absent =>
    right
    refine ⟨?_, rfl, rfl⟩
    simp only [WrittenBody.framing, request, hbody, WrittenBody.content]
    rfl
  | sized length content =>
    cases content with
    | nil =>
      right
      refine ⟨?_, rfl, rfl⟩
      simp only [WrittenBody.framing, request, hbody, WrittenBody.content]
      rfl
    | cons b content =>
      left
      refine ⟨_, _, rfl, rfl, .ends ?_ (Scan.move?_eq_some.mpr
        ⟨b :: content, scanExactly_found.mpr ⟨rfl, rfl⟩, ?_⟩)⟩
      · intro why h
        cases h
      · rw [request, hbody]
        rfl
  | chunked chunks last =>
    left
    refine ⟨_, _, rfl, rfl, ?_⟩
    have hroom : chunks ≠ [] →
        ((0 : Nat) : Int) + (chunks.flatMap Chunk.data).length ≤ limits.body := by
      intro hne
      have hfirst : chunks.flatMap Chunk.data ≠ [] := by
        obtain ⟨chunk, chunks, rfl⟩ := List.exists_cons_of_ne_nil hne
        simp [chunk.nonempty]
      have := hb (by rw [hbody]; exact hfirst)
      rw [hbody] at this
      simpa [WrittenBody.content] using this
    rw [request, hbody]
    exact clean_sizes (by omega) hroom last written.head.request [] rest

theorem clean_head (h : written.Fits limits) (rest : Bytes) :
    Clean limits .head (written.bytes ++ rest) written.leave written.request rest := by
  have hhead := h.head
  have hroom : (written.head.bytes.length : Int) + blankLine.length ≤ limits.head + 1 := by
    have hc : blankLine.length = 4 := rfl
    omega
  obtain ⟨hf, hs⟩ := line_clean (by simp [blankLine, Bytes.crlf])
    (isFirst_head written.head (written.body.bytes ++ rest)) hroom
  have hwhole : written.bytes ++ rest =
      written.head.bytes ++ blankLine ++ (written.body.bytes ++ rest) := by simp [bytes]
  have hstray : ∀ why, ¬ Stage.head.Strays limits
      (written.head.bytes ++ blankLine ++ (written.body.bytes ++ rest)) why := by
    intro why h
    cases h with
    | head h => exact hs h
  rw [hwhole]
  have hafter : Stage.afterHead limits (some written.head.bytes) =
      Stage.begin written.head.request written.body.framing := by
    simp only [Stage.afterHead, written.understood h]
  rcases written.clean_body h rest with ⟨said, later, hb, rfl, hc⟩ | ⟨hb, hl, hn⟩
  · rw [← List.append_nil written.leave]
    exact .goes hstray (Scan.move?_eq_some.mpr ⟨_, hf, hafter.trans hb⟩) hc
  · rw [hn, List.nil_append] at hf hstray ⊢
    rw [hl]
    exact .ends hstray (Scan.move?_eq_some.mpr ⟨_, hf, hafter.trans hb⟩)

/-- A request is read from where it begins, with line ends before it, to where it ends. -/
theorem clean (h : written.Fits limits) (n : Nat) (rest : Bytes) :
    Clean limits .start (gap n ++ written.bytes ++ rest) written.leave written.request rest := by
  obtain ⟨b, front, hb, hcr⟩ := head_front written.head
  obtain ⟨tail, htail⟩ : ∃ tail, written.bytes ++ rest = b :: tail := by
    simp [bytes, hb]
  have hdrop : dropBlankLines (gap n ++ written.bytes ++ rest) = written.bytes ++ rest := by
    rw [List.append_assoc, dropBlankLines_gap, htail, dropBlankLines_cons hcr]
  refine .quietly ?_ (Scan.move?_eq_some.mpr ⟨(), scanBlankLines_found.mpr ⟨rfl, ?_⟩, rfl⟩) ?_
  · intro why h
    cases h
  · rw [hdrop, htail]
    exact ⟨List.cons_ne_nil _ _, fun he => hcr (List.cons.inj he).1⟩
  · rw [hdrop]
    exact written.clean_head h rest

end Written

end FixedReply.Wire
