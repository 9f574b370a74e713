import FixedReply.Proofs.Wire.Coding

namespace FixedReply.Wire

variable {pad : UInt8 → Bool} {headLimit bodyLimit : Int} {wire : Wire} {rest after : Bytes} {size : Nat}

def SizeFits (line : Bytes) : Prop := Bytes.cr ∉ line ∧ line.length ≤ 4095

instance (line : Bytes) : Decidable (SizeFits line) := inferInstanceAs (Decidable (_ ∧ _))

theorem SizeFits.short {line : Bytes} (h : SizeFits line) : Ended line ∧ line.length ≤ 4095 :=
  ⟨ended_of_not_mem h.1, h.2⟩

structure Coding.Fits (headLimit : Int) (coding : Coding pad) : Prop where
  sizes : ∀ line ∈ coding.sizeLines, SizeFits line
  trailers : ∀ line ∈ coding.trailers, Bytes.cr ∉ line ∧ (line.length : Int) ≤ headLimit - 1

/-- A reading comes to this result and leaves these bytes, unless it is given up at a deadline. -/
inductive Settles (wire : Wire) (result : Except Stop Bytes) (rest : Bytes) :
    Except Stop Bytes × Wire → Prop
  | so {next : Wire} (hn : next.ahead = rest) : Settles wire result rest (result, next)
  | expired {next : Wire} (hd : wire.deadline ≠ none) :
      Settles wire result rest (.error (.lost .expired), next)

/-- Without a deadline the result is come to. -/
theorem Settles.unhurried {result : Except Stop Bytes} {read : Except Stop Bytes × Wire}
    (h : Settles wire result rest read) (hd : wire.deadline = none) :
    ∃ next, read = (result, next) ∧ next.ahead = rest := by
  cases h with
  | so hn => exact ⟨_, rfl, hn⟩
  | expired hx => exact absurd hd hx

/-- What all that lies ahead leads to is what a reading comes to, unless it is given up at a deadline. -/
theorem out_of_leads {Out : Except Stop Bytes × Wire → Prop}
    (h : whole.Leads Out (readChunked headLimit bodyLimit wire)) :
    Out (readChunked headLimit bodyLimit wire) ∨
      (readChunked headLimit bodyLimit wire).1 = .error (.lost .expired) ∧ wire.deadline ≠ none := by
  rcases h with h | ⟨-, he⟩
  · exact .inl h
  · refine .inr ⟨he, ?_⟩
    cases hr : readChunked headLimit bodyLimit wire with
    | mk read next =>
      rw [hr] at he
      dsimp only at he
      subst he
      exact (onward_readChunked hr).deadline.2 (by simp [stopTraces, Stop.traces, Loss.traces])

theorem settles_of_leads {result : Except Stop Bytes}
    (h : whole.Leads (fun r => ∃ next, r = (result, next) ∧ next.ahead = rest)
      (readChunked headLimit bodyLimit wire)) :
    Settles wire result rest (readChunked headLimit bodyLimit wire) := by
  have hout := out_of_leads h
  generalize readChunked headLimit bodyLimit wire = read at hout
  rcases hout with ⟨next, rfl, hn⟩ | ⟨he, hd⟩
  · exact .so hn
  · obtain ⟨result, next⟩ := read
    dsimp only at he
    subst he
    exact .expired hd

structure Overrun (pad : UInt8 → Bool) (bodyLimit : Int) where
  chunks : List (Portion pad)
  size : Nat
  line : Spelling pad size
  fits : ∀ portion ∈ chunks, SizeFits portion.size.line
  lineFits : SizeFits line.line
  positive : 0 < size
  room : chunks.flatMap Portion.data ≠ [] → ((chunks.flatMap Portion.data).length : Int) ≤ bodyLimit
  exceeds : bodyLimit < (chunks.flatMap Portion.data).length + size

def Overrun.bytes (overrun : Overrun pad bodyLimit) : Bytes :=
  overrun.chunks.flatMap Portion.bytes ++ (overrun.line.line ++ Bytes.crlf)

section

variable (hp : ∀ b, pad b → isBlank b)
include hp

/-- A chunk that would make the body too large is refused before any of its bytes is taken. -/
theorem settles_overrun (overrun : Overrun pad bodyLimit) (ha : wire.ahead = overrun.bytes ++ after) :
    Settles wire (.error (.refused .bodyTooLarge)) after (readChunked headLimit bodyLimit wire) := by
  obtain ⟨he, hl⟩ := overrun.lineFits.short
  obtain ⟨chunks, hbytes, hdata⟩ := exists_chunks hp fun portion hm => (overrun.fits portion hm).short
  have hroom := overrun.room
  have hover := overrun.exceeds
  rw [Overrun.bytes, ← hbytes, List.append_assoc] at ha
  rw [← hdata] at hroom hover
  exact settles_of_leads
    (whole.leads_refusal (overrun.line.sizeLine hp he hl) overrun.positive ha hroom hover)

/-- A body that has no more bytes than allowed is read as it was written. -/
theorem settles_coding (hh : 1 ≤ headLimit) (coding : Coding pad) (hf : coding.Fits headLimit)
    (hb : (coding.body.length : Int) ≤ bodyLimit) (ha : wire.ahead = coding.bytes ++ rest) :
    Settles wire (.ok coding.body) rest (readChunked headLimit bodyLimit wire) := by
  apply settles_of_leads
  apply whole.leads_coding hp coding (fun line hm => (hf.sizes line hm).short) hb ha
  intro next has
  refine whole.leads_trailers coding.filled
    (fun line hm => ended_of_not_mem (hf.trailers line hm).1) ?_ has ?_
  · intro line hm hr
    have hlong : headLimit ≤ line.length := by
      rcases hr with hr | ⟨-, hr⟩ <;> omega
    rcases List.mem_append.mp hm with hm | hm
    · have := (hf.trailers line hm).2
      omega
    · rw [List.mem_singleton.mp hm, List.length_nil] at hlong
      omega
  · exact fun last has' => .inl ⟨last, rfl, has'⟩

end

/-- However chunks come, reading them gives the body that was written and takes nothing else, and one too
many is refused with its status before any of its bytes is taken. -/
theorem readChunked_settles (hh : 1 ≤ headLimit) (wire : Wire) :
    (∀ (coding : Coding isPadding) (rest : Bytes), coding.Fits headLimit →
      (coding.body.length : Int) ≤ bodyLimit → wire.ahead = coding.bytes ++ rest →
        Settles wire (.ok coding.body) rest (readChunked headLimit bodyLimit wire)) ∧
      (∀ (overrun : Overrun isPadding bodyLimit) (after : Bytes), wire.ahead = overrun.bytes ++ after →
        Settles wire (.error (.refused .bodyTooLarge)) after (readChunked headLimit bodyLimit wire)) ∧
      Http.Refusal.bodyTooLarge.problem.status = 413 := by
  have hp : ∀ b, isPadding b → isBlank b := fun _ => isBlank_of_isPadding
  exact ⟨fun coding _ hf hb ha => settles_coding hp hh coding hf hb ha,
    fun overrun _ ha => settles_overrun hp overrun ha, rfl⟩

def paddedFive : Spelling isPadding 5 where
  before := Bytes.ofString "\t"
  digits := Bytes.ofString "05"
  after := Bytes.ofString " "
  extension := some (Bytes.ofString "a=1")
  nonempty := by decide
  denotes := denotes_iff.mpr ⟨by decide +kernel, by decide⟩
  padded := by decide +kernel

def brokenLine : Coding isPadding where
  chunks := [{ data := Bytes.ofString "a\r\n0\r", nonempty := by decide, size := paddedFive }]
  last := .nought
  trailers := [Bytes.ofString "T: 1"]
  filled := by decide

def brokenLineOver : Overrun isPadding 4 where
  chunks := []
  size := 5
  line := paddedFive
  fits := nofun
  lineFits := by decide
  positive := by decide
  room := by decide
  exceeds := by decide

/-- A line end in a chunk is data, also where the stream is cut in it, unless there is no room for the
chunk. -/
theorem readChunked_settles_broken :
    (∃ next, readChunked 5 5 (parted (Bytes.ofString "\t05 ;a=1\r\na\r")
          (Bytes.ofString "\n0\r\r\n0\r\nT: 1\r\n\r\nGET")) =
        (.ok (Bytes.ofString "a\r\n0\r"), next) ∧ next.ahead = Bytes.ofString "GET") ∧
      ∃ next, readChunked 5 4 (parted (Bytes.ofString "\t05 ;a=1\r\na\r") (Bytes.ofString "\n0\r\r\n")) =
        (.error (.refused .bodyTooLarge), next) ∧ next.ahead = Bytes.ofString "a\r\n0\r\r\n" := by
  have hfits : brokenLine.Fits 5 := ⟨by decide, by decide⟩
  constructor
  · exact ((readChunked_settles (by decide) _).1 brokenLine _ hfits (by decide)
      (by rw [ahead_parted]; decide)).unhurried rfl
  · exact ((readChunked_settles (by decide) _).2.1 brokenLineOver _
      (by rw [ahead_parted]; decide)).unhurried rfl

end FixedReply.Wire
