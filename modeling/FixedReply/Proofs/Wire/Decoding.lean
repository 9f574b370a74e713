import FixedReply.Proofs.Wire.Chunks
import FixedReply.Proofs.Wire.Receptions

namespace FixedReply.Wire

variable {pad pad' : UInt8 → Bool} {headLimit bodyLimit limit : Int} {parts : List Bytes} {total n : Nat}
  {wire next : Wire} {line line' block body rest rest' : Bytes}

/-- White space in front of the extension of a line is spaces and tabs only. -/
def Plain (line : Bytes) : Prop := ∀ b ∈ line.takeWhile (· ≠ 59), isBlank b → isPadding b

instance (line : Bytes) : Decidable (Plain line) :=
  inferInstanceAs (Decidable (∀ b ∈ line.takeWhile (· ≠ 59), isBlank b → isPadding b))

def Coding.Delimited (coding : Coding pad) : Prop :=
  ∀ line ∈ coding.sizeLines ++ coding.trailers, Ended line

def Taken (pad : UInt8 → Bool) (wire : Wire) (body : Bytes) (next : Wire) : Prop :=
  ∃ coding : Coding pad, coding.Delimited ∧ coding.body = body ∧ wire.ahead = coding.bytes ++ next.ahead

theorem Ended.unique (h : Ended line) (h' : Ended line')
    (he : line ++ Bytes.crlf ++ rest = line' ++ Bytes.crlf ++ rest') : line = line' ∧ rest = rest' := by
  have hfirst : Bytes.IsFirst Bytes.crlf (line ++ Bytes.crlf ++ rest) 0 line.length :=
    h.append crlf_ne_nil
  have hfirst' : Bytes.IsFirst Bytes.crlf (line' ++ Bytes.crlf ++ rest') 0 line'.length :=
    h'.append crlf_ne_nil
  rw [he] at hfirst
  rw [List.append_assoc, List.append_assoc] at he
  obtain ⟨hl, hr⟩ := List.append_inj he (hfirst.unique hfirst')
  exact ⟨hl, List.append_cancel_left hr⟩

/-- A chunk begins with a line. -/
theorem Portion.bytes_append (chunk : Portion pad) (rest : Bytes) :
    chunk.bytes ++ rest = chunk.size.line ++ Bytes.crlf ++ (chunk.data ++ (Bytes.crlf ++ rest)) := by
  simp only [bytes, List.append_assoc]

section

variable (hp : ∀ b, pad b → isBlank b) (hp' : ∀ b, pad' b → isBlank b)
include hp hp'

/-- The size of a chunk is not zero. -/
theorem Portion.line_ne (chunk : Portion pad) (last : Spelling pad' 0) :
    chunk.size.line ≠ last.line := by
  intro h
  have hread := chunk.size.read hp
  rw [h, last.read hp', Option.some.injEq] at hread
  exact chunk.nonempty (List.length_eq_zero_iff.mp hread.symm)

/-- Two chunks that stand in front of the same bytes are written the same. -/
theorem Portion.unique {chunk : Portion pad} {chunk' : Portion pad'} (h : Ended chunk.size.line)
    (h' : Ended chunk'.size.line) (he : chunk.bytes ++ rest = chunk'.bytes ++ rest') :
    chunk.size.line = chunk'.size.line ∧ rest = rest' := by
  rw [chunk.bytes_append, chunk'.bytes_append] at he
  obtain ⟨hline, hafter⟩ := h.unique h' he
  have hread := chunk.size.read hp
  rw [hline, chunk'.size.read hp', Option.some.injEq] at hread
  obtain ⟨-, hrest⟩ := List.append_inj hafter hread.symm
  exact ⟨hline, List.append_cancel_left hrest⟩

/-- There is one way only to divide bytes into chunks, up to a size of zero. -/
theorem chunks_unique {chunks : List (Portion pad)} {chunks' : List (Portion pad')}
    {last : Spelling pad 0} {last' : Spelling pad' 0}
    (hc : ∀ chunk ∈ chunks, Ended chunk.size.line) (hl : Ended last.line)
    (hc' : ∀ chunk ∈ chunks', Ended chunk.size.line) (hl' : Ended last'.line)
    (he : chunks.flatMap Portion.bytes ++ (last.line ++ Bytes.crlf ++ rest) =
      chunks'.flatMap Portion.bytes ++ (last'.line ++ Bytes.crlf ++ rest')) :
    chunks.map (·.size.line) ++ [last.line] = chunks'.map (·.size.line) ++ [last'.line] := by
  induction chunks generalizing chunks' with
  | nil =>
    cases chunks' with
    | nil =>
      obtain ⟨hline, -⟩ := hl.unique hl' he
      rw [hline, List.map_nil, List.map_nil]
    | cons chunk' chunks' =>
      obtain ⟨hfirst', -⟩ := List.forall_mem_cons.mp hc'
      rw [List.flatMap_cons, List.append_assoc chunk'.bytes, chunk'.bytes_append] at he
      obtain ⟨hline, -⟩ := hl.unique hfirst' he
      exact absurd hline.symm (chunk'.line_ne hp' hp last)
  | cons chunk chunks ih =>
    obtain ⟨hfirst, hrest⟩ := List.forall_mem_cons.mp hc
    cases chunks' with
    | nil =>
      rw [List.flatMap_cons, List.append_assoc chunk.bytes, chunk.bytes_append] at he
      obtain ⟨hline, -⟩ := hfirst.unique hl' he
      exact absurd hline (chunk.line_ne hp hp' last')
    | cons chunk' chunks' =>
      obtain ⟨hfirst', hrest'⟩ := List.forall_mem_cons.mp hc'
      rw [List.flatMap_cons, List.flatMap_cons, List.append_assoc chunk.bytes,
        List.append_assoc chunk'.bytes] at he
      obtain ⟨hline, hafter⟩ := Portion.unique hp hp' hfirst hfirst' he
      have htail := ih hrest hrest' hafter
      rw [List.map_cons, List.map_cons, hline, List.cons_append, List.cons_append, htail]

/-- Codings of the same bytes have the same lines with sizes. -/
theorem Coding.sizeLines_unique {coding : Coding pad} {coding' : Coding pad'} (hd : coding.Delimited)
    (hd' : coding'.Delimited) (he : coding.bytes ++ rest = coding'.bytes ++ rest') :
    coding.sizeLines = coding'.sizeLines := by
  have hlines : ∀ {pad : UInt8 → Bool} {coding : Coding pad}, coding.Delimited →
      (∀ chunk ∈ coding.chunks, Ended chunk.size.line) ∧ Ended coding.last.line := by
    intro pad coding hd
    obtain ⟨hsizes, -⟩ := List.forall_mem_append.mp hd
    obtain ⟨hchunks, hlast⟩ := List.forall_mem_append.mp hsizes
    exact ⟨fun chunk hm => hchunks _ (List.mem_map_of_mem hm), hlast _ (List.mem_singleton_self _)⟩
  simp only [Coding.bytes, List.append_assoc] at he
  rw [← List.append_assoc coding.last.line, ← List.append_assoc coding'.last.line] at he
  exact chunks_unique hp hp' (hlines hd).1 (hlines hd).2 (hlines hd').1 (hlines hd').2 he

end

/-- Chunks can be spelled with spaces and tabs only if they are. -/
theorem exists_plain {chunks : List (Portion isBlank)} (h : ∀ chunk ∈ chunks, Plain chunk.size.line) :
    ∃ plain : List (Portion isPadding), plain.map (·.size.line) = chunks.map (·.size.line) ∧
      plain.flatMap Portion.bytes = chunks.flatMap Portion.bytes ∧
      plain.flatMap Portion.data = chunks.flatMap Portion.data := by
  induction chunks with
  | nil => exact ⟨[], rfl, rfl, rfl⟩
  | cons chunk chunks ih =>
    obtain ⟨hfirst, hrest⟩ := List.forall_mem_cons.mp h
    obtain ⟨plain, hl, hb, hd⟩ := ih hrest
    obtain ⟨spelling, hs⟩ := exists_padded_iff.mpr ⟨chunk.size.read fun _ => id, hfirst⟩
    let first : Portion isPadding := ⟨chunk.data, chunk.nonempty, spelling⟩
    have hbytes : first.bytes = chunk.bytes := by
      rw [Portion.bytes, Portion.bytes, hs]
    refine ⟨first :: plain, ?_, ?_, ?_⟩
    · rw [List.map_cons, List.map_cons, hl, hs]
    · rw [List.flatMap_cons, List.flatMap_cons, hb, hbytes]
    · rw [List.flatMap_cons, List.flatMap_cons, hd]

/-- What is taken as a coding is one with spaces and tabs exactly if no size has other white space. -/
theorem taken_iff (coding : Coding isBlank) (hd : coding.Delimited)
    (ha : wire.ahead = coding.bytes ++ next.ahead) :
    Taken isPadding wire coding.body next ↔ ∀ line ∈ coding.sizeLines, Plain line := by
  constructor
  · intro he
    obtain ⟨plain, hplain, -, hbytes⟩ := he
    have hlines : plain.sizeLines = coding.sizeLines :=
      Coding.sizeLines_unique (fun _ => isBlank_of_isPadding) (fun _ => id) hplain hd
        (hbytes.symm.trans ha)
    intro line hm
    rw [← hlines, Coding.sizeLines, List.mem_append, List.mem_map, List.mem_singleton] at hm
    rcases hm with ⟨chunk, -, rfl⟩ | rfl
    · exact (exists_padded_iff.mp ⟨chunk.size, rfl⟩).2
    · exact (exists_padded_iff.mp ⟨plain.last, rfl⟩).2
  · intro h
    obtain ⟨hchunks, hlast⟩ := List.forall_mem_append.mp h
    obtain ⟨chunks, hl, hb, hdata⟩ :=
      exists_plain fun chunk hm => hchunks _ (List.mem_map_of_mem (f := fun c => c.size.line) hm)
    obtain ⟨last, hs⟩ := exists_padded_iff.mpr
      ⟨coding.last.read fun _ => id, hlast _ (List.mem_singleton_self _)⟩
    let plain : Coding isPadding := ⟨chunks, last, coding.trailers, coding.filled⟩
    have hlines : plain.sizeLines = coding.sizeLines := by
      rw [Coding.sizeLines, Coding.sizeLines, hl, hs]
    refine ⟨plain, ?_, hdata, ?_⟩
    · rw [Coding.Delimited, hlines]
      exact hd
    · rw [ha, Coding.bytes, Coding.bytes, hb, hs]

/-- A line that is taken ends at its first line end. -/
theorem ahead_of_upTo (h : upTo Bytes.crlf limit wire = (.ok (some line), next)) :
    wire.ahead = line ++ Bytes.crlf ++ next.ahead ∧ (line.length : Int) ≤ limit ∧ Ended line := by
  have hw := upTo_ahead crlf_ne_nil limit wire
  rw [h] at hw
  rcases hw with hw | hw | ⟨-, hw⟩
  · cases hw
  · generalize hs : scanUpTo Bytes.crlf limit 0 wire.ahead = scan at hw
    cases hw with
    | found hn =>
      subst hn
      obtain ⟨hb, hl, hf⟩ := (scanUpTo_found crlf_ne_nil).mp hs
      rw [hb] at hf
      exact ⟨hb, hl, hf.of_append (by simp)⟩
  · cases hw

theorem ahead_of_exactly (h : exactly n wire = (.ok block, next)) :
    wire.ahead = block ++ next.ahead ∧ block.length = n := by
  have hw := exactly_ahead n wire
  rw [h] at hw
  rcases hw with hw | hw
  · cases hw
  · generalize hs : scanExactly n () wire.ahead = scan at hw
    cases hw with
    | found hn =>
      subst hn
      exact scanExactly_found.mp hs

/-- What is read up to a size of zero are chunks. -/
theorem chunks_of_readChunks (h : readChunks bodyLimit parts total wire = (.ok body, next)) :
    ∃ (chunks : List (Portion isBlank)) (last : Spelling isBlank 0),
      (∀ chunk ∈ chunks, Ended chunk.size.line) ∧ Ended last.line ∧
        body = parts.reverse.flatten ++ chunks.flatMap Portion.data ∧
        wire.ahead = chunks.flatMap Portion.bytes ++ (last.line ++ Bytes.crlf ++ next.ahead) := by
  fun_induction readChunks bodyLimit parts total wire with
  | case1 | case2 | case3 | case5 | case6 | case7 => cases h
  | case4 parts total wire line wire₁ hl hz =>
    cases h
    obtain ⟨ha, -, hended⟩ := ahead_of_upTo hl
    obtain ⟨last, rfl⟩ := chunkSize?_iff.mp hz
    exact ⟨[], last, List.forall_mem_nil _, hended, by simp, ha⟩
  | case8 parts total wire line wire₁ hl size hpos hs hroom block wire₂ hb hc ih =>
    obtain ⟨chunks, last, hchunks, hlast, rfl, hrest⟩ := ih h
    obtain ⟨ha, -, hended⟩ := ahead_of_upTo hl
    have hsize : ((size + 2 : Nat) : Int) = size + 2 := rfl
    obtain ⟨hblock, hlen⟩ := ahead_of_exactly (hsize ▸ hb)
    have hdrop : block.drop size = Bytes.crlf := not_not.mp hc
    have htake : (block.take size).length = size := by
      rw [List.length_take]
      omega
    rw [← List.take_append_drop size block, hdrop] at hblock
    generalize block.take size = data at *
    subst htake
    obtain ⟨spelling, rfl⟩ := chunkSize?_iff.mp hs
    have hne : data ≠ [] := fun he => hpos (by rw [he, List.length_nil])
    let first : Portion isBlank := ⟨data, hne, spelling⟩
    refine ⟨first :: chunks, last, List.forall_mem_cons.mpr ⟨hended, hchunks⟩, hlast, ?_, ?_⟩
    · simp [first]
    · rw [ha, hblock, List.flatMap_cons, List.append_assoc first.bytes, first.bytes_append, ← hrest,
        List.append_assoc data]
      rfl

/-- Lines that are read up to a blank one are a trailer, and each has been held to the limit. -/
theorem lines_of_skipTrailers (h : skipTrailers limit wire = (.ok (), next)) :
    ∃ lines : List Bytes, (∀ line ∈ lines, line ≠ [] ∧ Ended line) ∧
      (∀ line ∈ lines ++ [[]], (line.length : Int) ≤ limit) ∧
      wire.ahead = trailerBytes lines ++ next.ahead := by
  fun_induction skipTrailers limit wire with
  | case1 | case2 => cases h
  | case3 wire line wire₁ hl he =>
    cases h
    obtain ⟨ha, hlen, -⟩ := ahead_of_upTo hl
    obtain rfl := List.isEmpty_iff.mp he
    exact ⟨[], List.forall_mem_nil _, by simpa using hlen, ha⟩
  | case4 wire line wire₁ hl he ih =>
    obtain ⟨ha, hlen, hended⟩ := ahead_of_upTo hl
    obtain ⟨lines, hlines, hlens, hrest⟩ := ih h
    have hne : line ≠ [] := fun hn => he (List.isEmpty_iff.mpr hn)
    refine ⟨line :: lines, List.forall_mem_cons.mpr ⟨⟨hne, hended⟩, hlines⟩,
      List.forall_mem_cons.mpr ⟨hlen, hlens⟩, ?_⟩
    rw [ha, hrest, trailerBytes, trailerBytes]
    simp

/-- What is read as a body in chunks is one, with any white space around its sizes. -/
theorem coding_of_readChunked (h : readChunked headLimit bodyLimit wire = (.ok body, next)) :
    ∃ coding : Coding isBlank, coding.Delimited ∧ coding.body = body ∧
      wire.ahead = coding.bytes ++ next.ahead ∧
        ∀ line ∈ coding.trailers ++ [[]], (line.length : Int) ≤ headLimit := by
  unfold readChunked at h
  split at h
  · cases h
  · rename_i wire₁ hc
    obtain ⟨chunks, last, hchunks, hlast, hbody, hahead⟩ := chunks_of_readChunks hc
    split at h
    · cases h
    · rename_i hs
      cases h
      obtain ⟨lines, hlines, hlens, hrest⟩ := lines_of_skipTrailers hs
      refine ⟨⟨chunks, last, lines, fun line hm => (hlines line hm).1⟩, ?_, ?_, ?_, hlens⟩
      · refine List.forall_mem_append.mpr ⟨List.forall_mem_append.mpr ⟨?_, ?_⟩,
          fun line hm => (hlines line hm).2⟩
        · intro line hm
          obtain ⟨chunk, hchunk, rfl⟩ := List.mem_map.mp hm
          exact hchunks chunk hchunk
        · exact List.forall_mem_singleton.mpr hlast
      · simpa [Coding.body] using hbody.symm
      · rw [hahead, hrest, Coding.bytes]
        simp only [List.append_assoc]

theorem suffix_fill (wire : Wire) : wire.fill.2.inbox <:+ wire.inbox := by
  unfold fill
  split
  · split <;> simp [giveUp, note]
  · rename_i event rest hi
    have hrest : rest <:+ wire.inbox := hi ▸ List.suffix_cons event rest
    split
    · simp [giveUp, note]
    · dsimp only
      split <;> simpa [accept, note] using hrest

/-- What is still to come has been to come before. -/
theorem Onward.inbox {acts : List Act} {before after : Wire} (h : Onward acts before after) :
    after.inbox <:+ before.inbox := by
  induction h with
  | refl | keep | gather => exact List.suffix_refl _
  | @fill wire next result h =>
    have hs := suffix_fill wire
    rwa [h] at hs
  | @send wire next data result h =>
    rcases send_eq wire data with hs | ⟨-, what, hs⟩
    all_goals
      rw [hs] at h
      cases h
      exact List.suffix_refl _
  | trans _ _ h h' => exact h'.trans h

inductive Halts (wire : Wire) : Stop → Prop
  | refused {why : Http.Refusal}
      (h : why ∈ [.sizeLineTooLong, .malformedSize, .bodyTooLarge, .malformedChunk, .trailersTooLarge]) :
      Halts wire (.refused why)
  | cutShort : Halts wire (.lost .cutShort)
  | broken {event : Event} {what : Failures} (hm : event ∈ wire.inbox) (he : event.what = .failure what) :
      Halts wire (.lost (.broken what))
  | expired (hd : wire.deadline ≠ none) : Halts wire (.lost .expired)

theorem Halts.back {why : Stop} {acts : List Act} (h : Halts next why) (ho : Onward acts wire next) :
    Halts wire why := by
  cases h with
  | refused h => exact .refused h
  | cutShort => exact .cutShort
  | broken hm he => exact .broken (ho.inbox.subset hm) he
  | expired hd => exact .expired (ho.deadline.1 ▸ hd)

theorem halts_await {σ α : Type} {scan : σ → Bytes → Scan σ α} {state : σ} {loss : Loss}
    (h : await scan state wire = (.error loss, next)) : Halts wire (.lost loss) := by
  fun_induction await scan state wire with
  | case1 => cases h
  | case2 state wire later kept hw received hf ih =>
    exact (ih h).back ((Onward.keep wire kept).then (.fill hf))
  | case3 =>
    cases h
    exact .cutShort
  | case4 state wire later kept hw lost received hf =>
    cases h
    refine Halts.back ?_ (.keep wire kept)
    cases loss with
    | cutShort => exact .cutShort
    | expired => exact .expired (deadline_of_expired hf)
    | broken what =>
      obtain ⟨event, rest, hi, hr⟩ := fill_receives hf (by simp) (by simp)
      have hm : event ∈ (wire.keep kept).inbox := hi ▸ List.mem_cons_self
      rcases receive_eq (wire.keep kept) event rest with ⟨b, bytes, -, he⟩ | ⟨-, hends, -⟩
      · rw [hr] at he
        cases he
      · rw [hr] at hends
        generalize hw : event.what = arrival at hends
        cases hends with
        | failed => exact .broken hm hw

theorem halts_readChunks {why : Stop} (h : readChunks bodyLimit parts total wire = (.error why, next)) :
    Halts wire why := by
  fun_induction readChunks bodyLimit parts total wire with
  | case1 parts total wire loss wire₁ hl =>
    cases h
    exact halts_await hl
  | case2 | case3 | case5 =>
    cases h
    exact .refused (by simp)
  | case4 => cases h
  | case6 parts total wire line wire₁ hl size _ _ _ loss wire₂ hc =>
    cases h
    exact (halts_await hc).back (onward_upTo hl)
  | case7 =>
    cases h
    exact .refused (by simp)
  | case8 parts total wire line wire₁ hl size _ _ _ chunk wire₂ hc _ ih =>
    exact (ih h).back (((onward_upTo hl).then (onward_exactly hc)).then (.gather wire₂ _))

theorem halts_skipTrailers {why : Stop} (h : skipTrailers limit wire = (.error why, next)) :
    Halts wire why := by
  fun_induction skipTrailers limit wire with
  | case1 wire loss wire₁ hl =>
    cases h
    exact halts_await hl
  | case2 =>
    cases h
    exact .refused (by simp)
  | case3 => cases h
  | case4 wire line wire₁ hl _ ih => exact (ih h).back (onward_upTo hl)

theorem halts_readChunked {why : Stop}
    (h : readChunked headLimit bodyLimit wire = (.error why, next)) : Halts wire why := by
  unfold readChunked at h
  split at h
  · rename_i hc
    cases h
    exact halts_readChunks hc
  · rename_i body wire₁ hc
    have hread := onward_readChunks bodyLimit [] 0 wire
    rw [hc] at hread
    split at h
    · rename_i hs
      cases h
      exact (halts_skipTrailers hs).back hread
    · cases h

/-- What the reading of a body in chunks comes to on a wire: the body that was taken, with any white space
around its sizes, or a reason to stop. -/
inductive Decoded (wire : Wire) : Except Stop Bytes × Wire → Prop
  | body {next : Wire} (coding : Coding isBlank) (hd : coding.Delimited)
      (ha : wire.ahead = coding.bytes ++ next.ahead)
      (hp : Taken isPadding wire coding.body next ↔ ∀ line ∈ coding.sizeLines, Plain line) :
      Decoded wire (.ok coding.body, next)
  | stop {why : Stop} {next : Wire} (h : Halts wire why) : Decoded wire (.error why, next)

/-- Whatever comes, nothing is read as a body in chunks that is none, and nothing beyond it is taken; but
white space other than spaces and tabs around a size is let through. -/
theorem readChunked_decoded (headLimit bodyLimit : Int) (wire : Wire) :
    Decoded wire (readChunked headLimit bodyLimit wire) := by
  rcases hr : readChunked headLimit bodyLimit wire with ⟨why | body, next⟩
  · exact .stop (halts_readChunked hr)
  · obtain ⟨coding, hd, rfl, ha, -⟩ := coding_of_readChunked hr
    exact .body coding hd ha (taken_iff coding hd ha)

def tabbedFive : Coding isBlank where
  chunks := [{
    data := Bytes.ofString "world", nonempty := by decide
    size := {
      before := Bytes.ofString "\x0b", digits := Bytes.ofString "5", after := [], extension := none
      nonempty := by decide, denotes := denotes_iff.mpr ⟨by decide +kernel, by decide⟩
      padded := by decide +kernel } }]
  last := .nought
  trailers := []
  filled := nofun

/-- A chunk whose size has a vertical tab before it is taken, although no size with spaces and tabs is
there. -/
theorem not_taken_tabbed :
    ∃ next, readChunked 65536 1048576 (parted (Bytes.ofString "\x0b5\r\nworld\r\n0\r\n\r\n") []) =
        (.ok (Bytes.ofString "world"), next) ∧
      ¬ Taken isPadding (parted (Bytes.ofString "\x0b5\r\nworld\r\n0\r\n\r\n") [])
        (Bytes.ofString "world") next := by
  have ha : (parted (Bytes.ofString "\x0b5\r\nworld\r\n0\r\n\r\n") []).ahead = tabbedFive.bytes ++ [] := by
    rw [ahead_parted]
    decide
  have hfits : tabbedFive.Fits 65536 := ⟨by decide, nofun⟩
  have hread : Settles _ (.ok tabbedFive.body) [] (readChunked 65536 1048576 _) :=
    settles_coding (fun _ => id) (by decide) tabbedFive hfits (by decide) ha
  obtain ⟨next, hr, hn⟩ := hread.unhurried rfl
  refine ⟨next, hr, fun htaken => ?_⟩
  have hd : tabbedFive.Delimited := by
    have hnone : ∀ line ∈ tabbedFive.sizeLines ++ tabbedFive.trailers, Bytes.cr ∉ line := by decide
    exact fun line hm => ended_of_not_mem (hnone line hm)
  have hplain := (taken_iff tabbedFive hd (hn ▸ ha)).mp htaken
  exact absurd hplain (by decide)

end FixedReply.Wire
