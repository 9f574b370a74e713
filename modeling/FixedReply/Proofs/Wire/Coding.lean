import FixedReply.Proofs.Wire.Buffered
import FixedReply.Proofs.Wire.Sized
import FixedReply.Proofs.Wire.Spelling

namespace FixedReply.Wire

structure Portion (pad : UInt8 → Bool) where
  data : Bytes
  nonempty : data ≠ []
  size : Spelling pad data.length

/-- A body as it is written in chunks: these, a size of zero, and trailer lines. -/
structure Coding (pad : UInt8 → Bool) where
  chunks : List (Portion pad)
  last : Spelling pad 0
  trailers : List Bytes
  filled : ∀ line ∈ trailers, line ≠ []

section

variable {pad : UInt8 → Bool}

def Portion.bytes (portion : Portion pad) : Bytes :=
  portion.size.line ++ Bytes.crlf ++ (portion.data ++ Bytes.crlf)

def trailerBytes (lines : List Bytes) : Bytes := lines.flatMap (· ++ Bytes.crlf) ++ Bytes.crlf

namespace Coding

def body (coding : Coding pad) : Bytes := coding.chunks.flatMap Portion.data

def bytes (coding : Coding pad) : Bytes :=
  coding.chunks.flatMap Portion.bytes ++ (coding.last.line ++ Bytes.crlf) ++
    trailerBytes coding.trailers

def sizeLines (coding : Coding pad) : List Bytes :=
  coding.chunks.map (·.size.line) ++ [coding.last.line]

end Coding

end

def Ended (line : Bytes) : Prop := Bytes.IsFirst Bytes.crlf (line ++ Bytes.crlf) 0 line.length

theorem ended_of_not_mem {line : Bytes} (h : Bytes.cr ∉ line) : Ended line := by
  refine ⟨Nat.zero_le _, by simp, fun j _ hj hp => ?_⟩
  rw [List.drop_append_of_le_length (by omega), List.drop_eq_getElem_cons hj] at hp
  obtain ⟨tail, ht⟩ := hp
  exact h ((List.cons.inj ht).1 ▸ List.getElem_mem hj)

variable {α β : Type} {pad : UInt8 → Bool} {headLimit bodyLimit limit : Int} {parts : List Bytes}
  {total size : Nat} {wire next : Wire} {line bytes rest after : Bytes}

def closing (body : Bytes) : Except Stop Unit × Wire → Except Stop Bytes × Wire
  | (.error stop, wire) => (.error stop, wire)
  | (.ok (), wire) => (.ok body, wire)

def finish (headLimit : Int) : Except Stop Bytes × Wire → Except Stop Bytes × Wire
  | (.error stop, wire) => (.error stop, wire)
  | (.ok body, wire) => closing body (skipTrailers headLimit wire)

theorem readChunked_eq (headLimit bodyLimit : Int) (wire : Wire) :
    readChunked headLimit bodyLimit wire = finish headLimit (readChunks bodyLimit [] 0 wire) := by
  unfold readChunked
  rcases readChunks bodyLimit [] 0 wire with ⟨stop | body, next⟩
  · rfl
  · rfl

def Spelling.sizeLine (hp : ∀ b, pad b → isBlank b) (spelling : Spelling pad size)
    (he : Ended spelling.line) (hl : spelling.line.length ≤ 4095) : SizeLine size where
  line := spelling.line
  spelled := spelling.read hp
  whole := he
  short := Int.ofNat_lt.mpr (Nat.lt_succ_of_le hl)

/-- Chunks whose lines are short have size lines. -/
theorem exists_chunks (hp : ∀ b, pad b → isBlank b) {portions : List (Portion pad)}
    (h : ∀ portion ∈ portions, Ended portion.size.line ∧ portion.size.line.length ≤ 4095) :
    ∃ chunks : List Chunk, chunks.flatMap Chunk.bytes = portions.flatMap Portion.bytes ∧
      chunks.flatMap Chunk.data = portions.flatMap Portion.data := by
  induction portions with
  | nil => exact ⟨[], rfl, rfl⟩
  | cons portion portions ih =>
    obtain ⟨⟨he, hl⟩, hrest⟩ := List.forall_mem_cons.mp h
    obtain ⟨chunks, hb, hd⟩ := ih hrest
    let chunk : Chunk := ⟨portion.data, portion.size.sizeLine hp he hl, portion.nonempty⟩
    exact ⟨chunk :: chunks, congrArg (portion.bytes ++ ·) hb, congrArg (portion.data ++ ·) hd⟩

namespace Supply

/-- What a reading comes to on what a supply has, unless it expires and the supply lets it. -/
def Leads (supply : Supply) (Out : Except Stop α × Wire → Prop) (result : Except Stop α × Wire) :
    Prop :=
  Out result ∨ supply.expires ∧ result.1 = .error (.lost .expired)

variable (supply : Supply) {Out : Except Stop α × Wire → Prop}

/-- What follows a reading that expires changes nothing about that. -/
theorem Leads.bind {Then : Except Stop β × Wire → Prop} {result : Except Stop α × Wire}
    {onward : Except Stop α × Wire → Except Stop β × Wire} (h : supply.Leads Out result)
    (hx : ∀ wire, onward (.error (.lost .expired), wire) = (.error (.lost .expired), wire))
    (ho : ∀ result, Out result → supply.Leads Then (onward result)) :
    supply.Leads Then (onward result) := by
  rcases h with h | ⟨h, he⟩
  · exact ho result h
  · obtain ⟨read, wire⟩ := result
    dsimp only at he
    subst he
    exact .inr ⟨h, congrArg Prod.fst (hx wire)⟩

/-- A line is longer than the limit, or as long where it may stray. -/
def MayRefuse (limit : Int) (line : Bytes) : Prop :=
  limit < line.length ∨ (supply.strays ∧ limit ≤ line.length)

/-- A line is taken if it keeps to the limit, and nothing is if it may be refused. -/
theorem leads_line {onward : Option Bytes → Wire → Except Stop α × Wire}
    (has : supply.Has wire (line ++ Bytes.crlf ++ rest)) (he : Ended line)
    (hn : supply.MayRefuse limit line → ∀ next, supply.Leads Out (onward none next))
    (ho : (line.length : Int) ≤ limit → ∀ next, supply.Has next rest →
      supply.Leads Out (onward (some line) next)) :
    supply.Leads Out (andThen (upTo Bytes.crlf limit wire) onward) := by
  have hfirst : Bytes.IsFirst Bytes.crlf (line ++ Bytes.crlf ++ rest) 0 line.length :=
    he.append crlf_ne_nil
  rcases supply.line has crlf_ne_nil limit with hc | ⟨hx, ⟨i, hi, -, hlong⟩, hnone⟩
  · generalize upTo Bytes.crlf limit wire = taken at hc
    by_cases hl : limit < line.length
    · rw [scanUpTo, (Bytes.find?_eq_some_iff crlf_ne_nil).mpr hfirst] at hc
      simp only [hl, ↓reduceIte] at hc
      cases hc with
      | found => exact hn (.inl hl) _
      | expired h => exact .inr ⟨h, rfl⟩
    · have hfound : scanUpTo Bytes.crlf limit 0 (line ++ Bytes.crlf ++ rest) = .found (some line) rest :=
        (scanUpTo_found crlf_ne_nil).mpr ⟨rfl, Int.not_lt.mp hl, hfirst⟩
      rw [hfound] at hc
      cases hc with
      | found has' => exact ho (Int.not_lt.mp hl) _ has'
      | expired h => exact .inr ⟨h, rfl⟩
  · rw [hi.unique hfirst] at hlong
    simp only [Bytes.crlf, List.length_cons, List.length_nil] at hlong
    have hrefused : supply.MayRefuse limit line := .inr ⟨hx, by omega⟩
    generalize upTo Bytes.crlf limit wire = taken at hnone
    obtain ⟨taken, next⟩ := taken
    dsimp only at hnone
    subst hnone
    exact hn hrefused next

/-- A line below the limit is taken. -/
theorem leads_short {onward : Option Bytes → Wire → Except Stop α × Wire}
    (has : supply.Has wire (line ++ Bytes.crlf ++ rest)) (he : Ended line)
    (hl : (line.length : Int) < limit)
    (ho : ∀ next, supply.Has next rest → supply.Leads Out (onward (some line) next)) :
    supply.Leads Out (andThen (upTo Bytes.crlf limit wire) onward) := by
  apply leads_line supply has he ?_ fun _ => ho
  intro hr
  rcases hr with hr | ⟨-, hr⟩ <;> omega

/-- A block is taken. -/
theorem leads_block {block : Bytes} {n : Nat} {onward : Bytes → Wire → Except Stop α × Wire}
    (has : supply.Has wire (block ++ rest)) (hn : block.length = n)
    (ho : ∀ next, supply.Has next rest → supply.Leads Out (onward block next)) :
    supply.Leads Out (andThen (exactly n wire) onward) := by
  have hfound : scanExactly n () (block ++ rest) = .found block rest :=
    scanExactly_found.mpr ⟨rfl, hn⟩
  have hc := supply.block has n
  rw [hfound] at hc
  generalize exactly n wire = taken at hc
  cases hc with
  | found has' => exact ho _ has'
  | expired h => exact .inr ⟨h, rfl⟩

section

variable {Out : Except Stop Bytes × Wire → Prop}

/-- A size other than zero leads to the chunk of that size. -/
theorem leads_size (line : SizeLine size) (hp : 0 < size)
    (has : supply.Has wire (line.line ++ Bytes.crlf ++ rest))
    (ho : ∀ next, supply.Has next rest →
      supply.Leads Out (readSized bodyLimit parts total size next)) :
    supply.Leads Out (readChunks bodyLimit parts total wire) := by
  rw [readChunks_eq]
  apply leads_short supply has line.whole line.short
  intro next has'
  dsimp only
  rw [line.spelled]
  split
  · contradiction
  · rename_i hz
    rw [Option.some.inj hz] at hp
    exact absurd hp (Nat.lt_irrefl 0)
  · rename_i hsize
    obtain rfl := Option.some.inj hsize
    exact ho next has'

/-- A size that asks for more than the body may have is refused when its line has been taken. -/
theorem leads_overrun (line : SizeLine size) (hp : 0 < size) (hb : bodyLimit < (total : Int) + size)
    (has : supply.Has wire (line.line ++ Bytes.crlf ++ rest))
    (ho : ∀ next, supply.Has next rest →
      supply.Leads Out (.error (.refused .bodyTooLarge), next)) :
    supply.Leads Out (readChunks bodyLimit parts total wire) := by
  apply leads_size supply line hp has
  intro next has'
  rw [readSized, if_pos hb]
  exact ho next has'

/-- A chunk that the body has room for is gathered. -/
theorem leads_chunk (chunk : Chunk) (has : supply.Has wire (chunk.bytes ++ rest))
    (hb : (total : Int) + chunk.data.length ≤ bodyLimit)
    (ho : ∀ next, supply.Has next rest → supply.Leads Out
      (readChunks bodyLimit (chunk.data :: parts) (total + chunk.data.length) next)) :
    supply.Leads Out (readChunks bodyLimit parts total wire) := by
  rw [Chunk.bytes, List.append_assoc] at has
  apply leads_size supply chunk.size (List.length_pos_iff.mpr chunk.nonempty) has
  intro next has'
  have hlen : (chunk.data ++ Bytes.crlf).length = chunk.data.length + 2 := by
    rw [List.length_append]
    rfl
  rw [readSized, if_neg (Int.not_lt.mpr hb)]
  apply leads_block supply has' hlen
  intro next has''
  rw [List.drop_left, List.take_left, if_neg (not_not_intro rfl)]
  exact ho _ (supply.gather has'' _)

/-- Chunks that a body has room for are read one after the other. -/
theorem leads_chunks {chunks : List Chunk}
    (has : supply.Has wire (chunks.flatMap Chunk.bytes ++ rest))
    (hb : chunks.flatMap Chunk.data ≠ [] → (total : Int) + (chunks.flatMap Chunk.data).length ≤ bodyLimit)
    (ho : ∀ next, supply.Has next rest → supply.Leads Out
      (readChunks bodyLimit ((chunks.map Chunk.data).reverse ++ parts)
        (total + (chunks.flatMap Chunk.data).length) next)) :
    supply.Leads Out (readChunks bodyLimit parts total wire) := by
  induction chunks generalizing parts total wire with
  | nil => exact ho wire has
  | cons chunk chunks ih =>
    have hall := hb (by simp [chunk.nonempty])
    rw [List.flatMap_cons, List.length_append] at hall
    rw [List.flatMap_cons, List.append_assoc] at has
    apply leads_chunk supply chunk has (by omega)
    intro next has'
    apply ih has' (fun _ => by omega)
    intro last has''
    have hgo := ho last has''
    rw [List.map_cons, List.reverse_cons, List.append_assoc, List.flatMap_cons, List.length_append,
      ← Nat.add_assoc] at hgo
    exact hgo

/-- The size of zero ends the chunks. -/
theorem leads_last (last : SizeLine 0)
    (has : supply.Has wire (last.line ++ Bytes.crlf ++ rest))
    (ho : ∀ next, supply.Has next rest → supply.Leads Out (.ok parts.reverse.flatten, next)) :
    supply.Leads Out (readChunks bodyLimit parts total wire) := by
  rw [readChunks_eq]
  apply leads_short supply has last.whole last.short
  intro next has'
  dsimp only
  rw [last.spelled]
  exact ho next has'

end

theorem trailerBytes_cons (line : Bytes) (lines : List Bytes) (rest : Bytes) :
    trailerBytes (line :: lines) ++ rest = line ++ Bytes.crlf ++ (trailerBytes lines ++ rest) := by
  simp [trailerBytes]

/-- The lines of a trailer are read up to the blank one. -/
theorem leads_trailers {Out : Except Stop Unit × Wire → Prop} {lines : List Bytes}
    (hne : ∀ line ∈ lines, line ≠ []) (he : ∀ line ∈ lines, Ended line)
    (hl : ∀ line ∈ lines ++ [[]], ¬ supply.MayRefuse limit line)
    (has : supply.Has wire (trailerBytes lines ++ rest))
    (ho : ∀ next, supply.Has next rest → supply.Leads Out (.ok (), next)) :
    supply.Leads Out (skipTrailers limit wire) := by
  induction lines generalizing wire with
  | nil =>
    rw [skipTrailers_eq]
    have hblank : Ended [] := ended_of_not_mem List.not_mem_nil
    exact leads_line supply has hblank (fun h => absurd h (hl [] (by simp))) fun _ => ho
  | cons line lines ih =>
    obtain ⟨hfirst, hrest⟩ := List.forall_mem_cons.mp he
    rw [trailerBytes_cons] at has
    rw [skipTrailers_eq]
    apply leads_line supply has hfirst (fun h => absurd h (hl line List.mem_cons_self))
    intro _ next has'
    dsimp only
    rw [if_neg (by simpa using hne line List.mem_cons_self)]
    exact ih (fun l hm => hne l (List.mem_cons_of_mem _ hm)) hrest
      (fun l hm => hl l (List.mem_cons_of_mem _ hm)) has'

/-- A trailer with a line that is longer than the limit is refused. -/
theorem leads_overlong {lines : List Bytes} (hne : ∀ line ∈ lines, line ≠ [])
    (he : ∀ line ∈ lines, Ended line) (hl : ∃ line ∈ lines ++ [[]], limit < (line.length : Int))
    (has : supply.Has wire (trailerBytes lines ++ rest)) :
    supply.Leads (fun r => r.1 = .error (.refused .trailersTooLarge)) (skipTrailers limit wire) := by
  induction lines generalizing wire with
  | nil =>
    obtain ⟨line, hm, hlong⟩ := hl
    obtain rfl := List.mem_singleton.mp hm
    rw [skipTrailers_eq]
    have hblank : Ended [] := ended_of_not_mem List.not_mem_nil
    exact leads_line supply has hblank (fun _ _ => .inl rfl) fun hle => absurd hlong (Int.not_lt.mpr hle)
  | cons line lines ih =>
    obtain ⟨hfirst, hrest⟩ := List.forall_mem_cons.mp he
    rw [trailerBytes_cons] at has
    rw [skipTrailers_eq]
    apply leads_line supply has hfirst (fun _ _ => .inl rfl)
    intro hle next has'
    dsimp only
    rw [if_neg (by simpa using hne line List.mem_cons_self)]
    obtain ⟨long, hm, hlong⟩ := hl
    have hlater : long ∈ lines ++ [[]] := by
      rcases List.mem_cons.mp hm with rfl | hm
      · exact absurd hlong (Int.not_lt.mpr hle)
      · exact hm
    exact ih (fun l hm => hne l (List.mem_cons_of_mem _ hm)) hrest ⟨long, hlater, hlong⟩ has'

/-- Chunks and a size of zero lead to the trailer. -/
theorem leads_body {Out : Except Stop Bytes × Wire → Prop} {chunks : List Chunk} (last : SizeLine 0)
    (has : supply.Has wire (chunks.flatMap Chunk.bytes ++ (last.line ++ Bytes.crlf ++ after)))
    (hb : chunks.flatMap Chunk.data ≠ [] → ((chunks.flatMap Chunk.data).length : Int) ≤ bodyLimit)
    (ho : ∀ next, supply.Has next after → supply.Leads
      (fun r => Out (closing (chunks.flatMap Chunk.data) r)) (skipTrailers headLimit next)) :
    supply.Leads Out (readChunked headLimit bodyLimit wire) := by
  have hread : supply.Leads (fun r => ∃ next, r = (.ok (chunks.flatMap Chunk.data), next) ∧
      supply.Has next after) (readChunks bodyLimit [] 0 wire) := by
    apply leads_chunks supply has (by simpa using hb)
    intro next has'
    apply leads_last supply last has'
    intro next has''
    rw [List.append_nil, List.reverse_reverse, ← List.flatMap_def]
    exact .inl ⟨next, rfl, has''⟩
  rw [readChunked_eq]
  apply Leads.bind supply hread (fun _ => rfl)
  intro result he
  obtain ⟨next, rfl, has'⟩ := he
  rw [finish]
  exact Leads.bind supply (ho next has') (fun _ => rfl) fun _ h => .inl h

/-- After chunks that a body has room for, a size that asks for more than the rest of it is refused. -/
theorem leads_refusal {chunks : List Chunk} {size : Nat} (line : SizeLine size) (hp : 0 < size)
    (has : supply.Has wire (chunks.flatMap Chunk.bytes ++ (line.line ++ Bytes.crlf ++ after)))
    (hb : chunks.flatMap Chunk.data ≠ [] → ((chunks.flatMap Chunk.data).length : Int) ≤ bodyLimit)
    (hover : bodyLimit < ((chunks.flatMap Chunk.data).length : Int) + size) :
    supply.Leads (fun r => ∃ next, r = (.error (.refused .bodyTooLarge), next) ∧ supply.Has next after)
      (readChunked headLimit bodyLimit wire) := by
  have hread : supply.Leads (fun r => ∃ next, r = (.error (.refused .bodyTooLarge), next) ∧
      supply.Has next after) (readChunks bodyLimit [] 0 wire) := by
    apply leads_chunks supply has (by simpa using hb)
    intro next has'
    apply leads_overrun supply line hp (by simpa using hover) has'
    exact fun next has'' => .inl ⟨next, rfl, has''⟩
  rw [readChunked_eq]
  apply Leads.bind supply hread (fun _ => rfl)
  intro result he
  obtain ⟨next, rfl, has'⟩ := he
  exact .inl ⟨next, rfl, has'⟩

/-- A coding whose lines are short leads to its trailer. -/
theorem leads_coding {Out : Except Stop Bytes × Wire → Prop}
    (hp : ∀ b, pad b → isBlank b) (coding : Coding pad)
    (hs : ∀ line ∈ coding.sizeLines, Ended line ∧ line.length ≤ 4095)
    (hb : (coding.body.length : Int) ≤ bodyLimit) (has : supply.Has wire (coding.bytes ++ rest))
    (ho : ∀ next, supply.Has next (trailerBytes coding.trailers ++ rest) →
      supply.Leads (fun r => Out (closing coding.body r)) (skipTrailers headLimit next)) :
    supply.Leads Out (readChunked headLimit bodyLimit wire) := by
  obtain ⟨hsizes, hlast⟩ := List.forall_mem_append.mp hs
  obtain ⟨he, hl⟩ := hlast _ (List.mem_singleton_self _)
  obtain ⟨chunks, hbytes, hdata⟩ := exists_chunks hp fun portion hm =>
    hsizes _ (List.mem_map_of_mem (f := fun portion : Portion pad => portion.size.line) hm)
  rw [Coding.bytes, ← hbytes, List.append_assoc, List.append_assoc] at has
  rw [Coding.body, ← hdata] at hb ho
  exact leads_body supply (coding.last.sizeLine hp he hl) has (fun _ => hb) ho

end Supply

end FixedReply.Wire
