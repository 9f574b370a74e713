import FixedReply.Proofs.Wire.Decoding

namespace FixedReply.Wire

variable {headLimit bodyLimit bound : Int} {coding : Coding isBlank} {wire : Wire} {rest : Bytes}

/-- A reading keeps a trailer to a bound: it comes to a body only if the trailer is not longer, and refuses
the headers as too large if it is. -/
def KeepsTo (bound : Int) (trailer : Bytes) (read : Except Stop Bytes × Wire) : Prop :=
  (∀ body, read.1 = .ok body → (trailer.length : Int) ≤ bound) ∧
    (bound < trailer.length → ∃ why, read.1 = .error (.refused why) ∧ why.problem.status = 431)

structure Coding.Reaches (bodyLimit : Int) (coding : Coding isBlank) : Prop where
  delimited : coding.Delimited
  short : ∀ line ∈ coding.sizeLines, line.length ≤ 4095
  room : (coding.body.length : Int) ≤ bodyLimit

namespace Coding.Reaches

variable (h : coding.Reaches bodyLimit)
include h

theorem sizes : ∀ line ∈ coding.sizeLines, Ended line ∧ line.length ≤ 4095 :=
  fun line hm => ⟨h.delimited line (List.mem_append_left _ hm), h.short line hm⟩

theorem ended : ∀ line ∈ coding.trailers, Ended line :=
  fun line hm => h.delimited line (List.mem_append_right _ hm)

/-- A line that is longer than the limit is refused, however the trailer comes. -/
theorem refused (hd : wire.deadline = none) (ha : wire.ahead = coding.bytes ++ rest)
    (hl : ∃ line ∈ coding.trailers ++ [[]], headLimit < (line.length : Int)) :
    (readChunked headLimit bodyLimit wire).1 = .error (.refused .trailersTooLarge) := by
  have hleads : whole.Leads (fun r => r.1 = .error (.refused .trailersTooLarge))
      (readChunked headLimit bodyLimit wire) := by
    apply whole.leads_coding (fun _ => id) coding h.sizes h.room ha
    intro next has
    rcases whole.leads_overlong coding.filled h.ended hl has with hr | hx
    · generalize skipTrailers headLimit next = skipped at hr
      obtain ⟨skipped, last⟩ := skipped
      dsimp only at hr
      subst hr
      exact .inl rfl
    · exact .inr hx
  exact (out_of_leads hleads).resolve_right fun hx => hx.2 hd

/-- Lines that keep to the limit are read, at least where they are there already. -/
theorem read (hl : ∀ line ∈ coding.trailers ++ [[]], (line.length : Int) ≤ headLimit) :
    (readChunked headLimit bodyLimit (parted (coding.bytes ++ rest) [])).1 = .ok coding.body := by
  have hleads : (buffered [{ what := .data [] }]).Leads (fun r => r.1 = .ok coding.body)
      (readChunked headLimit bodyLimit (parted (coding.bytes ++ rest) [])) := by
    apply (buffered [{ what := .data [] }]).leads_coding (fun _ => id) coding h.sizes h.room ⟨rfl, rfl⟩
    intro next has
    refine (buffered [{ what := .data [] }]).leads_trailers coding.filled h.ended ?_ has ?_
    · intro line hm hr
      rcases hr with hr | ⟨hx, -⟩
      · exact absurd hr (Int.not_lt.mpr (hl line hm))
      · exact hx
    · exact fun last _ => .inl rfl
  exact hleads.resolve_right fun hx => hx.1

end Coding.Reaches

/-- However it comes, a trailer is kept to a bound exactly if it keeps to it by itself or one of its lines
is longer than the limit. -/
theorem keepsTo_iff (h : coding.Reaches bodyLimit) (headLimit bound : Int) (rest : Bytes) :
    (∀ wire : Wire, wire.deadline = none → wire.ahead = coding.bytes ++ rest →
      KeepsTo bound (trailerBytes coding.trailers) (readChunked headLimit bodyLimit wire)) ↔
        (trailerBytes coding.trailers).length ≤ bound ∨
          ∃ line ∈ coding.trailers ++ [[]], headLimit < (line.length : Int) := by
  constructor
  · intro hk
    by_contra hn
    simp only [not_or, not_exists, not_and, Int.not_lt] at hn
    obtain ⟨hover, hl⟩ := hn
    have hkept := (hk (parted (coding.bytes ++ rest) []) rfl (by rw [ahead_parted, List.append_nil])).1
    exact hover (hkept coding.body (h.read hl))
  · intro hor wire hd ha
    rcases hor with hle | hl
    · exact ⟨fun _ _ => hle, fun hlt => absurd hle (Int.not_le.mpr hlt)⟩
    · have hrefused := h.refused hd ha hl
      refine ⟨fun body hr => ?_, fun _ => ⟨.trailersTooLarge, hrefused, rfl⟩⟩
      rw [hrefused] at hr
      cases hr

def threeLines : Coding isBlank where
  chunks := []
  last := .nought
  trailers := List.replicate 3 (Bytes.ofString "T: 1")
  filled := by decide

theorem reaches_threeLines : threeLines.Reaches 0 := by
  have hnone : ∀ line ∈ threeLines.sizeLines ++ threeLines.trailers, Bytes.cr ∉ line := by decide
  exact ⟨fun line hm => ended_of_not_mem (hnone line hm), by decide, by decide⟩

/-- With a limit of three bytes for a line the trailer is refused. -/
theorem keepsTo_iff_overlong :
    KeepsTo 5 (trailerBytes threeLines.trailers)
      (readChunked 3 0
        (parted (Bytes.ofString "0\r\nT") (Bytes.ofString ": 1\r\nT: 1\r\nT: 1\r\n\r\n"))) := by
  refine (keepsTo_iff reaches_threeLines 3 5 []).mpr (.inr ⟨Bytes.ofString "T: 1", ?_, ?_⟩) _ rfl ?_
  · decide
  · decide
  · rw [ahead_parted]
    decide

/-- A trailer of three lines is read that is longer than the limit and a blank line. -/
theorem not_keepsTo_threeLines :
    ¬ KeepsTo (8 + 2) (Bytes.ofString "T: 1\r\nT: 1\r\nT: 1\r\n\r\n")
      (readChunked 8 0 (parted (Bytes.ofString "0\r\nT: 1\r\nT: 1\r\nT: 1\r\n\r\n") [])) := by
  have hread : (readChunked 8 0 (parted (threeLines.bytes ++ []) [])).1 = .ok threeLines.body :=
    reaches_threeLines.read (by decide)
  intro hk
  exact absurd (hk.1 threeLines.body hread) (by decide)

end FixedReply.Wire
