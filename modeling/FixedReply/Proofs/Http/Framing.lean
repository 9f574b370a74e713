import FixedReply.Http.Framing
import FixedReply.Proofs.Http.HeadFields

namespace FixedReply.Http

open Text (trim lower joinWith isBlank)

namespace Framing

def SaysChunked (coding : List Char) : Prop := coding.map Char.toLower = "chunked".toList

instance (coding : List Char) : Decidable (SaysChunked coding) :=
  inferInstanceAs (Decidable (_ = _))

/-- "chunked" in any letter case, with any blanks around it. -/
def LooselyChunked (coding : List Char) : Prop := SaysChunked (trim isBlank coding)

def Denotes (length : List Char) (n : Nat) : Prop :=
  (∀ c ∈ length, c.isDigit) ∧ n = Text.ofDigits (length.map fun d => d.toNat - 48)

def LoneCoding (IsChunks : List Char → Prop) (block : Bytes) : Prop :=
  ∃ coding, Head.values block "transfer-encoding" = [coding] ∧ IsChunks coding

def LoneLength (block : Bytes) (n : Nat) : Prop :=
  (Head.values block "content-length" = [] ∧ n = 0) ∨
    ∃ length, Head.values block "content-length" ≠ [] ∧
      (∀ other ∈ Head.values block "content-length", other = length) ∧ Denotes length n

/-- This is the framing that a block declares, if chunks are the codings of a sort. -/
structure Declares (IsChunks : List Char → Prop) (block : Bytes) (framing : Except Fault Framing) :
    Prop where
  chunked : framing = .ok .chunked ↔
    LoneCoding IsChunks block ∧ Head.values block "content-length" = []
  sized (n : Nat) : framing = .ok (.sized n) ↔
    Head.values block "transfer-encoding" = [] ∧ LoneLength block n
  refused (fault : Fault) (h : framing = .error fault) : ∃ why, fault = .refused why ∧
    (Head.values block "transfer-encoding" ≠ [] → ¬ LoneCoding IsChunks block →
      why.problem.status = 501) ∧
    (Head.values block "transfer-encoding" = [] ∨ LoneCoding IsChunks block →
      why.problem.status = 400)

variable {IsChunks IsChunks' : List Char → Prop} {block : Bytes} {n m : Nat} {request : Request}

theorem LoneCoding.ne_nil (h : LoneCoding IsChunks block) :
    Head.values block "transfer-encoding" ≠ [] := by
  obtain ⟨coding, hc, -⟩ := h
  simp [hc]

theorem loneCoding_iff {coding : List Char} (hc : Head.values block "transfer-encoding" = [coding]) :
    LoneCoding IsChunks block ↔ IsChunks coding := by
  simp [LoneCoding, hc]

theorem LoneLength.unique (h : LoneLength block n) (h' : LoneLength block m) : n = m := by
  rcases h with ⟨hn, rfl⟩ | ⟨v, hne, hv, -, rfl⟩ <;> rcases h' with ⟨hn', rfl⟩ | ⟨w, hne', hw, -, rfl⟩
  · rfl
  · exact absurd hn hne'
  · exact absurd hn' hne
  · obtain ⟨u, rest, hu⟩ := List.exists_cons_of_ne_nil hne
    rw [← hv u (hu ▸ List.mem_cons_self), ← hw u (hu ▸ List.mem_cons_self)]

theorem declares_chunked (hc : LoneCoding IsChunks block)
    (hl : Head.values block "content-length" = []) : Declares IsChunks block (.ok .chunked) where
  chunked := ⟨fun _ => ⟨hc, hl⟩, fun _ => rfl⟩
  sized n := by simp [hc.ne_nil]
  refused fault h := by cases h

theorem declares_sized (hc : Head.values block "transfer-encoding" = []) (hl : LoneLength block n) :
    Declares IsChunks block (.ok (.sized n)) where
  chunked := by simp [LoneCoding, hc]
  sized m := by
    constructor
    · intro h
      cases h
      exact ⟨hc, hl⟩
    · intro he
      obtain ⟨-, hm⟩ := he
      rw [hl.unique hm]
  refused fault h := by cases h

/-- What is refused is declared neither as chunks nor as a length. -/
theorem declares_refused {why : Refusal}
    (hc : LoneCoding IsChunks block → Head.values block "content-length" ≠ [])
    (hl : Head.values block "transfer-encoding" = [] → ∀ n, ¬ LoneLength block n)
    (hunsupported : Head.values block "transfer-encoding" ≠ [] → ¬ LoneCoding IsChunks block →
      why.problem.status = 501)
    (hother : Head.values block "transfer-encoding" = [] ∨ LoneCoding IsChunks block →
      why.problem.status = 400) : Declares IsChunks block (.error (.refused why)) where
  chunked := by
    simp only [reduceCtorEq, false_iff, not_and]
    exact hc
  sized n := by
    simp only [reduceCtorEq, false_iff, not_and]
    exact fun h => hl h n
  refused fault h := by
    cases h
    exact ⟨why, rfl, hunsupported, hother⟩

/-- A declared length of ASCII digits is the number that it denotes, and any other one is refused. -/
theorem readLength_eq {length : List Char} (hl : length.length ≤ Text.digitLimit) :
    ((∀ c ∈ length, c.isDigit) ∧ readLength (String.ofList length) =
        .ok (Text.ofDigits (length.map fun d => d.toNat - 48))) ∨
      (¬ (∀ c ∈ length, c.isDigit) ∧ readLength (String.ofList length) =
        .error (.refused (.malformedLength (String.ofList length)))) := by
  unfold readLength
  simp only [String.toList_ofList]
  by_cases hd : length.all Char.isDigit
  · refine .inl ⟨List.all_eq_true.mp hd, ?_⟩
    by_cases hn : length = []
    · subst hn
      rfl
    · rw [if_neg (by simpa using hn), if_neg (by simp [hd]), if_neg (Nat.not_lt.mpr hl)]
  · refine .inr ⟨fun h => hd (List.all_eq_true.mpr h), ?_⟩
    have hn : length ≠ [] := by
      intro he
      subst he
      exact hd rfl
    rw [if_neg (by simpa using hn), if_pos (by simpa using hd)]

/-- Codings that are joined are never chunks, since the comma between them stays. -/
theorem chunked_of_joined {codings : List (List Char)} (hne : codings ≠ [])
    (hlatin : ∀ coding ∈ codings, Below 256 coding) :
    lower (trim isBlank (joinWith [',', ' '] codings)) = "chunked".toList ↔
      ∃ coding, codings = [coding] ∧ LooselyChunked coding := by
  have hjoined : Below 256 (trim isBlank (joinWith [',', ' '] codings)) :=
    fun c hc => Text.below_joinWith (by decide) hlatin c (Text.mem_of_trim hc)
  rw [Text.lower_eq_iff hjoined (by decide)]
  match codings, hne with
  | [coding], _ =>
    constructor
    · exact fun h => ⟨coding, rfl, h⟩
    · intro he
      obtain ⟨_, hc, h⟩ := he
      cases hc
      exact h
  | first :: second :: rest, _ =>
    constructor
    · intro h
      have hcomma : ',' ∈ joinWith [',', ' '] (first :: second :: rest) := by
        rw [Text.joinWith_cons _ _ (List.cons_ne_nil _ _)]
        simp
      have hkept : ',' ∈ trim isBlank (joinWith [',', ' '] (first :: second :: rest)) :=
        Text.mem_trim hcomma (by decide)
      have hmem := List.mem_map_of_mem (f := Char.toLower) hkept
      rw [h] at hmem
      exact absurd hmem (by decide)
    · intro he
      obtain ⟨_, hc, -⟩ := he
      cases hc

theorem isBlank_of_chunked {coding : List Char} (h : SaysChunked coding) {c : Char} (hc : c ∈ coding) :
    isBlank c = false := by
  have hmem := List.mem_map_of_mem (f := Char.toLower) hc
  rw [h] at hmem
  have hletter : "chunked".toList.all fun d => 97 ≤ d.toNat ∧ d.toNat ≤ 122 := by decide
  have hd := of_decide_eq_true (List.all_eq_true.mp hletter _ hmem)
  rw [Text.toNat_toLower] at hd
  have hrange : 65 ≤ c.toNat ∧ c.toNat < 123 := by
    split at hd <;> omega
  have hall : ∀ n < 123, 65 ≤ n → Text.blanks.contains n = false := by decide
  exact hall c.toNat hrange.2 hrange.1

theorem Declares.congr {framing : Except Fault Framing} (h : Declares IsChunks block framing)
    (hi : LoneCoding IsChunks block ↔ LoneCoding IsChunks' block) :
    Declares IsChunks' block framing := by
  refine ⟨?_, h.sized, ?_⟩
  · rw [← hi]
    exact h.chunked
  · rw [← hi]
    exact h.refused

/-- Without codings the lengths decide. -/
theorem declares_length (h : Head.read block = .ok request)
    (hl : ∀ length ∈ Head.values block "content-length", length.length ≤ Text.digitLimit)
    (hc : Head.values block "transfer-encoding" = []) :
    Declares IsChunks block (ofHeaders request.headers) := by
  have hcoding : request.headers.find? "transfer-encoding" = none := by
    rw [Head.find?_of_read h (by decide), hc]
    rfl
  obtain ⟨hnone, hsome⟩ := Head.agreed_of_read h
  unfold ofHeaders
  rw [hcoding]
  dsimp only
  cases hv : Head.values block "content-length" with
  | nil =>
    rw [hnone hv]
    exact declares_sized hc (.inl ⟨hv, rfl⟩)
  | cons length rest =>
    have hmem : length ∈ Head.values block "content-length" := hv ▸ List.mem_cons_self
    have hne : Head.values block "content-length" ≠ [] := List.ne_nil_of_mem hmem
    have hsame : ∀ other ∈ Head.values block "content-length", other = length := by
      intro other ho
      have he := (hsome other ho).symm.trans (hsome length hmem)
      exact String.ofList_injective (Option.some.inj he)
    rw [hsome length hmem]
    rcases readLength_eq (hl length hmem) with ⟨hd, hr⟩ | ⟨hd, hr⟩
    · simp only [Option.getD_some, hr]
      exact declares_sized hc (.inr ⟨length, hne, hsame, hd, rfl⟩)
    · simp only [Option.getD_some, hr]
      refine declares_refused (fun hlone => absurd hc hlone.ne_nil) (fun _ n hn => ?_)
        (fun hc' => absurd hc hc') fun _ => rfl
      rcases hn with ⟨hnil, -⟩ | ⟨other, -, ho, hdenotes, -⟩
      · exact hne hnil
      · rw [← ho length hmem] at hdenotes
        exact hd hdenotes

/-- Codings come before lengths: they must be the one that is supported, and stand alone. -/
theorem declares_coding (h : Head.read block = .ok request)
    (hc : Head.values block "transfer-encoding" ≠ []) :
    Declares LooselyChunked block (ofHeaders request.headers) := by
  have hcoding : request.headers.find? "transfer-encoding" =
      some (String.ofList (joinWith [',', ' '] (Head.values block "transfer-encoding"))) := by
    rw [Head.find?_of_read h (by decide), Head.joined?, if_neg hc]
  have hlone : lower (trim isBlank (joinWith [',', ' '] (Head.values block "transfer-encoding"))) =
      "chunked".toList ↔ LoneCoding LooselyChunked block :=
    chunked_of_joined hc fun _ hv => Head.latin_values hv
  obtain ⟨hnone, hsome⟩ := Head.agreed_of_read h
  unfold ofHeaders
  rw [hcoding]
  simp only [String.toList_ofList]
  by_cases hchunked : LoneCoding LooselyChunked block
  · rw [if_neg fun hn => hn (hlone.mpr hchunked)]
    cases hv : Head.values block "content-length" with
    | nil =>
      rw [if_neg (by simp [Fields.has, hnone hv])]
      exact declares_chunked hchunked hv
    | cons length rest =>
      have hmem : length ∈ Head.values block "content-length" := hv ▸ List.mem_cons_self
      rw [if_pos (by simp [Fields.has, hsome length hmem])]
      exact declares_refused (fun _ => List.ne_nil_of_mem hmem) (fun hn => absurd hn hc)
        (fun _ hn => absurd hchunked hn) fun _ => rfl
  · rw [if_pos fun he => hchunked (hlone.mp he)]
    exact declares_refused (fun hn => absurd hn hchunked) (fun hn => absurd hn hc) (fun _ _ => rfl)
      fun ho => ho.elim (fun hn => absurd hn hc) fun hn => absurd hn hchunked

theorem LooselyChunked.of_saysChunked {coding : List Char} (h : SaysChunked coding) :
    LooselyChunked coding := by
  rwa [LooselyChunked, Text.trim_self fun _ hc => isBlank_of_chunked h hc]

/-- Where a framing is declared with and without blanks around its coding, none are there. -/
theorem Declares.saysChunked {framing : Except Fault Framing} {coding : List Char}
    (hl : Declares LooselyChunked block framing) (h : Declares SaysChunked block framing)
    (hc : Head.values block "transfer-encoding" = [coding]) (hs : LooselyChunked coding) :
    SaysChunked coding := by
  have hlone : LoneCoding SaysChunked block → SaysChunked coding := (loneCoding_iff hc).mp
  rcases framing with fault | _ | n
  · refine hlone (Classical.byContradiction fun hno => ?_)
    obtain ⟨why, rfl, -, hstatus⟩ := hl.refused fault rfl
    obtain ⟨_, hwhy, hstatus', -⟩ := h.refused _ rfl
    cases hwhy
    have h400 := hstatus (.inr ((loneCoding_iff hc).mpr hs))
    rw [hstatus' (by simp [hc]) hno] at h400
    cases h400
  · exact hlone (h.chunked.mp rfl).1
  · have hnil := ((hl.sized n).mp rfl).1
    rw [hc] at hnil
    cases hnil

/-- A request is framed as the header lines of its head declare, if a coding counts as chunks with any
blanks around it. With no padding but spaces and tabs it does so exactly if no lone coding has other
blanks around it. -/
theorem framing_declared (h : Head.read block = .ok request)
    (hl : ∀ length ∈ Head.values block "content-length", length.length ≤ Text.digitLimit) :
    Declares LooselyChunked block (ofHeaders request.headers) ∧
      (Declares SaysChunked block (ofHeaders request.headers) ↔
        ∀ coding, Head.values block "transfer-encoding" = [coding] →
          LooselyChunked coding → SaysChunked coding) := by
  have hd : Declares LooselyChunked block (ofHeaders request.headers) := by
    by_cases hc : Head.values block "transfer-encoding" = []
    · exact declares_length h hl hc
    · exact declares_coding h hc
  refine ⟨hd, fun hs coding hc => hd.saysChunked hs hc, ?_⟩
  intro hall
  refine hd.congr ⟨?_, ?_⟩
  · intro he
    obtain ⟨coding, hc, hs⟩ := he
    exact ⟨coding, hc, hall coding hc hs⟩
  · intro he
    obtain ⟨coding, hc, hs⟩ := he
    exact ⟨coding, hc, .of_saysChunked hs⟩

/-- Two lines that declare the same length. -/
theorem framing_declared_twice :
    let block := Bytes.ofString "POST / HTTP/1.1\r\nHost: a\r\ncontent-length: 5\r\nContent-Length: 5"
    let headers : Fields := { entries := [("host", "a"), ("content-length", "5")] }
    let request : Request := { method := "POST", path := "/", version := "HTTP/1.1", headers }
    Head.read block = .ok request ∧
      (∀ length ∈ Head.values block "content-length", length.length ≤ Text.digitLimit) ∧
        Declares SaysChunked block (ofHeaders headers) := by
  intro block headers request
  have hr : Head.read block = .ok request := rfl
  have hl : ∀ length ∈ Head.values block "content-length", length.length ≤ Text.digitLimit := by
    decide +kernel
  have hc : Head.values block "transfer-encoding" = [] := by decide +kernel
  refine ⟨hr, hl, (framing_declared hr hl).2.mpr fun coding hcoding => ?_⟩
  rw [hc] at hcoding
  cases hcoding

/-- A vertical tab in front of its coding does not keep a request from being read as chunks. -/
theorem framing_not_declared :
    let block := Bytes.ofString "POST / HTTP/1.1\r\nHost: a\r\nTransfer-Encoding: \x0bchunked"
    let headers : Fields := { entries := [("host", "a"), ("transfer-encoding", "\x0bchunked")] }
    let request : Request := { method := "POST", path := "/", version := "HTTP/1.1", headers }
    Head.read block = .ok request ∧
      (∀ length ∈ Head.values block "content-length", length.length ≤ Text.digitLimit) ∧
        ¬ Declares SaysChunked block (ofHeaders headers) := by
  intro block headers request
  refine ⟨rfl, by decide +kernel, fun h => ?_⟩
  obtain ⟨⟨coding, hc, hs⟩, -⟩ := h.chunked.mp rfl
  have hcoding : Head.values block "transfer-encoding" = ["\x0bchunked".toList] := by decide +kernel
  rw [hcoding] at hc
  cases hc
  exact absurd hs (by decide +kernel)

end Framing

end FixedReply.Http
